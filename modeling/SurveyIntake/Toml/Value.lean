import SurveyIntake.Assoc

/-!
# SurveyIntake.Toml.Value

Values of TOML documents, and how tables come together from lines.

* `Origin`   — what has made a table, which decides who may add to it.
* `Value`    — numbers with a fraction and dates are kept as they are written.
* `within`   — changes the table that keys lead to, and makes those on the way that are missing.
* `put`      — puts a value under a key with points in it.
* `openTable`, `openNextTable` — a table, or another table of an array of tables, that a header begins.
* `putUnder` — puts a value into the table that a header has begun.

A key is given once. An inline table is closed after its brace. A table that keys with points have made
gets its keys in this way only, and one that a header has made gets none in this way.
-/

namespace SurveyIntake
namespace Toml

inductive Origin where
  /-- A header of its own. -/
  | header
  /-- A longer header. -/
  | implied
  /-- A key with points. -/
  | dotted
  /-- A pair of braces. -/
  | braces
  deriving DecidableEq

inductive Value where
  | string (s : String)
  | integer (i : Int)
  | real (written : String)
  | boolean (b : Bool)
  | dateTime (written : String)
  | array (items : List Value)
  | table (origin : Origin) (members : List (String × Value))
  /-- An array of tables: those that are complete, and the latest one. -/
  | tables (complete : List (List (String × Value))) (latest : List (String × Value))

instance : Inhabited Value := ⟨.boolean false⟩

abbrev Members := List (String × Value)

/-- Whether a way that makes tables of one origin may pass a table of another. -/
def Origin.passes : Origin → Origin → Bool
  | .dotted, found => found == .implied || found == .dotted
  | _, found => found != .braces

def within (made : Origin) (change : Origin → Members → Option Members) :
    List String → Origin → Members → Option Members
  | [], origin, members => change origin members
  | key :: keys, _, members =>
    match Assoc.find? key members with
    | none =>
      match within made change keys made [] with
      | none => none
      | some inner => some (Assoc.insert key (.table made inner) members)
    | some (.table origin inner) =>
      if made.passes origin then
        match within made change keys origin inner with
        | none => none
        | some inner => some (Assoc.insert key (.table origin inner) members)
      else none
    | some (.tables complete latest) =>
      match within made change keys .header latest with
      | none => none
      | some latest => some (Assoc.insert key (.tables complete latest) members)
    | some _ => none

/-- Adds a member, where the way to the table has led through points or has not. -/
def add (points : Bool) (key : String) (v : Value) (origin : Origin) (members : Members) :
    Option Members :=
  if (origin == .dotted) != points ∨ Assoc.contains key members then none
  else some (Assoc.insert key v members)

def put (keys : List String) (key : String) (v : Value) (origin : Origin) (members : Members) :
    Option Members :=
  within .dotted (add (!keys.isEmpty) key v) keys origin members

/-- Begins a table, or takes over one that a longer header has made. -/
def openLast (key : String) (_ : Origin) (members : Members) : Option Members :=
  match Assoc.find? key members with
  | none => some (Assoc.insert key (.table .header []) members)
  | some (.table .implied inner) => some (Assoc.insert key (.table .header inner) members)
  | some _ => none

def openNextLast (key : String) (_ : Origin) (members : Members) : Option Members :=
  match Assoc.find? key members with
  | none => some (Assoc.insert key (.tables [] []) members)
  | some (.tables complete latest) =>
    some (Assoc.insert key (.tables (complete ++ [latest]) []) members)
  | some _ => none

def openTable (keys : List String) (key : String) (root : Members) : Option Members :=
  within .implied (openLast key) keys .header root

def openNextTable (keys : List String) (key : String) (root : Members) : Option Members :=
  within .implied (openNextLast key) keys .header root

/-- Puts a value into the table that a header has begun. -/
def putUnder (header keys : List String) (key : String) (v : Value) (root : Members) :
    Option Members :=
  within .implied (put keys key v) header .header root

end Toml
end SurveyIntake
