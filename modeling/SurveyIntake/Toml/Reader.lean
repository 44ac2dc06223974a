import SurveyIntake.Toml.Number

/-!
# SurveyIntake.Toml.Reader

Reading TOML texts.

* `value`    — any value, arrays and inline tables nesting no deeper than allowed.
* `Document` — what has been read of a document, and the header that it has come to.
* `parse`    — the members of the table that a whole text is.
-/

namespace SurveyIntake
namespace Toml
namespace Reader

open Lexeme

/-! ## Values -/

/-- The elements of an array after its opening bracket, up to and with the closing one. -/
def elementLoop (item : List Char → Read Value) (done : List Value) :
    Nat → List Char → Read (List Value)
  | 0, _ => none
  | fuel + 1, s =>
    match skipLines false s with
    | ']' :: rest => some (done.reverse, rest)
    | s =>
      match item s with
      | none => none
      | some (x, rest) =>
        match skipLines false rest with
        | ',' :: rest => elementLoop item (x :: done) fuel rest
        | ']' :: rest => some ((x :: done).reverse, rest)
        | _ => none

def elements (item : List Char → Read Value) (s : List Char) : Read (List Value) :=
  elementLoop item [] (s.length + 1) s

/-- A key and the value after its sign of equality. -/
def member (item : List Char → Read Value) (s : List Char) :
    Read ((List String × String) × Value) :=
  match keyPath s with
  | none => none
  | some (keys, rest) =>
    match rest with
    | '=' :: rest =>
      match item (skipBlanks rest) with
      | none => none
      | some (x, rest) => some ((keys, x), rest)
    | _ => none

/-- The members of an inline table from the first on, up to and with the closing brace. -/
def memberLoop (item : List Char → Read Value) (done : Members) : Nat → List Char → Read Members
  | 0, _ => none
  | fuel + 1, s =>
    match member item s with
    | none => none
    | some (((keys, key), x), rest) =>
      match put keys key x .braces done with
      | none => none
      | some done =>
        match skipBlanks rest with
        | ',' :: rest => memberLoop item done fuel rest
        | '\x7d' :: rest => some (done, rest)
        | _ => none

/-- The members of an inline table after its opening brace. -/
def members (item : List Char → Read Value) (s : List Char) : Read Members :=
  match skipBlanks s with
  | '\x7d' :: rest => some ([], rest)
  | s => memberLoop item [] (s.length + 1) s

/-- A value that is neither array nor inline table. -/
def scalar (s : List Char) : Read Value :=
  match s with
  | '"' :: _ | '\'' :: _ =>
    match string? s with
    | none => none
    | some (x, rest) => some (.string x, rest)
  | 't' :: 'r' :: 'u' :: 'e' :: rest => some (.boolean true, rest)
  | 'f' :: 'a' :: 'l' :: 's' :: 'e' :: rest => some (.boolean false, rest)
  | s => Number.value? s

/-- How deep arrays and inline tables may nest. -/
def maxDepth : Nat := 79

/-- A value whose arrays and inline tables nest `depth` levels at most. -/
def value : Nat → List Char → Read Value
  | 0 => fun s => scalar s
  | depth + 1 => fun s =>
    match s with
    | '[' :: rest =>
      match elements (value depth) rest with
      | none => none
      | some (xs, rest) => some (.array xs, rest)
    | '\x7b' :: rest =>
      match members (value depth) rest with
      | none => none
      | some (ms, rest) => some (.table .braces ms, rest)
    | s => scalar s

/-! ## Documents -/

structure Document where
  header : List String
  root : Members

/-- A header after its opening brackets, and the text after its closing ones. -/
def header (close : List Char → Option (List Char)) (s : List Char) :
    Read (List String × String) :=
  match keyPath s with
  | none => none
  | some (keys, rest) =>
    match close rest with
    | none => none
    | some rest => some (keys, rest)

def closeOne : List Char → Option (List Char)
  | ']' :: rest => some rest
  | _ => none

def closeTwo : List Char → Option (List Char)
  | ']' :: ']' :: rest => some rest
  | _ => none

/-- The header of a table, or of a table of an array, or a member. -/
def statement (d : Document) (s : List Char) : Read Document :=
  match s with
  | '[' :: '[' :: rest =>
    match header closeTwo rest with
    | none => none
    | some ((keys, key), rest) =>
      (openNextTable keys key d.root).map fun root => (⟨keys ++ [key], root⟩, rest)
  | '[' :: rest =>
    match header closeOne rest with
    | none => none
    | some ((keys, key), rest) =>
      (openTable keys key d.root).map fun root => (⟨keys ++ [key], root⟩, rest)
  | s =>
    match member (value maxDepth) s with
    | none => none
    | some (((keys, key), x), rest) =>
      (putUnder d.header keys key x d.root).map fun root => (⟨d.header, root⟩, rest)

/-- The lines of a document. A line holds a statement, or nothing but a comment. -/
def lineLoop (d : Document) : Nat → List Char → Option Members
  | 0, _ => none
  | fuel + 1, s =>
    match skipBlanks s with
    | [] => some d.root
    | c :: rest =>
      let next :=
        if c = '#' ∨ c = '\n' ∨ c = '\r' then some (d, c :: rest) else statement d (c :: rest)
      match next with
      | none => none
      | some (d, rest) =>
        match lineEnd rest with
        | none => none
        | some rest => lineLoop d fuel rest

/-- A text without the mark of byte order that it may begin with. -/
def unmarked : List Char → List Char
  | '\ufeff' :: rest => rest
  | s => s

end Reader

/-- The members of the table that a text is. -/
def parse (text : String) : Option Members :=
  let s := Reader.unmarked text.toList
  Reader.lineLoop ⟨[], []⟩ (s.length + 1) s

end Toml
end SurveyIntake
