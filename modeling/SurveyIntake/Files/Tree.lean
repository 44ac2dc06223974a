import SurveyIntake.Files.Path
import SurveyIntake.Store.Basic

/-!
# SurveyIntake.Files.Tree

A tree of files.

* `Files`                   — what is at each place, and the place that relative paths start from.
* `Files.locate`            — the place of a path: all directories on the way there have to exist.
* `Files.text?`             — the content of a file, if it is text.
* `Files.namesIn`           — the names in a directory, in ascending order.
* `Files.createDirectories` — makes the directories that are missing on the way of a path.

A database is a file whose content is a store.
-/

namespace SurveyIntake

/-- The names on the way from the root to a file. -/
abbrev Place := List String

/-- The length of the path of names after slashes, in bytes. -/
def Place.size (place : Place) : Nat := place.foldr (fun n size => n.utf8ByteSize + 1 + size) 0

instance : Trans (α := Place) (· < ·) (· < ·) (· < ·) where
  trans := List.lt_trans

instance : Std.Trichotomous (α := Place) (· < ·) where
  trichotomous := fun _ _ h h' => List.le_antisymm h' h

inductive Node where
  | directory
  | file (content : ByteArray)
  | database (store : Store)

structure Files where
  start : Place
  nodes : Table Place Node

namespace Files

/-- Nothing but a root directory. -/
def empty : Files := ⟨[], .empty⟩

instance : Inhabited Files := ⟨empty⟩

/-! ## Places -/

def node? (files : Files) (place : Place) : Option Node :=
  match place with
  | [] => some .directory
  | place => files.nodes.find? place

def insert (place : Place) (node : Node) (files : Files) : Files :=
  { files with nodes := files.nodes.insert place node }

def isDirectoryAt (files : Files) (place : Place) : Bool :=
  match files.node? place with
  | some .directory => true
  | _ => false

/-- The place that a path starts from. -/
def origin (files : Files) (p : Path) : Place := if p.isAbsolute then [] else files.start

/-- Takes steps from a place. Each step starts from a directory. -/
def follow (files : Files) : Place → List Path.Step → Option Place
  | place, [] => some place
  | place, .up :: rest => if files.isDirectoryAt place then follow files place.dropLast rest else none
  | place, .name n :: rest =>
    if files.isDirectoryAt place && Path.isName n then follow files (place ++ [n]) rest else none

/-- The place of a path. -/
def locate (files : Files) (p : Path) : Option Place :=
  if p.text = "" ∨ !p.isUsable then none
  else
    match files.follow (files.origin p) p.steps with
    | none => none
    | some place => if p.toDirectory && !files.isDirectoryAt place then none else some place

/-! ## Reading -/

def get? (files : Files) (p : Path) : Option Node := (files.locate p).bind files.node?

def contains (files : Files) (p : Path) : Bool := (files.get? p).isSome

/-- The content of a file, if it is text. -/
def text? (files : Files) (p : Path) : Option String :=
  match files.get? p with
  | some (.file content) => String.fromUTF8? content
  | _ => none

/-- The last name of a place in the directory. -/
def nameIn (directory place : Place) : Option String :=
  if place.dropLast = directory then place.getLast? else none

/-- The names in the directory at a path, if there is one. -/
def namesIn (files : Files) (p : Path) : Option (List String) :=
  match files.locate p with
  | none => none
  | some place =>
    if files.isDirectoryAt place then some (files.nodes.keys.filterMap (nameIn place)) else none

/-- Whether there is something at a path that is no directory. -/
def isFile (files : Files) (p : Path) : Bool :=
  match files.get? p with
  | some .directory => false
  | some _ => true
  | none => false

/-! ## Directories -/

/-- Makes the directories on the way from a place, and tells whether it leads to its end. A file on
the way is an obstacle; the directories before it are made. -/
def makeWay (files : Files) : Place → List Path.Step → Bool × Files
  | _, [] => (true, files)
  | place, .up :: rest => makeWay files place.dropLast rest
  | place, .name n :: rest =>
    if Path.isName n then
      match files.node? (place ++ [n]) with
      | some .directory => makeWay files (place ++ [n]) rest
      | some _ => (false, files)
      | none => makeWay (files.insert (place ++ [n]) .directory) (place ++ [n]) rest
    else (false, files)

def createDirectories (p : Path) (files : Files) : Bool × Files :=
  if p.isUsable then files.makeWay (files.origin p) p.steps else (false, files)

/-- Makes the directories that the last step of a path starts from. -/
def createParents (p : Path) (files : Files) : Bool × Files := files.createDirectories p.parent

end Files
end SurveyIntake
