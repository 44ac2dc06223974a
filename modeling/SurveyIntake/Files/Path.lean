import SurveyIntake.Text.Basic

/-!
# SurveyIntake.Files.Path

Paths as texts, with slashes between their names.

* `Path.join`         — a path below another one; nothing is normalised.
* `Path.steps`        — the way that a path leads, name by name.
* `Path.parent`       — the path without its last step.
* `Path.toDirectory`  — whether what is at the end of the path has to be a directory.
* `Path.isName`       — names that a file can have.
* `Path.hasExtension` — whether a name ends with a point and an extension after at least one character.
-/

namespace SurveyIntake

structure Path where
  text : String
  deriving DecidableEq

namespace Path

inductive Step where
  | up
  | name (n : String)
  deriving DecidableEq

def isAbsolute (p : Path) : Bool := p.text.toList.head? == some '/'

/-- The text of a path below another one. An absolute path stands for itself. -/
def join (base : Path) (p : String) : Path :=
  if (Path.mk p).isAbsolute ∨ base.text = "" then ⟨p⟩
  else if base.text.toList.getLast? = some '/' then ⟨base.text ++ p⟩
  else ⟨base.text ++ "/" ++ p⟩

/-- What stands between the slashes. -/
def pieces (p : Path) : List String := (Text.split '/' p.text.toList).map String.ofList

/-- The step of a piece; an empty one and a point stay where they are. -/
def step? (piece : String) : Option Step :=
  if piece = "" ∨ piece = "." then none
  else if piece = ".." then some .up
  else some (.name piece)

def steps (p : Path) : List Step := p.pieces.filterMap step?

/-- The pieces of a path up to its last step. -/
def upToStep (pieces : List String) : List String :=
  (pieces.reverse.dropWhile fun piece => (step? piece).isNone).reverse

/-- The path that the last step starts from. That of a path of one step is empty. -/
def parent (p : Path) : Path :=
  ⟨"/".intercalate (upToStep (upToStep p.pieces).dropLast)⟩

def toDirectory (p : Path) : Bool :=
  match p.pieces.getLast? with
  | some piece => piece == "" || piece == "." || piece == ".."
  | none => true

/-- The longest path that leads anywhere, in bytes. -/
def maxSize : Nat := 4095

/-- Whether a path can lead anywhere at all. -/
def isUsable (p : Path) : Bool :=
  decide (p.text.utf8ByteSize ≤ maxSize) && !p.text.toList.contains '\x00'

/-- The longest name of a file, in bytes. -/
def maxNameSize : Nat := 255

def isName (n : String) : Bool :=
  decide (n.utf8ByteSize ≤ maxNameSize) && !n.toList.contains '\x00' && !n.toList.contains '/'

def hasExtension (extension : String) (n : String) : Bool :=
  let tail := '.' :: extension.toList
  tail.isSuffixOf n.toList && decide (tail.length < n.toList.length)

end Path
end SurveyIntake
