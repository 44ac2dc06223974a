import SurveyIntake.Files.Tree
import SurveyIntake.Text.Basic

/-!
# SurveyIntake.Files.Database

Databases in a tree of files.

* `Files.createDatabase` — opens the database at a path. What is missing is made, the directories above
  it too.
* `Files.openDatabase`   — opens a database that exists.
* `Files.store`, `Files.setStore` — what an open database holds.

The path of a database may hold escapes, `%` and two hexadecimal digits for a byte, and no question mark.
A step up leads back by one name, be there a directory of that name or not. A file without content is an
empty database.
-/

namespace SurveyIntake

/-- The bytes of a text in which escapes stand for bytes. A mark without two digits after it stands for
itself. -/
def unescapedBytes : List Char → List UInt8
  | [] => []
  | '%' :: a :: b :: rest =>
    match Text.hexDigit? a, Text.hexDigit? b with
    | some m, some n => UInt8.ofNat (16 * m + n) :: unescapedBytes rest
    | _, _ => String.utf8EncodeChar '%' ++ unescapedBytes (a :: b :: rest)
  | c :: rest => String.utf8EncodeChar c ++ unescapedBytes rest

namespace Path

/-- The path of the file that a database is in. -/
def unescaped? (p : Path) : Option Path :=
  if p.text.toList.contains '?' then none
  else (String.fromUTF8? ⟨(unescapedBytes p.text.toList).toArray⟩).map Path.mk

end Path

namespace Files

/-- The longest way to a database and to what lies on the way, in bytes. -/
def maxWay : Nat := 511

/-- What is added to the path of a database for that of its journal. -/
def journalSize : Nat := "-journal".utf8ByteSize

/-- Where steps lead that may pass names that do not exist, but no files. -/
def settle (files : Files) : Place → List Path.Step → Option Place
  | place, [] => some place
  | place, .up :: rest => settle files place.dropLast rest
  | place, .name n :: rest =>
    if Path.isName n ∧ Place.size (place ++ [n]) ≤ maxWay then
      match files.node? place with
      | some .directory | none => settle files (place ++ [n]) rest
      | some _ => none
    else none

/-- The place of the database that a path leads to. The path of its journal is not too long either. -/
def databasePlace? (files : Files) (p : Path) : Option Place :=
  match p.unescaped? with
  | none => none
  | some q =>
    match files.settle (files.origin q) q.steps with
    | none => none
    | some place => if place.size + journalSize ≤ maxWay + 1 then some place else none

/-- The size up to which a file counts as empty. -/
def emptySize : Nat := 1

/-- Whether a journal can be written beside the file at a place. -/
def hasJournal (place : Place) : Bool :=
  match place.getLast? with
  | some n => decide (n.utf8ByteSize + journalSize ≤ Path.maxNameSize)
  | none => false

/-- What opening a database comes to, and the files after it. -/
abbrev Opening := Except StoreError Place × Files

/-- Makes the file at a place a database, which takes a journal. -/
def setUp (place : Place) (content : ByteArray) (files : Files) : Opening :=
  if hasJournal place then (.ok place, files.insert place (.database .empty))
  else (.error .refused, files.insert place (.file content))

/-- Opens the database at a place; `create` allows to make it in a directory that exists. -/
def openAt (create : Bool) (place : Place) (files : Files) : Opening :=
  match files.node? place with
  | some (.database _) => (.ok place, files)
  | some (.file content) =>
    if content.size ≤ emptySize then files.setUp place content else (.error .refused, files)
  | some .directory => (.error .refused, files)
  | none =>
    if create && files.isDirectoryAt place.dropLast then files.setUp place .empty
    else (.error .refused, files)

/-- Opens the database that a path leads to. -/
def openPath (create : Bool) (p : Path) (files : Files) : Opening :=
  match files.databasePlace? p with
  | none => (.error .refused, files)
  | some place => files.openAt create place

def createDatabase (p : Path) (files : Files) : Opening :=
  match files.createParents p with
  | (false, files) => (.error .io, files)
  | (true, files) => files.openPath true p

def openDatabase (p : Path) (files : Files) : Opening :=
  if files.contains p then files.openPath false p else (.error (.notFound p.text), files)

/-- What the database at a place holds. -/
def store (files : Files) (place : Place) : Store :=
  match files.node? place with
  | some (.database s) => s
  | _ => .empty

def setStore (place : Place) (s : Store) (files : Files) : Files := files.insert place (.database s)

end Files
end SurveyIntake
