import SurveyIntake.Json.Reader

/-!
# SurveyIntake.Submission

Submissions: who answers, and the answers.

Either part has two names, `identity` or `email` and `answers` or `properties`.

* `Submission.read` — reads a document in which a part stands once, under either of its names, or an
  array of the two parts.
-/

namespace SurveyIntake

structure Submission where
  identity : String
  answers : Json
  deriving DecidableEq

namespace Submission

open Json (Read)
open Json.Reader

/-- A submission as far as it has been read. -/
structure Draft where
  identity : Option String
  answers : Option Json

def Draft.finish (d : Draft) : Except Json.ReadError Submission :=
  match required "identity" d.identity with
  | .error e => .error e
  | .ok identity =>
    match required "answers" d.answers with
    | .error e => .error e
    | .ok answers => .ok ⟨identity, answers⟩

def Draft.member (answers : List Char → Read Json) (d : Draft) (key : String) (s : List Char) :
    Read Draft :=
  if key = "identity" ∨ key = "email" then
    match once "identity" string d.identity s with
    | .error e => .error e
    | .ok (x, s) => .ok ({ d with identity := some x }, s)
  else if key = "answers" ∨ key = "properties" then
    match once "answers" answers d.answers s with
    | .error e => .error e
    | .ok (x, s) => .ok ({ d with answers := some x }, s)
  else
    match memberValue skip s with
    | .error e => .error e
    | .ok ((), s) => .ok (d, s)

def readObject (answers : List Char → Read Json) (s : List Char) : Read Submission :=
  match members ⟨none, none⟩ (Draft.member answers) s with
  | .error e => .error e
  | .ok (d, s) =>
    match d.finish with
    | .error e => .error e
    | .ok x => .ok (x, s)

/-- The error of an array that ends before the element of this index. -/
def tooShort (length : Nat) : Json.ReadError :=
  .mismatch (.wrongLength length "struct Submission with 2 elements")

def readArray (answers : List Char → Read Json) (s : List Char) : Read Submission :=
  match field? string true s with
  | .error e => .error e
  | .ok (none, _) => .error (tooShort 0)
  | .ok (some identity, s) =>
    match field? answers false s with
    | .error e => .error e
    | .ok (none, _) => .error (tooShort 1)
    | .ok (some answers, s) => .ok (⟨identity, answers⟩, s)

/-- A submission whose answers nest `depth` levels at most. -/
def read (depth : Nat) (s : List Char) : Read Submission :=
  record "struct Submission" (readObject (value depth)) (readArray (value depth)) s

def ofJsonText (text : String) : Except Json.ReadError Submission :=
  document (read (maxDepth - 1)) text

end Submission
end SurveyIntake
