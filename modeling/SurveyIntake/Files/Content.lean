import SurveyIntake.Files.Tree
import SurveyIntake.Json.Reader

/-!
# SurveyIntake.Files.Content

The bytes of files, databases included.

* `Store.text`, `Store.ofText?` — a store as a text: a line that tells what the file is, and the rows.
* `Node.content`, `Node.ofContent` — what is in a file.
-/

namespace SurveyIntake

/-! ## Rows -/

def PendingRow.toJson (token : Token) (r : PendingRow) : Json :=
  .array [.string token.text, .string r.survey, .string r.identity, .number (.integer r.millis),
    .string r.answers]

def VerifiedRow.toJson (survey identity : String) (r : VerifiedRow) : Json :=
  .array [.string survey, .string identity, .number (.integer r.millis), .string r.answers]

/-- Puts a pending row into a store. -/
def Store.addPending? (s : Store) : Json → Option Store
  | .array [.string token, .string survey, .string identity, .number (.integer millis),
      .string answers] =>
    some { s with pending := s.pending.insert ⟨token⟩ ⟨survey, identity, millis, answers⟩ }
  | _ => none

/-- Puts a verified row into a store. -/
def Store.addVerified? (s : Store) : Json → Option Store
  | .array [.string survey, .string identity, .number (.integer millis), .string answers] =>
    some (s.upsertVerified survey identity ⟨millis, answers⟩)
  | _ => none

/-! ## Stores -/

namespace Store

def toJson (s : Store) : Json :=
  .array [.array (s.pending.entries.map fun r => r.2.toJson r.1),
    .array (s.verified.entries.flatMap fun survey =>
      survey.2.entries.map fun r => r.2.toJson survey.1 r.1)]

def ofJson? : Json → Option Store
  | .array [.array pending, .array verified] =>
    match pending.foldlM addPending? .empty with
    | none => none
    | some s => verified.foldlM addVerified? s
  | _ => none

/-- The first line of a database. -/
def heading : String := "SurveyIntake database 1\n"

def text (s : Store) : String := heading ++ s.toJson.render

def ofText? (text : String) : Option Store :=
  if heading.toList.isPrefixOf text.toList then
    match Json.parse (String.ofList (text.toList.drop heading.length)) with
    | .error _ => none
    | .ok v => ofJson? v
  else none

end Store

/-! ## Files -/

namespace Node

/-- The bytes of a file. -/
def content : Node → Option ByteArray
  | .directory => none
  | .file content => some content
  | .database s => some s.text.toUTF8

def ofContent (content : ByteArray) : Node :=
  match (String.fromUTF8? content).bind Store.ofText? with
  | some s => .database s
  | none => .file content

end Node
end SurveyIntake
