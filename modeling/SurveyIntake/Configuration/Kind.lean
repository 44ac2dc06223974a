import SurveyIntake.Json.Reader

/-!
# SurveyIntake.Configuration.Kind

The kinds of fields, and how a kind is written in a document: as its name, or as an object with the
name as its only key and `null` under it.
-/

namespace SurveyIntake

inductive Kind where
  | email
  | text
  | option
  | list
  | selection
  | properties
  deriving DecidableEq, Inhabited

namespace Kind

def all : List Kind := [.email, .text, .option, .list, .selection, .properties]

def name : Kind → String
  | .email => "Email"
  | .text => "Text"
  | .option => "Option"
  | .list => "List"
  | .selection => "Selection"
  | .properties => "Properties"

/-- Kinds whose answers are objects with a member for each child. -/
def isComposite : Kind → Bool
  | .selection | .properties => true
  | _ => false

def ofName? (name : String) : Option Kind := all.find? fun k => k.name == name

def ofName (name : String) : Except Json.ReadError Kind :=
  match ofName? name with
  | some k => .ok k
  | none => .error (.mismatch (.unknownVariant name (all.map Kind.name)))

/-- A kind by its name, after the quotation mark before it. -/
def readName (s : List Char) : Json.Read Kind :=
  match Json.Lexeme.stringTail s with
  | .error e => .error e
  | .ok (name, s) =>
    match ofName name with
    | .error e => .error e
    | .ok kind => .ok (kind, s)

/-- A kind as an object, after the quotation mark before its key. -/
def readMember (s : List Char) : Json.Read Kind :=
  match readName s with
  | .error e => .error e
  | .ok (kind, s) =>
    match Json.Reader.memberValue Json.Reader.unit s with
    | .error e => .error e
    | .ok ((), s) =>
      match Json.Lexeme.skipSpace s with
      | [] => .error .unfinished
      | '\x7d' :: rest => .ok (kind, rest)
      | _ => .error .malformed

def read (depth : Nat) (s : List Char) : Json.Read Kind :=
  match Json.Lexeme.skipSpace s with
  | [] => .error .unfinished
  | '\x7b' :: rest =>
    if depth = 0 then .error .malformed
    else
      match Json.Lexeme.skipSpace rest with
      | [] => .error .unfinished
      | '"' :: rest => readMember rest
      | _ => .error .malformed
  | '"' :: rest => readName rest
  | _ => .error .malformed

def ofJsonText (text : String) : Except Json.ReadError Kind :=
  Json.Reader.document (read Json.Reader.maxDepth) text

end Kind
end SurveyIntake
