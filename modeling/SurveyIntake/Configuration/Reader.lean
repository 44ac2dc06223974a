import SurveyIntake.Configuration.Basic

/-!
# SurveyIntake.Configuration.Reader

Reading configuration documents.

A configuration and a field may be an object or an array of their parts in order. Keys that mean
nothing are skipped, except among the properties of a field, where they name constraints.
-/

namespace SurveyIntake

open Json (Read)
open Json.Reader

namespace Field

/-- The properties of a field as far as they have been read. -/
structure Properties where
  title : Option (Option String)
  description : Option (Option String)
  children : Option (List Field)
  constraints : Table String Json

def Properties.empty : Properties := ⟨none, none, none, .empty⟩

def ofProperties (kind : Kind) (p : Properties) : Field :=
  ⟨kind, p.title.join, p.description.join, p.children.getD [], p.constraints⟩

/-- Reads the member of `properties` under a key. The value of a constraint may be anything. -/
def Properties.member (children : List Char → Read (List Field)) (value : List Char → Read Json)
    (p : Properties) (key : String) (s : List Char) : Read Properties :=
  if key = "title" then
    match once "title" optionalString p.title s with
    | .error e => .error e
    | .ok (x, s) => .ok ({ p with title := some x }, s)
  else if key = "description" then
    match once "description" optionalString p.description s with
    | .error e => .error e
    | .ok (x, s) => .ok ({ p with description := some x }, s)
  else if key = "fields" then
    match once "fields" children p.children s with
    | .error e => .error e
    | .ok (x, s) => .ok ({ p with children := some x }, s)
  else
    match memberValue value s with
    | .error e => .error e
    | .ok (x, s) => .ok ({ p with constraints := p.constraints.insert key x }, s)

/-- A field as far as it has been read. -/
structure Draft where
  kind : Option Kind
  properties : Option Properties

def Draft.finish (d : Draft) : Except Json.ReadError Field :=
  match required "type" d.kind with
  | .error e => .error e
  | .ok kind => .ok (ofProperties kind (d.properties.getD .empty))

def Draft.member (kind : List Char → Read Kind) (properties : List Char → Read Properties)
    (d : Draft) (key : String) (s : List Char) : Read Draft :=
  if key = "type" then
    match once "type" kind d.kind s with
    | .error e => .error e
    | .ok (x, s) => .ok ({ d with kind := some x }, s)
  else if key = "properties" then
    match once "properties" properties d.properties s with
    | .error e => .error e
    | .ok (x, s) => .ok ({ d with properties := some x }, s)
  else
    match memberValue skip s with
    | .error e => .error e
    | .ok ((), s) => .ok (d, s)

def readObject (kind : List Char → Read Kind) (properties : List Char → Read Properties)
    (s : List Char) : Read Field :=
  match members ⟨none, none⟩ (Draft.member kind properties) s with
  | .error e => .error e
  | .ok (d, s) =>
    match d.finish with
    | .error e => .error e
    | .ok f => .ok (f, s)

def readArray (kind : List Char → Read Kind) (properties : List Char → Read Properties)
    (s : List Char) : Read Field :=
  match field? kind true s with
  | .error e => .error e
  | .ok (none, _) =>
    .error (.mismatch (.wrongLength 0 "struct FieldModel with 2 elements"))
  | .ok (some kind, s) =>
    match field? properties false s with
    | .error e => .error e
    | .ok (p, s) => .ok (ofProperties kind (p.getD .empty), s)

mutual

/-- A field that nests `depth` levels at most. -/
def read : Nat → List Char → Read Field
  | 0 => fun s => record "struct FieldModel" tooDeep tooDeep s
  | depth + 1 => fun s =>
    record "struct FieldModel" (readObject (Kind.read depth) (readProperties depth))
      (readArray (Kind.read depth) (readProperties depth)) s

def readProperties : Nat → List Char → Read Properties
  | 0 => fun s => object "struct FieldProperties" tooDeep s
  | depth + 1 => fun s =>
    object "struct FieldProperties"
      (members .empty (Properties.member (readAll depth) (value depth))) s

/-- A sequence of fields. -/
def readAll : Nat → List Char → Read (List Field)
  | 0 => fun s => sequence tooDeep s
  | depth + 1 => fun s => sequence (elements (read depth)) s

end

end Field

namespace Configuration

/-- A configuration as far as it has been read. -/
structure Draft where
  adminName : Option String
  surveyName : Option String
  title : Option (Option String)
  identityPattern : Option (Option String)
  fields : Option (List Field)

def Draft.finish (d : Draft) : Except Json.ReadError Configuration :=
  match required "admin_name" d.adminName with
  | .error e => .error e
  | .ok adminName =>
    match required "survey_name" d.surveyName with
    | .error e => .error e
    | .ok surveyName =>
      match required "fields" d.fields with
      | .error e => .error e
      | .ok fields => .ok ⟨adminName, surveyName, d.title.join, d.identityPattern.join, fields⟩

def Draft.member (fields : List Char → Read (List Field)) (d : Draft) (key : String)
    (s : List Char) : Read Draft :=
  if key = "admin_name" then
    match once "admin_name" string d.adminName s with
    | .error e => .error e
    | .ok (x, s) => .ok ({ d with adminName := some x }, s)
  else if key = "survey_name" then
    match once "survey_name" string d.surveyName s with
    | .error e => .error e
    | .ok (x, s) => .ok ({ d with surveyName := some x }, s)
  else if key = "title" then
    match once "title" optionalString d.title s with
    | .error e => .error e
    | .ok (x, s) => .ok ({ d with title := some x }, s)
  else if key = "identity_pattern" then
    match once "identity_pattern" optionalString d.identityPattern s with
    | .error e => .error e
    | .ok (x, s) => .ok ({ d with identityPattern := some x }, s)
  else if key = "fields" then
    match once "fields" fields d.fields s with
    | .error e => .error e
    | .ok (x, s) => .ok ({ d with fields := some x }, s)
  else
    match memberValue skip s with
    | .error e => .error e
    | .ok ((), s) => .ok (d, s)

def readObject (fields : List Char → Read (List Field)) (s : List Char) : Read Configuration :=
  match members ⟨none, none, none, none, none⟩ (Draft.member fields) s with
  | .error e => .error e
  | .ok (d, s) =>
    match d.finish with
    | .error e => .error e
    | .ok c => .ok (c, s)

/-- The error of an array that ends before the element of this index. -/
def tooShort (length : Nat) : Json.ReadError :=
  .mismatch (.wrongLength length "struct SurveyConfiguration with 5 elements")

def readArray (fields : List Char → Read (List Field)) (s : List Char) : Read Configuration :=
  match field? string true s with
  | .error e => .error e
  | .ok (none, _) => .error (tooShort 0)
  | .ok (some adminName, s) =>
    match field? string false s with
    | .error e => .error e
    | .ok (none, _) => .error (tooShort 1)
    | .ok (some surveyName, s) =>
      match field? optionalString false s with
      | .error e => .error e
      | .ok (title, s) =>
        match field? optionalString false s with
        | .error e => .error e
        | .ok (identityPattern, s) =>
          match field? fields false s with
          | .error e => .error e
          | .ok (none, _) => .error (tooShort 4)
          | .ok (some fields, s) =>
            .ok (⟨adminName, surveyName, title.join, identityPattern.join, fields⟩, s)

/-- A configuration whose parts nest `depth` levels at most. -/
def read (depth : Nat) (s : List Char) : Read Configuration :=
  record "struct SurveyConfiguration" (readObject (Field.readAll depth))
    (readArray (Field.readAll depth)) s

def ofJsonText (text : String) : Except Json.ReadError Configuration :=
  document (read (maxDepth - 1)) text

end Configuration
end SurveyIntake
