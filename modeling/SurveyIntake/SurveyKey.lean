import SurveyIntake.Json.Reader

/-!
# SurveyIntake.SurveyKey

Addresses of surveys: the name of an account, a point, and the name of one of its surveys.

* `SurveyKey`       — two names, each a run of ASCII letters, digits, `-` and `_` that is not empty.
* `SurveyKey.make`  — a key of two names.
* `SurveyKey.parse` — a key of its text. Text is split at the first point.
* `SurveyKey.text`  — the text of a key.

Keys are ordered by account first. Their texts are not in this order, since `-` comes before the point.
-/

namespace SurveyIntake

def isNameChar (c : Char) : Bool := c.isAlphanum || c == '-' || c == '_'

/-- A run of name characters that is not empty. -/
def IsName (s : String) : Prop := s.toList ≠ [] ∧ s.toList.all isNameChar = true

instance (s : String) : Decidable (IsName s) := inferInstanceAs (Decidable (_ ∧ _))

structure SurveyKey where
  adminName : String
  surveyName : String
  adminName_isName : IsName adminName
  surveyName_isName : IsName surveyName
  deriving DecidableEq

inductive KeyPart where
  | admin
  | survey
  deriving DecidableEq

def KeyPart.label : KeyPart → String
  | .admin => "admin name"
  | .survey => "survey name"

inductive KeyError where
  | noPoint (text : String)
  | empty (part : KeyPart)
  | unexpected (part : KeyPart) (name : String) (c : Char)
  deriving DecidableEq

def KeyError.message : KeyError → String
  | .noPoint text =>
    "Invalid survey key '" ++ text ++ "': expected <admin_name>.<survey_name>"
  | .empty part => "Invalid " ++ part.label ++ ": empty"
  | .unexpected part name c =>
    "Invalid " ++ part.label ++ " '" ++ name ++ "': unexpected character '" ++ c.toString ++ "'"

namespace SurveyKey

/-- What is wrong with a name, if anything is. -/
def nameFault? (part : KeyPart) (name : String) : Option KeyError :=
  if name.toList = [] then some (.empty part)
  else (name.toList.find? fun c => !isNameChar c).map (.unexpected part name)

theorem nameFault?_eq_none_iff {part : KeyPart} {name : String} :
    nameFault? part name = none ↔ IsName name := by
  unfold nameFault? IsName
  split <;> simp_all

/-- The key of two names. A fault of the first is reported before one of the second. -/
def make (adminName surveyName : String) : Except KeyError SurveyKey :=
  match ha : nameFault? .admin adminName with
  | some e => .error e
  | none =>
    match hs : nameFault? .survey surveyName with
    | some e => .error e
    | none => .ok ⟨adminName, surveyName, nameFault?_eq_none_iff.1 ha, nameFault?_eq_none_iff.1 hs⟩

def parse (text : String) : Except KeyError SurveyKey :=
  let first := text.toList.takeWhile (· != '.')
  match text.toList.drop first.length with
  | [] => .error (.noPoint text)
  | _ :: second => make (String.ofList first) (String.ofList second)

def text (key : SurveyKey) : String := key.adminName ++ "." ++ key.surveyName

instance : LT SurveyKey :=
  ⟨fun a b => a.adminName < b.adminName ∨ a.adminName = b.adminName ∧ a.surveyName < b.surveyName⟩

instance : DecidableLT SurveyKey := fun _ _ => inferInstanceAs (Decidable (_ ∨ _))

instance : Trans (α := SurveyKey) (· < ·) (· < ·) (· < ·) where
  trans := by
    rintro a b c (h | ⟨e, h⟩) (h' | ⟨e', h'⟩)
    · exact .inl (String.lt_trans h h')
    · exact .inl (e' ▸ h)
    · exact .inl (e ▸ h')
    · exact .inr ⟨e.trans e', String.lt_trans h h'⟩

instance : Std.Trichotomous (α := SurveyKey) (· < ·) where
  trichotomous := by
    intro a b hab hba
    have admin : a.adminName = b.adminName :=
      Std.Trichotomous.trichotomous (r := (· < ·)) _ _ (fun h => hab (.inl h)) (fun h => hba (.inl h))
    have survey : a.surveyName = b.surveyName :=
      Std.Trichotomous.trichotomous (r := (· < ·)) _ _ (fun h => hab (.inr ⟨admin, h⟩))
        (fun h => hba (.inr ⟨admin.symm, h⟩))
    cases a; cases b
    simp_all

instance : Std.Irrefl (α := SurveyKey) (· < ·) where
  irrefl := by
    rintro a (h | ⟨_, h⟩)
    · exact String.lt_irrefl _ h
    · exact String.lt_irrefl _ h

/-- A key written as a JSON string. -/
def read (s : List Char) : Json.Read SurveyKey :=
  match Json.Reader.string s with
  | .error e => .error e
  | .ok (text, rest) =>
    match parse text with
    | .error e => .error (.mismatch (.refused e.message))
    | .ok key => .ok (key, rest)

def ofJsonText (text : String) : Except Json.ReadError SurveyKey := Json.Reader.document read text

end SurveyKey
end SurveyIntake
