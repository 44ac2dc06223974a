import SurveyIntake.Configuration.Kind
import SurveyIntake.SurveyKey

/-!
# SurveyIntake.Configuration.Basic

Configurations: what an account asks in a survey.

* `Field`         — a question, with its constraints by name and, for a composite kind, its children.
* `Configuration` — the names of a survey, the pattern of its respondents' identities and its fields.
* `Field.withConstraint`, `Field.withChild` — fields made step by step.
-/

namespace SurveyIntake

structure Field where
  kind : Kind
  title : Option String
  description : Option String
  children : List Field
  constraints : Table String Json

structure Configuration where
  adminName : String
  surveyName : String
  title : Option String
  identityPattern : Option String
  fields : List Field

deriving instance DecidableEq for Table

namespace Field

/-- A field of a kind, without anything else. -/
def ofKind (kind : Kind) : Field := ⟨kind, none, none, [], .empty⟩

instance : Inhabited Field := ⟨ofKind default⟩

def withConstraint (f : Field) (name : String) (value : Json) : Field :=
  { f with constraints := f.constraints.insert name value }

/-- Adds a child after those that are there. -/
def withChild (f child : Field) : Field := { f with children := f.children ++ [child] }

def withTitle (f : Field) (title : String) : Field := { f with title := some title }

/-- The children with their positions, counted from 1. -/
def numberedChildren (f : Field) : List (Nat × Field) := f.children.zipIdx.map fun p => (p.2 + 1, p.1)

mutual

def decEq : (a b : Field) → Decidable (a = b)
  | ⟨k, t, d, cs, ps⟩, ⟨l, u, e, ds, qs⟩ =>
    if h : k = l ∧ t = u ∧ d = e ∧ ps = qs then
      match decEqList cs ds with
      | isTrue hs => isTrue (by rw [h.1, h.2.1, h.2.2.1, h.2.2.2, hs])
      | isFalse hs => isFalse (by simp [hs])
    else isFalse (by simp only [Field.mk.injEq]; exact fun g => h ⟨g.1, g.2.1, g.2.2.1, g.2.2.2.2⟩)

def decEqList : (as bs : List Field) → Decidable (as = bs)
  | [], [] => isTrue rfl
  | a :: as, b :: bs =>
    match decEq a b, decEqList as bs with
    | isTrue h, isTrue hs => isTrue (by rw [h, hs])
    | isFalse h, _ => isFalse (by simp [h])
    | _, isFalse hs => isFalse (by simp [hs])
  | [], _ :: _ | _ :: _, [] => isFalse (by simp)

end

instance : DecidableEq Field := decEq

end Field

deriving instance DecidableEq for Configuration

namespace Configuration

def ofNames (adminName surveyName : String) : Configuration := ⟨adminName, surveyName, none, none, []⟩

def key (c : Configuration) : Except KeyError SurveyKey := SurveyKey.make c.adminName c.surveyName

end Configuration
end SurveyIntake
