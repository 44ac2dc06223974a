import SurveyIntake.Form.Rule
import SurveyIntake.SurveyKey

/-!
# SurveyIntake.Form.Basic

Forms: what answers are checked against.

* `Item` — a field with its place, its rules and its children.
* `Form` — the key of a survey, the pattern of its respondents' identities and its items.
* `Form.listing` — a form in words: its key, its pattern of identities, and an item on each line with its
  path, its kind and its rules, two columns deeper at each level.

An item is addressed by the positions of its ancestors and its own, counted from 1, with points between
them.
-/

namespace SurveyIntake

structure Item where
  position : Nat
  path : String
  kind : Kind
  rules : List Rule
  children : List Item

instance : Inhabited Item := ⟨⟨0, "", default, [], []⟩⟩

/-- The key of the item's answer among those of its siblings. -/
def Item.key (i : Item) : String := toString i.position

/-- The path of a member, at the top or below a path. -/
def memberPath (parent : Option String) (key : String) : String :=
  match parent with
  | some p => p ++ "." ++ key
  | none => key

structure Form where
  key : SurveyKey
  identity : Pattern
  items : List Item

/-! ## Listings -/

/-- A text with spaces after it up to a width. -/
def padRight (width : Nat) (s : String) : String :=
  s ++ String.ofList (List.replicate (width - s.length) ' ')

def Item.line (level : Nat) (i : Item) : String :=
  String.ofList (List.replicate (2 * level) ' ') ++ padRight 8 i.path ++ " " ++
    padRight 10 i.kind.name ++ " " ++ " ".intercalate (i.rules.map Rule.text) ++ "\n"

mutual

def Item.listing (level : Nat) : Item → String
  | i@⟨_, _, _, _, children⟩ => i.line level ++ itemListings (level + 1) children

def itemListings (level : Nat) : List Item → String
  | [] => ""
  | i :: rest => i.listing level ++ itemListings level rest

end

def Form.listing (f : Form) : String :=
  f.key.text ++ "\n  identity: " ++ f.identity.source ++ "\n" ++ itemListings 1 f.items

end SurveyIntake
