import SurveyIntake.Assoc
import SurveyIntake.Form.Basic
import SurveyIntake.Report
import SurveyIntake.Submission
import SurveyIntake.Text.Basic

/-!
# SurveyIntake.Form.Check

Checking submissions.

* `listEntries`       — the entries of a list that is typed as one text.
* `Item.check`        — what is wrong with the answer to an item.
* `Form.checkAnswers` — what is wrong with answers.
* `Form.check`        — what is wrong with a submission; nothing is, if the report is empty.

Every item has to be answered, and nothing else may be. An answer of the wrong type is reported as such
and not looked into.
-/

namespace SurveyIntake

/-- What stands between commas, without white space around it, in ascending order. Blank entries do not
count, and each entry counts once. -/
def listEntries (raw : String) : List String :=
  Assoc.keys (Assoc.ofList
    ((((Text.split ',' raw.toList).map Text.trim).filter fun s => !s.isEmpty).map fun s =>
      (String.ofList s, ())))

/-- How many selections the answers hold: options that are set, and entries of lists. -/
def countSelections (children : List Item) (members : List (String × Json)) : Nat :=
  let held (c : Item) : Nat :=
    match c.kind, Assoc.find? c.key members with
    | .option, some (.bool true) => 1
    | .list, some (.string s) => (listEntries s).length
    | _, _ => 0
  children.foldr (fun c count => held c + count) 0

def textViolations (path : String) (rules : List Rule) (s : String) : Report :=
  rules.filterMap fun r => (r.textFault? s).map (Violation.mk path)

def countViolations (path : String) (rules : List Rule) (count : Nat) : Report :=
  rules.filterMap fun r => (r.countFault? count).map (Violation.mk path)

/-- The members that no item asks for. -/
def unknownMembers (parent : Option String) (items : List Item) (members : List (String × Json)) :
    Report :=
  ((Assoc.keys members).filter fun k => !items.any fun i => i.key == k).map fun k =>
    ⟨memberPath parent k, "unknown field"⟩

mutual

def Item.check : Item → Json → Report
  | ⟨_, path, kind, rules, children⟩, value =>
    match kind, value with
    | .email, .string s | .text, .string s | .list, .string s => textViolations path rules s
    | .option, .bool _ => []
    | .selection, .object members =>
      Item.checkAll children members ++ unknownMembers (some path) children members ++
        countViolations path rules (countSelections children members)
    | .properties, .object members =>
      Item.checkAll children members ++ unknownMembers (some path) children members
    | kind, _ => [⟨path, "must be of " ++ kind.name ++ " type"⟩]

/-- What is wrong with the members that the items ask for. -/
def Item.checkAll : List Item → List (String × Json) → Report
  | [], _ => []
  | i :: is, members =>
    (match Assoc.find? i.key members with
      | some value => Item.check i value
      | none => [⟨i.path, "required field"⟩]) ++ Item.checkAll is members

end

namespace Form

def checkAnswers (f : Form) : Json → Report
  | .object members => Item.checkAll f.items members ++ unknownMembers none f.items members
  | _ => [⟨"answers", "must be of dict type"⟩]

def checkIdentity (f : Form) (identity : String) : Report :=
  if f.identity.accepts identity then [] else [⟨"identity", Rule.mismatch f.identity⟩]

def check (f : Form) (s : Submission) : Report := f.checkIdentity s.identity ++ f.checkAnswers s.answers

end Form
end SurveyIntake
