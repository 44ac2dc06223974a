import SurveyIntake.Proofs.Selections

/-!
# SurveyIntake.Proofs.Check

What a check comes to, by the type of the answer.

* `Kind.Takes`      — the values that are of the type of a kind.
* `Item.induction`  — what holds of an item if it holds of its children holds of every item.
* `Item.check_text`, `Item.check_selection`, `Item.check_properties`, `Item.check_option` — checks of
  answers of the right type.
* `Item.check_mistyped` — all other answers are reported for their type, and for nothing else.
* `Item.checkAll_eq_flatMap` — items are checked one after the other.
-/

namespace SurveyIntake

/-- Values of this kind are of the right type. -/
inductive Kind.Takes : Kind → Json → Prop where
  | text {kind : Kind} {s : String} : kind = .email ∨ kind = .text ∨ kind = .list →
      Takes kind (.string s)
  | option {kind : Kind} {b : Bool} : kind = .option → Takes kind (.bool b)
  | object {kind : Kind} {members : List (String × Json)} : kind = .selection ∨ kind = .properties →
      Takes kind (.object members)

namespace Item

/-- The number of selections that an object holds for an item. -/
def selections (i : Item) (members : List (String × Json)) : Nat :=
  selectionCount (i.children.map fun j => (j.kind, j.key)) members

theorem induction {P : Item → Prop} (step : ∀ i, (∀ j ∈ i.children, P j) → P i) : ∀ i, P i
  | ⟨position, path, kind, rules, children⟩ =>
    step _ fun j hj =>
      have : sizeOf j < sizeOf children := List.sizeOf_lt_of_mem hj
      induction step j
termination_by i => sizeOf i

variable {i : Item}

theorem check_text {s : String} (h : i.kind.Takes (.string s)) :
    i.check (.string s) = textViolations i.path i.rules s := by
  obtain ⟨position, path, kind, rules, children⟩ := i
  cases h with
  | text hk =>
    dsimp only at hk
    rcases hk with rfl | rfl | rfl <;> rfl

theorem check_selection {members : List (String × Json)} (h : i.kind = .selection) :
    i.check (.object members) = checkAll i.children members ++
      unknownMembers (some i.path) i.children members ++
        countViolations i.path i.rules (i.selections members) := by
  rw [selections, ← countSelections_eq]
  obtain ⟨position, path, kind, rules, children⟩ := i
  dsimp only at h
  subst h
  rfl

theorem check_properties {members : List (String × Json)} (h : i.kind = .properties) :
    i.check (.object members) =
      checkAll i.children members ++ unknownMembers (some i.path) i.children members := by
  obtain ⟨position, path, kind, rules, children⟩ := i
  dsimp only at h
  subst h
  rfl

theorem check_option {b : Bool} (h : i.kind = .option) : i.check (.bool b) = [] := by
  obtain ⟨position, path, kind, rules, children⟩ := i
  dsimp only at h
  subst h
  rfl

theorem check_mistyped {value : Json} (h : ¬i.kind.Takes value) :
    i.check value = [⟨i.path, "must be of " ++ i.kind.name ++ " type"⟩] := by
  obtain ⟨position, path, kind, rules, children⟩ := i
  dsimp only at h
  unfold check
  split
  · exact absurd (.text (.inl rfl)) h
  · exact absurd (.text (.inr (.inl rfl))) h
  · exact absurd (.text (.inr (.inr rfl))) h
  · exact absurd (.option rfl) h
  · exact absurd (.object (.inl rfl)) h
  · exact absurd (.object (.inr rfl)) h
  · rfl

/-- What is reported about the answer to an item, which may not be there. -/
def answerReport (i : Item) : Option Json → Report
  | some value => i.check value
  | none => [⟨i.path, "required field"⟩]

theorem checkAll_eq_flatMap (items : List Item) (members : List (String × Json)) :
    checkAll items members = items.flatMap fun i => i.answerReport (Assoc.find? i.key members) := by
  induction items with
  | nil => rfl
  | cons i items ih =>
    rw [checkAll, ih, List.flatMap_cons]
    cases Assoc.find? i.key members <;> rfl

end Item

namespace Form

theorem checkAnswers_object (f : Form) (members : List (String × Json)) :
    f.checkAnswers (.object members) =
      Item.checkAll f.items members ++ unknownMembers none f.items members := rfl

theorem checkAnswers_mistyped {f : Form} {answers : Json}
    (h : ∀ members, answers ≠ .object members) :
    f.checkAnswers answers = [⟨"answers", "must be of dict type"⟩] := by
  unfold checkAnswers
  split
  · rename_i members
    exact absurd rfl (h members)
  · rfl

/-- Nothing is wrong with a submission just if the form's pattern accepts its identity and nothing is wrong
with its answers. -/
theorem check_eq_nil_iff {f : Form} {x : Submission} :
    f.check x = [] ↔ f.identity.accepts x.identity = true ∧ f.checkAnswers x.answers = [] := by
  rw [check, List.append_eq_nil_iff]
  simp [checkIdentity]

end Form
end SurveyIntake
