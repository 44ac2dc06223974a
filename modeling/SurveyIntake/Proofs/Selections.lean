import Mathlib.Algebra.Order.Ring.Nat
import Mathlib.Data.Finset.Card
import SurveyIntake.Form.Check
import SurveyIntake.Proofs.Table

/-!
# SurveyIntake.Proofs.Selections

How many selections an object holds.

* `entrySet`           — the entries of a list as a set: what stands between commas, trimmed, if anything is left.
* `length_listEntries` — the entries that are listed are those of the set, each once.
* `selectionCount`     — options that are set, and distinct entries of lists, for kinds and keys.
* `countSelections_eq` — the selections of items are counted so.
-/

namespace SurveyIntake

/-- The distinct entries of a text: what stands between its commas, trimmed, if anything is left. -/
def entrySet (raw : String) : Finset String :=
  ((((Text.split ',' raw.toList).map Text.trim).filter fun s => !s.isEmpty).map
    String.ofList).toFinset

theorem mem_listEntries {raw entry : String} : entry ∈ listEntries raw ↔ entry ∈ entrySet raw := by
  rw [listEntries, Assoc.mem_keys_ofList]
  simp [entrySet, Assoc.keys]

theorem nodup_listEntries (raw : String) : (listEntries raw).Nodup :=
  (Assoc.Ascending.ofList _).nodup

theorem toFinset_listEntries (raw : String) : (listEntries raw).toFinset = entrySet raw := by
  ext entry
  rw [List.mem_toFinset]
  exact mem_listEntries

theorem length_listEntries (raw : String) : (listEntries raw).length = (entrySet raw).card := by
  rw [← toFinset_listEntries, List.toFinset_card_of_nodup (nodup_listEntries raw)]

/-! ## Counting -/

section Counting

variable (asked : List (Kind × String)) (members : List (String × Json))

/-- How many of the options that are asked for are set. -/
def setOptions : Nat :=
  asked.countP fun a => a.1 = .option ∧ Assoc.find? a.2 members = some (.bool true)

/-- How many distinct entries an answer to a field of the kind has, if that is a list. -/
def entryCount (kind : Kind) (answer : Option Json) : Nat :=
  match kind, answer with
  | .list, some (.string s) => (entrySet s).card
  | _, _ => 0

/-- How many distinct entries the lists that are asked for have, added up. -/
def listedEntries : Nat := (asked.map fun a => entryCount a.1 (Assoc.find? a.2 members)).sum

def selectionCount : Nat := setOptions asked members + listedEntries asked members

end Counting

/-- What one item adds to the number of selections: one for an option that is set, or its entries. -/
theorem countSelections_cons (i : Item) (items : List Item) (members : List (String × Json)) :
    countSelections (i :: items) members =
      (if i.kind = .option ∧ Assoc.find? i.key members = some (.bool true) then 1 else 0) +
        entryCount i.kind (Assoc.find? i.key members) + countSelections items members := by
  rw [countSelections, List.foldr_cons, ← countSelections, Nat.add_right_cancel_iff]
  unfold entryCount
  dsimp only
  split
  · rename_i hk hv
    simp [hk, hv]
  · rename_i hk hv
    simp [hk, hv, length_listEntries]
  · rename_i hoption hlist
    rw [if_neg fun h => hoption h.1 h.2]
    split
    · rename_i s hk hv
      exact absurd hv (hlist s hk)
    · rfl

theorem countSelections_eq (items : List Item) (members : List (String × Json)) :
    countSelections items members =
      selectionCount (items.map fun i => (i.kind, i.key)) members := by
  induction items with
  | nil => rfl
  | cons i items ih =>
    rw [countSelections_cons, ih]
    simp only [selectionCount, setOptions, listedEntries, List.map_cons, List.countP_cons,
      List.sum_cons, decide_eq_true_eq]
    omega

end SurveyIntake
