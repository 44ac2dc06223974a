import Mathlib.Algebra.Order.Ring.Nat
import Mathlib.Data.List.Induction
import SurveyIntake.Proofs.ByteOrder
import SurveyIntake.Proofs.Table
import SurveyIntake.Report

/-!
# SurveyIntake.Proofs.Grouping

Reports by path.

* `Report.find?_byPath`         — under a path are the messages for it, in the order of the report.
* `Report.ungrouped`            — the violations in groups of messages. Filing one more adds it to them
  (`ungrouped_file`), so a report has the violations of its groups (`ungrouped_byPath`).
* `Report.byPath_loses_nothing` — the paths are those of the report, in the order of their bytes, with all
  messages for each.
-/

namespace SurveyIntake
namespace Report

/-! ## Looking up a path -/

section Paths

variable {path : String} {r : Report} {v : Violation}

theorem forPath_append_of_eq (h : v.path = path) :
    forPath path (r ++ [v]) = forPath path r ++ [v.message] := by
  simp [forPath, h]

theorem forPath_append_of_ne (h : v.path ≠ path) : forPath path (r ++ [v]) = forPath path r := by
  simp [forPath, h]

theorem forPath_ne_nil_iff : forPath path r ≠ [] ↔ ∃ v ∈ r, v.path = path := by
  simp [forPath]

theorem map_forPath (path : String) (r : Report) :
    (forPath path r).map (Violation.mk path) = r.filter fun v => v.path == path := by
  have hself : ∀ v ∈ r.filter fun v => v.path == path, Violation.mk path v.message = v := by
    intro v hv
    rw [← eq_of_beq (List.mem_filter.1 hv).2]
  rw [forPath, List.map_map]
  exact (List.map_congr_left hself).trans (List.map_id _)

theorem byPath_append : byPath (r ++ [v]) = file (byPath r) v := by
  simp [byPath]

theorem find?_byPath (path : String) (r : Report) :
    r.byPath.find? path = if forPath path r = [] then none else some (forPath path r) := by
  induction r using List.reverseRecOn with
  | nil => rfl
  | append_singleton r v ih =>
    rw [byPath_append, file, Table.find?_insert]
    by_cases hpath : path = v.path
    · subst hpath
      rw [if_pos rfl, ih, forPath_append_of_eq rfl,
        if_neg (List.append_ne_nil_of_right_ne_nil _ (List.cons_ne_nil _ _))]
      split <;> simp_all
    · rw [if_neg hpath, ih, forPath_append_of_ne (Ne.symm hpath)]

theorem find?_byPath_eq_some_iff {messages : List String} :
    r.byPath.find? path = some messages ↔ (∃ v ∈ r, v.path = path) ∧ messages = forPath path r := by
  rw [← forPath_ne_nil_iff, find?_byPath]
  split
  · rename_i hnil
    simp [hnil]
  · rename_i hne
    rw [Option.some_inj, eq_comm]
    exact (and_iff_right hne).symm

theorem mem_keys_byPath : path ∈ r.byPath.keys ↔ ∃ v ∈ r, v.path = path := by
  have hfound : path ∈ r.byPath.keys ↔ ∃ messages, r.byPath.find? path = some messages :=
    Assoc.exists_find?_iff.symm
  rw [hfound]
  constructor
  · rintro ⟨messages, h⟩
    exact (find?_byPath_eq_some_iff.1 h).1
  · intro h
    exact ⟨_, find?_byPath_eq_some_iff.2 ⟨h, rfl⟩⟩

end Paths

/-! ## Taking groups apart -/

/-- The violations in groups of messages, one group after the other. -/
def ungrouped (groups : List (String × List String)) : Report :=
  groups.flatMap fun g => g.2.map (Violation.mk g.1)

/-- The violations in the group of a path, and those in the other groups. -/
theorem ungrouped_perm_erase (path : String) (groups : Table String (List String)) :
    (ungrouped groups.entries).Perm (((groups.find? path).getD []).map (Violation.mk path) ++
      ungrouped (Assoc.erase path groups.entries)) := by
  cases hfind : groups.find? path with
  | none =>
    have habsent : path ∉ Assoc.keys groups.entries := Assoc.find?_eq_none_iff.1 hfind
    rw [Assoc.erase_eq_self habsent]
    exact .refl _
  | some messages => exact (Assoc.perm_erase groups.ascending.nodup hfind).flatMap_right _

theorem ungrouped_file (groups : Table String (List String)) (v : Violation) :
    (ungrouped (file groups v).entries).Perm (v :: ungrouped groups.entries) := by
  have hfiled : (file groups v).find? v.path = some ((groups.find? v.path).getD [] ++ [v.message]) := by
    rw [file, Table.find?_insert, if_pos rfl]
  have hothers : Assoc.erase v.path (file groups v).entries = Assoc.erase v.path groups.entries :=
    Assoc.erase_insert _ _ _
  have hbefore := ungrouped_perm_erase v.path groups
  have hafter := ungrouped_perm_erase v.path (file groups v)
  -- Both sides have the same other groups, and the group of the path is longer by the one message.
  rw [hfiled, hothers, Option.getD_some, List.map_append, List.append_assoc] at hafter
  exact hafter.trans (List.perm_middle.trans (hbefore.symm.cons v))

/-- A report has the violations that are in its groups, each as often. -/
theorem ungrouped_byPath (r : Report) : (ungrouped r.byPath.entries).Perm r := by
  induction r using List.reverseRecOn with
  | nil => exact .refl _
  | append_singleton r v ih =>
    rw [byPath_append]
    exact (ungrouped_file _ v).trans ((ih.cons v).trans (List.perm_append_singleton v r).symm)

theorem sum_length_byPath (r : Report) : (r.byPath.entries.map fun g => g.2.length).sum = r.length := by
  rw [← (ungrouped_byPath r).length_eq, ungrouped, List.length_flatMap]
  simp

/-- **Grouping a report loses nothing.** The paths are exactly those that occur in the report, in strictly
ascending order of their bytes. Under each are the messages for it, and these are the messages of the
violations there: each of them, in the order of the report, as often as it is there. The numbers of messages
add up to that of the violations. -/
theorem byPath_loses_nothing (r : Report) :
    (∀ path, path ∈ r.byPath.keys ↔ ∃ v ∈ r, v.path = path) ∧
    (r.byPath.keys.Pairwise fun p q => utf8Bytes p < utf8Bytes q) ∧
    (∀ path, (r.byPath.find? path).getD [] = forPath path r) ∧
    (∀ path, (forPath path r).map (Violation.mk path) = r.filter fun v => v.path == path) ∧
    (r.byPath.entries.map fun g => g.2.length).sum = r.length := by
  refine ⟨fun path => mem_keys_byPath, List.Pairwise.imp utf8Bytes_lt_of_lt r.byPath.ascending,
    fun path => ?_, fun path => map_forPath path r, sum_length_byPath r⟩
  rw [find?_byPath]
  split
  · rename_i hnil
    exact hnil.symm
  · rfl

end Report
end SurveyIntake
