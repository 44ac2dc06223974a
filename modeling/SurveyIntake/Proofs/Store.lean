import SurveyIntake.Proofs.Table
import SurveyIntake.Store.Basic

/-!
# SurveyIntake.Proofs.Store

What each change of a store does to its rows.

* `Store.records` — the verified rows of an identity in a survey.
* `Store.insertPending_eq_ok_iff` — when an entry is inserted, and what that leaves.
* `Store.verifiedRow?_upsertVerified`, `Store.find?_purgeBefore` — the rows after an upsert and after a purge.
* `Store.pendingTable` — the pending rows of a survey. Beside its verified rows, these are all that a
  statement about the survey reads, and no statement about another survey changes them.
-/

namespace SurveyIntake

/-- The row that is stored for an entry. -/
def PendingEntry.row (key : SurveyKey) (e : PendingEntry) : PendingRow :=
  ⟨key.text, e.identity, e.timestamp.millis, e.answers.render⟩

namespace Store

def records (survey identity : String) (s : Store) : List (String × VerifiedRow) :=
  (s.verifiedTable survey).entries.filter fun r => r.1 = identity

theorem records_eq (survey identity : String) (s : Store) :
    s.records survey identity = ((s.verifiedRow? survey identity).map fun r => (identity, r)).toList :=
  Table.filter_key identity _

/-! ## Pending rows -/

theorem pendingRow?_eq_some_iff {survey : String} {token : Token} {s : Store} {row : PendingRow} :
    s.pendingRow? survey token = some row ↔ s.pending.find? token = some row ∧ row.survey = survey := by
  simp [pendingRow?, Option.filter_eq_some_iff]

theorem insertPending_eq_ok_iff {token : Token} {row : PendingRow} {s s' : Store} :
    s.insertPending token row = .ok s' ↔
      s.pending.find? token = none ∧ s' = { s with pending := s.pending.insert token row } := by
  unfold insertPending Table.contains
  cases s.pending.find? token with
  | none => simp [eq_comm]
  | some r => simp

/-- A purge deletes the rows of its survey from before the cutoff, and no others. -/
theorem find?_purgeBefore (survey : String) (cutoff : Int) (token : Token) (s : Store) :
    (s.purgeBefore survey cutoff).1.pending.find? token =
      (s.pending.find? token).filter fun r => !isExpired survey cutoff (token, r) :=
  Table.find?_filter _ _ _

/-! ## Verified rows -/

theorem verifiedRow?_upsertVerified (survey identity survey' identity' : String) (row : VerifiedRow)
    (s : Store) :
    (s.upsertVerified survey identity row).verifiedRow? survey' identity' =
      if survey' = survey ∧ identity' = identity then some row else s.verifiedRow? survey' identity' := by
  simp only [upsertVerified, verifiedRow?, verifiedTable, Table.find?_insert]
  by_cases hs : survey' = survey
  · subst hs
    simp [Table.find?_insert]
  · simp [hs]

/-! ## Rows of one survey -/

def pendingTable (survey : String) (s : Store) : Table Token PendingRow :=
  s.pending.filter fun r => r.2.survey == survey

section Rows

variable {survey survey' identity : String} {token : Token} {row : PendingRow} {cutoff : Int} {s : Store}

theorem pendingRow?_eq_find? : s.pendingRow? survey token = (s.pendingTable survey).find? token := by
  rw [pendingTable, Table.find?_filter]
  rfl

theorem pendingRows_eq : s.pendingRows survey = (s.pendingTable survey).entries.mergeSort rowLe := rfl

theorem pendingTable_insert (h : row.survey = survey) :
    pendingTable survey { s with pending := s.pending.insert token row } =
      (s.pendingTable survey).insert token row := by
  refine Table.eq_of_find? fun other => ?_
  simp only [pendingTable, Table.find?_filter, Table.find?_insert]
  split
  · simp [h]
  · rfl

theorem pendingTable_insert_of_ne (h : row.survey ≠ survey) (hnew : s.pending.find? token = none) :
    pendingTable survey { s with pending := s.pending.insert token row } = s.pendingTable survey := by
  refine Table.eq_of_find? fun other => ?_
  simp only [pendingTable, Table.find?_filter, Table.find?_insert]
  split
  · rename_i htoken
    simp [htoken, hnew, h]
  · rfl

theorem pendingTable_purgeBefore :
    (s.purgeBefore survey cutoff).1.pendingTable survey =
      (s.pendingTable survey).filter fun r => !isExpired survey cutoff r := by
  refine Table.eq_of_find? fun other => ?_
  simp only [pendingTable, purgeBefore, Table.find?_filter, Option.filter_filter, Bool.and_comm]

theorem pendingTable_purgeBefore_of_ne (h : survey' ≠ survey) :
    (s.purgeBefore survey' cutoff).1.pendingTable survey = s.pendingTable survey := by
  refine Table.eq_of_find? fun other => ?_
  simp only [pendingTable, purgeBefore, Table.find?_filter, Option.filter_filter]
  refine congrArg (fun p => (s.pending.find? other).filter p) (funext fun row => ?_)
  by_cases hrow : row.survey = survey
  · have hkept : (row.survey == survey') = false := by simp [hrow, Ne.symm h]
    simp [isExpired, hkept]
  · simp [hrow]

/-- Only rows of its survey count for a purge. -/
theorem purgeBefore_count :
    (s.purgeBefore survey cutoff).2 =
      ((s.pendingTable survey).entries.filter (isExpired survey cutoff)).length := by
  simp only [purgeBefore, pendingTable, Table.filter, List.filter_filter]
  refine congrArg List.length (List.filter_congr fun r _ => ?_)
  simp only [isExpired]
  cases r.2.survey == survey <;> simp

theorem verifiedTable_upsertVerified {r : VerifiedRow} :
    (s.upsertVerified survey identity r).verifiedTable survey =
      (s.verifiedTable survey).insert identity r := by
  simp only [upsertVerified, verifiedTable, Table.find?_insert, if_true, Option.getD_some]

theorem verifiedTable_upsertVerified_of_ne (h : survey' ≠ survey) {r : VerifiedRow} :
    (s.upsertVerified survey' identity r).verifiedTable survey = s.verifiedTable survey := by
  simp only [upsertVerified, verifiedTable, Table.find?_insert, if_neg (Ne.symm h)]

end Rows

end Store
end SurveyIntake
