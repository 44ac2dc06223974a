import SurveyIntake.Proofs.Intake

/-!
# SurveyIntake.Proofs.Verified

What the verified store holds after a run.

* `Intake.Accepted`           — a submission that a run has accepted.
* `Intake.lastVerification?`  — the last verification of an identity in a survey, and what came before it.
* `Intake.pending_accepted`   — every pending row is that of a submission that was accepted.
* `Intake.records_after`      — an identity that was never verified has no record. Any other has exactly one,
  with the time and the answers of the entry that was promoted last.
-/

namespace SurveyIntake

/-- The verified row that an entry becomes. -/
def PendingEntry.verifiedRow (e : PendingEntry) : VerifiedRow := ⟨e.timestamp.millis, e.answers.render⟩

theorem Survey.find?_of_purge {s : Survey} {now : Instant} {store : Store} {token : Token}
    {row : PendingRow} (h : (s.purge now store).1.pending.find? token = some row) :
    store.pending.find? token = some row := by
  unfold purge at h
  split at h
  · exact h
  · rw [Store.find?_purgeBefore, Option.filter_eq_some_iff] at h
    exact h.1

theorem Survey.verified_purge (s : Survey) (now : Instant) (store : Store) :
    (s.purge now store).1.verified = store.verified := by
  unfold purge
  split <;> rfl

namespace Intake

/-- A request, after some others, is a submission of the entry that is accepted. -/
def Accepts (retention : Retention) (key : SurveyKey) (entry : PendingEntry) (past : List Request)
    (r : Request) : Prop :=
  ∃ survey body, r = .submit survey entry.token entry.timestamp body ∧
    SurveyKey.parse survey = .ok key ∧
    Submission.ofBody body = .ok ⟨entry.identity, entry.answers⟩ ∧
    reply retention past r = .received ⟨entry.token, entry.timestamp⟩

/-- The entry was accepted at some point of a run. -/
def Accepted (retention : Retention) (key : SurveyKey) (entry : PendingEntry) (past : List Request) :
    Prop :=
  ∃ r before, (r :: before) <:+ past ∧ Accepts retention key entry before r

theorem Accepted.cons {retention : Retention} {key : SurveyKey} {entry : PendingEntry}
    {past : List Request} (h : Accepted retention key entry past) (r : Request) :
    Accepted retention key entry (r :: past) := by
  obtain ⟨q, before, hs, ha⟩ := h
  exact ⟨q, before, hs.trans (List.suffix_cons r past), ha⟩

/-- The token of a request, after some others, that verifies the identity in the survey. -/
def verifies? (retention : Retention) (key : SurveyKey) (identity : String) (past : List Request) :
    Request → Option Token
  | .verify survey token =>
    match reply retention past (.verify survey token) with
    | .verified who => if survey = key.text ∧ who = identity then some token else none
    | _ => none
  | _ => none

/-- The last verification of the identity in the survey: its token, and the requests before it. -/
def lastVerification? (retention : Retention) (key : SurveyKey) (identity : String) :
    List Request → Option (Token × List Request)
  | [] => none
  | r :: past =>
    match verifies? retention key identity past r with
    | some token => some (token, past)
    | none => lastVerification? retention key identity past

/-! ## Pending rows -/

theorem Serves.pending {retention : Retention} {past : List Request} {i' : Intake} {r : Request}
    {a : Answer} (h : Serves (after retention past) r i' a) (ha : reply retention past r = a)
    {token : Token} {row : PendingRow} (hrow : i'.store.pending.find? token = some row) :
    (after retention past).store.pending.find? token = some row ∨
      ∃ key entry, Accepts retention key entry past r ∧ entry.token = token ∧ row = entry.row key := by
  cases h with
  | @received survey token' now body s x hs hx _ _ =>
    simp only [withPending, Table.find?_insert] at hrow
    split at hrow
    · rename_i ht
      cases hrow
      have hkey := (after_keyed retention past).parse_of_lookup hs
      exact .inr ⟨s.key, ⟨token', x.identity, now, x.answers⟩, ⟨survey, body, rfl, hkey, hx, ha⟩,
        ht.symm, rfl⟩
    · exact .inl hrow
  | purged _ => exact .inl (Survey.find?_of_purge hrow)
  | _ => exact .inl hrow

theorem pending_accepted {retention : Retention} {past : List Request} {token : Token}
    {row : PendingRow} (h : (after retention past).store.pending.find? token = some row) :
    ∃ key entry, Accepted retention key entry past ∧ entry.token = token ∧ row = entry.row key := by
  induction past with
  | nil => cases h
  | cons r past ih =>
    rcases (after_serves retention past r).pending rfl h with h | ⟨key, entry, ha, ht, hr⟩
    · obtain ⟨key, entry, ha, ht, hr⟩ := ih h
      exact ⟨key, entry, ha.cons r, ht, hr⟩
    · exact ⟨key, entry, ⟨r, past, List.suffix_rfl, ha⟩, ht, hr⟩

/-! ## Verified rows -/

theorem Serves.verifiedRow {retention : Retention} {past : List Request} {i' : Intake} {r : Request}
    {a : Answer} (h : Serves (after retention past) r i' a) (ha : reply retention past r = a)
    (key : SurveyKey) (identity : String) :
    match verifies? retention key identity past r with
    | none => i'.store.verifiedRow? key.text identity =
        (after retention past).store.verifiedRow? key.text identity
    | some token => ∃ row, (after retention past).store.pendingRow? key.text token = some row ∧
        row.identity = identity ∧
        i'.store.verifiedRow? key.text identity = some ⟨row.millis, row.answers⟩ := by
  cases h with
  | @verified survey token s row hs hrow =>
    have hsurvey : s.key.text = survey := (after_keyed retention past).text_of_lookup hs
    subst hsurvey
    simp only [verifies?, ha, Store.verifiedRow?_upsertVerified]
    by_cases hk : s.key.text = key.text ∧ row.identity = identity
    · rw [if_pos hk]
      exact ⟨row, hk.1 ▸ hrow, hk.2, by simp [hk.1, hk.2]⟩
    · have hk' : ¬ (key.text = s.key.text ∧ identity = row.identity) :=
        fun h => hk ⟨h.1.symm, h.2.symm⟩
      simp [hk, hk']
  | unverified _ _ | verifyUnknown _ => simp only [verifies?, ha]
  | purged _ => simp only [verifies?, Store.verifiedRow?, Store.verifiedTable, Survey.verified_purge]
  | opened _ | withdrawn _ _ | closed | received _ _ _ _ =>
    simp only [verifies?]
    rfl
  | _ => simp only [verifies?]

/-- The verified row of an identity comes from the entry that was promoted last. -/
theorem verifiedRow_after (retention : Retention) (past : List Request) (key : SurveyKey)
    (identity : String) :
    match lastVerification? retention key identity past with
    | none => (after retention past).store.verifiedRow? key.text identity = none
    | some (token, before) =>
      ∃ row, (after retention before).store.pendingRow? key.text token = some row ∧
        row.identity = identity ∧
        (after retention past).store.verifiedRow? key.text identity =
          some ⟨row.millis, row.answers⟩ := by
  induction past with
  | nil => rfl
  | cons r past ih =>
    have hstep := (after_serves retention past r).verifiedRow rfl key identity
    simp only [lastVerification?]
    cases hv : verifies? retention key identity past r with
    | some token =>
      rw [hv] at hstep
      exact hstep
    | none =>
      rw [hv] at hstep
      simp only at hstep ⊢
      rw [hstep]
      exact ih

/-- **The verified store after any run.** An identity that no request has verified in a survey has no
record there. Any other has exactly one, and its time and its answers are both those of the entry that
the last verification has promoted, which is pending just before, under the token that is verified, and
as it was accepted. -/
theorem records_after (retention : Retention) (past : List Request) (key : SurveyKey)
    (identity : String) :
    match lastVerification? retention key identity past with
    | none => (after retention past).store.records key.text identity = []
    | some (token, before) =>
      ∃ entry, Accepted retention key entry before ∧ entry.token = token ∧ entry.identity = identity ∧
        (after retention before).store.pendingRow? key.text token = some (entry.row key) ∧
        (after retention past).store.records key.text identity = [(identity, entry.verifiedRow)] := by
  have hrow := verifiedRow_after retention past key identity
  rw [Store.records_eq]
  cases hl : lastVerification? retention key identity past with
  | none =>
    rw [hl] at hrow
    simp only at hrow ⊢
    rw [hrow]
    rfl
  | some last =>
    obtain ⟨token, before⟩ := last
    rw [hl] at hrow
    obtain ⟨row, hp, hi, hv⟩ := hrow
    obtain ⟨hf, hsurvey⟩ := Store.pendingRow?_eq_some_iff.1 hp
    obtain ⟨key', entry, ha, ht, rfl⟩ := pending_accepted hf
    have hkey : key' = key := SurveyKey.text_injective hsurvey
    subst hkey
    refine ⟨entry, ha, ht, hi, hp, ?_⟩
    rw [hv]
    rfl

end Intake
end SurveyIntake
