import SurveyIntake.Proofs.Pending
import SurveyIntake.Settings

/-!
# SurveyIntake.Proofs.Expiry

Which rows a purge deletes, in exact arithmetic on times.

* `Retention.expires_hours_iff`    — what expires after a number of hours.
* `Settings.retention_nonNegative` — ages that are set are never negative.
* `Store.Dated`                    — the times of pending rows are those of instants.
* `Survey.purge_deletes_expired`   — a purge deletes the rows of its survey that have expired, and counts them.
* `Intake.after_dated`             — after any run the pending rows are dated.
-/

namespace SurveyIntake

namespace Retention

instance (retention : Retention) (submitted now : Int) : Decidable (retention.Expires submitted now) :=
  match retention with
  | .keepAll => isFalse (by rintro ⟨_, ⟨⟩, _⟩)
  | .maxAge age =>
    decidable_of_iff (submitted + age < now) ⟨fun h => ⟨age, rfl, h⟩, by rintro ⟨_, ⟨⟩, h⟩; exact h⟩

theorem expires_maxAge_iff {age submitted now : Int} :
    (maxAge age).Expires submitted now ↔ submitted + age < now := by
  simp only [Expires, maxAge.injEq, exists_eq_left']

theorem expires_hours_iff {n : Nat} {submitted now : Int} :
    (hours n).Expires submitted now ↔ submitted + n * 3600000 < now := expires_maxAge_iff

theorem nonNegative_keepAll : keepAll.NonNegative := by
  rintro _ ⟨⟩

theorem nonNegative_hours (n : Nat) : (hours n).NonNegative := by
  rintro _ ⟨⟩
  exact Int.mul_nonneg (Int.natCast_nonneg n) (by decide)

end Retention

theorem Settings.retention_nonNegative (s : Settings) : s.retention.NonNegative := by
  unfold Settings.retention
  cases s.pendingHours with
  | none => exact Retention.nonNegative_keepAll
  | some n => exact Retention.nonNegative_hours n

/-- The time of each pending row is that of an instant. -/
def Store.Dated (store : Store) : Prop :=
  ∀ r ∈ store.pending.entries, firstMillis ≤ r.2.millis ∧ r.2.millis ≤ lastMillis

instance (store : Store) : Decidable store.Dated := inferInstanceAs (Decidable (∀ r ∈ _, _))

namespace Survey

/-- The row is one of the survey and has expired. -/
def HasExpired (s : Survey) (now : Instant) (r : Token × PendingRow) : Prop :=
  r.2.survey = s.key.text ∧ s.retention.Expires r.2.millis now.millis

instance (s : Survey) (now : Instant) (r : Token × PendingRow) : Decidable (s.HasExpired now r) :=
  inferInstanceAs (Decidable (_ ∧ _))

section Purge

variable {s : Survey} {now : Instant} {store : Store}

theorem isExpired_of_cutoff {cutoff : Instant} (h : s.retention.cutoff now = some cutoff) :
    Store.isExpired s.key.text cutoff.millis = fun r => decide (s.HasExpired now r) := by
  funext r
  have hexpires : s.retention.Expires r.2.millis now.millis ↔ r.2.millis < cutoff.millis :=
    Retention.expires_iff_of_cutoff_eq_some h
  rw [Bool.eq_iff_iff]
  simp [Store.isExpired, HasExpired, hexpires]

/-- There is no cutoff where it would come before all instants. No row is that old. -/
theorem not_hasExpired_of_cutoff (hr : s.retention.NonNegative) (hd : store.Dated)
    (h : s.retention.cutoff now = none) : ∀ r ∈ store.pending.entries, ¬s.HasExpired now r := by
  rintro r hmem ⟨_, hexpires⟩
  exact Retention.not_expires_of_cutoff_eq_none hr h (hd r hmem).1 hexpires

/-- **What a purge deletes.** The pending rows of its survey that have expired are deleted, and no others.
It answers with their number, and nothing else in the store changes. -/
theorem purge_deletes_expired (hr : s.retention.NonNegative) (hd : store.Dated) :
    s.purge now store =
      ({ store with pending := store.pending.filter fun r => !decide (s.HasExpired now r) },
        (store.pending.entries.filter fun r => decide (s.HasExpired now r)).length) := by
  unfold purge
  cases hcutoff : s.retention.cutoff now with
  | none =>
    have hkept := not_hasExpired_of_cutoff hr hd hcutoff
    have hpending : store.pending.filter (fun r => !decide (s.HasExpired now r)) = store.pending :=
      Table.filter_eq_self fun r hmem => by simp [hkept r hmem]
    have hnone : store.pending.entries.filter (fun r => decide (s.HasExpired now r)) = [] :=
      List.filter_eq_nil_iff.2 fun r hmem => by simp [hkept r hmem]
    rw [hpending, hnone]
    rfl
  | some cutoff => simp only [Store.purgeBefore, isExpired_of_cutoff hcutoff]

end Purge

/-- Two rows of a survey, of which one has just expired at the beginning of 1970 and one is about to, and an
older row of another survey. -/
def agedStore : Store :=
  { Store.empty with
    pending := ⟨[(⟨"a"⟩, ⟨"ann.trips", "b@c.de", -7200001, "[]"⟩),
      (⟨"b"⟩, ⟨"ann.trips", "b@c.de", -7200000, "[]"⟩), (⟨"c"⟩, ⟨"ann.rooms", "b@c.de", firstMillis, "[]"⟩)],
      by decide⟩ }

theorem purge_deletes_expired_aged :
    (Retention.hours 2).NonNegative ∧ agedStore.Dated ∧
      (purge ⟨tripForm, .hours 2⟩ .epoch agedStore).1.pending.keys = [⟨"b"⟩, ⟨"c"⟩] ∧
      (purge ⟨tripForm, .hours 2⟩ .epoch agedStore).2 = 1 ∧
      purge ⟨tripForm, .hours 2⟩ ⟨firstMillis, by decide, by decide⟩ agedStore = (agedStore, 0) := by
  have hr : (Retention.hours 2).NonNegative := Retention.nonNegative_hours 2
  have hd : agedStore.Dated := by decide
  have hpurge := fun now => @purge_deletes_expired ⟨tripForm, .hours 2⟩ now agedStore hr hd
  simp only [hpurge]
  exact ⟨hr, hd, by decide, by decide, rfl⟩

end Survey

namespace Intake

/-- Times are taken from a clock, so rows never have others than instants. -/
theorem Serves.dated {i i' : Intake} {r : Request} {a : Answer} (h : Serves i r i' a)
    (hd : i.store.Dated) : i'.store.Dated := by
  cases h with
  | @received _ token now _ _ _ _ _ _ _ =>
    intro p hp
    rcases Assoc.mem_insert hp with rfl | hp
    · exact ⟨now.le_millis, now.millis_le⟩
    · exact hd p hp
  | @purged _ now s _ =>
    intro p hp
    simp only [Survey.purge] at hp
    split at hp
    · exact hd p hp
    · exact hd p (List.mem_filter.1 hp).1
  | _ => exact hd

theorem after_dated (retention : Retention) (past : List Request) :
    (after retention past).store.Dated := by
  induction past with
  | nil =>
    intro p hp
    cases hp
  | cons r past ih => exact (after_serves retention past r).dated ih

end Intake
end SurveyIntake
