import SurveyIntake.Proofs.Reception
import SurveyIntake.Proofs.Verified

/-!
# SurveyIntake.Proofs.Effects

What requests leave as it is, at any open surveys and any store.

* `Intake.SameSurveys` — the same surveys are open at two places, except under some keys.
* `Intake.Effect`      — all that may be different after a request that gets an answer.
* `Intake.serve_effect` — no request does more: one that is refused changes nothing, unless it is a
  registration, which then closes the survey under its key; one that succeeds changes what it is about.
-/

namespace SurveyIntake

/-- A purge leaves the rows of other surveys. -/
theorem Survey.find?_purge_of_ne {s : Survey} {now : Instant} {store : Store} {token : Token}
    {row : PendingRow} (hsurvey : row.survey ≠ s.key.text)
    (h : store.pending.find? token = some row) :
    (s.purge now store).1.pending.find? token = some row := by
  unfold purge
  split
  · exact h
  · have hkept : (row.survey == s.key.text) = false := by simpa using hsurvey
    rw [Store.find?_purgeBefore, Option.filter_eq_some_iff]
    exact ⟨h, by simp [Store.isExpired, hkept]⟩

namespace Intake

/-- The same surveys are open at both places, except under some keys. -/
def SameSurveys (i i' : Intake) (except : SurveyKey → Prop) : Prop :=
  ∀ key, ¬except key → i'.registry.surveys.find? key = i.registry.surveys.find? key

/-- All that may be different after a request that gets an answer. No request gets an answer of another kind
than its own, or a refusal. -/
def Effect (i i' : Intake) : Request → Answer → Prop
  | .register c, .refused _ =>
    i'.store = i.store ∧ SameSurveys i i' (fun key => c.key = .ok key) ∧
      ∀ key, c.key = .ok key → i'.registry.surveys.find? key = none
  | _, .refused _ => i' = i
  | .register c, .registered key =>
    c.key = .ok key ∧ i'.store = i.store ∧ SameSurveys i i' (fun other => other = key)
  | .unregister key, .unregistered _ => i'.store = i.store ∧ SameSurveys i i' (fun other => other = key)
  | .submit _ token _ _, .received _ =>
    i'.registry = i.registry ∧ i'.store.verified = i.store.verified ∧
      i.store.pending.find? token = none ∧
      ∀ other, other ≠ token → i'.store.pending.find? other = i.store.pending.find? other
  | .verify survey _, .verified identity =>
    i'.registry = i.registry ∧ i'.store.pending = i.store.pending ∧
      ∀ survey' identity', ¬(survey' = survey ∧ identity' = identity) →
        i'.store.verifiedRow? survey' identity' = i.store.verifiedRow? survey' identity'
  | .purge survey _, .purged _ =>
    i'.registry = i.registry ∧ i'.store.verified = i.store.verified ∧
      (∀ token row, i'.store.pending.find? token = some row → i.store.pending.find? token = some row) ∧
      ∀ token row, row.survey ≠ survey → i.store.pending.find? token = some row →
        i'.store.pending.find? token = some row
  | _, _ => False

section Surveys

variable {i : Intake}

theorem sameSurveys_insert (key : SurveyKey) (s : Survey) :
    SameSurveys i (i.withSurveys (i.registry.surveys.insert key s)) (fun other => other = key) := by
  intro other hother
  rw [withSurveys, Table.find?_insert, if_neg hother]

theorem sameSurveys_erase (key : SurveyKey) :
    SameSurveys i (i.withSurveys (i.registry.surveys.erase key)) (fun other => other = key) := by
  intro other hother
  rw [withSurveys, Table.find?_erase, if_neg hother]

theorem find?_withSurveys_erase (key : SurveyKey) :
    (i.withSurveys (i.registry.surveys.erase key)).registry.surveys.find? key = none := by
  rw [withSurveys, Table.find?_erase, if_pos rfl]

end Surveys

/-- **Errors leave everything as it is, and successes touch only what they are about.** A request that is
refused changes neither the store nor the open surveys, except that a registration closes the survey under
the key of its configuration, and no other. A registration or its end changes no stored row. A submission
adds one pending row under a token that was free. A verification changes one verified row, that of the survey
and of the identity in the answer. A purge changes no row, and deletes pending rows of its survey only. -/
theorem serve_effect (i : Intake) (hi : i.Keyed) (r : Request) :
    Effect i (i.serve r).1 r (i.serve r).2 := by
  have hserves := i.serve_serves r
  generalize i.serve r = outcome at hserves
  obtain ⟨i', a⟩ := outcome
  cases hserves with
  | opened hc => exact ⟨(Configuration.compile_eq_ok_iff.1 hc).1, rfl, sameSurveys_insert _ _⟩
  | @withdrawn c e key _ hkey =>
    refine ⟨rfl, fun other hother => sameSurveys_erase key other fun he => hother (he ▸ hkey), ?_⟩
    intro other hother
    obtain rfl : key = other := Except.ok.inj (hkey.symm.trans hother)
    exact find?_withSurveys_erase key
  | unkeyed _ hkey =>
    refine ⟨rfl, fun _ _ => rfl, fun key hother => ?_⟩
    rw [hkey] at hother
    cases hother
  | closed => exact ⟨rfl, sameSurveys_erase _⟩
  | received _ _ _ hnew =>
    refine ⟨rfl, rfl, hnew, fun other hother => ?_⟩
    simp only [Table.find?_insert, if_neg hother]
  | verified hs _ =>
    have htext := hi.text_of_lookup hs
    refine ⟨rfl, rfl, fun survey' identity' hother => ?_⟩
    rw [← htext] at hother
    rw [Store.verifiedRow?_upsertVerified, if_neg hother]
  | purged hs =>
    have htext := hi.text_of_lookup hs
    refine ⟨rfl, Survey.verified_purge _ _ _, fun _ _ => Survey.find?_of_purge, ?_⟩
    intro token row hsurvey hrow
    exact Survey.find?_purge_of_ne (htext.symm ▸ hsurvey) hrow
  | taken _ _ _ _ | rejected _ _ _ | malformed _ _ | submitUnknown _ | unverified _ _
  | verifyUnknown _ | purgeUnknown _ => rfl

/-- A configuration with the key of `tripSurvey` and a field to select from that has no options. -/
def emptyTrip : Configuration := { tripSurvey with fields := [Field.ofKind .selection] }

/-- A submission is there, and the survey is open. -/
def tripReceived : Intake := (tripIntake.serve (.submit "ann.trips" ⟨"t"⟩ .epoch tripBody)).1

theorem serve_effect_trip :
    tripReceived.Keyed ∧ ∃ e, (tripReceived.serve (.register emptyTrip)).2 = .refused e ∧
      (tripReceived.serve (.register emptyTrip)).1.store = tripReceived.store ∧
      (tripReceived.serve (.register emptyTrip)).1.registry.surveys.find? tripForm.key = none := by
  have hkeyed : tripReceived.Keyed :=
    (tripIntake.serve_serves _).keyed (after_keyed .keepAll [.register tripSurvey])
  have heffect := serve_effect tripReceived hkeyed (.register emptyTrip)
  exact ⟨hkeyed, _, rfl, heffect.1, heffect.2.2 _ rfl⟩

end Intake
end SurveyIntake
