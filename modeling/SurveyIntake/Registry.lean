import SurveyIntake.Survey

/-!
# SurveyIntake.Registry

The surveys that are open for submissions.

* `Registry.register`   — opens the survey of a configuration, in place of one under its key. A
  configuration that does not compile closes the survey under its key.
* `Registry.unregister` — closes a survey.
* `Registry.lookup`     — the survey of a text.
* `Submission.ofBody`   — the submission in the body of a request.
* `Registry.submit`, `Registry.verify`, `Registry.purge` — requests to the survey of a text.
-/

namespace SurveyIntake

structure Registry where
  retention : Retention
  surveys : Table SurveyKey Survey

namespace Registry

def empty (retention : Retention) : Registry := ⟨retention, .empty⟩

def register (r : Registry) (c : Configuration) : Registry × Except SurveyError SurveyKey :=
  match Survey.ofConfiguration c r.retention with
  | .ok s => ({ r with surveys := r.surveys.insert s.key s }, .ok s.key)
  | .error e =>
    match c.key with
    | .ok key => ({ r with surveys := r.surveys.erase key }, .error e)
    | .error _ => (r, .error e)

/-- Closes a survey; the answer is whether it was open. What it has stored stays. -/
def unregister (r : Registry) (key : SurveyKey) : Registry × Bool :=
  ({ r with surveys := r.surveys.erase key }, r.surveys.contains key)

def get (r : Registry) (key : SurveyKey) : Except SurveyError Survey :=
  match r.surveys.find? key with
  | some s => .ok s
  | none => .error (.unknownSurvey key.text)

def lookup (r : Registry) (text : String) : Except SurveyError Survey :=
  match SurveyKey.parse text with
  | .error _ => .error (.unknownSurvey text)
  | .ok key => r.get key

/-- The keys of all open surveys in their order. -/
def keys (r : Registry) : List SurveyKey := r.surveys.keys

end Registry

namespace Submission

/-- What is wrong with the identity of a body, and what it is. -/
def bodyIdentity (members : List (String × Json)) : Except Violation String :=
  match (Assoc.find? "identity" members).or (Assoc.find? "email" members) with
  | some (.string s) => .ok s
  | some _ => .error ⟨"identity", "must be of string type"⟩
  | none => .error ⟨"identity", "required field"⟩

def bodyAnswers (members : List (String × Json)) : Except Violation Json :=
  match (Assoc.find? "answers" members).or (Assoc.find? "properties" members) with
  | some v => .ok v
  | none => .error ⟨"answers", "required field"⟩

/-- The submission in a body, which has to be an object. Of the two names of a part the first counts
where both are given. -/
def ofBody (body : Json) : Except Report Submission :=
  let members :=
    match body with
    | .object members => members
    | _ => []
  match bodyIdentity members, bodyAnswers members with
  | .ok identity, .ok answers => .ok ⟨identity, answers⟩
  | .error v, .ok _ => .error [v]
  | .ok _, .error w => .error [w]
  | .error v, .error w => .error [v, w]

end Submission

namespace Registry

def submit (r : Registry) (text : String) (token : Token) (now : Instant) (body : Json)
    (store : Store) : Except SurveyError (Receipt × Store) :=
  match r.lookup text with
  | .error e => .error e
  | .ok s =>
    match Submission.ofBody body with
    | .error report => .error (.validation report)
    | .ok x => s.submit token now x store

def verify (r : Registry) (text : String) (token : Token) (store : Store) :
    Except SurveyError (String × Store) :=
  match r.lookup text with
  | .error e => .error e
  | .ok s => s.verify token store

def purge (r : Registry) (text : String) (now : Instant) (store : Store) :
    Except SurveyError (Store × Nat) :=
  match r.lookup text with
  | .error e => .error e
  | .ok s => .ok (s.purge now store)

end Registry
end SurveyIntake
