import SurveyIntake.Form.Check
import SurveyIntake.Form.Compile
import SurveyIntake.Store.Basic
import SurveyIntake.Time.Instant

/-!
# SurveyIntake.Survey

Surveys at work: a form, and how long its pending submissions are kept.

* `Survey.submit` — checks a submission and stores it as pending, under the token that is issued for it.
* `Survey.verify` — makes the submission of a token the verified one of its identity.
* `Survey.purge`  — deletes the pending submissions that have expired.

A submission with violations, or a token that is unknown, leaves the store as it is.
-/

namespace SurveyIntake

inductive SurveyError where
  | configuration (cause : ConfigurationError)
  | validation (report : Report)
  | unknownToken (token : String)
  | unknownSurvey (text : String)
  | store (cause : StoreError)

/-- The message of an error, save one whose wording is not the library's own. -/
def SurveyError.message? : SurveyError → Option String
  | .configuration cause => some cause.message
  | .validation report => some ("Submission rejected: " ++ report.message)
  | .unknownToken token => some ("Unknown token: " ++ token)
  | .unknownSurvey text => some ("Unknown survey: " ++ text)
  | .store cause => cause.message?.map fun m => "Storage error: " ++ m

/-- What a respondent is handed for a submission. -/
structure Receipt where
  token : Token
  timestamp : Instant
  deriving DecidableEq

structure Survey where
  form : Form
  retention : Retention

namespace Survey

def key (s : Survey) : SurveyKey := s.form.key

/-- A survey of a configuration. -/
def ofConfiguration (c : Configuration) (retention : Retention) : Except SurveyError Survey :=
  match c.compile with
  | .error e => .error (.configuration e)
  | .ok form => .ok ⟨form, retention⟩

def submit (s : Survey) (token : Token) (now : Instant) (x : Submission) (store : Store) :
    Except SurveyError (Receipt × Store) :=
  match s.form.check x with
  | [] =>
    match store.insertEntry s.key ⟨token, x.identity, now, x.answers⟩ with
    | .error e => .error (.store e)
    | .ok store => .ok (⟨token, now⟩, store)
  | report => .error (.validation report)

def verify (s : Survey) (token : Token) (store : Store) : Except SurveyError (String × Store) :=
  match store.promote s.key.text token with
  | none => .error (.unknownToken token.text)
  | some result => .ok result

def purge (s : Survey) (now : Instant) (store : Store) : Store × Nat :=
  match s.retention.cutoff now with
  | none => (store, 0)
  | some cutoff => store.purgeBefore s.key.text cutoff.millis

end Survey
end SurveyIntake
