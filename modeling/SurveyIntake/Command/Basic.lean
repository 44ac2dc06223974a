import SurveyIntake.Settings
import SurveyIntake.Survey

/-!
# SurveyIntake.Command.Basic

Commands and what comes of them.

* `Command`      — what a service can be told to do.
* `CommandError` — why a command fails, with its wording.
* `Outcome`      — the exit code of a command, what it prints, and the error it ends with.
-/

namespace SurveyIntake

inductive Command where
  | check (configuration : Path)
  | submit (survey : String) (submission : Path)
  | verify (survey token : String)
  | purge (survey : String)
  deriving DecidableEq

inductive CommandError where
  | settings (cause : SettingsError)
  /-- A file that is not there, or no text. -/
  | unreadable (path : Path)
  | noConfiguration (path : Path)
  | uncompiled (path : Path)
  | noJson (path : Path)
  | unopened (database : Path)
  | noDatabase (database : Path)
  | noDirectory (surveys : Path)
  | survey (cause : SurveyError)

def CommandError.message : CommandError → String
  | .settings cause => cause.message
  | .unreadable path => "Failed to read " ++ path.text
  | .noConfiguration path => "Invalid survey configuration: " ++ path.text
  | .uncompiled path => "Survey configuration does not compile: " ++ path.text
  | .noJson path => "Submission is not valid JSON: " ++ path.text
  | .unopened path => "Failed to open database: " ++ path.text
  | .noDatabase path => "No submissions database at " ++ path.text ++ " (submit creates it)"
  | .noDirectory path => "Failed to read surveys directory: " ++ path.text
  | .survey cause => cause.message?.getD "Storage error"

structure Outcome where
  code : Nat
  output : String
  error : Option String
  deriving DecidableEq

namespace Outcome

def success (output : String) : Outcome := ⟨0, output, none⟩

def failure (e : CommandError) : Outcome := ⟨1, "", some e.message⟩

/-- A submission that is rejected, with the report on it. -/
def rejection (report : Report) : Outcome := ⟨2, report.toJson.pretty ++ "\n", none⟩

/-- Arguments that are no command. -/
def misuse : Outcome := ⟨2, "", none⟩

end Outcome
end SurveyIntake
