import SurveyIntake.Files.Tree
import SurveyIntake.Time.Instant
import SurveyIntake.Toml.Reader

/-!
# SurveyIntake.Settings

The home directory of a service and the settings in it: where its database and its surveys are, and how long
pending submissions are kept.

* `homeOf`  — the directory that is named outright, or else one in the home directory of the user.
* `logsIn`, `logName` — where logs are kept, and the name of the log of a program, without its date.
* `Settings.defaults` — what holds where nothing is set.
* `Settings.ofToml`   — the settings in a text. Names that mean nothing are passed over.
* `Settings.load`     — the settings in a home directory, which need not hold any.

Paths that are set are relative to the home directory.
-/

namespace SurveyIntake

/-- The home directory, from a setting of its own, the home directory that is set for the user, and the
one that the user's account has. A home directory that is set to nothing is not set. -/
def homeOf (chosen user account : Option String) : Option Path :=
  match chosen with
  | some home => some ⟨home⟩
  | none => ((user.filter fun home => home != "").or account).map fun home =>
      (Path.mk home).join ".fastsurvey"

def logsIn (home : Path) : Path := home.join "logs"

/-- A character that may stand in the name of a log. -/
def isLogChar (c : Char) : Bool := c.isAlphanum || c == '-' || c == '_'

def logName (program : String) : String :=
  String.ofList (program.toList.map fun c => if isLogChar c then c else '_') ++ ".log"

structure Settings where
  database : Path
  surveys : Path
  pendingHours : Option Nat
  deriving DecidableEq

inductive SettingsError where
  | unreadable (path : Path)
  | malformed (path : Path)
  deriving DecidableEq

def SettingsError.message : SettingsError → String
  | .unreadable path => "Failed to read " ++ path.text
  | .malformed path => "Failed to parse " ++ path.text

namespace Settings

def defaults (home : Path) : Settings :=
  { database := home.join "fastsurvey.sqlite3"
    surveys := home.join "surveys"
    pendingHours := none }

/-- The number of hours above all that can be set. -/
def hoursLimit : Nat := UInt32.size

/-- A path under a name, or else the default one. A value of another type is an error. -/
def path? (name : String) (home default : Path) (members : Toml.Members) : Option Path :=
  match Assoc.find? name members with
  | none => some default
  | some (.string p) => some (home.join p)
  | some _ => none

def hours? (name : String) (members : Toml.Members) : Option (Option Nat) :=
  match Assoc.find? name members with
  | none => some none
  | some (.integer i) => if 0 ≤ i ∧ i < hoursLimit then some (some i.toNat) else none
  | some _ => none

def ofMembers (home : Path) (members : Toml.Members) : Option Settings :=
  match path? "database_path" home (defaults home).database members,
    path? "surveys_dir" home (defaults home).surveys members,
    hours? "pending_max_age_hours" members with
  | some database, some surveys, some hours => some ⟨database, surveys, hours⟩
  | _, _, _ => none

def ofToml (home : Path) (text : String) : Option Settings :=
  match Toml.parse text with
  | none => none
  | some members => ofMembers home members

/-- The file that settings are in. -/
def file (home : Path) : Path := home.join "fastsurvey.toml"

def load (home : Path) (files : Files) : Except SettingsError Settings :=
  if files.contains (file home) then
    match files.text? (file home) with
    | none => .error (.unreadable (file home))
    | some text =>
      match ofToml home text with
      | none => .error (.malformed (file home))
      | some s => .ok s
  else .ok (defaults home)

def retention (s : Settings) : Retention :=
  match s.pendingHours with
  | none => .keepAll
  | some hours => .hours hours

end Settings
end SurveyIntake
