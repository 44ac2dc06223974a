import SurveyIntake.Command.Basic
import SurveyIntake.Configuration.Reader
import SurveyIntake.Files.Database
import SurveyIntake.Form.Basic
import SurveyIntake.Registry
import SurveyIntake.Settings

/-!
# SurveyIntake.Command.Run

Running commands in a tree of files.

* `Registry.ofDirectory` — the registry of the surveys in a directory. A file that is no configuration
  is passed over.
* `Command.run`          — runs a command, at a given time and with a token to issue.

Only a submission makes a database, after its settings and its own file have been read. A command that
fails leaves what a database holds as it is.
-/

namespace SurveyIntake

/-! ## Surveys -/

/-- Registers the configuration in a file, if it is one. -/
def Registry.registerFile (files : Files) (r : Registry) (p : Path) : Registry :=
  match files.text? p with
  | none => r
  | some text =>
    match Configuration.ofJsonText text with
    | .error _ => r
    | .ok c => (r.register c).1

/-- The files in a directory that are named like configurations. -/
def configurationFiles (files : Files) (directory : Path) (names : List String) : List Path :=
  ((names.filter (Path.hasExtension "json")).map directory.join).filter files.isFile

/-- The registry of the surveys in a directory, which need not exist. -/
def Registry.ofDirectory (retention : Retention) (directory : Path) (files : Files) :
    Except CommandError Registry :=
  if files.contains directory then
    match files.namesIn directory with
    | none => .error (.noDirectory directory)
    | some names =>
      .ok ((configurationFiles files directory names).foldl (Registry.registerFile files)
        (.empty retention))
  else .ok (.empty retention)

/-! ## Commands -/

namespace Command

/-- The listing of the configuration in a file. -/
def checkFile (p : Path) (files : Files) : Except CommandError String :=
  match files.text? p with
  | none => .error (.unreadable p)
  | some text =>
    match Configuration.ofJsonText text with
    | .error _ => .error (.noConfiguration p)
    | .ok c =>
      match c.compile with
      | .error _ => .error (.uncompiled p)
      | .ok form => .ok form.listing

/-- The settings of a home directory. -/
def settings (home : Path) (files : Files) : Except CommandError Settings :=
  match Settings.load home files with
  | .error e => .error (.settings e)
  | .ok s => .ok s

/-- The body of a request in a file. -/
def body (p : Path) (files : Files) : Except CommandError Json :=
  match files.text? p with
  | none => .error (.unreadable p)
  | some text =>
    match Json.parse text with
    | .error _ => .error (.noJson p)
    | .ok v => .ok v

/-- What a request to a registry comes to, and the store after it. -/
abbrev Request := Registry → Store → Outcome × Store

/-- Sends a request to the surveys and the database of a service. -/
def send (s : Settings) (place : Place) (request : Request) (files : Files) : Outcome × Files :=
  match Registry.ofDirectory s.retention s.surveys files with
  | .error e => (.failure e, files)
  | .ok r =>
    let (outcome, store) := request r (files.store place)
    (outcome, files.setStore place store)

def submitRequest (survey : String) (token : Token) (now : Instant) (body : Json) : Request :=
  fun r store =>
    match r.submit survey token now body store with
    | .ok (receipt, store) => (.success (receipt.token.text ++ "\n"), store)
    | .error (.validation report) => (.rejection report, store)
    | .error e => (.failure (.survey e), store)

def verifyRequest (survey : String) (token : Token) : Request :=
  fun r store =>
    match r.verify survey token store with
    | .ok (identity, store) => (.success (identity ++ "\n"), store)
    | .error e => (.failure (.survey e), store)

def purgeRequest (survey : String) (now : Instant) : Request :=
  fun r store =>
    match r.purge survey now store with
    | .ok (store, count) =>
      (.success ("Purged " ++ toString count ++ " pending entries from " ++ survey ++ "\n"), store)
    | .error e => (.failure (.survey e), store)

/-- Submits the body in a file, in a database that is made where there is none. -/
def submitFile (home : Path) (now : Instant) (token : Token) (survey : String) (p : Path)
    (files : Files) : Outcome × Files :=
  match settings home files with
  | .error e => (.failure e, files)
  | .ok s =>
    match body p files with
    | .error e => (.failure e, files)
    | .ok body =>
      match files.createDatabase s.database with
      | (.error _, files) => (.failure (.unopened s.database), files)
      | (.ok place, files) => send s place (submitRequest survey token now body) files

/-- Sends a request for which there has to be a database. -/
def sendExisting (home : Path) (request : Request) (files : Files) : Outcome × Files :=
  match settings home files with
  | .error e => (.failure e, files)
  | .ok s =>
    match files.openDatabase s.database with
    | (.error _, files) => (.failure (.noDatabase s.database), files)
    | (.ok place, files) => send s place request files

def run (c : Command) (home : Path) (now : Instant) (token : Token) (files : Files) :
    Outcome × Files :=
  let (_, files) := files.createDirectories (logsIn home)
  match c with
  | .check p =>
    match checkFile p files with
    | .error e => (.failure e, files)
    | .ok listing => (.success listing, files)
  | .submit survey p => submitFile home now token survey p files
  | .verify survey token => sendExisting home (verifyRequest survey ⟨token⟩) files
  | .purge survey => sendExisting home (purgeRequest survey now) files

end Command
end SurveyIntake
