import Std.Time.DateTime.Timestamp
import SurveyIntake.Command.Arguments
import SurveyIntake.Command.Run
import SurveyIntake.Files.Content
import SurveyIntake.Time.Calendar

/-!
# SurveyIntake.Main

The program: it reads from the disk what a command can see, runs the command, and writes back what has
changed.
-/

namespace SurveyIntake
namespace Disk

def pathText (place : Place) : String := "/" ++ "/".intercalate place

def current : IO Place := do
  return (Path.mk (← IO.currentDir).toString).pieces.filter fun n => n != ""

def node? (place : Place) : IO (Option Node) := do
  let path := (← IO.currentDir) / pathText place
  if ← path.isDir then return some .directory
  try return some (.ofContent (← IO.FS.readBinFile path)) catch _ => return none

/-- Adds what is on the way of a path. -/
def addWay (files : Files) : Place → List Path.Step → IO Files
  | _, [] => return files
  | place, .up :: rest => addWay files place.dropLast rest
  | place, .name n :: rest => do
    match ← node? (place ++ [n]) with
    | none => return files
    | some node => addWay (files.insert (place ++ [n]) node) (place ++ [n]) rest

/-- Nothing but the current directory, which relative paths start from. -/
def start : IO Files := do
  let here ← current
  addWay { Files.empty with start := here } [] (here.map .name)

/-- Adds what is on the way of a path, and what is in the directory that it leads to. -/
def add (files : Files) (p : Path) : IO Files := do
  let files ← addWay files (files.origin p) p.steps
  match files.locate p with
  | none => return files
  | some place =>
    if files.isDirectoryAt place then
      let entries ← ((← IO.currentDir) / pathText place).readDir
      entries.toList.foldlM (fun files e => addWay files place [.name e.fileName]) files
    else return files

/-- Writes the directories and the databases that are not as they were. -/
def write (before after : Files) : IO Unit :=
  after.nodes.entries.forM fun (place, node) => do
    let path := pathText place
    match node, before.node? place with
    | .directory, none => IO.FS.createDirAll path
    | .database s, old =>
      if (old.bind Node.content) != some s.text.toUTF8 then IO.FS.writeBinFile path s.text.toUTF8
    | _, _ => return ()

end Disk

/-- The paths, apart from the settings, that a command looks at. -/
def Command.paths (s : Settings) : Command → List Path
  | .check p => [p]
  | .submit _ p => [p, s.database, s.database.unescaped?.getD s.database, s.surveys]
  | _ => [s.database, s.database.unescaped?.getD s.database, s.surveys]

def clock : IO Instant := do
  let now ← Std.Time.Timestamp.now
  return (Instant.ofMillis? now.toMillisecondsSinceUnixEpoch.val).getD .epoch

def usage : String :=
  "Usage: fastsurvey [-v|--verbose] [--home HOME] COMMAND\n\n" ++
    "  check CONFIGURATION\n  submit SURVEY_KEY SUBMISSION\n  verify SURVEY_KEY TOKEN\n" ++
    "  purge SURVEY_KEY\n"

/-- Keeps a line about a command in the log of the day. -/
def log (home : Path) (now : Instant) (verbose : Bool) (o : Outcome) : IO Unit := do
  let line := now.text ++ " " ++ toString o.code ++ " " ++ o.error.getD "" ++ "\n"
  if verbose then IO.eprint line
  let name := logName "fastsurvey" ++ "." ++ String.ofList (now.text.toList.takeWhile (· != 'T'))
  try
    let handle ← IO.FS.Handle.mk ((logsIn home).join name).text .append
    handle.putStr line
  catch _ => IO.eprintln "Warning: failed to initialize logging"

def runOnDisk (home : Path) (verbose : Bool) (c : Command) : IO UInt32 := do
  let now ← clock
  let token := Token.ofBytes ((← IO.getRandomBytes 16).toList.map UInt8.toNat)
  let files ← Disk.add (← Disk.start) (logsIn home)
  let files ← Disk.add files (Settings.file home)
  let settings := (Settings.load home files).toOption.getD (.defaults home)
  let files ← (c.paths settings).foldlM Disk.add files
  let (o, after) := c.run home now token files
  Disk.write files after
  log home now verbose o
  IO.print o.output
  o.error.forM fun m => IO.eprintln ("Error: " ++ m)
  return o.code.toUInt32

end SurveyIntake

open SurveyIntake in
def main (args : List String) : IO UInt32 := do
  match Invocation.ofTexts args with
  | none =>
    IO.eprint usage
    return Outcome.misuse.code.toUInt32
  | some i =>
    match i.options.home.or (homeOf (← IO.getEnv "FASTSURVEY_HOME") (← IO.getEnv "HOME") none) with
    | none =>
      IO.eprintln "Error: Could not determine home directory"
      return 1
    | some home => runOnDisk home i.options.verbose i.command
