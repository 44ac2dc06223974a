import SurveyIntake.Command.Basic

/-!
# SurveyIntake.Command.Arguments

Commands as they are given on a command line.

* `Argument.ofTexts`   — options and words. After two hyphens all texts are words, the name of a command
  comes before them.
* `Options.ofArguments` — options, of which none is given twice.
* `Invocation.ofTexts` — a command with its options, which stand in front of its name or after it. The
  home directory that is given after the name goes first.
-/

namespace SurveyIntake

/-! ## Arguments -/

inductive Argument where
  | verbose
  | home (value : String)
  | word (text : String)
  deriving DecidableEq

namespace Argument

def isOption : Argument → Bool
  | .word _ => false
  | _ => true

def word? : Argument → Option String
  | .word text => some text
  | _ => none

def home? : Argument → Option String
  | .home value => some value
  | _ => none

/-- What a text is on a command line. -/
inductive Form where
  /-- The short option, so many times. -/
  | verbose (times : Nat)
  /-- The option for the home directory, with the value that may stand behind a sign of equality. -/
  | home (value : Option String)
  | separator
  | word
  | unknown
  deriving DecidableEq

def homeSign : List Char := "--home=".toList

def Form.ofText (text : String) : Form :=
  if text = "--" then .separator
  else if text = "--verbose" then .verbose 1
  else if text = "--home" then .home none
  else if homeSign.isPrefixOf text.toList then
    .home (some (String.ofList (text.toList.drop homeSign.length)))
  else
    match text.toList with
    | '-' :: c :: rest => if (c :: rest).all (· == 'v') then .verbose (rest.length + 1) else .unknown
    | _ => .word

/-- The arguments in texts; `named` holds after the name of the command. -/
def ofTexts (named : Bool) : List String → Option (List Argument)
  | [] => some []
  | text :: rest =>
    match Form.ofText text with
    | .verbose times => (ofTexts named rest).map (List.replicate times .verbose ++ ·)
    | .home (some value) => (ofTexts named rest).map (.home value :: ·)
    | .home none =>
      match rest with
      | [] => none
      | value :: rest =>
        if Form.ofText value = .word then (ofTexts named rest).map (.home value :: ·) else none
    | .separator => if named then some (rest.map .word) else none
    | .word => (ofTexts true rest).map (.word text :: ·)
    | .unknown => none

end Argument

/-! ## Options -/

structure Options where
  verbose : Bool
  home : Option Path
  deriving DecidableEq

namespace Options

def ofArguments (args : List Argument) : Option Options :=
  let verbose := args.contains .verbose
  if 1 < args.count .verbose then none
  else
    match args.filterMap Argument.home? with
    | [] => some ⟨verbose, none⟩
    | [home] => if home = "" then none else some ⟨verbose, some ⟨home⟩⟩
    | _ => none

/-- Options in front of the name of a command together with those after it. -/
def merge (outer inner : Options) : Options :=
  ⟨outer.verbose || inner.verbose, inner.home.or outer.home⟩

end Options

/-! ## Commands -/

namespace Command

/-- A path on a command line, which is not empty. -/
def path? (text : String) : Option Path := if text = "" then none else some ⟨text⟩

def ofWords : List String → Option Command
  | ["check", configuration] => (path? configuration).map .check
  | ["submit", survey, submission] => (path? submission).map (.submit survey)
  | ["verify", survey, token] => some (.verify survey token)
  | ["purge", survey] => some (.purge survey)
  | _ => none

end Command

structure Invocation where
  options : Options
  command : Command
  deriving DecidableEq

namespace Invocation

def ofArguments (args : List Argument) : Option Invocation :=
  let outer := args.takeWhile Argument.isOption
  let inner := (args.dropWhile Argument.isOption).filter Argument.isOption
  match Options.ofArguments outer, Options.ofArguments inner,
    Command.ofWords (args.filterMap Argument.word?) with
  | some outer, some inner, some command => some ⟨outer.merge inner, command⟩
  | _, _, _ => none

def ofTexts (texts : List String) : Option Invocation :=
  (Argument.ofTexts false texts).bind ofArguments

end Invocation
end SurveyIntake
