import SurveyIntake.Configuration.Kind
import SurveyIntake.Json.Printer
import SurveyIntake.Pattern

/-!
# SurveyIntake.Form.Rule

Rules: what constraints ask of answers.

* `Constraint`     — the names that constraints may have, each with the kinds of fields it is for.
* `Rule`           — a constraint with its argument.
* `Rule.ofValue`   — the rule of a constraint and its value in a configuration.
* `Rule.textFault?`, `Rule.countFault?` — what a rule says about a text or a number of selections.
-/

namespace SurveyIntake

inductive Constraint where
  | minChars
  | maxChars
  | minSelect
  | maxSelect
  | regex
  deriving DecidableEq

namespace Constraint

def all : List Constraint := [.minChars, .maxChars, .minSelect, .maxSelect, .regex]

def name : Constraint → String
  | .minChars => "min_chars"
  | .maxChars => "max_chars"
  | .minSelect => "min_select"
  | .maxSelect => "max_select"
  | .regex => "regex"

/-- The kinds of fields that may have the constraint. -/
def kinds : Constraint → List Kind
  | .minChars | .maxChars => [.email, .text, .list]
  | .minSelect | .maxSelect => [.selection]
  | .regex => [.email, .text]

def appliesTo (c : Constraint) (k : Kind) : Bool := c.kinds.contains k

def ofName? (name : String) : Option Constraint := all.find? fun c => c.name == name

end Constraint

inductive Rule where
  | minChars (n : Nat)
  | maxChars (n : Nat)
  | minSelect (n : Nat)
  | maxSelect (n : Nat)
  | pattern (p : Pattern)
  deriving DecidableEq

/-- What is wrong with the value of a constraint. -/
inductive ValueFault where
  | noBound (value : Json)
  | noText (value : Json)
  | noPattern
  deriving DecidableEq

def ValueFault.message : ValueFault → String
  | .noBound value => "expects a non-negative integer, got " ++ value.render
  | .noText value => "expects a string, got " ++ value.render
  | .noPattern => "is not a valid regular expression"

namespace Rule

def constraint : Rule → Constraint
  | .minChars _ => .minChars
  | .maxChars _ => .maxChars
  | .minSelect _ => .minSelect
  | .maxSelect _ => .maxSelect
  | .pattern _ => .regex

def name (r : Rule) : String := r.constraint.name

def text : Rule → String
  | .minChars n => "min_chars=" ++ toString n
  | .maxChars n => "max_chars=" ++ toString n
  | .minSelect n => "min_select=" ++ toString n
  | .maxSelect n => "max_select=" ++ toString n
  | .pattern p => "regex='" ++ p.source ++ "'"

/-- The largest bound: bounds have 64 bits. -/
def maxBound : Nat := UInt64.size - 1

def bound? : Json → Option Nat
  | .number (.integer i) => if 0 ≤ i ∧ i ≤ maxBound then some i.toNat else none
  | _ => none

/-- The rule of a bound, made by `rule`. -/
def ofBound (rule : Nat → Rule) (value : Json) : Except ValueFault Rule :=
  match bound? value with
  | some n => .ok (rule n)
  | none => .error (.noBound value)

def ofSource : Json → Except ValueFault Rule
  | .string source =>
    match Pattern.ofSource? source with
    | some p => .ok (.pattern p)
    | none => .error .noPattern
  | value => .error (.noText value)

def ofValue (c : Constraint) (value : Json) : Except ValueFault Rule :=
  match c with
  | .minChars => ofBound .minChars value
  | .maxChars => ofBound .maxChars value
  | .minSelect => ofBound .minSelect value
  | .maxSelect => ofBound .maxSelect value
  | .regex => ofSource value

/-- The bound of a rule of this constraint, if it has one. -/
def boundOf? (c : Constraint) : Rule → Option Nat
  | .minChars n => if c = .minChars then some n else none
  | .maxChars n => if c = .maxChars then some n else none
  | .minSelect n => if c = .minSelect then some n else none
  | .maxSelect n => if c = .maxSelect then some n else none
  | .pattern _ => none

def mismatch (p : Pattern) : String := "value does not match regex '" ++ p.source ++ "'"

/-- The message about a text that breaks the rule. -/
def textFault? (r : Rule) (s : String) : Option String :=
  match r with
  | .minChars n =>
    if s.length < n then some ("Must be at least " ++ toString n ++ " characters long") else none
  | .maxChars n =>
    if n < s.length then some ("Must be at most " ++ toString n ++ " characters long") else none
  | .pattern p => if p.accepts s then none else some (mismatch p)
  | .minSelect _ | .maxSelect _ => none

/-- The message about a number of selections that breaks the rule. -/
def countFault? (r : Rule) (count : Nat) : Option String :=
  match r with
  | .minSelect n =>
    if count < n then some ("Must select at least " ++ toString n ++ " options") else none
  | .maxSelect n =>
    if n < count then some ("Must select at most " ++ toString n ++ " options") else none
  | .minChars _ | .maxChars _ | .pattern _ => none

end Rule
end SurveyIntake
