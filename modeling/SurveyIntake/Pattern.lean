import SurveyIntake.Regex.Reader
import SurveyIntake.Regex.Meaning
import SurveyIntake.Regex.Size
import SurveyIntake.Regex.Positions

/-!
# SurveyIntake.Pattern

Patterns: regular expressions between anchors, for values that have to match as a whole.

* `Regex.compile?`    — the meaning of a source, if it is well formed and not too large.
* `Pattern.ofSource?` — the pattern of a source, which is put between anchors.
* `Pattern.accepts`   — whether what stands between anchors is found in a value.
* `addressPattern`    — the pattern of addresses where none is given.
-/

namespace SurveyIntake

def Regex.compile? (source : List Char) : Option Regex.Expr :=
  match Regex.Tree.ofSource? source with
  | none => none
  | some t =>
    match t.expr? .default with
    | none => none
    | some (e, _) => if e.fits then some e else none

/-- A source between the anchors of a text. -/
def Pattern.anchored (source : List Char) : List Char :=
  "^(?:".toList ++ source ++ ")$".toList

structure Pattern where
  source : String
  expr : Regex.Expr
  compiled : Regex.compile? (Pattern.anchored source.toList) = some expr
  deriving DecidableEq

namespace Pattern

def ofSource? (source : String) : Option Pattern :=
  match h : Regex.compile? (anchored source.toList) with
  | none => none
  | some e => some ⟨source, e, h⟩

def accepts (p : Pattern) (value : String) : Bool := p.expr.occurs value.toList

end Pattern

/-- An address: some characters, a sign, some more, a point, and some more. -/
def addressSource : String := "[^@\\s]+@[^@\\s]+\\.[^@\\s]+"

def addressPattern : Pattern := (Pattern.ofSource? addressSource).get (by decide +kernel)

end SurveyIntake
