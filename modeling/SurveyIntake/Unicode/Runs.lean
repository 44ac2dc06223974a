import SurveyIntake.Text.Basic

/-!
# SurveyIntake.Unicode.Runs

The written form of the character tables.

* `Runs.gaps`   — a set of characters as numbers in base 36: how many code points are skipped, how
  many more than one follow, and so on in turn.
* `Runs.labels` — a partition of all code points as words, each a decimal count and the label that
  this many code points carry.
-/

namespace SurveyIntake
namespace Runs

/-- The value of a digit in base 36. -/
def digit (c : Char) : Nat := if c.isDigit then c.toNat - 48 else c.toNat - 87

/-- A number written in the given base. -/
def number (base : Nat) (word : List Char) : Nat :=
  word.foldl (fun n c => base * n + digit c) 0

/-- Ranges from the skips and lengths that lead to them. -/
def place (start : Nat) : List Nat → List (Nat × Nat)
  | skip :: more :: rest => (start + skip, start + skip + more) :: place (start + skip + more + 1) rest
  | _ => []

/-- The words of a text of several lines. -/
def words (lines : List String) : List (List Char) := lines.flatMap fun l => Text.split ' ' l.toList

def gaps (lines : List String) : CharSet := ⟨place 0 ((words lines).map (number 36))⟩

/-- The ranges of a partition in ascending order, each with its label. -/
def labelled (start : Nat) : List (List Char) → List ((Nat × Nat) × String)
  | [] => []
  | word :: rest =>
    let count := number 10 (word.takeWhile Char.isDigit)
    ((start, start + count - 1), String.ofList (word.dropWhile Char.isDigit)) ::
      labelled (start + count) rest

def labels (lines : List String) : List ((Nat × Nat) × String) := labelled 0 (words lines)

/-- The code points whose label is accepted. -/
def select (accept : String → Bool) (runs : List ((Nat × Nat) × String)) : CharSet :=
  .normal ⟨(runs.filter fun r => accept r.2).map Prod.fst⟩

end Runs
end SurveyIntake
