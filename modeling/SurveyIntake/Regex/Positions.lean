import SurveyIntake.Regex.Expr

/-!
# SurveyIntake.Regex.Positions

Matching expressions, on sets of positions in a text.

A text of `n` characters has positions from 0 to `n`, before each character and at the end. A set of them
is a number whose bit `i` says whether `i` is a member.

* `Plan`        — an expression read against one text.
* `Plan.run`    — the positions at which a match may end that begins at one of the given positions.
* `Expr.occurs` — whether an expression matches anywhere in a text.
-/

namespace SurveyIntake
namespace Regex

/-- The positions of a text, each with the characters before and after it. -/
def positions (before : Option Char) : List Char → List (Option Char × Option Char)
  | [] => [(before, none)]
  | c :: rest => (before, some c) :: positions (some c) rest

/-- The positions that pass a test. -/
def select (test : Option Char → Option Char → Bool) : List (Option Char × Option Char) → Nat
  | [] => 0
  | (before, after) :: rest => 2 * select test rest + (if test before after then 1 else 0)

/-- An expression read against a text: a character is taken at some positions, and a condition holds at
some. -/
inductive Plan where
  | stay (at_ : Nat)
  | step (at_ : Nat)
  | seq (a b : Plan)
  | alt (a b : Plan)
  | repeated (min : Nat) (max : Option Nat) (body : Plan)

def Expr.plan (text : List (Option Char × Option Char)) : Expr → Plan
  | .empty => .stay (select (fun _ _ => true) text)
  | .chars s => .step (select (fun _ after => after.any s.contains) text)
  | .look l => .stay (select (fun before after => l.holds before after) text)
  | .capture body => body.plan text
  | .seq a b => .seq (a.plan text) (b.plan text)
  | .alt a b => .alt (a.plan text) (b.plan text)
  | .repeated min max _ body => .repeated min max (body.plan text)

/-- Follows a step a number of times, or until it leads nowhere new. -/
def exactly (f : Nat → Nat) : Nat → Nat → Nat
  | 0, s => s
  | n + 1, s => if f s = s then s else exactly f n (f s)

/-- Follows a step a number of times at most. Only positions that have just been `found` for the first
time lead to others that have not. -/
def atMost (f : Nat → Nat) : Nat → Nat → Nat → Nat
  | 0, seen, _ => seen
  | n + 1, seen, found =>
    let all := seen ||| f found
    if all = seen then seen else atMost f n all (all ^^^ seen)

/-- The ends of matches that begin at one of the positions, in a text that has `count` of them. -/
def Plan.run (count : Nat) : Plan → Nat → Nat
  | .stay here => fun s => s &&& here
  | .step here => fun s => (s &&& here) <<< 1
  | .seq a b => fun s => b.run count (a.run count s)
  | .alt a b => fun s => a.run count s ||| b.run count s
  | .repeated min max body => fun s =>
    let s := exactly (body.run count) min s
    atMost (body.run count) (max.elim count (· - min)) s s

def Expr.occurs (e : Expr) (text : List Char) : Bool :=
  let places := positions none text
  (e.plan places).run places.length (1 <<< places.length - 1) != 0

end Regex
end SurveyIntake
