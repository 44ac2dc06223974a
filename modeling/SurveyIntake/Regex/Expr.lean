import SurveyIntake.Unicode.Category
import SurveyIntake.Unicode.Property
import SurveyIntake.Text.Basic

/-!
# SurveyIntake.Regex.Expr

What regular expressions mean.

* `Look` — a condition on the characters before and after a place in a text.
* `Expr` — expressions over sets of characters and such conditions.
* `Expr.concat`, `Expr.alternation`, `Expr.repetition` — expressions put together, without parts that
  make no difference.

Sequences and alternatives nest to the right.
-/

namespace SurveyIntake
namespace Regex

/-- The characters of words. -/
def wordChars : CharSet :=
  .unions [Property.set "Alphabetic", Category.sets ["Mn", "Mc", "Me", "Nd", "Pc"],
    Property.set "Join_Control"]

def asciiWordChars : CharSet := ⟨[(48, 57), (65, 90), (95, 95), (97, 122)]⟩

inductive WordTest where
  | boundary
  | notBoundary
  | start
  | finish
  | startHalf
  | finishHalf
  deriving DecidableEq

def WordTest.holds (before after : Bool) : WordTest → Bool
  | .boundary => before != after
  | .notBoundary => before == after
  | .start => !before && after
  | .finish => before && !after
  | .startHalf => !before
  | .finishHalf => !after

inductive Look where
  | textStart
  | textEnd
  | lineStart (crlf : Bool)
  | lineEnd (crlf : Bool)
  | word (unicode : Bool) (test : WordTest)
  deriving DecidableEq

/-- Whether the condition holds between two characters, either of which is missing at an end. With
`crlf`, a carriage return ends a line too, and there is no place between it and a line feed. -/
def Look.holds (before after : Option Char) : Look → Bool
  | .textStart => before.isNone
  | .textEnd => after.isNone
  | .lineStart false => before.isNone || before == some '\n'
  | .lineStart true =>
    before.isNone || before == some '\n' || (before == some '\r' && after != some '\n')
  | .lineEnd false => after.isNone || after == some '\n'
  | .lineEnd true =>
    after.isNone || after == some '\r' || (after == some '\n' && before != some '\r')
  | .word unicode test =>
    let chars := if unicode then wordChars else asciiWordChars
    test.holds (before.any chars.contains) (after.any chars.contains)

/-- Expressions. A repetition is `greedy` if it takes as much as it can first; that tells where a match
ends, but not whether there is one. -/
inductive Expr where
  | empty
  | chars (set : CharSet)
  | look (l : Look)
  | capture (body : Expr)
  | seq (a b : Expr)
  | alt (a b : Expr)
  | repeated (min : Nat) (max : Option Nat) (greedy : Bool) (body : Expr)
  deriving DecidableEq

namespace Expr

/-! ## Sequences -/

def items : Expr → List Expr
  | .empty => []
  | .seq a b => a :: b.items
  | e => [e]

def ofItems : List Expr → Expr
  | [] => .empty
  | [e] => e
  | e :: rest => .seq e (ofItems rest)

/-- Expressions one after the other. None of the items of a sequence is a sequence or empty. -/
def concat (es : List Expr) : Expr := ofItems (es.flatMap items)

/-- The only text that matches, if it is known from the characters alone. -/
def text? : Expr → Option (List Char)
  | .chars set => set.single?.map fun c => [c]
  | .seq a b =>
    match a.text?, b.text? with
    | some s, some t => some (s ++ t)
    | _, _ => none
  | _ => none

def isChar : Expr → Bool
  | .chars set => set.single?.isSome
  | _ => false

/-- Items put together as long as each is a character. -/
def pieces : List Expr → List Expr
  | [] => []
  | e :: rest =>
    match pieces rest with
    | [] => [e]
    | .seq a b :: ps => if e.isChar then .seq e (.seq a b) :: ps else e :: .seq a b :: ps
    | p :: ps => if e.isChar && p.isChar then .seq e p :: ps else e :: p :: ps

/-! ## Alternatives -/

def branches : Expr → List Expr
  | .alt a b => a :: b.branches
  | e => [e]

def ofBranches : List Expr → Expr
  | [] => .chars .empty
  | [e] => e
  | e :: rest => .alt e (ofBranches rest)

/-- The set of an expression for one character of a set; `single` tells whether the set has to have one
member, or else may not. -/
def set? (single : Bool) : Expr → Option CharSet
  | .chars set => if set.single?.isSome = single then some set else none
  | _ => none

/-- The choice between expressions; between characters, or between sets, it is one set. -/
def join (es : List Expr) : Expr :=
  let es := es.flatMap branches
  match (es.mapM (set? true)).or (es.mapM (set? false)) with
  | some sets => .chars (.unions sets)
  | none => ofBranches es

def hasCapture : Expr → Bool
  | .empty | .chars _ | .look _ => false
  | .capture _ => true
  | .seq a b | .alt a b => a.hasCapture || b.hasCapture
  | .repeated _ _ _ body => body.hasCapture

/-- What two lists begin with. Captures are never the same. -/
def common : List Expr → List Expr → List Expr
  | a :: as, b :: bs => if a = b ∧ !a.hasCapture then a :: common as bs else []
  | _, _ => []

/-- What all of several sequences begin with, and what follows it in each. -/
def factor? (es : List Expr) : Option (List Expr × List Expr) :=
  match es.map fun e => pieces e.items with
  | [] => none
  | ps :: rest =>
    let shared := rest.foldl common ps
    if shared.isEmpty ∨ (ps :: rest).any fun qs => qs.length < 2 then none
    else some (shared, (ps :: rest).map fun qs => concat (qs.drop shared.length))

/-- Alternatives. What all of them begin with stands before the choice between them. -/
def alternation (es : List Expr) : Expr :=
  match factor? (es.flatMap branches) with
  | some (shared, rests) => concat (shared ++ [join rests])
  | none => join es

/-! ## Repetitions -/

/-- Whether only the empty text can match. -/
def isNull : Expr → Bool
  | .empty | .look _ => true
  | .chars _ => false
  | .capture body => body.isNull
  | .seq a b | .alt a b => a.isNull && b.isNull
  | .repeated _ _ _ body => body.isNull

/-- What matches the empty text only is not repeated more than once. -/
def repetition (min : Nat) (max : Option Nat) (greedy : Bool) (body : Expr) : Expr :=
  let (min, max) := if body.isNull then (Nat.min min 1, some (Nat.min (max.getD 1) 1)) else (min, max)
  if max = some 0 then .empty
  else if min = 1 ∧ max = some 1 then body
  else .repeated min max greedy body

end Expr
end Regex
end SurveyIntake
