import SurveyIntake.Regex.Expr
import SurveyIntake.Regex.Layout

/-!
# SurveyIntake.Regex.Size

How much room automata for an expression take, over the bytes of UTF-8.

* `Expr.layout` — the states for an expression, for an automaton that reads forwards or backwards.
* `Expr.frame`  — these and the states around them.
* `Expr.fits`   — whether either automaton stays within the limit.
-/

namespace SurveyIntake
namespace Regex
namespace Expr

/-- The fewest characters of a match. An empty set leaves it open. -/
def fewest : Expr → Option Nat
  | .empty | .look _ => some 0
  | .chars set => if set.isEmpty then none else some 1
  | .capture body => body.fewest
  | .seq a b =>
    match a.fewest, b.fewest with
    | some m, some n => some (m + n)
    | _, _ => none
  | .alt a b =>
    match a.fewest, b.fewest with
    | some m, some n => some (min m n)
    | _, _ => none
  | .repeated min _ _ body => body.fewest.map (min * ·)

/-- Whether it is known that no match is empty. -/
def isProper (e : Expr) : Bool := e.fewest.any (0 < ·)

/-! ## Layouts -/

/-- The states for a set; `large` tells those for one that is neither ASCII nor small. -/
def charsLayout (large : List Utf8.Sequence → Layout) (set : CharSet) : Layout :=
  match set.single? with
  | some c => .fixed c.utf8Size 0
  | none =>
    if set.isAscii then .fixed 2 (Room.edgeSize * set.ranges.length) else large (Utf8.sequences set)

/-- A state that leads to two others. -/
def fork : Layout := .fixed 1 (2 * Room.wayOnSize)

/-- A state that only leads on. -/
def passage : Layout := .fixed 1 0

/-- The states for a repetition. -/
def repeatedLayout (proper : Bool) (body : Layout) (min : Nat) : Option Nat → Layout
  | none =>
    if min = 0 then
      if proper then .all [fork, body] else .all [body, fork, fork, passage]
    else .andThen (.copies min body) fork
  | some max =>
    if min = 0 ∧ max = 1 then .all [fork, body, passage]
    else if min = max then .copies min body
    else
      .all [if min = 0 then passage else .copies min body, passage,
        .copies (max - min) (.andThen fork body)]

/-- The texts of alternatives, if there is nothing else in them. -/
def texts? : Expr → Option (List (List Char))
  | .alt a b =>
    match a.text?, b.texts? with
    | some t, some ts => some (t :: ts)
    | _, _ => none
  | e => e.text?.map fun t => [t]

/-- The states for an expression, given those for each of its branches. -/
def ofParts (d : Direction) (e : Expr) (parts : List Layout) : Layout :=
  match e with
  | .alt _ _ =>
    match e.texts? with
    | some ts => .texts d ts
    | none => .choice parts
  | _ => .choice parts

/-- The states for each of the branches of an expression. -/
def parts (d : Direction) (large : List Utf8.Sequence → Layout) : Expr → List Layout
  | .empty | .look _ => [passage]
  | .chars set => [charsLayout large set]
  | .capture body =>
    let inside := body.ofParts d (body.parts d large)
    match d with
    | .forwards => [.all [passage, inside, passage]]
    | .backwards => [inside]
  | .seq a b =>
    let first := a.ofParts d (a.parts d large)
    let rest := b.ofParts d (b.parts d large)
    match d with
    | .forwards => [.andThen first rest]
    | .backwards => [.andThen rest first]
  | .alt a b => a.ofParts d (a.parts d large) :: b.parts d large
  | .repeated min max _ body =>
    [repeatedLayout body.isProper (body.ofParts d (body.parts d large)) min max]

def layout (d : Direction) (large : List Utf8.Sequence → Layout) (e : Expr) : Layout :=
  e.ofParts d (e.parts d large)

/-! ## Around an expression -/

/-- Whether every match begins at the start of the text, or ends at its end. -/
def isAnchored (d : Direction) : Expr → Bool
  | .empty | .chars _ => false
  | .look l => l == (match d with | .forwards => .textStart | .backwards => .textEnd)
  | .capture body => body.isAnchored d
  | .seq a b =>
    match d with
    | .forwards => a.isAnchored d || (a.isNull && b.isAnchored d)
    | .backwards => b.isAnchored d || (b.isNull && a.isAnchored d)
  | .alt a b => a.isAnchored d && b.isAnchored d
  | .repeated min _ _ body => 0 < min && body.isAnchored d

/-- What reads up to the place where a match begins. -/
def lead (d : Direction) (e : Expr) : Layout :=
  if e.isAnchored d then passage else .all [fork, .fixed 2 Room.edgeSize]

/-- The automaton for an expression: the match as a whole is captured, and a last state accepts it. -/
def frame (d : Direction) (large : List Utf8.Sequence → Layout) (e : Expr) : Layout :=
  .all [e.lead d, (Expr.capture e).layout d large, passage]

/-- Whether the automaton stays within the limit. Mostly a rough bound tells. -/
def fitsIn (d : Direction) (e : Expr) : Bool :=
  ((e.frame d .ample).place d ⟨0, 0⟩).isSome || ((e.frame d .set).place d ⟨0, 0⟩).isSome

def fits (e : Expr) : Bool := e.fitsIn .forwards && e.fitsIn .backwards

end Expr
end Regex
end SurveyIntake
