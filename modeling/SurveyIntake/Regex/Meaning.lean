import SurveyIntake.Regex.Tree
import SurveyIntake.Regex.Expr
import SurveyIntake.Unicode.Folding
import SurveyIntake.Unicode.Name

/-!
# SurveyIntake.Regex.Meaning

From written expressions to their meaning.

* `Mode`         — what the flags say at a place of an expression.
* `SetTree.set?` — the characters that the inside of brackets stands for.
* `Tree.expr?`   — the meaning of an expression.

Flags hold from where they stand to the end of the group around them. With Unicode off, only ASCII
characters can be members of a set, and none can be excluded.
-/

namespace SurveyIntake
namespace Regex

structure Mode where
  caseless : Bool
  multiline : Bool
  dotAll : Bool
  swapGreed : Bool
  unicode : Bool
  crlf : Bool

namespace Mode

def default : Mode := ⟨false, false, false, false, true, false⟩

def set (m : Mode) : Flag × Bool → Mode
  | (.caseless, on) => { m with caseless := on }
  | (.multiline, on) => { m with multiline := on }
  | (.dotAll, on) => { m with dotAll := on }
  | (.swapGreed, on) => { m with swapGreed := on }
  | (.unicode, on) => { m with unicode := on }
  | (.crlf, on) => { m with crlf := on }
  | (.extended, _) => m

def apply (m : Mode) (flags : Flags) : Mode := flags.foldl set m

/-- A set with the case variants of its members, if case does not matter. -/
def fold (m : Mode) (s : CharSet) : CharSet :=
  if m.caseless then if m.unicode then Folding.closure s else Folding.asciiClosure s else s

def negate? (m : Mode) (negated : Bool) (s : CharSet) : Option CharSet :=
  if negated then if m.unicode then some s.compl else none else some s

/-- The character of a literal. With Unicode off it may not be a byte that is no character. -/
def literal? (m : Mode) (l : Literal) : Option Char :=
  if !m.unicode ∧ l.byte ∧ 0x7F < l.char.toNat then none else some l.char

/-- The character of a literal that is a member of a set. -/
def member? (m : Mode) (l : Literal) : Option Char :=
  if !m.unicode ∧ 0x7F < l.char.toNat then none else some l.char

end Mode

/-! ## Sets -/

def digitChars : CharSet := Category.set "Nd"

def Letter.set (unicode : Bool) : Letter → CharSet
  | .digit => if unicode then digitChars else .range 48 57
  | .space => if unicode then Text.blanks else ⟨[(9, 13), (32, 32)]⟩
  | .word => if unicode then wordChars else asciiWordChars

def Mode.letter? (m : Mode) (negated : Bool) (l : Letter) : Option CharSet :=
  m.negate? negated (l.set m.unicode)

def Query.set? : Query → Option CharSet
  | .name n => Unicode.named? n
  | .value p v => Unicode.valued? p v

def Mode.property? (m : Mode) (negated : Bool) (q : Query) : Option CharSet :=
  if m.unicode then
    match q.set? with
    | none => none
    | some s => m.negate? negated (m.fold s)
  else none

def SetOp.apply : SetOp → CharSet → CharSet → CharSet
  | .inter => .inter
  | .diff => .diff
  | .symmDiff => .symmDiff

mutual

def SetTree.set? (m : Mode) : SetTree → Option CharSet
  | .empty => some .empty
  | .literal l => (m.member? l).map .singleton
  | .range lo hi =>
    match m.member? lo, m.member? hi with
    | some lo, some hi => some (.range lo.toNat hi.toNat)
    | _, _ => none
  | .ascii negated s => m.negate? negated (m.fold s)
  | .letter negated l => m.letter? negated l
  | .property negated q => m.property? negated q
  | .nested negated inside =>
    match inside.set? m with
    | none => none
    | some s => m.negate? negated (m.fold s)
  | .union items => SetTree.unionSet? m items
  | .op o a b =>
    match a.set? m, b.set? m with
    | some a, some b => some (o.apply (m.fold a) (m.fold b))
    | _, _ => none

def SetTree.unionSet? (m : Mode) : List SetTree → Option CharSet
  | [] => some .empty
  | x :: xs =>
    match x.set? m, SetTree.unionSet? m xs with
    | some a, some b => some (.union a b)
    | _, _ => none

end

/-! ## Expressions -/

def Assertion.look (m : Mode) : Assertion → Look
  | .lineStart => if m.multiline then .lineStart m.crlf else .textStart
  | .lineEnd => if m.multiline then .lineEnd m.crlf else .textEnd
  | .textStart => .textStart
  | .textEnd => .textEnd
  | .wordBoundary => .word m.unicode .boundary
  | .notWordBoundary => .word m.unicode .notBoundary
  | .wordStart => .word m.unicode .start
  | .wordEnd => .word m.unicode .finish
  | .wordStartHalf => .word m.unicode .startHalf
  | .wordEndHalf => .word m.unicode .finishHalf

/-- What a point stands for. -/
def Mode.dot? (m : Mode) : Option CharSet :=
  if !m.unicode then none
  else if m.dotAll then some .full
  else if m.crlf then some (.compl ⟨[(10, 10), (13, 13)]⟩)
  else some (.compl (.range 10 10))

def Atom.expr? (m : Mode) : Atom → Option Expr
  | .literal l => (m.literal? l).map fun c => .chars (m.fold (.singleton c))
  | .dot => m.dot?.map .chars
  | .assertion a => some (.look (a.look m))
  | .letter negated l => (m.letter? negated l).map .chars
  | .property negated q => (m.property? negated q).map .chars

mutual

/-- The meaning of an expression, and the mode after it. -/
def Tree.expr? (m : Mode) : Tree → Option (Expr × Mode)
  | .empty => some (.empty, m)
  | .flags fs => some (.empty, m.apply fs)
  | .atom a => (a.expr? m).map fun e => (e, m)
  | .set negated inside =>
    match inside.set? m with
    | none => none
    | some s => (m.negate? negated (m.fold s)).map fun s => (.chars s, m)
  | .repetition min max greedy body =>
    match body.expr? m with
    | none => none
    | some (e, m) => some (.repetition min max (greedy != m.swapGreed) e, m)
  | .group .capture body => (body.expr? m).map fun p => (.capture p.1, m)
  | .group (.flagged fs) body => (body.expr? (m.apply fs)).map fun p => (p.1, m)
  | .alternation branches => (Tree.exprs? m branches).map fun p => (.alternation p.1, p.2)
  | .concat items => (Tree.exprs? m items).map fun p => (.concat p.1, p.2)

def Tree.exprs? (m : Mode) : List Tree → Option (List Expr × Mode)
  | [] => some ([], m)
  | t :: ts =>
    match t.expr? m with
    | none => none
    | some (e, m) =>
      match Tree.exprs? m ts with
      | none => none
      | some (es, m) => some (e :: es, m)

end

end Regex
end SurveyIntake
