import SurveyIntake.Unicode.CharSet

/-!
# SurveyIntake.Regex.Tree

Regular expressions as they are written.

* `Atom`    — what stands for one character or for a place between characters.
* `SetTree` — the inside of brackets.
* `Tree`    — an expression.
* `Tree.depth` — how deep sequences, alternatives, repetitions, groups and brackets nest.
-/

namespace SurveyIntake
namespace Regex

inductive Flag where
  | caseless
  | multiline
  | dotAll
  | swapGreed
  | unicode
  | crlf
  | extended
  deriving DecidableEq

/-- Flags in the order they are written in, each switched on or off. -/
abbrev Flags := List (Flag × Bool)

/-- A character; `byte` holds of one written as `\x` and two digits, which may stand for a byte. -/
structure Literal where
  char : Char
  byte : Bool

inductive Assertion where
  | lineStart
  | lineEnd
  | textStart
  | textEnd
  | wordBoundary
  | notWordBoundary
  | wordStart
  | wordEnd
  | wordStartHalf
  | wordEndHalf

/-- The classes with a letter of their own. -/
inductive Letter where
  | digit
  | space
  | word

/-- A class by the name of a property, or by that of one of its values. -/
inductive Query where
  | name (name : List Char)
  | value (property value : List Char)

inductive Atom where
  | literal (l : Literal)
  | dot
  | assertion (a : Assertion)
  | letter (negated : Bool) (l : Letter)
  | property (negated : Bool) (q : Query)

inductive SetOp where
  | inter
  | diff
  | symmDiff

inductive SetTree where
  | empty
  | literal (l : Literal)
  | range (lo hi : Literal)
  | ascii (negated : Bool) (set : CharSet)
  | letter (negated : Bool) (l : Letter)
  | property (negated : Bool) (q : Query)
  | nested (negated : Bool) (inside : SetTree)
  | union (items : List SetTree)
  | op (o : SetOp) (a b : SetTree)

inductive Group where
  | capture
  | flagged (flags : Flags)

inductive Tree where
  | empty
  | flags (flags : Flags)
  | atom (a : Atom)
  | set (negated : Bool) (inside : SetTree)
  | repetition (min : Nat) (max : Option Nat) (greedy : Bool) (body : Tree)
  | group (kind : Group) (body : Tree)
  | alternation (branches : List Tree)
  | concat (items : List Tree)

/-! ## Parts put together -/

/-- The items of brackets, the last one first. -/
def SetTree.ofItems : List SetTree → SetTree
  | [] => .empty
  | [x] => x
  | xs => .union xs.reverse

/-- The items of a sequence, the last one first. -/
def Tree.ofItems : List Tree → Tree
  | [] => .empty
  | [x] => x
  | xs => .concat xs.reverse

/-- The branches before the last one, the latest first, and the items of the last one. -/
def Tree.ofBranches : List Tree → List Tree → Tree
  | [], items => .ofItems items
  | branches, items => .alternation (.ofItems items :: branches).reverse

/-! ## Depth -/

mutual

def SetTree.depth : SetTree → Nat
  | .nested _ inside => inside.depth + 1
  | .union items => SetTree.depths items + 1
  | .op _ a b => max a.depth b.depth + 1
  | _ => 0

def SetTree.depths : List SetTree → Nat
  | [] => 0
  | x :: xs => max x.depth (SetTree.depths xs)

end

mutual

def Tree.depth : Tree → Nat
  | .set _ inside => inside.depth + 1
  | .repetition _ _ _ body => body.depth + 1
  | .group _ body => body.depth + 1
  | .alternation branches => Tree.depths branches + 1
  | .concat items => Tree.depths items + 1
  | _ => 0

def Tree.depths : List Tree → Nat
  | [] => 0
  | x :: xs => max x.depth (Tree.depths xs)

end

end Regex
end SurveyIntake
