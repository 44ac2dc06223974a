/-!
# SurveyIntake.Unicode.CharSet

Sets of characters, held as ranges of code points.

* `CharSet.contains` — membership, the meaning of a set.
* `CharSet.normal`   — the same set with its ranges ascending and apart.
* `CharSet.union`, `CharSet.compl`, `CharSet.inter`, `CharSet.diff`, `CharSet.symmDiff` — the set
  operations.

Ranges may cover surrogate code points, but those of a complement neither begin nor end there. No `Char`
is a surrogate, so they never matter to membership.
-/

namespace SurveyIntake

/-- A set of characters: every range `(lo, hi)` holds the code points from `lo` up to `hi`. -/
structure CharSet where
  ranges : List (Nat × Nat)
  deriving Repr, DecidableEq, Inhabited

namespace CharSet

/-- The largest code point. -/
def maxCode : Nat := 0x10FFFF

def empty : CharSet := ⟨[]⟩

def full : CharSet := ⟨[(0, maxCode)]⟩

def range (lo hi : Nat) : CharSet := ⟨[(lo, hi)]⟩

def singleton (c : Char) : CharSet := range c.toNat c.toNat

def contains (s : CharSet) (c : Char) : Bool :=
  s.ranges.any fun r => decide (r.1 ≤ c.toNat) && decide (c.toNat ≤ r.2)

/-- Joins ranges of an ascending list that touch or overlap, the first being `(lo, hi)`. -/
def coalesce (lo hi : Nat) : List (Nat × Nat) → List (Nat × Nat)
  | [] => [(lo, hi)]
  | (lo', hi') :: rest =>
    if lo' ≤ hi + 1 then coalesce lo (max hi hi') rest else (lo, hi) :: coalesce lo' hi' rest

/-- Puts a range among ascending ones. -/
def insertRange (r : Nat × Nat) : List (Nat × Nat) → List (Nat × Nat)
  | [] => [r]
  | q :: rest => if r.1 ≤ q.1 then r :: q :: rest else q :: insertRange r rest

/-- The ranges in ascending order, none of them empty or touching another. -/
def normal (s : CharSet) : CharSet :=
  match (s.ranges.filter fun r => decide (r.1 ≤ r.2)).foldr insertRange [] with
  | [] => ⟨[]⟩
  | (lo, hi) :: rest => ⟨coalesce lo hi rest⟩

def union (a b : CharSet) : CharSet := normal ⟨a.ranges ++ b.ranges⟩

def unions (sets : List CharSet) : CharSet := normal ⟨sets.flatMap ranges⟩

/-- A range without the surrogates at its ends, if something is left. -/
def trimmed (lo hi : Nat) : List (Nat × Nat) :=
  let lo := if 0xD800 ≤ lo ∧ lo ≤ 0xDFFF then 0xE000 else lo
  let hi := if 0xD800 ≤ hi ∧ hi ≤ 0xDFFF then 0xD7FF else hi
  if lo ≤ hi then [(lo, hi)] else []

/-- What lies between ascending ranges, from the code point `start` on. -/
def gaps (start : Nat) : List (Nat × Nat) → List (Nat × Nat)
  | [] => if start ≤ maxCode then trimmed start maxCode else []
  | (lo, hi) :: rest =>
    if start < lo then trimmed start (lo - 1) ++ gaps (hi + 1) rest else gaps (hi + 1) rest

def compl (s : CharSet) : CharSet := ⟨gaps 0 s.normal.ranges⟩

def inter (a b : CharSet) : CharSet := compl (union (compl a) (compl b))

def diff (a b : CharSet) : CharSet := inter a (compl b)

def symmDiff (a b : CharSet) : CharSet := union (diff a b) (diff b a)

def isEmpty (s : CharSet) : Bool := s.ranges.isEmpty

/-- Whether every member is below U+0080. -/
def isAscii (s : CharSet) : Bool := s.ranges.all fun r => decide (r.2 < 0x80)

/-- The only member, if there is exactly one. -/
def single? (s : CharSet) : Option Char :=
  match s.ranges with
  | [(lo, hi)] => if lo = hi then some (Char.ofNat lo) else none
  | _ => none

end CharSet
end SurveyIntake
