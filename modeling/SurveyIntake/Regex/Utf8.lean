import SurveyIntake.Unicode.CharSet

/-!
# SurveyIntake.Regex.Utf8

Sets of characters as bytes.

* `Utf8.Sequence`  — a range for each byte of a character.
* `Utf8.sequences` — the sequences of a set, in ascending order.
* `Utf8.groups`    — sequences by what they begin with.
-/

namespace SurveyIntake
namespace Regex
namespace Utf8

/-- Cuts a range of code points at the first of the given bounds that lies inside of it, and so on. -/
def cutAt : List Nat → Nat → Nat → List (Nat × Nat)
  | [], lo, hi => [(lo, hi)]
  | bound :: bounds, lo, hi =>
    if lo ≤ bound ∧ bound < hi then (lo, bound) :: cutAt bounds (bound + 1) hi
    else cutAt bounds lo hi

/-- Cuts a range so that the low digits of either part, in base 64, run through all values wherever a
higher digit differs. -/
def align : List Nat → Nat → Nat → List (Nat × Nat)
  | [], lo, hi => [(lo, hi)]
  | unit :: units, lo, hi =>
    if lo / unit = hi / unit then align units lo hi
    else
      let first := if lo % unit = 0 then [] else align units lo (lo / unit * unit + unit - 1)
      let last := if hi % unit = unit - 1 then [] else align units (hi / unit * unit) hi
      let lo := if lo % unit = 0 then lo else lo / unit * unit + unit
      let hi := if hi % unit = unit - 1 then hi else hi / unit * unit - 1
      first ++ (if lo ≤ hi then [(lo, hi)] else []) ++ last

/-- The bytes of a code point. -/
def encode (n : Nat) : List Nat :=
  if n < 0x80 then [n]
  else if n < 0x800 then [0xC0 + n / 64, 0x80 + n % 64]
  else if n < 0x10000 then [0xE0 + n / 4096, 0x80 + n / 64 % 64, 0x80 + n % 64]
  else [0xF0 + n / 262144, 0x80 + n / 4096 % 64, 0x80 + n / 64 % 64, 0x80 + n % 64]

def isSurrogate (n : Nat) : Bool := decide (0xD800 ≤ n) && decide (n ≤ 0xDFFF)

/-- The byte sequences of a range, in ascending order. -/
def rangeSequences (lo hi : Nat) : List (List (Nat × Nat)) :=
  ((cutAt [0x7F, 0x7FF, 0xD7FF, 0xDFFF, 0xFFFF] lo hi).filter fun r => !isSurrogate r.1).flatMap fun r =>
    (align (if r.1 < 0x80 then [] else [262144, 4096, 64]) r.1 r.2).map fun q =>
      (encode q.1).zip (encode q.2)

/-- A range for each byte. -/
abbrev Sequence := List (Nat × Nat)

def sequences (s : CharSet) : List Sequence :=
  s.ranges.flatMap fun r => rangeSequences r.1 r.2

/-- Neighbouring sequences put together that begin with the same range: what follows it in each. -/
def groups : List Sequence → List ((Nat × Nat) × List Sequence)
  | [] => []
  | [] :: rest => groups rest
  | (b :: tail) :: rest =>
    match groups rest with
    | (b', tails) :: more =>
      if b = b' then (b, tail :: tails) :: more else (b, [tail]) :: (b', tails) :: more
    | [] => [(b, [tail])]

end Utf8
end Regex
end SurveyIntake
