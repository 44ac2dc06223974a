import SurveyIntake.Decimal.Binary64

/-!
# SurveyIntake.Decimal.Shortest

The decimal text of a binary64 number: the fewest digits that read back as the number, and of those
the nearest to it.

* `Readback`   — the interval of values that round to a word.
* `shortest`   — the digits of a word and the power of ten they are multiplied by.
* `Binary64.text` — positional from `1e-5` up to `1e16`, always with a point; an exponent otherwise,
  with its sign.
-/

namespace SurveyIntake
namespace Decimal

/-- The value `x * 2 ^ e` against `d * 10 ^ k`. -/
def compareScaled (x : Nat) (e : Int) (d : Nat) (k : Int) : Ordering :=
  compare (x * Nat.pow 2 e.toNat * Nat.pow 10 (-k).toNat) (d * Nat.pow 10 k.toNat * Nat.pow 2 (-e).toNat)

/-- The values that round to a word, in quarters of its last binary digit. -/
structure Readback where
  low : Nat
  high : Nat
  closed : Bool
  scale : Int

/-- The ends lie half a digit away, below a power of two a quarter. -/
def Readback.ofWord (word : Nat) : Readback :=
  let m := Binary64.mantissa word
  let e := Binary64.exponent word
  { low := 4 * m - (if m = implicitBit ∧ -1074 < e then 1 else 2)
    high := 4 * m + 2
    closed := m % 2 = 0
    scale := e - 2 }

def Readback.contains (i : Readback) (d : Nat) (k : Int) : Bool :=
  match compareScaled i.low i.scale d k, compareScaled i.high i.scale d k with
  | .lt, .gt => true
  | .eq, .gt | .lt, .eq => i.closed
  | _, _ => false

def digitCount (n : Nat) : Nat := if n = 0 then 0 else (Nat.toDigits 10 n).length

/-- The exponent of the first decimal digit of a magnitude that is not zero. -/
def leadingPower (word : Nat) : Int :=
  let m := Binary64.mantissa word
  let e := Binary64.exponent word
  let num := m * Nat.pow 2 e.toNat
  let den := Nat.pow 2 (-e).toNat
  if den ≤ num then (digitCount (num / den) : Int) - 1
  else -(digitCount ((den + num - 1) / num - 1) : Int)

/-- The multiples of `10 ^ k` on either side of a magnitude. -/
def neighbours (word : Nat) (k : Int) : Nat × Nat :=
  let e := Binary64.exponent word
  let num := Binary64.mantissa word * Nat.pow 2 e.toNat * Nat.pow 10 (-k).toNat
  let den := Nat.pow 2 (-e).toNat * Nat.pow 10 k.toNat
  (num / den, num / den + 1)

/-- Of the neighbours that read back as the word the nearer one, of two equally near the even one. -/
def candidate (word : Nat) (k : Int) : Option Nat :=
  let (a, b) := neighbours word k
  let i := Readback.ofWord word
  match i.contains a k, i.contains b k with
  | true, true =>
    match compareScaled (2 * Binary64.mantissa word) (Binary64.exponent word) (a + b) k with
    | .lt => some a
    | .gt => some b
    | .eq => if a % 2 = 0 then some a else some b
  | true, false => some a
  | false, true => some b
  | false, false => none

/-- Tries 1, 2, … digits, `left` times at most. -/
def search (word : Nat) (k : Int) : Nat → Nat × Int
  | 0 => (0, 0)
  | left + 1 =>
    match candidate word k with
    | some d => (d, k)
    | none => search word (k - 1) left

/-- Moves zeros at the end of the digits into the exponent, `left` of them at most. -/
def stripZeros (d : Nat) (k : Int) : Nat → Nat × Int
  | 0 => (d, k)
  | left + 1 => if d % 10 = 0 then stripZeros (d / 10) (k + 1) left else (d, k)

def shortest (word : Nat) : Nat × Int :=
  let (d, k) := search word (leadingPower word) 17
  stripZeros d k 17

def zeros (n : Nat) : List Char := List.replicate n '0'

/-- The text of `d * 10 ^ k` for digits that do not end in a zero. -/
def layout (d : Nat) (k : Int) : List Char :=
  let digits := Nat.toDigits 10 d
  let power := digits.length - 1 + k
  if -5 ≤ power ∧ power < 16 then
    if 0 ≤ k then digits ++ zeros k.toNat ++ ['.', '0']
    else if 0 ≤ power then digits.take (power + 1).toNat ++ '.' :: digits.drop (power + 1).toNat
    else '0' :: '.' :: (zeros (-power - 1).toNat ++ digits)
  else
    digits.take 1 ++ (if digits.length = 1 then [] else '.' :: digits.drop 1) ++
      'e' :: (if 0 ≤ power then '+' else '-') :: Nat.toDigits 10 power.natAbs

end Decimal

def Binary64.text (x : Binary64) : String :=
  let digits :=
    if x.word = 0 then ['0', '.', '0']
    else Decimal.layout (Decimal.shortest x.word).1 (Decimal.shortest x.word).2
  String.ofList (if x.negative then '-' :: digits else digits)

end SurveyIntake
