/-!
# SurveyIntake.Decimal.Binary64

Finite binary64 numbers in exact integer arithmetic.

* `Binary64`          — a sign and the 63 bits below it; words of equal sign are ordered as their
  magnitudes are.
* `mantissa`, `exponent` — the magnitude is `mantissa w * 2 ^ exponent w`.
* `nearest`           — the word nearest to a ratio, ties to even; `none` past the largest.
* `ofScaled`          — a number of at most 64 bits times a power of ten, rounded once when the number
  becomes binary and once more when the power is applied.
-/

namespace SurveyIntake

/-- The leading binary digit of a normal magnitude, which words leave out. -/
def implicitBit : Nat := Nat.pow 2 52

/-- Words from here on are no finite numbers. -/
def wordLimit : Nat := 2047 * implicitBit

structure Binary64 where
  negative : Bool
  word : Nat
  finite : word < wordLimit
  deriving DecidableEq

namespace Binary64

def zero : Binary64 := ⟨false, 0, by decide⟩

instance : Inhabited Binary64 := ⟨zero⟩

def mantissa (word : Nat) : Nat := if word < implicitBit then word else implicitBit + word % implicitBit

def exponent (word : Nat) : Int := (max (word / implicitBit) 1 : Nat) - 1075

/-- The quotient rounded to the nearest integer, ties to even. -/
def roundDiv (num den : Nat) : Nat :=
  let q := num / den
  let r := num % den
  if 2 * r < den then q else if den < 2 * r then q + 1 else q + q % 2

/-- The quotient of `num` and `den * 2 ^ e`. -/
def scaledDiv (divide : Nat → Nat → Nat) (num den : Nat) (e : Int) : Nat :=
  divide (num * Nat.pow 2 (-e).toNat) (den * Nat.pow 2 e.toNat)

/-- The exponent at which the ratio has 53 binary digits, or the least one of all. -/
def exponentOf (num den : Nat) : Int :=
  let e : Int := (Nat.log2 num : Int) - Nat.log2 den - 52
  max (-1074) (if scaledDiv (· / ·) num den e < implicitBit then e - 1 else e)

def nearest (num den : Nat) : Option Nat :=
  if num = 0 then some 0
  else
    let e := exponentOf num den
    let word := (e + 1074).toNat * implicitBit + scaledDiv roundDiv num den e
    if word < wordLimit then some word else none

/-- The product of two magnitudes, rounded. -/
def mul (a b : Nat) : Option Nat :=
  let e := exponent a + exponent b
  nearest (mantissa a * mantissa b * Nat.pow 2 e.toNat) (Nat.pow 2 (-e).toNat)

/-- The quotient of two magnitudes, rounded. -/
def div (a b : Nat) : Option Nat :=
  let e := exponent a - exponent b
  nearest (mantissa a * Nat.pow 2 e.toNat) (mantissa b * Nat.pow 2 (-e).toNat)

/-- The word nearest to a power of ten, at most the 308th. -/
def powerOfTen (k : Nat) : Nat := (nearest (Nat.pow 10 (min k 308)) 1).getD 0

/-- The magnitude of `digits * 10 ^ k`. A power below the least one of the table takes two divisions,
and two divisions by the largest power leave nothing of a number below `2 ^ 64`. -/
def magnitude (digits : Nat) (k : Int) : Option Nat :=
  match nearest digits 1 with
  | none => none
  | some word =>
    if word = 0 then some 0
    else if 308 < k then none
    else if 0 ≤ k then mul word (powerOfTen k.toNat)
    else if -308 ≤ k then div word (powerOfTen (-k).toNat)
    else
      match div word (powerOfTen 308) with
      | none => none
      | some word => if -616 ≤ k then div word (powerOfTen (-k - 308).toNat) else some 0

def ofScaled (negative : Bool) (digits : Nat) (k : Int) : Option Binary64 :=
  match magnitude digits k with
  | none => none
  | some word => if h : word < wordLimit then some ⟨negative, word, h⟩ else none

end Binary64
end SurveyIntake
