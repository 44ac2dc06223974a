import SurveyIntake.Decimal.Binary64
import SurveyIntake.Time.Calendar
import SurveyIntake.Toml.Lexeme
import SurveyIntake.Toml.Value

/-!
# SurveyIntake.Toml.Number

Numbers and dates of TOML texts.

* `integer?`  — an integer of 64 bits, to the base 10, 16, 8 or 2.
* `real?`     — a number with a fraction or an exponent, infinity, or no number at all.
* `dateTime?` — a date, a time of day, or both, with or without an offset.

Underscores may stand between digits. A number above the largest binary64 one is refused, unless it is
negative.
-/

namespace SurveyIntake
namespace Toml
namespace Number

/-! ## Digits -/

/-- Digits after a first one, with underscores between them. -/
def digitTail (isDigit : Char → Bool) : List Char → List Char × List Char
  | '_' :: c :: rest =>
    if isDigit c then (c :: (digitTail isDigit rest).1, (digitTail isDigit rest).2)
    else ([], '_' :: c :: rest)
  | c :: rest =>
    if isDigit c then (c :: (digitTail isDigit rest).1, (digitTail isDigit rest).2)
    else ([], c :: rest)
  | [] => ([], [])

/-- One digit or more, with underscores between them. -/
def digits (isDigit : Char → Bool) (s : List Char) : Read (List Char) :=
  match s with
  | c :: _ => if isDigit c then some (digitTail isDigit s) else none
  | [] => none

/-- Digits of which the first is zero only if it is the only one. -/
def decimalDigits : List Char → Read (List Char)
  | '0' :: rest => some (['0'], rest)
  | s => digits Char.isDigit s

/-- Whether a number is negative, and the text after its sign. -/
def sign : List Char → Bool × List Char
  | '-' :: rest => (true, rest)
  | '+' :: rest => (false, rest)
  | s => (false, s)

/-! ## Integers -/

def minInteger : Int := -Nat.pow 2 63

def maxInteger : Int := Nat.pow 2 63 - 1

def inRange (i : Int) (rest : List Char) : Read Int :=
  if minInteger ≤ i ∧ i ≤ maxInteger then some (i, rest) else none

/-- An integer to a base, after the letter of the base. -/
def based (base : Nat) (s : List Char) : Read Int :=
  let isDigit (c : Char) : Bool := (Text.hexDigit? c).any fun d => decide (d < base)
  match digits isDigit s with
  | none => none
  | some (ds, rest) =>
    inRange (ds.foldl (fun n c => base * n + (Text.hexDigit? c).getD 0) 0 : Nat) rest

def decimal (s : List Char) : Read Int :=
  let (negative, unsigned) := sign s
  match decimalDigits unsigned with
  | none => none
  | some (ds, rest) =>
    let n : Int := Text.decimal ds
    inRange (if negative then -n else n) rest

def integer? : List Char → Read Int
  | '0' :: 'x' :: rest => based 16 rest
  | '0' :: 'o' :: rest => based 8 rest
  | '0' :: 'b' :: rest => based 2 rest
  | s => decimal s

/-! ## Numbers with a fraction -/

/-- A fraction with its point, if there is one. -/
def fraction? : List Char → Read (List Char)
  | '.' :: rest => digits Char.isDigit rest
  | s => some ([], s)

/-- An exponent with its letter, if there is one. -/
def exponent? : List Char → Read Int
  | 'e' :: rest | 'E' :: rest =>
    let (negative, unsigned) := sign rest
    match digits Char.isDigit unsigned with
    | none => none
    | some (ds, rest) =>
      let n : Int := Text.decimal ds
      some (if negative then -n else n, rest)
  | s => some (0, s)

/-- Whether decimal digits times a power of ten round to no finite number. -/
def overflows (digits : List Char) (power : Int) : Bool :=
  let significant := digits.dropWhile (· == '0')
  let top : Int := power + significant.length
  if significant.isEmpty ∨ top ≤ 308 then false
  else if 309 < top then true
  else
    (Binary64.nearest (Text.decimal significant * Nat.pow 10 power.toNat) (Nat.pow 10 (-power).toNat)).isNone

/-- The part of a text that was read. -/
def readPart (s rest : List Char) : String := String.ofList (s.take (s.length - rest.length))

/-- Infinity or no number, after the sign. -/
def special? : List Char → Option (List Char)
  | 'i' :: 'n' :: 'f' :: rest => some rest
  | 'n' :: 'a' :: 'n' :: rest => some rest
  | _ => none

/-- Digits with a fraction, an exponent or both, after the sign. -/
def scaled? (negative : Bool) (s : List Char) : Option (List Char) :=
  match decimalDigits s with
  | none => none
  | some (whole, afterWhole) =>
    match fraction? afterWhole with
    | none => none
    | some (part, afterPart) =>
      match exponent? afterPart with
      | none => none
      | some (power, rest) =>
        if rest.length = afterWhole.length then none
        else if !negative && overflows (whole ++ part) (power - part.length) then none
        else some rest

def real? (s : List Char) : Read String :=
  let (negative, unsigned) := sign s
  match (special? unsigned).or (scaled? negative unsigned) with
  | none => none
  | some rest => some (readPart s rest, rest)

/-! ## Dates -/

/-- A number of exactly so many digits. -/
def fixed (width : Nat) (s : List Char) : Read Nat :=
  if (s.take width).length = width ∧ (s.take width).all Char.isDigit then
    some (Text.decimal (s.take width), s.drop width)
  else none

/-- A number of two digits within bounds. -/
def pair (least most : Nat) (s : List Char) : Read Nat :=
  match fixed 2 s with
  | none => none
  | some (n, rest) => if least ≤ n ∧ n ≤ most then some (n, rest) else none

/-- The text after a mark. -/
def after? (mark : Char) : List Char → Option (List Char)
  | [] => none
  | c :: rest => if c = mark then some rest else none

def date? (s : List Char) : Option (List Char) := do
  let (year, s) ← fixed 4 s
  let s ← after? '-' s
  let (month, s) ← pair 1 12 s
  let s ← after? '-' s
  let (_, s) ← pair 1 (Date.daysIn year month) s
  some s

def skipSeconds (s : List Char) : List Char :=
  match s with
  | '.' :: c :: rest => if c.isDigit then rest.dropWhile Char.isDigit else s
  | s => s

def time? (s : List Char) : Option (List Char) := do
  let (_, s) ← pair 0 23 s
  let s ← after? ':' s
  let (_, s) ← pair 0 59 s
  let s ← after? ':' s
  let (_, s) ← pair 0 60 s
  some (skipSeconds s)

def offset? : List Char → Option (List Char)
  | 'Z' :: rest => some rest
  | 'z' :: rest => some rest
  | c :: s =>
    if c = '+' ∨ c = '-' then do
      let (_, s) ← pair 0 23 s
      let s ← after? ':' s
      let (_, s) ← pair 0 59 s
      some s
    else none
  | [] => none

/-- A time of day after a date, with its offset. -/
def timeAfter? : List Char → Option (List Char)
  | c :: s =>
    if c = 'T' ∨ c = 't' ∨ c = ' ' then
      match time? s with
      | none => none
      | some rest => some ((offset? rest).getD rest)
    else none
  | [] => none

def dateTime? (s : List Char) : Read String :=
  let rest? :=
    match date? s with
    | some rest => some ((timeAfter? rest).getD rest)
    | none => time? s
  match rest? with
  | none => none
  | some rest => some (readPart s rest, rest)

/-- A date or a number. -/
def value? (s : List Char) : Read Value :=
  match dateTime? s with
  | some (written, rest) => some (.dateTime written, rest)
  | none =>
    match real? s with
    | some (written, rest) => some (.real written, rest)
    | none =>
      match integer? s with
      | some (i, rest) => some (.integer i, rest)
      | none => none

end Number
end Toml
end SurveyIntake
