import SurveyIntake.Json.Value
import SurveyIntake.Json.ReadError
import SurveyIntake.Text.Basic

/-!
# SurveyIntake.Json.Lexeme

The smallest parts of a JSON text: words, strings and numbers.

* `word`       — the rest of `null`, `true` or `false`.
* `stringTail` — a string after its opening quotation mark.
* `number`     — a number; digits past 64 bits and powers of ten make it a binary64 number.
* `skipString`, `skipNumber` — the same parts where their values do not matter. Escapes of lone
  surrogates and numbers of any size pass, and a number that ends too early is malformed.
-/

namespace SurveyIntake
namespace Json

/-- A part of a text that has been read, and the text after it. -/
abbrev Read (α : Type) := Except ReadError (α × List Char)

namespace Lexeme

def isSpace (c : Char) : Bool := c == ' ' || c == '\n' || c == '\t' || c == '\r'

def skipSpace (s : List Char) : List Char := s.dropWhile isSpace

def word : List Char → List Char → Except ReadError (List Char)
  | [], s => .ok s
  | _ :: _, [] => .error .unfinished
  | e :: es, c :: s => if e = c then word es s else .error .malformed

/-! ## Strings -/

/-- Four hexadecimal digits. Less than four bytes of text are too few for any digits. -/
def hexCode (s : List Char) : Read Nat :=
  match s with
  | a :: b :: c :: d :: rest =>
    match Text.hexDigit? a, Text.hexDigit? b, Text.hexDigit? c, Text.hexDigit? d with
    | some a, some b, some c, some d => .ok (4096 * a + 256 * b + 16 * c + d, rest)
    | _, _, _, _ => .error .malformed
  | _ => if (String.ofList s).utf8ByteSize < 4 then .error .unfinished else .error .malformed

def isHighSurrogate (n : Nat) : Bool := decide (0xD800 ≤ n) && decide (n ≤ 0xDBFF)

def isLowSurrogate (n : Nat) : Bool := decide (0xDC00 ≤ n) && decide (n ≤ 0xDFFF)

/-- The second half of a pair of surrogates, after the first. -/
def lowSurrogate (high : Nat) : List Char → Read Char
  | [] => .error .unfinished
  | ['\\'] => .error .unfinished
  | '\\' :: 'u' :: rest =>
    match hexCode rest with
    | .error e => .error e
    | .ok (low, rest) =>
      if isLowSurrogate low then
        .ok (Char.ofNat (0x10000 + (high - 0xD800) * 0x400 + (low - 0xDC00)), rest)
      else .error .malformed
  | _ => .error .malformed

/-- The letters that follow a backslash, with what they stand for. -/
def shortEscapes : List (Char × Char) :=
  [('"', '"'), ('\\', '\\'), ('/', '/'), ('b', '\x08'), ('f', '\x0c'), ('n', '\n'), ('r', '\r'),
    ('t', '\t')]

/-- An escape after its backslash. -/
def escape : List Char → Read Char
  | [] => .error .unfinished
  | 'u' :: rest =>
    match hexCode rest with
    | .error e => .error e
    | .ok (n, rest) =>
      if isLowSurrogate n then .error .malformed
      else if isHighSurrogate n then lowSurrogate n rest
      else .ok (Char.ofNat n, rest)
  | c :: rest =>
    match shortEscapes.lookup c with
    | some d => .ok (d, rest)
    | none => .error .malformed

/-- A string after its opening mark; `done` holds its characters so far, the last one first. -/
def stringLoop (done : List Char) : Nat → List Char → Read String
  | _, [] => .error .unfinished
  | 0, _ => .error .malformed
  | fuel + 1, c :: rest =>
    if c = '"' then .ok (String.ofList done.reverse, rest)
    else if c = '\\' then
      match escape rest with
      | .error e => .error e
      | .ok (d, rest) => stringLoop (d :: done) fuel rest
    else if c.toNat < 0x20 then .error .malformed
    else stringLoop (c :: done) fuel rest

def stringTail (s : List Char) : Read String := stringLoop [] s.length s

def skipEscape : List Char → Except ReadError (List Char)
  | [] => .error .unfinished
  | 'u' :: rest =>
    match hexCode rest with
    | .error e => .error e
    | .ok (_, rest) => .ok rest
  | c :: rest => if (shortEscapes.lookup c).isSome then .ok rest else .error .malformed

def skipStringLoop : Nat → List Char → Except ReadError (List Char)
  | _, [] => .error .unfinished
  | 0, _ => .error .malformed
  | fuel + 1, c :: rest =>
    if c = '"' then .ok rest
    else if c = '\\' then
      match skipEscape rest with
      | .error e => .error e
      | .ok rest => skipStringLoop fuel rest
    else if c.toNat < 0x20 then .error .malformed
    else skipStringLoop fuel rest

def skipString (s : List Char) : Except ReadError (List Char) := skipStringLoop s.length s

/-! ## Numbers -/

def maxNatural : Nat := UInt64.size - 1

def minInteger : Int := -Nat.pow 2 63

/-- The digits read so far: their value, and the power of ten that they are multiplied by. Once a
digit does not fit into 64 bits, `full` holds and later digits only count. -/
structure Digits where
  value : Nat
  power : Int
  full : Bool

/-- Takes in a digit before the point. -/
def Digits.whole (d : Digits) (c : Char) : Digits :=
  let value := 10 * d.value + Text.digitValue c
  if d.full || decide (maxNatural < value) then { d with power := d.power + 1, full := true }
  else { d with value := value }

/-- Takes in a digit after the point. Those that do not fit are without effect. -/
def Digits.fraction (d : Digits) (c : Char) : Digits :=
  let value := 10 * d.value + Text.digitValue c
  if d.full || decide (maxNatural < value) then { d with full := true }
  else { d with value := value, power := d.power - 1 }

def realNumber (negative : Bool) (value : Nat) (power : Int) (rest : List Char) : Read Number :=
  match Binary64.ofScaled negative value power with
  | some x => .ok (.real x, rest)
  | none => .error .malformed

/-- An integer, or the number nearest to it where 64 bits or the sign of zero leave no other way. -/
def wholeNumber (negative : Bool) (d : Digits) (rest : List Char) : Read Number :=
  if d.full then realNumber negative d.value d.power rest
  else if !negative then .ok (.integer d.value, rest)
  else if d.value = 0 ∨ (-d.value : Int) < minInteger then realNumber negative d.value 0 rest
  else .ok (.integer (-d.value), rest)

/-- The largest exponent that is read; one beyond leaves a number without value or with none. -/
def maxExponent : Nat := Nat.pow 2 31 - 1

/-- An exponent after its letter. -/
def exponentTail (negative : Bool) (d : Digits) (s : List Char) : Read Number :=
  let (down, s) :=
    match s with
    | '+' :: rest => (false, rest)
    | '-' :: rest => (true, rest)
    | _ => (false, s)
  match s with
  | [] => .error .unfinished
  | c :: _ =>
    if !c.isDigit then .error .malformed
    else
      let n := Text.decimal (s.takeWhile Char.isDigit)
      let rest := s.dropWhile Char.isDigit
      if maxExponent < n then
        if d.value ≠ 0 ∧ !down then .error .malformed else realNumber negative 0 0 rest
      else realNumber negative d.value (d.power + if down then -(n : Int) else n) rest

/-- What follows the digits before the point. -/
def numberTail (negative : Bool) (d : Digits) : List Char → Read Number
  | '.' :: rest =>
    match rest with
    | [] => .error .unfinished
    | c :: _ =>
      if !c.isDigit then .error .malformed
      else
        let d := (rest.takeWhile Char.isDigit).foldl Digits.fraction { d with full := false }
        match rest.dropWhile Char.isDigit with
        | 'e' :: rest | 'E' :: rest => exponentTail negative d rest
        | rest => realNumber negative d.value d.power rest
  | 'e' :: rest | 'E' :: rest => exponentTail negative d rest
  | rest => wholeNumber negative d rest

/-- A number after its sign. -/
def unsigned (negative : Bool) : List Char → Read Number
  | [] => .error .unfinished
  | '0' :: rest =>
    if rest.head?.any Char.isDigit then .error .malformed
    else numberTail negative ⟨0, 0, false⟩ rest
  | c :: rest =>
    if !c.isDigit then .error .malformed
    else
      numberTail negative (((c :: rest).takeWhile Char.isDigit).foldl Digits.whole ⟨0, 0, false⟩)
        ((c :: rest).dropWhile Char.isDigit)

def number : List Char → Read Number
  | '-' :: rest => unsigned true rest
  | s => unsigned false s

/-- One digit or more. -/
def skipDigits : List Char → Except ReadError (List Char)
  | [] => .error .malformed
  | c :: rest => if c.isDigit then .ok (rest.dropWhile Char.isDigit) else .error .malformed

def skipExponent : List Char → Except ReadError (List Char)
  | 'e' :: '+' :: rest | 'e' :: '-' :: rest | 'E' :: '+' :: rest | 'E' :: '-' :: rest =>
    skipDigits rest
  | 'e' :: rest | 'E' :: rest => skipDigits rest
  | rest => .ok rest

def skipFraction : List Char → Except ReadError (List Char)
  | '.' :: rest =>
    match skipDigits rest with
    | .error e => .error e
    | .ok rest => skipExponent rest
  | rest => skipExponent rest

/-- A number after its sign. -/
def skipNumber : List Char → Except ReadError (List Char)
  | [] => .error .malformed
  | '0' :: rest => if rest.head?.any Char.isDigit then .error .malformed else skipFraction rest
  | c :: rest =>
    if c.isDigit then skipFraction (rest.dropWhile Char.isDigit) else .error .malformed

end Lexeme
end Json
end SurveyIntake
