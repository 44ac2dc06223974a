import SurveyIntake.Json.Lexeme

/-!
# SurveyIntake.Json.Reader

Reading JSON texts in one pass, guided by the expected shape.

* `elements`, `members` — the inside of an array and of an object, each part read by a given reader.
* `value`    — any value, nesting no deeper than allowed.
* `skip`     — a value of no interest: it has to be JSON, however deep it nests.
* `string`, `optionalString` — values of a fixed type.
* `document` — a whole text.

The first problem in text order is the one reported, so a wrong shape is found before text behind it
that is no JSON. How deep values may nest is counted down by the readers of arrays and objects.
-/

namespace SurveyIntake
namespace Json
namespace Reader

open Lexeme

/-- How deep the arrays and objects of a text may nest. -/
def maxDepth : Nat := 127

/-! ## Arrays and objects -/

/-- Whether another element follows, and the text from it on, or from the closing bracket on. -/
def nextElement (first : Bool) (s : List Char) : Read Bool :=
  match skipSpace s with
  | [] => .error .unfinished
  | ']' :: rest => .ok (false, ']' :: rest)
  | c :: rest =>
    if first then .ok (true, c :: rest)
    else if c = ',' then
      match skipSpace rest with
      | [] => .error .unfinished
      | ']' :: _ => .error .malformed
      | rest => .ok (true, rest)
    else .error .malformed

/-- The bracket that closes an array; anything else there is out of place. -/
def closeArray (s : List Char) : Except ReadError (List Char) :=
  match skipSpace s with
  | [] => .error .unfinished
  | ']' :: rest => .ok rest
  | _ => .error .malformed

/-- The elements of an array after its opening bracket, up to and with the closing one. -/
def elementLoop {α : Type} (item : List Char → Read α) (done : List α) :
    Nat → Bool → List Char → Read (List α)
  | 0, _, _ => .error .malformed
  | fuel + 1, first, s =>
    match nextElement first s with
    | .error e => .error e
    | .ok (false, s) =>
      match closeArray s with
      | .error e => .error e
      | .ok rest => .ok (done.reverse, rest)
    | .ok (true, s) =>
      match item s with
      | .error e => .error e
      | .ok (x, s) => elementLoop item (x :: done) fuel false s

def elements {α : Type} (item : List Char → Read α) (s : List Char) : Read (List α) :=
  elementLoop item [] (s.length + 1) true s

/-- The next key, and the text after it, or after the brace that closes the object. -/
def nextKey (first : Bool) (s : List Char) : Read (Option String) :=
  let key (s : List Char) : Read (Option String) :=
    match stringTail s with
    | .error e => .error e
    | .ok (k, rest) => .ok (some k, rest)
  match skipSpace s with
  | [] => .error .unfinished
  | '\x7d' :: rest => .ok (none, rest)
  | c :: rest =>
    if first then if c = '"' then key rest else .error .malformed
    else if c = ',' then
      match skipSpace rest with
      | [] => .error .unfinished
      | '"' :: rest => key rest
      | _ => .error .malformed
    else .error .malformed

/-- The colon between a key and its value. -/
def colon (s : List Char) : Except ReadError (List Char) :=
  match skipSpace s with
  | [] => .error .unfinished
  | ':' :: rest => .ok rest
  | _ => .error .malformed

/-- The members of an object after its opening brace. Each key is handed on together with the text
from its colon on, so that a key out of place is reported before anything behind it. -/
def memberLoop {σ : Type} (member : σ → String → List Char → Read σ) :
    σ → Nat → Bool → List Char → Read σ
  | _, 0, _, _ => .error .malformed
  | state, fuel + 1, first, s =>
    match nextKey first s with
    | .error e => .error e
    | .ok (none, rest) => .ok (state, rest)
    | .ok (some key, s) =>
      match member state key s with
      | .error e => .error e
      | .ok (state, s) => memberLoop member state fuel false s

def members {σ : Type} (start : σ) (member : σ → String → List Char → Read σ) (s : List Char) :
    Read σ :=
  memberLoop member start (s.length + 1) true s

/-- The value of a member, from its colon on. -/
def memberValue {α : Type} (item : List Char → Read α) (s : List Char) : Read α :=
  match colon s with
  | .error e => .error e
  | .ok s => item s

/-! ## Values -/

/-- A value that is neither array nor object, the text beginning with it. -/
def scalar (s : List Char) : Read Json :=
  let literal (expected rest : List Char) (v : Json) : Read Json :=
    match word expected rest with
    | .error e => .error e
    | .ok rest => .ok (v, rest)
  match s with
  | [] => .error .unfinished
  | 'n' :: rest => literal ['u', 'l', 'l'] rest .null
  | 't' :: rest => literal ['r', 'u', 'e'] rest (.bool true)
  | 'f' :: rest => literal ['a', 'l', 's', 'e'] rest (.bool false)
  | '"' :: rest =>
    match stringTail rest with
    | .error e => .error e
    | .ok (x, rest) => .ok (.string x, rest)
  | c :: rest =>
    if c = '-' ∨ c.isDigit then
      match Lexeme.number (c :: rest) with
      | .error e => .error e
      | .ok (n, rest) => .ok (.number n, rest)
    else .error .malformed

/-- Puts a member into an object, in place of one with its key. -/
def addMember (item : List Char → Read Json) (done : List (String × Json)) (key : String)
    (s : List Char) : Read (List (String × Json)) :=
  match memberValue item s with
  | .error e => .error e
  | .ok (x, rest) => .ok (Assoc.insert key x done, rest)

/-- A value whose arrays and objects nest `depth` levels at most. -/
def value : Nat → List Char → Read Json
  | 0 => fun s =>
    match skipSpace s with
    | '[' :: _ | '\x7b' :: _ => .error .malformed
    | s => scalar s
  | depth + 1 => fun s =>
    match skipSpace s with
    | '[' :: rest =>
      match elements (value depth) rest with
      | .error e => .error e
      | .ok (xs, rest) => .ok (.array xs, rest)
    | '\x7b' :: rest =>
      match members [] (addMember (value depth)) rest with
      | .error e => .error e
      | .ok (ms, rest) => .ok (.object ms, rest)
    | s => scalar s

/-! ## Values of no interest -/

inductive Bracket where
  | array
  | object
  deriving DecidableEq

def Bracket.close : Bracket → Char
  | .array => ']'
  | .object => '\x7d'

/-- The key of an entry, where entries have one. -/
def skipKey (bracket : Bracket) (s : List Char) : Except ReadError (List Char) :=
  match bracket with
  | .array => .ok s
  | .object =>
    match skipSpace s with
    | [] => .error .unfinished
    | '"' :: rest =>
      match skipString rest with
      | .error e => .error e
      | .ok rest => colon rest
    | _ => .error .malformed

/-- A scalar, the text beginning with it. -/
def skipScalar : List Char → Except ReadError (List Char)
  | [] => .error .unfinished
  | 'n' :: rest => word ['u', 'l', 'l'] rest
  | 't' :: rest => word ['r', 'u', 'e'] rest
  | 'f' :: rest => word ['a', 'l', 's', 'e'] rest
  | '"' :: rest => skipString rest
  | '-' :: rest => skipNumber rest
  | c :: rest => if c.isDigit then skipNumber (c :: rest) else .error .malformed

mutual

/-- A value inside the brackets that are still open, and all that follows up to the last of them. -/
def skipValue : Nat → List Bracket → List Char → Except ReadError (List Char)
  | 0, _, _ => .error .malformed
  | fuel + 1, opened, s =>
    match skipSpace s with
    | '[' :: rest => skipRest fuel false (.array :: opened) rest
    | '\x7b' :: rest => skipRest fuel false (.object :: opened) rest
    | s =>
      match skipScalar s with
      | .error e => .error e
      | .ok rest => skipRest fuel true opened rest

/-- What follows a value, or an opening bracket if `comma` does not hold. -/
def skipRest : Nat → Bool → List Bracket → List Char → Except ReadError (List Char)
  | _, _, [], s => .ok s
  | 0, _, _, _ => .error .malformed
  | fuel + 1, comma, bracket :: outer, s =>
    match skipSpace s with
    | [] => .error .unfinished
    | c :: rest =>
      if c = bracket.close then skipRest fuel true outer rest
      else if comma && c != ',' then .error .malformed
      else
        match skipKey bracket (if comma then rest else c :: rest) with
        | .error e => .error e
        | .ok s => skipValue fuel (bracket :: outer) s

end

def skip (s : List Char) : Read Unit :=
  match skipValue (2 * s.length + 2) [] s with
  | .error e => .error e
  | .ok rest => .ok ((), rest)

/-! ## Values of a fixed type -/

/-- The error of a value that is not what is expected, the text beginning with it. -/
def wrongType (expected : String) (s : List Char) : ReadError :=
  let found (f : Found) : ReadError := .mismatch (.wrongType f expected)
  match s with
  | '[' :: _ => found .sequence
  | '\x7b' :: _ => found .map
  | s =>
    match scalar s with
    | .error e => e
    | .ok (.null, _) => found .null
    | .ok (.bool b, _) => found (.bool b)
    | .ok (.number (.integer i), _) => found (.integer i)
    | .ok (.number (.real x), _) => found (.real x)
    | .ok (.string x, _) => found (.string x)
    | .ok (.array _, _) => found .sequence
    | .ok (.object _, _) => found .map

def string (s : List Char) : Read String :=
  match skipSpace s with
  | [] => .error .unfinished
  | '"' :: rest => stringTail rest
  | s => .error (wrongType "a string" s)

/-- A string, or nothing for `null`. -/
def optionalString (s : List Char) : Read (Option String) :=
  match skipSpace s with
  | 'n' :: rest =>
    match word ['u', 'l', 'l'] rest with
    | .error e => .error e
    | .ok rest => .ok (none, rest)
  | s =>
    match string s with
    | .error e => .error e
    | .ok (x, rest) => .ok (some x, rest)

/-- `null` alone. -/
def unit (s : List Char) : Read Unit :=
  match skipSpace s with
  | [] => .error .unfinished
  | 'n' :: rest =>
    match word ['u', 'l', 'l'] rest with
    | .error e => .error e
    | .ok rest => .ok ((), rest)
  | s => .error (wrongType "unit" s)

/-- What is refused since it would nest too deep. -/
def tooDeep {α : Type} (_ : List Char) : Read α := .error .malformed

/-- An array, what comes after its opening bracket read by `inside`. -/
def sequence {α : Type} (inside : List Char → Read α) (s : List Char) : Read α :=
  match skipSpace s with
  | [] => .error .unfinished
  | '[' :: rest => inside rest
  | s => .error (wrongType "a sequence" s)

/-- An object, what comes after its opening brace read by `inside`. -/
def object {α : Type} (expected : String) (inside : List Char → Read α) (s : List Char) : Read α :=
  match skipSpace s with
  | [] => .error .unfinished
  | '\x7b' :: rest => inside rest
  | s => .error (wrongType expected s)

/-- A record: an object, or an array of its parts, which has to close after the last of them. -/
def record {α : Type} (expected : String) (asObject asArray : List Char → Read α) (s : List Char) :
    Read α :=
  match skipSpace s with
  | [] => .error .unfinished
  | '\x7b' :: rest => asObject rest
  | '[' :: rest =>
    match asArray rest with
    | .error e => .error e
    | .ok (x, rest) =>
      match closeArray rest with
      | .error e => .error e
      | .ok rest => .ok (x, rest)
  | s => .error (wrongType expected s)

/-- The next element of a record written as an array, if there is one. -/
def field? {α : Type} (item : List Char → Read α) (first : Bool) (s : List Char) : Read (Option α) :=
  match nextElement first s with
  | .error e => .error e
  | .ok (false, s) => .ok (none, s)
  | .ok (true, s) =>
    match item s with
    | .error e => .error e
    | .ok (x, rest) => .ok (some x, rest)

/-- A key given once at most, the value under it read by `item`. -/
def once {α : Type} (name : String) (item : List Char → Read α) (old : Option α) (s : List Char) :
    Read α :=
  match old with
  | some _ => .error (.mismatch (.duplicate name))
  | none => memberValue item s

def required {α : Type} (name : String) : Option α → Except ReadError α
  | some x => .ok x
  | none => .error (.mismatch (.missing name))

/-! ## Texts -/

/-- A whole text: a document and nothing but white space after it. -/
def document {α : Type} (reader : List Char → Read α) (text : String) : Except ReadError α :=
  match reader text.toList with
  | .error e => .error e
  | .ok (x, rest) => if (skipSpace rest).isEmpty then .ok x else .error .malformed

end Reader

/-- The value of a text. -/
def parse (text : String) : Except ReadError Json := Reader.document (Reader.value Reader.maxDepth) text

end Json
end SurveyIntake
