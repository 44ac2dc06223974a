import SurveyIntake.Decimal.Shortest
import SurveyIntake.Json.Value
import SurveyIntake.Text.Basic

/-!
# SurveyIntake.Json.Printer

The texts of JSON values.

* `quote`  — a string between quotation marks; only the mark, the backslash and characters below
  U+0020 are escaped.
* `render` — a value without any white space.
* `pretty` — a value over several lines, two columns deeper at each level.
-/

namespace SurveyIntake
namespace Json

def escapeChar (c : Char) : List Char :=
  if c = '"' then ['\\', '"']
  else if c = '\\' then ['\\', '\\']
  else if c = '\x08' then ['\\', 'b']
  else if c = '\t' then ['\\', 't']
  else if c = '\n' then ['\\', 'n']
  else if c = '\x0c' then ['\\', 'f']
  else if c = '\r' then ['\\', 'r']
  else if c.toNat < 0x20 then
    ['\\', 'u', '0', '0', Text.hexLetter (c.toNat / 16), Text.hexLetter (c.toNat % 16)]
  else [c]

def quote (s : String) : List Char := '"' :: (s.toList.flatMap escapeChar ++ ['"'])

def Number.text : Number → String
  | .integer i => toString i
  | .real x => x.text

def scalarText : Json → List Char
  | .null => ['n', 'u', 'l', 'l']
  | .bool true => ['t', 'r', 'u', 'e']
  | .bool false => ['f', 'a', 'l', 's', 'e']
  | .number n => n.text.toList
  | .string s => quote s
  | .array _ => ['[', ']']
  | .object _ => ['\x7b', '\x7d']

mutual

def chars : Json → List Char
  | .array items => '[' :: (itemChars items ++ [']'])
  | .object members => '\x7b' :: (memberChars members ++ ['\x7d'])
  | v => scalarText v

def itemChars : List Json → List Char
  | [] => []
  | [v] => chars v
  | v :: w :: rest => chars v ++ ',' :: itemChars (w :: rest)

def memberChars : List (String × Json) → List Char
  | [] => []
  | [(k, v)] => quote k ++ ':' :: chars v
  | (k, v) :: m :: rest => quote k ++ ':' :: (chars v ++ ',' :: memberChars (m :: rest))

end

def render (v : Json) : String := String.ofList (chars v)

/-- A new line at the given level. -/
def lineBreak (level : Nat) : List Char := '\n' :: List.replicate (2 * level) ' '

mutual

def prettyChars (level : Nat) : Json → List Char
  | .array (v :: vs) => '[' :: (prettyItems (level + 1) (v :: vs) ++ lineBreak level ++ [']'])
  | .object (m :: ms) =>
    '\x7b' :: (prettyMembers (level + 1) (m :: ms) ++ lineBreak level ++ ['\x7d'])
  | v => scalarText v

def prettyItems (level : Nat) : List Json → List Char
  | [] => []
  | [v] => lineBreak level ++ prettyChars level v
  | v :: w :: rest => lineBreak level ++ prettyChars level v ++ ',' :: prettyItems level (w :: rest)

def prettyMembers (level : Nat) : List (String × Json) → List Char
  | [] => []
  | [(k, v)] => lineBreak level ++ quote k ++ ':' :: ' ' :: prettyChars level v
  | (k, v) :: m :: rest =>
    lineBreak level ++ quote k ++ ':' :: ' ' ::
      (prettyChars level v ++ ',' :: prettyMembers level (m :: rest))

end

def pretty (v : Json) : String := String.ofList (prettyChars 0 v)

end Json
end SurveyIntake
