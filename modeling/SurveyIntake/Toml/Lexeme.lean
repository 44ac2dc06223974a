import SurveyIntake.Text.Basic

/-!
# SurveyIntake.Toml.Lexeme

The smallest parts of a TOML text: space, strings and keys.

* `skipBlanks`, `skipLines` — space within a line, and space over several lines, comments included.
* `lineEnd` — the rest of a line on which nothing but a comment may follow.
* `string?` — a string of any of the four kinds: with or without escapes, on one line or on several.
* `keyPath` — keys with points between them.
-/

namespace SurveyIntake
namespace Toml

/-- A part of a text that has been read, and the text after it. -/
abbrev Read (α : Type) := Option (α × List Char)

namespace Lexeme

/-! ## Space -/

def isSpace (c : Char) : Bool := c == ' ' || c == '\t'

/-- Characters that a comment may hold: all but those that control. -/
def isPlain (c : Char) : Bool := c == '\t' || (decide (0x20 ≤ c.toNat) && c != '\x7f')

def skipBlanks (s : List Char) : List Char := s.dropWhile isSpace

/-- The text after a line break. -/
def lineBreak? : List Char → Option (List Char)
  | '\n' :: rest => some rest
  | '\r' :: '\n' :: rest => some rest
  | _ => none

/-- Skips space, line breaks and comments; `comment` holds within a comment. -/
def skipLines (comment : Bool) : List Char → List Char
  | [] => []
  | '\r' :: '\n' :: rest => skipLines false rest
  | c :: rest =>
    if c = '\n' then skipLines false rest
    else if (comment && isPlain c) || isSpace c then skipLines comment rest
    else if c = '#' then skipLines true rest
    else c :: rest

/-- Skips space and line breaks. -/
def skipEmptyLines : List Char → List Char
  | [] => []
  | '\r' :: '\n' :: rest => skipEmptyLines rest
  | c :: rest => if c = '\n' ∨ isSpace c then skipEmptyLines rest else c :: rest

def skipComment : List Char → List Char
  | '#' :: rest => rest.dropWhile isPlain
  | s => s

def lineEnd (s : List Char) : Option (List Char) :=
  match skipComment (skipBlanks s) with
  | [] => some []
  | s => lineBreak? s

/-! ## Strings -/

/-- The letters that follow a backslash, with what they stand for. -/
def shortEscapes : List (Char × Char) :=
  [('b', '\x08'), ('t', '\t'), ('n', '\n'), ('f', '\x0c'), ('r', '\r'), ('"', '"'), ('\\', '\\')]

/-- The character of a number of hexadecimal digits. -/
def codePoint (digits : Nat) (s : List Char) : Read Char :=
  match (s.take digits).mapM Text.hexDigit? with
  | none => none
  | some values =>
    if values.length = digits then
      match Text.charOf? (values.foldl (fun n v => 16 * n + v) 0) with
      | some c => some (c, s.drop digits)
      | none => none
    else none

/-- An escape after its backslash. -/
def escape : List Char → Read Char
  | [] => none
  | 'u' :: rest => codePoint 4 rest
  | 'U' :: rest => codePoint 8 rest
  | c :: rest =>
    match shortEscapes.lookup c with
    | some d => some (d, rest)
    | none => none

/-- A string with escapes on one line, after its opening mark; `done` holds its characters so far, the
last one first. -/
def basicLoop (done : List Char) : Nat → List Char → Read String
  | _, [] => none
  | 0, _ => none
  | fuel + 1, c :: rest =>
    if c = '"' then some (String.ofList done.reverse, rest)
    else if c = '\\' then
      match escape rest with
      | none => none
      | some (d, rest) => basicLoop (d :: done) fuel rest
    else if isPlain c then basicLoop (c :: done) fuel rest
    else none

def basicTail (s : List Char) : Read String := basicLoop [] s.length s

/-- A string without escapes on one line, after its opening mark. -/
def literalTail (s : List Char) : Read String :=
  let within (c : Char) : Bool := isPlain c && c != '\''
  match s.dropWhile within with
  | '\'' :: rest => some (String.ofList (s.takeWhile within), rest)
  | _ => none

/-- How many marks close a string over several lines. -/
def closing : Nat := 3

/-- How many marks at most may stand before the closing ones and belong to the string. -/
def spareMarks : Nat := 2

/-- A string over several lines after its opening marks. A row of marks that is too short to close the
string belongs to it. A backslash before a line break skips all space that follows. -/
def multiLoop (mark : Char) (escapes : Bool) (done : List Char) : Nat → List Char → Read String
  | _, [] => none
  | 0, _ => none
  | fuel + 1, c :: rest =>
    if c = mark then
      let row := ((c :: rest).takeWhile (· == mark)).length
      let after := (c :: rest).dropWhile (· == mark)
      if row < closing then
        multiLoop mark escapes (List.replicate row mark ++ done) fuel after
      else
        let spare := min spareMarks (row - closing)
        some (String.ofList (done.reverse ++ List.replicate spare mark),
          (c :: rest).drop (closing + spare))
    else if c = '\\' && escapes then
      match lineBreak? (skipBlanks rest) with
      | some rest => multiLoop mark escapes done fuel (skipEmptyLines rest)
      | none =>
        match escape rest with
        | none => none
        | some (d, rest) => multiLoop mark escapes (d :: done) fuel rest
    else
      match lineBreak? (c :: rest) with
      | some rest => multiLoop mark escapes ('\n' :: done) fuel rest
      | none => if isPlain c then multiLoop mark escapes (c :: done) fuel rest else none

/-- A string over several lines after its opening marks. A line break that comes first is no part
of it. -/
def multiTail (mark : Char) (escapes : Bool) (s : List Char) : Read String :=
  multiLoop mark escapes [] s.length ((lineBreak? s).getD s)

def string? : List Char → Read String
  | '"' :: '"' :: '"' :: rest => multiTail '"' true rest
  | '\'' :: '\'' :: '\'' :: rest => multiTail '\'' false rest
  | '"' :: rest => basicTail rest
  | '\'' :: rest => literalTail rest
  | _ => none

/-! ## Keys -/

def isKeyChar (c : Char) : Bool := c.isAlphanum || c == '_' || c == '-'

def key : List Char → Read String
  | '"' :: rest => basicTail rest
  | '\'' :: rest => literalTail rest
  | s =>
    match s.takeWhile isKeyChar with
    | [] => none
    | cs => some (String.ofList cs, s.dropWhile isKeyChar)

/-- The most keys that may stand between points. -/
def maxKeys : Nat := 79

/-- Keys with points between them, and the last of them. -/
def keyLoop : Nat → List Char → Read (List String × String)
  | 0, _ => none
  | fuel + 1, s =>
    match key (skipBlanks s) with
    | none => none
    | some (k, rest) =>
      match skipBlanks rest with
      | '.' :: rest =>
        match keyLoop fuel rest with
        | none => none
        | some ((ks, last), rest) => some ((k :: ks, last), rest)
      | rest => some (([], k), rest)

def keyPath (s : List Char) : Read (List String × String) := keyLoop maxKeys s

end Lexeme
end Toml
end SurveyIntake
