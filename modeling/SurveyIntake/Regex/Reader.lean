import SurveyIntake.Regex.Tree
import SurveyIntake.Text.Basic
import SurveyIntake.Unicode.Age
import SurveyIntake.Unicode.Category
import SurveyIntake.Unicode.Property

/-!
# SurveyIntake.Regex.Reader

Reading regular expressions.

* `escape`        — what follows a backslash.
* `count`         — the bounds of a repetition in braces.
* `groupStart`    — what follows an opening parenthesis.
* `readSet`       — what follows an opening bracket, up to the closing one.
* `Tree.ofSource?` — a whole expression; `none` if the source is not well formed.

Readers of a part are given whether white space and comments are skipped, and return the text after
the part. No part can be given up and read another way once it has begun, brackets of ASCII classes and
braces after `\b` apart.
-/

namespace SurveyIntake
namespace Regex

/-- A part of a source that has been read, and the text after it. -/
abbrev Read (α : Type) := Option (α × List Char)

/-! ## White space -/

/-- Drops white space and comments; `comment` holds inside of one. -/
def dropSpace (comment : Bool) : List Char → List Char
  | [] => []
  | c :: rest =>
    if comment then dropSpace (c != '\n') rest
    else if Text.isBlank c then dropSpace false rest
    else if c = '#' then dropSpace true rest
    else c :: rest

def space (extended : Bool) (s : List Char) : List Char := if extended then dropSpace false s else s

/-- The first character that is no white space, a comment sign not counted once. -/
def glance (comment : Bool) : List Char → Option Char
  | [] => none
  | c :: rest =>
    if Text.isBlank c then glance comment rest
    else if c = '#' ∧ !comment then glance true rest
    else some c

/-- The character that a bracket's reader takes for the next one. -/
def glanceSpace (extended : Bool) (s : List Char) : Option Char :=
  if extended then (glance false s).or s.head? else s.head?

/-! ## Numbers -/

/-- Decimal digits, `fuel` at most, and the text after them. -/
def digits (extended : Bool) : Nat → List Char → List Char × List Char
  | 0, s => ([], s)
  | fuel + 1, s =>
    match s with
    | [] => ([], [])
    | c :: rest =>
      if c.isDigit then
        let (ds, s) := digits extended fuel (space extended rest)
        (c :: ds, s)
      else ([], c :: rest)

def maxCount : Nat := UInt32.size - 1

/-- A number among white space. -/
def decimal (extended : Bool) (s : List Char) : Read Nat :=
  let s := s.dropWhile Text.isBlank
  let (ds, s) := digits extended s.length s
  if ds.isEmpty ∨ maxCount < Text.decimal ds then none
  else some (Text.decimal ds, s.dropWhile Text.isBlank)

/-- The upper bound of a repetition, after the comma. -/
def upperBound (extended : Bool) (s : List Char) : Read (Option Nat) :=
  match space extended s with
  | '\x7d' :: rest => some (none, '\x7d' :: rest)
  | s =>
    match decimal extended s with
    | none => none
    | some (n, s) => some (some n, s)

/-- Whether a repetition takes as much as it can, and not as little: a question mark says that it does
not. -/
def greed : List Char → Bool × List Char
  | '?' :: rest => (false, rest)
  | s => (true, s)

/-- The bounds of a repetition, after the opening brace and with all up to the question mark that may
follow. -/
def count (extended : Bool) (s : List Char) : Read (Nat × Option Nat) :=
  let close (min : Nat) (max : Option Nat) : List Char → Read (Nat × Option Nat)
    | '\x7d' :: rest => if max.any (· < min) then none else some ((min, max), space extended rest)
    | _ => none
  match decimal extended (space extended s) with
  | none => none
  | some (n, ',' :: rest) =>
    match upperBound extended rest with
    | none => none
    | some (max, s) => close n max s
  | some (n, s) => close n (some n) s

/-! ## Escapes -/

/-- Hexadecimal digits of a fixed number. -/
def fixedHex (extended : Bool) : Nat → List Char → Read (List Char)
  | 0, s => some ([], s)
  | _ + 1, [] => none
  | n + 1, c :: rest =>
    if Text.isHexDigit c then
      match fixedHex extended n (space extended rest) with
      | none => none
      | some (ds, s) => some (c :: ds, s)
    else none

/-- Characters up to a closing brace, `fuel` at most. -/
def braced (extended : Bool) : Nat → List Char → Read (List Char)
  | 0, _ => none
  | fuel + 1, s =>
    match space extended s with
    | [] => none
    | '\x7d' :: rest => some ([], rest)
    | c :: rest =>
      match braced extended fuel rest with
      | none => none
      | some (cs, s) => some (c :: cs, s)

/-- The character of a code point in hexadecimal digits. -/
def hexChar? (ds : List Char) : Option Char :=
  if ds.isEmpty ∨ !ds.all Text.isHexDigit then none
  else Text.charOf? (ds.foldl (fun n c => 16 * n + (Text.hexDigit? c).getD 0) 0)

/-- A code point, after the letter that announces `n` digits. -/
def hexEscape (extended : Bool) (n : Nat) (s : List Char) : Read Atom :=
  match space extended s with
  | '\x7b' :: rest =>
    match braced extended rest.length rest with
    | none => none
    | some (ds, s) => (hexChar? ds).map fun c => (.literal ⟨c, false⟩, space extended s)
  | s =>
    match fixedHex extended n s with
    | none => none
    | some (ds, s) => (hexChar? ds).map fun c => (.literal ⟨c, n == 2⟩, s)

/-- The text before and after the first occurrence of a separator. -/
def splitAt? (separator : List Char) : List Char → Option (List Char × List Char)
  | [] => none
  | c :: rest =>
    if separator.isPrefixOf (c :: rest) then some ([], (c :: rest).drop separator.length)
    else (splitAt? separator rest).map fun p => (c :: p.1, p.2)

/-- What the text in braces asks for, and whether it asks for all the rest instead. -/
def Query.ofText (s : List Char) : Bool × Query :=
  match splitAt? ['!', '='] s with
  | some (p, v) => (true, .value p v)
  | none =>
    match (splitAt? [':'] s).or (splitAt? ['='] s) with
    | some (p, v) => (false, .value p v)
    | none => (false, .name s)

/-- A property, after the letter that announces it. -/
def propertyEscape (extended negated : Bool) (s : List Char) : Read Atom :=
  match space extended s with
  | [] => none
  | '\x7b' :: rest =>
    match braced extended rest.length rest with
    | none => none
    | some (name, s) =>
      let (differs, query) := Query.ofText name
      some (.property (negated != differs) query, s)
  | c :: rest =>
    if c = '\\' then none else some (.property negated (.name [c]), space extended rest)

def isBoundaryChar (c : Char) : Bool := c.isAlpha || c == '-'

/-- The kind of word boundary in braces, if there is one. -/
def boundary (extended : Bool) (s : List Char) : Read Assertion :=
  match s with
  | '\x7b' :: rest =>
    match space extended rest with
    | [] => none
    | c :: inside =>
      if !isBoundaryChar c then some (.wordBoundary, s)
      else
        match braced extended (c :: inside).length (c :: inside) with
        | none => none
        | some (name, s) =>
          if name = "start".toList then some (.wordStart, s)
          else if name = "end".toList then some (.wordEnd, s)
          else if name = "start-half".toList then some (.wordStartHalf, s)
          else if name = "end-half".toList then some (.wordEndHalf, s)
          else none
  | s => some (.wordBoundary, s)

/-- Characters that may have a meaning of their own somewhere. -/
def isMeta (c : Char) : Bool := "\\.+*?()|[]\x7b\x7d^$#&-~".toList.contains c

/-- Characters that a backslash leaves what they are. -/
def isEscapable (c : Char) : Bool :=
  isMeta c || (decide (c.toNat < 128) && !c.isAlphanum && c != '<' && c != '>')

/-- The letters that stand for control characters after a backslash. -/
def controls : List (Char × Char) :=
  [('a', '\x07'), ('f', '\x0c'), ('t', '\t'), ('n', '\n'), ('r', '\r'), ('v', '\x0b')]

/-- What follows a backslash. -/
def escape (extended : Bool) : List Char → Read Atom
  | [] => none
  | c :: rest =>
    match c with
    | 'x' => hexEscape extended 2 rest
    | 'u' => hexEscape extended 4 rest
    | 'U' => hexEscape extended 8 rest
    | 'p' => propertyEscape extended false rest
    | 'P' => propertyEscape extended true rest
    | 'd' => some (.letter false .digit, rest)
    | 'D' => some (.letter true .digit, rest)
    | 's' => some (.letter false .space, rest)
    | 'S' => some (.letter true .space, rest)
    | 'w' => some (.letter false .word, rest)
    | 'W' => some (.letter true .word, rest)
    | 'A' => some (.assertion .textStart, rest)
    | 'z' => some (.assertion .textEnd, rest)
    | 'b' => (boundary extended rest).map fun p => (.assertion p.1, p.2)
    | 'B' => some (.assertion .notWordBoundary, rest)
    | '<' => some (.assertion .wordStart, rest)
    | '>' => some (.assertion .wordEnd, rest)
    | c =>
      if isEscapable c then some (.literal ⟨c, false⟩, rest)
      else (controls.lookup c).map fun d => (.literal ⟨d, false⟩, rest)

/-! ## Brackets -/

/-- The ASCII classes by name. -/
def asciiClasses : List (String × CharSet) :=
  [("alnum", ⟨[(48, 57), (65, 90), (97, 122)]⟩), ("alpha", ⟨[(65, 90), (97, 122)]⟩),
    ("ascii", ⟨[(0, 127)]⟩), ("blank", ⟨[(9, 9), (32, 32)]⟩), ("cntrl", ⟨[(0, 31), (127, 127)]⟩),
    ("digit", ⟨[(48, 57)]⟩), ("graph", ⟨[(33, 126)]⟩), ("lower", ⟨[(97, 122)]⟩),
    ("print", ⟨[(32, 126)]⟩), ("punct", ⟨[(33, 47), (58, 64), (91, 96), (123, 126)]⟩),
    ("space", ⟨[(9, 13), (32, 32)]⟩), ("upper", ⟨[(65, 90)]⟩),
    ("word", ⟨[(48, 57), (65, 90), (95, 95), (97, 122)]⟩),
    ("xdigit", ⟨[(48, 57), (65, 70), (97, 102)]⟩)]

/-- An ASCII class in colons, after the bracket that opens it and up to the one that closes it. -/
def asciiClass : List Char → Read SetTree
  | ':' :: rest =>
    let (negated, s) :=
      match rest with
      | '^' :: rest => (true, rest)
      | rest => (false, rest)
    match s.dropWhile (· != ':') with
    | ':' :: ']' :: after =>
      (asciiClasses.lookup (String.ofList (s.takeWhile (· != ':')))).map fun set =>
        (.ascii negated set, after)
    | _ => none
  | _ => none

/-- Brackets that have been opened: what stands before a set operator, and the items after it, the last
one first. -/
structure OpenSet where
  negated : Bool
  pending : Option (SetOp × SetTree)
  items : List SetTree

namespace OpenSet

def push (x : SetTree) (o : OpenSet) : OpenSet := { o with items := x :: o.items }

/-- The set so far. Operators associate to the left. -/
def inside (o : OpenSet) : SetTree :=
  match o.pending with
  | some (op, a) => .op op a (.ofItems o.items)
  | none => .ofItems o.items

def operate (op : SetOp) (o : OpenSet) : OpenSet := { o with pending := some (op, o.inside), items := [] }

end OpenSet

/-- Hyphens at the beginning of brackets, `fuel` at most, which stand for themselves. -/
def leadingHyphens (extended : Bool) : Nat → OpenSet → List Char → Read OpenSet
  | 0, o, s => some (o, s)
  | fuel + 1, o, s =>
    match s with
    | [] => none
    | '-' :: rest =>
      leadingHyphens extended fuel (o.push (.literal ⟨'-', false⟩)) (space extended rest)
    | s => some (o, s)

/-- What follows an opening bracket up to the items that have no meaning of their own there. -/
def openSet (extended : Bool) (s : List Char) : Read OpenSet :=
  let (negated, s) :=
    match space extended s with
    | '^' :: rest => (true, space extended rest)
    | s => (false, s)
  match leadingHyphens extended (s.length + 1) ⟨negated, none, []⟩ s with
  | none => none
  | some (o, ']' :: rest) =>
    if o.items.isEmpty then
      match space extended rest with
      | [] => none
      | s => some (o.push (.literal ⟨']', false⟩), s)
    else some (o, ']' :: rest)
  | some (o, s) => some (o, s)

/-- An item of brackets that may begin a range. -/
def setAtom (extended : Bool) : List Char → Read Atom
  | [] => none
  | '\\' :: rest => escape extended rest
  | c :: rest => some (.literal ⟨c, false⟩, rest)

def SetTree.ofAtom? : Atom → Option SetTree
  | .literal l => some (.literal l)
  | .letter negated l => some (.letter negated l)
  | .property negated q => some (.property negated q)
  | .dot | .assertion _ => none

def SetTree.range? : Atom → Atom → Option SetTree
  | .literal lo, .literal hi => if lo.char ≤ hi.char then some (.range lo hi) else none
  | _, _ => none

/-- An item of brackets or a range of them. A hyphen before the closing bracket or before another hyphen
makes no range. -/
def setItem (extended : Bool) (s : List Char) : Read SetTree :=
  match setAtom extended s with
  | none => none
  | some (a, s) =>
    match space extended s with
    | [] => none
    | '-' :: rest =>
      if glanceSpace extended rest = some ']' ∨ glanceSpace extended rest = some '-' then
        (SetTree.ofAtom? a).map fun x => (x, '-' :: rest)
      else
        match setAtom extended (space extended rest) with
        | none => none
        | some (b, s) => (SetTree.range? a b).map fun x => (x, s)
    | s => (SetTree.ofAtom? a).map fun x => (x, s)

/-- Reads on in the innermost of open brackets. -/
def setLoop (extended : Bool) : Nat → List OpenSet → OpenSet → List Char → Read Tree
  | 0, _, _, _ => none
  | fuel + 1, outer, o, s =>
    match space extended s with
    | [] => none
    | '[' :: rest =>
      match asciiClass rest with
      | some (x, rest) => setLoop extended fuel outer (o.push x) rest
      | none =>
        match openSet extended rest with
        | none => none
        | some (inner, rest) => setLoop extended fuel (o :: outer) inner rest
    | ']' :: rest =>
      match outer with
      | [] => some (.set o.negated o.inside, rest)
      | parent :: outer =>
        setLoop extended fuel outer (parent.push (.nested o.negated o.inside)) rest
    | '&' :: '&' :: rest => setLoop extended fuel outer (o.operate .inter) rest
    | '-' :: '-' :: rest => setLoop extended fuel outer (o.operate .diff) rest
    | '~' :: '~' :: rest => setLoop extended fuel outer (o.operate .symmDiff) rest
    | s =>
      match setItem extended s with
      | none => none
      | some (x, s) => setLoop extended fuel outer (o.push x) s

def readSet (extended : Bool) (s : List Char) : Read Tree :=
  match openSet extended s with
  | none => none
  | some (o, s) => setLoop extended (s.length + 1) [] o s

/-! ## Groups -/

def Flag.ofChar? : Char → Option Flag
  | 'i' => some .caseless
  | 'm' => some .multiline
  | 's' => some .dotAll
  | 'U' => some .swapGreed
  | 'u' => some .unicode
  | 'R' => some .crlf
  | 'x' => some .extended
  | _ => none

/-- Flags up to the colon or parenthesis that ends them. None is given twice, and a minus sign stands
once at most and not at the end. -/
def flagLoop (negated dangling : Bool) (done : Flags) : List Char → Read Flags
  | [] => none
  | c :: rest =>
    if c = ':' ∨ c = ')' then if dangling then none else some (done.reverse, c :: rest)
    else if c = '-' then if negated then none else flagLoop true true done rest
    else
      match Flag.ofChar? c with
      | none => none
      | some f =>
        if (done.lookup f).isSome then none
        else flagLoop negated false ((f, !negated) :: done) rest

def alphabetic : CharSet := .union (Property.set "Alphabetic") Recent.alphabetic

def numeric : CharSet := .union (Category.set "N") Recent.numeric

def isGroupNameChar (first : Bool) (c : Char) : Bool :=
  c == '_' || alphabetic.contains c ||
    (!first && (c == '.' || c == '[' || c == ']' || numeric.contains c))

/-- The name of a group, up to and with the bracket that closes it. -/
def groupName (s : List Char) : Read (List Char) :=
  let name := s.takeWhile (· != '>')
  match s.dropWhile (· != '>') with
  | [] => none
  | _ :: rest =>
    match name with
    | [] => none
    | c :: cs =>
      if isGroupNameChar true c ∧ cs.all (isGroupNameChar false) then some (name, rest) else none

/-- What an opening parenthesis begins. -/
inductive GroupStart where
  | capture
  | named (name : List Char)
  | flagged (flags : Flags)
  | flags (flags : Flags)

/-- A named group, after the bracket before its name. -/
def namedStart (s : List Char) : Read GroupStart :=
  (groupName s).map fun p => (.named p.1, p.2)

/-- Flags, after their question mark. -/
def flagStart (s : List Char) : Read GroupStart :=
  match flagLoop false false [] s with
  | some (flags, ':' :: rest) => some (.flagged flags, rest)
  | some (flags, ')' :: rest) => if flags.isEmpty then none else some (.flags flags, rest)
  | _ => none

/-- What follows an opening parenthesis. There is no looking ahead or behind. -/
def groupStart (extended : Bool) (s : List Char) : Read GroupStart :=
  match space extended s with
  | '?' :: '=' :: _ | '?' :: '!' :: _ | '?' :: '<' :: '=' :: _ | '?' :: '<' :: '!' :: _ => none
  | '?' :: 'P' :: '<' :: rest | '?' :: '<' :: rest => namedStart rest
  | '?' :: rest => flagStart rest
  | s => some (.capture, s)

/-! ## Expressions -/

/-- A group that has been opened: what stands before it. -/
structure OpenGroup where
  branches : List Tree
  items : List Tree
  kind : Group
  extended : Bool

/-- An expression as far as it has been read: the groups still open, the branches and items of the
innermost one, the last ones first, and the names of groups. -/
structure Draft where
  outer : List OpenGroup
  branches : List Tree
  items : List Tree
  extended : Bool
  names : List (List Char)

namespace Draft

def start : Draft := ⟨[], [], [], false, []⟩

def push (t : Tree) (d : Draft) : Draft := { d with items := t :: d.items }

/-- Opens a group inside of which white space is skipped or not. -/
def openGroup (kind : Group) (extended : Bool) (d : Draft) : Draft :=
  { d with
    outer := ⟨d.branches, d.items, kind, d.extended⟩ :: d.outer
    branches := []
    items := []
    extended := extended }

def closeGroup (d : Draft) : Option Draft :=
  match d.outer with
  | [] => none
  | g :: outer =>
    some { d with
      outer := outer
      branches := g.branches
      items := .group g.kind (.ofBranches d.branches d.items) :: g.items
      extended := g.extended }

def nextBranch (d : Draft) : Draft :=
  { d with branches := .ofItems d.items :: d.branches, items := [] }

/-- Repeats the last item, which has to be more than flags. -/
def repeatLast (min : Nat) (max : Option Nat) (greedy : Bool) (d : Draft) : Option Draft :=
  match d.items with
  | [] | .empty :: _ | .flags _ :: _ => none
  | t :: items => some { d with items := .repetition min max greedy t :: items }

/-- Takes up what an opening parenthesis begins. -/
def enter (d : Draft) : GroupStart → Option Draft
  | .capture => some (d.openGroup .capture d.extended)
  | .named name =>
    if d.names.contains name then none
    else some ({ d with names := name :: d.names }.openGroup .capture d.extended)
  | .flagged flags =>
    some (d.openGroup (.flagged flags) ((flags.lookup .extended).getD d.extended))
  | .flags flags =>
    some { d.push (.flags flags) with extended := (flags.lookup .extended).getD d.extended }

end Draft

/-- Repeats the last item, and takes up the question mark that may follow. -/
def Draft.repeatAs (min : Nat) (max : Option Nat) (d : Draft) (s : List Char) : Read Draft :=
  let (greedy, s) := greed s
  (d.repeatLast min max greedy).map fun d => (d, s)

/-- Reads the item that begins with a character. -/
def step (d : Draft) (c : Char) (rest : List Char) : Read Draft :=
  match c with
  | '(' =>
    match groupStart d.extended rest with
    | none => none
    | some (g, rest) => (d.enter g).map fun d => (d, rest)
  | ')' => d.closeGroup.map fun d => (d, rest)
  | '|' => some (d.nextBranch, rest)
  | '[' => (readSet d.extended rest).map fun p => (d.push p.1, p.2)
  | '?' => d.repeatAs 0 (some 1) rest
  | '*' => d.repeatAs 0 none rest
  | '+' => d.repeatAs 1 none rest
  | '\x7b' =>
    match count d.extended rest with
    | none => none
    | some ((min, max), rest) => d.repeatAs min max rest
  | '\\' => (escape d.extended rest).map fun p => (d.push (.atom p.1), p.2)
  | '.' => some (d.push (.atom .dot), rest)
  | '^' => some (d.push (.atom (.assertion .lineStart)), rest)
  | '$' => some (d.push (.atom (.assertion .lineEnd)), rest)
  | c => some (d.push (.atom (.literal ⟨c, false⟩)), rest)

def readLoop : Nat → Draft → List Char → Option Draft
  | fuel, d, s =>
    match space d.extended s with
    | [] => some d
    | c :: rest =>
      match fuel with
      | 0 => none
      | fuel + 1 =>
        match step d c rest with
        | none => none
        | some (d, rest) => readLoop fuel d rest

/-- How deep an expression may nest. -/
def maxDepth : Nat := 250

def Tree.ofSource? (source : List Char) : Option Tree :=
  match readLoop source.length .start source with
  | none => none
  | some d =>
    if d.outer.isEmpty then
      let t := Tree.ofBranches d.branches d.items
      if t.depth ≤ maxDepth then some t else none
    else none

end Regex
end SurveyIntake
