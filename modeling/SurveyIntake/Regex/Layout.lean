import SurveyIntake.Regex.Utf8
import Std.Data.HashMap

/-!
# SurveyIntake.Regex.Layout

The room that the states of automata take.

* `Room`         — how many states there are, and what they take beyond their fixed size.
* `Layout`       — states in the order they are made in.
* `Layout.place` — the room after these states too; `none` if there is not enough.
* `Layout.texts` — the states for a choice between texts.

States are numbered. Those for a set of characters are shared where two of them would be the same, as far
as a memory of fixed size allows, and its slots depend on the numbers.
-/

namespace SurveyIntake
namespace Regex

structure Room where
  states : Nat
  extra : Nat

namespace Room

/-- The size of a state. -/
def stateSize : Nat := 32

/-- The size of a transition of a state that has several. -/
def edgeSize : Nat := 8

/-- The size of one of the ways on from a state that reads nothing. -/
def wayOnSize : Nat := 4

def bytes (r : Room) : Nat := stateSize * r.states + r.extra

/-- The room that an automaton may take. -/
def maxBytes : Nat := 10 * 1024 * 1024

def add (r : Room) (states extra : Nat) : Room := ⟨r.states + states, r.extra + extra⟩

def checked (r : Room) : Option Room := if r.bytes ≤ maxBytes then some r else none

end Room

/-- An automaton reads a text from its beginning, or from its end. -/
inductive Direction where
  | forwards
  | backwards
  deriving DecidableEq

inductive Layout where
  | fixed (states extra : Nat)
  | set (sequences : List Utf8.Sequence)
  | seq (a b : Layout)
  | times (n : Nat) (body : Layout)

/-! ## Sets -/

/-- States that have been made, by slot: what they do, and their number. -/
structure Memory where
  made : Std.HashMap Nat (List Nat × Nat)
  room : Room

namespace Memory

def mix (h : UInt64) (n : Nat) : UInt64 := (h ^^^ n.toUInt64) * 1099511628211

def slot (slots : Nat) (key : List Nat) : Nat := (key.foldl mix 14695981039346656037).toNat % slots

/-- The state that does what the key says, which is made if its slot does not hold it. -/
def state (slots : Nat) (key : List Nat) (extra : Nat) (m : Memory) : Nat × Memory :=
  let make (i : Nat) : Nat × Memory :=
    (m.room.states, ⟨m.made.insert i (key, m.room.states), m.room.add 1 extra⟩)
  let i := slot slots key
  match m.made[i]? with
  | some (known, n) => if known = key then (n, m) else make i
  | none => make i

def forwardSlots : Nat := 10000

def backwardSlots : Nat := 1000

/-- The state from which sequences lead to the target, made after those that it leads to. Sequences have
four bytes at most. -/
def node (target : Nat) : Nat → List Utf8.Sequence → Memory → Nat × Memory
  | 0, _, m => (target, m)
  | depth + 1, sequences, m =>
    let groups := Utf8.groups sequences
    let (key, m) := groups.foldl (fun (key, m) g =>
      let (n, m) :=
        if g.2.all List.isEmpty then (target, m) else node target depth g.2 m
      (n :: g.1.2 :: g.1.1 :: key, m)) ([], m)
    m.state forwardSlots key.reverse (Room.edgeSize * groups.length)

/-- Makes the states for a sequence that is read from its end and leads to `n`. -/
def chain (n : Nat) (m : Memory) : Utf8.Sequence → Memory
  | [] => m
  | b :: rest =>
    let (n, m) := m.state backwardSlots [n, b.1, b.2] 0
    chain n m rest

end Memory

/-- The room after the states for a set. -/
def Direction.placeSet (sequences : List Utf8.Sequence) (r : Room) : Direction → Room
  | .forwards => (Memory.node r.states 4 sequences ⟨∅, r.add 1 0⟩).2.room
  | .backwards =>
    let start : Memory := ⟨∅, r.add 2 (Room.wayOnSize * sequences.length)⟩
    (sequences.foldl (Memory.chain (r.states + 1)) start).room

namespace Layout

/-- Does a step a number of times. -/
def iterate (f : Room → Option Room) : Nat → Room → Option Room
  | 0, r => some r
  | n + 1, r =>
    match f r with
    | none => none
    | some r => iterate f n r

def place (d : Direction) : Layout → Room → Option Room
  | .fixed states extra => fun r => (r.add states extra).checked
  | .set sequences => fun r => (d.placeSet sequences r).checked
  | .seq a b => fun r => (a.place d r).bind (b.place d)
  | .times n body => iterate (body.place d) n

/-! ## Layouts put together -/

def empty : Layout := .fixed 0 0

/-- One layout after the other. -/
def andThen : Layout → Layout → Layout
  | .fixed s x, .fixed s' x' => .fixed (s + s') (x + x')
  | .fixed s x, .seq (.fixed s' x') rest => .seq (.fixed (s + s') (x + x')) rest
  | a, b => .seq a b

def all (parts : List Layout) : Layout := parts.foldr andThen empty

def copies (n : Nat) : Layout → Layout
  | .fixed s x => .fixed (n * s) (n * x)
  | body => .times n body

/-- Room enough for a set, in no matter what place. -/
def ample (sequences : List Utf8.Sequence) : Layout :=
  let count := sequences.flatten.length
  .fixed (count + 2) (Room.edgeSize * count + Room.wayOnSize * sequences.length)

/-- A choice between layouts: a state leads to each of them, and each leads to another state. -/
def choice : List Layout → Layout
  | [] => empty
  | [a] => a
  | a :: b :: rest =>
    all (a :: b :: .fixed 2 (2 * Room.wayOnSize) :: rest.map (andThen (.fixed 0 Room.wayOnSize)))

/-! ## Texts -/

/-- A text as bytes, in the order that they are read in. -/
abbrev Word := List UInt8

/-- Words in chunks: an empty one ends a chunk. -/
def chunks : List Word → List (List Word)
  | [] => [[]]
  | [] :: rest => [] :: chunks rest
  | w :: rest =>
    match chunks rest with
    | [] => [[w]]
    | c :: cs => (w :: c) :: cs

/-- Several empty words at the beginning are like one. -/
def withoutRepeats : List Word → List Word
  | [] :: rest => [] :: rest.dropWhile List.isEmpty
  | ws => ws

/-- Puts the tail of a word before those of the words with the same first byte. -/
def addTail (b : UInt8) (tail : Word) : List (UInt8 × List Word) → List (UInt8 × List Word)
  | [] => [(b, [tail])]
  | (b', tails) :: rest =>
    if b = b' then (b, tail :: tails) :: rest else (b', tails) :: addTail b tail rest

/-- The first bytes of the words of a chunk, each with the tails after it in the order of the words. -/
def fan : List Word → List (UInt8 × List Word)
  | [] => []
  | [] :: rest => fan rest
  | (b :: tail) :: rest => addTail b tail (fan rest)

/-- The state of a chunk that reads a byte. -/
def fanLayout (fan : List (UInt8 × List Word)) : Layout :=
  match fan.length with
  | 0 => empty
  | 1 => .fixed 1 0
  | n => .fixed 1 (Room.edgeSize * n)

/-- The states of the tree of words, which have `depth` bytes at most: in front of each branching one that
leads to the chunks, and between them to the end. -/
def tree : Nat → List Word → Layout
  | 0, _ => empty
  | depth + 1, ws =>
    if ws.all List.isEmpty then empty
    else
      let fans := (chunks (withoutRepeats ws)).map fan
      let waysOn := (fans.filter fun f => !f.isEmpty).length + (fans.length - 1)
      andThen (.fixed 1 (Room.wayOnSize * waysOn))
        (all (fans.map fun f =>
          andThen (fanLayout f) (all (f.map fun branch => tree depth branch.2))))

def bytes (text : List Char) : Word := text.flatMap String.utf8EncodeChar

def texts (d : Direction) (ts : List (List Char)) : Layout :=
  let words := ts.map fun t =>
    match d with
    | .forwards => bytes t
    | .backwards => (bytes t).reverse
  andThen (.fixed 1 0) (tree ((words.map List.length).foldl max 0) words)

end Layout
end Regex
end SurveyIntake
