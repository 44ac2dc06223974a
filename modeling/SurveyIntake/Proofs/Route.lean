import Mathlib.Data.List.Basic
import SurveyIntake.Form.Basic
import SurveyIntake.Text.Basic

/-!
# SurveyIntake.Proofs.Route

Ways through a tree, and the texts that they are written as.

* `dotted`            — segments with points between them. Where they have none in them, `split_dotted` tells
  them apart again.
* `Route`             — the positions on the way to a node, each counted from 1 among its siblings.
* `Route.ofText_text` — the positions are read back from the text of a route.
* `Route.Before`      — the order in which parents come before their children, and siblings in their order.
* `follow`            — the node that a route leads to.
-/

namespace SurveyIntake

/-! ## Segments -/

theorem Text.split_eq_self {separator : Char} {s : List Char} (h : separator ∉ s) :
    split separator s = [s] := by
  induction s with
  | nil => rfl
  | cons c s ih =>
    have hc : c ≠ separator := fun e => h (e ▸ List.mem_cons_self)
    rw [split, if_neg hc, ih fun hs => h (List.mem_cons_of_mem _ hs)]

theorem Text.split_ne_nil (separator : Char) (s : List Char) : split separator s ≠ [] := by
  induction s with
  | nil => exact List.cons_ne_nil _ _
  | cons c s ih =>
    rw [split]
    split
    · exact List.cons_ne_nil _ _
    · split <;> exact List.cons_ne_nil _ _

/-- The pieces on the two sides of a separator are those of the two sides. -/
theorem Text.split_separator (separator : Char) (s rest : List Char) :
    split separator (s ++ separator :: rest) = split separator s ++ split separator rest := by
  induction s with
  | nil => simp [split]
  | cons c s ih =>
    rw [List.cons_append, split, split]
    by_cases hc : c = separator
    · rw [if_pos hc, if_pos hc, ih, List.cons_append]
    · obtain ⟨piece, pieces, hpieces⟩ := List.exists_cons_of_ne_nil (split_ne_nil separator s)
      rw [if_neg hc, if_neg hc, ih, hpieces]
      rfl

theorem Text.split_append {separator : Char} {s : List Char} (h : separator ∉ s) (rest : List Char) :
    split separator (s ++ separator :: rest) = s :: split separator rest := by
  rw [split_separator, split_eq_self h, List.singleton_append]

/-- There is no point in a segment. -/
def Pointless (segment : String) : Prop := '.' ∉ segment.toList

def dotted (segments : List String) : String := ".".intercalate segments

theorem dotted_singleton (segment : String) : dotted [segment] = segment := String.intercalate_singleton

theorem dotted_append {segments rest : List String} (h : segments ≠ []) (h' : rest ≠ []) :
    dotted (segments ++ rest) = dotted segments ++ "." ++ dotted rest :=
  String.intercalate_append_of_ne_nil h h'

theorem toList_dotted_cons (segment next : String) (rest : List String) :
    (dotted (segment :: next :: rest)).toList =
      segment.toList ++ '.' :: (dotted (next :: rest)).toList := by
  rw [dotted, String.intercalate_cons_cons, String.toList_append, String.toList_append, dotted]
  simp

/-- The segments of a text are told apart again. -/
theorem split_dotted {segments : List String} (h : ∀ s ∈ segments, Pointless s) (hne : segments ≠ []) :
    Text.split '.' (dotted segments).toList = segments.map String.toList := by
  induction segments with
  | nil => exact absurd rfl hne
  | cons segment rest ih =>
    have hsegment : Pointless segment := h segment List.mem_cons_self
    cases rest with
    | nil => rw [dotted_singleton, Text.split_eq_self hsegment, List.map_singleton]
    | cons next rest =>
      have hrest := ih (fun s hs => h s (List.mem_cons_of_mem _ hs)) (List.cons_ne_nil _ _)
      rw [toList_dotted_cons, Text.split_append hsegment, hrest]
      rfl

/-- Segments without points are told by the text that they make up. -/
theorem eq_of_dotted_eq {as bs : List String} (ha : ∀ s ∈ as, Pointless s) (hb : ∀ s ∈ bs, Pointless s)
    (hane : as ≠ []) (hbne : bs ≠ []) (h : dotted as = dotted bs) : as = bs := by
  have hsplit := split_dotted ha hane
  rw [h, split_dotted hb hbne] at hsplit
  exact (List.map_injective_iff.2 (fun _ _ => String.toList_injective) hsplit).symm

/-! ## Numerals -/

theorem isDigit_of_mem_numeral {n : Nat} {c : Char} (h : c ∈ (toString n).toList) : c.isDigit = true := by
  rw [Nat.toString_eq_repr, Nat.toList_repr] at h
  exact Nat.isDigit_of_mem_toDigits (by decide) (by decide) h

theorem pointless_numeral (n : Nat) : Pointless (toString n) := by
  intro h
  exact absurd (isDigit_of_mem_numeral h) (by decide)

/-- A numeral stands for its number. -/
theorem decimal_numeral (n : Nat) : Text.decimal (toString n).toList = n := by
  rw [Nat.toString_eq_repr, Nat.toList_repr, Text.decimal]
  have := Nat.ofDigitChars_ten_toDigits (n := n)
  rw [Nat.ofDigitChars_eq_foldl] at this
  exact this

theorem numeral_inj {m n : Nat} (h : toString m = toString n) : m = n := by
  rw [← decimal_numeral m, h, decimal_numeral]

/-! ## Routes -/

/-- The positions on the way to a node, from the top of a tree. -/
abbrev Route := List Nat

namespace Route

/-- Numerals with points between them. -/
def text (route : Route) : String := dotted (route.map toString)

/-- The positions that a text says. -/
def ofText (text : String) : Route := (Text.split '.' text.toList).map Text.decimal

theorem pointless_of_mem {route : Route} : ∀ s ∈ route.map toString, Pointless s := by
  intro s hs
  obtain ⟨n, _, rfl⟩ := List.mem_map.1 hs
  exact pointless_numeral n

theorem ofText_text {route : Route} (h : route ≠ []) : ofText route.text = route := by
  have hne : route.map toString ≠ [] := by simpa using h
  have hid : (Text.decimal ∘ String.toList) ∘ toString = (id : Nat → Nat) := funext decimal_numeral
  rw [ofText, text, split_dotted pointless_of_mem hne, List.map_map, List.map_map, hid, List.map_id]

theorem text_singleton (n : Nat) : text [n] = toString n := dotted_singleton _

/-- The path of what is below a route: there is none below the top. -/
def above : Route → Option String
  | [] => none
  | n :: route => some (text (n :: route))

theorem memberPath_above (route : Route) (n : Nat) :
    memberPath route.above (toString n) = text (route ++ [n]) := by
  cases route with
  | nil => exact (text_singleton n).symm
  | cons m route =>
    rw [text, List.map_append, dotted_append (by simp) (by simp)]
    rfl

theorem above_append (route : Route) (n : Nat) : above (route ++ [n]) = some (text (route ++ [n])) := by
  cases route <;> rfl

/-- A route comes before another if it leads to what is above, or turns off to a sibling before. -/
inductive Before : Route → Route → Prop where
  | ancestor {n : Nat} {rest : Route} : Before [] (n :: rest)
  | sibling {m n : Nat} {as bs : Route} : m < n → Before (m :: as) (n :: bs)
  | deeper {n : Nat} {as bs : Route} : Before as bs → Before (n :: as) (n :: bs)

end Route

/-! ## Following routes -/

section Follow

variable {α : Type}

/-- What stands at a position of a list, counted from 1. -/
def standing? (xs : List α) : Nat → Option α
  | 0 => none
  | n + 1 => xs[n]?

/-- What a route leads to from a node, given the nodes that are right below a node. -/
def descend (below : α → List α) (x : α) : Route → Option α
  | [] => some x
  | n :: route => (standing? (below x) n).bind fun y => descend below y route

/-- What a route leads to from the top of a tree. -/
def follow (below : α → List α) (top : List α) : Route → Option α
  | [] => none
  | n :: route => (standing? top n).bind fun x => descend below x route

end Follow

end SurveyIntake
