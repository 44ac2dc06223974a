import SurveyIntake.Pattern
import SurveyIntake.Proofs.Matching

/-!
# SurveyIntake.Proofs.Address

What the pattern of addresses matches.

* `Spans`          — a word stands between two positions of a text.
* `times_takes_iff`, `matches_some_iff` — repeated characters of a set are the words over it.
* `addressExpr`    — the expression of the pattern, with its sets spelled out.
* `IsPart`         — something without a sign and without white space.
* `accepts_addressPattern_iff` — an address is three parts, with a sign and a point between them.
-/

namespace SurveyIntake
namespace Regex

/-! ## Words in a text -/

/-- The word stands between two positions of a text. -/
structure Spans (text : List Char) (i : Nat) (word : List Char) (j : Nat) : Prop where
  finish : j = i + word.length
  drop : text.drop i = word ++ text.drop j

section Spans

variable {text u v word : List Char} {s : CharSet} {i j k n : Nat}

theorem spans_nil_iff : Spans text i [] j ↔ j = i := by
  constructor
  · rintro ⟨rfl, _⟩
    rfl
  · rintro rfl
    exact ⟨rfl, rfl⟩

theorem spans_append_iff : Spans text i (u ++ v) j ↔ ∃ k, Spans text i u k ∧ Spans text k v j := by
  constructor
  · rintro ⟨rfl, hdrop⟩
    rw [List.append_assoc] at hdrop
    have hrest : text.drop (i + u.length) = v ++ text.drop (i + (u ++ v).length) := by
      rw [← List.drop_drop, hdrop, List.drop_left]
    refine ⟨i + u.length, ⟨rfl, ?_⟩, ⟨by rw [List.length_append, Nat.add_assoc], hrest⟩⟩
    rw [hdrop, hrest]
  · rintro ⟨k, ⟨rfl, hu⟩, ⟨rfl, hv⟩⟩
    exact ⟨by rw [List.length_append, Nat.add_assoc], by rw [hu, hv, List.append_assoc]⟩

theorem spans_singleton_iff {c : Char} : Spans text i [c] j ↔ j = i + 1 ∧ text[i]? = some c := by
  constructor
  · rintro ⟨rfl, hdrop⟩
    have hhead : (text.drop i)[0]? = some c := by
      rw [hdrop]
      rfl
    rw [List.getElem?_drop] at hhead
    exact ⟨rfl, hhead⟩
  · rintro ⟨rfl, hc⟩
    obtain ⟨hi, rfl⟩ := List.getElem?_eq_some_iff.1 hc
    exact ⟨rfl, List.drop_eq_getElem_cons hi⟩

/-- A word that stands between the ends of a text is the text. -/
theorem spans_text_iff : Spans text 0 word j ∧ text.length ≤ j ↔ word = text ∧ j = text.length := by
  constructor
  · rintro ⟨⟨hj, hdrop⟩, hend⟩
    rw [List.drop_zero, List.drop_eq_nil_of_le hend, List.append_nil] at hdrop
    subst hdrop
    exact ⟨rfl, by rw [hj, Nat.zero_add]⟩
  · rintro ⟨rfl, rfl⟩
    exact ⟨⟨(Nat.zero_add _).symm, by simp⟩, Nat.le_refl _⟩

theorem takes_iff : Takes text s i j ↔ ∃ c, s.contains c = true ∧ Spans text i [c] j := by
  simp only [Takes, spans_singleton_iff]
  constructor
  · rintro ⟨hj, c, hc, hs⟩
    exact ⟨c, hs, hj, hc⟩
  · rintro ⟨c, hs, hj, hc⟩
    exact ⟨hj, c, hc, hs⟩

/-- Characters of a set that follow one another are a word over it. -/
theorem times_takes_iff : Times (Takes text s) n i j ↔
    ∃ word : List Char, word.length = n ∧ (∀ c ∈ word, s.contains c = true) ∧ Spans text i word j := by
  induction n generalizing i with
  | zero =>
    have hnil : Spans text i [] j ↔ j = i := spans_nil_iff
    rw [times_zero_iff, ← hnil]
    constructor
    · intro h
      exact ⟨[], rfl, by simp, h⟩
    · rintro ⟨word, hlength, _, h⟩
      rwa [List.eq_nil_of_length_eq_zero hlength] at h
  | succ n ih =>
    simp only [times_succ_iff, ih, takes_iff]
    constructor
    · rintro ⟨k, ⟨c, hc, hik⟩, word, hlength, hword, hkj⟩
      exact ⟨c :: word, by rw [List.length_cons, hlength], List.forall_mem_cons.2 ⟨hc, hword⟩,
        spans_append_iff.2 ⟨k, hik, hkj⟩⟩
    · rintro ⟨word, hlength, hword, h⟩
      obtain ⟨c, word, rfl⟩ := List.exists_cons_of_length_eq_add_one hlength
      rw [← List.singleton_append] at h
      obtain ⟨k, hik, hkj⟩ := spans_append_iff.1 h
      obtain ⟨hc, hword⟩ := List.forall_mem_cons.1 hword
      exact ⟨k, ⟨c, hc, hik⟩, word, Nat.succ.inj hlength, hword, hkj⟩

/-- Some characters of a set, at least one. -/
theorem matches_some_iff {greedy : Bool} :
    (Expr.repeated 1 none greedy (.chars s)).Matches text i j ↔
      ∃ word : List Char, word ≠ [] ∧ (∀ c ∈ word, s.contains c = true) ∧ Spans text i word j := by
  simp only [Expr.Matches, times_takes_iff]
  constructor
  · rintro ⟨n, _, word, hlength, hword, h⟩
    refine ⟨word, ?_, hword, h⟩
    rintro rfl
    rw [List.length_nil] at hlength
    omega
  · rintro ⟨word, hne, hword, h⟩
    have hpos := List.length_pos_iff.2 hne
    exact ⟨word.length - 1, by simp, word, by omega, hword, h⟩

theorem stays_textStart_iff (hi : i ≤ text.length) : Stays text .textStart i j ↔ i = 0 ∧ j = 0 := by
  cases i with
  | zero => simp [Stays, Look.holds, charBefore]
  | succ i => simp [Stays, Look.holds, charBefore, List.getElem?_eq_getElem hi]

theorem stays_textEnd_iff : Stays text .textEnd i j ↔ text.length ≤ i ∧ j = i := by
  simp [Stays, Look.holds, and_comm]

theorem matches_singleton_iff {c : Char} :
    (Expr.chars (.singleton c)).Matches text i j ↔ Spans text i [c] j := by
  have hset : ∀ d : Char, (CharSet.singleton c).contains d = true ↔ d = c := by
    intro d
    rw [← Char.toNat_inj]
    simp only [CharSet.singleton, CharSet.range, CharSet.contains, List.any_cons, List.any_nil,
      Bool.or_false, Bool.and_eq_true, decide_eq_true_eq]
    omega
  rw [Expr.Matches, takes_iff]
  simp only [hset, exists_eq_left]

end Spans

end Regex

/-! ## Addresses -/

/-- What is neither a sign nor white space. -/
def partChars : CharSet :=
  ⟨[(0, 8), (14, 31), (33, 63), (65, 132), (134, 159), (161, 5759), (5761, 8191), (8203, 8231),
    (8234, 8238), (8240, 8286), (8288, 12287), (12289, 1114111)]⟩

theorem partChars_contains_iff {c : Char} :
    partChars.contains c = true ↔ c ≠ '@' ∧ Text.isBlank c = false := by
  have hmax : c.toNat ≤ 1114111 := by
    rcases c.valid with h | ⟨_, h⟩
    · exact Nat.le_trans (Nat.le_of_lt h) (by decide)
    · exact Nat.le_of_lt_succ h
  have hsign : c = '@' ↔ c.toNat = 64 := by
    rw [← Char.toNat_inj]
    rfl
  rw [Ne, hsign, Text.isBlank, Bool.eq_false_iff]
  simp only [partChars, Text.blanks, CharSet.contains, List.any_cons, List.any_nil, Bool.or_false,
    Bool.and_eq_true, Bool.or_eq_true, decide_eq_true_eq, Ne]
  omega

open Regex in
/-- The expression of the pattern of addresses. -/
def addressExpr : Expr :=
  let part := Expr.repeated 1 none true (.chars partChars)
  .seq (.look .textStart) (.seq part (.seq (.chars (.singleton '@')) (.seq part
    (.seq (.chars (.singleton '.')) (.seq part (.look .textEnd))))))

theorem addressPattern_expr : addressPattern.expr = addressExpr := by decide +kernel

/-- A part of an address. -/
structure IsPart (word : List Char) : Prop where
  ne_nil : word ≠ []
  plain : ∀ c ∈ word, c ≠ '@' ∧ Text.isBlank c = false

open Regex in
theorem matches_part_iff {text : List Char} {i j : Nat} :
    (Expr.repeated 1 none true (.chars partChars)).Matches text i j ↔
      ∃ word, IsPart word ∧ Spans text i word j := by
  rw [matches_some_iff]
  simp only [partChars_contains_iff]
  constructor
  · rintro ⟨word, hne, hplain, h⟩
    exact ⟨word, ⟨hne, hplain⟩, h⟩
  · rintro ⟨word, ⟨hne, hplain⟩, h⟩
    exact ⟨word, hne, hplain, h⟩

open Regex in
/-- An address is three parts, with a sign after the first and a point after the second. The second part
and the third may have points in them. -/
theorem accepts_addressPattern_iff {s : String} :
    addressPattern.accepts s = true ↔ ∃ name host top, IsPart name ∧ IsPart host ∧ IsPart top ∧
      s.toList = name ++ ['@'] ++ host ++ ['.'] ++ top := by
  rw [Pattern.accepts, Expr.occurs_iff, addressPattern_expr]
  constructor
  · rintro ⟨i, j, hi, a, hstart, b, hname, c, hc, d, hhost, e, he, f, htop, hfinish⟩
    obtain ⟨rfl, rfl⟩ := (stays_textStart_iff hi).1 hstart
    obtain ⟨hend, rfl⟩ := stays_textEnd_iff.1 hfinish
    obtain ⟨name, hname, hab⟩ := matches_part_iff.1 hname
    obtain ⟨host, hhost, hcd⟩ := matches_part_iff.1 hhost
    obtain ⟨top, htop, hef⟩ := matches_part_iff.1 htop
    have hspans : Spans s.toList 0 (name ++ ['@'] ++ host ++ ['.'] ++ top) j := by
      simp only [spans_append_iff]
      exact ⟨e, ⟨d, ⟨c, ⟨b, hab, matches_singleton_iff.1 hc⟩, hcd⟩, matches_singleton_iff.1 he⟩, hef⟩
    exact ⟨name, host, top, hname, hhost, htop, (spans_text_iff.1 ⟨hspans, hend⟩).1.symm⟩
  · rintro ⟨name, host, top, hname, hhost, htop, hs⟩
    obtain ⟨hspans, hend⟩ := spans_text_iff.2 ⟨hs.symm, rfl⟩
    simp only [spans_append_iff] at hspans
    obtain ⟨e, ⟨d, ⟨c, ⟨b, hab, hbc⟩, hcd⟩, hde⟩, hef⟩ := hspans
    exact ⟨0, _, Nat.zero_le _, 0, (stays_textStart_iff (Nat.zero_le _)).2 ⟨rfl, rfl⟩,
      b, matches_part_iff.2 ⟨name, hname, hab⟩, c, matches_singleton_iff.2 hbc,
      d, matches_part_iff.2 ⟨host, hhost, hcd⟩, e, matches_singleton_iff.2 hde,
      _, matches_part_iff.2 ⟨top, htop, hef⟩, stays_textEnd_iff.2 ⟨hend, rfl⟩⟩

end SurveyIntake
