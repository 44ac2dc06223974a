import Mathlib.Data.List.DropRight
import SurveyIntake.Proofs.Proper

/-!
# SurveyIntake.Proofs.Skipping

A value of no interest is passed over where it could be read.

* `Lexeme.skipString_of_stringTail`, `Lexeme.skipNumber_of_unsigned` — so are strings and numbers.
* `Reader.Skips`, `Reader.SkipsInside` — how far the skipper gets with a value, and with what is inside a bracket,
  whatever brackets are open around it.
* `Reader.skip_of_value` — a value that is read is passed over, up to the same place.

The reader of values goes down into arrays and objects, and the skipper keeps a stack of open brackets. Its
rounds are limited by the length of the text, so that they have to be counted.
-/

namespace SurveyIntake
namespace Json
namespace Lexeme

variable {s rest : List Char}

/-! ## Strings -/

theorem length_of_hexCode {n : Nat} (h : hexCode s = .ok (n, rest)) : rest.length < s.length := by
  unfold hexCode at h
  split at h
  · split at h
    · cases h
      simp only [List.length_cons]
      omega
    · cases h
  · split at h <;> cases h

/-- An escape is passed over as one, or a pair of surrogates as two. -/
theorem skipEscape_of_escape {c : Char} (h : escape s = .ok (c, rest)) :
    skipEscape s = .ok rest ∨ ∃ t, skipEscape s = .ok ('\\' :: t) ∧ skipEscape t = .ok rest := by
  unfold escape at h
  split at h
  · cases h
  · split at h
    · cases h
    · rename_i n t hcode
      simp only [skipEscape, hcode]
      split at h
      · cases h
      · split at h
        · unfold lowSurrogate at h
          split at h
          · cases h
          · cases h
          · rename_i t
            split at h
            · cases h
            · rename_i hlow
              split at h
              · simp only [Except.ok.injEq, Prod.mk.injEq] at h
                obtain ⟨_, rfl⟩ := h
                exact .inr ⟨_, rfl, by simp only [hlow]⟩
              · cases h
          · cases h
        · cases h
          exact .inl rfl
  · rename_i c t hne
    split at h
    · rename_i d hd
      cases h
      refine .inl ?_
      rw [skipEscape, hd]
      · rfl
      · exact hne
    · cases h

theorem length_of_skipEscape (h : skipEscape s = .ok rest) : rest.length < s.length := by
  unfold skipEscape at h
  split at h
  · cases h
  · split at h
    · cases h
    · rename_i hcode
      cases h
      exact Nat.lt_succ_of_lt (length_of_hexCode hcode)
  · split at h
    · cases h
      exact Nat.lt_succ_self _
    · cases h

theorem length_of_skipStringLoop {fuel : Nat} (h : skipStringLoop fuel s = .ok rest) :
    rest.length < s.length := by
  induction fuel generalizing s with
  | zero => cases s <;> cases h
  | succ fuel ih =>
    cases s with
    | nil => cases h
    | cons c s =>
      simp only [skipStringLoop] at h
      split at h
      · cases h
        exact Nat.lt_succ_self _
      · split at h
        · split at h
          · cases h
          · rename_i hescape
            have := length_of_skipEscape hescape
            have := ih h
            rw [List.length_cons]
            omega
        · split at h
          · cases h
          · exact Nat.lt_succ_of_lt (ih h)

theorem skipStringLoop_of_stringLoop {done : List Char} {fuel : Nat} {x : String}
    (h : stringLoop done fuel s = .ok (x, rest)) (more : Nat) :
    skipStringLoop (s.length + more) s = .ok rest := by
  induction fuel generalizing done s more with
  | zero => cases s <;> cases h
  | succ fuel ih =>
    cases s with
    | nil => cases h
    | cons c s =>
      have hfuel : (c :: s).length + more = s.length + more + 1 := by rw [List.length_cons]; omega
      rw [hfuel]
      simp only [stringLoop] at h
      simp only [skipStringLoop]
      split at h
      · rename_i hc
        cases h
        rw [if_pos hc]
      · rename_i hc
        rw [if_neg hc]
        split at h
        · rename_i hslash
          rw [if_pos hslash]
          split at h
          · cases h
          · rename_i d t hescape
            rcases skipEscape_of_escape hescape with hskip | ⟨u, hfirst, hsecond⟩
            · have hlength := length_of_skipEscape hskip
              obtain ⟨k, hk⟩ : ∃ k, s.length + more = t.length + k := ⟨s.length + more - t.length, by omega⟩
              rw [hskip, hk]
              exact ih h k
            · have hlength := length_of_skipEscape hfirst
              have hlength' := length_of_skipEscape hsecond
              rw [List.length_cons] at hlength
              obtain ⟨k, hk⟩ : ∃ k, s.length + more = t.length + k + 1 :=
                ⟨s.length + more - t.length - 1, by omega⟩
              rw [hfirst, hk]
              simp only [skipStringLoop, hsecond]
              exact ih h k
        · rename_i hslash
          rw [if_neg hslash]
          split at h
          · cases h
          · rename_i hplain
            rw [if_neg hplain]
            exact ih h more

theorem skipString_of_stringTail {x : String} (h : stringTail s = .ok (x, rest)) :
    skipString s = .ok rest := skipStringLoop_of_stringLoop h 0

/-! ## Numbers -/

variable {negative : Bool} {d : Digits} {power : Int} {value : Nat} {n : Number}

theorem rest_of_realNumber {t : List Char} (h : realNumber negative value power t = .ok (n, rest)) :
    rest = t := by
  unfold realNumber at h
  split at h
  · cases h
    rfl
  · cases h

theorem rest_of_wholeNumber {t : List Char} (h : wholeNumber negative d t = .ok (n, rest)) :
    rest = t := by
  unfold wholeNumber at h
  split at h
  · exact rest_of_realNumber h
  split at h
  · cases h
    rfl
  split at h
  · exact rest_of_realNumber h
  · cases h
    rfl

theorem skipDigits_of_isDigit {c : Char} (hc : c.isDigit = true) :
    skipDigits (c :: s) = .ok ((c :: s).dropWhile Char.isDigit) := by
  rw [skipDigits, if_pos hc, List.dropWhile_cons_of_pos hc]

theorem skipExponent_of_exponentTail {c : Char} (hc : c = 'e' ∨ c = 'E')
    (h : exponentTail negative d s = .ok (n, rest)) : skipExponent (c :: s) = .ok rest := by
  unfold exponentTail at h
  split at h
  rename_i down t hsign
  have hdigits : skipDigits t = .ok rest := by
    split at h
    · cases h
    split at h
    · cases h
    · rename_i hdigit
      rw [skipDigits_of_isDigit (by simpa using hdigit)]
      dsimp only at h
      split at h
      · split at h
        · cases h
        · rw [rest_of_realNumber h]
      · rw [rest_of_realNumber h]
  split at hsign
  · cases hsign
    rcases hc with rfl | rfl <;> exact hdigits
  · cases hsign
    rcases hc with rfl | rfl <;> exact hdigits
  · rename_i hplus hminus
    cases hsign
    rcases hc with rfl | rfl
    · rw [skipExponent.eq_def]
      split <;> simp_all
    · rw [skipExponent.eq_def]
      split <;> simp_all

theorem skipExponent_of_ne (he : ∀ t, s ≠ 'e' :: t) (hE : ∀ t, s ≠ 'E' :: t) :
    skipExponent s = .ok s := by
  rw [skipExponent.eq_def]
  split <;> simp_all

theorem skipFraction_of_numberTail (h : numberTail negative d s = .ok (n, rest)) :
    skipFraction s = .ok rest := by
  unfold numberTail at h
  split at h
  · split at h
    · cases h
    split at h
    · cases h
    rename_i hdigit
    rw [skipFraction, skipDigits_of_isDigit (by simpa using hdigit)]
    dsimp only at h ⊢
    split at h
    · rename_i hrest
      rw [hrest]
      exact skipExponent_of_exponentTail (.inl rfl) h
    · rename_i hrest
      rw [hrest]
      exact skipExponent_of_exponentTail (.inr rfl) h
    · rename_i he hE
      rw [skipExponent_of_ne he hE, rest_of_realNumber h]
  · rw [skipFraction]
    · exact skipExponent_of_exponentTail (.inl rfl) h
    · simp
  · rw [skipFraction]
    · exact skipExponent_of_exponentTail (.inr rfl) h
    · simp
  · rename_i hpoint he hE
    rw [skipFraction, skipExponent_of_ne he hE, rest_of_wholeNumber h]
    exact hpoint

theorem skipNumber_of_unsigned (h : unsigned negative s = .ok (n, rest)) : skipNumber s = .ok rest := by
  unfold unsigned at h
  split at h
  · cases h
  · split at h
    · cases h
    · rename_i hdigit
      rw [skipNumber, if_neg hdigit]
      exact skipFraction_of_numberTail h
  · rename_i c t hzero
    split at h
    · cases h
    · rename_i hdigit
      have hc : c.isDigit = true := by simpa using hdigit
      rw [List.dropWhile_cons_of_pos hc] at h
      rw [skipNumber, if_pos hc]
      · exact skipFraction_of_numberTail h
      · exact hzero

theorem length_of_skipDigits (h : skipDigits s = .ok rest) : rest.length < s.length := by
  unfold skipDigits at h
  split at h
  · cases h
  split at h
  · cases h
    exact Nat.lt_succ_of_le (List.dropWhile_sublist _).length_le
  · cases h

theorem length_of_skipExponent (h : skipExponent s = .ok rest) : rest.length ≤ s.length := by
  unfold skipExponent at h
  split at h
  all_goals first
    | cases h
      exact Nat.le_refl _
    | have := length_of_skipDigits h
      simp only [List.length_cons]
      omega

theorem length_of_skipFraction (h : skipFraction s = .ok rest) : rest.length ≤ s.length := by
  unfold skipFraction at h
  split at h
  · split at h
    · cases h
    · rename_i hdigits
      have := length_of_skipDigits hdigits
      have := length_of_skipExponent h
      rw [List.length_cons]
      omega
  · exact length_of_skipExponent h

theorem length_of_skipNumber (h : skipNumber s = .ok rest) : rest.length < s.length := by
  unfold skipNumber at h
  split at h
  · cases h
  · split at h
    · cases h
    · exact Nat.lt_succ_of_le (length_of_skipFraction h)
  · rename_i t _
    split at h
    · have := length_of_skipFraction h
      have : (t.dropWhile Char.isDigit).length ≤ t.length := (List.dropWhile_sublist _).length_le
      rw [List.length_cons]
      omega
    · cases h

theorem length_of_word {expected : List Char} (h : word expected s = .ok rest) :
    rest.length ≤ s.length := by
  induction expected generalizing s with
  | nil =>
    cases h
    exact Nat.le_refl _
  | cons e es ih =>
    cases s with
    | nil => cases h
    | cons c s =>
      simp only [word] at h
      split at h
      · exact Nat.le_succ_of_le (ih h)
      · cases h

end Lexeme

namespace Reader

open Lexeme

variable {α σ : Type} {s rest : List Char}

/-! ## Scalars -/

theorem skipScalar_of_scalar {v : Json} (h : scalar s = .ok (v, rest)) : skipScalar s = .ok rest := by
  simp only [scalar] at h
  split at h
  · cases h
  · split at h
    · cases h
    · rename_i hword
      cases h
      exact hword
  · split at h
    · cases h
    · rename_i hword
      cases h
      exact hword
  · split at h
    · cases h
    · rename_i hword
      cases h
      exact hword
  · split at h
    · cases h
    · rename_i hstring
      cases h
      exact skipString_of_stringTail hstring
  · rename_i c t hn ht hf hq
    split at h
    · rename_i hc
      split at h
      · cases h
      · rename_i hnumber
        cases h
        unfold Lexeme.number at hnumber
        split at hnumber
        · rename_i heq
          cases heq
          exact skipNumber_of_unsigned hnumber
        · rename_i hminus
          have hdigit : c.isDigit = true := hc.resolve_left fun e => hminus t (e ▸ rfl)
          rw [skipScalar, if_pos hdigit]
          · exact skipNumber_of_unsigned hnumber
          · exact fun e => hn (e ▸ rfl)
          · exact fun e => ht (e ▸ rfl)
          · exact fun e => hf (e ▸ rfl)
          · exact fun e => hq (e ▸ rfl)
          · exact fun e => hminus t (e ▸ rfl)
    · cases h

theorem length_of_skipScalar (h : skipScalar s = .ok rest) : rest.length < s.length := by
  unfold skipScalar at h
  split at h
  · cases h
  · exact Nat.lt_succ_of_le (length_of_word h)
  · exact Nat.lt_succ_of_le (length_of_word h)
  · exact Nat.lt_succ_of_le (length_of_word h)
  · exact Nat.lt_succ_of_lt (length_of_skipStringLoop h)
  · exact Nat.lt_succ_of_lt (length_of_skipNumber h)
  · split at h
    · exact length_of_skipNumber h
    · cases h

theorem length_skipSpace_le (s : List Char) : (skipSpace s).length ≤ s.length :=
  (List.dropWhile_sublist _).length_le

theorem skipSpace_skipSpace (s : List Char) : skipSpace (skipSpace s) = skipSpace s :=
  List.dropWhile_idempotent _ _

/-! ## Passing over values -/

/-- A value is passed over from one text to another one, with two rounds at most for each character. -/
def Skips (s rest : List Char) : Prop :=
  ∃ rounds, rounds + 2 * rest.length ≤ 2 * s.length ∧
    ∀ fuel opened, skipValue (fuel + rounds) opened s = skipRest fuel true opened rest

/-- So is what is inside a bracket, and the bracket that closes it. Before the first part there is a round of
its own. -/
def SkipsInside (bracket : Bracket) (first : Bool) (s rest : List Char) : Prop :=
  ∃ rounds, rounds + 2 * rest.length ≤ 2 * s.length + first.toNat ∧
    ∀ fuel outer, skipRest (fuel + rounds) (!first) (bracket :: outer) s = skipRest fuel true outer rest

theorem skips_of_skipScalar (h : skipScalar (skipSpace s) = .ok rest) : Skips s rest := by
  have := length_of_skipScalar h
  have := length_skipSpace_le s
  refine ⟨1, by omega, fun fuel opened => ?_⟩
  rw [skipValue]
  split
  · rename_i hbracket
    rw [hbracket] at h
    cases h
  · rename_i hbracket
    rw [hbracket] at h
    cases h
  · rw [h]

theorem skips_of_inside (bracket : Bracket) {t : List Char}
    (h : skipSpace s = (match bracket with | .array => '[' | .object => '\x7b') :: t)
    (hinside : SkipsInside bracket true t rest) : Skips s rest := by
  obtain ⟨rounds, hrounds, hskip⟩ := hinside
  have := length_skipSpace_le s
  rw [h, List.length_cons] at this
  refine ⟨rounds + 1, by simp at hrounds; omega, fun fuel opened => ?_⟩
  rw [← Nat.add_assoc, skipValue, h]
  cases bracket <;> exact hskip fuel opened

theorem skipsInside_close {bracket : Bracket} {first : Bool} (h : skipSpace s = bracket.close :: rest) :
    SkipsInside bracket first s rest := by
  have := length_skipSpace_le s
  rw [h, List.length_cons] at this
  refine ⟨1, by omega, fun fuel outer => ?_⟩
  rw [skipRest, h]
  exact if_pos rfl

/-- The next part, without what stands before it. -/
theorem skipsInside_further {bracket : Bracket} {first : Bool} {c : Char} {t u v : List Char}
    (h : skipSpace s = c :: t) (hclose : c ≠ bracket.close) (hcomma : first = true ∨ c = ',')
    (hkey : skipKey bracket (if first then c :: t else t) = .ok u) (hvalue : Skips u v)
    (hrest : SkipsInside bracket false v rest) (hlength : u.length ≤ (if first then c :: t else t).length) :
    SkipsInside bracket first s rest := by
  obtain ⟨rounds, hrounds, hskip⟩ := hvalue
  obtain ⟨others, hothers, hskips⟩ := hrest
  have := length_skipSpace_le s
  rw [h, List.length_cons] at this
  refine ⟨others + rounds + 1, ?_, fun fuel outer => ?_⟩
  · cases first <;> simp at * <;> omega
  · have hout : ¬(!first && c != ',') = true := by
      rcases hcomma with rfl | rfl
      · simp
      · simp
    have hpart : (if (!first) = true then t else c :: t) = if first then c :: t else t := by
      cases first <;> rfl
    rw [← Nat.add_assoc, ← Nat.add_assoc, skipRest, h]
    dsimp only
    rw [if_neg hclose, if_neg hout, hpart, hkey]
    dsimp only
    rw [hskip]
    exact hskips fuel outer

theorem skips_of_skipSpace (h : Skips (skipSpace s) rest) : Skips s rest := by
  obtain ⟨rounds, hrounds, hskip⟩ := h
  have := length_skipSpace_le s
  refine ⟨rounds, by omega, fun fuel opened => ?_⟩
  rw [← hskip fuel opened]
  cases hfuel : fuel + rounds with
  | zero => rfl
  | succ k => rw [skipValue, skipValue, skipSpace_skipSpace]

/-! ## Arrays and objects -/

theorem nextElement_cases {first more : Bool} {t : List Char} (h : nextElement first s = .ok (more, t)) :
    (more = false ∧ ∃ r, skipSpace s = ']' :: r ∧ t = ']' :: r) ∨
      more = true ∧ ∃ c r, skipSpace s = c :: r ∧ c ≠ ']' ∧ (first = true ∨ c = ',') ∧
        t = skipSpace (if first then c :: r else r) := by
  unfold nextElement at h
  split at h
  · cases h
  · rename_i hclose
    cases h
    exact .inl ⟨rfl, _, hclose, rfl⟩
  · rename_i c r hne hs
    split at h
    · rename_i hfirst
      cases h
      refine .inr ⟨rfl, c, r, hs, hne, .inl hfirst, ?_⟩
      rw [if_pos hfirst, ← hs, skipSpace_skipSpace]
    · rename_i hfirst
      split at h
      · rename_i hcomma
        split at h
        · cases h
        · cases h
        · cases h
          refine .inr ⟨rfl, c, r, hs, hne, .inr hcomma, ?_⟩
          rw [if_neg hfirst]
      · cases h

theorem skipsInside_of_elementLoop {item : List Char → Read α}
    (hitem : ∀ s x rest, item s = .ok (x, rest) → Skips s rest) {done xs : List α} {fuel : Nat}
    {first : Bool} (h : elementLoop item done fuel first s = .ok (xs, rest)) :
    SkipsInside .array first s rest := by
  induction fuel generalizing done first s with
  | zero => cases h
  | succ fuel ih =>
    simp only [elementLoop] at h
    split at h
    · cases h
    · rename_i hnext
      rcases nextElement_cases hnext with ⟨_, r, hs, rfl⟩ | ⟨hmore, _⟩
      · cases h
        exact skipsInside_close hs
      · cases hmore
    · rename_i hnext
      split at h
      · cases h
      · rename_i hx
        rcases nextElement_cases hnext with ⟨hmore, _⟩ | ⟨_, c, r, hs, hne, hcomma, rfl⟩
        · cases hmore
        · exact skipsInside_further hs hne hcomma rfl (skips_of_skipSpace (hitem _ _ _ hx)) (ih h)
            (Nat.le_refl _)

theorem nextKey_cases {first : Bool} {key? : Option String} {t : List Char}
    (h : nextKey first s = .ok (key?, t)) :
    (key? = none ∧ skipSpace s = '\x7d' :: t) ∨
      ∃ key c r q, key? = some key ∧ skipSpace s = c :: r ∧ c ≠ '\x7d' ∧ (first = true ∨ c = ',') ∧
        skipSpace (if first then c :: r else r) = '"' :: q ∧ stringTail q = .ok (key, t) := by
  unfold nextKey at h
  split at h
  · cases h
  · rename_i hclose
    cases h
    exact .inl ⟨rfl, hclose⟩
  · rename_i c r hne hs
    split at h
    · rename_i hfirst
      split at h
      · rename_i hquote
        dsimp only at h
        split at h
        · cases h
        · rename_i hkey
          cases h
          refine .inr ⟨_, c, r, r, rfl, hs, hne, .inl hfirst, ?_, hkey⟩
          rw [if_pos hfirst, ← hs, skipSpace_skipSpace, hs, hquote]
      · cases h
    · rename_i hfirst
      split at h
      · rename_i hcomma
        split at h
        · cases h
        · rename_i hquote
          dsimp only at h
          split at h
          · cases h
          · rename_i hkey
            cases h
            refine .inr ⟨_, c, r, _, rfl, hs, hne, .inr hcomma, ?_, hkey⟩
            rw [if_neg hfirst, hquote]
        · cases h
      · cases h

theorem length_of_colon (h : colon s = .ok rest) : rest.length < s.length := by
  unfold colon at h
  split at h
  · cases h
  · rename_i hs
    cases h
    have := length_skipSpace_le s
    rwa [hs] at this
  · cases h

theorem skipsInside_of_memberLoop {member : σ → String → List Char → Read σ}
    (hmember : ∀ a key s b rest, member a key s = .ok (b, rest) → ∃ t, colon s = .ok t ∧ Skips t rest)
    {a b : σ} {fuel : Nat} {first : Bool} (h : memberLoop member a fuel first s = .ok (b, rest)) :
    SkipsInside .object first s rest := by
  induction fuel generalizing a first s with
  | zero => cases h
  | succ fuel ih =>
    simp only [memberLoop] at h
    split at h
    · cases h
    · rename_i hnext
      cases h
      rcases nextKey_cases hnext with ⟨_, hs⟩ | ⟨_, _, _, _, hkey, _⟩
      · exact skipsInside_close hs
      · cases hkey
    · rename_i hnext
      split at h
      · cases h
      · rename_i hb
        rcases nextKey_cases hnext with ⟨hkey, _⟩ | ⟨key, c, r, q, _, hs, hne, hcomma, hquote, hstring⟩
        · cases hkey
        · obtain ⟨t, hcolon, ht⟩ := hmember _ _ _ _ _ hb
          have hskip := skipString_of_stringTail hstring
          refine skipsInside_further hs hne hcomma ?_ ht (ih h) ?_
          · rw [skipKey, hquote]
            simp only [hskip]
            exact hcolon
          · have := length_of_skipStringLoop hskip
            have := length_of_colon hcolon
            have := length_skipSpace_le (if first then c :: r else r)
            rw [hquote, List.length_cons] at this
            omega

theorem skips_of_memberValue {item : List Char → Read α}
    (hitem : ∀ s x rest, item s = .ok (x, rest) → Skips s rest) {x : α}
    (h : memberValue item s = .ok (x, rest)) : ∃ t, colon s = .ok t ∧ Skips t rest := by
  unfold memberValue at h
  split at h
  · cases h
  · rename_i t hcolon
    exact ⟨t, hcolon, hitem _ _ _ h⟩

/-! ## Values -/

theorem skips_of_value {depth : Nat} {v : Json} (h : value depth s = .ok (v, rest)) : Skips s rest := by
  induction depth generalizing s rest v with
  | zero =>
    simp only [value] at h
    split at h
    · cases h
    · cases h
    · exact skips_of_skipScalar (skipScalar_of_scalar h)
  | succ depth ih =>
    simp only [value] at h
    split at h
    · rename_i hs
      split at h
      · cases h
      · rename_i helements
        cases h
        exact skips_of_inside .array hs (skipsInside_of_elementLoop (fun _ _ _ => ih) helements)
    · rename_i hs
      split at h
      · cases h
      · rename_i hmembers
        cases h
        refine skips_of_inside .object hs (skipsInside_of_memberLoop ?_ hmembers)
        intro a key s b rest hb
        unfold addMember at hb
        split at hb
        · cases hb
        · rename_i hx
          cases hb
          exact skips_of_memberValue (fun _ _ _ => ih) hx
    · exact skips_of_skipScalar (skipScalar_of_scalar h)

/-- What is read as a value is passed over as one, up to the same place. -/
theorem skip_of_value {depth : Nat} {v : Json} (h : value depth s = .ok (v, rest)) :
    skip s = .ok ((), rest) := by
  obtain ⟨rounds, hrounds, hskip⟩ := skips_of_value h
  obtain ⟨fuel, hfuel⟩ : ∃ fuel, 2 * s.length + 2 = fuel + rounds := ⟨2 * s.length + 2 - rounds, by omega⟩
  rw [skip, hfuel, hskip]
  cases fuel <;> rfl

end Reader
end Json
end SurveyIntake
