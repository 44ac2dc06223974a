import Mathlib.Data.Finset.Card
import Mathlib.Data.Nat.Bitwise
import SurveyIntake.Regex.Positions

/-!
# SurveyIntake.Proofs.Matching

What an expression matches, and that following sets of positions finds just that.

* `Expr.Matches`      — an expression matches what stands between two positions of a text.
* `Times`             — a relation between positions that is followed a number of times.
* `Follows`           — a function on sets of positions leads from each of them just where a relation does.
* `follows_exactly`, `atMost_testBit`, `atMost_closed` — repetitions, to a number of rounds or to the end.
* `Expr.follows_run`  — the plan of an expression leads where its matches end.
* `Expr.occurs_iff`   — an expression occurs in a text just if it matches something there.
-/

namespace SurveyIntake
namespace Regex

/-- The character before a position of a text, unless that is the beginning. -/
def charBefore (text : List Char) : Nat → Option Char
  | 0 => none
  | i + 1 => text[i]?

/-- A relation followed a number of times. -/
inductive Times (R : Nat → Nat → Prop) : Nat → Nat → Nat → Prop where
  | zero (i : Nat) : Times R 0 i i
  | succ {n i j k : Nat} : R i j → Times R n j k → Times R (n + 1) i k

/-- A number of times between two bounds, the upper of which may be missing. -/
def Between (min : Nat) (max : Option Nat) (n : Nat) : Prop := min ≤ n ∧ ∀ m, max = some m → n ≤ m

/-- A character of the set stands between two positions of a text. -/
def Takes (text : List Char) (s : CharSet) (i j : Nat) : Prop :=
  j = i + 1 ∧ ∃ c, text[i]? = some c ∧ s.contains c = true

/-- The condition holds at a position of a text. -/
def Stays (text : List Char) (l : Look) (i j : Nat) : Prop :=
  j = i ∧ l.holds (charBefore text i) text[i]? = true

/-- The expression matches what stands between two positions of a text. A repetition is made as often as
it has to be, and then as often as it may be. -/
def Expr.Matches (text : List Char) : Expr → Nat → Nat → Prop
  | .empty, i, j => j = i
  | .chars s, i, j => Takes text s i j
  | .look l, i, j => Stays text l i j
  | .capture body, i, j => body.Matches text i j
  | .seq a b, i, j => ∃ k, a.Matches text i k ∧ b.Matches text k j
  | .alt a b, i, j => a.Matches text i j ∨ b.Matches text i j
  | .repeated min max _ body, i, j =>
    ∃ n, (∀ m, max = some m → n ≤ m - min) ∧ Times (body.Matches text) (min + n) i j

/-! ## Relations followed a number of times -/

section Times

variable {R : Nat → Nat → Prop} {m n i j k : Nat}

theorem times_zero_iff : Times R 0 i j ↔ j = i := by
  constructor
  · rintro ⟨⟩
    rfl
  · rintro rfl
    exact .zero j

theorem times_succ_iff : Times R (n + 1) i k ↔ ∃ j, R i j ∧ Times R n j k := by
  constructor
  · rintro ⟨⟩
    exact ⟨_, ‹_›, ‹_›⟩
  · rintro ⟨j, hij, hjk⟩
    exact .succ hij hjk

theorem times_add_iff : Times R (m + n) i k ↔ ∃ j, Times R m i j ∧ Times R n j k := by
  induction m generalizing i with
  | zero => simp [times_zero_iff]
  | succ m ih =>
    rw [Nat.add_right_comm]
    simp only [times_succ_iff, ih]
    constructor
    · rintro ⟨l, hil, j, hlj, hjk⟩
      exact ⟨j, ⟨l, hil, hlj⟩, hjk⟩
    · rintro ⟨j, ⟨l, hil, hlj⟩, hjk⟩
      exact ⟨l, hil, j, hlj, hjk⟩

theorem times_congr {S : Nat → Nat → Prop} (h : ∀ i j, R i j ↔ S i j) : Times R n i j ↔ Times S n i j := by
  induction n generalizing i with
  | zero => rw [times_zero_iff, times_zero_iff]
  | succ n ih => simp only [times_succ_iff, h, ih]

/-- What is closed under the relation is not left by following it. -/
theorem times_closed {P : Nat → Prop} (h : ∀ i j, P i → R i j → P j) (hi : P i) (hij : Times R n i j) :
    P j := by
  induction hij with
  | zero i => exact hi
  | succ hil _ ih => exact ih (h _ _ hi hil)

end Times

/-! ## Sets of positions -/

/-- Whether a position is a member. -/
abbrev Has (s i : Nat) : Prop := s.testBit i = true

theorem eq_of_has {s t : Nat} (h : ∀ i, Has s i ↔ Has t i) : s = t :=
  Nat.eq_of_testBit_eq fun i => Bool.eq_iff_iff.2 (h i)

theorem has_or {s t i : Nat} : Has (s ||| t) i ↔ Has s i ∨ Has t i := by
  rw [Has, Nat.testBit_or, Bool.or_eq_true]

theorem has_and {s t i : Nat} : Has (s &&& t) i ↔ Has s i ∧ Has t i := by
  rw [Has, Nat.testBit_and, Bool.and_eq_true]

/-- The members of a set that are not those of one inside of it. -/
theorem has_xor {s t i : Nat} (h : ∀ i, Has t i → Has s i) : Has (s ^^^ t) i ↔ Has s i ∧ ¬Has t i := by
  have hi := h i
  unfold Has at hi ⊢
  rw [Nat.testBit_xor]
  cases hs : s.testBit i <;> cases ht : t.testBit i <;> simp_all

theorem has_shiftLeft_one {s j : Nat} : Has (s <<< 1) j ↔ ∃ i, j = i + 1 ∧ Has s i := by
  unfold Has
  rw [Nat.testBit_shiftLeft]
  cases j with
  | zero => simp
  | succ j => simp

theorem has_ones {count i : Nat} : Has (1 <<< count - 1) i ↔ i < count := by
  unfold Has
  rw [Nat.one_shiftLeft, Nat.testBit_two_pow_sub_one, decide_eq_true_eq]

theorem ne_zero_iff_exists_has {s : Nat} : s ≠ 0 ↔ ∃ i, Has s i := by
  refine ⟨Nat.exists_testBit_of_ne_zero, ?_⟩
  rintro ⟨i, hi⟩ rfl
  simp [Has] at hi

theorem length_positions (before : Option Char) (text : List Char) :
    (positions before text).length = text.length + 1 := by
  induction text generalizing before with
  | nil => rfl
  | cons c rest ih => rw [positions, List.length_cons, ih, List.length_cons]

theorem has_select_cons {test : Option Char → Option Char → Bool} {before after : Option Char}
    {rest : List (Option Char × Option Char)} {i : Nat} :
    Has (select test ((before, after) :: rest)) i ↔
      (i = 0 ∧ test before after = true) ∨ ∃ j, i = j + 1 ∧ Has (select test rest) j := by
  unfold Has
  rw [select]
  cases i with
  | zero =>
    rw [Nat.testBit_zero]
    cases test before after <;> simp [Nat.add_mod]
  | succ i =>
    rw [Nat.testBit_succ]
    have hhalf : (2 * select test rest + if test before after = true then 1 else 0) / 2 =
        select test rest := by
      split <;> omega
    simp [hhalf]

/-- The positions that pass a test on the characters around them. -/
theorem has_select {test : Option Char → Option Char → Bool} {text : List Char} {i : Nat} :
    Has (select test (positions none text)) i ↔
      i ≤ text.length ∧ test (charBefore text i) text[i]? = true := by
  have general : ∀ before : Option Char, Has (select test (positions before text)) i ↔
      i ≤ text.length ∧ test (if i = 0 then before else charBefore text i) text[i]? = true := by
    induction text generalizing i with
    | nil =>
      intro before
      rw [positions, has_select_cons]
      constructor
      · rintro (⟨rfl, htest⟩ | ⟨j, _, hj⟩)
        · exact ⟨Nat.le_refl _, htest⟩
        · simp [select, Has] at hj
      · rintro ⟨hi, htest⟩
        obtain rfl := Nat.le_zero.1 hi
        exact .inl ⟨rfl, htest⟩
    | cons c rest ih =>
      intro before
      rw [positions, has_select_cons]
      cases i with
      | zero => simp
      | succ i =>
        have hbefore : (if i = 0 then some c else charBefore rest i) = charBefore (c :: rest) (i + 1) := by
          cases i <;> rfl
        simp [ih, hbefore]
  rw [general none]
  cases i <;> rfl

/-! ## Steps -/

/-- The function leads from a set of positions of a text just to where the relation leads from one of them,
which is a position again. -/
structure Follows (last : Nat) (f : Nat → Nat) (R : Nat → Nat → Prop) : Prop where
  inside : ∀ i j, i ≤ last → R i j → j ≤ last
  has : ∀ s, (∀ i, Has s i → i ≤ last) → ∀ j, Has (f s) j ↔ ∃ i, Has s i ∧ R i j

section Follows

variable {last : Nat} {f g : Nat → Nat} {R S : Nat → Nat → Prop}

theorem Follows.bounded (h : Follows last f R) {s : Nat} (hs : ∀ i, Has s i → i ≤ last) :
    ∀ j, Has (f s) j → j ≤ last := by
  intro j hj
  obtain ⟨i, hi, hij⟩ := (h.has s hs j).1 hj
  exact h.inside i j (hs i hi) hij

theorem Follows.congr (h : Follows last f R) (hRS : ∀ i j, R i j ↔ S i j) : Follows last f S where
  inside i j hi hij := h.inside i j hi ((hRS i j).2 hij)
  has s hs j := by
    rw [h.has s hs j]
    simp only [hRS]

theorem Follows.times_inside (h : Follows last f R) {n i j : Nat} (hi : i ≤ last) (hij : Times R n i j) :
    j ≤ last :=
  times_closed (P := (· ≤ last)) h.inside hi hij

/-- One step after another. -/
theorem follows_seq (hf : Follows last f R) (hg : Follows last g S) :
    Follows last (fun s => g (f s)) fun i j => ∃ k, R i k ∧ S k j where
  inside := by
    rintro i j hi ⟨k, hik, hkj⟩
    exact hg.inside k j (hf.inside i k hi hik) hkj
  has s hs j := by
    rw [hg.has (f s) (hf.bounded hs) j]
    constructor
    · rintro ⟨k, hk, hkj⟩
      obtain ⟨i, hi, hik⟩ := (hf.has s hs k).1 hk
      exact ⟨i, hi, k, hik, hkj⟩
    · rintro ⟨i, hi, k, hik, hkj⟩
      exact ⟨k, (hf.has s hs k).2 ⟨i, hi, hik⟩, hkj⟩

theorem follows_alt (hf : Follows last f R) (hg : Follows last g S) :
    Follows last (fun s => f s ||| g s) fun i j => R i j ∨ S i j where
  inside := by
    rintro i j hi (hij | hij)
    · exact hf.inside i j hi hij
    · exact hg.inside i j hi hij
  has s hs j := by
    rw [has_or, hf.has s hs, hg.has s hs, ← exists_or]
    simp only [and_or_left]

/-- A step that leads back to where it starts leads there however often it is taken. -/
theorem Follows.times_of_fixed (h : Follows last f R) {s : Nat} (hs : ∀ i, Has s i → i ≤ last)
    (hfixed : f s = s) (n j : Nat) : (∃ i, Has s i ∧ Times R n i j) ↔ Has s j := by
  induction n with
  | zero => simp [times_zero_iff]
  | succ n ih =>
    rw [← ih]
    simp only [times_succ_iff]
    have hstep : ∀ k, Has s k ↔ ∃ i, Has s i ∧ R i k := fun k => by rw [← h.has s hs k, hfixed]
    constructor
    · rintro ⟨i, hi, k, hik, hkj⟩
      exact ⟨k, (hstep k).2 ⟨i, hi, hik⟩, hkj⟩
    · rintro ⟨k, hk, hkj⟩
      obtain ⟨i, hi, hik⟩ := (hstep k).1 hk
      exact ⟨i, hi, k, hik, hkj⟩

theorem follows_exactly (h : Follows last f R) (n : Nat) : Follows last (exactly f n) (Times R n) where
  inside i j hi hij := h.times_inside hi hij
  has s hs j := by
    induction n generalizing s with
    | zero => simp [exactly, times_zero_iff]
    | succ n ih =>
      rw [exactly]
      split
      · rename_i hfixed
        exact (h.times_of_fixed hs hfixed (n + 1) j).symm
      · rw [ih (f s) (h.bounded hs)]
        simp only [times_succ_iff, h.has s hs]
        constructor
        · rintro ⟨k, ⟨i, hi, hik⟩, hkj⟩
          exact ⟨i, hi, k, hik, hkj⟩
        · rintro ⟨i, hi, k, hik, hkj⟩
          exact ⟨k, ⟨i, hi, hik⟩, hkj⟩

/-! ## Rounds -/

/-- Positions that have been seen. Of those that have not just been found, all steps have been followed. -/
structure Seen (last : Nat) (R : Nat → Nat → Prop) (seen found : Nat) : Prop where
  bounded : ∀ i, Has seen i → i ≤ last
  within : ∀ i, Has found i → Has seen i
  followed : ∀ i j, Has seen i → ¬Has found i → R i j → Has seen j

/-- What is reached from what has been seen has been seen, or is reached from what has just been found. -/
theorem Seen.reached {seen found : Nat} (h : Seen last R seen found) {k i j : Nat} (hi : Has seen i)
    (hij : Times R k i j) : Has seen j ∨ ∃ m, m ≤ k ∧ ∃ l, Has found l ∧ Times R m l j := by
  induction hij with
  | zero i => exact .inl hi
  | @succ n i l j hil hlj ih =>
    by_cases hfound : Has found i
    · exact .inr ⟨n + 1, Nat.le_refl _, i, hfound, .succ hil hlj⟩
    · rcases ih (h.followed i l hi hfound hil) with hj | ⟨m, hm, hreach⟩
      · exact .inl hj
      · exact .inr ⟨m, Nat.le_succ_of_le hm, hreach⟩

theorem Seen.round (hf : Follows last f R) {seen found : Nat} (h : Seen last R seen found) :
    Seen last R (seen ||| f found) ((seen ||| f found) ^^^ seen) := by
  have hfound : ∀ i, Has found i → i ≤ last := fun i hi => h.bounded i (h.within i hi)
  have hxor : ∀ i, Has ((seen ||| f found) ^^^ seen) i ↔ Has (seen ||| f found) i ∧ ¬Has seen i :=
    fun i => has_xor fun i hi => has_or.2 (.inl hi)
  refine ⟨fun i hi => ?_, fun i hi => ((hxor i).1 hi).1, fun i j hi hnew hij => ?_⟩
  · rcases has_or.1 hi with hi | hi
    · exact h.bounded i hi
    · exact hf.bounded hfound i hi
  · have hseen : Has seen i := Classical.byContradiction fun hnot => hnew ((hxor i).2 ⟨hi, hnot⟩)
    by_cases hjust : Has found i
    · exact has_or.2 (.inr ((hf.has found hfound j).2 ⟨i, hjust, hij⟩))
    · exact has_or.2 (.inl (h.followed i j hseen hjust hij))

/-- Where a number of rounds leads: to what has been seen, and what is reached in as many steps at most. -/
theorem atMost_has (hf : Follows last f R) {n seen found : Nat} (h : Seen last R seen found) (j : Nat) :
    Has (atMost f n seen found) j ↔ Has seen j ∨ ∃ k, k ≤ n ∧ ∃ i, Has found i ∧ Times R k i j := by
  induction n generalizing seen found with
  | zero =>
    rw [atMost]
    refine ⟨.inl, ?_⟩
    rintro (hj | ⟨k, hk, i, hi, hij⟩)
    · exact hj
    · obtain rfl := Nat.le_zero.1 hk
      obtain rfl := times_zero_iff.1 hij
      exact h.within _ hi
  | succ n ih =>
    have hfound : ∀ i, Has found i → i ≤ last := fun i hi => h.bounded i (h.within i hi)
    have hstep : ∀ m, Has (f found) m ↔ ∃ i, Has found i ∧ R i m := hf.has found hfound
    have hround := h.round hf
    rw [atMost]
    split
    · rename_i hsame
      -- Nothing new is found, so all that is reached has been seen.
      have hclosed : ∀ i m, Has seen i → R i m → Has seen m := by
        intro i m hi him
        by_cases hjust : Has found i
        · rw [← hsame]
          exact has_or.2 (.inr ((hstep m).2 ⟨i, hjust, him⟩))
        · exact h.followed i m hi hjust him
      refine ⟨.inl, ?_⟩
      rintro (hj | ⟨k, _, i, hi, hij⟩)
      · exact hj
      · exact times_closed hclosed (h.within i hi) hij
    · rw [ih hround]
      have hnew : ∀ i, Has ((seen ||| f found) ^^^ seen) i → Has (f found) i := by
        intro i hi
        obtain ⟨hall, hnot⟩ := (has_xor fun i hi => has_or.2 (.inl hi)).1 hi
        exact (has_or.1 hall).resolve_left hnot
      constructor
      · rintro (hj | ⟨k, hk, i, hi, hij⟩)
        · rcases has_or.1 hj with hj | hj
          · exact .inl hj
          · obtain ⟨i, hi, hij⟩ := (hstep j).1 hj
            exact .inr ⟨1, by omega, i, hi, .succ hij (.zero j)⟩
        · obtain ⟨l, hl, hli⟩ := (hstep i).1 (hnew i hi)
          exact .inr ⟨k + 1, by omega, l, hl, .succ hli hij⟩
      · rintro (hj | ⟨k, hk, i, hi, hij⟩)
        · exact .inl (has_or.2 (.inl hj))
        · cases hij with
          | zero => exact .inl (has_or.2 (.inl (h.within _ hi)))
          | @succ n' _ l _ hil hlj =>
            have hl : Has (seen ||| f found) l := has_or.2 (.inr ((hstep l).2 ⟨i, hi, hil⟩))
            rcases hround.reached hl hlj with hj | ⟨m, hm, hreach⟩
            · exact .inl hj
            · exact .inr ⟨m, by omega, hreach⟩

/-- The positions that have not been seen. -/
def unseen (last seen : Nat) : Finset Nat := (Finset.range (last + 1)).filter fun i => ¬Has seen i

/-- With as many rounds as there are positions to be seen, all that can be reached is. -/
theorem atMost_closed (hf : Follows last f R) {n seen found : Nat} (h : Seen last R seen found)
    (hn : (unseen last seen).card ≤ n) :
    ∀ i j, Has (atMost f n seen found) i → R i j → Has (atMost f n seen found) j := by
  induction n generalizing seen found with
  | zero =>
    intro i j hi hij
    rw [atMost] at hi ⊢
    have hempty := Finset.card_eq_zero.1 (Nat.le_zero.1 hn)
    refine Classical.byContradiction fun hj => ?_
    have hmem : j ∈ unseen last seen := by
      rw [unseen, Finset.mem_filter, Finset.mem_range]
      exact ⟨Nat.lt_succ_of_le (hf.inside i j (h.bounded i hi) hij), hj⟩
    rw [hempty] at hmem
    exact absurd hmem (Finset.notMem_empty j)
  | succ n ih =>
    have hfound : ∀ i, Has found i → i ≤ last := fun i hi => h.bounded i (h.within i hi)
    have hround := h.round hf
    rw [atMost]
    split
    · rename_i hsame
      intro i j hi hij
      by_cases hjust : Has found i
      · rw [← hsame]
        exact has_or.2 (.inr ((hf.has found hfound j).2 ⟨i, hjust, hij⟩))
      · exact h.followed i j hi hjust hij
    · rename_i hmore
      refine ih hround ?_
      have hfewer : unseen last (seen ||| f found) ⊂ unseen last seen := by
        refine Finset.ssubset_iff_subset_ne.2 ⟨fun i hi => ?_, fun heq => hmore ?_⟩
        · rw [unseen, Finset.mem_filter] at hi ⊢
          exact ⟨hi.1, fun hs => hi.2 (has_or.2 (.inl hs))⟩
        · refine eq_of_has fun i => ⟨fun hi => ?_, fun hi => has_or.2 (.inl hi)⟩
          refine Classical.byContradiction fun hnot => ?_
          have hmem : i ∈ unseen last seen := by
            rw [unseen, Finset.mem_filter, Finset.mem_range]
            exact ⟨Nat.lt_succ_of_le (hround.bounded i hi), hnot⟩
          rw [← heq, unseen, Finset.mem_filter] at hmem
          exact hmem.2 hi
      have := Finset.card_lt_card hfewer
      omega

/-- A step followed any number of times, or up to a number of times. -/
theorem follows_atMost (hf : Follows last f R) (max : Option Nat) :
    Follows last (fun s => atMost f (max.elim (last + 1) id) s s)
      fun i j => ∃ n, (∀ m, max = some m → n ≤ m) ∧ Times R n i j where
  inside := by
    rintro i j hi ⟨n, _, hij⟩
    exact hf.times_inside hi hij
  has s hs j := by
    have hseen : Seen last R s s := ⟨hs, fun _ hi => hi, fun i _ hi hnot => absurd hi hnot⟩
    rw [atMost_has hf hseen]
    constructor
    · rintro (hj | ⟨k, hk, i, hi, hij⟩)
      · exact ⟨j, hj, 0, fun _ _ => Nat.zero_le _, .zero j⟩
      · refine ⟨i, hi, k, fun m hm => ?_, hij⟩
        rw [hm] at hk
        exact hk
    · rintro ⟨i, hi, n, hn, hij⟩
      cases max with
      | some m => exact .inr ⟨n, hn m rfl, i, hi, hij⟩
      | none =>
        rw [← atMost_has hf hseen]
        have hcard : (unseen last s).card ≤ last + 1 :=
          Nat.le_trans (Finset.card_filter_le _ _) (Nat.le_of_eq (Finset.card_range _))
        have hclosed := atMost_closed hf hseen hcard
        have hstart : Has (atMost f (last + 1) s s) i := (atMost_has hf hseen i).2 (.inl hi)
        exact times_closed hclosed hstart hij

end Follows

/-! ## Expressions -/

namespace Expr

/-- The plan of an expression leads where its matches end. -/
theorem follows_run (e : Expr) (text : List Char) :
    Follows text.length ((e.plan (positions none text)).run (positions none text).length)
      (e.Matches text) := by
  induction e with
  | empty =>
    refine ⟨?_, fun s hs j => ?_⟩
    · rintro i j hi rfl
      exact hi
    · simp only [plan, Plan.run, Matches, has_and, has_select]
      constructor
      · rintro ⟨hj, _⟩
        exact ⟨j, hj, rfl⟩
      · rintro ⟨i, hi, rfl⟩
        exact ⟨hi, hs _ hi, trivial⟩
  | chars set =>
    refine ⟨?_, fun s hs j => ?_⟩
    · rintro i j hi ⟨rfl, c, hc, _⟩
      exact (List.getElem?_eq_some_iff.1 hc).1
    · simp only [plan, Plan.run, Matches, Takes, has_shiftLeft_one, has_and, has_select, Option.any_eq_true]
      constructor
      · rintro ⟨i, rfl, hi, _, c, hc, hset⟩
        exact ⟨i, hi, rfl, c, hc, hset⟩
      · rintro ⟨i, hi, rfl, c, hc, hset⟩
        exact ⟨i, rfl, hi, hs i hi, c, hc, hset⟩
  | look l =>
    refine ⟨?_, fun s hs j => ?_⟩
    · rintro i j hi ⟨rfl, _⟩
      exact hi
    · simp only [plan, Plan.run, Matches, Stays, has_and, has_select]
      constructor
      · rintro ⟨hj, _, hl⟩
        exact ⟨j, hj, rfl, hl⟩
      · rintro ⟨i, hi, rfl, hl⟩
        exact ⟨hi, hs _ hi, hl⟩
  | capture body ih => exact ih
  | seq a b iha ihb => simpa only [plan, Plan.run, Matches] using follows_seq iha ihb
  | alt a b iha ihb => simpa only [plan, Plan.run, Matches] using follows_alt iha ihb
  | repeated min max greedy body ih =>
    have hplan := follows_seq (follows_exactly ih min) (follows_atMost ih (max.map (· - min)))
    have hrounds : max.elim (positions none text).length (· - min) =
        (max.map (· - min)).elim (text.length + 1) id := by
      cases max with
      | none => exact length_positions none text
      | some m => rfl
    simp only [plan, Plan.run, hrounds]
    refine hplan.congr fun i j => ?_
    simp only [Matches, times_add_iff]
    constructor
    · rintro ⟨k, hik, n, hn, hkj⟩
      exact ⟨n, fun m hm => hn _ (by rw [hm]; rfl), k, hik, hkj⟩
    · rintro ⟨n, hn, k, hik, hkj⟩
      refine ⟨k, hik, n, fun m hm => ?_, hkj⟩
      obtain ⟨m', hm', rfl⟩ := Option.map_eq_some_iff.1 hm
      exact hn m' hm'

/-- An expression occurs in a text just if it matches something there. -/
theorem occurs_iff {e : Expr} {text : List Char} :
    e.occurs text = true ↔ ∃ i j, i ≤ text.length ∧ e.Matches text i j := by
  have hones : ∀ i, Has (1 <<< (positions none text).length - 1) i ↔ i ≤ text.length := by
    intro i
    rw [has_ones, length_positions, Nat.lt_succ_iff]
  rw [occurs, bne_iff_ne, ne_zero_iff_exists_has]
  simp only [(follows_run e text).has _ fun i hi => (hones i).1 hi, hones]
  rw [exists_comm]

end Expr
end Regex
end SurveyIntake
