import Mathlib.Tactic.SplitIfs
import SurveyIntake.Regex.Reader

/-!
# SurveyIntake.Proofs.Reading

Numbers and escapes are read alike whatever follows the group they stand in.

* `Stop`            — what may follow: the parenthesis that closes the group, or nothing.
* `Framed`          — what a reader does that stops before such a parenthesis is the same before anything else
  that may follow.
* `FramedWhen`      — the same, under a condition on what is left.
* `count_eq_some_iff`, `framed_count` — the bounds of repetitions.
* `framed_escape`   — escapes.

Each proof goes backwards: it starts from what is left in the end, which names the place where the
parenthesis stands in what was there before.
-/

namespace SurveyIntake
namespace Regex

/-- What may follow the inside of a group, and an expression as a whole. -/
inductive Stop : List Char → Prop where
  | nil : Stop []
  | close (v : List Char) : Stop (')' :: v)

/-- Whatever is read up to a text that begins with a closing parenthesis is read in the same way before
any other text that may follow. -/
def Framed (R : List Char → List Char → Prop) : Prop :=
  ∀ ⦃s t v⦄, R s (t ++ ')' :: v) → ∃ a, s = a ++ ')' :: v ∧ t.length ≤ a.length ∧
    ∀ k, Stop k → R (a ++ k) (t ++ k)

/-- The same of a reader that takes some characters at least, if a condition holds of what it leaves. -/
def FramedWhen (taken : Nat) (C : List Char → Prop) (R : List Char → List Char → Prop) : Prop :=
  ∀ ⦃s t v⦄, R s (t ++ ')' :: v) → ∃ a, s = a ++ ')' :: v ∧ t.length + taken ≤ a.length ∧
    ∀ k, Stop k → C (t ++ k) → R (a ++ k) (t ++ k)

section Framed

variable {α : Type} {k s : List Char} {extended : Bool}

/-- A character other than a closing parenthesis stands before what may follow. -/
theorem Stop.exists_cons (h : Stop k) {c : Char} {a rest : List Char} (hc : c ≠ ')')
    (heq : a ++ k = c :: rest) : ∃ b, a = c :: b ∧ rest = b ++ k := by
  cases a with
  | nil =>
    cases h with
    | nil => cases heq
    | close v =>
      cases heq
      exact absurd rfl hc
  | cons d b =>
    cases heq
    exact ⟨b, rfl, rfl⟩

/-- What a text does not begin with before a closing parenthesis, it does not before anything else. -/
theorem Stop.ne_cons (h : Stop k) {c : Char} {a v rest : List Char} (hc : c ≠ ')')
    (hne : ∀ rest, a ++ ')' :: v ≠ c :: rest) : a ++ k ≠ c :: rest := by
  intro heq
  obtain ⟨b, rfl, _⟩ := h.exists_cons hc heq
  exact hne _ rfl

/-! ## White space -/

theorem isBlank_close : Text.isBlank ')' = false := by decide

theorem framed_dropSpace (comment : Bool) : Framed fun s u => dropSpace comment s = u := by
  intro s s' v h
  induction s generalizing comment with
  | nil => cases s' <;> cases h
  | cons c rest ih =>
    have hskip : ∀ comment', dropSpace comment' rest = s' ++ ')' :: v →
        (∀ t, dropSpace comment (c :: t) = dropSpace comment' t) →
        ∃ a, c :: rest = a ++ ')' :: v ∧ s'.length ≤ a.length ∧
          ∀ k, Stop k → dropSpace comment (a ++ k) = s' ++ k := by
      intro comment' h hstep
      obtain ⟨a, rfl, hle, ha⟩ := ih comment' h
      exact ⟨c :: a, rfl, Nat.le_succ_of_le hle, fun k hk => (hstep (a ++ k)).trans (ha k hk)⟩
    cases comment with
    | true => exact hskip (c != '\n') h fun _ => rfl
    | false =>
      by_cases hblank : Text.isBlank c = true
      · have hstep : ∀ t, dropSpace false (c :: t) = dropSpace false t := fun t => by
          simp [dropSpace, hblank]
        exact hskip false ((hstep rest).symm.trans h) hstep
      · by_cases hsign : c = '#'
        · subst hsign
          have hstep : ∀ t, dropSpace false ('#' :: t) = dropSpace true t := fun t => by
            simp [dropSpace, hblank]
          exact hskip true ((hstep rest).symm.trans h) hstep
        · have hstay : ∀ t, dropSpace false (c :: t) = c :: t := fun t => by
            simp [dropSpace, hblank, hsign]
          refine ⟨s', (hstay rest).symm.trans h, Nat.le_refl _, fun k hk => ?_⟩
          cases s' with
          | nil =>
            cases hk with
            | nil => rfl
            | close v' => simp [dropSpace, isBlank_close]
          | cons d t =>
            rw [hstay] at h
            cases h
            exact hstay _

theorem framed_space (extended : Bool) : Framed fun s u => space extended s = u := by
  cases extended with
  | true => exact framed_dropSpace false
  | false => exact fun s s' v h => ⟨s', h, Nat.le_refl _, fun k _ => rfl⟩

theorem dropSpace_suffix (comment : Bool) : dropSpace comment s <:+ s := by
  induction s generalizing comment with
  | nil => exact List.suffix_rfl
  | cons c rest ih =>
    have hskip : ∀ comment', dropSpace comment' rest <:+ c :: rest := fun comment' =>
      (ih comment').trans (List.suffix_cons c rest)
    rw [dropSpace]
    split
    · exact hskip _
    · split
      · exact hskip _
      · split
        · exact hskip _
        · exact List.suffix_rfl

theorem space_suffix : space extended s <:+ s := by
  cases extended with
  | true => exact dropSpace_suffix false
  | false => exact List.suffix_rfl

theorem framed_dropWhile {p : Char → Bool} (hp : p ')' = false) :
    Framed fun s u => s.dropWhile p = u := by
  intro s s' v h
  induction s with
  | nil => cases s' <;> cases h
  | cons c rest ih =>
    cases hc : p c with
    | true =>
      have hstep : ∀ t, (c :: t).dropWhile p = t.dropWhile p := fun t => by simp [hc]
      obtain ⟨a, rfl, hle, ha⟩ := ih ((hstep rest).symm.trans h)
      exact ⟨c :: a, rfl, Nat.le_succ_of_le hle, fun k hk => (hstep (a ++ k)).trans (ha k hk)⟩
    | false =>
      have hstay : ∀ t, (c :: t).dropWhile p = c :: t := fun t => by simp [hc]
      refine ⟨s', (hstay rest).symm.trans h, Nat.le_refl _, fun k hk => ?_⟩
      cases s' with
      | nil =>
        cases hk with
        | nil => rfl
        | close v' => simp [hp]
      | cons d t =>
        rw [hstay] at h
        cases h
        exact hstay _

/-! ## Numbers -/

/-- Digits are read with as much fuel as there are characters before the end of the group. -/
theorem framed_digits {n : Nat} {s s' v ds : List Char} (hn : s.length ≤ n)
    (h : digits extended n s = (ds, s' ++ ')' :: v)) :
    ∃ a, s = a ++ ')' :: v ∧ s'.length ≤ a.length ∧
      ∀ k, Stop k → ∀ m, a.length ≤ m → digits extended m (a ++ k) = (ds, s' ++ k) := by
  induction n generalizing s s' ds with
  | zero =>
    obtain rfl := List.length_eq_zero_iff.1 (Nat.le_zero.1 hn)
    rw [digits] at h
    cases s' <;> cases h
  | succ n ih =>
    cases s with
    | nil =>
      rw [digits] at h
      cases s' <;> cases h
    | cons c rest =>
      by_cases hdigit : c.isDigit = true
      · have hstep : ∀ m t, digits extended (m + 1) (c :: t) =
            (c :: (digits extended m (space extended t)).1,
              (digits extended m (space extended t)).2) := fun m t => by
          rw [digits]
          simp [hdigit]
        rw [hstep] at h
        obtain ⟨rfl, hrest⟩ := Prod.mk.inj h
        have hlength : (space extended rest).length ≤ n :=
          Nat.le_trans space_suffix.length_le (Nat.le_of_succ_le_succ hn)
        obtain ⟨b, hb, hle, hdigits⟩ := ih hlength (Prod.ext rfl hrest)
        obtain ⟨a, rfl, hba, hspace⟩ := framed_space extended hb
        refine ⟨c :: a, rfl, by simp; omega, fun k hk m hm => ?_⟩
        obtain ⟨m, rfl⟩ : ∃ m', m = m' + 1 := ⟨m - 1, by simp at hm; omega⟩
        simp only [List.length_cons, Nat.add_le_add_iff_right] at hm
        rw [List.cons_append, hstep, hspace k hk, hdigits k hk m (Nat.le_trans hba hm)]
      · have hstay : ∀ m t, digits extended m (c :: t) = ([], c :: t) := fun m t => by
          cases m with
          | zero => rfl
          | succ m =>
            rw [digits]
            simp [hdigit]
        rw [hstay] at h
        obtain ⟨rfl, hrest⟩ := Prod.mk.inj h
        refine ⟨s', hrest, Nat.le_refl _, fun k hk m _ => ?_⟩
        cases s' with
        | nil =>
          cases hk with
          | nil => cases m <;> rfl
          | close v' =>
            cases m with
            | zero => rfl
            | succ m => simp [digits]
        | cons d t =>
          cases hrest
          exact hstay _ _

theorem decimal_eq_some_iff {s u : List Char} {n : Nat} :
    decimal extended s = some (n, u) ↔
      ∃ ds w, digits extended (s.dropWhile Text.isBlank).length (s.dropWhile Text.isBlank) = (ds, w) ∧
        ds ≠ [] ∧ Text.decimal ds ≤ maxCount ∧ n = Text.decimal ds ∧ w.dropWhile Text.isBlank = u := by
  rw [decimal]
  generalize digits extended _ _ = p
  obtain ⟨ds, w⟩ := p
  dsimp only
  split
  · rename_i hbad
    simp only [reduceCtorEq, Prod.mk.injEq, false_iff, not_exists]
    rintro ds' w' ⟨⟨rfl, rfl⟩, hne, hle, _⟩
    rcases hbad with hempty | hlt
    · exact hne (List.isEmpty_iff.1 hempty)
    · omega
  · rename_i hgood
    rw [not_or] at hgood
    constructor
    · intro h
      cases h
      exact ⟨ds, w, rfl, fun hempty => hgood.1 (List.isEmpty_iff.2 hempty), by omega, rfl, rfl⟩
    · rintro ⟨ds', w', heq, _, _, rfl, rfl⟩
      cases heq
      rfl

theorem framed_decimal (n : Nat) : Framed fun s u => decimal extended s = some (n, u) := by
  intro s s' v h
  obtain ⟨ds, w, hdigits, hne, hle, rfl, hblanks⟩ := decimal_eq_some_iff.1 h
  obtain ⟨b, rfl, hb, hafter⟩ := framed_dropWhile isBlank_close hblanks
  obtain ⟨c, hc, hbc, hread⟩ := framed_digits (Nat.le_refl _) hdigits
  obtain ⟨a, rfl, hca, hbefore⟩ := framed_dropWhile isBlank_close hc
  refine ⟨a, rfl, by omega, fun k hk => decimal_eq_some_iff.2 ⟨ds, b ++ k, ?_, hne, hle, rfl, hafter k hk⟩⟩
  rw [hbefore k hk]
  exact hread k hk _ (by simp)

theorem framed_upperBound (max : Option Nat) : Framed fun s u => upperBound extended s = some (max, u) := by
  intro s s' v h
  simp only [upperBound] at h
  split at h
  · rename_i rest hspace
    obtain ⟨rfl, hrest⟩ := Prod.mk.inj (Option.some.inj h)
    obtain ⟨b, rfl, rfl⟩ := (Stop.close v).exists_cons (by decide) hrest.symm
    obtain ⟨a, rfl, hba, hbefore⟩ := framed_space extended (t := '\x7d' :: b) hspace
    refine ⟨a, rfl, hba, fun k hk => ?_⟩
    simp only [upperBound, hbefore k hk]
    rfl
  · rename_i hother
    split at h
    · cases h
    · rename_i n w hdecimal
      cases h
      obtain ⟨b, hb, hle, hread⟩ := framed_decimal n hdecimal
      obtain ⟨a, rfl, hba, hbefore⟩ := framed_space extended hb
      refine ⟨a, rfl, Nat.le_trans hle hba, fun k hk => ?_⟩
      simp only [upperBound, hbefore k hk]
      split
      · rename_i rest heq
        obtain ⟨c, rfl, _⟩ := hk.exists_cons (by decide) heq
        exact absurd hb (hother _)
      · rw [hread k hk]

/-- The bounds of a repetition: a number, and perhaps another one that is not below it. -/
theorem count_eq_some_iff {s u : List Char} {min : Nat} {max : Option Nat} :
    count extended s = some ((min, max), u) ↔
      ∃ w t, decimal extended (space extended s) = some (min, w) ∧
        ((∃ rest, w = ',' :: rest ∧ upperBound extended rest = some (max, '\x7d' :: t)) ∨
          (w = '\x7d' :: t ∧ max = some min)) ∧
        (∀ m, max = some m → min ≤ m) ∧ space extended t = u := by
  have hordered : ∀ max : Option Nat, ¬(max.any fun m => decide (m < min)) = true ↔
      ∀ m, max = some m → min ≤ m := by
    intro max
    cases max <;> simp
  constructor
  · intro h
    simp only [count] at h
    split at h
    · cases h
    · rename_i n rest hmin
      split at h
      · cases h
      · rename_i bound w hupper
        split at h
        · rename_i t
          split at h
          · cases h
          · rename_i hbounds
            cases h
            exact ⟨_, t, hmin, .inl ⟨rest, rfl, hupper⟩, (hordered _).1 hbounds, rfl⟩
        · cases h
    · rename_i n w _ hmin
      split at h
      · rename_i t _
        split at h
        · cases h
        · cases h
          exact ⟨_, t, hmin, .inr ⟨rfl, rfl⟩, fun m hm => by cases hm; exact Nat.le_refl _, rfl⟩
      · cases h
  · rintro ⟨w, t, hmin, hmax, hbounds, rfl⟩
    have hbounds := (hordered max).2 hbounds
    rcases hmax with ⟨rest, rfl, hupper⟩ | ⟨rfl, rfl⟩
    · simp [count, hmin, hupper, hbounds]
    · simp [count, hmin]

theorem framed_count (bounds : Nat × Option Nat) :
    Framed fun s u => count extended s = some (bounds, u) := by
  obtain ⟨min, max⟩ := bounds
  intro s s' v h
  obtain ⟨w, t, hmin, hmax, hordered, hspace⟩ := count_eq_some_iff.1 h
  obtain ⟨b, rfl, hb, hafter⟩ := framed_space extended hspace
  -- The upper bound, or the brace after the only one.
  obtain ⟨c, rfl, hbc, hbound⟩ : ∃ c, w = c ++ ')' :: v ∧ b.length ≤ c.length ∧ ∀ k, Stop k →
      (∃ rest, c ++ k = ',' :: rest ∧ upperBound extended rest = some (max, '\x7d' :: (b ++ k))) ∨
        (c ++ k = '\x7d' :: (b ++ k) ∧ max = some min) := by
    rcases hmax with ⟨rest, rfl, hupper⟩ | ⟨rfl, hsame⟩
    · obtain ⟨c, rfl, hle, hread⟩ := framed_upperBound max (t := '\x7d' :: b) hupper
      exact ⟨',' :: c, rfl, by simp at hle ⊢; omega, fun k hk => .inl ⟨c ++ k, rfl, hread k hk⟩⟩
    · exact ⟨'\x7d' :: b, rfl, by simp, fun k _ => .inr ⟨rfl, hsame⟩⟩
  obtain ⟨d, hd, hcd, hread⟩ := framed_decimal min hmin
  obtain ⟨a, rfl, hda, hbefore⟩ := framed_space extended hd
  refine ⟨a, rfl, by omega, fun k hk => count_eq_some_iff.2 ⟨c ++ k, b ++ k, ?_, ?_, hordered, hafter k hk⟩⟩
  · rw [hbefore k hk]
    exact hread k hk
  · exact hbound k hk

theorem framed_greed (greedy : Bool) : Framed fun s u => greed s = (greedy, u) := by
  intro s s' v h
  rw [greed.eq_def] at h
  split at h
  · cases h
    exact ⟨'?' :: s', rfl, by simp, fun k _ => rfl⟩
  · rename_i hother
    cases h
    refine ⟨s', rfl, Nat.le_refl _, fun k hk => ?_⟩
    simp only [greed]
    split
    · rename_i rest heq
      obtain ⟨b, rfl, _⟩ := hk.exists_cons (by decide) heq
      exact absurd rfl (hother _)
    · rfl

/-! ## Escapes -/

theorem framed_fixedHex (n : Nat) (ds : List Char) :
    Framed fun s u => fixedHex extended n s = some (ds, u) := by
  induction n generalizing ds with
  | zero =>
    intro s s' v h
    cases h
    exact ⟨s', rfl, Nat.le_refl _, fun k _ => rfl⟩
  | succ n ih =>
    intro s s' v h
    cases s with
    | nil => cases h
    | cons c rest =>
      simp only [fixedHex] at h
      split at h
      · rename_i hdigit
        split at h
        · cases h
        · rename_i ds w hrest
          cases h
          obtain ⟨b, hb, hle, hread⟩ := ih ds hrest
          obtain ⟨a, rfl, hba, hbefore⟩ := framed_space extended hb
          refine ⟨c :: a, rfl, by simp; omega, fun k hk => ?_⟩
          simp only [List.cons_append, fixedHex, hdigit, if_true, hbefore k hk, hread k hk]
      · cases h

/-- The text in braces is read with as much fuel as there are characters before the end of the group. -/
theorem framed_braced {n : Nat} {s s' v cs : List Char}
    (h : braced extended n s = some (cs, s' ++ ')' :: v)) :
    ∃ a, s = a ++ ')' :: v ∧ s'.length ≤ a.length ∧
      ∀ k, Stop k → ∀ m, a.length ≤ m → braced extended m (a ++ k) = some (cs, s' ++ k) := by
  induction n generalizing s s' cs with
  | zero => cases h
  | succ n ih =>
    rw [braced] at h
    split at h
    · cases h
    · rename_i rest hspace
      cases h
      obtain ⟨a, rfl, hle, hbefore⟩ := framed_space extended (t := '\x7d' :: s') hspace
      simp only [List.length_cons] at hle
      refine ⟨a, rfl, by omega, fun k hk m hm => ?_⟩
      obtain ⟨m, rfl⟩ : ∃ m', m = m' + 1 := ⟨m - 1, by omega⟩
      simp only [braced, hbefore k hk]
      rfl
    · rename_i c rest hother hspace
      split at h
      · cases h
      · rename_i cs w hrest
        cases h
        obtain ⟨b, rfl, hb, hread⟩ := ih hrest
        obtain ⟨a, rfl, hle, hbefore⟩ := framed_space extended (t := c :: b) hspace
        simp only [List.length_cons] at hle
        refine ⟨a, rfl, by omega, fun k hk m hm => ?_⟩
        obtain ⟨m, rfl⟩ : ∃ m', m = m' + 1 := ⟨m - 1, by omega⟩
        have hfuel := hread k hk m (by omega)
        simp only [braced, hbefore k hk]
        split
        · rename_i heq
          cases heq
        · rename_i heq
          exact absurd (List.cons.inj heq).1 hother
        · rename_i heq
          obtain ⟨rfl, rfl⟩ := List.cons.inj heq
          exact by simp only [List.append_eq, hfuel]

theorem framed_hexEscape (n : Nat) (x : Atom) :
    Framed fun s u => hexEscape extended n s = some (x, u) := by
  intro s s' v h
  simp only [hexEscape] at h
  split at h
  · rename_i rest hspace
    split at h
    · cases h
    · rename_i ds w hbraced
      obtain ⟨c, hc, h⟩ := Option.map_eq_some_iff.1 h
      obtain ⟨rfl, hafter⟩ := Prod.mk.inj h
      obtain ⟨b, rfl, hb, hafter⟩ := framed_space extended hafter
      obtain ⟨d, rfl, hbd, hread⟩ := framed_braced hbraced
      obtain ⟨a, rfl, hda, hbefore⟩ := framed_space extended (t := '\x7b' :: d) hspace
      refine ⟨a, rfl, by simp at hda; omega, fun k hk => ?_⟩
      simp [hexEscape, hbefore k hk, hread k hk, hafter k hk, hc]
  · rename_i hother
    split at h
    · cases h
    · rename_i ds w hfixed
      obtain ⟨c, hc, h⟩ := Option.map_eq_some_iff.1 h
      cases h
      obtain ⟨b, hb, hle, hread⟩ := framed_fixedHex n ds hfixed
      obtain ⟨a, rfl, hba, hbefore⟩ := framed_space extended hb
      refine ⟨a, rfl, by omega, fun k hk => ?_⟩
      simp only [hexEscape, hbefore k hk]
      split
      · rename_i rest heq
        obtain ⟨c, rfl, _⟩ := hk.exists_cons (by decide) heq
        exact absurd hb (hother _)
      · simp [hread k hk, hc]

theorem framed_propertyEscape (negated : Bool) (x : Atom) :
    Framed fun s u => propertyEscape extended negated s = some (x, u) := by
  intro s s' v h
  simp only [propertyEscape] at h
  split at h
  · cases h
  · rename_i rest hspace
    split at h
    · cases h
    · rename_i name w hbraced
      cases h
      obtain ⟨d, rfl, hle, hread⟩ := framed_braced hbraced
      obtain ⟨a, rfl, hda, hbefore⟩ := framed_space extended (t := '\x7b' :: d) hspace
      refine ⟨a, rfl, by simp at hda; omega, fun k hk => ?_⟩
      simp [propertyEscape, hbefore k hk, hread k hk]
  · rename_i c rest hother hspace
    split at h
    · cases h
    · rename_i hslash
      obtain ⟨rfl, hafter⟩ := Prod.mk.inj (Option.some.inj h)
      obtain ⟨b, rfl, hb, hafter⟩ := framed_space extended hafter
      obtain ⟨a, rfl, hba, hbefore⟩ := framed_space extended (t := c :: b) hspace
      refine ⟨a, rfl, by simp at hba; omega, fun k hk => ?_⟩
      simp [propertyEscape, hbefore k hk, hafter k hk, hslash]

/-- After an opening brace stand the bounds of a repetition. -/
def Countable (extended : Bool) (s : List Char) : Prop :=
  ∀ rest, s = '\x7b' :: rest → ∃ p, count extended rest = some p

theorem isBlank_eq_false_of_isBoundaryChar {c : Char} (h : isBoundaryChar c = true) :
    Text.isBlank c = false ∧ c.isDigit = false := by
  have hcode : (65 ≤ c.toNat ∧ c.toNat ≤ 90) ∨ (97 ≤ c.toNat ∧ c.toNat ≤ 122) ∨ c.toNat = 45 := by
    rw [isBoundaryChar, Bool.or_eq_true] at h
    rcases h with h | h
    · have hletter : (c.isUpper || c.isLower) = true := h
      rw [Bool.or_eq_true] at hletter
      rcases hletter with hupper | hlower
      · have hrange : 65 ≤ c.val ∧ c.val ≤ 90 := of_decide_eq_true hupper
        exact .inl ⟨UInt32.le_iff_toNat_le.1 hrange.1, UInt32.le_iff_toNat_le.1 hrange.2⟩
      · have hrange : decide (97 ≤ c.val) = true ∧ decide (c.val ≤ 122) = true := Bool.and_eq_true_iff.1 hlower
        exact .inr (.inl ⟨UInt32.le_iff_toNat_le.1 (of_decide_eq_true hrange.1),
          UInt32.le_iff_toNat_le.1 (of_decide_eq_true hrange.2)⟩)
    · rw [eq_of_beq h]
      exact .inr (.inr rfl)
  constructor
  · refine Bool.eq_false_iff.2 fun hblank => ?_
    simp only [Text.isBlank, CharSet.contains, Text.blanks, List.any_cons, List.any_nil, Bool.or_eq_true,
      Bool.and_eq_true, decide_eq_true_eq, Bool.false_eq_true, or_false] at hblank
    omega
  · simp only [Char.isDigit, Bool.and_eq_false_iff, decide_eq_false_iff_not, UInt32.le_iff_toNat_le]
    change ¬48 ≤ c.toNat ∨ ¬c.toNat ≤ 57
    omega

/-- What bounds begin with begins no kind of word boundary. -/
theorem exists_space_of_count {r : List Char} {p : (Nat × Option Nat) × List Char}
    (h : count extended r = some p) :
    ∃ c inside, space extended r = c :: inside ∧ isBoundaryChar c = false := by
  obtain ⟨⟨min, max⟩, u⟩ := p
  obtain ⟨w, t, hmin, _⟩ := count_eq_some_iff.1 h
  obtain ⟨ds, w, hdigits, hne, _⟩ := decimal_eq_some_iff.1 hmin
  cases hspace : space extended r with
  | nil =>
    rw [hspace] at hdigits
    cases hdigits
    exact absurd rfl hne
  | cons c inside =>
    refine ⟨c, inside, rfl, Bool.eq_false_iff.2 fun hchar => hne ?_⟩
    obtain ⟨hblank, hdigit⟩ := isBlank_eq_false_of_isBoundaryChar hchar
    rw [hspace, List.dropWhile_cons_of_neg (by simp [hblank])] at hdigits
    simp only [List.length_cons, digits, hdigit] at hdigits
    cases hdigits
    rfl

theorem framed_boundary (x : Assertion) :
    FramedWhen 0 (fun u => x = .wordBoundary → Countable extended u)
      fun s u => boundary extended s = some (x, u) := by
  intro s t v h
  rw [boundary.eq_def] at h
  split at h
  · rename_i rest
    split at h
    · cases h
    · rename_i c inside hspace
      split at h
      · obtain ⟨rfl, hrest⟩ := Prod.mk.inj (Option.some.inj h)
        obtain ⟨b, rfl, rfl⟩ := (Stop.close v).exists_cons (by decide) hrest.symm
        refine ⟨'\x7b' :: b, rfl, Nat.le_refl _, fun k hk hcount => ?_⟩
        obtain ⟨p, hp⟩ := hcount rfl (b ++ k) rfl
        obtain ⟨c, inside, hspace, hchar⟩ := exists_space_of_count hp
        simp [boundary, hspace, hchar]
      · rename_i hchar
        split at h
        · cases h
        · rename_i name w hbraced
          obtain ⟨rfl, hname⟩ : w = t ++ ')' :: v ∧ ∀ w' : List Char,
              (if name = "start".toList then some (Assertion.wordStart, w')
              else if name = "end".toList then some (.wordEnd, w')
              else if name = "start-half".toList then some (.wordStartHalf, w')
              else if name = "end-half".toList then some (.wordEndHalf, w')
              else none) = some (x, w') := by
            split_ifs at h ⊢ <;> cases h <;> exact ⟨rfl, fun _ => rfl⟩
          obtain ⟨d, hd, hle, hread⟩ := framed_braced hbraced
          obtain ⟨b, rfl, rfl⟩ := (Stop.close v).exists_cons
            (fun hclose => hchar (by subst hclose; decide)) hd.symm
          obtain ⟨a, rfl, hda, hbefore⟩ := framed_space extended (t := c :: b) hspace
          simp only [List.length_cons] at hle hda
          refine ⟨'\x7b' :: a, rfl, by rw [List.length_cons]; omega, fun k hk _ => ?_⟩
          have hinside := hread k hk (c :: (b ++ k)).length (by simp)
          rw [List.cons_append] at hinside
          simp only [List.cons_append, boundary, hbefore k hk, if_neg hchar, hinside]
          exact hname _
  · rename_i hother
    cases h
    refine ⟨t, rfl, Nat.le_refl _, fun k hk _ => ?_⟩
    simp only [boundary]
    split
    · rename_i rest heq
      obtain ⟨b, rfl, _⟩ := hk.exists_cons (by decide) heq
      exact absurd rfl (hother _)
    · rfl

/-- The letters after a backslash that something else may follow. -/
def isOpening (c : Char) : Bool := "xuUpPb".toList.contains c

theorem escape_other {c : Char} {rest u : List Char} {x : Atom} (hc : isOpening c = false)
    (h : escape extended (c :: rest) = some (x, u)) :
    u = rest ∧ ∀ w, escape extended (c :: w) = some (x, w) := by
  have hsame : ∀ y : Atom, some (y, rest) = some (x, u) →
      u = rest ∧ ∀ w : List Char, some (y, w) = some (x, w) := by
    intro y hy
    cases hy
    exact ⟨rfl, fun _ => rfl⟩
  unfold escape at h ⊢
  dsimp only at h ⊢
  split at h
  all_goals first
    | exact absurd hc (by decide)
    | exact hsame _ h
    | skip
  by_cases hescapable : isEscapable c = true
  · simp only [if_pos hescapable] at h ⊢
    exact hsame _ h
  · simp only [if_neg hescapable] at h ⊢
    obtain ⟨d, hd, h⟩ := Option.map_eq_some_iff.1 h
    rw [hd]
    exact hsame _ (congrArg some h)

/-- An escape is framed, but for a word boundary before an opening brace. -/
theorem framed_escape (x : Atom) :
    FramedWhen 0 (fun u => x = .assertion .wordBoundary → Countable extended u)
      fun s u => escape extended s = some (x, u) := by
  intro s t v h
  cases s with
  | nil => cases h
  | cons c rest =>
    have hcons : ∀ {a : List Char}, rest = a ++ ')' :: v → t.length ≤ a.length →
        (∀ k, Stop k → (x = .assertion .wordBoundary → Countable extended (t ++ k)) →
          escape extended (c :: (a ++ k)) = some (x, t ++ k)) →
        ∃ a, c :: rest = a ++ ')' :: v ∧ t.length ≤ a.length ∧ ∀ k, Stop k →
          (x = .assertion .wordBoundary → Countable extended (t ++ k)) →
          escape extended (a ++ k) = some (x, t ++ k) := by
      rintro a rfl hle ha
      exact ⟨c :: a, rfl, Nat.le_succ_of_le hle, ha⟩
    cases hopening : isOpening c with
    | false =>
      obtain ⟨rfl, hread⟩ := escape_other hopening h
      exact hcons rfl (Nat.le_refl _) fun k _ _ => hread (t ++ k)
    | true =>
      have hc : c = 'x' ∨ c = 'u' ∨ c = 'U' ∨ c = 'p' ∨ c = 'P' ∨ c = 'b' := by
        simpa [isOpening] using hopening
      have hframed : ∀ {f : List Char → Read Atom}, (∀ w, escape extended (c :: w) = f w) →
          (Framed fun s u => f s = some (x, u)) →
          ∃ a, c :: rest = a ++ ')' :: v ∧ t.length ≤ a.length ∧ ∀ k, Stop k →
            (x = .assertion .wordBoundary → Countable extended (t ++ k)) →
            escape extended (a ++ k) = some (x, t ++ k) := by
        intro f hf hframed
        obtain ⟨a, rfl, hle, ha⟩ := hframed ((hf rest).symm.trans h)
        exact hcons rfl hle fun k hk _ => (hf (a ++ k)).trans (ha k hk)
      rcases hc with rfl | rfl | rfl | rfl | rfl | rfl
      · exact hframed (fun _ => rfl) (framed_hexEscape 2 x)
      · exact hframed (fun _ => rfl) (framed_hexEscape 4 x)
      · exact hframed (fun _ => rfl) (framed_hexEscape 8 x)
      · exact hframed (fun _ => rfl) (framed_propertyEscape false x)
      · exact hframed (fun _ => rfl) (framed_propertyEscape true x)
      · obtain ⟨p, hp, hx⟩ := Option.map_eq_some_iff.1 (show (boundary extended rest).map _ = _ from h)
        obtain ⟨y, w⟩ := p
        obtain ⟨rfl, rfl⟩ := Prod.mk.inj hx
        obtain ⟨a, rfl, hle, ha⟩ := framed_boundary y hp
        refine hcons rfl hle fun k hk hcount => ?_
        have hread := ha k hk fun hword => hcount (by rw [hword])
        exact (congrArg (Option.map _) hread).trans rfl

end Framed
end Regex
end SurveyIntake
