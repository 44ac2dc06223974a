import SurveyIntake.Proofs.Matching

/-!
# SurveyIntake.Proofs.Joined

Expressions put together match what their parts do.

* `CharSet.contains_unions`  — a union of sets has the members of all of them.
* `Expr.matches_concat`      — expressions one after the other.
* `Expr.matches_alternation` — the choice between expressions, whatever they begin with in common.
* `Expr.matches_repetition`  — repetitions, also of what only matches the empty text.
-/

namespace SurveyIntake

/-! ## Unions -/

namespace CharSet

/-- Whether a code point is in a range. -/
def inRange (n : Nat) (r : Nat × Nat) : Prop := r.1 ≤ n ∧ n ≤ r.2

theorem contains_iff {s : CharSet} {c : Char} :
    s.contains c = true ↔ ∃ r ∈ s.ranges, inRange c.toNat r := by
  simp [contains, inRange]

theorem mem_insertRange {r q : Nat × Nat} {l : List (Nat × Nat)} :
    q ∈ insertRange r l ↔ q = r ∨ q ∈ l := by
  induction l with
  | nil => simp [insertRange]
  | cons p rest ih =>
    rw [insertRange]
    split
    · simp
    · rw [List.mem_cons, ih, List.mem_cons]
      tauto

theorem mem_foldr_insertRange {q : Nat × Nat} {l : List (Nat × Nat)} :
    q ∈ l.foldr insertRange [] ↔ q ∈ l := by
  induction l with
  | nil => simp
  | cons r rest ih => rw [List.foldr_cons, mem_insertRange, ih, List.mem_cons]

/-- Ranges that begin one after the other. -/
abbrev Ascending (l : List (Nat × Nat)) : Prop := l.Pairwise fun r q => r.1 ≤ q.1

theorem ascending_insertRange {r : Nat × Nat} {l : List (Nat × Nat)} (h : Ascending l) :
    Ascending (insertRange r l) := by
  induction l with
  | nil => exact List.pairwise_singleton _ _
  | cons p rest ih =>
    obtain ⟨hp, hrest⟩ := List.pairwise_cons.1 h
    rw [insertRange]
    split
    · rename_i hrp
      refine List.pairwise_cons.2 ⟨fun q hq => ?_, h⟩
      rcases List.mem_cons.1 hq with rfl | hq
      · exact hrp
      · exact Nat.le_trans hrp (hp q hq)
    · rename_i hrp
      refine List.pairwise_cons.2 ⟨fun q hq => ?_, ih hrest⟩
      rcases mem_insertRange.1 hq with rfl | hq
      · omega
      · exact hp q hq

theorem ascending_foldr_insertRange (l : List (Nat × Nat)) : Ascending (l.foldr insertRange []) := by
  induction l with
  | nil => exact List.Pairwise.nil
  | cons r rest ih => exact ascending_insertRange ih

theorem mem_coalesce {lo hi n : Nat} {l : List (Nat × Nat)} (h : Ascending ((lo, hi) :: l)) :
    (∃ r ∈ coalesce lo hi l, inRange n r) ↔ ∃ r ∈ (lo, hi) :: l, inRange n r := by
  induction l generalizing lo hi with
  | nil => rw [coalesce]
  | cons q rest ih =>
    obtain ⟨lo', hi'⟩ := q
    obtain ⟨hfirst, hrest⟩ := List.pairwise_cons.1 h
    have hlo : lo ≤ lo' := hfirst (lo', hi') List.mem_cons_self
    rw [coalesce]
    split
    · rename_i htouch
      have hjoined : Ascending ((lo, max hi hi') :: rest) :=
        List.pairwise_cons.2
          ⟨fun r hr => hfirst r (List.mem_cons_of_mem _ hr), (List.pairwise_cons.1 hrest).2⟩
      have hboth : inRange n (lo, max hi hi') ↔ inRange n (lo, hi) ∨ inRange n (lo', hi') := by
        simp only [inRange]
        omega
      rw [ih hjoined]
      simp only [List.mem_cons, exists_eq_or_imp, hboth, or_assoc]
    · simp only [List.mem_cons, exists_eq_or_imp, ih hrest]

theorem contains_normal {s : CharSet} {c : Char} : s.normal.contains c = s.contains c := by
  rw [Bool.eq_iff_iff, contains_iff, contains_iff]
  have hsorted : (∃ r ∈ s.ranges, inRange c.toNat r) ↔
      ∃ r ∈ (s.ranges.filter fun r => decide (r.1 ≤ r.2)).foldr insertRange [], inRange c.toNat r := by
    simp only [mem_foldr_insertRange, List.mem_filter, decide_eq_true_eq]
    constructor
    · rintro ⟨r, hr, hc⟩
      exact ⟨r, ⟨hr, Nat.le_trans hc.1 hc.2⟩, hc⟩
    · rintro ⟨r, ⟨hr, _⟩, hc⟩
      exact ⟨r, hr, hc⟩
  have hascending := ascending_foldr_insertRange (s.ranges.filter fun r => decide (r.1 ≤ r.2))
  rw [hsorted, normal]
  split
  · rename_i hnone
    rw [hnone]
  · rename_i lo hi rest hsome
    rw [hsome] at hascending ⊢
    exact mem_coalesce hascending

theorem contains_unions {sets : List CharSet} {c : Char} :
    (unions sets).contains c = true ↔ ∃ s ∈ sets, s.contains c = true := by
  rw [unions, contains_normal]
  simp only [contains_iff, List.mem_flatMap]
  constructor
  · rintro ⟨r, ⟨s, hs, hr⟩, hc⟩
    exact ⟨s, hs, r, hr, hc⟩
  · rintro ⟨s, hs, r, hr, hc⟩
    exact ⟨r, ⟨s, hs, hr⟩, hc⟩

end CharSet

namespace Regex
namespace Expr

variable {text : List Char} {i j : Nat}

/-! ## Sequences -/

/-- The expressions match one after the other. -/
def AllMatch (text : List Char) : List Expr → Nat → Nat → Prop
  | [], i, j => j = i
  | e :: es, i, j => ∃ k, e.Matches text i k ∧ AllMatch text es k j

theorem allMatch_append {es fs : List Expr} :
    AllMatch text (es ++ fs) i j ↔ ∃ k, AllMatch text es i k ∧ AllMatch text fs k j := by
  induction es generalizing i with
  | nil => simp [AllMatch]
  | cons e es ih =>
    simp only [List.cons_append, AllMatch, ih]
    constructor
    · rintro ⟨l, hl, k, hk, hj⟩
      exact ⟨k, ⟨l, hl, hk⟩, hj⟩
    · rintro ⟨k, ⟨l, hl, hk⟩, hj⟩
      exact ⟨l, hl, k, hk, hj⟩

theorem allMatch_singleton {e : Expr} : AllMatch text [e] i j ↔ e.Matches text i j := by
  constructor
  · rintro ⟨k, hk, rfl⟩
    exact hk
  · exact fun h => ⟨j, h, rfl⟩

theorem allMatch_items {e : Expr} : AllMatch text e.items i j ↔ e.Matches text i j := by
  induction e generalizing i with
  | empty => rfl
  | seq a b _ ih => simp only [items, AllMatch, ih, Matches]
  | chars | look | capture | alt | repeated => exact allMatch_singleton

theorem matches_ofItems {es : List Expr} : (ofItems es).Matches text i j ↔ AllMatch text es i j := by
  induction es generalizing i with
  | nil => rfl
  | cons e es ih =>
    cases es with
    | nil => exact allMatch_singleton.symm
    | cons f rest => simp only [ofItems, Matches, ih, AllMatch]

theorem matches_concat {es : List Expr} : (concat es).Matches text i j ↔ AllMatch text es i j := by
  rw [concat, matches_ofItems]
  induction es generalizing i with
  | nil => rfl
  | cons e es ih => simp only [List.flatMap_cons, allMatch_append, allMatch_items, ih, AllMatch]

theorem allMatch_pieces {es : List Expr} : AllMatch text (pieces es) i j ↔ AllMatch text es i j := by
  induction es generalizing i with
  | nil => rfl
  | cons e es ih =>
    have hcons : AllMatch text (e :: es) i j ↔ AllMatch text (e :: pieces es) i j := by
      simp only [AllMatch, ih]
    -- A character put before another or before a sequence is the same two items.
    have hpair : ∀ p ps, AllMatch text (.seq e p :: ps) i j ↔ AllMatch text (e :: p :: ps) i j := by
      intro p ps
      simp only [AllMatch, Matches]
      constructor
      · rintro ⟨k, ⟨l, hl, hk⟩, hj⟩
        exact ⟨l, hl, k, hk, hj⟩
      · rintro ⟨l, hl, k, hk, hj⟩
        exact ⟨k, ⟨l, hl, hk⟩, hj⟩
    rw [hcons, pieces]
    split
    · rename_i hnil
      rw [hnil]
    · rename_i a b ps hseq
      rw [hseq]
      split
      · exact hpair _ _
      · rfl
    · rename_i p ps _ hother
      rw [hother]
      split
      · exact hpair _ _
      · rfl

/-! ## Alternatives -/

/-- Some of the expressions match. -/
def SomeMatch (text : List Char) (es : List Expr) (i j : Nat) : Prop := ∃ e ∈ es, e.Matches text i j

theorem someMatch_branches {e : Expr} : SomeMatch text e.branches i j ↔ e.Matches text i j := by
  induction e with
  | alt a b _ ih =>
    rw [SomeMatch] at ih ⊢
    simp only [branches, List.mem_cons, exists_eq_or_imp, ih, Matches]
  | empty | chars | look | capture | seq | repeated => simp [SomeMatch, branches]

theorem someMatch_flatMap_branches {es : List Expr} :
    SomeMatch text (es.flatMap branches) i j ↔ SomeMatch text es i j := by
  simp only [SomeMatch, List.mem_flatMap]
  constructor
  · rintro ⟨b, ⟨e, he, hb⟩, hm⟩
    exact ⟨e, he, someMatch_branches.1 ⟨b, hb, hm⟩⟩
  · rintro ⟨e, he, hm⟩
    obtain ⟨b, hb, hm⟩ := someMatch_branches.2 hm
    exact ⟨b, ⟨e, he, hb⟩, hm⟩

theorem matches_ofBranches {es : List Expr} :
    (ofBranches es).Matches text i j ↔ SomeMatch text es i j := by
  induction es with
  | nil => simp [ofBranches, Matches, Takes, SomeMatch, CharSet.contains, CharSet.empty]
  | cons e es ih =>
    cases es with
    | nil => simp [ofBranches, SomeMatch]
    | cons f rest =>
      rw [SomeMatch] at ih ⊢
      simp only [ofBranches, Matches, ih, List.mem_cons, exists_eq_or_imp]

theorem set?_eq_some {single : Bool} {e : Expr} {s : CharSet} (h : e.set? single = some s) :
    e = .chars s := by
  cases e with
  | chars t =>
    rw [set?] at h
    split at h
    · cases h
      rfl
    · cases h
  | empty | look | capture | seq | alt | repeated => cases h

/-- Expressions that are all sets. -/
theorem eq_map_of_mapM_set? {single : Bool} {es : List Expr} {sets : List CharSet}
    (h : es.mapM (set? single) = some sets) : es = sets.map .chars := by
  induction es generalizing sets with
  | nil =>
    cases h
    rfl
  | cons e es ih =>
    rw [List.mapM_cons] at h
    obtain ⟨s, hs, h⟩ := Option.bind_eq_some_iff.1 h
    obtain ⟨rest, hrest, h⟩ := Option.bind_eq_some_iff.1 h
    cases h
    rw [set?_eq_some hs, ih hrest, List.map_cons]

theorem matches_join {es : List Expr} : (join es).Matches text i j ↔ SomeMatch text es i j := by
  rw [join, ← someMatch_flatMap_branches]
  split
  · rename_i sets hsets
    have hmap : es.flatMap branches = sets.map .chars := by
      rcases Option.or_eq_some_iff.1 hsets with h | ⟨_, h⟩ <;> exact eq_map_of_mapM_set? h
    rw [hmap, SomeMatch]
    simp only [Matches, Takes, CharSet.contains_unions, List.mem_map, exists_exists_and_eq_and]
    constructor
    · rintro ⟨hj, c, hc, s, hs, hsc⟩
      exact ⟨s, hs, hj, c, hc, hsc⟩
    · rintro ⟨s, hs, hj, c, hc, hsc⟩
      exact ⟨hj, c, hc, s, hs, hsc⟩
  · exact matches_ofBranches

theorem common_prefix_left (as bs : List Expr) : common as bs <+: as := by
  induction as generalizing bs with
  | nil => cases bs <;> exact List.prefix_rfl
  | cons a as ih =>
    cases bs with
    | nil => exact List.nil_prefix
    | cons b bs =>
      rw [common]
      split
      · exact (List.prefix_cons_inj a).2 (ih bs)
      · exact List.nil_prefix

theorem common_prefix_right (as bs : List Expr) : common as bs <+: bs := by
  induction as generalizing bs with
  | nil => cases bs <;> exact List.nil_prefix
  | cons a as ih =>
    cases bs with
    | nil => exact List.nil_prefix
    | cons b bs =>
      rw [common]
      split
      · rename_i hsame
        rw [hsame.1]
        exact (List.prefix_cons_inj b).2 (ih bs)
      · exact List.nil_prefix

/-- What several lists begin with, each of them does. -/
theorem foldl_common_prefix (ps : List Expr) (rest : List (List Expr)) :
    rest.foldl common ps <+: ps ∧ ∀ qs ∈ rest, rest.foldl common ps <+: qs := by
  induction rest generalizing ps with
  | nil => exact ⟨List.prefix_rfl, by simp⟩
  | cons qs rest ih =>
    obtain ⟨hfirst, hrest⟩ := ih (common ps qs)
    refine ⟨hfirst.trans (common_prefix_left ps qs), fun rs hrs => ?_⟩
    rcases List.mem_cons.1 hrs with rfl | hrs
    · exact hfirst.trans (common_prefix_right ps rs)
    · exact hrest rs hrs

theorem matches_of_factor? {es shared rests : List Expr} (h : factor? es = some (shared, rests)) :
    (∃ k, AllMatch text shared i k ∧ SomeMatch text rests k j) ↔ SomeMatch text es i j := by
  have hprefix : (∀ e ∈ es, shared <+: pieces e.items) ∧
      rests = es.map fun e => concat ((pieces e.items).drop shared.length) := by
    rw [factor?] at h
    split at h
    · cases h
    · rename_i ps qss hmap
      simp only [] at h
      split at h
      · cases h
      · cases h
        obtain ⟨hfirst, hrest⟩ := foldl_common_prefix ps qss
        refine ⟨fun e he => ?_, ?_⟩
        · have hmem : pieces e.items ∈ ps :: qss := hmap ▸ List.mem_map_of_mem he
          rcases List.mem_cons.1 hmem with heq | hmem
          · rw [heq]
            exact hfirst
          · exact hrest _ hmem
        · rw [← hmap, List.map_map]
          rfl
  obtain ⟨hshared, rfl⟩ := hprefix
  -- Each sequence is what all begin with and what follows it there.
  have hsplit : ∀ e ∈ es, e.Matches text i j ↔
      ∃ k, AllMatch text shared i k ∧ (concat ((pieces e.items).drop shared.length)).Matches text k j := by
    intro e he
    have heq := List.prefix_iff_eq_append.1 (hshared e he)
    rw [← allMatch_items, ← allMatch_pieces, ← heq, allMatch_append, heq]
    simp only [matches_concat]
  simp only [SomeMatch, List.mem_map, exists_exists_and_eq_and]
  constructor
  · rintro ⟨k, hk, e, he, hj⟩
    exact ⟨e, he, (hsplit e he).2 ⟨k, hk, hj⟩⟩
  · rintro ⟨e, he, hm⟩
    obtain ⟨k, hk, hj⟩ := (hsplit e he).1 hm
    exact ⟨k, hk, e, he, hj⟩

theorem matches_alternation {es : List Expr} :
    (alternation es).Matches text i j ↔ SomeMatch text es i j := by
  rw [alternation]
  split
  · rename_i shared rests hfactor
    rw [← someMatch_flatMap_branches, ← matches_of_factor? hfactor, matches_concat, allMatch_append]
    simp only [allMatch_singleton, matches_join]
  · exact matches_join

/-! ## Repetitions -/

/-- Only the empty text matches, if any. -/
theorem eq_of_isNull {e : Expr} (hnull : e.isNull = true) (h : e.Matches text i j) : j = i := by
  induction e generalizing i j with
  | empty => exact h
  | chars s => cases hnull
  | look l => exact h.1
  | capture body ih => exact ih hnull h
  | seq a b iha ihb =>
    rw [isNull, Bool.and_eq_true] at hnull
    obtain ⟨k, hk, hj⟩ := h
    rw [ihb hnull.2 hj, iha hnull.1 hk]
  | alt a b iha ihb =>
    rw [isNull, Bool.and_eq_true] at hnull
    rcases h with h | h
    · exact iha hnull.1 h
    · exact ihb hnull.2 h
  | repeated min max greedy body ih =>
    obtain ⟨n, _, h⟩ := h
    exact times_closed (P := (· = i)) (fun _ _ hk hkl => (ih hnull hkl).trans hk) rfl h

/-- What never leads away is followed once if it is followed at all. -/
theorem times_null_iff {R : Nat → Nat → Prop} (hnull : ∀ i j, R i j → j = i) {n : Nat} :
    Times R n i j ↔ j = i ∧ (n = 0 ∨ R i i) := by
  cases n with
  | zero => simp [times_zero_iff]
  | succ n =>
    constructor
    · intro h
      have hj : j = i := times_closed (P := (· = i)) (fun _ _ hk hkl => (hnull _ _ hkl).trans hk) rfl h
      obtain ⟨k, hik, _⟩ := times_succ_iff.1 h
      obtain rfl := hnull i k hik
      exact ⟨hj, .inr hik⟩
    · rintro ⟨rfl, hzero | hR⟩
      · cases hzero
      · induction n with
        | zero => exact .succ hR (.zero j)
        | succ n ih => exact .succ hR ih

theorem matches_repeated {min : Nat} {max : Option Nat} {greedy : Bool} {body : Expr}
    (h : ∀ m, max = some m → min ≤ m) :
    (Expr.repeated min max greedy body).Matches text i j ↔
      ∃ n, Between min max n ∧ Times (body.Matches text) n i j := by
  rw [Matches]
  constructor
  · rintro ⟨n, hn, hij⟩
    refine ⟨min + n, ⟨Nat.le_add_right _ _, fun m hm => ?_⟩, hij⟩
    have hmin := h m hm
    have hmax := hn m hm
    omega
  · rintro ⟨n, ⟨hmin, hmax⟩, hij⟩
    refine ⟨n - min, fun m hm => Nat.sub_le_sub_right (hmax m hm) min, ?_⟩
    rwa [Nat.add_sub_cancel' hmin]

/-- What only matches the empty text is not repeated more often than once. -/
theorem matches_repeated_null {min : Nat} {max : Option Nat} {body : Expr}
    (h : ∀ m, max = some m → min ≤ m) (hnull : body.isNull = true) :
    (∃ n, Between (Nat.min min 1) (some (Nat.min (max.getD 1) 1)) n ∧ Times (body.Matches text) n i j) ↔
      ∃ n, Between min max n ∧ Times (body.Matches text) n i j := by
  have htimes : ∀ n, Times (body.Matches text) n i j ↔ j = i ∧ (n = 0 ∨ body.Matches text i i) :=
    fun n => times_null_iff fun _ _ => eq_of_isNull hnull
  simp only [htimes, Between, Option.some.injEq, forall_eq']
  have hle : ∀ a b : Nat, Nat.min a b = Min.min a b := fun _ _ => rfl
  constructor
  · rintro ⟨n, ⟨hmin, hmax⟩, rfl, hzero | hbody⟩
    · exact ⟨0, ⟨by grind, fun _ _ => Nat.zero_le _⟩, rfl, .inl rfl⟩
    · exact ⟨min, ⟨Nat.le_refl _, h⟩, rfl, .inr hbody⟩
  · rintro ⟨n, ⟨hmin, hmax⟩, rfl, hzero | hbody⟩
    · exact ⟨0, ⟨by grind, Nat.zero_le _⟩, rfl, .inl rfl⟩
    · exact ⟨Nat.min min 1, ⟨Nat.le_refl _, by cases max <;> grind⟩, rfl, .inr hbody⟩

theorem matches_repetition {min : Nat} {max : Option Nat} {greedy : Bool} {body : Expr}
    (h : ∀ m, max = some m → min ≤ m) :
    (repetition min max greedy body).Matches text i j ↔
      ∃ n, Between min max n ∧ Times (body.Matches text) n i j := by
  have hbounds : ∀ (lo : Nat) (hi : Option Nat), (∀ m, hi = some m → lo ≤ m) →
      ((if hi = some 0 then Expr.empty
        else if lo = 1 ∧ hi = some 1 then body
        else .repeated lo hi greedy body).Matches text i j ↔
      ∃ n, Between lo hi n ∧ Times (body.Matches text) n i j) := by
    intro lo hi hlo
    split
    · rename_i hnever
      subst hnever
      simp only [Matches, Between, Option.some.injEq, forall_eq']
      constructor
      · rintro rfl
        exact ⟨0, ⟨hlo 0 rfl, Nat.le_refl 0⟩, .zero j⟩
      · rintro ⟨n, ⟨_, hn⟩, hij⟩
        obtain rfl := Nat.le_zero.1 hn
        exact times_zero_iff.1 hij
    · split
      · rename_i honce
        obtain ⟨rfl, rfl⟩ := honce
        simp only [Between, Option.some.injEq, forall_eq']
        constructor
        · exact fun hm => ⟨1, ⟨Nat.le_refl 1, Nat.le_refl 1⟩, .succ hm (.zero j)⟩
        · rintro ⟨n, ⟨hlo, hhi⟩, hij⟩
          obtain rfl := Nat.le_antisymm hhi hlo
          obtain ⟨k, hik, hkj⟩ := times_succ_iff.1 hij
          obtain rfl := times_zero_iff.1 hkj
          exact hik
      · exact matches_repeated hlo
  rw [repetition]
  cases hnull : body.isNull with
  | false => exact hbounds min max h
  | true =>
    refine (hbounds _ _ fun m hm => ?_).trans (matches_repeated_null h hnull)
    cases hm
    have hle : ∀ a b : Nat, Nat.min a b = Min.min a b := fun _ _ => rfl
    cases max with
    | none => simp [hle]
    | some m =>
      have := h m rfl
      simp only [Option.getD_some, hle]
      omega

end Expr
end Regex
end SurveyIntake
