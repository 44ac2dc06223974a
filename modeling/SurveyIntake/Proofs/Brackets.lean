import Mathlib.Data.List.TakeWhile
import SurveyIntake.Proofs.Reading

/-!
# SurveyIntake.Proofs.Brackets

Brackets and the beginnings of groups are read alike whatever follows the group they stand in.

* `asciiClass_eq_some` — the names of ASCII classes hold no parenthesis.
* `glanceSpace_congr`  — the next character is seen alike if there is one before the parenthesis.
* `SetStep`            — what one step in brackets does; reading them is a run of such steps
  (`setLoop_eq_some_iff`).
* `framed_setItem`, `framed_openSet`, `framed_setStep`, `framed_readSet` — brackets.
* `framed_groupStart`  — what follows an opening parenthesis.
-/

namespace SurveyIntake
namespace Regex

section Brackets

variable {extended : Bool} {k s : List Char}

/-! ## ASCII classes -/

theorem close_notMem_of_lookup {name : List Char} {set : CharSet}
    (h : asciiClasses.lookup (String.ofList name) = some set) : ')' ∉ name := by
  have hnames : ∀ p ∈ asciiClasses, ')' ∉ p.1.toList := by decide
  obtain ⟨before, after, heq, _⟩ := List.lookup_eq_some_iff.1 h
  have hclose := hnames (String.ofList name, set) (heq ▸ List.mem_append_right _ List.mem_cons_self)
  rwa [String.toList_ofList] at hclose

/-- The name of an ASCII class and what closes it. -/
def classEnd (negated : Bool) (s : List Char) : Read SetTree :=
  match s.dropWhile (· != ':') with
  | ':' :: ']' :: after =>
    (asciiClasses.lookup (String.ofList (s.takeWhile (· != ':')))).map fun set =>
      (.ascii negated set, after)
  | _ => none

theorem classEnd_eq_some {negated : Bool} {u : List Char} {x : SetTree}
    (h : classEnd negated s = some (x, u)) :
    ∃ w, s = w ++ u ∧ w ≠ [] ∧ ')' ∉ w ∧ ∀ u', classEnd negated (w ++ u') = some (x, u') := by
  rw [classEnd] at h
  split at h
  · rename_i after hdrop
    obtain ⟨set, hset, h⟩ := Option.map_eq_some_iff.1 h
    obtain ⟨rfl, rfl⟩ := Prod.mk.inj h
    generalize hname : s.takeWhile (· != ':') = name at hset
    have hs : s = name ++ ':' :: ']' :: after := by
      rw [← hname, ← hdrop, List.takeWhile_append_dropWhile]
    have hclean : ∀ c ∈ name, (c != ':') = true := fun c hc =>
      List.mem_takeWhile_imp (p := (· != ':')) (hname ▸ hc)
    refine ⟨name ++ [':', ']'], by simp [hs], by simp, ?_, fun u' => ?_⟩
    · have := close_notMem_of_lookup hset
      simp [this]
    · rw [List.append_assoc, classEnd, List.dropWhile_append_of_pos hclean,
        List.takeWhile_append_of_pos hclean]
      simp [hset]
  · cases h

/-- Whether an ASCII class is negated, and its name. -/
def classSign : List Char → Bool × List Char
  | '^' :: rest => (true, rest)
  | rest => (false, rest)

theorem asciiClass_colon (rest : List Char) :
    asciiClass (':' :: rest) = classEnd (classSign rest).1 (classSign rest).2 := rfl

theorem classSign_of_ne (h : ∀ rest, s ≠ '^' :: rest) : classSign s = (false, s) := by
  rw [classSign.eq_def]
  split
  · exact absurd rfl (h _)
  · rfl

/-- An ASCII class is known by what it takes, which holds no parenthesis. -/
theorem asciiClass_eq_some {u : List Char} {x : SetTree} (h : asciiClass s = some (x, u)) :
    ∃ w, s = w ++ u ∧ ')' ∉ w ∧ ∀ u', asciiClass (w ++ u') = some (x, u') := by
  have hcolon : ∃ rest, s = ':' :: rest := by
    rw [asciiClass.eq_def] at h
    split at h
    · exact ⟨_, rfl⟩
    · cases h
  obtain ⟨rest, rfl⟩ := hcolon
  rw [asciiClass_colon] at h
  by_cases hsign : ∃ w, rest = '^' :: w
  · obtain ⟨rest, rfl⟩ := hsign
    obtain ⟨w, rfl, _, hclose, hread⟩ := classEnd_eq_some h
    exact ⟨':' :: '^' :: w, rfl, by simp [hclose], fun u' => hread u'⟩
  · rw [classSign_of_ne fun w hw => hsign ⟨w, hw⟩] at h
    obtain ⟨w, rfl, hne, hclose, hread⟩ := classEnd_eq_some h
    refine ⟨':' :: w, rfl, by simp [hclose], fun u' => ?_⟩
    obtain ⟨c, w, rfl⟩ := List.exists_cons_of_ne_nil hne
    have hplain : classSign (c :: w ++ u') = (false, c :: w ++ u') :=
      classSign_of_ne fun _ hw => hsign ⟨w ++ u, congrArg (· :: (w ++ u)) (List.cons.inj hw).1⟩
    rw [List.cons_append, asciiClass_colon, hplain]
    exact hread u'

theorem asciiClass_eq_none {a v : List Char} (h : asciiClass (a ++ ')' :: v) = none) (hk : Stop k) :
    asciiClass (a ++ k) = none := by
  refine Option.eq_none_iff_forall_ne_some.2 fun ⟨x, u⟩ hsome => ?_
  obtain ⟨w, hw, hclose, hread⟩ := asciiClass_eq_some hsome
  -- The class ends before the parenthesis, and so is one whatever follows.
  obtain ⟨b, rfl⟩ : ∃ b, a = w ++ b := by
    rcases List.append_eq_append_iff.1 hw with ⟨b, rfl, hk'⟩ | ⟨b, ha, _⟩
    · cases b with
      | nil => exact ⟨[], by simp⟩
      | cons c b =>
        cases hk with
        | nil => cases hk'
        | close v' =>
          obtain rfl := (List.cons.inj hk').1
          simp at hclose
    · exact ⟨b, ha⟩
  rw [List.append_assoc, hread] at h
  cases h

/-! ## Looking ahead -/

theorem glance_append {comment : Bool} {a : List Char} {c : Char} (hc : c ∈ a)
    (hblank : Text.isBlank c = false) (hsign : c ≠ '#') (k k' : List Char) :
    glance comment (a ++ k) = glance comment (a ++ k') := by
  induction a generalizing comment with
  | nil => cases hc
  | cons d a ih =>
    rw [List.cons_append, List.cons_append, glance, glance]
    split
    · rename_i hd
      exact ih ((List.mem_cons.1 hc).resolve_left (by rintro rfl; simp [hblank] at hd))
    · split
      · rename_i hd
        exact ih ((List.mem_cons.1 hc).resolve_left (by rintro rfl; exact hsign hd.1))
      · rfl

theorem dropSpace_head {comment : Bool} {c : Char} {rest : List Char}
    (h : dropSpace comment s = c :: rest) : Text.isBlank c = false ∧ c ≠ '#' := by
  induction s generalizing comment with
  | nil => cases h
  | cons d t ih =>
    rw [dropSpace] at h
    split at h
    · exact ih h
    · split at h
      · exact ih h
      · split at h
        · exact ih h
        · cases h
          rename_i hblank hsign
          exact ⟨Bool.eq_false_iff.2 hblank, hsign⟩

/-- The next character is the same whatever follows, if there is one before. -/
theorem glanceSpace_congr {a : List Char} {c : Char} {rest : List Char} (h : space extended a = c :: rest)
    (k k' : List Char) : glanceSpace extended (a ++ k) = glanceSpace extended (a ++ k') := by
  cases extended with
  | false =>
    cases h
    rfl
  | true =>
    obtain ⟨hblank, hsign⟩ := dropSpace_head h
    have hmem : c ∈ a := space_suffix.subset (h.symm ▸ List.mem_cons_self : c ∈ space true a)
    have hsame : glance false (a ++ k) = glance false (a ++ k') := glance_append hmem hblank hsign k k'
    cases a with
    | nil => cases hmem
    | cons d a =>
      simp only [glanceSpace, if_true, hsame]
      rfl

theorem exists_glance (a v : List Char) (comment : Bool) :
    ∃ c, glance comment (a ++ ')' :: v) = some c ∧ (c ≠ ')' → ∀ k, glance comment (a ++ k) = some c) := by
  induction a generalizing comment with
  | nil => exact ⟨')', by simp [glance, isBlank_close], fun hne => absurd rfl hne⟩
  | cons d a ih =>
    by_cases hblank : Text.isBlank d = true
    · simpa only [List.cons_append, glance, if_pos hblank] using ih comment
    · by_cases hsign : d = '#' ∧ (!comment) = true
      · simpa only [List.cons_append, glance, if_neg hblank, if_pos hsign] using ih true
      · exact ⟨d, by simp only [List.cons_append, glance, if_neg hblank, if_neg hsign],
          fun _ k => by simp only [List.cons_append, glance, if_neg hblank, if_neg hsign]⟩

/-- A character that is seen before the end of a group is seen whatever follows. -/
theorem glanceSpace_append {a v : List Char} {c : Char}
    (h : glanceSpace extended (a ++ ')' :: v) = some c) (hc : c ≠ ')') (k : List Char) :
    glanceSpace extended (a ++ k) = some c := by
  cases extended with
  | false =>
    cases a with
    | nil => exact absurd (Option.some.inj h).symm hc
    | cons d a => exact h
  | true =>
    simp only [glanceSpace, if_true] at h ⊢
    obtain ⟨d, hd, hstay⟩ := exists_glance a v false
    rw [hd, Option.some_or] at h
    rw [hstay (Option.some.inj h ▸ hc) k, Option.some_or, h]

/-! ## Items of brackets -/

theorem framed_setAtom {x : Atom} (hx : ∀ a, x ≠ .assertion a) :
    FramedWhen 1 (fun _ => True) fun s u => setAtom extended s = some (x, u) := by
  intro s t v h
  rw [setAtom.eq_def] at h
  split at h
  · cases h
  · rename_i rest
    obtain ⟨a, rfl, hle, ha⟩ := framed_escape x h
    exact ⟨'\\' :: a, rfl, Nat.succ_le_succ hle,
      fun k hk _ => ha k hk fun hword => absurd hword (hx _)⟩
  · rename_i c rest hslash
    cases h
    exact ⟨c :: t, rfl, Nat.le_refl _, fun k _ _ => by simp only [List.cons_append, setAtom]⟩

theorem setAtom_nil : setAtom extended [] = none := rfl

theorem ne_assertion_of_ofAtom? {x : Atom} {y : SetTree} (h : SetTree.ofAtom? x = some y) (a : Assertion) :
    x ≠ .assertion a := by
  rintro rfl
  cases h

theorem ne_assertion_of_range? {x y : Atom} {z : SetTree} (h : SetTree.range? x y = some z)
    (a : Assertion) : x ≠ .assertion a ∧ y ≠ .assertion a := by
  constructor
  · rintro rfl
    cases h
  · rintro rfl
    cases x <;> cases h

/-- The upper end of a range, after the hyphen. -/
def rangeEnd (extended : Bool) (x : Atom) (s : List Char) : Read SetTree :=
  match setAtom extended (space extended s) with
  | none => none
  | some (y, s) => (SetTree.range? x y).map fun z => (z, s)

/-- The upper end of a range stands before the end of the group, and so the character after the hyphen is
the same whatever follows. -/
theorem framed_rangeEnd {x : Atom} {z : SetTree} {t v : List Char}
    (h : rangeEnd extended x s = some (z, t ++ ')' :: v)) :
    (∀ a, x ≠ .assertion a) ∧ ∃ a, s = a ++ ')' :: v ∧ t.length + 1 ≤ a.length ∧
      (∀ k k', glanceSpace extended (a ++ k) = glanceSpace extended (a ++ k')) ∧
      ∀ k, Stop k → rangeEnd extended x (a ++ k) = some (z, t ++ k) := by
  rw [rangeEnd] at h
  split at h
  · cases h
  · rename_i y w hatom
    obtain ⟨z, hz, h⟩ := Option.map_eq_some_iff.1 h
    obtain ⟨rfl, rfl⟩ := Prod.mk.inj h
    obtain ⟨b, hb, htb, hlast⟩ := framed_setAtom (fun a => (ne_assertion_of_range? hz a).2) hatom
    obtain ⟨a, rfl, hba, hbefore⟩ := framed_space extended hb
    have hne : b ≠ [] := by
      rintro rfl
      have hnil := hlast [] .nil trivial
      rw [List.append_nil, setAtom_nil] at hnil
      cases hnil
    obtain ⟨c, b, rfl⟩ := List.exists_cons_of_ne_nil hne
    have hhead : space extended a = c :: b := by simpa using hbefore [] .nil
    refine ⟨fun a => (ne_assertion_of_range? hz a).1, a, rfl, Nat.le_trans htb hba,
      glanceSpace_congr hhead, fun k hk => ?_⟩
    simp only [rangeEnd, hbefore k hk, hlast k hk trivial, hz, Option.map_some]

/-- Brackets go on after an item. -/
theorem framed_setItem (x : SetTree) :
    FramedWhen 1 (· ≠ []) fun s u => setItem extended s = some (x, u) := by
  intro s t v h
  rw [setItem] at h
  split at h
  · cases h
  · rename_i x₁ s₁ hatom
    split at h
    · cases h
    · rename_i rest hspace
      split at h
      · -- A hyphen that makes no range is an item of its own.
        rename_i hglance
        obtain ⟨y, hy, h⟩ := Option.map_eq_some_iff.1 h
        obtain ⟨rfl, hrest⟩ := Prod.mk.inj h
        obtain ⟨b, rfl, rfl⟩ := (Stop.close v).exists_cons (by decide) hrest.symm
        obtain ⟨c, rfl, hbc, hafter⟩ := framed_space extended (t := '-' :: b) hspace
        obtain ⟨a, rfl, hca, hbefore⟩ := framed_setAtom (ne_assertion_of_ofAtom? hy) hatom
        simp only [List.length_cons] at hbc ⊢
        refine ⟨a, rfl, by omega, fun k hk _ => ?_⟩
        have hsame : glanceSpace extended (b ++ k) = some ']' ∨
            glanceSpace extended (b ++ k) = some '-' := by
          rcases hglance with hglance | hglance
          · exact .inl (glanceSpace_append hglance (by decide) k)
          · exact .inr (glanceSpace_append hglance (by decide) k)
        simp only [setItem, hbefore k hk trivial, hafter k hk, List.cons_append, if_pos hsame, hy,
          Option.map_some]
      · rename_i hglance
        have hend : rangeEnd extended x₁ rest = some (x, t ++ ')' :: v) := h
        obtain ⟨hx, b, rfl, hle, hsame, hlast⟩ := framed_rangeEnd hend
        obtain ⟨c, rfl, hbc, hafter⟩ := framed_space extended (t := '-' :: b) hspace
        obtain ⟨a, rfl, hca, hbefore⟩ := framed_setAtom hx hatom
        simp only [List.length_cons] at hbc
        refine ⟨a, rfl, by omega, fun k hk _ => ?_⟩
        simp only [setItem, hbefore k hk trivial, hafter k hk, List.cons_append, hsame k (')' :: v),
          if_neg hglance]
        exact hlast k hk
    · rename_i hempty hhyphen
      obtain ⟨y, hy, h⟩ := Option.map_eq_some_iff.1 h
      obtain ⟨rfl, hspace⟩ := Prod.mk.inj h
      obtain ⟨b, rfl, htb, hafter⟩ := framed_space extended hspace
      obtain ⟨a, rfl, hba, hbefore⟩ := framed_setAtom (ne_assertion_of_ofAtom? hy) hatom
      refine ⟨a, rfl, by omega, fun k hk hne => ?_⟩
      simp only [setItem, hbefore k hk trivial, hafter k hk]
      split
      · rename_i heq
        exact absurd heq hne
      · rename_i rest heq
        obtain ⟨c, rfl, _⟩ := hk.exists_cons (by decide) heq
        exact absurd hspace (hhyphen _)
      · simp [hy]

/-! ## Opening brackets -/

/-- Hyphens are read with more fuel than there are characters before the end of the group. -/
theorem framed_leadingHyphens {n : Nat} {o o' : OpenSet} {s t v : List Char} (hn : s.length < n)
    (h : leadingHyphens extended n o s = some (o', t ++ ')' :: v)) :
    ∃ a, s = a ++ ')' :: v ∧ t.length ≤ a.length ∧ ∀ k, Stop k → t ++ k ≠ [] → ∀ m, a.length < m →
      leadingHyphens extended m o (a ++ k) = some (o', t ++ k) := by
  induction n generalizing o s with
  | zero => cases hn
  | succ n ih =>
    rw [leadingHyphens.eq_def] at h
    dsimp only at h
    split at h
    · cases h
    · rename_i rest
      have hlength : (space extended rest).length < n :=
        Nat.lt_of_le_of_lt space_suffix.length_le (Nat.lt_of_succ_lt_succ hn)
      obtain ⟨b, hb, hle, hread⟩ := ih hlength h
      obtain ⟨a, rfl, hba, hbefore⟩ := framed_space extended hb
      refine ⟨'-' :: a, rfl, by simp; omega, fun k hk hne m hm => ?_⟩
      obtain ⟨m, rfl⟩ : ∃ m', m = m' + 1 := ⟨m - 1, by omega⟩
      simp only [List.length_cons] at hm
      simp only [List.cons_append, leadingHyphens, hbefore k hk]
      exact hread k hk hne m (by omega)
    · rename_i hhyphen
      cases h
      refine ⟨t, rfl, Nat.le_refl _, fun k hk hne m hm => ?_⟩
      obtain ⟨m, rfl⟩ : ∃ m', m = m' + 1 := ⟨m - 1, by omega⟩
      rw [leadingHyphens.eq_def]
      dsimp only
      split
      · rename_i heq
        exact absurd heq hne
      · rename_i rest heq
        obtain ⟨c, rfl, _⟩ := hk.exists_cons (by decide) heq
        exact absurd rfl (hhyphen _)
      · rfl

/-- Whether brackets are negated, and the text after the sign that says so. -/
def negation (extended : Bool) (s : List Char) : Bool × List Char :=
  match space extended s with
  | '^' :: rest => (true, space extended rest)
  | s => (false, s)

/-- A closing bracket that is the first item stands for itself. -/
def firstBracket (extended : Bool) (o : OpenSet) : List Char → Read OpenSet
  | ']' :: rest =>
    if o.items.isEmpty then
      match space extended rest with
      | [] => none
      | s => some (o.push (.literal ⟨']', false⟩), s)
    else some (o, ']' :: rest)
  | s => some (o, s)

theorem firstBracket_of_ne {o : OpenSet} (h : ∀ rest, s ≠ ']' :: rest) :
    firstBracket extended o s = some (o, s) := by
  rw [firstBracket.eq_def]
  split
  · exact absurd rfl (h _)
  · rfl

theorem openSet_eq (extended : Bool) (s : List Char) :
    openSet extended s =
      match leadingHyphens extended ((negation extended s).2.length + 1) ⟨(negation extended s).1, none, []⟩
          (negation extended s).2 with
      | none => none
      | some (o, ']' :: rest) => firstBracket extended o (']' :: rest)
      | some (o, s) => some (o, s) := rfl

theorem openSet_eq_some_iff {u : List Char} {o : OpenSet} :
    openSet extended s = some (o, u) ↔
      ∃ negated w o' w', negation extended s = (negated, w) ∧
        leadingHyphens extended (w.length + 1) ⟨negated, none, []⟩ w = some (o', w') ∧
        firstBracket extended o' w' = some (o, u) := by
  rw [openSet_eq]
  constructor
  · intro h
    split at h
    · cases h
    · rename_i hhyphens
      exact ⟨_, _, _, _, rfl, hhyphens, h⟩
    · rename_i hbracket hhyphens
      exact ⟨_, _, _, _, rfl, hhyphens, (firstBracket_of_ne fun _ heq => hbracket _ heq).trans h⟩
  · rintro ⟨negated, w, o', w', hnegation, hhyphens, hfirst⟩
    simp only [hnegation, hhyphens]
    split
    · rename_i hnone
      cases hnone
    · rename_i hsome
      cases hsome
      exact hfirst
    · rename_i hbracket hsome
      cases hsome
      exact (firstBracket_of_ne fun _ heq => hbracket _ heq).symm.trans hfirst

theorem framed_negation (negated : Bool) : Framed fun s u => negation extended s = (negated, u) := by
  intro s t v h
  rw [negation] at h
  split at h
  · rename_i rest hspace
    obtain ⟨rfl, hafter⟩ := Prod.mk.inj h
    obtain ⟨b, rfl, htb, hafter⟩ := framed_space extended hafter
    obtain ⟨a, rfl, hba, hbefore⟩ := framed_space extended (t := '^' :: b) hspace
    simp only [List.length_cons] at hba
    refine ⟨a, rfl, by omega, fun k hk => ?_⟩
    simp only [negation, hbefore k hk, List.cons_append, hafter k hk]
  · rename_i hsign
    obtain ⟨rfl, hspace⟩ := Prod.mk.inj h
    obtain ⟨a, rfl, hta, hbefore⟩ := framed_space extended hspace
    refine ⟨a, rfl, hta, fun k hk => ?_⟩
    simp only [negation, hbefore k hk]
    split
    · rename_i rest heq
      obtain ⟨c, rfl, _⟩ := hk.exists_cons (by decide) heq
      exact absurd hspace (hsign _)
    · rfl

theorem framed_firstBracket (o o' : OpenSet) :
    FramedWhen 0 (· ≠ []) fun s u => firstBracket extended o s = some (o', u) := by
  intro s t v h
  rw [firstBracket.eq_def] at h
  split at h
  · rename_i rest
    split at h
    · rename_i hitems
      split at h
      · cases h
      · rename_i w hspace
        obtain ⟨rfl, hspace⟩ := Prod.mk.inj (Option.some.inj h)
        obtain ⟨a, rfl, hle, hbefore⟩ := framed_space extended hspace
        refine ⟨']' :: a, rfl, Nat.le_succ_of_le hle, fun k hk hne => ?_⟩
        simp only [List.cons_append, firstBracket, if_pos hitems, hbefore k hk]
    · rename_i hitems
      obtain ⟨rfl, hrest⟩ := Prod.mk.inj (Option.some.inj h)
      obtain ⟨b, rfl, rfl⟩ := (Stop.close v).exists_cons (by decide) hrest.symm
      refine ⟨']' :: b, rfl, Nat.le_refl _, fun k _ _ => ?_⟩
      simp only [List.cons_append, firstBracket, if_neg hitems]
  · rename_i hbracket
    cases h
    refine ⟨t, rfl, Nat.le_refl _, fun k hk _ => ?_⟩
    dsimp only
    rw [firstBracket.eq_def]
    split
    · rename_i rest heq
      obtain ⟨c, rfl, _⟩ := hk.exists_cons (by decide) heq
      exact absurd rfl (hbracket _)
    · rfl

/-- Brackets go on after what opens them. -/
theorem framed_openSet (o : OpenSet) :
    FramedWhen 0 (· ≠ []) fun s u => openSet extended s = some (o, u) := by
  intro s t v h
  obtain ⟨negated, w, o', w', hnegation, hhyphens, hfirst⟩ := openSet_eq_some_iff.1 h
  obtain ⟨b, rfl, htb, hlast⟩ := framed_firstBracket o' o hfirst
  obtain ⟨c, rfl, hbc, hmiddle⟩ := framed_leadingHyphens (Nat.lt_succ_self _) hhyphens
  obtain ⟨a, rfl, hca, hbefore⟩ := framed_negation negated hnegation
  refine ⟨a, rfl, by omega, fun k hk hne => openSet_eq_some_iff.2
    ⟨negated, c ++ k, o', b ++ k, hbefore k hk, ?_, hlast k hk hne⟩⟩
  have hne' : b ++ k ≠ [] := by
    intro hempty
    obtain ⟨hb, hk'⟩ := List.append_eq_nil_iff.1 hempty
    obtain rfl := List.length_eq_zero_iff.1 (Nat.le_zero.1 (hb ▸ htb : t.length ≤ ([] : List Char).length))
    exact hne hk'
  exact hmiddle k hk hne' _ (by rw [List.length_append]; omega)

/-! ## Brackets as a whole -/

/-- What stands for no item in brackets: a bracket, or a sign for two sets. -/
inductive SetSign : List Char → Prop where
  | opens (rest : List Char) : SetSign ('[' :: rest)
  | closes (rest : List Char) : SetSign (']' :: rest)
  | twice {c : Char} (hc : c ∈ ['&', '-', '~']) (rest : List Char) : SetSign (c :: c :: rest)

/-- One step in open brackets, from where there is no white space. -/
inductive SetStep (extended : Bool) :
    List OpenSet → OpenSet → List Char → List OpenSet → OpenSet → List Char → Prop where
  | ascii {outer o rest x u} (h : asciiClass rest = some (x, u)) :
      SetStep extended outer o ('[' :: rest) outer (o.push x) u
  | enter {outer o rest inner u} (hascii : asciiClass rest = none)
      (h : openSet extended rest = some (inner, u)) :
      SetStep extended outer o ('[' :: rest) (o :: outer) inner u
  | leave {parent outer o rest} :
      SetStep extended (parent :: outer) o (']' :: rest) outer (parent.push (.nested o.negated o.inside)) rest
  | inter {outer o rest} : SetStep extended outer o ('&' :: '&' :: rest) outer (o.operate .inter) rest
  | diff {outer o rest} : SetStep extended outer o ('-' :: '-' :: rest) outer (o.operate .diff) rest
  | symmDiff {outer o rest} : SetStep extended outer o ('~' :: '~' :: rest) outer (o.operate .symmDiff) rest
  | item {outer o s x u} (hsign : ¬SetSign s) (h : setItem extended s = some (x, u)) :
      SetStep extended outer o s outer (o.push x) u

theorem setLoop_eq_some_iff {n : Nat} {outer : List OpenSet} {o : OpenSet} {x : Tree} {u : List Char} :
    setLoop extended n outer o s = some (x, u) ↔ ∃ m, n = m + 1 ∧
      ((outer = [] ∧ x = .set o.negated o.inside ∧ space extended s = ']' :: u) ∨
        ∃ outer' o' w, SetStep extended outer o (space extended s) outer' o' w ∧
          setLoop extended m outer' o' w = some (x, u)) := by
  cases n with
  | zero => simp [setLoop]
  | succ m =>
    rw [setLoop]
    generalize space extended s = w
    constructor
    · intro h
      refine ⟨m, rfl, ?_⟩
      split at h
      · cases h
      · split at h
        · exact .inr ⟨_, _, _, .ascii ‹_›, h⟩
        · split at h
          · cases h
          · exact .inr ⟨_, _, _, .enter ‹_› ‹_›, h⟩
      · split at h
        · cases h
          exact .inl ⟨rfl, rfl, rfl⟩
        · exact .inr ⟨_, _, _, .leave, h⟩
      · exact .inr ⟨_, _, _, .inter, h⟩
      · exact .inr ⟨_, _, _, .diff, h⟩
      · exact .inr ⟨_, _, _, .symmDiff, h⟩
      · rename_i hempty hopen hclose hinter hdiff hsymm
        split at h
        · cases h
        · refine .inr ⟨_, _, _, .item ?_ ‹_›, h⟩
          rintro (_ | _ | ⟨hc⟩)
          · exact hopen _ rfl
          · exact hclose _ rfl
          · simp only [List.mem_cons, List.not_mem_nil, or_false] at hc
            rcases hc with rfl | rfl | rfl
            · exact hinter _ rfl
            · exact hdiff _ rfl
            · exact hsymm _ rfl
    · rintro ⟨m', hm, ⟨rfl, rfl, rfl⟩ | ⟨outer', o', w', hstep, h⟩⟩
      · rfl
      · obtain rfl := Nat.succ.inj hm
        cases hstep with
        | ascii hascii => simpa only [hascii] using h
        | enter hascii hopen => simpa only [hascii, hopen] using h
        | leave => exact h
        | inter => exact h
        | diff => exact h
        | symmDiff => exact h
        | item hsign hitem =>
          split
          · cases hitem
          · exact absurd (.opens _) hsign
          · exact absurd (.closes _) hsign
          · exact absurd (.twice (by decide) _) hsign
          · exact absurd (.twice (by decide) _) hsign
          · exact absurd (.twice (by decide) _) hsign
          · simpa only [hitem] using h

theorem SetSign.of_stop {a v : List Char} (hk : Stop k) (h : SetSign (a ++ k)) : SetSign (a ++ ')' :: v) := by
  generalize hw : a ++ k = w at h
  cases h with
  | opens rest =>
    obtain ⟨b, rfl, _⟩ := hk.exists_cons (by decide) hw
    exact .opens _
  | closes rest =>
    obtain ⟨b, rfl, _⟩ := hk.exists_cons (by decide) hw
    exact .closes _
  | @twice d hd rest =>
    have hclose : d ≠ ')' := by
      rintro rfl
      exact absurd hd (by decide)
    obtain ⟨b, rfl, hb⟩ := hk.exists_cons hclose hw
    obtain ⟨c, rfl, _⟩ := hk.exists_cons hclose hb.symm
    exact .twice hd _

theorem framed_setStep (outer outer' : List OpenSet) (o o' : OpenSet) :
    FramedWhen 1 (· ≠ []) fun s u => SetStep extended outer o s outer' o' u := by
  intro s t v h
  generalize hw : t ++ ')' :: v = w at h
  cases h with
  | ascii h =>
    subst hw
    obtain ⟨p, rfl, _, hread⟩ := asciiClass_eq_some h
    refine ⟨'[' :: (p ++ t), by simp, by simp, fun k _ _ => ?_⟩
    rw [List.cons_append, List.append_assoc]
    exact .ascii (hread _)
  | enter hascii h =>
    subst hw
    obtain ⟨a, rfl, hle, hread⟩ := framed_openSet o' h
    exact ⟨'[' :: a, rfl, Nat.succ_le_succ hle, fun k hk hne =>
      .enter (asciiClass_eq_none hascii hk) (hread k hk hne)⟩
  | leave => exact ⟨']' :: t, congrArg _ hw.symm, Nat.le_refl _, fun k _ _ => .leave⟩
  | inter => exact ⟨'&' :: '&' :: t, by rw [← hw]; rfl, by simp, fun k _ _ => .inter⟩
  | diff => exact ⟨'-' :: '-' :: t, by rw [← hw]; rfl, by simp, fun k _ _ => .diff⟩
  | symmDiff => exact ⟨'~' :: '~' :: t, by rw [← hw]; rfl, by simp, fun k _ _ => .symmDiff⟩
  | item hsign h =>
    subst hw
    obtain ⟨a, rfl, hle, hread⟩ := framed_setItem _ h
    exact ⟨a, rfl, hle, fun k hk hne => .item (fun hk' => hsign (hk'.of_stop hk)) (hread k hk hne)⟩

theorem framed_setLoop {n : Nat} {outer : List OpenSet} {o : OpenSet} {x : Tree} {s t v : List Char}
    (h : setLoop extended n outer o s = some (x, t ++ ')' :: v)) :
    ∃ a, s = a ++ ')' :: v ∧ t.length < a.length ∧ ∀ k, Stop k → ∀ m, a.length ≤ m →
      setLoop extended m outer o (a ++ k) = some (x, t ++ k) := by
  induction n generalizing outer o s with
  | zero => cases h
  | succ n ih =>
    obtain ⟨_, hn, ⟨rfl, rfl, hspace⟩ | ⟨outer', o', w, hstep, hloop⟩⟩ := setLoop_eq_some_iff.1 h
    · obtain ⟨a, rfl, hle, hbefore⟩ := framed_space extended (t := ']' :: t) hspace
      refine ⟨a, rfl, hle, fun k hk m hm => ?_⟩
      simp only [List.length_cons] at hle
      obtain ⟨m, rfl⟩ : ∃ m', m = m' + 1 := ⟨m - 1, by omega⟩
      exact setLoop_eq_some_iff.2 ⟨_, rfl, .inl ⟨rfl, rfl, hbefore k hk⟩⟩
    · obtain rfl := Nat.succ.inj hn
      obtain ⟨c, rfl, hlt, hread⟩ := ih hloop
      obtain ⟨b, hb, hcb, hsame⟩ := framed_setStep _ _ _ _ hstep
      obtain ⟨a, rfl, hba, hbefore⟩ := framed_space extended hb
      refine ⟨a, rfl, by omega, fun k hk m hm => ?_⟩
      obtain ⟨m, rfl⟩ : ∃ m', m = m' + 1 := ⟨m - 1, by omega⟩
      have hne : c ++ k ≠ [] := by
        have hpos : 0 < c.length := by omega
        simp [List.ne_nil_of_length_pos hpos]
      refine setLoop_eq_some_iff.2 ⟨m, rfl, .inr ⟨outer', o', c ++ k, ?_, hread k hk m (by omega)⟩⟩
      rw [hbefore k hk]
      exact hsame k hk hne

theorem framed_readSet (x : Tree) : Framed fun s u => readSet extended s = some (x, u) := by
  intro s t v h
  rw [readSet] at h
  split at h
  · cases h
  · rename_i o w hopen
    obtain ⟨b, rfl, hlt, hread⟩ := framed_setLoop h
    obtain ⟨a, rfl, hle, hopen⟩ := framed_openSet o hopen
    refine ⟨a, rfl, by omega, fun k hk => ?_⟩
    have hpos : 0 < b.length := by omega
    have hne : b ++ k ≠ [] := by simp [List.ne_nil_of_length_pos hpos]
    simp only [readSet, hopen k hk hne]
    exact hread k hk _ (by simp; omega)

/-! ## The beginnings of groups -/

theorem framed_flagLoop {negated dangling : Bool} {done : Flags} (flags : Flags) :
    FramedWhen 0 (· ≠ []) fun s u => flagLoop negated dangling done s = some (flags, u) := by
  intro s t v h
  induction s generalizing negated dangling done with
  | nil => cases h
  | cons c rest ih =>
    have hcons : ∀ {negated' dangling' done'},
        (∀ w, flagLoop negated dangling done (c :: w) = flagLoop negated' dangling' done' w) →
        ∃ a, c :: rest = a ++ ')' :: v ∧ t.length ≤ a.length ∧ ∀ k, Stop k → t ++ k ≠ [] →
          flagLoop negated dangling done (a ++ k) = some (flags, t ++ k) := by
      intro negated' dangling' done' hstep
      obtain ⟨a, rfl, hle, hread⟩ := ih ((hstep rest).symm.trans h)
      exact ⟨c :: a, rfl, Nat.le_succ_of_le hle, fun k hk hne => (hstep (a ++ k)).trans (hread k hk hne)⟩
    by_cases hend : c = ':' ∨ c = ')'
    · simp only [flagLoop, if_pos hend] at h
      split at h
      · cases h
      · rename_i hdangling
        obtain ⟨rfl, hrest⟩ := Prod.mk.inj (Option.some.inj h)
        refine ⟨t, hrest, Nat.le_refl _, fun k hk hne => ?_⟩
        cases t with
        | nil =>
          cases hk with
          | nil => exact absurd rfl hne
          | close v' => simp [flagLoop, hdangling]
        | cons d t =>
          obtain ⟨rfl, -⟩ := List.cons.inj hrest
          simp [flagLoop, hend, hdangling]
    · by_cases hminus : c = '-'
      · have hstep : ∀ w, flagLoop negated dangling done (c :: w) =
            if negated then none else flagLoop true true done w := fun w => by
          simp only [flagLoop, if_neg hend, if_pos hminus]
        cases negated with
        | true => cases (hstep rest).symm.trans h
        | false => exact hcons hstep
      · cases hflag : Flag.ofChar? c with
        | none => simp [flagLoop, hend, hminus, hflag] at h
        | some f =>
          have hstep : ∀ w, flagLoop negated dangling done (c :: w) =
              if (done.lookup f).isSome then none
              else flagLoop negated false ((f, !negated) :: done) w := fun w => by
            simp only [flagLoop, if_neg hend, if_neg hminus, hflag]
          by_cases htwice : (done.lookup f).isSome = true
          · simp [hstep, htwice] at h
          · simp only [if_neg htwice] at hstep
            exact hcons hstep

theorem groupName_eq_some_iff {name u : List Char} :
    groupName s = some (name, u) ↔ s = name ++ '>' :: u ∧ (∀ c ∈ name, (c != '>') = true) ∧
      ∃ c cs, name = c :: cs ∧ isGroupNameChar true c = true ∧ cs.all (isGroupNameChar false) = true := by
  rw [groupName]
  constructor
  · intro h
    split at h
    · cases h
    · rename_i d rest hdrop
      split at h
      · cases h
      · rename_i c cs htake
        split at h
        · rename_i hchars
          obtain ⟨rfl, rfl⟩ := Prod.mk.inj (Option.some.inj h)
          have hsign : (d != '>') = false := by
            have hhead := List.head_dropWhile_not (p := (· != '>')) (l := s) (by simp [hdrop])
            simpa only [hdrop, List.head_cons] using hhead
          obtain rfl : d = '>' := by simpa using hsign
          have hsplit := List.takeWhile_append_dropWhile (p := (· != '>')) (l := s)
          rw [hdrop] at hsplit
          exact ⟨hsplit.symm, fun e he => List.mem_takeWhile_imp (p := (· != '>')) he, c, cs, htake, hchars⟩
        · cases h
  · rintro ⟨rfl, hclean, c, cs, rfl, hchars⟩
    have hdrop : ((c :: cs) ++ '>' :: u).dropWhile (· != '>') = '>' :: u := by
      rw [List.dropWhile_append_of_pos hclean]
      rfl
    have htake : ((c :: cs) ++ '>' :: u).takeWhile (· != '>') = c :: cs := by
      rw [List.takeWhile_append_of_pos hclean]
      simp
    simp only [hdrop, htake, if_pos hchars]

theorem framed_namedStart (g : GroupStart) : Framed fun s u => namedStart s = some (g, u) := by
  intro s t v h
  obtain ⟨⟨name, w⟩, hname, hg⟩ := Option.map_eq_some_iff.1 h
  obtain ⟨rfl, rfl⟩ := Prod.mk.inj hg
  obtain ⟨rfl, hchars⟩ := groupName_eq_some_iff.1 hname
  refine ⟨name ++ '>' :: t, by simp, by simp; omega, fun k _ => ?_⟩
  have hread : groupName (name ++ '>' :: t ++ k) = some (name, t ++ k) :=
    groupName_eq_some_iff.2 ⟨by simp, hchars⟩
  simp only [namedStart, hread, Option.map_some]

theorem framed_flagStart (g : GroupStart) : Framed fun s u => flagStart s = some (g, u) := by
  intro s t v h
  rw [flagStart] at h
  split at h
  · rename_i flags rest hflags
    cases h
    obtain ⟨a, rfl, hle, hread⟩ := framed_flagLoop (t := ':' :: t) flags hflags
    simp only [List.length_cons] at hle
    refine ⟨a, rfl, by omega, fun k hk => ?_⟩
    simp only [flagStart, hread k hk (by simp), List.cons_append]
  · rename_i flags rest hflags
    split at h
    · cases h
    · rename_i hempty
      cases h
      obtain ⟨a, rfl, hle, hread⟩ := framed_flagLoop (t := ')' :: t) flags hflags
      simp only [List.length_cons] at hle
      refine ⟨a, rfl, by omega, fun k hk => ?_⟩
      simp only [flagStart, hread k hk (by simp), List.cons_append, if_neg hempty]
  · cases h

/-- What follows the question mark at the beginning of a group. -/
def groupSign : List Char → Read GroupStart
  | '=' :: _ | '!' :: _ | '<' :: '=' :: _ | '<' :: '!' :: _ => none
  | 'P' :: '<' :: rest | '<' :: rest => namedStart rest
  | rest => flagStart rest

theorem groupSign_name (hahead : ∀ w, s ≠ '=' :: w) (hnotAhead : ∀ w, s ≠ '!' :: w) :
    groupSign ('<' :: s) = namedStart s := by
  simp only [groupSign]

theorem groupSign_flags (hahead : ∀ w, s ≠ '=' :: w) (hnotAhead : ∀ w, s ≠ '!' :: w)
    (hnamed : ∀ w, s ≠ 'P' :: '<' :: w) (hname : ∀ w, s ≠ '<' :: w) : groupSign s = flagStart s := by
  rw [groupSign.eq_def]
  split
  · exact absurd rfl (hahead _)
  · exact absurd rfl (hnotAhead _)
  · exact absurd rfl (hname _)
  · exact absurd rfl (hname _)
  · exact absurd rfl (hnamed _)
  · exact absurd rfl (hname _)
  · rfl

theorem groupStart_eq (extended : Bool) (s : List Char) :
    groupStart extended s =
      match space extended s with
      | '?' :: rest => groupSign rest
      | s => some (.capture, s) := by
  rw [groupStart.eq_def]
  generalize space extended s = w
  split
  · rfl
  · rfl
  · rfl
  · rfl
  · rfl
  · rename_i hahead hnotAhead
    exact (groupSign_name hahead hnotAhead).symm
  · rename_i hahead hnotAhead _ _ hnamed hname
    exact (groupSign_flags hahead hnotAhead hnamed hname).symm
  · rename_i hother
    split
    · exact absurd rfl (hother _)
    · rfl

theorem framed_groupSign (g : GroupStart) : Framed fun s u => groupSign s = some (g, u) := by
  intro s t v h
  rw [groupSign.eq_def] at h
  split at h
  · cases h
  · cases h
  · cases h
  · cases h
  · obtain ⟨b, rfl, hle, hread⟩ := framed_namedStart g h
    exact ⟨'P' :: '<' :: b, rfl, by simp; omega, fun k hk => hread k hk⟩
  · rename_i hahead hnotAhead
    obtain ⟨b, rfl, hle, hread⟩ := framed_namedStart g h
    refine ⟨'<' :: b, rfl, Nat.le_succ_of_le hle, fun k hk => ?_⟩
    have hname : groupSign ('<' :: (b ++ k)) = namedStart (b ++ k) :=
      groupSign_name (fun _ => hk.ne_cons (by decide) hahead) fun _ => hk.ne_cons (by decide) hnotAhead
    exact hname.trans (hread k hk)
  · rename_i hahead hnotAhead _ _ hnamed hname
    obtain ⟨b, rfl, hle, hread⟩ := framed_flagStart g h
    refine ⟨b, rfl, hle, fun k hk => (groupSign_flags ?_ ?_ ?_ ?_).trans (hread k hk)⟩
    · exact fun _ => hk.ne_cons (by decide) hahead
    · exact fun _ => hk.ne_cons (by decide) hnotAhead
    · intro w heq
      obtain ⟨c, rfl, hc⟩ := hk.exists_cons (by decide) heq
      obtain ⟨d, rfl, _⟩ := hk.exists_cons (by decide) hc.symm
      exact hnamed _ rfl
    · exact fun _ => hk.ne_cons (by decide) hname

/-- What follows an opening parenthesis. -/
theorem framed_groupStart (g : GroupStart) : Framed fun s u => groupStart extended s = some (g, u) := by
  intro s t v h
  rw [groupStart_eq] at h
  split at h
  · rename_i rest hspace
    obtain ⟨b, rfl, hle, hread⟩ := framed_groupSign g h
    obtain ⟨a, rfl, hba, hbefore⟩ := framed_space extended (t := '?' :: b) hspace
    refine ⟨a, rfl, Nat.le_trans (Nat.le_succ_of_le hle) hba, fun k hk => ?_⟩
    simp only [groupStart_eq, hbefore k hk]
    exact hread k hk
  · rename_i hother
    obtain ⟨rfl, hspace⟩ := Prod.mk.inj (Option.some.inj h)
    obtain ⟨a, rfl, hle, hbefore⟩ := framed_space extended hspace
    refine ⟨a, rfl, hle, fun k hk => ?_⟩
    simp only [groupStart_eq, hbefore k hk]
    split
    · rename_i heq
      exact absurd heq (hk.ne_cons (by decide) fun _ heq => hother _ (hspace.trans heq))
    · rfl

end Brackets
end Regex
end SurveyIntake
