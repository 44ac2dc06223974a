import SurveyIntake.Proofs.Brackets
import SurveyIntake.Proofs.Denotation

/-!
# SurveyIntake.Proofs.Drafts

Reading an expression step by step.

* `Draft.Step`      — all that reading an item can do to what has been read.
* `Reads`           — a number of steps, from one place of a text to another.
* `framed_reads`    — they are the same whatever follows the group that they stay in.
* `Draft.under`     — what has been read, inside of further groups.
* `reads_of_closed` — inside of a group that is closed in the end, its inside has been read as on its own.
-/

namespace SurveyIntake
namespace Regex

variable {d d' : Draft} {k s u : List Char}

/-! ## Steps -/

theorem framed_repeatAs (min : Nat) (max : Option Nat) (d d' : Draft) :
    Framed fun s u => d.repeatAs min max s = some (d', u) := by
  intro s t v h
  rw [Draft.repeatAs] at h
  generalize hgreed : greed s = p at h
  obtain ⟨greedy, w⟩ := p
  obtain ⟨d₁, hd₁, hd'⟩ := Option.map_eq_some_iff.1 h
  obtain ⟨rfl, rfl⟩ := Prod.mk.inj hd'
  obtain ⟨a, rfl, hle, hread⟩ := framed_greed greedy hgreed
  refine ⟨a, rfl, hle, fun k hk => ?_⟩
  simp only [Draft.repeatAs, hread k hk, hd₁, Option.map_some]

/-- The characters that begin more than an item of one character. -/
def isMark (c : Char) : Bool := "([?*+\x7b\\".toList.contains c

theorem step_other {c : Char} {rest : List Char} (hc : isMark c = false)
    (h : step d c rest = some (d', u)) : u = rest ∧ ∀ w, step d c w = some (d', w) := by
  have hsame : ∀ o : Option Draft, o.map (fun d => (d, rest)) = some (d', u) →
      u = rest ∧ ∀ w : List Char, o.map (fun d => (d, w)) = some (d', w) := by
    intro o ho
    obtain ⟨d₁, rfl, hd⟩ := Option.map_eq_some_iff.1 ho
    cases hd
    exact ⟨rfl, fun _ => rfl⟩
  unfold step at h ⊢
  split at h
  all_goals first
    | exact absurd hc (by decide)
    | exact hsame d.closeGroup h
    | exact hsame (some _) h

theorem framed_step (d d' : Draft) (c : Char) :
    FramedWhen 0 (Countable d'.extended) fun s u => step d c s = some (d', u) := by
  intro s t v h
  cases hmark : isMark c with
  | false =>
    obtain ⟨rfl, hread⟩ := step_other hmark h
    exact ⟨t, rfl, Nat.le_refl _, fun k _ _ => hread (t ++ k)⟩
  | true =>
    have hc : c = '(' ∨ c = '[' ∨ c = '?' ∨ c = '*' ∨ c = '+' ∨ c = '\x7b' ∨ c = '\\' := by
      simpa [isMark] using hmark
    have hframed : ∀ {R : List Char → List Char → Prop}, Framed R → R s (t ++ ')' :: v) →
        (∀ w u, R w u → step d c w = some (d', u)) →
        ∃ a, s = a ++ ')' :: v ∧ t.length + 0 ≤ a.length ∧
          ∀ k, Stop k → Countable d'.extended (t ++ k) → step d c (a ++ k) = some (d', t ++ k) := by
      intro R hR hr hstep
      obtain ⟨a, rfl, hle, hread⟩ := hR hr
      exact ⟨a, rfl, hle, fun k hk _ => hstep _ _ (hread k hk)⟩
    rcases hc with rfl | rfl | rfl | rfl | rfl | rfl | rfl
    · simp only [step] at h
      split at h
      · cases h
      · rename_i g w hgroup
        obtain ⟨d₁, hd₁, hd⟩ := Option.map_eq_some_iff.1 h
        obtain ⟨rfl, rfl⟩ := Prod.mk.inj hd
        exact hframed (framed_groupStart g) hgroup fun w u hr => by simp only [step, hr, hd₁, Option.map_some]
    · obtain ⟨⟨x, w⟩, hset, hd⟩ := Option.map_eq_some_iff.1 h
      obtain ⟨rfl, rfl⟩ := Prod.mk.inj hd
      exact hframed (framed_readSet x) hset fun w u hr => by simp only [step, hr, Option.map_some]
    · exact hframed (framed_repeatAs 0 (some 1) d d') h fun _ _ hr => hr
    · exact hframed (framed_repeatAs 0 none d d') h fun _ _ hr => hr
    · exact hframed (framed_repeatAs 1 none d d') h fun _ _ hr => hr
    · simp only [step] at h
      split at h
      · cases h
      · rename_i min max w hcount
        obtain ⟨b, rfl, hle, hafter⟩ := framed_repeatAs min max d d' h
        obtain ⟨a, rfl, hba, hbefore⟩ := framed_count (min, max) hcount
        refine ⟨a, rfl, Nat.le_trans hle hba, fun k hk _ => ?_⟩
        simp only [step, hbefore k hk]
        exact hafter k hk
    · obtain ⟨⟨x, w⟩, hescape, hd⟩ := Option.map_eq_some_iff.1 h
      obtain ⟨rfl, rfl⟩ := Prod.mk.inj hd
      obtain ⟨a, rfl, hle, hread⟩ := framed_escape x hescape
      exact ⟨a, rfl, hle, fun k hk hcount => by
        simp only [step, hread k hk fun _ => hcount, Option.map_some]⟩

/-! ## Runs -/

/-- A number of items is read, from one place of a text to another. White space before the last place has
been dropped. -/
inductive Reads : Nat → Draft → List Char → Draft → List Char → Prop where
  | here (d : Draft) (s : List Char) : Reads 0 d s d (space d.extended s)
  | item {n : Nat} {d d₁ d' : Draft} {c : Char} {s rest s₁ u : List Char} :
      space d.extended s = c :: rest → step d c rest = some (d₁, s₁) → Reads n d₁ s₁ d' u →
      Reads (n + 1) d s d' u

theorem space_of_head {extended : Bool} {c : Char} {rest : List Char} (hblank : Text.isBlank c = false)
    (hsign : c ≠ '#') : space extended (c :: rest) = c :: rest := by
  cases extended with
  | true => simp [space, dropSpace, hblank, hsign]
  | false => rfl

/-- An opening brace is not left behind but before the bounds of a repetition. -/
theorem Reads.countable {n : Nat} (h : Reads n d s d' u) (hu : Countable d'.extended u) :
    Countable d.extended s := by
  rintro rest rfl
  have hspace : space d.extended ('\x7b' :: rest) = '\x7b' :: rest := space_of_head (by decide) (by decide)
  cases h with
  | here => exact hu rest hspace
  | item hc hstep _ =>
    rw [hspace] at hc
    obtain ⟨rfl, rfl⟩ := List.cons.inj hc
    simp only [step] at hstep
    split at hstep
    · cases hstep
    · exact ⟨_, ‹_›⟩

theorem framed_reads (n : Nat) (d d' : Draft) :
    FramedWhen n (Countable d'.extended) fun s u => Reads n d s d' u := by
  intro s t v h
  generalize hu : t ++ ')' :: v = u at h
  induction h with
  | here d s =>
    obtain ⟨a, rfl, hle, hbefore⟩ := framed_space d.extended hu.symm
    exact ⟨a, rfl, hle, fun k hk _ => hbefore k hk ▸ .here d (a ++ k)⟩
  | @item n d d₁ d' c s rest s₁ u hspace hstep hrest ih =>
    obtain ⟨b, rfl, htb, hlast⟩ := ih hu
    obtain ⟨a', rfl, hba, hmiddle⟩ := framed_step d d₁ c hstep
    obtain ⟨a, rfl, hle, hbefore⟩ := framed_space d.extended (t := c :: a') hspace
    simp only [List.length_cons] at hle
    refine ⟨a, rfl, by omega, fun k hk hcount => ?_⟩
    have hread := hlast k hk hcount
    exact .item (hbefore k hk) (hmiddle k hk (hread.countable hcount)) hread

/-- The loop is at the end of the text, or reads an item and goes on. -/
theorem readLoop_eq_some_iff {m : Nat} {D : Draft} :
    readLoop m d s = some D ↔
      (space d.extended s = [] ∧ D = d) ∨
        ∃ m' c rest d₁ s₁, m = m' + 1 ∧ space d.extended s = c :: rest ∧
          step d c rest = some (d₁, s₁) ∧ readLoop m' d₁ s₁ = some D := by
  rw [readLoop.eq_def]
  dsimp only
  constructor
  · intro h
    split at h
    · rename_i hspace
      cases h
      exact .inl ⟨hspace, rfl⟩
    · rename_i c rest hspace
      split at h
      · cases h
      · rename_i m
        split at h
        · cases h
        · exact .inr ⟨m, c, rest, _, _, rfl, hspace, ‹_›, h⟩
  · rintro (⟨hspace, rfl⟩ | ⟨m', c, rest, d₁, s₁, rfl, hspace, hstep, hloop⟩)
    · rw [hspace]
    · simp only [hspace, hstep, hloop]

theorem readLoop_of_reads {n m : Nat} (h : Reads n d s d' []) (hn : n ≤ m) :
    readLoop m d s = some d' := by
  generalize hu : ([] : List Char) = u at h
  induction h generalizing m with
  | here d s => exact readLoop_eq_some_iff.2 (.inl ⟨hu.symm, rfl⟩)
  | item hspace hstep _ ih =>
    obtain ⟨m, rfl⟩ : ∃ m', m = m' + 1 := ⟨m - 1, by omega⟩
    exact readLoop_eq_some_iff.2 (.inr ⟨m, _, _, _, _, rfl, hspace, hstep, ih (by omega) hu⟩)

/-- Reading goes on where a run has come to. -/
theorem Reads.readLoop_of {n m : Nat} {D : Draft} {c : Char} {rest : List Char}
    (h : Reads n d s d' (c :: rest)) (hloop : readLoop m d s = some D) :
    ∃ m' d₁ s₁, step d' c rest = some (d₁, s₁) ∧ readLoop m' d₁ s₁ = some D := by
  generalize hu : c :: rest = u at h
  induction h generalizing m with
  | here d s =>
    rcases readLoop_eq_some_iff.1 hloop with ⟨hspace, _⟩ | ⟨m', c', rest', d₁, s₁, _, hspace, hstep, hloop⟩
    · rw [← hu] at hspace
      cases hspace
    · rw [← hu] at hspace
      cases hspace
      exact ⟨m', d₁, s₁, hstep, hloop⟩
  | item hspace hstep _ ih =>
    rcases readLoop_eq_some_iff.1 hloop with ⟨hspace', _⟩ | ⟨m', c', rest', d₁, s₁, _, hspace', hstep', hloop⟩
    · rw [hspace] at hspace'
      cases hspace'
    · rw [hspace] at hspace'
      cases hspace'
      rw [hstep] at hstep'
      cases hstep'
      exact ih hloop hu

/-! ## Inside of further groups -/

/-- What has been read, inside of further groups. -/
def Draft.under (groups : List OpenGroup) (d : Draft) : Draft := { d with outer := d.outer ++ groups }

theorem Draft.closeGroup_under {groups : List OpenGroup} (h : d.outer ≠ []) :
    (d.under groups).closeGroup = d.closeGroup.map (·.under groups) := by
  obtain ⟨outer, branches, items, extended, names⟩ := d
  cases outer with
  | nil => exact absurd rfl h
  | cons g outer => rfl

theorem Draft.repeatLast_under {groups : List OpenGroup} (min : Nat) (max : Option Nat) (greedy : Bool) :
    (d.under groups).repeatLast min max greedy = (d.repeatLast min max greedy).map (·.under groups) := by
  obtain ⟨outer, branches, items, extended, names⟩ := d
  cases items with
  | nil => rfl
  | cons t items => cases t <;> rfl

theorem Draft.enter_under {groups : List OpenGroup} (g : GroupStart) :
    (d.under groups).enter g = (d.enter g).map (·.under groups) := by
  cases g with
  | named name =>
    have hnames : (d.under groups).names = d.names := rfl
    simp only [Draft.enter, hnames]
    split <;> rfl
  | capture | flagged | flags => rfl

theorem Draft.repeatAs_under {groups : List OpenGroup} (min : Nat) (max : Option Nat) (s : List Char) :
    (d.under groups).repeatAs min max s = (d.repeatAs min max s).map fun p => (p.1.under groups, p.2) := by
  simp only [Draft.repeatAs, Draft.repeatLast_under, Option.map_map]
  rfl

/-- Further groups make no difference to an item, unless it closes one of them. -/
theorem step_under {groups : List OpenGroup} {c : Char} {rest : List Char}
    (h : c = ')' → d.outer ≠ []) :
    step (d.under groups) c rest = (step d c rest).map fun p => (p.1.under groups, p.2) := by
  have hextended : (d.under groups).extended = d.extended := rfl
  unfold step
  split
  · rw [hextended]
    cases groupStart d.extended rest with
    | none => rfl
    | some p => simp only [Draft.enter_under, Option.map_map, Function.comp_def]
  · simp only [Draft.closeGroup_under (h rfl), Option.map_map, Function.comp_def]
  · rfl
  · rw [hextended]
    simp only [Option.map_map, Function.comp_def]
    rfl
  · exact Draft.repeatAs_under _ _ _
  · exact Draft.repeatAs_under _ _ _
  · exact Draft.repeatAs_under _ _ _
  · rw [hextended]
    cases count d.extended rest with
    | none => rfl
    | some p => exact Draft.repeatAs_under _ _ _
  · rw [hextended]
    simp only [Option.map_map, Function.comp_def]
    rfl
  all_goals rfl

/-- If a group that is open is closed in the end, its inside has been read as on its own. -/
theorem reads_of_closed {m : Nat} {g : OpenGroup} {D : Draft}
    (h : readLoop m (d.under [g]) s = some D) (hclosed : D.outer = []) :
    ∃ n d' v d₁ m', Reads n d s d' (')' :: v) ∧ d'.outer = [] ∧ (d'.under [g]).closeGroup = some d₁ ∧
      readLoop m' d₁ v = some D := by
  induction m using Nat.strongRecOn generalizing d s with
  | _ m ih =>
    rcases readLoop_eq_some_iff.1 h with ⟨_, rfl⟩ | ⟨m', c, rest, d₁, s₁, rfl, hspace, hstep, hloop⟩
    · simp [Draft.under] at hclosed
    · by_cases hclose : c = ')' ∧ d.outer = []
      · obtain ⟨rfl, houter⟩ := hclose
        obtain ⟨e, he, heq⟩ :=
          Option.map_eq_some_iff.1 (show (d.under [g]).closeGroup.map _ = _ from hstep)
        obtain ⟨rfl, rfl⟩ := Prod.mk.inj heq
        exact ⟨0, d, rest, e, m', hspace ▸ .here d s, houter, he, hloop⟩
      · rw [step_under fun hc houter => hclose ⟨hc, houter⟩] at hstep
        obtain ⟨⟨e, w⟩, hbare, heq⟩ := Option.map_eq_some_iff.1 hstep
        obtain ⟨rfl, rfl⟩ := Prod.mk.inj heq
        obtain ⟨n, d', v, d₁, m'', hreads, hclosing⟩ := ih m' (Nat.lt_succ_self _) hloop
        exact ⟨n + 1, d', v, d₁, m'', .item hspace hbare hreads, hclosing⟩

/-! ## What a step can do -/

/-- All that reading an item can do to what has been read. -/
inductive Draft.Step (d : Draft) : Draft → Prop where
  | push {t : Tree} (extended : Bool) : t.Ordered → Step d { d.push t with extended := extended }
  | enter (kind : Group) (extended : Bool) (names : List (List Char)) :
      Step d ({ d with names := names }.openGroup kind extended)
  | close {d' : Draft} : d.closeGroup = some d' → Step d d'
  | next : Step d d.nextBranch
  | again {min : Nat} {max : Option Nat} {greedy : Bool} {d' : Draft} :
      (∀ m, max = some m → min ≤ m) → d.repeatLast min max greedy = some d' → Step d d'

theorem Draft.step_of_repeatAs {min : Nat} {max : Option Nat} (hbounds : ∀ m, max = some m → min ≤ m)
    (h : d.repeatAs min max s = some (d', u)) : d.Step d' := by
  obtain ⟨e, he, heq⟩ := Option.map_eq_some_iff.1 (show (d.repeatLast min max _).map _ = _ from h)
  cases heq
  exact .again hbounds he

theorem Draft.step_of_enter {g : GroupStart} (h : d.enter g = some d') : d.Step d' := by
  cases g with
  | capture =>
    cases h
    exact .enter _ _ d.names
  | named name =>
    simp only [Draft.enter] at h
    split at h
    · cases h
    · cases h
      exact .enter _ _ _
  | flagged flags =>
    cases h
    exact .enter _ _ d.names
  | flags flags =>
    cases h
    exact .push _ trivial

theorem exists_set_of_setLoop {extended : Bool} {n : Nat} {outer : List OpenSet} {o : OpenSet} {x : Tree}
    (h : setLoop extended n outer o s = some (x, u)) : ∃ negated inside, x = .set negated inside := by
  induction n generalizing outer o s with
  | zero => cases h
  | succ n ih =>
    simp only [setLoop] at h
    split at h
    · cases h
    · split at h
      · exact ih h
      · split at h
        · cases h
        · exact ih h
    · split at h
      · cases h
        exact ⟨_, _, rfl⟩
      · exact ih h
    · exact ih h
    · exact ih h
    · exact ih h
    · split at h
      · cases h
      · exact ih h

theorem exists_set_of_readSet {extended : Bool} {p : Tree × List Char} (h : readSet extended s = some p) :
    ∃ negated inside, p.1 = .set negated inside := by
  rw [readSet] at h
  split at h
  · cases h
  · exact exists_set_of_setLoop h

theorem Draft.step_of_step {c : Char} {rest : List Char} (h : step d c rest = some (d', u)) :
    d.Step d' := by
  have hpush : ∀ x : Tree, x.Ordered → d.Step (d.push x) := fun x hx => .push d.extended hx
  have hatom : ∀ {a : Atom} {w : List Char}, some (d.push (.atom a), w) = some (d', u) → d.Step d' := by
    intro a w ha
    cases ha
    exact hpush _ trivial
  unfold step at h
  split at h
  · split at h
    · cases h
    · obtain ⟨e, he, heq⟩ := Option.map_eq_some_iff.1 h
      cases heq
      exact Draft.step_of_enter he
  · obtain ⟨e, he, heq⟩ := Option.map_eq_some_iff.1 h
    cases heq
    exact .close he
  · cases h
    exact .next
  · obtain ⟨p, hp, heq⟩ := Option.map_eq_some_iff.1 h
    cases heq
    obtain ⟨negated, inside, hset⟩ := exists_set_of_readSet hp
    exact hpush _ (hset ▸ trivial)
  · exact Draft.step_of_repeatAs (by simp) h
  · exact Draft.step_of_repeatAs (by simp) h
  · exact Draft.step_of_repeatAs (by simp) h
  · split at h
    · cases h
    · rename_i hcount
      obtain ⟨_, _, _, _, hbounds, _⟩ := count_eq_some_iff.1 hcount
      exact Draft.step_of_repeatAs hbounds h
  · obtain ⟨p, hp, heq⟩ := Option.map_eq_some_iff.1 h
    cases heq
    exact hpush _ trivial
  · exact hatom h
  · exact hatom h
  · exact hatom h
  · exact hatom h

/-! ## What has been read -/

/-- All branches and items that have been read, also those around the innermost group. -/
def Draft.All (P : Tree → Prop) (d : Draft) : Prop :=
  (∀ t ∈ d.branches ++ d.items, P t) ∧ ∀ g ∈ d.outer, ∀ t ∈ g.branches ++ g.items, P t

theorem Tree.ordered_ofItems {ts : List Tree} : (Tree.ofItems ts).Ordered ↔ ∀ t ∈ ts, t.Ordered := by
  rcases ts with _ | ⟨t, _ | ⟨t', ts⟩⟩
  · simp [Tree.ofItems, Tree.Ordered]
  · simp [Tree.ofItems]
  · simp only [Tree.ofItems, Tree.Ordered, Tree.allOrdered_iff, List.mem_reverse]

theorem Tree.ordered_ofBranches {branches items : List Tree} :
    (Tree.ofBranches branches items).Ordered ↔ ∀ t ∈ branches ++ items, t.Ordered := by
  cases branches with
  | nil => exact Tree.ordered_ofItems
  | cons b branches =>
    simp only [Tree.ofBranches, Tree.Ordered, Tree.allOrdered_iff, List.mem_reverse, List.forall_mem_cons,
      Tree.ordered_ofItems, List.forall_mem_append]
    exact and_comm

theorem Tree.depth_le_depths {t : Tree} {ts : List Tree} (h : t ∈ ts) : t.depth ≤ Tree.depths ts := by
  induction ts with
  | nil => cases h
  | cons x ts ih =>
    rw [Tree.depths]
    rcases List.mem_cons.1 h with rfl | h
    · exact Nat.le_max_left _ _
    · exact Nat.le_trans (ih h) (Nat.le_max_right _ _)

theorem Tree.depth_le_ofItems {t : Tree} {ts : List Tree} (h : t ∈ ts) :
    t.depth ≤ (Tree.ofItems ts).depth := by
  rcases ts with _ | ⟨x, _ | ⟨y, ts⟩⟩
  · cases h
  · rw [List.mem_singleton.1 h]
    exact Nat.le_refl _
  · exact Nat.le_succ_of_le (Tree.depth_le_depths (List.mem_reverse.2 h))

theorem Tree.depth_le_ofBranches {t : Tree} {branches items : List Tree} (h : t ∈ branches ++ items) :
    t.depth ≤ (Tree.ofBranches branches items).depth := by
  cases branches with
  | nil => exact Tree.depth_le_ofItems h
  | cons b branches =>
    have hin : ∀ x ∈ Tree.ofItems items :: b :: branches,
        x.depth ≤ (Tree.ofBranches (b :: branches) items).depth := fun x hx =>
      Nat.le_succ_of_le (Tree.depth_le_depths (List.mem_reverse.2 hx))
    rcases List.mem_append.1 h with h | h
    · exact hin t (List.mem_cons_of_mem _ h)
    · exact Nat.le_trans (Tree.depth_le_ofItems h) (hin _ List.mem_cons_self)

theorem Draft.closeGroup_eq_some_iff :
    d.closeGroup = some d' ↔ ∃ g outer, d.outer = g :: outer ∧
      d' = { d with
        outer := outer
        branches := g.branches
        items := .group g.kind (.ofBranches d.branches d.items) :: g.items
        extended := g.extended } := by
  rw [Draft.closeGroup]
  cases d.outer with
  | nil => simp
  | cons g outer => simp [eq_comm]

theorem Draft.repeatLast_eq_some {min : Nat} {max : Option Nat} {greedy : Bool}
    (h : d.repeatLast min max greedy = some d') :
    ∃ t items, d.items = t :: items ∧ d' = { d with items := .repetition min max greedy t :: items } := by
  rw [Draft.repeatLast] at h
  split at h
  · cases h
  · cases h
  · cases h
  · rename_i t items _ _ hitems
    cases h
    exact ⟨t, items, hitems, rfl⟩

/-- The bounds of all repetitions stay in order. -/
theorem Draft.Step.ordered (h : d.Step d') (hd : d.All Tree.Ordered) : d'.All Tree.Ordered := by
  obtain ⟨hinside, houter⟩ := hd
  have hlevel := List.forall_mem_append.1 hinside
  cases h with
  | push extended ht =>
    exact ⟨List.forall_mem_append.2 ⟨hlevel.1, List.forall_mem_cons.2 ⟨ht, hlevel.2⟩⟩, houter⟩
  | enter kind extended names => exact ⟨by simp [Draft.openGroup], List.forall_mem_cons.2 ⟨hinside, houter⟩⟩
  | close h =>
    obtain ⟨g, outer, hg, rfl⟩ := Draft.closeGroup_eq_some_iff.1 h
    rw [hg] at houter
    obtain ⟨hthis, hrest⟩ := List.forall_mem_cons.1 houter
    obtain ⟨hbranches, hitems⟩ := List.forall_mem_append.1 hthis
    have hgroup : (Tree.group g.kind (.ofBranches d.branches d.items)).Ordered :=
      Tree.ordered_ofBranches.2 hinside
    exact ⟨List.forall_mem_append.2 ⟨hbranches, List.forall_mem_cons.2 ⟨hgroup, hitems⟩⟩, hrest⟩
  | next =>
    have hbranch : (Tree.ofItems d.items).Ordered := Tree.ordered_ofItems.2 hlevel.2
    exact ⟨List.forall_mem_append.2 ⟨List.forall_mem_cons.2 ⟨hbranch, hlevel.1⟩, by simp [Draft.nextBranch]⟩,
      houter⟩
  | again hbounds h =>
    obtain ⟨t, items, hitems, rfl⟩ := Draft.repeatLast_eq_some h
    rw [hitems] at hlevel
    obtain ⟨ht, hitems⟩ := List.forall_mem_cons.1 hlevel.2
    exact ⟨List.forall_mem_append.2 ⟨hlevel.1, List.forall_mem_cons.2 ⟨⟨hbounds, ht⟩, hitems⟩⟩, houter⟩

/-- What has been read nests no deeper than what it becomes a part of. -/
theorem Draft.Step.depth_le {n : Nat} (h : d.Step d') (hd : d'.All fun t => t.depth ≤ n) :
    d.All fun t => t.depth ≤ n := by
  obtain ⟨hinside, houter⟩ := hd
  have hlevel := List.forall_mem_append.1 hinside
  cases h with
  | push extended ht =>
    exact ⟨List.forall_mem_append.2 ⟨hlevel.1, (List.forall_mem_cons.1 hlevel.2).2⟩, houter⟩
  | enter kind extended names => exact List.forall_mem_cons.1 houter
  | close h =>
    obtain ⟨g, outer, hg, rfl⟩ := Draft.closeGroup_eq_some_iff.1 h
    obtain ⟨hgroup, hitems⟩ := List.forall_mem_cons.1 hlevel.2
    refine ⟨fun t ht => ?_, ?_⟩
    · exact Nat.le_trans (Tree.depth_le_ofBranches ht) (Nat.le_of_succ_le hgroup)
    · rw [hg]
      exact List.forall_mem_cons.2 ⟨List.forall_mem_append.2 ⟨hlevel.1, hitems⟩, houter⟩
  | next =>
    obtain ⟨hbranch, hbranches⟩ := List.forall_mem_cons.1 hlevel.1
    exact ⟨List.forall_mem_append.2
      ⟨hbranches, fun t ht => Nat.le_trans (Tree.depth_le_ofItems ht) hbranch⟩, houter⟩
  | again hbounds h =>
    obtain ⟨t, items, hitems, rfl⟩ := Draft.repeatLast_eq_some h
    obtain ⟨ht, hrest⟩ := List.forall_mem_cons.1 hlevel.2
    refine ⟨?_, houter⟩
    rw [hitems]
    exact List.forall_mem_append.2
      ⟨hlevel.1, List.forall_mem_cons.2 ⟨Nat.le_of_succ_le ht, hrest⟩⟩

/-- What every step keeps holds in the end if it does in the beginning. -/
theorem readLoop_keeps {P : Draft → Prop} (hstep : ∀ {d d'}, d.Step d' → P d → P d') {m : Nat} {D : Draft}
    (h : readLoop m d s = some D) (hd : P d) : P D := by
  induction m generalizing d s with
  | zero =>
    rcases readLoop_eq_some_iff.1 h with ⟨_, rfl⟩ | ⟨m', c, rest, d₁, s₁, hm, _⟩
    · exact hd
    · cases hm
  | succ m ih =>
    rcases readLoop_eq_some_iff.1 h with ⟨_, rfl⟩ | ⟨m', c, rest, d₁, s₁, hm, _, hc, hloop⟩
    · exact hd
    · cases hm
      exact ih hloop (hstep (Draft.step_of_step hc) hd)

/-- What holds before every step after which it does holds in the beginning if it does in the end. -/
theorem readLoop_reflects {P : Draft → Prop} (hstep : ∀ {d d'}, d.Step d' → P d' → P d) {m : Nat}
    {D : Draft} (h : readLoop m d s = some D) (hD : P D) : P d := by
  induction m generalizing d s with
  | zero =>
    rcases readLoop_eq_some_iff.1 h with ⟨_, rfl⟩ | ⟨m', c, rest, d₁, s₁, hm, _⟩
    · exact hD
    · cases hm
  | succ m ih =>
    rcases readLoop_eq_some_iff.1 h with ⟨_, rfl⟩ | ⟨m', c, rest, d₁, s₁, hm, _, hc, hloop⟩
    · exact hD
    · cases hm
      exact hstep (Draft.step_of_step hc) (ih hloop)

/-- The bounds of all repetitions in a source are in order. -/
theorem Tree.ordered_of_ofSource? {source : List Char} {t : Tree} (h : Tree.ofSource? source = some t) :
    t.Ordered := by
  rw [Tree.ofSource?] at h
  split at h
  · cases h
  · rename_i D hloop
    split at h
    · dsimp only at h
      split at h
      · cases h
        exact Tree.ordered_ofBranches.2
          (readLoop_keeps Draft.Step.ordered hloop ⟨by simp [Draft.start], by simp [Draft.start]⟩).1
      · cases h
    · cases h

end Regex
end SurveyIntake
