import SurveyIntake.Proofs.Anchors

/-!
# SurveyIntake.Proofs.Unbalanced

Sources that are accepted between anchors.

* `Draft.Meaningful`   — what has been read outside of all groups has a meaning.
* `Pattern.wellFormed_or_unbalanced` — a source that is accepted is well formed, or goes on after a
  parenthesis that closes nothing in it.

Such a parenthesis closes the group that the source is put into, and what follows it stands outside.
-/

namespace SurveyIntake
namespace Regex

/-! ## Parts with a meaning -/

section Passes

variable {m m' : Mode} {t : Tree} {ts us : List Tree}

/-- The expression has a meaning in a mode, and leads to another. -/
def Tree.Passes (m : Mode) (t : Tree) (m' : Mode) : Prop := ∃ e, t.expr? m = some (e, m')

/-- The expressions do one after the other. -/
def Tree.AllPass (m : Mode) (ts : List Tree) (m' : Mode) : Prop := ∃ es, Tree.exprs? m ts = some (es, m')

theorem Tree.allPass_nil : Tree.AllPass m [] m' ↔ m' = m := by
  simp [Tree.AllPass, Tree.exprs?, eq_comm]

theorem Tree.allPass_cons :
    Tree.AllPass m (t :: ts) m' ↔ ∃ m₁, t.Passes m m₁ ∧ Tree.AllPass m₁ ts m' := by
  constructor
  · rintro ⟨es, h⟩
    rw [Tree.exprs?] at h
    split at h
    · cases h
    · rename_i e m₁ he
      split at h
      · cases h
      · rename_i es' m₂ hes
        cases h
        exact ⟨m₁, ⟨e, he⟩, es', hes⟩
  · rintro ⟨m₁, ⟨e, he⟩, es, hes⟩
    exact ⟨e :: es, by simp [Tree.exprs?, he, hes]⟩

theorem Tree.allPass_append :
    Tree.AllPass m (ts ++ us) m' ↔ ∃ m₁, Tree.AllPass m ts m₁ ∧ Tree.AllPass m₁ us m' := by
  induction ts generalizing m with
  | nil => simp [Tree.allPass_nil]
  | cons t ts ih =>
    simp only [List.cons_append, Tree.allPass_cons, ih]
    constructor
    · rintro ⟨m₁, ht, m₂, hts, hus⟩
      exact ⟨m₂, ⟨m₁, ht, hts⟩, hus⟩
    · rintro ⟨m₂, ⟨m₁, ht, hts⟩, hus⟩
      exact ⟨m₁, ht, m₂, hts, hus⟩

theorem Tree.allPass_singleton : Tree.AllPass m [t] m' ↔ t.Passes m m' := by
  simp [Tree.allPass_cons, Tree.allPass_nil]

theorem Tree.passes_concat : (Tree.concat ts).Passes m m' ↔ Tree.AllPass m ts m' := by
  simp [Tree.Passes, Tree.AllPass, Tree.expr?]

theorem Tree.passes_alternation : (Tree.alternation ts).Passes m m' ↔ Tree.AllPass m ts m' := by
  simp [Tree.Passes, Tree.AllPass, Tree.expr?]

theorem Tree.passes_ofItems : (Tree.ofItems ts).Passes m m' ↔ Tree.AllPass m ts.reverse m' := by
  rcases ts with _ | ⟨t, _ | ⟨t', ts⟩⟩
  · simp [Tree.ofItems, Tree.Passes, Tree.expr?, Tree.allPass_nil, eq_comm]
  · simp [Tree.ofItems, Tree.allPass_singleton]
  · exact Tree.passes_concat

theorem Tree.passes_ofBranches :
    (Tree.ofBranches ts us).Passes m m' ↔ Tree.AllPass m (ts.reverse ++ us.reverse) m' := by
  cases ts with
  | nil => exact Tree.passes_ofItems
  | cons t ts =>
    have hbranches : Tree.ofBranches (t :: ts) us = .alternation (.ofItems us :: t :: ts).reverse := rfl
    rw [hbranches, Tree.passes_alternation, List.reverse_cons, Tree.allPass_append, Tree.allPass_append]
    simp only [Tree.allPass_singleton, Tree.passes_ofItems]

theorem Tree.passes_of_repetition {min : Nat} {max : Option Nat} {greedy : Bool}
    (h : (Tree.repetition min max greedy t).Passes m m') : t.Passes m m' := by
  obtain ⟨e, h⟩ := h
  rw [Tree.expr?] at h
  split at h
  · cases h
  · cases h
    exact ⟨_, ‹_›⟩

end Passes

/-! ## Outside of all groups -/

variable {d d' : Draft}

/-- What has been read outside of all groups, in its order. -/
def Draft.bottom (d : Draft) : List Tree := below d.branches d.items d.outer
where
  below (branches items : List Tree) : List OpenGroup → List Tree
    | [] => branches.reverse ++ items.reverse
    | g :: outer => below g.branches g.items outer

def Draft.Meaningful (d : Draft) : Prop := ∃ m, Tree.AllPass .default d.bottom m

theorem Draft.meaningful_of_bottom (h : d'.bottom = d.bottom) (hd : d'.Meaningful) : d.Meaningful := by
  rwa [Draft.Meaningful, ← h]

/-- What has a meaning also has one without its last part. -/
theorem Draft.meaningful_of_append {t : Tree} (h : d'.bottom = d.bottom ++ [t]) (hd : d'.Meaningful) :
    d.Meaningful := by
  obtain ⟨m, hm⟩ := hd
  rw [h] at hm
  obtain ⟨m₁, hm₁, _⟩ := Tree.allPass_append.1 hm
  exact ⟨m₁, hm₁⟩

/-- What is read on does not give a meaning to what had none. -/
theorem Draft.Step.meaningful (h : d.Step d') (hd : d'.Meaningful) : d.Meaningful := by
  obtain ⟨outer, branches, items, extended, names⟩ := d
  cases h with
  | push extended ht =>
    cases outer with
    | nil => exact Draft.meaningful_of_append (by simp [Draft.bottom, Draft.bottom.below, Draft.push]; rfl) hd
    | cons g outer => exact Draft.meaningful_of_bottom rfl hd
  | enter kind extended names => exact Draft.meaningful_of_bottom rfl hd
  | close h =>
    obtain ⟨g, outer', hg, rfl⟩ := Draft.closeGroup_eq_some_iff.1 h
    dsimp only at hg
    subst hg
    cases outer' with
    | nil => exact Draft.meaningful_of_append (by simp [Draft.bottom, Draft.bottom.below]; rfl) hd
    | cons g' outer => exact Draft.meaningful_of_bottom rfl hd
  | next =>
    cases outer with
    | nil =>
      have hbottom : (Draft.nextBranch ⟨[], branches, items, extended, names⟩).bottom =
          branches.reverse ++ [Tree.ofItems items] := by
        simp [Draft.bottom, Draft.bottom.below, Draft.nextBranch]
      obtain ⟨m, hm⟩ := hd
      rw [hbottom, Tree.allPass_append] at hm
      simp only [Tree.allPass_singleton, Tree.passes_ofItems] at hm
      exact ⟨m, Tree.allPass_append.2 hm⟩
    | cons g outer => exact Draft.meaningful_of_bottom rfl hd
  | again hbounds h =>
    obtain ⟨t, rest, hitems, rfl⟩ := Draft.repeatLast_eq_some h
    dsimp only at hitems
    subst hitems
    cases outer with
    | nil =>
      obtain ⟨m, hm⟩ := hd
      simp only [Draft.bottom, Draft.bottom.below, List.reverse_cons, ← List.append_assoc] at hm
      obtain ⟨m₁, hbefore, hlast⟩ := Tree.allPass_append.1 hm
      have ht := Tree.passes_of_repetition (Tree.allPass_singleton.1 hlast)
      refine ⟨m, ?_⟩
      simp only [Draft.bottom, Draft.bottom.below, List.reverse_cons, ← List.append_assoc]
      exact Tree.allPass_append.2 ⟨m₁, hbefore, Tree.allPass_singleton.2 ht⟩
    | cons g outer => exact Draft.meaningful_of_bottom rfl hd

/-! ## Accepted sources -/

/-- The source is an expression on its own, or is one up to a parenthesis that closes nothing. -/
def WellFormedUpToClose (source : List Char) : Prop :=
  WellFormed source ∨ (¬WellFormed source ∧ ∃ a b, source = a ++ ')' :: b ∧ WellFormed a)

theorem wellFormedUpToClose_of_anchored {source : List Char} {e : Expr}
    (h : compile? (Pattern.anchored source) = some e) : WellFormedUpToClose source := by
  obtain ⟨T, m, hT, he, _⟩ := compile?_eq_some_iff.1 h
  obtain ⟨part, t, hbare, hunbalanced, v, n, names, D, hv, hrest, houter, rfl⟩ := exists_split_of_anchored hT
  have hmeaningful : D.Meaningful := by
    refine ⟨m, ?_⟩
    rw [Draft.bottom, houter]
    exact Tree.passes_ofBranches.1 ⟨e, he⟩
  have hpart : WellFormed part := by
    obtain ⟨m', hm'⟩ := readLoop_reflects Draft.Step.meaningful hrest hmeaningful
    obtain ⟨m₁, hstart, hm'⟩ := Tree.allPass_cons.1 hm'
    obtain ⟨m₂, ⟨e', hgroup⟩, _⟩ := Tree.allPass_cons.1 hm'
    obtain ⟨e₁, hstart⟩ := hstart
    cases hstart
    obtain ⟨p, hp, _⟩ := Option.map_eq_some_iff.1 hgroup
    exact ⟨t, p, hbare, hp⟩
  rcases close_of_append_anchor hv with ⟨rfl, _⟩ | ⟨b, hb⟩
  · exact .inl hpart
  · refine .inr ⟨?_, part, b, hb, hpart⟩
    rintro ⟨t', p, ht', _⟩
    rw [hunbalanced b hb] at ht'
    cases ht'

end Regex

/-- A source that is accepted is an expression on its own, or goes on after a parenthesis that closes
nothing in it. -/
theorem Pattern.wellFormed_or_unbalanced {source : String}
    (h : (∃ p, Pattern.ofSource? source = some p) ∨
      ∃ c form, Configuration.compile c = .ok form ∧ c.HasPattern source) :
    Regex.WellFormedUpToClose source.toList := by
  obtain ⟨p, hp⟩ : ∃ p, Pattern.ofSource? source = some p := by
    rcases h with hp | ⟨c, form, hcompile, hsource⟩
    · exact hp
    · exact Configuration.exists_pattern_of_compile hcompile hsource
  obtain rfl := Pattern.ofSource?_eq_some_iff.1 hp
  exact Regex.wellFormedUpToClose_of_anchored p.compiled

/-- Two alternatives, which only the parentheses around them make complete. -/
def halvesSource : String := "a)|(b"

def halves : Pattern := (Pattern.ofSource? halvesSource).get (by decide +kernel)

/-- A survey where one of the alternatives has to be found in an identity. -/
def halvesSurvey : Configuration :=
  { Configuration.ofNames "ann" "trips" with identityPattern := some halvesSource }

theorem Pattern.wellFormed_or_unbalanced_halves :
    (∃ form, halvesSurvey.compile = .ok form) ∧ Regex.WellFormedUpToClose halvesSource.toList := by
  have hcompile : halvesSurvey.compile = .ok ⟨⟨"ann", "trips", by decide, by decide⟩, halves, []⟩ := rfl
  exact ⟨⟨_, hcompile⟩,
    Pattern.wellFormed_or_unbalanced (.inr ⟨halvesSurvey, _, hcompile, .inl rfl⟩)⟩

/-- A source that is no expression on its own is accepted, and so is a value that only begins with a
match. -/
theorem Pattern.halves_accepted :
    Pattern.ofSource? halvesSource = some halves ∧ ¬Regex.WellFormed halvesSource.toList ∧
      halves.accepts "ax" = true := by
  refine ⟨(Option.some_get _).symm, ?_, by decide +kernel⟩
  rintro ⟨t, _, ht, _⟩
  cases ht

end SurveyIntake
