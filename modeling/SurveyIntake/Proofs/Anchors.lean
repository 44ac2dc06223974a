import SurveyIntake.Proofs.Compile
import SurveyIntake.Proofs.Drafts

/-!
# SurveyIntake.Proofs.Anchors

A pattern puts the text of its source between anchors. Where the source is an expression on its own, the
pattern matches whole values only.

* `exists_of_anchored`       — between anchors a source is read up to the parenthesis that closes the group
  around it, just as on its own.
* `Tree.ofSource?_anchored`  — a source that is well formed on its own is all of what that group holds.
* `Tree.matches_anchored`    — between anchors, an expression matches a text as a whole or not at all.
* `WellFormed`               — a source is an expression on its own, and has a meaning.
* `Pattern.accepts_iff_matches` — what a pattern accepts.
-/

namespace SurveyIntake
namespace Regex

theorem Tree.ofSource?_eq_some_iff {source : List Char} {t : Tree} :
    Tree.ofSource? source = some t ↔ ∃ D, readLoop source.length .start source = some D ∧ D.outer = [] ∧
      t = .ofBranches D.branches D.items ∧ t.depth ≤ maxDepth := by
  rw [Tree.ofSource?]
  constructor
  · intro h
    split at h
    · cases h
    · rename_i D hloop
      split at h
      · rename_i houter
        dsimp only at h
        split at h
        · cases h
          exact ⟨D, hloop, List.isEmpty_iff.1 houter, rfl, ‹_›⟩
        · cases h
      · cases h
  · rintro ⟨D, hloop, houter, rfl, hdepth⟩
    simp only [hloop, houter, List.isEmpty_nil, if_true, if_pos hdepth]

/-- The anchor at the beginning, and the group around what follows it. -/
def anchorGroup : OpenGroup := ⟨[], [.atom (.assertion .lineStart)], .flagged [], false⟩

theorem readLoop_anchored {m : Nat} {source : List Char} {D : Draft}
    (h : readLoop m .start (Pattern.anchored source) = some D) :
    ∃ m', readLoop m' (Draft.start.under [anchorGroup]) (source ++ [')', '$']) = some D := by
  have hsource : Pattern.anchored source = '^' :: '(' :: '?' :: ':' :: (source ++ [')', '$']) := by
    simp [Pattern.anchored]
  rw [hsource] at h
  rcases readLoop_eq_some_iff.1 h with ⟨hspace, _⟩ | ⟨m', c, rest, d₁, s₁, _, hspace, hstep, hloop⟩
  · cases hspace
  · cases hspace
    cases hstep
    rcases readLoop_eq_some_iff.1 hloop with ⟨hspace, _⟩ | ⟨m'', c, rest, d₂, s₂, _, hspace, hstep, hloop⟩
    · cases hspace
    · cases hspace
      cases hstep
      exact ⟨m'', hloop⟩

theorem close_of_append_anchor {source a v : List Char} (h : source ++ [')', '$'] = a ++ ')' :: v) :
    (source = a ∧ v = ['$']) ∨ ∃ b, source = a ++ ')' :: b := by
  rcases List.append_eq_append_iff.1 h with ⟨w, rfl, hw⟩ | ⟨w, rfl, hw⟩
  · rcases w with _ | ⟨c, _ | ⟨c', w⟩⟩
    · exact .inl ⟨(List.append_nil _).symm, (List.cons.inj hw).2.symm⟩
    · cases hw
    · obtain ⟨_, hw⟩ := List.cons.inj hw
      obtain ⟨_, hw⟩ := List.cons.inj hw
      cases w <;> cases hw
  · cases w with
    | nil => exact .inl ⟨List.append_nil _, (List.cons.inj hw).2⟩
    | cons c w =>
      obtain rfl := (List.cons.inj hw).1
      exact .inr ⟨w, rfl⟩

/-- A parenthesis that closes no group is an error. -/
theorem Tree.ofSource?_eq_none_of_reads {n : Nat} {source v : List Char} {d : Draft}
    (h : Reads n .start source d (')' :: v)) (hd : d.outer = []) : Tree.ofSource? source = none := by
  refine Option.eq_none_iff_forall_ne_some.2 fun t ht => ?_
  obtain ⟨D, hloop, _⟩ := Tree.ofSource?_eq_some_iff.1 ht
  obtain ⟨m, d₁, s₁, hstep, _⟩ := h.readLoop_of hloop
  simp [step, Draft.closeGroup, hd] at hstep

/-- How a source is read between anchors: the part up to the parenthesis that closes the group around it is
an expression on its own, which the source is not if it goes on. The rest is read after that group. -/
structure Split (source : List Char) (T : Tree) (part : List Char) (t : Tree) : Prop where
  bare : Tree.ofSource? part = some t
  unbalanced : ∀ b, source = part ++ ')' :: b → Tree.ofSource? source = none
  rest : ∃ v m names D, source ++ [')', '$'] = part ++ ')' :: v ∧
    readLoop m ⟨[], [], [.group (.flagged []) t, .atom (.assertion .lineStart)], false, names⟩ v = some D ∧
    D.outer = [] ∧ T = .ofBranches D.branches D.items

theorem exists_split_of_anchored {source : List Char} {T : Tree}
    (h : Tree.ofSource? (Pattern.anchored source) = some T) : ∃ part t, Split source T part t := by
  obtain ⟨D, hloop, houter, rfl, hdepth⟩ := Tree.ofSource?_eq_some_iff.1 h
  obtain ⟨m, hinside⟩ := readLoop_anchored hloop
  obtain ⟨n, d, v, d₁, m', hreads, hd, hclose, hrest⟩ := reads_of_closed hinside houter
  obtain ⟨g, outer, hg, rfl⟩ := Draft.closeGroup_eq_some_iff.1 hclose
  obtain ⟨rfl, rfl⟩ : anchorGroup = g ∧ [] = outer := by
    simpa only [Draft.under, hd, List.nil_append, List.cons.injEq] using hg
  obtain ⟨part, hpart, hle, hframed⟩ := framed_reads n .start d (t := []) hreads
  have hstop : ∀ k, Stop k → Reads n .start (part ++ k) d k := by
    intro k hk
    refine hframed k hk ?_
    rintro rest hrest
    cases hk <;> cases hrest
  have hwithin : D.All fun t => t.depth ≤ maxDepth :=
    ⟨fun t ht => Nat.le_trans (Tree.depth_le_ofBranches ht) hdepth, by simp [houter]⟩
  have hgroup := (readLoop_reflects Draft.Step.depth_le hrest hwithin).1 _
    (List.mem_append_right _ List.mem_cons_self)
  have hbare := hstop [] .nil
  rw [List.append_nil] at hbare
  refine ⟨part, .ofBranches d.branches d.items, ?_, ?_, v, m', d.names, D, hpart, hrest, houter, rfl⟩
  · exact Tree.ofSource?_eq_some_iff.2
      ⟨d, readLoop_of_reads hbare (by simpa using hle), hd, rfl, Nat.le_of_succ_le hgroup⟩
  · rintro b rfl
    exact Tree.ofSource?_eq_none_of_reads (hstop _ (.close b)) hd

/-- A source that is well formed on its own is just what stands between its anchors. -/
theorem Tree.ofSource?_anchored {source : List Char} {t T : Tree} (h : Tree.ofSource? source = some t)
    (hanchored : Tree.ofSource? (Pattern.anchored source) = some T) :
    T = .concat [.atom (.assertion .lineStart), .group (.flagged []) t, .atom (.assertion .lineEnd)] := by
  obtain ⟨part, t', hbare, hunbalanced, v, m, names, D, hv, hrest, _, rfl⟩ :=
    exists_split_of_anchored hanchored
  rcases close_of_append_anchor hv with ⟨rfl, rfl⟩ | ⟨b, hb⟩
  · obtain rfl : t' = t := Option.some.inj (hbare.symm.trans h)
    rcases readLoop_eq_some_iff.1 hrest with ⟨hspace, _⟩ | ⟨m', c, rest, d₂, s₂, _, hspace, hstep, hloop⟩
    · cases hspace
    · cases hspace
      cases hstep
      rcases readLoop_eq_some_iff.1 hloop with ⟨_, rfl⟩ | ⟨_, _, _, _, _, _, hspace, _⟩
      · rfl
      · cases hspace
  · rw [hunbalanced b hb] at h
    cases h

/-! ## Whole values -/

theorem charBefore_eq_none_iff {text : List Char} {i : Nat} (hi : i ≤ text.length) :
    charBefore text i = none ↔ i = 0 := by
  cases i with
  | zero => simp [charBefore]
  | succ i =>
    simp only [charBefore, List.getElem?_eq_none_iff]
    omega

/-- Between anchors, an expression matches a text from its beginning to its end. -/
theorem Tree.matches_anchored {text : List Char} {t : Tree} {i j : Nat} (hi : i ≤ text.length)
    (hj : j ≤ text.length) :
    (Tree.concat [.atom (.assertion .lineStart), .group (.flagged []) t,
        .atom (.assertion .lineEnd)]).Matches text .default i j ↔
      i = 0 ∧ j = text.length ∧ t.Matches text .default 0 text.length := by
  have hstart : ∀ k, Stays text .textStart i k ↔ k = i ∧ i = 0 := fun k => by
    rw [Stays, Look.holds, Option.isNone_iff_eq_none, charBefore_eq_none_iff hi]
  have hfinish : ∀ k, Stays text .textEnd k j ↔ j = k ∧ k = text.length := fun k => by
    rw [Stays, Look.holds, Option.isNone_iff_eq_none, List.getElem?_eq_none_iff]
    omega
  simp only [Tree.Matches, Tree.AllMatch, Tree.modeAfter, Atom.Matches]
  constructor
  · rintro ⟨k, hk, l, hmatch, j', hj', rfl⟩
    obtain ⟨rfl, rfl⟩ := (hstart k).1 hk
    obtain ⟨rfl, hl⟩ := (hfinish l).1 hj'
    exact ⟨rfl, hl, hl ▸ hmatch⟩
  · rintro ⟨rfl, rfl, hmatch⟩
    exact ⟨0, (hstart 0).2 ⟨rfl, rfl⟩, _, hmatch, _, (hfinish _).2 ⟨rfl, rfl⟩, rfl⟩

theorem compile?_eq_some_iff {source : List Char} {e : Expr} :
    compile? source = some e ↔
      ∃ t m, Tree.ofSource? source = some t ∧ t.expr? .default = some (e, m) ∧ e.fits = true := by
  rw [compile?]
  constructor
  · intro h
    split at h
    · cases h
    · rename_i t ht
      split at h
      · cases h
      · rename_i m he
        split at h
        · rename_i hfits
          cases h
          exact ⟨t, m, ht, he, hfits⟩
        · cases h
  · rintro ⟨t, m, ht, he, hfits⟩
    simp only [ht, he, hfits, if_true]

/-- The source is an expression on its own, and all it names is known. -/
def WellFormed (source : List Char) : Prop :=
  ∃ t p, Tree.ofSource? source = some t ∧ t.expr? .default = some p

end Regex

namespace Pattern

variable {p : Pattern} {t : Regex.Tree}

/-- What a pattern is compiled to matches whole texts, where its source is an expression on its own. -/
theorem matches_expr_iff (ht : Regex.Tree.ofSource? p.source.toList = some t) {text : List Char} {i j : Nat}
    (hi : i ≤ text.length) :
    p.expr.Matches text i j ↔ i = 0 ∧ j = text.length ∧ t.Matches text .default 0 text.length := by
  obtain ⟨T, m, hT, he, _⟩ := Regex.compile?_eq_some_iff.1 p.compiled
  have hordered := Regex.Tree.ordered_of_ofSource? hT
  obtain rfl := Regex.Tree.ofSource?_anchored ht hT
  by_cases hj : j ≤ text.length
  · rw [Regex.Tree.matches_expr hordered he, Regex.Tree.matches_anchored hi hj]
  · refine ⟨fun hm => absurd ((p.expr.follows_run text).inside i j hi hm) hj, ?_⟩
    rintro ⟨_, rfl, _⟩
    exact absurd (Nat.le_refl _) hj

theorem accepts_iff_of_read (ht : Regex.Tree.ofSource? p.source.toList = some t) (value : String) :
    p.accepts value = true ↔ t.Matches value.toList .default 0 value.toList.length := by
  rw [accepts, Regex.Expr.occurs_iff]
  constructor
  · rintro ⟨i, j, hi, hm⟩
    exact ((matches_expr_iff ht hi).1 hm).2.2
  · intro hm
    exact ⟨0, _, Nat.zero_le _, (matches_expr_iff ht (Nat.zero_le _)).2 ⟨rfl, rfl, hm⟩⟩

/-- A value is accepted if the whole of it is a match, and only then. -/
theorem accepts_iff_matches {source : String} {t : Regex.Tree} {p : Pattern}
    (ht : Regex.Tree.ofSource? source.toList = some t) (hp : Pattern.ofSource? source = some p)
    (value : String) :
    p.accepts value = true ↔ t.Matches value.toList .default 0 value.toList.length := by
  obtain rfl := ofSource?_eq_some_iff.1 hp
  exact accepts_iff_of_read ht value

/-- Alternatives of which the first one matches only the beginning of what the second one does, with flags
that change what the second one means. -/
def alternatives : Pattern := (Pattern.ofSource? "^a|(?m)ab$").get (by decide +kernel)

def alternativesTree : Regex.Tree :=
  .alternation
    [.concat [.atom (.assertion .lineStart), .atom (.literal ⟨'a', false⟩)],
      .concat [.flags [(.multiline, true)], .atom (.literal ⟨'a', false⟩),
        .atom (.literal ⟨'b', false⟩), .atom (.assertion .lineEnd)]]

theorem accepts_iff_matches_alternatives :
    (alternatives.accepts "ab" = true ∧ alternativesTree.Matches "ab".toList .default 0 2) ∧
      alternatives.accepts "ab\n" = false ∧ ¬alternativesTree.Matches "ab\n".toList .default 0 3 := by
  have hread : Regex.Tree.ofSource? "^a|(?m)ab$".toList = some alternativesTree := rfl
  have hmatches := accepts_iff_matches (p := alternatives) hread (Option.some_get _).symm
  have haccepts : alternatives.accepts "ab" = true := by decide +kernel
  have hrejects : alternatives.accepts "ab\n" = false := by decide +kernel
  exact ⟨⟨haccepts, (hmatches "ab").1 haccepts⟩, hrejects,
    fun hm => absurd ((hmatches "ab\n").2 hm) (by simp [hrejects])⟩

end Pattern
end SurveyIntake
