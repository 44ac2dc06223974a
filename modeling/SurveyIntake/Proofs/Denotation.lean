import SurveyIntake.Proofs.Joined
import SurveyIntake.Regex.Meaning

/-!
# SurveyIntake.Proofs.Denotation

What a written expression matches, and that its meaning matches the same.

* `Tree.modeAfter`    — what the flags say after an expression.
* `Tree.Matches`      — a written expression matches what stands between two positions of a text.
* `Tree.Ordered`      — no repetition has an upper bound below its lower one.
* `Tree.matches_expr` — the meaning of an expression matches what the expression does.

A written expression is followed as it stands, item by item and branch by branch, with flags that go on
from one to the next.
-/

namespace SurveyIntake
namespace Regex

/-! ## Written expressions -/

mutual

/-- The mode after an expression. Flags inside of a group end with it. -/
def Tree.modeAfter (m : Mode) : Tree → Mode
  | .flags fs => m.apply fs
  | .repetition _ _ _ body => body.modeAfter m
  | .alternation branches => Tree.modeAfterAll m branches
  | .concat items => Tree.modeAfterAll m items
  | .empty | .atom _ | .set _ _ | .group _ _ => m

def Tree.modeAfterAll (m : Mode) : List Tree → Mode
  | [] => m
  | t :: ts => Tree.modeAfterAll (t.modeAfter m) ts

end

def Atom.Matches (text : List Char) (m : Mode) : Atom → Nat → Nat → Prop
  | .literal l, i, j => ∃ c, m.literal? l = some c ∧ Takes text (m.fold (.singleton c)) i j
  | .dot, i, j => ∃ s, m.dot? = some s ∧ Takes text s i j
  | .assertion a, i, j => Stays text (a.look m) i j
  | .letter negated l, i, j => ∃ s, m.letter? negated l = some s ∧ Takes text s i j
  | .property negated q, i, j => ∃ s, m.property? negated q = some s ∧ Takes text s i j

mutual

/-- The expression matches what stands between two positions of a text, in a mode. -/
def Tree.Matches (text : List Char) (m : Mode) : Tree → Nat → Nat → Prop
  | .empty, i, j => j = i
  | .flags _, i, j => j = i
  | .atom a, i, j => a.Matches text m i j
  | .set negated inside, i, j =>
    ∃ s t, inside.set? m = some s ∧ m.negate? negated (m.fold s) = some t ∧ Takes text t i j
  | .repetition min max _ body, i, j => ∃ n, Between min max n ∧ Times (body.Matches text m) n i j
  | .group .capture body, i, j => body.Matches text m i j
  | .group (.flagged fs) body, i, j => body.Matches text (m.apply fs) i j
  | .alternation branches, i, j => Tree.SomeMatch text m branches i j
  | .concat items, i, j => Tree.AllMatch text m items i j

/-- Some of the branches match. -/
def Tree.SomeMatch (text : List Char) (m : Mode) : List Tree → Nat → Nat → Prop
  | [], _, _ => False
  | t :: ts, i, j => t.Matches text m i j ∨ Tree.SomeMatch text (t.modeAfter m) ts i j

/-- The items match one after the other. -/
def Tree.AllMatch (text : List Char) (m : Mode) : List Tree → Nat → Nat → Prop
  | [], i, j => j = i
  | t :: ts, i, j => ∃ k, t.Matches text m i k ∧ Tree.AllMatch text (t.modeAfter m) ts k j

end

mutual

/-- No repetition has an upper bound below its lower one. -/
def Tree.Ordered : Tree → Prop
  | .repetition min max _ body => (∀ m, max = some m → min ≤ m) ∧ body.Ordered
  | .group _ body => body.Ordered
  | .alternation branches => Tree.AllOrdered branches
  | .concat items => Tree.AllOrdered items
  | .empty | .flags _ | .atom _ | .set _ _ => True

def Tree.AllOrdered : List Tree → Prop
  | [] => True
  | t :: ts => t.Ordered ∧ Tree.AllOrdered ts

end

theorem Tree.allOrdered_iff {ts : List Tree} : Tree.AllOrdered ts ↔ ∀ t ∈ ts, t.Ordered := by
  induction ts with
  | nil => simp [Tree.AllOrdered]
  | cons t ts ih => simp [Tree.AllOrdered, ih]

/-- What holds of an expression if it holds of its parts holds of every expression. -/
@[induction_eliminator]
theorem Tree.induction {P : Tree → Prop} (empty : P .empty) (flags : ∀ fs, P (.flags fs))
    (atom : ∀ a, P (.atom a)) (set : ∀ negated inside, P (.set negated inside))
    (repetition : ∀ min max greedy body, P body → P (.repetition min max greedy body))
    (group : ∀ kind body, P body → P (.group kind body))
    (alternation : ∀ branches, (∀ t ∈ branches, P t) → P (.alternation branches))
    (concat : ∀ items, (∀ t ∈ items, P t) → P (.concat items)) : ∀ t, P t
  | .empty => empty
  | .flags fs => flags fs
  | .atom a => atom a
  | .set negated inside => set negated inside
  | .repetition min max greedy body =>
    repetition min max greedy body
      (induction empty flags atom set repetition group alternation concat body)
  | .group kind body =>
    group kind body (induction empty flags atom set repetition group alternation concat body)
  | .alternation branches =>
    alternation branches fun t ht =>
      have : sizeOf t < sizeOf branches := List.sizeOf_lt_of_mem ht
      induction empty flags atom set repetition group alternation concat t
  | .concat items =>
    concat items fun t ht =>
      have : sizeOf t < sizeOf items := List.sizeOf_lt_of_mem ht
      induction empty flags atom set repetition group alternation concat t
termination_by t => sizeOf t

/-! ## Their meaning -/

variable {text : List Char} {m m' : Mode} {i j : Nat}

theorem matches_map_chars {o : Option CharSet} {e : Expr} (h : o.map .chars = some e) :
    e.Matches text i j ↔ ∃ s, o = some s ∧ Takes text s i j := by
  obtain ⟨s, rfl, rfl⟩ := Option.map_eq_some_iff.1 h
  simp [Expr.Matches]

theorem Atom.matches_expr {a : Atom} {e : Expr} (h : a.expr? m = some e) :
    e.Matches text i j ↔ a.Matches text m i j := by
  cases a with
  | literal l =>
    obtain ⟨c, hc, rfl⟩ := Option.map_eq_some_iff.1 h
    simp [Expr.Matches, Atom.Matches, hc]
  | dot => exact matches_map_chars h
  | assertion a =>
    cases h
    rfl
  | letter negated l => exact matches_map_chars h
  | property negated q => exact matches_map_chars h

/-- The meaning of an expression says of a text and of what follows just what the expression does. -/
def Tree.Denotes (text : List Char) (t : Tree) (m : Mode) (e : Expr) (m' : Mode) : Prop :=
  m' = t.modeAfter m ∧ ∀ i j, e.Matches text i j ↔ t.Matches text m i j

theorem Tree.denotes_exprs {ts : List Tree} {es : List Expr}
    (ih : ∀ t ∈ ts, ∀ m e m', t.expr? m = some (e, m') → t.Denotes text m e m')
    (h : Tree.exprs? m ts = some (es, m')) :
    m' = Tree.modeAfterAll m ts ∧ (∀ i j, Expr.SomeMatch text es i j ↔ Tree.SomeMatch text m ts i j) ∧
      ∀ i j, Expr.AllMatch text es i j ↔ Tree.AllMatch text m ts i j := by
  induction ts generalizing m es with
  | nil =>
    cases h
    refine ⟨rfl, fun i j => ?_, fun i j => Iff.rfl⟩
    simp [Expr.SomeMatch, Tree.SomeMatch]
  | cons t ts ihts =>
    rw [Tree.exprs?] at h
    split at h
    · cases h
    · rename_i e m₁ he
      split at h
      · cases h
      · rename_i es' m₂ hes
        cases h
        obtain ⟨rfl, hmatch⟩ := ih t List.mem_cons_self m e m₁ he
        obtain ⟨hmode, hsome, hall⟩ := ihts (fun t ht => ih t (List.mem_cons_of_mem _ ht)) hes
        refine ⟨hmode, fun i j => ?_, fun i j => ?_⟩
        · have hsome := hsome i j
          rw [Expr.SomeMatch] at hsome ⊢
          simp only [List.mem_cons, exists_eq_or_imp, Tree.SomeMatch, hmatch, hsome]
        · simp only [Expr.AllMatch, Tree.AllMatch, hmatch, hall]

theorem Tree.denotes_expr {t : Tree} (hordered : t.Ordered) :
    ∀ {m e m'}, t.expr? m = some (e, m') → t.Denotes text m e m' := by
  induction t with
  | empty =>
    intro m e m' h
    cases h
    exact ⟨rfl, fun i j => Iff.rfl⟩
  | flags fs =>
    intro m e m' h
    cases h
    exact ⟨rfl, fun i j => Iff.rfl⟩
  | atom a =>
    intro m e m' h
    obtain ⟨e, he, h⟩ := Option.map_eq_some_iff.1 h
    cases h
    exact ⟨rfl, fun i j => a.matches_expr he⟩
  | set negated inside =>
    intro m e m' h
    rw [Tree.expr?] at h
    split at h
    · cases h
    · rename_i s hs
      obtain ⟨t, ht, h⟩ := Option.map_eq_some_iff.1 h
      cases h
      refine ⟨rfl, fun i j => ?_⟩
      simp [Expr.Matches, Tree.Matches, hs, ht]
  | repetition min max greedy body ih =>
    intro m e m' h
    obtain ⟨hbounds, hbody⟩ := hordered
    rw [Tree.expr?] at h
    split at h
    · cases h
    · rename_i e' m₁ he
      cases h
      obtain ⟨hmode, hmatch⟩ := ih hbody he
      refine ⟨hmode, fun i j => ?_⟩
      simp only [Expr.matches_repetition hbounds, times_congr hmatch, Tree.Matches]
  | group kind body ih =>
    intro m e m' h
    cases kind with
    | capture =>
      obtain ⟨p, hp, h⟩ := Option.map_eq_some_iff.1 h
      cases h
      exact ⟨rfl, (ih hordered hp).2⟩
    | flagged fs =>
      obtain ⟨p, hp, h⟩ := Option.map_eq_some_iff.1 h
      cases h
      exact ⟨rfl, (ih hordered hp).2⟩
  | alternation branches ih =>
    intro m e m' h
    obtain ⟨p, hp, h⟩ := Option.map_eq_some_iff.1 h
    cases h
    have hordered := Tree.allOrdered_iff.1 hordered
    obtain ⟨hmode, hsome, _⟩ := Tree.denotes_exprs (fun t ht _ _ _ => ih t ht (hordered t ht)) hp
    exact ⟨hmode, fun i j => Expr.matches_alternation.trans (hsome i j)⟩
  | concat items ih =>
    intro m e m' h
    obtain ⟨p, hp, h⟩ := Option.map_eq_some_iff.1 h
    cases h
    have hordered := Tree.allOrdered_iff.1 hordered
    obtain ⟨hmode, _, hall⟩ := Tree.denotes_exprs (fun t ht _ _ _ => ih t ht (hordered t ht)) hp
    exact ⟨hmode, fun i j => Expr.matches_concat.trans (hall i j)⟩

/-- The meaning of an expression matches what the expression does. -/
theorem Tree.matches_expr {t : Tree} {e : Expr} (hordered : t.Ordered) (h : t.expr? m = some (e, m')) :
    e.Matches text i j ↔ t.Matches text m i j :=
  (Tree.denotes_expr hordered h).2 i j

end Regex
end SurveyIntake
