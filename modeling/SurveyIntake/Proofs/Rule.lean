import Mathlib.Data.List.Forall2
import SurveyIntake.Form.Compile
import SurveyIntake.Proofs.Table

/-!
# SurveyIntake.Proofs.Rule

The rules that the constraints of a field stand for.

* `Rule.Stands`          — the constraints that a kind of field may have, each with its values and its rule.
* `Rule.value`           — the value of the constraint that a rule stands for; with its name, it tells the rule.
* `Rule.declaredAll_eq_ok_iff` — declared rules are those of the constraints, one by one.
* `Rule.inverted?_eq_none_iff` — when bounds are the right way round.
* `Field.rules_eq_ok_iff`, `Field.exists_rules_iff` — when a field has rules, and which.
* `Field.mem_rules_iff`  — the rules of a field are those it declares, and perhaps the pattern of addresses.
-/

namespace SurveyIntake

@[simp] theorem Json.nat_inj {m n : Nat} : Json.nat m = Json.nat n ↔ m = n := by
  constructor
  · intro h
    injection h with h
    injection h with h
    omega
  · rintro rfl
    rfl

section Forall₂

variable {α β : Type} {R : α → β → Prop} {as : List α} {bs : List β}

theorem exists_of_mem_left (h : List.Forall₂ R as bs) {a : α} (ha : a ∈ as) : ∃ b ∈ bs, R a b := by
  induction h with
  | nil => cases ha
  | cons hr _ ih =>
    rcases List.mem_cons.1 ha with rfl | ha
    · exact ⟨_, List.mem_cons_self, hr⟩
    · obtain ⟨b, hb, hab⟩ := ih ha
      exact ⟨b, List.mem_cons_of_mem _ hb, hab⟩

theorem exists_of_mem_right (h : List.Forall₂ R as bs) {b : β} (hb : b ∈ bs) : ∃ a ∈ as, R a b :=
  exists_of_mem_left h.flip hb

theorem exists_forall₂ (h : ∀ a ∈ as, ∃ b, R a b) : ∃ bs, List.Forall₂ R as bs := by
  induction as with
  | nil => exact ⟨[], .nil⟩
  | cons a as ih =>
    obtain ⟨b, hb⟩ := h a List.mem_cons_self
    obtain ⟨bs, hbs⟩ := ih fun x hx => h x (List.mem_cons_of_mem _ hx)
    exact ⟨b :: bs, .cons hb hbs⟩

end Forall₂

namespace Pattern

/-- A pattern is made of its source, and of no other one. -/
theorem ofSource?_eq_some_iff {source : String} {p : Pattern} :
    ofSource? source = some p ↔ p.source = source := by
  unfold ofSource?
  constructor
  · intro h
    split at h
    · cases h
    · cases h
      rfl
  · rintro rfl
    obtain ⟨source, expr, compiled⟩ := p
    split
    · rename_i hnone
      rw [compiled] at hnone
      cases hnone
    · rename_i e he
      rw [compiled] at he
      cases he
      rfl

theorem eq_of_source {p q : Pattern} (h : p.source = q.source) : p = q := by
  have hp : ofSource? q.source = some p := ofSource?_eq_some_iff.2 h
  rw [ofSource?_eq_some_iff.2 rfl] at hp
  cases hp
  rfl

theorem source_addressPattern : addressPattern.source = addressSource :=
  ofSource?_eq_some_iff.1 (Option.some_get _).symm

end Pattern

namespace Rule

/-- A field of the kind may have a constraint of the name and the value, which stands for the rule. -/
inductive Stands (kind : Kind) : String → Json → Rule → Prop where
  | minChars {n : Nat} : kind = .email ∨ kind = .text ∨ kind = .list → n < UInt64.size →
      Stands kind "min_chars" (.nat n) (.minChars n)
  | maxChars {n : Nat} : kind = .email ∨ kind = .text ∨ kind = .list → n < UInt64.size →
      Stands kind "max_chars" (.nat n) (.maxChars n)
  | minSelect {n : Nat} : kind = .selection → n < UInt64.size →
      Stands kind "min_select" (.nat n) (.minSelect n)
  | maxSelect {n : Nat} : kind = .selection → n < UInt64.size →
      Stands kind "max_select" (.nat n) (.maxSelect n)
  | pattern {source : String} {p : Pattern} : kind = .email ∨ kind = .text →
      Pattern.ofSource? source = some p → Stands kind "regex" (.string source) (.pattern p)

theorem bound?_eq_some_iff {value : Json} {n : Nat} :
    bound? value = some n ↔ n < UInt64.size ∧ value = .nat n := by
  constructor
  · intro h
    unfold bound? at h
    split at h
    · rename_i i
      split at h
      · rename_i hi
        cases h
        unfold maxBound UInt64.size at hi
        refine ⟨by unfold UInt64.size; omega, ?_⟩
        rw [Json.nat, Int.toNat_of_nonneg hi.1]
      · cases h
    · cases h
  · rintro ⟨hn, rfl⟩
    have hle : (0 : Int) ≤ n ∧ (n : Int) ≤ maxBound := by unfold maxBound; omega
    simp [bound?, Json.nat, hle]

theorem ofBound_eq_ok_iff {rule : Nat → Rule} {value : Json} {r : Rule} :
    ofBound rule value = .ok r ↔ ∃ n, n < UInt64.size ∧ value = .nat n ∧ r = rule n := by
  unfold ofBound
  constructor
  · intro h
    split at h
    · rename_i n hn
      cases h
      exact ⟨n, (bound?_eq_some_iff.1 hn).1, (bound?_eq_some_iff.1 hn).2, rfl⟩
    · cases h
  · rintro ⟨n, hn, rfl, rfl⟩
    rw [bound?_eq_some_iff.2 ⟨hn, rfl⟩]

theorem ofSource_eq_ok_iff {value : Json} {r : Rule} :
    ofSource value = .ok r ↔
      ∃ source p, value = .string source ∧ Pattern.ofSource? source = some p ∧ r = .pattern p := by
  constructor
  · intro h
    unfold ofSource at h
    split at h
    · rename_i source
      split at h
      · rename_i p hp
        cases h
        exact ⟨source, p, rfl, hp, rfl⟩
      · cases h
    · cases h
  · rintro ⟨source, p, rfl, hp, rfl⟩
    simp [ofSource, hp]

theorem ofName?_eq_some_iff {name : String} {c : Constraint} :
    Constraint.ofName? name = some c ↔ c.name = name := by
  constructor
  · intro h
    simpa using List.find?_some h
  · rintro rfl
    cases c <;> rfl

theorem declared_of_ofValue {path : String} {kind : Kind} {c : Constraint} {value : Json} {r : Rule}
    (ha : c.appliesTo kind = true) (hr : ofValue c value = .ok r) :
    declared path kind c.name value = .ok r := by
  have hc : (Constraint.ofName? c.name).filter (fun c => c.appliesTo kind) = some c :=
    Option.filter_eq_some_iff.2 ⟨ofName?_eq_some_iff.2 rfl, ha⟩
  simp only [declared, hc, hr]

theorem declared_eq_ok_iff {path : String} {kind : Kind} {name : String} {value : Json} {r : Rule} :
    declared path kind name value = .ok r ↔ Stands kind name value r := by
  constructor
  · intro h
    unfold declared at h
    split at h
    · cases h
    · rename_i c hc
      obtain ⟨hname, happlies⟩ := Option.filter_eq_some_iff.1 hc
      rw [ofName?_eq_some_iff] at hname
      subst hname
      split at h
      · cases h
      · rename_i r' hr
        cases h
        cases c with
        | regex =>
          obtain ⟨source, p, rfl, hp, rfl⟩ := ofSource_eq_ok_iff.1 hr
          exact .pattern (by cases kind <;> simp_all [Constraint.appliesTo, Constraint.kinds]) hp
        | _ =>
          obtain ⟨n, hn, rfl, rfl⟩ := ofBound_eq_ok_iff.1 hr
          constructor
          · cases kind <;> simp_all [Constraint.appliesTo, Constraint.kinds]
          · exact hn
  · intro h
    cases h with
    | @minChars n hk hn =>
      exact declared_of_ofValue (c := .minChars) (by rcases hk with rfl | rfl | rfl <;> rfl)
        (ofBound_eq_ok_iff.2 ⟨n, hn, rfl, rfl⟩)
    | @maxChars n hk hn =>
      exact declared_of_ofValue (c := .maxChars) (by rcases hk with rfl | rfl | rfl <;> rfl)
        (ofBound_eq_ok_iff.2 ⟨n, hn, rfl, rfl⟩)
    | @minSelect n hk hn =>
      exact declared_of_ofValue (c := .minSelect) (by subst hk; rfl)
        (ofBound_eq_ok_iff.2 ⟨n, hn, rfl, rfl⟩)
    | @maxSelect n hk hn =>
      exact declared_of_ofValue (c := .maxSelect) (by subst hk; rfl)
        (ofBound_eq_ok_iff.2 ⟨n, hn, rfl, rfl⟩)
    | @pattern source p hk hp =>
      exact declared_of_ofValue (c := .regex) (by rcases hk with rfl | rfl <;> rfl)
        (ofSource_eq_ok_iff.2 ⟨source, p, rfl, hp, rfl⟩)

/-! ## Names and values -/

/-- The value of the constraint that the rule stands for. -/
def value : Rule → Json
  | .minChars n | .maxChars n | .minSelect n | .maxSelect n => .nat n
  | .pattern p => .string p.source

theorem eq_of_name_of_value {r r' : Rule} (hn : r.name = r'.name) (hv : r.value = r'.value) :
    r = r' := by
  cases r <;> cases r' <;> simp [name, constraint, Constraint.name] at hn <;> simp [value] at hv
  case pattern.pattern p q => rw [Pattern.eq_of_source hv]
  all_goals rw [hv]

theorem Stands.name_eq {kind : Kind} {name : String} {value : Json} {r : Rule}
    (h : Stands kind name value r) : r.name = name := by
  cases h <;> rfl

theorem Stands.value_eq {kind : Kind} {name : String} {value : Json} {r : Rule}
    (h : Stands kind name value r) : r.value = value := by
  cases h with
  | pattern _ hp => rw [Rule.value, Pattern.ofSource?_eq_some_iff.1 hp]
  | _ => rfl

theorem boundOf?_eq_some_iff {c : Constraint} {r : Rule} {n : Nat} :
    boundOf? c r = some n ↔ r.name = c.name ∧ r.value = .nat n := by
  cases r with
  | pattern p => cases c <;> simp [boundOf?, value, Json.nat]
  | _ => cases c <;> simp [boundOf?, name, constraint, Constraint.name, value]

/-! ## All rules of a field -/

/-- The rules are those that the constraints stand for, one by one. -/
abbrev StandAll (kind : Kind) (constraints : List (String × Json)) (rules : List Rule) : Prop :=
  List.Forall₂ (fun e r => Stands kind e.1 e.2 r) constraints rules

theorem declaredAll_eq_ok_iff {path : String} {kind : Kind} {constraints : List (String × Json)}
    {rules : List Rule} :
    declaredAll path kind constraints = .ok rules ↔ StandAll kind constraints rules := by
  induction constraints generalizing rules with
  | nil => simp [declaredAll, eq_comm]
  | cons e rest ih =>
    obtain ⟨name, value⟩ := e
    simp only [declaredAll]
    constructor
    · intro h
      split at h
      · cases h
      · rename_i r hr
        split at h
        · cases h
        · rename_i rs hrs
          cases h
          exact .cons (declared_eq_ok_iff.1 hr) (ih.1 hrs)
    · intro h
      cases h with
      | cons hr hrs =>
        rw [declared_eq_ok_iff.2 hr, ih.2 hrs]

theorem StandAll.mem_iff {kind : Kind} {constraints : List (String × Json)} {rules : List Rule}
    (h : StandAll kind constraints rules) {r : Rule} :
    r ∈ rules ↔ (r.name, r.value) ∈ constraints := by
  constructor
  · intro hr
    obtain ⟨e, he, hs⟩ := exists_of_mem_right h hr
    rwa [hs.name_eq, hs.value_eq]
  · intro he
    obtain ⟨r', hr', hs⟩ := exists_of_mem_left h he
    rwa [eq_of_name_of_value hs.name_eq.symm hs.value_eq.symm]

/-! ## Bounds -/

/-- The bound that is looked up among rules is the one that is declared. -/
theorem findSome?_boundOf?_eq_some_iff {kind : Kind} {constraints : List (String × Json)}
    {rules : List Rule} (hc : Assoc.Ascending constraints) (h : StandAll kind constraints rules)
    {c : Constraint} {n : Nat} :
    rules.findSome? (boundOf? c) = some n ↔ (c.name, Json.nat n) ∈ constraints := by
  have declared : ∀ {m}, rules.findSome? (boundOf? c) = some m →
      (c.name, Json.nat m) ∈ constraints := by
    intro m hm
    obtain ⟨r, hr, hb⟩ := List.exists_of_findSome?_eq_some hm
    obtain ⟨hn, hv⟩ := boundOf?_eq_some_iff.1 hb
    rw [← hn, ← hv]
    exact h.mem_iff.1 hr
  constructor
  · exact declared
  · intro he
    obtain ⟨r, hr, hs⟩ := exists_of_mem_left h he
    have hb : boundOf? c r = some n := boundOf?_eq_some_iff.2 ⟨hs.name_eq, hs.value_eq⟩
    cases hm : rules.findSome? (boundOf? c) with
    | none =>
      rw [List.findSome?_eq_none_iff.1 hm r hr] at hb
      cases hb
    | some m =>
      rw [Json.nat_inj.1 (hc.unique he (declared hm))]

theorem inverted?_eq_none_iff {path : String} {kind : Kind} {constraints : List (String × Json)}
    {rules : List Rule} (hc : Assoc.Ascending constraints) (h : StandAll kind constraints rules)
    {min max : Constraint} :
    inverted? path min max rules = none ↔
      ∀ least most, (min.name, Json.nat least) ∈ constraints →
        (max.name, Json.nat most) ∈ constraints → least ≤ most := by
  simp only [← findSome?_boundOf?_eq_some_iff hc h]
  unfold inverted?
  constructor
  · intro hi least most hmin hmax
    simp only [hmin, hmax] at hi
    split at hi
    · cases hi
    · omega
  · intro hle
    split
    · rename_i least most hmin hmax
      have := hle least most hmin hmax
      rw [if_neg (by omega)]
    · rfl

end Rule

/-! ## The rules of a field -/

/-- Each least value that is declared is no more than the greatest one. -/
def BoundsOrdered (constraints : List (String × Json)) : Prop :=
  (∀ least most, ("min_chars", Json.nat least) ∈ constraints →
    ("max_chars", Json.nat most) ∈ constraints → least ≤ most) ∧
  ∀ least most, ("min_select", Json.nat least) ∈ constraints →
    ("max_select", Json.nat most) ∈ constraints → least ≤ most

/-- An address is asked for, and nothing is said about how it is written. -/
def NeedsAddress (kind : Kind) (constraints : List (String × Json)) : Prop :=
  kind = .email ∧ "regex" ∉ Assoc.keys constraints

instance (kind : Kind) (constraints : List (String × Json)) :
    Decidable (NeedsAddress kind constraints) := inferInstanceAs (Decidable (_ ∧ _))

theorem Rule.isPattern_iff {r : Rule} : r.isPattern = true ↔ r.name = "regex" := by
  cases r <;> simp [Rule.isPattern, Rule.name, Rule.constraint, Constraint.name]

theorem Rule.StandAll.any_isPattern_iff {kind : Kind} {constraints : List (String × Json)}
    {rules : List Rule} (h : StandAll kind constraints rules) :
    rules.any Rule.isPattern = true ↔ "regex" ∈ Assoc.keys constraints := by
  simp only [List.any_eq_true, Rule.isPattern_iff]
  constructor
  · rintro ⟨r, hr, hname⟩
    obtain ⟨e, he, hs⟩ := exists_of_mem_right h hr
    exact List.mem_map.2 ⟨e, he, hs.name_eq.symm.trans hname⟩
  · intro hk
    obtain ⟨e, he, hname⟩ := List.mem_map.1 hk
    obtain ⟨r, hr, hs⟩ := exists_of_mem_left h he
    exact ⟨r, hr, hs.name_eq.trans hname⟩

theorem Field.rules_eq_ok_iff {path : String} {kind : Kind} {constraints : Table String Json}
    {rules : List Rule} :
    Field.rules path kind constraints = .ok rules ↔
      ∃ declared, Rule.StandAll kind constraints.entries declared ∧
        BoundsOrdered constraints.entries ∧
        rules = declared ++
          if NeedsAddress kind constraints.entries then [.pattern addressPattern] else [] := by
  unfold Field.rules
  cases hd : Rule.declaredAll path kind constraints.entries with
  | error e =>
    simp only [reduceCtorEq, false_iff]
    rintro ⟨declared, hs, _⟩
    rw [Rule.declaredAll_eq_ok_iff.2 hs] at hd
    cases hd
  | ok declared =>
    have hs : Rule.StandAll kind constraints.entries declared := Rule.declaredAll_eq_ok_iff.1 hd
    have unique : ∀ other, Rule.StandAll kind constraints.entries other ↔ other = declared := by
      intro other
      have : Rule.declaredAll path kind constraints.entries = .ok other ↔
          Rule.StandAll kind constraints.entries other := Rule.declaredAll_eq_ok_iff
      rw [← this, hd]
      simp [eq_comm]
    have ordered : (Rule.inverted? path .minChars .maxChars declared).or
        (Rule.inverted? path .minSelect .maxSelect declared) = none ↔
          BoundsOrdered constraints.entries := by
      rw [Option.or_eq_none_iff, Rule.inverted?_eq_none_iff constraints.ascending hs,
        Rule.inverted?_eq_none_iff constraints.ascending hs]
      rfl
    have needs : (kind = .email ∧ !declared.any Rule.isPattern) ↔
        NeedsAddress kind constraints.entries := by
      rw [NeedsAddress, ← hs.any_isPattern_iff]
      simp
    simp only [unique, exists_eq_left]
    split
    · rename_i e he
      simp only [reduceCtorEq, false_iff, not_and]
      intro ho
      rw [ordered.2 ho] at he
      cases he
    · rename_i he
      rw [if_congr needs rfl rfl]
      have := ordered.1 he
      split <;> simp [this, eq_comm]

/-- A rule is asked for if its constraint is declared; the pattern of addresses may be without that. -/
theorem Field.mem_rules_iff {path : String} {kind : Kind} {constraints : Table String Json}
    {rules : List Rule} (h : Field.rules path kind constraints = .ok rules) {r : Rule} :
    r ∈ rules ↔ (r.name, r.value) ∈ constraints.entries ∨
      NeedsAddress kind constraints.entries ∧ r = .pattern addressPattern := by
  obtain ⟨declared, hs, _, rfl⟩ := rules_eq_ok_iff.1 h
  rw [List.mem_append, hs.mem_iff]
  split <;> simp_all

theorem Field.exists_rules_iff {path : String} {kind : Kind} {constraints : Table String Json} :
    (∃ rules, Field.rules path kind constraints = .ok rules) ↔
      (∀ e ∈ constraints.entries, ∃ r, Rule.Stands kind e.1 e.2 r) ∧
        BoundsOrdered constraints.entries := by
  simp only [Field.rules_eq_ok_iff]
  constructor
  · rintro ⟨_, declared, hs, ho, _⟩
    refine ⟨fun e he => ?_, ho⟩
    obtain ⟨r, _, hr⟩ := exists_of_mem_left hs he
    exact ⟨r, hr⟩
  · rintro ⟨hs, ho⟩
    obtain ⟨declared, hd⟩ := exists_forall₂ hs
    exact ⟨_, declared, hd, ho, rfl⟩

end SurveyIntake
