import SurveyIntake.Proofs.ByteOrder
import SurveyIntake.Proofs.Compile

/-!
# SurveyIntake.Proofs.FieldFault

What is wrong first with a single field, leaving its children to themselves.

* `Rule.Refused`          — the error of a constraint that a field may not have, or not with its value.
* `Rule.declaredAll_eq_error_iff` — of several constraints, the error is that of the first that is refused.
* `Field.ConstraintFault` — a constraint that is refused, or bounds that are the wrong way round.
* `Field.FirstFault`      — children that are missing or not expected, else a fault of its constraints.
* `Field.exists_firstFault_iff` — a field has one just if it is not well formed.
* `Field.compile_eq_error_iff` — a field does not compile because of its first fault, or of its children.
-/

namespace SurveyIntake

/-! ## Constraints -/

/-- The constraint cannot have the value. Bounds are integers of 64 bits without a sign, and a regular
expression is a text that is a pattern. -/
inductive Constraint.Refuses : Constraint → Json → ValueFault → Prop where
  | bound {c : Constraint} {value : Json} : c ≠ .regex → (∀ n, n < UInt64.size → value ≠ .nat n) →
      Refuses c value (.noBound value)
  | text {value : Json} : (∀ source, value ≠ .string source) → Refuses .regex value (.noText value)
  | pattern {source : String} : Pattern.ofSource? source = none →
      Refuses .regex (.string source) .noPattern

namespace Rule

/-- The error of a constraint of a name that fields of the kind do not have, or with a value that it cannot
have. -/
inductive Refused (path : String) (kind : Kind) (name : String) (value : Json) :
    ConfigurationError → Prop where
  | unknown : (∀ c : Constraint, c.name = name → c.appliesTo kind = false) →
      Refused path kind name value (.unknownConstraint path name kind)
  | invalid {c : Constraint} {fault : ValueFault} : c.name = name → c.appliesTo kind = true →
      c.Refuses value fault → Refused path kind name value (.invalidConstraint path name fault)

theorem bound?_eq_none_iff {value : Json} :
    bound? value = none ↔ ∀ n, n < UInt64.size → value ≠ .nat n := by
  rw [Option.eq_none_iff_forall_ne_some]
  exact forall_congr' fun n => (not_congr bound?_eq_some_iff).trans not_and

theorem ofBound_eq_error_iff {rule : Nat → Rule} {value : Json} {fault : ValueFault} :
    ofBound rule value = .error fault ↔
      (∀ n, n < UInt64.size → value ≠ .nat n) ∧ fault = .noBound value := by
  rw [← bound?_eq_none_iff]
  unfold ofBound
  cases bound? value with
  | none => simp [eq_comm]
  | some n => simp

theorem ofSource_eq_error_iff {value : Json} {fault : ValueFault} :
    ofSource value = .error fault ↔ Constraint.regex.Refuses value fault := by
  unfold ofSource
  constructor
  · intro h
    split at h
    · rename_i source
      split at h
      · cases h
      · rename_i hnone
        cases h
        exact .pattern hnone
    · rename_i hnot
      cases h
      exact .text fun source hs => hnot source hs
  · intro h
    cases h with
    | bound hne => exact absurd rfl hne
    | text hnot =>
      split
      · rename_i source
        exact absurd rfl (hnot source)
      · rfl
    | pattern hnone => simp only [hnone]

theorem ofValue_eq_error_iff {c : Constraint} {value : Json} {fault : ValueFault} :
    ofValue c value = .error fault ↔ c.Refuses value fault := by
  cases c with
  | regex => exact ofSource_eq_error_iff
  | _ =>
    simp only [ofValue, ofBound_eq_error_iff]
    constructor
    · rintro ⟨hnot, rfl⟩
      exact .bound (by simp) hnot
    · intro h
      cases h with
      | bound _ hnot => exact ⟨hnot, rfl⟩

theorem declared_eq_error_iff {path : String} {kind : Kind} {name : String} {value : Json}
    {e : ConfigurationError} :
    declared path kind name value = .error e ↔ Refused path kind name value e := by
  unfold declared
  cases hc : (Constraint.ofName? name).filter (fun c => c.appliesTo kind) with
  | none =>
    have hunknown : ∀ c : Constraint, c.name = name → c.appliesTo kind = false := by
      intro c hname
      rw [ofName?_eq_some_iff.2 hname] at hc
      simpa using hc
    constructor
    · intro h
      cases h
      exact .unknown hunknown
    · intro h
      cases h with
      | unknown => rfl
      | invalid hname happlies => simp [hunknown _ hname] at happlies
  | some c =>
    obtain ⟨hname, happlies⟩ := Option.filter_eq_some_iff.1 hc
    rw [ofName?_eq_some_iff] at hname
    subst hname
    constructor
    · intro h
      simp only at h
      split at h
      · rename_i fault hfault
        cases h
        exact .invalid rfl happlies (ofValue_eq_error_iff.1 hfault)
      · cases h
    · intro h
      cases h with
      | unknown hnot => simp [hnot c rfl] at happlies
      | invalid hname _ hrefuses =>
        rw [ofName?_eq_some_iff.2 hname] at hc
        cases (Option.filter_eq_some_iff.1 hc).1
        simp only [ofValue_eq_error_iff.2 hrefuses]

theorem declaredAll_cons_eq_error_iff {path : String} {kind : Kind} {name : String} {value : Json}
    {rest : List (String × Json)} {e : ConfigurationError} :
    declaredAll path kind ((name, value) :: rest) = .error e ↔
      Refused path kind name value e ∨
        (∃ r, Stands kind name value r) ∧ declaredAll path kind rest = .error e := by
  simp only [declaredAll, ← declared_eq_error_iff, ← @declared_eq_ok_iff path]
  cases declared path kind name value with
  | error first => simp
  | ok r => cases declaredAll path kind rest <;> simp

/-- The error is that of the first constraint that is refused, in the order of the bytes of their names. -/
theorem declaredAll_eq_error_iff {path : String} {kind : Kind} {constraints : List (String × Json)}
    (hc : Assoc.Ascending constraints) {e : ConfigurationError} :
    declaredAll path kind constraints = .error e ↔
      ∃ name value, (name, value) ∈ constraints ∧
        (∀ c ∈ constraints, utf8Bytes c.1 < utf8Bytes name → ∃ r, Stands kind c.1 c.2 r) ∧
        Refused path kind name value e := by
  induction constraints with
  | nil => simp [declaredAll]
  | cons c rest ih =>
    obtain ⟨name, value⟩ := c
    obtain ⟨hfirst, hrest⟩ := List.pairwise_cons.1 hc
    have hbefore : ∀ c ∈ rest, utf8Bytes name < utf8Bytes c.1 := fun c hmem =>
      utf8Bytes_lt_of_lt (hfirst _ (List.mem_map.2 ⟨c, hmem, rfl⟩))
    rw [declaredAll_cons_eq_error_iff, ih hrest]
    constructor
    · rintro (hrefused | ⟨hstands, other, v, hmem, hstand, hrefused⟩)
      · refine ⟨name, value, List.mem_cons_self, fun c hmem hlt => ?_, hrefused⟩
        rcases List.mem_cons.1 hmem with rfl | hmem
        · exact absurd hlt (List.lt_irrefl _)
        · exact absurd hlt (List.lt_asymm (hbefore c hmem))
      · refine ⟨other, v, List.mem_cons_of_mem _ hmem, fun c hc' hlt => ?_, hrefused⟩
        rcases List.mem_cons.1 hc' with rfl | hc'
        · exact hstands
        · exact hstand c hc' hlt
    · rintro ⟨other, v, hmem, hstand, hrefused⟩
      rcases List.mem_cons.1 hmem with heq | hmem
      · cases heq
        exact .inl hrefused
      · refine .inr ⟨hstand (name, value) List.mem_cons_self (hbefore _ hmem), other, v, hmem, ?_, hrefused⟩
        exact fun c hc' => hstand c (List.mem_cons_of_mem _ hc')

/-- A least value above the greatest one is reported with both. -/
theorem inverted?_eq_some_iff {path : String} {kind : Kind} {constraints : List (String × Json)}
    {rules : List Rule} (hc : Assoc.Ascending constraints) (h : StandAll kind constraints rules)
    {min max : Constraint} {e : ConfigurationError} :
    inverted? path min max rules = some e ↔
      ∃ least most, (min.name, Json.nat least) ∈ constraints ∧ (max.name, Json.nat most) ∈ constraints ∧
        most < least ∧ e = .invertedBounds path min max least most := by
  simp only [← findSome?_boundOf?_eq_some_iff hc h]
  unfold inverted?
  constructor
  · intro hi
    split at hi
    · rename_i least most hmin hmax
      split at hi
      · rename_i hlt
        cases hi
        exact ⟨least, most, hmin, hmax, hlt, rfl⟩
      · cases hi
    · cases hi
  · rintro ⟨least, most, hmin, hmax, hlt, rfl⟩
    simp only [hmin, hmax, if_pos hlt]

end Rule

namespace Field

/-! ## Fields -/

/-- Fields of a composite kind have children, and no others have. -/
def ChildrenFit (f : Field) : Prop := f.children ≠ [] ↔ f.kind = .selection ∨ f.kind = .properties

/-- Each constraint is one that the field may have, with a value that it can have. -/
def AllStand (f : Field) : Prop := ∀ name value, f.Declares name value → ∃ r, Rule.Stands f.kind name value r

/-- What is wrong with the constraints of a field at a path: the first that is refused, in the order of the
bytes of their names, else its numbers of characters, else its numbers of selections. -/
inductive ConstraintFault (f : Field) (path : String) : ConfigurationError → Prop where
  | refused {name : String} {value : Json} {e : ConfigurationError} : f.Declares name value →
      (∀ other v, f.Declares other v → utf8Bytes other < utf8Bytes name →
        ∃ r, Rule.Stands f.kind other v r) →
      Rule.Refused path f.kind name value e → ConstraintFault f path e
  | characters {least most : Nat} : f.AllStand → f.Declares "min_chars" (.nat least) →
      f.Declares "max_chars" (.nat most) → most < least →
      ConstraintFault f path (.invertedBounds path .minChars .maxChars least most)
  | selections {least most : Nat} : f.AllStand →
      (∀ least most, f.Declares "min_chars" (.nat least) → f.Declares "max_chars" (.nat most) →
        least ≤ most) →
      f.Declares "min_select" (.nat least) → f.Declares "max_select" (.nat most) → most < least →
      ConstraintFault f path (.invertedBounds path .minSelect .maxSelect least most)

/-- What is wrong first with a field at a path, its children being left to themselves: that it has none or
that it has some, else what is wrong with its constraints. -/
inductive FirstFault (f : Field) (path : String) : ConfigurationError → Prop where
  | missing : f.kind = .selection ∨ f.kind = .properties → f.children = [] →
      FirstFault f path (.missingChildren path f.kind)
  | unexpected : ¬(f.kind = .selection ∨ f.kind = .properties) → f.children ≠ [] →
      FirstFault f path (.unexpectedChildren path f.kind)
  | constraints {e : ConfigurationError} : f.ChildrenFit → f.ConstraintFault path e → FirstFault f path e

theorem exists_declaredAll_iff {path : String} {f : Field} :
    (∃ rules, Rule.declaredAll path f.kind f.constraints.entries = .ok rules) ↔ f.AllStand := by
  simp only [Rule.declaredAll_eq_ok_iff]
  constructor
  · rintro ⟨rules, hstand⟩ name value hd
    obtain ⟨r, _, hr⟩ := exists_of_mem_left hstand hd
    exact ⟨r, hr⟩
  · intro h
    exact exists_forall₂ fun c hc => h c.1 c.2 hc

theorem rules_eq_error_of_declaredAll {f : Field} {path : String} {declared : List Rule}
    {e : ConfigurationError} (h : Rule.declaredAll path f.kind f.constraints.entries = .ok declared) :
    Field.rules path f.kind f.constraints = .error e ↔
      (Rule.inverted? path .minChars .maxChars declared).or
        (Rule.inverted? path .minSelect .maxSelect declared) = some e := by
  simp only [Field.rules, h]
  cases (Rule.inverted? path .minChars .maxChars declared).or
      (Rule.inverted? path .minSelect .maxSelect declared) with
  | none =>
    dsimp only
    split <;> simp
  | some first => simp

/-- Where a constraint is refused, the fault is that of the first one. -/
theorem constraintFault_iff_of_not_allStand {f : Field} {path : String} {e : ConfigurationError}
    (h : ¬f.AllStand) :
    f.ConstraintFault path e ↔ ∃ name value, (name, value) ∈ f.constraints.entries ∧
      (∀ c ∈ f.constraints.entries, utf8Bytes c.1 < utf8Bytes name → ∃ r, Rule.Stands f.kind c.1 c.2 r) ∧
      Rule.Refused path f.kind name value e := by
  constructor
  · intro hfault
    cases hfault with
    | refused hdeclares hstand hrefused => exact ⟨_, _, hdeclares, fun c hc => hstand c.1 c.2 hc, hrefused⟩
    | characters hall | selections hall => exact absurd hall h
  · rintro ⟨name, value, hdeclares, hstand, hrefused⟩
    exact .refused hdeclares (fun other v hother => hstand (other, v) hother) hrefused

/-- Where none is, it is that of bounds the wrong way round, those of characters coming first. -/
theorem constraintFault_iff_of_allStand {f : Field} {path : String} {e : ConfigurationError}
    {declared : List Rule} (h : f.AllStand) (hd : Rule.StandAll f.kind f.constraints.entries declared) :
    f.ConstraintFault path e ↔ (Rule.inverted? path .minChars .maxChars declared).or
      (Rule.inverted? path .minSelect .maxSelect declared) = some e := by
  rw [Option.or_eq_some_iff, Rule.inverted?_eq_some_iff f.constraints.ascending hd,
    Rule.inverted?_eq_none_iff f.constraints.ascending hd,
    Rule.inverted?_eq_some_iff f.constraints.ascending hd]
  constructor
  · intro hfault
    cases hfault with
    | refused hdeclares _ hrefused =>
      obtain ⟨r, hr⟩ := h _ _ hdeclares
      rw [← Rule.declared_eq_error_iff, Rule.declared_eq_ok_iff.2 hr] at hrefused
      cases hrefused
    | characters _ hmin hmax hlt => exact .inl ⟨_, _, hmin, hmax, hlt, rfl⟩
    | selections _ hordered hmin hmax hlt => exact .inr ⟨hordered, _, _, hmin, hmax, hlt, rfl⟩
  · rintro (⟨least, most, hmin, hmax, hlt, rfl⟩ | ⟨hordered, least, most, hmin, hmax, hlt, rfl⟩)
    · exact .characters h hmin hmax hlt
    · exact .selections h hordered hmin hmax hlt

theorem rules_eq_error_iff {f : Field} {path : String} {e : ConfigurationError} :
    Field.rules path f.kind f.constraints = .error e ↔ f.ConstraintFault path e := by
  have hall : (∃ rules, Rule.declaredAll path f.kind f.constraints.entries = .ok rules) ↔ f.AllStand :=
    exists_declaredAll_iff
  cases hd : Rule.declaredAll path f.kind f.constraints.entries with
  | error first =>
    have hnot : ¬f.AllStand := by
      rw [← hall, hd]
      simp
    have hrules : Field.rules path f.kind f.constraints = .error first := by simp only [Field.rules, hd]
    rw [hrules, ← hd, constraintFault_iff_of_not_allStand hnot]
    exact Rule.declaredAll_eq_error_iff f.constraints.ascending
  | ok declared =>
    rw [rules_eq_error_of_declaredAll hd,
      constraintFault_iff_of_allStand (hall.1 ⟨declared, hd⟩) (Rule.declaredAll_eq_ok_iff.1 hd)]

theorem isComposite_iff {kind : Kind} : kind.isComposite = true ↔ kind = .selection ∨ kind = .properties := by
  cases kind <;> simp [Kind.isComposite]

theorem compile_eq_error_iff_of_fits {position : Nat} {parent : Option String} {path : String}
    {f : Field} {e : ConfigurationError} (hpath : memberPath parent (toString position) = path)
    (h : f.ChildrenFit) :
    f.compile position parent = .error e ↔ Field.rules path f.kind f.constraints = .error e ∨
      (∃ rules, Field.rules path f.kind f.constraints = .ok rules) ∧
        Field.compileAll 1 (some path) f.children = .error e := by
  obtain ⟨kind, title, description, children, constraints⟩ := f
  rw [ChildrenFit, ← isComposite_iff] at h
  have hmissing : ¬(kind.isComposite = true ∧ children.isEmpty = true) := by
    rintro ⟨hc, he⟩
    exact h.2 hc (List.isEmpty_iff.1 he)
  have hunexpected : ¬((!kind.isComposite) = true ∧ (!children.isEmpty) = true) := by
    rintro ⟨hc, hne⟩
    have := h.1 (by simpa using hne)
    simp [this] at hc
  simp only [Field.compile, hpath, if_neg hmissing, if_neg hunexpected]
  cases Field.rules path kind constraints with
  | error first => simp
  | ok rules => cases Field.compileAll 1 (some path) children <;> simp

theorem compile_of_missing {position : Nat} {parent : Option String} {path : String} {f : Field}
    (hpath : memberPath parent (toString position) = path)
    (hc : f.kind = .selection ∨ f.kind = .properties) (hnone : f.children = []) :
    f.compile position parent = .error (.missingChildren path f.kind) := by
  obtain ⟨kind, title, description, children, constraints⟩ := f
  dsimp only at hc hnone
  subst hnone
  simp only [Field.compile, hpath]
  rw [if_pos ⟨isComposite_iff.2 hc, rfl⟩]

theorem compile_of_unexpected {position : Nat} {parent : Option String} {path : String} {f : Field}
    (hpath : memberPath parent (toString position) = path)
    (hc : ¬(f.kind = .selection ∨ f.kind = .properties)) (hsome : f.children ≠ []) :
    f.compile position parent = .error (.unexpectedChildren path f.kind) := by
  obtain ⟨kind, title, description, children, constraints⟩ := f
  have hplain : ¬kind.isComposite = true := fun h => hc (isComposite_iff.1 h)
  simp only [Field.compile, hpath]
  rw [if_neg fun h => hplain h.1, if_pos ⟨by simpa using hplain, by simpa using hsome⟩]

theorem firstFault_iff_of_fits {f : Field} {path : String} {e : ConfigurationError} (h : f.ChildrenFit) :
    f.FirstFault path e ↔ Field.rules path f.kind f.constraints = .error e := by
  rw [rules_eq_error_iff]
  refine ⟨fun hfault => ?_, .constraints h⟩
  cases hfault with
  | missing hc hnone => exact absurd hnone (h.2 hc)
  | unexpected hc hsome => exact absurd (h.1 hsome) hc
  | constraints _ hfault => exact hfault

theorem firstFault_iff_of_missing {f : Field} {path : String} {e : ConfigurationError}
    (hc : f.kind = .selection ∨ f.kind = .properties) (hnone : f.children = []) :
    f.FirstFault path e ↔ e = .missingChildren path f.kind := by
  refine ⟨fun hfault => ?_, ?_⟩
  · cases hfault with
    | missing => rfl
    | unexpected hplain => exact absurd hc hplain
    | constraints hfits => exact absurd hnone (hfits.2 hc)
  · rintro rfl
    exact .missing hc hnone

theorem firstFault_iff_of_unexpected {f : Field} {path : String} {e : ConfigurationError}
    (hc : ¬(f.kind = .selection ∨ f.kind = .properties)) (hsome : f.children ≠ []) :
    f.FirstFault path e ↔ e = .unexpectedChildren path f.kind := by
  refine ⟨fun hfault => ?_, ?_⟩
  · cases hfault with
    | missing hcomposite => exact absurd hcomposite hc
    | unexpected => rfl
    | constraints hfits => exact absurd (hfits.1 hsome) hc
  · rintro rfl
    exact .unexpected hc hsome

theorem wellFormed_iff_fits (path : String) {f : Field} :
    f.WellFormed ↔ f.ChildrenFit ∧ ∃ rules, Field.rules path f.kind f.constraints = .ok rules := by
  rw [@wellFormed_iff path f, isComposite_iff]
  rfl

/-- A field has the children that its kind asks for, or has none, or has some that it should not have. -/
theorem fits_or_misfits (f : Field) :
    f.ChildrenFit ∨ (f.kind = .selection ∨ f.kind = .properties) ∧ f.children = [] ∨
      ¬(f.kind = .selection ∨ f.kind = .properties) ∧ f.children ≠ [] := by
  by_cases hc : f.kind = .selection ∨ f.kind = .properties
  · by_cases hnone : f.children = []
    · exact .inr (.inl ⟨hc, hnone⟩)
    · exact .inl (iff_of_true hnone hc)
  · by_cases hnone : f.children = []
    · exact .inl (iff_of_false (not_not.2 hnone) hc)
    · exact .inr (.inr ⟨hc, hnone⟩)

/-- Something is wrong with a field just if it is not well formed. -/
theorem exists_firstFault_iff {f : Field} {path : String} :
    (∃ e, f.FirstFault path e) ↔ ¬f.WellFormed := by
  rcases fits_or_misfits f with hfits | ⟨hc, hnone⟩ | ⟨hc, hsome⟩
  · simp only [firstFault_iff_of_fits hfits, wellFormed_iff_fits path, hfits, true_and]
    cases Field.rules path f.kind f.constraints <;> simp
  · simp only [firstFault_iff_of_missing hc hnone, exists_eq, true_iff]
    exact fun h => h.children.2 hc hnone
  · simp only [firstFault_iff_of_unexpected hc hsome, exists_eq, true_iff]
    exact fun h => hc (h.children.1 hsome)

/-- A field does not compile if something is wrong with it, or else if its children do not. -/
theorem compile_eq_error_iff {position : Nat} {parent : Option String} {f : Field}
    {e : ConfigurationError} :
    f.compile position parent = .error e ↔
      f.FirstFault (memberPath parent (toString position)) e ∨ f.WellFormed ∧
        Field.compileAll 1 (some (memberPath parent (toString position))) f.children = .error e := by
  generalize hpath : memberPath parent (toString position) = path
  rcases fits_or_misfits f with hfits | ⟨hc, hnone⟩ | ⟨hc, hsome⟩
  · rw [compile_eq_error_iff_of_fits hpath hfits, firstFault_iff_of_fits hfits, wellFormed_iff_fits path]
    simp only [hfits, true_and]
  · have hnot : ¬f.WellFormed := fun h => h.children.2 hc hnone
    rw [compile_of_missing hpath hc hnone, firstFault_iff_of_missing hc hnone]
    simp [hnot, eq_comm]
  · have hnot : ¬f.WellFormed := fun h => hc (h.children.1 hsome)
    rw [compile_of_unexpected hpath hc hsome, firstFault_iff_of_unexpected hc hsome]
    simp [hnot, eq_comm]

end Field
end SurveyIntake
