import SurveyIntake.Proofs.Rule
import SurveyIntake.Proofs.SurveyKey

/-!
# SurveyIntake.Proofs.Compile

Which configurations compile.

* `Field.induction`         — what holds of a field if it holds of its children holds of every field.
* `Field.Compiled`          — what the item of a field is, its children being left to themselves.
* `Field.compile_eq_ok_iff`, `Field.compileAll_eq_ok_iff` — one step of compiling, for a field and for a list.
* `Field.WellFormed`, `Configuration.WellFormed` — what is asked of a configuration, field by field.
* `Configuration.HasPattern` — the expressions that a configuration asks texts to match.
* `Configuration.compiles_iff_wellFormed` — a configuration compiles just if it is well formed.
-/

namespace SurveyIntake
namespace Field

/-! ## One step -/

theorem induction {P : Field → Prop} (step : ∀ f, (∀ g ∈ f.children, P g) → P f) : ∀ f, P f
  | ⟨kind, title, description, children, constraints⟩ =>
    step _ fun g hg =>
      have : sizeOf g < sizeOf children := List.sizeOf_lt_of_mem hg
      induction step g
termination_by f => sizeOf f

/-- The item of a field at a position below a path. -/
structure Compiled (f : Field) (n : Nat) (parent : Option String) (i : Item) : Prop where
  composite : f.children ≠ [] ↔ f.kind.isComposite = true
  position : i.position = n
  path : i.path = memberPath parent (toString n)
  kind : i.kind = f.kind
  rules : Field.rules i.path f.kind f.constraints = .ok i.rules
  children : Field.compileAll 1 (some i.path) f.children = .ok i.children

theorem compile_eq_ok_iff {position : Nat} {parent : Option String} {f : Field} {i : Item} :
    f.compile position parent = .ok i ↔ f.Compiled position parent i := by
  obtain ⟨kind, title, description, children, constraints⟩ := f
  simp only [Field.compile, List.isEmpty_iff]
  constructor
  · intro h
    split at h
    · cases h
    · rename_i hmissing
      split at h
      · cases h
      · rename_i hunexpected
        split at h
        · cases h
        · rename_i rules hrules
          split at h
          · cases h
          · rename_i items hitems
            cases h
            refine ⟨⟨fun hne => ?_, fun hc he => hmissing ⟨hc, he⟩⟩, rfl, rfl, rfl, hrules, hitems⟩
            cases hc : kind.isComposite with
            | true => rfl
            | false => exact absurd ⟨by simp [hc], by simp [hne]⟩ hunexpected
  · obtain ⟨position', path, kind', rules, items⟩ := i
    rintro ⟨hc, hposition, hpath, hkind, hrules, hitems⟩
    dsimp only at hc hposition hpath hkind hrules hitems
    subst hposition hpath hkind
    have hmissing : ¬(kind'.isComposite = true ∧ children = []) := fun h => hc.2 h.1 h.2
    have hunexpected : ¬((!kind'.isComposite) = true ∧ (!children.isEmpty) = true) := by
      rintro ⟨hk, hne⟩
      have := hc.1 (by simpa using hne)
      simp [this] at hk
    rw [if_neg hmissing, if_neg hunexpected, hrules, hitems]

theorem Compiled.key {position : Nat} {parent : Option String} {f : Field} {i : Item}
    (h : f.Compiled position parent i) : i.key = toString position := by
  rw [Item.key, h.position]

theorem compileAll_eq_ok_iff {position : Nat} {parent : Option String} {fs : List Field}
    {items : List Item} :
    Field.compileAll position parent fs = .ok items ↔
      List.Forall₂ (fun p i => p.1.Compiled p.2 parent i) (fs.zipIdx position) items := by
  induction fs generalizing position items with
  | nil => simp [Field.compileAll, eq_comm]
  | cons f fs ih =>
    simp only [Field.compileAll, List.zipIdx_cons]
    constructor
    · intro h
      split at h
      · cases h
      · rename_i item hitem
        split at h
        · cases h
        · rename_i others hothers
          cases h
          exact .cons (compile_eq_ok_iff.1 hitem) (ih.1 hothers)
    · intro h
      cases h with
      | cons hitem hothers => rw [compile_eq_ok_iff.2 hitem, ih.2 hothers]

/-- Items have the kinds of their fields, and their positions for keys. -/
theorem compileAll_map {position : Nat} {parent : Option String} {fs : List Field}
    {items : List Item} (h : Field.compileAll position parent fs = .ok items) :
    (items.map fun i => (i.kind, i.key)) =
      (fs.zipIdx position).map fun p => (p.1.kind, toString p.2) := by
  have hall := compileAll_eq_ok_iff.1 h
  generalize fs.zipIdx position = numbered at hall
  clear h
  induction hall with
  | nil => rfl
  | cons hitem _ ih => rw [List.map_cons, List.map_cons, ih, hitem.kind, hitem.key]

theorem exists_item_of_getElem? {position n : Nat} {parent : Option String} {fs : List Field}
    {items : List Item} {f : Field} (h : Field.compileAll position parent fs = .ok items)
    (hf : fs[n]? = some f) : ∃ i ∈ items, f.Compiled (position + n) parent i :=
  exists_of_mem_left (compileAll_eq_ok_iff.1 h) (List.mk_add_mem_zipIdx_iff_getElem?.2 hf)

theorem exists_field_of_mem {position : Nat} {parent : Option String} {fs : List Field}
    {items : List Item} {i : Item} (h : Field.compileAll position parent fs = .ok items)
    (hi : i ∈ items) : ∃ n f, fs[n]? = some f ∧ Field.Compiled f (position + n) parent i := by
  obtain ⟨⟨f, k⟩, hp, hf⟩ := exists_of_mem_right (compileAll_eq_ok_iff.1 h) hi
  obtain ⟨hle, hget⟩ := List.mk_mem_zipIdx_iff_le_and_getElem?_sub.1 hp
  refine ⟨k - position, f, hget, ?_⟩
  rwa [Nat.add_sub_cancel' hle]

theorem exists_compileAll_iff {position : Nat} {parent : Option String} {fs : List Field}
    {P : Field → Prop}
    (hP : ∀ f ∈ fs, ∀ position, (∃ i, f.Compiled position parent i) ↔ P f) :
    (∃ items, Field.compileAll position parent fs = .ok items) ↔ ∀ f ∈ fs, P f := by
  constructor
  · rintro ⟨items, h⟩ f hf
    obtain ⟨n, hn⟩ := List.getElem?_of_mem hf
    obtain ⟨i, _, hi⟩ := exists_item_of_getElem? h hn
    exact (hP f hf _).1 ⟨i, hi⟩
  · intro h
    simp only [compileAll_eq_ok_iff]
    refine exists_forall₂ fun p hp => ?_
    have hf : p.1 ∈ fs := List.fst_mem_of_mem_zipIdx hp
    exact (hP p.1 hf p.2).2 (h p.1 hf)

/-! ## Well-formed fields -/

/-- A field of a tree of fields, at any depth. -/
inductive Within : Field → Field → Prop where
  | self (f : Field) : Within f f
  | inner {f g h : Field} : g ∈ f.children → Within h g → Within h f

/-- The field has a constraint of the name, with the value. -/
def Declares (f : Field) (name : String) (value : Json) : Prop :=
  (name, value) ∈ f.constraints.entries

/-- What is asked of a field, apart from its children. -/
structure WellFormed (f : Field) : Prop where
  children : f.children ≠ [] ↔ f.kind = .selection ∨ f.kind = .properties
  constraints : ∀ name value, f.Declares name value → ∃ r, Rule.Stands f.kind name value r
  bounds : BoundsOrdered f.constraints.entries

theorem within_iff {f g : Field} : Within g f ↔ g = f ∨ ∃ h ∈ f.children, Within g h := by
  constructor
  · intro h
    cases h with
    | self => exact .inl rfl
    | inner hc hw => exact .inr ⟨_, hc, hw⟩
  · rintro (rfl | ⟨h, hc, hw⟩)
    · exact .self _
    · exact .inner hc hw

theorem wellFormed_iff {path : String} {f : Field} :
    f.WellFormed ↔ (f.children ≠ [] ↔ f.kind.isComposite = true) ∧
      ∃ rules, Field.rules path f.kind f.constraints = .ok rules := by
  have composite : f.kind.isComposite = true ↔ f.kind = .selection ∨ f.kind = .properties := by
    cases f.kind <;> simp [Kind.isComposite]
  rw [exists_rules_iff, composite]
  constructor
  · intro h
    exact ⟨h.children, fun e he => h.constraints e.1 e.2 he, h.bounds⟩
  · rintro ⟨hc, hs, hb⟩
    exact ⟨hc, fun name value he => hs (name, value) he, hb⟩

/-- Where a field stands makes no difference to whether it compiles. -/
theorem exists_compiled_iff {position : Nat} {parent : Option String} {f : Field} :
    (∃ i, f.Compiled position parent i) ↔ ∀ g, Within g f → g.WellFormed := by
  induction f using Field.induction generalizing position parent with
  | step f ih =>
    have children : ∀ path : String, (∃ items, Field.compileAll 1 (some path) f.children = .ok items) ↔
        ∀ g ∈ f.children, ∀ h, Within h g → h.WellFormed :=
      fun path => exists_compileAll_iff fun g hg _ => ih g hg
    constructor
    · rintro ⟨i, hi⟩ g hg
      rcases within_iff.1 hg with rfl | ⟨child, hchild, hw⟩
      · exact wellFormed_iff.2 ⟨hi.composite, i.rules, hi.rules⟩
      · exact (children i.path).1 ⟨i.children, hi.children⟩ child hchild g hw
    · intro h
      obtain ⟨hc, rules, hrules⟩ := wellFormed_iff.1 (h f (.self f))
      obtain ⟨items, hitems⟩ := (children _).2 fun g hg k hk => h k (.inner hg hk)
      exact ⟨⟨position, _, f.kind, rules, items⟩, hc, rfl, rfl, rfl, hrules, hitems⟩

end Field

namespace Configuration

/-- A field of the configuration, at the top or at any depth below. -/
def HasField (c : Configuration) (f : Field) : Prop := ∃ g ∈ c.fields, f.Within g

/-- The source of the pattern of identities. -/
def identitySource (c : Configuration) : String := c.identityPattern.getD addressSource

structure WellFormed (c : Configuration) : Prop where
  adminName : IsName c.adminName
  surveyName : IsName c.surveyName
  identity : ∃ p, Pattern.ofSource? c.identitySource = some p
  fields : ∀ f, c.HasField f → f.WellFormed

theorem identity_eq_ok_iff {c : Configuration} {p : Pattern} :
    c.identity = .ok p ↔ Pattern.ofSource? c.identitySource = some p := by
  unfold identity identitySource
  cases c.identityPattern with
  | none => simp [Pattern.ofSource?_eq_some_iff.2 Pattern.source_addressPattern]
  | some source => cases hp : Pattern.ofSource? source <;> simp [hp]

theorem compile_eq_ok_iff {c : Configuration} {form : Form} :
    c.compile = .ok form ↔ c.key = .ok form.key ∧ c.identity = .ok form.identity ∧
      Field.compileAll 1 none c.fields = .ok form.items := by
  unfold compile
  constructor
  · intro h
    split at h
    · cases h
    · rename_i key hkey
      split at h
      · cases h
      · rename_i identity hidentity
        split at h
        · cases h
        · rename_i items hitems
          cases h
          exact ⟨hkey, hidentity, hitems⟩
  · rintro ⟨hkey, hidentity, hitems⟩
    rw [hkey, hidentity, hitems]

/-- A source that the configuration has a pattern of. -/
def HasPattern (c : Configuration) (source : String) : Prop :=
  c.identityPattern = some source ∨ ∃ f, c.HasField f ∧ f.Declares "regex" (.string source)

theorem field_wellFormed_of_compile {c : Configuration} {form : Form} (h : c.compile = .ok form) {f : Field}
    (hf : c.HasField f) : f.WellFormed := by
  obtain ⟨g, hg, hwithin⟩ := hf
  have hitems := (compile_eq_ok_iff.1 h).2.2
  exact (Field.exists_compileAll_iff fun _ _ _ => Field.exists_compiled_iff).1 ⟨_, hitems⟩ g hg f hwithin

/-- The patterns of a configuration that compiles are made of their sources. -/
theorem exists_pattern_of_compile {c : Configuration} {form : Form} {source : String}
    (h : c.compile = .ok form) (hsource : c.HasPattern source) : ∃ p, Pattern.ofSource? source = some p := by
  rcases hsource with hsource | ⟨f, hf, hdeclares⟩
  · refine ⟨form.identity, ?_⟩
    have hp := identity_eq_ok_iff.1 (compile_eq_ok_iff.1 h).2.1
    rwa [identitySource, hsource] at hp
  · obtain ⟨r, hr⟩ := (field_wellFormed_of_compile h hf).constraints _ _ hdeclares
    generalize "regex" = name at hr
    generalize hvalue : Json.string source = value at hr
    cases hr with
    | pattern _ hp =>
      cases hvalue
      exact ⟨_, hp⟩
    | minChars | maxChars | minSelect | maxSelect => cases hvalue

/-- A configuration compiles just if it is well formed, at every field. -/
theorem compiles_iff_wellFormed {c : Configuration} : (∃ form, c.compile = .ok form) ↔ c.WellFormed := by
  constructor
  · rintro ⟨form, h⟩
    obtain ⟨hkey, hidentity, _⟩ := compile_eq_ok_iff.1 h
    obtain ⟨hadmin, hsurvey⟩ := SurveyKey.exists_make_iff.1 ⟨_, hkey⟩
    exact ⟨hadmin, hsurvey, ⟨_, identity_eq_ok_iff.1 hidentity⟩, fun f => field_wellFormed_of_compile h⟩
  · rintro ⟨hadmin, hsurvey, ⟨identity, hidentity⟩, hfields⟩
    obtain ⟨key, hkey⟩ := SurveyKey.exists_make_iff.2 ⟨hadmin, hsurvey⟩
    have fields : ∀ g ∈ c.fields, ∀ f, Field.Within f g → f.WellFormed :=
      fun g hg f hw => hfields f ⟨g, hg, hw⟩
    obtain ⟨items, hitems⟩ :=
      (Field.exists_compileAll_iff fun _ _ _ => Field.exists_compiled_iff).2 fields
    exact ⟨⟨key, identity, items⟩,
      compile_eq_ok_iff.2 ⟨hkey, identity_eq_ok_iff.2 hidentity, hitems⟩⟩

end Configuration
end SurveyIntake
