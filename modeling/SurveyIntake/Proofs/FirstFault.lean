import SurveyIntake.Proofs.FieldFault
import SurveyIntake.Proofs.Mirror

/-!
# SurveyIntake.Proofs.FirstFault

Which of the faults of a configuration its error is about.

* `Field.Offends`            — the first of some fields with a fault, parents before children, and its first fault.
* `Field.compileAll_eq_error_iff_offends` — fields do not compile just if one of them, or one below, has a fault.
* `Configuration.FirstFault` — the first fault of a configuration: key, pattern of identities, fields.
* `Configuration.error_is_firstFault` — the error of a configuration is its first fault.
-/

namespace SurveyIntake
namespace Field

/-! ## One step -/

theorem compileAll_cons_eq_error_iff {position : Nat} {parent : Option String} {f : Field} {fs : List Field}
    {e : ConfigurationError} :
    Field.compileAll position parent (f :: fs) = .error e ↔
      f.compile position parent = .error e ∨
        (∃ i, f.Compiled position parent i) ∧ Field.compileAll (position + 1) parent fs = .error e := by
  simp only [Field.compileAll, ← compile_eq_ok_iff]
  cases f.compile position parent with
  | error first => simp
  | ok i => cases Field.compileAll (position + 1) parent fs <;> simp

theorem compileAll_eq_error_iff {position : Nat} {parent : Option String} {fs : List Field}
    {e : ConfigurationError} :
    Field.compileAll position parent fs = .error e ↔
      ∃ (k : Nat) (f : Field), fs[k]? = some f ∧ f.compile (position + k) parent = .error e ∧
        ∀ j g, j < k → fs[j]? = some g → ∃ i, Field.Compiled g (position + j) parent i := by
  induction fs generalizing position with
  | nil => simp [Field.compileAll]
  | cons f fs ih =>
    rw [compileAll_cons_eq_error_iff, ih]
    constructor
    · rintro (herror | ⟨hitem, k, g, hg, herror, hbefore⟩)
      · exact ⟨0, f, rfl, herror, fun j g hj => absurd hj (Nat.not_lt_zero j)⟩
      · refine ⟨k + 1, g, hg, by rwa [Nat.add_right_comm] at herror, fun j h hj hh => ?_⟩
        cases j with
        | zero =>
          cases hh
          exact hitem
        | succ j =>
          have := hbefore j h (Nat.lt_of_succ_lt_succ hj) hh
          rwa [Nat.add_right_comm] at this
    · rintro ⟨k, g, hg, herror, hbefore⟩
      cases k with
      | zero =>
        cases hg
        exact .inl herror
      | succ k =>
        refine .inr ⟨hbefore 0 f (Nat.succ_pos k) rfl, k, g, hg, ?_, fun j h hj hh => ?_⟩
        · rwa [Nat.add_right_comm]
        · have := hbefore (j + 1) h (Nat.succ_lt_succ hj) hh
          rwa [Nat.add_right_comm]

/-! ## The first field with a fault -/

/-- Below fields at a route there is one that gives rise to the error by itself, and nothing is wrong with
any that comes before it. -/
def Offends (init : Route) (fs : List Field) (e : ConfigurationError) : Prop :=
  ∃ route g, follow Field.children fs route = some g ∧ g.FirstFault (Route.text (init ++ route)) e ∧
    ∀ other h, Route.Before other route → follow Field.children fs other = some h → h.WellFormed

/-- The same of a field at a route and those below it. -/
def OffendsAt (init : Route) (f : Field) (e : ConfigurationError) : Prop :=
  ∃ route g, descend Field.children f route = some g ∧ g.FirstFault (Route.text (init ++ route)) e ∧
    ∀ other h, Route.Before other route → descend Field.children f other = some h → h.WellFormed

theorem mem_of_standing? {fs : List Field} {n : Nat} {f : Field} (h : standing? fs n = some f) : f ∈ fs := by
  cases n with
  | zero => cases h
  | succ k => exact List.mem_of_getElem? h

theorem within_iff_descend {f g : Field} : Within g f ↔ ∃ route, descend Field.children f route = some g := by
  constructor
  · intro h
    induction h with
    | self f => exact ⟨[], rfl⟩
    | inner hchild _ ih =>
      obtain ⟨route, hroute⟩ := ih
      obtain ⟨k, hk⟩ := List.getElem?_of_mem hchild
      refine ⟨(k + 1) :: route, ?_⟩
      rw [descend, standing?, hk]
      exact hroute
  · rintro ⟨route, hroute⟩
    induction route generalizing f with
    | nil =>
      cases hroute
      exact .self _
    | cons n route ih =>
      obtain ⟨child, hchild, hbelow⟩ := Option.bind_eq_some_iff.1 hroute
      exact .inner (mem_of_standing? hchild) (ih hbelow)

theorem offendsAt_iff {init : Route} {f : Field} {e : ConfigurationError} :
    OffendsAt init f e ↔
      f.FirstFault init.text e ∨ f.WellFormed ∧ Offends init f.children e := by
  constructor
  · rintro ⟨route, g, hg, hfault, hbefore⟩
    cases route with
    | nil =>
      cases hg
      rw [List.append_nil] at hfault
      exact .inl hfault
    | cons n route =>
      refine .inr ⟨hbefore [] f .ancestor rfl, n :: route, g, hg, hfault, fun other h hother hh => ?_⟩
      cases other with
      | nil => cases hh
      | cons m other => exact hbefore _ h hother hh
  · rintro (hfault | ⟨hwell, route, g, hg, hfault, hbefore⟩)
    · refine ⟨[], f, rfl, by rwa [List.append_nil], fun other h hother => ?_⟩
      cases hother
    · cases route with
      | nil => cases hg
      | cons n route =>
        refine ⟨n :: route, g, hg, hfault, fun other h hother hh => ?_⟩
        cases other with
        | nil =>
          cases hh
          exact hwell
        | cons m other => exact hbefore _ h hother hh

theorem offends_iff {init : Route} {fs : List Field} {e : ConfigurationError} :
    Offends init fs e ↔
      ∃ (k : Nat) (f : Field), fs[k]? = some f ∧ OffendsAt (init ++ [k + 1]) f e ∧
        ∀ j g, j < k → fs[j]? = some g → ∀ h, Within h g → h.WellFormed := by
  constructor
  · rintro ⟨route, g, hg, hfault, hbefore⟩
    cases route with
    | nil => cases hg
    | cons n route =>
      obtain ⟨f, hf, hbelow⟩ := Option.bind_eq_some_iff.1 hg
      cases n with
      | zero => cases hf
      | succ k =>
        refine ⟨k, f, hf, ⟨route, g, hbelow, by rwa [List.append_assoc], fun other h hother hh => ?_⟩,
          fun j other hj hother h hwithin => ?_⟩
        · refine hbefore ((k + 1) :: other) h (.deeper hother) ?_
          exact Option.bind_eq_some_iff.2 ⟨f, hf, hh⟩
        · obtain ⟨rest, hrest⟩ := within_iff_descend.1 hwithin
          refine hbefore ((j + 1) :: rest) h (.sibling (Nat.succ_lt_succ hj)) ?_
          exact Option.bind_eq_some_iff.2 ⟨other, hother, hrest⟩
  · rintro ⟨k, f, hf, ⟨route, g, hg, hfault, hinside⟩, hbefore⟩
    refine ⟨(k + 1) :: route, g, Option.bind_eq_some_iff.2 ⟨f, hf, hg⟩, ?_, fun other h hother hh => ?_⟩
    · rwa [List.append_assoc] at hfault
    · cases hother with
      | ancestor => cases hh
      | sibling hlt =>
        obtain ⟨other, hother, hrest⟩ := Option.bind_eq_some_iff.1 hh
        rename_i m _
        cases m with
        | zero => cases hother
        | succ j =>
          exact hbefore j other (Nat.lt_of_succ_lt_succ hlt) hother h (within_iff_descend.2 ⟨_, hrest⟩)
      | deeper hother =>
        obtain ⟨other, hf', hrest⟩ := Option.bind_eq_some_iff.1 hh
        cases hf.symm.trans hf'
        exact hinside _ h hother hrest

/-- Fields do not compile just if one of them, or one below, has a fault, and the error is that of the first
one. The induction is on the fields, a list of them being dealt with once its members' children are. -/
theorem compileAll_eq_error_iff_offends {init : Route} {fs : List Field} {e : ConfigurationError} :
    Field.compileAll 1 init.above fs = .error e ↔ Offends init fs e := by
  have step : ∀ (init : Route) (fs : List Field),
      (∀ f ∈ fs, ∀ init : Route, Field.compileAll 1 init.above f.children = .error e ↔
        Offends init f.children e) →
      (Field.compileAll 1 init.above fs = .error e ↔ Offends init fs e) := by
    intro init fs hchildren
    rw [compileAll_eq_error_iff, offends_iff]
    refine exists_congr fun k => exists_congr fun f => and_congr_right fun hf => and_congr ?_ ?_
    · rw [compile_eq_error_iff, Route.memberPath_above, Nat.add_comm, offendsAt_iff, ← Route.above_append,
        hchildren f (List.mem_of_getElem? hf)]
    · exact forall₄_congr fun j g _ _ => exists_compiled_iff
  have inside : ∀ f : Field, ∀ init : Route,
      Field.compileAll 1 init.above f.children = .error e ↔ Offends init f.children e := by
    intro f
    induction f using Field.induction with
    | step f ih => exact fun init => step init f.children ih
  exact step init fs fun f _ => inside f

end Field

namespace Configuration

/-- What is wrong first with a configuration: its names, else its pattern of identities, else the first of
its fields with a fault. The path of the error says the positions on the way to that field. -/
inductive FirstFault (c : Configuration) : ConfigurationError → Prop where
  | key {cause : KeyError} : ¬(IsName c.adminName ∧ IsName c.surveyName) → c.key = .error cause →
      FirstFault c (.surveyKey cause)
  | identity : IsName c.adminName → IsName c.surveyName → Pattern.ofSource? c.identitySource = none →
      FirstFault c (.identityPattern c.identitySource)
  | field {path : String} {f : Field} {e : ConfigurationError} : IsName c.adminName →
      IsName c.surveyName → (∃ p, Pattern.ofSource? c.identitySource = some p) →
      (Route.ofText path).text = path → c.at? (Route.ofText path) = some f →
      (∀ other g, Route.Before other (Route.ofText path) → c.at? other = some g → g.WellFormed) →
      f.FirstFault path e → FirstFault c e

theorem identity_eq_error_iff {c : Configuration} {e : ConfigurationError} :
    c.identity = .error e ↔
      Pattern.ofSource? c.identitySource = none ∧ e = .identityPattern c.identitySource := by
  unfold identity identitySource
  cases c.identityPattern with
  | none => simp [Pattern.ofSource?_eq_some_iff.2 Pattern.source_addressPattern]
  | some source => cases hp : Pattern.ofSource? source <;> simp [hp, eq_comm]

theorem compile_eq_error_iff {c : Configuration} {e : ConfigurationError} :
    c.compile = .error e ↔
      (∃ cause, c.key = .error cause ∧ e = .surveyKey cause) ∨
        (∃ key, c.key = .ok key) ∧
          (c.identity = .error e ∨
            (∃ p, c.identity = .ok p) ∧ Field.compileAll 1 none c.fields = .error e) := by
  unfold compile
  cases c.key with
  | error cause => simp [eq_comm]
  | ok key =>
    cases c.identity with
    | error cause => simp
    | ok p => cases Field.compileAll 1 none c.fields <;> simp

/-- The path of an error says the route to the field that it is about. -/
theorem compileAll_fields_eq_error_iff {c : Configuration} {e : ConfigurationError} :
    Field.compileAll 1 none c.fields = .error e ↔
      ∃ path f, (Route.ofText path).text = path ∧ c.at? (Route.ofText path) = some f ∧
        (∀ other g, Route.Before other (Route.ofText path) → c.at? other = some g → g.WellFormed) ∧
        f.FirstFault path e := by
  have hoffends : Field.compileAll 1 none c.fields = .error e ↔ Field.Offends [] c.fields e :=
    @Field.compileAll_eq_error_iff_offends [] c.fields e
  rw [hoffends]
  constructor
  · rintro ⟨route, f, hf, hfault, hbefore⟩
    have hne : route ≠ [] := by
      rintro rfl
      cases hf
    rw [List.nil_append] at hfault
    refine ⟨route.text, f, ?_⟩
    rw [Route.ofText_text hne]
    exact ⟨rfl, hf, hbefore, hfault⟩
  · rintro ⟨path, f, hpath, hf, hbefore, hfault⟩
    exact ⟨Route.ofText path, f, hf, by rwa [List.nil_append, hpath], hbefore⟩

/-- A configuration does not compile just if something is wrong with it, and the error is about what is
wrong first. -/
theorem error_is_firstFault {c : Configuration} {e : ConfigurationError} :
    c.compile = .error e ↔ c.FirstFault e := by
  have hnames : (∃ key, c.key = .ok key) ↔ IsName c.adminName ∧ IsName c.surveyName :=
    SurveyKey.exists_make_iff
  have hpattern : (∃ p, c.identity = .ok p) ↔ ∃ p, Pattern.ofSource? c.identitySource = some p :=
    exists_congr fun p => identity_eq_ok_iff
  rw [compile_eq_error_iff, hnames, identity_eq_error_iff, hpattern, compileAll_fields_eq_error_iff]
  constructor
  · rintro (⟨cause, hkey, rfl⟩ | ⟨⟨hadmin, hsurvey⟩, hidentity | ⟨hsome, path, f, hpath, hf, hbefore, hfault⟩⟩)
    · refine .key (fun h => ?_) hkey
      obtain ⟨key, hok⟩ := hnames.2 h
      cases hkey.symm.trans hok
    · obtain ⟨hnone, rfl⟩ := hidentity
      exact .identity hadmin hsurvey hnone
    · exact .field hadmin hsurvey hsome hpath hf hbefore hfault
  · intro h
    cases h with
    | key _ hkey => exact .inl ⟨_, hkey, rfl⟩
    | identity hadmin hsurvey hnone => exact .inr ⟨⟨hadmin, hsurvey⟩, .inl ⟨hnone, rfl⟩⟩
    | field hadmin hsurvey hsome hpath hf hbefore hfault =>
      exact .inr ⟨⟨hadmin, hsurvey⟩, .inr ⟨hsome, _, _, hpath, hf, hbefore, hfault⟩⟩

/-- Three fields of this configuration have faults, and the second of the first group comes before the others. -/
example :
    let group := { Field.ofKind .properties with
      children := [Field.ofKind .option, (Field.ofKind .text).withConstraint "max_char" (.nat 9),
        Field.ofKind .selection] }
    ({ Configuration.ofNames "ann" "rooms" with fields := [group, Field.ofKind .properties] }).compile =
      .error (.unknownConstraint "1.2" "max_char" .text) := rfl

end Configuration
end SurveyIntake
