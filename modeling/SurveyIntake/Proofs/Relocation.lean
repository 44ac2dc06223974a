import SurveyIntake.Proofs.Check
import SurveyIntake.Proofs.FirstFault

/-!
# SurveyIntake.Proofs.Relocation

What becomes of fields that are moved below a path: their paths have it before them, and that is all.

* `Violation.under`, `ConfigurationError.under`, `Item.under` — the same, with a path put before its own.
* `Field.compile_inside` — a field compiles below a path as it does without it.
* `Item.check_under`     — so are answers to it checked.
* `Configuration.nested` — a configuration with all its fields moved into one group.
* `Configuration.compile_nested`, `Form.checkAnswers_nested` — its form, or its error, and its reports.
* `Configuration.nesting_keeps_meaning` — a configuration and its nested one accept and reject the same.
-/

namespace SurveyIntake

/-! ## Paths -/

/-- The violation with a path put before its own. -/
def Violation.under (p : String) (v : Violation) : Violation := { v with path := p ++ "." ++ v.path }

/-- The error with a path put before that of the field that it is about, if it is about a field. -/
def ConfigurationError.under (p : String) : ConfigurationError → ConfigurationError
  | .document cause => .document cause
  | .surveyKey cause => .surveyKey cause
  | .identityPattern source => .identityPattern source
  | .missingChildren path kind => .missingChildren (p ++ "." ++ path) kind
  | .unexpectedChildren path kind => .unexpectedChildren (p ++ "." ++ path) kind
  | .unknownConstraint path name kind => .unknownConstraint (p ++ "." ++ path) name kind
  | .invalidConstraint path name fault => .invalidConstraint (p ++ "." ++ path) name fault
  | .invertedBounds path min max least most => .invertedBounds (p ++ "." ++ path) min max least most

mutual

/-- The item with a path put before its own and those of all items below it. -/
def Item.under (p : String) : Item → Item
  | ⟨position, path, kind, rules, children⟩ =>
    ⟨position, p ++ "." ++ path, kind, rules, Item.allUnder p children⟩

def Item.allUnder (p : String) : List Item → List Item
  | [] => []
  | i :: is => Item.under p i :: Item.allUnder p is

end

theorem Item.allUnder_eq_map (p : String) (items : List Item) :
    Item.allUnder p items = items.map (Item.under p) := by
  induction items with
  | nil => rfl
  | cons i items ih => rw [Item.allUnder, ih, List.map_cons]

namespace Item

variable (p : String) (i : Item)

@[simp] theorem path_under : (i.under p).path = p ++ "." ++ i.path := by cases i; rfl

@[simp] theorem kind_under : (i.under p).kind = i.kind := by cases i; rfl

@[simp] theorem rules_under : (i.under p).rules = i.rules := by cases i; rfl

@[simp] theorem key_under : (i.under p).key = i.key := by cases i; rfl

@[simp] theorem children_under : (i.under p).children = i.children.map (Item.under p) := by
  cases i
  exact allUnder_eq_map p _

@[simp] theorem selections_under (members : List (String × Json)) :
    (i.under p).selections members = i.selections members := by
  simp [selections, Function.comp_def]

end Item

/-- A parent path with a path put before it. What has no parent comes right below the path. -/
def inside (p : String) : Option String → String
  | none => p
  | some parent => p ++ "." ++ parent

theorem memberPath_inside (p : String) (parent : Option String) (key : String) :
    memberPath (some (inside p parent)) key = p ++ "." ++ memberPath parent key := by
  cases parent <;> simp [memberPath, inside, String.append_assoc]

/-! ## Compiling -/

section Compile

variable (p path : String) (kind : Kind)

theorem Rule.declared_under (name : String) (value : Json) :
    Rule.declared (p ++ "." ++ path) kind name value =
      (Rule.declared path kind name value).mapError (ConfigurationError.under p) := by
  unfold Rule.declared
  cases (Constraint.ofName? name).filter fun c => c.appliesTo kind with
  | none => rfl
  | some c =>
    dsimp only
    cases Rule.ofValue c value <;> rfl

theorem Rule.declaredAll_under (constraints : List (String × Json)) :
    Rule.declaredAll (p ++ "." ++ path) kind constraints =
      (Rule.declaredAll path kind constraints).mapError (ConfigurationError.under p) := by
  induction constraints with
  | nil => rfl
  | cons e rest ih =>
    obtain ⟨name, value⟩ := e
    rw [Rule.declaredAll, Rule.declaredAll, Rule.declared_under, ih]
    cases Rule.declared path kind name value with
    | error e => rfl
    | ok r => cases Rule.declaredAll path kind rest <;> rfl

theorem Rule.inverted?_under (min max : Constraint) (rules : List Rule) :
    Rule.inverted? (p ++ "." ++ path) min max rules =
      (Rule.inverted? path min max rules).map (ConfigurationError.under p) := by
  unfold Rule.inverted?
  split
  · split <;> rfl
  · rfl

theorem Field.rules_under (constraints : Table String Json) :
    Field.rules (p ++ "." ++ path) kind constraints =
      (Field.rules path kind constraints).mapError (ConfigurationError.under p) := by
  unfold Field.rules
  rw [Rule.declaredAll_under]
  cases Rule.declaredAll path kind constraints.entries with
  | error e => rfl
  | ok rules =>
    simp only [Except.mapError, Rule.inverted?_under]
    cases Rule.inverted? path .minChars .maxChars rules with
    | some e => rfl
    | none =>
      cases Rule.inverted? path .minSelect .maxSelect rules with
      | some e => rfl
      | none =>
        dsimp only [Option.map_none, Option.none_or]
        split <;> rfl

end Compile

namespace Field

/-- What a field compiles to below a path is what it compiles to without it, moved there. -/
def CompilesAlike (p : String) (f : Field) : Prop :=
  ∀ n parent, f.compile n (some (inside p parent)) =
    ((f.compile n parent).map (Item.under p)).mapError (ConfigurationError.under p)

theorem compileAll_inside_of {p : String} {fs : List Field} (h : ∀ f ∈ fs, f.CompilesAlike p)
    (n : Nat) (parent : Option String) :
    Field.compileAll n (some (inside p parent)) fs =
      ((Field.compileAll n parent fs).map (List.map (Item.under p))).mapError
        (ConfigurationError.under p) := by
  induction fs generalizing n with
  | nil => rfl
  | cons f fs ih =>
    rw [Field.compileAll, Field.compileAll, h f List.mem_cons_self,
      ih fun g hg => h g (List.mem_cons_of_mem f hg)]
    cases f.compile n parent with
    | error e => rfl
    | ok i => cases Field.compileAll (n + 1) parent fs <;> rfl

theorem compile_inside (p : String) (f : Field) : f.CompilesAlike p := by
  induction f using Field.induction with
  | step f ih =>
    intro n parent
    obtain ⟨kind, title, description, children, constraints⟩ := f
    have hchildren := compileAll_inside_of ih 1 (some (memberPath parent (toString n)))
    rw [inside] at hchildren
    simp only [Field.compile, memberPath_inside, Field.rules_under, hchildren]
    split
    · rfl
    split
    · rfl
    cases Field.rules (memberPath parent (toString n)) kind constraints with
    | error e => rfl
    | ok rules =>
      dsimp only [Except.mapError]
      cases Field.compileAll 1 (some (memberPath parent (toString n))) children with
      | error e => rfl
      | ok items => simp [Except.map, Item.under, Item.allUnder_eq_map]

theorem compileAll_inside (p : String) (n : Nat) (parent : Option String) (fs : List Field) :
    Field.compileAll n (some (inside p parent)) fs =
      ((Field.compileAll n parent fs).map (List.map (Item.under p))).mapError
        (ConfigurationError.under p) :=
  compileAll_inside_of (fun f _ => compile_inside p f) n parent

end Field

/-! ## Checking -/

section Check

variable (p : String)

theorem unknownMembers_under (parent : Option String) (items : List Item)
    (members : List (String × Json)) :
    unknownMembers (some (inside p parent)) (items.map (Item.under p)) members =
      (unknownMembers parent items members).map (Violation.under p) := by
  simp [unknownMembers, memberPath_inside, Violation.under, Function.comp_def]

theorem textViolations_under (path : String) (rules : List Rule) (s : String) :
    textViolations (p ++ "." ++ path) rules s =
      (textViolations path rules s).map (Violation.under p) := by
  simp [textViolations, Violation.under, List.map_filterMap, Function.comp_def]

theorem countViolations_under (path : String) (rules : List Rule) (count : Nat) :
    countViolations (p ++ "." ++ path) rules count =
      (countViolations path rules count).map (Violation.under p) := by
  simp [countViolations, Violation.under, List.map_filterMap, Function.comp_def]

namespace Item

theorem checkAll_under_of {items : List Item}
    (h : ∀ i ∈ items, ∀ value, (i.under p).check value = (i.check value).map (Violation.under p))
    (members : List (String × Json)) :
    checkAll (items.map (Item.under p)) members =
      (checkAll items members).map (Violation.under p) := by
  rw [checkAll_eq_flatMap, checkAll_eq_flatMap, List.map_flatMap, List.flatMap_map]
  refine List.flatMap_congr fun i hi => ?_
  rw [key_under]
  cases Assoc.find? i.key members with
  | none => simp [answerReport, Violation.under]
  | some value => exact h i hi value

/-- An answer is checked by a moved item as by the one that it was. -/
theorem check_under (i : Item) (value : Json) :
    (i.under p).check value = (i.check value).map (Violation.under p) := by
  induction i using Item.induction generalizing value with
  | step i ih =>
    have hmembers : ∀ members, checkAll (i.under p).children members ++
        unknownMembers (some (i.under p).path) (i.under p).children members =
          (checkAll i.children members ++
            unknownMembers (some i.path) i.children members).map (Violation.under p) := by
      intro members
      rw [children_under, path_under, checkAll_under_of p ih, List.map_append]
      exact congrArg _ (unknownMembers_under p (some i.path) i.children members)
    have hkind := i.kind_under p
    by_cases htakes : i.kind.Takes value
    · cases htakes with
      | text hk =>
        rw [check_text (.text hk), check_text (.text (hkind ▸ hk)), path_under, rules_under,
          textViolations_under]
      | option hk =>
        rw [check_option hk, check_option (hkind ▸ hk)]
        rfl
      | object hk =>
        rcases hk with hk | hk
        · rw [check_selection hk, check_selection (hkind ▸ hk), hmembers, path_under, rules_under,
            selections_under, countViolations_under, ← List.map_append]
        · rw [check_properties hk, check_properties (hkind ▸ hk), hmembers]
    · rw [check_mistyped htakes, check_mistyped (hkind ▸ htakes), path_under, kind_under]
      rfl

theorem checkAll_under (items : List Item) (members : List (String × Json)) :
    checkAll (items.map (Item.under p)) members =
      (checkAll items members).map (Violation.under p) :=
  checkAll_under_of p (fun i _ => check_under p i) members

end Item

end Check

/-! ## Nesting -/

/-- The configuration with all its fields moved into one group at the top. -/
def Configuration.nested (c : Configuration) (title description : Option String) : Configuration :=
  { c with fields := [⟨.properties, title, description, c.fields, .empty⟩] }

namespace Form

/-- The form with all its items moved into one group at the top. -/
def nested (f : Form) : Form :=
  { f with items := [⟨1, "1", .properties, [], f.items.map (Item.under "1")⟩] }

variable (f : Form)

/-- What is checked of answers with nothing in them but an answer to the group. -/
theorem checkAnswers_nested_eq (value : Json) :
    f.nested.checkAnswers (.object [("1", value)]) =
      Item.check ⟨1, "1", .properties, [], f.items.map (Item.under "1")⟩ value := by
  have hkey : Nat.repr 1 = "1" := rfl
  simp [checkAnswers_object, nested, Item.checkAll, unknownMembers, Item.key, Assoc.find?, Assoc.keys, hkey]

theorem checkAnswers_nested (members : List (String × Json)) :
    f.nested.checkAnswers (.object [("1", .object members)]) =
      (f.checkAnswers (.object members)).map (Violation.under "1") := by
  rw [checkAnswers_nested_eq, Item.check_properties rfl, checkAnswers_object, List.map_append]
  exact congrArg₂ _ (Item.checkAll_under "1" f.items members)
    (unknownMembers_under "1" none f.items members)

theorem checkAnswers_nested_mistyped {value : Json} (h : ∀ members, value ≠ .object members) :
    f.nested.checkAnswers (.object [("1", value)]) = [⟨"1", "must be of Properties type"⟩] := by
  rw [checkAnswers_nested_eq, Item.check_mistyped]
  · rfl
  · intro htakes
    cases htakes with
    | text hk => simp at hk
    | option hk => cases hk
    | object => exact h _ rfl

end Form

namespace Configuration

variable {c : Configuration} (title description : Option String)

theorem compile_nested (hne : c.fields ≠ []) :
    (c.nested title description).compile =
      (c.compile.map Form.nested).mapError (ConfigurationError.under "1") := by
  have hfields := Field.compileAll_inside "1" 1 none c.fields
  have hgroup : Field.compileAll 1 none (c.nested title description).fields =
      ((Field.compileAll 1 none c.fields).map fun items =>
        [(⟨1, "1", .properties, [], items.map (Item.under "1")⟩ : Item)]).mapError
          (ConfigurationError.under "1") := by
    have hpath : memberPath none (toString 1) = inside "1" none := rfl
    have hrules : Field.rules (inside "1" none) .properties .empty = .ok [] := rfl
    have hchildren : c.fields.isEmpty = false := by simpa using hne
    simp only [nested, Field.compileAll, Field.compile, Kind.isComposite, hpath, hrules, hfields, hchildren]
    cases Field.compileAll 1 none c.fields <;> rfl
  have hkey : (c.nested title description).key = c.key := rfl
  have hidentity : (c.nested title description).identity = c.identity := rfl
  unfold compile
  rw [hkey, hidentity, hgroup]
  cases c.key with
  | error e => rfl
  | ok key =>
    cases hp : c.identity with
    | error e =>
      obtain ⟨_, rfl⟩ := identity_eq_error_iff.1 hp
      rfl
    | ok p => cases Field.compileAll 1 none c.fields <;> rfl

/-- **Nesting keeps the meaning.** With all its fields moved into one group, a configuration compiles just if
it did, and with the same error if it did not, save that the path of a field has the group before it. What
is wrong with answers inside the group is what was wrong with them, in the same order, with the group before
every path. So the same is accepted as before, and nothing is that has no object for the group. -/
theorem nesting_keeps_meaning (hne : c.fields ≠ []) :
    ((∃ nested, (c.nested title description).compile = .ok nested) ↔ ∃ form, c.compile = .ok form) ∧
    (∀ e, (c.nested title description).compile = .error e ↔
      ∃ cause, c.compile = .error cause ∧ e = cause.under "1") ∧
    ∀ form nested, c.compile = .ok form → (c.nested title description).compile = .ok nested →
      (∀ members, nested.checkAnswers (.object [("1", .object members)]) =
        (form.checkAnswers (.object members)).map (Violation.under "1")) ∧
      (∀ identity members, nested.check ⟨identity, .object [("1", .object members)]⟩ = [] ↔
        form.check ⟨identity, .object members⟩ = []) ∧
      ∀ identity value, (∀ members, value ≠ .object members) →
        nested.checkAnswers (.object [("1", value)]) ≠ [] ∧
          nested.check ⟨identity, .object [("1", value)]⟩ ≠ [] := by
  rw [compile_nested title description hne]
  refine ⟨?_, fun e => ?_, fun form nested hform hnested => ?_⟩
  · cases c.compile <;> simp [Except.map, Except.mapError]
  · cases c.compile <;> simp [Except.map, Except.mapError, eq_comm]
  · rw [hform] at hnested
    cases hnested
    refine ⟨form.checkAnswers_nested, fun identity members => ?_, fun identity value hvalue => ?_⟩
    · have hidentity : form.nested.checkIdentity identity = form.checkIdentity identity := rfl
      simp only [Form.check, hidentity, form.checkAnswers_nested, List.append_eq_nil_iff, List.map_eq_nil_iff]
    · rw [Form.check, form.checkAnswers_nested_mistyped hvalue]
      exact ⟨List.cons_ne_nil _ _, by simp⟩

/-- What is wrong with an answer that stands for a group, and with one that is missing, inside another group. -/
theorem nesting_keeps_meaning_rooms :
    roomSurvey.fields ≠ [] ∧ roomSurvey.compile = .ok roomForm ∧
      (roomSurvey.nested none none).compile = .ok roomForm.nested ∧
      roomForm.nested.checkAnswers (.object [("1", .object [("1", .null)])]) =
        [⟨"1.1", "must be of Properties type"⟩, ⟨"1.2", "required field"⟩] ∧
      roomForm.nested.checkAnswers (.object [("1", .null)]) ≠ [] := by
  have hne : roomSurvey.fields ≠ [] := List.cons_ne_nil _ _
  have hcompile : roomSurvey.compile = .ok roomForm := rfl
  have hnested : (roomSurvey.nested none none).compile = .ok roomForm.nested := rfl
  obtain ⟨_, _, hforms⟩ := nesting_keeps_meaning none none hne
  obtain ⟨hreport, _, hrejects⟩ := hforms roomForm roomForm.nested hcompile hnested
  refine ⟨hne, hcompile, hnested, ?_, (hrejects "" .null fun _ => by simp).1⟩
  rw [hreport]
  decide +kernel

end Configuration

end SurveyIntake
