import SurveyIntake.Proofs.Check
import SurveyIntake.Proofs.Compile

/-!
# SurveyIntake.Proofs.Conformity

What a configuration asks of a submission, and what its form makes of that.

* `Field.TextFits`, `Field.CountFits` — a text, or a number of selections, keeps to the constraints of a field.
* `Field.Conforms`         — an answer is as a field asks, at every depth.
* `Configuration.Conforms` — a submission is as a configuration asks.
* `Pattern.Admits`         — the pattern of an expression accepts a text.
* `Configuration.checkAnswers_eq_nil_iff`, `Configuration.check_eq_nil_iff` — nothing is wrong with answers,
  or with a submission, just if they conform as far as patterns admit texts.

Conformity is read off the configuration: it mentions no item and no rule. What it is for a text to match an
expression is left open, for it is one thing to read the expression and another to ask its pattern.
-/

namespace SurveyIntake

/-- The keys are the numerals from 1 to `n`, and no others. -/
def HasKeys (n : Nat) (members : List (String × Json)) : Prop :=
  ∀ key, key ∈ Assoc.keys members ↔ ∃ i, 1 ≤ i ∧ i ≤ n ∧ key = toString i

namespace Field

/-- What a text is asked for, where `matching` tells which texts match an expression. Lengths count
characters, and an address for which no pattern is declared has to match the one of addresses. -/
structure TextFits (matching : String → String → Prop) (f : Field) (s : String) : Prop where
  minChars : ∀ n, f.Declares "min_chars" (.nat n) → n ≤ s.length
  maxChars : ∀ n, f.Declares "max_chars" (.nat n) → s.length ≤ n
  regex : ∀ source, f.Declares "regex" (.string source) → matching source s
  address : f.kind = .email → (∀ value, ¬f.Declares "regex" value) → matching addressSource s

/-- The number of selections that an object holds for a field. Its children are numbered from 1. -/
def selections (f : Field) (members : List (String × Json)) : Nat :=
  selectionCount ((f.children.zipIdx 1).map fun p => (p.1.kind, toString p.2)) members

structure CountFits (f : Field) (members : List (String × Json)) : Prop where
  minSelect : ∀ n, f.Declares "min_select" (.nat n) → n ≤ f.selections members
  maxSelect : ∀ n, f.Declares "max_select" (.nat n) → f.selections members ≤ n

/-- An answer is of the type of the field and keeps to its constraints. An object has an answer to each
child, under its number, and nothing else. -/
inductive Conforms (matching : String → String → Prop) : Field → Json → Prop where
  | text {f : Field} {s : String} : f.kind = .email ∨ f.kind = .text ∨ f.kind = .list →
      f.TextFits matching s → Conforms matching f (.string s)
  | option {f : Field} {b : Bool} : f.kind = .option → Conforms matching f (.bool b)
  | object {f : Field} {members : List (String × Json)} :
      f.kind = .selection ∨ f.kind = .properties → HasKeys f.children.length members →
      (∀ n g value, f.children[n]? = some g → Assoc.find? (toString (n + 1)) members = some value →
        Conforms matching g value) →
      (f.kind = .selection → f.CountFits members) → Conforms matching f (.object members)

end Field

structure Configuration.Conforms (matching : String → String → Prop) (c : Configuration) (s : Submission) :
    Prop where
  identity : matching c.identitySource s.identity
  answers : ∃ members, s.answers = .object members ∧ HasKeys c.fields.length members ∧
    ∀ n f value, c.fields[n]? = some f → Assoc.find? (toString (n + 1)) members = some value →
      f.Conforms matching value

/-! ## Rules -/

/-- The expression has a pattern, and the pattern accepts the text. -/
def Pattern.Admits (source s : String) : Prop :=
  ∃ p, Pattern.ofSource? source = some p ∧ p.accepts s = true

theorem Pattern.admits_iff {p : Pattern} {s : String} : Admits p.source s ↔ p.accepts s = true := by
  constructor
  · rintro ⟨q, hq, ha⟩
    rwa [← Pattern.eq_of_source (Pattern.ofSource?_eq_some_iff.1 hq)]
  · intro ha
    exact ⟨p, Pattern.ofSource?_eq_some_iff.2 rfl, ha⟩

theorem textViolations_eq_nil_iff {path : String} {rules : List Rule} {s : String} :
    textViolations path rules s = [] ↔ ∀ r ∈ rules, r.textFault? s = none := by
  simp [textViolations, List.filterMap_eq_nil_iff]

theorem countViolations_eq_nil_iff {path : String} {rules : List Rule} {count : Nat} :
    countViolations path rules count = [] ↔ ∀ r ∈ rules, r.countFault? count = none := by
  simp [countViolations, List.filterMap_eq_nil_iff]

namespace Field

variable {f : Field} {path : String} {rules : List Rule}

theorem needsAddress_iff :
    NeedsAddress f.kind f.constraints.entries ↔
      f.kind = .email ∧ ∀ value, ¬f.Declares "regex" value := by
  rw [NeedsAddress, Assoc.mem_keys_iff, not_exists]
  rfl

theorem exists_rule (h : Field.rules path f.kind f.constraints = .ok rules) {name : String}
    {value : Json} (hd : f.Declares name value) : ∃ r ∈ rules, r.name = name ∧ r.value = value := by
  obtain ⟨r, hs⟩ := (exists_rules_iff.1 ⟨rules, h⟩).1 _ hd
  refine ⟨r, (mem_rules_iff h).2 (.inl ?_), hs.name_eq, hs.value_eq⟩
  rwa [hs.name_eq, hs.value_eq]

theorem textFits_iff (h : Field.rules path f.kind f.constraints = .ok rules) {s : String} :
    (∀ r ∈ rules, r.textFault? s = none) ↔ f.TextFits Pattern.Admits s := by
  constructor
  · intro hr
    refine ⟨fun n hn => ?_, fun n hn => ?_, fun source hs => ?_, fun hk hnone => ?_⟩
    · have := hr (.minChars n) ((mem_rules_iff h).2 (.inl hn))
      simpa [Rule.textFault?] using this
    · have := hr (.maxChars n) ((mem_rules_iff h).2 (.inl hn))
      simpa [Rule.textFault?] using this
    · obtain ⟨r, hmem, _, hvalue⟩ := exists_rule h hs
      cases r with
      | pattern p =>
        cases hvalue
        have := hr _ hmem
        rw [Pattern.admits_iff]
        simpa [Rule.textFault?] using this
      | _ => cases hvalue
    · have := hr (.pattern addressPattern)
        ((mem_rules_iff h).2 (.inr ⟨needsAddress_iff.2 ⟨hk, hnone⟩, rfl⟩))
      rw [← Pattern.source_addressPattern, Pattern.admits_iff]
      simpa [Rule.textFault?] using this
  · intro hfits r hr
    rcases (mem_rules_iff h).1 hr with hd | ⟨hneeds, rfl⟩
    · cases r with
      | minChars n => simpa [Rule.textFault?] using hfits.minChars n hd
      | maxChars n => simpa [Rule.textFault?] using hfits.maxChars n hd
      | minSelect n => rfl
      | maxSelect n => rfl
      | pattern p => simpa [Rule.textFault?] using Pattern.admits_iff.1 (hfits.regex p.source hd)
    · obtain ⟨hk, hnone⟩ := needsAddress_iff.1 hneeds
      have := hfits.address hk hnone
      rw [← Pattern.source_addressPattern, Pattern.admits_iff] at this
      simpa [Rule.textFault?] using this

theorem countFits_iff (h : Field.rules path f.kind f.constraints = .ok rules)
    {members : List (String × Json)} :
    (∀ r ∈ rules, r.countFault? (f.selections members) = none) ↔ f.CountFits members := by
  constructor
  · intro hr
    refine ⟨fun n hn => ?_, fun n hn => ?_⟩
    · have := hr (.minSelect n) ((mem_rules_iff h).2 (.inl hn))
      simpa [Rule.countFault?] using this
    · have := hr (.maxSelect n) ((mem_rules_iff h).2 (.inl hn))
      simpa [Rule.countFault?] using this
  · intro hfits r hr
    rcases (mem_rules_iff h).1 hr with hd | ⟨_, rfl⟩
    · cases r with
      | minSelect n => simpa [Rule.countFault?] using hfits.minSelect n hd
      | maxSelect n => simpa [Rule.countFault?] using hfits.maxSelect n hd
      | minChars n => rfl
      | maxChars n => rfl
      | pattern p => rfl
    · rfl

end Field

/-! ## Members -/

section Members

variable {parent : Option String} {fields : List Field} {items : List Item}
  {members : List (String × Json)}

theorem checkAll_eq_nil_iff :
    Item.checkAll items members = [] ↔
      ∀ i ∈ items, ∃ value, Assoc.find? i.key members = some value ∧ i.check value = [] := by
  rw [Item.checkAll_eq_flatMap, List.flatMap_eq_nil_iff]
  refine forall₂_congr fun i _ => ?_
  cases Assoc.find? i.key members <;> simp [Item.answerReport]

theorem unknownMembers_eq_nil_iff :
    unknownMembers parent items members = [] ↔
      ∀ key ∈ Assoc.keys members, ∃ i ∈ items, i.key = key := by
  simp [unknownMembers]

theorem exists_key_iff (h : Field.compileAll 1 parent fields = .ok items) {key : String} :
    (∃ i ∈ items, i.key = key) ↔ ∃ n, 1 ≤ n ∧ n ≤ fields.length ∧ key = toString n := by
  constructor
  · rintro ⟨i, hi, rfl⟩
    obtain ⟨n, f, hf, hcompile⟩ := Field.exists_field_of_mem h hi
    have hn : n < fields.length := (List.getElem?_eq_some_iff.1 hf).1
    exact ⟨1 + n, by omega, by omega, hcompile.key⟩
  · rintro ⟨n, hpos, hle, rfl⟩
    obtain ⟨n, rfl⟩ := Nat.exists_eq_add_of_le hpos
    have hf : fields[n]? = some fields[n] := List.getElem?_eq_getElem (by omega)
    obtain ⟨i, hi, hcompile⟩ := Field.exists_item_of_getElem? h hf
    exact ⟨i, hi, hcompile.key⟩

/-- The members of an object are in order just if their keys are the numbers of the fields and each of
them conforms, given that the items of the fields find nothing wrong just then. -/
theorem checkMembers_eq_nil_iff (h : Field.compileAll 1 parent fields = .ok items)
    (hcheck : ∀ f ∈ fields, ∀ n i, f.Compiled n parent i →
      ∀ value, i.check value = [] ↔ f.Conforms Pattern.Admits value) (members : List (String × Json)) :
    Item.checkAll items members ++ unknownMembers parent items members = [] ↔
      HasKeys fields.length members ∧
        ∀ n f value, fields[n]? = some f → Assoc.find? (toString (n + 1)) members = some value →
          f.Conforms Pattern.Admits value := by
  rw [List.append_eq_nil_iff, checkAll_eq_nil_iff, unknownMembers_eq_nil_iff]
  constructor
  · rintro ⟨hall, hknown⟩
    refine ⟨fun key => ⟨fun hkey => (exists_key_iff h).1 (hknown key hkey), fun hn => ?_⟩, ?_⟩
    · obtain ⟨item, hitem, rfl⟩ := (exists_key_iff h).2 hn
      obtain ⟨value, hvalue, _⟩ := hall item hitem
      exact Assoc.exists_find?_iff.1 ⟨value, hvalue⟩
    · intro n f value hf hvalue
      obtain ⟨item, hitem, hcompile⟩ := Field.exists_item_of_getElem? h hf
      obtain ⟨other, hother, hnil⟩ := hall item hitem
      rw [hcompile.key, Nat.add_comm, hvalue] at hother
      cases hother
      exact (hcheck f (List.mem_of_getElem? hf) _ _ hcompile value).1 hnil
  · rintro ⟨hkeys, hconforms⟩
    refine ⟨fun item hitem => ?_, fun key hkey => (exists_key_iff h).2 ((hkeys key).1 hkey)⟩
    have hkey : item.key ∈ Assoc.keys members :=
      (hkeys _).2 ((exists_key_iff h).1 ⟨item, hitem, rfl⟩)
    obtain ⟨value, hvalue⟩ := Assoc.exists_find?_iff.2 hkey
    obtain ⟨n, f, hf, hcompile⟩ := Field.exists_field_of_mem h hitem
    refine ⟨value, hvalue, (hcheck f (List.mem_of_getElem? hf) _ _ hcompile value).2 ?_⟩
    rw [hcompile.key, Nat.add_comm] at hvalue
    exact hconforms n f value hf hvalue

end Members

/-! ## Answers -/

theorem Field.Compiled.check_eq_nil_iff {n : Nat} {parent : Option String} {f : Field} {i : Item}
    (h : f.Compiled n parent i) (value : Json) :
    i.check value = [] ↔ f.Conforms Pattern.Admits value := by
  induction f using Field.induction generalizing n parent i value with
  | step f ih =>
    have hmembers : ∀ members, Item.checkAll i.children members ++
        unknownMembers (some i.path) i.children members = [] ↔ _ :=
      checkMembers_eq_nil_iff h.children fun g hg _ _ hg' v => ih g hg hg' v
    have hcount : ∀ members, i.selections members = f.selections members := by
      intro members
      rw [Item.selections, Field.compileAll_map h.children, Field.selections]
    by_cases htakes : i.kind.Takes value
    · cases htakes with
      | text hk =>
        rw [Item.check_text (.text hk), textViolations_eq_nil_iff, textFits_iff h.rules]
        rw [h.kind] at hk
        constructor
        · exact .text hk
        · intro hconforms
          cases hconforms with
          | text _ hfits => exact hfits
      | option hk =>
        rw [Item.check_option hk]
        rw [h.kind] at hk
        exact iff_of_true rfl (.option hk)
      | @object members hk =>
        rcases hk with hk | hk
        · rw [Item.check_selection hk, List.append_eq_nil_iff, hmembers, countViolations_eq_nil_iff,
            hcount, countFits_iff h.rules]
          rw [h.kind] at hk
          constructor
          · rintro ⟨⟨hkeys, hall⟩, hfits⟩
            exact .object (.inl hk) hkeys hall fun _ => hfits
          · intro hconforms
            cases hconforms with
            | object _ hkeys hall hfits => exact ⟨⟨hkeys, hall⟩, hfits hk⟩
        · rw [Item.check_properties hk, hmembers]
          rw [h.kind] at hk
          constructor
          · rintro ⟨hkeys, hall⟩
            exact .object (.inr hk) hkeys hall fun hs => by rw [hk] at hs; cases hs
          · intro hconforms
            cases hconforms with
            | object _ hkeys hall _ => exact ⟨hkeys, hall⟩
    · rw [Item.check_mistyped htakes]
      rw [h.kind] at htakes
      refine iff_of_false (List.cons_ne_nil _ _) fun hconforms => htakes ?_
      cases hconforms with
      | text hk => exact .text hk
      | option hk => exact .option hk
      | object hk => exact .object hk

/-- Nothing is wrong with answers just if they have one to each field, which is as that field asks. -/
theorem Configuration.checkAnswers_eq_nil_iff {c : Configuration} {form : Form}
    (h : c.compile = .ok form) (answers : Json) :
    form.checkAnswers answers = [] ↔
      ∃ members, answers = .object members ∧ HasKeys c.fields.length members ∧
        ∀ n f value, c.fields[n]? = some f → Assoc.find? (toString (n + 1)) members = some value →
          f.Conforms Pattern.Admits value := by
  obtain ⟨_, _, hitems⟩ := Configuration.compile_eq_ok_iff.1 h
  have hmembers := checkMembers_eq_nil_iff hitems fun _ _ _ _ hf v => hf.check_eq_nil_iff v
  by_cases hobject : ∃ members, answers = .object members
  · obtain ⟨members, rfl⟩ := hobject
    simp [Form.checkAnswers_object, hmembers]
  · have hnone : ∀ members, answers ≠ .object members := fun members h => hobject ⟨members, h⟩
    rw [Form.checkAnswers_mistyped hnone]
    simp [hnone]

/-- Nothing is wrong with a submission just if it is as the configuration asks, where to match an expression
is to be admitted by its pattern. -/
theorem Configuration.check_eq_nil_iff {c : Configuration} {form : Form} (h : c.compile = .ok form)
    (s : Submission) : form.check s = [] ↔ c.Conforms Pattern.Admits s := by
  obtain ⟨_, hidentity, _⟩ := Configuration.compile_eq_ok_iff.1 h
  have identity : form.identity.accepts s.identity = true ↔
      Pattern.Admits c.identitySource s.identity := by
    rw [← Pattern.ofSource?_eq_some_iff.1 (identity_eq_ok_iff.1 hidentity), Pattern.admits_iff]
  rw [Form.check_eq_nil_iff, identity, checkAnswers_eq_nil_iff h]
  exact ⟨fun ⟨hidentity, hanswers⟩ => ⟨hidentity, hanswers⟩, fun hs => ⟨hs.identity, hs.answers⟩⟩

/-- A survey with a list and an option to select from, and an address. -/
def tripSurvey : Configuration :=
  let choices := (Field.ofKind .selection).withConstraint "min_select" (.nat 3)
  let address := (Field.ofKind .email).withConstraint "max_chars" (.nat 9)
  { Configuration.ofNames "ann" "trips" with
    fields := [(choices.withChild (Field.ofKind .option)).withChild (Field.ofKind .list), address] }

def tripForm : Form :=
  ⟨⟨"ann", "trips", by decide, by decide⟩, addressPattern,
    [⟨1, "1", .selection, [.minSelect 3], [⟨1, "1.1", .option, [], []⟩, ⟨2, "1.2", .list, [], []⟩]⟩,
      ⟨2, "2", .email, [.maxChars 9, .pattern addressPattern], []⟩]⟩

/-- Three selections: the option, and two entries, one of which is there twice. -/
def tripSubmission : Submission :=
  ⟨"ann@home.org", .ofMembers [("1", .ofMembers [("1", .bool true), ("2", .string "a, b,a,")]),
    ("2", .string "b@c.de")]⟩

example : tripSurvey.compile = .ok tripForm ∧ tripForm.check tripSubmission = [] :=
  ⟨rfl, by decide +kernel⟩

end SurveyIntake
