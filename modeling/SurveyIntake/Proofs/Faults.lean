import SurveyIntake.Proofs.Check
import SurveyIntake.Proofs.Enumeration
import SurveyIntake.Proofs.Proper

/-!
# SurveyIntake.Proofs.Faults

What may be wrong with a submission, and that a report has one violation for each such thing.

* `Asked`      — an item, at any depth, with the answer that is there for it: all around it are objects.
* `Item.Fails` — the faults of the answer to an item, not counting those of the members of an object.
* `Form.Fails` — the faults of a submission, each with its violation.
* `Item.answerReport_enumerates` — the report on an answer has the faults at it and below it, one by one.
* `Form.check_exact` — so have the reports on a submission, and on its answers alone.
-/

namespace SurveyIntake

/-! ## Faults -/

namespace Rule

def TextBroken (s : String) : Rule → Prop
  | .minChars n => s.length < n
  | .maxChars n => n < s.length
  | .pattern p => p.accepts s = false
  | .minSelect _ | .maxSelect _ => False

def CountBroken (count : Nat) : Rule → Prop
  | .minSelect n => count < n
  | .maxSelect n => n < count
  | .minChars _ | .maxChars _ | .pattern _ => False

/-- What is said where the rule is broken. -/
def complaint : Rule → String
  | .minChars n => "Must be at least " ++ toString n ++ " characters long"
  | .maxChars n => "Must be at most " ++ toString n ++ " characters long"
  | .minSelect n => "Must select at least " ++ toString n ++ " options"
  | .maxSelect n => "Must select at most " ++ toString n ++ " options"
  | .pattern p => "value does not match regex '" ++ p.source ++ "'"

theorem ite_eq_some_iff {p : Prop} [Decidable p] {a b : String} :
    (if p then some a else none) = some b ↔ p ∧ b = a := by
  rw [Option.ite_none_right_eq_some, Option.some_inj, eq_comm]

theorem textFault?_eq_some_iff {r : Rule} {s message : String} :
    r.textFault? s = some message ↔ r.TextBroken s ∧ message = r.complaint := by
  cases r with
  | minChars n => exact ite_eq_some_iff
  | maxChars n => exact ite_eq_some_iff
  | minSelect n => simp [textFault?, TextBroken]
  | maxSelect n => simp [textFault?, TextBroken]
  | pattern p =>
    simp only [textFault?, TextBroken]
    rw [Option.ite_none_left_eq_some, Option.some_inj, Bool.not_eq_true, eq_comm (b := message)]
    rfl

theorem countFault?_eq_some_iff {r : Rule} {count : Nat} {message : String} :
    r.countFault? count = some message ↔ r.CountBroken count ∧ message = r.complaint := by
  cases r with
  | minSelect n => exact ite_eq_some_iff
  | maxSelect n => exact ite_eq_some_iff
  | minChars n => simp [countFault?, CountBroken]
  | maxChars n => simp [countFault?, CountBroken]
  | pattern p => simp [countFault?, CountBroken]

end Rule

/-- What may be wrong with an answer. Rules are told by their place among those of the item. -/
inductive Flaw where
  | missing
  | mistyped
  | rule (index : Nat)
  | unknown (key : String)
  deriving DecidableEq

inductive Item.Fails (i : Item) : Option Json → Flaw → Violation → Prop where
  | missing : Fails i none .missing ⟨i.path, "required field"⟩
  | mistyped {value : Json} : ¬i.kind.Takes value →
      Fails i (some value) .mistyped ⟨i.path, "must be of " ++ i.kind.name ++ " type"⟩
  | text {s : String} {k : Nat} {r : Rule} : i.kind.Takes (.string s) → i.rules[k]? = some r →
      r.TextBroken s → Fails i (some (.string s)) (.rule k) ⟨i.path, r.complaint⟩
  | count {members : List (String × Json)} {k : Nat} {r : Rule} : i.kind = .selection →
      i.rules[k]? = some r → r.CountBroken (i.selections members) →
      Fails i (some (.object members)) (.rule k) ⟨i.path, r.complaint⟩
  | unknown {members : List (String × Json)} {key : String} : i.kind.Takes (.object members) →
      key ∈ Assoc.keys members → (∀ j ∈ i.children, j.key ≠ key) →
      Fails i (some (.object members)) (.unknown key) ⟨i.path ++ "." ++ key, "unknown field"⟩

/-- An item below the items given, at the address of its place and the places above it, and what is there
for it among members. Only objects have anything below them. -/
inductive Asked : List Item → List (String × Json) → List Nat → Item → Option Json → Prop where
  | here {items : List Item} {members : List (String × Json)} {n : Nat} {i : Item} :
      items[n]? = some i → Asked items members [n] i (Assoc.find? i.key members)
  | inside {items : List Item} {members inner : List (String × Json)} {n : Nat} {i j : Item}
      {address : List Nat} {answer : Option Json} : items[n]? = some i →
      Assoc.find? i.key members = some (.object inner) → i.kind.Takes (.object inner) →
      Asked i.children inner address j answer → Asked items members (n :: address) j answer

inductive Fault where
  | identity
  | answers
  | node (address : List Nat) (flaw : Flaw)
  deriving DecidableEq

inductive Form.Fails (f : Form) (s : Submission) : Fault → Violation → Prop where
  | identity : f.identity.accepts s.identity = false →
      Fails f s .identity
        ⟨"identity", "value does not match regex '" ++ f.identity.source ++ "'"⟩
  | answers : (∀ members, s.answers ≠ .object members) →
      Fails f s .answers ⟨"answers", "must be of dict type"⟩
  | unknown {members : List (String × Json)} {key : String} : s.answers = .object members →
      key ∈ Assoc.keys members → (∀ i ∈ f.items, i.key ≠ key) →
      Fails f s (.node [] (.unknown key)) ⟨key, "unknown field"⟩
  | item {members : List (String × Json)} {address : List Nat} {i : Item} {answer : Option Json}
      {flaw : Flaw} {v : Violation} : s.answers = .object members →
      Asked f.items members address i answer → i.Fails answer flaw v →
      Fails f s (.node address flaw) v

/-! ## Faults at a place and below it -/

/-- The faults of items that are asked for, by their addresses. -/
def AskedFails (items : List Item) (members : List (String × Json)) (x : List Nat × Flaw)
    (v : Violation) : Prop :=
  ∃ i answer, Asked items members x.1 i answer ∧ i.Fails answer x.2 v

/-- The faults of the answer to an item, and of all that is below. -/
def Item.FailsWithin (i : Item) (answer : Option Json) (x : List Nat × Flaw) (v : Violation) : Prop :=
  x.1 = [] ∧ i.Fails answer x.2 v ∨
    ∃ inner, answer = some (.object inner) ∧ i.kind.Takes (.object inner) ∧
      AskedFails i.children inner x v

def UnknownFails (parent : Option String) (items : List Item) (members : List (String × Json))
    (x : List Nat × Flaw) (v : Violation) : Prop :=
  ∃ key, x = ([], .unknown key) ∧ (key ∈ Assoc.keys members ∧ ∀ i ∈ items, i.key ≠ key) ∧
    v = ⟨memberPath parent key, "unknown field"⟩

section Members

variable {parent : Option String} {items : List Item} {members : List (String × Json)}

theorem askedFails_iff {x : List Nat × Flaw} {v : Violation} :
    AskedFails items members x v ↔
      ∃ n i, items[n]? = some i ∧ ∃ y : List Nat × Flaw, x = (n :: y.1, y.2) ∧
        i.FailsWithin (Assoc.find? i.key members) y v := by
  obtain ⟨address, flaw⟩ := x
  constructor
  · rintro ⟨i, answer, hasked, hfails⟩
    cases hasked with
    | here hi => exact ⟨_, i, hi, ([], flaw), rfl, .inl ⟨rfl, hfails⟩⟩
    | @inside _ _ inner n j _ rest _ hj hinner htakes hbelow =>
      exact ⟨n, j, hj, (rest, flaw), rfl, .inr ⟨inner, hinner, htakes, i, answer, hbelow, hfails⟩⟩
  · rintro ⟨n, i, hi, ⟨rest, flaw⟩, hx, hwithin⟩
    cases hx
    rcases hwithin with ⟨rfl, hfails⟩ | ⟨inner, hinner, htakes, j, below, hbelow, hfails⟩
    · exact ⟨i, _, .here hi, hfails⟩
    · exact ⟨j, below, .inside hi hinner htakes hbelow, hfails⟩

theorem checkAll_enumerates
    (h : ∀ i ∈ items, Enumerates (i.FailsWithin (Assoc.find? i.key members))
      (i.answerReport (Assoc.find? i.key members))) :
    Enumerates (AskedFails items members) (Item.checkAll items members) := by
  have each : ∀ n i, items[n]? = some i → Enumerates
      (fun x v => ∃ j, items[n]? = some j ∧ ∃ y : List Nat × Flaw, x = (n :: y.1, y.2) ∧
        j.FailsWithin (Assoc.find? j.key members) y v)
      (i.answerReport (Assoc.find? i.key members)) := by
    intro n i hi
    have hinj : ∀ y z : List Nat × Flaw, (n :: y.1, y.2) = (n :: z.1, z.2) → y = z := by
      intro y z hyz
      simpa [Prod.ext_iff] using hyz
    refine ((h i (List.mem_of_getElem? hi)).relabel hinj).congr fun x v => ?_
    rw [hi]
    simp
  have hall := Enumerates.flatMap each <| by
    rintro m n x v w ⟨_, _, y, hy, _⟩ ⟨_, _, z, hz, _⟩
    rw [hy] at hz
    simp only [Prod.mk.injEq, List.cons.injEq] at hz
    exact hz.1.1
  rw [Item.checkAll_eq_flatMap]
  refine hall.congr fun x v => ?_
  rw [askedFails_iff]
  constructor
  · rintro ⟨n, _, i, hi, hx⟩
    exact ⟨n, i, hi, hx⟩
  · rintro ⟨n, i, hi, hx⟩
    exact ⟨n, (List.getElem?_eq_some_iff.1 hi).1, i, hi, hx⟩

theorem unknownMembers_enumerates (h : (Assoc.keys members).Nodup) :
    Enumerates (UnknownFails parent items members) (unknownMembers parent items members) := by
  have hmap := Enumerates.map (h.filter fun k => !items.any fun i => i.key == k) fun k =>
    (⟨memberPath parent k, "unknown field"⟩ : Violation)
  have hinj : ∀ k l, (([], .unknown k) : List Nat × Flaw) = ([], .unknown l) → k = l := by
    intro k l hkl
    simpa using hkl
  refine (hmap.relabel hinj).congr fun x v => ?_
  simp [UnknownFails]

/-- A check of members reports the items whose answers fail, at all depths, and the unknown keys. -/
theorem checkMembers_enumerates (hm : Assoc.Ascending members)
    (h : ∀ i ∈ items, Enumerates (i.FailsWithin (Assoc.find? i.key members))
      (i.answerReport (Assoc.find? i.key members))) :
    Enumerates (fun x v => AskedFails items members x v ∨ UnknownFails parent items members x v)
      (Item.checkAll items members ++ unknownMembers parent items members) := by
  refine (checkAll_enumerates h).append (unknownMembers_enumerates hm.nodup) ?_
  rintro x v w hasked ⟨key, rfl, _⟩
  obtain ⟨n, i, _, y, hy, _⟩ := askedFails_iff.1 hasked
  cases hy

end Members

/-! ## Answers -/

namespace Item

variable {i : Item}

/-- The faults of rules that an answer breaks. -/
def RuleFails (i : Item) (Broken : Rule → Prop) (x : List Nat × Flaw) (v : Violation) : Prop :=
  ∃ k r, x = ([], .rule k) ∧ i.rules[k]? = some r ∧ Broken r ∧ v = ⟨i.path, r.complaint⟩

theorem rules_enumerates {fault? : Rule → Option String} {Broken : Rule → Prop}
    (h : ∀ r message, fault? r = some message ↔ Broken r ∧ message = r.complaint) :
    Enumerates (i.RuleFails Broken)
      (i.rules.filterMap fun r => (fault? r).map (Violation.mk i.path)) := by
  have hinj : ∀ k l, (([], .rule k) : List Nat × Flaw) = ([], .rule l) → k = l := by
    intro k l hkl
    simpa using hkl
  refine ((Enumerates.filterMap _ i.rules).relabel hinj).congr fun x v => ?_
  constructor
  · rintro ⟨k, hx, r, hr, hv⟩
    obtain ⟨message, hmessage, rfl⟩ := Option.map_eq_some_iff.1 hv
    obtain ⟨hbroken, rfl⟩ := (h r message).1 hmessage
    exact ⟨k, r, hx, hr, hbroken, rfl⟩
  · rintro ⟨k, r, hx, hr, hbroken, rfl⟩
    exact ⟨k, hx, r, hr, Option.map_eq_some_iff.2 ⟨_, (h r _).2 ⟨hbroken, rfl⟩, rfl⟩⟩

theorem missing_enumerates : Enumerates (i.FailsWithin none) [⟨i.path, "required field"⟩] := by
  refine (Enumerates.single ([], .missing) _).congr fun x v => ?_
  constructor
  · rintro ⟨rfl, rfl⟩
    exact .inl ⟨rfl, .missing⟩
  · rintro (⟨hx, hfails⟩ | ⟨inner, hinner, _⟩)
    · obtain ⟨address, flaw⟩ := x
      cases hx
      cases hfails
      exact ⟨rfl, rfl⟩
    · cases hinner

/-- An answer of the wrong type is all there is to report, whatever is in it. -/
theorem mistyped_enumerates {value : Json} (h : ¬i.kind.Takes value) :
    Enumerates (i.FailsWithin (some value))
      [⟨i.path, "must be of " ++ i.kind.name ++ " type"⟩] := by
  refine (Enumerates.single ([], .mistyped) _).congr fun x v => ?_
  constructor
  · rintro ⟨rfl, rfl⟩
    exact .inl ⟨rfl, .mistyped h⟩
  · rintro (⟨hx, hfails⟩ | ⟨inner, hinner, htakes, _⟩)
    · obtain ⟨address, flaw⟩ := x
      cases hx
      cases hfails with
      | mistyped => exact ⟨rfl, rfl⟩
      | text htakes => exact absurd htakes h
      | count hk => exact absurd (.object (.inl hk)) h
      | unknown htakes => exact absurd htakes h
    · cases hinner
      exact absurd htakes h

theorem text_enumerates {s : String} (h : i.kind.Takes (.string s)) :
    Enumerates (i.FailsWithin (some (.string s))) (textViolations i.path i.rules s) := by
  refine (rules_enumerates fun r message => Rule.textFault?_eq_some_iff (s := s)).congr fun x v => ?_
  constructor
  · rintro ⟨k, r, rfl, hr, hbroken, rfl⟩
    exact .inl ⟨rfl, .text h hr hbroken⟩
  · rintro (⟨hx, hfails⟩ | ⟨inner, hinner, _⟩)
    · obtain ⟨address, flaw⟩ := x
      cases hx
      cases hfails with
      | mistyped hnot => exact absurd h hnot
      | text _ hr hbroken => exact ⟨_, _, rfl, hr, hbroken, rfl⟩
    · cases hinner

theorem option_enumerates {b : Bool} (h : i.kind = .option) :
    Enumerates (i.FailsWithin (some (.bool b))) [] := by
  refine .nil fun x v => ?_
  rintro (⟨_, hfails⟩ | ⟨inner, hinner, _⟩)
  · generalize x.2 = flaw at hfails
    cases hfails with
    | mistyped hnot => exact hnot (.option h)
  · cases hinner

theorem failsWithin_object_iff {inner : List (String × Json)} (h : i.kind.Takes (.object inner))
    {x : List Nat × Flaw} {v : Violation} :
    i.FailsWithin (some (.object inner)) x v ↔
      (AskedFails i.children inner x v ∨ UnknownFails (some i.path) i.children inner x v) ∨
        i.kind = .selection ∧
          i.RuleFails (Rule.CountBroken (i.selections inner)) x v := by
  obtain ⟨address, flaw⟩ := x
  constructor
  · rintro (⟨rfl, hfails⟩ | ⟨_, hinner, _, hasked⟩)
    · cases hfails with
      | mistyped hnot => exact absurd h hnot
      | count hk hr hbroken => exact .inr ⟨hk, _, _, rfl, hr, hbroken, rfl⟩
      | unknown _ hkey hfresh => exact .inl (.inr ⟨_, rfl, ⟨hkey, hfresh⟩, rfl⟩)
    · cases hinner
      exact .inl (.inl hasked)
  · rintro ((hasked | ⟨key, hx, ⟨hkey, hfresh⟩, rfl⟩) | ⟨hk, k, r, hx, hr, hbroken, rfl⟩)
    · exact .inr ⟨inner, rfl, h, hasked⟩
    · cases hx
      exact .inl ⟨rfl, .unknown h hkey hfresh⟩
    · cases hx
      exact .inl ⟨rfl, .count hk hr hbroken⟩

/-- The report on an answer has the faults at it and below it, by induction on the item: what is reported
about an object is what is reported about its members, and the count of a selection. -/
theorem answerReport_enumerates (i : Item) {answer : Option Json}
    (h : ∀ value, answer = some value → value.Proper) :
    Enumerates (i.FailsWithin answer) (i.answerReport answer) := by
  induction i using Item.induction generalizing answer with
  | step i ih =>
    have hmembers : ∀ inner, (Json.object inner).Proper → Enumerates
        (fun x v => AskedFails i.children inner x v ∨ UnknownFails (some i.path) i.children inner x v)
        (checkAll i.children inner ++ unknownMembers (some i.path) i.children inner) :=
      fun inner hp => checkMembers_enumerates hp.1 fun j hj => ih j hj fun _ hv => hp.of_find? hv
    cases answer with
    | none => exact missing_enumerates
    | some value =>
      have hproper := h value rfl
      rw [answerReport]
      by_cases htakes : i.kind.Takes value
      · cases htakes with
        | text hk =>
          rw [check_text (.text hk)]
          exact text_enumerates (.text hk)
        | option hk =>
          rw [check_option hk]
          exact option_enumerates hk
        | @object inner hk =>
          rcases hk with hk | hk
          · rw [check_selection hk]
            have hcounts : Enumerates
                (i.RuleFails (Rule.CountBroken (i.selections inner)))
                (countViolations i.path i.rules (i.selections inner)) :=
              rules_enumerates fun _ _ => Rule.countFault?_eq_some_iff
            refine ((hmembers inner hproper).append hcounts ?_).congr fun x v => ?_
            · rintro x v w (hasked | ⟨key, rfl, _⟩) ⟨k, r, hx, _⟩
              · obtain ⟨n, j, _, y, hy, _⟩ := askedFails_iff.1 hasked
                rw [hx] at hy
                cases hy
              · cases hx
            · rw [failsWithin_object_iff (.object (.inl hk))]
              simp only [hk, true_and]
          · rw [check_properties hk]
            refine (hmembers inner hproper).congr fun x v => ?_
            rw [failsWithin_object_iff (.object (.inr hk))]
            simp [hk]
      · rw [check_mistyped htakes]
        exact mistyped_enumerates htakes

end Item

/-! ## Submissions -/

namespace Form

/-- The faults of a submission other than that of its identity are those of its answers. -/
theorem checkAnswers_enumerates (f : Form) (s : Submission) (hs : s.answers.Proper) :
    Enumerates (fun x v => f.Fails s x v ∧ x ≠ .identity) (f.checkAnswers s.answers) := by
  by_cases hobject : ∃ members, s.answers = .object members
  · obtain ⟨members, hmembers⟩ := hobject
    rw [hmembers] at hs
    have hall : Enumerates
        (fun x v => AskedFails f.items members x v ∨ UnknownFails none f.items members x v)
        (Item.checkAll f.items members ++ unknownMembers none f.items members) :=
      checkMembers_enumerates hs.1 fun i _ => i.answerReport_enumerates fun _ hv => hs.of_find? hv
    have hinj : ∀ x y : List Nat × Flaw, Fault.node x.1 x.2 = .node y.1 y.2 → x = y := by
      intro x y hxy
      simpa [Prod.ext_iff] using hxy
    rw [hmembers, checkAnswers_object]
    refine (hall.relabel hinj).congr fun x v => ?_
    constructor
    · rintro ⟨y, rfl, ⟨i, answer, hasked, hfails⟩ | ⟨key, rfl, ⟨hkey, hfresh⟩, rfl⟩⟩
      · exact ⟨.item hmembers hasked hfails, by simp⟩
      · exact ⟨.unknown hmembers hkey hfresh, by simp⟩
    · rintro ⟨hfails, hne⟩
      cases hfails with
      | identity => exact absurd rfl hne
      | answers hnone => exact absurd hmembers (hnone members)
      | @unknown _ key h hkey hfresh =>
        rw [hmembers] at h
        cases h
        exact ⟨([], .unknown key), rfl, .inr ⟨key, rfl, ⟨hkey, hfresh⟩, rfl⟩⟩
      | @item _ address i answer flaw _ h hasked hf =>
        rw [hmembers] at h
        cases h
        exact ⟨(address, flaw), rfl, .inl ⟨i, answer, hasked, hf⟩⟩
  · have hnone : ∀ members, s.answers ≠ .object members := fun members h => hobject ⟨members, h⟩
    rw [checkAnswers_mistyped hnone]
    refine (Enumerates.single Fault.answers _).congr fun x v => ?_
    constructor
    · rintro ⟨rfl, rfl⟩
      exact ⟨.answers hnone, by simp⟩
    · rintro ⟨hfails, hne⟩
      cases hfails with
      | identity => exact absurd rfl hne
      | answers => exact ⟨rfl, rfl⟩
      | unknown h => exact absurd h (hnone _)
      | item h => exact absurd h (hnone _)

theorem checkIdentity_enumerates (f : Form) (s : Submission) :
    Enumerates (fun x v => f.Fails s x v ∧ x = .identity) (f.checkIdentity s.identity) := by
  unfold checkIdentity
  split
  · rename_i haccepts
    refine .nil fun x v => ?_
    rintro ⟨hfails, rfl⟩
    cases hfails with
    | identity hnot =>
      rw [haccepts] at hnot
      cases hnot
  · rename_i hnot
    refine (Enumerates.single Fault.identity _).congr fun x v => ?_
    constructor
    · rintro ⟨rfl, rfl⟩
      exact ⟨.identity (by simpa using hnot), rfl⟩
    · rintro ⟨hfails, rfl⟩
      cases hfails
      exact ⟨rfl, rfl⟩

/-- Where the objects of a submission have each key once, its faults can be put in an order without
repetition such that the report is that of their violations, and the report on the answers alone is that
of all of them but the fault of the identity. -/
theorem check_exact (f : Form) (s : Submission) (hs : s.answers.Proper) :
    ∃ faults : List (Fault × Violation), (faults.map Prod.fst).Nodup ∧
      (∀ x v, (x, v) ∈ faults ↔ f.Fails s x v) ∧ f.check s = faults.map Prod.snd ∧
      f.checkAnswers s.answers = (faults.filter fun p => p.1 ≠ .identity).map Prod.snd := by
  obtain ⟨first, hfirst, hmemf, hidentity⟩ := f.checkIdentity_enumerates s
  obtain ⟨rest, hrest, hmemr, hanswers⟩ := f.checkAnswers_enumerates s hs
  have hin : ∀ p ∈ first, p.1 = .identity := fun p hp => ((hmemf p.1 p.2).1 hp).2
  have hout : ∀ p ∈ rest, p.1 ≠ .identity := fun p hp => ((hmemr p.1 p.2).1 hp).2
  refine ⟨first ++ rest, ?_, fun x v => ?_, ?_, ?_⟩
  · rw [List.map_append, List.nodup_append]
    refine ⟨hfirst, hrest, fun x hx y hy he => ?_⟩
    obtain ⟨p, hp, rfl⟩ := List.mem_map.1 hx
    obtain ⟨q, hq, rfl⟩ := List.mem_map.1 hy
    exact hout q hq (he ▸ hin p hp)
  · rw [List.mem_append, hmemf, hmemr, ← and_or_left]
    exact and_iff_left (Decidable.em _)
  · rw [check, ← hidentity, ← hanswers, List.map_append]
  · have hnone : first.filter (fun p => p.1 ≠ .identity) = [] := by
      rw [List.filter_eq_nil_iff]
      intro p hp
      simpa using hin p hp
    have hall : rest.filter (fun p => p.1 ≠ .identity) = rest := by
      rw [List.filter_eq_self]
      intro p hp
      simpa using hout p hp
    rw [List.filter_append, hnone, hall, List.nil_append, hanswers]

/-- One selection, for which two have to be set, and only one is to choose from. -/
def choiceForm : Form :=
  ⟨⟨"bert", "lunch", by decide, by decide⟩, addressPattern,
    [⟨1, "1", .selection, [.minSelect 2], [⟨1, "1.1", .option, [], []⟩]⟩]⟩

/-- No address, an unknown key at the top and one inside, and too few options. -/
def poorChoice : Submission :=
  ⟨"bert", .object [("1", .object [("1", .bool true), ("2", .null)]), ("2", .null)]⟩

theorem check_exact_poorChoice :
    poorChoice.answers.Proper ∧ (choiceForm.check poorChoice).length = 4 ∧
      ∃ faults : List (Fault × Violation), faults.length = 4 ∧ (faults.map Prod.fst).Nodup ∧
        ∀ x v, (x, v) ∈ faults ↔ choiceForm.Fails poorChoice x v := by
  have hproper : poorChoice.answers.Proper :=
    ⟨by decide, ⟨by decide, trivial, trivial, trivial⟩, trivial, trivial⟩
  have hlength : (choiceForm.check poorChoice).length = 4 := by decide +kernel
  obtain ⟨faults, hnodup, hmem, hcheck, _⟩ := check_exact choiceForm poorChoice hproper
  rw [hcheck, List.length_map] at hlength
  exact ⟨hproper, by rw [hcheck, List.length_map, hlength], faults, hlength, hnodup, hmem⟩

end Form
end SurveyIntake
