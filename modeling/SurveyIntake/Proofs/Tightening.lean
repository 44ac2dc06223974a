import SurveyIntake.Proofs.Conformity

/-!
# SurveyIntake.Proofs.Tightening

Configurations that ask the same fields and more of them, and that these let no more through.

* `Narrows`                — a value of a constraint says at least what another value of it does.
* `Field.Narrows`          — a field declares what another does, or more, leaving its children to themselves.
* `Field.Tightens`, `Configuration.Tightens` — so it is at every field of two trees of one shape.
* `Field.Tightens.conforms` — what is as a tighter field asks is as a looser one does.
* `Configuration.tightening_admits_no_more` — a tighter configuration accepts nothing new.

A pattern declared for an address narrows nothing: it takes the place of the pattern of addresses.
-/

namespace SurveyIntake

/-! ## Narrower constraints -/

/-- Under the constraint of this name the first value asks for what the second does, or for more: least
values may only grow, greatest ones only shrink, and regular expressions stay. -/
inductive Narrows (name : String) : Json → Json → Prop where
  | min {m n : Nat} : name = "min_chars" ∨ name = "min_select" → m ≤ n → Narrows name (.nat n) (.nat m)
  | max {m n : Nat} : name = "max_chars" ∨ name = "max_select" → n ≤ m → Narrows name (.nat n) (.nat m)
  | regex {value : Json} : name = "regex" → Narrows name value value

theorem Narrows.of_min {name : String} {value : Json} {m : Nat}
    (hname : name = "min_chars" ∨ name = "min_select") (h : Narrows name value (.nat m)) :
    ∃ n, value = .nat n ∧ m ≤ n := by
  generalize hold : Json.nat m = old at h
  cases h with
  | min _ hle =>
    cases Json.nat_inj.1 hold
    exact ⟨_, rfl, hle⟩
  | max hmax => rcases hname with rfl | rfl <;> simp at hmax
  | regex hregex => rcases hname with rfl | rfl <;> simp at hregex

theorem Narrows.of_max {name : String} {value : Json} {m : Nat}
    (hname : name = "max_chars" ∨ name = "max_select") (h : Narrows name value (.nat m)) :
    ∃ n, value = .nat n ∧ n ≤ m := by
  generalize hold : Json.nat m = old at h
  cases h with
  | min hmin => rcases hname with rfl | rfl <;> simp at hmin
  | max _ hle =>
    cases Json.nat_inj.1 hold
    exact ⟨_, rfl, hle⟩
  | regex hregex => rcases hname with rfl | rfl <;> simp at hregex

theorem Narrows.of_regex {value : Json} {source : String} (h : Narrows "regex" value (.string source)) :
    value = .string source := by
  generalize hold : Json.string source = old at h
  cases h with
  | min hmin => simp at hmin
  | max hmax => simp at hmax
  | regex => rfl

/-! ## Tighter fields -/

namespace Field

/-- The first field is of the kind of the second and has each of its constraints, with a value that narrows
it. An address for which the second declares no pattern has none in the first. -/
structure Narrows (g f : Field) : Prop where
  kind : g.kind = f.kind
  constraints : ∀ name old, f.Declares name old → ∃ new, g.Declares name new ∧ SurveyIntake.Narrows name new old
  address : f.kind = .email → (∀ value, ¬f.Declares "regex" value) → ∀ value, ¬g.Declares "regex" value

/-- The first field narrows the second, and so it is with all fields below them, which are as many. -/
inductive Tightens : Field → Field → Prop where
  | mk {g f : Field} : g.Narrows f → g.children.length = f.children.length →
      (∀ (n : Nat) (a b : Field), g.children[n]? = some a → f.children[n]? = some b → Tightens a b) → Tightens g f

variable {f g : Field} {matching : String → String → Prop}

theorem Narrows.exists_bound (h : g.Narrows f) {name : String} {m : Nat}
    (hname : name = "min_chars" ∨ name = "min_select") (hd : f.Declares name (.nat m)) :
    ∃ n, g.Declares name (.nat n) ∧ m ≤ n := by
  obtain ⟨new, hnew, hnarrows⟩ := h.constraints name _ hd
  obtain ⟨n, rfl, hle⟩ := hnarrows.of_min hname
  exact ⟨n, hnew, hle⟩

theorem Narrows.exists_limit (h : g.Narrows f) {name : String} {m : Nat}
    (hname : name = "max_chars" ∨ name = "max_select") (hd : f.Declares name (.nat m)) :
    ∃ n, g.Declares name (.nat n) ∧ n ≤ m := by
  obtain ⟨new, hnew, hnarrows⟩ := h.constraints name _ hd
  obtain ⟨n, rfl, hle⟩ := hnarrows.of_max hname
  exact ⟨n, hnew, hle⟩

theorem Narrows.textFits (h : g.Narrows f) {s : String} (hg : g.TextFits matching s) :
    f.TextFits matching s where
  minChars m hm := by
    obtain ⟨n, hn, hle⟩ := h.exists_bound (.inl rfl) hm
    exact Nat.le_trans hle (hg.minChars n hn)
  maxChars m hm := by
    obtain ⟨n, hn, hle⟩ := h.exists_limit (.inl rfl) hm
    exact Nat.le_trans (hg.maxChars n hn) hle
  regex source hs := by
    obtain ⟨new, hnew, hnarrows⟩ := h.constraints "regex" _ hs
    rw [hnarrows.of_regex] at hnew
    exact hg.regex source hnew
  address hk hnone := hg.address (h.kind.trans hk) (h.address hk hnone)

theorem Narrows.countFits (h : g.Narrows f) {members : List (String × Json)}
    (hcount : g.selections members = f.selections members) (hg : g.CountFits members) :
    f.CountFits members where
  minSelect m hm := by
    obtain ⟨n, hn, hle⟩ := h.exists_bound (.inr rfl) hm
    exact hcount ▸ Nat.le_trans hle (hg.minSelect n hn)
  maxSelect m hm := by
    obtain ⟨n, hn, hle⟩ := h.exists_limit (.inr rfl) hm
    exact hcount ▸ Nat.le_trans (hg.maxSelect n hn) hle

theorem Tightens.narrows (h : g.Tightens f) : g.Narrows f := by
  cases h with
  | mk hnarrows => exact hnarrows

theorem Tightens.length_eq (h : g.Tightens f) : g.children.length = f.children.length := by
  cases h with
  | mk _ hlength => exact hlength

theorem Tightens.children (h : g.Tightens f) {n : Nat} {a b : Field} (ha : g.children[n]? = some a)
    (hb : f.children[n]? = some b) : a.Tightens b := by
  cases h with
  | mk _ _ hchildren => exact hchildren n a b ha hb

/-- Selections are counted by the kinds of children, which are the same. -/
theorem Tightens.selections_eq (h : g.Tightens f) (members : List (String × Json)) :
    g.selections members = f.selections members := by
  have hkinds : g.children.map Field.kind = f.children.map Field.kind := by
    refine List.ext_getElem? fun n => ?_
    rw [List.getElem?_map, List.getElem?_map]
    cases ha : g.children[n]? with
    | none => rw [List.getElem?_eq_none (h.length_eq ▸ List.getElem?_eq_none_iff.1 ha)]
    | some a =>
      have hn : n < f.children.length := h.length_eq ▸ (List.getElem?_eq_some_iff.1 ha).1
      have hb := List.getElem?_eq_getElem hn
      rw [hb]
      exact congrArg some (h.children ha hb).narrows.kind
  have hasked : ∀ fs : List Field, (fs.zipIdx 1).map (fun p => (p.1.kind, toString p.2)) =
      ((fs.map Field.kind).zipIdx 1).map fun p => (p.1, toString p.2) := by
    intro fs
    rw [List.zipIdx_map, List.map_map]
    rfl
  rw [selections, selections, hasked, hasked, hkinds]

/-- What is as a tighter field asks is as the looser one asks, by induction on how it is. -/
theorem Tightens.conforms (h : g.Tightens f) {value : Json} (hg : g.Conforms matching value) :
    f.Conforms matching value := by
  induction hg generalizing f with
  | text hk hfits => exact .text (h.narrows.kind ▸ hk) (h.narrows.textFits hfits)
  | option hk => exact .option (h.narrows.kind ▸ hk)
  | @object g members hk hkeys _ hcount ih =>
    refine .object (h.narrows.kind ▸ hk) (h.length_eq ▸ hkeys) (fun n b value hb hvalue => ?_) fun hs => ?_
    · have hn : n < g.children.length := h.length_eq ▸ (List.getElem?_eq_some_iff.1 hb).1
      have ha := List.getElem?_eq_getElem hn
      exact ih n _ value ha hvalue (h.children ha hb)
    · exact h.narrows.countFits (h.selections_eq members) (hcount (h.narrows.kind.trans hs))

end Field

/-! ## Tighter configurations -/

namespace Configuration

/-- The first configuration has the pattern of identities of the second, and as many fields, each of which
tightens the one at its place. -/
structure Tightens (d c : Configuration) : Prop where
  identity : d.identitySource = c.identitySource
  length : d.fields.length = c.fields.length
  fields : ∀ (n : Nat) (g f : Field), d.fields[n]? = some g → c.fields[n]? = some f → g.Tightens f

theorem Tightens.conforms {c d : Configuration} {matching : String → String → Prop} (h : d.Tightens c)
    {s : Submission} (hs : d.Conforms matching s) : c.Conforms matching s := by
  refine ⟨h.identity ▸ hs.identity, ?_⟩
  obtain ⟨members, hmembers, hkeys, hconforms⟩ := hs.answers
  refine ⟨members, hmembers, h.length ▸ hkeys, fun n f value hf hvalue => ?_⟩
  have hn : n < d.fields.length := h.length ▸ (List.getElem?_eq_some_iff.1 hf).1
  have hg := List.getElem?_eq_getElem hn
  exact (h.fields n _ f hg hf).conforms (hconforms n _ value hg hvalue)

/-- Whatever a tighter configuration accepts is accepted by the looser one. -/
theorem tightening_admits_no_more {c d : Configuration} {loose tight : Form} (hc : c.compile = .ok loose)
    (hd : d.compile = .ok tight) (h : d.Tightens c) (s : Submission) (hs : tight.check s = []) :
    loose.check s = [] := by
  rw [check_eq_nil_iff hd] at hs
  rw [check_eq_nil_iff hc]
  exact h.conforms hs

/-- What `tripSurvey` asks, with less to be selected and an address of any length. -/
def easyTrip : Configuration :=
  let choices := (Field.ofKind .selection).withConstraint "min_select" (.nat 2)
  { Configuration.ofNames "ann" "trips" with
    fields := [(choices.withChild (Field.ofKind .option)).withChild (Field.ofKind .list),
      Field.ofKind .email] }

def easyTripForm : Form :=
  { tripForm with
    items := [⟨1, "1", .selection, [.minSelect 2], [⟨1, "1.1", .option, [], []⟩, ⟨2, "1.2", .list, [], []⟩]⟩,
      ⟨2, "2", .email, [.pattern addressPattern], []⟩] }

theorem tripSurvey_tightens : tripSurvey.Tightens easyTrip := by
  have plain : ∀ kind, (Field.ofKind kind).Tightens (Field.ofKind kind) := fun kind =>
    .mk ⟨rfl, fun name old h => absurd h List.not_mem_nil, fun _ h => h⟩ rfl fun n a b ha => by cases ha
  refine ⟨rfl, rfl, fun n g f hg hf => ?_⟩
  rcases n with _ | _ | n
  · cases hg
    cases hf
    refine .mk ⟨rfl, fun name old h => ?_, fun h => by cases h⟩ rfl fun n a b ha hb => ?_
    · cases List.mem_singleton.1 h
      exact ⟨_, List.mem_singleton.2 rfl, .min (.inr rfl) (by decide)⟩
    · rcases n with _ | _ | n <;> cases ha <;> cases hb <;> exact plain _
  · cases hg
    cases hf
    refine .mk ⟨rfl, fun name old h => absurd h List.not_mem_nil, fun _ _ value h => ?_⟩ rfl
      fun n a b ha => by cases ha
    have hname : "regex" = "max_chars" := congrArg Prod.fst (List.mem_singleton.1 h)
    exact absurd hname (by decide)
  · cases hg

theorem tightening_admits_no_more_trip :
    easyTrip.compile = .ok easyTripForm ∧ tripSurvey.compile = .ok tripForm ∧
      tripSurvey.Tightens easyTrip ∧ tripForm.check tripSubmission = [] ∧
      easyTripForm.check tripSubmission = [] := by
  have heasy : easyTrip.compile = .ok easyTripForm := rfl
  have htrip : tripSurvey.compile = .ok tripForm := rfl
  have haccepts : tripForm.check tripSubmission = [] := by decide +kernel
  exact ⟨heasy, htrip, tripSurvey_tightens, haccepts,
    tightening_admits_no_more heasy htrip tripSurvey_tightens tripSubmission haccepts⟩

end Configuration
end SurveyIntake
