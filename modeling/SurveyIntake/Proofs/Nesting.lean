import SurveyIntake.Configuration.Reader
import SurveyIntake.Proofs.Conformity
import SurveyIntake.Proofs.Printed

/-!
# SurveyIntake.Proofs.Nesting

How deep fields nest, and with them the answers that conform to them.

A field that is read takes three levels of its document, an answer to it takes one. So answers to what a
document asks for always fit into a text.

* `Reader.Yields`           — what a reader can make of some text.
* `Field.nesting`           — how deep a field nests.
* `Field.nesting_of_yields` — a field that is read nests no deeper than its reader goes.
* `Field.Conforms.exact_and_depth_le` — an answer to a field has no numbers, and nests no deeper than the
  field.
* `Configuration.Conforms.parse_render` — answers to a configuration that is read are read back from their
  text.
-/

namespace SurveyIntake

namespace Json.Reader

variable {σ α : Type}

/-- The reader makes this of some text. -/
def Yields (item : List Char → Read α) (x : α) : Prop := ∃ s rest, item s = .ok (x, rest)

theorem yields_of_elements {item : List Char → Read α} {xs : List α} (h : Yields (elements item) xs) :
    ∀ x ∈ xs, Yields item x := by
  obtain ⟨s, rest, h⟩ := h
  exact elementLoop_keeps (fun _ _ _ hx => ⟨_, _, hx⟩) (by simp) h

theorem of_yields_members {I : σ → Prop} {start state : σ} {member : σ → String → List Char → Read σ}
    (hstart : I start) (step : ∀ a key b, I a → Yields (member a key) b → I b)
    (h : Yields (members start member) state) : I state := by
  obtain ⟨s, rest, h⟩ := h
  exact memberLoop_keeps (fun a key s b rest ha hb => step a key b ha ⟨s, rest, hb⟩) hstart h

theorem yields_of_memberValue {item : List Char → Read α} {s rest : List Char} {x : α}
    (h : memberValue item s = .ok (x, rest)) : Yields item x := by
  obtain ⟨t, ht⟩ := exists_of_memberValue h
  exact ⟨t, rest, ht⟩

theorem yields_of_once {name : String} {item : List Char → Read α} {old : Option α} {s rest : List Char}
    {x : α} (h : once name item old s = .ok (x, rest)) : Yields item x := by
  unfold once at h
  split at h
  · cases h
  · exact yields_of_memberValue h

theorem yields_of_field? {item : List Char → Read α} {first : Bool} {s rest : List Char} {x : α}
    (h : field? item first s = .ok (some x, rest)) : Yields item x := by
  unfold field? at h
  split at h
  · cases h
  · cases h
  · split at h
    · cases h
    · rename_i hx
      cases h
      exact ⟨_, _, hx⟩

theorem yields_of_sequence {inside : List Char → Read α} {x : α} (h : Yields (sequence inside) x) :
    Yields inside x := by
  obtain ⟨s, rest, h⟩ := h
  unfold sequence at h
  split at h
  · cases h
  · exact ⟨_, _, h⟩
  · cases h

theorem yields_of_object {expected : String} {inside : List Char → Read α} {x : α}
    (h : Yields (object expected inside) x) : Yields inside x := by
  obtain ⟨s, rest, h⟩ := h
  unfold object at h
  split at h
  · cases h
  · exact ⟨_, _, h⟩
  · cases h

theorem yields_of_record {expected : String} {asObject asArray : List Char → Read α} {x : α}
    (h : Yields (record expected asObject asArray) x) : Yields asObject x ∨ Yields asArray x := by
  obtain ⟨s, rest, h⟩ := h
  unfold record at h
  split at h
  · cases h
  · exact .inl ⟨_, _, h⟩
  · split at h
    · cases h
    · rename_i hx
      split at h
      · cases h
      · cases h
        exact .inr ⟨_, _, hx⟩
  · cases h

theorem not_yields_tooDeep (x : α) : ¬Yields tooDeep x := by
  rintro ⟨s, rest, h⟩
  cases h

theorem yields_of_document {item : List Char → Read α} {text : String} {x : α}
    (h : document item text = .ok x) : Yields item x := by
  unfold document at h
  split at h
  · cases h
  · rename_i hx
    split at h
    · cases h
      exact ⟨_, _, hx⟩
    · cases h

end Json.Reader

open Json Json.Reader

namespace Field

/-! ## Fields that are read -/

mutual

/-- How deep fields nest: one level where there are no children. -/
def nesting : Field → Nat
  | ⟨_, _, _, children, _⟩ => nestingAll children + 1

def nestingAll : List Field → Nat
  | [] => 0
  | f :: fs => max (nesting f) (nestingAll fs)

end

theorem nestingAll_le_iff {fs : List Field} {n : Nat} : nestingAll fs ≤ n ↔ ∀ f ∈ fs, f.nesting ≤ n := by
  induction fs with
  | nil => simp [nestingAll]
  | cons f fs ih => simp [nestingAll, ih]

theorem nesting_eq (f : Field) : f.nesting = nestingAll f.children + 1 := by
  cases f
  rw [nesting]

section Read

variable {kind : List Char → Read Kind} {properties : List Char → Read Properties}
  {children : List Char → Read (List Field)} {value : List Char → Read Json}

/-- What the reader of a member of `properties` makes of what has been read before. A constraint has none
of the names that mean something else. -/
theorem Properties.member_cases {p q : Properties} {key : String}
    (h : Yields (Properties.member children value p key) q) :
    (∃ x, q = { p with title := some x }) ∨ (∃ x, q = { p with description := some x }) ∨
      (∃ fs, Yields children fs ∧ q = { p with children := some fs }) ∨
      ∃ x, (key ≠ "title" ∧ key ≠ "description" ∧ key ≠ "fields") ∧ Yields value x ∧
        q = { p with constraints := p.constraints.insert key x } := by
  obtain ⟨s, rest, h⟩ := h
  unfold Properties.member at h
  split at h
  · split at h
    · cases h
    · cases h
      exact .inl ⟨_, rfl⟩
  split at h
  · split at h
    · cases h
    · cases h
      exact .inr (.inl ⟨_, rfl⟩)
  split at h
  · split at h
    · cases h
    · rename_i hx
      cases h
      exact .inr (.inr (.inl ⟨_, yields_of_once hx, rfl⟩))
  · split at h
    · cases h
    · rename_i htitle hdescription hfields _ _ _ hx
      cases h
      exact .inr (.inr (.inr ⟨_, ⟨htitle, hdescription, hfields⟩, yields_of_memberValue hx, rfl⟩))

theorem Draft.member_cases {d e : Draft} {key : String} (h : Yields (Draft.member kind properties d key) e) :
    (∃ k, e = { d with kind := some k }) ∨
      (∃ p, Yields properties p ∧ e = { d with properties := some p }) ∨ e = d := by
  obtain ⟨s, rest, h⟩ := h
  unfold Draft.member at h
  split at h
  · split at h
    · cases h
    · cases h
      exact .inl ⟨_, rfl⟩
  split at h
  · split at h
    · cases h
    · rename_i hx
      cases h
      exact .inr (.inl ⟨_, yields_of_once hx, rfl⟩)
  · split at h
    · cases h
    · cases h
      exact .inr (.inr rfl)

theorem children_of_yields_properties {expected : String} {p : Properties}
    (h : Yields (object expected (members .empty (Properties.member children value))) p) :
    ∀ fs, p.children = some fs → Yields children fs := by
  refine of_yields_members (I := fun p : Properties => ∀ fs, p.children = some fs → Yields children fs)
    (fun fs hfs => by cases hfs) (fun p key q hp hq => ?_) (yields_of_object h)
  rcases Properties.member_cases hq with ⟨_, rfl⟩ | ⟨_, rfl⟩ | ⟨fs, hread, rfl⟩ | ⟨_, _, _, rfl⟩
  · exact hp
  · exact hp
  · rintro _ ⟨⟩
    exact hread
  · exact hp

theorem properties_of_yields_members {d : Draft}
    (h : Yields (members ⟨none, none⟩ (Draft.member kind properties)) d) :
    ∀ p, d.properties = some p → Yields properties p := by
  refine of_yields_members (I := fun d : Draft => ∀ p, d.properties = some p → Yields properties p)
    (fun p hp => by cases hp) (fun d key e hd he => ?_) h
  rcases Draft.member_cases he with ⟨_, rfl⟩ | ⟨p, hread, rfl⟩ | rfl
  · exact hd
  · rintro _ ⟨⟩
    exact hread
  · exact hd

/-- A field that is read is made of properties that are, or of none. -/
theorem exists_properties {expected : String} {f : Field}
    (h : Yields (record expected (readObject kind properties) (readArray kind properties)) f) :
    ∃ k p, f = ofProperties k (p.getD .empty) ∧ ∀ q, p = some q → Yields properties q := by
  rcases yields_of_record h with ⟨s, rest, h⟩ | ⟨s, rest, h⟩
  · unfold readObject at h
    split at h
    · cases h
    · rename_i d _ hd
      split at h
      · cases h
      · rename_i hfinish
        cases h
        unfold Draft.finish at hfinish
        split at hfinish
        · cases hfinish
        · cases hfinish
          exact ⟨_, d.properties, rfl, properties_of_yields_members ⟨_, _, hd⟩⟩
  · unfold readArray at h
    split at h
    · cases h
    · cases h
    · split at h
      · cases h
      · rename_i hp
        cases h
        refine ⟨_, _, rfl, ?_⟩
        rintro q rfl
        exact yields_of_field? hp

end Read

/-- What is read nests no deeper than its reader goes. -/
theorem nesting_of_yields (depth : Nat) :
    (∀ f, Yields (read depth) f → f.nesting ≤ depth) ∧
    (∀ p, Yields (readProperties depth) p → ∀ fs, p.children = some fs → nestingAll fs ≤ depth) ∧
    ∀ fs, Yields (readAll depth) fs → nestingAll fs ≤ depth := by
  induction depth with
  | zero =>
    refine ⟨fun f h => ?_, fun p h => ?_, fun fs h => ?_⟩
    · have hrecord : Yields (record "struct FieldModel" tooDeep tooDeep) f := h
      rcases yields_of_record hrecord with h | h
      · exact absurd h (not_yields_tooDeep f)
      · exact absurd h (not_yields_tooDeep f)
    · exact absurd (yields_of_object h) (not_yields_tooDeep p)
    · exact absurd (yields_of_sequence h) (not_yields_tooDeep fs)
  | succ depth ih =>
    obtain ⟨ihfield, ihproperties, ihall⟩ := ih
    refine ⟨fun f h => ?_, fun p h fs hfs => ?_, fun fs h => ?_⟩
    · obtain ⟨k, p, rfl, hp⟩ := exists_properties h
      rw [nesting_eq, Nat.succ_le_succ_iff]
      cases p with
      | none => exact Nat.zero_le _
      | some p =>
        cases hfs : p.children with
        | none => simp [ofProperties, hfs, nestingAll]
        | some fs =>
          have := ihproperties p (hp p rfl) fs hfs
          simpa [ofProperties, hfs] using this
    · exact Nat.le_succ_of_le (ihall fs (children_of_yields_properties h fs hfs))
    · refine Nat.le_succ_of_le (nestingAll_le_iff.2 fun f hf => ihfield f ?_)
      exact yields_of_elements (yields_of_sequence h) f hf

/-! ## Answers -/

/-- The member of an answer is an answer to a child. -/
theorem exists_child {n : Nat} {members : List (String × Json)} (hkeys : HasKeys n members)
    (hascending : Assoc.Ascending members) {e : String × Json} (he : e ∈ members) :
    ∃ i, i < n ∧ Assoc.find? (toString (i + 1)) members = some e.2 := by
  obtain ⟨key, value⟩ := e
  obtain ⟨i, hi, hn, rfl⟩ := (hkeys key).1 (Assoc.mem_keys_iff.2 ⟨value, he⟩)
  obtain ⟨j, rfl⟩ : ∃ j, i = j + 1 := ⟨i - 1, by omega⟩
  exact ⟨j, by omega, hascending.find?_eq_some_iff.2 he⟩

/-- An object has no numbers and nests as deep as some fields, if each of its members is so to one of them. -/
theorem object_exact_and_depth_le {fields : List Field} {members : List (String × Json)}
    (hkeys : HasKeys fields.length members) (hproper : (Json.object members).Proper)
    (hvalue : ∀ i g value, fields[i]? = some g → Assoc.find? (toString (i + 1)) members = some value →
      value.Proper → value.Exact ∧ value.depth ≤ g.nesting) :
    (Json.object members).Exact ∧ (Json.object members).depth ≤ nestingAll fields + 1 := by
  have hmember : ∀ e ∈ members, e.2.Exact ∧ e.2.depth ≤ nestingAll fields := by
    intro e he
    obtain ⟨i, hi, hfind⟩ := exists_child hkeys hproper.1 he
    have hfield : fields[i]? = some fields[i] := List.getElem?_eq_getElem hi
    obtain ⟨hexact, hdepth⟩ := hvalue i fields[i] e.2 hfield hfind (membersProper_iff.1 hproper.2 e he)
    exact ⟨hexact, Nat.le_trans hdepth (nestingAll_le_iff.1 (Nat.le_refl _) _ (List.getElem_mem hi))⟩
  rw [Json.depth, Nat.succ_le_succ_iff, membersDepth_le_iff]
  exact ⟨membersExact_iff.2 fun e he => (hmember e he).1, fun e he => (hmember e he).2⟩

/-- An answer to a field has no numbers, and nests no deeper than the field. -/
theorem Conforms.exact_and_depth_le {matching : String → String → Prop} {f : Field} {v : Json}
    (h : f.Conforms matching v) (hproper : v.Proper) :
    v.Exact ∧ v.depth ≤ f.nesting := by
  induction h with
  | text => exact ⟨trivial, Nat.zero_le _⟩
  | option => exact ⟨trivial, Nat.zero_le _⟩
  | @object f members _ hkeys _ _ ih =>
    rw [nesting_eq]
    exact object_exact_and_depth_le hkeys hproper ih

end Field

namespace Configuration

theorem Draft.member_cases {fields : List Char → Read (List Field)} {d e : Draft} {key : String}
    (h : Yields (Draft.member fields d key) e) :
    (∃ fs, Yields fields fs ∧ e = { d with fields := some fs }) ∨ e.fields = d.fields := by
  obtain ⟨s, rest, h⟩ := h
  unfold Draft.member at h
  -- The other names are of texts.
  iterate 4
    split at h
    · split at h
      · cases h
      · cases h
        exact .inr rfl
  split at h
  · split at h
    · cases h
    · rename_i hx
      cases h
      exact .inl ⟨_, yields_of_once hx, rfl⟩
  · split at h
    · cases h
    · cases h
      exact .inr rfl

theorem fields_of_yields_members {fields : List Char → Read (List Field)} {d : Draft}
    (h : Yields (members ⟨none, none, none, none, none⟩ (Draft.member fields)) d) :
    ∀ fs, d.fields = some fs → Yields fields fs := by
  refine of_yields_members (I := fun d : Draft => ∀ fs, d.fields = some fs → Yields fields fs)
    (fun fs hfs => by cases hfs) (fun d key e hd he => ?_) h
  rcases Draft.member_cases he with ⟨fs, hread, rfl⟩ | hfields
  · rintro _ ⟨⟩
    exact hread
  · rw [hfields]
    exact hd

theorem required_eq_ok {α : Type} {name : String} {x? : Option α} {x : α}
    (h : required name x? = .ok x) : x? = some x := by
  unfold required at h
  split at h
  · cases h
    rfl
  · cases h

/-- The fields of a configuration that is read are read. -/
theorem yields_fields {depth : Nat} {c : Configuration} (h : Yields (read depth) c) :
    Yields (Field.readAll depth) c.fields := by
  rcases yields_of_record h with ⟨s, rest, h⟩ | ⟨s, rest, h⟩
  · unfold readObject at h
    split at h
    · cases h
    · rename_i d _ hd
      split at h
      · cases h
      · rename_i hfinish
        cases h
        unfold Draft.finish at hfinish
        split at hfinish
        · cases hfinish
        split at hfinish
        · cases hfinish
        split at hfinish
        · cases hfinish
        · rename_i hfields
          cases hfinish
          exact fields_of_yields_members ⟨_, _, hd⟩ _ (required_eq_ok hfields)
  · unfold readArray at h
    split at h
    · cases h
    · cases h
    split at h
    · cases h
    · cases h
    split at h
    · cases h
    split at h
    · cases h
    split at h
    · cases h
    · cases h
    · rename_i hfields
      cases h
      exact yields_of_field? hfields

/-- Answers to a configuration that is read are read back from their text. -/
theorem Conforms.parse_render {matching : String → String → Prop} {c : Configuration} {text : String}
    (hc : ofJsonText text = .ok c) {x : Submission} (hx : c.Conforms matching x) (hproper : x.answers.Proper) :
    parse x.answers.render = .ok x.answers := by
  have hnesting : Field.nestingAll c.fields ≤ maxDepth - 1 :=
    (Field.nesting_of_yields _).2.2 _ (yields_fields (yields_of_document hc))
  obtain ⟨members, hmembers, hkeys, hconforms⟩ := hx.answers
  rw [hmembers] at hproper ⊢
  obtain ⟨hexact, hdepth⟩ := Field.object_exact_and_depth_le hkeys hproper
    fun i f value hf hfind => (hconforms i f value hf hfind).exact_and_depth_le
  exact Json.parse_render hexact hproper (Nat.le_trans hdepth (Nat.succ_le_succ hnesting))

end Configuration
end SurveyIntake
