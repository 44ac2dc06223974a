import SurveyIntake.Configuration.Writer
import SurveyIntake.Proofs.Nesting

/-!
# SurveyIntake.Proofs.Written

Configurations are read back as they are written.

* `Field.Plain`                    — a field that a document keeps as it is: its constraints stand under
  names of their own, and their values are exact.
* `Field.membersRead_properties`   — the members of `properties` are read one by one, the constraints last.
* `Field.readsAs_written`          — a plain field is read back by the reader of fields that nest no deeper.
* `Configuration.ofJsonText_text`  — a plain configuration is read back from its document.
-/

namespace SurveyIntake

open Json Json.Reader

namespace Json.Reader

variable {σ α : Type}

theorem MembersRead.append {member : σ → String → List Char → Read σ} {ms ns : List (String × Json)}
    {a b c : σ} (h : MembersRead member a ms b) (h' : MembersRead member b ns c) :
    MembersRead member a (ms ++ ns) c := by
  induction h with
  | nil => exact h'
  | cons hv _ ih => exact .cons hv (ih h')

theorem MembersRead.single {member : σ → String → List Char → Read σ} {a b : σ} {key : String} {v : Json}
    (h : ReadsAs (member a key) (':' :: chars v) b) : MembersRead member a [(key, v)] b :=
  .cons h (.nil b)

/-- Things are read one after the other if each of them is read from its text. -/
theorem itemsRead_map {item : List Char → Read α} {write : α → Json} {xs : List α}
    (h : ∀ x ∈ xs, Begins (chars (write x)) ∧ ReadsAs item (chars (write x)) x) :
    ItemsRead item (xs.map write) xs := by
  induction xs with
  | nil => exact .nil
  | cons x xs ih =>
    have hx := h x List.mem_cons_self
    exact .cons hx.1 hx.2 (ih fun y hy => h y (List.mem_cons_of_mem _ hy))

theorem begins_object (members : List (String × Json)) : Begins (chars (.object members)) := by
  rw [chars]
  exact ⟨_, _, rfl, rfl, by decide⟩

theorem readsAs_once {item : List Char → Read α} {v : Json} {x : α} (h : ReadsAs item (chars v) x)
    (name : String) : ReadsAs (once name item none) (':' :: chars v) x := h

theorem readsAs_string (s : String) : ReadsAs string (chars (.string s)) s := by
  intro rest _
  obtain ⟨text, htext, htail⟩ := stringTail_quote s rest
  have hchars : chars (.string s) = quote s := rfl
  rw [hchars, htext, string, skipSpace_of_not_space rfl]
  exact htail

theorem optionalString_quote (text : List Char) :
    optionalString ('"' :: text) =
      match string ('"' :: text) with
      | .error e => .error e
      | .ok (x, rest) => .ok (some x, rest) := rfl

theorem readsAs_optionalString (s : String) : ReadsAs optionalString (chars (.string s)) (some s) := by
  intro rest hrest
  have hstring := readsAs_string s rest hrest
  obtain ⟨text, htext, _⟩ := stringTail_quote s rest
  have hchars : chars (.string s) = quote s := rfl
  rw [hchars, htext] at hstring ⊢
  rw [optionalString_quote, hstring]

theorem readsAs_sequence {item : List Char → Read α} {items : List Json} {xs : List α}
    (h : ItemsRead item items xs) : ReadsAs (sequence (elements item)) (chars (.array items)) xs := by
  intro rest _
  rw [chars, List.cons_append, List.append_assoc, List.singleton_append, sequence,
    skipSpace_of_not_space rfl]
  exact elements_printed h rest

theorem readsAs_object {member : σ → String → List Char → Read σ} {ms : List (String × Json)} {a b : σ}
    (h : MembersRead member a ms b) (expected : String) :
    ReadsAs (object expected (members a member)) (chars (.object ms)) b := by
  intro rest _
  rw [chars, List.cons_append, List.append_assoc, List.singleton_append, object,
    skipSpace_of_not_space rfl]
  exact members_printed h rest

/-- A record is read from the text of an object. -/
theorem record_object {expected : String} {asObject asArray : List Char → Read α}
    {ms : List (String × Json)} {rest : List Char} :
    record expected asObject asArray (chars (.object ms) ++ rest) =
      asObject (memberChars ms ++ '\x7d' :: rest) := by
  rw [chars, List.cons_append, List.append_assoc, List.singleton_append, record,
    skipSpace_of_not_space rfl]
  rfl

/-- A member that may be left out is read if it is there. -/
theorem membersRead_optional {member : σ → String → List Char → Read σ} {key : String}
    {a : σ} (set : Option (Option String) → σ) (hnone : set none = a)
    (hread : ∀ s, ReadsAs (member a key) (':' :: chars (.string s)) (set (some (some s))))
    (x : Option String) : MembersRead member a (optionalMember key x) (set (x.map some)) := by
  cases x with
  | none =>
    rw [Option.map_none, hnone]
    exact .nil a
  | some s => exact .single (hread s)

end Json.Reader

theorem Kind.readsAs_name (depth : Nat) (k : Kind) :
    ReadsAs (Kind.read depth) (chars (.string k.name)) k := by
  intro rest _
  obtain ⟨text, htext, htail⟩ := stringTail_quote k.name rest
  have hchars : chars (.string k.name) = quote k.name := rfl
  have hname : Kind.ofName k.name = .ok k := by cases k <;> rfl
  rw [hchars, htext, Kind.read, skipSpace_of_not_space rfl]
  simp only [Kind.readName, htail, hname]

namespace Field

/-- A document keeps the constraints of the field as they are. Numbers are integers of 64 bits, and each
object has its keys once and in order. -/
structure Plain (f : Field) : Prop where
  names : ∀ name value, f.Declares name value → name ≠ "title" ∧ name ≠ "description" ∧ name ≠ "fields"
  exact : ∀ name value, f.Declares name value → value.Exact
  proper : ∀ name value, f.Declares name value → value.Proper

theorem written_eq (f : Field) : f.written = .object [("type", .string f.kind.name),
    ("properties", .object (propertyMembers f.title f.description (writtenAll f.children)
      f.constraints))] := by
  cases f
  rw [written]

theorem writtenAll_eq_map (fs : List Field) : writtenAll fs = fs.map written := by
  induction fs with
  | nil => rfl
  | cons f fs ih => rw [writtenAll, ih, List.map_cons]

theorem isEmpty_writtenAll (fs : List Field) : (writtenAll fs).isEmpty = fs.isEmpty := by
  cases fs <;> rfl

theorem depth_written (f : Field) : f.written.depth =
    membersDepth (propertyMembers f.title f.description (writtenAll f.children) f.constraints) + 2 := by
  simp [written_eq, Json.depth, membersDepth]

/-- What is read of the properties of a field that is written. Children are left out where there are none. -/
def Properties.ofField (f : Field) : Properties :=
  ⟨f.title.map some, f.description.map some, if f.children = [] then none else some f.children,
    f.constraints⟩

/-- What has been read of `properties` makes the field. -/
theorem ofProperties_ofField (f : Field) : ofProperties f.kind (.ofField f) = f := by
  obtain ⟨kind, title, description, children, constraints⟩ := f
  cases title <;> cases description <;> cases children <;> rfl

section Members

variable {children : List Char → Read (List Field)} {value : List Char → Read Json}

theorem Properties.member_constraint {p : Properties} {key : String} (htitle : key ≠ "title")
    (hdescription : key ≠ "description") (hfields : key ≠ "fields") (s : List Char) :
    Properties.member children value p key s =
      match memberValue value s with
      | .error e => .error e
      | .ok (x, s) => .ok ({ p with constraints := p.constraints.insert key x }, s) := by
  exact (if_neg htitle).trans ((if_neg hdescription).trans (if_neg hfields))

/-- Constraints are read in their order, each under a larger name than those before. -/
theorem membersRead_constraints {p : Properties} {t : Table String Json} {es : List (String × Json)}
    (hentries : t.entries = p.constraints.entries ++ es)
    (hnames : ∀ e ∈ es, e.1 ≠ "title" ∧ e.1 ≠ "description" ∧ e.1 ≠ "fields")
    (hvalues : ∀ e ∈ es, ReadsAs value (chars e.2) e.2) :
    MembersRead (Properties.member children value) p es { p with constraints := t } := by
  induction es generalizing p with
  | nil =>
    obtain ⟨title, description, fields, ⟨entries, ascending⟩⟩ := p
    obtain ⟨entries', ascending'⟩ := t
    obtain rfl : entries' = entries := by simpa using hentries
    exact .nil _
  | cons e es ih =>
    obtain ⟨key, x⟩ := e
    obtain ⟨htitle, hdescription, hfields⟩ := hnames _ List.mem_cons_self
    have hlast : ∀ l ∈ Assoc.keys p.constraints.entries, l < key := by
      have hascending := t.ascending
      rw [hentries, Assoc.Ascending, Assoc.keys, List.map_append] at hascending
      exact fun l hl => (List.pairwise_append.1 hascending).2.2 l hl key List.mem_cons_self
    have hinsert : (p.constraints.insert key x).entries = p.constraints.entries ++ [(key, x)] :=
      Assoc.insert_eq_append hlast
    refine .cons (b := { p with constraints := p.constraints.insert key x }) (fun rest hrest => ?_) ?_
    · rw [List.cons_append, Properties.member_constraint htitle hdescription hfields, memberValue_colon,
        hvalues _ List.mem_cons_self rest hrest]
    · refine ih ?_ (fun e he => hnames e (List.mem_cons_of_mem _ he))
        (fun e he => hvalues e (List.mem_cons_of_mem _ he))
      rw [hentries, hinsert, List.append_assoc, List.singleton_append]

/-- The members of `properties` are read if the children and the constraints are. -/
theorem membersRead_properties {f : Field} (hplain : f.Plain)
    (hchildren : f.children ≠ [] →
      ReadsAs children (chars (.array (writtenAll f.children))) f.children)
    (hvalues : ∀ e ∈ f.constraints.entries, ReadsAs value (chars e.2) e.2) :
    MembersRead (Properties.member children value) .empty
      (propertyMembers f.title f.description (writtenAll f.children) f.constraints) (.ofField f) := by
  have htitle : MembersRead (Properties.member children value) .empty (optionalMember "title" f.title)
      ⟨f.title.map some, none, none, .empty⟩ := by
    refine membersRead_optional (fun x => (⟨x, none, none, .empty⟩ : Properties)) rfl
      (fun s rest hrest => ?_) _
    have hread := readsAs_once (readsAs_optionalString s) "title" rest hrest
    rw [Properties.member, if_pos rfl]
    simp only [hread]
  have hdescription : MembersRead (Properties.member children value)
      ⟨f.title.map some, none, none, .empty⟩ (optionalMember "description" f.description)
      ⟨f.title.map some, f.description.map some, none, .empty⟩ := by
    refine membersRead_optional
      (fun x => (⟨f.title.map some, x, none, .empty⟩ : Properties)) rfl
      (fun s rest hrest => ?_) _
    have hread := readsAs_once (readsAs_optionalString s) "description" rest hrest
    rw [Properties.member, if_neg (by decide), if_pos rfl]
    simp only [hread]
  have hfields : MembersRead (Properties.member children value)
      ⟨f.title.map some, f.description.map some, none, .empty⟩
      (if (writtenAll f.children).isEmpty then [] else [("fields", .array (writtenAll f.children))])
      { Properties.ofField f with constraints := .empty } := by
    rw [isEmpty_writtenAll, Properties.ofField]
    by_cases hnil : f.children = []
    · rw [if_pos hnil, hnil]
      exact .nil _
    · rw [if_neg hnil, List.isEmpty_eq_false_iff.2 hnil]
      refine .single fun rest hrest => ?_
      have hread := readsAs_once (hchildren hnil) "fields" rest hrest
      rw [Properties.member, if_neg (by decide), if_neg (by decide), if_pos rfl]
      simp only [hread]
  have hconstraints : MembersRead (Properties.member children value)
      { Properties.ofField f with constraints := .empty } f.constraints.entries (.ofField f) :=
    membersRead_constraints rfl (fun e he => hplain.names e.1 e.2 he) hvalues
  exact ((htitle.append hdescription).append hfields).append hconstraints

end Members

/-- A field is read if its kind and its properties are. -/
theorem record_written {kind : List Char → Read Kind} {properties : List Char → Read Properties}
    {asArray : List Char → Read Field} {expected : String} {f : Field}
    (hkind : ReadsAs kind (chars (.string f.kind.name)) f.kind)
    (hproperties : ReadsAs properties
      (chars (.object (propertyMembers f.title f.description (writtenAll f.children) f.constraints)))
      (.ofField f)) :
    ReadsAs (record expected (readObject kind properties) asArray) (chars f.written) f := by
  intro rest _
  rw [written_eq, record_object, readObject]
  have htype : ReadsAs (Draft.member kind properties ⟨none, none⟩ "type")
      (':' :: chars (.string f.kind.name)) ⟨some f.kind, none⟩ := by
    intro rest hrest
    have hread := readsAs_once hkind "type" rest hrest
    rw [Draft.member, if_pos rfl]
    simp only [hread]
  have hmember : ReadsAs (Draft.member kind properties ⟨some f.kind, none⟩ "properties")
      (':' :: chars (.object (propertyMembers f.title f.description (writtenAll f.children)
        f.constraints))) ⟨some f.kind, some (.ofField f)⟩ := by
    intro rest hrest
    have hread := readsAs_once hproperties "properties" rest hrest
    rw [Draft.member, if_neg (by decide), if_pos rfl]
    simp only [hread]
  have hread := members_printed (.cons htype (.single hmember)) rest
  simp only [hread, Draft.finish, required, Option.getD_some, ofProperties_ofField]

/-- Fields are read back as an array if each of them is. -/
theorem readsAs_array {d : Nat} {fs : List Field}
    (h : ∀ f ∈ fs, ∀ depth, f.written.depth ≤ depth → ReadsAs (read depth) (chars f.written) f)
    (hdepth : (Json.array (writtenAll fs)).depth ≤ d) :
    ReadsAs (readAll d) (chars (.array (writtenAll fs))) fs := by
  obtain ⟨d', rfl⟩ : ∃ d', d = d' + 1 := ⟨d - 1, by rw [Json.depth] at hdepth; omega⟩
  rw [Json.depth, Nat.succ_le_succ_iff, itemsDepth_le_iff, writtenAll_eq_map] at hdepth
  rw [writtenAll_eq_map]
  refine readsAs_sequence (itemsRead_map fun f hf => ⟨?_, h f hf d' (hdepth _ (List.mem_map_of_mem hf))⟩)
  rw [written_eq]
  exact begins_object _

/-- A plain field is read back by the reader of fields that nest no deeper. -/
theorem readsAs_written {f : Field} (hplain : ∀ g, Within g f → g.Plain) {depth : Nat}
    (hdepth : f.written.depth ≤ depth) : ReadsAs (read depth) (chars f.written) f := by
  induction f using Field.induction generalizing depth with
  | step f ih =>
    rw [depth_written] at hdepth
    obtain ⟨d, rfl⟩ : ∃ d, depth = d + 2 := ⟨depth - 2, by omega⟩
    have hmembers := membersDepth_le_iff.1 (Nat.le_of_add_le_add_right hdepth)
    have hself := hplain f (.self f)
    have hvalues : ∀ e ∈ f.constraints.entries, ReadsAs (value d) (chars e.2) e.2 := fun e he =>
      value_chars (hself.exact e.1 e.2 he) (hself.proper e.1 e.2 he)
        (hmembers e (List.mem_append_right _ he))
    have hchildren : f.children ≠ [] →
        ReadsAs (readAll d) (chars (.array (writtenAll f.children))) f.children := by
      intro hne
      refine readsAs_array (fun g hg depth => ih g hg fun k hk => hplain k (.inner hg hk)) ?_
      refine hmembers ("fields", .array (writtenAll f.children)) ?_
      simp [propertyMembers, isEmpty_writtenAll, hne]
    exact record_written (Kind.readsAs_name (d + 1) f.kind)
      (readsAs_object (membersRead_properties hself hchildren hvalues) "struct FieldProperties")

theorem readsAs_writtenAll {fs : List Field} (hplain : ∀ f ∈ fs, ∀ g, Within g f → g.Plain) {d : Nat}
    (hdepth : (Json.array (writtenAll fs)).depth ≤ d) :
    ReadsAs (readAll d) (chars (.array (writtenAll fs))) fs :=
  readsAs_array (fun f hf _ => readsAs_written (hplain f hf)) hdepth

end Field

namespace Configuration

/-- What is read of the members of a configuration that is written. -/
def Draft.ofConfiguration (c : Configuration) : Draft :=
  ⟨some c.adminName, some c.surveyName, c.title.map some, c.identityPattern.map some, some c.fields⟩

theorem finish_ofConfiguration (c : Configuration) : (Draft.ofConfiguration c).finish = .ok c := by
  obtain ⟨adminName, surveyName, title, identityPattern, fields⟩ := c
  cases title <;> cases identityPattern <;> rfl

/-- The members of a configuration are read if its fields are. -/
theorem membersRead_members {fields : List Char → Read (List Field)} {c : Configuration}
    (hfields : ReadsAs fields (chars (.array (Field.writtenAll c.fields))) c.fields) :
    MembersRead (Draft.member fields) ⟨none, none, none, none, none⟩
      (c.documentMembers (Field.writtenAll c.fields)) (.ofConfiguration c) := by
  have hadmin : MembersRead (Draft.member fields) ⟨none, none, none, none, none⟩
      [("admin_name", .string c.adminName)] ⟨some c.adminName, none, none, none, none⟩ := by
    refine .single fun rest hrest => ?_
    have hread := readsAs_once (readsAs_string c.adminName) "admin_name" rest hrest
    rw [Draft.member, if_pos rfl]
    simp only [hread]
  have hsurvey : MembersRead (Draft.member fields) ⟨some c.adminName, none, none, none, none⟩
      [("survey_name", .string c.surveyName)]
      ⟨some c.adminName, some c.surveyName, none, none, none⟩ := by
    refine .single fun rest hrest => ?_
    have hread := readsAs_once (readsAs_string c.surveyName) "survey_name" rest hrest
    rw [Draft.member, if_neg (by decide), if_pos rfl]
    simp only [hread]
  have htitle : MembersRead (Draft.member fields) ⟨some c.adminName, some c.surveyName, none, none, none⟩
      (optionalMember "title" c.title)
      ⟨some c.adminName, some c.surveyName, c.title.map some, none, none⟩ := by
    refine membersRead_optional
      (fun x => (⟨some c.adminName, some c.surveyName, x, none, none⟩ : Draft)) rfl
      (fun s rest hrest => ?_) _
    have hread := readsAs_once (readsAs_optionalString s) "title" rest hrest
    rw [Draft.member, if_neg (by decide), if_neg (by decide), if_pos rfl]
    simp only [hread]
  have hidentity : MembersRead (Draft.member fields)
      ⟨some c.adminName, some c.surveyName, c.title.map some, none, none⟩
      (optionalMember "identity_pattern" c.identityPattern)
      { Draft.ofConfiguration c with fields := none } := by
    refine membersRead_optional (fun x =>
      (⟨some c.adminName, some c.surveyName, c.title.map some, x, none⟩ : Draft)) rfl
      (fun s rest hrest => ?_) _
    have hread := readsAs_once (readsAs_optionalString s) "identity_pattern" rest hrest
    rw [Draft.member, if_neg (by decide), if_neg (by decide), if_neg (by decide), if_pos rfl]
    simp only [hread]
  have hlast : MembersRead (Draft.member fields) { Draft.ofConfiguration c with fields := none }
      [("fields", .array (Field.writtenAll c.fields))] (.ofConfiguration c) := by
    refine .single fun rest hrest => ?_
    have hread := readsAs_once hfields "fields" rest hrest
    rw [Draft.member, if_neg (by decide), if_neg (by decide), if_neg (by decide), if_neg (by decide),
      if_pos rfl]
    simp only [hread, Draft.ofConfiguration]
  exact (((hadmin.append hsurvey).append htitle).append hidentity).append hlast

/-- A plain configuration is read back from its document, if that nests no deeper than texts may. -/
theorem ofJsonText_text {c : Configuration} (hplain : ∀ f, c.HasField f → f.Plain)
    (hdepth : c.written.depth ≤ maxDepth) : ofJsonText c.text = .ok c := by
  have hmembers : membersDepth (c.documentMembers (Field.writtenAll c.fields)) ≤ maxDepth - 1 := by
    rw [written, Json.depth] at hdepth
    omega
  have harray := membersDepth_le_iff.1 hmembers ("fields", .array (Field.writtenAll c.fields))
    (List.mem_append_right _ List.mem_cons_self)
  have hfields : ReadsAs (Field.readAll (maxDepth - 1))
      (chars (.array (Field.writtenAll c.fields))) c.fields :=
    Field.readsAs_writtenAll (fun f hf g hg => hplain g ⟨f, hf, hg⟩) harray
  have hread := members_printed (membersRead_members hfields) []
  rw [ofJsonText, document, text, render, String.toList_ofList, ← List.append_nil (chars c.written),
    read, written, record_object, readObject]
  simp only [hread, finish_ofConfiguration]
  rfl

end Configuration
end SurveyIntake
