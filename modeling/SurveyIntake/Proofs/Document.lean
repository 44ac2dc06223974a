import Mathlib.Tactic.SplitIfs
import SurveyIntake.Proofs.Written

/-!
# SurveyIntake.Proofs.Document

Whatever document a configuration has been read from, its own document is read back.

A field stands three levels below the one around it, so the levels at which fields begin are multiples of
three, and 127 is none. A field that is read therefore always leaves a level for `properties`, which its
document may have left out.

* `Json.RealFree`                      — a value without binary64 numbers.
* `Reader.depth_le_and_exact_of_value` — a value that is read nests no deeper than its reader goes, and is
  exact without such numbers.
* `Field.Kept`                         — the constraints of a field are such as can be read.
* `Field.kept_of_yields`, `Field.depth_written_of_yields` — those of a field that is read are, and the field
  nests no deeper when it is written.
* `Configuration.documents_round_trip` — plain configurations are read back from their documents, and those
  that are read without binary64 numbers are plain.
-/

namespace SurveyIntake
namespace Json

/-! ## Values -/

mutual

/-- No number is a binary64 one. -/
def RealFree : Json → Prop
  | .number (.real _) => False
  | .array items => ItemsRealFree items
  | .object members => MembersRealFree members
  | _ => True

def ItemsRealFree : List Json → Prop
  | [] => True
  | item :: items => RealFree item ∧ ItemsRealFree items

def MembersRealFree : List (String × Json) → Prop
  | [] => True
  | (_, value) :: members => RealFree value ∧ MembersRealFree members

end

theorem itemsRealFree_iff {items : List Json} : ItemsRealFree items ↔ ∀ v ∈ items, v.RealFree := by
  induction items with
  | nil => simp [ItemsRealFree]
  | cons v items ih => simp [ItemsRealFree, ih]

theorem membersRealFree_iff {members : List (String × Json)} :
    MembersRealFree members ↔ ∀ e ∈ members, e.2.RealFree := by
  induction members with
  | nil => simp [MembersRealFree]
  | cons e members ih => simp [MembersRealFree, ih]

namespace Lexeme

theorem integer_ne_of_realNumber {negative : Bool} {value : Nat} {power i : Int} {s rest : List Char} :
    realNumber negative value power s ≠ .ok (.integer i, rest) := by
  unfold realNumber
  split <;> intro h <;> cases h

theorem whole_value_le {d : Digits} (h : d.value ≤ maxNatural) (c : Char) :
    (d.whole c).value ≤ maxNatural := by
  unfold Digits.whole
  dsimp only
  split
  · exact h
  · rename_i hfits
    simp only [Bool.or_eq_true, decide_eq_true_eq, not_or, Nat.not_lt] at hfits
    exact hfits.2

theorem foldl_whole_value_le {d : Digits} (h : d.value ≤ maxNatural) (cs : List Char) :
    (cs.foldl Digits.whole d).value ≤ maxNatural := by
  induction cs generalizing d with
  | nil => exact h
  | cons c cs ih => exact ih (whole_value_le h c)

theorem integer_of_wholeNumber {negative : Bool} {d : Digits} (hd : d.value ≤ maxNatural)
    {s rest : List Char} {i : Int} (h : wholeNumber negative d s = .ok (.integer i, rest)) :
    minInteger ≤ i ∧ i ≤ maxNatural := by
  have hmin : minInteger ≤ 0 := by decide
  unfold wholeNumber at h
  split at h
  · exact absurd h integer_ne_of_realNumber
  split at h
  · cases h
    omega
  split at h
  · exact absurd h integer_ne_of_realNumber
  · cases h
    omega

theorem integer_ne_of_exponentTail {negative : Bool} {d : Digits} {i : Int} {s rest : List Char} :
    exponentTail negative d s ≠ .ok (.integer i, rest) := by
  unfold exponentTail
  intro h
  split at h
  split at h
  · cases h
  dsimp only at h
  split_ifs at h <;> exact integer_ne_of_realNumber h

/-- With a point or an exponent, a number is no integer. -/
theorem integer_of_numberTail {negative : Bool} {d : Digits} (hd : d.value ≤ maxNatural)
    {s rest : List Char} {i : Int} (h : numberTail negative d s = .ok (.integer i, rest)) :
    minInteger ≤ i ∧ i ≤ maxNatural := by
  unfold numberTail at h
  split at h
  · split at h
    · cases h
    split at h
    · cases h
    dsimp only at h
    split at h
    · exact absurd h integer_ne_of_exponentTail
    · exact absurd h integer_ne_of_exponentTail
    · exact absurd h integer_ne_of_realNumber
  · exact absurd h integer_ne_of_exponentTail
  · exact absurd h integer_ne_of_exponentTail
  · exact integer_of_wholeNumber hd h

theorem integer_of_unsigned {negative : Bool} {s rest : List Char} {i : Int}
    (h : unsigned negative s = .ok (.integer i, rest)) : minInteger ≤ i ∧ i ≤ maxNatural := by
  unfold unsigned at h
  split at h
  · cases h
  · split at h
    · cases h
    · exact integer_of_numberTail (Nat.zero_le _) h
  · split at h
    · cases h
    · exact integer_of_numberTail (foldl_whole_value_le (Nat.zero_le _) _) h

/-- An integer that is read has 64 bits. -/
theorem integer_of_number {s rest : List Char} {i : Int} (h : number s = .ok (.integer i, rest)) :
    minInteger ≤ i ∧ i ≤ maxNatural := by
  unfold number at h
  split at h <;> exact integer_of_unsigned h

end Lexeme

namespace Reader

theorem depth_and_exact_of_scalar {s rest : List Char} {v : Json} (h : scalar s = .ok (v, rest)) :
    v.depth = 0 ∧ (v.RealFree → v.Exact) := by
  simp only [scalar] at h
  split at h
  · cases h
  · split at h
    · cases h
    · cases h
      exact ⟨rfl, fun _ => trivial⟩
  · split at h
    · cases h
    · cases h
      exact ⟨rfl, fun _ => trivial⟩
  · split at h
    · cases h
    · cases h
      exact ⟨rfl, fun _ => trivial⟩
  · split at h
    · cases h
    · cases h
      exact ⟨rfl, fun _ => trivial⟩
  · split at h
    · split at h
      · cases h
      · rename_i n _ hnumber
        cases h
        refine ⟨rfl, fun hfree => ?_⟩
        cases n with
        | integer i => exact Lexeme.integer_of_number hnumber
        | real x => exact absurd hfree id
    · cases h

/-- A value that is read nests no deeper than its reader goes, and is exact without binary64 numbers. -/
theorem depth_le_and_exact_of_value {depth : Nat} {s rest : List Char} {v : Json}
    (h : value depth s = .ok (v, rest)) : v.depth ≤ depth ∧ (v.RealFree → v.Exact) := by
  induction depth generalizing s rest v with
  | zero =>
    simp only [value] at h
    split at h
    · cases h
    · cases h
    · obtain ⟨hdepth, hexact⟩ := depth_and_exact_of_scalar h
      exact ⟨Nat.le_of_eq hdepth, hexact⟩
  | succ depth ih =>
    simp only [value] at h
    split at h
    · split at h
      · cases h
      · rename_i helements
        cases h
        have hitems := elementLoop_keeps (I := fun v => v.depth ≤ depth ∧ (v.RealFree → v.Exact))
          (fun _ _ _ hx => ih hx) (by simp) helements
        rw [Json.depth, Nat.succ_le_succ_iff, itemsDepth_le_iff]
        refine ⟨fun v hv => (hitems v hv).1, fun hfree => itemsExact_iff.2 fun v hv => ?_⟩
        exact (hitems v hv).2 (itemsRealFree_iff.1 hfree v hv)
    · split at h
      · cases h
      · rename_i hread
        cases h
        have hmembers := memberLoop_keeps (I := fun ms : List (String × Json) =>
            ∀ e ∈ ms, e.2.depth ≤ depth ∧ (e.2.RealFree → e.2.Exact))
          (fun before key t after rest hbefore hadd => by
            unfold addMember at hadd
            split at hadd
            · cases hadd
            · rename_i x _ hx
              cases hadd
              obtain ⟨t, ht⟩ := exists_of_memberValue hx
              intro e he
              rcases Assoc.mem_insert he with rfl | he
              · exact ih ht
              · exact hbefore e he) (by simp) hread
        rw [Json.depth, Nat.succ_le_succ_iff, membersDepth_le_iff]
        refine ⟨fun e he => (hmembers e he).1, fun hfree => membersExact_iff.2 fun e he => ?_⟩
        exact (hmembers e he).2 (membersRealFree_iff.1 hfree e he)
    · obtain ⟨hdepth, hexact⟩ := depth_and_exact_of_scalar h
      exact ⟨by omega, hexact⟩

end Reader
end Json

open Json Json.Reader

/-! ## Fields -/

theorem depth_le_of_mem_optionalMember {key : String} {x : Option String} {e : String × Json}
    (h : e ∈ optionalMember key x) (depth : Nat) : e.2.depth ≤ depth := by
  cases x with
  | none => cases h
  | some s =>
    rw [List.mem_singleton.1 h]
    exact Nat.zero_le _

namespace Field

/-- A constraint that can be read by a reader whose values nest no deeper than this. -/
structure KeptEntry (depth : Nat) (e : String × Json) : Prop where
  name : e.1 ≠ "title" ∧ e.1 ≠ "description" ∧ e.1 ≠ "fields"
  depth : e.2.depth ≤ depth
  proper : e.2.Proper
  exact : e.2.RealFree → e.2.Exact

/-- The field and those below it have constraints that can be read. -/
def Kept (f : Field) : Prop := ∀ g, Within g f → ∀ e ∈ g.constraints.entries, ∃ depth, KeptEntry depth e

/-- No constraint of the field has a binary64 number in its value. -/
def RealFree (f : Field) : Prop := ∀ name value, f.Declares name value → value.RealFree

theorem Kept.plain {f g : Field} (h : f.Kept) (hg : Within g f) (hfree : g.RealFree) : g.Plain where
  names name value he := (h g hg (name, value) he).choose_spec.name
  exact name value he := (h g hg (name, value) he).choose_spec.exact (hfree name value he)
  proper name value he := (h g hg (name, value) he).choose_spec.proper

theorem depth_members_le {f : Field} {depth : Nat}
    (hchildren : f.children ≠ [] → (Json.array (writtenAll f.children)).depth ≤ depth)
    (hentries : ∀ e ∈ f.constraints.entries, e.2.depth ≤ depth) :
    membersDepth (propertyMembers f.title f.description (writtenAll f.children) f.constraints) ≤ depth := by
  rw [membersDepth_le_iff]
  intro e he
  rcases List.mem_append.1 he with he | he
  · rcases List.mem_append.1 he with he | he
    · rcases List.mem_append.1 he with he | he
      · exact depth_le_of_mem_optionalMember he depth
      · exact depth_le_of_mem_optionalMember he depth
    · rw [isEmpty_writtenAll] at he
      split at he
      · cases he
      · rename_i hne
        rw [List.mem_singleton.1 he]
        exact hchildren (by simpa using hne)
  · exact hentries e he

/-- The constraints among properties that are read. -/
theorem keptEntry_of_yields {children : List Char → Read (List Field)} {depth : Nat} {expected : String}
    {p : Properties}
    (h : Yields (object expected (members .empty (Properties.member children (value depth)))) p) :
    ∀ e ∈ p.constraints.entries, KeptEntry depth e := by
  refine of_yields_members (I := fun p : Properties => ∀ e ∈ p.constraints.entries, KeptEntry depth e)
    (fun e he => by cases he) (fun p key q hp hq => ?_) (yields_of_object h)
  rcases Properties.member_cases hq with
    ⟨_, rfl⟩ | ⟨_, rfl⟩ | ⟨_, _, rfl⟩ | ⟨x, hnames, ⟨s, rest, hx⟩, rfl⟩
  · exact hp
  · exact hp
  · exact hp
  · intro e he
    rcases Assoc.mem_insert he with rfl | he
    · obtain ⟨hdepth, hexact⟩ := depth_le_and_exact_of_value hx
      exact ⟨hnames, hdepth, proper_of_value hx, hexact⟩
    · exact hp e he

/-- What has been read of a field and will be written. -/
structure Fits (depth : Nat) (f : Field) : Prop where
  depth : f.written.depth ≤ depth
  kept : f.Kept

theorem fits_ofProperties {depth : Nat} {kind : Kind} {p : Properties}
    (hchildren : ∀ fs, p.children = some fs →
      (Json.array (writtenAll fs)).depth ≤ depth ∧ ∀ f ∈ fs, f.Kept)
    (hentries : ∀ e ∈ p.constraints.entries, KeptEntry depth e) :
    Fits (depth + 2) (ofProperties kind p) := by
  have hfields : p.children.getD [] ≠ [] → ∃ fs, p.children = some fs ∧ p.children.getD [] = fs := by
    intro hne
    cases hfs : p.children with
    | none => simp [hfs] at hne
    | some fs => exact ⟨fs, rfl, rfl⟩
  constructor
  · rw [depth_written, Nat.add_le_add_iff_right]
    refine depth_members_le (fun hne => ?_) fun e he => (hentries e he).depth
    obtain ⟨fs, hfs, heq⟩ := hfields hne
    have := (hchildren fs hfs).1
    rwa [← heq] at this
  · intro g hg e he
    rcases within_iff.1 hg with rfl | ⟨child, hchild, hg⟩
    · exact ⟨depth, hentries e he⟩
    · obtain ⟨fs, hfs, heq⟩ := hfields (List.ne_nil_of_mem hchild)
      have hmem : child ∈ fs := heq ▸ hchild
      exact (hchildren fs hfs).2 child hmem g hg e he

/-- Fields begin at every third level. One that is read nests no deeper when it is written than its reader
goes, although it is always written with `properties`. -/
theorem fits_of_yields (depth : Nat) :
    (∀ f, depth % 3 = 2 → Yields (read depth) f → Fits depth f) ∧
    (∀ p, depth % 3 = 1 → Yields (readProperties depth) p → ∀ kind, Fits (depth + 1) (ofProperties kind p)) ∧
    ∀ fs, depth % 3 = 0 → Yields (readAll depth) fs →
      (Json.array (writtenAll fs)).depth ≤ depth ∧ ∀ f ∈ fs, f.Kept := by
  induction depth with
  | zero =>
    refine ⟨fun f hmod => absurd hmod (by decide), fun p hmod => absurd hmod (by decide),
      fun fs _ h => ?_⟩
    exact absurd (yields_of_sequence h) (not_yields_tooDeep fs)
  | succ depth ih =>
    obtain ⟨ihfield, ihproperties, ihall⟩ := ih
    refine ⟨fun f hmod h => ?_, fun p hmod h kind => ?_, fun fs hmod h => ?_⟩
    · obtain ⟨k, p, rfl, hp⟩ := exists_properties h
      cases p with
      | some p => exact ihproperties p (by omega) (hp p rfl) k
      | none =>
        obtain ⟨d, rfl⟩ : ∃ d, depth = d + 1 := ⟨depth - 1, by omega⟩
        exact fits_ofProperties (fun fs hfs => by cases hfs) fun e he => by cases he
    · exact fits_ofProperties
        (fun fs hfs => ihall fs (by omega) (children_of_yields_properties h fs hfs))
        (keptEntry_of_yields h)
    · have hread : ∀ f ∈ fs, Fits depth f := fun f hf =>
        ihfield f (by omega) (yields_of_elements (yields_of_sequence h) f hf)
      refine ⟨?_, fun f hf => (hread f hf).kept⟩
      rw [Json.depth, Nat.succ_le_succ_iff, itemsDepth_le_iff, writtenAll_eq_map]
      intro v hv
      obtain ⟨f, hf, rfl⟩ := List.mem_map.1 hv
      exact (hread f hf).depth

end Field

namespace Configuration

theorem depth_written_le {c : Configuration} {depth : Nat}
    (h : (Json.array (Field.writtenAll c.fields)).depth ≤ depth) : c.written.depth ≤ depth + 1 := by
  rw [written, Json.depth, Nat.succ_le_succ_iff, membersDepth_le_iff]
  intro e he
  simp only [documentMembers, List.mem_append, List.mem_cons, List.not_mem_nil, or_false] at he
  rcases he with (((rfl | rfl) | he) | he) | rfl
  · exact Nat.zero_le _
  · exact Nat.zero_le _
  · exact depth_le_of_mem_optionalMember he depth
  · exact depth_le_of_mem_optionalMember he depth
  · exact h

/-- A configuration that is read nests no deeper in its own document than texts may, and documents keep it if
there are no binary64 numbers in it. -/
theorem plain_of_ofJsonText {text : String} {c : Configuration} (h : ofJsonText text = .ok c)
    (hfree : ∀ f, c.HasField f → f.RealFree) :
    (∀ f, c.HasField f → f.Plain) ∧ c.written.depth ≤ maxDepth := by
  obtain ⟨hdepth, hkept⟩ :=
    (Field.fits_of_yields (maxDepth - 1)).2.2 c.fields (by decide) (yields_fields (yields_of_document h))
  refine ⟨?_, depth_written_le hdepth⟩
  rintro f ⟨g, hg, hf⟩
  exact (hkept g hg).plain hf (hfree f ⟨g, hg, hf⟩)

/-- **Configurations survive being written.** A configuration whose constraints have names of their own and
exact values is read back from its document as it is, if that nests no deeper than texts may. Every
configuration that is read, however its document is written, is such a one unless a constraint of it has a
binary64 number, although `properties` are written for every field. -/
theorem documents_round_trip :
    (∀ c : Configuration, (∀ f, c.HasField f → f.Plain) → c.written.depth ≤ maxDepth →
      ofJsonText c.text = .ok c) ∧
    (∀ text c, ofJsonText text = .ok c → (∀ f, c.HasField f → f.RealFree) →
      (∀ f, c.HasField f → f.Plain) ∧ c.written.depth ≤ maxDepth ∧ ofJsonText c.text = .ok c) ∧
    ∀ f : Field, ∃ members,
      f.written = .object [("type", .string f.kind.name), ("properties", .object members)] := by
  refine ⟨fun c => ofJsonText_text, fun text c h hfree => ?_, fun f => ⟨_, Field.written_eq f⟩⟩
  obtain ⟨hplain, hdepth⟩ := plain_of_ofJsonText h hfree
  exact ⟨hplain, hdepth, ofJsonText_text hplain hdepth⟩

/-- The survey of trips, written with arrays for records, without `properties` where there are none, and with
a key that means nothing. -/
def tripDocument : String :=
  "[\"ann\", \"trips\", null, null, [[\"Selection\", \x7b\"min_select\": 3, \"fields\": [[\"Option\"], " ++
    "[\x7b\"List\": null\x7d]]\x7d], \x7b\"properties\": \x7b\"max_chars\": 9\x7d, \"note\": 1.5, " ++
    "\"type\": \"Email\"\x7d]]"

theorem documents_round_trip_trip :
    ofJsonText tripDocument = .ok tripSurvey ∧ (∀ f, tripSurvey.HasField f → f.RealFree) ∧
      ofJsonText tripSurvey.text = .ok tripSurvey := by
  have hread : ofJsonText tripDocument = .ok tripSurvey := by
    have hsome : (ofJsonText tripDocument).toOption = some tripSurvey := by decide +kernel
    generalize ofJsonText tripDocument = c at hsome
    cases c <;> cases hsome
    rfl
  have hfree : ∀ f, tripSurvey.HasField f → f.RealFree := by
    rintro f ⟨g, hg, hf⟩ name value he
    rcases List.mem_cons.1 hg with rfl | hg
    · rcases Field.within_iff.1 hf with rfl | ⟨h, hh, hf⟩
      · cases List.mem_singleton.1 he
        trivial
      rcases List.mem_cons.1 hh with rfl | hh
      · rcases Field.within_iff.1 hf with rfl | ⟨_, hnone, _⟩
        · cases he
        · cases hnone
      cases List.mem_singleton.1 hh
      rcases Field.within_iff.1 hf with rfl | ⟨_, hnone, _⟩
      · cases he
      · cases hnone
    cases List.mem_singleton.1 hg
    rcases Field.within_iff.1 hf with rfl | ⟨_, hnone, _⟩
    · cases List.mem_singleton.1 he
      trivial
    · cases hnone
  exact ⟨hread, hfree, (documents_round_trip.2.1 _ _ hread hfree).2.2⟩

end Configuration
end SurveyIntake
