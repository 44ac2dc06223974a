import SurveyIntake.Proofs.Address
import SurveyIntake.Proofs.Conformity
import SurveyIntake.Proofs.ListEntries
import SurveyIntake.Proofs.Proper

/-!
# SurveyIntake.Proofs.Answerable

Surveys that can be answered: bounds that are the right way round can be met, all at once.

* `numbered`         — the members of an object with values under the numerals.
* `spelled`          — a list with a number of distinct entries, and commas that only make it longer.
* `addressOfLength`  — an address with as many characters as are wanted.
* `Field.Offers`     — some answer to a field is as it asks and holds a number of selections.
* `Field.Answered`   — values answer fields one by one, and hold a number of selections together.
* `Field.Lenient`    — a field asks for no pattern, and for no more selections than its children allow.
* `Configuration.exists_accepted_answers` — where all fields are lenient, there are answers that are accepted.

Every field has an answer that holds no selection. A selection takes one of these for each of its children,
apart from options that it sets, or from one list.
-/

namespace SurveyIntake

/-! ## Numbered values -/

/-- Values under the numerals from `start` on. -/
def numbered (start : Nat) : List Json → List (String × Json)
  | [] => []
  | value :: values => Assoc.insert (toString start) value (numbered (start + 1) values)

section Numbered

variable {start : Nat} {values : List Json}

theorem find?_numbered (n : Nat) :
    Assoc.find? (toString (start + n)) (numbered start values) = values[n]? := by
  induction values generalizing start n with
  | nil => rfl
  | cons value values ih =>
    rw [numbered, Assoc.find?_insert]
    cases n with
    | zero => rw [Nat.add_zero, if_pos rfl, List.getElem?_cons_zero]
    | succ n =>
      have hne : toString (start + (n + 1)) ≠ toString start := fun h => by
        have := numeral_inj h
        omega
      have hrest : Assoc.find? (toString (start + 1 + n)) (numbered (start + 1) values) = values[n]? := ih n
      rw [if_neg hne, List.getElem?_cons_succ, ← hrest, Nat.add_right_comm, Nat.add_assoc]

theorem mem_keys_numbered {key : String} :
    key ∈ Assoc.keys (numbered start values) ↔ ∃ n, n < values.length ∧ key = toString (start + n) := by
  induction values generalizing start with
  | nil => simp [numbered, Assoc.keys]
  | cons value values ih =>
    rw [numbered, Assoc.mem_keys_insert, ih]
    constructor
    · rintro (rfl | ⟨n, hn, rfl⟩)
      · exact ⟨0, Nat.succ_pos _, rfl⟩
      · exact ⟨n + 1, Nat.succ_lt_succ hn, by rw [Nat.add_right_comm, Nat.add_assoc]⟩
    · rintro ⟨n, hn, rfl⟩
      cases n with
      | zero => exact .inl rfl
      | succ n => exact .inr ⟨n, Nat.lt_of_succ_lt_succ hn, by rw [Nat.add_right_comm, Nat.add_assoc]⟩

theorem hasKeys_numbered : HasKeys values.length (numbered 1 values) := by
  intro key
  rw [mem_keys_numbered]
  constructor
  · rintro ⟨n, hn, rfl⟩
    exact ⟨1 + n, by omega, by omega, rfl⟩
  · rintro ⟨i, hpos, hle, rfl⟩
    obtain ⟨n, rfl⟩ := Nat.exists_eq_add_of_le hpos
    exact ⟨n, by omega, rfl⟩

theorem proper_numbered (h : ∀ value ∈ values, value.Proper) :
    (Json.object (numbered start values)).Proper := by
  induction values generalizing start with
  | nil => exact ⟨.nil, trivial⟩
  | cons value values ih =>
    obtain ⟨hvalue, hvalues⟩ := List.forall_mem_cons.1 h
    have hrest : (Json.object (numbered (start + 1) values)).Proper := ih hvalues
    obtain ⟨hascending, hmembers⟩ := hrest
    exact ⟨hascending.insert, hmembers.insert hvalue⟩

end Numbered

/-! ## Entries of lists -/

/-- A list of `n` words, each longer than the one after it, and then commas. -/
def spelled (commas : Nat) : Nat → List Char
  | 0 => List.replicate commas ','
  | n + 1 => List.replicate (n + 1) 'a' ++ ',' :: spelled commas n

section Spelled

variable (commas n : Nat)

theorem isEntry_replicate : IsEntry (List.replicate (n + 1) 'a') := by
  have hplain : ¬IsWhiteSpace 'a' := by
    rw [← Text.isBlank_iff]
    decide
  have hmem : ∀ c ∈ List.replicate (n + 1) 'a', c = 'a' := fun _ => List.eq_of_mem_replicate
  refine ⟨List.cons_ne_nil _ _, fun hc => absurd (hmem _ hc) (by decide), fun c rest h => ?_,
    fun c rest h => ?_⟩
  · rwa [hmem c (h ▸ List.mem_cons_self)]
  · rwa [hmem c (h ▸ List.mem_append_right _ List.mem_cons_self)]

theorem writes_spelled : Writes (spelled commas n)
    ((Finset.range n).image fun i => String.ofList (List.replicate (i + 1) 'a')) := by
  induction n with
  | zero =>
    have hnothing : Segment [] ∅ := .blank (by simp)
    induction commas with
    | zero => exact .last hnothing
    | succ commas ih =>
      rw [spelled, List.replicate_succ, ← spelled]
      exact .further hnothing ih
  | succ n ih =>
    rw [spelled, Finset.range_add_one, Finset.image_insert]
    exact .further (.of_isEntry (isEntry_replicate n)) ih

theorem entrySet_spelled : entrySet (String.ofList (spelled commas n)) =
    (Finset.range n).image fun i => String.ofList (List.replicate (i + 1) 'a') :=
  (writes_spelled commas n).entrySet_eq

theorem card_entrySet_spelled : (entrySet (String.ofList (spelled commas n))).card = n := by
  rw [entrySet_spelled, Finset.card_image_of_injective, Finset.card_range]
  intro i j h
  have := congrArg List.length (String.ofList_injective h)
  simpa using this

example : String.ofList (spelled 2 3) = "aaa,aa,a,,," := by decide

theorem length_spelled_zero : (spelled commas 0).length = commas := List.length_replicate

theorem le_length_spelled : commas ≤ (spelled commas n).length := by
  induction n with
  | zero => rw [length_spelled_zero]
  | succ n ih =>
    rw [spelled, List.length_append, List.length_cons]
    omega

end Spelled

/-! ## Addresses -/

/-- An address of `n` characters, which have to be 5 at least. -/
def addressOfLength (n : Nat) : String :=
  String.ofList (['a'] ++ ['@'] ++ ['b'] ++ ['.'] ++ List.replicate (n - 4) 'c')

theorem length_addressOfLength {n : Nat} (hn : 4 ≤ n) : (addressOfLength n).length = n := by
  rw [addressOfLength, String.length_ofList, List.length_append, List.length_replicate]
  exact Nat.add_sub_of_le hn

theorem isPart_replicate {c : Char} {n : Nat} (hsign : c ≠ '@') (hblank : Text.isBlank c = false)
    (hn : 0 < n) : IsPart (List.replicate n c) := by
  refine ⟨fun h => ?_, fun d hd => ?_⟩
  · have hzero := (List.replicate_eq_nil_iff c).1 h
    omega
  · rw [List.eq_of_mem_replicate hd]
    exact ⟨hsign, hblank⟩

theorem admits_addressOfLength {n : Nat} (hn : 5 ≤ n) :
    Pattern.Admits addressSource (addressOfLength n) := by
  have hname : IsPart ['a'] := isPart_replicate (n := 1) (by decide) (by decide) (by decide)
  have hhost : IsPart ['b'] := isPart_replicate (n := 1) (by decide) (by decide) (by decide)
  have htop : IsPart (List.replicate (n - 4) 'c') := isPart_replicate (by decide) (by decide) (by omega)
  rw [← Pattern.source_addressPattern, Pattern.admits_iff, accepts_addressPattern_iff]
  exact ⟨_, _, _, hname, hhost, htop, String.toList_ofList⟩

/-! ## Selections of values -/

/-- How many selections an answer to a field of the kind holds. -/
def answerCount (kind : Kind) (answer : Option Json) : Nat :=
  (if kind = .option ∧ answer = some (.bool true) then 1 else 0) + entryCount kind answer

theorem answerCount_eq_zero {kind : Kind} {answer : Option Json} (hoption : kind ≠ .option)
    (hlist : kind ≠ .list) : answerCount kind answer = 0 := by
  simp [answerCount, entryCount, hoption, hlist]

theorem answerCount_list (s : String) : answerCount .list (some (.string s)) = (entrySet s).card := by
  simp [answerCount, entryCount]

theorem selectionCount_cons (a : Kind × String) (asked : List (Kind × String))
    (members : List (String × Json)) : selectionCount (a :: asked) members =
      answerCount a.1 (Assoc.find? a.2 members) + selectionCount asked members := by
  simp only [selectionCount, setOptions, listedEntries, answerCount, List.map_cons, List.countP_cons,
    List.sum_cons, decide_eq_true_eq]
  omega

namespace Field

/-- Some answer is as the field asks and holds a number of selections. -/
def Offers (f : Field) (n : Nat) : Prop :=
  ∃ value : Json, value.Proper ∧ f.Conforms Pattern.Admits value ∧ answerCount f.kind (some value) = n

/-- Values answer fields one by one, and hold a number of selections together. -/
inductive Answered : List Field → List Json → Nat → Prop where
  | nil : Answered [] [] 0
  | cons {f : Field} {value : Json} {fs : List Field} {values : List Json} {n : Nat} :
      value.Proper → f.Conforms Pattern.Admits value → Answered fs values n →
      Answered (f :: fs) (value :: values) (answerCount f.kind (some value) + n)

section Answered

variable {f : Field} {fs : List Field} {values : List Json} {m n : Nat}

theorem Answered.length_eq (h : Answered fs values n) : values.length = fs.length := by
  induction h with
  | nil => rfl
  | cons _ _ _ ih => rw [List.length_cons, ih, List.length_cons]

theorem Answered.proper (h : Answered fs values n) : ∀ value ∈ values, value.Proper := by
  induction h with
  | nil => exact fun _ h => absurd h List.not_mem_nil
  | cons hproper _ _ ih => exact List.forall_mem_cons.2 ⟨hproper, ih⟩

theorem Answered.conforms (h : Answered fs values n) {i : Nat} {value : Json} (hf : fs[i]? = some f)
    (hvalue : values[i]? = some value) : f.Conforms Pattern.Admits value := by
  induction h generalizing i with
  | nil => cases hf
  | cons _ hconforms _ ih =>
    cases i with
    | zero =>
      cases hf
      cases hvalue
      exact hconforms
    | succ i => exact ih hf hvalue

/-- An object that has the values under the numerals of the fields holds their selections. -/
theorem Answered.selectionCount_eq (h : Answered fs values n) {start : Nat}
    {members : List (String × Json)}
    (hfind : ∀ i, Assoc.find? (toString (start + i)) members = values[i]?) :
    selectionCount ((fs.zipIdx start).map fun p => (p.1.kind, toString p.2)) members = n := by
  induction h generalizing start with
  | nil => rfl
  | @cons f value fs values n _ _ _ ih =>
    have hhead : Assoc.find? (toString start) members = some value := hfind 0
    have hrest : ∀ i, Assoc.find? (toString (start + 1 + i)) members = values[i]? := by
      intro i
      rw [Nat.add_assoc, Nat.add_comm 1 i, hfind, List.getElem?_cons_succ]
    rw [List.zipIdx_cons, List.map_cons, selectionCount_cons, hhead, ih hrest]

theorem exists_answered_cons (hf : f.Offers m) (hfs : ∃ values, Answered fs values n) :
    ∃ values, Answered (f :: fs) values (m + n) := by
  obtain ⟨value, hproper, hconforms, rfl⟩ := hf
  obtain ⟨values, hvalues⟩ := hfs
  exact ⟨value :: values, .cons hproper hconforms hvalues⟩

theorem offers_option (hk : f.kind = .option) (b : Bool) : f.Offers (if b then 1 else 0) := by
  refine ⟨.bool b, trivial, .option hk, ?_⟩
  simp [answerCount, entryCount, hk]

/-- Of the options among the fields, as many as are wanted are set. -/
theorem exists_answered_of_options (h : ∀ f ∈ fs, f.Offers 0)
    (hn : n ≤ fs.countP fun f => f.kind = .option) : ∃ values, Answered fs values n := by
  induction fs generalizing n with
  | nil =>
    obtain rfl := Nat.le_zero.1 hn
    exact ⟨[], .nil⟩
  | cons f fs ih =>
    obtain ⟨hf, hfs⟩ := List.forall_mem_cons.1 h
    rw [List.countP_cons] at hn
    by_cases hset : f.kind = .option ∧ n ≠ 0
    · obtain ⟨hk, hpos⟩ := hset
      obtain ⟨n, rfl⟩ := Nat.exists_eq_add_one_of_ne_zero hpos
      have hrest : n ≤ fs.countP fun f => f.kind = .option := by
        rw [if_pos (by simp [hk])] at hn
        omega
      rw [Nat.add_comm]
      exact exists_answered_cons (offers_option hk true) (ih hfs hrest)
    · have hrest : n ≤ fs.countP fun f => f.kind = .option := by
        by_cases hk : f.kind = .option
        · rw [not_and_not_right.1 hset hk]
          exact Nat.zero_le _
        · rwa [if_neg (by simp [hk]), Nat.add_zero] at hn
      rw [← Nat.zero_add n]
      exact exists_answered_cons hf (ih hfs hrest)

/-- One of the fields gives all that is wanted. -/
theorem exists_answered_of_mem (h : ∀ f ∈ fs, f.Offers 0) (hf : f ∈ fs) (hn : f.Offers n) :
    ∃ values, Answered fs values n := by
  induction fs with
  | nil => cases hf
  | cons g fs ih =>
    obtain ⟨hg, hfs⟩ := List.forall_mem_cons.1 h
    rcases List.mem_cons.1 hf with rfl | hf
    · exact exists_answered_cons hn (exists_answered_of_options hfs (Nat.zero_le _))
    · rw [← Nat.zero_add n]
      exact exists_answered_cons hg (ih hfs hf)

end Answered

/-! ## Answers to fields -/

/-- A field asks for no pattern, has room for an address if it asks for one, and among its children there are
options enough, or a list of any length, for the selections that it asks for. -/
structure Lenient (f : Field) : Prop where
  regex : ∀ value, ¬f.Declares "regex" value
  address : f.kind = .email → ∀ n, f.Declares "max_chars" (.nat n) → 5 ≤ n
  choices : f.kind = .selection → ∀ n, f.Declares "min_select" (.nat n) →
    n ≤ f.children.countP (fun g => g.kind = .option) ∨
      ∃ g ∈ f.children, g.kind = .list ∧ ∀ value, ¬g.Declares "max_chars" value

/-- Between bounds that are the right way round there is a number, which is the lower bound or a floor that
is no more than the upper one. -/
theorem exists_between {f : Field} {lower upper : String} {floor : Nat}
    (hordered : ∀ l u, f.Declares lower (.nat l) → f.Declares upper (.nat u) → l ≤ u)
    (hfloor : ∀ u, f.Declares upper (.nat u) → floor ≤ u) :
    ∃ n, floor ≤ n ∧ (n = floor ∨ f.Declares lower (.nat n)) ∧
      (∀ l, f.Declares lower (.nat l) → l ≤ n) ∧ ∀ u, f.Declares upper (.nat u) → n ≤ u := by
  by_cases habove : ∃ l, f.Declares lower (.nat l) ∧ floor ≤ l
  · obtain ⟨n, hn, hle⟩ := habove
    refine ⟨n, hle, .inr hn, fun l hl => ?_, fun u hu => hordered n u hn hu⟩
    exact Nat.le_of_eq (Json.nat_inj.1 (f.constraints.ascending.unique hl hn))
  · refine ⟨floor, Nat.le_refl _, .inl rfl, fun l hl => ?_, hfloor⟩
    exact Nat.le_of_lt (Nat.lt_of_not_le fun hle => habove ⟨l, hl, hle⟩)

section Offers

variable {f : Field} {n : Nat}

/-- A text between the bounds answers a field that takes texts. -/
theorem offers_string (hl : f.Lenient) (hk : f.kind = .email ∨ f.kind = .text ∨ f.kind = .list) {s : String}
    (hmin : ∀ n, f.Declares "min_chars" (.nat n) → n ≤ s.length)
    (hmax : ∀ n, f.Declares "max_chars" (.nat n) → s.length ≤ n)
    (haddress : f.kind = .email → Pattern.Admits addressSource s) :
    f.Offers (answerCount f.kind (some (.string s))) := by
  refine ⟨.string s, trivial, .text hk ?_, rfl⟩
  exact ⟨hmin, hmax, fun source hs => absurd hs (hl.regex _), fun he _ => haddress he⟩

theorem offers_text (hw : f.WellFormed) (hl : f.Lenient) (hk : f.kind = .text) : f.Offers 0 := by
  obtain ⟨n, _, _, hmin, hmax⟩ := exists_between hw.bounds.1 fun u _ => Nat.zero_le u
  have hlength : (String.ofList (List.replicate n 'a')).length = n := by
    rw [String.length_ofList, List.length_replicate]
  rw [← hlength] at hmin hmax
  have hoffers := offers_string hl (.inr (.inl hk)) hmin hmax fun he => by rw [hk] at he; cases he
  rwa [hk, answerCount_eq_zero (by decide) (by decide)] at hoffers

theorem offers_email (hw : f.WellFormed) (hl : f.Lenient) (hk : f.kind = .email) : f.Offers 0 := by
  obtain ⟨n, hn, _, hmin, hmax⟩ := exists_between hw.bounds.1 (hl.address hk)
  rw [← length_addressOfLength (Nat.le_of_succ_le hn)] at hmin hmax
  have hoffers := offers_string hl (.inl hk) hmin hmax fun _ => admits_addressOfLength hn
  rwa [hk, answerCount_eq_zero (by decide) (by decide)] at hoffers

theorem offers_spelled (hl : f.Lenient) (hk : f.kind = .list) {commas : Nat}
    (hmin : ∀ l, f.Declares "min_chars" (.nat l) → l ≤ (spelled commas n).length)
    (hmax : ∀ u, f.Declares "max_chars" (.nat u) → (spelled commas n).length ≤ u) : f.Offers n := by
  rw [← String.length_ofList] at hmin hmax
  have hoffers := offers_string hl (.inr (.inr hk)) hmin hmax fun he => by rw [hk] at he; cases he
  rwa [hk, answerCount_list, card_entrySet_spelled] at hoffers

/-- A list can do without entries. -/
theorem offers_list (hw : f.WellFormed) (hl : f.Lenient) (hk : f.kind = .list) : f.Offers 0 := by
  obtain ⟨n, _, _, hmin, hmax⟩ := exists_between hw.bounds.1 fun u _ => Nat.zero_le u
  rw [← length_spelled_zero n] at hmin hmax
  exact offers_spelled hl hk hmin hmax

/-- A list of any length has as many entries as are wanted. -/
theorem offers_long_list (hw : f.WellFormed) (hl : f.Lenient) (hk : f.kind = .list)
    (hlong : ∀ value, ¬f.Declares "max_chars" value) (n : Nat) : f.Offers n := by
  obtain ⟨commas, _, _, hmin, _⟩ := exists_between hw.bounds.1 fun u _ => Nat.zero_le u
  have hlength := le_length_spelled commas n
  exact offers_spelled hl hk (fun l hl => Nat.le_trans (hmin l hl) hlength) fun u hu =>
    absurd hu (hlong _)

theorem Answered.conforms_numbered {fs : List Field} {values : List Json} (h : Answered fs values n) :
    HasKeys fs.length (numbered 1 values) ∧ ∀ i g value, fs[i]? = some g →
      Assoc.find? (toString (i + 1)) (numbered 1 values) = some value → g.Conforms Pattern.Admits value := by
  refine ⟨h.length_eq ▸ hasKeys_numbered, fun i g value hg hvalue => ?_⟩
  rw [Nat.add_comm, find?_numbered] at hvalue
  exact h.conforms hg hvalue

theorem offers_selection (hw : f.WellFormed) (hl : f.Lenient) (hk : f.kind = .selection)
    (hchildren : ∀ g ∈ f.children, g.Offers 0)
    (hlists : ∀ g ∈ f.children, g.kind = .list → (∀ value, ¬g.Declares "max_chars" value) →
      ∀ n, g.Offers n) : f.Offers 0 := by
  obtain ⟨n, _, hn, hmin, hmax⟩ := exists_between hw.bounds.2 fun u _ => Nat.zero_le u
  have hvalues : ∃ values, Answered f.children values n := by
    rcases hn with rfl | hn
    · exact exists_answered_of_options hchildren (Nat.zero_le _)
    · rcases hl.choices hk n hn with henough | ⟨g, hg, hlist, hlong⟩
      · exact exists_answered_of_options hchildren henough
      · exact exists_answered_of_mem hchildren hg (hlists g hg hlist hlong n)
  obtain ⟨values, hvalues⟩ := hvalues
  obtain ⟨hkeys, hconforms⟩ := hvalues.conforms_numbered
  have hselections : f.selections (numbered 1 values) = n :=
    hvalues.selectionCount_eq fun i => find?_numbered i
  refine ⟨.object (numbered 1 values), proper_numbered hvalues.proper,
    .object (.inl hk) hkeys hconforms fun _ => ?_, ?_⟩
  · exact ⟨fun l hl => hselections ▸ hmin l hl, fun u hu => hselections ▸ hmax u hu⟩
  · rw [hk, answerCount_eq_zero (by decide) (by decide)]

theorem offers_properties (hk : f.kind = .properties) (hchildren : ∀ g ∈ f.children, g.Offers 0) :
    f.Offers 0 := by
  obtain ⟨values, hvalues⟩ := exists_answered_of_options hchildren (Nat.zero_le _)
  obtain ⟨hkeys, hconforms⟩ := hvalues.conforms_numbered
  refine ⟨.object (numbered 1 values), proper_numbered hvalues.proper,
    .object (.inr hk) hkeys hconforms fun hs => ?_, ?_⟩
  · rw [hk] at hs
    cases hs
  · rw [hk, answerCount_eq_zero (by decide) (by decide)]

end Offers

/-- Every field can be answered without a selection that counts for its parent. -/
theorem offers_zero {f : Field} (h : ∀ g, Within g f → g.WellFormed ∧ g.Lenient) : f.Offers 0 := by
  induction f using Field.induction with
  | step f ih =>
    obtain ⟨hw, hl⟩ := h f (.self f)
    have hchildren : ∀ g ∈ f.children, g.Offers 0 := fun g hg => ih g hg fun k hk => h k (.inner hg hk)
    cases hk : f.kind with
    | email => exact offers_email hw hl hk
    | text => exact offers_text hw hl hk
    | option => exact offers_option hk false
    | list => exact offers_list hw hl hk
    | selection =>
      refine offers_selection hw hl hk hchildren fun g hg hlist hlong n => ?_
      obtain ⟨hgw, hgl⟩ := h g (.inner hg (.self g))
      exact offers_long_list hgw hgl hlist hlong n
    | properties => exact offers_properties hk hchildren

end Field

/-! ## Answers to surveys -/

namespace Configuration

/-- Where all fields are lenient, there are answers with which nothing is wrong. -/
theorem exists_accepted_answers {c : Configuration} {form : Form} (h : c.compile = .ok form)
    (hl : ∀ f, c.HasField f → f.Lenient) :
    ∃ answers : Json, answers.Proper ∧ form.checkAnswers answers = [] := by
  have hoffers : ∀ g ∈ c.fields, g.Offers 0 := fun g hg =>
    Field.offers_zero fun f hf => ⟨field_wellFormed_of_compile h ⟨g, hg, hf⟩, hl f ⟨g, hg, hf⟩⟩
  obtain ⟨values, hvalues⟩ := Field.exists_answered_of_options hoffers (Nat.zero_le _)
  exact ⟨.object (numbered 1 values), proper_numbered hvalues.proper,
    (checkAnswers_eq_nil_iff h _).2 ⟨_, rfl, hvalues.conforms_numbered⟩⟩

theorem tripSurvey_lenient {f : Field} (h : tripSurvey.HasField f) : f.Lenient := by
  have plain : ∀ kind, kind ≠ .selection → ∀ {g}, Field.Within g (Field.ofKind kind) → g.Lenient := by
    intro kind hk g hg
    rcases Field.within_iff.1 hg with rfl | ⟨child, hchild, _⟩
    · exact ⟨fun value => List.not_mem_nil, fun _ n hn => absurd hn List.not_mem_nil, fun hs => absurd hs hk⟩
    · exact absurd hchild List.not_mem_nil
  obtain ⟨g, hg, hw⟩ := h
  rcases List.mem_cons.1 hg with rfl | hg
  · rcases Field.within_iff.1 hw with rfl | ⟨child, hchild, hw⟩
    · refine ⟨fun value hd => ?_, fun hk => (by cases hk), fun _ n _ => .inr ?_⟩
      · have hname : "regex" = "min_select" := congrArg Prod.fst (List.mem_singleton.1 hd)
        exact absurd hname (by decide)
      · exact ⟨Field.ofKind .list, by decide, rfl, fun value => List.not_mem_nil⟩
    · rcases List.mem_pair.1 hchild with rfl | rfl
      · exact plain .option (by decide) hw
      · exact plain .list (by decide) hw
  · obtain rfl := List.mem_singleton.1 hg
    rcases Field.within_iff.1 hw with rfl | ⟨child, hchild, _⟩
    · refine ⟨fun value hd => ?_, fun _ n hd => ?_, fun hk => (by cases hk)⟩
      · have hname : "regex" = "max_chars" := congrArg Prod.fst (List.mem_singleton.1 hd)
        exact absurd hname (by decide)
      · cases List.mem_singleton.1 hd
        decide
    · exact absurd hchild List.not_mem_nil

theorem exists_accepted_answers_trip : tripSurvey.compile = .ok tripForm ∧
    (∀ f, tripSurvey.HasField f → f.Lenient) ∧
    ∃ answers : Json, answers.Proper ∧ tripForm.checkAnswers answers = [] := by
  have hcompile : tripSurvey.compile = .ok tripForm := rfl
  exact ⟨hcompile, fun f => tripSurvey_lenient,
    exists_accepted_answers hcompile fun f => tripSurvey_lenient⟩

end Configuration
end SurveyIntake
