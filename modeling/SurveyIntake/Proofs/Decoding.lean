import SurveyIntake.Proofs.Envelope
import SurveyIntake.Proofs.Skipping

/-!
# SurveyIntake.Proofs.Decoding

The two ways in which a submission is taken from an object.

* `Submission.ofMembers`    — takes in the members of an object one after the other, as a document is read.
* `Json.writtenMembers`     — the members of the object in a text, in the order of the text.
* `Submission.ofJsonText_eq` — the submission in a text is taken from these.
* `Submission.ofMembers_eq_ok_iff` — it is there just if each part is given once, under one of its names.
* `Submission.decoders_agree` — how this goes together with the submission in the body of a request.
-/

namespace SurveyIntake

namespace Json

/-- What is found where something else is expected. -/
def found : Json → Found
  | .null => .null
  | .bool b => .bool b
  | .number (.integer i) => .integer i
  | .number (.real x) => .real x
  | .string s => .string s
  | .array _ => .sequence
  | .object _ => .map

def asString : Json → Except ReadError String
  | .string s => .ok s
  | v => .error (.mismatch (.wrongType v.found "a string"))

open Reader in
/-- Keeps members in the order in which they are read. -/
def Reader.collect (item : List Char → Read Json) (done : List (String × Json)) (key : String)
    (s : List Char) : Read (List (String × Json)) :=
  match memberValue item s with
  | .error e => .error e
  | .ok (v, rest) => .ok (done ++ [(key, v)], rest)

open Reader in
/-- The members of the object in a text, in the order of the text and with all that is repeated. -/
def writtenMembers (text : String) : Except ReadError (List (String × Json)) :=
  document (Reader.object "an object" (members [] (collect (value (maxDepth - 1))))) text

end Json

namespace Submission

open Json (ReadError)

/-- Takes in a member. A part is given once at most, and the identity has to be a text. -/
def Draft.take (d : Draft) : String × Json → Except ReadError Draft
  | (key, value) =>
    if key = "identity" ∨ key = "email" then
      match d.identity, value.asString with
      | some _, _ => .error (.mismatch (.duplicate "identity"))
      | none, .error e => .error e
      | none, .ok identity => .ok { d with identity := some identity }
    else if key = "answers" ∨ key = "properties" then
      match d.answers with
      | some _ => .error (.mismatch (.duplicate "answers"))
      | none => .ok { d with answers := some value }
    else .ok d

/-- The submission in an object with these members. -/
def ofMembers (members : List (String × Json)) : Except ReadError Submission :=
  (members.foldlM Draft.take ⟨none, none⟩).bind Draft.finish

end Submission

/-! ## Reading members -/

namespace Json.Reader

open Lexeme

variable {α : Type} {s rest : List Char}

/-- Where members are read as values, any other reader of theirs can be told by what it makes of each of them
and its value: it comes to the same end of the object. -/
theorem memberLoop_collect {item : List Char → Read Json} {done members : List (String × Json)}
    {fuel : Nat} {first : Bool} (h : memberLoop (collect item) done fuel first s = .ok (members, rest)) :
    ∃ more, members = done ++ more ∧
      ∀ {σ : Type} (member : σ → String → List Char → Read σ) (take : σ → String × Json → Except ReadError σ),
        (∀ a key t v u, memberValue item t = .ok (v, u) →
          member a key t = (take a (key, v)).map fun b => (b, u)) →
        ∀ a, memberLoop member a fuel first s = (more.foldlM take a).map fun b => (b, rest) := by
  induction fuel generalizing done first s with
  | zero => cases h
  | succ fuel ih =>
    simp only [memberLoop] at h
    split at h
    · cases h
    · rename_i hnext
      cases h
      refine ⟨[], by simp, fun member take _ a => ?_⟩
      rw [memberLoop, hnext]
      rfl
    · rename_i key t hnext
      split at h
      · cases h
      · rename_i hcollect
        unfold collect at hcollect
        split at hcollect
        · cases hcollect
        · rename_i v _ hvalue
          cases hcollect
          obtain ⟨more, rfl, hmore⟩ := ih h
          refine ⟨(key, v) :: more, by simp, fun member take hmember a => ?_⟩
          rw [memberLoop, hnext]
          dsimp only
          rw [hmember a key t v _ hvalue, List.foldlM_cons]
          cases take a (key, v) with
          | error e => rfl
          | ok b => exact hmore member take hmember b

/-- The shape of a scalar: a text after a quotation mark, or no text, array or object. -/
inductive ScalarShape (s : List Char) : Json → Prop where
  | text {x : String} {t : List Char} : s = '"' :: t → ScalarShape s (.string x)
  | null : ScalarShape s .null
  | bool {b : Bool} : ScalarShape s (.bool b)
  | number {n : Number} : ScalarShape s (.number n)

theorem scalarShape_of_scalar {v : Json} (h : scalar s = .ok (v, rest)) : ScalarShape s v := by
  simp only [scalar] at h
  split at h
  · cases h
  · split at h
    · cases h
    · cases h
      exact .null
  · split at h
    · cases h
    · cases h
      exact .bool
  · split at h
    · cases h
    · cases h
      exact .bool
  · split at h
    · cases h
    · cases h
      exact .text rfl
  · split at h
    · split at h
      · cases h
      · cases h
        exact .number
    · cases h

theorem wrongType_of_scalar {v : Json} (expected : String) (h : scalar s = .ok (v, rest)) :
    wrongType expected s = .mismatch (.wrongType v.found expected) := by
  unfold wrongType
  split
  · cases h
  · cases h
  · rw [h]
    cases v with
    | number n => cases n <;> rfl
    | _ => rfl

theorem string_of_scalar {v : Json} (h : scalar (skipSpace s) = .ok (v, rest)) :
    string s = v.asString.map fun x => (x, rest) := by
  unfold string
  split
  · rename_i hnil
    rw [hnil] at h
    cases h
  · rename_i hquote
    rw [hquote] at h
    simp only [scalar] at h
    split at h
    · cases h
    · rename_i hstring
      cases h
      exact hstring
  · rename_i hne
    rw [wrongType_of_scalar _ h]
    cases v with
    | string x =>
      cases scalarShape_of_scalar h with
      | text ht => exact absurd ht (hne _)
    | _ => rfl

/-- A reader that reads a value for each member finds the same members. -/
theorem exists_memberLoop_collect {σ : Type} {item : List Char → Read Json}
    {member : σ → String → List Char → Read σ}
    (hmember : ∀ a key t b u, member a key t = .ok (b, u) → ∃ v, memberValue item t = .ok (v, u))
    {a b : σ} {fuel : Nat} {first : Bool} (h : memberLoop member a fuel first s = .ok (b, rest))
    (done : List (String × Json)) :
    ∃ members, memberLoop (collect item) done fuel first s = .ok (members, rest) := by
  induction fuel generalizing a first s done with
  | zero => cases h
  | succ fuel ih =>
    simp only [memberLoop] at h
    split at h
    · cases h
    · rename_i hnext
      cases h
      exact ⟨done, by rw [memberLoop, hnext]⟩
    · rename_i key t hnext
      split at h
      · cases h
      · rename_i u hb
        obtain ⟨v, hv⟩ := hmember _ _ _ _ _ hb
        obtain ⟨members, hmembers⟩ := ih h (done ++ [(key, v)])
        refine ⟨members, ?_⟩
        rw [memberLoop, hnext]
        simp only [collect, hv]
        exact hmembers

/-- What is read as a value is read as a text if it is one. -/
theorem string_of_value {depth : Nat} {v : Json} (h : value depth s = .ok (v, rest)) :
    string s = v.asString.map fun x => (x, rest) := by
  cases depth with
  | zero =>
    simp only [value] at h
    split at h
    · cases h
    · cases h
    · exact string_of_scalar h
  | succ depth =>
    simp only [value] at h
    split at h
    · rename_i hs
      split at h
      · cases h
      · cases h
        rw [string, hs]
        rfl
    · rename_i hs
      split at h
      · cases h
      · cases h
        rw [string, hs]
        rfl
    · exact string_of_scalar h

theorem exists_colon_of_memberValue {item : List Char → Read α} {x : α}
    (h : memberValue item s = .ok (x, rest)) : ∃ t, colon s = .ok t ∧ item t = .ok (x, rest) := by
  unfold memberValue at h
  split at h
  · cases h
  · rename_i t hcolon
    exact ⟨t, hcolon, h⟩

theorem addMember_of_memberValue {item : List Char → Read Json} {key : String} {v : Json}
    (done : List (String × Json)) (h : memberValue item s = .ok (v, rest)) :
    addMember item done key s = .ok (Assoc.insert key v done, rest) := by
  rw [addMember, h]

theorem exists_of_addMember {item : List Char → Read Json} {key : String}
    {done done' : List (String × Json)} (h : addMember item done key s = .ok (done', rest)) :
    ∃ v, memberValue item s = .ok (v, rest) := by
  unfold addMember at h
  split at h
  · cases h
  · rename_i hvalue
    cases h
    exact ⟨_, hvalue⟩

theorem exists_of_writtenMembers {text : String} {members : List (String × Json)}
    (h : writtenMembers text = .ok members) :
    ∃ s rest, skipSpace text.toList = '\x7b' :: s ∧ (skipSpace rest).isEmpty = true ∧
      Reader.members [] (collect (value (maxDepth - 1))) s = .ok (members, rest) := by
  unfold writtenMembers document at h
  split at h
  · cases h
  · rename_i rest hobject
    split at h
    · rename_i hend
      cases h
      unfold object at hobject
      split at hobject
      · cases hobject
      · rename_i hopen
        exact ⟨_, rest, hopen, hend, hobject⟩
      · cases hobject
    · cases h

/-- If there is an object in a text, then there are its members. -/
theorem exists_writtenMembers {text : String} {members : List (String × Json)}
    (h : parse text = .ok (.object members)) : ∃ es, writtenMembers text = .ok es := by
  have hdepth : maxDepth = maxDepth - 1 + 1 := rfl
  rw [parse, hdepth, document] at h
  split at h
  · cases h
  · rename_i v rest hvalue
    split at h
    · rename_i hend
      cases h
      simp only [value] at hvalue
      split at hvalue
      · split at hvalue <;> cases hvalue
      · rename_i s hopen
        split at hvalue
        · cases hvalue
        · rename_i hmembers
          cases hvalue
          obtain ⟨es, hes⟩ := exists_memberLoop_collect
            (fun _ _ _ _ _ hadd => exists_of_addMember hadd) hmembers []
          refine ⟨es, ?_⟩
          simp only [writtenMembers, document, object, hopen, Reader.members, hes]
          exact if_pos hend
      · cases scalarShape_of_scalar hvalue
    · cases h

end Json.Reader

/-! ## Submissions in texts -/

namespace Submission

open Json Json.Reader

variable {es : List (String × Json)} {x : Submission}

theorem Draft.member_of_memberValue {depth : Nat} {d : Draft} {key : String} {s rest : List Char}
    {v : Json} (h : memberValue (value depth) s = .ok (v, rest)) :
    d.member (value depth) key s = (d.take (key, v)).map fun d => (d, rest) := by
  obtain ⟨t, hcolon, hvalue⟩ := exists_colon_of_memberValue h
  simp only [Draft.member, Draft.take]
  split
  · cases d.identity with
    | some old => rfl
    | none =>
      simp only [once, memberValue, hcolon, string_of_value hvalue]
      cases v.asString <;> rfl
  split
  · cases d.answers with
    | some old => rfl
    | none =>
      simp only [once, h]
      rfl
  · simp only [memberValue, hcolon, skip_of_value hvalue]
    rfl

/-- The submission in the text of an object is taken from its members, whatever comes of it. -/
theorem ofJsonText_eq {text : String} (h : writtenMembers text = .ok es) :
    ofJsonText text = ofMembers es := by
  obtain ⟨s, rest, hopen, hend, hmembers⟩ := exists_of_writtenMembers h
  obtain ⟨_, rfl, hloop⟩ := memberLoop_collect hmembers
  have hread := hloop (Draft.member (value (maxDepth - 1))) Draft.take
    (fun d key t v u ht => Draft.member_of_memberValue ht) ⟨none, none⟩
  simp only [ofMembers, ofJsonText, document, read, record, hopen, readObject, members, hread]
  cases es.foldlM Draft.take ⟨none, none⟩ with
  | error e => rfl
  | ok d =>
    simp only [Except.map, Except.bind]
    cases d.finish with
    | error e => rfl
    | ok x => exact if_pos hend

/-- The value of the text is the object of these members. -/
theorem parse_of_writtenMembers {text : String} (h : writtenMembers text = .ok es) :
    Json.parse text = .ok (Json.ofMembers es) := by
  obtain ⟨s, rest, hopen, hend, hmembers⟩ := exists_of_writtenMembers h
  obtain ⟨_, rfl, hloop⟩ := memberLoop_collect hmembers
  have hread := hloop (addMember (value (maxDepth - 1))) (fun done e => .ok (Assoc.insert e.1 e.2 done))
    (fun done key t v u ht => addMember_of_memberValue done ht) []
  have hes : es.foldlM (fun done e => Except.ok (Assoc.insert e.1 e.2 done)) [] =
      (Except.ok (Assoc.ofList es) : Except ReadError _) := List.foldlM_pure ..
  rw [hes] at hread
  have hdepth : maxDepth = maxDepth - 1 + 1 := rfl
  rw [Json.parse, hdepth, document]
  simp only [value, hopen, members, hread]
  exact if_pos hend

/-! ## Parts that are given -/

/-- The values under the two names of a part. -/
def given (name other : String) (es : List (String × Json)) : List Json :=
  (es.filter fun e => e.1 = name ∨ e.1 = other).map Prod.snd

section Given

variable {name other key : String} {v : Json}

theorem given_cons_of_name (h : key = name ∨ key = other) :
    given name other ((key, v) :: es) = v :: given name other es := by
  simp [given, h]

theorem given_cons_of_ne (h : ¬(key = name ∨ key = other)) :
    given name other ((key, v) :: es) = given name other es := by
  simp [given, h]

theorem given_eq_nil_iff :
    given name other es = [] ↔ name ∉ Assoc.keys es ∧ other ∉ Assoc.keys es := by
  simp only [given, List.map_eq_nil_iff, List.filter_eq_nil_iff, decide_eq_true_eq, not_or,
    Assoc.keys, List.mem_map, not_exists, not_and]
  exact ⟨fun h => ⟨fun e he => (h e he).1, fun e he => (h e he).2⟩,
    fun h e he => ⟨h.1 e he, h.2 e he⟩⟩

end Given

theorem Draft.finish_eq_ok_iff {d : Draft} :
    d.finish = .ok x ↔ d.identity = some x.identity ∧ d.answers = some x.answers := by
  obtain ⟨identity, answers⟩ := x
  obtain ⟨identity', answers'⟩ := d
  cases identity' <;> cases answers' <;> simp [Draft.finish, required]

theorem ok_of_foldlM_take {d : Draft} :
    (es.foldlM Draft.take d).bind Draft.finish = .ok x ↔
      d.identity.toList.map .string ++ given "identity" "email" es = [.string x.identity] ∧
      d.answers.toList ++ given "answers" "properties" es = [x.answers] := by
  induction es generalizing d with
  | nil =>
    obtain ⟨identity, answers⟩ := d
    rw [List.foldlM_nil]
    refine Draft.finish_eq_ok_iff.trans ?_
    cases identity <;> cases answers <;> simp [given]
  | cons e es ih =>
    obtain ⟨key, v⟩ := e
    obtain ⟨identity, answers⟩ := d
    rw [List.foldlM_cons]
    simp only [Draft.take]
    split
    · rename_i hkey
      have hother : ¬(key = "answers" ∨ key = "properties") := by rcases hkey with rfl | rfl <;> decide
      rw [given_cons_of_name hkey, given_cons_of_ne hother]
      cases identity with
      | some old => simp [bind, Except.bind]
      | none =>
        cases v with
        | string s => exact ih.trans (by simp)
        | _ => simp [bind, Except.bind, Json.asString]
    rename_i hkey
    rw [given_cons_of_ne hkey]
    split
    · rename_i hother
      rw [given_cons_of_name hother]
      cases answers with
      | some old => simp [bind, Except.bind]
      | none => exact ih.trans (by simp)
    · rename_i hother
      rw [given_cons_of_ne hother]
      exact ih

/-- A submission is taken from members just if each part is given once, under one of its names. -/
theorem ofMembers_eq_ok_iff :
    ofMembers es = .ok x ↔
      given "identity" "email" es = [.string x.identity] ∧
      given "answers" "properties" es = [x.answers] :=
  ok_of_foldlM_take (d := ⟨none, none⟩)

/-! ## The two decoders -/

theorem find?_ofMembers_append {name key : String} {v : Json} :
    Assoc.find? name (Json.ofMembers (es ++ [(key, v)])).bodyMembers =
      if name = key then some v else Assoc.find? name (Json.ofMembers es).bodyMembers := by
  simp only [Json.ofMembers, Json.bodyMembers, Assoc.ofList, List.foldl_append, List.foldl_cons,
    List.foldl_nil]
  exact Assoc.find?_insert key name v _

theorem find?_ofMembers_eq_none_iff {name : String} :
    Assoc.find? name (Json.ofMembers es).bodyMembers = none ↔ name ∉ Assoc.keys es :=
  Assoc.find?_eq_none_iff.trans (not_congr Assoc.mem_keys_ofList)

theorem exists_find?_ofMembers {name : String} (h : name ∈ Assoc.keys es) :
    ∃ v, Assoc.find? name (Json.ofMembers es).bodyMembers = some v := by
  refine Option.ne_none_iff_exists'.1 fun hnone => ?_
  exact find?_ofMembers_eq_none_iff.1 hnone h

theorem given_append_of_name {name other key : String} {v : Json} (h : key = name ∨ key = other) :
    given name other (es ++ [(key, v)]) = given name other es ++ [v] := by
  simp [given, h]

theorem given_append_of_ne {name other key : String} {v : Json} (h : ¬(key = name ∨ key = other)) :
    given name other (es ++ [(key, v)]) = given name other es := by
  simp [given, h]

/-- A part that is given once is the part of the object. -/
theorem hasPart_of_given {name other : String} {v : Json} (h : given name other es = [v]) :
    (Json.ofMembers es).HasPart name other v := by
  induction es using List.reverseRecOn with
  | nil => cases h
  | append_singleton es e ih =>
    obtain ⟨key, w⟩ := e
    rw [Json.hasPart_iff, find?_ofMembers_append, find?_ofMembers_append]
    by_cases hkey : key = name ∨ key = other
    · rw [given_append_of_name hkey] at h
      obtain ⟨hnil, hlast⟩ : given name other es = [] ∧ w = v := by
        simpa [List.append_eq_singleton_iff] using h
      subst hlast
      have hname := find?_ofMembers_eq_none_iff.2 (given_eq_nil_iff.1 hnil).1
      rcases hkey with rfl | rfl
      · rw [if_pos rfl]
        rfl
      · rw [hname, if_pos rfl]
        split <;> rfl
    · rw [given_append_of_ne hkey] at h
      obtain ⟨hname, hother⟩ := not_or.1 hkey
      rw [if_neg (Ne.symm hname), if_neg (Ne.symm hother)]
      exact Json.hasPart_iff.1 (ih h)

/-- Where no key is repeated and only one name of a part is used, the part of the object is given once. -/
theorem given_of_hasPart {name other : String} {v : Json} (hkeys : (Assoc.keys es).Nodup)
    (hnames : ¬(name ∈ Assoc.keys es ∧ other ∈ Assoc.keys es))
    (h : (Json.ofMembers es).HasPart name other v) : given name other es = [v] := by
  induction es using List.reverseRecOn with
  | nil => simp [Json.hasPart_iff, Json.ofMembers, Json.bodyMembers, Assoc.ofList, Assoc.find?] at h
  | append_singleton es e ih =>
    obtain ⟨key, w⟩ := e
    rw [Json.hasPart_iff, find?_ofMembers_append, find?_ofMembers_append] at h
    have hsplit : Assoc.keys (es ++ [(key, w)]) = Assoc.keys es ++ [key] := by simp [Assoc.keys]
    rw [hsplit, List.nodup_append] at hkeys
    obtain ⟨hnodup, _, hnew⟩ := hkeys
    have hfresh : key ∉ Assoc.keys es := fun hmem => hnew key hmem key (by simp) rfl
    simp only [hsplit, List.mem_append, List.mem_singleton] at hnames
    by_cases hkey : key = name ∨ key = other
    · rw [given_append_of_name hkey]
      rcases hkey with rfl | rfl
      · rw [if_pos rfl] at h
        rw [given_eq_nil_iff.2 ⟨hfresh, fun hother => hnames ⟨.inr rfl, .inl hother⟩⟩]
        cases h
        rfl
      · have hname : name ∉ Assoc.keys es := fun hname => hnames ⟨.inl hname, .inr rfl⟩
        rw [find?_ofMembers_eq_none_iff.2 hname, if_pos rfl] at h
        rw [given_eq_nil_iff.2 ⟨hname, hfresh⟩]
        split at h <;> cases h <;> rfl
    · obtain ⟨hname, hother⟩ := not_or.1 hkey
      rw [if_neg (Ne.symm hname), if_neg (Ne.symm hother)] at h
      rw [given_append_of_ne hkey]
      exact ih hnodup (fun hboth => hnames ⟨.inl hboth.1, .inl hboth.2⟩) (Json.hasPart_iff.2 h)

/-- What stands under the other name of a part does not matter where the first one is used. -/
theorem ofBody_append_email (h : "identity" ∈ Assoc.keys es) (w : Json) :
    ofBody (Json.ofMembers (es ++ [("email", w)])) = ofBody (Json.ofMembers es) := by
  obtain ⟨v, hv⟩ := exists_find?_ofMembers h
  simp [ofBody_eq, bodyIdentity, bodyAnswers, find?_ofMembers_append, hv]

theorem ofBody_append_properties (h : "answers" ∈ Assoc.keys es) (w : Json) :
    ofBody (Json.ofMembers (es ++ [("properties", w)])) = ofBody (Json.ofMembers es) := by
  obtain ⟨v, hv⟩ := exists_find?_ofMembers h
  simp [ofBody_eq, bodyIdentity, bodyAnswers, find?_ofMembers_append, hv]

theorem ofBody_of_ofMembers (h : ofMembers es = .ok x) : ofBody (Json.ofMembers es) = .ok x := by
  obtain ⟨hidentity, hanswers⟩ := ofMembers_eq_ok_iff.1 h
  exact ofBody_eq_ok_iff.2 ⟨hasPart_of_given hidentity, hasPart_of_given hanswers⟩

/-- The submission that is taken from the members of an object is the one in the body. The body has one in
more cases: where a part is given under both of its names, the first of them counts. -/
theorem decoders_agree :
    (∀ text members, Json.parse text = .ok (.object members) →
      ∃ es, writtenMembers text = .ok es ∧ Json.ofMembers es = .object members ∧
        ofJsonText text = ofMembers es) ∧
    ∀ es : List (String × Json),
      (∀ x, ofMembers es = .ok x → ofBody (Json.ofMembers es) = .ok x) ∧
      ((Assoc.keys es).Nodup → ¬("identity" ∈ Assoc.keys es ∧ "email" ∈ Assoc.keys es) →
        ¬("answers" ∈ Assoc.keys es ∧ "properties" ∈ Assoc.keys es) →
        ∀ x, ofBody (Json.ofMembers es) = .ok x → ofMembers es = .ok x) ∧
      (∀ report, ofBody (Json.ofMembers es) = .error report → ∃ e, ofMembers es = .error e) ∧
      ("identity" ∈ Assoc.keys es → ∀ w,
        ofBody (Json.ofMembers (es ++ [("email", w)])) = ofBody (Json.ofMembers es)) ∧
      ("answers" ∈ Assoc.keys es → ∀ w,
        ofBody (Json.ofMembers (es ++ [("properties", w)])) = ofBody (Json.ofMembers es)) := by
  constructor
  · intro text members h
    obtain ⟨es, hes⟩ := exists_writtenMembers h
    rw [parse_of_writtenMembers hes] at h
    exact ⟨es, hes, Except.ok.inj h, ofJsonText_eq hes⟩
  intro es
  refine ⟨fun x => ofBody_of_ofMembers, ?_, ?_, ofBody_append_email, ofBody_append_properties⟩
  · intro hkeys hidentity hanswers x h
    have hin := ofBody_eq_ok_iff.1 h
    exact ofMembers_eq_ok_iff.2
      ⟨given_of_hasPart hkeys hidentity hin.identity, given_of_hasPart hkeys hanswers hin.answers⟩
  · intro report h
    cases hes : ofMembers es with
    | error e => exact ⟨e, rfl⟩
    | ok x =>
      rw [ofBody_of_ofMembers hes] at h
      cases h

theorem decoders_agree_renamed :
    ofMembers [("note", .null), ("properties", .array []), ("email", .string "a@b.org")] =
      .ok ⟨"a@b.org", .array []⟩ :=
  (decoders_agree.2 _).2.1 (by decide) (by decide) (by decide) _ (by rfl)

end Submission

end SurveyIntake
