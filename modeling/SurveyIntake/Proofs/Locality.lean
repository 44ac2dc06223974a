import SurveyIntake.Proofs.Conformity
import SurveyIntake.Proofs.Faults
import SurveyIntake.Proofs.Mirror

/-!
# SurveyIntake.Proofs.Locality

How far the answer to one field reaches in a report: to what is said about that field and below it, and to
the number of selections of the selection that it belongs to.

* `Json.AgreeExcept`  — two values are the same but for what keys lead to, and hold objects on the way there.
* `Violation.within`  — a violation is at a path or below it.
* `Field.Compiled.within_path` — all that is said about an answer to an item is at the path of that item.
* `Item.counts`, `Form.countsAbove` — a violation is about the number of selections of an item, or of the parent.
* `filter_checkMembers_of_agree` — the report on two objects, without what is said at the place where they differ.
* `Configuration.faults_are_local` — the reports on two answers that differ at one field, compared.
-/

namespace SurveyIntake

/-! ## Values that differ at one place -/

/-- The keys lead through objects, which are the same but for the member of the key. That of the last key may
be missing in either. -/
inductive Json.AgreeExcept : List String → Json → Json → Prop where
  | here {key : String} {xs ys : List (String × Json)} : Assoc.erase key xs = Assoc.erase key ys →
      AgreeExcept [key] (.object xs) (.object ys)
  | inside {key : String} {keys : List String} {xs ys : List (String × Json)} {v w : Json} :
      Assoc.erase key xs = Assoc.erase key ys → Assoc.find? key xs = some v →
      Assoc.find? key ys = some w → AgreeExcept keys v w → AgreeExcept (key :: keys) (.object xs) (.object ys)

namespace Json.AgreeExcept

variable {key : String} {keys : List String} {xs ys : List (String × Json)}

theorem exists_objects {v w : Json} (h : AgreeExcept keys v w) :
    ∃ xs ys, v = .object xs ∧ w = .object ys := by
  cases h <;> exact ⟨_, _, rfl, rfl⟩

theorem erase_eq (h : AgreeExcept (key :: keys) (.object xs) (.object ys)) :
    Assoc.erase key xs = Assoc.erase key ys := by
  cases h <;> assumption

theorem exists_inside (h : AgreeExcept (key :: keys) (.object xs) (.object ys)) (hne : keys ≠ []) :
    ∃ v w, Assoc.find? key xs = some v ∧ Assoc.find? key ys = some w ∧ AgreeExcept keys v w := by
  cases h with
  | here => exact absurd rfl hne
  | inside _ hv hw hrest => exact ⟨_, _, hv, hw, hrest⟩

end Json.AgreeExcept

namespace Assoc

variable {κ α : Type} [DecidableEq κ] {k l : κ} {xs ys : List (κ × α)}

theorem find?_eq_of_erase_eq [LT κ] [DecidableLT κ] (h : erase k xs = erase k ys) (hl : l ≠ k) :
    find? l xs = find? l ys := by
  have hfind : ∀ pairs : List (κ × α), find? l pairs = find? l (erase k pairs) := fun pairs => by
    rw [find?_erase, if_neg hl]
  rw [hfind xs, h, ← hfind ys]

theorem keys_erase (k : κ) (pairs : List (κ × α)) :
    keys (erase k pairs) = (keys pairs).filter fun l => l ≠ k := by
  induction pairs with
  | nil => rfl
  | cons p rest ih =>
    obtain ⟨m, w⟩ := p
    unfold keys at ih
    by_cases hkm : k = m
    · subst hkm
      simp [erase, keys, ih]
    · have hmk : m ≠ k := fun e => hkm e.symm
      simp [erase, keys, hkm, hmk, ih]

end Assoc

/-! ## Places of violations -/

/-- The violation is at the path or below it. -/
def Violation.within (path : String) (v : Violation) : Bool :=
  v.path == path || (path ++ ".").toList.isPrefixOf v.path.toList

namespace Violation

variable {path : String} {v : Violation}

theorem within_iff : v.within path = true ↔ v.path = path ∨ ∃ rest, v.path = path ++ "." ++ rest := by
  rw [within, Bool.or_eq_true, beq_iff_eq, List.isPrefixOf_iff_prefix]
  refine or_congr_right ⟨?_, ?_⟩
  · rintro ⟨rest, hrest⟩
    refine ⟨String.ofList rest, String.toList_injective ?_⟩
    rw [String.toList_append, String.toList_ofList, hrest]
  · rintro ⟨rest, hrest⟩
    exact ⟨rest.toList, by simp [hrest]⟩

theorem within_self (path message : String) : Violation.within path ⟨path, message⟩ = true :=
  within_iff.2 (.inl rfl)

theorem within_of_below {rest : String} (h : v.within (path ++ "." ++ rest) = true) :
    v.within path = true := by
  rcases within_iff.1 h with hp | ⟨more, hp⟩
  · exact within_iff.2 (.inr ⟨rest, hp⟩)
  · exact within_iff.2 (.inr ⟨rest ++ "." ++ more, by rw [hp]; simp [String.append_assoc]⟩)

end Violation

theorem within_of_mem_textViolations {path s : String} {rules : List Rule} {v : Violation}
    (h : v ∈ textViolations path rules s) : v.within path = true := by
  obtain ⟨r, _, hv⟩ := List.mem_filterMap.1 h
  obtain ⟨message, _, rfl⟩ := Option.map_eq_some_iff.1 hv
  exact Violation.within_self path message

theorem within_of_mem_countViolations {path : String} {rules : List Rule} {count : Nat} {v : Violation}
    (h : v ∈ countViolations path rules count) : v.within path = true := by
  obtain ⟨r, _, hv⟩ := List.mem_filterMap.1 h
  obtain ⟨message, _, rfl⟩ := Option.map_eq_some_iff.1 hv
  exact Violation.within_self path message

theorem within_of_mem_unknownMembers {path : String} {items : List Item} {members : List (String × Json)}
    {v : Violation} (h : v ∈ unknownMembers (some path) items members) : v.within path = true := by
  obtain ⟨key, _, rfl⟩ := List.mem_map.1 h
  exact Violation.within_iff.2 (.inr ⟨key, rfl⟩)

/-- All that is said about an answer is at the path of its item or below it. -/
theorem Field.Compiled.within_path {f : Field} {n : Nat} {parent : Option String} {i : Item}
    (h : f.Compiled n parent i) (answer : Option Json) :
    ∀ v ∈ i.answerReport answer, v.within i.path = true := by
  induction f using Field.induction generalizing n parent i answer with
  | step f ih =>
    have hmembers : ∀ members, ∀ v ∈ Item.checkAll i.children members ++
        unknownMembers (some i.path) i.children members, v.within i.path = true := by
      intro members v hv
      rcases List.mem_append.1 hv with hv | hv
      · rw [Item.checkAll_eq_flatMap] at hv
        obtain ⟨j, hj, hv⟩ := List.mem_flatMap.1 hv
        obtain ⟨m, g, hg, hcompiled⟩ := Field.exists_field_of_mem h.children hj
        have hbelow := ih g (List.mem_of_getElem? hg) hcompiled _ v hv
        rw [hcompiled.path] at hbelow
        exact Violation.within_of_below hbelow
      · exact within_of_mem_unknownMembers hv
    intro v hv
    cases answer with
    | none =>
      cases List.mem_singleton.1 hv
      exact Violation.within_self _ _
    | some value =>
      rw [Item.answerReport] at hv
      by_cases htakes : i.kind.Takes value
      · cases htakes with
        | text hk =>
          rw [Item.check_text (.text hk)] at hv
          exact within_of_mem_textViolations hv
        | option hk =>
          rw [Item.check_option hk] at hv
          cases hv
        | @object members hk =>
          rcases hk with hk | hk
          · rw [Item.check_selection hk] at hv
            rcases List.mem_append.1 hv with hv | hv
            · exact hmembers members v hv
            · exact within_of_mem_countViolations hv
          · rw [Item.check_properties hk] at hv
            exact hmembers members v hv
      · rw [Item.check_mistyped htakes] at hv
        cases List.mem_singleton.1 hv
        exact Violation.within_self _ _

/-! ## Messages about numbers of selections -/

/-- The rule is about the number of selections. -/
def Rule.limitsSelections : Rule → Bool
  | .minSelect _ | .maxSelect _ => true
  | .minChars _ | .maxChars _ | .pattern _ => false

/-- The violation says that there are too few or too many selections for the item. -/
def Item.counts (i : Item) (v : Violation) : Bool :=
  v.path == i.path && i.rules.any fun r => r.limitsSelections && r.complaint == v.message

theorem Item.counts_of_mem {i : Item} {count : Nat} {v : Violation}
    (h : v ∈ countViolations i.path i.rules count) : i.counts v = true := by
  obtain ⟨r, hr, hv⟩ := List.mem_filterMap.1 h
  obtain ⟨message, hmessage, rfl⟩ := Option.map_eq_some_iff.1 hv
  obtain ⟨hbroken, rfl⟩ := Rule.countFault?_eq_some_iff.1 hmessage
  have hlimits : r.limitsSelections = true := by
    cases r with
    | minSelect | maxSelect => rfl
    | minChars | maxChars | pattern => cases hbroken
  rw [counts, beq_self_eq_true, Bool.true_and, List.any_eq_true]
  exact ⟨r, hr, by rw [hlimits, beq_self_eq_true, Bool.and_true]⟩

/-- Items of this kind add to the number of selections of their parent. -/
def Kind.IsCounted (kind : Kind) : Prop := kind = .option ∨ kind = .list

theorem Kind.not_isCounted {kind : Kind} (h : kind = .selection ∨ kind = .properties) : ¬kind.IsCounted := by
  rcases h with rfl | rfl <;> rintro (hk | hk) <;> cases hk

/-- The number of selections depends on the members for options and lists alone. -/
theorem Item.selections_eq_of_erase_eq {i : Item} {key : String} {xs ys : List (String × Json)}
    (hxy : Assoc.erase key xs = Assoc.erase key ys)
    (h : ∀ j ∈ i.children, j.key = key → ¬j.kind.IsCounted) : i.selections xs = i.selections ys := by
  have hfind : ∀ a ∈ i.children.map (fun j => (j.kind, j.key)), a.1.IsCounted →
      Assoc.find? a.2 xs = Assoc.find? a.2 ys := by
    intro a ha hcounted
    obtain ⟨j, hj, rfl⟩ := List.mem_map.1 ha
    exact Assoc.find?_eq_of_erase_eq hxy fun hkey => h j hj hkey hcounted
  have hoptions : setOptions (i.children.map fun j => (j.kind, j.key)) xs =
      setOptions (i.children.map fun j => (j.kind, j.key)) ys := by
    refine List.countP_congr fun a ha => ?_
    by_cases hk : a.1 = .option
    · rw [hfind a ha (.inl hk)]
    · simp [hk]
  have hentries : listedEntries (i.children.map fun j => (j.kind, j.key)) xs =
      listedEntries (i.children.map fun j => (j.kind, j.key)) ys := by
    refine congrArg List.sum (List.map_congr_left fun a ha => ?_)
    by_cases hk : a.1 = .list
    · rw [hfind a ha (.inr hk)]
    · simp [entryCount, hk]
  rw [selections, selections, selectionCount, selectionCount, hoptions, hentries]

/-! ## Reports on objects that differ at one place -/

section Members

variable {parent : Option String} {fields : List Field} {items : List Item} {keep : Violation → Bool}
  {xs ys : List (String × Json)} {n : Nat} {i : Item}

/-- The item at a position is the only one with its key. -/
theorem Field.eq_of_key_eq (h : Field.compileAll 1 parent fields = .ok items)
    (hi : standing? items n = some i) {j : Item} (hj : j ∈ items) (hkey : j.key = toString n) : j = i := by
  obtain ⟨m, hm⟩ := List.getElem?_of_mem hj
  obtain ⟨g, hg⟩ := exists_of_rel (Field.standing_compileAll h (m + 1)) hm
  rw [hg.key] at hkey
  cases numeral_inj hkey
  exact Option.some.inj (hm.symm.trans hi)

/-- Of two objects that differ at one item, the same is reported if so it is about that item. -/
theorem filter_checkMembers_eq (h : Field.compileAll 1 parent fields = .ok items)
    (hi : standing? items n = some i) (hxy : Assoc.erase (toString n) xs = Assoc.erase (toString n) ys)
    (hsame : (i.answerReport (Assoc.find? (toString n) xs)).filter keep =
      (i.answerReport (Assoc.find? (toString n) ys)).filter keep) :
    (Item.checkAll items xs ++ unknownMembers parent items xs).filter keep =
      (Item.checkAll items ys ++ unknownMembers parent items ys).filter keep := by
  obtain ⟨f, hcompiled⟩ := exists_of_rel (Field.standing_compileAll h n) hi
  have hmem : i ∈ items := by
    cases n with
    | zero => cases hi
    | succ k => exact List.mem_of_getElem? hi
  have hunknown : ∀ members : List (String × Json), unknownMembers parent items members =
      unknownMembers parent items (Assoc.erase (toString n) members) := by
    intro members
    -- The key of the item is known, so it makes no difference whether it is there.
    rw [unknownMembers, unknownMembers, Assoc.keys_erase, List.filter_filter]
    refine congrArg _ (List.filter_congr fun key _ => ?_)
    by_cases hkey : key = toString n
    · have hknown : (items.any fun j => j.key == key) = true :=
        List.any_eq_true.2 ⟨i, hmem, by rw [hcompiled.key, hkey, beq_self_eq_true]⟩
      rw [hknown, Bool.not_true, Bool.false_and]
    · rw [decide_eq_true hkey, Bool.and_true]
  rw [List.filter_append, List.filter_append, hunknown xs, hxy, ← hunknown ys, Item.checkAll_eq_flatMap,
    Item.checkAll_eq_flatMap, List.filter_flatMap, List.filter_flatMap]
  refine congrArg (· ++ _) (List.flatMap_congr fun j hj => ?_)
  by_cases hkey : j.key = toString n
  · rw [Field.eq_of_key_eq h hi hj hkey, hcompiled.key, hsame]
  · rw [Assoc.find?_eq_of_erase_eq hxy hkey]

theorem follow_nil {α : Type} (below : α → List α) (route : Route) : follow below [] route = none := by
  cases route with
  | nil => rfl
  | cons n route => cases n <;> rfl

/-- A route goes on below composite items only. -/
theorem Field.Compiled.composite_of_follow {f : Field} {m : Nat} {j : Item} {route : Route}
    (h : f.Compiled m parent j) (hi : follow Item.children j.children route = some i) :
    j.kind = .selection ∨ j.kind = .properties := by
  have hne : f.children ≠ [] := by
    intro hnil
    have hitems := h.children
    rw [hnil, Field.compileAll, Except.ok.injEq] at hitems
    rw [← hitems, follow_nil] at hi
    cases hi
  have hcomposite := h.composite.1 hne
  rw [← h.kind] at hcomposite
  cases hk : j.kind <;> simp [hk, Kind.isComposite] at hcomposite ⊢

/-- Where two objects differ further down than at members that are counted, they hold as many selections. -/
theorem Field.Compiled.selections_eq {f : Field} {m : Nat} {j : Item} {front : Route}
    (h : f.Compiled m parent j) (hi : follow Item.children j.children (front ++ [n]) = some i)
    (hxy : Json.AgreeExcept ((front ++ [n]).map toString) (.object xs) (.object ys))
    (hlast : front = [] → ¬i.kind.IsCounted) : j.selections xs = j.selections ys := by
  cases front with
  | nil =>
    obtain ⟨i', hi', he⟩ := Option.bind_eq_some_iff.1 hi
    cases he
    refine Item.selections_eq_of_erase_eq hxy.erase_eq fun k hk hkey => ?_
    rw [Field.eq_of_key_eq h.children hi' hk hkey]
    exact hlast rfl
  | cons p front =>
    obtain ⟨k, hk, hbelow⟩ := Option.bind_eq_some_iff.1 hi
    obtain ⟨g, hg⟩ := exists_of_rel (Field.standing_compileAll h.children p) hk
    have hinner : follow Item.children k.children (front ++ [n]) = some i := by
      cases front <;> exact hbelow
    refine Item.selections_eq_of_erase_eq hxy.erase_eq fun l hl hkey => ?_
    rw [Field.eq_of_key_eq h.children hk hl hkey]
    exact Kind.not_isCounted (hg.composite_of_follow hinner)

/-- Of two objects that differ at the end of a route, the same is reported save what is said there, and what
is said about the number of selections of the item above it. The induction is on the route: only the last
item on it may count what differs, since those before have composite items below them. -/
theorem filter_checkMembers_of_agree {front : Route} (h : Field.compileAll 1 parent fields = .ok items)
    (hi : follow Item.children items (front ++ [n]) = some i)
    (hxy : Json.AgreeExcept ((front ++ [n]).map toString) (.object xs) (.object ys))
    (hwithin : ∀ v : Violation, v.within i.path = true → keep v = false)
    (hcount : ∀ above, follow Item.children items front = some above → above.kind = .selection →
      i.kind.IsCounted → ∀ v, above.counts v = true → keep v = false) :
    (Item.checkAll items xs ++ unknownMembers parent items xs).filter keep =
      (Item.checkAll items ys ++ unknownMembers parent items ys).filter keep := by
  induction front generalizing parent fields items xs ys with
  | nil =>
    obtain ⟨i', hi', hlast⟩ := Option.bind_eq_some_iff.1 hi
    cases hlast
    obtain ⟨f, hcompiled⟩ := exists_of_rel (Field.standing_compileAll h n) hi'
    have hnone : ∀ answer, (i.answerReport answer).filter keep = [] := fun answer =>
      List.filter_eq_nil_iff.2 fun v hv => by simp [hwithin v (hcompiled.within_path answer v hv)]
    exact filter_checkMembers_eq h hi' hxy.erase_eq (by rw [hnone, hnone])
  | cons m front ih =>
    obtain ⟨j, hj, hbelow⟩ := Option.bind_eq_some_iff.1 hi
    obtain ⟨f, hcompiled⟩ := exists_of_rel (Field.standing_compileAll h m) hj
    have hinner : follow Item.children j.children (front ++ [n]) = some i := by
      cases front <;> exact hbelow
    obtain ⟨v, w, hv, hw, hrest⟩ := hxy.exists_inside (by simp)
    obtain ⟨xs', ys', rfl, rfl⟩ := hrest.exists_objects
    have hmembers := ih hcompiled.children hinner hrest fun above habove => by
      refine hcount above ?_
      cases front with
      | nil => cases habove
      | cons p front => exact Option.bind_eq_some_iff.2 ⟨j, hj, habove⟩
    refine filter_checkMembers_eq h hj hxy.erase_eq ?_
    rw [hv, hw, Item.answerReport, Item.answerReport]
    rcases hcompiled.composite_of_follow hinner with hk | hk
    · have hcounts : (countViolations j.path j.rules (j.selections xs')).filter keep =
          (countViolations j.path j.rules (j.selections ys')).filter keep := by
        by_cases hlast : front = [] ∧ i.kind.IsCounted
        · obtain ⟨rfl, hcounted⟩ := hlast
          have habove : follow Item.children items [m] = some j := Option.bind_eq_some_iff.2 ⟨j, hj, rfl⟩
          have hnone : ∀ count, (countViolations j.path j.rules count).filter keep = [] := fun count =>
            List.filter_eq_nil_iff.2 fun v hv => by
              simp [hcount j habove hk hcounted v (Item.counts_of_mem hv)]
          rw [hnone, hnone]
        · rw [hcompiled.selections_eq hinner hrest fun hfront hcounted => hlast ⟨hfront, hcounted⟩]
      rw [Item.check_selection hk, Item.check_selection hk, List.filter_append, hmembers, hcounts]
      exact (List.filter_append _ _).symm
    · rw [Item.check_properties hk, Item.check_properties hk, hmembers]

end Members

/-! ## Reports on answers that differ at one field -/

namespace Form

/-- The violation is about the number of selections of the selection that a route goes through last before
its end, if it goes through one there. -/
def countsAbove (form : Form) (route : Route) (v : Violation) : Bool :=
  match form.at? route.dropLast with
  | some above => above.kind == .selection && above.counts v
  | none => false

/-- What is said about either value is the same once all else than the violations to be kept is left out. -/
def SameKept (form : Form) (keep : Violation → Bool) (a b : Json) : Prop :=
  (form.checkAnswers a).filter keep = (form.checkAnswers b).filter keep ∧
    ∀ identity, (form.check ⟨identity, a⟩).filter keep = (form.check ⟨identity, b⟩).filter keep

end Form

namespace Configuration

variable {c : Configuration} {form : Form} {route : Route} {i : Item} {a b : Json}

theorem sameKept_of_agree (h : c.compile = .ok form) (hi : form.at? route = some i)
    (hab : Json.AgreeExcept (route.map toString) a b) {keep : Violation → Bool}
    (hwithin : ∀ v : Violation, v.within i.path = true → keep v = false)
    (hcount : ∀ above, form.at? route.dropLast = some above → above.kind = .selection →
      i.kind.IsCounted → ∀ v, above.counts v = true → keep v = false) : form.SameKept keep a b := by
  obtain ⟨xs, ys, rfl, rfl⟩ := hab.exists_objects
  obtain rfl | ⟨front, n, rfl⟩ := route.eq_nil_or_concat'
  · cases hi
  rw [List.dropLast_concat] at hcount
  have hanswers : (form.checkAnswers (.object xs)).filter keep =
      (form.checkAnswers (.object ys)).filter keep :=
    filter_checkMembers_of_agree (compile_eq_ok_iff.1 h).2.2 hi hab hwithin hcount
  refine ⟨hanswers, fun identity => ?_⟩
  rw [Form.check, Form.check, List.filter_append, List.filter_append, hanswers]

/-- **Faults are local.** Two answers that differ at one field only, all above which are objects in both, get
the same report in the same order, save what is said about that field and below it, and about the number of
selections of its parent, if that is a selection. The latter is the same too, unless the field is an option
or a list. -/
theorem faults_are_local (h : c.compile = .ok form) (hi : form.at? route = some i)
    (hab : Json.AgreeExcept (route.map toString) a b) :
    form.SameKept (fun v => !v.within i.path && !form.countsAbove route v) a b ∧
      (¬(i.kind.IsCounted ∧ ∃ above, form.at? route.dropLast = some above ∧ above.kind = .selection) →
        form.SameKept (fun v => !v.within i.path) a b) := by
  constructor
  · refine sameKept_of_agree h hi hab (fun v hv => by simp [hv]) fun above habove hk _ v hv => ?_
    simp [Form.countsAbove, habove, hk, hv]
  · intro hnot
    refine sameKept_of_agree h hi hab (fun v hv => by simp [hv]) fun above habove hk hcounted => ?_
    exact absurd ⟨hcounted, above, habove, hk⟩ hnot

/-- Answers to `tripSurvey` with an undeclared key inside the selection. -/
def tripAnswers (choices : List (String × Json)) (address : String) : Json :=
  .object [("1", .object (choices ++ [("2", .string "a,b"), ("x", .null)])), ("2", .string address)]

/-- Without its option the selection has too few selections, and with a poor address that is another fault;
what is said about the undeclared key stays. -/
theorem faults_are_local_trip :
    tripSurvey.compile = .ok tripForm ∧
      tripForm.checkAnswers (tripAnswers [] "b@c.de") =
        [⟨"1.1", "required field"⟩, ⟨"1.x", "unknown field"⟩, ⟨"1", "Must select at least 3 options"⟩] ∧
      tripForm.SameKept (fun v => !v.within "1.1" && !tripForm.countsAbove [1, 1] v)
        (tripAnswers [("1", .bool true)] "b@c.de") (tripAnswers [] "b@c.de") ∧
      tripForm.SameKept (fun v => !v.within "2")
        (tripAnswers [] "b@c.de") (tripAnswers [] "b") := by
  have hcompile : tripSurvey.compile = .ok tripForm := rfl
  have hoption : tripForm.at? [1, 1] = some ⟨1, "1.1", .option, [], []⟩ := rfl
  have haddress : tripForm.at? [2] =
      some ⟨2, "2", .email, [.maxChars 9, .pattern addressPattern], []⟩ := rfl
  have hinner : Json.AgreeExcept ["1", "1"] (tripAnswers [("1", .bool true)] "b@c.de")
      (tripAnswers [] "b@c.de") := .inside rfl rfl rfl (.here rfl)
  have houter : Json.AgreeExcept ["2"] (tripAnswers [] "b@c.de") (tripAnswers [] "b") := .here rfl
  refine ⟨hcompile, by decide +kernel, (faults_are_local hcompile hoption hinner).1,
    (faults_are_local hcompile haddress houter).2 ?_⟩
  rintro ⟨hcounted, _⟩
  rcases hcounted with hk | hk <;> cases hk

end Configuration
end SurveyIntake
