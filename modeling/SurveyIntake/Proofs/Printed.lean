import SurveyIntake.Proofs.Lexeme
import SurveyIntake.Proofs.Proper

/-!
# SurveyIntake.Proofs.Printed

Values are read back as they are printed.

* `Json.Exact`        — a value that a text keeps as it is: all of its numbers are integers of 64 bits.
* `Reader.ReadsAs`    — from a text, whatever follows it, a reader makes this.
* `Reader.elements_printed`, `Reader.members_printed` — where the parts are read as they are meant, the
  whole is.
* `Json.parse_render` — an exact value that nests no deeper than texts may is read back from its text.
-/

namespace SurveyIntake

namespace Assoc

variable {κ α : Type} [LT κ] [DecidableLT κ] [DecidableEq κ] [Std.Irrefl (α := κ) (· < ·)]
  [Trans (α := κ) (· < ·) (· < ·) (· < ·)]

/-- What comes after all keys that are there goes to the end. -/
theorem insert_eq_append {k : κ} {v : α} {pairs : List (κ × α)} (h : ∀ l ∈ keys pairs, l < k) :
    insert k v pairs = pairs ++ [(k, v)] := by
  induction pairs with
  | nil => rfl
  | cons p rest ih =>
    obtain ⟨m, w⟩ := p
    have hlt : m < k := h m List.mem_cons_self
    have hne : k ≠ m := by
      rintro rfl
      exact Std.Irrefl.irrefl (r := (· < ·)) k hlt
    have hnlt : ¬k < m := fun hkm => Std.Irrefl.irrefl (r := (· < ·)) k (Trans.trans hkm hlt)
    rw [insert, if_neg hne, if_neg hnlt, ih fun l hl => h l (List.mem_cons_of_mem _ hl), List.cons_append]

end Assoc

namespace Json

mutual

/-- All numbers are integers of 64 bits. -/
def Exact : Json → Prop
  | .number (.integer i) => Lexeme.minInteger ≤ i ∧ i ≤ Lexeme.maxNatural
  | .number (.real _) => False
  | .array items => ItemsExact items
  | .object members => MembersExact members
  | _ => True

def ItemsExact : List Json → Prop
  | [] => True
  | item :: items => Exact item ∧ ItemsExact items

def MembersExact : List (String × Json) → Prop
  | [] => True
  | (_, value) :: members => Exact value ∧ MembersExact members

end

theorem itemsExact_iff {items : List Json} : ItemsExact items ↔ ∀ v ∈ items, v.Exact := by
  induction items with
  | nil => simp [ItemsExact]
  | cons v items ih => simp [ItemsExact, ih]

theorem membersExact_iff {members : List (String × Json)} :
    MembersExact members ↔ ∀ e ∈ members, e.2.Exact := by
  induction members with
  | nil => simp [MembersExact]
  | cons e members ih => simp [MembersExact, ih]

theorem itemsDepth_le_iff {items : List Json} {n : Nat} :
    itemsDepth items ≤ n ↔ ∀ v ∈ items, v.depth ≤ n := by
  induction items with
  | nil => simp [itemsDepth]
  | cons v items ih => simp only [itemsDepth, Nat.max_le, ih, List.forall_mem_cons]

theorem membersDepth_le_iff {members : List (String × Json)} {n : Nat} :
    membersDepth members ≤ n ↔ ∀ e ∈ members, e.2.depth ≤ n := by
  induction members with
  | nil => simp [membersDepth]
  | cons e members ih => simp only [membersDepth, Nat.max_le, ih, List.forall_mem_cons]

/-! ## Texts of parts -/

/-- A text that begins as a value does: not with white space, nor with a bracket that closes. -/
def Begins (text : List Char) : Prop :=
  ∃ c rest, text = c :: rest ∧ Lexeme.isSpace c = false ∧ c ≠ ']'

/-- The texts of elements that come after others. -/
def furtherItems (items : List Json) : List Char := items.flatMap fun v => ',' :: chars v

def furtherMembers (members : List (String × Json)) : List Char :=
  members.flatMap fun m => ',' :: (quote m.1 ++ ':' :: chars m.2)

theorem itemChars_cons (v : Json) (items : List Json) :
    itemChars (v :: items) = chars v ++ furtherItems items := by
  induction items generalizing v with
  | nil => simp [itemChars, furtherItems]
  | cons w items ih => rw [itemChars, ih, furtherItems, furtherItems, List.flatMap_cons, List.cons_append]

theorem memberChars_cons (m : String × Json) (members : List (String × Json)) :
    memberChars (m :: members) = quote m.1 ++ ':' :: (chars m.2 ++ furtherMembers members) := by
  induction members generalizing m with
  | nil => simp [memberChars, furtherMembers]
  | cons l members ih =>
    rw [memberChars, ih, furtherMembers, furtherMembers, List.flatMap_cons, List.cons_append,
      List.append_assoc, List.cons_append]

/-- An integer is printed with a digit or a sign in front. -/
theorem text_integer_cons (i : Int) :
    ∃ c rest, (Number.integer i).text.toList = c :: rest ∧ (c.isDigit = true ∨ c = '-') := by
  cases i with
  | ofNat n =>
    cases hdigits : Nat.toDigits 10 n with
    | nil => exact absurd hdigits Nat.toDigits_ne_nil
    | cons c rest =>
      have hc : c ∈ Nat.toDigits 10 n := by rw [hdigits]; exact List.mem_cons_self
      exact ⟨c, rest, (Lexeme.text_ofNat n).trans hdigits,
        .inl (Nat.isDigit_of_mem_toDigits (by decide) (by decide) hc)⟩
  | negSucc n => exact ⟨'-', _, Lexeme.text_negSucc n, .inr rfl⟩

theorem ne_of_numeral {c d : Char} (hc : c.isDigit = true ∨ c = '-') (hd : d.isDigit = false)
    (hsign : d ≠ '-') : c ≠ d := by
  rintro rfl
  rcases hc with hc | hc
  · rw [hc] at hd
    cases hd
  · exact hsign hc

theorem not_space_of_numeral {c : Char} (hc : c.isDigit = true ∨ c = '-') : Lexeme.isSpace c = false := by
  have hblank : c ≠ ' ' := ne_of_numeral hc rfl (by decide)
  have hline : c ≠ '\n' := ne_of_numeral hc rfl (by decide)
  have htab : c ≠ '\t' := ne_of_numeral hc rfl (by decide)
  have hreturn : c ≠ '\r' := ne_of_numeral hc rfl (by decide)
  simp [Lexeme.isSpace, hblank, hline, htab, hreturn]

theorem begins_chars {v : Json} (h : v.Exact) : Begins (chars v) := by
  cases v with
  | null => exact ⟨_, _, rfl, rfl, by decide⟩
  | bool b => cases b <;> exact ⟨_, _, rfl, rfl, by decide⟩
  | number x =>
    cases x with
    | real _ => exact absurd h id
    | integer i =>
      obtain ⟨c, rest, htext, hc⟩ := text_integer_cons i
      have hne := ne_of_numeral hc (d := ']') rfl (by decide)
      exact ⟨c, rest, htext, not_space_of_numeral hc, hne⟩
  | string s => exact ⟨_, _, rfl, rfl, by decide⟩
  | array items => exact ⟨'[', itemChars items ++ [']'], by rw [chars], rfl, by decide⟩
  | object members => exact ⟨'\x7b', memberChars members ++ ['\x7d'], by rw [chars], rfl, by decide⟩

namespace Reader

open Lexeme

variable {σ α : Type}

/-- From a text, whatever follows it, a reader makes this. What follows a number has to end it. -/
def ReadsAs (item : List Char → Read α) (text : List Char) (x : α) : Prop :=
  ∀ rest, EndsNumber rest → item (text ++ rest) = .ok (x, rest)

theorem skipSpace_of_not_space {c : Char} (h : isSpace c = false) (rest : List Char) :
    skipSpace (c :: rest) = c :: rest := by
  rw [skipSpace, List.dropWhile_cons_of_neg (by simp [h])]

theorem endsNumber_close (rest : List Char) : EndsNumber (']' :: rest) := endsNumber_cons (by decide) rest

theorem endsNumber_closeObject (rest : List Char) : EndsNumber ('\x7d' :: rest) :=
  endsNumber_cons (by decide) rest

theorem endsNumber_further {items : List Json} {rest : List Char} (h : EndsNumber rest) :
    EndsNumber (furtherItems items ++ rest) := by
  cases items with
  | nil => exact h
  | cons v items => exact endsNumber_cons (by decide) _

theorem endsNumber_furtherMembers {members : List (String × Json)} {rest : List Char}
    (h : EndsNumber rest) : EndsNumber (furtherMembers members ++ rest) := by
  cases members with
  | nil => exact h
  | cons m members => exact endsNumber_cons (by decide) _

/-! ## Arrays -/

theorem nextElement_close (first : Bool) (rest : List Char) :
    nextElement first (']' :: rest) = .ok (false, ']' :: rest) := rfl

theorem nextElement_first {text : List Char} (h : Begins text) (rest : List Char) :
    nextElement true (text ++ rest) = .ok (true, text ++ rest) := by
  obtain ⟨c, cs, rfl, hspace, hclose⟩ := h
  rw [List.cons_append, nextElement, skipSpace_of_not_space hspace]
  split
  · cases ‹_ = []›
  · rename_i heq
    cases heq
    exact absurd rfl hclose
  · rename_i heq
    cases heq
    rfl

theorem nextElement_further {text : List Char} (h : Begins text) (rest : List Char) :
    nextElement false (',' :: (text ++ rest)) = .ok (true, text ++ rest) := by
  obtain ⟨c, cs, rfl, hspace, hclose⟩ := h
  rw [nextElement, skipSpace_of_not_space rfl]
  split
  · cases ‹_ = []›
  · cases ‹_ :: _ = _ :: _›
  · rename_i heq
    cases heq
    rw [if_neg (by decide), if_pos rfl, List.cons_append, skipSpace_of_not_space hspace]
    split
    · cases ‹_ = []›
    · rename_i heq
      cases heq
      exact absurd rfl hclose
    · rfl

theorem closeArray_close (rest : List Char) : closeArray (']' :: rest) = .ok rest := rfl

/-- Values that are read one after the other. -/
inductive ItemsRead (item : List Char → Read α) : List Json → List α → Prop where
  | nil : ItemsRead item [] []
  | cons {v : Json} {x : α} {items : List Json} {xs : List α} : Begins (chars v) →
      ReadsAs item (chars v) x → ItemsRead item items xs → ItemsRead item (v :: items) (x :: xs)

/-- The elements after the first are read one by one. -/
theorem elementLoop_further {item : List Char → Read α} {items : List Json} {xs : List α}
    (h : ItemsRead item items xs) {done : List α} {fuel : Nat} (hfuel : items.length < fuel)
    (rest : List Char) :
    elementLoop item done fuel false (furtherItems items ++ ']' :: rest) =
      .ok (done.reverse ++ xs, rest) := by
  induction h generalizing done fuel with
  | nil =>
    cases fuel with
    | zero => exact absurd hfuel (Nat.not_lt_zero _)
    | succ fuel =>
      simp only [furtherItems, List.flatMap_nil, List.nil_append, elementLoop, nextElement_close,
        closeArray_close, List.append_nil]
  | @cons v x items xs hbegins hv _ ih =>
    cases fuel with
    | zero => exact absurd hfuel (Nat.not_lt_zero _)
    | succ fuel =>
      have htext : furtherItems (v :: items) ++ ']' :: rest =
          ',' :: (chars v ++ (furtherItems items ++ ']' :: rest)) := by
        simp [furtherItems]
      rw [htext, elementLoop, nextElement_further hbegins]
      simp only [hv _ (endsNumber_further (endsNumber_close rest)), ih (Nat.lt_of_succ_lt_succ hfuel),
        List.reverse_cons, List.append_assoc, List.singleton_append]

/-- An array is read from its text if its elements are from theirs. -/
theorem elements_printed {item : List Char → Read α} {items : List Json} {xs : List α}
    (h : ItemsRead item items xs) (rest : List Char) :
    elements item (itemChars items ++ ']' :: rest) = .ok (xs, rest) := by
  cases h with
  | nil => rfl
  | @cons v x items xs hbegins hv hitems =>
    have hlength := length_le_flatMap items (f := fun w => ',' :: chars w) (by simp)
    have htext : itemChars (v :: items) ++ ']' :: rest =
        chars v ++ (furtherItems items ++ ']' :: rest) := by
      rw [itemChars_cons, List.append_assoc]
    have hfuel : items.length < (chars v ++ (furtherItems items ++ ']' :: rest)).length := by
      simp only [furtherItems, List.length_append, List.length_cons]
      omega
    rw [elements, htext, elementLoop, nextElement_first hbegins]
    simp only [hv _ (endsNumber_further (endsNumber_close rest)), elementLoop_further hitems hfuel,
      List.reverse_cons, List.reverse_nil, List.nil_append, List.singleton_append]

theorem itemsRead_self {item : List Char → Read Json} {items : List Json}
    (h : ∀ v ∈ items, Begins (chars v) ∧ ReadsAs item (chars v) v) : ItemsRead item items items := by
  induction items with
  | nil => exact .nil
  | cons v items ih =>
    have hv := h v List.mem_cons_self
    exact .cons hv.1 hv.2 (ih fun w hw => h w (List.mem_cons_of_mem _ hw))

/-! ## Objects -/

theorem stringTail_quote (s : String) (rest : List Char) :
    ∃ text, quote s ++ rest = '"' :: text ∧ stringTail text = .ok (s, rest) := by
  refine ⟨s.toList.flatMap escapeChar ++ '"' :: rest, ?_, stringTail_quoted s rest⟩
  simp [quote]

theorem nextKey_close (first : Bool) (rest : List Char) :
    nextKey first ('\x7d' :: rest) = .ok (none, rest) := rfl

theorem nextKey_first (key : String) (rest : List Char) :
    nextKey true (quote key ++ rest) = .ok (some key, rest) := by
  obtain ⟨text, htext, htail⟩ := stringTail_quote key rest
  rw [htext, nextKey, skipSpace_of_not_space rfl]
  split
  · cases ‹_ = []›
  · cases ‹_ :: _ = _ :: _›
  · rename_i heq
    cases heq
    simp only [if_true, htail]

theorem nextKey_further (key : String) (rest : List Char) :
    nextKey false (',' :: (quote key ++ rest)) = .ok (some key, rest) := by
  obtain ⟨text, htext, htail⟩ := stringTail_quote key rest
  rw [htext, nextKey, skipSpace_of_not_space rfl]
  split
  · cases ‹_ = []›
  · cases ‹_ :: _ = _ :: _›
  · rename_i heq
    cases heq
    rw [if_neg (by decide), if_pos rfl, skipSpace_of_not_space rfl]
    simp only [htail]

theorem memberValue_colon (item : List Char → Read α) (s : List Char) :
    memberValue item (':' :: s) = item s := rfl

/-- Members that are read one after the other, from a state to another one. -/
inductive MembersRead (member : σ → String → List Char → Read σ) :
    σ → List (String × Json) → σ → Prop where
  | nil (a : σ) : MembersRead member a [] a
  | cons {a b c : σ} {key : String} {v : Json} {members : List (String × Json)} :
      ReadsAs (member a key) (':' :: chars v) b → MembersRead member b members c →
      MembersRead member a ((key, v) :: members) c

theorem memberLoop_further {member : σ → String → List Char → Read σ} {ms : List (String × Json)}
    {a b : σ} (h : MembersRead member a ms b) {fuel : Nat} (hfuel : ms.length < fuel)
    (rest : List Char) :
    memberLoop member a fuel false (furtherMembers ms ++ '\x7d' :: rest) = .ok (b, rest) := by
  induction h generalizing fuel with
  | nil a =>
    cases fuel with
    | zero => exact absurd hfuel (Nat.not_lt_zero _)
    | succ fuel => simp only [furtherMembers, List.flatMap_nil, List.nil_append, memberLoop, nextKey_close]
  | @cons a b c key v ms hv _ ih =>
    cases fuel with
    | zero => exact absurd hfuel (Nat.not_lt_zero _)
    | succ fuel =>
      have htext : furtherMembers ((key, v) :: ms) ++ '\x7d' :: rest =
          ',' :: (quote key ++ (':' :: chars v ++ (furtherMembers ms ++ '\x7d' :: rest))) := by
        simp [furtherMembers]
      rw [htext, memberLoop, nextKey_further]
      simp only [hv _ (endsNumber_furtherMembers (endsNumber_closeObject rest)),
        ih (Nat.lt_of_succ_lt_succ hfuel)]

/-- An object is read from its text if its members are from theirs. -/
theorem members_printed {member : σ → String → List Char → Read σ} {ms : List (String × Json)}
    {a b : σ} (h : MembersRead member a ms b) (rest : List Char) :
    members a member (memberChars ms ++ '\x7d' :: rest) = .ok (b, rest) := by
  cases h with
  | nil => simp only [memberChars, List.nil_append, members, memberLoop, nextKey_close]
  | @cons _ c _ key v ms hv hms =>
    have hlength := length_le_flatMap ms (f := fun m => ',' :: (quote m.1 ++ ':' :: chars m.2)) (by simp)
    have htext : memberChars ((key, v) :: ms) ++ '\x7d' :: rest =
        quote key ++ (':' :: chars v ++ (furtherMembers ms ++ '\x7d' :: rest)) := by
      rw [memberChars_cons]
      simp
    have hfuel :
        ms.length < (quote key ++ (':' :: chars v ++ (furtherMembers ms ++ '\x7d' :: rest))).length := by
      simp only [furtherMembers, List.length_append, List.length_cons] at hlength ⊢
      omega
    rw [members, htext, memberLoop, nextKey_first]
    simp only [hv _ (endsNumber_furtherMembers (endsNumber_closeObject rest)), memberLoop_further hms hfuel]

/-! ## Values -/

theorem scalar_of_numeral {c : Char} (hc : c.isDigit = true ∨ c = '-') {s rest : List Char} {n : Number}
    (h : Lexeme.number (c :: s) = .ok (n, rest)) : scalar (c :: s) = .ok (.number n, rest) := by
  unfold scalar
  split
  · cases ‹_ = []›
  · cases ‹_ :: _ = _ :: _›
    exact absurd rfl (ne_of_numeral hc (d := 'n') rfl (by decide))
  · cases ‹_ :: _ = _ :: _›
    exact absurd rfl (ne_of_numeral hc (d := 't') rfl (by decide))
  · cases ‹_ :: _ = _ :: _›
    exact absurd rfl (ne_of_numeral hc (d := 'f') rfl (by decide))
  · cases ‹_ :: _ = _ :: _›
    exact absurd rfl (ne_of_numeral hc (d := '"') rfl (by decide))
  · cases ‹_ :: _ = _ :: _›
    rw [if_pos hc.symm, h]

/-- Members are put into an object in the order in which they are printed. -/
theorem membersRead_addMember {item : List Char → Read Json} {done ms : List (String × Json)}
    (hitem : ∀ m ∈ ms, ReadsAs item (chars m.2) m.2) (hascending : Assoc.Ascending (done ++ ms)) :
    MembersRead (addMember item) done ms (done ++ ms) := by
  induction ms generalizing done with
  | nil =>
    rw [List.append_nil]
    exact .nil done
  | cons m ms ih =>
    obtain ⟨key, v⟩ := m
    have hlast : ∀ l ∈ Assoc.keys done, l < key := by
      intro l hl
      rw [Assoc.Ascending, Assoc.keys, List.map_append] at hascending
      exact (List.pairwise_append.1 hascending).2.2 l hl key List.mem_cons_self
    have happend : done ++ (key, v) :: ms = done ++ [(key, v)] ++ ms := by simp
    refine .cons (b := done ++ [(key, v)]) (fun rest hrest => ?_) ?_
    · rw [List.cons_append, addMember, memberValue_colon, hitem _ List.mem_cons_self rest hrest]
      simp only [Assoc.insert_eq_append hlast]
    · rw [happend] at hascending ⊢
      exact ih (fun m hm => hitem m (List.mem_cons_of_mem _ hm)) hascending

/-- What is read as a scalar is read as a value, however few levels are left. -/
theorem value_of_scalar {c : Char} (hspace : isSpace c = false) (harray : c ≠ '[') (hobject : c ≠ '\x7b')
    (depth : Nat) (rest : List Char) : value depth (c :: rest) = scalar (c :: rest) := by
  cases depth <;>
  · simp only [value, skipSpace_of_not_space hspace]
    split
    · rename_i heq
      cases heq
      exact absurd rfl harray
    · rename_i heq
      cases heq
      exact absurd rfl hobject
    · rfl

theorem value_of_depth_eq_zero {v : Json} (hexact : v.Exact) (h : v.depth = 0) (depth : Nat) :
    ReadsAs (value depth) (chars v) v := by
  intro rest hrest
  cases v with
  | null => exact value_of_scalar rfl (by decide) (by decide) depth _
  | bool b => cases b <;> exact value_of_scalar rfl (by decide) (by decide) depth _
  | number x =>
    cases x with
    | real _ => exact absurd hexact id
    | integer i =>
      have hnumber := number_integer hexact.1 hexact.2 hrest
      obtain ⟨c, cs, htext, hc⟩ := text_integer_cons i
      rw [htext, List.cons_append] at hnumber
      have hchars : chars (.number (.integer i)) = c :: cs := htext
      rw [hchars, List.cons_append,
        value_of_scalar (not_space_of_numeral hc) (ne_of_numeral hc rfl (by decide))
          (ne_of_numeral hc rfl (by decide))]
      exact scalar_of_numeral hc hnumber
  | string s =>
    obtain ⟨text, htext, htail⟩ := stringTail_quote s rest
    have hchars : chars (.string s) = quote s := rfl
    rw [hchars, htext, value_of_scalar rfl (by decide) (by decide)]
    simp only [scalar, htail]
  | array items => simp [Json.depth] at h
  | object members => simp [Json.depth] at h

theorem value_array (depth : Nat) (s : List Char) :
    value (depth + 1) ('[' :: s) =
      match elements (value depth) s with
      | .error e => .error e
      | .ok (xs, rest) => .ok (.array xs, rest) := rfl

theorem value_object (depth : Nat) (s : List Char) :
    value (depth + 1) ('\x7b' :: s) =
      match members [] (addMember (value depth)) s with
      | .error e => .error e
      | .ok (ms, rest) => .ok (.object ms, rest) := rfl

/-- A value is read back by the reader of values that nest no deeper. -/
theorem value_chars {v : Json} (hexact : v.Exact) (hproper : v.Proper) {depth : Nat}
    (hdepth : v.depth ≤ depth) : ReadsAs (value depth) (chars v) v := by
  induction depth generalizing v with
  | zero => exact value_of_depth_eq_zero hexact (Nat.le_zero.1 hdepth) 0
  | succ depth ih =>
    cases v with
    | array items =>
      rw [Json.depth, Nat.succ_le_succ_iff, itemsDepth_le_iff] at hdepth
      have hread : ItemsRead (value depth) items items :=
        itemsRead_self fun v hv => ⟨begins_chars (itemsExact_iff.1 hexact v hv),
          ih (itemsExact_iff.1 hexact v hv) (itemsProper_iff.1 hproper v hv) (hdepth v hv)⟩
      intro rest _
      rw [chars, List.cons_append, List.append_assoc, List.singleton_append, value_array,
        elements_printed hread]
    | object members =>
      rw [Json.depth, Nat.succ_le_succ_iff, membersDepth_le_iff] at hdepth
      have hread : MembersRead (addMember (value depth)) [] members ([] ++ members) :=
        membersRead_addMember (fun m hm => ih (membersExact_iff.1 hexact m hm)
          (membersProper_iff.1 hproper.2 m hm) (hdepth m hm)) hproper.1
      rw [List.nil_append] at hread
      intro rest _
      rw [chars, List.cons_append, List.append_assoc, List.singleton_append, value_object,
        members_printed hread]
    | _ => exact value_of_depth_eq_zero hexact rfl _

end Reader

/-- An exact value that nests no deeper than texts may is read back from its text. -/
theorem parse_render {v : Json} (hexact : v.Exact) (hproper : v.Proper)
    (hdepth : v.depth ≤ Reader.maxDepth) : parse v.render = .ok v := by
  have hvalue := Reader.value_chars hexact hproper hdepth [] Lexeme.endsNumber_nil
  rw [List.append_nil] at hvalue
  rw [parse, Reader.document, render, String.toList_ofList, hvalue]
  rfl

end Json
end SurveyIntake
