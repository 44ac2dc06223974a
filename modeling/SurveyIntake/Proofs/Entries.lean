import Mathlib.Data.List.Forall2
import SurveyIntake.Proofs.ByteOrder
import SurveyIntake.Proofs.Store

/-!
# SurveyIntake.Proofs.Entries

What is read of a store, in lists and one by one.

* `Store.readAll_eq_ok_iff`       — a list is read if each of its rows is, in their order.
* `Store.pairwise_pendingRows`    — the pending rows of a survey are in the order of their times, and in that
  of their tokens where the times are equal.
* `Store.pendingEntry_eq_ok_some_iff`, `Store.verifiedEntry_eq_ok_some_iff` — where the list of a survey can
  be read, what is found under a token or an identity is what the list has there.
* `Store.pairwise_pendingEntries`, `Store.pairwise_verifiedEntries` — the order of such a list.
-/

namespace SurveyIntake
namespace Store

/-! ## Reading -/

section Read

variable {α β : Type} {read : α → Except StoreError β} {rs : List α} {xs : List β}

theorem readAll_eq_ok_iff : readAll read rs = .ok xs ↔ List.Forall₂ (fun r x => read r = .ok x) rs xs := by
  induction rs generalizing xs with
  | nil => simp [readAll, eq_comm]
  | cons r rs ih =>
    rw [List.forall₂_cons_left_iff]
    simp only [← ih, readAll]
    cases read r with
    | error e => simp
    | ok x => cases readAll read rs <;> simp [eq_comm]

theorem exists_readAll (h : ∀ r ∈ rs, ∃ x, read r = .ok x) : ∃ xs, readAll read rs = .ok xs := by
  simp only [readAll_eq_ok_iff]
  induction rs with
  | nil => exact ⟨[], .nil⟩
  | cons r rs ih =>
    obtain ⟨x, hx⟩ := h r List.mem_cons_self
    obtain ⟨xs, hxs⟩ := ih fun s hs => h s (List.mem_cons_of_mem _ hs)
    exact ⟨x :: xs, .cons hx hxs⟩

theorem mem_of_readAll (h : readAll read rs = .ok xs) {x : β} : x ∈ xs ↔ ∃ r ∈ rs, read r = .ok x := by
  rw [readAll_eq_ok_iff] at h
  induction h with
  | nil => simp
  | @cons r y rs xs hr _ ih =>
    simp only [List.mem_cons, ih, exists_eq_or_imp, hr, Except.ok.injEq]
    rw [eq_comm]

theorem exists_read_of_readAll (h : readAll read rs = .ok xs) {r : α} (hr : r ∈ rs) :
    ∃ x, read r = .ok x := by
  rw [readAll_eq_ok_iff] at h
  induction h with
  | nil => cases hr
  | cons hread _ ih =>
    rcases List.mem_cons.1 hr with rfl | hr
    · exact ⟨_, hread⟩
    · exact ih hr

/-- An order of rows is one of what they are read as. -/
theorem pairwise_of_readAll (h : readAll read rs = .ok xs) {P : α → α → Prop} {Q : β → β → Prop}
    (hpq : ∀ r s x y, read r = .ok x → read s = .ok y → P r s → Q x y) (hrs : rs.Pairwise P) :
    xs.Pairwise Q := by
  induction rs generalizing xs with
  | nil =>
    cases readAll_eq_ok_iff.1 h
    exact .nil
  | cons r rs ih =>
    cases readAll_eq_ok_iff.1 h with
    | @cons _ x _ xs hr hxs =>
      rw [← readAll_eq_ok_iff] at hxs
      obtain ⟨hfirst, hrest⟩ := List.pairwise_cons.1 hrs
      refine List.pairwise_cons.2 ⟨fun y hy => ?_, ih hxs hrest⟩
      obtain ⟨s, hs, hy⟩ := (mem_of_readAll hxs).1 hy
      exact hpq r s x y hr hy (hfirst s hs)

theorem readOptional_eq_ok_some_iff {r? : Option α} {x : β} :
    readOptional read r? = .ok (some x) ↔ ∃ r, r? = some r ∧ read r = .ok x := by
  cases r? with
  | none => simp [readOptional]
  | some r => cases hr : read r <;> simp [readOptional, hr]

theorem exists_readOptional {r? : Option α} (h : ∀ r, r? = some r → ∃ x, read r = .ok x) :
    ∃ x?, readOptional read r? = .ok x? := by
  cases r? with
  | none => exact ⟨none, rfl⟩
  | some r =>
    obtain ⟨x, hx⟩ := h r rfl
    exact ⟨some x, by simp [readOptional, hx]⟩

/-- Where rows under keys can all be read, what is read under one of the keys is among what is read of all. -/
theorem readOptional_found_iff {κ ρ ε : Type} {read : κ × ρ → Except StoreError ε} {rows : List (κ × ρ)}
    {es : List ε} {found : κ → Option ρ} {key : ε → κ} (hes : readAll read rows = .ok es)
    (hfound : ∀ k r, (k, r) ∈ rows ↔ found k = some r) (hkey : ∀ r e, read r = .ok e → key e = r.1)
    {k : κ} {e : ε} :
    readOptional (fun r => read (k, r)) (found k) = .ok (some e) ↔ e ∈ es ∧ key e = k := by
  rw [readOptional_eq_ok_some_iff, mem_of_readAll hes]
  constructor
  · rintro ⟨r, hr, hread⟩
    exact ⟨⟨(k, r), (hfound k r).2 hr, hread⟩, hkey (k, r) e hread⟩
  · rintro ⟨⟨⟨l, r⟩, hr, hread⟩, rfl⟩
    have hl : key e = l := hkey (l, r) e hread
    subst hl
    exact ⟨r, (hfound _ r).1 hr, hread⟩

end Read

/-! ## Pending entries -/

section Pending

variable {survey : String} {key : SurveyKey} {token : Token} {row : PendingRow} {s : Store}

theorem readInstant_eq_ok_iff {millis : Int} {i : Instant} : readInstant millis = .ok i ↔ i.millis = millis := by
  obtain ⟨n, hfirst, hlast⟩ := i
  unfold readInstant Instant.ofMillis?
  by_cases hrange : firstMillis ≤ millis ∧ millis ≤ lastMillis
  · simp [hrange, eq_comm]
  · simp only [dif_neg hrange, reduceCtorEq, false_iff]
    rintro rfl
    exact hrange ⟨hfirst, hlast⟩

theorem readAnswers_eq_ok_iff {answers : String} {v : Json} :
    readAnswers answers = .ok v ↔ Json.parse answers = .ok v := by
  unfold readAnswers
  cases Json.parse answers <;> simp

theorem readPending_eq_ok_iff {r : Token × PendingRow} {e : PendingEntry} :
    readPending r = .ok e ↔ e.token = r.1 ∧ e.identity = r.2.identity ∧ e.timestamp.millis = r.2.millis ∧
      Json.parse r.2.answers = .ok e.answers := by
  obtain ⟨token, identity, timestamp, answers⟩ := e
  rw [← readAnswers_eq_ok_iff, ← readInstant_eq_ok_iff]
  unfold readPending
  cases readInstant r.2.millis with
  | error _ => simp
  | ok i =>
    cases readAnswers r.2.answers with
    | error _ => simp
    | ok v =>
      simp only [Except.ok.injEq, PendingEntry.mk.injEq]
      constructor
      · rintro ⟨rfl, rfl, rfl, rfl⟩
        exact ⟨rfl, rfl, rfl, rfl⟩
      · rintro ⟨rfl, rfl, rfl, rfl⟩
        exact ⟨rfl, rfl, rfl, rfl⟩

theorem mem_pendingRows_iff : (token, row) ∈ s.pendingRows survey ↔ s.pendingRow? survey token = some row := by
  rw [pendingRows_eq, (List.mergeSort_perm _ _).mem_iff, pendingRow?_eq_find?, Table.find?_eq_some_iff]

theorem rowLe_eq_true_iff {a b : Token × PendingRow} :
    rowLe a b = true ↔ a.2.millis < b.2.millis ∨ a.2.millis = b.2.millis ∧ a.1.text ≤ b.1.text := by
  simp only [rowLe, Bool.or_eq_true, Bool.and_eq_true, decide_eq_true_eq, beq_iff_eq, Bool.not_eq_true',
    decide_eq_false_iff_not]
  exact Iff.rfl

theorem rowLe_trans (a b c : Token × PendingRow) (hab : rowLe a b = true) (hbc : rowLe b c = true) :
    rowLe a c = true := by
  rw [rowLe_eq_true_iff] at hab hbc ⊢
  rcases hab with hab | ⟨hab, habtext⟩ <;> rcases hbc with hbc | ⟨hbc, hbctext⟩
  · exact .inl (Int.lt_trans hab hbc)
  · exact .inl (hbc ▸ hab)
  · exact .inl (hab ▸ hbc)
  · exact .inr ⟨hab.trans hbc, String.le_trans habtext hbctext⟩

theorem rowLe_total (a b : Token × PendingRow) : (rowLe a b || rowLe b a) = true := by
  rw [Bool.or_eq_true, rowLe_eq_true_iff, rowLe_eq_true_iff]
  rcases Int.lt_trichotomy a.2.millis b.2.millis with h | h | h
  · exact .inl (.inl h)
  · rcases String.le_total a.1.text b.1.text with htext | htext
    · exact .inl (.inr ⟨h, htext⟩)
    · exact .inr (.inr ⟨h.symm, htext⟩)
  · exact .inr (.inl h)

/-- The pending rows of a survey are in strictly ascending order of their times, and where these are equal
of the bytes of their tokens. -/
theorem pairwise_pendingRows : (s.pendingRows survey).Pairwise fun a b =>
    a.2.millis < b.2.millis ∨ a.2.millis = b.2.millis ∧ utf8Bytes a.1.text < utf8Bytes b.1.text := by
  have hsorted : (s.pendingRows survey).Pairwise fun a b => rowLe a b = true :=
    List.pairwise_mergeSort rowLe_trans rowLe_total _
  have hperm : (s.pendingRows survey).Perm (s.pendingTable survey).entries := List.mergeSort_perm _ _
  have hdistinct : (s.pendingRows survey).Pairwise fun a b => a.1 ≠ b.1 :=
    List.pairwise_map.1 ((hperm.map Prod.fst).nodup_iff.2 (s.pendingTable survey).ascending.nodup)
  refine hsorted.imp₂ (fun a b hle hne => ?_) hdistinct
  rcases rowLe_eq_true_iff.1 hle with hlt | ⟨heq, htext⟩
  · exact .inl hlt
  · refine .inr ⟨heq, utf8Bytes_lt_iff.2 (Classical.byContradiction fun hnlt => hne ?_)⟩
    have : a.1.text = b.1.text := String.le_antisymm htext hnlt
    obtain ⟨⟨t⟩, r⟩ := a
    obtain ⟨⟨u⟩, q⟩ := b
    exact congrArg Token.mk this

variable {es : List PendingEntry}

theorem exists_pendingEntry (h : s.pendingEntries key = .ok es) (token : Token) :
    ∃ e?, s.pendingEntry key token = .ok e? :=
  exists_readOptional fun _ hrow => exists_read_of_readAll h (mem_pendingRows_iff.2 hrow)

/-- What is found under a token is what the list has under it. -/
theorem pendingEntry_eq_ok_some_iff (h : s.pendingEntries key = .ok es) {e : PendingEntry} :
    s.pendingEntry key token = .ok (some e) ↔ e ∈ es ∧ e.token = token :=
  readOptional_found_iff h (fun _ _ => mem_pendingRows_iff) fun _ _ hread => (readPending_eq_ok_iff.1 hread).1

theorem pendingCount_eq (h : s.pendingEntries key = .ok es) : s.pendingCount key = es.length :=
  (readAll_eq_ok_iff.1 h).length_eq

theorem pairwise_pendingEntries (h : s.pendingEntries key = .ok es) : es.Pairwise fun a b =>
    a.timestamp.millis < b.timestamp.millis ∨
      a.timestamp.millis = b.timestamp.millis ∧ utf8Bytes a.token.text < utf8Bytes b.token.text := by
  refine pairwise_of_readAll h (fun r q a b hr hq hlt => ?_) pairwise_pendingRows
  obtain ⟨htoken, _, htime, _⟩ := readPending_eq_ok_iff.1 hr
  obtain ⟨htoken', _, htime', _⟩ := readPending_eq_ok_iff.1 hq
  rw [htoken, htime, htoken', htime']
  exact hlt

end Pending

/-! ## Verified entries -/

section Verified

variable {key : SurveyKey} {identity : String} {s : Store} {es : List VerifiedEntry}

theorem readVerified_eq_ok_iff {r : String × VerifiedRow} {e : VerifiedEntry} :
    readVerified r = .ok e ↔ e.identity = r.1 ∧ e.timestamp.millis = r.2.millis ∧
      Json.parse r.2.answers = .ok e.answers := by
  obtain ⟨identity, timestamp, answers⟩ := e
  rw [← readAnswers_eq_ok_iff, ← readInstant_eq_ok_iff]
  unfold readVerified
  cases readInstant r.2.millis with
  | error _ => simp
  | ok i =>
    cases readAnswers r.2.answers with
    | error _ => simp
    | ok v =>
      simp only [Except.ok.injEq, VerifiedEntry.mk.injEq]
      constructor
      · rintro ⟨rfl, rfl, rfl⟩
        exact ⟨rfl, rfl, rfl⟩
      · rintro ⟨rfl, rfl, rfl⟩
        exact ⟨rfl, rfl, rfl⟩

theorem mem_verifiedTable_iff {survey : String} {row : VerifiedRow} :
    (identity, row) ∈ (s.verifiedTable survey).entries ↔ s.verifiedRow? survey identity = some row :=
  Table.find?_eq_some_iff.symm

theorem exists_verifiedEntry (h : s.verifiedEntries key = .ok es) (identity : String) :
    ∃ e?, s.verifiedEntry key identity = .ok e? :=
  exists_readOptional fun _ hrow => exists_read_of_readAll h (mem_verifiedTable_iff.2 hrow)

/-- What is found under an identity is what the list has under it. -/
theorem verifiedEntry_eq_ok_some_iff (h : s.verifiedEntries key = .ok es) {e : VerifiedEntry} :
    s.verifiedEntry key identity = .ok (some e) ↔ e ∈ es ∧ e.identity = identity :=
  readOptional_found_iff h (fun _ _ => mem_verifiedTable_iff) fun _ _ hread => (readVerified_eq_ok_iff.1 hread).1

theorem verifiedCount_eq (h : s.verifiedEntries key = .ok es) : s.verifiedCount key = es.length :=
  (readAll_eq_ok_iff.1 h).length_eq

theorem pairwise_verifiedEntries (h : s.verifiedEntries key = .ok es) :
    es.Pairwise fun a b => utf8Bytes a.identity < utf8Bytes b.identity := by
  refine pairwise_of_readAll h (fun r q a b hr hq hlt => ?_)
    (List.pairwise_map.1 (s.verifiedTable key.text).ascending)
  rw [(readVerified_eq_ok_iff.1 hr).1, (readVerified_eq_ok_iff.1 hq).1, utf8Bytes_lt_iff]
  exact hlt

end Verified

end Store
end SurveyIntake
