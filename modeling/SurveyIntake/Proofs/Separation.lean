import SurveyIntake.Proofs.Pending

/-!
# SurveyIntake.Proofs.Separation

Surveys that share a store do not interfere.

* `Operation`        — a request, or a question about a survey, which changes nothing.
* `Operation.key?`   — the survey that an operation is addressed to.
* `Intake.Share`     — what is there of one survey: its registration, its pending rows and its verified ones.
* `Intake.share_perform_of_ne` — an operation changes no other share than that of its survey.
* `Intake.perform_eq`   — what comes of it depends on that share alone.
* `Intake.separation`   — a survey is as if the operations on the others had never been.
-/

namespace SurveyIntake

/-! ## Operations -/

/-- What can be asked about a survey. -/
inductive Query where
  | survey
  | pending (token : Token)
  | pendingList
  | pendingCount
  | verified (identity : String)
  | verifiedList
  | verifiedCount

inductive Finding where
  | survey (s : Survey)
  | pending (entry : Option PendingEntry)
  | pendingList (entries : List PendingEntry)
  | verified (entry : Option VerifiedEntry)
  | verifiedList (entries : List VerifiedEntry)
  | count (n : Nat)

/-- What was read from a store, or why it could not be read. -/
def Finding.ofRead {α : Type} (found : α → Finding) : Except StoreError α → Except SurveyError Finding
  | .ok x => .ok (found x)
  | .error e => .error (.store e)

def Query.find (s : Survey) (store : Store) : Query → Except SurveyError Finding
  | .survey => .ok (.survey s)
  | .pending token => Finding.ofRead .pending (store.pendingEntry s.key token)
  | .pendingList => Finding.ofRead .pendingList (store.pendingEntries s.key)
  | .pendingCount => .ok (.count (store.pendingCount s.key))
  | .verified identity => Finding.ofRead .verified (store.verifiedEntry s.key identity)
  | .verifiedList => Finding.ofRead .verifiedList (store.verifiedEntries s.key)
  | .verifiedCount => .ok (.count (store.verifiedCount s.key))

inductive Operation where
  | request (r : Request)
  | query (survey : String) (q : Query)

/-- What comes of an operation. -/
inductive Operation.Result where
  | answer (a : Answer)
  | finding (result : Except SurveyError Finding)

/-- The survey that a request is addressed to. There is none where the names are no key. -/
def Request.key? : Request → Option SurveyKey
  | .register c => c.key.toOption
  | .unregister key => some key
  | .submit survey _ _ _ | .verify survey _ | .purge survey _ => (SurveyKey.parse survey).toOption

namespace Operation

def key? : Operation → Option SurveyKey
  | .request r => r.key?
  | .query survey _ => (SurveyKey.parse survey).toOption

def request? : Operation → Option Request
  | .request r => some r
  | .query _ _ => none

/-- The tokens that are issued in a run. -/
def issued (run : List Operation) : List Token := Intake.issued (run.filterMap request?)

/-- The operations of a run without those that are addressed to another survey. -/
def only (key : SurveyKey) (run : List Operation) : List Operation :=
  run.filter fun op => op.key?.all fun k => k = key

theorem issued_cons (op : Operation) (run : List Operation) :
    issued (op :: run) = issued [op] ++ issued run := by
  simp only [issued, Intake.issued, ← List.filterMap_append, List.singleton_append]

/-- Where no token is issued twice, the one of the latest operation is new, also if others are left out. -/
theorem issued_new {op : Operation} {run : List Operation} (keep : Operation → Bool)
    (h : (issued (op :: run)).Nodup) :
    (issued run).Nodup ∧ (∀ token ∈ issued [op], token ∉ issued run) ∧
      ∀ token ∈ issued [op], token ∉ issued (run.filter keep) := by
  rw [issued_cons, List.nodup_append] at h
  have hnew : ∀ token ∈ issued [op], token ∉ issued run :=
    fun token hop hrun => h.2.2 token hop token hrun rfl
  have hsub : (issued (run.filter keep)).Sublist (issued run) :=
    (List.filter_sublist.filterMap _).filterMap _
  exact ⟨h.2.1, hnew, fun token hop hrun => hnew token hop (hsub.subset hrun)⟩

end Operation

namespace Intake

def perform (i : Intake) : Operation → Intake × Operation.Result
  | .request r => ((i.serve r).1, .answer (i.serve r).2)
  | .query survey q =>
    match i.registry.lookup survey with
    | .error e => (i, .finding (.error e))
    | .ok s => (i, .finding (q.find s i.store))

/-- What is there after a run of operations, the latest first. -/
def performed (retention : Retention) : List Operation → Intake
  | [] => start retention
  | op :: past => ((performed retention past).perform op).1

def result (retention : Retention) (past : List Operation) (op : Operation) : Operation.Result :=
  ((performed retention past).perform op).2

end Intake

/-! ## Purges -/

theorem Survey.pendingTable_purge_of_ne {s : Survey} {survey : String} (h : s.key.text ≠ survey)
    (now : Instant) (store : Store) :
    (s.purge now store).1.pendingTable survey = store.pendingTable survey := by
  unfold purge
  split
  · rfl
  · exact Store.pendingTable_purgeBefore_of_ne h

theorem Survey.verifiedTable_purge (s : Survey) (now : Instant) (store : Store) (survey : String) :
    (s.purge now store).1.verifiedTable survey = store.verifiedTable survey := by
  simp only [Store.verifiedTable, verified_purge]

/-- What a purge deletes, and how much, depends on the pending rows of its survey. -/
theorem Survey.purge_eq {s : Survey} {now : Instant} {store store' : Store}
    (h : store.pendingTable s.key.text = store'.pendingTable s.key.text) :
    (s.purge now store).1.pendingTable s.key.text = (s.purge now store').1.pendingTable s.key.text ∧
      (s.purge now store).2 = (s.purge now store').2 := by
  unfold purge
  split
  · exact ⟨h, rfl⟩
  · simp only [Store.pendingTable_purgeBefore, Store.purgeBefore_count, h, and_self]

namespace Intake

/-! ## Shares -/

/-- What is there of one survey. -/
structure Share where
  retention : Retention
  survey : Option Survey
  pending : Table Token PendingRow
  verified : Table String VerifiedRow

def share (key : SurveyKey) (i : Intake) : Share :=
  ⟨i.registry.retention, i.registry.surveys.find? key, i.store.pendingTable key.text,
    i.store.verifiedTable key.text⟩

theorem share_eq_iff {key : SurveyKey} {i j : Intake} :
    i.share key = j.share key ↔
      i.registry.retention = j.registry.retention ∧
      i.registry.surveys.find? key = j.registry.surveys.find? key ∧
      i.store.pendingTable key.text = j.store.pendingTable key.text ∧
      i.store.verifiedTable key.text = j.store.verifiedTable key.text := by
  simp only [share, Share.mk.injEq]

/-! ## Other surveys -/

section Frame

variable {i : Intake} {key : SurveyKey}

theorem Serves.share_eq {i' : Intake} {r : Request} {a : Answer} (h : Serves i r i' a) (hi : i.Keyed)
    (hr : r.key? ≠ some key) : i'.share key = i.share key := by
  have other : ∀ {survey : String} {s : Survey}, (SurveyKey.parse survey).toOption ≠ some key →
      i.registry.lookup survey = .ok s → s.key.text ≠ key.text := by
    intro survey s hsurvey hs hsame
    rw [hi.parse_of_lookup hs, SurveyKey.text_injective hsame] at hsurvey
    exact hsurvey rfl
  rw [share_eq_iff]
  cases h with
  | opened hc =>
    refine ⟨rfl, ?_, rfl, rfl⟩
    rw [withSurveys, Table.find?_insert, if_neg]
    rintro rfl
    exact hr (congrArg Except.toOption (Configuration.compile_eq_ok_iff.1 hc).1)
  | withdrawn _ hc =>
    refine ⟨rfl, ?_, rfl, rfl⟩
    rw [withSurveys, Table.find?_erase, if_neg]
    rintro rfl
    exact hr (congrArg Except.toOption hc)
  | closed =>
    refine ⟨rfl, ?_, rfl, rfl⟩
    rw [withSurveys, Table.find?_erase, if_neg]
    rintro rfl
    exact hr rfl
  | received hs _ _ hnew =>
    refine ⟨rfl, rfl, ?_, rfl⟩
    exact Store.pendingTable_insert_of_ne (other hr hs) hnew
  | verified hs _ =>
    exact ⟨rfl, rfl, rfl, Store.verifiedTable_upsertVerified_of_ne (other hr hs)⟩
  | purged hs =>
    exact ⟨rfl, rfl, Survey.pendingTable_purge_of_ne (other hr hs) _ _, Survey.verifiedTable_purge _ _ _ _⟩
  | _ => exact ⟨rfl, rfl, rfl, rfl⟩

theorem perform_query (i : Intake) (survey : String) (q : Query) :
    (i.perform (.query survey q)).1 = i := by
  simp only [perform]
  cases i.registry.lookup survey <;> rfl

theorem share_perform_of_ne {op : Operation} (hi : i.Keyed) (hop : op.key? ≠ some key) :
    (i.perform op).1.share key = i.share key := by
  cases op with
  | request r => exact (i.serve_serves r).share_eq hi hop
  | query survey q => rw [perform_query]

end Frame

/-! ## The survey itself -/

section Own

variable {i j : Intake} {key : SurveyKey} {survey : String}

theorem lookup_eq (h : i.share key = j.share key) (hkey : SurveyKey.parse survey = .ok key) :
    i.registry.lookup survey = j.registry.lookup survey := by
  obtain ⟨_, hsurvey, _⟩ := share_eq_iff.1 h
  simp only [Registry.lookup, hkey, Registry.get, hsurvey]

theorem Keyed.key_eq (hj : j.Keyed) (hkey : SurveyKey.parse survey = .ok key) {s : Survey}
    (hs : j.registry.lookup survey = .ok s) : s.key = key :=
  Except.ok.inj ((hj.parse_of_lookup hs).symm.trans hkey)

/-- A request is answered alike at two places, and makes the same of the share of the survey. -/
def Alike (key : SurveyKey) (i j : Intake) (r : Request) : Prop :=
  (i.serve r).2 = (j.serve r).2 ∧ (i.serve r).1.share key = (j.serve r).1.share key

theorem alike_register (h : i.share key = j.share key) {c : Configuration} (hkey : c.key = .ok key) :
    Alike key i j (.register c) := by
  obtain ⟨hretention, _, hpending, hverified⟩ := share_eq_iff.1 h
  rw [Alike, share_eq_iff]
  simp only [serve, Registry.register, Survey.ofConfiguration]
  cases hc : c.compile with
  | ok form =>
    refine ⟨rfl, hretention, ?_, hpending, hverified⟩
    have hform : form.key = key :=
      Except.ok.inj ((Configuration.compile_eq_ok_iff.1 hc).1.symm.trans hkey)
    simp only [Table.find?_insert, Survey.key, hform, hretention, if_true]
  | error e =>
    simp only [hkey]
    refine ⟨trivial, hretention, ?_, hpending, hverified⟩
    simp only [Table.find?_erase, if_true]

theorem alike_unregister (h : i.share key = j.share key) : Alike key i j (.unregister key) := by
  obtain ⟨hretention, hsurvey, hpending, hverified⟩ := share_eq_iff.1 h
  rw [Alike, share_eq_iff]
  simp only [serve, Registry.unregister, Table.contains, hsurvey, Table.find?_erase]
  exact ⟨trivial, hretention, trivial, hpending, hverified⟩

theorem alike_submit (h : i.share key = j.share key) (hj : j.Keyed)
    (hkey : SurveyKey.parse survey = .ok key) {token : Token} {now : Instant} {body : Json}
    (hnew : i.store.pending.find? token = none) (hnew' : j.store.pending.find? token = none) :
    Alike key i j (.submit survey token now body) := by
  simp only [Alike, serve, Registry.submit, lookup_eq h hkey]
  cases hs : j.registry.lookup survey with
  | error e => exact ⟨rfl, h⟩
  | ok s =>
    simp only
    cases Submission.ofBody body with
    | error report => exact ⟨rfl, h⟩
    | ok x =>
      simp only [Survey.submit]
      cases s.form.check x with
      | cons v report => exact ⟨rfl, h⟩
      | nil =>
        have hrow : (PendingEntry.row s.key ⟨token, x.identity, now, x.answers⟩).survey = key.text :=
          congrArg SurveyKey.text (hj.key_eq hkey hs)
        obtain ⟨hretention, hsurvey, hpending, hverified⟩ := share_eq_iff.1 h
        simp only [Store.insertEntry]
        rw [Store.insertPending_eq_ok_iff.2 ⟨hnew, rfl⟩, Store.insertPending_eq_ok_iff.2 ⟨hnew', rfl⟩]
        refine ⟨rfl, share_eq_iff.2 ⟨hretention, hsurvey, ?_, hverified⟩⟩
        exact (Store.pendingTable_insert hrow).trans
          ((congrArg _ hpending).trans (Store.pendingTable_insert hrow).symm)

theorem alike_verify (h : i.share key = j.share key) (hj : j.Keyed)
    (hkey : SurveyKey.parse survey = .ok key) {token : Token} :
    Alike key i j (.verify survey token) := by
  obtain ⟨hretention, hsurvey, hpending, hverified⟩ := share_eq_iff.1 h
  simp only [Alike, serve, Registry.verify, lookup_eq h hkey]
  cases hs : j.registry.lookup survey with
  | error e => exact ⟨rfl, h⟩
  | ok s =>
    have hsame : s.key = key := hj.key_eq hkey hs
    simp only [Survey.verify, Store.promote, hsame, Store.pendingRow?_eq_find?, hpending]
    cases (j.store.pendingTable key.text).find? token with
    | none => exact ⟨rfl, h⟩
    | some row =>
      refine ⟨rfl, share_eq_iff.2 ⟨hretention, hsurvey, hpending, ?_⟩⟩
      exact Store.verifiedTable_upsertVerified.trans
        ((congrArg _ hverified).trans Store.verifiedTable_upsertVerified.symm)

theorem alike_purge (h : i.share key = j.share key) (hj : j.Keyed)
    (hkey : SurveyKey.parse survey = .ok key) {now : Instant} :
    Alike key i j (.purge survey now) := by
  obtain ⟨hretention, hsurvey, hpending, hverified⟩ := share_eq_iff.1 h
  simp only [Alike, serve, Registry.purge, lookup_eq h hkey]
  cases hs : j.registry.lookup survey with
  | error e => exact ⟨rfl, h⟩
  | ok s =>
    have hsame : s.key = key := hj.key_eq hkey hs
    subst hsame
    obtain ⟨hrows, hcount⟩ := @Survey.purge_eq s now _ _ hpending
    refine ⟨congrArg Answer.purged hcount, share_eq_iff.2 ⟨hretention, hsurvey, hrows, ?_⟩⟩
    exact (s.verifiedTable_purge now _ _).trans (hverified.trans (s.verifiedTable_purge now _ _).symm)

theorem query_find_eq {s : Survey} {store store' : Store}
    (hpending : store.pendingTable s.key.text = store'.pendingTable s.key.text)
    (hverified : store.verifiedTable s.key.text = store'.verifiedTable s.key.text) (q : Query) :
    q.find s store = q.find s store' := by
  cases q with
  | survey => rfl
  | pending token =>
    simp only [Query.find, Store.pendingEntry, Store.pendingRow?_eq_find?, hpending]
  | pendingList =>
    simp only [Query.find, Store.pendingEntries, Store.pendingRows_eq, hpending]
  | pendingCount =>
    simp only [Query.find, Store.pendingCount, Store.pendingRows_eq, hpending]
  | verified identity =>
    simp only [Query.find, Store.verifiedEntry, Store.verifiedRow?, hverified]
  | verifiedList => simp only [Query.find, Store.verifiedEntries, hverified]
  | verifiedCount => simp only [Query.find, Store.verifiedCount, hverified]

theorem perform_query_eq (h : i.share key = j.share key) (hj : j.Keyed)
    (hkey : SurveyKey.parse survey = .ok key) (q : Query) :
    (i.perform (.query survey q)).2 = (j.perform (.query survey q)).2 := by
  obtain ⟨_, _, hpending, hverified⟩ := share_eq_iff.1 h
  simp only [perform, lookup_eq h hkey]
  cases hs : j.registry.lookup survey with
  | error e => rfl
  | ok s =>
    have hsame : s.key = key := hj.key_eq hkey hs
    subst hsame
    exact congrArg Operation.Result.finding (query_find_eq hpending hverified q)

/-- What comes of an operation on a survey, and what it makes of its share, depend on the share alone,
where the token that it issues is new. -/
theorem perform_eq (h : i.share key = j.share key) (hj : j.Keyed) {op : Operation}
    (hop : op.key? = some key)
    (hnew : ∀ token ∈ Operation.issued [op], i.store.pending.find? token = none)
    (hnew' : ∀ token ∈ Operation.issued [op], j.store.pending.find? token = none) :
    (i.perform op).2 = (j.perform op).2 ∧ (i.perform op).1.share key = (j.perform op).1.share key := by
  cases op with
  | query survey q =>
    refine ⟨perform_query_eq h hj (eq_ok_of_toOption hop) q, ?_⟩
    rw [perform_query, perform_query, h]
  | request r =>
    have halike : Alike key i j r := by
      cases r with
      | register c => exact alike_register h (eq_ok_of_toOption hop)
      | unregister k =>
        cases hop
        exact alike_unregister h
      | submit survey token now body =>
        exact alike_submit h hj (eq_ok_of_toOption hop) (hnew token List.mem_cons_self)
          (hnew' token List.mem_cons_self)
      | verify survey token => exact alike_verify h hj (eq_ok_of_toOption hop)
      | purge survey now => exact alike_purge h hj (eq_ok_of_toOption hop)
    exact ⟨congrArg Operation.Result.answer halike.1, halike.2⟩

end Own

/-! ## Runs -/

section Runs

variable {retention : Retention} {key : SurveyKey} {run : List Operation}

theorem performed_eq_after (retention : Retention) (run : List Operation) :
    performed retention run = after retention (run.filterMap Operation.request?) := by
  induction run with
  | nil => rfl
  | cons op run ih =>
    cases op with
    | request r =>
      rw [performed, ih]
      rfl
    | query survey q =>
      rw [performed, perform_query, ih]
      rfl

theorem performed_keyed (retention : Retention) (run : List Operation) :
    (performed retention run).Keyed := by
  rw [performed_eq_after]
  exact after_keyed _ _

/-- A token that was not issued is not taken. -/
theorem find?_of_not_issued {token : Token} (h : token ∉ Operation.issued run) :
    (performed retention run).store.pending.find? token = none := by
  rw [performed_eq_after]
  cases hrow : (after retention (run.filterMap Operation.request?)).store.pending.find? token with
  | none => rfl
  | some row =>
    obtain ⟨_, entry, haccepted, rfl, _⟩ := pending_accepted hrow
    exact absurd haccepted.mem_issued h

/-- Operations that are not addressed to a survey can be left out: its share is the same. -/
theorem share_performed_filter {keep : Operation → Bool}
    (hkeep : ∀ op : Operation, op.key? = some key → keep op = true)
    (hnodup : (Operation.issued run).Nodup) :
    (performed retention (run.filter keep)).share key = (performed retention run).share key := by
  induction run with
  | nil => rfl
  | cons op run ih =>
    obtain ⟨hrun, hnew, hnew'⟩ := Operation.issued_new keep hnodup
    have hbefore := ih hrun
    by_cases hop : op.key? = some key
    · rw [List.filter_cons_of_pos (hkeep op hop)]
      exact (perform_eq hbefore (performed_keyed _ _) hop
        (fun token ht => find?_of_not_issued (hnew' token ht))
        (fun token ht => find?_of_not_issued (hnew token ht))).2
    · have hframe := share_perform_of_ne (performed_keyed retention run) hop
      -- An operation on another survey may be kept; then it takes its step on both sides.
      by_cases hk : keep op = true
      · rw [List.filter_cons_of_pos hk]
        exact (share_perform_of_ne (performed_keyed _ _) hop).trans (hbefore.trans hframe.symm)
      · rw [List.filter_cons_of_neg hk]
        exact hbefore.trans hframe.symm

/-- What comes of an operation on a survey is the same where operations that are not addressed to the survey
have been left out before it. -/
theorem result_filter {keep : Operation → Bool} {op : Operation}
    (hkeep : ∀ op : Operation, op.key? = some key → keep op = true) (hop : op.key? = some key)
    (hnodup : (Operation.issued (op :: run)).Nodup) :
    result retention (run.filter keep) op = result retention run op := by
  obtain ⟨hrun, hnew, hnew'⟩ := Operation.issued_new keep hnodup
  exact (perform_eq (share_performed_filter hkeep hrun) (performed_keyed _ _) hop
    (fun token ht => find?_of_not_issued (hnew' token ht))
    (fun token ht => find?_of_not_issued (hnew token ht))).1

/-- **Surveys do not interfere.** From a run in which no token is issued twice all operations are left out
that are addressed to other surveys. What comes of each operation on the survey is the same, and so are its
registration, its pending rows and its verified ones at the end. -/
theorem separation (retention : Retention) (key : SurveyKey) (run : List Operation)
    (hnodup : (Operation.issued run).Nodup) :
    (∀ op before, (op :: before) <:+ run → op.key? = some key →
      result retention (Operation.only key before) op = result retention before op) ∧
    (performed retention (Operation.only key run)).share key = (performed retention run).share key := by
  have hkeep : ∀ op : Operation, op.key? = some key → (op.key?.all fun k => k = key) = true := by
    intro op hop
    simp [hop]
  refine ⟨fun op before hsuffix hop => ?_, share_performed_filter hkeep hnodup⟩
  have hsub : (Operation.issued (op :: before)).Sublist (Operation.issued run) :=
    (hsuffix.sublist.filterMap _).filterMap _
  exact result_filter hkeep hop (hnodup.sublist hsub)

end Runs

/-- A submission to one survey, and operations on another one with the token of the submission. -/
def tripOperations : List Operation :=
  [.query "ann.trips" .pendingList, .request (.verify "bob.walks" ⟨"t"⟩),
    .request (.submit "bob.walks" ⟨"u"⟩ .epoch tripBody),
    .request (.register { tripSurvey with adminName := "bob", surveyName := "walks" }),
    .request (.submit "ann.trips" ⟨"t"⟩ .epoch tripBody), .request (.register tripSurvey)]

theorem separation_trip :
    (Operation.issued tripOperations).Nodup ∧
      result .keepAll (Operation.only tripForm.key tripOperations.tail) (.query "ann.trips" .pendingList) =
        result .keepAll tripOperations.tail (.query "ann.trips" .pendingList) := by
  have hnodup : (Operation.issued tripOperations).Nodup := by decide
  exact ⟨hnodup, (separation .keepAll tripForm.key tripOperations hnodup).1 _ _ List.suffix_rfl rfl⟩

end Intake
end SurveyIntake
