import SurveyIntake.Proofs.Entries
import SurveyIntake.Proofs.Nesting
import SurveyIntake.Proofs.Registration

/-!
# SurveyIntake.Proofs.Readback

What is read back after a run.

Answers are stored as texts, so that reading them may fail. It does not where the configurations of a survey
come from documents: what is accepted then has no numbers, and nests no deeper than texts may.

* `Request.Documented`       — a request registers nothing under a key but what comes from a document.
* `Intake.Accepted.parse_render` — accepted answers are read back from their text.
* `Store.Readable`           — nothing fails that is read of a survey.
* `Store.HoldsPending`, `Store.HoldsVerified` — an entry is what is read of the store in either way.
* `Intake.readback_after`    — what is accepted is read back as it is, before its verification and after it.
* `Intake.views_after`       — the list of what is pending has exactly the entries that remain, and all that
  is read of a survey agrees with its lists.
-/

namespace SurveyIntake

/-- What is registered under the key comes from a document, and in the body of a submission no key of an
object stands twice. -/
def Request.Documented (key : SurveyKey) : Request → Prop
  | .register c => c.key = .ok key → ∃ text, Configuration.ofJsonText text = .ok c
  | .submit _ _ _ body => body.Proper
  | _ => True

/-- The verified entry that an entry becomes. -/
def PendingEntry.verified (e : PendingEntry) : VerifiedEntry := ⟨e.identity, e.timestamp, e.answers⟩

namespace Store

/-- Nothing fails that is read of the survey. -/
structure Readable (key : SurveyKey) (s : Store) : Prop where
  pendingEntry (token : Token) : ∃ e?, s.pendingEntry key token = .ok e?
  pendingEntries : ∃ es, s.pendingEntries key = .ok es
  verifiedEntry (identity : String) : ∃ e?, s.verifiedEntry key identity = .ok e?
  verifiedEntries : ∃ es, s.verifiedEntries key = .ok es

/-- The entry is found under its token, and is the only one in the list that is under it. -/
structure HoldsPending (key : SurveyKey) (e : PendingEntry) (s : Store) : Prop where
  found : s.pendingEntry key e.token = .ok (some e)
  listed : ∃ es, s.pendingEntries key = .ok es ∧ ∀ e', e' ∈ es ∧ e'.token = e.token ↔ e' = e

/-- The entry is found under its identity, and is the only one in the list that is under it. -/
structure HoldsVerified (key : SurveyKey) (e : VerifiedEntry) (s : Store) : Prop where
  found : s.verifiedEntry key e.identity = .ok (some e)
  listed : ∃ es, s.verifiedEntries key = .ok es ∧ ∀ e', e' ∈ es ∧ e'.identity = e.identity ↔ e' = e

variable {key : SurveyKey} {s : Store}

theorem holdsPending_of_found {es : List PendingEntry} (hes : s.pendingEntries key = .ok es)
    {e : PendingEntry} (h : s.pendingEntry key e.token = .ok (some e)) : s.HoldsPending key e := by
  refine ⟨h, es, hes, fun e' => ?_⟩
  rw [← pendingEntry_eq_ok_some_iff hes, h]
  simp [eq_comm]

theorem holdsVerified_of_found {es : List VerifiedEntry} (hes : s.verifiedEntries key = .ok es)
    {e : VerifiedEntry} (h : s.verifiedEntry key e.identity = .ok (some e)) : s.HoldsVerified key e := by
  refine ⟨h, es, hes, fun e' => ?_⟩
  rw [← verifiedEntry_eq_ok_some_iff hes, h]
  simp [eq_comm]

end Store

namespace Intake

section Read

variable {retention : Retention} {past : List Request} {r : Request} {key : SurveyKey} {entry : PendingEntry}

/-! ## Accepted answers -/

/-- What is accepted conforms to a configuration that was registered under its key before. -/
theorem Accepts.conforms (h : Accepts retention key entry past r) :
    ∃ c, .register c ∈ past ∧ c.key = .ok key ∧ c.Conforms Pattern.Admits ⟨entry.identity, entry.answers⟩ := by
  obtain ⟨survey, body, rfl, hkey, hbody, hreply⟩ := h
  have hserves := after_serves retention past (.submit survey entry.token entry.timestamp body)
  rw [hreply] at hserves
  generalize after retention (.submit survey entry.token entry.timestamp body :: past) = i' at hserves
  cases hserves with
  | received hs hx hcheck _ =>
    cases hbody.symm.trans hx
    obtain ⟨key', hkey', hfind⟩ := Registry.lookup_eq_ok_iff.1 hs
    cases hkey.symm.trans hkey'
    obtain ⟨q, ⟨since, before, rfl, hconcerns, _⟩, hopens⟩ := find?_after_iff.1 hfind
    obtain ⟨c, form, rfl, hcompile, rfl⟩ := Request.opens?_eq_some_iff.1 hopens
    exact ⟨c, List.mem_append_right _ List.mem_cons_self, hconcerns,
      (c.check_eq_nil_iff hcompile _).1 hcheck⟩

theorem Accepted.parse_render (hdocs : ∀ q ∈ past, q.Documented key) (h : Accepted retention key entry past) :
    Json.parse entry.answers.render = .ok entry.answers := by
  obtain ⟨r, before, hsuffix, haccepts⟩ := h
  obtain ⟨c, hc, hkey, hconforms⟩ := haccepts.conforms
  obtain ⟨text, htext⟩ := hdocs _ (hsuffix.subset (List.mem_cons_of_mem _ hc)) hkey
  obtain ⟨survey, body, rfl, _, hbody, _⟩ := haccepts
  exact hconforms.parse_render htext
    (Submission.proper_of_ofBody (hdocs _ (hsuffix.subset List.mem_cons_self)) hbody)

/-! ## Lists -/

theorem readPending_of_remains (hdocs : ∀ q ∈ past, q.Documented key) (h : Remains retention key entry past) :
    Store.readPending (entry.token, entry.row key) = .ok entry :=
  Store.readPending_eq_ok_iff.2 ⟨rfl, rfl, rfl, h.isAccepted.parse_render hdocs⟩

theorem pendingEntries_after (retention : Retention) (hdocs : ∀ q ∈ past, q.Documented key) :
    ∃ es, (after retention past).store.pendingEntries key = .ok es ∧
      ∀ entry, entry ∈ es ↔ Remains retention key entry past := by
  have hrow : ∀ r, r ∈ (after retention past).store.pendingRows key.text ↔
      ∃ entry, Remains retention key entry past ∧ r = (entry.token, entry.row key) := by
    rintro ⟨token, row⟩
    rw [Store.mem_pendingRows_iff, pendingRow?_after_iff_remains]
    simp only [Prod.mk.injEq]
    exact exists_congr fun entry => and_congr_right fun _ => and_congr_left' eq_comm
  obtain ⟨es, hes⟩ : ∃ es, (after retention past).store.pendingEntries key = .ok es := by
    refine Store.exists_readAll fun r hr => ?_
    obtain ⟨entry, hremains, rfl⟩ := (hrow r).1 hr
    exact ⟨entry, readPending_of_remains hdocs hremains⟩
  refine ⟨es, hes, fun entry => ?_⟩
  rw [Store.mem_of_readAll hes]
  constructor
  · rintro ⟨r, hr, hread⟩
    obtain ⟨entry', hremains, rfl⟩ := (hrow r).1 hr
    cases (readPending_of_remains hdocs hremains).symm.trans hread
    exact hremains
  · intro hremains
    exact ⟨_, (hrow _).2 ⟨entry, hremains, rfl⟩, readPending_of_remains hdocs hremains⟩

/-- Every verified row is that of an entry that was accepted. -/
theorem verified_accepted {identity : String} {row : VerifiedRow}
    (h : (after retention past).store.verifiedRow? key.text identity = some row) :
    ∃ entry, Accepted retention key entry past ∧ entry.identity = identity ∧ row = entry.verifiedRow := by
  induction past with
  | nil => cases h
  | cons r past ih =>
    have hstep := (after_serves retention past r).verifiedRow rfl key identity
    cases hv : verifies? retention key identity past r with
    | none =>
      rw [hv] at hstep
      obtain ⟨entry, haccepted, hidentity, hrow⟩ := ih (hstep.symm.trans h)
      exact ⟨entry, haccepted.cons r, hidentity, hrow⟩
    | some token =>
      rw [hv] at hstep
      obtain ⟨pending, hpending, hidentity, hrow⟩ := hstep
      obtain ⟨entry, hremains, _, rfl⟩ := pendingRow?_after_iff_remains.1 hpending
      exact ⟨entry, hremains.isAccepted.cons r, hidentity, Option.some.inj (h.symm.trans hrow)⟩

theorem verifiedEntries_after (retention : Retention) (hdocs : ∀ q ∈ past, q.Documented key) :
    ∃ es, (after retention past).store.verifiedEntries key = .ok es := by
  refine Store.exists_readAll ?_
  rintro ⟨identity, row⟩ hr
  obtain ⟨entry, haccepted, rfl, rfl⟩ := verified_accepted (Store.mem_verifiedTable_iff.1 hr)
  exact ⟨entry.verified, Store.readVerified_eq_ok_iff.2 ⟨rfl, rfl, haccepted.parse_render hdocs⟩⟩

theorem readable_after (retention : Retention) (hdocs : ∀ q ∈ past, q.Documented key) :
    (after retention past).store.Readable key := by
  obtain ⟨es, hes, _⟩ := pendingEntries_after retention hdocs
  obtain ⟨vs, hvs⟩ := verifiedEntries_after retention hdocs
  exact ⟨Store.exists_pendingEntry hes, ⟨es, hes⟩, Store.exists_verifiedEntry hvs, ⟨vs, hvs⟩⟩

theorem Remains.holdsPending (hdocs : ∀ q ∈ past, q.Documented key) (h : Remains retention key entry past) :
    (after retention past).store.HoldsPending key entry := by
  obtain ⟨es, hes, hmem⟩ := pendingEntries_after retention hdocs
  exact Store.holdsPending_of_found hes
    ((Store.pendingEntry_eq_ok_some_iff hes).2 ⟨(hmem entry).2 h, rfl⟩)

/-- Where its survey is open, an entry that remains can be verified, and is then what is read under its
identity. -/
theorem Remains.verify (hdocs : ∀ q ∈ past, q.Documented key) (h : Remains retention key entry past) {s : Survey}
    (hs : (after retention past).registry.surveys.find? key = some s) :
    reply retention past (.verify key.text entry.token) = .verified entry.identity ∧
      (after retention (.verify key.text entry.token :: past)).store.HoldsVerified key entry.verified := by
  have hrow : (after retention past).store.pendingRow? key.text entry.token = some (entry.row key) :=
    pendingRow?_after_iff_remains.2 ⟨entry, h, rfl, rfl⟩
  have hreply : reply retention past (.verify key.text entry.token) = .verified entry.identity := by
    rw [reply_verify_open (SurveyKey.parse_text key) hs, hrow]
    rfl
  have hverifies : verifies? retention key entry.identity past (.verify key.text entry.token) =
      some entry.token := by
    simp [verifies?, hreply]
  have hstep := (after_serves retention past (.verify key.text entry.token)).verifiedRow rfl key entry.identity
  rw [hverifies] at hstep
  obtain ⟨row, hrow', _, hverified⟩ := hstep
  cases hrow.symm.trans hrow'
  have hdocs' : ∀ q ∈ .verify key.text entry.token :: past, q.Documented key :=
    List.forall_mem_cons.2 ⟨trivial, hdocs⟩
  obtain ⟨es, hes⟩ := verifiedEntries_after retention hdocs'
  refine ⟨hreply, Store.holdsVerified_of_found hes (Store.readOptional_eq_ok_some_iff.2 ⟨_, hverified, ?_⟩)⟩
  exact Store.readVerified_eq_ok_iff.2 ⟨rfl, rfl, h.isAccepted.parse_render hdocs⟩

end Read

/-! ## What is read after a run -/

/-- The document of `tripSurvey`. Arrays stand for the configuration and its fields. -/
def tripText : String :=
  "[\"ann\",\"trips\",null,null,[" ++
    "[\"Selection\",\x7b\"fields\":[[\"Option\"],[\"List\"]],\"min_select\":3\x7d]," ++
    "[\"Email\",\x7b\"max_chars\":9\x7d]]]"

/-- A submission, before it is verified. -/
def tripReception : List Request := [.submit "ann.trips" ⟨"t"⟩ .epoch tripBody, .register tripSurvey]

theorem proper_tripBody : tripBody.Proper :=
  ⟨by decide, trivial, ⟨by decide, ⟨by decide, trivial, trivial, trivial⟩, trivial, trivial⟩, trivial⟩

theorem documented_tripReception : ∀ q ∈ tripReception, q.Documented tripForm.key := by
  have hread : Configuration.ofJsonText tripText = .ok tripSurvey := eq_ok_of_toOption (by decide +kernel)
  simp only [tripReception, List.forall_mem_cons]
  exact ⟨proper_tripBody, fun _ => ⟨tripText, hread⟩, by simp⟩

theorem remains_tripEntry : Remains .keepAll tripForm.key tripEntry tripReception := by
  have hserve : (after .keepAll [.register tripSurvey]).serve
      (.submit "ann.trips" ⟨"t"⟩ .epoch tripBody) = _ :=
    @serve_received _ _ _ _ _ ⟨tripForm, .keepAll⟩ tripSubmission rfl rfl (by decide +kernel) rfl
  exact .accepted ⟨"ann.trips", tripBody, rfl, rfl, rfl, congrArg Prod.snd hserve⟩

/-- **Accepted submissions survive storage.** Nothing fails that is read of a survey after any run that
registers it from documents. A submission with which nothing is wrong while the survey is open is received,
and what is read under its token then has its identity, its answers and the time of its receipt. That stays
so as long as no purge deletes it, and where it is verified the same three values are read under its
identity. -/
theorem readback_after {retention : Retention} {past : List Request} {key : SurveyKey}
    (hdocs : ∀ q ∈ past, q.Documented key) :
    (after retention past).store.Readable key ∧
    (∀ s token now body x, (after retention past).registry.surveys.find? key = some s → body.Proper →
      Submission.ofBody body = .ok x → s.form.check x = [] →
      (after retention past).store.pending.find? token = none →
      reply retention past (.submit key.text token now body) = .received ⟨token, now⟩ ∧
        (after retention (.submit key.text token now body :: past)).store.HoldsPending key
          ⟨token, x.identity, now, x.answers⟩) ∧
    (∀ entry, Remains retention key entry past → (after retention past).store.HoldsPending key entry) ∧
    ∀ entry s, Remains retention key entry past →
      (after retention past).registry.surveys.find? key = some s →
      reply retention past (.verify key.text entry.token) = .verified entry.identity ∧
        (after retention (.verify key.text entry.token :: past)).store.HoldsVerified key
          ⟨entry.identity, entry.timestamp, entry.answers⟩ := by
  refine ⟨readable_after retention hdocs, ?_, fun entry h => h.holdsPending hdocs,
    fun entry s h hs => h.verify hdocs hs⟩
  intro s token now body x hs hbody hx hcheck hnew
  have hkey : SurveyKey.parse key.text = .ok key := SurveyKey.parse_text key
  have hreply : reply retention past (.submit key.text token now body) = .received ⟨token, now⟩ :=
    congrArg Prod.snd (serve_received (Registry.lookup_eq_ok_iff.2 ⟨key, hkey, hs⟩) hx hcheck hnew)
  have haccepts : Accepts retention key ⟨token, x.identity, now, x.answers⟩ past
      (.submit key.text token now body) := ⟨key.text, body, rfl, hkey, hx, hreply⟩
  exact ⟨hreply, Remains.holdsPending (List.forall_mem_cons.2 ⟨hbody, hdocs⟩) (.accepted haccepts)⟩

theorem readback_after_trip :
    (∀ q ∈ tripReception, q.Documented tripForm.key) ∧
      (after .keepAll tripReception).store.HoldsPending tripForm.key tripEntry ∧
      (after .keepAll (.verify "ann.trips" ⟨"t"⟩ :: tripReception)).store.HoldsVerified tripForm.key
        ⟨"ann@home.org", .epoch, tripSubmission.answers⟩ := by
  have hopen : (after .keepAll tripReception).registry.surveys.find? tripForm.key =
      some ⟨tripForm, .keepAll⟩ := by
    rw [tripReception, (after_serves _ _ _).registry_eq (by simp) (by simp)]
    rfl
  have hmain := @readback_after .keepAll _ _ documented_tripReception
  exact ⟨documented_tripReception, hmain.2.2.1 tripEntry remains_tripEntry,
    (hmain.2.2.2 tripEntry _ remains_tripEntry hopen).2⟩

/-- **The views of a survey agree.** After any run that registers the survey from documents, the list of its
pending entries has exactly those that were accepted and that no later purge of it has deleted, each once, by
their times and then by the bytes of their tokens; the count is the length of the list, and what is found
under a token is what the list has under it. The same goes for the list of its verified entries, which is in
the order of the bytes of their identities. -/
theorem views_after {retention : Retention} {past : List Request} {key : SurveyKey}
    (hdocs : ∀ q ∈ past, q.Documented key) :
    ∃ pending verified, (after retention past).store.pendingEntries key = .ok pending ∧
      (∀ entry, entry ∈ pending ↔ Remains retention key entry past) ∧
      (pending.Pairwise fun a b => a.timestamp.millis < b.timestamp.millis ∨
        a.timestamp.millis = b.timestamp.millis ∧ utf8Bytes a.token.text < utf8Bytes b.token.text) ∧
      (after retention past).store.pendingCount key = pending.length ∧
      (∀ token, (∃ e?, (after retention past).store.pendingEntry key token = .ok e?) ∧
        ∀ e, (after retention past).store.pendingEntry key token = .ok (some e) ↔
          e ∈ pending ∧ e.token = token) ∧
      (after retention past).store.verifiedEntries key = .ok verified ∧
      (verified.Pairwise fun a b => utf8Bytes a.identity < utf8Bytes b.identity) ∧
      (after retention past).store.verifiedCount key = verified.length ∧
      ∀ identity, (∃ e?, (after retention past).store.verifiedEntry key identity = .ok e?) ∧
        ∀ e, (after retention past).store.verifiedEntry key identity = .ok (some e) ↔
          e ∈ verified ∧ e.identity = identity := by
  obtain ⟨pending, hpending, hmem⟩ := pendingEntries_after retention hdocs
  obtain ⟨verified, hverified⟩ := verifiedEntries_after retention hdocs
  exact ⟨pending, verified, hpending, hmem, Store.pairwise_pendingEntries hpending,
    Store.pendingCount_eq hpending,
    fun token => ⟨Store.exists_pendingEntry hpending token,
      fun _ => Store.pendingEntry_eq_ok_some_iff hpending⟩,
    hverified, Store.pairwise_verifiedEntries hverified, Store.verifiedCount_eq hverified,
    fun identity => ⟨Store.exists_verifiedEntry hverified identity,
      fun _ => Store.verifiedEntry_eq_ok_some_iff hverified⟩⟩

theorem views_after_trip :
    (∀ q ∈ tripReception, q.Documented tripForm.key) ∧
      ∃ pending, (after .keepAll tripReception).store.pendingEntries tripForm.key = .ok pending ∧
        tripEntry ∈ pending := by
  obtain ⟨pending, _, hpending, hmem, _⟩ := @views_after .keepAll _ _ documented_tripReception
  exact ⟨documented_tripReception, pending, hpending, (hmem tripEntry).2 remains_tripEntry⟩

end Intake
end SurveyIntake
