import SurveyIntake.Proofs.Reception
import SurveyIntake.Proofs.Verified

/-!
# SurveyIntake.Proofs.Pending

What is pending after a run, and so which tokens can be verified.

* `Retention.Expires` — at an instant, what was submitted at another one has expired.
* `Retention.Drops`   — a purge at an instant deletes what was submitted at another one. Unless ages are
  negative, that is what has expired.
* `Survey.find?_purge_iff` — a purge deletes such rows of its survey, and no others.
* `Intake.Standing`   — an entry was accepted, and had not expired at any purge of its survey since then.
* `Intake.Remains`    — an entry was accepted, and no purge of its survey has deleted it since then.
* `Intake.pendingRow?_after_iff_remains`, `Intake.pendingRow?_after_iff` — the pending rows of a survey are
  those of its entries that remain; these are the standing ones.
* `Intake.verify_after` — the answer to a verification after any run.
-/

namespace SurveyIntake

/-! ## Purging -/

namespace Retention

/-- What was submitted at one time has expired at the other. Times are in milliseconds. -/
def Expires (retention : Retention) (submitted now : Int) : Prop :=
  ∃ age, retention = .maxAge age ∧ submitted + age < now

/-- The age up to which submissions are kept, if there is one, is not negative. -/
def NonNegative (retention : Retention) : Prop := ∀ age, retention = .maxAge age → 0 ≤ age

/-- A purge at the instant deletes what was submitted at the time. -/
def Drops (retention : Retention) (submitted : Int) (now : Instant) : Prop :=
  ∃ cutoff, retention.cutoff now = some cutoff ∧ submitted < cutoff.millis

theorem not_expires_of_cutoff_eq_none {retention : Retention} (hr : retention.NonNegative)
    {now : Instant} (h : retention.cutoff now = none) {submitted : Int}
    (hs : firstMillis ≤ submitted) : ¬retention.Expires submitted now.millis := by
  rintro ⟨age, rfl, hlt⟩
  have hage : 0 ≤ age := hr age rfl
  have hnow := now.millis_le
  simp only [cutoff, Instant.earlier?, Instant.ofMillis?] at h
  split at h
  · cases h
  · rename_i hrange
    omega

theorem expires_iff_of_cutoff_eq_some {retention : Retention} {now cutoff : Instant}
    (h : retention.cutoff now = some cutoff) {submitted : Int} :
    retention.Expires submitted now.millis ↔ submitted < cutoff.millis := by
  cases retention with
  | keepAll => cases h
  | maxAge age =>
    simp only [Retention.cutoff, Instant.earlier?, Instant.ofMillis?] at h
    split at h
    · cases h
      simp only [Expires, maxAge.injEq, exists_eq_left']
      omega
    · cases h

theorem drops_iff_expires {retention : Retention} (hr : retention.NonNegative) (submitted now : Instant) :
    retention.Drops submitted.millis now ↔ retention.Expires submitted.millis now.millis := by
  cases hcutoff : retention.cutoff now with
  | none =>
    refine iff_of_false ?_ (not_expires_of_cutoff_eq_none hr hcutoff submitted.le_millis)
    rintro ⟨cutoff, h, _⟩
    cases hcutoff.symm.trans h
  | some cutoff => simp [Drops, hcutoff, expires_iff_of_cutoff_eq_some hcutoff]

end Retention

theorem Survey.find?_purge_iff {s : Survey} {store : Store} {now : Instant} {token : Token}
    {row : PendingRow} :
    (s.purge now store).1.pending.find? token = some row ↔
      store.pending.find? token = some row ∧
        ¬(row.survey = s.key.text ∧ s.retention.Drops row.millis now) := by
  unfold Survey.purge Retention.Drops
  cases s.retention.cutoff now with
  | none => simp
  | some cutoff =>
    simp only [Store.find?_purgeBefore, Option.filter_eq_some_iff]
    simp [Store.isExpired, imp_iff_not_or]

namespace Intake

/-! ## Standing entries -/

/-- A request, after some others, purges the survey at the instant. -/
def Purges (retention : Retention) (key : SurveyKey) (now : Instant) (past : List Request)
    (r : Request) : Prop :=
  ∃ survey count, r = .purge survey now ∧ SurveyKey.parse survey = .ok key ∧
    reply retention past r = .purged count

/-- The entry was accepted at some point of a run, and at each purge of its survey from then on it had
not expired. -/
def Standing (retention : Retention) (key : SurveyKey) (entry : PendingEntry) (past : List Request) :
    Prop :=
  ∃ since r before, past = since ++ r :: before ∧ Accepts retention key entry before r ∧
    ∀ later q earlier now, since = later ++ q :: earlier →
      Purges retention key now (earlier ++ r :: before) q →
      ¬retention.Expires entry.timestamp.millis now.millis

section Standing

variable {retention : Retention} {key : SurveyKey} {entry : PendingEntry} {past : List Request}
  {r : Request}

theorem not_standing_nil : ¬Standing retention key entry [] := by
  rintro ⟨since, r, before, h, _⟩
  cases since <;> cases h

theorem standing_cons_iff :
    Standing retention key entry (r :: past) ↔
      Accepts retention key entry past r ∨ Standing retention key entry past ∧
        ∀ now, Purges retention key now past r →
          ¬retention.Expires entry.timestamp.millis now.millis := by
  constructor
  · rintro ⟨since, q, before, hpast, haccepts, hkept⟩
    cases since with
    | nil =>
      cases hpast
      exact .inl haccepts
    | cons p since =>
      cases hpast
      refine .inr ⟨⟨since, q, before, rfl, haccepts, fun later p earlier now hsince => ?_⟩, ?_⟩
      · exact hkept (r :: later) p earlier now (by rw [hsince]; rfl)
      · exact fun now => hkept [] r since now rfl
  · rintro (haccepts | ⟨⟨since, q, before, rfl, haccepts, hkept⟩, hr⟩)
    · refine ⟨[], r, past, rfl, haccepts, fun later q earlier now hsince => ?_⟩
      cases later <;> cases hsince
    · refine ⟨r :: since, q, before, rfl, haccepts, fun later p earlier now hsince => ?_⟩
      cases later with
      | nil =>
        cases hsince
        exact hr now
      | cons p' later =>
        cases hsince
        exact hkept later p earlier now rfl

/-- An entry that was accepted and had not expired at any purge of its survey is standing. -/
theorem Accepted.standing (h : Accepted retention key entry past)
    (hkept : ∀ q before now, (q :: before) <:+ past → Purges retention key now before q →
      ¬retention.Expires entry.timestamp.millis now.millis) : Standing retention key entry past := by
  obtain ⟨r, before, ⟨since, rfl⟩, haccepts⟩ := h
  refine ⟨since, r, before, rfl, haccepts, fun later q earlier now hsince => ?_⟩
  subst hsince
  exact hkept q _ now ⟨later, by simp⟩

theorem Standing.accepted (h : Standing retention key entry past) :
    Accepted retention key entry past := by
  obtain ⟨since, r, before, rfl, haccepts, _⟩ := h
  exact ⟨r, before, ⟨since, rfl⟩, haccepts⟩

end Standing

/-- A request, after some others, is a purge that deletes the entry. -/
def Deletes (retention : Retention) (key : SurveyKey) (entry : PendingEntry) (past : List Request)
    (r : Request) : Prop :=
  ∃ now, Purges retention key now past r ∧ retention.Drops entry.timestamp.millis now

/-- The entry was accepted at some point of a run, and no purge of its survey has deleted it since then. -/
inductive Remains (retention : Retention) (key : SurveyKey) (entry : PendingEntry) : List Request → Prop where
  | accepted {past : List Request} {r : Request} : Accepts retention key entry past r →
      Remains retention key entry (r :: past)
  | kept {past : List Request} {r : Request} : Remains retention key entry past →
      ¬Deletes retention key entry past r → Remains retention key entry (r :: past)

theorem Remains.isAccepted {retention : Retention} {key : SurveyKey} {entry : PendingEntry}
    {past : List Request} (h : Remains retention key entry past) : Accepted retention key entry past := by
  induction h with
  | accepted haccepts => exact ⟨_, _, List.suffix_rfl, haccepts⟩
  | kept _ _ ih => exact ih.cons _

theorem remains_iff_standing {retention : Retention} (hr : retention.NonNegative) {key : SurveyKey}
    {entry : PendingEntry} {past : List Request} :
    Remains retention key entry past ↔ Standing retention key entry past := by
  induction past with
  | nil => exact iff_of_false (by rintro ⟨⟩) not_standing_nil
  | cons r past ih =>
    rw [standing_cons_iff, ← ih]
    simp only [← Retention.drops_iff_expires hr]
    constructor
    · rintro (haccepts | ⟨hremains, hkept⟩)
      · exact .inl haccepts
      · exact .inr ⟨hremains, fun now hpurges hdrops => hkept ⟨now, hpurges, hdrops⟩⟩
    · rintro (haccepts | ⟨hremains, hkept⟩)
      · exact .accepted haccepts
      · refine .kept hremains ?_
        rintro ⟨now, hpurges, hdrops⟩
        exact hkept now hpurges hdrops

/-! ## Pending rows -/

/-- Open surveys keep their submissions as long as the registry says. -/
def Retains (i : Intake) : Prop :=
  ∀ key s, i.registry.surveys.find? key = some s → s.retention = i.registry.retention

theorem Serves.registry_eq {i i' : Intake} {r : Request} {a : Answer} (h : Serves i r i' a)
    (hregister : ∀ c, r ≠ .register c) (hunregister : ∀ key, r ≠ .unregister key) :
    i'.registry = i.registry := by
  cases h with
  | opened _ | withdrawn _ _ => exact absurd rfl (hregister _)
  | closed => exact absurd rfl (hunregister _)
  | _ => rfl

theorem Serves.retention_eq {i i' : Intake} {r : Request} {a : Answer} (h : Serves i r i' a) :
    i'.registry.retention = i.registry.retention := by
  cases h <;> rfl

theorem after_retention (retention : Retention) (past : List Request) :
    (after retention past).registry.retention = retention := by
  induction past with
  | nil => rfl
  | cons r past ih => rw [(after_serves retention past r).retention_eq, ih]

theorem Serves.retains {i i' : Intake} {r : Request} {a : Answer} (h : Serves i r i' a)
    (hi : Retains i) : Retains i' := by
  cases h with
  | opened _ =>
    intro key s hs
    simp only [withSurveys, Table.find?_insert] at hs
    split at hs
    · cases hs
      rfl
    · exact hi key s hs
  | withdrawn _ _ | closed =>
    intro key s hs
    simp only [withSurveys, Table.find?_erase] at hs
    split at hs
    · cases hs
    · exact hi key s hs
  | _ => exact hi

theorem after_retains (retention : Retention) (past : List Request) : Retains (after retention past) := by
  induction past with
  | nil => intro key s hs; cases hs
  | cons r past ih => exact (after_serves retention past r).retains ih

section Step

variable {retention : Retention} {past : List Request} {i' : Intake} {r : Request} {a : Answer}
  {key : SurveyKey} {token : Token} {row : PendingRow}

/-- A request that is neither a submission that is accepted nor a purge of the survey. -/
theorem unchanged_iff {p : Prop} (ha : reply retention past r = a) (hna : ∀ receipt, a ≠ .received receipt)
    (hnp : ∀ count, a ≠ .purged count) :
    p ↔ (∃ entry, Accepts retention key entry past r ∧ entry.token = token ∧ row = entry.row key) ∨
      p ∧ ∀ now, Purges retention key now past r → ¬retention.Drops row.millis now := by
  constructor
  · intro hp
    refine .inr ⟨hp, ?_⟩
    rintro now ⟨_, count, _, _, hreply⟩
    exact absurd (ha.symm.trans hreply) (hnp count)
  · rintro (⟨entry, ⟨_, _, _, _, _, hreply⟩, _⟩ | ⟨hp, _⟩)
    · exact absurd (ha.symm.trans hreply) (hna _)
    · exact hp

/-- A row of the survey is there after a request if the request is a submission of it that is accepted, or
if it was there and the request does not purge it. -/
theorem Serves.pendingRow?_iff (h : Serves (after retention past) r i' a)
    (ha : reply retention past r = a) :
    i'.store.pendingRow? key.text token = some row ↔
      (∃ entry, Accepts retention key entry past r ∧ entry.token = token ∧ row = entry.row key) ∨
        (after retention past).store.pendingRow? key.text token = some row ∧
          ∀ now, Purges retention key now past r → ¬retention.Drops row.millis now := by
  cases h with
  | @received survey token' now body s x hs hx _ hnew =>
    have hkey := (after_keyed retention past).parse_of_lookup hs
    have hquiet : ∀ now', ¬Purges retention key now' past (.submit survey token' now body) := by
      rintro now' ⟨_, _, hpurge, _⟩
      cases hpurge
    simp only [Store.pendingRow?_eq_some_iff, withPending, Table.find?_insert]
    constructor
    · rintro ⟨hrow, hsurvey⟩
      split at hrow
      · rename_i htoken
        cases hrow
        have hk : s.key = key := SurveyKey.text_injective hsurvey
        subst hk
        exact .inl ⟨⟨token', x.identity, now, x.answers⟩, ⟨survey, body, rfl, hkey, hx, ha⟩, htoken.symm,
          rfl⟩
      · exact .inr ⟨⟨hrow, hsurvey⟩, fun now' hp => absurd hp (hquiet now')⟩
    · rintro (⟨entry, ⟨survey', body', hsubmit, hkey', hx', _⟩, rfl, rfl⟩ | ⟨⟨hrow, hsurvey⟩, _⟩)
      · cases hsubmit
        rw [hkey] at hkey'
        cases hkey'
        rw [hx] at hx'
        cases hx'
        rw [if_pos rfl]
        exact ⟨rfl, rfl⟩
      · have hne : token ≠ token' := by
          rintro rfl
          rw [hnew] at hrow
          cases hrow
        rw [if_neg hne]
        exact ⟨hrow, hsurvey⟩
  | @purged survey now s hs =>
    have hkey := (after_keyed retention past).parse_of_lookup hs
    have hretention : s.retention = retention := by
      obtain ⟨_, _, hfind⟩ := Registry.lookup_eq_ok_iff.1 hs
      rw [after_retains retention past _ s hfind, after_retention]
    have hquiet : ∀ entry, ¬Accepts retention key entry past (.purge survey now) := by
      rintro entry ⟨_, _, hsubmit, _⟩
      cases hsubmit
    simp only [Store.pendingRow?_eq_some_iff, Survey.find?_purge_iff, hretention]
    constructor
    · rintro ⟨⟨hrow, hkept⟩, hsurvey⟩
      refine .inr ⟨⟨hrow, hsurvey⟩, ?_⟩
      rintro now' ⟨survey', _, hpurge, hkey', _⟩ hdrops
      cases hpurge
      rw [hkey] at hkey'
      cases hkey'
      exact hkept ⟨hsurvey, hdrops⟩
    · rintro (⟨entry, haccepts, _⟩ | ⟨⟨hrow, hsurvey⟩, hkept⟩)
      · exact absurd haccepts (hquiet entry)
      · refine ⟨⟨hrow, ?_⟩, hsurvey⟩
        rintro ⟨hs', hdrops⟩
        have hk : s.key = key := SurveyKey.text_injective (hs'.symm.trans hsurvey)
        exact hkept now ⟨survey, _, rfl, hk ▸ hkey, ha⟩ hdrops
  | _ => exact unchanged_iff ha (by simp) (by simp)

end Step

/-- **The pending rows of a survey after any run.** -/
theorem pendingRow?_after_iff_remains {retention : Retention} {past : List Request} {key : SurveyKey}
    {token : Token} {row : PendingRow} :
    (after retention past).store.pendingRow? key.text token = some row ↔
      ∃ entry, Remains retention key entry past ∧ entry.token = token ∧ row = entry.row key := by
  induction past with
  | nil =>
    refine iff_of_false (by rintro ⟨⟩) ?_
    rintro ⟨_, ⟨⟩, _⟩
  | cons r past ih =>
    rw [(after_serves retention past r).pendingRow?_iff rfl, ih]
    constructor
    · rintro (⟨entry, haccepts, htoken, hrow⟩ | ⟨⟨entry, hremains, htoken, rfl⟩, hkept⟩)
      · exact ⟨entry, .accepted haccepts, htoken, hrow⟩
      · refine ⟨entry, .kept hremains ?_, htoken, rfl⟩
        rintro ⟨now, hpurges, hdrops⟩
        exact hkept now hpurges hdrops
    · rintro ⟨entry, haccepts | ⟨hremains, hkept⟩, htoken, rfl⟩
      · exact .inl ⟨entry, haccepts, htoken, rfl⟩
      · exact .inr ⟨⟨entry, hremains, htoken, rfl⟩, fun now hpurges hdrops => hkept ⟨now, hpurges, hdrops⟩⟩

/-- Where ages are not negative, what has not been deleted is what has not expired at a purge. -/
theorem pendingRow?_after_iff {retention : Retention} (hr : retention.NonNegative)
    {past : List Request} {key : SurveyKey} {token : Token} {row : PendingRow} :
    (after retention past).store.pendingRow? key.text token = some row ↔
      ∃ entry, Standing retention key entry past ∧ entry.token = token ∧ row = entry.row key := by
  simp only [pendingRow?_after_iff_remains, remains_iff_standing hr]

/-! ## Verification -/

/-- The tokens that are issued in a run, also those of submissions that are refused. -/
def issued (past : List Request) : List Token :=
  past.filterMap fun
    | .submit _ token _ _ => some token
    | _ => none

theorem Accepted.mem_issued {retention : Retention} {key : SurveyKey} {entry : PendingEntry}
    {past : List Request} (h : Accepted retention key entry past) : entry.token ∈ issued past := by
  obtain ⟨r, before, hsuffix, survey, body, rfl, _⟩ := h
  exact List.mem_filterMap.2 ⟨_, hsuffix.subset List.mem_cons_self, rfl⟩

theorem accepted_cons_iff {retention : Retention} {key : SurveyKey} {entry : PendingEntry}
    {past : List Request} {r : Request} :
    Accepted retention key entry (r :: past) ↔
      Accepts retention key entry past r ∨ Accepted retention key entry past := by
  constructor
  · rintro ⟨q, before, hsuffix, haccepts⟩
    rcases List.suffix_cons_iff.1 hsuffix with h | h
    · cases h
      exact .inl haccepts
    · exact .inr ⟨q, before, h, haccepts⟩
  · rintro (haccepts | h)
    · exact ⟨r, past, List.suffix_rfl, haccepts⟩
    · exact h.cons r

theorem Accepts.unique {retention : Retention} {key key' : SurveyKey} {entry entry' : PendingEntry}
    {past : List Request} {r : Request} (h : Accepts retention key entry past r)
    (h' : Accepts retention key' entry' past r) : key = key' ∧ entry = entry' := by
  obtain ⟨survey, body, rfl, hkey, hx, _⟩ := h
  obtain ⟨survey', body', hsubmit, hkey', hx', _⟩ := h'
  cases entry
  cases entry'
  cases hsubmit
  rw [hkey] at hkey'
  rw [hx] at hx'
  cases hkey'
  cases hx'
  exact ⟨rfl, rfl⟩

theorem Accepted.unique {retention : Retention} {key key' : SurveyKey} {entry entry' : PendingEntry}
    {past : List Request} (hnodup : (issued past).Nodup) (h : Accepted retention key entry past)
    (h' : Accepted retention key' entry' past) (htoken : entry.token = entry'.token) :
    key = key' ∧ entry = entry' := by
  induction past with
  | nil =>
    obtain ⟨r, before, hsuffix, _⟩ := h
    cases List.suffix_nil.1 hsuffix
  | cons r past ih =>
    have htail : (issued past).Nodup := hnodup.sublist ((List.sublist_cons_self r past).filterMap _)
    -- The token of the first request is issued by no other.
    have hfresh : ∀ {key key'} {e e' : PendingEntry}, Accepts retention key e past r →
        Accepted retention key' e' past → e.token ≠ e'.token := by
      rintro key key' e e' ⟨survey, body, rfl, _⟩ haccepted he
      exact (List.nodup_cons.1 hnodup).1 (he ▸ haccepted.mem_issued)
    rcases accepted_cons_iff.1 h with h | h <;> rcases accepted_cons_iff.1 h' with h' | h'
    · exact h.unique h'
    · exact absurd htoken (hfresh h h')
    · exact absurd htoken.symm (hfresh h' h)
    · exact ih htail h h'

section Verify

variable {retention : Retention} {past : List Request} {survey : String} {token : Token}

theorem reply_verify_unknown (h : ∀ s, ¬(after retention past).registry.Opens survey s) :
    reply retention past (.verify survey token) = .refused (.unknownSurvey survey) := by
  have hlookup := Registry.lookup_eq_error_iff.2 ⟨rfl, h⟩
  simp only [reply, serve, Registry.verify, hlookup]

theorem reply_verify_open {key : SurveyKey} (hkey : SurveyKey.parse survey = .ok key)
    {s : Survey} (hs : (after retention past).registry.surveys.find? key = some s) :
    reply retention past (.verify survey token) =
      match (after retention past).store.pendingRow? key.text token with
      | some row => .verified row.identity
      | none => .refused (.unknownToken token.text) := by
  have hlookup := Registry.lookup_eq_ok_iff.2 ⟨key, hkey, hs⟩
  have hk : s.key = key := after_keyed retention past key s hs
  simp only [reply, serve, Registry.verify, hlookup, Survey.verify, Store.promote, hk]
  cases (after retention past).store.pendingRow? key.text token <;> rfl

/-- **The life of a token.** It can be verified just if its survey is open and an entry of that survey
stands under it; the identity is the one of the entry. Otherwise the survey is unknown, or the token is.
So a token of another survey is never verified, and one whose entry was accepted is as long as no purge
finds it expired, whatever else happens. -/
theorem verify_after (hr : retention.NonNegative) :
    (∀ identity, reply retention past (.verify survey token) = .verified identity ↔
      ∃ key s entry, SurveyKey.parse survey = .ok key ∧
        (after retention past).registry.surveys.find? key = some s ∧
        Standing retention key entry past ∧ entry.token = token ∧ entry.identity = identity) ∧
    ((∀ s, ¬(after retention past).registry.Opens survey s) →
      reply retention past (.verify survey token) = .refused (.unknownSurvey survey)) ∧
    (∀ s, (after retention past).registry.Opens survey s →
      (∀ identity, reply retention past (.verify survey token) ≠ .verified identity) →
      reply retention past (.verify survey token) = .refused (.unknownToken token.text)) ∧
    ((issued past).Nodup → ∀ key entry, Accepted retention key entry past → entry.token = token →
      key.text ≠ survey →
      ∀ identity, reply retention past (.verify survey token) ≠ .verified identity) ∧
    (∀ key s entry, SurveyKey.parse survey = .ok key →
      (after retention past).registry.surveys.find? key = some s →
      Accepted retention key entry past → entry.token = token →
      (∀ q before now, (q :: before) <:+ past → Purges retention key now before q →
        ¬retention.Expires entry.timestamp.millis now.millis) →
      reply retention past (.verify survey token) = .verified entry.identity) := by
  have hverified : ∀ identity, reply retention past (.verify survey token) = .verified identity ↔
      ∃ key s entry, SurveyKey.parse survey = .ok key ∧
        (after retention past).registry.surveys.find? key = some s ∧
        Standing retention key entry past ∧ entry.token = token ∧ entry.identity = identity := by
    intro identity
    constructor
    · intro hreply
      by_cases hopens : ∃ s, (after retention past).registry.Opens survey s
      · obtain ⟨s, key, hkey, hs⟩ := hopens
        rw [reply_verify_open hkey hs] at hreply
        split at hreply
        · rename_i row hrow
          obtain ⟨entry, hstanding, htoken, rfl⟩ := (pendingRow?_after_iff hr).1 hrow
          cases hreply
          exact ⟨key, s, entry, hkey, hs, hstanding, htoken, rfl⟩
        · cases hreply
      · rw [reply_verify_unknown fun s hs => hopens ⟨s, hs⟩] at hreply
        cases hreply
    · rintro ⟨key, s, entry, hkey, hs, hstanding, htoken, rfl⟩
      rw [reply_verify_open hkey hs, (pendingRow?_after_iff hr).2 ⟨entry, hstanding, htoken, rfl⟩]
      rfl
  refine ⟨hverified, reply_verify_unknown, ?_, ?_, ?_⟩
  · rintro s ⟨key, hkey, hs⟩ hnot
    rw [reply_verify_open hkey hs] at hnot ⊢
    split at hnot
    · exact absurd rfl (hnot _)
    · rfl
  · intro hnodup key entry haccepted htoken hne identity hreply
    obtain ⟨key', s, entry', hkey, _, hstanding, htoken', _⟩ := (hverified identity).1 hreply
    obtain ⟨rfl, _⟩ := haccepted.unique hnodup hstanding.accepted (htoken.trans htoken'.symm)
    exact hne (SurveyKey.text_of_parse hkey)
  · intro key s entry hkey hs haccepted htoken hkept
    exact (hverified _).2 ⟨key, s, entry, hkey, hs, haccepted.standing hkept, htoken, rfl⟩

end Verify

/-- A submission, and a purge just before it expires. -/
def tripRun : List Request :=
  [.purge "ann.trips" ⟨5, by decide, by decide⟩, .submit "ann.trips" ⟨"t"⟩ .epoch tripBody,
    .register tripSurvey]

theorem verify_after_trip :
    (Retention.maxAge 5).NonNegative ∧ (issued tripRun).Nodup ∧
      reply (.maxAge 5) tripRun (.verify "ann.trips" ⟨"t"⟩) = .verified "ann@home.org" := by
  have hr : (Retention.maxAge 5).NonNegative := by
    rintro age ⟨⟩
    decide
  have hserve : (after (.maxAge 5) [.register tripSurvey]).serve
      (.submit "ann.trips" ⟨"t"⟩ .epoch tripBody) = _ :=
    @serve_received _ _ _ _ _ ⟨tripForm, .maxAge 5⟩ tripSubmission rfl rfl (by decide +kernel) rfl
  have hopen : (after (.maxAge 5) tripRun).registry.surveys.find? tripForm.key =
      some ⟨tripForm, .maxAge 5⟩ := by
    rw [tripRun, (after_serves _ _ _).registry_eq (by simp) (by simp),
      (after_serves _ _ _).registry_eq (by simp) (by simp)]
    rfl
  have haccepts : Accepts (.maxAge 5) tripForm.key tripEntry [.register tripSurvey]
      (.submit "ann.trips" ⟨"t"⟩ .epoch tripBody) :=
    ⟨"ann.trips", tripBody, rfl, rfl, rfl, congrArg Prod.snd hserve⟩
  have hstanding : Standing (.maxAge 5) tripForm.key tripEntry tripRun := by
    refine standing_cons_iff.2 (.inr ⟨standing_cons_iff.2 (.inl haccepts), ?_⟩)
    rintro now ⟨_, _, ⟨⟩, _⟩ ⟨_, ⟨⟩, hexpired⟩
    exact absurd hexpired (by decide)
  exact ⟨hr, by decide, ((verify_after hr).1 _).2
    ⟨tripForm.key, _, tripEntry, rfl, hopen, hstanding, rfl, rfl⟩⟩

end Intake
end SurveyIntake
