import SurveyIntake.Proofs.ByteOrder
import SurveyIntake.Proofs.InFlight
import SurveyIntake.Proofs.Pending

/-!
# SurveyIntake.Proofs.Registration

Which surveys are open after a run.

* `Request.Concerns`        — a registration under a key, whether or not it succeeds, or the end of one.
* `Intake.LastConcerning`   — the last request of a run that concerns a key.
* `Intake.find?_after_iff`  — what is open under a key is what that request has opened.
* `Intake.registry_after`   — so the registry serves the last configuration of each key, if it compiled.
-/

namespace SurveyIntake

namespace Request

/-- What is open under the key from then on is decided by the request. -/
def Concerns (key : SurveyKey) : Request → Prop
  | .register c => c.key = .ok key
  | .unregister k => k = key
  | _ => False

/-- The survey that a request opens under the key that it concerns. -/
def opens? (retention : Retention) : Request → Option Survey
  | .register c => c.survey? retention
  | _ => none

theorem opens?_eq_some_iff {retention : Retention} {r : Request} {s : Survey} :
    r.opens? retention = some s ↔
      ∃ c form, r = .register c ∧ c.compile = .ok form ∧ s = ⟨form, retention⟩ := by
  obtain ⟨form, kept⟩ := s
  cases r with
  | register c =>
    rw [opens?, Configuration.survey?_eq_some_iff]
    simp [eq_comm]
  | _ => simp [opens?]

end Request

namespace Intake

/-- The request is the last one of a run that concerns the key. -/
def LastConcerning (key : SurveyKey) (past : List Request) (r : Request) : Prop :=
  ∃ since before, past = since ++ r :: before ∧ r.Concerns key ∧ ∀ q ∈ since, ¬q.Concerns key

section Step

variable {i i' : Intake} {r : Request} {a : Answer} {key : SurveyKey}

theorem Serves.find?_of_concerns (h : Serves i r i' a) (hr : r.Concerns key) :
    i'.registry.surveys.find? key = r.opens? i.registry.retention := by
  cases h with
  | @opened c form hc =>
    obtain rfl : form.key = key :=
      Except.ok.inj ((Configuration.compile_eq_ok_iff.1 hc).1.symm.trans hr)
    rw [withSurveys, Table.find?_insert, if_pos rfl]
    exact (Configuration.survey?_eq_some_iff.2 ⟨hc, rfl⟩).symm
  | @withdrawn c e k hc hk =>
    obtain rfl : k = key := Except.ok.inj (hk.symm.trans hr)
    rw [withSurveys, Table.find?_erase, if_pos rfl]
    simp [Request.opens?, Configuration.survey?, Survey.ofConfiguration, hc, Except.toOption]
  | unkeyed _ hk => cases hk.symm.trans hr
  | closed =>
    obtain rfl := hr
    rw [withSurveys, Table.find?_erase, if_pos rfl]
    rfl
  | _ => exact absurd hr id

theorem Serves.find?_of_not_concerns (h : Serves i r i' a) (hr : ¬r.Concerns key) :
    i'.registry.surveys.find? key = i.registry.surveys.find? key := by
  cases h with
  | opened hc =>
    rw [withSurveys, Table.find?_insert, if_neg]
    rintro rfl
    exact hr (Configuration.compile_eq_ok_iff.1 hc).1
  | withdrawn _ hk =>
    rw [withSurveys, Table.find?_erase, if_neg]
    rintro rfl
    exact hr hk
  | closed =>
    rw [withSurveys, Table.find?_erase, if_neg]
    rintro rfl
    exact hr rfl
  | _ => rfl

end Step

section Run

variable {retention : Retention} {past : List Request} {r q : Request} {key : SurveyKey} {s : Survey}

theorem not_lastConcerning_nil : ¬LastConcerning key [] q := by
  rintro ⟨since, before, h, _⟩
  cases since <;> cases h

theorem lastConcerning_cons_of_concerns (hr : r.Concerns key) :
    LastConcerning key (r :: past) q ↔ q = r := by
  constructor
  · rintro ⟨since, before, hpast, _, hnone⟩
    cases since with
    | nil =>
      cases hpast
      rfl
    | cons p since =>
      cases hpast
      exact absurd hr (hnone _ List.mem_cons_self)
  · rintro rfl
    exact ⟨[], past, rfl, hr, by simp⟩

theorem lastConcerning_cons_of_not_concerns (hr : ¬r.Concerns key) :
    LastConcerning key (r :: past) q ↔ LastConcerning key past q := by
  constructor
  · rintro ⟨since, before, hpast, hq, hnone⟩
    cases since with
    | nil =>
      cases hpast
      exact absurd hq hr
    | cons p since =>
      cases hpast
      exact ⟨since, before, rfl, hq, fun q hmem => hnone q (List.mem_cons_of_mem _ hmem)⟩
  · rintro ⟨since, before, rfl, hq, hnone⟩
    refine ⟨r :: since, before, rfl, hq, fun p hp => ?_⟩
    rcases List.mem_cons.1 hp with rfl | hp
    · exact hr
    · exact hnone p hp

/-- What is open under a key is what the last request that concerns it has opened. -/
theorem find?_after_iff : (after retention past).registry.surveys.find? key = some s ↔
    ∃ r, LastConcerning key past r ∧ r.opens? retention = some s := by
  induction past with
  | nil =>
    refine iff_of_false (by rintro ⟨⟩) ?_
    rintro ⟨r, hlast, _⟩
    exact not_lastConcerning_nil hlast
  | cons r past ih =>
    have hserves := after_serves retention past r
    by_cases hr : r.Concerns key
    · rw [hserves.find?_of_concerns hr, after_retention]
      simp [lastConcerning_cons_of_concerns hr]
    · rw [hserves.find?_of_not_concerns hr, ih]
      simp only [lastConcerning_cons_of_not_concerns hr]

end Run

end Intake

namespace Registry

variable {r : Registry} {key : SurveyKey}

theorem get_eq_ok_iff {s : Survey} : r.get key = .ok s ↔ r.surveys.find? key = some s := by
  unfold get
  cases r.surveys.find? key <;> simp

theorem lookup_text : r.lookup key.text = r.get key := by
  rw [lookup, SurveyKey.parse_text]

theorem mem_keys_iff : key ∈ r.keys ↔ ∃ s, r.surveys.find? key = some s :=
  Assoc.exists_find?_iff.symm

/-- The keys are in strictly ascending order, by the bytes of the account first and then by those of the
survey. -/
theorem pairwise_keys (r : Registry) :
    r.keys.Pairwise fun k l => utf8Bytes k.adminName < utf8Bytes l.adminName ∨
      k.adminName = l.adminName ∧ utf8Bytes k.surveyName < utf8Bytes l.surveyName := by
  simp only [utf8Bytes_lt_iff]
  exact r.surveys.ascending

end Registry

namespace Intake

/-- **The registry serves the last valid configuration of each key.** After any run a key is open just if the
last request that concerns it registers a configuration that compiles, and what is open is the survey of that
configuration. The keys are exactly the open ones, in the order of their bytes; by one of them, or by its
text, its survey is found, and by no other key; closing it says whether it was open. A configuration without a
key changes nothing. -/
theorem registry_after (retention : Retention) (past : List Request) :
    (∀ key s, (after retention past).registry.get key = .ok s ↔
      ∃ c form, LastConcerning key past (.register c) ∧ c.compile = .ok form ∧
        s = ⟨form, retention⟩) ∧
    (∀ key, key ∈ (after retention past).registry.keys ↔
      ∃ c form, LastConcerning key past (.register c) ∧ c.compile = .ok form) ∧
    ((after retention past).registry.keys.Pairwise fun k l =>
      utf8Bytes k.adminName < utf8Bytes l.adminName ∨
        k.adminName = l.adminName ∧ utf8Bytes k.surveyName < utf8Bytes l.surveyName) ∧
    (∀ key, (∃ s, (after retention past).registry.get key = .ok s) ↔
      key ∈ (after retention past).registry.keys) ∧
    (∀ key : SurveyKey, (after retention past).registry.lookup key.text =
      (after retention past).registry.get key) ∧
    (∀ key, reply retention past (.unregister key) =
      .unregistered (decide (key ∈ (after retention past).registry.keys))) ∧
    ∀ c e, c.key = .error e → after retention (.register c :: past) = after retention past := by
  have hget : ∀ key s, (after retention past).registry.get key = .ok s ↔
      ∃ c form, LastConcerning key past (.register c) ∧ c.compile = .ok form ∧
        s = ⟨form, retention⟩ := by
    intro key s
    rw [Registry.get_eq_ok_iff, find?_after_iff]
    simp only [Request.opens?_eq_some_iff]
    constructor
    · rintro ⟨r, hlast, c, form, rfl, hc, hs⟩
      exact ⟨c, form, hlast, hc, hs⟩
    · rintro ⟨c, form, hlast, hc, hs⟩
      exact ⟨_, hlast, c, form, rfl, hc, hs⟩
  have hkeys : ∀ key, (∃ s, (after retention past).registry.get key = .ok s) ↔
      key ∈ (after retention past).registry.keys := by
    intro key
    simp only [Registry.mem_keys_iff, Registry.get_eq_ok_iff]
  refine ⟨hget, fun key => ?_, Registry.pairwise_keys _, hkeys, fun _ => Registry.lookup_text,
    fun key => ?_, fun c e hc => ?_⟩
  · rw [← hkeys key]
    simp only [hget]
    constructor
    · rintro ⟨s, c, form, hlast, hc, _⟩
      exact ⟨c, form, hlast, hc⟩
    · rintro ⟨c, form, hlast, hc⟩
      exact ⟨_, c, form, hlast, hc, rfl⟩
  · have hopen : (after retention past).registry.surveys.contains key =
        decide (key ∈ (after retention past).registry.keys) := by
      rw [Bool.eq_iff_iff, decide_eq_true_eq, Registry.mem_keys_iff, Table.contains, Option.isSome_iff_exists]
    rw [← hopen]
    rfl
  · have hserves := after_serves retention past (.register c)
    generalize after retention (.register c :: past) = i' at hserves
    generalize reply retention past (.register c) = a at hserves
    cases hserves with
    | opened hcompile => cases hc.symm.trans (Configuration.compile_eq_ok_iff.1 hcompile).1
    | withdrawn _ hk => cases hc.symm.trans hk
    | unkeyed => rfl

end Intake
end SurveyIntake
