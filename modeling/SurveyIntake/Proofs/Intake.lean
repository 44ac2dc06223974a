import SurveyIntake.Proofs.Store
import SurveyIntake.Proofs.SurveyKey
import SurveyIntake.Registry

/-!
# SurveyIntake.Proofs.Intake

Runs of requests to a registry and its store.

* `Intake.serve`  — what a request makes of both, and its answer.
* `Intake.after`  — both after a run, from no surveys and an empty store. Runs list their latest request first.
* `Intake.Serves` — all that one request can do. Invariants of runs are case analyses over it.
* `Intake.Keyed`  — every open survey is under its own key, which holds after every run.
-/

namespace SurveyIntake

theorem eq_ok_of_toOption {ε α : Type} {x : Except ε α} {a : α} (h : x.toOption = some a) : x = .ok a := by
  cases x with
  | error e => cases h
  | ok b => rw [Option.some.inj h]

structure Intake where
  registry : Registry
  store : Store

inductive Request where
  | register (c : Configuration)
  | unregister (key : SurveyKey)
  | submit (survey : String) (token : Token) (now : Instant) (body : Json)
  | verify (survey : String) (token : Token)
  | purge (survey : String) (now : Instant)

inductive Answer where
  | registered (key : SurveyKey)
  | unregistered (wasOpen : Bool)
  | received (receipt : Receipt)
  | verified (identity : String)
  | purged (count : Nat)
  | refused (cause : SurveyError)

namespace Intake

/-- No surveys, and an empty store. -/
def start (retention : Retention) : Intake := ⟨.empty retention, .empty⟩

/-- Replaces the open surveys. -/
def withSurveys (i : Intake) (surveys : Table SurveyKey Survey) : Intake :=
  { i with registry := { i.registry with surveys := surveys } }

/-- Replaces the pending rows. -/
def withPending (i : Intake) (pending : Table Token PendingRow) : Intake :=
  { i with store := { i.store with pending := pending } }

def serve (i : Intake) : Request → Intake × Answer
  | .register c =>
    match i.registry.register c with
    | (registry, .ok key) => ({ i with registry := registry }, .registered key)
    | (registry, .error e) => ({ i with registry := registry }, .refused e)
  | .unregister key =>
    let (registry, wasOpen) := i.registry.unregister key
    ({ i with registry := registry }, .unregistered wasOpen)
  | .submit survey token now body =>
    match i.registry.submit survey token now body i.store with
    | .ok (receipt, store) => ({ i with store := store }, .received receipt)
    | .error e => (i, .refused e)
  | .verify survey token =>
    match i.registry.verify survey token i.store with
    | .ok (identity, store) => ({ i with store := store }, .verified identity)
    | .error e => (i, .refused e)
  | .purge survey now =>
    match i.registry.purge survey now i.store with
    | .ok (store, count) => ({ i with store := store }, .purged count)
    | .error e => (i, .refused e)

def after (retention : Retention) : List Request → Intake
  | [] => start retention
  | r :: past => ((after retention past).serve r).1

/-- The answer to a request that comes after some others. -/
def reply (retention : Retention) (past : List Request) (r : Request) : Answer :=
  ((after retention past).serve r).2

/-- All that a request can do: the request, what is there after it, and the answer. -/
inductive Serves (i : Intake) : Request → Intake → Answer → Prop where
  | opened {c : Configuration} {form : Form} : c.compile = .ok form →
      Serves i (.register c)
        (i.withSurveys (i.registry.surveys.insert form.key ⟨form, i.registry.retention⟩))
        (.registered form.key)
  | withdrawn {c : Configuration} {e : ConfigurationError} {key : SurveyKey} :
      c.compile = .error e → c.key = .ok key →
      Serves i (.register c) (i.withSurveys (i.registry.surveys.erase key)) (.refused (.configuration e))
  | unkeyed {c : Configuration} {e : ConfigurationError} {e' : KeyError} :
      c.compile = .error e → c.key = .error e' →
      Serves i (.register c) i (.refused (.configuration e))
  | closed {key : SurveyKey} :
      Serves i (.unregister key) (i.withSurveys (i.registry.surveys.erase key))
        (.unregistered (i.registry.surveys.contains key))
  | received {survey : String} {token : Token} {now : Instant} {body : Json} {s : Survey}
      {x : Submission} :
      i.registry.lookup survey = .ok s → Submission.ofBody body = .ok x → s.form.check x = [] →
      i.store.pending.find? token = none →
      Serves i (.submit survey token now body)
        (i.withPending (i.store.pending.insert token
          (PendingEntry.row s.key ⟨token, x.identity, now, x.answers⟩)))
        (.received ⟨token, now⟩)
  | taken {survey : String} {token : Token} {now : Instant} {body : Json} {s : Survey}
      {x : Submission} {row : PendingRow} :
      i.registry.lookup survey = .ok s → Submission.ofBody body = .ok x → s.form.check x = [] →
      i.store.pending.find? token = some row →
      Serves i (.submit survey token now body) i (.refused (.store .refused))
  | rejected {survey : String} {token : Token} {now : Instant} {body : Json} {s : Survey}
      {x : Submission} :
      i.registry.lookup survey = .ok s → Submission.ofBody body = .ok x → s.form.check x ≠ [] →
      Serves i (.submit survey token now body) i (.refused (.validation (s.form.check x)))
  | malformed {survey : String} {token : Token} {now : Instant} {body : Json} {s : Survey}
      {report : Report} :
      i.registry.lookup survey = .ok s → Submission.ofBody body = .error report →
      Serves i (.submit survey token now body) i (.refused (.validation report))
  | submitUnknown {survey : String} {token : Token} {now : Instant} {body : Json} {e : SurveyError} :
      i.registry.lookup survey = .error e → Serves i (.submit survey token now body) i (.refused e)
  | verified {survey : String} {token : Token} {s : Survey} {row : PendingRow} :
      i.registry.lookup survey = .ok s → i.store.pendingRow? s.key.text token = some row →
      Serves i (.verify survey token)
        { i with store := i.store.upsertVerified s.key.text row.identity ⟨row.millis, row.answers⟩ }
        (.verified row.identity)
  | unverified {survey : String} {token : Token} {s : Survey} :
      i.registry.lookup survey = .ok s → i.store.pendingRow? s.key.text token = none →
      Serves i (.verify survey token) i (.refused (.unknownToken token.text))
  | verifyUnknown {survey : String} {token : Token} {e : SurveyError} :
      i.registry.lookup survey = .error e → Serves i (.verify survey token) i (.refused e)
  | purged {survey : String} {now : Instant} {s : Survey} :
      i.registry.lookup survey = .ok s →
      Serves i (.purge survey now) { i with store := (s.purge now i.store).1 }
        (.purged (s.purge now i.store).2)
  | purgeUnknown {survey : String} {now : Instant} {e : SurveyError} :
      i.registry.lookup survey = .error e → Serves i (.purge survey now) i (.refused e)

theorem serve_register (i : Intake) (c : Configuration) :
    Serves i (.register c) (i.serve (.register c)).1 (i.serve (.register c)).2 := by
  simp only [serve, Registry.register, Survey.ofConfiguration]
  cases hc : c.compile with
  | ok form => exact .opened hc
  | error e =>
    cases hk : c.key with
    | ok key => exact .withdrawn hc hk
    | error e' => exact .unkeyed hc hk

theorem serve_submit (i : Intake) (survey : String) (token : Token) (now : Instant) (body : Json) :
    Serves i (.submit survey token now body) (i.serve (.submit survey token now body)).1
      (i.serve (.submit survey token now body)).2 := by
  simp only [serve, Registry.submit]
  cases hs : i.registry.lookup survey with
  | error e => exact .submitUnknown hs
  | ok s =>
    simp only
    cases hx : Submission.ofBody body with
    | error report => exact .malformed hs hx
    | ok x =>
      simp only [Survey.submit]
      cases hr : s.form.check x with
      | cons v report =>
        have hn : s.form.check x ≠ [] := by rw [hr]; exact List.cons_ne_nil _ _
        have := @Serves.rejected i survey token now body s x hs hx hn
        simpa only [hr] using this
      | nil =>
        simp only [Store.insertEntry]
        cases hf : i.store.pending.find? token with
        | some row =>
          simp only [Store.insertPending, Table.contains, hf, Option.isSome_some, if_true]
          exact .taken hs hx hr hf
        | none =>
          rw [Store.insertPending_eq_ok_iff.2 ⟨hf, rfl⟩]
          exact .received hs hx hr hf

theorem serve_verify (i : Intake) (survey : String) (token : Token) :
    Serves i (.verify survey token) (i.serve (.verify survey token)).1
      (i.serve (.verify survey token)).2 := by
  simp only [serve, Registry.verify]
  cases hs : i.registry.lookup survey with
  | error e => exact .verifyUnknown hs
  | ok s =>
    simp only [Survey.verify, Store.promote]
    cases hr : i.store.pendingRow? s.key.text token with
    | none => exact .unverified hs hr
    | some row => exact .verified hs hr

theorem serve_purge (i : Intake) (survey : String) (now : Instant) :
    Serves i (.purge survey now) (i.serve (.purge survey now)).1 (i.serve (.purge survey now)).2 := by
  simp only [serve, Registry.purge]
  cases hs : i.registry.lookup survey with
  | error e => exact .purgeUnknown hs
  | ok s => exact .purged hs

theorem serve_serves (i : Intake) (r : Request) : Serves i r (i.serve r).1 (i.serve r).2 := by
  cases r with
  | register c => exact i.serve_register c
  | unregister key => exact .closed
  | submit survey token now body => exact i.serve_submit survey token now body
  | verify survey token => exact i.serve_verify survey token
  | purge survey now => exact i.serve_purge survey now

theorem after_serves (retention : Retention) (past : List Request) (r : Request) :
    Serves (after retention past) r (after retention (r :: past)) (reply retention past r) :=
  serve_serves _ r

/-! ## Surveys under their keys -/

def Keyed (i : Intake) : Prop :=
  ∀ key s, i.registry.surveys.find? key = some s → s.key = key

theorem Serves.keyed {i i' : Intake} {r : Request} {a : Answer} (h : Serves i r i' a) (hi : Keyed i) :
    Keyed i' := by
  cases h with
  | opened _ =>
    intro key s hs
    simp only [withSurveys, Table.find?_insert] at hs
    split at hs
    · rename_i hk
      cases hs
      exact hk.symm
    · exact hi key s hs
  | withdrawn _ _ | closed =>
    intro key s hs
    simp only [withSurveys, Table.find?_erase] at hs
    split at hs
    · cases hs
    · exact hi key s hs
  | _ => exact hi

theorem after_keyed (retention : Retention) (past : List Request) : Keyed (after retention past) := by
  induction past with
  | nil => intro key s hs; cases hs
  | cons r past ih => exact (after_serves retention past r).keyed ih

end Intake

namespace Registry

theorem lookup_eq_ok_iff {r : Registry} {survey : String} {s : Survey} :
    r.lookup survey = .ok s ↔
      ∃ key, SurveyKey.parse survey = .ok key ∧ r.surveys.find? key = some s := by
  unfold lookup get
  cases hk : SurveyKey.parse survey with
  | error e => simp
  | ok key => cases hs : r.surveys.find? key <;> simp [hs]

end Registry

/-- A survey that is found by a text is found by the text of its own key. -/
theorem Intake.Keyed.text_of_lookup {i : Intake} (hi : i.Keyed) {survey : String} {s : Survey}
    (h : i.registry.lookup survey = .ok s) : s.key.text = survey := by
  obtain ⟨key, hkey, hs⟩ := Registry.lookup_eq_ok_iff.1 h
  rw [hi key s hs]
  exact SurveyKey.text_of_parse hkey

/-- The text is that of the survey's key. -/
theorem Intake.Keyed.parse_of_lookup {i : Intake} (hi : i.Keyed) {survey : String} {s : Survey}
    (h : i.registry.lookup survey = .ok s) : SurveyKey.parse survey = .ok s.key := by
  rw [← hi.text_of_lookup h]
  exact SurveyKey.parse_text s.key

end SurveyIntake
