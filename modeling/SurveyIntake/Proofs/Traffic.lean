import SurveyIntake.Proofs.Intake

/-!
# SurveyIntake.Proofs.Traffic

Requests that are served side by side. Each takes two steps, or one, and the steps of different requests
interleave in any order.

* `Task`          — a request on its way: what it has found out by its first step, or its answer.
* `Task.step`     — one step. It compiles, or looks a survey up, or changes the open surveys once, or the
  store by one statement.
* `Task.step_first` — two steps with nothing between them do what `Intake.serve` does.
* `Task.Changes`  — all that a step can change. Invariants of schedules are case analyses over it.
* `Traffic.after` — what is there after a schedule, which says whose turn it is. Schedules list their latest
  step first.
* `Traffic.Reached` — how far a request has come; every task is one of these after every schedule.
* `Traffic.intake_inTurn` — requests that do not interleave come to what `Intake.after` says.
-/

namespace SurveyIntake

/-- Opens the survey that a configuration has been compiled to, or closes the one under its key. -/
def Registry.install (r : Registry) (c : Configuration) :
    Except SurveyError Survey → Registry × Except SurveyError SurveyKey
  | .ok s => ({ r with surveys := r.surveys.insert s.key s }, .ok s.key)
  | .error e =>
    match c.key with
    | .ok key => ({ r with surveys := r.surveys.erase key }, .error e)
    | .error _ => (r, .error e)

theorem Registry.register_eq_install (r : Registry) (c : Configuration) :
    r.register c = r.install c (Survey.ofConfiguration c r.retention) := by
  unfold register install
  cases Survey.ofConfiguration c r.retention <;> rfl

/-- Checks the body of a request and stores the submission in it. -/
def Survey.receive (s : Survey) (token : Token) (now : Instant) (body : Json) (store : Store) :
    Except SurveyError (Receipt × Store) :=
  match Submission.ofBody body with
  | .error report => .error (.validation report)
  | .ok x => s.submit token now x store

/-- A request that waits, or is on its way with what it has found out, or is answered. -/
inductive Task where
  | waiting (r : Request)
  | compiled (c : Configuration) (made : Except SurveyError Survey)
  | submitting (s : Survey) (token : Token) (now : Instant) (body : Json)
  | verifying (s : Survey) (token : Token)
  | purging (s : Survey) (now : Instant)
  | answered (a : Answer)

namespace Task

/-- The first step of a request. -/
def first (i : Intake) : Request → Intake × Task
  | .register c => (i, .compiled c (Survey.ofConfiguration c i.registry.retention))
  | .unregister key =>
    let (registry, wasOpen) := i.registry.unregister key
    ({ i with registry := registry }, .answered (.unregistered wasOpen))
  | .submit survey token now body =>
    match i.registry.lookup survey with
    | .error e => (i, .answered (.refused e))
    | .ok s => (i, .submitting s token now body)
  | .verify survey token =>
    match i.registry.lookup survey with
    | .error e => (i, .answered (.refused e))
    | .ok s => (i, .verifying s token)
  | .purge survey now =>
    match i.registry.lookup survey with
    | .error e => (i, .answered (.refused e))
    | .ok s => (i, .purging s now)

/-- One step. The second one goes on with the survey that the first has found, even if it is closed by
then or there is another one under its key. -/
def step (i : Intake) : Task → Intake × Task
  | .waiting r => first i r
  | .compiled c made =>
    match i.registry.install c made with
    | (registry, .ok key) => ({ i with registry := registry }, .answered (.registered key))
    | (registry, .error e) => ({ i with registry := registry }, .answered (.refused e))
  | .submitting s token now body =>
    match s.receive token now body i.store with
    | .ok (receipt, store) => ({ i with store := store }, .answered (.received receipt))
    | .error e => (i, .answered (.refused e))
  | .verifying s token =>
    match s.verify token i.store with
    | .ok (identity, store) => ({ i with store := store }, .answered (.verified identity))
    | .error e => (i, .answered (.refused e))
  | .purging s now =>
    let (store, count) := s.purge now i.store
    ({ i with store := store }, .answered (.purged count))
  | .answered a => (i, .answered a)

/-- Two steps with nothing between them serve a request. -/
theorem step_first (i : Intake) (r : Request) :
    step (first i r).1 (first i r).2 = ((i.serve r).1, .answered (i.serve r).2) := by
  cases r with
  | register c =>
    simp only [first, step, Intake.serve, Registry.register_eq_install]
    generalize i.registry.install c _ = outcome
    obtain ⟨registry, result⟩ := outcome
    cases result <;> rfl
  | unregister key => rfl
  | submit survey token now body =>
    have hsubmit : i.registry.submit survey token now body i.store =
        match i.registry.lookup survey with
        | .error e => .error e
        | .ok s => s.receive token now body i.store := rfl
    simp only [first, Intake.serve, hsubmit]
    cases i.registry.lookup survey with
    | error e => rfl
    | ok s =>
      simp only [step]
      cases s.receive token now body i.store <;> rfl
  | verify survey token =>
    simp only [first, Intake.serve, Registry.verify]
    cases i.registry.lookup survey with
    | error e => rfl
    | ok s =>
      simp only [step]
      cases s.verify token i.store <;> rfl
  | purge survey now =>
    simp only [first, Intake.serve, Registry.purge]
    cases i.registry.lookup survey <;> rfl

/-- What has begun is answered by its next step. -/
theorem step_answers (i : Intake) {t : Task} (h : ∀ r, t ≠ .waiting r) :
    ∃ a, (step i t).2 = .answered a := by
  cases t with
  | waiting r => exact absurd rfl (h r)
  | compiled | submitting | verifying =>
    simp only [step]
    split <;> exact ⟨_, rfl⟩
  | purging | answered => exact ⟨_, rfl⟩

/-- All that a step can change: the task, and what is there after its step. -/
inductive Changes (i : Intake) : Task → Intake → Prop where
  | nothing {t : Task} : (∀ key, t ≠ .waiting (.unregister key)) → (∀ c made, t ≠ .compiled c made) →
      Changes i t i
  | closed {key : SurveyKey} :
      Changes i (.waiting (.unregister key)) (i.withSurveys (i.registry.surveys.erase key))
  | installed {c : Configuration} {made : Except SurveyError Survey} :
      Changes i (.compiled c made) (i.withSurveys (i.registry.install c made).1.surveys)
  | received {s : Survey} {token : Token} {now : Instant} {body : Json} {x : Submission} :
      Submission.ofBody body = .ok x → s.form.check x = [] → i.store.pending.find? token = none →
      Changes i (.submitting s token now body)
        (i.withPending (i.store.pending.insert token
          (PendingEntry.row s.key ⟨token, x.identity, now, x.answers⟩)))
  | verified {s : Survey} {token : Token} {row : PendingRow} :
      i.store.pendingRow? s.key.text token = some row →
      Changes i (.verifying s token)
        { i with store := i.store.upsertVerified s.key.text row.identity ⟨row.millis, row.answers⟩ }
  | purged {s : Survey} {now : Instant} :
      Changes i (.purging s now) { i with store := (s.purge now i.store).1 }

theorem changes_waiting (i : Intake) (r : Request) : Changes i (.waiting r) (first i r).1 := by
  cases r with
  | register c => exact .nothing (by simp) (by simp)
  | unregister key => exact .closed
  | submit survey | verify survey | purge survey =>
    simp only [first]
    cases i.registry.lookup survey <;> exact .nothing (by simp) (by simp)

theorem changes_compiled (i : Intake) (c : Configuration) (made : Except SurveyError Survey) :
    Changes i (.compiled c made) (step i (.compiled c made)).1 := by
  have hstep : (step i (.compiled c made)).1 =
      i.withSurveys (i.registry.install c made).1.surveys := by
    simp only [step, Registry.install, Intake.withSurveys]
    cases made with
    | ok s => rfl
    | error e => cases c.key <;> rfl
  rw [hstep]
  exact .installed

theorem changes_submitting (i : Intake) (s : Survey) (token : Token) (now : Instant) (body : Json) :
    Changes i (.submitting s token now body) (step i (.submitting s token now body)).1 := by
  have hnothing : Changes i (.submitting s token now body) i := .nothing (by simp) (by simp)
  simp only [step, Survey.receive]
  cases hx : Submission.ofBody body with
  | error report => exact hnothing
  | ok x =>
    simp only [Survey.submit]
    cases hr : s.form.check x with
    | cons v report => exact hnothing
    | nil =>
      simp only [Store.insertEntry]
      cases hinsert : i.store.insertPending token _ with
      | error e => exact hnothing
      | ok store =>
        obtain ⟨hnew, rfl⟩ := Store.insertPending_eq_ok_iff.1 hinsert
        exact .received hx hr hnew

theorem changes_verifying (i : Intake) (s : Survey) (token : Token) :
    Changes i (.verifying s token) (step i (.verifying s token)).1 := by
  simp only [step, Survey.verify, Store.promote]
  cases hrow : i.store.pendingRow? s.key.text token with
  | none => exact .nothing (by simp) (by simp)
  | some row => exact .verified hrow

theorem step_changes (i : Intake) (t : Task) : Changes i t (step i t).1 := by
  cases t with
  | waiting r => exact changes_waiting i r
  | compiled c made => exact changes_compiled i c made
  | submitting s token now body => exact changes_submitting i s token now body
  | verifying s token => exact changes_verifying i s token
  | purging s now => exact .purged
  | answered a => exact .nothing (by simp) (by simp)

theorem Changes.retention_eq {i i' : Intake} {t : Task} (h : Changes i t i') :
    i'.registry.retention = i.registry.retention := by
  cases h <;> rfl

/-- A request that has found its survey. -/
inductive Found (survey : String) (s : Survey) : Request → Task → Prop where
  | submit {token : Token} {now : Instant} {body : Json} :
      Found survey s (.submit survey token now body) (.submitting s token now body)
  | verify {token : Token} : Found survey s (.verify survey token) (.verifying s token)
  | purge {now : Instant} : Found survey s (.purge survey now) (.purging s now)

end Task

structure Traffic where
  intake : Intake
  tasks : List Task

namespace Traffic

/-- All requests wait, there are no surveys, and the store is empty. -/
def start (retention : Retention) (requests : List Request) : Traffic :=
  ⟨.start retention, requests.map .waiting⟩

/-- One step of the task with this number, if there is one. -/
def advance (t : Traffic) (n : Nat) : Traffic :=
  match t.tasks[n]? with
  | none => t
  | some task => ⟨(task.step t.intake).1, t.tasks.set n (task.step t.intake).2⟩

def after (retention : Retention) (requests : List Request) : List Nat → Traffic
  | [] => start retention requests
  | n :: past => (after retention requests past).advance n

section Steps

variable {retention : Retention} {requests : List Request} {n : Nat} {past : List Nat}

theorem after_of_task {t : Task} (ht : (after retention requests past).tasks[n]? = some t) :
    after retention requests (n :: past) =
      ⟨(t.step (after retention requests past).intake).1,
        (after retention requests past).tasks.set n (t.step (after retention requests past).intake).2⟩ := by
  simp only [after, advance, ht]

theorem tasks_after_of_ne {m : Nat} (hmn : m ≠ n) :
    (after retention requests (m :: past)).tasks[n]? = (after retention requests past).tasks[n]? := by
  simp only [after, advance]
  split
  · rfl
  · exact List.getElem?_set_ne hmn

theorem retention_after (past : List Nat) :
    (after retention requests past).intake.registry.retention = retention := by
  induction past with
  | nil => rfl
  | cons m past ih =>
    simp only [after, advance]
    split
    · exact ih
    · rw [(Task.step_changes _ _).retention_eq, ih]

end Steps

/-! ## How far requests have come -/

/-- The request with this number waits, or has compiled its configuration, or has found its survey at its
first step, or is answered. -/
inductive Reached (retention : Retention) (requests : List Request) (n : Nat) (past : List Nat) :
    Request → Task → Prop where
  | waiting {r : Request} : past.count n = 0 → Reached retention requests n past r (.waiting r)
  | compiled {c : Configuration} : past.count n = 1 →
      Reached retention requests n past (.register c) (.compiled c (Survey.ofConfiguration c retention))
  | found {r : Request} {t : Task} {survey : String} {s : Survey} {before : List Nat} :
      Task.Found survey s r t → n ∉ before → (n :: before) <:+ past →
      (after retention requests before).intake.registry.lookup survey = .ok s →
      Reached retention requests n past r t
  | answered {r : Request} {a : Answer} : 0 < past.count n →
      (∀ c, r = .register c → 1 < past.count n) → Reached retention requests n past r (.answered a)

section Reached

variable {retention : Retention} {requests : List Request} {n : Nat} {r : Request} {t : Task}
  {past : List Nat}

theorem reached_first (r : Request) (hcount : past.count n = 0) :
    Reached retention requests n (n :: past) r
      (Task.first (after retention requests past).intake r).2 := by
  have hnew : n ∉ past := List.count_eq_zero.1 hcount
  have hone : (n :: past).count n = 1 := by rw [List.count_cons_self, hcount]
  cases r with
  | register c =>
    simp only [Task.first, retention_after]
    exact .compiled hone
  | unregister key => exact .answered (by omega) (by simp)
  | submit survey | verify survey | purge survey =>
    simp only [Task.first]
    cases hs : (after retention requests past).intake.registry.lookup survey with
    | error e => exact .answered (by omega) (by simp)
    | ok s => exact .found (by constructor) hnew List.suffix_rfl hs

/-- What a step of the request itself makes of how far it has come. -/
theorem Reached.step (h : Reached retention requests n past r t) :
    Reached retention requests n (n :: past) r
      (t.step (after retention requests past).intake).2 := by
  have hpos : 0 < (n :: past).count n := by rw [List.count_cons_self]; omega
  cases h with
  | waiting hcount => exact reached_first r hcount
  | compiled hcount =>
    obtain ⟨a, ha⟩ := Task.step_answers (after retention requests past).intake
      (t := .compiled _ _) (by simp)
    rw [ha]
    exact .answered hpos fun _ _ => by rw [List.count_cons_self]; omega
  | found hfound =>
    obtain ⟨a, ha⟩ := Task.step_answers (after retention requests past).intake (t := t)
      (by cases hfound <;> simp)
    rw [ha]
    exact .answered hpos (by cases hfound <;> simp)
  | answered _ hregister =>
    exact .answered hpos fun c hc => by rw [List.count_cons_self]; have := hregister c hc; omega

/-- A step of another request leaves it where it is. -/
theorem Reached.step_of_ne {m : Nat} (hmn : m ≠ n) (h : Reached retention requests n past r t) :
    Reached retention requests n (m :: past) r t := by
  have hcount : (m :: past).count n = past.count n := List.count_cons_of_ne hmn
  cases h with
  | waiting h => exact .waiting (hcount.trans h)
  | compiled h => exact .compiled (hcount.trans h)
  | found hfound hnew hsuffix hs =>
    exact .found hfound hnew (hsuffix.trans (List.suffix_cons m past)) hs
  | answered h hregister => exact .answered (by rwa [hcount]) (by rwa [hcount])

/-- Every request has come to some point. -/
theorem exists_reached (hr : requests[n]? = some r) (past : List Nat) :
    ∃ t, (after retention requests past).tasks[n]? = some t ∧
      Reached retention requests n past r t := by
  induction past with
  | nil => exact ⟨.waiting r, by simp [after, start, hr], .waiting rfl⟩
  | cons m past ih =>
    obtain ⟨t, ht, hreached⟩ := ih
    by_cases hmn : m = n
    · subst hmn
      have hlt := (List.getElem?_eq_some_iff.1 ht).1
      rw [after_of_task ht]
      exact ⟨_, List.getElem?_set_self hlt, hreached.step⟩
    · rw [tasks_after_of_ne hmn]
      exact ⟨t, ht, hreached.step_of_ne hmn⟩

/-- A request that takes its steps one right after the other is served. -/
theorem intake_uninterrupted (hr : requests[n]? = some r) (hnew : n ∉ past) :
    (after retention requests (n :: n :: past)).intake =
      ((after retention requests past).intake.serve r).1 := by
  obtain ⟨t, ht, hreached⟩ := @exists_reached retention requests n r hr past
  have hwaiting : t = .waiting r := by
    have hcount : past.count n = 0 := List.count_eq_zero.2 hnew
    cases hreached with
    | waiting => rfl
    | compiled h => omega
    | found _ _ hsuffix _ => exact absurd (hsuffix.subset List.mem_cons_self) hnew
    | answered h => omega
  subst hwaiting
  have hfirst := after_of_task ht
  have hlt := (List.getElem?_eq_some_iff.1 ht).1
  have hsecond : (after retention requests (n :: past)).tasks[n]? =
      some (Task.first (after retention requests past).intake r).2 := by
    rw [hfirst]
    exact List.getElem?_set_self hlt
  rw [after_of_task hsecond, hfirst]
  exact congrArg Prod.fst (Task.step_first _ r)

/-- The schedule in which the first `n` requests take their steps one after the other. -/
def inTurn : Nat → List Nat
  | 0 => []
  | n + 1 => n :: n :: inTurn n

theorem lt_of_mem_inTurn {m : Nat} (h : m ∈ inTurn n) : m < n := by
  induction n with
  | zero => cases h
  | succ n ih =>
    simp only [inTurn, List.mem_cons] at h
    rcases h with rfl | rfl | h
    · exact Nat.lt_succ_self _
    · exact Nat.lt_succ_self _
    · exact Nat.lt_succ_of_lt (ih h)

/-- Requests that are served in turn come to what a run of them does. -/
theorem intake_inTurn (hn : n ≤ requests.length) :
    (after retention requests (inTurn n)).intake =
      Intake.after retention (requests.take n).reverse := by
  induction n with
  | zero => rfl
  | succ n ih =>
    have hr : requests[n]? = some requests[n] := List.getElem?_eq_getElem hn
    have hnew : n ∉ inTurn n := fun h => Nat.lt_irrefl n (lt_of_mem_inTurn h)
    rw [inTurn, intake_uninterrupted hr hnew, ih (Nat.le_of_succ_le hn), List.take_add_one, hr,
      Option.toList_some, List.reverse_append]
    rfl

end Reached

end Traffic
end SurveyIntake
