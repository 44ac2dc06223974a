import SurveyIntake.Command.Run
import SurveyIntake.Proofs.Databases
import SurveyIntake.Proofs.Grouping

/-!
# SurveyIntake.Proofs.Outcomes

What comes of a command.

* `Report.mem_members_iff` — a report as an object: the messages for each path that is in it.
* `Command.Service`        — the surveys and the store that a command gets to.
* `Command.Succeeds`, `Command.Rejected` — what a command is about is done, or the surveys refuse a submission.
* `Command.Sent`           — a request to a service, which may be out of reach.
* `Command.run_ends`       — every command ends as one of these says, and does nothing where it does not succeed.
-/

namespace SurveyIntake

/-! ## Reports as objects -/

namespace Report

variable {path : String} {r : Report}

/-- The members of a report as an object. -/
def members (r : Report) : List (String × Json) :=
  r.byPath.entries.map fun g => (g.1, .array (g.2.map .string))

end Report

/-! ## Services -/

namespace Command

/-- The surveys of a service, and the store in its database, which is opened in one way or the other. -/
inductive Service (home : Path) (files : Files) (opening : Path → Files → Files.Opening) :
    Registry → Store → Prop where
  | opened {s : Settings} {place : Place} {after : Files} {r : Registry} :
      settings home files = .ok s → opening s.database files = (.ok place, after) →
      Registry.ofDirectory s.retention s.surveys after = .ok r →
      Service home files opening r (after.store place)

/-- What a command is about is done. -/
inductive Succeeds (home : Path) (now : Instant) (token : Token) (files : Files) : Command → Prop where
  | check {p : Path} {text : String} {c : Configuration} {form : Form} :
      files.text? p = some text → Configuration.ofJsonText text = .ok c → c.compile = .ok form →
      Succeeds home now token files (.check p)
  | submit {survey : String} {p : Path} {b : Json} {r : Registry} {store after : Store} {receipt : Receipt} :
      body p files = .ok b → Service home files Files.createDatabase r store →
      r.submit survey token now b store = .ok (receipt, after) →
      Succeeds home now token files (.submit survey p)
  | verify {survey text identity : String} {r : Registry} {store after : Store} :
      Service home files Files.openDatabase r store → r.verify survey ⟨text⟩ store = .ok (identity, after) →
      Succeeds home now token files (.verify survey text)
  | purge {survey : String} {r : Registry} {store after : Store} {count : Nat} :
      Service home files Files.openDatabase r store → r.purge survey now store = .ok (after, count) →
      Succeeds home now token files (.purge survey)

/-- The surveys find a submission to be wrong, and report on it. -/
inductive Rejected (home : Path) (now : Instant) (token : Token) (files : Files) :
    Command → Report → Prop where
  | submit {survey : String} {p : Path} {b : Json} {r : Registry} {store : Store} {report : Report} :
      body p files = .ok b → Service home files Files.createDatabase r store →
      r.submit survey token now b store = .error (.validation report) →
      Rejected home now token files (.submit survey p) report

variable {home : Path} {now : Instant} {token : Token} {files after : Files}
  {opening : Path → Files → Files.Opening} {request : Request} {r : Registry} {store : Store}

theorem Service.unique {r' : Registry} {store' : Store} (h : Service home files opening r store)
    (h' : Service home files opening r' store') : r = r' ∧ store = store' := by
  obtain ⟨hs, hopen, hr⟩ := h
  obtain ⟨hs', hopen', hr'⟩ := h'
  cases hs.symm.trans hs'
  cases hopen.symm.trans hopen'
  cases hr.symm.trans hr'
  exact ⟨rfl, rfl⟩

/-- Opens a service and sends a request to it. The database that cannot be opened makes the error. -/
def sendTo (home : Path) (opening : Path → Files → Files.Opening) (unopened : Path → CommandError)
    (request : Request) (files : Files) : Outcome × Files :=
  match settings home files with
  | .error e => (.failure e, files)
  | .ok s =>
    match opening s.database files with
    | (.error _, files) => (.failure (unopened s.database), files)
    | (.ok place, files) => send s place request files

/-- What comes of it. -/
inductive Sent (home : Path) (files : Files) (opening : Path → Files → Files.Opening)
    (request : Request) : Outcome × Files → Prop where
  /-- No service can be opened. -/
  | unreached {e : CommandError} {after : Files} : (∀ r store, ¬Service home files opening r store) →
      files.KeepsStores after → Sent home files opening request (.failure e, after)
  | answered {r : Registry} {place : Place} {after : Files} :
      Service home files opening r (after.store place) → files.KeepsStores after →
      Sent home files opening request ((request r (after.store place)).1,
        after.setStore place (request r (after.store place)).2)

theorem sent (hopening : ∀ p, files.KeepsStores (opening p files).2) (unopened : Path → CommandError) :
    Sent home files opening request (sendTo home opening unopened request files) := by
  unfold sendTo
  split
  · rename_i hsettings
    refine .unreached ?_ (.refl files)
    rintro r store ⟨hs, _, _⟩
    rw [hsettings] at hs
    cases hs
  · rename_i s hsettings
    have hkeeps := hopening s.database
    split
    · rename_i hopen
      rw [hopen] at hkeeps
      refine .unreached ?_ hkeeps
      rintro r store ⟨hs, hopen', _⟩
      cases hsettings.symm.trans hs
      rw [hopen] at hopen'
      cases hopen'
    · rename_i hopen
      rw [hopen] at hkeeps
      unfold send
      split
      · rename_i hdirectory
        refine .unreached ?_ hkeeps
        rintro r store ⟨hs, hopen', hr⟩
        cases hsettings.symm.trans hs
        cases hopen.symm.trans hopen'
        rw [hdirectory] at hr
        cases hr
      · rename_i hdirectory
        exact .answered ⟨hsettings, hopen, hdirectory⟩ hkeeps

/-! ## Ends -/

/-- How a command may end, given what it is to succeed and to be rejected, and what is the case where it does
not succeed. -/
inductive Ends {α : Type} (kept : α → Prop) (succeeds : Prop) (rejected : Report → Prop) :
    Outcome × α → Prop where
  | success {output : String} {after : α} : succeeds → (∀ report, ¬rejected report) →
      Ends kept succeeds rejected (.success output, after)
  | rejection {report : Report} {after : α} : ¬succeeds → (∀ other, rejected other ↔ other = report) →
      kept after → Ends kept succeeds rejected (.rejection report, after)
  | failure {e : CommandError} {after : α} : ¬succeeds → (∀ report, ¬rejected report) →
      kept after → Ends kept succeeds rejected (.failure e, after)

theorem Ends.congr {α : Type} {kept : α → Prop} {succeeds succeeds' : Prop}
    {rejected rejected' : Report → Prop} {result : Outcome × α}
    (h : Ends kept succeeds rejected result) (hsucceeds : succeeds' ↔ succeeds)
    (hrejected : ∀ report, rejected' report ↔ rejected report) :
    Ends kept succeeds' rejected' result := by
  obtain rfl : succeeds' = succeeds := propext hsucceeds
  obtain rfl : rejected' = rejected := funext fun report => propext (hrejected report)
  exact h

section Ends

variable {α : Type} {kept : α → Prop} {succeeds : Prop} {rejected : Report → Prop} {o : Outcome} {a : α}

end Ends

/-- A request that is sent ends as the surveys have it, if they can be asked. -/
theorem Sent.ends {good : Registry → Store → Prop} {bad : Registry → Store → Report → Prop}
    {result : Outcome × Files} (h : Sent home files opening request result)
    (hrequest : ∀ r store, Ends (· = store) (good r store) (bad r store) (request r store)) :
    Ends files.KeepsStores (∃ r store, Service home files opening r store ∧ good r store)
      (fun report => ∃ r store, Service home files opening r store ∧ bad r store report) result := by
  cases h with
  | unreached hnone hkeeps =>
    refine .failure ?_ ?_ hkeeps
    · rintro ⟨r, store, hservice, _⟩
      exact hnone r store hservice
    · rintro report ⟨r, store, hservice, _⟩
      exact hnone r store hservice
  | @answered r place after hservice hkeeps =>
    have hgood : (∃ r' store', Service home files opening r' store' ∧ good r' store') ↔
        good r (after.store place) := by
      refine ⟨?_, fun hgood => ⟨_, _, hservice, hgood⟩⟩
      rintro ⟨_, _, hservice', hgood⟩
      obtain ⟨rfl, rfl⟩ := hservice.unique hservice'
      exact hgood
    have hbad : ∀ report, (∃ r' store', Service home files opening r' store' ∧ bad r' store' report) ↔
        bad r (after.store place) report := by
      refine fun report => ⟨?_, fun hbad => ⟨_, _, hservice, hbad⟩⟩
      rintro ⟨_, _, hservice', hbad⟩
      obtain ⟨rfl, rfl⟩ := hservice.unique hservice'
      exact hbad
    refine Ends.congr ?_ hgood hbad
    have hkept := hkeeps.trans (after.setStore_keepsStores place)
    have hends := hrequest r (after.store place)
    generalize request r (after.store place) = answer at hends ⊢
    cases hends with
    | success hgood hbad => exact .success hgood hbad
    | rejection hgood hbad hstore =>
      subst hstore
      exact .rejection hgood hbad hkept
    | failure hgood hbad hstore =>
      subst hstore
      exact .failure hgood hbad hkept

theorem submitRequest_ends (survey : String) (token : Token) (now : Instant) (b : Json) (r : Registry)
    (store : Store) :
    Ends (· = store) (∃ receipt after, r.submit survey token now b store = .ok (receipt, after))
      (fun report => r.submit survey token now b store = .error (.validation report))
      (submitRequest survey token now b r store) := by
  unfold submitRequest
  split
  · rename_i h
    exact .success ⟨_, _, h⟩ (by simp [h])
  · rename_i h
    exact .rejection (by simp [h]) (by simp [h, eq_comm]) rfl
  · rename_i e hne h
    exact .failure (by simp [h]) (by simpa [h] using hne) rfl

theorem verifyRequest_ends (survey text : String) (r : Registry) (store : Store) :
    Ends (· = store) (∃ identity after, r.verify survey ⟨text⟩ store = .ok (identity, after))
      (fun _ => False) (verifyRequest survey ⟨text⟩ r store) := by
  unfold verifyRequest
  split
  · rename_i h
    exact .success ⟨_, _, h⟩ (fun _ => id)
  · rename_i h
    exact .failure (by simp [h]) (fun _ => id) rfl

theorem purgeRequest_ends (survey : String) (now : Instant) (r : Registry) (store : Store) :
    Ends (· = store) (∃ after count, r.purge survey now store = .ok (after, count))
      (fun _ => False) (purgeRequest survey now r store) := by
  unfold purgeRequest
  split
  · rename_i h
    exact .success ⟨_, _, h⟩ (fun _ => id)
  · rename_i h
    exact .failure (by simp [h]) (fun _ => id) rfl

/-- The files that a command finds once there is a place for its logs. -/
def ready (home : Path) (files : Files) : Files := (files.createDirectories (logsIn home)).2

theorem exists_checkFile_iff {p : Path} :
    (∃ listing, checkFile p files = .ok listing) ↔ Succeeds home now token files (.check p) := by
  constructor
  · rintro ⟨listing, h⟩
    unfold checkFile at h
    split at h
    · cases h
    · rename_i htext
      split at h
      · cases h
      · rename_i hc
        split at h
        · cases h
        · rename_i hform
          exact .check htext hc hform
  · intro h
    cases h with
    | @check _ _ _ form htext hc hform => exact ⟨form.listing, by simp only [checkFile, htext, hc, hform]⟩

theorem check_ends (p : Path) :
    Ends files.KeepsStores (Succeeds home now token files (.check p))
      (Rejected home now token files (.check p))
      (match checkFile p files with
        | .error e => (.failure e, files)
        | .ok listing => (.success listing, files)) := by
  cases hcheck : checkFile p files with
  | error e =>
    refine .failure (fun hsucceeds => ?_) nofun (.refl files)
    obtain ⟨listing, hlisting⟩ := exists_checkFile_iff.2 hsucceeds
    rw [hcheck] at hlisting
    cases hlisting
  | ok listing => exact .success (exists_checkFile_iff.1 ⟨listing, hcheck⟩) nofun

theorem submitFile_ends (survey : String) (p : Path) :
    Ends files.KeepsStores (Succeeds home now token files (.submit survey p))
      (Rejected home now token files (.submit survey p)) (submitFile home now token survey p files) := by
  cases hbody : body p files with
  | error e =>
    have hfails : ∃ e, submitFile home now token survey p files = (.failure e, files) := by
      unfold submitFile
      rw [hbody]
      cases settings home files <;> exact ⟨_, rfl⟩
    obtain ⟨e', he'⟩ := hfails
    rw [he']
    refine .failure ?_ ?_ (.refl files)
    · rintro (_ | ⟨hb, _, _⟩)
      rw [hbody] at hb
      cases hb
    · rintro report ⟨hb, _, _⟩
      rw [hbody] at hb
      cases hb
  | ok b =>
    have hsend : submitFile home now token survey p files =
        sendTo home Files.createDatabase .unopened (submitRequest survey token now b) files := by
      cases hs : settings home files with
      | error e => simp only [submitFile, sendTo, hs]
      | ok s =>
        cases hopen : files.createDatabase s.database with
        | mk result opened => cases result <;> simp only [submitFile, sendTo, hs, hbody, hopen]
    rw [hsend]
    refine ((sent (Files.createDatabase_keepsStores · files) _).ends
      (submitRequest_ends survey token now b)).congr ?_ ?_
    · constructor
      · rintro (_ | ⟨hb, hservice, hanswer⟩)
        cases hbody.symm.trans hb
        exact ⟨_, _, hservice, _, _, hanswer⟩
      · rintro ⟨r, store, hservice, receipt, after, hanswer⟩
        exact .submit hbody hservice hanswer
    · intro report
      constructor
      · rintro ⟨hb, hservice, hanswer⟩
        cases hbody.symm.trans hb
        exact ⟨_, _, hservice, hanswer⟩
      · rintro ⟨r, store, hservice, hanswer⟩
        exact .submit hbody hservice hanswer

/-- A command ends well just if what it is about is done, and with a rejection just if the surveys reject. -/
theorem run_ends (c : Command) (files : Files) :
    Ends (ready home files).KeepsStores (Succeeds home now token (ready home files) c)
      (Rejected home now token (ready home files) c) (c.run home now token files) := by
  cases c with
  | check p => exact check_ends p
  | submit survey p => exact submitFile_ends survey p
  | verify survey text =>
    refine ((sent (Files.openDatabase_keepsStores · _) .noDatabase).ends
      (verifyRequest_ends survey text)).congr ?_ ?_
    · constructor
      · rintro (_ | _ | ⟨hservice, hanswer⟩)
        exact ⟨_, _, hservice, _, _, hanswer⟩
      · rintro ⟨r, store, hservice, identity, after, hanswer⟩
        exact .verify hservice hanswer
    · exact fun report => ⟨nofun, fun ⟨_, _, _, h⟩ => h.elim⟩
  | purge survey =>
    refine ((sent (Files.openDatabase_keepsStores · _) .noDatabase).ends
      (purgeRequest_ends survey now)).congr ?_ ?_
    · constructor
      · rintro (_ | _ | _ | ⟨hservice, hanswer⟩)
        exact ⟨_, _, hservice, _, _, hanswer⟩
      · rintro ⟨r, store, hservice, after, count, hanswer⟩
        exact .purge hservice hanswer
    · exact fun report => ⟨nofun, fun ⟨_, _, _, h⟩ => h.elim⟩

end Command

end SurveyIntake
