import SurveyIntake.Command.Run
import SurveyIntake.Proofs.Registration

/-!
# SurveyIntake.Proofs.Directory

Which surveys are open once a directory has been loaded.

* `Files.pairwise_namesIn`       — the names in a directory are in the order of their bytes.
* `Files.Configures`             — a file of a directory that is loaded, with the configuration in it.
* `Registry.ofDirectory_eq_after` — loading a directory is a run of registrations, in the order of names.
* `Files.LastConfiguring`        — the last file of a directory whose configuration has a key.
* `Registry.ofDirectory_serves`  — what is open under a key is the survey in that file, if it compiles.
-/

namespace SurveyIntake

/-! ## Directories -/

namespace Files

theorem eq_append_of_nameIn {directory place : Place} {name : String}
    (h : nameIn directory place = some name) : place = directory ++ [name] := by
  unfold nameIn at h
  split at h
  · rename_i hdirectory
    rw [← hdirectory, List.dropLast_append_getLast? _ h]
  · cases h

theorem append_lt_append_iff {directory a b : Place} : directory ++ a < directory ++ b ↔ a < b := by
  induction directory with
  | nil => rfl
  | cons n directory ih =>
    have hirrefl : ¬n < n := String.lt_irrefl n
    rw [List.cons_append, List.cons_append, List.cons_lt_cons_iff, ih]
    simp only [hirrefl, true_and, false_or]

/-- The names in a directory are in the order of their bytes. -/
theorem pairwise_namesIn {files : Files} {p : Path} {names : List String}
    (h : files.namesIn p = some names) : names.Pairwise (· < ·) := by
  unfold namesIn at h
  split at h
  · cases h
  · rename_i place _
    split at h
    · cases h
      refine List.pairwise_filterMap.2 (files.nodes.ascending.imp ?_)
      intro a b hlt m hm n hn
      rw [eq_append_of_nameIn hm, eq_append_of_nameIn hn, append_lt_append_iff] at hlt
      rcases List.cons_lt_cons_iff.1 hlt with hlt | ⟨_, hnil⟩
      · exact hlt
      · exact absurd hnil (List.not_lt_nil [])
    · cases h

/-- The configuration in the file at a path, if it is one. -/
def configuration? (files : Files) (p : Path) : Option Configuration :=
  (files.text? p).bind fun text => (Configuration.ofJsonText text).toOption

theorem configuration?_eq_some_iff {files : Files} {p : Path} {c : Configuration} :
    files.configuration? p = some c ↔
      ∃ text, files.text? p = some text ∧ Configuration.ofJsonText text = .ok c := by
  rw [configuration?, Option.bind_eq_some_iff]
  refine exists_congr fun text => and_congr_right fun _ => ?_
  cases Configuration.ofJsonText text <;> simp [Except.toOption]

/-- A file of a directory that has the name of a configuration and can be read as one. -/
structure Configures (files : Files) (directory : Path) (name : String) (c : Configuration) : Prop where
  listed : ∃ names, files.namesIn directory = some names ∧ name ∈ names
  extension : Path.hasExtension "json" name = true
  regular : files.isFile (directory.join name) = true
  content : ∃ text, files.text? (directory.join name) = some text ∧ Configuration.ofJsonText text = .ok c

/-- Of the files of a directory whose configurations have the key, the last one by the bytes of its name. -/
structure LastConfiguring (files : Files) (directory : Path) (key : SurveyKey) (name : String)
    (c : Configuration) : Prop where
  configures : files.Configures directory name c
  keyed : c.key = .ok key
  last : ∀ other d, files.Configures directory other d → d.key = .ok key →
    other = name ∨ utf8Bytes other < utf8Bytes name

theorem Configures.unique {files : Files} {directory : Path} {name : String} {c d : Configuration}
    (hc : files.Configures directory name c) (hd : files.Configures directory name d) : c = d := by
  obtain ⟨text, htext, hc⟩ := hc.content
  obtain ⟨text', htext', hd⟩ := hd.content
  cases htext.symm.trans htext'
  exact Except.ok.inj (hc.symm.trans hd)

theorem LastConfiguring.unique {files : Files} {directory : Path} {key : SurveyKey} {m n : String}
    {c d : Configuration} (hm : files.LastConfiguring directory key m c)
    (hn : files.LastConfiguring directory key n d) : m = n ∧ c = d := by
  rcases hm.last n d hn.configures hn.keyed with rfl | hlt
  · exact ⟨rfl, hm.configures.unique hn.configures⟩
  rcases hn.last m c hm.configures hm.keyed with rfl | hgt
  · exact ⟨rfl, hm.configures.unique hn.configures⟩
  · exact absurd (utf8Bytes_lt_iff.1 hgt) (String.lt_asymm (utf8Bytes_lt_iff.1 hlt))

theorem lastConfiguring_congr {files others : Files} {directory : Path}
    (h : ∀ name c, others.Configures directory name c ↔ files.Configures directory name c)
    (key : SurveyKey) (name : String) (c : Configuration) :
    others.LastConfiguring directory key name c ↔ files.LastConfiguring directory key name c := by
  constructor
  · rintro ⟨hconfigures, hkeyed, hlast⟩
    exact ⟨(h name c).1 hconfigures, hkeyed, fun n d hd => hlast n d ((h n d).2 hd)⟩
  · rintro ⟨hconfigures, hkeyed, hlast⟩
    exact ⟨(h name c).2 hconfigures, hkeyed, fun n d hd => hlast n d ((h n d).1 hd)⟩

/-- The configurations of a directory with the names of their files, in the order of these. -/
def configurationsIn (files : Files) (directory : Path) : List (String × Configuration) :=
  ((((files.namesIn directory).getD []).filter (Path.hasExtension "json")).filter
    fun n => files.isFile (directory.join n)).filterMap
      fun n => (files.configuration? (directory.join n)).map fun c => (n, c)

theorem mem_configurationsIn_iff {files : Files} {directory : Path} {name : String} {c : Configuration} :
    (name, c) ∈ files.configurationsIn directory ↔ files.Configures directory name c := by
  have hmem : (name, c) ∈ files.configurationsIn directory ↔
      ((name ∈ (files.namesIn directory).getD [] ∧ Path.hasExtension "json" name = true) ∧
        files.isFile (directory.join name) = true) ∧
          files.configuration? (directory.join name) = some c := by
    simp only [configurationsIn, List.mem_filterMap, List.mem_filter, Option.map_eq_some_iff,
      Prod.mk.injEq]
    constructor
    · rintro ⟨n, hn, d, hd, rfl, rfl⟩
      exact ⟨hn, hd⟩
    · rintro ⟨hn, hd⟩
      exact ⟨name, hn, c, hd, rfl, rfl⟩
  have hlisted : name ∈ (files.namesIn directory).getD [] ↔
      ∃ names, files.namesIn directory = some names ∧ name ∈ names := by
    cases files.namesIn directory <;> simp
  rw [hmem, configuration?_eq_some_iff, hlisted]
  constructor
  · rintro ⟨⟨⟨hlisted, hextension⟩, hregular⟩, hcontent⟩
    exact ⟨hlisted, hextension, hregular, hcontent⟩
  · rintro ⟨hlisted, hextension, hregular, hcontent⟩
    exact ⟨⟨⟨hlisted, hextension⟩, hregular⟩, hcontent⟩

theorem pairwise_configurationsIn (files : Files) (directory : Path) :
    (files.configurationsIn directory).Pairwise fun a b => a.1 < b.1 := by
  have hnames : ((files.namesIn directory).getD []).Pairwise (· < ·) := by
    cases hnames : files.namesIn directory with
    | none => exact .nil
    | some names => exact pairwise_namesIn hnames
  refine List.pairwise_filterMap.2 (((hnames.filter _).filter _).imp ?_)
  intro m n hlt a ha b hb
  obtain ⟨c, _, rfl⟩ := Option.map_eq_some_iff.1 ha
  obtain ⟨d, _, rfl⟩ := Option.map_eq_some_iff.1 hb
  exact hlt

/-- Where there is something that is no directory, there are no names; where there is nothing either. -/
theorem namesIn_cases (files : Files) (p : Path) :
    (files.isFile p = true ∧ files.contains p = true ∧ files.namesIn p = none) ∨
      (files.isFile p = false ∧ files.contains p = false ∧ files.namesIn p = none) ∨
      (files.isFile p = false ∧ files.contains p = true ∧ ∃ names, files.namesIn p = some names) := by
  unfold isFile contains namesIn get?
  cases files.locate p with
  | none => simp
  | some place =>
    obtain ⟨node, hnode⟩ : ∃ node, files.node? place = node := ⟨_, rfl⟩
    rcases node with _ | ⟨⟩ | _ | _ <;> simp [isDirectoryAt, hnode]

/-- The registrations of the configurations in a directory, the last one first. -/
def registrations (files : Files) (directory : Path) : List Request :=
  ((files.configurationsIn directory).map fun e => .register e.2).reverse

end Files

/-! ## Loading -/

namespace Registry

/-- Loading a file is a registration, if there is a configuration in it. -/
theorem registerFile_eq (files : Files) (r : Registry) (p : Path) :
    registerFile files r p = ((files.configuration? p).map fun c => (r.register c).1).getD r := by
  unfold registerFile Files.configuration?
  cases files.text? p with
  | none => rfl
  | some text =>
    simp only [Option.bind_some]
    cases Configuration.ofJsonText text <;> rfl

/-- Loading files is a run of registrations. -/
theorem foldl_registerFile (files : Files) (retention : Retention) (past : List Request)
    (paths : List Path) :
    paths.foldl (registerFile files) (Intake.after retention past).registry =
      (Intake.after retention
        (((paths.filterMap files.configuration?).map Request.register).reverse ++ past)).registry := by
  induction paths generalizing past with
  | nil => rfl
  | cons p paths ih =>
    rw [List.foldl_cons, registerFile_eq]
    cases hc : files.configuration? p with
    | none =>
      rw [List.filterMap_cons_none hc]
      exact ih past
    | some c =>
      have hregister : ((Intake.after retention past).registry.register c).1 =
          (Intake.after retention (.register c :: past)).registry := by
        rw [Intake.after, Intake.serve]
        split <;> rename_i hr <;> rw [hr]
      rw [List.filterMap_cons_some hc, Option.map_some, Option.getD_some, hregister, ih]
      simp

theorem ofDirectory_eq_after {files : Files} {directory : Path} (h : files.isFile directory = false)
    (retention : Retention) : ofDirectory retention directory files =
      .ok (Intake.after retention (files.registrations directory)).registry := by
  unfold ofDirectory Files.registrations Files.configurationsIn
  rcases files.namesIn_cases directory with ⟨hfile, _⟩ | ⟨_, hcontains, hnames⟩ | ⟨_, hcontains, names, hnames⟩
  · cases h.symm.trans hfile
  · rw [hcontains, hnames]
    rfl
  · have hpaths : (configurationFiles files directory names).filterMap files.configuration? =
        (((names.filter (Path.hasExtension "json")).filter
          fun n => files.isFile (directory.join n)).filterMap
            fun n => (files.configuration? (directory.join n)).map fun c => (n, c)).map Prod.snd := by
      rw [configurationFiles, List.filter_map, List.filterMap_map, List.map_filterMap]
      congr 1
      funext n
      simp [Function.comp]
    have hload := foldl_registerFile files retention [] (configurationFiles files directory names)
    rw [hpaths, List.map_map, List.append_nil] at hload
    rw [if_pos hcontains, hnames]
    exact congrArg Except.ok hload

theorem ofDirectory_eq_error {files : Files} {directory : Path} (h : files.isFile directory = true)
    (retention : Retention) :
    ofDirectory retention directory files = .error (.noDirectory directory) := by
  unfold ofDirectory
  rcases files.namesIn_cases directory with ⟨_, hcontains, hnames⟩ | ⟨hfile, _⟩ | ⟨hfile, _⟩
  · rw [if_pos hcontains, hnames]
  · cases h.symm.trans hfile
  · cases h.symm.trans hfile

end Registry

/-- The last registration under a key is that of the last file. -/
theorem Files.lastConcerning_registrations_iff {files : Files} {directory : Path} {key : SurveyKey}
    {r : Request} : Intake.LastConcerning key (files.registrations directory) r ↔
      ∃ name c, r = .register c ∧ files.LastConfiguring directory key name c := by
  have hsorted := files.pairwise_configurationsIn directory
  unfold Files.registrations
  constructor
  · rintro ⟨since, before, hpast, hkey, hnone⟩
    rw [← List.reverse_inj, List.reverse_reverse, List.reverse_append, List.reverse_cons,
      List.append_assoc, List.singleton_append] at hpast
    obtain ⟨earlier, rest, hlist, hearlier, hrest⟩ := List.map_eq_append_iff.1 hpast
    obtain ⟨⟨name, c⟩, later, rfl, rfl, hlater⟩ := List.map_eq_cons_iff.1 hrest
    have hmem : ∀ other d, files.Configures directory other d ↔
        (other, d) ∈ earlier ++ (name, c) :: later := by
      intro other d
      rw [← hlist, Files.mem_configurationsIn_iff]
    refine ⟨name, c, rfl, (hmem name c).2 (by simp), hkey, fun other d hother hd => ?_⟩
    rw [hlist] at hsorted
    rcases List.mem_append.1 ((hmem other d).1 hother) with hmem | hmem
    · exact .inr (utf8Bytes_lt_iff.2 ((List.pairwise_append.1 hsorted).2.2 _ hmem _ List.mem_cons_self))
    rcases List.mem_cons.1 hmem with heq | hmem
    · cases heq
      exact .inl rfl
    · refine absurd hd (hnone (.register d) (List.mem_reverse.1 ?_))
      rw [← hlater]
      exact List.mem_map_of_mem hmem
  · rintro ⟨name, c, rfl, hconfigures, hkey, hlast⟩
    obtain ⟨earlier, later, hlist⟩ :=
      List.append_of_mem (Files.mem_configurationsIn_iff.2 hconfigures)
    refine ⟨(later.map fun e => .register e.2).reverse, (earlier.map fun e => .register e.2).reverse,
      by simp [hlist], hkey, fun q hq => ?_⟩
    obtain ⟨⟨other, d⟩, hmem, rfl⟩ := List.mem_map.1 (List.mem_reverse.1 hq)
    intro hd
    rw [hlist] at hsorted
    have hlt : name < other :=
      (List.pairwise_cons.1 (List.pairwise_append.1 hsorted).2.1).1 _ hmem
    have hother : files.Configures directory other d :=
      Files.mem_configurationsIn_iff.1 (by simp [hlist, hmem])
    rcases hlast other d hother hd with rfl | hgt
    · exact String.lt_irrefl _ hlt
    · exact String.lt_asymm hlt (utf8Bytes_lt_iff.1 hgt)

/-- A file that is loaded passes a check just if its configuration compiles. -/
theorem Files.Configures.exists_listing_iff {files : Files} {directory : Path} {name : String}
    {c : Configuration} (h : files.Configures directory name c) :
    (∃ listing, Command.checkFile (directory.join name) files = .ok listing) ↔
      ∃ form, c.compile = .ok form := by
  obtain ⟨text, htext, hc⟩ := h.content
  simp only [Command.checkFile, htext, hc]
  cases c.compile <;> simp

namespace Registry

/-- What is open once a directory has been loaded. -/
theorem find?_ofDirectory_iff {files : Files} {directory : Path} {retention : Retention} {r : Registry}
    (h : ofDirectory retention directory files = .ok r) {key : SurveyKey} {s : Survey} :
    r.surveys.find? key = some s ↔ ∃ name c, files.LastConfiguring directory key name c ∧
      c.compile = .ok s.form ∧ s.retention = retention := by
  obtain ⟨form, kept⟩ := s
  cases hfile : files.isFile directory with
  | true => cases h.symm.trans (ofDirectory_eq_error hfile retention)
  | false =>
    cases h.symm.trans (ofDirectory_eq_after hfile retention)
    simp only [Intake.find?_after_iff, Files.lastConcerning_registrations_iff, Request.opens?_eq_some_iff,
      Survey.mk.injEq]
    constructor
    · rintro ⟨_, ⟨name, c, rfl, hlast⟩, _, _, ⟨⟩, hc, rfl, rfl⟩
      exact ⟨name, c, hlast, hc, rfl⟩
    · rintro ⟨name, c, hlast, hc, rfl⟩
      exact ⟨_, ⟨name, c, rfl, hlast⟩, c, form, rfl, hc, rfl, rfl⟩

theorem retention_ofDirectory {files : Files} {directory : Path} {retention : Retention} {r : Registry}
    (h : ofDirectory retention directory files = .ok r) : r.retention = retention := by
  cases hfile : files.isFile directory with
  | true => cases h.symm.trans (ofDirectory_eq_error hfile retention)
  | false =>
    cases h.symm.trans (ofDirectory_eq_after hfile retention)
    exact Intake.after_retention _ _

theorem eq_of_find?_of_retention {r q : Registry} (hfind : ∀ key, r.surveys.find? key = q.surveys.find? key)
    (hretention : r.retention = q.retention) : r = q := by
  cases r
  cases q
  obtain rfl := hretention
  obtain rfl := Table.eq_of_find? hfind
  rfl

/-- **A directory opens the surveys in it.** Its surveys are loaded unless something that is no directory is in
its place. A key is open just if the last file, by the bytes of names, whose configuration has the key is one
that passes a check, and what is open is the survey in that file; a last file that does not pass closes what
an earlier one has opened. Nothing else matters: with the same configurations under the same names the
registry is the same, whatever other files and directories there are. -/
theorem ofDirectory_serves (retention : Retention) (directory : Path) (files : Files) :
    ((∃ r, ofDirectory retention directory files = .ok r) ↔ files.isFile directory = false) ∧
    ∀ r, ofDirectory retention directory files = .ok r →
      (∀ key s, r.surveys.find? key = some s ↔
        ∃ name c, files.LastConfiguring directory key name c ∧
          (∃ listing, Command.checkFile (directory.join name) files = .ok listing) ∧
          c.compile = .ok s.form ∧ s.retention = retention) ∧
      (∀ key name c, files.LastConfiguring directory key name c →
        (∀ listing, Command.checkFile (directory.join name) files ≠ .ok listing) →
        r.surveys.find? key = none) ∧
      ∀ others : Files, others.isFile directory = false →
        (∀ name c, others.Configures directory name c ↔ files.Configures directory name c) →
        ofDirectory retention directory others = .ok r := by
  refine ⟨⟨?_, fun h => ⟨_, ofDirectory_eq_after h retention⟩⟩, fun r h => ⟨fun key s => ?_, ?_, ?_⟩⟩
  · rintro ⟨r, h⟩
    cases hfile : files.isFile directory with
    | true => cases h.symm.trans (ofDirectory_eq_error hfile retention)
    | false => rfl
  · rw [find?_ofDirectory_iff h]
    refine exists_congr fun name => exists_congr fun c => and_congr_right fun hlast => ?_
    rw [hlast.configures.exists_listing_iff]
    exact ⟨fun hs => ⟨⟨_, hs.1⟩, hs⟩, fun hs => hs.2⟩
  · intro key name c hlast hrefused
    refine Option.eq_none_iff_forall_ne_some.2 fun s hs => ?_
    obtain ⟨name', d, hlast', hd, _⟩ := (find?_ofDirectory_iff h).1 hs
    obtain ⟨rfl, rfl⟩ := hlast.unique hlast'
    obtain ⟨listing, hlisting⟩ := hlast.configures.exists_listing_iff.2 ⟨_, hd⟩
    exact hrefused listing hlisting
  · intro others hothers hsame
    have h' := ofDirectory_eq_after hothers retention
    rw [h']
    refine congrArg Except.ok (eq_of_find?_of_retention (fun key => Option.ext fun s => ?_) ?_)
    · rw [find?_ofDirectory_iff h', find?_ofDirectory_iff h]
      simp only [Files.lastConfiguring_congr hsame]
    · rw [retention_ofDirectory h', retention_ofDirectory h]

/-- A directory whose second file has the key of the first one and asks for a selection from nothing. What
is there besides is no text, has another extension, or is a directory. -/
def tripFiles : Files :=
  let contents : List (String × ByteArray) :=
    [("1.json", "[\"ann\", \"trips\", null, null, [[\"Text\"]]]".toUTF8),
      ("2.json", "[\"ann\", \"trips\", null, null, [[\"Selection\"]]]".toUTF8),
      ("3.json", ⟨#[0xFF]⟩), ("4.txt", "[\"ann\", \"trips\", null, null, [[\"Text\"]]]".toUTF8)]
  (contents.foldl (fun files e => files.insert ["surveys", e.1] (.file e.2))
    (Files.empty.insert ["surveys"] .directory)).insert ["surveys", "5.json"] .directory

theorem ofDirectory_serves_tripFiles :
    ∃ r, ofDirectory .keepAll ⟨"/surveys"⟩ tripFiles = .ok r ∧
      tripFiles.LastConfiguring ⟨"/surveys"⟩ tripForm.key "2.json"
        { Configuration.ofNames "ann" "trips" with fields := [Field.ofKind .selection] } ∧
      r.surveys.find? tripForm.key = none := by
  have hlist : tripFiles.configurationsIn ⟨"/surveys"⟩ =
      [("1.json", { Configuration.ofNames "ann" "trips" with fields := [Field.ofKind .text] }),
        ("2.json", { Configuration.ofNames "ann" "trips" with fields := [Field.ofKind .selection] })] := by
    decide +kernel
  have hlast : tripFiles.LastConfiguring ⟨"/surveys"⟩ tripForm.key "2.json"
      { Configuration.ofNames "ann" "trips" with fields := [Field.ofKind .selection] } := by
    refine ⟨Files.mem_configurationsIn_iff.1 (by simp [hlist]), rfl, fun other d hother _ => ?_⟩
    have hmem := Files.mem_configurationsIn_iff.2 hother
    rw [hlist] at hmem
    rcases List.mem_cons.1 hmem with heq | hmem
    · cases heq
      exact .inr (utf8Bytes_lt_iff.2 (by decide))
    · cases List.mem_singleton.1 hmem
      exact .inl rfl
  obtain ⟨hload, hserves⟩ := ofDirectory_serves .keepAll ⟨"/surveys"⟩ tripFiles
  obtain ⟨r, hr⟩ := hload.2 (by decide +kernel)
  refine ⟨r, hr, hlast, (hserves r hr).2.1 _ _ _ hlast fun listing hlisting => ?_⟩
  obtain ⟨form, hform⟩ := hlast.configures.exists_listing_iff.1 ⟨listing, hlisting⟩
  cases hform

end Registry
end SurveyIntake
