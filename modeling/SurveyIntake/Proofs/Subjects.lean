import SurveyIntake.Proofs.Faults
import SurveyIntake.Proofs.Mirror

/-!
# SurveyIntake.Proofs.Subjects

What the faults of a submission are about, and how far the paths of its violations tell that.

* `Fault.subject`      — the identity, or the keys that lead to a node of the answers.
* `Form.Fails.path_eq` — the path of a violation is the one that is written for the subject of its fault.
* `Fault.Pointed`      — the fault is an undeclared key with a point in it, which reads like several keys.
* `Form.Fails.unique`  — other faults than these are told by their violations.
* `Configuration.paths_tell_subjects` — which subjects have the same path, and what is never reported twice.
-/

namespace SurveyIntake

/-- What a fault is about: the identity of a submission, or what keys lead to in its answers. -/
inductive Subject where
  | identity
  | answer (keys : List String)
  deriving DecidableEq

def Subject.path : Subject → String
  | .identity => "identity"
  | .answer [] => "answers"
  | .answer keys => dotted keys

theorem Subject.path_answer {keys : List String} (h : keys ≠ []) : (Subject.answer keys).path = dotted keys := by
  obtain ⟨key, keys, rfl⟩ := List.exists_cons_of_ne_nil h
  rfl

/-- The key of what is wrong inside an object. -/
def Flaw.keys : Flaw → List String
  | .unknown key => [key]
  | .missing | .mistyped | .rule _ => []

/-- The keys of the items on the way to an address. -/
def keysTo (address : List Nat) : List String := address.map fun n => toString (n + 1)

namespace Fault

def subject : Fault → Subject
  | .identity => .identity
  | .answers => .answer []
  | .node address flaw => .answer (keysTo address ++ flaw.keys)

/-- The fault is an undeclared key. -/
def Undeclared (x : Fault) : Prop := ∃ address key, x = .node address (.unknown key)

/-- The fault is an undeclared key with a point in it. -/
def Pointed (x : Fault) : Prop := ∃ address key, x = .node address (.unknown key) ∧ ¬Pointless key

end Fault

/-! ## Keys -/

theorem keysTo_injective {a b : List Nat} (h : keysTo a = keysTo b) : a = b := by
  have hkey : Function.Injective fun n : Nat => toString (n + 1) := by
    intro m n hmn
    have hdecimal := congrArg (fun s : String => Text.decimal s.toList) hmn
    simp only [decimal_numeral] at hdecimal
    exact Nat.succ_injective hdecimal
  exact List.map_injective_iff.2 hkey h

theorem pointless_of_mem_keysTo {address : List Nat} {s : String} (h : s ∈ keysTo address) : Pointless s := by
  obtain ⟨n, _, rfl⟩ := List.mem_map.1 h
  exact pointless_numeral _

theorem keysTo_ne_nil {address : List Nat} (h : address ≠ []) : keysTo address ≠ [] := by
  simpa [keysTo] using h

/-- A path to or through an item begins with a digit. -/
theorem exists_digit_of_dotted {address : List Nat} (h : address ≠ []) (more : List String) :
    ∃ c rest, (dotted (keysTo address ++ more)).toList = c :: rest ∧ c.isDigit = true := by
  obtain ⟨n, address, rfl⟩ := List.exists_cons_of_ne_nil h
  have hkeys : keysTo (n :: address) ++ more = toString (n + 1) :: (keysTo address ++ more) := rfl
  obtain ⟨c, cs, hc⟩ : ∃ c cs, (toString (n + 1)).toList = c :: cs := by
    refine List.exists_cons_of_ne_nil fun hnil => ?_
    rw [Nat.toString_eq_repr, Nat.toList_repr] at hnil
    exact Nat.toDigits_ne_nil hnil
  have hdigit : c.isDigit = true := isDigit_of_mem_numeral (n := n + 1) (by rw [hc]; exact List.mem_cons_self)
  rw [hkeys]
  cases keysTo address ++ more with
  | nil => exact ⟨c, cs, by rw [dotted_singleton, hc], hdigit⟩
  | cons next rest => exact ⟨c, _, by rw [toList_dotted_cons, hc, List.cons_append], hdigit⟩

theorem Fault.Undeclared.eq_of_subject_eq {x y : Fault} (hx : x.Undeclared) (hy : y.Undeclared)
    (h : x.subject = y.subject) : x = y := by
  obtain ⟨address, key, rfl⟩ := hx
  obtain ⟨address', key', rfl⟩ := hy
  obtain ⟨haddress, hkey⟩ := List.append_inj' (Subject.answer.inj h) rfl
  rw [keysTo_injective haddress, (List.cons.inj hkey).1]

/-! ## Items that are asked for -/

section Asked

variable {items : List Item} {members : List (String × Json)} {address : List Nat} {i j : Item}
  {answer other : Option Json}

theorem Asked.ne_nil (h : Asked items members address i answer) : address ≠ [] := by
  cases h <;> exact List.cons_ne_nil _ _

theorem Asked.unique (h : Asked items members address i answer) (h' : Asked items members address j other) :
    i = j ∧ answer = other := by
  induction h with
  | here hi =>
    cases h' with
    | here hj =>
      cases hi.symm.trans hj
      exact ⟨rfl, rfl⟩
    | inside _ _ _ hbelow => exact absurd rfl hbelow.ne_nil
  | inside hi hinner _ hbelow ih =>
    cases h' with
    | here => exact absurd rfl hbelow.ne_nil
    | inside hj hinner' _ hbelow' =>
      cases hi.symm.trans hj
      cases hinner.symm.trans hinner'
      exact ih hbelow'

theorem Asked.follow_eq (h : Asked items members address i answer) :
    follow Item.children items (address.map (· + 1)) = some i := by
  induction h with
  | here hi => exact Option.bind_eq_some_iff.2 ⟨_, hi, rfl⟩
  | @inside _ _ _ _ _ _ rest _ hi _ _ hbelow ih =>
    obtain ⟨m, rest, rfl⟩ := List.exists_cons_of_ne_nil hbelow.ne_nil
    exact Option.bind_eq_some_iff.2 ⟨_, hi, ih⟩

theorem Asked.exists_compiledAt {c : Configuration} {form : Form} (h : c.compile = .ok form)
    (ha : Asked form.items members address i answer) :
    ∃ f, Field.CompiledAt (address.map (· + 1)) f i :=
  Configuration.exists_compiledAt h ha.follow_eq

theorem Asked.path_eq {c : Configuration} {form : Form} (h : c.compile = .ok form)
    (ha : Asked form.items members address i answer) : i.path = dotted (keysTo address) := by
  obtain ⟨f, hcompiled⟩ := ha.exists_compiledAt h
  rw [hcompiled.path_eq, Route.text, List.map_map]
  rfl

end Asked

/-! ## Messages -/

/-- Complaints about rules of different constraints begin differently. -/
theorem Rule.name_eq_of_complaint_eq {r q : Rule} (h : r.complaint = q.complaint) : r.name = q.name := by
  unfold complaint at h
  have hchars := congrArg String.toList h
  cases r <;> cases q <;> first | rfl | simp at hchars

theorem Rule.complaint_ne_unknown (r : Rule) : r.complaint ≠ "unknown field" := by
  intro h
  unfold complaint at h
  have hchars := congrArg String.toList h
  cases r <;> simp at hchars

/-- Where rules have different names, they have different complaints. -/
theorem Rule.index_eq_of_complaint_eq {rules : List Rule} (hnames : (rules.map Rule.name).Nodup) {k l : Nat}
    {r q : Rule} (hr : rules[k]? = some r) (hq : rules[l]? = some q) (h : r.complaint = q.complaint) :
    k = l := by
  have hname : (rules.map Rule.name)[k]? = (rules.map Rule.name)[l]? := by
    rw [List.getElem?_map, List.getElem?_map, hr, hq]
    exact congrArg some (name_eq_of_complaint_eq h)
  have hk : k < (rules.map Rule.name).length := by
    rw [List.length_map]
    exact (List.getElem?_eq_some_iff.1 hr).1
  exact (List.getElem?_inj hk hnames).1 hname

/-! ## Faults -/

section Fails

variable {i : Item} {answer : Option Json} {flaw flaw' : Flaw} {v : Violation}

theorem Item.Fails.message_iff (h : i.Fails answer flaw v) :
    v.message = "unknown field" ↔ ∃ key, flaw = .unknown key := by
  cases h with
  | missing => simp
  | mistyped => cases i.kind <;> simp [Kind.name]
  | text | count => simp [Rule.complaint_ne_unknown]
  | unknown => simp

theorem Item.Fails.keys_eq_nil (h : i.Fails answer flaw v) (hplain : ¬v.message = "unknown field") :
    flaw.keys = [] := by
  cases h with
  | unknown => exact absurd rfl hplain
  | _ => rfl

theorem Item.Fails.path_eq {keys : List String} (hpath : i.path = dotted keys) (hne : keys ≠ [])
    (h : i.Fails answer flaw v) : v.path = dotted (keys ++ flaw.keys) := by
  cases h with
  | @unknown _ key =>
    rw [Flaw.keys, dotted_append hne (List.cons_ne_nil key []), dotted_singleton, ← hpath]
  | _ => rw [Flaw.keys, List.append_nil, ← hpath]

theorem Item.Fails.flaw_eq (hnames : (i.rules.map Rule.name).Nodup) (h : i.Fails answer flaw v)
    (h' : i.Fails answer flaw' v) (hplain : ¬v.message = "unknown field") : flaw = flaw' := by
  generalize hv : v = w at h'
  cases h with
  | missing =>
    cases h' with
    | missing => rfl
  | mistyped hnot =>
    cases h' with
    | mistyped => rfl
    | text htakes => exact absurd htakes hnot
    | count hk => exact absurd (.object (.inl hk)) hnot
    | unknown htakes => exact absurd htakes hnot
  | text htakes hr =>
    cases h' with
    | mistyped hnot => exact absurd htakes hnot
    | text _ hq => rw [Rule.index_eq_of_complaint_eq hnames hr hq (congrArg Violation.message hv)]
  | count hk hr =>
    cases h' with
    | mistyped hnot => exact absurd (.object (.inl hk)) hnot
    | count _ hq => rw [Rule.index_eq_of_complaint_eq hnames hr hq (congrArg Violation.message hv)]
    | unknown => exact absurd (congrArg Violation.message hv) (Rule.complaint_ne_unknown _)
  | unknown => exact absurd rfl hplain

end Fails

namespace Form

variable {c : Configuration} {form : Form} {s : Submission} {x y : Fault} {v w : Violation}

theorem Fails.path_eq (h : c.compile = .ok form) (hx : form.Fails s x v) : v.path = x.subject.path := by
  cases hx with
  | identity | answers => rfl
  | @unknown _ key => exact (dotted_singleton key).symm
  | @item _ address i answer flaw _ _ hasked hfails =>
    have hne : keysTo address ≠ [] := keysTo_ne_nil hasked.ne_nil
    rw [hfails.path_eq (hasked.path_eq h) hne, Fault.subject,
      Subject.path_answer (List.append_ne_nil_of_left_ne_nil hne _)]

theorem Fails.of_path_identity (h : c.compile = .ok form) (hx : form.Fails s x v)
    (hp : v.path = "identity") : x = .identity ∨ x = .node [] (.unknown "identity") := by
  cases hx with
  | identity => exact .inl rfl
  | answers => exact absurd hp (by decide)
  | unknown =>
    cases hp
    exact .inr rfl
  | item _ hasked hfails =>
    rw [hfails.path_eq (hasked.path_eq h) (keysTo_ne_nil hasked.ne_nil)] at hp
    obtain ⟨digit, rest, hdigit, hisDigit⟩ := exists_digit_of_dotted hasked.ne_nil _
    rw [hp] at hdigit
    have hhead : 'i' = digit := (List.cons.inj hdigit).1
    subst hhead
    exact absurd hisDigit (by decide)

theorem Fails.message_iff (hx : form.Fails s x v) : v.message = "unknown field" ↔ x.Undeclared := by
  unfold Fault.Undeclared
  cases hx with
  | identity =>
    refine iff_of_false (Rule.complaint_ne_unknown (.pattern form.identity)) ?_
    rintro ⟨_, _, ⟨⟩⟩
  | answers => simp
  | unknown => simp
  | item _ _ hfails => simp [hfails.message_iff]

theorem Fails.exists_keys (hx : form.Fails s x v) (hne : x ≠ .identity) (hplain : ¬x.Pointed) :
    ∃ keys, x.subject = .answer keys ∧ (∀ key ∈ keys, Pointless key) ∧
      (keys = [] ↔ ∀ members, s.answers ≠ .object members) := by
  cases hx with
  | identity => exact absurd rfl hne
  | answers hnone => exact ⟨[], rfl, by simp, by simpa using hnone⟩
  | @unknown members key hmembers =>
    refine ⟨[key], rfl, ?_, by simp [hmembers]⟩
    intro k hk
    cases List.mem_singleton.1 hk
    exact not_not.1 fun hpoint => hplain ⟨[], key, rfl, hpoint⟩
  | @item members address i answer flaw _ hmembers hasked hfails =>
    refine ⟨keysTo address ++ flaw.keys, rfl, ?_, ?_⟩
    · intro k hk
      rcases List.mem_append.1 hk with hk | hk
      · exact pointless_of_mem_keysTo hk
      · cases flaw with
        | unknown =>
          cases List.mem_singleton.1 hk
          exact not_not.1 fun hpoint => hplain ⟨address, _, rfl, hpoint⟩
        | _ => cases hk
    · simp [hmembers, keysTo_ne_nil hasked.ne_nil]

/-- Faults without points in their keys, other than that of the identity, are about one node if they have
one path. -/
theorem Fails.subject_eq (h : c.compile = .ok form) (hx : form.Fails s x v) (hy : form.Fails s y w)
    (hp : v.path = w.path) (hxi : x ≠ .identity) (hyi : y ≠ .identity) (hxp : ¬x.Pointed)
    (hyp : ¬y.Pointed) : x.subject = y.subject := by
  obtain ⟨keys, hxsubject, hkeys, hnone⟩ := hx.exists_keys hxi hxp
  obtain ⟨others, hysubject, hothers, hnone'⟩ := hy.exists_keys hyi hyp
  rw [hxsubject, hysubject]
  by_cases hnil : keys = []
  · rw [hnil, hnone'.2 (hnone.1 hnil)]
  · have hnil' : others ≠ [] := fun hothers => hnil (hnone.2 (hnone'.1 hothers))
    rw [hx.path_eq h, hy.path_eq h, hxsubject, hysubject, Subject.path_answer hnil,
      Subject.path_answer hnil'] at hp
    rw [eq_of_dotted_eq hkeys hothers hnil hnil' hp]

theorem Fails.eq_identity (h : c.compile = .ok form) (hx : form.Fails s x v)
    (hidentity : form.Fails s .identity v) : x = .identity := by
  have hmessage : ¬v.message = "unknown field" := fun hm => by
    obtain ⟨_, _, ⟨⟩⟩ := hidentity.message_iff.1 hm
  have hp : v.path = "identity" := hidentity.path_eq h
  rcases hx.of_path_identity h hp with hxi | hxi
  · exact hxi
  · exact absurd (hx.message_iff.2 ⟨[], _, hxi⟩) hmessage

/-- Faults about one node that are no keys are told by their messages. -/
theorem Fails.eq_of_subject_eq (h : c.compile = .ok form) (hx : form.Fails s x v) (hy : form.Fails s y w)
    (hv : v = w) (hplain : ¬v.message = "unknown field") (hsubject : x.subject = y.subject) : x = y := by
  cases hx with
  | unknown => exact absurd rfl hplain
  | identity =>
    cases hy with
    | identity => rfl
    | answers | unknown | item => cases hsubject
  | answers hnone =>
    cases hy with
    | identity => cases hsubject
    | answers => rfl
    | unknown hmembers | item hmembers => exact absurd hmembers (hnone _)
  | item hmembers hasked hfails =>
    cases hy with
    | identity => cases hsubject
    | answers hnone => exact absurd hmembers (hnone _)
    | unknown => exact absurd (congrArg Violation.message hv) hplain
    | item hmembers' hasked' hfails' =>
      subst hv
      cases hmembers.symm.trans hmembers'
      simp only [Fault.subject, hfails.keys_eq_nil hplain, hfails'.keys_eq_nil hplain, List.append_nil,
        Subject.answer.injEq] at hsubject
      cases keysTo_injective hsubject
      obtain ⟨rfl, rfl⟩ := hasked.unique hasked'
      obtain ⟨f, hcompiled⟩ := hasked.exists_compiledAt h
      rw [hfails.flaw_eq hcompiled.hasRules.nodup hfails' hplain]

/-- Faults without points in their keys are told by their violations: the path says what they are about, and
the message says the rest. -/
theorem Fails.unique (h : c.compile = .ok form) (hx : form.Fails s x v) (hy : form.Fails s y v)
    (hxp : ¬x.Pointed) (hyp : ¬y.Pointed) : x = y := by
  by_cases hxi : x = .identity
  · subst hxi
    exact (hy.eq_identity h hx).symm
  by_cases hyi : y = .identity
  · subst hyi
    exact hx.eq_identity h hy
  have hsubject : x.subject = y.subject := hx.subject_eq h hy rfl hxi hyi hxp hyp
  by_cases hmessage : v.message = "unknown field"
  · exact (hx.message_iff.1 hmessage).eq_of_subject_eq (hy.message_iff.1 hmessage) hsubject
  · exact hx.eq_of_subject_eq h hy rfl hmessage hsubject

theorem check_enumerates (f : Form) (s : Submission) (hs : s.answers.Proper) :
    Enumerates (f.Fails s) (f.check s) := by
  refine ((f.checkIdentity_enumerates s).append (f.checkAnswers_enumerates s hs) ?_).congr fun x v => ?_
  · rintro x v w ⟨_, hidentity⟩ ⟨_, hne⟩
    exact hne hidentity
  · rw [← and_or_left]
    exact and_iff_left (Decidable.em _)

end Form

namespace Configuration

variable {c : Configuration} {form : Form} {s : Submission}

theorem exists_path_identity_iff (h : c.compile = .ok form) :
    (∃ x v, form.Fails s x v ∧ v.path = "identity") ↔
      form.identity.accepts s.identity = false ∨
        ∃ members, s.answers = .object members ∧ "identity" ∈ Assoc.keys members := by
  constructor
  · rintro ⟨x, v, hx, hp⟩
    rcases hx.of_path_identity h hp with rfl | rfl
    · cases hx with
      | identity haccepts => exact .inl haccepts
    · cases hx with
      | unknown hmembers hkey => exact .inr ⟨_, hmembers, hkey⟩
      | item _ hasked => exact absurd rfl hasked.ne_nil
  · rintro (haccepts | ⟨members, hmembers, hkey⟩)
    · exact ⟨_, _, .identity haccepts, rfl⟩
    · refine ⟨_, _, .unknown hmembers hkey fun i _ he => ?_, rfl⟩
      have hdigit : 'i'.isDigit = true := by
        refine isDigit_of_mem_numeral (n := i.position) ?_
        rw [show toString i.position = "identity" from he]
        decide
      exact absurd hdigit (by decide)

/-- **What paths tell.** The violations of a submission are those of its faults. Two with one path are about
one node, unless one of them is an undeclared key with a point in it, or the one is about the identity and
the other about an undeclared key of that name at the top. The path of the identity is reported just if the
identity is not accepted or there is such a key. Where no undeclared key has a point in it, no violation is
reported twice. -/
theorem paths_tell_subjects (h : c.compile = .ok form) (hs : s.answers.Proper) :
    (∀ v, v ∈ form.check s ↔ ∃ x, form.Fails s x v) ∧
    (∀ x y v w, form.Fails s x v → form.Fails s y w → v.path = w.path →
      x.subject = y.subject ∨ x.Pointed ∨ y.Pointed ∨
        x = .identity ∧ y = .node [] (.unknown "identity") ∨
        y = .identity ∧ x = .node [] (.unknown "identity")) ∧
    ((∃ v ∈ form.check s, v.path = "identity") ↔
      form.identity.accepts s.identity = false ∨
        ∃ members, s.answers = .object members ∧ "identity" ∈ Assoc.keys members) ∧
    ((∀ x v, form.Fails s x v → ¬x.Pointed) → (form.check s).Nodup) := by
  have hcheck := form.check_enumerates s hs
  refine ⟨fun v => hcheck.mem_iff, fun x y v w hx hy hp => ?_, ?_, fun hplain => ?_⟩
  · by_cases hxi : x = .identity
    · subst hxi
      rcases hy.of_path_identity h (hp.symm.trans (hx.path_eq h)) with rfl | rfl
      · exact .inl rfl
      · exact .inr (.inr (.inr (.inl ⟨rfl, rfl⟩)))
    by_cases hyi : y = .identity
    · subst hyi
      rcases hx.of_path_identity h (hp.trans (hy.path_eq h)) with rfl | rfl
      · exact absurd rfl hxi
      · exact .inr (.inr (.inr (.inr ⟨rfl, rfl⟩)))
    by_cases hxp : x.Pointed
    · exact .inr (.inl hxp)
    by_cases hyp : y.Pointed
    · exact .inr (.inr (.inl hyp))
    · exact .inl (hx.subject_eq h hy hp hxi hyi hxp hyp)
  · rw [← exists_path_identity_iff h]
    constructor
    · rintro ⟨v, hv, hp⟩
      obtain ⟨x, hx⟩ := hcheck.mem_iff.1 hv
      exact ⟨x, v, hx, hp⟩
    · rintro ⟨x, v, hx, hp⟩
      exact ⟨v, hcheck.mem_iff.2 ⟨x, hx⟩, hp⟩
  · exact hcheck.nodup fun x y v hx hy => hx.unique h hy (hplain x v hx) (hplain y v hy)

/-- A group with one option. -/
def straySurvey : Configuration :=
  { Configuration.ofNames "dora" "chores" with
    fields := [(Field.ofKind .properties).withChild (Field.ofKind .option)] }

def strayForm : Form :=
  ⟨⟨"dora", "chores", by decide, by decide⟩, addressPattern,
    [⟨1, "1", .properties, [], [⟨1, "1.1", .option, [], []⟩]⟩]⟩

/-- A good identity and a good answer, with an undeclared key inside the group, one at the top that reads like
it, and one at the top that reads like the identity. -/
def straySubmission : Submission :=
  ⟨"dora@home.org", .object [("1", .object [("1", .bool true), ("x", .null)]), ("1.x", .null),
    ("identity", .null)]⟩

theorem paths_tell_subjects_stray :
    straySurvey.compile = .ok strayForm ∧ straySubmission.answers.Proper ∧
      ((∃ v ∈ strayForm.check straySubmission, v.path = "identity") ↔
        strayForm.identity.accepts straySubmission.identity = false ∨
          ∃ members, straySubmission.answers = .object members ∧ "identity" ∈ Assoc.keys members) := by
  have hcompile : straySurvey.compile = .ok strayForm := rfl
  have hproper : straySubmission.answers.Proper :=
    ⟨by decide, ⟨by decide, trivial, trivial, trivial⟩, trivial, trivial, trivial⟩
  exact ⟨hcompile, hproper, (paths_tell_subjects hcompile hproper).2.2.1⟩

/-- One path for two nodes, one violation twice, and the path of the identity though that is accepted. -/
theorem stray_keys :
    straySurvey.compile = .ok strayForm ∧
      strayForm.identity.accepts straySubmission.identity = true ∧
      strayForm.check straySubmission =
        [⟨"1.x", "unknown field"⟩, ⟨"1.x", "unknown field"⟩, ⟨"identity", "unknown field"⟩] ∧
      ∃ x y v, strayForm.Fails straySubmission x v ∧ strayForm.Fails straySubmission y v ∧
        x.subject ≠ y.subject := by
  have hinside : strayForm.Fails straySubmission (.node [0] (.unknown "x")) ⟨"1.x", "unknown field"⟩ :=
    .item rfl (.here rfl) (.unknown (.object (.inr rfl)) (by decide) (by decide))
  have htop : strayForm.Fails straySubmission (.node [] (.unknown "1.x")) ⟨"1.x", "unknown field"⟩ :=
    .unknown rfl (by decide) (by decide)
  exact ⟨rfl, by decide +kernel, by decide +kernel, _, _, _, hinside, htop, by decide⟩

end Configuration
end SurveyIntake
