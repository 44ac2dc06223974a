import SurveyIntake.Proofs.Conformity
import SurveyIntake.Proofs.Unbalanced

/-!
# SurveyIntake.Proofs.FullMatch

What a configuration asks of a submission, where a text matches an expression as a whole.

* `Regex.FullyMatches`   — an expression, read on its own, matches a text from its beginning to its end.
* `Configuration.Asks`   — the expressions of a configuration, with the one of addresses.
* `Configuration.Conforms.imp` — conformity depends on nothing but which texts match these.
* `Configuration.check_decides_conformity` — nothing is wrong with a submission that conforms, and a
  submission that nothing is wrong with conforms if the expressions of the configuration are well formed.

An expression that is not well formed is matched by no text. Its pattern may still admit some.
-/

namespace SurveyIntake

/-- The source is an expression on its own, which matches the whole of the text. -/
structure Regex.FullyMatches (source text : String) : Prop where
  wellFormed : WellFormed source.toList
  whole : ∃ t, Tree.ofSource? source.toList = some t ∧
    t.Matches text.toList .default 0 text.toList.length

theorem Pattern.admits_iff_fullyMatches {source : String} {p : Pattern}
    (hp : Pattern.ofSource? source = some p) (hw : Regex.WellFormed source.toList) (text : String) :
    Admits source text ↔ Regex.FullyMatches source text := by
  obtain ⟨t, e, ht, he⟩ := hw
  obtain rfl := ofSource?_eq_some_iff.1 hp
  rw [admits_iff, accepts_iff_of_read ht]
  constructor
  · intro hmatch
    exact ⟨⟨t, e, ht, he⟩, t, ht, hmatch⟩
  · rintro ⟨_, t', ht', hmatch⟩
    cases ht.symm.trans ht'
    exact hmatch

theorem wellFormed_addressSource : Regex.WellFormed addressSource.toList := ⟨_, _, rfl, rfl⟩

/-! ## What is asked -/

section Asks

variable {matching other : String → String → Prop}

/-- An answer to the field may have to match the expression. -/
def Field.Asks (f : Field) (source : String) : Prop :=
  source = addressSource ∨ ∃ g, Within g f ∧ g.Declares "regex" (.string source)

def Configuration.Asks (c : Configuration) (source : String) : Prop :=
  source = addressSource ∨ c.HasPattern source

theorem Field.Asks.of_child {f g : Field} {source : String} (hg : g ∈ f.children) (h : g.Asks source) :
    f.Asks source := by
  rcases h with rfl | ⟨k, hk, hdeclares⟩
  · exact .inl rfl
  · exact .inr ⟨k, .inner hg hk, hdeclares⟩

theorem Configuration.Asks.of_field {c : Configuration} {f : Field} {source : String} (hf : f ∈ c.fields)
    (h : f.Asks source) : c.Asks source := by
  rcases h with rfl | ⟨k, hk, hdeclares⟩
  · exact .inl rfl
  · exact .inr (.inr ⟨k, ⟨f, hf, hk⟩, hdeclares⟩)

theorem Configuration.asks_identitySource (c : Configuration) : c.Asks c.identitySource := by
  cases hc : c.identityPattern with
  | none => exact .inl (by rw [identitySource, hc, Option.getD_none])
  | some source => exact .inr (.inl (by rw [identitySource, hc, Option.getD_some]))

theorem Field.TextFits.imp {f : Field} {s : String} (h : f.TextFits matching s)
    (himp : ∀ source s, f.Asks source → matching source s → other source s) : f.TextFits other s where
  minChars := h.minChars
  maxChars := h.maxChars
  regex source hs := himp source s (.inr ⟨f, .self f, hs⟩) (h.regex source hs)
  address hk hnone := himp addressSource s (.inl rfl) (h.address hk hnone)

/-- An answer stays as it is asked for where more texts match what the field asks them to. -/
theorem Field.Conforms.imp {f : Field} {value : Json} (h : f.Conforms matching value)
    (himp : ∀ source s, f.Asks source → matching source s → other source s) : f.Conforms other value := by
  induction h with
  | text hk hfits => exact .text hk (hfits.imp himp)
  | option hk => exact .option hk
  | object hk hkeys _ hcount ih =>
    refine .object hk hkeys (fun n g value hg hvalue => ih n g value hg hvalue fun source s hasks => ?_) hcount
    exact himp source s (hasks.of_child (List.mem_of_getElem? hg))

theorem Configuration.Conforms.imp {c : Configuration} {s : Submission} (h : c.Conforms matching s)
    (himp : ∀ source s, c.Asks source → matching source s → other source s) : c.Conforms other s := by
  refine ⟨himp _ _ c.asks_identitySource h.identity, ?_⟩
  obtain ⟨members, hmembers, hkeys, hconforms⟩ := h.answers
  refine ⟨members, hmembers, hkeys, fun n f value hf hvalue => ?_⟩
  exact (hconforms n f value hf hvalue).imp fun source s hasks =>
    himp source s (.of_field (List.mem_of_getElem? hf) hasks)

end Asks

/-! ## What a form decides -/

namespace Configuration

theorem exists_pattern_of_asks {c : Configuration} {form : Form} {source : String}
    (h : c.compile = .ok form) (hasks : c.Asks source) : ∃ p, Pattern.ofSource? source = some p := by
  rcases hasks with rfl | hsource
  · exact ⟨addressPattern, Pattern.ofSource?_eq_some_iff.2 Pattern.source_addressPattern⟩
  · exact exists_pattern_of_compile h hsource

/-- **Forms and conformity.** Nothing is wrong with a submission that is as the configuration asks, where each
text matches its expression as a whole. A submission that nothing is wrong with is as the configuration asks
if all expressions of the configuration are well formed on their own. -/
theorem check_decides_conformity {c : Configuration} {form : Form} (h : c.compile = .ok form)
    (s : Submission) :
    (c.Conforms Regex.FullyMatches s → form.check s = []) ∧
      ((∀ source, c.HasPattern source → Regex.WellFormed source.toList) →
        form.check s = [] → c.Conforms Regex.FullyMatches s) := by
  rw [check_eq_nil_iff h]
  constructor
  · intro hs
    -- What has a full match is well formed.
    refine hs.imp fun source text hasks hmatch => ?_
    obtain ⟨p, hp⟩ := exists_pattern_of_asks h hasks
    exact (Pattern.admits_iff_fullyMatches hp hmatch.wellFormed text).2 hmatch
  · intro hwell hs
    refine hs.imp fun source text hasks hadmits => ?_
    have hw : Regex.WellFormed source.toList := by
      rcases hasks with rfl | hsource
      · exact wellFormed_addressSource
      · exact hwell source hsource
    obtain ⟨p, hp⟩ := exists_pattern_of_asks h hasks
    exact (Pattern.admits_iff_fullyMatches hp hw text).1 hadmits

/-- A survey with expressions of its own, one for identities and one for a text. Of the alternatives of the
second one, the first matches only the beginning of what the other does. -/
def badgeSurvey : Configuration :=
  { Configuration.ofNames "ann" "trips" with
    identityPattern := some "[a-z]{2}[0-9]+"
    fields := [(Field.ofKind .text).withConstraint "regex" (.string "a|ab")] }

def badgeSubmission : Submission := ⟨"ab12", .ofMembers [("1", .string "ab")]⟩

theorem wellFormed_of_badgeSurvey {source : String} (h : badgeSurvey.HasPattern source) :
    Regex.WellFormed source.toList := by
  rcases h with hidentity | ⟨f, ⟨g, hg, hwithin⟩, hdeclares⟩
  · cases hidentity
    exact ⟨_, _, rfl, rfl⟩
  · obtain rfl := List.mem_singleton.1 hg
    rcases Field.within_iff.1 hwithin with rfl | ⟨child, hchild, _⟩
    · cases List.mem_singleton.1 hdeclares
      exact ⟨_, _, rfl, rfl⟩
    · exact absurd hchild List.not_mem_nil

theorem check_decides_conformity_badges :
    ∃ form, badgeSurvey.compile = .ok form ∧
      (∀ source, badgeSurvey.HasPattern source → Regex.WellFormed source.toList) ∧
      form.check badgeSubmission = [] ∧ badgeSurvey.Conforms Regex.FullyMatches badgeSubmission := by
  obtain ⟨form, hcompile, hcheck⟩ :
      ∃ form, badgeSurvey.compile = .ok form ∧ form.check badgeSubmission = [] :=
    ⟨_, rfl, by decide +kernel⟩
  have hwell : ∀ source, badgeSurvey.HasPattern source → Regex.WellFormed source.toList :=
    fun _ => wellFormed_of_badgeSurvey
  exact ⟨form, hcompile, hwell, hcheck,
    (check_decides_conformity hcompile badgeSubmission).2 hwell hcheck⟩

/-- Nothing is wrong with an identity that only begins with one of the halves of an expression. -/
theorem halves_without_conformity :
    ∃ form, halvesSurvey.compile = .ok form ∧ form.check ⟨"ax", .object []⟩ = [] ∧
      ¬halvesSurvey.Conforms Regex.FullyMatches ⟨"ax", .object []⟩ := by
  refine ⟨⟨⟨"ann", "trips", by decide, by decide⟩, halves, []⟩, rfl, by decide +kernel, fun hs => ?_⟩
  obtain ⟨t, _, ht, _⟩ := hs.identity.wellFormed
  cases ht

end Configuration
end SurveyIntake
