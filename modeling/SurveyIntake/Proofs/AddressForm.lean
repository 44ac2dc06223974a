import SurveyIntake.Form.Check
import SurveyIntake.Proofs.Address
import SurveyIntake.Proofs.Mirror

/-!
# SurveyIntake.Proofs.AddressForm

Which texts are addresses, where no pattern is given.

* `beforeSign`, `afterSign` — a text on either side of its first sign.
* `IsAddress`     — what is asked of an address, without a word on how it is put together.
* `isAddress_iff` — these are the texts that three parts make up.
* `Configuration.default_patterns` — identities and fields without a pattern of their own take addresses.
-/

namespace SurveyIntake

def beforeSign (s : List Char) : List Char := s.takeWhile (· != '@')

def afterSign (s : List Char) : List Char := (s.dropWhile (· != '@')).tail

/-- There is no white space, and one sign with something before it. After the sign there is a point that is
neither the first character there nor the last. -/
structure IsAddress (s : List Char) : Prop where
  unblank : ∀ c ∈ s, Text.isBlank c = false
  sign : s.count '@' = 1
  named : beforeSign s ≠ []
  pointed : ∃ k, 0 < k ∧ k + 1 < (afterSign s).length ∧ (afterSign s)[k]? = some '.'

/-! ## Addresses -/

theorem sides_of_append {name : List Char} (h : '@' ∉ name) (rest : List Char) :
    beforeSign (name ++ '@' :: rest) = name ∧ afterSign (name ++ '@' :: rest) = rest := by
  have hname : ∀ c ∈ name, (c != '@') = true := by
    intro c hc
    have : c ≠ '@' := fun e => h (e ▸ hc)
    simpa using this
  constructor
  · rw [beforeSign, List.takeWhile_append_of_pos hname]
    simp
  · rw [afterSign, List.dropWhile_append_of_pos hname]
    simp

theorem IsPart.sign_not_mem {word : List Char} (h : IsPart word) : '@' ∉ word :=
  fun hsign => (h.plain _ hsign).1 rfl

theorem isPart_iff {word : List Char} :
    IsPart word ↔ word ≠ [] ∧ '@' ∉ word ∧ ∀ c ∈ word, Text.isBlank c = false := by
  constructor
  · intro h
    exact ⟨h.ne_nil, h.sign_not_mem, fun c hc => (h.plain c hc).2⟩
  · rintro ⟨hne, hsign, hblank⟩
    exact ⟨hne, fun c hc => ⟨fun e => hsign (e ▸ hc), hblank c hc⟩⟩

theorem pointed_iff {s : List Char} : (∃ k, 0 < k ∧ k + 1 < s.length ∧ s[k]? = some '.') ↔
    ∃ host top, host ≠ [] ∧ top ≠ [] ∧ s = host ++ '.' :: top := by
  constructor
  · rintro ⟨k, hpos, hlast, hpoint⟩
    obtain ⟨hk, hget⟩ := List.getElem?_eq_some_iff.1 hpoint
    refine ⟨s.take k, s.drop (k + 1), ?_, ?_, ?_⟩
    · rw [← List.length_pos_iff, List.length_take]
      omega
    · rw [← List.length_pos_iff, List.length_drop]
      omega
    · rw [← hget, ← List.drop_eq_getElem_cons hk, List.take_append_drop]
  · rintro ⟨host, top, hhost, htop, rfl⟩
    have hhost := List.length_pos_iff.2 hhost
    have htop := List.length_pos_iff.2 htop
    refine ⟨host.length, hhost, ?_, by simp⟩
    rw [List.length_append, List.length_cons]
    omega

/-- An address is made up of three parts, and what three parts make up is an address. Which of the points
after the sign stands between the last two of them is left open. -/
theorem isAddress_iff {s : List Char} : IsAddress s ↔ ∃ name host top,
    IsPart name ∧ IsPart host ∧ IsPart top ∧ s = name ++ ['@'] ++ host ++ ['.'] ++ top := by
  constructor
  · rintro ⟨hblank, hsign, hnamed, hpointed⟩
    obtain ⟨name, rest, rfl, hname⟩ := List.eq_append_cons_of_mem (List.count_pos_iff.1 (hsign ▸ Nat.one_pos))
    obtain ⟨hbefore, hafter⟩ := sides_of_append hname rest
    rw [hbefore] at hnamed
    rw [hafter, pointed_iff] at hpointed
    obtain ⟨host, top, hhost, htop, rfl⟩ := hpointed
    -- The one sign is the one that the text is divided at, so that there is none in the parts after it.
    have hrest : '@' ∉ host ++ '.' :: top := by
      rw [List.count_append, List.count_cons_self] at hsign
      exact List.count_eq_zero.1 (by omega)
    simp only [List.mem_append, List.mem_cons, not_or] at hrest
    simp only [List.mem_append, List.mem_cons] at hblank
    exact ⟨name, host, top, isPart_iff.2 ⟨hnamed, hname, fun c hc => hblank c (.inl hc)⟩,
      isPart_iff.2 ⟨hhost, hrest.1, fun c hc => hblank c (.inr (.inr (.inl hc)))⟩,
      isPart_iff.2 ⟨htop, hrest.2.2, fun c hc => hblank c (.inr (.inr (.inr (.inr hc))))⟩, by simp⟩
  · rintro ⟨name, host, top, hname, hhost, htop, rfl⟩
    have hs : name ++ ['@'] ++ host ++ ['.'] ++ top = name ++ '@' :: (host ++ '.' :: top) := by simp
    obtain ⟨hbefore, hafter⟩ := sides_of_append hname.sign_not_mem (host ++ '.' :: top)
    rw [hs]
    refine ⟨fun c hc => ?_, ?_, ?_, ?_⟩
    · simp only [List.mem_append, List.mem_cons] at hc
      rcases hc with hc | rfl | hc | rfl | hc
      · exact (hname.plain c hc).2
      · decide
      · exact (hhost.plain c hc).2
      · decide
      · exact (htop.plain c hc).2
    · simp [List.count_append, List.count_eq_zero.2 hname.sign_not_mem,
        List.count_eq_zero.2 hhost.sign_not_mem, List.count_eq_zero.2 htop.sign_not_mem]
    · rw [hbefore]
      exact hname.ne_nil
    · rw [hafter, pointed_iff]
      exact ⟨host, top, hhost.ne_nil, htop.ne_nil, rfl⟩

theorem accepts_iff_isAddress {s : String} :
    addressPattern.accepts s = true ↔ IsAddress s.toList := by
  rw [accepts_addressPattern_iff, isAddress_iff]

/-! ## Where no pattern is given -/

/-- A field that asks for an address without a pattern has the pattern of addresses for its one pattern. -/
theorem Field.HasRules.filter_isPattern {f : Field} {rules : List Rule} (h : f.HasRules rules)
    (hneeds : NeedsAddress f.kind f.constraints.entries) :
    rules.filter Rule.isPattern = [.pattern addressPattern] := by
  obtain ⟨declared, hdeclared, _, rfl⟩ := h
  have hnone : declared.filter Rule.isPattern = [] := by
    refine List.filter_eq_nil_iff.2 fun r hr hpattern => hneeds.2 ?_
    rw [Assoc.keys, ← hdeclared, List.map_map]
    exact List.mem_map.2 ⟨r, hr, Rule.isPattern_iff.1 hpattern⟩
  rw [if_pos hneeds, List.filter_append, hnone]
  rfl

namespace Configuration

theorem exists_hasRules {c : Configuration} {form : Form} (h : c.compile = .ok form) {route : Route}
    {f : Field} (hf : c.at? route = some f) : ∃ i, form.at? route = some i ∧ f.HasRules i.rules := by
  have hrel := (form_mirrors h).shape route
  rw [hf] at hrel
  generalize form.at? route = found at hrel
  cases hrel with
  | some hi => exact ⟨_, rfl, hi.2⟩

/-- **Where no pattern is given, addresses are asked for.** A text is accepted as an identity by the survey of
a configuration without a pattern of identities just if it is an address: no white space, one sign, something
before the sign, and after it a point that is neither first nor last. So is a text by the rule of a field,
wherever the field stands, that asks for an address and declares no pattern; it has this one rule about how
texts are written. -/
theorem default_patterns {c : Configuration} {form : Form} (h : c.compile = .ok form) :
    (c.identityPattern = none → ∀ s, form.checkIdentity s = [] ↔ IsAddress s.toList) ∧
    ∀ route f, c.at? route = some f → f.kind = .email → (∀ value, ¬f.Declares "regex" value) →
      ∃ i r, form.at? route = some i ∧ i.rules.filter Rule.isPattern = [r] ∧
        ∀ s, r.textFault? s = none ↔ IsAddress s.toList := by
  constructor
  · intro hnone s
    have hidentity : form.identity = addressPattern := by
      have hsource := (compile_eq_ok_iff.1 h).2.1
      rw [identity, hnone] at hsource
      exact (Except.ok.inj hsource).symm
    rw [Form.checkIdentity, hidentity, ← accepts_iff_isAddress, ite_eq_left_iff]
    simp
  · intro route f hf hkind hregex
    have hneeds : NeedsAddress f.kind f.constraints.entries := by
      refine ⟨hkind, fun hkey => ?_⟩
      obtain ⟨⟨name, value⟩, he, rfl⟩ := List.mem_map.1 hkey
      exact hregex value he
    obtain ⟨i, hi, hrules⟩ := exists_hasRules h hf
    refine ⟨i, .pattern addressPattern, hi, hrules.filter_isPattern hneeds, fun s => ?_⟩
    rw [Rule.textFault?, ← accepts_iff_isAddress, ite_eq_left_iff]
    simp

theorem default_patterns_rooms :
    roomSurvey.compile = .ok roomForm ∧ IsAddress "cora@home..org".toList ∧
      roomForm.checkIdentity "cora@home..org" = [] ∧
      ∃ i r, roomForm.at? [2] = some i ∧ i.rules.filter Rule.isPattern = [r] ∧
        r.textFault? "cora@home..org" = none := by
  have hcompile : roomSurvey.compile = .ok roomForm := rfl
  have hplain : ("cora@home..org".toList.all fun c => !Text.isBlank c) = true := by decide
  have haddress : IsAddress "cora@home..org".toList :=
    ⟨fun c hc => by simpa using List.all_eq_true.1 hplain c hc, by decide, by decide, 4, by decide, by decide, by decide⟩
  have hpatterns := default_patterns hcompile
  have hkeys : "regex" ∉ Assoc.keys [("max_chars", Json.nat 9)] := by decide
  obtain ⟨i, r, hi, hr, hs⟩ := hpatterns.2 [2] _ rfl rfl fun value hvalue =>
    hkeys (List.mem_map_of_mem hvalue)
  exact ⟨hcompile, haddress, (hpatterns.1 rfl _).2 haddress, i, r, hi, hr, (hs _).2 haddress⟩

end Configuration
end SurveyIntake
