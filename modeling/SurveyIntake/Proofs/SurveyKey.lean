import Mathlib.Data.List.Basic
import SurveyIntake.SurveyKey

/-!
# SurveyIntake.Proofs.SurveyKey

Keys of surveys and their texts.

* `SurveyKey.make_eq_ok_iff`, `SurveyKey.exists_make_iff` — a key is made of any two names, and keeps them.
* `SurveyKey.parse_text`, `SurveyKey.text_of_parse` — parsing undoes writing, and writing undoes parsing.
* `SurveyKey.text_injective` — different keys have different texts, since no name has a point in it.
* `IsRun`                    — the names that keys are made of, by their characters.
* `SurveyKey.keys_correspond_to_texts` — keys correspond to the texts of two runs with a point between them.
-/

namespace SurveyIntake

theorem IsName.point_not_mem {s : String} (h : IsName s) : '.' ∉ s.toList := by
  intro hp
  have : isNameChar '.' = true := List.all_eq_true.1 h.2 _ hp
  exact absurd this (by decide)

/-- A run of ASCII letters, digits, hyphens and low lines that is not empty. -/
structure IsRun (s : List Char) : Prop where
  ne_nil : s ≠ []
  plain : ∀ c ∈ s, 'A' ≤ c ∧ c ≤ 'Z' ∨ 'a' ≤ c ∧ c ≤ 'z' ∨ '0' ≤ c ∧ c ≤ '9' ∨ c = '-' ∨ c = '_'

theorem isNameChar_iff {c : Char} : isNameChar c = true ↔
    'A' ≤ c ∧ c ≤ 'Z' ∨ 'a' ≤ c ∧ c ≤ 'z' ∨ '0' ≤ c ∧ c ≤ '9' ∨ c = '-' ∨ c = '_' := by
  have hranges : isNameChar c = ((decide ('A' ≤ c ∧ c ≤ 'Z') ||
      decide ('a' ≤ c) && decide (c ≤ 'z') || decide ('0' ≤ c) && decide (c ≤ '9')) ||
        c == '-' || c == '_') := rfl
  simp only [hranges, Bool.or_eq_true, Bool.and_eq_true, decide_eq_true_eq, beq_iff_eq, or_assoc]

theorem isName_iff_isRun {s : String} : IsName s ↔ IsRun s.toList := by
  have hplain : s.toList.all isNameChar = true ↔ ∀ c ∈ s.toList, isNameChar c = true := List.all_eq_true
  constructor
  · rintro ⟨hne, hall⟩
    exact ⟨hne, fun c hc => isNameChar_iff.1 (hplain.1 hall c hc)⟩
  · rintro ⟨hne, hall⟩
    exact ⟨hne, hplain.2 fun c hc => isNameChar_iff.2 (hall c hc)⟩

namespace SurveyKey

theorem make_eq_ok_iff {adminName surveyName : String} {key : SurveyKey} :
    make adminName surveyName = .ok key ↔ key.adminName = adminName ∧ key.surveyName = surveyName := by
  unfold make
  constructor
  · intro h
    split at h
    · cases h
    · split at h
      · cases h
      · cases h
        exact ⟨rfl, rfl⟩
  · rintro ⟨rfl, rfl⟩
    split
    · rename_i e he
      rw [nameFault?_eq_none_iff.2 key.adminName_isName] at he
      cases he
    · split
      · rename_i e he
        rw [nameFault?_eq_none_iff.2 key.surveyName_isName] at he
        cases he
      · rfl

theorem exists_make_iff {adminName surveyName : String} :
    (∃ key, make adminName surveyName = .ok key) ↔ IsName adminName ∧ IsName surveyName := by
  constructor
  · rintro ⟨key, h⟩
    obtain ⟨rfl, rfl⟩ := make_eq_ok_iff.1 h
    exact ⟨key.adminName_isName, key.surveyName_isName⟩
  · rintro ⟨ha, hs⟩
    exact ⟨⟨adminName, surveyName, ha, hs⟩, make_eq_ok_iff.2 ⟨rfl, rfl⟩⟩

theorem text_toList (key : SurveyKey) :
    key.text.toList = key.adminName.toList ++ '.' :: key.surveyName.toList := by
  simp [text]

/-- The text of a key before its point, and what is from there on. -/
theorem split_text (key : SurveyKey) :
    key.text.toList.takeWhile (· != '.') = key.adminName.toList ∧
      key.text.toList.drop key.adminName.toList.length = '.' :: key.surveyName.toList := by
  have hname : ∀ c ∈ key.adminName.toList, (c != '.') = true := by
    intro c hc
    have : c ≠ '.' := fun h => key.adminName_isName.point_not_mem (h ▸ hc)
    simpa using this
  rw [text_toList, List.takeWhile_append_of_pos hname]
  simp

theorem parse_text (key : SurveyKey) : parse key.text = .ok key := by
  obtain ⟨hfirst, hsecond⟩ := key.split_text
  simp only [parse, hfirst, hsecond, String.ofList_toList]
  exact make_eq_ok_iff.2 ⟨rfl, rfl⟩

theorem text_of_parse {s : String} {key : SurveyKey} (h : parse s = .ok key) : key.text = s := by
  have hsplit := List.takeWhile_append_dropWhile (p := (· != '.')) (l := s.toList)
  have hdrop : s.toList.drop (s.toList.takeWhile (· != '.')).length = s.toList.dropWhile (· != '.') := by
    have : (s.toList.takeWhile (· != '.') ++ s.toList.dropWhile (· != '.')).drop
        (s.toList.takeWhile (· != '.')).length = s.toList.dropWhile (· != '.') := List.drop_left
    rwa [hsplit] at this
  simp only [parse, hdrop] at h
  split at h
  · cases h
  · rename_i c second hrest
    obtain ⟨hadmin, hsurvey⟩ := make_eq_ok_iff.1 h
    have hc : c = '.' := by
      have := List.head?_dropWhile_not (· != '.') s.toList
      rw [hrest] at this
      simpa using this
    subst hc
    apply String.toList_injective
    rw [text_toList, hadmin, hsurvey, String.toList_ofList, String.toList_ofList, ← hrest, hsplit]

theorem text_injective {a b : SurveyKey} (h : a.text = b.text) : a = b := by
  have := parse_text a
  rw [h, parse_text b] at this
  cases this
  rfl

theorem parse_eq_ok_iff {s : String} {key : SurveyKey} : parse s = .ok key ↔ key.text = s := by
  constructor
  · exact text_of_parse
  · rintro rfl
    exact parse_text key

/-- A text is that of a key just if it is two runs with a point between them. -/
theorem exists_parse_iff {s : String} : (∃ key, parse s = .ok key) ↔
    ∃ admin survey, IsRun admin ∧ IsRun survey ∧ s.toList = admin ++ '.' :: survey := by
  constructor
  · rintro ⟨key, hkey⟩
    obtain rfl := text_of_parse hkey
    exact ⟨_, _, isName_iff_isRun.1 key.adminName_isName, isName_iff_isRun.1 key.surveyName_isName,
      key.text_toList⟩
  · rintro ⟨admin, survey, hadmin, hsurvey, hs⟩
    have hname : ∀ run, IsRun run → IsName (String.ofList run) := by
      intro run hrun
      rw [isName_iff_isRun, String.toList_ofList]
      exact hrun
    let key : SurveyKey := ⟨_, _, hname admin hadmin, hname survey hsurvey⟩
    refine ⟨key, parse_eq_ok_iff.2 (String.toList_injective ?_)⟩
    rw [text_toList, hs, String.toList_ofList, String.toList_ofList]

/-- Two names make the key of the text they are the parts of. -/
theorem make_iff_parse {a b : String} {key : SurveyKey} :
    make a b = .ok key ↔ parse (a ++ "." ++ b) = .ok key ∧ '.' ∉ a.toList := by
  rw [make_eq_ok_iff, parse_eq_ok_iff]
  constructor
  · rintro ⟨rfl, rfl⟩
    exact ⟨rfl, key.adminName_isName.point_not_mem⟩
  · rintro ⟨htext, _⟩
    have hlist : key.adminName.toList ++ '.' :: key.surveyName.toList = a.toList ++ '.' :: b.toList := by
      rw [← text_toList, htext]
      simp
    -- A key has one point only, so that it stands at the same place on both sides.
    obtain ⟨hadmin, _, hsurvey⟩ := (List.append_cons_inj_of_notMem
      key.adminName_isName.point_not_mem key.surveyName_isName.point_not_mem).1 hlist
    exact ⟨String.toList_injective hadmin, String.toList_injective hsurvey⟩

/-- **Keys and their texts correspond one to one.** A text is that of a key just if it is two runs of ASCII
letters, digits, hyphens and low lines, neither of them empty, with one point between them. Reading a text
undoes writing it and the other way round. Two names make a key just if what they make with a point between
them is read as one, and it is the same key; the first of them then has no point in it. Keys with the same
text are the same. -/
theorem keys_correspond_to_texts :
    (∀ s, (∃ key, parse s = .ok key) ↔
      ∃ admin survey, IsRun admin ∧ IsRun survey ∧ s.toList = admin ++ '.' :: survey) ∧
    (∀ s key, parse s = .ok key ↔ key.text = s) ∧
    (∀ a b key, make a b = .ok key ↔ parse (a ++ "." ++ b) = .ok key ∧ '.' ∉ a.toList) ∧
    ∀ key other : SurveyKey, key.text = other.text ↔ key = other := by
  refine ⟨fun s => exists_parse_iff, fun s key => parse_eq_ok_iff, fun a b key => make_iff_parse,
    fun key other => ⟨text_injective, ?_⟩⟩
  rintro rfl
  rfl

end SurveyKey
end SurveyIntake
