import Mathlib.Data.List.DropRight
import SurveyIntake.Proofs.Route
import SurveyIntake.Proofs.Selections

/-!
# SurveyIntake.Proofs.ListEntries

Lists that are typed as one text, and the sets that they are written for.

* `IsWhiteSpace`, `Text.isBlank_iff` — the characters that trimming takes.
* `Text.exists_padding` — trimming takes white space at the two ends, and `IsEntry.trim_eq` all of it.
* `IsEntry`             — what can be an entry.
* `Writes`              — a text is one way of writing a set of entries. Each text writes one set only
  (`Writes.entrySet_eq`), and each does write one (`exists_writes`).
* `listEntries_decodes` — the set that a text writes is the one that is listed for it.
-/

namespace SurveyIntake

/-! ## White space -/

/-- The characters with the property `White_Space`. -/
def IsWhiteSpace (c : Char) : Prop :=
  '\t' ≤ c ∧ c ≤ '\r' ∨ '\u2000' ≤ c ∧ c ≤ '\u200a' ∨
    c ∈ [' ', '\u0085', '\u00a0', '\u1680', '\u2028', '\u2029', '\u202f', '\u205f', '\u3000']

namespace Text

theorem isBlank_iff {c : Char} : isBlank c = true ↔ IsWhiteSpace c := by
  have hle : ∀ a b : Char, a ≤ b ↔ a.toNat ≤ b.toNat := fun _ _ => Iff.rfl
  simp only [isBlank, CharSet.contains, blanks, List.any_cons, List.any_nil, Bool.or_eq_true,
    Bool.and_eq_true, decide_eq_true_eq, Bool.false_eq_true, or_false, IsWhiteSpace, List.mem_cons,
    List.not_mem_nil, ← Char.toNat_inj, hle]
  simp only [Char.reduceToNat]
  omega

theorem dropBlank_append {blank s : List Char} (hblank : ∀ c ∈ blank, IsWhiteSpace c)
    (hs : ∀ c rest, s = c :: rest → ¬IsWhiteSpace c) : (blank ++ s).dropWhile isBlank = s := by
  rw [List.dropWhile_append_of_pos fun c hc => isBlank_iff.2 (hblank c hc)]
  cases s with
  | nil => rfl
  | cons c rest => rw [List.dropWhile_cons_of_neg fun hc => hs c rest rfl (isBlank_iff.1 hc)]

theorem trimEnd_append {blank s : List Char} (hblank : ∀ c ∈ blank, IsWhiteSpace c)
    (hs : ∀ c rest, s = rest ++ [c] → ¬IsWhiteSpace c) : trimEnd (s ++ blank) = s := by
  have hlast : ∀ c rest, s.reverse = c :: rest → ¬IsWhiteSpace c := by
    intro c rest hrest
    refine hs c rest.reverse ?_
    rw [← List.reverse_reverse s, hrest, List.reverse_cons]
  have hreversed : ∀ c ∈ blank.reverse, IsWhiteSpace c := fun c hc => hblank c (List.mem_reverse.1 hc)
  rw [trimEnd, List.reverse_append, dropBlank_append hreversed hlast, List.reverse_reverse]

theorem trim_eq_nil {s : List Char} (h : ∀ c ∈ s, IsWhiteSpace c) : trim s = [] := by
  have hdrop := dropBlank_append (s := []) h fun c rest hnil => by cases hnil
  rw [List.append_nil] at hdrop
  rw [trim, hdrop]
  rfl

/-- Only white space at the two ends is taken from a text. -/
theorem exists_padding (s : List Char) : ∃ left right, (∀ c ∈ left, IsWhiteSpace c) ∧
    (∀ c ∈ right, IsWhiteSpace c) ∧ s = left ++ trim s ++ right := by
  refine ⟨s.takeWhile isBlank, (s.dropWhile isBlank).rtakeWhile isBlank,
    fun c hc => isBlank_iff.1 (List.mem_takeWhile_imp hc),
    fun c hc => isBlank_iff.1 (List.mem_rtakeWhile_imp hc), ?_⟩
  have htrim : trim s = (s.dropWhile isBlank).rdropWhile isBlank := rfl
  rw [htrim, List.append_assoc, List.rdropWhile_append_rtakeWhile, List.takeWhile_append_dropWhile]

theorem not_isWhiteSpace_of_dropWhile {s rest : List Char} {c : Char}
    (h : s.dropWhile isBlank = c :: rest) : ¬IsWhiteSpace c := by
  have hfirst := List.head?_dropWhile_not isBlank s
  rw [h] at hfirst
  exact fun hc => Bool.eq_false_iff.1 hfirst (isBlank_iff.2 hc)

theorem not_isWhiteSpace_of_trim_eq_cons {s rest : List Char} {c : Char} (h : trim s = c :: rest) :
    ¬IsWhiteSpace c := by
  obtain ⟨tail, htail⟩ : trim s <+: s.dropWhile isBlank := List.rdropWhile_prefix isBlank _
  rw [h, List.cons_append] at htail
  exact not_isWhiteSpace_of_dropWhile htail.symm

theorem not_isWhiteSpace_of_trim_eq_append {s rest : List Char} {c : Char} (h : trim s = rest ++ [c]) :
    ¬IsWhiteSpace c := by
  have hlast : (s.dropWhile isBlank).reverse.dropWhile isBlank = c :: rest.reverse := by
    rw [← List.reverse_inj, List.reverse_cons, List.reverse_reverse]
    exact h
  exact not_isWhiteSpace_of_dropWhile hlast

end Text

/-! ## Entries -/

/-- What can be an entry of a list: a text that is not empty, has no comma in it, and has no white space at
either end. -/
structure IsEntry (s : List Char) : Prop where
  ne_nil : s ≠ []
  comma_notMem : ',' ∉ s
  starts : ∀ c rest, s = c :: rest → ¬IsWhiteSpace c
  ends : ∀ c rest, s = rest ++ [c] → ¬IsWhiteSpace c

namespace IsEntry

variable {s left right : List Char}

/-- Such a text is what is left when the white space around it is taken away. -/
theorem trim_eq (h : IsEntry s) (hleft : ∀ c ∈ left, IsWhiteSpace c)
    (hright : ∀ c ∈ right, IsWhiteSpace c) : Text.trim (left ++ s ++ right) = s := by
  have hfirst : ∀ c rest, s ++ right = c :: rest → ¬IsWhiteSpace c := by
    intro c rest hcons
    obtain ⟨d, tail, rfl⟩ := List.exists_cons_of_ne_nil h.ne_nil
    cases hcons
    exact h.starts _ _ rfl
  rw [Text.trim, List.append_assoc, Text.dropBlank_append hleft hfirst, Text.trimEnd_append hright h.ends]

/-- All that trimming leaves of a segment, if it leaves anything. -/
theorem of_trim (hne : Text.trim s ≠ []) (hcomma : ',' ∉ s) : IsEntry (Text.trim s) := by
  refine ⟨hne, fun hc => hcomma ?_, fun c rest => Text.not_isWhiteSpace_of_trim_eq_cons,
    fun c rest => Text.not_isWhiteSpace_of_trim_eq_append⟩
  obtain ⟨left, right, _, _, hs⟩ := Text.exists_padding s
  rw [hs]
  exact List.mem_append_left _ (List.mem_append_right _ hc)

end IsEntry

theorem not_isWhiteSpace_comma : ¬IsWhiteSpace ',' := by
  rw [← Text.isBlank_iff]
  decide

/-! ## Writing a set -/

/-- A segment of a list has one entry in it, with any white space around it, or is nothing but white space. -/
inductive Segment : List Char → Finset String → Prop where
  | blank {s : List Char} : (∀ c ∈ s, IsWhiteSpace c) → Segment s ∅
  | padded {left right : List Char} {entry : String} : (∀ c ∈ left, IsWhiteSpace c) →
      IsEntry entry.toList → (∀ c ∈ right, IsWhiteSpace c) →
      Segment (left ++ entry.toList ++ right) {entry}

/-- A text is one way of writing a set of entries: segments with commas between them that have these entries in
them, in any order and each as often as one likes, and any number of segments without an entry. -/
inductive Writes : List Char → Finset String → Prop where
  | last {s : List Char} {entries : Finset String} : Segment s entries → Writes s entries
  | further {s rest : List Char} {held entries : Finset String} : Segment s held → Writes rest entries →
      Writes (s ++ ',' :: rest) (held ∪ entries)

namespace Segment

variable {s : List Char} {entries : Finset String}

theorem of_isEntry (h : IsEntry s) : Segment s {String.ofList s} := by
  rw [← String.toList_ofList (l := s)] at h
  have hnothing : ∀ c ∈ ([] : List Char), IsWhiteSpace c := fun c hc => absurd hc List.not_mem_nil
  have hsegment := padded hnothing h hnothing
  rwa [String.toList_ofList, List.nil_append, List.append_nil] at hsegment

theorem comma_notMem (h : Segment s entries) : ',' ∉ s := by
  cases h with
  | blank hs => exact fun hc => not_isWhiteSpace_comma (hs _ hc)
  | padded hleft hentry hright =>
    simp only [List.mem_append, not_or]
    exact ⟨⟨fun hc => not_isWhiteSpace_comma (hleft _ hc), hentry.comma_notMem⟩,
      fun hc => not_isWhiteSpace_comma (hright _ hc)⟩

theorem isEntry (h : Segment s entries) : ∀ entry ∈ entries, IsEntry entry.toList := by
  cases h with
  | blank => exact fun entry hentry => absurd hentry (Finset.notMem_empty entry)
  | padded _ hentry _ =>
    intro other hother
    rwa [Finset.mem_singleton.1 hother]

theorem entrySet_eq (h : Segment s entries) : entrySet (String.ofList s) = entries := by
  have hsplit : Text.split ',' s = [s] := Text.split_eq_self h.comma_notMem
  rw [entrySet, String.toList_ofList, hsplit, List.map_singleton]
  cases h with
  | blank hs =>
    rw [Text.trim_eq_nil hs]
    rfl
  | padded hleft hentry hright =>
    have hne := hentry.ne_nil
    rw [hentry.trim_eq hleft hright]
    simp [hne]

end Segment

theorem exists_segment {s : List Char} (h : ',' ∉ s) : ∃ entries, Segment s entries := by
  obtain ⟨left, right, hleft, hright, hs⟩ := Text.exists_padding s
  by_cases hnil : Text.trim s = []
  · rw [hnil, List.append_nil] at hs
    refine ⟨∅, .blank fun c hc => ?_⟩
    rw [hs] at hc
    exact (List.mem_append.1 hc).elim (hleft c) (hright c)
  · have hentry : IsEntry (String.ofList (Text.trim s)).toList := by
      rw [String.toList_ofList]
      exact .of_trim hnil h
    have hsegment := Segment.padded hleft hentry hright
    rw [String.toList_ofList, ← hs] at hsegment
    exact ⟨_, hsegment⟩

theorem entrySet_comma (s rest : List Char) : entrySet (String.ofList (s ++ ',' :: rest)) =
    entrySet (String.ofList s) ∪ entrySet (String.ofList rest) := by
  simp [entrySet, Text.split_separator]

namespace Writes

variable {s : List Char} {entries : Finset String}

theorem isEntry (h : Writes s entries) : ∀ entry ∈ entries, IsEntry entry.toList := by
  induction h with
  | last hs => exact hs.isEntry
  | further hs _ ih =>
    intro entry hentry
    rcases Finset.mem_union.1 hentry with hheld | hrest
    · exact hs.isEntry entry hheld
    · exact ih entry hrest

theorem entrySet_eq (h : Writes s entries) : entrySet (String.ofList s) = entries := by
  induction h with
  | last hs => exact hs.entrySet_eq
  | further hs _ ih => rw [entrySet_comma, hs.entrySet_eq, ih]

end Writes

/-- Every text is a way of writing some set. -/
theorem exists_writes (s : List Char) : ∃ entries, Writes s entries := by
  by_cases h : ',' ∈ s
  · obtain ⟨segment, rest, hs, hcomma⟩ := List.eq_append_cons_of_mem h
    have hlength : rest.length < s.length := by
      rw [hs, List.length_append, List.length_cons]
      omega
    obtain ⟨held, hheld⟩ := exists_segment hcomma
    obtain ⟨entries, hentries⟩ := exists_writes rest
    rw [hs]
    exact ⟨_, .further hheld hentries⟩
  · obtain ⟨entries, hentries⟩ := exists_segment h
    exact ⟨_, .last hentries⟩
termination_by s.length

theorem writes_iff {raw : String} {entries : Finset String} :
    Writes raw.toList entries ↔ (listEntries raw).toFinset = entries := by
  have hlisted : ∀ entries, Writes raw.toList entries → (listEntries raw).toFinset = entries := by
    intro entries h
    rw [toFinset_listEntries, ← h.entrySet_eq, String.ofList_toList]
  constructor
  · exact hlisted entries
  · rintro rfl
    obtain ⟨written, h⟩ := exists_writes raw.toList
    rwa [hlisted written h]

example : Writes "b,, a b\u3000,\u00a0,b\t".toList {"a b", "b"} := writes_iff.2 (by decide)

/-- **Lists are read as the sets that they are written for.** What is listed for a text is a set of entries just
if the text is a way of writing that set, whatever the order, the repetitions, the white space around the
entries and the segments without one; and it is listed without repetition. All that is listed is not empty, has
no comma in it and no white space at either end. For two texts with a comma between them, the entries of both
are listed. -/
theorem listEntries_decodes :
    (∀ raw entries, Writes raw.toList entries ↔ (listEntries raw).toFinset = entries) ∧
    (∀ raw, (listEntries raw).Nodup) ∧
    (∀ raw, ∀ entry ∈ listEntries raw, IsEntry entry.toList) ∧
    ∀ a b, (listEntries (a ++ "," ++ b)).toFinset = (listEntries a).toFinset ∪ (listEntries b).toFinset := by
  refine ⟨fun raw entries => writes_iff, nodup_listEntries, fun raw entry hentry => ?_, fun a b => ?_⟩
  · have hwrites : Writes raw.toList (listEntries raw).toFinset := writes_iff.2 rfl
    exact hwrites.isEntry entry (List.mem_toFinset.2 hentry)
  · have hjoined : a ++ "," ++ b = String.ofList (a.toList ++ ',' :: b.toList) := by
      apply String.toList_injective
      simp
    rw [toFinset_listEntries, toFinset_listEntries, toFinset_listEntries, hjoined, entrySet_comma,
      String.ofList_toList, String.ofList_toList]

end SurveyIntake
