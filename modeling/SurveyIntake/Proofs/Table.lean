import SurveyIntake.Assoc

/-!
# SurveyIntake.Proofs.Table

What is found in a table after it has been changed.

* `Assoc.find?_insert`, `Assoc.find?_erase` — look-ups after an insertion or a removal; they need no order.
* `Assoc.insert_perm` — an insertion under a new key adds one entry.
* `Assoc.perm_erase`, `Assoc.erase_insert` — the entry under a key and all the others, which an insertion leaves.
* `Assoc.find?_eq_some_iff` — where keys ascend, looking up is membership.
* `Table.find?_filter` — look-ups among the entries that pass a test.
* `Table.eq_of_find?` — a table is given by what is found in it.
* `Ascending.filter_key` — the entries under a key: none, or exactly one.
* `Assoc.mem_keys_ofList`, `Ascending.ofList` — a table of pairs has their keys, in ascending order.
-/

namespace SurveyIntake
namespace Assoc

instance {κ α : Type} [LT κ] [DecidableLT κ] (pairs : List (κ × α)) : Decidable (Ascending pairs) :=
  inferInstanceAs (Decidable (List.Pairwise _ _))

theorem mem_keys_iff {κ α : Type} {k : κ} {pairs : List (κ × α)} :
    k ∈ keys pairs ↔ ∃ v, (k, v) ∈ pairs := by
  simp [keys]

section Lookup

variable {κ α : Type} [DecidableEq κ]

theorem find?_insert [LT κ] [DecidableLT κ] (k l : κ) (v : α) (pairs : List (κ × α)) :
    find? l (insert k v pairs) = if l = k then some v else find? l pairs := by
  induction pairs with
  | nil => simp [insert, find?]
  | cons p rest ih =>
    obtain ⟨m, w⟩ := p
    simp only [insert]
    split
    · rename_i hkm
      subst hkm
      by_cases hlk : l = k <;> simp [find?, hlk]
    · rename_i hkm
      split
      · by_cases hlk : l = k <;> simp [find?, hlk]
      · simp only [find?, ih]
        by_cases hlm : l = m
        · subst hlm
          have hlk : l ≠ k := fun h => hkm h.symm
          simp [hlk]
        · simp [hlm]

theorem find?_erase (k l : κ) (pairs : List (κ × α)) :
    find? l (erase k pairs) = if l = k then none else find? l pairs := by
  induction pairs with
  | nil => simp [erase, find?]
  | cons p rest ih =>
    obtain ⟨m, w⟩ := p
    simp only [erase]
    split
    · rename_i hkm
      subst hkm
      rw [ih]
      by_cases hlk : l = k <;> simp [find?, hlk]
    · rename_i hkm
      simp only [find?, ih]
      by_cases hlm : l = m
      · subst hlm
        have hlk : l ≠ k := fun h => hkm h.symm
        simp [hlk]
      · simp [hlm]

theorem mem_of_find? {k : κ} {v : α} {pairs : List (κ × α)} (h : find? k pairs = some v) :
    (k, v) ∈ pairs := by
  induction pairs with
  | nil => simp [find?] at h
  | cons p rest ih =>
    obtain ⟨m, w⟩ := p
    simp only [find?] at h
    split at h
    · rename_i hkm
      cases h
      simp [hkm]
    · exact List.mem_cons_of_mem _ (ih h)

theorem find?_eq_none_iff {k : κ} {pairs : List (κ × α)} :
    find? k pairs = none ↔ k ∉ keys pairs := by
  induction pairs with
  | nil => simp [find?, keys]
  | cons p rest ih =>
    obtain ⟨m, w⟩ := p
    by_cases hkm : k = m
    · simp [find?, keys, hkm]
    · simp only [find?, if_neg hkm, ih, keys, List.map_cons, List.mem_cons, not_or]
      exact ⟨fun h => ⟨hkm, h⟩, fun h => h.2⟩

/-- What is put under a key changes nothing under the others. -/
theorem erase_insert [LT κ] [DecidableLT κ] (k : κ) (v : α) (pairs : List (κ × α)) :
    erase k (insert k v pairs) = erase k pairs := by
  induction pairs with
  | nil => simp [insert, erase]
  | cons p rest ih =>
    obtain ⟨m, w⟩ := p
    simp only [insert]
    split
    · rename_i hkm
      simp [erase, hkm]
    · rename_i hkm
      split
      · simp [erase]
      · simp [erase, hkm, ih]

theorem erase_eq_self {k : κ} {pairs : List (κ × α)} (h : k ∉ keys pairs) : erase k pairs = pairs := by
  induction pairs with
  | nil => rfl
  | cons p rest ih =>
    obtain ⟨m, w⟩ := p
    obtain ⟨hkm, hrest⟩ : k ≠ m ∧ k ∉ keys rest := not_or.1 (mt List.mem_cons.2 h)
    rw [erase, if_neg hkm, ih hrest]

/-- Where no key is there twice, the entries are the one under a key and all that is left without it. -/
theorem perm_erase {k : κ} {v : α} {pairs : List (κ × α)} (hnodup : (keys pairs).Nodup)
    (h : find? k pairs = some v) : pairs.Perm ((k, v) :: erase k pairs) := by
  induction pairs with
  | nil => cases h
  | cons p rest ih =>
    obtain ⟨m, w⟩ := p
    obtain ⟨hfresh, hrest⟩ := List.nodup_cons.1 hnodup
    simp only [find?] at h
    split at h
    · rename_i hkm
      subst hkm
      cases h
      rw [erase, if_pos rfl, erase_eq_self hfresh]
    · rename_i hkm
      rw [erase, if_neg hkm]
      exact ((ih hrest h).cons _).trans (.swap _ _ _)

theorem mem_insert [LT κ] [DecidableLT κ] {k : κ} {v : α} {pairs : List (κ × α)} {e : κ × α}
    (h : e ∈ insert k v pairs) : e = (k, v) ∨ e ∈ pairs := by
  induction pairs with
  | nil => exact .inl (List.mem_singleton.1 h)
  | cons p rest ih =>
    simp only [insert] at h
    split at h
    · exact (List.mem_cons.1 h).imp_right (List.mem_cons_of_mem _)
    split at h
    · exact List.mem_cons.1 h
    · rcases List.mem_cons.1 h with rfl | h
      · exact .inr List.mem_cons_self
      · exact (ih h).imp_right (List.mem_cons_of_mem _)

theorem exists_find?_iff {k : κ} {pairs : List (κ × α)} :
    (∃ v, find? k pairs = some v) ↔ k ∈ keys pairs := by
  constructor
  · rintro ⟨v, hv⟩
    exact List.mem_map.2 ⟨_, mem_of_find? hv, rfl⟩
  · intro hk
    cases hv : find? k pairs with
    | none => exact absurd hk (find?_eq_none_iff.1 hv)
    | some v => exact ⟨v, rfl⟩

end Lookup

section Order

variable {κ α : Type} [LT κ] [Std.Irrefl (α := κ) (· < ·)]

theorem Ascending.nodup {pairs : List (κ × α)} (h : Ascending pairs) : (keys pairs).Nodup := by
  refine List.Pairwise.imp ?_ h
  intro a b hab he
  subst he
  exact Std.Irrefl.irrefl (r := (· < ·)) a hab

/-- Each key has one value only. -/
theorem Ascending.unique {pairs : List (κ × α)} (h : Ascending pairs) {k : κ} {v w : α}
    (hv : (k, v) ∈ pairs) (hw : (k, w) ∈ pairs) : v = w := by
  induction pairs with
  | nil => cases hv
  | cons p rest ih =>
    obtain ⟨m, x⟩ := p
    have fresh : ∀ y, (m, y) ∉ rest := fun y hy =>
      (List.nodup_cons.1 h.nodup).1 (List.mem_map.2 ⟨_, hy, rfl⟩)
    rcases List.mem_cons.1 hv with ev | tv <;> rcases List.mem_cons.1 hw with ew | tw
    · cases ev
      cases ew
      rfl
    · cases ev
      exact absurd tw (fresh w)
    · cases ew
      exact absurd tv (fresh v)
    · exact ih (List.pairwise_cons.1 h).2 tv tw

theorem Ascending.find?_eq_some_iff [DecidableEq κ] {pairs : List (κ × α)} (h : Ascending pairs)
    {k : κ} {v : α} : find? k pairs = some v ↔ (k, v) ∈ pairs := by
  constructor
  · exact mem_of_find?
  · intro hv
    have hk : k ∈ keys pairs := List.mem_map.2 ⟨_, hv, rfl⟩
    obtain ⟨w, hw⟩ := exists_find?_iff.2 hk
    rw [hw, h.unique hv (mem_of_find? hw)]

/-- The entries under a key: none, or exactly one. -/
theorem Ascending.filter_key [DecidableEq κ] {pairs : List (κ × α)} (h : Ascending pairs) (k : κ) :
    pairs.filter (fun e => e.1 = k) = ((find? k pairs).map fun v => (k, v)).toList := by
  induction pairs with
  | nil => rfl
  | cons p rest ih =>
    obtain ⟨m, w⟩ := p
    have hrest := ih (List.pairwise_cons.1 h).2
    by_cases hkm : k = m
    · subst hkm
      have absent : find? k rest = none := find?_eq_none_iff.2 (List.nodup_cons.1 h.nodup).1
      rw [absent] at hrest
      simp [find?, hrest]
    · have hmk : m ≠ k := fun e => hkm e.symm
      simp [find?, hkm, hmk, hrest]

end Order

section OfList

variable {κ α : Type} [LT κ] [DecidableLT κ] [DecidableEq κ]

theorem mem_keys_foldl_insert {k : κ} {pairs done : List (κ × α)} :
    k ∈ keys (pairs.foldl (fun done p => insert p.1 p.2 done) done) ↔
      k ∈ keys done ∨ k ∈ keys pairs := by
  induction pairs generalizing done with
  | nil => simp [keys]
  | cons p rest ih =>
    rw [List.foldl_cons, ih, mem_keys_insert]
    simp only [keys, List.map_cons, List.mem_cons]
    rw [or_assoc, or_left_comm]

theorem mem_keys_ofList {k : κ} {pairs : List (κ × α)} : k ∈ keys (ofList pairs) ↔ k ∈ keys pairs := by
  rw [ofList, mem_keys_foldl_insert]
  simp [keys]

variable [Trans (α := κ) (· < ·) (· < ·) (· < ·)] [Std.Trichotomous (α := κ) (· < ·)]

theorem Ascending.foldl_insert {pairs done : List (κ × α)} (h : Ascending done) :
    Ascending (pairs.foldl (fun done p => Assoc.insert p.1 p.2 done) done) := by
  induction pairs generalizing done with
  | nil => exact h
  | cons p rest ih => exact ih h.insert

theorem Ascending.ofList (pairs : List (κ × α)) : Ascending (Assoc.ofList pairs) :=
  .foldl_insert .nil

end OfList

end Assoc

namespace Table

variable {κ α : Type} [LT κ] [DecidableEq κ]

theorem find?_insert [DecidableLT κ] [Trans (α := κ) (· < ·) (· < ·) (· < ·)]
    [Std.Trichotomous (α := κ) (· < ·)] (k l : κ) (v : α) (t : Table κ α) :
    (t.insert k v).find? l = if l = k then some v else t.find? l := Assoc.find?_insert k l v _

theorem find?_erase (k l : κ) (t : Table κ α) :
    (t.erase k).find? l = if l = k then none else t.find? l := Assoc.find?_erase k l _

variable [Std.Irrefl (α := κ) (· < ·)]

theorem find?_eq_some_iff {t : Table κ α} {k : κ} {v : α} :
    t.find? k = some v ↔ (k, v) ∈ t.entries := t.ascending.find?_eq_some_iff

theorem find?_filter (p : κ × α → Bool) (k : κ) (t : Table κ α) :
    (t.filter p).find? k = (t.find? k).filter fun v => p (k, v) := by
  ext v
  rw [find?_eq_some_iff, Option.filter_eq_some_iff, find?_eq_some_iff]
  exact List.mem_filter

omit [DecidableEq κ] [Std.Irrefl (α := κ) (· < ·)] in
theorem filter_eq_self {p : κ × α → Bool} {t : Table κ α} (h : ∀ e ∈ t.entries, p e = true) :
    t.filter p = t := by
  have hentries : t.entries.filter p = t.entries := List.filter_eq_self.2 h
  cases t
  simp only [filter, hentries]

theorem filter_key (k : κ) (t : Table κ α) :
    t.entries.filter (fun e => e.1 = k) = ((t.find? k).map fun v => (k, v)).toList :=
  t.ascending.filter_key k

/-- Tables in which the same is found are equal. -/
theorem eq_of_find? [Trans (α := κ) (· < ·) (· < ·) (· < ·)] {t u : Table κ α}
    (h : ∀ k, t.find? k = u.find? k) : t = u := by
  have hmem : ∀ p, p ∈ t.entries ↔ p ∈ u.entries := by
    rintro ⟨k, v⟩
    rw [← find?_eq_some_iff, ← find?_eq_some_iff, h]
  have hnodup : ∀ w : Table κ α, w.entries.Nodup := fun w =>
    List.Pairwise.of_map Prod.fst (fun _ _ hne he => hne (congrArg Prod.fst he)) w.ascending.nodup
  have hperm : t.entries.Perm u.entries :=
    (List.perm_ext_iff_of_nodup (hnodup t) (hnodup u)).2 hmem
  have hentries : t.entries = u.entries := by
    refine hperm.eq_of_pairwise ?_ (List.pairwise_map.1 t.ascending) (List.pairwise_map.1 u.ascending)
    intro a b _ _ hab hba
    have haa : a.1 < a.1 := Trans.trans hab hba
    exact absurd haa (Std.Irrefl.irrefl a.1)
  cases t
  cases u
  cases hentries
  rfl

end Table
end SurveyIntake
