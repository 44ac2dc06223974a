import SurveyIntake.Report

/-!
# SurveyIntake.Proofs.Enumeration

Reports that have exactly one violation for each of some facts.

* `Enumerates` — facts, each with its violation, can be put in an order without repetition such that the
  report is that of their violations.
* `Enumerates.nodup` — facts that are told by their violations are reported once.
* `Enumerates.append`, `Enumerates.flatMap`, `Enumerates.filterMap` — reports put together from others.
-/

namespace SurveyIntake

/-- The report has exactly one violation for each fact that holds, and no others. -/
def Enumerates {α : Type} (P : α → Violation → Prop) (report : Report) : Prop :=
  ∃ facts : List (α × Violation), (facts.map Prod.fst).Nodup ∧ (∀ x v, (x, v) ∈ facts ↔ P x v) ∧
    facts.map Prod.snd = report

namespace Enumerates

variable {α β ι : Type} {P Q : α → Violation → Prop} {r r' : Report}

theorem congr (h : Enumerates P r) (hPQ : ∀ x v, P x v ↔ Q x v) : Enumerates Q r := by
  obtain ⟨facts, hnodup, hmem, hr⟩ := h
  exact ⟨facts, hnodup, fun x v => (hmem x v).trans (hPQ x v), hr⟩

theorem mem_iff (h : Enumerates P r) {v : Violation} : v ∈ r ↔ ∃ x, P x v := by
  obtain ⟨facts, _, hmem, rfl⟩ := h
  constructor
  · intro hv
    obtain ⟨⟨x, _⟩, hfact, rfl⟩ := List.mem_map.1 hv
    exact ⟨x, (hmem _ _).1 hfact⟩
  · rintro ⟨x, hx⟩
    exact List.mem_map.2 ⟨(x, v), (hmem _ _).2 hx, rfl⟩

/-- Where facts are told by their violations, none of these is reported twice. -/
theorem nodup (h : Enumerates P r) (unique : ∀ x y v, P x v → P y v → x = y) : r.Nodup := by
  obtain ⟨facts, hnodup, hmem, rfl⟩ := h
  have hfacts : facts.Pairwise fun p q => p.1 ≠ q.1 := List.pairwise_map.1 hnodup
  refine List.pairwise_map.2 (hfacts.imp_of_mem fun hp hq hne he => hne ?_)
  exact unique _ _ _ ((hmem _ _).1 hp) (he ▸ (hmem _ _).1 hq)

theorem nil (h : ∀ x v, ¬P x v) : Enumerates P [] :=
  ⟨[], List.nodup_nil, fun x v => by simpa using h x v, rfl⟩

theorem append (hP : Enumerates P r) (hQ : Enumerates Q r')
    (disjoint : ∀ x v w, P x v → ¬Q x w) : Enumerates (fun x v => P x v ∨ Q x v) (r ++ r') := by
  obtain ⟨ps, hps, hmemp, rfl⟩ := hP
  obtain ⟨qs, hqs, hmemq, rfl⟩ := hQ
  refine ⟨ps ++ qs, ?_, fun x v => ?_, List.map_append⟩
  · rw [List.map_append, List.nodup_append]
    refine ⟨hps, hqs, fun x hx y hy he => ?_⟩
    subst he
    obtain ⟨⟨_, v⟩, hv, rfl⟩ := List.mem_map.1 hx
    obtain ⟨⟨_, w⟩, hw, rfl⟩ := List.mem_map.1 hy
    exact disjoint _ v w ((hmemp _ _).1 hv) ((hmemq _ _).1 hw)
  · rw [List.mem_append, hmemp, hmemq]

theorem relabel {f : α → β} (hf : ∀ x y, f x = f y → x = y) (h : Enumerates P r) :
    Enumerates (fun y v => ∃ x, y = f x ∧ P x v) r := by
  obtain ⟨facts, hnodup, hmem, rfl⟩ := h
  refine ⟨facts.map fun p => (f p.1, p.2), ?_, fun y v => ?_, ?_⟩
  · have : (facts.map fun p => (f p.1, p.2)).map Prod.fst = (facts.map Prod.fst).map f := by simp
    rw [this]
    exact List.Pairwise.map f (fun x y hne he => hne (hf x y he)) hnodup
  · simp only [List.mem_map, Prod.mk.injEq]
    constructor
    · rintro ⟨⟨x, w⟩, hx, rfl, rfl⟩
      exact ⟨x, rfl, (hmem x w).1 hx⟩
    · rintro ⟨x, rfl, hx⟩
      exact ⟨(x, v), (hmem x v).2 hx, rfl, rfl⟩
  · simp

theorem map {xs : List α} (h : xs.Nodup) (f : α → Violation) :
    Enumerates (fun x v => x ∈ xs ∧ v = f x) (xs.map f) := by
  refine ⟨xs.map fun x => (x, f x), ?_, fun x v => ?_, by simp⟩
  · have : (xs.map fun x => (x, f x)).map Prod.fst = xs := by simp [Function.comp_def]
    rwa [this]
  · simp only [List.mem_map, Prod.mk.injEq]
    constructor
    · rintro ⟨y, hy, rfl, rfl⟩
      exact ⟨hy, rfl⟩
    · rintro ⟨hx, rfl⟩
      exact ⟨x, hx, rfl, rfl⟩

theorem single (x : α) (v : Violation) : Enumerates (fun y w => y = x ∧ w = v) [v] := by
  have hx : [x].Nodup := by simp
  exact (map hx fun _ => v).congr fun y w => by rw [List.mem_singleton]

/-- Reports on the parts of a list, one after the other. A fact is about one part only. -/
theorem flatMap {parts : List ι} {report : ι → Report} {P : Nat → α → Violation → Prop}
    (h : ∀ n i, parts[n]? = some i → Enumerates (P n) (report i))
    (disjoint : ∀ m n x v w, P m x v → P n x w → m = n) :
    Enumerates (fun x v => ∃ n, n < parts.length ∧ P n x v) (parts.flatMap report) := by
  induction parts generalizing P with
  | nil => exact nil (by simp)
  | cons i parts ih =>
    have first : Enumerates (P 0) (report i) := h 0 i rfl
    have others : Enumerates (fun x v => ∃ n, n < parts.length ∧ P (n + 1) x v)
        (parts.flatMap report) := by
      refine ih (fun n j hj => h (n + 1) j hj) fun m n x v w hm hn => ?_
      have := disjoint _ _ x v w hm hn
      omega
    rw [List.flatMap_cons]
    refine (first.append others ?_).congr fun x v => ?_
    · rintro x v w hzero ⟨n, _, hn⟩
      have := disjoint _ _ x v w hzero hn
      omega
    · constructor
      · rintro (hzero | ⟨n, hlt, hn⟩)
        · exact ⟨0, by simp, hzero⟩
        · exact ⟨n + 1, by simpa using hlt, hn⟩
      · rintro ⟨n, hlt, hn⟩
        cases n with
        | zero => exact .inl hn
        | succ n => exact .inr ⟨n, by simpa using hlt, hn⟩

theorem filterMap (g : ι → Option Violation) (parts : List ι) :
    Enumerates (fun (n : Nat) v => ∃ i, parts[n]? = some i ∧ g i = some v) (parts.filterMap g) := by
  induction parts with
  | nil => exact nil (by simp)
  | cons i parts ih =>
    have others := relabel (f := Nat.succ) (fun _ _ => Nat.succ.inj) ih
    cases hv : g i with
    | none =>
      rw [List.filterMap_cons_none hv]
      refine others.congr fun n v => ?_
      cases n <;> simp [hv]
    | some w =>
      rw [List.filterMap_cons_some hv]
      refine ((single 0 w).append others ?_).congr fun n v => ?_
      · rintro n _ _ ⟨rfl, _⟩ ⟨m, hm, _⟩
        cases hm
      · cases n <;> simp [hv, eq_comm]

end Enumerates
end SurveyIntake
