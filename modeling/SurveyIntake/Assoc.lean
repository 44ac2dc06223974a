/-!
# SurveyIntake.Assoc

Tables as lists of pairs in ascending order of their keys.

* `Assoc.insert` — puts a value under a key, in place of one that is there.
* `Assoc.erase`, `Assoc.find?`, `Assoc.contains` — removal and look-up.
* `Assoc.ofList` — the table of a list of pairs, the last of equal keys taking precedence.
* `Assoc.Ascending` — the keys are in strictly ascending order, which `insert` and `erase` keep.
* `Table` — a list of pairs that is in this order.
-/

namespace SurveyIntake
namespace Assoc

variable {κ : Type} {α : Type} [LT κ] [DecidableLT κ] [DecidableEq κ]

def insert (k : κ) (v : α) : List (κ × α) → List (κ × α)
  | [] => [(k, v)]
  | (l, w) :: rest =>
    if k = l then (k, v) :: rest
    else if k < l then (k, v) :: (l, w) :: rest
    else (l, w) :: insert k v rest

def find? (k : κ) : List (κ × α) → Option α
  | [] => none
  | (l, w) :: rest => if k = l then some w else find? k rest

def contains (k : κ) (pairs : List (κ × α)) : Bool := (find? k pairs).isSome

def erase (k : κ) : List (κ × α) → List (κ × α)
  | [] => []
  | (l, w) :: rest => if k = l then erase k rest else (l, w) :: erase k rest

def keys (pairs : List (κ × α)) : List κ := pairs.map Prod.fst

def ofList (pairs : List (κ × α)) : List (κ × α) :=
  pairs.foldl (fun done p => insert p.1 p.2 done) []

def Ascending (pairs : List (κ × α)) : Prop := (keys pairs).Pairwise (· < ·)

/-! ## Order -/

theorem mem_keys_insert {k l : κ} {v : α} {pairs : List (κ × α)} :
    l ∈ keys (insert k v pairs) ↔ l = k ∨ l ∈ keys pairs := by
  induction pairs with
  | nil => simp [insert, keys]
  | cons p rest ih =>
    obtain ⟨m, w⟩ := p
    simp only [insert]
    split
    · simp_all [keys]
    · split
      · simp [keys]
      · have : keys ((m, w) :: insert k v rest) = m :: keys (insert k v rest) := rfl
        rw [this, List.mem_cons, ih]
        simp only [keys, List.map_cons, List.mem_cons]
        exact or_left_comm

omit [DecidableLT κ] [DecidableEq κ] in
theorem Ascending.nil : Ascending ([] : List (κ × α)) := List.Pairwise.nil

theorem Ascending.insert [Trans (α := κ) (· < ·) (· < ·) (· < ·)]
    [Std.Trichotomous (α := κ) (· < ·)] {k : κ} {v : α} {pairs : List (κ × α)}
    (h : Ascending pairs) : Ascending (insert k v pairs) := by
  induction pairs with
  | nil => simp [Assoc.insert, Ascending, keys]
  | cons p rest ih =>
    obtain ⟨m, w⟩ := p
    obtain ⟨first, others⟩ := List.pairwise_cons.1 h
    simp only [Assoc.insert]
    split
    case isTrue e => subst e; exact h
    case isFalse ne =>
      split
      case isTrue lt =>
        refine List.pairwise_cons.2 ⟨fun l hl => ?_, h⟩
        rcases List.mem_cons.1 hl with rfl | hl
        · exact lt
        · exact Trans.trans lt (first l hl)
      case isFalse nlt =>
        refine List.pairwise_cons.2 ⟨fun l hl => ?_, ih others⟩
        rcases mem_keys_insert.1 hl with rfl | hl
        · exact Classical.byContradiction fun nml => ne (Std.Trichotomous.trichotomous _ _ nlt nml)
        · exact first l hl

omit [LT κ] [DecidableLT κ] in
theorem erase_sublist (k : κ) (pairs : List (κ × α)) : (erase k pairs).Sublist pairs := by
  induction pairs with
  | nil => exact .slnil
  | cons p rest ih =>
    simp only [erase]
    split
    · exact .cons _ ih
    · exact .cons_cons _ ih

omit [DecidableLT κ] in
theorem Ascending.erase {k : κ} {pairs : List (κ × α)} (h : Ascending pairs) :
    Ascending (erase k pairs) :=
  h.sublist ((erase_sublist k pairs).map Prod.fst)

end Assoc

-- Named for texts, so that a table with text keys has one and the same order wherever it is used.
instance stringTrans : Trans (α := String) (· < ·) (· < ·) (· < ·) where
  trans := String.lt_trans

instance stringTrichotomous : Std.Trichotomous (α := String) (· < ·) where
  trichotomous := fun _ _ h h' => String.le_antisymm h' h

/-- Values under keys in strictly ascending order. -/
structure Table (κ α : Type) [LT κ] where
  entries : List (κ × α)
  ascending : Assoc.Ascending entries

namespace Table

variable {κ : Type} {α : Type} [LT κ] [DecidableLT κ] [DecidableEq κ]

def empty : Table κ α := ⟨[], .nil⟩

instance : Inhabited (Table κ α) := ⟨empty⟩

def insert [Trans (α := κ) (· < ·) (· < ·) (· < ·)] [Std.Trichotomous (α := κ) (· < ·)]
    (k : κ) (v : α) (t : Table κ α) : Table κ α :=
  ⟨Assoc.insert k v t.entries, t.ascending.insert⟩

def erase (k : κ) (t : Table κ α) : Table κ α := ⟨Assoc.erase k t.entries, t.ascending.erase⟩

def find? (k : κ) (t : Table κ α) : Option α := Assoc.find? k t.entries

def contains (k : κ) (t : Table κ α) : Bool := (t.find? k).isSome

def keys (t : Table κ α) : List κ := Assoc.keys t.entries

omit [DecidableLT κ] [DecidableEq κ] in
/-- The entries that pass a test. -/
def filter (p : κ × α → Bool) (t : Table κ α) : Table κ α :=
  ⟨t.entries.filter p, t.ascending.sublist (List.filter_sublist.map Prod.fst)⟩

end Table
end SurveyIntake
