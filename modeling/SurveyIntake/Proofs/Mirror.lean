import SurveyIntake.Proofs.ByteOrder
import SurveyIntake.Proofs.Compile
import SurveyIntake.Proofs.Route

/-!
# SurveyIntake.Proofs.Mirror

A form has the tree of its configuration, and its paths are routes through that tree.

* `Configuration.at?`, `Form.at?` — the field, and the item, that a route leads to.
* `Field.HasRules`            — the rules of a field: one for each constraint, and perhaps the pattern of addresses.
* `Field.Compiled.descend`    — below a field and its item, routes lead to fields and their items.
* `Form.Mirrors`              — same shape, same kinds, rules as declared, and paths by which items are found.
* `Configuration.form_mirrors` — the form of a configuration mirrors it.
-/

namespace SurveyIntake

/-- The field that a route leads to. -/
def Configuration.at? (c : Configuration) (route : Route) : Option Field :=
  follow Field.children c.fields route

/-- The item that a route leads to. -/
def Form.at? (form : Form) (route : Route) : Option Item := follow Item.children form.items route

/-- There is one rule for each constraint that the field declares, with its value, in ascending order of
the bytes of their names. The pattern of addresses comes after them where an address is asked for without
a pattern. -/
def Field.HasRules (f : Field) (rules : List Rule) : Prop :=
  ∃ declared, declared.map (fun r => (r.name, r.value)) = f.constraints.entries ∧
    declared.Pairwise (fun r q => utf8Bytes r.name < utf8Bytes q.name) ∧
    rules = declared ++
      if NeedsAddress f.kind f.constraints.entries then [.pattern addressPattern] else []

/-- The form has the tree of the configuration. Positions count siblings from 1, paths are put together
from positions, and each path leads to the item that has it and to no other one. -/
structure Form.Mirrors (form : Form) (c : Configuration) : Prop where
  shape : ∀ route, Option.Rel (fun f i => i.kind = f.kind ∧ f.HasRules i.rules) (c.at? route)
    (form.at? route)
  top : ∀ k i, form.items[k]? = some i → i.position = k + 1 ∧ i.path = toString (k + 1)
  inner : ∀ route parent k i, form.at? route = some parent → parent.children[k]? = some i →
    i.position = k + 1 ∧ i.path = parent.path ++ "." ++ toString (k + 1)
  walk : ∀ route i, form.at? route = some i → form.at? (Route.ofText i.path) = some i
  distinct : ∀ route other i j, form.at? route = some i → form.at? other = some j → i.path = j.path →
    route = other

/-! ## Rules -/

theorem Rule.StandAll.map_eq {kind : Kind} {constraints : List (String × Json)} {rules : List Rule}
    (h : StandAll kind constraints rules) : rules.map (fun r => (r.name, r.value)) = constraints := by
  induction h with
  | nil => rfl
  | cons hr _ ih => rw [List.map_cons, ih, hr.name_eq, hr.value_eq]

theorem Field.hasRules_of_rules {f : Field} {path : String} {rules : List Rule}
    (h : Field.rules path f.kind f.constraints = .ok rules) : f.HasRules rules := by
  obtain ⟨declared, hstand, _, hrules⟩ := Field.rules_eq_ok_iff.1 h
  have hnames : declared.map Rule.name = Assoc.keys f.constraints.entries := by
    rw [Assoc.keys, ← hstand.map_eq, List.map_map]
    rfl
  have hascending : (declared.map Rule.name).Pairwise (· < ·) := hnames ▸ f.constraints.ascending
  refine ⟨declared, hstand.map_eq, ?_, hrules⟩
  exact (List.pairwise_map.1 hascending).imp utf8Bytes_lt_of_lt

/-- Different rules of a field have different names. -/
theorem Field.HasRules.nodup {f : Field} {rules : List Rule} (h : f.HasRules rules) :
    (rules.map Rule.name).Nodup := by
  obtain ⟨declared, hdeclared, hascending, rfl⟩ := h
  have hnames : (declared.map Rule.name).Nodup := by
    refine List.pairwise_map.2 (hascending.imp fun hlt he => ?_)
    rw [he] at hlt
    exact List.lt_irrefl _ hlt
  split
  · rename_i hneeds
    rw [List.map_append, List.nodup_append]
    refine ⟨hnames, by simp, ?_⟩
    rintro name hname _ hregex rfl
    have hkeys : declared.map Rule.name = Assoc.keys f.constraints.entries := by
      rw [Assoc.keys, ← hdeclared, List.map_map]
      rfl
    rw [hkeys] at hname
    rw [List.map_singleton, List.mem_singleton] at hregex
    subst hregex
    exact hneeds.2 hname
  · rwa [List.append_nil]

/-! ## Routes -/

section Rel

variable {α β γ δ : Type} {R : α → β → Prop} {S : γ → δ → Prop}

theorem rel_getElem? {as : List α} {bs : List β} (h : List.Forall₂ R as bs) (n : Nat) :
    Option.Rel R as[n]? bs[n]? := by
  induction h generalizing n with
  | nil => exact .none
  | cons hr _ ih =>
    cases n with
    | zero => exact .some hr
    | succ n => exact ih n

theorem rel_bind {x : Option α} {y : Option β} {f : α → Option γ} {g : β → Option δ}
    (h : Option.Rel R x y) (hfg : ∀ a b, R a b → Option.Rel S (f a) (g b)) :
    Option.Rel S (x.bind f) (y.bind g) := by
  cases h with
  | none => exact .none
  | some hr => exact hfg _ _ hr

theorem rel_imp {R' : α → β → Prop} {x : Option α} {y : Option β} (h : Option.Rel R x y)
    (himp : ∀ a b, R a b → R' a b) : Option.Rel R' x y := by
  cases h with
  | none => exact .none
  | some hr => exact .some (himp _ _ hr)

theorem exists_of_rel {x : Option α} {y : Option β} {b : β} (h : Option.Rel R x y) (hy : y = some b) :
    ∃ a, R a b := by
  subst hy
  cases h with
  | some hr => exact ⟨_, hr⟩

theorem rel_of_rel_map {x : Option α} {y : Option β} {f : α → γ} {S : γ → β → Prop}
    (h : Option.Rel S (x.map f) y) : Option.Rel (fun a b => S (f a) b) x y := by
  cases x with
  | none =>
    cases h
    exact .none
  | some a =>
    cases h with
    | some hs => exact .some hs

end Rel

section Below

variable {parent : Option String} {fields : List Field} {items : List Item} {f : Field} {i : Item}

/-- At each position stand a field and its item, or neither. -/
theorem Field.standing_compileAll (h : Field.compileAll 1 parent fields = .ok items) (n : Nat) :
    Option.Rel (fun f i => Field.Compiled f n parent i) (standing? fields n) (standing? items n) := by
  cases n with
  | zero => exact .none
  | succ k =>
    have hall := rel_getElem? (Field.compileAll_eq_ok_iff.1 h) k
    rw [List.getElem?_zipIdx, Nat.add_comm] at hall
    exact rel_of_rel_map hall

/-- The route leads to the item of the field, which is where the item says. -/
def Field.CompiledAt (route : Route) (f : Field) (i : Item) : Prop :=
  ∃ front n, route = front ++ [n] ∧ f.Compiled n (Route.above front) i

theorem Field.CompiledAt.above_eq {route : Route} (h : f.CompiledAt route i) :
    Route.above route = some i.path := by
  obtain ⟨front, n, rfl, hcompiled⟩ := h
  rw [hcompiled.path, Route.memberPath_above, Route.above_append]

theorem Field.CompiledAt.path_eq {route : Route} (h : f.CompiledAt route i) : i.path = route.text := by
  obtain ⟨front, n, rfl, hcompiled⟩ := h
  rw [hcompiled.path, Route.memberPath_above]

theorem Field.CompiledAt.hasRules {route : Route} (h : f.CompiledAt route i) : f.HasRules i.rules := by
  obtain ⟨_, _, _, hcompiled⟩ := h
  exact Field.hasRules_of_rules hcompiled.rules

theorem Field.CompiledAt.children {route : Route} (h : f.CompiledAt route i) :
    Field.compileAll 1 (Route.above route) f.children = .ok i.children := by
  rw [h.above_eq]
  obtain ⟨_, _, _, hcompiled⟩ := h
  exact hcompiled.children

/-- Below a field and its item, a route leads to another field and its item, or nowhere from either. -/
theorem Field.CompiledAt.descend {init : Route} (h : f.CompiledAt init i) (route : Route) :
    Option.Rel (Field.CompiledAt (init ++ route)) (descend Field.children f route)
      (descend Item.children i route) := by
  induction route generalizing f i init with
  | nil =>
    rw [List.append_nil]
    exact .some h
  | cons n route ih =>
    refine rel_bind (Field.standing_compileAll h.children n) fun g j hchild => ?_
    have hbelow := ih ⟨init, n, rfl, hchild⟩
    rwa [List.append_assoc] at hbelow

end Below

namespace Configuration

variable {c : Configuration} {form : Form}

/-- Wherever a route leads in a configuration, it leads to the item of that field in the form. -/
theorem rel_at? (h : c.compile = .ok form) (route : Route) :
    Option.Rel (Field.CompiledAt route) (c.at? route) (form.at? route) := by
  cases route with
  | nil => exact .none
  | cons n route =>
    have htop := Field.standing_compileAll (compile_eq_ok_iff.1 h).2.2 n
    exact rel_bind htop fun f i hitem => Field.CompiledAt.descend ⟨[], n, rfl, hitem⟩ route

theorem exists_compiledAt (h : c.compile = .ok form) {route : Route} {i : Item}
    (hi : form.at? route = some i) : ∃ f, Field.CompiledAt route f i := exists_of_rel (rel_at? h route) hi

/-- The path of an item is the text of the one route that leads to it. -/
theorem ofText_path (h : c.compile = .ok form) {route : Route} {i : Item}
    (hi : form.at? route = some i) : Route.ofText i.path = route := by
  obtain ⟨f, hcompiled⟩ := exists_compiledAt h hi
  have hne : route ≠ [] := by
    rintro rfl
    cases hi
  rw [hcompiled.path_eq, Route.ofText_text hne]

/-- The form of a configuration has its tree: shape, kinds and rules are the same, and paths are addresses. -/
theorem form_mirrors (h : c.compile = .ok form) : form.Mirrors c := by
  have hitems : Field.compileAll 1 none c.fields = .ok form.items := (compile_eq_ok_iff.1 h).2.2
  refine ⟨fun route => ?_, fun k i hi => ?_, fun route parent k i hparent hi => ?_, fun route i hi => ?_,
    fun route other i j hi hj hpath => ?_⟩
  · refine rel_imp (rel_at? h route) fun f i hcompiled => ⟨?_, hcompiled.hasRules⟩
    obtain ⟨_, _, _, hitem⟩ := hcompiled
    exact hitem.kind
  · obtain ⟨f, hf⟩ := exists_of_rel (Field.standing_compileAll hitems (k + 1)) hi
    exact ⟨hf.position, hf.path⟩
  · obtain ⟨f, hcompiled⟩ := exists_compiledAt h hparent
    obtain ⟨g, hg⟩ := exists_of_rel (Field.standing_compileAll hcompiled.children (k + 1)) hi
    rw [hcompiled.above_eq] at hg
    exact ⟨hg.position, hg.path⟩
  · rw [ofText_path h hi, hi]
  · rw [← ofText_path h hi, hpath, ofText_path h hj]

/-- A group of eleven options, so that positions have one digit or two, and an address. -/
def roomSurvey : Configuration :=
  let group := { Field.ofKind .properties with children := List.replicate 11 (Field.ofKind .option) }
  { Configuration.ofNames "cora" "rooms" with
    fields := [group, (Field.ofKind .email).withConstraint "max_chars" (.nat 9)] }

def roomForm : Form :=
  ⟨⟨"cora", "rooms", by decide, by decide⟩, addressPattern,
    [⟨1, "1", .properties, [], (List.range 11).map fun k =>
        ⟨k + 1, "1." ++ toString (k + 1), .option, [], []⟩⟩,
      ⟨2, "2", .email, [.maxChars 9, .pattern addressPattern], []⟩]⟩

theorem form_mirrors_rooms :
    roomSurvey.compile = .ok roomForm ∧ roomForm.Mirrors roomSurvey ∧
      (roomForm.at? [1, 11]).map Item.path = some "1.11" := by
  have hcompile : roomSurvey.compile = .ok roomForm := rfl
  exact ⟨hcompile, form_mirrors hcompile, rfl⟩

end Configuration
end SurveyIntake
