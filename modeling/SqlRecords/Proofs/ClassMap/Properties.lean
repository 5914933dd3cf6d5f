import SqlRecords.ClassMap.Keys
import SqlRecords.ClassMap.Materialize

/-!
# Properties of class maps

A class map has two lists, and finds the accessor of a property by the place of its column.  Since
the lists are equally long, they are one list of pairs, and everything that goes by place can be said
of the pairs: what is found under a name is a column together with the accessor beside it
(`ClassMap.value_eq`, `ClassMap.setValue_eq`).

* `Property` — a column with its accessor.
* `ClassMap.properties` — the pairs, in the order of declaration.
* `ClassMap.property` — the first of them that has a name.
-/

namespace SqlRecords

/-- A column with its accessor. -/
structure Property (α : Type) extends Accessor α where
  column : Column

namespace ClassMap

variable {α : Type} (m : ClassMap α)

/-- The columns with the accessors at their places. -/
def properties : List (Property α) :=
  (m.table.columns.zip m.accessors).map fun p => { p.2 with column := p.1 }

/-- The property with the given name. -/
def property? (name : String) : Option (Property α) :=
  m.properties.find? fun p => p.column.isFor name

/-- The property with the given name, which has to exist. -/
def property (name : String) : Except Error (Property α) :=
  match m.property? name with
  | some p => .ok p
  | none => .error (.unknownProperty m.table.entity name)

/-! ## Both lists -/

/-- The columns of the pairs are all columns. -/
theorem properties_map_column : (m.properties.map fun p => p.column) = m.table.columns := by
  rw [properties, List.map_map]
  exact List.map_fst_zip (Nat.le_of_eq m.length_eq)

variable {m} in
theorem column_mem {p : Property α} (h : p ∈ m.properties) : p.column ∈ m.table.columns := by
  rw [← m.properties_map_column]
  exact List.mem_map_of_mem h

variable {m} in
/-- Every column has an accessor beside it. -/
theorem exists_property {c : Column} (h : c ∈ m.table.columns) :
    ∃ p ∈ m.properties, p.column = c := by
  rw [← m.properties_map_column] at h
  exact List.mem_map.mp h

theorem properties_map_accessor : m.properties.map Property.toAccessor = m.accessors := by
  rw [properties, List.map_map]
  exact List.map_snd_zip (Nat.le_of_eq m.length_eq.symm)

theorem length_properties : m.properties.length = m.accessors.length := by
  rw [← m.properties_map_accessor, List.length_map]

/-- A pair holds what stands at its place in the two lists. -/
theorem properties_getElem? {i : Nat} {c : Column} {x : Accessor α}
    (hc : m.table.columns[i]? = some c) (hx : m.accessors[i]? = some x) :
    m.properties[i]? = some { x with column := c } := by
  have hpair : (m.table.columns.zip m.accessors)[i]? = some (c, x) :=
    List.getElem?_zip_eq_some.mpr ⟨hc, hx⟩
  rw [properties, List.getElem?_map, hpair, Option.map_some]

theorem length_values (a : α) : (m.values a).length = m.table.columns.length := by
  rw [values, List.length_map, m.length_eq]

theorem values_eq (a : α) : m.values a = m.properties.map fun p => p.get a := by
  rw [values, ← m.properties_map_accessor, List.map_map]
  rfl

/-- A key column goes with what the getter beside it gives. -/
theorem keyValues_eq (a : α) : m.keyValues a
    = (m.properties.filter fun p => p.column.isKey).map fun p => (p.column, p.get a) := by
  rw [keyValues, properties, List.filter_map, List.map_map]
  rfl

theorem positions_eq (columns : List String) : m.positions columns
    = m.properties.map fun p =>
      if p.column.ignored then none else columnPosition? columns p.column.name := by
  rw [positions, ← m.properties_map_column, List.map_map]
  rfl

/-! ## Names -/

/-- The search among the columns stops at the same place as the search among the pairs. -/
theorem column?_eq (name : String) :
    m.table.column? name = (m.property? name).map fun p => p.column := by
  rw [Table.column?, ← m.properties_map_column, List.find?_map]
  rfl

/-- The place that is found is that of the first property with the name. -/
theorem property_eq (name : String) : m.property name
    = (m.position name).map fun i => { m.accessor i with column := m.table.columns[i] } := by
  rw [position, property]
  cases hfound : m.table.columns.findFinIdx? (Column.isFor name) with
  | none =>
      have hnone : m.table.column? name = none :=
        List.find?_eq_none.mpr (List.findFinIdx?_eq_none_iff.mp hfound)
      rw [column?_eq, Option.map_eq_none_iff] at hnone
      rw [hnone]
      rfl
  | some i =>
      obtain ⟨hi, hbefore⟩ := List.findFinIdx?_eq_some_iff.mp hfound
      have hat : m.properties[i.val]? = some { m.accessor i with column := m.table.columns[i] } :=
        m.properties_getElem? (List.getElem?_eq_getElem i.isLt)
          (List.getElem?_eq_getElem (m.length_eq ▸ i.isLt))
      have hsome : m.property? name = some { m.accessor i with column := m.table.columns[i] } := by
        obtain ⟨hlt, hget⟩ := List.getElem?_eq_some_iff.mp hat
        refine List.find?_eq_some_iff_getElem.mpr ⟨hi, i, hlt, hget, fun j hj => ?_⟩
        have hcolumn : m.properties[j].column = m.table.columns[j] := by
          simp only [← m.properties_map_column, List.getElem_map]
        rw [hcolumn, Bool.not_eq_true']
        exact Bool.eq_false_iff.mpr (hbefore ⟨j, Nat.lt_trans hj i.isLt⟩ hj)
      rw [hsome]
      rfl

/-- A value is read by the getter beside the column that is found. -/
theorem value_eq (a : α) (name : String) :
    m.value a name = (m.property name).map fun p => p.get a := by
  rw [value, property_eq]
  cases m.position name <;> rfl

/-- A value is put in by the setter beside the column that is found. -/
theorem setValue_eq (a : α) (name : String) (v : Value) :
    m.setValue a name v = m.property name >>= fun p => p.set a v := by
  rw [setValue, property_eq]
  cases m.position name <;> rfl

end ClassMap

end SqlRecords
