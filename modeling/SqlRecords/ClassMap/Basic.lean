import SqlRecords.Table

/-!
# Class maps

How the records of one type are mapped to a table: a column for each property, and how the value
of the property is read from a record and put into it.

The columns and the accessors of the properties stand in two lists, since the statements need the
columns alone.  What belongs together is at the same place.

* `Accessor` — the getter and the setter of a property.
* `ClassMap` — the columns of a type and as many accessors, in the order of declaration.
* `ClassMap.position` — the place of a property, by name without regard to ASCII case.
* `ClassMap.value`, `ClassMap.setValue` — one property, by name.
* `ClassMap.values`, `ClassMap.assign` — all properties, by position. An assignment stops at the
  first value that its property refuses; what was assigned before stays.
-/

namespace SqlRecords

/-- How a property is read from a record of type `α` and put into it. -/
structure Accessor (α : Type) where
  get : α → Value
  set : α → Value → Except Error α

/-- The mapping of records of type `α` to a table. -/
structure ClassMap (α : Type) where
  table : Table
  accessors : List (Accessor α)
  length_eq : table.columns.length = accessors.length

namespace ClassMap

variable {α : Type}

/-- The place of the property with the given name, which has to exist. -/
def position (m : ClassMap α) (name : String) : Except Error (Fin m.table.columns.length) :=
  match m.table.columns.findFinIdx? (Column.isFor name) with
  | some i => .ok i
  | none => .error (.unknownProperty m.table.entity name)

/-- The accessor at the place of a column. -/
def accessor (m : ClassMap α) (i : Fin m.table.columns.length) : Accessor α :=
  m.accessors.get (i.cast m.length_eq)

/-- The value of one property. -/
def value (m : ClassMap α) (a : α) (name : String) : Except Error Value := do
  let i ← m.position name
  return (m.accessor i).get a

/-- The record with one property assigned. -/
def setValue (m : ClassMap α) (a : α) (name : String) (v : Value) : Except Error α := do
  let i ← m.position name
  (m.accessor i).set a v

/-- The values of all properties. -/
def values (m : ClassMap α) (a : α) : List Value := m.accessors.map fun x => x.get a

/-- The key columns with the values of the record, in the order of declaration. -/
def keyValues (m : ClassMap α) (a : α) : List (Column × Value) :=
  ((m.table.columns.zip m.accessors).filter fun p => p.1.isKey).map fun p => (p.1, p.2.get a)

/-- Puts values into properties, pairwise from the front; an empty slot leaves its property
alone. -/
def assignSlots : List (Accessor α) → List (Option Value) → α → Except Error Unit × α
  | x :: xs, some v :: slots, a =>
    match x.set a v with
    | .ok a' => assignSlots xs slots a'
    | .error e => (.error e, a)
  | _ :: xs, none :: slots, a => assignSlots xs slots a
  | [], _, a | _, [], a => (.ok (), a)

/-- Puts values into the properties at the same positions. -/
def assign (m : ClassMap α) (slots : List (Option Value)) (a : α) : Except Error Unit × α :=
  if m.accessors.length < slots.length then
    (.error (.surplusValues m.table.entity slots.length m.accessors.length), a)
  else assignSlots m.accessors slots a

end ClassMap

end SqlRecords
