import SqlRecords.ClassMap.Basic
import SqlRecords.ResultSet

/-!
# Records from rows

A result set becomes records: the columns are looked up once, and every row puts its values into
a fresh record.

* `ClassMap.positions` — for each property, the place of its column among the columns of a result
  set; none for ignored properties and for columns that are not there.
* `ClassMap.readRow` — one record.
* `ClassMap.materialize` — all records, or the first error.
-/

namespace SqlRecords.ClassMap

variable {α : Type}

/-- The place of the column of each property. -/
def positions (m : ClassMap α) (columns : List String) : List (Option Nat) :=
  m.table.columns.map fun c => if c.ignored then none else columnPosition? columns c.name

/-- The record with the values at the given places of a row. Properties without a place, and
those whose place is past the end of the row, keep what the fresh record has. -/
def readRow (m : ClassMap α) (fresh : α) (places : List (Option Nat)) (row : List Value) :
    Except Error α :=
  match m.assign (places.map fun place => place.bind fun i => row[i]?) fresh with
  | (.ok _, a) => .ok a
  | (.error e, _) => .error e

/-- The records of some rows, or the error of the first row that does not fit. -/
def readRows (m : ClassMap α) (fresh : α) (places : List (Option Nat)) :
    List (List Value) → Except Error (List α)
  | [] => .ok []
  | row :: rows => do
    let first ← m.readRow fresh places row
    let rest ← readRows m fresh places rows
    return first :: rest

/-- The records of a result set. -/
def materialize (m : ClassMap α) (fresh : α) (s : ResultSet) : Except Error (List α) :=
  m.readRows fresh (m.positions s.columns) s.rows

end SqlRecords.ClassMap
