import SqlRecords.Value.Reading

/-!
# Result sets

What a query returns: column names and rows of values. A row may be shorter or longer than the
list of names.

* `Row.position?`, `Row.get?` — by the name of a column, without regard to ASCII case; the first
  of several columns wins.
* `ResultSet.scalar` — the first value of the first row.
* `BufferedSets` — result sets that were read ahead, handed out one at a time.
-/

namespace SqlRecords

/-- The place of a column among the names of a result set. -/
def columnPosition? (columns : List String) (name : String) : Option Nat :=
  columns.findIdx? fun c => Text.sameName c name

/-- A row with the names of its columns. -/
structure Row where
  columns : List String
  values : List Value
deriving DecidableEq

namespace Row

/-- The place of a column. -/
def position? (r : Row) (column : String) : Option Nat := columnPosition? r.columns column

/-- The value of a column, if the row reaches that far. -/
def get? (r : Row) (column : String) : Option Value :=
  (r.position? column).bind fun i => r.values[i]?

/-- The value of a column that has to exist. -/
def get (r : Row) (column : String) : Except Error Value :=
  match r.get? column with
  | some v => .ok v
  | none => .error (.noColumn column)

/-- The first value. -/
def first (r : Row) : Except Error Value :=
  match r.values with
  | v :: _ => .ok v
  | [] => .error .emptyRow

end Row

/-- The rows that a query returned. -/
structure ResultSet where
  columns : List String
  rows : List (List Value)
deriving DecidableEq

namespace ResultSet

/-- No columns and no rows. -/
def empty : ResultSet := ⟨[], []⟩

instance : Inhabited ResultSet := ⟨empty⟩

/-- The number of rows. -/
def size (s : ResultSet) : Nat := s.rows.length

/-- Whether there are no rows. -/
def isEmpty (s : ResultSet) : Bool := s.rows.isEmpty

/-- The rows, each with the names of the columns. -/
def toRows (s : ResultSet) : List Row := s.rows.map fun values => ⟨s.columns, values⟩

/-- The first value of the first row. -/
def scalar (s : ResultSet) : Except Error Value :=
  match s.toRows with
  | row :: _ => row.first
  | [] => .error .noRow

end ResultSet

/-- Result sets that were read ahead. -/
structure BufferedSets where
  sets : List ResultSet
deriving DecidableEq

namespace BufferedSets

/-- How many are left. -/
def remaining (b : BufferedSets) : Nat := b.sets.length

/-- The next one, and those after it. -/
def next : BufferedSets → Option ResultSet × BufferedSets
  | ⟨[]⟩ => (none, ⟨[]⟩)
  | ⟨s :: rest⟩ => (some s, ⟨rest⟩)

end BufferedSets

end SqlRecords
