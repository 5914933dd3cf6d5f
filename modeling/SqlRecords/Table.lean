import SqlRecords.Error

/-!
# Tables

What the library knows of a table: its names, and a column for each property of the entity that
the table holds.

* `KeyKind` — who supplies the value of a key column.
* `Column` — a property with the column it is mapped to and its flags.
* `Table` — the columns in the order of declaration; `Table.column?` finds one by the name of its
  property, without regard to ASCII case.
-/

namespace SqlRecords

/-- Whether a column belongs to the key, and who supplies its value. -/
inductive KeyKind where
  | notAKey
  /-- The caller supplies the value. -/
  | assigned
  /-- The database supplies it on insert. -/
  | identity
  /-- A generator supplies it before an insert, where it is not set. -/
  | generatedSurrogate
deriving DecidableEq, Repr

namespace KeyKind

/-- The name of the kind. -/
def name : KeyKind → String
  | notAKey => "NotAKey"
  | assigned => "Assigned"
  | identity => "Identity"
  | generatedSurrogate => "GeneratedSurrogate"

/-- Every kind, in the order of declaration. -/
def all : List KeyKind := [notAKey, assigned, identity, generatedSurrogate]

end KeyKind

/-- A property of an entity and the column it is mapped to. -/
structure Column where
  /-- The name of the property, by which filters and orders know it. -/
  property : String
  /-- The name of the column in the table. -/
  name : String
  kind : KeyKind
  /-- The property has no column. -/
  ignored : Bool
  /-- The column is read but never written. -/
  readOnly : Bool
deriving DecidableEq

namespace Column

/-- A property mapped to the column of the same name, without flags. -/
def ofProperty (property : String) (kind : KeyKind) : Column :=
  ⟨property, property, kind, false, false⟩

/-- Whether the column belongs to the key. -/
def isKey (c : Column) : Bool := c.kind ≠ .notAKey

/-- Whether an insert writes the column: the database assigns identities itself. -/
def isInsertable (c : Column) : Bool := !c.ignored && !c.readOnly && c.kind ≠ .identity

/-- Whether an update may write the column. -/
def isUpdatable (c : Column) : Bool := c.isInsertable

/-- Whether the column has the given property. -/
def isFor (property : String) (c : Column) : Bool := Text.sameName c.property property

end Column

/-- A table with the columns of one entity. -/
structure Table where
  entity : String
  name : String
  schema : Option String
  columns : List Column
deriving DecidableEq

namespace Table

/-- The column of a property. -/
def column? (t : Table) (property : String) : Option Column :=
  t.columns.find? (Column.isFor property)

/-- The column of a property that has to exist. -/
def column (t : Table) (property : String) : Except Error Column :=
  match t.column? property with
  | some c => .ok c
  | none => .error (.unknownProperty t.entity property)

/-- The key columns, in the order of declaration. -/
def keys (t : Table) : List Column := t.columns.filter Column.isKey

/-- The column whose value the database assigns. -/
def identity? (t : Table) : Option Column := t.columns.find? fun c => c.kind = .identity

/-- The columns that rows of the table have. -/
def mapped (t : Table) : List Column := t.columns.filter fun c => !c.ignored

end Table

end SqlRecords
