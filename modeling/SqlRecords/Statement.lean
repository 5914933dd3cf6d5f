import SqlRecords.Filter
import SqlRecords.Paging
import SqlRecords.Predicate.Render

/-!
# Statements

The statements of a table in a given dialect. Values are bound, never written into the text.

* `Generator` — a dialect, and whether and how statements are joined into one command.
* `Generator.select`, `selectSet`, `selectPage`, `count` — reading.
* `Generator.insert`, `insertRows`, `update`, `delete` — writing. Rows of values are positioned
  like the columns of the table; the statements pick the columns that they write.
* `Generator.procedure` — the call of a stored procedure with the parameters bound so far.
-/

namespace SqlRecords

/-- What statements depend on besides the table. -/
structure Generator where
  dialect : Dialect
  /-- Whether one command may carry several statements. -/
  batches : Bool
  /-- What stands between the statements of one command. -/
  separator : String
deriving DecidableEq

/-- The texts of the pieces, with `", "` between them. -/
def commaList (pieces : List String) : String := ", ".intercalate pieces

/-- Binds several values, from left to right. -/
def Draft.placeAll : List Value → Draft (List String)
  | [] => pure []
  | v :: vs => do
    let first ← place v
    let rest ← placeAll vs
    return first :: rest

namespace Generator

/-- A generator with the habits of the dialect. -/
def ofDialect (d : Dialect) : Generator := ⟨d, d.batches, d.separator⟩

instance : Inhabited Generator := ⟨ofDialect default⟩

/-- No parameters, in the style of the dialect. -/
def parameters (g : Generator) : Parameters := .empty g.dialect.style

/-- The name of the table, with its schema. -/
def tableName (g : Generator) (t : Table) : String :=
  match t.schema with
  | some schema => g.dialect.quote schema ++ "." ++ g.dialect.quote t.name
  | none => g.dialect.quote t.name

/-- The name of a column. -/
def columnName (g : Generator) (c : Column) : String := g.dialect.quote c.name

/-- The names of the columns that rows have. -/
def columnList (g : Generator) (t : Table) : String := commaList (t.mapped.map g.columnName)

/-! ## Clauses -/

/-- The clause of a filter, with a blank in front; nothing without one. -/
def whereClause (g : Generator) (t : Table) : Option Predicate → Draft String
  | none => pure ""
  | some p => do
    let condition ← p.draft t g.dialect
    return " WHERE " ++ condition

/-- The columns to order by. -/
def orderItems (g : Generator) (t : Table) : List SortKey → Except Error (List String)
  | [] => .ok []
  | s :: rest => do
    let column ← t.column s.property
    let items ← orderItems g t rest
    return (g.columnName column ++ (if s.ascending then " ASC" else " DESC")) :: items

/-- The order that a table has by itself: by its key, or else by its first column. -/
def defaultOrder (g : Generator) (t : Table) : String :=
  match t.keys, t.mapped with
  | key :: keys, _ => commaList ((key :: keys).map g.columnName)
  | [], first :: _ => g.columnName first
  | [], [] => "1"

/-- The statement that reads back an assigned key. -/
def identitySql (g : Generator) : String := g.dialect.identitySql

/-! ## Reading -/

/-- The start of every query for whole rows. -/
def selectFrom (g : Generator) (t : Table) : String :=
  "SELECT " ++ g.columnList t ++ " FROM " ++ g.tableName t

/-- The rows that match, in the given order if there is one. -/
def select (g : Generator) (t : Table) (p : Option Predicate) (order : List SortKey) :
    Draft String := do
  let condition ← g.whereClause t p
  if order.isEmpty then return g.selectFrom t ++ condition
  else
    let items ← Draft.ofExcept (g.orderItems t order)
    return g.selectFrom t ++ condition ++ " ORDER BY " ++ commaList items

/-- At most `count` of the rows that match, after skipping `first`. A window needs an order, so
without one the rows come in the order of the table. -/
def selectSet (g : Generator) (t : Table) (p : Option Predicate) (order : List SortKey)
    (first count : UInt64) : Draft String := do
  let order ←
    if order.isEmpty then pure (g.defaultOrder t)
    else commaList <$> Draft.ofExcept (g.orderItems t order)
  let condition ← g.whereClause t p
  return g.selectFrom t ++ condition ++ " ORDER BY " ++ order ++ " " ++
    g.dialect.limitClause first count

/-- The rows that match and lie on the page. -/
def selectPage (g : Generator) (t : Table) (p : Option Predicate) (order : List SortKey)
    (page : Page) : Draft String :=
  g.selectSet t p order page.firstResult page.size

/-- The number of rows that match. -/
def count (g : Generator) (t : Table) (p : Option Predicate) : Draft String := do
  let condition ← g.whereClause t p
  return "SELECT COUNT(*) AS " ++ g.dialect.quote "Total" ++ " FROM " ++ g.tableName t ++ condition

/-! ## Writing -/

/-- One row. A table without a column to write gets a row of defaults. -/
def insert (g : Generator) (t : Table) (values : List Value) : Draft String := do
  let cells := (t.columns.zip values).filter fun cell => cell.1.isInsertable
  if cells.isEmpty then return "INSERT INTO " ++ g.tableName t ++ " DEFAULT VALUES"
  else
    let placeholders ← Draft.placeAll (cells.map (·.2))
    return "INSERT INTO " ++ g.tableName t ++ " (" ++
      commaList (cells.map fun cell => g.columnName cell.1) ++
      ") VALUES (" ++ commaList placeholders ++ ")"

/-- The columns that an insert writes, with their positions. -/
def insertable (t : Table) : List (Column × Nat) :=
  t.columns.zipIdx.filter fun c => c.1.isInsertable

/-- Binds the cells of one row; the row has to reach every column to write. -/
def placeRow (t : Table) (row : List Value) : List (Column × Nat) → Draft (List String)
  | [] => pure []
  | (_, i) :: rest =>
    match row[i]? with
    | none => throw (.shortRow t.name i)
    | some v => do
      let first ← Draft.place v
      let others ← placeRow t row rest
      return first :: others

/-- Binds the cells of several rows, each row in parentheses. -/
def placeRows (t : Table) : List (List Value) → Draft (List String)
  | [] => pure []
  | row :: rows => do
    let cells ← placeRow t row (insertable t)
    let others ← placeRows t rows
    return ("(" ++ commaList cells ++ ")") :: others

/-- Several rows by one statement; there is none for no rows, and none for a table without a
column to write, whose rows have to go in one at a time. -/
def insertRows (g : Generator) (t : Table) (rows : List (List Value)) : Draft (Option String) := do
  if (insertable t).isEmpty || rows.isEmpty then return none
  else
    let tuples ← placeRows t rows
    return some ("INSERT INTO " ++ g.tableName t ++ " (" ++
      commaList ((insertable t).map fun c => g.columnName c.1) ++ ") VALUES " ++ commaList tuples)

/-- New values for the rows that match. -/
def update (g : Generator) (t : Table) (p : Predicate) (values : List Value) : Draft String := do
  let cells := (t.columns.zip values).filter fun cell => cell.1.isUpdatable
  let placeholders ← Draft.placeAll (cells.map (·.2))
  if cells.isEmpty then throw (.noUpdatableColumn t.entity)
  else
    let condition ← p.draft t g.dialect
    let assignments := cells.zipWith (fun cell ph => g.columnName cell.1 ++ " = " ++ ph) placeholders
    return "UPDATE " ++ g.tableName t ++ " SET " ++ commaList assignments ++ " WHERE " ++ condition

/-- Removes the rows that match. -/
def delete (g : Generator) (t : Table) (p : Option Predicate) : Draft String := do
  let condition ← g.whereClause t p
  return "DELETE FROM " ++ g.tableName t ++ condition

/-! ## Procedures -/

/-- An argument of a procedure; a dialect with named arguments gets the name too. -/
def argument (g : Generator) (p : Param) : String :=
  match g.dialect, p.name with
  | .postgresql, some name => name ++ " => " ++ p.placeholder
  | _, _ => p.placeholder

/-- The call of a stored procedure with the given parameters, in order. -/
def procedure (g : Generator) (name : String) (ps : Parameters) : Except Error String :=
  match g.dialect.procedureKeyword? with
  | none => .error (.noProcedures g.dialect)
  | some keyword =>
    let arguments := ps.items.map g.argument
    match g.dialect, arguments with
    | .sqlServer, [] => .ok (keyword ++ " " ++ name)
    | .sqlServer, _ => .ok (keyword ++ " " ++ name ++ " " ++ commaList arguments)
    | _, _ => .ok (keyword ++ " " ++ name ++ "(" ++ commaList arguments ++ ")")

end Generator

end SqlRecords
