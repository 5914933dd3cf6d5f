import SqlRecords.Database.Basic
import SqlRecords.Expr.Compile

/-!
# Operations with text of the caller

Operations whose statements contain fragments of SQL that the caller supplies, or that a filter
expression compiles to. Nothing is bound or escaped here, except the arguments of procedures.

* `Database.getWhere`, `Database.countWhere`, `Database.whereExpr`, `Database.whereExprPage` — by
  a filter expression.
* `Database.whereSql`, `Database.whereSqlPage`, `Database.countSql` — by a fragment of text.
* `Database.updateFields`, `Database.updateSql` — new values by literals, or by a whole statement.
* `Database.query…` — whole queries, for rows or for records.
* `Database.procedure` — a stored procedure.
-/

namespace SqlRecords.Database

variable {σ ι : Type} {E : ι → Type} [DecidableEq ι]

/-! ## Parts -/

/-- The name of the table of an entity. -/
def tableSql (db : Database σ ι E) (i : ι) : Action σ ι E String := do
  let m ← db.classMap i
  return db.generator.tableName m.table

/-- The order of the caller; where it is missing or blank, the order of the table. -/
def orderSql (db : Database σ ι E) (i : ι) (order : Option String) : Action σ ι E String :=
  match order.filter fun o => !Text.isBlankText o with
  | some o => pure o
  | none => do
    let m ← db.classMap i
    return db.generator.defaultOrder m.table

/-- The filter part of a statement; nothing for an empty fragment. -/
def wherePart (fragment : String) : String :=
  if fragment.isEmpty then "" else " where " ++ fragment

/-- Runs a query without parameters for records. -/
def queryRecords (db : Database σ ι E) (i : ι) (sql : String) : Action σ ι E (List (E i)) := do
  let m ← db.classMap i
  db.fetch i m sql db.generator.parameters

/-- Runs a query without parameters for a number of rows. -/
def queryCount (db : Database σ ι E) (sql : String) : Action σ ι E Int :=
  db.queryNumber .uint64 sql db.generator.parameters

/-- Runs a query without parameters for rows. -/
def queryRows (db : Database σ ι E) (sql : String) : Action σ ι E (List Row) := do
  let set ← db.query sql db.generator.parameters
  return set.toRows

/-! ## Filter expressions -/

/-- The first record that an expression selects. -/
def getWhere (db : Database σ ι E) (i : ι) (e : Expr) : Action σ ι E (Option (E i)) := do
  let fragment ← Action.ofExcept (Expr.fragment (some e))
  let table ← db.tableSql i
  let records ← db.queryRecords i ("select * from " ++ table ++ wherePart fragment)
  return records.head?

/-- The number of records that an expression selects. -/
def countWhere (db : Database σ ι E) (i : ι) (e : Option Expr) : Action σ ι E Int := do
  let fragment ← Action.ofExcept (Expr.fragment e)
  let table ← db.tableSql i
  db.queryCount ("select count(1) from " ++ table ++ wherePart fragment)

/-- The records that an expression selects. -/
def whereExpr (db : Database σ ι E) (i : ι) (e : Option Expr) (order : Option String) :
    Action σ ι E (List (E i)) := do
  let fragment ← Action.ofExcept (Expr.fragment e)
  let order ← db.orderSql i order
  let table ← db.tableSql i
  db.queryRecords i ("select * from " ++ table ++ wherePart fragment ++ " order by " ++ order)

/-- The records that an expression selects and that lie on the page. -/
def whereExprPage (db : Database σ ι E) (i : ι) (e : Option Expr) (order : Option String)
    (page : Page) : Action σ ι E (List (E i)) := do
  let fragment ← Action.ofExcept (Expr.fragment e)
  let order ← db.orderSql i order
  let table ← db.tableSql i
  db.queryRecords i (page.whereSql table fragment order)

/-! ## Fragments of text -/

/-- The records that a fragment selects. -/
def whereSql (db : Database σ ι E) (i : ι) (fragment : String) (order : Option String) :
    Action σ ι E (List (E i)) := do
  let order ← db.orderSql i order
  let table ← db.tableSql i
  db.queryRecords i ("select * from " ++ table ++ " where " ++ Page.fragmentOrAlways fragment ++
    " order by " ++ order)

/-- The records that a fragment selects and that lie on the page. -/
def whereSqlPage (db : Database σ ι E) (i : ι) (fragment : String) (order : Option String)
    (page : Page) : Action σ ι E (List (E i)) := do
  let order ← db.orderSql i order
  let table ← db.tableSql i
  db.queryRecords i (page.whereSql table fragment order)

/-- A count by a statement of the caller and a fragment that filters it. Without the fragment the
statement is itself the filter of the table. -/
def countStatement (table sql fragment : String) : String :=
  match Text.isBlankText sql, Text.isBlankText fragment with
  | true, true => "select count(1) from " ++ table
  | true, false => "select count(1) from " ++ table ++ " where " ++ fragment
  | false, true => "select count(1) from " ++ table ++ " where " ++ sql
  | false, false => sql ++ " where " ++ fragment

/-- The number of records by text of the caller. -/
def countSql (db : Database σ ι E) (i : ι) (sql fragment : String) : Action σ ι E Int := do
  let table ← db.tableSql i
  db.queryCount (countStatement table sql fragment)

/-! ## Updating -/

/-- A column and a literal with an equals sign between them. A name that is no property stands
for a column itself. -/
def literalPair (t : Table) (pair : String × Value) : String :=
  ((t.column? pair.1).map (·.name)).getD pair.1 ++ "=" ++ pair.2.literal

/-- Assigns fields in the rows in which other fields match. A field that is to match is not
assigned. -/
def updateFields (db : Database σ ι E) (i : ι) (assigned matching : FieldSet) :
    Action σ ι E Nat := do
  let m ← db.classMap i
  let pairs := assigned.fields.filter fun p => !matching.contains p.1
  if pairs.isEmpty then throw (.nothingAssigned m.table.entity)
  else if matching.isEmpty then throw (.nothingMatched m.table.entity)
  else
    let sql := "update " ++ db.generator.tableName m.table ++
      " set " ++ ",".intercalate (pairs.map (literalPair m.table)) ++
      " where " ++ " and ".intercalate (matching.fields.map (literalPair m.table))
    db.execute sql db.generator.parameters

/-- Runs a statement of the caller. -/
def updateSql (db : Database σ ι E) (sql : String) : Action σ ι E Nat :=
  db.execute sql db.generator.parameters

/-! ## Whole queries -/

/-- The rows of a query that lie on the page. -/
def queryRowsPage (db : Database σ ι E) (sql order : String) (page : Page) :
    Action σ ι E (List Row) :=
  db.queryRows (page.sql sql order)

/-- The records of a query that lie on the page. -/
def queryRecordsPage (db : Database σ ι E) (i : ι) (sql order : String) (page : Page) :
    Action σ ι E (List (E i)) :=
  db.queryRecords i (page.sql sql order)

/-- Calls a stored procedure; the arguments are bound by name, in order. -/
def procedure (db : Database σ ι E) (name : String) (arguments : FieldSet) :
    Action σ ι E (List Row) := do
  let ps := arguments.fields.foldl (fun ps a => ps.pushNamed a.1 a.2) db.generator.parameters
  let sql ← Action.ofExcept (db.generator.procedure name ps)
  let set ← db.query sql ps
  return set.toRows

end SqlRecords.Database
