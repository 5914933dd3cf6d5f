import SqlRecords.Connection
import SqlRecords.Embedded.Binding
import SqlRecords.Embedded.Query
import SqlRecords.Trace

/-!
# The embedded database

A database in memory behind the calls of a connection.

* `Store` — the rows of its table, the rows to go back to while a transaction is open, and the
  reports so far.
* `Store.prepare` — the statement of a command, once its time limit is set.
* `Store.runQuery`, `Store.runUpdate` — a statement, bound and run.
* `Store.queryEach` — the statements of a command, one after another, with one set of parameters.
* `Store.connection` — the connection. Transactions do not nest.
-/

namespace SqlRecords.Embedded

/-- A database in memory. -/
structure Store where
  /-- The rows of the table, in the order of insertion. -/
  rows : List StorageValue
  /-- The rows when the open transaction began. -/
  saved : Option (List StorageValue)
  /-- The reports, in order. -/
  events : List Event
deriving DecidableEq

namespace Store

/-- A database with an empty table. -/
def empty : Store := ⟨[], none, []⟩

/-- What is said of a text that is no statement. -/
def notAStatement : Error := .connection .engine "not a statement"

/-- What is said of a query that is run for its effect. -/
def returnsRows : Error := .connection .engine "the statement returns rows"

/-- The longest time limit in milliseconds. -/
def longestLimit : Nat := 2147483647

/-- The statement of a command, once its time limit is set. -/
def prepare (c : Command) : Except Error Query := do
  if let some limit := c.timeout then
    if longestLimit < limit then throw (.limitTooLong limit)
  match Query.read? c.sql with
  | some q => return q
  | none => throw notAStatement

/-- Whether a transaction is open. -/
def isActive (s : Store) : Bool := s.saved.isSome

/-- Adds a report. -/
def report (s : Store) (e : Event) : Store := { s with events := s.events ++ [e] }

/-- The values bound at some placeholders, as they are kept. -/
def keptValues (ps : Parameters) (placeholders : List String) : List StorageValue :=
  (boundValues ps placeholders).map fun v => v.toStorage.kept

/-- Runs a statement for its rows. -/
def runQuery (s : Store) (ps : Parameters) : Query → ResultSet × Store
  | .values columns =>
    (⟨columns.map (·.2), [(keptValues ps (columns.map (·.1))).map StorageValue.toValue]⟩, s)
  | .insert placeholders => (.empty, { s with rows := s.rows ++ keptValues ps placeholders })
  | .clear => (.empty, { s with rows := [] })
  | .rows => (⟨["v"], s.rows.map fun v => [v.toValue]⟩, s)

/-- Runs a statement for the number of rows that it changes. -/
def runUpdate (s : Store) (ps : Parameters) : Query → Except Error Nat × Store
  | .insert placeholders =>
    (.ok placeholders.length, { s with rows := s.rows ++ keptValues ps placeholders })
  | .clear => (.ok s.rows.length, { s with rows := [] })
  | .values _ | .rows => (.error returnsRows, s)

/-- Runs a command for the rows of its statement. -/
def query (c : Command) (s : Store) : Except Error ResultSet × Store :=
  let s := s.report (.statement c.sql c.params.size)
  match prepare c with
  | .ok q =>
    let (set, s) := s.runQuery c.params q
    (.ok set, s)
  | .error e => (.error e, s)

/-- Runs a command for the number of rows that its statement changes. -/
def execute (c : Command) (s : Store) : Except Error Nat × Store :=
  let s := s.report (.statement c.sql c.params.size)
  match prepare c with
  | .ok q => s.runUpdate c.params q
  | .error e => (.error e, s)

/-- Runs several statements under one command, until one fails. -/
def queryEach (c : Command) : List String → Store → Except Error (List ResultSet) × Store
  | [], s => (.ok [], s)
  | sql :: rest, s =>
    match query { c with sql } s with
    | (.error e, s) => (.error e, s)
    | (.ok set, s) =>
      match queryEach c rest s with
      | (.error e, s) => (.error e, s)
      | (.ok sets, s) => (.ok (set :: sets), s)

/-- Runs the statements of a command. -/
def queryMultiple (c : Command) (s : Store) : Except Error (List ResultSet) × Store :=
  queryEach c (splitCommand c.sql) s

/-- Opens a transaction. -/
def start (s : Store) : Except Error Unit × Store :=
  if s.isActive then (.error .alreadyActive, s)
  else (.ok (), { s.report (.transaction .start) with saved := some s.rows })

/-- Closes the transaction and keeps its changes. -/
def commit (s : Store) : Except Error Unit × Store :=
  match s.saved with
  | none => (.error .nothingToCommit, s)
  | some _ => (.ok (), { s.report (.transaction .commit) with saved := none })

/-- Closes the transaction and goes back to the rows before it. -/
def rollback (s : Store) : Except Error Unit × Store :=
  match s.saved with
  | none => (.error .nothingToRollBack, s)
  | some rows => (.ok (), { s.report (.transaction .rollback) with saved := none, rows := rows })

/-- The calls of a connection. Every isolation level is as strict as the strictest, since there
is no other connection to the same memory. -/
def connection : Connection Store where
  name := "Embedded"
  execute := execute
  query := query
  queryMultiple c s :=
    let (r, s) := queryMultiple c s
    (r.map fun sets => .buffered ⟨sets⟩, s)
  start _ s := start s
  commit := commit
  rollback := rollback
  isActive := isActive

end Store

end SqlRecords.Embedded
