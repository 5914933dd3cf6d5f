import SqlRecords.ClassMap.Keys
import SqlRecords.Database.Editing

/-!
# Operations on records

Inserting, updating, deleting, finding and counting the records of one entity. Every value is
bound.

* `Database.insert` — generates the keys that are not set, inserts the record, reads back a key
  that the database assigned, and gives the key of the record.
* `Database.insertMany` — the same keys for several records, and one statement for all of them.
* `Database.update`, `Database.delete`, `Database.deleteWhere`, `Database.deleteById` — whether a
  row was changed.
* `Database.get`, `Database.getList`, `Database.getPage`, `Database.getSet`, `Database.count`.
-/

namespace SqlRecords.Database

variable {σ ι : Type} {E : ι → Type} [DecidableEq ι]

/-! ## Inserting -/

/-- Generates a value for each of the given key columns that still waits for one. -/
def assignSurrogates {τ : Type} (db : Database σ ι E) (m : ClassMap τ) :
    List Column → Editing σ ι E τ Unit
  | [] => pure ()
  | c :: rest => do
    let a ← Editing.current
    let v ← Editing.ofExcept (m.value a c.property)
    if v.isUnsetKey then
      let key ← db.nextSurrogate
      let a' ← Editing.ofExcept (m.setValue a c.property key)
      Editing.replace a'
    assignSurrogates db m rest

/-- The key columns whose values are generated. -/
def surrogateColumns (t : Table) : List Column :=
  t.columns.filter fun c => c.kind = .generatedSurrogate

/-- Inserts a row and reads back the key that the database assigned: by one command where a
command may carry several statements, by two otherwise. -/
def insertWithIdentity (db : Database σ ι E) (sql : String) (ps : Parameters) :
    Action σ ι E Int :=
  if db.generator.batches then
    db.queryNumber .int64 (sql ++ db.generator.separator ++ db.generator.identitySql) ps
  else do
    let _ ← db.execute sql ps
    db.queryNumber .int64 db.generator.identitySql db.generator.parameters

/-- Inserts a record. -/
def insert (db : Database σ ι E) (i : ι) : Editing σ ι E (E i) RecordKey := do
  let m ← db.classMap i
  db.assignSurrogates m (surrogateColumns m.table)
  let a ← Editing.current
  let (sql, ps) ← db.draft (db.generator.insert m.table (m.values a))
  match m.table.identity? with
  | some identity => do
    let n ← db.insertWithIdentity sql ps
    let a' ← Editing.ofExcept (m.setValue a identity.property (.integer (.ofInt n)))
    Editing.replace a'
  | none => do
    let _ ← db.execute sql ps
  let a ← Editing.current
  return m.recordKey a

/-- Inserts rows by one statement each. -/
def insertRowByRow (db : Database σ ι E) (t : Table) : List (List Value) → Action σ ι E Unit
  | [] => pure ()
  | row :: rows => do
    let (sql, ps) ← db.draft (db.generator.insert t row)
    let _ ← db.execute sql ps
    insertRowByRow db t rows

/-- Inserts several records. Keys that the database assigns are not read back. -/
def insertMany (db : Database σ ι E) (i : ι) : Editing σ ι E (List (E i)) Unit := do
  let m ← db.classMap i
  Editing.forEach (db.assignSurrogates m (surrogateColumns m.table))
  let records ← Editing.current
  let rows := records.map m.values
  let (sql, ps) ← db.draft (db.generator.insertRows m.table rows)
  match sql with
  | some sql => do
    let _ ← db.execute sql ps
  | none => db.insertRowByRow m.table rows

/-! ## Updating and deleting -/

/-- Writes the values of a record into its row. -/
def update (db : Database σ ι E) (i : ι) (a : E i) : Action σ ι E Bool := do
  let m ← db.classMap i
  let p ← Action.ofExcept (m.keyPredicate a)
  let (sql, ps) ← db.draft (db.generator.update m.table p (m.values a))
  let changed ← db.execute sql ps
  return 0 < changed

/-- Deletes the rows that match. -/
def deleteMatching (db : Database σ ι E) (t : Table) (p : Option Predicate) :
    Action σ ι E Bool := do
  let (sql, ps) ← db.draft (db.generator.delete t p)
  let changed ← db.execute sql ps
  return 0 < changed

/-- Deletes the row of a record. -/
def delete (db : Database σ ι E) (i : ι) (a : E i) : Action σ ι E Bool := do
  let m ← db.classMap i
  let p ← Action.ofExcept (m.keyPredicate a)
  db.deleteMatching m.table (some p)

/-- Deletes the rows that a filter selects. -/
def deleteWhere (db : Database σ ι E) (i : ι) (f : Filter) : Action σ ι E Bool := do
  let m ← db.classMap i
  db.deleteMatching m.table f.predicate?

/-- Deletes the identified row. -/
def deleteById (db : Database σ ι E) (i : ι) (id : Identifier) : Action σ ι E Bool := do
  let m ← db.classMap i
  let p ← Action.ofExcept (id.predicate m.table)
  db.deleteMatching m.table (some p)

/-! ## Finding and counting -/

/-- The identified record. -/
def get (db : Database σ ι E) (i : ι) (id : Identifier) : Action σ ι E (Option (E i)) := do
  let m ← db.classMap i
  let p ← Action.ofExcept (id.predicate m.table)
  let (sql, ps) ← db.draft (db.generator.select m.table (some p) [])
  let records ← db.fetch i m sql ps
  return records.head?

/-- The records that a filter selects. -/
def getList (db : Database σ ι E) (i : ι) (f : Option Filter) (order : List SortKey) :
    Action σ ι E (List (E i)) := do
  let m ← db.classMap i
  let (sql, ps) ← db.draft (db.generator.select m.table (f.bind Filter.predicate?) order)
  db.fetch i m sql ps

/-- The records that a filter selects and that lie on the page. -/
def getPage (db : Database σ ι E) (i : ι) (f : Option Filter) (order : List SortKey)
    (page : Page) : Action σ ι E (List (E i)) := do
  let m ← db.classMap i
  let (sql, ps) ← db.draft (db.generator.selectPage m.table (f.bind Filter.predicate?) order page)
  db.fetch i m sql ps

/-- At most `count` of the records that a filter selects, after skipping `first`. -/
def getSet (db : Database σ ι E) (i : ι) (f : Option Filter) (order : List SortKey)
    (first count : UInt64) : Action σ ι E (List (E i)) := do
  let m ← db.classMap i
  let (sql, ps) ←
    db.draft (db.generator.selectSet m.table (f.bind Filter.predicate?) order first count)
  db.fetch i m sql ps

/-- The number of records that a filter selects. -/
def count (db : Database σ ι E) (i : ι) (f : Option Filter) : Action σ ι E Int := do
  let m ← db.classMap i
  let (sql, ps) ← db.draft (db.generator.count m.table (f.bind Filter.predicate?))
  db.queryNumber .uint64 sql ps

end SqlRecords.Database
