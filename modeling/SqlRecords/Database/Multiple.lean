import SqlRecords.Database.Editing
import SqlRecords.Filter

/-!
# Several queries at once

Selections of several entities, asked together and read back in the order in which they were
asked for.

* `SelectRequest` — the selection of one entity.
* `Database.getMultiple` — sends the selections: joined into one command where the generator can
  join statements, one after another otherwise.
* `MultipleReader` — what is left to be read. `Database.readNext` reads the next result set as
  records of the entity that was asked for at that place, and of no other.
-/

namespace SqlRecords

/-- The selection of one entity. -/
structure SelectRequest (ι : Type) where
  entity : ι
  filter : Option Filter
  order : List SortKey

/-- The result sets of several selections. -/
structure MultipleReader (ι : Type) where
  /-- Whether one command asked for all of them. -/
  batched : Bool
  /-- The entities whose result sets were not read yet. -/
  expected : List ι
  source : SetSource

/-- The number of result sets that were not read yet. -/
def MultipleReader.remaining {ι : Type} (r : MultipleReader ι) : Nat := r.expected.length

namespace Database

variable {σ ι : Type} {E : ι → Type} [DecidableEq ι]

/-- The statement of one selection, after the parameters bound so far. -/
def requestStatement (db : Database σ ι E) (r : SelectRequest ι) (ps : Parameters) :
    Action σ ι E (String × Parameters) := do
  let m ← db.classMap r.entity
  match (db.generator.select m.table (r.filter.bind Filter.predicate?) r.order).run ps with
  | (.ok sql, ps) => pure (sql, ps)
  | (.error e, _) => throw e

/-- The statements of several selections, with one set of parameters for all of them. -/
def batchStatements (db : Database σ ι E) :
    List (SelectRequest ι) → Parameters → Action σ ι E (List String × Parameters)
  | [], ps => pure ([], ps)
  | r :: rest, ps => do
    let (sql, ps) ← db.requestStatement r ps
    let (more, ps) ← batchStatements db rest ps
    return (sql :: more, ps)

/-- Sends the selections one after another, each with parameters of its own. -/
def sequenceSets (db : Database σ ι E) :
    List (SelectRequest ι) → Action σ ι E (List ResultSet)
  | [] => pure []
  | r :: rest => do
    let (sql, ps) ← db.requestStatement r db.generator.parameters
    let set ← db.query sql ps
    let more ← sequenceSets db rest
    return set :: more

/-- Sends several selections. -/
def getMultiple (db : Database σ ι E) (requests : List (SelectRequest ι)) :
    Action σ ι E (MultipleReader ι) := do
  db.report (.severalQueries db.generator.batches requests.length)
  if db.generator.batches then
    let (statements, ps) ← db.batchStatements requests db.generator.parameters
    let source ← db.queryMultiple (db.generator.separator.intercalate statements) ps
    return ⟨true, requests.map (·.entity), source⟩
  else
    let sets ← db.sequenceSets requests
    return ⟨false, requests.map (·.entity), .buffered ⟨sets⟩⟩

/-- Takes the next result set, which has to be one of entity `i`. -/
def takeSet (db : Database σ ι E) (i : ι) :
    Editing σ ι E (MultipleReader ι) ResultSet :=
  .ofStep fun r s =>
    match r.expected with
    | [] => ((.error .allSetsRead, r), s)
    | j :: rest =>
      if j = i then
        match r.source.next with
        | (.ok (some set), source) => ((.ok set, { r with expected := rest, source := source }), s)
        | (.ok none, source) =>
          ((.error (.noMoreSets (db.entities j).typeName), { r with source := source }), s)
        | (.error e, source) => ((.error e, { r with source := source }), s)
      else
        ((.error (.wrongEntity (db.entities j).typeName (db.entities i).typeName), r), s)

/-- Reads the next result set as records of entity `i`. -/
def readNext (db : Database σ ι E) (i : ι) :
    Editing σ ι E (MultipleReader ι) (List (E i)) := do
  let set ← db.takeSet i
  let m ← db.classMap i
  Editing.ofExcept (m.materialize (db.entities i).fresh set)

end Database

end SqlRecords
