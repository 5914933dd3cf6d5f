import SqlRecords.Calendar.Duration
import SqlRecords.ClassMap.Materialize
import SqlRecords.Connection
import SqlRecords.Statement
import SqlRecords.Trace

/-!
# Databases

A database joins a connection with a generator of statements and the mappings of the entities that
it stores. Entities are indexed by a type `ι`, and the records of entity `i` have type `E i`.

* `EntityType` — what is known of one entity before its class map is first asked for.
* `Database` — what stays the same while it is used; `Session` — what changes: the state of the
  connection, the class maps built so far, the count of generated keys, and two records of what
  happened, the calls and the reports.
* `Action` — an operation; whatever it did to the session stays done when it fails.
* `Database.classMap` — builds a class map on first use and keeps it; a failure is not kept.
* `Database.execute`, `Database.query`, `Database.queryMultiple` — the calls of the connection.
-/

namespace SqlRecords

/-- An entity with records of type `α`. -/
structure EntityType (α : Type) where
  /-- The full name of the type. -/
  typeName : String
  /-- A record that nothing was assigned to. -/
  fresh : α
  /-- The class map, or why there is none. -/
  classMap : Except Error (ClassMap α)

/-- Class maps that were built, each with its entity. -/
structure ClassMapCache (ι : Type) (E : ι → Type) where
  entries : List ((i : ι) × ClassMap (E i))

namespace ClassMapCache

variable {ι : Type} {E : ι → Type}

/-- No class maps. -/
def empty : ClassMapCache ι E := ⟨[]⟩

/-- The number of class maps. -/
def size (c : ClassMapCache ι E) : Nat := c.entries.length

/-- The class map of an entity in a list. -/
def lookup [DecidableEq ι] (i : ι) : List ((i : ι) × ClassMap (E i)) → Option (ClassMap (E i))
  | [] => none
  | ⟨j, m⟩ :: rest => if h : j = i then some (h ▸ m) else lookup i rest

/-- The class map of an entity. -/
def find? [DecidableEq ι] (c : ClassMapCache ι E) (i : ι) : Option (ClassMap (E i)) :=
  lookup i c.entries

/-- One more class map. -/
def insert (c : ClassMapCache ι E) (i : ι) (m : ClassMap (E i)) : ClassMapCache ι E :=
  ⟨⟨i, m⟩ :: c.entries⟩

theorem find?_insert_self [DecidableEq ι] (c : ClassMapCache ι E) (i : ι) (m : ClassMap (E i)) :
    (c.insert i m).find? i = some m := by
  simp [find?, insert, lookup]

theorem find?_insert_of_ne [DecidableEq ι] (c : ClassMapCache ι E) {i j : ι} (m : ClassMap (E i))
    (h : i ≠ j) : (c.insert i m).find? j = c.find? j := by
  simp [find?, insert, lookup, h]

end ClassMapCache

/-- What stays the same while a database is used. -/
structure Database (σ ι : Type) (E : ι → Type) where
  connection : Connection σ
  generator : Generator
  /-- The milliseconds that a command may take, if there is a limit. -/
  timeout : Option Nat
  entities : (i : ι) → EntityType (E i)
  /-- The generated keys, in the order in which they are given out. -/
  surrogates : Nat → Value

/-- What changes while a database is used. -/
structure Session (σ ι : Type) (E : ι → Type) where
  /-- The state of the connection. -/
  backend : σ
  cache : ClassMapCache ι E
  /-- The entities whose class map was asked for when it was not there, in order. -/
  builds : List ι
  /-- The number of generated keys given out. -/
  issued : Nat
  /-- The calls of the connection, in order. -/
  calls : List Call
  /-- The reports, in order. -/
  events : List Event

/-- A session in which nothing happened yet. -/
def Session.new {σ ι : Type} {E : ι → Type} (backend : σ) : Session σ ι E :=
  ⟨backend, .empty, [], 0, [], []⟩

/-- An operation on a session that gives a value or fails. -/
abbrev Action (σ ι : Type) (E : ι → Type) (α : Type) : Type :=
  ExceptT Error (StateM (Session σ ι E)) α

namespace Action

variable {σ ι : Type} {E : ι → Type} {α : Type}

/-- The operation with the given effect. -/
def ofStep (f : Session σ ι E → Except Error α × Session σ ι E) : Action σ ι E α :=
  ExceptT.mk f

/-- What the operation gives, and the session after it. -/
def run (x : Action σ ι E α) (s : Session σ ι E) : Except Error α × Session σ ι E :=
  StateT.run (ExceptT.run x) s

/-- An operation that leaves the session alone. -/
def ofExcept (r : Except Error α) : Action σ ι E α :=
  ofStep fun s => (r, s)

@[simp] theorem run_ofStep (f : Session σ ι E → Except Error α × Session σ ι E)
    (s : Session σ ι E) : (ofStep f).run s = f s := rfl

@[simp] theorem run_ofExcept (r : Except Error α) (s : Session σ ι E) :
    (ofExcept r).run s = (r, s) := rfl

@[simp] theorem run_pure (a : α) (s : Session σ ι E) :
    run (pure a) s = (.ok a, s) := rfl

/-- A sequence stops at the first failure; what was done before it stays done. -/
theorem run_bind {β : Type} (x : Action σ ι E α) (f : α → Action σ ι E β) (s : Session σ ι E) :
    run (x >>= f) s =
      match x.run s with
      | (.ok a, s') => (f a).run s'
      | (.error e, s') => (.error e, s') := by
  unfold run ExceptT.run StateT.run
  simp only [bind, ExceptT.bind, ExceptT.mk, ExceptT.bindCont, StateT.bind]
  rcases x s with ⟨_ | _, _⟩ <;> rfl

/-- After a success the sequence goes on. -/
theorem run_bind_of_ok {β : Type} {x : Action σ ι E α} {s s' : Session σ ι E} {a : α}
    (h : x.run s = (.ok a, s')) (f : α → Action σ ι E β) : run (x >>= f) s = (f a).run s' := by
  rw [run_bind, h]

/-- After a failure it does not. -/
theorem run_bind_of_error {β : Type} {x : Action σ ι E α} {s s' : Session σ ι E} {e : Error}
    (h : x.run s = (.error e, s')) (f : α → Action σ ι E β) :
    run (x >>= f) s = (.error e, s') := by
  rw [run_bind, h]

/-- A sequence that succeeds has passed through a success of its first part. -/
theorem run_bind_eq_ok {β : Type} {x : Action σ ι E α} {f : α → Action σ ι E β}
    {s s' : Session σ ι E} {b : β} (h : run (x >>= f) s = (.ok b, s')) :
    ∃ a u, x.run s = (.ok a, u) ∧ (f a).run u = (.ok b, s') := by
  rw [run_bind] at h
  rcases hx : x.run s with ⟨e | a, u⟩ <;> rw [hx] at h
  · exact absurd (congrArg Prod.fst h) nofun
  · exact ⟨a, u, rfl, h⟩

end Action

namespace Database

variable {σ ι : Type} {E : ι → Type}

/-! ## Class maps -/

/-- The class map of an entity, from the cache or newly built. -/
def classMap [DecidableEq ι] (db : Database σ ι E) (i : ι) : Action σ ι E (ClassMap (E i)) :=
  .ofStep fun s =>
    match s.cache.find? i with
    | some m => (.ok m, s)
    | none =>
      match (db.entities i).classMap with
      | .ok m => (.ok m, { s with builds := s.builds ++ [i], cache := s.cache.insert i m })
      | .error e => (.error e, { s with builds := s.builds ++ [i] })

/-- Forgets every class map. -/
def clearCache (_ : Database σ ι E) : Action σ ι E Unit :=
  .ofStep fun s =>
    (.ok (), { s with cache := .empty, events := s.events ++ [.cacheCleared s.cache.size] })

/-- The next generated key. -/
def nextSurrogate (db : Database σ ι E) : Action σ ι E Value :=
  .ofStep fun s => (.ok (db.surrogates s.issued), { s with issued := s.issued + 1 })

/-- Adds a report. -/
def report (_ : Database σ ι E) (e : Event) : Action σ ι E Unit :=
  .ofStep fun s => (.ok (), { s with events := s.events ++ [e] })

/-! ## Calls -/

/-- Calls the connection and logs the call, whether it succeeds or not. -/
def send {α : Type} (_ : Database σ ι E) (call : Call) (f : σ → Except Error α × σ) :
    Action σ ι E α :=
  .ofStep fun s =>
    ((f s.backend).1, { s with backend := (f s.backend).2, calls := s.calls ++ [call] })

/-- The command of a statement. -/
def command (db : Database σ ι E) (sql : String) (ps : Parameters) : Command :=
  ⟨sql, ps, db.timeout⟩

/-- Runs a statement. -/
def execute (db : Database σ ι E) (sql : String) (ps : Parameters) : Action σ ι E Nat :=
  db.send (.execute (db.command sql ps)) (db.connection.execute (db.command sql ps))

/-- Runs a query. -/
def query (db : Database σ ι E) (sql : String) (ps : Parameters) : Action σ ι E ResultSet :=
  db.send (.query (db.command sql ps)) (db.connection.query (db.command sql ps))

/-- Runs a command of several statements. -/
def queryMultiple (db : Database σ ι E) (sql : String) (ps : Parameters) :
    Action σ ι E SetSource :=
  db.send (.queryMultiple (db.command sql ps)) (db.connection.queryMultiple (db.command sql ps))

/-- Whether a transaction is open. -/
def isActive (db : Database σ ι E) (s : Session σ ι E) : Bool := db.connection.isActive s.backend

/-- Drafts a statement with no parameters so far. -/
def draft {α : Type} (db : Database σ ι E) (d : Draft α) : Action σ ι E (α × Parameters) :=
  match d.run db.generator.parameters with
  | (.ok a, ps) => pure (a, ps)
  | (.error e, _) => throw e

/-- Runs a query for whole records. -/
def fetch (db : Database σ ι E) (i : ι) (m : ClassMap (E i)) (sql : String) (ps : Parameters) :
    Action σ ι E (List (E i)) := do
  let set ← db.query sql ps
  Action.ofExcept (m.materialize (db.entities i).fresh set)

/-- Runs a query for one whole number. -/
def queryNumber (db : Database σ ι E) (t : IntType) (sql : String) (ps : Parameters) :
    Action σ ι E Int := do
  let set ← db.query sql ps
  Action.ofExcept (set.scalar >>= Value.readInt t)

/-! ## Description -/

/-- A time limit that may be absent. -/
def describeTimeout : Option Nat → String
  | none => "None"
  | some ms => "Some(" ++ Duration.describe ms ++ ")"

/-- The database with its connection and configuration. -/
def describe (db : Database σ ι E) (s : Session σ ι E) : String :=
  "Database \x7b conn: " ++ db.connection.name ++ ", configuration: Configuration \x7b dialect: " ++
    db.generator.dialect.label ++ ", command_timeout: " ++ describeTimeout db.timeout ++
    ", cached_class_maps: " ++ Numeral.natText s.cache.size ++ ", .. \x7d \x7d"

end Database

end SqlRecords
