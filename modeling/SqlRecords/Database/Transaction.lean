import SqlRecords.Database.Basic

/-!
# Transactions

A unit of work begins a transaction and ends it once: by a commit, by a rollback, or by being
abandoned, which rolls back whatever is still open.

* `Database.start` — begins a transaction, unless one is open.
* `Database.abandon` — rolls back an open transaction; an error of that rollback is dropped.
* `Database.commit`, `Database.rollback` — end the unit of work. If the call fails, the unit is
  abandoned after it.
* `Outcome` — how the work in between can end.
* `Database.runInTransaction` — begins, works, and commits or rolls back by the outcome.
-/

namespace SqlRecords

/-- How a piece of work ends. -/
inductive Outcome (α : Type) where
  | done (a : α)
  | failed (e : Error)
  /-- The work was broken off, with a message. -/
  | aborted (message : String)

namespace Database

variable {σ ι : Type} {E : ι → Type}

/-- Begins a transaction on the connection. -/
def startTransaction (db : Database σ ι E) (level : Isolation) : Action σ ι E Unit :=
  db.send (.start level) (db.connection.start level)

/-- Commits the transaction of the connection. -/
def commitTransaction (db : Database σ ι E) : Action σ ι E Unit :=
  db.send .commit db.connection.commit

/-- Rolls back the transaction of the connection. -/
def rollbackTransaction (db : Database σ ι E) : Action σ ι E Unit :=
  db.send .rollback db.connection.rollback

/-- Begins a unit of work. -/
def start (db : Database σ ι E) (level : Isolation) : Action σ ι E Unit :=
  .ofStep fun s =>
    if db.isActive s then (.error .alreadyActive, s) else (db.startTransaction level).run s

/-- Ends a unit of work that nothing else ended. -/
def abandon (db : Database σ ι E) (s : Session σ ι E) : Session σ ι E :=
  if db.isActive s then (db.rollbackTransaction.run s).2 else s

/-- Ends a unit of work by a call; if the call fails, the unit is abandoned. -/
def finishBy (db : Database σ ι E) (x : Action σ ι E Unit) : Action σ ι E Unit :=
  .ofStep fun s =>
    match x.run s with
    | (.ok u, s') => (.ok u, s')
    | (.error e, s') => (.error e, db.abandon s')

/-- Ends a unit of work and keeps its changes. -/
def commit (db : Database σ ι E) : Action σ ι E Unit := db.finishBy db.commitTransaction

/-- Ends a unit of work and drops its changes. -/
def rollback (db : Database σ ι E) : Action σ ι E Unit := db.finishBy db.rollbackTransaction

/-- Begins a unit of work, does the work, and ends the unit: by a commit if the work was done, by
a rollback otherwise, whose own error is dropped. -/
def runInTransaction {α : Type} (db : Database σ ι E) (level : Isolation)
    (work : Session σ ι E → Outcome α × Session σ ι E) (s : Session σ ι E) :
    Outcome α × Session σ ι E :=
  match (db.start level).run s with
  | (.error e, s) => (.failed e, s)
  | (.ok _, s) =>
    match work s with
    | (.done a, s) =>
      match db.commit.run s with
      | (.ok _, s) => (.done a, s)
      | (.error e, s) => (.failed e, s)
    | (.failed e, s) => (.failed e, (db.rollback.run s).2)
    | (.aborted message, s) => (.aborted message, (db.rollback.run s).2)

end Database

end SqlRecords
