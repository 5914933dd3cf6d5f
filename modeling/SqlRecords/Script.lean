import SqlRecords.Connection

/-!
# Scripted connections

A connection that answers from a script: each kind of call has a queue of replies, which are used
up in order. It refuses nothing by itself.

* `Script` — the queues, and whether a transaction is open.
* `Script.connection` — the connection. When a queue is used up, a statement changes one row, a
  query returns an empty result set, a command of several statements returns no result sets, and
  a transaction call succeeds.
-/

namespace SqlRecords

/-- The replies that are left, and whether a transaction is open. -/
structure Script where
  affected : List (Except Error Nat)
  sets : List (Except Error ResultSet)
  multiple : List (Except Error (List (Except Error ResultSet)))
  starts : List (Except Error Unit)
  commits : List (Except Error Unit)
  rollbacks : List (Except Error Unit)
  active : Bool

namespace Script

/-- The first reply of a queue, or the usual one, and the rest of the queue. -/
def take {α : Type} (usual : α) : List (Except Error α) → Except Error α × List (Except Error α)
  | [] => (.ok usual, [])
  | r :: rest => (r, rest)

/-- Whether a transaction is open after a call that opens or closes one. -/
def activeAfter {α : Type} (before after : Bool) : Except Error α → Bool
  | .ok _ => after
  | .error _ => before

/-- The connection that follows the script. -/
def connection (name : String) : Connection Script where
  name := name
  execute _ s :=
    let (r, rest) := take 1 s.affected
    (r, { s with affected := rest })
  query _ s :=
    let (r, rest) := take .empty s.sets
    (r, { s with sets := rest })
  queryMultiple _ s :=
    let (r, rest) := take [] s.multiple
    (r.map SetSource.ofList, { s with multiple := rest })
  start _ s :=
    let (r, rest) := take () s.starts
    (r, { s with starts := rest, active := activeAfter s.active true r })
  commit s :=
    let (r, rest) := take () s.commits
    (r, { s with commits := rest, active := activeAfter s.active false r })
  rollback s :=
    let (r, rest) := take () s.rollbacks
    (r, { s with rollbacks := rest, active := activeAfter s.active false r })
  isActive s := s.active

end Script

end SqlRecords
