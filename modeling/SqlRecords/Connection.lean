import SqlRecords.ResultSet

/-!
# Connections

A connection to a database is anything that answers the calls below. It has a state of its own,
and each call turns a state into a reply and the next state; what a call does to the data is not
the library's business.

* `Isolation` — how far a transaction is kept apart from others.
* `Command` — the text of a statement with its parameters and time limit.
* `Call` — a call, as a log shows it.
* `SetSource` — the result sets of a command of several statements, handed out when asked for.
* `Connection` — the calls.
-/

namespace SqlRecords

/-- How far a transaction is kept apart from others. -/
inductive Isolation where
  | readUncommitted | readCommitted | repeatableRead | serializable
deriving DecidableEq, Repr

namespace Isolation

instance : Inhabited Isolation := ⟨readCommitted⟩

/-- The name of the level. -/
def name : Isolation → String
  | readUncommitted => "ReadUncommitted"
  | readCommitted => "ReadCommitted"
  | repeatableRead => "RepeatableRead"
  | serializable => "Serializable"

/-- Every level, from the loosest to the strictest. -/
def all : List Isolation := [readUncommitted, readCommitted, repeatableRead, serializable]

end Isolation

/-- A statement, its parameters, and the milliseconds it may take if there is a limit. -/
structure Command where
  sql : String
  params : Parameters
  timeout : Option Nat
deriving DecidableEq

/-- A call of a connection. -/
inductive Call where
  | execute (c : Command)
  | query (c : Command)
  | queryMultiple (c : Command)
  | start (level : Isolation)
  | commit
  | rollback
deriving DecidableEq

/-- The result sets of one command: the reply to the first request, to the second, and so on. A
reply is a result set, the end, or an error. -/
structure SetSource where
  reply : Nat → Except Error (Option ResultSet)
  /-- The number of requests so far. -/
  pulls : Nat

namespace SetSource

/-- The reply to the next request, and the source after it. -/
def next (s : SetSource) : Except Error (Option ResultSet) × SetSource :=
  (s.reply s.pulls, { s with pulls := s.pulls + 1 })

/-- The replies of a list, and then the end. -/
def ofList (replies : List (Except Error ResultSet)) : SetSource :=
  { reply := fun n =>
      match replies[n]? with
      | some (.ok set) => .ok (some set)
      | some (.error e) => .error e
      | none => .ok none
    pulls := 0 }

/-- Result sets that were read ahead. -/
def buffered (b : BufferedSets) : SetSource := ofList (b.sets.map .ok)

end SetSource

/-- A connection with states of type `σ`. -/
structure Connection (σ : Type) where
  /-- The name by which descriptions call it. -/
  name : String
  /-- Runs a statement and gives the number of rows it changed. -/
  execute : Command → σ → Except Error Nat × σ
  /-- Runs a query and gives all of its rows. -/
  query : Command → σ → Except Error ResultSet × σ
  /-- Runs a command of several statements. -/
  queryMultiple : Command → σ → Except Error SetSource × σ
  start : Isolation → σ → Except Error Unit × σ
  commit : σ → Except Error Unit × σ
  rollback : σ → Except Error Unit × σ
  /-- Whether a transaction is open. -/
  isActive : σ → Bool

end SqlRecords
