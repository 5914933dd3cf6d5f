/-!
# Trace

What the library reports about its work, in order, besides the answers it gives.
-/

namespace SqlRecords

/-- How urgent a report is. -/
inductive TraceLevel where
  | debug | info
deriving DecidableEq, Repr

/-- A step of a transaction. -/
inductive TransactionStep where
  | start | commit | rollback
deriving DecidableEq, Repr

/-- The name of the step. -/
def TransactionStep.name : TransactionStep → String
  | start => "begin"
  | commit => "commit"
  | rollback => "rollback"

/-- A report. -/
inductive Event where
  /-- A statement is about to be prepared. -/
  | statement (sql : String) (parameters : Nat)
  /-- A transaction of the embedded database takes a step. -/
  | transaction (step : TransactionStep)
  /-- Several queries are about to be answered, by one command or one after another. -/
  | severalQueries (batched : Bool) (queries : Nat)
  /-- The class maps that were kept are dropped. -/
  | cacheCleared (cached : Nat)
deriving DecidableEq, Repr

/-- How urgent a report is: only transactions concern more than the developer. -/
def Event.level : Event → TraceLevel
  | transaction _ => .info
  | statement .. | severalQueries .. | cacheCleared _ => .debug

end SqlRecords
