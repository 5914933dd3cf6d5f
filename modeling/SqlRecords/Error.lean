import SqlRecords.Dialect
import SqlRecords.Operators
import SqlRecords.Value.FieldType
import SqlRecords.Value.Text

/-!
# Errors

Everything that can go wrong, as causes, and the wording of each in one function.

* `ErrorKind` — what a caller reacts to.
* `Error` — the causes; `Error.kind` and `Error.message` give the kind and the wording.
-/

namespace SqlRecords

/-- The kinds of errors. -/
inductive ErrorKind where
  /-- A mapping, a name or an argument that does not fit the table. -/
  | configuration
  /-- An expression that has no SQL form. -/
  | unsupportedExpression
  /-- Result sets read in another order than they were asked for. -/
  | readerMisuse
  | transaction
  /-- A row that does not fit the record. -/
  | mapping
  /-- A statement that the database refused. -/
  | execution
  /-- An error of the embedded database. -/
  | engine
  /-- A request that no program may make; there is no going on after it. -/
  | fatal
deriving DecidableEq, Repr

namespace ErrorKind

/-- Every kind. -/
def all : List ErrorKind :=
  [configuration, unsupportedExpression, readerMisuse, transaction, mapping, execution, engine,
    fatal]

/-- What a message of this kind starts with. -/
def heading : ErrorKind → String
  | configuration => "Configuration error: "
  | unsupportedExpression => "Unsupported expression: "
  | readerMisuse => "Reader misuse: "
  | transaction => "Transaction error: "
  | mapping => "Mapping error: "
  | execution => "Execution error: "
  | engine => "Engine error: "
  | fatal => "Fatal error: "

end ErrorKind

/-- Why an operation failed. -/
inductive Error where
  /-- A property that the entity does not have. -/
  | unknownProperty (entity property : String)
  /-- A property compared with nothing in another way than for equality. -/
  | nullComparison (operator : Operator) (property : String)
  /-- A single value as the identifier of an entity with none or several keys. -/
  | scalarId (entity : String) (keys : Nat)
  /-- An identifier of several values that lacks one. -/
  | missingKey (entity key : String)
  | noKeyColumn (entity : String)
  | blankTableName (entity : String)
  | repeatedProperty (entity property : String)
  | severalIdentities (entity : String) (count : Nat)
  | emptyPage
  | pageOutOfRange (index size : UInt64)
  /-- A row that ends before a column that has to be written. -/
  | shortRow (table : String) (column : Nat)
  | noUpdatableColumn (entity : String)
  | noProcedures (dialect : Dialect)
  | nothingAssigned (entity : String)
  | nothingMatched (entity : String)
  /-- A member without a value where a value is needed. -/
  | unboundMember (name : String)
  /-- An array that is not the list of `IN`. -/
  | strayArray
  | argumentCount (method : Method) (count : Nat)
  | emptyList
  | allSetsRead
  /-- The next result set holds another entity than the one asked for. -/
  | wrongEntity (held asked : String)
  | noMoreSets (entity : String)
  | alreadyActive
  | nothingToCommit
  | nothingToRollBack
  /-- A value that a field of the given type cannot hold. -/
  | conversion (value : Value) (target : FieldType)
  | noColumn (name : String)
  | emptyRow
  | noRow
  /-- More values than the entity has properties. -/
  | surplusValues (entity : String) (values properties : Nat)
  /-- A time limit of more milliseconds than the embedded database can keep. -/
  | limitTooLong (milliseconds : Nat)
  /-- An error of the connection, in its own words. -/
  | connection (kind : ErrorKind) (detail : String)
deriving DecidableEq

namespace Error

/-- The kind of an error. -/
def kind : Error → ErrorKind
  | unknownProperty .. | nullComparison .. | scalarId .. | missingKey .. | noKeyColumn _
  | blankTableName _ | repeatedProperty .. | severalIdentities .. | emptyPage | pageOutOfRange ..
  | shortRow .. | noUpdatableColumn _ | noProcedures _ | nothingAssigned _ | nothingMatched _ =>
    .configuration
  | unboundMember _ | strayArray | argumentCount .. | emptyList => .unsupportedExpression
  | allSetsRead | wrongEntity .. | noMoreSets _ => .readerMisuse
  | alreadyActive | nothingToCommit | nothingToRollBack => .transaction
  | conversion .. | noColumn _ | emptyRow | noRow | surplusValues .. => .mapping
  | limitTooLong _ => .fatal
  | connection kind _ => kind

/-- A name as messages quote it. -/
def quoted (name : String) : String := "`" ++ name ++ "`"

/-- The cause in words. -/
def detail : Error → String
  | unknownProperty entity property => entity ++ " has no property named " ++ quoted property
  | nullComparison operator property =>
    "operator " ++ operator.name ++ " cannot compare " ++ quoted property ++ " against null"
  | scalarId entity keys =>
    entity ++ " has " ++ Numeral.natText keys ++ " key columns; a scalar id needs exactly one"
  | missingKey entity key => "id for " ++ entity ++ " is missing key " ++ quoted key
  | noKeyColumn entity => entity ++ " has no key column"
  | blankTableName entity => entity ++ " maps to a blank table name"
  | repeatedProperty entity property => entity ++ " maps property " ++ quoted property ++ " twice"
  | severalIdentities entity count =>
    entity ++ " declares " ++ Numeral.natText count ++ " identity keys; at most one is allowed"
  | emptyPage => "page size must be greater than 0"
  | pageOutOfRange index size =>
    "page " ++ Numeral.natText index.toNat ++ " of size " ++ Numeral.natText size.toNat ++
      " is out of range"
  | shortRow table column =>
    "row for " ++ table ++ " has no value for column " ++ Numeral.natText column
  | noUpdatableColumn entity => entity ++ " has no updatable columns"
  | noProcedures dialect => dialect.name ++ " has no stored procedures"
  | nothingAssigned entity => "update of " ++ entity ++ " assigns no fields"
  | nothingMatched entity => "update of " ++ entity ++ " matches no fields"
  | unboundMember name => "member " ++ quoted name ++ " has no captured value on the value side"
  | strayArray => "an array is only valid as the list of IN / NOT IN"
  | argumentCount method count =>
    method.name ++ " takes 2 arguments, got " ++ Numeral.natText count
  | emptyList => "IN / NOT IN needs at least one item"
  | allSetsRead => "every result set was already read"
  | wrongEntity held asked => "next result set holds " ++ held ++ ", not " ++ asked
  | noMoreSets entity => "connection returned no result set for " ++ entity
  | alreadyActive => "a transaction is already active on this connection"
  | nothingToCommit => "no active transaction to commit"
  | nothingToRollBack => "no active transaction to roll back"
  | conversion value target =>
    "cannot convert " ++ value.kindName ++ " value " ++ quoted value.display ++ " into " ++
      target.label
  | noColumn name => "no column named " ++ quoted name
  | emptyRow => "row has no columns"
  | noRow => "expected a row, got none"
  | surplusValues entity values properties =>
    Numeral.natText values ++ " values supplied for " ++ Numeral.natText properties ++
      " properties of " ++ entity
  | limitTooLong milliseconds =>
    "a time limit of " ++ Numeral.natText milliseconds ++ " milliseconds is too long"
  | connection _ detail => detail

/-- The whole message. -/
def message (e : Error) : String := e.kind.heading ++ e.detail

/-- A sequence that succeeds succeeds in both parts. -/
theorem bind_eq_ok {α β : Type} {x : Except Error α} {f : α → Except Error β} {b : β}
    (h : x >>= f = .ok b) : ∃ a, x = .ok a ∧ f a = .ok b := by
  cases x with
  | error e => exact absurd h (by simp [bind, Except.bind])
  | ok a => exact ⟨a, rfl, h⟩

/-- A sequence that fails fails in its first part, or in its second after the first. -/
theorem bind_eq_error {α β : Type} {x : Except Error α} {f : α → Except Error β} {e : Error}
    (h : x >>= f = .error e) : x = .error e ∨ ∃ a, x = .ok a ∧ f a = .error e := by
  cases x with
  | error e' => exact .inl (congrArg Except.error (Except.error.inj h))
  | ok a => exact .inr ⟨a, rfl, h⟩

end Error

end SqlRecords
