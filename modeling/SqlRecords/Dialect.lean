import SqlRecords.Parameters
import SqlRecords.Text.Name

/-!
# Dialects

The facts of syntax in which database systems differ, one function for each.

* `Dialect.quote` — an identifier between the dialect's quotes. A quote inside is not escaped.
* `Dialect.style` — the placeholders it understands.
* `Dialect.batches` — whether one command may carry several statements.
* `Dialect.identitySql`, `Dialect.limitClause`, `Dialect.procedureKeyword` — the statement that
  reads back a key that the database assigned, the clause that selects a window of rows, and the
  keyword that calls a stored procedure.
-/

namespace SqlRecords

/-- A dialect of SQL. -/
inductive Dialect where
  | sqlite | postgresql | mysql | sqlServer
deriving DecidableEq, Repr

namespace Dialect

instance : Inhabited Dialect := ⟨sqlite⟩

/-- The name in small letters. -/
def name : Dialect → String
  | sqlite => "sqlite"
  | postgresql => "postgresql"
  | mysql => "mysql"
  | sqlServer => "sqlserver"

/-- The name as the system writes it itself. -/
def label : Dialect → String
  | sqlite => "SQLite"
  | postgresql => "PostgreSQL"
  | mysql => "MySQL"
  | sqlServer => "SqlServer"

/-- The names under which a dialect is known. -/
def aliases : Dialect → List String
  | sqlite => ["sqlite"]
  | postgresql => ["postgresql", "postgres", "pg"]
  | mysql => ["mysql"]
  | sqlServer => ["sqlserver", "mssql"]

/-- Every dialect, in the order of declaration. -/
def all : List Dialect := [sqlite, postgresql, mysql, sqlServer]

/-- The dialect known under a name, in any case. -/
def ofName? (name : String) : Option Dialect :=
  all.find? fun d => d.aliases.any fun known => Text.sameName known name

/-- What is said of a name that no dialect has. -/
def unknownName : String := "unknown dialect"

/-- The style of placeholders. -/
def style : Dialect → PlaceholderStyle
  | sqlite | sqlServer => .atSign
  | postgresql => .dollar
  | mysql => .positional

/-- An identifier between the dialect's quotes. -/
def quote : Dialect → String → String
  | sqlite, name | postgresql, name => "\"" ++ name ++ "\""
  | mysql, name => "`" ++ name ++ "`"
  | sqlServer, name => "[" ++ name ++ "]"

/-- Whether one command may carry several statements and return a result set for each. -/
def batches : Dialect → Bool
  | sqlite => false
  | postgresql | mysql | sqlServer => true

/-- What stands between the statements of one command. -/
def separator (_ : Dialect) : String := ";\n"

/-- The statement that reads back the key assigned by the last insert, in a column named `id`. -/
def identitySql : Dialect → String
  | sqlite => "SELECT last_insert_rowid() AS id"
  | postgresql => "SELECT LASTVAL() AS id"
  | mysql => "SELECT LAST_INSERT_ID() AS id"
  | sqlServer => "SELECT CAST(SCOPE_IDENTITY() AS BIGINT) AS [id]"

/-- The clause that selects at most `count` rows after skipping `first`; it follows an
`ORDER BY`. -/
def limitClause (d : Dialect) (first count : UInt64) : String :=
  let first := Numeral.natText first.toNat
  let count := Numeral.natText count.toNat
  match d with
  | sqlServer => "OFFSET " ++ first ++ " ROWS FETCH NEXT " ++ count ++ " ROWS ONLY"
  | sqlite | postgresql | mysql => "LIMIT " ++ count ++ " OFFSET " ++ first

/-- The keyword that calls a stored procedure, where there are any. -/
def procedureKeyword? : Dialect → Option String
  | sqlite => none
  | postgresql | mysql => some "CALL"
  | sqlServer => some "EXEC"

/-- A dialect is known under its own name. -/
theorem ofName?_name (d : Dialect) : ofName? d.name = some d := by
  cases d <;> decide +kernel

end Dialect

end SqlRecords
