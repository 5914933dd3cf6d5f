import SqlRecords.Value.Text

/-!
# Storage values

The embedded database stores five kinds of values. The other kinds of `Value` are stored in one
of these forms: truth values as the integers zero and one, and characters, date-times and
identifiers as their text.

* `StorageValue` — the five kinds.
* `Value.toStorage` — the form in which a value is bound.
* `StorageValue.kept` — what a column keeps of a bound value: a real that is not a number is kept
  as nothing.
* `StorageValue.toValue` — the value of a cell that is read.
-/

namespace SqlRecords

/-- A value of the embedded database. -/
inductive StorageValue where
  | null
  | integer (n : Int64)
  | real (x : Binary64)
  | text (s : String)
  | blob (bytes : List UInt8)
deriving DecidableEq

/-- The form in which a value is bound. -/
def Value.toStorage : Value → StorageValue
  | null => .null
  | bool b => .integer (if b then 1 else 0)
  | integer n => .integer n
  | real x => .real x
  | text s => .text s
  | v@(char _) | v@(dateTime _) | v@(uuid _) => .text v.display
  | blob bytes => .blob bytes

namespace StorageValue

/-- What is kept of a bound value. -/
def kept : StorageValue → StorageValue
  | real x => if x.isNaN then null else real x
  | v => v

/-- The value of a cell. -/
def toValue : StorageValue → Value
  | null => .null
  | integer n => .integer n
  | real x => .real x
  | text s => .text s
  | blob bytes => .blob bytes

theorem toStorage_toValue (v : StorageValue) : v.toValue.toStorage = v := by
  cases v <;> rfl

end StorageValue

/-- The value that is read after a value was bound and kept. -/
def Value.stored (v : Value) : Value := v.toStorage.kept.toValue

end SqlRecords
