import SqlRecords.Calendar.DateTime
import SqlRecords.Real.Binary64
import SqlRecords.Uuid

/-!
# Values

What moves between the fields of a record and the columns of a table.

* `Value` — one value of one of nine kinds, `null` among them.
* `Value.compare?` — the order of values: kinds first, in the order of the constructors, then
  the order inside the kind. A real that is not a number is not comparable.
* `Value.isUnsetKey` — whether a key column still waits for its value.
-/

namespace SqlRecords

/-- A value that can be bound to a statement, written as a literal or read from a row. -/
inductive Value where
  | null
  | bool (b : Bool)
  | integer (n : Int64)
  | real (x : Binary64)
  | text (s : String)
  | char (c : Char)
  | dateTime (t : DateTime)
  | uuid (u : Uuid)
  | blob (bytes : List UInt8)
deriving DecidableEq

namespace Value

instance : Inhabited Value := ⟨null⟩

/-- The name of the kind, as messages give it. -/
def kindName : Value → String
  | null => "null"
  | bool _ => "bool"
  | integer _ => "integer"
  | real _ => "real"
  | text _ => "text"
  | char _ => "char"
  | dateTime _ => "datetime"
  | uuid _ => "uuid"
  | blob _ => "blob"

/-- The place of the kind in the order of values. -/
def kindIndex : Value → Nat
  | null => 0
  | bool _ => 1
  | integer _ => 2
  | real _ => 3
  | text _ => 4
  | char _ => 5
  | dateTime _ => 6
  | uuid _ => 7
  | blob _ => 8

/-- Whether this is the absent value. -/
def isNull : Value → Bool
  | null => true
  | _ => false

@[simp] theorem isNull_iff {v : Value} : v.isNull = true ↔ v = null := by
  cases v <;> simp [isNull]

/-- Whether the literal of the value stands in single quotes. -/
def isTextLike : Value → Bool
  | text _ | char _ | dateTime _ | uuid _ => true
  | _ => false

/-- Whether a key column with this value still waits for one: nothing, or the identifier of
zeros. -/
def isUnsetKey : Value → Bool
  | null => true
  | uuid u => u.isNil
  | _ => false

/-- The text, if the value is one. -/
def asText? : Value → Option String
  | text s => some s
  | _ => none

/-- The order of values, where there is one. -/
def compare? : Value → Value → Option Ordering
  | null, null => some .eq
  | bool a, bool b => some (compare a b)
  | integer a, integer b => some (compare a.toInt b.toInt)
  | real a, real b => a.compare? b
  | text a, text b => some (compare a.toList b.toList)
  | char a, char b => some (compare a b)
  | dateTime a, dateTime b => some (a.order b)
  | uuid a, uuid b => some (a.order b)
  | blob a, blob b => some (compare a b)
  | a, b => some (compare a.kindIndex b.kindIndex)

/-- Equality of values as numbers and texts: the two zeros are equal, a not-a-number is equal to
nothing. -/
def equal (a b : Value) : Bool :=
  a.compare? b == some .eq

end Value

end SqlRecords
