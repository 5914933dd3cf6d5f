import SqlRecords.Error
import SqlRecords.Text.Blank

/-!
# Reading values into fields

Rows hold what the database stores, which is often another kind than the field has: databases
keep truth values as integers, and identifiers and date-times as text. Reading is lenient where
such a form denotes exactly one value of the type, and fails otherwise.

* `Value.toInt?` … `Value.toBytes?` — one function for each kind of target.
* `FieldType.convert?` — the value of the field, which is `null` only for optional fields and for
  fields of any value.
* `Value.read` — the same with the error.
-/

namespace SqlRecords

namespace Value

/-- The whole number that a value denotes. Reals without a fraction are brought into the range
of 64 bits; texts may have blanks at the ends. -/
def toInt? : Value → Option Int
  | integer n => some n.toInt
  | bool b => some (if b then 1 else 0)
  | real x => x.toInt?.map IntType.int64.clamp
  | text s => (Numeral.readInt? (Text.trim s.toList)).filter IntType.int64.holds
  | _ => none

/-- The real number that a value denotes. -/
def toReal? : Value → Option Binary64
  | real x => some x
  | integer n => some (.ofInt n.toInt)
  | text s => Binary64.read? (Text.trim s.toList)
  | _ => none

/-- The truth value that a value denotes: any integer but zero is true. -/
def toBool? : Value → Option Bool
  | bool b => some b
  | integer n => some (n.toInt ≠ 0)
  | _ => none

/-- The text of a value; there is none for nothing and for bytes. -/
def toText? : Value → Option String
  | null | blob _ => none
  | v => some v.display

/-- The character that a value denotes: also a text of one character. -/
def toChar? : Value → Option Char
  | char c => some c
  | text s =>
    match s.toList with
    | [c] => some c
    | _ => none
  | _ => none

/-- The date-time that a value denotes. -/
def toDateTime? : Value → Option DateTime
  | dateTime t => some t
  | text s => DateTime.readStored? s.toList
  | _ => none

/-- The identifier that a value denotes: also sixteen bytes. -/
def toUuid? : Value → Option Uuid
  | uuid u => some u
  | text s => Uuid.read? s.toList
  | blob bytes => Uuid.ofBytes? bytes
  | _ => none

/-- The bytes of a value. -/
def toBytes? : Value → Option (List UInt8)
  | blob bytes => some bytes
  | text s => some (Utf8.encode s)
  | _ => none

end Value

/-- The value that a field of the type takes when the given value is read into it. -/
def FieldType.convert? : FieldType → Value → Option Value
  | int t, v => (v.toInt?.filter t.holds).map fun n => .integer (.ofInt n)
  | real, v => v.toReal?.map .real
  | single, v => v.toReal?.map fun x => .real x.throughSingle
  | bool, v => v.toBool?.map .bool
  | text, v => v.toText?.map .text
  | char, v => v.toChar?.map .char
  | dateTime, v => v.toDateTime?.map .dateTime
  | uuid, v => v.toUuid?.map .uuid
  | bytes, v => v.toBytes?.map .blob
  | any, v => some v
  | optional _, .null => some .null
  | optional t, v => t.convert? v

namespace Value

/-- Reads a value into a field. -/
def read (t : FieldType) (v : Value) : Except Error Value :=
  match t.convert? v with
  | some w => .ok w
  | none => .error (.conversion v t)

/-- Reads a whole number of the given type. -/
def readInt (t : IntType) (v : Value) : Except Error Int :=
  match v.toInt?.filter t.holds with
  | some n => .ok n
  | none => .error (.conversion v (.int t))

end Value

end SqlRecords
