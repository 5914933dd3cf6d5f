import SqlRecords.Value.Basic

/-!
# Types of fields

The types that a field of a record can have. Reading a value into a field converts it; see
`Value.read`.

* `IntType` — whole numbers of a fixed range.
* `FieldType` — all types, optional ones included.
-/

namespace SqlRecords

/-- A type of whole numbers. -/
inductive IntType where
  | int8 | int16 | int32 | int64 | uint8 | uint16 | uint32 | uint64
deriving DecidableEq, Repr

namespace IntType

/-- Every type of whole numbers. -/
def all : List IntType := [int8, int16, int32, int64, uint8, uint16, uint32, uint64]

/-- The name of the type in messages. -/
def label : IntType → String
  | int8 => "i8"
  | int16 => "i16"
  | int32 => "i32"
  | int64 => "i64"
  | uint8 => "u8"
  | uint16 => "u16"
  | uint32 => "u32"
  | uint64 => "u64"

/-- The least number of the type. -/
def least : IntType → Int
  | int8 => -Nat.pow 2 7
  | int16 => -Nat.pow 2 15
  | int32 => -Nat.pow 2 31
  | int64 => -Nat.pow 2 63
  | uint8 | uint16 | uint32 | uint64 => 0

/-- The greatest number of the type. -/
def greatest : IntType → Int
  | int8 => Nat.pow 2 7 - 1
  | int16 => Nat.pow 2 15 - 1
  | int32 => Nat.pow 2 31 - 1
  | int64 => Nat.pow 2 63 - 1
  | uint8 => Nat.pow 2 8 - 1
  | uint16 => Nat.pow 2 16 - 1
  | uint32 => Nat.pow 2 32 - 1
  | uint64 => Nat.pow 2 64 - 1

/-- Whether a number belongs to the type. -/
def holds (t : IntType) (n : Int) : Bool :=
  t.least ≤ n && n ≤ t.greatest

theorem holds_toInt (n : Int64) : int64.holds n.toInt = true := by
  rw [holds, Bool.and_eq_true, decide_eq_true_eq, decide_eq_true_eq]
  exact ⟨n.le_toInt, Int.le_sub_one_of_lt n.toInt_lt⟩

/-- A number of 64 bits is kept as it is. -/
theorem toInt_ofInt {n : Int} (h : int64.holds n = true) : (Int64.ofInt n).toInt = n := by
  rw [holds, Bool.and_eq_true, decide_eq_true_eq, decide_eq_true_eq] at h
  exact Int64.toInt_ofInt_of_le h.1 (Int.lt_of_le_sub_one h.2)

/-- The nearest number of the type. -/
def clamp (t : IntType) (n : Int) : Int :=
  max t.least (min t.greatest n)

end IntType

/-- The type of a field. -/
inductive FieldType where
  | int (t : IntType)
  /-- A real number of 64 bits. -/
  | real
  /-- A real number of 32 bits. -/
  | single
  | bool
  | text
  | char
  | dateTime
  | uuid
  | bytes
  /-- Any value as it is. -/
  | any
  /-- A field that may hold nothing. -/
  | optional (t : FieldType)
deriving DecidableEq, Repr

namespace FieldType

/-- The name of the type in messages. Reals of 32 bits are read as reals of 64 bits first, and
an optional field fails as the type inside it. -/
def label : FieldType → String
  | int t => t.label
  | real | single => "f64"
  | bool => "bool"
  | text => "String"
  | char => "char"
  | dateTime => "NaiveDateTime"
  | uuid => "Uuid"
  | bytes => "Vec<u8>"
  | any => "Value"
  | optional t => t.label

/-- The value of a field that nothing was assigned to. -/
def default : FieldType → Value
  | int _ => .integer 0
  | real | single => .real ⟨0⟩
  | bool => .bool false
  | text => .text ""
  | char => .char '\x00'
  | dateTime => .dateTime .epoch
  | uuid => .uuid .nil
  | bytes => .blob []
  | any | optional _ => .null

end FieldType

end SqlRecords
