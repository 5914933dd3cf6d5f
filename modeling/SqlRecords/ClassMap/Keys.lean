import SqlRecords.ClassMap.Basic
import SqlRecords.Filter

/-!
# Keys of records

* `ClassMap.keyPredicate` — matches the record with the key values of a given one.
* `RecordKey` — the key of a record after an insert: one value, or named values.
-/

namespace SqlRecords

/-- The key of a record. -/
inductive RecordKey where
  | single (v : Value)
  | composite (s : FieldSet)
deriving DecidableEq

namespace RecordKey

/-- Whether the key is one value. -/
def isSingle : RecordKey → Bool
  | single _ => true
  | composite _ => false

/-- The value of a named key; a single value is the value of any name. -/
def get? : RecordKey → String → Option Value
  | single v, _ => some v
  | composite s, name => s.get? name

/-- The identifier that finds the record again. -/
def identifier : RecordKey → Identifier
  | single v => .single v
  | composite s => .composite s

end RecordKey

namespace ClassMap

variable {α : Type}

/-- The conditions on all keys of a record. -/
def keyPredicate (m : ClassMap α) (a : α) : Except Error Predicate :=
  match Predicate.all? ((m.keyValues a).map fun k => Predicate.eq k.1.property k.2) with
  | some p => .ok p
  | none => .error (.noKeyColumn m.table.entity)

/-- The key of a record: one value if there is exactly one key column. -/
def recordKey (m : ClassMap α) (a : α) : RecordKey :=
  match m.keyValues a with
  | [key] => .single key.2
  | keys => .composite ⟨keys.map fun k => (k.1.property, k.2)⟩

end ClassMap

end SqlRecords
