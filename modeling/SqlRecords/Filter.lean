import SqlRecords.Predicate.Basic
import SqlRecords.Table

/-!
# Filters

The arguments by which callers choose records, and the predicates derived from them.

* `FieldSet` — pairs of property and value, in order; names are found without regard to ASCII
  case, the first of several wins.
* `Identifier` — the value of the only key, or values by the names of the keys.
* `Filter` — a predicate, or an example that lists the values to match.
* `SortKey` — one property to order by.

`Identifier.predicate` names every key column of the table, in the order of declaration.
-/

namespace SqlRecords

/-- Pairs of property and value, in order. -/
structure FieldSet where
  fields : List (String × Value)
deriving DecidableEq

namespace FieldSet

instance : Inhabited FieldSet := ⟨⟨[]⟩⟩

/-- The number of pairs. -/
def size (s : FieldSet) : Nat := s.fields.length

/-- Whether there are no pairs. -/
def isEmpty (s : FieldSet) : Bool := s.fields.isEmpty

/-- The value of the first pair with this name. -/
def get? (s : FieldSet) (name : String) : Option Value :=
  (s.fields.find? fun p => Text.sameName p.1 name).map (·.2)

/-- Whether there is a pair with this name. -/
def contains (s : FieldSet) (name : String) : Bool :=
  s.fields.any fun p => Text.sameName p.1 name

/-- The predicate that every property has its value; none for no pairs. -/
def predicate? (s : FieldSet) : Option Predicate :=
  Predicate.all? (s.fields.map fun p => Predicate.eq p.1 p.2)

end FieldSet

/-- A property to order by. -/
structure SortKey where
  property : String
  ascending : Bool
deriving DecidableEq

/-- Which records an operation is about. -/
inductive Filter where
  | predicate (p : Predicate)
  | byExample (s : FieldSet)

/-- The predicate of a filter; an empty example filters nothing. -/
def Filter.predicate? : Filter → Option Predicate
  | predicate p => some p
  | byExample s => s.predicate?

/-- Which record an operation is about. -/
inductive Identifier where
  | single (v : Value)
  /-- Values by the names of key properties. -/
  | composite (s : FieldSet)
deriving DecidableEq

namespace Identifier

/-- The conditions on the given keys that an identifier with named values makes. -/
def conditions (t : Table) (s : FieldSet) : List Column → Except Error (List Predicate)
  | [] => .ok []
  | key :: keys => do
    let first ← match s.get? key.property with
      | some v => Except.ok (Predicate.eq key.property v)
      | none => .error (.missingKey t.entity key.property)
    let rest ← conditions t s keys
    return first :: rest

/-- The predicate that matches the identified record. -/
def predicate (t : Table) : Identifier → Except Error Predicate
  | single v =>
    match t.keys with
    | [key] => .ok (Predicate.eq key.property v)
    | keys => .error (.scalarId t.entity keys.length)
  | composite s => do
    let found ← conditions t s t.keys
    match Predicate.all? found with
    | some p => .ok p
    | none => .error (.noKeyColumn t.entity)

end Identifier

end SqlRecords
