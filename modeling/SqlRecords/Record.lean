import SqlRecords.ClassMap.Declaration
import SqlRecords.Value.Reading

/-!
# Records of values

A record type that is not fixed in advance: its fields are listed with their types, and a record
is the list of their values.

* `Record` — the values of the fields, in order.
* `FieldDeclaration` — a step in the declaration of a record type, like `Declaration` with the
  type of the field in place of getter and setter.
* `Record.declarations` — the steps of the class map; the field at place `i` is read as it is and
  written after conversion to its type.
* `Record.fresh` — a record with the default of every field, or with given values in front.
-/

namespace SqlRecords

/-- The values of the fields of a record. -/
abbrev Record : Type := List Value

/-- A step in the declaration of a record type. -/
inductive FieldDeclaration where
  | table (name : String)
  | schema (name : String)
  /-- A further field. -/
  | field (name : String) (kind : KeyKind) (type : FieldType)
  | columnName (name : String)
  | readOnly
  | ignored
deriving DecidableEq

namespace Record

/-- The types of the fields, in order. -/
def fieldTypes (steps : List FieldDeclaration) : List FieldType :=
  steps.filterMap fun
    | .field _ _ t => some t
    | _ => none

/-- A record whose first fields have the given values and whose other fields have the default of
their type. -/
def fresh (steps : List FieldDeclaration) (values : List Value) : Record :=
  values.take (fieldTypes steps).length ++ ((fieldTypes steps).drop values.length).map FieldType.default

/-- The value of the field at a place. -/
def field (i : Nat) (r : Record) : Value := r[i]?.getD .null

/-- The record with the value converted into the field at a place. -/
def setField (i : Nat) (t : FieldType) (r : Record) (v : Value) : Except Error Record := do
  let w ← v.read t
  return r.set i w

/-- The steps of the class map, for fields from place `i` on. -/
def declarationsFrom : Nat → List FieldDeclaration → List (Declaration Record)
  | _, [] => []
  | i, .field name kind t :: rest =>
    .property name kind (field i) (setField i t) :: declarationsFrom (i + 1) rest
  | i, .table name :: rest => .table name :: declarationsFrom i rest
  | i, .schema name :: rest => .schema name :: declarationsFrom i rest
  | i, .columnName name :: rest => .columnName name :: declarationsFrom i rest
  | i, .readOnly :: rest => .readOnly :: declarationsFrom i rest
  | i, .ignored :: rest => .ignored :: declarationsFrom i rest

/-- The steps of the class map. -/
def declarations (steps : List FieldDeclaration) : List (Declaration Record) :=
  declarationsFrom 0 steps

end Record

end SqlRecords
