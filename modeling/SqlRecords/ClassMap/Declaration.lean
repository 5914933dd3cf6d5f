import SqlRecords.ClassMap.Basic
import SqlRecords.Text.Blank

/-!
# Declarations of class maps

A class map is declared step by step. It is accepted if the table has a name, no two properties
have the same name (without regard to ASCII case), and at most one property is an identity.

* `Declaration` — the steps. The steps about one property concern the property declared last.
* `ClassMap.Builder` — what was declared so far, in two lists that every step keeps equally long
  (`ClassMap.Builder.aligned_step`).
* `ClassMap.declared` — the builder after some steps.
* `ClassMap.Builder.build` — the map, if it is accepted.
* `ClassMap.declare` — both, from the name of the entity, which is the default name of the table.
-/

namespace SqlRecords

/-- A step in the declaration of a class map for records of type `α`. -/
inductive Declaration (α : Type) where
  /-- The name of the table. -/
  | table (name : String)
  /-- The schema of the table. -/
  | schema (name : String)
  /-- A further property, with a column of the same name. -/
  | property (name : String) (kind : KeyKind) (get : α → Value) (set : α → Value → Except Error α)
  /-- The name of the column. -/
  | columnName (name : String)
  /-- The column is never written. -/
  | readOnly
  /-- The property has no column. -/
  | ignored

namespace ClassMap

variable {α : Type}

/-- A class map that is being declared. -/
structure Builder (α : Type) where
  entity : String
  tableName : String
  schema : Option String
  columns : List Column
  accessors : List (Accessor α)

/-- Changes the last column, if there is one. -/
def changeLast (f : Column → Column) : List Column → List Column
  | [] => []
  | [c] => [f c]
  | c :: d :: rest => c :: changeLast f (d :: rest)

theorem length_changeLast (f : Column → Column) :
    ∀ columns, (changeLast f columns).length = columns.length
  | [] => rfl
  | [_] => rfl
  | _ :: d :: rest => congrArg (· + 1) (length_changeLast f (d :: rest))

/-- The first name that was there before, in a list of columns that follows the names `seen`. -/
def repeated? (seen : List String) : List Column → Option String
  | [] => none
  | c :: rest =>
    if seen.any fun name => Text.sameName name c.property then some c.property
    else repeated? (c.property :: seen) rest

namespace Builder

/-- Nothing declared, for a table named like the entity. -/
def blank (entity : String) : Builder α := ⟨entity, entity, none, [], []⟩

/-- A flag or a name for the last column. -/
def change (b : Builder α) (f : Column → Column) : Builder α :=
  { b with columns := changeLast f b.columns }

/-- One more step. -/
def step (b : Builder α) : Declaration α → Builder α
  | .table name => { b with tableName := name }
  | .schema name => { b with schema := some name }
  | .property name kind get set =>
    { b with
      columns := b.columns ++ [.ofProperty name kind]
      accessors := b.accessors ++ [⟨get, set⟩] }
  | .columnName name => b.change fun c => { c with name := name }
  | .readOnly => b.change fun c => { c with readOnly := true }
  | .ignored => b.change fun c => { c with ignored := true }

/-- There is an accessor for every column. -/
def Aligned (b : Builder α) : Prop := b.columns.length = b.accessors.length

/-- A property has one of each, and no other step adds or removes any. -/
theorem aligned_step {b : Builder α} (h : b.Aligned) (d : Declaration α) : (b.step d).Aligned := by
  cases d with
  | table name => exact h
  | schema name => exact h
  | property name kind get set =>
      show (b.columns ++ [_]).length = (b.accessors ++ [_]).length
      rw [List.length_append, List.length_append, h]
      rfl
  | columnName name => exact (length_changeLast _ b.columns).trans h
  | readOnly => exact (length_changeLast _ b.columns).trans h
  | ignored => exact (length_changeLast _ b.columns).trans h

theorem aligned_foldl : ∀ (steps : List (Declaration α)) {b : Builder α}, b.Aligned →
    (steps.foldl step b).Aligned
  | [], _, h => h
  | d :: steps, _, h => aligned_foldl steps (aligned_step h d)

/-- The table as declared so far. -/
def table (b : Builder α) : Table := ⟨b.entity, b.tableName, b.schema, b.columns⟩

/-- The number of properties whose value the database assigns. -/
def identityCount (b : Builder α) : Nat := b.columns.countP fun c => c.kind = .identity

/-- The map, if it is accepted. -/
def build (b : Builder α) (h : b.Aligned) : Except Error (ClassMap α) :=
  if Text.isBlankText b.tableName then .error (.blankTableName b.entity)
  else
    match repeated? [] b.columns with
    | some name => .error (.repeatedProperty b.entity name)
    | none =>
      if 1 < b.identityCount then .error (.severalIdentities b.entity b.identityCount)
      else .ok ⟨b.table, b.accessors, h⟩

end Builder

/-- What some steps declare, before any check. -/
def declared (entity : String) (steps : List (Declaration α)) : Builder α :=
  steps.foldl Builder.step (.blank entity)

/-- Any steps leave the columns and the accessors equally long. -/
theorem aligned_declared (entity : String) (steps : List (Declaration α)) :
    (declared entity steps).Aligned :=
  Builder.aligned_foldl steps rfl

/-- The class map that the steps declare. -/
def declare (entity : String) (steps : List (Declaration α)) : Except Error (ClassMap α) :=
  (declared entity steps).build (aligned_declared entity steps)

end ClassMap

end SqlRecords
