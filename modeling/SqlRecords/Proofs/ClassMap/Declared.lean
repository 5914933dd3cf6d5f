import SqlRecords.Proofs.ClassMap.Accepted

/-!
# What a declaration declares

A class map is declared in steps, and the steps about a column mean the property declared last.
Read from the front, every property has the changes of the steps behind it, up to the next property
(`Declaration.properties`).  The map is built the other way round, by changes at the end of a list
that grows.  Both are the same, since what is changed later is changed on top of what was changed
before (`ClassMap.columns_foldl`).

The columns and the accessors are two lists, and a name leads to an accessor by the place of its
column.  A step adds to both or to none, so the accessor at the place of a column is the one that was
declared with it.  In a map that is accepted the names are distinct, and so a name in any case of its
letters is found at one place only.

* `Declaration.Acceptable` — what is asked of a declaration.
* `Declaration.properties` — what it declares.
* `ClassMap.Finds` — what a name leads to.
* **`ClassMap.declare_outcome`** — which declarations are accepted, and what the maps are then.
-/

namespace SqlRecords

/-- Where no two names are the same, a thing is found under every spelling of its name. -/
theorem Text.find?_spelling {α : Type} {name : α → String} {xs : List α}
    (h : xs.Pairwise fun x y => ¬ sameName (name x) (name y)) {x : α} (hx : x ∈ xs)
    {spelling : String} (hspelling : sameName (name x) spelling) :
    xs.find? (fun y => sameName (name y) spelling) = some x := by
  have hsame : (fun y => sameName (name y) spelling) = fun y => sameName (name y) (name x) := by
    funext y
    rw [sameName, sameName, sameName_iff.mp hspelling]
  rw [hsame, find?_sameName h hx]

/-! ## Steps -/

namespace Declaration

variable {α : Type}

/-- The name that the step gives the table. -/
def tableName? : Declaration α → Option String
  | table name => some name
  | _ => none

/-- The name of the property that the step adds. -/
def propertyName? : Declaration α → Option String
  | property name .. => some name
  | _ => none

/-- Whether the step adds an identity. -/
def isIdentity : Declaration α → Bool
  | property _ kind .. => kind = .identity
  | _ => false

/-- What the step changes of the column of the property declared last. -/
def change? : Declaration α → Option (Column → Column)
  | columnName name => some fun c => { c with name := name }
  | readOnly => some fun c => { c with readOnly := true }
  | ignored => some fun c => { c with ignored := true }
  | table _ | schema _ | property .. => none

/-- The name of the table: the one given last, or else that of the entity. -/
def tableName (entity : String) (steps : List (Declaration α)) : String :=
  (steps.filterMap tableName?).getLast?.getD entity

/-- A column with the changes of some steps, as far as they come before the next property. -/
def changed : List (Declaration α) → Column → Column
  | [], c => c
  | property .. :: _, c => c
  | columnName name :: steps, c => changed steps { c with name := name }
  | readOnly :: steps, c => changed steps { c with readOnly := true }
  | ignored :: steps, c => changed steps { c with ignored := true }
  | table _ :: steps, c => changed steps c
  | schema _ :: steps, c => changed steps c

/-- The properties that some steps declare, each with the changes of the steps behind it. -/
def properties : List (Declaration α) → List (Property α)
  | [] => []
  | property name kind get set :: steps =>
    ⟨⟨get, set⟩, changed steps (.ofProperty name kind)⟩ :: properties steps
  | _ :: steps => properties steps

/-- The declaration gives the table a name, no two properties the same name, and the database at
most one key to assign. -/
structure Acceptable (entity : String) (steps : List (Declaration α)) : Prop where
  named : Text.trim (tableName entity steps).toList ≠ []
  distinct : (steps.filterMap propertyName?).Pairwise fun a b => ¬ Text.sameName a b
  identities : steps.countP isIdentity ≤ 1

/-- No change is made to the name or the kind of a property. -/
theorem changed_keeps (steps : List (Declaration α)) (c : Column) :
    (changed steps c).property = c.property ∧ (changed steps c).kind = c.kind := by
  induction steps generalizing c with
  | nil => exact ⟨rfl, rfl⟩
  | cons step steps ih =>
      cases step with
      | property => exact ⟨rfl, rfl⟩
      | table | schema | columnName | readOnly | ignored => exact ih _

theorem properties_map_name (steps : List (Declaration α)) :
    (properties steps).map (fun p => p.column.property) = steps.filterMap propertyName? := by
  induction steps with
  | nil => rfl
  | cons step steps ih =>
      cases step with
      | property name kind get set =>
          rw [properties, List.map_cons, ih, (changed_keeps steps _).1]
          rfl
      | table | schema | columnName | readOnly | ignored => exact ih

theorem countP_properties (steps : List (Declaration α)) :
    (properties steps).countP (fun p => p.column.kind = .identity) = steps.countP isIdentity := by
  induction steps with
  | nil => rfl
  | cons step steps ih =>
      cases step with
      | property name kind get set =>
          rw [properties, List.countP_cons, List.countP_cons, ih, (changed_keeps steps _).2]
          rfl
      | table | schema | columnName | readOnly | ignored =>
          rw [List.countP_cons_of_neg (by simp [isIdentity])]
          exact ih

end Declaration

namespace ClassMap

variable {α : Type}

/-! ## Runs of steps -/

theorem changeLast_concat (f : Column → Column) (columns : List Column) (c : Column) :
    changeLast f (columns ++ [c]) = columns ++ [f c] := by
  induction columns with
  | nil => rfl
  | cons d columns ih =>
      cases columns with
      | nil => rfl
      | cons d' columns => exact congrArg (d :: ·) ih

/-- What is changed later is changed on top. -/
theorem changeLast_changeLast (f g : Column → Column) (columns : List Column) :
    changeLast g (changeLast f columns) = changeLast (fun c => g (f c)) columns := by
  rcases List.eq_nil_or_concat columns with rfl | ⟨columns, c, rfl⟩
  · rfl
  · simp only [List.concat_eq_append, changeLast_concat]

theorem changeLast_unchanged (columns : List Column) : changeLast (fun c => c) columns = columns := by
  rcases List.eq_nil_or_concat columns with rfl | ⟨columns, c, rfl⟩
  · rfl
  · rw [List.concat_eq_append, changeLast_concat]

/-- **What a run of steps makes of the columns**: the last one is changed, as far as the steps come
before the next property, and behind it come the new ones. -/
theorem columns_foldl (steps : List (Declaration α)) (b : Builder α) :
    (steps.foldl Builder.step b).columns = changeLast (Declaration.changed steps) b.columns
      ++ (Declaration.properties steps).map fun p => p.column := by
  induction steps generalizing b with
  | nil =>
      have hnone : Declaration.changed ([] : List (Declaration α)) = fun c => c := rfl
      rw [hnone, changeLast_unchanged]
      exact (List.append_nil _).symm
  | cons step steps ih =>
      rw [List.foldl_cons, ih]
      cases step with
      | table name | schema name => rfl
      | property name kind get set =>
          have hnone : Declaration.changed (.property name kind get set :: steps)
              = fun c => c := rfl
          rw [hnone, changeLast_unchanged, Builder.step, changeLast_concat, List.append_assoc]
          rfl
      | columnName name | readOnly | ignored =>
          rw [Builder.step, Builder.change, changeLast_changeLast]
          rfl

/-- The accessors are added one by one, and none is changed. -/
theorem accessors_foldl (steps : List (Declaration α)) (b : Builder α) :
    (steps.foldl Builder.step b).accessors
      = b.accessors ++ (Declaration.properties steps).map Property.toAccessor := by
  induction steps generalizing b with
  | nil => exact (List.append_nil _).symm
  | cons step steps ih =>
      rw [List.foldl_cons, ih]
      cases step with
      | property name kind get set =>
          rw [Builder.step, List.append_assoc]
          rfl
      | table | schema | columnName | readOnly | ignored => rfl

theorem columns_declared (entity : String) (steps : List (Declaration α)) :
    (declared entity steps).columns = (Declaration.properties steps).map fun p => p.column :=
  columns_foldl steps (.blank entity)

theorem accessors_declared (entity : String) (steps : List (Declaration α)) :
    (declared entity steps).accessors = (Declaration.properties steps).map Property.toAccessor :=
  accessors_foldl steps (.blank entity)

theorem tableName_foldl (steps : List (Declaration α)) (b : Builder α) :
    (steps.foldl Builder.step b).tableName = Declaration.tableName b.tableName steps := by
  induction steps generalizing b with
  | nil => rfl
  | cons step steps ih =>
      rw [List.foldl_cons, ih]
      cases step with
      | table name =>
          rw [Declaration.tableName, Declaration.tableName, List.filterMap_cons,
            Declaration.tableName?, List.getLast?_cons]
          rfl
      | schema | property | columnName | readOnly | ignored => rfl

theorem tableName_declared (entity : String) (steps : List (Declaration α)) :
    (declared entity steps).tableName = Declaration.tableName entity steps :=
  tableName_foldl steps (.blank entity)

/-- A step about a column means the property declared last. -/
theorem declared_change {step : Declaration α} {change : Column → Column}
    (h : step.change? = some change) (entity : String) (steps : List (Declaration α)) :
    declared entity (steps ++ [step]) = (declared entity steps).change change := by
  rw [declared, declared, List.foldl_append]
  cases step with
  | table | schema | property => exact absurd h nofun
  | columnName | readOnly | ignored =>
      obtain rfl := Option.some.inj h
      rfl

/-! ## The check -/

theorem repeated?_eq_none_iff {seen : List String} {columns : List Column} :
    repeated? seen columns = none
      ↔ (∀ c ∈ columns, ∀ name ∈ seen, ¬ Text.sameName name c.property)
        ∧ Column.Distinct columns := by
  refine ⟨distinct_of_repeated?, ?_⟩
  rintro ⟨hseen, hdistinct⟩
  induction columns generalizing seen with
  | nil => rfl
  | cons c columns ih =>
      obtain ⟨hfirst, hseen⟩ := List.forall_mem_cons.mp hseen
      obtain ⟨hnew, hdistinct⟩ := List.pairwise_cons.mp hdistinct
      have hseen' : ∀ c' ∈ columns, ∀ name ∈ c.property :: seen,
          ¬ Text.sameName name c'.property :=
        fun c' hc' => List.forall_mem_cons.mpr ⟨hnew c' hc', hseen c' hc'⟩
      rw [repeated?, if_neg (by simpa using hfirst)]
      exact ih hseen' hdistinct

/-- A map is accepted as it was declared, if it passes. -/
theorem Builder.build_eq_ok_iff {b : Builder α} {haligned : b.Aligned} {m : ClassMap α} :
    b.build haligned = .ok m ↔ m = ⟨b.table, b.accessors, haligned⟩
      ∧ Text.trim b.tableName.toList ≠ [] ∧ Column.Distinct b.columns ∧ b.identityCount ≤ 1 := by
  have hblank : Text.isBlankText b.tableName = true ↔ Text.trim b.tableName.toList = [] := by
    rw [Text.isBlankText, Text.trim_eq_nil_iff, List.all_eq_true]
  have hrepeated : repeated? [] b.columns = none ↔ Column.Distinct b.columns := by
    rw [repeated?_eq_none_iff]
    exact and_iff_right fun _ _ _ => nofun
  rw [build, ← Nat.not_lt, ← hrepeated, ne_eq, ← hblank]
  split
  · rename_i hname
    simp [hname]
  · rename_i hname
    split
    · rename_i hfound
      simp [hfound]
    · rename_i hfound
      split
      · rename_i hcount
        simp [hcount]
      · rename_i hcount
        simp [hname, hfound, hcount, eq_comm]

theorem Builder.kind_of_build {b : Builder α} {haligned : b.Aligned} {e : Error}
    (h : b.build haligned = .error e) : e.kind = .configuration := by
  rw [build] at h
  split at h
  · exact Except.error.inj h ▸ rfl
  · split at h
    · exact Except.error.inj h ▸ rfl
    · split at h
      · exact Except.error.inj h ▸ rfl
      · cases h

theorem distinct_declared_iff (entity : String) (steps : List (Declaration α)) :
    Column.Distinct (declared entity steps).columns
      ↔ (steps.filterMap Declaration.propertyName?).Pairwise fun a b => ¬ Text.sameName a b := by
  rw [columns_declared, ← Declaration.properties_map_name, Column.Distinct, List.pairwise_map,
    List.pairwise_map]

theorem identityCount_declared (entity : String) (steps : List (Declaration α)) :
    (declared entity steps).identityCount = steps.countP Declaration.isIdentity := by
  rw [← Declaration.countP_properties, Builder.identityCount, columns_declared, List.countP_map]
  rfl

/-- A declaration is accepted as it stands, if it is acceptable. -/
theorem declare_eq_ok_iff {entity : String} {steps : List (Declaration α)} {m : ClassMap α} :
    declare entity steps = .ok m
      ↔ m = ⟨(declared entity steps).table, (declared entity steps).accessors,
          aligned_declared entity steps⟩
        ∧ Declaration.Acceptable entity steps := by
  rw [declare, Builder.build_eq_ok_iff, tableName_declared, distinct_declared_iff,
    identityCount_declared]
  refine and_congr_right fun _ => ⟨?_, fun h => ⟨h.named, h.distinct, h.identities⟩⟩
  rintro ⟨hnamed, hdistinct, hcount⟩
  exact ⟨hnamed, hdistinct, hcount⟩

/-! ## Names -/

/-- Every spelling of the name of a property leads to its column, and to the getter and the setter at
the same place.  Any other name leads nowhere: already the search for the place fails, whatever the
record and the value are. -/
structure Finds (m : ClassMap α) : Prop where
  own : ∀ (i : Nat) c x, m.table.columns[i]? = some c → m.accessors[i]? = some x →
    ∀ name, Text.sameName c.property name → m.table.column? name = some c
      ∧ (∀ a, m.value a name = .ok (x.get a)) ∧ ∀ a v, m.setValue a name v = x.set a v
  other : ∀ name, (∀ c ∈ m.table.columns, ¬ Text.sameName c.property name) →
    m.table.column? name = none ∧ ∃ e, e.kind = .configuration ∧ m.position name = .error e
      ∧ (∀ a, m.value a name = .error e) ∧ ∀ a v, m.setValue a name v = .error e

theorem finds (m : ClassMap α)
    (h : m.properties.Pairwise fun p q => ¬ Text.sameName p.column.property q.column.property) :
    m.Finds where
  own i c x hc hx name hname := by
    have hmem := List.mem_of_getElem? (m.properties_getElem? hc hx)
    have hfound : m.property? name = some { x with column := c } :=
      Text.find?_spelling h hmem hname
    have hproperty : m.property name = .ok { x with column := c } := by rw [property, hfound]
    refine ⟨by rw [column?_eq, hfound]; rfl, fun a => ?_, fun a v => ?_⟩
    · rw [value_eq, hproperty]
      rfl
    · rw [setValue_eq, hproperty]
      rfl
  other name hname := by
    have hnone : m.table.columns.findFinIdx? (Column.isFor name) = none :=
      List.findFinIdx?_eq_none_iff.mpr hname
    have hposition : m.position name = .error (.unknownProperty m.table.entity name) := by
      rw [position, hnone]
    refine ⟨List.find?_eq_none.mpr hname, _, rfl, hposition, fun a => ?_, fun a v => ?_⟩
    · rw [value, hposition]
      rfl
    · rw [setValue, hposition]
      rfl

/-! ## Declarations -/

/-- **Which declarations are accepted, and what the maps are.**  A declaration is accepted exactly
if the name of the table is not blank, no two properties have the same name, and at most one is an
identity; otherwise the error is one of configuration.  After any steps there are as many accessors as
columns, and a step about a column changes the column declared last and nothing else, and says nothing
if there is none.  An accepted map has the columns that were declared, and at the same places the
getters and setters that were declared with them; they are found under their names and no others. -/
theorem declare_outcome (entity : String) (steps : List (Declaration α)) :
    ((∃ m, declare entity steps = .ok m) ↔ Declaration.Acceptable entity steps)
      ∧ (∀ e, declare entity steps = .error e → e.kind = .configuration)
      ∧ (declared entity steps).columns.length = (declared entity steps).accessors.length
      ∧ (∀ step change, step.change? = some change →
        (steps.filterMap Declaration.propertyName? = [] →
          declared entity (steps ++ [step]) = declared entity steps)
        ∧ ∀ front last, (declared entity steps).columns = front ++ [last] →
          declared entity (steps ++ [step])
            = { declared entity steps with columns := front ++ [change last] })
      ∧ ∀ m, declare entity steps = .ok m →
        m.table.name = Declaration.tableName entity steps
        ∧ m.table.columns.length = m.accessors.length
        ∧ (m.table.columns = (Declaration.properties steps).map fun p => p.column)
        ∧ m.accessors = (Declaration.properties steps).map Property.toAccessor ∧ m.Finds := by
  refine ⟨?_, fun e h => Builder.kind_of_build h, aligned_declared entity steps,
    fun step change hchange => ⟨fun hnone => ?_, ?_⟩, ?_⟩
  · simp only [declare_eq_ok_iff, exists_eq_left]
  · have hempty : (declared entity steps).columns = [] := by
      rw [← Declaration.properties_map_name, List.map_eq_nil_iff] at hnone
      rw [columns_declared, hnone, List.map_nil]
    rw [declared_change hchange, Builder.change, hempty, changeLast, ← hempty]
  · intro front last hlast
    rw [declared_change hchange, Builder.change, hlast, changeLast_concat]
  · intro m hdeclare
    have hfinds := m.finds (pairwise_of_declare hdeclare)
    have hlength := m.length_eq
    obtain ⟨rfl, -⟩ := declare_eq_ok_iff.mp hdeclare
    exact ⟨tableName_declared entity steps, hlength, columns_declared entity steps,
      accessors_declared entity steps, hfinds⟩

/-- A step about a column says nothing before the first property, and nothing to the properties
before the last one. -/
example (get : Unit → Value) (set : Unit → Value → Except Error Unit) :
    (declared "Note" [.ignored, .property "Id" .identity get set, .readOnly, .table "notes",
      .property "Body" .notAKey get set, .columnName "body_text"]).columns
      = [⟨"Id", "Id", .identity, false, true⟩, ⟨"Body", "body_text", .notAKey, false, false⟩] := rfl

end ClassMap

end SqlRecords
