import Mathlib.Data.List.Forall2
import SqlRecords.Database.Records
import SqlRecords.Proofs.ClassMap.Accepted
import SqlRecords.Proofs.Database.ClassMaps
import SqlRecords.Proofs.Statement.Alignment
import SqlRecords.Record
import SqlRecords.Script

/-!
# Writes by key

`Database.update`, `Database.delete` and `Database.deleteById` are about the row of one record.  A
key that is left out of the condition, or looked up as another column, would make them write into
the rows of other records.

The condition is made of property names, which are looked up again when the statement is drafted.
In an accepted class map the column of a key is found under its name (`ClassMap.column_of_declare`).

* `SearchCondition.ofKeys` — what a condition on several keys comes to.
* `Database.updateByKeys`, `Database.deleteBy` — the commands, whole.
* `Database.KeyedWrites` — what is sent, and when nothing is.
* **`Database.keyedWrites_of_declare`** — it holds of every class map that can be declared.
-/

namespace SqlRecords

/-! ## Keys of a record -/

/-- A key that is written keeps its value. -/
theorem ClassMap.cell_eq_keyValue {α : Type} {entity : String} {steps : List (Declaration α)}
    {m : ClassMap α} (h : declare entity steps = .ok m) {a : α} {writes : Column → Bool}
    {cell key : Column × Value} (hcell : cell ∈ m.table.cells writes (m.values a))
    (hkey : key ∈ m.keyValues a) (heq : cell.1 = key.1) : cell.2 = key.2 := by
  obtain ⟨p, hp, -, rfl⟩ := exists_property_of_mem_cells hcell
  obtain ⟨q, hq, -, rfl⟩ := exists_property_of_mem_keyValues hkey
  obtain rfl := property_eq_of_declare h hp hq (congrArg Column.property heq)
  rfl

/-! ## Conditions on keys -/

/-- The pair is about the column, and has the same value. -/
def Table.Names (t : Table) (pair : String × Value) (key : Column × Value) : Prop :=
  t.column pair.1 = .ok key.1 ∧ pair.2 = key.2

/-- The column holds the value; for null, it holds nothing. -/
def Column.matching (c : Column) (v : Value) : SearchCondition Value :=
  if v.isNull then .absence c.name false else .compare c.name .eq v

/-- Every one of the columns holds its value. -/
def SearchCondition.ofKeys : List (Column × Value) → SearchCondition Value
  | [key] => key.1.matching key.2
  | keys => .group (some .and) (keys.map fun key => key.1.matching key.2)

namespace Predicate

variable {t : Table}

theorem resolve_eq {name : String} {c : Column} (hc : t.column name = .ok c) (v : Value) :
    (eq name v).resolve t = .ok (c.matching v) := by
  rw [eq, leaf, resolve, Condition.resolve, Column.matching, hc]
  cases v.isNull <;> simp [bind, Except.bind, pure, Except.pure, Operator.comparison]

theorem resolveAll_eq : ∀ {pairs : List (String × Value)} {keys : List (Column × Value)},
    List.Forall₂ t.Names pairs keys →
      resolveAll t (pairs.map fun pair => eq pair.1 pair.2)
        = .ok (keys.map fun key => key.1.matching key.2)
  | _, _, .nil => rfl
  | pair :: pairs, key :: keys, .cons hkey hkeys => by
      obtain ⟨hc, hv⟩ := hkey
      rw [List.map_cons, resolveAll, resolve_eq hc pair.2, resolveAll_eq hkeys, hv]
      rfl

/-- Equations for some properties come to the condition that every column has its value. -/
theorem resolve_ofPairs {pairs : List (String × Value)} {keys : List (Column × Value)}
    (h : List.Forall₂ t.Names pairs keys) {p : Predicate}
    (hp : all? (pairs.map fun pair => eq pair.1 pair.2) = some p) :
    p.resolve t = .ok (.ofKeys keys) := by
  have hall := resolveAll_eq h
  cases h with
  | nil => exact absurd hp nofun
  | cons hkey hkeys =>
      cases hkeys with
      | nil =>
          obtain rfl := Option.some.inj hp
          rw [resolve_eq hkey.1 _, hkey.2]
          rfl
      | cons hkey' hkeys =>
          obtain rfl := Option.some.inj hp
          simp only [List.map_cons] at hall
          rw [resolve, hall]
          rfl

/-- The equations for some keys come to the condition that every key has its value. -/
theorem resolve_ofKeys {keys : List (Column × Value)}
    (hkeys : ∀ key ∈ keys, t.column key.1.property = .ok key.1) {p : Predicate}
    (hp : all? (keys.map fun key => eq key.1.property key.2) = some p) :
    p.resolve t = .ok (.ofKeys keys) := by
  have hnames : List.Forall₂ t.Names (keys.map fun key => (key.1.property, key.2)) keys := by
    rw [List.forall₂_map_left_iff, List.forall₂_same]
    exact fun key hkey => ⟨hkeys key hkey, rfl⟩
  refine resolve_ofPairs hnames ?_
  rw [List.map_map]
  exact hp

theorem run_draft_of_resolve {p : Predicate} {c : SearchCondition Value}
    (h : p.resolve t = .ok c) (d : Dialect) (ps : Parameters) :
    (p.draft t d).run ps
      = (.ok ((c.template d).fill ps.style ps.size), ps.pushAll c.operands) := by
  have hfollows := p.draft_follows t d
  rw [h] at hfollows
  rw [(p.fits h).operands_eq]
  exact hfollows.2 ps

end Predicate

namespace ClassMap

variable {α : Type} (m : ClassMap α) (a : α)

theorem keyPredicate_of_nil (h : m.table.keys = []) :
    m.keyPredicate a = .error (.noKeyColumn m.table.entity) := by
  have hnil : m.keyValues a = [] := by
    rw [← List.map_eq_nil_iff, m.keyValues_map_fst a, h]
  rw [keyPredicate, hnil]
  rfl

theorem exists_keyPredicate (h : m.table.keys ≠ []) :
    ∃ p, m.keyPredicate a = .ok p
      ∧ Predicate.all? ((m.keyValues a).map fun key => Predicate.eq key.1.property key.2)
          = some p := by
  rw [keyPredicate]
  cases hp : Predicate.all? ((m.keyValues a).map fun key => Predicate.eq key.1.property key.2) with
  | some p => exact ⟨p, rfl, rfl⟩
  | none =>
      rw [Predicate.all?, Predicate.combine?_eq_none_iff, List.map_eq_nil_iff] at hp
      rw [← m.keyValues_map_fst a, hp] at h
      exact absurd rfl h

variable {m}

/-- The columns of the keys of an accepted class map are found under their names. -/
theorem column_of_keys {entity : String} {steps : List (Declaration α)}
    (h : declare entity steps = .ok m) {keys : List (Column × Value)}
    (hkeys : keys.map Prod.fst = m.table.keys) :
    ∀ key ∈ keys, m.table.column key.1.property = .ok key.1 := by
  intro key hkey
  have hmem : key.1 ∈ m.table.keys := hkeys ▸ List.mem_map_of_mem hkey
  exact column_of_declare h (List.mem_filter.mp hmem).1

/-- The condition on a record of an accepted class map is that every key has its value. -/
theorem exists_resolved_keyPredicate {entity : String} {steps : List (Declaration α)}
    (h : declare entity steps = .ok m) (hkeys : m.table.keys ≠ []) :
    ∃ p, m.keyPredicate a = .ok p ∧ p.resolve m.table = .ok (.ofKeys (m.keyValues a)) := by
  obtain ⟨p, hpredicate, hp⟩ := m.exists_keyPredicate a hkeys
  exact ⟨p, hpredicate, Predicate.resolve_ofKeys (column_of_keys h (m.keyValues_map_fst a)) hp⟩

end ClassMap

/-- The value that an identifier gives to a key. -/
def Identifier.value? : Identifier → Column → Option Value
  | single v, _ => some v
  | composite s, key => s.get? key.property

namespace Identifier

variable {t : Table}

theorem conditions_cases (s : FieldSet) (keys : List Column) :
    (∃ key, conditions t s keys = .error (.missingKey t.entity key))
      ∨ ∃ found : List (Column × Value), found.map Prod.fst = keys
        ∧ (∀ key ∈ found, s.get? key.1.property = some key.2)
        ∧ conditions t s keys = .ok (found.map fun key => Predicate.eq key.1.property key.2) := by
  induction keys with
  | nil => exact .inr ⟨[], rfl, by simp, rfl⟩
  | cons key keys ih =>
      rw [conditions]
      cases hv : s.get? key.property with
      | none => exact .inl ⟨key.property, rfl⟩
      | some v =>
          rcases ih with ⟨missing, herror⟩ | ⟨found, hkeys, hvalues, hok⟩
          · exact .inl ⟨missing, by rw [herror]; rfl⟩
          · refine .inr ⟨(key, v) :: found, congrArg (key :: ·) hkeys, ?_, by rw [hok]; rfl⟩
            exact List.forall_mem_cons.mpr ⟨hv, hvalues⟩

/-- An identifier that is not refused gives a value to every key. -/
theorem predicate_cases (id : Identifier) :
    (∃ e, id.predicate t = .error e ∧ e.kind = .configuration)
      ∨ ∃ (keys : List (Column × Value)) (p : Predicate), keys.map Prod.fst = t.keys
        ∧ (∀ key ∈ keys, id.value? key.1 = some key.2)
        ∧ Predicate.all? (keys.map fun key => Predicate.eq key.1.property key.2) = some p
        ∧ id.predicate t = .ok p := by
  cases id with
  | single v =>
      match hkeys : t.keys with
      | [] => exact .inl ⟨.scalarId t.entity 0, by simp [predicate, hkeys], rfl⟩
      | [key] =>
          refine .inr ⟨[(key, v)], Predicate.eq key.property v, rfl, ?_, rfl, ?_⟩
          · simp [value?]
          · simp [predicate, hkeys]
      | key :: key' :: keys =>
          exact .inl ⟨.scalarId t.entity (keys.length + 2), by simp [predicate, hkeys], rfl⟩
  | composite s =>
      rw [predicate]
      rcases conditions_cases (t := t) s t.keys with ⟨key, herror⟩ | ⟨keys, hkeys, hvalues, hok⟩
      · exact .inl ⟨.missingKey t.entity key, by rw [herror]; rfl, rfl⟩
      · rw [hok]
        cases hp : Predicate.all? (keys.map fun key => Predicate.eq key.1.property key.2) with
        | none => exact .inl ⟨.noKeyColumn t.entity, by simp [bind, Except.bind, hp], rfl⟩
        | some p => exact .inr ⟨keys, p, hkeys, hvalues, hp, by simp [bind, Except.bind, hp]⟩

end Identifier

/-- Every filter but the empty example is a predicate. -/
theorem Filter.exists_predicate {f : Filter} (h : f ≠ .byExample ⟨[]⟩) :
    ∃ p, f.predicate? = some p := by
  cases f with
  | predicate p => exact ⟨p, rfl⟩
  | byExample s =>
      rw [predicate?, FieldSet.predicate?, Predicate.all?]
      refine Option.ne_none_iff_exists'.mp fun hnone => h ?_
      rw [Predicate.combine?_eq_none_iff, List.map_eq_nil_iff] at hnone
      rw [← hnone]

/-! ## Statements -/

namespace Generator

variable (g : Generator) {t : Table} (ps : Parameters)

/-- The removal of the rows that satisfy a condition. -/
def deleteSql (t : Table) (condition : String) : String :=
  "DELETE FROM " ++ g.tableName t ++ " WHERE " ++ condition

theorem run_delete_of_resolve {p : Predicate} {c : SearchCondition Value}
    (h : p.resolve t = .ok c) :
    (g.delete t (some p)).run ps
      = (.ok (g.deleteSql t ((c.template g.dialect).fill ps.style ps.size)),
          ps.pushAll c.operands) := by
  have hclause : (g.whereClause t (some p)).run ps
      = (.ok (" WHERE " ++ (c.template g.dialect).fill ps.style ps.size),
          ps.pushAll c.operands) := by
    rw [whereClause, Draft.run_bind_of_ok (Predicate.run_draft_of_resolve h g.dialect ps)]
    rfl
  rw [delete, Draft.run_bind_of_ok hclause, Draft.run_pure, deleteSql]
  simp only [String.append_assoc]

theorem run_update_of_resolve {p : Predicate} {c : SearchCondition Value}
    (h : p.resolve t = .ok c) {row : List Value} (hcells : t.cells Column.isUpdatable row ≠ []) :
    (g.update t p row).run ps
      = (.ok (g.updateSql t (t.cells Column.isUpdatable row)
            (Parameters.numbered ps.style ps.size
              ((t.cells Column.isUpdatable row).map Prod.snd))
            ((c.template g.dialect).fill ps.style
              (ps.size + (t.cells Column.isUpdatable row).length))),
          ps.pushAll ((t.cells Column.isUpdatable row).map Prod.snd ++ c.operands)) := by
  have hdraft := Predicate.run_draft_of_resolve h g.dialect
    (ps.pushAll ((t.cells Column.isUpdatable row).map Prod.snd))
  rw [Parameters.style_pushAll, Parameters.size_pushAll, List.length_map,
    ← Parameters.pushAll_append] at hdraft
  have hne : ¬ (t.cells Column.isUpdatable row).isEmpty := by
    simpa using hcells
  rw [update, ← Table.cells, Draft.run_bind_of_ok (Draft.run_placeAll _ ps), if_neg hne,
    Draft.run_bind_of_ok hdraft, Draft.run_pure, updateSql, ← Parameters.placeholders_numbered,
    List.zipWith_map_right, List.map_zip_eq_zipWith]
  rfl

/-- A condition on something that the table does not have is not drafted. -/
theorem run_delete_of_error {p : Predicate} {e : Error} (h : p.resolve t = .error e) :
    ((g.delete t (some p)).run ps).1 = .error e := by
  have hfollows := p.draft_follows t g.dialect
  rw [h] at hfollows
  rw [delete, whereClause]
  exact Draft.run_bind_of_error (Draft.run_bind_of_error (hfollows ps) _) _

theorem run_delete_of_none :
    (g.delete t none).run ps = (.ok ("DELETE FROM " ++ g.tableName t), ps) := by
  have hclause : (g.whereClause t none).run ps = (.ok "", ps) := rfl
  rw [delete, Draft.run_bind_of_ok hclause, Draft.run_pure, String.append_empty]

theorem run_update_of_empty {p : Predicate} {row : List Value}
    (hcells : t.cells Column.isUpdatable row = []) :
    ((g.update t p row).run ps).1 = .error (.noUpdatableColumn t.entity) := by
  rw [update, ← Table.cells, hcells]
  rfl

end Generator

/-! ## Commands -/

namespace Database

variable {σ ι : Type} {E : ι → Type} (db : Database σ ι E)

/-- The update of the row with the given keys. -/
def updateByKeys (t : Table) (row : List Value) (keys : List (Column × Value)) : Command :=
  let g := db.generator
  let cells := t.cells Column.isUpdatable row
  let c := SearchCondition.ofKeys keys
  db.command
    (g.updateSql t cells (Parameters.numbered g.dialect.style 0 (cells.map Prod.snd))
      ((c.template g.dialect).fill g.dialect.style cells.length))
    (g.parameters.pushAll (cells.map Prod.snd ++ c.operands))

/-- The removal of the rows that satisfy a condition. -/
def deleteBy (t : Table) (c : SearchCondition Value) : Command :=
  let g := db.generator
  db.command (g.deleteSql t ((c.template g.dialect).fill g.dialect.style 0))
    (g.parameters.pushAll c.operands)

/-- The operation fails before anything is sent. -/
def Refuses {α : Type} (x : Action σ ι E α) (s : Session σ ι E) (e : Error) : Prop :=
  ∃ s', x.run s = (.error e, s') ∧ s'.calls = s.calls ∧ s'.backend = s.backend

/-- The operation sends one statement, and gives whether it changed a row. -/
def Sends (x : Action σ ι E Bool) (s : Session σ ι E) (c : Command) : Prop :=
  ∃ s', x.run s
      = ((db.connection.execute c s.backend).1.map fun changed => decide (0 < changed), s')
    ∧ s'.calls = s.calls ++ [.execute c]
    ∧ s'.backend = (db.connection.execute c s.backend).2

/-- Drafts a statement and runs it. -/
def write (d : Draft String) : Action σ ι E Bool := do
  let (sql, ps) ← db.draft d
  let changed ← db.execute sql ps
  return 0 < changed

variable {db} {s : Session σ ι E}

theorem sends_write {d : Draft String} {sql : String} {ps : Parameters}
    (h : d.run db.generator.parameters = (.ok sql, ps)) :
    db.Sends (db.write d) s (db.command sql ps) := by
  have hdraft : (db.draft d).run s = (.ok (sql, ps), s) := by
    rw [draft, h]
    rfl
  let s' : Session σ ι E := { s with
    backend := (db.connection.execute (db.command sql ps) s.backend).2
    calls := s.calls ++ [.execute (db.command sql ps)] }
  have hsend : (db.execute sql ps).run s
      = ((db.connection.execute (db.command sql ps) s.backend).1, s') := rfl
  refine ⟨s', ?_, rfl, rfl⟩
  rw [write, Action.run_bind_of_ok hdraft]
  cases hreply : (db.connection.execute (db.command sql ps) s.backend).1 with
  | error e =>
      rw [hreply] at hsend
      exact Action.run_bind_of_error hsend _
  | ok changed =>
      rw [hreply] at hsend
      exact Action.run_bind_of_ok hsend _

theorem refuses_write {d : Draft String} {e : Error}
    (h : (d.run db.generator.parameters).1 = .error e) : Refuses (db.write d) s e := by
  have hdraft : (db.draft d).run s = (.error e, s) := by
    rw [draft]
    rcases hrun : d.run db.generator.parameters with ⟨e' | sql, ps⟩ <;> rw [hrun] at h
    · obtain rfl := Except.error.inj h
      rfl
    · exact absurd h nofun
  exact ⟨s, Action.run_bind_of_error hdraft _, rfl, rfl⟩

/-! ## Writes -/

section Writes

variable [DecidableEq ι] {i : ι} {m : ClassMap (E i)}

/-- Asking for the class map is no call. -/
theorem Sends.of_classMap (hm : db.mapOf s.cache i = .ok m)
    {f : ClassMap (E i) → Action σ ι E Bool} {c : Command}
    (h : ∀ s, db.Sends (f m) s c) : db.Sends (db.classMap i >>= f) s c := by
  obtain ⟨builds, hrun⟩ := db.run_classMap i s
  rw [hm] at hrun
  rw [Sends, Action.run_bind_of_ok hrun]
  exact h _

theorem Refuses.of_classMap (hm : db.mapOf s.cache i = .ok m) {α : Type}
    {f : ClassMap (E i) → Action σ ι E α} {e : Error}
    (h : ∀ s, Refuses (f m) s e) : Refuses (db.classMap i >>= f) s e := by
  obtain ⟨builds, hrun⟩ := db.run_classMap i s
  rw [hm] at hrun
  rw [Refuses, Action.run_bind_of_ok hrun]
  exact h _

variable (db s i m)

/-- What the writes by key send to the connection. -/
structure KeyedWrites : Prop where
  /-- A record has a value for each key column and for no other. -/
  keys_eq : ∀ a, (m.keyValues a).map Prod.fst = m.table.keys
  /-- The value is the one that the getter of the column gives. -/
  key_get : ∀ a, ∀ key ∈ m.keyValues a,
    ∃ p ∈ m.properties, p.column.isKey = true ∧ key = (p.column, p.get a)
  update_sends : ∀ a, m.table.keys ≠ [] → m.table.cells Column.isUpdatable (m.values a) ≠ [] →
    db.Sends (db.update i a) s (db.updateByKeys m.table (m.values a) (m.keyValues a))
  update_refuses : ∀ a, m.table.keys = [] ∨ m.table.cells Column.isUpdatable (m.values a) = [] →
    ∃ e, e.kind = .configuration ∧ Refuses (db.update i a) s e
  /-- A key that an update writes keeps the value that it is matched with. -/
  update_keeps : ∀ a, ∀ cell ∈ m.table.cells Column.isUpdatable (m.values a),
    ∀ key ∈ m.keyValues a, cell.1 = key.1 → cell.2 = key.2
  delete_sends : ∀ a, m.table.keys ≠ [] →
    db.Sends (db.delete i a) s (db.deleteBy m.table (.ofKeys (m.keyValues a)))
  delete_refuses : ∀ a, m.table.keys = [] →
    ∃ e, e.kind = .configuration ∧ Refuses (db.delete i a) s e
  /-- An identifier is refused, or has a value for each key column. -/
  deleteById : ∀ id, (∃ e, e.kind = .configuration ∧ Refuses (db.deleteById i id) s e)
    ∨ ∃ keys : List (Column × Value), keys ≠ [] ∧ keys.map Prod.fst = m.table.keys
      ∧ (∀ key ∈ keys, id.value? key.1 = some key.2)
      ∧ db.Sends (db.deleteById i id) s (db.deleteBy m.table (.ofKeys keys))
  deleteById_refuses : ∀ id, m.table.keys = [] →
    ∃ e, e.kind = .configuration ∧ Refuses (db.deleteById i id) s e
  /-- Every filter but the empty example becomes a condition. -/
  deleteWhere : ∀ f, f ≠ .byExample ⟨[]⟩ → (∃ e, Refuses (db.deleteWhere i f) s e)
    ∨ ∃ p c, f.predicate? = some p ∧ p.resolve m.table = .ok c
      ∧ db.Sends (db.deleteWhere i f) s (db.deleteBy m.table c)
  deleteWhere_empty : db.Sends (db.deleteWhere i (.byExample ⟨[]⟩)) s
    (db.command ("DELETE FROM " ++ db.generator.tableName m.table) db.generator.parameters)

variable {db s i m}

section Declared

variable {entity : String} {steps : List (Declaration (E i))}
  (hbuild : ClassMap.declare entity steps = .ok m) (hm : db.mapOf s.cache i = .ok m)

include hm

/-- Without a key column there is no condition on a record. -/
theorem refuses_of_noKey {α : Type} {f : Predicate → ClassMap (E i) → Action σ ι E α} (a : E i)
    (hkeys : m.table.keys = []) :
    Refuses (db.classMap i >>= fun m => Action.ofExcept (m.keyPredicate a) >>= fun p => f p m) s
      (.noKeyColumn m.table.entity) := by
  refine Refuses.of_classMap hm fun s => ?_
  rw [m.keyPredicate_of_nil a hkeys]
  exact ⟨s, rfl, rfl, rfl⟩

theorem refuses_update (a : E i)
    (h : m.table.keys = [] ∨ m.table.cells Column.isUpdatable (m.values a) = []) :
    ∃ e, e.kind = .configuration ∧ Refuses (db.update i a) s e := by
  by_cases hkeys : m.table.keys = []
  · exact ⟨.noKeyColumn m.table.entity, rfl, refuses_of_noKey hm a hkeys⟩
  · obtain ⟨p, hpredicate, -⟩ := m.exists_keyPredicate a hkeys
    refine ⟨.noUpdatableColumn m.table.entity, rfl, Refuses.of_classMap hm fun s => ?_⟩
    rw [hpredicate]
    exact refuses_write (db.generator.run_update_of_empty _ (h.resolve_left hkeys))

theorem deleteWhere_cases {f : Filter} (hf : f ≠ .byExample ⟨[]⟩) :
    (∃ e, Refuses (db.deleteWhere i f) s e)
      ∨ ∃ p c, f.predicate? = some p ∧ p.resolve m.table = .ok c
        ∧ db.Sends (db.deleteWhere i f) s (db.deleteBy m.table c) := by
  obtain ⟨p, hp⟩ := Filter.exists_predicate hf
  cases hresolve : p.resolve m.table with
  | error e =>
      refine .inl ⟨e, Refuses.of_classMap hm fun s => ?_⟩
      rw [hp]
      exact refuses_write (db.generator.run_delete_of_error _ hresolve)
  | ok c =>
      refine .inr ⟨p, c, hp, hresolve, Sends.of_classMap hm fun s => ?_⟩
      rw [hp]
      exact sends_write (db.generator.run_delete_of_resolve _ hresolve)

include hbuild

theorem sends_update (a : E i) (hkeys : m.table.keys ≠ [])
    (hcells : m.table.cells Column.isUpdatable (m.values a) ≠ []) :
    db.Sends (db.update i a) s (db.updateByKeys m.table (m.values a) (m.keyValues a)) := by
  obtain ⟨p, hpredicate, hresolve⟩ := ClassMap.exists_resolved_keyPredicate a hbuild hkeys
  refine Sends.of_classMap hm fun s => ?_
  rw [hpredicate]
  have hnone : db.generator.parameters.size = 0 := rfl
  have hupdate := db.generator.run_update_of_resolve db.generator.parameters hresolve hcells
  rw [hnone, Nat.zero_add] at hupdate
  exact sends_write hupdate

theorem sends_delete (a : E i) (hkeys : m.table.keys ≠ []) :
    db.Sends (db.delete i a) s (db.deleteBy m.table (.ofKeys (m.keyValues a))) := by
  obtain ⟨p, hpredicate, hresolve⟩ := ClassMap.exists_resolved_keyPredicate a hbuild hkeys
  refine Sends.of_classMap hm fun s => ?_
  rw [hpredicate]
  exact sends_write (db.generator.run_delete_of_resolve _ hresolve)

theorem deleteById_cases (id : Identifier) :
    (∃ e, e.kind = .configuration ∧ Refuses (db.deleteById i id) s e)
      ∨ ∃ keys : List (Column × Value), keys ≠ [] ∧ keys.map Prod.fst = m.table.keys
        ∧ (∀ key ∈ keys, id.value? key.1 = some key.2)
        ∧ db.Sends (db.deleteById i id) s (db.deleteBy m.table (.ofKeys keys)) := by
  rcases id.predicate_cases (t := m.table) with
    ⟨e, herror, hkind⟩ | ⟨keys, p, hkeys, hvalues, hp, hok⟩
  · refine .inl ⟨e, hkind, Refuses.of_classMap hm fun s => ?_⟩
    rw [herror]
    exact ⟨s, rfl, rfl, rfl⟩
  · have hresolve := Predicate.resolve_ofKeys (ClassMap.column_of_keys hbuild hkeys) hp
    refine .inr ⟨keys, ?_, hkeys, hvalues, Sends.of_classMap hm fun s => ?_⟩
    · rintro rfl
      exact absurd hp nofun
    · rw [hok]
      exact sends_write (db.generator.run_delete_of_resolve _ hresolve)

end Declared

/-- **Writes by key are about the keyed row.**  Whatever the connection is, and whichever class map
was accepted: an update and a deletion of a record, and a deletion by an identifier, send one
statement whose condition names every key column once, in the order of declaration, with the value
of that key or as absent where the value is null; without a key column they send nothing.  A
statement that removes rows without a condition comes of the empty example only. -/
theorem keyedWrites_of_declare {entity : String} {steps : List (Declaration (E i))}
    (hbuild : ClassMap.declare entity steps = .ok m) (hm : db.mapOf s.cache i = .ok m) :
    db.KeyedWrites s i m := by
  constructor
  case keys_eq => exact m.keyValues_map_fst
  case key_get => exact fun a key hkey => ClassMap.exists_property_of_mem_keyValues hkey
  case update_sends => exact sends_update hbuild hm
  case update_refuses => exact refuses_update hm
  case update_keeps =>
    exact fun a cell hcell key hkey => ClassMap.cell_eq_keyValue hbuild hcell hkey
  case delete_sends => exact sends_delete hbuild hm
  case delete_refuses =>
    exact fun a hkeys => ⟨.noKeyColumn m.table.entity, rfl, refuses_of_noKey hm a hkeys⟩
  case deleteById => exact deleteById_cases hbuild hm
  case deleteById_refuses =>
    intro id hnone
    refine (deleteById_cases hbuild hm id).resolve_right ?_
    rintro ⟨keys, hne, hkeys, -⟩
    rw [hnone, List.map_eq_nil_iff] at hkeys
    exact hne hkeys
  case deleteWhere => exact fun f hf => deleteWhere_cases hm hf
  case deleteWhere_empty =>
    exact Sends.of_classMap hm fun s => sends_write (db.generator.run_delete_of_none _)

end Writes

/-! ## A key of two columns -/

/-- The fields of a line of an order.  The key is a region, which may be missing, and a number. -/
def orderLine : List FieldDeclaration :=
  [.field "Region" .assigned (.optional .text), .columnName "region",
    .field "Number" .assigned (.int .int32), .field "Amount" .notAKey (.int .int32)]

/-- The lines of orders. -/
def orderLines : Database Script Unit fun _ => Record where
  connection := Script.connection "Script"
  generator := .ofDialect .sqlite
  timeout := none
  entities _ := ⟨"OrderLine", [], ClassMap.declare "OrderLine" (Record.declarations orderLine)⟩
  surrogates _ := .null

/-- Nothing was done to the lines yet. -/
def orderSession : Session Script Unit fun _ => Record :=
  .new ⟨[], [], [], [], [], [], false⟩

/-- A line without a region is found by the absence of the region. -/
theorem keyedWrites_of_declare_orderLines :
    ∃ m, ClassMap.declare "OrderLine" (Record.declarations orderLine) = .ok m
      ∧ orderLines.mapOf orderSession.cache () = .ok m ∧ orderLines.KeyedWrites orderSession () m
      ∧ ((orderLines.update () [.null, .integer 7, .integer 40]).run orderSession).2.calls
        = [.execute
            ⟨"UPDATE \"OrderLine\" SET \"region\" = @p0, \"Number\" = @p1, \"Amount\" = @p2" ++
              " WHERE ((\"region\" IS NULL) AND (\"Number\" = @p3))",
            ⟨.atSign, [⟨"@p0", .null, none⟩, ⟨"@p1", .integer 7, none⟩, ⟨"@p2", .integer 40, none⟩,
              ⟨"@p3", .integer 7, none⟩]⟩, none⟩] := by
  obtain ⟨m, hm⟩ : ∃ m, orderLines.mapOf orderSession.cache () = .ok m := ⟨_, rfl⟩
  have hbuild : ClassMap.declare "OrderLine" (Record.declarations orderLine) = .ok m := hm
  exact ⟨m, hbuild, hm, keyedWrites_of_declare hbuild hm, by decide +kernel⟩

end Database

end SqlRecords
