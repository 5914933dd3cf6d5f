import SqlRecords.Proofs.Database.FieldUpdates
import SqlRecords.Proofs.Database.SingleCommands

/-!
# Columns of an update of chosen fields

An update should write no column that the database owns, and none that it matches.  The update of a
record sees to the first by the flags of the columns.  The update of chosen fields takes names from
the caller, drops those that are matched as well, and puts the column of each remaining name into
the text.  It never asks for the flags, and it compares names where the text has columns.

A name stands for a column in two ways: it is the name of a property that is mapped to the column,
or it is the name of the column and of no property.  So two different names may stand for one
column.

* `Table.columnName`, `Table.Means` — the column that a name stands for.
* `Table.Keeps` — what an update should leave alone.
* **`Database.updateFields_columns`** — for which names an update of chosen fields leaves it alone.
* **`Database.updateFields_overwrites`** — an update that does not.
-/

namespace SqlRecords

/-! ## Names of the caller -/

namespace Table

variable {t : Table} {name name' : String} {c : Column}

/-- The column that a name of the caller stands for in the text of a statement. -/
def columnName (t : Table) (name : String) : String :=
  ((t.column? name).map (·.name)).getD name

theorem columnName_of_column? (h : t.column? name = some c) : t.columnName name = c.name := by
  rw [columnName, h]
  rfl

/-- A name that is not found is written as it is. -/
theorem columnName_of_none (h : t.column? name = none) : t.columnName name = name := by
  rw [columnName, h]
  rfl

/-- The ways in which a name stands for the column of a property. -/
inductive Means (t : Table) (name : String) (c : Column) : Prop
  /-- As a property that is mapped to the column. -/
  | property {c' : Column} (h : t.column? name = some c') (hc : Text.sameName c.name c'.name)
  /-- As the name of the column, if no property has this name. -/
  | column (h : t.column? name = none) (hc : Text.sameName c.name name)

/-- A name means the columns that are called what is written for it. -/
theorem means_iff : t.Means name c ↔ Text.sameName c.name (t.columnName name) := by
  constructor
  · rintro (⟨h, hc⟩ | ⟨h, hc⟩)
    · rwa [columnName_of_column? h]
    · rwa [columnName_of_none h]
  · intro hc
    cases h : t.column? name with
    | some c' => exact .property h (by rwa [columnName_of_column? h] at hc)
    | none => exact .column h (by rwa [columnName_of_none h] at hc)

theorem mem_of_column? (h : t.column? name = some c) : c ∈ t.columns :=
  List.mem_of_find?_eq_some h

/-- Two names that stand for one column are the same name, or stand for the column of a property. -/
theorem exists_means (h : Text.sameName (t.columnName name) (t.columnName name'))
    (hne : ¬ Text.sameName name name') : ∃ c ∈ t.columns, t.Means name c ∧ t.Means name' c := by
  cases hname : t.column? name with
  | some c =>
      refine ⟨c, mem_of_column? hname, .property hname (Text.sameName_refl _), means_iff.mpr ?_⟩
      rwa [columnName_of_column? hname] at h
  | none =>
      rw [columnName_of_none hname] at h
      cases hname' : t.column? name' with
      | some c =>
          rw [columnName_of_column? hname', Text.sameName_comm] at h
          exact ⟨c, mem_of_column? hname', .column hname h, .property hname' (Text.sameName_refl _)⟩
      | none =>
          rw [columnName_of_none hname'] at h
          exact absurd h hne

theorem sameName_of_means (h : t.Means name c) (h' : t.Means name' c) :
    Text.sameName (t.columnName name) (t.columnName name') := by
  rw [means_iff, Text.sameName_comm] at h
  exact Text.sameName_trans h (means_iff.mp h')

/-! ## What an update should leave alone -/

/-- No two columns of the table have the same name. -/
def ColumnsDistinct (t : Table) : Prop :=
  t.columns.Pairwise fun c c' => ¬ Text.sameName c.name c'.name

/-- Among distinct columns, a property stands for its own column only. -/
theorem ColumnsDistinct.eq_of_means (h : t.ColumnsDistinct) {c' : Column}
    (hname : t.column? name = some c) (hc' : c' ∈ t.columns) (hmeans : t.Means name c') : c' = c := by
  rw [means_iff, columnName_of_column? hname] at hmeans
  exact Text.eq_of_sameName h hc' (mem_of_column? hname) hmeans

/-- An update writes columns that it may write only, and none that it matches. -/
structure Keeps (t : Table) (written matched : List String) : Prop where
  updatable : ∀ column ∈ written, ∀ c ∈ t.columns, Text.sameName c.name column →
    c.isUpdatable = true
  apart : ∀ column ∈ written, ∀ column' ∈ matched, ¬ Text.sameName column column'

/-- What is known of the columns of an update, by the names that the caller assigns and matches. -/
structure ColumnsOf (t : Table) (assigned matching written matched : List String) : Prop where
  /-- It leaves alone what it should exactly if no name that is assigned stands for the column of a
  property that no update may write, or for a column that a matching name stands for as well. -/
  keeps_iff : t.Keeps written matched ↔ ∀ name ∈ assigned, ∀ c ∈ t.columns, t.Means name c →
    c.isUpdatable = true ∧ ∀ name' ∈ matching, ¬ t.Means name' c
  /-- A column of the table that stands on both sides was called by its property on one of them, and
  by its own name on the other. -/
  called_twice : t.ColumnsDistinct → ∀ name ∈ assigned, ∀ name' ∈ matching, ∀ c ∈ t.columns,
    t.Means name c → t.Means name' c → t.column? name = some c ∧ t.column? name' = none
      ∨ t.column? name = none ∧ t.column? name' = some c
  /-- With the names of properties, it is up to the flags of what is assigned. -/
  properties : t.ColumnsDistinct → (∀ name ∈ assigned ++ matching, t.column? name ≠ none) →
    (t.Keeps written matched ↔ ∀ name ∈ assigned, ∀ c, t.column? name = some c →
      c.isUpdatable = true)

/-- Which columns are written is up to what the names of the caller stand for. -/
theorem keeps_map_iff {assigned matching : List String}
    (hother : ∀ name ∈ assigned, ∀ name' ∈ matching, ¬ Text.sameName name name') :
    t.Keeps (assigned.map t.columnName) (matching.map t.columnName)
      ↔ ∀ name ∈ assigned, ∀ c ∈ t.columns, t.Means name c →
        c.isUpdatable = true ∧ ∀ name' ∈ matching, ¬ t.Means name' c := by
  constructor
  · intro h name hname c hc hmeans
    have hwritten : t.columnName name ∈ assigned.map t.columnName := List.mem_map_of_mem hname
    refine ⟨h.updatable _ hwritten c hc (means_iff.mp hmeans), fun name' hname' hmeans' => ?_⟩
    exact h.apart _ hwritten _ (List.mem_map_of_mem hname') (sameName_of_means hmeans hmeans')
  · intro h
    constructor
    case updatable =>
      intro column hcolumn c hc hsame
      obtain ⟨name, hname, rfl⟩ := List.mem_map.mp hcolumn
      exact (h name hname c hc (means_iff.mpr hsame)).1
    case apart =>
      intro column hcolumn column' hcolumn' hsame
      obtain ⟨name, hname, rfl⟩ := List.mem_map.mp hcolumn
      obtain ⟨name', hname', rfl⟩ := List.mem_map.mp hcolumn'
      obtain ⟨c, hc, hmeans, hmeans'⟩ := exists_means hsame (hother name hname name' hname')
      exact (h name hname c hc hmeans).2 name' hname' hmeans'

/-- Of two names for one column, one is its property and the other its own name: two names of one
property would be the same, and so would two names of one column. -/
theorem means_twice (hdistinct : t.ColumnsDistinct) (hother : ¬ Text.sameName name name')
    (hc : c ∈ t.columns) (hmeans : t.Means name c) (hmeans' : t.Means name' c) :
    t.column? name = some c ∧ t.column? name' = none
      ∨ t.column? name = none ∧ t.column? name' = some c := by
  have hproperty : ∀ {name : String}, t.column? name = some c → Text.sameName c.property name := by
    intro name hname
    simpa [Column.isFor] using List.find?_some hname
  cases hname : t.column? name with
  | some c₁ =>
      obtain rfl := hdistinct.eq_of_means hname hc hmeans
      cases hname' : t.column? name' with
      | some c₂ =>
          obtain rfl := hdistinct.eq_of_means hname' hc hmeans'
          have hsame := hproperty hname
          rw [Text.sameName_comm] at hsame
          exact absurd (Text.sameName_trans hsame (hproperty hname')) hother
      | none => exact .inl ⟨rfl, rfl⟩
  | none =>
      rw [means_iff, columnName_of_none hname, Text.sameName_comm] at hmeans
      cases hname' : t.column? name' with
      | some c₂ =>
          obtain rfl := hdistinct.eq_of_means hname' hc hmeans'
          exact .inr ⟨rfl, rfl⟩
      | none =>
          rw [means_iff, columnName_of_none hname'] at hmeans'
          exact absurd (Text.sameName_trans hmeans hmeans') hother

theorem columnsOf_map {assigned matching : List String}
    (hother : ∀ name ∈ assigned, ∀ name' ∈ matching, ¬ Text.sameName name name') :
    t.ColumnsOf assigned matching (assigned.map t.columnName) (matching.map t.columnName) where
  keeps_iff := keeps_map_iff hother
  called_twice hdistinct name hname name' hname' _ hc :=
    means_twice hdistinct (hother name hname name' hname') hc
  properties := by
    intro hdistinct hnames
    obtain ⟨hassigned, hmatching⟩ := List.forall_mem_append.mp hnames
    rw [keeps_map_iff hother]
    constructor
    · intro h name hname c hc
      exact (h name hname c (mem_of_column? hc) (.property hc (Text.sameName_refl _))).1
    · intro h name hname c hc hmeans
      obtain ⟨c', hc'⟩ := Option.ne_none_iff_exists'.mp (hassigned name hname)
      obtain rfl := hdistinct.eq_of_means hc' hc hmeans
      refine ⟨h name hname c hc', fun name' hname' hmeans' => ?_⟩
      rcases means_twice hdistinct (hother name hname name' hname') hc hmeans hmeans' with
        ⟨-, hnone⟩ | ⟨hnone, -⟩
      · exact hmatching name' hname' hnone
      · exact hassigned name hname hnone

end Table

/-! ## The statement -/

namespace Database

variable {σ ι : Type} {E : ι → Type} (db : Database σ ι E)

/-- The pairs that an update assigns: those with a name that it does not match. -/
def assignedPairs (assigned matching : FieldSet) : List (String × Value) :=
  assigned.fields.filter fun pair => !matching.contains pair.1

/-- Columns and literals, with an equals sign between each two. -/
def equations (pairs : List (String × String)) : List String :=
  pairs.map fun pair => pair.1 ++ "=" ++ pair.2

/-- The text of an update that sets columns to literals in the rows where columns have literals. -/
def setSql (table : String) (written matched : List (String × String)) : String :=
  "update " ++ table ++ " set " ++ ",".intercalate (equations written)
    ++ " where " ++ " and ".intercalate (equations matched)

/-- The columns that names of the caller stand for, with the literals for them. -/
def columnLiterals (t : Table) (pairs : List (String × Value)) : List (String × String) :=
  pairs.map fun pair => (t.columnName pair.1, pair.2.literal)

/-- Columns with literals are written pair by pair. -/
theorem equations_columnLiterals (t : Table) (pairs : List (String × Value)) :
    equations (columnLiterals t pairs) = pairs.map (literalPair t) := by
  rw [equations, columnLiterals, List.map_map]
  rfl

theorem columnLiterals_map_fst (t : Table) (pairs : List (String × Value)) :
    (columnLiterals t pairs).map Prod.fst = (pairs.map Prod.fst).map t.columnName := by
  rw [columnLiterals, List.map_map, List.map_map]
  rfl

variable {db}

/-- What is matched is not assigned under the same name. -/
theorem not_sameName_of_assigned {assigned matching : FieldSet} :
    ∀ name ∈ (assignedPairs assigned matching).map Prod.fst,
      ∀ name' ∈ matching.fields.map Prod.fst, ¬ Text.sameName name name' := by
  intro name hname name' hname' hsame
  obtain ⟨pair, hpair, rfl⟩ := List.mem_map.mp hname
  obtain ⟨pair', hpair', rfl⟩ := List.mem_map.mp hname'
  have hother := (List.mem_filter.mp hpair).2
  rw [Bool.not_eq_true', FieldSet.contains, List.any_eq_false] at hother
  rw [Text.sameName_comm] at hsame
  exact hother pair' hpair' hsame

theorem command_of_plan_updateFields [DecidableEq ι] {maps : ClassMaps ι E} {i : ι}
    {assigned matching : FieldSet} {p : Plan true Nat}
    (h : (Operation.updateFields i assigned matching).plan db maps = .ok p) :
    ∃ m, maps i = .ok m ∧ p.command = db.plain (setSql (db.generator.tableName m.table)
      (columnLiterals m.table (assignedPairs assigned matching))
      (columnLiterals m.table matching.fields)) := by
  obtain ⟨m, hm, hplan⟩ := Error.bind_eq_ok h
  refine ⟨m, hm, ?_⟩
  dsimp only at hplan
  split at hplan
  · cases hplan
  · split at hplan
    · cases hplan
    · obtain rfl := Except.ok.inj hplan
      rw [setSql, equations_columnLiterals, equations_columnLiterals]
      rfl

/-- **What an update of chosen fields leaves alone**, whatever the caller calls the columns. -/
theorem updateFields_columns [DecidableEq ι] (s : Session σ ι E) (i : ι)
    (assigned matching : FieldSet) :
    ∃ sent, ((db.updateFields i assigned matching).run s).2.calls = s.calls ++ sent
      ∧ ∀ call ∈ sent, ∃ m, db.mapOf s.cache i = .ok m ∧
        let written := columnLiterals m.table (assignedPairs assigned matching)
        let matched := columnLiterals m.table matching.fields
        call = .execute (db.plain (setSql (db.generator.tableName m.table) written matched))
        ∧ m.table.ColumnsOf ((assignedPairs assigned matching).map Prod.fst)
          (matching.fields.map Prod.fst) (written.map Prod.fst) (matched.map Prod.fst) := by
  have hcarries := db.carries_action (.updateFields i assigned matching) s
  beta_reduce at hcarries
  cases hplan : (Operation.updateFields i assigned matching).plan db (db.mapOf s.cache) with
  | error e =>
      rw [hplan] at hcarries
      obtain ⟨s', hrun, hcalls, -⟩ := hcarries
      have hlog : ((db.updateFields i assigned matching).run s).2.calls = s'.calls :=
        congrArg (fun r => r.2.calls) hrun
      exact ⟨[], by rw [hlog, hcalls, List.append_nil], by simp⟩
  | ok p =>
      rw [hplan] at hcarries
      obtain ⟨s', hrun, hcalls, -⟩ := hcarries
      obtain ⟨m, hm, hcommand⟩ := command_of_plan_updateFields hplan
      have hlog : ((db.updateFields i assigned matching).run s).2.calls = s'.calls :=
        congrArg (fun r => r.2.calls) hrun
      refine ⟨[p.command.call true], hlog.trans hcalls,
        List.forall_mem_singleton.mpr ⟨m, hm, ?_, ?_⟩⟩
      · rw [hcommand]
        rfl
      · rw [columnLiterals_map_fst, columnLiterals_map_fst]
        exact Table.columnsOf_map not_sameName_of_assigned

/-- **Columns that should be left alone are overwritten**: the identity of a member, and a name that
is matched under another name. -/
theorem updateFields_overwrites :
    updateCalls ⟨[("Id", .integer 7), ("Name", .text "Bob")]⟩ ⟨[("full_name", .text "Ann")]⟩
        = [.execute ⟨"update \"Member\" set Id=7,full_name='Bob' where full_name='Ann'",
            ⟨.atSign, []⟩, none⟩]
      ∧ (∃ c ∈ memberTable.columns, c.name = "Id" ∧ c.isUpdatable = false)
      ∧ ¬ memberTable.Keeps ["Id"] ["full_name"] ∧ ¬ memberTable.Keeps ["full_name"] ["full_name"] := by
  have hid : (⟨"Id", "Id", .identity, false, false⟩ : Column) ∈ memberTable.columns :=
    List.mem_cons_self
  refine ⟨by decide +kernel, ⟨_, hid, rfl, by decide⟩, fun h => ?_, fun h => ?_⟩
  · exact absurd (h.updatable "Id" List.mem_cons_self _ hid (Text.sameName_refl _)) (by decide)
  · exact h.apart _ List.mem_cons_self _ List.mem_cons_self (Text.sameName_refl _)

end Database

end SqlRecords
