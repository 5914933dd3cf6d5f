import Mathlib.Data.List.Basic
import SqlRecords.Proofs.Statement.Cells
import SqlRecords.Proofs.Statement.Reading

/-!
# Placeholders and parameters line up

A statement binds its parameters in the order in which its text names them.  With positional
placeholders that order is all there is: a statement in which the two differ by one place writes
values into the wrong columns.

* `Parameters.Aligned` — the parameters that a statement has added, and the placeholders that a
  scan finds in its text.
* `Generator.insertSql`, `insertRowsSql`, `updateSql` — the texts of the statements that write,
  made from the cells that they write and the parameters that they add.
* **`Generator.placeholders_aligned`** — every statement of a table is aligned, and binds the cells
  of its rows under their columns, and the values of its filter.
-/

namespace SqlRecords

/-! ## Aligned statements -/

/-- A statement with the text `sql` has added the parameters `added` to `ps`: nothing else has
changed, and the placeholders in the text are those that were added, in the same order. -/
structure Parameters.Aligned (ps ps' : Parameters) (sql : String) (added : List Param) :
    Prop where
  style_eq : ps'.style = ps.style
  items_eq : ps'.items = ps.items ++ added
  occurrences_eq : ps.style.occurrences sql.toList = added.map (·.placeholder)

theorem Parameters.aligned_pushAll {ps : Parameters} {sql : String} {vs : List Value}
    (h : ps.style.Holds sql (ps.style.series ps.size vs.length)) :
    ps.Aligned (ps.pushAll vs) sql (numbered ps.style ps.size vs) :=
  ⟨ps.style_pushAll vs, ps.items_pushAll vs, by rw [h.occurrences_eq, placeholders_numbered]⟩

/-- A draft that, where it succeeds, gives an aligned statement and adds the given values. -/
def Draft.Aligns (ps : Parameters) (d : Draft String) (vs : List Value) : Prop :=
  ∀ sql ps', d.run ps = (.ok sql, ps') →
    ∃ added, ps.Aligned ps' sql added ∧ added.map (·.value) = vs

theorem Draft.LinesUp.aligns {d : Draft String} {ps : Parameters} {vs : List Value}
    (h : d.LinesUp ps vs) : d.Aligns ps vs := by
  intro sql ps' hrun
  obtain ⟨rfl, hholds⟩ := h sql ps' hrun
  exact ⟨_, Parameters.aligned_pushAll hholds, Parameters.values_numbered ps.style ps.size vs⟩

/-! ## Writing -/

namespace Generator

open PlaceholderStyle Parameters

/-- One row: each parameter stands under the column of its cell. -/
def insertSql (g : Generator) (t : Table) (cells : List (Column × Value)) (added : List Param) :
    String :=
  if cells.isEmpty then "INSERT INTO " ++ g.tableName t ++ " DEFAULT VALUES"
  else
    "INSERT INTO " ++ g.tableName t ++ " (" ++
      commaList (cells.map fun cell => g.columnName cell.1) ++
      ") VALUES (" ++ commaList (added.map (·.placeholder)) ++ ")"

/-- The placeholders of one row. -/
def tupleSql (group : List Param) : String :=
  "(" ++ commaList (group.map (·.placeholder)) ++ ")"

/-- Several rows, each with its own parameters under the columns. -/
def insertRowsSql (g : Generator) (t : Table) (groups : List (List Param)) : String :=
  "INSERT INTO " ++ g.tableName t ++ " (" ++
    commaList ((t.columns.filter Column.isInsertable).map g.columnName) ++ ") VALUES " ++
    commaList (groups.map tupleSql)

/-- New values: each column of a cell beside its parameter. -/
def updateSql (g : Generator) (t : Table) (cells : List (Column × Value)) (written : List Param)
    (condition : String) : String :=
  "UPDATE " ++ g.tableName t ++ " SET " ++
    commaList ((cells.zip written).map fun pair =>
      g.columnName pair.1.1 ++ " = " ++ pair.2.placeholder) ++
    " WHERE " ++ condition

variable {t : Table} {ps ps' : Parameters} (g : Generator)

theorem plain_cellColumns {style : PlaceholderStyle} (h : t.PlainNames style)
    (writes : Column → Bool) (row : List Value) :
    ∀ cell ∈ t.cells writes row, style.Plain (g.columnName cell.1) := by
  intro cell hcell
  have hzip : cell ∈ t.columns.zip row := (List.mem_filter.mp hcell).1
  exact plain_quote g.dialect (h.columns cell.1 (List.of_mem_zip hzip).1)

theorem run_insert (row : List Value) :
    (g.insert t row).run ps
      = (.ok (g.insertSql t (t.cells Column.isInsertable row)
            (numbered ps.style ps.size ((t.cells Column.isInsertable row).map Prod.snd))),
          ps.pushAll ((t.cells Column.isInsertable row).map Prod.snd)) := by
  rw [insertSql, placeholders_numbered]
  show Draft.run (if (t.cells Column.isInsertable row).isEmpty then _ else _) ps = _
  split
  · rename_i hempty
    rw [List.isEmpty_iff.mp hempty]
    rfl
  · rw [Draft.run_bind_of_ok (Draft.run_placeAll _ ps)]
    rfl

theorem insert_aligned (h : t.PlainNames ps.style) {row : List Value} {sql : String}
    (hrun : (g.insert t row).run ps = (.ok sql, ps')) :
    ∃ added, ps.Aligned ps' sql added
      ∧ added.map (·.value) = (t.cells Column.isInsertable row).map Prod.snd
      ∧ sql = g.insertSql t (t.cells Column.isInsertable row) added := by
  rw [run_insert, Prod.mk.injEq] at hrun
  obtain ⟨hsql, rfl⟩ := hrun
  obtain rfl := Except.ok.inj hsql
  refine ⟨_, aligned_pushAll ?_, values_numbered _ _ _, rfl⟩
  rw [insertSql, placeholders_numbered]
  split
  · rename_i hempty
    rw [List.isEmpty_iff.mp hempty]
    refine Plain.holds ?_
    rw [plain_append, plain_append]
    exact ⟨⟨plain_of_all rfl, g.plain_tableName h⟩, plain_of_all rfl⟩
  · have hcolumns : ps.style.Plain
        (commaList ((t.cells Column.isInsertable row).map fun cell => g.columnName cell.1)) := by
      refine plain_commaList fun s hs => ?_
      obtain ⟨cell, hcell, rfl⟩ := List.mem_map.mp hs
      exact g.plain_cellColumns h _ row cell hcell
    have hend : ps.style.Plain ")" := plain_of_all rfl
    rw [String.append_assoc]
    have htuple := (holds_series ps.style ps.size
      ((t.cells Column.isInsertable row).map Prod.snd).length).append hend.holds
      (apart_of_head rfl)
    rw [List.append_nil] at htuple
    refine Plain.holds_append ?_ htuple
    rw [plain_append, plain_append, plain_append, plain_append]
    exact ⟨⟨⟨⟨plain_of_all rfl, g.plain_tableName h⟩, plain_of_all rfl⟩,
      hcolumns⟩, plain_of_all rfl⟩

/-- The values of several rows are bound row after row. -/
theorem run_placeRows {rows : List (List Value)}
    (hrows : ∀ row ∈ rows, row.length = t.columns.length) (ps : Parameters) :
    (placeRows t rows).run ps
      = (.ok ((numberedEach ps.style ps.size (t.rowCells rows)).map tupleSql),
          ps.pushAll (t.rowCells rows).flatten) := by
  induction rows generalizing ps with
  | nil => rfl
  | cons row rows ih =>
      obtain ⟨hrow, hrows⟩ := List.forall_mem_cons.mp hrows
      have hrest := ih hrows (ps.pushAll ((t.cells Column.isInsertable row).map Prod.snd))
      rw [style_pushAll, size_pushAll] at hrest
      have hcons : t.rowCells (row :: rows)
          = (t.cells Column.isInsertable row).map Prod.snd :: t.rowCells rows := rfl
      rw [placeRows, placeRow_eq_placeAll t hrow, Draft.run_bind_of_ok (Draft.run_placeAll _ ps),
        Draft.run_bind_of_ok hrest, Draft.run_pure, hcons, numberedEach, List.map_cons, tupleSql,
        placeholders_numbered, List.flatten_cons, pushAll_append]

/-- There is a statement for some rows, if a column can be written, and none otherwise. -/
theorem run_insertRows_eq {rows : List (List Value)}
    (hrows : ∀ row ∈ rows, row.length = t.columns.length) :
    (g.insertRows t rows).run ps
      = if t.columns.filter Column.isInsertable = [] ∨ rows = [] then (.ok none, ps)
        else (.ok (some (g.insertRowsSql t (numberedEach ps.style ps.size (t.rowCells rows)))),
          ps.pushAll (t.rowCells rows).flatten) := by
  have hcolumns : (insertable t).map (fun c => g.columnName c.1)
      = (t.columns.filter Column.isInsertable).map g.columnName := by
    rw [← insertable_map_fst, List.map_map]
    rfl
  have hnone : ((insertable t).isEmpty || rows.isEmpty) = true
      ↔ t.columns.filter Column.isInsertable = [] ∨ rows = [] := by
    rw [← insertable_map_fst, List.map_eq_nil_iff, Bool.or_eq_true, List.isEmpty_iff,
      List.isEmpty_iff]
  unfold insertRowsSql
  rw [insertRows, hcolumns]
  simp only [hnone]
  split
  · rfl
  · rw [Draft.run_bind_of_ok (run_placeRows hrows ps)]
    rfl

theorem run_insertRows {rows : List (List Value)}
    (hrows : ∀ row ∈ rows, row.length = t.columns.length) :
    (g.insertRows t rows).run ps = (.ok none, ps)
      ∨ (g.insertRows t rows).run ps
          = (.ok (some (g.insertRowsSql t (numberedEach ps.style ps.size (t.rowCells rows)))),
              ps.pushAll (t.rowCells rows).flatten) := by
  rw [g.run_insertRows_eq hrows]
  split
  · exact .inl rfl
  · exact .inr rfl

theorem run_insertRows_eq_none_iff {rows : List (List Value)}
    (hrows : ∀ row ∈ rows, row.length = t.columns.length) :
    (g.insertRows t rows).run ps = (.ok none, ps')
      ↔ ps' = ps ∧ (t.columns.filter Column.isInsertable = [] ∨ rows = []) := by
  rw [g.run_insertRows_eq hrows]
  split
  · rename_i hnone
    rw [and_iff_left hnone, Prod.mk.injEq, eq_comm (a := ps)]
    exact and_iff_right rfl
  · rename_i hsome
    refine iff_of_false (fun h => ?_) fun h => hsome h.2
    exact absurd (congrArg Prod.fst h) nofun

/-- A row holds the placeholders of its parameters. -/
theorem holds_tupleSql {style : PlaceholderStyle} (n : Nat) (vs : List Value) :
    style.Holds (tupleSql (numbered style n vs))
      ((numbered style n vs).map (·.placeholder)) := by
  have hend : style.Plain ")" := plain_of_all rfl
  have hcells := (holds_series style n vs.length).append hend.holds (apart_of_head rfl)
  rw [List.append_nil] at hcells
  rw [tupleSql, placeholders_numbered, String.append_assoc]
  exact Plain.holds_append (plain_of_all rfl) hcells

theorem holds_insertRowsSql {style : PlaceholderStyle} (h : t.PlainNames style) (n : Nat)
    (rows : List (List Value)) :
    style.Holds (g.insertRowsSql t (numberedEach style n rows))
      (style.series n rows.flatten.length) := by
  have hgroups : ∀ group ∈ numberedEach style n rows,
      style.Holds (tupleSql group) (group.map (·.placeholder)) := by
    intro group hgroup
    obtain ⟨m, vs, rfl⟩ := exists_numbered hgroup
    exact holds_tupleSql m vs
  have htuples := holds_commaList hgroups
  rw [List.flatMap_def, ← List.map_flatten, flatten_numberedEach, placeholders_numbered]
    at htuples
  have hcolumns : style.Plain (commaList ((t.columns.filter Column.isInsertable).map
      g.columnName)) :=
    g.plain_columnNames h fun column hcolumn => (List.mem_filter.mp hcolumn).1
  refine Plain.holds_append ?_ htuples
  rw [plain_append, plain_append, plain_append, plain_append]
  exact ⟨⟨⟨⟨plain_of_all rfl, g.plain_tableName h⟩, plain_of_all rfl⟩,
    hcolumns⟩, plain_of_all rfl⟩

theorem insertRows_aligned (h : t.PlainNames ps.style) {rows : List (List Value)}
    (hrows : ∀ row ∈ rows, row.length = t.columns.length) {sql : String}
    (hrun : (g.insertRows t rows).run ps = (.ok (some sql), ps')) :
    ∃ groups, ps.Aligned ps' sql groups.flatten
      ∧ groups.map (fun group => group.map (·.value)) = t.rowCells rows
      ∧ sql = g.insertRowsSql t groups := by
  rcases g.run_insertRows hrows with hnone | hsome
  · rw [hrun] at hnone
    exact absurd (congrArg Prod.fst hnone) nofun
  · rw [hrun, Prod.mk.injEq] at hsome
    obtain ⟨hsql, rfl⟩ := hsome
    obtain rfl := Option.some.inj (Except.ok.inj hsql)
    refine ⟨_, ?_, values_numberedEach ps.style ps.size _, rfl⟩
    rw [flatten_numberedEach]
    exact aligned_pushAll (g.holds_insertRowsSql h ps.size (t.rowCells rows))

/-- The assignments of an update hold the placeholders of the cells. -/
theorem holds_assignments {style : PlaceholderStyle} {cells : List (Column × Value)}
    (hcells : ∀ cell ∈ cells, style.Plain (g.columnName cell.1)) (n : Nat) :
    style.Holds
      (commaList ((cells.zip (numbered style n (cells.map Prod.snd))).map fun pair =>
        g.columnName pair.1.1 ++ " = " ++ pair.2.placeholder))
      (style.series n cells.length) := by
  have hpairs : ∀ pair ∈ cells.zip (numbered style n (cells.map Prod.snd)),
      style.Holds (g.columnName pair.1.1 ++ " = " ++ pair.2.placeholder)
        [pair.2.placeholder] := by
    intro pair hpair
    obtain ⟨hcell, hparam⟩ := List.of_mem_zip hpair
    obtain ⟨m, hm⟩ := exists_generated hparam
    rw [hm]
    refine Plain.holds_append ?_ (holds_generated style m)
    rw [plain_append]
    exact ⟨hcells pair.1 hcell, plain_of_all rfl⟩
  have hall := holds_commaList hpairs
  have hlength : (numbered style n (cells.map Prod.snd)).length = cells.length := by
    rw [length_numbered, List.length_map]
  have hplaceholders : (cells.zip (numbered style n (cells.map Prod.snd))).flatMap
      (fun pair => [pair.2.placeholder]) = style.series n cells.length := by
    calc _ = ((cells.zip (numbered style n (cells.map Prod.snd))).map Prod.snd).map
              (·.placeholder) := by rw [← List.map_eq_flatMap, List.map_map]; rfl
      _ = style.series n cells.length := by
          rw [List.map_snd_zip (Nat.le_of_eq hlength), placeholders_numbered, List.length_map]
  rwa [hplaceholders] at hall

/-- An update that succeeds binds its cells first, and then the values of its condition. -/
theorem run_update {q : Predicate} {row : List Value} {sql : String}
    (hrun : (g.update t q row).run ps = (.ok sql, ps')) :
    ∃ condition,
      (q.draft t g.dialect).run
          (ps.pushAll ((t.cells Column.isUpdatable row).map Prod.snd)) = (.ok condition, ps')
      ∧ sql = g.updateSql t (t.cells Column.isUpdatable row)
          (numbered ps.style ps.size ((t.cells Column.isUpdatable row).map Prod.snd)) condition := by
  obtain ⟨placeholders, rs, hplace, hrun⟩ := Draft.run_bind_eq_ok hrun
  rw [← Table.cells, Draft.run_placeAll] at hplace
  obtain ⟨⟩ := hplace
  split at hrun
  · exact absurd (congrArg Prod.fst hrun) nofun
  · obtain ⟨condition, qs, hcondition, hrun⟩ := Draft.run_bind_eq_ok hrun
    obtain ⟨⟩ := hrun
    refine ⟨condition, hcondition, ?_⟩
    unfold updateSql
    rw [← placeholders_numbered, List.zipWith_map_right, List.map_zip_eq_zipWith]
    rfl

theorem update_aligned (h : t.PlainNames ps.style) {q : Predicate} {row : List Value}
    {sql : String} (hrun : (g.update t q row).run ps = (.ok sql, ps')) :
    ∃ written matched condition, ps.Aligned ps' sql (written ++ matched)
      ∧ written.map (·.value) = (t.cells Column.isUpdatable row).map Prod.snd
      ∧ matched.map (·.value) = q.boundValues
      ∧ ps.style.occurrences condition.toList = matched.map (·.placeholder)
      ∧ sql = g.updateSql t (t.cells Column.isUpdatable row) written condition := by
  obtain ⟨cells, hcells⟩ : ∃ cells, t.cells Column.isUpdatable row = cells := ⟨_, rfl⟩
  obtain ⟨condition, hcondition, rfl⟩ := g.run_update hrun
  rw [hcells] at hcondition ⊢
  have hnames : t.PlainNames (ps.pushAll (cells.map Prod.snd)).style := by
    rw [style_pushAll]
    exact h
  obtain ⟨rfl, hholds⟩ := q.draft_linesUp g.dialect hnames condition ps' hcondition
  rw [style_pushAll, size_pushAll, List.length_map] at hholds
  have hplain : ∀ cell ∈ cells, ps.style.Plain (g.columnName cell.1) :=
    hcells ▸ g.plain_cellColumns h _ row
  have htext : ps.style.Holds
      (g.updateSql t cells (numbered ps.style ps.size (cells.map Prod.snd)) condition)
      (ps.style.series ps.size (cells.map Prod.snd ++ q.boundValues).length) := by
    have hwhere : ps.style.Plain " WHERE " := plain_of_all rfl
    have hassignments := (g.holds_assignments hplain ps.size).append (hwhere.holds_append hholds)
      (by rw [String.toList_append]; exact apart_of_head (by simp))
    unfold updateSql
    rw [List.length_append, List.length_map, series_add, String.append_assoc,
      String.append_assoc]
    refine Plain.holds_append ?_ hassignments
    rw [plain_append, plain_append]
    exact ⟨⟨plain_of_all rfl, g.plain_tableName h⟩, plain_of_all rfl⟩
  have halign := aligned_pushAll htext
  rw [pushAll_append, numbered_append, List.length_map] at halign
  exact ⟨_, _, condition, halign, values_numbered _ _ _, values_numbered _ _ _,
    by rw [hholds.occurrences_eq, placeholders_numbered], rfl⟩

end Generator

/-! ## Every statement -/

/-- **Placeholders and parameters line up in every statement.**  Whatever the parameters are that a
statement starts with, it leaves them as they are, and the placeholders in its text are those of the
parameters that it adds behind them, from left to right.  A query adds the values of its filter.
An insert adds the values of the columns that it may write, in the order of their declaration, each
under its own column; several rows do so one after another, and there is no statement for them exactly
if there is no row or no such column.  An update adds the new values beside their columns, and the
values of its condition after them. -/
theorem Generator.placeholders_aligned (g : Generator) (t : Table) (p : Option Predicate)
    (q : Predicate) (order : List SortKey) (page : Page) (first count : UInt64)
    {row : List Value} {rows : List (List Value)} {ps : Parameters}
    (hnames : t.PlainNames ps.style) (hrow : row.length = t.columns.length)
    (hrows : ∀ row ∈ rows, row.length = t.columns.length) :
    (g.select t p order).Aligns ps (Predicate.filterValues p)
      ∧ (g.selectPage t p order page).Aligns ps (Predicate.filterValues p)
      ∧ (g.selectSet t p order first count).Aligns ps (Predicate.filterValues p)
      ∧ (g.count t p).Aligns ps (Predicate.filterValues p)
      ∧ (∀ sql ps', (g.insert t row).run ps = (.ok sql, ps') →
          ∃ cells added, cells.map Prod.fst = t.columns.filter Column.isInsertable
            ∧ cells = t.cells Column.isInsertable row
            ∧ ps.Aligned ps' sql added ∧ added.map (·.value) = cells.map Prod.snd
            ∧ sql = g.insertSql t cells added)
      ∧ (∀ ps', (g.insertRows t rows).run ps = (.ok none, ps')
          ↔ ps' = ps ∧ (t.columns.filter Column.isInsertable = [] ∨ rows = []))
      ∧ (∀ sql ps', (g.insertRows t rows).run ps = (.ok (some sql), ps') →
          ∃ groups, ps.Aligned ps' sql groups.flatten
            ∧ groups.map (fun group => group.map (·.value)) = t.rowCells rows
            ∧ sql = g.insertRowsSql t groups)
      ∧ (∀ sql ps', (g.update t q row).run ps = (.ok sql, ps') →
          ∃ cells written matched condition,
            cells.map Prod.fst = t.columns.filter Column.isUpdatable
            ∧ cells = t.cells Column.isUpdatable row
            ∧ ps.Aligned ps' sql (written ++ matched)
            ∧ written.map (·.value) = cells.map Prod.snd
            ∧ matched.map (·.value) = q.boundValues
            ∧ ps.style.occurrences condition.toList = matched.map (·.placeholder)
            ∧ sql = g.updateSql t cells written condition)
      ∧ (g.delete t p).Aligns ps (Predicate.filterValues p) := by
  refine ⟨(g.select_linesUp hnames p order).aligns,
    (g.selectSet_linesUp hnames p order page.firstResult page.size).aligns,
    (g.selectSet_linesUp hnames p order first count).aligns,
    (g.count_linesUp hnames p).aligns, ?_, ?_, ?_, ?_, (g.delete_linesUp hnames p).aligns⟩
  · intro sql ps' hrun
    obtain ⟨added, haligned⟩ := g.insert_aligned hnames hrun
    exact ⟨_, added, Table.cells_map_fst hrow, rfl, haligned⟩
  · exact fun ps' => g.run_insertRows_eq_none_iff hrows
  · exact fun sql ps' hrun => g.insertRows_aligned hnames hrows hrun
  · intro sql ps' hrun
    obtain ⟨written, matched, condition, haligned⟩ := g.update_aligned hnames hrun
    exact ⟨_, written, matched, condition, Table.cells_map_fst hrow, rfl, haligned⟩

/-- An update behind a parameter that is there already: the columns `full_name` and `Age` get the
second and the fourth value of the row. -/
theorem Generator.placeholders_aligned_users :
    let g := Generator.ofDialect .postgresql
    let ps := (Parameters.empty .dollar).push (.text "before")
    let row := [Value.null, .text "Bob", .null, .integer 30, .null]
    let q := Predicate.eq "id" (.integer 7)
    let sql := "UPDATE \"app\".\"users\" SET \"full_name\" = $2, \"Age\" = $3 WHERE (\"Id\" = $4)"
    let ps' := Parameters.mk .dollar [⟨"$1", .text "before", none⟩, ⟨"$2", .text "Bob", none⟩,
      ⟨"$3", .integer 30, none⟩, ⟨"$4", .integer 7, none⟩]
    ∃ written matched, (g.update Table.users q row).run ps = (.ok sql, ps')
      ∧ ps.Aligned ps' sql (written ++ matched)
      ∧ written.map (·.value) = [.text "Bob", .integer 30]
      ∧ matched.map (·.value) = [.integer 7] := by
  intro g ps row q sql ps'
  have hnames : Table.users.PlainNames ps.style :=
    ⟨by decide, by decide, by decide⟩
  have hrow : row.length = Table.users.columns.length := rfl
  have hrows : ∀ r ∈ [row], r.length = Table.users.columns.length := by
    intro r hr
    rw [List.mem_singleton.mp hr, hrow]
  obtain ⟨-, -, -, -, -, -, -, hupdate, -⟩ :=
    placeholders_aligned g Table.users none q [] ⟨0, 10⟩ 0 10 hnames hrow hrows
  have hrun : (g.update Table.users q row).run ps = (.ok sql, ps') := by decide +kernel
  obtain ⟨cells, written, matched, condition, -, rfl, haligned, hwritten, hmatched, -⟩ :=
    hupdate sql ps' hrun
  exact ⟨written, matched, hrun, haligned, hwritten, hmatched⟩

end SqlRecords
