import SqlRecords.Proofs.Statement.QuotedNames
import SqlRecords.Proofs.Statement.Requests
import SqlRecords.Record

/-!
# The columns that statements name

A property that is ignored has no column, so no statement should name one for it.  What a statement
reads or writes is chosen by the flags of the columns, and the flag is honoured there.  What it
filters or sorts by is looked up by the name of a property, or taken from the keys, and there
nothing looks at the flag.

* `Request.named` — the columns that the statement for a request names, by what they are named for.
* `NamedColumns.mentions` — all its names, from left to right.
* `Request.NamesExist` — the table has the columns among them.
* `Request.draft_quotes` — these are the names in the text.
* **`Request.named_columns`** — a statement names columns that exist if and only if nothing it
  filters or sorts by is ignored.
* **`Request.names_ignored`** — a statement that names a column for an ignored property.
-/

namespace SqlRecords

open Text

/-! ## Names -/

namespace Table

/-- The columns that a filter is about. -/
def filterColumns (t : Table) (filter : Option Predicate) : List Column :=
  Condition.columns t (filter.elim [] Predicate.leaves)

/-- The columns of an order that is given. -/
def sortColumns (t : Table) (order : List SortKey) : List Column := t.found (order.map (·.property))

/-- The columns that the table is ordered by if no order is given. -/
def defaultColumns (t : Table) : List Column := if t.keys.isEmpty then t.mapped.take 1 else t.keys

/-- The columns of the order of a window, which has one in any case. -/
def windowColumns (t : Table) (order : List SortKey) : List Column :=
  if order.isEmpty then t.defaultColumns else t.sortColumns order

/-- There is a column of the name: the property that is mapped to it is not ignored. -/
def HasColumn (t : Table) (name : String) : Prop := ∃ c ∈ t.columns, c.name = name ∧ c.ignored = false

end Table

/-- A name in the text of a statement. -/
inductive Mention where
  /-- The name of something else than a column: a table, a schema, a result. -/
  | label (name : String)
  | column (c : Column)
deriving DecidableEq

namespace Mention

/-- The name as it is written. -/
def name : Mention → String
  | label name => name
  | column c => c.name

@[simp] theorem name_label (name : String) : (label name).name = name := rfl

@[simp] theorem map_name_column (columns : List Column) :
    (columns.map column).map name = columns.map (·.name) := by
  rw [List.map_map]
  rfl

end Mention

/-- The names by which a statement refers to its table. -/
def Table.labels (t : Table) : List Mention := t.schema.toList.map .label ++ [.label t.name]

/-- The columns that a statement names, by what they are named for. -/
structure NamedColumns where
  /-- The rows that it reads have them. -/
  read : List Column := []
  /-- The names of what it computes. -/
  results : List String := []
  written : List Column := []
  filtered : List Column := []
  sorted : List Column := []

namespace NamedColumns

/-- The columns that are named because of their flags. -/
def chosen (n : NamedColumns) : List Column := n.read ++ n.written

/-- The columns that are named because somebody filters or sorts by them. -/
def asked (n : NamedColumns) : List Column := n.filtered ++ n.sorted

/-- The names of a statement about the table, from left to right. -/
def mentions (t : Table) (n : NamedColumns) : List Mention :=
  n.read.map .column ++ n.results.map .label ++ t.labels ++ (n.written ++ n.asked).map .column

@[simp] theorem map_name_mentions (t : Table) (n : NamedColumns) : (n.mentions t).map Mention.name
    = n.read.map (·.name) ++ n.results ++ t.labels.map Mention.name ++
      (n.written.map (·.name) ++ (n.filtered.map (·.name) ++ n.sorted.map (·.name))) := by
  simp [mentions, asked, Function.comp_def, Mention.name]

/-- A column is mentioned if the statement chooses it or is asked for it. -/
theorem mem_mentions_iff {t : Table} {n : NamedColumns} {c : Column} :
    .column c ∈ n.mentions t ↔ c ∈ n.chosen ∨ c ∈ n.asked := by
  have hlabels : Mention.column c ∉ t.labels := by simp [Table.labels]
  simp [mentions, chosen, hlabels, or_assoc]

end NamedColumns

/-- The columns that the statement for a request names. -/
def Request.named (t : Table) : Request → NamedColumns
  | select filter order =>
    { read := t.mapped, filtered := t.filterColumns filter, sorted := t.sortColumns order }
  | selectPage filter order _ | selectSet filter order _ _ =>
    { read := t.mapped, filtered := t.filterColumns filter, sorted := t.windowColumns order }
  | count filter => { results := ["Total"], filtered := t.filterColumns filter }
  | insert values => { written := (t.cells Column.isInsertable values).map Prod.fst }
  | insertRows _ => { written := t.columns.filter Column.isInsertable }
  | update filter values =>
    { written := (t.cells Column.isUpdatable values).map Prod.fst, filtered := t.filterColumns (some filter) }
  | delete filter => { filtered := t.filterColumns filter }

/-- The table has every column that the statement for a request names. -/
def Request.NamesExist (t : Table) (r : Request) : Prop :=
  ∀ c, .column c ∈ (r.named t).mentions t → t.HasColumn c.name

/-! ## Names in clauses -/

namespace Generator

open Dialect

variable (g : Generator) (t : Table)

/-- The name of a table goes with that of its schema, if it has one. -/
theorem tableName_quotes : g.dialect.Quotes (g.tableName t) (t.labels.map Mention.name) := by
  rw [tableName, Table.labels]
  cases t.schema with
  | none => exact .quote t.name
  | some schema => exact .append ((Quotes.quote schema).before (by decide)) (.quote t.name)

theorem columnNames_quote (columns : List Column) :
    g.dialect.QuotesEach (columns.map g.columnName) (columns.map (·.name)) := by
  induction columns with
  | nil => exact .nil
  | cons c columns ih => exact .cons (.quote c.name) ih

theorem commaList_quotes {pieces names : List String} (h : g.dialect.QuotesEach pieces names) :
    g.dialect.Quotes (commaList pieces) names :=
  h.intercalate (by decide)

theorem columnList_quotes (columns : List Column) :
    g.dialect.Quotes (commaList (columns.map g.columnName)) (columns.map (·.name)) :=
  g.commaList_quotes (g.columnNames_quote columns)

/-- A query names every mapped column, and then the table. -/
theorem selectFrom_quotes :
    g.dialect.Quotes (g.selectFrom t) (t.mapped.map (·.name) ++ t.labels.map Mention.name) :=
  .append (((g.columnList_quotes t.mapped).after (by decide)).before (by decide)) (g.tableName_quotes t)

theorem whereClause_quotes (filter : Option Predicate) :
    (g.whereClause t filter).Yields
      (g.dialect.Quotes · ((t.filterColumns filter).map (·.name))) := by
  cases filter with
  | none => exact Draft.yields_pure (.plain (by decide))
  | some p =>
      exact (p.draft_quotes t g.dialect).bind fun condition hcondition =>
        Draft.yields_pure (hcondition.after (by decide))

/-- Each sort key names its column. -/
theorem orderItems_quote : ∀ {order : List SortKey} {items : List String},
    g.orderItems t order = .ok items →
      g.dialect.QuotesEach items ((t.sortColumns order).map (·.name))
  | [], items, h => by
      obtain rfl := Except.ok.inj h
      exact .nil
  | key :: order, items, h => by
      rw [orderItems] at h
      obtain ⟨column, hcolumn, h⟩ := Error.bind_eq_ok h
      obtain ⟨rest, hrest, h⟩ := Error.bind_eq_ok h
      obtain rfl := Except.ok.inj h
      have hname : g.dialect.Quotes (g.columnName column ++ if key.ascending then " ASC" else " DESC")
          [column.name] :=
        (Quotes.quote column.name).before (by split <;> decide)
      have hfound : t.sortColumns (key :: order) = [column] ++ t.sortColumns order := by
        rw [← Table.found_singleton hcolumn, Table.sortColumns, Table.sortColumns, ← Table.found_append]
        rfl
      rw [hfound, List.map_append]
      exact .cons hname (orderItems_quote hrest)

/-- Without sort keys the order names key columns, or else the first mapped one. -/
theorem defaultOrder_quotes :
    g.dialect.Quotes (g.defaultOrder t) (t.defaultColumns.map (·.name)) := by
  rw [defaultOrder, Table.defaultColumns]
  cases hkeys : t.keys with
  | cons key keys => exact g.columnList_quotes (key :: keys)
  | nil =>
      cases hmapped : t.mapped with
      | cons first rest => exact .quote first.name
      | nil =>
          have hone : Unquoted "1" := by decide
          exact .plain hone

theorem orderText_quotes {order : List SortKey} {items : String} (h : g.orderText t order = .ok items) :
    g.dialect.Quotes items ((t.windowColumns order).map (·.name)) := by
  rw [orderText] at h
  rw [Table.windowColumns]
  split at h
  · next hempty =>
      obtain rfl := Except.ok.inj h
      rw [if_pos hempty]
      exact g.defaultOrder_quotes t
  · next hempty =>
      rw [if_neg hempty]
      cases hitems : g.orderItems t order with
      | error e =>
          rw [hitems] at h
          cases h
      | ok pieces =>
          rw [hitems] at h
          obtain rfl := Except.ok.inj h
          exact g.commaList_quotes (g.orderItems_quote t hitems)

/-- The bounds of a page are numbers, without a name. -/
theorem unquoted_limitClause (d : Dialect) (first count : UInt64) : Unquoted (d.limitClause first count) := by
  have hnumber : ∀ n : UInt64, Unquoted (Numeral.natText n.toNat) := fun n => unquoted_natText n.toNat
  cases d with
  | sqlServer =>
      exact unquoted_append (unquoted_append (unquoted_append (unquoted_append (by decide) (hnumber first))
        (by decide)) (hnumber count)) (by decide)
  | _ =>
      exact unquoted_append (unquoted_append (unquoted_append (by decide) (hnumber count))
        (by decide)) (hnumber first)

/-- The cells of a row, each with a placeholder behind its column. -/
theorem assignments_quote : ∀ {cells : List (Column × Value)} {placeholders : List String},
    placeholders.length = cells.length → (∀ placeholder ∈ placeholders, Unquoted placeholder) →
      g.dialect.QuotesEach
        (cells.zipWith (fun cell ph => g.columnName cell.1 ++ " = " ++ ph) placeholders)
        (cells.map (·.1.name))
  | [], [], _, _ => .nil
  | cell :: cells, placeholder :: placeholders, hlength, hplain => by
      rw [List.forall_mem_cons] at hplain
      have hequals : Unquoted " = " := by decide
      exact .cons (((Quotes.quote cell.1.name).before hequals).before hplain.1)
        (assignments_quote (Nat.succ.inj hlength) hplain.2)

/-- A tuple of placeholders holds no name. -/
theorem yields_placeRow (row : List Value) : ∀ columns : List (Column × Nat),
    (placeRow t row columns).Yields fun placeholders => ∀ placeholder ∈ placeholders, Unquoted placeholder
  | [] => Draft.yields_pure (List.forall_mem_nil _)
  | (c, i) :: columns => by
      rw [placeRow]
      cases row[i]? with
      | none => exact Draft.yields_throw _
      | some v =>
          refine (Draft.yields_place v).bind fun first hfirst =>
            (yields_placeRow row columns).bind fun rest hrest => Draft.yields_pure ?_
          exact List.forall_mem_cons.mpr ⟨hfirst, hrest⟩

theorem yields_placeRows : ∀ rows : List (List Value),
    (placeRows t rows).Yields fun tuples => ∀ tuple ∈ tuples, Unquoted tuple
  | [] => Draft.yields_pure (List.forall_mem_nil _)
  | row :: rows => by
      refine (yields_placeRow t row (insertable t)).bind fun cells hcells =>
        (yields_placeRows rows).bind fun tuples htuples => Draft.yields_pure ?_
      refine List.forall_mem_cons.mpr ⟨?_, htuples⟩
      exact unquoted_append (unquoted_append (by decide) (unquoted_intercalate (by decide) hcells)) (by decide)

end Generator

/-! ## Names in statements -/

namespace Generator

open Dialect

variable (g : Generator) (t : Table)

theorem select_quotes (filter : Option Predicate) (order : List SortKey) :
    (g.select t filter order).Yields (g.dialect.Quotes ·
      (t.mapped.map (·.name) ++ t.labels.map Mention.name ++ (t.filterColumns filter).map (·.name) ++
        (t.sortColumns order).map (·.name))) := by
  refine (g.whereClause_quotes t filter).bind fun condition hcondition => ?_
  have hrows := (g.selectFrom_quotes t).append hcondition
  split
  · next hempty =>
      have hunsorted : (t.sortColumns order).map (·.name) = [] := by
        rw [List.isEmpty_iff.mp hempty]
        rfl
      rw [hunsorted, List.append_nil]
      exact Draft.yields_pure hrows
  · refine (Draft.yields_ofExcept fun items hitems => hitems).bind fun items hitems => Draft.yields_pure ?_
    exact (hrows.before (by decide)).append (g.commaList_quotes (g.orderItems_quote t hitems))

theorem selectSet_quotes (filter : Option Predicate) (order : List SortKey) (first size : UInt64) :
    (g.selectSet t filter order first size).Yields (g.dialect.Quotes ·
      (t.mapped.map (·.name) ++ t.labels.map Mention.name ++ (t.filterColumns filter).map (·.name) ++
        (t.windowColumns order).map (·.name))) := by
  rw [selectSet_eq]
  refine (Draft.yields_ofExcept fun items hitems => hitems).bind fun items hitems =>
    (g.whereClause_quotes t filter).bind fun condition hcondition => Draft.yields_pure ?_
  have horder : Unquoted " ORDER BY " := by decide
  have hrows := ((g.selectFrom_quotes t).append hcondition).before horder
  exact ((hrows.append (g.orderText_quotes t hitems)).before (by decide)).before
    (unquoted_limitClause g.dialect first size)

/-- A count has a name for its result, and names no column outside of its condition. -/
theorem count_quotes (filter : Option Predicate) :
    (g.count t filter).Yields (g.dialect.Quotes ·
      ("Total" :: t.labels.map Mention.name ++ (t.filterColumns filter).map (·.name))) := by
  refine (g.whereClause_quotes t filter).bind fun condition hcondition => Draft.yields_pure ?_
  have htotal : g.dialect.Quotes ("SELECT COUNT(*) AS " ++ g.dialect.quote "Total" ++ " FROM ") ["Total"] :=
    ((Quotes.quote "Total").after (by decide)).before (by decide)
  exact (htotal.append (g.tableName_quotes t)).append hcondition

theorem delete_quotes (filter : Option Predicate) :
    (g.delete t filter).Yields (g.dialect.Quotes ·
      (t.labels.map Mention.name ++ (t.filterColumns filter).map (·.name))) := by
  refine (g.whereClause_quotes t filter).bind fun condition hcondition => Draft.yields_pure ?_
  exact ((g.tableName_quotes t).after (by decide)).append hcondition

/-- The start of an insert, up to the values. -/
theorem insertInto_quotes (columns : List Column) :
    g.dialect.Quotes ("INSERT INTO " ++ g.tableName t ++ " (" ++ commaList (columns.map g.columnName))
      (t.labels.map Mention.name ++ columns.map (·.name)) :=
  (((g.tableName_quotes t).after (by decide)).before (by decide)).append (g.columnList_quotes columns)

theorem insert_quotes (values : List Value) :
    (g.insert t values).Yields (g.dialect.Quotes ·
      (t.labels.map Mention.name ++ (t.cells Column.isInsertable values).map (·.1.name))) := by
  rw [insert, ← Table.cells]
  split
  · next hempty =>
      rw [List.isEmpty_iff.mp hempty, List.map_nil, List.append_nil]
      exact Draft.yields_pure (((g.tableName_quotes t).after (by decide)).before (by decide))
  · refine (Draft.yields_placeAll _).bind fun placeholders hplaceholders => Draft.yields_pure ?_
    have hcolumns := g.insertInto_quotes t ((t.cells Column.isInsertable values).map Prod.fst)
    rw [List.map_map, List.map_map] at hcolumns
    exact ((hcolumns.before (by decide)).before (unquoted_intercalate (by decide) hplaceholders.2)).before
      (by decide)

/-- An insert of several rows names the columns once. -/
theorem insertRows_quotes (rows : List (List Value)) :
    (g.insertRows t rows).Yields fun statement => ∀ sql, statement = some sql →
      g.dialect.Quotes sql
        (t.labels.map Mention.name ++ (t.columns.filter Column.isInsertable).map (·.name)) := by
  rw [insertRows]
  split
  · exact Draft.yields_pure (by simp)
  · refine (yields_placeRows t rows).bind fun tuples htuples => Draft.yields_pure ?_
    rintro _ ⟨⟩
    have hcolumns := g.insertInto_quotes t ((insertable t).map Prod.fst)
    rw [List.map_map, insertable_map_fst] at hcolumns
    exact (hcolumns.before (by decide)).before (unquoted_intercalate (by decide) htuples)

/-- An update names what it writes, and then what it compares. -/
theorem update_quotes (filter : Predicate) (values : List Value) :
    (g.update t filter values).Yields (g.dialect.Quotes ·
      (t.labels.map Mention.name ++ ((t.cells Column.isUpdatable values).map (·.1.name) ++
        (t.filterColumns (some filter)).map (·.name)))) := by
  rw [update, ← Table.cells]
  refine (Draft.yields_placeAll _).bind fun placeholders hplaceholders => ?_
  split
  · exact Draft.yields_throw _
  · refine (filter.draft_quotes t g.dialect).bind fun condition hcondition => Draft.yields_pure ?_
    rw [List.length_map] at hplaceholders
    have hassignments := g.commaList_quotes (g.assignments_quote hplaceholders.1 hplaceholders.2)
    have hupdate : Unquoted "UPDATE " := by decide
    have hset : Unquoted " SET " := by decide
    have hwritten := (((g.tableName_quotes t).after hupdate).before hset).append hassignments
    rw [← List.append_assoc]
    exact (hwritten.before (by decide)).append hcondition

end Generator

namespace Request

open Dialect

variable (g : Generator) (t : Table)

/-- **The names in the text of a statement are those of the columns that the request names.** -/
theorem draft_quotes (r : Request) :
    (r.draft g t).Yields fun statement => ∀ sql, statement = some sql →
      g.dialect.Quotes sql (((r.named t).mentions t).map Mention.name) := by
  have hsome : ∀ {d : Draft String} {names : List String}, d.Yields (g.dialect.Quotes · names) →
      ((r.named t).mentions t).map Mention.name = names →
        Draft.Yields (do return some (← d)) fun statement => ∀ sql, statement = some sql →
          g.dialect.Quotes sql (((r.named t).mentions t).map Mention.name) := by
    rintro d _ h rfl
    refine h.bind fun sql hsql => Draft.yields_pure ?_
    rintro _ ⟨⟩
    exact hsql
  cases r with
  | select filter order => exact hsome (g.select_quotes t filter order) (by simp [named])
  | selectPage filter order page =>
      exact hsome (g.selectSet_quotes t filter order page.firstResult page.size) (by simp [named])
  | selectSet filter order first size =>
      exact hsome (g.selectSet_quotes t filter order first size) (by simp [named])
  | count filter => exact hsome (g.count_quotes t filter) (by simp [named])
  | insert values => exact hsome (g.insert_quotes t values) (by simp [named])
  | insertRows rows => simpa [draft, named] using g.insertRows_quotes t rows
  | update filter values => exact hsome (g.update_quotes t filter values) (by simp [named])
  | delete filter => exact hsome (g.delete_quotes t filter) (by simp [named])

/-! ## Columns in statements -/

variable {t} {r : Request} {c : Column}

/-- A column that is chosen by its flags is not ignored. -/
theorem mem_mapped_of_chosen (h : c ∈ (r.named t).chosen) : c ∈ t.mapped := by
  have hinsertable : ∀ {c : Column}, c.isInsertable = true → c.ignored = false := by
    simp +contextual [Column.isInsertable]
  have hcells : ∀ {values : List Value}, c ∈ (t.cells Column.isInsertable values).map Prod.fst →
      c ∈ t.mapped := by
    intro values hmem
    obtain ⟨cell, hcell, rfl⟩ := List.mem_map.mp hmem
    obtain ⟨hzip, hwrites⟩ := List.mem_filter.mp hcell
    simp [Table.mapped, (List.of_mem_zip hzip).1, hinsertable hwrites]
  have hrows : c ∈ t.columns.filter Column.isInsertable → c ∈ t.mapped := by
    simp +contextual [Table.mapped, hinsertable]
  rcases List.mem_append.mp h with hread | hwritten
  · cases r with
    | select _ _ | selectPage _ _ _ | selectSet _ _ _ _ => exact hread
    | _ => exact absurd hread List.not_mem_nil
  · cases r with
    | insert values => exact hcells hwritten
    | insertRows rows => exact hrows hwritten
    | update filter values => exact hcells hwritten
    | _ => exact absurd hwritten List.not_mem_nil

theorem mem_columns_of_asked (h : c ∈ (r.named t).asked) : c ∈ t.columns := by
  have hfound : ∀ {properties : List String}, c ∈ t.found properties → c ∈ t.columns := by
    intro properties hmem
    obtain ⟨property, -, hcolumn⟩ := List.mem_filterMap.mp hmem
    exact List.mem_of_find?_eq_some hcolumn
  have hdefault : c ∈ t.defaultColumns → c ∈ t.columns := by
    rw [Table.defaultColumns]
    intro hmem
    split at hmem
    · exact (List.mem_filter.mp (List.mem_of_mem_take hmem)).1
    · exact (List.mem_filter.mp hmem).1
  have hwindow : ∀ {order : List SortKey}, c ∈ t.windowColumns order → c ∈ t.columns := by
    intro order
    rw [Table.windowColumns]
    split
    · exact hdefault
    · exact hfound
  rcases List.mem_append.mp h with hfiltered | hsorted
  · cases r with
    | insert _ | insertRows _ => exact absurd hfiltered List.not_mem_nil
    | _ => exact hfound hfiltered
  · cases r with
    | select filter order => exact hfound hsorted
    | selectPage filter order page => exact hwindow hsorted
    | selectSet filter order first size => exact hwindow hsorted
    | _ => exact absurd hsorted List.not_mem_nil

/-- If nothing ignored is asked for, every column that is named exists. -/
theorem namesExist_of_asked (h : ∀ c ∈ (r.named t).asked, c.ignored = false) : r.NamesExist t := by
  intro c hc
  rcases NamedColumns.mem_mentions_iff.mp hc with hchosen | hasked
  · obtain ⟨hmem, hmapped⟩ := List.mem_filter.mp (mem_mapped_of_chosen hchosen)
    exact ⟨c, hmem, rfl, by simpa using hmapped⟩
  · exact ⟨c, mem_columns_of_asked hasked, rfl, h c hasked⟩

/-- An ignored column has no name to share with a column that exists. -/
theorem NamesExist.not_ignored (h : r.NamesExist t) (hnames : (t.columns.map (·.name)).Nodup)
    (hc : c ∈ (r.named t).asked) : c.ignored = false := by
  obtain ⟨c', hc', hname, hmapped⟩ := h c (NamedColumns.mem_mentions_iff.mpr (.inr hc))
  obtain rfl := List.inj_on_of_nodup_map hnames hc' (mem_columns_of_asked hc) hname
  exact hmapped

end Request

/-! ## Ignored properties -/

namespace Request

variable (g : Generator) (t : Table)

/-- **Statements name columns that exist, unless something ignored is asked for.**  The names in the
text of a statement are those that `named` lists.  If nothing that the request filters or sorts by
is ignored, keys instead of an order included, then the table has every column that is named.  If
something is, and no two columns have the same name, then the table has not; and the request has a
statement all the same. -/
theorem named_columns (r : Request) :
    (∀ ps sql ps', (r.draft g t).run ps = (.ok (some sql), ps') →
      g.dialect.Quotes sql (((r.named t).mentions t).map Mention.name) ∧
      ((∀ mention ∈ (r.named t).mentions t, g.dialect.closeQuote ∉ mention.name.toList) →
        g.dialect.quotedNames sql = ((r.named t).mentions t).map Mention.name)) ∧
    ((∀ c ∈ (r.named t).asked, c.ignored = false) → r.NamesExist t) ∧
    ((t.columns.map (·.name)).Nodup → r.NamesExist t → ∀ c ∈ (r.named t).asked, c.ignored = false) ∧
    ∀ ps, (∃ statement ps', (r.draft g t).run ps = (.ok statement, ps')) ↔ r.Answerable t := by
  refine ⟨?_, namesExist_of_asked, ?_, draft_succeeds g t r⟩
  · intro ps sql ps' hrun
    have hquotes := r.draft_quotes g t ps (some sql) ps' hrun sql rfl
    exact ⟨hquotes, fun hclosing => hquotes.quotedNames_eq (List.forall_mem_map.mpr hclosing)⟩
  · intro hnames hexist c hc
    exact hexist.not_ignored hnames hc

/-- The fields of a user.  What is in the cache is not stored. -/
def user : List FieldDeclaration :=
  [.table "users", .field "Id" .identity (.int .int64), .field "Name" .notAKey .text,
    .field "Cache" .notAKey .text, .ignored]

/-- **The users are filtered and sorted by a column that they do not have.** -/
theorem names_ignored : ∃ m, ClassMap.declare "User" (Record.declarations user) = .ok m
    ∧ (m.table.columns.map (·.name)).Nodup
    ∧ (∃ c ∈ m.table.columns, c.property = "Cache" ∧ c.ignored = true)
    ∧ ((select (some (.eq "Cache" (.text "x"))) []).draft (.ofDialect .sqlite) m.table).run (.empty .atSign)
      = (.ok (some "SELECT \"Id\", \"Name\" FROM \"users\" WHERE (\"Cache\" = @p0)"),
          ⟨.atSign, [⟨"@p0", .text "x", none⟩]⟩)
    ∧ ((select none [⟨"Cache", true⟩]).draft (.ofDialect .sqlite) m.table).run (.empty .atSign)
      = (.ok (some "SELECT \"Id\", \"Name\" FROM \"users\" ORDER BY \"Cache\" ASC"), .empty .atSign)
    ∧ ¬ m.table.HasColumn "Cache" := by
  refine ⟨_, rfl, by decide, ⟨⟨"Cache", "Cache", .notAKey, true, false⟩, by decide, rfl, rfl⟩, ?_⟩
  refine ⟨?_, ?_, ?_⟩
  · decide +kernel
  · decide +kernel
  · rw [Table.HasColumn]
    decide

end Request

end SqlRecords
