import SqlRecords.Proofs.Placeholders

/-!
# Statements that read

The placeholders in the text of a query are those of the values that its filter binds, in the same
order.  The names of the table and of its columns must not look like placeholders; the other texts
around the filter never do.

* `Table.PlainNames` — what is asked of the names.
* `Draft.LinesUp` — a draft whose text holds the placeholders of what it binds, in order.
  `LinesUp.around` puts plain text around such a draft.
* `Generator.select_linesUp`, `selectSet_linesUp`, `count_linesUp`, `delete_linesUp` — the
  statements whose only parameters are those of the filter.
-/

namespace SqlRecords

/-- None of the names in the table holds the mark of a placeholder. -/
structure Table.PlainNames (style : PlaceholderStyle) (t : Table) : Prop where
  name : style.Plain t.name
  schema : ∀ schema ∈ t.schema, style.Plain schema
  columns : ∀ column ∈ t.columns, style.Plain column.name

theorem Table.PlainNames.namesLack {style : PlaceholderStyle} {t : Table} (h : t.PlainNames style) :
    t.NamesLack style.mark := ⟨h.name, h.schema, h.columns⟩

/-! ## Drafts -/

namespace Draft

/-- From `ps` the draft binds `vs`, and its text holds their placeholders in the same order. -/
def LinesUp (ps : Parameters) (d : Draft String) (vs : List Value) : Prop :=
  ∀ sql ps', d.run ps = (.ok sql, ps') →
    ps' = ps.pushAll vs ∧ ps.style.Holds sql (ps.style.series ps.size vs.length)

variable {ps : Parameters}

theorem linesUp_pure {sql : String} (h : ps.style.Plain sql) : LinesUp ps (pure sql) [] := by
  rintro _ _ ⟨⟩
  exact ⟨rfl, h.holds⟩

/-- Plain text around a draft, whatever decides what the text is. -/
theorem LinesUp.around {d : Draft String} {vs : List Value} (h : d.LinesUp ps vs)
    {k : String → Draft String}
    (hk : ∀ s rs sql qs, (k s).run rs = (.ok sql, qs) → qs = rs ∧ ∃ before after : String,
      sql = before ++ (s ++ after) ∧ ps.style.Plain before ∧ ps.style.Plain after
        ∧ ps.style.Apart after.toList) :
    LinesUp ps (d >>= k) vs := by
  intro sql ps' hrun
  obtain ⟨s, rs, hd, hrun⟩ := run_bind_eq_ok hrun
  obtain ⟨rfl, hholds⟩ := h s rs hd
  obtain ⟨rfl, before, after, rfl, hbefore, hafter, hapart⟩ := hk s _ sql ps' hrun
  have htext := hholds.append hafter.holds hapart
  rw [List.append_nil] at htext
  exact ⟨rfl, hbefore.holds_append htext⟩

/-- Several values bound in a row give their placeholders in a row. -/
theorem run_placeAll : ∀ (vs : List Value) (ps : Parameters),
    (placeAll vs).run ps = (.ok (ps.style.series ps.size vs.length), ps.pushAll vs)
  | [], _ => rfl
  | v :: vs, ps => by
      have ih := run_placeAll vs (ps.push v)
      rw [Parameters.style_push, Parameters.size_push] at ih
      rw [placeAll, run_bind_of_ok (run_place v ps), run_bind_of_ok ih, List.length_cons,
        ps.style.series_succ]
      rfl

end Draft

/-- The text of a predicate lines up with the values of its leaves. -/
theorem Predicate.draft_linesUp {t : Table} {ps : Parameters} (d : Dialect)
    (hnames : t.PlainNames ps.style) (p : Predicate) : (p.draft t d).LinesUp ps p.boundValues := by
  intro sql ps' hrun
  obtain ⟨c, -, hfits, rfl, rfl⟩ := p.run_draft_eq_ok t d hrun
  have hcolumns : ∀ name ∈ c.columns, ps.style.Plain name := by
    intro name hname
    obtain ⟨column, hcolumn, rfl⟩ := hfits.exists_column name hname
    exact hnames.columns column hcolumn
  have hholds := SearchCondition.holds_fill d c ps.size hcolumns
  rw [hfits.operands_eq] at hholds
  exact ⟨rfl, hholds⟩

namespace Generator

open PlaceholderStyle

variable {style : PlaceholderStyle} {t : Table} (g : Generator)

/-! ## Plain clauses -/

/-- The name of a table in a statement adds no placeholder. -/
theorem plain_tableName (h : t.PlainNames style) : style.Plain (g.tableName t) :=
  g.lacks_tableName style.mark_mem_reserved h.namesLack

theorem plain_commaList {pieces : List String} (h : ∀ s ∈ pieces, style.Plain s) :
    style.Plain (commaList pieces) :=
  Text.lacks_commaList style.mark_mem_reserved h

theorem plain_columnNames (h : t.PlainNames style) {columns : List Column}
    (hsub : ∀ column ∈ columns, column ∈ t.columns) :
    style.Plain (commaList (columns.map g.columnName)) :=
  g.lacks_columnNames style.mark_mem_reserved h.namesLack hsub

/-- What stands in front of a condition holds no placeholder. -/
theorem plain_selectFrom (h : t.PlainNames style) : style.Plain (g.selectFrom t) :=
  g.lacks_selectFrom style.mark_mem_reserved h.namesLack

/-- No sort key holds a placeholder. -/
theorem plain_orderItems (h : t.PlainNames style) {order : List SortKey} {items : List String}
    (hitems : g.orderItems t order = .ok items) : ∀ s ∈ items, style.Plain s :=
  g.lacks_orderItems style.mark_mem_reserved h.namesLack hitems

theorem plain_defaultOrder (h : t.PlainNames style) : style.Plain (g.defaultOrder t) :=
  g.lacks_defaultOrder style.mark_mem_reserved h.namesLack

theorem plain_limitClause (d : Dialect) (first count : UInt64) :
    style.Plain (d.limitClause first count) := by
  have hnumber : ∀ n, style.Plain (Numeral.natText n) := plain_natText
  have hoffset : style.Plain "OFFSET " := plain_of_all rfl
  have hnext : style.Plain " ROWS FETCH NEXT " := plain_of_all rfl
  have honly : style.Plain " ROWS ONLY" := plain_of_all rfl
  have hlimit : style.Plain "LIMIT " := plain_of_all rfl
  have hskip : style.Plain " OFFSET " := plain_of_all rfl
  cases d <;> simp [Dialect.limitClause, plain_append, *]

/-! ## Reading -/

section Reading

variable {ps : Parameters} (h : t.PlainNames ps.style)

include h

/-- The placeholders of a condition are those of its values, in their order. -/
theorem whereClause_linesUp (p : Option Predicate) :
    (g.whereClause t p).LinesUp ps (Predicate.filterValues p) := by
  cases p with
  | none => exact Draft.linesUp_pure (plain_of_all rfl)
  | some p =>
      refine (p.draft_linesUp g.dialect h).around ?_
      rintro s rs _ _ ⟨⟩
      exact ⟨rfl, " WHERE ", "", by rw [String.append_empty], plain_of_all rfl,
        plain_of_all rfl, nofun⟩

/-- A query binds the values of its condition and no others. -/
theorem select_linesUp (p : Option Predicate) (order : List SortKey) :
    (g.select t p order).LinesUp ps (Predicate.filterValues p) := by
  refine (g.whereClause_linesUp h p).around ?_
  intro s rs sql qs hrun
  split at hrun
  · obtain ⟨⟩ := hrun
    exact ⟨rfl, _, "", by rw [String.append_empty], g.plain_selectFrom h,
      plain_of_all rfl, nofun⟩
  · cases hitems : g.orderItems t order with
    | error e => rw [hitems] at hrun; exact absurd (congrArg Prod.fst hrun) nofun
    | ok items =>
        rw [hitems] at hrun
        obtain ⟨⟩ := hrun
        refine ⟨rfl, _, " ORDER BY " ++ commaList items, by simp only [String.append_assoc],
          g.plain_selectFrom h, ?_, ?_⟩
        · rw [plain_append]
          exact ⟨plain_of_all rfl, plain_commaList (g.plain_orderItems h hitems)⟩
        · exact apart_of_head (by simp)

/-- The bounds of a page are written out, so a page binds what a query does. -/
theorem selectSet_linesUp (p : Option Predicate) (order : List SortKey) (first count : UInt64) :
    (g.selectSet t p order first count).LinesUp ps (Predicate.filterValues p) := by
  have hrest : ∀ items : String, ps.style.Plain items → Draft.LinesUp ps
      (do
        let condition ← g.whereClause t p
        return g.selectFrom t ++ condition ++ " ORDER BY " ++ items ++ " " ++
          g.dialect.limitClause first count) (Predicate.filterValues p) := by
    intro items hitems
    refine (g.whereClause_linesUp h p).around ?_
    rintro s rs _ _ ⟨⟩
    refine ⟨rfl, g.selectFrom t,
      " ORDER BY " ++ items ++ " " ++ g.dialect.limitClause first count,
      by simp only [String.append_assoc], g.plain_selectFrom h, ?_, apart_of_head (by simp)⟩
    rw [plain_append, plain_append, plain_append]
    exact ⟨⟨⟨plain_of_all rfl, hitems⟩, plain_of_all rfl⟩,
      plain_limitClause g.dialect first count⟩
  rw [selectSet]
  split
  · exact hrest _ (g.plain_defaultOrder h)
  · cases hitems : g.orderItems t order with
    | error e => exact fun _ _ hrun => absurd (congrArg Prod.fst hrun) nofun
    | ok items => exact hrest _ (plain_commaList (g.plain_orderItems h hitems))

theorem count_linesUp (p : Option Predicate) :
    (g.count t p).LinesUp ps (Predicate.filterValues p) := by
  refine (g.whereClause_linesUp h p).around ?_
  rintro s rs _ _ ⟨⟩
  refine ⟨rfl, _, "", by rw [String.append_empty], ?_, plain_of_all rfl, nofun⟩
  rw [plain_append, plain_append, plain_append]
  exact ⟨⟨⟨plain_of_all rfl, plain_quote g.dialect (plain_of_all rfl)⟩,
    plain_of_all rfl⟩, g.plain_tableName h⟩

theorem delete_linesUp (p : Option Predicate) :
    (g.delete t p).LinesUp ps (Predicate.filterValues p) := by
  refine (g.whereClause_linesUp h p).around ?_
  rintro s rs _ _ ⟨⟩
  refine ⟨rfl, _, "", by rw [String.append_empty], ?_, plain_of_all rfl, nofun⟩
  rw [plain_append]
  exact ⟨plain_of_all rfl, g.plain_tableName h⟩

end Reading

end Generator

end SqlRecords
