import SqlRecords.Proofs.Predicate.SearchCondition
import SqlRecords.Statement

/-!
# Characters that a text does not hold

Some characters mean something wherever they stand in the text of a statement: the mark of a
placeholder, and the semicolon that ends the statement.  The fixed texts of statements hold none of
them, so it is the names of tables and columns that matter.

* `Text.Lacks` — the character is not in the text.  It is passed on to texts that are put together
  from others.
* `Table.NamesLack` — the same for the names of a table.
* `Generator.lacks_selectFrom`, `lacks_orderItems` and others — the clauses made of these names.
-/

namespace SqlRecords

/-! ## Texts -/

namespace Text

variable {c : Char}

/-- The text does not hold the character. -/
def Lacks (c : Char) (s : String) : Prop := c ∉ s.toList

instance (c : Char) (s : String) : Decidable (Lacks c s) := inferInstanceAs (Decidable (_ ∉ _))

/-- The marks of placeholders, and the end of a statement. -/
def reserved : List Char := [':', '@', '$', '?', ';']

/-- A fixed text without any of the reserved characters lacks each of them. -/
theorem lacks_of_all (hc : c ∈ reserved) {s : String}
    (h : reserved.all (fun c => !s.toList.contains c) = true) : Lacks c s := by
  have hlacks := List.all_eq_true.mp h c hc
  simpa [Lacks] using hlacks

/-- A text that is put together lacks what both of its parts lack. -/
theorem lacks_append {s u : String} : Lacks c (s ++ u) ↔ Lacks c s ∧ Lacks c u := by
  rw [Lacks, Lacks, Lacks, String.toList_append, List.mem_append, not_or]

theorem lacks_intercalate {separator : String} (hsep : Lacks c separator) :
    ∀ {ss : List String}, (∀ s ∈ ss, Lacks c s) → Lacks c (separator.intercalate ss)
  | [], _ => by simp [Lacks]
  | [s], h => by simpa using h s List.mem_cons_self
  | s :: u :: rest, h => by
      rw [String.intercalate_cons_cons, lacks_append, lacks_append]
      exact ⟨⟨h s List.mem_cons_self, hsep⟩,
        lacks_intercalate hsep fun v hv => h v (List.mem_cons_of_mem _ hv)⟩

theorem lacks_commaList (hc : c ∈ reserved) {pieces : List String} (h : ∀ s ∈ pieces, Lacks c s) :
    Lacks c (commaList pieces) :=
  lacks_intercalate (lacks_of_all hc rfl) h

/-- The quotes around a name are none of the reserved characters. -/
theorem lacks_quote (hc : c ∈ reserved) (d : Dialect) {name : String} (h : Lacks c name) :
    Lacks c (d.quote name) := by
  cases d <;> rw [Dialect.quote, lacks_append, lacks_append] <;>
    exact ⟨⟨lacks_of_all hc rfl, h⟩, lacks_of_all hc rfl⟩

end Text

/-! ## Clauses -/

open Text

/-- None of the names in the table holds the character. -/
structure Table.NamesLack (c : Char) (t : Table) : Prop where
  name : Lacks c t.name
  schema : ∀ schema ∈ t.schema, Lacks c schema
  columns : ∀ column ∈ t.columns, Lacks c column.name

namespace Generator

variable {c : Char} {t : Table} (g : Generator) (hc : c ∈ reserved) (h : t.NamesLack c)

include hc h

theorem lacks_tableName : Lacks c (g.tableName t) := by
  rw [tableName]
  cases hschema : t.schema with
  | none => exact lacks_quote hc g.dialect h.name
  | some schema =>
      rw [lacks_append, lacks_append]
      exact ⟨⟨lacks_quote hc g.dialect (h.schema schema hschema), lacks_of_all hc rfl⟩,
        lacks_quote hc g.dialect h.name⟩

/-- Columns of the table, as a list. -/
theorem lacks_columnNames {columns : List Column} (hsub : ∀ column ∈ columns, column ∈ t.columns) :
    Lacks c (commaList (columns.map g.columnName)) := by
  refine lacks_commaList hc fun s hs => ?_
  obtain ⟨column, hcolumn, rfl⟩ := List.mem_map.mp hs
  exact lacks_quote hc g.dialect (h.columns column (hsub column hcolumn))

/-- The names in front of a condition are those of the table and its columns. -/
theorem lacks_selectFrom : Lacks c (g.selectFrom t) := by
  rw [selectFrom, columnList, lacks_append, lacks_append, lacks_append]
  exact ⟨⟨⟨lacks_of_all hc rfl,
    g.lacks_columnNames hc h fun column hcolumn => (List.mem_filter.mp hcolumn).1⟩,
    lacks_of_all hc rfl⟩, g.lacks_tableName hc h⟩

theorem lacks_orderItems : ∀ {order : List SortKey} {items : List String},
    g.orderItems t order = .ok items → ∀ s ∈ items, Lacks c s
  | [], items, hitems => by
      obtain rfl := Except.ok.inj hitems
      exact nofun
  | key :: order, items, hitems => by
      rw [orderItems] at hitems
      obtain ⟨column, hcolumn, hitems⟩ := Error.bind_eq_ok hitems
      obtain ⟨rest, hrest, hitems⟩ := Error.bind_eq_ok hitems
      obtain rfl := Except.ok.inj hitems
      intro s hs
      rcases List.mem_cons.mp hs with rfl | hs
      · rw [lacks_append]
        refine ⟨lacks_quote hc g.dialect (h.columns column (Table.column_eq_ok hcolumn).1), ?_⟩
        cases key.ascending <;> exact lacks_of_all hc rfl
      · exact lacks_orderItems hrest s hs

/-- Without sort keys the order is that of key columns, of one column, or of nothing. -/
theorem lacks_defaultOrder : Lacks c (g.defaultOrder t) := by
  rw [defaultOrder]
  cases hkeys : t.keys with
  | cons key keys =>
      refine g.lacks_columnNames hc h fun column hcolumn => ?_
      rw [← hkeys] at hcolumn
      exact (List.mem_filter.mp hcolumn).1
  | nil =>
      cases hmapped : t.mapped with
      | cons first rest =>
          have hfirst : first ∈ t.mapped := hmapped ▸ List.mem_cons_self
          exact lacks_quote hc g.dialect (h.columns first (List.mem_filter.mp hfirst).1)
      | nil =>
          show Lacks c "1"
          exact lacks_of_all hc rfl

end Generator

end SqlRecords
