import SqlRecords.Statement

/-!
# The cells that a statement writes

Rows of values are positioned like the columns of a table, and a statement writes some of the
columns.  One row is inserted and updated by pairing columns with values; several rows are
inserted by the numbers of their columns.  This file says that both pick the same cells.

* `Table.cells` — the columns that a statement writes, each with its value in the row.
* `Generator.placeRow_eq_placeAll` — a row inserted by the numbers of its columns binds the values
  of its cells.
-/

namespace SqlRecords

namespace Table

variable {t : Table} {writes : Column → Bool}

/-- The columns that are written, each with the value that the row has at its place. -/
def cells (t : Table) (writes : Column → Bool) (row : List Value) : List (Column × Value) :=
  (t.columns.zip row).filter fun cell => writes cell.1

/-- The values that an insert of several rows writes, row after row. -/
def rowCells (t : Table) (rows : List (List Value)) : List (List Value) :=
  rows.map fun row => (t.cells Column.isInsertable row).map Prod.snd

/-- The columns of the cells depend on the length of the row only. -/
theorem cells_map_fst_congr {row row' : List Value} (h : row.length = row'.length) :
    (t.cells writes row).map Prod.fst = (t.cells writes row').map Prod.fst := by
  suffices key : ∀ columns : List Column,
      (columns.zip row).map Prod.fst = (columns.zip row').map Prod.fst by
    have hcells : ∀ r : List Value, (t.cells writes r).map Prod.fst
        = ((t.columns.zip r).map Prod.fst).filter writes := fun r => List.filter_map.symm
    rw [hcells, hcells, key]
  induction row generalizing row' with
  | nil =>
      intro columns
      rw [List.length_eq_zero_iff.mp h.symm]
  | cons v vs ih =>
      obtain ⟨v', vs', rfl⟩ := List.exists_cons_of_length_eq_add_one h.symm
      rintro (_ | ⟨c, columns⟩)
      · rfl
      · simp only [List.zip_cons_cons, List.map_cons]
        rw [ih (Nat.succ.inj h)]

/-- What is made from the columns of the cells depends on the length of the row only. -/
theorem map_cells_congr {β : Type} (t : Table) (writes : Column → Bool) (f : Column → β)
    {row row' : List Value} (h : row.length = row'.length) :
    (t.cells writes row).map (fun cell => f cell.1)
      = (t.cells writes row').map fun cell => f cell.1 := by
  have hcells : (t.cells writes row).map Prod.fst = (t.cells writes row').map Prod.fst :=
    cells_map_fst_congr h
  have hmap := congrArg (List.map f) hcells
  rw [List.map_map, List.map_map] at hmap
  exact hmap

theorem length_cells_congr (t : Table) (writes : Column → Bool) {row row' : List Value}
    (h : row.length = row'.length) :
    (t.cells writes row).length = (t.cells writes row').length := by
  have hmap := congrArg List.length (map_cells_congr t writes id h)
  rwa [List.length_map, List.length_map] at hmap

theorem isEmpty_cells_congr (t : Table) (writes : Column → Bool) {row row' : List Value}
    (h : row.length = row'.length) :
    (t.cells writes row).isEmpty = (t.cells writes row').isEmpty := by
  rw [Bool.eq_iff_iff, List.isEmpty_iff_length_eq_zero, List.isEmpty_iff_length_eq_zero,
    length_cells_congr t writes h]

/-- A row as long as the table has a cell in every column that is written. -/
theorem cells_map_fst {row : List Value} (h : row.length = t.columns.length) :
    (t.cells writes row).map Prod.fst = t.columns.filter writes := by
  have hzip : (t.columns.zip row).map Prod.fst = t.columns :=
    List.map_fst_zip (Nat.le_of_eq h.symm)
  calc (t.cells writes row).map Prod.fst
      = ((t.columns.zip row).map Prod.fst).filter writes := List.filter_map.symm
    _ = t.columns.filter writes := by rw [hzip]

/-- A table with every kind of column: a key that the database assigns, a column under another
name, one that is only read, and a property without a column. -/
def users : Table where
  entity := "User"
  name := "users"
  schema := some "app"
  columns :=
    [⟨"Id", "Id", .identity, false, false⟩, ⟨"Name", "full_name", .notAKey, false, false⟩,
      ⟨"Seen", "Seen", .notAKey, false, true⟩, ⟨"Age", "Age", .notAKey, false, false⟩,
      ⟨"Cache", "Cache", .notAKey, true, false⟩]

end Table

namespace Generator

/-- The cells of the rest of a row, by number.  The induction is on the columns that are left, and
`before` are the values of the columns that are done. -/
theorem placeRow_zipIdx (t : Table) :
    ∀ (columns : List Column) (before row : List Value), columns.length ≤ row.length →
      placeRow t (before ++ row)
          ((columns.zipIdx before.length).filter fun c => c.1.isInsertable)
        = Draft.placeAll
            (((columns.zip row).filter fun cell => cell.1.isInsertable).map Prod.snd)
  | [], _, _, _ => rfl
  | _ :: _, _, [], h => absurd h (by simp)
  | c :: columns, before, v :: row, h => by
      have ih := placeRow_zipIdx t columns (before ++ [v]) row (Nat.le_of_succ_le_succ h)
      rw [List.append_assoc, List.singleton_append, List.length_append] at ih
      have hv : (before ++ v :: row)[before.length]? = some v := by simp
      rw [List.zipIdx_cons, List.zip_cons_cons]
      cases hc : c.isInsertable with
      | false =>
          rw [List.filter_cons_of_neg (by simp [hc]), List.filter_cons_of_neg (by simp [hc])]
          exact ih
      | true =>
          rw [List.filter_cons_of_pos (by simp [hc]), List.filter_cons_of_pos (by simp [hc]),
            List.map_cons, placeRow, Draft.placeAll, hv]
          simp only [List.length_singleton] at ih
          simp only [ih]

theorem insertable_map_fst (t : Table) :
    (insertable t).map Prod.fst = t.columns.filter Column.isInsertable := by
  have hfilter : (insertable t).map Prod.fst
      = (t.columns.zipIdx.map Prod.fst).filter Column.isInsertable := by
    rw [List.filter_map]
    rfl
  rw [hfilter, List.zipIdx_map_fst]

/-- **A row inserted by the numbers of its columns binds the values of its cells.** -/
theorem placeRow_eq_placeAll (t : Table) {row : List Value} (h : row.length = t.columns.length) :
    placeRow t row (insertable t)
      = Draft.placeAll ((t.cells Column.isInsertable row).map Prod.snd) :=
  placeRow_zipIdx t t.columns [] row (Nat.le_of_eq h.symm)

end Generator

end SqlRecords
