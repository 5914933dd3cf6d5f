import SqlRecords.Proofs.Paging
import SqlRecords.Proofs.Predicate.Leaves
import SqlRecords.Proofs.Statement.Cells
import SqlRecords.Proofs.Statement.Reading

/-!
# Requests

There is a statement for most of what can be asked of a table.  Whether there is one does not depend
on the values that are compared and written, nor on what was bound before: it is a matter of the
names of properties, the places of null, and the lengths of rows.

* `Request` — what can be asked, for all statements at once.
* `Draft.Succeeds` — the condition under which a draft comes to an end.
* `Request.Answerable` — what is asked of a request.
* **`Request.draft_succeeds`** — the requests that have a statement are those.
-/

namespace SqlRecords

/-- The table has the property to order by. -/
def SortKey.Valid (t : Table) (key : SortKey) : Prop :=
  ∃ column ∈ t.columns, Text.sameName column.property key.property

/-- What is asked of a table. -/
inductive Request where
  | select (filter : Option Predicate) (order : List SortKey)
  | selectPage (filter : Option Predicate) (order : List SortKey) (page : Page)
  | selectSet (filter : Option Predicate) (order : List SortKey) (first size : UInt64)
  | count (filter : Option Predicate)
  | insert (values : List Value)
  | insertRows (rows : List (List Value))
  | update (filter : Predicate) (values : List Value)
  | delete (filter : Option Predicate)

namespace Request

/-- The statement for the request, if there is anything to do. -/
def draft (g : Generator) (t : Table) : Request → Draft (Option String)
  | select filter order => do return some (← g.select t filter order)
  | selectPage filter order page => do return some (← g.selectPage t filter order page)
  | selectSet filter order first size => do return some (← g.selectSet t filter order first size)
  | count filter => do return some (← g.count t filter)
  | insert values => do return some (← g.insert t values)
  | insertRows rows => g.insertRows t rows
  | update filter values => do return some (← g.update t filter values)
  | delete filter => do return some (← g.delete t filter)

/-- The conditions that the request makes. -/
def leaves : Request → List Condition
  | select filter _ | selectPage filter _ _ | selectSet filter _ _ _ | count filter | delete filter =>
    filter.elim [] Predicate.leaves
  | update filter _ => filter.leaves
  | insert _ | insertRows _ => []

/-- The order that the request asks for. -/
def order : Request → List SortKey
  | select _ order | selectPage _ order _ | selectSet _ order _ _ => order
  | count _ | insert _ | insertRows _ | update _ _ | delete _ => []

/-- Each condition and each sort key is about a property of the table, rows reach far enough, and an
update has something to write. -/
def Answerable (t : Table) (r : Request) : Prop :=
  (∀ c ∈ r.leaves, c.Valid t) ∧ (∀ key ∈ r.order, key.Valid t) ∧
    match r with
    | insertRows rows => ∀ row ∈ rows, ∀ c ∈ Generator.insertable t, c.2 < row.length
    | update _ values => t.cells Column.isUpdatable values ≠ []
    | _ => True

end Request

/-! ## Drafts that succeed -/

namespace Draft

variable {α β : Type}

/-- The draft comes to an end exactly under the condition, whatever was bound before. -/
def Succeeds (d : Draft α) (condition : Prop) : Prop :=
  ∀ ps, (∃ a ps', d.run ps = (.ok a, ps')) ↔ condition

variable {d : Draft α} {p q : Prop}

theorem succeeds_pure (a : α) : (pure a : Draft α).Succeeds True := by
  intro ps
  exact iff_of_true ⟨a, ps, rfl⟩ trivial

theorem succeeds_throw (e : Error) : (throw e : Draft α).Succeeds False := by
  intro ps
  refine iff_of_false ?_ id
  rintro ⟨a, ps', ⟨⟩⟩

/-- A draft that binds nothing succeeds if it is made of a result. -/
theorem succeeds_ofExcept (e : Except Error α) : (ofExcept e).Succeeds (∃ a, e = .ok a) := by
  intro ps
  cases e with
  | error e => exact iff_of_false (by rintro ⟨a, ps', ⟨⟩⟩) (by rintro ⟨a, ⟨⟩⟩)
  | ok a => exact iff_of_true ⟨a, ps, rfl⟩ ⟨a, rfl⟩

theorem Succeeds.congr (h : d.Succeeds p) (hpq : p ↔ q) : d.Succeeds q := by
  intro ps
  rw [h ps, hpq]

/-- Both drafts have to succeed.  What the second one asks for must not depend on what the first one
gives, since a placeholder differs with what was bound before. -/
theorem Succeeds.bind (h : d.Succeeds p) {f : α → Draft β} (hf : ∀ a, (f a).Succeeds q) :
    (d >>= f).Succeeds (p ∧ q) := by
  intro ps
  constructor
  · rintro ⟨b, ps', hrun⟩
    obtain ⟨a, rs, hd, hrun⟩ := run_bind_eq_ok hrun
    exact ⟨(h ps).mp ⟨a, rs, hd⟩, (hf a rs).mp ⟨b, ps', hrun⟩⟩
  · rintro ⟨hp, hq⟩
    obtain ⟨a, rs, hd⟩ := (h ps).mpr hp
    rw [run_bind_of_ok hd]
    exact (hf a rs).mpr hq

theorem Succeeds.map (h : d.Succeeds p) (f : α → β) : Draft.Succeeds (do return f (← d)) p :=
  (h.bind fun a => succeeds_pure (f a)).congr (and_iff_left trivial)

/-- A draft that walks through leaves comes to an end if all of them are valid. -/
theorem Walks.succeeds {t : Table} {leaves : List Condition} (h : Walks t leaves d) :
    d.Succeeds (∀ c ∈ leaves, c.Valid t) := by
  intro ps
  rw [← (h ps).isOk_iff]
  constructor
  · rintro ⟨a, ps', hrun⟩
    exact ⟨a, congrArg Prod.fst hrun⟩
  · rintro ⟨a, ha⟩
    exact ⟨a, (d.run ps).2, Prod.ext ha rfl⟩

theorem succeeds_placeAll (vs : List Value) : (placeAll vs).Succeeds True := by
  intro ps
  exact iff_of_true ⟨_, _, run_placeAll vs ps⟩ trivial

end Draft

namespace Generator

variable (g : Generator) (t : Table)

/-- There is a condition if the table has the property of each leaf. -/
theorem whereClause_succeeds (filter : Option Predicate) :
    (g.whereClause t filter).Succeeds (∀ c ∈ filter.elim [] Predicate.leaves, c.Valid t) := by
  cases filter with
  | none => exact (Draft.succeeds_pure "").congr (by simp)
  | some p => exact (p.walks t g.dialect).succeeds.map _

theorem exists_orderItems_iff {order : List SortKey} : (∃ items, g.orderItems t order = .ok items) ↔
    ∀ key ∈ order, key.Valid t := by
  induction order with
  | nil => exact iff_of_true ⟨[], rfl⟩ (List.forall_mem_nil _)
  | cons key order ih =>
      rw [List.forall_mem_cons, ← ih]
      constructor
      · rintro ⟨items, h⟩
        obtain ⟨column, hcolumn, h⟩ := Error.bind_eq_ok h
        obtain ⟨rest, hrest, -⟩ := Error.bind_eq_ok h
        exact ⟨⟨column, Table.column_eq_ok hcolumn⟩, rest, hrest⟩
      · rintro ⟨hkey, rest, hrest⟩
        obtain ⟨column, hcolumn⟩ := Table.exists_column_eq_ok hkey
        refine ⟨(g.columnName column ++ if key.ascending then " ASC" else " DESC") :: rest, ?_⟩
        rw [orderItems, hcolumn, hrest]
        rfl

theorem orderItems_succeeds (order : List SortKey) : (Draft.ofExcept (g.orderItems t order)).Succeeds
    (∀ key ∈ order, key.Valid t) :=
  (Draft.succeeds_ofExcept _).congr (g.exists_orderItems_iff t)

/-- The same for the order of a page, which falls back to another one if no sort key is given. -/
theorem orderText_succeeds (order : List SortKey) : (Draft.ofExcept (g.orderText t order)).Succeeds
    (∀ key ∈ order, key.Valid t) := by
  refine (Draft.succeeds_ofExcept _).congr ?_
  rw [← g.exists_orderItems_iff t, orderText]
  split
  · next hempty =>
      rw [List.isEmpty_iff.mp hempty]
      exact iff_of_true ⟨_, rfl⟩ ⟨[], rfl⟩
  · cases g.orderItems t order with
    | error e => exact iff_of_false (by rintro ⟨a, ⟨⟩⟩) (by rintro ⟨a, ⟨⟩⟩)
    | ok items => exact iff_of_true ⟨_, rfl⟩ ⟨items, rfl⟩

/-- Conditions and sort keys are all that can be wrong with a query. -/
theorem select_succeeds (filter : Option Predicate) (order : List SortKey) :
    (g.select t filter order).Succeeds ((∀ c ∈ filter.elim [] Predicate.leaves, c.Valid t) ∧
      ∀ key ∈ order, key.Valid t) := by
  refine (g.whereClause_succeeds t filter).bind fun condition => ?_
  split
  · next hempty =>
      rw [List.isEmpty_iff.mp hempty]
      exact (Draft.succeeds_pure _).congr (by simp)
  · exact (g.orderItems_succeeds t order).map _

/-- A page resolves its order first, but it asks for nothing else than a query does. -/
theorem selectSet_succeeds (filter : Option Predicate) (order : List SortKey) (first size : UInt64) :
    (g.selectSet t filter order first size).Succeeds ((∀ c ∈ filter.elim [] Predicate.leaves, c.Valid t) ∧
      ∀ key ∈ order, key.Valid t) := by
  rw [selectSet_eq]
  refine Draft.Succeeds.congr ((g.orderText_succeeds t order).bind fun items => ?_) and_comm
  exact (g.whereClause_succeeds t filter).map _

/-- A row can always be inserted: columns that it does not reach are left out. -/
theorem insert_succeeds (values : List Value) : (g.insert t values).Succeeds True := by
  rw [insert]
  split
  · exact Draft.succeeds_pure _
  · exact (Draft.succeeds_placeAll _).map _

/-- A row is bound if it reaches every column that is written. -/
theorem placeRow_succeeds (row : List Value) : ∀ columns : List (Column × Nat),
    (placeRow t row columns).Succeeds (∀ c ∈ columns, c.2 < row.length)
  | [] => (Draft.succeeds_pure _).congr (by simp)
  | (c, i) :: columns => by
      rw [placeRow]
      cases hvalue : row[i]? with
      | none =>
          have hshort : row.length ≤ i := List.getElem?_eq_none_iff.mp hvalue
          exact (Draft.succeeds_throw _).congr (iff_of_false id fun h => by simp at h; omega)
      | some v =>
          have hreach : i < row.length := (List.getElem?_eq_some_iff.mp hvalue).1
          have hplace : (Draft.place v).Succeeds True := fun ps => iff_of_true ⟨_, _, rfl⟩ trivial
          refine (hplace.bind fun first => (placeRow_succeeds row columns).map _).congr ?_
          rw [List.forall_mem_cons]
          exact and_congr_left fun _ => iff_of_true trivial hreach

/-- Every row has to reach every column that is written. -/
theorem placeRows_succeeds : ∀ rows : List (List Value),
    (placeRows t rows).Succeeds (∀ row ∈ rows, ∀ c ∈ insertable t, c.2 < row.length)
  | [] => (Draft.succeeds_pure _).congr (by simp)
  | row :: rows => by
      rw [List.forall_mem_cons]
      exact (placeRow_succeeds t row (insertable t)).bind fun cells => (placeRows_succeeds rows).map _

/-- Without rows, or without a column to write, there is nothing to reach. -/
theorem insertRows_succeeds (rows : List (List Value)) :
    (g.insertRows t rows).Succeeds (∀ row ∈ rows, ∀ c ∈ insertable t, c.2 < row.length) := by
  rw [insertRows]
  split
  · next hnothing =>
      refine (Draft.succeeds_pure _).congr (iff_of_true trivial ?_)
      rcases Bool.or_eq_true_iff.mp hnothing with hempty | hempty
      · rw [List.isEmpty_iff.mp hempty]
        simp
      · rw [List.isEmpty_iff.mp hempty]
        simp
  · exact (placeRows_succeeds t rows).map _

/-- An update needs a value to write, besides a condition that the table can resolve. -/
theorem update_succeeds (filter : Predicate) (values : List Value) : (g.update t filter values).Succeeds
    ((∀ c ∈ filter.leaves, c.Valid t) ∧ t.cells Column.isUpdatable values ≠ []) := by
  rw [update, ← Table.cells]
  refine Draft.Succeeds.congr ((Draft.succeeds_placeAll _).bind fun placeholders => ?_)
    (and_iff_right trivial)
  split
  · next hempty =>
      exact (Draft.succeeds_throw _).congr (iff_of_false id fun h => h.2 (List.isEmpty_iff.mp hempty))
  · next hempty =>
      refine ((filter.walks t g.dialect).succeeds.map _).congr ?_
      exact (and_iff_left fun h => hempty (List.isEmpty_iff.mpr h)).symm

end Generator

namespace Request

variable (g : Generator) (t : Table)

/-- **Which requests have a statement.**  For a condition or an order an ignored property does as
well. -/
theorem draft_succeeds (r : Request) : (r.draft g t).Succeeds (r.Answerable t) := by
  cases r with
  | select filter order =>
      exact ((g.select_succeeds t filter order).map some).congr (by simp [Answerable, leaves, Request.order])
  | selectPage filter order page =>
      exact ((g.selectSet_succeeds t filter order page.firstResult page.size).map some).congr
        (by simp [Answerable, leaves, Request.order])
  | selectSet filter order first size =>
      exact ((g.selectSet_succeeds t filter order first size).map some).congr
        (by simp [Answerable, leaves, Request.order])
  | count filter =>
      exact (((g.whereClause_succeeds t filter).map _).map some).congr (by simp [Answerable, leaves, order])
  | insert values => exact ((g.insert_succeeds t values).map some).congr (by simp [Answerable, leaves, order])
  | insertRows rows => exact (g.insertRows_succeeds t rows).congr (by simp [Answerable, leaves, order])
  | update filter values =>
      exact ((g.update_succeeds t filter values).map some).congr (by simp [Answerable, leaves, order])
  | delete filter =>
      exact (((g.whereClause_succeeds t filter).map _).map some).congr (by simp [Answerable, leaves, order])

end Request

end SqlRecords
