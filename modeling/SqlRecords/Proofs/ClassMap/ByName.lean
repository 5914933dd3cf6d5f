import Mathlib.Data.List.Forall2
import SqlRecords.Proofs.ClassMap.Materialize

/-!
# Rows read by name

The places of the columns of a result set are looked up once, and every row is read by them: the
values at the places go into slots, and the slots into the properties.  Read plainly, the cells of a
row are searched for the name of each column, and the value of the first cell that has it goes into
the property of that column, one property after another.

Both give the same.  A slot holds what the row has under the name (`ClassMap.slots_eq`), so a record
is filled by one induction over the list of properties, from which the slots were made
(`ClassMap.assignSlots_slots`).  There are never more slots than properties, so the check of their
number refuses nothing.

* `Property.load`, `ClassMap.readByName` — a row read plainly.
* `ClassMap.Refuses` — the first property that does not take the value of a row.
* **`ClassMap.materialize_byName`** — the records of a result set are those of its rows, read
  plainly, and its error is that of the first row that has one.
-/

namespace SqlRecords

/-! ## Passes that stop at the first error -/

namespace Error

variable {α β : Type} {xs : List α} {e : Error}

/-- A pass over a list that comes through has a result for every element, in order. -/
theorem mapM_eq_ok_iff {f : α → Except Error β} {ys : List β} :
    xs.mapM f = .ok ys ↔ List.Forall₂ (fun x y => f x = .ok y) xs ys := by
  induction xs generalizing ys with
  | nil =>
      rw [List.mapM_nil, List.forall₂_nil_left_iff]
      exact ⟨fun h => (Except.ok.inj h).symm, fun h => h ▸ rfl⟩
  | cons x xs ih =>
      rw [List.mapM_cons]
      constructor
      · intro h
        obtain ⟨y, hy, h⟩ := bind_eq_ok h
        obtain ⟨ys, hys, h⟩ := bind_eq_ok h
        obtain rfl := Except.ok.inj h
        exact .cons hy (ih.mp hys)
      · rintro (_ | ⟨hy, hys⟩)
        rw [hy, ih.mpr hys]
        rfl

/-- A pass over a list stops at the first element that fails. -/
theorem mapM_eq_error_iff {f : α → Except Error β} :
    xs.mapM f = .error e ↔ ∃ before x after, xs = before ++ x :: after
      ∧ (∀ y ∈ before, ∃ b, f y = .ok b) ∧ f x = .error e := by
  constructor
  · intro h
    induction xs with
    | nil => exact absurd h nofun
    | cons x xs ih =>
        rw [List.mapM_cons] at h
        rcases bind_eq_error h with hx | ⟨b, hx, h⟩
        · exact ⟨[], x, xs, rfl, List.forall_mem_nil _, hx⟩
        · rcases bind_eq_error h with hxs | ⟨_, _, h⟩
          · obtain ⟨before, x', after, rfl, hbefore, hx'⟩ := ih hxs
            exact ⟨x :: before, x', after, rfl, List.forall_mem_cons.mpr ⟨⟨b, hx⟩, hbefore⟩, hx'⟩
          · exact absurd h nofun
  · rintro ⟨before, x, after, rfl, hbefore, hx⟩
    induction before with
    | nil =>
        rw [List.nil_append, List.mapM_cons, hx]
        rfl
    | cons y before ih =>
        obtain ⟨⟨b, hy⟩, hbefore⟩ := List.forall_mem_cons.mp hbefore
        rw [List.cons_append, List.mapM_cons, hy, ih hbefore]
        rfl

/-- An accumulation stops at the first element that fails, with what it has come to. -/
theorem foldlM_eq_error_iff {f : β → α → Except Error β} {b : β} :
    xs.foldlM f b = .error e ↔ ∃ before x after c, xs = before ++ x :: after
      ∧ before.foldlM f b = .ok c ∧ f c x = .error e := by
  constructor
  · intro h
    induction xs generalizing b with
    | nil => exact absurd h nofun
    | cons x xs ih =>
        rw [List.foldlM_cons] at h
        rcases bind_eq_error h with hx | ⟨b', hx, hxs⟩
        · exact ⟨[], x, xs, b, rfl, rfl, hx⟩
        · obtain ⟨before, x', after, c, rfl, hbefore, hx'⟩ := ih hxs
          refine ⟨x :: before, x', after, c, rfl, ?_, hx'⟩
          rw [List.foldlM_cons, hx]
          exact hbefore
  · rintro ⟨before, x, after, c, rfl, hbefore, hx⟩
    rw [List.foldlM_append, hbefore]
    exact congrArg (· >>= fun c => after.foldlM f c) hx

end Error

/-! ## One property at a time -/

variable {α : Type}

/-- The record with the value of the first cell of a row that has the name of the column.  A property
without a column is left alone, and so is one whose column has no cell. -/
def Property.load (p : Property α) (row : Row) (a : α) : Except Error α :=
  if p.column.ignored then .ok a
  else
    match row.cell? p.column.name with
    | some cell => p.set a cell.2
    | none => .ok a

/-- A property fails to take a value only where there is one. -/
theorem Property.load_eq_error_iff {p : Property α} {row : Row} {a : α} {e : Error} :
    p.load row a = .error e ↔ p.column.ignored = false
      ∧ ∃ cell, row.cell? p.column.name = some cell ∧ p.set a cell.2 = .error e := by
  rw [load]
  cases p.column.ignored with
  | true => simp
  | false =>
      cases row.cell? p.column.name with
      | none => simp
      | some cell => simp

namespace ClassMap

/-- The record of a row, property by property in the order of declaration. -/
def readByName (m : ClassMap α) (fresh : α) (row : Row) : Except Error α :=
  m.properties.foldlM (fun a p => p.load row a) fresh

/-- The row fails with the error, at the first property that does not take its value. -/
def Refuses (m : ClassMap α) (fresh : α) (row : Row) (e : Error) : Prop :=
  ∃ before p after a cell, m.properties = before ++ p :: after
    ∧ before.foldlM (fun a p => p.load row a) fresh = .ok a
    ∧ p.column.ignored = false ∧ row.cell? p.column.name = some cell ∧ p.set a cell.2 = .error e

theorem readByName_eq_error_iff {m : ClassMap α} {fresh : α} {row : Row} {e : Error} :
    m.readByName fresh row = .error e ↔ m.Refuses fresh row e := by
  rw [readByName, Error.foldlM_eq_error_iff]
  constructor
  · rintro ⟨before, p, after, a, hsplit, hbefore, herror⟩
    obtain ⟨hmapped, cell, hcell, hset⟩ := Property.load_eq_error_iff.mp herror
    exact ⟨before, p, after, a, cell, hsplit, hbefore, hmapped, hcell, hset⟩
  · rintro ⟨before, p, after, a, cell, hsplit, hbefore, hmapped, hcell, hset⟩
    exact ⟨before, p, after, a, hsplit, hbefore,
      Property.load_eq_error_iff.mpr ⟨hmapped, cell, hcell, hset⟩⟩

/-! ## Slots -/

/-- What a row has for a property. -/
def slot (row : Row) (p : Property α) : Option Value :=
  if p.column.ignored then none else (row.cell? p.column.name).map Prod.snd

/-- The value at the place of a property is the one under the name of its column. -/
theorem slots_eq (m : ClassMap α) (row : Row) :
    (m.positions row.columns).map (fun place => place.bind fun i => row.values[i]?)
      = m.properties.map (slot row) := by
  rw [positions_eq, List.map_map]
  refine List.map_congr_left fun p _ => ?_
  rw [slot, Function.comp_apply, ← Row.get?_eq]
  split <;> rfl

/-- **Slots are filled as the properties are loaded**, one after another. -/
theorem assignSlots_slots (row : Row) (ps : List (Property α)) (a : α) :
    ps.foldlM (fun a p => p.load row a) a
      = (assignSlots (ps.map Property.toAccessor) (ps.map (slot row)) a).1.map
          fun _ => (assignSlots (ps.map Property.toAccessor) (ps.map (slot row)) a).2 := by
  induction ps generalizing a with
  | nil => rfl
  | cons p ps ih =>
      rw [List.foldlM_cons, List.map_cons, List.map_cons, Property.load, slot]
      cases p.column.ignored with
      | true => exact ih a
      | false =>
          cases row.cell? p.column.name with
          | none => exact ih a
          | some cell =>
              simp only [Bool.false_eq_true, if_false, Option.map_some, assignSlots]
              cases p.set a cell.2 with
              | error e => rfl
              | ok a' => exact ih a'

/-- A row is read by places as it is by names. -/
theorem readRow_eq (m : ClassMap α) (fresh : α) (row : Row) :
    m.readRow fresh (m.positions row.columns) row.values = m.readByName fresh row := by
  rw [readByName, assignSlots_slots, m.properties_map_accessor, readRow, slots_eq, assign,
    if_neg (by simp [m.length_properties])]
  rcases assignSlots m.accessors (m.properties.map (slot row)) fresh with ⟨_ | _, _⟩ <;> rfl

theorem readRows_eq (m : ClassMap α) (fresh : α) (columns : List String)
    (rows : List (List Value)) :
    m.readRows fresh (m.positions columns) rows
      = (rows.map (Row.mk columns)).mapM (m.readByName fresh) := by
  induction rows with
  | nil => rfl
  | cons row rows ih =>
      have hrow := m.readRow_eq fresh ⟨columns, row⟩
      rw [List.map_cons, List.mapM_cons, readRows, hrow, ih]

/-! ## Result sets -/

/-- **Records are read by places as they are by names.**  For every class map and every result set,
the records are those of the rows, each read by the names of its columns: one for each row, in their
order.  If there is an error, it is that of the first property that does not take its value in the
first row that has such a property, and it stays the same whatever rows follow. -/
theorem materialize_byName (m : ClassMap α) (fresh : α) (set : ResultSet) :
    m.materialize fresh set = set.toRows.mapM (m.readByName fresh)
      ∧ (∀ as, m.materialize fresh set = .ok as
          ↔ List.Forall₂ (fun row a => m.readByName fresh row = .ok a) set.toRows as)
      ∧ ∀ e, m.materialize fresh set = .error e
          ↔ ∃ before row after, set.rows = before ++ row :: after
            ∧ (∀ r ∈ before, ∃ a, m.readByName fresh ⟨set.columns, r⟩ = .ok a)
            ∧ m.Refuses fresh ⟨set.columns, row⟩ e
            ∧ ∀ rows, m.materialize fresh ⟨set.columns, before ++ row :: rows⟩ = .error e := by
  have heq : ∀ s : ResultSet, m.materialize fresh s = s.toRows.mapM (m.readByName fresh) :=
    fun s => m.readRows_eq fresh s.columns s.rows
  -- A pass that has stopped at a row has not looked at those behind it.
  have hstop : ∀ {before : List (List Value)} {row : List Value} {e : Error},
      (∀ r ∈ before, ∃ a, m.readByName fresh ⟨set.columns, r⟩ = .ok a) →
      m.Refuses fresh ⟨set.columns, row⟩ e → ∀ rows,
        m.materialize fresh ⟨set.columns, before ++ row :: rows⟩ = .error e := by
    intro before row e hbefore hrefuses rows
    rw [heq, Error.mapM_eq_error_iff]
    refine ⟨before.map (Row.mk set.columns), ⟨set.columns, row⟩, rows.map (Row.mk set.columns),
      ?_, ?_, readByName_eq_error_iff.mpr hrefuses⟩
    · rw [ResultSet.toRows, List.map_append, List.map_cons]
    · exact List.forall_mem_map.mpr hbefore
  refine ⟨heq set, fun as => ?_, fun e => ⟨fun h => ?_, ?_⟩⟩
  · rw [heq, Error.mapM_eq_ok_iff]
  · rw [heq, Error.mapM_eq_error_iff] at h
    obtain ⟨before, row, after, hrows, hbefore, herror⟩ := h
    obtain ⟨before, rest, hsplit, rfl, hrest⟩ := List.map_eq_append_iff.mp hrows
    obtain ⟨row, after, rfl, rfl, rfl⟩ := List.map_eq_cons_iff.mp hrest
    have hbefore := List.forall_mem_map.mp hbefore
    have hrefuses := readByName_eq_error_iff.mp herror
    exact ⟨before, row, after, hsplit, hbefore, hrefuses, hstop hbefore hrefuses⟩
  · rintro ⟨before, row, after, hsplit, -, -, hrows⟩
    have hset := hrows after
    rwa [← hsplit] at hset

/-- Memos whose number stands in two columns and whose draft has a column all the same; the second row
ends after two cells. -/
def untidyMemos : ResultSet :=
  ⟨["NUMBER", "Draft", "Number", "Memo_Text"],
    [[.integer 7, .text "mil", .integer 9, .text "milk"], [.integer 8, .text "hon"]]⟩

/-- The first number counts, the draft is left alone, and so is the text of the short row.  A third row
whose number is none fails, whatever comes after it. -/
theorem materialize_byName_memos :
    let fresh : Memo := ⟨0, .null, .null⟩
    let more : ResultSet := ⟨untidyMemos.columns, untidyMemos.rows ++ [[.text "ten"], [.null]]⟩
    ∃ m, declare "Memo" Memo.steps = .ok m
      ∧ List.Forall₂ (fun row a => m.readByName fresh row = .ok a) untidyMemos.toRows
        [⟨7, .null, .text "milk"⟩, ⟨8, .null, .null⟩]
      ∧ ∃ before row after, more.rows = before ++ row :: after
        ∧ m.Refuses fresh ⟨more.columns, row⟩ (.conversion (.text "ten") (.int .int64)) := by
  intro fresh more
  obtain ⟨m, hm⟩ : ∃ m, declare "Memo" Memo.steps = .ok m := ⟨_, rfl⟩
  have hread : m.materialize fresh untidyMemos
      = .ok [⟨7, .null, .text "milk"⟩, ⟨8, .null, .null⟩] := by
    obtain rfl := Except.ok.inj hm
    rfl
  have hfail : m.materialize fresh more = .error (.conversion (.text "ten") (.int .int64)) := by
    obtain rfl := Except.ok.inj hm
    rfl
  obtain ⟨before, row, after, hrows, -, hrefuses, -⟩ :=
    ((materialize_byName m fresh more).2.2 _).mp hfail
  exact ⟨m, hm, ((materialize_byName m fresh untidyMemos).2.1 _).mp hread, before, row, after, hrows,
    hrefuses⟩

end ClassMap

end SqlRecords
