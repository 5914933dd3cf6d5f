import SqlRecords.Proofs.Statement.Cells

/-!
# Bound values stay out of the text

A statement is sent as text with placeholders, and the values go beside it.  The point of that
split is that nobody can change the text by choosing a value.  This is a statement about *two*
runs: draft the same statement twice, with values that differ as they like, and compare what comes
out.

* `Predicate.masked`, `Parameters.masked` — what is left to see when every value is covered up.
  Of the values in a predicate only their absence can be seen, because absence is written out.
* `Draft.Indistinguishable` — two drafts that no observer of text, failures and placeholders can
  tell apart.  It passes through sequences (`Draft.Indistinguishable.bind`), so each statement is
  followed through its own steps.
* **`drafts_indistinguishable`** — the eight statements of a table cannot be told apart by their
  values.
-/

namespace SqlRecords

/-! ## Masks -/

/-- Something or nothing: all that the text shows of a value. -/
def Value.masked : Value → Value
  | .null => .null
  | _ => .bool true

/-- The comparison without the value. -/
def Condition.masked (c : Condition) : Condition := { c with value := c.value.masked }

mutual

/-- The predicate without its values. -/
def Predicate.masked : Predicate → Predicate
  | .field c => .field c.masked
  | .group op children => .group op (Predicate.maskedAll children)

/-- Several predicates without their values. -/
def Predicate.maskedAll : List Predicate → List Predicate
  | [] => []
  | p :: ps => p.masked :: Predicate.maskedAll ps

end

/-- A parameter without its value. -/
def Param.masked (p : Param) : Param := { p with value := .null }

/-- The parameters without their values: the placeholders and names are left. -/
def Parameters.masked (ps : Parameters) : Parameters :=
  { ps with items := ps.items.map Param.masked }

@[simp] theorem Value.isNull_masked (v : Value) : v.masked.isNull = v.isNull := by
  cases v <;> rfl

namespace Parameters

theorem style_eq_of_masked {ps ps' : Parameters} (h : ps.masked = ps'.masked) :
    ps.style = ps'.style :=
  congrArg (fun qs => qs.style) h

/-- Sets that are masked to the same one are equally large. -/
theorem size_eq_of_masked {ps ps' : Parameters} (h : ps.masked = ps'.masked) :
    ps.size = ps'.size := by
  have hlen := congrArg (fun qs => qs.items.length) h
  simpa [masked, size] using hlen

/-- The next placeholder is made from the style and the number of parameters only. -/
theorem next_eq_of_masked {ps ps' : Parameters} (h : ps.masked = ps'.masked) :
    ps.next = ps'.next := by
  rw [next, next, style_eq_of_masked h, size_eq_of_masked h]

theorem masked_push (ps : Parameters) (v : Value) :
    (ps.push v).masked = ⟨ps.style, ps.masked.items ++ [⟨ps.next, .null, none⟩]⟩ := by
  simp [masked, Param.masked, push, append]

/-- One more value on each side, whichever they are. -/
theorem masked_push_eq {ps ps' : Parameters} (h : ps.masked = ps'.masked) (v v' : Value) :
    (ps.push v).masked = (ps'.push v').masked := by
  rw [masked_push, masked_push, h, style_eq_of_masked h, next_eq_of_masked h]

end Parameters

/-! ## Drafts that cannot be told apart -/

namespace Draft

variable {α β : Type}

/-- **Indistinguishable drafts.**  Started on parameters that look alike behind the mask, both fail
for the same reason or both succeed with the same piece, and the parameters look alike again. -/
def Indistinguishable (d d' : Draft α) : Prop :=
  ∀ ps ps' : Parameters, ps.masked = ps'.masked →
    (d.run ps).1 = (d'.run ps').1 ∧ (d.run ps).2.masked = (d'.run ps').2.masked

namespace Indistinguishable

theorem pure (a : α) : Indistinguishable (Pure.pure a) (Pure.pure a) :=
  fun _ _ h => ⟨rfl, h⟩

theorem throw (e : Error) : Indistinguishable (MonadExcept.throw e : Draft α) (MonadExcept.throw e) :=
  fun _ _ h => ⟨rfl, h⟩

theorem ofExcept : ∀ r : Except Error α, Indistinguishable (Draft.ofExcept r) (Draft.ofExcept r)
  | .ok a => pure a
  | .error e => throw e

/-- The placeholder does not depend on the value that it stands for. -/
theorem place (v v' : Value) : Indistinguishable (Draft.place v) (Draft.place v') := by
  intro ps ps' h
  rw [run_place, run_place]
  exact ⟨congrArg Except.ok (Parameters.next_eq_of_masked h), Parameters.masked_push_eq h v v'⟩

/-- Sequences of indistinguishable drafts are indistinguishable.  The second parts get the same
piece from the first, so it is enough to compare them at equal pieces. -/
theorem bind {d d' : Draft α} {f f' : α → Draft β} (h : Indistinguishable d d')
    (hf : ∀ a, Indistinguishable (f a) (f' a)) : Indistinguishable (d >>= f) (d' >>= f') := by
  intro ps ps' hps
  obtain ⟨hout, hleft⟩ := h ps ps' hps
  rw [run_bind, run_bind]
  rcases hd : d.run ps with ⟨e | a, qs⟩ <;> rcases hd' : d'.run ps' with ⟨e' | a', qs'⟩ <;>
    rw [hd, hd'] at hout hleft
  · exact ⟨congrArg Except.error (Except.error.inj hout), hleft⟩
  · exact absurd hout (by simp)
  · exact absurd hout (by simp)
  · obtain rfl := Except.ok.inj hout
    exact hf a qs qs' hleft

theorem map {d d' : Draft α} (f : α → β) (h : Indistinguishable d d') :
    Indistinguishable (f <$> d) (f <$> d') := by
  rw [map_eq_pure_bind, map_eq_pure_bind]
  exact h.bind fun a => pure (f a)

theorem symm {d d' : Draft α} (h : Indistinguishable d d') : Indistinguishable d' d := by
  intro ps ps' hps
  obtain ⟨hout, hleft⟩ := h ps' ps hps.symm
  exact ⟨hout.symm, hleft.symm⟩

/-- Drafts that no text tells from a third one are not told from each other. -/
theorem trans {d d' d'' : Draft α} (h : Indistinguishable d d') (h' : Indistinguishable d' d'') :
    Indistinguishable d d'' := by
  intro ps ps' hps
  obtain ⟨hout, hleft⟩ := h ps ps' hps
  obtain ⟨hout', hleft'⟩ := h' ps' ps' rfl
  exact ⟨hout.trans hout', hleft.trans hleft'⟩

end Indistinguishable

end Draft

/-! ## Predicates

A predicate is compared with its own mask.  Two predicates with the same mask are then compared
through it.
-/

/-- A leaf cannot be told from its mask: it branches on the absence of its value only. -/
theorem Condition.draft_masked (t : Table) (d : Dialect) (c : Condition) :
    (c.draft t d).Indistinguishable (c.masked.draft t d) := by
  rw [draft, draft]
  refine Draft.Indistinguishable.bind (.ofExcept _) fun column => ?_
  simp only [masked, Value.isNull_masked]
  split
  · split
    · exact .pure _
    · exact .pure _
    · exact .throw _
  · exact .bind (.place _ _) fun _ => .pure _

namespace Predicate

variable (t : Table) (d : Dialect)

mutual

/-- A condition has the text of the one with its values masked: only null shows. -/
theorem draft_masked : ∀ p : Predicate, (p.draft t d).Indistinguishable (p.masked.draft t d)
  | field c => by
      rw [masked, draft, draft]
      exact c.draft_masked t d
  | group op [] => by
      rw [masked, maskedAll]
      exact Draft.Indistinguishable.pure _
  | group op (p :: ps) => by
      rw [masked, maskedAll, draft, draft]
      refine (draft_masked p).bind fun first => ?_
      exact (draftAll_masked ps).bind fun rest => .pure _

theorem draftAll_masked :
    ∀ ps : List Predicate, (draftAll t d ps).Indistinguishable (draftAll t d (maskedAll ps))
  | [] => Draft.Indistinguishable.pure _
  | p :: ps => by
      rw [maskedAll, draftAll, draftAll]
      refine (draft_masked p).bind fun first => ?_
      exact (draftAll_masked ps).bind fun rest => .pure _

end

/-- Two predicates with the same mask are drafted alike. -/
theorem draft_indistinguishable {p p' : Predicate} (h : p.masked = p'.masked) :
    (p.draft t d).Indistinguishable (p'.draft t d) := by
  have hp := draft_masked t d p
  rw [h] at hp
  exact hp.trans (draft_masked t d p').symm

end Predicate

/-! ## Statements -/

/-- As many values give as many placeholders. -/
theorem Draft.placeAll_indistinguishable {vs vs' : List Value} (h : vs.length = vs'.length) :
    (placeAll vs).Indistinguishable (placeAll vs') := by
  induction vs generalizing vs' with
  | nil =>
      rw [List.length_eq_zero_iff.mp h.symm]
      exact .pure _
  | cons v vs ih =>
      obtain ⟨v', vs', rfl⟩ := List.exists_cons_of_length_eq_add_one h.symm
      rw [placeAll, placeAll]
      refine (Indistinguishable.place v v').bind fun first => ?_
      exact (ih (Nat.succ.inj h)).bind fun rest => .pure _

namespace Generator

variable (g : Generator) (t : Table)

/-- Whether there is a condition shows, and its values do not. -/
theorem whereClause_indistinguishable {p p' : Option Predicate}
    (h : p.map Predicate.masked = p'.map Predicate.masked) :
    (g.whereClause t p).Indistinguishable (g.whereClause t p') := by
  rcases p with _ | p <;> rcases p' with _ | p'
  · exact .pure _
  · exact absurd h (by simp)
  · exact absurd h (by simp)
  · refine (Predicate.draft_indistinguishable t g.dialect (Option.some.inj h)).bind fun c => ?_
    exact .pure _

theorem select_indistinguishable {p p' : Option Predicate} (order : List SortKey)
    (h : p.map Predicate.masked = p'.map Predicate.masked) :
    (g.select t p order).Indistinguishable (g.select t p' order) := by
  rw [select, select]
  refine (g.whereClause_indistinguishable t h).bind fun condition => ?_
  split
  · exact .pure _
  · exact .bind (.ofExcept _) fun items => .pure _

theorem selectSet_indistinguishable {p p' : Option Predicate} (order : List SortKey)
    (first count : UInt64) (h : p.map Predicate.masked = p'.map Predicate.masked) :
    (g.selectSet t p order first count).Indistinguishable
      (g.selectSet t p' order first count) := by
  have hrest : ∀ orderText : String, Draft.Indistinguishable
      (do
        let condition ← g.whereClause t p
        return g.selectFrom t ++ condition ++ " ORDER BY " ++ orderText ++ " " ++
          g.dialect.limitClause first count)
      (do
        let condition ← g.whereClause t p'
        return g.selectFrom t ++ condition ++ " ORDER BY " ++ orderText ++ " " ++
          g.dialect.limitClause first count) :=
    fun orderText => (g.whereClause_indistinguishable t h).bind fun condition => .pure _
  rw [selectSet, selectSet]
  split
  · exact .bind (.pure _) hrest
  · exact .bind (.map _ (.ofExcept _)) hrest

theorem count_indistinguishable {p p' : Option Predicate}
    (h : p.map Predicate.masked = p'.map Predicate.masked) :
    (g.count t p).Indistinguishable (g.count t p') :=
  (g.whereClause_indistinguishable t h).bind fun _ => .pure _

theorem delete_indistinguishable {p p' : Option Predicate}
    (h : p.map Predicate.masked = p'.map Predicate.masked) :
    (g.delete t p).Indistinguishable (g.delete t p') :=
  (g.whereClause_indistinguishable t h).bind fun _ => .pure _

/-- The text of an insert is made from the columns of the cells, which the two rows share. -/
theorem insert_indistinguishable {row row' : List Value} (h : row.length = row'.length) :
    (g.insert t row).Indistinguishable (g.insert t row') := by
  have hcolumns := Table.map_cells_congr t Column.isInsertable g.columnName h
  have hlength := Table.length_cells_congr t Column.isInsertable h
  have hempty := Table.isEmpty_cells_congr t Column.isInsertable h
  simp only [Table.cells] at hcolumns hlength hempty
  unfold insert
  simp only [hempty, hcolumns]
  split
  · exact .pure _
  · exact (Draft.placeAll_indistinguishable (by simpa using hlength)).bind fun _ => .pure _

/-- Of a row only the length shows. -/
theorem placeRow_indistinguishable {row row' : List Value} (h : row.length = row'.length) :
    ∀ cells : List (Column × Nat),
      (placeRow t row cells).Indistinguishable (placeRow t row' cells)
  | [] => .pure _
  | (c, i) :: cells => by
      rw [placeRow, placeRow]
      rcases hv : row[i]? with _ | v <;> rcases hv' : row'[i]? with _ | v'
      · exact .throw _
      · rw [List.getElem?_eq_none_iff, h, ← List.getElem?_eq_none_iff, hv'] at hv
        exact absurd hv (by simp)
      · rw [List.getElem?_eq_none_iff, ← h, ← List.getElem?_eq_none_iff, hv] at hv'
        exact absurd hv' (by simp)
      · refine (Draft.Indistinguishable.place v v').bind fun first => ?_
        exact (placeRow_indistinguishable h cells).bind fun others => .pure _

theorem placeRows_indistinguishable {rows rows' : List (List Value)}
    (h : rows.map List.length = rows'.map List.length) :
    (placeRows t rows).Indistinguishable (placeRows t rows') := by
  induction rows generalizing rows' with
  | nil =>
      rw [List.map_eq_nil_iff.mp h.symm]
      exact .pure _
  | cons row rows ih =>
      obtain ⟨row', rows', rfl, hrow, hrows⟩ := List.map_eq_cons_iff.mp h.symm
      rw [placeRows, placeRows]
      refine (placeRow_indistinguishable t hrow.symm _).bind fun cells => ?_
      exact (ih hrows.symm).bind fun others => .pure _

theorem insertRows_indistinguishable {rows rows' : List (List Value)}
    (h : rows.map List.length = rows'.map List.length) :
    (g.insertRows t rows).Indistinguishable (g.insertRows t rows') := by
  have hempty : rows.isEmpty = rows'.isEmpty := by
    have hmap := congrArg List.isEmpty h
    rw [List.isEmpty_map, List.isEmpty_map] at hmap
    exact hmap
  rw [insertRows, insertRows, hempty]
  split
  · exact .pure _
  · exact (placeRows_indistinguishable t h).bind fun tuples => .pure _

/-- The assignments of an update are made from the columns of the cells and the placeholders. -/
theorem update_indistinguishable {p p' : Predicate} {row row' : List Value}
    (hp : p.masked = p'.masked) (h : row.length = row'.length) :
    (g.update t p row).Indistinguishable (g.update t p' row') := by
  have hcolumns := Table.map_cells_congr t Column.isUpdatable g.columnName h
  have hlength := Table.length_cells_congr t Column.isUpdatable h
  have hempty := Table.isEmpty_cells_congr t Column.isUpdatable h
  have hassign : ∀ (r : List Value) (placeholders : List String),
      (t.cells Column.isUpdatable r).zipWith
          (fun cell ph => g.columnName cell.1 ++ " = " ++ ph) placeholders
        = ((t.cells Column.isUpdatable r).map fun cell => g.columnName cell.1).zipWith
            (fun name ph => name ++ " = " ++ ph) placeholders :=
    fun r placeholders => by rw [List.zipWith_map_left]
  simp only [Table.cells] at hcolumns hlength hempty hassign
  unfold update
  simp only [hempty, hassign, hcolumns]
  refine (Draft.placeAll_indistinguishable (by simpa using hlength)).bind fun placeholders => ?_
  split
  · exact .throw _
  · exact (Predicate.draft_indistinguishable t g.dialect hp).bind fun condition => .pure _

end Generator

/-- **Bound values stay out of the text.**  Take two runs of a statement on parameters that look
alike behind the mask.  The predicates may differ in what their values are, though not in which
are absent, and the rows may hold any values of the same number.  Then the two runs fail for the
same reason, or give the same text and leave the same placeholders behind. -/
theorem drafts_indistinguishable (g : Generator) (t : Table) (order : List SortKey) (page : Page)
    (first count : UInt64) {p p' : Option Predicate} {q q' : Predicate} {row row' : List Value}
    {rows rows' : List (List Value)} (hp : p.map Predicate.masked = p'.map Predicate.masked)
    (hq : q.masked = q'.masked) (hrow : row.length = row'.length)
    (hrows : rows.map List.length = rows'.map List.length) :
    (g.select t p order).Indistinguishable (g.select t p' order)
      ∧ (g.selectPage t p order page).Indistinguishable (g.selectPage t p' order page)
      ∧ (g.selectSet t p order first count).Indistinguishable
          (g.selectSet t p' order first count)
      ∧ (g.count t p).Indistinguishable (g.count t p')
      ∧ (g.insert t row).Indistinguishable (g.insert t row')
      ∧ (g.insertRows t rows).Indistinguishable (g.insertRows t rows')
      ∧ (g.update t q row).Indistinguishable (g.update t q' row')
      ∧ (g.delete t p).Indistinguishable (g.delete t p') :=
  ⟨g.select_indistinguishable t order hp,
    g.selectSet_indistinguishable t order page.firstResult page.size hp,
    g.selectSet_indistinguishable t order first count hp,
    g.count_indistinguishable t hp,
    g.insert_indistinguishable t hrow,
    g.insertRows_indistinguishable t hrows,
    g.update_indistinguishable t hq hrow,
    g.delete_indistinguishable t hp⟩

/-- Plain values on one side, values that try to end the statement on the other. -/
theorem drafts_indistinguishable_users :
    let g := Generator.ofDialect .postgresql
    let plain := Predicate.group .or [.eq "Name" (.text "Ann"), (Predicate.eq "age" .null).not]
    let hostile := Predicate.group .or
      [.eq "Name" (.text "') OR (1=1); --"), (Predicate.eq "age" .null).not]
    let row := [Value.null, .text "Bob", .null, .integer 30, .null]
    let row' := [Value.integer 1, .text "$1'; DROP TABLE users", .blob [0], .null, .bool false]
    (some plain).map Predicate.masked = (some hostile).map Predicate.masked
      ∧ row.length = row'.length
      ∧ [row, row'].map List.length = [row', row].map List.length
      ∧ (g.select Table.users (some plain) []).Indistinguishable
          (g.select Table.users (some hostile) [])
      ∧ (g.insertRows Table.users [row, row']).Indistinguishable
          (g.insertRows Table.users [row', row])
      ∧ (g.update Table.users plain row).Indistinguishable
          (g.update Table.users hostile row') := by
  intro g plain hostile row row'
  have hp : (some plain).map Predicate.masked = (some hostile).map Predicate.masked := rfl
  have hrow : row.length = row'.length := rfl
  have hrows : [row, row'].map List.length = [row', row].map List.length := rfl
  have h := drafts_indistinguishable g Table.users [] ⟨0, 10⟩ 0 10 hp (Option.some.inj hp) hrow hrows
  exact ⟨hp, hrow, hrows, h.1, h.2.2.2.2.2.1, h.2.2.2.2.2.2.1⟩

end SqlRecords
