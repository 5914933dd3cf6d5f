import Mathlib.Data.List.Forall2
import SqlRecords.ClassMap.Materialize
import SqlRecords.Proofs.ClassMap.Accepted

/-!
# Records read back

A record is written and asked for by the names of its columns.  It is read back by places: the
columns of a result set are looked up once, and every row fills the slots of the properties one after
another, where a property without a column has an empty slot.  A lookup that took another column, or
a slot that is moved by one, would put the value of one property into another.

Neither happens if no two columns share a name.  The column of a property is the only one with its
name, so its value is found wherever it stands (`ClassMap.get?_of_laysOut`).  And slots are made from
the list of properties itself, so the induction that fills them goes along with that list
(`ClassMap.exists_assignSlots`).

* `ClassMap.Restores` — what is asked of the accessors.
* `ClassMap.LaysOut` — a row has the values of a record, in any order.
* `ClassMap.ReadBack` — a record has what another one had.
* **`ClassMap.materialize_readBack`** — rows become the records that they have the values of.
-/

namespace SqlRecords

/-! ## Lookup by name -/

/-- The first cell of a row that has the name. -/
def Row.cell? (row : Row) (name : String) : Option (String × Value) :=
  (row.columns.zip row.values).find? fun cell => Text.sameName cell.1 name

/-- The value of a column is that of the first cell with its name. -/
theorem Row.get?_eq (row : Row) (name : String) : row.get? name = (row.cell? name).map Prod.snd := by
  obtain ⟨columns, values⟩ := row
  rw [cell?]
  induction columns generalizing values with
  | nil => rfl
  | cons c columns ih =>
      have hget : (⟨c :: columns, values⟩ : Row).get? name
          = (columnPosition? (c :: columns) name).bind (values[·]?) := rfl
      rw [hget, columnPosition?, List.findIdx?_cons]
      cases values with
      | nil => exact Option.bind_fun_none _
      | cons v values =>
          rw [List.zip_cons_cons, List.find?_cons]
          cases hsame : Text.sameName c name with
          | true => rfl
          | false =>
              rw [← ih values, if_neg nofun, Option.bind_map]
              rfl

/-- No two of the columns that rows of the table have share a name. -/
def Table.NamesDistinct (t : Table) : Prop :=
  t.mapped.Pairwise fun c c' => ¬ Text.sameName c.name c'.name

theorem Table.NamesDistinct.eq {t : Table} (h : t.NamesDistinct) {c c' : Column}
    (hc : c ∈ t.mapped) (hc' : c' ∈ t.mapped) (hsame : Text.sameName c.name c'.name) : c = c' :=
  Text.eq_of_sameName h hc hc' hsame

namespace ClassMap

variable {α : Type} {m : ClassMap α}

/-! ## Slots -/

/-- A value that a property has in one record can be put into every record, and that changes no other
property. -/
def Restores (m : ClassMap α) : Prop :=
  ∀ p ∈ m.properties, ∀ a b, ∃ b', p.set b (p.get a) = .ok b' ∧ p.get b' = p.get a
    ∧ ∀ q ∈ m.properties, q.column.property ≠ p.column.property → q.get b' = q.get b

/-- The slots of some properties are filled one after another.  The properties to come keep what they
have, and those that are done keep what they were given. -/
theorem exists_assignSlots (hrestores : m.Restores) (a : α) {ps : List (Property α)}
    (hps : ∀ p ∈ ps, p ∈ m.properties)
    (hdistinct : ps.Pairwise fun p q => ¬ Text.sameName p.column.property q.column.property)
    {slot : Property α → Option Value}
    (hslot : ∀ p ∈ ps, slot p = if p.column.ignored then none else some (p.get a)) (b : α) :
    ∃ b', assignSlots (ps.map Property.toAccessor) (ps.map slot) b = (.ok (), b')
      ∧ (∀ p ∈ ps, p.get b' = if p.column.ignored then p.get b else p.get a)
      ∧ ∀ q ∈ m.properties, (∀ p ∈ ps, q.column.property ≠ p.column.property) →
          q.get b' = q.get b := by
  induction ps generalizing b with
  | nil => exact ⟨b, rfl, by simp, fun _ _ _ => rfl⟩
  | cons p ps ih =>
      obtain ⟨hp, hps⟩ := List.forall_mem_cons.mp hps
      obtain ⟨hfirst, hdistinct⟩ := List.pairwise_cons.mp hdistinct
      obtain ⟨hslot, hslots⟩ := List.forall_mem_cons.mp hslot
      have hne : ∀ q ∈ ps, p.column.property ≠ q.column.property :=
        fun q hq heq => hfirst q hq (Text.sameName_of_eq heq)
      rw [List.map_cons, List.map_cons, hslot]
      cases hignored : p.column.ignored with
      | true =>
          obtain ⟨b', hrun, hdone, hkept⟩ := ih hps hdistinct hslots b
          refine ⟨b', hrun, List.forall_mem_cons.mpr ⟨?_, hdone⟩, ?_⟩
          · simpa [hignored] using hkept p hp hne
          · exact fun q hq hother => hkept q hq (List.forall_mem_cons.mp hother).2
      | false =>
          obtain ⟨c, hset, hget, hframe⟩ := hrestores p hp a b
          obtain ⟨b', hrun, hdone, hkept⟩ := ih hps hdistinct hslots c
          refine ⟨b', ?_, List.forall_mem_cons.mpr ⟨?_, fun q hq => ?_⟩, fun q hq hother => ?_⟩
          · simp only [Bool.false_eq_true, if_false, assignSlots, hset, hrun]
          · simpa [hignored, hget] using hkept p hp hne
          · rw [hdone q hq, hframe q (hps q hq) (hne q hq).symm]
          · obtain ⟨hotherp, hother⟩ := List.forall_mem_cons.mp hother
            rw [hkept q hq hother, hframe q hq hotherp]

/-! ## Rows with the values of a record -/

/-- The columns that rows of the table have, each with the value of a record. -/
def mappedCells (m : ClassMap α) (a : α) : List (Column × Value) :=
  m.table.cells (fun c => !c.ignored) (m.values a)

theorem mem_mappedCells {p : Property α} (hp : p ∈ m.properties)
    (hmapped : p.column.ignored = false) (a : α) : (p.column, p.get a) ∈ m.mappedCells a := by
  rw [mappedCells]
  exact mem_cells hp (by simp [hmapped]) a

theorem mem_mapped {p : Property α} (hp : p ∈ m.properties) (hmapped : p.column.ignored = false) :
    p.column ∈ m.table.mapped :=
  List.mem_filter.mpr ⟨column_mem hp, by simp [hmapped]⟩

/-- A row has the values of a record under the names of their columns, in any order and in any case
of their letters.  There may be further columns, if they have none of these names. -/
def LaysOut (m : ClassMap α) (columns : List String) (a : α) (row : List Value) : Prop :=
  ∃ (spelling : Column → String) (further : List (String × Value)),
    (columns.zip row).Perm
        ((m.mappedCells a).map (fun cell => (spelling cell.1, cell.2)) ++ further)
      ∧ (∀ c ∈ m.table.mapped, Text.sameName (spelling c) c.name)
      ∧ ∀ cell ∈ further, ∀ c ∈ m.table.mapped, ¬ Text.sameName cell.1 c.name

section Declared

variable {entity : String} {steps : List (Declaration α)} (h : declare entity steps = .ok m)

include h

/-- The value of a property is found under the name of its column, wherever it stands. -/
theorem get?_of_laysOut (hnames : m.table.NamesDistinct) {a : α} {columns : List String}
    {row : List Value} (hrow : m.LaysOut columns a row) {p : Property α} (hp : p ∈ m.properties)
    (hmapped : p.column.ignored = false) :
    (⟨columns, row⟩ : Row).get? p.column.name = some (p.get a) := by
  obtain ⟨spelling, further, hperm, hspelling, hfurther⟩ := hrow
  have hcolumn : p.column ∈ m.table.mapped := mem_mapped hp hmapped
  rw [Row.get?_eq]
  cases hfind : (⟨columns, row⟩ : Row).cell? p.column.name with
  | none =>
      have hown : (spelling p.column, p.get a) ∈ columns.zip row :=
        hperm.mem_iff.mpr (List.mem_append_left further
          (List.mem_map_of_mem (mem_mappedCells hp hmapped a)))
      exact absurd (hspelling p.column hcolumn) (List.find?_eq_none.mp hfind _ hown)
  | some cell =>
      have hsame : Text.sameName cell.1 p.column.name := by
        simpa using List.find?_some hfind
      -- The cell is one of the record, and only the column of `p` has this name.
      rcases List.mem_append.mp (hperm.mem_iff.mp (List.mem_of_find?_eq_some hfind)) with
        hown | hother
      · obtain ⟨written, hwritten, rfl⟩ := List.mem_map.mp hown
        obtain ⟨q, hq, hqmapped, rfl⟩ := exists_property_of_mem_cells hwritten
        have hq' : q.column ∈ m.table.mapped :=
          List.mem_filter.mpr ⟨column_mem hq, hqmapped⟩
        have hname : Text.sameName q.column.name p.column.name := by
          refine Text.sameName_trans ?_ hsame
          rw [Text.sameName_comm]
          exact hspelling q.column hq'
        have heq : q.column = p.column := hnames.eq hq' hcolumn hname
        rw [property_eq_of_declare h hq hp (congrArg Column.property heq)]
        rfl
      · exact absurd hsame (hfurther cell hother p.column hcolumn)

end Declared

/-! ## Reading -/

/-- The record has the values of `a` in the properties with a column, and those of a fresh record in
the others. -/
structure ReadBack (m : ClassMap α) (fresh a b : α) : Prop where
  mapped : ∀ p ∈ m.properties, p.column.ignored = false → p.get b = p.get a
  ignored : ∀ p ∈ m.properties, p.column.ignored = true → p.get b = p.get fresh

section Declared

variable {entity : String} {steps : List (Declaration α)} (h : declare entity steps = .ok m)

include h

/-- One row becomes the record that it has the values of. -/
theorem exists_readRow (hnames : m.table.NamesDistinct) (hrestores : m.Restores) {a : α}
    {columns : List String} {row : List Value} (hrow : m.LaysOut columns a row) (fresh : α) :
    ∃ b, m.readRow fresh (m.positions columns) row = .ok b ∧ m.ReadBack fresh a b := by
  let slot : Property α → Option Value := fun p =>
    (if p.column.ignored then none else columnPosition? columns p.column.name).bind (row[·]?)
  have hslot : ∀ p ∈ m.properties, slot p = if p.column.ignored then none else some (p.get a) := by
    intro p hp
    cases hignored : p.column.ignored with
    | true => simp [slot, hignored]
    | false =>
        simp only [slot, hignored, Bool.false_eq_true, if_false]
        exact get?_of_laysOut h hnames hrow hp hignored
  have hslots : (m.positions columns).map (fun place => place.bind (row[·]?))
      = m.properties.map slot := by
    rw [positions_eq, List.map_map]
    rfl
  obtain ⟨b, hrun, hdone, -⟩ :=
    exists_assignSlots hrestores a (fun _ hp => hp) (pairwise_of_declare h) hslot fresh
  refine ⟨b, ?_, fun p hp hmapped => ?_, fun p hp hignored => ?_⟩
  · rw [readRow, hslots, assign, if_neg (by simp [m.length_properties]),
      ← m.properties_map_accessor, hrun]
  · simpa [hmapped] using hdone p hp
  · simpa [hignored] using hdone p hp

theorem exists_readRows (hnames : m.table.NamesDistinct) (hrestores : m.Restores) {as : List α}
    {columns : List String} {rows : List (List Value)}
    (hrows : List.Forall₂ (m.LaysOut columns) as rows) (fresh : α) :
    ∃ bs, m.readRows fresh (m.positions columns) rows = .ok bs
      ∧ List.Forall₂ (m.ReadBack fresh) as bs := by
  induction hrows with
  | nil => exact ⟨[], rfl, .nil⟩
  | cons hrow hrows ih =>
      obtain ⟨b, hfirst, hread⟩ := exists_readRow h hnames hrestores hrow fresh
      obtain ⟨bs, hrest, hreads⟩ := ih
      refine ⟨b :: bs, ?_, .cons hread hreads⟩
      rw [readRows, hfirst, hrest]
      rfl

/-- **What was written is read back.**  For every class map that can be declared, whose columns have
different names and whose accessors restore what they gave: a result set whose rows have the values
of some records, under the names of their columns, becomes as many records, in the same order, and
each has the values of its own in all properties with a column, and the fresh ones in the others.
Neither the order of the columns nor further columns among them matter. -/
theorem materialize_readBack (hnames : m.table.NamesDistinct) (hrestores : m.Restores)
    {as : List α} {set : ResultSet} (hrows : List.Forall₂ (m.LaysOut set.columns) as set.rows)
    (fresh : α) :
    ∃ bs, m.materialize fresh set = .ok bs ∧ List.Forall₂ (m.ReadBack fresh) as bs :=
  exists_readRows h hnames hrestores hrows fresh

end Declared

/-! ## Memos with numbered rows -/

/-- A memo: its draft has no column, and stands between the properties that do. -/
structure Memo where
  number : Int64
  draft : Value
  body : Value
deriving DecidableEq

/-- Numbers the memo, if the value is a number. -/
def Memo.setNumber (a : Memo) : Value → Except Error Memo
  | .integer n => .ok { a with number := n }
  | v => .error (.conversion v (.int .int64))

/-- The class map of memos. -/
def Memo.steps : List (Declaration Memo) :=
  [.property "Number" .identity (fun a => .integer a.number) Memo.setNumber,
    .property "Draft" .notAKey Memo.draft fun a v => .ok { a with draft := v }, .ignored,
    .property "Body" .notAKey Memo.body fun a v => .ok { a with body := v },
    .columnName "memo_text"]

/-- Two memos, of which the first has a draft. -/
def twoMemos : List Memo := [⟨7, .text "mil", .text "milk"⟩, ⟨8, .null, .null⟩]

/-- The rows of the memos, numbered, with the body in front. -/
def numberedMemos : ResultSet :=
  ⟨["MEMO_TEXT", "row_num", "number"],
    [[.text "milk", .integer 1, .integer 7], [.null, .integer 2, .integer 8]]⟩

theorem memos_properties {m : ClassMap Memo} (hm : declare "Memo" Memo.steps = .ok m) :
    m.properties =
      [⟨⟨fun a => .integer a.number, Memo.setNumber⟩, .ofProperty "Number" .identity⟩,
        ⟨⟨Memo.draft, fun a v => .ok { a with draft := v }⟩,
          { Column.ofProperty "Draft" .notAKey with ignored := true }⟩,
        ⟨⟨Memo.body, fun a v => .ok { a with body := v }⟩,
          { Column.ofProperty "Body" .notAKey with name := "memo_text" }⟩] := by
  obtain rfl := Except.ok.inj hm
  rfl

theorem memos_restores {m : ClassMap Memo} (hm : declare "Memo" Memo.steps = .ok m) :
    m.Restores := by
  intro p hp a b
  simp only [memos_properties hm, List.mem_cons, List.not_mem_nil, or_false] at hp ⊢
  rcases hp with rfl | rfl | rfl
  all_goals
    refine ⟨_, rfl, rfl, ?_⟩
    rintro q (rfl | rfl | rfl) hne
    all_goals first | rfl | exact absurd rfl hne

theorem memos_layOut {m : ClassMap Memo} (hm : declare "Memo" Memo.steps = .ok m) :
    List.Forall₂ (m.LaysOut numberedMemos.columns) twoMemos numberedMemos.rows := by
  obtain rfl := Except.ok.inj hm
  let spelling : Column → String := fun c => if c.property = "Body" then "MEMO_TEXT" else "number"
  refine .cons ⟨spelling, [("row_num", .integer 1)], ?_, ?_, ?_⟩
    (.cons ⟨spelling, [("row_num", .integer 2)], ?_, ?_, ?_⟩ .nil)
  all_goals decide +kernel

/-- The memos come back without the draft, whatever stands between their columns. -/
theorem materialize_readBack_memos :
    let fresh : Memo := ⟨0, .null, .null⟩
    ∃ m, declare "Memo" Memo.steps = .ok m ∧ m.table.NamesDistinct ∧ m.Restores
      ∧ List.Forall₂ (m.LaysOut numberedMemos.columns) twoMemos numberedMemos.rows
      ∧ (∃ bs, m.materialize fresh numberedMemos = .ok bs
        ∧ List.Forall₂ (m.ReadBack fresh) twoMemos bs)
      ∧ m.materialize fresh numberedMemos
        = .ok [⟨7, .null, .text "milk"⟩, ⟨8, .null, .null⟩] := by
  intro fresh
  obtain ⟨m, hm⟩ : ∃ m, declare "Memo" Memo.steps = .ok m := ⟨_, rfl⟩
  have hnames : m.table.NamesDistinct := by
    obtain rfl := Except.ok.inj hm
    rw [Table.NamesDistinct]
    decide +kernel
  refine ⟨m, hm, hnames, memos_restores hm, memos_layOut hm,
    materialize_readBack hm hnames (memos_restores hm) (memos_layOut hm) fresh, ?_⟩
  obtain rfl := Except.ok.inj hm
  rfl

end ClassMap

end SqlRecords
