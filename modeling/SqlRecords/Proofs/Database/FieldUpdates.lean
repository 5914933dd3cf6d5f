import SqlRecords.Database.Fragments
import SqlRecords.Proofs.Database.KeyedWrites
import SqlRecords.Proofs.Predicate.RoundTrip
import SqlRecords.Proofs.Predicate.Truth

/-!
# Updates of chosen fields

`Database.updateFields` writes the pairs that it matches into the statement, where every other filter
binds them.  The two conditions are about the same columns and the same values, so they select the
same rows as long as an equation between a column and a constant says what the filter says.

It does not for a null: a filter tests for absence, but `column=null` is true of no row.  And it does
not for a whole real of more than 53 bits, which is written as a whole number near it.

* `Database.FieldUpdate` — what is known of both conditions.
* **`Database.exists_fieldUpdate`** — it holds wherever the names and the values can be written.
* **`Database.fieldUpdate_null_misses`** — the row that is left out.
-/

namespace SqlRecords

/-! ## Both conditions -/

/-- A name holds none of the characters that end a quoted name. -/
theorem Expr.IsName.not_mem {name : String} (h : IsName name) {c : Char}
    (hc : Token.isNamePart c = false) : c ∉ name.toList := by
  have hword := h.word
  cases hcs : name.toList with
  | nil => exact List.not_mem_nil
  | cons d cs =>
      rw [hcs, Token.isWord, Bool.and_eq_true, List.all_eq_true] at hword
      rintro (_ | ⟨_, hmem⟩)
      · rw [Token.isNamePart, hword.1, Bool.true_or, Bool.true_or] at hc
        exact absurd hc (by decide)
      · exact absurd (hword.2 c hmem) (by simp [hc])

theorem Dialect.isNamePart_closeQuote (d : Dialect) : Token.isNamePart d.closeQuote = false := by
  cases d <;> decide

section Keys

variable {e : Engine} {row : StoredRow} {keys : List (Column × Value)}

theorem Column.truth_matching_of_ne {c : Column} {v : Value} (hv : v ≠ .null) :
    (c.matching v).truth e row = e.compare .eq (row c.name) v.toStorage := by
  have hnull : v.isNull = false := by cases v <;> first | rfl | exact absurd rfl hv
  rw [matching, hnull]
  rfl

theorem SearchCondition.truth_ofKeys (hne : keys ≠ []) :
    (ofKeys keys).truth e row = .true
      ↔ ∀ key ∈ keys, (key.1.matching key.2).truth e row = .true := by
  match keys, hne with
  | [key], _ => simp [ofKeys]
  | key :: key' :: keys, _ =>
      show Truth.all (truths e row _) = .true ↔ _
      rw [truths_eq_map, List.map_map, Truth.all_eq_true_iff, List.forall_mem_map]
      rfl

theorem Column.columns_matching (c : Column) (v : Value) : (c.matching v).columns = [c.name] := by
  rw [matching]
  split <;> rfl

theorem SearchCondition.columnsOfAll_matching (keys : List (Column × Value)) :
    columnsOfAll (keys.map fun key => key.1.matching key.2) = keys.map fun key => key.1.name := by
  induction keys with
  | nil => rfl
  | cons key keys ih =>
      rw [List.map_cons, columnsOfAll, Column.columns_matching, ih]
      rfl

theorem SearchCondition.columns_ofKeys (keys : List (Column × Value)) :
    (ofKeys keys).columns = keys.map fun key => key.1.name := by
  match keys with
  | [] => rfl
  | [key] => exact key.1.columns_matching key.2
  | key :: key' :: keys => exact columnsOfAll_matching (key :: key' :: keys)

/-- Equations between the columns and constants are true of a row if every column holds the constant. -/
theorem Equation.all_truth_iff (f : Value → StorageValue) :
    Truth.all ((keys.map fun key => Equation.mk key.1.name (f key.2)).map (Equation.truth e row)) = .true
      ↔ ∀ key ∈ keys, e.compare .eq (row key.1.name) (f key.2) = .true := by
  rw [List.map_map, Truth.all_eq_true_iff, List.forall_mem_map]
  rfl

end Keys

namespace Database

variable {σ ι : Type} {E : ι → Type} (db : Database σ ι E)

/-- The update of some fields, where a condition is satisfied. -/
def fieldUpdateSql (t : Table) (pairs : List (String × Value)) (condition : String) : String :=
  "update " ++ db.generator.tableName t ++ " set " ++ ",".intercalate (pairs.map (literalPair t))
    ++ " where " ++ condition

/-- What is known of an update of chosen fields.  The text `condition` is what it writes for the pairs
that it matches, and `c` is the filter by the same pairs. -/
structure FieldUpdate [DecidableEq ι] (s : Session σ ι E) (i : ι) (m : ClassMap (E i))
    (assigned matching : FieldSet) (condition : String) (qs : List Equation)
    (c : SearchCondition Value) : Prop where
  sends : ∃ s', (db.updateFields i assigned matching).run s
        = ((db.connection.execute (db.command (db.fieldUpdateSql m.table
            (assigned.fields.filter fun p => !matching.contains p.1) condition)
            db.generator.parameters) s.backend).1, s')
      ∧ s'.calls = s.calls ++ [.execute (db.command (db.fieldUpdateSql m.table
            (assigned.fields.filter fun p => !matching.contains p.1) condition)
            db.generator.parameters)]
  reads : Equation.readAll? condition = some qs
  /-- The filter, as it is read from the text and the parameters that are drafted for it. -/
  filters : ∃ p sql ps, (Filter.byExample matching).predicate? = some p
      ∧ (p.draft m.table db.generator.dialect).run db.generator.parameters = (.ok sql, ps)
      ∧ (Reading.read? db.generator.dialect sql).bind (·.supplied? ps.items) = some c
  /-- Without a null, and with exact digits, the condition is true of the same rows. -/
  agrees : (∀ pair ∈ matching.fields, pair.2 ≠ .null ∧ pair.2.Exact) → ∀ e row,
    Truth.all (qs.map (Equation.truth e row)) = .true ↔ c.truth e row = .true
  /-- With a null, it is true of no row. -/
  misses : (∃ pair ∈ matching.fields, pair.2 = .null) → ∀ e row,
    Truth.all (qs.map (Equation.truth e row)) ≠ .true

variable {db} {t : Table} {pairs : List (String × Value)} {keys : List (Column × Value)}

/-! ## Names and values -/

theorem exists_names (h : ∀ pair ∈ pairs, ∃ c, t.column pair.1 = .ok c ∧ Expr.IsName c.name) :
    ∃ keys, List.Forall₂ t.Names pairs keys ∧ ∀ key ∈ keys, Expr.IsName key.1.name := by
  induction pairs with
  | nil => exact ⟨[], .nil, by simp⟩
  | cons pair pairs ih =>
      obtain ⟨hpair, hpairs⟩ := List.forall_mem_cons.mp h
      obtain ⟨c, hc, hname⟩ := hpair
      obtain ⟨keys, hkeys, hnames⟩ := ih hpairs
      exact ⟨(c, pair.2) :: keys, .cons ⟨hc, rfl⟩ hkeys, List.forall_mem_cons.mpr ⟨hname, hnames⟩⟩

theorem values_eq_of_names (h : List.Forall₂ t.Names pairs keys) :
    pairs.map Prod.snd = keys.map Prod.snd := by
  induction h with
  | nil => rfl
  | cons hkey _ ih => rw [List.map_cons, List.map_cons, hkey.2, ih]

theorem literalPairs_eq_of_names (h : List.Forall₂ t.Names pairs keys) :
    pairs.map (literalPair t) = keys.map fun key => key.1.name ++ "=" ++ key.2.literal := by
  induction h with
  | nil => rfl
  | cons hkey _ ih =>
      have hcolumn := hkey.1
      rw [Table.column] at hcolumn
      rw [List.map_cons, List.map_cons, ih, literalPair, hkey.2]
      split at hcolumn
      · rename_i c hc
        obtain rfl := Except.ok.inj hcolumn
        rw [hc]
        rfl
      · cases hcolumn

theorem readAll?_literals {f : Value → StorageValue} (hne : keys ≠ [])
    (hnames : ∀ key ∈ keys, Expr.IsName key.1.name)
    (hf : ∀ key ∈ keys, StorageValue.IsConstant key.2.literal.toList (f key.2)) :
    Equation.readAll? (" and ".intercalate (keys.map fun key => key.1.name ++ "=" ++ key.2.literal))
      = some (keys.map fun key => ⟨key.1.name, f key.2⟩) := by
  have hitems : ∀ item ∈ keys.map fun key =>
      (key.1.name ++ "=" ++ key.2.literal, Equation.mk key.1.name (f key.2)),
      Equation.IsTextOf item.1 item.2 := by
    intro item hitem
    obtain ⟨key, hkey, rfl⟩ := List.mem_map.mp hitem
    exact Equation.isTextOf (hnames key hkey) (hf key hkey)
  have hread := Equation.readAll?_intercalate (by simpa using hne) hitems
  rw [List.map_map, List.map_map] at hread
  exact hread

/-- The filter by the pairs is read back as the condition that every column has its value. -/
theorem read?_byExample (hne : keys ≠ []) (hkeys : List.Forall₂ t.Names pairs keys)
    (hnames : ∀ key ∈ keys, Expr.IsName key.1.name) (d : Dialect) (style : PlaceholderStyle) :
    ∃ p sql ps, (Filter.byExample ⟨pairs⟩).predicate? = some p
      ∧ (p.draft t d).run (.empty style) = (.ok sql, ps)
      ∧ (Reading.read? d sql).bind (·.supplied? ps.items) = some (.ofKeys keys) := by
  have hpairs : pairs ≠ [] := by
    rintro rfl
    exact hne (List.forall₂_nil_left_iff.mp hkeys)
  obtain ⟨p, hp⟩ := Filter.exists_predicate (f := .byExample ⟨pairs⟩) fun h =>
    hpairs (congrArg FieldSet.fields (Filter.byExample.inj h))
  have hresolve := Predicate.resolve_ofPairs hkeys hp
  have hclosing : ∀ name ∈ (SearchCondition.ofKeys keys).columns, d.closeQuote ∉ name.toList := by
    rw [SearchCondition.columns_ofKeys, List.forall_mem_map]
    exact fun key hkey => (hnames key hkey).not_mem d.isNamePart_closeQuote
  have hrun : (p.draft t d).run (.empty style)
      = (.ok (((SearchCondition.ofKeys keys).template d).fill style 0),
          (Parameters.empty style).pushAll (SearchCondition.ofKeys keys).operands) :=
    Predicate.run_draft_of_resolve hresolve d (.empty style)
  refine ⟨p, _, _, hp, hrun, ?_⟩
  rw [(SearchCondition.ofKeys keys).read?_fill style d 0 (p.fits hresolve).proper hclosing,
    Option.bind_some, Parameters.items_pushAll]
  exact (SearchCondition.ofKeys keys).supplied?_labelled style 0

section Update

variable [DecidableEq ι] {s : Session σ ι E} {i : ι} {m : ClassMap (E i)}
  {assigned matching : FieldSet}

theorem sends_updateFields (hm : db.mapOf s.cache i = .ok m)
    (hassigned : ∃ pair ∈ assigned.fields, matching.contains pair.1 = false)
    (hmatching : matching.fields ≠ []) :
    let c := db.command (db.fieldUpdateSql m.table
        (assigned.fields.filter fun p => !matching.contains p.1)
        (" and ".intercalate (matching.fields.map (literalPair m.table)))) db.generator.parameters
    ∃ s', (db.updateFields i assigned matching).run s
        = ((db.connection.execute c s.backend).1, s') ∧ s'.calls = s.calls ++ [.execute c] := by
  intro c
  have hpairs : (assigned.fields.filter fun p => !matching.contains p.1).isEmpty = false := by
    obtain ⟨pair, hpair, hother⟩ := hassigned
    rw [List.isEmpty_eq_false_iff_exists_mem]
    exact ⟨pair, List.mem_filter.mpr ⟨hpair, by rw [hother]; rfl⟩⟩
  have hsome : matching.isEmpty = false := by
    rw [FieldSet.isEmpty, List.isEmpty_eq_false_iff]
    exact hmatching
  obtain ⟨builds, hrun⟩ := db.run_classMap i s
  rw [hm] at hrun
  rw [updateFields, Action.run_bind_of_ok hrun]
  simp only [hpairs, hsome, Bool.false_eq_true, if_false]
  exact ⟨_, rfl, rfl⟩

/-- **Which rows an update of chosen fields changes.** -/
theorem exists_fieldUpdate (hm : db.mapOf s.cache i = .ok m)
    (hassigned : ∃ pair ∈ assigned.fields, matching.contains pair.1 = false)
    (hmatching : matching.fields ≠ [])
    (hnames : ∀ pair ∈ matching.fields,
      ∃ c, m.table.column pair.1 = .ok c ∧ Expr.IsName c.name)
    (hvalues : ∀ pair ∈ matching.fields, pair.2.Writable) :
    ∃ condition qs c, db.FieldUpdate s i m assigned matching condition qs c := by
  obtain ⟨keys, hkeys, hwords⟩ := exists_names hnames
  have hsame := values_eq_of_names hkeys
  have hne : keys ≠ [] := by
    rintro rfl
    exact hmatching (List.forall₂_nil_right_iff.mp hkeys)
  have hforall : ∀ P : Value → Prop, (∀ pair ∈ matching.fields, P pair.2) →
      ∀ key ∈ keys, P key.2 := by
    intro P h
    rw [← List.forall_mem_map, ← hsame, List.forall_mem_map]
    exact h
  have hinhabited : Nonempty StorageValue := ⟨.null⟩
  choose! f hconstant hnull hexact using fun v (h : Value.Writable v) => Value.exists_constant h
  have hwritable := hforall Value.Writable hvalues
  refine ⟨" and ".intercalate (matching.fields.map (literalPair m.table)),
    keys.map fun key => ⟨key.1.name, f key.2⟩, .ofKeys keys, ?_⟩
  constructor
  case sends => exact sends_updateFields hm hassigned hmatching
  case reads =>
    rw [literalPairs_eq_of_names hkeys]
    exact readAll?_literals hne hwords fun key hkey => hconstant key.2 (hwritable key hkey)
  case filters => exact read?_byExample hne hkeys hwords _ _
  case agrees =>
    intro h e row
    rw [Equation.all_truth_iff f, SearchCondition.truth_ofKeys hne]
    refine forall₂_congr fun key hkey => ?_
    obtain ⟨hne, hdigits⟩ := hforall (fun v => v ≠ .null ∧ v.Exact) h key hkey
    rw [Column.truth_matching_of_ne hne,
      e.compare_same .eq _ _ _ (hexact key.2 (hwritable key hkey) hdigits)]
  case misses =>
    rintro ⟨pair, hpair, hpairnull⟩ e row htrue
    rw [Equation.all_truth_iff f] at htrue
    have hmem : Value.null ∈ keys.map Prod.snd := by
      rw [← hsame, ← hpairnull]
      exact List.mem_map_of_mem hpair
    obtain ⟨key, hkey, hkeynull⟩ := List.mem_map.mp hmem
    have hcompare := htrue key hkey
    rw [(hnull key.2 (hwritable key hkey)).mpr hkeynull, e.compare_null] at hcompare
    exact absurd hcompare nofun

end Update

/-! ## Members -/

/-- The fields of a member, of whom the name may be missing. -/
def member : List FieldDeclaration :=
  [.field "Id" .identity (.int .int64), .field "Name" .notAKey (.optional .text),
    .columnName "full_name", .field "Score" .notAKey .real]

def members : Database Script Unit fun _ => Record where
  connection := Script.connection "Script"
  generator := .ofDialect .sqlite
  timeout := none
  entities _ := ⟨"Member", [], ClassMap.declare "Member" (Record.declarations member)⟩
  surrogates _ := .null

/-- Nothing was done to the members yet. -/
def memberSession : Session Script Unit fun _ => Record := .new ⟨[], [], [], [], [], [], false⟩

/-- The calls of an update of members. -/
def updateCalls (assigned matching : FieldSet) : List Call :=
  ((members.updateFields () assigned matching).run memberSession).2.calls

/-- Members are matched by their names, and by their numbers with the sign. -/
theorem exists_fieldUpdate_members :
    let assigned : FieldSet := ⟨[("Score", .integer 1), ("Id", .integer 2)]⟩
    let matching : FieldSet := ⟨[("NAME", .text "Ann"), ("id", .integer (-5))]⟩
    ∃ m, members.mapOf memberSession.cache () = .ok m
      ∧ (∃ condition qs c,
          members.FieldUpdate memberSession () m assigned matching condition qs c)
      ∧ updateCalls assigned matching
        = [.execute ⟨"update \"Member\" set Score=1 where full_name='Ann' and Id=-5",
            ⟨.atSign, []⟩, none⟩] := by
  intro assigned matching
  obtain ⟨m, hm⟩ : ∃ m, members.mapOf memberSession.cache () = .ok m := ⟨_, rfl⟩
  have hassigned : ∃ pair ∈ assigned.fields, matching.contains pair.1 = false :=
    ⟨("Score", .integer 1), List.mem_cons_self, by decide⟩
  have hnames : ∀ pair ∈ matching.fields,
      ∃ c, m.table.column pair.1 = .ok c ∧ Expr.IsName c.name := by
    obtain rfl := Except.ok.inj hm
    refine List.forall_mem_cons.mpr ⟨⟨_, rfl, by decide⟩, List.forall_mem_cons.mpr ⟨⟨_, rfl, ?_⟩, by simp⟩⟩
    decide
  have hvalues : ∀ pair ∈ matching.fields, pair.2.Writable := by
    have hAnn : '\'' ∉ "Ann".toList := by decide
    exact List.forall_mem_cons.mpr ⟨hAnn, List.forall_mem_cons.mpr ⟨trivial, by simp⟩⟩
  exact ⟨m, hm, exists_fieldUpdate hm hassigned (List.cons_ne_nil _ _) hnames hvalues,
    by decide +kernel⟩

/-- The table of members. -/
def memberTable : Table := (ClassMap.declared "Member" (Record.declarations member)).table

/-- **A null is matched by no row.**  A member without a name satisfies the filter, and not the
condition of the update, whatever the database makes of comparisons. -/
theorem fieldUpdate_null_misses :
    let matching : FieldSet := ⟨[("Name", .null)]⟩
    let row : StoredRow := fun _ => .null
    updateCalls ⟨[("Score", .integer 1)]⟩ matching
        = [.execute ⟨"update \"Member\" set Score=1 where full_name=null", ⟨.atSign, []⟩, none⟩]
      ∧ ∃ qs p sql ps c, Equation.readAll? "full_name=null" = some qs
          ∧ (Filter.byExample matching).predicate? = some p
          ∧ (p.draft memberTable .sqlite).run (.empty .atSign) = (.ok sql, ps)
          ∧ (Reading.read? .sqlite sql).bind (·.supplied? ps.items) = some c
          ∧ ∀ e, c.truth e row = .true ∧ Truth.all (qs.map (Equation.truth e row)) ≠ .true := by
  intro matching row
  have hreads : Equation.readAll? "full_name=null" = some [⟨"full_name", .null⟩] := by decide +kernel
  have hnames : List.Forall₂ memberTable.Names matching.fields
      [(⟨"Name", "full_name", .notAKey, false, false⟩, .null)] := .cons ⟨rfl, rfl⟩ .nil
  obtain ⟨p, sql, ps, hp, hrun, hread⟩ := read?_byExample (List.cons_ne_nil _ _) hnames
    (List.forall_mem_singleton.mpr (by decide)) .sqlite .atSign
  refine ⟨by decide +kernel, _, p, sql, ps, _, hreads, hp, hrun, hread, fun e => ⟨rfl, ?_⟩⟩
  rw [List.map_singleton, Equation.truth, e.compare_null]
  decide

/-- **Rounded digits are matched by another row.**  A member whose score is a large whole real
satisfies the filter by this score, and not the condition of the update in a database that compares
numbers exactly. -/
theorem fieldUpdate_digits_miss :
    let score : Binary64 := .ofInt (2 ^ 55)
    let matching : FieldSet := ⟨[("Score", .real score)]⟩
    let row : StoredRow := fun _ => .real score
    updateCalls ⟨[("Name", .text "Ann")]⟩ matching
        = [.execute ⟨"update \"Member\" set full_name='Ann' where Score=36028797018963970",
            ⟨.atSign, []⟩, none⟩]
      ∧ ∃ qs p sql ps c, Equation.readAll? "Score=36028797018963970" = some qs
          ∧ (Filter.byExample matching).predicate? = some p
          ∧ (p.draft memberTable .sqlite).run (.empty .atSign) = (.ok sql, ps)
          ∧ (Reading.read? .sqlite sql).bind (·.supplied? ps.items) = some c
          ∧ c.truth .plain row = .true ∧ Truth.all (qs.map (Equation.truth .plain row)) = .false := by
  intro score matching row
  have hreads : Equation.readAll? "Score=36028797018963970"
      = some [⟨"Score", .integer 36028797018963970⟩] := by decide +kernel
  have hcolumn : memberTable.column "Score" = .ok ⟨"Score", "Score", .notAKey, false, false⟩ := rfl
  have hnames : List.Forall₂ memberTable.Names matching.fields
      [(⟨"Score", "Score", .notAKey, false, false⟩, .real score)] := .cons ⟨hcolumn, rfl⟩ .nil
  obtain ⟨p, sql, ps, hp, hrun, hread⟩ := read?_byExample (List.cons_ne_nil _ _) hnames
    (List.forall_mem_singleton.mpr (by decide)) .sqlite .atSign
  refine ⟨by decide +kernel, _, p, sql, ps, _, hreads, hp, hrun, hread, ?_, by decide +kernel⟩
  decide +kernel

end Database

end SqlRecords
