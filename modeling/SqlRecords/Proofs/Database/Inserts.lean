import SqlRecords.Proofs.Database.KeyedWrites
import SqlRecords.Proofs.Database.Readers
import SqlRecords.Proofs.Database.Strategies

/-!
# Several inserts at once

`Database.insertMany` fills in the generated keys of all records before it drafts one statement.
`Database.insert`, called on one record after another, fills in the keys of a record, inserts it,
and puts the key that the database assigned into it, before it turns to the next record.  Both bind
the same rows.

What a record gets depends on the record and on the number of keys given out before, and on nothing
that an insert changes (`Database.exists_fills`).  So the keys of all records are known before
anything is sent (`Database.FillsEach`), and both runs are followed along this one list.  Only the
key that the database assigned is put in afterwards, and with lawful accessors that changes no other
property.

* `ClassMap.Lawful` — setting one property leaves the others alone.
* `Database.Moves` — what a part of a run does to a session.
* `Database.SameInserts` — what is said of the two runs.
* **`Database.sameInserts_of_declare`** — it holds for every class map that can be declared.
-/

namespace SqlRecords

/-! ## Accessors -/

namespace ClassMap

variable {α : Type} {m : ClassMap α}

/-- Setting one property leaves the others alone. -/
def Lawful (m : ClassMap α) : Prop :=
  ∀ p ∈ m.properties, ∀ q ∈ m.properties, p.column.property ≠ q.column.property →
    ∀ a v a', p.set a v = .ok a' → q.get a' = q.get a

/-- The records have the same values, but for a key that the database assigns. -/
def SameButIdentity (m : ClassMap α) (a b : α) : Prop :=
  ∀ p ∈ m.properties, p.column.kind ≠ .identity → p.get b = p.get a

/-- With lawful accessors a key that is put in changes no other property. -/
theorem sameButIdentity_of_setValue {entity : String} {steps : List (Declaration α)}
    (h : declare entity steps = .ok m) (hlawful : m.Lawful) {identity : Column}
    (hidentity : m.table.identity? = some identity) {a a' : α} {v : Value}
    (hset : m.setValue a identity.property v = .ok a') : m.SameButIdentity a a' := by
  have hkind : identity.kind = .identity := by
    simpa using List.find?_some hidentity
  obtain ⟨q, hq, rfl⟩ := exists_property (List.mem_of_find?_eq_some hidentity)
  rw [setValue_of_declare h hq] at hset
  intro p hp hp'
  refine hlawful q hq p hp (fun hname => hp' ?_) a v a' hset
  rw [← property_eq_of_declare h hq hp hname, hkind]

end ClassMap

namespace Database

variable {σ ι : Type} {E : ι → Type} (db : Database σ ι E)

/-! ## Calls -/

/-- The insert of one row. -/
def rowInsert (t : Table) (row : List Value) : Command :=
  let values := (t.cells Column.isInsertable row).map Prod.snd
  db.command
    (db.generator.insertSql t (t.cells Column.isInsertable row)
      (Parameters.numbered db.generator.dialect.style 0 values))
    (db.generator.parameters.pushAll values)

/-- The calls that insert one row and read back the key that the database assigned. -/
def singleCalls (t : Table) (row : List Value) : List Call :=
  let c := db.rowInsert t row
  match t.identity? with
  | none => [.execute c]
  | some _ =>
    if db.generator.batches then
      [.query (db.command (c.sql ++ db.generator.separator ++ db.generator.identitySql) c.params)]
    else [.execute c, .query (db.command db.generator.identitySql db.generator.parameters)]

/-- The parameters of several rows, row after row. -/
def rowGroups (t : Table) (rows : List (List Value)) : List (List Param) :=
  Parameters.numberedEach db.generator.dialect.style 0 (t.rowCells rows)

/-- The insert of several rows. -/
def rowsInsert (t : Table) (rows : List (List Value)) : Command :=
  db.command (db.generator.insertRowsSql t (db.rowGroups t rows))
    (db.generator.parameters.pushAll (t.rowCells rows).flatten)

/-- The calls that insert several rows: one for all of them, or one for each if there is no column
to write. -/
def batchCalls (t : Table) (rows : List (List Value)) : List Call :=
  if t.columns.filter Column.isInsertable = [] ∨ rows = [] then
    rows.map fun row => .execute (db.rowInsert t row)
  else [.execute (db.rowsInsert t rows)]

variable {db}

/-! ## Generated keys -/

section Keys

variable {α : Type} {m : ClassMap α}

/-- The first of several key columns. -/
theorem run_assignSurrogates_cons (c : Column) (rest : List Column) (a : α) (s : Session σ ι E) :
    (db.assignSurrogates m (c :: rest)).run a s
      = match m.value a c.property with
        | .error e => ((.error e, a), s)
        | .ok v =>
          if v.isUnsetKey then
            match m.setValue a c.property (db.surrogates s.issued) with
            | .error e => ((.error e, a), { s with issued := s.issued + 1 })
            | .ok a' => (db.assignSurrogates m rest).run a' { s with issued := s.issued + 1 }
          else (db.assignSurrogates m rest).run a s := by
  have hcurrent : Editing.run (Editing.current : Editing σ ι E α α) a s = ((.ok a, a), s) := rfl
  have hvalue : Editing.run (Editing.ofExcept (m.value a c.property) : Editing σ ι E α Value) a s
      = ((m.value a c.property, a), s) := rfl
  rw [assignSurrogates, Editing.run_bind_of_ok hcurrent]
  cases hv : m.value a c.property with
  | error e =>
      rw [hv] at hvalue
      exact Editing.run_bind_of_error hvalue _
  | ok v =>
      rw [hv] at hvalue
      rw [Editing.run_bind_of_ok hvalue]
      cases hunset : v.isUnsetKey with
      | false => simp only [hunset, Bool.false_eq_true, if_false]
      | true =>
          let u : Session σ ι E := { s with issued := s.issued + 1 }
          have hkey : Editing.run (liftM db.nextSurrogate : Editing σ ι E α Value) a s
              = ((.ok (db.surrogates s.issued), a), u) := rfl
          have hset : Editing.run (Editing.ofExcept (m.setValue a c.property
              (db.surrogates s.issued)) : Editing σ ι E α α) a u
              = ((m.setValue a c.property (db.surrogates s.issued), a), u) := rfl
          simp only [hunset, if_true]
          rw [Editing.run_bind_of_ok hkey]
          cases hresult : m.setValue a c.property (db.surrogates s.issued) with
          | error e =>
              rw [hresult] at hset
              exact Editing.run_bind_of_error hset _
          | ok a' =>
              rw [hresult] at hset
              rw [Editing.run_bind_of_ok hset]
              exact Editing.run_bind_of_ok rfl _

/-- The record `a` gets its generated keys, from the number `n` on, and is `a'` then; `n'` is the
next number.  Nothing but the number matters of the session. -/
def Fills (db : Database σ ι E) (m : ClassMap α) (columns : List Column) (a : α) (n : Nat) (a' : α)
    (n' : Nat) : Prop :=
  ∀ s : Session σ ι E, s.issued = n →
    (db.assignSurrogates m columns).run a s = ((.ok (), a'), { s with issued := n' })

/-- A record that gets its keys once gets the same ones in every session with the same number. -/
theorem exists_fills {columns : List Column} {a : α} {s : Session σ ι E}
    (h : ((db.assignSurrogates m columns).run a s).1.1 = .ok ()) :
    ∃ a' n', db.Fills m columns a s.issued a' n' := by
  induction columns generalizing a s with
  | nil =>
      refine ⟨a, s.issued, fun u hu => ?_⟩
      rw [← hu]
      rfl
  | cons c rest ih =>
      rw [run_assignSurrogates_cons] at h
      cases hv : m.value a c.property with
      | error e => rw [hv] at h; exact absurd h nofun
      | ok v =>
          rw [hv] at h
          simp only at h
          split at h
          · rename_i hunset
            cases hset : m.setValue a c.property (db.surrogates s.issued) with
            | error e => rw [hset] at h; exact absurd h nofun
            | ok b =>
                rw [hset] at h
                obtain ⟨a', n', hrest⟩ := ih h
                refine ⟨a', n', fun u hu => ?_⟩
                rw [run_assignSurrogates_cons, hv]
                simp only [hunset, if_true, hu, hset]
                exact hrest _ rfl
          · rename_i hset
            obtain ⟨a', n', hrest⟩ := ih h
            refine ⟨a', n', fun u hu => ?_⟩
            rw [run_assignSurrogates_cons, hv]
            simp only [hset]
            exact hrest u hu

/-- The same for several records, one after another. -/
inductive FillsEach (db : Database σ ι E) (m : ClassMap α) (columns : List Column) :
    List α → Nat → List α → Nat → Prop where
  | nil (n : Nat) : FillsEach db m columns [] n [] n
  | cons {a a' : α} {as as' : List α} {n k n' : Nat} (first : db.Fills m columns a n a' k)
      (rest : FillsEach db m columns as k as' n') :
      FillsEach db m columns (a :: as) n (a' :: as') n'

/-- If all records get their keys, what each one gets is known from the records before it. -/
theorem exists_fillsEach {columns : List Column} {as : List α} {s : Session σ ι E}
    (h : ((Editing.forEach (db.assignSurrogates m columns)).run as s).1.1 = .ok ()) :
    ∃ as' n', db.FillsEach m columns as s.issued as' n' := by
  rw [Editing.forEach, Editing.run_ofStep] at h
  induction as generalizing s with
  | nil => exact ⟨[], s.issued, .nil s.issued⟩
  | cons a as ih =>
      rw [Editing.forEachStep] at h
      rcases hrun : (db.assignSurrogates m columns).run a s with ⟨⟨e | _, b⟩, u⟩
      · rw [hrun] at h
        exact absurd h nofun
      · have hfirst : ((db.assignSurrogates m columns).run a s).1.1 = .ok () := by
          rw [hrun]
        obtain ⟨a', k, hfills⟩ := exists_fills hfirst
        rw [hfills s rfl] at h
        obtain ⟨as', n', hrest⟩ := ih h
        exact ⟨a' :: as', n', .cons hfills hrest⟩

theorem FillsEach.length_eq {columns : List Column} {as as' : List α} {n n' : Nat}
    (h : db.FillsEach m columns as n as' n') : as'.length = as.length := by
  induction h with
  | nil n => rfl
  | cons first rest ih => rw [List.length_cons, List.length_cons, ih]

/-- The keys that are known are those that are put in. -/
theorem FillsEach.run {columns : List Column} {as as' : List α} {n n' : Nat}
    (h : db.FillsEach m columns as n as' n') {s : Session σ ι E} (hs : s.issued = n) :
    (Editing.forEach (db.assignSurrogates m columns)).run as s
      = ((.ok (), as'), { s with issued := n' }) := by
  rw [Editing.forEach, Editing.run_ofStep]
  induction h generalizing s with
  | nil n =>
      rw [← hs]
      rfl
  | cons first rest ih =>
      have hrest := ih (s := { s with issued := _ }) rfl
      rw [Editing.forEachStep, first s hs]
      simp only [hrest]

end Keys

/-! ## Sessions -/

variable {good : σ → Prop} {s s' s'' : Session σ ι E}

/-- What a part of a run does to the session: calls, and generated keys given out up to a number.
It keeps the class maps, and what is known of the state of the connection. -/
structure Moves [DecidableEq ι] (db : Database σ ι E) (good : σ → Prop) (s s' : Session σ ι E)
    (calls : List Call) (issued : Nat) : Prop where
  calls_eq : s'.calls = s.calls ++ calls
  issued_eq : s'.issued = issued
  maps_eq : db.mapOf s'.cache = db.mapOf s.cache
  backend : good s'.backend

/-- The connection accepts every statement, and answers the query for an assigned key with a number
that the key accepts, as long as `good` holds of its state; and that stays so. -/
structure Accepts {α : Type} (db : Database σ ι E) (m : ClassMap α) (good : σ → Prop) : Prop where
  execute : ∀ c b, good b → ∃ changed b', db.connection.execute c b = (.ok changed, b') ∧ good b'
  readBack : ∀ identity, m.table.identity? = some identity → ∀ front ps b, good b →
    ∃ set b' n, db.connection.query (db.command (front ++ db.generator.identitySql) ps) b
        = (.ok set, b') ∧ good b'
      ∧ (set.scalar >>= Value.readInt .int64) = .ok n
      ∧ ∀ a, ∃ a', m.setValue a identity.property (.integer (.ofInt n)) = .ok a'

variable [DecidableEq ι]

theorem Moves.refl (h : good s.backend) : db.Moves good s s [] s.issued :=
  ⟨(List.append_nil _).symm, rfl, rfl, h⟩

theorem Moves.trans {calls calls' : List Call} {n n' : Nat} (h : db.Moves good s s' calls n)
    (h' : db.Moves good s' s'' calls' n') : db.Moves good s s'' (calls ++ calls') n' where
  calls_eq := by rw [h'.calls_eq, h.calls_eq, List.append_assoc]
  issued_eq := h'.issued_eq
  maps_eq := h'.maps_eq.trans h.maps_eq
  backend := h'.backend

section Steps

variable {τ α : Type} {i : ι} {m : ClassMap (E i)}

omit [DecidableEq ι] in
/-- An operation on the session, in the midst of edits. -/
theorem run_lift {x : Action σ ι E α} {r : Except Error α} (h : x.run s = (r, s')) (a : τ) :
    Editing.run (liftM x : Editing σ ι E τ α) a s = ((r, a), s') := by
  have hlift : Editing.run (liftM x : Editing σ ι E τ α) a s = (((x.run s).1, a), (x.run s).2) := rfl
  rw [hlift, h]

theorem moves_classMap (hm : db.mapOf s.cache i = .ok m) (hgood : good s.backend) (a : τ) :
    ∃ s', Editing.run (liftM (db.classMap i) : Editing σ ι E τ (ClassMap (E i))) a s
        = ((.ok m, a), s') ∧ db.Moves good s s' [] s.issued := by
  obtain ⟨builds, hrun⟩ := db.run_liftClassMap i a s
  rw [hm] at hrun
  exact ⟨_, hrun, (List.append_nil _).symm, rfl, db.mapOf_cacheWith s.cache i, hgood⟩

omit [DecidableEq ι] in
theorem run_draft {d : Draft α} {x : α} {ps : Parameters}
    (h : d.run db.generator.parameters = (.ok x, ps)) (s : Session σ ι E) :
    (db.draft d).run s = (.ok (x, ps), s) := by
  rw [draft, h]
  rfl

omit [DecidableEq ι] in
/-- An insert of one row is drafted without an error. -/
theorem run_draftInsert (db : Database σ ι E) (t : Table) (row : List Value) (s : Session σ ι E) :
    (db.draft (db.generator.insert t row)).run s
      = (.ok ((db.rowInsert t row).sql, (db.rowInsert t row).params), s) :=
  run_draft (db.generator.run_insert row) s

/-- A command is one call, and it is accepted. -/
theorem moves_execute (haccepts : db.Accepts m good) (hgood : good s.backend) (sql : String)
    (ps : Parameters) : ∃ changed s', (db.execute sql ps).run s = (.ok changed, s')
      ∧ db.Moves good s s' [.execute (db.command sql ps)] s.issued := by
  obtain ⟨changed, b, hreply, hb⟩ := haccepts.execute (db.command sql ps) s.backend hgood
  refine ⟨changed, { s with backend := b, calls := s.calls ++ [.execute (db.command sql ps)] }, ?_,
    rfl, rfl, rfl, hb⟩
  rw [execute, send, Action.run_ofStep, hreply]

/-- The query for an assigned key is one call, answered with a number that the key accepts. -/
theorem moves_readBack (haccepts : db.Accepts m good) {identity : Column}
    (hidentity : m.table.identity? = some identity) (hgood : good s.backend) (front : String)
    (ps : Parameters) :
    ∃ n s', (db.queryNumber .int64 (front ++ db.generator.identitySql) ps).run s = (.ok n, s')
      ∧ (∀ a, ∃ a', m.setValue a identity.property (.integer (.ofInt n)) = .ok a')
      ∧ db.Moves good s s'
          [.query (db.command (front ++ db.generator.identitySql) ps)] s.issued := by
  obtain ⟨set, b, n, hreply, hb, hn, haccept⟩ :=
    haccepts.readBack identity hidentity front ps s.backend hgood
  let c := db.command (front ++ db.generator.identitySql) ps
  let s' : Session σ ι E := { s with backend := b, calls := s.calls ++ [.query c] }
  have hquery : (db.query (front ++ db.generator.identitySql) ps).run s = (.ok set, s') := by
    rw [query, send, Action.run_ofStep, hreply]
  refine ⟨n, s', ?_, haccept, rfl, rfl, rfl, hb⟩
  rw [queryNumber, Action.run_bind_of_ok hquery, Action.run_ofExcept, hn]

/-! ## One record -/

/-- Inserts a record, without a look at its key. -/
def insertOnly (db : Database σ ι E) (i : ι) : Editing σ ι E (E i) Unit := do
  let _ ← db.insert i

theorem moves_insertWithIdentity (haccepts : db.Accepts m good) {identity : Column}
    (hidentity : m.table.identity? = some identity) (hgood : good s.backend) (row : List Value) :
    ∃ n s', (db.insertWithIdentity (db.rowInsert m.table row).sql
          (db.rowInsert m.table row).params).run s = (.ok n, s')
      ∧ (∀ a, ∃ a', m.setValue a identity.property (.integer (.ofInt n)) = .ok a')
      ∧ db.Moves good s s' (db.singleCalls m.table row) s.issued := by
  rw [insertWithIdentity, singleCalls, hidentity]
  cases db.generator.batches with
  | true =>
      exact moves_readBack haccepts hidentity hgood
        ((db.rowInsert m.table row).sql ++ db.generator.separator) (db.rowInsert m.table row).params
  | false =>
      obtain ⟨changed, s₁, hexecute, hmoves⟩ := moves_execute haccepts hgood
        (db.rowInsert m.table row).sql (db.rowInsert m.table row).params
      obtain ⟨n, s₂, hread, haccept, hmoves'⟩ := moves_readBack haccepts hidentity hmoves.backend ""
        db.generator.parameters
      rw [String.empty_append] at hread hmoves'
      rw [hmoves.issued_eq] at hmoves'
      refine ⟨n, s₂, ?_, haccept, hmoves.trans hmoves'⟩
      exact (Action.run_bind_of_ok hexecute _).trans hread

/-- One record gets its generated keys, is inserted, and gets the key that the database assigned. -/
theorem moves_insert (haccepts : db.Accepts m good) {entity : String}
    {steps : List (Declaration (E i))} (hdeclare : ClassMap.declare entity steps = .ok m)
    (hlawful : m.Lawful) (hm : db.mapOf s.cache i = .ok m) (hgood : good s.backend) {a a' : E i}
    {n' : Nat} (hfills : db.Fills m (surrogateColumns m.table) a s.issued a' n') :
    ∃ b s', (db.insertOnly i).run a s = ((.ok (), b), s')
      ∧ db.Moves good s s' (db.singleCalls m.table (m.values a')) n' ∧ m.SameButIdentity a' b := by
  obtain ⟨s₁, hmap, hmoves₁⟩ := moves_classMap (τ := E i) hm hgood a
  let s₂ : Session σ ι E := { s₁ with issued := n' }
  have hfill := hfills s₁ hmoves₁.issued_eq
  have hmoves₂ : db.Moves good s s₂ [] n' := ⟨hmoves₁.calls_eq, rfl, hmoves₁.maps_eq, hmoves₁.backend⟩
  have hcurrent : Editing.run (Editing.current : Editing σ ι E (E i) (E i)) a' s₂
      = ((.ok a', a'), s₂) := rfl
  have hdraft := run_lift (db.run_draftInsert m.table (m.values a') s₂) a'
  suffices hkey : ∃ key b s', (db.insert i).run a s = ((.ok key, b), s')
      ∧ db.Moves good s s' (db.singleCalls m.table (m.values a')) n' ∧ m.SameButIdentity a' b by
    obtain ⟨key, b, s', hrun, hmoves⟩ := hkey
    exact ⟨b, s', (Editing.run_bind_of_ok hrun _).trans rfl, hmoves⟩
  rw [insert, Editing.run_bind_of_ok hmap, Editing.run_bind_of_ok hfill,
    Editing.run_bind_of_ok hcurrent, Editing.run_bind_of_ok hdraft]
  cases hidentity : m.table.identity? with
  | none =>
      obtain ⟨changed, s₃, hexecute, hmoves₃⟩ := moves_execute haccepts hmoves₂.backend
        (db.rowInsert m.table (m.values a')).sql (db.rowInsert m.table (m.values a')).params
      refine ⟨_, a', s₃, Editing.run_bind_of_ok (run_lift hexecute a') _, ?_, fun _ _ _ => rfl⟩
      rw [singleCalls, hidentity]
      exact hmoves₂.trans hmoves₃
  | some identity =>
      obtain ⟨n, s₃, hread, haccept, hmoves₃⟩ := moves_insertWithIdentity haccepts hidentity
        hmoves₂.backend (m.values a')
      obtain ⟨b, hset⟩ := haccept a'
      refine ⟨m.recordKey b, b, s₃, (Editing.run_bind_of_ok (run_lift hread a') _).trans ?_,
        hmoves₂.trans hmoves₃, ClassMap.sameButIdentity_of_setValue hdeclare hlawful hidentity hset⟩
      rw [hset]
      rfl

/-! ## Several records -/

theorem moves_insertEach (haccepts : db.Accepts m good) {entity : String}
    {steps : List (Declaration (E i))} (hdeclare : ClassMap.declare entity steps = .ok m)
    (hlawful : m.Lawful) {as as' : List (E i)} {n n' : Nat}
    (h : db.FillsEach m (surrogateColumns m.table) as n as' n') (hm : db.mapOf s.cache i = .ok m)
    (hgood : good s.backend) (hs : s.issued = n) :
    ∃ bs s', (Editing.forEach (db.insertOnly i)).run as s = ((.ok (), bs), s')
      ∧ db.Moves good s s' ((as'.map m.values).flatMap (db.singleCalls m.table)) n'
      ∧ List.Forall₂ m.SameButIdentity as' bs := by
  rw [Editing.forEach]
  induction h generalizing s with
  | nil n => exact ⟨[], s, rfl, hs ▸ Moves.refl hgood, .nil⟩
  | cons first rest ih =>
      obtain ⟨b, s₁, hrun, hmoves, hsame⟩ :=
        moves_insert haccepts hdeclare hlawful hm hgood (hs ▸ first)
      obtain ⟨bs, s₂, hruns, hmoves', hsames⟩ :=
        ih (by rw [hmoves.maps_eq, hm]) hmoves.backend hmoves.issued_eq
      rw [Editing.run_ofStep] at hruns
      refine ⟨b :: bs, s₂, ?_, hmoves.trans hmoves', .cons hsame hsames⟩
      rw [Editing.run_ofStep, Editing.forEachStep, hrun]
      simp only [hruns]

theorem moves_insertRowByRow (haccepts : db.Accepts m good) (hgood : good s.backend) (t : Table)
    (rows : List (List Value)) :
    ∃ s', (db.insertRowByRow t rows).run s = (.ok (), s')
      ∧ db.Moves good s s' (rows.map fun row => .execute (db.rowInsert t row)) s.issued := by
  induction rows generalizing s with
  | nil => exact ⟨s, rfl, Moves.refl hgood⟩
  | cons row rows ih =>
      obtain ⟨changed, s₁, hexecute, hmoves⟩ := moves_execute haccepts hgood
        (db.rowInsert t row).sql (db.rowInsert t row).params
      obtain ⟨s₂, hrest, hmoves'⟩ := ih hmoves.backend
      rw [hmoves.issued_eq] at hmoves'
      refine ⟨s₂, ?_, hmoves.trans hmoves'⟩
      rw [insertRowByRow, Action.run_bind_of_ok (db.run_draftInsert t row s)]
      exact (Action.run_bind_of_ok hexecute _).trans hrest

theorem moves_insertMany (haccepts : db.Accepts m good) {as as' : List (E i)} {n' : Nat}
    (h : db.FillsEach m (surrogateColumns m.table) as s.issued as' n')
    (hm : db.mapOf s.cache i = .ok m) (hgood : good s.backend) :
    ∃ s', (db.insertMany i).run as s = ((.ok (), as'), s')
      ∧ db.Moves good s s' (db.batchCalls m.table (as'.map m.values)) n' := by
  obtain ⟨s₁, hmap, hmoves₁⟩ := moves_classMap (τ := List (E i)) hm hgood as
  let s₂ : Session σ ι E := { s₁ with issued := n' }
  have hfill := h.run hmoves₁.issued_eq
  have hmoves₂ : db.Moves good s s₂ [] n' := ⟨hmoves₁.calls_eq, rfl, hmoves₁.maps_eq, hmoves₁.backend⟩
  have hcurrent : Editing.run (Editing.current : Editing σ ι E (List (E i)) (List (E i))) as' s₂
      = ((.ok as', as'), s₂) := rfl
  have hrows : ∀ row ∈ as'.map m.values, row.length = m.table.columns.length := by
    intro row hrow
    obtain ⟨a, -, rfl⟩ := List.mem_map.mp hrow
    exact m.length_values a
  have hinsert : (db.generator.insertRows m.table (as'.map m.values)).run db.generator.parameters
      = _ := db.generator.run_insertRows_eq hrows
  rw [insertMany, Editing.run_bind_of_ok hmap, Editing.run_bind_of_ok hfill,
    Editing.run_bind_of_ok hcurrent, batchCalls]
  split at hinsert
  · rename_i hnone
    have hdraft := run_lift (run_draft hinsert s₂) as'
    obtain ⟨s₃, hrun, hmoves₃⟩ := moves_insertRowByRow haccepts hmoves₂.backend m.table
      (as'.map m.values)
    rw [if_pos hnone]
    exact ⟨s₃, (Editing.run_bind_of_ok hdraft _).trans (run_lift hrun as'), hmoves₂.trans hmoves₃⟩
  · rename_i hsome
    have hdraft := run_lift (run_draft hinsert s₂) as'
    obtain ⟨changed, s₃, hexecute, hmoves₃⟩ := moves_execute haccepts hmoves₂.backend
      (db.rowsInsert m.table (as'.map m.values)).sql (db.rowsInsert m.table (as'.map m.values)).params
    rw [if_neg hsome]
    refine ⟨s₃, (Editing.run_bind_of_ok hdraft _).trans ?_, hmoves₂.trans hmoves₃⟩
    exact (Editing.run_bind_of_ok (run_lift hexecute as') _).trans rfl

end Steps

/-! ## Both runs -/

variable {i : ι} {m : ClassMap (E i)}

/-- What is known of the insert of the records `as` at once, and of their inserts one after another.
The records `filled` have their generated keys, the records `stored` also those that the database
assigned. -/
structure SameInserts (db : Database σ ι E) (i : ι) (m : ClassMap (E i)) (s : Session σ ι E)
    (as filled stored : List (E i)) (s₁ s₂ : Session σ ι E) : Prop where
  together : (db.insertMany i).run as s = ((.ok (), filled), s₁)
  singly : (Editing.forEach (db.insertOnly i)).run as s = ((.ok (), stored), s₂)
  together_calls : s₁.calls = s.calls ++ db.batchCalls m.table (filled.map m.values)
  singly_calls : s₂.calls
    = s.calls ++ (filled.map m.values).flatMap (db.singleCalls m.table)
  /-- The one statement for all records binds the values of its rows, in their order. -/
  bound : (db.rowsInsert m.table (filled.map m.values)).params.items
    = (db.rowGroups m.table (filled.map m.values)).flatten
  /-- Each row has the values that the insert of this record alone binds. -/
  rows : (db.rowGroups m.table (filled.map m.values)).map (fun group => group.map (·.value))
    = (filled.map m.values).map fun row => (db.rowInsert m.table row).params.values
  /-- The columns of the insert of one record are those of the insert of all. -/
  columns : ∀ a ∈ filled, (m.table.cells Column.isInsertable (m.values a)).map Prod.fst
    = m.table.columns.filter Column.isInsertable
  same : List.Forall₂ m.SameButIdentity filled stored
  issued : s₁.issued = s₂.issued
  no_call : as = [] → s₁.calls = s.calls
  one_call : as ≠ [] → m.table.columns.filter Column.isInsertable ≠ [] →
    s₁.calls = s.calls ++ [.execute (db.rowsInsert m.table (filled.map m.values))]
  /-- Without a column to write, there is one call for each record. -/
  each_call : m.table.columns.filter Column.isInsertable = [] →
    ∃ cs : List Command, cs.length = as.length ∧ s₁.calls = s.calls ++ cs.map .execute

/-- **Inserting records at once is inserting them one after another.**  For every class map that can
be declared, with lawful accessors, and every connection that accepts the statements and answers
with keys that the records accept, where the generated keys of all records can be filled in: both
runs succeed, bind the same values under the same columns, and leave records that differ in the
assigned key at most. -/
theorem sameInserts_of_declare {entity : String} {steps : List (Declaration (E i))}
    (hdeclare : ClassMap.declare entity steps = .ok m) (hm : db.mapOf s.cache i = .ok m)
    (hlawful : m.Lawful) (haccepts : db.Accepts m good) (hgood : good s.backend) {as : List (E i)}
    (hkeys : ((Editing.forEach (db.assignSurrogates m (surrogateColumns m.table))).run as s).1.1
      = .ok ()) :
    ∃ filled stored s₁ s₂, db.SameInserts i m s as filled stored s₁ s₂ := by
  obtain ⟨filled, n', hfills⟩ := exists_fillsEach hkeys
  obtain ⟨s₁, htogether, hmoves₁⟩ := moves_insertMany haccepts hfills hm hgood
  obtain ⟨stored, s₂, hsingly, hmoves₂, hsame⟩ :=
    moves_insertEach haccepts hdeclare hlawful hfills hm hgood rfl
  have hlength : filled.length = as.length := hfills.length_eq
  refine ⟨filled, stored, s₁, s₂, ?_⟩
  constructor
  case together => exact htogether
  case singly => exact hsingly
  case together_calls => exact hmoves₁.calls_eq
  case singly_calls => exact hmoves₂.calls_eq
  case bound =>
    show (db.generator.parameters.pushAll _).items = _
    rw [Parameters.items_pushAll, rowGroups, Parameters.flatten_numberedEach]
    rfl
  case rows =>
    rw [rowGroups, Parameters.values_numberedEach, Table.rowCells]
    refine List.map_congr_left fun row _ => ?_
    exact (Parameters.values_pushAll_empty db.generator.dialect.style _).symm
  case columns =>
    intro a _
    exact Table.cells_map_fst (m.length_values a)
  case same => exact hsame
  case issued => rw [hmoves₁.issued_eq, hmoves₂.issued_eq]
  case no_call =>
    rintro rfl
    obtain rfl := List.length_eq_zero_iff.mp hlength
    rw [hmoves₁.calls_eq, batchCalls, if_pos (.inr rfl)]
    exact List.append_nil _
  case one_call =>
    intro hsome hcolumns
    rw [hmoves₁.calls_eq, batchCalls, if_neg]
    rintro (hnone | hnone)
    · exact hcolumns hnone
    · rw [List.map_eq_nil_iff] at hnone
      rw [hnone] at hlength
      exact hsome (List.length_eq_zero_iff.mp hlength.symm)
  case each_call =>
    intro hcolumns
    refine ⟨(filled.map m.values).map (db.rowInsert m.table), ?_, ?_⟩
    · rw [List.length_map, List.length_map, hlength]
    · rw [hmoves₁.calls_eq, batchCalls, if_pos (.inl hcolumns), List.map_map (g := Call.execute)]
      rfl

/-! ## Three notes -/

/-- A note: its number is assigned by the database, and its mark is generated. -/
structure Note where
  number : Int64
  mark : Value
  body : Value
  size : Value
deriving DecidableEq

/-- Numbers the note, if the value is a number. -/
def Note.setNumber (a : Note) : Value → Except Error Note
  | .integer n => .ok { a with number := n }
  | v => .error (.conversion v (.int .int64))

theorem Note.setNumber_eq_ok {a a' : Note} {v : Value} (h : a.setNumber v = .ok a') :
    ∃ n, a' = { a with number := n } := by
  cases v
  case integer n => exact ⟨n, (Except.ok.inj h).symm⟩
  all_goals exact absurd h nofun

/-- The class map of notes, where the size has no column. -/
def Note.steps : List (Declaration Note) :=
  [.property "Number" .identity (fun a => .integer a.number) Note.setNumber,
    .property "Mark" .generatedSurrogate Note.mark fun a v => .ok { a with mark := v },
    .property "Body" .notAKey Note.body fun a v => .ok { a with body := v }, .columnName "text",
    .property "Size" .notAKey Note.size fun a v => .ok { a with size := v }, .ignored]

/-- A connection that counts its statements, and answers every query with their number. -/
def countingConnection : Connection Nat where
  name := "Counting"
  execute _ n := (.ok 1, n + 1)
  query _ n := (.ok ⟨["id"], [[.integer (.ofNat n)]]⟩, n)
  queryMultiple _ n := (.ok ⟨fun _ => .ok none, 0⟩, n)
  start _ n := (.ok (), n)
  commit n := (.ok (), n)
  rollback n := (.ok (), n)
  isActive _ := false

/-- A database of notes, with the marks `k0`, `k1`, … -/
def notes : Database Nat Unit fun _ => Note where
  connection := countingConnection
  generator := .ofDialect .sqlite
  timeout := none
  entities _ := ⟨"Note", ⟨0, .null, .null, .null⟩, ClassMap.declare "Note" Note.steps⟩
  surrogates n := .text ("k" ++ Numeral.natText n)

/-- Three notes, of which the second has its mark. -/
def threeNotes : List Note :=
  [⟨0, .null, .text "one", .integer 3⟩, ⟨0, .text "x", .text "two", .integer 3⟩,
    ⟨0, .null, .null, .integer 0⟩]

theorem readInt_integer (n : Int64) : Value.readInt .int64 (.integer n) = .ok n.toInt := by
  rw [Value.readInt, Value.toInt?, Option.filter_some, if_pos (IntType.holds_toInt n)]

theorem notes_accepts {m : ClassMap Note} (hm : ClassMap.declare "Note" Note.steps = .ok m) :
    notes.Accepts m fun _ => True := by
  obtain rfl := Except.ok.inj hm
  refine ⟨fun _ b _ => ⟨1, b + 1, rfl, trivial⟩, fun identity hidentity front ps b _ => ?_⟩
  obtain rfl := Option.some.inj hidentity
  exact ⟨_, b, _, rfl, trivial, readInt_integer (.ofNat b), fun a => ⟨_, rfl⟩⟩

theorem notes_properties {m : ClassMap Note} (hm : ClassMap.declare "Note" Note.steps = .ok m) :
    m.properties =
      [⟨⟨fun a => .integer a.number, Note.setNumber⟩, .ofProperty "Number" .identity⟩,
        ⟨⟨Note.mark, fun a v => .ok { a with mark := v }⟩, .ofProperty "Mark" .generatedSurrogate⟩,
        ⟨⟨Note.body, fun a v => .ok { a with body := v }⟩,
          { Column.ofProperty "Body" .notAKey with name := "text" }⟩,
        ⟨⟨Note.size, fun a v => .ok { a with size := v }⟩,
          { Column.ofProperty "Size" .notAKey with ignored := true }⟩] := by
  obtain rfl := Except.ok.inj hm
  rfl

theorem notes_lawful {m : ClassMap Note} (hm : ClassMap.declare "Note" Note.steps = .ok m) :
    m.Lawful := by
  intro p hp q hq hne a v a' hset
  simp only [notes_properties hm, List.mem_cons, List.not_mem_nil, or_false] at hp hq
  rcases hp with rfl | rfl | rfl | rfl <;> rcases hq with rfl | rfl | rfl | rfl
  all_goals first
    | exact absurd rfl hne
    | (obtain rfl := Except.ok.inj hset; rfl)
    | (obtain ⟨n, rfl⟩ := Note.setNumber_eq_ok hset; rfl)

/-- All three notes are inserted by one statement, and come out with the same marks as when each is
inserted by its own. -/
theorem sameInserts_of_declare_notes :
    let s : Session Nat Unit fun _ => Note := .new 0
    ∃ m filled stored s₁ s₂, ClassMap.declare "Note" Note.steps = .ok m ∧ m.Lawful
      ∧ notes.Accepts m (fun _ => True) ∧ notes.SameInserts () m s threeNotes filled stored s₁ s₂
      ∧ s₁.calls = [.execute ⟨"INSERT INTO \"Note\" (\"Mark\", \"text\") VALUES (@p0, @p1)" ++
          ", (@p2, @p3), (@p4, @p5)",
          ⟨.atSign, [⟨"@p0", .text "k0", none⟩, ⟨"@p1", .text "one", none⟩, ⟨"@p2", .text "x", none⟩,
            ⟨"@p3", .text "two", none⟩, ⟨"@p4", .text "k1", none⟩, ⟨"@p5", .null, none⟩]⟩, none⟩]
      ∧ stored = [⟨1, .text "k0", .text "one", .integer 3⟩, ⟨2, .text "x", .text "two", .integer 3⟩,
          ⟨3, .text "k1", .null, .integer 0⟩] := by
  intro s
  obtain ⟨m, hm⟩ : ∃ m, ClassMap.declare "Note" Note.steps = .ok m := ⟨_, rfl⟩
  have hkeys : ((Editing.forEach (notes.assignSurrogates m (surrogateColumns m.table))).run
      threeNotes s).1.1 = .ok () := by
    obtain rfl := Except.ok.inj hm
    decide +kernel
  obtain ⟨filled, stored, s₁, s₂, h⟩ := sameInserts_of_declare hm
    (show notes.mapOf s.cache () = .ok m from hm) (notes_lawful hm) (notes_accepts hm) trivial hkeys
  refine ⟨m, filled, stored, s₁, s₂, hm, notes_lawful hm, notes_accepts hm, h, ?_, ?_⟩
  · have hcalls : s₁.calls = ((notes.insertMany ()).run threeNotes s).2.calls := by
      rw [h.together]
    rw [hcalls]
    decide +kernel
  · have hstored : stored = ((Editing.forEach (notes.insertOnly ())).run threeNotes s).1.2 := by
      rw [h.singly]
    rw [hstored]
    decide +kernel

end Database

end SqlRecords
