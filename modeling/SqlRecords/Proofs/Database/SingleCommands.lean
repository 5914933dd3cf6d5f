import SqlRecords.Database.Fragments
import SqlRecords.Proofs.Database.KeyedWrites

/-!
# Operations of one command

Most operations prepare one command, send it and convert the reply.  Whatever can go wrong before
the command is sent depends on the class maps, the arguments and the generator, and on nothing that
the connection could say.  So it is gathered in a plan, which no connection has a part in: an
operation without a plan fails with the reason for that and calls nothing, and an operation with a
plan makes the one call of the plan, after which only that call and its reply can fail.

* `Plan` — a command, and what is made of the reply.
* `Operation` — the operations and their arguments; `Operation.plan` — what each of them prepares.
* `Database.Quiet`, `Database.Carries` — parts of operations before the call, and from the call on.
* **`Database.operation_outcome`** — every operation carries out its plan.
-/

namespace SqlRecords

/-! ## Plans -/

/-- What a connection replies: how many rows a write changed, or the rows of a query. -/
def Reply : (writes : Bool) → Type
  | true => Nat
  | false => ResultSet

/-- The call of a command, which either writes or queries. -/
def Command.call (c : Command) : (writes : Bool) → Call
  | true => .execute c
  | false => .query c

/-- The reply to a command. -/
def Connection.reply {σ : Type} (connection : Connection σ) (c : Command) (b : σ) :
    (writes : Bool) → Except Error (Reply writes) × σ
  | true => connection.execute c b
  | false => connection.query c b

/-- A command, and what is made of the reply to it. -/
structure Plan (writes : Bool) (α : Type) where
  command : Command
  convert : Reply writes → Except Error α

namespace Plan

variable {writes : Bool} {α β : Type}

/-- Whether a row was changed. -/
def change (c : Command) : Plan true Bool := ⟨c, fun (changed : Nat) => .ok (decide (0 < changed))⟩

/-- The number that a query gives. -/
def number (c : Command) : Plan false Int :=
  ⟨c, fun (set : ResultSet) => set.scalar >>= Value.readInt .uint64⟩

/-- The rows of a query. -/
def rows (c : Command) : Plan false (List Row) := ⟨c, fun (set : ResultSet) => .ok set.toRows⟩

/-- The records that the rows of a query stand for. -/
def records (m : ClassMap α) (fresh : α) (c : Command) : Plan false (List α) :=
  ⟨c, m.materialize fresh⟩

/-- What was made of the reply is converted further. -/
def bind (p : Plan writes α) (f : α → Except Error β) : Plan writes β :=
  ⟨p.command, fun reply => p.convert reply >>= f⟩

end Plan

/-- The class maps of the entities, or why there are none. -/
abbrev ClassMaps (ι : Type) (E : ι → Type) : Type := (i : ι) → Except Error (ClassMap (E i))

namespace Database

variable {σ ι : Type} {E : ι → Type} (db : Database σ ι E)

/-- The database on another connection. -/
def onConnection {σ' : Type} (connection : Connection σ') : Database σ' ι E :=
  { db with connection := connection }

/-- The command of a draft. -/
def drafted (d : Draft String) : Except Error Command :=
  match d.run db.generator.parameters with
  | (.ok sql, ps) => .ok (db.command sql ps)
  | (.error e, _) => .error e

/-- A command without parameters. -/
def plain (sql : String) : Command := db.command sql db.generator.parameters

/-- The records of an entity. -/
def recordsPlan (i : ι) (m : ClassMap (E i)) (c : Command) : Plan false (List (E i)) :=
  .records m (db.entities i).fresh c

/-- The records of a text that names the table and an order: that of the caller, or else that of the
table. -/
def orderedPlan (maps : ClassMaps ι E) (i : ι) (order : Option String)
    (text : (table order : String) → String) : Except Error (Plan false (List (E i))) := do
  let m ← maps i
  let order := (order.filter fun o => !Text.isBlankText o).getD (db.generator.defaultOrder m.table)
  return db.recordsPlan i m (db.plain (text (db.generator.tableName m.table) order))

end Database

/-! ## Operations -/

/-- An operation of one command, with its arguments. -/
inductive Operation (ι : Type) (E : ι → Type) where
  | update (i : ι) (a : E i)
  | delete (i : ι) (a : E i)
  | deleteWhere (i : ι) (f : Filter)
  | deleteById (i : ι) (id : Identifier)
  | get (i : ι) (id : Identifier)
  | getList (i : ι) (f : Option Filter) (order : List SortKey)
  | getPage (i : ι) (f : Option Filter) (order : List SortKey) (page : Page)
  | getSet (i : ι) (f : Option Filter) (order : List SortKey) (first size : UInt64)
  | count (i : ι) (f : Option Filter)
  | getWhere (i : ι) (e : Expr)
  | countWhere (i : ι) (e : Option Expr)
  | whereExpr (i : ι) (e : Option Expr) (order : Option String)
  | whereExprPage (i : ι) (e : Option Expr) (order : Option String) (page : Page)
  | whereSql (i : ι) (fragment : String) (order : Option String)
  | whereSqlPage (i : ι) (fragment : String) (order : Option String) (page : Page)
  | countSql (i : ι) (sql fragment : String)
  | updateFields (i : ι) (assigned matching : FieldSet)
  | updateSql (sql : String)
  | queryRows (sql : String)
  | queryRecords (i : ι) (sql : String)
  | queryRowsPage (sql order : String) (page : Page)
  | queryRecordsPage (i : ι) (sql order : String) (page : Page)
  | procedure (name : String) (arguments : FieldSet)

namespace Operation

variable {σ ι : Type} {E : ι → Type}

/-- Whether the operation writes; otherwise it queries. -/
def writes : Operation ι E → Bool
  | update .. | delete .. | deleteWhere .. | deleteById .. | updateFields .. | updateSql _ => true
  | _ => false

/-- What the operation gives. -/
def Result : Operation ι E → Type
  | update .. | delete .. | deleteWhere .. | deleteById .. => Bool
  | updateFields .. | updateSql _ => Nat
  | get i _ | getWhere i _ => Option (E i)
  | getList i _ _ | getPage i _ _ _ | getSet i _ _ _ _ | whereExpr i _ _ | whereExprPage i _ _ _
  | whereSql i _ _ | whereSqlPage i _ _ _ | queryRecords i _ | queryRecordsPage i _ _ _ =>
    List (E i)
  | count .. | countWhere .. | countSql .. => Int
  | queryRows _ | queryRowsPage .. | procedure .. => List Row

/-- The operation of the database. -/
def action [DecidableEq ι] (db : Database σ ι E) : (o : Operation ι E) → Action σ ι E o.Result
  | update i a => db.update i a
  | delete i a => db.delete i a
  | deleteWhere i f => db.deleteWhere i f
  | deleteById i id => db.deleteById i id
  | get i id => db.get i id
  | getList i f order => db.getList i f order
  | getPage i f order page => db.getPage i f order page
  | getSet i f order first size => db.getSet i f order first size
  | count i f => db.count i f
  | getWhere i e => db.getWhere i e
  | countWhere i e => db.countWhere i e
  | whereExpr i e order => db.whereExpr i e order
  | whereExprPage i e order page => db.whereExprPage i e order page
  | whereSql i fragment order => db.whereSql i fragment order
  | whereSqlPage i fragment order page => db.whereSqlPage i fragment order page
  | countSql i sql fragment => db.countSql i sql fragment
  | updateFields i assigned matching => db.updateFields i assigned matching
  | updateSql sql => db.updateSql sql
  | queryRows sql => db.queryRows sql
  | queryRecords i sql => db.queryRecords i sql
  | queryRowsPage sql order page => db.queryRowsPage sql order page
  | queryRecordsPage i sql order page => db.queryRecordsPage i sql order page
  | procedure name arguments => db.procedure name arguments

/-- What the operation prepares: its command, or the reason why there is none. -/
def plan (db : Database σ ι E) (maps : ClassMaps ι E) :
    (o : Operation ι E) → Except Error (Plan o.writes o.Result)
  | update i a => do
    let m ← maps i
    let p ← m.keyPredicate a
    return Plan.change (← db.drafted (db.generator.update m.table p (m.values a)))
  | delete i a => do
    let m ← maps i
    let p ← m.keyPredicate a
    return Plan.change (← db.drafted (db.generator.delete m.table (some p)))
  | deleteWhere i f => do
    let m ← maps i
    return Plan.change (← db.drafted (db.generator.delete m.table f.predicate?))
  | deleteById i id => do
    let m ← maps i
    let p ← id.predicate m.table
    return Plan.change (← db.drafted (db.generator.delete m.table (some p)))
  | get i id => do
    let m ← maps i
    let p ← id.predicate m.table
    let c ← db.drafted (db.generator.select m.table (some p) [])
    return (db.recordsPlan i m c).bind fun records => .ok records.head?
  | getList i f order => do
    let m ← maps i
    return db.recordsPlan i m
      (← db.drafted (db.generator.select m.table (f.bind Filter.predicate?) order))
  | getPage i f order page => do
    let m ← maps i
    return db.recordsPlan i m
      (← db.drafted (db.generator.selectPage m.table (f.bind Filter.predicate?) order page))
  | getSet i f order first size => do
    let m ← maps i
    return db.recordsPlan i m
      (← db.drafted (db.generator.selectSet m.table (f.bind Filter.predicate?) order first size))
  | count i f => do
    let m ← maps i
    return Plan.number (← db.drafted (db.generator.count m.table (f.bind Filter.predicate?)))
  | getWhere i e => do
    let fragment ← Expr.fragment (some e)
    let m ← maps i
    let sql := "select * from " ++ db.generator.tableName m.table ++ Database.wherePart fragment
    return (db.recordsPlan i m (db.plain sql)).bind fun records => .ok records.head?
  | countWhere i e => do
    let fragment ← Expr.fragment e
    let m ← maps i
    return Plan.number (db.plain
      ("select count(1) from " ++ db.generator.tableName m.table ++ Database.wherePart fragment))
  | whereExpr i e order => do
    let fragment ← Expr.fragment e
    db.orderedPlan maps i order fun table order =>
      "select * from " ++ table ++ Database.wherePart fragment ++ " order by " ++ order
  | whereExprPage i e order page => do
    let fragment ← Expr.fragment e
    db.orderedPlan maps i order fun table order => page.whereSql table fragment order
  | whereSql i fragment order =>
    db.orderedPlan maps i order fun table order =>
      "select * from " ++ table ++ " where " ++ Page.fragmentOrAlways fragment ++ " order by "
        ++ order
  | whereSqlPage i fragment order page =>
    db.orderedPlan maps i order fun table order => page.whereSql table fragment order
  | countSql i sql fragment => do
    let m ← maps i
    return Plan.number (db.plain
      (Database.countStatement (db.generator.tableName m.table) sql fragment))
  | updateFields i assigned matching => do
    let m ← maps i
    let pairs := assigned.fields.filter fun p => !matching.contains p.1
    if pairs.isEmpty then throw (.nothingAssigned m.table.entity)
    else if matching.isEmpty then throw (.nothingMatched m.table.entity)
    else
      return ⟨db.plain ("update " ++ db.generator.tableName m.table ++
        " set " ++ ",".intercalate (pairs.map (Database.literalPair m.table)) ++
        " where " ++ " and ".intercalate (matching.fields.map (Database.literalPair m.table))), .ok⟩
  | updateSql sql => return ⟨db.plain sql, .ok⟩
  | queryRows sql => return Plan.rows (db.plain sql)
  | queryRecords i sql => do
    let m ← maps i
    return db.recordsPlan i m (db.plain sql)
  | queryRowsPage sql order page => return Plan.rows (db.plain (page.sql sql order))
  | queryRecordsPage i sql order page => do
    let m ← maps i
    return db.recordsPlan i m (db.plain (page.sql sql order))
  | procedure name arguments => do
    let ps := arguments.fields.foldl (fun ps a => ps.pushNamed a.1 a.2) db.generator.parameters
    let sql ← db.generator.procedure name ps
    return Plan.rows (db.command sql ps)

end Operation

namespace Database

variable {σ ι : Type} {E : ι → Type} [DecidableEq ι] (db : Database σ ι E) {writes : Bool}
  {α β : Type}

/-! ## Before the call -/

/-- The action calls nothing and changes no class map, and gives what only the class maps decide. -/
def Quiet (x : Action σ ι E α) (r : ClassMaps ι E → Except Error α) : Prop :=
  ∀ s, ∃ s', x.run s = (r (db.mapOf s.cache), s') ∧ s'.calls = s.calls ∧ s'.backend = s.backend
    ∧ db.mapOf s'.cache = db.mapOf s.cache

/-- What a plan comes to: without a plan nothing is called, and with one its call is made and the
reply to it converted. -/
def CarriesOut (x : Action σ ι E α) (s : Session σ ι E) : Except Error (Plan writes α) → Prop
  | .error e => Refuses x s e
  | .ok p => ∃ s', x.run s
      = ((db.connection.reply p.command s.backend writes).1 >>= p.convert, s')
    ∧ s'.calls = s.calls ++ [p.command.call writes]
    ∧ s'.backend = (db.connection.reply p.command s.backend writes).2

/-- The action carries out the plan that the class maps of the session make. -/
def Carries (x : Action σ ι E α) (y : ClassMaps ι E → Except Error (Plan writes α)) : Prop :=
  ∀ s, db.CarriesOut x s (y (db.mapOf s.cache))

variable {db}

theorem quiet_ofExcept (r : Except Error α) : db.Quiet (Action.ofExcept r) fun _ => r :=
  fun s => ⟨s, rfl, rfl, rfl, rfl⟩

theorem quiet_classMap (i : ι) : db.Quiet (db.classMap i) fun maps => maps i := by
  intro s
  obtain ⟨builds, hrun⟩ := db.run_classMap i s
  exact ⟨_, hrun, rfl, rfl, db.mapOf_cacheWith s.cache i⟩

theorem Quiet.bind {x : Action σ ι E α} {r : ClassMaps ι E → Except Error α}
    {f : α → Action σ ι E β} {g : α → ClassMaps ι E → Except Error β} (hx : db.Quiet x r)
    (hf : ∀ a, db.Quiet (f a) (g a)) :
    db.Quiet (x >>= f) fun maps => r maps >>= fun a => g a maps := by
  intro s
  obtain ⟨s', hrun, hcalls, hbackend, hmaps⟩ := hx s
  beta_reduce
  cases hr : r (db.mapOf s.cache) with
  | error e =>
      rw [hr] at hrun
      exact ⟨s', Action.run_bind_of_error hrun f, hcalls, hbackend, hmaps⟩
  | ok a =>
      rw [hr] at hrun
      obtain ⟨s'', hrun', hcalls', hbackend', hmaps'⟩ := hf a s'
      rw [hmaps] at hrun'
      refine ⟨s'', ?_, hcalls'.trans hcalls, hbackend'.trans hbackend, hmaps'.trans hmaps⟩
      rw [Action.run_bind_of_ok hrun, hrun']
      rfl

/-! ## The call -/

/-- What comes before the call decides whether there is a plan. -/
theorem Quiet.then {x : Action σ ι E α} {r : ClassMaps ι E → Except Error α}
    {f : α → Action σ ι E β} {g : α → ClassMaps ι E → Except Error (Plan writes β)}
    (hx : db.Quiet x r) (hf : ∀ a, db.Carries (f a) (g a)) :
    db.Carries (x >>= f) fun maps => r maps >>= fun a => g a maps := by
  intro s
  obtain ⟨s', hrun, hcalls, hbackend, hmaps⟩ := hx s
  beta_reduce
  cases hr : r (db.mapOf s.cache) with
  | error e =>
      rw [hr] at hrun
      exact ⟨s', Action.run_bind_of_error hrun f, hcalls, hbackend⟩
  | ok a =>
      rw [hr] at hrun
      have hcarries := hf a s'
      rw [hmaps] at hcarries
      show db.CarriesOut (x >>= f) s (g a (db.mapOf s.cache))
      cases hg : g a (db.mapOf s.cache) with
      | error e =>
          rw [hg] at hcarries
          obtain ⟨s'', hrun', hcalls', hbackend'⟩ := hcarries
          refine ⟨s'', ?_, hcalls'.trans hcalls, hbackend'.trans hbackend⟩
          rw [Action.run_bind_of_ok hrun, hrun']
      | ok p =>
          rw [hg] at hcarries
          obtain ⟨s'', hrun', hcalls', hbackend'⟩ := hcarries
          -- What came before has called nothing, so the call meets the backend of the start.
          rw [hbackend] at hrun' hbackend'
          rw [hcalls] at hcalls'
          refine ⟨s'', ?_, hcalls', hbackend'⟩
          rw [Action.run_bind_of_ok hrun, hrun']

/-- Where there is no plan, nothing is called. -/
theorem carries_throw (e : Error) :
    db.Carries (throw e : Action σ ι E α) fun _ => (.error e : Except Error (Plan writes α)) :=
  fun s => ⟨s, rfl, rfl, rfl⟩

theorem Carries.congr {x : Action σ ι E α} {y y' : ClassMaps ι E → Except Error (Plan writes α)}
    (h : db.Carries x y) (hy : ∀ maps, y maps = y' maps) : db.Carries x y' :=
  fun s => hy (db.mapOf s.cache) ▸ h s

theorem carries_draft {d : Draft String} {f : String × Parameters → Action σ ι E α}
    {g : Command → Except Error (Plan writes α)}
    (hf : ∀ sql ps, db.Carries (f (sql, ps)) fun _ => g (db.command sql ps)) :
    db.Carries (db.draft d >>= f) fun _ => db.drafted d >>= g := by
  intro s
  rw [draft, drafted]
  rcases d.run db.generator.parameters with ⟨e | sql, ps⟩
  · exact ⟨s, rfl, rfl, rfl⟩
  · exact hf sql ps s

/-- What is made of the reply is a part of the plan. -/
theorem Carries.bind {x : Action σ ι E α} {y : ClassMaps ι E → Except Error (Plan writes α)}
    (h : db.Carries x y) (f : α → Except Error β) :
    db.Carries (x >>= fun a => Action.ofExcept (f a)) fun maps => (y maps).map (·.bind f) := by
  intro s
  have hcarries := h s
  beta_reduce
  cases hy : y (db.mapOf s.cache) with
  | error e =>
      rw [hy] at hcarries
      obtain ⟨s', hrun, hcalls, hbackend⟩ := hcarries
      exact ⟨s', Action.run_bind_of_error hrun _, hcalls, hbackend⟩
  | ok p =>
      rw [hy] at hcarries
      obtain ⟨s', hrun, hcalls, hbackend⟩ := hcarries
      refine ⟨s', ?_, hcalls, hbackend⟩
      rw [Action.run_bind, hrun]
      show _ = ((db.connection.reply p.command s.backend writes).1 >>= fun reply =>
        p.convert reply >>= f, s')
      rw [← bind_assoc]
      cases (db.connection.reply p.command s.backend writes).1 >>= p.convert <;> rfl

theorem carries_execute (sql : String) (ps : Parameters) :
    db.Carries (db.execute sql ps) fun _ =>
      (.ok ⟨db.command sql ps, .ok⟩ : Except Error (Plan true Nat)) := by
  intro s
  refine ⟨_, Prod.ext ?_ rfl, rfl, rfl⟩
  exact (bind_pure _).symm

theorem carries_query (sql : String) (ps : Parameters) :
    db.Carries (db.query sql ps) fun _ =>
      (.ok ⟨db.command sql ps, .ok⟩ : Except Error (Plan false ResultSet)) := by
  intro s
  refine ⟨_, Prod.ext ?_ rfl, rfl, rfl⟩
  exact (bind_pure _).symm

/-! ## Parts of the operations -/

/-- Whether a drafted statement changed a row. -/
theorem carries_write (d : Draft String) :
    db.Carries (db.write d) fun _ => db.drafted d >>= fun c => .ok (.change c) :=
  carries_draft fun sql ps => (carries_execute sql ps).bind fun changed =>
    .ok (decide (0 < changed))

theorem carries_fetch (i : ι) (m : ClassMap (E i)) (sql : String) (ps : Parameters) :
    db.Carries (db.fetch i m sql ps) fun _ => .ok (db.recordsPlan i m (db.command sql ps)) :=
  (carries_query sql ps).bind (m.materialize (db.entities i).fresh)

/-- The records of a drafted statement. -/
theorem carries_select (i : ι) (m : ClassMap (E i)) (d : Draft String) :
    db.Carries (db.draft d >>= fun (sql, ps) => db.fetch i m sql ps)
      fun _ => db.drafted d >>= fun c => .ok (db.recordsPlan i m c) :=
  carries_draft fun sql ps => carries_fetch i m sql ps

theorem carries_queryNumber (sql : String) (ps : Parameters) :
    db.Carries (db.queryNumber .uint64 sql ps) fun _ => .ok (.number (db.command sql ps)) :=
  (carries_query sql ps).bind fun set => set.scalar >>= Value.readInt .uint64

theorem carries_queryRows (sql : String) (ps : Parameters) :
    db.Carries (do let set ← db.query sql ps; return set.toRows)
      fun _ => .ok (.rows (db.command sql ps)) :=
  (carries_query sql ps).bind fun set => .ok set.toRows

theorem carries_queryRecords (i : ι) (sql : String) :
    db.Carries (db.queryRecords i sql)
      fun maps => maps i >>= fun m => .ok (db.recordsPlan i m (db.plain sql)) :=
  (quiet_classMap i).then fun m => carries_fetch i m sql _

theorem quiet_tableSql (i : ι) :
    db.Quiet (db.tableSql i) fun maps => maps i >>= fun m => .ok (db.generator.tableName m.table) :=
  (quiet_classMap i).bind fun m => quiet_ofExcept (.ok (db.generator.tableName m.table))

/-- The class map is asked for only where the caller gives no order. -/
theorem quiet_orderSql (i : ι) (order : Option String) :
    db.Quiet (db.orderSql i order) fun maps =>
      match order.filter fun o => !Text.isBlankText o with
      | some o => .ok o
      | none => maps i >>= fun m => .ok (db.generator.defaultOrder m.table) := by
  rw [orderSql]
  cases order.filter fun o => !Text.isBlankText o with
  | some o => exact quiet_ofExcept (.ok o)
  | none =>
      exact (quiet_classMap i).bind fun m =>
        quiet_ofExcept (.ok (db.generator.defaultOrder m.table))

/-- The class map is asked for up to three times, and is the same each time. -/
theorem carries_ordered (i : ι) (order : Option String) (text : (table order : String) → String) :
    db.Carries (db.orderSql i order >>= fun order => db.tableSql i >>= fun table =>
      db.queryRecords i (text table order)) fun maps => db.orderedPlan maps i order text := by
  refine ((quiet_orderSql i order).then fun order => (quiet_tableSql i).then fun table =>
    carries_queryRecords i (text table order)).congr fun maps => ?_
  rw [orderedPlan]
  cases order.filter fun o => !Text.isBlankText o <;> cases maps i <;> rfl

/-! ## Operations -/

omit [DecidableEq ι] in
/-- No connection has a part in a plan. -/
theorem plan_onConnection {σ' : Type} (connection : Connection σ') (maps : ClassMaps ι E)
    (o : Operation ι E) : o.plan (db.onConnection connection) maps = o.plan db maps := by
  cases o <;> rfl

theorem carries_action (o : Operation ι E) :
    db.Carries (o.action db) fun maps => o.plan db maps := by
  cases o with
  | update i a =>
      exact (quiet_classMap i).then fun m => (quiet_ofExcept (m.keyPredicate a)).then fun p =>
        carries_write (db.generator.update m.table p (m.values a))
  | delete i a =>
      exact (quiet_classMap i).then fun m => (quiet_ofExcept (m.keyPredicate a)).then fun p =>
        carries_write (db.generator.delete m.table (some p))
  | deleteWhere i f =>
      exact (quiet_classMap i).then fun m =>
        carries_write (db.generator.delete m.table f.predicate?)
  | deleteById i id =>
      exact (quiet_classMap i).then fun m => (quiet_ofExcept (id.predicate m.table)).then fun p =>
        carries_write (db.generator.delete m.table (some p))
  | get i id =>
      exact (quiet_classMap i).then fun m => (quiet_ofExcept (id.predicate m.table)).then fun p =>
        carries_draft fun sql ps => (carries_fetch i m sql ps).bind fun records =>
          .ok records.head?
  | getList i f order =>
      exact (quiet_classMap i).then fun m => carries_select i m _
  | getPage i f order page =>
      exact (quiet_classMap i).then fun m => carries_select i m _
  | getSet i f order first size =>
      exact (quiet_classMap i).then fun m => carries_select i m _
  | count i f =>
      exact (quiet_classMap i).then fun m => carries_draft fun sql ps => carries_queryNumber sql ps
  | getWhere i e =>
      refine (quiet_ofExcept (Expr.fragment (some e))).then fun fragment => Carries.congr
        ((quiet_tableSql i).then fun table => (carries_queryRecords i _).bind fun records =>
          .ok records.head?) fun maps => ?_
      cases maps i <;> rfl
  | countWhere i e =>
      refine (quiet_ofExcept (Expr.fragment e)).then fun fragment => Carries.congr
        ((quiet_tableSql i).then fun table => carries_queryNumber _ _) fun maps => ?_
      cases maps i <;> rfl
  | whereExpr i e order =>
      exact (quiet_ofExcept (Expr.fragment e)).then fun fragment => carries_ordered i order _
  | whereExprPage i e order page =>
      exact (quiet_ofExcept (Expr.fragment e)).then fun fragment => carries_ordered i order _
  | whereSql i fragment order => exact carries_ordered i order _
  | whereSqlPage i fragment order page => exact carries_ordered i order _
  | countSql i sql fragment =>
      refine Carries.congr ((quiet_tableSql i).then fun table => carries_queryNumber _ _)
        fun maps => ?_
      rw [Operation.plan]
      cases maps i <;> rfl
  | updateFields i assigned matching =>
      refine (quiet_classMap i).then fun m => ?_
      dsimp only
      split
      · exact carries_throw (.nothingAssigned m.table.entity)
      · split
        · exact carries_throw (.nothingMatched m.table.entity)
        · exact carries_execute _ _
  | updateSql sql => exact carries_execute sql _
  | queryRows sql => exact carries_queryRows sql _
  | queryRecords i sql => exact carries_queryRecords i sql
  | queryRowsPage sql order page => exact carries_queryRows (page.sql sql order) _
  | queryRecordsPage i sql order page => exact carries_queryRecords i (page.sql sql order)
  | procedure name arguments =>
      exact (quiet_ofExcept (db.generator.procedure name _)).then fun sql => carries_queryRows sql _

/-- **Every operation carries out its plan**, which is the same on every connection.  Where a class
map, an expression, a predicate or a statement that it needs cannot be made, it fails with the
reason and calls nothing; otherwise it makes one call, which is a write for the operations that write and a
query for the others, and fails only if the call fails or the reply cannot be converted. -/
theorem operation_outcome (s : Session σ ι E) (o : Operation ι E) :
    (∀ connection : Connection σ, o.plan (db.onConnection connection) (db.mapOf s.cache)
      = o.plan db (db.mapOf s.cache))
    ∧ db.CarriesOut (o.action db) s (o.plan db (db.mapOf s.cache)) :=
  ⟨fun connection => plan_onConnection connection _ o, carries_action o s⟩

end Database

end SqlRecords
