import SqlRecords.Database.Multiple
import SqlRecords.Proofs.Database.ClassMaps
import SqlRecords.Proofs.Predicate.SearchCondition

/-!
# Questions

What a selection asks of the database, apart from the numbers of its placeholders: a template, and
a value for each of its slots.  The strategies of `Database.getMultiple` differ in how they number
the placeholders, and in how they send the statements, but not in the questions.

* `Question` — a statement with its values.
* `Database.questions` — the questions of some requests.
* `Connection.AnswersWith` — what a connection answers to queries that come one after another.
* `Database.run_batchStatements` — the statements of a batch are the questions, numbered through.
* `Database.run_sequenceSets` — the commands of a sequence are the questions, each by itself.
-/

namespace SqlRecords

/-! ## Queries in turn -/

namespace Connection

variable {σ : Type} (c : Connection σ)

/-- The state after some queries were asked, one after another. -/
def queried (commands : List Command) (b : σ) : σ :=
  commands.foldl (fun b command => (c.query command b).2) b

/-- Every one of some queries is answered, when they are asked one after another. -/
def AnswersEach : List Command → σ → Prop
  | [], _ => True
  | command :: commands, b =>
    (∃ set, (c.query command b).1 = .ok set) ∧ AnswersEach commands (c.query command b).2

/-- They are answered with the given sets, each in the state that the ones before it left. -/
def AnswersWith : List Command → List ResultSet → σ → Prop
  | [], [], _ => True
  | command :: commands, set :: sets, b =>
    (c.query command b).1 = .ok set ∧ AnswersWith commands sets (c.query command b).2
  | [], _ :: _, _ => False
  | _ :: _, [], _ => False

end Connection

/-! ## Selections -/

namespace Generator

variable (g : Generator) (t : Table)

/-- The template of the clause of a filter. -/
def whereTemplate : Option Predicate → Except Error Template
  | none => .ok []
  | some p => (p.resolve t).map fun c => .text " WHERE " :: c.template g.dialect

/-- The template of a selection. -/
def selectTemplate (p : Option Predicate) (order : List SortKey) : Except Error Template := do
  let condition ← g.whereTemplate t p
  if order.isEmpty then return .text (g.selectFrom t) :: condition
  else
    let items ← g.orderItems t order
    return .text (g.selectFrom t) :: condition ++ [.text (" ORDER BY " ++ commaList items)]

theorem whereClause_follows (p : Option Predicate) :
    (g.whereClause t p).Follows (g.whereTemplate t p) (Predicate.filterValues p) := by
  cases p with
  | none => exact ⟨rfl, fun _ => rfl⟩
  | some p =>
      have h := p.draft_follows t g.dialect
      rw [whereTemplate]
      cases hc : p.resolve t with
      | error e =>
          rw [hc] at h
          exact fun ps => Draft.run_bind_of_error (h ps) _
      | ok c =>
          rw [hc] at h
          refine ⟨h.1, fun ps => ?_⟩
          rw [whereClause, Draft.run_bind_of_ok (h.2 ps)]
          rfl

/-- A selection gives the text of its template, from whatever parameters it starts. -/
theorem select_follows (p : Option Predicate) (order : List SortKey) :
    (g.select t p order).Follows (g.selectTemplate t p order) (Predicate.filterValues p) := by
  have h := g.whereClause_follows t p
  rw [selectTemplate]
  cases hcondition : g.whereTemplate t p with
  | error e =>
      rw [hcondition] at h
      exact fun ps => Draft.run_bind_of_error (h ps) _
  | ok condition =>
      rw [hcondition] at h
      cases horder : order.isEmpty with
      | true =>
          refine ⟨h.1, fun ps => ?_⟩
          rw [select, Draft.run_bind_of_ok (h.2 ps), horder]
          rfl
      | false =>
          cases hitems : g.orderItems t order with
          | error e =>
              intro ps
              rw [select, Draft.run_bind_of_ok (h.2 ps), horder, hitems]
              rfl
          | ok items =>
              show Draft.Follows _ (.ok (.text (g.selectFrom t) :: (condition
                ++ [.text (" ORDER BY " ++ commaList items)]))) _
              refine ⟨?_, fun ps => ?_⟩
              · rw [← h.1, Template.slots, Template.slots_append]
                rfl
              · rw [select, Draft.run_bind_of_ok (h.2 ps), horder, hitems, Template.fill,
                  Template.fill_append]
                simp [Template.fill, String.append_assoc]

variable {g} in
theorem orderItems_congr {g' : Generator} (h : g.dialect = g'.dialect) :
    ∀ order : List SortKey, g.orderItems t order = g'.orderItems t order
  | [] => rfl
  | key :: order => by
      rw [orderItems, orderItems, orderItems_congr h order]
      simp only [columnName, h]

variable {g} in
/-- A selection depends on the dialect, and on nothing else in the generator. -/
theorem selectTemplate_congr {g' : Generator} (h : g.dialect = g'.dialect) (p : Option Predicate)
    (order : List SortKey) : g.selectTemplate t p order = g'.selectTemplate t p order := by
  have hwhere : g.whereTemplate t p = g'.whereTemplate t p := by
    cases p with
    | none => rfl
    | some p => rw [whereTemplate, whereTemplate, h]
  have hfrom : g.selectFrom t = g'.selectFrom t := by
    have hcolumns : g.columnName = g'.columnName := by
      funext column
      rw [columnName, columnName, h]
    rw [selectFrom, selectFrom, columnList, columnList, tableName, tableName, hcolumns, h]
  rw [selectTemplate, selectTemplate, hwhere, hfrom, orderItems_congr t h]

end Generator

/-! ## Questions -/

/-- A statement with a value for each of its parameters. -/
structure Question where
  template : Template
  values : List Value

namespace Question

/-- The text of the question by itself. -/
def sql (style : PlaceholderStyle) (q : Question) : String := q.template.fill style 0

/-- The parameters of the question by itself. -/
def params (style : PlaceholderStyle) (q : Question) : Parameters :=
  (Parameters.empty style).pushAll q.values

/-- The texts of several questions that share their parameters. -/
def sharedSql (style : PlaceholderStyle) (qs : List Question) : List String :=
  Template.fillEach style 0 (qs.map (·.template))

/-- The parameters that several questions share. -/
def sharedParams (style : PlaceholderStyle) (qs : List Question) : Parameters :=
  (Parameters.empty style).pushAll (qs.flatMap (·.values))

/-- The slots of the first questions are the parameters that these share. -/
theorem slotsOfAll_take {qs : List Question}
    (h : ∀ q ∈ qs, q.template.slots = q.values.length) (i : Nat) :
    Template.slotsOfAll ((qs.map (·.template)).take i)
      = ((qs.take i).flatMap (·.values)).length := by
  induction qs generalizing i with
  | nil => simp [Template.slotsOfAll]
  | cons q qs ih =>
      obtain ⟨hq, hqs⟩ := List.forall_mem_cons.mp h
      cases i with
      | zero => rfl
      | succ i =>
          rw [List.map_cons, List.take_succ_cons, List.take_succ_cons, Template.slotsOfAll, ih hqs,
            hq, List.flatMap_cons, List.length_append]

end Question

namespace Database

variable {σ ι : Type} {E : ι → Type} (db : Database σ ι E)

/-- The question of a request, given the class maps. -/
def question (maps : (i : ι) → Except Error (ClassMap (E i))) (r : SelectRequest ι) :
    Except Error Question := do
  let m ← maps r.entity
  let x ← db.generator.selectTemplate m.table (r.filter.bind Filter.predicate?) r.order
  return ⟨x, Predicate.filterValues (r.filter.bind Filter.predicate?)⟩

/-- The questions of several requests. -/
def questions (maps : (i : ι) → Except Error (ClassMap (E i))) :
    List (SelectRequest ι) → Except Error (List Question)
  | [] => .ok []
  | r :: rest => do
    let q ← db.question maps r
    let qs ← questions maps rest
    return q :: qs

variable {db}

/-- The question of a request is what its selection drafts, from whatever parameters. -/
theorem question_eq_ok {maps : (i : ι) → Except Error (ClassMap (E i))} {r : SelectRequest ι}
    {q : Question} (h : db.question maps r = .ok q) :
    ∃ m, maps r.entity = .ok m
      ∧ (db.generator.select m.table (r.filter.bind Filter.predicate?) r.order).Follows
          (.ok q.template) q.values := by
  obtain ⟨m, hm, h⟩ := Error.bind_eq_ok h
  obtain ⟨x, hx, h⟩ := Error.bind_eq_ok h
  obtain rfl := Except.ok.inj h
  have hfollows := db.generator.select_follows m.table (r.filter.bind Filter.predicate?) r.order
  rw [hx] at hfollows
  exact ⟨m, hm, hfollows⟩

/-- There is a question for each request, at the same place. -/
theorem questions_eq_ok {maps : (i : ι) → Except Error (ClassMap (E i))} :
    ∀ {requests : List (SelectRequest ι)} {qs : List Question},
      db.questions maps requests = .ok qs → qs.length = requests.length
        ∧ ∀ (i : Nat) q, qs[i]? = some q → ∃ r, requests[i]? = some r ∧ db.question maps r = .ok q
  | [], qs, h => by
      obtain rfl := Except.ok.inj h
      exact ⟨rfl, by simp⟩
  | r :: requests, qs, h => by
      obtain ⟨q, hq, h⟩ := Error.bind_eq_ok h
      obtain ⟨rest, hrest, h⟩ := Error.bind_eq_ok h
      obtain rfl := Except.ok.inj h
      obtain ⟨hlength, heach⟩ := questions_eq_ok hrest
      refine ⟨congrArg (· + 1) hlength, fun i p hp => ?_⟩
      cases i with
      | zero => exact ⟨r, rfl, by rw [← Option.some.inj hp]; exact hq⟩
      | succ i => exact heach i p hp

/-! ## Answers -/

variable (db) in
/-- The command of a question by itself. -/
def ask (q : Question) : Command :=
  db.command (q.sql db.generator.dialect.style) (q.params db.generator.dialect.style)

/-- What is known of a sequence of questions that the connection has answered with the given sets. -/
structure Answered (db : Database σ ι E) (qs : List Question) (sets : List ResultSet)
    (s s' : Session σ ι E) : Prop where
  answers : db.connection.AnswersWith (qs.map db.ask) sets s.backend
  calls : s'.calls = s.calls ++ (qs.map db.ask).map .query
  backend : s'.backend = db.connection.queried (qs.map db.ask) s.backend

/-- What is known of a sequence of questions of which the connection has refused `q`, at the place
`i`, with the error `e`: those before it are answered, and nothing is asked after it. -/
structure Refused (db : Database σ ι E) (qs : List Question) (e : Error) (s s' : Session σ ι E)
    (i : Nat) (q : Question) : Prop where
  question : qs[i]? = some q
  answers : db.connection.AnswersEach ((qs.take i).map db.ask) s.backend
  refusal : (db.connection.query (db.ask q)
    (db.connection.queried ((qs.take i).map db.ask) s.backend)).1 = .error e
  calls : s'.calls = s.calls ++ ((qs.take (i + 1)).map db.ask).map .query
  backend : s'.backend = db.connection.queried ((qs.take (i + 1)).map db.ask) s.backend

section Cons

variable {q : Question} {qs : List Question} {s s₁ s' : Session σ ι E} {set : ResultSet}
  (hbackend : s₁.backend = (db.connection.query (db.ask q) s.backend).2)
  (hcalls : s₁.calls = s.calls ++ [.query (db.ask q)])
  (hset : (db.connection.query (db.ask q) s.backend).1 = .ok set)

include hbackend hcalls

/-- The first question is refused. -/
theorem Refused.first {e : Error} (h : (db.connection.query (db.ask q) s.backend).1 = .error e) :
    db.Refused (q :: qs) e s s₁ 0 q :=
  ⟨rfl, trivial, h, hcalls, hbackend⟩

include hset

/-- One more question in front, which is answered. -/
theorem Answered.cons {sets : List ResultSet} (h : db.Answered qs sets s₁ s') :
    db.Answered (q :: qs) (set :: sets) s s' where
  answers := ⟨hset, hbackend ▸ h.answers⟩
  calls := by
    rw [h.calls, hcalls, List.append_assoc]
    rfl
  backend := by
    rw [h.backend, hbackend]
    rfl

theorem Refused.cons {e : Error} {i : Nat} {q' : Question} (h : db.Refused qs e s₁ s' i q') :
    db.Refused (q :: qs) e s s' (i + 1) q' where
  question := h.question
  answers := ⟨⟨set, hset⟩, hbackend ▸ h.answers⟩
  refusal := by
    have hrefusal := h.refusal
    rw [hbackend] at hrefusal
    exact hrefusal
  calls := by
    rw [h.calls, hcalls, List.append_assoc]
    rfl
  backend := by
    rw [h.backend, hbackend]
    rfl

end Cons

/-- The state stays good while questions are asked. -/
theorem good_queried {qs : List Question} {good : σ → Prop} {b : σ}
    (hkeeps : ∀ q ∈ qs, ∀ b, good b → good (db.connection.query (db.ask q) b).2) (hgood : good b) :
    good (db.connection.queried (qs.map db.ask) b) := by
  induction qs generalizing b with
  | nil => exact hgood
  | cons q qs ih =>
      obtain ⟨hfirst, hrest⟩ := List.forall_mem_cons.mp hkeeps
      exact ih hrest (hfirst b hgood)

/-- Questions that are answered alike in every good state are answered so in turn. -/
theorem sets_eq_of_answersWith {qs : List Question} {good : σ → Prop}
    {answer : Question → ResultSet}
    (halone : ∀ q ∈ qs, ∀ b, good b → (db.connection.query (db.ask q) b).1 = .ok (answer q))
    (hkeeps : ∀ q ∈ qs, ∀ b, good b → good (db.connection.query (db.ask q) b).2)
    {sets : List ResultSet} {b : σ} (hgood : good b)
    (h : db.connection.AnswersWith (qs.map db.ask) sets b) : sets = qs.map answer := by
  induction qs generalizing sets b with
  | nil =>
      cases sets with
      | nil => rfl
      | cons set sets => exact absurd h id
  | cons q qs ih =>
      obtain ⟨halone, halones⟩ := List.forall_mem_cons.mp halone
      obtain ⟨hkeep, hkeeps⟩ := List.forall_mem_cons.mp hkeeps
      cases sets with
      | nil => exact absurd h id
      | cons set sets =>
          obtain ⟨hset, hsets⟩ := h
          rw [halone b hgood] at hset
          rw [List.map_cons, Except.ok.inj hset, ih halones hkeeps (hkeep b hgood) hsets]

variable [DecidableEq ι]

/-! ## Statements -/

/-- The statement of a request is its question, numbered after the parameters so far. -/
theorem run_requestStatement {r : SelectRequest ι} {q : Question} {s : Session σ ι E}
    (h : db.question (db.mapOf s.cache) r = .ok q) (ps : Parameters) :
    ∃ builds, (db.requestStatement r ps).run s
      = (.ok (q.template.fill ps.style ps.size, ps.pushAll q.values),
          { s with cache := db.cacheWith s.cache r.entity, builds := builds }) := by
  obtain ⟨m, hm, -, hrun⟩ := question_eq_ok h
  obtain ⟨builds, hmap⟩ := db.run_classMap r.entity s
  rw [hm] at hmap
  refine ⟨builds, ?_⟩
  rw [requestStatement, Action.run_bind_of_ok hmap, hrun ps]
  rfl

/-- **The statements of a batch** are the questions of the requests, numbered through. -/
theorem run_batchStatements : ∀ {requests : List (SelectRequest ι)} {qs : List Question}
    {s : Session σ ι E}, db.questions (db.mapOf s.cache) requests = .ok qs → ∀ ps : Parameters,
      ∃ builds, (db.batchStatements requests ps).run s
        = (.ok (Template.fillEach ps.style ps.size (qs.map (·.template)),
              ps.pushAll (qs.flatMap (·.values))),
            { s with
              cache := db.cacheAfter s.cache (requests.map (·.entity)), builds := builds })
  | [], qs, s, h, ps => by
      obtain rfl := Except.ok.inj h
      exact ⟨s.builds, rfl⟩
  | r :: requests, qs, s, h, ps => by
      obtain ⟨q, hq, h⟩ := Error.bind_eq_ok h
      obtain ⟨rest, hrest, h⟩ := Error.bind_eq_ok h
      obtain rfl := Except.ok.inj h
      obtain ⟨m, -, hslots, -⟩ := question_eq_ok hq
      obtain ⟨builds, hfirst⟩ := run_requestStatement hq ps
      have hmaps : db.mapOf (db.cacheWith s.cache r.entity) = db.mapOf s.cache :=
        db.mapOf_cacheWith s.cache r.entity
      rw [← hmaps] at hrest
      obtain ⟨builds', hothers⟩ := run_batchStatements
        (s := { s with cache := db.cacheWith s.cache r.entity, builds := builds }) hrest
        (ps.pushAll q.values)
      rw [Parameters.style_pushAll, Parameters.size_pushAll, ← hslots] at hothers
      refine ⟨builds', ?_⟩
      rw [batchStatements, Action.run_bind_of_ok hfirst]
      show Action.run (_ >>= _) _ = _
      rw [Action.run_bind_of_ok hothers, List.flatMap_cons, Parameters.pushAll_append]
      rfl

/-- The first of a sequence of requests is sent before the others are drafted. -/
theorem run_sequenceSets_cons {r : SelectRequest ι} {q : Question} {s : Session σ ι E}
    (h : db.question (db.mapOf s.cache) r = .ok q) :
    ∃ s₁ : Session σ ι E, s₁.cache = db.cacheWith s.cache r.entity
      ∧ s₁.backend = (db.connection.query (db.ask q) s.backend).2
      ∧ s₁.calls = s.calls ++ [.query (db.ask q)]
      ∧ ∀ requests, (db.sequenceSets (r :: requests)).run s
        = match (db.connection.query (db.ask q) s.backend).1 with
          | .error e => (.error e, s₁)
          | .ok set =>
            match (db.sequenceSets requests).run s₁ with
            | (.error e, s₂) => (.error e, s₂)
            | (.ok sets, s₂) => (.ok (set :: sets), s₂) := by
  obtain ⟨builds, hstatement⟩ := run_requestStatement h db.generator.parameters
  -- The session after the statement was drafted, and the one after it was sent.
  let s₀ : Session σ ι E := { s with cache := db.cacheWith s.cache r.entity, builds := builds }
  let s₁ : Session σ ι E :=
    { s₀ with
      backend := (db.connection.query (db.ask q) s.backend).2
      calls := s.calls ++ [.query (db.ask q)] }
  have hsend : (db.query (q.sql db.generator.dialect.style)
      (q.params db.generator.dialect.style)).run s₀
      = ((db.connection.query (db.ask q) s.backend).1, s₁) := rfl
  refine ⟨s₁, rfl, rfl, rfl, fun requests => ?_⟩
  rw [sequenceSets, Action.run_bind_of_ok hstatement]
  cases hquery : (db.connection.query (db.ask q) s.backend).1 with
  | error e =>
      rw [hquery] at hsend
      exact Action.run_bind_of_error hsend _
  | ok set =>
      rw [hquery] at hsend
      refine (Action.run_bind_of_ok hsend _).trans ?_
      rcases hrun : (db.sequenceSets requests).run s₁ with ⟨e | sets, s₂⟩
      · exact Action.run_bind_of_error hrun _
      · exact Action.run_bind_of_ok hrun _

/-- **The commands of a sequence** are the questions of the requests, each by itself.  There is one
for every request, or for every request up to the first that the connection refuses. -/
theorem run_sequenceSets : ∀ {requests : List (SelectRequest ι)} {qs : List Question}
    {s : Session σ ι E}, db.questions (db.mapOf s.cache) requests = .ok qs →
      (∃ sets s', (db.sequenceSets requests).run s = (.ok sets, s')
          ∧ s'.cache = db.cacheAfter s.cache (requests.map (·.entity))
          ∧ db.Answered qs sets s s')
        ∨ ∃ e s' i q, (db.sequenceSets requests).run s = (.error e, s')
          ∧ db.Refused qs e s s' i q
  | [], qs, s, h => by
      obtain rfl := Except.ok.inj h
      exact .inl ⟨[], s, rfl, rfl, trivial, (List.append_nil _).symm, rfl⟩
  | r :: requests, qs, s, h => by
      obtain ⟨q, hq, h⟩ := Error.bind_eq_ok h
      obtain ⟨rest, hrest, h⟩ := Error.bind_eq_ok h
      obtain rfl := Except.ok.inj h
      obtain ⟨s₁, hcache₁, hbackend₁, hcalls₁, hrun₁⟩ := run_sequenceSets_cons hq
      rw [← db.mapOf_cacheWith s.cache r.entity, ← hcache₁] at hrest
      rw [hrun₁ requests]
      cases hquery : (db.connection.query (db.ask q) s.backend).1 with
      | error e => exact .inr ⟨e, s₁, 0, q, rfl, .first hbackend₁ hcalls₁ hquery⟩
      | ok set =>
          rcases run_sequenceSets hrest with
            ⟨sets, s', hrun, hcache, hanswered⟩ | ⟨e, s', i, q', hrun, hrefused⟩
          · simp only [hrun]
            refine .inl ⟨set :: sets, s', rfl, ?_, hanswered.cons hbackend₁ hcalls₁ hquery⟩
            rw [hcache, hcache₁]
            rfl
          · simp only [hrun]
            exact .inr ⟨e, s', i + 1, q', rfl, hrefused.cons hbackend₁ hcalls₁ hquery⟩

end Database

end SqlRecords
