import SqlRecords.Proofs.Database.KeyedWrites
import SqlRecords.Proofs.Database.Strategies

/-!
# Requests that cannot be drafted

A request whose entity has no class map, or whose filter or order does not fit the table, has no
statement.  Where several statements are joined into one command, all of them are drafted before
the command is sent, so one invalid request keeps everything from being sent.  Where the statements
are sent one after another, each is drafted when its turn comes, and the requests before the first
invalid one have been asked by then.

* `Database.Invalid` — what can be wrong with a request.
* `Database.CommandOf` — the command of a request that is asked by itself.
* `Connection.EndsInvalid` — the two ways in which a sequence with an invalid request can end.
* **`Database.getMultiple_rejects`** — what becomes of requests of which one is invalid.
-/

namespace SqlRecords

/-! ## Sequences with an invalid request -/

namespace Connection

variable {σ : Type} (c : Connection σ)

/-- How the queries of a sequence end in which `commands` stand before a request that is invalid with
the error `e`: what is asked, and the error that comes of it. -/
inductive EndsInvalid (commands : List Command) (e : Error) (b : σ) : List Command → Error → Prop where
  /-- The commands are answered, and then the request is found invalid. -/
  | invalid (hanswers : c.AnswersEach commands b) : EndsInvalid commands e b commands e
  /-- One of the commands is refused, and nothing is asked after it. -/
  | refused {before after : List Command} {command : Command} {e' : Error}
      (hcommands : commands = before ++ command :: after) (hanswers : c.AnswersEach before b)
      (hrefusal : (c.query command (c.queried before b)).1 = .error e') :
      EndsInvalid commands e b (before ++ [command]) e'

variable {c} in
/-- One more command in front, which is answered. -/
theorem EndsInvalid.cons {command : Command} {commands made : List Command}
    {e e' : Error} {b : σ} {set : ResultSet} (hanswer : (c.query command b).1 = .ok set)
    (h : c.EndsInvalid commands e (c.query command b).2 made e') :
    c.EndsInvalid (command :: commands) e b (command :: made) e' := by
  cases h with
  | invalid hanswers => exact .invalid ⟨⟨set, hanswer⟩, hanswers⟩
  | refused hcommands hanswers hrefusal =>
      exact @refused _ _ (command :: commands) _ b (command :: _) _ _ _
        (congrArg (command :: ·) hcommands) ⟨⟨set, hanswer⟩, hanswers⟩ hrefusal

end Connection

namespace Database

variable {σ ι : Type} {E : ι → Type} {db : Database σ ι E}

/-! ## Requests -/

/-- What keeps the statement of a request from being drafted. -/
inductive Invalid (db : Database σ ι E) (maps : (i : ι) → Except Error (ClassMap (E i)))
    (r : SelectRequest ι) : Error → Prop where
  /-- The entity has no class map. -/
  | classMap {e : Error} (h : maps r.entity = .error e) : Invalid db maps r e
  /-- The filter does not fit the table. -/
  | filter {m : ClassMap (E r.entity)} {e : Error} (hm : maps r.entity = .ok m)
      (h : ((db.generator.whereClause m.table (r.filter.bind Filter.predicate?)).run
        db.generator.parameters).1 = .error e) : Invalid db maps r e
  /-- The filter fits the table, and the order does not. -/
  | order {m : ClassMap (E r.entity)} {condition : String} {ps : Parameters} {e : Error}
      (hm : maps r.entity = .ok m)
      (hfilter : (db.generator.whereClause m.table (r.filter.bind Filter.predicate?)).run
        db.generator.parameters = (.ok condition, ps))
      (h : db.generator.orderItems m.table r.order = .error e) : Invalid db maps r e

/-- The command of a request that is asked by itself. -/
def CommandOf (db : Database σ ι E) (maps : (i : ι) → Except Error (ClassMap (E i)))
    (r : SelectRequest ι) (c : Command) : Prop :=
  ∃ m sql ps, maps r.entity = .ok m
    ∧ (db.generator.select m.table (r.filter.bind Filter.predicate?) r.order).run
        db.generator.parameters = (.ok sql, ps)
    ∧ c = db.command sql ps

section Requests

variable {maps : (i : ι) → Except Error (ClassMap (E i))} {r : SelectRequest ι} {e : Error}

/-- A request without a question is invalid, for the same reason. -/
theorem invalid_of_question (h : db.question maps r = .error e) : db.Invalid maps r e := by
  rcases Error.bind_eq_error h with hm | ⟨m, hm, h⟩
  · exact .classMap hm
  have hclause := db.generator.whereClause_follows m.table (r.filter.bind Filter.predicate?)
  rcases Error.bind_eq_error h with hx | ⟨x, -, h⟩
  · rcases Error.bind_eq_error hx with hcondition | ⟨condition, hcondition, hx⟩
    · rw [hcondition] at hclause
      exact .filter hm (hclause _)
    · rw [hcondition] at hclause
      refine .order hm (hclause.2 _) ?_
      split at hx
      · exact absurd hx nofun
      · rcases Error.bind_eq_error hx with hitems | ⟨items, -, hx⟩
        · exact hitems
        · exact absurd hx nofun
  · exact absurd h nofun

/-- An invalid request has no question. -/
theorem question_of_invalid (h : db.Invalid maps r e) : db.question maps r = .error e := by
  cases h with
  | classMap hm =>
      rw [question, hm]
      rfl
  | filter hm h =>
      have hcondition := (db.generator.whereClause_follows _ _).eq_error h
      rw [question, hm]
      show (db.generator.selectTemplate _ _ _ >>= _) = _
      rw [Generator.selectTemplate, hcondition]
      rfl
  | order hm hfilter h =>
      obtain ⟨condition, hcondition, -⟩ :=
        (db.generator.whereClause_follows _ _).exists_template hfilter
      have horder : ¬ r.order.isEmpty := by
        intro hnil
        rw [List.isEmpty_iff.mp hnil] at h
        cases h
      rw [question, hm]
      show (db.generator.selectTemplate _ _ _ >>= _) = _
      rw [Generator.selectTemplate, hcondition]
      show (ite _ _ _ >>= _) = _
      rw [if_neg horder, h]
      rfl

theorem commandOf_ask {q : Question} (h : db.question maps r = .ok q) :
    db.CommandOf maps r (db.ask q) := by
  obtain ⟨m, hm, -, hrun⟩ := question_eq_ok h
  exact ⟨m, _, _, hm, hrun _, rfl⟩

/-- Where one request is invalid, there is a first one. -/
theorem exists_first_invalid {requests : List (SelectRequest ι)} (hr : r ∈ requests)
    (h : db.question maps r = .error e) :
    ∃ valid first rest e' qs, requests = valid ++ first :: rest
      ∧ db.question maps first = .error e'
      ∧ List.Forall₂ (fun r q => db.question maps r = .ok q) valid qs := by
  induction requests with
  | nil => exact absurd hr List.not_mem_nil
  | cons first rest ih =>
      cases hfirst : db.question maps first with
      | error e' => exact ⟨[], first, rest, e', [], rfl, hfirst, .nil⟩
      | ok q =>
          have hr' : r ∈ rest := by
            rcases List.mem_cons.mp hr with rfl | hr'
            · exact absurd (hfirst.symm.trans h) nofun
            · exact hr'
          obtain ⟨valid, second, others, e', qs, rfl, hsecond, hvalid⟩ := ih hr'
          exact ⟨first :: valid, second, others, e', q :: qs, rfl, hsecond, .cons hfirst hvalid⟩

end Requests

variable [DecidableEq ι] {s : Session σ ι E} {e : Error}

/-! ## One command -/

theorem refuses_requestStatement {r : SelectRequest ι}
    (h : db.question (db.mapOf s.cache) r = .error e) (ps : Parameters) :
    Refuses (db.requestStatement r ps) s e := by
  rcases Error.bind_eq_error h with hm | ⟨m, hm, h⟩
  · obtain ⟨builds, hrun⟩ := db.run_classMap r.entity s
    rw [hm] at hrun
    exact ⟨_, Action.run_bind_of_error hrun _, rfl, rfl⟩
  · rcases Error.bind_eq_error h with hx | ⟨x, -, h⟩
    · have hselect := db.generator.select_follows m.table (r.filter.bind Filter.predicate?) r.order
      rw [hx] at hselect
      refine Refuses.of_classMap hm fun s => ?_
      have hfail := hselect ps
      rcases hrun : (db.generator.select m.table (r.filter.bind Filter.predicate?) r.order).run ps
        with ⟨e' | sql, ps'⟩
      · rw [hrun] at hfail
        obtain rfl := Except.error.inj hfail
        exact ⟨s, rfl, rfl, rfl⟩
      · rw [hrun] at hfail
        exact absurd hfail nofun
    · exact absurd h nofun

/-- The statements of a batch are drafted up to the first invalid one, and nothing is sent. -/
theorem refuses_batchStatements {valid : List (SelectRequest ι)} {qs : List Question}
    {first : SelectRequest ι} (hfirst : db.question (db.mapOf s.cache) first = .error e)
    (hvalid : List.Forall₂ (fun r q => db.question (db.mapOf s.cache) r = .ok q) valid qs)
    (rest : List (SelectRequest ι)) (ps : Parameters) :
    Refuses (db.batchStatements (valid ++ first :: rest) ps) s e := by
  induction valid generalizing qs s ps with
  | nil =>
      obtain ⟨s', hrun, hcalls, hbackend⟩ := refuses_requestStatement hfirst ps
      exact ⟨s', Action.run_bind_of_error hrun _, hcalls, hbackend⟩
  | cons r valid ih =>
      obtain ⟨q, qs, hq, hqs, rfl⟩ := List.forall₂_cons_left_iff.mp hvalid
      obtain ⟨builds, hstatement⟩ := run_requestStatement hq ps
      have hmaps := db.mapOf_cacheWith s.cache r.entity
      obtain ⟨s', hrun, hcalls, hbackend⟩ := ih
        (s := { s with cache := db.cacheWith s.cache r.entity, builds := builds })
        (hmaps.symm ▸ hfirst) (hmaps.symm ▸ hqs) (ps.pushAll q.values)
      refine ⟨s', ?_, hcalls, hbackend⟩
      rw [List.cons_append, batchStatements, Action.run_bind_of_ok hstatement]
      exact Action.run_bind_of_error hrun _

/-! ## One command after another -/

/-- The requests before the first invalid one are asked, as long as they are answered. -/
theorem run_sequenceSets_of_invalid {valid : List (SelectRequest ι)} {qs : List Question}
    {first : SelectRequest ι} (hfirst : db.question (db.mapOf s.cache) first = .error e)
    (hvalid : List.Forall₂ (fun r q => db.question (db.mapOf s.cache) r = .ok q) valid qs)
    (rest : List (SelectRequest ι)) :
    ∃ made e' s', (db.sequenceSets (valid ++ first :: rest)).run s = (.error e', s')
      ∧ db.connection.EndsInvalid (qs.map db.ask) e s.backend made e'
      ∧ s'.calls = s.calls ++ made.map .query
      ∧ s'.backend = db.connection.queried made s.backend := by
  induction valid generalizing qs s with
  | nil =>
      obtain rfl := List.forall₂_nil_left_iff.mp hvalid
      obtain ⟨s', hrun, hcalls, hbackend⟩ :=
        refuses_requestStatement hfirst db.generator.parameters
      refine ⟨[], e, s', Action.run_bind_of_error hrun _, .invalid trivial, ?_, hbackend⟩
      rw [hcalls, List.map_nil, List.append_nil]
  | cons r valid ih =>
      obtain ⟨q, qs, hq, hqs, rfl⟩ := List.forall₂_cons_left_iff.mp hvalid
      obtain ⟨s₁, hcache₁, hbackend₁, hcalls₁, hrun₁⟩ := run_sequenceSets_cons hq
      have hmaps : db.mapOf s₁.cache = db.mapOf s.cache := by
        rw [hcache₁, db.mapOf_cacheWith]
      rw [List.cons_append, hrun₁]
      cases hquery : (db.connection.query (db.ask q) s.backend).1 with
      | error e' =>
          have hends : db.connection.EndsInvalid (db.ask q :: qs.map db.ask) e s.backend
              ([] ++ [db.ask q]) e' := .refused rfl trivial hquery
          exact ⟨[db.ask q], e', s₁, rfl, hends, hcalls₁, hbackend₁⟩
      | ok set =>
          obtain ⟨made, e', s', hrun, hends, hcalls, hbackend⟩ :=
            ih (hmaps.symm ▸ hfirst) (hmaps.symm ▸ hqs)
          rw [hbackend₁] at hends hbackend
          refine ⟨db.ask q :: made, e', s', ?_, hends.cons hquery, ?_, hbackend⟩
          · simp only [hrun]
          · rw [hcalls, hcalls₁, List.append_assoc]
            rfl

/-! ## Both ways -/

/-- What becomes of requests of which `first` is the first that is invalid, with the error `e`. -/
structure Rejects (db : Database σ ι E) (s : Session σ ι E)
    (requests valid : List (SelectRequest ι)) (commands : List Command) (first : SelectRequest ι)
    (rest : List (SelectRequest ι)) (e : Error) : Prop where
  requests_eq : requests = valid ++ first :: rest
  invalid : db.Invalid (db.mapOf s.cache) first e
  /-- What comes before it is not invalid, and comes to these commands. -/
  not_invalid : ∀ r ∈ valid, ∀ e', ¬ db.Invalid (db.mapOf s.cache) r e'
  commands_eq : List.Forall₂ (db.CommandOf (db.mapOf s.cache)) valid commands
  /-- Where the statements are joined, nothing is sent. -/
  batch : Refuses ((db.withBatches true).getMultiple requests) s e
  /-- Where they are not, the commands before the invalid request are sent. -/
  sequence : ∃ made e' s', ((db.withBatches false).getMultiple requests).run s = (.error e', s')
    ∧ db.connection.EndsInvalid commands e s.backend made e'
    ∧ s'.calls = s.calls ++ made.map .query
    ∧ s'.backend = db.connection.queried made s.backend

/-- **An invalid request is not sent**, and no request after it.  Joined into one command, the
requests before it are not sent either; one after another, they are, up to the first that the
connection refuses.  The error is that of the first invalid request, unless the connection refused a
request before it. -/
theorem getMultiple_rejects {requests : List (SelectRequest ι)} {r : SelectRequest ι}
    (hr : r ∈ requests) (h : db.Invalid (db.mapOf s.cache) r e) :
    ∃ valid commands first rest e', db.Rejects s requests valid commands first rest e' := by
  obtain ⟨valid, first, rest, e', qs, rfl, hfirst, hvalid⟩ :=
    exists_first_invalid hr (question_of_invalid h)
  refine ⟨valid, qs.map db.ask, first, rest, e', ?_⟩
  constructor
  case requests_eq => rfl
  case invalid => exact invalid_of_question hfirst
  case not_invalid =>
    refine ((List.forall₂_and_left valid qs).mp (hvalid.imp fun r q hq => ⟨?_, hq⟩)).1
    intro e hinvalid
    rw [question_of_invalid hinvalid] at hq
    exact absurd hq nofun
  case commands_eq =>
    rw [List.forall₂_map_right_iff]
    exact hvalid.imp fun r q hq => commandOf_ask hq
  case batch =>
    let s₁ : Session σ ι E :=
      { s with events := s.events ++ [.severalQueries true (valid ++ first :: rest).length] }
    have hreport : ((db.withBatches true).report (.severalQueries true
        (valid ++ first :: rest).length)).run s = (.ok (), s₁) := rfl
    have hrefuses : Refuses ((db.withBatches true).batchStatements (valid ++ first :: rest)
        db.generator.parameters) s₁ e' :=
      refuses_batchStatements (s := s₁) ((db.question_withBatches true _ first).trans hfirst)
        (hvalid.imp fun r q hq => (db.question_withBatches true _ r).trans hq) rest _
    obtain ⟨s', hrun, hcalls, hbackend⟩ := hrefuses
    refine ⟨s', ?_, hcalls, hbackend⟩
    rw [getMultiple]
    exact (Action.run_bind_of_ok hreport _).trans (Action.run_bind_of_error hrun _)
  case sequence =>
    obtain ⟨events, hsequence⟩ := run_getMultiple_sequence db s (valid ++ first :: rest)
    obtain ⟨made, e'', s', hrun, hends, hcalls, hbackend⟩ :=
      run_sequenceSets_of_invalid (s := { s with events := events })
        ((db.question_withBatches false _ first).trans hfirst)
        (hvalid.imp fun r q hq => (db.question_withBatches false _ r).trans hq) rest
    rw [hrun] at hsequence
    exact ⟨made, e'', s', hsequence, hends, hcalls, hbackend⟩

/-! ## A property that is not there -/

/-- The names that have a nickname, which names do not have. -/
def nicknames : SelectRequest Bool := ⟨false, some (.predicate (.eq "Nickname" (.text "Ann"))), []⟩

theorem nicknames_invalid (connection : Connection σ) (b : σ) :
    let db := registry connection
    let s : Session σ Bool fun _ => Value := .new b
    db.Invalid (db.mapOf s.cache) nicknames (.unknownProperty "Name" "Nickname") := by
  intro db s
  exact .filter rfl rfl

/-- The places are asked for, and then the request for names turns out invalid.  The invalid order after
it is not looked at. -/
theorem getMultiple_rejects_registry :
    let db := registry (Script.connection "Script")
    let s : Session Script Bool fun _ => Value := .new ⟨[], [], [], [], [], [], false⟩
    let requests := [⟨true, none, []⟩, nicknames, ⟨true, none, [⟨"Code", true⟩]⟩]
    nicknames ∈ requests
      ∧ db.Invalid (db.mapOf s.cache) nicknames (.unknownProperty "Name" "Nickname")
      ∧ (∃ valid commands first rest e, db.Rejects s requests valid commands first rest e)
      ∧ (((db.withBatches false).getMultiple requests).run s).2.calls
        = [.query ⟨"SELECT \"Text\" FROM \"places\"", .empty .atSign, none⟩] := by
  intro db s requests
  have hmem : nicknames ∈ requests := .tail _ (.head _)
  have hinvalid := nicknames_invalid (Script.connection "Script") ⟨[], [], [], [], [], [], false⟩
  exact ⟨hmem, hinvalid, getMultiple_rejects hmem hinvalid, rfl⟩

/-- One after another, a request before the invalid one reaches the connection. -/
theorem getMultiple_sequence_asksFirst :
    let db := registry (Script.connection "Script")
    let s : Session Script Bool fun _ => Value := .new ⟨[], [], [], [], [], [], false⟩
    let e : Error := .unknownProperty "Name" "Nickname"
    db.Invalid (db.mapOf s.cache) nicknames e
      ∧ ¬ Refuses ((db.withBatches false).getMultiple [⟨true, none, []⟩, nicknames]) s e := by
  intro db s e
  refine ⟨nicknames_invalid _ _, ?_⟩
  rintro ⟨s', hrun, hcalls, -⟩
  have hcall : s'.calls = [.query ⟨"SELECT \"Text\" FROM \"places\"", .empty .atSign, none⟩] :=
    congrArg (·.2.calls) hrun.symm
  rw [hcall] at hcalls
  exact absurd hcalls nofun

end Database

end SqlRecords
