import SqlRecords.Proofs.Database.Questions
import SqlRecords.Proofs.Database.Readers
import SqlRecords.Script

/-!
# Two ways to ask several questions

`Database.getMultiple` sends several selections as one command where the dialect allows that, and
one after another where it does not.  Both ways ask the same questions.

* `Database.withBatches` — the same database with one of the two ways.
* `Parameters.get?_placeholder` — with different placeholders, every parameter is found.
* `Database.SameQuestions` — all that is said of the two ways.
* **`Database.getMultiple_sameQuestions`** — it holds for every list of requests whose selections
  can be drafted.
-/

namespace SqlRecords

/-! ## Shared parameters -/

theorem PlaceholderStyle.nodup_series {style : PlaceholderStyle} (h : style ≠ .positional)
    (n count : Nat) : (style.series n count).Nodup := by
  refine List.Pairwise.map _ (fun a b hab heq => ?_) List.nodup_range'
  exact hab (generated_inj h heq)

namespace Parameters

/-- Where no two placeholders are alike, each one looks up the value of its own parameter. -/
theorem get?_placeholder {ps : Parameters} (h : ps.placeholders.Nodup) {p : Param}
    (hp : p ∈ ps.items) : ps.get? p.placeholder = some p.value := by
  obtain ⟨style, items⟩ := ps
  show (items.find? fun q => q.placeholder = p.placeholder).map (·.value) = some p.value
  replace h : (items.map (·.placeholder)).Nodup := h
  replace hp : p ∈ items := hp
  induction items with
  | nil => exact absurd hp List.not_mem_nil
  | cons q items ih =>
      rw [List.map_cons, List.nodup_cons] at h
      rcases List.mem_cons.mp hp with rfl | hp
      · rw [List.find?_cons_of_pos (by simp), Option.map_some]
      · have hq : q.placeholder ≠ p.placeholder := fun heq =>
          h.1 (heq ▸ List.mem_map_of_mem hp)
        rw [List.find?_cons_of_neg (by simpa using hq), ih h.2 hp]

theorem placeholders_pushAll_empty (style : PlaceholderStyle) (vs : List Value) :
    ((empty style).pushAll vs).placeholders = style.series 0 vs.length := by
  rw [placeholders, items_pushAll, List.map_append, placeholders_numbered]
  rfl

theorem values_pushAll_empty (style : PlaceholderStyle) (vs : List Value) :
    ((empty style).pushAll vs).values = vs := by
  rw [values, items_pushAll, List.map_append, values_numbered]
  rfl

end Parameters

/-! ## The two ways -/

namespace Database

variable {σ ι : Type} {E : ι → Type}

/-- The database, with its generator told whether to join statements. -/
def withBatches (db : Database σ ι E) (batches : Bool) : Database σ ι E :=
  { db with generator := { db.generator with batches := batches } }

/-- A question does not depend on how it is sent. -/
theorem question_withBatches (db : Database σ ι E) (batches : Bool)
    (maps : (i : ι) → Except Error (ClassMap (E i))) (r : SelectRequest ι) :
    (db.withBatches batches).question maps r = db.question maps r := by
  have hdialect : (db.withBatches batches).generator.dialect = db.generator.dialect := rfl
  have htemplate : ∀ t p order, (db.withBatches batches).generator.selectTemplate t p order
      = db.generator.selectTemplate t p order :=
    fun t p order => Generator.selectTemplate_congr t hdialect p order
  rw [question, question]
  simp only [htemplate]

/-- The questions do not depend on how they are sent. -/
theorem questions_withBatches (db : Database σ ι E) (batches : Bool)
    (maps : (i : ι) → Except Error (ClassMap (E i))) : ∀ requests : List (SelectRequest ι),
    (db.withBatches batches).questions maps requests = db.questions maps requests
  | [] => rfl
  | r :: requests => by
      rw [questions, questions, question_withBatches,
        questions_withBatches db batches maps requests]

variable [DecidableEq ι]

/-- The selection of the request can be drafted: its entity has a class map, and the properties
that its filter and its order name are there. -/
def Selectable (db : Database σ ι E) (s : Session σ ι E) (r : SelectRequest ι) : Prop :=
  ∃ m sql ps, db.mapOf s.cache r.entity = .ok m
    ∧ (db.generator.select m.table (r.filter.bind Filter.predicate?) r.order).run
        db.generator.parameters = (.ok sql, ps)

theorem exists_question {db : Database σ ι E} {s : Session σ ι E} {r : SelectRequest ι}
    (h : db.Selectable s r) : ∃ q, db.question (db.mapOf s.cache) r = .ok q := by
  obtain ⟨m, sql, ps, hm, hrun⟩ := h
  have hfollows := db.generator.select_follows m.table (r.filter.bind Filter.predicate?) r.order
  obtain ⟨x, hx, -, -⟩ := hfollows.exists_template hrun
  refine ⟨⟨x, Predicate.filterValues (r.filter.bind Filter.predicate?)⟩, ?_⟩
  rw [question, hm]
  show (db.generator.selectTemplate m.table (r.filter.bind Filter.predicate?) r.order
    >>= fun x => pure _) = _
  rw [hx]
  rfl

theorem exists_questions {db : Database σ ι E} {s : Session σ ι E} :
    ∀ {requests : List (SelectRequest ι)}, (∀ r ∈ requests, db.Selectable s r) →
      ∃ qs, db.questions (db.mapOf s.cache) requests = .ok qs
  | [], _ => ⟨[], rfl⟩
  | r :: requests, h => by
      obtain ⟨hr, hrequests⟩ := List.forall_mem_cons.mp h
      obtain ⟨q, hq⟩ := exists_question hr
      obtain ⟨qs, hqs⟩ := exists_questions hrequests
      exact ⟨q :: qs, by rw [questions, hq, hqs]; rfl⟩

/-- One command for several questions. -/
def askAll (db : Database σ ι E) (qs : List Question) : Command :=
  db.command (db.generator.separator.intercalate (Question.sharedSql db.generator.dialect.style qs))
    (Question.sharedParams db.generator.dialect.style qs)

/-- The result of the way of one command. -/
theorem run_getMultiple_batch {db : Database σ ι E} {s : Session σ ι E}
    {requests : List (SelectRequest ι)} {qs : List Question}
    (h : db.questions (db.mapOf s.cache) requests = .ok qs) :
    ∃ events builds, ((db.withBatches true).getMultiple requests).run s
      = ((db.connection.queryMultiple (db.askAll qs) s.backend).1.map
            fun source => ⟨true, requests.map (·.entity), source⟩,
          { s with
            backend := (db.connection.queryMultiple (db.askAll qs) s.backend).2
            cache := db.cacheAfter s.cache (requests.map (·.entity))
            builds := builds
            events := events
            calls := s.calls ++ [.queryMultiple (db.askAll qs)] }) := by
  let s₁ : Session σ ι E := { s with events := s.events ++ [.severalQueries true requests.length] }
  have hreport : ((db.withBatches true).report (.severalQueries true requests.length)).run s
      = (.ok (), s₁) := rfl
  have hquestions : (db.withBatches true).questions ((db.withBatches true).mapOf s₁.cache) requests
      = .ok qs := (db.questions_withBatches true _ requests).trans h
  obtain ⟨builds, hstatements⟩ := run_batchStatements hquestions db.generator.parameters
  refine ⟨s₁.events, builds, ?_⟩
  rw [getMultiple]
  refine (Action.run_bind_of_ok hreport _).trans ?_
  refine (Action.run_bind_of_ok hstatements _).trans ?_
  let s₂ : Session σ ι E :=
    { s₁ with cache := db.cacheAfter s.cache (requests.map (·.entity)), builds := builds }
  have hsend : ((db.withBatches true).queryMultiple (db.askAll qs).sql (db.askAll qs).params).run s₂
      = ((db.connection.queryMultiple (db.askAll qs) s₂.backend).1, { s₂ with
          backend := (db.connection.queryMultiple (db.askAll qs) s₂.backend).2
          calls := s₂.calls ++ [.queryMultiple (db.askAll qs)] }) := rfl
  cases hsource : (db.connection.queryMultiple (db.askAll qs) s.backend).1 with
  | error e =>
      rw [hsource] at hsend
      exact Action.run_bind_of_error hsend _
  | ok source =>
      rw [hsource] at hsend
      exact Action.run_bind_of_ok hsend _

/-- The result of the way of one command after another. -/
theorem run_getMultiple_sequence (db : Database σ ι E) (s : Session σ ι E)
    (requests : List (SelectRequest ι)) :
    ∃ events, ((db.withBatches false).getMultiple requests).run s
      = ((((db.withBatches false).sequenceSets requests).run { s with events := events }).1.map
            fun sets => ⟨false, requests.map (·.entity), .buffered ⟨sets⟩⟩,
          (((db.withBatches false).sequenceSets requests).run { s with events := events }).2) := by
  let s₁ : Session σ ι E := { s with events := s.events ++ [.severalQueries false requests.length] }
  have hreport : ((db.withBatches false).report (.severalQueries false requests.length)).run s
      = (.ok (), s₁) := rfl
  refine ⟨s₁.events, ?_⟩
  rw [getMultiple]
  refine (Action.run_bind_of_ok hreport _).trans ?_
  rcases hrun : ((db.withBatches false).sequenceSets requests).run s₁ with ⟨e | sets, s'⟩
  · exact Action.run_bind_of_error hrun _
  · exact Action.run_bind_of_ok hrun _

/-! ## What is the same -/

/-- The connection answers every question alike, however it is asked.  `good` is what it takes for
that, and a question asked by itself keeps it. -/
structure Answers (db : Database σ ι E) (good : σ → Prop) (answer : Question → ResultSet)
    (qs : List Question) : Prop where
  alone : ∀ q ∈ qs, ∀ b, good b → (db.connection.query (db.ask q) b).1 = .ok (answer q)
  keeps : ∀ q ∈ qs, ∀ b, good b → good (db.connection.query (db.ask q) b).2
  together : ∀ b, good b → ∃ source,
    (db.connection.queryMultiple (db.askAll qs) b).1 = .ok source ∧ source.Serves (qs.map answer)

/-- Both ways to send the requests ask the questions `qs`. -/
structure SameQuestions (db : Database σ ι E) (s : Session σ ι E)
    (requests : List (SelectRequest ι)) (qs : List Question) : Prop where
  length_eq : qs.length = requests.length
  /-- A question is what the selection of its request gives after any parameters. -/
  select : ∀ (i : Nat) q, qs[i]? = some q → ∃ r m, requests[i]? = some r
    ∧ db.mapOf s.cache r.entity = .ok m
    ∧ ∀ ps, (db.generator.select m.table (r.filter.bind Filter.predicate?) r.order).run ps
        = (.ok (q.template.fill ps.style ps.size), ps.pushAll q.values)
  /-- One way makes a single call, for all questions joined, and ends with its reply. -/
  batch : ∃ s', ((db.withBatches true).getMultiple requests).run s
      = ((db.connection.queryMultiple (db.askAll qs) s.backend).1.map
          fun source => ⟨true, requests.map (·.entity), source⟩, s')
    ∧ s'.calls = s.calls ++ [.queryMultiple (db.askAll qs)]
    ∧ s'.backend = (db.connection.queryMultiple (db.askAll qs) s.backend).2
  /-- The other way makes a call for each question, and ends with the answers if all are answered.
  Otherwise it ends with the error of the first that is refused, and asks none after it. -/
  sequence :
    (∃ sets s', ((db.withBatches false).getMultiple requests).run s
        = (.ok ⟨false, requests.map (·.entity), .buffered ⟨sets⟩⟩, s')
      ∧ db.Answered qs sets s s')
    ∨ ∃ e s' i q, ((db.withBatches false).getMultiple requests).run s = (.error e, s')
      ∧ db.Refused qs e s s' i q
  length_sharedSql : (Question.sharedSql db.generator.dialect.style qs).length = requests.length
  /-- Among the joined statements each is numbered after the parameters of those before it. -/
  numbering : ∀ (i : Nat) q, qs[i]? = some q →
    (Question.sharedSql db.generator.dialect.style qs)[i]?
      = some (q.template.fill db.generator.dialect.style ((qs.take i).flatMap (·.values)).length)
  shared_values :
    (Question.sharedParams db.generator.dialect.style qs).values = qs.flatMap (·.values)
  /-- Placeholders with a name or a number find their own values. -/
  shared_placeholders : db.generator.dialect.style ≠ .positional →
    (Question.sharedParams db.generator.dialect.style qs).placeholders.Nodup
    ∧ ∀ p ∈ (Question.sharedParams db.generator.dialect.style qs).items,
        (Question.sharedParams db.generator.dialect.style qs).get? p.placeholder = some p.value
  /-- Where the connection answers all questions alike, the readers cannot be told apart. -/
  reads : ∀ good answer, db.Answers good answer qs → good s.backend →
    ∃ reader u reader' u', ((db.withBatches true).getMultiple requests).run s = (.ok reader, u)
      ∧ ((db.withBatches false).getMultiple requests).run s = (.ok reader', u')
      ∧ ∀ row : List ι, db.readEach row reader u = db.readEach row reader' u'

variable {db : Database σ ι E} {s : Session σ ι E} {requests : List (SelectRequest ι)}
  {qs : List Question}

/-- With every question answered alike, both ways end with alike readers. -/
theorem getMultiple_alike (h : db.questions (db.mapOf s.cache) requests = .ok qs)
    {good : σ → Prop} {answer : Question → ResultSet} (hanswers : db.Answers good answer qs)
    (hgood : good s.backend) :
    ∃ reader u reader' u', ((db.withBatches true).getMultiple requests).run s = (.ok reader, u)
      ∧ ((db.withBatches false).getMultiple requests).run s = (.ok reader', u')
      ∧ reader.Alike reader' ∧ u.cache = u'.cache := by
  obtain ⟨source, hsource, hserves⟩ := hanswers.together s.backend hgood
  obtain ⟨events, builds, hbatch⟩ := run_getMultiple_batch h
  rw [hsource] at hbatch
  obtain ⟨events', hsequence⟩ := run_getMultiple_sequence db s requests
  have hquestions : (db.withBatches false).questions ((db.withBatches false).mapOf s.cache) requests
      = .ok qs := (db.questions_withBatches false _ requests).trans h
  rcases run_sequenceSets (s := { s with events := events' }) hquestions with
    ⟨sets, s', hrun, hcache, hanswered⟩ | ⟨e, s', i, q, hrun, hrefused⟩
  · rw [hrun] at hsequence
    have hsets := sets_eq_of_answersWith hanswers.alone hanswers.keeps hgood hanswered.answers
    have hlength : (qs.map answer).length = (requests.map (·.entity)).length := by
      rw [List.length_map, List.length_map, (questions_eq_ok h).1]
    refine ⟨_, _, _, _, hbatch, hsequence, ⟨rfl, qs.map answer, hlength, hserves, ?_⟩, hcache.symm⟩
    rw [hsets]
    exact SetSource.serves_buffered _
  · have hq := List.mem_of_getElem? hrefused.question
    have hstate := good_queried (b := s.backend)
      (fun q hq => hanswers.keeps q (List.mem_of_mem_take (i := i) hq)) hgood
    exact absurd ((hanswers.alone q hq _ hstate).symm.trans hrefused.refusal) nofun

/-- **Both ways ask the same questions.**  For all requests whose selections can be drafted, the
batch makes one call with the joined statements and ends with its reply, and the sequence makes a call
for each statement by itself, in the same order and with the same values, up to the first that the
connection refuses in the state that the calls before it left; it ends with their answers, or with the
refusal.  The statements differ in the numbers of their placeholders only, and where the connection answers
them alike, so do the readers. -/
theorem getMultiple_sameQuestions (h : ∀ r ∈ requests, db.Selectable s r) :
    ∃ qs, db.SameQuestions s requests qs := by
  obtain ⟨qs, hqs⟩ := exists_questions h
  have heach := questions_eq_ok hqs
  refine ⟨qs, ?_⟩
  constructor
  case length_eq => exact heach.1
  case select =>
    intro i q hq
    obtain ⟨r, hr, hquestion⟩ := heach.2 i q hq
    obtain ⟨m, hm, -, hrun⟩ := question_eq_ok hquestion
    exact ⟨r, m, hr, hm, hrun⟩
  case batch =>
    obtain ⟨events, builds, hbatch⟩ := run_getMultiple_batch hqs
    exact ⟨_, hbatch, rfl, rfl⟩
  case sequence =>
    obtain ⟨events, hsequence⟩ := run_getMultiple_sequence db s requests
    have hquestions : (db.withBatches false).questions
        ((db.withBatches false).mapOf s.cache) requests = .ok qs :=
      (db.questions_withBatches false _ requests).trans hqs
    rcases run_sequenceSets (s := { s with events := events }) hquestions with
      ⟨sets, s', hrun, -, hanswered⟩ | ⟨e, s', i, q, hrun, hrefused⟩
    · rw [hrun] at hsequence
      exact .inl ⟨sets, s', hsequence, hanswered.answers, hanswered.calls, hanswered.backend⟩
    · rw [hrun] at hsequence
      exact .inr ⟨e, s', i, q, hsequence, hrefused.question, hrefused.answers, hrefused.refusal,
        hrefused.calls, hrefused.backend⟩
  case length_sharedSql =>
    rw [Question.sharedSql, Template.length_fillEach, List.length_map, heach.1]
  case numbering =>
    intro i q hq
    have hx : (qs.map (·.template))[i]? = some q.template := by
      rw [List.getElem?_map, hq]
      rfl
    have hslots : ∀ q ∈ qs, q.template.slots = q.values.length := fun q hq => by
      obtain ⟨j, hj⟩ := List.mem_iff_getElem?.mp hq
      obtain ⟨r, -, hr⟩ := heach.2 j q hj
      obtain ⟨m, -, hcount, -⟩ := question_eq_ok hr
      exact hcount
    rw [Question.sharedSql, Template.fillEach_getElem? _ 0 hx, Question.slotsOfAll_take hslots,
      Nat.zero_add]
  case shared_values => exact Parameters.values_pushAll_empty _ _
  case shared_placeholders =>
    intro hstyle
    have hnodup : (Question.sharedParams db.generator.dialect.style qs).placeholders.Nodup := by
      rw [Question.sharedParams, Parameters.placeholders_pushAll_empty]
      exact PlaceholderStyle.nodup_series hstyle _ _
    exact ⟨hnodup, fun p hp => Parameters.get?_placeholder hnodup hp⟩
  case reads =>
    intro good answer hanswers hgood
    obtain ⟨reader, u, reader', u', hbatch, hsequence, halike, hcache⟩ :=
      getMultiple_alike hqs hanswers hgood
    exact ⟨reader, u, reader', u', hbatch, hsequence,
      fun row => db.readEach_alike row halike hcache⟩

/-! ## Two selections -/

/-- A connection that answers every statement with the same set. -/
def constantConnection (set : ResultSet) : Connection Unit where
  name := "Constant"
  execute _ b := (.ok set.size, b)
  query _ b := (.ok set, b)
  queryMultiple _ b := (.ok ⟨fun _ => .ok (some set), 0⟩, b)
  start _ b := (.ok (), b)
  commit b := (.ok (), b)
  rollback b := (.ok (), b)
  isActive _ := false

/-- A database of names and places, each entity with one property. -/
def registry (connection : Connection σ) : Database σ Bool fun _ => Value where
  connection := connection
  generator := .ofDialect .sqlite
  timeout := none
  entities place :=
    ⟨if place then "Place" else "Name", .null, .ok
      { table := {
          entity := if place then "Place" else "Name"
          name := if place then "places" else "names"
          schema := none
          columns := [.ofProperty "Text" .assigned] }
        accessors := [⟨id, fun _ v => .ok v⟩]
        length_eq := rfl }⟩
  surrogates _ := .null

/-- All places, and the names that are `Ann`. -/
def placesAndNames : List (SelectRequest Bool) :=
  [⟨true, none, []⟩, ⟨false, some (.predicate (.eq "text" (.text "Ann"))), [⟨"TEXT", true⟩]⟩]

theorem placesAndNames_selectable (connection : Connection σ) (b : σ) :
    ∀ r ∈ placesAndNames, (registry connection).Selectable (.new b) r := by
  intro r hr
  simp only [placesAndNames, List.mem_cons, List.not_mem_nil, or_false] at hr
  rcases hr with rfl | rfl
  · exact ⟨_, "SELECT \"Text\" FROM \"places\"", .empty .atSign, rfl, rfl⟩
  · exact ⟨_, "SELECT \"Text\" FROM \"names\" WHERE (\"Text\" = @p0) ORDER BY \"Text\" ASC",
      ⟨.atSign, [⟨"@p0", .text "Ann", none⟩]⟩, rfl, by with_unfolding_all rfl⟩

/-- A connection that answers both questions, so that the readers cannot be told apart. -/
theorem getMultiple_sameQuestions_registry :
    let set : ResultSet := ⟨["Text"], [[.text "Ann"]]⟩
    let db := registry (constantConnection set)
    let s : Session Unit Bool fun _ => Value := .new ()
    (∀ r ∈ placesAndNames, db.Selectable s r)
      ∧ ∃ qs, db.SameQuestions s placesAndNames qs
          ∧ db.Answers (fun _ => True) (fun _ => set) qs := by
  intro set db s
  have h : ∀ r ∈ placesAndNames, db.Selectable s r := placesAndNames_selectable _ ()
  obtain ⟨qs, hqs⟩ := getMultiple_sameQuestions h
  refine ⟨h, qs, hqs, fun _ _ _ _ => rfl, fun _ _ _ _ => trivial, fun _ _ => ⟨_, rfl, ?_⟩⟩
  intro k found hk
  rw [List.getElem?_map, Option.map_eq_some_iff] at hk
  obtain ⟨q, -, rfl⟩ := hk
  rfl

/-- A connection that refuses the first question is not asked the second. -/
theorem getMultiple_sequence_refused :
    let db := registry (Script.connection "Script")
    let s : Session Script Bool fun _ => Value :=
      .new ⟨[], [.error (.connection .execution "refused")], [], [], [], [], false⟩
    (∀ r ∈ placesAndNames, db.Selectable s r) ∧ placesAndNames.length = 2
      ∧ (((db.withBatches false).getMultiple placesAndNames).run s).2.calls.length = 1 := by
  intro db s
  exact ⟨placesAndNames_selectable _ _, rfl, rfl⟩

end Database

end SqlRecords
