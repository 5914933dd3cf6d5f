import SqlRecords.Proofs.Embedded.Commands

/-!
# Batches on the embedded database

A batch is one text with several selections and one list of parameters for all of them.  The embedded
database takes the text apart and runs the selections one by one, each with all of the parameters.

Names without reserved characters leave no other semicolons in the text than those between the
selections (`Generator.lacks_selectTemplate`), so the selections are found again.  With named or
numbered placeholders each of them finds its own values.  Positional placeholders always take the
first values of the batch, which are a selection's own only if nothing was bound before it.

* `Database.Batched` — what is said of a batch.
* **`Database.batched_of_selectable`** — it holds for all requests whose selections can be drafted.
* `Database.positional_batch_misbinds` — two selections with positional placeholders, where the
  second gets the value of the first.
-/

namespace SqlRecords

open Text

/-! ## Texts without semicolons -/

variable {c : Char}

namespace Template

/-- None of the fixed pieces holds the character. -/
def Lacks (c : Char) (x : Template) : Prop := ∀ s, Piece.text s ∈ x → Text.Lacks c s

theorem lacks_append {x y : Template} : Lacks c (x ++ y) ↔ Lacks c x ∧ Lacks c y := by
  simp only [Lacks, List.mem_append, or_imp, forall_and]

theorem lacks_text_cons {s : String} {x : Template} :
    Lacks c (.text s :: x) ↔ Text.Lacks c s ∧ Lacks c x := by
  simp [Lacks]

theorem Lacks.slot_cons {x : Template} (h : Lacks c x) : Lacks c (.slot :: x) := by
  simpa [Lacks] using h

/-- Placeholders do not bring in what the fixed pieces lack, unless it is a mark or a letter or a
digit. -/
theorem Lacks.fill {style : PlaceholderStyle} {x : Template} (h : Lacks c x)
    (hmark : c ≠ style.mark) (hlabel : c.isAlphanum = false) (n : Nat) :
    Text.Lacks c (x.fill style n) := by
  induction x generalizing n with
  | nil => simp [Template.fill, Text.Lacks]
  | cons piece x ih =>
      cases piece with
      | text s =>
          obtain ⟨hs, hx⟩ := lacks_text_cons.mp h
          exact Text.lacks_append.mpr ⟨hs, ih hx n⟩
      | slot =>
          have hx : Lacks c x := fun s hs => h s (List.mem_cons_of_mem _ hs)
          refine Text.lacks_append.mpr ⟨?_, ih hx (n + 1)⟩
          rw [Text.Lacks, style.toList_generated, List.mem_cons, not_or]
          refine ⟨hmark, fun hmem => ?_⟩
          rw [style.isAlphanum_of_mem_label hmem] at hlabel
          cases hlabel

end Template

namespace SearchCondition

variable {α : Type} (hc : c ∈ reserved) (d : Dialect)

include hc

mutual

/-- The text of a condition holds no reserved character but what the names of its columns hold. -/
theorem lacks_template : ∀ condition : SearchCondition α,
    (∀ name ∈ condition.columns, Text.Lacks c name) → (condition.template d).Lacks c
  | compare column op operand, hnames => by
      have hcolumn := lacks_quote hc d (hnames column List.mem_cons_self)
      have hop : Text.Lacks c op.sql := by
        cases op <;> exact lacks_of_all hc rfl
      have hblank : Text.Lacks c " " := lacks_of_all hc rfl
      refine Template.lacks_text_cons.mpr ⟨?_, Template.Lacks.slot_cons
        (Template.lacks_text_cons.mpr ⟨lacks_of_all hc rfl, nofun⟩)⟩
      rw [Text.lacks_append, Text.lacks_append, Text.lacks_append, Text.lacks_append]
      exact ⟨⟨⟨⟨lacks_of_all hc rfl, hcolumn⟩, hblank⟩, hop⟩, hblank⟩
  | absence column negated, hnames => by
      have hcolumn := lacks_quote hc d (hnames column List.mem_cons_self)
      have hend : Text.Lacks c (absenceSql negated) := by
        cases negated <;> exact lacks_of_all hc rfl
      refine Template.lacks_text_cons.mpr ⟨?_, nofun⟩
      rw [Text.lacks_append, Text.lacks_append]
      exact ⟨⟨lacks_of_all hc rfl, hcolumn⟩, hend⟩
  | group op [], _ => by
      refine Template.lacks_text_cons.mpr ⟨?_, nofun⟩
      cases op.getD .and <;> exact lacks_of_all hc rfl
  | group op (part :: parts), hnames => by
      obtain ⟨hpart, hparts⟩ := List.forall_mem_append.mp hnames
      rw [template, Template.join_cons]
      refine Template.lacks_append.mpr ⟨Template.lacks_text_cons.mpr ⟨lacks_of_all hc rfl, ?_⟩,
        Template.lacks_text_cons.mpr ⟨lacks_of_all hc rfl, nofun⟩⟩
      exact Template.lacks_append.mpr ⟨lacks_template part hpart, lacks_continued op parts hparts⟩

theorem lacks_continued (op : Option GroupOperator) : ∀ parts : List (SearchCondition α),
    (∀ name ∈ columnsOfAll parts, Text.Lacks c name) →
      (Template.continued (separator op) (templates d parts)).Lacks c
  | [], _ => nofun
  | part :: parts, hnames => by
      obtain ⟨hpart, hparts⟩ := List.forall_mem_append.mp hnames
      have hseparator : Text.Lacks c (separator op) := by
        rcases op with _ | _ | _ <;> exact lacks_of_all hc rfl
      rw [templates, Template.continued, List.flatMap_cons, ← Template.continued]
      exact Template.lacks_append.mpr ⟨Template.lacks_text_cons.mpr
        ⟨hseparator, lacks_template part hpart⟩, lacks_continued op parts hparts⟩

end

end SearchCondition

namespace Generator

variable {t : Table} (g : Generator)

/-- The template of a selection holds no reserved character but what the names of the table hold. -/
theorem lacks_selectTemplate (hc : c ∈ reserved) (h : t.NamesLack c) {p : Option Predicate}
    {order : List SortKey} {x : Template} (hx : g.selectTemplate t p order = .ok x) :
    x.Lacks c := by
  obtain ⟨condition, hcondition, hx⟩ := Error.bind_eq_ok hx
  have hwhere : condition.Lacks c := by
    cases p with
    | none =>
        obtain rfl := Except.ok.inj hcondition
        exact fun _ hs => absurd hs List.not_mem_nil
    | some p =>
        rw [whereTemplate] at hcondition
        cases htree : p.resolve t with
        | error e =>
            rw [htree] at hcondition
            cases hcondition
        | ok tree =>
            rw [htree] at hcondition
            obtain rfl := Except.ok.inj hcondition
            refine Template.lacks_text_cons.mpr ⟨lacks_of_all hc rfl, ?_⟩
            refine SearchCondition.lacks_template hc g.dialect tree fun name hname => ?_
            obtain ⟨column, hcolumn, rfl⟩ := (p.fits htree).exists_column name hname
            exact h.columns column hcolumn
  have hfrom := g.lacks_selectFrom hc h
  split at hx
  · obtain rfl := Except.ok.inj hx
    exact Template.lacks_text_cons.mpr ⟨hfrom, hwhere⟩
  · obtain ⟨items, hitems, hx⟩ := Error.bind_eq_ok hx
    obtain rfl := Except.ok.inj hx
    have horder : Text.Lacks c (" ORDER BY " ++ commaList items) :=
      Text.lacks_append.mpr ⟨lacks_of_all hc rfl,
        lacks_commaList hc (g.lacks_orderItems hc h hitems)⟩
    exact Template.lacks_append.mpr ⟨Template.lacks_text_cons.mpr ⟨hfrom, hwhere⟩,
      Template.lacks_text_cons.mpr ⟨horder, nofun⟩⟩

/-- A selection starts with a visible character. -/
theorem fill_selectTemplate_visible {p : Option Predicate} {order : List SortKey} {x : Template}
    (hx : g.selectTemplate t p order = .ok x) (style : PlaceholderStyle) (n : Nat) :
    isBlankText (x.fill style n) = false := by
  obtain ⟨condition, -, hx⟩ := Error.bind_eq_ok hx
  have hvisible : ∀ rest, isBlankText ((Template.fill style n (.text (g.selectFrom t) :: rest)))
      = false := by
    intro rest
    have hstart : isBlank 'S' = false := by decide
    simp [Template.fill, selectFrom, isBlankText, hstart]
  split at hx
  · obtain rfl := Except.ok.inj hx
    exact hvisible condition
  · obtain ⟨items, -, hx⟩ := Error.bind_eq_ok hx
    obtain rfl := Except.ok.inj hx
    exact hvisible _

end Generator

/-! ## Batches -/

namespace Embedded

/-- A piece is one of the texts, perhaps after a line break. -/
theorem onNewLines_getElem? {texts : List String} {i : Nat} {piece : String}
    (h : (onNewLines texts)[i]? = some piece) :
    ∃ text, texts[i]? = some text ∧ (piece = text ∨ piece = "\n" ++ text) := by
  cases texts with
  | nil => exact absurd h nofun
  | cons s rest =>
      cases i with
      | zero => exact ⟨s, rfl, .inl (Option.some.inj h).symm⟩
      | succ i =>
          rw [onNewLines, List.getElem?_cons_succ, List.getElem?_map, Option.map_eq_some_iff] at h
          obtain ⟨text, htext, rfl⟩ := h
          exact ⟨text, htext, .inr rfl⟩

end Embedded

namespace Database

open Embedded

variable {σ ι : Type} {E : ι → Type} {db : Database σ ι E}

/-- The question of a request is the selection with the filter of the request. -/
theorem exists_selectTemplate {maps : (i : ι) → Except Error (ClassMap (E i))} {r : SelectRequest ι}
    {q : Question} (h : db.question maps r = .ok q) :
    ∃ m, maps r.entity = .ok m
      ∧ db.generator.selectTemplate m.table (r.filter.bind Filter.predicate?) r.order
          = .ok q.template
      ∧ q.values = Predicate.filterValues (r.filter.bind Filter.predicate?) := by
  obtain ⟨m, hm, h⟩ := Error.bind_eq_ok h
  obtain ⟨x, hx, h⟩ := Error.bind_eq_ok h
  obtain rfl := Except.ok.inj h
  exact ⟨m, hm, hx, rfl⟩

variable [DecidableEq ι]

/-- The names in the table of a request hold no mark of a placeholder and no semicolon. -/
def NamesApart (db : Database σ ι E) (s : Session σ ι E) (style : PlaceholderStyle)
    (r : SelectRequest ι) : Prop :=
  ∀ m, db.mapOf s.cache r.entity = .ok m → m.table.PlainNames style ∧ m.table.NamesLack ';'

/-- A batch with the questions `qs`, drafted with placeholders of the given style. -/
structure Batched (db : Database σ ι E) (style : PlaceholderStyle) (s : Session σ ι E)
    (requests : List (SelectRequest ι)) (qs : List Question) : Prop where
  length_eq : qs.length = requests.length
  /-- A question is the selection of its request, with the values of the leaves of its filter. -/
  select : ∀ (i : Nat) q, qs[i]? = some q → ∃ r m, requests[i]? = some r
    ∧ db.mapOf s.cache r.entity = .ok m
    ∧ q.values = Predicate.filterValues (r.filter.bind Filter.predicate?)
    ∧ ∀ ps, (db.generator.select m.table (r.filter.bind Filter.predicate?) r.order).run ps
        = (.ok (q.template.fill ps.style ps.size), ps.pushAll q.values)
  /-- The statements share one set of parameters. -/
  drafted : ((db.batchStatements requests (.empty style)).run s).1
    = .ok (Question.sharedSql style qs, Question.sharedParams style qs)
  /-- In the style of the dialect this is the call for several requests. -/
  sent : style = db.generator.dialect.style →
    (((db.withBatches true).getMultiple requests).run s).2.calls
      = s.calls ++ [.queryMultiple (db.command
          (db.generator.separator.intercalate (Question.sharedSql style qs))
          (Question.sharedParams style qs))]
  /-- The statements are found again, in their order. -/
  split : splitCommand (db.generator.separator.intercalate (Question.sharedSql style qs))
    = onNewLines (Question.sharedSql style qs)
  /-- Each holds the placeholders that were generated for its values. -/
  placeholders : ∀ (i : Nat) q piece, qs[i]? = some q →
    (onNewLines (Question.sharedSql style qs))[i]? = some piece →
      style.occurrences piece.toList
        = style.series ((qs.take i).flatMap (·.values)).length q.values.length
  /-- Placeholders with names or numbers are bound to these values. -/
  named : style ≠ .positional → ∀ (i : Nat) q piece, qs[i]? = some q →
    (onNewLines (Question.sharedSql style qs))[i]? = some piece →
      boundValues (Question.sharedParams style qs) (style.occurrences piece.toList) = q.values
  /-- Positional placeholders are bound to as many of the first values of the batch. -/
  positional : style = .positional → ∀ (i : Nat) q piece, qs[i]? = some q →
    (onNewLines (Question.sharedSql style qs))[i]? = some piece →
      boundValues (Question.sharedParams style qs) (style.occurrences piece.toList)
        = (qs.flatMap (·.values)).take q.values.length

variable {s : Session σ ι E} {requests : List (SelectRequest ι)} {qs : List Question}
  {style : PlaceholderStyle}

/-- The text of a question in a batch. -/
theorem sharedSql_getElem? (h : db.questions (db.mapOf s.cache) requests = .ok qs) {i : Nat}
    {q : Question} (hq : qs[i]? = some q) :
    (Question.sharedSql style qs)[i]?
      = some (q.template.fill style ((qs.take i).flatMap (·.values)).length) := by
  have hx : (qs.map (·.template))[i]? = some q.template := by
    rw [List.getElem?_map, hq]
    rfl
  have hslots : ∀ q ∈ qs, q.template.slots = q.values.length := by
    intro q hq
    obtain ⟨j, hj⟩ := List.mem_iff_getElem?.mp hq
    obtain ⟨r, -, hr⟩ := (questions_eq_ok h).2 j q hj
    obtain ⟨m, -, hcount, -⟩ := question_eq_ok hr
    exact hcount
  rw [Question.sharedSql, Template.fillEach_getElem? _ 0 hx, Question.slotsOfAll_take hslots,
    Nat.zero_add]

/-- Every text of a batch is the text of a question. -/
theorem exists_question_of_mem (h : db.questions (db.mapOf s.cache) requests = .ok qs) {sql : String}
    (hsql : sql ∈ Question.sharedSql style qs) :
    ∃ r ∈ requests, ∃ q n, db.question (db.mapOf s.cache) r = .ok q
      ∧ sql = q.template.fill style n := by
  obtain ⟨i, hi⟩ := List.mem_iff_getElem?.mp hsql
  have hlength : i < qs.length := by
    have hbound := (List.getElem?_eq_some_iff.mp hi).1
    rwa [Question.sharedSql, Template.length_fillEach, List.length_map] at hbound
  have hq := List.getElem?_eq_getElem hlength
  obtain ⟨r, hr, hquestion⟩ := (questions_eq_ok h).2 i _ hq
  rw [sharedSql_getElem? h hq] at hi
  exact ⟨r, List.mem_of_getElem? hr, _, _, hquestion, (Option.some.inj hi).symm⟩

/-- The statements of a batch are found again. -/
theorem splitCommand_sharedSql (h : db.questions (db.mapOf s.cache) requests = .ok qs)
    (hnames : ∀ r ∈ requests, db.NamesApart s style r)
    (hseparator : db.generator.separator = db.generator.dialect.separator) :
    splitCommand (db.generator.separator.intercalate (Question.sharedSql style qs))
      = onNewLines (Question.sharedSql style qs) := by
  rw [hseparator, Dialect.separator]
  refine splitCommand_intercalate (fun sql hsql => ?_) (fun sql hsql => ?_)
  · obtain ⟨r, hr, q, n, hquestion, rfl⟩ := exists_question_of_mem h hsql
    obtain ⟨m, hm, htemplate, -⟩ := exists_selectTemplate hquestion
    have hlacks := db.generator.lacks_selectTemplate (c := ';') (by decide) (hnames r hr m hm).2
      htemplate
    refine hlacks.fill ?_ (by decide) n
    cases style <;> decide
  · obtain ⟨r, hr, q, n, hquestion, rfl⟩ := exists_question_of_mem h hsql
    obtain ⟨m, -, htemplate, -⟩ := exists_selectTemplate hquestion
    exact db.generator.fill_selectTemplate_visible htemplate style n

/-- Each statement of a batch holds the placeholders that were generated for its values. -/
theorem occurrences_piece (h : db.questions (db.mapOf s.cache) requests = .ok qs)
    (hnames : ∀ r ∈ requests, db.NamesApart s style r) {i : Nat} {q : Question} {piece : String}
    (hq : qs[i]? = some q) (hpiece : (onNewLines (Question.sharedSql style qs))[i]? = some piece) :
    style.occurrences piece.toList
      = style.series ((qs.take i).flatMap (·.values)).length q.values.length := by
  obtain ⟨r, hr, hquestion⟩ := (questions_eq_ok h).2 i q hq
  obtain ⟨m, hm, -, hvalues⟩ := exists_selectTemplate hquestion
  obtain ⟨m', hm', -, hrun⟩ := question_eq_ok hquestion
  obtain rfl := Except.ok.inj (hm'.symm.trans hm)
  obtain ⟨before, hbefore⟩ : ∃ before, (qs.take i).flatMap (·.values) = before := ⟨_, rfl⟩
  -- Drafted after the values of all earlier statements, the selection has the text of the piece.
  have hstyle : ((Parameters.empty style).pushAll before).style = style := Parameters.style_pushAll ..
  have hsize : ((Parameters.empty style).pushAll before).size = before.length := by
    rw [Parameters.size_pushAll]
    exact Nat.zero_add _
  have hplain : m'.table.PlainNames ((Parameters.empty style).pushAll before).style := by
    rw [hstyle]
    exact (hnames r (List.mem_of_getElem? hr) m' hm').1
  have hholds := (db.generator.select_linesUp hplain _ r.order _ _ (hrun _)).2
  rw [hstyle, hsize, ← hvalues] at hholds
  obtain ⟨sql, hsql, hpiece⟩ := onNewLines_getElem? hpiece
  rw [sharedSql_getElem? h hq, hbefore] at hsql
  obtain rfl := Option.some.inj hsql
  rw [hbefore]
  rcases hpiece with rfl | rfl
  · exact hholds.occurrences_eq
  · have hbreak : style.Plain "\n" := PlaceholderStyle.plain_of_all rfl
    exact (hbreak.holds_append hholds).occurrences_eq

/-- The values of a batch, around those of one statement. -/
theorem flatMap_values_split {i : Nat} {q : Question} (hq : qs[i]? = some q) :
    qs.flatMap (·.values)
      = (qs.take i).flatMap (·.values) ++ q.values ++ (qs.drop (i + 1)).flatMap (·.values) := by
  obtain ⟨hi, rfl⟩ := List.getElem?_eq_some_iff.mp hq
  conv_lhs => rw [← List.take_append_drop i qs, List.drop_eq_getElem_cons hi]
  rw [List.flatMap_append, List.flatMap_cons, List.append_assoc]

/-- Parameters of one statement with names or numbers get its values. -/
theorem boundValues_series (hstyle : style ≠ .positional) {i : Nat} {q : Question}
    (hq : qs[i]? = some q) :
    boundValues (Question.sharedParams style qs)
        (style.series ((qs.take i).flatMap (·.values)).length q.values.length) = q.values := by
  obtain ⟨own, hown⟩ : ∃ own, Parameters.numbered style ((qs.take i).flatMap (·.values)).length
    q.values = own := ⟨_, rfl⟩
  have hitems : (Question.sharedParams style qs).items
      = Parameters.numbered style 0 (qs.flatMap (·.values)) := by
    rw [Question.sharedParams, Parameters.items_pushAll]
    rfl
  have hsub : own.Sublist (Question.sharedParams style qs).items := by
    rw [hitems, flatMap_values_split hq, Parameters.numbered_append, Parameters.numbered_append,
      Nat.zero_add, hown]
    exact (List.sublist_append_right _ own).trans (List.sublist_append_left _ _)
  have hnodup : (Question.sharedParams style qs).placeholders.Nodup := by
    rw [Question.sharedParams, Parameters.placeholders_pushAll_empty]
    exact PlaceholderStyle.nodup_series hstyle _ _
  have hshared : (Question.sharedParams style qs).style ≠ .positional := by
    rwa [Question.sharedParams, Parameters.style_pushAll]
  have hnamed : ∀ item ∈ own, Places.Named item.placeholder := by
    intro item hitem
    obtain ⟨n, hn⟩ := Parameters.exists_generated (hown ▸ hitem)
    rw [hn]
    exact Places.named_generated hstyle n
  have hbound := boundValues_of_nodup hshared hnodup hsub hnamed
  rw [← hown, Parameters.placeholders_numbered, Parameters.values_numbered] at hbound
  exact hbound

/-- Parameters of one statement without names get the first values of the batch. -/
theorem boundValues_positional {i : Nat} {q : Question} (hq : qs[i]? = some q) (n : Nat) :
    boundValues (Question.sharedParams .positional qs)
        (PlaceholderStyle.series .positional n q.values.length)
      = (qs.flatMap (·.values)).take q.values.length := by
  have hseries : PlaceholderStyle.series .positional n q.values.length
      = List.replicate q.values.length "?" := by
    rw [List.eq_replicate_iff, PlaceholderStyle.series, List.length_map, List.length_range']
    refine ⟨rfl, fun s hs => ?_⟩
    obtain ⟨m, -, rfl⟩ := List.mem_map.mp hs
    rfl
  have hvalues : (Question.sharedParams .positional qs).values = qs.flatMap (·.values) :=
    Parameters.values_pushAll_empty _ _
  have hsize : q.values.length ≤ (Question.sharedParams .positional qs).size := by
    have hsplit := congrArg List.length (hvalues.trans (flatMap_values_split hq))
    rw [Parameters.values, List.length_map, ← Parameters.size, List.length_append,
      List.length_append] at hsplit
    omega
  rw [hseries, boundValues_replicate (Parameters.style_pushAll ..) hsize, hvalues]

/-- **A batch binds each statement's own values, if its placeholders have names or numbers.**  For all
requests whose selections can be drafted, with names free of semicolons and marks, the embedded
database finds the statements of the batch again, in their order.  Named and numbered placeholders
are bound to the values for which they were generated.  Positional ones are bound to the first values
of the batch, whatever statement they are in. -/
theorem batched_of_selectable (hselect : ∀ r ∈ requests, db.Selectable s r)
    (hnames : ∀ r ∈ requests, db.NamesApart s style r)
    (hseparator : db.generator.separator = db.generator.dialect.separator) :
    ∃ qs, db.Batched style s requests qs := by
  obtain ⟨qs, h⟩ := exists_questions hselect
  refine ⟨qs, ?_⟩
  constructor
  case length_eq => exact (questions_eq_ok h).1
  case select =>
    intro i q hq
    obtain ⟨r, hr, hquestion⟩ := (questions_eq_ok h).2 i q hq
    obtain ⟨m, hm, -, hvalues⟩ := exists_selectTemplate hquestion
    obtain ⟨m', hm', -, hrun⟩ := question_eq_ok hquestion
    obtain rfl := Except.ok.inj (hm'.symm.trans hm)
    exact ⟨r, m', hr, hm, hvalues, hrun⟩
  case drafted =>
    obtain ⟨builds, hrun⟩ := run_batchStatements h (.empty style)
    rw [hrun]
    rfl
  case sent =>
    rintro rfl
    obtain ⟨events, builds, hbatch⟩ := run_getMultiple_batch h
    rw [hbatch]
    rfl
  case split => exact splitCommand_sharedSql h hnames hseparator
  case placeholders => exact fun i q piece hq hpiece => occurrences_piece h hnames hq hpiece
  case named =>
    intro hstyle i q piece hq hpiece
    rw [occurrences_piece h hnames hq hpiece, boundValues_series hstyle hq]
  case positional =>
    rintro rfl i q piece hq hpiece
    rw [occurrences_piece h hnames hq hpiece, boundValues_positional hq]

/-! ## Two selections -/

/-- The registry with the habits of another dialect. -/
def registryOf (d : Dialect) : Database Unit Bool fun _ => Value :=
  { registry (constantConnection .empty) with generator := .ofDialect d }

/-- The places called `Rome`, and the names that are `Ann`. -/
def oneEach : List (SelectRequest Bool) :=
  [⟨true, some (.predicate (.eq "Text" (.text "Rome"))), []⟩,
    ⟨false, some (.predicate (.eq "Text" (.text "Ann"))), []⟩]

theorem oneEach_selectable :
    ∀ r ∈ oneEach, (registryOf .postgresql).Selectable (.new ()) r := by
  intro r hr
  simp only [oneEach, List.mem_cons, List.not_mem_nil, or_false] at hr
  rcases hr with rfl | rfl
  · exact ⟨_, "SELECT \"Text\" FROM \"places\" WHERE (\"Text\" = $1)",
      ⟨.dollar, [⟨"$1", .text "Rome", none⟩]⟩, rfl, by with_unfolding_all rfl⟩
  · exact ⟨_, "SELECT \"Text\" FROM \"names\" WHERE (\"Text\" = $1)",
      ⟨.dollar, [⟨"$1", .text "Ann", none⟩]⟩, rfl, by with_unfolding_all rfl⟩

/-- Numbered placeholders, in a batch with a value in each statement. -/
theorem batched_of_selectable_numbered :
    let db := registryOf .postgresql
    let s : Session Unit Bool fun _ => Value := .new ()
    let texts := ["SELECT \"Text\" FROM \"places\" WHERE (\"Text\" = $1)",
      "SELECT \"Text\" FROM \"names\" WHERE (\"Text\" = $2)"]
    let ps := Parameters.mk .dollar [⟨"$1", .text "Rome", none⟩, ⟨"$2", .text "Ann", none⟩]
    (∀ r ∈ oneEach, db.Selectable s r) ∧ (∀ r ∈ oneEach, db.NamesApart s .dollar r)
      ∧ db.generator.separator = db.generator.dialect.separator
      ∧ ∃ qs, db.Batched .dollar s oneEach qs
          ∧ (Question.sharedSql .dollar qs, Question.sharedParams .dollar qs) = (texts, ps) := by
  intro db s texts ps
  have hselect : ∀ r ∈ oneEach, db.Selectable s r := oneEach_selectable
  have hnames : ∀ r ∈ oneEach, db.NamesApart s .dollar r := by
    intro r hr m hm
    simp only [oneEach, List.mem_cons, List.not_mem_nil, or_false] at hr
    rcases hr with rfl | rfl <;> obtain rfl := Except.ok.inj hm <;>
      exact ⟨⟨by decide, by decide, by decide⟩, ⟨by decide, by decide, by decide⟩⟩
  obtain ⟨qs, hqs⟩ := batched_of_selectable hselect hnames rfl
  have hdrafted : ((db.batchStatements oneEach (.empty .dollar)).run s).1 = .ok (texts, ps) := by
    decide +kernel
  exact ⟨hselect, hnames, rfl, qs, hqs, Except.ok.inj (hqs.drafted.symm.trans hdrafted)⟩

/-- **A batch with positional placeholders binds the wrong values.**  The second statement asks for
the name `Ann`, and is given the place of the first. -/
theorem positional_batch_misbinds :
    let db := registryOf .mysql
    let s : Session Unit Bool fun _ => Value := .new ()
    let c := db.command
      "SELECT `Text` FROM `places` WHERE (`Text` = ?);\nSELECT `Text` FROM `names` WHERE (`Text` = ?)"
      ⟨.positional, [⟨"?", .text "Rome", none⟩, ⟨"?", .text "Ann", none⟩]⟩
    ((db.getMultiple oneEach).run s).2.calls = [.queryMultiple c]
      ∧ (splitCommand c.sql).map (fun sql =>
          boundValues c.params (PlaceholderStyle.positional.occurrences sql.toList))
        = [[.text "Rome"], [.text "Rome"]]
      ∧ oneEach.map (fun r => Predicate.filterValues (r.filter.bind Filter.predicate?))
        = [[.text "Rome"], [.text "Ann"]] := by
  refine ⟨by decide +kernel, by decide +kernel, by decide +kernel⟩

end Database

end SqlRecords
