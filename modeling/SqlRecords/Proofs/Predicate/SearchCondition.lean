import SqlRecords.Predicate.Render
import SqlRecords.Proofs.Template

/-!
# Search conditions

The condition that a predicate becomes in a given table: the properties are resolved to columns,
and a negated operator to the operator that it stands for.  The text of a predicate is the text of
its search condition, so that everything that is said of the text can be said of a tree instead.

* `SearchCondition` — the tree.  What its leaves compare with is a parameter of the type: values
  when it comes from a predicate, placeholders when it is read from text.
* `Predicate.resolve` — the search condition of a predicate, or why it has none.
* `SearchCondition.template` — its text, with a slot for every operand.
* **`Predicate.draft_follows`** — drafting a predicate fills the template of its search condition.
-/

namespace SqlRecords

/-! ## Comparisons -/

/-- The comparisons of SQL.  Each is its own constructor: there is no negation left. -/
inductive Comparison where
  | eq | ne | gt | le | ge | lt | like | notLike
deriving DecidableEq, Repr

namespace Comparison

/-- Every comparison. -/
def all : List Comparison := [eq, ne, gt, le, ge, lt, like, notLike]

/-- The spelling of the comparison. -/
def sql : Comparison → String
  | eq => "="
  | ne => "<>"
  | gt => ">"
  | le => "<="
  | ge => ">="
  | lt => "<"
  | like => "LIKE"
  | notLike => "NOT LIKE"

end Comparison

/-- The comparison that an operator or its negation stands for. -/
def Operator.comparison : Operator → (negated : Bool) → Comparison
  | eq, false => .eq
  | eq, true => .ne
  | gt, false => .gt
  | gt, true => .le
  | ge, false => .ge
  | ge, true => .lt
  | lt, false => .lt
  | lt, true => .ge
  | le, false => .le
  | le, true => .gt
  | like, false => .like
  | like, true => .notLike

/-- An operator is spelled like the comparison that it stands for. -/
theorem Operator.sql_comparison (op : Operator) (negated : Bool) :
    (op.comparison negated).sql = op.sql negated := by
  cases op <;> cases negated <;> rfl

/-! ## Trees -/

/-- A condition on the rows of one table.  A group of one part is only a pair of parentheses: it
has no operator. -/
inductive SearchCondition (α : Type) where
  | compare (column : String) (op : Comparison) (operand : α)
  /-- The column holds nothing, or something if `negated`. -/
  | absence (column : String) (negated : Bool)
  | group (op : Option GroupOperator) (parts : List (SearchCondition α))

namespace SearchCondition

variable {α : Type}

mutual

/-- What the leaves compare with, from left to right. -/
def operands : SearchCondition α → List α
  | compare _ _ operand => [operand]
  | absence _ _ => []
  | group _ parts => operandsOfAll parts

/-- The operands of several conditions, from left to right. -/
def operandsOfAll : List (SearchCondition α) → List α
  | [] => []
  | part :: parts => operands part ++ operandsOfAll parts

end

mutual

/-- The columns that the leaves are about, from left to right. -/
def columns : SearchCondition α → List String
  | compare column _ _ => [column]
  | absence column _ => [column]
  | group _ parts => columnsOfAll parts

/-- The columns of several conditions, from left to right. -/
def columnsOfAll : List (SearchCondition α) → List String
  | [] => []
  | part :: parts => columns part ++ columnsOfAll parts

end

mutual

/-- The groups of one part, and no others, are without an operator. -/
def Proper : SearchCondition α → Prop
  | compare _ _ _ => True
  | absence _ _ => True
  | group op parts => (op = none ↔ parts.length = 1) ∧ ProperAll parts

/-- The same for several conditions. -/
def ProperAll : List (SearchCondition α) → Prop
  | [] => True
  | part :: parts => Proper part ∧ ProperAll parts

end

/-- The text between the parts of a group. -/
def separator (op : Option GroupOperator) : String := op.elim "" GroupOperator.sql

/-- The text of a test for absence after the name of the column. -/
def absenceSql (negated : Bool) : String := if negated then " IS NOT NULL)" else " IS NULL)"

mutual

/-- The text of a condition. -/
def template (d : Dialect) : SearchCondition α → Template
  | compare column op _ =>
    [.text ("(" ++ d.quote column ++ " " ++ op.sql ++ " "), .slot, .text ")"]
  | absence column negated => [.text ("(" ++ d.quote column ++ absenceSql negated)]
  | group op [] => [.text (op.getD .and).emptySql]
  | group op (part :: parts) =>
    .text "(" :: Template.join (separator op) (template d part :: templates d parts)
      ++ [.text ")"]

/-- The texts of several conditions. -/
def templates (d : Dialect) : List (SearchCondition α) → List Template
  | [] => []
  | part :: parts => template d part :: templates d parts

end

mutual

/-- There is a slot for every operand. -/
theorem slots_template (d : Dialect) : ∀ c : SearchCondition α,
    (c.template d).slots = c.operands.length
  | compare _ _ _ => rfl
  | absence _ _ => rfl
  | group _ [] => rfl
  | group op (part :: parts) => by
      have hall := slotsOfAll_templates d (part :: parts)
      rw [templates] at hall
      simp [template, Template.slots, Template.slots_join, hall, operands]

theorem slotsOfAll_templates (d : Dialect) : ∀ parts : List (SearchCondition α),
    Template.slotsOfAll (templates d parts) = (operandsOfAll parts).length
  | [] => rfl
  | part :: parts => by
      have hpart := slots_template d part
      have hparts := slotsOfAll_templates d parts
      rw [templates, operandsOfAll, List.length_append, ← hpart, ← hparts]
      rfl

end

section Fill

variable (d : Dialect) (style : PlaceholderStyle) (n : Nat)

/-- A group is its parts in parentheses, numbered one after another. -/
theorem fill_group (op : Option GroupOperator) (part : SearchCondition α)
    (parts : List (SearchCondition α)) :
    (template d (group op (part :: parts))).fill style n
      = "(" ++ (part.template d).fill style n
        ++ (Template.continued (separator op) (templates d parts)).fill style
            (n + part.operands.length) ++ ")" := by
  rw [template, Template.join_cons]
  simp [Template.fill, slots_template, String.append_assoc]

theorem fill_continued_cons (separator : String) (part : SearchCondition α)
    (parts : List (SearchCondition α)) :
    (Template.continued separator (templates d (part :: parts))).fill style n
      = separator ++ (part.template d).fill style n
        ++ (Template.continued separator (templates d parts)).fill style
            (n + part.operands.length) := by
  rw [templates, Template.continued, List.flatMap_cons, ← Template.continued]
  simp [Template.fill, slots_template, String.append_assoc]

/-- The text of a condition starts with a parenthesis. -/
theorem exists_fill_eq_cons : ∀ c : SearchCondition α,
    ∃ cs, ((c.template d).fill style n).toList = '(' :: cs
  | compare column op operand => by
      simp [template, Template.fill]
  | absence column negated => by
      simp [template, Template.fill]
  | group op [] => by
      rcases op with _ | _ | _ <;> simp [template, Template.fill, GroupOperator.emptySql]
  | group op (part :: parts) => by
      simp [template, Template.fill]

end Fill

end SearchCondition

/-! ## Predicates -/

/-- The search condition of a leaf. -/
def Condition.resolve (t : Table) (c : Condition) : Except Error (SearchCondition Value) := do
  let column ← t.column c.property
  if c.value.isNull then
    if c.operator = .eq then return .absence column.name c.negated
    else throw (.nullComparison c.operator c.property)
  else return .compare column.name (c.operator.comparison c.negated) c.value

/-- The values that a leaf binds: none for a test for absence. -/
def Condition.boundValues (c : Condition) : List Value :=
  if c.value.isNull then [] else [c.value]

namespace Predicate

/-- The operator of a group that is left in its text: with one part there is none. -/
def visibleOperator {β : Type} (op : GroupOperator) : List β → Option GroupOperator
  | [_] => none
  | _ => some op

mutual

/-- The search condition of a predicate. -/
def resolve (t : Table) : Predicate → Except Error (SearchCondition Value)
  | field c => c.resolve t
  | group op children => do
    let parts ← resolveAll t children
    return .group (visibleOperator op children) parts

/-- The search conditions of several predicates. -/
def resolveAll (t : Table) : List Predicate → Except Error (List (SearchCondition Value))
  | [] => .ok []
  | p :: ps => do
    let part ← resolve t p
    let parts ← resolveAll t ps
    return part :: parts

end

mutual

/-- The values of a predicate that are not absent, from left to right. -/
def boundValues : Predicate → List Value
  | field c => c.boundValues
  | group _ children => boundValuesOfAll children

/-- The values of several predicates. -/
def boundValuesOfAll : List Predicate → List Value
  | [] => []
  | p :: ps => boundValues p ++ boundValuesOfAll ps

end

/-- The values that an optional predicate binds. -/
def filterValues (p : Option Predicate) : List Value := p.elim [] boundValues

end Predicate

/-! ## What is known of a search condition -/

/-- A property is resolved to a column of the table, by a name that differs in case at most. -/
theorem Table.column_eq_ok {t : Table} {property : String} {column : Column}
    (h : t.column property = .ok column) :
    column ∈ t.columns ∧ Text.sameName column.property property = true := by
  rw [Table.column] at h
  cases hfound : t.column? property with
  | none => rw [hfound] at h; exact absurd h nofun
  | some found =>
      rw [hfound] at h
      obtain rfl := Except.ok.inj h
      have hfor : Column.isFor property found = true := List.find?_some hfound
      exact ⟨List.mem_of_find?_eq_some hfound, hfor⟩

/-- The condition is one of the table, and compares with the given values. -/
structure SearchCondition.Fits (t : Table) (vs : List Value) (c : SearchCondition Value) :
    Prop where
  proper : c.Proper
  operands_eq : c.operands = vs
  exists_column : ∀ name ∈ c.columns, ∃ column ∈ t.columns, column.name = name

/-- The same for several conditions. -/
structure SearchCondition.FitsAll (t : Table) (vs : List Value)
    (cs : List (SearchCondition Value)) : Prop where
  proper : ProperAll cs
  operands_eq : operandsOfAll cs = vs
  exists_column : ∀ name ∈ columnsOfAll cs, ∃ column ∈ t.columns, column.name = name

theorem Condition.fits {t : Table} {c : Condition} {r : SearchCondition Value}
    (h : c.resolve t = .ok r) : r.Fits t c.boundValues := by
  obtain ⟨column, hcolumn, h⟩ := Error.bind_eq_ok h
  have hmem : ∀ name ∈ [column.name], ∃ column ∈ t.columns, column.name = name := by
    intro name hname
    rw [List.mem_singleton] at hname
    exact ⟨column, (Table.column_eq_ok hcolumn).1, hname.symm⟩
  rw [boundValues]
  split at h
  · rename_i hnull
    split at h
    · obtain rfl := Except.ok.inj h
      exact ⟨trivial, (if_pos hnull).symm, hmem⟩
    · exact absurd h nofun
  · rename_i hnull
    obtain rfl := Except.ok.inj h
    exact ⟨trivial, (if_neg hnull).symm, hmem⟩

namespace Predicate

variable {t : Table}

theorem visibleOperator_eq_none_iff {β : Type} {op : GroupOperator} {xs : List β} :
    visibleOperator op xs = none ↔ xs.length = 1 := by
  match xs with
  | [] => simp [visibleOperator]
  | [_] => simp [visibleOperator]
  | _ :: _ :: _ => simp [visibleOperator]

theorem length_resolveAll {ps : List Predicate} {parts : List (SearchCondition Value)}
    (h : resolveAll t ps = .ok parts) : parts.length = ps.length := by
  induction ps generalizing parts with
  | nil =>
      obtain rfl := Except.ok.inj h
      rfl
  | cons p ps ih =>
      obtain ⟨part, -, h⟩ := Error.bind_eq_ok h
      obtain ⟨rest, hrest, h⟩ := Error.bind_eq_ok h
      obtain rfl := Except.ok.inj h
      exact congrArg (· + 1) (ih hrest)

mutual

/-- The search condition of a predicate is about columns of the table, and compares with what the
predicate binds. -/
theorem fits : ∀ (p : Predicate) {r : SearchCondition Value}, p.resolve t = .ok r →
    r.Fits t p.boundValues
  | field c, r, h => by
      rw [resolve] at h
      exact Condition.fits h
  | group op children, r, h => by
      rw [resolve] at h
      obtain ⟨parts, hparts, h⟩ := Error.bind_eq_ok h
      obtain rfl := Except.ok.inj h
      obtain ⟨hproper, hoperands, hcolumns⟩ := fitsAll children hparts
      refine ⟨⟨?_, hproper⟩, hoperands, hcolumns⟩
      rw [visibleOperator_eq_none_iff, length_resolveAll hparts]

theorem fitsAll : ∀ (ps : List Predicate) {rs : List (SearchCondition Value)},
    resolveAll t ps = .ok rs → SearchCondition.FitsAll t (boundValuesOfAll ps) rs
  | [], rs, h => by
      obtain rfl := Except.ok.inj h
      exact ⟨trivial, rfl, nofun⟩
  | p :: ps, rs, h => by
      rw [resolveAll] at h
      obtain ⟨part, hpart, h⟩ := Error.bind_eq_ok h
      obtain ⟨parts, hparts, h⟩ := Error.bind_eq_ok h
      obtain rfl := Except.ok.inj h
      have hfits := fits p hpart
      have hfitsAll := fitsAll ps hparts
      refine ⟨⟨hfits.proper, hfitsAll.proper⟩, ?_, fun name hname => ?_⟩
      · rw [SearchCondition.operandsOfAll, hfits.operands_eq, hfitsAll.operands_eq,
          boundValuesOfAll]
      · rcases List.mem_append.mp hname with hname | hname
        · exact hfits.exists_column name hname
        · exact hfitsAll.exists_column name hname

end

end Predicate

/-! ## Drafts -/

/-- A leaf is drafted like its search condition. -/
theorem Condition.draft_follows (t : Table) (d : Dialect) (c : Condition) :
    (c.draft t d).Follows ((c.resolve t).map (SearchCondition.template d)) c.boundValues := by
  obtain ⟨property, op, v, negated⟩ := c
  rw [draft, resolve, boundValues]
  cases t.column property with
  | error e => exact fun ps => Draft.run_bind_of_error rfl _
  | ok column =>
      rw [Draft.ofExcept_ok, pure_bind]
      show Draft.Follows _ (Except.map _ (if _ then _ else _)) _
      cases v.isNull with
      | true =>
          cases op with
          | eq => cases negated <;> exact Draft.follows_pure _
          | _ => exact Draft.follows_throw _ _
      | false =>
          refine ⟨rfl, fun ps => ?_⟩
          rw [if_neg (by simp), Draft.run_bind_of_ok (Draft.run_place v ps), Draft.run_pure]
          simp only [SearchCondition.template, Template.fill, Operator.sql_comparison,
            String.append_assoc, String.append_empty]
          rfl

namespace Predicate

variable (t : Table) (d : Dialect)

theorem visibleOperator_congr {β γ : Type} (op : GroupOperator) {xs : List β} {ys : List γ}
    (h : xs.length = ys.length) : visibleOperator op xs = visibleOperator op ys := by
  match xs, ys, h with
  | [], [], _ => rfl
  | [_], [_], _ => rfl
  | _ :: _ :: _, _ :: _ :: _, _ => rfl

/-- Whether the operator of a single part is left out makes no difference to the text. -/
theorem template_group (op : GroupOperator) {children : List Predicate}
    {parts : List (SearchCondition Value)} (hlen : parts.length = children.length)
    (hne : parts ≠ []) :
    SearchCondition.template d (.group (visibleOperator op children) parts)
      = .text "(" :: Template.join op.sql (SearchCondition.templates d parts) ++ [.text ")"] := by
  rw [← visibleOperator_congr op hlen]
  match parts, hne with
  | [part], _ => simp [SearchCondition.template, SearchCondition.templates, Template.join]
  | part :: part' :: rest, _ =>
      rw [SearchCondition.template, SearchCondition.templates]
      rfl

/-- A group is drafted by joining what its children give. -/
theorem group_follows (op : GroupOperator) {children : List Predicate} {vs : List Value}
    (h : (draftAll t d children).FollowsEach
      ((resolveAll t children).map (SearchCondition.templates d)) vs) :
    (draft t d (group op children)).Follows
      ((resolve t (group op children)).map (SearchCondition.template d)) vs := by
  cases children with
  | nil =>
      obtain rfl : vs = [] := List.length_eq_zero_iff.mp h.1.symm
      rw [draft]
      exact Draft.follows_pure _
  | cons p ps =>
      have hdraft : draft t d (group op (p :: ps)) = (do
          let parts ← draftAll t d (p :: ps)
          return "(" ++ op.sql.intercalate parts ++ ")") := by
        simp only [draft, draftAll, bind_assoc, pure_bind]
      have htemplate : (resolve t (group op (p :: ps))).map (SearchCondition.template d)
          = ((resolveAll t (p :: ps)).map (SearchCondition.templates d)).map
              fun ys => .text "(" :: Template.join op.sql ys ++ [.text ")"] := by
        rw [resolve]
        cases hparts : resolveAll t (p :: ps) with
        | error e => rfl
        | ok parts =>
            have hlen := length_resolveAll hparts
            have hne : parts ≠ [] := List.ne_nil_of_length_eq_add_one hlen
            exact congrArg Except.ok (template_group d op hlen hne)
      rw [hdraft, htemplate]
      refine h.map (fun ys => ?_) (fun style n ys => ?_)
      · simp [Template.slots, Template.slots_join]
      · simp [Template.fill, Template.fill_join, String.append_assoc]

mutual

/-- **Drafting a predicate fills the template of its search condition**, and binds the values of
its leaves.  The induction follows the tree; `Draft.Follows.cons` carries the numbering from one
child to the next. -/
theorem draft_follows : ∀ p : Predicate,
    (p.draft t d).Follows ((p.resolve t).map (SearchCondition.template d)) p.boundValues
  | field c => by
      rw [draft, resolve, boundValues]
      exact c.draft_follows t d
  | group op children => by
      rw [boundValues]
      exact group_follows t d op (draftAll_follows children)

theorem draftAll_follows : ∀ ps : List Predicate,
    (draftAll t d ps).FollowsEach ((resolveAll t ps).map (SearchCondition.templates d))
      (boundValuesOfAll ps)
  | [] => ⟨rfl, fun _ => rfl⟩
  | p :: ps => by
      have h := (draft_follows p).cons (draftAll_follows ps)
      rw [draftAll, boundValuesOfAll, resolveAll]
      cases hp : resolve t p with
      | error e => rw [hp] at h; exact h
      | ok part =>
          cases hps : resolveAll t ps with
          | error e => rw [hp, hps] at h; exact h
          | ok parts => rw [hp, hps] at h; exact h

end

/-- A predicate that can be drafted has a search condition, and the text of it. -/
theorem run_draft_eq_ok {p : Predicate} {ps ps' : Parameters} {sql : String}
    (h : (p.draft t d).run ps = (.ok sql, ps')) :
    ∃ c, p.resolve t = .ok c ∧ c.Fits t p.boundValues
      ∧ sql = (c.template d).fill ps.style ps.size ∧ ps' = ps.pushAll p.boundValues := by
  obtain ⟨y, hy, hsql, hps⟩ := (p.draft_follows t d).exists_template h
  cases hc : p.resolve t with
  | error e => rw [hc] at hy; exact absurd hy nofun
  | ok c =>
      rw [hc] at hy
      obtain rfl := Except.ok.inj hy
      exact ⟨c, rfl, p.fits hc, hsql, hps⟩

end Predicate

end SqlRecords
