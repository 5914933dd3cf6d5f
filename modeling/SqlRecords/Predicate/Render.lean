import SqlRecords.Draft
import SqlRecords.Predicate.Basic
import SqlRecords.Table

/-!
# SQL text of predicates

* `Condition.draft` — a leaf in parentheses: the column, the operator and the placeholder of the
  value, or a test for absence.
* `Predicate.draft` — leaves and groups, each group in its own parentheses.

The tree is walked from left to right, and the first leaf that fails ends the walk.
-/

namespace SqlRecords

/-- A leaf in parentheses. Absence can only be tested for, with equality or its negation. -/
def Condition.draft (t : Table) (d : Dialect) (c : Condition) : Draft String := do
  let column ← Draft.ofExcept (t.column c.property)
  if c.value.isNull then
    match c.operator, c.negated with
    | .eq, false => return "(" ++ d.quote column.name ++ " IS NULL)"
    | .eq, true => return "(" ++ d.quote column.name ++ " IS NOT NULL)"
    | op, _ => throw (.nullComparison op c.property)
  else
    let placeholder ← Draft.place c.value
    return "(" ++ d.quote column.name ++ " " ++ c.operator.sql c.negated ++ " " ++ placeholder ++ ")"

namespace Predicate

mutual

/-- The text of a predicate; its values are bound in the order of its leaves. -/
def draft (t : Table) (d : Dialect) : Predicate → Draft String
  | field c => c.draft t d
  | group op [] => pure op.emptySql
  | group op (p :: ps) => do
    let first ← draft t d p
    let rest ← draftAll t d ps
    return "(" ++ op.sql.intercalate (first :: rest) ++ ")"

/-- The texts of several predicates, from left to right. -/
def draftAll (t : Table) (d : Dialect) : List Predicate → Draft (List String)
  | [] => pure []
  | p :: ps => do
    let first ← draft t d p
    let rest ← draftAll t d ps
    return first :: rest

end

end Predicate

end SqlRecords
