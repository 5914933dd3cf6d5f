import SqlRecords.Operators
import SqlRecords.Value.Basic

/-!
# Predicates

A filter over the properties of one entity, as a tree whose leaves compare a property with a
value.

* `Condition` — a leaf.
* `Predicate` — a leaf or a group.
* `Predicate.all?`, `Predicate.any?` — groups of at least two children; one child stands for
  itself, and no child makes no predicate.
-/

namespace SqlRecords

/-- One property compared with one value. -/
structure Condition where
  property : String
  operator : Operator
  value : Value
  negated : Bool
deriving DecidableEq

/-- A filter over properties. -/
inductive Predicate where
  | field (c : Condition)
  | group (op : GroupOperator) (children : List Predicate)

namespace Predicate

instance : Inhabited Predicate := ⟨group .and []⟩

/-- Compares a property with a value. -/
def leaf (property : String) (op : Operator) (v : Value) : Predicate :=
  field ⟨property, op, v, false⟩

/-- The property has the value; for `null`, the property is absent. -/
def eq (property : String) (v : Value) : Predicate :=
  leaf property .eq v

/-- Negates a leaf; a group stays as it is. -/
def not : Predicate → Predicate
  | field c => field { c with negated := !c.negated }
  | group op children => group op children

/-- Joins predicates under the rule for few children. -/
def combine? (op : GroupOperator) : List Predicate → Option Predicate
  | [] => none
  | [p] => some p
  | p :: q :: rest => some (group op (p :: q :: rest))

/-- All of the predicates hold. -/
def all? (ps : List Predicate) : Option Predicate := combine? .and ps

/-- At least one of the predicates holds. -/
def any? (ps : List Predicate) : Option Predicate := combine? .or ps

/-- No predicate comes of no children only. -/
theorem combine?_eq_none_iff {op : GroupOperator} {ps : List Predicate} :
    combine? op ps = none ↔ ps = [] := by
  match ps with
  | [] => simp [combine?]
  | [p] => simp [combine?]
  | p :: q :: rest => simp [combine?]

@[simp] theorem not_not (p : Predicate) : p.not.not = p := by
  cases p <;> simp [not]

end Predicate

end SqlRecords
