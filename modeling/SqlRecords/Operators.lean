/-!
# Operators

The closed vocabularies of filters and their SQL spelling.

* `Operator` — compares one property with one value; `Operator.sql` also spells its negation.
* `GroupOperator` — joins conditions.
* `BinaryOp` — joins two expressions.
* `Method` — the tests that are written like calls: `LIKE`, `IN` and their negations.

`Operator.sql_not` says that negation changes the spelling, `Operator.sql_injective` that the
spelling determines the operator up to the pairs that negation makes.
-/

namespace SqlRecords

/-- How one property is compared with one value. -/
inductive Operator where
  | eq | gt | ge | lt | le | like
deriving DecidableEq, Repr

namespace Operator

/-- Every operator, in the order of declaration. -/
def all : List Operator := [eq, gt, ge, lt, le, like]

/-- The name of the operator in messages. -/
def name : Operator → String
  | eq => "Eq"
  | gt => "Gt"
  | ge => "Ge"
  | lt => "Lt"
  | le => "Le"
  | like => "Like"

/-- The spelling of the operator or of its negation, which is its complement. -/
def sql : Operator → (negated : Bool) → String
  | eq, false => "="
  | eq, true => "<>"
  | gt, false => ">"
  | gt, true => "<="
  | ge, false => ">="
  | ge, true => "<"
  | lt, false => "<"
  | lt, true => ">="
  | le, false => "<="
  | le, true => ">"
  | like, false => "LIKE"
  | like, true => "NOT LIKE"

/-- Negation changes the spelling. -/
theorem sql_not (op : Operator) (negated : Bool) : op.sql (!negated) ≠ op.sql negated := by
  cases op <;> cases negated <;> decide

/-- Under a given sign the spelling determines the operator. -/
theorem sql_injective {a b : Operator} {negated : Bool} (h : a.sql negated = b.sql negated) :
    a = b := by
  revert h
  cases a <;> cases b <;> cases negated <;> decide

end Operator

/-- How conditions are joined. -/
inductive GroupOperator where
  | and | or
deriving DecidableEq, Repr

namespace GroupOperator

/-- The name of the operator. -/
def name : GroupOperator → String
  | and => "And"
  | or => "Or"

/-- The text between two conditions. -/
def sql : GroupOperator → String
  | and => " AND "
  | or => " OR "

/-- A group without conditions: an empty conjunction holds, an empty disjunction does not. -/
def emptySql : GroupOperator → String
  | and => "(1=1)"
  | or => "(1=0)"

end GroupOperator

/-- How two expressions are joined. -/
inductive BinaryOp where
  | eq | ne | gt | ge | lt | le | add | subtract | multiply | divide | and | or
deriving DecidableEq, Repr

namespace BinaryOp

/-- Every operator, in the order of declaration. -/
def all : List BinaryOp :=
  [eq, ne, gt, ge, lt, le, add, subtract, multiply, divide, and, or]

/-- The name of the operator. -/
def name : BinaryOp → String
  | eq => "Eq"
  | ne => "Ne"
  | gt => "Gt"
  | ge => "Ge"
  | lt => "Lt"
  | le => "Le"
  | add => "Add"
  | subtract => "Subtract"
  | multiply => "Multiply"
  | divide => "Divide"
  | and => "And"
  | or => "Or"

/-- The text between the operands. -/
def sql : BinaryOp → String
  | eq => "="
  | ne => "<>"
  | gt => ">"
  | ge => ">="
  | lt => "<"
  | le => "<="
  | add => "+"
  | subtract => "-"
  | multiply => "*"
  | divide => "/"
  | and => " AND "
  | or => " OR "

/-- Whether the operator compares its operands. -/
def isComparison : BinaryOp → Bool
  | eq | ne | gt | ge | lt | le => true
  | _ => false

/-- Whether the operator joins conditions. -/
def isLogical : BinaryOp → Bool
  | and | or => true
  | _ => false

theorem sql_injective {a b : BinaryOp} (h : a.sql = b.sql) : a = b := by
  revert h
  cases a <;> cases b <;> decide

end BinaryOp

/-- A test that is written like a call. -/
inductive Method where
  | like | notLike | isIn | notIn
deriving DecidableEq, Repr

namespace Method

/-- Every test. -/
def all : List Method := [like, notLike, isIn, notIn]

/-- The name of the test in messages. -/
def name : Method → String
  | like => "Like"
  | notLike => "NotLike"
  | isIn => "In"
  | notIn => "NotIn"

/-- The text between the tested expression and the argument. -/
def sql : Method → String
  | like => " LIKE "
  | notLike => " NOT LIKE "
  | isIn => " IN "
  | notIn => " NOT IN "

end Method

end SqlRecords
