import SqlRecords.Error
import SqlRecords.Expr.Basic

/-!
# SQL text of filter expressions

Values become literals in the text; nothing is bound.

* `Side` — what a node stands for: a member is its name on the identifier side of an operator and
  its captured value on the value side, and an array is allowed only as a list.
* `BinaryOp.join` — the text of two operands, with the test for absence in place of a comparison
  with `null`.
* `Expr.compile` — the text of a tree. Every binary node stands in parentheses except a
  comparison directly under `AND` or `OR`.
* `Expr.fragment` — the text after `WHERE`; nothing for no expression.
-/

namespace SqlRecords

/-- The place in which an expression stands. -/
inductive Side where
  /-- The left of an operator, where a member is its name. -/
  | identifier
  /-- The right of an operator, where a member is its captured value. -/
  | value
  /-- Between the parentheses of `IN`: as on the value side, but an array is its items. -/
  | list
deriving DecidableEq, Repr

/-- The text of two operands and the operator between them. A right operand that reads `null`
turns equality into a test for absence. -/
def BinaryOp.join (op : BinaryOp) (left right : String) : String :=
  match op with
  | eq => if right = Value.nullLiteral then left ++ " is null" else left ++ eq.sql ++ right
  | ne => if right = Value.nullLiteral then left ++ " is not null" else left ++ ne.sql ++ right
  | op => left ++ op.sql ++ right

/-- The text of a test of `left` against the argument. The patterns stand in parentheses with
what they test, the lists stand in parentheses alone. -/
def Method.join (method : Method) (left right : String) : String :=
  match method with
  | like => "(" ++ left ++ like.sql ++ right ++ ")"
  | notLike => "(" ++ left ++ notLike.sql ++ right ++ ")"
  | isIn => left ++ isIn.sql ++ "(" ++ right ++ ")"
  | notIn => left ++ notIn.sql ++ "(" ++ right ++ ")"

/-- The place of the argument of a test. -/
def Method.argumentSide : Method → Side
  | like | notLike => .value
  | isIn | notIn => .list

namespace Expr

mutual

/-- The text of an expression in a place; `bare` says that it stands directly under `AND` or
`OR`, where a comparison needs no parentheses. -/
def compile (side : Side) (bare : Bool) : Expr → Except Error String
  | binary op left right => do
    let left ← compile .identifier op.isLogical left
    let right ← compile .value op.isLogical right
    let body := op.join left right
    return if bare && op.isComparison then body else "(" ++ body ++ ")"
  | member name value =>
    match side, value with
    | .identifier, _ => .ok name
    | _, some v => .ok v.literal
    | _, none => .error (.unboundMember name)
  | constant v => .ok v.literal
  | call method [target, argument] => do
    let target ← compile .identifier false target
    let argument ← compile method.argumentSide false argument
    return method.join target argument
  | call method args => .error (.argumentCount method args.length)
  | unary operand => compile .value false operand
  | array items =>
    match side, items with
    | .list, [] => .error .emptyList
    | .list, item :: items => do
      let first ← compile .value false item
      let rest ← compileItems items
      return ",".intercalate (first :: rest)
    | _, _ => .error .strayArray

/-- The texts of the items of a list. -/
def compileItems : List Expr → Except Error (List String)
  | [] => .ok []
  | item :: items => do
    let first ← compile .value false item
    let rest ← compileItems items
    return first :: rest

end

/-- A constant is its literal in every place. -/
theorem compile_constant (side : Side) (bare : Bool) (v : Value) :
    (constant v).compile side bare = .ok v.literal := by
  rw [compile]

/-- A conversion is left out, and what it converts stands for its value. -/
theorem compile_unary (side : Side) (bare : Bool) (operand : Expr) :
    (unary operand).compile side bare = operand.compile .value false := by
  rw [compile]

/-- The text after `WHERE`; nothing for no expression. -/
def fragment : Option Expr → Except Error String
  | none => .ok ""
  | some e => e.compile .identifier false

end Expr

end SqlRecords
