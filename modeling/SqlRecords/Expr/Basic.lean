import SqlRecords.Operators
import SqlRecords.Value.Basic

/-!
# Filter expressions

A filter as a tree of comparisons, arithmetic and tests, with its values inside. Unlike a
`Predicate` it is not bound to a table: members go into the text as they are named.

* `Expr` — the trees.
* `Expr.eq` … `Expr.notIn` — the usual way to build them, one comparison with a value at a time.
-/

namespace SqlRecords

/-- A filter expression. -/
inductive Expr where
  | binary (op : BinaryOp) (left right : Expr)
  /-- A property, perhaps with a value that was captured when the tree was built. -/
  | member (name : String) (value : Option Value)
  | call (method : Method) (args : List Expr)
  | constant (v : Value)
  /-- A conversion; its operand is taken for its value. -/
  | unary (operand : Expr)
  | array (items : List Expr)

namespace Expr

instance : Inhabited Expr := ⟨constant .null⟩

/-- A property. -/
def column (name : String) : Expr := member name none

/-- A property with a captured value. -/
def bound (name : String) (v : Value) : Expr := member name (some v)

/-- An array of values. -/
def values (vs : List Value) : Expr := array (vs.map constant)

def eq (e : Expr) (v : Value) : Expr := binary .eq e (constant v)

def ne (e : Expr) (v : Value) : Expr := binary .ne e (constant v)

def gt (e : Expr) (v : Value) : Expr := binary .gt e (constant v)

def ge (e : Expr) (v : Value) : Expr := binary .ge e (constant v)

def lt (e : Expr) (v : Value) : Expr := binary .lt e (constant v)

def le (e : Expr) (v : Value) : Expr := binary .le e (constant v)

def and (e : Expr) (other : Expr) : Expr := binary .and e other

def or (e : Expr) (other : Expr) : Expr := binary .or e other

def like (e : Expr) (pattern : Value) : Expr := call .like [e, constant pattern]

def notLike (e : Expr) (pattern : Value) : Expr := call .notLike [e, constant pattern]

def isIn (e : Expr) (vs : List Value) : Expr := call .isIn [e, values vs]

def notIn (e : Expr) (vs : List Value) : Expr := call .notIn [e, values vs]

end Expr

end SqlRecords
