import SqlRecords.Text.Numeral
import SqlRecords.Value.Text

/-!
# Statement parameters

The values that a statement binds, in the order in which its text names them.

* `PlaceholderStyle` — how a dialect writes a placeholder.
* `Parameters` — a list that only grows; `push` generates a name from the current length,
  `pushNamed` takes the caller's.
* `Parameters.get?` — the value of the first parameter with a given placeholder.
-/

namespace SqlRecords

/-- How the place of a parameter is marked in SQL text. -/
inductive PlaceholderStyle where
  /-- `:name` -/
  | colon
  /-- `@name` -/
  | atSign
  /-- `$1`, `$2`, … -/
  | dollar
  /-- `?` for every parameter -/
  | positional
deriving DecidableEq, Repr

namespace PlaceholderStyle

/-- Parameters that no dialect asked for are positional. -/
instance : Inhabited PlaceholderStyle := ⟨positional⟩

/-- Every style. -/
def all : List PlaceholderStyle := [colon, atSign, dollar, positional]

/-- The name of the style. -/
def name : PlaceholderStyle → String
  | colon => "Colon"
  | atSign => "AtSign"
  | dollar => "Dollar"
  | positional => "Positional"

/-- The placeholder of a parameter with the given name. -/
def render : PlaceholderStyle → String → String
  | colon, name => ":" ++ name
  | atSign, name => "@" ++ name
  | dollar, name => "$" ++ name
  | positional, _ => "?"

/-- The name generated for a parameter that follows `count` others. Numbers start at one, names
at `p0`. -/
def generatedName : PlaceholderStyle → (count : Nat) → String
  | dollar, count => Numeral.natText (count + 1)
  | _, count => "p" ++ Numeral.natText count

/-- The placeholder generated for a parameter that follows `count` others. -/
def generated (style : PlaceholderStyle) (count : Nat) : String :=
  style.render (style.generatedName count)

end PlaceholderStyle

/-- A parameter: its placeholder, its value, and the caller's name where the placeholder does not
carry it. -/
structure Param where
  placeholder : String
  value : Value
  name : Option String
deriving DecidableEq

/-- The parameters of a statement, in order. -/
structure Parameters where
  style : PlaceholderStyle
  items : List Param
deriving DecidableEq

namespace Parameters

/-- No parameters yet. -/
def empty (style : PlaceholderStyle) : Parameters := ⟨style, []⟩

instance : Inhabited Parameters := ⟨empty default⟩

/-- The number of parameters. -/
def size (ps : Parameters) : Nat := ps.items.length

/-- Whether there are none. -/
def isEmpty (ps : Parameters) : Bool := ps.items.isEmpty

/-- The values in order. -/
def values (ps : Parameters) : List Value := ps.items.map (·.value)

/-- The placeholders in order. -/
def placeholders (ps : Parameters) : List String := ps.items.map (·.placeholder)

/-- Appends a parameter. -/
def append (ps : Parameters) (p : Param) : Parameters := { ps with items := ps.items ++ [p] }

/-- The placeholder that the next generated parameter gets. -/
def next (ps : Parameters) : String := ps.style.generated ps.size

/-- Appends a value under a generated name. -/
def push (ps : Parameters) (value : Value) : Parameters :=
  ps.append ⟨ps.next, value, none⟩

/-- The parameter that a value gets under the caller's name: numbered placeholders stay numbered
and keep the name aside, marks without a name keep it aside too. -/
def namedParam (ps : Parameters) (name : String) (value : Value) : Param :=
  match ps.style with
  | .dollar => ⟨ps.next, value, some name⟩
  | .positional => ⟨ps.style.render name, value, some name⟩
  | .colon | .atSign => ⟨ps.style.render name, value, none⟩

/-- Appends a value under the caller's name. -/
def pushNamed (ps : Parameters) (name : String) (value : Value) : Parameters :=
  ps.append (ps.namedParam name value)

/-- The value of the first parameter with this placeholder. -/
def get? (ps : Parameters) (placeholder : String) : Option Value :=
  (ps.items.find? fun p => p.placeholder = placeholder).map (·.value)

/-- Placeholders with the literals of their values, in brackets. -/
def describe (ps : Parameters) : String :=
  "[" ++ ", ".intercalate (ps.items.map fun p => p.placeholder ++ "=" ++ p.value.literal) ++ "]"

@[simp] theorem items_push (ps : Parameters) (v : Value) :
    (ps.push v).items = ps.items ++ [⟨ps.next, v, none⟩] := rfl

@[simp] theorem style_push (ps : Parameters) (v : Value) : (ps.push v).style = ps.style := rfl

@[simp] theorem size_push (ps : Parameters) (v : Value) : (ps.push v).size = ps.size + 1 := by
  simp [size]

@[simp] theorem items_pushNamed (ps : Parameters) (name : String) (v : Value) :
    (ps.pushNamed name v).items = ps.items ++ [ps.namedParam name v] := rfl

@[simp] theorem style_pushNamed (ps : Parameters) (name : String) (v : Value) :
    (ps.pushNamed name v).style = ps.style := rfl

end Parameters

end SqlRecords
