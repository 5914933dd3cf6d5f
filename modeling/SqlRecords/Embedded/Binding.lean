import SqlRecords.Embedded.Storage
import SqlRecords.Parameters

/-!
# Binding parameters

How the values of a parameter set get to the placeholders of one statement.

The embedded database numbers the places of a statement in the order in which they first occur: a
bare `?` is a new place every time, a numbered one is the place of that number, and a name is one
place however often it occurs.

* `Places` — the numbered places of a statement; `Places.ofPlaceholders` numbers them.
* `Places.value` — the value of a place: by position for positional parameters, by placeholder
  otherwise, where a later parameter with the same placeholder wins. Parameters that the statement
  does not name are left out, and places without a parameter hold nothing.
* `boundValues` — the values at the placeholders of a statement, in the order of the text.
-/

namespace SqlRecords.Embedded

/-- The places of a statement. -/
structure Places where
  /-- The names that occurred, with their numbers. -/
  names : List (String × Nat)
  /-- The greatest number so far. -/
  count : Nat
deriving DecidableEq

namespace Places

/-- No places. -/
def none : Places := ⟨[], 0⟩

/-- The number that a new placeholder gets. -/
def newNumber (p : Places) (placeholder : String) : Nat :=
  match placeholder.toList with
  | '?' :: digits => (Numeral.readNat? digits).getD (p.count + 1)
  | _ => p.count + 1

/-- The number of a placeholder, and the places after it occurred. -/
def add (p : Places) (placeholder : String) : Nat × Places :=
  if placeholder = "?" then (p.count + 1, { p with count := p.count + 1 })
  else
    match p.names.lookup placeholder with
    | some n => (n, p)
    | .none =>
      let n := p.newNumber placeholder
      (n, ⟨p.names ++ [(placeholder, n)], max p.count n⟩)

/-- The numbers of some placeholders, after the places `p`, and the places after all of them. -/
def addAll (p : Places) : List String → List Nat × Places
  | [] => ([], p)
  | placeholder :: rest =>
    let (n, p) := p.add placeholder
    let (ns, p) := addAll p rest
    (n :: ns, p)

/-- The places of a statement with the given placeholders, in the order of the text. -/
def ofPlaceholders (placeholders : List String) : Places := (none.addAll placeholders).2

/-- The value of the place with a number, which starts at one. -/
def value (p : Places) (ps : Parameters) (n : Nat) : Value :=
  match ps.style with
  | .positional => if n ≤ p.count then ps.values.getD (n - 1) .null else .null
  | _ =>
    match ps.items.reverse.find? fun item => p.names.lookup item.placeholder == some n with
    | some item => item.value
    | .none => .null

end Places

/-- The values at the placeholders of a statement, in the order of the text. -/
def boundValues (ps : Parameters) (placeholders : List String) : List Value :=
  let (numbers, places) := Places.none.addAll placeholders
  numbers.map (places.value ps)

end SqlRecords.Embedded
