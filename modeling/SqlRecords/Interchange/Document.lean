import SqlRecords.Interchange.Number

/-!
# Documents

The data model of exchanged documents: nothing, truth values, numbers, texts, arrays and objects.
A number keeps its text, since whole numbers and reals are told apart by it.

* `Document` — the data.
* `Document.integer?` — a number without point and exponent, within 64 bits with or without a
  sign.
* `Document.real?` — any number that is not too large for a real.
-/

namespace SqlRecords

/-- A piece of exchanged data. -/
inductive Document where
  | null
  | bool (b : Bool)
  | number (text : String)
  | string (s : String)
  | array (items : List Document)
  | object (fields : List (String × Document))

namespace Document

/-- The first field with the given name. -/
def field? : Document → String → Option Document
  | object fields, name => fields.lookup name
  | _, _ => none

/-- A whole number within the range of 64 bits, with a sign if it is negative. Zero with a sign
is a real. -/
def wholeNumber? (text : List Char) : Option Int :=
  match text with
  | '-' :: digits =>
    (Numeral.readNat? digits).bind fun n =>
      if 0 < n ∧ n ≤ Nat.pow 2 63 then some (-(n : Int)) else none
  | digits =>
    (Numeral.readNat? digits).bind fun n => if n < Nat.pow 2 64 then some (n : Int) else none

/-- The whole number that a document is. -/
def integer? : Document → Option Int
  | number text => wholeNumber? text.toList
  | _ => none

/-- The real number that a document is. -/
def real? : Document → Option Binary64
  | number text => NumberText.real? text.toList
  | _ => none

/-- A whole number as a document. -/
def ofInt (n : Int) : Document := number (Numeral.intText n)

/-- A real number as a document: with a point, so that it stays a real; nothing for a real that
is no finite number. -/
def ofReal (x : Binary64) : Document :=
  if x.isFinite then
    number (String.ofList (if '.' ∈ x.text then x.text else x.text ++ ['.', '0']))
  else null

end Document

end SqlRecords
