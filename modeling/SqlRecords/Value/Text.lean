import SqlRecords.Calendar.Pattern
import SqlRecords.Real.Decimal
import SqlRecords.Text.Utf8
import SqlRecords.Value.Basic

/-!
# Text of values

* `Value.display` — the value as a reader sees it.
* `Value.literal` — the value as a part of SQL text. Texts stand between single quotes as they
  are: a quote inside is not escaped, so a literal is safe only where the caller controls the
  value.
-/

namespace SqlRecords.Value

/-- The value as a reader sees it; nothing for `null`. -/
def display : Value → String
  | null => ""
  | bool b => if b then "true" else "false"
  | integer n => Numeral.intText n.toInt
  | real x => String.ofList x.text
  | text s => s
  | char c => String.singleton c
  | dateTime t => String.ofList (t.text ' ')
  | uuid u => String.ofList u.text
  | blob bytes => String.ofList (Utf8.decodeLossy bytes)

/-- The literal of `null`, which also stands for reals that are no finite number. -/
def nullLiteral : String := "null"

/-- The value as a part of SQL text. -/
def literal : Value → String
  | null => nullLiteral
  | bool b => if b then "1" else "0"
  | integer n => Numeral.intText n.toInt
  | real x => if x.isFinite then String.ofList x.text else nullLiteral
  | blob bytes => "X'" ++ String.ofList (Hex.encodeUpper bytes) ++ "'"
  | v => "'" ++ v.display ++ "'"

end SqlRecords.Value
