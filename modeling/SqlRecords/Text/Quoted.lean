import SqlRecords.Text.Printable

/-!
# Quoted text

The form in which a description shows a text: in double quotes, with escapes for the quote, the
backslash and every character that has no visible form.

* `Quoted.escape` — one character.
* `Quoted.text` — a text between its quotes.
* `Quoted.option` — a text that may be absent.
-/

namespace SqlRecords.Quoted

/-- The escape of a character by its code point, in as few hexadecimal digits as it takes. -/
def codePoint (c : Char) : List Char :=
  ['\\', 'u', '\x7b'] ++ Nat.toDigits 16 c.toNat ++ ['\x7d']

/-- A character as it stands between the quotes. -/
def escape (c : Char) : List Char :=
  match c with
  | '\x00' => ['\\', '0']
  | '\t' => ['\\', 't']
  | '\n' => ['\\', 'n']
  | '\r' => ['\\', 'r']
  | '"' => ['\\', '"']
  | '\\' => ['\\', '\\']
  | c => if Text.isPrintable c then [c] else codePoint c

/-- A text between double quotes. -/
def text (s : String) : String :=
  String.ofList (['"'] ++ s.toList.flatMap escape ++ ['"'])

/-- A text that may be absent. -/
def option : Option String → String
  | none => "None"
  | some s => "Some(" ++ text s ++ ")"

end SqlRecords.Quoted
