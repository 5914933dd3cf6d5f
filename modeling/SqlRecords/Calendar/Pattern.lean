import SqlRecords.Calendar.DateTime
import SqlRecords.Text.Numeral

/-!
# Text of date-times

* `DateTime.text` — year, month and day, a separator, then the time with a fraction of 3, 6 or 9
  digits or none. Years of other than four digits carry a sign.
* `Calendar.Item` — one item of a reading pattern; `Calendar.readNumbers?` runs a pattern over
  a whole text.
* `DateTime.readStored?` — reads what columns hold: `2024-03-01 08:30:00.5`, or with `T` between
  date and time.
* `DateTime.readInterchange?` — reads the form of exchanged documents, where blanks may also
  stand after each number.
-/

namespace SqlRecords

namespace Calendar

/-! ## Writing -/

/-- A year of four digits stands alone, any other has a sign and at least four digits. -/
def yearText (year : Int) : List Char :=
  if 0 ≤ year ∧ year ≤ 9999 then Numeral.padded 4 year.toNat
  else (if year < 0 then '-' else '+') :: Numeral.padded 4 year.natAbs

/-- A fraction of a second in as few groups of three digits as hold it. -/
def fractionText (nano : Nat) : List Char :=
  if nano = 0 then []
  else if nano % 1000000 = 0 then '.' :: Numeral.padded 3 (nano / 1000000)
  else if nano % 1000 = 0 then '.' :: Numeral.padded 6 (nano / 1000)
  else '.' :: Numeral.padded 9 nano

/-! ## Reading -/

/-- An item of a reading pattern. -/
inductive Item where
  /-- A year: at most four digits, or a sign and any number of them. -/
  | year
  /-- A number of at most two digits. -/
  | number
  /-- A fraction of a second, which may be absent. -/
  | fraction
  /-- One character. -/
  | literal (c : Char)
  /-- Any number of blanks, none included. -/
  | blanks
deriving DecidableEq, Repr

/-- Splits off the digits in front, at most `width` of them; there is at least one. -/
def takeNumber? (width : Nat) (cs : List Char) : Option (Nat × List Char) :=
  let digits := (cs.take width).takeWhile Char.isDigit
  if digits = [] then none else some (Numeral.value digits, cs.drop digits.length)

/-- The year at the front of a text, after blanks. -/
def takeYear? (cs : List Char) : Option (Int × List Char) :=
  match Text.trimStart cs with
  | '-' :: rest => (takeNumber? rest.length rest).map fun (n, rest) => (-(n : Int), rest)
  | '+' :: rest => (takeNumber? rest.length rest).map fun (n, rest) => ((n : Int), rest)
  | rest => (takeNumber? 4 rest).map fun (n, rest) => ((n : Int), rest)

/-- The nanoseconds that the digits after the point denote; those after the ninth do not count. -/
def takeFraction? : List Char → Option (Int × List Char)
  | '.' :: rest =>
    let digits := rest.takeWhile Char.isDigit
    let counted := digits.take 9
    if digits = [] then none
    else some ((Numeral.value counted * Nat.pow 10 (9 - counted.length) : Nat), rest.drop digits.length)
  | rest => some (0, rest)

/-- What an item reads from the front of a text: its number, if it is a number, and the rest. -/
def Item.take? : Item → List Char → Option (List Int × List Char)
  | .year, cs => (takeYear? cs).map fun (n, rest) => ([n], rest)
  | .number, cs => (takeNumber? 2 (Text.trimStart cs)).map fun (n, rest) => ([(n : Int)], rest)
  | .fraction, cs => (takeFraction? cs).map fun (n, rest) => ([n], rest)
  | .literal c, cs => if cs.head? = some c then some ([], cs.tail) else none
  | .blanks, cs => some ([], Text.trimStart cs)

/-- The numbers of a whole text that follows the pattern. -/
def readNumbers? : List Item → List Char → Option (List Int)
  | [], [] => some []
  | [], _ :: _ => none
  | item :: pattern, cs => do
    let (numbers, rest) ← item.take? cs
    let more ← readNumbers? pattern rest
    return numbers ++ more

/-- Year to second and fraction, with `middle` between date and time. -/
def storedPattern (middle : Item) : List Item :=
  [.year, .literal '-', .number, .literal '-', .number, middle,
   .number, .literal ':', .number, .literal ':', .number, .fraction]

/-- The same with `T` in the middle, and blanks after every number. -/
def interchangePattern : List Item :=
  [.year, .blanks, .literal '-', .number, .blanks, .literal '-', .number, .blanks, .literal 'T',
   .number, .blanks, .literal ':', .number, .blanks, .literal ':', .number, .fraction, .blanks]

end Calendar

namespace DateTime

/-- The text of a date-time with the given separator between date and time. -/
def text (separator : Char) (t : DateTime) : List Char :=
  Calendar.yearText t.year ++ '-' :: Numeral.padded 2 t.month ++ '-' :: Numeral.padded 2 t.day ++
    separator :: Numeral.padded 2 t.hour ++ ':' :: Numeral.padded 2 t.minute ++
    ':' :: Numeral.padded 2 t.shownSecond ++ Calendar.fractionText t.shownNano

/-- The date-time with the numbers that a pattern read. -/
def ofNumbers? : List Int → Option DateTime
  | [year, month, day, hour, minute, second, nano] =>
    ofShown? year month.toNat day.toNat hour.toNat minute.toNat second.toNat nano.toNat
  | _ => none

/-- Reads a date-time that follows the pattern from end to end. -/
def read? (pattern : List Calendar.Item) (cs : List Char) : Option DateTime :=
  (Calendar.readNumbers? pattern cs).bind ofNumbers?

/-- Reads the text of a column. -/
def readStored? (cs : List Char) : Option DateTime :=
  (read? (Calendar.storedPattern .blanks) cs).or (read? (Calendar.storedPattern (.literal 'T')) cs)

/-- Reads the text of an exchanged document. -/
def readInterchange? (cs : List Char) : Option DateTime :=
  read? Calendar.interchangePattern cs

end DateTime

end SqlRecords
