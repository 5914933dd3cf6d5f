import SqlRecords.Real.Binary64
import SqlRecords.Text.Numeral

/-!
# Decimal forms of real numbers

A decimal is a whole coefficient and a power of ten.

* `Decimal.read?` — digits with an optional point and exponent, at least one digit before the
  exponent.
* `Decimal.magnitude` — the nearest magnitude of 64 bits, correctly rounded.
* `Decimal.shortest` — the decimal with the fewest digits that rounds to a given magnitude; of
  two with equally many digits the nearer one, and the larger one when both are equally near.
* `Decimal.positional` — the digits without an exponent and without a useless zero.
-/

namespace SqlRecords

/-- The number `coefficient * 10 ^ exponent`. -/
structure Decimal where
  coefficient : Nat
  exponent : Int
deriving DecidableEq, Repr

namespace Decimal

/-- Numerator and denominator. -/
def fraction (d : Decimal) : Nat × Nat :=
  (d.coefficient * Nat.pow 10 d.exponent.toNat, Nat.pow 10 (-d.exponent).toNat)

/-- How many places the first digit stands before the point. -/
def size (d : Decimal) : Int :=
  (Numeral.ofNat d.coefficient).length + d.exponent

/-- The number of the nearest magnitude of 64 bits. Numbers of more than 400 places before the
point are past the last finite magnitude, and numbers that start more than 400 places after it
are nearer to zero than to any other. -/
def magnitude (d : Decimal) : Nat :=
  if d.coefficient = 0 ∨ d.size < -400 then 0
  else if 400 < d.size then BinaryFormat.double.infinity
  else BinaryFormat.double.round d.fraction.1 d.fraction.2

/-! ## Reading -/

/-- Reads the part from the exponent mark on. -/
def readExponent? : List Char → Option Int
  | [] => some 0
  | c :: cs => if c = 'e' ∨ c = 'E' then Numeral.readInt? cs else none

/-- Reads digits with an optional point and exponent; there is a digit before the exponent. -/
def read? (cs : List Char) : Option Decimal :=
  let whole := cs.takeWhile Char.isDigit
  let rest := cs.dropWhile Char.isDigit
  let afterPoint := if rest.head? = some '.' then rest.tail else []
  let places := afterPoint.takeWhile Char.isDigit
  let tail := if rest.head? = some '.' then afterPoint.dropWhile Char.isDigit else rest
  if whole ++ places = [] then none
  else (readExponent? tail).map fun e => ⟨Numeral.value (whole ++ places), e - places.length⟩

/-! ## Shortest form -/

/-- The places before the point of a positive magnitude, counted in units of `2 ^ -1074`. The
shift by 360 places brings the smallest magnitude above one. -/
def sizeOfUnits (units : Nat) : Int :=
  ((Numeral.ofNat (units * Nat.pow 10 360 / Binary64.one)).length : Int) - 360

/-- Every magnitude is a decimal with 1074 places. -/
def exact (units : Nat) : Decimal :=
  ⟨units * Nat.pow 5 BinaryFormat.double.unitExponent, -BinaryFormat.double.unitExponent⟩

/-- Of the two decimals with `places` digits around a magnitude, the one that rounds to it, or
the nearer one if both do. -/
def neighbour? (magnitude places : Nat) : Option Decimal :=
  let units := BinaryFormat.double.scaled magnitude
  let e := sizeOfUnits units - places
  let num := units * Nat.pow 10 (-e).toNat
  let den := Binary64.one * Nat.pow 10 e.toNat
  let low : Decimal := ⟨num / den, e⟩
  let high : Decimal := ⟨num / den + 1, e⟩
  if low.magnitude = magnitude then
    if high.magnitude = magnitude ∧ den ≤ 2 * (num % den) then some high else some low
  else if high.magnitude = magnitude then some high
  else none

/-- The decimal with the fewest digits that rounds to a positive magnitude; 17 digits suffice. -/
def shortest (magnitude : Nat) : Decimal :=
  ((List.range 17).findSome? fun k => neighbour? magnitude (k + 1)).getD
    (exact (BinaryFormat.double.scaled magnitude))

/-! ## Writing -/

/-- A row of digits without the zeros at its end. -/
def dropTrailingZeros (ds : List Char) : List Char :=
  (ds.reverse.dropWhile (· = '0')).reverse

/-- The digits of a positive decimal, without an exponent: a point only before a fraction, no
zero at the end of a fraction, one zero before a point that would stand first. -/
def positional (d : Decimal) : List Char :=
  let all := Numeral.ofNat d.coefficient
  let digits := dropTrailingZeros all
  let e := d.exponent + (all.length - digits.length : Nat)
  if 0 ≤ e then digits ++ List.replicate e.toNat '0'
  else
    let places := (-e).toNat
    if places < digits.length then
      digits.take (digits.length - places) ++ '.' :: digits.drop (digits.length - places)
    else '0' :: '.' :: List.replicate (places - digits.length) '0' ++ digits

end Decimal

namespace Binary64

/-- The text of a number: the fewest digits that read back, never an exponent, no fraction for
whole numbers, a sign on every negative number and on negative zero. -/
def text (x : Binary64) : List Char :=
  if x.isNaN then ['N', 'a', 'N']
  else
    let sign := if x.negative then ['-'] else []
    if x.isFinite then
      sign ++ (if x.magnitude = 0 then ['0'] else (Decimal.shortest x.magnitude).positional)
    else sign ++ ['i', 'n', 'f']

/-- The names under which reading knows infinity, in small letters. -/
def infinityNames : List (List Char) :=
  [['i', 'n', 'f'], ['i', 'n', 'f', 'i', 'n', 'i', 't', 'y']]

/-- Reads a number without its sign. -/
def readMagnitude? (cs : List Char) : Option Nat :=
  if infinityNames.contains (cs.map Char.toLower) then some BinaryFormat.double.infinity
  else if cs.map Char.toLower = ['n', 'a', 'n'] then some nan.magnitude
  else (Decimal.read? cs).map Decimal.magnitude

/-- Reads a number: an optional sign, then digits with an optional point and exponent, or the
name of infinity or of the not-a-number in any case. -/
def read? : List Char → Option Binary64
  | '-' :: cs => (readMagnitude? cs).map (ofMagnitude true)
  | '+' :: cs => (readMagnitude? cs).map (ofMagnitude false)
  | cs => (readMagnitude? cs).map (ofMagnitude false)

end Binary64

end SqlRecords
