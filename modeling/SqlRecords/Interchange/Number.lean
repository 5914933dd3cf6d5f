import SqlRecords.Real.Decimal

/-!
# Numbers of exchanged documents

A real is read from a document in two steps, each of which rounds: the digits that fit 64 bits
become the nearest real, and that is multiplied or divided by a power of ten. Numbers of few
digits and a small exponent are exact in the first step, so only long ones can come out beside
the nearest real.

* `NumberText.decimal?` — the digits that count, with the place of the point.
* `NumberText.magnitude?` — both steps; there is none past the last finite magnitude.
* `NumberText.real?` — the real of a text.
-/

namespace SqlRecords.NumberText

/-- Appends digits to a coefficient as long as it fits 64 bits; also gives the number of digits
that were left. -/
def appendDigits (c : Nat) : List Char → Nat × Nat
  | [] => (c, 0)
  | d :: ds =>
    let next := c * 10 + (d.toNat - '0'.toNat)
    if next < Nat.pow 2 64 then appendDigits next ds else (c, ds.length + 1)

/-- The digits that count, with the place of the point. Digits that do not fit count as places
before the point and not at all after it. -/
def decimal? (cs : List Char) : Option Decimal :=
  let whole := cs.takeWhile Char.isDigit
  let rest := cs.dropWhile Char.isDigit
  let afterPoint := if rest.head? = some '.' then rest.tail else []
  let places := afterPoint.takeWhile Char.isDigit
  let tail := if rest.head? = some '.' then afterPoint.dropWhile Char.isDigit else rest
  let (c, skipped) := appendDigits 0 whole
  let (c, left) := appendDigits c places
  if whole = [] then none
  else
    (Decimal.readExponent? tail).map fun e => ⟨c, e + skipped - ((places.length - left : Nat) : Int)⟩

/-- The greatest exponent of a power of ten that is a finite real. -/
def lastPower : Nat := 308

/-- The units of the real nearest to a power of ten. -/
def powerUnits (exponent : Nat) : Nat :=
  BinaryFormat.double.scaled (BinaryFormat.double.round (Nat.pow 10 exponent) 1)

/-- The magnitude nearest to the product with a power of ten. -/
def timesPower (magnitude exponent : Nat) : Nat :=
  BinaryFormat.double.round (BinaryFormat.double.scaled magnitude * powerUnits exponent)
    (Binary64.one * Binary64.one)

/-- The magnitude nearest to the quotient by a power of ten. -/
def overPower (magnitude exponent : Nat) : Nat :=
  BinaryFormat.double.round (BinaryFormat.double.scaled magnitude) (powerUnits exponent)

/-- The magnitude of a decimal whose coefficient fits 64 bits. A negative exponent past the last
power takes two divisions, and three would leave nothing. -/
def magnitude? (d : Decimal) : Option Nat :=
  let m := BinaryFormat.double.round d.coefficient 1
  let e := d.exponent.natAbs
  if m = 0 then some 0
  else if d.exponent < 0 then
    if e ≤ lastPower then some (overPower m e)
    else if e ≤ 2 * lastPower then some (overPower (overPower m lastPower) (e - lastPower))
    else some 0
  else if e ≤ lastPower then
    some (timesPower m e) |>.filter (· < BinaryFormat.double.infinity)
  else none

/-- The real of a text. -/
def real? : List Char → Option Binary64
  | '-' :: cs => ((decimal? cs).bind magnitude?).map (Binary64.ofMagnitude true)
  | cs => ((decimal? cs).bind magnitude?).map (Binary64.ofMagnitude false)

end SqlRecords.NumberText
