/-!
# Real numbers of 64 bits

A real value is kept as the 64 bits of its IEEE-754 `binary64` form, so that equality of values
is decided by bits and every operation below is exact arithmetic on natural numbers.

* `BinaryFormat` — precision and unit of a binary format; `double` and `single` are the two in
  use. The finite magnitudes of a format are numbered in ascending order from zero, and the bits
  of a number without its sign are that number (`BinaryFormat.scaled` gives what it stands for).
* `BinaryFormat.round` — the magnitude nearest to a fraction, a half going to the even neighbour.
* `Binary64` — the bits, with sign, class, order (`compare?`: NaN is incomparable and the two
  zeros are equal), integer part, and conversion from integers and through `single`.
-/

namespace SqlRecords

/-- A binary floating point format. Its least positive magnitude is `2 ^ -unitExponent`, and
its magnitudes from `2 ^ fractionBits` units on have `fractionBits + 1` significant bits. -/
structure BinaryFormat where
  fractionBits : Nat
  exponentBits : Nat
  unitExponent : Nat
deriving DecidableEq, Repr

namespace BinaryFormat

/-- The format of reals of 64 bits. -/
def double : BinaryFormat := ⟨52, 11, 1074⟩

/-- The format of reals of 32 bits. -/
def single : BinaryFormat := ⟨23, 8, 149⟩

/-- The number of infinity: the first one past the finite magnitudes. -/
def infinity (f : BinaryFormat) : Nat :=
  (Nat.pow 2 f.exponentBits - 1) * Nat.pow 2 f.fractionBits

/-- What the finite magnitude with this number stands for, counted in units `2 ^ -unitExponent`. -/
def scaled (f : BinaryFormat) (magnitude : Nat) : Nat :=
  let exponent := magnitude / Nat.pow 2 f.fractionBits
  let fraction := magnitude % Nat.pow 2 f.fractionBits
  if exponent = 0 then fraction else (Nat.pow 2 f.fractionBits + fraction) * Nat.pow 2 (exponent - 1)

/-- The nearest whole number to `num / den`, a half going to the even one. -/
def roundHalfEven (num den : Nat) : Nat :=
  let q := num / den
  let r := num % den
  if 2 * r < den then q
  else if den < 2 * r then q + 1
  else if q % 2 = 0 then q else q + 1

/-- How far the last significant bit of a magnitude of `units` whole units lies above the unit. -/
def shift (f : BinaryFormat) (units : Nat) : Nat :=
  if units < Nat.pow 2 (f.fractionBits + 1) then 0 else Nat.log2 units - f.fractionBits

/-- The number of the magnitude nearest to `num / den`, a half going to the even neighbour;
past the last finite magnitude it is `infinity`. -/
def round (f : BinaryFormat) (num den : Nat) : Nat :=
  let k := f.shift (num * Nat.pow 2 f.unitExponent / den)
  min f.infinity
    (k * Nat.pow 2 f.fractionBits +
      roundHalfEven (num * Nat.pow 2 f.unitExponent) (den * Nat.pow 2 k))

end BinaryFormat

/-- A real number of 64 bits. -/
structure Binary64 where
  bits : UInt64
deriving DecidableEq, Repr

namespace Binary64

/-- Whether the sign bit is set. -/
def negative (x : Binary64) : Bool :=
  Nat.pow 2 63 ≤ x.bits.toNat

/-- The bits without the sign: the number of the magnitude among those of the format. -/
def magnitude (x : Binary64) : Nat :=
  x.bits.toNat % Nat.pow 2 63

/-- The number with this sign and this magnitude. -/
def ofMagnitude (negative : Bool) (magnitude : Nat) : Binary64 :=
  ⟨UInt64.ofNat ((if negative then Nat.pow 2 63 else 0) + magnitude % Nat.pow 2 63)⟩

/-- Neither an infinity nor a NaN. -/
def isFinite (x : Binary64) : Bool :=
  x.magnitude < BinaryFormat.double.infinity

/-- Not a number. -/
def isNaN (x : Binary64) : Bool :=
  BinaryFormat.double.infinity < x.magnitude

/-- The not-a-number that reading a text gives. -/
def nan : Binary64 := ⟨0x7ff8000000000000⟩

/-- The absolute value in units of `2 ^ -1074`, exact for finite numbers. -/
def units (x : Binary64) : Nat :=
  BinaryFormat.double.scaled x.magnitude

/-- The number of units in one. -/
def one : Nat := Nat.pow 2 BinaryFormat.double.unitExponent

/-- Places the numbers on a line on which the two zeros fall together. -/
def orderKey (x : Binary64) : Int :=
  if x.negative then -(x.magnitude : Int) else x.magnitude

/-- The order of numbers; a NaN is not comparable to anything, itself included. -/
def compare? (x y : Binary64) : Option Ordering :=
  if x.isNaN || y.isNaN then none else some (compare x.orderKey y.orderKey)

/-- The integer that a finite number without a fraction is equal to. -/
def toInt? (x : Binary64) : Option Int :=
  if x.isFinite ∧ x.units % one = 0 then
    some (if x.negative then -((x.units / one : Nat) : Int) else (x.units / one : Nat))
  else none

/-- The number nearest to an integer. -/
def ofInt (i : Int) : Binary64 :=
  ofMagnitude (i < 0) (BinaryFormat.double.round i.natAbs 1)

/-- The number after a passage through 32 bits. -/
def throughSingle (x : Binary64) : Binary64 :=
  if x.isNaN then nan
  else if x.isFinite then
    let narrow := BinaryFormat.single.round x.units one
    if narrow = BinaryFormat.single.infinity then
      ofMagnitude x.negative BinaryFormat.double.infinity
    else
      ofMagnitude x.negative
        (BinaryFormat.double.round (BinaryFormat.single.scaled narrow)
          (Nat.pow 2 BinaryFormat.single.unitExponent))
  else x

/-- One half is smaller than one. -/
example : compare? ⟨0x3fe0000000000000⟩ ⟨0x3ff0000000000000⟩ = some .lt := by decide

/-- The zeros are equal though their bits differ. -/
example : compare? ⟨0x8000000000000000⟩ ⟨0⟩ = some .eq := by decide

end Binary64

end SqlRecords
