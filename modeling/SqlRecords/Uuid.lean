import SqlRecords.Text.Hex

/-!
# Universally unique identifiers

* `Uuid` — sixteen bytes.
* `Uuid.text` — the hyphenated form in small letters; `Uuid.read?` also reads the digits without
  hyphens, the hyphenated form in braces or after `urn:uuid:`, in either case.
* `Uuid.order` — the order of the bytes.
* `Uuid.timeOrdered`, `Uuid.random` — identifiers of version 7 and of version 4 from a clock, a
  counter or random bits that the caller supplies.
-/

namespace SqlRecords

/-- An identifier of sixteen bytes. -/
structure Uuid where
  bytes : List UInt8
  length_bytes : bytes.length = 16
deriving DecidableEq, Repr

namespace Uuid

/-- The identifier with these bytes, if there are sixteen. -/
def ofBytes? (bytes : List UInt8) : Option Uuid :=
  if h : bytes.length = 16 then some ⟨bytes, h⟩ else none

/-- The last `count` bytes of a number, the highest first. -/
def bigEndian : (count : Nat) → Nat → List UInt8
  | 0, _ => []
  | count + 1, n => UInt8.ofNat (n / Nat.pow 256 count) :: bigEndian count n

theorem length_bigEndian (count n : Nat) : (bigEndian count n).length = count := by
  induction count with
  | zero => rfl
  | succ count ih => simp [bigEndian, ih]

/-- The identifier that is the given number of 128 bits, the highest byte first. -/
def ofNat (n : Nat) : Uuid :=
  ⟨bigEndian 16 n, length_bigEndian 16 n⟩

/-- The identifier of zeros, which stands for "no identifier". -/
def nil : Uuid := ofNat 0

/-- Whether every byte is zero. -/
def isNil (u : Uuid) : Bool := u.bytes.all (· == 0)

/-- The order of the bytes. -/
def order (a b : Uuid) : Ordering := compare a.bytes b.bytes

/-! ## Text -/

/-- The hexadecimal digits with hyphens between the groups: 8-4-4-4-12. -/
def text (u : Uuid) : List Char :=
  let digits := Hex.encode u.bytes
  digits.take 8 ++ '-' :: (digits.drop 8).take 4 ++ '-' :: (digits.drop 12).take 4 ++
    '-' :: (digits.drop 16).take 4 ++ '-' :: digits.drop 20

/-- Reads 32 digits. -/
def readSimple? (cs : List Char) : Option Uuid :=
  (Hex.decode cs).bind ofBytes?

/-- Reads groups of 8, 4, 4, 4 and 12 digits with hyphens between them. -/
def readHyphenated? (cs : List Char) : Option Uuid :=
  if cs.length = 36 ∧ [8, 13, 18, 23].all (fun i => cs[i]? == some '-') then
    readSimple? (cs.take 8 ++ (cs.drop 9).take 4 ++ (cs.drop 14).take 4 ++ (cs.drop 19).take 4 ++
      cs.drop 24)
  else none

/-- Reads any of the four forms. -/
def read? (cs : List Char) : Option Uuid :=
  if cs.length = 32 then readSimple? cs
  else if cs.length = 38 ∧ cs.head? = some '\x7b' ∧ cs.getLast? = some '\x7d' then
    readHyphenated? (cs.drop 1).dropLast
  else if ['u', 'r', 'n', ':', 'u', 'u', 'i', 'd', ':'].isPrefixOf cs then readHyphenated? (cs.drop 9)
  else readHyphenated? cs

/-! ## New identifiers -/

/-- The version that an identifier declares: the high half of its seventh byte. -/
def version (u : Uuid) : Nat := (u.bytes.getD 6 0).toNat / 16

/-- The layout that versions 4 and 7 share: the ninth byte starts with the bits `10`. -/
def hasStandardVariant (u : Uuid) : Bool := (u.bytes.getD 8 0).toNat / 64 = 2

/-- 128 bits with the given version and the standard layout: 48 bits, the version, 12 bits, the
variant, 62 bits. -/
def ofParts (version high middle low : Nat) : Uuid :=
  let first := (high % Nat.pow 2 48 * 16 + version) * Nat.pow 2 12 + middle % Nat.pow 2 12
  ofNat ((first * 4 + 2) * Nat.pow 2 62 + low % Nat.pow 2 62)

/-- Version 7: milliseconds first, then a counter, so that later identifiers are greater. -/
def timeOrdered (milliseconds counter : Nat) : Uuid :=
  ofParts 7 milliseconds (counter / Nat.pow 2 62) counter

/-- Version 4: 122 random bits. -/
def random (bits : Nat) : Uuid :=
  ofParts 4 (bits / Nat.pow 2 74) (bits / Nat.pow 2 62) bits

end Uuid

end SqlRecords
