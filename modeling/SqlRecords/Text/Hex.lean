/-!
# Hexadecimal text of bytes

Two digits a byte, the high half first.

* `Hex.encode` writes small letters (identifiers), `Hex.encodeUpper` capitals (blob literals).
* `Hex.decode` reads either case and refuses everything else, an odd count of digits included.

`decode_encode` says that reading inverts writing.
-/

namespace SqlRecords.Hex

/-- The two digits of a byte. -/
def digits (b : UInt8) : List Char :=
  [Nat.digitChar (b.toNat / 16), Nat.digitChar (b.toNat % 16)]

/-- The bytes in small letters. -/
def encode (bytes : List UInt8) : List Char :=
  bytes.flatMap digits

/-- The bytes in capitals. -/
def encodeUpper (bytes : List UInt8) : List Char :=
  (encode bytes).map Char.toUpper

/-- The value of one digit, in either case. -/
def digitValue? (c : Char) : Option Nat :=
  if '0' ≤ c ∧ c ≤ '9' then some (c.toNat - '0'.toNat)
  else if 'a' ≤ c ∧ c ≤ 'f' then some (c.toNat - 'a'.toNat + 10)
  else if 'A' ≤ c ∧ c ≤ 'F' then some (c.toNat - 'A'.toNat + 10)
  else none

/-- Reads pairs of digits. -/
def decode : List Char → Option (List UInt8)
  | [] => some []
  | [_] => none
  | a :: b :: rest => do
    let high ← digitValue? a
    let low ← digitValue? b
    let tail ← decode rest
    return UInt8.ofNat (16 * high + low) :: tail

theorem digitValue?_digitChar {n : Nat} (h : n < 16) : digitValue? (Nat.digitChar n) = some n := by
  have table : ∀ k ∈ List.range 16, digitValue? (Nat.digitChar k) = some k := by decide
  exact table n (List.mem_range.mpr h)

theorem length_encode (bytes : List UInt8) : (encode bytes).length = 2 * bytes.length := by
  induction bytes with
  | nil => rfl
  | cons b bytes ih =>
    rw [encode, List.flatMap_cons, List.length_append, ← encode, ih]
    simp [digits]
    omega

/-- Every character of the text is one of the sixteen digits. -/
theorem exists_of_mem_encode {bytes : List UInt8} {c : Char} (h : c ∈ encode bytes) :
    ∃ k ∈ List.range 16, Nat.digitChar k = c := by
  obtain ⟨b, -, hc⟩ := List.mem_flatMap.mp h
  have hb : b.toNat < 256 := b.toNat_lt
  simp only [digits, List.mem_cons, List.not_mem_nil, or_false] at hc
  rcases hc with rfl | rfl
  · exact ⟨_, List.mem_range.mpr (by omega), rfl⟩
  · exact ⟨_, List.mem_range.mpr (by omega), rfl⟩

/-- Reading inverts writing. -/
theorem decode_encode (bytes : List UInt8) : decode (encode bytes) = some bytes := by
  induction bytes with
  | nil => rfl
  | cons b bytes ih =>
    have hb : b.toNat < 256 := b.toNat_lt
    have high : digitValue? (Nat.digitChar (b.toNat / 16)) = some (b.toNat / 16) :=
      digitValue?_digitChar (by omega)
    have low : digitValue? (Nat.digitChar (b.toNat % 16)) = some (b.toNat % 16) :=
      digitValue?_digitChar (by omega)
    have whole : 16 * (b.toNat / 16) + b.toNat % 16 = b.toNat := Nat.div_add_mod _ _
    rw [encode, List.flatMap_cons, ← encode]
    simp only [digits, List.cons_append, List.nil_append, decode, high, low, ih,
      Option.bind_eq_bind, Option.bind_some, Option.pure_def, whole, UInt8.ofNat_toNat]

end SqlRecords.Hex
