import SqlRecords.Proofs.Calendar.RoundTrip

/-!
# The order of texts

A column of texts is sorted by the bytes of the texts, and the first difference decides.  Values that
are stored as text are compared piece by piece: what two texts write at the same width is compared
before what follows it (`Text.compare_append`), and a number in front is compared as a number
(`Numeral.compare_padded_append`).

* `Text.byteOrder` — the order of the bytes; on ASCII it is the order of the characters.
* `compare_mul_add` — numbers of a high and a low part are compared part by part, which is why rows
  of digits of one length stand in the order of their numbers (`Numeral.compare_digits`).
-/

namespace SqlRecords

/-- Numbers of a high and a low part are compared part by part. -/
theorem compare_mul_add {a a' b b' base : Nat} (hb : b < base) (hb' : b' < base) :
    compare (a * base + b) (a' * base + b') = (compare a a').then (compare b b') := by
  have hless : ∀ {m n k l : Nat}, m < n → k < base → m * base + k < n * base + l := by
    intro m n k l hmn hk
    have hnext : (m + 1) * base ≤ n * base := Nat.mul_le_mul_right base hmn
    rw [Nat.succ_mul] at hnext
    omega
  rcases Nat.lt_trichotomy a a' with h | rfl | h
  · rw [Nat.compare_eq_lt.mpr (hless h hb), Nat.compare_eq_lt.mpr h]
    rfl
  · rw [Nat.compare_eq_eq.mpr (rfl : a = a), Ordering.then]
    rcases Nat.lt_trichotomy b b' with h | rfl | h
    · rw [Nat.compare_eq_lt.mpr h, Nat.compare_eq_lt.mpr (by omega)]
    · rw [Nat.compare_eq_eq.mpr rfl, Nat.compare_eq_eq.mpr rfl]
    · rw [Nat.compare_eq_gt.mpr h, Nat.compare_eq_gt.mpr (by omega)]
  · rw [Nat.compare_eq_gt.mpr (hless h hb'), Nat.compare_eq_gt.mpr h]
    rfl

/-! ## Bytes -/

namespace Text

variable {a a' b b' : List Char}

/-- The bytes of a text in UTF-8. -/
def bytes (s : String) : List UInt8 := s.toUTF8.data.toList

/-- The order of the bytes of two texts. -/
def byteOrder (s t : String) : Ordering := compare (bytes s) (bytes t)

theorem bytes_ofList (cs : List Char) : bytes (String.ofList cs) = cs.flatMap String.utf8EncodeChar := by
  rw [bytes, String.toUTF8_eq_toByteArray, String.toByteArray_ofList, List.utf8Encode,
    List.toList_data_toByteArray]

/-- Every character takes one byte. -/
def IsAscii (cs : List Char) : Prop := ∀ c ∈ cs, c.toNat < 128

@[simp] theorem isAscii_nil : IsAscii [] := nofun

@[simp] theorem isAscii_cons {c : Char} : IsAscii (c :: a) ↔ c.toNat < 128 ∧ IsAscii a :=
  List.forall_mem_cons

@[simp] theorem isAscii_append : IsAscii (a ++ b) ↔ IsAscii a ∧ IsAscii b :=
  List.forall_mem_append

theorem digit_bounds {c : Char} (h : c.isDigit = true) : '0'.toNat ≤ c.toNat ∧ c.toNat ≤ '9'.toNat := by
  simpa [Char.isDigit, Char.le_def, UInt32.le_iff_toNat_le] using h

theorem isAscii_of_isDigit (h : ∀ c ∈ a, c.isDigit = true) : IsAscii a := fun c hc =>
  Nat.lt_of_le_of_lt (digit_bounds (h c hc)).2 (by decide)

/-- A character of ASCII is one byte. -/
theorem utf8EncodeChar_of_lt {c : Char} (h : c.toNat < 128) :
    String.utf8EncodeChar c = [UInt8.ofNat c.toNat] := by
  simp only [String.utf8EncodeChar, Char.toNat] at h ⊢
  rw [if_pos (by omega)]

/-- Characters stand in the order of their code points. -/
theorem compare_char (c d : Char) : compare c d = compare c.toNat d.toNat := by
  have hlt : c < d ↔ c.toNat < d.toNat := Iff.rfl
  have heq : c = d ↔ c.toNat = d.toNat := Char.toNat_inj.symm
  rw [Nat.compare_eq_ite_lt]
  simp only [compare, compareOfLessAndEq, hlt, heq]
  grind

theorem compare_byte (a b : UInt8) : compare a b = compare a.toNat b.toNat := by
  have hlt : a < b ↔ a.toNat < b.toNat := UInt8.lt_iff_toNat_lt
  have heq : a = b ↔ a.toNat = b.toNat := UInt8.toNat_inj.symm
  rw [Nat.compare_eq_ite_lt]
  simp only [compare, compareOfLessAndEq, hlt, heq]
  grind

theorem compare_ofNat_toNat {c d : Char} (hc : c.toNat < 128) (hd : d.toNat < 128) :
    compare (UInt8.ofNat c.toNat) (UInt8.ofNat d.toNat) = compare c d := by
  have hnat : ∀ {k : Nat}, k < 128 → (UInt8.ofNat k).toNat = k := fun h =>
    UInt8.toNat_ofNat_of_lt' (Nat.lt_trans h (by decide))
  rw [compare_byte, hnat hc, hnat hd, compare_char]

/-- On ASCII the bytes stand in the order of the characters. -/
theorem byteOrder_ofList (ha : IsAscii a) (hb : IsAscii b) :
    byteOrder (String.ofList a) (String.ofList b) = compare a b := by
  rw [byteOrder, bytes_ofList, bytes_ofList]
  induction a generalizing b with
  | nil =>
    cases b with
    | nil => rfl
    | cons d b =>
      rw [List.flatMap_cons, utf8EncodeChar_of_lt (hb d List.mem_cons_self)]
      rfl
  | cons c a ih =>
    obtain ⟨hc, ha⟩ := isAscii_cons.mp ha
    rw [List.flatMap_cons, utf8EncodeChar_of_lt hc]
    cases b with
    | nil => rfl
    | cons d b =>
      obtain ⟨hd, hb⟩ := isAscii_cons.mp hb
      rw [List.flatMap_cons, utf8EncodeChar_of_lt hd, List.singleton_append, List.singleton_append,
        List.compare_cons_cons, List.compare_cons_cons, compare_ofNat_toNat hc hd, ih ha hb]

/-! ## Pieces of a text -/

/-- What two texts write at the same width is compared first. -/
theorem compare_append (h : a.length = b.length) :
    compare (a ++ a') (b ++ b') = (compare a b).then (compare a' b') := by
  induction a generalizing b with
  | nil =>
    obtain rfl := List.length_eq_zero_iff.mp h.symm
    rw [Std.ReflOrd.compare_self, List.nil_append, List.nil_append, Ordering.then]
  | cons c a ih =>
    obtain ⟨d, b, rfl⟩ := List.exists_cons_of_length_eq_add_one h.symm
    rw [List.cons_append, List.cons_append, List.compare_cons_cons, List.compare_cons_cons,
      ih (Nat.succ.inj h), Ordering.then_assoc]

/-- What both texts have in front does not count. -/
@[simp] theorem compare_cons_self (c : Char) : compare (c :: a) (c :: b) = compare a b := by
  rw [List.compare_cons_cons, Std.ReflOrd.compare_self, Ordering.then]

end Text

/-! ## Numbers -/

namespace Numeral

open Text

variable {a b rest rest' : List Char} {m n width : Nat}

theorem value_cons (c : Char) (cs : List Char) :
    value (c :: cs) = (c.toNat - '0'.toNat) * Nat.pow 10 cs.length + value cs := by
  rw [value, Nat.ofDigitChars_cons, Nat.ofDigitChars_eq_ofDigitChars_zero, Nat.mul_zero, Nat.zero_add,
    Nat.mul_comm]
  rfl

/-- A number is below the power of ten with as many zeros as it has digits. -/
theorem value_lt (h : ∀ c ∈ a, c.isDigit = true) : value a < Nat.pow 10 a.length := by
  induction a with
  | nil => decide
  | cons c a ih =>
    have hrest := ih fun d hd => h d (List.mem_cons_of_mem c hd)
    have hdigit : c.toNat - '0'.toNat ≤ 9 := by
      have hc := digit_bounds (h c List.mem_cons_self)
      have hnine : '9'.toNat = '0'.toNat + 9 := rfl
      omega
    have hmul := Nat.mul_le_mul_right (Nat.pow 10 a.length) hdigit
    have hpow : Nat.pow 10 (c :: a).length = Nat.pow 10 a.length * 10 := rfl
    rw [value_cons, hpow]
    omega

/-- Rows of digits of one length stand in the order of their numbers. -/
theorem compare_digits (ha : ∀ c ∈ a, c.isDigit = true) (hb : ∀ c ∈ b, c.isDigit = true)
    (h : a.length = b.length) : compare a b = compare (value a) (value b) := by
  induction a generalizing b with
  | nil =>
    obtain rfl := List.length_eq_zero_iff.mp h.symm
    rfl
  | cons c a ih =>
    obtain ⟨d, b, rfl⟩ := List.exists_cons_of_length_eq_add_one h.symm
    obtain ⟨hc, ha⟩ := List.forall_mem_cons.mp ha
    obtain ⟨hd, hb⟩ := List.forall_mem_cons.mp hb
    have hlength : a.length = b.length := Nat.succ.inj h
    have hdigit : compare c d = compare (c.toNat - '0'.toNat) (d.toNat - '0'.toNat) := by
      have hc := (digit_bounds hc).1
      have hd := (digit_bounds hd).1
      rw [compare_char, Nat.compare_eq_ite_lt, Nat.compare_eq_ite_lt]
      grind
    rw [List.compare_cons_cons, ih ha hb hlength, value_cons, value_cons, ← hlength,
      compare_mul_add (value_lt ha) (hlength ▸ value_lt hb), hdigit]

@[simp] theorem isAscii_padded (width n : Nat) : IsAscii (padded width n) :=
  isAscii_of_isDigit fun _ => isDigit_of_mem_padded

/-- Numbers that are written at one width stand in their order, whatever follows them. -/
theorem compare_padded_append (hwidth : 0 < width) (hm : m < Nat.pow 10 width)
    (hn : n < Nat.pow 10 width) :
    compare (padded width m ++ rest) (padded width n ++ rest')
      = (compare m n).then (compare rest rest') := by
  have hlength : (padded width m).length = (padded width n).length := by
    rw [length_padded hwidth hm, length_padded hwidth hn]
  rw [compare_append hlength, compare_digits (fun _ => isDigit_of_mem_padded)
    (fun _ => isDigit_of_mem_padded) hlength, value_padded, value_padded]

end Numeral

end SqlRecords
