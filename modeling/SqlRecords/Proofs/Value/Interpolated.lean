import SqlRecords.Proofs.Real.WholeDigits
import SqlRecords.Proofs.Value.Constants
import SqlRecords.Proofs.Value.WholeNumbers

/-!
# Interpolated and bound values

A value reaches the database in one of two ways.  A predicate binds it to a placeholder; an expression
has its literal in the text of the statement, and the database makes a value of the literal.  Either
way the same value should arrive, and of the same type, because the type decides how the database goes
on: it divides integers without a remainder.

The same value arrives, with one exception.  The literal of a whole real has no point, so it is an
integer if 64 bits hold it.  Below 2⁵³ the integer is the number of the real; above, it is one that is
rounded to it.

* `StorageValue.readConstant?` — the value of a constant by the grammar of literals.
* `Value.IsWholeReal` — the exception.
* **`Value.literal_stored`** — in every other case the literal and the bound value are stored alike.
-/

namespace SqlRecords

/-! ## The grammar of literals -/

namespace StorageValue

/-- The text up to a closing quote, behind which there is nothing. -/
def readQuoted? (cs : List Char) : Option (List Char) :=
  match Token.quoted? cs with
  | some (body, []) => some (unquoted body)
  | _ => none

/-- A numeral with its sign: an integer if it is of digits only and 64 bits hold it, or else a real. -/
def readNumber? (negative : Bool) (cs : List Char) : Option StorageValue :=
  if cs = [] then none else readNumeral? negative cs

/-- The value of a constant: text between quotes, bytes between quotes behind an `X`, a numeral that
may have a minus sign, or the word for nothing. -/
def readConstant? : List Char → Option StorageValue
  | '\'' :: rest => (readQuoted? rest).map fun body => text (String.ofList body)
  | 'X' :: '\'' :: rest | 'x' :: '\'' :: rest => ((readQuoted? rest).bind Hex.decode).map blob
  | '-' :: rest => readNumber? true rest
  | cs => if Text.sameName (String.ofList cs) Value.nullLiteral then some null else readNumber? false cs

example : readConstant? "-2.50e1".toList = some (real ⟨0xc039000000000000⟩)
    ∧ readConstant? "-25".toList = some (integer (-25))
    ∧ readConstant? "'25'".toList = some (text "25") := by decide +kernel

theorem readQuoted?_append {body : List Char} (h : '\'' ∉ body) :
    readQuoted? (body ++ ['\'']) = some body := by
  rw [readQuoted?, Token.quoted?_append h Token.delimited_nil]
  exact congrArg some (unquoted_eq h)

theorem readConstant?_quoted {body : List Char} (h : '\'' ∉ body) :
    readConstant? ('\'' :: body ++ ['\'']) = some (text (String.ofList body)) := by
  rw [List.cons_append, readConstant?, readQuoted?_append h, Option.map_some]

theorem readConstant?_blob (bytes : List UInt8) :
    readConstant? ('X' :: '\'' :: Hex.encodeUpper bytes ++ ['\'']) = some (blob bytes) := by
  rw [List.cons_append, List.cons_append, readConstant?,
    readQuoted?_append (Hex.quote_not_mem_encodeUpper bytes), Option.bind_some, Hex.decode_encodeUpper,
    Option.map_some]

/-- What starts with a digit is neither a text, nor bytes, nor the word for nothing. -/
theorem readConstant?_cons {c : Char} (h : c.isDigit = true) (cs : List Char) :
    readConstant? (c :: cs) = readNumeral? false (c :: cs) := by
  have hother : ∀ a : Char, a.isDigit = false → c ≠ a := by
    rintro a ha rfl
    exact absurd h (by simp [ha])
  have hsmall : c.toLower = c := by
    rw [Char.isDigit, Bool.and_eq_true, decide_eq_true_eq, decide_eq_true_eq] at h
    delta Char.toLower
    exact dif_neg fun hupper => absurd (UInt32.le_trans hupper.1 h.2) (by decide)
  have hword : Text.sameName (String.ofList (c :: cs)) Value.nullLiteral = false := by
    have hnull : Text.foldCase Value.nullLiteral = ['n', 'u', 'l', 'l'] := by decide
    rw [Text.sameName, Text.foldCase, String.toList_ofList, List.map_cons, hsmall, hnull]
    simp [hother]
  rw [readConstant?, hword]
  · rfl
  all_goals simp [hother]

theorem readConstant?_numeral {negative : Bool} {cs : List Char} (h : Token.IsNumeral cs) :
    readConstant? ((if negative then ['-'] else []) ++ cs) = readNumeral? negative cs := by
  obtain ⟨whole, places, rfl, hne, hwhole, -⟩ := h
  obtain ⟨c, whole, rfl⟩ := List.exists_cons_of_ne_nil hne
  cases negative with
  | true => rfl
  | false => exact readConstant?_cons (hwhole c List.mem_cons_self) _

theorem readConstant?_whole (negative : Bool) {k : ℕ} {n : Int64}
    (h : (if negative then -(k : ℤ) else k) = n.toInt) :
    readConstant? ((if negative then ['-'] else []) ++ Numeral.ofNat k) = some (integer n) := by
  rw [readConstant?_numeral (isNumeral_ofNat k), readNumeral?_ofNat h]

end StorageValue

/-! ## Reals -/

namespace Binary64

theorem exists_toInt? {x : Binary64} (hfinite : x.isFinite = true) (h : one ∣ x.units) :
    ∃ n, x.toInt? = some n := by
  rw [toInt?, if_pos ⟨hfinite, Nat.mod_eq_zero_of_dvd h⟩]
  exact ⟨_, rfl⟩

/-- A real has a point in its digits unless it is whole. -/
theorem isDigit_digits_iff {x : Binary64} (hfinite : x.isFinite = true) :
    x.digits.all Char.isDigit = true ↔ one ∣ x.units := by
  rw [digits, units]
  split
  · rename_i hzero
    rw [hzero, BinaryFormat.scaled_of_lt (Nat.two_pow_pos _)]
    simp
  · rename_i hzero
    rw [isFinite, decide_eq_true_eq] at hfinite
    exact Decimal.positional_isDigit_iff hzero hfinite

/-- A real that is not a whole number of 64 bits is read as it is. -/
theorem readNumeral?_of_not_whole {x : Binary64} (hfinite : x.isFinite = true)
    (h : ∀ n, x.toInt? = some n → 2 ^ 63 ≤ n.natAbs) :
    StorageValue.readNumeral? x.negative x.digits = some (.real x) := by
  obtain ⟨d, hread, hmagnitude, -⟩ := exists_read?_digits hfinite
  rw [StorageValue.readNumeral?, hread, Option.map_some, hmagnitude, ofMagnitude_magnitude, if_neg]
  rintro ⟨hdigits, hholds⟩
  obtain ⟨n, hn⟩ := exists_toInt? hfinite ((isDigit_digits_iff hfinite).mp hdigits)
  have hmany : 2 ^ 63 * one ≤ BinaryFormat.double.scaled x.magnitude := by
    have hunits := (of_toInt? hn).2.1
    rw [units] at hunits
    rw [hunits]
    exact Nat.mul_le_mul_right _ (h n hn)
  rw [isFinite, decide_eq_true_eq] at hfinite
  have hlarge := Decimal.lt_value_positional hfinite hmany
  rw [digits, if_neg (Decimal.ne_zero_of_le_scaled hmany), IntType.holds_int64_iff] at hholds
  split at hholds <;> omega

/-- A whole number of 64 bits is read as an integer that the real is nearest to, and as the number
itself if that has no more bits than a real. -/
theorem readNumeral?_of_whole {x : Binary64} {n : ℤ} (hn : x.toInt? = some n)
    (hsmall : n.natAbs < 2 ^ 63) :
    ∃ k : Int64, StorageValue.readNumeral? x.negative x.digits = some (.integer k)
      ∧ (n.natAbs < 2 ^ 53 → k.toInt = n) ∧ (n ≠ 0 → ofInt k.toInt = x) := by
  obtain ⟨hfinite, hunits, hsign⟩ := of_toInt? hn
  have hdigits := (isDigit_digits_iff hfinite).mpr ⟨n.natAbs, by rw [hunits, Nat.mul_comm]⟩
  obtain ⟨d, -, hmagnitude, hwhole⟩ := exists_read?_digits hfinite
  rw [hwhole hdigits] at hmagnitude
  obtain ⟨N, hN⟩ : ∃ N, Numeral.value x.digits = N := ⟨_, rfl⟩
  rw [hN] at hmagnitude
  have hscaled : BinaryFormat.double.scaled (⟨N, 0⟩ : Decimal).magnitude = n.natAbs * one := by
    rw [hmagnitude, ← hunits, units]
  have hlt : N < 2 ^ 63 := by
    refine Decimal.lt_of_units_lt ?_
    rw [hscaled]
    exact (Nat.mul_lt_mul_right one_pos).mpr hsmall
  obtain ⟨i, hi⟩ : ∃ i : ℤ, (if x.negative then -(N : ℤ) else N) = i := ⟨_, rfl⟩
  have hholds : IntType.int64.holds i = true := by
    rw [IntType.holds_int64_iff]
    split at hi <;> omega
  refine ⟨.ofInt i, ?_, fun hfew => ?_, fun hne => ?_⟩
  · rw [StorageValue.readNumeral?]
    simp only [hN, hi]
    exact if_pos ⟨hdigits, hholds⟩
  · have hunit : N * one = n.natAbs * one := by
      rw [← hscaled, Decimal.units_of_lt]
      rw [hscaled]
      exact (Nat.mul_lt_mul_right one_pos).mpr hfew
    have hsame : N = n.natAbs := Nat.eq_of_mul_eq_mul_right one_pos hunit
    rw [IntType.toInt_ofInt hholds, ← hi, hsame]
    exact hsign.symm
  · have hN0 : N ≠ 0 := by
      rintro rfl
      rw [Decimal.scaled_magnitude_zero, eq_comm, Nat.mul_eq_zero, Int.natAbs_eq_zero] at hscaled
      exact hscaled.elim hne one_pos.ne'
    have hround : BinaryFormat.double.round N 1 = x.magnitude := by
      rw [← hmagnitude, Decimal.magnitude_whole_of_lt hN0 (Nat.lt_trans hlt (by decide))]
    have habs : i.natAbs = N ∧ decide (i < 0) = x.negative := by
      rw [← hi]
      cases x.negative with
      | false => simp
      | true => simp; omega
    rw [IntType.toInt_ofInt hholds, ofInt, habs.1, habs.2, hround, ofMagnitude_magnitude]

end Binary64

/-! ## Values -/

namespace Value

/-- A real that is a whole number of 64 bits. -/
def IsWholeReal (v : Value) : Prop :=
  ∃ x n, v = .real x ∧ x.rational? = some ((n : ℤ) : ℚ) ∧ n.natAbs < 2 ^ 63

theorem isWholeReal_real_iff {x : Binary64} :
    IsWholeReal (.real x) ↔ ∃ n, x.toInt? = some n ∧ n.natAbs < 2 ^ 63 := by
  simp [IsWholeReal, Binary64.toInt?_eq_some_iff]

/-- What the literal of a value is stored as. -/
structure Interpolated (v : Value) (w : Option StorageValue) : Prop where
  /-- It is the value that is bound, with its type. -/
  stored : w = some v.toStorage ↔ ¬ v.IsWholeReal
  /-- The exception: an integer, for a real.  Below 2⁵³ it is the number of the real.  In any case it is
  one that is rounded to the real; only a zero has lost its sign. -/
  integer : ∀ x n, v = .real x → x.rational? = some ((n : ℤ) : ℚ) → n.natAbs < 2 ^ 63 →
    ∃ k : Int64, w = some (.integer k) ∧ (n.natAbs < 2 ^ 53 → k.toInt = n)
      ∧ (n ≠ 0 → Binary64.ofInt k.toInt = x)

theorem interpolated_real {x : Binary64} (hfinite : x.isFinite = true) :
    Interpolated (.real x) (StorageValue.readNumeral? x.negative x.digits) := by
  constructor
  · rw [isWholeReal_real_iff]
    constructor
    · rintro hsame ⟨n, hn, hsmall⟩
      obtain ⟨k, hk, -⟩ := Binary64.readNumeral?_of_whole hn hsmall
      cases hk.symm.trans hsame
    · intro hnone
      refine Binary64.readNumeral?_of_not_whole hfinite fun n hn => ?_
      exact Nat.le_of_not_lt fun hsmall => hnone ⟨n, hn, hsmall⟩
  · intro y n hy hn hsmall
    obtain rfl := Value.real.inj hy
    exact Binary64.readNumeral?_of_whole (Binary64.toInt?_eq_some_iff.mpr hn) hsmall

/-- A value that is bound as no real keeps its type if the constant is what is bound. -/
theorem Interpolated.of_stored {v : Value} {w : StorageValue} (hreal : ∀ x, w ≠ .real x)
    (hv : v.toStorage = w) {read : Option StorageValue} (h : read = some w) :
    v.Interpolated read where
  stored := by
    refine ⟨?_, fun _ => by rw [h, hv]⟩
    rintro - ⟨x, -, rfl, -⟩
    exact hreal x hv.symm
  integer x n hx := by
    obtain rfl := hx
    exact absurd hv.symm (hreal x)

open StorageValue in
/-- **The literal of a value is stored as the bound value is**, unless it is a whole real. -/
theorem literal_stored {v : Value} (h : v.Writable) : v.Interpolated (readConstant? v.literal.toList) := by
  have hform := literalForm h
  obtain ⟨text, htext⟩ : ∃ text, v.literal.toList = text := ⟨_, rfl⟩
  rw [htext] at hform ⊢
  cases hform with
  | null => exact .of_stored (w := .null) (by simp) rfl (by decide)
  | whole hv negative hn => exact .of_stored (by simp) hv (readConstant?_whole negative hn)
  | real hfinite =>
      rw [readConstant?_numeral Binary64.isNumeral_digits]
      exact interpolated_real hfinite
  | quoted hv hquote => exact .of_stored (by simp) hv (readConstant?_quoted hquote)
  | blob bytes => exact .of_stored (w := .blob bytes) (by simp) rfl (readConstant?_blob bytes)

/-- Half a unit keeps its point. -/
theorem literal_stored_half :
    Writable (.real ⟨0x3fe0000000000000⟩)
      ∧ Interpolated (.real ⟨0x3fe0000000000000⟩)
        (StorageValue.readConstant? (literal (.real ⟨0x3fe0000000000000⟩)).toList)
      ∧ literal (.real ⟨0x3fe0000000000000⟩) = "0.5" :=
  have hwritable : Writable (.real ⟨0x3fe0000000000000⟩) := by
    rw [Writable]
    decide
  ⟨hwritable, literal_stored hwritable, by decide +kernel⟩

/-- The real number two is written as an integer, so a division by it has no remainder. -/
theorem literal_two_loses_type :
    Writable (.real ⟨0x4000000000000000⟩) ∧ literal (.real ⟨0x4000000000000000⟩) = "2"
      ∧ StorageValue.readConstant? "2".toList = some (.integer 2)
      ∧ toStorage (.real ⟨0x4000000000000000⟩) = .real ⟨0x4000000000000000⟩ := by
  refine ⟨?_, by decide +kernel, by decide +kernel, rfl⟩
  rw [Writable]
  decide

end Value

end SqlRecords
