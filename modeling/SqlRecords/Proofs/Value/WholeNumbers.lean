import Mathlib.Algebra.Order.Field.Rat
import Mathlib.Algebra.Order.Ring.Abs
import Mathlib.Algebra.Order.Ring.Cast
import Mathlib.Data.List.Basic
import Mathlib.Tactic.Ring
import SqlRecords.Database.Fragments
import SqlRecords.Database.Records
import SqlRecords.Proofs.Value.Constants

/-!
# Whole numbers are kept

A field that is a whole number is read from whatever the database made of it: an integer, a truth
value, a real, or a text of digits.  Counts and assigned keys are read in the same way.  What is
read should be the number that the value is, or nothing.

It is that, with one exception.  A real may be a whole number that 64 bits cannot hold.  It is
brought to the nearest number of 64 bits before anyone asks whether the field can hold it, so a
field that can hold the nearest number takes it for the number itself.

* `Binary64.rational?` — the number that the bits of a real stand for, by sign, exponent and
  fraction.
* `Numeral.Denotes`, `Value.Denotes` — the number that a text and a value stand for.
* `Value.Overflows` — the exception.
* **`Database.wholeNumbers_kept`** — in every other case a number is read exactly if the value
  denotes it and the type holds it.
-/

namespace SqlRecords

/-! ## Reals -/

namespace Binary64

/-- The number of a real, from the fields of its bits: a sign bit, eleven bits of exponent, 52 bits
of fraction.  An exponent of ones only stands for no number. -/
def rational? (x : Binary64) : Option ℚ :=
  let sign : ℕ := x.bits.toNat / 2 ^ 63
  let exponent : ℕ := x.bits.toNat / 2 ^ 52 % 2 ^ 11
  let fraction : ℕ := x.bits.toNat % 2 ^ 52
  if exponent = 2 ^ 11 - 1 then none
  else if exponent = 0 then some ((-1) ^ sign * (fraction * 2 ^ (-1074 : ℤ)))
  else some ((-1) ^ sign * ((2 ^ 52 + fraction) * 2 ^ ((exponent : ℤ) - 1075)))

theorem magnitude_div (x : Binary64) : x.magnitude / 2 ^ 52 = x.bits.toNat / 2 ^ 52 % 2 ^ 11 := by
  simp only [magnitude, Nat.pow_eq]
  omega

theorem magnitude_mod (x : Binary64) : x.magnitude % 2 ^ 52 = x.bits.toNat % 2 ^ 52 := by
  simp only [magnitude, Nat.pow_eq]
  omega

theorem sign_eq (x : Binary64) : x.bits.toNat / 2 ^ 63 = if x.negative then 1 else 0 := by
  have hbits : x.bits.toNat < 2 ^ 64 := x.bits.toNat_lt
  simp only [negative, Nat.pow_eq, decide_eq_true_eq]
  split <;> omega

/-- A real is finite if not all bits of its exponent are set. -/
theorem isFinite_iff (x : Binary64) :
    x.isFinite = true ↔ x.bits.toNat / 2 ^ 52 % 2 ^ 11 ≠ 2 ^ 11 - 1 := by
  have hinfinity : BinaryFormat.double.infinity = 2047 * 2 ^ 52 := by decide
  rw [isFinite, decide_eq_true_eq, hinfinity, ← magnitude_div]
  simp only [magnitude, Nat.pow_eq]
  omega

theorem cast_one_eq : (one : ℚ) = 2 ^ (1074 : ℤ) := by
  have hunit : (BinaryFormat.double.unitExponent : ℤ) = 1074 := rfl
  rw [← Decimal.two_pow_unitExponent, Nat.cast_pow, Nat.cast_ofNat, ← hunit, zpow_natCast]

/-- The number of a finite real is its units, with the sign. -/
theorem rational?_eq {x : Binary64} (h : x.isFinite = true) :
    x.rational? = some ((if x.negative then -1 else 1) * ((x.units : ℚ) / (one : ℚ))) := by
  have hexponent := (isFinite_iff x).mp h
  have hbits : BinaryFormat.double.fractionBits = 52 := rfl
  have hsign : ((-1 : ℚ)) ^ (x.bits.toNat / 2 ^ 63) = if x.negative then -1 else 1 := by
    rw [sign_eq]
    split <;> simp
  simp only [rational?, if_neg hexponent, hsign, cast_one_eq, units, BinaryFormat.scaled, Nat.pow_eq,
    hbits, magnitude_div, magnitude_mod]
  split
  · rw [div_eq_mul_inv, ← zpow_neg]
  · rename_i hne
    obtain ⟨e, he⟩ := Nat.exists_eq_succ_of_ne_zero hne
    have hshift : ((e + 1 : ℕ) : ℤ) - 1075 = (e : ℤ) - 1074 := by
      push_cast
      ring
    rw [he, Nat.succ_eq_add_one, hshift, Nat.add_sub_cancel, zpow_sub₀ two_ne_zero, zpow_natCast]
    rw [Nat.cast_mul, Nat.cast_add, Nat.cast_pow, Nat.cast_pow, Nat.cast_ofNat, mul_div_assoc]

theorem rational?_eq_none {x : Binary64} (h : x.isFinite = false) : x.rational? = none := by
  have hexponent : x.bits.toNat / 2 ^ 52 % 2 ^ 11 = 2 ^ 11 - 1 := by
    by_contra hne
    simp [(isFinite_iff x).mpr hne] at h
  rw [rational?, if_pos hexponent]

/-- The units and the sign of a whole real. -/
theorem of_toInt? {x : Binary64} {n : ℤ} (h : x.toInt? = some n) : x.isFinite = true
    ∧ x.units = n.natAbs * one ∧ n = if x.negative then -(n.natAbs : ℤ) else n.natAbs := by
  rw [toInt?] at h
  split at h
  · rename_i hwhole
    obtain ⟨k, hk⟩ := Nat.dvd_of_mod_eq_zero hwhole.2
    rw [hk, Nat.mul_div_cancel_left k one_pos] at h
    obtain rfl := Option.some.inj h
    refine ⟨hwhole.1, ?_, ?_⟩
    · rw [hk, Nat.mul_comm]
      split <;> simp
    · split <;> simp
  · cases h

/-- The integer of a real is its number, if this is whole. -/
theorem toInt?_eq_some_iff {x : Binary64} {n : ℤ} :
    x.toInt? = some n ↔ x.rational? = some (n : ℚ) := by
  have hone : (one : ℚ) ≠ 0 := Nat.cast_ne_zero.mpr one_pos.ne'
  constructor
  · intro h
    obtain ⟨hfinite, hunits, hsign⟩ := of_toInt? h
    rw [rational?_eq hfinite, hunits, Nat.cast_mul, mul_div_cancel_right₀ _ hone, Option.some.injEq]
    conv_rhs => rw [hsign]
    split <;> simp
  · intro h
    cases hfinite : x.isFinite with
    | false => simp [rational?_eq_none hfinite] at h
    | true =>
        rw [rational?_eq hfinite, Option.some.injEq] at h
        have hpos : 0 ≤ (x.units : ℚ) / (one : ℚ) := div_nonneg (Nat.cast_nonneg _) (Nat.cast_nonneg _)
        have habs : (n.natAbs : ℚ) = (x.units : ℚ) / (one : ℚ) := by
          rw [Nat.cast_natAbs, Int.cast_abs, ← h, abs_mul, abs_of_nonneg hpos]
          generalize (x.units : ℚ) / (one : ℚ) = u
          split <;> simp
        obtain ⟨k, hk⟩ : ∃ k, n.natAbs = k := ⟨_, rfl⟩
        rw [hk] at habs
        have hunits : x.units = k * one := by
          rw [eq_div_iff hone] at habs
          exact_mod_cast habs.symm
        rw [toInt?, hunits, Nat.mul_mod_left, if_pos ⟨hfinite, rfl⟩,
          Nat.mul_div_cancel k one_pos, Option.some.injEq]
        refine Int.cast_injective (α := ℚ) ?_
        rw [← h, ← habs]
        split <;> simp

end Binary64

/-! ## Ranges -/

namespace IntType

theorem clamp_of_holds {t : IntType} {n : ℤ} (h : t.holds n = true) : t.clamp n = n := by
  rw [holds, Bool.and_eq_true, decide_eq_true_eq, decide_eq_true_eq] at h
  rw [clamp, min_eq_right h.2, max_eq_right h.1]

/-- A number that does not fit becomes the bound on its side. -/
theorem clamp_of_not_holds {n : ℤ} (h : int64.holds n = false) :
    int64.clamp n = if 0 < n then 2 ^ 63 - 1 else -2 ^ 63 := by
  have hout : ¬ (-2 ^ 63 ≤ n ∧ n < 2 ^ 63) := by
    rw [← holds_int64_iff, h]
    simp
  have hclamp : int64.clamp n = max (-2 ^ 63) (min (2 ^ 63 - 1) n) := rfl
  rw [hclamp]
  split <;> omega

theorem holds_clamp (n : ℤ) : int64.holds (int64.clamp n) = true := by
  have hclamp : int64.clamp n = max (-2 ^ 63) (min (2 ^ 63 - 1) n) := rfl
  rw [holds_int64_iff, hclamp]
  omega

/-- The types of fewer bits than 64. -/
theorem bounds_of_narrow {t : IntType} (h : t ≠ int64) (h' : t ≠ uint64) {n : ℤ}
    (hn : t.holds n = true) : -2 ^ 31 ≤ n ∧ n < 2 ^ 32 := by
  rw [holds, Bool.and_eq_true, decide_eq_true_eq, decide_eq_true_eq] at hn
  cases t <;> simp [least, greatest] at * <;> omega

end IntType

/-! ## Texts -/

namespace Numeral

/-- The number of a row of digits with at most one sign in front. -/
inductive Denotes : List Char → ℤ → Prop
  | unsigned {ds : List Char} (hne : ds ≠ []) (h : ∀ c ∈ ds, c.isDigit = true) :
      Denotes ds (value ds)
  | plus {ds : List Char} (hne : ds ≠ []) (h : ∀ c ∈ ds, c.isDigit = true) :
      Denotes ('+' :: ds) (value ds)
  | minus {ds : List Char} (hne : ds ≠ []) (h : ∀ c ∈ ds, c.isDigit = true) :
      Denotes ('-' :: ds) (-value ds)

/-- A text is a number if it is made of digits and has one. -/
theorem readNat?_eq_some_iff {cs : List Char} {n : ℕ} :
    readNat? cs = some n ↔ cs ≠ [] ∧ (∀ c ∈ cs, c.isDigit = true) ∧ value cs = n := by
  simp only [readNat?, List.all_eq_true]
  split
  · rename_i h
    rw [Option.some.injEq]
    exact ⟨fun hn => ⟨h.1, h.2, hn⟩, fun hn => hn.2.2⟩
  · rename_i h
    refine ⟨fun hn => ?_, fun hn => absurd ⟨hn.1, hn.2.1⟩ h⟩
    cases hn

/-- A text is read as a number exactly if it denotes the number. -/
theorem readInt?_eq_some_iff {cs : List Char} {n : ℤ} : readInt? cs = some n ↔ Denotes cs n := by
  constructor
  · intro h
    rw [readInt?.eq_def] at h
    split at h
    all_goals
      rename_i ds _
      obtain ⟨k, hk, rfl⟩ := Option.map_eq_some_iff.mp h
      obtain ⟨m, hm, hmk⟩ := Option.bind_eq_some_iff.mp hk
      obtain rfl := Option.some.inj hmk
      obtain ⟨hne, hdigits, rfl⟩ := readNat?_eq_some_iff.mp hm
    · exact .minus hne hdigits
    · exact .plus hne hdigits
    · exact .unsigned hne hdigits
  · rintro (⟨hne, h⟩ | ⟨hne, h⟩ | ⟨hne, h⟩)
    · obtain ⟨c, ds, rfl⟩ := List.exists_cons_of_ne_nil hne
      rw [readInt?_of_head_isDigit ds (h c List.mem_cons_self),
        readNat?_eq_some_iff.mpr ⟨hne, h, rfl⟩]
      rfl
    · rw [readInt?, readNat?_eq_some_iff.mpr ⟨hne, h, rfl⟩]
      rfl
    · rw [readInt?, readNat?_eq_some_iff.mpr ⟨hne, h, rfl⟩]
      rfl

/-- A numeral has visible characters only. -/
theorem Denotes.visible {cs : List Char} {n : ℤ} (h : Denotes cs n) :
    cs ≠ [] ∧ ∀ c ∈ cs, Text.isBlank c = false := by
  have hdigits : ∀ {ds : List Char}, (∀ c ∈ ds, c.isDigit = true) →
      ∀ c ∈ ds, Text.isBlank c = false := fun h c hc => Text.isBlank_of_isDigit (h c hc)
  cases h with
  | unsigned hne h => exact ⟨hne, hdigits h⟩
  | plus hne h => exact ⟨by simp, List.forall_mem_cons.mpr ⟨by decide, hdigits h⟩⟩
  | minus hne h => exact ⟨by simp, List.forall_mem_cons.mpr ⟨by decide, hdigits h⟩⟩

end Numeral

namespace Text

theorem exists_trimStart (cs : List Char) :
    ∃ before, cs = before ++ trimStart cs ∧ ∀ c ∈ before, isBlank c = true :=
  ⟨cs.takeWhile isBlank, List.takeWhile_append_dropWhile.symm, fun _ => List.mem_takeWhile_imp⟩

/-- Trimming takes blanks off, and nothing else. -/
theorem exists_trim (cs : List Char) : ∃ before after, cs = before ++ trim cs ++ after
    ∧ (∀ c ∈ before, isBlank c = true) ∧ ∀ c ∈ after, isBlank c = true := by
  obtain ⟨before, hbefore, hblank⟩ := exists_trimStart cs
  obtain ⟨after, hafter, hblank'⟩ := exists_trimStart (trimStart cs).reverse
  refine ⟨before, after.reverse, ?_, hblank, by simpa using hblank'⟩
  rw [trim, List.append_assoc, ← List.reverse_append, ← hafter, List.reverse_reverse, ← hbefore]

theorem trimStart_append {before body : List Char} (hbefore : ∀ c ∈ before, isBlank c = true)
    (hbody : ∀ c ∈ body.head?, isBlank c = false) : trimStart (before ++ body) = body := by
  rw [trimStart, List.dropWhile_append_of_pos hbefore]
  cases body with
  | nil => rfl
  | cons c body => simp [hbody c rfl]

/-- Around a text that is visible at its ends, it takes off all blanks. -/
theorem trim_append {before body after : List Char} (hbefore : ∀ c ∈ before, isBlank c = true)
    (hafter : ∀ c ∈ after, isBlank c = true) (hne : body ≠ [])
    (hbody : ∀ c ∈ body, isBlank c = false) : trim (before ++ body ++ after) = body := by
  have hfront : trimStart (before ++ (body ++ after)) = body ++ after := by
    refine trimStart_append hbefore fun c hc => ?_
    rw [List.head?_append_of_ne_nil _ hne] at hc
    exact hbody c (List.mem_of_mem_head? hc)
  have hback : trimStart (after.reverse ++ body.reverse) = body.reverse := by
    refine trimStart_append (by simpa using hafter) fun c hc => ?_
    exact hbody c (List.mem_reverse.mp (List.mem_of_mem_head? hc))
  rw [trim, List.append_assoc, hfront, List.reverse_append, hback, List.reverse_reverse]

end Text

/-! ## Values -/

namespace Value

/-- The number that a value stands for.  A text stands for the numeral between its blanks. -/
inductive Denotes : Value → ℚ → Prop
  | integer (n : Int64) : Denotes (.integer n) n.toInt
  | bool (b : Bool) : Denotes (.bool b) (if b then 1 else 0)
  | real {x : Binary64} {q : ℚ} (h : x.rational? = some q) : Denotes (.real x) q
  | text {s : String} {before body after : List Char} {n : ℤ}
      (h : s.toList = before ++ body ++ after) (hbefore : ∀ c ∈ before, Text.isBlank c = true)
      (hafter : ∀ c ∈ after, Text.isBlank c = true) (hn : Numeral.Denotes body n) :
      Denotes (.text s) n

/-- A real that is a whole number, but none of 64 bits. -/
def Overflows (v : Value) : Prop :=
  ∃ x n, v = .real x ∧ x.rational? = some ((n : ℤ) : ℚ) ∧ IntType.int64.holds n = false

/-- A text stands for a number if it is one without its blanks. -/
theorem denotes_text_iff {s : String} {n : ℤ} :
    Denotes (.text s) n ↔ Numeral.Denotes (Text.trim s.toList) n := by
  constructor
  · generalize hq : ((n : ℤ) : ℚ) = q
    rintro (_ | _ | _ | ⟨h, hbefore, hafter, hn⟩)
    obtain ⟨hne, hvisible⟩ := hn.visible
    rw [h, Text.trim_append hbefore hafter hne hvisible, Int.cast_injective hq]
    exact hn
  · intro h
    obtain ⟨before, after, hs, hbefore, hafter⟩ := Text.exists_trim s.toList
    exact .text hs hbefore hafter h

/-- Reading finds the number of a value, unless the value overflows. -/
theorem toInt?_eq_some_iff {v : Value} (h : ¬ v.Overflows) {n : ℤ} :
    v.toInt? = some n ↔ v.Denotes n ∧ IntType.int64.holds n = true := by
  cases v with
  | integer k =>
      constructor
      · intro hn
        obtain rfl := Option.some.inj hn
        exact ⟨.integer k, IntType.holds_toInt k⟩
      · rintro ⟨hn, -⟩
        generalize hq : ((n : ℤ) : ℚ) = q at hn
        cases hn
        rw [toInt?, Int.cast_injective hq]
  | bool b =>
      constructor
      · intro hn
        obtain rfl := Option.some.inj hn
        cases b with
        | false => exact ⟨by simpa using Denotes.bool false, by decide⟩
        | true => exact ⟨by simpa using Denotes.bool true, by decide⟩
      · rintro ⟨hn, -⟩
        generalize hq : ((n : ℤ) : ℚ) = q at hn
        cases hn
        cases b with
        | false => rw [toInt?, Int.cast_eq_zero.mp hq]; rfl
        | true => rw [toInt?, Int.cast_eq_one.mp hq]; rfl
  | real x =>
      have hclamp : ∀ k, x.rational? = some ((k : ℤ) : ℚ) → IntType.int64.holds k = true
          ∧ IntType.int64.clamp k = k := by
        intro k hk
        have hholds : IntType.int64.holds k = true := by
          rw [← Bool.not_eq_false]
          exact fun hout => h ⟨x, k, rfl, hk, hout⟩
        exact ⟨hholds, IntType.clamp_of_holds hholds⟩
      constructor
      · intro hn
        obtain ⟨k, hk, rfl⟩ := Option.map_eq_some_iff.mp hn
        rw [Binary64.toInt?_eq_some_iff] at hk
        rw [(hclamp k hk).2]
        exact ⟨.real hk, (hclamp k hk).1⟩
      · rintro ⟨hn, -⟩
        generalize hq : ((n : ℤ) : ℚ) = q at hn
        cases hn with
        | real hx =>
            rw [← hq] at hx
            rw [toInt?, Binary64.toInt?_eq_some_iff.mpr hx, Option.map_some, (hclamp n hx).2]
  | text s =>
      rw [toInt?, Option.filter_eq_some_iff, Numeral.readInt?_eq_some_iff, denotes_text_iff]
  | null | char _ | dateTime _ | uuid _ | blob _ =>
      refine ⟨nofun, fun hn => ?_⟩
      generalize ((n : ℤ) : ℚ) = q at hn
      exact nomatch hn.1

theorem holds_of_toInt? {v : Value} {n : ℤ} (h : v.toInt? = some n) :
    IntType.int64.holds n = true := by
  by_cases hv : v.Overflows
  · obtain ⟨x, k, rfl, hx, -⟩ := hv
    obtain ⟨k, -, rfl⟩ := Option.map_eq_some_iff.mp h
    exact IntType.holds_clamp k
  · exact ((toInt?_eq_some_iff hv).mp h).2

/-! ## Reading -/

/-- A value is read as an integer of 64 bits, which the type has to hold. -/
theorem readInt_eq_ok_iff {v : Value} {t : IntType} {n : ℤ} :
    v.readInt t = .ok n ↔ v.toInt? = some n ∧ t.holds n = true := by
  rw [← Option.filter_eq_some_iff, readInt]
  cases v.toInt?.filter t.holds <;> simp

/-- What is known of a value that is read as a whole number of a type. -/
structure ReadsAs (v : Value) (t : IntType) (r : Except Error Int) : Prop where
  /-- A number is read exactly if it is what the value denotes, and the type and 64 bits hold it. -/
  kept : ¬ v.Overflows → ∀ n : ℤ,
    r = .ok n ↔ v.Denotes n ∧ t.holds n = true ∧ IntType.int64.holds n = true
  /-- Where the type is of fewer than 64 bits, this is so without exception. -/
  narrow : t ≠ .int64 → t ≠ .uint64 → ∀ n : ℤ, r = .ok n ↔ v.Denotes n ∧ t.holds n = true
  /-- The exception: the nearest number of 64 bits is read, if the type holds it. -/
  saturated : ∀ x (k : ℤ), v = .real x → x.rational? = some (k : ℚ) → IntType.int64.holds k = false →
    ∀ n, r = .ok n ↔ n = (if 0 < k then 2 ^ 63 - 1 else -2 ^ 63) ∧ t.holds n = true
  /-- There is one way to fail. -/
  fails : ∀ e, r = .error e → e = .conversion v (.int t) ∧ e.kind = .mapping

/-- Unless it is a real beyond 64 bits, a value is read as the number that it stands for, or not at
all. -/
theorem readInt_kept {v : Value} (h : ¬ v.Overflows) (t : IntType) (n : ℤ) :
    v.readInt t = .ok n ↔ v.Denotes n ∧ t.holds n = true ∧ IntType.int64.holds n = true := by
  rw [readInt_eq_ok_iff, toInt?_eq_some_iff h, and_assoc, and_comm (a := IntType.int64.holds n = true)]

theorem readInt_saturated {x : Binary64} {k : ℤ} (hx : x.rational? = some (k : ℚ))
    (hk : IntType.int64.holds k = false) (t : IntType) (n : ℤ) :
    (real x).readInt t = .ok n
      ↔ n = (if 0 < k then 2 ^ 63 - 1 else -2 ^ 63) ∧ t.holds n = true := by
  rw [readInt_eq_ok_iff, toInt?, Binary64.toInt?_eq_some_iff.mpr hx, Option.map_some,
    Option.some.injEq, IntType.clamp_of_not_holds hk, eq_comm]

/-- A type of fewer bits holds no number that is out of reach, and none of the nearest ones. -/
theorem readInt_narrow {t : IntType} (ht : t ≠ .int64) (ht' : t ≠ .uint64) (v : Value) (n : ℤ) :
    v.readInt t = .ok n ↔ v.Denotes n ∧ t.holds n = true := by
  have hholds : t.holds n = true → -2 ^ 31 ≤ n ∧ n < 2 ^ 32 := IntType.bounds_of_narrow ht ht'
  have hwide : t.holds n = true → IntType.int64.holds n = true := fun h => by
    have hbounds := hholds h
    exact IntType.holds_int64_iff.mpr ⟨by omega, by omega⟩
  by_cases h : v.Overflows
  · obtain ⟨x, k, rfl, hx, hk⟩ := h
    rw [readInt_saturated hx hk]
    constructor
    · rintro ⟨hn, hin⟩
      have hbounds := hholds hin
      split at hn <;> omega
    · rintro ⟨hn, hin⟩
      generalize hq : ((n : ℤ) : ℚ) = q at hn
      cases hn with
      | real hx' =>
          rw [hx, ← hq] at hx'
          rw [Int.cast_injective (Option.some.inj hx'), hwide hin] at hk
          exact absurd hk (by simp)
  · rw [readInt_kept h]
    exact and_congr_right fun _ => and_iff_left_of_imp hwide

theorem readsAs_readInt (v : Value) (t : IntType) : v.ReadsAs t (v.readInt t) where
  kept h := readInt_kept h t
  narrow ht ht' := readInt_narrow ht ht' v
  saturated x k hv hx hk := hv ▸ readInt_saturated hx hk t
  fails e h := by
    rw [readInt] at h
    split at h
    · cases h
    · obtain rfl := Except.error.inj h
      exact ⟨rfl, rfl⟩

/-- A field takes what is read, in 64 bits, which hold it. -/
theorem read_int (v : Value) (t : IntType) :
    v.read (.int t) = (v.readInt t).map (fun n => .integer (.ofInt n))
      ∧ ∀ n, v.readInt t = .ok n → (Int64.ofInt n).toInt = n := by
  constructor
  · rw [read, readInt, FieldType.convert?]
    cases v.toInt?.filter t.holds <;> rfl
  · intro n h
    exact IntType.toInt_ofInt (holds_of_toInt? (readInt_eq_ok_iff.mp h).1)

end Value

/-! ## Counts and assigned keys -/

namespace Database

variable {σ ι : Type} {E : ι → Type} (db : Database σ ι E)

/-- A number that the action gives was read, as one of the type, from the first cell of the reply to
a query. -/
def ReadsNumber (t : IntType) (x : Action σ ι E Int) : Prop :=
  ∀ s n s', x.run s = (.ok n, s') →
    ∃ c b set v, (db.connection.query c b).1 = .ok set ∧ set.scalar = .ok v ∧ v.readInt t = .ok n

variable {db} {t : IntType}

theorem readsNumber_queryNumber (sql : String) (ps : Parameters) :
    db.ReadsNumber t (db.queryNumber t sql ps) := by
  intro s n s' h
  obtain ⟨set, u, hquery, hread⟩ := Action.run_bind_eq_ok h
  obtain ⟨v, hscalar, hv⟩ := Error.bind_eq_ok (congrArg Prod.fst hread)
  exact ⟨_, _, set, v, congrArg Prod.fst hquery, hscalar, hv⟩

theorem ReadsNumber.after {α : Type} {x : Action σ ι E α} {f : α → Action σ ι E Int}
    (h : ∀ a, db.ReadsNumber t (f a)) : db.ReadsNumber t (x >>= f) := by
  intro s n s' hrun
  obtain ⟨a, u, -, hrun⟩ := Action.run_bind_eq_ok hrun
  exact h a u n s' hrun

/-- The identity that an insert reads back. -/
theorem readsNumber_insertWithIdentity (sql : String) (ps : Parameters) :
    db.ReadsNumber .int64 (db.insertWithIdentity sql ps) := by
  rw [insertWithIdentity]
  split
  · exact readsNumber_queryNumber _ _
  · exact ReadsNumber.after fun _ => readsNumber_queryNumber _ _

variable [DecidableEq ι]

theorem readsNumber_count (i : ι) (f : Option Filter) : db.ReadsNumber .uint64 (db.count i f) :=
  ReadsNumber.after fun _ => ReadsNumber.after fun _ => readsNumber_queryNumber _ _

theorem readsNumber_countWhere (i : ι) (e : Option Expr) :
    db.ReadsNumber .uint64 (db.countWhere i e) :=
  ReadsNumber.after fun _ => ReadsNumber.after fun _ => readsNumber_queryNumber _ _

theorem readsNumber_countSql (i : ι) (sql fragment : String) :
    db.ReadsNumber .uint64 (db.countSql i sql fragment) :=
  ReadsNumber.after fun _ => readsNumber_queryNumber _ _

/-- **Whole numbers are kept.**  Whatever a value is read as, it is the number that the value
denotes, unless the value is a real that overflows; and every number in the range of the type and of
64 bits is read.  This goes for fields, for counts and for the keys that the database assigns. -/
theorem wholeNumbers_kept (db : Database σ ι E) :
    (∀ (v : Value) (t : IntType), v.ReadsAs t (v.readInt t)
        ∧ v.read (.int t) = (v.readInt t).map (fun n => .integer (.ofInt n))
        ∧ ∀ n, v.readInt t = .ok n → (Int64.ofInt n).toInt = n)
      ∧ (∀ i f, db.ReadsNumber .uint64 (db.count i f))
      ∧ (∀ i e, db.ReadsNumber .uint64 (db.countWhere i e))
      ∧ (∀ i sql fragment, db.ReadsNumber .uint64 (db.countSql i sql fragment))
      ∧ ∀ sql ps, db.ReadsNumber .int64 (db.insertWithIdentity sql ps) :=
  ⟨fun v t => ⟨v.readsAs_readInt t, v.read_int t⟩, readsNumber_count, readsNumber_countWhere,
    readsNumber_countSql, readsNumber_insertWithIdentity⟩

end Database

/-- **A real past 64 bits is read as another number.**  The real is 2⁶³, and what is read is one
less, also by a type that holds 2⁶³. -/
theorem Value.readInt_past_int64 :
    let x : Binary64 := ⟨0x43e0000000000000⟩
    x.rational? = some ((2 ^ 63 : ℤ) : ℚ) ∧ IntType.uint64.holds (2 ^ 63) = true
      ∧ (Value.real x).readInt .int64 = .ok (2 ^ 63 - 1)
      ∧ (Value.real x).readInt .uint64 = .ok (2 ^ 63 - 1) := by
  intro x
  refine ⟨Binary64.toInt?_eq_some_iff.mp ?_, ?_, ?_, ?_⟩ <;> decide +kernel

end SqlRecords
