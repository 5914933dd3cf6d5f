import Mathlib.Tactic.Ring
import SqlRecords.Proofs.Expr.Literals

/-!
# Written reals read back

A real is written with the fewest digits that round to it, so what is read is the same real, but not
the same number: the digits of a large whole real stand for another whole number near it.

Rounding sees a fraction only through the number of units that it stands for.  It gives back a
magnitude whose units these are (`BinaryFormat.round_eq_of_units`), and it does not notice a factor
that numerator and denominator have in common (`BinaryFormat.round_congr`).

* `Decimal.magnitude_shortest` — the shortest form rounds to the magnitude.
* `Decimal.exists_read?_positional` — the digits read back as a decimal of the same magnitude.
* **`Decimal.units_of_lt`**, **`Decimal.le_of_units`** — a whole number below 2⁵³ is written
  exactly, and a real above 2⁶⁴ is not written with few digits.
-/

namespace SqlRecords

/-! ## Rounding -/

namespace BinaryFormat

variable {f : BinaryFormat} {m num den num' den' t : Nat}

/-- The quotient decides, not the form of the fraction. -/
theorem roundHalfEven_mul_right (ht : 0 < t) (a b : Nat) :
    roundHalfEven (a * t) (b * t) = roundHalfEven a b := by
  have hlt : ∀ x y : Nat, x * t < y * t ↔ x < y := fun _ _ => Nat.mul_lt_mul_right ht
  have htwo : 2 * (a % b * t) = 2 * (a % b) * t := (Nat.mul_assoc 2 _ t).symm
  simp only [roundHalfEven, Nat.mul_div_mul_right a b ht, Nat.mul_mod_mul_right, htwo, hlt]

theorem roundHalfEven_mul_self (q : Nat) (hden : 0 < den) : roundHalfEven (q * den) den = q := by
  simp only [roundHalfEven, Nat.mul_div_cancel q hden, Nat.mul_mod_left]
  exact if_pos (by omega)

/-- Rounding loses less than one. -/
theorem le_roundHalfEven (num den : Nat) : num / den ≤ roundHalfEven num den := by
  simp only [roundHalfEven]
  split_ifs <;> omega

theorem roundHalfEven_le (num den : Nat) : roundHalfEven num den ≤ num / den + 1 := by
  simp only [roundHalfEven]
  split_ifs <;> omega

theorem round_mul_right (ht : 0 < t) (num den : Nat) :
    f.round (num * t) (den * t) = f.round num den := by
  have hcomm : ∀ a b : Nat, a * t * b = a * b * t := fun a b => Nat.mul_right_comm a t b
  simp only [round, hcomm, Nat.mul_div_mul_right _ _ ht, roundHalfEven_mul_right ht]

/-- Equal fractions are rounded to the same magnitude. -/
theorem round_congr (hden : 0 < den) (hden' : 0 < den') (h : num * den' = num' * den) :
    f.round num den = f.round num' den' := by
  rw [← round_mul_right hden' num den, h, Nat.mul_comm den, round_mul_right hden]

/-- The units of a magnitude past the first two powers of two. -/
theorem scaled_of_one_le (he : 1 ≤ m / 2 ^ f.fractionBits) :
    f.scaled m = (2 ^ f.fractionBits + m % 2 ^ f.fractionBits) * 2 ^ (m / 2 ^ f.fractionBits - 1) := by
  simp only [scaled, Nat.pow_eq]
  exact if_neg (Nat.ne_of_gt he)

/-- In the two lowest ranges a unit is one magnitude. -/
theorem scaled_of_lt (h : m < 2 ^ (f.fractionBits + 1)) : f.scaled m = m := by
  have hdiv := Nat.div_add_mod m (2 ^ f.fractionBits)
  have hlow : m / 2 ^ f.fractionBits < 2 := by
    rw [Nat.div_lt_iff_lt_mul (Nat.two_pow_pos _), Nat.mul_comm, ← Nat.pow_succ]
    exact h
  by_cases hone : 1 ≤ m / 2 ^ f.fractionBits
  · have heq : m / 2 ^ f.fractionBits = 1 := by omega
    rw [scaled_of_one_le hone, heq, Nat.sub_self, Nat.pow_zero, Nat.mul_one]
    rw [heq, Nat.mul_one] at hdiv
    exact hdiv
  · have hzero : m / 2 ^ f.fractionBits = 0 := Nat.lt_one_iff.mp (Nat.lt_of_not_le hone)
    simp only [scaled, Nat.pow_eq, hzero, if_true]
    rw [hzero, Nat.mul_zero, Nat.zero_add] at hdiv
    exact hdiv

theorem le_scaled (he : 1 ≤ m / 2 ^ f.fractionBits) :
    2 ^ (f.fractionBits + (m / 2 ^ f.fractionBits - 1)) ≤ f.scaled m := by
  rw [scaled_of_one_le he, Nat.pow_add]
  exact Nat.mul_le_mul_right _ (Nat.le_add_right _ _)

theorem scaled_lt (he : 1 ≤ m / 2 ^ f.fractionBits) :
    f.scaled m < 2 ^ (f.fractionBits + m / 2 ^ f.fractionBits) := by
  have hmod : m % 2 ^ f.fractionBits < 2 ^ f.fractionBits := Nat.mod_lt _ (Nat.two_pow_pos _)
  obtain ⟨e, he'⟩ := Nat.exists_eq_add_of_le' he
  rw [scaled_of_one_le he, he', Nat.add_sub_cancel, ← Nat.add_assoc, Nat.add_right_comm, Nat.pow_add,
    Nat.pow_succ]
  exact (Nat.mul_lt_mul_right (Nat.two_pow_pos _)).mpr (by omega)

theorem le_scaled_of_le {e : Nat} (h : (e + 1) * 2 ^ f.fractionBits ≤ m) :
    2 ^ (f.fractionBits + e) ≤ f.scaled m := by
  have hexponent : e + 1 ≤ m / 2 ^ f.fractionBits :=
    (Nat.le_div_iff_mul_le (Nat.two_pow_pos _)).mpr h
  refine Nat.le_trans (Nat.pow_le_pow_right (by decide) ?_) (le_scaled (by omega))
  omega

theorem scaled_le_of_le {e : Nat} (h : m ≤ (e + 1) * 2 ^ f.fractionBits) :
    f.scaled m ≤ 2 ^ (f.fractionBits + e) := by
  have hpos := Nat.two_pow_pos f.fractionBits
  rcases Nat.lt_or_eq_of_le h with hlt | rfl
  · have hexponent : m / 2 ^ f.fractionBits < e + 1 := (Nat.div_lt_iff_lt_mul hpos).mpr hlt
    by_cases hone : 1 ≤ m / 2 ^ f.fractionBits
    · exact Nat.le_of_lt (Nat.lt_of_lt_of_le (scaled_lt hone)
        (Nat.pow_le_pow_right (by decide) (by omega)))
    · have hlow : m < 2 ^ f.fractionBits :=
        (Nat.div_eq_zero_iff_lt hpos).mp (Nat.lt_one_iff.mp (Nat.lt_of_not_le hone))
      have hsmall : m < 2 ^ (f.fractionBits + 1) :=
        Nat.lt_of_lt_of_le hlow (Nat.pow_le_pow_right (by decide) (Nat.le_succ _))
      rw [scaled_of_lt hsmall]
      exact Nat.le_of_lt (Nat.lt_of_lt_of_le hlow
        (Nat.pow_le_pow_right (by decide) (Nat.le_add_right _ _)))
  · have hexponent : (e + 1) * 2 ^ f.fractionBits / 2 ^ f.fractionBits = e + 1 :=
      Nat.mul_div_cancel _ hpos
    rw [scaled_of_one_le (by omega), hexponent, Nat.mul_mod_left, Nat.add_zero, Nat.add_sub_cancel,
      ← Nat.pow_add]

/-- A fraction that stands for the units of a magnitude is rounded to this magnitude. -/
theorem round_eq_of_units (hfinite : m < f.infinity) (hden : 0 < den)
    (h : num * 2 ^ f.unitExponent = f.scaled m * den) : f.round num den = m := by
  have hdiv := Nat.div_add_mod m (2 ^ f.fractionBits)
  have hvalue : f.shift (f.scaled m) * 2 ^ f.fractionBits
      + roundHalfEven (f.scaled m * den) (den * 2 ^ f.shift (f.scaled m)) = m := by
    by_cases hlow : m < 2 ^ (f.fractionBits + 1)
    · have hunits := scaled_of_lt hlow
      have hshift : f.shift m = 0 := by
        rw [shift, Nat.pow_eq, if_pos hlow]
      rw [hunits, hshift, Nat.zero_mul, Nat.zero_add, Nat.pow_zero, Nat.mul_one,
        roundHalfEven_mul_self m hden]
    · have htwo : 2 ≤ m / 2 ^ f.fractionBits := by
        rw [Nat.le_div_iff_mul_le (Nat.two_pow_pos _), Nat.mul_comm, ← Nat.pow_succ]
        exact Nat.le_of_not_lt hlow
      obtain ⟨e, he⟩ := Nat.exists_eq_add_of_le' htwo
      have hone : 1 ≤ m / 2 ^ f.fractionBits := Nat.le_of_succ_le htwo
      have hunits := scaled_of_one_le hone
      have hlower := le_scaled hone
      have hupper := scaled_lt hone
      rw [he] at hunits hlower hupper hdiv
      rw [Nat.add_sub_cancel_right (n := e + 1) (m := 1)] at hunits hlower
      have hlog : Nat.log2 (f.scaled m) = f.fractionBits + (e + 1) := by
        refine (Nat.log2_eq_iff ?_).mpr ⟨hlower, hupper⟩
        exact Nat.ne_of_gt (Nat.lt_of_lt_of_le (Nat.two_pow_pos _) hlower)
      have hshift : f.shift (f.scaled m) = e + 1 := by
        rw [shift, Nat.pow_eq, if_neg, hlog, Nat.add_sub_cancel_left]
        exact Nat.not_lt.mpr (Nat.le_trans (Nat.pow_le_pow_right (by decide) (by omega)) hlower)
      rw [hshift, hunits, Nat.mul_assoc, Nat.mul_comm _ den,
        roundHalfEven_mul_self _ (Nat.mul_pos hden (Nat.two_pow_pos _))]
      calc (e + 1) * 2 ^ f.fractionBits + (2 ^ f.fractionBits + m % 2 ^ f.fractionBits)
          = 2 ^ f.fractionBits * (e + 2) + m % 2 ^ f.fractionBits := by ring
        _ = m := hdiv
  simp only [round, Nat.pow_eq, h, Nat.mul_div_cancel _ hden, hvalue]
  exact Nat.min_eq_right (Nat.le_of_lt hfinite)

/-- Past the first two powers of two a fraction is rounded to a magnitude with the exponent of its
units, or to the first one with the next exponent. -/
theorem round_mem_of_units (hunits : 2 ^ (f.fractionBits + 1) ≤ num * 2 ^ f.unitExponent / den)
    {k : Nat} (hk : Nat.log2 (num * 2 ^ f.unitExponent / den) = f.fractionBits + k) :
    min f.infinity ((k + 1) * 2 ^ f.fractionBits) ≤ f.round num den
      ∧ f.round num den ≤ (k + 2) * 2 ^ f.fractionBits := by
  obtain ⟨u, hu⟩ : ∃ u, num * 2 ^ f.unitExponent / den = u := ⟨_, rfl⟩
  rw [hu] at hunits hk
  have hne : u ≠ 0 := Nat.ne_of_gt (Nat.lt_of_lt_of_le (Nat.two_pow_pos _) hunits)
  have hshift : f.shift u = k := by
    rw [shift, Nat.pow_eq, if_neg (Nat.not_lt.mpr hunits), hk, Nat.add_sub_cancel_left]
  obtain ⟨hlow, hhigh⟩ := (Nat.log2_eq_iff hne).mp hk
  have hquotient : num * 2 ^ f.unitExponent / (den * 2 ^ k) = u / 2 ^ k := by
    rw [← Nat.div_div_eq_div_mul, hu]
  have hlower : 2 ^ f.fractionBits ≤ u / 2 ^ k := by
    rwa [Nat.le_div_iff_mul_le (Nat.two_pow_pos _), ← Nat.pow_add]
  have hupper : u / 2 ^ k < 2 * 2 ^ f.fractionBits := by
    rw [Nat.div_lt_iff_lt_mul (Nat.two_pow_pos _), ← Nat.pow_succ', ← Nat.pow_add]
    exact Nat.lt_of_lt_of_eq hhigh (congrArg _ (Nat.add_right_comm _ _ _))
  have hle := le_roundHalfEven (num * 2 ^ f.unitExponent) (den * 2 ^ k)
  have hge := roundHalfEven_le (num * 2 ^ f.unitExponent) (den * 2 ^ k)
  rw [hquotient] at hle hge
  have hround : f.round num den = min f.infinity (k * 2 ^ f.fractionBits
      + roundHalfEven (num * 2 ^ f.unitExponent) (den * 2 ^ k)) := by
    simp only [round, Nat.pow_eq, hu, hshift]
  rw [hround, Nat.add_mul, Nat.add_mul, Nat.one_mul]
  omega

/-- Whole multiples of a unit with few significant bits are magnitudes. -/
theorem exists_scaled_eq {n j : Nat} (hn : n ≠ 0) (hbits : n < 2 ^ (f.fractionBits + 1))
    (hj : f.fractionBits ≤ j) : ∃ m < (j + 2) * 2 ^ f.fractionBits, f.scaled m = n * 2 ^ j := by
  obtain ⟨hlow, hhigh⟩ := (Nat.log2_eq_iff hn).mp rfl
  have hlog : n.log2 ≤ f.fractionBits := Nat.le_of_lt_succ ((Nat.log2_lt hn).mpr hbits)
  obtain ⟨d, hd⟩ := Nat.exists_eq_add_of_le hlog
  obtain ⟨i, hi⟩ := Nat.exists_eq_add_of_le (Nat.le_trans (by omega : d ≤ f.fractionBits) hj)
  -- with the leading bit moved up to its place, the rest is the fraction
  obtain ⟨r, hr⟩ : ∃ r, n * 2 ^ d = 2 ^ f.fractionBits + r := by
    refine Nat.exists_eq_add_of_le ?_
    rw [hd, Nat.pow_add]
    exact Nat.mul_le_mul_right _ hlow
  have hsmall : r < 2 ^ f.fractionBits := by
    have hlt : n * 2 ^ d < 2 ^ (f.fractionBits + 1) := by
      rw [hd, Nat.add_right_comm, Nat.pow_add]
      exact (Nat.mul_lt_mul_right (Nat.two_pow_pos _)).mpr hhigh
    rw [Nat.pow_succ] at hlt
    omega
  have hdiv : (2 ^ f.fractionBits * (i + 1) + r) / 2 ^ f.fractionBits = i + 1 := by
    rw [Nat.mul_add_div (Nat.two_pow_pos _), Nat.div_eq_of_lt hsmall, Nat.add_zero]
  have hmod : (2 ^ f.fractionBits * (i + 1) + r) % 2 ^ f.fractionBits = r := by
    rw [Nat.mul_add_mod, Nat.mod_eq_of_lt hsmall]
  refine ⟨2 ^ f.fractionBits * (i + 1) + r, ?_, ?_⟩
  · calc 2 ^ f.fractionBits * (i + 1) + r < 2 ^ f.fractionBits * (i + 1) + 2 ^ f.fractionBits := by
          omega
      _ = (i + 2) * 2 ^ f.fractionBits := by ring
      _ ≤ (j + 2) * 2 ^ f.fractionBits := Nat.mul_le_mul_right _ (by omega)
  · rw [scaled_of_one_le (by omega), hdiv, hmod, ← hr, Nat.add_sub_cancel, Nat.mul_assoc,
      ← Nat.pow_add, hi]

/-! ## Rounding whole numbers -/

section Whole

variable {n k : Nat} (hbits : f.fractionBits ≤ f.unitExponent)
  (hfinite : (f.unitExponent + 2) * 2 ^ f.fractionBits ≤ f.infinity)

include hbits hfinite

/-- A whole number with few bits is a magnitude itself. -/
theorem scaled_round_whole (hn : n ≠ 0) (h : n < 2 ^ (f.fractionBits + 1)) :
    f.scaled (f.round n 1) = n * 2 ^ f.unitExponent := by
  obtain ⟨m, hm, hunits⟩ := exists_scaled_eq hn h hbits
  have hround : f.round n 1 = m :=
    round_eq_of_units (Nat.lt_of_lt_of_le hm hfinite) Nat.one_pos (by rw [hunits, Nat.mul_one])
  rw [hround, hunits]

omit hbits hfinite in
theorem round_whole_mem (hn : 2 ^ (f.fractionBits + 1) ≤ n) (hk : n.log2 = f.fractionBits + k) :
    min f.infinity ((k + f.unitExponent + 1) * 2 ^ f.fractionBits) ≤ f.round n 1
      ∧ f.round n 1 ≤ (k + f.unitExponent + 2) * 2 ^ f.fractionBits := by
  have hne : n ≠ 0 := Nat.ne_of_gt (Nat.lt_of_lt_of_le (Nat.two_pow_pos _) hn)
  have hpos := Nat.two_pow_pos f.unitExponent
  obtain ⟨hlow, hhigh⟩ := (Nat.log2_eq_iff hne).mp rfl
  refine round_mem_of_units ?_ ?_
  · rw [Nat.div_one]
    exact Nat.le_trans hn (Nat.le_mul_of_pos_right n hpos)
  · rw [Nat.div_one, Nat.log2_eq_iff (Nat.mul_ne_zero hne (Nat.ne_of_gt hpos)), ← Nat.add_assoc, ← hk,
      Nat.pow_add, Nat.add_right_comm, Nat.pow_add]
    exact ⟨Nat.mul_le_mul_right _ hlow, (Nat.mul_lt_mul_right hpos).mpr hhigh⟩

omit hbits hfinite in
/-- One with more bits is rounded to a magnitude with more bits. -/
theorem le_scaled_round_whole (hfinite : (f.unitExponent + k + 2) * 2 ^ f.fractionBits ≤ f.infinity)
    (hn : 2 ^ (f.fractionBits + k + 1) ≤ n) :
    2 ^ (f.fractionBits + k + 1) * 2 ^ f.unitExponent ≤ f.scaled (f.round n 1) := by
  have hne : n ≠ 0 := Nat.ne_of_gt (Nat.lt_of_lt_of_le (Nat.two_pow_pos _) hn)
  have hlog : f.fractionBits + k + 1 ≤ n.log2 := (Nat.le_log2 hne).mpr hn
  obtain ⟨l, hl⟩ := Nat.exists_eq_add_of_le hlog
  have hmany : 2 ^ (f.fractionBits + 1) ≤ n :=
    Nat.le_trans (Nat.pow_le_pow_right (by decide) (by omega)) hn
  have hmem := (round_whole_mem hmany (k := k + 1 + l) (by rw [hl]; omega)).1
  rw [← Nat.pow_add, Nat.add_assoc, Nat.add_assoc]
  refine le_scaled_of_le (Nat.le_trans (Nat.le_min.mpr ⟨?_, ?_⟩) hmem)
  · exact Nat.le_trans (Nat.mul_le_mul_right _ (by omega)) hfinite
  · exact Nat.mul_le_mul_right _ (by omega)

omit hbits hfinite in
theorem le_scaled_infinity
    (hfinite : (f.unitExponent + k + 2) * 2 ^ f.fractionBits ≤ f.infinity) :
    2 ^ (f.fractionBits + k + 1) * 2 ^ f.unitExponent ≤ f.scaled f.infinity := by
  rw [← Nat.pow_add, Nat.add_assoc, Nat.add_assoc]
  refine le_scaled_of_le (Nat.le_trans (Nat.mul_le_mul_right _ ?_) hfinite)
  omega

theorem scaled_round_whole_le (hn : n ≠ 0) (h : n < 2 ^ (f.fractionBits + k + 1)) :
    f.scaled (f.round n 1) ≤ 2 ^ (f.fractionBits + k + 1) * 2 ^ f.unitExponent := by
  by_cases hfew : n < 2 ^ (f.fractionBits + 1)
  · rw [scaled_round_whole hbits hfinite hn hfew]
    exact Nat.mul_le_mul_right _ (Nat.le_of_lt h)
  · have hmany := Nat.le_of_not_lt hfew
    have hlog : f.fractionBits + 1 ≤ n.log2 := (Nat.le_log2 hn).mpr hmany
    have hlog' : n.log2 < f.fractionBits + k + 1 := (Nat.log2_lt hn).mpr h
    obtain ⟨l, hl⟩ := Nat.exists_eq_add_of_le hlog
    rw [← Nat.pow_add, Nat.add_assoc, Nat.add_assoc]
    refine scaled_le_of_le (Nat.le_trans (round_whole_mem hmany (k := l + 1) (by rw [hl]; omega)).2 ?_)
    exact Nat.mul_le_mul_right _ (by omega)

end Whole

end BinaryFormat

/-! ## Decimals -/

namespace Numeral

/-- Zeros behind a number multiply it by powers of ten. -/
theorem value_append_zeros (ds : List Char) (k : Nat) :
    value (ds ++ List.replicate k '0') = value ds * Nat.pow 10 k := by
  rw [value, Nat.ofDigitChars_append, Nat.ofDigitChars_replicate_zero, Nat.mul_comm]
  rfl

theorem value_zeros_append (k : Nat) (ds : List Char) :
    value (List.replicate k '0' ++ ds) = value ds := by
  rw [value, Nat.ofDigitChars_append, Nat.ofDigitChars_replicate_zero, Nat.mul_zero]
  rfl

theorem ofNat_mul_pow {n : Nat} (hn : n ≠ 0) (k : Nat) :
    ofNat (n * Nat.pow 10 k) = ofNat n ++ List.replicate k '0' := by
  induction k with
  | zero => rw [Nat.pow_eq, Nat.pow_zero, Nat.mul_one, List.replicate_zero, List.append_nil]
  | succ k ih =>
      have hpos : 0 < n * Nat.pow 10 k :=
        Nat.mul_pos (Nat.pos_of_ne_zero hn) (Nat.pow_pos (by decide))
      have hnext : n * Nat.pow 10 (k + 1) = 10 * (n * Nat.pow 10 k) + 0 := by
        simp only [Nat.pow_eq]
        ring
      rw [hnext, ofNat, ← Nat.toDigits_append_toDigits (by decide) hpos (by decide), ← ofNat, ih,
        List.append_assoc, List.replicate_succ']
      rfl

end Numeral

namespace Decimal

variable {d : Decimal} {c n m k : Nat} {e : Int}

theorem magnitude_of_size (hne : d.coefficient ≠ 0) (hlow : -400 ≤ d.size) (hhigh : d.size ≤ 400) :
    d.magnitude = BinaryFormat.double.round d.fraction.1 d.fraction.2 := by
  rw [magnitude, if_neg (by omega), if_neg (by omega)]

/-- Zeros at the end of the coefficient can be traded for the exponent. -/
theorem magnitude_mul_pow (c k : Nat) (e : Int) :
    (⟨c * Nat.pow 10 k, e⟩ : Decimal).magnitude = (⟨c, e + k⟩ : Decimal).magnitude := by
  have hpos : ∀ n, 0 < Nat.pow 10 n := fun _ => Nat.pow_pos (by decide)
  by_cases hc : c = 0
  · rw [hc, Nat.zero_mul, magnitude, magnitude, if_pos (.inl rfl), if_pos (.inl rfl)]
  · have hsize : (⟨c * Nat.pow 10 k, e⟩ : Decimal).size = (⟨c, e + k⟩ : Decimal).size := by
      simp only [size, Numeral.ofNat_mul_pow hc, List.length_append, List.length_replicate]
      omega
    have hround : BinaryFormat.double.round (fraction ⟨c * Nat.pow 10 k, e⟩).1
          (fraction ⟨c * Nat.pow 10 k, e⟩).2
        = BinaryFormat.double.round (fraction ⟨c, e + k⟩).1 (fraction ⟨c, e + k⟩).2 := by
      refine BinaryFormat.round_congr (hpos _) (hpos _) ?_
      have hpow : k + e.toNat + (-(e + k)).toNat = (e + k).toNat + (-e).toNat := by omega
      simp only [fraction, Nat.pow_eq]
      rw [Nat.mul_assoc, Nat.mul_assoc, Nat.mul_assoc, ← Nat.pow_add, ← Nat.pow_add, ← Nat.pow_add,
        ← hpow, Nat.add_assoc]
    have hzero : c * Nat.pow 10 k = 0 ↔ c = 0 := by
      rw [Nat.mul_eq_zero, or_iff_left (Nat.ne_of_gt (hpos k))]
    simp only [magnitude, hsize, hround, hzero]

/-- The units of a finite magnitude, in terms of the number of units in one. -/
theorem scaled_lt_of_finite (hfinite : m < BinaryFormat.double.infinity) :
    BinaryFormat.double.scaled m
      < 2 ^ BinaryFormat.double.unitExponent * 2 ^ BinaryFormat.double.unitExponent := by
  rw [← Nat.pow_add]
  by_cases hone : 1 ≤ m / 2 ^ 52
  · have hexponent : m / 2 ^ 52 < 2047 := by
      rw [Nat.div_lt_iff_lt_mul (by decide)]
      exact hfinite
    have hsum : 52 + m / 2 ^ 52 ≤ 1074 + 1074 := by omega
    exact Nat.lt_of_lt_of_le (BinaryFormat.scaled_lt (f := .double) hone)
      (Nat.pow_le_pow_right (by decide) hsum)
  · have hlow : m < 2 ^ 53 := by omega
    have hsum : 53 ≤ BinaryFormat.double.unitExponent + BinaryFormat.double.unitExponent := by decide
    rw [BinaryFormat.scaled_of_lt (f := .double) hlow]
    exact Nat.lt_of_lt_of_le hlow (Nat.pow_le_pow_right (by decide) hsum)

theorem exists_units_in_one_lt :
    ∃ k, 0 < k ∧ k ≤ 400 ∧ 2 ^ BinaryFormat.double.unitExponent < 10 ^ k :=
  ⟨400, by decide, by decide, by decide +kernel⟩

theorem size_exact {units : Nat} (hne : units ≠ 0)
    (hlarge : units < 2 ^ BinaryFormat.double.unitExponent * 2 ^ BinaryFormat.double.unitExponent) :
    -400 ≤ (exact units).size ∧ (exact units).size ≤ 400 := by
  obtain ⟨k, hzero, hk, hone⟩ := exists_units_in_one_lt
  rw [exact]
  obtain ⟨t, ht⟩ : ∃ t, BinaryFormat.double.unitExponent = t := ⟨_, rfl⟩
  rw [ht] at hlarge hone
  rw [ht, Nat.pow_eq]
  have hpos : 0 < 5 ^ t := Nat.pow_pos (by decide)
  have hpow : 10 ^ t = 2 ^ t * 5 ^ t := Nat.mul_pow 2 5 t
  obtain ⟨l, hl⟩ : ∃ l, (Numeral.ofNat (units * 5 ^ t)).length = l := ⟨_, rfl⟩
  have hlow : t < k + l := by
    refine (Nat.pow_lt_pow_iff_right (by decide : 1 < 10)).mp ?_
    have hdigits : units * 5 ^ t < 10 ^ l :=
      (Nat.length_toDigits_le_iff (by decide) (hl ▸ Nat.length_toDigits_pos)).mp (Nat.le_of_eq hl)
    calc 10 ^ t = 2 ^ t * 5 ^ t := hpow
      _ < 10 ^ k * 5 ^ t := (Nat.mul_lt_mul_right hpos).mpr hone
      _ ≤ 10 ^ k * (units * 5 ^ t) :=
          Nat.mul_le_mul_left _ (Nat.le_mul_of_pos_left _ (Nat.pos_of_ne_zero hne))
      _ ≤ 10 ^ k * 10 ^ l := Nat.mul_le_mul_left _ (Nat.le_of_lt hdigits)
      _ = 10 ^ (k + l) := (Nat.pow_add 10 k l).symm
  have hhigh : l ≤ k + t := by
    rw [← hl, Numeral.ofNat, Nat.length_toDigits_le_iff (by decide) (by omega)]
    calc units * 5 ^ t < 2 ^ t * 2 ^ t * 5 ^ t := (Nat.mul_lt_mul_right hpos).mpr hlarge
      _ = 2 ^ t * 10 ^ t := by rw [hpow, Nat.mul_assoc]
      _ ≤ 10 ^ k * 10 ^ t := Nat.mul_le_mul_right _ (Nat.le_of_lt hone)
      _ = 10 ^ (k + t) := (Nat.pow_add 10 k t).symm
  rw [size, hl]
  show -400 ≤ (l : Int) + -(t : Int) ∧ (l : Int) + -(t : Int) ≤ 400
  omega

/-- The exact form of a magnitude rounds to it. -/
theorem magnitude_exact (hm : m ≠ 0) (hfinite : m < BinaryFormat.double.infinity) :
    (exact (BinaryFormat.double.scaled m)).magnitude = m := by
  have hne := BinaryFormat.scaled_ne_zero (f := .double) hm
  obtain ⟨hlow, hhigh⟩ := size_exact hne (scaled_lt_of_finite hfinite)
  have hcoefficient : (exact (BinaryFormat.double.scaled m)).coefficient ≠ 0 := by
    have hpos : ∀ n, 0 < Nat.pow 5 n := fun _ => Nat.pow_pos (by decide)
    rw [exact]
    exact Nat.mul_ne_zero hne (Nat.ne_of_gt (hpos _))
  rw [magnitude_of_size hcoefficient hlow hhigh]
  refine BinaryFormat.round_eq_of_units hfinite (Nat.pow_pos (by decide)) ?_
  simp only [fraction, exact, Int.neg_neg, Int.toNat_natCast, Int.toNat_neg_natCast, Nat.pow_eq,
    Nat.pow_zero, Nat.mul_one]
  rw [Nat.mul_assoc, ← Nat.mul_pow]

/-- **The shortest form rounds to the magnitude.** -/
theorem magnitude_shortest (hm : m ≠ 0) (hfinite : m < BinaryFormat.double.infinity) :
    (shortest m).magnitude = m := by
  rw [shortest]
  cases hfound : (List.range 17).findSome? fun k => neighbour? m (k + 1) with
  | some d =>
      obtain ⟨k, -, hk⟩ := List.exists_of_findSome?_eq_some hfound
      exact magnitude_of_neighbour? hk
  | none => exact magnitude_exact hm hfinite

/-! ## Digits -/

theorem dropTrailingZeros_append (ds : List Char) :
    dropTrailingZeros ds ++ List.replicate (ds.length - (dropTrailingZeros ds).length) '0' = ds := by
  obtain ⟨back, hback⟩ : ∃ back, ds.reverse = back := ⟨_, rfl⟩
  obtain rfl : ds = back.reverse := by rw [← hback, List.reverse_reverse]
  have hzeros : back.takeWhile (· = '0')
      = List.replicate (back.takeWhile (· = '0')).length '0' :=
    List.eq_replicate_of_mem fun c hc => by simpa using List.mem_takeWhile_imp hc
  have hlength : (back.reverse.length - (dropTrailingZeros back.reverse).length)
      = (back.takeWhile (· = '0')).length := by
    have happend := congrArg List.length (List.takeWhile_append_dropWhile (p := (· = '0')) (l := back))
    simp only [dropTrailingZeros, List.reverse_reverse, List.length_reverse, List.length_append]
      at happend ⊢
    omega
  rw [hlength, dropTrailingZeros, List.reverse_reverse, ← List.reverse_replicate, ← hzeros,
    ← List.reverse_append, List.takeWhile_append_dropWhile]

/-- Digits, and perhaps a point and further digits, are read as the number that all of them make. -/
theorem read?_whole {whole : List Char} (hne : whole ≠ []) (hwhole : ∀ c ∈ whole, c.isDigit = true) :
    read? whole = some ⟨Numeral.value whole, 0⟩ := by
  have htake : whole.takeWhile Char.isDigit = whole := List.takeWhile_eq_self_iff.mpr hwhole
  have hdrop : whole.dropWhile Char.isDigit = [] := List.dropWhile_eq_nil_iff.mpr hwhole
  simp [read?, htake, hdrop, hne, readExponent?]

/-- A numeral with a point is its digits, and how many of them stand behind the point. -/
theorem read?_places {whole places : List Char} (hne : whole ≠ [])
    (hwhole : ∀ c ∈ whole, c.isDigit = true) (hplaces : ∀ c ∈ places, c.isDigit = true) :
    read? (whole ++ '.' :: places) = some ⟨Numeral.value (whole ++ places), -places.length⟩ := by
  have htake : (whole ++ '.' :: places).takeWhile Char.isDigit = whole :=
    Token.takeWhile_append_of_head hwhole (by simp)
  have hdrop : (whole ++ '.' :: places).dropWhile Char.isDigit = '.' :: places :=
    Token.dropWhile_append_of_head hwhole (by simp)
  have htake' : places.takeWhile Char.isDigit = places := List.takeWhile_eq_self_iff.mpr hplaces
  have hdrop' : places.dropWhile Char.isDigit = [] := List.dropWhile_eq_nil_iff.mpr hplaces
  simp [read?, htake, hdrop, htake', hdrop', hne, readExponent?]

/-- **The digits of a decimal read back** as a decimal of the same magnitude.  Without a point, it
is the number of the digits. -/
theorem exists_read?_positional (hne : d.coefficient ≠ 0) :
    ∃ d', read? d.positional = some d' ∧ d'.magnitude = d.magnitude
      ∧ (d.positional.all Char.isDigit = true → d' = ⟨Numeral.value d.positional, 0⟩) := by
  obtain ⟨digits, hdigits⟩ :
      ∃ digits, dropTrailingZeros (Numeral.ofNat d.coefficient) = digits := ⟨_, rfl⟩
  obtain ⟨z, hz⟩ : ∃ z, (Numeral.ofNat d.coefficient).length - digits.length = z := ⟨_, rfl⟩
  have hnil : digits ≠ [] := hdigits ▸ dropTrailingZeros_ne_nil (exists_mem_ofNat_ne_zero hne)
  have hall : ∀ c ∈ digits, c.isDigit = true := fun c hc =>
    Numeral.isDigit_of_mem_ofNat (mem_of_mem_dropTrailingZeros (hdigits ▸ hc))
  have hzeros : ∀ n, ∀ c ∈ List.replicate n '0', c.isDigit = true := fun n c hc => by
    rw [List.eq_of_mem_replicate hc]
    rfl
  have hvalue : d.coefficient = Numeral.value digits * Nat.pow 10 z := by
    have happend := dropTrailingZeros_append (Numeral.ofNat d.coefficient)
    rw [hdigits, hz] at happend
    rw [← Numeral.value_append_zeros, happend, Numeral.value_ofNat]
  have hmagnitude : (⟨Numeral.value digits, d.exponent + z⟩ : Decimal).magnitude = d.magnitude := by
    rw [← magnitude_mul_pow, ← hvalue]
  obtain ⟨e, he⟩ : ∃ e, d.exponent + (z : Int) = e := ⟨_, rfl⟩
  have hpoint : ∀ whole places : List Char, (whole ++ '.' :: places).all Char.isDigit ≠ true := by
    intro whole places
    simp
  rw [he] at hmagnitude
  rw [positional]
  simp only [hdigits, hz, he]
  split
  · -- a whole number
    rename_i hwhole
    have hrow : ∀ c ∈ digits ++ List.replicate e.toNat '0', c.isDigit = true :=
      List.forall_mem_append.mpr ⟨hall, hzeros _⟩
    refine ⟨_, read?_whole (by simp [hnil]) hrow, ?_, fun _ => rfl⟩
    rw [Numeral.value_append_zeros, magnitude_mul_pow, Int.zero_add, Int.toNat_of_nonneg hwhole,
      hmagnitude]
  · rename_i hfraction
    have hplaces : e = -((-e).toNat : Int) := by omega
    split
    · -- the point stands among the digits
      rename_i hfew
      refine ⟨_, read?_places ?_ (fun c hc => hall c (List.mem_of_mem_take hc))
        (fun c hc => hall c (List.mem_of_mem_drop hc)), ?_, fun h => absurd h (hpoint _ _)⟩
      · rw [ne_eq, List.take_eq_nil_iff, not_or]
        exact ⟨by omega, hnil⟩
      · have hlength : (digits.drop (digits.length - (-e).toNat)).length = (-e).toNat := by
          rw [List.length_drop]
          omega
        rw [List.take_append_drop, hlength, ← hplaces, hmagnitude]
    · -- the point stands in front of the digits
      rename_i hmany
      have hrow : ∀ c ∈ List.replicate ((-e).toNat - digits.length) '0' ++ digits, c.isDigit = true :=
        List.forall_mem_append.mpr ⟨hzeros _, hall⟩
      have hread := read?_places (List.cons_ne_nil '0' []) (by simp) hrow
      have hlength : (List.replicate ((-e).toNat - digits.length) '0' ++ digits).length
          = (-e).toNat := by
        rw [List.length_append, List.length_replicate]
        omega
      have hnumber : Numeral.value (['0']
          ++ (List.replicate ((-e).toNat - digits.length) '0' ++ digits)) = Numeral.value digits := by
        rw [← List.append_assoc]
        exact Numeral.value_zeros_append ((-e).toNat - digits.length + 1) digits
      rw [hlength, hnumber, ← hplaces] at hread
      exact ⟨_, hread, hmagnitude, fun h => absurd h (hpoint ['0'] _)⟩

/-! ## Whole numbers -/

theorem magnitude_whole (hn : n ≠ 0) :
    (⟨n, 0⟩ : Decimal).magnitude = if 400 < (Numeral.ofNat n).length
      then BinaryFormat.double.infinity else BinaryFormat.double.round n 1 := by
  have hsize : (⟨n, 0⟩ : Decimal).size = (Numeral.ofNat n).length := Int.add_zero _
  split
  · have hlow : ¬ ((⟨n, 0⟩ : Decimal).coefficient = 0 ∨ (⟨n, 0⟩ : Decimal).size < -400) := by
      rintro (hzero | hsmall)
      · exact hn hzero
      · omega
    rw [magnitude, if_neg hlow, if_pos (by omega)]
  · rw [magnitude_of_size hn (by omega) (by omega)]
    simp only [fraction, Int.toNat_zero, Int.neg_zero, Nat.pow_eq, Nat.pow_zero, Nat.mul_one]

theorem magnitude_whole_of_lt (hn : n ≠ 0) (hlt : n < 2 ^ 65) :
    (⟨n, 0⟩ : Decimal).magnitude = BinaryFormat.double.round n 1 := by
  have hlength : (Numeral.ofNat n).length ≤ 20 := by
    rw [Numeral.ofNat, Nat.length_toDigits_le_iff (by decide) (by decide)]
    exact Nat.lt_trans hlt (by decide)
  rw [magnitude_whole hn, if_neg (by omega)]

theorem whole_finite_of_le (hk : k ≤ 11) :
    (BinaryFormat.double.unitExponent + k + 2) * 2 ^ BinaryFormat.double.fractionBits
      ≤ BinaryFormat.double.infinity := by
  have hinfinity : BinaryFormat.double.infinity = 2047 * 2 ^ BinaryFormat.double.fractionBits := by
    decide
  have hunit : BinaryFormat.double.unitExponent = 1074 := rfl
  rw [hinfinity, hunit]
  exact Nat.mul_le_mul_right _ (by omega)

theorem whole_finite : (BinaryFormat.double.unitExponent + 2) * 2 ^ BinaryFormat.double.fractionBits
    ≤ BinaryFormat.double.infinity := whole_finite_of_le (k := 0) (Nat.zero_le 11)

theorem whole_bits : BinaryFormat.double.fractionBits ≤ BinaryFormat.double.unitExponent := by decide

theorem fractionBits_double : BinaryFormat.double.fractionBits = 52 := rfl

theorem two_pow_unitExponent : 2 ^ BinaryFormat.double.unitExponent = Binary64.one := by
  decide +kernel

theorem scaled_magnitude_zero : BinaryFormat.double.scaled (⟨0, 0⟩ : Decimal).magnitude = 0 := by
  rw [magnitude, if_pos (.inl rfl), BinaryFormat.scaled_of_lt (Nat.two_pow_pos _)]

theorem scaled_magnitude_of_lt (hlt : n < 2 ^ 53) :
    BinaryFormat.double.scaled (⟨n, 0⟩ : Decimal).magnitude = n * Binary64.one := by
  by_cases hn : n = 0
  · rw [hn, scaled_magnitude_zero, Nat.zero_mul]
  · have hunits := BinaryFormat.scaled_round_whole whole_bits whole_finite hn hlt
    rwa [← magnitude_whole_of_lt hn (Nat.lt_trans hlt (by decide)), two_pow_unitExponent] at hunits

/-- It is rounded to a magnitude with as many bits at least. -/
theorem le_scaled_magnitude (hk : k ≤ 11) (h : 2 ^ (52 + k + 1) ≤ n) :
    2 ^ (52 + k + 1) * Binary64.one ≤ BinaryFormat.double.scaled (⟨n, 0⟩ : Decimal).magnitude := by
  have hround := BinaryFormat.le_scaled_round_whole (whole_finite_of_le hk) h
  have hlarge := BinaryFormat.le_scaled_infinity (whole_finite_of_le hk)
  simp only [two_pow_unitExponent, fractionBits_double] at hround hlarge
  rw [magnitude_whole (Nat.ne_of_gt (Nat.lt_of_lt_of_le (Nat.two_pow_pos _) h))]
  split
  · exact hlarge
  · exact hround

/-- With at most sixty-four bits, the magnitude has at most one more. -/
theorem scaled_magnitude_le (hk : k ≤ 11) (h : n < 2 ^ (52 + k + 1)) :
    BinaryFormat.double.scaled (⟨n, 0⟩ : Decimal).magnitude ≤ 2 ^ (52 + k + 1) * Binary64.one := by
  by_cases hn : n = 0
  · rw [hn, scaled_magnitude_zero]
    exact Nat.zero_le _
  · have hlt : n < 2 ^ 65 := Nat.lt_of_lt_of_le h (Nat.pow_le_pow_right (by decide) (by omega))
    have hround := BinaryFormat.scaled_round_whole_le (f := .double) whole_bits whole_finite hn h
    rw [← magnitude_whole_of_lt hn hlt] at hround
    simpa only [two_pow_unitExponent, fractionBits_double] using hround

/-- **A real below 2⁵³ that is written without a point is the number that is written.** -/
theorem units_of_lt (h : BinaryFormat.double.scaled (⟨n, 0⟩ : Decimal).magnitude
      < 2 ^ 53 * Binary64.one) :
    BinaryFormat.double.scaled (⟨n, 0⟩ : Decimal).magnitude = n * Binary64.one := by
  refine scaled_magnitude_of_lt ?_
  by_contra hlarge
  have hle := le_scaled_magnitude (Nat.zero_le 11) (Nat.le_of_not_lt hlarge)
  simp only [Nat.reduceAdd] at hle
  exact absurd hle (Nat.not_le.mpr h)

/-- **A real above 2⁶⁴ that is written without a point is written as a number of more bits.** -/
theorem le_of_units (h : 2 ^ 64 * Binary64.one
      < BinaryFormat.double.scaled (⟨n, 0⟩ : Decimal).magnitude) : 2 ^ 64 ≤ n := by
  by_contra hsmall
  have hle := scaled_magnitude_le (Nat.le_refl 11) (Nat.lt_of_not_le hsmall)
  simp only [Nat.reduceAdd] at hle
  exact absurd hle (Nat.not_le.mpr h)

end Decimal

theorem Binary64.one_pos : 0 < one := by
  rw [← Decimal.two_pow_unitExponent]
  exact Nat.two_pow_pos _

end SqlRecords
