import SqlRecords.Proofs.Real.RoundTrip

/-!
# Whole reals are written without a point

The shortest digits of a real are looked for at a growing number of places.  For a whole real the
search stops at a whole decimal: with places behind the point, the lower neighbour is the real itself.
Zeros at the end of a decimal are traded for its exponent before it is written, so a whole decimal has
no point.

* `Decimal.IsWhole` — the decimal is a whole number.
* **`Decimal.positional_isDigit_iff`** — the shortest form of a magnitude has no point exactly if the
  magnitude is whole.
* `Decimal.lt_of_units_lt`, `Decimal.lt_value_positional` — the digits of a whole magnitude are within
  64 bits exactly if the magnitude is.
-/

namespace SqlRecords.Decimal

variable {d : Decimal} {m n : Nat}

/-- The decimal is a whole number: the places behind the point are zeros. -/
def IsWhole (d : Decimal) : Prop :=
  ∃ c j : Nat, d.coefficient = c * 10 ^ j ∧ 0 ≤ d.exponent + j

theorem dropTrailingZeros_append_zeros (ds : List Char) (k : Nat) :
    dropTrailingZeros (ds ++ List.replicate k '0') = dropTrailingZeros ds := by
  rw [dropTrailingZeros, dropTrailingZeros, List.reverse_append, List.reverse_replicate,
    List.dropWhile_append_of_pos]
  intro c hc
  simp [List.eq_of_mem_replicate hc]

theorem length_dropTrailingZeros_le (ds : List Char) :
    (dropTrailingZeros ds).length ≤ ds.length := by
  have happend := congrArg List.length (dropTrailingZeros_append ds)
  rw [List.length_append] at happend
  omega

/-- A whole decimal is written without a point. -/
theorem IsWhole.isDigit_positional (h : d.IsWhole) (hne : d.coefficient ≠ 0) :
    d.positional.all Char.isDigit = true := by
  obtain ⟨c, j, hc, hj⟩ := h
  have hc0 : c ≠ 0 := by
    rintro rfl
    simp [hc] at hne
  have hrow := Numeral.ofNat_mul_pow hc0 j
  rw [Nat.pow_eq, ← hc] at hrow
  have hlength := length_dropTrailingZeros_le (Numeral.ofNat c)
  have hwhole : 0 ≤ d.exponent + (((Numeral.ofNat d.coefficient).length
      - (dropTrailingZeros (Numeral.ofNat d.coefficient)).length : Nat) : Int) := by
    rw [hrow, dropTrailingZeros_append_zeros, List.length_append, List.length_replicate]
    omega
  rw [positional]
  simp only [if_pos hwhole, List.all_append, List.all_replicate, Bool.and_eq_true]
  refine ⟨List.all_eq_true.mpr fun a ha => ?_, by simp⟩
  exact Numeral.isDigit_of_mem_ofNat (mem_of_mem_dropTrailingZeros ha)

/-- A magnitude that is a whole number is the magnitude of this number. -/
theorem magnitude_of_units (hfinite : m < BinaryFormat.double.infinity)
    (hn : n ≠ 0) (hunits : BinaryFormat.double.scaled m = n * Binary64.one) :
    (⟨n, 0⟩ : Decimal).magnitude = m := by
  have hlength : (Numeral.ofNat n).length ≤ 400 := by
    obtain ⟨k, hk, hk400, hone⟩ := exists_units_in_one_lt
    have hpos : 0 < 2 ^ BinaryFormat.double.unitExponent := Nat.two_pow_pos _
    have hlt := scaled_lt_of_finite hfinite
    rw [hunits, ← two_pow_unitExponent, Nat.mul_lt_mul_right hpos] at hlt
    have hdigits : (Numeral.ofNat n).length ≤ k := by
      rw [Numeral.ofNat, Nat.length_toDigits_le_iff (by decide) hk]
      exact Nat.lt_trans hlt hone
    omega
  rw [magnitude_whole hn, if_neg (by omega)]
  refine BinaryFormat.round_eq_of_units hfinite Nat.one_pos ?_
  rw [Nat.mul_one, hunits, two_pow_unitExponent]

/-- With places behind the point, the lower neighbour of a whole magnitude is the magnitude itself. -/
theorem isWhole_of_neighbour? {k : Nat} (hfinite : m < BinaryFormat.double.infinity) (hn : n ≠ 0)
    (hunits : BinaryFormat.double.scaled m = n * Binary64.one) (h : neighbour? m k = some d) :
    d.IsWhole := by
  rw [neighbour?, hunits] at h
  obtain ⟨e, he⟩ : ∃ e, sizeOfUnits (n * Binary64.one) - k = e := ⟨_, rfl⟩
  simp only [he] at h
  have hone : 0 < Binary64.one := by
    rw [← two_pow_unitExponent]
    exact Nat.two_pow_pos _
  by_cases hpoint : 0 ≤ e
  · have hexponent : d.exponent = e := by
      split at h
      · split at h <;> (obtain rfl := Option.some.inj h; rfl)
      · split at h
        · obtain rfl := Option.some.inj h
          rfl
        · cases h
    exact ⟨d.coefficient, 0, by simp, by simpa [hexponent] using hpoint⟩
  · obtain ⟨j, hj⟩ : ∃ j : Nat, e = -j := ⟨e.natAbs, by omega⟩
    have hneg : (-e).toNat = j := by omega
    have hpos : Nat.pow 10 e.toNat = 1 := by
      rw [Int.toNat_of_nonpos (by omega)]
    have hnum : n * Binary64.one * Nat.pow 10 j = n * Nat.pow 10 j * Binary64.one :=
      Nat.mul_right_comm _ _ _
    rw [hneg, hpos, Nat.mul_one, hnum, Nat.mul_mod_left,
      Nat.mul_div_cancel _ hone] at h
    have hlow : (⟨n * Nat.pow 10 j, e⟩ : Decimal).magnitude = m := by
      rw [magnitude_mul_pow, hj, Int.add_left_neg, magnitude_of_units hfinite hn hunits]
    rw [if_pos hlow, if_neg fun hhigh => by omega] at h
    obtain rfl := Option.some.inj h
    refine ⟨n, j, rfl, ?_⟩
    rw [hj, Int.add_left_neg]

theorem isWhole_shortest (hfinite : m < BinaryFormat.double.infinity) (hn : n ≠ 0)
    (hunits : BinaryFormat.double.scaled m = n * Binary64.one) : (shortest m).IsWhole := by
  rw [shortest]
  cases hfound : (List.range 17).findSome? fun k => neighbour? m (k + 1) with
  | some d =>
      obtain ⟨k, -, hk⟩ := List.exists_of_findSome?_eq_some hfound
      exact isWhole_of_neighbour? hfinite hn hunits hk
  | none =>
      refine ⟨n, BinaryFormat.double.unitExponent, ?_, Int.le_of_eq (Int.add_left_neg _).symm⟩
      rw [Option.getD_none, exact, hunits, ← two_pow_unitExponent, Nat.pow_eq, Nat.mul_assoc,
        ← Nat.mul_pow]

/-- Magnitudes of more bits than a fraction has are whole. -/
theorem one_dvd_scaled (h : 2 ^ 53 * Binary64.one ≤ BinaryFormat.double.scaled m) :
    Binary64.one ∣ BinaryFormat.double.scaled m := by
  obtain ⟨t, ht⟩ : ∃ t, BinaryFormat.double.unitExponent = t := ⟨_, rfl⟩
  have hunit : t = 1074 := ht.symm
  rw [← two_pow_unitExponent, ht] at h ⊢
  rw [← Nat.pow_add] at h
  by_cases hone : 1 ≤ m / 2 ^ BinaryFormat.double.fractionBits
  · have hexponent := Nat.lt_of_le_of_lt h (BinaryFormat.scaled_lt hone)
    rw [Nat.pow_lt_pow_iff_right (by decide), fractionBits_double] at hexponent
    rw [BinaryFormat.scaled_of_one_le hone]
    refine Nat.dvd_mul_left_of_dvd (Nat.pow_dvd_pow 2 ?_) _
    rw [fractionBits_double]
    omega
  · have hlow : m < 2 ^ (BinaryFormat.double.fractionBits + 1) := by
      rw [fractionBits_double] at hone ⊢
      omega
    rw [BinaryFormat.scaled_of_lt hlow] at h
    have hexponent := Nat.lt_of_le_of_lt h hlow
    rw [Nat.pow_lt_pow_iff_right (by decide), fractionBits_double] at hexponent
    omega

theorem one_dvd_scaled_magnitude (n : Nat) :
    Binary64.one ∣ BinaryFormat.double.scaled (⟨n, 0⟩ : Decimal).magnitude := by
  by_cases hlow : n < 2 ^ 53
  · rw [scaled_magnitude_of_lt hlow]
    exact Nat.dvd_mul_left _ _
  · have hlarge := le_scaled_magnitude (Nat.zero_le 11) (Nat.le_of_not_lt hlow)
    simp only [Nat.reduceAdd] at hlarge
    exact one_dvd_scaled hlarge

/-- **The shortest form of a magnitude is written without a point exactly if the magnitude is a whole
number.** -/
theorem positional_isDigit_iff (hm : m ≠ 0) (hfinite : m < BinaryFormat.double.infinity) :
    (shortest m).positional.all Char.isDigit = true
      ↔ Binary64.one ∣ BinaryFormat.double.scaled m := by
  have hne := coefficient_shortest_ne_zero hm
  constructor
  · intro hdigits
    obtain ⟨d, -, hd, hwhole⟩ := exists_read?_positional hne
    rw [magnitude_shortest hm hfinite, hwhole hdigits] at hd
    rw [← hd]
    exact one_dvd_scaled_magnitude _
  · rintro ⟨n, hn⟩
    have hn0 : n ≠ 0 := by
      rintro rfl
      exact BinaryFormat.scaled_ne_zero hm (by rw [hn, Nat.mul_zero])
    rw [Nat.mul_comm] at hn
    exact (isWhole_shortest hfinite hn0 hn).isDigit_positional hne

/-! ## Digits of 64 bits -/

theorem magnitude_two_pow : (⟨2 ^ 63, 0⟩ : Decimal).magnitude = 0x43e0000000000000 := by
  decide +kernel

theorem scaled_two_pow :
    BinaryFormat.double.scaled 0x43e0000000000000 = 2 ^ 63 * Binary64.one := by decide +kernel

/-- The first real that is out of reach is written as a larger number. -/
theorem value_positional_two_pow :
    Numeral.value (shortest 0x43e0000000000000).positional = 9223372036854776000 := by decide +kernel

theorem lt_of_units_lt (h : BinaryFormat.double.scaled (⟨n, 0⟩ : Decimal).magnitude
      < 2 ^ 63 * Binary64.one) : n < 2 ^ 63 := by
  by_contra hlarge
  have hle := le_scaled_magnitude (k := 10) (by decide) (Nat.le_of_not_lt hlarge)
  simp only [Nat.reduceAdd] at hle
  exact absurd hle (Nat.not_le.mpr h)

theorem ne_zero_of_le_scaled (h : 2 ^ 63 * Binary64.one ≤ BinaryFormat.double.scaled m) :
    m ≠ 0 := by
  rintro rfl
  rw [BinaryFormat.scaled_of_lt (Nat.two_pow_pos _)] at h
  have hpos := Nat.mul_pos (Nat.two_pow_pos 63) Binary64.one_pos
  omega

/-- A real that is out of reach of 64 bits is not written within them. -/
theorem lt_value_positional (hfinite : m < BinaryFormat.double.infinity)
    (h : 2 ^ 63 * Binary64.one ≤ BinaryFormat.double.scaled m) :
    2 ^ 63 < Numeral.value (shortest m).positional := by
  have hm := ne_zero_of_le_scaled h
  have hmany : 2 ^ 53 * Binary64.one ≤ BinaryFormat.double.scaled m :=
    Nat.le_trans (Nat.mul_le_mul_right _ (by decide)) h
  have hdigits := (positional_isDigit_iff hm hfinite).mpr (one_dvd_scaled hmany)
  obtain ⟨d, -, hd, hwhole⟩ := exists_read?_positional (coefficient_shortest_ne_zero hm)
  rw [magnitude_shortest hm hfinite, hwhole hdigits] at hd
  obtain ⟨k, hk⟩ : ∃ k, Numeral.value (shortest m).positional = k := ⟨_, rfl⟩
  rw [hk] at hd ⊢
  by_contra hsmall
  have hle : BinaryFormat.double.scaled m ≤ 2 ^ 63 * Binary64.one := by
    rw [← hd]
    rcases Nat.lt_or_eq_of_le (Nat.le_of_not_lt hsmall) with hlt | rfl
    · have hround := scaled_magnitude_le (k := 10) (by decide) hlt
      simp only [Nat.reduceAdd] at hround
      exact hround
    · rw [magnitude_two_pow, scaled_two_pow]
  have hfirst := magnitude_of_units hfinite (by decide) (Nat.le_antisymm hle h)
  rw [magnitude_two_pow] at hfirst
  rw [← hfirst, value_positional_two_pow] at hk
  omega

end SqlRecords.Decimal
