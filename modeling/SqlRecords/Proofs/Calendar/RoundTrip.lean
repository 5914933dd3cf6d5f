import SqlRecords.Calendar.Pattern

/-!
# Date-times read back

A date-time is stored as text.  Its year has a sign if it is not of four digits, its fraction has as
many digits as it needs, and a leap second is written with the number after that of the second before
it; the reader is told none of this, it follows one pattern.

So the second 60 can only be a leap second, and the reader finds it.  After any other second of a
minute a leap second has the text of the second that follows, and that is what is read
(`DateTime.shown`).

The digits of a number are read as far as they go, up to the width of its item.  So a number is read
whole if it fills its item, or if no digit follows it; `takeNumber?_padded` covers both.

* `DateTime.shown` — the regular date-time with the same text.
* **`DateTime.readStored?_text`** — it is what the text is read as.
* `DateTime.shown_eq_self_iff` — and it is the date-time as it was, if that is regular.
-/

namespace SqlRecords

namespace Numeral

theorem isDigit_of_mem_padded {width n : Nat} {c : Char} (h : c ∈ padded width n) :
    c.isDigit = true := by
  rcases List.mem_append.mp h with h | h
  · rw [List.eq_of_mem_replicate h]
    rfl
  · exact isDigit_of_mem_ofNat h

@[simp] theorem value_padded (width n : Nat) : value (padded width n) = n := by
  rw [value, padded, Nat.ofDigitChars_append, Nat.ofDigitChars_replicate_zero, Nat.mul_zero]
  exact value_ofNat n

theorem padded_ne_nil (width n : Nat) : padded width n ≠ [] := by
  simp [padded, ofNat_ne_nil]

/-- A number that fits is written with exactly as many digits as asked for. -/
theorem length_padded {width n : Nat} (hwidth : 0 < width) (h : n < Nat.pow 10 width) :
    (padded width n).length = width := by
  have hlength : (ofNat n).length ≤ width := (Nat.length_toDigits_le_iff (by decide) hwidth).mpr h
  rw [padded, List.length_append, List.length_replicate]
  omega

end Numeral

namespace Text

theorem isBlank_of_isDigit {c : Char} (h : c.isDigit = true) : isBlank c = false := by
  have hdigit : 48 ≤ c.toNat ∧ c.toNat ≤ 57 := by
    simpa [Char.isDigit, Char.le_def, UInt32.le_iff_toNat_le] using h
  simp [isBlank, blankRanges]
  omega

/-- There are no blanks in front of a number. -/
theorem trimStart_padded (width n : Nat) (rest : List Char) :
    trimStart (Numeral.padded width n ++ rest) = Numeral.padded width n ++ rest := by
  obtain ⟨c, cs, hcs⟩ := List.exists_cons_of_ne_nil (Numeral.padded_ne_nil width n)
  have hc : c.isDigit = true := Numeral.isDigit_of_mem_padded (hcs ▸ List.mem_cons_self)
  rw [hcs, List.cons_append, trimStart_cons_of_not_isBlank _ (isBlank_of_isDigit hc)]

end Text

namespace Calendar

open Numeral

/-- The text does not start with a digit. -/
def EndsNumber (rest : List Char) : Prop := ∀ c ∈ rest.head?, c.isDigit = false

theorem takeWhile_padded (width n : Nat) {rest : List Char} (h : EndsNumber rest) :
    (padded width n ++ rest).takeWhile Char.isDigit = padded width n := by
  rw [List.takeWhile_append_of_pos fun _ => isDigit_of_mem_padded]
  cases rest with
  | nil => simp
  | cons c rest => simp [h c rfl]

theorem takeNumber?_padded {limit width n : Nat} (rest : List Char)
    (hfits : (padded width n).length ≤ limit)
    (hend : (padded width n).length = limit ∨ EndsNumber rest) :
    takeNumber? limit (padded width n ++ rest) = some (n, rest) := by
  have hdigits : ((padded width n ++ rest).take limit).takeWhile Char.isDigit = padded width n := by
    rw [List.take_append, List.take_of_length_le hfits]
    rcases hend with hfull | hend
    · rw [hfull, Nat.sub_self, List.take_zero]
      exact takeWhile_padded width n nofun
    · refine takeWhile_padded width n fun c hc => hend c ?_
      rw [List.head?_take] at hc
      split at hc
      · exact absurd hc nofun
      · exact hc
  rw [takeNumber?, hdigits]
  simp [padded_ne_nil]

/-! ## Items -/

theorem takeYear?_padded {n : Nat} (h : n < 10000) (rest : List Char) :
    takeYear? (padded 4 n ++ rest) = some ((n : Int), rest) := by
  have hlength : (padded 4 n).length = 4 := length_padded (by decide) h
  have hnumber := takeNumber?_padded rest (Nat.le_of_eq hlength) (.inl hlength)
  obtain ⟨c, cs, hcs⟩ := List.exists_cons_of_ne_nil (padded_ne_nil 4 n)
  have hc : c.isDigit = true := isDigit_of_mem_padded (hcs ▸ List.mem_cons_self)
  rw [takeYear?, Text.trimStart_padded]
  split
  · rename_i hminus
    rw [hcs] at hminus
    obtain rfl := (List.cons.inj hminus).1
    exact absurd hc (by decide)
  · rename_i hplus
    rw [hcs] at hplus
    obtain rfl := (List.cons.inj hplus).1
    exact absurd hc (by decide)
  · rw [hnumber]
    rfl

/-- After a sign the whole row of digits belongs to the year. -/
theorem takeYear?_signed (negative : Bool) (n : Nat) {rest : List Char} (hend : EndsNumber rest) :
    takeYear? ((if negative then '-' else '+') :: (padded 4 n ++ rest))
      = some (if negative then -(n : Int) else n, rest) := by
  have hfits : (padded 4 n).length ≤ (padded 4 n ++ rest).length := by simp
  have hnumber := takeNumber?_padded rest hfits (.inr hend)
  cases negative
  · show (takeNumber? _ _).map _ = _
    rw [hnumber]
    rfl
  · show (takeNumber? _ _).map _ = _
    rw [hnumber]
    rfl

/-- A year is read with its sign, if it has one. -/
theorem take?_year {year : Int} {rest : List Char} (hend : EndsNumber rest) :
    Item.year.take? (yearText year ++ rest) = some ([year], rest) := by
  have hread : takeYear? (yearText year ++ rest) = some (year, rest) := by
    rw [yearText]
    split
    · rw [takeYear?_padded (by omega), Int.toNat_of_nonneg (by omega)]
    · have hsigned := takeYear?_signed (year < 0) year.natAbs hend
      have habs : (if year < 0 then -(year.natAbs : Int) else year.natAbs) = year := by
        split <;> omega
      simp only [decide_eq_true_eq, habs] at hsigned
      rw [List.cons_append, hsigned]
  rw [Item.take?, hread]
  rfl

theorem take?_number {n : Nat} (h : n < 100) (rest : List Char) :
    Item.number.take? (padded 2 n ++ rest) = some ([(n : Int)], rest) := by
  have hlength : (padded 2 n).length = 2 := length_padded (by decide) h
  rw [Item.take?, Text.trimStart_padded,
    takeNumber?_padded rest (Nat.le_of_eq hlength) (.inl hlength)]
  rfl

theorem take?_literal (c : Char) (rest : List Char) :
    (Item.literal c).take? (c :: rest) = some ([], rest) := by
  simp [Item.take?]

theorem take?_blanks (width n : Nat) (rest : List Char) :
    Item.blanks.take? (' ' :: (padded width n ++ rest)) = some ([], padded width n ++ rest) := by
  have hblank : Text.trimStart (' ' :: (padded width n ++ rest))
      = Text.trimStart (padded width n ++ rest) := rfl
  rw [Item.take?, hblank, Text.trimStart_padded]

/-- A fraction of any width is read as the nanoseconds that it was written for. -/
theorem take?_fraction {nano : Nat} (h : nano < 1000000000) :
    Item.fraction.take? (fractionText nano) = some ([(nano : Int)], []) := by
  have hdigits : ∀ {k m : Nat}, 0 < k → k ≤ 9 → m < 10 ^ k →
      takeFraction? ('.' :: padded k m) = some (((m * 10 ^ (9 - k) : Nat) : Int), []) := by
    intro k m hk hk9 hm
    have hlength := length_padded hk hm
    have hall : (padded k m).takeWhile Char.isDigit = padded k m := by
      simpa using @takeWhile_padded k m [] nofun
    have htake : (padded k m).take 9 = padded k m := List.take_of_length_le (by omega)
    rw [takeFraction?, hall, htake, hlength]
    simp [padded_ne_nil, hlength]
  rw [Item.take?, fractionText]
  split
  · simp [takeFraction?, *]
  · split
    · rw [hdigits (by decide) (by decide) (by omega)]
      simp
      omega
    · split
      · rw [hdigits (by decide) (by decide) (by omega)]
        simp
        omega
      · rw [hdigits (by decide) (by decide) (by omega)]
        simp

/-! ## Whole texts -/

theorem daysInMonth_le (year : Int) (month : Nat) : daysInMonth year month ≤ 31 := by
  grind [daysInMonth]

theorem readNumbers?_cons {item : Item} {pattern : List Item} {cs rest : List Char}
    {numbers more : List Int} (hitem : item.take? cs = some (numbers, rest))
    (hmore : readNumbers? pattern rest = some more) :
    readNumbers? (item :: pattern) cs = some (numbers ++ more) := by
  simp [readNumbers?, hitem, hmore]

theorem endsNumber_cons {c : Char} (h : c.isDigit = false) (rest : List Char) :
    EndsNumber (c :: rest) := by
  rintro _ ⟨⟩
  exact h

end Calendar

namespace DateTime

open Calendar

/-- The numbers in the text of a date-time. -/
theorem readNumbers?_text (t : DateTime) :
    readNumbers? (storedPattern .blanks) (t.text ' ') = some [t.year, (t.month : Int), (t.day : Int),
      (t.hour : Int), (t.minute : Int), (t.shownSecond : Int), (t.shownNano : Int)] := by
  obtain ⟨-, -, -, hmonth, -, hday⟩ := t.valid_date
  obtain ⟨hhour, hminute, hsecond, hnano⟩ := t.valid_time
  have hdays := daysInMonth_le t.year t.month
  have hshown : t.shownSecond < 100 := by unfold shownSecond; omega
  have hfraction : t.shownNano < 1000000000 := Nat.mod_lt _ (by decide)
  rw [text, storedPattern]
  simp only [List.append_assoc, List.cons_append]
  refine readNumbers?_cons (take?_year (endsNumber_cons rfl _)) ?_
  refine readNumbers?_cons (take?_literal '-' _) ?_
  refine readNumbers?_cons (take?_number (by omega) _) ?_
  refine readNumbers?_cons (take?_literal '-' _) ?_
  refine readNumbers?_cons (take?_number (by omega) _) ?_
  refine readNumbers?_cons (take?_blanks 2 t.hour _) ?_
  refine readNumbers?_cons (take?_number (by omega) _) ?_
  refine readNumbers?_cons (take?_literal ':' _) ?_
  refine readNumbers?_cons (take?_number (by omega) _) ?_
  refine readNumbers?_cons (take?_literal ':' _) ?_
  refine readNumbers?_cons (take?_number hshown _) ?_
  exact readNumbers?_cons (take?_fraction hfraction) rfl

/-- A regular date-time is read from its text as it was, leap seconds included. -/
theorem readStored?_text_of_regular {t : DateTime} (hregular : t.Regular) :
    readStored? (t.text ' ') = some t := by
  have hread : read? (storedPattern .blanks) (t.text ' ') = some t := by
    rw [read?, readNumbers?_text]
    exact ofShown?_shown hregular
  rw [readStored?, hread]
  rfl

/-! ## Leap seconds in the middle of a minute -/

/-- The date-time in the second that is written: a leap second in the middle of a minute becomes the
second after it. -/
def shown (t : DateTime) : DateTime :=
  if h : 1000000000 ≤ t.nano ∧ t.second < 59 then
    { t with
      second := t.second + 1
      nano := t.nano - 1000000000
      valid_time := by
        obtain ⟨hhour, hminute, hsecond, hnano⟩ := t.valid_time
        exact ⟨hhour, hminute, by omega, by omega⟩ }
  else t

/-- What is written is a regular date-time. -/
theorem regular_shown (t : DateTime) : t.shown.Regular := by
  obtain ⟨hhour, hminute, hsecond, hnano⟩ := t.valid_time
  unfold shown Regular
  split
  · show 1000000000 ≤ t.nano - 1000000000 → _
    omega
  · omega

/-- The text of a regular date-time says what it is. -/
theorem shown_of_regular {t : DateTime} (hregular : t.Regular) : t.shown = t := by
  unfold Regular at hregular
  exact dif_neg (by omega)

/-- Nothing else is written as itself. -/
theorem shown_eq_self_iff {t : DateTime} : t.shown = t ↔ t.Regular :=
  ⟨fun h => h ▸ t.regular_shown, shown_of_regular⟩

/-- Both have one text. -/
theorem text_shown (t : DateTime) (separator : Char) : t.shown.text separator = t.text separator := by
  unfold shown
  split
  · rename_i h
    have hnano := t.valid_time.2.2.2
    have hsecond : t.second + 1 + (t.nano - 1000000000) / 1000000000
        = t.second + t.nano / 1000000000 := by omega
    have hfraction : (t.nano - 1000000000) % 1000000000 = t.nano % 1000000000 := by omega
    simp only [text, shownSecond, shownNano, hsecond, hfraction]
  · rfl

/-- **A date-time is read from its text** as the regular one that is written so. -/
theorem readStored?_text (t : DateTime) : readStored? (t.text ' ') = some t.shown := by
  rw [← text_shown, readStored?_text_of_regular t.regular_shown]

/-- Half a second after the last second before the year 10000. -/
example : readStored? "9999-12-31 23:59:60.500".toList
    = some ⟨9999, 12, 31, 23, 59, 59, 1500000000, by decide, by decide⟩ := by decide +kernel

end DateTime

end SqlRecords
