import SqlRecords.Proofs.Text.ByteOrder

/-!
# Date-times in the order of their texts

Up to the second every number of a date-time is written at a width of its own, so texts compare as
the numbers do.  Two things do not have a fixed form: the second 60 of a leap second, which is the
second 59 with too many nanoseconds (`DateTime.compare_shown`), and the fraction, which is cut after
the last group of three digits that says something.  A leap second in the middle of a minute is not
written as one, so the order of the texts is that of the date-times that they say.

A cut fraction is followed by the end of the text or by something that is before every digit, so it
stands where it would stand with all its groups: `Calendar.compare_groupsText`, by induction on the
groups.  Either both go on with a group, or the one that is cut has only zeros left.

* **`DateTime.compare_text`** — texts of date-times with years of four digits are in the order of
  the moments that they say, also with one and the same text after them.
-/

namespace SqlRecords

namespace Numeral

/-- Digits at a fixed width are those of the high part and those of the low part. -/
theorem padded_mul_add {high low width width' : Nat} (hwidth : 0 < width) (hwidth' : 0 < width')
    (hhigh : high < Nat.pow 10 width) (hlow : low < Nat.pow 10 width') :
    padded (width + width') (high * Nat.pow 10 width' + low) = padded width high ++ padded width' low := by
  have hfits : high * Nat.pow 10 width' + low < Nat.pow 10 (width + width') := by
    have hnext : (high + 1) * Nat.pow 10 width' ≤ Nat.pow 10 width * Nat.pow 10 width' :=
      Nat.mul_le_mul_right _ hhigh
    have hpow : Nat.pow 10 (width + width') = Nat.pow 10 width * Nat.pow 10 width' := Nat.pow_add ..
    rw [Nat.succ_mul] at hnext
    omega
  have hlength : (padded (width + width') (high * Nat.pow 10 width' + low)).length
      = (padded width high ++ padded width' low).length := by
    rw [List.length_append, length_padded (by omega) hfits, length_padded hwidth hhigh,
      length_padded hwidth' hlow]
  have hvalue : value (padded width high ++ padded width' low) = high * Nat.pow 10 width' + low := by
    have hhigh' : Nat.ofDigitChars 10 (padded width high) 0 = high := value_padded width high
    have hlow' : Nat.ofDigitChars 10 (padded width' low) 0 = low := value_padded width' low
    rw [value, Nat.ofDigitChars_append, Nat.ofDigitChars_eq_ofDigitChars_zero, hhigh', hlow',
      length_padded hwidth' hlow, Nat.mul_comm]
    rfl
  have hdigits : ∀ c ∈ padded width high ++ padded width' low, c.isDigit = true :=
    List.forall_mem_append.mpr ⟨fun _ => isDigit_of_mem_padded, fun _ => isDigit_of_mem_padded⟩
  rw [← Std.LawfulEqOrd.compare_eq_iff_eq (α := List Char),
    compare_digits (fun _ => isDigit_of_mem_padded) hdigits hlength, hvalue, value_padded,
    Std.ReflOrd.compare_self]

end Numeral

namespace Calendar

open Numeral Text

variable {gs hs : List Nat} {q : List Char} {n n' : Nat}

/-! ## Fractions -/

/-- The text ends here, or goes on with something before the point and the digits. -/
def EndsFraction (q : List Char) : Prop := ∀ c ∈ q.head?, c.toNat < '.'.toNat

/-- The end of a fraction is before everything that starts with the point or a digit. -/
theorem EndsFraction.compare_eq_lt (hq : EndsFraction q) {c : Char} (hc : '.'.toNat ≤ c.toNat)
    (rest : List Char) : compare q (c :: rest) = .lt := by
  cases q with
  | nil => rfl
  | cons d q =>
    have hlt : compare d c = .lt := by
      rw [compare_char, Nat.compare_eq_lt]
      exact Nat.lt_of_lt_of_le (hq d rfl) hc
    rw [List.compare_cons_cons, hlt]
    rfl

theorem EndsFraction.compare_padded_eq_lt (hq : EndsFraction q) (width n : Nat) (rest : List Char) :
    compare q (padded width n ++ rest) = .lt := by
  obtain ⟨c, cs, hcs⟩ := List.exists_cons_of_ne_nil (padded_ne_nil width n)
  have hc : c.isDigit = true := isDigit_of_mem_padded (hcs ▸ List.mem_cons_self)
  rw [hcs, List.cons_append]
  exact hq.compare_eq_lt (Nat.le_trans (by decide) (digit_bounds hc).1) _

/-- Groups of three digits, up to the last that is not zero. -/
def groupsText : List Nat → List Char
  | [] => []
  | g :: gs => if ∀ h ∈ g :: gs, h = 0 then [] else padded 3 g ++ groupsText gs

theorem compare_zeros_eq_lt (hg : ∀ g ∈ gs, g = 0) (hh : ¬ ∀ h ∈ hs, h = 0)
    (hlength : gs.length = hs.length) : compare gs hs = .lt := by
  induction gs generalizing hs with
  | nil =>
    obtain rfl := List.length_eq_zero_iff.mp hlength.symm
    exact absurd nofun hh
  | cons g gs ih =>
    obtain ⟨h, hs, rfl⟩ := List.exists_cons_of_length_eq_add_one hlength.symm
    obtain ⟨rfl, hgs⟩ := List.forall_mem_cons.mp hg
    rw [List.compare_cons_cons]
    by_cases hzero : h = 0
    · rw [hzero, Std.ReflOrd.compare_self, Ordering.then,
        ih hgs (fun hall => hh (List.forall_mem_cons.mpr ⟨hzero, hall⟩)) (Nat.succ.inj hlength)]
    · rw [Nat.compare_eq_lt.mpr (Nat.pos_of_ne_zero hzero)]
      rfl

/-- Groups that are cut after the last that is not zero are in the order of all groups. -/
theorem compare_groupsText (hq : EndsFraction q) (hg : ∀ g ∈ gs, g < 1000) (hh : ∀ h ∈ hs, h < 1000)
    (hlength : gs.length = hs.length) :
    compare (groupsText gs ++ q) (groupsText hs ++ q) = compare gs hs := by
  induction gs generalizing hs with
  | nil =>
    obtain rfl := List.length_eq_zero_iff.mp hlength.symm
    exact Std.ReflOrd.compare_self
  | cons g gs ih =>
    obtain ⟨h, hs, rfl⟩ := List.exists_cons_of_length_eq_add_one hlength.symm
    rw [groupsText, groupsText]
    by_cases hgz : ∀ k ∈ g :: gs, k = 0 <;> by_cases hhz : ∀ k ∈ h :: hs, k = 0
    · have hequal : g :: gs = h :: hs := by
        rw [List.eq_replicate_of_mem hgz, List.eq_replicate_of_mem hhz, hlength]
      rw [if_pos hgz, if_pos hhz, hequal, Std.ReflOrd.compare_self, Std.ReflOrd.compare_self]
    · rw [if_pos hgz, if_neg hhz, compare_zeros_eq_lt hgz hhz hlength, List.append_assoc,
        List.nil_append, hq.compare_padded_eq_lt]
    · rw [if_neg hgz, if_pos hhz, Std.OrientedOrd.eq_swap (a := g :: gs),
        compare_zeros_eq_lt hhz hgz hlength.symm, Std.OrientedOrd.eq_swap, List.append_assoc,
        List.nil_append, hq.compare_padded_eq_lt]
    · obtain ⟨hg, hgs⟩ := List.forall_mem_cons.mp hg
      obtain ⟨hh, hhs⟩ := List.forall_mem_cons.mp hh
      rw [if_neg hgz, if_neg hhz, List.append_assoc, List.append_assoc,
        compare_padded_append (by decide) hg hh, ih hgs hhs (Nat.succ.inj hlength),
        List.compare_cons_cons]

/-- The three groups of a fraction. -/
def groups (nano : Nat) : List Nat := [nano / 1000000, nano / 1000 % 1000, nano % 1000]

theorem lt_of_mem_groups (hn : n < 1000000000) : ∀ g ∈ groups n, g < 1000 := by
  simp [groups]
  omega

/-- The groups of two fractions are in the order of the fractions. -/
theorem compare_groups : compare (groups n) (groups n') = compare n n' := by
  have hsplit : ∀ n : Nat, n = (n / 1000000 * 1000 + n / 1000 % 1000) * 1000 + n % 1000 := by omega
  rw [hsplit n, hsplit n', compare_mul_add (Nat.mod_lt _ (by decide)) (Nat.mod_lt _ (by decide)),
    compare_mul_add (Nat.mod_lt _ (by decide)) (Nat.mod_lt _ (by decide)), ← hsplit n, ← hsplit n',
    groups, groups]
  simp [List.compare_cons_cons, Ordering.then_assoc]

/-- A fraction is the point and the groups that say something. -/
theorem fractionText_eq (hn : n < 1000000000) :
    fractionText n = if n = 0 then [] else '.' :: groupsText (groups n) := by
  have hgroup : ∀ k : Nat, k % 1000 < Nat.pow 10 3 := fun k => Nat.mod_lt k (by decide)
  have hthree : n / 1000000 < Nat.pow 10 3 := Nat.div_lt_of_lt_mul hn
  have hsix : padded 6 (n / 1000) = padded 3 (n / 1000000) ++ padded 3 (n / 1000 % 1000) := by
    rw [← padded_mul_add (by decide) (by decide) hthree (hgroup _)]
    congr 1
    show n / 1000 = n / 1000000 * 1000 + n / 1000 % 1000
    omega
  have hnine : padded 9 n = padded 6 (n / 1000) ++ padded 3 (n % 1000) := by
    rw [← padded_mul_add (by decide) (by decide) (Nat.div_lt_of_lt_mul hn) (hgroup _)]
    congr 1
    show n = n / 1000 * 1000 + n % 1000
    omega
  by_cases h : n = 0
  · rw [fractionText, if_pos h, if_pos h]
  · rw [fractionText, if_neg h, if_neg h, groups, groupsText, groupsText, groupsText, groupsText]
    simp only [List.forall_mem_cons]
    by_cases hlow : n % 1000 = 0 <;> by_cases hmiddle : n / 1000 % 1000 = 0
    · have hone : n % 1000000 = 0 := by omega
      have hhigh : ¬ n / 1000000 = 0 := by omega
      simp [hone, hlow, hmiddle, hhigh]
    · have hone : ¬ n % 1000000 = 0 := by omega
      simp [hone, hlow, hmiddle, hsix]
    · have hone : ¬ n % 1000000 = 0 := by omega
      simp [hone, hlow, hmiddle, hsix, hnine]
    · have hone : ¬ n % 1000000 = 0 := by omega
      simp [hone, hlow, hmiddle, hsix, hnine]

/-- Fractions are in the order of their texts, at the end of a text or before something that does
not go on with digits. -/
theorem compare_fractionText (hq : EndsFraction q) (hn : n < 1000000000) (hn' : n' < 1000000000) :
    compare (fractionText n ++ q) (fractionText n' ++ q) = compare n n' := by
  rw [fractionText_eq hn, fractionText_eq hn']
  by_cases h : n = 0 <;> by_cases h' : n' = 0
  · rw [if_pos h, if_pos h', h, h', Std.ReflOrd.compare_self, Std.ReflOrd.compare_self]
  · rw [if_pos h, if_neg h', List.nil_append, List.cons_append, hq.compare_eq_lt (Nat.le_refl _),
      Nat.compare_eq_lt.mpr (by omega)]
  · rw [if_neg h, if_pos h', List.nil_append, List.cons_append, Std.OrientedOrd.eq_swap,
      hq.compare_eq_lt (Nat.le_refl _), Nat.compare_eq_gt.mpr (by omega), Ordering.swap_lt]
  · rw [if_neg h, if_neg h', List.cons_append, List.cons_append, compare_cons_self,
      compare_groupsText hq (lt_of_mem_groups hn) (lt_of_mem_groups hn') rfl, compare_groups]

end Calendar

namespace DateTime

open Numeral Text Calendar

variable {t t' : DateTime}

theorem shownNano_lt (t : DateTime) : t.shownNano < 1000000000 := by
  rw [shownNano]
  omega

/-- Nanoseconds since the full minute are in the order of the pairs: only the last second of a minute
has more than a thousand million of them. -/
theorem nanos_lt_iff (ht : t.Regular) (ht' : t'.Regular) :
    t.second * 1000000000 + t.nano < t'.second * 1000000000 + t'.nano
      ↔ t.second * 2000000000 + t.nano < t'.second * 2000000000 + t'.nano := by
  obtain ⟨_, _, hs, hn⟩ := t.valid_time
  obtain ⟨_, _, hs', hn'⟩ := t'.valid_time
  rcases Nat.lt_trichotomy t.second t'.second with h | h | h
  · have hplain : ¬ 1000000000 ≤ t.nano := fun hlong => absurd (ht hlong) (by omega)
    omega
  · omega
  · have hplain : ¬ 1000000000 ≤ t'.nano := fun hlong => absurd (ht' hlong) (by omega)
    omega

/-- A leap second is after the second 59 and before the next minute, as a second of its own. -/
theorem compare_shown (ht : t.Regular) (ht' : t'.Regular) :
    (compare t.shownSecond t'.shownSecond).then (compare t.shownNano t'.shownNano)
      = (compare t.second t'.second).then (compare t.nano t'.nano) := by
  have hshown : ∀ t : DateTime,
      t.shownSecond * 1000000000 + t.shownNano = t.second * 1000000000 + t.nano := by
    intro t
    rw [shownSecond, shownNano]
    omega
  rw [← compare_mul_add (shownNano_lt t) (shownNano_lt t'), hshown, hshown,
    ← compare_mul_add t.valid_time.2.2.2 t'.valid_time.2.2.2,
    Nat.compare_eq_ite_lt, Nat.compare_eq_ite_lt]
  simp only [nanos_lt_iff ht ht', nanos_lt_iff ht' ht]

/-- The year is one of four digits, which has no sign. -/
def FourDigitYear (t : DateTime) : Prop := 0 ≤ t.year ∧ t.year ≤ 9999

instance (t : DateTime) : Decidable t.FourDigitYear :=
  inferInstanceAs (Decidable (0 ≤ t.year ∧ t.year ≤ 9999))

theorem compare_year (ht : t.FourDigitYear) (ht' : t'.FourDigitYear) :
    compare t.year.toNat t'.year.toNat = compare t.year t'.year := by
  have hpositive := ht.1
  have hpositive' := ht'.1
  rw [Nat.compare_eq_ite_lt]
  simp only [compare, compareOfLessAndEq]
  grind

theorem toNat_year_lt (ht : t.FourDigitYear) : t.year.toNat < 10000 := by
  have hyear := ht.2
  omega

/-- Every number after the year has at most two digits. -/
theorem twoDigits (t : DateTime) :
    t.month < 100 ∧ t.day < 100 ∧ t.hour < 100 ∧ t.minute < 100 ∧ t.shownSecond < 100 := by
  obtain ⟨_, _, _, hmonth, _, hday⟩ := t.valid_date
  obtain ⟨hhour, hminute, hsecond, hnano⟩ := t.valid_time
  have hlast := daysInMonth_le t.year t.month
  rw [shownSecond]
  omega

/-- Texts of regular date-times are in the order of the moments. -/
theorem compare_text_of_regular {q : List Char} (hq : EndsFraction q) (separator : Char)
    (ht : t.FourDigitYear) (ht' : t'.FourDigitYear) (hregular : t.Regular) (hregular' : t'.Regular) :
    compare (t.text separator ++ q) (t'.text separator ++ q) = t.order t' := by
  obtain ⟨hmonth, hday, hhour, hminute, hsecond⟩ := t.twoDigits
  obtain ⟨hmonth', hday', hhour', hminute', hsecond'⟩ := t'.twoDigits
  have hyear : ∀ {t : DateTime}, t.FourDigitYear → yearText t.year = padded 4 t.year.toNat :=
    fun ht => if_pos ht
  rw [text, text, hyear ht, hyear ht']
  simp only [List.append_assoc, List.cons_append]
  rw [compare_padded_append (by decide) (toNat_year_lt ht) (toNat_year_lt ht'), compare_cons_self,
    compare_padded_append (by decide) hmonth hmonth', compare_cons_self,
    compare_padded_append (by decide) hday hday', compare_cons_self,
    compare_padded_append (by decide) hhour hhour', compare_cons_self,
    compare_padded_append (by decide) hminute hminute', compare_cons_self,
    compare_padded_append (by decide) hsecond hsecond',
    compare_fractionText hq (shownNano_lt t) (shownNano_lt t'), compare_shown hregular hregular',
    compare_year ht ht', order]

theorem year_shown (t : DateTime) : t.shown.year = t.year := by
  rw [shown]
  split <;> rfl

/-- Texts of date-times are in the order of the moments that they say. -/
theorem compare_text {q : List Char} (hq : EndsFraction q) (separator : Char)
    (ht : t.FourDigitYear) (ht' : t'.FourDigitYear) :
    compare (t.text separator ++ q) (t'.text separator ++ q) = t.shown.order t'.shown := by
  have hyear : ∀ {t : DateTime}, t.FourDigitYear → t.shown.FourDigitYear := fun {t} ht => by
    rwa [FourDigitYear, year_shown]
  rw [← t.text_shown, ← t'.text_shown]
  exact compare_text_of_regular hq separator (hyear ht) (hyear ht') t.regular_shown t'.regular_shown

theorem isAscii_text (t : DateTime) {separator : Char} (h : separator.toNat < 128) :
    IsAscii (t.text separator) := by
  have hyear : IsAscii (yearText t.year) := by
    rw [yearText]
    split
    · exact isAscii_padded _ _
    · split <;> simp
  have hfraction : IsAscii (fractionText t.shownNano) := by
    rw [fractionText]
    repeat' split
    all_goals simp
  simp [text, hyear, hfraction, h]

end DateTime

end SqlRecords
