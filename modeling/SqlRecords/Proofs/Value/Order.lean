import SqlRecords.Embedded.Storage
import SqlRecords.Proofs.Calendar.Order

/-!
# Values in the order of their stored texts

Date-times and identifiers are kept in columns of texts, where range predicates and sorts see the
bytes of the text only.

Both digits of a byte are written, and all identifiers have their hyphens at the same places, so
identifiers compare as their bytes do (`Uuid.compare_text`).  For date-times see
`DateTime.compare_text`.  The quote that ends a literal is before the point and the digits, so it
does not disturb the order of fractions either.

* `Value.sortsAsText_shown` — date-times are in the order of the moments that their texts say.
* **`Value.texts_in_order`** — the texts that are bound, and those that are written into a statement,
  are in the order of the values, if those are regular.
* `Value.texts_out_of_order` — a leap second in the middle of a minute is not in order.
-/

namespace SqlRecords

open Text

/-! ## Identifiers -/

namespace Hex

variable {rest rest' : List Char}

theorem compare_digitChar {m n : Nat} (hm : m < 16) (hn : n < 16) :
    compare (Nat.digitChar m) (Nat.digitChar n) = compare m n := by
  have table : ∀ k ∈ List.range 16, ∀ l ∈ List.range 16,
      compare (Nat.digitChar k) (Nat.digitChar l) = compare k l := by decide
  exact table m (List.mem_range.mpr hm) n (List.mem_range.mpr hn)

/-- Two bytes are in the order of their two digits. -/
theorem compare_digits_append (b b' : UInt8) :
    compare (digits b ++ rest) (digits b' ++ rest') = (compare b b').then (compare rest rest') := by
  have hbyte : ∀ b : UInt8, b.toNat = b.toNat / 16 * 16 + b.toNat % 16 := by omega
  have hb : b.toNat / 16 < 16 := Nat.div_lt_of_lt_mul b.toNat_lt
  have hb' : b'.toNat / 16 < 16 := Nat.div_lt_of_lt_mul b'.toNat_lt
  have hlow : ∀ n : Nat, n % 16 < 16 := fun n => Nat.mod_lt n (by decide)
  have horder : compare b b'
      = (compare (b.toNat / 16) (b'.toNat / 16)).then (compare (b.toNat % 16) (b'.toNat % 16)) := by
    rw [← compare_mul_add (hlow _) (hlow _), ← hbyte, ← hbyte, compare_byte]
  simp only [digits, List.cons_append, List.nil_append, List.compare_cons_cons,
    compare_digitChar hb hb', compare_digitChar (hlow _) (hlow _), horder, Ordering.then_assoc]

theorem compare_encode (bytes bytes' : List UInt8) :
    compare (encode bytes) (encode bytes') = compare bytes bytes' := by
  induction bytes generalizing bytes' with
  | nil => cases bytes' <;> rfl
  | cons b bytes ih =>
    cases bytes' with
    | nil => rfl
    | cons b' bytes' =>
      rw [encode, encode, List.flatMap_cons, List.flatMap_cons, compare_digits_append,
        List.compare_cons_cons, ← encode, ← encode, ih]

theorem isAscii_encode (bytes : List UInt8) : IsAscii (encode bytes) := by
  intro c hc
  obtain ⟨k, hk, rfl⟩ := exists_of_mem_encode hc
  have table : ∀ k ∈ List.range 16, (Nat.digitChar k).toNat < 128 := by decide
  exact table k hk

end Hex

namespace Uuid

/-- Texts of identifiers are in the order of the bytes, also with one and the same text after
them. -/
theorem compare_text (u u' : Uuid) (q : List Char) :
    compare (u.text ++ q) (u'.text ++ q) = u.order u' := by
  have hlength : (Hex.encode u.bytes).length = (Hex.encode u'.bytes).length := by
    rw [Hex.length_encode, Hex.length_encode, u.length_bytes, u'.length_bytes]
  rw [order, ← Hex.compare_encode, text, text]
  generalize Hex.encode u.bytes = a at hlength ⊢
  generalize Hex.encode u'.bytes = b at hlength ⊢
  have hgroup : ∀ m n (rest rest' : List Char),
      compare ((a.drop m).take n ++ rest) ((b.drop m).take n ++ rest')
        = (compare ((a.drop m).take n) ((b.drop m).take n)).then (compare rest rest') := by
    intro m n rest rest'
    refine compare_append ?_
    rw [List.length_take, List.length_take, List.length_drop, List.length_drop, hlength]
  have hlast : ∀ m, compare (a.drop m ++ q) (b.drop m ++ q) = compare (a.drop m) (b.drop m) := by
    intro m
    rw [compare_append (by rw [List.length_drop, List.length_drop, hlength]),
      Std.ReflOrd.compare_self, Ordering.then_eq]
  have hsplit : ∀ m n, compare (a.drop m) (b.drop m) = (compare ((a.drop m).take n)
      ((b.drop m).take n)).then (compare (a.drop (m + n)) (b.drop (m + n))) := by
    intro m n
    rw [← hgroup, ← List.drop_drop, List.take_append_drop, ← List.drop_drop, List.take_append_drop]
  have hwhole := hsplit 0 8
  rw [List.drop_zero, List.drop_zero, hsplit _ 4, hsplit _ 4, hsplit _ 4] at hwhole
  have hfirst := hgroup 0 8
  rw [List.drop_zero, List.drop_zero] at hfirst
  simp only [List.append_assoc, List.cons_append, hfirst, hgroup, hlast, compare_cons_self, hwhole]

theorem isAscii_text (u : Uuid) : IsAscii u.text := by
  have hdigits := Hex.isAscii_encode u.bytes
  have hdrop : ∀ n, IsAscii ((Hex.encode u.bytes).drop n) := fun n c hc =>
    hdigits c (List.mem_of_mem_drop hc)
  have htake : ∀ n {cs : List Char}, IsAscii cs → IsAscii (cs.take n) := fun n _ h c hc =>
    h c (List.mem_of_mem_take hc)
  simp [text, htake, hdrop, hdigits]

end Uuid

namespace Value

/-- Two values are stored as texts that stand in the given order, and so do their literals. -/
structure SortsAsText (v w : Value) (o : Ordering) : Prop where
  bound : ∃ s t, v.toStorage = .text s ∧ w.toStorage = .text t ∧ byteOrder s t = o
  interpolated : byteOrder v.literal w.literal = o

/-- It is enough that the characters are in the order, with and without the quote that ends a
literal. -/
theorem SortsAsText.of_texts {v w : Value} {a b : List Char} {o : Ordering}
    (hv : v.toStorage = .text (String.ofList a)) (hw : w.toStorage = .text (String.ofList b))
    (hlv : v.literal = "'" ++ String.ofList a ++ "'") (hlw : w.literal = "'" ++ String.ofList b ++ "'")
    (ha : IsAscii a) (hb : IsAscii b) (hplain : compare a b = o)
    (hquoted : compare (a ++ ['\'']) (b ++ ['\'']) = o) : SortsAsText v w o where
  bound := ⟨_, _, hv, hw, (byteOrder_ofList ha hb).trans hplain⟩
  interpolated := by
    have hquote : ∀ cs : List Char,
        "'" ++ String.ofList cs ++ "'" = String.ofList ('\'' :: (cs ++ ['\''])) := by
      intro cs
      apply String.toList_inj.mp
      simp
    have hascii : ∀ {cs : List Char}, IsAscii cs → IsAscii ('\'' :: (cs ++ ['\''])) := by
      intro cs h
      simp [h]
    rw [hlv, hlw, hquote, hquote, byteOrder_ofList (hascii ha) (hascii hb), compare_cons_self, hquoted]

/-- Date-times are in the order of the moments that their texts say. -/
theorem sortsAsText_shown {t t' : DateTime} (ht : t.FourDigitYear) (ht' : t'.FourDigitYear) :
    SortsAsText (.dateTime t) (.dateTime t') (t.shown.order t'.shown) := by
  refine SortsAsText.of_texts rfl rfl rfl rfl (t.isAscii_text (by decide))
    (t'.isAscii_text (by decide)) ?_ ?_
  · have hend := DateTime.compare_text (q := []) nofun ' ' ht ht'
    rwa [List.append_nil, List.append_nil] at hend
  · refine DateTime.compare_text ?_ ' ' ht ht'
    simp [Calendar.EndsFraction]

/-- **Stored texts are in the order of the values.**  Date-times with years of four digits, with any
fraction and with leap seconds at the end of a minute, and identifiers are in the order of the texts
that are bound and of the literals that are written into a statement. -/
theorem texts_in_order (t t' : DateTime) (ht : t.FourDigitYear) (ht' : t'.FourDigitYear)
    (hregular : t.Regular) (hregular' : t'.Regular) (u u' : Uuid) :
    SortsAsText (.dateTime t) (.dateTime t') (t.order t') ∧
      SortsAsText (.uuid u) (.uuid u') (u.order u') := by
  constructor
  · have hsorts := sortsAsText_shown ht ht'
    rwa [DateTime.shown_of_regular hregular, DateTime.shown_of_regular hregular'] at hsorts
  · refine SortsAsText.of_texts rfl rfl rfl rfl u.isAscii_text u'.isAscii_text ?_
      (u.compare_text u' _)
    have hend := u.compare_text u' []
    rwa [List.append_nil, List.append_nil] at hend

/-- The last second of 2016 with a fraction, and the leap second after it without one. -/
theorem texts_in_order_leapSecond :
    let last : DateTime := ⟨2016, 12, 31, 23, 59, 59, 999500000, by decide, by decide⟩
    let leap : DateTime := ⟨2016, 12, 31, 23, 59, 59, 1000000000, by decide, by decide⟩
    (last.FourDigitYear ∧ leap.FourDigitYear) ∧ (last.Regular ∧ leap.Regular)
      ∧ (dateTime last).literal = "'2016-12-31 23:59:59.999500'"
      ∧ (dateTime leap).literal = "'2016-12-31 23:59:60'"
      ∧ SortsAsText (.dateTime last) (.dateTime leap) .lt
      ∧ SortsAsText (.uuid (.ofNat 0xa0)) (.uuid (.ofNat 0x9f)) .gt := by
  intro last leap
  have hlast : last.FourDigitYear := by decide
  have hleap : leap.FourDigitYear := by decide
  have hregular : last.Regular ∧ leap.Regular := by decide
  obtain ⟨hdates, hidentifiers⟩ := texts_in_order last leap hlast hleap hregular.1 hregular.2
    (.ofNat 0xa0) (.ofNat 0x9f)
  exact ⟨⟨hlast, hleap⟩, hregular, by decide +kernel, by decide +kernel, hdates, hidentifiers⟩

/-- Half a second into a leap second in the middle of a minute is before the next second, and its text
is after that of a fifth of a second into it. -/
theorem texts_out_of_order :
    let leap : DateTime := ⟨2024, 3, 1, 12, 30, 30, 1500000000, by decide, by decide⟩
    let next : DateTime := ⟨2024, 3, 1, 12, 30, 31, 200000000, by decide, by decide⟩
    (leap.FourDigitYear ∧ next.FourDigitYear) ∧ leap.order next = .lt
      ∧ (dateTime leap).toStorage = .text "2024-03-01 12:30:31.500"
      ∧ (dateTime next).toStorage = .text "2024-03-01 12:30:31.200"
      ∧ ¬ SortsAsText (.dateTime leap) (.dateTime next) .lt := by
  intro leap next
  have hyears : leap.FourDigitYear ∧ next.FourDigitYear := by decide
  refine ⟨hyears, by decide, by decide +kernel, by decide +kernel, fun hsorts => ?_⟩
  have hliterals : byteOrder (dateTime leap).literal (dateTime next).literal = .gt := by
    decide +kernel
  exact absurd (hsorts.interpolated.symm.trans hliterals) (by decide)

end Value

end SqlRecords
