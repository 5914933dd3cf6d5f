import SqlRecords.Embedded.Storage
import SqlRecords.Proofs.Calendar.RoundTrip
import SqlRecords.Value.Reading

/-!
# Fields survive storage

The embedded database has five kinds of values, and a field may have any of nine types, or be
optional.  What is written as another kind has to be found again when it is read into the field.

A leap second in the middle of a minute is not: it has the text of the second after it.

* `FieldType.Holds` — the values that a field of a type can have.
* `Value.Regular` — all but the date-times that are not regular.
* `Uuid.read?_text` — an identifier is read from its text as it was.
* **`Value.read_stored`** — so is every regular value of every field, and no other.
* `Value.read_stored_midMinute` — half past twelve and 31.5 seconds, from a leap second before it.
-/

namespace SqlRecords

/-! ## Identifiers -/

namespace Uuid

variable {a b c d e : List Char}

/-- Five groups of the right lengths are read as the digits without the hyphens. -/
theorem readHyphenated?_groups (ha : a.length = 8) (hb : b.length = 4) (hc : c.length = 4)
    (hd : d.length = 4) (he : e.length = 12) :
    readHyphenated? (a ++ '-' :: b ++ '-' :: c ++ '-' :: d ++ '-' :: e)
      = readSimple? (a ++ b ++ c ++ d ++ e) := by
  rw [readHyphenated?]
  simp [List.drop_append, List.drop_of_length_le, List.getElem?_append, ha, hb,
    hc, hd, he]

/-- The digits of an identifier do not start like `urn:uuid:`. -/
theorem head?_encode_ne (bytes : List UInt8) : (Hex.encode bytes).head? ≠ some 'u' := by
  cases bytes with
  | nil => exact nofun
  | cons b bytes =>
      intro hhead
      have hb : b.toNat < 256 := b.toNat_lt
      have hdigit := Hex.digitValue?_digitChar (show b.toNat / 16 < 16 by omega)
      have hu : Nat.digitChar (b.toNat / 16) = 'u' := Option.some.inj hhead
      have hnone : Hex.digitValue? 'u' = none := by decide
      rw [hu, hnone] at hdigit
      exact absurd hdigit nofun

/-- An identifier is read from its text as it was. -/
theorem read?_text (u : Uuid) : read? u.text = some u := by
  have hhead := head?_encode_ne u.bytes
  obtain ⟨digits, hdigits⟩ : ∃ digits, Hex.encode u.bytes = digits := ⟨_, rfl⟩
  rw [hdigits] at hhead
  have hlength : digits.length = 32 := by
    rw [← hdigits, Hex.length_encode, u.length_bytes]
  have hsimple : readSimple? digits = some u := by
    rw [readSimple?, ← hdigits, Hex.decode_encode]
    exact dif_pos u.length_bytes
  have hsplit : ∀ n, (digits.drop n).take 4 ++ digits.drop (n + 4) = digits.drop n := by
    intro n
    rw [← List.drop_drop, List.take_append_drop]
  have hgroups : digits.take 8 ++ (digits.drop 8).take 4 ++ (digits.drop 12).take 4
      ++ (digits.drop 16).take 4 ++ digits.drop 20 = digits := by
    simp only [List.append_assoc]
    rw [hsplit 16, hsplit 12, hsplit 8, List.take_append_drop]
  have hread : readHyphenated? u.text = some u := by
    rw [text, hdigits, readHyphenated?_groups, hgroups, hsimple] <;> simp [hlength]
  have htext : u.text.length = 36 := by
    simp [text, hdigits, hlength]
  have hurn : ¬ ['u', 'r', 'n', ':', 'u', 'u', 'i', 'd', ':'].isPrefixOf u.text := by
    obtain ⟨c, cs, rfl⟩ := List.exists_cons_of_length_eq_add_one hlength
    have hc : 'u' ≠ c := by
      rintro rfl
      exact hhead rfl
    simp [text, hdigits, List.isPrefixOf, hc]
  rw [read?, if_neg (by omega), if_neg (by omega), if_neg hurn, hread]

end Uuid

/-! ## Fields -/

/-- A value other than a date-time with a leap second in the middle of a minute. -/
def Value.Regular : Value → Prop
  | dateTime d => d.Regular
  | _ => True

namespace FieldType

/-- The values that a field of the type can have.  A real that is not a number is none of them: the
database does not keep it. -/
def Holds : FieldType → Value → Prop
  | int t, .integer n => t.holds n.toInt
  | real, .real x => x.isNaN = false
  | bool, .bool _ => True
  | text, .text _ => True
  | char, .char _ => True
  | dateTime, .dateTime _ => True
  | uuid, .uuid _ => True
  | bytes, .blob _ => True
  | optional t, v => v = .null ∨ t.Holds v
  | _, _ => False

/-- Nothing is read into a field from nothing. -/
theorem convert?_null {t : FieldType} {v : Value} (h : t.convert? .null = some v) : v = .null := by
  cases t <;> simp [convert?, Value.toInt?, Value.toReal?, Value.toBool?, Value.toText?,
    Value.toChar?, Value.toDateTime?, Value.toUuid?, Value.toBytes?] at h <;> exact h.symm

/-- Nothing is the one value that an optional field has besides those of its type. -/
theorem convert?_optional_iff {t : FieldType} {v w : Value} :
    (optional t).convert? w = some v ↔ t.convert? w = some v ∨ w = .null ∧ v = .null := by
  cases w with
  | null =>
      have hnull : (optional t).convert? .null = some .null := rfl
      rw [hnull, Option.some_inj, eq_comm, and_iff_right rfl]
      exact (or_iff_right_of_imp convert?_null).symm
  | _ => exact (or_iff_left nofun).symm

/-- What a field can have is found again in its stored form, but for a date-time that is not regular:
its text is another one's. -/
theorem convert?_stored_iff {t : FieldType} {v : Value} (h : t.Holds v) :
    t.convert? v.stored = some v ↔ v.Regular := by
  induction t with
  | int t =>
      cases v with
      | integer n =>
          have hholds : t.holds n.toInt = true := h
          refine iff_of_true ?_ trivial
          show ((some n.toInt).filter t.holds).map (fun k => Value.integer (.ofInt k)) = _
          rw [Option.filter_some, if_pos hholds, Option.map_some, Int64.ofInt_toInt]
      | _ => exact absurd h id
  | real =>
      cases v with
      | real x =>
          have hnumber : x.isNaN = false := h
          have hstored : (Value.real x).stored = .real x := by
            simp [Value.stored, Value.toStorage, StorageValue.kept, hnumber, StorageValue.toValue]
          rw [hstored]
          exact iff_of_true rfl trivial
      | _ => exact absurd h id
  | bool =>
      cases v with
      | bool b => cases b <;> exact iff_of_true rfl trivial
      | _ => exact absurd h id
  | text =>
      cases v with
      | text s => exact iff_of_true rfl trivial
      | _ => exact absurd h id
  | char =>
      cases v with
      | char c =>
          have hstored : (Value.char c).stored = .text (String.singleton c) := rfl
          refine iff_of_true ?_ trivial
          rw [hstored]
          simp [convert?, Value.toChar?]
      | _ => exact absurd h id
  | dateTime =>
      cases v with
      | dateTime d =>
          show (DateTime.readStored? (String.ofList (d.text ' ')).toList).map Value.dateTime = _ ↔ _
          rw [String.toList_ofList, DateTime.readStored?_text, Option.map_some, Option.some_inj,
            Value.dateTime.injEq]
          exact DateTime.shown_eq_self_iff
      | _ => exact absurd h id
  | uuid =>
      cases v with
      | uuid u =>
          refine iff_of_true ?_ trivial
          show (Uuid.read? (String.ofList u.text).toList).map Value.uuid = _
          rw [String.toList_ofList, Uuid.read?_text]
          rfl
      | _ => exact absurd h id
  | bytes =>
      cases v with
      | blob bytes => exact iff_of_true rfl trivial
      | _ => exact absurd h id
  | single | any => exact absurd h id
  | optional t ih =>
      rcases h with rfl | h
      · exact iff_of_true rfl trivial
      · rw [convert?_optional_iff, ih h]
        refine or_iff_left_of_imp ?_
        rintro ⟨-, rfl⟩
        trivial

end FieldType

namespace Value

/-- **Which fields survive storage.**  A value that a field can have is bound to a statement, kept by
the database and read into the field again.  It is the value that it was, unless it is a date-time
with a leap second in the middle of a minute; in particular every other date-time is read from its
text, whatever its year and its fraction are, and in a leap second at the end of a minute too.  A leap
second in the middle of a minute is read as the second after it. -/
theorem read_stored :
    (∀ (t : FieldType) (v : Value), t.Holds v → (v.stored.read t = .ok v ↔ v.Regular))
      ∧ ∀ d : DateTime, DateTime.readStored? (dateTime d).display.toList = some d.shown
        ∧ (d.shown = d ↔ d.Regular) := by
  refine ⟨fun t v h => ?_, fun d => ⟨?_, DateTime.shown_eq_self_iff⟩⟩
  · rw [← FieldType.convert?_stored_iff h, read]
    cases t.convert? v.stored <;> simp
  · rw [display, String.toList_ofList, DateTime.readStored?_text]

/-- A leap second in a year of six digits is stored as text. -/
theorem read_stored_leapSecond :
    let leap : DateTime := ⟨-262143, 2, 28, 23, 59, 59, 1234567000, by decide, by decide⟩
    let t := FieldType.optional .dateTime
    t.Holds (.dateTime leap) ∧ leap.Regular
      ∧ (dateTime leap).stored = .text "-262143-02-28 23:59:60.234567"
      ∧ (dateTime leap).stored.read t = .ok (.dateTime leap) := by
  intro leap t
  have h : t.Holds (.dateTime leap) := .inr trivial
  have hregular : leap.Regular := fun _ => rfl
  exact ⟨h, hregular, by decide +kernel, (read_stored.1 t _ h).mpr hregular⟩

/-- A leap second in the middle of a minute has the text of the second after it. -/
theorem read_stored_midMinute :
    let leap : DateTime := ⟨2024, 3, 1, 12, 30, 30, 1500000000, by decide, by decide⟩
    FieldType.dateTime.Holds (.dateTime leap)
      ∧ (dateTime leap).stored = .text "2024-03-01 12:30:31.500"
      ∧ (dateTime leap).stored.read .dateTime
        = .ok (.dateTime ⟨2024, 3, 1, 12, 30, 31, 500000000, by decide, by decide⟩)
      ∧ (dateTime leap).stored.read .dateTime ≠ .ok (.dateTime leap) := by
  intro leap
  have hstored : (dateTime leap).stored = .text "2024-03-01 12:30:31.500" := by decide +kernel
  have hread : (dateTime leap).stored.read .dateTime
      = .ok (.dateTime ⟨2024, 3, 1, 12, 30, 31, 500000000, by decide, by decide⟩) := by
    rw [hstored]
    rfl
  refine ⟨trivial, hstored, hread, fun hkept => ?_⟩
  rw [hread, Except.ok.injEq, dateTime.injEq] at hkept
  exact absurd hkept (by decide)

end Value

end SqlRecords
