/-!
# Names

Property, key and column names are compared without regard to the case of ASCII letters; every
other character counts as it stands, so `É` and `é` are two names.

* `Text.foldCase` — the form of a name that decides.
* `Text.sameName` — the comparison, an equivalence.
-/

namespace SqlRecords.Text

/-- A name with its ASCII capitals made small. -/
def foldCase (name : String) : List Char :=
  name.toList.map Char.toLower

/-- Two names that differ at most in the case of ASCII letters. -/
def sameName (a b : String) : Bool :=
  foldCase a == foldCase b

@[simp] theorem sameName_iff {a b : String} : sameName a b = true ↔ foldCase a = foldCase b := by
  simp [sameName]

theorem sameName_refl (a : String) : sameName a a = true := by
  simp

theorem sameName_of_eq {a b : String} (h : a = b) : sameName a b = true := by
  rw [h, sameName_refl]

theorem sameName_comm (a b : String) : sameName a b = sameName b a := by
  rw [Bool.eq_iff_iff, sameName_iff, sameName_iff]
  exact eq_comm

theorem sameName_trans {a b c : String} (h : sameName a b = true) (h' : sameName b c = true) :
    sameName a c = true := by
  simp only [sameName_iff] at *
  exact h.trans h'

end SqlRecords.Text
