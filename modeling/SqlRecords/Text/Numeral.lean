import SqlRecords.Text.Blank

/-!
# Decimal numerals

How whole numbers are written and read.

* `Numeral.ofNat`, `Numeral.ofInt` — the shortest decimal form, a minus sign in front of a
  negative number.
* `Numeral.padded` — a fixed least width, filled with zeros in front.
* `Numeral.readNat?`, `Numeral.readInt?` — ASCII digits only, at least one; a signed numeral may
  start with `+` or `-`. Leading zeros are read, underscores are not.

`readInt?_ofInt` says that what is written reads back.
-/

namespace SqlRecords.Numeral

/-- The decimal digits of a natural number. -/
def ofNat (n : Nat) : List Char :=
  Nat.toDigits 10 n

/-- The decimal form of an integer. -/
def ofInt : Int → List Char
  | .ofNat n => ofNat n
  | .negSucc n => '-' :: ofNat (n + 1)

/-- The digits of `n`, with zeros in front up to `width` characters. -/
def padded (width n : Nat) : List Char :=
  List.replicate (width - (ofNat n).length) '0' ++ ofNat n

/-- The decimal form of a natural number, as a text. -/
def natText (n : Nat) : String :=
  String.ofList (ofNat n)

/-- The decimal form of an integer, as a text. -/
def intText (n : Int) : String :=
  String.ofList (ofInt n)

/-- The number that a row of digits denotes. -/
def value (cs : List Char) : Nat :=
  Nat.ofDigitChars 10 cs 0

/-- Reads a row of ASCII digits, at least one. -/
def readNat? (cs : List Char) : Option Nat :=
  if cs ≠ [] ∧ cs.all Char.isDigit then some (value cs) else none

/-- Reads a row of ASCII digits with at most one sign in front. -/
def readInt? : List Char → Option Int
  | '-' :: cs => (readNat? cs).map fun n => -(n : Int)
  | '+' :: cs => (readNat? cs).map fun n => (n : Int)
  | cs => (readNat? cs).map fun n => (n : Int)

theorem ofNat_ne_nil (n : Nat) : ofNat n ≠ [] := by
  rw [ofNat, Nat.toDigits_eq_if (by decide)]
  split <;> simp

theorem isDigit_of_mem_ofNat {n : Nat} {c : Char} (h : c ∈ ofNat n) : c.isDigit = true :=
  Nat.isDigit_of_mem_toDigits (by decide) (by decide) h

theorem value_ofNat (n : Nat) : value (ofNat n) = n :=
  Nat.ofDigitChars_toDigits (by decide) (by decide)

@[simp] theorem readNat?_ofNat (n : Nat) : readNat? (ofNat n) = some n := by
  rw [readNat?, if_pos ⟨ofNat_ne_nil n, List.all_eq_true.mpr fun _ => isDigit_of_mem_ofNat⟩]
  exact congrArg some (value_ofNat n)

/-- A row of digits carries no sign. -/
theorem readInt?_of_head_isDigit {c : Char} (cs : List Char) (h : c.isDigit = true) :
    readInt? (c :: cs) = (readNat? (c :: cs)).map fun n => (n : Int) := by
  have hm : c ≠ '-' := by rintro rfl; exact absurd h (by decide)
  have hp : c ≠ '+' := by rintro rfl; exact absurd h (by decide)
  rw [readInt?]
  · intro cs' he
    exact hm (List.cons.inj he).1
  · intro cs' he
    exact hp (List.cons.inj he).1

/-- What is written reads back. -/
theorem readInt?_ofInt (i : Int) : readInt? (ofInt i) = some i := by
  cases i with
  | ofNat n =>
    obtain ⟨c, cs, hcs⟩ := List.exists_cons_of_ne_nil (ofNat_ne_nil n)
    have hc : c.isDigit = true := isDigit_of_mem_ofNat (n := n) (by rw [hcs]; exact List.mem_cons_self)
    rw [ofInt, hcs, readInt?_of_head_isDigit cs hc, ← hcs, readNat?_ofNat]
    rfl
  | negSucc n => simp [ofInt, readInt?, Int.negSucc_eq]

end SqlRecords.Numeral
