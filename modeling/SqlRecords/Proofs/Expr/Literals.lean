import Mathlib.Data.List.TakeWhile
import Mathlib.Tactic.Push
import SqlRecords.Proofs.Expr.Texts

/-!
# Literals are single tokens

The literal of a value goes into the text of an expression as it is.  It is read as one token if it
has no sign and no quote of its own: a sign is an operator, and a quote ends the text around it.

* `Value.Plain` — the values with such literals.
* `Decimal.isNumeral_positional` — a positive number is written as digits with at most one point.
* **`Value.isTextOf_literal`** — the literal of a plain value is read as that literal.
-/

namespace SqlRecords

open Token

/-! ## Numbers -/

/-- Only zero has no units. -/
theorem BinaryFormat.scaled_ne_zero {f : BinaryFormat} {m : Nat} (h : m ≠ 0) : f.scaled m ≠ 0 := by
  have hdiv := Nat.div_add_mod m (Nat.pow 2 f.fractionBits)
  have hpos : ∀ n, 0 < Nat.pow 2 n := fun _ => Nat.pow_pos (by decide)
  rw [scaled]
  split
  · rename_i hzero
    rw [hzero, Nat.mul_zero, Nat.zero_add] at hdiv
    rwa [hdiv]
  · exact Nat.mul_ne_zero (Nat.ne_of_gt (Nat.add_pos_left (hpos _) _)) (Nat.ne_of_gt (hpos _))

theorem isNumeral_ofNat (n : Nat) : IsNumeral (Numeral.ofNat n) :=
  ⟨_, [], (List.append_nil _).symm, Numeral.ofNat_ne_nil n, fun _ => Numeral.isDigit_of_mem_ofNat,
    .inl rfl⟩

namespace Decimal

/-- A positive number has a digit other than zero. -/
theorem exists_mem_ofNat_ne_zero {n : Nat} (h : n ≠ 0) : ∃ c ∈ Numeral.ofNat n, c ≠ '0' := by
  by_contra hzeros
  push Not at hzeros
  have hvalue := Numeral.value_ofNat n
  rw [List.eq_replicate_of_mem hzeros, Numeral.value, Nat.ofDigitChars_replicate_zero,
    Nat.mul_zero] at hvalue
  exact h hvalue.symm

theorem mem_of_mem_dropTrailingZeros {c : Char} {ds : List Char} (h : c ∈ dropTrailingZeros ds) :
    c ∈ ds := by
  rw [dropTrailingZeros, List.mem_reverse] at h
  exact List.mem_reverse.mp ((List.dropWhile_sublist _).mem h)

/-- Such a digit is left when zeros are taken off the end. -/
theorem dropTrailingZeros_ne_nil {ds : List Char} (h : ∃ c ∈ ds, c ≠ '0') :
    dropTrailingZeros ds ≠ [] := by
  obtain ⟨c, hc, hne⟩ := h
  simp only [dropTrailingZeros, ne_eq, List.reverse_eq_nil_iff, List.dropWhile_eq_nil_iff,
    List.mem_reverse, decide_eq_true_eq]
  exact fun hall => hne (hall c hc)

/-- A positive number is written as digits, and perhaps a point and digits after it. -/
theorem isNumeral_positional {d : Decimal} (h : d.coefficient ≠ 0) : IsNumeral d.positional := by
  rw [positional]
  obtain ⟨digits, hdigits⟩ :
      ∃ digits, dropTrailingZeros (Numeral.ofNat d.coefficient) = digits := ⟨_, rfl⟩
  have hne : digits ≠ [] := hdigits ▸ dropTrailingZeros_ne_nil (exists_mem_ofNat_ne_zero h)
  have hall : ∀ c ∈ digits, c.isDigit = true := fun c hc =>
    Numeral.isDigit_of_mem_ofNat (mem_of_mem_dropTrailingZeros (hdigits ▸ hc))
  have hzeros : ∀ n, ∀ c ∈ List.replicate n '0', c.isDigit = true := fun n c hc => by
    rw [List.eq_of_mem_replicate hc]
    rfl
  simp only [hdigits]
  split
  · refine ⟨_, [], (List.append_nil _).symm, by simp [hne], ?_, .inl rfl⟩
    exact List.forall_mem_append.mpr ⟨hall, hzeros _⟩
  · split
    · refine ⟨_, _, rfl, ?_, fun c hc => hall c (List.mem_of_mem_take hc), .inr ⟨_, rfl, ?_⟩⟩
      · rw [ne_eq, List.take_eq_nil_iff, not_or]
        exact ⟨by omega, hne⟩
      · exact fun c hc => hall c (List.mem_of_mem_drop hc)
    · refine ⟨['0'], _, rfl, by simp, by simp, .inr ⟨_, rfl, ?_⟩⟩
      exact List.forall_mem_append.mpr ⟨hzeros _, hall⟩

theorem coefficient_ne_zero_of_magnitude {d : Decimal} (h : d.magnitude ≠ 0) :
    d.coefficient ≠ 0 := by
  intro hzero
  rw [magnitude, if_pos (.inl hzero)] at h
  exact h rfl

/-- A candidate for the shortest digits stands for the real that it was made for. -/
theorem magnitude_of_neighbour? {m places : Nat} {d : Decimal}
    (h : neighbour? m places = some d) : d.magnitude = m := by
  simp only [neighbour?] at h
  split at h
  · rename_i hlow
    split at h
    · rename_i hhigh
      exact Option.some.inj h ▸ hhigh.1
    · exact Option.some.inj h ▸ hlow
  · split at h
    · rename_i hhigh
      exact Option.some.inj h ▸ hhigh
    · exact absurd h nofun

/-- The shortest digits of a positive real are not all zero. -/
theorem coefficient_shortest_ne_zero {m : Nat} (h : m ≠ 0) : (shortest m).coefficient ≠ 0 := by
  rw [shortest]
  cases hfound : (List.range 17).findSome? fun k => neighbour? m (k + 1) with
  | some d =>
      obtain ⟨k, -, hk⟩ := List.exists_of_findSome?_eq_some hfound
      refine coefficient_ne_zero_of_magnitude ?_
      rw [Option.getD_some, magnitude_of_neighbour? hk]
      exact h
  | none =>
      have hpos : ∀ n, 0 < Nat.pow 5 n := fun _ => Nat.pow_pos (by decide)
      rw [Option.getD_none, exact]
      exact Nat.mul_ne_zero (BinaryFormat.scaled_ne_zero h) (Nat.ne_of_gt (hpos _))

end Decimal

/-- A finite real without a sign is written as a numeral. -/
theorem Binary64.isNumeral_text {x : Binary64} (hfinite : x.isFinite = true)
    (hsign : x.negative = false) : IsNumeral x.text := by
  have hnan : x.isNaN = false := by
    rw [isFinite, decide_eq_true_eq] at hfinite
    rw [isNaN, decide_eq_false_iff_not]
    exact Nat.lt_asymm hfinite
  simp only [text, hnan, hsign, hfinite, Bool.false_eq_true, if_false, if_true, List.nil_append]
  split
  · exact isNumeral_ofNat 0
  · rename_i hzero
    exact Decimal.isNumeral_positional (Decimal.coefficient_shortest_ne_zero hzero)

/-! ## Values -/

namespace Phrase

theorem isTextOf_numeral {cs : List Char} (h : IsNumeral cs) :
    IsTextOf 0 cs (literal (String.ofList cs)) := by
  refine ⟨_, spells_numeral h, ?_, reads_literal _⟩
  obtain ⟨whole, places, rfl, hne, hwhole, -⟩ := h
  obtain ⟨c, whole, rfl⟩ := List.exists_cons_of_ne_nil hne
  have hdigit : c.isDigit = true := hwhole c List.mem_cons_self
  refine operand_cons ?_ (whole ++ places)
  rw [isNamePart, hdigit, Bool.or_true, Bool.true_or]

/-- A text in quotes is a literal if it holds no quote. -/
theorem isTextOf_quoted {body : List Char} (h : '\'' ∉ body) :
    IsTextOf 0 ('\'' :: body ++ ['\'']) (literal ("'" ++ String.ofList body ++ "'")) :=
  ⟨_, spells_quoted h, ⟨'\'', _, rfl, by decide⟩, reads_literal _⟩

theorem isTextOf_blob {body : List Char} (h : '\'' ∉ body) :
    IsTextOf 0 ('X' :: '\'' :: body ++ ['\'']) (literal ("X'" ++ String.ofList body ++ "'")) :=
  ⟨_, spells_blob h, ⟨'X', _, rfl, by decide⟩, reads_literal _⟩

theorem isTextOf_null :
    IsTextOf 0 Value.nullLiteral.toList (literal Value.nullLiteral) := by
  have hspells : Spells Delimited Value.nullLiteral.toList [ofWord Value.nullLiteral] :=
    spells_word (by decide)
  have hnull : ofWord Value.nullLiteral = null := by decide
  rw [hnull] at hspells
  exact ⟨_, hspells, ⟨'n', _, rfl, by decide⟩, reads_null⟩

end Phrase

/-- The digits of a blob hold no quote, so a blob is always a literal. -/
theorem Hex.quote_not_mem_encodeUpper (bytes : List UInt8) : '\'' ∉ encodeUpper bytes := by
  have htable : ∀ k ∈ List.range 16, (Nat.digitChar k).toUpper ≠ '\'' := by decide
  rw [encodeUpper, List.mem_map]
  rintro ⟨c, hc, hquote⟩
  obtain ⟨k, hk, rfl⟩ := exists_of_mem_encode hc
  exact htable k hk hquote

namespace Value

/-- A value whose literal has neither a sign nor a quote inside. -/
def Plain : Value → Prop
  | integer n => 0 ≤ n.toInt
  | real x => x.isFinite = true → x.negative = false
  | text s => '\'' ∉ (text s).display.toList
  | char c => '\'' ∉ (char c).display.toList
  | dateTime t => '\'' ∉ (dateTime t).display.toList
  | uuid u => '\'' ∉ (uuid u).display.toList
  | null | bool _ | blob _ => True

instance : DecidablePred Plain
  | integer n => inferInstanceAs (Decidable (0 ≤ n.toInt))
  | real x => inferInstanceAs (Decidable (x.isFinite = true → x.negative = false))
  | text s => inferInstanceAs (Decidable ('\'' ∉ (text s).display.toList))
  | char c => inferInstanceAs (Decidable ('\'' ∉ (char c).display.toList))
  | dateTime t => inferInstanceAs (Decidable ('\'' ∉ (dateTime t).display.toList))
  | uuid u => inferInstanceAs (Decidable ('\'' ∉ (uuid u).display.toList))
  | null | bool _ | blob _ => .isTrue trivial

open Phrase in
/-- **The literal of a plain value is read as that literal.** -/
theorem isTextOf_literal {v : Value} (h : v.Plain) :
    IsTextOf 0 v.literal.toList (.literal v.literal) := by
  have hquoted : ∀ s : String, '\'' ∉ s.toList →
      IsTextOf 0 ("'" ++ s ++ "'").toList (.literal ("'" ++ s ++ "'")) := by
    intro s hs
    have htext := isTextOf_quoted hs
    rw [String.ofList_toList] at htext
    rw [String.toList_append, String.toList_append]
    exact htext
  cases v with
  | null => exact isTextOf_null
  | bool b =>
      have hzero : IsNumeral ['0'] := isNumeral_ofNat 0
      have hone : IsNumeral ['1'] := isNumeral_ofNat 1
      cases b with
      | false => exact isTextOf_numeral hzero
      | true => exact isTextOf_numeral hone
  | integer n =>
      obtain ⟨m, hm⟩ := Int.eq_ofNat_of_zero_le h
      have htext := isTextOf_numeral (isNumeral_ofNat m)
      rw [literal, hm, Numeral.intText, String.toList_ofList]
      exact htext
  | real x =>
      rw [literal]
      split
      · rename_i hfinite
        rw [String.toList_ofList]
        exact isTextOf_numeral (Binary64.isNumeral_text hfinite (h hfinite))
      · exact isTextOf_null
  | text s => exact hquoted _ h
  | char c => exact hquoted _ h
  | dateTime t => exact hquoted _ h
  | uuid u => exact hquoted _ h
  | blob bytes =>
      have htext := isTextOf_blob (Hex.quote_not_mem_encodeUpper bytes)
      rw [literal, String.toList_append, String.toList_append, String.toList_ofList,
        String.toList_ofList]
      exact htext

end Value

end SqlRecords
