/-!
# Blank characters

Where the library says "blank" or "trim" it means the characters with the Unicode property
`White_Space`: 25 code points, more than the four that `Char.isWhitespace` knows.

* `Text.isBlank` — one character.
* `Text.trim` — a text without the blanks at its two ends; numbers are read after trimming.
* `Text.isBlankText` — a text of blanks only, which table names may not be and which a filter
  fragment may be instead of being absent.
-/

namespace SqlRecords.Text

/-- The code points with the property `White_Space`, both ends included. -/
def blankRanges : List (Nat × Nat) :=
  [(0x9, 0xD), (0x20, 0x20), (0x85, 0x85), (0xA0, 0xA0), (0x1680, 0x1680), (0x2000, 0x200A),
   (0x2028, 0x2029), (0x202F, 0x202F), (0x205F, 0x205F), (0x3000, 0x3000)]

/-- A character with the property `White_Space`. -/
def isBlank (c : Char) : Bool :=
  blankRanges.any fun r => r.1 ≤ c.toNat && c.toNat ≤ r.2

/-- Everything from the first character that is not blank. -/
def trimStart (cs : List Char) : List Char :=
  cs.dropWhile isBlank

/-- The text between the blanks at its two ends. -/
def trim (cs : List Char) : List Char :=
  (trimStart (trimStart cs).reverse).reverse

/-- A text without a character that is not blank. -/
def isBlankText (s : String) : Bool :=
  s.toList.all isBlank

/-- A text starting with a visible character has nothing to trim in front. -/
theorem trimStart_cons_of_not_isBlank {c : Char} (cs : List Char) (h : isBlank c = false) :
    trimStart (c :: cs) = c :: cs := by
  simp [trimStart, h]

theorem trimStart_eq_nil_iff {cs : List Char} : trimStart cs = [] ↔ ∀ c ∈ cs, isBlank c = true := by
  induction cs with
  | nil => simp [trimStart]
  | cons c cs ih =>
    cases hc : isBlank c with
    | true =>
      have hcs : trimStart (c :: cs) = trimStart cs := by simp [trimStart, hc]
      rw [hcs, ih, List.forall_mem_cons]
      exact ⟨fun h => ⟨hc, h⟩, fun h => h.2⟩
    | false => simp [trimStart, hc]

/-- What is left after the leading blanks is nothing, or holds a visible character. -/
theorem trimStart_eq_nil_of_forall {cs : List Char} (h : ∀ c ∈ trimStart cs, isBlank c = true) :
    trimStart cs = [] := by
  induction cs with
  | nil => rfl
  | cons c cs ih =>
    cases hc : isBlank c with
    | true =>
      have hcs : trimStart (c :: cs) = trimStart cs := by simp [trimStart, hc]
      rw [hcs] at h ⊢
      exact ih h
    | false =>
      rw [trimStart_cons_of_not_isBlank cs hc] at h
      simp [h c (List.mem_cons_self)] at hc

/-- Nothing is left of a text exactly when it holds blanks only. -/
theorem trim_eq_nil_iff {cs : List Char} : trim cs = [] ↔ ∀ c ∈ cs, isBlank c = true := by
  rw [trim, List.reverse_eq_nil_iff, trimStart_eq_nil_iff, ← @trimStart_eq_nil_iff cs]
  simp only [List.mem_reverse]
  exact ⟨trimStart_eq_nil_of_forall, fun h => by simp [h]⟩

end SqlRecords.Text
