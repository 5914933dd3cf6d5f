/-!
# Text of bytes

Bytes that should be UTF-8 are shown as text even where they are not: each longest run of bytes
that could still begin a character, but does not complete one, becomes one replacement
character.

* `Utf8.step` — the first character of a row of bytes, and what follows it.
* `Utf8.decodeLossy` — the whole row.
* `Utf8.encode` — the bytes of a text.
-/

namespace SqlRecords.Utf8

/-- What stands for bytes that are no character. -/
def replacement : Char := '\uFFFD'

/-- A byte that continues a character: `10xxxxxx`. -/
def isTail (b : UInt8) : Bool := 0x80 ≤ b && b ≤ 0xBF

/-- The second bytes that may follow the lead byte of a character of three bytes. The narrow
ranges keep out longer forms of small code points and the surrogates. -/
def isSecondOfThree (lead b : UInt8) : Bool :=
  if lead = 0xE0 then 0xA0 ≤ b && b ≤ 0xBF
  else if lead = 0xED then 0x80 ≤ b && b ≤ 0x9F
  else 0xE1 ≤ lead && lead ≤ 0xEF && isTail b

/-- The second bytes that may follow the lead byte of a character of four bytes. The narrow
ranges keep out longer forms of small code points and those above the last one. -/
def isSecondOfFour (lead b : UInt8) : Bool :=
  if lead = 0xF0 then 0x90 ≤ b && b ≤ 0xBF
  else if lead = 0xF4 then 0x80 ≤ b && b ≤ 0x8F
  else 0xF1 ≤ lead && lead ≤ 0xF3 && isTail b

/-- The six low bits, which a continuing byte contributes. -/
def tailBits (b : UInt8) : Nat := b.toNat % 64

/-- The character of three bytes. -/
def joinThree (a b c : UInt8) : Char :=
  Char.ofNat ((a.toNat % 16 * 64 + tailBits b) * 64 + tailBits c)

/-- The character of four bytes. -/
def joinFour (a b c d : UInt8) : Char :=
  Char.ofNat (((a.toNat % 8 * 64 + tailBits b) * 64 + tailBits c) * 64 + tailBits d)

/-- The first character of the bytes `a :: rest`, and the bytes after it. -/
def step (a : UInt8) (rest : List UInt8) : Char × List UInt8 :=
  if a < 0x80 then (Char.ofNat a.toNat, rest)
  else if 0xC2 ≤ a ∧ a ≤ 0xDF then
    match rest with
    | b :: rest' =>
      if isTail b then (Char.ofNat (a.toNat % 32 * 64 + tailBits b), rest') else (replacement, rest)
    | [] => (replacement, rest)
  else if 0xE0 ≤ a ∧ a ≤ 0xEF then
    match rest with
    | b :: rest' =>
      if isSecondOfThree a b then
        match rest' with
        | c :: rest'' => if isTail c then (joinThree a b c, rest'') else (replacement, rest')
        | [] => (replacement, rest')
      else (replacement, rest)
    | [] => (replacement, rest)
  else if 0xF0 ≤ a ∧ a ≤ 0xF4 then
    match rest with
    | b :: rest' =>
      if isSecondOfFour a b then
        match rest' with
        | c :: rest'' =>
          if isTail c then
            match rest'' with
            | d :: rest''' => if isTail d then (joinFour a b c d, rest''') else (replacement, rest'')
            | [] => (replacement, rest'')
          else (replacement, rest')
        | [] => (replacement, rest')
      else (replacement, rest)
    | [] => (replacement, rest)
  else (replacement, rest)

/-- A character takes at least one byte. -/
theorem length_step_le (a : UInt8) (rest : List UInt8) :
    (step a rest).2.length ≤ rest.length := by
  unfold step
  repeat' split
  all_goals simp_all
  all_goals omega

/-- The text of the bytes, with replacement characters where they are not UTF-8. -/
def decodeLossy : List UInt8 → List Char
  | [] => []
  | a :: rest => (step a rest).1 :: decodeLossy (step a rest).2
termination_by bytes => bytes.length
decreasing_by exact Nat.lt_succ_of_le (length_step_le a rest)

/-- The bytes of a text. -/
def encode (s : String) : List UInt8 :=
  s.toUTF8.toList

example : decodeLossy [0x68, 0x69] = ['h', 'i'] := by cbv

/-- Three bytes of a character of four are one unfinished character. -/
example : decodeLossy [0xF0, 0x9F, 0x92, 0x41] = [replacement, 'A'] := by cbv

/-- A lead byte for surrogates rules out the byte after it, so both stand alone. -/
example : decodeLossy [0xED, 0xA0] = [replacement, replacement] := by cbv

end SqlRecords.Utf8
