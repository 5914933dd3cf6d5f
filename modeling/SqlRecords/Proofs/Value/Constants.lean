import SqlRecords.Embedded.Storage
import SqlRecords.Proofs.Calendar.RoundTrip
import SqlRecords.Proofs.Real.RoundTrip
import SqlRecords.Value.FieldType

/-!
# Constants read back

The literal of a value is a constant of SQL, and a database makes a stored value of it: a numeral
without a point is an integer if it fits into 64 bits, whatever it was written for, and any other
numeral is a real.  So a whole real comes back as an integer.

* `StorageValue.number?` — the number that a stored value is, exactly.
* `StorageValue.Same` — no comparison of a database tells the two values apart.
* `StorageValue.ofTokens?` — the stored value of a constant.
* `Value.LiteralForm` — the forms of literals, each with what is bound for the value.
* `Value.Exact` — the reals whose digits are exact: not those between 2⁵³ and 2⁶⁴.
* **`Value.exists_constant`** — the literal of a value is a constant for the value that is bound, up
  to what no comparison tells apart.
-/

namespace SqlRecords

theorem IntType.holds_int64_iff {n : Int} :
    int64.holds n = true ↔ -2 ^ 63 ≤ n ∧ n < 2 ^ 63 := by
  rw [holds, Bool.and_eq_true, decide_eq_true_eq, decide_eq_true_eq]
  exact and_congr_right fun _ => Int.le_sub_one_iff

open Token

namespace StorageValue

/-! ## Numbers -/

/-- The number that a value is, in the units of the reals. -/
def number? : StorageValue → Option Int
  | integer n => some (n.toInt * Binary64.one)
  | real x =>
    if x.isFinite then some (if x.negative then -(x.units : Int) else x.units) else none
  | null | text _ | blob _ => none

/-- The values are the same, or the same number in two forms. -/
def Same (v w : StorageValue) : Prop := v = w ∨ ∃ n, v.number? = some n ∧ w.number? = some n

/-! ## Constants -/

/-- The text between quotes, where two quotes in a row stand for one. -/
def unquoted : List Char → List Char
  | '\'' :: '\'' :: rest => '\'' :: unquoted rest
  | c :: rest => c :: unquoted rest
  | [] => []

/-- A numeral with its sign. -/
def readNumeral? (negative : Bool) (cs : List Char) : Option StorageValue :=
  let n : Int := if negative then -Numeral.value cs else Numeral.value cs
  if cs.all Char.isDigit ∧ IntType.int64.holds n then some (integer (.ofInt n))
  else (Decimal.read? cs).map fun d => real (.ofMagnitude negative d.magnitude)

/-- A literal, without a sign. -/
def readLiteral? : List Char → Option StorageValue
  | '\'' :: rest => some (text (String.ofList (unquoted rest.dropLast)))
  | 'X' :: '\'' :: rest => (Hex.decode rest.dropLast).map blob
  | cs => readNumeral? false cs

/-- A constant: the word for nothing, a literal, or a numeral with a minus sign. -/
def ofTokens? : List Token → Option StorageValue
  | [.null] => some null
  | [.literal sql] => readLiteral? sql.toList
  | [.operator .subtract, .literal sql] => readNumeral? true sql.toList
  | _ => none

/-- A whole real is an integer when it is read, and digits may have come off. -/
example : ofTokens? [.literal "36028797018963970"] = some (integer 36028797018963970)
    ∧ Value.literal (.real ⟨0x4360000000000000⟩) = "36028797018963970" := by decide +kernel

/-- Without quotes inside, a text stands between its quotes as it is. -/
theorem unquoted_eq {cs : List Char} (h : '\'' ∉ cs) : unquoted cs = cs := by
  induction cs with
  | nil => rfl
  | cons c cs ih =>
      rw [List.mem_cons, not_or] at h
      rw [unquoted, ih h.2]
      exact fun rest hc => absurd hc.symm h.1

/-- A whole number of 64 bits comes back as itself. -/
theorem readNumeral?_ofNat {negative : Bool} {k : Nat} {n : Int64}
    (h : (if negative then -(k : Int) else k) = n.toInt) :
    readNumeral? negative (Numeral.ofNat k) = some (integer n) := by
  have hall : (Numeral.ofNat k).all Char.isDigit = true :=
    List.all_eq_true.mpr fun _ => Numeral.isDigit_of_mem_ofNat
  rw [readNumeral?, Numeral.value_ofNat]
  simp only [h]
  rw [if_pos ⟨hall, IntType.holds_toInt n⟩, Int64.ofInt_toInt]

end StorageValue

/-! ## Reals -/

namespace Binary64

/-- A real is made of its sign and its magnitude. -/
theorem ofMagnitude_magnitude (x : Binary64) : ofMagnitude x.negative x.magnitude = x := by
  have hbits : x.bits.toNat < 2 ^ 64 := x.bits.toNat_lt
  have hsum : (if x.negative then Nat.pow 2 63 else 0) + x.magnitude % Nat.pow 2 63
      = x.bits.toNat := by
    simp only [negative, magnitude, Nat.pow_eq, decide_eq_true_eq]
    split <;> omega
  rw [ofMagnitude, hsum, UInt64.ofNat_toNat]

/-- The digits of a real, without its sign. -/
def digits (x : Binary64) : List Char :=
  if x.magnitude = 0 then ['0'] else (Decimal.shortest x.magnitude).positional

theorem text_eq {x : Binary64} (h : x.isFinite = true) :
    x.text = (if x.negative then ['-'] else []) ++ x.digits := by
  have hnan : x.isNaN = false := by
    rw [isFinite, decide_eq_true_eq] at h
    rw [isNaN, decide_eq_false_iff_not]
    exact Nat.lt_asymm h
  simp only [text, hnan, h, Bool.false_eq_true, if_false, if_true]
  rfl

/-- The digits of the real are its number. -/
def Exact (x : Binary64) : Prop := x.units < 2 ^ 53 * one ∨ 2 ^ 64 * one < x.units

instance (x : Binary64) : Decidable x.Exact := inferInstanceAs (Decidable (_ ∨ _))

/-- The digits of a real without its sign are read as a decimal of its magnitude; if they have no
point, it is the whole number that they are. -/
theorem exists_read?_digits {x : Binary64} (hfinite : x.isFinite = true) :
    ∃ d, Decimal.read? x.digits = some d ∧ d.magnitude = x.magnitude
      ∧ (x.digits.all Char.isDigit = true → d = ⟨Numeral.value x.digits, 0⟩) := by
  rw [digits]
  split
  · rename_i hzero
    refine ⟨⟨0, 0⟩, Decimal.read?_whole (by simp) (by simp), ?_, fun _ => rfl⟩
    rw [hzero, Decimal.magnitude, if_pos (.inl rfl)]
  · rename_i hzero
    rw [isFinite, decide_eq_true_eq] at hfinite
    have hread := Decimal.exists_read?_positional (Decimal.coefficient_shortest_ne_zero hzero)
    rwa [Decimal.magnitude_shortest hzero hfinite] at hread

/-- The digits of a finite real are read back, as the real or as an integer, and as the same number
if they are exact. -/
theorem exists_readNumeral? {x : Binary64} (hfinite : x.isFinite = true) :
    ∃ w, StorageValue.readNumeral? x.negative x.digits = some w ∧ w ≠ .null
      ∧ (x.Exact → w.Same (.real x)) := by
  have hnumber : (StorageValue.real x).number?
      = some (if x.negative then -(x.units : Int) else x.units) := if_pos hfinite
  obtain ⟨d, hread, hmagnitude, hwhole⟩ := exists_read?_digits hfinite
  rw [StorageValue.readNumeral?, hread]
  obtain ⟨k, hk⟩ : ∃ k, Numeral.value x.digits = k := ⟨_, rfl⟩
  obtain ⟨n, hn⟩ : ∃ n : Int, (if x.negative then -(k : Int) else k) = n := ⟨_, rfl⟩
  simp only [hk, hn]
  split
  · rename_i hfits
    have hholds := IntType.holds_int64_iff.mp hfits.2
    rw [hwhole hfits.1, hk] at hmagnitude
    refine ⟨_, rfl, by simp, fun hexact => .inr ⟨_, ?_, hnumber⟩⟩
    rw [Exact, units, ← hmagnitude] at hexact
    rcases hexact with hsmall | hlarge
    · rw [StorageValue.number?, IntType.toInt_ofInt hfits.2, units, ← hmagnitude,
        Decimal.units_of_lt hsmall, ← hn, Int.natCast_mul]
      split <;> simp only [Int.neg_mul]
    · have hmany := Decimal.le_of_units hlarge
      split at hn <;> omega
  · refine ⟨.real x, ?_, by simp, fun _ => .inl rfl⟩
    rw [Option.map_some, hmagnitude, ofMagnitude_magnitude]

theorem isNumeral_digits {x : Binary64} : IsNumeral x.digits := by
  rw [digits]
  split
  · exact isNumeral_ofNat 0
  · rename_i hzero
    exact Decimal.isNumeral_positional (Decimal.coefficient_shortest_ne_zero hzero)

end Binary64

/-! ## Texts without quotes -/

/-- A blob can be read back from its digits in capitals. -/
theorem Hex.decode_encodeUpper (bytes : List UInt8) : decode (encodeUpper bytes) = some bytes := by
  have table : ∀ k ∈ List.range 16, digitValue? (Nat.digitChar k).toUpper = some k := by decide
  have hdigit : ∀ k < 16, digitValue? (Nat.digitChar k).toUpper = some k := fun k hk =>
    table k (List.mem_range.mpr hk)
  induction bytes with
  | nil => rfl
  | cons b bytes ih =>
      have hb : b.toNat < 256 := b.toNat_lt
      have hwhole : 16 * (b.toNat / 16) + b.toNat % 16 = b.toNat := Nat.div_add_mod _ _
      rw [encodeUpper] at ih
      rw [encodeUpper, encode, List.flatMap_cons, List.map_append, ← encode]
      simp only [digits, List.map_cons, List.map_nil, List.cons_append, List.nil_append, decode,
        hdigit (b.toNat / 16) (by omega), hdigit (b.toNat % 16) (by omega), ih,
        Option.bind_eq_bind, Option.bind_some, Option.pure_def, hwhole, UInt8.ofNat_toNat]

theorem Hex.quote_not_mem_encode (bytes : List UInt8) : '\'' ∉ encode bytes := by
  have htable : ∀ k ∈ List.range 16, Nat.digitChar k ≠ '\'' := by decide
  intro hquote
  obtain ⟨k, hk, hc⟩ := exists_of_mem_encode hquote
  exact htable k hk hc

theorem Uuid.quote_not_mem_text (u : Uuid) : '\'' ∉ u.text := by
  have hdigits := Hex.quote_not_mem_encode u.bytes
  have hdrop : ∀ n, '\'' ∉ (Hex.encode u.bytes).drop n := fun n h =>
    hdigits (List.mem_of_mem_drop h)
  have htake : ∀ n {cs : List Char}, '\'' ∉ cs → '\'' ∉ cs.take n := fun n _ h hc =>
    h (List.mem_of_mem_take hc)
  simp [text, htake, hdrop, hdigits]

/-- A date-time is written with digits, hyphens, colons, a point and a blank. -/
theorem DateTime.quote_not_mem_text (t : DateTime) : '\'' ∉ t.text ' ' := by
  have hpadded : ∀ width n, '\'' ∉ Numeral.padded width n := fun width n h =>
    absurd (Numeral.isDigit_of_mem_padded h) (by decide)
  have hyear : '\'' ∉ Calendar.yearText t.year := by
    rw [Calendar.yearText]
    split
    · exact hpadded _ _
    · split <;> simp [hpadded]
  have hfraction : '\'' ∉ Calendar.fractionText t.shownNano := by
    rw [Calendar.fractionText]
    repeat' split
    all_goals simp [hpadded]
  simp [text, hyear, hfraction, hpadded]

/-! ## Values -/

namespace StorageValue

/-- The text is a constant, for the value. -/
def IsConstant (text : List Char) (w : StorageValue) : Prop :=
  ∃ ts, Spells Delimited text ts ∧ Token.operator .and ∉ ts ∧ ofTokens? ts = some w

theorem isConstant_null : IsConstant Value.nullLiteral.toList null := by
  have hspells : Spells Delimited Value.nullLiteral.toList [ofWord Value.nullLiteral] :=
    spells_word (by decide)
  have hnull : ofWord Value.nullLiteral = Token.null := by decide
  rw [hnull] at hspells
  exact ⟨_, hspells, by decide, rfl⟩

/-- A numeral is a constant, with a minus sign or without. -/
theorem isConstant_numeral {negative : Bool} {cs : List Char} {w : StorageValue} (h : IsNumeral cs)
    (hread : readNumeral? negative cs = some w) :
    IsConstant ((if negative then ['-'] else []) ++ cs) w := by
  have hspells := spells_numeral h
  obtain ⟨whole, places, rfl, hne, hwhole, -⟩ := h
  obtain ⟨c, whole, rfl⟩ := List.exists_cons_of_ne_nil hne
  have hdigit : c.isDigit = true := hwhole c List.mem_cons_self
  cases negative with
  | true =>
      have hpart : isNamePart c = true := by rw [isNamePart, hdigit, Bool.or_true, Bool.true_or]
      have hsign : Spells Operand ['-'] [Token.operator .subtract] := spells_shortOperator (by decide)
      refine ⟨_, hsign.append hspells fun _ _ => operand_cons hpart _, by simp, ?_⟩
      rw [List.singleton_append, ofTokens?, String.toList_ofList, hread]
  | false =>
      refine ⟨_, hspells, by simp, ?_⟩
      rw [ofTokens?, String.toList_ofList]
      rw [← hread]
      have hquote : c ≠ '\'' := by rintro rfl; exact absurd hdigit (by decide)
      have hblob : c ≠ 'X' := by rintro rfl; exact absurd hdigit (by decide)
      simp [readLiteral?, hquote, hblob]

/-- A text without quotes is a constant between two of them. -/
theorem isConstant_quoted {body : List Char} (h : '\'' ∉ body) :
    IsConstant ('\'' :: body ++ ['\'']) (text (String.ofList body)) := by
  refine ⟨_, spells_quoted h, by simp, ?_⟩
  simp [ofTokens?, readLiteral?, unquoted_eq h]

theorem isConstant_blob (bytes : List UInt8) :
    IsConstant ('X' :: '\'' :: Hex.encodeUpper bytes ++ ['\'']) (blob bytes) := by
  refine ⟨_, spells_blob (Hex.quote_not_mem_encodeUpper bytes), by simp, ?_⟩
  simp [ofTokens?, readLiteral?, Hex.decode_encodeUpper]

end StorageValue

namespace Value

/-- A value whose literal is a constant: a text without quotes, a finite real, or any other. -/
def Writable : Value → Prop
  | text s => '\'' ∉ s.toList
  | char c => c ≠ '\''
  | real x => x.isFinite = true
  | null | bool _ | integer _ | dateTime _ | uuid _ | blob _ => True

/-- A value whose literal has exact digits, if it is a real. -/
def Exact : Value → Prop
  | real x => x.Exact
  | _ => True

/-- The forms of a literal, with what is bound for the value. -/
inductive LiteralForm : Value → List Char → Prop
  | null : LiteralForm .null nullLiteral.toList
  | whole {v : Value} {n : Int64} (hv : v.toStorage = .integer n) (negative : Bool) {k : Nat}
      (h : (if negative then -(k : Int) else k) = n.toInt) :
      LiteralForm v ((if negative then ['-'] else []) ++ Numeral.ofNat k)
  | real {x : Binary64} (h : x.isFinite = true) :
      LiteralForm (.real x) ((if x.negative then ['-'] else []) ++ x.digits)
  | quoted {v : Value} {body : List Char} (hv : v.toStorage = .text (String.ofList body))
      (h : '\'' ∉ body) : LiteralForm v ('\'' :: body ++ ['\''])
  | blob (bytes : List UInt8) :
      LiteralForm (.blob bytes) ('X' :: '\'' :: Hex.encodeUpper bytes ++ ['\''])

theorem literalForm_quoted {v : Value} {s : String} (hv : v.toStorage = .text s)
    (hliteral : v.literal = "'" ++ s ++ "'") (h : '\'' ∉ s.toList) :
    v.LiteralForm v.literal.toList := by
  have hform : v.LiteralForm ('\'' :: s.toList ++ ['\'']) :=
    .quoted (by rw [hv, String.ofList_toList]) h
  rw [hliteral, String.toList_append, String.toList_append]
  exact hform

/-- The literal of a value has the form that goes with it. -/
theorem literalForm {v : Value} (h : v.Writable) : v.LiteralForm v.literal.toList := by
  cases v with
  | null => exact .null
  | bool b =>
      cases b with
      | false => exact .whole rfl false (k := 0) rfl
      | true => exact .whole rfl false (k := 1) rfl
  | integer n =>
      rw [literal, Numeral.intText, String.toList_ofList]
      cases hn : n.toInt with
      | ofNat k => exact .whole rfl false hn.symm
      | negSucc k => exact .whole rfl true (k := k + 1) hn.symm
  | real x =>
      have hfinite : x.isFinite = true := h
      rw [literal, if_pos hfinite, String.toList_ofList, Binary64.text_eq hfinite]
      exact .real hfinite
  | text s => exact literalForm_quoted rfl rfl h
  | char c =>
      refine literalForm_quoted rfl rfl ?_
      simp [display]
      exact Ne.symm h
  | dateTime t =>
      refine literalForm_quoted rfl rfl ?_
      rw [display, String.toList_ofList]
      exact t.quote_not_mem_text
  | uuid u =>
      refine literalForm_quoted rfl rfl ?_
      rw [display, String.toList_ofList]
      exact u.quote_not_mem_text
  | blob bytes =>
      rw [literal, String.toList_append, String.toList_append, String.toList_ofList,
        String.toList_ofList]
      exact .blob bytes

open StorageValue in
/-- **The literal of a value is a constant for it.** -/
theorem exists_constant {v : Value} (h : v.Writable) :
    ∃ w, IsConstant v.literal.toList w ∧ (w = .null ↔ v = .null) ∧ (v.Exact → w.Same v.toStorage) := by
  have hstored : ∀ w, w ≠ .null → v.toStorage = w → IsConstant v.literal.toList w →
      ∃ w, IsConstant v.literal.toList w ∧ (w = .null ↔ v = .null)
        ∧ (v.Exact → w.Same v.toStorage) := by
    rintro w hw rfl hconstant
    refine ⟨_, hconstant, iff_of_false hw ?_, fun _ => .inl rfl⟩
    rintro rfl
    exact hw rfl
  have hform := literalForm h
  obtain ⟨text, htext⟩ : ∃ text, v.literal.toList = text := ⟨_, rfl⟩
  rw [htext] at hstored hform ⊢
  cases hform with
  | null => exact ⟨.null, isConstant_null, by simp, fun _ => .inl rfl⟩
  | whole hv negative hn =>
      exact hstored _ (by simp) hv (isConstant_numeral (isNumeral_ofNat _) (readNumeral?_ofNat hn))
  | real hfinite =>
      obtain ⟨w, hread, hnull, hsame⟩ := Binary64.exists_readNumeral? hfinite
      exact ⟨w, isConstant_numeral Binary64.isNumeral_digits hread, by simp [hnull], hsame⟩
  | quoted hv hquote => exact hstored _ (by simp) hv (isConstant_quoted hquote)
  | blob bytes => exact hstored (.blob bytes) (by simp) rfl (isConstant_blob bytes)

end Value

end SqlRecords
