import SqlRecords.Proofs.Expr.Grouping
import SqlRecords.Proofs.Predicate.SearchCondition
import SqlRecords.Proofs.Value.Constants

/-!
# When a row satisfies a condition

SQL knows three truth values.  A comparison with nothing is neither true nor false, and a row is
selected if the condition is true.  How two values compare is up to the database; nothing is assumed
of it but that nothing compares to anything, and that it sees numbers and not how they are kept.

* `Truth` — the truth values, with conjunction and disjunction.
* `Engine` — what a database makes of comparisons.
* `SearchCondition.truth` — the truth of a condition in a row.
* `Equation.readAll?` — a text of equations between columns and constants, with `AND` between them.
-/

namespace SqlRecords

/-- A truth value of SQL. -/
inductive Truth where
  | true | false | unknown
deriving DecidableEq, Repr

namespace Truth

def ofBool : Bool → Truth
  | .true => true
  | .false => false

/-- The conjunction: false if either is. -/
def and : Truth → Truth → Truth
  | false, _ => false
  | _, false => false
  | true, true => true
  | _, _ => unknown

/-- The disjunction: true if either is. -/
def or : Truth → Truth → Truth
  | true, _ => true
  | _, true => true
  | false, false => false
  | _, _ => unknown

/-- The conjunction of several. -/
def all (ts : List Truth) : Truth := ts.foldr and true

/-- The disjunction of several. -/
def any (ts : List Truth) : Truth := ts.foldr or false

/-- What is unknown does not make a conjunction true. -/
theorem and_eq_true_iff {a b : Truth} : a.and b = true ↔ a = true ∧ b = true := by
  cases a <;> cases b <;> decide

theorem all_eq_true_iff {ts : List Truth} : all ts = true ↔ ∀ t ∈ ts, t = true := by
  induction ts with
  | nil => simp [all]
  | cons t ts ih =>
      rw [List.forall_mem_cons, ← ih]
      exact and_eq_true_iff

end Truth

/-- A row, by the names of its columns. -/
abbrev StoredRow : Type := String → StorageValue

/-- What a database makes of comparisons. -/
structure Engine where
  compare : Comparison → StorageValue → StorageValue → Truth
  /-- Nothing compares to anything. -/
  compare_null : ∀ op v, compare op v .null = .unknown
  null_compare : ∀ op v, compare op .null v = .unknown
  /-- A number is seen as the number that it is. -/
  compare_same : ∀ op u v w, v.Same w → compare op u v = compare op u w

namespace StorageValue

instance : DecidableRel Same := fun v w =>
  decidable_of_iff (v = w ∨ v.number?.isSome ∧ v.number? = w.number?) <| or_congr_right <| by
    cases v.number? <;> simp [eq_comm]

theorem Same.symm {v w : StorageValue} : v.Same w → w.Same v := by
  rintro (rfl | ⟨n, hv, hw⟩)
  · exact .inl rfl
  · exact .inr ⟨n, hw, hv⟩

/-- A value cannot be a number in two ways. -/
theorem Same.trans {u v w : StorageValue} (h : u.Same v) (h' : v.Same w) : u.Same w := by
  rcases h with rfl | ⟨n, hu, hv⟩
  · exact h'
  · rcases h' with rfl | ⟨k, hv', hw⟩
    · exact .inr ⟨n, hu, hv⟩
    · rw [hv, Option.some.injEq] at hv'
      exact .inr ⟨n, hu, hv' ▸ hw⟩

/-- Nothing is the same as nothing only. -/
theorem Same.eq_null_iff {v w : StorageValue} (h : v.Same w) : v = .null ↔ w = .null := by
  rcases h with rfl | ⟨n, hv, hw⟩
  · rfl
  · constructor
    · rintro rfl
      exact absurd hv nofun
    · rintro rfl
      exact absurd hw nofun

end StorageValue

/-- A database that knows which values are equal, and does not order them. -/
def Engine.plain : Engine where
  compare op v w :=
    if v = .null ∨ w = .null then .unknown
    else .ofBool (match op with
      | .eq => decide (v.Same w)
      | .ne => !decide (v.Same w)
      | _ => false)
  compare_null op v := if_pos (.inr rfl)
  null_compare op v := if_pos (.inl rfl)
  compare_same op u v w h := by
    have hsame : u.Same v ↔ u.Same w := ⟨fun huv => huv.trans h, fun huw => huw.trans h.symm⟩
    simp only [h.eq_null_iff, hsame]

/-! ## Conditions -/

namespace SearchCondition

variable (e : Engine) (row : StoredRow)

mutual

/-- The truth of a condition in a row, where every value is bound in the form that is stored. -/
def truth : SearchCondition Value → Truth
  | compare column op operand => e.compare op (row column) operand.toStorage
  | absence column negated => .ofBool (decide (row column = .null) != negated)
  | group (some .or) parts => .any (truths parts)
  | group _ parts => .all (truths parts)

/-- The same for several conditions. -/
def truths : List (SearchCondition Value) → List Truth
  | [] => []
  | part :: parts => truth part :: truths parts

end

theorem truths_eq_map (parts : List (SearchCondition Value)) :
    truths e row parts = parts.map (truth e row) := by
  induction parts with
  | nil => rfl
  | cons part parts ih => rw [truths, ih, List.map_cons]

end SearchCondition

/-! ## Equations -/

/-- A column and the constant that it has to be equal to. -/
structure Equation where
  column : String
  value : StorageValue
deriving DecidableEq

namespace Equation

open Token

/-- The truth of an equation in a row. -/
def truth (e : Engine) (row : StoredRow) (q : Equation) : Truth :=
  e.compare .eq (row q.column) q.value

/-- The equation with the given tokens. -/
def ofTokens? : List Token → Option Equation
  | .name column :: .operator .eq :: ts => (StorageValue.ofTokens? ts).map fun v => ⟨column, v⟩
  | _ => none

/-- The equations of a text.  All of them bind tighter than the `AND` between them. -/
def readAll? (sql : String) : Option (List Equation) :=
  (tokens? sql.toList).bind fun ts => (ts.splitOn (.operator .and)).mapM ofTokens?

example : readAll? "Age=-5 and name='Ann' and City=null"
    = some [⟨"Age", .integer (-5)⟩, ⟨"name", .text "Ann"⟩, ⟨"City", .null⟩] := by decide +kernel

/-- The text is the equation. -/
def IsTextOf (text : String) (q : Equation) : Prop :=
  ∃ ts, Spells Delimited text.toList ts ∧ Token.operator .and ∉ ts ∧ ofTokens? ts = some q

theorem isTextOf {name text : String} {w : StorageValue} (hname : Expr.IsName name)
    (htext : StorageValue.IsConstant text.toList w) : IsTextOf (name ++ "=" ++ text) ⟨name, w⟩ := by
  obtain ⟨ts, hts, hand, hw⟩ := htext
  have hequals : Spells Free ['='] [Token.operator .eq] := spells_of_next? (by decide) fun _ _ => rfl
  have hword := spells_word hname.word
  rw [hname.ofWord_eq] at hword
  refine ⟨[Token.name name] ++ ([Token.operator .eq] ++ ts), ?_, ?_, ?_⟩
  · rw [String.toList_append, String.toList_append, List.append_assoc]
    exact hword.append (hequals.then hts) fun _ _ => delimited_cons (by decide) _
  · simpa using hand
  · simp [ofTokens?, hw]

/-- Texts of equations with `AND` between them. -/
theorem exists_spells_and : ∀ {items : List (String × Equation)}, items ≠ [] →
    (∀ item ∈ items, IsTextOf item.1 item.2) →
    ∃ tss, tss ≠ [] ∧ (∀ ts ∈ tss, Token.operator .and ∉ ts)
      ∧ tss.mapM ofTokens? = some (items.map Prod.snd)
      ∧ Spells Delimited (" and ".intercalate (items.map Prod.fst)).toList
          ([Token.operator .and].intercalate tss)
  | [], hne, _ => absurd rfl hne
  | [item], _, hitems => by
      obtain ⟨ts, hts, hand, hq⟩ := hitems item List.mem_cons_self
      refine ⟨[ts], by simp, by simpa using hand, by simp [hq], ?_⟩
      simpa using hts
  | item :: item' :: items, _, hitems => by
      obtain ⟨hitem, hitems⟩ := List.forall_mem_cons.mp hitems
      obtain ⟨ts, hts, hand, hq⟩ := hitem
      obtain ⟨tss, hne, hands, hqs, htss⟩ := exists_spells_and (List.cons_ne_nil item' items) hitems
      have hjoint : Spells Free " and ".toList [Token.operator .and] :=
        have hwords : ∀ word ∈ ["and"], isWord word.toList = true := by decide
        spells_words hwords rfl (by decide)
      refine ⟨ts :: tss, by simp, List.forall_mem_cons.mpr ⟨hand, hands⟩, by simp [hq, hqs], ?_⟩
      rw [List.map_cons, List.map_cons, String.intercalate_cons_cons, ← List.map_cons,
        String.toList_append, String.toList_append, List.intercalate_cons_of_ne_nil hne,
        List.append_assoc, List.append_assoc]
      exact hts.append (hjoint.then htss) fun _ _ => delimited_blank _

/-- **Such a text is read as the equations.** -/
theorem readAll?_intercalate {items : List (String × Equation)} (hne : items ≠ [])
    (hitems : ∀ item ∈ items, IsTextOf item.1 item.2) :
    readAll? (" and ".intercalate (items.map Prod.fst)) = some (items.map Prod.snd) := by
  obtain ⟨tss, hnil, hands, hqs, hspells⟩ := exists_spells_and hne hitems
  have htokens := hspells [] delimited_nil
  rw [List.append_nil, tokens?, Option.map_some, List.append_nil] at htokens
  rw [readAll?, htokens, Option.bind_some, List.splitOn_intercalate _ hands hnil, hqs]

end Equation

end SqlRecords
