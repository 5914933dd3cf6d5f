import SqlRecords.Proofs.Expr.Trees
import SqlRecords.Proofs.Text.Outside
import SqlRecords.Proofs.Value.Constants

/-!
# Outlines of filters

A filter whose names are identifiers, and whose texts have no quotes inside, has quotes only where a
literal starts and ends.  So its text can be looked at outside of them, one node at a time.

* `Value.isAtom_literal` — a literal is an atom, with a sign in front for a negative number.
* `Expr.Tame` — the leaves with such texts.
* `Expr.HasText.isTerm` — the text of a tree with such leaves closes what it opens.
-/

namespace SqlRecords

open Text

/-! ## Literals -/

/-- A numeral is made of digits and at most a point. -/
theorem Token.IsNumeral.avoids {cs : List Char} (h : IsNumeral cs) :
    Avoids marks cs ∧ cs ≠ [] := by
  have hdigit : ∀ c : Char, c.isDigit = true → c ∉ marks := by
    intro c hc hmem
    simp only [marks, List.mem_cons, List.not_mem_nil, or_false] at hmem
    rcases hmem with rfl | rfl | rfl | rfl <;> exact absurd hc (by decide)
  obtain ⟨whole, places, rfl, hne, hwhole, hplaces⟩ := h
  refine ⟨avoids_append.mpr ⟨fun c hc => hdigit c (hwhole c hc), ?_⟩, by simp [hne]⟩
  rcases hplaces with rfl | ⟨digits, rfl, hdigits⟩
  · exact List.forall_mem_nil _
  · exact List.forall_mem_cons.mpr ⟨by decide, fun c hc => hdigit c (hdigits c hc)⟩

namespace Value

/-- If the literal of the value stands in quotes, it has none inside. -/
def Unquoted (v : Value) : Prop := v.isTextLike = true → '\'' ∉ v.display.toList

instance : DecidablePred Unquoted := fun _ => inferInstanceAs (Decidable (_ → _))

/-- Whether the literal of the value has a minus sign in front. -/
def isNegative : Value → Bool
  | integer n => n.toInt < 0
  | real x => x.isFinite && x.negative
  | _ => false

/-- **A literal is an atom, with a sign in front for a negative number.** -/
theorem isAtom_literal {v : Value} (h : v.Unquoted) : IsAtom v.isNegative v.literal.toList := by
  have hnumeral : ∀ (negative : Bool) {cs : List Char}, Token.IsNumeral cs →
      IsAtom negative ((if negative then ['-'] else []) ++ cs) := fun _ _ hcs =>
    isAtom_of_avoids hcs.avoids.1 hcs.avoids.2
  have hnull : IsAtom false nullLiteral.toList := isAtom_of_avoids (by decide) (by decide)
  have hquoted : ∀ s : String, '\'' ∉ s.toList → IsAtom false ("'" ++ s ++ "'").toList := by
    intro s hs
    rw [String.toList_append, String.toList_append]
    exact isAtom_quotes (List.forall_mem_nil _) hs
  cases v with
  | null => exact hnull
  | bool b =>
      cases b with
      | false => exact hnumeral false (isNumeral_ofNat 0)
      | true => exact hnumeral false (isNumeral_ofNat 1)
  | integer n =>
      rw [literal, Numeral.intText, String.toList_ofList, isNegative]
      cases n.toInt with
      | ofNat k => exact hnumeral false (isNumeral_ofNat k)
      | negSucc k =>
          rw [decide_eq_true (Int.negSucc_lt_zero k)]
          exact hnumeral true (isNumeral_ofNat (k + 1))
  | real x =>
      rw [literal, isNegative]
      split
      · rename_i hfinite
        rw [String.toList_ofList, Binary64.text_eq hfinite, hfinite, Bool.true_and]
        exact hnumeral x.negative Binary64.isNumeral_digits
      · rename_i hfinite
        rw [Bool.not_eq_true] at hfinite
        rw [hfinite, Bool.false_and]
        exact hnull
  | text | char | dateTime | uuid => exact hquoted _ (h rfl)
  | blob bytes =>
      have hblob : IsAtom false (['X'] ++ '\'' :: (Hex.encodeUpper bytes ++ ['\''])) :=
        isAtom_quotes (by decide) (Hex.quote_not_mem_encodeUpper bytes)
      rw [literal, String.toList_append, String.toList_append, String.toList_ofList,
        String.toList_ofList]
      exact hblob

end Value

/-- A word is made of letters and digits. -/
theorem Token.isAtom_of_isWord {cs : List Char} (h : isWord cs = true) : IsAtom false cs := by
  have hpart : ∀ c, isNamePart c = true → c ∉ marks := by
    intro c hc hmem
    simp only [marks, List.mem_cons, List.not_mem_nil, or_false] at hmem
    rcases hmem with rfl | rfl | rfl | rfl <;> exact absurd hc (by decide)
  cases cs with
  | nil => exact absurd h (by decide)
  | cons c cs =>
      obtain ⟨hstart, hparts⟩ := Bool.and_eq_true_iff.mp h
      have hfirst : isNamePart c = true := by rw [isNamePart, hstart, Bool.true_or, Bool.true_or]
      have hplain : Avoids marks (c :: cs) := List.forall_mem_cons.mpr
        ⟨hpart c hfirst, fun d hd => hpart d (List.all_eq_true.mp hparts d hd)⟩
      exact isAtom_of_avoids hplain (List.cons_ne_nil _ _)

/-! ## Nodes -/

namespace BinaryOp

/-- The operator stands between the operands unless the right one is `null`, which an equality
replaces by words. -/
theorem join_eq (op : BinaryOp) (l r : String) : op.join l r = l ++ op.sql ++ r
    ∨ (r = Value.nullLiteral ∧ op ≠ .subtract
      ∧ ∃ words ∈ [" is null", " is not null"], op.join l r = l ++ words) := by
  by_cases hnull : r = Value.nullLiteral
  · cases op with
    | eq => exact .inr ⟨hnull, by decide, _, List.mem_cons_self, if_pos hnull⟩
    | ne =>
        have hwords : " is not null" ∈ [" is null", " is not null"] := by decide
        exact .inr ⟨hnull, by decide, _, hwords, if_pos hnull⟩
    | _ => exact .inl rfl
  · cases op with
    | eq | ne => exact .inl (if_neg hnull)
    | _ => exact .inl rfl

theorem tidy_sql (op : BinaryOp) : Tidy op.sql.toList := by
  cases op <;> exact tidy_of_avoids (by decide)

/-- Two terms with an operator between them are a term. -/
theorem isTerm_join {op : BinaryOp} {l r : String} (hl : IsTerm l.toList) (hr : IsTerm r.toList) :
    IsTerm (op.join l r).toList := by
  rcases op.join_eq l r with heq | ⟨-, -, words, hwords, heq⟩
  · rw [heq, String.toList_append, String.toList_append]
    exact (hl.toTidy.append op.tidy_sql).append_term hr
  · have htable : ∀ words ∈ [" is null", " is not null"],
        Avoids marks words.toList ∧ words.toList ≠ [] := by decide
    obtain ⟨hplain, hne⟩ := htable words hwords
    rw [heq, String.toList_append]
    exact hl.toTidy.append_term (isTerm_of_avoids hplain hne)

end BinaryOp

theorem Method.isTerm_sql (method : Method) : IsTerm method.sql.toList := by
  cases method <;> exact isTerm_of_avoids (by decide) (by decide)

namespace Text

theorem toList_parentheses (s : String) :
    ("(" ++ s ++ ")").toList = '(' :: (s.toList ++ [')']) := by
  rw [String.toList_append, String.toList_append]
  rfl

theorem isTerm_intercalate : ∀ {texts : List String}, texts ≠ [] →
    (∀ text ∈ texts, IsTerm text.toList) → IsTerm (",".intercalate texts).toList
  | [], hne, _ => absurd rfl hne
  | [text], _, h => by
      rw [String.intercalate_singleton]
      exact h text List.mem_cons_self
  | text :: text' :: texts, _, h => by
      obtain ⟨hfirst, hrest⟩ := List.forall_mem_cons.mp h
      have hcomma : Tidy ",".toList := tidy_of_avoids (by decide)
      rw [String.intercalate_cons_cons, String.toList_append, String.toList_append]
      exact (hfirst.toTidy.append hcomma).append_term
        (isTerm_intercalate (List.cons_ne_nil _ _) hrest)

end Text

/-! ## Trees -/

namespace Expr

/-- If this is a leaf, its text is one word or one literal: the name of a member is an identifier,
and no text has a quote inside. -/
def Tame : Expr → Prop
  | member name value => Token.isWord name.toList = true ∧ ∀ v ∈ value, v.Unquoted
  | constant v => v.Unquoted
  | binary .. | call .. | unary _ | array _ => True

instance : DecidablePred Tame
  | member name value =>
    inferInstanceAs (Decidable (Token.isWord name.toList = true ∧ ∀ v ∈ value, v.Unquoted))
  | constant v => inferInstanceAs (Decidable v.Unquoted)
  | binary .. | call .. | unary _ | array _ => .isTrue trivial

variable {e : Expr} {side : Side} {bare : Bool} {sql : String}

/-- **The text of a tree with tame leaves closes what it opens.** -/
theorem HasText.isTerm (h : HasText side bare e sql) (htame : e.Everywhere Tame) :
    IsTerm sql.toList := by
  induction h with
  | name => exact (Token.isAtom_of_isWord (everywhere_member.mp htame).1).isTerm
  | captured => exact (Value.isAtom_literal ((everywhere_member.mp htame).2 _ rfl)).isTerm
  | constant => exact (Value.isAtom_literal (everywhere_constant.mp htame)).isTerm
  | unary _ ih => exact ih (everywhere_unary.mp htame).2
  | @binary side bare op left right l r _ _ ihleft ihright =>
      obtain ⟨-, hleft, hright⟩ := everywhere_binary.mp htame
      have hbody : IsTerm (op.join l r).toList :=
        BinaryOp.isTerm_join (ihleft hleft) (ihright hright)
      split
      · exact hbody
      · rw [toList_parentheses]
        exact hbody.toTidy.parentheses_term
  | @pattern side bare method target argument l r hmethod _ _ ihtarget ihargument =>
      obtain ⟨-, htarget, hargument⟩ := everywhere_test.mp htame
      rw [toList_parentheses, String.toList_append, String.toList_append]
      have hfront := (ihtarget htarget).toTidy.append_term method.isTerm_sql
      exact (hfront.toTidy.append_term (ihargument hargument)).toTidy.parentheses_term
  | @membership side bare method target argument l r hmethod _ _ ihtarget ihargument =>
      obtain ⟨-, htarget, hargument⟩ := everywhere_test.mp htame
      rw [String.toList_append, String.toList_append, toList_parentheses]
      have hlist := (ihargument hargument).toTidy.parentheses_term
      exact (ihtarget htarget).toTidy.append_term (method.isTerm_sql.toTidy.append_term hlist)
  | @array bare items texts hne hlength _ ihitems =>
      have hitems := (everywhere_array.mp htame).2
      refine isTerm_intercalate ?_ ((forall_mem_texts hlength).mpr fun pair hpair =>
        ihitems pair hpair (hitems pair.1 (List.of_mem_zip hpair).1))
      rintro rfl
      exact hne (List.eq_nil_of_length_eq_zero hlength)

end Expr

end SqlRecords
