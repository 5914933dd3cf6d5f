import SqlRecords.Proofs.Expr.Outlines

/-!
# Filters and comments

Two hyphens start a comment, and what stands behind them is no part of the statement any more.  The
texts of a filter are put together without blanks, so a subtraction whose right operand has a minus
sign in front starts one.  Nothing else does.

* `Expr.leadsWithSign` — whether the text of an expression has a minus sign in front.
* `Expr.SignsApart` — the node does not put one minus sign in front of another.
* **`Expr.commentless_fragment_iff`** — a filter has no comment if and only if this holds of all its
  nodes.
-/

namespace SqlRecords

open Text

/-! ## Nodes -/

namespace BinaryOp

/-- The minus sign is the only operator with a hyphen at its end. -/
theorem isTerm_sql {op : BinaryOp} (h : op ≠ .subtract) : IsTerm op.sql.toList := by
  have hplain : ∀ cs : List Char, Avoids marks cs ∧ cs ≠ [] → IsTerm cs :=
    fun _ hcs => isTerm_of_avoids hcs.1 hcs.2
  cases op with
  | subtract => exact absurd rfl h
  | _ => exact hplain _ (by decide)

/-- Between two operands only a subtraction can start a comment. -/
theorem commentless_join {op : BinaryOp} {l r : String} (hl : IsTerm l.toList) :
    Commentless (op.join l r).toList ↔ Commentless l.toList ∧ Commentless r.toList
      ∧ (op = .subtract → ¬ StartsWithHyphen r.toList) := by
  rcases op.join_eq l r with heq | ⟨rfl, hop, words, hwords, heq⟩
  · rw [heq, String.toList_append, String.toList_append, List.append_assoc, hl.commentless_append]
    refine and_congr_right fun _ => ?_
    -- The left operand ends with something else, so only the seam behind the operator matters.
    by_cases hop : op = .subtract
    · rw [hop, commentless_append (wellQuoted_of_not_mem (by decide))]
      have hsql : Commentless subtract.sql.toList := by decide
      have hlast : (outside false subtract.sql.toList).getLast? = some '-' := by decide
      rw [and_iff_right hsql, hlast, and_iff_right rfl]
      exact and_congr_right fun _ => ⟨fun h _ => h, fun h => h rfl⟩
    · have hsql : ∀ op : BinaryOp, Commentless op.sql.toList := by
        intro op
        cases op <;> decide
      rw [(isTerm_sql hop).commentless_append, and_iff_right (hsql op)]
      exact (and_iff_left fun hsubtract => absurd hsubtract hop).symm
  · have htable : ∀ words ∈ [" is null", " is not null"], Commentless words.toList := by decide
    have hnull : Commentless Value.nullLiteral.toList := by decide
    rw [heq, String.toList_append, hl.commentless_append, and_iff_left (htable words hwords)]
    exact (and_iff_left ⟨hnull, fun hsubtract => absurd hsubtract hop⟩).symm

end BinaryOp

theorem Method.commentless_sql (method : Method) : Commentless method.sql.toList := by
  cases method <;> decide

theorem Text.commentless_intercalate : ∀ {texts : List String},
    (∀ text ∈ texts, IsTerm text.toList) →
      (Commentless (",".intercalate texts).toList ↔ ∀ text ∈ texts, Commentless text.toList)
  | [], _ => iff_of_true (by decide) (List.forall_mem_nil _)
  | [text], _ => by rw [String.intercalate_singleton, List.forall_mem_singleton]
  | text :: text' :: texts, h => by
      obtain ⟨hfirst, hrest⟩ := List.forall_mem_cons.mp h
      have hcomma : IsTerm ",".toList := isTerm_of_avoids (by decide) (by decide)
      have hplain : Commentless ",".toList := by decide
      rw [String.intercalate_cons_cons, String.toList_append, String.toList_append,
        List.append_assoc, hfirst.commentless_append, hcomma.commentless_append,
        and_iff_right hplain, commentless_intercalate hrest]
      simp only [List.forall_mem_cons]

/-! ## Trees -/

namespace Expr

/-- Whether the text of an expression has a minus sign in front.  Of the nodes that are made of
others only a test with `IN` starts with the text of one of them, and not with a parenthesis. -/
def leadsWithSign (side : Side) : Expr → Bool
  | member _ value =>
    match side, value with
    | .identifier, _ => false
    | _, some v => v.isNegative
    | _, none => false
  | constant v => v.isNegative
  | unary operand => operand.leadsWithSign .value
  | call .isIn [target, _] => target.leadsWithSign .identifier
  | call .notIn [target, _] => target.leadsWithSign .identifier
  | binary .. | call .. | array _ => false

/-- The node is not a subtraction of something with a minus sign in front. -/
def SignsApart (e : Expr) : Prop :=
  ∀ left right, e = binary .subtract left right → right.leadsWithSign .value = false

variable {e : Expr} {side : Side} {bare : Bool} {sql : String}

/-- A text starts with a hyphen if a sign is the leftmost thing in its tree. -/
theorem HasText.startsWithHyphen_iff (h : HasText side bare e sql) (htame : e.Everywhere Tame)
    (hside : side ≠ .list) (hbare : bare = false) :
    StartsWithHyphen sql.toList ↔ e.leadsWithSign side = true := by
  induction h with
  | name =>
      have hatom := Token.isAtom_of_isWord (everywhere_member.mp htame).1
      rw [hatom.startsWithHyphen_iff, leadsWithSign]
  | @captured side bare name v hidentifier =>
      rw [(Value.isAtom_literal ((everywhere_member.mp htame).2 v rfl)).startsWithHyphen_iff]
      cases side with
      | identifier => exact absurd rfl hidentifier
      | value => exact Iff.rfl
      | list => exact absurd rfl hside
  | constant =>
      rw [(Value.isAtom_literal (everywhere_constant.mp htame)).startsWithHyphen_iff, leadsWithSign]
  | unary _ ih =>
      rw [leadsWithSign]
      exact ih (everywhere_unary.mp htame).2 (by decide) rfl
  | binary =>
      rw [hbare, Bool.false_and, if_neg Bool.false_ne_true, toList_parentheses, leadsWithSign]
      exact iff_of_false (not_startsWithHyphen_parentheses _) Bool.false_ne_true
  | pattern hmethod =>
      rw [toList_parentheses]
      refine iff_of_false (not_startsWithHyphen_parentheses _) ?_
      rcases hmethod with rfl | rfl <;> exact Bool.false_ne_true
  | membership hmethod htarget _ ihtarget =>
      obtain ⟨-, htame, -⟩ := everywhere_test.mp htame
      rw [String.toList_append, (htarget.isTerm htame).startsWithHyphen_append,
        ihtarget htame (by decide) rfl]
      rcases hmethod with rfl | rfl <;> rw [leadsWithSign]
  | array => exact absurd rfl hside

theorem HasText.commentless_iff (h : HasText side bare e sql) (htame : e.Everywhere Tame) :
    Commentless sql.toList ↔ e.Everywhere SignsApart := by
  induction h with
  | name =>
      rw [everywhere_member]
      exact iff_of_true (Token.isAtom_of_isWord (everywhere_member.mp htame).1).commentless nofun
  | @captured side bare name v =>
      rw [everywhere_member]
      have hatom := Value.isAtom_literal ((everywhere_member.mp htame).2 v rfl)
      exact iff_of_true hatom.commentless nofun
  | constant =>
      rw [everywhere_constant]
      exact iff_of_true (Value.isAtom_literal (everywhere_constant.mp htame)).commentless nofun
  | @unary side bare operand _ _ ih =>
      have hself : SignsApart (.unary operand) := nofun
      rw [everywhere_unary, and_iff_right hself]
      exact ih (everywhere_unary.mp htame).2
  | @binary side bare op left right l r hleft hright ihleft ihright =>
      obtain ⟨-, htameLeft, htameRight⟩ := everywhere_binary.mp htame
      have hl := hleft.isTerm htameLeft
      have hr := hright.isTerm htameRight
      -- The right operand of a subtraction is never bare, so `leadsWithSign` is about its own text.
      have hsign : op = .subtract →
          (StartsWithHyphen r.toList ↔ right.leadsWithSign .value = true) := by
        rintro rfl
        exact hright.startsWithHyphen_iff htameRight (by decide) rfl
      have hself : (op = .subtract → ¬ StartsWithHyphen r.toList)
          ↔ SignsApart (.binary op left right) := by
        constructor
        · rintro h _ _ ⟨⟩
          exact Bool.eq_false_iff.mpr (mt (hsign rfl).mpr (h rfl))
        · rintro h rfl
          exact mt (hsign rfl).mp (Bool.eq_false_iff.mp (h left right rfl))
      have hbody : Commentless (op.join l r).toList
          ↔ (Expr.binary op left right).Everywhere SignsApart := by
        rw [BinaryOp.commentless_join hl, everywhere_binary, ihleft htameLeft, ihright htameRight,
          hself, ← and_assoc, and_comm]
      split
      · exact hbody
      · rw [toList_parentheses, commentless_parentheses (BinaryOp.isTerm_join hl hr), hbody]
  | @pattern side bare method target argument l r _ htarget hargument ihtarget ihargument =>
      obtain ⟨-, htameTarget, htameArgument⟩ := everywhere_test.mp htame
      have hself : SignsApart (.call method [target, argument]) := nofun
      have hl := htarget.isTerm htameTarget
      have hfront := hl.toTidy.append_term method.isTerm_sql
      have hbody := hfront.toTidy.append_term (hargument.isTerm htameArgument)
      rw [toList_parentheses, String.toList_append, String.toList_append,
        commentless_parentheses hbody, hfront.commentless_append, hl.commentless_append,
        and_iff_left method.commentless_sql, everywhere_test, and_iff_right hself,
        ihtarget htameTarget, ihargument htameArgument]
  | @membership side bare method target argument l r _ htarget hargument ihtarget ihargument =>
      obtain ⟨-, htameTarget, htameArgument⟩ := everywhere_test.mp htame
      have hself : SignsApart (.call method [target, argument]) := nofun
      rw [String.toList_append, String.toList_append, toList_parentheses,
        (htarget.isTerm htameTarget).commentless_append, method.isTerm_sql.commentless_append,
        and_iff_right method.commentless_sql,
        commentless_parentheses (hargument.isTerm htameArgument), everywhere_test,
        and_iff_right hself, ihtarget htameTarget, ihargument htameArgument]
  | @array bare items texts hne hlength hitems ihitems =>
      have htameItems := (everywhere_array.mp htame).2
      have hself : SignsApart (.array items) := nofun
      have hterms : ∀ text ∈ texts, IsTerm text.toList :=
        (forall_mem_texts hlength).mpr fun pair hpair =>
          (hitems pair hpair).isTerm (htameItems pair.1 (List.of_mem_zip hpair).1)
      rw [commentless_intercalate hterms, forall_mem_texts hlength, everywhere_array,
        and_iff_right hself, forall_mem_items hlength]
      exact forall₂_congr fun pair hpair =>
        ihitems pair hpair (htameItems pair.1 (List.of_mem_zip hpair).1)

/-- **A filter has no comment if and only if no subtraction in it has a right operand with a minus
sign in front**, for names that are identifiers and texts without quotes. -/
theorem commentless_fragment_iff (htame : e.Everywhere Tame) (hsql : fragment (some e) = .ok sql) :
    Commentless sql.toList ↔ ∀ left right, binary .subtract left right ∈ e.parts →
      right.leadsWithSign .value = false := by
  rw [(hasText_of_compile hsql).commentless_iff htame]
  exact ⟨fun h left right hpart => h _ hpart left right rfl,
    fun h part hpart left right heq => h left right (heq ▸ hpart)⟩

/-- The people who were older than three some years ago; a negative number of years is to come. -/
def olderFilter (n : Int64) : Expr :=
  gt (binary .subtract (column "Age") (constant (.integer n))) (.integer 3)

theorem commentless_fragment_iff_olderFilter :
    (olderFilter 5).Everywhere Tame ∧ fragment (some (olderFilter 5)) = .ok "((Age-5)>3)"
      ∧ (Commentless "((Age-5)>3)".toList ↔ ∀ left right,
        binary .subtract left right ∈ (olderFilter 5).parts →
          right.leadsWithSign .value = false) := by
  have htame : (olderFilter 5).Everywhere Tame := by decide +kernel
  have hsql : fragment (some (olderFilter 5)) = .ok "((Age-5)>3)" := by rfl
  exact ⟨htame, hsql, commentless_fragment_iff htame hsql⟩

/-- For the years to come the condition ends behind the subtraction. -/
theorem olderFilter_has_comment :
    (olderFilter (-5)).Everywhere Tame ∧ fragment (some (olderFilter (-5))) = .ok "((Age--5)>3)"
      ∧ ¬ Commentless "((Age--5)>3)".toList :=
  ⟨by decide +kernel, by rfl, by decide⟩

end Expr

end SqlRecords
