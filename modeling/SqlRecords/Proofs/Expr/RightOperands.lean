import SqlRecords.Proofs.Expr.Outlines

/-!
# Right operands of filters

Comparisons, `LIKE` and `IN` bind equally tight and to the left.  So a right operand keeps together
only if it is one literal or stands in parentheses of its own.  Every right operand does, except a
test with `IN`, which has parentheses around its list alone.

* `Expr.SelfDelimited` — the text is one literal or one group.
* `Expr.RightOperand` — the right operands of comparisons, of calculations and of `LIKE`.
* **`Expr.rightOperand_selfDelimited_iff`** — the right operands that are no tests with `IN`, and no
  others, keep together.
-/

namespace SqlRecords

open Text

namespace Expr

/-- The text is one literal, or it is one group in parentheses of its own. -/
def SelfDelimited (sql : String) : Prop :=
  (∃ v : Value, v.Unquoted ∧ sql = v.literal) ∨ IsGroup sql.toList

/-- The expression stands to the right of a comparison, of an operator that calculates or of `LIKE`,
somewhere in the tree. -/
inductive RightOperand (e : Expr) : Expr → Prop where
  | binary {op : BinaryOp} {left right : Expr} (hop : op.isLogical = false)
      (hpart : binary op left right ∈ e.parts) : RightOperand e right
  | pattern {method : Method} {target argument : Expr}
      (hmethod : method = .like ∨ method = .notLike)
      (hpart : call method [target, argument] ∈ e.parts) : RightOperand e argument

/-- Whether the expression is a test with `IN`, perhaps converted. -/
def isMembership : Expr → Bool
  | unary operand => operand.isMembership
  | call .isIn _ | call .notIn _ => true
  | binary .. | member .. | call .. | constant _ | array _ => false

variable {e r : Expr} {side : Side} {bare : Bool} {sql : String}

/-- A right operand is compiled for its value, and nothing around it is left out. -/
theorem RightOperand.exists_hasText (h : RightOperand e r) (hsql : HasText side bare e sql)
    (htame : e.Everywhere Tame) : r.Everywhere Tame ∧ ∃ text, HasText .value false r text := by
  cases h with
  | binary hop hpart =>
      obtain ⟨_, _, _, htext⟩ := hsql.everywhere _ hpart
      cases htext with
      | binary _ hright =>
          rw [hop] at hright
          exact ⟨(everywhere_binary.mp (htame.of_mem hpart)).2.2, _, hright⟩
  | pattern hmethod hpart =>
      obtain ⟨_, _, _, htext⟩ := hsql.everywhere _ hpart
      refine ⟨(everywhere_test.mp (htame.of_mem hpart)).2.2, ?_⟩
      cases htext with
      | pattern _ _ hargument => exact ⟨_, hargument⟩
      | membership hother => rcases hmethod with rfl | rfl <;> exact absurd hother (by decide)

/-! ## Literals, groups and the rest -/

/-- A test with `IN` starts with what it tests, so its last parenthesis does not belong to a first
one. -/
theorem not_selfDelimited_membership {method : Method} {l r : String} (hl : IsTerm l.toList) :
    ¬ SelfDelimited (l ++ (method.sql ++ ("(" ++ r ++ ")"))) := by
  rintro (⟨v, hv, hsql⟩ | hgroup)
  · have hopening := (Value.isAtom_literal hv).opening_not_mem
    rw [← hsql, String.toList_append, hl.wellQuoted, String.toList_append,
      method.isTerm_sql.wellQuoted, toList_parentheses, outside_opening] at hopening
    exact hopening (by simp)
  · rw [String.toList_append] at hgroup
    refine not_isGroup_append hl.toTidy hl.ne_nil _ ?_ hgroup
    rw [String.toList_append, toList_parentheses]
    exact List.append_ne_nil_of_right_ne_nil _ (List.cons_ne_nil _ _)

theorem HasText.selfDelimited_iff (h : HasText side bare r sql) (htame : r.Everywhere Tame)
    (hside : side = .value) (hbare : bare = false) :
    SelfDelimited sql ↔ r.isMembership = false := by
  induction h with
  | name => exact absurd hside (by decide)
  | captured => exact iff_of_true (.inl ⟨_, (everywhere_member.mp htame).2 _ rfl, rfl⟩) rfl
  | constant => exact iff_of_true (.inl ⟨_, everywhere_constant.mp htame, rfl⟩) rfl
  | unary _ ih => exact ih (everywhere_unary.mp htame).2 rfl rfl
  | @binary side bare op left right l r hleft hright =>
      obtain ⟨-, htameLeft, htameRight⟩ := everywhere_binary.mp htame
      have hbody : IsTerm (op.join l r).toList :=
        BinaryOp.isTerm_join (hleft.isTerm htameLeft) (hright.isTerm htameRight)
      rw [hbare, Bool.false_and, if_neg Bool.false_ne_true]
      exact iff_of_true (.inr ⟨_, toList_parentheses _, hbody.toTidy⟩) rfl
  | @pattern side bare method target argument l r hmethod htarget hargument =>
      obtain ⟨-, htameTarget, htameArgument⟩ := everywhere_test.mp htame
      have hbody : Tidy (l ++ method.sql ++ r).toList := by
        rw [String.toList_append, String.toList_append]
        have hfront := (htarget.isTerm htameTarget).toTidy.append method.isTerm_sql.toTidy
        exact hfront.append (hargument.isTerm htameArgument).toTidy
      refine iff_of_true (.inr ⟨_, toList_parentheses _, hbody⟩) ?_
      rcases hmethod with rfl | rfl <;> rfl
  | membership hmethod htarget =>
      obtain ⟨-, htameTarget, -⟩ := everywhere_test.mp htame
      refine iff_of_false (not_selfDelimited_membership (htarget.isTerm htameTarget)) ?_
      rcases hmethod with rfl | rfl <;> exact Bool.noConfusion
  | array => exact absurd hside (by decide)

/-- **The right operands that are no tests with `IN`, and no others, keep together**, for names that
are identifiers and texts without quotes. -/
theorem rightOperand_selfDelimited_iff (htame : e.Everywhere Tame)
    (hsql : fragment (some e) = .ok sql) (hright : RightOperand e r) :
    ∃ text, r.compile .value false = .ok text ∧ (SelfDelimited text ↔ r.isMembership = false) := by
  obtain ⟨htameRight, text, htext⟩ := hright.exists_hasText (hasText_of_compile hsql) htame
  exact ⟨text, htext.compile_eq, htext.selfDelimited_iff htameRight rfl rfl⟩

/-- The people who are marked if and only if they pass a test. -/
def markFilter (test : Expr) : Expr := binary .eq (column "Mark") test

theorem rightOperand_selfDelimited_iff_markFilter :
    (markFilter (unary (like (column "Name") (.text "A%")))).Everywhere Tame
      ∧ fragment (some (markFilter (unary (like (column "Name") (.text "A%")))))
        = .ok "(Mark=(Name LIKE 'A%'))"
      ∧ ∃ text, (unary (like (column "Name") (.text "A%"))).compile .value false = .ok text
        ∧ (SelfDelimited text
          ↔ (unary (like (column "Name") (.text "A%"))).isMembership = false) := by
  have htame : (markFilter (unary (like (column "Name") (.text "A%")))).Everywhere Tame := by
    decide +kernel
  have hsql : fragment (some (markFilter (unary (like (column "Name") (.text "A%")))))
      = .ok "(Mark=(Name LIKE 'A%'))" := by rfl
  exact ⟨htame, hsql, rightOperand_selfDelimited_iff htame hsql (.binary rfl List.mem_cons_self)⟩

/-- With `IN` for the test, the comparison is taken for what is tested. -/
theorem markFilter_attaches :
    (markFilter (isIn (column "Level") [.integer 1, .integer 2])).Everywhere Tame
      ∧ fragment (some (markFilter (isIn (column "Level") [.integer 1, .integer 2])))
        = .ok "(Mark=Level IN (1,2))"
      ∧ (isIn (column "Level") [.integer 1, .integer 2]).compile .value false = .ok "Level IN (1,2)"
      ∧ ¬ SelfDelimited "Level IN (1,2)"
      ∧ Phrase.read? "(Mark=Level IN (1,2))" = some (.test .isIn
        (.binary .eq (.column "Mark") (.column "Level")) (.list [.literal "1", .literal "2"])) := by
  have htext : "Level" ++ (Method.isIn.sql ++ ("(" ++ "1,2" ++ ")")) = "Level IN (1,2)" := by decide
  have hlevel : IsTerm "Level".toList := isTerm_of_avoids (by decide) (by decide)
  have htokens : Token.tokens? "(Mark=Level IN (1,2))".toList
      = some [.opening, .name "Mark", .operator .eq, .name "Level", .isIn, .opening, .literal "1",
        .comma, .literal "2", .closing, .closing] := by decide +kernel
  refine ⟨by decide +kernel, by rfl, by rfl, htext ▸ not_selfDelimited_membership hlevel, ?_⟩
  rw [Phrase.read?, htokens]
  rfl

end Expr

end SqlRecords
