import SqlRecords.Proofs.Expr.Contexts
import SqlRecords.Proofs.Value.Constants

/-!
# Tests for `null`

An equality is a test for `null` if the text of its right operand is `null`.  Only a value that is
absent has this text: a text stands in quotes, the digits of a number do not start with a letter,
and a node with operands has a parenthesis.  So the test is there for the operands that are meant,
in every place of a tree.

* `Value.ReadsNull`, `Value.literal_eq_null_iff` — the values whose literal is `null`.
* `Expr.IsNull`, `Expr.compile_eq_null_iff` — the operands whose text is `null`.
* `Expr.Context.frames_of_compile` — where the text of an equality stands in the text of a tree.
* **`Expr.nullTest_iff`** — every equality in a tree is a test for `null` for these operands, and
  compares the others.
-/

namespace SqlRecords

/-! ## Values -/

namespace Value

/-- The value is absent, or is a real that is not finite. -/
def ReadsNull : Value → Prop
  | null => True
  | real x => x.isFinite = false
  | bool _ | integer _ | text _ | char _ | dateTime _ | uuid _ | blob _ => False

instance : DecidablePred ReadsNull
  | null => .isTrue trivial
  | real x => inferInstanceAs (Decidable (x.isFinite = false))
  | bool _ | integer _ | text _ | char _ | dateTime _ | uuid _ | blob _ => .isFalse id

/-- A literal that starts with another character is another text. -/
theorem literal_ne_null {v : Value} {c : Char} {cs : List Char} (h : v.literal.toList = c :: cs)
    (hc : c ≠ 'n') : v.literal ≠ nullLiteral := by
  intro hnull
  rw [hnull] at h
  exact hc (List.head_eq_of_cons_eq h).symm

theorem literal_ne_null_of_numeral {v : Value} {cs : List Char} (h : Token.IsNumeral cs)
    (negative : Bool)
    (hliteral : v.literal.toList = (if negative then ['-'] else []) ++ cs) :
    v.literal ≠ nullLiteral := by
  obtain ⟨whole, places, rfl, hne, hwhole, -⟩ := h
  obtain ⟨c, whole, rfl⟩ := List.exists_cons_of_ne_nil hne
  have hdigit : c.isDigit = true := hwhole c List.mem_cons_self
  cases negative with
  | true => exact literal_ne_null hliteral (by decide)
  | false =>
      refine literal_ne_null hliteral ?_
      rintro rfl
      exact absurd hdigit (by decide)

theorem literal_ne_null_of_quoted {v : Value} {s : String} (h : v.literal = "'" ++ s ++ "'") :
    v.literal ≠ nullLiteral := by
  have hquote : v.literal.toList = '\'' :: (s.toList ++ ['\'']) := by
    rw [h, String.toList_append, String.toList_append]
    rfl
  exact literal_ne_null hquote (by decide)

/-- **The literal of a value is `null` for an absent one and for a real that is not finite.** -/
theorem literal_eq_null_iff {v : Value} : v.literal = nullLiteral ↔ v.ReadsNull := by
  cases v with
  | null => exact iff_of_true rfl trivial
  | real x =>
      cases hfinite : x.isFinite with
      | false =>
          refine iff_of_true ?_ hfinite
          rw [literal, hfinite, if_neg Bool.false_ne_true]
      | true =>
          have hliteral : (real x).literal.toList
              = (if x.negative then ['-'] else []) ++ x.digits := by
            rw [literal, if_pos hfinite, String.toList_ofList, Binary64.text_eq hfinite]
          refine iff_of_false ?_ fun h => absurd (hfinite.symm.trans h) (by decide)
          exact literal_ne_null_of_numeral Binary64.isNumeral_digits x.negative hliteral
  | bool b =>
      refine iff_of_false ?_ id
      cases b <;> decide
  | integer n =>
      refine iff_of_false ?_ id
      have hliteral : (integer n).literal.toList = Numeral.ofInt n.toInt := String.toList_ofList
      cases hn : n.toInt with
      | ofNat k =>
          rw [hn] at hliteral
          exact literal_ne_null_of_numeral (isNumeral_ofNat k) false hliteral
      | negSucc k =>
          rw [hn] at hliteral
          exact literal_ne_null hliteral (by decide)
  | text | char | dateTime | uuid =>
      exact iff_of_false (literal_ne_null_of_quoted rfl) id
  | blob bytes =>
      refine iff_of_false ?_ id
      have hblob : (blob bytes).literal.toList
          = 'X' :: '\'' :: (Hex.encodeUpper bytes ++ ['\'']) := by
        rw [literal, String.toList_append, String.toList_append, String.toList_ofList,
          String.toList_ofList]
        rfl
      exact literal_ne_null hblob (by decide)

end Value

/-! ## Operands -/

namespace Expr

/-- An operand without the conversions around it. -/
def unwrapped : Expr → Expr
  | unary operand => operand.unwrapped
  | e => e

/-- For its value an operand is what is inside of the conversions. -/
theorem compile_unwrapped (e : Expr) :
    e.unwrapped.compile .value false = e.compile .value false := by
  induction e using treeInduction with
  | unary operand ih => rw [unwrapped, ih, compile_unary]
  | _ => rfl

/-- A member has a text for its value only if it has one. -/
theorem exists_of_compile_member {name sql : String} {value : Option Value}
    (h : (member name value).compile .value false = .ok sql) :
    ∃ v, value = some v ∧ v.literal = sql := by
  cases value with
  | none => exact absurd h nofun
  | some v => exact ⟨v, rfl, Except.ok.inj h⟩

/-- The operand is a constant or a member with a value, and the value reads `null`. -/
def IsNull (e : Expr) : Prop :=
  ∃ v : Value, v.ReadsNull ∧ (e.unwrapped = constant v ∨ ∃ name, e.unwrapped = member name (some v))

/-- The operand has operands of its own. -/
def IsCompound : Expr → Prop
  | binary .. | call .. | array _ => True
  | member .. | constant _ | unary _ => False

variable {e left right : Expr} {op : BinaryOp} {side : Side} {bare : Bool} {l r sql words : String}

theorem isNull_iff_of_constant {v : Value} (h : e.unwrapped = constant v) :
    e.IsNull ↔ v.ReadsNull := by
  constructor
  · rintro ⟨v', hv', heq | ⟨name, heq⟩⟩
    · exact constant.inj (h.symm.trans heq) ▸ hv'
    · exact absurd (h.symm.trans heq) nofun
  · exact fun hv => ⟨v, hv, .inl h⟩

theorem isNull_iff_of_member {name : String} {v : Value} (h : e.unwrapped = member name (some v)) :
    e.IsNull ↔ v.ReadsNull := by
  constructor
  · rintro ⟨v', hv', heq | ⟨name', heq⟩⟩
    · exact absurd (h.symm.trans heq) nofun
    · obtain ⟨-, hsome⟩ := member.inj (h.symm.trans heq)
      exact Option.some.inj hsome ▸ hv'
  · exact fun hv => ⟨v, hv, .inr ⟨name, h⟩⟩

theorem not_isNull_of_isCompound (h : e.unwrapped.IsCompound) : ¬ e.IsNull := by
  rintro ⟨v, -, heq | ⟨name, heq⟩⟩ <;>
  · rw [heq] at h
    exact h

theorem ne_null_of_parenthesis (h : '(' ∈ sql.toList) : sql ≠ Value.nullLiteral := by
  rintro rfl
  exact absurd h (by decide)

theorem parentheses_ne_null (body : String) : "(" ++ body ++ ")" ≠ Value.nullLiteral :=
  ne_null_of_parenthesis (by simp)

theorem join_ne_null (method : Method) (l r : String) : method.join l r ≠ Value.nullLiteral := by
  cases method <;> exact ne_null_of_parenthesis (by simp [Method.join])

/-- **The text of an operand is `null` for a constant or a member with such a value, and for nothing
else.** -/
theorem compile_eq_null_iff (h : e.compile .value false = .ok sql) :
    sql = Value.nullLiteral ↔ e.IsNull := by
  induction e using treeInduction generalizing sql with
  | binary op left right =>
      obtain ⟨l, r, -, -, rfl⟩ := compile_binary_eq_ok h
      exact iff_of_false (parentheses_ne_null _) (not_isNull_of_isCompound trivial)
  | member name value =>
      obtain ⟨v, rfl, rfl⟩ := exists_of_compile_member h
      rw [Value.literal_eq_null_iff, isNull_iff_of_member rfl]
  | call method args =>
      obtain ⟨target, argument, l, r, rfl, -, -, rfl⟩ := exists_of_compile_call h
      exact iff_of_false (join_ne_null method l r) (not_isNull_of_isCompound trivial)
  | constant v =>
      rw [compile_constant] at h
      obtain rfl := Except.ok.inj h
      rw [Value.literal_eq_null_iff, isNull_iff_of_constant rfl]
  | unary operand ih =>
      rw [compile_unary] at h
      exact ih h
  | array items => exact absurd (compile_array_eq_ok h).1 (by decide)

/-! ## Places -/

/-- An equality or its negation. -/
def IsEquality : Expr → Prop
  | binary .eq _ _ | binary .ne _ _ => True
  | _ => False

theorem IsEquality.isCompound (h : e.IsEquality) : e.IsCompound := by
  cases e with
  | binary => trivial
  | _ => exact h.elim

/-- In every place an equality has the text that it has under `AND`, perhaps in parentheses. -/
theorem IsEquality.compile_eq_ok (h : e.IsEquality) (hsql : e.compile .value true = .ok sql) :
    e.compile side bare = .ok (if bare then sql else "(" ++ sql ++ ")") := by
  cases e with
  | binary op left right =>
      have hcomparison : op.isComparison = true := by
        cases op with
        | eq | ne => rfl
        | _ => exact h.elim
      obtain ⟨l, r, hl, hr, rfl⟩ := compile_binary_eq_ok hsql
      rw [compile, hl, hr, hcomparison, Bool.and_true, Bool.and_true, if_pos rfl]
      rfl
  | _ => exact h.elim

theorem Context.isCompound_unwrapped_plug {c : Context} (h : e.IsCompound) :
    (c.plug e).unwrapped.IsCompound := by
  induction c with
  | hole =>
      cases e with
      | binary | call | array => trivial
      | member | constant | unary => exact h.elim
  | unary c ih => exact ih
  | leftOf | rightOf | argument | item => trivial

/-- An operator stands between its operands, for an equality only if the right one is not `null`. -/
theorem join_eq_of_ne_null (h : op.isLogical = true ∨ r ≠ Value.nullLiteral) :
    op.join l r = l ++ op.sql ++ r := by
  cases op with
  | eq | ne => exact if_neg (h.resolve_left (by decide))
  | _ => rfl

/-- The tree has a text with the node in its open place, and the text of every equality that is put
there has the same texts around it. -/
def Context.Frames (c : Context) (side : Side) (bare : Bool) (node : Expr) : Prop :=
  ∃ (side' : Side) (bare' : Bool) (f : String → String), Framing f
    ∧ (∃ text, node.compile side' bare' = .ok text)
    ∧ ∀ (other : Expr) (text : String), other.IsEquality → other.compile side' bare' = .ok text →
      (c.plug other).compile side bare = .ok (f text)

namespace Context

variable {c : Context} {node : Expr}

/-- One more node around the place. -/
theorem Frames.step {c' : Context} {side' : Side} {bare' : Bool} {g : String → String}
    (h : c.Frames side bare node) (hg : Framing g)
    (hstep : ∀ (other : Expr) (text : String), other.IsEquality →
      (c.plug other).compile side bare = .ok text →
        (c'.plug other).compile side' bare' = .ok (g text)) :
    c'.Frames side' bare' node := by
  obtain ⟨side'', bare'', f, hf, hnode, hothers⟩ := h
  exact ⟨side'', bare'', g ∘ f, hg.comp hf, hnode, fun other text hother htext =>
    hstep other (f text) hother (hothers other text hother htext)⟩

/-- A right operand that has an equality inside does not read `null`, so it is compared in turn. -/
theorem join_plug_eq (hnode : node.IsEquality)
    (h : (c.plug node).compile .value op.isLogical = .ok r) : op.join l r = l ++ op.sql ++ r := by
  refine join_eq_of_ne_null ?_
  cases hop : op.isLogical with
  | true => exact .inl rfl
  | false =>
      rw [hop] at h
      exact .inr fun hnull => not_isNull_of_isCompound
        (isCompound_unwrapped_plug hnode.isCompound) ((compile_eq_null_iff h).mp hnull)

/-- **In a tree that has a text, the text of an equality has the same texts around it as every other
equality would have in its place.** -/
theorem frames_of_compile (h : (c.plug node).compile side bare = .ok sql) :
    c.Frames side bare node := by
  induction c generalizing side bare sql with
  | hole => exact ⟨side, bare, id, framing_id, ⟨sql, h⟩, fun _ _ _ htext => htext⟩
  | leftOf op c right ih =>
      obtain ⟨l, r, hl, hr, -⟩ := compile_binary_eq_ok h
      refine (ih hl).step ((framing_node (bare && op.isComparison)).comp (op.framing_join r)) ?_
      intro other text _ htext
      rw [plug, compile, htext, hr]
      rfl
  | rightOf op left c ih =>
      -- Here alone the text around the place depends on what is in it.
      obtain ⟨l, r, hl, hr, -⟩ := compile_binary_eq_ok h
      refine (ih hr).step ((framing_node (bare && op.isComparison)).comp
        (framing_append_left (l ++ op.sql))) ?_
      intro other text hother htext
      rw [plug, compile, hl, htext, Function.comp_apply, ← join_plug_eq hother htext]
      rfl
  | argument method front c back ih =>
      -- The place is in what is tested, or in what that is tested against.
      obtain ⟨target, argument, l, r, hargs, hl, hr, -⟩ := exists_of_compile_call h
      obtain ⟨rfl, hback⟩ | ⟨front, rfl, hback⟩ := List.append_eq_cons_iff.mp hargs
      · obtain ⟨rfl, rfl⟩ := List.cons.inj hback
        refine (ih hl).step (method.framing_target r) ?_
        intro other text _ htext
        rw [plug, List.nil_append, compile, htext, hr]
        rfl
      · obtain ⟨rfl, hback⟩ | ⟨front, rfl, hback⟩ := List.append_eq_cons_iff.mp hback.symm
        · obtain ⟨rfl, rfl⟩ := List.cons.inj hback
          refine (ih hr).step (method.framing_argument l) ?_
          intro other text _ htext
          rw [plug, List.singleton_append, compile, hl, htext]
          rfl
        · exact absurd hback (by simp)
  | unary c ih =>
      rw [plug, compile_unary] at h
      refine (ih h).step framing_id ?_
      intro other text _ htext
      rw [plug, compile_unary]
      exact htext
  | item front c back ih =>
      obtain ⟨rfl, -, texts, htexts, -⟩ := compile_array_eq_ok h
      obtain ⟨before, text, after, hbefore, htext, hafter, -⟩ :=
        compileItems_append_cons_iff.mp htexts
      refine (ih htext).step (framing_intercalate before after) ?_
      intro other text _ htext
      have htexts := compileItems_append_cons_iff.mpr ⟨_, _, _, hbefore, htext, hafter, rfl⟩
      exact compile_array_of_compileItems (by simp) htexts

end Context

/-! ## Equalities -/

section Equality

variable (hop : (op = .eq ∧ words = " is null") ∨ (op = .ne ∧ words = " is not null"))
include hop

/-- A test for `null` never reads like a comparison. -/
theorem test_ne_comparison (l r : String) : l ++ words ≠ l ++ op.sql ++ r := by
  intro h
  rw [String.append_assoc] at h
  have hfirst := congrArg (fun s => s.toList.head?) ((String.append_right_inj l).mp h)
  obtain ⟨rfl, rfl⟩ | ⟨rfl, rfl⟩ := hop <;>
  · rw [String.toList_append] at hfirst
    exact absurd hfirst nofun

/-- The text of an equality is the test exactly for a right operand that is `null`, and the
comparison exactly for every other one. -/
theorem join_eq_iff (hr : right.compile .value false = .ok r) :
    (op.join l r = l ++ words ↔ right.IsNull)
      ∧ (op.join l r = l ++ op.sql ++ r ↔ ¬ right.IsNull) := by
  have hjoin : op.join l r = if r = Value.nullLiteral then l ++ words else l ++ op.sql ++ r := by
    obtain ⟨rfl, rfl⟩ | ⟨rfl, rfl⟩ := hop <;> rfl
  rw [hjoin, ← compile_eq_null_iff hr]
  split
  · rename_i hnull
    exact ⟨iff_of_true rfl hnull, iff_of_false (test_ne_comparison hop l r) fun hn => hn hnull⟩
  · rename_i hnull
    exact ⟨iff_of_false (test_ne_comparison hop l r).symm hnull, iff_of_true rfl hnull⟩

/-- **An equality is a test for `null` exactly if its right operand is `null`.**  In every place
where it stands in a tree that has a text, that text has the test of the left operand if the right
one, without the conversions around it, is a constant or a member with a value that is absent or a
real that is not finite.  Otherwise it has the comparison of the two, and these never read alike.
What stands around is what would stand around every other equality in this place.  So a text and an
operand that has operands of its own are always compared, and a member goes by its value, whatever
its name is. -/
theorem nullTest_iff (hsql : fragment (some e) = .ok sql) (hpart : binary op left right ∈ e.parts) :
    (∃ c : Context, c.plug (binary op left right) = e)
      ∧ ∀ c : Context, c.plug (binary op left right) = e → ∃ before body after l r,
        sql = before ++ body ++ after
        ∧ (∀ other text, other.IsEquality → other.compile .value true = .ok text →
          fragment (some (c.plug other)) = .ok (before ++ text ++ after))
        ∧ (binary op left right).compile .value true = .ok body
        ∧ left.compile .identifier false = .ok l ∧ right.compile .value false = .ok r
        ∧ (body = l ++ words ↔ right.IsNull)
        ∧ (body = l ++ op.sql ++ r ↔ ¬ right.IsNull)
        ∧ (∀ s, right.unwrapped = constant (.text s) → body = l ++ op.sql ++ r)
        ∧ (right.unwrapped.IsCompound → body = l ++ op.sql ++ r)
        ∧ ∀ name value, right.unwrapped = member name value →
          ∃ v, value = some v ∧ (body = l ++ words ↔ v.ReadsNull) := by
  refine ⟨mem_parts_iff.mp hpart, ?_⟩
  rintro c rfl
  obtain ⟨side, bare, f, hf, ⟨text, htext⟩, hothers⟩ := Context.frames_of_compile hsql
  obtain ⟨before, after, hframing⟩ := hf.comp (framing_node bare)
  have hplace : ∀ other text, other.IsEquality → other.compile .value true = .ok text →
      fragment (some (c.plug other)) = .ok (before ++ text ++ after) := by
    intro other text hother htext
    rw [← hframing]
    exact hothers other _ hother (hother.compile_eq_ok htext)
  obtain ⟨hequality, hlogical, hcomparison⟩ : (binary op left right).IsEquality
      ∧ op.isLogical = false ∧ op.isComparison = true := by
    obtain ⟨rfl, -⟩ | ⟨rfl, -⟩ := hop <;> exact ⟨trivial, rfl, rfl⟩
  obtain ⟨l, r, hl, hr, -⟩ := compile_binary_eq_ok htext
  have hbody : (binary op left right).compile .value true = .ok (op.join l r) := by
    rw [compile, hl, hr, hcomparison]
    rfl
  rw [hlogical] at hl hr
  obtain ⟨htest, hcompared⟩ := join_eq_iff hop hr (l := l)
  refine ⟨before, op.join l r, after, l, r, ?_, hplace, hbody, hl, hr, htest, hcompared, ?_, ?_, ?_⟩
  · exact Except.ok.inj (hsql.symm.trans (hplace _ _ hequality hbody))
  · intro s hs
    rw [hcompared, isNull_iff_of_constant hs]
    exact id
  · exact fun hright => hcompared.mpr (not_isNull_of_isCompound hright)
  · intro name value hmember
    rw [← compile_unwrapped, hmember] at hr
    obtain ⟨v, rfl, -⟩ := exists_of_compile_member hr
    exact ⟨v, rfl, htest.trans (isNull_iff_of_member hmember)⟩

end Equality

/-- The people older than 21 for whom something holds. -/
def olderContext : Context := .rightOf .and (gt (column "Age") (.integer 21)) (.unary .hole)

/-- The people who have a limit: infinity reads `null`. -/
def limitFilter : Expr :=
  binary .ne (column "Limit") (unary (bound "Highest" (.real ⟨0x7FF0000000000000⟩)))

theorem nullTest_iff_limitFilter :
    fragment (some (olderContext.plug limitFilter)) = .ok "(Age>21 AND (Limit is not null))"
      ∧ limitFilter ∈ (olderContext.plug limitFilter).parts
      ∧ ∃ before after, "(Age>21 AND (Limit is not null))"
        = before ++ ("Limit" ++ " is not null") ++ after := by
  have hsql : fragment (some (olderContext.plug limitFilter))
      = .ok "(Age>21 AND (Limit is not null))" := by rfl
  have hpart : limitFilter ∈ (olderContext.plug limitFilter).parts :=
    mem_parts_iff.mpr ⟨olderContext, rfl⟩
  obtain ⟨before, body, after, l, r, htext, -, -, hl, -, htest, -⟩ :=
    (nullTest_iff (.inr ⟨rfl, rfl⟩) hsql hpart).2 olderContext rfl
  obtain rfl : "Limit" = l := Except.ok.inj hl
  have hinfinite : (Value.real ⟨0x7FF0000000000000⟩).ReadsNull := by decide
  have hnull : (unary (bound "Highest" (.real ⟨0x7FF0000000000000⟩))).IsNull :=
    (isNull_iff_of_member rfl).mpr hinfinite
  rw [htest.mpr hnull] at htext
  exact ⟨hsql, hpart, before, after, htext⟩

/-- A text is compared, whatever it says, and the name of a member says nothing. -/
example : fragment (some (binary .eq (column "null") (bound "null" (.text "null"))))
    = .ok "(null='null')" := rfl

end Expr

end SqlRecords
