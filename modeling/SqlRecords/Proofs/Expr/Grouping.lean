import SqlRecords.Expr.Compile
import SqlRecords.Proofs.Expr.Literals

/-!
# Filters keep their grouping

The text of a filter has fewer parentheses than its tree has nodes: comparisons directly under `AND`
and `OR` have none, and `IN` never has any.  What is left out changes nothing.  A text without
parentheses binds at least as tight as a test, which is tighter than `AND`, and every operand of a
test is a name, a literal or stands in parentheses; so no operator takes an operand that belongs to
its neighbour.

* `Expr.IsValue`, `Expr.IsCondition` — the trees of values and the trees of conditions.
* `Expr.phrase` — what a tree says.
* **`Expr.fragment_keepsGrouping`** — the text of a condition, read by the precedence of SQL, says
  what the tree says.
-/

namespace SqlRecords

/-! ## Values and conditions -/

namespace BinaryOp

variable {op : BinaryOp}

/-- Whether the operator calculates. -/
def isArithmetic (op : BinaryOp) : Bool := !op.isComparison && !op.isLogical

theorem not_isComparison_of_isArithmetic (h : op.isArithmetic = true) :
    op.isComparison = false := by
  simpa using (Bool.and_eq_true_iff.mp h).1

theorem not_isComparison_of_isLogical (h : op.isLogical = true) : op.isComparison = false := by
  cases op <;> first | rfl | exact absurd h (by decide)

theorem looseness_of_isComparison (h : op.isComparison = true) : op.looseness = 2 := by
  cases op <;> first | rfl | exact absurd h (by decide)

theorem three_le_looseness_of_isLogical (h : op.isLogical = true) : 3 ≤ op.looseness := by
  cases op <;> first | decide | exact absurd h (by decide)

/-- No operator is looser than `OR`. -/
theorem looseness_le (op : BinaryOp) : op.looseness ≤ 4 := by
  cases op <;> decide

end BinaryOp

namespace Method

variable {method : Method}

theorem join_of_pattern (h : method = .like ∨ method = .notLike) (l r : String) :
    method.join l r = "(" ++ (l ++ method.sql ++ r) ++ ")" := by
  rcases h with rfl | rfl <;> simp [join, String.append_assoc]

theorem join_of_membership (h : method = .isIn ∨ method = .notIn) (l r : String) :
    method.join l r = l ++ (method.sql ++ ("(" ++ r ++ ")")) := by
  rcases h with rfl | rfl <;> simp [join, String.append_assoc]

end Method

namespace Expr

/-- The name is an identifier and no word of the grammar. -/
structure IsName (name : String) : Prop where
  word : Token.isWord name.toList = true
  noKeyword : ∀ k ∈ Token.keywords, Text.sameName k.1 name = false

instance (name : String) : Decidable (IsName name) :=
  decidable_of_iff (Token.isWord name.toList = true
    ∧ ∀ k ∈ Token.keywords, Text.sameName k.1 name = false)
    ⟨fun h => ⟨h.1, h.2⟩, fun h => ⟨h.1, h.2⟩⟩

/-- An expression for a value. -/
inductive IsValue : Expr → Prop where
  | member {name : String} {value : Option Value} (hname : IsName name)
      (hvalue : ∀ v ∈ value, v.Plain) : IsValue (member name value)
  | constant {v : Value} (h : v.Plain) : IsValue (constant v)
  | binary {op : BinaryOp} {left right : Expr} (hop : op.isArithmetic = true)
      (hleft : IsValue left) (hright : IsValue right) : IsValue (binary op left right)
  | unary {e : Expr} (h : IsValue e) : IsValue (unary e)

/-- An expression for a list. -/
inductive IsList : Expr → Prop where
  | array {items : List Expr} (hne : items ≠ []) (h : ∀ item ∈ items, IsValue item) :
      IsList (array items)
  | unary {e : Expr} (h : IsList e) : IsList (unary e)

/-- An expression for a condition. -/
inductive IsCondition : Expr → Prop where
  | comparison {op : BinaryOp} {left right : Expr} (hop : op.isComparison = true)
      (hleft : IsValue left) (hright : IsValue right) : IsCondition (binary op left right)
  | pattern {method : Method} {target argument : Expr}
      (hmethod : method = .like ∨ method = .notLike) (htarget : IsValue target)
      (hargument : IsValue argument) : IsCondition (call method [target, argument])
  | membership {method : Method} {target argument : Expr}
      (hmethod : method = .isIn ∨ method = .notIn) (htarget : IsValue target)
      (hargument : IsList argument) : IsCondition (call method [target, argument])
  | connective {op : BinaryOp} {left right : Expr} (hop : op.isLogical = true)
      (hleft : IsCondition left) (hright : IsCondition right) : IsCondition (binary op left right)
  | unary {e : Expr} (h : IsCondition e) : IsCondition (unary e)

end Expr

/-! ## What a tree says -/

namespace Phrase

/-- Whether this is the literal of `null`. -/
def isNull : Phrase → Bool
  | literal sql => sql = Value.nullLiteral
  | _ => false

/-- Two operands and the operator between them; to be equal to `null` is to be absent. -/
def joined (op : BinaryOp) (left right : Phrase) : Phrase :=
  match op with
  | .eq => if right.isNull then absence left false else binary .eq left right
  | .ne => if right.isNull then absence left true else binary .ne left right
  | op => binary op left right

/-- Only a comparison with null is written in another way. -/
theorem joined_of_not_isComparison {op : BinaryOp} (h : op.isComparison = false)
    (left right : Phrase) : joined op left right = binary op left right := by
  cases op with
  | eq | ne => exact absurd h (by decide)
  | _ => rfl

/-- The text of two operands says what the two say together. -/
theorem isTextOf_join {op : BinaryOp} {left right : String} {p q : Phrase}
    (hleft : IsTextOf op.looseness left.toList p) (hright : IsTextOf op.looseness right.toList q)
    (hnull : op.isComparison = true → (right = Value.nullLiteral ↔ q.isNull = true)) :
    IsTextOf (op.looseness + 1) (op.join left right).toList (joined op p q) := by
  have hbinary := hleft.binary hright
  rw [← String.toList_append, ← String.toList_append, ← String.append_assoc] at hbinary
  have habsence : ∀ (negated : Bool) (words : String),
      words.toList = Token.spaced (absenceWords negated) → op.looseness = 2 →
      op.isComparison = true →
      IsTextOf (op.looseness + 1)
        (if right = Value.nullLiteral then left ++ words else left ++ op.sql ++ right).toList
        (if q.isNull then absence p negated else binary op p q) := by
    intro negated words hwords hlooseness hop
    by_cases hright : right = Value.nullLiteral
    · rw [if_pos hright, if_pos ((hnull hop).mp hright), String.toList_append, hwords, hlooseness]
      exact (hlooseness ▸ hleft).absence negated
    · rw [if_neg hright, if_neg (mt (hnull hop).mpr hright)]
      exact hbinary
  cases op with
  | eq => exact habsence false " is null" (by decide) rfl rfl
  | ne => exact habsence true " is not null" (by decide) rfl rfl
  | _ => exact hbinary

end Phrase

namespace Expr

mutual

/-- What an expression says in a place: a conversion says nothing, and a member that stands for
its value says that value.  An expression without a text says an empty list. -/
def phrase (side : Side) : Expr → Phrase
  | binary op left right => .joined op (left.phrase .identifier) (right.phrase .value)
  | member name value =>
    match side, value with
    | .identifier, _ => .column name
    | _, some v => .literal v.literal
    | _, none => .list []
  | constant v => .literal v.literal
  | call method [target, argument] =>
    .test method (target.phrase .identifier) (argument.phrase method.argumentSide)
  | call _ _ => .list []
  | unary operand => operand.phrase .value
  | array items => .list (phrases items)

/-- What the items of a list say. -/
def phrases : List Expr → List Phrase
  | [] => []
  | item :: items => item.phrase .value :: phrases items

end

/-! ## Texts of trees -/

variable {e left right : Expr} {op : BinaryOp} {side : Side} {bare : Bool} {sql : String}

theorem IsName.ofWord_eq {name : String} (h : IsName name) : Token.ofWord name = .name name := by
  have hnone : (Token.keywords.find? fun k => Text.sameName k.1 name) = none :=
    List.find?_eq_none.mpr fun k hk => by simp [h.noKeyword k hk]
  rw [Token.ofWord, hnone]

/-- The name of a property stands for its column. -/
theorem IsName.isTextOf {name : String} (h : IsName name) :
    Phrase.IsTextOf 0 name.toList (.column name) :=
  Phrase.isTextOf_column h.word h.ofWord_eq

/-- An operator has a text if both of its operands have one. -/
theorem compile_binary_eq_ok (h : (binary op left right).compile side bare = .ok sql) :
    ∃ l r, left.compile .identifier op.isLogical = .ok l
      ∧ right.compile .value op.isLogical = .ok r
      ∧ sql = if bare && op.isComparison then op.join l r else "(" ++ op.join l r ++ ")" := by
  rw [compile] at h
  obtain ⟨l, hl, h⟩ := Error.bind_eq_ok h
  obtain ⟨r, hr, h⟩ := Error.bind_eq_ok h
  exact ⟨l, r, hl, hr, (Except.ok.inj h).symm⟩

/-- A test has a text if its column and its argument have one. -/
theorem compile_call_eq_ok {method : Method} {target argument : Expr}
    (h : (call method [target, argument]).compile side bare = .ok sql) :
    ∃ l r, target.compile .identifier false = .ok l
      ∧ argument.compile method.argumentSide false = .ok r ∧ sql = method.join l r := by
  rw [compile] at h
  obtain ⟨l, hl, h⟩ := Error.bind_eq_ok h
  obtain ⟨r, hr, h⟩ := Error.bind_eq_ok h
  exact ⟨l, r, hl, hr, (Except.ok.inj h).symm⟩

/-- Only a comparison is ever without its parentheses. -/
theorem compile_binary_of_not_isComparison (h : (binary op left right).compile side bare = .ok sql)
    (hop : op.isComparison = false) :
    ∃ l r, left.compile .identifier op.isLogical = .ok l
      ∧ right.compile .value op.isLogical = .ok r ∧ sql = "(" ++ op.join l r ++ ")" := by
  obtain ⟨l, r, hl, hr, rfl⟩ := compile_binary_eq_ok h
  refine ⟨l, r, hl, hr, if_neg ?_⟩
  rw [hop, Bool.and_false]
  exact Bool.false_ne_true

theorem isTextOf_enclosed {n : Nat} {body : String} {p : Phrase}
    (h : Phrase.IsTextOf n body.toList p) (hn : n ≤ 5) :
    Phrase.IsTextOf 0 ("(" ++ body ++ ")").toList p := by
  have htext := h.parentheses hn
  rw [String.toList_append, String.toList_append]
  exact htext

/-- The right operand of an equality reads `null` where it says so, and nowhere else. -/
theorem IsValue.eq_null_iff (h : e.IsValue) (hsql : e.compile .value bare = .ok sql) :
    sql = Value.nullLiteral ↔ (e.phrase .value).isNull = true := by
  induction h generalizing bare with
  | @member name value hname hvalue =>
      cases value with
      | none => exact absurd hsql (by simp [compile])
      | some v =>
          obtain rfl := Except.ok.inj hsql
          simp [phrase, Phrase.isNull]
  | constant h =>
      obtain rfl := Except.ok.inj hsql
      simp [phrase, Phrase.isNull]
  | @binary op left right hop hleft hright =>
      have hplain := BinaryOp.not_isComparison_of_isArithmetic hop
      obtain ⟨l, r, -, -, rfl⟩ := compile_binary_of_not_isComparison hsql hplain
      rw [phrase, Phrase.joined_of_not_isComparison hplain]
      refine iff_of_false (fun hnull => ?_) Bool.false_ne_true
      have hfirst := congrArg (fun s => s.toList.head?) hnull
      simp [Value.nullLiteral] at hfirst
  | unary h ih => exact ih hsql

theorem IsValue.isTextOf (h : e.IsValue) (hsql : e.compile side bare = .ok sql) :
    Phrase.IsTextOf 0 sql.toList (e.phrase side) := by
  induction h generalizing side bare sql with
  | @member name value hname hvalue =>
      cases side with
      | identifier =>
          obtain rfl := Except.ok.inj hsql
          exact hname.isTextOf
      | value | list =>
          cases value with
          | none => exact absurd hsql (by simp [compile])
          | some v =>
              obtain rfl := Except.ok.inj hsql
              exact Value.isTextOf_literal (hvalue v rfl)
  | constant h =>
      obtain rfl := Except.ok.inj hsql
      exact Value.isTextOf_literal h
  | @binary op left right hop hleft hright ihleft ihright =>
      obtain ⟨l, r, hl, hr, rfl⟩ :=
        compile_binary_of_not_isComparison hsql (BinaryOp.not_isComparison_of_isArithmetic hop)
      have hbody := Phrase.isTextOf_join ((ihleft hl).mono (Nat.zero_le op.looseness))
        ((ihright hr).mono (Nat.zero_le op.looseness)) fun _ => hright.eq_null_iff hr
      exact isTextOf_enclosed hbody (Nat.succ_le_succ op.looseness_le)
  | unary h ih => exact ih hsql

/-- The items of a list say what the list says. -/
theorem isListOf_compileItems {items : List Expr} (hne : items ≠ [])
    (h : ∀ item ∈ items, item.IsValue) {texts : List String}
    (htexts : compileItems items = .ok texts) :
    Phrase.IsListOf (",".intercalate texts).toList (phrases items) := by
  induction items generalizing texts with
  | nil => exact absurd rfl hne
  | cons item items ih =>
      rw [compileItems] at htexts
      obtain ⟨first, hfirst, htexts⟩ := Error.bind_eq_ok htexts
      obtain ⟨rest, hrest, htexts⟩ := Error.bind_eq_ok htexts
      obtain rfl := Except.ok.inj htexts
      obtain ⟨hitem, hitems⟩ := List.forall_mem_cons.mp h
      have htext := hitem.isTextOf hfirst
      cases items with
      | nil =>
          obtain rfl := Except.ok.inj hrest
          rw [String.intercalate_singleton]
          exact htext.isListOf (Nat.zero_le 5)
      | cons item' items =>
          have hmore := ih (List.cons_ne_nil _ _) hitems hrest
          have hlist := Phrase.IsListOf.cons htext (Nat.zero_le 5) hmore
          rw [compileItems] at hrest
          obtain ⟨second, -, hrest⟩ := Error.bind_eq_ok hrest
          obtain ⟨rest, -, hrest⟩ := Error.bind_eq_ok hrest
          obtain rfl := Except.ok.inj hrest
          rw [String.intercalate_cons_cons, String.append_assoc, String.toList_append,
            String.toList_append]
          exact hlist

/-- A list is refused everywhere but in the argument of a test. -/
theorem IsList.compile_ne_ok (h : e.IsList) (hside : side ≠ .list) :
    e.compile side bare ≠ .ok sql := by
  induction h generalizing side bare with
  | array => cases side <;> simp [compile] at hside ⊢
  | unary _ ih => exact ih (by decide)

/-- A list is read with its items in their order. -/
theorem IsList.isListOf (h : e.IsList) (hsql : e.compile .list bare = .ok sql) :
    ∃ ps, e.phrase .list = .list ps ∧ Phrase.IsListOf sql.toList ps := by
  cases h with
  | @array items hne h =>
      obtain ⟨item, items, rfl⟩ := List.exists_cons_of_ne_nil hne
      rw [compile] at hsql
      obtain ⟨first, hfirst, hsql⟩ := Error.bind_eq_ok hsql
      obtain ⟨rest, hrest, hsql⟩ := Error.bind_eq_ok hsql
      obtain rfl := Except.ok.inj hsql
      have htexts : compileItems (item :: items) = .ok (first :: rest) := by
        rw [compileItems, hfirst, hrest]
        rfl
      exact ⟨_, rfl, isListOf_compileItems hne h htexts⟩
  | unary h => exact absurd hsql (h.compile_ne_ok (by decide))

/-- The text of a condition binds tighter than `AND`, with parentheses or without. -/
theorem IsCondition.isTextOf (h : e.IsCondition) (hsql : e.compile side bare = .ok sql) :
    Phrase.IsTextOf 3 sql.toList (e.phrase side) := by
  induction h generalizing side bare sql with
  | @comparison op left right hop hleft hright =>
      obtain ⟨l, r, hl, hr, rfl⟩ := compile_binary_eq_ok hsql
      have hbody := Phrase.isTextOf_join ((hleft.isTextOf hl).mono (Nat.zero_le op.looseness))
        ((hright.isTextOf hr).mono (Nat.zero_le op.looseness)) fun _ => hright.eq_null_iff hr
      rw [BinaryOp.looseness_of_isComparison hop] at hbody
      split
      · exact hbody
      · exact (isTextOf_enclosed hbody (by decide)).mono (by decide)
  | @pattern method target argument hmethod htarget hargument =>
      obtain ⟨l, r, hl, hr, rfl⟩ := compile_call_eq_ok hsql
      have hbody := ((htarget.isTextOf hl).mono (Nat.zero_le 2)).pattern hmethod
        ((hargument.isTextOf hr).mono (Nat.zero_le 2))
      rw [← String.toList_append, ← String.toList_append, ← String.append_assoc] at hbody
      rw [Method.join_of_pattern hmethod]
      exact (isTextOf_enclosed hbody (by decide)).mono (by decide)
  | @membership method target argument hmethod htarget hargument =>
      obtain ⟨l, r, hl, hr, rfl⟩ := compile_call_eq_ok hsql
      have hside : method.argumentSide = .list := by rcases hmethod with rfl | rfl <;> rfl
      rw [hside] at hr
      obtain ⟨ps, hphrase, hlist⟩ := hargument.isListOf hr
      have htext := ((htarget.isTextOf hl).mono (Nat.zero_le 2)).membership hmethod hlist
      rw [Method.join_of_membership hmethod, String.toList_append, String.toList_append,
        String.toList_append, String.toList_append, phrase, hside, hphrase]
      exact htext
  | @connective op left right hop hleft hright ihleft ihright =>
      have hplain := BinaryOp.not_isComparison_of_isLogical hop
      obtain ⟨l, r, hl, hr, rfl⟩ := compile_binary_of_not_isComparison hsql hplain
      have hloose : 3 ≤ op.looseness := BinaryOp.three_le_looseness_of_isLogical hop
      have hbody := Phrase.isTextOf_join ((ihleft hl).mono hloose) ((ihright hr).mono hloose)
        fun hcomparison => absurd hcomparison (by simp [hplain])
      exact (isTextOf_enclosed hbody (Nat.succ_le_succ op.looseness_le)).mono (by decide)
  | unary h ih => exact ih hsql

/-- **The text of a condition, read by the precedence of SQL, says what the condition says.** -/
theorem fragment_keepsGrouping (h : e.IsCondition) (hsql : fragment (some e) = .ok sql) :
    Phrase.read? sql = some (e.phrase .identifier) :=
  (h.isTextOf hsql).read? (by decide)

/-- The people whose age, next year and twice, is at least a limit and who have no name, and the
people outside of two cities. -/
def peopleFilter : Expr :=
  binary .or
    (binary .and
      (binary .ge
        (binary .multiply (binary .add (column "Age") (constant (.integer 1)))
          (constant (.integer 2)))
        (unary (bound "Limit" (.integer 21))))
      (binary .eq (column "Name") (constant .null)))
    (unary (call .notIn
      [column "City", array [constant (.text "Rome"), bound "Home" (.text "Oslo")]]))

theorem isCondition_peopleFilter : peopleFilter.IsCondition := by
  have hcolumn : ∀ name, IsName name → (column name).IsValue := fun _ h => .member h (by simp)
  have hbound : ∀ name v, IsName name → v.Plain → (bound name v).IsValue :=
    fun _ _ h hv => .member h (by simpa using hv)
  have hnumber : ∀ n : Int64, 0 ≤ n.toInt → (constant (.integer n)).IsValue :=
    fun _ h => .constant h
  have hproduct : (binary .multiply (binary .add (column "Age") (constant (.integer 1)))
      (constant (.integer 2))).IsValue :=
    .binary rfl (.binary rfl (hcolumn "Age" (by decide)) (hnumber 1 (by decide)))
      (hnumber 2 (by decide))
  have hlimit : (unary (bound "Limit" (.integer 21))).IsValue :=
    .unary (hbound "Limit" _ (by decide) (by decide))
  have hnull : (constant .null).IsValue := .constant trivial
  have hcities : (array [constant (.text "Rome"), bound "Home" (.text "Oslo")]).IsList := by
    refine .array (List.cons_ne_nil _ _) (List.forall_mem_cons.mpr ⟨.constant (by decide), ?_⟩)
    exact List.forall_mem_singleton.mpr (hbound "Home" _ (by decide) (by decide))
  have hcity := IsCondition.membership (.inr rfl) (hcolumn "City" (by decide)) hcities
  have hname : (binary .eq (column "Name") (constant .null)).IsCondition :=
    .comparison rfl (hcolumn "Name" (by decide)) hnull
  exact .connective rfl (.connective rfl (.comparison rfl hproduct hlimit) hname) hcity.unary

theorem fragment_keepsGrouping_peopleFilter :
    peopleFilter.IsCondition
      ∧ fragment (some peopleFilter)
        = .ok "((((Age+1)*2)>=21 AND Name is null) OR City NOT IN ('Rome','Oslo'))"
      ∧ Phrase.read? "((((Age+1)*2)>=21 AND Name is null) OR City NOT IN ('Rome','Oslo'))"
        = some (.binary .or
          (.binary .and
            (.binary .ge
              (.binary .multiply (.binary .add (.column "Age") (.literal "1")) (.literal "2"))
              (.literal "21"))
            (.absence (.column "Name") false))
          (.test .notIn (.column "City") (.list [.literal "'Rome'", .literal "'Oslo'"]))) := by
  have hsql : fragment (some peopleFilter)
      = .ok "((((Age+1)*2)>=21 AND Name is null) OR City NOT IN ('Rome','Oslo'))" := by rfl
  exact ⟨isCondition_peopleFilter, hsql, fragment_keepsGrouping isCondition_peopleFilter hsql⟩

end Expr

end SqlRecords
