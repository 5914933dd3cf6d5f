import SqlRecords.Proofs.Expr.Trees

/-!
# Expressions that have a text

Which trees have a text depends on the place of every node: a member needs its captured value to the
right of an operator but not to the left of it, and an array is for the argument of `IN` alone.  The
four ways in which a node can be refused are all reported as unsupported, and nothing else goes
wrong.

* `Expr.Acceptable` — the expressions that are acceptable in a place.
* **`Expr.fragment_supported_iff`** — these, and no others, have a text.
-/

namespace SqlRecords

namespace Expr

/-! ## Acceptable expressions -/

/-- The expression is acceptable on a side of an operator. -/
inductive Acceptable : Side → Expr → Prop where
  | constant {side : Side} {v : Value} : Acceptable side (constant v)
  | name {name : String} {value : Option Value} : Acceptable .identifier (member name value)
  | captured {name : String} {v : Value} : Acceptable .value (member name (some v))
  | unary {side : Side} {operand : Expr} (h : Acceptable .value operand) :
      Acceptable side (unary operand)
  | binary {side : Side} {op : BinaryOp} {left right : Expr}
      (hleft : Acceptable .identifier left) (hright : Acceptable .value right) :
      Acceptable side (binary op left right)
  | pattern {side : Side} {method : Method} {target argument : Expr}
      (hmethod : method = .like ∨ method = .notLike) (htarget : Acceptable .identifier target)
      (hargument : Acceptable .value argument) : Acceptable side (call method [target, argument])
  /-- A list that is given as one value. -/
  | membership {side : Side} {method : Method} {target argument : Expr}
      (hmethod : method = .isIn ∨ method = .notIn) (htarget : Acceptable .identifier target)
      (hargument : Acceptable .value argument) : Acceptable side (call method [target, argument])
  | list {side : Side} {method : Method} {target : Expr} {items : List Expr}
      (hmethod : method = .isIn ∨ method = .notIn) (htarget : Acceptable .identifier target)
      (hne : items ≠ []) (hitems : ∀ item ∈ items, Acceptable .value item) :
      Acceptable side (call method [target, array items])

variable {e : Expr} {side : Side} {bare : Bool}

/-! ## Acceptable expressions have a text -/

/-- Between the parentheses of `IN` a value has the same text as elsewhere. -/
theorem HasText.list {sql : String} (h : HasText .value bare e sql) : HasText .list bare e sql := by
  cases h with
  | captured => exact .captured (by decide)
  | constant => exact .constant
  | unary h => exact .unary h
  | binary hleft hright => exact .binary hleft hright
  | pattern hmethod htarget hargument => exact .pattern hmethod htarget hargument
  | membership hmethod htarget hargument => exact .membership hmethod htarget hargument

/-- If every item has a text, there are texts for all of them. -/
theorem exists_texts {items : List Expr}
    (h : ∀ item ∈ items, ∃ sql, HasText .value false item sql) :
    ∃ texts, items.length = texts.length
      ∧ ∀ pair ∈ items.zip texts, HasText .value false pair.1 pair.2 := by
  induction items with
  | nil => exact ⟨[], rfl, List.forall_mem_nil _⟩
  | cons item items ih =>
      obtain ⟨⟨first, hfirst⟩, hitems⟩ := List.forall_mem_cons.mp h
      obtain ⟨rest, hlength, hrest⟩ := ih hitems
      exact ⟨first :: rest, congrArg Nat.succ hlength, List.forall_mem_cons.mpr ⟨hfirst, hrest⟩⟩

/-- An acceptable tree has a text. -/
theorem Acceptable.exists_hasText (h : Acceptable side e) (hside : side ≠ .list) :
    ∀ bare, ∃ sql, HasText side bare e sql := by
  induction h with
  | constant => exact fun _ => ⟨_, .constant⟩
  | name => exact fun _ => ⟨_, .name⟩
  | captured => exact fun _ => ⟨_, .captured (by decide)⟩
  | unary _ ih =>
      intro bare
      obtain ⟨sql, hsql⟩ := ih (by decide) false
      exact ⟨sql, .unary hsql⟩
  | @binary side op left right _ _ ihleft ihright =>
      intro bare
      obtain ⟨l, hl⟩ := ihleft (by decide) op.isLogical
      obtain ⟨r, hr⟩ := ihright (by decide) op.isLogical
      exact ⟨_, .binary hl hr⟩
  | pattern hmethod _ _ ihtarget ihargument =>
      intro bare
      obtain ⟨l, hl⟩ := ihtarget (by decide) false
      obtain ⟨r, hr⟩ := ihargument (by decide) false
      exact ⟨_, .pattern hmethod hl hr⟩
  | membership hmethod _ _ ihtarget ihargument =>
      intro bare
      obtain ⟨l, hl⟩ := ihtarget (by decide) false
      obtain ⟨r, hr⟩ := ihargument (by decide) false
      exact ⟨_, .membership hmethod hl hr.list⟩
  | list hmethod _ hne _ ihtarget ihitems =>
      intro bare
      obtain ⟨l, hl⟩ := ihtarget (by decide) false
      obtain ⟨texts, hlength, htexts⟩ := exists_texts fun item hitem =>
        ihitems item hitem (by decide) false
      exact ⟨_, .membership hmethod hl (.array hne hlength htexts)⟩

/-! ## Nothing else has a text -/

/-- A text is there only if `p` holds; where there is none, it is because of something that is not
supported. -/
def SupportedOnlyIf (p : Prop) {α : Type} : Except Error α → Prop
  | .ok _ => p
  | .error e => e.kind = .unsupportedExpression

/-- Two steps, where the first one has to succeed before the second one is asked. -/
theorem SupportedOnlyIf.bind {p q : Prop} {α β : Type} {x : Except Error α}
    {f : α → Except Error β} (hx : SupportedOnlyIf p x) (hf : p → ∀ a, SupportedOnlyIf q (f a)) :
    SupportedOnlyIf q (x >>= f) := by
  cases x with
  | ok a => exact hf hx a
  | error e => exact hx

theorem SupportedOnlyIf.imp {p q : Prop} {α : Type} {x : Except Error α}
    (h : SupportedOnlyIf p x) (hpq : p → q) : SupportedOnlyIf q x := by
  cases x with
  | ok a => exact hpq h
  | error e => exact h

/-- What is acceptable in a place; between the parentheses of `IN` that is a value, or several. -/
def FitsIn : Side → Expr → Prop
  | .list, e => e.Acceptable .value
    ∨ ∃ items, e = array items ∧ items ≠ [] ∧ ∀ item ∈ items, item.Acceptable .value
  | side, e => e.Acceptable side

theorem FitsIn.of_acceptable (h : ∀ side, Acceptable side e) : FitsIn side e := by
  cases side with
  | identifier => exact h .identifier
  | value => exact h .value
  | list => exact .inl (h .value)

theorem supported_compileItems {items : List Expr}
    (h : ∀ item ∈ items, SupportedOnlyIf (item.Acceptable .value) (item.compile .value false)) :
    SupportedOnlyIf (∀ item ∈ items, item.Acceptable .value) (compileItems items) := by
  induction items with
  | nil => exact List.forall_mem_nil _
  | cons item items ih =>
      obtain ⟨hitem, hitems⟩ := List.forall_mem_cons.mp h
      rw [compileItems]
      exact hitem.bind fun hfirst _ => (ih hitems).bind fun hrest _ =>
        List.forall_mem_cons.mpr ⟨hfirst, hrest⟩

/-- A call with an argument that fits is acceptable everywhere. -/
theorem acceptable_call {method : Method} {target argument : Expr}
    (htarget : target.Acceptable .identifier) (hargument : argument.FitsIn method.argumentSide) :
    Acceptable side (call method [target, argument]) := by
  cases method with
  | like => exact .pattern (.inl rfl) htarget hargument
  | notLike => exact .pattern (.inr rfl) htarget hargument
  | isIn =>
      rcases hargument with hvalue | ⟨items, rfl, hne, hitems⟩
      · exact .membership (.inl rfl) htarget hvalue
      · exact .list (.inl rfl) htarget hne hitems
  | notIn =>
      rcases hargument with hvalue | ⟨items, rfl, hne, hitems⟩
      · exact .membership (.inr rfl) htarget hvalue
      · exact .list (.inr rfl) htarget hne hitems

/-- Only a tree that fits is compiled. -/
theorem supported_compile (e : Expr) :
    ∀ side bare, SupportedOnlyIf (e.FitsIn side) (e.compile side bare) := by
  induction e using treeInduction with
  | binary op left right ihleft ihright =>
      intro side bare
      rw [compile]
      exact (ihleft .identifier _).bind fun hleft _ => (ihright .value _).bind fun hright _ =>
        .of_acceptable fun _ => .binary hleft hright
  | member name value =>
      intro side bare
      cases side with
      | identifier => exact .name
      | value =>
          cases value with
          | none => rfl
          | some v => exact .captured
      | list =>
          cases value with
          | none => rfl
          | some v => exact .inl .captured
  | call method args ih =>
      intro side bare
      rcases args with _ | ⟨target, _ | ⟨argument, _ | _⟩⟩
      · rfl
      · rfl
      · rw [compile]
        refine (ih target (by simp) .identifier false).bind fun htarget _ => ?_
        refine (ih argument (by simp) method.argumentSide false).bind fun hargument _ => ?_
        exact .of_acceptable fun _ => acceptable_call htarget hargument
      · rfl
  | constant v =>
      intro side bare
      rw [compile_constant]
      exact .of_acceptable fun _ => .constant
  | unary operand ih =>
      intro side bare
      rw [compile_unary]
      exact (ih .value false).imp fun hoperand => .of_acceptable fun _ => .unary hoperand
  | array items ih =>
      intro side bare
      cases side with
      | identifier | value => cases items <;> exact rfl
      | list =>
          cases items with
          | nil => exact rfl
          | cons item items =>
              obtain ⟨hitem, hitems⟩ := List.forall_mem_cons.mp ih
              have hrest := supported_compileItems fun i hi => hitems i hi .value false
              rw [compile]
              refine (hitem .value false).bind fun hfirst _ => hrest.bind fun hrest _ => ?_
              exact .inr ⟨_, rfl, List.cons_ne_nil _ _, List.forall_mem_cons.mpr ⟨hfirst, hrest⟩⟩

/-- **The acceptable expressions, and no others, have a text**; every other expression is refused as
unsupported. -/
theorem fragment_supported_iff (e : Expr) :
    ((∃ sql, fragment (some e) = .ok sql) ↔ e.Acceptable .identifier)
      ∧ ((∃ err, fragment (some e) = .error err ∧ err.kind = .unsupportedExpression)
        ↔ ¬ e.Acceptable .identifier) := by
  have hsupported := supported_compile e .identifier false
  rw [fragment]
  cases hcompile : e.compile .identifier false with
  | ok sql =>
      rw [hcompile] at hsupported
      exact ⟨iff_of_true ⟨sql, rfl⟩ hsupported,
        iff_of_false (fun ⟨_, herror, _⟩ => absurd herror nofun) (not_not_intro hsupported)⟩
  | error err =>
      rw [hcompile] at hsupported
      have hrefused : ¬ e.Acceptable .identifier := by
        intro hacceptable
        obtain ⟨sql, hsql⟩ := hacceptable.exists_hasText (by decide) false
        exact absurd (hcompile.symm.trans hsql.compile_eq) nofun
      exact ⟨iff_of_false (fun ⟨_, hok⟩ => absurd hok nofun) hrefused,
        iff_of_true ⟨err, rfl, hsupported⟩ hrefused⟩

end Expr

end SqlRecords
