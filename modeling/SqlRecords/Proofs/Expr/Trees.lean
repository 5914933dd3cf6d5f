import SqlRecords.Proofs.Expr.Grouping

/-!
# Trees and their texts

What is said of every part of a tree is proved along the tree, and what is said of its text along
the nodes that the text is made of.

* `Expr.treeInduction` — induction over a tree, with its lists of children.
* `Expr.parts`, `Expr.Everywhere` — everything in a tree, and what holds of all of it.
* `Expr.HasText` — the text of a tree, node by node.
* `Expr.HasText.compile_eq`, `Expr.hasText_of_compile` — it is the text that the tree is compiled to.
-/

namespace SqlRecords

namespace Expr

/-- Induction over a tree: what holds of a node if it holds of its children holds of every tree. -/
theorem treeInduction {motive : Expr → Prop}
    (binary : ∀ op left right, motive left → motive right → motive (binary op left right))
    (member : ∀ name value, motive (member name value))
    (call : ∀ method args, (∀ arg ∈ args, motive arg) → motive (call method args))
    (constant : ∀ v, motive (constant v))
    (unary : ∀ operand, motive operand → motive (unary operand))
    (array : ∀ items, (∀ item ∈ items, motive item) → motive (array items)) (e : Expr) :
    motive e :=
  Expr.rec (motive_1 := motive) (motive_2 := fun es => ∀ e ∈ es, motive e) binary member call
    constant unary array (List.forall_mem_nil motive)
    (fun _ _ hhead htail => List.forall_mem_cons.mpr ⟨hhead, htail⟩) e

/-! ## The parts of a tree -/

mutual

/-- A tree, and the parts of its children. -/
def parts : Expr → List Expr
  | binary op left right => binary op left right :: (left.parts ++ right.parts)
  | member name value => [member name value]
  | call method args => call method args :: partsOfAll args
  | constant v => [constant v]
  | unary operand => unary operand :: operand.parts
  | array items => array items :: partsOfAll items

/-- The parts of several trees. -/
def partsOfAll : List Expr → List Expr
  | [] => []
  | e :: es => e.parts ++ partsOfAll es

end

/-- Every node is a part, and the items of a list are. -/
example : (unary (array [constant .null])).parts
    = [unary (array [constant .null]), array [constant .null], constant .null] := by cbv

/-- The condition holds of the tree and of everything in it. -/
def Everywhere (p : Expr → Prop) (e : Expr) : Prop := ∀ part ∈ e.parts, p part

instance (p : Expr → Prop) [DecidablePred p] (e : Expr) : Decidable (e.Everywhere p) :=
  inferInstanceAs (Decidable (∀ part ∈ e.parts, p part))

section Everywhere

variable {p : Expr → Prop} {e left right operand : Expr} {op : BinaryOp} {method : Method}
  {es args : List Expr}

/-- A part of several trees is a part of one of them. -/
theorem mem_partsOfAll {part : Expr} : part ∈ partsOfAll es ↔ ∃ e ∈ es, part ∈ e.parts := by
  induction es with
  | nil => simp [partsOfAll]
  | cons e es ih => simp [partsOfAll, ih]

theorem forall_partsOfAll : (∀ part ∈ partsOfAll es, p part) ↔ ∀ e ∈ es, e.Everywhere p := by
  simp only [mem_partsOfAll, Everywhere]
  exact ⟨fun h e he part hpart => h part ⟨e, he, hpart⟩,
    fun h part ⟨e, he, hpart⟩ => h e he part hpart⟩

/-- A condition on everything in a tree is one on the node and on everything in its children. -/
theorem everywhere_binary : (binary op left right).Everywhere p
    ↔ p (binary op left right) ∧ left.Everywhere p ∧ right.Everywhere p := by
  rw [Everywhere, parts, List.forall_mem_cons, List.forall_mem_append]
  rfl

theorem everywhere_member {name : String} {value : Option Value} :
    (member name value).Everywhere p ↔ p (member name value) := by
  rw [Everywhere, parts, List.forall_mem_singleton]

theorem everywhere_constant {v : Value} : (constant v).Everywhere p ↔ p (constant v) := by
  rw [Everywhere, parts, List.forall_mem_singleton]

theorem everywhere_unary :
    (unary operand).Everywhere p ↔ p (unary operand) ∧ operand.Everywhere p := by
  rw [Everywhere, parts, List.forall_mem_cons]
  rfl

theorem everywhere_array :
    (array es).Everywhere p ↔ p (array es) ∧ ∀ e ∈ es, e.Everywhere p := by
  rw [Everywhere, parts, List.forall_mem_cons, forall_partsOfAll]

theorem everywhere_call :
    (call method args).Everywhere p ↔ p (call method args) ∧ ∀ arg ∈ args, arg.Everywhere p := by
  rw [Everywhere, parts, List.forall_mem_cons, forall_partsOfAll]

/-- A test has its column and its argument for children. -/
theorem everywhere_test {target argument : Expr} :
    (call method [target, argument]).Everywhere p
      ↔ p (call method [target, argument]) ∧ target.Everywhere p ∧ argument.Everywhere p := by
  rw [everywhere_call, List.forall_mem_cons, List.forall_mem_singleton]

/-- What holds of everything in a tree holds of everything in a part of it. -/
theorem Everywhere.of_mem (h : e.Everywhere p) {part : Expr} (hpart : part ∈ e.parts) :
    part.Everywhere p := by
  induction e using treeInduction with
  | binary op left right ihleft ihright =>
      obtain ⟨-, hleft, hright⟩ := everywhere_binary.mp h
      rw [parts, List.mem_cons, List.mem_append] at hpart
      rcases hpart with rfl | hpart | hpart
      · exact h
      · exact ihleft hleft hpart
      · exact ihright hright hpart
  | member | constant =>
      obtain rfl := List.mem_singleton.mp hpart
      exact h
  | unary operand ih =>
      rw [parts, List.mem_cons] at hpart
      rcases hpart with rfl | hpart
      · exact h
      · exact ih (everywhere_unary.mp h).2 hpart
  | call method args ih =>
      rw [parts, List.mem_cons, mem_partsOfAll] at hpart
      rcases hpart with rfl | ⟨arg, harg, hpart⟩
      · exact h
      · exact ih arg harg ((everywhere_call.mp h).2 arg harg) hpart
  | array items ih =>
      rw [parts, List.mem_cons, mem_partsOfAll] at hpart
      rcases hpart with rfl | ⟨item, hitem, hpart⟩
      · exact h
      · exact ih item hitem ((everywhere_array.mp h).2 item hitem) hpart

end Everywhere

/-! ## Texts -/

/-- The expression has the text in a place. -/
inductive HasText : Side → (bare : Bool) → Expr → String → Prop where
  | name {bare : Bool} {name : String} {value : Option Value} :
      HasText .identifier bare (member name value) name
  | captured {side : Side} {bare : Bool} {name : String} {v : Value} (hside : side ≠ .identifier) :
      HasText side bare (member name (some v)) v.literal
  | constant {side : Side} {bare : Bool} {v : Value} : HasText side bare (constant v) v.literal
  | unary {side : Side} {bare : Bool} {operand : Expr} {sql : String}
      (h : HasText .value false operand sql) : HasText side bare (unary operand) sql
  | binary {side : Side} {bare : Bool} {op : BinaryOp} {left right : Expr} {l r : String}
      (hleft : HasText .identifier op.isLogical left l)
      (hright : HasText .value op.isLogical right r) :
      HasText side bare (binary op left right)
        (if bare && op.isComparison then op.join l r else "(" ++ op.join l r ++ ")")
  | pattern {side : Side} {bare : Bool} {method : Method} {target argument : Expr} {l r : String}
      (hmethod : method = .like ∨ method = .notLike) (htarget : HasText .identifier false target l)
      (hargument : HasText .value false argument r) :
      HasText side bare (call method [target, argument]) ("(" ++ (l ++ method.sql ++ r) ++ ")")
  | membership {side : Side} {bare : Bool} {method : Method} {target argument : Expr} {l r : String}
      (hmethod : method = .isIn ∨ method = .notIn) (htarget : HasText .identifier false target l)
      (hargument : HasText .list false argument r) :
      HasText side bare (call method [target, argument])
        (l ++ (method.sql ++ ("(" ++ r ++ ")")))
  /-- Every item has the text that stands in its place. -/
  | array {bare : Bool} {items : List Expr} {texts : List String} (hne : items ≠ [])
      (hlength : items.length = texts.length)
      (hitems : ∀ pair ∈ items.zip texts, HasText .value false pair.1 pair.2) :
      HasText .list bare (array items) (",".intercalate texts)

variable {e : Expr} {side : Side} {bare : Bool} {sql : String} {items : List Expr}
  {texts : List String}

theorem forall_mem_items {p : Expr → Prop} (hlength : items.length = texts.length) :
    (∀ item ∈ items, p item) ↔ ∀ pair ∈ items.zip texts, p pair.1 := by
  have hitems : (items.zip texts).map Prod.fst = items := List.map_fst_zip hlength.le
  rw [← List.forall_mem_map (f := Prod.fst), hitems]

theorem forall_mem_texts {q : String → Prop} (hlength : items.length = texts.length) :
    (∀ text ∈ texts, q text) ↔ ∀ pair ∈ items.zip texts, q pair.2 := by
  have htexts : (items.zip texts).map Prod.snd = texts := List.map_snd_zip hlength.ge
  rw [← List.forall_mem_map (f := Prod.snd), htexts]

/-- A list has a text only where a list may stand, and only if it has items. -/
theorem compile_array_eq_ok (h : (array items).compile side bare = .ok sql) :
    side = .list ∧ items ≠ [] ∧ ∃ texts, compileItems items = .ok texts
      ∧ sql = ",".intercalate texts := by
  cases side with
  | identifier | value => cases items <;> exact absurd h nofun
  | list =>
      cases items with
      | nil => exact absurd h nofun
      | cons item items =>
          rw [compile] at h
          obtain ⟨first, hfirst, h⟩ := Error.bind_eq_ok h
          obtain ⟨rest, hrest, h⟩ := Error.bind_eq_ok h
          refine ⟨rfl, List.cons_ne_nil _ _, first :: rest, ?_, (Except.ok.inj h).symm⟩
          rw [compileItems, hfirst, hrest]
          rfl

/-- The texts of the items of a list, one by one. -/
theorem compileItems_eq_ok_iff : compileItems items = .ok texts ↔ items.length = texts.length
    ∧ ∀ pair ∈ items.zip texts, pair.1.compile .value false = .ok pair.2 := by
  induction items generalizing texts with
  | nil =>
      rw [compileItems, Except.ok.injEq, List.length_nil, List.zip_nil_left]
      cases texts <;> simp
  | cons item items ih =>
      constructor
      · intro h
        rw [compileItems] at h
        obtain ⟨first, hfirst, h⟩ := Error.bind_eq_ok h
        obtain ⟨rest, hrest, h⟩ := Error.bind_eq_ok h
        obtain rfl := Except.ok.inj h
        obtain ⟨hlength, hitems⟩ := ih.mp hrest
        exact ⟨congrArg Nat.succ hlength, List.forall_mem_cons.mpr ⟨hfirst, hitems⟩⟩
      · rintro ⟨hlength, hitems⟩
        cases texts with
        | nil => exact absurd hlength (Nat.succ_ne_zero _)
        | cons first rest =>
            obtain ⟨hfirst, hitems⟩ := List.forall_mem_cons.mp hitems
            have hrest := ih.mpr ⟨Nat.succ.inj hlength, hitems⟩
            rw [compileItems, hfirst, hrest]
            rfl

/-- A tree is compiled to the text that it has. -/
theorem HasText.compile_eq (h : HasText side bare e sql) : e.compile side bare = .ok sql := by
  induction h with
  | name => rw [compile]
  | constant => exact compile_constant _ _ _
  | @captured side _ _ _ hside =>
      cases side with
      | identifier => exact absurd rfl hside
      | value | list => rfl
  | unary _ ih => rw [compile_unary, ih]
  | binary _ _ ihleft ihright =>
      rw [compile, ihleft, ihright]
      rfl
  | pattern hmethod _ _ ihtarget ihargument =>
      rw [← Method.join_of_pattern hmethod]
      rcases hmethod with rfl | rfl <;>
      · rw [compile, ihtarget, Method.argumentSide, ihargument]
        rfl
  | membership hmethod _ _ ihtarget ihargument =>
      rw [← Method.join_of_membership hmethod]
      rcases hmethod with rfl | rfl <;>
      · rw [compile, ihtarget, Method.argumentSide, ihargument]
        rfl
  | @array bare items texts hne hlength _ ihitems =>
      have htexts := compileItems_eq_ok_iff.mpr ⟨hlength, ihitems⟩
      obtain ⟨item, items, rfl⟩ := List.exists_cons_of_ne_nil hne
      rw [compileItems] at htexts
      obtain ⟨first, hfirst, htexts⟩ := Error.bind_eq_ok htexts
      obtain ⟨rest, hrest, htexts⟩ := Error.bind_eq_ok htexts
      obtain rfl := Except.ok.inj htexts
      rw [compile, hfirst, hrest]
      rfl

/-- A tree has the text that it is compiled to. -/
theorem hasText_of_compile (h : e.compile side bare = .ok sql) : HasText side bare e sql := by
  induction e using treeInduction generalizing side bare sql with
  | binary op left right ihleft ihright =>
      obtain ⟨l, r, hl, hr, rfl⟩ := compile_binary_eq_ok h
      exact .binary (ihleft hl) (ihright hr)
  | member name value =>
      cases side with
      | identifier =>
          obtain rfl := Except.ok.inj h
          exact .name
      | value | list =>
          cases value with
          | none => exact absurd h nofun
          | some v =>
              obtain rfl := Except.ok.inj h
              exact .captured (by decide)
  | call method args ih =>
      match args with
      | [target, argument] =>
          obtain ⟨l, r, hl, hr, rfl⟩ := compile_call_eq_ok h
          have htarget := ih target (by simp) hl
          have hargument := ih argument (by simp) hr
          cases method with
          | like =>
              exact Method.join_of_pattern (.inl rfl) l r ▸ .pattern (.inl rfl) htarget hargument
          | notLike =>
              exact Method.join_of_pattern (.inr rfl) l r ▸ .pattern (.inr rfl) htarget hargument
          | isIn =>
              exact Method.join_of_membership (.inl rfl) l r ▸
                .membership (.inl rfl) htarget hargument
          | notIn =>
              exact Method.join_of_membership (.inr rfl) l r ▸
                .membership (.inr rfl) htarget hargument
      | [] | [_] | _ :: _ :: _ :: _ => exact absurd h nofun
  | constant v =>
      rw [compile_constant] at h
      obtain rfl := Except.ok.inj h
      exact .constant
  | unary operand ih =>
      rw [compile_unary] at h
      exact .unary (ih h)
  | array items ih =>
      obtain ⟨rfl, hne, texts, htexts, rfl⟩ := compile_array_eq_ok h
      obtain ⟨hlength, hitems⟩ := compileItems_eq_ok_iff.mp htexts
      exact .array hne hlength fun pair hpair =>
        ih pair.1 (List.of_mem_zip hpair).1 (hitems pair hpair)

/-- In a tree that has a text, every part has one. -/
theorem HasText.everywhere (h : HasText side bare e sql) :
    e.Everywhere fun part => ∃ side bare text, HasText side bare part text := by
  induction h with
  | name => exact everywhere_member.mpr ⟨_, false, _, .name⟩
  | captured hside => exact everywhere_member.mpr ⟨_, false, _, .captured hside⟩
  | constant => exact everywhere_constant.mpr ⟨.value, false, _, .constant⟩
  | unary h ih => exact everywhere_unary.mpr ⟨⟨.value, false, _, .unary h⟩, ih⟩
  | binary hleft hright ihleft ihright =>
      exact everywhere_binary.mpr ⟨⟨.value, false, _, .binary hleft hright⟩, ihleft, ihright⟩
  | pattern hmethod htarget hargument ihtarget ihargument =>
      exact everywhere_test.mpr
        ⟨⟨.value, false, _, .pattern hmethod htarget hargument⟩, ihtarget, ihargument⟩
  | membership hmethod htarget hargument ihtarget ihargument =>
      exact everywhere_test.mpr
        ⟨⟨.value, false, _, .membership hmethod htarget hargument⟩, ihtarget, ihargument⟩
  | @array bare items texts hne hlength hitems ihitems =>
      exact everywhere_array.mpr ⟨⟨.list, false, _, .array hne hlength hitems⟩,
        (forall_mem_items hlength).mpr ihitems⟩

end Expr

end SqlRecords
