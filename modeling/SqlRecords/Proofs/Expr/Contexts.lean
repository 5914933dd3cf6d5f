import SqlRecords.Proofs.Expr.Trees

/-!
# Trees with an open place

A tree with a place left open says where in a tree a node stands, and keeps two places with the same
node apart.  The text of the whole has the text of what is put into the place as a piece of it.

* `Expr.Context`, `Context.plug` — trees with an open place, and what they are when it is filled.
* `Expr.mem_parts_iff` — the parts of a tree are what stands in its places.
* `Framing` — a text with something in front of it and something behind it.
* `BinaryOp.framing_join`, `Method.framing_target`, `Method.framing_argument`,
  `framing_intercalate` — the texts of the nodes frame those of their children.
-/

namespace SqlRecords

/-! ## Places -/

namespace Expr

/-- A tree with one place left open. -/
inductive Context where
  | hole
  | leftOf (op : BinaryOp) (c : Context) (right : Expr)
  | rightOf (op : BinaryOp) (left : Expr) (c : Context)
  | argument (method : Method) (front : List Expr) (c : Context) (back : List Expr)
  | unary (c : Context)
  | item (front : List Expr) (c : Context) (back : List Expr)

/-- The tree with the place filled. -/
def Context.plug : Context → Expr → Expr
  | hole, e => e
  | leftOf op c right, e => binary op (c.plug e) right
  | rightOf op left c, e => binary op left (c.plug e)
  | argument method front c back, e => call method (front ++ c.plug e :: back)
  | unary c, e => .unary (c.plug e)
  | item front c back, e => array (front ++ c.plug e :: back)

/-- A part of one of several trees stands in one of them. -/
theorem exists_plug_of_mem_partsOfAll {part : Expr} {es : List Expr}
    (ih : ∀ e ∈ es, part ∈ e.parts → ∃ c : Context, c.plug part = e) (h : part ∈ partsOfAll es) :
    ∃ front c back, es = front ++ Context.plug c part :: back := by
  obtain ⟨e, he, hpart⟩ := mem_partsOfAll.mp h
  obtain ⟨c, rfl⟩ := ih e he hpart
  obtain ⟨front, back, rfl⟩ := List.append_of_mem he
  exact ⟨front, c, back, rfl⟩

/-- **The parts of a tree are what stands in its places.** -/
theorem mem_parts_iff {part e : Expr} : part ∈ e.parts ↔ ∃ c : Context, c.plug part = e := by
  constructor
  · intro h
    induction e using treeInduction with
    | binary op left right ihleft ihright =>
        rw [parts, List.mem_cons, List.mem_append] at h
        rcases h with rfl | h | h
        · exact ⟨.hole, rfl⟩
        · obtain ⟨c, rfl⟩ := ihleft h
          exact ⟨.leftOf op c right, rfl⟩
        · obtain ⟨c, rfl⟩ := ihright h
          exact ⟨.rightOf op left c, rfl⟩
    | member | constant =>
        obtain rfl := List.mem_singleton.mp h
        exact ⟨.hole, rfl⟩
    | call method args ih =>
        rw [parts, List.mem_cons] at h
        rcases h with rfl | h
        · exact ⟨.hole, rfl⟩
        · obtain ⟨front, c, back, rfl⟩ := exists_plug_of_mem_partsOfAll ih h
          exact ⟨.argument method front c back, rfl⟩
    | unary operand ih =>
        rw [parts, List.mem_cons] at h
        rcases h with rfl | h
        · exact ⟨.hole, rfl⟩
        · obtain ⟨c, rfl⟩ := ih h
          exact ⟨.unary c, rfl⟩
    | array items ih =>
        rw [parts, List.mem_cons] at h
        rcases h with rfl | h
        · exact ⟨.hole, rfl⟩
        · obtain ⟨front, c, back, rfl⟩ := exists_plug_of_mem_partsOfAll ih h
          exact ⟨.item front c back, rfl⟩
  · rintro ⟨c, rfl⟩
    induction c with
    | hole => cases part <;> exact List.mem_cons_self
    | leftOf op c right ih => exact List.mem_cons_of_mem _ (List.mem_append_left _ ih)
    | rightOf op left c ih => exact List.mem_cons_of_mem _ (List.mem_append_right _ ih)
    | argument method front c back ih =>
        exact List.mem_cons_of_mem _ (mem_partsOfAll.mpr ⟨_, List.mem_append_cons_self, ih⟩)
    | unary c ih => exact List.mem_cons_of_mem _ ih
    | item front c back ih =>
        exact List.mem_cons_of_mem _ (mem_partsOfAll.mpr ⟨_, List.mem_append_cons_self, ih⟩)

/-! ## Nodes with their children -/

variable {e : Expr} {side : Side} {bare : Bool} {sql : String}

/-- A call has a text only with what is tested and what it is tested against. -/
theorem exists_of_compile_call {method : Method} {args : List Expr}
    (h : (call method args).compile side bare = .ok sql) : ∃ target argument l r,
      args = [target, argument] ∧ target.compile .identifier false = .ok l
      ∧ argument.compile method.argumentSide false = .ok r ∧ sql = method.join l r := by
  match args with
  | [target, argument] =>
      obtain ⟨l, r, hl, hr, rfl⟩ := compile_call_eq_ok h
      exact ⟨target, argument, l, r, rfl, hl, hr, rfl⟩
  | [] | [_] | _ :: _ :: _ :: _ => exact absurd h nofun

theorem compileItems_cons_iff {items : List Expr} {texts : List String} :
    compileItems (e :: items) = .ok texts ↔ ∃ text rest,
      e.compile .value false = .ok text ∧ compileItems items = .ok rest ∧ texts = text :: rest := by
  rw [compileItems]
  constructor
  · intro h
    obtain ⟨text, htext, h⟩ := Error.bind_eq_ok h
    obtain ⟨rest, hrest, h⟩ := Error.bind_eq_ok h
    exact ⟨text, rest, htext, hrest, (Except.ok.inj h).symm⟩
  · rintro ⟨text, rest, htext, hrest, rfl⟩
    rw [htext, hrest]
    rfl

/-- The texts of a list, around that of one of its items. -/
theorem compileItems_append_cons_iff {front back : List Expr} {texts : List String} :
    compileItems (front ++ e :: back) = .ok texts ↔ ∃ before text after,
      compileItems front = .ok before ∧ e.compile .value false = .ok text
      ∧ compileItems back = .ok after ∧ texts = before ++ text :: after := by
  induction front generalizing texts with
  | nil =>
      rw [List.nil_append, compileItems_cons_iff]
      constructor
      · rintro ⟨text, after, htext, hafter, rfl⟩
        exact ⟨[], text, after, rfl, htext, hafter, rfl⟩
      · rintro ⟨before, text, after, hbefore, htext, hafter, rfl⟩
        obtain rfl := Except.ok.inj hbefore
        exact ⟨text, after, htext, hafter, rfl⟩
  | cons item front ih =>
      rw [List.cons_append, compileItems_cons_iff]
      constructor
      · rintro ⟨first, rest, hfirst, hrest, rfl⟩
        obtain ⟨before, text, after, hbefore, htext, hafter, rfl⟩ := ih.mp hrest
        have hfront := compileItems_cons_iff.mpr ⟨first, before, hfirst, hbefore, rfl⟩
        exact ⟨first :: before, text, after, hfront, htext, hafter, rfl⟩
      · rintro ⟨before, text, after, hbefore, htext, hafter, rfl⟩
        obtain ⟨first, rest, hfirst, hrest, rfl⟩ := compileItems_cons_iff.mp hbefore
        exact ⟨first, _, hfirst, ih.mpr ⟨rest, text, after, hrest, htext, hafter, rfl⟩, rfl⟩

theorem compile_array_of_compileItems {items : List Expr} {texts : List String} (hne : items ≠ [])
    (h : compileItems items = .ok texts) :
    (array items).compile .list bare = .ok (",".intercalate texts) := by
  obtain ⟨hlength, hitems⟩ := compileItems_eq_ok_iff.mp h
  have htext : HasText .list bare (array items) (",".intercalate texts) :=
    .array hne hlength fun pair hpair => hasText_of_compile (hitems pair hpair)
  exact htext.compile_eq

end Expr

/-! ## Frames -/

/-- The text is put between two others. -/
def Framing (f : String → String) : Prop := ∃ before after, ∀ text, f text = before ++ text ++ after

theorem framing_id : Framing id :=
  ⟨"", "", fun text => by rw [String.empty_append, String.append_empty, id]⟩

theorem framing_append_left (before : String) : Framing fun text => before ++ text :=
  ⟨before, "", fun _ => String.append_empty.symm⟩

theorem framing_append_right (after : String) : Framing fun text => text ++ after :=
  ⟨"", after, fun _ => by rw [String.empty_append]⟩

theorem Framing.comp {f g : String → String} (hf : Framing f) (hg : Framing g) :
    Framing (f ∘ g) := by
  obtain ⟨before, after, hf⟩ := hf
  obtain ⟨first, last, hg⟩ := hg
  refine ⟨before ++ first, last ++ after, fun text => ?_⟩
  rw [Function.comp_apply, hf, hg]
  simp only [String.append_assoc]

/-- A node with parentheses around it, or without. -/
theorem framing_node (bare : Bool) :
    Framing fun body => if bare then body else "(" ++ body ++ ")" := by
  cases bare with
  | true => exact framing_id
  | false => exact ⟨"(", ")", fun _ => rfl⟩

/-- The text of an operator frames that of its left operand. -/
theorem BinaryOp.framing_join (op : BinaryOp) (r : String) : Framing fun l => op.join l r := by
  have hinfix : Framing fun l => l ++ op.sql ++ r :=
    (framing_append_right r).comp (framing_append_right op.sql)
  have hwords : ∀ words, Framing fun l =>
      if r = Value.nullLiteral then l ++ words else l ++ op.sql ++ r := by
    intro words
    split
    · exact framing_append_right words
    · exact hinfix
  cases op with
  | eq => exact hwords " is null"
  | ne => exact hwords " is not null"
  | _ => exact hinfix

namespace Method

theorem exists_join_eq (method : Method) : ∃ opening closing words, ∀ l r,
    method.join l r = opening ++ l ++ words ++ r ++ closing := by
  cases method with
  | like => exact ⟨"(", ")", like.sql, fun _ _ => rfl⟩
  | notLike => exact ⟨"(", ")", notLike.sql, fun _ _ => rfl⟩
  | isIn => exact ⟨"", ")", isIn.sql ++ "(", fun l r => by
      rw [join, String.empty_append]
      simp only [String.append_assoc]⟩
  | notIn => exact ⟨"", ")", notIn.sql ++ "(", fun l r => by
      rw [join, String.empty_append]
      simp only [String.append_assoc]⟩

/-- The text of a test frames that of what it tests. -/
theorem framing_target (method : Method) (r : String) : Framing fun l => method.join l r := by
  obtain ⟨opening, closing, words, hjoin⟩ := method.exists_join_eq
  exact ⟨opening, words ++ r ++ closing, fun l => by simp only [hjoin, String.append_assoc]⟩

/-- The text of a test frames that of its argument. -/
theorem framing_argument (method : Method) (l : String) : Framing (method.join l) := by
  obtain ⟨opening, closing, words, hjoin⟩ := method.exists_join_eq
  exact ⟨opening ++ l ++ words, closing, hjoin l⟩

end Method

/-- The text of a list frames that of each of its items. -/
theorem framing_intercalate (front back : List String) :
    Framing fun text => ",".intercalate (front ++ text :: back) := by
  induction front with
  | nil =>
      cases back with
      | nil => exact ⟨"", "", fun text => by simp⟩
      | cons next back =>
          exact ⟨"", "," ++ ",".intercalate (next :: back), fun text => by
            simp only [List.nil_append, String.intercalate_cons_cons, String.empty_append,
              String.append_assoc]⟩
  | cons first front ih =>
      have hcons : ∀ text, ",".intercalate (first :: front ++ text :: back)
          = first ++ "," ++ ",".intercalate (front ++ text :: back) := by
        intro text
        cases front <;> exact String.intercalate_cons_cons
      simp only [hcons]
      exact (framing_append_left (first ++ ",")).comp ih

end SqlRecords
