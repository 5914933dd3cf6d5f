import SqlRecords.Proofs.Expr.Tokens
import SqlRecords.Value.Text

/-!
# The grammar of SQL expressions

Tokens become a tree by the precedence of SQL: products bind tighter than sums, these tighter than
comparisons and the tests `IS NULL`, `LIKE` and `IN`, these tighter than `AND`, and `AND` tighter
than `OR`.  Operators of one strength are taken from left to right.

There is a reader for each strength.  It reads an operand with the next tighter reader and goes on
as long as an operator of its own strength follows (`chain`).  Only parentheses lead back to the
loosest reader, so the depth of the parentheses is what the recursion is on.

* `Phrase` — the trees.
* `Phrase.level` — the readers, from the tightest; `Phrase.read?` — the tree of a text.
* `Phrase.Reads` — the tokens are an expression of some strength, whatever follows it that is not an
  operator of that strength.  **`Reads.binary`** and its like say how such expressions are made.
-/

namespace SqlRecords

/-- An SQL expression as it is understood. -/
inductive Phrase where
  | column (name : String)
  | literal (sql : String)
  | binary (op : BinaryOp) (left right : Phrase)
  /-- `IS NULL`, or `IS NOT NULL` if `negated`. -/
  | absence (operand : Phrase) (negated : Bool)
  | test (method : Method) (target argument : Phrase)
  /-- What stands between the parentheses of `IN`. -/
  | list (items : List Phrase)

/-- How loose an operator binds: what is looser stands further up in the tree. -/
def BinaryOp.looseness : BinaryOp → Nat
  | multiply | divide => 0
  | add | subtract => 1
  | eq | ne | gt | ge | lt | le => 2
  | and => 3
  | or => 4

/-- How loose a token binds that goes on with an expression. -/
def Token.looseness? : Token → Option Nat
  | operator op => some op.looseness
  | is | not | like | isIn => some 2
  | _ => none

namespace Phrase

open Token

/-- A reader gives a tree, and the tokens behind it. -/
abbrev Reader : Type := List Token → Option (Phrase × List Token)

/-! ## Readers -/

/-- Goes on with an expression as long as there is a step to take, and at most `n` steps. -/
def goOn (step? : Phrase → Reader) : (n : Nat) → Phrase → List Token → Phrase × List Token
  | 0, left, ts => (left, ts)
  | n + 1, left, ts =>
    match step? left ts with
    | none => (left, ts)
    | some (left', ts') => goOn step? n left' ts'

/-- An operand, and every step that follows it, from left to right. -/
def chain (operand : Reader) (step? : Phrase → Reader) : Reader := fun ts =>
  (operand ts).map fun (left, rest) => goOn step? rest.length left rest

/-- An operator of the given looseness and its right operand. -/
def infix? (operand : Reader) (k : Nat) (left : Phrase) : Reader
  | .operator op :: ts =>
    if op.looseness = k then (operand ts).map fun (right, rest) => (binary op left right, rest)
    else none
  | _ => none

/-- Expressions with commas between them, up to the closing parenthesis. -/
def items? (inner : Reader) : (n : Nat) → List Token → Option (List Phrase × List Token)
  | 0, _ => none
  | n + 1, ts => do
    let (first, rest) ← inner ts
    match rest with
    | .closing :: rest => return ([first], rest)
    | .comma :: rest =>
      let (more, rest) ← items? inner n rest
      return (first :: more, rest)
    | _ => none

/-- The list of `IN` or `NOT IN`. -/
def membership? (inner : Reader) (method : Method) (left : Phrase) : Reader
  | .opening :: ts =>
    (items? inner ts.length ts).map fun (items, rest) => (test method left (list items), rest)
  | _ => none

/-- The pattern of `LIKE` or `NOT LIKE`. -/
def pattern? (operand : Reader) (method : Method) (left : Phrase) : Reader := fun ts =>
  (operand ts).map fun (right, rest) => (test method left right, rest)

/-- A test, or a comparison. -/
def test? (inner operand : Reader) (left : Phrase) : Reader
  | .is :: .null :: ts => some (absence left false, ts)
  | .is :: .not :: .null :: ts => some (absence left true, ts)
  | .like :: ts => pattern? operand .like left ts
  | .not :: .like :: ts => pattern? operand .notLike left ts
  | .isIn :: ts => membership? inner .isIn left ts
  | .not :: .isIn :: ts => membership? inner .notIn left ts
  | ts => infix? operand 2 left ts

/-- A name, a literal, or an expression in parentheses. -/
def primary? (inner : Reader) : Reader
  | .name s :: ts => some (column s, ts)
  | .literal sql :: ts => some (literal sql, ts)
  | .null :: ts => some (literal Value.nullLiteral, ts)
  | .opening :: ts =>
    match inner ts with
    | some (p, .closing :: rest) => some (p, rest)
    | _ => none
  | _ => none

/-- The steps of an expression whose operators have looseness `k`. -/
def step? (inner operand : Reader) (k : Nat) : Phrase → Reader :=
  if k = 2 then test? inner operand else infix? operand k

/-- The expressions whose operators are all tighter than `n`. -/
def level (inner : Reader) : Nat → Reader
  | 0 => primary? inner
  | n + 1 => chain (level inner n) (step? inner (level inner n) n)

/-- The expressions with at most so many parentheses around each other. -/
def expression : (depth : Nat) → Reader
  | 0 => fun _ => none
  | depth + 1 => level (expression depth) 5

/-- The tree of a text, if the whole text is an expression. -/
def read? (sql : String) : Option Phrase :=
  match (tokens? sql.toList).bind fun ts => expression (ts.length + 1) ts with
  | some (p, []) => some p
  | _ => none

/-- Strength decides, and equal strength goes from left to right. -/
example : read? "a-b-c*2=d OR e AND f is null"
    = some (binary .or
      (binary .eq
        (binary .subtract (binary .subtract (column "a") (column "b"))
          (binary .multiply (column "c") (literal "2")))
        (column "d"))
      (binary .and (column "e") (absence (column "f") false))) := by cbv

/-! ## What may follow an expression -/

/-- The next token does not go on with an expression whose operators are tighter than `n`. -/
def Ends (n : Nat) (rest : List Token) : Prop :=
  ∀ t ∈ rest.head?, ∀ k, t.looseness? = some k → n ≤ k

theorem Ends.anti {m n : Nat} {rest : List Token} (h : Ends n rest) (hmn : m ≤ n) :
    Ends m rest :=
  fun t ht k hk => Nat.le_trans hmn (h t ht k hk)

theorem ends_nil (n : Nat) : Ends n [] := nofun

/-- Nothing goes on after a closing parenthesis or a comma. -/
theorem ends_cons {t : Token} (h : t.looseness? = none) (n : Nat) (rest : List Token) :
    Ends n (t :: rest) := by
  rintro _ ⟨⟩ k hk
  rw [h] at hk
  exact absurd hk nofun

theorem ends_of_looseness {t : Token} {k : Nat} (h : t.looseness? = some k) (rest : List Token) :
    Ends k (t :: rest) := by
  rintro _ ⟨⟩ k' hk
  rw [h] at hk
  exact Nat.le_of_eq (Option.some.inj hk)

section Steps

variable {inner operand : Reader} {left left' : Phrase} {ts rest rest' : List Token} {k n : Nat}

theorem infix?_eq_none (h : Ends (k + 1) rest) : infix? operand k left rest = none := by
  unfold infix?
  split
  · rename_i op ts
    refine if_neg ?_
    rintro rfl
    exact absurd (h _ rfl _ rfl) (Nat.not_succ_le_self _)
  · rfl

theorem test?_eq_none (h : Ends 3 rest) : test? inner operand left rest = none := by
  have htoken : ∀ t ∈ rest.head?, t.looseness? ≠ some 2 := by
    intro t ht hloose
    exact absurd (h t ht 2 hloose) (by decide)
  unfold test?
  split
  case h_7 => exact infix?_eq_none h
  all_goals exact absurd rfl (htoken _ rfl)

/-- Without an operator of its looseness there is no step to take. -/
theorem step?_eq_none (h : Ends (k + 1) rest) : step? inner operand k left rest = none := by
  rw [step?]
  split
  · rename_i htwo
    subst htwo
    exact test?_eq_none h
  · exact infix?_eq_none h

theorem goOn_eq {step? : Phrase → Reader} (h : step? left rest = none) (n : Nat) :
    goOn step? n left rest = (left, rest) := by
  cases n with
  | zero => rfl
  | succ n => rw [goOn, h]

theorem chain_of_none {step? : Phrase → Reader} (hoperand : operand ts = some (left, rest))
    (hstep : step? left rest = none) : chain operand step? ts = some (left, rest) := by
  rw [chain, hoperand, Option.map_some]
  exact congrArg some (goOn_eq hstep rest.length)

/-- One step, and then none. -/
theorem chain_of_some {step? : Phrase → Reader} (hoperand : operand ts = some (left, rest))
    (hne : rest ≠ []) (hstep : step? left rest = some (left', rest'))
    (hstop : step? left' rest' = none) : chain operand step? ts = some (left', rest') := by
  obtain ⟨t, rest, rfl⟩ := List.exists_cons_of_ne_nil hne
  rw [chain, hoperand, Option.map_some]
  show some (goOn step? (rest.length + 1) left (t :: rest)) = _
  rw [goOn, hstep]
  exact congrArg some (goOn_eq hstop rest.length)

/-- What a tighter reader has read, a looser one reads too. -/
theorem level_mono {m : Nat} (hmn : m ≤ n) (h : level inner m ts = some (left, rest))
    (hend : Ends n rest) : level inner n ts = some (left, rest) := by
  induction hmn with
  | refl => exact h
  | step _ ih => exact chain_of_none (ih (hend.anti (Nat.le_succ _))) (step?_eq_none hend)

end Steps

/-! ## Expressions -/

/-- The tokens are an expression whose operators outside of parentheses are tighter than `n`. -/
def Reads (n : Nat) (ts : List Token) (p : Phrase) : Prop :=
  ∀ depth, ts.length ≤ depth → ∀ rest, Ends n rest →
    level (expression depth) n (ts ++ rest) = some (p, rest)

variable {m n : Nat} {ts us : List Token} {p q : Phrase}

theorem Reads.mono (h : Reads m ts p) (hmn : m ≤ n) : Reads n ts p :=
  fun depth hdepth rest hend => level_mono hmn (h depth hdepth rest (hend.anti hmn)) hend

theorem Reads.expression (h : Reads n ts p) (hn : n ≤ 5) {depth : Nat} (hdepth : ts.length < depth)
    {rest : List Token} (hend : Ends 5 rest) :
    expression depth (ts ++ rest) = some (p, rest) := by
  obtain ⟨depth, rfl⟩ := Nat.exists_eq_succ_of_ne_zero (Nat.ne_zero_of_lt hdepth)
  exact h.mono hn depth (Nat.le_of_lt_succ hdepth) rest hend

theorem reads_column (s : String) : Reads 0 [name s] (column s) := fun _ _ _ _ => rfl

theorem reads_literal (sql : String) : Reads 0 [Token.literal sql] (literal sql) :=
  fun _ _ _ _ => rfl

theorem reads_null : Reads 0 [null] (literal Value.nullLiteral) := fun _ _ _ _ => rfl

/-- An expression in parentheses is as tight as a name. -/
theorem Reads.parentheses (h : Reads n ts p) (hn : n ≤ 5) :
    Reads 0 (opening :: ts ++ [closing]) p := by
  intro depth hdepth rest _
  have hlength : ts.length < depth := by
    simp at hdepth
    omega
  have hinner := h.expression hn hlength (ends_cons (t := closing) rfl 5 rest)
  simp [level, primary?, hinner]

/-- A step after an expression makes a looser one. -/
theorem Reads.step (hleft : Reads n ts p) (hends : ∀ rest, Ends n (us ++ rest)) (hne : us ≠ [])
    (hstep : ∀ depth, ts.length + us.length ≤ depth → ∀ rest, Ends (n + 1) rest →
      step? (Phrase.expression depth) (level (Phrase.expression depth) n) n p (us ++ rest)
        = some (q, rest)) :
    Reads (n + 1) (ts ++ us) q := by
  intro depth hdepth rest hend
  rw [List.length_append] at hdepth
  have hl := hleft depth (by omega) (us ++ rest) (hends rest)
  rw [List.append_assoc]
  exact chain_of_some hl (by simp [hne]) (hstep depth hdepth rest hend) (step?_eq_none hend)

/-- **Operands and an operator between them.** -/
theorem Reads.binary {op : BinaryOp} (hleft : Reads op.looseness ts p)
    (hright : Reads op.looseness us q) :
    Reads (op.looseness + 1) (ts ++ operator op :: us) (binary op p q) := by
  refine hleft.step (fun rest => ends_of_looseness rfl _) (by simp) fun depth hdepth rest hend => ?_
  rw [List.length_cons] at hdepth
  have hr := hright depth (by omega) rest (hend.anti (Nat.le_succ _))
  have hinfix : infix? (level (Phrase.expression depth) op.looseness) op.looseness p
      (operator op :: us ++ rest) = some (Phrase.binary op p q, rest) := by
    rw [List.cons_append, infix?, if_pos rfl, hr]
    rfl
  rw [step?]
  split
  · rename_i htwo
    rw [htwo] at hinfix
    rw [htwo]
    exact hinfix
  · exact hinfix

/-- A test for absence. -/
theorem Reads.absence (h : Reads 2 ts p) (negated : Bool) :
    Reads 3 (ts ++ if negated then [is, not, null] else [is, null]) (absence p negated) := by
  cases negated
  · exact h.step (fun _ => ends_of_looseness rfl _) (by simp) fun _ _ _ _ => rfl
  · exact h.step (fun _ => ends_of_looseness rfl _) (by simp) fun _ _ _ _ => rfl

/-- The words of a test. -/
def words : Method → List Token
  | .like => [like]
  | .notLike => [not, like]
  | .isIn => [isIn]
  | .notIn => [not, isIn]

theorem words_ne_nil (method : Method) : words method ≠ [] := by
  cases method <;> exact List.cons_ne_nil _ _

theorem ends_words (method : Method) (rest : List Token) : Ends 2 (words method ++ rest) := by
  cases method <;> exact ends_of_looseness rfl _

theorem step?_pattern {inner operand : Reader} {method : Method}
    (hmethod : method = .like ∨ method = .notLike) (left : Phrase) (rest : List Token) :
    step? inner operand 2 left (words method ++ rest) = pattern? operand method left rest := by
  rcases hmethod with rfl | rfl <;> rfl

theorem step?_membership {inner operand : Reader} {method : Method}
    (hmethod : method = .isIn ∨ method = .notIn) (left : Phrase) (rest : List Token) :
    step? inner operand 2 left (words method ++ rest) = membership? inner method left rest := by
  rcases hmethod with rfl | rfl <;> rfl

/-- A pattern. -/
theorem Reads.pattern {method : Method} (hmethod : method = .like ∨ method = .notLike)
    (hleft : Reads 2 ts p) (hright : Reads 2 us q) :
    Reads 3 (ts ++ (words method ++ us)) (test method p q) := by
  refine hleft.step (fun rest => ?_) (by simp [words_ne_nil]) fun depth hdepth rest hend => ?_
  · rw [List.append_assoc]
    exact ends_words method _
  · rw [List.length_append] at hdepth
    rw [List.append_assoc, step?_pattern hmethod, pattern?,
      hright depth (by omega) rest (hend.anti (by decide))]
    rfl

/-- Several expressions with commas between them. -/
def separated : List (List Token × Phrase) → List Token
  | [] => []
  | [item] => item.1
  | item :: item' :: items => item.1 ++ comma :: separated (item' :: items)

theorem length_le_separated : ∀ items : List (List Token × Phrase),
    items.length ≤ (separated items).length + 1
  | [] => by simp
  | [_] => by simp
  | item :: item' :: items => by
      have ih := length_le_separated (item' :: items)
      simp only [separated, List.length_cons, List.length_append] at ih ⊢
      omega

/-- Each item is read up to the comma or the parenthesis behind it. -/
theorem items?_separated {depth : Nat} (rest : List Token) :
    ∀ {items : List (List Token × Phrase)} {n : Nat}, items ≠ [] →
      (∀ item ∈ items, Reads 5 item.1 item.2) → (separated items).length < depth →
      items.length ≤ n →
      items? (Phrase.expression depth) n (separated items ++ closing :: rest)
        = some (items.map Prod.snd, rest)
  | [], _, hne, _, _, _ => absurd rfl hne
  | [item], n, _, hitems, hdepth, hn => by
      obtain ⟨n, rfl⟩ := Nat.exists_eq_add_of_le' hn
      have hitem := (hitems item List.mem_cons_self).expression (by decide) hdepth
        (ends_cons (t := closing) rfl 5 rest)
      show items? _ (n + 1) (item.1 ++ closing :: rest) = _
      simp [items?, hitem]
  | item :: item' :: items, n, _, hitems, hdepth, hn => by
      obtain ⟨n, rfl⟩ := Nat.exists_eq_add_of_le' hn
      obtain ⟨hitem, hitems⟩ := List.forall_mem_cons.mp hitems
      simp only [separated, List.length_append, List.length_cons] at hdepth
      have hone : item.1.length < depth := by omega
      have hfew : (separated (item' :: items)).length < depth := by omega
      have hfirst := hitem.expression (by decide) hone
        (ends_cons (t := comma) rfl 5 (separated (item' :: items) ++ closing :: rest))
      have hrest := items?_separated rest (List.cons_ne_nil item' items) hitems hfew
        (Nat.le_add_left _ n)
      show items? _ (n + (item' :: items).length + 1) _ = _
      rw [separated, List.append_assoc, List.cons_append, items?, hfirst]
      show (items? _ _ _ >>= _) = _
      rw [hrest]
      rfl

/-- A list. -/
theorem Reads.membership {method : Method} (hmethod : method = .isIn ∨ method = .notIn)
    (hleft : Reads 2 ts p) {items : List (List Token × Phrase)} (hne : items ≠ [])
    (hitems : ∀ item ∈ items, Reads 5 item.1 item.2) :
    Reads 3 (ts ++ (words method ++ (opening :: separated items ++ [closing])))
      (test method p (list (items.map Prod.snd))) := by
  refine hleft.step (fun rest => ?_) (by simp [words_ne_nil]) fun depth hdepth rest _ => ?_
  · rw [List.append_assoc]
    exact ends_words method _
  · have hcount := length_le_separated items
    have hread : items? (Phrase.expression depth) (separated items ++ closing :: rest).length
        (separated items ++ closing :: rest) = some (items.map Prod.snd, rest) := by
      simp only [List.length_append, List.length_cons] at hdepth
      exact items?_separated rest hne hitems (by omega) (by simp; omega)
    rw [List.append_assoc, step?_membership hmethod, List.append_assoc, List.cons_append,
      List.singleton_append, membership?, hread]
    rfl

end Phrase

end SqlRecords
