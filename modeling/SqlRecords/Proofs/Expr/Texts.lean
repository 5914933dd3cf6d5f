import SqlRecords.Proofs.Expr.Grammar

/-!
# Texts of SQL expressions

* `Phrase.IsTextOf` — the text is an expression of some strength, wherever it stands.
* **`IsTextOf.read?`** — such a text is read as that expression.
* `IsTextOf.parentheses`, `IsTextOf.binary`, `IsTextOf.absence`, `IsTextOf.pattern`,
  `IsTextOf.membership` — texts of operands with the characters of an operator around them are a
  text of the whole.
* `Phrase.IsListOf` — the text is a list of expressions with commas between them.
-/

namespace SqlRecords

namespace Phrase

open Token

variable {m n : Nat} {text more left right : List Char} {p q : Phrase} {ps : List Phrase}

/-- The text is an expression whose operators outside of parentheses are tighter than `n`, wherever
it stands.  It can be the right operand of every operator. -/
def IsTextOf (n : Nat) (text : List Char) (p : Phrase) : Prop :=
  ∃ ts, Spells Delimited text ts ∧ Operand text ∧ Reads n ts p

/-- An operand for tight operators is one for loose operators. -/
theorem IsTextOf.mono (h : IsTextOf m text p) (hmn : m ≤ n) :
    IsTextOf n text p := by
  obtain ⟨ts, hspells, hoperand, hreads⟩ := h
  exact ⟨ts, hspells, hoperand, hreads.mono hmn⟩

/-- A text is read as the expression that it is a text of. -/
theorem IsTextOf.read? {sql : String} (h : IsTextOf n sql.toList p) (hn : n ≤ 5) :
    read? sql = some p := by
  obtain ⟨ts, hspells, -, hreads⟩ := h
  have htokens := hspells [] delimited_nil
  rw [List.append_nil, tokens?, Option.map_some, List.append_nil] at htokens
  have hread := hreads.expression hn (Nat.lt_succ_self ts.length) (ends_nil 5)
  rw [List.append_nil] at hread
  rw [Phrase.read?, htokens, Option.bind_some, hread]

/-- A name is a column, unless it is a word of the language. -/
theorem isTextOf_column {name : String} (hword : isWord name.toList = true)
    (hname : ofWord name = .name name) : IsTextOf 0 name.toList (column name) := by
  have hspells := spells_word hword
  rw [hname] at hspells
  exact ⟨_, hspells, operand_of_isWord hword, reads_column name⟩

/-! ## Operators around operands -/

/-- Parentheses around an expression make it an operand of every operator. -/
theorem IsTextOf.parentheses (h : IsTextOf n text p) (hn : n ≤ 5) :
    IsTextOf 0 ('(' :: text ++ [')']) p := by
  obtain ⟨ts, hspells, -, hreads⟩ := h
  have hbody : Spells Free (text ++ [')']) (ts ++ [closing]) :=
    hspells.append spells_closing fun rest _ => delimited_cons (by decide) rest
  have hwhole := spells_opening.then hbody
  exact ⟨_, hwhole.of_free, ⟨'(', _, rfl, by decide⟩, hreads.parentheses hn⟩

/-- An operator, in front of an operand. -/
theorem spells_operator (op : BinaryOp) : Spells Operand op.sql.toList [operator op] := by
  have hword : ∀ word, isWord word.toList = true → op.sql.toList = spaced [word] ++ [' '] →
      ofWord word = operator op → Spells Operand op.sql.toList [operator op] := by
    intro word hword hsql htoken
    exact (spells_words (by simpa using hword) hsql (congrArg ([·]) htoken)).of_free
  cases op with
  | and => exact hword "AND" (by decide) (by decide) (by decide)
  | or => exact hword "OR" (by decide) (by decide) (by decide)
  | _ => exact spells_infix (by decide)

theorem delimited_operator (op : BinaryOp) (rest : List Char) :
    Delimited (op.sql.toList ++ rest) := by
  cases op <;> exact delimited_cons (by decide) _

/-- The operands of an operator have to be tighter than it is. -/
theorem IsTextOf.binary {op : BinaryOp} (hleft : IsTextOf op.looseness left p)
    (hright : IsTextOf op.looseness right q) :
    IsTextOf (op.looseness + 1) (left ++ (op.sql.toList ++ right)) (binary op p q) := by
  obtain ⟨ts, hspells, hoperand, hreads⟩ := hleft
  obtain ⟨us, hspells', hoperand', hreads'⟩ := hright
  have htail := (spells_operator op).append hspells' fun rest _ => hoperand'.append rest
  refine ⟨_, hspells.append htail fun rest _ => ?_, hoperand.append _, hreads.binary hreads'⟩
  rw [List.append_assoc]
  exact delimited_operator op _

/-- The words of a test for absence. -/
def absenceWords (negated : Bool) : List String :=
  if negated then ["is", "not", "null"] else ["is", "null"]

/-- A test for absence stands behind its operand. -/
theorem IsTextOf.absence (h : IsTextOf 2 left p) (negated : Bool) :
    IsTextOf 3 (left ++ spaced (absenceWords negated)) (absence p negated) := by
  obtain ⟨ts, hspells, hoperand, hreads⟩ := h
  have hwords : Spells Delimited (spaced (absenceWords negated))
      ((absenceWords negated).map ofWord) :=
    spells_spaced (by cases negated <;> decide)
  refine ⟨_, hspells.append hwords fun rest _ => ?_, hoperand.append _, ?_⟩
  · cases negated <;> exact delimited_blank _
  · have htest := hreads.absence negated
    cases negated <;> exact htest

theorem spells_method (method : Method) : Spells Free method.sql.toList (words method) := by
  have hwords : ∀ ws : List String, (∀ word ∈ ws, isWord word.toList = true) →
      method.sql.toList = spaced ws ++ [' '] → ws.map ofWord = words method →
      Spells Free method.sql.toList (words method) := fun _ => spells_words
  cases method with
  | like => exact hwords ["LIKE"] (by decide) (by decide) (by decide)
  | notLike => exact hwords ["NOT", "LIKE"] (by decide) (by decide) (by decide)
  | isIn => exact hwords ["IN"] (by decide) (by decide) (by decide)
  | notIn => exact hwords ["NOT", "IN"] (by decide) (by decide) (by decide)

theorem delimited_method (method : Method) (rest : List Char) :
    Delimited (method.sql.toList ++ rest) := by
  cases method <;> exact delimited_cons (by decide) _

/-- A pattern is compared with what stands in front of the word for it. -/
theorem IsTextOf.pattern {method : Method} (hmethod : method = .like ∨ method = .notLike)
    (hleft : IsTextOf 2 left p) (hright : IsTextOf 2 right q) :
    IsTextOf 3 (left ++ (method.sql.toList ++ right)) (test method p q) := by
  obtain ⟨ts, hspells, hoperand, hreads⟩ := hleft
  obtain ⟨us, hspells', -, hreads'⟩ := hright
  have htail := (spells_method method).then hspells'
  refine ⟨_, hspells.append htail fun rest _ => ?_, hoperand.append _,
    hreads.pattern hmethod hreads'⟩
  rw [List.append_assoc]
  exact delimited_method method _

/-- The text is expressions with commas between them. -/
def IsListOf (text : List Char) (ps : List Phrase) : Prop :=
  ∃ parts, parts ≠ [] ∧ (∀ part ∈ parts, Reads 5 part.1 part.2) ∧ parts.map Prod.snd = ps
    ∧ Spells Delimited text (separated parts)

theorem IsTextOf.isListOf (h : IsTextOf n text p) (hn : n ≤ 5) : IsListOf text [p] := by
  obtain ⟨ts, hspells, -, hreads⟩ := h
  exact ⟨[(ts, p)], List.cons_ne_nil _ _, by simpa using hreads.mono hn, rfl, hspells⟩

theorem IsListOf.cons (h : IsTextOf n text p) (hn : n ≤ 5) (hmore : IsListOf more ps) :
    IsListOf (text ++ ',' :: more) (p :: ps) := by
  obtain ⟨ts, hspells, -, hreads⟩ := h
  obtain ⟨parts, hne, hparts, rfl, hspells'⟩ := hmore
  obtain ⟨part, parts, rfl⟩ := List.exists_cons_of_ne_nil hne
  refine ⟨(ts, p) :: part :: parts, List.cons_ne_nil _ _,
    List.forall_mem_cons.mpr ⟨hreads.mono hn, hparts⟩, rfl, ?_⟩
  exact hspells.append (spells_comma.then hspells') fun rest _ => delimited_cons (by decide) _

/-- A list in parentheses is the right side of a test for membership. -/
theorem IsTextOf.membership {method : Method} (hmethod : method = .isIn ∨ method = .notIn)
    (hleft : IsTextOf 2 left p) (hlist : IsListOf text ps) :
    IsTextOf 3 (left ++ (method.sql.toList ++ ('(' :: text ++ [')'])))
      (test method p (list ps)) := by
  obtain ⟨ts, hspells, hoperand, hreads⟩ := hleft
  obtain ⟨parts, hne, hparts, rfl, hspells'⟩ := hlist
  have hitems : Spells Free (text ++ [')']) (separated parts ++ [closing]) :=
    hspells'.append spells_closing fun rest _ => delimited_cons (by decide) rest
  have htail := (spells_method method).then (spells_opening.then hitems)
  refine ⟨_, (hspells.append htail fun rest _ => ?_).of_free, hoperand.append _, ?_⟩
  · rw [List.append_assoc]
    exact delimited_method method _
  · simpa using hreads.membership hmethod hne hparts

end Phrase

end SqlRecords
