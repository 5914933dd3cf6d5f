import Mathlib.Data.List.Basic
import SqlRecords.Proofs.Predicate.SearchCondition

/-!
# Reading search conditions

A reader for the text of conditions.  It knows the grammar of the text and nothing of predicates:

* `(column op placeholder)`, `(column IS NULL)`, `(column IS NOT NULL)`,
* `(1=1)` and `(1=0)`, the groups without parts,
* `(c1 AND c2 …)`, `(c1 OR c2 …)`, and `(c)` for a group of one part.

The column stands between the dialect's quotes, and the operands of the tree that is read are the
placeholders as they are written.

* `Reading.read?` — the reader, by recursive descent.
* **`SearchCondition.read?_fill`** — the text of a proper condition over names without the closing
  quote reads as the condition, its operands replaced by their placeholders
  (`SearchCondition.labelled`).
-/

namespace SqlRecords

namespace Dialect

/-- The text in front of a quoted name. -/
def openQuote : Dialect → String
  | sqlite | postgresql => "\""
  | mysql => "`"
  | sqlServer => "["

/-- The character that ends a quoted name. -/
def closeQuote : Dialect → Char
  | sqlite | postgresql => '"'
  | mysql => '`'
  | sqlServer => ']'

theorem toList_quote (d : Dialect) (name : String) :
    (d.quote name).toList = d.openQuote.toList ++ (name.toList ++ [d.closeQuote]) := by
  cases d <;> simp [quote, openQuote, closeQuote]

end Dialect

/-! ## The reader -/

namespace Reading

/-- The rest of a text that starts with the word. -/
def after? (word : String) (cs : List Char) : Option (List Char) :=
  word.toList.isPrefixOf? cs

/-- The first of some choices with whose spelling the text starts, and the rest of the text. -/
def choice? {β : Type} (choices : List β) (spelling : β → String) (cs : List Char) :
    Option (β × List Char) :=
  choices.findSome? fun x => (after? (spelling x) cs).map fun rest => (x, rest)

/-- Both ways to join conditions. -/
def joints : List GroupOperator := [.and, .or]

/-- A group without parts. -/
def constant? (cs : List Char) : Option (SearchCondition String × List Char) :=
  (choice? joints GroupOperator.emptySql cs).map fun (op, rest) => (.group (some op) [], rest)

/-- A comparison between its blanks. -/
def spaced (op : Comparison) : String := " " ++ op.sql ++ " "

/-- The comparison and the operand of a leaf. -/
def comparison? (column : String) (cs : List Char) :
    Option (SearchCondition String × List Char) := do
  let (op, rest) ← choice? Comparison.all spaced cs
  let operand := String.ofList (rest.takeWhile (· ≠ ')'))
  let rest ← after? ")" (rest.dropWhile (· ≠ ')'))
  return (.compare column op operand, rest)

/-- What a leaf says of its column. -/
def test? (column : String) (cs : List Char) : Option (SearchCondition String × List Char) :=
  match choice? [false, true] SearchCondition.absenceSql cs with
  | some (negated, rest) => some (.absence column negated, rest)
  | none => comparison? column cs

/-- A leaf: a quoted name after the parenthesis, and a test. -/
def leaf? (d : Dialect) (cs : List Char) : Option (SearchCondition String × List Char) := do
  let rest ← after? ("(" ++ d.openQuote) cs
  let column := String.ofList (rest.takeWhile (· ≠ d.closeQuote))
  test? column (rest.dropWhile (· ≠ d.closeQuote)).tail

mutual

/-- One condition at the start of a text, and the rest of the text. -/
def tree? (d : Dialect) : (fuel : Nat) → List Char → Option (SearchCondition String × List Char)
  | 0, _ => none
  | fuel + 1, cs =>
    match constant? cs, leaf? d cs with
    | some read, _ => some read
    | none, some read => some read
    | none, none => do
      let rest ← after? "(" cs
      let (first, rest) ← tree? d fuel rest
      let (op, others, rest) ← more? d fuel none rest
      return (.group op (first :: others), rest)

/-- The other parts of a group, up to its end.  `joint` is what joined the parts before; all parts
are joined alike. -/
def more? (d : Dialect) : (fuel : Nat) → (joint : Option GroupOperator) → List Char →
    Option (Option GroupOperator × List (SearchCondition String) × List Char)
  | 0, _, _ => none
  | fuel + 1, joint, cs =>
    match after? ")" cs with
    | some rest => some (joint, [], rest)
    | none => do
      let (op, rest) ← choice? joints GroupOperator.sql cs
      if joint = none ∨ joint = some op then
        let (part, rest) ← tree? d fuel rest
        let (op, parts, rest) ← more? d fuel (some op) rest
        return (op, part :: parts, rest)
      else none

end

/-- The condition that a text is, if it is one from the start to the end. -/
def read? (d : Dialect) (sql : String) : Option (SearchCondition String) :=
  match tree? d sql.length sql.toList with
  | some (c, []) => some c
  | _ => none

end Reading

/-! ## What is read -/

namespace SearchCondition

variable {α : Type}

mutual

/-- The condition with placeholders for its operands, numbered after `n` parameters. -/
def labelled (style : PlaceholderStyle) : (n : Nat) → SearchCondition α → SearchCondition String
  | n, compare column op _ => compare column op (style.generated n)
  | _, absence column negated => absence column negated
  | n, group op parts => group op (labelledAll style n parts)

/-- Several conditions with placeholders, numbered through all of them. -/
def labelledAll (style : PlaceholderStyle) :
    (n : Nat) → List (SearchCondition α) → List (SearchCondition String)
  | _, [] => []
  | n, part :: parts =>
    labelled style n part :: labelledAll style (n + part.operands.length) parts

end

end SearchCondition

/-! ## Reading words -/

namespace Reading

theorem after?_eq_some {word : String} {cs rest : List Char} :
    after? word cs = some rest ↔ cs = word.toList ++ rest := by
  rw [after?, List.isPrefixOf?_eq_some_iff_append_eq, eq_comm]

theorem after?_append (word : String) (rest : List Char) :
    after? word (word.toList ++ rest) = some rest :=
  after?_eq_some.mpr rfl

/-- A text that starts with the spelling of a choice is read as that choice, if no spelling is the
start of another. -/
theorem choice?_append {β : Type} {spelling : β → String} {x : β} (rest : List Char) :
    ∀ {choices : List β},
      (∀ y ∈ choices, ∀ z ∈ choices, (spelling y).toList <+: (spelling z).toList → y = z) →
      x ∈ choices → choice? choices spelling ((spelling x).toList ++ rest) = some (x, rest)
  | y :: choices, hfree, hx => by
      rw [choice?, List.findSome?_cons]
      cases hy : after? (spelling y) ((spelling x).toList ++ rest) with
      | some cs =>
          -- Both spellings start the text, so one of them starts the other.
          have hcs := after?_eq_some.mp hy
          have hxy : y = x := by
            rcases List.prefix_or_prefix_of_prefix ⟨rest, rfl⟩ ⟨cs, hcs.symm⟩ with h | h
            · exact (hfree x hx y List.mem_cons_self h).symm
            · exact hfree y List.mem_cons_self x hx h
          subst hxy
          rw [List.append_cancel_left hcs]
          rfl
      | none =>
          rcases List.mem_cons.mp hx with rfl | hx
          · rw [after?_append] at hy
            exact absurd hy nofun
          · exact choice?_append rest
              (fun y hy z hz => hfree y (List.mem_cons_of_mem _ hy) z (List.mem_cons_of_mem _ hz)) hx

/-! ## Reading leaves -/

theorem test?_absence (column : String) (negated : Bool) (rest : List Char) :
    test? column ((SearchCondition.absenceSql negated).toList ++ rest)
      = some (.absence column negated, rest) := by
  rw [test?, choice?_append rest (by decide) (by cases negated <;> decide)]

/-- An operand is read up to the parenthesis that closes its leaf. -/
theorem test?_compare (column : String) (op : Comparison) {operand : String}
    (h : ')' ∉ operand.toList) (rest : List Char) :
    test? column ((spaced op).toList ++ (operand.toList ++ ')' :: rest))
      = some (.compare column op operand, rest) := by
  have hnone : choice? [false, true] SearchCondition.absenceSql
      ((spaced op).toList ++ (operand.toList ++ ')' :: rest)) = none := by
    cases op <;> rfl
  have hop : choice? Comparison.all spaced ((spaced op).toList ++ (operand.toList ++ ')' :: rest))
      = some (op, operand.toList ++ ')' :: rest) :=
    choice?_append _ (by decide +kernel) (by cases op <;> decide)
  have hend : ∀ c ∈ operand.toList, decide (c ≠ ')') = true := fun c hc =>
    decide_eq_true fun hc' => h (hc' ▸ hc)
  rw [test?, hnone]
  simp only [comparison?, hop, Option.bind_eq_bind, Option.bind_some,
    List.takeWhile_append_of_pos hend, List.dropWhile_append_of_pos hend]
  simp [after?, List.isPrefixOf?]

theorem toList_leaf (d : Dialect) (column : String) (rest : List Char) :
    ("(" ++ d.quote column).toList ++ rest
      = ("(" ++ d.openQuote).toList ++ (column.toList ++ d.closeQuote :: rest) := by
  rw [String.toList_append, String.toList_append, d.toList_quote]
  simp only [List.append_assoc, List.singleton_append]

/-- A name is read up to the quote that closes it. -/
theorem leaf?_quote (d : Dialect) {column : String} (h : d.closeQuote ∉ column.toList)
    (rest : List Char) :
    leaf? d (("(" ++ d.quote column).toList ++ rest) = test? column rest := by
  have hend : ∀ c ∈ column.toList, decide (c ≠ d.closeQuote) = true := fun c hc =>
    decide_eq_true fun hc' => h (hc' ▸ hc)
  rw [toList_leaf, leaf?, after?_append]
  simp only [Option.bind_eq_bind, Option.bind_some, List.takeWhile_append_of_pos hend,
    List.dropWhile_append_of_pos hend]
  simp

/-- A leaf is no constant. -/
theorem constant?_quote (d : Dialect) (column : String) (rest : List Char) :
    constant? (("(" ++ d.quote column).toList ++ rest) = none := by
  rw [toList_leaf]
  cases d <;> rfl

/-- A group with parts is no constant. -/
theorem constant?_nested (rest : List Char) : constant? ('(' :: '(' :: rest) = none := rfl

/-- A group with parts is no leaf. -/
theorem leaf?_nested (d : Dialect) (rest : List Char) : leaf? d ('(' :: '(' :: rest) = none := by
  cases d <;> rfl

end Reading

/-! ## Reading trees -/

namespace SearchCondition

open Reading

variable {α : Type} (style : PlaceholderStyle) (d : Dialect)

/-- No generated placeholder holds a parenthesis. -/
theorem not_mem_generated (n : Nat) : ')' ∉ (style.generated n).toList := by
  rw [style.toList_generated]
  intro h
  rcases List.mem_cons.mp h with h | h
  · cases style <;> exact absurd h (by decide)
  · exact absurd (style.isAlphanum_of_mem_label h) (by decide)

/-- A text that starts with two parentheses is a group of what comes after the first. -/
theorem tree?_nested (fuel : Nat) (cs : List Char) :
    tree? d (fuel + 1) ('(' :: '(' :: cs) = (do
      let (first, rest) ← tree? d fuel ('(' :: cs)
      let (op, others, rest) ← more? d fuel none rest
      return (.group op (first :: others), rest)) := by
  rw [tree?, constant?_nested, leaf?_nested]
  rfl

/-- What joins the parts of a group; where there is a single part, anything would do. -/
theorem exists_joint {op : Option GroupOperator} (part : SearchCondition α)
    (parts : List (SearchCondition α)) (hop : op = none ↔ (part :: parts).length = 1) :
    ∃ joint : GroupOperator,
      Template.continued (separator op) (templates d parts)
        = Template.continued joint.sql (templates d parts) ∧
      (if parts.isEmpty then none else some joint) = op := by
  cases op with
  | none =>
      obtain rfl := List.length_eq_zero_iff.mp (Nat.succ.inj (hop.mp rfl))
      exact ⟨.and, rfl, rfl⟩
  | some op =>
      have hne : parts ≠ [] := by
        rintro rfl
        exact absurd (hop.mpr rfl) nofun
      exact ⟨op, rfl, by rw [if_neg (mt List.isEmpty_iff.mp hne)]⟩

mutual

/-- **The text of a condition reads as the condition.**  The induction follows the tree;
a group reads its first part and then the others, with the numbering of the placeholders carried
along. -/
theorem tree?_fill : ∀ (c : SearchCondition α) (n fuel : Nat) (rest : List Char),
    c.Proper → (∀ name ∈ c.columns, d.closeQuote ∉ name.toList) →
      ((c.template d).fill style n).toList.length ≤ fuel →
        tree? d fuel (((c.template d).fill style n).toList ++ rest)
          = some (c.labelled style n, rest)
  | c, n, 0, rest, _, _, hfuel => by
      obtain ⟨cs, hcs⟩ := exists_fill_eq_cons d style n c
      rw [hcs] at hfuel
      exact absurd hfuel (by simp)
  | compare column op operand, n, fuel + 1, rest, _, hnames, _ => by
      have hname := hnames column List.mem_cons_self
      have htext : ((template d (compare column op operand)).fill style n).toList ++ rest
          = ("(" ++ d.quote column).toList
            ++ ((spaced op).toList ++ ((style.generated n).toList ++ ')' :: rest)) := by
        simp [template, Template.fill, spaced]
      rw [htext, tree?, constant?_quote, leaf?_quote d hname,
        test?_compare column op (not_mem_generated style n)]
      rfl
  | absence column negated, n, fuel + 1, rest, _, hnames, _ => by
      have hname := hnames column List.mem_cons_self
      have htext : ((template (α := α) d (absence column negated)).fill style n).toList ++ rest
          = ("(" ++ d.quote column).toList ++ ((absenceSql negated).toList ++ rest) := by
        simp [template, Template.fill]
      rw [htext, tree?, constant?_quote, leaf?_quote d hname, test?_absence]
      rfl
  | group op [], n, fuel + 1, rest, hproper, _, _ => by
      cases op with
      | none => exact absurd (hproper.1.mp rfl) (by simp)
      | some op =>
          have htext : ((template (α := α) d (group (some op) [])).fill style n).toList
              = op.emptySql.toList := by
            simp [template, Template.fill]
          rw [htext, tree?, constant?, choice?_append rest (by decide) (by cases op <;> decide)]
          rfl
  | group op (part :: parts), n, fuel + 1, rest, hproper, hnames, hfuel => by
      obtain ⟨hop, hpart, hparts⟩ := hproper
      obtain ⟨hname, hnames⟩ := List.forall_mem_append.mp hnames
      obtain ⟨joint, hmore, hjoint⟩ := exists_joint d part parts hop
      have htext : ((template d (group op (part :: parts))).fill style n).toList ++ rest
          = '(' :: (((part.template d).fill style n).toList
            ++ (((Template.continued joint.sql (templates d parts)).fill style
              (n + part.operands.length)).toList ++ ')' :: rest)) := by
        rw [fill_group, hmore]
        simp
      -- Every part is shorter than the group by at least its parenthesis, so the fuel suffices.
      have hlength := congrArg List.length htext
      simp only [List.length_append, List.length_cons] at hlength
      obtain ⟨cs, hcs⟩ := exists_fill_eq_cons d style n part
      have hread := tree?_fill part n fuel (((Template.continued joint.sql (templates d parts)).fill
        style (n + part.operands.length)).toList ++ ')' :: rest) hpart hname (by omega)
      have hreadAll := more?_fill parts joint none (n + part.operands.length) fuel rest hparts
        hnames (.inl rfl) (by omega)
      rw [hcs, List.cons_append] at hread
      rw [htext, hcs, List.cons_append, tree?_nested, hread]
      simp only [Option.bind_eq_bind, Option.bind_some, hreadAll, hjoint]
      rfl

theorem more?_fill : ∀ (parts : List (SearchCondition α)) (op : GroupOperator)
    (joint : Option GroupOperator) (n fuel : Nat) (rest : List Char),
    ProperAll parts → (∀ name ∈ columnsOfAll parts, d.closeQuote ∉ name.toList) →
      joint = none ∨ joint = some op →
      ((Template.continued op.sql (templates d parts)).fill style n).toList.length < fuel →
        more? d fuel joint
            (((Template.continued op.sql (templates d parts)).fill style n).toList ++ ')' :: rest)
          = some (if parts.isEmpty then joint else some op, labelledAll style n parts, rest)
  | _, _, _, _, 0, _, _, _, _, hfuel => absurd hfuel (Nat.not_lt_zero _)
  | [], _, _, _, _ + 1, _, _, _, _, _ => rfl
  | part :: parts, op, joint, n, fuel + 1, rest, hproper, hnames, hjoint, hfuel => by
      obtain ⟨hpart, hparts⟩ := hproper
      obtain ⟨hname, hnames⟩ := List.forall_mem_append.mp hnames
      have htext : ((Template.continued op.sql (templates d (part :: parts))).fill style n).toList
            ++ ')' :: rest
          = op.sql.toList ++ (((part.template d).fill style n).toList
            ++ (((Template.continued op.sql (templates d parts)).fill style
              (n + part.operands.length)).toList ++ ')' :: rest)) := by
        rw [fill_continued_cons]
        simp
      have hlength := congrArg List.length htext
      simp only [List.length_append, List.length_cons] at hlength
      have hsql : 0 < op.sql.toList.length := by cases op <;> decide
      have hread := tree?_fill part n fuel (((Template.continued op.sql (templates d parts)).fill
        style (n + part.operands.length)).toList ++ ')' :: rest) hpart hname (by omega)
      have hreadAll := more?_fill parts op (some op) (n + part.operands.length) fuel rest hparts
        hnames (.inr rfl) (by omega)
      have hend : ∀ cs, after? ")" (op.sql.toList ++ cs) = none := fun cs => by cases op <;> rfl
      have hnext : ∀ cs, choice? joints GroupOperator.sql (op.sql.toList ++ cs) = some (op, cs) :=
        fun cs => choice?_append cs (by decide) (by cases op <;> decide)
      rw [htext, more?, hend]
      simp only [hnext, Option.bind_eq_bind, Option.bind_some, if_pos hjoint, hread, hreadAll,
        ite_self]
      rfl

end

/-- The reader reads the whole text. -/
theorem read?_fill {c : SearchCondition α} (n : Nat) (hproper : c.Proper)
    (hnames : ∀ name ∈ c.columns, d.closeQuote ∉ name.toList) :
    read? d ((c.template d).fill style n) = some (c.labelled style n) := by
  have hread := tree?_fill style d c n _ [] hproper hnames (Nat.le_of_eq String.length_toList)
  rw [List.append_nil] at hread
  rw [read?, hread]

end SearchCondition

end SqlRecords
