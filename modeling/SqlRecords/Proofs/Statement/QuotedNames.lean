import SqlRecords.Proofs.Predicate.Leaves
import SqlRecords.Proofs.Predicate.Reading
import SqlRecords.Proofs.Text.Lacks

/-!
# Names in quotes

The names in the text of a statement are the parts of the text between quotes.  Every name is put
there by `Dialect.quote`, and no other part of a statement holds a quote, so the names are known
from how the text was put together, whatever characters they consist of.  They can be read off the
text as well, as long as no name ends its own quotes.

* `Dialect.Quotes` — a text with its names, from left to right; `Dialect.quotedNames` reads them.
* `Draft.Yields` — what holds of every result of a draft.
* `Table.found` — the columns that properties are resolved to.
* **`Predicate.draft_quotes`** — the names in a condition are those of the columns of its leaves.
-/

namespace SqlRecords

/-! ## Texts -/

namespace Text

/-- The characters that stand around names, in any dialect. -/
def quoteMarks : List Char := ['"', '`', '[', ']']

/-- The text holds none of these characters. -/
def Unquoted (s : String) : Prop := ∀ mark ∈ quoteMarks, Lacks mark s

theorem unquoted_iff_all {s : String} :
    Unquoted s ↔ quoteMarks.all (fun mark => !s.toList.contains mark) = true := by
  simp [Unquoted, Lacks]

instance (s : String) : Decidable (Unquoted s) := decidable_of_iff _ unquoted_iff_all.symm

theorem unquoted_append {s u : String} (hs : Unquoted s) (hu : Unquoted u) : Unquoted (s ++ u) :=
  fun mark hmark => lacks_append.mpr ⟨hs mark hmark, hu mark hmark⟩

/-- Texts without quotes, with such a text between any two of them. -/
theorem unquoted_intercalate {separator : String} (hsep : Unquoted separator) {ss : List String}
    (h : ∀ s ∈ ss, Unquoted s) : Unquoted (separator.intercalate ss) :=
  fun mark hmark => lacks_intercalate (hsep mark hmark) fun s hs => h s hs mark hmark

theorem unquoted_natText (n : Nat) : Unquoted (Numeral.natText n) := by
  have hmarks : ∀ mark ∈ quoteMarks, mark.isDigit = false := by simp [quoteMarks]
  intro mark hmark hmem
  rw [Numeral.natText, String.toList_ofList] at hmem
  exact absurd (Numeral.isDigit_of_mem_ofNat hmem) (by simp [hmarks mark hmark])

/-- A placeholder has no quotes, in whatever style. -/
theorem unquoted_generated (style : PlaceholderStyle) (n : Nat) : Unquoted (style.generated n) := by
  have hmarks : ∀ mark ∈ quoteMarks, mark ≠ style.mark ∧ mark.isAlphanum = false := by
    cases style <;> simp [quoteMarks, PlaceholderStyle.mark]
  intro mark hmark hmem
  rw [style.toList_generated] at hmem
  rcases List.mem_cons.mp hmem with hstyle | hlabel
  · exact (hmarks mark hmark).1 hstyle
  · exact absurd (style.isAlphanum_of_mem_label hlabel) (by simp [(hmarks mark hmark).2])

end Text

open Text

namespace Dialect

variable {d : Dialect}

/-- The text holds these names in quotes, from left to right, and no other quotes. -/
inductive Quotes (d : Dialect) : String → List String → Prop
  | plain {text : String} (h : Unquoted text) : Quotes d text []
  | quote (name : String) : Quotes d (d.quote name) [name]
  | append {text rest : String} {names more : List String} (h : Quotes d text names)
      (hrest : Quotes d rest more) : Quotes d (text ++ rest) (names ++ more)

/-- The same for texts that stand one after another. -/
inductive QuotesEach (d : Dialect) : List String → List String → Prop
  | nil : QuotesEach d [] []
  | cons {text : String} {texts names more : List String} (h : Quotes d text names)
      (hrest : QuotesEach d texts more) : QuotesEach d (text :: texts) (names ++ more)

namespace Quotes

variable {text : String} {names : List String}

theorem after (h : d.Quotes text names) {before : String} (hbefore : Unquoted before) :
    d.Quotes (before ++ text) names :=
  append (plain hbefore) h

theorem before (h : d.Quotes text names) {after : String} (hafter : Unquoted after) :
    d.Quotes (text ++ after) names := by
  have happend := append h (plain hafter)
  rwa [List.append_nil] at happend

end Quotes

/-- Joined texts hold the names of all of them, in their order. -/
theorem QuotesEach.intercalate {separator : String} (hsep : Unquoted separator) {texts names : List String}
    (h : d.QuotesEach texts names) : d.Quotes (separator.intercalate texts) names := by
  induction h with
  | nil => exact .plain (by simp [Unquoted, Lacks])
  | @cons text texts names more htext hrest ih =>
      -- The separator stands before each of the other texts, so the last one is a case of its own.
      cases hrest with
      | nil =>
          rw [String.intercalate_singleton, List.append_nil]
          exact htext
      | cons hnext hmore =>
          rw [String.intercalate_cons_cons]
          exact .append (htext.before hsep) ih

/-! ### Reading -/

/-- Reads the names in quotes.  Inside quotes `name` is what was read of the name. -/
def scanNames (d : Dialect) : (name : Option (List Char)) → List Char → List String
  | _, [] => []
  | none, c :: cs =>
    if [c] = d.openQuote.toList then scanNames d (some []) cs else scanNames d none cs
  | some name, c :: cs =>
    if c = d.closeQuote then String.ofList name :: scanNames d none cs
    else scanNames d (some (name ++ [c])) cs

/-- The names in quotes in a text. -/
def quotedNames (d : Dialect) (text : String) : List String := d.scanNames none text.toList

/-- The opening quote is one of the characters that stand around names. -/
theorem exists_openQuote (d : Dialect) : ∃ mark ∈ quoteMarks, d.openQuote.toList = [mark] := by
  cases d <;> exact ⟨_, by decide, rfl⟩

/-- A part without quotes adds no name. -/
theorem scanNames_of_unquoted {cs : List Char} (h : ∀ mark ∈ quoteMarks, mark ∉ cs) (rest : List Char) :
    d.scanNames none (cs ++ rest) = d.scanNames none rest := by
  obtain ⟨mark, hmark, hopen⟩ := d.exists_openQuote
  induction cs with
  | nil => rfl
  | cons c cs ih =>
      have hne : [c] ≠ d.openQuote.toList := by
        rw [hopen]
        intro heq
        obtain rfl := List.singleton_inj.mp heq
        exact h c hmark List.mem_cons_self
      rw [List.cons_append, scanNames, if_neg hne]
      exact ih fun mark hmark hmem => h mark hmark (List.mem_cons_of_mem _ hmem)

/-- Inside quotes everything up to the closing quote is a part of the name. -/
theorem scanNames_inside {cs : List Char} (h : d.closeQuote ∉ cs) (name rest : List Char) :
    d.scanNames (some name) (cs ++ d.closeQuote :: rest)
      = String.ofList (name ++ cs) :: d.scanNames none rest := by
  induction cs generalizing name with
  | nil => rw [List.nil_append, scanNames, if_pos rfl, List.append_nil]
  | cons c cs ih =>
      rw [List.mem_cons, not_or] at h
      rw [List.cons_append, scanNames, if_neg (Ne.symm h.1), ih h.2, List.append_assoc]
      rfl

/-- **The names can be read off the text**, unless one of them ends its own quotes. -/
theorem Quotes.quotedNames_eq {text : String} {names : List String} (h : d.Quotes text names)
    (hnames : ∀ name ∈ names, d.closeQuote ∉ name.toList) : d.quotedNames text = names := by
  -- What follows the text has to be arbitrary for its parts to be read one after the other.
  suffices hscan : ∀ rest, d.scanNames none (text.toList ++ rest) = names ++ d.scanNames none rest by
    have htext := hscan []
    rwa [List.append_nil, scanNames, List.append_nil] at htext
  induction h with
  | plain h => exact scanNames_of_unquoted h
  | quote name =>
      intro rest
      obtain ⟨mark, -, hopen⟩ := d.exists_openQuote
      rw [toList_quote, hopen, List.append_assoc, List.singleton_append, scanNames, if_pos hopen.symm,
        List.append_assoc, List.singleton_append, scanNames_inside (hnames name List.mem_cons_self),
        List.nil_append, String.ofList_toList]
      rfl
  | append _ _ ih ihrest =>
      intro rest
      rw [List.forall_mem_append] at hnames
      rw [String.toList_append, List.append_assoc, ih hnames.1, ihrest hnames.2, List.append_assoc]

end Dialect

/-! ## Drafts -/

namespace Draft

variable {α β : Type}

/-- Whatever the draft gives has the property. -/
def Yields (d : Draft α) (P : α → Prop) : Prop := ∀ ps a ps', d.run ps = (.ok a, ps') → P a

variable {d : Draft α} {P : α → Prop} {Q : β → Prop}

theorem yields_pure {a : α} (h : P a) : (pure a : Draft α).Yields P := by
  rintro ps _ _ ⟨⟩
  exact h

theorem yields_throw (e : Error) : (throw e : Draft α).Yields P := by
  rintro ps _ _ ⟨⟩

/-- A draft that binds nothing gives what it is made of. -/
theorem yields_ofExcept {e : Except Error α} (h : ∀ a, e = .ok a → P a) : (ofExcept e).Yields P := by
  cases e with
  | error e => exact yields_throw e
  | ok a => exact yields_pure (h a rfl)

/-- What the first draft gives is all that the second one may rely on. -/
theorem Yields.bind (h : d.Yields P) {f : α → Draft β} (hf : ∀ a, P a → (f a).Yields Q) :
    (d >>= f).Yields Q := by
  intro ps b ps' hrun
  obtain ⟨a, rs, hd, hrun⟩ := run_bind_eq_ok hrun
  exact hf a (h ps a rs hd) rs b ps' hrun

/-- What stands for a value is a placeholder, never the value itself. -/
theorem yields_place (v : Value) : (place v).Yields Unquoted := by
  rintro ps _ _ ⟨⟩
  exact unquoted_generated _ _

/-- A placeholder for each value. -/
theorem yields_placeAll (vs : List Value) :
    (placeAll vs).Yields fun placeholders =>
      placeholders.length = vs.length ∧ ∀ placeholder ∈ placeholders, Unquoted placeholder := by
  induction vs with
  | nil => exact yields_pure ⟨rfl, List.forall_mem_nil _⟩
  | cons v vs ih =>
      refine (yields_place v).bind fun first hfirst => ih.bind fun rest hrest => yields_pure ?_
      exact ⟨congrArg (· + 1) hrest.1, List.forall_mem_cons.mpr ⟨hfirst, hrest.2⟩⟩

end Draft

/-! ## Conditions -/

/-- The columns of some properties, as far as the table has them. -/
def Table.found (t : Table) (properties : List String) : List Column := properties.filterMap t.column?

theorem Table.found_append (t : Table) (properties more : List String) :
    t.found (properties ++ more) = t.found properties ++ t.found more :=
  List.filterMap_append

/-- A property that the table has is resolved to its column. -/
theorem Table.found_singleton {t : Table} {property : String} {c : Column}
    (h : t.column property = .ok c) : t.found [property] = [c] := by
  rw [column] at h
  cases hfound : t.column? property with
  | none =>
      rw [hfound] at h
      cases h
  | some found =>
      rw [hfound] at h
      obtain rfl := Except.ok.inj h
      rw [Table.found, List.filterMap_cons_some hfound, List.filterMap_nil]

/-- The columns of some leaves. -/
def Condition.columns (t : Table) (leaves : List Condition) : List Column :=
  t.found (leaves.map (·.property))

/-- No operator holds a quote, negated or not. -/
theorem Operator.unquoted_sql (op : Operator) (negated : Bool) : Unquoted (op.sql negated) := by
  cases op <;> cases negated <;> decide

theorem GroupOperator.unquoted_sql (op : GroupOperator) : Unquoted op.sql := by
  cases op <;> decide

theorem GroupOperator.unquoted_emptySql (op : GroupOperator) : Unquoted op.emptySql := by
  cases op <;> decide

/-- A leaf holds one name, that of the column it is about. -/
theorem Condition.draft_quotes (t : Table) (d : Dialect) (c : Condition) :
    (c.draft t d).Yields (d.Quotes · ((columns t [c]).map (·.name))) := by
  refine Draft.Yields.bind (Draft.yields_ofExcept fun column h => h) fun column hcolumn => ?_
  have hnames : (columns t [c]).map (·.name) = [column.name] := by
    rw [columns, List.map_singleton, Table.found_singleton hcolumn, List.map_singleton]
  have hname : d.Quotes ("(" ++ d.quote column.name) [column.name] :=
    (Dialect.Quotes.quote column.name).after (by decide)
  rw [hnames]
  split
  · split
    · exact Draft.yields_pure (hname.before (by decide))
    · exact Draft.yields_pure (hname.before (by decide))
    · exact Draft.yields_throw _
  · refine (Draft.yields_place c.value).bind fun placeholder hplaceholder => Draft.yields_pure ?_
    exact ((((hname.before (by decide)).before (c.operator.unquoted_sql c.negated)).before
      (by decide)).before hplaceholder).before (by decide)

namespace Predicate

variable (t : Table) (d : Dialect)

mutual

/-- **The names in a condition are those of the columns of its leaves.** -/
theorem draft_quotes : ∀ p : Predicate,
    (p.draft t d).Yields (d.Quotes · ((Condition.columns t p.leaves).map (·.name)))
  | field c => by
      rw [draft, leaves]
      exact c.draft_quotes t d
  | group op [] => by
      rw [draft]
      exact Draft.yields_pure (.plain op.unquoted_emptySql)
  | group op (p :: ps) => by
      rw [draft, leaves, leavesOfAll]
      refine (draft_quotes p).bind fun first hfirst => (draftAll_quotes ps).bind fun rest hrest =>
        Draft.yields_pure ?_
      rw [Condition.columns, List.map_append, Table.found_append, List.map_append]
      exact (((Dialect.QuotesEach.cons hfirst hrest).intercalate op.unquoted_sql).after
        (by decide)).before (by decide)

/-- The same for the members of a group, one text each. -/
theorem draftAll_quotes : ∀ ps : List Predicate,
    (draftAll t d ps).Yields (d.QuotesEach · ((Condition.columns t (leavesOfAll ps)).map (·.name)))
  | [] => Draft.yields_pure .nil
  | p :: ps => by
      rw [draftAll, leavesOfAll]
      refine (draft_quotes p).bind fun first hfirst => (draftAll_quotes ps).bind fun rest hrest =>
        Draft.yields_pure ?_
      rw [Condition.columns, List.map_append, Table.found_append, List.map_append]
      exact .cons hfirst hrest

end

end Predicate

end SqlRecords
