import SqlRecords.Proofs.Text.Lacks

/-!
# Placeholders in a text

Where the placeholders of a text are, by a scan that looks for their mark and knows nothing of how
the text was made.

* `PlaceholderStyle.occurrences` — the placeholders of a text, from left to right.
* `PlaceholderStyle.Plain` — a text without the mark, so without a placeholder.
* `PlaceholderStyle.Holds` — a text with given placeholders, whatever comes after it that does not
  go on with the last one.  Texts of this kind are put together by `Holds.append` and
  `holds_intercalate`.
* **`SearchCondition.holds_fill`** — the text of a condition holds the placeholders of its slots.
-/

namespace SqlRecords

namespace PlaceholderStyle

variable (style : PlaceholderStyle)

/-- Whether a placeholder goes on with the character. -/
def extends? (c : Char) : Bool :=
  style ≠ .positional && (c.isAlphanum || c == '_')

/-- The placeholders that occur in a text, from left to right: the mark, and all that goes on
with it. -/
def occurrences : List Char → List String
  | [] => []
  | c :: cs =>
    if c = style.mark then String.ofList (c :: cs.takeWhile style.extends?) :: occurrences cs
    else occurrences cs

/-- The text does not hold the mark. -/
def Plain (s : String) : Prop := style.mark ∉ s.toList

/-- The text does not go on with a placeholder in front of it. -/
def Apart (cs : List Char) : Prop := ∀ c ∈ cs.head?, style.extends? c = false

/-- The placeholders of the text are the given ones, also when it is the start of a longer one. -/
def Holds (s : String) (found : List String) : Prop :=
  ∀ rest, style.Apart rest →
    style.occurrences (s.toList ++ rest) = found ++ style.occurrences rest

variable {style}

instance (s : String) : Decidable (style.Plain s) := inferInstanceAs (Decidable (_ ∉ _))

/-- What a text holds is what is found in it when nothing stands behind it. -/
theorem Holds.occurrences_eq {s : String} {found : List String} (h : style.Holds s found) :
    style.occurrences s.toList = found := by
  simpa [occurrences] using h [] nofun

/-! ## Plain texts -/

/-- The marks of all styles. -/
def marks : List Char := [':', '@', '$', '?']

theorem mark_mem_marks (style : PlaceholderStyle) : style.mark ∈ marks := by
  cases style <;> decide

/-- A fixed text without any mark is plain in every style. -/
theorem plain_of_all {s : String} (h : marks.all (fun c => !s.toList.contains c) = true) :
    style.Plain s := by
  have hmark := List.all_eq_true.mp h style.mark style.mark_mem_marks
  simpa [Plain] using hmark

theorem mark_mem_reserved (style : PlaceholderStyle) : style.mark ∈ Text.reserved := by
  cases style <;> decide

/-- Plain texts can be put together, and taken apart. -/
theorem plain_append {s u : String} : style.Plain (s ++ u) ↔ style.Plain s ∧ style.Plain u :=
  Text.lacks_append

theorem plain_quote (d : Dialect) {name : String} (h : style.Plain name) :
    style.Plain (d.quote name) :=
  Text.lacks_quote style.mark_mem_reserved d h

theorem plain_natText (n : Nat) : style.Plain (Numeral.natText n) := by
  rw [Plain, Numeral.natText, String.toList_ofList]
  intro h
  have hdigit := Numeral.isDigit_of_mem_ofNat h
  cases style <;> exact absurd hdigit (by decide)

/-! ## Scanning -/

theorem occurrences_append_of_not_mem {cs : List Char} (h : style.mark ∉ cs) (rest : List Char) :
    style.occurrences (cs ++ rest) = style.occurrences rest := by
  induction cs with
  | nil => rfl
  | cons c cs ih =>
      rw [List.mem_cons, not_or] at h
      rw [List.cons_append, occurrences, if_neg (Ne.symm h.1), ih h.2]

theorem Plain.holds {s : String} (h : style.Plain s) : style.Holds s [] := fun rest _ =>
  occurrences_append_of_not_mem h rest

/-- After a plain text the placeholders are those of the rest. -/
theorem Plain.holds_append {s u : String} {found : List String} (h : style.Plain s)
    (hu : style.Holds u found) : style.Holds (s ++ u) found := by
  intro rest hrest
  rw [String.toList_append, List.append_assoc, occurrences_append_of_not_mem h, hu rest hrest]

theorem apart_of_head {cs : List Char}
    (h : cs.head?.any (fun c => c.isAlphanum || c == '_') = false) : style.Apart cs := by
  intro c hc
  rw [hc, Option.any_some] at h
  rw [extends?, h, Bool.and_false]

/-- Only the first character of what follows a placeholder matters. -/
theorem apart_append {cs rest : List Char} (h : style.Apart cs) (hrest : style.Apart rest) :
    style.Apart (cs ++ rest) := by
  cases cs with
  | nil => exact hrest
  | cons c cs => exact h

/-- Two texts, one after another, hold the placeholders of both, if the second does not go on with
the last one of the first. -/
theorem Holds.append {s u : String} {found more : List String} (h : style.Holds s found)
    (hu : style.Holds u more) (hapart : style.Apart u.toList) :
    style.Holds (s ++ u) (found ++ more) := by
  intro rest hrest
  rw [String.toList_append, List.append_assoc, h _ (apart_append hapart hrest), hu rest hrest,
    List.append_assoc]

/-- A generated placeholder holds itself. -/
theorem holds_generated (style : PlaceholderStyle) (n : Nat) :
    style.Holds (style.generated n) [style.generated n] := by
  intro rest hrest
  have hplain : style.mark ∉ style.label n := fun h => by
    have hmark := style.isAlphanum_of_mem_label h
    cases style <;> exact absurd hmark (by decide)
  have hlabel : (style.label n ++ rest).takeWhile style.extends? = style.label n := by
    have hall : ∀ c ∈ style.label n, style.extends? c = true := by
      intro c hc
      have hc' := style.isAlphanum_of_mem_label hc
      cases style with
      | positional => exact absurd hc List.not_mem_nil
      | _ => simp [extends?, hc']
    rw [List.takeWhile_append_of_pos hall]
    cases rest with
    | nil => simp
    | cons c cs => simp [hrest c rfl]
  rw [style.toList_generated, List.cons_append, occurrences, if_pos rfl, hlabel,
    occurrences_append_of_not_mem hplain, ← style.toList_generated, String.ofList_toList]
  rfl

/-- Texts with commas between them hold the placeholders of all. -/
theorem holds_commaList {β : Type} {text : β → String} {found : β → List String} :
    ∀ {xs : List β}, (∀ x ∈ xs, style.Holds (text x) (found x)) →
      style.Holds (commaList (xs.map text)) (xs.flatMap found)
  | [], _ => fun rest _ => by simp [commaList]
  | [x], h => by simpa [commaList] using h x List.mem_cons_self
  | x :: y :: xs, h => by
      have hcomma : style.Plain ", " := plain_of_all rfl
      have ih := holds_commaList fun z hz => h z (List.mem_cons_of_mem x hz)
      have hfirst := h x List.mem_cons_self
      rw [commaList, List.map_cons, List.map_cons, String.intercalate_cons_cons,
        String.append_assoc, ← List.map_cons, List.flatMap_cons]
      refine hfirst.append (hcomma.holds_append ih) ?_
      rw [String.toList_append]
      exact apart_of_head (by simp)

/-- Placeholders in a row hold themselves. -/
theorem holds_series (style : PlaceholderStyle) (n count : Nat) :
    style.Holds (commaList (style.series n count)) (style.series n count) := by
  have hparts : ∀ s ∈ style.series n count, style.Holds (id s) [s] := by
    intro s hs
    obtain ⟨m, -, rfl⟩ := List.mem_map.mp hs
    exact holds_generated style m
  have hholds := holds_commaList hparts
  rwa [List.map_id, List.flatMap_singleton'] at hholds

end PlaceholderStyle

/-! ## Conditions -/

namespace SearchCondition

variable {α : Type} {style : PlaceholderStyle} (d : Dialect)

open PlaceholderStyle

theorem apart_fill (n : Nat) (c : SearchCondition α) :
    style.Apart ((c.template d).fill style n).toList := by
  obtain ⟨cs, hcs⟩ := exists_fill_eq_cons d style n c
  rw [hcs]
  exact apart_of_head (by simp)

theorem apart_fill_continued (op : Option GroupOperator) (n : Nat)
    (parts : List (SearchCondition α)) : style.Apart
      ((Template.continued (separator op) (templates d parts)).fill style n).toList := by
  have hseparator : style.Apart (separator op).toList := by
    rcases op with _ | _ | _ <;> exact apart_of_head rfl
  induction parts generalizing n with
  | nil => exact apart_of_head (by simp [templates, Template.continued, Template.fill])
  | cons part parts ih =>
      rw [fill_continued_cons, String.append_assoc, String.toList_append, String.toList_append]
      exact apart_append hseparator (apart_append (apart_fill d n part) (ih _))

mutual

/-- **The placeholders of a condition are those of its slots**, from left to right. -/
theorem holds_fill : ∀ (c : SearchCondition α) (n : Nat), (∀ name ∈ c.columns, style.Plain name) →
    style.Holds ((c.template d).fill style n) (style.series n c.operands.length)
  | compare column op operand, n, hnames => by
      have hcolumn := plain_quote d (hnames column List.mem_cons_self)
      have hop : style.Plain (" " ++ op.sql ++ " ") := by
        cases op <;> exact plain_of_all rfl
      have hend : style.Plain ")" := plain_of_all rfl
      have htext : (template d (compare column op operand)).fill style n
          = "(" ++ d.quote column ++ (" " ++ op.sql ++ " ") ++ (style.generated n ++ ")") := by
        simp [template, Template.fill, String.append_assoc]
      rw [htext]
      refine Plain.holds_append ?_
        ((holds_generated style n).append hend.holds (apart_of_head rfl))
      rw [plain_append, plain_append]
      exact ⟨⟨plain_of_all rfl, hcolumn⟩, hop⟩
  | absence column negated, n, hnames => by
      have hcolumn := plain_quote d (hnames column List.mem_cons_self)
      have hend : style.Plain (absenceSql negated) := by
        cases negated <;> exact plain_of_all rfl
      have htext : (template (α := α) d (absence column negated)).fill style n
          = "(" ++ d.quote column ++ absenceSql negated := by
        simp [template, Template.fill]
      rw [htext]
      refine Plain.holds ?_
      rw [plain_append, plain_append]
      exact ⟨⟨plain_of_all rfl, hcolumn⟩, hend⟩
  | group op [], n, _ => by
      have htext : (template (α := α) d (group op [])).fill style n
          = (op.getD .and).emptySql := by
        simp [template, Template.fill]
      rw [htext]
      refine Plain.holds ?_
      cases op.getD .and <;> exact plain_of_all rfl
  | group op (part :: parts), n, hnames => by
      obtain ⟨hpart, hparts⟩ := List.forall_mem_append.mp hnames
      have hend : style.Plain ")" := plain_of_all rfl
      rw [fill_group, operands, operandsOfAll, List.length_append, series_add, String.append_assoc,
        String.append_assoc]
      refine Plain.holds_append (plain_of_all rfl) ((holds_fill part n hpart).append ?_ ?_)
      · have hrest := (holds_continued op parts (n + part.operands.length) hparts).append
          hend.holds (apart_of_head rfl)
        rwa [List.append_nil] at hrest
      · rw [String.toList_append]
        exact apart_append (apart_fill_continued d op _ parts) (apart_of_head rfl)

theorem holds_continued (op : Option GroupOperator) : ∀ (parts : List (SearchCondition α))
    (n : Nat), (∀ name ∈ columnsOfAll parts, style.Plain name) →
      style.Holds ((Template.continued (separator op) (templates d parts)).fill style n)
        (style.series n (operandsOfAll parts).length)
  | [], _, _ => fun _ _ => rfl
  | part :: parts, n, hnames => by
      obtain ⟨hpart, hparts⟩ := List.forall_mem_append.mp hnames
      have hseparator : style.Plain (separator op) := by
        rcases op with _ | _ | _ <;> exact plain_of_all rfl
      rw [fill_continued_cons, operandsOfAll, List.length_append, series_add, String.append_assoc]
      exact hseparator.holds_append ((holds_fill part n hpart).append
        (holds_continued op parts _ hparts) (apart_fill_continued d op _ parts))

end

end SearchCondition

end SqlRecords
