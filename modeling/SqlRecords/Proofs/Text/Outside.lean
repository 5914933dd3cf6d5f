import Mathlib.Data.List.Chain

/-!
# Text outside of quotes

What a database makes of a parenthesis or of two hyphens in SQL depends on whether they stand
between quotes.  So a text is looked at without its quoted parts.  Pieces of a text can be looked at
one by one as long as each of them closes the quotes that it opens.

* `Text.outside` — a text without what stands between its quotes.
* `Text.Tidy` — the text closes its quotes, and outside of them every parenthesis has its partner.
* `Text.IsGroup` — the first parenthesis of the text is closed by the last one.
* `Text.Commentless` — no two hyphens in a row stand outside of the quotes.
* `Text.IsTerm`, `Text.IsAtom` — the texts of operands, and of words and literals in particular.
-/

namespace SqlRecords.Text

/-! ## Characters -/

/-- None of the characters is in the text. -/
def Avoids (marks cs : List Char) : Prop := ∀ c ∈ cs, c ∉ marks

instance (marks cs : List Char) : Decidable (Avoids marks cs) :=
  List.decidableBAll (fun c => c ∉ marks) cs

/-- The characters that matter outside of quotes, and the quote itself. -/
def marks : List Char := ['\'', '(', ')', '-']

theorem Avoids.mono {marks marks' cs : List Char} (h : Avoids marks cs) (hsub : marks' ⊆ marks) :
    Avoids marks' cs := fun c hc hmem => h c hc (hsub hmem)

theorem Avoids.not_mem {marks cs : List Char} (h : Avoids marks cs) {c : Char} (hc : c ∈ marks) :
    c ∉ cs := fun hmem => h c hmem hc

theorem avoids_append {marks cs ds : List Char} :
    Avoids marks (cs ++ ds) ↔ Avoids marks cs ∧ Avoids marks ds := List.forall_mem_append

/-! ## Quotes -/

/-- A text without what stands between quotes.  The quotes stay. -/
def outside : (quoted : Bool) → List Char → List Char
  | _, [] => []
  | quoted, c :: cs =>
    if c = '\'' then c :: outside (!quoted) cs
    else if quoted then outside quoted cs
    else c :: outside quoted cs

example : outside false ['a', '=', '\'', '-', '\''] = ['a', '=', '\'', '\''] := by cbv

/-- The text closes the quotes that it opens, so it has no part in how a text behind it is read. -/
def WellQuoted (cs : List Char) : Prop :=
  ∀ rest, outside false (cs ++ rest) = outside false cs ++ outside false rest

variable {c : Char} {body cs ds : List Char}

theorem outside_append_of_not_mem (h : '\'' ∉ cs) (rest : List Char) :
    outside false (cs ++ rest) = cs ++ outside false rest := by
  induction cs with
  | nil => rfl
  | cons c cs ih =>
      obtain ⟨hc, hcs⟩ := not_or.mp (fun hmem => h (List.mem_cons.mpr hmem))
      rw [List.cons_append, outside, if_neg (Ne.symm hc), if_neg Bool.false_ne_true, ih hcs,
        List.cons_append]

theorem outside_of_not_mem (h : '\'' ∉ cs) : outside false cs = cs := by
  have hnil := outside_append_of_not_mem h []
  rwa [List.append_nil, outside, List.append_nil] at hnil

theorem wellQuoted_of_not_mem (h : '\'' ∉ cs) : WellQuoted cs := by
  intro rest
  rw [outside_append_of_not_mem h, outside_of_not_mem h]

/-- Texts that close their quotes can be put one after the other. -/
theorem WellQuoted.append (h : WellQuoted cs) (h' : WellQuoted ds) : WellQuoted (cs ++ ds) := by
  intro rest
  rw [List.append_assoc, h, h', h, List.append_assoc]

/-- Inside quotes nothing is seen up to the next quote. -/
theorem outside_quoted (h : '\'' ∉ body) (rest : List Char) :
    outside true (body ++ '\'' :: rest) = '\'' :: outside false rest := by
  induction body with
  | nil => rw [List.nil_append, outside, if_pos rfl, Bool.not_true]
  | cons c body ih =>
      obtain ⟨hc, hbody⟩ := not_or.mp (fun hmem => h (List.mem_cons.mpr hmem))
      rw [List.cons_append, outside, if_neg (Ne.symm hc), if_pos rfl, ih hbody]

/-- Of a quoted text the quotes are left. -/
theorem outside_quotes (h : '\'' ∉ body) (rest : List Char) :
    outside false ('\'' :: (body ++ '\'' :: rest)) = ['\'', '\''] ++ outside false rest := by
  rw [outside, if_pos rfl, Bool.not_false, outside_quoted h]
  rfl

theorem outside_opening (cs : List Char) : outside false ('(' :: cs) = '(' :: outside false cs := by
  rw [outside, if_neg (by decide), if_neg Bool.false_ne_true]

/-! ## Parentheses -/

/-- How many parentheses are open after a text, if none is closed that was not open. -/
def depthAfter : (depth : Nat) → List Char → Option Nat
  | depth, [] => some depth
  | depth, c :: cs =>
    if c = '(' then depthAfter (depth + 1) cs
    else if c = ')' then if depth = 0 then none else depthAfter (depth - 1) cs
    else depthAfter depth cs

example : depthAfter 0 ['(', '(', ')'] = some 1 ∧ depthAfter 0 [')', '('] = none := by
  constructor <;> cbv

/-- Every parenthesis has its partner in the text. -/
def Balanced (cs : List Char) : Prop := ∀ depth, depthAfter depth cs = some depth

/-- The parentheses of a text are counted piece by piece. -/
theorem depthAfter_append (cs ds : List Char) (depth : Nat) :
    depthAfter depth (cs ++ ds) = (depthAfter depth cs).bind fun depth => depthAfter depth ds := by
  induction cs generalizing depth with
  | nil => rfl
  | cons c cs ih =>
      rw [List.cons_append, depthAfter, depthAfter]
      split
      · exact ih (depth + 1)
      · split
        · cases depth with
          | zero => rfl
          | succ depth => exact ih depth
        · exact ih depth

/-- With one more open parenthesis before a text there is one more after it. -/
theorem depthAfter_succ {depth depth' : Nat} (h : depthAfter depth cs = some depth') :
    depthAfter (depth + 1) cs = some (depth' + 1) := by
  induction cs generalizing depth with
  | nil => exact congrArg some (congrArg Nat.succ (Option.some.inj h))
  | cons c cs ih =>
      rw [depthAfter] at h ⊢
      split
      · rename_i hopen
        rw [if_pos hopen] at h
        exact ih h
      · rename_i hopen
        rw [if_neg hopen] at h
        split
        · rename_i hclose
          rw [if_pos hclose] at h
          cases depth with
          | zero => exact absurd h nofun
          | succ depth => exact ih h
        · rename_i hclose
          rw [if_neg hclose] at h
          exact ih h

theorem balanced_of_avoids (h : Avoids ['(', ')'] cs) : Balanced cs := by
  induction cs with
  | nil => exact fun _ => rfl
  | cons c cs ih =>
      obtain ⟨hc, hcs⟩ := List.forall_mem_cons.mp h
      simp only [List.mem_cons, List.not_mem_nil, or_false, not_or] at hc
      intro depth
      rw [depthAfter, if_neg hc.1, if_neg hc.2]
      exact ih hcs depth

theorem Balanced.append (h : Balanced cs) (h' : Balanced ds) : Balanced (cs ++ ds) := by
  intro depth
  rw [depthAfter_append, h, Option.bind_some, h']

/-- A pair of parentheses may be put around a text that closes its own. -/
theorem Balanced.parentheses (h : Balanced cs) : Balanced ('(' :: (cs ++ [')'])) := by
  intro depth
  rw [depthAfter, if_pos rfl, depthAfter_append, h, Option.bind_some]
  rfl

/-! ## Texts with quotes and parentheses -/

/-- The text closes its quotes, and outside of them every parenthesis has its partner. -/
structure Tidy (cs : List Char) : Prop where
  wellQuoted : WellQuoted cs
  balanced : Balanced (outside false cs)

/-- A text with neither quotes nor parentheses closes all that it opens. -/
theorem tidy_of_avoids (h : Avoids ['\'', '(', ')'] cs) : Tidy cs := by
  have hquote : '\'' ∉ cs := h.not_mem (by decide)
  refine ⟨wellQuoted_of_not_mem hquote, ?_⟩
  rw [outside_of_not_mem hquote]
  exact balanced_of_avoids (h.mono fun _ => List.mem_cons_of_mem _)

/-- The same for texts that close their parentheses as well. -/
theorem Tidy.append (h : Tidy cs) (h' : Tidy ds) : Tidy (cs ++ ds) := by
  refine ⟨h.wellQuoted.append h'.wellQuoted, ?_⟩
  rw [h.wellQuoted]
  exact h.balanced.append h'.balanced

theorem wellQuoted_singleton (h : c ≠ '\'') : WellQuoted [c] :=
  wellQuoted_of_not_mem (by simpa using Ne.symm h)

/-- Parentheses around a text that closes its quotes are outside of them. -/
theorem outside_parentheses (h : WellQuoted cs) :
    outside false ('(' :: (cs ++ [')'])) = '(' :: (outside false cs ++ [')']) := by
  rw [outside_opening, h]
  rfl

theorem Tidy.parentheses (h : Tidy cs) : Tidy ('(' :: (cs ++ [')'])) := by
  have hclosed : WellQuoted (cs ++ [')']) := h.wellQuoted.append (wellQuoted_singleton (by decide))
  have hquoted : WellQuoted ('(' :: (cs ++ [')'])) :=
    (wellQuoted_singleton (by decide)).append hclosed
  refine ⟨hquoted, ?_⟩
  rw [outside_parentheses h.wellQuoted]
  exact h.balanced.parentheses

/-- The text is one group: its first parenthesis is closed by its last one. -/
def IsGroup (cs : List Char) : Prop := ∃ body, cs = '(' :: (body ++ [')']) ∧ Tidy body

/-- A text that closes what it opens, with something behind it, is not one group. -/
theorem not_isGroup_append (h : Tidy cs) (hne : cs ≠ []) (ds : List Char) (hds : ds ≠ []) :
    ¬ IsGroup (cs ++ ds) := by
  rintro ⟨body, heq, hbody⟩
  obtain ⟨c, cs, rfl⟩ := List.exists_cons_of_ne_nil hne
  rw [List.cons_append, List.cons.injEq] at heq
  obtain ⟨rfl, heq⟩ := heq
  obtain ⟨ds, d, rfl⟩ := List.eq_nil_or_concat ds |>.resolve_left hds
  rw [List.concat_eq_append, ← List.append_assoc] at heq
  obtain ⟨rfl, -⟩ := List.append_inj' heq rfl
  have hquoted : WellQuoted cs := by
    intro rest
    have hrest := h.wellQuoted rest
    rw [List.cons_append, outside_opening, outside_opening, List.cons_append,
      List.cons.injEq] at hrest
    exact hrest.2
  -- Inside the group the rest of the first text would never close what was open before it, and so
  -- the text would leave the parenthesis open that it starts with.
  have hopen := h.balanced 0
  rw [outside_opening, depthAfter, if_pos rfl] at hopen
  have hclosed := hbody.balanced 0
  rw [hquoted, depthAfter_append] at hclosed
  cases hdepth : depthAfter 0 (outside false cs) with
  | none =>
      rw [hdepth] at hclosed
      exact absurd hclosed nofun
  | some depth =>
      rw [depthAfter_succ hdepth] at hopen
      exact absurd hopen (by simp)

/-! ## Hyphens -/

/-- No two hyphens in a row stand outside of the quotes, where they would start a comment. -/
def Commentless (cs : List Char) : Prop :=
  (outside false cs).IsChain fun c d => ¬ (c = '-' ∧ d = '-')

instance (cs : List Char) : Decidable (Commentless cs) :=
  inferInstanceAs (Decidable (List.IsChain _ _))

/-- The text starts with a hyphen. -/
def StartsWithHyphen (cs : List Char) : Prop := (outside false cs).head? = some '-'

/-- Two texts hold a comment only where one of them does, or where a hyphen meets another one. -/
theorem commentless_append (h : WellQuoted cs) :
    Commentless (cs ++ ds) ↔ Commentless cs ∧ Commentless ds
      ∧ ¬ ((outside false cs).getLast? = some '-' ∧ StartsWithHyphen ds) := by
  rw [Commentless, h, List.isChain_append]
  refine and_congr_right fun _ => and_congr_right fun _ => ?_
  constructor
  · exact fun hseam hboth => hseam _ hboth.1 _ hboth.2 ⟨rfl, rfl⟩
  · rintro hseam c hc d hd ⟨rfl, rfl⟩
    exact hseam ⟨hc, hd⟩

/-! ## Terms -/

/-- The text can stand for a term: it closes what it opens, and it ends with something else than a
hyphen. -/
structure IsTerm (cs : List Char) : Prop extends Tidy cs where
  ends : ∃ c ∈ (outside false cs).getLast?, c ≠ '-'

theorem IsTerm.ne_nil (h : IsTerm cs) : cs ≠ [] := by
  rintro rfl
  obtain ⟨c, hc, -⟩ := h.ends
  exact absurd hc nofun

/-- A text that ends with a term is a term. -/
theorem Tidy.append_term (h : Tidy cs) (h' : IsTerm ds) : IsTerm (cs ++ ds) := by
  obtain ⟨c, hc, hne⟩ := h'.ends
  refine ⟨h.append h'.toTidy, c, ?_, hne⟩
  rw [h.wellQuoted]
  exact List.mem_getLast?_append_of_mem_getLast? hc

/-- A group is a term. -/
theorem Tidy.parentheses_term (h : Tidy cs) : IsTerm ('(' :: (cs ++ [')'])) := by
  refine ⟨h.parentheses, ')', ?_, by decide⟩
  rw [outside_parentheses h.wellQuoted, ← List.cons_append]
  exact List.getLast?_concat

/-- A word is a term. -/
theorem isTerm_of_avoids (h : Avoids marks cs) (hne : cs ≠ []) : IsTerm cs := by
  refine ⟨tidy_of_avoids (h.mono (by decide)), cs.getLast hne, ?_, fun hhyphen => ?_⟩
  · rw [outside_of_not_mem (h.not_mem (by decide)), List.getLast?_eq_some_getLast hne]
    rfl
  · exact h _ (List.getLast_mem hne) (by rw [hhyphen]; decide)

/-- Behind a term there is no hyphen for the next text to meet. -/
theorem IsTerm.commentless_append (h : IsTerm cs) :
    Commentless (cs ++ ds) ↔ Commentless cs ∧ Commentless ds := by
  rw [Text.commentless_append h.wellQuoted, ← and_assoc, and_iff_left_iff_imp]
  rintro - ⟨hhyphen, -⟩
  obtain ⟨c, hc, hne⟩ := h.ends
  exact hne (Option.some.inj (hc.symm.trans hhyphen))

/-- A term has a first character of its own, so nothing behind it changes how the text starts. -/
theorem IsTerm.startsWithHyphen_append (h : IsTerm cs) :
    StartsWithHyphen (cs ++ ds) ↔ StartsWithHyphen cs := by
  obtain ⟨c, hc, -⟩ := h.ends
  rw [StartsWithHyphen, h.wellQuoted, List.head?_append, StartsWithHyphen]
  cases hout : outside false cs with
  | nil => exact absurd hc (by rw [hout]; nofun)
  | cons d out => rfl

/-- Parentheses neither start a comment nor end one. -/
theorem commentless_parentheses (h : IsTerm cs) :
    Commentless ('(' :: (cs ++ [')'])) ↔ Commentless cs := by
  rw [Commentless, outside_opening, List.isChain_cons]
  have hfirst : ∀ d ∈ (outside false (cs ++ [')'])).head?, ¬ ('(' = '-' ∧ d = '-') :=
    fun _ _ hopen => absurd hopen.1 (by decide)
  rw [and_iff_right hfirst]
  refine h.commentless_append.trans (and_iff_left (by decide))

theorem not_startsWithHyphen_parentheses (cs : List Char) : ¬ StartsWithHyphen ('(' :: cs) := by
  rw [StartsWithHyphen, outside_opening]
  exact fun hhyphen => absurd (Option.some.inj hhyphen) (by decide)

/-! ## Atoms -/

/-- A text with neither parentheses nor hyphens outside of its quotes, but perhaps with one hyphen
in front. -/
structure IsAtom (negative : Bool) (cs : List Char) : Prop where
  wellQuoted : WellQuoted cs
  outside_eq : ∃ body, body ≠ [] ∧ Avoids ['(', ')', '-'] body
    ∧ outside false cs = (if negative then ['-'] else []) ++ body

variable {negative : Bool}

theorem isAtom_of_avoids (h : Avoids marks cs) (hne : cs ≠ []) :
    IsAtom negative ((if negative then ['-'] else []) ++ cs) := by
  have hsign : '\'' ∉ if negative then ['-'] else [] := by cases negative <;> decide
  have hquote : '\'' ∉ (if negative then ['-'] else []) ++ cs :=
    fun hmem => (List.mem_append.mp hmem).elim hsign (h.not_mem (by decide))
  exact ⟨wellQuoted_of_not_mem hquote, cs, hne, h.mono (by decide), outside_of_not_mem hquote⟩

/-- A text between quotes, with letters in front. -/
theorem isAtom_quotes (h : Avoids marks cs) (hbody : '\'' ∉ body) :
    IsAtom false (cs ++ '\'' :: (body ++ ['\''])) := by
  have hout : ∀ rest, outside false (cs ++ '\'' :: (body ++ '\'' :: rest))
      = cs ++ ['\'', '\''] ++ outside false rest := by
    intro rest
    rw [outside_append_of_not_mem (h.not_mem (by decide)), outside_quotes hbody, List.append_assoc]
  have hself : outside false (cs ++ '\'' :: (body ++ ['\''])) = cs ++ ['\'', '\''] := by
    rw [hout, outside, List.append_nil]
  have hplain : Avoids ['(', ')', '-'] (cs ++ ['\'', '\'']) :=
    avoids_append.mpr ⟨h.mono (by decide), by decide⟩
  -- Both quotes are left, so the text is not empty outside of them even where it has no letters.
  refine ⟨fun rest => ?_, cs ++ ['\'', '\''], by simp, hplain, hself⟩
  rw [hself, ← hout]
  simp only [List.append_assoc, List.cons_append, List.nil_append]

/-- An atom is a term: it has no parentheses to close, and something else than its sign. -/
theorem IsAtom.isTerm (h : IsAtom negative cs) : IsTerm cs := by
  obtain ⟨body, hne, hbody, hout⟩ := h.outside_eq
  have hplain : Avoids ['(', ')'] ((if negative then ['-'] else []) ++ body) :=
    avoids_append.mpr ⟨by cases negative <;> decide, hbody.mono (by decide)⟩
  refine ⟨⟨h.wellQuoted, ?_⟩, body.getLast hne, ?_, fun hhyphen => ?_⟩
  · rw [hout]
    exact balanced_of_avoids hplain
  · rw [hout]
    exact List.mem_getLast?_append_of_mem_getLast? (List.getLast?_eq_some_getLast hne)
  · exact hbody _ (List.getLast_mem hne) (by rw [hhyphen]; decide)

/-- An atom starts with a hyphen if it is negative. -/
theorem IsAtom.startsWithHyphen_iff (h : IsAtom negative cs) :
    StartsWithHyphen cs ↔ negative = true := by
  obtain ⟨body, hne, hbody, hout⟩ := h.outside_eq
  obtain ⟨c, body, rfl⟩ := List.exists_cons_of_ne_nil hne
  rw [StartsWithHyphen, hout]
  cases negative with
  | true => exact iff_of_true rfl rfl
  | false =>
      refine iff_of_false (fun hhyphen => ?_) Bool.false_ne_true
      have hfirst : c = '-' := Option.some.inj hhyphen
      exact hbody c List.mem_cons_self (by rw [hfirst]; decide)

theorem IsAtom.commentless (h : IsAtom negative cs) : Commentless cs := by
  obtain ⟨body, -, hbody, hout⟩ := h.outside_eq
  have hplain : ∀ c ∈ body, c ≠ '-' := by
    rintro _ hc rfl
    exact hbody _ hc (by decide)
  have hchain : body.IsChain fun c d => ¬ (c = '-' ∧ d = '-') := by
    refine List.Pairwise.isChain (List.pairwise_of_forall_mem_list fun c hc d _ hhyphens => ?_)
    exact hplain c hc hhyphens.1
  rw [Commentless, hout, List.isChain_append]
  refine ⟨by cases negative <;> decide, hchain, fun c _ d hd hhyphens => ?_⟩
  exact hplain d (List.mem_of_mem_head? hd) hhyphens.2

theorem IsAtom.opening_not_mem (h : IsAtom negative cs) : '(' ∉ outside false cs := by
  obtain ⟨body, -, hbody, hout⟩ := h.outside_eq
  rw [hout, List.mem_append, not_or]
  exact ⟨by cases negative <;> decide, hbody.not_mem (by decide)⟩

end SqlRecords.Text
