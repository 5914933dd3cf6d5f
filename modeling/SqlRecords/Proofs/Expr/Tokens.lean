import SqlRecords.Operators
import SqlRecords.Text.Name

/-!
# Tokens of SQL expressions

A filter goes into a statement as text, so what it means is decided by whoever reads the text.  The
first thing that is read are tokens, and each of them as long as it goes: `AND` after a digit is
still a word of its own, but a name after a name is not, and two hyphens are no minus signs.

* `Token` — names, literals, operators and the words of the grammar.
* `Token.next?` — the token at the front of a text; `tokens?` — all tokens of a text.
* `Spells` — the text has these tokens, in front of whatever may follow it.
-/

namespace SqlRecords

/-- A token of an SQL expression. -/
inductive Token where
  | name (s : String)
  /-- A literal, as it is written. -/
  | literal (sql : String)
  | operator (op : BinaryOp)
  | null | is | not | like | isIn
  | opening | closing | comma
deriving DecidableEq, Repr

namespace Token

/-! ## Reading tokens -/

/-- The words that are no names, in any case. -/
def keywords : List (String × Token) :=
  [("and", operator .and), ("or", operator .or), ("not", not), ("null", null), ("is", is),
    ("like", like), ("in", isIn)]

/-- The token of a word. -/
def ofWord (word : String) : Token :=
  match keywords.find? fun k => Text.sameName k.1 word with
  | some k => k.2
  | none => name word

/-- A character that a name may start with.  Outside of ASCII every character is a letter. -/
def isNameStart (c : Char) : Bool := c.isAlpha || c = '_' || 128 ≤ c.toNat

/-- A character that a name may go on with. -/
def isNamePart (c : Char) : Bool := isNameStart c || c.isDigit || c = '$'

/-- The text up to the closing quote, and what follows it.  Two quotes in a row stand for one. -/
def quoted? : List Char → Option (List Char × List Char)
  | [] => none
  | '\'' :: '\'' :: rest => (quoted? rest).map fun (body, rest) => ('\'' :: '\'' :: body, rest)
  | '\'' :: rest => some ([], rest)
  | c :: rest => (quoted? rest).map fun (body, rest) => (c :: body, rest)

/-- A literal between quotes, after what stands before the first of them. -/
def quotedLiteral? (before : String) (rest : List Char) : Option (Token × List Char) :=
  (quoted? rest).map fun (body, rest) =>
    (literal (before ++ "'" ++ String.ofList body ++ "'"), rest)

/-- The point and the digits of a fraction, if there is one. -/
def fraction : List Char → List Char
  | '.' :: rest => '.' :: rest.takeWhile Char.isDigit
  | _ => []

/-- A number: digits, and perhaps a fraction. -/
def number (cs : List Char) : List Char :=
  cs.takeWhile Char.isDigit ++ fraction (cs.dropWhile Char.isDigit)

/-- The tokens that are not words.  Two hyphens, or a slash and a star, start a comment. -/
def symbol? : List Char → Option (Token × List Char)
  | '(' :: rest => some (opening, rest)
  | ')' :: rest => some (closing, rest)
  | ',' :: rest => some (comma, rest)
  | '=' :: rest => some (operator .eq, rest)
  | '<' :: '>' :: rest => some (operator .ne, rest)
  | '<' :: '=' :: rest => some (operator .le, rest)
  | '<' :: rest => some (operator .lt, rest)
  | '>' :: '=' :: rest => some (operator .ge, rest)
  | '>' :: rest => some (operator .gt, rest)
  | '+' :: rest => some (operator .add, rest)
  | '-' :: '-' :: _ => none
  | '-' :: rest => some (operator .subtract, rest)
  | '*' :: rest => some (operator .multiply, rest)
  | '/' :: '*' :: _ => none
  | '/' :: rest => some (operator .divide, rest)
  | _ => none

/-- The token at the front of a text that starts with `c`, and what follows it. -/
def next? (c : Char) (rest : List Char) : Option (Token × List Char) :=
  if c.isDigit then
    some (literal (String.ofList (number (c :: rest))), (c :: rest).drop (number (c :: rest)).length)
  else if isNameStart c then
    if (c = 'X' ∨ c = 'x') ∧ rest.head? = some '\'' then
      quotedLiteral? (String.singleton c) rest.tail
    else some (ofWord (String.ofList (c :: rest.takeWhile isNamePart)), rest.dropWhile isNamePart)
  else if c = '\'' then quotedLiteral? "" rest
  else symbol? (c :: rest)

/-- The tokens of a text, without the blanks between them. -/
def tokens? : List Char → Option (List Token)
  | [] => some []
  | c :: rest =>
    if c.isWhitespace then tokens? rest
    else
      match next? c rest with
      | none => none
      | some (t, rest') => if rest'.length ≤ rest.length then (tokens? rest').map (t :: ·) else none
termination_by cs => cs.length

example : tokens? "(Age>18 AND Name is null)".toList
    = some [opening, name "Age", operator .gt, literal "18", operator .and, name "Name", is, null,
        closing] := by decide +kernel

theorem tokens?_blank (rest : List Char) : tokens? (' ' :: rest) = tokens? rest := by
  rw [tokens?, if_pos (by decide)]

/-- A token in front of the tokens of the rest. -/
theorem tokens?_cons {c : Char} {rest rest' : List Char} {t : Token}
    (hblank : c.isWhitespace = false) (hnext : next? c rest = some (t, rest'))
    (hlength : rest'.length ≤ rest.length) :
    tokens? (c :: rest) = (tokens? rest').map (t :: ·) := by
  rw [tokens?, if_neg (by simp [hblank]), hnext]
  exact if_pos hlength

/-! ## What may follow a token -/

/-- The text does not go on with a word, a number or a quote. -/
def Delimited (rest : List Char) : Prop :=
  ∀ c ∈ rest.head?, isNamePart c = false ∧ c ≠ '.' ∧ c ≠ '\''

/-- The text does not go on with a part of an operator or of a comment. -/
def Operand (rest : List Char) : Prop :=
  ∃ c cs, rest = c :: cs ∧ c ∉ ['=', '>', '-', '*']

theorem delimited_nil : Delimited [] := nofun

theorem delimited_cons {c : Char} (h : isNamePart c = false ∧ c ≠ '.' ∧ c ≠ '\'')
    (rest : List Char) : Delimited (c :: rest) := by
  rintro _ ⟨⟩
  exact h

/-- A word or a number is no part of an operator. -/
theorem operand_cons {c : Char} (h : isNamePart c = true) (cs : List Char) : Operand (c :: cs) := by
  refine ⟨c, cs, rfl, fun hc => ?_⟩
  simp only [List.mem_cons, List.not_mem_nil, or_false] at hc
  rcases hc with rfl | rfl | rfl | rfl <;> exact absurd h (by decide)

/-- Only the first character of what follows matters. -/
theorem Operand.append {cs : List Char} (h : Operand cs) (rest : List Char) :
    Operand (cs ++ rest) := by
  obtain ⟨c, cs, rfl, hc⟩ := h
  exact ⟨c, cs ++ rest, rfl, hc⟩

/-! ## Texts of tokens -/

/-- The text has these tokens, wherever the text that follows allows it. -/
def Spells (allowed : List Char → Prop) (text : List Char) (ts : List Token) : Prop :=
  ∀ rest, allowed rest → tokens? (text ++ rest) = (tokens? rest).map (ts ++ ·)

/-- Any text may follow. -/
def Free (_ : List Char) : Prop := True

variable {allowed between : List Char → Prop} {text more : List Char} {ts us : List Token}

theorem spells_nil : Spells Free [] [] := by
  intro rest _
  rw [List.nil_append]
  cases tokens? rest <;> rfl

/-- Tokens of one text, then those of the next, which must be allowed to follow the first. -/
theorem Spells.append (h : Spells between text ts) (hmore : Spells allowed more us)
    (hbetween : ∀ rest, allowed rest → between (more ++ rest)) :
    Spells allowed (text ++ more) (ts ++ us) := by
  intro rest hrest
  rw [List.append_assoc, h _ (hbetween rest hrest), hmore rest hrest, Option.map_map]
  congr 1
  funext vs
  exact (List.append_assoc ts us vs).symm

/-- Where nothing is asked of what follows, any text may follow. -/
theorem Spells.then (h : Spells Free text ts) (hmore : Spells allowed more us) :
    Spells allowed (text ++ more) (ts ++ us) :=
  h.append hmore fun _ _ => trivial

theorem Spells.of_free (h : Spells Free text ts) : Spells allowed text ts :=
  fun rest _ => h rest trivial

theorem spells_blank : Spells Free [' '] [] := by
  intro rest _
  rw [List.singleton_append, tokens?_blank]
  exact spells_nil rest trivial

/-- A text of one token is known from what is read at its first character. -/
theorem spells_of_next? {c : Char} {cs : List Char} {t : Token} (hblank : c.isWhitespace = false)
    (hnext : ∀ rest, allowed rest → next? c (cs ++ rest) = some (t, rest)) :
    Spells allowed (c :: cs) [t] := by
  intro rest hrest
  have hlength : rest.length ≤ (cs ++ rest).length := by simp
  exact tokens?_cons hblank (hnext rest hrest) hlength

/-! ## Operators -/

/-- What starts neither a number nor a word nor a literal is a symbol. -/
theorem next?_symbol {c : Char} {rest : List Char} (hdigit : c.isDigit = false)
    (hname : isNameStart c = false) (hquote : c ≠ '\'') : next? c rest = symbol? (c :: rest) := by
  simp [next?, hdigit, hname, hquote]

theorem spells_opening : Spells Free ['('] [opening] :=
  spells_of_next? (by decide) fun _ _ => rfl

theorem spells_closing : Spells Free [')'] [closing] :=
  spells_of_next? (by decide) fun _ _ => rfl

theorem spells_comma : Spells Free [','] [comma] :=
  spells_of_next? (by decide) fun _ _ => rfl

/-- The operators of one character. -/
def shortOperators : List (Char × BinaryOp) :=
  [('=', .eq), ('<', .lt), ('>', .gt), ('+', .add), ('-', .subtract), ('*', .multiply),
    ('/', .divide)]

/-- In front of an operand they are not taken for a part of something longer. -/
theorem next?_shortOperator {c : Char} {op : BinaryOp} (h : (c, op) ∈ shortOperators)
    {rest : List Char} (hrest : Operand rest) : next? c rest = some (operator op, rest) := by
  obtain ⟨d, rest, rfl, hd⟩ := hrest
  have hplain : ∀ k ∈ shortOperators,
      k.1.isDigit = false ∧ isNameStart k.1 = false ∧ k.1 ≠ '\'' := by decide
  obtain ⟨hdigit, hname, hquote⟩ := hplain (c, op) h
  rw [next?_symbol hdigit hname hquote]
  simp only [List.mem_cons, List.not_mem_nil, or_false, not_or] at hd
  obtain ⟨heq, hgt, hminus, hstar⟩ := hd
  simp only [shortOperators, List.mem_cons, Prod.mk.injEq, List.not_mem_nil, or_false] at h
  rcases h with ⟨rfl, rfl⟩ | ⟨rfl, rfl⟩ | ⟨rfl, rfl⟩ | ⟨rfl, rfl⟩ | ⟨rfl, rfl⟩ | ⟨rfl, rfl⟩ |
    ⟨rfl, rfl⟩ <;> simp [symbol?, heq, hgt, hminus, hstar]

/-- An operator of one character is read as itself in front of an operand. -/
theorem spells_shortOperator {c : Char} {op : BinaryOp} (h : (c, op) ∈ shortOperators) :
    Spells Operand [c] [operator op] := by
  have hblank : ∀ k ∈ shortOperators, k.1.isWhitespace = false := by decide
  exact spells_of_next? (hblank (c, op) h) fun _ hrest => next?_shortOperator h hrest

/-- An operator other than `AND` and `OR`, in front of an operand. -/
theorem spells_infix {op : BinaryOp} (h : op.isLogical = false) :
    Spells Operand op.sql.toList [operator op] := by
  have htext : ∀ c, (c, op) ∈ shortOperators → op.sql.toList = [c] →
      Spells Operand op.sql.toList [operator op] := by
    intro c hc hsql
    rw [hsql]
    exact spells_shortOperator hc
  cases op with
  | eq => exact htext '=' (by decide) rfl
  | gt => exact htext '>' (by decide) rfl
  | lt => exact htext '<' (by decide) rfl
  | add => exact htext '+' (by decide) rfl
  | subtract => exact htext '-' (by decide) rfl
  | multiply => exact htext '*' (by decide) rfl
  | divide => exact htext '/' (by decide) rfl
  | ne | ge | le => exact spells_of_next? (by decide) fun _ _ => rfl
  | and | or => exact absurd h (by decide)

/-! ## Words -/

theorem le_toNat_of_isNameStart {c : Char} (h : isNameStart c = true) : 65 ≤ c.toNat := by
  rw [isNameStart, Bool.or_eq_true, Bool.or_eq_true, decide_eq_true_eq, decide_eq_true_eq] at h
  rcases h with (hletter | rfl) | hother
  · rcases Bool.or_eq_true_iff.mp hletter with hupper | hlower
    · exact UInt32.le_iff_toNat_le.mp (of_decide_eq_true hupper).1
    · have hsmall : 97 ≤ c.toNat :=
        UInt32.le_iff_toNat_le.mp (of_decide_eq_true (Bool.and_eq_true_iff.mp hlower).1)
      omega
  · decide
  · omega

/-- Letters are not digits, so a word is not read as a number. -/
theorem not_isDigit_of_isNameStart {c : Char} (h : isNameStart c = true) : c.isDigit = false := by
  have hletter := le_toNat_of_isNameStart h
  rw [Char.isDigit, Bool.and_eq_false_iff]
  refine .inr (decide_eq_false fun hnine => ?_)
  have hsmall : c.toNat ≤ 57 := UInt32.le_iff_toNat_le.mp hnine
  omega

/-- The blanks come before the digits. -/
theorem not_isWhitespace_of_le_toNat {c : Char} (h : 48 ≤ c.toNat) : c.isWhitespace = false := by
  rw [← Bool.not_eq_true]
  intro hblank
  simp only [Char.isWhitespace, Bool.or_eq_true, decide_eq_true_eq] at hblank
  rcases hblank with ((rfl | rfl) | rfl) | rfl <;> exact absurd h (by decide)

/-- What belongs to a token ends where the text that follows does not belong to it. -/
theorem takeWhile_append_of_head {p : Char → Bool} {cs rest : List Char} (h : ∀ c ∈ cs, p c = true)
    (hrest : ∀ c ∈ rest.head?, p c = false) : (cs ++ rest).takeWhile p = cs := by
  rw [List.takeWhile_append_of_pos h]
  cases rest with
  | nil => simp
  | cons c rest => simp [hrest c rfl]

theorem dropWhile_append_of_head {p : Char → Bool} {cs rest : List Char} (h : ∀ c ∈ cs, p c = true)
    (hrest : ∀ c ∈ rest.head?, p c = false) : (cs ++ rest).dropWhile p = rest := by
  rw [List.dropWhile_append_of_pos h]
  cases rest with
  | nil => simp
  | cons c rest => simp [hrest c rfl]

/-- A letter, and letters and digits after it. -/
def isWord : List Char → Bool
  | [] => false
  | c :: cs => isNameStart c && cs.all isNamePart

/-- A word is read as a whole, even one that starts as a blob does. -/
theorem next?_word {c : Char} {cs rest : List Char} (hword : isWord (c :: cs) = true)
    (hrest : Delimited rest) :
    next? c (cs ++ rest) = some (ofWord (String.ofList (c :: cs)), rest) := by
  obtain ⟨hstart, hparts⟩ := Bool.and_eq_true_iff.mp hword
  rw [List.all_eq_true] at hparts
  -- Only a quote right after its first letter would turn the word into a blob.
  have hhead : (cs ++ rest).head? ≠ some '\'' := by
    intro hquote
    cases cs with
    | nil => exact (hrest '\'' hquote).2.2 rfl
    | cons d cs =>
        obtain rfl := Option.some.inj hquote
        exact absurd (hparts '\'' List.mem_cons_self) (by decide)
  have hend : ∀ d ∈ rest.head?, isNamePart d = false := fun d hd => (hrest d hd).1
  rw [next?, if_neg (by simp [not_isDigit_of_isNameStart hstart]), if_pos hstart,
    if_neg fun h => hhead h.2, takeWhile_append_of_head hparts hend,
    dropWhile_append_of_head hparts hend]

theorem spells_word {word : String} (h : isWord word.toList = true) :
    Spells Delimited word.toList [ofWord word] := by
  obtain ⟨cs, rfl⟩ : ∃ cs, word = String.ofList cs := ⟨word.toList, String.ofList_toList.symm⟩
  rw [String.toList_ofList] at h ⊢
  cases cs with
  | nil => exact absurd h (by decide)
  | cons c cs =>
      have hletter := le_toNat_of_isNameStart (Bool.and_eq_true_iff.mp h).1
      have hblank : c.isWhitespace = false := not_isWhitespace_of_le_toNat (by omega)
      exact spells_of_next? hblank fun _ => next?_word h

theorem operand_of_isWord {cs : List Char} (h : isWord cs = true) : Operand cs := by
  cases cs with
  | nil => exact absurd h (by decide)
  | cons c cs =>
      refine operand_cons ?_ cs
      rw [isNamePart, (Bool.and_eq_true_iff.mp h).1, Bool.true_or, Bool.true_or]

/-- Words with a blank in front of each. -/
def spaced (words : List String) : List Char := words.flatMap fun word => ' ' :: word.toList

theorem delimited_blank (rest : List Char) : Delimited (' ' :: rest) :=
  delimited_cons (by decide) rest

/-- Each word is a token of its own, since a blank sets it apart from the next one. -/
theorem spells_spaced {words : List String} (h : ∀ word ∈ words, isWord word.toList = true) :
    Spells Delimited (spaced words) (words.map ofWord) := by
  induction words with
  | nil => exact fun rest _ => spells_nil rest trivial
  | cons word words ih =>
      obtain ⟨hword, hwords⟩ := List.forall_mem_cons.mp h
      refine spells_blank.then ((spells_word hword).append (ih hwords) fun rest hrest => ?_)
      cases words with
      | nil => exact hrest
      | cons word' words => exact delimited_blank _

/-- Words with blanks between and around them, which set them apart from everything else. -/
theorem spells_words {words : List String} (h : ∀ word ∈ words, isWord word.toList = true)
    (htext : text = spaced words ++ [' ']) (htokens : words.map ofWord = ts) :
    Spells Free text ts := by
  have hspells := (spells_spaced h).append spells_blank fun rest _ => delimited_blank rest
  rwa [List.append_nil, ← htext, htokens] at hspells

/-! ## Literals -/

/-- Digits, and perhaps a point and digits after it. -/
def IsNumeral (cs : List Char) : Prop :=
  ∃ whole places, cs = whole ++ places ∧ whole ≠ [] ∧ (∀ c ∈ whole, c.isDigit = true)
    ∧ (places = [] ∨ ∃ digits, places = '.' :: digits ∧ ∀ c ∈ digits, c.isDigit = true)

/-- A number is read with its places, and no further. -/
theorem number_append {whole places rest : List Char} (hwhole : ∀ c ∈ whole, c.isDigit = true)
    (hplaces : places = [] ∨ ∃ digits, places = '.' :: digits ∧ ∀ c ∈ digits, c.isDigit = true)
    (hrest : Delimited rest) : number (whole ++ places ++ rest) = whole ++ places := by
  have hend : ∀ c ∈ rest.head?, c.isDigit = false := by
    intro c hc
    have hpart := (hrest c hc).1
    simp only [isNamePart, Bool.or_eq_false_iff] at hpart
    exact hpart.1.2
  have hstop : ∀ c ∈ (places ++ rest).head?, c.isDigit = false := by
    rcases hplaces with rfl | ⟨digits, rfl, -⟩
    · exact hend
    · rintro _ ⟨⟩
      rfl
  rw [number, List.append_assoc, takeWhile_append_of_head hwhole hstop,
    dropWhile_append_of_head hwhole hstop]
  congr 1
  rcases hplaces with rfl | ⟨digits, rfl, hdigits⟩
  · cases rest with
    | nil => rfl
    | cons c rest =>
        have hpoint : c ≠ '.' := (hrest c rfl).2.1
        simp [fraction, hpoint]
  · rw [List.cons_append, fraction, takeWhile_append_of_head hdigits hend]

theorem spells_numeral {cs : List Char} (h : IsNumeral cs) :
    Spells Delimited cs [literal (String.ofList cs)] := by
  obtain ⟨whole, places, rfl, hne, hwhole, hplaces⟩ := h
  obtain ⟨c, whole, rfl⟩ := List.exists_cons_of_ne_nil hne
  have hdigit : c.isDigit = true := hwhole c List.mem_cons_self
  have hblank : c.isWhitespace = false := by
    rw [Char.isDigit, Bool.and_eq_true, decide_eq_true_eq] at hdigit
    exact not_isWhitespace_of_le_toNat (UInt32.le_iff_toNat_le.mp hdigit.1)
  show Spells Delimited (c :: (whole ++ places)) _
  refine spells_of_next? hblank fun rest hrest => ?_
  have hnumber : number (c :: (whole ++ places ++ rest)) = c :: (whole ++ places) :=
    number_append hwhole hplaces hrest
  rw [next?, if_pos hdigit, hnumber]
  simp

/-- A literal is read up to its closing quote. -/
theorem quoted?_append {body : List Char} (h : '\'' ∉ body) {rest : List Char}
    (hrest : Delimited rest) : quoted? (body ++ '\'' :: rest) = some (body, rest) := by
  induction body with
  | nil =>
      cases rest with
      | nil => rfl
      | cons c rest =>
          have hquote : c ≠ '\'' := (hrest c rfl).2.2
          simp [quoted?, hquote]
  | cons c body ih =>
      obtain ⟨hc, hbody⟩ := not_or.mp (fun hmem => h (List.mem_cons.mpr hmem))
      have hquote : c ≠ '\'' := fun heq => hc heq.symm
      simp [quoted?, hquote, ih hbody]

/-- A text in quotes is one token, whatever else stands between them. -/
theorem spells_quoted {body : List Char} (h : '\'' ∉ body) :
    Spells Delimited ('\'' :: body ++ ['\'']) [literal ("'" ++ String.ofList body ++ "'")] := by
  show Spells Delimited ('\'' :: (body ++ ['\''])) _
  refine spells_of_next? (by decide) fun rest hrest => ?_
  rw [List.append_assoc, List.singleton_append, next?, if_neg (by decide), if_neg (by decide),
    if_pos rfl, quotedLiteral?, quoted?_append h hrest, Option.map_some]
  rfl

/-- A blob is one token: its letter is not read as a word of its own. -/
theorem spells_blob {body : List Char} (h : '\'' ∉ body) :
    Spells Delimited ('X' :: '\'' :: body ++ ['\''])
      [literal ("X'" ++ String.ofList body ++ "'")] := by
  show Spells Delimited ('X' :: ('\'' :: (body ++ ['\'']))) _
  refine spells_of_next? (by decide) fun rest hrest => ?_
  rw [List.cons_append, List.append_assoc, List.singleton_append, next?, if_neg (by decide),
    if_pos (by decide), if_pos (by simp), List.tail_cons, quotedLiteral?, quoted?_append h hrest,
    Option.map_some]
  rfl

end Token

end SqlRecords
