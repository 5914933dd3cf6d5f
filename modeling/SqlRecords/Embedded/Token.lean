import SqlRecords.Text.Numeral

/-!
# Tokens of SQL text

The tokens of the statements that the embedded database runs: words, quoted identifiers,
placeholders and single signs. Blanks and comments separate tokens, and a text ends before its
first null character.

* `Token` — a token.
* `Token.skip?` — the text after a blank or a comment.
* `Token.next?` — the first token of a text and the text after it.
* `Token.scan?` — all tokens of a text; a text that contains anything else has none.
-/

namespace SqlRecords.Embedded

/-- A token of SQL text. -/
inductive Token where
  /-- A keyword or a plain identifier, in small letters. -/
  | word (s : String)
  /-- An identifier in double quotes. -/
  | quoted (s : String)
  /-- A placeholder, with its mark. -/
  | placeholder (s : String)
  | sign (c : Char)
deriving DecidableEq, Repr

namespace Token

/-! ## Blanks and comments -/

/-- The blanks between tokens. -/
def isSpace (c : Char) : Bool :=
  c = ' ' || c = '\t' || c = '\n' || c = '\x0c' || c = '\r'

/-- The characters of a run of blanks after its first; a vertical tab cannot start one. -/
def isInnerSpace (c : Char) : Bool := isSpace c || c = '\x0b'

/-- The mark of byte order, which is a blank where a token could start. -/
def byteOrderMark : Char := '\ufeff'

/-- The text after a comment whose opening was read. A comment may lack its end. -/
def dropComment : List Char → List Char
  | [] => []
  | '*' :: '/' :: rest => rest
  | _ :: rest => dropComment rest

/-- The text after the blanks or the comment at its head. Two hyphens start a comment that ends
with the line; a slash and an asterisk start one if anything follows them. -/
def skip? : List Char → Option (List Char)
  | '-' :: '-' :: rest => some (rest.dropWhile (· ≠ '\n'))
  | '/' :: '*' :: c :: rest => some (dropComment (c :: rest))
  | c :: rest =>
    if isSpace c then some (rest.dropWhile isInnerSpace)
    else if c = byteOrderMark then some rest
    else none
  | [] => none

/-! ## Single tokens -/

/-- The characters of names: letters, digits, two signs, and everything beyond ASCII. -/
def isNameChar (c : Char) : Bool :=
  c.isAlphanum || c = '_' || c = '$' || 0x80 ≤ c.toNat

/-- The marks of named placeholders. -/
def isMark (c : Char) : Bool := c = ':' || c = '@' || c = '$' || c = '#'

/-- The rest of an identifier after its opening quote, and the text after the closing one. A
quote inside is written twice. -/
def takeQuoted? : List Char → Option (List Char × List Char)
  | [] => none
  | '"' :: '"' :: rest => (takeQuoted? rest).map fun (name, rest) => ('"' :: name, rest)
  | '"' :: rest => some ([], rest)
  | c :: rest => (takeQuoted? rest).map fun (name, rest) => (c :: name, rest)

/-- The greatest number that a placeholder may have. -/
def lastNumber : Nat := 32766

/-- Whether the digits after a question mark make a placeholder: none, or a number from one to
the greatest. -/
def isPlaceNumber (digits : List Char) : Bool :=
  match Numeral.readNat? digits with
  | some n => 0 < n && n ≤ lastNumber
  | none => digits.isEmpty

/-- The characters between the parentheses at the end of a placeholder. -/
def isSuffixChar (c : Char) : Bool := !isInnerSpace c && c ≠ ')'

/-- The name of a placeholder after its mark, and the text after it. A name consists of at least
one name character, with pairs of colons anywhere, and may end in a part in parentheses. -/
def takeName? : (named : Bool) → List Char → Option (List Char × List Char)
  | named, ':' :: ':' :: rest =>
    (takeName? named rest).map fun (name, rest) => (':' :: ':' :: name, rest)
  | named, c :: rest =>
    if isNameChar c then (takeName? true rest).map fun (name, rest) => (c :: name, rest)
    else if !named then none
    else if c = '(' then
      match rest.dropWhile isSuffixChar with
      | ')' :: after => some (c :: rest.takeWhile isSuffixChar ++ [')'], after)
      | _ => none
    else some ([], c :: rest)
  | named, [] => if named then some ([], []) else none

/-- The token that starts with the character `c`, and the text after it. A number after a hash
names no placeholder. -/
def next? (c : Char) (rest : List Char) : Option (Token × List Char) :=
  if c = '"' then (takeQuoted? rest).map fun (name, rest) => (quoted (String.ofList name), rest)
  else if c = '?' then
    if isPlaceNumber (rest.takeWhile Char.isDigit) then
      some (placeholder (String.ofList (c :: rest.takeWhile Char.isDigit)),
        rest.dropWhile Char.isDigit)
    else none
  else if isMark c then
    if c = '#' && rest.head?.any Char.isDigit then none
    else (takeName? false rest).map fun (name, rest) =>
      (placeholder (String.ofList (c :: name)), rest)
  else if isNameChar c && !c.isDigit then
    some (word (String.ofList ((c :: rest.takeWhile isNameChar).map Char.toLower)),
      rest.dropWhile isNameChar)
  else if c = ',' || c = '(' || c = ')' || c = ';' then some (sign c, rest)
  else none

/-! ## Texts -/

/-- The tokens of a text, in at most `fuel` steps. -/
def scanWith : (fuel : Nat) → List Char → Option (List Token)
  | _, [] => some []
  | 0, _ :: _ => none
  | fuel + 1, c :: rest =>
    match skip? (c :: rest) with
    | some rest => scanWith fuel rest
    | none => do
      let (token, rest) ← next? c rest
      let tokens ← scanWith fuel rest
      return token :: tokens

/-- The tokens of a text; every step takes at least one character. -/
def scan? (cs : List Char) : Option (List Token) :=
  scanWith cs.length (cs.takeWhile (· ≠ '\x00'))

end Token

end SqlRecords.Embedded
