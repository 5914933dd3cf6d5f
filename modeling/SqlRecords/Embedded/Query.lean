import SqlRecords.Embedded.Binding
import SqlRecords.Embedded.Token

/-!
# Statements of the embedded database

The embedded database holds one table `t` with one column `v`. It knows four statements.

* `Query` — the statements: the values of placeholders as one row, new rows, no rows any more, and
  all rows in the order of insertion.
* `Query.isWithinLimits` — whether the statement needs few enough places and columns.
* `Query.read?` — the statement that a text denotes; keywords may have any case. Semicolons may
  stand before and after the statement, but nothing else.
* `splitCommand` — the statements of a command, which stand between semicolons. Semicolons inside
  quotes separate as well.
-/

namespace SqlRecords.Embedded

/-- A statement of the embedded database. -/
inductive Query where
  /-- One row with the values of placeholders, each under the name of a column. -/
  | values (columns : List (String × String))
  /-- A row for each placeholder. -/
  | insert (placeholders : List String)
  | clear
  | rows
deriving DecidableEq, Repr

namespace Query

/-- The tokens of a list of columns: `? AS "name", …`, at least one. -/
def readColumns? : List Token → Option (List (String × String))
  | [.placeholder p, .word "as", .quoted name] => some [(p, name)]
  | .placeholder p :: .word "as" :: .quoted name :: .sign ',' :: rest =>
    (readColumns? rest).map ((p, name) :: ·)
  | _ => none

/-- The tokens of a list of rows: `(?), …`, at least one. -/
def readRows? : List Token → Option (List String)
  | [.sign '(', .placeholder p, .sign ')'] => some [p]
  | .sign '(' :: .placeholder p :: .sign ')' :: .sign ',' :: rest => (readRows? rest).map (p :: ·)
  | _ => none

/-- The tokens between the semicolons at both ends. -/
def trimTokens (tokens : List Token) : List Token :=
  let rest := tokens.dropWhile (· = .sign ';')
  (rest.reverse.dropWhile (· = .sign ';')).reverse

/-- The statement with the given tokens. -/
def ofTokens? : List Token → Option Query
  | .word "insert" :: .word "into" :: .word "t" :: .sign '(' :: .word "v" :: .sign ')' ::
      .word "values" :: rest => (readRows? rest).map insert
  | [.word "delete", .word "from", .word "t"] => some clear
  | [.word "select", .word "v", .word "from", .word "t", .word "order", .word "by",
      .word "rowid"] => some rows
  | .word "select" :: rest => (readColumns? rest).map values
  | _ => none

/-- The placeholders of a statement, in the order of the text. -/
def placeholders : Query → List String
  | values columns => columns.map (·.1)
  | insert placeholders => placeholders
  | clear | rows => []

/-- The number of columns of a statement. -/
def width : Query → Nat
  | values columns => columns.length
  | insert _ | clear => 0
  | rows => 1

/-- The greatest number of columns. -/
def lastColumn : Nat := 2000

/-- Whether every place has a number in range, and the columns are not too many. -/
def isWithinLimits (q : Query) : Bool :=
  (Places.ofPlaceholders q.placeholders).count ≤ Token.lastNumber && q.width ≤ lastColumn

/-- The statement that a text denotes. -/
def read? (sql : String) : Option Query := do
  let tokens ← Token.scan? sql.toList
  (ofTokens? (trimTokens tokens)).filter isWithinLimits

end Query

/-- The pieces of a text between the separators. -/
def splitAt (separator : Char) : List Char → List (List Char)
  | [] => [[]]
  | c :: rest =>
    if c = separator then [] :: splitAt separator rest
    else
      match splitAt separator rest with
      | [] => [[c]]
      | piece :: pieces => (c :: piece) :: pieces

/-- The statements of a command: its pieces between semicolons that hold more than blanks. -/
def splitCommand (sql : String) : List String :=
  ((splitAt ';' sql.toList).map String.ofList).filter fun piece => !Text.isBlankText piece

end SqlRecords.Embedded
