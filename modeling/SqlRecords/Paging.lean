import SqlRecords.Error
import SqlRecords.Text.Blank

/-!
# Pages

Rows are numbered from one in a given order, and a page is a run of row numbers.

* `Page` — an index, from zero, and a size. `Page.new` refuses an empty page and one whose last
  row could not be bound as a signed number of 64 bits; pages that come from elsewhere are not
  checked, and their row numbers stop at the last number of 64 bits.
* `Page.sql` — the rows of any query that lie on the page.
-/

namespace SqlRecords

/-- A page of rows. -/
structure Page where
  index : UInt64
  size : UInt64
deriving DecidableEq

namespace Page

/-- The greatest number that a row can have. -/
def lastNumber : Nat := Nat.pow 2 64 - 1

/-- The greatest number that can be bound. -/
def lastBindable : Nat := Nat.pow 2 63 - 1

/-- A row number as near to `n` as there is. -/
def saturate (n : Nat) : UInt64 := UInt64.ofNat (min lastNumber n)

/-- A sum, if 64 bits hold it. -/
def checkedAdd (a b : UInt64) : Option UInt64 :=
  if a.toNat + b.toNat ≤ lastNumber then some (a + b) else none

/-- A product, if 64 bits hold it. -/
def checkedMul (a b : UInt64) : Option UInt64 :=
  if a.toNat * b.toNat ≤ lastNumber then some (a * b) else none

/-- The number of the last row of a page, if it can be computed and bound. -/
def lastRow? (index size : UInt64) : Option UInt64 := do
  let pages ← checkedAdd index 1
  let row ← checkedMul pages size
  if row.toNat ≤ lastBindable then some row else none

/-- The page with the given index and size. -/
def new (index size : UInt64) : Except Error Page :=
  if size = 0 then .error .emptyPage
  else if (lastRow? index size).isNone then .error (.pageOutOfRange index size)
  else .ok ⟨index, size⟩

/-- The number of rows before the page. -/
def firstResult (p : Page) : UInt64 := saturate (p.index.toNat * p.size.toNat)

/-- The number of its first row. -/
def firstRow (p : Page) : UInt64 := saturate (p.firstResult.toNat + 1)

/-- The number of its last row. -/
def lastRow (p : Page) : UInt64 := saturate ((saturate (p.index.toNat + 1)).toNat * p.size.toNat)

/-- The name of the column that numbers the rows. -/
def rowNumberColumn : String := "row_num"

/-- The rows of a query that lie on the page, numbered in the given order. -/
def sql (p : Page) (query order : String) : String :=
  "WITH paged_data AS (SELECT ROW_NUMBER() OVER (ORDER BY " ++ order ++ ") AS " ++
    rowNumberColumn ++ ", * FROM (" ++ query ++ ") paged_source) SELECT * FROM paged_data WHERE " ++
    rowNumberColumn ++ " BETWEEN " ++ Numeral.natText p.firstRow.toNat ++ " AND " ++
    Numeral.natText p.lastRow.toNat

/-- What a filter fragment of blanks stands for. -/
def always : String := "1=1"

/-- A filter fragment; one of blanks filters nothing. -/
def fragmentOrAlways (fragment : String) : String :=
  if Text.isBlankText fragment then always else fragment

/-- The rows of a table that a filter fragment selects and that lie on the page. -/
def whereSql (p : Page) (table fragment order : String) : String :=
  p.sql ("SELECT * FROM " ++ table ++ " WHERE " ++ fragmentOrAlways fragment) order

end Page

end SqlRecords
