import Mathlib.Order.Interval.Finset.Nat
import SqlRecords.Statement

/-!
# Pages tile the rows

The numbers of a page are computed with 64 bits, from an index and a size of 64 bits each.  `Page.new` gives
up where a step leaves the range; the numbers of a page that did not pass through it are cut off instead.  Both
are compared here with the exact numbers.

The rows of a page are asked for in two ways: by how many rows to skip, counted from zero, and by the numbers
of the first and the last row, counted from one.  To compare the two, the end of a statement is read back.

* `Page.checkedAdd_eq_some_iff`, `toNat_saturate` — the two kinds of arithmetic, exactly.
* `Page.new_eq_ok_iff` — the pages that are accepted.
* `Window` — what the end of a statement selects; `Window.read?` takes it from the last words of the text.
* `Page.Tiles` — the page starts where the pages before it end, and together they miss no row.
* **`Page.accepted_tile`** — accepted pages tile the rows, and no page has more rows than its size.
-/

namespace SqlRecords

/-! ## Windows -/

/-- The rows that the end of a query selects from all rows in their order. -/
inductive Window where
  /-- At most `count` rows, after skipping `first`. -/
  | skipping (first count : Nat)
  /-- The rows with the numbers from `first` to `last`; the number of the first row of all is one. -/
  | numbered (first last : Nat)
deriving DecidableEq, Repr

namespace Window

/-- The rows in the window. -/
def rows {α : Type} : Window → List α → List α
  | skipping first count, all => (all.drop first).take count
  | numbered first last, all =>
    ((all.zipIdx 1).filter fun row => first ≤ row.2 ∧ row.2 ≤ last).map Prod.fst

/-- The words of a text, which stand between blanks. -/
def words (sql : String) : List String := (sql.toList.splitOn ' ').map String.ofList

/-- The number that a word denotes. -/
def number? (word : String) : Option Nat := Numeral.readNat? word.toList

/-- The window that the last words of a query denote, from the last word backwards. -/
def ofLastWords? : List String → Option Window
  | first :: "OFFSET" :: count :: "LIMIT" :: _ => do
    return skipping (← number? first) (← number? count)
  | "ONLY" :: "ROWS" :: count :: "NEXT" :: "FETCH" :: "ROWS" :: first :: "OFFSET" :: _ => do
    return skipping (← number? first) (← number? count)
  | last :: "AND" :: first :: "BETWEEN" :: "row_num" :: "WHERE" :: _ => do
    return numbered (← number? first) (← number? last)
  | _ => none

/-- The window that a query ends in. -/
def read? (sql : String) : Option Window := ofLastWords? (words sql).reverse

/-! ### Reading -/

theorem number?_natText (n : Nat) : number? (Numeral.natText n) = some n := by
  rw [number?, Numeral.natText, String.toList_ofList, Numeral.readNat?_ofNat]

theorem not_blank_mem_natText (n : Nat) : ' ' ∉ (Numeral.natText n).toList := by
  rw [Numeral.natText, String.toList_ofList]
  intro hmem
  exact absurd (Numeral.isDigit_of_mem_ofNat hmem) (by decide)

/-- A clause that follows a blank is read from its last word on. -/
theorem read?_append_clause (before : String) {clause : List String} (hne : clause ≠ [])
    (hclause : ∀ word ∈ clause, ' ' ∉ word.toList) :
    read? (before ++ " " ++ " ".intercalate clause)
      = ofLastWords? (clause.reverse ++ (words before).reverse) := by
  have htext : (before ++ " " ++ " ".intercalate clause).toList
      = before.toList ++ ' ' :: [' '].intercalate (clause.map String.toList) := by
    rw [String.toList_append, String.toList_append, String.toList_intercalate, List.append_assoc]
    rfl
  have hseam : ∀ front rest : List Char,
      (front ++ ' ' :: rest).splitOn ' ' = front.splitOn ' ' ++ rest.splitOn ' ' := by
    intro front rest
    rw [List.splitOn_eq_splitOnP, List.splitOn_eq_splitOnP, List.splitOn_eq_splitOnP]
    exact List.splitOnP_append_cons front rest rfl
  have hwords : ([' '].intercalate (clause.map String.toList)).splitOn ' ' = clause.map String.toList := by
    refine List.splitOn_intercalate ' ' ?_ (by simpa using hne)
    intro word hword
    obtain ⟨word, hmem, rfl⟩ := List.mem_map.mp hword
    exact hclause word hmem
  have hround : (clause.map String.toList).map String.ofList = clause := by simp
  rw [read?, words, htext, hseam, hwords, List.map_append, hround, List.reverse_append]
  rfl

theorem read?_limitClause (d : Dialect) (before : String) (first count : UInt64) :
    read? (before ++ " " ++ d.limitClause first count)
      = some (skipping first.toNat count.toNat) := by
  have hfirst := not_blank_mem_natText first.toNat
  have hcount := not_blank_mem_natText count.toNat
  have hlimit : read? (before ++ " " ++ ("LIMIT " ++ Numeral.natText count.toNat
      ++ " OFFSET " ++ Numeral.natText first.toNat)) = some (skipping first.toNat count.toNat) := by
    have htext : "LIMIT " ++ Numeral.natText count.toNat ++ " OFFSET " ++ Numeral.natText first.toNat
        = " ".intercalate ["LIMIT", Numeral.natText count.toNat, "OFFSET", Numeral.natText first.toNat] :=
      String.toList_inj.mp (by simp)
    rw [htext, read?_append_clause before (by simp) (by simp [hfirst, hcount])]
    simp [ofLastWords?, number?_natText]
  cases d with
  | sqlServer =>
      have htext : Dialect.limitClause .sqlServer first count
          = " ".intercalate ["OFFSET", Numeral.natText first.toNat, "ROWS", "FETCH", "NEXT",
            Numeral.natText count.toNat, "ROWS", "ONLY"] :=
        String.toList_inj.mp (by simp [Dialect.limitClause])
      rw [htext, read?_append_clause before (by simp) (by simp [hfirst, hcount])]
      simp [ofLastWords?, number?_natText]
  | _ => exact hlimit

theorem read?_sql (p : Page) (query order : String) :
    read? (p.sql query order) = some (numbered p.firstRow.toNat p.lastRow.toNat) := by
  have hfirst := not_blank_mem_natText p.firstRow.toNat
  have hlast := not_blank_mem_natText p.lastRow.toNat
  have hseam : ") paged_source) SELECT * FROM paged_data WHERE "
      = ") paged_source) SELECT * FROM paged_data" ++ (" " ++ "WHERE ") := by simp
  have hclause : " ".intercalate ["WHERE", "row_num", "BETWEEN", Numeral.natText p.firstRow.toNat,
        "AND", Numeral.natText p.lastRow.toNat]
      = "WHERE " ++ (Page.rowNumberColumn ++ (" BETWEEN " ++ (Numeral.natText p.firstRow.toNat ++
        (" AND " ++ Numeral.natText p.lastRow.toNat)))) :=
    String.toList_inj.mp (by simp [Page.rowNumberColumn])
  have htext : p.sql query order = ("WITH paged_data AS (SELECT ROW_NUMBER() OVER (ORDER BY " ++ order ++
        ") AS " ++ Page.rowNumberColumn ++ ", * FROM (" ++ query ++
        ") paged_source) SELECT * FROM paged_data") ++ " " ++
      " ".intercalate ["WHERE", "row_num", "BETWEEN", Numeral.natText p.firstRow.toNat, "AND",
        Numeral.natText p.lastRow.toNat] := by
    rw [hclause]
    unfold Page.sql
    simp only [hseam, String.append_assoc]
  rw [htext, read?_append_clause _ (by simp) (by simp [hfirst, hlast])]
  simp [ofLastWords?, number?_natText]

/-! ### Rows -/

/-- Rows numbered from `start`: those before the first number are skipped, those after the last cut off. -/
theorem filter_zipIdx {α : Type} (first last : Nat) : ∀ (all : List α) (start : Nat),
    ((all.zipIdx start).filter fun row => first ≤ row.2 ∧ row.2 ≤ last).map Prod.fst
      = (all.drop (first - start)).take (last + 1 - max first start)
  | [], start => by simp
  | row :: all, start => by
      have ih := filter_zipIdx first last all (start + 1)
      rw [List.zipIdx_cons, List.filter_cons]
      rcases Nat.lt_or_ge start first with hbefore | hstart
      · have hskip : first - start = first - (start + 1) + 1 := by omega
        rw [if_neg (by simp; omega), ih, hskip, List.drop_succ_cons, Nat.max_eq_left (by omega),
          Nat.max_eq_left (by omega)]
      · have hskip : first - start = 0 ∧ first - (start + 1) = 0 := by omega
        rw [hskip.2, Nat.max_eq_right (by omega), List.drop_zero] at ih
        rw [hskip.1, List.drop_zero, Nat.max_eq_right hstart]
        rcases Nat.lt_or_ge last start with hafter | hlast
        · rw [if_neg (by simp; omega), ih, Nat.sub_eq_zero_of_le (by omega : last + 1 ≤ start + 1),
            Nat.sub_eq_zero_of_le hafter]
          rfl
        · have hkeep : last + 1 - start = last + 1 - (start + 1) + 1 := by omega
          rw [if_pos (by simp; omega), List.map_cons, ih, hkeep, List.take_succ_cons]

/-- Numbers from one are one ahead of the rows to skip. -/
theorem rows_numbered {α : Type} (first last : Nat) (all : List α) :
    (numbered first last).rows all = (all.drop (first - 1)).take (last + 1 - max first 1) :=
  filter_zipIdx first last all 1

end Window

/-! ## Ordered windows -/

namespace Generator

/-- The order of a window: the given one, or else that of the table. -/
def orderText (g : Generator) (t : Table) (order : List SortKey) : Except Error String :=
  if order.isEmpty then .ok (g.defaultOrder t) else commaList <$> g.orderItems t order

theorem selectSet_eq (g : Generator) (t : Table) (p : Option Predicate) (order : List SortKey)
    (first count : UInt64) :
    g.selectSet t p order first count = (do
      let items ← Draft.ofExcept (g.orderText t order)
      let condition ← g.whereClause t p
      return g.selectFrom t ++ condition ++ " ORDER BY " ++ items ++ " " ++
        g.dialect.limitClause first count) := by
  rw [selectSet, orderText]
  split
  · rfl
  · cases g.orderItems t order <;> rfl

end Generator

/-! ## Numbers of 64 bits -/

namespace Page

variable {index size : UInt64} {p : Page}

/-- A number too large becomes the last one. -/
theorem toNat_saturate (n : Nat) : (saturate n).toNat = min lastNumber n := by
  have hlast : lastNumber = 2 ^ 64 - 1 := rfl
  rw [saturate, UInt64.toNat_ofNat', Nat.mod_eq_of_lt (by omega)]

theorem lastBindable_le_lastNumber : lastBindable ≤ lastNumber := by decide

/-- What is given up where its exact number `n` is too large is there if and only if it is exact. -/
theorem checked_eq_some_iff {n : Nat} {a c : UInt64} (ha : a.toNat = n % 2 ^ 64) :
    (if n ≤ lastNumber then some a else none) = some c ↔ c.toNat = n := by
  have hlast : lastNumber = 2 ^ 64 - 1 := rfl
  have hc := c.toNat_lt
  rcases Nat.lt_or_ge lastNumber n with hlarge | hle
  · rw [if_neg (by omega)]
    exact iff_of_false (by simp) (by omega)
  · rw [Nat.mod_eq_of_lt (by omega)] at ha
    rw [if_pos hle, Option.some_inj, ← UInt64.toNat_inj, ha]
    exact eq_comm

/-- A checked sum is there if and only if it is exact. -/
theorem checkedAdd_eq_some_iff {a b c : UInt64} :
    checkedAdd a b = some c ↔ c.toNat = a.toNat + b.toNat :=
  checked_eq_some_iff (UInt64.toNat_add a b)

/-- A checked product is there if and only if it is exact. -/
theorem checkedMul_eq_some_iff {a b c : UInt64} :
    checkedMul a b = some c ↔ c.toNat = a.toNat * b.toNat :=
  checked_eq_some_iff (UInt64.toNat_mul a b)

/-- The last row of a page with rows is found where its exact number can be bound. -/
theorem isSome_lastRow?_iff (hsize : 0 < size.toNat) :
    (lastRow? index size).isSome ↔ (index.toNat + 1) * size.toNat ≤ lastBindable := by
  have hbindable : lastBindable = 2 ^ 63 - 1 := rfl
  have hwords : UInt64.size = 2 ^ 64 := rfl
  have hindex : index.toNat + 1 ≤ (index.toNat + 1) * size.toNat := Nat.le_mul_of_pos_right _ hsize
  rw [Option.isSome_iff_exists]
  simp only [lastRow?, Option.bind_eq_bind, Option.bind_eq_some_iff, checkedAdd_eq_some_iff,
    checkedMul_eq_some_iff, UInt64.toNat_one]
  constructor
  · rintro ⟨_, pages, hpages, row, hrow, h⟩
    split at h
    next hle => rwa [hrow, hpages] at hle
    next => exact absurd h nofun
  · intro hle
    have hpages : (UInt64.ofNat (index.toNat + 1)).toNat = index.toNat + 1 :=
      UInt64.toNat_ofNat_of_lt' (by omega)
    have hrow : (UInt64.ofNat ((index.toNat + 1) * size.toNat)).toNat = (index.toNat + 1) * size.toNat :=
      UInt64.toNat_ofNat_of_lt' (by omega)
    exact ⟨_, _, hpages, _, by rw [hrow, hpages], if_pos (by rwa [hrow])⟩

/-- A page is accepted if it can have rows and the number of its last row can be bound. -/
theorem new_eq_ok_iff : new index size = .ok p ↔
    p = ⟨index, size⟩ ∧ 0 < size.toNat ∧ (index.toNat + 1) * size.toNat ≤ 2 ^ 63 - 1 := by
  have hzero : size = 0 ↔ ¬ 0 < size.toNat := by
    rw [← UInt64.toNat_inj, UInt64.toNat_zero, Nat.pos_iff_ne_zero, not_not]
  rw [new]
  by_cases hsize : 0 < size.toNat
  · have hlast := @isSome_lastRow?_iff index size hsize
    rw [if_neg (fun h => hzero.mp h hsize)]
    by_cases hle : (index.toNat + 1) * size.toNat ≤ lastBindable
    · rw [if_neg (by simpa [Option.isSome_iff_ne_none] using hlast.mpr hle)]
      constructor
      · intro h
        exact ⟨(Except.ok.inj h).symm, hsize, hle⟩
      · rintro ⟨rfl, -, -⟩
        rfl
    · rw [if_pos (by simpa [Option.isSome_iff_ne_none] using mt hlast.mp hle)]
      exact ⟨nofun, fun h => absurd h.2.2 hle⟩
  · rw [if_pos (hzero.mpr hsize)]
    exact ⟨nofun, fun h => absurd h.2.1 hsize⟩

/-! ### Every page -/

/-- The next page starts after the rows of this one. -/
theorem next_page (p : Page) :
    (p.index.toNat + 1) * p.size.toNat = p.index.toNat * p.size.toNat + p.size.toNat :=
  Nat.succ_mul _ _

theorem toNat_firstResult (p : Page) :
    p.firstResult.toNat = min lastNumber (p.index.toNat * p.size.toNat) := toNat_saturate _

theorem toNat_firstRow (p : Page) :
    p.firstRow.toNat = min lastNumber (p.index.toNat * p.size.toNat + 1) := by
  rw [firstRow, toNat_saturate, toNat_firstResult]
  omega

/-- Cutting off the number of pages first makes no difference: the product is too large as well. -/
theorem toNat_lastRow (p : Page) :
    p.lastRow.toNat = min lastNumber ((p.index.toNat + 1) * p.size.toNat) := by
  rw [lastRow, toNat_saturate, toNat_saturate]
  rcases Nat.lt_or_ge lastNumber (p.index.toNat + 1) with hlt | hle
  · rw [Nat.min_eq_left (Nat.le_of_lt hlt)]
    rcases Nat.eq_zero_or_pos p.size.toNat with hzero | hpos
    · rw [hzero, Nat.mul_zero, Nat.mul_zero]
    · rw [Nat.min_eq_left (Nat.le_mul_of_pos_right _ hpos),
        Nat.min_eq_left (Nat.le_trans (Nat.le_of_lt hlt) (Nat.le_mul_of_pos_right _ hpos))]
  · rw [Nat.min_eq_right hle]

/-- However the numbers of a page are cut off, there are no more of them than its size. -/
theorem lastRow_sub_firstRow_le (p : Page) :
    p.lastRow.toNat + 1 - p.firstRow.toNat ≤ p.size.toNat := by
  have hempty : p.size.toNat = 0 → p.index.toNat * p.size.toNat = 0 := by
    intro hzero
    rw [hzero, Nat.mul_zero]
  have hlast : lastNumber = 2 ^ 64 - 1 := rfl
  rw [toNat_lastRow, toNat_firstRow, next_page]
  omega

theorem one_le_firstRow (p : Page) : 1 ≤ p.firstRow.toNat := by
  have hlast : lastNumber = 2 ^ 64 - 1 := rfl
  rw [toNat_firstRow]
  omega

/-! ### Accepted pages -/

/-- The row with the number `n` lies on the page. -/
def Has (p : Page) (n : Nat) : Prop := p.firstRow.toNat ≤ n ∧ n ≤ p.lastRow.toNat

section Accepted

variable (hsize : 0 < p.size.toNat) (hlast : (p.index.toNat + 1) * p.size.toNat ≤ lastBindable)

include hlast

theorem firstResult_eq : p.firstResult.toNat = p.index.toNat * p.size.toNat := by
  rw [toNat_firstResult, Nat.min_eq_right]
  exact Nat.le_trans (Nat.mul_le_mul_right _ (Nat.le_succ _))
    (Nat.le_trans hlast lastBindable_le_lastNumber)

theorem lastRow_eq : p.lastRow.toNat = (p.index.toNat + 1) * p.size.toNat := by
  rw [toNat_lastRow, Nat.min_eq_right (Nat.le_trans hlast lastBindable_le_lastNumber)]

include hsize

theorem firstRow_eq : p.firstRow.toNat = p.index.toNat * p.size.toNat + 1 := by
  have hbindable := lastBindable_le_lastNumber
  have hnext := p.next_page
  rw [toNat_firstRow, Nat.min_eq_right (by omega)]

/-- The page of a row is the number of full pages before the row. -/
theorem has_iff {n : Nat} : p.Has n ↔ 1 ≤ n ∧ (n - 1) / p.size.toNat = p.index.toNat := by
  have hnext := p.next_page
  rw [Has, firstRow_eq hsize hlast, lastRow_eq hlast, Nat.div_eq_iff hsize]
  omega

end Accepted

/-- The page has its place among the pages of its size. -/
structure Tiles (p : Page) : Prop where
  firstResult : p.firstResult.toNat = p.index.toNat * p.size.toNat
  firstRow : p.firstRow.toNat = p.firstResult.toNat + 1
  lastRow : p.lastRow.toNat = (p.index.toNat + 1) * p.size.toNat
  length : (p.lastRow.toNat : Int) - p.firstRow.toNat + 1 = p.size.toNat
  /-- The pages before it are accepted as well. -/
  smaller : ∀ i < p.index, new i p.size = .ok ⟨i, p.size⟩
  /-- The page after it starts with the next row. -/
  next : ∀ i q, i.toNat = p.index.toNat + 1 → new i p.size = .ok q →
    q.firstRow.toNat = p.lastRow.toNat + 1
  /-- Each row up to the last one lies on exactly one page. -/
  covers : ∀ n, 1 ≤ n → n ≤ p.lastRow.toNat → ∃! i, i ≤ p.index ∧ Has ⟨i, p.size⟩ n

/-- Both statements for the page select the same rows: those after the rows of the pages before. -/
def SameRows (p : Page) : Prop :=
  ∀ (g : Generator) (t : Table) (filter : Option Predicate) (keys : List SortKey)
    (ps ps' : Parameters) (sql query order : String),
    (g.selectPage t filter keys p).run ps = (.ok sql, ps') →
      ∃ w v, Window.read? sql = some w ∧ Window.read? (p.sql query order) = some v ∧
        ∀ {α : Type} (all : List α), w.rows all = v.rows all ∧
          w.rows all = (all.drop (p.index.toNat * p.size.toNat)).take p.size.toNat

/-- The numbers of the page are exact up to the last number there is, and no more of them than its size. -/
structure Bounded (p : Page) : Prop where
  firstResult : p.firstResult.toNat = min (2 ^ 64 - 1) (p.index.toNat * p.size.toNat)
  firstRow : p.firstRow.toNat = min (2 ^ 64 - 1) (p.index.toNat * p.size.toNat + 1)
  lastRow : p.lastRow.toNat = min (2 ^ 64 - 1) ((p.index.toNat + 1) * p.size.toNat)
  numbers : (Finset.Icc p.firstRow.toNat p.lastRow.toNat).card ≤ p.size.toNat
  /-- The statement selects no more rows either. -/
  rows : ∀ query order, ∃ w, Window.read? (p.sql query order) = some w ∧
    ∀ {α : Type} (all : List α), (w.rows all).length ≤ p.size.toNat

theorem bounded (p : Page) : p.Bounded where
  firstResult := p.toNat_firstResult
  firstRow := p.toNat_firstRow
  lastRow := p.toNat_lastRow
  numbers := by
    rw [Nat.card_Icc]
    exact p.lastRow_sub_firstRow_le
  rows query order := by
    refine ⟨_, Window.read?_sql p query order, fun all => ?_⟩
    rw [Window.rows_numbered, Nat.max_eq_left p.one_le_firstRow]
    exact Nat.le_trans (List.length_take_le _ _) p.lastRow_sub_firstRow_le

section Accepted

variable (hsize : 0 < p.size.toNat) (hlast : (p.index.toNat + 1) * p.size.toNat ≤ lastBindable)

include hsize hlast

theorem smaller_accepted {i : UInt64} (h : i.toNat ≤ p.index.toNat) : new i p.size = .ok ⟨i, p.size⟩ :=
  new_eq_ok_iff.mpr ⟨rfl, hsize,
    Nat.le_trans (Nat.mul_le_mul_right _ (Nat.succ_le_succ h)) hlast⟩

/-- A row lies on the page whose index is the number of full pages before it, and on no other. -/
theorem existsUnique_page {n : Nat} (hpos : 1 ≤ n) (hle : n ≤ p.lastRow.toNat) :
    ∃! i, i ≤ p.index ∧ Has ⟨i, p.size⟩ n := by
  have hpage : ∀ {i : UInt64}, i.toNat ≤ p.index.toNat →
      (Has ⟨i, p.size⟩ n ↔ 1 ≤ n ∧ (n - 1) / p.size.toNat = i.toNat) := fun {i} h =>
    has_iff (p := ⟨i, p.size⟩) hsize (new_eq_ok_iff.mp (smaller_accepted hsize hlast h)).2.2
  have hquotient : (n - 1) / p.size.toNat ≤ p.index.toNat := by
    rw [lastRow_eq hlast] at hle
    exact Nat.lt_add_one_iff.mp ((Nat.div_lt_iff_lt_mul hsize).mpr (by omega))
  have hindex : (UInt64.ofNat ((n - 1) / p.size.toNat)).toNat = (n - 1) / p.size.toNat :=
    UInt64.toNat_ofNat_of_lt' (Nat.lt_of_le_of_lt hquotient p.index.toNat_lt)
  refine ⟨UInt64.ofNat ((n - 1) / p.size.toNat), ⟨?_, ?_⟩, ?_⟩
  · rwa [UInt64.le_iff_toNat_le, hindex]
  · exact (hpage (by rwa [hindex])).mpr ⟨hpos, hindex.symm⟩
  · rintro i ⟨hi, hhas⟩
    rw [← UInt64.toNat_inj, hindex]
    exact ((hpage (UInt64.le_iff_toNat_le.mp hi)).mp hhas).2.symm

theorem tiles : p.Tiles where
  firstResult := firstResult_eq hlast
  firstRow := by rw [firstRow_eq hsize hlast, firstResult_eq hlast]
  lastRow := lastRow_eq hlast
  length := by
    rw [firstRow_eq hsize hlast, lastRow_eq hlast, next_page]
    omega
  smaller i h := smaller_accepted hsize hlast (Nat.le_of_lt (UInt64.lt_iff_toNat_lt.mp h))
  next i q hi h := by
    obtain ⟨rfl, -, hle⟩ := new_eq_ok_iff.mp h
    rw [firstRow_eq (p := ⟨i, p.size⟩) hsize hle, lastRow_eq hlast]
    exact congrArg (· * p.size.toNat + 1) hi
  covers n hpos hle := existsUnique_page hsize hlast hpos hle

theorem sameRows : p.SameRows := by
  intro g t filter keys ps ps' sql query order hrun
  rw [Generator.selectPage, Generator.selectSet_eq] at hrun
  obtain ⟨items, _, -, hrun⟩ := Draft.run_bind_eq_ok hrun
  obtain ⟨condition, _, -, hrun⟩ := Draft.run_bind_eq_ok hrun
  have hsql : sql = g.selectFrom t ++ condition ++ " ORDER BY " ++ items ++ " " ++
      g.dialect.limitClause p.firstResult p.size := by
    injection hrun with hsql
    exact (Except.ok.inj hsql).symm
  have hcount : p.lastRow.toNat + 1 - p.firstRow.toNat = p.size.toNat := by
    rw [lastRow_eq hlast, firstRow_eq hsize hlast, next_page]
    omega
  refine ⟨_, _, hsql ▸ Window.read?_limitClause _ _ _ _, Window.read?_sql p query order, fun all => ?_⟩
  have hrows : (Window.skipping p.firstResult.toNat p.size.toNat).rows all
      = (all.drop (p.index.toNat * p.size.toNat)).take p.size.toNat := by
    rw [Window.rows, firstResult_eq hlast]
  refine ⟨?_, hrows⟩
  rw [hrows, Window.rows_numbered, Nat.max_eq_left p.one_le_firstRow, hcount, firstRow_eq hsize hlast,
    Nat.add_sub_cancel]

end Accepted

/-- **Accepted pages tile the rows.**  A page is accepted if and only if it can have rows and the number of
its last row can be bound.  It has its place then among the pages of its size, and both statements select its
rows.  The numbers of any other page stop at the last one there is, and there are never too many of them. -/
theorem accepted_tile :
    (∀ index size p, new index size = .ok p ↔
      p = ⟨index, size⟩ ∧ 0 < size.toNat ∧ (index.toNat + 1) * size.toNat ≤ 2 ^ 63 - 1) ∧
    (∀ index size p, new index size = .ok p → p.Tiles ∧ p.SameRows) ∧
    ∀ p : Page, p.Bounded := by
  refine ⟨fun _ _ _ => new_eq_ok_iff, ?_, bounded⟩
  intro index size p h
  obtain ⟨rfl, hsize, hlast⟩ := new_eq_ok_iff.mp h
  exact ⟨tiles hsize hlast, sameRows hsize hlast⟩

/-- A page with room for all rows is accepted as the first one only. -/
example : (new 0 0x7fffffffffffffff).toBool ∧ ¬ (new 1 0x7fffffffffffffff).toBool := by decide

end Page

end SqlRecords
