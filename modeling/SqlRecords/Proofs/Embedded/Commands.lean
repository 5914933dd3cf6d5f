import Mathlib.Data.List.Nodup
import SqlRecords.Embedded.Query
import SqlRecords.Proofs.Database.Strategies
import SqlRecords.Proofs.Statement.Reading

/-!
# One command for several statements

The embedded database runs the statements of a command one by one, each with the parameters of all.
Two things have to come out right: where a statement ends, and which parameters are its own.

The first is a matter of semicolons, `splitCommand_intercalate`.  For the second the database numbers
the placeholders of the statement by itself, from one on.  A placeholder with a name leads from its
number back to the name, and from there to the one parameter that has it, wherever in the command it
was bound (`boundValues_of_nodup`).  A bare `?` leads to nothing but its number: the values are taken
from the front of all parameters (`boundValues_replicate`).
-/

namespace SqlRecords.Embedded

open Text

/-! ## Splitting -/

section Splitting

variable {separator : Char} {piece : List Char}

theorem splitAt_of_not_mem (h : separator ∉ piece) : splitAt separator piece = [piece] := by
  induction piece with
  | nil => rfl
  | cons c piece ih =>
      rw [List.mem_cons, not_or] at h
      rw [splitAt, if_neg (Ne.symm h.1), ih h.2]

theorem splitAt_append_cons (h : separator ∉ piece) (rest : List Char) :
    splitAt separator (piece ++ separator :: rest) = piece :: splitAt separator rest := by
  induction piece with
  | nil => rw [List.nil_append, splitAt, if_pos rfl]
  | cons c piece ih =>
      rw [List.mem_cons, not_or] at h
      rw [List.cons_append, splitAt, if_neg (Ne.symm h.1), ih h.2]

end Splitting

/-- Texts one below another: each but the first starts with a line break. -/
def onNewLines : List String → List String
  | [] => []
  | s :: rest => s :: rest.map ("\n" ++ ·)

theorem toList_intercalate_cons (separator s : String) (rest : List String) :
    (separator.intercalate (s :: rest)).toList
      = s.toList ++ rest.flatMap fun u => separator.toList ++ u.toList := by
  induction rest generalizing s with
  | nil => simp
  | cons u rest ih =>
      rw [String.intercalate_cons_cons, String.toList_append, String.toList_append, ih,
        List.flatMap_cons, List.append_assoc, List.append_assoc]

/-- The lines after the first piece are pieces of their own. -/
theorem splitAt_lines {piece : List Char} {rest : List String} (hpiece : ';' ∉ piece)
    (hrest : ∀ s ∈ rest, Lacks ';' s) :
    splitAt ';' (piece ++ rest.flatMap fun u => ";\n".toList ++ u.toList)
      = piece :: rest.map fun u => ("\n" ++ u).toList := by
  induction rest generalizing piece with
  | nil => rw [List.flatMap_nil, List.append_nil, splitAt_of_not_mem hpiece, List.map_nil]
  | cons u rest ih =>
      obtain ⟨hu, hrest⟩ := List.forall_mem_cons.mp hrest
      have hline : ';' ∉ ("\n" ++ u).toList := lacks_append.mpr ⟨by decide, hu⟩
      have htext : ";\n".toList ++ u.toList = ';' :: ("\n" ++ u).toList := by simp
      rw [List.flatMap_cons, htext, List.cons_append, splitAt_append_cons hpiece, ih hline hrest,
        List.map_cons]

/-- Statements that are separated by semicolons and line breaks, and hold no other semicolon, are
found again. -/
theorem splitCommand_intercalate {texts : List String} (hlacks : ∀ s ∈ texts, Lacks ';' s)
    (hvisible : ∀ s ∈ texts, isBlankText s = false) :
    splitCommand (";\n".intercalate texts) = onNewLines texts := by
  have hpieces : ∀ piece ∈ onNewLines texts, isBlankText piece = false := by
    cases texts with
    | nil => exact nofun
    | cons s rest =>
        obtain ⟨hs, hrest⟩ := List.forall_mem_cons.mp hvisible
        refine List.forall_mem_cons.mpr ⟨hs, fun piece hpiece => ?_⟩
        obtain ⟨u, hu, rfl⟩ := List.mem_map.mp hpiece
        have hblank := hrest u hu
        rw [isBlankText] at hblank ⊢
        rw [String.toList_append, List.all_append, hblank, Bool.and_false]
  cases texts with
  | nil => decide
  | cons s rest =>
      obtain ⟨hs, hrest⟩ := List.forall_mem_cons.mp hlacks
      have hlines : (s.toList :: rest.map fun u => ("\n" ++ u).toList).map String.ofList
          = onNewLines (s :: rest) := by
        simp [onNewLines]
      rw [splitCommand, toList_intercalate_cons, splitAt_lines hs hrest, hlines,
        List.filter_eq_self]
      intro piece hpiece
      rw [hpieces piece hpiece]
      rfl

/-! ## Binding -/

namespace Places

/-- The placeholder carries a name. -/
def Named (placeholder : String) : Prop := placeholder.toList.head? ≠ some '?'

theorem named_generated {style : PlaceholderStyle} (h : style ≠ .positional) (n : Nat) :
    Named (style.generated n) := by
  rw [Named, style.toList_generated]
  cases style with
  | positional => exact absurd rfl h
  | _ => simp [PlaceholderStyle.mark]

variable {p : Places}

theorem add_of_named {placeholder : String} (h : Named placeholder)
    (hnew : p.names.lookup placeholder = .none) :
    p.add placeholder = (p.count + 1, ⟨p.names ++ [(placeholder, p.count + 1)], p.count + 1⟩) := by
  have hne : placeholder ≠ "?" := by
    rintro rfl
    exact h rfl
  have hnumber : p.newNumber placeholder = p.count + 1 := by
    rw [newNumber]
    split
    · rename_i hmark
      rw [Named, hmark] at h
      exact absurd rfl h
    · rfl
  rw [add, if_neg hne, hnew]
  simp only [hnumber, Nat.max_eq_right (Nat.le_succ p.count)]

/-- Different names are numbered in their order. -/
theorem addAll_of_nodup : ∀ {placeholders : List String} {p : Places}, placeholders.Nodup →
    (∀ s ∈ placeholders, Named s ∧ p.names.lookup s = .none) →
      p.addAll placeholders = (List.range' (p.count + 1) placeholders.length,
        ⟨p.names ++ placeholders.zip (List.range' (p.count + 1) placeholders.length),
          p.count + placeholders.length⟩)
  | [], p, _, _ => by simp [addAll]
  | s :: placeholders, p, hnodup, hnew => by
      obtain ⟨hs, hnodup⟩ := List.nodup_cons.mp hnodup
      obtain ⟨⟨hnamed, hlookup⟩, hnew⟩ := List.forall_mem_cons.mp hnew
      have hrest : ∀ u ∈ placeholders, Named u
          ∧ (p.names ++ [(s, p.count + 1)]).lookup u = .none := by
        intro u hu
        have hne : (u == s) = false := by
          rw [beq_eq_false_iff_ne]
          rintro rfl
          exact hs hu
        refine ⟨(hnew u hu).1, ?_⟩
        rw [List.lookup_append, (hnew u hu).2, List.lookup_cons, hne]
        rfl
      have ih := addAll_of_nodup (p := ⟨p.names ++ [(s, p.count + 1)], p.count + 1⟩) hnodup hrest
      rw [addAll, add_of_named hnamed hlookup]
      simp only [ih]
      simp [List.range'_succ, Nat.add_comm, Nat.add_left_comm]

/-- Bare question marks are numbered in their order, and no name is kept. -/
theorem addAll_replicate (n : Nat) (p : Places) : p.addAll (List.replicate n "?")
    = (List.range' (p.count + 1) n, { p with count := p.count + n }) := by
  induction n generalizing p with
  | zero => rfl
  | succ n ih =>
      have hadd : p.add "?" = (p.count + 1, { p with count := p.count + 1 }) := rfl
      rw [List.replicate_succ, addAll, hadd]
      simp only [ih]
      simp [List.range'_succ, Nat.add_comm, Nat.add_left_comm]

/-- Numbers lead back to names. -/
theorem lookup_zip_range' {names : List String} (h : names.Nodup) (s : String) (first n : Nat) :
    (names.zip (List.range' first names.length)).lookup s = some n
      ↔ first ≤ n ∧ names[n - first]? = some s := by
  induction names generalizing first with
  | nil => simp
  | cons name names ih =>
      obtain ⟨hname, hnames⟩ := List.nodup_cons.mp h
      rw [List.length_cons, List.range'_succ, List.zip_cons_cons, List.lookup_cons]
      cases hs : s == name with
      | true =>
          obtain rfl := beq_iff_eq.mp hs
          simp only [Option.some.injEq]
          constructor
          · rintro rfl
            simp
          · rintro ⟨hle, hget⟩
            cases hn : n - first with
            | zero => omega
            | succ k =>
                rw [hn, List.getElem?_cons_succ] at hget
                exact absurd (List.mem_of_getElem? hget) hname
      | false =>
          simp only [ih hnames]
          cases hn : n - first with
          | zero =>
              have hne : ¬ name = s := fun heq => by simp [heq] at hs
              simp only [List.getElem?_cons_zero, Option.some.injEq, hne, and_false, iff_false]
              omega
          | succ k =>
              have hk : n - (first + 1) = k := by omega
              have hle : first + 1 ≤ n ↔ first ≤ n := by omega
              rw [hk, List.getElem?_cons_succ, hle]

/-- A place with a number leads to a parameter, if no other parameter has its name. -/
theorem value_eq {ps : Parameters} (hstyle : ps.style ≠ .positional) {n : Nat} {found : Param}
    (hfound : found ∈ ps.items)
    (h : ∀ item ∈ ps.items, p.names.lookup item.placeholder = some n ↔ item = found) :
    p.value ps n = found.value := by
  have hfind : (ps.items.reverse.find? fun item => p.names.lookup item.placeholder == some n)
      = some found := by
    cases hsearch : ps.items.reverse.find? fun item => p.names.lookup item.placeholder == some n with
    | none =>
        have hnone := List.find?_eq_none.mp hsearch found (List.mem_reverse.mpr hfound)
        exact absurd (beq_iff_eq.mpr ((h found hfound).mpr rfl)) hnone
    | some item =>
        have hitem := List.mem_reverse.mp (List.mem_of_find?_eq_some hsearch)
        have hlookup : p.names.lookup item.placeholder = some n := by
          simpa using List.find?_some hsearch
        rw [(h item hitem).mp hlookup]
  rw [value, hfind]
  split
  · rename_i hpositional
    exact absurd hpositional hstyle
  · rfl

end Places

/-- **A statement finds its own values among those of all statements**, if no two parameters have the
same name. -/
theorem boundValues_of_nodup {shared : Parameters} (hstyle : shared.style ≠ .positional)
    (hshared : shared.placeholders.Nodup) {own : List Param} (hown : own.Sublist shared.items)
    (hnamed : ∀ item ∈ own, Places.Named item.placeholder) :
    boundValues shared (own.map (·.placeholder)) = own.map (·.value) := by
  have hnodup : (own.map (·.placeholder)).Nodup := hshared.sublist (hown.map _)
  have hplaces : Places.none.addAll (own.map (·.placeholder)) = (List.range' 1 own.length,
      ⟨(own.map (·.placeholder)).zip (List.range' 1 own.length), own.length⟩) := by
    have hall := Places.addAll_of_nodup (p := .none) hnodup fun s hs => by
      obtain ⟨item, hitem, rfl⟩ := List.mem_map.mp hs
      exact ⟨hnamed item hitem, rfl⟩
    simpa [Places.none] using hall
  rw [boundValues, hplaces]
  refine List.ext_getElem (by simp) fun i hi hi' => ?_
  rw [List.length_map, List.length_range'] at hi
  rw [List.getElem_map, List.getElem_map, List.getElem_range']
  have hfound := hown.subset (List.getElem_mem hi)
  refine Places.value_eq hstyle hfound fun item hitem => ?_
  have hlookup := Places.lookup_zip_range' hnodup item.placeholder 1 (1 + 1 * i)
  have hindex : 1 + 1 * i - 1 = i := by omega
  rw [List.length_map, hindex, List.getElem?_map, List.getElem?_eq_getElem hi, Option.map_some,
    Option.some.injEq] at hlookup
  rw [hlookup]
  constructor
  · rintro ⟨-, hsame⟩
    exact List.inj_on_of_nodup_map hshared hitem hfound hsame.symm
  · rintro rfl
    exact ⟨Nat.le_add_right 1 _, rfl⟩

/-- Without names a statement gets the first values of all statements. -/
theorem boundValues_replicate {shared : Parameters} (hstyle : shared.style = .positional) {n : Nat}
    (hn : n ≤ shared.size) :
    boundValues shared (List.replicate n "?") = shared.values.take n := by
  have hlength : shared.values.length = shared.size := List.length_map _
  rw [boundValues, Places.addAll_replicate]
  refine List.ext_getElem (by simp [hlength, hn]) fun i hi hi' => ?_
  rw [List.length_map, List.length_range'] at hi
  rw [List.getElem_map, List.getElem_range', List.getElem_take]
  have hplace : 1 + i ≤ n := by omega
  simp [Places.value, Places.none, hstyle, hplace, hlength, Nat.lt_of_lt_of_le hi hn]

end SqlRecords.Embedded
