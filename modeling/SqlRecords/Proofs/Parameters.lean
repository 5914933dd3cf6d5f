import Mathlib.Data.List.Induction
import SqlRecords.Proofs.Template

/-!
# Whose placeholder it is

A set of parameters grows in two ways.  `Parameters.push` makes a name from the number of parameters
so far, and `Parameters.pushNamed` takes a name of the caller, who may have chosen any.

Numbers never meet each other, since every parameter has another number before it.  What is left is
that a number meets a name: where the placeholder shows the caller's name, the caller may have used
up the name that is made next.  Then two parameters have one placeholder, and the first of them is
the one that is found, whatever comes later.

* `Addition`, `Parameters.addAll` — the two ways to add a parameter, in any order.
* `PlaceholderStyle.TakenBy` — a caller has used the name that is made next.
* **`Parameters.generated_own_iff`** — unless this is so, the next placeholder is new, and belongs to
  its value for good.
-/

namespace SqlRecords

/-- One parameter more, under a generated name or under a name of the caller. -/
inductive Addition where
  | generated (v : Value)
  | named (name : String) (v : Value)
deriving DecidableEq

/-- A caller used the name that is made after these additions, and the placeholder shows it. -/
def PlaceholderStyle.TakenBy (style : PlaceholderStyle) (before : List Addition) : Prop :=
  style ≠ .dollar ∧ ∃ v, Addition.named (style.generatedName before.length) v ∈ before

theorem PlaceholderStyle.render_inj {style : PlaceholderStyle} (h : style ≠ .positional)
    {a b : String} (heq : style.render a = style.render b) : a = b := by
  have hlist := congrArg String.toList heq
  cases style with
  | positional => exact absurd rfl h
  | _ => simpa [render, String.toList_inj] using hlist

namespace Parameters

/-- The parameter that an addition appends. -/
def addition (ps : Parameters) : Addition → Param
  | .generated v => ⟨ps.next, v, none⟩
  | .named name v => ps.namedParam name v

/-- Adds a parameter. -/
def add (ps : Parameters) : Addition → Parameters
  | .generated v => ps.push v
  | .named name v => ps.pushNamed name v

/-- Adds parameters, one after another. -/
def addAll (ps : Parameters) (additions : List Addition) : Parameters := additions.foldl add ps

variable {style : PlaceholderStyle}

/-! ## One parameter more -/

@[simp] theorem items_add (ps : Parameters) (a : Addition) :
    (ps.add a).items = ps.items ++ [ps.addition a] := by
  cases a <;> rfl

@[simp] theorem style_add (ps : Parameters) (a : Addition) : (ps.add a).style = ps.style := by
  cases a <;> rfl

@[simp] theorem size_add (ps : Parameters) (a : Addition) : (ps.add a).size = ps.size + 1 := by
  simp [size]

/-- Where a parameter gets its placeholder from: its number, or the name that the caller gave to it. -/
theorem addition_cases (ps : Parameters) (a : Addition) :
    (ps.addition a).placeholder = ps.style.generated ps.size
      ∨ ps.style ≠ .dollar ∧ ∃ name, a = .named name (ps.addition a).value
          ∧ (ps.addition a).placeholder = ps.style.render name := by
  obtain ⟨style, items⟩ := ps
  cases a with
  | generated v => exact .inl rfl
  | named name v =>
      cases style with
      | dollar => exact .inl rfl
      | _ => exact .inr ⟨by simp, name, rfl, rfl⟩

theorem placeholder_named {ps : Parameters} (h : ps.style ≠ .dollar) (name : String) (v : Value) :
    (ps.addition (.named name v)).placeholder = ps.style.render name := by
  obtain ⟨style, items⟩ := ps
  cases style with
  | dollar => exact absurd rfl h
  | _ => rfl

/-! ## Many parameters more -/

@[simp] theorem addAll_nil (ps : Parameters) : ps.addAll [] = ps := rfl

@[simp] theorem addAll_append (ps : Parameters) (as bs : List Addition) :
    ps.addAll (as ++ bs) = (ps.addAll as).addAll bs := by
  simp [addAll]

@[simp] theorem addAll_singleton (ps : Parameters) (a : Addition) : ps.addAll [a] = ps.add a := rfl

@[simp] theorem style_addAll (ps : Parameters) (as : List Addition) :
    (ps.addAll as).style = ps.style := by
  induction as using List.reverseRecOn with
  | nil => rfl
  | append_singleton as a ih => simp [ih]

@[simp] theorem size_addAll (ps : Parameters) (as : List Addition) :
    (ps.addAll as).size = ps.size + as.length := by
  induction as using List.reverseRecOn with
  | nil => rfl
  | append_singleton as a ih =>
      simp [ih]
      omega

theorem size_addAll_empty (as : List Addition) : ((empty style).addAll as).size = as.length := by
  rw [size_addAll]
  exact Nat.zero_add _

/-- Nothing that is there is moved. -/
theorem exists_items_addAll (ps : Parameters) (as : List Addition) :
    ∃ more, (ps.addAll as).items = ps.items ++ more := by
  induction as using List.reverseRecOn with
  | nil => exact ⟨[], by simp⟩
  | append_singleton as a ih =>
      obtain ⟨more, hmore⟩ := ih
      exact ⟨more ++ [(ps.addAll as).addition a], by simp [hmore]⟩

/-- A placeholder that is there leads to the same value, whatever is added. -/
theorem get?_addAll {ps : Parameters} {placeholder : String} (h : placeholder ∈ ps.placeholders)
    (as : List Addition) : (ps.addAll as).get? placeholder = ps.get? placeholder := by
  obtain ⟨more, hmore⟩ := ps.exists_items_addAll as
  obtain ⟨p, hp, rfl⟩ := List.mem_map.mp h
  have hfound : (ps.items.find? fun q => q.placeholder = p.placeholder).isSome = true := by
    rw [List.find?_isSome]
    exact ⟨p, hp, by simp⟩
  rw [get?, get?, hmore, List.find?_append, Option.or_of_isSome hfound]

/-- A parameter under a new placeholder is found there. -/
theorem get?_push {ps : Parameters} (h : ps.next ∉ ps.placeholders) (v : Value) :
    (ps.push v).get? ps.next = some v := by
  have hnone : ps.items.find? (fun q => q.placeholder = ps.next) = none := by
    rw [List.find?_eq_none]
    intro p hp heq
    exact h (List.mem_map.mpr ⟨p, hp, of_decide_eq_true heq⟩)
  rw [get?, items_push, List.find?_append, hnone]
  simp

/-- **Where the placeholders of a set come from.**  Each has the number of its parameter, or is a name
that a caller gave to its value. -/
theorem mem_items_addAll {before : List Addition} {p : Param}
    (h : p ∈ ((empty style).addAll before).items) :
    (∃ n < before.length, p.placeholder = style.generated n)
      ∨ style ≠ .dollar
        ∧ ∃ name, Addition.named name p.value ∈ before ∧ p.placeholder = style.render name := by
  induction before using List.reverseRecOn with
  | nil => exact absurd h List.not_mem_nil
  | append_singleton before a ih =>
      simp only [addAll_append, addAll_singleton, items_add, List.mem_append,
        List.mem_singleton] at h
      rcases h with h | rfl
      · rcases ih h with ⟨n, hn, hp⟩ | ⟨hstyle, name, hname, hp⟩
        · exact .inl ⟨n, by simp; omega, hp⟩
        · exact .inr ⟨hstyle, name, List.mem_append_left _ hname, hp⟩
      · rcases ((empty style).addAll before).addition_cases a with hp | ⟨hstyle, name, ha, hp⟩
        · rw [style_addAll, size_addAll_empty] at hp
          exact .inl ⟨before.length, by simp, hp⟩
        · rw [style_addAll] at hstyle hp
          exact .inr ⟨hstyle, name, by rw [← ha]; simp, hp⟩

/-- A name of the caller is a placeholder of the set. -/
theorem render_mem_addAll (h : style ≠ .dollar) {before : List Addition} {name : String} {v : Value}
    (hname : Addition.named name v ∈ before) :
    style.render name ∈ ((empty style).addAll before).placeholders := by
  obtain ⟨earlier, later, rfl⟩ := List.append_of_mem hname
  obtain ⟨more, hmore⟩ := ((empty style).addAll (earlier ++ [.named name v])).exists_items_addAll later
  have hstyle : ((empty style).addAll earlier).style = style := style_addAll _ _
  have hplaceholder := placeholder_named (hstyle.symm ▸ h) name v
  rw [hstyle] at hplaceholder
  rw [← List.singleton_append, ← List.append_assoc, addAll_append, placeholders, hmore, addAll_append,
    addAll_singleton, items_add, ← hplaceholder]
  simp

theorem next_addAll (before : List Addition) :
    ((empty style).addAll before).next = style.render (style.generatedName before.length) := by
  rw [next, size_addAll_empty, style_addAll]
  rfl

/-! ## The next placeholder -/

/-- **When a generated placeholder is its own.**  In a set with names or numbers, which was filled in
any order, the next placeholder is new unless a caller has used it as a name.  If it is new, it leads
to its value then and ever after.  If not, it leads to a value that the caller gave to this name. -/
theorem generated_own_iff (h : style ≠ .positional) (before : List Addition) (v : Value) :
    let ps := (empty style).addAll before
    (ps.next ∉ ps.placeholders ↔ ¬ style.TakenBy before)
      ∧ (¬ style.TakenBy before → ∀ later, ((ps.push v).addAll later).get? ps.next = some v)
      ∧ (style.TakenBy before → ∃ w,
          Addition.named (style.generatedName before.length) w ∈ before
            ∧ ∀ later, ((ps.push v).addAll later).get? ps.next = some w) := by
  intro ps
  -- a parameter under the next placeholder has a name of the caller: its number is another
  have hnamed : ∀ p ∈ ps.items, p.placeholder = ps.next →
      style ≠ .dollar ∧ Addition.named (style.generatedName before.length) p.value ∈ before := by
    intro p hp heq
    rw [next_addAll] at heq
    rcases mem_items_addAll hp with ⟨n, hn, hnumber⟩ | ⟨hstyle, name, hname, hrender⟩
    · have hsame : n = before.length := PlaceholderStyle.generated_inj h (hnumber.symm.trans heq)
      omega
    · obtain rfl := PlaceholderStyle.render_inj h (hrender.symm.trans heq)
      exact ⟨hstyle, hname⟩
  have hmem : ps.next ∈ ps.placeholders ↔ style.TakenBy before := by
    constructor
    · intro hnext
      obtain ⟨p, hp, heq⟩ := List.mem_map.mp hnext
      obtain ⟨hstyle, hname⟩ := hnamed p hp heq
      exact ⟨hstyle, p.value, hname⟩
    · rintro ⟨hstyle, w, hw⟩
      rw [next_addAll]
      exact render_mem_addAll hstyle hw
  refine ⟨not_congr hmem, fun hfree later => ?_, fun htaken => ?_⟩
  · have hpushed : ps.next ∈ (ps.push v).placeholders := by simp [placeholders]
    rw [get?_addAll hpushed, get?_push (fun hnext => hfree (hmem.mp hnext))]
  · have hnext := hmem.mpr htaken
    obtain ⟨p, hp⟩ : ∃ p, ps.items.find? (fun q => q.placeholder = ps.next) = some p := by
      obtain ⟨p, hp, heq⟩ := List.mem_map.mp hnext
      rw [← Option.isSome_iff_exists, List.find?_isSome]
      exact ⟨p, hp, decide_eq_true heq⟩
    have hplaceholder : p.placeholder = ps.next := by simpa using List.find?_some hp
    refine ⟨p.value, (hnamed p (List.mem_of_find?_eq_some hp) hplaceholder).2, fun later => ?_⟩
    have hget : ps.get? ps.next = some p.value := by rw [get?, hp]; rfl
    rw [← hget]
    exact get?_addAll hnext (.generated v :: later)

/-- Names of callers that are none of the next ones leave the generated placeholders alone. -/
theorem generated_own_iff_mixed :
    let before : List Addition :=
      [.named "p7" (.text "Ann"), .generated (.integer 5), .named "p0" (.text "Rome")]
    let ps := (empty .atSign).addAll before
    ps.placeholders = ["@p7", "@p1", "@p0"] ∧ ps.next = "@p3" ∧ ps.next ∉ ps.placeholders
      ∧ ∀ later, ((ps.push .null).addAll later).get? ps.next = some .null := by
  intro before ps
  have hstyle : PlaceholderStyle.atSign ≠ .positional := by decide
  have hown := generated_own_iff hstyle before .null
  have hfree : ¬ PlaceholderStyle.atSign.TakenBy before := by
    rintro ⟨-, v, hv⟩
    have hname : PlaceholderStyle.atSign.generatedName before.length = "p3" := by decide
    rw [hname] at hv
    simp [before] at hv
  exact ⟨by decide, by decide, hown.1.mpr hfree, hown.2.1 hfree⟩

/-- **A name of the caller can be the next one.**  The value that is bound under the generated name is
lost: its placeholder leads to the value of the caller's. -/
theorem generated_name_taken :
    let ps := (empty .atSign).add (.named "p1" (.text "Ann"))
    ps.next = "@p1" ∧ ps.next ∈ ps.placeholders
      ∧ (ps.push (.text "Rome")).get? ps.next = some (.text "Ann") := by
  decide

end Parameters

end SqlRecords
