import SqlRecords.Draft

/-!
# Templates

The text of a statement depends on the parameters bound before it, but in one way only: its
placeholders are numbered after them.  A template is the text with that dependence taken out —
pieces of fixed text, and slots for parameters.

* `Template.fill` — the text that a template gives when its slots are numbered from `n` on.
* `Template.fillEach` — several templates, the slots numbered through all of them.
* `Template.join` — several templates as one, with a separator between them; `fill_join` says that
  filling the whole is joining the filled parts.
* `Parameters.pushAll` — several values bound one after another, and `Parameters.numbered`, the
  parameters that this adds.
* `Draft.Follows` — a draft that gives the text of a template, from whatever parameters it starts,
  and binds one value for each slot.
-/

namespace SqlRecords

/-! ## Placeholders in a row -/

namespace PlaceholderStyle

/-- The character that a placeholder starts with. -/
def mark : PlaceholderStyle → Char
  | colon => ':'
  | atSign => '@'
  | dollar => '$'
  | positional => '?'

/-- What follows the mark in a generated placeholder. -/
def label : PlaceholderStyle → (count : Nat) → List Char
  | positional, _ => []
  | dollar, count => Numeral.ofNat (count + 1)
  | _, count => 'p' :: Numeral.ofNat count

/-- The placeholders generated for `count` parameters that follow `n` others. -/
def series (style : PlaceholderStyle) (n count : Nat) : List String :=
  (List.range' n count).map style.generated

variable (style : PlaceholderStyle)

theorem toList_generated (n : Nat) : (style.generated n).toList = style.mark :: style.label n := by
  cases style <;> simp [generated, generatedName, render, mark, label, Numeral.natText]

/-- Where placeholders carry a name or a number, no two are generated alike. -/
theorem generated_inj {style : PlaceholderStyle} (h : style ≠ .positional)
    {m n : Nat} (heq : style.generated m = style.generated n) : m = n := by
  have hdigits : ∀ {a b : Nat}, Numeral.ofNat a = Numeral.ofNat b → a = b := fun {a b} hab => by
    have hread := congrArg Numeral.readNat? hab
    rw [Numeral.readNat?_ofNat, Numeral.readNat?_ofNat] at hread
    exact Option.some.inj hread
  have hlabel := congrArg String.toList heq
  rw [style.toList_generated, style.toList_generated, List.cons_inj_right] at hlabel
  cases style with
  | positional => exact absurd rfl h
  | dollar => exact Nat.succ.inj (hdigits hlabel)
  | colon | atSign => exact hdigits (List.cons.inj hlabel).2

/-- After its mark a generated placeholder has letters and digits only. -/
theorem isAlphanum_of_mem_label {n : Nat} {c : Char} (h : c ∈ style.label n) :
    c.isAlphanum = true := by
  have hdigit : ∀ k, c ∈ Numeral.ofNat k → c.isAlphanum = true := fun k hk => by
    rw [Char.isAlphanum, Numeral.isDigit_of_mem_ofNat hk, Bool.or_true]
  cases style with
  | positional => exact absurd h List.not_mem_nil
  | dollar => exact hdigit _ h
  | colon | atSign =>
      rcases List.mem_cons.mp h with rfl | h
      · rfl
      · exact hdigit _ h

theorem series_succ (n count : Nat) :
    style.series n (count + 1) = style.generated n :: style.series (n + 1) count := by
  rw [series, List.range'_succ, List.map_cons]
  rfl

theorem series_add (n a b : Nat) :
    style.series n (a + b) = style.series n a ++ style.series (n + a) b := by
  rw [series, series, series, ← List.map_append, List.range'_append_1]

end PlaceholderStyle

namespace Parameters

/-- Binds several values, one after another. -/
def pushAll (ps : Parameters) (vs : List Value) : Parameters := vs.foldl push ps

/-- The parameters that `vs` become when they follow `n` others. -/
def numbered (style : PlaceholderStyle) : (n : Nat) → List Value → List Param
  | _, [] => []
  | n, v :: vs => ⟨style.generated n, v, none⟩ :: numbered style (n + 1) vs

example : numbered .dollar 1 [.null, .bool true]
    = [⟨"$2", .null, none⟩, ⟨"$3", .bool true, none⟩] := by cbv

@[simp] theorem pushAll_nil (ps : Parameters) : ps.pushAll [] = ps := rfl

@[simp] theorem pushAll_cons (ps : Parameters) (v : Value) (vs : List Value) :
    ps.pushAll (v :: vs) = (ps.push v).pushAll vs := rfl

theorem pushAll_append (ps : Parameters) (vs ws : List Value) :
    ps.pushAll (vs ++ ws) = (ps.pushAll vs).pushAll ws :=
  List.foldl_append

@[simp] theorem style_pushAll (ps : Parameters) (vs : List Value) :
    (ps.pushAll vs).style = ps.style := by
  induction vs generalizing ps with
  | nil => rfl
  | cons v vs ih => rw [pushAll_cons, ih, style_push]

@[simp] theorem size_pushAll (ps : Parameters) (vs : List Value) :
    (ps.pushAll vs).size = ps.size + vs.length := by
  induction vs generalizing ps with
  | nil => rfl
  | cons v vs ih =>
      rw [pushAll_cons, ih, size_push, List.length_cons]
      omega

/-- Binding values adds their parameters at the end and changes nothing before them. -/
theorem items_pushAll (ps : Parameters) (vs : List Value) :
    (ps.pushAll vs).items = ps.items ++ numbered ps.style ps.size vs := by
  induction vs generalizing ps with
  | nil => simp [numbered]
  | cons v vs ih =>
      rw [pushAll_cons, ih, items_push, style_push, size_push, List.append_assoc, numbered]
      rfl

@[simp] theorem placeholders_numbered (style : PlaceholderStyle) (n : Nat) (vs : List Value) :
    (numbered style n vs).map (·.placeholder) = style.series n vs.length := by
  induction vs generalizing n with
  | nil => rfl
  | cons v vs ih => rw [numbered, List.map_cons, ih, List.length_cons, style.series_succ]

@[simp] theorem length_numbered (style : PlaceholderStyle) (n : Nat) (vs : List Value) :
    (numbered style n vs).length = vs.length := by
  induction vs generalizing n with
  | nil => rfl
  | cons v vs ih => rw [numbered, List.length_cons, ih, List.length_cons]

@[simp] theorem values_numbered (style : PlaceholderStyle) (n : Nat) (vs : List Value) :
    (numbered style n vs).map (·.value) = vs := by
  induction vs generalizing n with
  | nil => rfl
  | cons v vs ih => rw [numbered, List.map_cons, ih]

theorem exists_generated {style : PlaceholderStyle} {n : Nat} {vs : List Value} {p : Param}
    (h : p ∈ numbered style n vs) : ∃ m, p.placeholder = style.generated m := by
  have hmem : p.placeholder ∈ style.series n vs.length := by
    rw [← placeholders_numbered]
    exact List.mem_map_of_mem h
  obtain ⟨m, -, hm⟩ := List.mem_map.mp hmem
  exact ⟨m, hm.symm⟩

theorem numbered_append (style : PlaceholderStyle) (n : Nat) (vs ws : List Value) :
    numbered style n (vs ++ ws)
      = numbered style n vs ++ numbered style (n + vs.length) ws := by
  induction vs generalizing n with
  | nil => rfl
  | cons v vs ih =>
      rw [List.cons_append, numbered, numbered, ih, List.cons_append, List.length_cons,
        Nat.add_assoc, Nat.add_comm 1]

/-- The parameters that groups of values become, one group after another. -/
def numberedEach (style : PlaceholderStyle) : (n : Nat) → List (List Value) → List (List Param)
  | _, [] => []
  | n, vs :: rest => numbered style n vs :: numberedEach style (n + vs.length) rest

theorem flatten_numberedEach (style : PlaceholderStyle) (n : Nat) (groups : List (List Value)) :
    (numberedEach style n groups).flatten = numbered style n groups.flatten := by
  induction groups generalizing n with
  | nil => rfl
  | cons vs rest ih => rw [numberedEach, List.flatten_cons, List.flatten_cons, ih, numbered_append]

theorem exists_numbered {style : PlaceholderStyle} {n : Nat} {groups : List (List Value)}
    {group : List Param} (h : group ∈ numberedEach style n groups) :
    ∃ m vs, group = numbered style m vs := by
  induction groups generalizing n with
  | nil => exact absurd h List.not_mem_nil
  | cons vs rest ih =>
      rcases List.mem_cons.mp h with rfl | h
      · exact ⟨n, vs, rfl⟩
      · exact ih h

theorem values_numberedEach (style : PlaceholderStyle) (n : Nat) (groups : List (List Value)) :
    (numberedEach style n groups).map (fun group => group.map (·.value)) = groups := by
  induction groups generalizing n with
  | nil => rfl
  | cons vs rest ih => rw [numberedEach, List.map_cons, ih, values_numbered]

end Parameters

/-! ## Templates -/

/-- A piece of a statement: text as it stands, or the place of a parameter. -/
inductive Piece where
  | text (s : String)
  | slot
deriving DecidableEq

/-- A statement whose placeholders are not numbered yet. -/
abbrev Template : Type := List Piece

namespace Template

/-- The number of parameters that the template needs. -/
def slots : Template → Nat
  | [] => 0
  | .text _ :: rest => slots rest
  | .slot :: rest => slots rest + 1

/-- The text, with the slots numbered after `n` parameters. -/
def fill (style : PlaceholderStyle) : (n : Nat) → Template → String
  | _, [] => ""
  | n, .text s :: rest => s ++ fill style n rest
  | n, .slot :: rest => style.generated n ++ fill style (n + 1) rest

/-- The texts of several templates, with the slots numbered through all of them. -/
def fillEach (style : PlaceholderStyle) : (n : Nat) → List Template → List String
  | _, [] => []
  | n, x :: xs => fill style n x :: fillEach style (n + slots x) xs

/-- Several templates with a separator between them. -/
def join (separator : String) : List Template → Template
  | [] => []
  | [x] => x
  | x :: y :: rest => x ++ .text separator :: join separator (y :: rest)

/-- What `join` puts after the first of several templates. -/
def continued (separator : String) (xs : List Template) : Template :=
  xs.flatMap fun x => .text separator :: x

/-- The number of parameters that several templates need. -/
def slotsOfAll : List Template → Nat
  | [] => 0
  | x :: xs => slots x + slotsOfAll xs

/-- The second template is numbered after the slot of the first. -/
example : fillEach .atSign 0 [[.text "Id=", .slot], [.text "Name=", .slot]]
    = ["Id=@p0", "Name=@p1"] := by cbv

@[simp] theorem slots_append (x y : Template) : slots (x ++ y) = slots x + slots y := by
  induction x with
  | nil => simp [slots]
  | cons piece x ih =>
      cases piece with
      | text s => rw [List.cons_append, slots, slots, ih]
      | slot => rw [List.cons_append, slots, slots, ih, Nat.add_right_comm]

@[simp] theorem fill_append (style : PlaceholderStyle) (n : Nat) (x y : Template) :
    fill style n (x ++ y) = fill style n x ++ fill style (n + slots x) y := by
  induction x generalizing n with
  | nil => simp [slots, fill]
  | cons piece x ih =>
      cases piece with
      | text s => rw [List.cons_append, fill, fill, ih, slots, String.append_assoc]
      | slot =>
          rw [List.cons_append, fill, fill, ih, slots, String.append_assoc, Nat.add_assoc,
            Nat.add_comm 1]

theorem slots_join (separator : String) : ∀ xs : List Template,
    slots (join separator xs) = slotsOfAll xs
  | [] => rfl
  | [x] => by simp [join, slotsOfAll]
  | x :: y :: rest => by
      have ih := slots_join separator (y :: rest)
      rw [join, slots_append, slots, ih]
      simp [slotsOfAll]

/-- **Filling joined templates is joining filled templates.** -/
theorem fill_join (style : PlaceholderStyle) (separator : String) (n : Nat) :
    ∀ xs : List Template,
      fill style n (join separator xs) = separator.intercalate (fillEach style n xs)
  | [] => by simp [join, fillEach, fill]
  | [x] => by simp [join, fillEach]
  | x :: y :: rest => by
      have ih := fill_join style separator (n + slots x) (y :: rest)
      rw [join, fill_append, fill, ih]
      simp only [fillEach, String.intercalate_cons_cons, String.append_assoc]

theorem join_cons (separator : String) (x : Template) : ∀ xs : List Template,
    join separator (x :: xs) = x ++ continued separator xs
  | [] => by simp [join, continued]
  | y :: rest => by
      rw [join, join_cons separator y rest]
      simp [continued]

theorem length_fillEach (style : PlaceholderStyle) (n : Nat) (xs : List Template) :
    (fillEach style n xs).length = xs.length := by
  induction xs generalizing n with
  | nil => rfl
  | cons x xs ih => rw [fillEach, List.length_cons, ih, List.length_cons]

/-- Each of several texts is numbered after the slots of those before it. -/
theorem fillEach_getElem? (style : PlaceholderStyle) (n : Nat) {xs : List Template} {i : Nat}
    {x : Template} (h : xs[i]? = some x) :
    (fillEach style n xs)[i]? = some (fill style (n + slotsOfAll (xs.take i)) x) := by
  induction xs generalizing n i with
  | nil => exact absurd h nofun
  | cons y xs ih =>
      cases i with
      | zero =>
          obtain rfl := Option.some.inj h
          rfl
      | succ i =>
          rw [fillEach, List.getElem?_cons_succ, ih (n + slots y) h, List.take_succ_cons,
            Nat.add_assoc]
          rfl

end Template

/-! ## Drafts that follow a template -/

namespace Draft

/-- **The draft follows the template.**  From any parameters it gives the text of the template,
numbered after them, and binds the values, one for each slot.  Where there is an error in place of
a template, it fails with that error. -/
def Follows (d : Draft String) : Except Error Template → List Value → Prop
  | .ok x, vs =>
    x.slots = vs.length ∧
      ∀ ps : Parameters, d.run ps = (.ok (x.fill ps.style ps.size), ps.pushAll vs)
  | .error e, _ => ∀ ps : Parameters, (d.run ps).1 = .error e

/-- The same for a draft of several texts. -/
def FollowsEach (d : Draft (List String)) : Except Error (List Template) → List Value → Prop
  | .ok xs, vs =>
    Template.slotsOfAll xs = vs.length ∧
      ∀ ps : Parameters, d.run ps = (.ok (Template.fillEach ps.style ps.size xs), ps.pushAll vs)
  | .error e, _ => ∀ ps : Parameters, (d.run ps).1 = .error e

/-- A fixed text follows itself. -/
theorem follows_pure (s : String) : Follows (pure s) (.ok [.text s]) [] := by
  refine ⟨rfl, fun ps => ?_⟩
  rw [run_pure, Template.fill, Template.fill, String.append_empty, Parameters.pushAll_nil]

theorem follows_throw (e : Error) (vs : List Value) : Follows (throw e) (.error e) vs :=
  fun _ => rfl

/-- A draft that succeeds has a template to follow. -/
theorem Follows.exists_template {d : Draft String} {x : Except Error Template} {vs : List Value}
    (h : d.Follows x vs) {ps ps' : Parameters} {sql : String}
    (hrun : d.run ps = (.ok sql, ps')) :
    ∃ y, x = .ok y ∧ sql = y.fill ps.style ps.size ∧ ps' = ps.pushAll vs := by
  cases x with
  | error e =>
      have hfail := h ps
      rw [hrun] at hfail
      exact absurd hfail nofun
  | ok y =>
      have htext := h.2 ps
      rw [hrun, Prod.mk.injEq, Except.ok.injEq] at htext
      exact ⟨y, rfl, htext⟩

/-- A draft that fails has that error in place of a template. -/
theorem Follows.eq_error {d : Draft String} {x : Except Error Template} {vs : List Value}
    (h : d.Follows x vs) {ps : Parameters} {e : Error} (hrun : (d.run ps).1 = .error e) :
    x = .error e := by
  cases x with
  | error e' =>
      have hfail := h ps
      rw [hrun] at hfail
      rw [Except.error.inj hfail]
  | ok y =>
      rw [h.2 ps] at hrun
      exact absurd hrun nofun

/-- What is done to the text afterwards is done to the template. -/
theorem Follows.map {d : Draft String} {x : Except Error Template} {vs : List Value}
    (h : d.Follows x vs) {f : String → String} {k : Template → Template}
    (hslots : ∀ y, Template.slots (k y) = y.slots)
    (hfill : ∀ style n y, Template.fill style n (k y) = f (y.fill style n)) :
    Follows (do let s ← d; return f s) (x.map k) vs := by
  cases x with
  | error e =>
      intro ps
      exact run_bind_of_error (h ps) _
  | ok y =>
      obtain ⟨hcount, hrun⟩ := h
      refine ⟨(hslots y).trans hcount, fun ps => ?_⟩
      rw [run_bind_of_ok (hrun ps), hfill]
      rfl

/-- One text made of several is one template made of several. -/
theorem FollowsEach.map {d : Draft (List String)} {xs : Except Error (List Template)}
    {vs : List Value} (h : d.FollowsEach xs vs) {f : List String → String}
    {k : List Template → Template} (hslots : ∀ ys, (k ys).slots = Template.slotsOfAll ys)
    (hfill : ∀ style n ys, (k ys).fill style n = f (Template.fillEach style n ys)) :
    Follows (do let ss ← d; return f ss) (xs.map k) vs := by
  cases xs with
  | error e =>
      intro ps
      exact run_bind_of_error (h ps) _
  | ok ys =>
      obtain ⟨hcount, hrun⟩ := h
      refine ⟨(hslots ys).trans hcount, fun ps => ?_⟩
      rw [run_bind_of_ok (hrun ps), hfill]
      rfl

/-- A draft in front of drafts: the numbering goes on where the first one stops. -/
theorem Follows.cons {d : Draft String} {ds : Draft (List String)} {x : Except Error Template}
    {xs : Except Error (List Template)} {vs ws : List Value} (h : d.Follows x vs)
    (hs : ds.FollowsEach xs ws) :
    FollowsEach (do let s ← d; let ss ← ds; return s :: ss)
      (do let y ← x; let ys ← xs; return y :: ys) (vs ++ ws) := by
  cases x with
  | error e =>
      intro ps
      exact run_bind_of_error (h ps) _
  | ok y =>
      obtain ⟨hcount, hrun⟩ := h
      cases xs with
      | error e =>
          intro ps
          rw [run_bind_of_ok (hrun ps)]
          exact run_bind_of_error (hs (ps.pushAll vs)) _
      | ok ys =>
          obtain ⟨hcounts, hruns⟩ := hs
          refine ⟨?_, fun ps => ?_⟩
          · rw [List.length_append, ← hcount, ← hcounts]
            rfl
          · have hrest := hruns (ps.pushAll vs)
            rw [Parameters.style_pushAll, Parameters.size_pushAll, ← hcount] at hrest
            rw [run_bind_of_ok (hrun ps), run_bind_of_ok hrest, Parameters.pushAll_append]
            rfl

end Draft

end SqlRecords
