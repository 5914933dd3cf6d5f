import SqlRecords.Proofs.Database.InsertOutcome

/-!
# Records found by their keys

The condition on a record is derived in two ways.  `ClassMap.keyPredicate` takes the values of the keys from
the record, column by column.  `Identifier.predicate` has only an identifier, in which it looks up each key
by its name.  The key that an insert gives is meant to be used as an identifier later, so both have to come
to the same condition.

A lookup by name takes the first pair with the name.  Where no two pairs have the same name there is one at
most, whatever the order; so an identifier is as good as any other that gives the same values to the same
names.

* `FieldSet.valuesNamed` — all the values under a name, of which a lookup takes the first.
* `FieldSet.Restates` — the pairs of an identifier, put in another way.
* `Identifier.predicate_of_restates` — it identifies the same record.
* **`Database.insertedKey_identifies`** — the key of a record gives the condition on the record.
-/

namespace SqlRecords

/-! ## Lookups by name -/

namespace FieldSet

variable {t : Table} {s s' : FieldSet}

/-- No two pairs have the same name. -/
def NamesDistinct (s : FieldSet) : Prop :=
  s.fields.Pairwise fun p q => ¬ Text.sameName p.1 q.1

/-- Two pairs with the same value, under names that differ in case at most. -/
def SamePair (p q : String × Value) : Prop := Text.sameName p.1 q.1 ∧ p.2 = q.2

/-- The second set has the pairs of the first in any order, under names in any case, and further pairs that
name no key of the table. -/
def Restates (t : Table) (s s' : FieldSet) : Prop :=
  ∃ renamed extra, List.Forall₂ SamePair s.fields renamed
    ∧ (∀ pair ∈ extra, ∀ key ∈ t.keys, ¬ Text.sameName pair.1 key.property)
    ∧ s'.fields.Perm (renamed ++ extra)

/-- The values of all pairs with a name. -/
def valuesNamed (name : String) (fields : List (String × Value)) : List Value :=
  (fields.filter fun pair => Text.sameName pair.1 name).map (·.2)

theorem get?_eq_head? (s : FieldSet) (name : String) :
    s.get? name = (valuesNamed name s.fields).head? := by
  rw [get?, valuesNamed, List.head?_map, List.head?_filter]

theorem valuesNamed_append (name : String) (fields more : List (String × Value)) :
    valuesNamed name (fields ++ more) = valuesNamed name fields ++ valuesNamed name more := by
  rw [valuesNamed, List.filter_append, List.map_append]
  rfl

theorem valuesNamed_eq_nil {name : String} {fields : List (String × Value)}
    (h : ∀ pair ∈ fields, ¬ Text.sameName pair.1 name) : valuesNamed name fields = [] := by
  rw [valuesNamed, List.map_eq_nil_iff, List.filter_eq_nil_iff]
  exact h

/-- The case of the names makes no difference. -/
theorem valuesNamed_congr (name : String) {fields fields' : List (String × Value)}
    (h : List.Forall₂ SamePair fields fields') :
    valuesNamed name fields = valuesNamed name fields' := by
  induction h with
  | nil => rfl
  | @cons p q ps qs hpair _ ih =>
      obtain ⟨hname, hvalue⟩ := hpair
      have hsame : Text.sameName p.1 name = Text.sameName q.1 name := by
        rw [Bool.eq_iff_iff, Text.sameName_iff, Text.sameName_iff, Text.sameName_iff.mp hname]
      rw [valuesNamed, valuesNamed] at ih ⊢
      rw [List.filter_cons, List.filter_cons, hsame]
      split
      · rw [List.map_cons, List.map_cons, hvalue, ih]
      · exact ih

/-- Among distinct names there is one value at most under each. -/
theorem NamesDistinct.length_valuesNamed_le (h : s.NamesDistinct) (name : String) :
    (valuesNamed name s.fields).length ≤ 1 := by
  have hdistinct := h.sublist (List.filter_sublist (p := fun pair => Text.sameName pair.1 name))
  have hname : ∀ pair ∈ s.fields.filter fun pair => Text.sameName pair.1 name,
      Text.sameName pair.1 name = true := fun pair hpair => (List.mem_filter.mp hpair).2
  rw [valuesNamed, List.length_map]
  generalize s.fields.filter (fun pair => Text.sameName pair.1 name) = named at hdistinct hname ⊢
  match named with
  | [] => exact Nat.zero_le 1
  | [_] => exact Nat.le_refl 1
  | p :: q :: rest =>
      have hp := hname p List.mem_cons_self
      have hq := hname q (List.mem_cons_of_mem _ List.mem_cons_self)
      rw [Text.sameName_comm] at hq
      exact absurd (Text.sameName_trans hp hq)
        ((List.pairwise_cons.mp hdistinct).1 q List.mem_cons_self)

/-- **A set put in another way has the same values for the keys.** -/
theorem get?_of_restates (hdistinct : s.NamesDistinct) (h : Restates t s s') {key : Column}
    (hkey : key ∈ t.keys) : s'.get? key.property = s.get? key.property := by
  obtain ⟨renamed, extra, hrenamed, hextra, hperm⟩ := h
  have hvalues : (valuesNamed key.property s'.fields).Perm (valuesNamed key.property s.fields) := by
    have hfilter : (valuesNamed key.property s'.fields).Perm
        (valuesNamed key.property (renamed ++ extra)) := (hperm.filter _).map _
    rwa [valuesNamed_append, valuesNamed_eq_nil fun pair hpair => hextra pair hpair key hkey,
      List.append_nil, ← valuesNamed_congr key.property hrenamed] at hfilter
  have hone := hdistinct.length_valuesNamed_le key.property
  rw [get?_eq_head?, get?_eq_head?]
  generalize valuesNamed key.property s.fields = values at hone hvalues ⊢
  match values with
  | [] => rw [hvalues.eq_nil]
  | [v] => rw [List.perm_singleton.mp hvalues]
  | v :: w :: rest => exact absurd hone (by simp)

end FieldSet

/-! ## Identifiers -/

namespace Identifier

variable {t : Table} {s s' : FieldSet}

/-- Only the values of the keys matter. -/
theorem conditions_congr {keys : List Column}
    (h : ∀ key ∈ keys, s'.get? key.property = s.get? key.property) :
    conditions t s' keys = conditions t s keys := by
  induction keys with
  | nil => rfl
  | cons key keys ih =>
      obtain ⟨hkey, hkeys⟩ := List.forall_mem_cons.mp h
      rw [conditions, conditions, hkey, ih hkeys]

/-- Where every key has its value, the conditions are the equations for them. -/
theorem conditions_eq_ok {keys : List (Column × Value)}
    (h : ∀ key ∈ keys, s.get? key.1.property = some key.2) :
    conditions t s (keys.map Prod.fst)
      = .ok (keys.map fun key => Predicate.eq key.1.property key.2) := by
  induction keys with
  | nil => rfl
  | cons key keys ih =>
      obtain ⟨hkey, hkeys⟩ := List.forall_mem_cons.mp h
      rw [List.map_cons, conditions, hkey, ih hkeys]
      rfl

/-- **An identifier put in another way identifies the same record.** -/
theorem predicate_of_restates (hdistinct : s.NamesDistinct) (h : FieldSet.Restates t s s') :
    (composite s').predicate t = (composite s).predicate t := by
  rw [predicate, predicate, conditions_congr fun key hkey => FieldSet.get?_of_restates hdistinct h hkey]

end Identifier

namespace ClassMap

variable {α : Type} {m : ClassMap α} {entity : String} {steps : List (Declaration α)}

/-- **The key of a record gives the condition on the record.** -/
theorem predicate_recordKey (h : declare entity steps = .ok m) (a : α) :
    (m.recordKey a).identifier.predicate m.table = m.keyPredicate a := by
  have hvalues : ∀ key ∈ m.keyValues a, (m.recordKey a).get? key.1.property = some key.2 := by
    intro key hkey
    obtain ⟨p, hp, hp', rfl⟩ := exists_property_of_mem_keyValues hkey
    exact get?_recordKey h a hp hp'
  have hkeys := m.keyValues_map_fst a
  rw [keyPredicate]
  rw [recordKey] at hvalues ⊢
  split at hvalues
  · rename_i key hkey
    rw [hkey] at hkeys ⊢
    simp only [RecordKey.identifier, Identifier.predicate]
    rw [← hkeys]
    rfl
  · simp only [RecordKey.identifier, Identifier.predicate]
    rw [← hkeys, Identifier.conditions_eq_ok hvalues]
    rfl

end ClassMap

namespace Database

/-! ## Inserted records -/

variable {σ ι : Type} {E : ι → Type}

/-- **The key that an insert gives finds the record again.**  For every class map that can be declared, the
key of a record is one value if there is one key column, and gives the same condition as the record itself;
without a key column both are refused.  An insert gives the key of the record as it leaves it.  And an
identifier of several values whose names are distinct can be put in any other way: in another order, in
another case, and with values for names that are no keys. -/
theorem insertedKey_identifies [DecidableEq ι] (db : Database σ ι E) (i : ι) {entity : String}
    {steps : List (Declaration (E i))} {m : ClassMap (E i)}
    (hdeclare : ClassMap.declare entity steps = .ok m) :
    (∀ a, ((m.recordKey a).isSingle = true ↔ m.table.keys.length = 1)
      ∧ (m.recordKey a).identifier.predicate m.table = m.keyPredicate a
      ∧ (m.table.keys ≠ [] → ∃ p, m.keyPredicate a = .ok p)
      ∧ (m.table.keys = [] → ∃ e, m.keyPredicate a = .error e ∧ e.kind = .configuration))
    ∧ (∀ (s s' : Session σ ι E) (a b : E i) (key : RecordKey), db.mapOf s.cache i = .ok m →
        (db.insert i).run a s = ((.ok key, b), s') →
        key.identifier.predicate m.table = m.keyPredicate b)
    ∧ ∀ (t : Table) (fields fields' : FieldSet), fields.NamesDistinct →
        FieldSet.Restates t fields fields' →
        (Identifier.composite fields').predicate t = (Identifier.composite fields).predicate t := by
  refine ⟨fun a => ⟨m.isSingle_recordKey a, ClassMap.predicate_recordKey hdeclare a, ?_, ?_⟩, ?_, ?_⟩
  · intro hkeys
    obtain ⟨p, hp, -⟩ := m.exists_keyPredicate a hkeys
    exact ⟨p, hp⟩
  · intro hkeys
    exact ⟨_, m.keyPredicate_of_nil a hkeys, rfl⟩
  · intro s s' a b key hm hrun
    obtain ⟨_, _, _, _, -, -, -, -, -, -, -, rfl⟩ := exists_parts hm hrun
    exact ClassMap.predicate_recordKey hdeclare b
  · exact fun t fields fields' hdistinct h => Identifier.predicate_of_restates hdistinct h

/-- A note is found by its number and its mark, whichever comes first and whatever else is given. -/
theorem insertedKey_identifies_notes :
    let a : Note := ⟨0, .null, .text "one", .integer 3⟩
    let b : Note := ⟨1, .text "k0", .text "one", .integer 3⟩
    let key : RecordKey := .composite ⟨[("Number", .integer 1), ("Mark", .text "k0")]⟩
    let given : FieldSet := ⟨[("MARK", .text "k0"), ("Body", .null), ("number", .integer 1)]⟩
    let p : Predicate := .group .and [.eq "Number" (.integer 1), .eq "Mark" (.text "k0")]
    ∃ m s', ClassMap.declare "Note" Note.steps = .ok m
      ∧ (notes.insert ()).run a (.new 0) = ((.ok key, b), s') ∧ m.keyPredicate b = .ok p
      ∧ key.identifier.predicate m.table = .ok p
      ∧ (Identifier.composite given).predicate m.table = .ok p := by
  intro a b key given p
  obtain ⟨m, hm⟩ : ∃ m, ClassMap.declare "Note" Note.steps = .ok m := ⟨_, rfl⟩
  have hresult : ((notes.insert ()).run a (.new 0)).1 = (.ok key, b) := by decide +kernel
  have hrun : (notes.insert ()).run a (.new 0)
      = ((.ok key, b), ((notes.insert ()).run a (.new 0)).2) := by
    rw [← hresult]
  have hp : m.keyPredicate b = .ok p := by
    obtain rfl := Except.ok.inj hm
    rfl
  obtain ⟨-, hinsert, hrestates⟩ := insertedKey_identifies notes () hm
  have hkey : key.identifier.predicate m.table = .ok p :=
    (hinsert (.new 0) _ a b key hm hrun).trans hp
  have hgiven : FieldSet.Restates m.table ⟨[("Number", .integer 1), ("Mark", .text "k0")]⟩ given := by
    obtain rfl := Except.ok.inj hm
    refine ⟨[("number", .integer 1), ("MARK", .text "k0")], [("Body", .null)], ?_, ?_, ?_⟩
    · exact .cons ⟨by decide, rfl⟩ (.cons ⟨by decide, rfl⟩ .nil)
    · decide
    · decide
  refine ⟨m, _, hm, hrun, hp, hkey, ?_⟩
  exact (hrestates m.table _ given (List.pairwise_pair.mpr (by decide)) hgiven).trans hkey

end Database

end SqlRecords
