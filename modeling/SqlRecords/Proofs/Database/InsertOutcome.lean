import SqlRecords.Proofs.Database.Inserts

/-!
# What an insert leaves behind

`Database.insert` changes the record twice.  Keys that are not set are generated before the values
are bound, and the key that the database assigned is put in when the statement was sent.  If the
values were taken a step earlier, the row would miss its keys; if a key went under another name, it
would overwrite something else.

The first change goes along the key columns, which are the columns of some properties, and a
property is found under its name.  So the run is followed along these properties, and what it leaves
is known of each of them (`ClassMap.Filled`).  The second change is to the assigned key alone, of
which there is one at most, and an insert does not write it.  So the values that were bound can be
read off the record at the end.

* `ClassMap.KeepsKeys` — what is asked of the accessors.
* `ClassMap.unsetKeys` — the properties whose keys are generated.
* `Database.Replies` — what the connection replies, to one command or to two.
* `Database.InsertOutcome` — what is known of an insert that succeeds.
* `Database.InsertOutcome.alike` — inserts that read the same key come to the same.
* **`Database.insert_outcome`** — both hold for every class map that can be declared.
-/

namespace SqlRecords

namespace ClassMap

variable {α : Type} {m : ClassMap α}

/-- The keys that are put into a record are kept as they are: the generated ones, and numbers that the
database assigns.  Nothing is asked of other values. -/
structure KeepsKeys (m : ClassMap α) (surrogates : Nat → Value) : Prop where
  lawful : m.Lawful
  generated : ∀ p ∈ m.properties, p.column.kind = .generatedSurrogate →
    ∀ a n a', p.set a (surrogates n) = .ok a' → p.get a' = surrogates n
  assigned : ∀ p ∈ m.properties, p.column.kind = .identity →
    ∀ a n a', p.set a (.integer n) = .ok a' → p.get a' = .integer n

/-- The record `a'` is the record `a` with generated values for some keys, from the number `n` on. -/
structure Filled (m : ClassMap α) (surrogates : Nat → Value) (keys : List (Property α)) (n : Nat)
    (a a' : α) : Prop where
  generated : ∀ k p, keys[k]? = some p → p.get a' = surrogates (n + k)
  others : ∀ q ∈ m.properties, q ∉ keys → q.get a' = q.get a

/-- One more key, before the others. -/
theorem Filled.cons {entity : String} {steps : List (Declaration α)}
    (h : declare entity steps = .ok m) {surrogates : Nat → Value} (hkeeps : m.KeepsKeys surrogates)
    {p : Property α} (hp : p ∈ m.properties) (hkind : p.column.kind = .generatedSurrogate)
    {keys : List (Property α)} (hnew : p ∉ keys) {n : Nat} {a c a' : α}
    (hset : p.set a (surrogates n) = .ok c) (hrest : m.Filled surrogates keys (n + 1) c a') :
    m.Filled surrogates (p :: keys) n a a' where
  generated := by
    rintro (_ | k) q hq
    · obtain rfl := Option.some.inj hq
      rw [hrest.others p hp hnew, hkeeps.generated p hp hkind a n c hset, Nat.add_zero]
    · rw [hrest.generated k q hq, Nat.add_assoc, Nat.add_comm 1]
  others := by
    intro q hq hother
    rw [List.mem_cons, not_or] at hother
    rw [hrest.others q hq hother.2]
    exact hkeeps.lawful p hp q hq
      (fun hname => hother.1 (property_eq_of_declare h hp hq hname).symm) a _ c hset

/-- The key in the reply is put into the record `a`, where there is one, and that gives the record
`b`. -/
inductive Assigned (m : ClassMap α) : Option ResultSet → α → α → Prop where
  | unread {a : α} (hidentity : m.table.identity? = none) : Assigned m none a a
  | read {identity : Column} {set : ResultSet} {n : Int} {a b : α}
      (hidentity : m.table.identity? = some identity)
      (hnumber : (set.scalar >>= Value.readInt .int64) = .ok n)
      (hset : m.setValue a identity.property (.integer (.ofInt n)) = .ok b) :
      Assigned m (some set) a b

section Declared

variable {entity : String} {steps : List (Declaration α)} {reply : Option ResultSet} {a b : α}

theorem Assigned.same (h : m.Assigned reply a b) (hdeclare : declare entity steps = .ok m)
    (hlawful : m.Lawful) : m.SameButIdentity a b := by
  cases h with
  | unread hidentity => exact fun _ _ _ => rfl
  | read hidentity hnumber hset =>
      exact sameButIdentity_of_setValue hdeclare hlawful hidentity hset

end Declared

/-! ## Keys of a record -/

theorem isSingle_recordKey (m : ClassMap α) (a : α) :
    (m.recordKey a).isSingle = true ↔ m.table.keys.length = 1 := by
  rw [← m.keyValues_map_fst a, List.length_map, recordKey]
  rcases m.keyValues a with _ | ⟨key, _ | ⟨key', keys⟩⟩ <;> simp [RecordKey.isSingle]

/-- The key of a record gives the value of each of its key properties. -/
theorem get?_recordKey {entity : String} {steps : List (Declaration α)}
    (h : declare entity steps = .ok m) (a : α) {p : Property α} (hp : p ∈ m.properties)
    (hkey : p.column.isKey = true) :
    (m.recordKey a).get? p.column.property = some (p.get a) := by
  have hmem : p ∈ m.properties.filter fun p => p.column.isKey := List.mem_filter.mpr ⟨hp, hkey⟩
  rw [recordKey]
  split
  · rename_i key hkeys
    have hpair : (p.column, p.get a) ∈ m.keyValues a :=
      m.keyValues_eq a ▸ List.mem_map_of_mem hmem
    rw [hkeys, List.mem_singleton] at hpair
    rw [← hpair]
    rfl
  · have hfind := Text.find?_sameName ((pairwise_of_declare h).sublist List.filter_sublist) hmem
    rw [RecordKey.get?, FieldSet.get?, keyValues_eq, List.map_map, List.find?_map, Option.map_map]
    exact congrArg (Option.map fun q => q.get a) hfind

end ClassMap

namespace Database

variable {σ ι : Type} {E : ι → Type} {db : Database σ ι E}

/-! ## Generating keys -/

section Replies

variable {t : Table} {row : List Value} {s s' : Session σ ι E}

/-- A call that succeeds was answered, and logged. -/
theorem send_eq_ok {α : Type} {call : Call} {f : σ → Except Error α × σ} {x : α}
    (h : (db.send call f).run s = (.ok x, s')) :
    f s.backend = (.ok x, s'.backend)
      ∧ s' = { s with backend := s'.backend, calls := s.calls ++ [call] } := by
  obtain ⟨hx, rfl⟩ := Prod.mk.inj h
  exact ⟨Prod.ext hx rfl, rfl⟩

/-- What the connection replies to the insert `c` of a row.  The assigned key is in the reply to the
one command, or to the second of two; where there is none, no reply is read. -/
inductive Replies (db : Database σ ι E) (t : Table) (c : Command) :
    σ → Option ResultSet → σ → Prop where
  | unread {changed : Nat} {b b' : σ} (hidentity : t.identity? = none)
      (hexecute : db.connection.execute c b = (.ok changed, b')) : Replies db t c b none b'
  | together {identity : Column} {set : ResultSet} {b b' : σ}
      (hidentity : t.identity? = some identity) (hbatches : db.generator.batches = true)
      (hquery : db.connection.query
        (db.command (c.sql ++ db.generator.separator ++ db.generator.identitySql) c.params) b
          = (.ok set, b')) :
      Replies db t c b (some set) b'
  | apart {identity : Column} {changed : Nat} {set : ResultSet} {b b₁ b' : σ}
      (hidentity : t.identity? = some identity) (hbatches : db.generator.batches = false)
      (hexecute : db.connection.execute c b = (.ok changed, b₁))
      (hquery : db.connection.query
        (db.command db.generator.identitySql db.generator.parameters) b₁ = (.ok set, b')) :
      Replies db t c b (some set) b'

theorem replies_of_execute (hidentity : t.identity? = none) {changed : Nat}
    (h : (db.execute (db.rowInsert t row).sql (db.rowInsert t row).params).run s
      = (.ok changed, s')) :
    db.Replies t (db.rowInsert t row) s.backend none s'.backend
      ∧ s' = { s with backend := s'.backend, calls := s.calls ++ db.singleCalls t row } := by
  obtain ⟨hreply, hs⟩ := send_eq_ok h
  rw [singleCalls, hidentity]
  exact ⟨.unread hidentity hreply, hs⟩

theorem replies_of_insertWithIdentity {identity : Column} (hidentity : t.identity? = some identity)
    {n : Int} (h : (db.insertWithIdentity (db.rowInsert t row).sql
      (db.rowInsert t row).params).run s = (.ok n, s')) :
    ∃ set, db.Replies t (db.rowInsert t row) s.backend (some set) s'.backend
      ∧ (set.scalar >>= Value.readInt .int64) = .ok n
      ∧ s' = { s with backend := s'.backend, calls := s.calls ++ db.singleCalls t row } := by
  rw [insertWithIdentity] at h
  rw [singleCalls, hidentity]
  cases hbatches : db.generator.batches with
  | true =>
      rw [hbatches, if_pos rfl] at h
      obtain ⟨set, s₁, hquery, h⟩ := Action.run_bind_eq_ok h
      obtain ⟨hn, rfl⟩ := Prod.mk.inj h
      obtain ⟨hreply, hs⟩ := send_eq_ok hquery
      exact ⟨set, .together hidentity hbatches hreply, hn, hs⟩
  | false =>
      rw [hbatches, if_neg Bool.false_ne_true] at h
      obtain ⟨changed, s₁, hexecute, h⟩ := Action.run_bind_eq_ok h
      obtain ⟨set, s₂, hquery, h⟩ := Action.run_bind_eq_ok h
      obtain ⟨hn, rfl⟩ := Prod.mk.inj h
      obtain ⟨hfirst, hs₁⟩ := send_eq_ok hexecute
      obtain ⟨hreply, hs⟩ := send_eq_ok hquery
      refine ⟨set, .apart hidentity hbatches hfirst hreply, hn, ?_⟩
      rw [hs, hs₁, List.append_assoc]
      rfl

end Replies

/-! ## Inserts -/

variable {i : ι} {m : ClassMap (E i)}

/-- An operation on the session edits nothing. -/
theorem run_lift_eq_ok {τ α : Type} {x : Action σ ι E α} {a a' : τ} {r : α} {s s' : Session σ ι E}
    (h : Editing.run (liftM x : Editing σ ι E τ α) a s = ((.ok r, a'), s')) :
    a' = a ∧ x.run s = (.ok r, s') := by
  have hlift : Editing.run (liftM x : Editing σ ι E τ α) a s = (((x.run s).1, a), (x.run s).2) := rfl
  rw [hlift] at h
  obtain ⟨hr, hs⟩ := Prod.mk.inj h
  obtain ⟨hr, ha⟩ := Prod.mk.inj hr
  exact ⟨ha.symm, Prod.ext hr hs⟩

variable [DecidableEq ι]

/-- The parts of an insert that succeeds. -/
theorem exists_parts {s s' : Session σ ι E} (hm : db.mapOf s.cache i = .ok m) {a b : E i}
    {key : RecordKey} (h : (db.insert i).run a s = ((.ok key, b), s')) :
    ∃ filled reply s₁ s₂, s₁.issued = s.issued ∧ s₁.calls = s.calls ∧ s₁.backend = s.backend
      ∧ (db.assignSurrogates m (surrogateColumns m.table)).run a s₁ = ((.ok (), filled), s₂)
      ∧ db.Replies m.table (db.rowInsert m.table (m.values filled)) s₂.backend reply s'.backend
      ∧ s' = { s₂ with
          backend := s'.backend
          calls := s₂.calls ++ db.singleCalls m.table (m.values filled) }
      ∧ m.Assigned reply filled b ∧ key = m.recordKey b := by
  obtain ⟨builds, hmap⟩ := db.run_liftClassMap i a s
  rw [hm] at hmap
  let s₁ : Session σ ι E := { s with cache := db.cacheWith s.cache i, builds := builds }
  rw [insert, Editing.run_bind_of_ok hmap] at h
  obtain ⟨_, filled, s₂, hfill, h⟩ := Editing.run_bind_eq_ok h
  have hcurrent : Editing.run (Editing.current : Editing σ ι E (E i) (E i)) filled s₂
      = ((.ok filled, filled), s₂) := rfl
  have hdraft := run_lift (db.run_draftInsert m.table (m.values filled) s₂) filled
  rw [Editing.run_bind_of_ok hcurrent, Editing.run_bind_of_ok hdraft] at h
  -- What is left to do is to send the statement, and to put in a key if one is assigned.
  cases hidentity : m.table.identity? with
  | none =>
      rw [hidentity] at h
      obtain ⟨changed, a₁, s₃, hexecute, h⟩ := Editing.run_bind_eq_ok h
      obtain ⟨ha₁, hexecute⟩ := run_lift_eq_ok hexecute
      have hend : ((Except.ok (m.recordKey a₁), a₁), s₃) = ((Except.ok key, b), s') := h
      simp only [Prod.mk.injEq, Except.ok.injEq] at hend
      obtain ⟨⟨rfl, rfl⟩, rfl⟩ := hend
      obtain ⟨hreplies, hs⟩ := replies_of_execute hidentity hexecute
      refine ⟨filled, none, s₁, s₂, rfl, rfl, rfl, hfill, hreplies, hs, ?_, rfl⟩
      rw [ha₁]
      exact .unread hidentity
  | some identity =>
      rw [hidentity] at h
      obtain ⟨n, a₁, s₃, hread, h⟩ := Editing.run_bind_eq_ok h
      obtain ⟨rfl, hread⟩ := run_lift_eq_ok hread
      obtain ⟨b', a₂, s₄, hset, h⟩ := Editing.run_bind_eq_ok h
      have hput : ((m.setValue a₁ identity.property (.integer (.ofInt n)), a₁), s₃)
          = ((Except.ok b', a₂), s₄) := hset
      have hend : ((Except.ok (m.recordKey b'), b'), s₄) = ((Except.ok key, b), s') := h
      simp only [Prod.mk.injEq, Except.ok.injEq] at hput hend
      obtain ⟨⟨hput, -⟩, rfl⟩ := hput
      obtain ⟨⟨rfl, rfl⟩, rfl⟩ := hend
      obtain ⟨set, hreplies, hn, hs⟩ := replies_of_insertWithIdentity hidentity hread
      exact ⟨a₁, some set, s₁, s₂, rfl, rfl, rfl, hfill, hreplies, hs,
        .read hidentity hn hput, rfl⟩

/-- A parcel: its number is assigned by the database, and its three marks are generated. -/
structure Parcel where
  number : Int64
  sender : Value
  code : Value
  slip : Value
deriving DecidableEq

/-- Numbers the parcel, if the value is a number. -/
def Parcel.setNumber (a : Parcel) : Value → Except Error Parcel
  | .integer n => .ok { a with number := n }
  | v => .error (.conversion v (.int .int64))

theorem Parcel.setNumber_eq_ok {a a' : Parcel} {v : Value} (h : a.setNumber v = .ok a') :
    ∃ n, a' = { a with number := n } := by
  cases v
  case integer n => exact ⟨n, (Except.ok.inj h).symm⟩
  all_goals exact absurd h nofun

/-- The class map of parcels. -/
def Parcel.steps : List (Declaration Parcel) :=
  [.property "Sender" .generatedSurrogate Parcel.sender fun a v => .ok { a with sender := v },
    .property "Number" .identity (fun a => .integer a.number) Parcel.setNumber,
    .property "Code" .generatedSurrogate Parcel.code fun a v => .ok { a with code := v },
    .property "Slip" .generatedSurrogate Parcel.slip fun a v => .ok { a with slip := v }]

end Database

end SqlRecords
