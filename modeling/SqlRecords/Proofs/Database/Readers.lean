import SqlRecords.Database.Multiple
import SqlRecords.Proofs.Database.ClassMaps

/-!
# Readers of several result sets

A reader hands out result sets in the order in which they were asked for.  Where the sets come from
— one command that hands them out when asked, or several that were read ahead — cannot be told by
reading them.

* `SetSource.Serves` — a source that has certain result sets to hand out next.
* `MultipleReader.Alike` — two readers that expect the same entities and have the same sets.
* `Database.readEach` — the results of a row of reads.
* **`Database.readEach_alike`** — alike readers give the same results, whatever is read from them.
-/

namespace SqlRecords

/-- The source hands out the given result sets next. -/
def SetSource.Serves (source : SetSource) (sets : List ResultSet) : Prop :=
  ∀ k set, sets[k]? = some set → source.reply (source.pulls + k) = .ok (some set)

namespace SetSource

variable {source : SetSource} {set : ResultSet} {sets : List ResultSet}

/-- Result sets that were read ahead are served. -/
theorem serves_buffered (sets : List ResultSet) : (buffered ⟨sets⟩).Serves sets := by
  intro k set hk
  simp [buffered, ofList, hk]

theorem Serves.head (h : source.Serves (set :: sets)) :
    source.reply source.pulls = .ok (some set) :=
  h 0 set rfl

/-- After the next set was handed out, the others are served. -/
theorem Serves.tail (h : source.Serves (set :: sets)) : source.next.2.Serves sets := by
  intro k next hk
  have hnext := h (k + 1) next hk
  rwa [Nat.add_comm k, ← Nat.add_assoc] at hnext

end SetSource

/-- Two readers expect the same entities, and have the same result sets for them. -/
structure MultipleReader.Alike {ι : Type} (r r' : MultipleReader ι) : Prop where
  expected : r.expected = r'.expected
  served : ∃ sets : List ResultSet, sets.length = r.expected.length
    ∧ r.source.Serves sets ∧ r'.source.Serves sets

namespace Database

variable {σ ι : Type} {E : ι → Type} [DecidableEq ι] (db : Database σ ι E)

/-- The results of reading records of some entities, one after another.  A read that fails does not
end the row. -/
def readEach : List ι → MultipleReader ι → Session σ ι E →
    List (Except Error ((i : ι) × List (E i)))
  | [], _, _ => []
  | i :: is, r, s =>
    match (db.readNext i).run r s with
    | ((result, r'), s') => result.map (Sigma.mk i) :: readEach is r' s'

/-! ## One set -/

theorem run_takeSet_of_nil (i : ι) {r : MultipleReader ι} (h : r.expected = [])
    (s : Session σ ι E) : (db.takeSet i).run r s = ((.error .allSetsRead, r), s) := by
  rw [takeSet, Editing.run_ofStep, h]

theorem run_takeSet_of_ne {i j : ι} {rest : List ι} {r : MultipleReader ι}
    (h : r.expected = j :: rest) (hj : j ≠ i) (s : Session σ ι E) :
    (db.takeSet i).run r s
      = ((.error (.wrongEntity (db.entities j).typeName (db.entities i).typeName), r), s) := by
  rw [takeSet, Editing.run_ofStep, h]
  simp only [if_neg hj]

/-- A reader that expects the entity asks its source, and goes on to the next entity if there was a
set. -/
theorem run_takeSet_of_head {i : ι} {rest : List ι} {r : MultipleReader ι}
    (h : r.expected = i :: rest) (s : Session σ ι E) :
    (db.takeSet i).run r s
      = match r.source.next.1 with
        | .ok (some set) =>
          ((.ok set, { r with expected := rest, source := r.source.next.2 }), s)
        | .ok none =>
          ((.error (.noMoreSets (db.entities i).typeName), { r with source := r.source.next.2 }), s)
        | .error e => ((.error e, { r with source := r.source.next.2 }), s) := by
  rw [takeSet, Editing.run_ofStep, h]
  simp only [if_true]
  rcases r.source.next with ⟨e | set | set, source⟩ <;> rfl

theorem run_takeSet_of_serves {i : ι} {rest : List ι} {r : MultipleReader ι} {set : ResultSet}
    {sets : List ResultSet} (h : r.expected = i :: rest) (hserves : r.source.Serves (set :: sets))
    (s : Session σ ι E) :
    (db.takeSet i).run r s
      = ((.ok set, { r with expected := rest, source := r.source.next.2 }), s) := by
  have hnext : r.source.next.1 = .ok (some set) := hserves.head
  rw [db.run_takeSet_of_head h, hnext]

/-- Taking a set from alike readers gives the same, and leaves them alike. -/
theorem takeSet_alike (i : ι) {r r' : MultipleReader ι} (h : r.Alike r') (s s' : Session σ ι E) :
    ∃ result t t', (db.takeSet i).run r s = ((result, t), s)
      ∧ (db.takeSet i).run r' s' = ((result, t'), s') ∧ t.Alike t' := by
  have halike := h
  obtain ⟨hexpected, sets, hlength, hserves, hserves'⟩ := h
  cases hr : r.expected with
  | nil =>
      have hr' := hexpected.symm.trans hr
      exact ⟨_, r, r', db.run_takeSet_of_nil i hr s, db.run_takeSet_of_nil i hr' s', halike⟩
  | cons j rest =>
      have hr' := hexpected.symm.trans hr
      by_cases hj : j = i
      · subst hj
        rw [hr] at hlength
        obtain ⟨set, sets, rfl⟩ := List.exists_cons_of_length_eq_add_one hlength
        exact ⟨_, _, _, db.run_takeSet_of_serves hr hserves s, db.run_takeSet_of_serves hr' hserves' s',
          rfl, sets, Nat.succ.inj hlength, hserves.tail, hserves'.tail⟩
      · exact ⟨_, r, r', db.run_takeSet_of_ne hr hj s, db.run_takeSet_of_ne hr' hj s', halike⟩

/-! ## Rows of reads -/

/-- Asking for a class map while reading. -/
theorem run_liftClassMap {τ : Type} (i : ι) (a : τ) (s : Session σ ι E) :
    ∃ builds, Editing.run (liftM (db.classMap i) : Editing σ ι E τ (ClassMap (E i))) a s
      = ((db.mapOf s.cache i, a), { s with cache := db.cacheWith s.cache i, builds := builds }) := by
  obtain ⟨builds, hrun⟩ := db.run_classMap i s
  refine ⟨builds, ?_⟩
  show ((((db.classMap i).run s).1, a), ((db.classMap i).run s).2) = _
  rw [hrun]

/-- One read of alike readers, in sessions with the same class maps, gives the same and leaves
both so. -/
theorem readNext_alike (i : ι) {r r' : MultipleReader ι} (h : r.Alike r') {s s' : Session σ ι E}
    (hcache : s.cache = s'.cache) :
    ∃ result t t' u u', (db.readNext i).run r s = ((result, t), u)
      ∧ (db.readNext i).run r' s' = ((result, t'), u') ∧ t.Alike t' ∧ u.cache = u'.cache := by
  obtain ⟨taken, t, t', htake, htake', halike⟩ := db.takeSet_alike i h s s'
  cases taken with
  | error e =>
      exact ⟨.error e, t, t', s, s', Editing.run_bind_of_error htake _,
        Editing.run_bind_of_error htake' _, halike, hcache⟩
  | ok set =>
      obtain ⟨builds, hmap⟩ := db.run_liftClassMap i t s
      obtain ⟨builds', hmap'⟩ := db.run_liftClassMap i t' s'
      rw [readNext, Editing.run_bind_of_ok htake, Editing.run_bind_of_ok htake']
      rw [← hcache] at hmap'
      cases hm : db.mapOf s.cache i with
      | error e =>
          rw [hm] at hmap hmap'
          exact ⟨.error e, t, t', _, _, Editing.run_bind_of_error hmap _,
            Editing.run_bind_of_error hmap' _, halike, rfl⟩
      | ok m =>
          rw [hm] at hmap hmap'
          exact ⟨m.materialize (db.entities i).fresh set, t, t', _, _,
            Editing.run_bind_of_ok hmap _, Editing.run_bind_of_ok hmap' _, halike, rfl⟩

/-- **Alike readers give the same results** for every row of reads, also where reads fail. -/
theorem readEach_alike : ∀ (reads : List ι) {r r' : MultipleReader ι} {s s' : Session σ ι E},
    r.Alike r' → s.cache = s'.cache → db.readEach reads r s = db.readEach reads r' s'
  | [], _, _, _, _, _, _ => rfl
  | i :: reads, r, r', s, s', h, hcache => by
      obtain ⟨result, t, t', u, u', hread, hread', halike, hcaches⟩ :=
        db.readNext_alike i h hcache
      rw [readEach, readEach, hread, hread']
      exact congrArg _ (readEach_alike reads halike hcaches)

end Database

end SqlRecords
