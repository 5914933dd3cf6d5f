import SqlRecords.Proofs.Database.Readers
import SqlRecords.Proofs.Database.Strategies

/-!
# Rows of reads

A reader has two queues: the entities that were asked for, and the result sets that come from the
connection.  They stay aligned whatever is read: a read takes from both, or from neither, or it asks
the source in vain and leaves the entities as they are.  So a read for the wrong entity does no
harm, and neither does a source that fails for a while.

What one read comes to is said by cases (`Reading.Outcome`).  The queues are followed along a row of
reads as two laws of conservation: what was expected at first is what was read and what is still
expected, and what the source gave is what was read.

* `Reading` — one read, with the reader before and after.
* `Database.readings` — a row of reads.
* `SetSource.given` — the result sets among the next replies of a source.
* **`Database.getMultiple_inOrder`** — the reads of a reader are in order.
-/

namespace SqlRecords

/-! ## What a source gives -/

namespace SetSource

/-- The result set in the next reply, if the reply holds one. -/
def nextSet? (source : SetSource) : Option ResultSet :=
  match source.next.1 with
  | .ok set? => set?
  | .error _ => none

/-- The result sets among the next replies. -/
def given : Nat → SetSource → List ResultSet
  | 0, _ => []
  | count + 1, source => source.nextSet?.toList ++ given count source.next.2

/-- The source after some more requests. -/
def after (count : Nat) (source : SetSource) : SetSource :=
  { source with pulls := source.pulls + count }

theorem after_after (count count' : Nat) (source : SetSource) :
    after count' (after count source) = after (count + count') source := by
  rw [after, after, after, Nat.add_assoc]

/-- Further replies are given after the first ones. -/
theorem given_add (count count' : Nat) (source : SetSource) :
    given (count + count') source = given count source ++ given count' (after count source) := by
  induction count generalizing source with
  | zero => rw [Nat.zero_add]; rfl
  | succ count ih =>
      have hafter : after count source.next.2 = after (count + 1) source := by
        rw [Nat.add_comm count, ← after_after]
        rfl
      rw [Nat.succ_add, given, ih, hafter, ← List.append_assoc]
      rfl

end SetSource

/-! ## One read -/

/-- A read of records of one entity: what came of it, and the reader before and after. -/
structure Reading (ι : Type) (E : ι → Type) where
  entity : ι
  result : Except Error (List (E entity))
  before : MultipleReader ι
  after : MultipleReader ι

namespace Reading

variable {ι : Type} {E : ι → Type}

/-- The result set that the read got from the source, if it asked the source. -/
def set? (x : Reading ι E) : Option ResultSet :=
  if x.before.source.pulls < x.after.source.pulls then x.before.source.nextSet? else none

/-- The result sets that some reads got, each with the entity that it was read as. -/
def delivered (log : List (Reading ι E)) : List (ι × ResultSet) :=
  log.flatMap fun x => x.set?.toList.map (Prod.mk x.entity)

theorem delivered_cons (x : Reading ι E) (log : List (Reading ι E)) :
    delivered (x :: log) = x.set?.toList.map (Prod.mk x.entity) ++ delivered log :=
  List.flatMap_cons

/-- What a read comes to, where `maps` are the class maps. -/
inductive Outcome {σ : Type} (db : Database σ ι E)
    (maps : (i : ι) → Except Error (ClassMap (E i))) : Reading ι E → Prop where
  /-- Another entity is next, or none is: the source is not asked, and the reader stays as it is. -/
  | misuse {i : ι} {r : MultipleReader ι} {e : Error} (hnext : r.expected.head? ≠ some i)
      (he : e.kind = .readerMisuse) : Outcome db maps ⟨i, .error e, r, r⟩
  /-- The source gives a set, and the reader goes on, whether the set becomes records or not. -/
  | set {i : ι} {rest : List ι} {r : MultipleReader ι} {set : ResultSet}
      (hnext : r.expected = i :: rest) (hset : r.source.next.1 = .ok (some set)) :
      Outcome db maps
        ⟨i, maps i >>= fun m => m.materialize (db.entities i).fresh set, r,
          { r with expected := rest, source := r.source.next.2 }⟩
  /-- The source is at its end. -/
  | ended {i : ι} {rest : List ι} {r : MultipleReader ι} {e : Error}
      (hnext : r.expected = i :: rest) (hset : r.source.next.1 = .ok none)
      (he : e.kind = .readerMisuse) :
      Outcome db maps ⟨i, .error e, r, { r with source := r.source.next.2 }⟩
  /-- The source fails. -/
  | failed {i : ι} {rest : List ι} {r : MultipleReader ι} {e : Error}
      (hnext : r.expected = i :: rest) (hset : r.source.next.1 = .error e) :
      Outcome db maps ⟨i, .error e, r, { r with source := r.source.next.2 }⟩

/-- A read that asked the source got what the source gave. -/
theorem set?_of_asked {x : Reading ι E} (h : x.after.source = x.before.source.next.2) :
    x.set? = x.before.source.nextSet? := by
  rw [set?, h]
  exact if_pos (Nat.lt_succ_self x.before.source.pulls)

/-- A read that did not ask got nothing. -/
theorem set?_of_unasked {x : Reading ι E} (h : x.after = x.before) : x.set? = none := by
  rw [set?, h, if_neg (Nat.lt_irrefl _)]

namespace Outcome

variable {σ : Type} {db : Database σ ι E} {maps : (i : ι) → Except Error (ClassMap (E i))}
  {x : Reading ι E}

/-- The source is asked once or not at all, and the read gets what it gave. -/
theorem exists_source (h : x.Outcome db maps) :
    ∃ count ≤ 1, x.after.source = x.before.source.after count
      ∧ x.set?.toList = x.before.source.given count := by
  cases h with
  | misuse hnext he => exact ⟨0, Nat.zero_le 1, rfl, by rw [set?_of_unasked rfl]; rfl⟩
  | set | ended | failed =>
      exact ⟨1, Nat.le_refl 1, rfl, by rw [set?_of_asked rfl]; exact (List.append_nil _).symm⟩

/-- What was expected is what was read and what is still expected. -/
theorem expected_eq (h : x.Outcome db maps) :
    x.before.expected = x.set?.toList.map (fun _ => x.entity) ++ x.after.expected := by
  cases h with
  | misuse hnext he =>
      rw [set?_of_unasked rfl]
      rfl
  | set hnext hset =>
      rw [set?_of_asked rfl, SetSource.nextSet?, hset]
      exact hnext
  | ended hnext hset he =>
      rw [set?_of_asked rfl, SetSource.nextSet?, hset]
      rfl
  | failed hnext hset =>
      rw [set?_of_asked rfl, SetSource.nextSet?, hset]
      rfl

/-- The number of entities to be read falls by one if there was a set, and stays otherwise. -/
theorem remaining_eq (h : x.Outcome db maps) :
    x.before.remaining = x.after.remaining + x.set?.toList.length := by
  rw [MultipleReader.remaining, h.expected_eq, List.length_append, List.length_map, Nat.add_comm]
  rfl

end Outcome

end Reading

/-! ## Rows of reads -/

namespace Database

variable {σ ι : Type} {E : ι → Type} [DecidableEq ι] (db : Database σ ι E)

/-- Reads of some entities, one after another, and the reader after them.  A read that fails does not
end the row. -/
def readings : List ι → MultipleReader ι → Session σ ι E → List (Reading ι E) × MultipleReader ι
  | [], r, _ => ([], r)
  | i :: is, r, s =>
    match (db.readNext i).run r s with
    | ((result, r'), s') =>
      (⟨i, result, r, r'⟩ :: (readings is r' s').1, (readings is r' s').2)

/-- What is known of a row of reads, of the reader `r` before it and the reader `r'` after it. -/
structure InOrder (maps : (i : ι) → Except Error (ClassMap (E i))) (reads : List ι)
    (r : MultipleReader ι) (log : List (Reading ι E)) (r' : MultipleReader ι) : Prop where
  entities : log.map Reading.entity = reads
  /-- Each read finds the reader as the one before it has left it. -/
  linked : log.map Reading.before ++ [r'] = r :: log.map Reading.after
  outcome : ∀ x ∈ log, x.Outcome db maps
  /-- No read asks the source more than once. -/
  pulls : ∀ x ∈ log, x.after.source.pulls ≤ x.before.source.pulls + 1
  remaining : ∀ x ∈ log, x.before.remaining = x.after.remaining + x.set?.toList.length
  /-- The entities are read in the order in which they were asked for. -/
  expected : r.expected = (Reading.delivered log).map Prod.fst ++ r'.expected
  /-- Each of the sets that the source gave is read once, in the order in which they came. -/
  sets : ∃ count, r'.source = r.source.after count
    ∧ (Reading.delivered log).map Prod.snd = r.source.given count

variable {db}

/-- One read comes to one of its outcomes, and leaves the class maps as they are. -/
theorem exists_outcome (db : Database σ ι E) (i : ι) (r : MultipleReader ι) (s : Session σ ι E) :
    ∃ result r' s', (db.readNext i).run r s = ((result, r'), s')
      ∧ db.mapOf s'.cache = db.mapOf s.cache
      ∧ Reading.Outcome db (db.mapOf s.cache) ⟨i, result, r, r'⟩ := by
  cases hr : r.expected with
  | nil =>
      refine ⟨_, r, s, Editing.run_bind_of_error (db.run_takeSet_of_nil i hr s) _, rfl,
        .misuse ?_ rfl⟩
      rw [hr]
      exact nofun
  | cons j rest =>
      by_cases hj : j = i
      · subst hj
        have htake := db.run_takeSet_of_head hr s
        cases hset : r.source.next.1 with
        | error e =>
            rw [hset] at htake
            exact ⟨_, _, s, Editing.run_bind_of_error htake _, rfl, .failed hr hset⟩
        | ok set? =>
            rw [hset] at htake
            cases set? with
            | none => exact ⟨_, _, s, Editing.run_bind_of_error htake _, rfl, .ended hr hset rfl⟩
            | some set =>
                obtain ⟨builds, hmap⟩ := db.run_liftClassMap j
                  ({ r with expected := rest, source := r.source.next.2 } : MultipleReader ι) s
                refine ⟨_, _, { s with cache := db.cacheWith s.cache j, builds := builds },
                  (Editing.run_bind_of_ok htake _).trans ?_, db.mapOf_cacheWith s.cache j,
                  .set hr hset⟩
                cases hm : db.mapOf s.cache j with
                | error e =>
                    rw [hm] at hmap
                    exact Editing.run_bind_of_error hmap _
                | ok m =>
                    rw [hm] at hmap
                    exact Editing.run_bind_of_ok hmap _
      · refine ⟨_, r, s, Editing.run_bind_of_error (db.run_takeSet_of_ne hr hj s) _, rfl,
          .misuse ?_ rfl⟩
        rw [hr]
        exact fun h => hj (Option.some.inj h)

/-- **Every row of reads is in order**, from whatever reader it starts. -/
theorem readings_inOrder (reads : List ι) (r : MultipleReader ι) (s : Session σ ι E) :
    db.InOrder (db.mapOf s.cache) reads r (db.readings reads r s).1 (db.readings reads r s).2 := by
  induction reads generalizing r s with
  | nil =>
      rw [readings]
      exact ⟨rfl, rfl, by simp, by simp, by simp, rfl, 0, rfl, rfl⟩
  | cons i reads ih =>
      obtain ⟨result, r₁, s₁, hrun, hmaps, houtcome⟩ := exists_outcome db i r s
      have hrest := ih r₁ s₁
      rw [hmaps] at hrest
      obtain ⟨count, hcount, hsource, hset⟩ := houtcome.exists_source
      obtain ⟨counts, hsources, hsets⟩ := hrest.sets
      have hreadings : db.readings (i :: reads) r s
          = (⟨i, result, r, r₁⟩ :: (db.readings reads r₁ s₁).1, (db.readings reads r₁ s₁).2) := by
        rw [readings, hrun]
      rw [hreadings]
      constructor
      case entities => exact congrArg (i :: ·) hrest.entities
      case linked => exact congrArg (r :: ·) hrest.linked
      case outcome => exact List.forall_mem_cons.mpr ⟨houtcome, hrest.outcome⟩
      case pulls =>
        refine List.forall_mem_cons.mpr ⟨?_, hrest.pulls⟩
        rw [hsource]
        exact Nat.add_le_add_left hcount _
      case remaining => exact List.forall_mem_cons.mpr ⟨houtcome.remaining_eq, hrest.remaining⟩
      case expected =>
        rw [Reading.delivered_cons, List.map_append, List.map_map, List.append_assoc,
          ← hrest.expected]
        exact houtcome.expected_eq
      case sets =>
        refine ⟨count + counts, ?_, ?_⟩
        · rw [hsources, hsource, SetSource.after_after]
        · rw [Reading.delivered_cons, List.map_append, List.map_map, hsets, hsource,
            SetSource.given_add, ← hset]
          exact congrArg (· ++ _) (List.map_id _)

/-- A reader expects the entities of its requests. -/
theorem expected_of_getMultiple {requests : List (SelectRequest ι)} {r : MultipleReader ι}
    {s s' : Session σ ι E} (h : (db.getMultiple requests).run s = (.ok r, s')) :
    r.expected = requests.map (·.entity) := by
  obtain ⟨-, s₁, -, h⟩ := Action.run_bind_eq_ok h
  split at h
  · obtain ⟨⟨statements, ps⟩, s₂, -, h⟩ := Action.run_bind_eq_ok h
    obtain ⟨source, s₃, -, h⟩ := Action.run_bind_eq_ok h
    obtain ⟨hr, -⟩ := Prod.mk.inj h
    rw [← Except.ok.inj hr]
  · obtain ⟨sets, s₂, -, h⟩ := Action.run_bind_eq_ok h
    obtain ⟨hr, -⟩ := Prod.mk.inj h
    rw [← Except.ok.inj hr]

/-- **Sets and entities are never mispaired.**  Whatever is read from the reader of several requests,
and whatever its source gives: a read takes the next set as the entity asked for at that place, or
it takes no set and leaves the entities as they are.  So the sets that the source gave were read in
order, each once and each as its own entity. -/
theorem getMultiple_inOrder {requests : List (SelectRequest ι)} {r : MultipleReader ι}
    {s s' : Session σ ι E} (h : (db.getMultiple requests).run s = (.ok r, s')) (reads : List ι) :
    r.expected = requests.map (·.entity)
      ∧ db.InOrder (db.mapOf s'.cache) reads r (db.readings reads r s').1
          (db.readings reads r s').2 :=
  ⟨expected_of_getMultiple h, readings_inOrder reads r s'⟩

/-! ## A source that fails once -/

/-- A connection whose replies to several questions are a set, a failure and another set. -/
def falteringConnection : Connection Unit where
  name := "Faltering"
  execute _ b := (.ok 1, b)
  query _ b := (.ok .empty, b)
  queryMultiple _ b :=
    (.ok (.ofList [.ok ⟨["Text"], [[.text "Rome"]]⟩, .error (.connection .execution "lost"),
      .ok ⟨["Text"], [[.text "Ann"]]⟩]), b)
  start _ b := (.ok (), b)
  commit b := (.ok (), b)
  rollback b := (.ok (), b)
  isActive _ := false

/-- The places are read, then the names, between a read for the wrong entity, a failure, and a read
past the end. -/
theorem getMultiple_inOrder_registry :
    let db := (registry falteringConnection).withBatches true
    let s : Session Unit Bool fun _ => Value := .new ()
    let reads := [false, true, false, false, true]
    ∃ r s', (db.getMultiple placesAndNames).run s = (.ok r, s')
      ∧ r.expected = [true, false]
      ∧ db.InOrder (db.mapOf s'.cache) reads r (db.readings reads r s').1
          (db.readings reads r s').2
      ∧ Reading.delivered (db.readings reads r s').1
        = [(true, ⟨["Text"], [[.text "Rome"]]⟩), (false, ⟨["Text"], [[.text "Ann"]]⟩)] := by
  intro db s reads
  obtain ⟨r, s', hrun⟩ : ∃ r s', (db.getMultiple placesAndNames).run s = (.ok r, s') := ⟨_, _, rfl⟩
  obtain ⟨hexpected, hinOrder⟩ := getMultiple_inOrder hrun reads
  refine ⟨r, s', hrun, hexpected, hinOrder, ?_⟩
  obtain ⟨hr, rfl⟩ := Prod.mk.inj hrun
  obtain rfl := Except.ok.inj hr
  rfl

end Database

end SqlRecords
