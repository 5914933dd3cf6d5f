import Mathlib.Data.List.Dedup
import Mathlib.Data.List.DropRight
import SqlRecords.Proofs.Database.ClassMaps

/-!
# The cache of class maps

A class map is built when it is first asked for, and kept until all of them are forgotten.  Nobody
can tell it from one that is built each time, apart from the number of builds: a class map that is
kept is the one that would be built.  A new one is put in front of the others and nothing is taken
away, so the size of the cache is the number of entities only because no entity is ever put in
twice.

* `CacheUse`, `CacheAnswer` — what the cache is asked, and what it answers.
* `CacheAnswer.given` — the entities whose class maps were given since the cache was cleared last.
* `Database.Keeps` — the cache has the class maps of these entities, each once, as they would be
  built.
* **`Database.classMap_transparent`** — what is answered after any uses, what is built and how many
  class maps are kept.
-/

namespace SqlRecords

/-- A use of the cache: the class map of an entity is asked for, or all class maps are forgotten. -/
inductive CacheUse (ι : Type) where
  | request (i : ι)
  | clear

/-- The answer to a use of the cache. -/
inductive CacheAnswer (ι : Type) (E : ι → Type) where
  | classMap (i : ι) (result : Except Error (ClassMap (E i)))
  | cleared

variable {σ ι : Type} {E : ι → Type}

/-! ## Answers -/

namespace CacheAnswer

/-- Whether everything was forgotten. -/
def isCleared : CacheAnswer ι E → Bool
  | classMap .. => false
  | cleared => true

/-- The entity whose class map was given. -/
def given? : CacheAnswer ι E → Option ι
  | classMap i (.ok _) => some i
  | classMap _ (.error _) | cleared => none

/-- The entities whose class maps were given since the cache was cleared last, each as often as it
was. -/
def given (answers : List (CacheAnswer ι E)) : List ι :=
  (answers.rtakeWhile fun answer => !answer.isCleared).filterMap given?

theorem given_cleared (answers : List (CacheAnswer ι E)) : given (answers ++ [cleared]) = [] := by
  rw [given, List.rtakeWhile_concat_neg _ _ _ Bool.false_ne_true]
  rfl

theorem mem_given_ok {answers : List (CacheAnswer ι E)} {i j : ι} {m : ClassMap (E i)} :
    j ∈ given (answers ++ [classMap i (.ok m)]) ↔ j ∈ given answers ∨ j = i := by
  rw [given, List.rtakeWhile_concat_pos _ _ _ rfl, List.filterMap_append, List.mem_append,
    ← List.mem_singleton]
  rfl

theorem given_error (answers : List (CacheAnswer ι E)) (i : ι) (e : Error) :
    given (answers ++ [classMap i (.error e)]) = given answers := by
  rw [given, List.rtakeWhile_concat_pos _ _ _ rfl, List.filterMap_append]
  exact List.append_nil _

end CacheAnswer

/-! ## Entries -/

variable [DecidableEq ι]

namespace ClassMapCache

theorem find?_eq_none_iff (c : ClassMapCache ι E) (i : ι) :
    c.find? i = none ↔ i ∉ c.entries.map Sigma.fst := by
  rw [find?]
  induction c.entries with
  | nil => exact iff_of_true rfl List.not_mem_nil
  | cons entry rest ih =>
      obtain ⟨j, m⟩ := entry
      rw [lookup, List.map_cons, List.mem_cons, not_or, ← ih]
      by_cases h : j = i
      · rw [dif_pos h]
        exact iff_of_false (Option.some_ne_none _) fun hne => hne.1 h.symm
      · rw [dif_neg h]
        exact (and_iff_right fun heq => h heq.symm).symm

end ClassMapCache

namespace Database

variable (db : Database σ ι E)

/-! ## One use -/

/-- The answer of a database without a cache. -/
def freshAnswer : CacheUse ι → CacheAnswer ι E
  | .request i => .classMap i (db.entities i).classMap
  | .clear => .cleared

/-- The answer to one use, and the session after it. -/
def use (s : Session σ ι E) : CacheUse ι → CacheAnswer ι E × Session σ ι E
  | .request i => (.classMap i ((db.classMap i).run s).1, ((db.classMap i).run s).2)
  | .clear => (.cleared, (db.clearCache.run s).2)

/-- The answers to some uses, one after the other, and the session after them. -/
def useEach (s : Session σ ι E) : List (CacheUse ι) → List (CacheAnswer ι E) × Session σ ι E
  | [] => ([], s)
  | u :: us =>
    ((db.use s u).1 :: (useEach (db.use s u).2 us).1, (useEach (db.use s u).2 us).2)

/-- The cache has the class maps that were given since it was cleared last: every entity once, with
the class map that would be built. -/
structure Keeps (answers : List (CacheAnswer ι E)) (c : ClassMapCache ι E) : Prop where
  once : (c.entries.map Sigma.fst).Nodup
  given : ∀ i, i ∈ c.entries.map Sigma.fst ↔ i ∈ CacheAnswer.given answers
  built : ∀ i m, c.find? i = some m → (db.entities i).classMap = .ok m

theorem keeps_empty : db.Keeps [] .empty where
  once := .nil
  given _ := Iff.rfl
  built := nofun

/-- A class map that is kept is given as it is. -/
theorem run_classMap_of_some {i : ι} {m : ClassMap (E i)} {s : Session σ ι E}
    (h : s.cache.find? i = some m) : (db.classMap i).run s = (.ok m, s) := by
  rw [classMap, Action.run_ofStep, h]

/-- A class map that is not kept is built. -/
theorem run_classMap_of_none {i : ι} {s : Session σ ι E} (h : s.cache.find? i = none) :
    (db.classMap i).run s = ((db.entities i).classMap,
      { s with cache := db.cacheWith s.cache i, builds := s.builds ++ [i] }) := by
  rw [classMap, Action.run_ofStep, cacheWith, h]
  cases (db.entities i).classMap <;> rfl

section Keeps

variable {db} {answers : List (CacheAnswer ι E)} {s : Session σ ι E}

/-- The number of class maps is that of the entities. -/
theorem Keeps.size_eq {c : ClassMapCache ι E} (h : db.Keeps answers c) :
    c.size = (CacheAnswer.given answers).dedup.length := by
  have hperm : (c.entries.map Sigma.fst).Perm (CacheAnswer.given answers).dedup :=
    (List.perm_ext_iff_of_nodup h.once (List.nodup_dedup _)).mpr fun i => by
      rw [List.mem_dedup, h.given i]
  rw [ClassMapCache.size, ← hperm.length_eq, List.length_map]

theorem Keeps.find?_eq_none_iff {c : ClassMapCache ι E} (h : db.Keeps answers c) (i : ι) :
    c.find? i = none ↔ i ∉ CacheAnswer.given answers := by
  rw [ClassMapCache.find?_eq_none_iff, h.given i]

theorem Keeps.mem_given {c : ClassMapCache ι E} (h : db.Keeps answers c) {i : ι}
    {m : ClassMap (E i)} (hm : c.find? i = some m) : i ∈ CacheAnswer.given answers := by
  by_contra hi
  exact absurd (((h.find?_eq_none_iff i).mpr hi).symm.trans hm) (Option.some_ne_none m).symm

/-- A class map that was given once more. -/
theorem Keeps.again {c : ClassMapCache ι E} (h : db.Keeps answers c) {i : ι} {m : ClassMap (E i)}
    (hm : c.find? i = some m) : db.Keeps (answers ++ [.classMap i (.ok m)]) c where
  once := h.once
  built := h.built
  given j := by
    rw [h.given j, CacheAnswer.mem_given_ok]
    exact ⟨.inl, fun hj => hj.elim id fun hj => hj ▸ h.mem_given hm⟩

/-- A class map that was built and put into the cache. -/
theorem Keeps.insert {c : ClassMapCache ι E} (h : db.Keeps answers c) {i : ι} {m : ClassMap (E i)}
    (hnone : c.find? i = none) (hm : (db.entities i).classMap = .ok m) :
    db.Keeps (answers ++ [.classMap i (.ok m)]) (c.insert i m) where
  once := List.nodup_cons.mpr ⟨(c.find?_eq_none_iff i).mp hnone, h.once⟩
  given j := by
    rw [ClassMapCache.insert, List.map_cons, List.mem_cons, h.given j, CacheAnswer.mem_given_ok]
    exact or_comm
  built j m' hfind := by
    by_cases hij : i = j
    · subst hij
      rw [ClassMapCache.find?_insert_self] at hfind
      rw [hm, Option.some.inj hfind]
    · rw [ClassMapCache.find?_insert_of_ne c m hij] at hfind
      exact h.built j m' hfind

/-- A failure leaves the cache as it was. -/
theorem Keeps.failed {c : ClassMapCache ι E} (h : db.Keeps answers c) (i : ι) (e : Error) :
    db.Keeps (answers ++ [.classMap i (.error e)]) c where
  once := h.once
  built := h.built
  given j := by rw [h.given j, CacheAnswer.given_error]

theorem keeps_cleared : db.Keeps (answers ++ [.cleared]) .empty where
  once := .nil
  built := nofun
  given i := by
    rw [CacheAnswer.given_cleared]
    rfl

/-- **What one use does**: it is answered as without a cache, and the cache keeps what it should. -/
theorem Keeps.use (h : db.Keeps answers s.cache) (u : CacheUse ι) :
    (db.use s u).1 = db.freshAnswer u
      ∧ db.Keeps (answers ++ [db.freshAnswer u]) (db.use s u).2.cache := by
  cases u with
  | clear => exact ⟨rfl, keeps_cleared⟩
  | request i =>
      rw [Database.use, freshAnswer]
      cases hfind : s.cache.find? i with
      | some m =>
          rw [db.run_classMap_of_some hfind, h.built i m hfind]
          exact ⟨rfl, h.again hfind⟩
      | none =>
          rw [db.run_classMap_of_none hfind]
          refine ⟨rfl, ?_⟩
          rw [cacheWith, hfind]
          cases hm : (db.entities i).classMap with
          | ok m => exact h.insert hfind hm
          | error e => exact h.failed i e

/-- What several uses do. -/
theorem Keeps.useEach (us : List (CacheUse ι)) (h : db.Keeps answers s.cache) :
    (db.useEach s us).1 = us.map db.freshAnswer
      ∧ db.Keeps (answers ++ us.map db.freshAnswer) (db.useEach s us).2.cache := by
  induction us generalizing answers s with
  | nil =>
      rw [List.map_nil, List.append_nil]
      exact ⟨rfl, h⟩
  | cons u us ih =>
      obtain ⟨hanswer, hfirst⟩ := h.use u
      obtain ⟨hanswers, hrest⟩ := ih hfirst
      rw [Database.useEach, List.map_cons, hanswer, hanswers]
      rw [List.append_assoc] at hrest
      exact ⟨rfl, hrest⟩

end Keeps

/-! ## All uses -/

/-- **The cache cannot be noticed.**  After any uses of a new session, every class map that was
asked for is the one that its entity builds, or its error.  There are as many class maps in the
cache as there are entities whose class maps were given since it was cleared last.  A further
request is answered by what the entity builds too.  It is built exactly if it was not given since
then, so a failure is built again; and if it was given, nothing depends on what would be built. -/
theorem classMap_transparent (backend : σ) (uses : List (CacheUse ι)) :
    let answers := (db.useEach (.new backend) uses).1
    let s := (db.useEach (.new backend) uses).2
    answers = uses.map db.freshAnswer
      ∧ s.cache.size = (CacheAnswer.given answers).dedup.length
      ∧ ∀ i, ((db.classMap i).run s).1 = (db.entities i).classMap
        ∧ ((db.classMap i).run s).2.builds
          = (if i ∈ CacheAnswer.given answers then s.builds else s.builds ++ [i])
        ∧ (i ∈ CacheAnswer.given answers →
          ∀ db' : Database σ ι E, (db'.classMap i).run s = (db.classMap i).run s) := by
  intro answers s
  have hnew : db.Keeps [] (Session.new backend).cache := db.keeps_empty
  obtain ⟨hanswers, hkeeps⟩ := hnew.useEach uses
  rw [List.nil_append, ← hanswers] at hkeeps
  refine ⟨hanswers, hkeeps.size_eq, fun i => ?_⟩
  cases hfind : s.cache.find? i with
  | none =>
      have hi : i ∉ CacheAnswer.given answers := (hkeeps.find?_eq_none_iff i).mp hfind
      rw [db.run_classMap_of_none hfind, if_neg hi]
      exact ⟨rfl, rfl, fun hgiven => absurd hgiven hi⟩
  | some m =>
      rw [db.run_classMap_of_some hfind, if_pos (hkeeps.mem_given hfind)]
      exact ⟨(hkeeps.built i m hfind).symm, rfl, fun _ db' => db'.run_classMap_of_some hfind⟩

end Database

end SqlRecords
