import SqlRecords.Database.Editing

/-!
# Class maps in a session

Asking for a class map changes the cache and nothing that anyone could see: the class map of every
entity is the same afterwards.

* `Database.mapOf` — the class map of an entity, as the session with a given cache sees it.
* `Database.cacheWith`, `Database.cacheAfter` — the cache after one entity, or several, were asked
  for.
* `Database.mapOf_cacheWith` — what does not change.
-/

namespace SqlRecords.Database

variable {σ ι : Type} {E : ι → Type} [DecidableEq ι] (db : Database σ ι E)

/-- The class map of an entity: the one in the cache, or else the one that is built. -/
def mapOf (c : ClassMapCache ι E) (i : ι) : Except Error (ClassMap (E i)) :=
  match c.find? i with
  | some m => .ok m
  | none => (db.entities i).classMap

/-- The cache after the class map of an entity was asked for. -/
def cacheWith (c : ClassMapCache ι E) (i : ι) : ClassMapCache ι E :=
  match c.find? i, (db.entities i).classMap with
  | none, .ok m => c.insert i m
  | _, _ => c

/-- The cache after the class maps of several entities were asked for, in order. -/
def cacheAfter (c : ClassMapCache ι E) (is : List ι) : ClassMapCache ι E := is.foldl db.cacheWith c

/-- Asking for a class map has an effect on the cache and on the record of builds only. -/
theorem run_classMap (i : ι) (s : Session σ ι E) :
    ∃ builds, (db.classMap i).run s
      = (db.mapOf s.cache i, { s with cache := db.cacheWith s.cache i, builds := builds }) := by
  rw [classMap, Action.run_ofStep, mapOf, cacheWith]
  cases s.cache.find? i with
  | some m => exact ⟨s.builds, rfl⟩
  | none => cases (db.entities i).classMap <;> exact ⟨s.builds ++ [i], rfl⟩

/-- The class maps that a session sees do not depend on which of them were built before. -/
theorem mapOf_cacheWith (c : ClassMapCache ι E) (i : ι) :
    db.mapOf (db.cacheWith c i) = db.mapOf c := by
  funext j
  cases hfind : c.find? i with
  | some m => rw [cacheWith, hfind]
  | none =>
      cases hmap : (db.entities i).classMap with
      | error e => rw [cacheWith, hfind, hmap]
      | ok m =>
          rw [cacheWith, hfind, hmap]
          by_cases hij : i = j
          · subst hij
            rw [mapOf, mapOf, ClassMapCache.find?_insert_self, hfind, hmap]
          · rw [mapOf, mapOf, ClassMapCache.find?_insert_of_ne c m hij]

end SqlRecords.Database
