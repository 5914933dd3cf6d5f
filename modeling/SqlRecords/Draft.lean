import SqlRecords.Error

/-!
# Drafts

A statement is drafted piece by piece, from left to right. Each value that the text needs goes
into the parameters and leaves its placeholder in the text, so the order of the parameters is the
order of the placeholders. What was bound stays bound when a later piece fails.

* `Draft` — a piece in the making.
* `Draft.place` — binds a value.
-/

namespace SqlRecords

/-- A piece of a statement that may bind parameters, and may fail. -/
abbrev Draft (α : Type) : Type := ExceptT Error (StateM Parameters) α

namespace Draft

/-- Binds a value and gives the placeholder that stands for it. -/
def place (v : Value) : Draft String := do
  let ps ← get
  set (ps.push v)
  return ps.next

/-- The piece and the parameters after drafting it. -/
def run {α : Type} (d : Draft α) (ps : Parameters) : Except Error α × Parameters :=
  StateT.run (ExceptT.run d) ps

/-- A piece that binds nothing. -/
def ofExcept {α : Type} : Except Error α → Draft α
  | .ok a => pure a
  | .error e => throw e

@[simp] theorem run_pure {α : Type} (a : α) (ps : Parameters) :
    run (pure a) ps = (.ok a, ps) := rfl

@[simp] theorem run_throw {α : Type} (e : Error) (ps : Parameters) :
    run (throw e : Draft α) ps = (.error e, ps) := rfl

@[simp] theorem run_place (v : Value) (ps : Parameters) :
    run (place v) ps = (.ok ps.next, ps.push v) := rfl

@[simp] theorem ofExcept_ok {α : Type} (a : α) : ofExcept (.ok a) = pure a := rfl

/-- A sequence stops at the first failure and keeps what was bound before it. -/
theorem run_bind {α β : Type} (d : Draft α) (f : α → Draft β) (ps : Parameters) :
    run (d >>= f) ps =
      match run d ps with
      | (.ok a, ps') => run (f a) ps'
      | (.error e, ps') => (.error e, ps') := by
  unfold run ExceptT.run StateT.run
  simp only [bind, ExceptT.bind, ExceptT.mk, ExceptT.bindCont, StateT.bind]
  rcases d ps with ⟨_ | _, _⟩ <;> rfl

/-- After a success the sequence goes on. -/
theorem run_bind_of_ok {α β : Type} {d : Draft α} {ps qs : Parameters} {a : α}
    (h : run d ps = (.ok a, qs)) (f : α → Draft β) : run (d >>= f) ps = run (f a) qs := by
  rw [run_bind, h]

/-- After a failure it does not. -/
theorem run_bind_of_error {α β : Type} {d : Draft α} {ps : Parameters} {e : Error}
    (h : (run d ps).1 = .error e) (f : α → Draft β) : (run (d >>= f) ps).1 = .error e := by
  rw [run_bind]
  rcases hd : run d ps with ⟨e' | a, qs⟩ <;> rw [hd] at h
  · exact congrArg Except.error (Except.error.inj h)
  · exact absurd h (by simp)

/-- A sequence that succeeds has passed through a success of its first part. -/
theorem run_bind_eq_ok {α β : Type} {d : Draft α} {f : α → Draft β} {ps qs : Parameters} {b : β}
    (h : run (d >>= f) ps = (.ok b, qs)) :
    ∃ a rs, run d ps = (.ok a, rs) ∧ run (f a) rs = (.ok b, qs) := by
  rw [run_bind] at h
  rcases hd : run d ps with ⟨e | a, rs⟩ <;> rw [hd] at h
  · exact absurd (congrArg Prod.fst h) nofun
  · exact ⟨a, rs, rfl, h⟩

end Draft

end SqlRecords
