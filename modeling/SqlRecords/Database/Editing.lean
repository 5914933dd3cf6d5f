import SqlRecords.Database.Basic

/-!
# Editing

Some operations change a record while they work: an insert puts generated keys into it. What
they put in stays in when they fail later, so such an operation has the record as a second state
beside the session.

* `Editing` — an operation that edits a value of type `τ`.
* `Editing.forEach` — the same edit of every element of a list, up to the first failure.
-/

namespace SqlRecords

/-- An operation on a session that edits a value of type `τ`. -/
abbrev Editing (σ ι : Type) (E : ι → Type) (τ α : Type) : Type :=
  ExceptT Error (StateT τ (StateM (Session σ ι E))) α

namespace Editing

variable {σ ι : Type} {E : ι → Type} {τ α : Type}

/-- The operation with the given effect. -/
def ofStep (f : τ → Session σ ι E → (Except Error α × τ) × Session σ ι E) :
    Editing σ ι E τ α :=
  ExceptT.mk f

/-- What the operation gives, the edited value, and the session after it. -/
def run (x : Editing σ ι E τ α) (a : τ) (s : Session σ ι E) :
    (Except Error α × τ) × Session σ ι E :=
  StateT.run (StateT.run (ExceptT.run x) a) s

/-- An operation that edits nothing. -/
def ofAction (x : Action σ ι E α) : Editing σ ι E τ α :=
  ofStep fun a s => (((x.run s).1, a), (x.run s).2)

instance : MonadLift (Action σ ι E) (Editing σ ι E τ) := ⟨ofAction⟩

/-- An operation that leaves both states alone. -/
def ofExcept (r : Except Error α) : Editing σ ι E τ α :=
  ofStep fun a s => ((r, a), s)

/-- The value as it is now. -/
def current : Editing σ ι E τ τ :=
  ofStep fun a s => ((.ok a, a), s)

/-- Puts another value in place of the edited one. -/
def replace (a : τ) : Editing σ ι E τ Unit :=
  ofStep fun _ s => ((.ok (), a), s)

/-- Edits every element, from the front, until one edit fails. -/
def forEachStep (x : Editing σ ι E τ Unit) :
    List τ → Session σ ι E → (Except Error Unit × List τ) × Session σ ι E
  | [], s => ((.ok (), []), s)
  | a :: as, s =>
    match x.run a s with
    | ((.error e, a'), s') => ((.error e, a' :: as), s')
    | ((.ok _, a'), s') =>
      (((forEachStep x as s').1.1, a' :: (forEachStep x as s').1.2), (forEachStep x as s').2)

/-- Edits every element of a list. -/
def forEach (x : Editing σ ι E τ Unit) : Editing σ ι E (List τ) Unit :=
  ofStep (forEachStep x)

@[simp] theorem run_ofStep (f : τ → Session σ ι E → (Except Error α × τ) × Session σ ι E) (a : τ)
    (s : Session σ ι E) : (ofStep f).run a s = f a s := rfl

@[simp] theorem run_pure (b : α) (a : τ) (s : Session σ ι E) :
    run (pure b) a s = ((.ok b, a), s) := rfl

/-- A sequence stops at the first failure; the edits before it stay. -/
theorem run_bind {β : Type} (x : Editing σ ι E τ α) (f : α → Editing σ ι E τ β) (a : τ)
    (s : Session σ ι E) :
    run (x >>= f) a s =
      match x.run a s with
      | ((.ok b, a'), s') => (f b).run a' s'
      | ((.error e, a'), s') => ((.error e, a'), s') := by
  unfold run ExceptT.run StateT.run
  simp only [bind, ExceptT.bind, ExceptT.mk, ExceptT.bindCont, StateT.bind]
  rcases x a s with ⟨⟨_ | _, _⟩, _⟩ <;> rfl

theorem run_bind_of_ok {β : Type} {x : Editing σ ι E τ α} {a a' : τ} {s s' : Session σ ι E} {b : α}
    (h : x.run a s = ((.ok b, a'), s')) (f : α → Editing σ ι E τ β) :
    run (x >>= f) a s = (f b).run a' s' := by
  rw [run_bind, h]

theorem run_bind_of_error {β : Type} {x : Editing σ ι E τ α} {a a' : τ} {s s' : Session σ ι E}
    {e : Error} (h : x.run a s = ((.error e, a'), s')) (f : α → Editing σ ι E τ β) :
    run (x >>= f) a s = ((.error e, a'), s') := by
  rw [run_bind, h]

/-- A sequence that succeeds has passed through a success of its first part. -/
theorem run_bind_eq_ok {β : Type} {x : Editing σ ι E τ α} {f : α → Editing σ ι E τ β} {a a' : τ}
    {s s' : Session σ ι E} {c : β} (h : run (x >>= f) a s = ((.ok c, a'), s')) :
    ∃ b a₁ s₁, x.run a s = ((.ok b, a₁), s₁) ∧ (f b).run a₁ s₁ = ((.ok c, a'), s') := by
  rw [run_bind] at h
  rcases hx : x.run a s with ⟨⟨e | b, a₁⟩, s₁⟩ <;> rw [hx] at h
  · exact absurd (congrArg (·.1.1) h) nofun
  · exact ⟨b, a₁, s₁, rfl, h⟩

end Editing

end SqlRecords
