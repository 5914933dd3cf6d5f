import SqlRecords.Value.Basic

/-!
# Generated keys

Streams of values for the key columns that a generator fills; the value at `n` is the one given
out after `n` others.

* `Surrogate.timeOrdered` — identifiers that grow with the clock, and inside one millisecond with
  the place in the stream.
* `Surrogate.random` — identifiers of random bits.
* `Surrogate.counting` — given values first, then the identifiers one, two, three, …
-/

namespace SqlRecords.Surrogate

/-- Identifiers in the order of time, by the milliseconds that a clock shows. -/
def timeOrdered (clock : Nat → Nat) (n : Nat) : Value := .uuid (.timeOrdered (clock n) n)

/-- Identifiers of random bits. -/
def random (bits : Nat → Nat) (n : Nat) : Value := .uuid (.random (bits n))

/-- The given values, then the identifiers from one on. -/
def counting (given : List Value) (n : Nat) : Value :=
  given.getD n (.uuid (.ofNat (n - given.length + 1)))

end SqlRecords.Surrogate
