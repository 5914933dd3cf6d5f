import Mathlib.Data.List.Basic
import SqlRecords.Database.Transaction
import SqlRecords.Script

/-!
# The discipline of transactions

A unit of work can fail in four places: at its begin, in the work, at the commit and at a rollback.
What it calls, and what it answers, depends on which of them fail, and on whether the connection
still has a transaction open after a failure.  All of that is read off one list here: the attempts
of the unit, each with its reply and with the state in which it leaves the connection.

* `Database.Made` — a row of attempts that leads from one session to another.
* `Finish` — every way in which a unit of work can be ended by a call.
* `Database.Disciplined` — what is said of a run: its attempts before and after the work, and its
  answer.
* **`Database.runInTransaction_disciplined`** — every run is disciplined, whatever the work does, and
  so is every end of a unit of work that was begun by hand.
-/

namespace SqlRecords

/-- A call of a unit of work. -/
inductive UnitCall where
  | start (level : Isolation)
  | commit
  | rollback
deriving DecidableEq

def UnitCall.call : UnitCall → Call
  | start level => .start level
  | commit => .commit
  | rollback => .rollback

/-- A call that was made, with its reply. -/
structure Attempt where
  call : UnitCall
  reply : Except Error Unit
  /-- Whether a transaction is open after it. -/
  leavesOpen : Bool

def Attempt.Failed (x : Attempt) : Prop := ∃ e, x.reply = .error e

/-- What is asked of a connection: a begin opens a transaction, or fails and opens none; a commit or
a rollback that succeeds closes it.  One that fails may do either. -/
structure Connection.Transactional {σ : Type} (c : Connection σ) : Prop where
  start_ok : ∀ level b, (c.start level b).1 = .ok () → c.isActive (c.start level b).2 = true
  start_error : ∀ level b e, c.isActive b = false → (c.start level b).1 = .error e →
    c.isActive (c.start level b).2 = false
  commit_ok : ∀ b, (c.commit b).1 = .ok () → c.isActive (c.commit b).2 = false
  rollback_ok : ∀ b, (c.rollback b).1 = .ok () → c.isActive (c.rollback b).2 = false

namespace Database

variable {σ ι : Type} {E : ι → Type} {α : Type}

def transact (db : Database σ ι E) : UnitCall → Action σ ι E Unit
  | .start level => db.startTransaction level
  | .commit => db.commitTransaction
  | .rollback => db.rollbackTransaction

/-- The attempts that lead from one session to another, with nothing done in between. -/
inductive Made (db : Database σ ι E) : Session σ ι E → List Attempt → Session σ ι E → Prop
  | nil (s) : Made db s [] s
  | cons {c reply s s₁ s' as} (h : (db.transact c).run s = (reply, s₁)) (rest : Made db s₁ as s') :
      Made db s (⟨c, reply, db.isActive s₁⟩ :: as) s'

variable {db : Database σ ι E} {s s' : Session σ ι E} {c : UnitCall}

theorem calls_of_transact {reply : Except Error Unit} (h : (db.transact c).run s = (reply, s')) :
    s'.calls = s.calls ++ [c.call] := by
  cases c <;> cases h <;> rfl

/-- The attempts are what the log of the session shows. -/
theorem Made.calls_eq {as : List Attempt} (h : db.Made s as s') :
    s'.calls = s.calls ++ as.map fun x => x.call.call := by
  induction h with
  | nil s => simp
  | cons h rest ih =>
      rw [ih, calls_of_transact h, List.append_assoc]
      rfl

/-- A successful end closes the transaction. -/
theorem isActive_of_ok (h : db.connection.Transactional) (hc : ∀ level, c ≠ .start level)
    (hrun : (db.transact c).run s = (.ok (), s')) : db.isActive s' = false := by
  obtain ⟨hok, rfl⟩ := Prod.mk.inj hrun
  cases c with
  | start level => exact absurd rfl (hc level)
  | commit => exact h.commit_ok s.backend hok
  | rollback => exact h.rollback_ok s.backend hok

end Database

/-! ## The end of a unit of work -/

/-- The ways in which a unit of work ends by a call: the call succeeds; or it fails and closes the
transaction all the same; or it fails, leaves the transaction open, and is followed by a rollback. -/
inductive Finish (c : UnitCall) : List Attempt → Except Error Unit → (isOpen : Bool) → Prop
  | succeeded : Finish c [⟨c, .ok (), false⟩] (.ok ()) false
  | closed (e : Error) : Finish c [⟨c, .error e, false⟩] (.error e) false
  | undone (e : Error) :
      Finish c [⟨c, .error e, true⟩, ⟨.rollback, .ok (), false⟩] (.error e) false
  | stuck (e e' : Error) (isOpen : Bool) :
      Finish c [⟨c, .error e, true⟩, ⟨.rollback, .error e', isOpen⟩] (.error e) isOpen

namespace Database

variable {σ ι : Type} {E : ι → Type} {α : Type} {db : Database σ ι E} {s s' : Session σ ι E}

theorem abandon_of_closed (h : db.isActive s = false) : db.abandon s = s := by
  simp [abandon, h]

theorem abandon_of_open {reply : Except Error Unit} (h : db.isActive s = true)
    (hrun : (db.transact .rollback).run s = (reply, s')) : db.abandon s = s' := by
  rw [abandon, if_pos h]
  exact congrArg Prod.snd hrun

theorem run_finishBy_of_ok {x : Action σ ι E Unit} {u : Unit} (h : x.run s = (.ok u, s')) :
    (db.finishBy x).run s = (.ok u, s') := by
  rw [finishBy, Action.run_ofStep, h]

theorem run_finishBy_of_error {x : Action σ ι E Unit} {e : Error} (h : x.run s = (.error e, s')) :
    (db.finishBy x).run s = (.error e, db.abandon s') := by
  rw [finishBy, Action.run_ofStep, h]

/-- **What ending a unit of work by a call does.** -/
theorem exists_finish (h : db.connection.Transactional) {c : UnitCall}
    (hc : ∀ level, c ≠ .start level) (s : Session σ ι E) :
    ∃ as reply s', (db.finishBy (db.transact c)).run s = (reply, s')
      ∧ db.Made s as s' ∧ Finish c as reply (db.isActive s') := by
  rcases hrun : (db.transact c).run s with ⟨e | u, s₁⟩
  · rw [run_finishBy_of_error hrun]
    cases hactive : db.isActive s₁ with
    | false =>
        rw [abandon_of_closed hactive]
        refine ⟨_, _, s₁, rfl, .cons hrun (.nil s₁), ?_⟩
        rw [hactive]
        exact .closed e
    | true =>
        -- The transaction is still open, so the unit is rolled back once more.
        rcases hback : (db.transact .rollback).run s₁ with ⟨reply, s₂⟩
        rw [abandon_of_open hactive hback]
        refine ⟨_, _, s₂, rfl, .cons hrun (.cons hback (.nil s₂)), ?_⟩
        rw [hactive]
        cases reply with
        | error e' => exact .stuck e e' _
        | ok u =>
            rw [isActive_of_ok h (by simp) hback]
            exact .undone e
  · refine ⟨_, _, s₁, run_finishBy_of_ok hrun, .cons hrun (.nil s₁), ?_⟩
    rw [isActive_of_ok h hc hrun]
    exact .succeeded

theorem exists_commit (h : db.connection.Transactional) (s : Session σ ι E) :
    ∃ as reply s', db.commit.run s = (reply, s') ∧ db.Made s as s'
      ∧ Finish .commit as reply (db.isActive s') :=
  exists_finish h (c := .commit) (by simp) s

theorem exists_rollback (h : db.connection.Transactional) (s : Session σ ι E) :
    ∃ as reply s', db.rollback.run s = (reply, s') ∧ db.Made s as s'
      ∧ Finish .rollback as reply (db.isActive s') :=
  exists_finish h (c := .rollback) (by simp) s

end Database

/-- Attempts that end a unit of work in order, and leave a transaction open or not. -/
structure Orderly (as : List Attempt) (isOpen : Bool) : Prop where
  /-- Nothing is begun. -/
  no_start : ∀ x ∈ as, ∀ level, x.call ≠ .start level
  /-- After a commit that succeeded nothing is rolled back. -/
  commit_final : as.Pairwise fun x y => x.call = .commit → x.reply = .ok () → y.call ≠ .rollback
  rollbacks_le : as.countP (fun x => x.call = .rollback) ≤ 2
  /-- There is a second rollback only after one that failed and left the transaction open. -/
  second_rollback : as.Pairwise fun x y => x.call = .rollback → y.call = .rollback →
    x.Failed ∧ x.leavesOpen = true
  /-- A transaction is left open only if the last rollback failed. -/
  left_open : isOpen = true →
    ∃ x, (as.filter fun x => x.call = .rollback).getLast? = some x ∧ x.Failed

theorem Finish.orderly {c : UnitCall} (hc : ∀ level, c ≠ .start level) {as : List Attempt}
    {reply : Except Error Unit} {isOpen : Bool} (h : Finish c as reply isOpen) :
    Orderly as isOpen := by
  cases h with
  | succeeded => constructor <;> cases c <;> simp [hc]
  | closed e => constructor <;> cases c <;> simp [hc]
  | undone e => constructor <;> cases c <;> simp [hc, Attempt.Failed]
  | stuck e e' => constructor <;> cases c <;> simp [hc, Attempt.Failed]

/-! ## Runs -/

def Outcome.isDone {α : Type} : Outcome α → Bool
  | done _ => true
  | failed _ | aborted _ => false

/-- The answer to work that was done, by the reply to the commit. -/
def Outcome.committed {α : Type} (a : α) : Except Error Unit → Outcome α
  | .ok _ => .done a
  | .error e => .failed e

/-- The ways in which work in a transaction goes: what is attempted before it, how it ends if it is
done at all, what is attempted after it, the answer, and whether a transaction is open at the end. -/
inductive Course {α : Type} (level : Isolation) : (wasOpen : Bool) → List Attempt →
    Option (Outcome α) → List Attempt → Outcome α → (isOpen : Bool) → Prop
  | refused : Course level true [] none [] (.failed .alreadyActive) true
  | notBegun (e : Error) :
      Course level false [⟨.start level, .error e, false⟩] none [] (.failed e) false
  | done (a : α) {as reply isOpen} (h : Finish .commit as reply isOpen) :
      Course level false [⟨.start level, .ok (), true⟩] (some (.done a)) as
        (.committed a reply) isOpen
  | failed (e : Error) {as reply isOpen} (h : Finish .rollback as reply isOpen) :
      Course level false [⟨.start level, .ok (), true⟩] (some (.failed e)) as (.failed e) isOpen
  | aborted (message : String) {as reply isOpen} (h : Finish .rollback as reply isOpen) :
      Course level false [⟨.start level, .ok (), true⟩] (some (.aborted message)) as
        (.aborted message) isOpen

/-- What is said of work in a transaction, in the terms of `Course`. -/
structure Disciplined {α : Type} (level : Isolation) (wasOpen : Bool) (before : List Attempt)
    (ended : Option (Outcome α)) (after : List Attempt) (answer : Outcome α) (isOpen : Bool) :
    Prop where
  refused : wasOpen = true → before = [] ∧ ended = none ∧ after = []
    ∧ ∃ e, e.kind = .transaction ∧ answer = .failed e
  begun_once : wasOpen = false → ∃ x, before = [x] ∧ x.call = .start level
  works_iff : ended.isSome ↔ ∃ x ∈ before, x.reply = .ok ()
  commits : after.countP (fun x => x.call = .commit) = if ended.any Outcome.isDone then 1 else 0
  /-- The work is answered for only if begin, work and commit have all succeeded … -/
  done_iff : ∀ a, answer = .done a ↔
    (∃ x ∈ before, x.reply = .ok ()) ∧ ended = some (.done a)
      ∧ ∃ x ∈ after, x.call = .commit ∧ x.reply = .ok ()
  /-- … and otherwise the answer is the error of the first of them that has not. -/
  begin_error : ∀ x ∈ before, ∀ e, x.reply = .error e → answer = .failed e
  work_error : ∀ e, ended = some (.failed e) → answer = .failed e
  work_aborted : ∀ message, ended = some (.aborted message) → answer = .aborted message
  commit_error : ∀ x ∈ after, x.call = .commit → ∀ e, x.reply = .error e → answer = .failed e
  orderly : ended.isSome → Orderly after isOpen
  /-- A begin that fails leaves nothing open. -/
  not_begun : wasOpen = false → ended = none → after = [] ∧ isOpen = false

theorem Course.disciplined {α : Type} {level : Isolation} {wasOpen isOpen : Bool}
    {before after : List Attempt} {ended : Option (Outcome α)} {answer : Outcome α}
    (h : Course level wasOpen before ended after answer isOpen) :
    Disciplined level wasOpen before ended after answer isOpen := by
  cases h with
  | refused => constructor <;> simp [Error.kind]
  | notBegun e => constructor <;> simp
  | done a h =>
      have horderly := h.orderly (by simp)
      cases h <;> constructor <;> simp [Outcome.committed, Outcome.isDone, horderly]
  | failed e h =>
      have horderly := h.orderly (by simp)
      cases h <;> constructor <;> simp [Outcome.isDone, horderly]
  | aborted message h =>
      have horderly := h.orderly (by simp)
      cases h <;> constructor <;> simp [Outcome.isDone, horderly]

namespace Database

variable {σ ι : Type} {E : ι → Type} {α : Type}

/-- The attempts before and after the work are all the calls between two sessions, beside those that
the work makes itself. -/
def Path (db : Database σ ι E) (work : Session σ ι E → Outcome α × Session σ ι E)
    (s : Session σ ι E) (before : List Attempt) (ended : Option (Outcome α)) (after : List Attempt)
    (s' : Session σ ι E) : Prop :=
  ∃ s₁ s₂, db.Made s before s₁ ∧ s₁.calls = s.calls ++ before.map (fun x => x.call.call)
    ∧ db.Made s₂ after s' ∧ s'.calls = s₂.calls ++ after.map (fun x => x.call.call)
    ∧ match ended with
      | none => s₂ = s₁
      | some outcome => work s₁ = (outcome, s₂)

theorem path_of_made {db : Database σ ι E} {work : Session σ ι E → Outcome α × Session σ ι E}
    {s s₁ s₂ s' : Session σ ι E} {before after : List Attempt} (hbefore : db.Made s before s₁)
    (hafter : db.Made s₂ after s') {outcome : Outcome α} (hwork : work s₁ = (outcome, s₂)) :
    db.Path work s before (some outcome) after s' :=
  ⟨s₁, s₂, hbefore, hbefore.calls_eq, hafter, hafter.calls_eq, hwork⟩

theorem path_of_unworked {db : Database σ ι E}
    {work : Session σ ι E → Outcome α × Session σ ι E} {s s' : Session σ ι E}
    {before : List Attempt} (hbefore : db.Made s before s') : db.Path work s before none [] s' :=
  ⟨s', s', hbefore, hbefore.calls_eq, .nil s', by simp, rfl⟩

variable {db : Database σ ι E}

/-- The begin of a unit of work, where no transaction is open. -/
theorem run_start_of_closed {level : Isolation} {s : Session σ ι E} (h : db.isActive s = false) :
    (db.start level).run s = (db.transact (.start level)).run s := by
  simp [start, h, transact]

/-- **What work in a transaction does.** -/
theorem exists_course (h : db.connection.Transactional) (level : Isolation)
    (work : Session σ ι E → Outcome α × Session σ ι E) (s : Session σ ι E) :
    ∃ before ended after answer s', db.runInTransaction level work s = (answer, s')
      ∧ db.Path work s before ended after s'
      ∧ Course level (db.isActive s) before ended after answer (db.isActive s') := by
  unfold runInTransaction
  cases hactive : db.isActive s with
  | true =>
      have hstart : (db.start level).run s = (.error .alreadyActive, s) := by simp [start, hactive]
      rw [hstart]
      refine ⟨[], none, [], _, s, rfl, path_of_unworked (.nil s), ?_⟩
      rw [hactive]
      exact .refused
  | false =>
      rw [run_start_of_closed hactive]
      rcases hstart : (db.transact (.start level)).run s with ⟨e | u, s₁⟩
      · have hclosed : db.isActive s₁ = false := by
          obtain ⟨hreply, rfl⟩ := Prod.mk.inj hstart
          exact h.start_error level s.backend e hactive hreply
        refine ⟨_, none, [], _, s₁, rfl, path_of_unworked (.cons hstart (.nil s₁)), ?_⟩
        rw [hclosed]
        exact .notBegun e
      · have hopen : db.isActive s₁ = true := by
          obtain ⟨hreply, rfl⟩ := Prod.mk.inj hstart
          exact h.start_ok level s.backend hreply
        have hbegun := Made.cons hstart (.nil s₁)
        rw [hopen] at hbegun
        rcases hwork : work s₁ with ⟨a | e | message, s₂⟩
        · obtain ⟨as, reply, s', hrun, hmade, hfinish⟩ := exists_commit h s₂
          refine ⟨_, _, as, _, s', ?_, path_of_made hbegun hmade hwork, .done a hfinish⟩
          simp only [hwork, hrun]
          cases reply <;> rfl
        · obtain ⟨as, reply, s', hrun, hmade, hfinish⟩ := exists_rollback h s₂
          refine ⟨_, _, as, _, s', ?_, path_of_made hbegun hmade hwork, .failed e hfinish⟩
          simp only [hwork, hrun]
        · obtain ⟨as, reply, s', hrun, hmade, hfinish⟩ := exists_rollback h s₂
          refine ⟨_, _, as, _, s', ?_, path_of_made hbegun hmade hwork, .aborted message hfinish⟩
          simp only [hwork, hrun]

/-- A unit of work that nobody ends is rolled back if a transaction is open. -/
theorem exists_abandoned (h : db.connection.Transactional) (s : Session σ ι E) :
    ∃ as, db.Made s as (db.abandon s) ∧ Orderly as (db.isActive (db.abandon s))
      ∧ as.map (·.call) = if db.isActive s then [.rollback] else [] := by
  cases hactive : db.isActive s with
  | false =>
      rw [abandon_of_closed hactive, hactive]
      exact ⟨[], .nil s, by constructor <;> simp, rfl⟩
  | true =>
      rcases hback : (db.transact .rollback).run s with ⟨reply, s'⟩
      have hmade := Made.cons hback (.nil s')
      rw [abandon_of_open hactive hback]
      refine ⟨_, hmade, ?_, rfl⟩
      cases reply with
      | error e => constructor <;> simp [Attempt.Failed]
      | ok u =>
          rw [isActive_of_ok h (by simp) hback]
          constructor <;> simp

/-- **Work in a transaction is disciplined.**  Whatever the work does and however it ends, and
whichever calls the connection refuses: there is one begin, or none where a transaction is open
already; there is one commit if the work was done, and none otherwise; the answer is that of the
first part that failed; and rollbacks come at most twice, never after a commit, and leave a
transaction open only if the last of them failed.  The same holds of the three ways in which a unit
of work ends that was begun by hand. -/
theorem runInTransaction_disciplined (h : db.connection.Transactional) (level : Isolation)
    (work : Session σ ι E → Outcome α × Session σ ι E) (s : Session σ ι E) :
    (∃ before ended after answer s', db.runInTransaction level work s = (answer, s')
      ∧ db.Path work s before ended after s'
      ∧ Disciplined level (db.isActive s) before ended after answer (db.isActive s'))
    ∧ (∃ as reply s', db.commit.run s = (reply, s') ∧ db.Made s as s'
      ∧ Finish .commit as reply (db.isActive s') ∧ Orderly as (db.isActive s'))
    ∧ (∃ as reply s', db.rollback.run s = (reply, s') ∧ db.Made s as s'
      ∧ Finish .rollback as reply (db.isActive s') ∧ Orderly as (db.isActive s'))
    ∧ ∃ as, db.Made s as (db.abandon s) ∧ Orderly as (db.isActive (db.abandon s))
      ∧ as.map (·.call) = if db.isActive s then [.rollback] else [] := by
  refine ⟨?_, ?_, ?_, exists_abandoned h s⟩
  · obtain ⟨before, ended, after, answer, s', hrun, hpath, hcourse⟩ := exists_course h level work s
    exact ⟨before, ended, after, answer, s', hrun, hpath, hcourse.disciplined⟩
  · obtain ⟨as, reply, s', hrun, hmade, hfinish⟩ := exists_commit h s
    exact ⟨as, reply, s', hrun, hmade, hfinish, hfinish.orderly (by simp)⟩
  · obtain ⟨as, reply, s', hrun, hmade, hfinish⟩ := exists_rollback h s
    exact ⟨as, reply, s', hrun, hmade, hfinish, hfinish.orderly (by simp)⟩

/-- A scripted connection may be used for transactions. -/
theorem transactional_script (name : String) : (Script.connection name).Transactional := by
  constructor <;> simp only [Script.connection]
  · intro level b hok
    simp [hok, Script.activeAfter]
  · intro level b e hb herror
    simp [herror, hb, Script.activeAfter]
  · intro b hok
    simp [hok, Script.activeAfter]
  · intro b hok
    simp [hok, Script.activeAfter]

/-- The work is done, but the commit and the rollback after it fail: the error is that of the
commit, and the transaction stays open. -/
theorem runInTransaction_disciplined_script :
    let db : Database Script Empty nofun :=
      ⟨Script.connection "Script", .ofDialect .sqlite, none, nofun, fun _ => .null⟩
    let refusal (detail : String) : Except Error Unit := .error (.connection .execution detail)
    let s : Session Script Empty nofun :=
      .new ⟨[], [], [], [], [refusal "commit"], [refusal "rollback"], false⟩
    let work (s : Session Script Empty nofun) : Outcome Nat × Session Script Empty nofun := (.done 1, s)
    db.connection.Transactional
      ∧ ∃ before ended after answer s', db.runInTransaction .serializable work s = (answer, s')
        ∧ db.Path work s before ended after s'
        ∧ Disciplined .serializable false before ended after answer (db.isActive s')
        ∧ answer = .failed (.connection .execution "commit") ∧ db.isActive s' = true
        ∧ s'.calls = [.start .serializable, .commit, .rollback] := by
  intro db refusal s work
  have h : db.connection.Transactional := transactional_script "Script"
  obtain ⟨⟨before, ended, after, answer, s', hrun, hpath, hdisciplined⟩, -⟩ :=
    runInTransaction_disciplined h .serializable work s
  obtain ⟨rfl, rfl⟩ := Prod.mk.inj hrun
  exact ⟨h, before, ended, after, _, _, rfl, hpath, hdisciplined, rfl, rfl, rfl⟩

end Database

end SqlRecords
