/-
Module: Acud.Lib.Transaction
Purpose: One database connection with atomic transactions and failing statements.
Trusted boundary: none
Main exports:
  SqlKind, Faults, Faults.allows, Connection, Connection.committed, Connection.begin?,
  Connection.commit?, Connection.rollback?, Connection.project, Connection.KeepsView,
  Connection.WentBack, Connection.Both, runScript
-/
import Mathlib.Data.Option.Basic
import Mathlib.Tactic.Common

namespace Acud.Lib

/-!
A connection to a transactional store, seen from the one process that uses it.

* `view` is what the connection reads and writes;
* while a transaction is open, `saved` keeps what was committed before it, and
  that is also what a crash leaves behind (`committed`).

A statement may fail.  Which ones do is told by a `Faults` oracle that is asked
once for each executed statement, so a theorem about every oracle is a theorem
about every pattern of failures.  A failed statement has no effect.
-/

variable {σ τ κ : Type}

/-- Kinds of SQL statements, as far as their failures are told apart. -/
inductive SqlKind where
  | begin
  | commit
  | rollback
  | ddl
  | insert
  | update
  | delete
  | select
deriving Repr, Inhabited, DecidableEq

/-- The outcomes of the statements a connection executes, in order.  Reads do
not advance the position, so reads between two writes share one outcome. -/
structure Faults (κ : Type) where
  ok : κ → Nat → Bool
  used : Nat

namespace Faults

/-- The oracle of a store that never fails. -/
def none : Faults κ :=
  { ok := fun _ _ => true
    used := 0 }

instance : Inhabited (Faults κ) := ⟨none⟩

/-- Whether the next statement, of this kind, is executed without an error. -/
def succeeds (faults : Faults κ) (kind : κ) : Bool :=
  faults.ok kind faults.used

/-- One statement was executed. -/
def next (faults : Faults κ) : Faults κ :=
  { faults with used := faults.used + 1 }

/-- Statements of this kind never fail. -/
def Never (faults : Faults κ) (kind : κ) : Prop :=
  ∀ index, faults.ok kind index = true

theorem Never.succeeds {faults : Faults κ} {kind : κ}
    (never : faults.Never kind) : faults.succeeds kind = true :=
  never faults.used

@[simp] theorem never_next (faults : Faults κ) (kind : κ) :
    faults.next.Never kind ↔ faults.Never kind := Iff.rfl

/-- The next statements, of these kinds, are executed without an error. -/
def allows (faults : Faults κ) : List κ → Bool
  | [] => true
  | kind :: rest => faults.succeeds kind && faults.next.allows rest

theorem allows_of_never {faults : Faults κ} {kinds : List κ}
    (never : ∀ kind ∈ kinds, faults.Never kind) : faults.allows kinds = true := by
  induction kinds generalizing faults with
  | nil => rfl
  | cons kind rest inductionHypothesis =>
      obtain ⟨here, later⟩ := List.forall_mem_cons.mp never
      rw [allows, here.succeeds]
      exact inductionHypothesis later

/-- The oracle behind the first of these statements that fails. -/
def stopped (faults : Faults κ) : List κ → Option (Faults κ)
  | [] => Option.none
  | kind :: rest =>
      if faults.succeeds kind then faults.next.stopped rest else some faults.next

theorem stopped_eq_none {faults : Faults κ} {kinds : List κ} :
    faults.stopped kinds = Option.none ↔ faults.allows kinds = true := by
  induction kinds generalizing faults with
  | nil => exact iff_of_true rfl rfl
  | cons kind rest inductionHypothesis =>
      rw [stopped, allows, Bool.and_eq_true]
      split
      next succeeds =>
        rw [inductionHypothesis]
        exact (and_iff_right succeeds).symm
      next fails => exact iff_of_false nofun fun allowed => fails allowed.1

theorem stopped_oracle {faults behind : Faults κ} {kinds : List κ}
    (fails : faults.stopped kinds = some behind) : behind.ok = faults.ok := by
  induction kinds generalizing faults with
  | nil => cases fails
  | cons kind rest inductionHypothesis =>
      rw [stopped] at fails
      split at fails
      next =>
        have later : behind.ok = faults.next.ok := inductionHypothesis fails
        exact later
      next =>
        cases fails
        rfl

/-- The oracle of a process that dies after some more statements: the others are not
executed. -/
def cut (faults : Faults κ) (executed : Nat) : Faults κ :=
  { ok := fun kind index => decide (index < faults.used + executed) && faults.ok kind index
    used := faults.used }

end Faults

/-- A connection: its own view and, inside a transaction, the committed state. -/
structure Connection (σ : Type) where
  view : σ
  saved : Option σ

namespace Connection

/-- A fresh connection to a stored state. -/
def opened (stored : σ) : Connection σ :=
  { view := stored
    saved := none }

/-- What is durable: the state a crash leaves. -/
def committed (connection : Connection σ) : σ :=
  connection.saved.getD connection.view

/-- A transaction is open. -/
def inTransaction (connection : Connection σ) : Bool :=
  connection.saved.isSome

/-- Change the view: durable at once unless a transaction is open. -/
def write (connection : Connection σ) (change : σ → σ) : Connection σ :=
  { connection with view := change connection.view }

/-- `BEGIN`: an error inside a transaction. -/
def begin? (connection : Connection σ) : Option (Connection σ) :=
  if connection.inTransaction then none
  else some { connection with saved := some connection.view }

/-- `COMMIT`: an error outside a transaction. -/
def commit? (connection : Connection σ) : Option (Connection σ) :=
  if connection.inTransaction then some { connection with saved := none }
  else none

/-- `ROLLBACK`: an error outside a transaction. -/
def rollback? (connection : Connection σ) : Option (Connection σ) :=
  connection.saved.map opened

@[simp] theorem committed_opened (stored : σ) :
    (opened stored).committed = stored := rfl

theorem committed_of_saved {connection : Connection σ} {stored : σ}
    (inside : connection.saved = some stored) : connection.committed = stored := by
  simp [committed, inside]

theorem committed_of_autocommit {connection : Connection σ}
    (outside : connection.saved = none) :
    connection.committed = connection.view := by
  simp [committed, outside]

@[simp] theorem saved_write (connection : Connection σ) (change : σ → σ) :
    (connection.write change).saved = connection.saved := rfl

/-- `BEGIN` changes neither the view nor what is durable. -/
theorem begin?_eq_some {connection opened : Connection σ}
    (began : connection.begin? = some opened) :
    connection.saved = none ∧
      opened = { connection with saved := some connection.view } := by
  unfold begin? at began
  split at began
  next => cases began
  next outside =>
    refine ⟨?_, (Option.some.inj began).symm⟩
    simpa [inTransaction] using outside

/-- `COMMIT` makes the view durable. -/
theorem commit?_eq_some {connection closed : Connection σ}
    (done : connection.commit? = some closed) :
    connection.inTransaction = true ∧
      closed = { connection with saved := none } := by
  unfold commit? at done
  split at done
  next inside => exact ⟨inside, (Option.some.inj done).symm⟩
  next => cases done

/-- `ROLLBACK` goes back to what was durable. -/
theorem rollback?_eq_some {connection restored : Connection σ}
    (undone : connection.rollback? = some restored) :
    connection.saved = some restored.view ∧ restored.saved = none ∧
      restored.view = connection.committed := by
  unfold rollback? at undone
  obtain ⟨stored, inside, rfl⟩ := Option.map_eq_some_iff.mp undone
  refine ⟨inside, rfl, ?_⟩
  exact (committed_of_saved inside).symm

/-! ### A part of the store -/

/-- The connection as one sees it who looks at a part of the store only. -/
def project (connection : Connection σ) (part : σ → τ) : Connection τ :=
  { view := part connection.view
    saved := connection.saved.map part }

@[simp] theorem view_project (connection : Connection σ) (part : σ → τ) :
    (connection.project part).view = part connection.view := rfl

@[simp] theorem committed_project (connection : Connection σ) (part : σ → τ) :
    (connection.project part).committed = part connection.committed := by
  unfold project committed
  cases connection.saved with
  | none => rfl
  | some stored => rfl

/-- A write that leaves the part alone is not seen. -/
theorem project_write {connection : Connection σ} {part : σ → τ} {change : σ → σ}
    (same : part (change connection.view) = part connection.view) :
    (connection.write change).project part = connection.project part := by
  simp [project, write, same]

/-! ### Transactions that begin and end -/

/-- The view is as it was; what is committed is as it was, or is the view now. -/
structure KeepsView (before after : Connection σ) : Prop where
  view : after.view = before.view
  committed : after.committed = before.committed ∨ after.committed = before.view

namespace KeepsView

theorem refl (connection : Connection σ) : KeepsView connection connection :=
  { view := rfl
    committed := .inl rfl }

theorem trans {first second third : Connection σ} (early : KeepsView first second)
    (late : KeepsView second third) : KeepsView first third := by
  refine { view := late.view.trans early.view, committed := ?_ }
  rcases late.committed with kept | settled
  · rw [kept]
    exact early.committed
  · rw [settled, early.view]
    exact .inr rfl

theorem project {before after : Connection σ} (keeps : KeepsView before after)
    (part : σ → τ) : KeepsView (before.project part) (after.project part) := by
  refine { view := congrArg part keeps.view, committed := ?_ }
  rw [committed_project, committed_project]
  rcases keeps.committed with kept | settled
  · exact .inl (congrArg part kept)
  · exact .inr (congrArg part settled)

theorem of_begin {connection opened : Connection σ}
    (began : connection.begin? = some opened) : KeepsView connection opened := by
  obtain ⟨outside, rfl⟩ := begin?_eq_some began
  exact { view := rfl, committed := .inr rfl }

theorem of_commit {connection closed : Connection σ}
    (done : connection.commit? = some closed) : KeepsView connection closed := by
  obtain ⟨inside, rfl⟩ := commit?_eq_some done
  exact { view := rfl, committed := .inr rfl }

end KeepsView

/-- The view went back to what was committed. -/
structure WentBack (before after : Connection σ) : Prop where
  view : after.view = before.committed
  committed : after.committed = before.committed

namespace WentBack

theorem of_rollback {connection restored : Connection σ}
    (undone : connection.rollback? = some restored) : WentBack connection restored := by
  obtain ⟨inside, outside, view⟩ := rollback?_eq_some undone
  exact
    { view := view
      committed := (committed_of_autocommit outside).trans view }

/-- Outside a transaction there is nothing to go back from. -/
theorem of_outside {connection : Connection σ} (outside : connection.saved = none) :
    WentBack connection connection :=
  { view := (committed_of_autocommit outside).symm
    committed := rfl }

theorem keepsView {first second third : Connection σ} (back : WentBack first second)
    (keeps : KeepsView second third) : WentBack first third := by
  refine { view := keeps.view.trans back.view, committed := ?_ }
  rcases keeps.committed with kept | settled
  · exact kept.trans back.committed
  · exact settled.trans back.view

theorem project {before after : Connection σ} (back : WentBack before after)
    (part : σ → τ) : WentBack (before.project part) (after.project part) := by
  constructor
  · rw [committed_project]
    exact congrArg part back.view
  · rw [committed_project, committed_project]
    exact congrArg part back.committed

end WentBack

/-- A property of the view and of what is committed. -/
structure Both (property : σ → Prop) (connection : Connection σ) : Prop where
  view : property connection.view
  committed : property connection.committed

namespace Both

variable {property : σ → Prop}

theorem keepsView {before after : Connection σ} (both : Both property before)
    (keeps : KeepsView before after) : Both property after := by
  constructor
  · rw [keeps.view]
    exact both.view
  · rcases keeps.committed with kept | settled
    · rw [kept]
      exact both.committed
    · rw [settled]
      exact both.view

theorem wentBack {before after : Connection σ} (both : Both property before)
    (back : WentBack before after) : Both property after := by
  constructor
  · rw [back.view]
    exact both.committed
  · rw [back.committed]
    exact both.committed

/-- A write outside and inside a transaction. -/
theorem write {connection : Connection σ} (both : Both property connection)
    {change : σ → σ} (holds : property (change connection.view)) :
    Both property (connection.write change) := by
  refine { view := holds, committed := ?_ }
  unfold Connection.committed
  rw [saved_write]
  cases saved : connection.saved with
  | none => exact holds
  | some stored =>
      have before := both.committed
      rw [committed_of_saved saved] at before
      exact before

end Both

end Connection

/-- Execute statements one after another and stop at the first that fails
(`sqlite3_exec` with several statements in one text).  The state reached is
returned in both cases: statements before the failing one keep their effect. -/
def runScript {stmt : Type} (execute : σ → stmt → Bool × σ) :
    σ → List stmt → Bool × σ
  | state, [] => (true, state)
  | state, statement :: rest =>
      match execute state statement with
      | (true, reached) => runScript execute reached rest
      | (false, reached) => (false, reached)

section Script

variable {stmt : Type} {execute : σ → stmt → Bool × σ}

@[simp] theorem runScript_nil (state : σ) :
    runScript execute state [] = (true, state) := rfl

theorem runScript_cons (state : σ) (statement : stmt) (rest : List stmt) :
    runScript execute state (statement :: rest) =
      if (execute state statement).1 then
        runScript execute (execute state statement).2 rest
      else
        (false, (execute state statement).2) := by
  rw [runScript]
  rcases execute state statement with ⟨succeeded, reached⟩
  cases succeeded <;> rfl

/-- A property that every statement of a script keeps, failing or not, holds
after the script. -/
theorem runScript_preserves {property : σ → Prop}
    {statements : List stmt}
    (keeps : ∀ state, ∀ statement ∈ statements, property state →
      property (execute state statement).2)
    {state : σ} (holds : property state) :
    property (runScript execute state statements).2 := by
  induction statements generalizing state with
  | nil => exact holds
  | cons statement rest inductionHypothesis =>
      have kept := keeps state statement List.mem_cons_self holds
      rw [runScript_cons]
      split
      next =>
        apply inductionHypothesis _ kept
        intro reached later member
        exact keeps reached later (List.mem_cons_of_mem _ member)
      next => exact kept

theorem runScript_cons_eq_true {state : σ} {statement : stmt} {rest : List stmt}
    (done : (runScript execute state (statement :: rest)).1 = true) :
    (execute state statement).1 = true ∧
      runScript execute state (statement :: rest) =
        runScript execute (execute state statement).2 rest := by
  rw [runScript_cons] at done ⊢
  split at done
  next succeeded => exact ⟨succeeded, if_pos succeeded⟩
  next => cases done

/-- The last statement of a script that was executed to its end. -/
theorem runScript_concat_eq_true {front : List stmt} {last : stmt} {state : σ}
    (done : (runScript execute state (front ++ [last])).1 = true) :
    ∃ before, (execute before last).1 = true ∧
      (runScript execute state (front ++ [last])).2 = (execute before last).2 := by
  induction front generalizing state with
  | nil =>
      obtain ⟨succeeded, rest⟩ := runScript_cons_eq_true done
      refine ⟨state, succeeded, ?_⟩
      rw [List.nil_append, rest, runScript_nil]
  | cons statement rest inductionHypothesis =>
      rw [List.cons_append] at done ⊢
      obtain ⟨_, later⟩ := runScript_cons_eq_true done
      rw [later] at done ⊢
      exact inductionHypothesis done

/-- A script that stops early keeps what all its statements but the last keep, and
what the last one keeps when it fails. -/
theorem runScript_stopped {property : σ → Prop} {front : List stmt} {last : stmt}
    (keeps : ∀ state, ∀ statement ∈ front, property state →
      property (execute state statement).2)
    (fails : ∀ state, property state → (execute state last).1 = false →
      property (execute state last).2)
    {state : σ} (holds : property state)
    (stopped : (runScript execute state (front ++ [last])).1 = false) :
    property (runScript execute state (front ++ [last])).2 := by
  induction front generalizing state with
  | nil =>
      rw [List.nil_append, runScript_cons] at stopped ⊢
      split at stopped
      next => cases stopped
      next failed =>
        rw [if_neg failed]
        exact fails state holds (by simpa using failed)
  | cons statement rest inductionHypothesis =>
      have kept := keeps state statement List.mem_cons_self holds
      rw [List.cons_append, runScript_cons] at stopped ⊢
      split at stopped
      next succeeded =>
        rw [if_pos succeeded]
        apply inductionHypothesis _ kept stopped
        intro reached later member
        exact keeps reached later (List.mem_cons_of_mem _ member)
      next failed =>
        rw [if_neg failed]
        exact kept

end Script

end Acud.Lib
