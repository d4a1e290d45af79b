/-
Module: Acud.Proofs.RosterStore
Purpose: What the operations of the roster store do to the running tables.
Trusted boundary: none
Main exports:
  LoadOp, loadStep, AcuUsers.RollsBack, RunningEffect, loadStep_running,
  InsertEffect, BeginEffect, CommitOutcome, usersOpen_opened, UsersProcess, reopen
-/
import Acud.Proofs.RosterStatements

namespace Acud

open Lib

/-!
The batch transaction of a download is the transaction of the one connection.  Seen
from the running tables a download is a sequence of `BEGIN` and `COMMIT`, sometimes a
`ROLLBACK`, and at its end one replacement.

* every function that executes statements gets one lemma, and callers use that;
* `AcuUsers.RollsBack` tells from the state before an operation whether it goes back
  to what was committed.
-/

/-! ### The batch transaction -/

/-- Opening and closing the batch transaction. -/
structure TxnEffect (before after : AcuUsers) : Prop where
  conn : Connection.KeepsView before.conn after.conn
  loading : after.loading = before.loading
  oracle : after.faults.ok = before.faults.ok

namespace TxnEffect

theorem refl (u : AcuUsers) : TxnEffect u u :=
  { conn := .refl u.conn
    loading := rfl
    oracle := rfl }

theorem trans {first second third : AcuUsers} (early : TxnEffect first second)
    (late : TxnEffect second third) : TxnEffect first third :=
  { conn := early.conn.trans late.conn
    loading := late.loading.trans early.loading
    oracle := late.oracle.trans early.oracle }

theorem running {before after : AcuUsers} (effect : TxnEffect before after) :
    Connection.KeepsView before.running after.running :=
  effect.conn.project _

theorem view {before after : AcuUsers} (effect : TxnEffect before after) :
    after.conn.view = before.conn.view :=
  effect.conn.view

end TxnEffect

theorem txnBegin_effect (u : AcuUsers) : TxnEffect u (txnBegin u).2 := by
  unfold txnBegin
  split
  next => exact .refl u
  next =>
    rcases u.execute_cases .begin with ⟨conn, began, executed⟩ | ⟨_, failed⟩
    · rw [executed]
      exact { conn := .of_begin began, loading := rfl, oracle := rfl }
    · rw [failed]
      exact { conn := .refl u.conn, loading := rfl, oracle := rfl }

theorem txnCommit_idle {u : AcuUsers} (idle : u.inTxn = false) : txnCommit u = (true, u) := by
  simp [txnCommit, idle]

/-- `COMMIT` closes the transaction, or fails and leaves it open behind a cleared
flag. -/
theorem txnCommit_open {u : AcuUsers} (opened : u.inTxn = true) :
    (txnCommit u).2.inTxn = false ∧
      if (txnCommit u).1 then (txnCommit u).2.conn.saved = none
      else (txnCommit u).2.conn = u.conn := by
  unfold txnCommit
  rw [if_pos opened]
  rcases AcuUsers.execute_cases { u with inTxn := false } .commit with
    ⟨conn, done, executed⟩ | ⟨_, failed⟩
  · obtain ⟨_, rfl⟩ := Connection.commit?_eq_some done
    rw [executed]
    exact ⟨rfl, rfl⟩
  · rw [failed]
    exact ⟨rfl, rfl⟩

theorem txnCommit_effect (u : AcuUsers) : TxnEffect u (txnCommit u).2 := by
  unfold txnCommit
  split
  next =>
    rcases AcuUsers.execute_cases { u with inTxn := false } .commit with
      ⟨conn, done, executed⟩ | ⟨_, failed⟩
    · rw [executed]
      exact { conn := .of_commit done, loading := rfl, oracle := rfl }
    · rw [failed]
      exact { conn := .refl u.conn, loading := rfl, oracle := rfl }
  next => exact .refl u

theorem rotateTxnIfNeeded_effect (u : AcuUsers) : TxnEffect u (rotateTxnIfNeeded u).2 := by
  unfold rotateTxnIfNeeded
  split
  next => exact .refl u
  next =>
    have committed := txnCommit_effect u
    split
    next stored done =>
      rw [done] at committed
      exact committed.trans (txnBegin_effect _)
    next stored done =>
      rw [done] at committed
      exact committed

/-! ### Inserts of a download -/

/-- The download is on and the statement is executed. -/
def AcuUsers.inserts (u : AcuUsers) (statement : UsersStmt) : Bool :=
  u.loading && (u.execute statement).1

/-- An insert of a download: into the load tables, with the transaction rotated
behind it. -/
structure InsertEffect (u after : AcuUsers) (statement : UsersStmt) : Prop where
  running : Connection.KeepsView u.running after.running
  loading : after.loading = u.loading
  oracle : after.faults.ok = u.faults.ok
  view : if u.inserts statement then statement.change u.conn.view = some after.conn.view
    else after.conn.view = u.conn.view

theorem insertEffect_idle {u : AcuUsers} (idle : u.loading = false) (statement : UsersStmt) :
    InsertEffect u u statement :=
  { running := .refl _
    loading := rfl
    oracle := rfl
    view := by simp [AcuUsers.inserts, idle] }

theorem insertEffect_failed (u : AcuUsers) (statement : UsersStmt)
    (failed : (u.execute statement).1 = false) :
    InsertEffect u (u.execute statement).2 statement := by
  rw [AcuUsers.execute_eq_false failed]
  exact
    { running := .refl _
      loading := rfl
      oracle := rfl
      view := by simp [AcuUsers.inserts, failed] }

theorem insertEffect_stored {u : AcuUsers} (statement : UsersStmt)
    (load : statement.onLoad = true) (active : u.loading = true)
    (stored : (u.execute statement).1 = true) (rows total : Nat) :
    InsertEffect u
      (rotateTxnIfNeeded
        { (u.execute statement).2 with loadRows := rows, loadTotal := total }).2 statement := by
  have flags := u.execute_flags statement
  have rotated := rotateTxnIfNeeded_effect
    { (u.execute statement).2 with loadRows := rows, loadTotal := total }
  refine
    { running := ?_
      loading := rotated.loading.trans flags.loading
      oracle := rotated.oracle.trans flags.oracle
      view := ?_ }
  · rw [← AcuUsers.running_execute load u]
    exact rotated.running
  · obtain ⟨conn, effect, reached⟩ := AcuUsers.execute_eq_true stored
    rw [statement.effect_onTables (UsersStmt.onTables_of_onLoad load)] at effect
    obtain ⟨file, changed, rfl⟩ := Option.map_eq_some_iff.mp effect
    have inserted : u.inserts statement = true := by simp [AcuUsers.inserts, active, stored]
    rw [if_pos inserted, changed, rotated.view, reached]
    rfl

theorem usersLoadPut_effect (u : AcuUsers) (record : AcuUserRecord) :
    InsertEffect u (usersLoadPut u record).2 (.loadPut record) := by
  unfold usersLoadPut
  split
  next active =>
    split
    next stored done =>
      have effect := insertEffect_stored (.loadPut record) rfl active
        (by rw [done]) (stored.loadRows + 1) (stored.loadTotal + 1)
      rw [done] at effect
      exact effect
    next failed done =>
      have effect := insertEffect_failed u (.loadPut record) (by rw [done])
      rw [done] at effect
      exact effect
  next idle => exact insertEffect_idle (by simpa using idle) _

theorem usersLoadPutCard_effect (u : AcuUsers) (card : AcuUserCard) :
    InsertEffect u (usersLoadPutCard u card).2 (.loadPutCard card) := by
  unfold usersLoadPutCard
  split
  next active =>
    split
    next stored done =>
      have effect := insertEffect_stored (.loadPutCard card) rfl active
        (by rw [done]) (stored.loadRows + 1) stored.loadTotal
      rw [done] at effect
      exact effect
    next failed done =>
      have effect := insertEffect_failed u (.loadPutCard card) (by rw [done])
      rw [done] at effect
      exact effect
  next idle => exact insertEffect_idle (by simpa using idle) _

/-- A user that was inserted is in the load tables. -/
theorem InsertEffect.load_put {u after : AcuUsers} {record : AcuUserRecord}
    (effect : InsertEffect u after (.loadPut record))
    (inserted : u.inserts (.loadPut record) = true)
    {before : Roster} (load : u.conn.view.load = .of before) :
    after.conn.view.load = .of (before.put record) := by
  have view := effect.view
  rw [if_pos inserted] at view
  obtain ⟨table, stored, changed⟩ := Option.map_eq_some_iff.mp view
  have tables : u.conn.view.usersLoad = some before.users := congrArg TablePair.users load
  rw [stored, Option.some.injEq] at tables
  rw [← changed]
  unfold UsersFile.load TablePair.of Roster.put
  rw [tables]
  exact congrArg (TablePair.mk _) (congrArg TablePair.cards load)

/-- A card that was inserted is in the load tables. -/
theorem InsertEffect.load_putCard {u after : AcuUsers} {card : AcuUserCard}
    (effect : InsertEffect u after (.loadPutCard card))
    (inserted : u.inserts (.loadPutCard card) = true)
    {before : Roster} (load : u.conn.view.load = .of before) :
    after.conn.view.load = .of (before.putCard card) := by
  have view := effect.view
  rw [if_pos inserted] at view
  obtain ⟨table, stored, changed⟩ := Option.map_eq_some_iff.mp view
  have tables : u.conn.view.userCardsLoad = some before.cards := congrArg TablePair.cards load
  rw [stored, Option.some.injEq] at tables
  rw [← changed]
  unfold UsersFile.load TablePair.of Roster.putCard
  rw [tables]
  exact congrArg (TablePair.mk · _) (congrArg TablePair.users load)

/-- An insert that was refused left the load tables as they were. -/
theorem InsertEffect.load_refused {u after : AcuUsers} {statement : UsersStmt}
    (effect : InsertEffect u after statement) (refused : ¬ u.inserts statement = true) :
    after.conn.view.load = u.conn.view.load := by
  have view := effect.view
  rw [if_neg refused] at view
  exact congrArg UsersFile.load view

/-- An insert that answers success was executed. -/
theorem inserts_of_usersLoadPut {u : AcuUsers} {record : AcuUserRecord}
    (done : (usersLoadPut u record).1 = true) : u.inserts (.loadPut record) = true := by
  unfold usersLoadPut at done
  unfold AcuUsers.inserts
  split at done
  next active =>
    split at done
    next stored executed => simp [active, executed]
    next => cases done
  next => cases done

theorem inserts_of_usersLoadPutCard {u : AcuUsers} {card : AcuUserCard}
    (done : (usersLoadPutCard u card).1 = true) : u.inserts (.loadPutCard card) = true := by
  unfold usersLoadPutCard at done
  unfold AcuUsers.inserts
  split at done
  next active =>
    split at done
    next stored executed => simp [active, executed]
    next => cases done
  next => cases done

/-! ### Abort -/

theorem onLoad_dropLoadTables : ∀ statement ∈ dropLoadTables, statement.onLoad = true := by
  decide

theorem onLoad_createLoadTables :
    ∀ statement ∈ createLoadTables, statement.onLoad = true := by
  decide

/-- `ROLLBACK` goes back to what was committed, also when it is refused because no
transaction is open. -/
theorem execute_rollback {u : AcuUsers} (reliable : u.faults.Never .rollback) :
    Connection.WentBack u.conn (u.execute .rollback).2.conn := by
  rcases u.execute_cases .rollback with ⟨conn, undone, executed⟩ | ⟨reason, failed⟩
  · rw [executed]
    exact .of_rollback undone
  · rw [failed]
    rcases reason with refused | outside
    · have succeeds : u.faults.succeeds UsersStmt.rollback.kind = true := reliable.succeeds
      rw [succeeds] at refused
      cases refused
    · exact .of_outside (by simpa [UsersStmt.effect, Connection.rollback?] using outside)

/-- A rollback commits nothing, whether it is done or not. -/
theorem execute_rollback_committed (u : AcuUsers) :
    (u.execute .rollback).2.conn.committed = u.conn.committed := by
  rcases u.execute_cases .rollback with ⟨conn, undone, executed⟩ | ⟨_, failed⟩
  · rw [executed]
    exact (Connection.WentBack.of_rollback undone).committed
  · rw [failed]

theorem usersLoadAbort_idle {u : AcuUsers} (idle : u.inTxn = false) :
    (usersLoadAbort u).running = u.running := by
  unfold usersLoadAbort
  simp only [idle, Bool.false_eq_true, ↓reduceIte]
  exact AcuUsers.running_execSql onLoad_dropLoadTables u

theorem usersLoadAbort_open {u : AcuUsers} (opened : u.inTxn = true)
    (reliable : u.faults.Never .rollback) :
    Connection.WentBack u.running (usersLoadAbort u).running := by
  have back := (execute_rollback reliable).project UsersFile.running
  have dropped := AcuUsers.running_execSql onLoad_dropLoadTables
    { (u.execute .rollback).2 with inTxn := false }
  unfold usersLoadAbort
  simp only [opened, ↓reduceIte]
  unfold AcuUsers.running at dropped ⊢
  simp only at dropped ⊢
  rw [dropped]
  exact back

theorem loading_usersLoadAbort (u : AcuUsers) : (usersLoadAbort u).loading = false := rfl

theorem oracle_usersLoadAbort (u : AcuUsers) :
    (usersLoadAbort u).faults.ok = u.faults.ok := by
  unfold usersLoadAbort
  split
  next =>
    exact (AcuUsers.execSql_flags _ _).oracle.trans (u.execute_flags .rollback).oracle
  next => exact (AcuUsers.execSql_flags _ _).oracle

/-- What holds of the view and of what is committed holds after an abort, whether
the rollback works or not. -/
theorem usersLoadAbort_both {property : TablePair → Prop} {u : AcuUsers}
    (both : Connection.Both property u.running) :
    Connection.Both property (usersLoadAbort u).running := by
  cases opened : u.inTxn with
  | false =>
      rw [usersLoadAbort_idle opened]
      exact both
  | true =>
      have dropped := AcuUsers.running_execSql onLoad_dropLoadTables
        { (u.execute .rollback).2 with inTxn := false }
      unfold usersLoadAbort
      simp only [opened, ↓reduceIte]
      unfold AcuUsers.running at both dropped ⊢
      simp only at dropped ⊢
      rw [dropped]
      rcases u.execute_cases .rollback with ⟨conn, undone, executed⟩ | ⟨_, failed⟩
      · rw [executed]
        exact both.wentBack ((Connection.WentBack.of_rollback undone).project _)
      · rw [failed]
        exact both

/-! ### Begin -/

/-- The two load tables are created empty. -/
theorem execSql_createLoadTables {u : AcuUsers}
    (created : (u.execSql createLoadTables).1 = true) :
    (u.execSql createLoadTables).2.conn.view.load = .of Roster.empty := by
  have forward : ∀ statement ∈ createLoadTables, statement.kind ≠ .rollback := by decide
  have load : (createLoadTables.foldlM UsersStmt.change u.conn.view).map UsersFile.load =
      some (.of Roster.empty) := rfl
  rw [AcuUsers.execSql_view forward created] at load
  exact Option.some.inj load

/-- The part of `usersLoadBegin` behind the abort of a download before it. -/
def beginDownload (u : AcuUsers) : Bool × AcuUsers :=
  match u.execSql createLoadTables with
  | (false, failed) => (false, failed)
  | (true, created) =>
      match txnBegin { created with loading := true, loadTotal := 0 } with
      | (true, began) => (true, began)
      | (false, failed) => (false, { failed with loading := false })

theorem usersLoadBegin_eq (u : AcuUsers) :
    usersLoadBegin u = beginDownload (if u.loading then usersLoadAbort u else u) := rfl

/-- A download that begins is on, with empty load tables; one that fails to begin is
not. -/
structure BeginEffect (u : AcuUsers) (result : Bool × AcuUsers) : Prop where
  running : Connection.KeepsView u.running result.2.running
  oracle : result.2.faults.ok = u.faults.ok
  loading : u.loading = false → result.2.loading = result.1
  load : result.1 = true → result.2.conn.view.load = .of Roster.empty

theorem beginDownload_effect (u : AcuUsers) : BeginEffect u (beginDownload u) := by
  have created := AcuUsers.running_execSql onLoad_createLoadTables u
  have flags := u.execSql_flags createLoadTables
  unfold beginDownload
  split
  next failed stopped =>
    rw [stopped] at created flags
    exact
      { running := created ▸ .refl _
        oracle := flags.oracle
        loading := fun idle => flags.loading.trans idle
        load := by simp }
  next tables done =>
    have empty : (u.execSql createLoadTables).1 = true →
        (u.execSql createLoadTables).2.conn.view.load = .of Roster.empty :=
      execSql_createLoadTables
    rw [done] at created flags empty
    have began := txnBegin_effect { tables with loading := true, loadTotal := 0 }
    split
    next opened result =>
      rw [result] at began
      exact
        { running := created ▸ began.running
          oracle := began.oracle.trans flags.oracle
          loading := fun _ => began.loading
          load := fun _ => (congrArg UsersFile.load began.view).trans (empty rfl) }
    next failed result =>
      rw [result] at began
      exact
        { running := created ▸ began.running
          oracle := began.oracle.trans flags.oracle
          loading := fun _ => rfl
          load := by simp }

/-- A download that begins gives up the one before it. -/
theorem usersLoadBegin_running {u : AcuUsers} (reliable : u.faults.Never .rollback) :
    if u.loading = true ∧ u.inTxn = true then
      Connection.WentBack u.running (usersLoadBegin u).2.running
    else Connection.KeepsView u.running (usersLoadBegin u).2.running := by
  rw [usersLoadBegin_eq]
  cases active : u.loading with
  | false =>
      simp only [Bool.false_eq_true, false_and, ↓reduceIte]
      exact (beginDownload_effect u).running
  | true =>
      have began := (beginDownload_effect (usersLoadAbort u)).running
      cases opened : u.inTxn with
      | false =>
          simp only [Bool.false_eq_true, and_false, ↓reduceIte]
          rw [usersLoadAbort_idle opened] at began
          exact began
      | true =>
          simp only [and_self, ↓reduceIte]
          exact (usersLoadAbort_open opened reliable).keepsView began

theorem usersLoadBegin_both {property : TablePair → Prop} {u : AcuUsers}
    (both : Connection.Both property u.running) :
    Connection.Both property (usersLoadBegin u).2.running := by
  rw [usersLoadBegin_eq]
  refine Connection.Both.keepsView ?_ (beginDownload_effect _).running
  split
  next => exact usersLoadAbort_both both
  next => exact both

/-! ### Commit -/

theorem saved_execute {statement : UsersStmt} (tables : statement.onTables = true)
    (u : AcuUsers) : (u.execute statement).2.conn.saved = u.conn.saved := by
  rcases u.execute_cases statement with ⟨conn, effect, executed⟩ | ⟨_, failed⟩
  · rw [executed]
    rw [statement.effect_onTables tables] at effect
    obtain ⟨file, _, rfl⟩ := Option.map_eq_some_iff.mp effect
    rfl
  · rw [failed]

/-- The statements of the swap between `BEGIN` and `COMMIT`. -/
def swapBody : List UsersStmt :=
  [.drop .users, .drop .userCards, .renameUsersLoad, .renameUserCardsLoad, .createCardIndex]

theorem swapTables_eq : swapTables = .begin :: (swapBody ++ [.commit]) := rfl

/-- Without both load tables a rename fails. -/
theorem swapTables_change {file changed : UsersFile}
    (done : swapTables.foldlM UsersStmt.change file = some changed) :
    file.load.Exist ∧ changed.running = file.load := by
  obtain ⟨users, cards, usersLoad, cardsLoad⟩ := file
  cases usersLoad with
  | none => cases done
  | some loadUsers =>
      cases cardsLoad with
      | none => cases done
      | some loadCards =>
          cases done
          exact ⟨⟨rfl, rfl⟩, rfl⟩

/-- The swap, executed to its end. -/
theorem execSql_swapTables {u : AcuUsers} (done : (u.execSql swapTables).1 = true) :
    u.conn.saved = none ∧ u.conn.view.load.Exist ∧
      (u.execSql swapTables).2.conn.view.running = u.conn.view.load ∧
      (u.execSql swapTables).2.conn.saved = none := by
  have forward : ∀ statement ∈ swapTables, statement.kind ≠ .rollback := by decide
  obtain ⟨exist, running⟩ := swapTables_change (AcuUsers.execSql_view forward done)
  unfold AcuUsers.execSql at *
  rw [swapTables_eq, ← List.cons_append] at done running ⊢
  obtain ⟨began, _⟩ := runScript_cons_eq_true done
  obtain ⟨_, opened, _⟩ := AcuUsers.execute_eq_true began
  refine ⟨(Connection.begin?_eq_some opened).1, exist, running, ?_⟩
  obtain ⟨before, succeeded, reached⟩ := runScript_concat_eq_true done
  obtain ⟨conn, committed, after⟩ := AcuUsers.execute_eq_true succeeded
  obtain ⟨_, rfl⟩ := Connection.commit?_eq_some committed
  rw [reached, after]

/-- The swap, stopped on its way: it did not begin, or what was there is kept aside. -/
theorem execSql_swapTables_stopped {u : AcuUsers}
    (stopped : (u.execSql swapTables).1 = false) :
    (u.execute .begin).1 = false ∧ (u.execSql swapTables).2.conn = u.conn ∨
      u.conn.saved = none ∧ (u.execSql swapTables).2.conn.saved = some u.conn.view := by
  unfold AcuUsers.execSql at *
  rw [swapTables_eq, runScript_cons] at stopped ⊢
  split at stopped
  next began =>
    rw [if_pos began]
    obtain ⟨conn, opened, reached⟩ := AcuUsers.execute_eq_true began
    obtain ⟨outside, rfl⟩ := Connection.begin?_eq_some opened
    have tables : ∀ statement ∈ swapBody, statement.onTables = true := by decide
    have keeps : ∀ state : AcuUsers, ∀ statement ∈ swapBody,
        state.conn.saved = some u.conn.view →
        (state.execute statement).2.conn.saved = some u.conn.view := by
      intro state statement member before
      rw [saved_execute (tables statement member), before]
    have fails : ∀ state : AcuUsers, state.conn.saved = some u.conn.view →
        (state.execute .commit).1 = false →
        (state.execute .commit).2.conn.saved = some u.conn.view := by
      intro state before failed
      rw [AcuUsers.execute_eq_false failed]
      exact before
    exact .inr ⟨outside, runScript_stopped keeps fails (by rw [reached]) stopped⟩
  next failed =>
    rw [if_neg failed]
    have refused : (u.execute .begin).1 = false := by simpa using failed
    exact .inl ⟨refused, by rw [AcuUsers.execute_eq_false refused]⟩

/-- A transaction is open that the store does not know of: its `COMMIT` failed. -/
def AcuUsers.Stuck (u : AcuUsers) : Prop :=
  u.inTxn = false ∧ u.conn.saved.isSome = true

instance (u : AcuUsers) : Decidable u.Stuck :=
  inferInstanceAs (Decidable (_ ∧ _))

/-- A commit that fails: the running tables are as they were, unless a stuck
transaction is rolled back. -/
structure CommitFailed (u after : AcuUsers) : Prop where
  loading : after.loading = false
  oracle : after.faults.ok = u.faults.ok
  committed : after.running.committed = u.running.committed ∨
    after.running.committed = u.running.view
  running : u.faults.Never .rollback →
    if u.Stuck then Connection.WentBack u.running after.running
    else Connection.KeepsView u.running after.running

/-- What is committed behind a swap that stopped is what was, or what the swap found. -/
theorem committed_swapTables_stopped {u : AcuUsers} (stopped : (u.execSql swapTables).1 = false) :
    (u.execSql swapTables).2.conn.committed = u.conn.committed ∨
      (u.execSql swapTables).2.conn.committed = u.conn.view := by
  rcases execSql_swapTables_stopped stopped with ⟨_, same⟩ | ⟨_, inside⟩
  · exact .inl (by rw [same])
  · exact .inr (Connection.committed_of_saved inside)

/-- The rollback behind a swap that stopped. -/
theorem commitFailed_swap {u : AcuUsers} (stopped : (u.execSql swapTables).1 = false)
    {before : AcuUsers} (committed : TxnEffect before u)
    (same : before.inTxn = false → u = before)
    (closed : before.inTxn = true → u.conn.saved = none) :
    CommitFailed before
      (AcuUsers.execute
        { (u.execSql swapTables).2 with loading := false, loadTotal := 0 } .rollback).2 := by
  have flags := u.execSql_flags swapTables
  have shape := execSql_swapTables_stopped stopped
  have kept := committed_swapTables_stopped stopped
  generalize (u.execSql swapTables).2 = swapped at flags shape kept
  have last := AcuUsers.execute_flags { swapped with loading := false, loadTotal := 0 } .rollback
  have oracle : swapped.faults.ok = before.faults.ok := flags.oracle.trans committed.oracle
  have durable : swapped.conn.committed = before.conn.committed ∨
      swapped.conn.committed = before.conn.view := by
    rcases kept with old | new
    · rw [old]
      exact committed.conn.committed
    · rw [new, committed.conn.view]
      exact .inr rfl
  refine
    { loading := last.loading
      oracle := last.oracle.trans oracle
      committed := ?_
      running := ?_ }
  · have undone := execute_rollback_committed { swapped with loading := false, loadTotal := 0 }
    unfold AcuUsers.running
    simp only [Connection.committed_project, Connection.view_project, undone]
    exact durable.imp (congrArg _) (congrArg _)
  · intro reliable
    have reliableNow : swapped.faults.Never .rollback := by
      unfold Faults.Never
      rw [oracle]
      exact reliable
    have back := @execute_rollback { swapped with loading := false, loadTotal := 0 } reliableNow
    unfold AcuUsers.running
    cases outside : u.conn.saved with
    | none =>
        -- nothing was open: the rollback restores what the swap found
        have notStuck : ¬ before.Stuck := by
          rintro ⟨idle, inside⟩
          rw [← same idle, outside] at inside
          cases inside
        have found : swapped.conn.committed = before.conn.view := by
          rw [← committed.conn.view]
          rcases kept with old | new
          · exact old.trans (Connection.committed_of_autocommit outside)
          · exact new
        rw [if_neg notStuck]
        apply Connection.KeepsView.project
        exact
          { view := back.view.trans found
            committed := .inr (back.committed.trans found) }
    | some stored =>
        have idle : before.inTxn = false := by
          cases opened : before.inTxn with
          | false => rfl
          | true =>
              rw [closed opened] at outside
              cases outside
        have stuck : before.Stuck := ⟨idle, by rw [← same idle, outside]; rfl⟩
        rw [if_pos stuck]
        apply Connection.WentBack.project
        rcases shape with ⟨_, unchanged⟩ | ⟨closed, _⟩
        · rw [← same idle, ← unchanged]
          exact back
        · rw [closed] at outside
          cases outside

inductive CommitOutcome (u : AcuUsers) : Bool × AcuUsers → Prop where
  | idle (idle : u.loading = false) : CommitOutcome u (false, u)
  | failed {after : AcuUsers} (active : u.loading = true) (effect : CommitFailed u after) :
      CommitOutcome u (false, after)
  | replaced {after : AcuUsers} (active : u.loading = true) (unstuck : ¬ u.Stuck)
      (exist : u.conn.view.load.Exist)
      (running : after.running = Connection.opened u.conn.view.load)
      (loading : after.loading = false) (oracle : after.faults.ok = u.faults.ok) :
      CommitOutcome u (true, after)

theorem usersLoadCommit_outcome (u : AcuUsers) : CommitOutcome u (usersLoadCommit u) := by
  unfold usersLoadCommit
  split
  next active =>
    have effect := txnCommit_effect u
    split
    next failed refused =>
      -- `COMMIT` itself failed, so the flag is cleared and nothing is rolled back
      have opened : u.inTxn = true := by
        by_contra idle
        rw [txnCommit_idle (by simpa using idle)] at refused
        cases refused
      have shape := txnCommit_open opened
      rw [refused] at shape effect
      obtain ⟨idle, conn⟩ := shape
      have running : (usersLoadAbort failed).running = u.running := by
        rw [usersLoadAbort_idle idle]
        exact congrArg (Connection.project · UsersFile.running) conn
      have notStuck : ¬ u.Stuck := by
        rintro ⟨closed, _⟩
        rw [opened] at closed
        cases closed
      exact .failed active
        { loading := loading_usersLoadAbort failed
          oracle := (oracle_usersLoadAbort failed).trans effect.oracle
          committed := .inl (by rw [running])
          running := fun _ => by
            rw [if_neg notStuck, running]
            exact .refl _ }
    next committed done =>
      have same : u.inTxn = false → committed = u := by
        intro idle
        rw [txnCommit_idle idle] at done
        exact (Prod.mk.inj done).2.symm
      have closed : u.inTxn = true → committed.conn.saved = none := by
        intro opened
        have shape := txnCommit_open opened
        rw [done] at shape
        exact shape.2
      rw [done] at effect
      split
      next swapped finished =>
        have finish : (committed.execSql swapTables).1 = true := by rw [finished]
        obtain ⟨before, exist, running, outside⟩ := execSql_swapTables finish
        have flags := committed.execSql_flags swapTables
        rw [finished] at running outside flags
        have outside : swapped.conn.saved = none := outside
        refine .replaced active ?_ ?_ ?_ rfl (flags.oracle.trans effect.oracle)
        · rintro ⟨idle, inside⟩
          rw [← same idle, before] at inside
          cases inside
        · rw [← effect.view]
          exact exist
        · unfold AcuUsers.running Connection.project Connection.opened
          simp only [outside, Option.map_none]
          rw [running, effect.view]
      next failed stopped =>
        have stop : (committed.execSql swapTables).1 = false := by rw [stopped]
        have result := commitFailed_swap stop effect same closed
        rw [stopped] at result
        exact .failed active result
  next idle => exact .idle (by simpa using idle)

/-! ### The operations of a download -/

inductive LoadOp where
  | start
  | put (record : AcuUserRecord)
  | putCard (card : AcuUserCard)
  | finish
  | abort
deriving Repr, Inhabited, DecidableEq

/-- What an operation answers, and the store after it. -/
def loadStep (u : AcuUsers) : LoadOp → Bool × AcuUsers
  | .start => usersLoadBegin u
  | .put record => usersLoadPut u record
  | .putCard card => usersLoadPutCard u card
  | .finish => usersLoadCommit u
  | .abort => (true, usersLoadAbort u)

/-- The operation rolls a transaction back that was open before it. -/
def AcuUsers.RollsBack (u : AcuUsers) : LoadOp → Prop
  | .start => u.loading = true ∧ u.inTxn = true
  | .put _ => False
  | .putCard _ => False
  | .finish => u.loading = true ∧ u.Stuck
  | .abort => u.inTxn = true

/-- What one operation of a download does to the running tables. -/
inductive RunningEffect (u : AcuUsers) (op : LoadOp) : Bool × AcuUsers → Prop where
  | kept {answer : Bool} {after : AcuUsers} (forward : ¬ u.RollsBack op)
      (unswapped : ¬ (op = .finish ∧ answer = true))
      (keeps : Connection.KeepsView u.running after.running) :
      RunningEffect u op (answer, after)
  | wentBack {answer : Bool} {after : AcuUsers} (backward : u.RollsBack op)
      (unswapped : ¬ (op = .finish ∧ answer = true))
      (back : Connection.WentBack u.running after.running) :
      RunningEffect u op (answer, after)
  | replaced {after : AcuUsers} (forward : ¬ u.RollsBack op) (finished : op = .finish)
      (exist : u.conn.view.load.Exist)
      (running : after.running = Connection.opened u.conn.view.load) :
      RunningEffect u op (true, after)

theorem loadStep_running {u : AcuUsers} (reliable : u.faults.Never .rollback) (op : LoadOp) :
    RunningEffect u op (loadStep u op) := by
  cases op with
  | start =>
      have running := usersLoadBegin_running reliable
      by_cases both : u.loading = true ∧ u.inTxn = true
      · rw [if_pos both] at running
        exact .wentBack both (by simp) running
      · rw [if_neg both] at running
        exact .kept both (by simp) running
  | put record => exact .kept id (by simp) (usersLoadPut_effect u record).running
  | putCard card => exact .kept id (by simp) (usersLoadPutCard_effect u card).running
  | finish =>
      show RunningEffect u .finish (usersLoadCommit u)
      have outcome := usersLoadCommit_outcome u
      generalize usersLoadCommit u = result at outcome
      cases outcome with
      | idle idle =>
          refine .kept ?_ (by simp) (.refl _)
          rintro ⟨active, _⟩
          rw [idle] at active
          cases active
      | failed active effect =>
          have running := effect.running reliable
          by_cases stuck : u.Stuck
          · rw [if_pos stuck] at running
            exact .wentBack ⟨active, stuck⟩ (by simp) running
          · rw [if_neg stuck] at running
            exact .kept (fun back => stuck back.2) (by simp) running
      | replaced active unstuck exist running loading oracle =>
          exact .replaced (fun backward => unstuck backward.2) rfl exist running
  | abort =>
      cases opened : u.inTxn with
      | true => exact .wentBack opened (by simp) (usersLoadAbort_open opened reliable)
      | false =>
          refine .kept (by simp [AcuUsers.RollsBack, opened]) (by simp) ?_
          show Connection.KeepsView u.running (usersLoadAbort u).running
          rw [usersLoadAbort_idle opened]
          exact .refl _

/-- No operation of a download changes the oracle. -/
theorem loadStep_oracle (u : AcuUsers) (op : LoadOp) :
    (loadStep u op).2.faults.ok = u.faults.ok := by
  cases op with
  | start =>
      show (usersLoadBegin u).2.faults.ok = _
      rw [usersLoadBegin_eq, (beginDownload_effect _).oracle]
      split
      next => exact oracle_usersLoadAbort u
      next => rfl
  | put record => exact (usersLoadPut_effect u record).oracle
  | putCard card => exact (usersLoadPutCard_effect u card).oracle
  | finish =>
      show (usersLoadCommit u).2.faults.ok = _
      have outcome := usersLoadCommit_outcome u
      generalize usersLoadCommit u = result at outcome
      cases outcome with
      | idle idle => rfl
      | failed active effect => exact effect.oracle
      | replaced active unstuck exist running loading oracle => exact oracle
  | abort => exact oracle_usersLoadAbort u

/-- Both tables exist, in the view and in what is committed. -/
def AcuUsers.TablesExist (u : AcuUsers) : Prop :=
  Connection.Both TablePair.Exist u.running

theorem loadStep_tablesExist {u : AcuUsers} (reliable : u.faults.Never .rollback)
    (exist : u.TablesExist) (op : LoadOp) : (loadStep u op).2.TablesExist := by
  have effect := loadStep_running reliable op
  generalize loadStep u op = result at effect
  cases effect with
  | kept forward unswapped keeps => exact exist.keepsView keeps
  | wentBack backward unswapped back => exact exist.wentBack back
  | replaced forward finished loaded running =>
      unfold AcuUsers.TablesExist
      rw [running]
      exact { view := loaded, committed := loaded }

/-! ### Opening -/

namespace UsersStmt

/-- Statements that change no row of the running tables. -/
def keepsRoster : UsersStmt → Bool
  | .create _ | .createCardIndex => true
  | .drop .usersLoad | .drop .userCardsLoad => true
  | _ => false

theorem roster_change {file changed : UsersFile} {statement : UsersStmt}
    (keeps : statement.keepsRoster = true) (done : statement.change file = some changed) :
    changed.running.roster = file.running.roster := by
  cases statement with
  | create table => cases table <;> cases done <;> rfl
  | drop table => cases table <;> cases keeps <;> cases done <;> rfl
  | createCardIndex =>
      have done : (if file.userCards.isSome then some file else none) = some changed := done
      split at done
      next =>
        cases done
        rfl
      next => cases done
  | _ => cases keeps

theorem onTables_of_keepsRoster {statement : UsersStmt}
    (keeps : statement.keepsRoster = true) : statement.onTables = true := by
  cases statement <;> first | rfl | cases keeps

end UsersStmt

/-- The connection, seen as a roster. -/
def AcuUsers.rosters (u : AcuUsers) : Connection Roster :=
  u.running.project TablePair.roster

/-- What opening a file leaves, when it succeeds and when it does not. -/
structure Opened (file : UsersFile) (faults : Faults SqlKind) (result : Bool × AcuUsers) :
    Prop where
  rosters : result.2.rosters = Connection.opened file.running.roster
  exist : result.1 = true → result.2.TablesExist
  loading : result.2.loading = false
  oracle : result.2.faults.ok = faults.ok

theorem usersSchema_change {file changed : UsersFile}
    (done : usersSchema.foldlM UsersStmt.change file = some changed) :
    changed.running.Exist := by
  cases done
  exact ⟨rfl, rfl⟩

/-- A script that controls no transaction and changes no running row. -/
theorem execSql_rosters (u : AcuUsers) {statements : List UsersStmt}
    (keeps : ∀ statement ∈ statements, statement.keepsRoster = true) :
    (u.execSql statements).2.rosters = u.rosters := by
  have same := AcuUsers.execSql_project (fun file => file.running.roster)
    (fun statement member => UsersStmt.onTables_of_keepsRoster (keeps statement member))
    (fun statement member _ _ => UsersStmt.roster_change (keeps statement member)) u
  unfold AcuUsers.rosters AcuUsers.running
  simpa [Connection.project, Function.comp_def] using same

theorem usersOpen_opened (file : UsersFile) (faults : Faults SqlKind) :
    Opened file faults (usersOpen file faults) := by
  have schema : ∀ statement ∈ usersSchema, statement.keepsRoster = true := by decide
  have drop : ∀ statement ∈ dropLoadTables, statement.keepsRoster = true := by decide
  have forward : ∀ statement ∈ usersSchema, statement.kind ≠ .rollback := by decide
  unfold usersOpen
  simp only
  generalize fresh : (AcuUsers.mk (Connection.opened file) faults false false 0 0) = u
  have created := execSql_rosters u schema
  have flags := u.execSql_flags usersSchema
  have start : u.rosters = Connection.opened file.running.roster := by
    rw [← fresh]
    rfl
  split
  next closed failed =>
    rw [failed] at created flags
    exact
      { rosters := created.trans start
        exist := by simp
        loading := flags.loading.trans (by rw [← fresh])
        oracle := flags.oracle.trans (by rw [← fresh]) }
  next opened done =>
    have first : (u.execSql usersSchema).1 = true := by rw [done]
    have exist := usersSchema_change (AcuUsers.execSql_view forward first)
    rw [done] at created flags exist
    have outside : opened.running.saved = none := by
      have saved := congrArg Connection.saved (created.trans start)
      exact Option.map_eq_none_iff.mp saved
    have dropped := AcuUsers.running_execSql onLoad_dropLoadTables opened
    have flagsLater := opened.execSql_flags dropLoadTables
    refine
      { rosters := (execSql_rosters opened drop).trans (created.trans start)
        exist := fun _ => ?_
        loading := (flags.trans flagsLater).loading.trans (by rw [← fresh])
        oracle := (flags.trans flagsLater).oracle.trans (by rw [← fresh]) }
    unfold AcuUsers.TablesExist
    rw [dropped]
    refine { view := exist, committed := ?_ }
    rw [Connection.committed_of_autocommit outside]
    exact exist

/-! ### Processes that end and start again -/

/-- A store in use, or the file that a process left. -/
inductive UsersProcess where
  | up (users : AcuUsers)
  | down (file : UsersFile)

/-- The outcomes of the statements of one process. -/
structure ReliableFaults where
  faults : Faults SqlKind
  reads : faults.Never .select
  rollbacks : faults.Never .rollback

/-- No statement fails. -/
def ReliableFaults.none : ReliableFaults :=
  { faults := Faults.none
    reads := fun _ => rfl
    rollbacks := fun _ => rfl }

/-- Start a process on a file; when the file cannot be opened it is left as it is. -/
def reopen (file : UsersFile) (next : ReliableFaults) : UsersProcess :=
  match usersOpen file next.faults with
  | (true, users) => .up users
  | (false, closed) => .down (usersClose closed)

namespace UsersProcess

/-- The roster a process answers from, or the one its file keeps for the next. -/
def roster : UsersProcess → Roster
  | .up u => u.roster
  | .down file => file.roster

end UsersProcess

/-- Starting again serves what the file holds. -/
theorem roster_reopen (file : UsersFile) (next : ReliableFaults) :
    (reopen file next).roster = file.roster := by
  have opened := usersOpen_opened file next.faults
  unfold reopen
  generalize usersOpen file next.faults = result at opened
  obtain ⟨answer, users⟩ := result
  cases answer with
  | true => exact congrArg Connection.view opened.rosters
  | false =>
      have committed := congrArg Connection.committed opened.rosters
      rw [AcuUsers.rosters, Connection.committed_project, AcuUsers.running,
        Connection.committed_project] at committed
      exact committed

/-- A store that was opened has its tables, and its process keeps its oracle. -/
theorem reopen_up {file : UsersFile} {next : ReliableFaults} {u : AcuUsers}
    (running : reopen file next = .up u) :
    u.TablesExist ∧ u.faults.ok = next.faults.ok := by
  have opened := usersOpen_opened file next.faults
  unfold reopen at running
  generalize usersOpen file next.faults = result at opened running
  obtain ⟨answer, users⟩ := result
  cases answer with
  | true =>
      cases running
      exact ⟨opened.exist rfl, opened.oracle⟩
  | false => cases running

theorem reopen_of_opens {file : UsersFile} {next : ReliableFaults}
    (opens : (usersOpen file next.faults).1 = true) :
    reopen file next = .up (usersOpen file next.faults).2 := by
  unfold reopen
  split
  next users result => rw [result]
  next closed result =>
    rw [result] at opens
    cases opens

/-- The store of a first start. -/
def AcuUsers.first : AcuUsers :=
  (usersOpen UsersFile.blank Faults.none).2

theorem reopen_blank : reopen UsersFile.blank .none = .up .first :=
  reopen_of_opens (by decide)

def somePerson : AcuUserRecord :=
  { (default : AcuUserRecord) with userId := ⟨[0, 0, 0, 0, 0, 0, 0, 9], rfl⟩ }

end Acud
