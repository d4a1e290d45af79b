/-
Module: Acud.Proofs.TransactionFlag
Purpose: The transaction flag of the roster store over runs with failing statements.
Trusted boundary: none
Main exports:
  TxnOp, txnStep, AcuUsers.TxnTracked, TxnEnds, txnTracked_iff
-/
import Acud.Proofs.FaultlessUpload

namespace Acud

open Lib

/-!
`in_txn` says whether the batch transaction of a download is open.  `txn_commit` clears
it before it knows what comes of `COMMIT`, and `users_load_abort` clears it whatever comes
of `ROLLBACK`.  So the flag is right in every state of a run as long as, and only as long
as, every `COMMIT` of a batch and every `ROLLBACK` that is executed succeeds.

The swap of a download is one text of statements; its own `BEGIN` and `COMMIT` may fail,
for the `ROLLBACK` behind them does not look at the flag.

[SRC src/acud/users.c]
-/

/-- Downloads and individual changes. -/
inductive TxnOp where
  | load (op : LoadOp)
  | put (record : AcuUserRecord)
  | putCard (card : AcuUserCard)
  | delete (userId : UserId)
deriving Repr, Inhabited, DecidableEq

def txnStep (u : AcuUsers) : TxnOp → Option AcuUsers
  | .load op => some (loadStep u op).2
  | .put record => some (usersPut u record).2
  | .putCard card => some (usersPutCard u card).2
  | .delete userId => some (usersDelete u userId).2

/-- The flag is set exactly while a transaction is open.  None is open when no download
is on, and the next download can begin one once statements no longer fail. -/
structure AcuUsers.TxnTracked (u : AcuUsers) : Prop where
  flag : u.inTxn = u.conn.inTransaction
  ended : u.loading = false → u.conn.inTransaction = false
  begins : (usersLoadBegin { u with faults := Faults.none }).1 = true

/-- The oracle in front of the swap: behind the `COMMIT` of the last batch. -/
def AcuUsers.swapFaults (u : AcuUsers) : Faults SqlKind :=
  if u.inTxn then u.faults.next else u.faults

/-- The row is inserted, and the batch that it belongs to is full with it. -/
def AcuUsers.CompletesBatch (u : AcuUsers) (statement : UsersStmt) : Prop :=
  u.loading = true ∧ u.inTxn = true ∧ u.executes statement = true ∧
    usersLoadCommitEvery ≤ u.loadRows + 1

/-- No `COMMIT` of a batch and no `ROLLBACK` that the operation executes fails. -/
def TxnEnds (u : AcuUsers) : TxnOp → Prop
  | .load .start =>
      u.loading = true → u.inTxn = true → u.faults.succeeds .rollback = true
  | .load (.put record) =>
      u.CompletesBatch (.loadPut record) → u.faults.next.succeeds .commit = true
  | .load (.putCard card) =>
      u.CompletesBatch (.loadPutCard card) → u.faults.next.succeeds .commit = true
  | .load .finish =>
      u.loading = true →
        (u.inTxn = true → u.faults.succeeds .commit = true) ∧
          (u.swapFaults.succeeds .begin = true →
            ∀ behind, u.swapFaults.stopped (swapTables.map UsersStmt.kind) = some behind →
              behind.succeeds .rollback = true)
  | .load .abort => u.inTxn = true → u.faults.succeeds .rollback = true
  | _ => True

/-! ### What holds along the way -/

/-- The flag is right, the batch is that of a download, and the load tables of a download
that is on are there. -/
structure AcuUsers.BatchSound (u : AcuUsers) : Prop where
  flag : u.inTxn = u.conn.inTransaction
  owned : u.inTxn = true → u.loading = true
  load : u.loading = true → u.conn.view.load.Exist

/-- An insert leaves the load tables there. -/
theorem InsertEffect.load_exist {u after : AcuUsers} {statement : UsersStmt}
    (effect : InsertEffect u after statement)
    (keeps : ∀ file changed, statement.change file = some changed → file.load.Exist →
      changed.load.Exist)
    (exist : u.conn.view.load.Exist) : after.conn.view.load.Exist := by
  have view := effect.view
  split at view
  next => exact keeps _ _ view exist
  next =>
    rw [view]
    exact exist

namespace AcuUsers

variable {u : AcuUsers}

theorem inTransaction_eq_false {conn : Connection UsersFile} :
    conn.inTransaction = false ↔ conn.saved = none := by
  unfold Connection.inTransaction
  cases conn.saved with
  | none => exact iff_of_true rfl rfl
  | some stored => exact iff_of_false nofun nofun

/-- Nothing is open and no download is on. -/
theorem BatchSound.of_idle (closed : u.inTxn = false) (outside : u.conn.saved = none)
    (idle : u.loading = false) : u.BatchSound :=
  { flag := closed.trans (inTransaction_eq_false.mpr outside).symm
    owned := fun opened => by rw [closed] at opened; cases opened
    load := fun active => by rw [idle] at active; cases active }

theorem BatchSound.outside (sound : u.BatchSound) (closed : u.inTxn = false) :
    u.conn.saved = none := by
  apply inTransaction_eq_false.mp
  rw [← sound.flag]
  exact closed

theorem BatchSound.inside (sound : u.BatchSound) (opened : u.inTxn = true) :
    u.conn.inTransaction = true := by
  rw [← sound.flag]
  exact opened

/-! ### Transaction control -/

/-- `ROLLBACK` of an open transaction ends it exactly when it does not fail. -/
theorem saved_rollback (inside : u.conn.inTransaction = true) :
    (u.execute .rollback).2.conn.saved = none ↔ u.faults.succeeds .rollback = true := by
  rcases u.execute_cases .rollback with ⟨conn, undone, executed⟩ | ⟨reason, failed⟩
  · have done : (u.execute .rollback).1 = true := by rw [executed]
    rw [executed]
    obtain ⟨_, outside, _⟩ := Connection.rollback?_eq_some undone
    exact iff_of_true outside (execute_iff.mp done).1
  · rw [failed]
    refine iff_of_false ?_ ?_
    · intro outside
      rw [inTransaction_eq_false.mpr outside] at inside
      cases inside
    · intro succeeds
      rcases reason with refused | ended
      · rw [show UsersStmt.rollback.kind = SqlKind.rollback from rfl, succeeds] at refused
        cases refused
      · have outside : u.conn.saved = none := by
          simpa [UsersStmt.effect, Connection.rollback?] using ended
        rw [inTransaction_eq_false.mpr outside] at inside
        cases inside

/-- `ROLLBACK` outside a transaction is refused and changes nothing. -/
theorem saved_rollback_outside (outside : u.conn.saved = none) :
    (u.execute .rollback).2.conn.saved = none := by
  rcases u.execute_cases .rollback with ⟨conn, undone, executed⟩ | ⟨_, failed⟩
  · rw [executed]
    exact (Connection.rollback?_eq_some undone).2.1
  · rw [failed]
    exact outside

/-- The flag is right behind `txn_begin` exactly when nothing was open in front of it. -/
theorem txnBegin_flag (closed : u.inTxn = false) :
    (txnBegin u).2.inTxn = (txnBegin u).2.conn.inTransaction ↔ u.conn.saved = none := by
  unfold txnBegin
  rw [if_neg (by simp [closed])]
  rcases u.execute_cases .begin with ⟨conn, began, executed⟩ | ⟨_, failed⟩
  · obtain ⟨outside, rfl⟩ := Connection.begin?_eq_some began
    rw [executed]
    exact iff_of_true rfl outside
  · rw [failed]
    simp only [closed]
    rw [eq_comm]
    exact inTransaction_eq_false

/-- `txn_commit` succeeds exactly when its `COMMIT` does. -/
theorem txnCommit_iff (opened : u.inTxn = true) (inside : u.conn.inTransaction = true) :
    (txnCommit u).1 = true ↔ u.faults.succeeds .commit = true := by
  have applies : (UsersStmt.effect u.conn .commit).isSome = true := by
    simp [UsersStmt.effect, Connection.commit?, inside]
  have executed : txnCommit u = AcuUsers.execute { u with inTxn := false } .commit := by
    unfold txnCommit
    rw [if_pos opened]
  rw [executed, execute_iff]
  exact and_iff_left applies

/-- A batch that is full is committed, and the flag is right behind it exactly when that
`COMMIT` does not fail. -/
theorem rotateTxnIfNeeded_flag (flag : u.inTxn = u.conn.inTransaction) :
    (rotateTxnIfNeeded u).2.inTxn = (rotateTxnIfNeeded u).2.conn.inTransaction ↔
      (u.inTxn = true → usersLoadCommitEvery ≤ u.loadRows →
        u.faults.succeeds .commit = true) := by
  unfold rotateTxnIfNeeded
  split
  next few => exact iff_of_true flag fun _ full => absurd few (by omega)
  next full =>
    have full : usersLoadCommitEvery ≤ u.loadRows := by omega
    cases opened : u.inTxn with
    | false =>
        rw [txnCommit_idle opened]
        refine iff_of_true ((txnBegin_flag opened).mpr ?_) nofun
        exact inTransaction_eq_false.mp (flag.symm.trans opened)
    | true =>
        have inside : u.conn.inTransaction = true := flag.symm.trans opened
        have answer := txnCommit_iff opened inside
        obtain ⟨closed, shape⟩ := txnCommit_open opened
        split
        next committed done =>
          rw [done] at answer closed shape
          refine iff_of_true ((txnBegin_flag closed).mpr shape) ?_
          intro _ _
          exact answer.mp rfl
        next failed refused =>
          rw [refused] at answer closed shape
          refine iff_of_false ?_ ?_
          · intro right
            rw [show failed.conn = u.conn from shape, inside] at right
            rw [show failed.inTxn = false from closed] at right
            cases right
          · intro succeeds
            exact nomatch answer.mpr (succeeds rfl full)

/-! ### Inserts -/

/-- A statement on tables takes effect exactly when it answers so. -/
theorem execute_tables_eq {statement : UsersStmt} (tables : statement.onTables = true) :
    (u.execute statement).1 = u.executes statement := by
  rw [Bool.eq_iff_iff, execute_iff, statement.effect_onTables tables, Option.isSome_map,
    executes, Bool.and_eq_true]

/-- What is left when an insert was executed: a row more, in the same batch. -/
theorem insertRow_flag (sound : u.BatchSound) (active : u.loading = true)
    {statement : UsersStmt} (insert : statement.onLoad = true)
    (stored : (u.execute statement).1 = true) (total : Nat) :
    (rotateTxnIfNeeded
        { (u.execute statement).2 with
          loadRows := (u.execute statement).2.loadRows + 1
          loadTotal := total }).2.inTxn =
      (rotateTxnIfNeeded
        { (u.execute statement).2 with
          loadRows := (u.execute statement).2.loadRows + 1
          loadTotal := total }).2.conn.inTransaction ↔
      (u.CompletesBatch statement → u.faults.next.succeeds .commit = true) := by
  have tables := UsersStmt.onTables_of_onLoad insert
  have saved := saved_execute tables u
  obtain ⟨conn, effect, reached⟩ := execute_eq_true stored
  rw [reached] at saved ⊢
  have flag : u.inTxn = conn.inTransaction := by
    rw [sound.flag]
    exact congrArg Option.isSome saved.symm
  have rotated := @rotateTxnIfNeeded_flag
    { u with
      conn := conn
      faults := u.faults.next
      loadRows := u.loadRows + 1
      loadTotal := total } flag
  refine rotated.trans ?_
  have executed : u.executes statement = true := (execute_tables_eq tables).symm.trans stored
  constructor
  · rintro commits ⟨_, opened, _, full⟩
    exact commits opened full
  · intro commits opened full
    exact commits ⟨active, opened, executed, full⟩

/-- An insert that is refused completes nothing. -/
theorem not_completesBatch {statement : UsersStmt} (insert : statement.onLoad = true)
    (failed : (u.execute statement).1 = false) : ¬ u.CompletesBatch statement := by
  rintro ⟨_, _, executed, _⟩
  rw [execute_tables_eq (UsersStmt.onTables_of_onLoad insert), executed] at failed
  cases failed

theorem failed_flag (sound : u.BatchSound) {statement : UsersStmt}
    (tables : statement.onTables = true) :
    (u.execute statement).2.inTxn = (u.execute statement).2.conn.inTransaction := by
  rw [(u.execute_flags statement).inTxn, sound.flag]
  exact congrArg Option.isSome (saved_execute tables u).symm

/-- So the flag stays right behind an insert that is refused. -/
theorem refusedInsert_flag (sound : u.BatchSound) {statement : UsersStmt}
    (insert : statement.onLoad = true) (failed : (u.execute statement).1 = false) :
    (u.execute statement).2.inTxn = (u.execute statement).2.conn.inTransaction ↔
      (u.CompletesBatch statement → u.faults.next.succeeds .commit = true) := by
  have flag := failed_flag sound (UsersStmt.onTables_of_onLoad insert)
  exact iff_of_true flag fun completes => absurd completes (not_completesBatch insert failed)

theorem usersLoadPut_flag (sound : u.BatchSound) (record : AcuUserRecord) :
    (usersLoadPut u record).2.inTxn = (usersLoadPut u record).2.conn.inTransaction ↔
      (u.CompletesBatch (.loadPut record) → u.faults.next.succeeds .commit = true) := by
  unfold usersLoadPut
  split
  next active =>
    split
    next stored done =>
      have flag := @insertRow_flag u sound active (.loadPut record) rfl (by rw [done])
        (stored.loadTotal + 1)
      rw [done] at flag
      exact flag
    next failed refused =>
      have flag := @refusedInsert_flag u sound (.loadPut record) rfl (by rw [refused])
      rw [refused] at flag
      exact flag
  next idle => exact iff_of_true sound.flag fun completes => absurd completes.1 idle

theorem usersLoadPutCard_flag (sound : u.BatchSound) (card : AcuUserCard) :
    (usersLoadPutCard u card).2.inTxn = (usersLoadPutCard u card).2.conn.inTransaction ↔
      (u.CompletesBatch (.loadPutCard card) → u.faults.next.succeeds .commit = true) := by
  unfold usersLoadPutCard
  split
  next active =>
    split
    next stored done =>
      have flag := @insertRow_flag u sound active (.loadPutCard card) rfl
        (by rw [done]) stored.loadTotal
      rw [done] at flag
      exact flag
    next failed refused =>
      have flag := @refusedInsert_flag u sound (.loadPutCard card) rfl (by rw [refused])
      rw [refused] at flag
      exact flag
  next idle => exact iff_of_true sound.flag fun completes => absurd completes.1 idle

/-! ### Abort and start -/

/-- Without a batch an abort leaves the transaction of the connection alone. -/
theorem saved_usersLoadAbort_idle (closed : u.inTxn = false) :
    (usersLoadAbort u).conn.saved = u.conn.saved := by
  have tables : ∀ statement ∈ dropLoadTables, statement.onTables = true := by decide
  show (execSql _ dropLoadTables).2.conn.saved = _
  rw [saved_execSql tables, if_neg (by simp [closed])]

/-- Behind an abort nothing is open exactly when the `ROLLBACK` it executes succeeds. -/
theorem saved_usersLoadAbort (sound : u.BatchSound) :
    (usersLoadAbort u).conn.saved = none ↔
      (u.inTxn = true → u.faults.succeeds .rollback = true) := by
  cases opened : u.inTxn with
  | true =>
      have tables : ∀ statement ∈ dropLoadTables, statement.onTables = true := by decide
      show (execSql _ dropLoadTables).2.conn.saved = none ↔ _
      rw [saved_execSql tables, if_pos opened]
      simp only [true_implies]
      exact saved_rollback (sound.inside opened)
  | false =>
      rw [saved_usersLoadAbort_idle opened]
      exact iff_of_true (sound.outside opened) nofun

/-- The flag is right behind `users_load_begin` exactly when nothing was open in front of
its `BEGIN`. -/
theorem beginDownload_flag (closed : u.inTxn = false) :
    (beginDownload u).2.inTxn = (beginDownload u).2.conn.inTransaction ↔
      u.conn.saved = none := by
  have tables : ∀ statement ∈ createLoadTables, statement.onTables = true := by decide
  have saved : (u.execSql createLoadTables).2.conn.saved = u.conn.saved := saved_execSql tables
  have flags := u.execSql_flags createLoadTables
  unfold beginDownload
  split
  next failed stopped =>
    rw [stopped] at saved flags
    simp only
    rw [flags.inTxn, closed, ← saved, eq_comm]
    exact inTransaction_eq_false
  next created done =>
    rw [done] at saved flags
    have flag := @txnBegin_flag { created with loading := true, loadTotal := 0 }
      (flags.inTxn.trans closed)
    rw [show ({ created with loading := true, loadTotal := 0 } : AcuUsers).conn.saved =
      u.conn.saved from saved] at flag
    split
    next began result =>
      rw [result] at flag
      exact flag
    next refused result =>
      rw [result] at flag
      exact flag

theorem usersLoadBegin_flag (sound : u.BatchSound) :
    (usersLoadBegin u).2.inTxn = (usersLoadBegin u).2.conn.inTransaction ↔
      (u.loading = true → u.inTxn = true → u.faults.succeeds .rollback = true) := by
  rw [usersLoadBegin_eq]
  cases active : u.loading with
  | true =>
      simp only [↓reduceIte, true_implies]
      rw [beginDownload_flag (inTxn_usersLoadAbort u)]
      exact saved_usersLoadAbort sound
  | false =>
      have closed : u.inTxn = false := by
        cases opened : u.inTxn with
        | false => rfl
        | true => exact absurd (sound.owned opened) (by simp [active])
      simp only [Bool.false_eq_true, ↓reduceIte, false_implies, iff_true]
      exact (beginDownload_flag closed).mpr (sound.outside closed)

/-! ### Commit -/

/-- A script whose statements apply stops where the oracle says. -/
theorem execSql_stopped {statements : List UsersStmt}
    (applies : (statements.foldlM (fun conn statement => UsersStmt.effect conn statement)
      u.conn).isSome = true) {behind : Faults SqlKind}
    (stopped : u.faults.stopped (statements.map UsersStmt.kind) = some behind) :
    (u.execSql statements).1 = false ∧ (u.execSql statements).2.faults = behind := by
  unfold execSql
  induction statements generalizing u with
  | nil => cases stopped
  | cons statement rest inductionHypothesis =>
      rw [List.foldlM_cons, Option.bind_eq_bind] at applies
      rw [List.map_cons, Faults.stopped] at stopped
      obtain ⟨final, reaches⟩ := Option.isSome_iff_exists.mp applies
      obtain ⟨conn, effect, later⟩ := Option.bind_eq_some_iff.mp reaches
      rw [runScript_cons]
      split at stopped
      next succeeds =>
        have done : (u.execute statement).1 = true :=
          execute_iff.mpr ⟨succeeds, by rw [effect]; rfl⟩
        obtain ⟨reached, reachedEffect, executed⟩ := execute_eq_true done
        rw [effect, Option.some.injEq] at reachedEffect
        subst reachedEffect
        rw [if_pos done, executed]
        exact inductionHypothesis (by rw [later]; rfl) stopped
      next fails =>
        have failed : (u.execute statement).1 = false := by
          rw [Bool.eq_false_iff]
          intro done
          exact fails (execute_iff.mp done).1
        rw [if_neg (by simp [failed]), execute_eq_false failed]
        exact ⟨rfl, Option.some.inj stopped⟩

/-- The swap and the `ROLLBACK` behind it leave nothing open exactly when that `ROLLBACK`
succeeds, where it ends a transaction that the swap began. -/
theorem saved_swap (outside : u.conn.saved = none) (exist : u.conn.view.load.Exist)
    (stopped : (u.execSql swapTables).1 = false) :
    (execute { (u.execSql swapTables).2 with loading := false, loadTotal := 0 }
        .rollback).2.conn.saved = none ↔
      (u.faults.succeeds .begin = true →
        ∀ behind, u.faults.stopped (swapTables.map UsersStmt.kind) = some behind →
          behind.succeeds .rollback = true) := by
  have applies := (swapTables_applies u.conn).mpr ⟨inTransaction_eq_false.mpr outside, exist⟩
  have halts : ∃ behind,
      u.faults.stopped (swapTables.map UsersStmt.kind) = some behind ∧
        (u.execSql swapTables).2.faults = behind := by
    cases reached : u.faults.stopped (swapTables.map UsersStmt.kind) with
    | none =>
        have done := execSql_iff.mpr ⟨Faults.stopped_eq_none.mp reached, applies⟩
        rw [stopped] at done
        cases done
    | some behind => exact ⟨behind, rfl, (execSql_stopped applies reached).2⟩
  obtain ⟨behind, halted, faults⟩ := halts
  rw [halted]
  rcases execSql_swapTables_stopped stopped with ⟨refused, unchanged⟩ | ⟨_, inside⟩
  · -- the `BEGIN` of the swap failed, so there is nothing to roll back
    refine iff_of_true ?_ ?_
    · apply saved_rollback_outside
      exact (congrArg Connection.saved unchanged).trans outside
    · intro succeeds
      have began : (u.execute .begin).1 = true := by
        refine execute_iff.mpr ⟨succeeds, ?_⟩
        simp [UsersStmt.effect, Connection.begin?, Connection.inTransaction, outside]
      rw [refused] at began
      cases began
  · have began : u.faults.succeeds .begin = true := by
      by_contra fails
      have refused : ¬ (u.execute .begin).1 = true := fun done => fails (execute_iff.mp done).1
      have short : (u.execSql swapTables).2 = (u.execute .begin).2 := by
        rw [execSql, swapTables_eq, runScript_cons, if_neg refused]
      rw [short, execute_eq_false (by simpa using refused), outside] at inside
      cases inside
    have rolled := @saved_rollback
      { (u.execSql swapTables).2 with loading := false, loadTotal := 0 }
      (congrArg Option.isSome inside)
    rw [rolled]
    simp only [faults, began, Option.some.injEq, forall_eq', true_implies]

/-- What is found in front of the swap when the batch is committed, or there is none. -/
theorem txnCommit_ready (sound : u.BatchSound) (done : (txnCommit u).1 = true) :
    (txnCommit u).2.faults = u.swapFaults ∧ (txnCommit u).2.conn.saved = none := by
  cases opened : u.inTxn with
  | true =>
      have shape := (txnCommit_open opened).2
      rw [if_pos done] at shape
      refine ⟨?_, shape⟩
      unfold txnCommit at done ⊢
      rw [if_pos opened] at done ⊢
      obtain ⟨conn, effect, reached⟩ := execute_eq_true done
      rw [reached, swapFaults, if_pos opened]
  | false =>
      rw [txnCommit_idle opened, swapFaults, opened]
      exact ⟨rfl, sound.outside opened⟩

/-- When the `COMMIT` of the last batch fails, the abort behind it sees no flag and leaves
the transaction open. -/
theorem saved_abort_of_refused (sound : u.BatchSound) (refused : (txnCommit u).1 = false) :
    u.inTxn = true ∧ ¬ u.faults.succeeds .commit = true ∧
      (usersLoadAbort (txnCommit u).2).conn.saved ≠ none := by
  have opened : u.inTxn = true := by
    by_contra idle
    rw [txnCommit_idle (by simpa using idle)] at refused
    cases refused
  have inside := sound.inside opened
  have answer := txnCommit_iff opened inside
  obtain ⟨closed, shape⟩ := txnCommit_open opened
  rw [refused] at answer shape
  have same : (txnCommit u).2.conn = u.conn := shape
  refine ⟨opened, fun succeeds => (nomatch answer.mpr succeeds), ?_⟩
  rw [saved_usersLoadAbort_idle closed, same]
  intro outside
  rw [inTransaction_eq_false.mpr outside] at inside
  cases inside

theorem usersLoadCommit_flag (sound : u.BatchSound) :
    (usersLoadCommit u).2.inTxn = (usersLoadCommit u).2.conn.inTransaction ↔
      TxnEnds u (.load .finish) := by
  show _ ↔ (u.loading = true → _)
  cases active : u.loading with
  | false =>
      have idle : usersLoadCommit u = (false, u) := by
        unfold usersLoadCommit
        rw [if_neg (by simp [active])]
      rw [idle]
      exact iff_of_true sound.flag nofun
  | true =>
      have ready := txnCommit_ready sound
      have effect := txnCommit_effect u
      rw [inTxn_usersLoadCommit active, eq_comm, inTransaction_eq_false]
      simp only [true_implies]
      unfold usersLoadCommit
      rw [if_pos active]
      split
      next failed refused =>
        have left := saved_abort_of_refused sound (by rw [refused])
        rw [refused] at left
        obtain ⟨opened, fails, inside⟩ := left
        exact iff_of_false inside fun ends => fails (ends.1 opened)
      next committed done =>
        rw [done] at ready effect
        obtain ⟨faults, outside⟩ := ready rfl
        have exist : committed.conn.view.load.Exist := by
          rw [show committed.conn.view = u.conn.view from effect.view]
          exact sound.load active
        have commits : u.inTxn = true → u.faults.succeeds .commit = true := by
          intro opened
          apply (txnCommit_iff opened (sound.inside opened)).mp
          rw [done]
        have swapped := @execSql_swapTables committed
        have halted := saved_swap outside exist
        rw [← show committed.faults = u.swapFaults from faults]
        split
        next final finished =>
          rw [finished] at swapped
          refine iff_of_true (swapped rfl).2.2.2 ⟨commits, ?_⟩
          have ran : (committed.execSql swapTables).1 = true := by rw [finished]
          intro _ behind stops
          rw [Faults.stopped_eq_none.mpr (execSql_iff.mp ran).1] at stops
          cases stops
        next failed stopped =>
          rw [stopped] at halted
          rw [and_iff_right commits]
          exact halted rfl

/-! ### Steps and runs -/

/-- An individual statement controls no transaction and leaves the load tables alone. -/
theorem BatchSound.execute (sound : u.BatchSound) {statement : UsersStmt}
    (individual : statement.individual = true) : (u.execute statement).2.BatchSound := by
  have tables := UsersStmt.onTables_of_individual individual
  have flags := u.execute_flags statement
  have load := congrArg Connection.view
    (execute_project UsersFile.load tables (UsersStmt.load_change individual) u)
  refine { flag := failed_flag sound tables, owned := ?_, load := ?_ }
  · rw [flags.inTxn, flags.loading]
    exact sound.owned
  · intro active
    rw [flags.loading] at active
    rw [show (u.execute statement).2.conn.view.load = u.conn.view.load from load]
    exact sound.load active

/-- The load tables of a download that is on are there behind every operation. -/
theorem loadStep_loadExist (sound : u.BatchSound) (op : LoadOp)
    (active : (loadStep u op).2.loading = true) : (loadStep u op).2.conn.view.load.Exist := by
  cases op with
  | start =>
      rw [loadStep, usersLoadBegin_eq] at active ⊢
      have effect := beginDownload_effect (if u.loading then usersLoadAbort u else u)
      have idle : (if u.loading then usersLoadAbort u else u).loading = false := by
        split
        next => rfl
        next idle => simpa using idle
      rw [effect.load ((effect.loading idle).symm.trans active)]
      exact TablePair.exist_of _
  | put record =>
      have effect := usersLoadPut_effect u record
      refine effect.load_exist ?_ (sound.load (effect.loading.symm.trans active))
      intro file changed done exist
      obtain ⟨table, _, rfl⟩ := Option.map_eq_some_iff.mp done
      exact ⟨rfl, exist.2⟩
  | putCard card =>
      have effect := usersLoadPutCard_effect u card
      refine effect.load_exist ?_ (sound.load (effect.loading.symm.trans active))
      intro file changed done exist
      obtain ⟨table, _, rfl⟩ := Option.map_eq_some_iff.mp done
      exact ⟨exist.1, rfl⟩
  | finish =>
      have outcome := usersLoadCommit_outcome u
      rw [loadStep] at active ⊢
      generalize usersLoadCommit u = result at outcome active
      cases outcome with
      | idle idle => exact sound.load active
      | failed _ effect => exact absurd active (by simp [effect.loading])
      | replaced _ _ _ _ loading _ => exact absurd active (by simp [loading])
  | abort => cases active

/-- The flag is right behind an operation exactly when no `COMMIT` of a batch and no
`ROLLBACK` failed in it. -/
theorem txnStep_flag (sound : u.BatchSound) {op : TxnOp} {next : AcuUsers}
    (stepped : txnStep u op = some next) :
    next.inTxn = next.conn.inTransaction ↔ TxnEnds u op := by
  cases op with
  | load op =>
      cases stepped
      cases op with
      | start => exact usersLoadBegin_flag sound
      | put record => exact usersLoadPut_flag sound record
      | putCard card => exact usersLoadPutCard_flag sound card
      | finish => exact usersLoadCommit_flag sound
      | abort =>
          rw [loadStep, inTxn_usersLoadAbort, eq_comm, inTransaction_eq_false]
          exact saved_usersLoadAbort sound
  | put record =>
      cases stepped
      exact iff_of_true (sound.execute (rfl : (UsersStmt.put record).individual = true)).flag
        trivial
  | putCard card =>
      cases stepped
      exact iff_of_true
        (sound.execute (rfl : (UsersStmt.putCard card).individual = true)).flag trivial
  | delete userId =>
      cases stepped
      have cards := sound.execute (rfl : (UsersStmt.deleteCardsOf userId).individual = true)
      exact iff_of_true
        (cards.execute (rfl : (UsersStmt.deleteUser userId).individual = true)).flag trivial

theorem txnStep_sound (sound : u.BatchSound) {op : TxnOp} {next : AcuUsers}
    (stepped : txnStep u op = some next) (ends : TxnEnds u op) : next.BatchSound := by
  have flag := (txnStep_flag sound stepped).mpr ends
  cases op with
  | load op =>
      cases stepped
      exact
        { flag := flag
          owned := loadStep_owned sound.owned op
          load := loadStep_loadExist sound op }
  | put record =>
      cases stepped
      exact sound.execute (rfl : (UsersStmt.put record).individual = true)
  | putCard card =>
      cases stepped
      exact sound.execute (rfl : (UsersStmt.putCard card).individual = true)
  | delete userId =>
      cases stepped
      have cards := sound.execute (rfl : (UsersStmt.deleteCardsOf userId).individual = true)
      exact cards.execute (rfl : (UsersStmt.deleteUser userId).individual = true)

/-- A store whose flag is right has nothing open outside a download and can begin the
next one. -/
theorem BatchSound.tracked (sound : u.BatchSound) : u.TxnTracked := by
  have closed : u.loading = false → u.inTxn = false := by
    intro idle
    cases opened : u.inTxn with
    | false => rfl
    | true => exact absurd (sound.owned opened) (by simp [idle])
  refine
    { flag := sound.flag
      ended := fun idle => sound.flag.symm.trans (closed idle)
      begins := ?_ }
  have faultless : ∀ kind, (Faults.none : Faults SqlKind).Never kind := fun _ _ => rfl
  rw [usersLoadBegin_eq]
  split
  next active =>
    have still : BatchSound { u with faults := Faults.none } :=
      { flag := sound.flag
        owned := sound.owned
        load := sound.load }
    have outside := (saved_usersLoadAbort still).mpr fun _ => rfl
    refine (Orderly.begins (Orderly.of_outside ?_ outside (inTxn_usersLoadAbort _) rfl) rfl).1
    intro kind
    unfold Faults.Never
    rw [oracle_usersLoadAbort]
    exact faultless kind
  next idle =>
    have idle : u.loading = false := by simpa using idle
    have outside := sound.outside (closed idle)
    have orderly : Orderly { u with faults := Faults.none } :=
      .of_outside faultless outside (closed idle) idle
    exact (orderly.begins idle).1

end AcuUsers

theorem usersOpen_sound (file : UsersFile) (faults : Faults SqlKind) :
    (usersOpen file faults).2.BatchSound := by
  have start := usersOpen_opened file faults
  have saved := congrArg Connection.saved start.rosters
  have outside : (usersOpen file faults).2.running.saved = none :=
    Option.map_eq_none_iff.mp saved
  exact .of_idle (inTxn_usersOpen file faults) (Option.map_eq_none_iff.mp outside)
    start.loading

/-- A store that was opened, over every run of downloads and individual changes with
statements that fail: the flag is right, and nothing is left open, in every state as long
as and only as long as no `COMMIT` of a batch and no `ROLLBACK` fails. -/
theorem txnTracked_iff (file : UsersFile) (faults : Faults SqlKind) (ops : List TxnOp) :
    Always txnStep AcuUsers.TxnTracked (usersOpen file faults).2 ops ↔
      Guarded txnStep TxnEnds (usersOpen file faults).2 ops := by
  refine always_iff_guarded (fun _ sound => sound.tracked) ?_ ?_ (usersOpen_sound file faults)
  · intro u op next sound ends stepped
    exact AcuUsers.txnStep_sound sound stepped ends
  · intro u op next sound tracked stepped
    exact (AcuUsers.txnStep_flag sound stepped).mp tracked.flag

/-- Every `COMMIT` fails, as long as another process reads the file. -/
def busyCommit : Faults SqlKind :=
  { ok := fun kind _ => decide (kind ≠ .commit)
    used := 0 }

/-- The `COMMIT` at the end of a download fails: the flag is cleared, the abort executes
no `ROLLBACK`, the transaction stays open, and no download can be begun. -/
theorem failed_commit_leaves_transaction :
    ¬ Always txnStep AcuUsers.TxnTracked (usersOpen UsersFile.blank busyCommit).2
      [.load .start, .load (.put default), .load .finish] := by
  have stuck : (run txnStep (usersOpen UsersFile.blank busyCommit).2
      [.load .start, .load (.put default), .load .finish]).map
        (fun u => (u.inTxn, u.conn.inTransaction)) = some (false, true) := by
    decide +kernel
  intro tracked
  obtain ⟨final, reached, flags⟩ := Option.map_eq_some_iff.mp stuck
  have flag := (tracked.final reached).flag
  rw [Prod.mk.injEq] at flags
  rw [flags.1, flags.2] at flag
  cases flag

end Acud
