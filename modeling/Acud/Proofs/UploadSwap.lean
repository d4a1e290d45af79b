/-
Module: Acud.Proofs.UploadSwap
Purpose: Which roster is in use behind an upload.
Trusted boundary: none
Main exports:
  AcuUsers.CanSwap, usersLoadCommit_iff, AcuUsers.freed, loadedIntake, upload_roster
-/
import Acud.Proofs.StoreRuns
import Acud.Proofs.UploadResult

namespace Acud

open Lib

/-!
Behind an upload the roster is what its records left in the load tables, if the swap was
carried out, and the one from before if it failed.

Whether a swap can be carried out is told from the state in front of it.

[SRC src/acud/userbin.c, src/acud/users.c]
-/

/-! ### When a swap can be carried out -/

/-- The load tables exist, the transaction that is open, if any, is the batch of the
download, and no statement fails. -/
structure AcuUsers.CanSwap (u : AcuUsers) : Prop where
  exist : u.conn.view.load.Exist
  transaction : u.conn.inTransaction = u.inTxn
  allowed : u.faults.allows
    ((if u.inTxn then [SqlKind.commit] else []) ++ swapTables.map UsersStmt.kind) = true

/-- The swap applies outside a transaction, when both load tables exist. -/
theorem swapTables_applies (conn : Connection UsersFile) :
    (swapTables.foldlM (fun conn statement => UsersStmt.effect conn statement) conn).isSome =
        true ↔ conn.inTransaction = false ∧ conn.view.load.Exist := by
  obtain ⟨⟨users, cards, usersLoad, cardsLoad⟩, saved⟩ := conn
  cases saved with
  | some stored => exact iff_of_false nofun fun outside => nomatch outside.1
  | none =>
      cases usersLoad with
      | none => exact iff_of_false nofun fun outside => nomatch outside.2.1
      | some loadUsers =>
          cases cardsLoad with
          | none => exact iff_of_false nofun fun outside => nomatch outside.2.2
          | some loadCards => exact iff_of_true rfl ⟨rfl, rfl, rfl⟩

/-- A download is committed exactly when its swap can be carried out. -/
theorem usersLoadCommit_iff {u : AcuUsers} (active : u.loading = true) :
    (usersLoadCommit u).1 = true ↔ u.CanSwap := by
  have swaps : (usersLoadCommit u).1 = true ↔
      (txnCommit u).1 = true ∧ ((txnCommit u).2.execSql swapTables).1 = true := by
    unfold usersLoadCommit
    rw [if_pos active]
    split
    next failed refused => simp [refused]
    next committed done =>
      rw [done]
      simp only [true_and]
      split
      next swapped finished => simp [finished]
      next failed stopped => simp [stopped]
  rw [swaps]
  cases opened : u.inTxn with
  | false =>
      rw [txnCommit_idle opened, AcuUsers.execSql_iff, swapTables_applies]
      constructor
      · rintro ⟨_, allowed, outside, exist⟩
        exact
          { exist := exist
            transaction := outside.trans opened.symm
            allowed := by simpa [opened] using allowed }
      · intro can
        refine ⟨rfl, ?_, can.transaction.trans opened, can.exist⟩
        simpa [opened] using can.allowed
  | true =>
      have committed : txnCommit u = AcuUsers.execute { u with inTxn := false } .commit := by
        unfold txnCommit
        rw [if_pos opened]
      rw [committed, AcuUsers.execute_iff]
      constructor
      · rintro ⟨⟨succeeds, applies⟩, swapped⟩
        have done : (AcuUsers.execute { u with inTxn := false } .commit).1 = true :=
          AcuUsers.execute_iff.mpr ⟨succeeds, applies⟩
        obtain ⟨conn, effect, reached⟩ := AcuUsers.execute_eq_true done
        obtain ⟨inside, rfl⟩ := Connection.commit?_eq_some effect
        rw [reached, AcuUsers.execSql_iff, swapTables_applies] at swapped
        obtain ⟨allowed, _, exist⟩ := swapped
        refine { exist := exist, transaction := inside.trans opened.symm, allowed := ?_ }
        rw [opened]
        exact Bool.and_eq_true_iff.mpr ⟨succeeds, allowed⟩
      · intro can
        have allowed := can.allowed
        rw [opened] at allowed
        obtain ⟨succeeds, later⟩ := Bool.and_eq_true_iff.mp allowed
        have inside : u.conn.inTransaction = true := can.transaction.trans opened
        have applies : (UsersStmt.effect u.conn .commit).isSome = true := by
          unfold UsersStmt.effect Connection.commit?
          rw [if_pos inside]
          rfl
        have done : (AcuUsers.execute { u with inTxn := false } .commit).1 = true :=
          AcuUsers.execute_iff.mpr ⟨succeeds, applies⟩
        obtain ⟨conn, effect, reached⟩ := AcuUsers.execute_eq_true done
        obtain ⟨_, rfl⟩ := Connection.commit?_eq_some effect
        refine ⟨⟨succeeds, applies⟩, ?_⟩
        rw [reached, AcuUsers.execSql_iff, swapTables_applies]
        exact ⟨later, rfl, can.exist⟩

/-! ### Before the swap -/

/-- What is running when a download has begun is committed. -/
theorem beginDownload_settled {u after : AcuUsers} (idle : u.inTxn = false)
    (began : beginDownload u = (true, after)) :
    Connection.Both (fun tables => tables = u.running.view) after.running := by
  have created := AcuUsers.running_execSql onLoad_createLoadTables u
  have flags := u.execSql_flags createLoadTables
  unfold beginDownload at began
  split at began
  next => cases began
  next tables done =>
    rw [done] at created flags
    have closed : tables.inTxn = false := flags.inTxn.trans idle
    split at began
    next opened result =>
      cases began
      unfold txnBegin at result
      rw [if_neg (by simp [closed])] at result
      split at result
      next started executed =>
        cases result
        obtain ⟨conn, effect, reached⟩ := AcuUsers.execute_eq_true (congrArg Prod.fst executed)
        obtain ⟨_, rfl⟩ := Connection.begin?_eq_some effect
        rw [executed] at reached
        cases reached
        have view := congrArg Connection.view created
        exact { view := view, committed := view }
      next => cases result
    next => cases began

/-- The roster behind a Start: the one before it, or what was committed when an upload
in progress is given up for it. -/
def AcuUsers.freed (u : AcuUsers) : TablePair :=
  if u.inTxn then u.running.committed else u.running.view

theorem usersLoadAbort_freed {u : AcuUsers} (reliable : u.faults.Never .rollback) :
    (usersLoadAbort u).running.view = u.freed := by
  unfold AcuUsers.freed
  cases opened : u.inTxn with
  | true => exact (usersLoadAbort_open opened reliable).view
  | false => rw [usersLoadAbort_idle opened, if_neg (by decide)]

section Upload

variable {store started : UserStore} {totalSize totalCount : UInt32} {binaryObj : UInt8}
  {data : Bytes} {requests : List (UInt16 × Bytes)} {answers : List AcuUserBinStatus}

theorem Started.settled (healthy : store.users.Healthy)
    (accepted : userbinStart store totalSize totalCount binaryObj = (true, started)) :
    Connection.Both (fun tables => tables = store.users.freed) started.users.running := by
  obtain ⟨_, began⟩ := userbinStart_accepted accepted
  rw [usersLoadBegin_eq] at began
  have aborted := usersLoadAbort_freed healthy.rollbacks
  have frees : ∀ free : AcuUsers, free.inTxn = false → free.running.view = store.users.freed →
      beginDownload free = (true, started.users) →
      Connection.Both (fun tables => tables = store.users.freed) started.users.running := by
    intro free idle same begun
    rw [← same]
    exact beginDownload_settled idle begun
  cases active : store.userbin.active with
  | true =>
      have abort : userbinAbort store =
          { users := usersLoadAbort store.users
            userbin :=
              { store.userbin with
                active := false
                record := []
                received := 0
                haveIndex := false } } := by
        unfold userbinAbort
        rw [if_pos active]
      rw [if_pos active, abort] at began
      exact frees _ (inTxn_usersLoadAbort store.users) aborted began
  | false =>
      have none : (if store.userbin.active then userbinAbort store else store) = store :=
        if_neg (by simp [active])
      rw [none] at began
      cases loading : store.users.loading with
      | true =>
          rw [if_pos loading] at began
          exact frees _ (inTxn_usersLoadAbort store.users) aborted began
      | false =>
          have idle : store.users.inTxn = false := by
            cases opened : store.users.inTxn with
            | false => rfl
            | true => exact absurd (healthy.owned opened) (by simp [loading])
          rw [loading, if_neg Bool.false_ne_true] at began
          refine frees _ idle ?_ began
          unfold AcuUsers.freed
          rw [if_neg (by simp [idle])]

/-- The store when all records of an upload were taken, in front of the swap. -/
def loadedIntake (started : UserStore) (data : Bytes) : Intake :=
  (blocks started.userbin.recordLen data).1.foldl Intake.store started.intake

/-- The roster behind an upload: what was loaded when the swap can be carried out, and
otherwise the one behind the Start. -/
theorem upload_roster (healthy : store.users.Healthy)
    (accepted : userbinStart store totalSize totalCount binaryObj = (true, started))
    (delivery : UploadDelivery totalSize.toNat none 0 requests data answers) :
    ((loadedIntake started data).users.CanSwap →
      (continueAll started requests).2.users.roster =
        (loadedIntake started data).users.conn.view.loadRoster) ∧
      (¬ (loadedIntake started data).users.CanSwap →
        (continueAll started requests).2.users.roster = store.users.freed.roster) := by
  have left := congrArg Intake.users (upload_processed accepted delivery)
  have inserting := started.intake.storeAll_inserting (blocks started.userbin.recordLen data).1
  have settled := (Started.settled healthy accepted).keepsView inserting.running
  have active : (loadedIntake started data).users.loading = true :=
    inserting.loading.trans (Started.loads accepted).loading
  have reliable : (loadedIntake started data).users.faults.Never .rollback := by
    unfold Faults.Never
    rw [loadedIntake, inserting.oracle]
    exact (Started.oracle accepted).symm ▸ healthy.rollbacks
  have can := usersLoadCommit_iff active
  have finished : (loadedIntake started data).finish.users =
      (usersLoadCommit (loadedIntake started data).users).2 := by
    unfold Intake.finish
    split
    next users done => rw [done]
    next users done => rw [done]
  have after : (continueAll started requests).2.users =
      (usersLoadCommit (loadedIntake started data).users).2 := left.trans finished
  have settled : Connection.Both (fun tables => tables = store.users.freed)
      (loadedIntake started data).users.running := settled
  have outcome := usersLoadCommit_outcome (loadedIntake started data).users
  rw [after, ← can]
  generalize usersLoadCommit (loadedIntake started data).users = result at outcome
  cases outcome with
  | idle idle =>
      rw [active] at idle
      cases idle
  | @failed users _ effect =>
      refine ⟨nofun, fun _ => ?_⟩
      have running := effect.running reliable
      have kept : users.running.view = store.users.freed := by
        split at running
        next => exact (settled.wentBack running).view
        next => exact (settled.keepsView running).view
      rw [AcuUsers.roster_eq, kept]
  | @replaced users _ _ _ running _ _ =>
      refine ⟨fun _ => ?_, fun unable => absurd rfl unable⟩
      rw [AcuUsers.roster_eq, running]
      rfl

end Upload

end Acud
