/-
Module: Acud.Proofs.StoreRuns
Purpose: The roster store behind the receiver, over runs of commands.
Trusted boundary: none
Main exports:
  RosterSteps, StoreOp, storeStep, AcuUsers.Healthy, AcuUsers.Named, run_healthy, run_named
-/
import Acud.Lib.Machine
import Acud.Proofs.RosterChanges
import Acud.Proofs.UploadRecords
import Acud.UserCmd

namespace Acud

open Lib

/-!
Commands reach the roster store by operations of a download and by individual
statements, and none of them stores a user with an empty id.  `RosterSteps` says that
of each command once; an invariant then needs a look at the operations only.

[SRC src/acud/userbin.c, src/acud/usercmd.c, src/acud/net.c]
-/

/-! ### Commands are made of operations -/

/-- The operation stores no empty user id. -/
def LoadOp.Named : LoadOp → Prop
  | .put record => record.userId.isZero = false
  | _ => True

def UsersStmt.Named : UsersStmt → Prop
  | .put record => record.userId.isZero = false
  | _ => True

/-- The store after operations of downloads and individual statements. -/
inductive RosterSteps (u : AcuUsers) : AcuUsers → Prop where
  | refl : RosterSteps u u
  | load {middle : AcuUsers} (before : RosterSteps u middle) (op : LoadOp) (named : op.Named) :
      RosterSteps u (loadStep middle op).2
  | individual {middle : AcuUsers} (before : RosterSteps u middle) (statement : UsersStmt)
      (individual : statement.individual = true) (named : statement.Named) :
      RosterSteps u (middle.execute statement).2

namespace RosterSteps

theorem trans {first second third : AcuUsers} (early : RosterSteps first second)
    (late : RosterSteps second third) : RosterSteps first third := by
  induction late with
  | refl => exact early
  | load _ op named inductionHypothesis => exact inductionHypothesis.load op named
  | individual _ statement individual named inductionHypothesis =>
      exact inductionHypothesis.individual statement individual named

/-- What the operations keep, every command keeps. -/
theorem invariant {property : AcuUsers → Prop}
    (load : ∀ u op, op.Named → property u → property (loadStep u op).2)
    (individual : ∀ u statement, UsersStmt.individual statement = true → statement.Named →
      property u → property (u.execute statement).2)
    {before after : AcuUsers} (steps : RosterSteps before after) (holds : property before) :
    property after := by
  induction steps with
  | refl => exact holds
  | load _ op named inductionHypothesis => exact load _ op named inductionHypothesis
  | individual _ statement isIndividual named inductionHypothesis =>
      exact individual _ statement isIndividual named inductionHypothesis

/-- Commands do not change which statements fail. -/
theorem oracle {before after : AcuUsers} (steps : RosterSteps before after) :
    after.faults.ok = before.faults.ok := by
  apply @invariant (fun u => u.faults.ok = before.faults.ok) _ _ _ _ steps rfl
  · exact fun u op _ same => (loadStep_oracle u op).trans same
  · exact fun u statement _ _ same => (u.execute_flags statement).oracle.trans same

end RosterSteps

theorem storeRecord_steps (users : AcuUsers) (raw : Bytes) :
    RosterSteps users (storeRecord users raw).2 := by
  rw [storeRecord_eq]
  cases decoded : decodeRecord raw with
  | none => exact .refl
  | some entry =>
      obtain ⟨record, card⟩ := entry
      have put : RosterSteps users (usersLoadPut users record).2 :=
        RosterSteps.refl.load (.put record) (userId_nonzero_of_decodeRecord decoded)
      simp only
      unfold storeEntry
      split
      next failed refused =>
        rw [refused] at put
        exact put
      next stored done =>
        rw [done] at put
        cases card with
        | none => exact put
        | some card => exact put.load (.putCard card) trivial

theorem feedRecords_steps (rounds : Nat) {store : UserStore} {users : AcuUsers}
    (same : store.users = users) (data : Bytes) :
    RosterSteps users (feedRecords rounds store data).users := by
  induction rounds generalizing store users data with
  | zero =>
      rw [feedRecords, same]
      exact .refl
  | succ rounds inductionHypothesis =>
      rw [feedRecords]
      split
      next =>
        rw [same]
        exact .refl
      next =>
        simp only
        split
        next =>
          have stored := storeRecord_steps store.users
            (store.userbin.record ++
              data.take (store.userbin.recordLen - store.userbin.record.length))
          rw [same] at stored
          exact stored.trans (inductionHypothesis (by rw [same]) _)
        next => exact inductionHypothesis (by rw [same]) _

theorem userbinFinish_steps {store : UserStore} {users : AcuUsers} (same : store.users = users) :
    RosterSteps users (userbinFinish store).users := by
  subst same
  have committed : RosterSteps store.users (usersLoadCommit store.users).2 :=
    RosterSteps.refl.load .finish trivial
  unfold userbinFinish
  split
  next users done =>
    rw [done] at committed
    exact committed
  next users failed =>
    rw [failed] at committed
    exact committed

theorem userbinContinue_steps (store : UserStore) (index : UInt16) (data : Bytes) :
    RosterSteps store.users (userbinContinue store index data).2.users := by
  have fed : RosterSteps store.users (feedRecords data.length store data).users :=
    feedRecords_steps data.length rfl data
  unfold userbinContinue
  simp only
  split
  next => exact .refl
  next =>
    split
    next => exact .refl
    next =>
      split
      next => exact .refl
      next =>
        split
        next => exact .refl
        next =>
          split
          next => exact fed.trans (userbinFinish_steps rfl)
          next => exact fed

theorem userbinAbort_steps (store : UserStore) :
    RosterSteps store.users (userbinAbort store).users := by
  unfold userbinAbort
  split
  next => exact RosterSteps.refl.load .abort trivial
  next => exact .refl

theorem userbinStart_steps (store : UserStore) (totalSize totalCount : UInt32)
    (binaryObj : UInt8) :
    RosterSteps store.users (userbinStart store totalSize totalCount binaryObj).2.users := by
  have free : RosterSteps store.users
      (if store.userbin.active then userbinAbort store else store).users := by
    split
    next => exact userbinAbort_steps store
    next => exact .refl
  have begun := free.load .start trivial
  unfold userbinStart
  simp only
  split
  next => exact free
  next =>
    split
    next => exact free
    next =>
      split
      next users failed =>
        rw [loadStep, failed] at begun
        exact begun
      next users done =>
        rw [loadStep, done] at begun
        exact begun

theorem usercmdSet_steps (users : AcuUsers) (data : Memory) (len : Nat) :
    RosterSteps users (usercmdSet users data len).2 := by
  unfold usercmdSet
  split
  next => exact .refl
  next =>
    split
    next => exact .refl
    next named =>
      have put : RosterSteps users (usersPut users (usercmdSetRecord data len)).2 :=
        RosterSteps.refl.individual (.put _) rfl (by simpa [UsersStmt.Named] using named)
      split
      next failed refused =>
        rw [refused] at put
        exact put
      next stored done =>
        rw [done] at put
        split
        next => exact put
        next card _ =>
          have paired : RosterSteps users (usersPutCard stored card).2 :=
            put.individual (.putCard card) rfl trivial
          split
          next failed refused =>
            rw [refused] at paired
            exact paired
          next both done =>
            rw [done] at paired
            exact paired

theorem usercmdDelete_steps (users : AcuUsers) (data : Memory) (len : Nat) :
    RosterSteps users (usercmdDelete users data len).2 := by
  unfold usercmdDelete
  split
  next => exact .refl
  next =>
    have deleted : RosterSteps users
        (usersDelete users (Blob.ofMemory data 0 acuUserIdLen)).2 :=
      (RosterSteps.refl.individual (.deleteCardsOf _) rfl trivial).individual
        (.deleteUser _) rfl trivial
    split
    next failed refused =>
      rw [refused] at deleted
      exact deleted
    next gone done =>
      rw [done] at deleted
      exact deleted

theorem seedUsers_named : ∀ seed ∈ seedUsers, seed.record.userId.isZero = false := by
  decide

theorem seedLoop_steps (users : AcuUsers) {seeds : List SeedUser}
    (named : ∀ seed ∈ seeds, seed.record.userId.isZero = false) :
    RosterSteps users (seedLoop users seeds) := by
  induction seeds generalizing users with
  | nil => exact .refl
  | cons seed rest inductionHypothesis =>
      have put : RosterSteps users (usersPut users seed.record).2 :=
        RosterSteps.refl.individual (.put _) rfl (named seed List.mem_cons_self)
      rw [seedLoop]
      split
      next failed refused =>
        rw [refused] at put
        exact put
      next stored done =>
        rw [done] at put
        have paired : RosterSteps users (usersPutCard stored seed.cardRow).2 :=
          put.individual (.putCard _) rfl trivial
        split
        next failed refused =>
          rw [refused] at paired
          exact paired
        next both done =>
          rw [done] at paired
          refine paired.trans (inductionHypothesis both ?_)
          exact fun other member => named other (List.mem_cons_of_mem _ member)

theorem usersSeedDummy_steps (users : AcuUsers) : RosterSteps users (usersSeedDummy users) := by
  unfold usersSeedDummy
  split
  next => exact .refl
  next => exact seedLoop_steps users seedUsers_named

/-! ### Runs of commands -/

/-- Start a process on a file: it is opened, and the dummies are stored when there is
nobody. -/
def startStore (file : UsersFile) (first : ReliableFaults) : Option UserStore :=
  match reopen file first with
  | .up users => some (userbinCreate (usersSeedDummy users))
  | .down _ => none

/-- The store of a first start, with the five dummies. -/
def seededStore : UserStore :=
  userbinCreate (usersSeedDummy AcuUsers.first)

theorem startStore_blank : startStore UsersFile.blank .none = some seededStore := by
  unfold startStore
  rw [reopen_blank]
  rfl

/-- Nothing fails in it. -/
theorem seededStore_oracle : seededStore.users.faults.ok = fun _ _ => true :=
  (usersSeedDummy_steps AcuUsers.first).oracle.trans (reopen_up reopen_blank).2

inductive StoreOp where
  | set (data : Memory) (len : Nat)
  | delete (data : Memory) (len : Nat)
  | start (totalSize totalCount : UInt32) (binaryObj : UInt8)
  | chunk (index : UInt16) (data : Bytes)
  /-- The client is gone. -/
  | drop
  | receiveStart (binaryObj : UInt8)
  | receiveChunk (index : UInt16)
  /-- The process ends and is started again. -/
  | restart (next : ReliableFaults)

def storeStep (store : UserStore) : StoreOp → Option UserStore
  | .set data len => some { store with users := (usercmdSet store.users data len).2 }
  | .delete data len => some { store with users := (usercmdDelete store.users data len).2 }
  | .start totalSize totalCount binaryObj =>
      some (userbinStart store totalSize totalCount binaryObj).2
  | .chunk index data => some (userbinContinue store index data).2
  | .drop => some (userbinAbort store)
  | .receiveStart binaryObj => some (userbinReceiveStart store binaryObj).2
  | .receiveChunk index => some (userbinReceiveChunk store index).2
  | .restart next => startStore (usersClose store.users) next

theorem userbinReceiveStart_users (store : UserStore) (binaryObj : UInt8) :
    (userbinReceiveStart store binaryObj).2.users = store.users := by
  unfold userbinReceiveStart
  simp only
  repeat' split
  all_goals rfl

theorem userbinReceiveChunk_users (store : UserStore) (index : UInt16) :
    (userbinReceiveChunk store index).2.users = store.users := by
  unfold userbinReceiveChunk
  split <;> rfl

/-- A command makes operations on the store, or starts it anew. -/
theorem storeStep_cases {store next : UserStore} {op : StoreOp}
    (stepped : storeStep store op = some next) :
    RosterSteps store.users next.users ∨
      ∃ faults, startStore (usersClose store.users) faults = some next := by
  cases op with
  | set data len =>
      cases stepped
      exact .inl (usercmdSet_steps _ _ _)
  | delete data len =>
      cases stepped
      exact .inl (usercmdDelete_steps _ _ _)
  | start totalSize totalCount binaryObj =>
      cases stepped
      exact .inl (userbinStart_steps _ _ _ _)
  | chunk index data =>
      cases stepped
      exact .inl (userbinContinue_steps _ _ _)
  | drop =>
      cases stepped
      exact .inl (userbinAbort_steps _)
  | receiveStart binaryObj =>
      cases stepped
      rw [userbinReceiveStart_users]
      exact .inl .refl
  | receiveChunk index =>
      cases stepped
      rw [userbinReceiveChunk_users]
      exact .inl .refl
  | restart faults => exact .inr ⟨faults, stepped⟩

/-- What a started store has and the operations keep, every store has that commands
lead to. -/
theorem run_store {property : AcuUsers → Prop} {files : UsersFile → Prop}
    (opened : ∀ file first u, files file → reopen file first = .up u → property u)
    (closed : ∀ u, property u → files (usersClose u))
    (load : ∀ u op, LoadOp.Named op → property u → property (loadStep u op).2)
    (individual : ∀ u statement, UsersStmt.individual statement = true → statement.Named →
      property u → property (u.execute statement).2)
    {file : UsersFile} {first : ReliableFaults} {begun store : UserStore} {ops : List StoreOp}
    (start : files file) (starts : startStore file first = some begun)
    (reached : run storeStep begun ops = some store) : property store.users := by
  have started : ∀ file first begun, files file → startStore file first = some begun →
      property begun.users := by
    intro file first begun start starts
    unfold startStore at starts
    split at starts
    next users running =>
      cases starts
      exact (usersSeedDummy_steps users).invariant load individual
        (opened file first users start running)
    next => cases starts
  apply @run_invariant _ _ storeStep (fun store => property store.users) _ _ _ _ _ reached
  · intro store op next holds stepped
    rcases storeStep_cases stepped with steps | ⟨faults, restarted⟩
    · exact steps.invariant load individual holds
    · exact started _ _ _ (closed _ holds) restarted
  · exact started file first begun start starts

/-! ### Stores that work -/

/-- The tables exist, reads and rollbacks do not fail, and the batch transaction is that
of a download. -/
structure AcuUsers.Healthy (u : AcuUsers) : Prop where
  exist : u.TablesExist
  reads : u.faults.Never .select
  rollbacks : u.faults.Never .rollback
  owned : u.inTxn = true → u.loading = true

theorem inTxn_usersLoadAbort (u : AcuUsers) : (usersLoadAbort u).inTxn = false := by
  unfold usersLoadAbort
  split
  next => exact (AcuUsers.execSql_flags _ _).inTxn
  next idle => exact (AcuUsers.execSql_flags _ _).inTxn.trans (by simpa using idle)

theorem inTxn_txnCommit (u : AcuUsers) : (txnCommit u).2.inTxn = false := by
  cases opened : u.inTxn with
  | true => exact (txnCommit_open opened).1
  | false =>
      rw [txnCommit_idle opened]
      exact opened

theorem inTxn_usersLoadCommit {u : AcuUsers} (active : u.loading = true) :
    (usersLoadCommit u).2.inTxn = false := by
  have committed := inTxn_txnCommit u
  unfold usersLoadCommit
  rw [if_pos active]
  split
  next failed refused => exact inTxn_usersLoadAbort failed
  next closed done =>
    rw [done] at committed
    have flags := closed.execSql_flags swapTables
    split
    next swapped finished =>
      rw [finished] at flags
      exact flags.inTxn.trans committed
    next failed stopped =>
      rw [stopped] at flags
      have last := AcuUsers.execute_flags { failed with loading := false, loadTotal := 0 } .rollback
      exact last.inTxn.trans (flags.inTxn.trans committed)

theorem inTxn_txnBegin_failed {u after : AcuUsers} (idle : u.inTxn = false)
    (failed : txnBegin u = (false, after)) : after.inTxn = false := by
  have flags := u.execute_flags .begin
  unfold txnBegin at failed
  rw [if_neg (by simp [idle])] at failed
  split at failed
  next => cases failed
  next other refused =>
    cases failed
    rw [refused] at flags
    exact flags.inTxn.trans idle

/-- A download that does not begin leaves no transaction behind. -/
theorem beginDownload_owned {u : AcuUsers} (idle : u.inTxn = false) :
    (beginDownload u).2.inTxn = true → (beginDownload u).2.loading = true := by
  have flags := u.execSql_flags createLoadTables
  unfold beginDownload
  split
  next failed stopped =>
    rw [stopped] at flags
    intro opened
    rw [flags.inTxn, idle] at opened
    cases opened
  next tables done =>
    rw [done] at flags
    have began := txnBegin_effect { tables with loading := true, loadTotal := 0 }
    split
    next opened result =>
      rw [result] at began
      exact fun _ => began.loading
    next failed result =>
      have idleStill : tables.inTxn = false := flags.inTxn.trans idle
      have closed : failed.inTxn = false := inTxn_txnBegin_failed
        (u := { tables with loading := true, loadTotal := 0 }) idleStill result
      intro opened
      rw [closed] at opened
      cases opened

theorem loadStep_owned {u : AcuUsers} (owned : u.inTxn = true → u.loading = true) (op : LoadOp) :
    (loadStep u op).2.inTxn = true → (loadStep u op).2.loading = true := by
  cases active : u.loading with
  | false =>
      have idle : u.inTxn = false := by
        cases opened : u.inTxn with
        | false => rfl
        | true => exact absurd (owned opened) (by simp [active])
      cases op with
      | start =>
          rw [loadStep, usersLoadBegin_eq]
          apply beginDownload_owned
          rw [active]
          exact idle
      | put record => simp [loadStep, usersLoadPut, active, idle]
      | putCard card => simp [loadStep, usersLoadPutCard, active, idle]
      | finish => simp [loadStep, usersLoadCommit, active, idle]
      | abort => simp [loadStep, inTxn_usersLoadAbort]
  | true =>
      cases op with
      | start =>
          rw [loadStep, usersLoadBegin_eq]
          apply beginDownload_owned
          rw [active]
          exact inTxn_usersLoadAbort u
      | put record => exact fun _ => (usersLoadPut_effect u record).loading.trans active
      | putCard card => exact fun _ => (usersLoadPutCard_effect u card).loading.trans active
      | finish => simp [loadStep, inTxn_usersLoadCommit active]
      | abort => simp [loadStep, inTxn_usersLoadAbort]

theorem AcuUsers.Healthy.load {u : AcuUsers} (healthy : u.Healthy) (op : LoadOp) :
    (loadStep u op).2.Healthy := by
  have oracle := loadStep_oracle u op
  refine
    { exist := loadStep_tablesExist healthy.rollbacks healthy.exist op
      reads := ?_
      rollbacks := ?_
      owned := loadStep_owned healthy.owned op }
  · unfold Faults.Never
    rw [oracle]
    exact healthy.reads
  · unfold Faults.Never
    rw [oracle]
    exact healthy.rollbacks

theorem AcuUsers.Healthy.individual {u : AcuUsers} (healthy : u.Healthy) {statement : UsersStmt}
    (individual : statement.individual = true) : (u.execute statement).2.Healthy := by
  have flags := u.execute_flags statement
  refine
    { exist := (execute_individual healthy.exist statement individual).exist
      reads := ?_
      rollbacks := ?_
      owned := ?_ }
  · unfold Faults.Never
    rw [flags.oracle]
    exact healthy.reads
  · unfold Faults.Never
    rw [flags.oracle]
    exact healthy.rollbacks
  · rw [flags.inTxn, flags.loading]
    exact healthy.owned

theorem inTxn_usersOpen (file : UsersFile) (faults : Faults SqlKind) :
    (usersOpen file faults).2.inTxn = false := by
  unfold usersOpen
  simp only
  generalize fresh : (AcuUsers.mk (Connection.opened file) faults false false 0 0) = new
  have idle : new.inTxn = false := by rw [← fresh]
  have created := new.execSql_flags usersSchema
  generalize new.execSql usersSchema = result at created
  obtain ⟨_ | _, users⟩ := result
  · exact created.inTxn.trans idle
  · exact (users.execSql_flags dropLoadTables).inTxn.trans (created.inTxn.trans idle)

theorem reopen_inTxn {file : UsersFile} {first : ReliableFaults} {u : AcuUsers}
    (running : reopen file first = .up u) : u.inTxn = false := by
  have idle := inTxn_usersOpen file first.faults
  unfold reopen at running
  generalize usersOpen file first.faults = result at running idle
  obtain ⟨_ | _, users⟩ := result
  · cases running
  · cases running
    exact idle

theorem reopen_users_healthy {file : UsersFile} {first : ReliableFaults} {u : AcuUsers}
    (running : reopen file first = .up u) : u.Healthy := by
  obtain ⟨exist, oracle⟩ := reopen_up running
  refine { exist := exist, reads := ?_, rollbacks := ?_, owned := ?_ }
  · unfold Faults.Never
    rw [oracle]
    exact first.reads
  · unfold Faults.Never
    rw [oracle]
    exact first.rollbacks
  · rw [reopen_inTxn running]
    exact nofun

/-- After any commands the store works. -/
theorem run_healthy {file : UsersFile} {first : ReliableFaults} {begun store : UserStore}
    {ops : List StoreOp} (starts : startStore file first = some begun)
    (reached : run storeStep begun ops = some store) : store.users.Healthy :=
  @run_store AcuUsers.Healthy (fun _ => True) (fun _ _ _ _ running => reopen_users_healthy running)
    (fun _ _ => trivial) (fun _ op _ healthy => healthy.load op)
    (fun _ _ individual _ healthy => healthy.individual individual) file first begun store ops
    trivial starts reached

/-! ### Users with an id -/

/-- No user has an empty id. -/
def Roster.Named (roster : Roster) : Prop :=
  ∀ record ∈ roster.users.rows, record.userId.isZero = false

namespace Roster

theorem named_empty : Roster.empty.Named := by
  intro record member
  cases member

theorem Named.put {roster : Roster} (named : roster.Named) {record : AcuUserRecord}
    (nonempty : record.userId.isZero = false) : (roster.put record).Named := by
  intro other member
  rcases Table.mem_insertOrReplace.mp member with ⟨kept, _⟩ | rfl
  · exact named other kept
  · exact nonempty

theorem Named.change {roster : Roster} (named : roster.Named) {statement : UsersStmt}
    (nonempty : statement.Named) : (roster.change statement).Named := by
  cases statement with
  | put record => exact named.put nonempty
  | deleteUser userId =>
      intro other member
      exact named other (Table.mem_deleteWhere.mp member).1
  | _ => exact named

end Roster

/-- The users of the running tables have an id, and so have those that a download in
progress has stored. -/
structure AcuUsers.Named (u : AcuUsers) : Prop where
  healthy : u.Healthy
  running : Connection.Both (fun tables => tables.roster.Named) u.running
  load : u.loading = true → ∃ roster : Roster, u.conn.view.load = .of roster ∧ roster.Named

theorem loadStep_named {u : AcuUsers} (named : u.Named) {op : LoadOp} (nonempty : op.Named) :
    (loadStep u op).2.Named := by
  have healthy := named.healthy.load op
  cases op with
  | start =>
      have running := usersLoadBegin_both named.running
      have effect := beginDownload_effect (if u.loading then usersLoadAbort u else u)
      rw [← usersLoadBegin_eq] at effect
      have idle : (if u.loading then usersLoadAbort u else u).loading = false := by
        split
        next => rfl
        next idle => simpa using idle
      refine { healthy := healthy, running := running, load := fun active => ?_ }
      exact ⟨_, effect.load ((effect.loading idle).symm.trans active), Roster.named_empty⟩
  | put record =>
      have effect := usersLoadPut_effect u record
      refine
        { healthy := healthy
          running := named.running.keepsView effect.running
          load := fun active => ?_ }
      obtain ⟨roster, load, before⟩ := named.load (effect.loading.symm.trans active)
      by_cases inserted : u.inserts (.loadPut record) = true
      · exact ⟨_, effect.load_put inserted load, before.put nonempty⟩
      · exact ⟨roster, (effect.load_refused inserted).trans load, before⟩
  | putCard card =>
      have effect := usersLoadPutCard_effect u card
      refine
        { healthy := healthy
          running := named.running.keepsView effect.running
          load := fun active => ?_ }
      obtain ⟨roster, load, before⟩ := named.load (effect.loading.symm.trans active)
      by_cases inserted : u.inserts (.loadPutCard card) = true
      · exact ⟨_, effect.load_putCard inserted load, before⟩
      · exact ⟨roster, (effect.load_refused inserted).trans load, before⟩
  | finish =>
      have outcome := usersLoadCommit_outcome u
      rw [loadStep] at healthy ⊢
      generalize usersLoadCommit u = result at outcome healthy
      cases outcome with
      | idle idle => exact named
      | failed active effect =>
          have running := effect.running named.healthy.rollbacks
          refine
            { healthy := healthy
              running := ?_
              load := fun active => absurd active (by simp [effect.loading]) }
          split at running
          next => exact named.running.wentBack running
          next => exact named.running.keepsView running
      | replaced active unstuck exist running loading oracle =>
          obtain ⟨roster, load, loaded⟩ := named.load active
          refine
            { healthy := healthy
              running := ?_
              load := fun active => absurd active (by simp [loading]) }
          rw [running, load]
          exact { view := loaded, committed := loaded }
  | abort =>
      exact
        { healthy := healthy
          running := usersLoadAbort_both named.running
          load := nofun }

/-- An individual statement leaves the load tables alone. -/
theorem UsersStmt.load_change {statement : UsersStmt} (individual : statement.individual = true)
    (file changed : UsersFile) (done : statement.change file = some changed) :
    changed.load = file.load := by
  cases statement with
  | put record =>
      obtain ⟨table, _, rfl⟩ := Option.map_eq_some_iff.mp done
      rfl
  | putCard card =>
      obtain ⟨table, _, rfl⟩ := Option.map_eq_some_iff.mp done
      rfl
  | deleteCardsOf userId =>
      obtain ⟨table, _, rfl⟩ := Option.map_eq_some_iff.mp done
      rfl
  | deleteUser userId =>
      obtain ⟨table, _, rfl⟩ := Option.map_eq_some_iff.mp done
      rfl
  | _ => cases individual

/-- An individual statement, seen from the running tables. -/
theorem execute_both {property : TablePair → Prop} {u : AcuUsers} (exist : u.TablesExist)
    {statement : UsersStmt} (individual : statement.individual = true)
    (both : Connection.Both property u.running)
    (holds : property (.of (u.roster.change statement))) :
    Connection.Both property (u.execute statement).2.running := by
  obtain ⟨file, changed, fileExist, roster⟩ := UsersStmt.change_individual individual exist.view
  rcases u.execute_cases statement with ⟨conn, effect, executed⟩ | ⟨_, failed⟩
  · rw [statement.effect_onTables (UsersStmt.onTables_of_individual individual), changed] at effect
    cases effect
    rw [executed]
    have written : Connection.Both property (u.running.write fun _ => file.running) := by
      apply both.write
      rw [TablePair.eq_of_exist fileExist]
      have same : file.running.roster = u.roster.change statement := roster
      rw [same]
      exact holds
    exact written
  · rw [failed]
    exact both

theorem AcuUsers.Named.individual {u : AcuUsers} (named : u.Named) {statement : UsersStmt}
    (individual : statement.individual = true) (nonempty : statement.Named) :
    (u.execute statement).2.Named := by
  have exist := named.healthy.exist
  have flags := u.execute_flags statement
  have viewed : u.roster.Named := named.running.view
  refine
    { healthy := named.healthy.individual individual
      running := execute_both exist individual named.running (viewed.change nonempty)
      load := fun active => ?_ }
  obtain ⟨roster, load, loaded⟩ := named.load (flags.loading.symm.trans active)
  refine ⟨roster, ?_, loaded⟩
  have kept := AcuUsers.execute_project UsersFile.load
    (UsersStmt.onTables_of_individual individual) (UsersStmt.load_change individual) u
  exact (congrArg Connection.view kept).trans load

theorem reopen_named {file : UsersFile} {first : ReliableFaults} {u : AcuUsers}
    (named : file.roster.Named) (running : reopen file first = .up u) : u.Named := by
  have opened := usersOpen_opened file first.faults
  unfold reopen at running
  have healthy := @reopen_users_healthy file first u running
  generalize usersOpen file first.faults = result at opened running
  obtain ⟨answer, users⟩ := result
  cases answer with
  | true =>
      cases running
      have view : u.running.view.roster = file.roster :=
        congrArg Connection.view opened.rosters
      have committed := congrArg Connection.committed opened.rosters
      rw [AcuUsers.rosters, Connection.committed_project] at committed
      have idle : u.loading = false := opened.loading
      refine
        { healthy := healthy
          running := { view := ?_, committed := ?_ }
          load := fun active => absurd active (by simp [idle]) }
      · rw [view]
        exact named
      · rw [committed]
        exact named
  | false => cases running

/-- After any commands every user has an id. -/
theorem run_named {file : UsersFile} {first : ReliableFaults} {begun store : UserStore}
    {ops : List StoreOp} (named : file.roster.Named) (starts : startStore file first = some begun)
    (reached : run storeStep begun ops = some store) : store.users.Named := by
  apply @run_store AcuUsers.Named (fun file => file.roster.Named) _ _ _ _ file first begun store
    ops named starts reached
  · exact fun file first u named running => reopen_named named running
  · intro u named
    have committed := named.running.committed
    rw [AcuUsers.running, Connection.committed_project] at committed
    exact committed
  · exact fun u op nonempty named => loadStep_named named nonempty
  · exact fun u statement individual nonempty named => named.individual individual nonempty

end Acud
