/-
Module: Acud.Proofs.FaultlessUpload
Purpose: Uploads to a store whose statements do not fail.
Trusted boundary: none
Main exports:
  AcuUsers.Orderly, loadStep_orderly, run_orderly, userbinStart_orderly, Intake.storeAll_loads,
  upload_succeeds
-/
import Acud.Proofs.UploadSwap

namespace Acud

open Lib

/-!
When no statement fails, the transaction of the connection is always that of the
download, so a download can be begun, every insert is executed, and the swap can be
carried out.  An upload of records that can be decoded ends with the all-success event.

[SRC src/acud/users.c, src/acud/userbin.c]
-/

/-! ### Statements that do not fail -/

section Statements

variable {u : AcuUsers}

/-- A statement that applies is executed. -/
theorem AcuUsers.execute_done {statement : UsersStmt} {conn : Connection UsersFile}
    (succeeds : u.faults.Never statement.kind) (effect : statement.effect u.conn = some conn) :
    u.execute statement = (true, { u with conn := conn, faults := u.faults.next }) := by
  unfold AcuUsers.execute
  rw [if_pos succeeds.succeeds, effect]

theorem txnBegin_done (succeeds : u.faults.Never .begin) (closed : u.inTxn = false)
    (outside : u.conn.saved = none) :
    txnBegin u =
      (true,
        { u with
          conn := { u.conn with saved := some u.conn.view }
          faults := u.faults.next
          inTxn := true
          loadRows := 0 }) := by
  have effect : UsersStmt.begin.effect u.conn =
      some { u.conn with saved := some u.conn.view } := by
    simp [UsersStmt.effect, Connection.begin?, Connection.inTransaction, outside]
  unfold txnBegin
  rw [if_neg (by simp [closed]), AcuUsers.execute_done succeeds effect]

theorem txnCommit_done (succeeds : u.faults.Never .commit) (opened : u.inTxn = true)
    (inside : u.conn.inTransaction = true) :
    txnCommit u =
      (true,
        { u with
          conn := { u.conn with saved := none }
          faults := u.faults.next
          inTxn := false }) := by
  have effect : UsersStmt.commit.effect u.conn = some { u.conn with saved := none } := by
    simp [UsersStmt.effect, Connection.commit?, inside]
  have done : AcuUsers.execute { u with inTxn := false } .commit = _ :=
    AcuUsers.execute_done succeeds effect
  unfold txnCommit
  rw [if_pos opened, done]

/-- Scripts on tables do not close a transaction or open one. -/
theorem AcuUsers.saved_execSql {statements : List UsersStmt}
    (tables : ∀ statement ∈ statements, statement.onTables = true) :
    (u.execSql statements).2.conn.saved = u.conn.saved := by
  have kept : ∀ reached, ∀ statement ∈ statements, reached.conn.saved = u.conn.saved →
      (AcuUsers.execute reached statement).2.conn.saved = u.conn.saved := by
    intro reached statement member before
    rw [saved_execute (tables statement member), before]
  exact runScript_preserves kept rfl

end Statements

/-! ### The store in order -/

/-- No statement fails, a transaction is open exactly while a download is on, and the
load tables are there as long. -/
structure AcuUsers.Orderly (u : AcuUsers) : Prop where
  faultless : ∀ kind, u.faults.Never kind
  transaction : u.conn.inTransaction = u.loading
  batch : u.inTxn = u.loading
  load : u.loading = true → ∃ roster, u.conn.view.load = .of roster

namespace AcuUsers.Orderly

variable {u : AcuUsers}

theorem outside (orderly : u.Orderly) (idle : u.loading = false) : u.conn.saved = none := by
  have transaction := orderly.transaction
  rw [idle] at transaction
  simpa [Connection.inTransaction] using transaction

/-- Outside a download nothing is open. -/
theorem of_outside (faultless : ∀ kind, u.faults.Never kind) (outside : u.conn.saved = none)
    (closed : u.inTxn = false) (idle : u.loading = false) : u.Orderly :=
  { faultless := faultless
    transaction := by rw [Connection.inTransaction, outside, idle]; rfl
    batch := closed.trans idle.symm
    load := fun active => absurd active (by simp [idle]) }

/-- Statements on tables that leave the load tables there. -/
theorem execute (orderly : u.Orderly) {statement : UsersStmt} (tables : statement.onTables = true)
    (load : u.loading = true →
      ∃ roster, (u.execute statement).2.conn.view.load = .of roster) :
    (u.execute statement).2.Orderly := by
  have flags := u.execute_flags statement
  refine
    { faultless := ?_
      transaction := ?_
      batch := flags.inTxn.trans (orderly.batch.trans flags.loading.symm)
      load := fun active => load (flags.loading.symm.trans active) }
  · unfold Faults.Never
    rw [flags.oracle]
    exact orderly.faultless
  · rw [flags.loading, ← orderly.transaction]
    unfold Connection.inTransaction
    rw [saved_execute tables]

/-! ### Operations of a download -/

/-- A full batch is committed, and the next one is opened. -/
theorem rotate (orderly : u.Orderly) (active : u.loading = true) :
    (rotateTxnIfNeeded u).1 = true ∧ (rotateTxnIfNeeded u).2.Orderly := by
  have opened : u.inTxn = true := orderly.batch.trans active
  have inside : u.conn.inTransaction = true := orderly.transaction.trans active
  have faultless := orderly.faultless
  unfold rotateTxnIfNeeded
  split
  next => exact ⟨rfl, orderly⟩
  next =>
    have next := @txnBegin_done
      { u with
        conn := { u.conn with saved := none }
        faults := u.faults.next
        inTxn := false } (faultless .begin) rfl rfl
    rw [txnCommit_done (faultless .commit) opened inside]
    simp only
    rw [next]
    exact
      ⟨rfl,
        { faultless := faultless
          transaction := active.symm
          batch := active.symm
          load := orderly.load }⟩

/-- A row is inserted into the load tables. -/
theorem insertRow (orderly : u.Orderly) (active : u.loading = true) {statement : UsersStmt}
    (insert : statement.onLoad = true) {file : UsersFile}
    (changed : statement.change u.conn.view = some file) {roster : Roster}
    (load : file.load = .of roster) (rows total : Nat) :
    (u.execute statement).1 = true ∧
      (rotateTxnIfNeeded
        { (u.execute statement).2 with loadRows := rows, loadTotal := total }).1 = true ∧
      (rotateTxnIfNeeded
        { (u.execute statement).2 with loadRows := rows, loadTotal := total }).2.Orderly := by
  have tables := UsersStmt.onTables_of_onLoad insert
  have effect : statement.effect u.conn = some (u.conn.write fun _ => file) := by
    rw [statement.effect_onTables tables, changed]
    rfl
  have done := AcuUsers.execute_done (orderly.faultless statement.kind) effect
  have stored := orderly.execute tables (fun _ => ⟨roster, by rw [done]; exact load⟩)
  have counted :
      ({ (u.execute statement).2 with loadRows := rows, loadTotal := total } : AcuUsers).Orderly :=
    { faultless := stored.faultless
      transaction := stored.transaction
      batch := stored.batch
      load := stored.load }
  have on : (u.execute statement).2.loading = true :=
    (u.execute_flags statement).loading.trans active
  exact ⟨by rw [done], counted.rotate on⟩

theorem insertUser (orderly : u.Orderly) (active : u.loading = true) (record : AcuUserRecord) :
    (usersLoadPut u record).1 = true ∧ (usersLoadPut u record).2.Orderly := by
  obtain ⟨roster, load⟩ := orderly.load active
  have users : u.conn.view.usersLoad = some roster.users := congrArg TablePair.users load
  have cards : u.conn.view.userCardsLoad = some roster.cards := congrArg TablePair.cards load
  have changed : UsersStmt.change u.conn.view (.loadPut record) =
      some { u.conn.view with usersLoad := some (roster.users.insertOrReplace record) } := by
    simp [UsersStmt.change, users]
  have stored : UsersFile.load
      { u.conn.view with usersLoad := some (roster.users.insertOrReplace record) } =
        .of (roster.put record) := congrArg (TablePair.mk _) cards
  obtain ⟨done, rotated⟩ := orderly.insertRow active rfl changed stored
    ((u.execute (.loadPut record)).2.loadRows + 1) ((u.execute (.loadPut record)).2.loadTotal + 1)
  unfold usersLoadPut
  rw [if_pos active]
  split
  next executed result =>
    rw [result] at rotated
    exact rotated
  next failed result =>
    rw [result] at done
    cases done

theorem insertCard (orderly : u.Orderly) (active : u.loading = true) (card : AcuUserCard) :
    (usersLoadPutCard u card).1 = true ∧ (usersLoadPutCard u card).2.Orderly := by
  obtain ⟨roster, load⟩ := orderly.load active
  have users : u.conn.view.usersLoad = some roster.users := congrArg TablePair.users load
  have cards : u.conn.view.userCardsLoad = some roster.cards := congrArg TablePair.cards load
  have changed : UsersStmt.change u.conn.view (.loadPutCard card) =
      some { u.conn.view with userCardsLoad := some (roster.cards.insertOrReplace card) } := by
    simp [UsersStmt.change, cards]
  have stored : UsersFile.load
      { u.conn.view with userCardsLoad := some (roster.cards.insertOrReplace card) } =
        .of (roster.putCard card) := congrArg (TablePair.mk · _) users
  obtain ⟨done, rotated⟩ := orderly.insertRow active rfl changed stored
    ((u.execute (.loadPutCard card)).2.loadRows + 1) (u.execute (.loadPutCard card)).2.loadTotal
  unfold usersLoadPutCard
  rw [if_pos active]
  split
  next executed result =>
    rw [result] at rotated
    exact rotated
  next failed result =>
    rw [result] at done
    cases done

theorem abort (orderly : u.Orderly) : (usersLoadAbort u).Orderly := by
  have tables : ∀ statement ∈ dropLoadTables, statement.onTables = true := by decide
  apply of_outside
  · intro kind
    unfold Faults.Never
    rw [oracle_usersLoadAbort]
    exact orderly.faultless kind
  · show (AcuUsers.execSql _ dropLoadTables).2.conn.saved = none
    rw [AcuUsers.saved_execSql tables]
    split
    next opened =>
      have inside : u.conn.inTransaction = true :=
        orderly.transaction.trans (orderly.batch.symm.trans opened)
      obtain ⟨stored, saved⟩ := Option.isSome_iff_exists.mp inside
      have effect : UsersStmt.rollback.effect u.conn = some (Connection.opened stored) := by
        simp [UsersStmt.effect, Connection.rollback?, saved]
      rw [AcuUsers.execute_done (orderly.faultless .rollback) effect]
      rfl
    next closed =>
      apply orderly.outside
      rw [← orderly.batch]
      simpa using closed
  · exact inTxn_usersLoadAbort u
  · rfl

/-- A download can be begun. -/
theorem begins (orderly : u.Orderly) (idle : u.loading = false) :
    (beginDownload u).1 = true ∧ (beginDownload u).2.Orderly := by
  have tables : ∀ statement ∈ createLoadTables, statement.onTables = true := by decide
  have created : (u.execSql createLoadTables).1 = true :=
    AcuUsers.execSql_iff.mpr ⟨Faults.allows_of_never fun kind _ => orderly.faultless kind, rfl⟩
  have load := execSql_createLoadTables created
  have flags := u.execSql_flags createLoadTables
  have saved := (AcuUsers.saved_execSql tables).trans (orderly.outside idle)
  unfold beginDownload
  split
  next failed result =>
    rw [result] at created
    cases created
  next ready result =>
    rw [result] at load flags saved
    have faultless : ∀ kind, ready.faults.Never kind := by
      intro kind
      unfold Faults.Never
      rw [flags.oracle]
      exact orderly.faultless kind
    have closed : ready.inTxn = false := flags.inTxn.trans (orderly.batch.trans idle)
    have opened := @txnBegin_done { ready with loading := true, loadTotal := 0 }
      (faultless .begin) closed saved
    rw [opened]
    exact
      ⟨rfl,
        { faultless := faultless
          transaction := rfl
          batch := rfl
          load := fun _ => ⟨_, load⟩ }⟩

theorem start (orderly : u.Orderly) :
    (usersLoadBegin u).1 = true ∧ (usersLoadBegin u).2.Orderly := by
  rw [usersLoadBegin_eq]
  split
  next => exact orderly.abort.begins rfl
  next idle => exact orderly.begins (by simpa using idle)

/-- The swap of a download can be carried out. -/
theorem canSwap (orderly : u.Orderly) (active : u.loading = true) : u.CanSwap := by
  obtain ⟨roster, load⟩ := orderly.load active
  exact
    { exist := by rw [load]; exact TablePair.exist_of roster
      transaction := orderly.transaction.trans orderly.batch.symm
      allowed := Faults.allows_of_never fun kind _ => orderly.faultless kind }

theorem finish (orderly : u.Orderly) : (usersLoadCommit u).2.Orderly := by
  cases active : u.loading with
  | false =>
      have same : usersLoadCommit u = (false, u) := by
        unfold usersLoadCommit
        rw [if_neg (by simp [active])]
      rw [same]
      exact orderly
  | true =>
      have done := (usersLoadCommit_iff active).mpr (orderly.canSwap active)
      have closed := inTxn_usersLoadCommit active
      have outcome := usersLoadCommit_outcome u
      generalize usersLoadCommit u = result at done closed outcome
      cases outcome with
      | idle idle => cases done
      | failed => cases done
      | replaced _ _ _ running loading oracle =>
          apply of_outside
          · intro kind
            unfold Faults.Never
            rw [oracle]
            exact orderly.faultless kind
          · have saved := congrArg Connection.saved running
            exact Option.map_eq_none_iff.mp saved
          · exact closed
          · exact loading

end AcuUsers.Orderly

theorem loadStep_orderly {u : AcuUsers} (orderly : u.Orderly) (op : LoadOp) :
    (loadStep u op).2.Orderly := by
  cases op with
  | start => exact orderly.start.2
  | put record =>
      cases active : u.loading with
      | true => exact (orderly.insertUser active record).2
      | false =>
          rw [loadStep, usersLoadPut, if_neg (by simp [active])]
          exact orderly
  | putCard card =>
      cases active : u.loading with
      | true => exact (orderly.insertCard active card).2
      | false =>
          rw [loadStep, usersLoadPutCard, if_neg (by simp [active])]
          exact orderly
  | finish => exact orderly.finish
  | abort => exact orderly.abort

theorem execute_orderly {u : AcuUsers} (orderly : u.Orderly) {statement : UsersStmt}
    (individual : statement.individual = true) : (u.execute statement).2.Orderly := by
  have tables := UsersStmt.onTables_of_individual individual
  apply orderly.execute tables
  intro active
  obtain ⟨roster, load⟩ := orderly.load active
  have kept := AcuUsers.execute_project UsersFile.load tables
    (UsersStmt.load_change individual) u
  exact ⟨roster, (congrArg Connection.view kept).trans load⟩

/-! ### After any commands -/

theorem reopen_outside {file : UsersFile} {first : ReliableFaults} {u : AcuUsers}
    (running : reopen file first = .up u) : u.conn.saved = none ∧ u.loading = false := by
  have opened := usersOpen_opened file first.faults
  unfold reopen at running
  generalize usersOpen file first.faults = result at opened running
  obtain ⟨answer, users⟩ := result
  cases answer with
  | true =>
      cases running
      have saved := congrArg Connection.saved opened.rosters
      have outside : u.running.saved = none := Option.map_eq_none_iff.mp saved
      exact ⟨Option.map_eq_none_iff.mp outside, opened.loading⟩
  | false => cases running

/-- After any commands a store is in order when no statement of its process fails. -/
theorem run_orderly {file : UsersFile} {first : ReliableFaults} {begun store : UserStore}
    {ops : List StoreOp} (starts : startStore file first = some begun)
    (reached : run storeStep begun ops = some store)
    (faultless : ∀ kind, store.users.faults.Never kind) : store.users.Orderly := by
  refine @run_store (fun u => (∀ kind, u.faults.Never kind) → u.Orderly) (fun _ => True)
    ?_ ?_ ?_ ?_ file first begun store ops trivial starts reached faultless
  · intro file first u _ running faultless
    obtain ⟨outside, idle⟩ := reopen_outside running
    exact .of_outside faultless outside (reopen_inTxn running) idle
  · exact fun _ _ => trivial
  · intro u op _ orderly faultless
    apply loadStep_orderly
    apply orderly
    intro kind
    have never := faultless kind
    unfold Faults.Never at never
    rw [loadStep_oracle] at never
    exact never
  · intro u statement individual _ orderly faultless
    refine execute_orderly (orderly ?_) individual
    intro kind
    have never := faultless kind
    unfold Faults.Never at never
    rw [(u.execute_flags statement).oracle] at never
    exact never

/-! ### Uploads -/

/-- Giving up an upload in progress leaves the store in order. -/
theorem AcuUsers.Orderly.freed {store : UserStore} (orderly : store.users.Orderly) :
    (if store.userbin.active then userbinAbort store else store).users.Orderly := by
  split
  next active =>
    unfold userbinAbort
    rw [if_pos active]
    exact orderly.abort
  next => exact orderly

theorem AcuUsers.Orderly.started {store started : UserStore} (orderly : store.users.Orderly)
    {totalSize totalCount : UInt32} {binaryObj : UInt8}
    (accepted : userbinStart store totalSize totalCount binaryObj = (true, started)) :
    started.users.Orderly := by
  obtain ⟨_, began⟩ := userbinStart_accepted accepted
  have after := orderly.freed.start.2
  rw [began] at after
  exact after

/-- A Start of a size that fits is accepted. -/
theorem userbinStart_orderly {store : UserStore} (orderly : store.users.Orderly)
    {totalSize totalCount : UInt32} {binaryObj : UInt8} {recordLen : Nat}
    (known : userbinRecordLen binaryObj = some recordLen) (some : totalSize ≠ 0)
    (whole : totalSize.toNat % recordLen = 0) :
    ∃ started, userbinStart store totalSize totalCount binaryObj = (true, started) ∧
      started.users.Orderly := by
  obtain ⟨began, after⟩ := orderly.freed.start
  have fits : ¬ (totalSize = 0 ∨ totalSize.toNat % recordLen ≠ 0) := by simp [some, whole]
  unfold userbinStart
  simp only [known, if_neg fits]
  split
  next users result =>
    rw [result] at began
    cases began
  next users result =>
    rw [result] at after
    exact ⟨_, rfl, after⟩

theorem storeEntry_orderly {users : AcuUsers} (orderly : users.Orderly)
    (active : users.loading = true) (record : AcuUserRecord) (card : Option AcuUserCard) :
    (storeEntry users record card).1 = true ∧ (storeEntry users record card).2.Orderly := by
  have stored := orderly.insertUser active record
  have loading := (usersLoadPut_effect users record).loading
  unfold storeEntry
  split
  next failed result =>
    rw [result] at stored
    cases stored.1
  next person result =>
    rw [result] at stored loading
    cases card with
    | none => exact ⟨rfl, stored.2⟩
    | some card => exact stored.2.insertCard (loading.trans active) card

/-- A record that can be decoded is stored. -/
theorem Intake.store_orderly {intake : Intake} (orderly : intake.users.Orderly)
    (active : intake.users.loading = true) {raw : Bytes}
    (decoded : (decodeRecord raw).isSome = true) :
    (intake.store raw).users.Orderly ∧ (intake.store raw).parsedBad = intake.parsedBad := by
  obtain ⟨entry, found⟩ := Option.isSome_iff_exists.mp decoded
  obtain ⟨done, after⟩ := storeEntry_orderly orderly active entry.1 entry.2
  have stored : storeRecord intake.users raw = storeEntry intake.users entry.1 entry.2 := by
    rw [storeRecord_eq, found]
  rw [← stored] at done after
  unfold Intake.store
  split
  next users result =>
    rw [result] at after
    exact ⟨after, rfl⟩
  next users result =>
    rw [result] at done
    cases done

/-- A record that cannot be read is only counted. -/
theorem Intake.store_none {intake : Intake} {raw : Bytes} (refused : decodeRecord raw = none) :
    intake.store raw = { intake with parsedBad := intake.parsedBad + 1 } := by
  have here : storeRecord intake.users raw = (false, intake.users) := by
    rw [storeRecord_eq, refused]
  unfold Intake.store
  rw [here]

/-- When no statement fails, exactly the records that can be read are loaded. -/
theorem Intake.storeAll_loads {intake : Intake} {roster : Roster}
    (loads : Loads intake.users roster) (orderly : intake.users.Orderly) (records : List Bytes) :
    Loads (records.foldl Intake.store intake).users
        ((records.filterMap decodeRecord).foldl Roster.load roster) ∧
      (records.foldl Intake.store intake).users.Orderly ∧
      (records.foldl Intake.store intake).parsedOk =
        intake.parsedOk + (records.filterMap decodeRecord).length := by
  induction records generalizing intake roster with
  | nil => exact ⟨loads, orderly, rfl⟩
  | cons raw rest inductionHypothesis =>
      rw [List.foldl_cons]
      cases decoded : decodeRecord raw with
      | none =>
          rw [List.filterMap_cons_none decoded, Intake.store_none decoded]
          exact inductionHypothesis loads orderly
      | some entry =>
          obtain ⟨after, kept⟩ := intake.store_orderly orderly loads.loading
            (by rw [decoded]; rfl)
          obtain ⟨other, found, loaded⟩ := (Intake.store_loads loads raw).2 kept
          rw [decoded] at found
          cases found
          have counts := (intake.store_counts raw).2
          obtain ⟨loadedAll, orderlyAll, stored⟩ := inductionHypothesis loaded after
          rw [List.filterMap_cons_some decoded, List.length_cons]
          exact ⟨loadedAll, orderlyAll, by omega⟩

/-- A swap that is carried out leaves the counters. -/
theorem Intake.finish_done {intake : Intake} (done : (usersLoadCommit intake.users).1 = true) :
    intake.finish.parsedOk = intake.parsedOk ∧ intake.finish.parsedBad = intake.parsedBad := by
  unfold Intake.finish
  split
  next => exact ⟨rfl, rfl⟩
  next users refused =>
    rw [refused] at done
    cases done

section Upload

variable {store started : UserStore} {totalSize totalCount : UInt32} {binaryObj : UInt8}
  {data : Bytes} {requests : List (UInt16 × Bytes)} {answers : List AcuUserBinStatus}

/-- What an upload leaves when nothing failed: every record is counted as stored, and the
roster is what they build. -/
structure Uploaded (after : UserStore) (records : List Bytes) : Prop where
  stored : after.userbin.parsedOk = records.length
  bad : after.userbin.parsedBad = 0
  success : userbinResultEvent after = idtiEventUserfileSuccess
  roster : after.users.roster = Roster.build (records.filterMap decodeRecord)

/-- An upload of records that can all be decoded succeeds. -/
theorem upload_succeeds (healthy : store.users.Healthy)
    (accepted : userbinStart store totalSize totalCount binaryObj = (true, started))
    (orderly : started.users.Orderly)
    (delivery : UploadDelivery totalSize.toNat none 0 requests data answers)
    (some : (blocks started.userbin.recordLen data).1 ≠ [])
    (decoded : ∀ raw ∈ (blocks started.userbin.recordLen data).1,
      (decodeRecord raw).isSome = true) :
    Uploaded (continueAll started requests).2 (blocks started.userbin.recordLen data).1 := by
  have start := (userbinStart_accepted accepted).1
  have left := upload_processed accepted delivery
  have swapped := (upload_roster healthy accepted delivery).1
  unfold loadedIntake at swapped
  generalize (blocks started.userbin.recordLen data).1 = records at some decoded left swapped ⊢
  have loads : Loads started.intake.users Roster.empty := Started.loads accepted
  obtain ⟨loaded, settled, good⟩ := Intake.storeAll_loads loads orderly records
  have all : (records.filterMap decodeRecord).length = records.length :=
    List.filterMap_length_eq_length.mpr decoded
  have counted := (started.intake.storeAll_counts records).2
  have uncounted : started.intake.parsedOk = 0 ∧ started.intake.parsedBad = 0 := start.uncounted
  have can := settled.canSwap loaded.loading
  have done := (usersLoadCommit_iff loaded.loading).mpr can
  have kept := Intake.finish_done done
  have stored : (continueAll started requests).2.userbin.parsedOk = records.length := by
    have same := (congrArg Intake.parsedOk left).trans kept.1
    have total : (records.foldl Intake.store started.intake).parsedOk = records.length := by omega
    exact same.trans total
  have bad : (continueAll started requests).2.userbin.parsedBad = 0 := by
    have same := (congrArg Intake.parsedBad left).trans kept.2
    have none : (records.foldl Intake.store started.intake).parsedBad = 0 := by omega
    exact same.trans none
  refine { stored := stored, bad := bad, success := ?_, roster := ?_ }
  · have positive := List.length_pos_iff.mpr some
    unfold userbinResultEvent
    rw [stored, bad, if_neg (Nat.ne_of_gt positive), if_neg (Nat.lt_irrefl 0)]
  · rw [swapped can]
    exact congrArg TablePair.roster loaded.load

end Upload

end Acud
