/-
Module: Acud.Proofs.UploadFailure
Purpose: When the old roster survives an upload that registered nobody.
Trusted boundary: none
Main exports:
  KeepsRoster, ResendsRoster, loadedIntake_canSwap, failed_upload_keeps_iff
-/
import Acud.Proofs.TransactionFlag

namespace Acud

open Lib

/-!
An upload that ends with the event for "nobody registered" ended in one of two ways.
The swap failed, and the roster is the one from before.  Or no record was counted as
stored, and the swap put the load tables in place all the same.

What is swapped in is nothing if every record is refused.  Otherwise inserts have failed half
way, and what they left can only be the old roster if the records carried all of it.

[SRC src/acud/userbin.c, src/acud/users.c]
-/

/-- What has to hold for the roster to stay: it is empty and every record is refused, or the
swap cannot be carried out and the Start took no change back. -/
structure KeepsRoster (u : AcuUsers) (canSwap : Prop) (records : List Bytes) : Prop where
  swapped : canSwap →
    (∀ raw ∈ records, decodeRecord raw = none) ∧ Roster.Same Roster.empty u.roster
  unswapped : ¬ canSwap → u.inTxn = true → ¬ u.Uncommitted

/-- The records carry the whole roster once more, some record is read, and a statement of the
store fails. -/
structure ResendsRoster (u : AcuUsers) (records : List Bytes) : Prop where
  faulty : ∃ kind, ¬ u.faults.Never kind
  decoded : ∃ raw ∈ records, (decodeRecord raw).isSome = true
  carried : u.roster.Carried records

/-! ### When the swap can be carried out -/

/-- No `COMMIT` and no `ROLLBACK` of an operation fails where none fails at all. -/
theorem txnEnds_of_never {u : AcuUsers} (commits : u.faults.Never .commit)
    (rollbacks : u.faults.Never .rollback) (op : LoadOp) : TxnEnds u (.load op) := by
  cases op with
  | start => exact fun _ _ => rollbacks.succeeds
  | put record => exact fun _ => commits _
  | putCard card => exact fun _ => commits _
  | abort => exact fun _ => rollbacks.succeeds
  | finish =>
      refine fun _ => ⟨fun _ => commits.succeeds, fun _ behind stops => ?_⟩
      have same : behind.ok = u.faults.ok := by
        rw [Faults.stopped_oracle stops, AcuUsers.swapFaults]
        split <;> rfl
      unfold Faults.succeeds
      rw [same]
      exact rollbacks _

/-- The flag is right, provided that no `COMMIT` fails. -/
def AcuUsers.SoundIfCommitted (u : AcuUsers) : Prop :=
  u.faults.Never .commit → u.faults.Never .rollback → u.BatchSound

theorem AcuUsers.SoundIfCommitted.load {u : AcuUsers} (sound : u.SoundIfCommitted)
    (op : LoadOp) : (loadStep u op).2.SoundIfCommitted := by
  unfold SoundIfCommitted Faults.Never
  rw [loadStep_oracle]
  intro commits rollbacks
  have stepped : txnStep u (.load op) = some (loadStep u op).2 := rfl
  exact AcuUsers.txnStep_sound (sound commits rollbacks) stepped
    (txnEnds_of_never commits rollbacks op)

theorem AcuUsers.SoundIfCommitted.individual {u : AcuUsers} (sound : u.SoundIfCommitted)
    {statement : UsersStmt} (individual : statement.individual = true) :
    (u.execute statement).2.SoundIfCommitted := by
  unfold SoundIfCommitted Faults.Never
  rw [(u.execute_flags statement).oracle]
  intro commits rollbacks
  exact (sound commits rollbacks).execute individual

theorem run_soundIfCommitted {file : UsersFile} {first : ReliableFaults}
    {begun store : UserStore} {ops : List StoreOp} (starts : startStore file first = some begun)
    (reached : run storeStep begun ops = some store) : store.users.SoundIfCommitted := by
  refine @run_store AcuUsers.SoundIfCommitted (fun _ => True) ?_ (fun _ _ => trivial)
    (fun _ op _ sound => sound.load op) (fun _ _ individual _ sound => sound.individual individual)
    file first begun store ops trivial starts reached
  intro file first u _ running _ _
  obtain ⟨outside, idle⟩ := reopen_outside running
  exact .of_idle (reopen_inTxn running) outside idle

theorem Intake.storeAll_steps (intake : Intake) (records : List Bytes) :
    RosterSteps intake.users (records.foldl Intake.store intake).users := by
  induction records generalizing intake with
  | nil => exact .refl
  | cons raw rest inductionHypothesis =>
      have stored : (intake.store raw).users = (storeRecord intake.users raw).2 := by
        unfold Intake.store
        split
        next users result => rw [result]
        next users result => rw [result]
      have one := storeRecord_steps intake.users raw
      rw [← stored] at one
      exact one.trans (inductionHypothesis (intake.store raw))

section Upload

variable {store started : UserStore} {totalSize totalCount : UInt32} {binaryObj : UInt8}
  {data : Bytes} {requests : List (UInt16 × Bytes)} {answers : List AcuUserBinStatus}

/-- The swap can be carried out where no statement of a swap fails, at this one or
earlier. -/
theorem loadedIntake_canSwap (sound : store.users.SoundIfCommitted)
    (rollbacks : store.users.faults.Never .rollback)
    (accepted : userbinStart store totalSize totalCount binaryObj = (true, started))
    (swaps : ∀ statement ∈ swapTables, store.users.faults.Never statement.kind) :
    (loadedIntake started data).users.CanSwap := by
  have began : RosterSteps store.users started.users := by
    have steps := userbinStart_steps store totalSize totalCount binaryObj
    rw [accepted] at steps
    exact steps
  have steps : RosterSteps store.users (loadedIntake started data).users :=
    began.trans (started.intake.storeAll_steps _)
  have later : (loadedIntake started data).users.SoundIfCommitted :=
    steps.invariant (fun _ op _ kept => kept.load op)
      (fun _ _ individual _ kept => kept.individual individual) sound
  have never : ∀ kind, store.users.faults.Never kind →
      (loadedIntake started data).users.faults.Never kind := by
    intro kind holds
    unfold Faults.Never
    rw [steps.oracle]
    exact holds
  have commits := never .commit (swaps .commit (by simp [swapTables]))
  have batch := later commits (never .rollback rollbacks)
  have active : (loadedIntake started data).users.loading = true :=
    (started.intake.storeAll_inserting _).loading.trans (Started.loads accepted).loading
  refine
    { exist := batch.load active
      transaction := batch.flag.symm
      allowed := Faults.allows_of_never ?_ }
  intro kind among
  rcases List.mem_append.mp among with last | swap
  · split at last
    next =>
      rw [List.mem_singleton.mp last]
      exact commits
    next => cases last
  · obtain ⟨statement, member, rfl⟩ := List.mem_map.mp swap
    exact never _ (swaps statement member)

/-- Records that are refused leave nothing to swap in. -/
theorem refused_upload_loads_nothing
    (accepted : userbinStart store totalSize totalCount binaryObj = (true, started))
    (refused : ∀ raw ∈ (blocks started.userbin.recordLen data).1, decodeRecord raw = none) :
    (loadedIntake started data).users.conn.view.loadRoster = Roster.empty := by
  have loads : Loads started.intake.users Roster.empty := Started.loads accepted
  have loaded := (Intake.stored_none loads refused).load
  exact congrArg TablePair.roster loaded

/-- What is loaded is carried by the records. -/
theorem loaded_carried
    (accepted : userbinStart store totalSize totalCount binaryObj = (true, started)) :
    (loadedIntake started data).users.conn.view.loadRoster.Carried
      (blocks started.userbin.recordLen data).1 := by
  have loads : Loads started.intake.users Roster.empty := Started.loads accepted
  obtain ⟨other, loaded, carried⟩ := Intake.storeAll_carried loads
    (Roster.carried_empty (blocks started.userbin.recordLen data).1) fun _ sent => sent
  have same : (loadedIntake started data).users.conn.view.loadRoster = other :=
    congrArg TablePair.roster loaded.load
  rw [same]
  exact carried

/-- A roster of the same content is carried by the same records. -/
theorem Roster.Carried.of_same {roster other : Roster} {records : List Bytes}
    (carried : roster.Carried records) (same : Roster.Same roster other) :
    other.Carried records where
  users := by
    intro record among
    have found := Table.find?_of_mem among
    rw [← same.users] at found
    exact carried.users record (Table.mem_of_find? found)
  cards := by
    intro card among
    have found := Table.find?_of_mem among
    rw [← same.cards] at found
    exact carried.cards card (Table.mem_of_find? found)

/-- Without a failing statement a record that is read is counted as stored. -/
theorem counted_of_decoded (orderly : store.users.Orderly)
    (accepted : userbinStart store totalSize totalCount binaryObj = (true, started))
    (decoded : ∃ raw ∈ (blocks started.userbin.recordLen data).1,
      (decodeRecord raw).isSome = true) :
    (loadedIntake started data).parsedOk ≠ 0 := by
  have ready : started.intake.users.Orderly := orderly.started accepted
  have loads : Loads started.intake.users Roster.empty := Started.loads accepted
  obtain ⟨_, _, stored⟩ :=
    Intake.storeAll_loads loads ready (blocks started.userbin.recordLen data).1
  obtain ⟨raw, sent, read⟩ := decoded
  obtain ⟨entry, found⟩ := Option.isSome_iff_exists.mp read
  have counted : entry ∈ (blocks started.userbin.recordLen data).1.filterMap decodeRecord :=
    List.mem_filterMap.mpr ⟨raw, sent, found⟩
  have positive := List.length_pos_of_mem counted
  unfold loadedIntake
  omega

/-- A swap behind the event for "nobody registered" had no record that was stored. -/
theorem failed_swap_counts_none
    (accepted : userbinStart store totalSize totalCount binaryObj = (true, started))
    (delivery : UploadDelivery totalSize.toNat none 0 requests data answers)
    (failed : userbinResultEvent (continueAll started requests).2 = idtiEventUserfileFail)
    (can : (loadedIntake started data).users.CanSwap) :
    (loadedIntake started data).parsedOk = 0 := by
  have active : (loadedIntake started data).users.loading = true :=
    (started.intake.storeAll_inserting _).loading.trans (Started.loads accepted).loading
  have done := (usersLoadCommit_iff active).mpr can
  have left := congrArg Intake.parsedOk (upload_processed accepted delivery)
  rw [userbinResultEvent] at failed
  split at failed
  next none => exact (Intake.finish_done done).1.symm.trans (left.symm.trans none)
  next => split at failed <;> cases failed

/-- The roster behind a Start is the one before it, unless a change is taken back. -/
theorem freed_same (u : AcuUsers) :
    Roster.Same u.freed.roster u.roster ↔ (u.inTxn = true → ¬ u.Uncommitted) := by
  unfold AcuUsers.freed AcuUsers.Uncommitted
  cases u.inTxn with
  | true =>
      rw [if_pos rfl, ← AcuUsers.crashRoster_eq]
      simp
  | false => exact iff_of_true (.refl _) fun opened => absurd opened Bool.false_ne_true

end Upload

/-- Behind the event for "nobody registered" the roster is the one before the Start when
`KeepsRoster` holds, and only then, unless the upload carried the whole roster to a store
whose statements fail.  Where a swap was carried out, no record was counted as stored, and
one can be carried out where no statement of a swap ever fails. -/
theorem failed_upload_keeps_iff {file : UsersFile} {first : ReliableFaults}
    {begun store : UserStore} {ops : List StoreOp} (starts : startStore file first = some begun)
    (reached : run storeStep begun ops = some store) (started : UserStore)
    (totalSize totalCount : UInt32) (binaryObj : UInt8)
    (accepted : userbinStart store totalSize totalCount binaryObj = (true, started))
    (data : Bytes) (requests : List (UInt16 × Bytes)) (answers : List AcuUserBinStatus)
    (delivery : UploadDelivery totalSize.toNat none 0 requests data answers)
    (failed : userbinResultEvent (continueAll started requests).2 = idtiEventUserfileFail) :
    (KeepsRoster store.users (loadedIntake started data).users.CanSwap
        (blocks started.userbin.recordLen data).1 →
      Roster.Same (continueAll started requests).2.users.roster store.users.roster) ∧
      (¬ ResendsRoster store.users (blocks started.userbin.recordLen data).1 →
        (Roster.Same (continueAll started requests).2.users.roster store.users.roster ↔
          KeepsRoster store.users (loadedIntake started data).users.CanSwap
            (blocks started.userbin.recordLen data).1)) ∧
      ((loadedIntake started data).users.CanSwap → (loadedIntake started data).parsedOk = 0) ∧
      ((∀ statement ∈ swapTables, store.users.faults.Never statement.kind) →
        (loadedIntake started data).users.CanSwap) := by
  have healthy := run_healthy starts reached
  obtain ⟨swapped, unswapped⟩ := upload_roster healthy accepted delivery
  have counted := failed_swap_counts_none accepted delivery failed
  have kept : KeepsRoster store.users (loadedIntake started data).users.CanSwap
        (blocks started.userbin.recordLen data).1 →
      Roster.Same (continueAll started requests).2.users.roster store.users.roster := by
    intro keeps
    by_cases can : (loadedIntake started data).users.CanSwap
    · obtain ⟨refused, empty⟩ := keeps.swapped can
      rw [swapped can, refused_upload_loads_nothing accepted refused]
      exact empty
    · rw [unswapped can]
      exact (freed_same store.users).mpr (keeps.unswapped can)
  refine ⟨kept, ?_, counted, loadedIntake_canSwap (run_soundIfCommitted starts reached)
    healthy.rollbacks accepted⟩
  intro unsent
  refine ⟨?_, kept⟩
  intro same
  by_cases can : (loadedIntake started data).users.CanSwap
  · rw [swapped can] at same
    have refused : ∀ raw ∈ (blocks started.userbin.recordLen data).1, decodeRecord raw = none := by
      -- A record that is read would have been counted, or the roster was sent once more.
      by_contra read
      push Not at read
      obtain ⟨raw, sent, found⟩ := read
      have decoded : ∃ raw ∈ (blocks started.userbin.recordLen data).1,
          (decodeRecord raw).isSome = true := ⟨raw, sent, Option.isSome_iff_ne_none.mpr found⟩
      apply unsent
      refine
        { faulty := ?_
          decoded := decoded
          carried := (loaded_carried accepted).of_same same }
      by_contra faultless
      push Not at faultless
      exact counted_of_decoded (run_orderly starts reached faultless) accepted decoded
        (counted can)
    rw [refused_upload_loads_nothing accepted refused] at same
    exact
      { swapped := fun _ => ⟨refused, same⟩
        unswapped := fun unable => absurd can unable }
  · rw [unswapped can] at same
    exact
      { swapped := fun able => absurd able can
        unswapped := fun _ => (freed_same store.users).mp same }

/-! An upload of one empty record to a store with five users. -/

def emptyRecord : Bytes :=
  List.replicate 128 0

def emptyRecordUpload : Bool × UserStore :=
  userbinStart seededStore 128 1 idtiUserbinObjInfo

theorem failed_upload_keeps_iff_empty :
    Roster.Same (continueAll emptyRecordUpload.2 [(0, emptyRecord)]).2.users.roster
        seededStore.users.roster ↔
      KeepsRoster seededStore.users (loadedIntake emptyRecordUpload.2 emptyRecord).users.CanSwap
        (blocks emptyRecordUpload.2.userbin.recordLen emptyRecord).1 := by
  have accepted : emptyRecordUpload = (true, emptyRecordUpload.2) :=
    Prod.ext (by decide +kernel) rfl
  have failed : userbinResultEvent (continueAll emptyRecordUpload.2 [(0, emptyRecord)]).2 =
      idtiEventUserfileFail := by decide +kernel
  have faultless : ¬ ResendsRoster seededStore.users
      (blocks emptyRecordUpload.2.userbin.recordLen emptyRecord).1 := by
    intro resends
    obtain ⟨kind, faulty⟩ := resends.faulty
    exact faulty fun index => by rw [seededStore_oracle]
  have kept := @failed_upload_keeps_iff _ _ seededStore seededStore [] startStore_blank rfl
    emptyRecordUpload.2 128 1 idtiUserbinObjInfo accepted emptyRecord [(0, emptyRecord)] _
    (delivery_single (by decide) List.length_replicate) failed
  exact kept.2.1 faultless

/-- The record is refused, and the five users are gone. -/
theorem failed_upload_loses_roster :
    ¬ ∀ (file : UsersFile) (first : ReliableFaults) (begun store : UserStore)
      (ops : List StoreOp) (started : UserStore) (totalSize totalCount : UInt32)
      (binaryObj : UInt8) (data : Bytes) (requests : List (UInt16 × Bytes))
      (answers : List AcuUserBinStatus),
      startStore file first = some begun → run storeStep begun ops = some store →
      userbinStart store totalSize totalCount binaryObj = (true, started) →
      UploadDelivery totalSize.toNat none 0 requests data answers →
      userbinResultEvent (continueAll started requests).2 = idtiEventUserfileFail →
      Roster.Same (continueAll started requests).2.users.roster store.users.roster := by
  intro claimed
  have accepted : emptyRecordUpload = (true, emptyRecordUpload.2) :=
    Prod.ext (by decide +kernel) rfl
  have failed : userbinResultEvent (continueAll emptyRecordUpload.2 [(0, emptyRecord)]).2 =
      idtiEventUserfileFail := by decide +kernel
  have same := claimed _ _ _ _ [] _ 128 1 _ emptyRecord _ _ startStore_blank rfl accepted
    (delivery_single (by decide) List.length_replicate) failed
  have gone : ((continueAll emptyRecordUpload.2 [(0, emptyRecord)]).2.users.roster.users.find?
      firstHolder.userId).isSome = false := by decide +kernel
  have there : (seededStore.users.roster.users.find? firstHolder.userId).isSome = true := by
    decide +kernel
  rw [← same.users, gone] at there
  cases there

end Acud
