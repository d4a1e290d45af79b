/-
Module: Acud.Proofs.UploadStream
Purpose: An upload depends on its bytes and not on how they are cut into chunks.
Trusted boundary: none
Main exports:
  Intake, feedRecords_eq, userbinContinue_taken, UploadDelivery, continueAll, upload_chunking
-/
import Acud.Lib.Blocks
import Acud.Proofs.RosterStore
import Acud.UserBin

namespace Acud

open Lib

/-!
A receiver takes the bytes of an upload in blocks of one record.  `Intake` is what
the records change: the roster store and the two counters.  The receiver is the
consumer `absorb` over it, so chunks may be cut anywhere.

`UploadDelivery` says which requests deliver the bytes: chunks with consecutive indices,
and between them repeats of the last one and chunks that are refused.

[SRC src/acud/userbin.c]
-/

/-! ### Records -/

/-- The roster store and the counters of a transfer. -/
structure Intake where
  users : AcuUsers
  parsedOk : Nat
  parsedBad : Nat

namespace Intake

/-- Store one record and count it. -/
def store (intake : Intake) (raw : Bytes) : Intake :=
  match storeRecord intake.users raw with
  | (true, users) => { intake with users := users, parsedOk := intake.parsedOk + 1 }
  | (false, users) => { intake with users := users, parsedBad := intake.parsedBad + 1 }

/-- Swap the rosters; a swap that fails counts no record as stored. -/
def finish (intake : Intake) : Intake :=
  match usersLoadCommit intake.users with
  | (true, users) => { intake with users := users }
  | (false, users) => { intake with users := users, parsedOk := 0 }

/-- Process records one by one, and finish. -/
def process (intake : Intake) (records : List Bytes) : Intake :=
  (records.foldl Intake.store intake).finish

end Intake

def UserStore.intake (store : UserStore) : Intake :=
  { users := store.users
    parsedOk := store.userbin.parsedOk
    parsedBad := store.userbin.parsedBad }

/-- The store after records were taken, with the bytes that do not fill one yet. -/
def UserStore.withIntake (store : UserStore) (taken : Intake × Bytes) : UserStore :=
  { users := taken.1.users
    userbin :=
      { store.userbin with
        parsedOk := taken.1.parsedOk
        parsedBad := taken.1.parsedBad
        record := taken.2 } }

@[simp] theorem UserStore.intake_withIntake (store : UserStore) (taken : Intake × Bytes) :
    (store.withIntake taken).intake = taken.1 := rfl

theorem userbinFinish_intake (store : UserStore) :
    (userbinFinish store).intake = store.intake.finish := by
  unfold userbinFinish Intake.finish UserStore.intake
  simp only
  generalize usersLoadCommit store.users = result
  rcases result with ⟨_ | _, users⟩ <;> rfl

/-- The bytes of a chunk are taken in blocks of one record. -/
theorem feedRecords_eq {rounds : Nat} {store : UserStore} {data : Bytes}
    (enough : data.length ≤ rounds) (positive : 0 < store.userbin.recordLen)
    (short : store.userbin.record.length < store.userbin.recordLen) :
    feedRecords rounds store data =
      store.withIntake
        (absorb Intake.store store.userbin.recordLen (store.intake, store.userbin.record)
          data) := by
  induction rounds generalizing store data with
  | zero =>
      rw [List.length_eq_zero_iff.mp (Nat.le_zero.mp enough), absorb_nil _ short]
      rfl
  | succ rounds inductionHypothesis =>
      rw [feedRecords]
      split
      next empty =>
        rw [List.isEmpty_iff.mp empty, absorb_nil _ short]
        rfl
      next nonempty =>
        have some : 0 < data.length := by
          rw [List.isEmpty_iff] at nonempty
          exact List.length_pos_iff.mpr nonempty
        simp only
        generalize countEq : store.userbin.recordLen - store.userbin.record.length = need
        have fewer : (data.drop need).length ≤ rounds := by
          rw [List.length_drop]
          omega
        have joined := absorb_append Intake.store positive
          (store.intake, store.userbin.record) (data.take need) (data.drop need)
        rw [List.take_append_drop] at joined
        rw [← joined]
        split
        next full =>
          -- A record is complete: it is stored, and the rest starts the next one.
          have block : absorb Intake.store store.userbin.recordLen
              (store.intake, store.userbin.record) (data.take need) =
                (store.intake.store (store.userbin.record ++ data.take need), []) :=
            absorb_block Intake.store positive full
          rw [block]
          unfold Intake.store UserStore.intake
          simp only
          generalize storeRecord store.users (store.userbin.record ++ data.take need) = stored
          rcases stored with ⟨_ | _, users⟩
          · rw [inductionHypothesis fewer]
            · rfl
            · exact positive
            · exact positive
          · rw [inductionHypothesis fewer]
            · rfl
            · exact positive
            · exact positive
        next part =>
          -- The chunk ends inside a record.
          have taken : (store.userbin.record ++ data.take need).length =
              store.userbin.record.length + min need data.length := by
            rw [List.length_append, List.length_take]
          have below : (store.userbin.record ++ data.take need).length <
              store.userbin.recordLen := by
            omega
          have kept : absorb Intake.store store.userbin.recordLen
              (store.intake, store.userbin.record) (data.take need) =
                (store.intake, store.userbin.record ++ data.take need) := by
            rw [absorb, blocks_short below]
            rfl
          rw [kept, inductionHypothesis fewer]
          · rfl
          · exact positive
          · exact below

/-! ### One chunk -/

/-- The index of the chunk processed last. -/
def AcuUserBin.last (ub : AcuUserBin) : Option UInt16 :=
  if ub.haveIndex then some ub.lastIndex else none

/-- A chunk with this index is the next one; the first one may have any. -/
def Follows (last : Option UInt16) (index : UInt16) : Prop :=
  ∀ before, last = some before → index = before + 1

instance (last : Option UInt16) (index : UInt16) : Decidable (Follows last index) :=
  match last with
  | none => .isTrue fun _ some => by cases some
  | some before =>
      decidable_of_iff (index = before + 1)
        ⟨fun next _ same => Option.some.inj same ▸ next, fun follows => follows before rfl⟩

/-- An upload in progress. -/
structure Receiving (store : UserStore) (total : Nat) (last : Option UInt16) (received : Nat) :
    Prop where
  active : store.userbin.active = true
  totalSize : store.userbin.totalSize = total
  last : store.userbin.last = last
  received : store.userbin.received = received
  recordLen : 0 < store.userbin.recordLen
  short : store.userbin.record.length < store.userbin.recordLen

/-- The bytes of a chunk, taken in blocks of one record. -/
def UserStore.absorbed (store : UserStore) (chunk : Bytes) : Intake × Bytes :=
  absorb Intake.store store.userbin.recordLen (store.intake, store.userbin.record) chunk

/-- The store after a chunk was processed, before the swap. -/
def UserStore.taken (store : UserStore) (index : UInt16) (chunk : Bytes) : UserStore :=
  { users := (store.absorbed chunk).1.users
    userbin :=
      { store.userbin with
        parsedOk := (store.absorbed chunk).1.parsedOk
        parsedBad := (store.absorbed chunk).1.parsedBad
        record := (store.absorbed chunk).2
        received := store.userbin.received + chunk.length
        lastIndex := index
        haveIndex := true } }

section Chunks

variable {store : UserStore} {total received : Nat} {last : Option UInt16} {index : UInt16}
  {chunk : Bytes}

/-- The index of a chunk that follows is neither repeated nor skipped to. -/
theorem Receiving.fresh (receiving : Receiving store total last received)
    (follows : Follows last index) :
    (store.userbin.haveIndex && decide (index = store.userbin.lastIndex)) = false ∧
      (store.userbin.haveIndex && decide (index ≠ store.userbin.lastIndex + 1)) = false := by
  cases numbered : store.userbin.haveIndex with
  | false => exact ⟨rfl, rfl⟩
  | true =>
      have next : index = store.userbin.lastIndex + 1 := by
        apply follows
        rw [← receiving.last, AcuUserBin.last, if_pos numbered]
      subst next
      simp

/-- A chunk that follows and fits is processed. -/
theorem userbinContinue_taken (receiving : Receiving store total last received)
    (follows : Follows last index) (fits : received + chunk.length ≤ total) :
    userbinContinue store index chunk =
      if total ≤ received + chunk.length then
        (.complete, userbinFinish (store.taken index chunk))
      else (.ok, store.taken index chunk) := by
  obtain ⟨repeats, skips⟩ := receiving.fresh follows
  obtain ⟨active, rfl, rfl, rfl, positive, short⟩ := receiving
  unfold userbinContinue
  simp only [active, repeats, skips, Bool.true_eq_false, Bool.false_eq_true, if_false,
    Nat.not_lt.mpr fits, feedRecords_eq (Nat.le_refl chunk.length) positive short]
  rfl

/-- A chunk whose index was processed last is answered Success. -/
theorem userbinContinue_known {store : UserStore} {index : UInt16}
    (active : store.userbin.active = true) (last : store.userbin.last = some index)
    (chunk : Bytes) : userbinContinue store index chunk = (.ok, store) := by
  unfold AcuUserBin.last at last
  split at last
  next numbered =>
    cases last
    unfold userbinContinue
    simp only [active, numbered, Bool.true_eq_false, if_false, decide_true, Bool.and_self,
      if_true]
  next => cases last

/-- A chunk with another index is refused. -/
theorem userbinContinue_skipped {before : UInt16}
    (receiving : Receiving store total (some before) received) (other : index ≠ before)
    (skips : index ≠ before + 1) : userbinContinue store index chunk = (.failed, store) := by
  obtain ⟨active, rfl, last, rfl, positive, short⟩ := receiving
  unfold AcuUserBin.last at last
  split at last
  next numbered =>
    cases last
    unfold userbinContinue
    simp only [active, numbered, other, skips, Bool.true_eq_false, if_false, decide_false,
      Bool.and_false, Bool.false_eq_true, ne_eq, not_false_eq_true, decide_true, Bool.and_self,
      if_true]
  next => cases last

/-- A chunk with more bytes than announced is refused. -/
theorem userbinContinue_long (receiving : Receiving store total last received)
    (follows : Follows last index) (long : total < received + chunk.length) :
    userbinContinue store index chunk = (.failed, store) := by
  obtain ⟨repeats, skips⟩ := receiving.fresh follows
  obtain ⟨active, rfl, rfl, rfl, positive, short⟩ := receiving
  unfold userbinContinue
  simp only [active, repeats, skips, Bool.true_eq_false, Bool.false_eq_true, if_false, long,
    if_true]

/-- A chunk that is refused changes nothing. -/
theorem userbinContinue_failed (store : UserStore) (index : UInt16) (chunk : Bytes)
    (failed : (userbinContinue store index chunk).1 = .failed) :
    (userbinContinue store index chunk).2 = store := by
  unfold userbinContinue at failed ⊢
  simp only at failed ⊢
  split
  next => rfl
  next active =>
    rw [if_neg active] at failed
    split
    next => rfl
    next fresh =>
      rw [if_neg fresh] at failed
      split
      next => rfl
      next follows =>
        rw [if_neg follows] at failed
        split
        next => rfl
        next fits =>
          rw [if_neg fits] at failed
          split at failed <;> cases failed

/-- After a chunk that does not complete the upload the next one is awaited. -/
theorem Receiving.taken (receiving : Receiving store total last received) (index : UInt16)
    (chunk : Bytes) :
    Receiving (store.taken index chunk) total (some index) (received + chunk.length) :=
  { active := receiving.active
    totalSize := receiving.totalSize
    last := rfl
    received := congrArg (· + chunk.length) receiving.received
    recordLen := receiving.recordLen
    short := length_absorb_rest Intake.store receiving.recordLen _ chunk }

/-- What is absorbed later joins what was absorbed before. -/
theorem UserStore.absorbed_taken (positive : 0 < store.userbin.recordLen) (more : Bytes) :
    (store.taken index chunk).absorbed more = store.absorbed (chunk ++ more) :=
  absorb_append Intake.store positive (store.intake, store.userbin.record) chunk more

end Chunks

/-! ### Deliveries -/

/-- Requests that deliver the bytes of an upload, with their answers: chunks one after
another, and before the last of them any repeats of the one processed last and any
chunks that are refused. -/
inductive UploadDelivery (total : Nat) :
    Option UInt16 → Nat → List (UInt16 × Bytes) → Bytes → List AcuUserBinStatus → Prop where
  | complete {last : Option UInt16} : UploadDelivery total last total [] [] []
  | chunk {last : Option UInt16} {received : Nat} {index : UInt16} {bytes data : Bytes}
      {requests : List (UInt16 × Bytes)} {answers : List AcuUserBinStatus}
      (expected : received < total) (follows : Follows last index)
      (fits : received + bytes.length ≤ total)
      (later : UploadDelivery total (some index) (received + bytes.length) requests data answers) :
      UploadDelivery total last received ((index, bytes) :: requests) (bytes ++ data)
        ((if received + bytes.length = total then .complete else .ok) :: answers)
  | repeated {received : Nat} {index : UInt16} {bytes data : Bytes}
      {requests : List (UInt16 × Bytes)} {answers : List AcuUserBinStatus}
      (expected : received < total)
      (later : UploadDelivery total (some index) received requests data answers) :
      UploadDelivery total (some index) received ((index, bytes) :: requests) data (.ok :: answers)
  | skipped {before : UInt16} {received : Nat} {index : UInt16} {bytes data : Bytes}
      {requests : List (UInt16 × Bytes)} {answers : List AcuUserBinStatus}
      (expected : received < total) (other : index ≠ before) (skips : index ≠ before + 1)
      (later : UploadDelivery total (some before) received requests data answers) :
      UploadDelivery total (some before) received ((index, bytes) :: requests) data
        (.failed :: answers)
  | tooLong {last : Option UInt16} {received : Nat} {index : UInt16} {bytes data : Bytes}
      {requests : List (UInt16 × Bytes)} {answers : List AcuUserBinStatus}
      (expected : received < total) (follows : Follows last index)
      (long : total < received + bytes.length)
      (later : UploadDelivery total last received requests data answers) :
      UploadDelivery total last received ((index, bytes) :: requests) data (.failed :: answers)

/-- Behind the last byte there is nothing to deliver. -/
theorem UploadDelivery.finished {total received : Nat} {last : Option UInt16}
    {requests : List (UInt16 × Bytes)} {data : Bytes} {answers : List AcuUserBinStatus}
    (delivery : UploadDelivery total last received requests data answers) (all : total ≤ received) :
    requests = [] ∧ data = [] ∧ answers = [] := by
  cases delivery with
  | complete => exact ⟨rfl, rfl, rfl⟩
  | chunk expected => exact absurd expected (Nat.not_lt.mpr all)
  | repeated expected => exact absurd expected (Nat.not_lt.mpr all)
  | skipped expected => exact absurd expected (Nat.not_lt.mpr all)
  | tooLong expected => exact absurd expected (Nat.not_lt.mpr all)

/-- The last answer of a delivery is COMPLETE, and no other one is. -/
theorem UploadDelivery.completes {total received : Nat} {last : Option UInt16}
    {requests : List (UInt16 × Bytes)} {data : Bytes} {answers : List AcuUserBinStatus}
    (delivery : UploadDelivery total last received requests data answers)
    (expected : received < total) :
    ∃ before, answers = before ++ [.complete] ∧ .complete ∉ before := by
  have behind : ∀ {answers : List AcuUserBinStatus} {answer : AcuUserBinStatus},
      answer ≠ .complete → (∃ before, answers = before ++ [.complete] ∧ .complete ∉ before) →
        ∃ before, answer :: answers = before ++ [.complete] ∧ .complete ∉ before := by
    rintro answers answer other ⟨before, rfl, absent⟩
    refine ⟨answer :: before, rfl, ?_⟩
    rw [List.mem_cons, not_or]
    exact ⟨other.symm, absent⟩
  induction delivery with
  | complete => exact absurd expected (Nat.lt_irrefl _)
  | @chunk last received index bytes data requests answers _ follows fits later
      inductionHypothesis =>
      rcases Nat.lt_or_ge (received + bytes.length) total with more | all
      · rw [if_neg (Nat.ne_of_lt more)]
        exact behind (by decide) (inductionHypothesis more)
      · obtain ⟨_, _, rfl⟩ := later.finished all
        rw [if_pos (Nat.le_antisymm fits all)]
        exact ⟨[], rfl, List.not_mem_nil⟩
  | repeated _ _ inductionHypothesis => exact behind (by decide) (inductionHypothesis expected)
  | skipped _ _ _ _ inductionHypothesis =>
      exact behind (by decide) (inductionHypothesis expected)
  | tooLong _ _ _ _ inductionHypothesis =>
      exact behind (by decide) (inductionHypothesis expected)

/-- Answer requests one after another. -/
def continueAll : UserStore → List (UInt16 × Bytes) → List AcuUserBinStatus × UserStore
  | store, [] => ([], store)
  | store, (index, bytes) :: requests =>
      let answered := userbinContinue store index bytes
      let later := continueAll answered.2 requests
      (answered.1 :: later.1, later.2)

theorem continueAll_cons {store after : UserStore} {index : UInt16} {bytes : Bytes}
    {answer : AcuUserBinStatus} (answered : userbinContinue store index bytes = (answer, after))
    (requests : List (UInt16 × Bytes)) :
    continueAll store ((index, bytes) :: requests) =
      (answer :: (continueAll after requests).1, (continueAll after requests).2) := by
  rw [continueAll, answered]

/-- Requests that deliver bytes are answered as they should, and leave what the bytes
make of the store. -/
theorem delivers_result {total received : Nat} {last : Option UInt16}
    {requests : List (UInt16 × Bytes)} {data : Bytes} {answers : List AcuUserBinStatus}
    (delivery : UploadDelivery total last received requests data answers)
    (expected : received < total)
    {store : UserStore} (receiving : Receiving store total last received) :
    (continueAll store requests).1 = answers ∧
      (continueAll store requests).2.intake = (store.absorbed data).1.finish := by
  induction delivery generalizing store with
  | complete => exact absurd expected (Nat.lt_irrefl _)
  | @chunk last received index bytes data requests answers _ follows fits later
      inductionHypothesis =>
      have answered := userbinContinue_taken receiving follows fits
      rcases Nat.lt_or_ge (received + bytes.length) total with more | all
      · rw [if_neg (Nat.not_le.mpr more)] at answered
        obtain ⟨same, left⟩ := inductionHypothesis more (receiving.taken index bytes)
        rw [continueAll_cons answered, if_neg (Nat.ne_of_lt more), same, left,
          UserStore.absorbed_taken receiving.recordLen]
        exact ⟨rfl, rfl⟩
      · rw [if_pos all] at answered
        have filled : received + bytes.length = total := Nat.le_antisymm fits all
        -- The upload is complete, so no request follows.
        obtain ⟨rfl, rfl, rfl⟩ := later.finished (Nat.le_of_eq filled.symm)
        rw [continueAll_cons answered, if_pos filled, List.append_nil]
        exact ⟨rfl, userbinFinish_intake _⟩
  | repeated _ _ inductionHypothesis =>
      obtain ⟨same, left⟩ := inductionHypothesis expected receiving
      rw [continueAll_cons (userbinContinue_known receiving.active receiving.last _), same, left]
      exact ⟨rfl, rfl⟩
  | skipped _ other skips _ inductionHypothesis =>
      obtain ⟨same, left⟩ := inductionHypothesis expected receiving
      rw [continueAll_cons (userbinContinue_skipped receiving other skips), same, left]
      exact ⟨rfl, rfl⟩
  | tooLong _ follows long _ inductionHypothesis =>
      obtain ⟨same, left⟩ := inductionHypothesis expected receiving
      rw [continueAll_cons (userbinContinue_long receiving follows long), same, left]
      exact ⟨rfl, rfl⟩

/-! ### A whole upload -/

theorem userbinRecordLen_pos {binaryObj : UInt8} {recordLen : Nat}
    (known : userbinRecordLen binaryObj = some recordLen) : 0 < recordLen := by
  unfold userbinRecordLen at known
  split at known
  next =>
    cases known
    decide
  next =>
    split at known
    next =>
      cases known
      decide
    next => cases known

/-- What an accepted Start leaves: whole records are expected, and none was taken yet. -/
structure Started (started : UserStore) (totalSize totalCount : UInt32) (binaryObj : UInt8) :
    Prop where
  receiving : Receiving started totalSize.toNat none 0
  record : started.userbin.record = []
  positive : 0 < totalSize.toNat
  whole : started.userbin.recordLen ∣ totalSize.toNat
  known : userbinRecordLen binaryObj = some started.userbin.recordLen
  totalCount : started.userbin.totalCount = totalCount.toNat
  uncounted : started.userbin.parsedOk = 0 ∧ started.userbin.parsedBad = 0

theorem userbinStart_accepted {store started : UserStore} {totalSize totalCount : UInt32}
    {binaryObj : UInt8}
    (accepted : userbinStart store totalSize totalCount binaryObj = (true, started)) :
    Started started totalSize totalCount binaryObj ∧
      usersLoadBegin
          (if store.userbin.active then userbinAbort store else store).users =
        (true, started.users) := by
  unfold userbinStart at accepted
  simp only at accepted
  split at accepted
  next => cases accepted
  next recordLen known =>
    split at accepted
    next => cases accepted
    next size =>
      rw [not_or, not_not] at size
      split at accepted
      next => cases accepted
      next users began =>
        cases accepted
        refine ⟨⟨⟨rfl, rfl, rfl, rfl, userbinRecordLen_pos known, userbinRecordLen_pos known⟩,
          rfl, ?_, Nat.dvd_of_mod_eq_zero size.2, known, rfl, rfl, rfl⟩, began⟩
        apply Nat.pos_of_ne_zero
        intro zero
        exact size.1 (UInt32.toNat_inj.mp zero)

/-- Where the bytes of an upload are cut does not matter: repeats and chunks that are
refused change nothing, the last byte and no other completes the upload, and what it
leaves is what its records leave one by one. -/
theorem upload_chunking (store started : UserStore) (totalSize totalCount : UInt32)
    (binaryObj : UInt8)
    (accepted : userbinStart store totalSize totalCount binaryObj = (true, started))
    (data : Bytes) (requests : List (UInt16 × Bytes)) (answers : List AcuUserBinStatus)
    (delivery : UploadDelivery totalSize.toNat none 0 requests data answers) :
    (continueAll started requests).1 = answers ∧
      (continueAll started requests).2.intake =
        started.intake.process (blocks started.userbin.recordLen data).1 ∧
      (∃ before, answers = before ++ [.complete] ∧ .complete ∉ before) ∧
      (∀ store index bytes, (userbinContinue store index bytes).1 = .failed →
        (userbinContinue store index bytes).2 = store) := by
  obtain ⟨start, _⟩ := userbinStart_accepted accepted
  obtain ⟨same, left⟩ := delivers_result delivery start.positive start.receiving
  refine ⟨same, ?_, delivery.completes start.positive, userbinContinue_failed⟩
  rw [left, UserStore.absorbed, start.record]
  rfl

/-- An upload of one empty record in two chunks, the first one repeated, and with a chunk
in between that skips an index and one that is too long. -/
def cutRequests : List (UInt16 × Bytes) :=
  [(65535, List.replicate 100 0), (65535, [1]), (7, []), (0, List.replicate 29 0),
    (0, List.replicate 28 0)]

def cutAnswers : List AcuUserBinStatus :=
  [.ok, .ok, .failed, .failed, .complete]

theorem upload_chunking_cut :
    ∃ started, userbinStart (userbinCreate AcuUsers.first) 128 1 idtiUserbinObjInfo =
        (true, started) ∧
      (continueAll started cutRequests).1 = cutAnswers ∧
      (continueAll started cutRequests).2.intake =
        started.intake.process
          (blocks started.userbin.recordLen (List.replicate 128 0)).1 ∧
      (∃ before, cutAnswers = before ++ [.complete] ∧ .complete ∉ before) ∧
      (∀ store index bytes, (userbinContinue store index bytes).1 = .failed →
        (userbinContinue store index bytes).2 = store) := by
  have starts : (userbinStart (userbinCreate AcuUsers.first) 128 1 idtiUserbinObjInfo).1 =
      true := by decide +kernel
  generalize begun : userbinStart (userbinCreate AcuUsers.first) 128 1 idtiUserbinObjInfo =
    result at starts
  obtain ⟨answer, started⟩ := result
  cases starts
  have delivery : UploadDelivery 128 none 0 cutRequests (List.replicate 128 0) cutAnswers := by
    have first : (List.replicate 128 0 : Bytes) =
        List.replicate 100 0 ++ (List.replicate 28 0 ++ []) := by decide
    rw [first]
    refine .chunk (by decide) (by decide) (by decide) ?_
    refine .repeated (by decide) ?_
    refine .skipped (by decide) (by decide) (by decide) ?_
    refine .tooLong (by decide) (by decide) (by decide) ?_
    exact .chunk (by decide) (by decide) (by decide) .complete
  exact ⟨started, rfl, upload_chunking _ started 128 1 _ begun _ cutRequests _ delivery⟩

end Acud
