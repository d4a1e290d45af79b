/-
Module: Acud.Proofs.UploadResult
Purpose: What the result event of an upload says about the roster.
Trusted boundary: none
Main exports:
  Roster.build, DistinctEntries, build_registers_iff, upload_success, AllRegistered,
  success_registers_iff
-/
import Acud.Proofs.RosterExport
import Acud.Proofs.RosterReplacement
import Acud.Proofs.UploadRecords

namespace Acud

open Lib

/-!
The event behind an upload is told from two counters.  The roster comes from the load
tables, where a row takes the place of another under the same key, and the counters do
not see that.

[SRC src/acud/userbin.c, src/acud/protocol.h]
-/

/-! ### Rosters that are built from records -/

namespace Roster

/-- The roster that an upload of these entries builds. -/
def build (entries : List (AcuUserRecord × Option AcuUserCard)) : Roster :=
  entries.foldl Roster.load Roster.empty

theorem users_build (entries : List (AcuUserRecord × Option AcuUserCard)) :
    (build entries).users = (Table.empty _).insertAll (entries.map (·.1)) :=
  users_foldl_load _ _

theorem cards_build (entries : List (AcuUserRecord × Option AcuUserCard)) :
    (build entries).cards = (Table.empty _).insertAll (entries.filterMap (·.2)) :=
  cards_foldl_load _ _

end Roster

/-- No two entries have one user id, and no two have one card. -/
structure DistinctEntries (entries : List (AcuUserRecord × Option AcuUserCard)) : Prop where
  users : (entries.map (·.1.userId)).Nodup
  cards : ((entries.filterMap (·.2)).map (·.cardId)).Nodup

section Build

variable {entries : List (AcuUserRecord × Option AcuUserCard)}

/-- Users with distinct ids are all kept, in their order. -/
theorem DistinctEntries.userRows (distinct : DistinctEntries entries) :
    (Roster.build entries).users.rows = entries.map (·.1) := by
  rw [Roster.users_build, Table.rows_insertAll]
  · rfl
  · rw [Table.rows_empty, List.nil_append, List.map_map]
    exact distinct.users

theorem DistinctEntries.cardRows (distinct : DistinctEntries entries) :
    (Roster.build entries).cards.rows = entries.filterMap (·.2) := by
  rw [Roster.cards_build, Table.rows_insertAll]
  · rfl
  · exact distinct.cards

/-- As many users as entries: no two entries have one user id. -/
theorem count_build_iff :
    (Roster.build entries).users.count = entries.length ↔ (entries.map (·.1.userId)).Nodup := by
  have counted := @Table.count_insertAll_empty _ _ AcuUserRecord.userId _ (entries.map (·.1))
  rw [List.length_map, List.map_map] at counted
  rw [Roster.users_build]
  exact counted

/-- The entry can be found by its id, and by its card when it has one. -/
def Roster.Registers (roster : Roster) (entry : AcuUserRecord × Option AcuUserCard) : Prop :=
  roster.users.find? entry.1.userId = some entry.1 ∧
    ∀ card, entry.2 = some card → roster.userOfCard card.cardId = some entry.1

/-- All entries can be found, and there are as many users, exactly when the entries
are distinct. -/
theorem build_registers_iff
    (paired : ∀ entry ∈ entries, ∀ card, entry.2 = some card →
      card.userId = entry.1.userId) :
    ((∀ entry ∈ entries, (Roster.build entries).Registers entry) ∧
        (Roster.build entries).users.count = entries.length) ↔
      DistinctEntries entries := by
  constructor
  · rintro ⟨registered, counted⟩
    have users := count_build_iff.mp counted
    refine { users := users, cards := ?_ }
    unfold List.Nodup at users ⊢
    rw [List.pairwise_map] at users
    rw [List.pairwise_map, List.pairwise_filterMap]
    apply users.imp_of_mem
    intro first second firstMember secondMember different card carried other carriedToo same
    -- One card resolves to one user.
    have resolved := (registered first firstMember).2 card carried
    have resolvedToo := (registered second secondMember).2 other carriedToo
    rw [← same, resolved] at resolvedToo
    exact different (congrArg AcuUserRecord.userId (Option.some.inj resolvedToo))
  · intro distinct
    refine ⟨?_, count_build_iff.mpr distinct.users⟩
    intro entry member
    have userFound : (Roster.build entries).users.find? entry.1.userId = some entry.1 := by
      apply Table.find?_of_mem
      rw [distinct.userRows]
      exact List.mem_map_of_mem member
    refine ⟨userFound, ?_⟩
    intro card carried
    have cardFound : (Roster.build entries).cards.find? card.cardId = some card := by
      apply Table.find?_of_mem
      rw [distinct.cardRows]
      exact List.mem_filterMap.mpr ⟨entry, member, carried⟩
    unfold Roster.userOfCard
    rw [cardFound, Option.bind_some, paired entry member card carried]
    exact userFound

end Build

/-! ### The event -/

/-- The event, told from the counters. -/
def Intake.resultEvent (intake : Intake) : UInt32 :=
  if intake.parsedOk = 0 then idtiEventUserfileFail
  else if intake.parsedBad > 0 then idtiEventUserfilePartial
  else idtiEventUserfileSuccess

theorem userbinResultEvent_eq (store : UserStore) :
    userbinResultEvent store = store.intake.resultEvent := rfl

/-- The all-success event: the rosters were swapped, and no record was bad. -/
theorem Intake.finish_success {intake : Intake}
    (success : intake.finish.resultEvent = idtiEventUserfileSuccess) :
    usersLoadCommit intake.users = (true, intake.finish.users) ∧ intake.parsedBad = 0 := by
  unfold Intake.finish at success ⊢
  split at success
  next users done =>
    rw [done]
    refine ⟨rfl, ?_⟩
    unfold Intake.resultEvent at success
    split at success
    next => cases success
    next =>
      split at success
      next => cases success
      next good => exact Nat.eq_zero_of_not_pos good
  next => cases success

/-! ### Uploads that complete -/

section Upload

variable {store started : UserStore} {totalSize totalCount : UInt32} {binaryObj : UInt8}
  {data : Bytes} {requests : List (UInt16 × Bytes)} {answers : List AcuUserBinStatus}

/-- What an upload leaves is what its records leave one by one. -/
theorem upload_processed
    (accepted : userbinStart store totalSize totalCount binaryObj = (true, started))
    (delivery : UploadDelivery totalSize.toNat none 0 requests data answers) :
    (continueAll started requests).2.intake =
      started.intake.process (blocks started.userbin.recordLen data).1 := by
  obtain ⟨start, _⟩ := userbinStart_accepted accepted
  obtain ⟨_, left⟩ := delivers_result delivery start.positive start.receiving
  rw [left, UserStore.absorbed, start.record]
  rfl

/-- A download that begins has empty load tables. -/
theorem Started.loads
    (accepted : userbinStart store totalSize totalCount binaryObj = (true, started)) :
    Loads started.users Roster.empty := by
  obtain ⟨_, began⟩ := userbinStart_accepted accepted
  rw [usersLoadBegin_eq] at began
  generalize (if store.userbin.active then userbinAbort store else store).users = free at began
  have effect := beginDownload_effect (if free.loading then usersLoadAbort free else free)
  rw [began] at effect
  have idle : (if free.loading then usersLoadAbort free else free).loading = false := by
    split
    next => rfl
    next idle => simpa using idle
  exact
    { loading := effect.loading idle
      load := effect.load rfl }

theorem Started.oracle
    (accepted : userbinStart store totalSize totalCount binaryObj = (true, started)) :
    started.users.faults.ok = store.users.faults.ok := by
  obtain ⟨_, began⟩ := userbinStart_accepted accepted
  have begun := loadStep_oracle (if store.userbin.active then userbinAbort store else store).users
    .start
  rw [loadStep, began] at begun
  refine begun.trans ?_
  split
  next active =>
    unfold userbinAbort
    rw [if_pos active]
    exact oracle_usersLoadAbort store.users
  next => rfl

/-- Behind the all-success event every record was decoded, and reads are answered from
the roster that the records build. -/
theorem upload_success
    (accepted : userbinStart store totalSize totalCount binaryObj = (true, started))
    (delivery : UploadDelivery totalSize.toNat none 0 requests data answers)
    (reads : store.users.faults.Never .select)
    (success : userbinResultEvent (continueAll started requests).2 = idtiEventUserfileSuccess) :
    (∀ raw ∈ (blocks started.userbin.recordLen data).1, (decodeRecord raw).isSome = true) ∧
      Answers (continueAll started requests).2.users
        (Roster.build ((blocks started.userbin.recordLen data).1.filterMap decodeRecord)) := by
  have start := (userbinStart_accepted accepted).1
  have left := upload_processed accepted delivery
  rw [userbinResultEvent_eq, left] at success
  have users : (continueAll started requests).2.users =
      (started.intake.process (blocks started.userbin.recordLen data).1).users :=
    congrArg Intake.users left
  rw [users]
  generalize (blocks started.userbin.recordLen data).1 = records at success ⊢
  unfold Intake.process at success ⊢
  obtain ⟨committed, good⟩ := Intake.finish_success success
  have loads : Loads started.intake.users Roster.empty := Started.loads accepted
  obtain ⟨decoded, loaded⟩ := Intake.stored_all loads (good.trans start.uncounted.2.symm)
  have oracle := (started.intake.storeAll_inserting records).oracle
  refine ⟨decoded, ?_⟩
  have outcome := usersLoadCommit_outcome (records.foldl Intake.store started.intake).users
  rw [committed] at outcome
  cases outcome with
  | replaced active unstuck exist running loading oracleLater =>
      apply answers_of_running
      · unfold Faults.Never
        rw [oracleLater, oracle]
        exact (Started.oracle accepted).symm ▸ reads
      · rw [running]
        exact loaded.load

end Upload

/-! ### What the all-success event means -/

/-- Every record can be read back by its id and its card, there are as many users as
records, and as many as were announced. -/
structure AllRegistered (u : AcuUsers) (records : List Bytes) (totalCount : Nat) : Prop where
  registered : ∀ raw ∈ records, ∃ record card, decodeRecord raw = some (record, card) ∧
    usersLookupById u record.userId = .found record ∧
    ∀ carried, card = some carried → usersLookupByCard u carried.cardId = .found record
  count : usersCount u = records.length
  announced : records.length = totalCount

theorem Lookup.ofOption_eq_found {α : Type} {option : Option α} {row : α} :
    Lookup.ofOption option = .found row ↔ option = some row := by
  cases option with
  | none => exact iff_of_false nofun nofun
  | some other =>
      unfold Lookup.ofOption
      rw [Lookup.found.injEq, Option.some.injEq]

/-- Reads that are answered from a roster. -/
theorem allRegistered_iff {u : AcuUsers} {records : List Bytes} {totalCount : Nat}
    (decoded : ∀ raw ∈ records, (decodeRecord raw).isSome = true)
    (answered : Answers u (Roster.build (records.filterMap decodeRecord))) :
    AllRegistered u records totalCount ↔
      ((∀ entry ∈ records.filterMap decodeRecord,
          (Roster.build (records.filterMap decodeRecord)).Registers entry) ∧
        (Roster.build (records.filterMap decodeRecord)).users.count =
          (records.filterMap decodeRecord).length) ∧
      records.length = totalCount := by
  have all : (records.filterMap decodeRecord).length = records.length :=
    List.filterMap_length_eq_length.mpr decoded
  constructor
  · intro registered
    refine ⟨⟨?_, ?_⟩, registered.announced⟩
    · intro entry member
      obtain ⟨raw, sent, carried⟩ := List.mem_filterMap.mp member
      obtain ⟨record, card, same, byId, byCard⟩ := registered.registered raw sent
      rw [carried, Option.some.injEq] at same
      subst same
      rw [answered.byId, Lookup.ofOption_eq_found] at byId
      refine ⟨byId, ?_⟩
      intro stored held
      have found := byCard stored held
      rwa [answered.byCard, Lookup.ofOption_eq_found] at found
    · have counted := registered.count
      rw [answered.count, Int.ofNat_inj] at counted
      rw [counted, all]
  · rintro ⟨⟨registered, counted⟩, announced⟩
    refine { registered := ?_, count := ?_, announced := announced }
    · intro raw sent
      obtain ⟨entry, carried⟩ := Option.isSome_iff_exists.mp (decoded raw sent)
      obtain ⟨byId, byCard⟩ :=
        registered entry (List.mem_filterMap.mpr ⟨raw, sent, carried⟩)
      refine ⟨entry.1, entry.2, carried, ?_, ?_⟩
      · rw [answered.byId, Lookup.ofOption_eq_found]
        exact byId
      · intro stored held
        rw [answered.byCard, Lookup.ofOption_eq_found]
        exact byCard stored held
    · rw [answered.count, counted, all]

/-- The all-success event means that everything is registered exactly when no two
records share a user id or a card and their number was announced. -/
theorem success_registers_iff (store started : UserStore) (totalSize totalCount : UInt32)
    (binaryObj : UInt8)
    (accepted : userbinStart store totalSize totalCount binaryObj = (true, started))
    (data : Bytes) (requests : List (UInt16 × Bytes)) (answers : List AcuUserBinStatus)
    (delivery : UploadDelivery totalSize.toNat none 0 requests data answers)
    (reads : store.users.faults.Never .select)
    (success : userbinResultEvent (continueAll started requests).2 = idtiEventUserfileSuccess) :
    AllRegistered (continueAll started requests).2.users
        (blocks started.userbin.recordLen data).1 totalCount.toNat ↔
      DistinctEntries ((blocks started.userbin.recordLen data).1.filterMap decodeRecord) ∧
        (blocks started.userbin.recordLen data).1.length = totalCount.toNat := by
  obtain ⟨decoded, answered⟩ := upload_success accepted delivery reads success
  have paired : ∀ entry ∈ (blocks started.userbin.recordLen data).1.filterMap decodeRecord,
      ∀ card, entry.2 = some card → card.userId = entry.1.userId := by
    intro entry member card carried
    obtain ⟨raw, _, decodedRaw⟩ := List.mem_filterMap.mp member
    apply @userId_of_decodeRecord raw
    rw [← carried]
    exact decodedRaw
  rw [allRegistered_iff decoded answered, build_registers_iff paired]

/-! Two people who were given one card. -/

def firstHolder : AcuUserRecord :=
  { (default : AcuUserRecord) with userId := ⟨[0, 0, 0, 0, 0, 0, 0, 1], rfl⟩ }

def secondHolder : AcuUserRecord :=
  { (default : AcuUserRecord) with userId := ⟨[0, 0, 0, 0, 0, 0, 0, 2], rfl⟩ }

def sharedCard : AcuUserCard :=
  { (default : AcuUserCard) with cardId := ⟨[0, 0, 0, 0, 0, 0, 0, 7], rfl⟩ }

def sharedCardUpload : Bytes :=
  buildRecord firstHolder sharedCard 0 ++ buildRecord secondHolder sharedCard 1

/-- One request that carries a whole upload. -/
theorem delivery_single {total : Nat} {data : Bytes} (some : 0 < total)
    (whole : data.length = total) :
    UploadDelivery total none 0 [(0, data)] data [.complete] := by
  have follows : Follows none 0 := by rintro before ⟨⟩
  have delivered := @UploadDelivery.chunk _ none 0 0 data [] [] [] some follows
    (Nat.le_of_eq (by rw [Nat.zero_add, whole]))
    (by rw [Nat.zero_add, whole]; exact .complete)
  rw [List.append_nil, Nat.zero_add, if_pos whole] at delivered
  exact delivered

/-- A Start on the store of a first start, for as many bytes and users. -/
def firstUpload (totalSize totalCount : UInt32) : Bool × UserStore :=
  userbinStart (userbinCreate AcuUsers.first) totalSize totalCount idtiUserbinObjInfo

/-- The same two with a card each. -/
def ownCardsUpload : Bytes :=
  buildRecord firstHolder { sharedCard with cardId := ⟨[0, 0, 0, 0, 0, 0, 0, 6], rfl⟩ } 0 ++
    buildRecord secondHolder sharedCard 1

theorem success_registers_iff_pair :
    AllRegistered (continueAll (firstUpload 256 2).2 [(0, ownCardsUpload)]).2.users
      (blocks (firstUpload 256 2).2.userbin.recordLen ownCardsUpload).1 2 := by
  have accepted : firstUpload 256 2 = (true, (firstUpload 256 2).2) :=
    Prod.ext (by decide +kernel) rfl
  have success : userbinResultEvent
      (continueAll (firstUpload 256 2).2 [(0, ownCardsUpload)]).2 = idtiEventUserfileSuccess := by
    decide +kernel
  have distinct : DistinctEntries
      ((blocks (firstUpload 256 2).2.userbin.recordLen ownCardsUpload).1.filterMap
        decodeRecord) :=
    { users := by decide +kernel
      cards := by decide +kernel }
  have announced : (blocks (firstUpload 256 2).2.userbin.recordLen ownCardsUpload).1.length =
      (2 : UInt32).toNat := by decide +kernel
  exact (success_registers_iff _ _ 256 2 _ accepted _ _ _
    (delivery_single (by decide) (by decide +kernel)) (fun _ => rfl) success).mpr
      ⟨distinct, announced⟩

/-- The first holder's card resolves to the second one, behind an all-success event. -/
theorem shared_card_succeeds :
    ¬ ∀ (store started : UserStore) (totalSize totalCount : UInt32) (binaryObj : UInt8)
      (data : Bytes) (requests : List (UInt16 × Bytes)) (answers : List AcuUserBinStatus),
      userbinStart store totalSize totalCount binaryObj = (true, started) →
      UploadDelivery totalSize.toNat none 0 requests data answers →
      store.users.faults.Never .select →
      userbinResultEvent (continueAll started requests).2 = idtiEventUserfileSuccess →
      AllRegistered (continueAll started requests).2.users
        (blocks started.userbin.recordLen data).1 totalCount.toNat := by
  intro claimed
  have accepted : firstUpload 256 2 = (true, (firstUpload 256 2).2) :=
    Prod.ext (by decide +kernel) rfl
  have recordLen : (firstUpload 256 2).2.userbin.recordLen = idtiUserbinRecInfoLen := by
    decide +kernel
  have success : userbinResultEvent
      (continueAll (firstUpload 256 2).2 [(0, sharedCardUpload)]).2 = idtiEventUserfileSuccess := by
    decide +kernel
  have registered := (claimed _ _ 256 2 _ sharedCardUpload _ _ accepted
    (delivery_single (by decide) (by decide +kernel)) (fun _ => rfl) success).registered
  have sent : buildRecord firstHolder sharedCard 0 ∈
      (blocks (firstUpload 256 2).2.userbin.recordLen sharedCardUpload).1 := by
    rw [recordLen, sharedCardUpload, blocks_cons (by decide) (length_buildRecord _ _ _)]
    exact List.mem_cons_self
  obtain ⟨record, card, decoded, _, byCard⟩ := registered _ sent
  have carried : (decodeRecord (buildRecord firstHolder sharedCard 0)).map
      (fun entry => (entry.1.userId, entry.2.map (·.cardId))) =
        some (firstHolder.userId, some sharedCard.cardId) := by decide +kernel
  rw [decoded, Option.map_some, Option.some.injEq, Prod.mk.injEq] at carried
  obtain ⟨same, held⟩ := carried
  obtain ⟨stored, rfl, cardId⟩ := Option.map_eq_some_iff.mp held
  have found := byCard stored rfl
  have resolved : (usersLookupByCard
      (continueAll (firstUpload 256 2).2 [(0, sharedCardUpload)]).2.users
      sharedCard.cardId).row?.map (·.userId) = some secondHolder.userId := by decide +kernel
  rw [cardId] at found
  rw [Lookup.row?_eq_some.mpr found, Option.map_some, Option.some.injEq, same] at resolved
  cases resolved

end Acud
