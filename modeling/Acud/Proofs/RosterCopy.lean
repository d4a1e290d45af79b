/-
Module: Acud.Proofs.RosterCopy
Purpose: A roster that is taken from one unit and sent to another is the same there.
Trusted boundary: none
Main exports:
  Roster.Exportable, Reproduces, Roster.exportEntries, build_reproduces, Copied, roster_copied
-/
import Acud.Proofs.FaultlessUpload
import Acud.Proofs.RecordCodec
import Acud.Proofs.RosterPositions

namespace Acud

open Lib

/-!
The bytes of a transfer are the records of all users, and each is read back as the user
and the user's card.  The other unit builds its roster from them in the order of the
ids.

A card row whose user was deleted is not sent, and nobody is found by it on either side.

[SRC src/acud/userbin.c]
-/

/-! ### Rosters that can be copied -/

/-- What the record format can carry. -/
structure Roster.Exportable (roster : Roster) : Prop where
  nonempty : roster.users.rows ≠ []
  named : roster.Named
  dated : ∀ record ∈ roster.users.rows, record.expiredDate.toNat < 2 ^ 24
  single : roster.SingleCards
  cards : ∀ card ∈ roster.cards.rows, card.cardId.isZero = false
  few : roster.users.count < 2 ^ 25

/-- The same users, and the same users behind the same cards. -/
structure Reproduces (roster after : Roster) : Prop where
  users : ∀ userId, after.users.find? userId = roster.users.find? userId
  cards : ∀ cardId, (after.cards.find? cardId).map AcuUserCard.userId =
    ((roster.cards.find? cardId).map AcuUserCard.userId).filter fun userId =>
      (roster.users.find? userId).isSome
  resolves : ∀ cardId, after.userOfCard cardId = roster.userOfCard cardId

namespace Roster

variable {roster : Roster}

theorem mem_usersById {record : AcuUserRecord} :
    record ∈ roster.usersById ↔ record ∈ roster.users.rows :=
  roster.usersById_perm.mem_iff

theorem cardOfUser_eq_some {userId : UserId} {card : AcuUserCard}
    (found : roster.cardOfUser userId = some card) :
    card ∈ roster.cards.rows ∧ card.userId = userId :=
  ⟨List.mem_of_find?_eq_some found, by simpa using List.find?_some found⟩

/-- The only card of a user is the one that is found. -/
theorem SingleCards.cardOfUser (single : roster.SingleCards) {record : AcuUserRecord}
    (member : record ∈ roster.users.rows) {card : AcuUserCard}
    (stored : card ∈ roster.cards.rows) (own : card.userId = record.userId) :
    roster.cardOfUser record.userId = some card := by
  have few := single record member
  have listed : card ∈ roster.cards.rows.filter fun card => card.userId = record.userId :=
    List.mem_filter.mpr ⟨stored, by simpa using own⟩
  have first : (roster.cards.rows.filter fun card => card.userId = record.userId).head? =
      roster.cardOfUser record.userId := List.head?_filter
  rw [← first]
  generalize (roster.cards.rows.filter fun card => card.userId = record.userId) = cards
    at few listed
  match cards, few, listed with
  | [other], _, listed => rw [List.mem_singleton.mp listed]; rfl

/-! ### What the other unit builds -/

/-- The entries of the records that are sent. -/
def exportEntries (roster : Roster) : List (AcuUserRecord × Option AcuUserCard) :=
  roster.usersById.map fun record => importEntry (roster.exportRow record)

/-- A card as the other unit stores it. -/
def importCard (card : AcuUserCard) : AcuUserCard :=
  { card with
    proxRaw := Blob.ofMemory (Memory.ofBytes card.cardId.reverse.bytes) 0 acuUserProxLen }

theorem importEntry_exportRow
    (cards : ∀ card ∈ roster.cards.rows, card.cardId.isZero = false) (record : AcuUserRecord) :
    importEntry (roster.exportRow record) =
      (record, (roster.cardOfUser record.userId).map importCard) := by
  unfold importEntry exportRow
  cases found : roster.cardOfUser record.userId with
  | none => rfl
  | some card =>
      obtain ⟨stored, own⟩ := cardOfUser_eq_some found
      have nonzero := cards card stored
      simp only [Option.getD_some, Option.map_some, nonzero, Bool.false_eq_true, if_false, ← own]
      rfl

theorem users_exportEntries (roster : Roster) :
    roster.exportEntries.map (·.1) = roster.usersById := by
  unfold exportEntries
  rw [List.map_map]
  exact List.map_id _

/-- The cards that are sent: those of the users. -/
theorem mem_cards_exportEntries (exportable : roster.Exportable) {card : AcuUserCard} :
    card ∈ roster.exportEntries.filterMap (·.2) ↔
      ∃ stored ∈ roster.cards.rows, (roster.users.find? stored.userId).isSome = true ∧
        importCard stored = card := by
  unfold exportEntries
  rw [List.mem_filterMap]
  constructor
  · rintro ⟨entry, member, carried⟩
    obtain ⟨record, listed, rfl⟩ := List.mem_map.mp member
    rw [importEntry_exportRow exportable.cards] at carried
    obtain ⟨stored, found, rfl⟩ := Option.map_eq_some_iff.mp carried
    obtain ⟨inside, own⟩ := cardOfUser_eq_some found
    refine ⟨stored, inside, ?_, rfl⟩
    rw [own, Table.find?_of_mem (mem_usersById.mp listed)]
    rfl
  · rintro ⟨stored, inside, registered, rfl⟩
    obtain ⟨record, found⟩ := Option.isSome_iff_exists.mp registered
    have member := Table.mem_of_find? found
    have own := Table.key_of_find? found
    refine ⟨_, List.mem_map_of_mem (mem_usersById.mpr member), ?_⟩
    rw [importEntry_exportRow exportable.cards,
      exportable.single.cardOfUser member inside own.symm]
    rfl

/-- No user and no card is sent twice. -/
theorem distinct_exportEntries (exportable : roster.Exportable) :
    DistinctEntries roster.exportEntries := by
  have users : (roster.usersById.map AcuUserRecord.userId).Nodup :=
    (roster.usersById_perm.map AcuUserRecord.userId).nodup_iff.mpr roster.users.keysDistinct
  constructor
  · have ids := users
    rw [← users_exportEntries, List.map_map] at ids
    exact ids
  · unfold exportEntries List.Nodup
    unfold List.Nodup at users
    rw [List.pairwise_map] at users
    rw [List.filterMap_map, List.pairwise_map, List.pairwise_filterMap]
    apply users.imp
    intro first second different card carried other carriedToo same
    simp only [Function.comp_apply, importEntry_exportRow exportable.cards] at carried carriedToo
    obtain ⟨stored, found, rfl⟩ := Option.map_eq_some_iff.mp carried
    obtain ⟨storedToo, foundToo, rfl⟩ := Option.map_eq_some_iff.mp carriedToo
    obtain ⟨inside, own⟩ := cardOfUser_eq_some found
    obtain ⟨insideToo, ownToo⟩ := cardOfUser_eq_some foundToo
    -- One card row belongs to one user.
    have one : stored = storedToo := Table.eq_of_key_eq inside insideToo same
    exact different (own.symm.trans ((congrArg AcuUserCard.userId one).trans ownToo))

/-- What is built from the records is the roster they were made of. -/
theorem build_reproduces (exportable : roster.Exportable) :
    Reproduces roster (build roster.exportEntries) := by
  have distinct := distinct_exportEntries exportable
  have users : ∀ userId,
      (build roster.exportEntries).users.find? userId = roster.users.find? userId := by
    apply Table.find?_congr
    intro record
    rw [distinct.userRows, users_exportEntries]
    exact mem_usersById
  have cards : ∀ cardId,
      ((build roster.exportEntries).cards.find? cardId).map AcuUserCard.userId =
        ((roster.cards.find? cardId).map AcuUserCard.userId).filter fun userId =>
          (roster.users.find? userId).isSome := by
    intro cardId
    have rows : ∀ card, card ∈ (build roster.exportEntries).cards.rows ↔
        ∃ stored ∈ roster.cards.rows, (roster.users.find? stored.userId).isSome = true ∧
          importCard stored = card := by
      intro card
      rw [distinct.cardRows]
      exact mem_cards_exportEntries exportable
    cases found : (build roster.exportEntries).cards.find? cardId with
    | some card =>
        obtain ⟨stored, inside, registered, rfl⟩ := (rows card).mp (Table.mem_of_find? found)
        have carried : (importCard stored).cardId = cardId := Table.key_of_find? found
        have named : stored.cardId = cardId := carried
        rw [← named, Table.find?_of_mem inside, Option.map_some, Option.map_some,
          Option.filter_some, if_pos registered]
        rfl
    | none =>
        rw [Table.find?_eq_none] at found
        cases original : roster.cards.find? cardId with
        | none => rfl
        | some stored =>
            rw [Option.map_none, Option.map_some, Option.filter_some, if_neg]
            intro registered
            have named : stored.cardId = cardId := Table.key_of_find? original
            exact found (importCard stored)
              ((rows _).mpr ⟨stored, Table.mem_of_find? original, registered, rfl⟩) named
  refine { users := users, cards := cards, resolves := ?_ }
  intro cardId
  have resolve (one : Roster) : one.userOfCard cardId =
      ((one.cards.find? cardId).map AcuUserCard.userId).bind one.users.find? := by
    rw [Option.bind_map]
    rfl
  rw [resolve, resolve, cards, funext users]
  cases (roster.cards.find? cardId).map AcuUserCard.userId with
  | none => rfl
  | some userId =>
      rw [Option.filter_some, Option.bind_some]
      split
      next registered => rfl
      next missing =>
        rw [Option.bind_none, Option.not_isSome_iff_eq_none.mp missing]

end Roster

/-! ### The transfer -/

theorem Roster.Exportable.exportsWhole {roster : Roster} (exportable : roster.Exportable) :
    roster.ExportsWhole :=
  { cards := fun _ record listed => .inl
      (exportable.single record (Roster.mem_usersById.mp (List.mem_of_getElem? listed)))
    few := exportable.few }

/-- The rows that are sent. -/
theorem Roster.SingleCards.firstRows {roster : Roster} (single : roster.SingleCards) :
    roster.firstRows = roster.usersById.map roster.exportRow := by
  unfold Roster.firstRows
  rw [List.map_eq_flatMap]
  apply List.flatMap_congr
  intro record member
  rw [single.joinCards member]
  rfl

theorem userbinReceiveStart_answered {store : UserStore} {roster : Roster}
    (answers : Answers store.users roster) :
    ∃ totals started,
      userbinReceiveStart store idtiUserbinObjInfo = (some totals, started) := by
  have count : ¬ usersCount store.users < 0 := by
    rw [answers.count]
    omega
  unfold userbinReceiveStart
  simp only [ne_eq, not_true_eq_false, if_false, if_neg count]
  exact ⟨_, _, rfl⟩

/-- What the other unit has behind the upload: every checksum passed, every record was
stored, the event is the all-success one, and the roster is the same. -/
structure Copied (roster : Roster) (records : List Bytes) (after : UserStore) : Prop where
  checked : ∀ raw ∈ records, recordCrcOk (Memory.ofBytes raw) = true
  all : records.length = roster.users.count
  stored : after.userbin.parsedOk = records.length
  bad : after.userbin.parsedBad = 0
  success : userbinResultEvent after = idtiEventUserfileSuccess
  roster : Reproduces roster after.users.roster

/-- The chunks of a roster are the records of its users. -/
theorem download_encodes {store started : UserStore} {roster : Roster}
    {totals : UInt32 × UInt32}
    (accepted : userbinReceiveStart store idtiUserbinObjInfo = (some totals, started))
    (answers : Answers store.users roster) (exportable : roster.Exportable) (base : UInt16) :
    (∃ chunks, Download started base chunks) ∧
      ∀ chunks, Download started base chunks →
        Encodes chunks.flatten (roster.usersById.map roster.exportRow) := by
  obtain ⟨ends, pagesOf⟩ :=
    download_paging (Resumes.start accepted answers exportable.named base)
  refine ⟨ends, ?_⟩
  intro chunks download
  obtain ⟨pages, paging, encodes⟩ := pagesOf chunks download
  have oneRow := roster.oneRow_iff.mpr exportable.exportsWhole.cards
  rw [paging.flatten_eq roster.joinCards_ne_nil oneRow] at encodes
  rw [← exportable.single.firstRows]
  exact encodes

/-- A roster that the record format can carry is the same on the unit that it is sent to:
its bytes are delivered, whatever chunks they are cut into on the way, to a unit none of
whose statements fails. -/
theorem roster_copied (store : UserStore) (roster : Roster)
    (reads : store.users.faults.Never .select) (running : store.users.running.view = .of roster)
    (exportable : roster.Exportable) {file : UsersFile} {first : ReliableFaults}
    {begun receiver : UserStore} {ops : List StoreOp}
    (starts : startStore file first = some begun)
    (reached : run storeStep begun ops = some receiver)
    (faultless : ∀ kind, receiver.users.faults.Never kind) (base : UInt16) :
    ∃ totalSize totalCount started receiving,
      userbinReceiveStart store idtiUserbinObjInfo = (some (totalSize, totalCount), started) ∧
      userbinStart receiver totalSize totalCount idtiUserbinObjInfo = (true, receiving) ∧
      (∃ chunks, Download started base chunks) ∧
      ∀ chunks, Download started base chunks →
        chunks.flatten.length = totalSize.toNat ∧
        ∀ requests answers,
          UploadDelivery totalSize.toNat none 0 requests chunks.flatten answers →
            Copied roster (blocks idtiUserbinRecInfoLen chunks.flatten).1
              (continueAll receiving requests).2 := by
  have answered := answers_of_running reads running
  obtain ⟨⟨totalSize, totalCount⟩, started, accepted⟩ := userbinReceiveStart_answered answered
  obtain ⟨size, _⟩ := receiveStart_totals accepted answered
  obtain ⟨ends, encodesAll⟩ := download_encodes accepted answered exportable base
  have orderly := run_orderly starts reached faultless
  have healthy := run_healthy starts reached
  have few := exportable.few
  have width : idtiUserbinRecInfoLen = 128 := rfl
  have positive : 0 < roster.users.count := List.length_pos_iff.mpr exportable.nonempty
  have announced : totalSize.toNat = roster.users.count * idtiUserbinRecInfoLen := by
    rw [width] at size ⊢
    omega
  have some : totalSize ≠ 0 := by
    rintro rfl
    have zero : (0 : UInt32).toNat = 0 := rfl
    rw [zero, width] at announced
    omega
  have whole : totalSize.toNat % idtiUserbinRecInfoLen = 0 := by
    rw [announced]
    exact Nat.mul_mod_left _ _
  obtain ⟨receiving, begins, ready⟩ :=
    @userbinStart_orderly receiver orderly totalSize totalCount idtiUserbinObjInfo
      idtiUserbinRecInfoLen rfl some whole
  refine ⟨totalSize, totalCount, started, receiving, accepted, begins, ends, ?_⟩
  intro chunks download
  have encodes := encodesAll chunks download
  have listed : (roster.usersById.map roster.exportRow).length = roster.users.count := by
    rw [List.length_map, roster.length_usersById]
  refine ⟨?_, ?_⟩
  · rw [encodes.length, listed, announced]
  · intro requests answers delivery
    obtain ⟨decoded, entries⟩ := encodes.decode
      (fun row member => by
        obtain ⟨record, stored, rfl⟩ := List.mem_map.mp member
        exact exportable.named record (Roster.mem_usersById.mp stored))
      (fun row member => by
        obtain ⟨record, stored, rfl⟩ := List.mem_map.mp member
        exact exportable.dated record (Roster.mem_usersById.mp stored))
    have recordLen : receiving.userbin.recordLen = idtiUserbinRecInfoLen :=
      (Option.some.inj (userbinStart_accepted begins).1.known).symm
    have all : (blocks idtiUserbinRecInfoLen chunks.flatten).1.length = roster.users.count := by
      rw [← List.filterMap_length_eq_length.mpr decoded, entries, List.length_map, listed]
    have nonempty : (blocks idtiUserbinRecInfoLen chunks.flatten).1 ≠ [] := by
      apply List.length_pos_iff.mp
      rw [all]
      exact positive
    have uploaded := upload_succeeds healthy begins ready delivery
      (recordLen ▸ nonempty) (recordLen ▸ decoded)
    rw [recordLen] at uploaded
    have built : (continueAll receiving requests).2.users.roster =
        Roster.build roster.exportEntries := by
      rw [uploaded.roster, entries, List.map_map]
      rfl
    exact
      { checked := encodes.checked
        all := all
        stored := uploaded.stored
        bad := uploaded.bad
        success := uploaded.success
        roster := built ▸ Roster.build_reproduces exportable }

/-- The five dummies, sent to a unit that has them too. -/
theorem roster_copied_seeded :
    ∃ totalSize totalCount started receiving,
      userbinReceiveStart seededStore idtiUserbinObjInfo =
        (some (totalSize, totalCount), started) ∧
      userbinStart seededStore totalSize totalCount idtiUserbinObjInfo = (true, receiving) ∧
      (∃ chunks, Download started 0 chunks) ∧
      ∀ chunks, Download started 0 chunks →
        chunks.flatten.length = totalSize.toNat ∧
        ∀ requests answers,
          UploadDelivery totalSize.toNat none 0 requests chunks.flatten answers →
            Copied seededStore.users.roster (blocks idtiUserbinRecInfoLen chunks.flatten).1
              (continueAll receiving requests).2 := by
  have blank : UsersFile.blank.roster.Named := Roster.named_empty
  have named : seededStore.users.Named := @run_named _ _ _ _ [] blank startStore_blank rfl
  have exportable : seededStore.users.roster.Exportable :=
    { nonempty := by decide +kernel
      named := named.running.view
      dated := by decide +kernel
      single := by
        unfold Roster.SingleCards
        decide +kernel
      cards := by decide +kernel
      few := by decide +kernel }
  exact roster_copied seededStore seededStore.users.roster named.healthy.reads
    (TablePair.eq_of_exist named.healthy.exist.view) exportable startStore_blank
    (show run storeStep seededStore [] = some seededStore from rfl)
    (fun kind index => by rw [seededStore_oracle]) 0

/-! A card row is left over when the first of the five dummies is deleted. -/

/-- The deletion of the cards fails, and nothing else does. -/
def cardsStay : ReliableFaults :=
  { faults :=
      { ok := fun kind index => decide (kind ≠ .delete ∨ index ≠ 15)
        used := 0 }
    reads := fun _ => rfl
    rollbacks := fun _ => rfl }

/-- The five dummies, in a process with these statements. -/
def stayingStore : UserStore :=
  userbinCreate (usersSeedDummy (usersOpen UsersFile.blank cardsStay.faults).2)

theorem startStore_staying : startStore UsersFile.blank cardsStay = some stayingStore := by
  have opens : (usersOpen UsersFile.blank cardsStay.faults).1 = true := by decide +kernel
  unfold startStore
  rw [reopen_of_opens opens]
  rfl

/-- User 1. -/
def firstDummy : Memory :=
  Memory.ofBytes [0, 0, 0, 0, 0, 0, 0, 1]

def strayStore : UserStore :=
  { stayingStore with users := (usercmdDelete stayingStore.users firstDummy acuUserIdLen).2 }

/-- The card of the first person that is seeded. -/
def strayCard : CardId := (seedUsers.map SeedUser.card).headD (Blob.zeros acuUserCardLen)

/-- What the deletion leaves can be copied. -/
theorem strayStore_exportable : strayStore.users.roster.Exportable where
  nonempty := by decide +kernel
  named := by
    unfold Roster.Named
    decide +kernel
  dated := by decide +kernel
  single := by
    unfold Roster.SingleCards
    decide +kernel
  cards := by decide +kernel
  few := by decide +kernel

/-- The chunk that carries all of its users. -/
def strayChunk : Option Bytes × UserStore :=
  userbinReceiveChunk (userbinReceiveStart strayStore idtiUserbinObjInfo).2 0

/-- The store that takes them. -/
def strayUpload : Bool × UserStore :=
  userbinStart seededStore 512 4 idtiUserbinObjInfo

/-- The row of the card is not copied. -/
theorem stray_card_not_copied :
    ¬ ∀ (firstSender firstReceiver : ReliableFaults) (begun sender empty receiver : UserStore)
      (senderOps receiverOps : List StoreOp) (totalSize totalCount : UInt32)
      (started receiving : UserStore) (chunks : List Bytes) (requests : List (UInt16 × Bytes))
      (answers : List AcuUserBinStatus) (cardId : CardId),
      startStore UsersFile.blank firstSender = some begun →
      run storeStep begun senderOps = some sender → sender.users.roster.Exportable →
      startStore UsersFile.blank firstReceiver = some empty →
      run storeStep empty receiverOps = some receiver →
      (∀ kind, receiver.users.faults.Never kind) →
      userbinReceiveStart sender idtiUserbinObjInfo = (some (totalSize, totalCount), started) →
      userbinStart receiver totalSize totalCount idtiUserbinObjInfo = (true, receiving) →
      Download started 0 chunks →
      UploadDelivery totalSize.toNat none 0 requests chunks.flatten answers →
      ((continueAll receiving requests).2.users.roster.cards.find? cardId).map
          AcuUserCard.userId =
        (sender.users.roster.cards.find? cardId).map AcuUserCard.userId := by
  intro claimed
  have reached : run storeStep stayingStore [.delete firstDummy acuUserIdLen] = some strayStore :=
    rfl
  have announced : userbinReceiveStart strayStore idtiUserbinObjInfo =
      (some (512, 4), (userbinReceiveStart strayStore idtiUserbinObjInfo).2) :=
    Prod.ext (by decide +kernel) rfl
  have accepted : strayUpload = (true, strayUpload.2) := Prod.ext (by decide +kernel) rfl
  have delivered : (strayChunk.1.map List.length,
      (userbinReceiveChunk strayChunk.2 1).1) = (some 512, some []) := by decide +kernel
  obtain ⟨length, last⟩ := Prod.mk.inj delivered
  obtain ⟨chunk, read, size⟩ := Option.map_eq_some_iff.mp length
  have carries : chunk ≠ [] := by
    rintro rfl
    cases size
  have download : Download (userbinReceiveStart strayStore idtiUserbinObjInfo).2 0 [chunk] :=
    .next (Prod.ext read rfl) carries (.last (Prod.ext last rfl))
  have whole : [chunk].flatten = chunk := List.flatten_singleton
  have delivery : UploadDelivery (512 : UInt32).toNat none 0 [(0, chunk)] [chunk].flatten
      [.complete] := by
    rw [whole]
    exact delivery_single (by decide) size
  have copied := claimed _ _ _ _ _ _ _ [] 512 4 _ _ _ _ _ strayCard startStore_staying reached
    strayStore_exportable startStore_blank rfl (fun kind index => by rw [seededStore_oracle])
    announced accepted download delivery
  have gone : strayChunk.1.map (fun chunk =>
      ((continueAll strayUpload.2 [(0, chunk)]).2.users.roster.cards.find? strayCard).map
        AcuUserCard.userId) = some none := by decide +kernel
  have there : ((strayStore.users.roster.cards.find? strayCard).map
      AcuUserCard.userId).isSome = true := by decide +kernel
  rw [read, Option.map_some, Option.some.injEq] at gone
  rw [← copied, gone] at there
  cases there
end Acud
