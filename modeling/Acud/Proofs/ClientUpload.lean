/-
Module: Acud.Proofs.ClientUpload
Purpose: The client gives a device its users, over whole conversations.
Trusted boundary: none
Main exports:
  Intake.Settles, upload_settles, Giving, talk_giving, roster_given
-/
import Acud.Proofs.ClientSamples
import Acud.Proofs.Conversations
import Acud.Proofs.FaultlessUpload

namespace Acud

open Lib
open IdtiClient (Request SendUserbin buildRequest sendUserbin)

/-!
`send_userbin` announces its bytes and sends them in pieces of one size until all are sent.
`Giving` ties its offset to what the device has received; where the pieces are cut does not
matter, so at the end the device has processed the records as if they had come at once.

[SRC src/tools/idti_client.py, src/acud/net.c, src/acud/userbin.c]
-/

/-! ### Uploads some of whose records are not read -/

/-- What an upload leaves when no statement fails: the records that can be read are stored and
counted, the others are counted, and the roster is what the former build. -/
structure Intake.Settles (intake : Intake) (records : List Bytes) : Prop where
  stored : intake.parsedOk = (records.filterMap decodeRecord).length
  counted : intake.parsedOk + intake.parsedBad = records.length
  roster : intake.users.roster = Roster.build (records.filterMap decodeRecord)

section Upload

variable {store started : UserStore} {totalSize totalCount : UInt32} {binaryObj : UInt8}
  {data : Bytes}

/-- An upload without a failing statement, delivered in any way. -/
theorem upload_settles (healthy : store.users.Healthy)
    (accepted : userbinStart store totalSize totalCount binaryObj = (true, started))
    (orderly : started.users.Orderly) (whole : data.length = totalSize.toNat) :
    (started.intake.process (blocks started.userbin.recordLen data).1).Settles
      (blocks started.userbin.recordLen data).1 := by
  have start := (userbinStart_accepted accepted).1
  have delivery := delivery_single start.positive whole
  have left := upload_processed accepted delivery
  have swapped := (upload_roster healthy accepted delivery).1
  rw [← left]
  unfold loadedIntake at swapped
  generalize (blocks started.userbin.recordLen data).1 = records at left swapped ⊢
  have loads : Loads started.intake.users Roster.empty := Started.loads accepted
  obtain ⟨loaded, settled, stored⟩ := Intake.storeAll_loads loads orderly records
  have counted := (started.intake.storeAll_counts records).2
  have uncounted : started.intake.parsedOk = 0 ∧ started.intake.parsedBad = 0 := start.uncounted
  have can := settled.canSwap loaded.loading
  have kept := Intake.finish_done ((usersLoadCommit_iff loaded.loading).mpr can)
  have storedHere := (congrArg Intake.parsedOk left).trans kept.1
  have badHere := (congrArg Intake.parsedBad left).trans kept.2
  refine { stored := ?_, counted := ?_, roster := ?_ }
  · omega
  · omega
  · exact (swapped can).trans (congrArg TablePair.roster loaded.load)

end Upload

/-! ### The two messages -/

/-- The announcement, and a part. -/
def giveStart (size count : Nat) : Request :=
  .plain idtiCmdSndData idtiSubcmdWrite idtiObjUserbinStart 1
    (be32Bytes size.toUInt32 ++ be32Bytes count.toUInt32 ++ [idtiUserbinObjInfo, 0x00])

def givePart (index : Nat) (part : Bytes) : Request :=
  .plain idtiCmdSndData idtiSubcmdWrite idtiObjUserbinContinue (index + 2 : Nat)
    (be16Bytes index.toUInt16 ++ part)

theorem giveStart_fits (size count : Nat) : (giveStart size count).Fits := by
  refine fits_plain (by decide) (by decide) ?_
  simp only [be32Bytes, List.length_append, List.length_cons, List.length_nil]
  decide

theorem givePart_fits {index : Nat} {part : Bytes} (few : index < 2 ^ 16)
    (short : 48 + part.length ≤ 65535) : (givePart index part).Fits := by
  refine fits_plain (Int.natCast_nonneg _) (by omega) ?_
  rw [List.length_append, length_be16Bytes]
  omega

/-- A message of the write direction is answered with its result. -/
theorem handleUserbinRequest_write {s received : NetSys} {hdr : IdtiHeader} {pkt : Memory}
    {result : UInt8} {store : UserStore}
    (object : hdr.object = idtiObjUserbinStart ∨ hdr.object = idtiObjUserbinContinue)
    (write : hdr.isRequest idtiCmdSndData idtiSubcmdWrite = true)
    (done : userbinReceive s hdr pkt (hdr.object == idtiObjUserbinStart) = (result, received))
    (link : received.link = { s.link with store := store }) :
    ∃ handled, handleUserbinRequest s hdr pkt = some handled ∧
      Responds s handled hdr store [result] := by
  have claimed : ¬ (hdr.object ≠ idtiObjUserbinStart ∧ hdr.object ≠ idtiObjUserbinContinue) := by
    rintro ⟨start, more⟩
    exact object.elim start more
  have query : hdr.isRequest idtiCmdReqData idtiSubcmdRead = false := by
    have other : (idtiCmdSndData == idtiCmdReqData) = false := by decide
    rw [IdtiHeader.isRequest, (isRequest_command write).1, other, Bool.false_and]
  have status := userbinReceive_status s hdr pkt (hdr.object == idtiObjUserbinStart)
  rw [done] at status
  refine ⟨sendAck received hdr result, ?_,
    sendAck_responds (answerIndex_userbin object) result ⟨link, status⟩⟩
  unfold handleUserbinRequest
  simp only [if_neg claimed, query, write, done, Bool.false_eq_true, if_false, Bool.true_eq_false]

/-- The device accepts the announcement. -/
theorem giveStart_answers {before store : UserStore} {size count : Nat}
    (accepted : userbinStart before size.toUInt32 count.toUInt32 idtiUserbinObjInfo =
      (true, store)) :
    UserbinAnswers (giveStart size count) before store [idtiAckSuccess] := by
  intro s pkt same attached data
  have long : ¬ (giveStart size count).packet.header.dataLen < 10 := Nat.lt_irrefl 10
  obtain ⟨⟨first, second⟩, third⟩ := by
    have parts := data
    simp only [giveStart, Request.plain, Memory.holds_append] at parts
    exact parts
  have total : (packetData pkt).be32At 0 = size.toUInt32 := Memory.be32At_of_holds first
  have number : (packetData pkt).be32At 4 = count.toUInt32 := Memory.be32At_of_holds second
  have kind : (packetData pkt).byte 8 = idtiUserbinObjInfo := (Memory.holds_cons.mp third).1
  refine @handleUserbinRequest_write s (s.withStore store) _ pkt _ store (.inl rfl) rfl ?_ rfl
  rw [← same] at accepted
  unfold userbinReceive
  simp only [attached, long, total, number, kind, accepted, if_false, Bool.true_eq_false]
  rfl

/-- The device takes a part. -/
theorem givePart_answers {before store : UserStore} {index : Nat} {part : Bytes}
    {status : AcuUserBinStatus} (taken : userbinContinue before index.toUInt16 part =
      (status, store)) (fine : status ≠ .failed) :
    UserbinAnswers (givePart index part) before store [idtiAckSuccess] := by
  intro s pkt same attached data
  have long : ¬ (givePart index part).packet.header.dataLen < 2 := by
    show ¬ (be16Bytes index.toUInt16 ++ part).length < 2
    rw [List.length_append, length_be16Bytes]
    omega
  have size : (givePart index part).packet.header.dataLen - 2 = part.length := by
    show (be16Bytes index.toUInt16 ++ part).length - 2 = _
    rw [List.length_append, length_be16Bytes, Nat.add_sub_cancel_left]
  obtain ⟨front, behind⟩ := Memory.holds_append.mp data
  have number : (packetData pkt).be16At 0 = index.toUInt16 := Memory.be16At_of_holds front
  have bytes : (packetData pkt).read 2 part.length = part := Memory.read_of_holds behind rfl
  have result : (if status = .failed then idtiAckFail else idtiAckSuccess) = idtiAckSuccess :=
    if_neg fine
  refine @handleUserbinRequest_write s (userbinContinueDone (s.withStore store) status) _ pkt _
    store (.inr rfl) rfl ?_ (userbinContinueDone_link _ _)
  rw [← same] at taken
  have more : ((givePart index part).packet.header.object == idtiObjUserbinStart) = false := rfl
  unfold userbinReceive
  simp only [more, attached, long, size, number, bytes, taken, result, if_false,
    Bool.true_eq_false, Bool.false_eq_true]

/-! ### Conversations -/

/-- The index that was processed last. -/
def lastIndex : Nat → Option UInt16
  | 0 => none
  | index + 1 => some index.toUInt16

theorem lastIndex_follows (index : Nat) : Follows (lastIndex index) index.toUInt16 := by
  intro before last
  cases index with
  | zero => cases last
  | succ earlier =>
      cases last
      rw [Nat.toUInt16_eq, UInt16.ofNat_add]
      rfl

/-- The number of parts. -/
def giveParts (total chunkSize : Nat) : Nat :=
  (total + (chunkSize - 1)) / chunkSize

theorem giveParts_iff {total chunkSize : Nat} (positive : 0 < chunkSize) (index : Nat) :
    index * chunkSize < total ↔ index < giveParts total chunkSize := by
  rw [giveParts, Nat.lt_iff_add_one_le, Nat.lt_iff_add_one_le,
    Nat.le_div_iff_mul_le positive, Nat.succ_mul]
  omega

/-- The number of a part fits two bytes. -/
theorem part_small {total chunkSize index : Nat} (room : total ≤ 65536 * chunkSize)
    (inside : index * chunkSize < total) : index < 2 ^ 16 := by
  by_contra beyond
  have least := Nat.mul_le_mul_right chunkSize (Nat.not_lt.mp beyond)
  omega

/-- The variables of the client and what the device has received, after some turns. -/
inductive Giving (blob : Bytes) (count chunkSize : Nat) (before started : UserStore) :
    Nat → Daemon × SendUserbin → Prop where
  | start {daemon : Daemon} (idle : daemon.Idle)
      (attached : daemon.sys.link.userbinAttached = true)
      (same : daemon.sys.link.store = before) :
      Giving blob count chunkSize before started 0 (daemon, .start blob count chunkSize)
  | parts {daemon : Daemon} {index : Nat} (idle : daemon.Idle)
      (attached : daemon.sys.link.userbinAttached = true)
      (more : index < giveParts blob.length chunkSize)
      (receiving : Receiving daemon.sys.link.store blob.length (lastIndex index)
        (index * chunkSize))
      (rest : (daemon.sys.link.store.absorbed (blob.drop (index * chunkSize))).1 =
        (started.absorbed blob).1) :
      Giving blob count chunkSize before started (index + 1)
        (daemon, .continue blob chunkSize index (index * chunkSize) (index + 2))
  | done {daemon : Daemon} {index : Nat} (idle : daemon.Idle)
      (all : index = giveParts blob.length chunkSize)
      (left : daemon.sys.link.store.intake = (started.absorbed blob).1.finish) :
      Giving blob count chunkSize before started (index + 1)
        (daemon, .continue blob chunkSize index blob.length (index + 2))

theorem start_next {blob : Bytes} {count chunkSize : Nat} (size : blob.length < 2 ^ 32)
    (few : count < 2 ^ 32) :
    (SendUserbin.start blob count chunkSize).next =
      .request (buildRequest (giveStart blob.length count)) := by
  have bytes : ∀ number : Nat, number < 2 ^ 32 →
      IdtiClient.toBytes 4 number = some (be32Bytes number.toUInt32) := by
    intro number fits
    rw [IdtiClient.toBytes_four (Int.natCast_nonneg number) (by omega), Int.toNat_natCast]
  have kind : ([idtiUserbinObjInfo, 0x00] : Bytes) = [0x01, 0x00] := rfl
  rw [SendUserbin.next, bytes blob.length size, bytes count few, giveStart, kind]
  rfl

theorem part_next {blob : Bytes} {chunkSize index off : Nat} (more : off < blob.length)
    (few : index < 2 ^ 16) :
    (SendUserbin.continue blob chunkSize index off (index + 2)).next =
      .request (buildRequest (givePart index ((blob.drop off).take chunkSize))) := by
  have number : IdtiClient.toBytes 2 index = some (be16Bytes index.toUInt16) := by
    rw [IdtiClient.toBytes_two (Int.natCast_nonneg index) (by omega), Int.toNat_natCast]
  rw [SendUserbin.next, if_pos more, number]
  show IdtiClient.Next.request ((some (be16Bytes index.toUInt16)).bind _) = _
  rw [Option.bind_some, givePart]

theorem part_ends {blob : Bytes} {off : Nat} (whole : blob.length ≤ off)
    (chunkSize index frameIndex : Nat) :
    (SendUserbin.continue blob chunkSize index off frameIndex).next = .returned 0 := by
  rw [SendUserbin.next, if_neg (Nat.not_lt.mpr whole)]

section Conversation

variable {blob : Bytes} {count chunkSize : Nat} {before started : UserStore}

theorem Giving.idle {turns : Nat} {daemon : Daemon} {client : SendUserbin}
    (giving : Giving blob count chunkSize before started turns (daemon, client)) :
    daemon.Idle := by
  cases giving with
  | start idle => exact idle
  | parts idle => exact idle
  | done idle => exact idle

/-- The client sends a message that fits, or it has returned success. -/
theorem Giving.goesOn (size : blob.length < 2 ^ 32) (fewUsers : count < 2 ^ 32)
    (positive : 0 < chunkSize) (few : blob.length ≤ 65536 * chunkSize)
    (small : 48 + chunkSize ≤ 65535) {turns : Nat} {daemon : Daemon} {client : SendUserbin}
    (giving : Giving blob count chunkSize before started turns (daemon, client)) :
    client.next = .returned 0 ∧ turns = giveParts blob.length chunkSize + 1 ∧
        daemon.sys.link.store.intake = (started.absorbed blob).1.finish ∨
      turns ≤ giveParts blob.length chunkSize ∧
        ∃ request : Request, daemon.Idle ∧ request.Fits ∧
          client.next = .request (buildRequest request) := by
  cases giving with
  | start idle =>
      exact .inr ⟨Nat.zero_le _, _, idle, giveStart_fits _ _, start_next size fewUsers⟩
  | @parts _ index idle attached more =>
      have inside := (giveParts_iff positive index).mpr more
      have bound := part_small few inside
      refine .inr ⟨more, _, idle, givePart_fits bound ?_, part_next inside bound⟩
      rw [List.length_take]
      omega
  | done idle all left => exact .inl ⟨part_ends (Nat.le_refl _) _ _ _, by rw [all], left⟩

/-- The part that goes out under a number. -/
abbrev partAt (blob : Bytes) (chunkSize index : Nat) : Bytes :=
  (blob.drop (index * chunkSize)).take chunkSize

theorem part_answered {index : Nat} {resp : Option Bytes}
    (ack : IdtiClient.userbinAck resp = some 0x01) :
    (SendUserbin.continue blob chunkSize index (index * chunkSize) (index + 2)).answered resp =
      .continue blob chunkSize (index + 1)
        (index * chunkSize + (partAt blob chunkSize index).length) (index + 2 + 1) := by
  rw [SendUserbin.answered, if_pos ack]

theorem length_partAt (blob : Bytes) (chunkSize index : Nat) :
    (partAt blob chunkSize index).length = min chunkSize (blob.length - index * chunkSize) := by
  rw [List.length_take, List.length_drop]

section Part

variable {daemon final : Daemon} {index : Nat} {resp : Option Bytes}

/-- A part that is not the last one leaves both at the next. -/
theorem Giving.part_taken (positive : 0 < chunkSize)
    (receiving : Receiving daemon.sys.link.store blob.length (lastIndex index)
      (index * chunkSize))
    (rest : (daemon.sys.link.store.absorbed (blob.drop (index * chunkSize))).1 =
      (started.absorbed blob).1)
    (left : index * chunkSize + (partAt blob chunkSize index).length < blob.length)
    (turned : TurnAnswered final
      (daemon.sys.link.store.taken index.toUInt16 (partAt blob chunkSize index))
      [idtiAckSuccess] resp) :
    Giving blob count chunkSize before started (index + 1 + 1)
      (final, (SendUserbin.continue blob chunkSize index (index * chunkSize)
        (index + 2)).answered resp) := by
  have length := length_partAt blob chunkSize index
  have full : (partAt blob chunkSize index).length = chunkSize := by omega
  have offset : index * chunkSize + chunkSize = (index + 1) * chunkSize :=
    (Nat.succ_mul _ _).symm
  rw [part_answered turned.ack, full, offset]
  refine .parts turned.idle turned.attached ?_ ?_ ?_
  · apply (giveParts_iff positive _).mp
    omega
  · rw [turned.store]
    have later := receiving.taken index.toUInt16 (partAt blob chunkSize index)
    rw [full, offset] at later
    exact later
  · rw [turned.store, UserStore.absorbed_taken receiving.recordLen, ← rest, ← offset,
      ← List.drop_drop, List.take_append_drop]

/-- Behind the last part the device has processed everything. -/
theorem Giving.last_taken (positive : 0 < chunkSize)
    (more : index < giveParts blob.length chunkSize)
    (rest : (daemon.sys.link.store.absorbed (blob.drop (index * chunkSize))).1 =
      (started.absorbed blob).1)
    (all : blob.length ≤ index * chunkSize + (partAt blob chunkSize index).length)
    (turned : TurnAnswered final
      (userbinFinish (daemon.sys.link.store.taken index.toUInt16 (partAt blob chunkSize index)))
      [idtiAckSuccess] resp) :
    Giving blob count chunkSize before started (index + 1 + 1)
      (final, (SendUserbin.continue blob chunkSize index (index * chunkSize)
        (index + 2)).answered resp) := by
  have inside := (giveParts_iff positive index).mpr more
  have length := length_partAt blob chunkSize index
  have covered : index * chunkSize + (partAt blob chunkSize index).length = blob.length := by
    omega
  rw [part_answered turned.ack, covered]
  refine .done turned.idle ?_ ?_
  · have beyond : ¬ (index + 1) * chunkSize < blob.length := by
      rw [Nat.succ_mul]
      omega
    have last := (giveParts_iff positive (index + 1)).not.mp beyond
    omega
  · have behind : partAt blob chunkSize index = blob.drop (index * chunkSize) := by
      apply List.take_of_length_le
      rw [List.length_drop]
      omega
    rw [turned.store, userbinFinish_intake, ← rest, behind]
    rfl

end Part

/-- What the client sends and what the device has received stay tied over one turn. -/
theorem talk_giving
    (accepted : userbinStart before blob.length.toUInt32 count.toUInt32 idtiUserbinObjInfo =
      (true, started))
    (size : blob.length < 2 ^ 32) (fewUsers : count < 2 ^ 32)
    (few : blob.length ≤ 65536 * chunkSize) (small : 48 + chunkSize ≤ 65535) (turns : Nat)
    (state : Daemon × SendUserbin) (turn : Turn) (next : Daemon × SendUserbin)
    (giving : Giving blob count chunkSize before started turns state)
    (completes : TurnCompletes SendUserbin.next state turn)
    (stepped : talk SendUserbin.next SendUserbin.answered state turn = some next) :
    Giving blob count chunkSize before started (turns + 1) next := by
  obtain ⟨final, after⟩ := next
  have start := (userbinStart_accepted accepted).1
  have announced : blob.length.toUInt32.toNat = blob.length := by
    rw [Nat.toUInt32_eq, UInt32.toNat_ofNat', Nat.mod_eq_of_lt size]
  have receivingAll := start.receiving
  have positiveAll := start.positive
  rw [announced] at receivingAll positiveAll
  have positive : 0 < chunkSize := by
    by_contra none
    rw [Nat.eq_zero_of_not_pos none] at few
    omega
  cases giving with
  | start idle attached same =>
      obtain ⟨resp, turned, rfl⟩ := talk_userbin idle attached (giveStart_fits _ _) (.inl rfl)
        (start_next size fewUsers) (giveStart_answers (same ▸ accepted)) completes stepped
      have ack : IdtiClient.userbinAck resp = some 0x01 := turned.ack
      have go : (SendUserbin.start blob count chunkSize).answered resp =
          .continue blob chunkSize 0 0 2 := by
        rw [SendUserbin.answered, if_pos ack]
      have zero : 0 * chunkSize = 0 := Nat.zero_mul _
      rw [go]
      have begun := @Giving.parts blob count chunkSize before started final 0 turned.idle
        turned.attached ((giveParts_iff positive 0).mp (by omega))
      rw [zero, turned.store] at begun
      exact begun receivingAll rfl
  | @parts daemon index idle attached more receiving rest =>
      have inside := (giveParts_iff positive index).mpr more
      have bound := part_small few inside
      have length := length_partAt blob chunkSize index
      have fits : index * chunkSize + (partAt blob chunkSize index).length ≤ blob.length := by
        omega
      have short : 48 + (partAt blob chunkSize index).length ≤ 65535 := by omega
      have taken := userbinContinue_taken receiving (lastIndex_follows index) fits
      have sends := @part_next blob chunkSize index (index * chunkSize) inside bound
      rcases Nat.lt_or_ge (index * chunkSize + (partAt blob chunkSize index).length)
        blob.length with left | all
      · rw [if_neg (Nat.not_le.mpr left)] at taken
        obtain ⟨resp, turned, rfl⟩ := talk_userbin idle attached (givePart_fits bound short)
          (.inr rfl) sends (givePart_answers taken (by decide)) completes stepped
        exact Giving.part_taken positive receiving rest left turned
      · rw [if_pos all] at taken
        obtain ⟨resp, turned, rfl⟩ := talk_userbin idle attached (givePart_fits bound short)
          (.inr rfl) sends (givePart_answers taken (by decide)) completes stepped
        exact Giving.last_taken positive more rest all turned
  | done idle all left =>
      obtain ⟨sent, sends, _, _⟩ := talk_sends stepped
      rw [part_ends (Nat.le_refl _)] at sends
      cases sends

end Conversation

/-- The event that the device stores for the upload. -/
def sampleEvent (count : Nat) (corrupt : Bool) : UInt32 :=
  if corrupt then
    if count = 1 then idtiEventUserfileFail else idtiEventUserfilePartial
  else idtiEventUserfileSuccess

/-- Where the client is after some turns: it sends more, or it has returned success, and then
the device has exactly the users whose records were good. -/
structure GivenBy (count chunkSize : Nat) (corrupt : Bool) (turns : Nat) (final : Daemon)
    (client : SendUserbin) : Prop where
  idle : final.Idle
  fine : client.next ≠ .raised
  sending : ∀ sent, client.next = .send sent →
    turns ≤ giveParts (count * idtiUserbinRecInfoLen) chunkSize
  returned : ∀ value, client.next = .returned value →
    value = 0 ∧ turns = giveParts (count * idtiUserbinRecInfoLen) chunkSize + 1 ∧
      final.sys.link.store.users.roster.users.rows =
        (samplePositions count corrupt).map sampleUser ∧
      final.sys.link.store.users.roster.cards.rows =
        (samplePositions count corrupt).map sampleCard ∧
      userbinResultEvent final.sys.link.store = sampleEvent count corrupt

theorem length_samplePositions (count : Nat) (corrupt : Bool) :
    (samplePositions count corrupt).length = count - if corrupt then 1 else 0 := by
  rw [samplePositions, List.length_drop, List.length_range]

/-- The upload of the samples, once all of it has been processed. -/
theorem samples_settle {count : Nat} {corrupt : Bool} {intake : Intake} (some : 0 < count)
    (few : count ≤ 2 ^ 32)
    (settles : intake.Settles (blocks idtiUserbinRecInfoLen (sentBytes count corrupt)).1) :
    intake.users.roster.users.rows = (samplePositions count corrupt).map sampleUser ∧
      intake.users.roster.cards.rows = (samplePositions count corrupt).map sampleCard ∧
      intake.resultEvent = sampleEvent count corrupt := by
  obtain ⟨stored, counted, roster⟩ := settles
  obtain ⟨all, decoded⟩ := samples_decoded few corrupt
  have distinct := samples_distinct few corrupt
  have size := length_samplePositions count corrupt
  rw [decoded, List.length_map, size] at stored
  rw [all] at counted
  rw [roster, decoded]
  refine ⟨?_, ?_, ?_⟩
  · rw [distinct.userRows, List.map_map]
    rfl
  · rw [distinct.cardRows, List.filterMap_map]
    exact congrFun List.filterMap_eq_map _
  · unfold Intake.resultEvent sampleEvent
    cases corrupt with
    | false =>
        simp only [Bool.false_eq_true, if_false] at stored ⊢
        rw [if_neg (by omega), if_neg (by omega)]
    | true =>
        simp only [if_true] at stored ⊢
        by_cases one : count = 1
        · rw [if_pos (by omega), if_pos one]
        · rw [if_neg (by omega), if_pos (by omega), if_neg one]

section Samples

variable {before started : UserStore} {count chunkSize : Nat} {corrupt : Bool}

theorem Giving.given {turns : Nat} {final : Daemon} {client : SendUserbin}
    (healthy : before.users.Healthy) (orderly : started.users.Orderly)
    (accepted : userbinStart before (sentBytes count corrupt).length.toUInt32 count.toUInt32
      idtiUserbinObjInfo = (true, started))
    (some : 0 < count) (few : count < 2 ^ 25)
    (room : count * idtiUserbinRecInfoLen ≤ 65536 * chunkSize) (small : 48 + chunkSize ≤ 65535)
    (giving : Giving (sentBytes count corrupt) count chunkSize before started turns
      (final, client)) : GivenBy count chunkSize corrupt turns final client := by
  have width : idtiUserbinRecInfoLen = 128 := rfl
  have total := length_sentBytes count corrupt
  have size : (sentBytes count corrupt).length < 2 ^ 32 := by
    rw [total, width]
    omega
  have positive : 0 < chunkSize := by
    rw [width] at room
    omega
  have idle := giving.idle
  rcases giving.goesOn size (by omega) positive (total ▸ room) small with
    ⟨ends, all, left⟩ | ⟨most, request, _, fits, sends⟩
  · rw [total] at all
    refine ⟨idle, ?_, fun sent sends => ?_, fun value returns => ?_⟩
    · rw [ends]
      exact fun raised => by cases raised
    · rw [ends] at sends
      cases sends
    · rw [ends] at returns
      cases returns
      have start := (userbinStart_accepted accepted).1
      have recordLen : started.userbin.recordLen = idtiUserbinRecInfoLen :=
        (Option.some.inj start.known).symm
      have whole : (sentBytes count corrupt).length =
          (sentBytes count corrupt).length.toUInt32.toNat := by
        rw [Nat.toUInt32_eq, UInt32.toNat_ofNat', Nat.mod_eq_of_lt size]
      have settles := upload_settles healthy accepted orderly whole
      rw [UserStore.absorbed, start.record] at left
      have processed : final.sys.link.store.intake = started.intake.process
          (blocks started.userbin.recordLen (sentBytes count corrupt)).1 := left
      rw [← processed, recordLen] at settles
      obtain ⟨users, cards, event⟩ := samples_settle some (by omega) settles
      exact ⟨rfl, all, users, cards, event⟩
  · rw [IdtiClient.buildRequest_eq fits] at sends
    rw [total] at most
    refine ⟨idle, ?_, fun _ _ => most, fun value returns => ?_⟩
    · rw [sends]
      exact fun raised => by cases raised
    · rw [sends] at returns
      cases returns

end Samples

/-- What a start of the client needs of the device. -/
theorem sample_starts {store : UserStore} (settled : store.users.Orderly) {count : Nat}
    (corrupt : Bool) (some : 0 < count) (few : count < 2 ^ 25) :
    ∃ started, userbinStart store (sentBytes count corrupt).length.toUInt32 count.toUInt32
        idtiUserbinObjInfo = (true, started) ∧ started.users.Orderly := by
  have number : (sentBytes count corrupt).length.toUInt32.toNat = count * 128 := by
    have width : idtiUserbinRecInfoLen = 128 := rfl
    rw [length_sentBytes, width, Nat.toUInt32_eq, UInt32.toNat_ofNat',
      Nat.mod_eq_of_lt (by omega)]
  have known : userbinRecordLen idtiUserbinObjInfo = Option.some 128 := rfl
  apply userbinStart_orderly settled known
  · intro zero
    rw [zero] at number
    have nothing : (0 : UInt32).toNat = 0 := rfl
    omega
  · rw [number]
    exact Nat.mul_mod_left _ _

/-- In every conversation in which the turns complete, whatever pieces the bytes arrive in and
whatever happens on the device in between, the client gives the device its users: it never
raises and is never refused, and afterwards the roster holds exactly the users whose records
were good and the event says whether all were. -/
theorem roster_given (daemon : Daemon) (idle : daemon.Idle)
    (attached : daemon.sys.link.userbinAttached = true) {file : UsersFile}
    {first : ReliableFaults} {begun : UserStore} {ops : List StoreOp}
    (starts : startStore file first = some begun)
    (grown : run storeStep begun ops = some daemon.sys.link.store)
    (faultless : ∀ kind, daemon.sys.link.store.users.faults.Never kind)
    (count chunkSize : Nat) (corrupt : Bool) (some : 0 < count) (few : count < 2 ^ 25)
    (room : count * idtiUserbinRecInfoLen ≤ 65536 * chunkSize) (small : 48 + chunkSize ≤ 65535)
    (start : SendUserbin) (made : sendUserbin count chunkSize corrupt = Option.some start)
    (turns : List Turn)
    (completes : Meets (talk SendUserbin.next SendUserbin.answered)
      (TurnCompletes SendUserbin.next) (daemon, start) turns)
    (final : Daemon) (client : SendUserbin)
    (reached : run (talk SendUserbin.next SendUserbin.answered) (daemon, start) turns =
      Option.some (final, client)) :
    GivenBy count chunkSize corrupt turns.length final client := by
  have total := length_sentBytes count corrupt
  have size : (sentBytes count corrupt).length < 2 ^ 32 := by
    have width : idtiUserbinRecInfoLen = 128 := rfl
    rw [total, width]
    omega
  rw [sendUserbin_eq (by omega)] at made
  cases made
  obtain ⟨started, accepted, orderly⟩ :=
    sample_starts (run_orderly starts grown faultless) corrupt some few
  have giving := completes.counted
    (talk_giving accepted size (by omega) (total ▸ room) small) (.start idle attached rfl) reached
  rw [Nat.zero_add] at giving
  exact giving.given (run_healthy starts grown) orderly accepted some few room small

/-- On a socket that takes bytes there is a conversation that comes to its end. -/
theorem giving_ends {daemon : Daemon} {started : UserStore} {blob : Bytes} {count chunkSize : Nat}
    (idle : daemon.Idle) (takes : daemon.sys.link.Takes)
    (attached : daemon.sys.link.userbinAttached = true)
    (accepted : userbinStart daemon.sys.link.store blob.length.toUInt32 count.toUInt32
      idtiUserbinObjInfo = (true, started))
    (size : blob.length < 2 ^ 32) (fewUsers : count < 2 ^ 32) (positive : 0 < chunkSize)
    (few : blob.length ≤ 65536 * chunkSize) (small : 48 + chunkSize ≤ 65535) :
    ∃ turns final client,
      Meets (talk SendUserbin.next SendUserbin.answered) (TurnCompletes SendUserbin.next)
        (daemon, SendUserbin.start blob count chunkSize) turns ∧
      run (talk SendUserbin.next SendUserbin.answered)
        (daemon, SendUserbin.start blob count chunkSize) turns = some (final, client) ∧
      ∃ value, client.next = .returned value := by
  have bounded : ∀ turns (state : Daemon × SendUserbin),
      Giving blob count chunkSize daemon.sys.link.store started turns state →
        turns ≤ giveParts blob.length chunkSize + 1 := by
    intro turns state giving
    rcases giving.goesOn size fewUsers positive few small with ⟨_, all, _⟩ | ⟨most, _⟩
    · exact Nat.le_of_eq all
    · exact Nat.le_succ_of_le most
  refine talk_ends bounded (talk_giving accepted size fewUsers few small) ?_ takes
    (.start idle attached rfl)
  intro turns here client giving
  rcases giving.goesOn size fewUsers positive few small with ⟨ends, _⟩ | ⟨_, goesOn⟩
  · exact .inl ⟨0, ends⟩
  · exact .inr goesOn

/-- The first client of a first start gives the device its ten users, the first of them
corrupted, in parts that cut the records. -/
theorem roster_given_ten :
    ∃ daemon start turns final client, firstConnection = some daemon ∧
      sendUserbin 10 500 true = some start ∧
      run (talk SendUserbin.next SendUserbin.answered) (daemon, start) turns =
        some (final, client) ∧
      (∃ value, client.next = .returned value) ∧
      GivenBy 10 500 true turns.length final client := by
  obtain ⟨daemon, first, idle, takes, attached, store⟩ := firstConnection_idle
  have grown : run storeStep seededStore [] = some daemon.sys.link.store := congrArg some store.symm
  have faultless : ∀ kind, daemon.sys.link.store.users.faults.Never kind := by
    intro kind index
    rw [store, seededStore_oracle]
  have ten : (0 : Nat) < 10 ∧ 10 < 2 ^ 25 ∧ 10 * idtiUserbinRecInfoLen ≤ 65536 * 500 ∧
      48 + 500 ≤ 65535 := by decide
  obtain ⟨some, few, room, small⟩ := ten
  have total := length_sentBytes 10 true
  have size : (sentBytes 10 true).length < 2 ^ 32 := by
    rw [total]
    decide
  obtain ⟨started, accepted, _⟩ :=
    sample_starts (run_orderly startStore_blank grown faultless) true some few
  obtain ⟨turns, final, client, completes, reached, ended⟩ :=
    @giving_ends _ _ _ _ 500 idle takes attached accepted size (by decide) (by decide)
      (total ▸ room) small
  have made : sendUserbin (10 : Nat) 500 true = Option.some (.start (sentBytes 10 true) 10 500) :=
    sendUserbin_eq (by decide) 500 true
  exact ⟨daemon, _, turns, final, client, first, made, reached, ended,
    roster_given daemon idle attached startStore_blank grown faultless 10 500 true some few room
      small _ made turns completes final client reached⟩

end Acud
