/-
Module: Acud.Proofs.Responses
Purpose: Every request is answered by one frame, and Success means the store said so.
Trusted boundary: none
Main exports:
  OneReply, StoreRequest, handleRequest_answers, one_response
-/
import Acud.Proofs.ReceiveLoop
import Acud.Proofs.RosterExport

namespace Acud

open Lib

/-!
The handlers of `handle_request` claim a request or pass it on, and each ends in
one call of `send_response`.  A response is lost when its data is too long, so
the lengths of all payloads are bounded here first; then every branch of every
handler is followed to the one reply it queues.

`OneReply` says that the connection after a request is the connection before it,
with the roster store the request left, after exactly one `net_queue_send` of
one built frame.

[SRC src/acud/net.c]
-/

/-! ### Lengths -/

theorem length_slotTypes_le (layout : AcuModuleLayout) :
    (slotTypes layout).length ≤ idtiModuleIoSlots :=
  List.length_take_le _ _

theorem length_moduleEntry (layout : AcuModuleLayout) :
    (moduleEntry layout).length = idtiModuleEntryLen := by
  have slots := length_slotTypes_le layout
  simp only [moduleEntry, List.length_append, List.length_cons, List.length_nil,
    List.length_map, List.length_replicate]
  unfold idtiModuleIoSlots at slots ⊢
  unfold idtiModuleEntryLen
  omega

theorem length_fillModules (layout : AcuModuleLayout) :
    (fillModules layout).length = 2 + idtiModuleCountV2 * idtiModuleEntryLen := by
  have modules : min layout.moduleCount idtiModuleCountV2 ≤ idtiModuleCountV2 := min_le_right _ _
  have entries : ∀ count, ((List.replicate count (moduleEntry layout)).flatten).length =
      count * idtiModuleEntryLen := by
    intro count
    simp [length_moduleEntry]
  simp only [fillModules, List.length_append, entries, List.length_replicate, be16Bytes,
    List.length_cons, List.length_nil]
  rw [Nat.zero_add, Nat.add_assoc, ← Nat.add_mul, Nat.add_sub_cancel' modules]

theorem length_buildDeviceStatus (net : AcuNet) (clock : Clock) :
    (buildDeviceStatus net clock).length = idtiDeviceStatusV2Len := by
  simp only [buildDeviceStatus, List.length_append, length_fillModules, bcdTime,
    List.length_cons, List.length_nil, List.length_map]
  rfl

theorem length_responsePayload_le (s : NetSys) (hdr : IdtiHeader) (data : Bytes) :
    (responsePayload s hdr data).length ≤ idtiDeviceStatusV2Len + data.length := by
  unfold responsePayload
  rw [List.length_append]
  split
  next => simp
  next => rw [length_buildDeviceStatus]

/-- Data within the capacity is always built. -/
theorem responseBytes_isSome (s : NetSys) (hdr : IdtiHeader) (command subCommand object : UInt8)
    {data : Bytes} (block : BlockIndex) (short : data.length ≤ netEventDataCap) :
    ∃ out, responseBytes s hdr command subCommand object data block = some out ∧
      idtiBuildPacket netRespBufCap
        (responsePacket s hdr command subCommand object data block) = some out := by
  have payload := length_responsePayload_le s hdr data
  have total : (responsePacket s hdr command subCommand object data block).totalLen =
      idtiHeaderLenV2 + (responsePayload s hdr data).length + 2 := rfl
  unfold netEventDataCap idtiEventInfoLen at short
  unfold idtiDeviceStatusV2Len at payload
  have built : (idtiBuildPacket netRespBufCap
      (responsePacket s hdr command subCommand object data block)).isSome := by
    unfold idtiBuildPacket
    rw [if_neg, Option.isSome_some]
    rw [total]
    unfold netRespBufCap netPayloadCap netEventDataCap idtiDeviceStatusV2Len idtiEventInfoLen
      idtiHeaderLenV2
    omega
  obtain ⟨out, same⟩ := Option.isSome_iff_exists.mp built
  refine ⟨out, ?_, same⟩
  unfold responseBytes
  rw [if_neg, same]
  unfold netPayloadCap netEventDataCap idtiDeviceStatusV2Len idtiEventInfoLen
  omega

/-! ### One reply -/

/-- An upload of the roster begins with this request. -/
def IdtiHeader.IsUploadStart (hdr : IdtiHeader) : Prop :=
  hdr.object = idtiObjUserbinStart ∧ hdr.isRequest idtiCmdSndData idtiSubcmdWrite = true

/-- One frame with this data, which fits, is queued, behind the work on the roster store; only an
upload that starts can be in progress afterwards without being so before. -/
def OneReply (s handled : NetSys) (hdr : IdtiHeader) (frameIndex : UInt32) (data : Bytes) :
    Prop :=
  ∃ store packet out, idtiBuildPacket netRespBufCap packet = some out ∧
    packet.frameIndex = frameIndex ∧ packet.destAddr = responseDest hdr ∧
    (∃ status : NetSys, packet.data = responsePayload status hdr data) ∧
    data.length ≤ netEventDataCap ∧
    handled.link = (netQueueSend { s.link with store := store } out).2 ∧
    (userbinInProgress store = true →
      userbinInProgress s.link.store = true ∨ hdr.IsUploadStart)

section Replies

variable {s worked : NetSys} {hdr : IdtiHeader}

/-- A response to the request itself, or to a copy of its header with other indices. -/
theorem sendResponse_answers {request : IdtiHeader}
    (option : request.frameOption = hdr.frameOption) (source : request.srcAddr = hdr.srcAddr)
    (command subCommand object : UInt8) {data : Bytes} (block : BlockIndex)
    (short : data.length ≤ netEventDataCap)
    (link : worked.link = { s.link with store := worked.link.store })
    (quiet : userbinInProgress worked.link.store = true →
      userbinInProgress s.link.store = true ∨ hdr.IsUploadStart) :
    OneReply s (sendResponse worked request command subCommand object data block).2 hdr
      request.frameIndex data := by
  obtain ⟨out, bytes, built⟩ :=
    responseBytes_isSome worked request command subCommand object block short
  refine ⟨worked.link.store, _, out, built, rfl, ?_, ⟨worked, ?_⟩, short, ?_, quiet⟩
  · simp only [responsePacket, responseDest, source]
  · have exclude : request.hasOption idtiFoptExcludeDeviceStatus =
        hdr.hasOption idtiFoptExcludeDeviceStatus := by
      rw [IdtiHeader.hasOption, IdtiHeader.hasOption, option]
    change responsePayload worked request data = responsePayload worked hdr data
    rw [responsePayload, responsePayload, exclude]
  · unfold sendResponse
    rw [bytes, ← link]

/-- A one-byte result to the request as it came. -/
theorem sendAck_answers (result : UInt8)
    (link : worked.link = { s.link with store := worked.link.store })
    (quiet : userbinInProgress worked.link.store = true →
      userbinInProgress s.link.store = true ∨ hdr.IsUploadStart) :
    OneReply s (sendAck worked hdr result) hdr hdr.frameIndex [result] := by
  have short : [result].length ≤ netEventDataCap := by
    rw [List.length_singleton]
    decide
  exact sendResponse_answers rfl rfl _ _ _ _ short link quiet

/-- The answer to a query, when nothing was done before. -/
theorem sendData_answers {body : Bytes} (oneLen : Nat) (short : body.length ≤ netEventDataCap)
    (link : worked.link = { s.link with store := worked.link.store })
    (quiet : userbinInProgress worked.link.store = true →
      userbinInProgress s.link.store = true ∨ hdr.IsUploadStart) :
    OneReply s (sendData worked hdr body oneLen) hdr hdr.frameIndex body :=
  sendResponse_answers rfl rfl _ _ _ _ short link quiet

end Replies

/-! ### Operations that a result reports -/

/-- The requests whose one-byte result reports an operation of a store. -/
inductive StoreRequest where
  | userSend
  | userDelete
  | settingWrite
  | indexChange
  | eventReset
deriving Repr, Inhabited, DecidableEq

def storeRequest (hdr : IdtiHeader) : Option StoreRequest :=
  if usercmdIsUserObject hdr.object && hdr.isRequest idtiCmdSndData idtiSubcmdWrite then
    some .userSend
  else if usercmdIsUserObject hdr.object && hdr.isRequest idtiCmdSndData idtiSubcmdDelete then
    some .userDelete
  else if (findSettingSpec hdr.object).isSome &&
      hdr.isRequest idtiCmdSndData idtiSubcmdChange then
    some .settingWrite
  else if hdr.isRequest idtiCmdSndStatus idtiSubcmdChange &&
      hdr.object == idtiObjHistoryIndex then
    some .indexChange
  else if hdr.isRequest idtiCmdSndStatus idtiSubcmdInit && hdr.object == idtiObjHistory then
    some .eventReset
  else none

/-- The time an index change asks for, if it is one. -/
def requestedTime (s : NetSys) (pkt : Memory) : Option Int :=
  let start := (packetData pkt).advance idtiEventIndexOffStart
  (bcdFieldsToTm (start.byte 0) (start.byte 1) (start.byte 2) (start.byte 3)
    (start.byte 4) (start.byte 5)).bind s.clock.mktime

/-- The operations of the store were called and returned success. -/
def StoreRequest.Done (s : NetSys) (hdr : IdtiHeader) (pkt : Memory) : StoreRequest → Prop
  | .userSend =>
      let data := packetData pkt
      let put := usersPut s.link.store.users (usercmdSetRecord data hdr.dataLen)
      put.1 = true ∧
        ∀ card, usercmdSetCard data hdr.dataLen = some card →
          (usersPutCard put.2 card).1 = true
  | .userDelete =>
      (usersDelete s.link.store.users (Blob.ofMemory (packetData pkt) 0 acuUserIdLen)).1 = true
  | .settingWrite =>
      ∃ spec key, findSettingSpec hdr.object = some spec ∧
        settingKey s.net hdr spec = some key ∧
        (devsetPut s.settings key ((packetData pkt).read 0 spec.len)).1 = true
  | .indexChange =>
      ∃ since, requestedTime s pkt = some since ∧
        (eventsRewindToTime s.events since).1.isSome
  | .eventReset => (eventsMarkAllSent s.events).1 = true

/-- Success is answered to the requests that report an operation only if it was done. -/
def SuccessMeansDone (s : NetSys) (hdr : IdtiHeader) (pkt : Memory) (data : Bytes) : Prop :=
  data = [idtiAckSuccess] → ∀ kind, storeRequest hdr = some kind → kind.Done s hdr pkt

/-- The answer of one handler. -/
def Handled (s handled : NetSys) (hdr : IdtiHeader) (pkt : Memory) (frameIndex : UInt32) : Prop :=
  ∃ data, OneReply s handled hdr frameIndex data ∧ SuccessMeansDone s hdr pkt data

theorem ackFail_ne_success : [idtiAckFail] ≠ [idtiAckSuccess] := by decide

/-- A failure reports nothing. -/
theorem SuccessMeansDone.fail (s : NetSys) (hdr : IdtiHeader) (pkt : Memory) :
    SuccessMeansDone s hdr pkt [idtiAckFail] :=
  fun success => absurd success ackFail_ne_success

/-- Other requests report nothing. -/
theorem SuccessMeansDone.other {hdr : IdtiHeader} (none : storeRequest hdr = none)
    (s : NetSys) (pkt : Memory) (data : Bytes) : SuccessMeansDone s hdr pkt data := by
  intro _ kind found
  rw [none] at found
  cases found

/-- Queries of data or of status are none of these requests. -/
theorem storeRequest_of_command {hdr : IdtiHeader} (data : hdr.command ≠ idtiCmdSndData)
    (status : hdr.command ≠ idtiCmdSndStatus) : storeRequest hdr = none := by
  simp [storeRequest, IdtiHeader.isRequest, data, status]

/-- Objects that are neither users nor settings nor events are none of them. -/
theorem storeRequest_of_object {hdr : IdtiHeader}
    (other : usercmdIsUserObject hdr.object = false ∧ findSettingSpec hdr.object = none ∧
      hdr.object ≠ idtiObjHistoryIndex ∧ hdr.object ≠ idtiObjHistory) :
    storeRequest hdr = none := by
  obtain ⟨user, setting, index, history⟩ := other
  simp [storeRequest, user, setting, index, history]

theorem isRequest_command {hdr : IdtiHeader} {command subCommand : UInt8}
    (request : hdr.isRequest command subCommand = true) :
    hdr.command = command ∧ hdr.subCommand = subCommand := by
  simpa [IdtiHeader.isRequest] using request

/-- A read request is none of them. -/
theorem storeRequest_of_read {hdr : IdtiHeader}
    (query : hdr.isRequest idtiCmdReqData idtiSubcmdRead = true) : storeRequest hdr = none := by
  apply storeRequest_of_command
  · rw [(isRequest_command query).1]
    decide
  · rw [(isRequest_command query).1]
    decide

/-! ### The handlers -/

section Handlers

variable {s handled : NetSys} {hdr : IdtiHeader} {pkt : Memory}

/-- Nothing was done to the connection or to the roster store before the answer. -/
theorem untouched (hdr : IdtiHeader) {worked : NetSys} (same : worked.link = s.link) :
    worked.link = { s.link with store := worked.link.store } ∧
      (userbinInProgress worked.link.store = true →
        userbinInProgress s.link.store = true ∨ hdr.IsUploadStart) := by
  rw [same]
  exact ⟨rfl, .inl⟩

theorem eventsFetch_length_le (ev : AcuEvents) {max : Int} {batch : List AcuEvent}
    (fetched : (eventsFetch ev max).1 = some batch) : (batch.length : Int) ≤ max := by
  unfold eventsFetch at fetched
  split at fetched
  next => cases fetched
  next positive =>
    have taken : batch.length ≤ max.toNat := by
      cases attached : ev.db with
      | none =>
          rw [attached] at fetched
          cases fetched
          exact List.length_take_le _ _
      | some db =>
          rw [attached] at fetched
          cases fetched
          exact db.fetchFrom_length_le max.toNat 2
    omega

theorem historyFetch_length_le (s : NetSys) (hdr : IdtiHeader) :
    (historyFetch s hdr).1.length ≤ 100 := by
  have bound : historyMax s.net hdr ≤ 100 := by
    unfold historyMax idtiEventBlockingMax idtiEventNonblockingMax
    split
    next => split <;> omega
    next => omega
  unfold historyFetch
  split
  next =>
    cases fetched : (eventsFetch s.events (historyMax s.net hdr)).1 with
    | none => exact Nat.zero_le _
    | some batch =>
        have taken := eventsFetch_length_le s.events fetched
        have small : (batch.length : Int) ≤ 100 := taken.trans bound
        exact_mod_cast small
  next => exact Nat.zero_le _

theorem length_buildEventInfo (clock : Clock) (event : AcuEvent) :
    (buildEventInfo clock event).length = idtiEventInfoLen := by
  simp [buildEventInfo, be32Bytes, bcdTime, event.id.length_eq]
  rfl

theorem length_historyData (s : NetSys) (batch : List AcuEvent) :
    (historyData s batch).length = batch.length * idtiEventInfoLen := by
  simp [historyData, List.length_flatMap, length_buildEventInfo]

/-- Only the connection of the handled state matters for its answer. -/
theorem OneReply.of_link {other : NetSys} {frameIndex : UInt32} {data : Bytes}
    (answers : OneReply s handled hdr frameIndex data) (same : other.link = handled.link) :
    OneReply s other hdr frameIndex data := by
  obtain ⟨store, packet, out, built, index, dest, payload, short, link, quiet⟩ := answers
  exact ⟨store, packet, out, built, index, dest, payload, short, same.trans link, quiet⟩

theorem handleHistoryRequest_answers
    (query : hdr.isRequest idtiCmdReqData idtiSubcmdRead = true) :
    Handled s (handleHistoryRequest s hdr) hdr pkt hdr.frameIndex := by
  have batch := historyFetch_length_le (historyRewind s hdr) hdr
  have same : (historyFetch (historyRewind s hdr) hdr).2.link = s.link :=
    (historyFetch_link _ hdr).trans (historyRewind_link s hdr)
  obtain ⟨link, quiet⟩ := untouched hdr same
  have short : (historyData (historyFetch (historyRewind s hdr) hdr).2
      (historyFetch (historyRewind s hdr) hdr).1).length ≤ netEventDataCap := by
    rw [length_historyData]
    exact Nat.mul_le_mul_right _ (batch.trans (by decide))
  have replied : OneReply s (historyReply (historyFetch (historyRewind s hdr) hdr).2 hdr
      (historyFetch (historyRewind s hdr) hdr).1).2 hdr hdr.frameIndex _ :=
    sendResponse_answers rfl rfl _ _ _ _ short link quiet
  refine ⟨_, replied.of_link ?_, .other (storeRequest_of_read query) s pkt _⟩
  unfold handleHistoryRequest
  simp only
  split
  next => exact historyAck_link _ _
  next => rfl

theorem length_buildFirmwareInfo (net : AcuNet) :
    (buildFirmwareInfo net).length = idtiFirmwareInfoLen := by
  simp only [buildFirmwareInfo, List.length_append, List.length_cons, List.length_nil,
    List.length_map, List.length_replicate]
  rfl

theorem handleFirmwareRequest_answers
    (query : hdr.isRequest idtiCmdReqStatus idtiSubcmdRead = true) :
    Handled s (handleFirmwareRequest s hdr) hdr pkt hdr.frameIndex := by
  obtain ⟨link, quiet⟩ := untouched hdr (rfl : s.link = s.link)
  have short : (buildFirmwareInfo s.net).length ≤ netEventDataCap := by
    rw [length_buildFirmwareInfo]
    decide
  have none : storeRequest hdr = none := by
    apply storeRequest_of_command
    · rw [(isRequest_command query).1]
      decide
    · rw [(isRequest_command query).1]
      decide
  exact ⟨_, sendResponse_answers rfl rfl _ _ _ _ short link quiet, .other none s pkt _⟩

theorem length_lcdData_le (hdr : IdtiHeader) : (lcdData hdr).length ≤ netEventDataCap := by
  unfold lcdData
  simp only
  repeat' split
  · decide
  · decide
  · decide

theorem handleLcdRequest_answers (claimed : handleLcdRequest s hdr = some handled) :
    Handled s handled hdr pkt hdr.frameIndex := by
  unfold handleLcdRequest at claimed
  split at claimed
  next => cases claimed
  next object =>
    cases claimed
    obtain ⟨link, quiet⟩ := untouched hdr (rfl : s.link = s.link)
    have none : storeRequest hdr = none := by
      rcases not_and_or.mp object with control | language
      · apply storeRequest_of_object
        rw [not_not.mp control]
        decide
      · apply storeRequest_of_object
        rw [not_not.mp language]
        decide
    exact ⟨_, sendResponse_answers rfl rfl _ _ _ _ (length_lcdData_le hdr) link quiet,
      .other none s pkt _⟩

/-! ### Users -/

theorem usercmdGet_length_le {users : AcuUsers} {object : UInt8} {data : Memory} {len : Nat}
    {body : Bytes} (got : usercmdGet users object data len = some body) :
    body.length ≤ netEventDataCap := by
  have room : idtiUserdataLen ≤ netEventDataCap := by decide
  unfold usercmdGet at got
  split at got
  next => cases got
  next =>
    split at got
    next record _ =>
      split at got
      next =>
        rw [← Option.some.inj got, List.length_append, length_userbinBuildUserInfo,
          Blob.length_eq]
        exact Nat.le_trans (by decide) room
      next =>
        rw [← Option.some.inj got]
        refine Nat.le_trans (Nat.le_of_eq ?_) room
        simp only [List.length_append, List.length_cons, List.length_nil,
          length_userbinBuildUserInfo, Blob.length_eq, List.length_replicate]
        split
        next =>
          rw [cardIdToProx, List.length_append, Blob.length_eq, List.length_replicate]
          rfl
        next =>
          rw [List.length_replicate]
          rfl
    next => cases got

/-- Work on the roster store that leaves an upload as it was. -/
theorem withStore_quiet {store : UserStore}
    (same : store.userbin.active = s.link.store.userbin.active) :
    userbinInProgress (s.withStore store).link.store = true →
      userbinInProgress s.link.store = true ∨ hdr.IsUploadStart :=
  fun active => .inl (same.symm.trans active)

theorem handleUserbinSend_answers (isStart : Bool)
    (query : hdr.isRequest idtiCmdReqData idtiSubcmdRead = true) :
    Handled s (handleUserbinSend s hdr pkt isStart) hdr pkt hdr.frameIndex := by
  have none := storeRequest_of_read query
  have failed : Handled s (sendAck s hdr idtiAckFail) hdr pkt hdr.frameIndex :=
    ⟨_, sendAck_answers _ rfl .inl, .fail s hdr pkt⟩
  unfold handleUserbinSend
  simp only
  split
  next => exact failed
  next =>
    split
    next =>
      have kept := userbinReceiveStart_active s.link.store
        (if hdr.dataLen ≥ 1 then (packetData pkt).byte 0 else idtiUserbinObjInfo)
      split
      next store read =>
        rw [read] at kept
        exact ⟨_, sendAck_answers _ rfl (withStore_quiet kept), .fail s hdr pkt⟩
      next totalSize totalCount store read =>
        rw [read] at kept
        refine ⟨_, sendData_answers _ ?_ rfl (withStore_quiet kept), .other none s pkt _⟩
        simp only [be32Bytes, List.length_append, List.length_cons, List.length_nil]
        decide
    next =>
      split
      next => exact failed
      next =>
        have kept := userbinReceiveChunk_active s.link.store ((packetData pkt).be16At 0)
        split
        next store read =>
          rw [read] at kept
          exact ⟨_, sendAck_answers _ rfl (withStore_quiet kept), .fail s hdr pkt⟩
        next chunk store read =>
          rw [read] at kept
          refine ⟨_, sendData_answers _ ?_ rfl (withStore_quiet kept), .other none s pkt _⟩
          have fits := userbinReceiveChunk_length_le read
          simp only [be16Bytes, List.length_append, List.length_cons, List.length_nil]
          unfold userbinSendChunk at fits
          unfold netEventDataCap idtiEventInfoLen
          omega

/-- The events of a completed transfer do not touch the connection. -/
theorem userbinContinueDone_link (s : NetSys) (status : AcuUserBinStatus) :
    (userbinContinueDone s status).link = s.link := by
  unfold userbinContinueDone
  split
  next => rw [netStoreEvent_eq]
  next => rfl

/-- An upload that was not in progress is not started by a chunk. -/
theorem userbinContinue_active (store : UserStore) (index : UInt16) (data : Bytes) :
    (userbinContinue store index data).2.userbin.active = true →
      store.userbin.active = true := by
  intro after
  by_contra inactive
  rw [Bool.not_eq_true] at inactive
  unfold userbinContinue at after
  rw [if_pos inactive, inactive] at after
  cases after

/-- Receiving only works on the roster store, and only a Start begins an upload. -/
theorem userbinReceive_store (s : NetSys) (hdr : IdtiHeader) (pkt : Memory) (isStart : Bool)
    (write : hdr.isRequest idtiCmdSndData idtiSubcmdWrite = true)
    (start : isStart = true → hdr.object = idtiObjUserbinStart) :
    (userbinReceive s hdr pkt isStart).2.link =
        { s.link with store := (userbinReceive s hdr pkt isStart).2.link.store } ∧
      (userbinInProgress (userbinReceive s hdr pkt isStart).2.link.store = true →
        userbinInProgress s.link.store = true ∨ hdr.IsUploadStart) := by
  unfold userbinReceive
  simp only
  split
  next => exact ⟨rfl, .inl⟩
  next =>
    split
    next isStart =>
      split
      next => exact ⟨rfl, .inl⟩
      next => split <;> exact ⟨rfl, fun _ => .inr ⟨start isStart, write⟩⟩
    next =>
      split
      next => exact ⟨rfl, .inl⟩
      next =>
        rw [userbinContinueDone_link]
        exact ⟨rfl, fun after => .inl (userbinContinue_active _ _ _ after)⟩

theorem handleUserbinRequest_answers
    (claimed : handleUserbinRequest s hdr pkt = some handled) :
    Handled s handled hdr pkt hdr.frameIndex := by
  unfold handleUserbinRequest at claimed
  simp only at claimed
  split at claimed
  next => cases claimed
  next object =>
    have none : storeRequest hdr = none := by
      rcases not_and_or.mp object with start | more
      · apply storeRequest_of_object
        rw [not_not.mp start]
        decide
      · apply storeRequest_of_object
        rw [not_not.mp more]
        decide
    split at claimed
    next query =>
      cases claimed
      exact handleUserbinSend_answers _ query
    next =>
      split at claimed
      next => cases claimed
      next write =>
        cases claimed
        obtain ⟨link, quiet⟩ := userbinReceive_store s hdr pkt
          (hdr.object == idtiObjUserbinStart) (Bool.eq_true_of_not_eq_false write)
          (fun start => eq_of_beq start)
        exact ⟨_, sendAck_answers _ link quiet, .other none s pkt _⟩

/-- What a successful send of a user did. -/
theorem usercmdSet_done {users after : AcuUsers} {data : Memory} {len : Nat}
    (done : usercmdSet users data len = (.ok, after)) :
    (usersPut users (usercmdSetRecord data len)).1 = true ∧
      ∀ card, usercmdSetCard data len = some card →
        (usersPutCard (usersPut users (usercmdSetRecord data len)).2 card).1 = true := by
  unfold usercmdSet at done
  split at done
  next => cases done
  next =>
    split at done
    next => cases done
    next =>
      split at done
      next => cases done
      next stored put =>
        rw [put]
        refine ⟨rfl, fun card carried => ?_⟩
        rw [carried] at done
        simp only at done
        split at done
        next => cases done
        next paired pair => rw [pair]

theorem usercmdDelete_done {users after : AcuUsers} {data : Memory} {len : Nat}
    (done : usercmdDelete users data len = (.ok, after)) :
    (usersDelete users (Blob.ofMemory data 0 acuUserIdLen)).1 = true := by
  unfold usercmdDelete at done
  split at done
  next => cases done
  next =>
    split at done
    next => cases done
    next deleted removed => rw [removed]

theorem usercmdAck_success {status : AcuUserCmdStatus}
    (success : [usercmdAck status] = [idtiAckSuccess]) : status = .ok := by
  cases status with
  | ok => rfl
  | fail => exact absurd success ackFail_ne_success

theorem handleUsercmdRequest_answers
    (claimed : handleUsercmdRequest s hdr pkt = some handled) :
    Handled s handled hdr pkt hdr.frameIndex := by
  unfold handleUsercmdRequest at claimed
  simp only at claimed
  split at claimed
  next => cases claimed
  next user =>
    rw [Bool.not_eq_false] at user
    split at claimed
    next =>
      cases claimed
      exact ⟨_, sendAck_answers _ rfl .inl, .fail s hdr pkt⟩
    next =>
      split at claimed
      next query =>
        split at claimed
        next body got =>
          cases claimed
          exact ⟨_, sendData_answers _ (usercmdGet_length_le got) rfl .inl,
            .other (storeRequest_of_read query) s pkt _⟩
        next =>
          cases claimed
          exact ⟨_, sendAck_answers _ rfl .inl, .fail s hdr pkt⟩
      next =>
        split at claimed
        next send =>
          cases claimed
          refine ⟨_, sendAck_answers _ rfl (withStore_quiet rfl), ?_⟩
          intro success kind found
          have kindIs : kind = .userSend := by
            simpa [storeRequest, user, send, eq_comm] using found
          subst kindIs
          apply usercmdSet_done (Prod.ext (usercmdAck_success success) rfl)
        next =>
          split at claimed
          next delete =>
            cases claimed
            refine ⟨_, sendAck_answers _ rfl (withStore_quiet rfl), ?_⟩
            intro success kind found
            have notSend : hdr.isRequest idtiCmdSndData idtiSubcmdWrite = false := by
              rw [IdtiHeader.isRequest, (isRequest_command delete).2]
              exact Bool.and_false _
            have kindIs : kind = .userDelete := by
              simpa [storeRequest, user, delete, notSend, eq_comm] using found
            subst kindIs
            exact usercmdDelete_done (Prod.ext (usercmdAck_success success) rfl)
          next => cases claimed

/-! ### Forced open and settings -/

theorem handleForceOpenRequest_answers
    (claimed : handleForceOpenRequest s hdr pkt = some handled) :
    Handled s handled hdr pkt hdr.frameIndex := by
  unfold handleForceOpenRequest at claimed
  split at claimed
  next => cases claimed
  next object =>
    have none : storeRequest hdr = none := by
      apply storeRequest_of_object
      rw [not_not.mp object]
      decide
    split at claimed
    next =>
      cases claimed
      have same : (netApplyForceOpen s (forceOpenRequested hdr pkt)).link = s.link := by
        rw [netApplyForceOpen_eq]
      obtain ⟨link, quiet⟩ := untouched hdr same
      exact ⟨_, sendAck_answers _ link quiet, .other none s pkt _⟩
    next =>
      split at claimed
      next query =>
        cases claimed
        have short : [forceOpenValue s].length ≤ netEventDataCap := by
          rw [List.length_singleton]
          decide
        exact ⟨_, sendData_answers _ short rfl .inl, .other none s pkt _⟩
      next => cases claimed

/-- A response about a setting carries other item indices, and is otherwise one to the
request. -/
theorem sendSetting_answers {worked : NetSys} {data : Bytes} (block : BlockIndex)
    (short : data.length ≤ netEventDataCap) (same : worked.link = s.link) :
    OneReply s (sendBack worked (settingHeader hdr) data block) hdr hdr.frameIndex data := by
  obtain ⟨link, quiet⟩ := untouched hdr same
  have option : (settingHeader hdr).frameOption = hdr.frameOption := rfl
  have source : (settingHeader hdr).srcAddr = hdr.srcAddr := rfl
  exact sendResponse_answers option source _ _ _ block short link quiet

theorem settingSpecs_len : ∀ spec ∈ settingSpecs, spec.len ≤ netEventDataCap := by
  decide

theorem devsetGet_length {db : SettingsDb} {key : SettingKey} {len : Nat} {data : Bytes}
    (found : devsetGet db key len = .found data) : data.length = len := by
  unfold devsetGet at found
  split at found
  next =>
    split at found
    next => cases found
    next =>
      split at found
      next long =>
        cases found
        exact long
      next => cases found
  next => cases found

theorem handleSettingRead_answers (claimed : handleSettingRead s hdr = some handled) :
    Handled s handled hdr pkt hdr.frameIndex := by
  unfold handleSettingRead at claimed
  split at claimed
  next => cases claimed
  next query =>
    rw [Bool.not_eq_false] at query
    have none := storeRequest_of_read query
    have one : [idtiAckFail].length ≤ netEventDataCap := by decide
    split at claimed
    next => cases claimed
    next spec found =>
      have listed := (findSettingSpec_object found).1
      split at claimed
      next =>
        cases claimed
        exact ⟨_, sendSetting_answers _ one rfl, .fail s hdr pkt⟩
      next key _ =>
        split at claimed
        next data stored =>
          cases claimed
          refine ⟨_, sendSetting_answers _ ?_ rfl, .other none s pkt _⟩
          unfold settingStored at stored
          split at stored
          next =>
            rw [devsetGet_length stored]
            exact settingSpecs_len spec listed
          next => cases stored
        next =>
          split at claimed
          next =>
            cases claimed
            have short : (deviceBasisDefault s.net).length ≤ netEventDataCap := by
              simp only [deviceBasisDefault, List.length_append, List.length_cons,
                List.length_nil, List.length_replicate]
              decide
            exact ⟨_, sendSetting_answers _ short rfl, .other none s pkt _⟩
          next =>
            cases claimed
            exact ⟨_, sendSetting_answers _ one rfl, .fail s hdr pkt⟩

theorem handleSettingWrite_answers (claimed : handleSettingWrite s hdr pkt = some handled) :
    Handled s handled hdr pkt hdr.frameIndex := by
  unfold handleSettingWrite at claimed
  split at claimed
  next => cases claimed
  next change =>
    split at claimed
    next => cases claimed
    next spec found =>
      have one : ∀ result : UInt8, [result].length ≤ netEventDataCap := by
        intro result
        rw [List.length_singleton]
        decide
      split at claimed
      next refused stored =>
        cases claimed
        have same : refused.link = s.link := by rw [settingStore_touches stored]
        exact ⟨_, sendSetting_answers _ (one _) same, .fail s hdr pkt⟩
      next key reached stored =>
        cases claimed
        have same : reached.link = s.link := by rw [settingStore_touches stored]
        have replied : OneReply s (sendResultAck reached hdr idtiAckSuccess) hdr hdr.frameIndex
            [idtiAckSuccess] := sendSetting_answers _ (one _) same
        refine ⟨_, replied.of_link ?_, ?_⟩
        · rw [settingChanged_eq, settingEvent_eq]
        · intro _ kind kindFound
          have kindIs : kind = .settingWrite := by
            rw [Bool.not_eq_false] at change
            have object := (findSettingSpec_object found).2
            have user := (settingSpecs_objects spec (findSettingSpec_object found).1).2.2.1
            rw [object] at user
            simpa [storeRequest, user, found, change, eq_comm] using kindFound
          subst kindIs
          rcases settingStore_cases stored with
            ⟨refused, _⟩ | ⟨place, same, _, addressed, _, put⟩
          · cases refused
          · cases same
            exact ⟨spec, key, found, addressed, by rw [put]⟩

/-! ### The event store -/

theorem eventIndexChange_link (s : NetSys) (hdr : IdtiHeader) (pkt : Memory) :
    (eventIndexChange s hdr pkt).2.link = s.link := by
  unfold eventIndexChange
  simp only
  repeat' split
  all_goals rfl

theorem eventReset_link (s : NetSys) : (eventReset s).2.link = s.link := by
  unfold eventReset
  repeat' split
  all_goals rfl

/-- Success is answered when the position was found and moved. -/
theorem eventIndexChange_done (success : (eventIndexChange s hdr pkt).1 = idtiAckSuccess) :
    ∃ since, requestedTime s pkt = some since ∧
      (eventsRewindToTime s.events since).1.isSome := by
  have differs : idtiAckFail ≠ idtiAckSuccess := by decide
  unfold eventIndexChange at success
  simp only at success
  split at success
  next =>
    split at success
    next => exact absurd success differs
    next since requested =>
      split at success
      next moved =>
        refine ⟨since, requested, ?_⟩
        rw [moved]
        rfl
      next => exact absurd success differs
  next => exact absurd success differs

theorem eventReset_done (success : (eventReset s).1 = idtiAckSuccess) :
    (eventsMarkAllSent s.events).1 = true := by
  have differs : idtiAckFail ≠ idtiAckSuccess := by decide
  unfold eventReset at success
  split at success
  next =>
    split at success
    next marked => rw [marked]
    next => exact absurd success differs
  next => exact absurd success differs

/-- The request asks how many events can be fetched. -/
def IdtiHeader.IsEventCountCheck (hdr : IdtiHeader) : Bool :=
  hdr.isRequest idtiCmdReqData idtiSubcmdRead && hdr.object == idtiObjHistoryCount

/-- The frame index of the answer. -/
def answerIndex (hdr : IdtiHeader) : UInt32 :=
  if hdr.IsEventCountCheck then 0 else hdr.frameIndex

theorem handleEventStoreRequest_answers
    (claimed : handleEventStoreRequest s hdr pkt = some handled) :
    Handled s handled hdr pkt (answerIndex hdr) := by
  unfold handleEventStoreRequest at claimed
  split at claimed
  next count =>
    cases claimed
    have query : hdr.isRequest idtiCmdReqData idtiSubcmdRead = true :=
      (Bool.and_eq_true_iff.mp count).1
    have short : (eventCountBody s).length ≤ netEventDataCap := by
      simp only [eventCountBody, be32Bytes, List.length_append, List.length_cons,
        List.length_nil, List.length_replicate]
      decide
    have index : answerIndex hdr = 0 := if_pos count
    have option :
        ({ hdr with frameIndex := 0, startItem := 0, endItem := 0 } : IdtiHeader).frameOption =
          hdr.frameOption := rfl
    rw [index]
    exact ⟨_, sendResponse_answers option rfl _ _ _ _ short rfl .inl,
      .other (storeRequest_of_read query) s pkt _⟩
  next other =>
    have index : answerIndex hdr = hdr.frameIndex := if_neg other
    rw [index]
    split at claimed
    next change =>
      cases claimed
      obtain ⟨link, quiet⟩ := untouched hdr (eventIndexChange_link s hdr pkt)
      refine ⟨_, sendAck_answers _ link quiet, ?_⟩
      intro success kind found
      have kindIs : kind = .indexChange := by
        obtain ⟨status, object⟩ := Bool.and_eq_true_iff.mp change
        have command : hdr.command ≠ idtiCmdSndData := by
          rw [(isRequest_command status).1]
          decide
        have notData : ∀ subCommand, hdr.isRequest idtiCmdSndData subCommand = false := by
          intro subCommand
          simp [IdtiHeader.isRequest, command]
        simpa [storeRequest, notData, status, eq_of_beq object, eq_comm] using found
      subst kindIs
      exact eventIndexChange_done (List.cons.inj success).1
    next =>
      split at claimed
      next reset =>
        cases claimed
        obtain ⟨link, quiet⟩ := untouched hdr (eventReset_link s)
        refine ⟨_, sendAck_answers _ link quiet, ?_⟩
        intro success kind found
        have kindIs : kind = .eventReset := by
          obtain ⟨status, object⟩ := Bool.and_eq_true_iff.mp reset
          have command : hdr.command ≠ idtiCmdSndData := by
            rw [(isRequest_command status).1]
            decide
          have subCommand : hdr.isRequest idtiCmdSndStatus idtiSubcmdChange = false := by
            rw [IdtiHeader.isRequest, (isRequest_command status).2]
            exact Bool.and_false _
          have notData : ∀ subCommand, hdr.isRequest idtiCmdSndData subCommand = false := by
            intro subCommand
            simp [IdtiHeader.isRequest, command]
          simpa [storeRequest, notData, subCommand, status, eq_of_beq object, eq_comm] using found
        subst kindIs
        exact eventReset_done (List.cons.inj success).1
      next => cases claimed

/-! ### Dispatch -/

/-- The other handlers decline the one request whose answer has another index. -/
theorem countCheck_declined (s : NetSys) (pkt : Memory)
    (count : hdr.IsEventCountCheck = true) :
    handleUserbinRequest s hdr pkt = none ∧ handleUsercmdRequest s hdr pkt = none ∧
      handleForceOpenRequest s hdr pkt = none ∧ handleSettingRead s hdr = none ∧
      handleSettingWrite s hdr pkt = none ∧ handleLcdRequest s hdr = none := by
  obtain ⟨query, object⟩ := Bool.and_eq_true_iff.mp count
  have same : hdr.object = idtiObjHistoryCount := eq_of_beq object
  have start : idtiObjHistoryCount ≠ idtiObjUserbinStart := by decide
  have more : idtiObjHistoryCount ≠ idtiObjUserbinContinue := by decide
  have user : usercmdIsUserObject idtiObjHistoryCount = false := by decide
  have forced : idtiObjHistoryCount ≠ idtiObjForceOpen := by decide
  have setting : findSettingSpec idtiObjHistoryCount = none := by decide
  have lcd : idtiObjHistoryCount ≠ idtiObjLcdControl := by decide
  have language : idtiObjHistoryCount ≠ idtiObjMultiLanguage := by decide
  refine ⟨?_, ?_, ?_, ?_, ?_, ?_⟩
  · simp [handleUserbinRequest, same, start, more]
  · simp [handleUsercmdRequest, same, user]
  · simp [handleForceOpenRequest, same, forced]
  · simp [handleSettingRead, same, setting]
  · simp [handleSettingWrite, same, setting]
  · simp [handleLcdRequest, same, lcd, language]

theorem claimRequest_answers (claimed : claimRequest s hdr pkt = some handled) :
    Handled s handled hdr pkt (answerIndex hdr) := by
  unfold claimRequest at claimed
  simp only [Option.orElse_eq_orElse, Option.orElse_eq_or, Option.or_eq_some_iff] at claimed
  cases count : hdr.IsEventCountCheck with
  | true =>
      obtain ⟨userbin, usercmd, forced, read, written, lcd⟩ :=
        countCheck_declined s pkt count
      simp only [userbin, usercmd, forced, read, written, lcd, reduceCtorEq, false_or, true_and,
        and_false, or_false] at claimed
      exact handleEventStoreRequest_answers claimed
  | false =>
      have index : answerIndex hdr = hdr.frameIndex := if_neg (by rw [count]; decide)
      rcases claimed with userbin | ⟨_, usercmd | ⟨_, forced | ⟨_, read | ⟨_, written |
        ⟨_, store | ⟨_, lcd⟩⟩⟩⟩⟩⟩
      · exact index ▸ handleUserbinRequest_answers userbin
      · exact index ▸ handleUsercmdRequest_answers usercmd
      · exact index ▸ handleForceOpenRequest_answers forced
      · exact index ▸ handleSettingRead_answers read
      · exact index ▸ handleSettingWrite_answers written
      · exact handleEventStoreRequest_answers store
      · exact index ▸ handleLcdRequest_answers lcd

/-- Every request is answered by one frame, and a Success it reports was done by the
store, in the state after time synchronization. -/
theorem handleRequest_answers (s : NetSys) (hdr : IdtiHeader) (pkt : Memory) :
    Handled (requestTimeSync s hdr pkt) (handleRequest s hdr pkt) hdr pkt
      (answerIndex hdr) := by
  have plain : hdr.object ≠ idtiObjHistoryCount → answerIndex hdr = hdr.frameIndex := by
    intro other
    simp [answerIndex, IdtiHeader.IsEventCountCheck, other]
  unfold handleRequest
  simp only
  split
  next history =>
    obtain ⟨query, object⟩ := Bool.and_eq_true_iff.mp history
    rw [plain (by rw [eq_of_beq object]; decide)]
    exact handleHistoryRequest_answers query
  next =>
    split
    next firmware =>
      obtain ⟨query, object⟩ := Bool.and_eq_true_iff.mp firmware
      rw [plain (by rw [eq_of_beq object]; decide)]
      exact handleFirmwareRequest_answers query
    next =>
      split
      next claimed => exact claimRequest_answers claimed
      next declined =>
        cases count : hdr.IsEventCountCheck with
        | true =>
            -- The count check is always claimed.
            have claims : (handleEventStoreRequest (requestTimeSync s hdr pkt) hdr pkt).isSome := by
              unfold IdtiHeader.IsEventCountCheck at count
              unfold handleEventStoreRequest
              rw [if_pos count]
              rfl
            simp only [claimRequest, Option.orElse_eq_orElse, Option.orElse_eq_or,
              Option.or_eq_none_iff] at declined
            rw [declined.2.2.2.2.2.1] at claims
            cases claims
        | false =>
            have index : answerIndex hdr = hdr.frameIndex := if_neg (by rw [count]; decide)
            rw [index]
            exact ⟨_, sendAck_answers _ rfl .inl, .fail _ hdr pkt⟩

end Handlers

/-! ### One response for each request -/

/-- The reply to a request: one built frame with the index and the address it asks for,
queued once on the connection the request came over. -/
structure IsReply (s after : NetSys) (hdr : IdtiHeader) (store : UserStore)
    (packet : IdtiPacket) (out data : Bytes) : Prop where
  built : idtiBuildPacket netRespBufCap packet = some out
  frameIndex : packet.frameIndex = if hdr.IsEventCountCheck then 0 else hdr.frameIndex
  destination : packet.destAddr.bytes = hdr.srcAddr.bytes ++ [0, 0, 0]
  payload : ∃ status : NetSys, packet.data = responsePayload status hdr data
  queued : after.link = (netQueueSend { s.link with store := store } out).2

/-- The reply is accepted, and unless a `send` fails its bytes come right behind those
that were queued before. -/
def Delivers (before after : Link) (out : Bytes) (accepted : Bool) : Prop :=
  accepted = true ∧
    (¬ SendFailed before after →
      after.sock.wire ++ after.conn.unsent = before.sock.wire ++ before.conn.unsent ++ out)

theorem netQueueSend_room {link : Link} {out : Bytes} (connected : netIsConnected link = true)
    (room : link.conn.unsent.length + out.length ≤ netSendBufCap) :
    (netQueueSend link out).1 = true := by
  have result := netQueueSend_result link out
  revert result
  generalize netQueueSend link out = queued
  intro result
  cases result with
  | offline absent =>
      rw [netIsConnected, absent] at connected
      cases connected
  | full _ full => exact absurd room (Nat.not_le.mpr full)
  | flushed => rfl

/-- For every request on a connection there is exactly one response: it is queued once,
carries the frame index and goes to the source of the request, is accepted when the queue
has room for it, and says Success about an operation of a store only if that operation
returned success. -/
theorem one_response (s : NetSys) (hdr : IdtiHeader) (pkt : Memory)
    (connected : netIsConnected s.link = true) :
    ∃ store packet out data, IsReply s (handleRequest s hdr pkt) hdr store packet out data ∧
      (s.link.conn.unsent.length + out.length ≤ netSendBufCap →
        Delivers s.link (handleRequest s hdr pkt).link out
          (netQueueSend { s.link with store := store } out).1) ∧
      (data = [idtiAckSuccess] → ∀ kind, storeRequest hdr = some kind →
        kind.Done (requestTimeSync s hdr pkt) hdr pkt) := by
  obtain ⟨data, ⟨store, packet, out, built, index, dest, payload, _, link, _⟩, success⟩ :=
    handleRequest_answers s hdr pkt
  have same : (requestTimeSync s hdr pkt).link = s.link := by rw [requestTimeSync_eq]
  rw [same] at link
  refine ⟨store, packet, out, data, ⟨built, index, ?_, payload, link⟩, fun room => ?_, success⟩
  · rw [dest]
    rfl
  · have accepted := @netQueueSend_room { s.link with store := store } out connected room
    refine ⟨accepted, fun fine => ?_⟩
    rw [link] at fine ⊢
    exact (netQueueSend_accepted accepted fine).2

/-- A firmware query of a client that just connected. -/
theorem one_response_connected :
    ∃ s hdr, connectedStart (fun _ => .accepted 4096) = some s ∧
      idtiHeaderParse (Memory.ofBytes firmwareRequest) firmwareRequest.length = some hdr ∧
      ∃ store packet out data,
        IsReply s (handleRequest s hdr (Memory.ofBytes firmwareRequest)) hdr store packet out
          data ∧
        (s.link.conn.unsent.length + out.length ≤ netSendBufCap →
          Delivers s.link (handleRequest s hdr (Memory.ofBytes firmwareRequest)).link out
            (netQueueSend { s.link with store := store } out).1) ∧
        (data = [idtiAckSuccess] → ∀ kind, storeRequest hdr = some kind →
          kind.Done (requestTimeSync s hdr (Memory.ofBytes firmwareRequest)) hdr
            (Memory.ofBytes firmwareRequest)) := by
  have measured : (connectedStart fun _ => .accepted 4096).map
      (fun s => netIsConnected s.link) = some true := by decide +kernel
  have parses : (idtiHeaderParse (Memory.ofBytes firmwareRequest)
      firmwareRequest.length).isSome := by decide +kernel
  obtain ⟨s, started, connected⟩ := Option.map_eq_some_iff.mp measured
  obtain ⟨hdr, parsed⟩ := Option.isSome_iff_exists.mp parses
  exact ⟨s, hdr, started, parsed, one_response s hdr _ connected⟩

end Acud
