/-
Module: Acud.Handlers
Purpose: The request handlers and their dispatch.
Trusted boundary: none
Main exports:
  handleHistoryRequest, handleFirmwareRequest, handleLcdRequest,
  handleUserbinRequest, handleUsercmdRequest, handleForceOpenRequest,
  handleSettingRead, handleSettingWrite, handleEventStoreRequest, handleRequest
-/
import Acud.Net
import Acud.UserCmd

namespace Acud

open Lib

/-!
A handler that does not recognize a request answers 0 and the next one is
tried; here that is `none`.  `pkt` is the pointer to the first byte of the
frame in the receive buffer, so data starts at offset 44.

[SRC src/acud/net.c]
-/

/-- The request is this command, sub command and object. -/
def IdtiHeader.isRequest (hdr : IdtiHeader) (command subCommand : UInt8) : Bool :=
  hdr.command == command && hdr.subCommand == subCommand

/-- The pointer to the data of a frame. -/
def packetData (pkt : Memory) : Memory :=
  pkt.advance idtiHeaderLenV2

/-! ### History polls -/

/-- How many events one response carries at most. -/
def historyMax (net : AcuNet) (hdr : IdtiHeader) : Int :=
  if hdr.hasOption idtiFoptBlocking then
    if net.eventBatch < idtiEventBlockingMax then net.eventBatch
    else idtiEventBlockingMax
  else idtiEventNonblockingMax

/-- `ReRequestEvent`: go back in front of the last batch that was sent. -/
def historyRewind (s : NetSys) (hdr : IdtiHeader) : NetSys :=
  if hdr.hasOption idtiFoptReRequestEvent && s.net.eventsAttached &&
      decide (s.net.lastBatchFirstSeq > 0) then
    { s with events := (eventsRewindToSeq s.events s.net.lastBatchFirstSeq).2 }
  else s

/-- The batch of a poll; an error reads as an empty batch. -/
def historyFetch (s : NetSys) (hdr : IdtiHeader) : List AcuEvent × NetSys :=
  if s.net.eventsAttached then
    (((eventsFetch s.events (historyMax s.net hdr)).1).getD [],
      { s with events := (eventsFetch s.events (historyMax s.net hdr)).2 })
  else ([], s)

/-- The data block indices of a poll's reply: the number of pending events goes
out with the batch. -/
def historyBlock (s : NetSys) (batch : List AcuEvent) : BlockIndex :=
  let pending := if s.net.eventsAttached then eventsPending s.events else 0
  let pendingBefore := if pending < batch.length then (batch.length : Int) else pending
  let count := if pendingBefore > 0xFFFF then 0xFFFF else pendingBefore.toNat
  { start := if batch.isEmpty then 0 else 1
    last := batch.length.toUInt16
    count := count.toUInt16
    oneLen := if batch.isEmpty then 0 else idtiEventInfoLen.toUInt16 }

/-- The events of a batch as they go out. -/
def historyData (s : NetSys) (batch : List AcuEvent) : Bytes :=
  batch.flatMap (buildEventInfo s.clock)

def historyReply (s : NetSys) (hdr : IdtiHeader) (batch : List AcuEvent) :
    Bool × NetSys :=
  sendResponse s hdr idtiCmdSndData idtiSubcmdRead idtiObjHistory
    (historyData s batch) (historyBlock s batch)

/-- Advance the read position once the reply was accepted for sending. -/
def historyAck (s : NetSys) : List AcuEvent → NetSys
  | [] => s
  | first :: rest =>
      { s with
        net := { s.net with lastBatchFirstSeq := first.seq }
        events := (eventsAck s.events ((first :: rest).getLast (by simp)).seq).2 }

def handleHistoryRequest (s : NetSys) (hdr : IdtiHeader) : NetSys :=
  let fetched := historyFetch (historyRewind s hdr) hdr
  let replied := historyReply fetched.2 hdr fetched.1
  if replied.1 then historyAck replied.2 fetched.1 else replied.2

/-! ### Firmware and LCD -/

def handleFirmwareRequest (s : NetSys) (hdr : IdtiHeader) : NetSys :=
  (sendResponse s hdr idtiCmdSndStatus idtiSubcmdRead idtiObjFirmware
    (buildFirmwareInfo s.net) (BlockIndex.single idtiFirmwareInfoLen.toUInt16)).2

/-- There is no LCD: queries get a default, changes succeed and are dropped. -/
def lcdData (hdr : IdtiHeader) : Bytes :=
  let isQuery := hdr.isRequest idtiCmdReqData idtiSubcmdRead
  if hdr.object = idtiObjLcdControl ∧ isQuery then
    [idtiLcdBacklightDefault, 0, 0, 0, 0, idtiLcdDateformatYyyymmdd] ++
      List.replicate (idtiLcdInfoLen - 6) 0
  else if hdr.object = idtiObjMultiLanguage ∧ isQuery then [idtiLanguageEnglish]
  else [idtiAckSuccess]

def handleLcdRequest (s : NetSys) (hdr : IdtiHeader) : Option NetSys :=
  if hdr.object ≠ idtiObjLcdControl ∧ hdr.object ≠ idtiObjMultiLanguage then none
  else
    some (sendBack s hdr (lcdData hdr) (BlockIndex.single (lcdData hdr).length.toUInt16))

/-! ### Binary transfer of users -/

/-- Replace the roster store behind the connection. -/
def NetSys.withStore (s : NetSys) (store : UserStore) : NetSys :=
  { s with link := { s.link with store := store } }

/-- The read direction: the upper system takes the roster. -/
def handleUserbinSend (s : NetSys) (hdr : IdtiHeader) (pkt : Memory)
    (isStart : Bool) : NetSys :=
  let data := packetData pkt
  if s.link.userbinAttached = false then sendAck s hdr idtiAckFail
  else if isStart then
    let binaryObj := if hdr.dataLen ≥ 1 then data.byte 0 else idtiUserbinObjInfo
    match userbinReceiveStart s.link.store binaryObj with
    | (none, store) => sendAck (s.withStore store) hdr idtiAckFail
    | (some (totalSize, totalCount), store) =>
        let body := be32Bytes totalSize ++ be32Bytes totalCount ++ [binaryObj, 0x00]
        sendData (s.withStore store) hdr body body.length
  else if hdr.dataLen < 2 then sendAck s hdr idtiAckFail
  else
    let index := data.be16At 0
    match userbinReceiveChunk s.link.store index with
    | (none, store) => sendAck (s.withStore store) hdr idtiAckFail
    | (some chunk, store) =>
        let body := be16Bytes index ++ chunk
        sendData (s.withStore store) hdr body body.length

/-- Store the result event when a transfer is complete. -/
def userbinContinueDone (s : NetSys) (status : AcuUserBinStatus) : NetSys :=
  if status = .complete then
    netStoreEvent s (userbinResultEvent s.link.store) idtiOpmodeNone none
      s.net.doorStatus idtiEventAddrFirstModule 0
  else s

/-- The write direction, up to the result byte. -/
def userbinReceive (s : NetSys) (hdr : IdtiHeader) (pkt : Memory) (isStart : Bool) :
    UInt8 × NetSys :=
  let data := packetData pkt
  if s.link.userbinAttached = false then (idtiAckFail, s)
  else if isStart then
    if hdr.dataLen < 10 then (idtiAckFail, s)
    else
      match userbinStart s.link.store (data.be32At 0) (data.be32At 4) (data.byte 8) with
      | (true, store) => (idtiAckSuccess, s.withStore store)
      | (false, store) => (idtiAckFail, s.withStore store)
  else if hdr.dataLen < 2 then (idtiAckFail, s)
  else
    let chunk := data.read 2 (hdr.dataLen - 2)
    match userbinContinue s.link.store (data.be16At 0) chunk with
    | (status, store) =>
        (if status = .failed then idtiAckFail else idtiAckSuccess,
          userbinContinueDone (s.withStore store) status)

def handleUserbinRequest (s : NetSys) (hdr : IdtiHeader) (pkt : Memory) :
    Option NetSys :=
  let isStart := hdr.object == idtiObjUserbinStart
  if hdr.object ≠ idtiObjUserbinStart ∧ hdr.object ≠ idtiObjUserbinContinue then none
  else if hdr.isRequest idtiCmdReqData idtiSubcmdRead then
    some (handleUserbinSend s hdr pkt isStart)
  else if hdr.isRequest idtiCmdSndData idtiSubcmdWrite = false then none
  else
    let received := userbinReceive s hdr pkt isStart
    some (sendAck received.2 hdr received.1)

/-! ### Single users -/

/-- Replace the roster behind the connection. -/
def NetSys.withUsers (s : NetSys) (users : AcuUsers) : NetSys :=
  s.withStore { s.link.store with users := users }

def usercmdAck : AcuUserCmdStatus → UInt8
  | .ok => idtiAckSuccess
  | .fail => idtiAckFail

def handleUsercmdRequest (s : NetSys) (hdr : IdtiHeader) (pkt : Memory) :
    Option NetSys :=
  let data := packetData pkt
  let users := s.link.store.users
  if usercmdIsUserObject hdr.object = false then none
  else if s.link.usersAttached = false then some (sendAck s hdr idtiAckFail)
  else if hdr.isRequest idtiCmdReqData idtiSubcmdRead then
    match usercmdGet users hdr.object data hdr.dataLen with
    | some body => some (sendData s hdr body body.length)
    | none => some (sendAck s hdr idtiAckFail)
  else if hdr.isRequest idtiCmdSndData idtiSubcmdWrite then
    let result := usercmdSet users data hdr.dataLen
    some (sendAck (s.withUsers result.2) hdr (usercmdAck result.1))
  else if hdr.isRequest idtiCmdSndData idtiSubcmdDelete then
    let result := usercmdDelete users data hdr.dataLen
    some (sendAck (s.withUsers result.2) hdr (usercmdAck result.1))
  else none

/-! ### Forced open -/

/-- Exactly `0x01` opens; everything else, no data included, restores. -/
def forceOpenRequested (hdr : IdtiHeader) (pkt : Memory) : Bool :=
  decide (hdr.dataLen ≥ 1) && (packetData pkt).byte 0 == idtiForceOpenOn

/-- The answer to a query. -/
def forceOpenValue (s : NetSys) : UInt8 :=
  if s.net.forceOpen then idtiForceOpenOn else 0x00

def handleForceOpenRequest (s : NetSys) (hdr : IdtiHeader) (pkt : Memory) :
    Option NetSys :=
  if hdr.object ≠ idtiObjForceOpen then none
  else if hdr.isRequest idtiCmdSndStatus idtiSubcmdChange then
    some (sendAck (netApplyForceOpen s (forceOpenRequested hdr pkt)) hdr idtiAckSuccess)
  else if hdr.isRequest idtiCmdReqData idtiSubcmdRead then
    some (sendData s hdr [forceOpenValue s] 1)
  else none

/-! ### Device settings -/

inductive SettingUnit where
  | controller
  | reader
  | input
  | output
  | controllerOrReader
deriving Repr, Inhabited, DecidableEq

structure SettingSpec where
  object : UInt8
  len : Nat
  unit : SettingUnit
  /-- Zero stores no event. -/
  setOkEvent : UInt32
deriving Repr, Inhabited, DecidableEq

def settingSpecs : List SettingSpec :=
  [⟨idtiObjDevice, idtiDeviceBasisLen, .controller, idtiEventDeviceSetOk⟩,
   ⟨idtiObjController, idtiControllerLen, .controller, 0⟩,
   ⟨idtiObjInput, idtiInputSettingLen, .input, idtiEventInputSetOk⟩,
   ⟨idtiObjOutput, idtiOutputSettingLen, .output, idtiEventOutputSetOk⟩,
   ⟨idtiObjCardReader, idtiCardReaderLen, .reader, idtiEventReaderSetOk⟩,
   ⟨idtiObjAlarm, idtiAlarmLen, .controller, 0⟩,
   ⟨idtiObjAlarmBellSch, idtiAlarmBellSchLen, .controller, 0⟩,
   ⟨idtiObjOpmodeSch, idtiOpmodeSchLen, .controllerOrReader, 0⟩,
   ⟨idtiObjDoormodeSch, idtiDoormodeSchLen, .output, 0⟩]

def findSettingSpec (object : UInt8) : Option SettingSpec :=
  settingSpecs.find? fun spec => spec.object = object

def slotIsReader (slot : Nat) : Bool :=
  slot == 0 || slot == 1

def slotIsInput (slot : Nat) : Bool :=
  (decide (slot ≥ 2) && decide (slot ≤ 7)) || slot == 12 || slot == 13

def slotIsOutput (slot : Nat) : Bool :=
  decide (slot ≥ 8) && decide (slot ≤ 11)

/-- The 32-bit target bitmap of a request. -/
def requestBitmap (hdr : IdtiHeader) : UInt32 :=
  be32 (hdr.destAddr.byte idtiDestBitmapIdx) (hdr.destAddr.byte (idtiDestBitmapIdx + 1))
    (hdr.destAddr.byte (idtiDestBitmapIdx + 2)) (hdr.destAddr.byte (idtiDestBitmapIdx + 3))

def requestModule (hdr : IdtiHeader) : Nat :=
  (hdr.destAddr.byte idtiDestModuleIdx).toNat

/-- The lowest bit that is set; `none` for an empty bitmap. -/
def requestSlot (hdr : IdtiHeader) : Option Nat :=
  (List.range 32).find? fun bit => (requestBitmap hdr).toNat.testBit bit

/-- The unit a request addresses: opmode schedules are kept for the controller
or for a reader. -/
def settingUnit (hdr : IdtiHeader) (spec : SettingSpec) : SettingUnit :=
  if spec.unit = .controllerOrReader then
    if requestModule hdr = 0 ∧ requestBitmap hdr = 0 then .controller else .reader
  else spec.unit

/-- The place a request addresses, if the object can be kept there. -/
def settingKey (net : AcuNet) (hdr : IdtiHeader) (spec : SettingSpec) :
    Option SettingKey :=
  if settingUnit hdr spec = .controller then
    some { object := spec.object, module := 0, slot := 0 }
  else
    match requestSlot hdr with
    | none => none
    | some slot =>
        let module := requestModule hdr
        if module < 1 ∨ module > net.layout.moduleCount then none
        else
          let ok :=
            match settingUnit hdr spec with
            | .reader => slotIsReader slot
            | .input => slotIsInput slot
            | _ => slotIsOutput slot
          if ok then some { object := spec.object, module := module, slot := slot }
          else none

/-- Settings answer with item indices `FF FF`. -/
def settingHeader (hdr : IdtiHeader) : IdtiHeader :=
  { hdr with startItem := 0xFF, endItem := 0xFF }

def sendSettingResponse (s : NetSys) (hdr : IdtiHeader) (data : Bytes) : NetSys :=
  sendBack s (settingHeader hdr) data (BlockIndex.single data.length.toUInt16)

def sendResultAck (s : NetSys) (hdr : IdtiHeader) (result : UInt8) : NetSys :=
  sendAck s (settingHeader hdr) result

def sendFailAck (s : NetSys) (hdr : IdtiHeader) : NetSys :=
  sendResultAck s hdr idtiAckFail

/-- Slot number for events; controller settings have none. -/
def displaySlot (key : SettingKey) : Nat :=
  if key.module = 0 then 0 else key.slot + idtiSlotEventBase

/-- Controller basics have a default before anything was stored. -/
def deviceBasisDefault (net : AcuNet) : Bytes :=
  [net.deviceCategory.toUInt8, net.deviceType.toUInt8, 0x01, 0x05, 0xFF] ++
    List.replicate (idtiDeviceBasisLen - 5) 0

/-- The block that is stored for a place. -/
def settingStored (s : NetSys) (spec : SettingSpec) (key : SettingKey) : Lookup Bytes :=
  if s.net.settingsAttached then devsetGet s.settings key spec.len else .error

def handleSettingRead (s : NetSys) (hdr : IdtiHeader) : Option NetSys :=
  if hdr.isRequest idtiCmdReqData idtiSubcmdRead = false then none
  else
    match findSettingSpec hdr.object with
    | none => none
    | some spec =>
        match settingKey s.net hdr spec with
        | none => some (sendFailAck s hdr)
        | some key =>
            match settingStored s spec key with
            | .found data => some (sendSettingResponse s hdr data)
            | _ =>
                if spec.object = idtiObjDevice then
                  some (sendSettingResponse s hdr (deviceBasisDefault s.net))
                else some (sendFailAck s hdr)

/-- Store the block of a write request; the key tells where it went. -/
def settingStore (s : NetSys) (hdr : IdtiHeader) (pkt : Memory) (spec : SettingSpec) :
    Option SettingKey × NetSys :=
  if hdr.dataLen < spec.len then (none, s)
  else
    match settingKey s.net hdr spec with
    | none => (none, s)
    | some key =>
        if s.net.settingsAttached then
          match devsetPut s.settings key ((packetData pkt).read 0 spec.len) with
          | (true, settings) => (some key, { s with settings := settings })
          | (false, settings) => (none, { s with settings := settings })
        else (none, s)

/-- The success event, where the object has one. -/
def settingEvent (s : NetSys) (spec : SettingSpec) (key : SettingKey) : NetSys :=
  if spec.setOkEvent = 0 then s
  else netPushSystemEvent s spec.setOkEvent key.module (displaySlot key)

/-- The callback into the runtime. -/
def settingChanged (s : NetSys) (hdr : IdtiHeader) : NetSys :=
  if s.net.onSettingChanged then
    { s with panel := onSettingChanged s.settings s.panel hdr.object }
  else s

/-- The result is answered before the event and the callback. -/
def handleSettingWrite (s : NetSys) (hdr : IdtiHeader) (pkt : Memory) :
    Option NetSys :=
  if hdr.isRequest idtiCmdSndData idtiSubcmdChange = false then none
  else
    match findSettingSpec hdr.object with
    | none => none
    | some spec =>
        match settingStore s hdr pkt spec with
        | (none, refused) => some (sendResultAck refused hdr idtiAckFail)
        | (some key, stored) =>
            let answered := sendResultAck stored hdr idtiAckSuccess
            some (settingChanged (settingEvent answered spec key) hdr)

/-! ### The event store -/

/-- Number of events that polls can still fetch, in 36 bytes. -/
def eventCountBody (s : NetSys) : Bytes :=
  let pending := if s.net.eventsAttached then eventsPending s.events else 0
  be32Bytes (max pending 0).toNat.toUInt32 ++ List.replicate (idtiEventCountLen - 4) 0

/-- Only type 3, from a given time, moves the position. -/
def eventIndexChange (s : NetSys) (hdr : IdtiHeader) (pkt : Memory) :
    UInt8 × NetSys :=
  let data := packetData pkt
  if hdr.dataLen ≥ idtiEventIndexLen ∧
      data.byte idtiEventIndexOffType = idtiEventIndexTypeFromTime ∧
      s.net.eventsAttached then
    let start := data.advance idtiEventIndexOffStart
    match (bcdFieldsToTm (start.byte 0) (start.byte 1) (start.byte 2) (start.byte 3)
        (start.byte 4) (start.byte 5)).bind s.clock.mktime with
    | none => (idtiAckFail, s)
    | some since =>
        match eventsRewindToTime s.events since with
        | (some _, events) => (idtiAckSuccess, { s with events := events })
        | (none, events) => (idtiAckFail, { s with events := events })
  else (idtiAckFail, s)

def eventReset (s : NetSys) : UInt8 × NetSys :=
  if s.net.eventsAttached then
    match eventsMarkAllSent s.events with
    | (true, events) => (idtiAckSuccess, { s with events := events })
    | (false, events) => (idtiAckFail, { s with events := events })
  else (idtiAckFail, s)

def handleEventStoreRequest (s : NetSys) (hdr : IdtiHeader) (pkt : Memory) :
    Option NetSys :=
  if hdr.isRequest idtiCmdReqData idtiSubcmdRead && hdr.object == idtiObjHistoryCount then
    some (sendBack s { hdr with frameIndex := 0, startItem := 0, endItem := 0 }
      (eventCountBody s) { start := 0, last := 0, count := 0, oneLen := 0 })
  else if hdr.isRequest idtiCmdSndStatus idtiSubcmdChange &&
      hdr.object == idtiObjHistoryIndex then
    let changed := eventIndexChange s hdr pkt
    some (sendAck changed.2 hdr changed.1)
  else if hdr.isRequest idtiCmdSndStatus idtiSubcmdInit && hdr.object == idtiObjHistory then
    let reset := eventReset s
    some (sendAck reset.2 hdr reset.1)
  else none

/-! ### Dispatch -/

/-- The clock is set before the answer, which carries the time. -/
def requestTimeSync (s : NetSys) (hdr : IdtiHeader) (pkt : Memory) : NetSys :=
  if hdr.hasOption idtiFoptTimeSync then applyTimeSync s (packetData pkt) hdr.dataLen
  else s

/-- The handlers that may decline a request, in the order they are tried. -/
def claimRequest (s : NetSys) (hdr : IdtiHeader) (pkt : Memory) : Option NetSys :=
  handleUserbinRequest s hdr pkt <|> handleUsercmdRequest s hdr pkt <|>
    handleForceOpenRequest s hdr pkt <|> handleSettingRead s hdr <|>
    handleSettingWrite s hdr pkt <|> handleEventStoreRequest s hdr pkt <|>
    handleLcdRequest s hdr

def handleRequest (s : NetSys) (hdr : IdtiHeader) (pkt : Memory) : NetSys :=
  let synced := requestTimeSync s hdr pkt
  if hdr.isRequest idtiCmdReqData idtiSubcmdRead && hdr.object == idtiObjHistory then
    handleHistoryRequest synced hdr
  else if hdr.isRequest idtiCmdReqStatus idtiSubcmdRead &&
      hdr.object == idtiObjFirmware then
    handleFirmwareRequest synced hdr
  else
    match claimRequest synced hdr pkt with
    | some handled => handled
    | none => sendAck synced hdr idtiAckFail

end Acud
