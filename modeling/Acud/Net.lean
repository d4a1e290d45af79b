/-
Module: Acud.Net
Purpose: The network unit's state, its responses and the events it stores.
Trusted boundary: none
Main exports:
  AcuModuleLayout, AcuNet, NetSys, sendResponse, sendAck, netStoreEvent,
  netPushEvent, netPushSystemEvent, netApplyForceOpen, applyTimeSync
-/
import Acud.Access
import Acud.Events
import Acud.Link
import Acud.Panel

namespace Acud

open Lib

/-!
`NetSys` is everything a request handler can reach: the connection (`link`),
the stores, the hardware behind the callbacks, the clock, and the remaining
fields of `AcuNet`.  Pointers that may be NULL are flags beside what they point
to; the objects themselves outlive the network unit.

The scratch buffers of `AcuNet` hold one response while it is built and are not
read afterwards, so responses are byte lists here.

[SRC src/acud/net.h, src/acud/net.c]
-/

/-- The I/O configuration reported to the upper system. -/
structure AcuModuleLayout where
  moduleCount : Nat
  readers : Nat
  inputs : Nat
  outputs : Nat
  alarmFireInputs : Nat
  moduleType : Nat
  installType : Nat
deriving Repr, Inhabited, DecidableEq

/-- The fields of `AcuNet` other than the connection. -/
structure AcuNet where
  doorStatus : UInt8
  eventsAttached : Bool
  eventBatch : Int
  lastBatchFirstSeq : Int
  forceOpen : Bool
  onForceOpen : Bool
  settingsAttached : Bool
  onSettingChanged : Bool
  inactivitySeconds : Int
  deviceCategory : Nat
  deviceType : Nat
  timeSyncEnabled : Bool
  layout : AcuModuleLayout
deriving Repr, Inhabited, DecidableEq

/-- What `net_init` leaves after `calloc`. -/
def AcuNet.initial : AcuNet :=
  { doorStatus := idtiDoorStatusNone
    eventsAttached := false
    eventBatch := 0
    lastBatchFirstSeq := 0
    forceOpen := false
    onForceOpen := false
    settingsAttached := false
    onSettingChanged := false
    inactivitySeconds := 0
    deviceCategory := idtiDeviceCategoryDefault
    deviceType := idtiDeviceTypeDefault
    timeSyncEnabled := false
    layout := default }

structure NetSys where
  link : Link
  net : AcuNet
  events : AcuEvents
  settings : SettingsDb
  panel : Panel
  clock : Clock

/-- The batch size of a response, held between one and the maximum. -/
def netSetEventStore (net : AcuNet) (batchSize : Int) : AcuNet :=
  let size := if batchSize ≤ 0 then netEventBatchDefault else batchSize
  { net with
    eventsAttached := true
    eventBatch := if size > netEventBatchMax then netEventBatchMax else size }

/-! ### Payloads -/

/-- Year of the century to second, two BCD digits each. -/
def bcdTime (tm : Tm) : Bytes :=
  [(tm.year + 1900).tmod 100, tm.mon + 1, tm.mday, tm.hour, tm.min, tm.sec].map idtiToBcd

/-- I/O types of the slots of one module: readers, inputs, outputs and then the
alarm and fire inputs, as far as there are slots. -/
def slotTypes (layout : AcuModuleLayout) : List UInt8 :=
  (List.replicate layout.readers idtiIotypeProximityReader ++
    List.replicate layout.inputs idtiIotypeInputSensor ++
    List.replicate layout.outputs idtiIotypeOutputRelay ++
    List.replicate layout.alarmFireInputs idtiIotypeInputSensor).take idtiModuleIoSlots

def moduleEntry (layout : AcuModuleLayout) : Bytes :=
  [layout.moduleType.toUInt8, layout.installType.toUInt8] ++
    (slotTypes layout).map (fun ioType : UInt8 => (ioType <<< 4) ||| idtiIostatusInactive) ++
    List.replicate (idtiModuleIoSlots - (slotTypes layout).length) 0

/-- Existence bits and module entries of a device status. -/
def fillModules (layout : AcuModuleLayout) : Bytes :=
  let count := min layout.moduleCount idtiModuleCountV2
  be16Bytes (2 ^ count - 1).toUInt16 ++
    (List.replicate count (moduleEntry layout)).flatten ++
    List.replicate ((idtiModuleCountV2 - count) * idtiModuleEntryLen) 0

def buildDeviceStatus (net : AcuNet) (clock : Clock) : Bytes :=
  [net.deviceCategory.toUInt8, net.deviceType.toUInt8] ++
    bcdTime (clock.localtime clock.now) ++ fillModules net.layout

def buildFirmwareInfo (net : AcuNet) : Bytes :=
  [net.deviceCategory.toUInt8, net.deviceType.toUInt8, 1, 0, 0, 0] ++
    [26, 9, 8, 0, 0, 0].map idtiToBcd ++ List.replicate 256 0

def buildEventInfo (clock : Clock) (event : AcuEvent) : Bytes :=
  be32Bytes event.eventCode ++
    [event.opMode, 0x00, event.moduleAddr, event.readerAddr, event.doorStatus,
      event.funcCode] ++
    bcdTime (clock.localtime event.ts) ++ event.id.bytes ++
    [0x00, 0x00, 0x00, 0x01] ++ List.replicate 8 0

/-! ### Responses -/

/-- The data block indices of a response. -/
structure BlockIndex where
  start : UInt16
  last : UInt16
  count : UInt16
  oneLen : UInt16

/-- One block with one unit of `len` bytes. -/
def BlockIndex.single (len : UInt16) : BlockIndex :=
  { start := 1
    last := 1
    count := 1
    oneLen := len }

/-- The payload: device status, unless the request excludes it, then the data. -/
def responsePayload (s : NetSys) (hdr : IdtiHeader) (data : Bytes) : Bytes :=
  (if hdr.hasOption idtiFoptExcludeDeviceStatus then []
    else buildDeviceStatus s.net s.clock) ++ data

/-- Blocking and TCP are returned as requested; so is ExcludeDeviceStatus. -/
def responseOption (hdr : IdtiHeader) : UInt16 :=
  let option := hdr.frameOption &&& (idtiFoptBlocking ||| idtiFoptTcp)
  if hdr.hasOption idtiFoptExcludeDeviceStatus then
    option ||| idtiFoptExcludeDeviceStatus
  else option

/-- The source address of the request, as the first bytes of a destination. -/
def responseDest (hdr : IdtiHeader) : Blob idtiAddrDestLen :=
  { bytes := hdr.srcAddr.bytes ++ List.replicate 3 0
    length_eq := by
      rw [List.length_append, hdr.srcAddr.length_eq, List.length_replicate]
      rfl }

def responsePacket (s : NetSys) (hdr : IdtiHeader) (command subCommand object : UInt8)
    (data : Bytes) (block : BlockIndex) : IdtiPacket :=
  { destAddr := responseDest hdr
    srcAddr := ⟨[0x01, 0x01, 0x01, 0x01, 0x01], rfl⟩
    frameOption := responseOption hdr
    frameIndex := hdr.frameIndex
    password := hdr.password
    command := command
    subCommand := subCommand
    object := object
    startItem := hdr.startItem
    endItem := hdr.endItem
    dataCurrent := block.start
    dataEnd := block.last
    dataTotal := block.count
    dataOneLen := block.oneLen
    data := responsePayload s hdr data }

/-- The bytes of a response; `none` when the data or the packet is too long. -/
def responseBytes (s : NetSys) (hdr : IdtiHeader) (command subCommand object : UInt8)
    (data : Bytes) (block : BlockIndex) : Option Bytes :=
  if data.length > netPayloadCap - idtiDeviceStatusV2Len then none
  else idtiBuildPacket netRespBufCap (responsePacket s hdr command subCommand object data block)

/-- Build one response and queue it; `true` is the source's `0`. -/
def sendResponse (s : NetSys) (hdr : IdtiHeader) (command subCommand object : UInt8)
    (data : Bytes) (block : BlockIndex) : Bool × NetSys :=
  match responseBytes s hdr command subCommand object data block with
  | none => (false, s)
  | some out =>
      ((netQueueSend s.link out).1, { s with link := (netQueueSend s.link out).2 })

/-- A response that returns the request's command, with data in one block. -/
def sendBack (s : NetSys) (hdr : IdtiHeader) (data : Bytes) (block : BlockIndex) : NetSys :=
  (sendResponse s hdr hdr.command hdr.subCommand hdr.object data block).2

/-- A one-byte result. -/
def sendAck (s : NetSys) (hdr : IdtiHeader) (ack : UInt8) : NetSys :=
  sendBack s hdr [ack] (BlockIndex.single 1)

/-- A response to a data request (command 5 for command 6). -/
def sendData (s : NetSys) (hdr : IdtiHeader) (data : Bytes) (oneLen : Nat) : NetSys :=
  (sendResponse s hdr idtiCmdSndData idtiSubcmdRead hdr.object data
    (BlockIndex.single oneLen.toUInt16)).2

/-! ### Events -/

def eventCodeForResult : AccessResult → UInt32
  | .granted => idtiEventAccessAuthByCard
  | .deniedDisabled => idtiEventAccessDeniedNotEnabled
  | .deniedTimezone => idtiEventAccessDeniedByTime
  | .deniedNotFound | .deniedValidation | .deniedDbError => idtiEventAccessDeniedByCard

/-- Store one event; without a store it is only logged. -/
def netStoreEvent (s : NetSys) (eventCode : UInt32) (opMode : UInt8)
    (accessId : Option (Blob 8)) (doorStatus : UInt8)
    (moduleAddr readerAddr : Nat) : NetSys :=
  if s.net.eventsAttached then
    { s with
      events :=
        (eventsAppend s.events
          { seq := 0
            eventCode := eventCode
            opMode := opMode
            moduleAddr := moduleAddr.toUInt8
            readerAddr := readerAddr.toUInt8
            doorStatus := doorStatus
            funcCode := idtiFuncNone
            ts := s.clock.now
            id := accessId.getD (Blob.zeros 8) }).2 }
  else s

/-- The event of an access decision; a database error is not reported. -/
def netPushEvent (s : NetSys) (result : AccessResult) (accessId : Blob 8)
    (doorStatus : UInt8) (moduleAddr readerAddr : Nat) : NetSys :=
  if result = .deniedDbError then s
  else
    netStoreEvent s (eventCodeForResult result) idtiOpmodeCard (some accessId)
      doorStatus moduleAddr readerAddr

/-- An event of the device itself. -/
def netPushSystemEvent (s : NetSys) (eventCode : UInt32)
    (moduleAddr readerAddr : Nat) : NetSys :=
  netStoreEvent s eventCode idtiOpmodeNone none s.net.doorStatus moduleAddr readerAddr

/-! ### Forced open and time -/

def netForceOpenState (s : NetSys) : Bool :=
  s.net.forceOpen

/-- Change the forced-open state; nothing happens when it is the same. -/
def netApplyForceOpen (s : NetSys) (on : Bool) : NetSys :=
  if s.net.forceOpen = on then s
  else
    let told := if s.net.onForceOpen then onForceOpenChanged s.panel on else s.panel
    netPushSystemEvent
      { s with
        net := { s.net with forceOpen := on }
        panel := told }
      (if on then idtiEventDoorForcedOpen else idtiEventDoorNormal)
      idtiEventAddrFirstModule idtiEventAddrNone

/-- BCD fields to a local time; `none` when a field is out of range. -/
def bcdFieldsToTm (yy mo dd hh mi ss : UInt8) : Option Tm := do
  let yy ← idtiFromBcd yy
  let mo ← idtiFromBcd mo
  let dd ← idtiFromBcd dd
  let hh ← idtiFromBcd hh
  let mi ← idtiFromBcd mi
  let ss ← idtiFromBcd ss
  if mo < 1 ∨ mo > 12 ∨ dd < 1 ∨ dd > 31 ∨ hh > 23 ∨ mi > 59 ∨ ss > 59 then none
  else
    some
      { year := 2000 + yy - 1900
        mon := (mo : Int) - 1
        mday := dd
        hour := hh
        min := mi
        sec := ss
        wday := 0 }

def netTimeSyncMinDriftSec : Int := 2

/-- Set the clock from a request; the fourth byte is the weekday. -/
def applyTimeSync (s : NetSys) (data : Memory) (dataLen : Nat) : NetSys :=
  if s.net.timeSyncEnabled = false ∨ dataLen < idtiTimeSyncLen then s
  else
    match (bcdFieldsToTm (data.byte 0) (data.byte 1) (data.byte 2) (data.byte 4)
        (data.byte 5) (data.byte 6)).bind s.clock.mktime with
    | none => s
    | some want =>
        let drift := want - s.clock.now
        if drift > -netTimeSyncMinDriftSec ∧ drift < netTimeSyncMinDriftSec then s
        else if s.clock.settable then { s with clock := { s.clock with now := want } }
        else s

/-! ### What responses and events leave alone -/

/-- A response only touches the link. -/
theorem sendResponse_eq (s : NetSys) (hdr : IdtiHeader)
    (command subCommand object : UInt8) (data : Bytes) (block : BlockIndex) :
    (sendResponse s hdr command subCommand object data block).2 =
      { s with
        link := (sendResponse s hdr command subCommand object data block).2.link } := by
  unfold sendResponse
  split
  next => rfl
  next => rfl

/-- A response is at most one reply on the send queue. -/
theorem sendResponse_link (s : NetSys) (hdr : IdtiHeader)
    (command subCommand object : UInt8) (data : Bytes) (block : BlockIndex) :
    LinkEffect s.link
      (sendResponse s hdr command subCommand object data block).2.link := by
  unfold sendResponse
  split
  next => exact LinkEffect.refl _
  next => exact LinkEffect.queued _ _

/-- A stored event only touches the event store. -/
theorem netStoreEvent_eq (s : NetSys) (eventCode : UInt32) (opMode : UInt8)
    (accessId : Option (Blob 8)) (doorStatus : UInt8) (moduleAddr readerAddr : Nat) :
    netStoreEvent s eventCode opMode accessId doorStatus moduleAddr readerAddr =
      { s with
        events :=
          (netStoreEvent s eventCode opMode accessId doorStatus moduleAddr
            readerAddr).events } := by
  unfold netStoreEvent
  split <;> rfl

/-- Time synchronization only touches the clock. -/
theorem applyTimeSync_eq (s : NetSys) (data : Memory) (dataLen : Nat) :
    applyTimeSync s data dataLen =
      { s with clock := (applyTimeSync s data dataLen).clock } := by
  unfold applyTimeSync
  split
  next => rfl
  next =>
    split
    next => rfl
    next =>
      simp only
      split
      next => rfl
      next => split <;> rfl

end Acud
