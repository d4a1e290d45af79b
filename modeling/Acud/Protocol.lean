/-
Module: Acud.Protocol
Purpose: IDTi protocol V2 frames: constants, header parser and packet builder.
Trusted boundary: none
Main exports:
  IdtiHeader, idtiHeaderParse, IdtiPacket, idtiBuildPacket, idtiToBcd, idtiFromBcd
-/
import Acud.Lib.Memory
import Mathlib.Tactic.Common

namespace Acud

open Lib

/-!
A frame is a 44-byte header, `data_len` bytes of data and a tail of two bytes
(four when the CheckPacket option is set).  Multi-byte fields are big-endian.
The header checksum is the XOR of the bytes from STX to the sub command.

[SRC src/acud/protocol.h, src/acud/protocol.c]
-/

def idtiStx : UInt8 := 0x02
def idtiEtx : UInt8 := 0x03
def idtiPacketChecksumFixed : UInt8 := 0x08
def idtiProtocolVersionV2 : UInt8 := 2
def idtiHeaderLenV2 : Nat := 44
def idtiAddrDestLen : Nat := 8
def idtiAddrSrcLen : Nat := 5

/-! ### Frame options -/

def idtiFoptRequestAck : UInt16 := 0x8000
def idtiFoptBlocking : UInt16 := 0x0800
def idtiFoptExcludeDeviceStatus : UInt16 := 0x0080
def idtiFoptTimeSync : UInt16 := 0x0040
def idtiFoptReRequestEvent : UInt16 := 0x0020
def idtiFoptCheckPacket : UInt16 := 0x0010
def idtiFoptTcp : UInt16 := 0x0001

/-! ### Commands, sub commands and objects -/

def idtiCmdSndStatus : UInt8 := 0x03
def idtiCmdReqStatus : UInt8 := 0x04
def idtiCmdSndData : UInt8 := 0x05
def idtiCmdReqData : UInt8 := 0x06

def idtiSubcmdRead : UInt8 := 0x02
def idtiSubcmdWrite : UInt8 := 0x03
def idtiSubcmdDelete : UInt8 := 0x04
def idtiSubcmdChange : UInt8 := 0x05
def idtiSubcmdInit : UInt8 := 0x06

def idtiObjHistory : UInt8 := 0x01
def idtiObjHistoryCount : UInt8 := 0x05
def idtiObjHistoryIndex : UInt8 := 0x06
def idtiObjUserAll : UInt8 := 0x15
def idtiObjUserInfo : UInt8 := 0x16
def idtiObjUserCard : UInt8 := 0x17
def idtiObjUserFinger : UInt8 := 0x18
def idtiObjUserRestrict : UInt8 := 0x20
def idtiObjUserData : UInt8 := 0x21
def idtiObjUserDataFgr : UInt8 := 0x22
def idtiObjUserImage : UInt8 := 0x23
def idtiObjDevice : UInt8 := 0x29
def idtiObjFirmware : UInt8 := 0x2A
def idtiObjController : UInt8 := 0x2B
def idtiObjInput : UInt8 := 0x2C
def idtiObjOutput : UInt8 := 0x2D
def idtiObjCardReader : UInt8 := 0x2F
def idtiObjLcdControl : UInt8 := 0x31
def idtiObjAlarm : UInt8 := 0x51
def idtiObjAlarmBellSch : UInt8 := 0x52
def idtiObjOpmodeSch : UInt8 := 0x53
def idtiObjDoormodeSch : UInt8 := 0x54
def idtiObjMultiLanguage : UInt8 := 0xA5
def idtiObjForceOpen : UInt8 := 0xCE
def idtiObjUserbinStart : UInt8 := 0xD0
def idtiObjUserbinContinue : UInt8 := 0xD1

def idtiAckSuccess : UInt8 := 0x01
def idtiAckFail : UInt8 := 0x02
def idtiForceOpenOn : UInt8 := 0x01
def idtiLanguageEnglish : UInt8 := 1
def idtiLcdBacklightDefault : UInt8 := 1
def idtiLcdDateformatYyyymmdd : UInt8 := 1
def idtiLcdInfoLen : Nat := 40

/-! ### Device settings -/

def idtiDeviceBasisLen : Nat := 13
def idtiControllerLen : Nat := 24
def idtiInputSettingLen : Nat := 21
def idtiOutputSettingLen : Nat := 14
def idtiCardReaderLen : Nat := 32
def idtiAlarmLen : Nat := 21
def idtiAlarmBellSchLen : Nat := 16
def idtiOpmodeSchLen : Nat := 7
def idtiDoormodeSchLen : Nat := 7

def idtiOutputOffActiveType : Nat := 6
def idtiOutputOffActiveOption : Nat := 10
def idtiOutputActiveTypeAlarm : UInt8 := 2
def idtiOutputOptionByFire : UInt8 := 0x80

/-- Slot numbers in events count from one, bits of the bitmap from zero. -/
def idtiSlotEventBase : Nat := 1
def idtiDestModuleIdx : Nat := 3
def idtiDestBitmapIdx : Nat := 4

/-! ### User data -/

def idtiUserdataLen : Nat := 112
def idtiUserdataOffName : Nat := 32
def idtiUserdataOffCard : Nat := 48
def idtiUserdataLenCard : Nat := 32
def idtiUserdataOffRestrict : Nat := 80
def idtiUserdataLenRestrict : Nat := 16
def idtiUserdataOffGroup : Nat := 96

def idtiUserinfoLen : Nat := 32
def idtiUserinfoOffId : Nat := 0
def idtiUserinfoOffGengroup : Nat := 8
def idtiUserinfoOffReserved : Nat := 9
def idtiUserinfoOffRevision : Nat := 10
def idtiUserinfoOffOption : Nat := 12
def idtiUserinfoOffLevel : Nat := 16
def idtiUserinfoOffValidation : Nat := 17
def idtiUserinfoOffTimezone : Nat := 19
def idtiUserinfoOffExpired : Nat := 21
def idtiUserinfoOffProxtype : Nat := 24
def idtiUserinfoOffProxwieg : Nat := 25
def idtiUserinfoOffBiotype : Nat := 26
def idtiUserinfoOffBiosub : Nat := 27
def idtiUserinfoOffTmplcount : Nat := 28
def idtiUserinfoOffPassword : Nat := 29
def idtiUserinfoOffCanteen : Nat := 31

def idtiUserbinObjInfo : UInt8 := 0x01
def idtiUserbinObjInfoFinger : UInt8 := 0x02
def idtiUserbinRecInfoLen : Nat := 128
def idtiUserbinRecInfoFingerLen : Nat := 1808
def idtiUserbinOffUser : Nat := 8
def idtiUserbinOffCard : Nat := 40
def idtiUserbinOffName : Nat := 52
def idtiUserbinOffRestrict : Nat := 68
def idtiUserbinOffGroup : Nat := 76
def idtiUserbinOffCrcCalc : Nat := 126
def idtiUserbinOffDatacrc : Nat := 127

/-! ### Device status and firmware -/

def idtiDeviceCategoryDefault : Nat := 3
def idtiDeviceTypeDefault : Nat := 33
def idtiFirmwareInfoLen : Nat := 268
def idtiDeviceStatusV2Len : Nat := 234
def idtiModuleCountV2 : Nat := 14
def idtiModuleEntryLen : Nat := 16
def idtiModuleIoSlots : Nat := 14
def idtiModuleArrayOffset : Nat := 10
def idtiIotypeProximityReader : UInt8 := 2
def idtiIotypeInputSensor : UInt8 := 3
def idtiIotypeOutputRelay : UInt8 := 4
def idtiIostatusInactive : UInt8 := 2
def idtiModuleTypeSsc324 : Nat := 61
def idtiModuleInstallInternal : Nat := 1
def idtiModuleDefaultCount : Nat := 2
def idtiModuleDefaultReaders : Nat := 2
def idtiModuleDefaultInputs : Nat := 6
def idtiModuleDefaultOutputs : Nat := 4
def idtiModuleDefaultAlarmFireInputs : Nat := 2

/-! ### Event codes and event fields -/

def idtiEventAccessAuthByCard : UInt32 := 0x01010102
def idtiEventAccessDeniedByCard : UInt32 := 0x01020102
def idtiEventAccessDeniedNotEnabled : UInt32 := 0x01020108
def idtiEventAccessDeniedByTime : UInt32 := 0x01020109
def idtiEventDoorForcedOpen : UInt32 := 0x18010119
def idtiEventDoorNormal : UInt32 := 0x1801011A
def idtiEventAlarmDetected : UInt32 := 0x18010306
def idtiEventAlarmRestored : UInt32 := 0x18010307
def idtiEventFireDetected : UInt32 := 0x18010401
def idtiEventFireRestored : UInt32 := 0x18010402
def idtiEventHwNoResponse : UInt32 := 0x20030102
def idtiEventInputSetOk : UInt32 := 0x10210301
def idtiEventOutputSetOk : UInt32 := 0x10220301
def idtiEventDeviceSetOk : UInt32 := 0x101F0301
def idtiEventReaderSetOk : UInt32 := 0x10230301
def idtiEventUserfilePartial : UInt32 := 0x101D0101
def idtiEventUserfileSuccess : UInt32 := 0x101D0102
def idtiEventUserfileFail : UInt32 := 0x101D0103

def idtiEventAddrFirstModule : Nat := 1
def idtiEventAddrFirstReader : Nat := 1
def idtiEventAddrAlarmReader : Nat := 13
def idtiEventAddrNone : Nat := 0

def idtiOpmodeCard : UInt8 := 0x02
def idtiOpmodeNone : UInt8 := 0x00
def idtiFuncNone : UInt8 := 0xFF

def idtiDoorStatusNone : UInt8 := 0x00
def idtiDoorStatusOpen : UInt8 := 0x01
def idtiDoorStatusClosed : UInt8 := 0x02

/-- One event without the Blocking option, at most a hundred with it. -/
def idtiEventNonblockingMax : Int := 1
def idtiEventBlockingMax : Int := 100
def idtiEventInfoLen : Nat := 36
def idtiEventCountLen : Nat := 36
def idtiEventIndexLen : Nat := 36
def idtiEventIndexOffType : Nat := 1
def idtiEventIndexOffStart : Nat := 6
def idtiEventIndexTypeFromTime : UInt8 := 3
def idtiTimeSyncLen : Nat := 7

/-! ### Header -/

/-- The fields of a parsed request header that the daemon keeps. -/
structure IdtiHeader where
  packetLength : UInt16
  protocolVersion : UInt8
  frameOption : UInt16
  destAddr : Blob idtiAddrDestLen
  srcAddr : Blob idtiAddrSrcLen
  frameIndex : UInt32
  password : UInt32
  command : UInt8
  subCommand : UInt8
  object : UInt8
  startItem : UInt8
  endItem : UInt8
  dataBlockCurrent : UInt16
  dataBlockEnd : UInt16
  dataBlockTotal : UInt16
  dataBlockOneLen : UInt16
  dataLen : Nat

/-- The option bits of `mask` that a frame carries. -/
def IdtiHeader.hasOption (header : IdtiHeader) (mask : UInt16) : Bool :=
  header.frameOption &&& mask != 0

/-- XOR of a run of bytes. -/
def xorBytes (bytes : Bytes) : UInt8 :=
  bytes.foldl (· ^^^ ·) 0

/-- Tail length: four bytes with CheckBytes, otherwise two. -/
def idtiTailLen (frameOption : UInt16) : Nat :=
  if frameOption &&& idtiFoptCheckPacket != 0 then 4 else 2

/-- Parse the header at `buf` when `len` bytes are said to be there. -/
def idtiHeaderParse (buf : Memory) (len : Nat) : Option IdtiHeader :=
  let packetLength := buf.be16At 1
  let frameOption := buf.be16At 4
  let tailLen := idtiTailLen frameOption
  if len < idtiHeaderLenV2 then none
  else if buf.byte 0 ≠ idtiStx then none
  else if (buf.byte 6).toNat ≠ idtiHeaderLenV2 then none
  else if xorBytes (buf.read 0 31) ≠ buf.byte 31 then none
  else if packetLength.toNat < idtiHeaderLenV2 + tailLen then none
  else
    some
      { packetLength := packetLength
        protocolVersion := buf.byte 3
        frameOption := frameOption
        destAddr := Blob.ofMemory buf 7 idtiAddrDestLen
        srcAddr := Blob.ofMemory buf 15 idtiAddrSrcLen
        frameIndex := buf.be32At 20
        password := buf.be32At 24
        command := buf.byte 29
        subCommand := buf.byte 30
        object := buf.byte 33
        startItem := buf.byte 34
        endItem := buf.byte 35
        dataBlockCurrent := buf.be16At 36
        dataBlockEnd := buf.be16At 38
        dataBlockTotal := buf.be16At 40
        dataBlockOneLen := buf.be16At 42
        dataLen := packetLength.toNat - idtiHeaderLenV2 - tailLen }

/-- An accepted frame is long enough for its header and tail. -/
theorem idtiHeaderParse_packetLength {buf : Memory} {len : Nat}
    {header : IdtiHeader} (parsed : idtiHeaderParse buf len = some header) :
    idtiHeaderLenV2 + idtiTailLen header.frameOption ≤
      header.packetLength.toNat := by
  unfold idtiHeaderParse at parsed
  simp only at parsed
  repeat' split at parsed
  all_goals cases parsed
  next longEnough => exact Nat.le_of_not_lt longEnough

theorem two_le_idtiTailLen (frameOption : UInt16) : 2 ≤ idtiTailLen frameOption := by
  unfold idtiTailLen
  split <;> omega

/-- Every accepted frame takes at least 46 bytes of the receive buffer. -/
theorem idtiHeaderParse_packetLength_ge {buf : Memory} {len : Nat}
    {header : IdtiHeader} (parsed : idtiHeaderParse buf len = some header) :
    46 ≤ header.packetLength.toNat := by
  have bound := idtiHeaderParse_packetLength parsed
  have tail := two_le_idtiTailLen header.frameOption
  unfold idtiHeaderLenV2 at bound
  omega

/-- The parser reads the 44 bytes of the header and nothing behind them. -/
theorem idtiHeaderParse_congr {first second : Memory} {firstLen secondLen : Nat}
    (agree : ∀ index, index < idtiHeaderLenV2 → first.byte index = second.byte index)
    (firstLong : idtiHeaderLenV2 ≤ firstLen) (secondLong : idtiHeaderLenV2 ≤ secondLen) :
    idtiHeaderParse first firstLen = idtiHeaderParse second secondLen := by
  have read : ∀ offset length, offset + length ≤ idtiHeaderLenV2 →
      first.read offset length = second.read offset length := by
    intro offset length inside
    apply Memory.read_congr
    intro index below
    exact agree (offset + index) (by omega)
  have blob : ∀ offset size, offset + size ≤ idtiHeaderLenV2 →
      Blob.ofMemory first offset size = Blob.ofMemory second offset size := by
    intro offset size inside
    exact Blob.ext (read offset size inside)
  have be16 : ∀ offset, offset + 1 < idtiHeaderLenV2 →
      first.be16At offset = second.be16At offset := by
    intro offset inside
    rw [Memory.be16At, agree offset (by omega), agree (offset + 1) inside, Memory.be16At]
  have be32 : ∀ offset, offset + 3 < idtiHeaderLenV2 →
      first.be32At offset = second.be32At offset := by
    intro offset inside
    rw [Memory.be32At, agree offset (by omega), agree (offset + 1) (by omega),
      agree (offset + 2) (by omega), agree (offset + 3) inside, Memory.be32At]
  unfold idtiHeaderParse
  simp (disch := decide) only [agree, read, blob, be16, be32, Nat.not_lt.mpr firstLong,
    Nat.not_lt.mpr secondLong]

/-! ### Packets -/

/-- The arguments of `idti_build_packet` other than the output buffer. -/
structure IdtiPacket where
  destAddr : Blob idtiAddrDestLen
  srcAddr : Blob idtiAddrSrcLen
  frameOption : UInt16
  frameIndex : UInt32
  password : UInt32
  command : UInt8
  subCommand : UInt8
  object : UInt8
  startItem : UInt8
  endItem : UInt8
  dataCurrent : UInt16
  dataEnd : UInt16
  dataTotal : UInt16
  dataOneLen : UInt16
  data : Bytes

/-- RequestAck is always set and CheckPacket always cleared: the tail that is
built has no CheckBytes. -/
def IdtiPacket.sentOption (packet : IdtiPacket) : UInt16 :=
  (packet.frameOption ||| idtiFoptRequestAck) &&& ~~~idtiFoptCheckPacket

def IdtiPacket.totalLen (packet : IdtiPacket) : Nat :=
  idtiHeaderLenV2 + packet.data.length + 2

/-- STX to sub command, the bytes under the header checksum. -/
def IdtiPacket.checked (packet : IdtiPacket) : Bytes :=
  [idtiStx] ++ be16Bytes packet.totalLen.toUInt16 ++ [idtiProtocolVersionV2] ++
    be16Bytes packet.sentOption ++ [idtiHeaderLenV2.toUInt8] ++
    packet.destAddr.bytes ++ packet.srcAddr.bytes ++
    be32Bytes packet.frameIndex ++ be32Bytes packet.password ++
    [0x00, packet.command, packet.subCommand]

/-- Header, data and a two-byte tail, or nothing when they do not fit. -/
def idtiBuildPacket (outCap : Nat) (packet : IdtiPacket) : Option Bytes :=
  if packet.totalLen > outCap ∨ packet.totalLen > 0xFFFF then none
  else
    some
      (packet.checked ++ [xorBytes packet.checked] ++
        [0x00, packet.object, packet.startItem, packet.endItem] ++
        be16Bytes packet.dataCurrent ++ be16Bytes packet.dataEnd ++
        be16Bytes packet.dataTotal ++ be16Bytes packet.dataOneLen ++
        packet.data ++ [idtiPacketChecksumFixed, idtiEtx])

theorem IdtiPacket.length_checked (packet : IdtiPacket) :
    packet.checked.length = 31 := by
  simp [checked, be16Bytes, be32Bytes, idtiAddrDestLen, idtiAddrSrcLen]

/-! ### BCD -/

/-- Two decimal digits in one byte; a negative remainder counts as zero. -/
def idtiToBcd (value : Int) : UInt8 :=
  let digits := (value.tmod 100).toNat
  ((digits / 10).toUInt8 <<< 4) ||| (digits % 10).toUInt8

/-- Read two decimal digits; `none` when a nibble is not a digit. -/
def idtiFromBcd (value : UInt8) : Option Nat :=
  let high := (value >>> 4).toNat
  let low := (value &&& 0x0F).toNat
  if high > 9 ∨ low > 9 then none else some (high * 10 + low)

end Acud
