/-
Module: Acud.Proofs.FrameReads
Purpose: The handlers read no byte outside the data of the frame.
Trusted boundary: none
Main exports:
  handleRequestReads, handleRequestReads_value, handleRequestReads_within,
  handlers_stay_in_frame
-/
import Acud.Lib.Reads
import Acud.Proofs.Responses

namespace Acud

open Lib

/-!
A handler gets a pointer into the receive buffer and tests the length it was given before
it reads.  The functions of this module are the handlers again, with every read of the data
at the place of the code it has in the source: `…Reads` computes what the handler computes
and keeps account of the offsets, relative to the first byte of data.

Reads that only serve a log line are there too, their result is dropped.

[SRC src/acud/net.c, src/acud/usercmd.c, src/acud/userbin.c]
-/

/-! ### Handlers that keep account of their reads -/

/-- The weekday at 3 is not used. -/
def applyTimeSyncReads (s : NetSys) (dataLen : Nat) : Reads NetSys :=
  if s.net.timeSyncEnabled = false ∨ dataLen < idtiTimeSyncLen then pure s
  else do
    let yy ← Reads.byte 0
    let mm ← Reads.byte 1
    let dd ← Reads.byte 2
    let hh ← Reads.byte 4
    let mi ← Reads.byte 5
    let ss ← Reads.byte 6
    pure <|
      match (bcdFieldsToTm yy mm dd hh mi ss).bind s.clock.mktime with
      | none => s
      | some want =>
          let drift := want - s.clock.now
          if drift > -netTimeSyncMinDriftSec ∧ drift < netTimeSyncMinDriftSec then s
          else if s.clock.settable then { s with clock := { s.clock with now := want } }
          else s

/-- The object a read starts with; user info when none is named. -/
def userbinObjReads (hdr : IdtiHeader) : Reads UInt8 :=
  if hdr.dataLen ≥ 1 then Reads.byte 0 else pure idtiUserbinObjInfo

def handleUserbinSendReads (s : NetSys) (hdr : IdtiHeader) (isStart : Bool) :
    Reads NetSys :=
  if s.link.userbinAttached = false then pure (sendAck s hdr idtiAckFail)
  else if isStart then do
    let binaryObj ← userbinObjReads hdr
    pure <|
      match userbinReceiveStart s.link.store binaryObj with
      | (none, store) => sendAck (s.withStore store) hdr idtiAckFail
      | (some (totalSize, totalCount), store) =>
          let body := be32Bytes totalSize ++ be32Bytes totalCount ++ [binaryObj, 0x00]
          sendData (s.withStore store) hdr body body.length
  else if hdr.dataLen < 2 then pure (sendAck s hdr idtiAckFail)
  else do
    let index ← Reads.be16At 0
    pure <|
      match userbinReceiveChunk s.link.store index with
      | (none, store) => sendAck (s.withStore store) hdr idtiAckFail
      | (some chunk, store) =>
          let body := be16Bytes index ++ chunk
          sendData (s.withStore store) hdr body body.length

def userbinReceiveReads (s : NetSys) (hdr : IdtiHeader) (isStart : Bool) :
    Reads (UInt8 × NetSys) :=
  if s.link.userbinAttached = false then pure (idtiAckFail, s)
  else if isStart then
    if hdr.dataLen < 10 then pure (idtiAckFail, s)
    else do
      let totalSize ← Reads.be32At 0
      let totalCount ← Reads.be32At 4
      let binaryObj ← Reads.byte 8
      pure <|
        match userbinStart s.link.store totalSize totalCount binaryObj with
        | (true, store) => (idtiAckSuccess, s.withStore store)
        | (false, store) => (idtiAckFail, s.withStore store)
  else if hdr.dataLen < 2 then pure (idtiAckFail, s)
  else do
    let index ← Reads.be16At 0
    let chunk ← Reads.slice 2 (hdr.dataLen - 2)
    pure <|
      match userbinContinue s.link.store index chunk with
      | (status, store) =>
          (if status = .failed then idtiAckFail else idtiAckSuccess,
            userbinContinueDone (s.withStore store) status)

def handleUserbinRequestReads (s : NetSys) (hdr : IdtiHeader) : Reads (Option NetSys) :=
  let isStart := hdr.object == idtiObjUserbinStart
  if hdr.object ≠ idtiObjUserbinStart ∧ hdr.object ≠ idtiObjUserbinContinue then pure none
  else if hdr.isRequest idtiCmdReqData idtiSubcmdRead then do
    let sent ← handleUserbinSendReads s hdr isStart
    pure (some sent)
  else if hdr.isRequest idtiCmdSndData idtiSubcmdWrite = false then pure none
  else do
    let received ← userbinReceiveReads s hdr isStart
    pure (some (sendAck received.2 hdr received.1))

def userbinParseUserInfoReads : Reads AcuUserRecord := do
  let userId ← Reads.blob idtiUserinfoOffId acuUserIdLen
  let generalGroup ← Reads.byte idtiUserinfoOffGengroup
  let revisionId ← Reads.be16At idtiUserinfoOffRevision
  let accessOption ← Reads.be32At idtiUserinfoOffOption
  let level ← Reads.byte idtiUserinfoOffLevel
  let validationCode ← Reads.be16At idtiUserinfoOffValidation
  let timezoneCode ← Reads.be16At idtiUserinfoOffTimezone
  let high ← Reads.byte idtiUserinfoOffExpired
  let middle ← Reads.byte (idtiUserinfoOffExpired + 1)
  let low ← Reads.byte (idtiUserinfoOffExpired + 2)
  let proxType ← Reads.byte idtiUserinfoOffProxtype
  let proxWiegand ← Reads.byte idtiUserinfoOffProxwieg
  let bioType ← Reads.byte idtiUserinfoOffBiotype
  let bioTypeSub ← Reads.byte idtiUserinfoOffBiosub
  let templateCount ← Reads.byte idtiUserinfoOffTmplcount
  let accessPassword ← Reads.be16At idtiUserinfoOffPassword
  let canteenCode ← Reads.byte idtiUserinfoOffCanteen
  pure
    { (default : AcuUserRecord) with
      userId := userId
      generalGroup := generalGroup
      revisionId := revisionId
      accessOption := accessOption
      level := level
      validationCode := validationCode
      timezoneCode := timezoneCode
      expiredDate := be32 0 high middle low
      proxType := proxType
      proxWiegand := proxWiegand
      bioType := bioType
      bioTypeSub := bioTypeSub
      templateCount := templateCount
      accessPassword := accessPassword
      canteenCode := canteenCode }

/-- The blocks behind the user info, by the length of the data. -/
def usercmdBlocksReads (info : AcuUserRecord) (len : Nat) : Reads AcuUserRecord :=
  if len ≥ idtiUserdataLen then do
    let lcdName ← Reads.blob idtiUserdataOffName acuUserNameLen
    let restrictType ← Reads.byte idtiUserdataOffRestrict
    let restrictLimitType ← Reads.byte (idtiUserdataOffRestrict + 1)
    let restrictLimitCount ← Reads.byte (idtiUserdataOffRestrict + 2)
    let groupCodes ← Reads.blob idtiUserdataOffGroup acuUserGroupLen
    pure
      { info with
        lcdName := lcdName
        restrictType := restrictType
        restrictLimitType := restrictLimitType
        restrictLimitCount := restrictLimitCount
        groupCodes := groupCodes }
  else if len ≥ idtiUserinfoLen + acuUserNameLen then do
    let lcdName ← Reads.blob idtiUserdataOffName acuUserNameLen
    pure { info with lcdName := lcdName }
  else pure info

/-- The card of a set command; its first eight bytes are read twice. -/
def usercmdCardReads (userId : UserId) (len : Nat) : Reads (Option AcuUserCard) :=
  if len ≥ idtiUserinfoLen + acuUserNameLen + idtiUserdataLenCard then
    Reads.advance idtiUserdataOffCard do
      let front ← Reads.blob 0 acuUserCardLen
      if front.isZero then pure none
      else do
        let value ← Reads.blob 0 acuUserCardLen
        let prox ← Reads.blob 0 acuUserProxLen
        pure (some { cardId := value.reverse, userId := userId, proxRaw := prox })
  else pure none

def usercmdSetReads (users : AcuUsers) (len : Nat) : Reads (AcuUserCmdStatus × AcuUsers) :=
  if len < idtiUserinfoLen then pure (.fail, users)
  else do
    let info ← userbinParseUserInfoReads
    if info.userId.isZero then pure (.fail, users)
    else do
      let record ← usercmdBlocksReads info len
      match usersPut users record with
      | (false, failed) => pure (.fail, failed)
      | (true, stored) => do
          match ← usercmdCardReads record.userId len with
          | none => pure (.ok, stored)
          | some card =>
              pure <|
                match usersPutCard stored card with
                | (false, failed) => (.fail, failed)
                | (true, paired) => (.ok, paired)

def usercmdDeleteReads (users : AcuUsers) (len : Nat) :
    Reads (AcuUserCmdStatus × AcuUsers) :=
  if len < acuUserIdLen then pure (.fail, users)
  else do
    let userId ← Reads.blob 0 acuUserIdLen
    pure <|
      match usersDelete users userId with
      | (false, failed) => (.fail, failed)
      | (true, deleted) => (.ok, deleted)

def usercmdGetReads (users : AcuUsers) (object : UInt8) (len : Nat) :
    Reads (Option Bytes) :=
  if len < acuUserIdLen then pure none
  else do
    let userId ← Reads.blob 0 acuUserIdLen
    pure <|
      match usersLookupById users userId with
      | .found record =>
          if object = idtiObjUserInfo then
            some (userbinBuildUserInfo record ++ record.lcdName.bytes)
          else
            let card :=
              match usersLookupCardByUser users record.userId with
              | .found card => cardIdToProx card.cardId
              | _ => List.replicate idtiUserdataLenCard 0
            some
              (userbinBuildUserInfo record ++ record.lcdName.bytes ++ card ++
                [record.restrictType, record.restrictLimitType,
                  record.restrictLimitCount] ++
                List.replicate 13 0 ++ record.groupCodes.bytes)
      | _ => none

def handleUsercmdRequestReads (s : NetSys) (hdr : IdtiHeader) : Reads (Option NetSys) :=
  let users := s.link.store.users
  if usercmdIsUserObject hdr.object = false then pure none
  else if s.link.usersAttached = false then pure (some (sendAck s hdr idtiAckFail))
  else if hdr.isRequest idtiCmdReqData idtiSubcmdRead then do
    let found ← usercmdGetReads users hdr.object hdr.dataLen
    pure <|
      match found with
      | some body => some (sendData s hdr body body.length)
      | none => some (sendAck s hdr idtiAckFail)
  else if hdr.isRequest idtiCmdSndData idtiSubcmdWrite then do
    let result ← usercmdSetReads users hdr.dataLen
    pure (some (sendAck (s.withUsers result.2) hdr (usercmdAck result.1)))
  else if hdr.isRequest idtiCmdSndData idtiSubcmdDelete then do
    let result ← usercmdDeleteReads users hdr.dataLen
    pure (some (sendAck (s.withUsers result.2) hdr (usercmdAck result.1)))
  else pure none

def forceOpenRequestedReads (hdr : IdtiHeader) : Reads Bool :=
  if hdr.dataLen ≥ 1 then do
    let on ← Reads.byte 0
    pure (on == idtiForceOpenOn)
  else pure false

def handleForceOpenRequestReads (s : NetSys) (hdr : IdtiHeader) : Reads (Option NetSys) :=
  if hdr.object ≠ idtiObjForceOpen then pure none
  else if hdr.isRequest idtiCmdSndStatus idtiSubcmdChange then do
    let on ← forceOpenRequestedReads hdr
    pure (some (sendAck (netApplyForceOpen s on) hdr idtiAckSuccess))
  else if hdr.isRequest idtiCmdReqData idtiSubcmdRead then
    pure (some (sendData s hdr [forceOpenValue s] 1))
  else pure none

def settingStoreReads (s : NetSys) (hdr : IdtiHeader) (spec : SettingSpec) :
    Reads (Option SettingKey × NetSys) :=
  if hdr.dataLen < spec.len then pure (none, s)
  else
    match settingKey s.net hdr spec with
    | none => pure (none, s)
    | some key =>
        if s.net.settingsAttached then do
          let block ← Reads.slice 0 spec.len
          pure <|
            match devsetPut s.settings key block with
            | (true, settings) => (some key, { s with settings := settings })
            | (false, settings) => (none, { s with settings := settings })
        else pure (none, s)

/-- How many bytes of data a refused write leaves in the log at most. -/
def settingDumpLen : Nat := 48

/-- A refused write is dumped; the log line of an output names its action and whether it
follows the fire input. -/
def handleSettingWriteReads (s : NetSys) (hdr : IdtiHeader) : Reads (Option NetSys) :=
  if hdr.isRequest idtiCmdSndData idtiSubcmdChange = false then pure none
  else
    match findSettingSpec hdr.object with
    | none => pure none
    | some spec => do
        match ← settingStoreReads s hdr spec with
        | (none, refused) => do
            let answered := sendResultAck refused hdr idtiAckFail
            let _dump ← Reads.slice 0 (min hdr.dataLen settingDumpLen)
            pure (some answered)
        | (some key, stored) => do
            let answered := sendResultAck stored hdr idtiAckSuccess
            let reported := settingEvent answered spec key
            if spec.object = idtiObjOutput then do
              let _kind ← Reads.byte idtiOutputOffActiveType
              let _alarm ← Reads.byte idtiOutputOffActiveType
              let _fire ← Reads.byte idtiOutputOffActiveOption
              pure (some (settingChanged reported hdr))
            else pure (some (settingChanged reported hdr))

/-- The six BCD bytes of a time. -/
def bcd6Reads : Reads (Option Tm) := do
  let yy ← Reads.byte 0
  let mo ← Reads.byte 1
  let dd ← Reads.byte 2
  let hh ← Reads.byte 3
  let mi ← Reads.byte 4
  let ss ← Reads.byte 5
  pure (bcdFieldsToTm yy mo dd hh mi ss)

/-- The type of an index change; data that is too short has none. -/
def eventIndexTypeReads (hdr : IdtiHeader) : Reads (Option UInt8) :=
  if hdr.dataLen ≥ idtiEventIndexLen then do
    let found ← Reads.byte idtiEventIndexOffType
    pure (some found)
  else pure none

def eventIndexChangeReads (s : NetSys) (hdr : IdtiHeader) : Reads (UInt8 × NetSys) := do
  let type ← eventIndexTypeReads hdr
  if type = some idtiEventIndexTypeFromTime ∧ s.net.eventsAttached then do
    let start ← Reads.advance idtiEventIndexOffStart bcd6Reads
    pure <|
      match start.bind s.clock.mktime with
      | none => (idtiAckFail, s)
      | some since =>
          match eventsRewindToTime s.events since with
          | (some _, events) => (idtiAckSuccess, { s with events := events })
          | (none, events) => (idtiAckFail, { s with events := events })
  else pure (idtiAckFail, s)

def handleEventStoreRequestReads (s : NetSys) (hdr : IdtiHeader) : Reads (Option NetSys) :=
  if hdr.isRequest idtiCmdReqData idtiSubcmdRead && hdr.object == idtiObjHistoryCount then
    pure
      (some
        (sendBack s { hdr with frameIndex := 0, startItem := 0, endItem := 0 }
          (eventCountBody s) { start := 0, last := 0, count := 0, oneLen := 0 }))
  else if hdr.isRequest idtiCmdSndStatus idtiSubcmdChange &&
      hdr.object == idtiObjHistoryIndex then do
    let changed ← eventIndexChangeReads s hdr
    pure (some (sendAck changed.2 hdr changed.1))
  else if hdr.isRequest idtiCmdSndStatus idtiSubcmdInit && hdr.object == idtiObjHistory then
    let reset := eventReset s
    pure (some (sendAck reset.2 hdr reset.1))
  else pure none

def requestTimeSyncReads (s : NetSys) (hdr : IdtiHeader) : Reads NetSys :=
  if hdr.hasOption idtiFoptTimeSync then applyTimeSyncReads s hdr.dataLen else pure s

/-- The next handler is tried when this one declined. -/
def orNextReads (first : Reads (Option NetSys)) (next : Reads (Option NetSys)) :
    Reads (Option NetSys) := do
  match ← first with
  | some handled => pure (some handled)
  | none => next

def claimRequestReads (s : NetSys) (hdr : IdtiHeader) : Reads (Option NetSys) :=
  orNextReads (handleUserbinRequestReads s hdr) <|
    orNextReads (handleUsercmdRequestReads s hdr) <|
    orNextReads (handleForceOpenRequestReads s hdr) <|
    orNextReads (pure (handleSettingRead s hdr)) <|
    orNextReads (handleSettingWriteReads s hdr) <|
    orNextReads (handleEventStoreRequestReads s hdr) <|
    pure (handleLcdRequest s hdr)

/-- `handle_request` behind the pointer to the data. -/
def handleDataReads (s : NetSys) (hdr : IdtiHeader) : Reads NetSys := do
  let synced ← requestTimeSyncReads s hdr
  if hdr.isRequest idtiCmdReqData idtiSubcmdRead && hdr.object == idtiObjHistory then
    pure (handleHistoryRequest synced hdr)
  else if hdr.isRequest idtiCmdReqStatus idtiSubcmdRead &&
      hdr.object == idtiObjFirmware then
    pure (handleFirmwareRequest synced hdr)
  else do
    let claimed ← claimRequestReads synced hdr
    pure <|
      match claimed with
      | some handled => handled
      | none => sendAck synced hdr idtiAckFail

/-- `handle_request` on the frame: data starts behind the header. -/
def handleRequestReads (s : NetSys) (hdr : IdtiHeader) : Reads NetSys :=
  (handleDataReads s hdr).advance idtiHeaderLenV2

/-! ### They compute what the handlers compute -/

theorem applyTimeSyncReads_value (s : NetSys) (dataLen : Nat) (data : Memory) :
    (applyTimeSyncReads s dataLen).value data = applyTimeSync s data dataLen := by
  unfold applyTimeSyncReads applyTimeSync
  split
  next => rfl
  next => rfl

theorem requestTimeSyncReads_value (s : NetSys) (hdr : IdtiHeader) (pkt : Memory) :
    (requestTimeSyncReads s hdr).value (packetData pkt) = requestTimeSync s hdr pkt := by
  unfold requestTimeSyncReads requestTimeSync
  split
  next => exact applyTimeSyncReads_value s hdr.dataLen (packetData pkt)
  next => rfl

theorem userbinObjReads_value (hdr : IdtiHeader) (data : Memory) :
    (userbinObjReads hdr).value data =
      if hdr.dataLen ≥ 1 then data.byte 0 else idtiUserbinObjInfo := by
  unfold userbinObjReads
  split <;> rfl

theorem handleUserbinSendReads_value (s : NetSys) (hdr : IdtiHeader) (pkt : Memory)
    (isStart : Bool) :
    (handleUserbinSendReads s hdr isStart).value (packetData pkt) =
      handleUserbinSend s hdr pkt isStart := by
  unfold handleUserbinSendReads handleUserbinSend
  split
  next => rfl
  next =>
    split
    next =>
      rw [Reads.value_bind, userbinObjReads_value]
      rfl
    next =>
      split
      next => rfl
      next => rfl

theorem userbinReceiveReads_value (s : NetSys) (hdr : IdtiHeader) (pkt : Memory)
    (isStart : Bool) :
    (userbinReceiveReads s hdr isStart).value (packetData pkt) =
      userbinReceive s hdr pkt isStart := by
  unfold userbinReceiveReads userbinReceive
  split
  next => rfl
  next =>
    split
    next =>
      split
      next => rfl
      next => rfl
    next =>
      split
      next => rfl
      next => rfl

theorem handleUserbinRequestReads_value (s : NetSys) (hdr : IdtiHeader) (pkt : Memory) :
    (handleUserbinRequestReads s hdr).value (packetData pkt) =
      handleUserbinRequest s hdr pkt := by
  unfold handleUserbinRequestReads handleUserbinRequest
  simp only
  split
  next => rfl
  next =>
    split
    next => rw [Reads.value_bind, handleUserbinSendReads_value, Reads.value_pure]
    next =>
      split
      next => rfl
      next => rw [Reads.value_bind, userbinReceiveReads_value, Reads.value_pure]

theorem userbinParseUserInfoReads_value (info : Memory) :
    userbinParseUserInfoReads.value info = userbinParseUserInfo info := rfl

theorem usercmdBlocksReads_value (data : Memory) (len : Nat) :
    (usercmdBlocksReads (userbinParseUserInfo data) len).value data =
      usercmdSetRecord data len := by
  unfold usercmdBlocksReads usercmdSetRecord
  split
  next => rfl
  next => split <;> rfl

theorem usercmdCardReads_value (data : Memory) (len : Nat) :
    (usercmdCardReads (Blob.ofMemory data idtiUserinfoOffId acuUserIdLen) len).value data =
      usercmdSetCard data len := by
  unfold usercmdCardReads usercmdSetCard
  split
  next long =>
    simp only [Reads.value_advance, Reads.value_bind, Reads.value_blob, long, true_and]
    by_cases zero : (Blob.ofMemory (data.advance idtiUserdataOffCard) 0 acuUserCardLen).isZero
    · simp only [zero, if_true, Bool.true_eq_false, if_false, Reads.value_pure]
    · simp only [zero, if_true]
      rfl
  next short =>
    rw [if_neg fun both => short both.1]
    rfl

theorem usercmdSetRecord_userId (data : Memory) (len : Nat) :
    (usercmdSetRecord data len).userId = Blob.ofMemory data idtiUserinfoOffId acuUserIdLen := by
  unfold usercmdSetRecord
  simp only
  split
  next => rfl
  next => split <;> rfl

theorem usercmdSetReads_value (users : AcuUsers) (data : Memory) (len : Nat) :
    (usercmdSetReads users len).value data = usercmdSet users data len := by
  unfold usercmdSetReads usercmdSet
  split
  next => rfl
  next =>
    have userId : (userbinParseUserInfo data).userId =
        Blob.ofMemory data idtiUserinfoOffId acuUserIdLen := rfl
    rw [Reads.value_bind, userbinParseUserInfoReads_value, userId, usercmdSetRecord_userId]
    by_cases zero : (Blob.ofMemory data idtiUserinfoOffId acuUserIdLen).isZero
    · simp only [if_pos zero]
      rfl
    · simp only [if_neg zero, Reads.value_bind, usercmdBlocksReads_value]
      obtain ⟨put, stored⟩ := usersPut users (usercmdSetRecord data len)
      cases put with
      | false => rfl
      | true =>
          simp only [Reads.value_bind, usercmdSetRecord_userId, usercmdCardReads_value]
          cases usercmdSetCard data len with
          | none => rfl
          | some card => rfl

theorem usercmdDeleteReads_value (users : AcuUsers) (data : Memory) (len : Nat) :
    (usercmdDeleteReads users len).value data = usercmdDelete users data len := by
  unfold usercmdDeleteReads usercmdDelete
  split
  next => rfl
  next => rfl

theorem usercmdGetReads_value (users : AcuUsers) (object : UInt8) (data : Memory) (len : Nat) :
    (usercmdGetReads users object len).value data = usercmdGet users object data len := by
  unfold usercmdGetReads usercmdGet
  split
  next => rfl
  next => rfl

theorem handleUsercmdRequestReads_value (s : NetSys) (hdr : IdtiHeader) (pkt : Memory) :
    (handleUsercmdRequestReads s hdr).value (packetData pkt) =
      handleUsercmdRequest s hdr pkt := by
  unfold handleUsercmdRequestReads handleUsercmdRequest
  simp only
  split
  next => rfl
  next =>
    split
    next => rfl
    next =>
      split
      next =>
        rw [Reads.value_bind, usercmdGetReads_value]
        rfl
      next =>
        split
        next => rw [Reads.value_bind, usercmdSetReads_value, Reads.value_pure]
        next =>
          split
          next => rw [Reads.value_bind, usercmdDeleteReads_value, Reads.value_pure]
          next => rfl

theorem forceOpenRequestedReads_value (hdr : IdtiHeader) (pkt : Memory) :
    (forceOpenRequestedReads hdr).value (packetData pkt) = forceOpenRequested hdr pkt := by
  unfold forceOpenRequestedReads forceOpenRequested
  split
  next long => simp [long]
  next short => simp [short]

theorem handleForceOpenRequestReads_value (s : NetSys) (hdr : IdtiHeader) (pkt : Memory) :
    (handleForceOpenRequestReads s hdr).value (packetData pkt) =
      handleForceOpenRequest s hdr pkt := by
  unfold handleForceOpenRequestReads handleForceOpenRequest
  split
  next => rfl
  next =>
    split
    next => rw [Reads.value_bind, forceOpenRequestedReads_value, Reads.value_pure]
    next => split <;> rfl

theorem settingStoreReads_value (s : NetSys) (hdr : IdtiHeader) (pkt : Memory)
    (spec : SettingSpec) :
    (settingStoreReads s hdr spec).value (packetData pkt) = settingStore s hdr pkt spec := by
  unfold settingStoreReads settingStore
  split
  next => rfl
  next =>
    cases settingKey s.net hdr spec with
    | none => rfl
    | some key =>
        simp only
        split
        next => rfl
        next => rfl

theorem handleSettingWriteReads_value (s : NetSys) (hdr : IdtiHeader) (pkt : Memory) :
    (handleSettingWriteReads s hdr).value (packetData pkt) =
      handleSettingWrite s hdr pkt := by
  unfold handleSettingWriteReads handleSettingWrite
  split
  next => rfl
  next =>
    cases findSettingSpec hdr.object with
    | none => rfl
    | some spec =>
        simp only [Reads.value_bind, settingStoreReads_value]
        obtain ⟨key, stored⟩ := settingStore s hdr pkt spec
        cases key with
        | none => rfl
        | some key =>
            by_cases output : spec.object = idtiObjOutput
            · simp only [if_pos output]
              rfl
            · simp only [if_neg output]
              rfl

theorem eventIndexTypeReads_value (hdr : IdtiHeader) (data : Memory) :
    (eventIndexTypeReads hdr).value data =
      if hdr.dataLen ≥ idtiEventIndexLen then some (data.byte idtiEventIndexOffType)
      else none := by
  unfold eventIndexTypeReads
  split <;> rfl

theorem eventIndexChangeReads_value (s : NetSys) (hdr : IdtiHeader) (pkt : Memory) :
    (eventIndexChangeReads s hdr).value (packetData pkt) = eventIndexChange s hdr pkt := by
  unfold eventIndexChangeReads eventIndexChange
  rw [Reads.value_bind, eventIndexTypeReads_value]
  by_cases long : hdr.dataLen ≥ idtiEventIndexLen
  · rw [if_pos long]
    simp only [Option.some.injEq, long, true_and]
    split
    next => rfl
    next => rfl
  · rw [if_neg long, if_neg (fun found => by cases found.1), if_neg (fun all => long all.1)]
    rfl

theorem handleEventStoreRequestReads_value (s : NetSys) (hdr : IdtiHeader) (pkt : Memory) :
    (handleEventStoreRequestReads s hdr).value (packetData pkt) =
      handleEventStoreRequest s hdr pkt := by
  unfold handleEventStoreRequestReads handleEventStoreRequest
  split
  next => rfl
  next =>
    split
    next => rw [Reads.value_bind, eventIndexChangeReads_value, Reads.value_pure]
    next => split <;> rfl

theorem orNextReads_value (first next : Reads (Option NetSys)) (data : Memory) :
    (orNextReads first next).value data = (first.value data <|> next.value data) := by
  rw [orNextReads, Reads.value_bind]
  cases first.value data with
  | none => rfl
  | some handled => rfl

theorem claimRequestReads_value (s : NetSys) (hdr : IdtiHeader) (pkt : Memory) :
    (claimRequestReads s hdr).value (packetData pkt) = claimRequest s hdr pkt := by
  simp only [claimRequestReads, claimRequest, orNextReads_value, Reads.value_pure,
    handleUserbinRequestReads_value, handleUsercmdRequestReads_value,
    handleForceOpenRequestReads_value, handleSettingWriteReads_value,
    handleEventStoreRequestReads_value]

/-- With the account or without it, a frame is handled the same way. -/
theorem handleRequestReads_value (s : NetSys) (hdr : IdtiHeader) (pkt : Memory) :
    (handleRequestReads s hdr).value pkt = handleRequest s hdr pkt := by
  change (handleDataReads s hdr).value (packetData pkt) = handleRequest s hdr pkt
  unfold handleDataReads handleRequest
  rw [Reads.value_bind, requestTimeSyncReads_value]
  simp only
  split
  next => rw [Reads.value_pure]
  next =>
    split
    next => rw [Reads.value_pure]
    next =>
      rw [Reads.value_bind, claimRequestReads_value]
      rfl

/-! ### They stay inside the data -/

section Bounds

variable (s : NetSys) (hdr : IdtiHeader)

theorem applyTimeSyncReads_within (dataLen : Nat) :
    (applyTimeSyncReads s dataLen).Within dataLen := by
  unfold applyTimeSyncReads
  split
  next => exact Reads.within_pure _
  next long =>
    have inside : 7 ≤ dataLen := Nat.le_of_not_lt fun short => long (.inr short)
    exact
      (Reads.within_byte (by omega)).bind fun _ =>
        (Reads.within_byte (by omega)).bind fun _ =>
          (Reads.within_byte (by omega)).bind fun _ =>
            (Reads.within_byte (by omega)).bind fun _ =>
              (Reads.within_byte (by omega)).bind fun _ =>
                (Reads.within_byte (by omega)).bind fun _ => Reads.within_pure _

theorem requestTimeSyncReads_within : (requestTimeSyncReads s hdr).Within hdr.dataLen := by
  unfold requestTimeSyncReads
  split
  next => exact applyTimeSyncReads_within s hdr.dataLen
  next => exact Reads.within_pure _

theorem userbinObjReads_within : (userbinObjReads hdr).Within hdr.dataLen := by
  unfold userbinObjReads
  split
  next named => exact Reads.within_byte named
  next => exact Reads.within_pure _

theorem handleUserbinSendReads_within (isStart : Bool) :
    (handleUserbinSendReads s hdr isStart).Within hdr.dataLen := by
  unfold handleUserbinSendReads
  split
  next => exact Reads.within_pure _
  next =>
    split
    next => exact (userbinObjReads_within hdr).bind fun _ => Reads.within_pure _
    next =>
      split
      next => exact Reads.within_pure _
      next long =>
        exact (Reads.within_be16At (Nat.le_of_not_lt long)).bind fun _ => Reads.within_pure _

theorem userbinReceiveReads_within (isStart : Bool) :
    (userbinReceiveReads s hdr isStart).Within hdr.dataLen := by
  unfold userbinReceiveReads
  split
  next => exact Reads.within_pure _
  next =>
    split
    next =>
      split
      next => exact Reads.within_pure _
      next =>
        exact
          (Reads.within_be32At (by omega)).bind fun _ =>
            (Reads.within_be32At (by omega)).bind fun _ =>
              (Reads.within_byte (by omega)).bind fun _ => Reads.within_pure _
    next =>
      split
      next => exact Reads.within_pure _
      next =>
        exact
          (Reads.within_be16At (by omega)).bind fun _ =>
            (Reads.within_slice (by omega)).bind fun _ => Reads.within_pure _

theorem handleUserbinRequestReads_within :
    (handleUserbinRequestReads s hdr).Within hdr.dataLen := by
  unfold handleUserbinRequestReads
  simp only
  split
  next => exact Reads.within_pure _
  next =>
    split
    next =>
      exact (handleUserbinSendReads_within s hdr _).bind fun _ => Reads.within_pure _
    next =>
      split
      next => exact Reads.within_pure _
      next => exact (userbinReceiveReads_within s hdr _).bind fun _ => Reads.within_pure _

/-- The fields take the 32 bytes of the block. -/
theorem userbinParseUserInfoReads_within :
    userbinParseUserInfoReads.Within idtiUserinfoLen := by
  unfold userbinParseUserInfoReads
  repeat' first
    | apply Reads.within_pure
    | apply Reads.within_byte; decide
    | apply Reads.within_be16At; decide
    | apply Reads.within_be32At; decide
    | apply Reads.within_blob; decide
    | apply Reads.Within.bind
    | intro

theorem usercmdBlocksReads_within (info : AcuUserRecord) (len : Nat) :
    (usercmdBlocksReads info len).Within len := by
  have name (long : idtiUserinfoLen + acuUserNameLen ≤ len) :
      (Reads.blob idtiUserdataOffName acuUserNameLen).Within len :=
    Reads.within_blob long
  unfold usercmdBlocksReads
  split
  next full =>
    change 112 ≤ len at full
    have restriction (index : Nat) (one : index < 3) :
        (Reads.byte (idtiUserdataOffRestrict + index)).Within len := by
      apply Reads.within_byte
      change 80 + index < len
      omega
    have group : (Reads.blob idtiUserdataOffGroup acuUserGroupLen).Within len :=
      Reads.within_blob full
    exact
      (name (Nat.le_trans (by decide) full)).bind fun _ =>
        (restriction 0 (by decide)).bind fun _ =>
          (restriction 1 (by decide)).bind fun _ =>
            (restriction 2 (by decide)).bind fun _ =>
              group.bind fun _ => Reads.within_pure _
  next =>
    split
    next named => exact (name named).bind fun _ => Reads.within_pure _
    next => exact Reads.within_pure _

theorem usercmdCardReads_within (userId : UserId) (len : Nat) :
    (usercmdCardReads userId len).Within len := by
  unfold usercmdCardReads
  split
  next long =>
    refine Reads.Within.mono (Reads.Within.advance ?_ _) long
    have front : (Reads.blob 0 acuUserCardLen).Within idtiUserdataLenCard :=
      Reads.within_blob (by decide)
    refine front.bind fun value => ?_
    split
    next => exact Reads.within_pure _
    next =>
      exact front.bind fun _ =>
        (Reads.within_blob (by decide)).bind fun _ => Reads.within_pure _
  next => exact Reads.within_pure _

theorem usercmdSetReads_within (users : AcuUsers) (len : Nat) :
    (usercmdSetReads users len).Within len := by
  unfold usercmdSetReads
  split
  next => exact Reads.within_pure _
  next long =>
    refine (userbinParseUserInfoReads_within.mono (Nat.le_of_not_lt long)).bind fun info => ?_
    split
    next => exact Reads.within_pure _
    next =>
      refine (usercmdBlocksReads_within info len).bind fun record => ?_
      split
      next => exact Reads.within_pure _
      next =>
        refine (usercmdCardReads_within record.userId len).bind fun card => ?_
        cases card with
        | none => exact Reads.within_pure _
        | some card => exact Reads.within_pure _

theorem usercmdDeleteReads_within (users : AcuUsers) (len : Nat) :
    (usercmdDeleteReads users len).Within len := by
  unfold usercmdDeleteReads
  split
  next => exact Reads.within_pure _
  next long =>
    have id : (Reads.blob 0 acuUserIdLen).Within len :=
      Reads.within_blob (by omega)
    exact id.bind fun _ => Reads.within_pure _

theorem usercmdGetReads_within (users : AcuUsers) (object : UInt8) (len : Nat) :
    (usercmdGetReads users object len).Within len := by
  unfold usercmdGetReads
  split
  next => exact Reads.within_pure _
  next long =>
    have id : (Reads.blob 0 acuUserIdLen).Within len :=
      Reads.within_blob (by omega)
    exact id.bind fun _ => Reads.within_pure _

theorem handleUsercmdRequestReads_within :
    (handleUsercmdRequestReads s hdr).Within hdr.dataLen := by
  unfold handleUsercmdRequestReads
  simp only
  split
  next => exact Reads.within_pure _
  next =>
    split
    next => exact Reads.within_pure _
    next =>
      split
      next => exact (usercmdGetReads_within _ _ _).bind fun _ => Reads.within_pure _
      next =>
        split
        next => exact (usercmdSetReads_within _ _).bind fun _ => Reads.within_pure _
        next =>
          split
          next => exact (usercmdDeleteReads_within _ _).bind fun _ => Reads.within_pure _
          next => exact Reads.within_pure _

theorem forceOpenRequestedReads_within :
    (forceOpenRequestedReads hdr).Within hdr.dataLen := by
  unfold forceOpenRequestedReads
  split
  next one => exact (Reads.within_byte one).bind fun _ => Reads.within_pure _
  next => exact Reads.within_pure _

theorem handleForceOpenRequestReads_within :
    (handleForceOpenRequestReads s hdr).Within hdr.dataLen := by
  unfold handleForceOpenRequestReads
  split
  next => exact Reads.within_pure _
  next =>
    split
    next => exact (forceOpenRequestedReads_within hdr).bind fun _ => Reads.within_pure _
    next => split <;> exact Reads.within_pure _

theorem settingStoreReads_within (spec : SettingSpec) :
    (settingStoreReads s hdr spec).Within hdr.dataLen := by
  unfold settingStoreReads
  split
  next => exact Reads.within_pure _
  next long =>
    split
    next => exact Reads.within_pure _
    next =>
      split
      next => exact (Reads.within_slice (by omega)).bind fun _ => Reads.within_pure _
      next => exact Reads.within_pure _

/-- A write that was stored had the whole block of its object. -/
theorem settingStoreReads_len {spec : SettingSpec} {data : Memory} {key : SettingKey}
    {stored : NetSys} (done : (settingStoreReads s hdr spec).value data = (some key, stored)) :
    spec.len ≤ hdr.dataLen := by
  unfold settingStoreReads at done
  split at done
  next => cases done
  next long => exact Nat.le_of_not_lt long

/-- The block of an output. -/
theorem outputSpec_len {spec : SettingSpec} (found : findSettingSpec idtiObjOutput = some spec) :
    spec.len = idtiOutputSettingLen := by
  cases found
  rfl

theorem handleSettingWriteReads_within :
    (handleSettingWriteReads s hdr).Within hdr.dataLen := by
  unfold handleSettingWriteReads
  split
  next => exact Reads.within_pure _
  next =>
    split
    next => exact Reads.within_pure _
    next spec found =>
      refine (settingStoreReads_within s hdr spec).bind_value fun data => ?_
      split
      next refused _ =>
        have dump : (Reads.slice 0 (min hdr.dataLen settingDumpLen)).Within hdr.dataLen :=
          Reads.within_slice (by omega)
        exact dump.bind fun _ => Reads.within_pure _
      next key stored done =>
        split
        next output =>
          have object : hdr.object = idtiObjOutput := by
            rw [← (findSettingSpec_object found).2, output]
          rw [object] at found
          have long : idtiOutputSettingLen ≤ hdr.dataLen :=
            outputSpec_len found ▸ settingStoreReads_len s hdr done
          change 14 ≤ hdr.dataLen at long
          have kind : (Reads.byte idtiOutputOffActiveType).Within hdr.dataLen := by
            apply Reads.within_byte
            change 6 < hdr.dataLen
            omega
          have fire : (Reads.byte idtiOutputOffActiveOption).Within hdr.dataLen := by
            apply Reads.within_byte
            change 10 < hdr.dataLen
            omega
          exact kind.bind fun _ => kind.bind fun _ => fire.bind fun _ => Reads.within_pure _
        next => exact Reads.within_pure _

theorem bcd6Reads_within : bcd6Reads.Within 6 := by
  have field (index : Nat) (inside : index < 6) : (Reads.byte index).Within 6 :=
    Reads.within_byte inside
  exact
    (field 0 (by decide)).bind fun _ =>
      (field 1 (by decide)).bind fun _ =>
        (field 2 (by decide)).bind fun _ =>
          (field 3 (by decide)).bind fun _ =>
            (field 4 (by decide)).bind fun _ =>
              (field 5 (by decide)).bind fun _ => Reads.within_pure _

theorem eventIndexTypeReads_within : (eventIndexTypeReads hdr).Within hdr.dataLen := by
  unfold eventIndexTypeReads
  split
  next long =>
    change 36 ≤ hdr.dataLen at long
    have type : (Reads.byte idtiEventIndexOffType).Within hdr.dataLen := by
      apply Reads.within_byte
      change 1 < hdr.dataLen
      omega
    exact type.bind fun _ => Reads.within_pure _
  next => exact Reads.within_pure _

/-- The start time is read only when the type was, so the block is complete. -/
theorem eventIndexChangeReads_within : (eventIndexChangeReads s hdr).Within hdr.dataLen := by
  unfold eventIndexChangeReads
  refine (eventIndexTypeReads_within hdr).bind_value fun data => ?_
  rw [eventIndexTypeReads_value]
  by_cases long : hdr.dataLen ≥ idtiEventIndexLen
  · rw [if_pos long]
    change 36 ≤ hdr.dataLen at long
    split
    next =>
      have start : (bcd6Reads.advance idtiEventIndexOffStart).Within hdr.dataLen := by
        refine (bcd6Reads_within.advance idtiEventIndexOffStart).mono ?_
        change 6 + 6 ≤ hdr.dataLen
        omega
      exact start.bind fun _ => Reads.within_pure _
    next => exact Reads.within_pure _
  · rw [if_neg long, if_neg fun found => nomatch found.1]
    exact Reads.within_pure _

theorem handleEventStoreRequestReads_within :
    (handleEventStoreRequestReads s hdr).Within hdr.dataLen := by
  unfold handleEventStoreRequestReads
  split
  next => exact Reads.within_pure _
  next =>
    split
    next => exact (eventIndexChangeReads_within s hdr).bind fun _ => Reads.within_pure _
    next => split <;> exact Reads.within_pure _

theorem orNextReads_within {first next : Reads (Option NetSys)} {limit : Nat}
    (tried : first.Within limit) (rest : next.Within limit) :
    (orNextReads first next).Within limit := by
  apply tried.bind
  intro handled
  cases handled with
  | none => exact rest
  | some handled => exact Reads.within_pure _

theorem claimRequestReads_within : (claimRequestReads s hdr).Within hdr.dataLen := by
  apply orNextReads_within (handleUserbinRequestReads_within s hdr)
  apply orNextReads_within (handleUsercmdRequestReads_within s hdr)
  apply orNextReads_within (handleForceOpenRequestReads_within s hdr)
  apply orNextReads_within (Reads.within_pure _)
  apply orNextReads_within (handleSettingWriteReads_within s hdr)
  apply orNextReads_within (handleEventStoreRequestReads_within s hdr)
  exact Reads.within_pure _

theorem handleDataReads_within : (handleDataReads s hdr).Within hdr.dataLen := by
  unfold handleDataReads
  refine (requestTimeSyncReads_within s hdr).bind fun synced => ?_
  split
  next => exact Reads.within_pure _
  next =>
    split
    next => exact Reads.within_pure _
    next => exact (claimRequestReads_within synced hdr).bind fun _ => Reads.within_pure _

/-- Every read of a handler is behind the header and in front of the tail. -/
theorem handleRequestReads_within {offset : Nat} {pkt : Memory}
    (read : offset ∈ (handleRequestReads s hdr).offsets pkt) :
    idtiHeaderLenV2 ≤ offset ∧ offset < idtiHeaderLenV2 + hdr.dataLen :=
  ⟨Reads.le_of_mem_advance read,
    (handleDataReads_within s hdr).advance idtiHeaderLenV2 pkt offset read⟩

/-- What a handler does is settled by the data of the frame. -/
theorem handleRequest_congr {first second : Memory}
    (agree : ∀ offset < idtiHeaderLenV2 + hdr.dataLen, first.byte offset = second.byte offset) :
    handleRequest s hdr second = handleRequest s hdr first := by
  rw [← handleRequestReads_value, ← handleRequestReads_value]
  refine ((handleRequestReads s hdr).determined first second ?_).1
  intro offset read
  exact agree offset (handleRequestReads_within s hdr read).2

end Bounds

/-! ### The frame -/

/-- The data and the tail of an accepted frame are part of its packet length. -/
theorem idtiHeaderParse_dataLen {buf : Memory} {len : Nat} {hdr : IdtiHeader}
    (parsed : idtiHeaderParse buf len = some hdr) :
    idtiHeaderLenV2 + hdr.dataLen + idtiTailLen hdr.frameOption = hdr.packetLength.toNat := by
  have announced := idtiHeaderParse_packetLength parsed
  unfold idtiHeaderParse at parsed
  simp only at parsed
  repeat' split at parsed
  all_goals cases parsed
  simp only at announced ⊢
  omega

/-- One reply is built for a request, and its payload fits the buffer. -/
def RepliesWithin (s : NetSys) (hdr : IdtiHeader) (pkt : Memory) (capacity : Nat) : Prop :=
  ∃ store packet out, idtiBuildPacket netRespBufCap packet = some out ∧
    packet.data.length ≤ capacity ∧
    (handleRequest s hdr pkt).link = (netQueueSend { s.link with store := store } out).2

theorem repliesWithin (s : NetSys) (hdr : IdtiHeader) (pkt : Memory) :
    RepliesWithin s hdr pkt netPayloadCap := by
  obtain ⟨data, ⟨store, packet, out, built, _, _, ⟨status, payload⟩, short, link, _⟩, _⟩ :=
    handleRequest_answers s hdr pkt
  have same : (requestTimeSync s hdr pkt).link = s.link := by rw [requestTimeSync_eq]
  rw [same] at link
  refine ⟨store, packet, out, built, ?_, link⟩
  calc packet.data.length = (responsePayload status hdr data).length := by rw [payload]
    _ ≤ idtiDeviceStatusV2Len + data.length := length_responsePayload_le status hdr data
    _ ≤ netPayloadCap := Nat.add_le_add_left short _

/-- For every frame that is accepted and has arrived, the handlers read only bytes of its
data, which are among those that arrived, and the one reply they build fits the payload
buffer. -/
theorem handlers_stay_in_frame (s : NetSys) (pkt : Memory) (len : Nat) (hdr : IdtiHeader)
    (parsed : idtiHeaderParse pkt len = some hdr) (arrived : hdr.packetLength.toNat ≤ len) :
    (handleRequestReads s hdr).value pkt = handleRequest s hdr pkt ∧
      (∀ offset ∈ (handleRequestReads s hdr).offsets pkt,
        idtiHeaderLenV2 ≤ offset ∧ offset < idtiHeaderLenV2 + hdr.dataLen) ∧
      idtiHeaderLenV2 + hdr.dataLen ≤ len ∧
      RepliesWithin s hdr pkt netPayloadCap := by
  refine ⟨handleRequestReads_value s hdr pkt,
    fun offset read => handleRequestReads_within s hdr read, ?_, repliesWithin s hdr pkt⟩
  have length := idtiHeaderParse_dataLen parsed
  omega

/-- The command that opens the door, one byte of data. -/
def forceOpenRequest : Bytes :=
  (idtiBuildPacket netRespBufCap
    { destAddr := Blob.zeros _
      srcAddr := Blob.zeros _
      frameOption := 0
      frameIndex := 0
      password := 0
      command := idtiCmdSndStatus
      subCommand := idtiSubcmdChange
      object := idtiObjForceOpen
      startItem := 0
      endItem := 0
      dataCurrent := 1
      dataEnd := 1
      dataTotal := 1
      dataOneLen := 1
      data := [idtiForceOpenOn] }).getD []

/-- The byte is read, and nothing else of the frame. -/
theorem handlers_stay_in_frame_forceOpen :
    ∃ s hdr, connectedStart (fun _ => .accepted 4096) = some s ∧
      idtiHeaderParse (Memory.ofBytes forceOpenRequest) forceOpenRequest.length = some hdr ∧
      (handleRequestReads s hdr).offsets (Memory.ofBytes forceOpenRequest) = [44] ∧
      idtiHeaderLenV2 + hdr.dataLen ≤ forceOpenRequest.length := by
  let pkt := Memory.ofBytes forceOpenRequest
  have measured : ((connectedStart fun _ => .accepted 4096).bind fun s =>
      (idtiHeaderParse pkt forceOpenRequest.length).map fun hdr =>
        ((handleRequestReads s hdr).offsets pkt,
          decide (hdr.packetLength.toNat ≤ forceOpenRequest.length))) =
      some ([44], true) := by decide +kernel
  obtain ⟨s, started, measured⟩ := Option.bind_eq_some_iff.mp measured
  obtain ⟨hdr, parsed, measured⟩ := Option.map_eq_some_iff.mp measured
  obtain ⟨offsets, arrived⟩ := Prod.mk.inj measured
  exact ⟨s, hdr, started, parsed, offsets,
    (handlers_stay_in_frame s pkt _ hdr parsed (of_decide_eq_true arrived)).2.2.1⟩

end Acud
