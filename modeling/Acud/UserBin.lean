/-
Module: Acud.UserBin
Purpose: The binary transfer of a whole roster, in both directions.
Trusted boundary: none
Main exports:
  AcuUserBin, UserStore, userbinStart, userbinContinue, userbinAbort,
  userbinReceiveStart, userbinReceiveChunk, userbinParseUserInfo, userbinBuildUserInfo
-/
import Acud.Protocol
import Acud.Users

namespace Acud

open Lib

/-!
The upper system announces the total size and then sends the roster as numbered
chunks that are cut without regard to record boundaries.  The receiver collects
bytes until a record is full, checks it and stores it in the load tables; at
the announced size it swaps the tables.

The receiver holds a pointer to the roster store.  The two are one state here,
`UserStore`, because every operation of the receiver works on both.

[SRC src/acud/userbin.h, src/acud/userbin.c]
-/

def userbinSendChunk : Nat := 14464
def userbinSendRecords : Nat := userbinSendChunk / idtiUserbinRecInfoLen

inductive AcuUserBinStatus where
  | ok
  | complete
  | failed
deriving Repr, Inhabited, DecidableEq

structure AcuUserBin where
  active : Bool
  totalSize : Nat
  totalCount : Nat
  received : Nat
  recordLen : Nat
  haveIndex : Bool
  lastIndex : UInt16
  /-- The bytes of the record that is being collected (`rec` up to `imagelen`). -/
  record : Bytes
  parsedOk : Nat
  parsedBad : Nat
  sendActive : Bool
  sendHaveBase : Bool
  sendBaseIndex : UInt16
  sendNextIndex : UInt16
  sendLastId : UserId
  sendHaveLast : Bool
deriving Repr, Inhabited, DecidableEq

/-- A receiver and the roster store it points to. -/
structure UserStore where
  users : AcuUsers
  userbin : AcuUserBin

def userbinCreate (users : AcuUsers) : UserStore :=
  { users := users
    userbin := default }

def userbinInProgress (store : UserStore) : Bool :=
  store.userbin.active

/-- Discard a transfer that was not finished. -/
def userbinAbort (store : UserStore) : UserStore :=
  if store.userbin.active then
    { users := usersLoadAbort store.users
      userbin :=
        { store.userbin with
          active := false
          record := []
          received := 0
          haveIndex := false } }
  else store

/-! ### Receiving -/

/-- Record length of a binary object that is accepted. -/
def userbinRecordLen (binaryObj : UInt8) : Option Nat :=
  if binaryObj = idtiUserbinObjInfo then some idtiUserbinRecInfoLen
  else if binaryObj = idtiUserbinObjInfoFinger then some idtiUserbinRecInfoFingerLen
  else none

def userbinStart (store : UserStore) (totalSize totalCount : UInt32)
    (binaryObj : UInt8) : Bool × UserStore :=
  let free := if store.userbin.active then userbinAbort store else store
  match userbinRecordLen binaryObj with
  | none => (false, free)
  | some recordLen =>
      if totalSize = 0 ∨ totalSize.toNat % recordLen ≠ 0 then (false, free)
      else
        match usersLoadBegin free.users with
        | (false, users) => (false, { free with users := users })
        | (true, users) =>
            (true,
              { users := users
                userbin :=
                  { free.userbin with
                    active := true
                    totalSize := totalSize.toNat
                    totalCount := totalCount.toNat
                    recordLen := recordLen
                    received := 0
                    record := []
                    haveIndex := false
                    lastIndex := 0
                    parsedOk := 0
                    parsedBad := 0 } })

/-- `datacrc` is the XOR from the user block to `crc_calc`. -/
def recordCrcOk (record : Memory) : Bool :=
  xorBytes (record.read idtiUserbinOffUser
    (idtiUserbinOffCrcCalc - idtiUserbinOffUser + 1)) == record.byte idtiUserbinOffDatacrc

/-- The fields of a 32-byte user info block; the other fields stay zero. -/
def userbinParseUserInfo (info : Memory) : AcuUserRecord :=
  { (default : AcuUserRecord) with
    userId := Blob.ofMemory info idtiUserinfoOffId acuUserIdLen
    generalGroup := info.byte idtiUserinfoOffGengroup
    revisionId := info.be16At idtiUserinfoOffRevision
    accessOption := info.be32At idtiUserinfoOffOption
    level := info.byte idtiUserinfoOffLevel
    validationCode := info.be16At idtiUserinfoOffValidation
    timezoneCode := info.be16At idtiUserinfoOffTimezone
    expiredDate :=
      be32 0 (info.byte idtiUserinfoOffExpired)
        (info.byte (idtiUserinfoOffExpired + 1)) (info.byte (idtiUserinfoOffExpired + 2))
    proxType := info.byte idtiUserinfoOffProxtype
    proxWiegand := info.byte idtiUserinfoOffProxwieg
    bioType := info.byte idtiUserinfoOffBiotype
    bioTypeSub := info.byte idtiUserinfoOffBiosub
    templateCount := info.byte idtiUserinfoOffTmplcount
    accessPassword := info.be16At idtiUserinfoOffPassword
    canteenCode := info.byte idtiUserinfoOffCanteen }

/-- The 32-byte user info block of a record. -/
def userbinBuildUserInfo (record : AcuUserRecord) : Bytes :=
  record.userId.bytes ++ [record.generalGroup, 0] ++ be16Bytes record.revisionId ++
    be32Bytes record.accessOption ++ [record.level] ++
    be16Bytes record.validationCode ++ be16Bytes record.timezoneCode ++
    (be32Bytes record.expiredDate).drop 1 ++
    [record.proxType, record.proxWiegand, record.bioType, record.bioTypeSub,
      record.templateCount] ++
    be16Bytes record.accessPassword ++ [record.canteenCode]

/-- Store one collected record; `false` counts it as bad. -/
def storeRecord (users : AcuUsers) (raw : Bytes) : Bool × AcuUsers :=
  let image := Memory.ofBytes raw
  if recordCrcOk image then
    let info := userbinParseUserInfo (image.advance idtiUserbinOffUser)
    if info.userId.isZero then (false, users)
    else
      let record : AcuUserRecord :=
        { info with
          lcdName := Blob.ofMemory image idtiUserbinOffName acuUserNameLen
          groupCodes := Blob.ofMemory image idtiUserbinOffGroup acuUserGroupLen
          restrictType := image.byte idtiUserbinOffRestrict
          restrictLimitType := image.byte (idtiUserbinOffRestrict + 1)
          restrictLimitCount := image.byte (idtiUserbinOffRestrict + 2) }
      match usersLoadPut users record with
      | (false, failed) => (false, failed)
      | (true, stored) =>
          let binCard : CardId := Blob.ofMemory image idtiUserbinOffCard acuUserCardLen
          if binCard.isZero then (true, stored)
          else
            usersLoadPutCard stored
              { cardId := binCard
                userId := record.userId
                proxRaw :=
                  Blob.ofMemory (Memory.ofBytes binCard.reverse.bytes) 0 acuUserProxLen }
  else (false, users)

/-- Everything announced has arrived: swap the rosters. -/
def userbinFinish (store : UserStore) : UserStore :=
  match usersLoadCommit store.users with
  | (true, users) =>
      { users := users
        userbin := { store.userbin with active := false, record := [] } }
  | (false, users) =>
      { users := users
        userbin := { store.userbin with active := false, record := [], parsedOk := 0 } }

/-- Cut a byte stream into records.  Each round takes at least one byte, so the
counter, which starts at the length of the data, does not run out. -/
def feedRecords : Nat → UserStore → Bytes → UserStore
  | 0, store, _ => store
  | rounds + 1, store, data =>
      if data.isEmpty then store
      else
        let need := store.userbin.recordLen - store.userbin.record.length
        let collected := store.userbin.record ++ data.take need
        if collected.length = store.userbin.recordLen then
          let stored := storeRecord store.users collected
          let counted :=
            if stored.1 then
              { store.userbin with record := [], parsedOk := store.userbin.parsedOk + 1 }
            else
              { store.userbin with record := [], parsedBad := store.userbin.parsedBad + 1 }
          feedRecords rounds { users := stored.2, userbin := counted } (data.drop need)
        else
          feedRecords rounds
            { store with userbin := { store.userbin with record := collected } }
            (data.drop need)

def userbinContinue (store : UserStore) (index : UInt16) (data : Bytes) :
    AcuUserBinStatus × UserStore :=
  let ub := store.userbin
  if ub.active = false then (.failed, store)
  else if ub.haveIndex && index = ub.lastIndex then (.ok, store)
  else if ub.haveIndex && index ≠ ub.lastIndex + 1 then (.failed, store)
  else if ub.received + data.length > ub.totalSize then (.failed, store)
  else
    let fed := feedRecords data.length store data
    let received := fed.userbin.received + data.length
    let counted : UserStore :=
      { fed with
        userbin :=
          { fed.userbin with
            received := received
            lastIndex := index
            haveIndex := true } }
    if received ≥ counted.userbin.totalSize then (.complete, userbinFinish counted)
    else (.ok, counted)

/-- Event code for a completed transfer. -/
def userbinResultEvent (store : UserStore) : UInt32 :=
  if store.userbin.parsedOk = 0 then idtiEventUserfileFail
  else if store.userbin.parsedBad > 0 then idtiEventUserfilePartial
  else idtiEventUserfileSuccess

/-! ### Sending -/

/-- Announce total size and count; only the card structure is sent out. -/
def userbinReceiveStart (store : UserStore) (binaryObj : UInt8) :
    Option (UInt32 × UInt32) × UserStore :=
  if binaryObj ≠ idtiUserbinObjInfo then (none, store)
  else
    let count := usersCount store.users
    if count < 0 then (none, store)
    else
      (some ((count * idtiUserbinRecInfoLen).toNat.toUInt32, count.toNat.toUInt32),
        { store with
          userbin :=
            { store.userbin with
              sendActive := true
              sendHaveBase := false
              sendNextIndex := 0
              sendHaveLast := false
              sendLastId := Blob.zeros _ } })

/-- One user as a 128-byte record; `index` is the position in id order. -/
def buildRecord (record : AcuUserRecord) (card : AcuUserCard) (index : UInt32) : Bytes :=
  let body :=
    userbinBuildUserInfo record ++ card.cardId.bytes ++ List.replicate 4 0 ++
      record.lcdName.bytes ++
      [record.restrictType, record.restrictLimitType, record.restrictLimitCount] ++
      List.replicate 5 0 ++ record.groupCodes.bytes ++ List.replicate 34 0 ++ [0x01]
  be32Bytes index ++ be32Bytes index ++ body ++ [xorBytes body]

/-- One chunk of the roster.  In the usual order it continues after the last
user sent; otherwise it counts from the base index. -/
def userbinReceiveChunk (store : UserStore) (index : UInt16) :
    Option Bytes × UserStore :=
  if store.userbin.sendActive = false then (none, store)
  else
    let ub :=
      if store.userbin.sendHaveBase then store.userbin
      else
        { store.userbin with
          sendBaseIndex := index
          sendNextIndex := index
          sendHaveBase := true }
    let first := (index - ub.sendBaseIndex).toNat * userbinSendRecords
    let rows :=
      if index = ub.sendNextIndex && ub.sendHaveLast then
        usersReadAfter store.users (some ub.sendLastId) userbinSendRecords
      else if index = ub.sendBaseIndex then
        usersReadAfter store.users none userbinSendRecords
      else usersReadAt store.users first userbinSendRecords
    let out := rows.mapIdx fun position row =>
      buildRecord row.1 row.2 (first + position).toUInt32
    let advanced :=
      match rows.getLast? with
      | none => ub
      | some row =>
          { ub with
            sendLastId := row.1.userId
            sendHaveLast := true
            sendNextIndex := index + 1 }
    (some out.flatten, { store with userbin := advanced })

end Acud
