/-
Module: Acud.Proofs.RecordCodec
Purpose: A record that goes out is read back as the same user and card.
Trusted boundary: none
Main exports:
  userbinParse_build, importEntry, decodeRecord_buildRecord, Encodes.decode
-/
import Acud.Proofs.RosterTransfer
import Acud.Proofs.UploadRecords

namespace Acud

open Lib

/-!
Writer and reader of a record agree on where each field stands, on the order of its
bytes, and on the range of the checksum.  Only two things do not come back as they were:
an expiry date has 24 bits, and the `prox_raw` of a card is made anew from its id.

[SRC src/acud/userbin.c]
-/

/-! ### The user block -/

/-- The fields of the block are read back; those that stand elsewhere stay zero. -/
theorem userbinParse_build {info : Memory} {record : AcuUserRecord}
    (block : info.Holds 0 (userbinBuildUserInfo record))
    (dated : record.expiredDate.toNat < 2 ^ 24) :
    userbinParseUserInfo info =
      { record with
        lcdName := default
        restrictType := default
        restrictLimitType := default
        restrictLimitCount := default
        groupCodes := default } := by
  have date : (be32Bytes record.expiredDate).drop 1 =
      [(record.expiredDate >>> 16).toUInt8, (record.expiredDate >>> 8).toUInt8,
        record.expiredDate.toUInt8] := rfl
  simp only [userbinBuildUserInfo, date, List.append_assoc, List.cons_append, List.nil_append,
    Memory.holds_append, Memory.holds_cons, Memory.holds_nil, and_true, Blob.length_bytes,
    length_be16Bytes, length_be32Bytes, acuUserIdLen, Nat.reduceAdd] at block
  obtain ⟨userId, generalGroup, _, revisionId, accessOption, level, validationCode, timezoneCode,
    high, middle, low, proxType, proxWiegand, bioType, bioTypeSub, templateCount,
    accessPassword, canteenCode⟩ := block
  have identified : Blob.ofMemory info 0 acuUserIdLen = record.userId :=
    Blob.ofMemory_of_holds userId
  have expired : be32 0 (info.byte 21) (info.byte 22) (info.byte 23) = record.expiredDate := by
    rw [high, middle, low, be32_lowBytes dated]
  simp only [userbinParseUserInfo, idtiUserinfoOffId, idtiUserinfoOffGengroup,
    idtiUserinfoOffRevision, idtiUserinfoOffOption, idtiUserinfoOffLevel,
    idtiUserinfoOffValidation, idtiUserinfoOffTimezone, idtiUserinfoOffExpired,
    idtiUserinfoOffProxtype, idtiUserinfoOffProxwieg, idtiUserinfoOffBiotype,
    idtiUserinfoOffBiosub, idtiUserinfoOffTmplcount, idtiUserinfoOffPassword,
    idtiUserinfoOffCanteen, Nat.reduceAdd]
  rw [identified, Memory.be16At_of_holds revisionId,
    Memory.be32At_of_holds accessOption, Memory.be16At_of_holds validationCode,
    Memory.be16At_of_holds timezoneCode, Memory.be16At_of_holds accessPassword, expired,
    generalGroup, level, proxType, proxWiegand, bioType, bioTypeSub, templateCount, canteenCode]
  rfl

/-! ### The whole record -/

/-- The part of a record that the checksum covers. -/
def recordBody (record : AcuUserRecord) (card : AcuUserCard) : Bytes :=
  userbinBuildUserInfo record ++ card.cardId.bytes ++ List.replicate 4 0 ++
    record.lcdName.bytes ++
    [record.restrictType, record.restrictLimitType, record.restrictLimitCount] ++
    List.replicate 5 0 ++ record.groupCodes.bytes ++ List.replicate 34 0 ++ [0x01]

theorem buildRecord_eq (record : AcuUserRecord) (card : AcuUserCard) (index : UInt32) :
    buildRecord record card index =
      be32Bytes index ++ be32Bytes index ++ recordBody record card ++
        [xorBytes (recordBody record card)] := rfl

theorem length_recordBody (record : AcuUserRecord) (card : AcuUserCard) :
    (recordBody record card).length = 119 := by
  simp [recordBody, length_userbinBuildUserInfo, idtiUserinfoLen, acuUserCardLen,
    acuUserNameLen, acuUserGroupLen]

section Image

variable {image : Memory} {record : AcuUserRecord} {card : AcuUserCard} {index : UInt32}

theorem body_of_holds (holds : image.Holds 0 (buildRecord record card index)) :
    image.Holds 8 (recordBody record card) ∧
      image.byte 127 = xorBytes (recordBody record card) := by
  rw [buildRecord_eq] at holds
  simp only [List.append_assoc, Memory.holds_append, Memory.holds_cons, Memory.holds_nil,
    and_true, length_be32Bytes, length_recordBody, Nat.reduceAdd] at holds
  exact holds.2.2

/-- The checksum of a record that was built passes. -/
theorem recordCrcOk_buildRecord (holds : image.Holds 0 (buildRecord record card index)) :
    recordCrcOk image = true := by
  obtain ⟨body, datacrc⟩ := body_of_holds holds
  unfold Memory.Holds at body
  rw [length_recordBody] at body
  unfold recordCrcOk
  rw [idtiUserbinOffUser, idtiUserbinOffCrcCalc, idtiUserbinOffDatacrc, body, datacrc]
  exact beq_self_eq_true _

/-- Where the fields of a record stand. -/
structure RecordFields (image : Memory) (record : AcuUserRecord) (cardId : CardId) : Prop where
  info : (image.advance idtiUserbinOffUser).Holds 0 (userbinBuildUserInfo record)
  card : image.Holds idtiUserbinOffCard cardId.bytes
  name : image.Holds idtiUserbinOffName record.lcdName.bytes
  restrictType : image.byte idtiUserbinOffRestrict = record.restrictType
  restrictLimitType : image.byte (idtiUserbinOffRestrict + 1) = record.restrictLimitType
  restrictLimitCount : image.byte (idtiUserbinOffRestrict + 2) = record.restrictLimitCount
  group : image.Holds idtiUserbinOffGroup record.groupCodes.bytes

theorem fields_of_holds (holds : image.Holds 0 (buildRecord record card index)) :
    RecordFields image record card.cardId := by
  have body := (body_of_holds holds).1
  simp only [recordBody, List.append_assoc, List.cons_append, List.nil_append,
    Memory.holds_append, Memory.holds_cons, Memory.holds_nil, and_true, Blob.length_bytes,
    List.length_replicate, length_userbinBuildUserInfo, idtiUserinfoLen, acuUserCardLen,
    acuUserNameLen, acuUserGroupLen, Nat.reduceAdd] at body
  obtain ⟨info, card, _, name, restrictType, restrictLimitType, restrictLimitCount, _, group, _⟩ :=
    body
  exact
    { info := Memory.holds_advance.mpr info
      card := card
      name := name
      restrictType := restrictType
      restrictLimitType := restrictLimitType
      restrictLimitCount := restrictLimitCount
      group := group }

end Image

/-- What the receiver of a row stores: the card is left out when its id is empty, and
its `prox_raw` is the id with its bytes in the opposite order. -/
def importEntry (row : AcuUserRecord × AcuUserCard) : AcuUserRecord × Option AcuUserCard :=
  (row.1,
    if row.2.cardId.isZero then none
    else
      some
        { cardId := row.2.cardId
          userId := row.1.userId
          proxRaw :=
            Blob.ofMemory (Memory.ofBytes row.2.cardId.reverse.bytes) 0 acuUserProxLen })

/-- A record is read back. -/
theorem decodeRecord_buildRecord {row : AcuUserRecord × AcuUserCard}
    (named : row.1.userId.isZero = false) (dated : row.1.expiredDate.toNat < 2 ^ 24)
    (index : UInt32) :
    decodeRecord (buildRecord row.1 row.2 index) = some (importEntry row) := by
  have holds := Memory.holds_ofBytes (buildRecord row.1 row.2 index)
  have checked := recordCrcOk_buildRecord holds
  have fields := fields_of_holds holds
  unfold decodeRecord importEntry
  simp only
  rw [checked, userbinParse_build fields.info dated, Blob.ofMemory_of_holds fields.card,
    Blob.ofMemory_of_holds fields.name, Blob.ofMemory_of_holds fields.group, fields.restrictType,
    fields.restrictLimitType, fields.restrictLimitCount, named]
  rfl

/-! ### Records one behind the other -/

namespace Encodes

/-- The checksum of every record passes. -/
theorem checked {bytes : Bytes} {rows : List (AcuUserRecord × AcuUserCard)}
    (encodes : Encodes bytes rows) :
    ∀ raw ∈ (blocks idtiUserbinRecInfoLen bytes).1,
      recordCrcOk (Memory.ofBytes raw) = true := by
  have positive : 0 < idtiUserbinRecInfoLen := by decide
  induction encodes with
  | nil =>
      rw [blocks_short positive]
      exact nofun
  | cons serial row later inductionHypothesis =>
      rw [blocks_cons positive (length_buildRecord _ _ _)]
      intro raw member
      rcases List.mem_cons.mp member with rfl | behind
      · exact recordCrcOk_buildRecord (Memory.holds_ofBytes _)
      · exact inductionHypothesis raw behind

/-- Every record is read back. -/
theorem decode {bytes : Bytes} {rows : List (AcuUserRecord × AcuUserCard)}
    (encodes : Encodes bytes rows) (named : ∀ row ∈ rows, row.1.userId.isZero = false)
    (dated : ∀ row ∈ rows, row.1.expiredDate.toNat < 2 ^ 24) :
    (∀ raw ∈ (blocks idtiUserbinRecInfoLen bytes).1, (decodeRecord raw).isSome = true) ∧
      (blocks idtiUserbinRecInfoLen bytes).1.filterMap decodeRecord = rows.map importEntry := by
  have positive : 0 < idtiUserbinRecInfoLen := by decide
  induction encodes with
  | nil =>
      rw [blocks_short positive]
      exact ⟨nofun, rfl⟩
  | cons serial row later inductionHypothesis =>
      obtain ⟨decoded, entries⟩ := inductionHypothesis
        (fun other member => named other (List.mem_cons_of_mem _ member))
        (fun other member => dated other (List.mem_cons_of_mem _ member))
      have first := decodeRecord_buildRecord (named row List.mem_cons_self)
        (dated row List.mem_cons_self) serial
      rw [blocks_cons positive (length_buildRecord _ _ _)]
      constructor
      · intro raw member
        rcases List.mem_cons.mp member with rfl | behind
        · rw [first]
          rfl
        · exact decoded raw behind
      · rw [List.filterMap_cons_some first, entries]
        rfl

end Encodes

end Acud
