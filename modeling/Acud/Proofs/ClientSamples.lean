/-
Module: Acud.Proofs.ClientSamples
Purpose: The users that the client makes, as records of the roster format.
Trusted boundary: none
Main exports:
  fromBytes_numberBytes, sampleUser, sampleCard, sampleRecord_eq, sendUserbin_eq, samples_decoded
-/
import Acud.Proofs.ClientFrames
import Acud.Proofs.RecordCodec
import Acud.Proofs.UploadResult

namespace Acud

open Lib
open IdtiClient (toBytes fromBytes sampleRecord makeUserRecord corrupted sendUserbin)

/-!
`send_userbin` makes its users from their positions: ids and card numbers are counted up, so
no two are the same, and each record is one that the device would send for such a user.  With
`--corrupt` the check byte of the first record is wrong, and that record alone is not read.

[SRC src/tools/idti_client.py, src/acud/userbin.c]
-/

/-! ### Numbers as bytes -/

/-- The bytes that `to_bytes` makes of a number that fits. -/
def numberBytes (width value : Nat) : Bytes :=
  (List.range width).map fun index => (value / 256 ^ (width - 1 - index)).toUInt8

theorem toBytes_number {width value : Nat} (fits : value < 256 ^ width) :
    toBytes width value = some (numberBytes width value) := by
  have bound : (value : Int) < ((256 ^ width : Nat) : Int) := Int.ofNat_lt.mpr fits
  rw [Int.natCast_pow] at bound
  rw [toBytes, if_pos ⟨Int.natCast_nonneg value, bound⟩, Int.toNat_natCast]
  rfl

theorem length_numberBytes (width value : Nat) : (numberBytes width value).length = width := by
  rw [numberBytes, List.length_map, List.length_range]

/-- The last byte is the low one. -/
theorem numberBytes_succ (width value : Nat) :
    numberBytes (width + 1) value = numberBytes width (value / 256) ++ [value.toUInt8] := by
  unfold numberBytes
  rw [List.range_succ, List.map_append, List.map_singleton, Nat.add_sub_cancel, Nat.sub_self,
    Nat.pow_zero, Nat.div_one]
  refine congrArg (· ++ [value.toUInt8]) (List.map_congr_left ?_)
  intro index member
  have inside := List.mem_range.mp member
  have exponent : width - index = width - 1 - index + 1 := by omega
  rw [exponent, Nat.pow_succ, Nat.mul_comm, Nat.div_div_eq_div_mul]

theorem fromBytes_concat (front : Bytes) (last : UInt8) :
    fromBytes (front ++ [last]) = 256 * fromBytes front + last.toNat := by
  rw [fromBytes, List.foldl_append]
  rfl

/-- A number that fits is read back. -/
theorem fromBytes_numberBytes {width value : Nat} (fits : value < 256 ^ width) :
    fromBytes (numberBytes width value) = value := by
  induction width generalizing value with
  | zero =>
      rw [Nat.pow_zero] at fits
      have zero : value = 0 := by omega
      rw [zero]
      rfl
  | succ width inductionHypothesis =>
      have front : value / 256 < 256 ^ width := by
        rw [Nat.pow_succ] at fits
        exact Nat.div_lt_of_lt_mul (by rwa [Nat.mul_comm])
      rw [numberBytes_succ, fromBytes_concat, inductionHypothesis front, Nat.toUInt8_eq,
        UInt8.toNat_ofNat']
      exact Nat.div_add_mod value 256

/-- Numbers that fit are told apart by their bytes. -/
theorem numberBytes_inj {width first second : Nat} (fits : first < 256 ^ width)
    (fitsToo : second < 256 ^ width) (same : numberBytes width first = numberBytes width second) :
    first = second := by
  rw [← fromBytes_numberBytes fits, same, fromBytes_numberBytes fitsToo]

/-- A number as an id. -/
def numberBlob (width value : Nat) : Blob width :=
  ⟨numberBytes width value, length_numberBytes width value⟩

/-! ### The users -/

/-- The user at a position, and the user's card. -/
def sampleUser (position : Nat) : AcuUserRecord :=
  { (default : AcuUserRecord) with
    userId := numberBlob acuUserIdLen (position + 1)
    accessOption := if position = 1 then 0 else 0x80000000
    level := 1
    timezoneCode := if position = 2 then 2 else 0
    expiredDate := 0xFFFFFF
    lcdName := ⟨List.replicate 16 0x20, rfl⟩ }

def sampleCard (position : Nat) : AcuUserCard :=
  importCardOf (numberBlob acuUserCardLen (0x5A5A0000 + position)) (sampleUser position).userId
where
  importCardOf (cardId : CardId) (userId : UserId) : AcuUserCard :=
    { cardId := cardId
      userId := userId
      proxRaw := Blob.ofMemory (Memory.ofBytes cardId.reverse.bytes) 0 acuUserProxLen }

/-- The record of a user is the one that the device sends for it. -/
theorem makeUserRecord_sample (position : Nat) :
    makeUserRecord (be32Bytes position.toUInt32) (sampleUser position).userId
        (sampleCard position).cardId (decide (position ≠ 1)) (be16Bytes 0)
        (be16Bytes (if position = 2 then 2 else 0)) 1 =
      buildRecord (sampleUser position) (sampleCard position) position.toUInt32 := by
  have option : be32Bytes (sampleUser position).accessOption =
      [if decide (position ≠ 1) then 0x80 else 0x00] ++ List.replicate 3 0 := by
    unfold sampleUser
    by_cases second : position = 1
    · simp only [second, if_true]
      decide
    · have first : decide (position ≠ 1) = true := decide_eq_true second
      rw [first]
      simp only [second, if_false]
      decide
  have expired : (be32Bytes (sampleUser position).expiredDate).drop 1 = [0xff, 0xff, 0xff] := by
    show (be32Bytes 0xFFFFFF).drop 1 = _
    decide
  have info : userbinBuildUserInfo (sampleUser position) =
      (sampleUser position).userId.bytes ++ List.replicate 4 0 ++
        [if decide (position ≠ 1) then 0x80 else 0x00] ++ List.replicate 3 0 ++ [1] ++
        be16Bytes 0 ++ be16Bytes (if position = 2 then 2 else 0) ++ [0xff, 0xff, 0xff] ++
        List.replicate 8 0 := by
    have revision : be16Bytes (sampleUser position).revisionId = be16Bytes 0 := rfl
    have validation : be16Bytes (sampleUser position).validationCode = be16Bytes 0 := rfl
    have password : be16Bytes (sampleUser position).accessPassword = be16Bytes 0 := rfl
    have zero : be16Bytes 0 = [0, 0] := rfl
    rw [userbinBuildUserInfo, option, expired, revision, validation, password, zero]
    simp only [List.append_assoc]
    rfl
  unfold makeUserRecord buildRecord
  simp only [info]
  have same : ∀ (front : Bytes) (card : Bytes),
      front ++ card ++ List.replicate 4 0 ++ List.replicate 16 0x20 ++ List.replicate 58 0 ++
          [0x01] =
        front ++ card ++ List.replicate 4 0 ++ (sampleUser position).lcdName.bytes ++
          [(sampleUser position).restrictType, (sampleUser position).restrictLimitType,
            (sampleUser position).restrictLimitCount] ++ List.replicate 5 0 ++
          (sampleUser position).groupCodes.bytes ++ List.replicate 34 0 ++ [0x01] := by
    intro front card
    simp only [List.append_assoc]
    rfl
  rw [same]

theorem sampleRecord_eq {position : Nat} (fits : position < 2 ^ 32) :
    sampleRecord position =
      some (buildRecord (sampleUser position) (sampleCard position) position.toUInt32) := by
  have number : toBytes 8 ((position : Int) + 1) = some (numberBytes 8 (position + 1)) := by
    rw [← Int.natCast_succ]
    exact toBytes_number (by omega)
  have card : toBytes 8 (0x5A5A0000 + (position : Int)) =
      some (numberBytes 8 (0x5A5A0000 + position)) := by
    have cast : (0x5A5A0000 : Int) + position = ((0x5A5A0000 + position : Nat) : Int) := by
      rw [Int.natCast_add]
      rfl
    rw [cast]
    exact toBytes_number (by omega)
  have serial : toBytes 4 (position : Int) = some (be32Bytes position.toUInt32) := by
    rw [IdtiClient.toBytes_four (Int.natCast_nonneg _) (by omega), Int.toNat_natCast]
  have validation : toBytes 2 0 = some (be16Bytes 0) := by decide
  have timezone : toBytes 2 (if position = 2 then 2 else 0) =
      some (be16Bytes (if position = 2 then 2 else 0)) := by
    split <;> decide
  unfold sampleRecord
  simp only [number, card, serial, validation, timezone, Option.bind_eq_bind, Option.bind_some,
    Option.pure_def]
  rw [← makeUserRecord_sample]
  have user : Blob.ofMemory (Memory.ofBytes (numberBytes 8 (position + 1))) 0 acuUserIdLen =
      (sampleUser position).userId :=
    Blob.ofMemory_of_holds (Memory.holds_ofBytes (sampleUser position).userId.bytes)
  have cardId : Blob.ofMemory (Memory.ofBytes (numberBytes 8 (0x5A5A0000 + position))) 0 8 =
      (sampleCard position).cardId :=
    Blob.ofMemory_of_holds (Memory.holds_ofBytes (sampleCard position).cardId.bytes)
  rw [user, cardId]

/-! ### The bytes that are sent -/

/-- The record at a position, and the records of the first users. -/
def sampleBytes (position : Nat) : Bytes :=
  buildRecord (sampleUser position) (sampleCard position) position.toUInt32

/-- What `send_userbin` sends. -/
def sentBytes (count : Nat) (corrupt : Bool) : Bytes :=
  if corrupt then corrupted ((List.range count).map sampleBytes).flatten
  else ((List.range count).map sampleBytes).flatten

theorem mapM_of_some {α β : Type} {step : α → Option β} {value : α → β} {items : List α}
    (each : ∀ item ∈ items, step item = some (value item)) :
    items.mapM step = some (items.map value) := by
  induction items with
  | nil => rfl
  | cons item rest inductionHypothesis =>
      rw [List.mapM_cons, each item List.mem_cons_self,
        inductionHypothesis fun other member => each other (List.mem_cons_of_mem item member)]
      rfl

theorem sendUserbin_eq {count : Nat} (few : count ≤ 2 ^ 32) (chunkSize : Nat) (corrupt : Bool) :
    sendUserbin count chunkSize corrupt =
      some (.start (sentBytes count corrupt) count chunkSize) := by
  have made : (List.range (count : Int).toNat).mapM sampleRecord =
      some ((List.range count).map sampleBytes) := by
    rw [Int.toNat_natCast]
    apply mapM_of_some
    intro position member
    have inside := List.mem_range.mp member
    exact sampleRecord_eq (by omega)
  unfold sendUserbin
  rw [made]
  rfl

theorem length_sampleBytes (position : Nat) :
    (sampleBytes position).length = idtiUserbinRecInfoLen :=
  length_buildRecord _ _ _

theorem length_records (positions : List Nat) :
    (positions.map sampleBytes).flatten.length = positions.length * idtiUserbinRecInfoLen := by
  induction positions with
  | nil => rw [List.map_nil, List.flatten_nil, List.length_nil, List.length_nil, Nat.zero_mul]
  | cons position rest inductionHypothesis =>
      rw [List.map_cons, List.flatten_cons, List.length_append, length_sampleBytes,
        inductionHypothesis, List.length_cons, Nat.succ_mul, Nat.add_comm]

theorem length_corrupted (blob : Bytes) : (corrupted blob).length = blob.length := by
  unfold corrupted
  split
  · exact List.length_set
  · rfl

theorem length_sentBytes (count : Nat) (corrupt : Bool) :
    (sentBytes count corrupt).length = count * idtiUserbinRecInfoLen := by
  unfold sentBytes
  cases corrupt with
  | false => simp only [Bool.false_eq_true, if_false, length_records, List.length_range]
  | true => simp only [if_true, length_corrupted, length_records, List.length_range]

/-! ### What the device reads in them -/

/-- What is stored of the user at a position. -/
def sampleEntry (position : Nat) : AcuUserRecord × Option AcuUserCard :=
  (sampleUser position, some (sampleCard position))

theorem isZero_numberBlob {width value : Nat} (fits : value < 256 ^ width)
    (positive : 0 < value) : (numberBlob width value).isZero = false := by
  by_contra zero
  have bytes := congrArg Blob.bytes (Blob.eq_zeros_of_isZero (Bool.eq_true_of_not_eq_false zero))
  have none : numberBytes width 0 = (Blob.zeros width).bytes := by
    unfold numberBytes Blob.zeros
    simp
  have same : numberBytes width value = numberBytes width 0 := bytes.trans none.symm
  have nothing := numberBytes_inj fits (Nat.pow_pos (by decide)) same
  omega

theorem sample_fits {position : Nat} (fits : position < 2 ^ 32) :
    position + 1 < 256 ^ acuUserIdLen ∧ 0x5A5A0000 + position < 256 ^ acuUserCardLen := by
  show position + 1 < 256 ^ 8 ∧ 0x5A5A0000 + position < 256 ^ 8
  omega

theorem importEntry_sample {position : Nat} (fits : position < 2 ^ 32) :
    importEntry (sampleUser position, sampleCard position) = sampleEntry position := by
  have card : (sampleCard position).cardId.isZero = false :=
    isZero_numberBlob (sample_fits fits).2 (by omega)
  unfold importEntry sampleEntry
  simp only [card, Bool.false_eq_true, if_false]
  rfl

theorem decodeRecord_sample {position : Nat} (fits : position < 2 ^ 32) :
    decodeRecord (sampleBytes position) = some (sampleEntry position) := by
  have named : (sampleUser position).userId.isZero = false :=
    isZero_numberBlob (sample_fits fits).1 (by omega)
  have dated : (sampleUser position).expiredDate.toNat < 2 ^ 24 := by
    show (0xFFFFFF : UInt32).toNat < 2 ^ 24
    decide
  rw [← importEntry_sample fits]
  exact @decodeRecord_buildRecord (sampleUser position, sampleCard position) named dated _

/-- The blocks of the records are the records. -/
theorem blocks_records (positions : List Nat) :
    (blocks idtiUserbinRecInfoLen (positions.map sampleBytes).flatten).1 =
      positions.map sampleBytes := by
  have positive : 0 < idtiUserbinRecInfoLen := by decide
  induction positions with
  | nil => rw [List.map_nil, List.flatten_nil, blocks_short positive]
  | cons position rest inductionHypothesis =>
      rw [List.map_cons, List.flatten_cons, blocks_cons positive (length_sampleBytes position),
        inductionHypothesis]

/-- A record with another check byte is not read. -/
theorem decodeRecord_wrong {record : AcuUserRecord} {card : AcuUserCard} {index : UInt32}
    {check : UInt8} (wrong : check ≠ xorBytes (recordBody record card)) :
    decodeRecord (be32Bytes index ++ be32Bytes index ++ recordBody record card ++ [check]) =
      none := by
  generalize made : be32Bytes index ++ be32Bytes index ++ recordBody record card ++ [check] = raw
  have holds := Memory.holds_ofBytes raw
  nth_rewrite 2 [← made] at holds
  simp only [List.append_assoc, Memory.holds_append, Memory.holds_cons, Memory.holds_nil,
    and_true, length_be32Bytes, length_recordBody, Nat.reduceAdd] at holds
  obtain ⟨_, _, body, datacrc⟩ := holds
  unfold Memory.Holds at body
  rw [length_recordBody] at body
  have refused : recordCrcOk (Memory.ofBytes raw) = false := by
    apply beq_false_of_ne
    show xorBytes ((Memory.ofBytes raw).read 8 119) ≠ (Memory.ofBytes raw).byte 127
    rw [body, datacrc]
    exact wrong.symm
  unfold decodeRecord
  simp only [refused, Bool.false_and, Bool.false_eq_true, if_false]

/-- The check byte stands at the end of a record. -/
theorem decodeRecord_corrupted (position : Nat) :
    decodeRecord (corrupted (sampleBytes position)) = none := by
  have long : 128 ≤ (sampleBytes position).length := Nat.le_of_eq (length_sampleBytes position).symm
  have bytes : sampleBytes position = be32Bytes position.toUInt32 ++ be32Bytes position.toUInt32 ++
      recordBody (sampleUser position) (sampleCard position) ++
        [xorBytes (recordBody (sampleUser position) (sampleCard position))] :=
    buildRecord_eq _ _ _
  have size : (be32Bytes position.toUInt32 ++ be32Bytes position.toUInt32 ++
      recordBody (sampleUser position) (sampleCard position)).length = 127 := by
    simp [length_recordBody]
  unfold corrupted
  rw [if_pos long, bytes, List.getD_eq_getElem?_getD,
    List.getElem?_append_right (Nat.le_of_eq size), List.set_append_right _ _ (Nat.le_of_eq size),
    size, Nat.sub_self, List.getElem?_cons_zero, Option.getD_some, List.set_cons_zero]
  apply decodeRecord_wrong
  intro same
  have nothing : (0xFF : UInt8) = 0 := by
    rw [← UInt8.xor_right_inj (xorBytes (recordBody (sampleUser position) (sampleCard position))),
      UInt8.xor_zero]
    exact same
  exact absurd nothing (by decide)

/-- The positions whose records can be read. -/
def samplePositions (count : Nat) (corrupt : Bool) : List Nat :=
  (List.range count).drop (if corrupt then 1 else 0)

theorem filterMap_samples {positions : List Nat} (fit : ∀ position ∈ positions, position < 2 ^ 32) :
    (positions.map sampleBytes).filterMap decodeRecord = positions.map sampleEntry := by
  induction positions with
  | nil => rfl
  | cons position rest inductionHypothesis =>
      rw [List.map_cons, List.map_cons,
        List.filterMap_cons_some (decodeRecord_sample (fit position List.mem_cons_self)),
        inductionHypothesis fun other member => fit other (List.mem_cons_of_mem position member)]

/-- The device finds `count` records, and it reads all of them but a corrupted first one. -/
theorem samples_decoded {count : Nat} (few : count ≤ 2 ^ 32) (corrupt : Bool) :
    (blocks idtiUserbinRecInfoLen (sentBytes count corrupt)).1.length = count ∧
      (blocks idtiUserbinRecInfoLen (sentBytes count corrupt)).1.filterMap decodeRecord =
        (samplePositions count corrupt).map sampleEntry := by
  have positive : 0 < idtiUserbinRecInfoLen := by decide
  have fit : ∀ position ∈ List.range count, position < 2 ^ 32 := fun position member =>
    Nat.lt_of_lt_of_le (List.mem_range.mp member) few
  have plain : (blocks idtiUserbinRecInfoLen (sentBytes count false)).1 =
      (List.range count).map sampleBytes := blocks_records _
  cases corrupt with
  | false =>
      rw [plain, List.length_map, List.length_range, filterMap_samples fit]
      exact ⟨rfl, rfl⟩
  | true =>
      cases count with
      | zero =>
          have none : sentBytes 0 true = [] := rfl
          rw [none, blocks_short positive]
          exact ⟨rfl, rfl⟩
      | succ later =>
          have split : List.range (later + 1) = 0 :: (List.range later).map Nat.succ :=
            List.range_succ_eq_map
          have size := length_sampleBytes 0
          have first : sentBytes (later + 1) true = corrupted (sampleBytes 0) ++
              (((List.range later).map Nat.succ).map sampleBytes).flatten := by
            have width : idtiUserbinRecInfoLen = 128 := rfl
            rw [width] at size
            unfold sentBytes corrupted
            rw [split, List.map_cons, List.flatten_cons, if_pos rfl, if_pos, if_pos,
              List.set_append_left _ _ (by omega), List.getD_eq_getElem?_getD,
              List.getElem?_append_left (by omega), List.getD_eq_getElem?_getD]
            · omega
            · rw [List.length_append]
              omega
          have full : (corrupted (sampleBytes 0)).length = idtiUserbinRecInfoLen :=
            (length_corrupted _).trans size
          have behind : samplePositions (later + 1) true = (List.range later).map Nat.succ := by
            unfold samplePositions
            rw [split]
            rfl
          rw [first, blocks_cons positive full, blocks_records]
          constructor
          · rw [List.length_cons, List.length_map, List.length_map, List.length_range]
          · rw [List.filterMap_cons_none (decodeRecord_corrupted 0), behind, filterMap_samples]
            intro position member
            apply fit
            rw [split]
            exact List.mem_cons_of_mem 0 member

theorem mem_samplePositions {count position : Nat} (few : count ≤ 2 ^ 32) {corrupt : Bool}
    (member : position ∈ samplePositions count corrupt) : position < 2 ^ 32 :=
  Nat.lt_of_lt_of_le (List.mem_range.mp (List.mem_of_mem_drop member)) few

/-- No two users have an id or a card in common. -/
theorem samples_distinct {count : Nat} (few : count ≤ 2 ^ 32) (corrupt : Bool) :
    DistinctEntries ((samplePositions count corrupt).map sampleEntry) := by
  have once : (samplePositions count corrupt).Nodup :=
    List.nodup_range.sublist (List.drop_sublist _ _)
  have apart : ∀ {width : Nat} (number : Nat → Nat),
      (∀ position ∈ samplePositions count corrupt, number position < 256 ^ width) →
      (∀ first second, number first = number second → first = second) →
      ((samplePositions count corrupt).map fun position =>
        numberBlob width (number position)).Nodup := by
    intro width number fit injective
    refine once.map_on fun first member second memberToo same => ?_
    exact injective _ _ (numberBytes_inj (fit first member) (fit second memberToo)
      (congrArg Blob.bytes same))
  constructor
  · rw [List.map_map]
    exact apart (· + 1) (fun position member => (sample_fits (mem_samplePositions few member)).1)
      (fun _ _ same => Nat.add_right_cancel same)
  · have cards : ((samplePositions count corrupt).map sampleEntry).filterMap (·.2) =
        (samplePositions count corrupt).map sampleCard := by
      rw [List.filterMap_map]
      exact congrFun List.filterMap_eq_map _
    rw [cards, List.map_map]
    exact apart (0x5A5A0000 + ·)
      (fun position member => (sample_fits (mem_samplePositions few member)).2)
      (fun _ _ same => Nat.add_left_cancel same)

end Acud
