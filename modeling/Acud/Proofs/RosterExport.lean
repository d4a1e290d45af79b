/-
Module: Acud.Proofs.RosterExport
Purpose: What the upper system receives when it takes the roster in chunks.
Trusted boundary: none
Main exports:
  AcuUserBin.based, chunkRows, recordsFrom, userbinReceiveChunk_eq
-/
import Acud.UserBin

namespace Acud

open Lib

/-!
A chunk is chosen by one of three readings of the roster and then encoded.  The
choice depends on the cursors of the transfer; the encoding only on the rows and
on their first position.

[SRC src/acud/userbin.c]
-/

/-! ### One chunk -/

/-- The cursors when a chunk is requested: the first request sets the base. -/
def AcuUserBin.based (ub : AcuUserBin) (index : UInt16) : AcuUserBin :=
  if ub.sendHaveBase then ub
  else
    { ub with
      sendBaseIndex := index
      sendNextIndex := index
      sendHaveBase := true }

theorem AcuUserBin.based_known {ub : AcuUserBin} (known : ub.sendHaveBase = true)
    (index : UInt16) : ub.based index = ub :=
  if_pos known

theorem AcuUserBin.based_fresh {ub : AcuUserBin} (fresh : ub.sendHaveBase = false)
    (index : UInt16) :
    ub.based index =
      { ub with
        sendBaseIndex := index
        sendNextIndex := index
        sendHaveBase := true } :=
  if_neg (by rw [fresh]; decide)

theorem AcuUserBin.based_haveBase (ub : AcuUserBin) (index : UInt16) :
    (ub.based index).sendHaveBase = true := by
  unfold AcuUserBin.based
  split
  next known => exact known
  next => rfl

theorem AcuUserBin.based_sendActive (ub : AcuUserBin) (index : UInt16) :
    (ub.based index).sendActive = ub.sendActive := by
  unfold AcuUserBin.based
  split <;> rfl

/-- The position of the first record of a chunk. -/
def chunkFirst (ub : AcuUserBin) (index : UInt16) : Nat :=
  (index - ub.sendBaseIndex).toNat * userbinSendRecords

/-- The rows of a chunk. -/
def chunkRows (users : AcuUsers) (ub : AcuUserBin) (index : UInt16) :
    List (AcuUserRecord × AcuUserCard) :=
  if index = ub.sendNextIndex && ub.sendHaveLast then
    usersReadAfter users (some ub.sendLastId) userbinSendRecords
  else if index = ub.sendBaseIndex then usersReadAfter users none userbinSendRecords
  else usersReadAt users (chunkFirst ub index) userbinSendRecords

/-- Rows as they go out, numbered from a position on. -/
def recordsFrom (first : Nat) (rows : List (AcuUserRecord × AcuUserCard)) : Bytes :=
  (rows.mapIdx fun position row =>
    buildRecord row.1 row.2 (first + position).toUInt32).flatten

/-- The cursors after a chunk; an empty one leaves them. -/
def AcuUserBin.sent (ub : AcuUserBin) (index : UInt16)
    (rows : List (AcuUserRecord × AcuUserCard)) : AcuUserBin :=
  match rows.getLast? with
  | none => ub
  | some row =>
      { ub with
        sendLastId := row.1.userId
        sendHaveLast := true
        sendNextIndex := index + 1 }

/-- The cursors behind a chunk that ends with a row of this user. -/
structure Sent (ub after : AcuUserBin) (index : UInt16) (last : UserId) : Prop where
  active : after.sendActive = ub.sendActive
  haveBase : after.sendHaveBase = ub.sendHaveBase
  baseIndex : after.sendBaseIndex = ub.sendBaseIndex
  nextIndex : after.sendNextIndex = index + 1
  haveLast : after.sendHaveLast = true
  lastId : after.sendLastId = last

theorem AcuUserBin.sent_some (ub : AcuUserBin) (index : UInt16)
    {rows : List (AcuUserRecord × AcuUserCard)} {row : AcuUserRecord × AcuUserCard}
    (last : rows.getLast? = some row) : Sent ub (ub.sent index rows) index row.1.userId := by
  unfold AcuUserBin.sent
  rw [last]
  exact ⟨rfl, rfl, rfl, rfl, rfl, rfl⟩

theorem userbinReceiveChunk_eq {store : UserStore} (active : store.userbin.sendActive = true)
    (index : UInt16) :
    userbinReceiveChunk store index =
      (some (recordsFrom (chunkFirst (store.userbin.based index) index)
          (chunkRows store.users (store.userbin.based index) index)),
        { store with
          userbin := (store.userbin.based index).sent index
            (chunkRows store.users (store.userbin.based index) index) }) := by
  unfold userbinReceiveChunk
  rw [if_neg (by rw [active]; decide)]
  rfl

/-- Without a Start there is no chunk. -/
theorem userbinReceiveChunk_inactive {store : UserStore}
    (inactive : store.userbin.sendActive = false) (index : UInt16) :
    userbinReceiveChunk store index = (none, store) := by
  unfold userbinReceiveChunk
  rw [if_pos inactive]

/-! ### Lengths -/

theorem usersReadAfter_length_le (u : AcuUsers) (afterId : Option UserId) (max : Nat) :
    (usersReadAfter u afterId max).length ≤ max := by
  unfold usersReadAfter
  split
  next => exact List.length_take_le _ _
  next => exact Nat.zero_le _

theorem usersReadAt_length_le (u : AcuUsers) (offset max : Nat) :
    (usersReadAt u offset max).length ≤ max := by
  unfold usersReadAt
  split
  next => exact List.length_take_le _ _
  next => exact Nat.zero_le _

theorem length_chunkRows_le (users : AcuUsers) (ub : AcuUserBin) (index : UInt16) :
    (chunkRows users ub index).length ≤ userbinSendRecords := by
  unfold chunkRows
  split
  next => exact usersReadAfter_length_le _ _ _
  next =>
    split
    next => exact usersReadAfter_length_le _ _ _
    next => exact usersReadAt_length_le _ _ _

theorem length_userbinBuildUserInfo (record : AcuUserRecord) :
    (userbinBuildUserInfo record).length = idtiUserinfoLen := by
  simp only [userbinBuildUserInfo, List.length_append, List.length_cons, List.length_nil,
    List.length_drop, be16Bytes, be32Bytes, Blob.length_eq]
  rfl

theorem length_buildRecord (record : AcuUserRecord) (card : AcuUserCard) (index : UInt32) :
    (buildRecord record card index).length = idtiUserbinRecInfoLen := by
  simp only [buildRecord, userbinBuildUserInfo, List.length_append, List.length_cons,
    List.length_nil, List.length_replicate, List.length_drop, be16Bytes, be32Bytes,
    Blob.length_eq]
  rfl

/-- A record begins with the position of its user, twice. -/
theorem buildRecord_position (record : AcuUserRecord) (card : AcuUserCard) (index : UInt32) :
    (buildRecord record card index).take 4 = be32Bytes index ∧
      ((buildRecord record card index).drop 4).take 4 = be32Bytes index :=
  ⟨rfl, rfl⟩

theorem recordsFrom_cons (first : Nat) (row : AcuUserRecord × AcuUserCard)
    (rest : List (AcuUserRecord × AcuUserCard)) :
    recordsFrom first (row :: rest) =
      buildRecord row.1 row.2 first.toUInt32 ++ recordsFrom (first + 1) rest := by
  simp [recordsFrom, List.mapIdx_cons, Nat.add_assoc, Nat.add_comm 1]

/-- Records one behind the other, each of the same length. -/
theorem length_recordsFrom (first : Nat) (rows : List (AcuUserRecord × AcuUserCard)) :
    (recordsFrom first rows).length = rows.length * idtiUserbinRecInfoLen := by
  induction rows generalizing first with
  | nil => simp [recordsFrom]
  | cons row rest inductionHypothesis =>
      rw [recordsFrom_cons, List.length_append, inductionHypothesis, length_buildRecord,
        List.length_cons, Nat.succ_mul, Nat.add_comm]

/-- A chunk has at most as many records as fit. -/
theorem userbinReceiveChunk_length_le {store after : UserStore} {index : UInt16} {chunk : Bytes}
    (read : userbinReceiveChunk store index = (some chunk, after)) :
    chunk.length ≤ userbinSendChunk := by
  cases active : store.userbin.sendActive with
  | false =>
      rw [userbinReceiveChunk_inactive active] at read
      cases read
  | true =>
      rw [userbinReceiveChunk_eq active] at read
      cases read
      rw [length_recordsFrom]
      have few := length_chunkRows_le store.users (store.userbin.based index) index
      exact (Nat.mul_le_mul_right _ few).trans (by decide)

/-! ### The other direction is not touched -/

theorem AcuUserBin.sent_active (ub : AcuUserBin) (index : UInt16)
    (rows : List (AcuUserRecord × AcuUserCard)) : (ub.sent index rows).active = ub.active := by
  unfold AcuUserBin.sent
  split <;> rfl

theorem AcuUserBin.based_active (ub : AcuUserBin) (index : UInt16) :
    (ub.based index).active = ub.active := by
  unfold AcuUserBin.based
  split <;> rfl

/-- Reading the roster neither starts nor ends an upload. -/
theorem userbinReceiveChunk_active (store : UserStore) (index : UInt16) :
    (userbinReceiveChunk store index).2.userbin.active = store.userbin.active := by
  cases active : store.userbin.sendActive with
  | false => rw [userbinReceiveChunk_inactive active]
  | true =>
      rw [userbinReceiveChunk_eq active]
      exact (AcuUserBin.sent_active _ _ _).trans (AcuUserBin.based_active _ _)

theorem userbinReceiveStart_active (store : UserStore) (binaryObj : UInt8) :
    (userbinReceiveStart store binaryObj).2.userbin.active = store.userbin.active := by
  unfold userbinReceiveStart
  simp only
  repeat' split
  all_goals rfl

end Acud
