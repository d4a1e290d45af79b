/-
Module: Acud.Proofs.RosterPositions
Purpose: A chunk of the roster depends on its index and not on the requests before it.
Trusted boundary: none
Main exports:
  Roster.exportRow, Roster.exportChunk, Positioned, chunkRows_positioned, requestAll,
  chunk_by_position
-/
import Acud.Proofs.RosterTransfer

namespace Acud

open Lib

/-!
Three readings of the roster serve a chunk, and cursors tell which: behind the last
user sent, from the start, or at an offset.  When no user has more than one card they
all give the users at the positions of the chunk.

The cursors are 16 bits wide.  They do not meet the base again, because a chunk with
the last index is empty when there are at most 65535 * 113 users.

[SRC src/acud/userbin.c]
-/

/-! ### Chunks by position -/

namespace Roster

/-- No user has more than one card. -/
def SingleCards (roster : Roster) : Prop :=
  ∀ record ∈ roster.users.rows,
    (roster.cards.rows.filter fun card => card.userId = record.userId).length ≤ 1

/-- A user with the user's card, or with an empty one. -/
def exportRow (roster : Roster) (record : AcuUserRecord) : AcuUserRecord × AcuUserCard :=
  (record,
    (roster.cardOfUser record.userId).getD
      { cardId := Blob.zeros _
        userId := record.userId
        proxRaw := Blob.zeros _ })

/-- The users at the positions of a chunk, numbered by their positions. -/
def exportChunk (roster : Roster) (chunk : Nat) : Bytes :=
  recordsFrom (chunk * userbinSendRecords)
    (((roster.usersById.drop (chunk * userbinSendRecords)).take userbinSendRecords).map
      roster.exportRow)

theorem SingleCards.joinCards {roster : Roster} (single : roster.SingleCards)
    {record : AcuUserRecord} (member : record ∈ roster.usersById) :
    roster.joinCards record = [roster.exportRow record] := by
  have few := single record (roster.usersById_perm.mem_iff.mp member)
  have first : (roster.cards.rows.filter fun card => card.userId = record.userId).head? =
      roster.cardOfUser record.userId := List.head?_filter
  unfold Roster.joinCards exportRow
  rw [← first]
  split
  next none =>
    rw [none]
    rfl
  next some =>
    generalize (roster.cards.rows.filter fun card => card.userId = record.userId) = cards
      at few some
    match cards, some, few with
    | [card], _, _ => rfl

/-- One row for each of some users. -/
theorem SingleCards.flatMap_joinCards {roster : Roster} (single : roster.SingleCards)
    {items : List AcuUserRecord} (listed : items ⊆ roster.usersById) :
    items.flatMap roster.joinCards = items.map roster.exportRow := by
  rw [List.map_eq_flatMap]
  apply List.flatMap_congr
  intro record member
  exact single.joinCards (listed member)

end Roster

/-! ### Cursors -/

/-- The cursors of a transfer whose first chunk had the index `base`: the last user sent
is the last one of a chunk, and the next index is the one behind it. -/
structure Positioned (ub : AcuUserBin) (roster : Roster) (base : UInt16) : Prop where
  active : ub.sendActive = true
  haveBase : ub.sendHaveBase = true
  baseIndex : ub.sendBaseIndex = base
  last : ub.sendHaveLast = true → ∃ chunk front last, chunk < 65535 ∧
    ub.sendNextIndex = base + (chunk + 1).toUInt16 ∧
    roster.usersById =
      front ++ last :: roster.usersById.drop ((chunk + 1) * userbinSendRecords) ∧
    ub.sendLastId = last.userId

section Positions

variable {users : AcuUsers} {ub : AcuUserBin} {roster : Roster} {base : UInt16}

/-- The position of the index behind a chunk. -/
theorem position_next {chunk : Nat} (few : chunk < 65535) :
    (base + (chunk + 1).toUInt16 - base).toNat = chunk + 1 := by
  rw [UInt16.add_comm, UInt16.add_sub_cancel, Nat.toUInt16_eq, UInt16.toNat_ofNat']
  exact Nat.mod_eq_of_lt (by omega)

/-- Whichever reading serves the chunk, it gives the users at its positions. -/
theorem chunkRows_positioned (answers : Answers users roster) (named : roster.Named)
    (single : roster.SingleCards) (positioned : Positioned ub roster base) (index : UInt16) :
    chunkRows users ub index =
      ((roster.usersById.drop ((index - base).toNat * userbinSendRecords)).take
        userbinSendRecords).map roster.exportRow := by
  unfold chunkRows
  split
  next inOrder =>
    rw [Bool.and_eq_true, decide_eq_true_eq] at inOrder
    obtain ⟨chunk, front, last, few, next, split, lastId⟩ := positioned.last inOrder.2
    have order := roster.usersById_ascending
    rw [split] at order
    have behind := filter_behind order
    rw [← split] at behind
    rw [answers.readAfter, Roster.readAfter, Roster.filter_joined, Option.getD_some, lastId,
      behind, single.flatMap_joinCards (List.drop_subset _ _), inOrder.1, next,
      position_next few, List.map_take]
  next =>
    split
    next first =>
      rw [answers.readAfter, Roster.readAfter, Roster.filter_joined, Option.getD_none,
        named.behind_zeros, single.flatMap_joinCards (List.Subset.refl _), first,
        positioned.baseIndex, UInt16.sub_self, List.map_take]
      rfl
    next =>
      rw [answers.readAt, Roster.readAt, Roster.joined,
        single.flatMap_joinCards (List.Subset.refl _), chunkFirst, positioned.baseIndex,
        List.map_take, List.map_drop]

/-- The cursors behind a chunk. -/
theorem Positioned.sent (positioned : Positioned ub roster base)
    (few : roster.users.count ≤ 65535 * userbinSendRecords) (index : UInt16) :
    Positioned
      (ub.sent index
        (((roster.usersById.drop ((index - base).toNat * userbinSendRecords)).take
          userbinSendRecords).map roster.exportRow)) roster base := by
  by_cases none : (roster.usersById.drop ((index - base).toNat * userbinSendRecords)).take
      userbinSendRecords = []
  · rw [none]
    exact positioned
  · obtain ⟨front, last, split, final⟩ := split_page none
    have lastRow : ((((roster.usersById.drop ((index - base).toNat * userbinSendRecords)).take
        userbinSendRecords).map roster.exportRow).getLast?) = some (roster.exportRow last) := by
      rw [List.getLast?_map, final]
      rfl
    have sent := ub.sent_some index lastRow
    -- The chunk has users, so its index is not the last one.
    have inside : (index - base).toNat < 65535 := by
      rw [← roster.length_usersById] at few
      by_contra beyond
      apply none
      rw [List.drop_of_length_le, List.take_nil]
      exact few.trans (Nat.mul_le_mul_right _ (Nat.le_of_not_lt beyond))
    refine
      { active := sent.active.trans positioned.active
        haveBase := sent.haveBase.trans positioned.haveBase
        baseIndex := sent.baseIndex.trans positioned.baseIndex
        last := fun _ => ⟨(index - base).toNat, front, last, inside, ?_, split, sent.lastId⟩ }
    rw [sent.nextIndex]
    have offset : ((index - base).toNat + 1).toUInt16 = index - base + 1 := by
      rw [Nat.toUInt16_eq, UInt16.ofNat_add, UInt16.ofNat_toNat]
      rfl
    rw [offset, ← UInt16.add_assoc, UInt16.add_comm base, UInt16.sub_add_cancel]

end Positions

/-! ### Requests in any order -/

/-- Answer requests for chunks one after another. -/
def requestAll : UserStore → List UInt16 → List (Option Bytes)
  | _, [] => []
  | store, index :: rest =>
      (userbinReceiveChunk store index).1 :: requestAll (userbinReceiveChunk store index).2 rest

section Requests

variable {store : UserStore} {roster : Roster} {base : UInt16}

/-- One request: the users at the positions of the chunk, and cursors as before. -/
theorem userbinReceiveChunk_positioned (answers : Answers store.users roster)
    (named : roster.Named) (single : roster.SingleCards)
    (few : roster.users.count ≤ 65535 * userbinSendRecords) {index : UInt16}
    (positioned : Positioned (store.userbin.based index) roster base) :
    (userbinReceiveChunk store index).1 = some (roster.exportChunk (index - base).toNat) ∧
      (userbinReceiveChunk store index).2.users = store.users ∧
      Positioned (userbinReceiveChunk store index).2.userbin roster base := by
  have active := (store.userbin.based_sendActive index).symm.trans positioned.active
  have rows := chunkRows_positioned answers named single positioned index
  rw [userbinReceiveChunk_eq active, rows]
  refine ⟨?_, rfl, positioned.sent few index⟩
  rw [chunkFirst, positioned.baseIndex]
  rfl

theorem requestAll_positioned (answers : Answers store.users roster) (named : roster.Named)
    (single : roster.SingleCards) (few : roster.users.count ≤ 65535 * userbinSendRecords)
    (positioned : Positioned store.userbin roster base) (indices : List UInt16) :
    requestAll store indices =
      indices.map fun index => some (roster.exportChunk (index - base).toNat) := by
  induction indices generalizing store with
  | nil => rfl
  | cons index rest inductionHypothesis =>
      have based : Positioned (store.userbin.based index) roster base := by
        rw [AcuUserBin.based_known positioned.haveBase]
        exact positioned
      obtain ⟨answered, same, later⟩ :=
        userbinReceiveChunk_positioned answers named single few based
      rw [requestAll, answered, inductionHypothesis (same ▸ answers) later]
      rfl

end Requests

/-- The fast and the slow readings agree: after the first request every reply is made of
the users at the positions of its index, whatever was requested before. -/
theorem chunk_by_position (store started : UserStore) (roster : Roster) (binaryObj : UInt8)
    (totals : UInt32 × UInt32)
    (accepted : userbinReceiveStart store binaryObj = (some totals, started))
    (reads : store.users.faults.Never .select) (running : store.users.running.view = .of roster)
    (named : roster.Named) (single : roster.SingleCards)
    (few : roster.users.count ≤ 65535 * userbinSendRecords) (base : UInt16)
    (indices : List UInt16) :
    requestAll started (base :: indices) =
      (base :: indices).map fun index => some (roster.exportChunk (index - base).toNat) := by
  obtain ⟨_, users, active, fresh, first⟩ := userbinReceiveStart_accepted accepted
  have answers : Answers started.users roster := users ▸ answers_of_running reads running
  have positioned : Positioned (started.userbin.based base) roster base := by
    rw [AcuUserBin.based_fresh fresh]
    exact
      { active := active
        haveBase := rfl
        baseIndex := rfl
        last := fun sent => absurd sent (by simp [first]) }
  obtain ⟨answered, same, later⟩ :=
    userbinReceiveChunk_positioned answers named single few positioned
  rw [requestAll, answered, requestAll_positioned (same ▸ answers) named single few later]
  rfl

/-- Requests in order, repeated, past the end and backwards. -/
theorem chunk_by_position_seeded :
    requestAll (userbinReceiveStart seededStore idtiUserbinObjInfo).2 [7, 8, 8, 7, 6, 7] =
      [7, 8, 8, 7, 6, 7].map fun index : UInt16 =>
        some (seededStore.users.roster.exportChunk (index - 7).toNat) := by
  have accepted : userbinReceiveStart seededStore idtiUserbinObjInfo =
      (some (640, 5), (userbinReceiveStart seededStore idtiUserbinObjInfo).2) :=
    Prod.ext (by decide +kernel) rfl
  have blank : UsersFile.blank.roster.Named := Roster.named_empty
  have named : seededStore.users.Named :=
    @run_named _ _ _ _ [] blank startStore_blank rfl
  have single : seededStore.users.roster.SingleCards := by
    unfold Roster.SingleCards
    decide +kernel
  exact chunk_by_position seededStore _ seededStore.users.roster _ _ accepted
    named.healthy.reads (TablePair.eq_of_exist named.healthy.exist.view) named.running.view
    single (by decide +kernel) 7 [8, 8, 7, 6, 7]

end Acud
