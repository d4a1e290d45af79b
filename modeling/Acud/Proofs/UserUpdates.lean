/-
Module: Acud.Proofs.UserUpdates
Purpose: What a set command that carries only some blocks leaves of the others.
Trusted boundary: none
Main exports:
  KeepsUncarried, NothingToLose, partial_update_keeps_iff
-/
import Acud.Proofs.UserBlocks

namespace Acud

open Lib

/-!
A set command replaces the row of the person as a whole, and builds the new row from a
cleared structure: a block that the payload is too short for is stored as zeros.  The
card table is different.  It is left alone without a card; a card that is carried
replaces the row of that card, whoever it belongs to.

[SRC src/acud/usercmd.c, src/acud/users.c]
-/

/-- What a set command for a stored person should keep: the blocks that the payload is too
short for, and everybody else. -/
structure KeepsUncarried (before after : Roster) (old : AcuUserRecord) (len : Nat) : Prop where
  stored : ∃ new, after.users.find? old.userId = some new ∧
    (len < idtiUserinfoLen + acuUserNameLen → new.lcdName = old.lcdName) ∧
    new.restrictType = old.restrictType ∧ new.restrictLimitType = old.restrictLimitType ∧
    new.restrictLimitCount = old.restrictLimitCount ∧ new.groupCodes = old.groupCodes
  cards : len < idtiUserinfoLen + acuUserNameLen + idtiUserdataLenCard →
    ∀ card, card.userId = old.userId → (card ∈ after.cards.rows ↔ card ∈ before.cards.rows)
  otherUsers : ∀ userId, userId ≠ old.userId →
    after.users.find? userId = before.users.find? userId
  otherCards : ∀ card, card.userId ≠ old.userId →
    (card ∈ after.cards.rows ↔ card ∈ before.cards.rows)

/-- The blocks that are not carried are blank already, and a card that is carried belongs
to nobody else. -/
structure NothingToLose (before : Roster) (old : AcuUserRecord) (data : Memory) (len : Nat) :
    Prop where
  name : len < idtiUserinfoLen + acuUserNameLen → old.lcdName = Blob.zeros acuUserNameLen
  restrictType : old.restrictType = 0
  restrictLimitType : old.restrictLimitType = 0
  restrictLimitCount : old.restrictLimitCount = 0
  group : old.groupCodes = Blob.zeros acuUserGroupLen
  card : ∀ card, usercmdSetCard data len = some card →
    ∀ row ∈ before.cards.rows, row.cardId = card.cardId → row.userId = old.userId

/-! ### What is stored -/

/-- The blocks of a payload that is shorter than the full block are stored as zeros. -/
theorem usercmdSetRecord_uncarried (data : Memory) {len : Nat} (lacks : len < idtiUserdataLen) :
    (usercmdSetRecord data len).restrictType = 0 ∧
      (usercmdSetRecord data len).restrictLimitType = 0 ∧
      (usercmdSetRecord data len).restrictLimitCount = 0 ∧
      (usercmdSetRecord data len).groupCodes = Blob.zeros acuUserGroupLen ∧
      (len < idtiUserinfoLen + acuUserNameLen →
        (usercmdSetRecord data len).lcdName = Blob.zeros acuUserNameLen) := by
  rw [usercmdSetRecord_eq]
  have reading := usercmdPlaces_reading len
  generalize usercmdPlaces len = places at reading ⊢
  cases reading with
  | info short => exact ⟨rfl, rfl, rfl, rfl, fun _ => rfl⟩
  | name enough short =>
      exact ⟨rfl, rfl, rfl, rfl, fun shorter => absurd enough (Nat.not_le.mpr shorter)⟩
  | card enough short =>
      refine ⟨rfl, rfl, rfl, rfl, fun shorter => ?_⟩
      exact absurd (name_le_card.trans enough) (Nat.not_le.mpr shorter)
  | whole enough => exact absurd enough (Nat.not_le.mpr lacks)

namespace Roster

theorem find?_store (roster : Roster) (record : AcuUserRecord) (card : Option AcuUserCard)
    (userId : UserId) :
    (roster.store record card).users.find? userId =
      if userId = record.userId then some record else roster.users.find? userId := by
  rw [users_store, Table.find?_insertOrReplace]

theorem mem_cards_store {roster : Roster} {record : AcuUserRecord} {card : Option AcuUserCard}
    {row : AcuUserCard} :
    row ∈ (roster.store record card).cards.rows ↔
      (row ∈ roster.cards.rows ∧ ∀ new ∈ card, row.cardId ≠ new.cardId) ∨ card = some row := by
  cases card with
  | none => simp [store, put]
  | some new =>
      rw [store, putCard, Table.mem_insertOrReplace]
      simp [put, eq_comm]

/-- The cards of the others stay exactly when the card that comes is none of theirs. -/
theorem otherCards_store_iff {roster : Roster} {record : AcuUserRecord}
    {card : Option AcuUserCard} {userId : UserId} (own : ∀ new ∈ card, new.userId = userId) :
    (∀ row, row.userId ≠ userId →
        (row ∈ (roster.store record card).cards.rows ↔ row ∈ roster.cards.rows)) ↔
      ∀ new ∈ card, ∀ row ∈ roster.cards.rows, row.cardId = new.cardId → row.userId = userId := by
  constructor
  · intro keeps new carried row member same
    by_contra other
    have kept := (keeps row other).mpr member
    rcases mem_cards_store.mp kept with ⟨_, different⟩ | stored
    · exact different new carried same
    · exact other (own row stored)
  · intro free row other
    rw [mem_cards_store]
    constructor
    · rintro (⟨member, _⟩ | stored)
      · exact member
      · exact absurd (own row stored) other
    · intro member
      refine .inl ⟨member, ?_⟩
      intro new carried same
      exact other (free new carried row member same)

end Roster

/-- **A partial update keeps what it does not carry** exactly when there was nothing to
lose. -/
theorem partial_update_keeps_iff {u : AcuUsers} {data : Memory} {len : Nat}
    {old : AcuUserRecord} (lacks : len < idtiUserdataLen)
    (existing : u.roster.users.find? (usercmdSetRecord data len).userId = some old)
    (answered : (usercmdSet u data len).1 = .ok) :
    KeepsUncarried u.roster (usercmdSet u data len).2.roster old len ↔
      NothingToLose u.roster old data len := by
  have person : old.userId = (usercmdSetRecord data len).userId := Table.key_of_find? existing
  have own : ∀ new ∈ usercmdSetCard data len, new.userId = old.userId := by
    intro new carried
    exact (userId_usercmdSetCard carried).trans person.symm
  obtain ⟨restrictType, limitType, limitCount, group, name⟩ :=
    usercmdSetRecord_uncarried data lacks
  rw [(usercmdSet_outcome u data len).roster_of_ok answered]
  have found : (u.roster.store (usercmdSetRecord data len) (usercmdSetCard data len)).users.find?
      old.userId = some (usercmdSetRecord data len) := by
    rw [Roster.find?_store, if_pos person]
  constructor
  · intro keeps
    obtain ⟨new, foundNew, nameKept, typeKept, limitKept, countKept, groupKept⟩ := keeps.stored
    rw [found] at foundNew
    cases foundNew
    exact
      { name := fun short => (nameKept short).symm.trans (name short)
        restrictType := typeKept.symm.trans restrictType
        restrictLimitType := limitKept.symm.trans limitType
        restrictLimitCount := countKept.symm.trans limitCount
        group := groupKept.symm.trans group
        card := (Roster.otherCards_store_iff own).mp keeps.otherCards }
  · intro nothing
    refine
      { stored := ?_
        cards := ?_
        otherUsers := ?_
        otherCards := (Roster.otherCards_store_iff own).mpr nothing.card }
    · refine ⟨_, found, ?_, ?_, ?_, ?_, ?_⟩
      · exact fun short => (name short).trans (nothing.name short).symm
      · exact restrictType.trans nothing.restrictType.symm
      · exact limitType.trans nothing.restrictLimitType.symm
      · exact limitCount.trans nothing.restrictLimitCount.symm
      · exact group.trans nothing.group.symm
    · intro short card _
      have without : usercmdSetCard data len = none :=
        if_neg fun carried => Nat.not_le.mpr short carried.1
      rw [Roster.mem_cards_store, without]
      simp
    · intro userId other
      rw [Roster.find?_store, if_neg fun same => other (same.trans person.symm)]

/-- Person 9 without a name loses nothing when only the user info is sent. -/
theorem partial_update_keeps_info :
    KeepsUncarried (storeFailing cardedRoster 2).roster
      (usercmdSet (storeFailing cardedRoster 2) (setCommand 2) idtiUserinfoLen).2.roster
      (usercmdSetRecord (setCommand 1) setCommandLen) idtiUserinfoLen := by
  refine (partial_update_keeps_iff (by decide) (by decide +kernel) (by decide +kernel)).mpr ?_
  have without : usercmdSetCard (setCommand 2) idtiUserinfoLen = none := by decide +kernel
  exact
    { name := fun _ => by decide +kernel
      restrictType := by decide +kernel
      restrictLimitType := by decide +kernel
      restrictLimitCount := by decide +kernel
      group := by decide +kernel
      card := fun card carried => by
        rw [without] at carried
        cases carried }

/-- Person 9 with a name of one letter. -/
def namedCommand : Memory :=
  { byte := fun index =>
      if index = idtiUserinfoOffId then 9
      else if index = idtiUserdataOffName then 0x41
      else 0 }

def namedRecord : AcuUserRecord :=
  usercmdSetRecord namedCommand (idtiUserinfoLen + acuUserNameLen)

/-- The user info alone is answered OK and clears the name. -/
theorem partial_update_clears_name :
    (usercmdSet (storeFailing (Roster.empty.put namedRecord) 2) namedCommand
        idtiUserinfoLen).1 = .ok ∧
      ¬ KeepsUncarried (storeFailing (Roster.empty.put namedRecord) 2).roster
        (usercmdSet (storeFailing (Roster.empty.put namedRecord) 2) namedCommand
          idtiUserinfoLen).2.roster namedRecord idtiUserinfoLen := by
  refine ⟨by decide +kernel, ?_⟩
  intro keeps
  obtain ⟨new, found, nameKept, _⟩ := keeps.stored
  have cleared :
      ((usercmdSet (storeFailing (Roster.empty.put namedRecord) 2) namedCommand
        idtiUserinfoLen).2.roster.users.find? namedRecord.userId).map AcuUserRecord.lcdName =
        some (Blob.zeros acuUserNameLen) := by decide +kernel
  rw [found] at cleared
  have same := (Option.some.inj cleared).symm.trans (nameKept (by decide))
  exact absurd same (by decide +kernel)

end Acud
