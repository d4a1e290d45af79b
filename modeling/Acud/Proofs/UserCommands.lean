/-
Module: Acud.Proofs.UserCommands
Purpose: What the commands for one user do to the tables, for every outcome of a statement.
Trusted boundary: none
Main exports:
  usercmdNames, SetOutcome, usercmdSet_outcome, deletedUser, usercmdDelete_eq
-/
import Acud.Proofs.RosterChanges
import Acud.UserCmd

namespace Acud

open Lib

/-!
A set command executes up to two statements and a delete command two, each in the table
it names and without a transaction around them.  `SetOutcome` lists what can come of a
set; a delete that is long enough is the delete of the person it names.  Nothing here asks
for tables that exist or for a store that does not fail.
-/

/-! ### Set -/

theorem userId_usercmdSetRecord (data : Memory) (len : Nat) :
    (usercmdSetRecord data len).userId =
      Blob.ofMemory data idtiUserinfoOffId acuUserIdLen := by
  unfold usercmdSetRecord
  simp only
  split
  next => rfl
  next =>
    split
    next => rfl
    next => rfl

theorem userId_usercmdSetCard {data : Memory} {len : Nat} {card : AcuUserCard}
    (carried : usercmdSetCard data len = some card) :
    card.userId = (usercmdSetRecord data len).userId := by
  unfold usercmdSetCard at carried
  simp only at carried
  split at carried
  next =>
    cases carried
    rw [userId_usercmdSetRecord]
  next => cases carried

/-- The payload of a set command is long enough and names a person. -/
def usercmdNames (data : Memory) (len : Nat) : Bool :=
  decide (idtiUserinfoLen ≤ len) && !(usercmdSetRecord data len).userId.isZero

/-- What can come of a set command. -/
inductive SetOutcome (u : AcuUsers) (data : Memory) (len : Nat) :
    AcuUserCmdStatus × AcuUsers → Prop where
  | refused (names : usercmdNames data len = false) : SetOutcome u data len (.fail, u)
  | notStored {after : AcuUsers} (names : usercmdNames data len = true)
      (fails : u.executes (.put (usercmdSetRecord data len)) = false)
      (roster : after.roster = u.roster) (keeps : u.KeepsTables after) :
      SetOutcome u data len (.fail, after)
  | stored {after : AcuUsers} (names : usercmdNames data len = true)
      (done : u.executes (.put (usercmdSetRecord data len)) = true)
      (without : usercmdSetCard data len = none)
      (faults : after.faults = u.faults.next)
      (users : after.conn.view.users.isSome = true)
      (roster : after.roster = u.roster.put (usercmdSetRecord data len))
      (keeps : u.KeepsTables after) : SetOutcome u data len (.ok, after)
  | torn {after : AcuUsers} {card : AcuUserCard} (names : usercmdNames data len = true)
      (done : u.executes (.put (usercmdSetRecord data len)) = true)
      (carried : usercmdSetCard data len = some card)
      (fails : u.executesNext (.putCard card) = false)
      (roster : after.roster = u.roster.put (usercmdSetRecord data len))
      (keeps : u.KeepsTables after) : SetOutcome u data len (.fail, after)
  | paired {after : AcuUsers} {card : AcuUserCard} (names : usercmdNames data len = true)
      (done : u.executes (.put (usercmdSetRecord data len)) = true)
      (carried : usercmdSetCard data len = some card)
      (follows : u.executesNext (.putCard card) = true)
      (faults : after.faults = u.faults.next.next)
      (users : after.conn.view.users.isSome = true)
      (cards : after.conn.view.userCards.isSome = true)
      (roster : after.roster =
        (u.roster.put (usercmdSetRecord data len)).putCard card)
      (keeps : u.KeepsTables after) : SetOutcome u data len (.ok, after)

theorem executes_table {u : AcuUsers} {statement : UsersStmt} (done : u.executes statement = true) :
    (statement.change u.conn.view).isSome = true :=
  (Bool.and_eq_true_iff.mp done).2

theorem usercmdSet_outcome (u : AcuUsers) (data : Memory) (len : Nat) :
    SetOutcome u data len (usercmdSet u data len) := by
  have put := execute_effect u (rfl : (UsersStmt.put (usercmdSetRecord data len)).individual = true)
  unfold usercmdSet
  split
  next short =>
    apply SetOutcome.refused
    simp [usercmdNames, short]
  next long =>
    split
    next unnamed =>
      apply SetOutcome.refused
      simp [usercmdNames, unnamed]
    next named =>
      have names : usercmdNames data len = true := by
        simp [usercmdNames, named, Nat.not_lt.mp long]
      unfold usersPut
      split
      next failed result =>
        rw [result] at put
        exact .notStored names put.answer.symm put.roster put.keepsTables
      next stored result =>
        rw [result] at put
        have done := put.answer.symm
        have users : stored.conn.view.users.isSome = true := by
          rw [put.users, ← executes_table done]
          exact (Option.isSome_map).symm
        split
        next without =>
          exact .stored names done without put.faults users put.roster put.keepsTables
        next card carried =>
          have pair := execute_effect stored (rfl : (UsersStmt.putCard card).individual = true)
          have second := put.executes_second (rfl : (UsersStmt.putCard card).individual = true)
          unfold usersPutCard
          split
          next failed result =>
            rw [result] at pair
            have keeps := put.keepsTables.trans pair.keepsTables
            have fails := second.symm.trans pair.answer.symm
            exact .torn names done carried fails (pair.roster.trans put.roster) keeps
          next paired result =>
            rw [result] at pair
            have keeps := put.keepsTables.trans pair.keepsTables
            have follows := second.symm.trans pair.answer.symm
            refine .paired names done carried follows ?_ ?_ ?_ ?_ keeps
            · rw [pair.faults, put.faults]
            · rw [pair.users, users]
            · rw [pair.cards, ← executes_table pair.answer.symm]
              exact (Option.isSome_map).symm
            · have roster : paired.roster = stored.roster.putCard card := pair.roster
              rw [roster, put.roster]
              rfl

theorem SetOutcome.keepsTables {u : AcuUsers} {data : Memory} {len : Nat}
    {result : AcuUserCmdStatus × AcuUsers} (outcome : SetOutcome u data len result) :
    u.KeepsTables result.2 := by
  cases outcome with
  | refused names => exact .refl u
  | notStored names fails roster keeps => exact keeps
  | stored names done without faults users roster keeps => exact keeps
  | torn names done carried fails roster keeps => exact keeps
  | paired names done carried follows faults users cards roster keeps => exact keeps

/-! ### Delete -/

/-- The person a delete command names. -/
def deletedUser (data : Memory) : UserId :=
  Blob.ofMemory data 0 acuUserIdLen

/-- A delete command that is long enough is a delete of the person it names. -/
theorem usercmdDelete_eq (u : AcuUsers) (data : Memory) {len : Nat} (long : acuUserIdLen ≤ len) :
    usercmdDelete u data len =
      (if (usersDelete u (deletedUser data)).1 then .ok else .fail,
        (usersDelete u (deletedUser data)).2) := by
  unfold usercmdDelete deletedUser
  rw [if_neg (Nat.not_lt.mpr long)]
  rcases usersDelete u (Blob.ofMemory data 0 acuUserIdLen) with ⟨_ | _, after⟩
  · rfl
  · rfl

/-- A delete command is a delete of the person it names, unless it is too short. -/
theorem usercmdDelete_effect (u : AcuUsers) (data : Memory) (len : Nat) :
    usercmdDelete u data len = (.fail, u) ∨
      usercmdDelete u data len =
        (if (usersDelete u (deletedUser data)).1 then .ok else .fail,
          (usersDelete u (deletedUser data)).2) := by
  by_cases long : acuUserIdLen ≤ len
  · exact .inr (usercmdDelete_eq u data long)
  · exact .inl (if_pos (Nat.not_le.mp long))

theorem usercmdDelete_keepsTables (u : AcuUsers) (data : Memory) (len : Nat) :
    u.KeepsTables (usercmdDelete u data len).2 := by
  obtain ⟨_, tables, _⟩ := usersDelete_effect u (deletedUser data)
  rcases usercmdDelete_effect u data len with refused | executed
  · rw [refused]
    exact .refl u
  · rw [executed]
    exact tables

end Acud
