/-
Module: Acud.Proofs.RosterChanges
Purpose: Rosters with the same content, and individual changes of a roster.
Trusted boundary: none
Main exports:
  Roster.Same, Roster.change, Roster.Same.change, StatementEffect, execute_effect,
  execute_individual, usersDelete_effect, usersDelete_roster, AcuUsers.Uncommitted
-/
import Acud.Proofs.RosterStore

namespace Acud

open Lib

/-!
Two rosters are the same when every key finds the same row in both; in what order the
rows were stored does not matter.

An individual change is one statement on a running table, except a delete, which is
two: the cards of the person first, and then the person.
-/

/-! ### The same content -/

namespace Roster

structure Same (first second : Roster) : Prop where
  users : ∀ userId, first.users.find? userId = second.users.find? userId
  cards : ∀ cardId, first.cards.find? cardId = second.cards.find? cardId

namespace Same

theorem refl (roster : Roster) : Same roster roster :=
  { users := fun _ => rfl
    cards := fun _ => rfl }

theorem symm {first second : Roster} (same : Same first second) : Same second first :=
  { users := fun userId => (same.users userId).symm
    cards := fun cardId => (same.cards cardId).symm }

theorem trans {first second third : Roster} (early : Same first second)
    (late : Same second third) : Same first third :=
  { users := fun userId => (early.users userId).trans (late.users userId)
    cards := fun cardId => (early.cards cardId).trans (late.cards cardId) }

theorem put {first second : Roster} (same : Same first second) (record : AcuUserRecord) :
    Same (first.put record) (second.put record) := by
  refine { users := fun userId => ?_, cards := same.cards }
  unfold Roster.put
  rw [Table.find?_insertOrReplace, Table.find?_insertOrReplace, same.users]

theorem putCard {first second : Roster} (same : Same first second) (card : AcuUserCard) :
    Same (first.putCard card) (second.putCard card) := by
  refine { users := same.users, cards := fun cardId => ?_ }
  unfold Roster.putCard
  rw [Table.find?_insertOrReplace, Table.find?_insertOrReplace, same.cards]

theorem deleteCardsOf {first second : Roster} (same : Same first second) (userId : UserId) :
    Same (first.deleteCardsOf userId) (second.deleteCardsOf userId) := by
  refine { users := same.users, cards := fun cardId => ?_ }
  unfold Roster.deleteCardsOf
  rw [Table.find?_deleteWhere, Table.find?_deleteWhere, same.cards]

theorem deleteUser {first second : Roster} (same : Same first second) (userId : UserId) :
    Same (first.deleteUser userId) (second.deleteUser userId) := by
  refine { users := fun other => ?_, cards := same.cards }
  unfold Roster.deleteUser
  rw [Table.find?_deleteWhere, Table.find?_deleteWhere, same.users]

/-- Rosters with the same content resolve cards alike. -/
theorem userOfCard {first second : Roster} (same : Same first second) (cardId : CardId) :
    first.userOfCard cardId = second.userOfCard cardId := by
  unfold Roster.userOfCard
  rw [same.cards]
  exact congrArg (Option.bind _) (funext fun card => same.users card.userId)

end Same

/-- Some card row belongs to the person. -/
def HasCard (roster : Roster) (userId : UserId) : Prop :=
  ∃ card ∈ roster.cards.rows, card.userId = userId

/-- Without a card row there is nothing to delete. -/
theorem same_deleteCardsOf {roster : Roster} {userId : UserId}
    (none : ¬ roster.HasCard userId) : Same (roster.deleteCardsOf userId) roster := by
  refine { users := fun _ => rfl, cards := fun cardId => ?_ }
  unfold deleteCardsOf
  rw [Table.find?_deleteWhere]
  cases found : roster.cards.find? cardId with
  | none => rfl
  | some card =>
      have other : card.userId ≠ userId := by
        intro same
        exact none ⟨card, Table.mem_of_find? found, same⟩
      simp [Option.filter, other]

/-- A card row that is deleted is missed. -/
theorem not_same_deleteCardsOf {roster other : Roster} {userId : UserId}
    (some : roster.HasCard userId) (cards : other.cards = roster.cards) :
    ¬ Same (roster.deleteCardsOf userId) other := by
  intro same
  obtain ⟨card, member, owner⟩ := some
  have found := same.cards card.cardId
  rw [cards, Table.find?_of_mem member] at found
  unfold deleteCardsOf at found
  rw [Table.find?_deleteWhere, Table.find?_of_mem member] at found
  simp [Option.filter, owner] at found

end Roster

/-! ### Individual statements -/

namespace UsersStmt

/-- Statements that change one person or card of the running tables. -/
def individual : UsersStmt → Bool
  | .put _ | .putCard _ | .deleteCardsOf _ | .deleteUser _ => true
  | _ => false

end UsersStmt

/-- What an individual statement makes of a roster. -/
def Roster.change (roster : Roster) : UsersStmt → Roster
  | .put record => roster.put record
  | .putCard card => roster.putCard card
  | .deleteCardsOf userId => roster.deleteCardsOf userId
  | .deleteUser userId => roster.deleteUser userId
  | _ => roster

theorem Roster.Same.change {first second : Roster} (same : Same first second)
    (statement : UsersStmt) : Same (first.change statement) (second.change statement) := by
  cases statement with
  | put record => exact same.put record
  | putCard card => exact same.putCard card
  | deleteCardsOf userId => exact same.deleteCardsOf userId
  | deleteUser userId => exact same.deleteUser userId
  | _ => exact same

namespace UsersStmt

theorem onTables_of_individual {statement : UsersStmt}
    (individual : statement.individual = true) : statement.onTables = true := by
  cases statement <;> first | rfl | cases individual

/-- With both tables an individual statement is executed unless it fails. -/
theorem change_individual {file : UsersFile} {statement : UsersStmt}
    (individual : statement.individual = true) (exist : file.running.Exist) :
    ∃ changed, statement.change file = some changed ∧ changed.running.Exist ∧
      changed.roster = file.roster.change statement := by
  obtain ⟨users, cards, usersLoad, cardsLoad⟩ := file
  obtain ⟨usersExist, cardsExist⟩ := exist
  obtain ⟨userTable, rfl⟩ := Option.isSome_iff_exists.mp usersExist
  obtain ⟨cardTable, rfl⟩ := Option.isSome_iff_exists.mp cardsExist
  cases statement with
  | put record => exact ⟨_, rfl, ⟨rfl, rfl⟩, rfl⟩
  | putCard card => exact ⟨_, rfl, ⟨rfl, rfl⟩, rfl⟩
  | deleteCardsOf userId => exact ⟨_, rfl, ⟨rfl, rfl⟩, rfl⟩
  | deleteUser userId => exact ⟨_, rfl, ⟨rfl, rfl⟩, rfl⟩
  | _ => cases individual

end UsersStmt

/-- The next statement takes effect: the table it names is there and it does not fail. -/
def AcuUsers.executes (u : AcuUsers) (statement : UsersStmt) : Bool :=
  u.faults.succeeds statement.kind && (statement.change u.conn.view).isSome

theorem UsersStmt.change_isSome {statement : UsersStmt} (individual : statement.individual = true)
    (file : UsersFile) :
    (statement.change file).isSome =
      match statement with
      | .put _ | .deleteUser _ => file.users.isSome
      | _ => file.userCards.isSome := by
  cases statement with
  | put record => exact Option.isSome_map
  | deleteUser userId => exact Option.isSome_map
  | putCard card => exact Option.isSome_map
  | deleteCardsOf userId => exact Option.isSome_map
  | _ => cases individual

/-- What an individual statement leaves when it takes effect. -/
theorem UsersStmt.roster_of_change {statement : UsersStmt}
    (individual : statement.individual = true) {file changed : UsersFile}
    (done : statement.change file = some changed) :
    changed.roster = file.roster.change statement ∧
      changed.users.isSome = file.users.isSome ∧
      changed.userCards.isSome = file.userCards.isSome := by
  obtain ⟨users, cards, usersLoad, cardsLoad⟩ := file
  cases statement with
  | put record | deleteUser userId =>
      obtain ⟨table, rfl, rfl⟩ := Option.map_eq_some_iff.mp done
      exact ⟨rfl, rfl, rfl⟩
  | putCard card | deleteCardsOf userId =>
      obtain ⟨table, rfl, rfl⟩ := Option.map_eq_some_iff.mp done
      exact ⟨rfl, rfl, rfl⟩
  | _ => cases individual

/-- One individual statement, whatever comes of it. -/
structure StatementEffect (u : AcuUsers) (statement : UsersStmt) (result : Bool × AcuUsers) :
    Prop where
  answer : result.1 = u.executes statement
  faults : result.2.faults = u.faults.next
  users : result.2.conn.view.users.isSome = u.conn.view.users.isSome
  cards : result.2.conn.view.userCards.isSome = u.conn.view.userCards.isSome
  exist : u.TablesExist → result.2.TablesExist
  roster : result.2.roster = if result.1 then u.roster.change statement else u.roster

theorem StatementEffect.failed {u after : AcuUsers} {statement : UsersStmt}
    (fails : u.executes statement = false) (faults : after.faults = u.faults.next)
    (conn : after.conn = u.conn) : StatementEffect u statement (false, after) := by
  have exist : u.TablesExist → after.TablesExist := by
    intro exist
    unfold AcuUsers.TablesExist AcuUsers.running
    rw [conn]
    exact exist
  constructor
  · exact fails.symm
  · exact faults
  · rw [conn]
  · rw [conn]
  · exact exist
  · rw [AcuUsers.roster, conn]
    rfl

theorem execute_effect (u : AcuUsers) {statement : UsersStmt}
    (individual : statement.individual = true) :
    StatementEffect u statement (u.execute statement) := by
  have tables := UsersStmt.onTables_of_individual individual
  unfold AcuUsers.execute
  rw [statement.effect_onTables tables]
  split
  next succeeds =>
    cases changed : statement.change u.conn.view with
    | none =>
        apply StatementEffect.failed
        · rw [AcuUsers.executes, changed]
          exact Bool.and_false _
        · rfl
        · rfl
    | some file =>
        obtain ⟨roster, users, cards⟩ := UsersStmt.roster_of_change individual changed
        have exist (both : u.TablesExist) :
            Connection.Both TablePair.Exist (u.running.write fun _ => file.running) := by
          obtain ⟨usersExist, cardsExist⟩ := both.view
          exact both.write ⟨users.trans usersExist, cards.trans cardsExist⟩
        constructor
        · rw [AcuUsers.executes, changed, succeeds]
          rfl
        · rfl
        · exact users
        · exact cards
        · exact exist
        · exact roster
  next fails =>
    apply StatementEffect.failed
    · rw [AcuUsers.executes, Bool.eq_false_of_not_eq_true fails]
      rfl
    · rfl
    · rfl

/-- The tables that were there are there, and the oracle is the same. -/
structure AcuUsers.KeepsTables (u after : AcuUsers) : Prop where
  exist : u.TablesExist → after.TablesExist
  oracle : after.faults.ok = u.faults.ok

theorem AcuUsers.KeepsTables.refl (u : AcuUsers) : u.KeepsTables u :=
  { exist := fun exist => exist
    oracle := rfl }

theorem AcuUsers.KeepsTables.trans {first second third : AcuUsers}
    (early : first.KeepsTables second) (late : second.KeepsTables third) :
    first.KeepsTables third :=
  { exist := fun exist => late.exist (early.exist exist)
    oracle := late.oracle.trans early.oracle }

theorem StatementEffect.keepsTables {u : AcuUsers} {statement : UsersStmt}
    {result : Bool × AcuUsers} (effect : StatementEffect u statement result) :
    u.KeepsTables result.2 := by
  refine { exist := effect.exist, oracle := ?_ }
  rw [effect.faults]
  rfl

/-- An individual statement in a store that has its tables. -/
structure IndividualEffect (u : AcuUsers) (statement : UsersStmt) (result : Bool × AcuUsers) :
    Prop where
  answer : result.1 = u.faults.succeeds statement.kind
  exist : result.2.TablesExist
  faults : result.2.faults = u.faults.next
  roster : result.2.roster = if result.1 then u.roster.change statement else u.roster

theorem IndividualEffect.oracle {u : AcuUsers} {statement : UsersStmt}
    {result : Bool × AcuUsers} (effect : IndividualEffect u statement result) :
    result.2.faults.ok = u.faults.ok := by
  rw [effect.faults]
  rfl

theorem AcuUsers.TablesExist.changes {u : AcuUsers} (exist : u.TablesExist)
    {statement : UsersStmt} (individual : statement.individual = true) :
    (statement.change u.conn.view).isSome = true := by
  obtain ⟨file, changed, _⟩ := UsersStmt.change_individual individual exist.view
  rw [changed]
  rfl

/-- With both tables an individual statement takes effect unless it fails. -/
theorem AcuUsers.TablesExist.executes {u : AcuUsers} (exist : u.TablesExist)
    {statement : UsersStmt} (individual : statement.individual = true) :
    u.executes statement = u.faults.succeeds statement.kind := by
  rw [AcuUsers.executes, exist.changes individual]
  exact Bool.and_true _

theorem execute_individual {u : AcuUsers} (exist : u.TablesExist) (statement : UsersStmt)
    (individual : statement.individual = true) :
    IndividualEffect u statement (u.execute statement) := by
  have effect := execute_effect u individual
  exact
    { answer := effect.answer.trans (exist.executes individual)
      exist := effect.exist exist
      faults := effect.faults
      roster := effect.roster }

/-- An individual statement that does not fail. -/
theorem execute_reliable {u : AcuUsers} (exist : u.TablesExist) (statement : UsersStmt)
    (individual : statement.individual = true) (never : u.faults.Never statement.kind) :
    (u.execute statement).1 = true ∧ (u.execute statement).2.TablesExist ∧
      (u.execute statement).2.faults.ok = u.faults.ok ∧
      (u.execute statement).2.roster = u.roster.change statement := by
  have effect := execute_individual exist statement individual
  have done := effect.answer.trans never.succeeds
  refine ⟨done, effect.exist, effect.oracle, ?_⟩
  rw [effect.roster, if_pos done]

/-! ### Delete -/

/-- The second statement of a command takes effect if it comes to it. -/
def AcuUsers.executesNext (u : AcuUsers) (statement : UsersStmt) : Bool :=
  u.faults.next.succeeds statement.kind && (statement.change u.conn.view).isSome

theorem AcuUsers.TablesExist.executesNext {u : AcuUsers} (exist : u.TablesExist)
    {statement : UsersStmt} (individual : statement.individual = true) :
    u.executesNext statement = u.faults.next.succeeds statement.kind := by
  rw [AcuUsers.executesNext, exist.changes individual]
  exact Bool.and_true _

theorem StatementEffect.executes_second {u : AcuUsers} {first second : UsersStmt}
    {result : Bool × AcuUsers} (effect : StatementEffect u first result)
    (individual : second.individual = true) :
    result.2.executes second = u.executesNext second := by
  unfold AcuUsers.executes AcuUsers.executesNext
  rw [UsersStmt.change_isSome individual, UsersStmt.change_isSome individual, effect.faults,
    effect.users, effect.cards]

/-- What the first statement of a delete leaves. -/
def AcuUsers.rosterWithoutCards (u : AcuUsers) (userId : UserId) : Roster :=
  if u.executes (.deleteCardsOf userId) then u.roster.deleteCardsOf userId else u.roster

/-- A delete executes its two statements one after the other, and answers for the
second. -/
theorem usersDelete_effect (u : AcuUsers) (userId : UserId) :
    (usersDelete u userId).1 = u.executesNext (.deleteUser userId) ∧
      u.KeepsTables (usersDelete u userId).2 ∧
      (usersDelete u userId).2.roster =
        if u.executesNext (.deleteUser userId) then
          (u.rosterWithoutCards userId).deleteUser userId
        else u.rosterWithoutCards userId := by
  have first := execute_effect u (rfl : (UsersStmt.deleteCardsOf userId).individual = true)
  have second := execute_effect (u.execute (.deleteCardsOf userId)).2
    (rfl : (UsersStmt.deleteUser userId).individual = true)
  have answer := second.answer.trans
    (first.executes_second (rfl : (UsersStmt.deleteUser userId).individual = true))
  have left : (u.execute (.deleteCardsOf userId)).2.roster = u.rosterWithoutCards userId := by
    rw [first.roster, first.answer]
    rfl
  have roster := second.roster
  rw [answer, left] at roster
  exact ⟨answer, first.keepsTables.trans second.keepsTables, roster⟩

/-- With both tables a statement takes effect unless it fails. -/
theorem usersDelete_roster {u : AcuUsers} (exist : u.TablesExist) (userId : UserId) :
    (usersDelete u userId).1 = u.faults.next.succeeds .delete ∧
      (usersDelete u userId).2.TablesExist ∧
      (usersDelete u userId).2.faults.ok = u.faults.ok ∧
      (usersDelete u userId).2.roster =
        let cards := if u.faults.succeeds .delete then u.roster.deleteCardsOf userId else u.roster
        if u.faults.next.succeeds .delete then cards.deleteUser userId else cards := by
  obtain ⟨answer, keeps, roster⟩ := usersDelete_effect u userId
  have next : u.executesNext (.deleteUser userId) = u.faults.next.succeeds .delete :=
    exist.executesNext rfl
  have cards : u.executes (.deleteCardsOf userId) = u.faults.succeeds .delete :=
    exist.executes rfl
  rw [next] at answer roster
  rw [AcuUsers.rosterWithoutCards, cards] at roster
  exact ⟨answer, keeps.exist exist, keeps.oracle, roster⟩

/-! ### Changes that wait in a transaction -/

/-- What is committed differs from what the store serves: a change waits in an open
transaction. -/
def AcuUsers.Uncommitted (u : AcuUsers) : Prop :=
  ¬ Roster.Same u.crashRoster u.roster

end Acud
