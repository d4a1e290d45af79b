/-
Module: Acud.Users
Purpose: The roster store: running tables, load tables and the batch transaction.
Trusted boundary: none
Main exports:
  AcuUserRecord, AcuUserCard, UsersFile, Roster, UsersStmt, AcuUsers, usersOpen,
  usersLookupByCard, usersPut, usersPutCard, usersDelete, usersLoadBegin,
  usersLoadPut, usersLoadPutCard, usersLoadCommit, usersLoadAbort, usersSeedDummy
-/
import Acud.Lib.KeyedTable
import Acud.Lib.Memory
import Acud.Lib.Transaction
import Mathlib.Data.List.Sort

namespace Acud

open Lib

/-!
`users.db` holds the people and, in a table of its own, their cards.  A full
download goes into two load tables, committed in batches of 5000 rows; at its
end the load tables take the place of the running ones in one transaction.

* `UsersStmt` names the statements the module executes.  `effect` is what one
  does when it succeeds, and is `none` where SQLite reports an error by itself
  (a missing table, `BEGIN` inside a transaction);
* `execute` asks the fault oracle first, so every statement can also fail
  without effect;
* the functions below are the source's, statement by statement.

Statement preparation succeeds when the tables it names exist.  Logging and
allocation failure are left out.

[SRC src/acud/users.h, src/acud/users.c]
-/

def acuUserOptEnable : UInt32 := 0x80000000
def acuUserIdLen : Nat := 8
def acuUserNameLen : Nat := 16
def acuUserGroupLen : Nat := 16
def acuUserProxLen : Nat := 32
def acuUserCardLen : Nat := 8
def usersLoadCommitEvery : Nat := 5000

abbrev UserId := Blob acuUserIdLen
abbrev CardId := Blob acuUserCardLen

/-- One person, with the protocol's fields. -/
structure AcuUserRecord where
  userId : UserId
  generalGroup : UInt8
  revisionId : UInt16
  accessOption : UInt32
  level : UInt8
  validationCode : UInt16
  timezoneCode : UInt16
  expiredDate : UInt32
  proxType : UInt8
  proxWiegand : UInt8
  bioType : UInt8
  bioTypeSub : UInt8
  templateCount : UInt8
  accessPassword : UInt16
  canteenCode : UInt8
  lcdName : Blob acuUserNameLen
  restrictType : UInt8
  restrictLimitType : UInt8
  restrictLimitCount : UInt8
  groupCodes : Blob acuUserGroupLen
deriving Repr, Inhabited, DecidableEq

/-- One card: the means by which a person is recognized. -/
structure AcuUserCard where
  cardId : CardId
  userId : UserId
  proxRaw : Blob acuUserProxLen
deriving Repr, Inhabited, DecidableEq

abbrev UserTable := Table AcuUserRecord.userId
abbrev CardTable := Table AcuUserCard.cardId

/-! ### The database file -/

inductive UsersTableName where
  | users
  | userCards
  | usersLoad
  | userCardsLoad
deriving Repr, Inhabited, DecidableEq

/-- The content of `users.db`: a table that does not exist is `none`. -/
structure UsersFile where
  users : Option UserTable
  userCards : Option CardTable
  usersLoad : Option UserTable
  userCardsLoad : Option CardTable

namespace UsersFile

/-- A file that was just created. -/
def blank : UsersFile :=
  { users := none
    userCards := none
    usersLoad := none
    userCardsLoad := none }

/-- `CREATE TABLE IF NOT EXISTS`. -/
def create (file : UsersFile) : UsersTableName → UsersFile
  | .users => { file with users := some (file.users.getD (Table.empty _)) }
  | .userCards => { file with userCards := some (file.userCards.getD (Table.empty _)) }
  | .usersLoad => { file with usersLoad := some (file.usersLoad.getD (Table.empty _)) }
  | .userCardsLoad =>
      { file with userCardsLoad := some (file.userCardsLoad.getD (Table.empty _)) }

/-- `DROP TABLE IF EXISTS`. -/
def drop (file : UsersFile) : UsersTableName → UsersFile
  | .users => { file with users := none }
  | .userCards => { file with userCards := none }
  | .usersLoad => { file with usersLoad := none }
  | .userCardsLoad => { file with userCardsLoad := none }

/-- `ALTER TABLE users_load RENAME TO users`. -/
def renameUsersLoad (file : UsersFile) : Option UsersFile :=
  match file.usersLoad, file.users with
  | some load, none => some { file with users := some load, usersLoad := none }
  | _, _ => none

/-- `ALTER TABLE user_cards_load RENAME TO user_cards`. -/
def renameUserCardsLoad (file : UsersFile) : Option UsersFile :=
  match file.userCardsLoad, file.userCards with
  | some load, none => some { file with userCards := some load, userCardsLoad := none }
  | _, _ => none

end UsersFile

/-- The people and cards that access decisions use. -/
structure Roster where
  users : UserTable
  cards : CardTable

namespace Roster

def empty : Roster :=
  { users := Table.empty _
    cards := Table.empty _ }

/-- The person a card resolves to. -/
def userOfCard (roster : Roster) (cardId : CardId) : Option AcuUserRecord :=
  (roster.cards.find? cardId).bind fun card => roster.users.find? card.userId

def put (roster : Roster) (record : AcuUserRecord) : Roster :=
  { roster with users := roster.users.insertOrReplace record }

def putCard (roster : Roster) (card : AcuUserCard) : Roster :=
  { roster with cards := roster.cards.insertOrReplace card }

def deleteCardsOf (roster : Roster) (userId : UserId) : Roster :=
  { roster with cards := roster.cards.deleteWhere fun card => card.userId = userId }

def deleteUser (roster : Roster) (userId : UserId) : Roster :=
  { roster with users := roster.users.deleteWhere fun record => record.userId = userId }

end Roster

/-- The running tables of a file; a missing table reads as an empty one. -/
def UsersFile.roster (file : UsersFile) : Roster :=
  { users := file.users.getD (Table.empty _)
    cards := file.userCards.getD (Table.empty _) }

/-- The load tables of a file. -/
def UsersFile.loadRoster (file : UsersFile) : Roster :=
  { users := file.usersLoad.getD (Table.empty _)
    cards := file.userCardsLoad.getD (Table.empty _) }

/-! ### Statements -/

inductive UsersStmt where
  | begin
  | commit
  | rollback
  | create (table : UsersTableName)
  | drop (table : UsersTableName)
  | renameUsersLoad
  | renameUserCardsLoad
  | createCardIndex
  | put (record : AcuUserRecord)
  | putCard (card : AcuUserCard)
  | deleteCardsOf (userId : UserId)
  | deleteUser (userId : UserId)
  | loadPut (record : AcuUserRecord)
  | loadPutCard (card : AcuUserCard)

namespace UsersStmt

def kind : UsersStmt → SqlKind
  | .begin => .begin
  | .commit => .commit
  | .rollback => .rollback
  | .create _ | .drop _ | .renameUsersLoad | .renameUserCardsLoad | .createCardIndex =>
      .ddl
  | .put _ | .putCard _ | .loadPut _ | .loadPutCard _ => .insert
  | .deleteCardsOf _ | .deleteUser _ => .delete

/-- What a statement other than transaction control does to the file. -/
def change (file : UsersFile) : UsersStmt → Option UsersFile
  | .create table => some (file.create table)
  | .drop table => some (file.drop table)
  | .renameUsersLoad => file.renameUsersLoad
  | .renameUserCardsLoad => file.renameUserCardsLoad
  | .createCardIndex => if file.userCards.isSome then some file else none
  | .put record =>
      file.users.map fun table => { file with users := some (table.insertOrReplace record) }
  | .putCard card =>
      file.userCards.map fun table =>
        { file with userCards := some (table.insertOrReplace card) }
  | .deleteCardsOf userId =>
      file.userCards.map fun table =>
        { file with
          userCards := some (table.deleteWhere fun card => card.userId = userId) }
  | .deleteUser userId =>
      file.users.map fun table =>
        { file with
          users := some (table.deleteWhere fun record => record.userId = userId) }
  | .loadPut record =>
      file.usersLoad.map fun table =>
        { file with usersLoad := some (table.insertOrReplace record) }
  | .loadPutCard card =>
      file.userCardsLoad.map fun table =>
        { file with userCardsLoad := some (table.insertOrReplace card) }
  | .begin | .commit | .rollback => some file

/-- What a statement does to the connection; `none` is an error of its own. -/
def effect (connection : Connection UsersFile) :
    UsersStmt → Option (Connection UsersFile)
  | .begin => connection.begin?
  | .commit => connection.commit?
  | .rollback => connection.rollback?
  | statement =>
      (statement.change connection.view).map fun file =>
        connection.write fun _ => file

end UsersStmt

/-! ### The store -/

structure AcuUsers where
  conn : Connection UsersFile
  faults : Faults SqlKind
  loading : Bool
  inTxn : Bool
  loadRows : Nat
  loadTotal : Nat

namespace AcuUsers

/-- Step one statement. -/
def execute (u : AcuUsers) (statement : UsersStmt) : Bool × AcuUsers :=
  let stepped := { u with faults := u.faults.next }
  if u.faults.succeeds statement.kind then
    match statement.effect u.conn with
    | some conn => (true, { stepped with conn := conn })
    | none => (false, stepped)
  else (false, stepped)

/-- `exec_sql` with several statements in one text. -/
def execSql (u : AcuUsers) (statements : List UsersStmt) : Bool × AcuUsers :=
  runScript execute u statements

/-- Reads see the connection's own view. -/
def roster (u : AcuUsers) : Roster :=
  u.conn.view.roster

/-- What `users.db` holds if the process dies now. -/
def crashRoster (u : AcuUsers) : Roster :=
  u.conn.committed.roster

end AcuUsers

def usersSchema : List UsersStmt :=
  [.create .users, .create .userCards, .createCardIndex]

def dropLoadTables : List UsersStmt :=
  [.drop .usersLoad, .drop .userCardsLoad]

def createLoadTables : List UsersStmt :=
  dropLoadTables ++ [.create .usersLoad, .create .userCardsLoad]

def swapTables : List UsersStmt :=
  [.begin, .drop .users, .drop .userCards, .renameUsersLoad, .renameUserCardsLoad,
    .createCardIndex, .commit]

/-- Open the file: create the tables, discard what an interrupted download left.
When the schema cannot be created the handle is closed again and only its file
remains. -/
def usersOpen (file : UsersFile) (faults : Faults SqlKind) : Bool × AcuUsers :=
  let u : AcuUsers :=
    { conn := Connection.opened file
      faults := faults
      loading := false
      inTxn := false
      loadRows := 0
      loadTotal := 0 }
  match u.execSql usersSchema with
  | (false, closed) => (false, closed)
  | (true, created) => (true, (created.execSql dropLoadTables).2)

/-- The file an orderly close, or the end of the process, leaves. -/
def usersClose (u : AcuUsers) : UsersFile :=
  u.conn.committed

/-! ### Reads -/

/-- A read finds a row, finds none, or fails. -/
inductive Lookup (α : Type) where
  | found (row : α)
  | notFound
  | error
deriving Repr, Inhabited, DecidableEq

namespace Lookup

def ofOption {α : Type} : Option α → Lookup α
  | some row => .found row
  | none => .notFound

def isFound {α : Type} : Lookup α → Bool
  | .found _ => true
  | _ => false

/-- The row that was found. -/
def row? {α : Type} : Lookup α → Option α
  | .found row => some row
  | _ => none

theorem row?_eq_some {α : Type} {lookup : Lookup α} {row : α} :
    lookup.row? = some row ↔ lookup = .found row := by
  cases lookup with
  | found other => rw [row?, Option.some.injEq, found.injEq]
  | notFound => exact iff_of_false (fun some => by cases some) (fun found => by cases found)
  | error => exact iff_of_false (fun some => by cases some) (fun found => by cases found)

end Lookup

/-- A read of `users` succeeds. -/
def AcuUsers.usersReadable (u : AcuUsers) : Bool :=
  u.faults.succeeds .select && u.conn.view.users.isSome

/-- A read of `user_cards` succeeds. -/
def AcuUsers.cardsReadable (u : AcuUsers) : Bool :=
  u.faults.succeeds .select && u.conn.view.userCards.isSome

/-- A read of both running tables succeeds. -/
def AcuUsers.readable (u : AcuUsers) : Bool :=
  u.usersReadable && u.cardsReadable

def usersLookupByCard (u : AcuUsers) (cardId : CardId) : Lookup AcuUserRecord :=
  if u.readable then .ofOption (u.roster.userOfCard cardId) else .error

def usersLookupById (u : AcuUsers) (userId : UserId) : Lookup AcuUserRecord :=
  if u.usersReadable then .ofOption (u.roster.users.find? userId) else .error

/-- `... WHERE user_id = ? LIMIT 1`: the card row stored first. -/
def Roster.cardOfUser (roster : Roster) (userId : UserId) : Option AcuUserCard :=
  roster.cards.rows.find? fun card => card.userId = userId

def usersLookupCardByUser (u : AcuUsers) (userId : UserId) : Lookup AcuUserCard :=
  if u.cardsReadable then .ofOption (u.roster.cardOfUser userId) else .error

/-- The users in `user_id` order (`memcmp` on the eight bytes). -/
def Roster.usersById (roster : Roster) : List AcuUserRecord :=
  roster.users.rows.insertionSort fun first second =>
    first.userId.bytes ≤ second.userId.bytes

/-- The rows of `users LEFT JOIN user_cards`: one for each card of a user, one
with an all-zero card for a user without any. -/
def Roster.joinCards (roster : Roster) (record : AcuUserRecord) :
    List (AcuUserRecord × AcuUserCard) :=
  match roster.cards.rows.filter fun card => card.userId = record.userId with
  | [] =>
      [(record,
        { cardId := Blob.zeros _
          userId := record.userId
          proxRaw := Blob.zeros _ })]
  | cards => cards.map fun card => (record, card)

def Roster.joined (roster : Roster) : List (AcuUserRecord × AcuUserCard) :=
  roster.usersById.flatMap roster.joinCards

/-- Users after an id, in id order; `none` starts at the id of eight zeros. -/
def Roster.readAfter (roster : Roster) (afterId : Option UserId) (max : Nat) :
    List (AcuUserRecord × AcuUserCard) :=
  let start := afterId.getD (Blob.zeros _)
  (roster.joined.filter fun row => decide (start.bytes < row.1.userId.bytes)).take max

def Roster.readAt (roster : Roster) (offset max : Nat) :
    List (AcuUserRecord × AcuUserCard) :=
  (roster.joined.drop offset).take max

/-- A read error ends the row loop, so it reads as "no more rows". -/
def usersReadAfter (u : AcuUsers) (afterId : Option UserId) (max : Nat) :
    List (AcuUserRecord × AcuUserCard) :=
  if u.readable then u.roster.readAfter afterId max else []

def usersReadAt (u : AcuUsers) (offset max : Nat) :
    List (AcuUserRecord × AcuUserCard) :=
  if u.readable then u.roster.readAt offset max else []

/-- `SELECT COUNT(*) FROM users`; `-1` on an error. -/
def usersCount (u : AcuUsers) : Int :=
  if u.usersReadable then u.roster.users.count else -1

/-! ### Individual changes -/

def usersPut (u : AcuUsers) (record : AcuUserRecord) : Bool × AcuUsers :=
  u.execute (.put record)

def usersPutCard (u : AcuUsers) (card : AcuUserCard) : Bool × AcuUsers :=
  u.execute (.putCard card)

/-- The cards go first; whether that worked is not looked at. -/
def usersDelete (u : AcuUsers) (userId : UserId) : Bool × AcuUsers :=
  (u.execute (.deleteCardsOf userId)).2.execute (.deleteUser userId)

/-! ### Full download -/

def txnBegin (u : AcuUsers) : Bool × AcuUsers :=
  if u.inTxn then (true, u)
  else
    match u.execute .begin with
    | (true, began) => (true, { began with inTxn := true, loadRows := 0 })
    | (false, failed) => (false, failed)

/-- The flag is cleared before the outcome of `COMMIT` is known. -/
def txnCommit (u : AcuUsers) : Bool × AcuUsers :=
  if u.inTxn then { u with inTxn := false }.execute .commit
  else (true, u)

def usersLoadAbort (u : AcuUsers) : AcuUsers :=
  let ended :=
    if u.inTxn then { (u.execute .rollback).2 with inTxn := false }
    else u
  { (ended.execSql dropLoadTables).2 with loading := false, loadTotal := 0 }

def usersLoadBegin (u : AcuUsers) : Bool × AcuUsers :=
  let free := if u.loading then usersLoadAbort u else u
  match free.execSql createLoadTables with
  | (false, failed) => (false, failed)
  | (true, created) =>
      match txnBegin { created with loading := true, loadTotal := 0 } with
      | (true, began) => (true, began)
      | (false, failed) => (false, { failed with loading := false })

/-- Commit a full batch and open the next one. -/
def rotateTxnIfNeeded (u : AcuUsers) : Bool × AcuUsers :=
  if u.loadRows < usersLoadCommitEvery then (true, u)
  else
    match txnCommit u with
    | (true, committed) => txnBegin committed
    | (false, failed) => (false, failed)

def usersLoadPut (u : AcuUsers) (record : AcuUserRecord) : Bool × AcuUsers :=
  if u.loading then
    match u.execute (.loadPut record) with
    | (true, stored) =>
        rotateTxnIfNeeded
          { stored with
            loadRows := stored.loadRows + 1
            loadTotal := stored.loadTotal + 1 }
    | (false, failed) => (false, failed)
  else (false, u)

def usersLoadPutCard (u : AcuUsers) (card : AcuUserCard) : Bool × AcuUsers :=
  if u.loading then
    match u.execute (.loadPutCard card) with
    | (true, stored) => rotateTxnIfNeeded { stored with loadRows := stored.loadRows + 1 }
    | (false, failed) => (false, failed)
  else (false, u)

/-- Put the load tables in the place of the running ones. -/
def usersLoadCommit (u : AcuUsers) : Bool × AcuUsers :=
  if u.loading then
    match txnCommit u with
    | (false, failed) => (false, usersLoadAbort failed)
    | (true, committed) =>
        match committed.execSql swapTables with
        | (true, swapped) => (true, { swapped with loading := false, loadTotal := 0 })
        | (false, failed) =>
            (false,
              ({ failed with loading := false, loadTotal := 0 }.execute .rollback).2)
  else (false, u)

def usersLoadInProgress (u : AcuUsers) : Bool :=
  u.loading

/-! ### Start-up seeding -/

/-- One line of the seed list. -/
structure SeedUser where
  card : CardId
  userNo : UInt8
  enabled : Bool
  validationCode : UInt16
  timezoneCode : UInt16

def seedUsers : List SeedUser :=
  [{ card := ⟨[0x04, 0xA1, 0xB2, 0xC3, 0xD4, 0xE5, 0xF6, 0x00], rfl⟩
     userNo := 1, enabled := true, validationCode := 0, timezoneCode := 0 },
   { card := ⟨[0xAA, 0xBB, 0xCC, 0xDD, 0x11, 0x22, 0x33, 0x00], rfl⟩
     userNo := 2, enabled := false, validationCode := 0, timezoneCode := 0 },
   { card := ⟨[0x11, 0x22, 0x33, 0x44, 0x55, 0x66, 0x77, 0x00], rfl⟩
     userNo := 3, enabled := true, validationCode := 1, timezoneCode := 0 },
   { card := ⟨[0x22, 0x33, 0x44, 0x55, 0x66, 0x77, 0x88, 0x00], rfl⟩
     userNo := 4, enabled := true, validationCode := 2, timezoneCode := 1 },
   { card := ⟨[0x33, 0x44, 0x55, 0x66, 0x77, 0x88, 0x99, 0x00], rfl⟩
     userNo := 5, enabled := true, validationCode := 0, timezoneCode := 2 }]

namespace SeedUser

def userId (seed : SeedUser) : UserId :=
  ⟨[0, 0, 0, 0, 0, 0, 0, seed.userNo], rfl⟩

def record (seed : SeedUser) : AcuUserRecord :=
  { (default : AcuUserRecord) with
    userId := seed.userId
    accessOption := if seed.enabled then acuUserOptEnable else 0
    level := 1
    validationCode := seed.validationCode
    timezoneCode := seed.timezoneCode
    expiredDate := 0xFFFFFF
    revisionId := 1
    lcdName := ⟨List.replicate acuUserNameLen 0x20, List.length_replicate⟩ }

def cardRow (seed : SeedUser) : AcuUserCard :=
  { cardId := seed.card
    userId := seed.userId
    proxRaw := Blob.zeros _ }

end SeedUser

/-- Store the seed list and stop at the first failure. -/
def seedLoop (u : AcuUsers) : List SeedUser → AcuUsers
  | [] => u
  | seed :: rest =>
      match usersPut u seed.record with
      | (false, failed) => failed
      | (true, stored) =>
          match usersPutCard stored seed.cardRow with
          | (false, failed) => failed
          | (true, paired) => seedLoop paired rest

/-- Five dummy users, unless the count says that there are users. -/
def usersSeedDummy (u : AcuUsers) : AcuUsers :=
  if usersCount u > 0 then u else seedLoop u seedUsers

end Acud
