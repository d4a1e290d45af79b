/-
Module: Acud.Proofs.RosterRestart
Purpose: What a daemon serves that was stopped and started again.
Trusted boundary: none
Main exports:
  mainOpen, mainStop, Roster.seeded, usersSeedDummy_roster, restart_serves
-/
import Acud.Proofs.RosterChanges
import Acud.UserBin

namespace Acud

open Lib

/-!
A start opens the roster store and then fills it with five dummy users, unless it finds
users there.  A roster with users is served again as it was; one without users is
served with the dummies in it, whoever deleted the last user before the stop.
-/

/-- The start of the roster store in `main`. -/
def mainOpen (file : UsersFile) (faults : Faults SqlKind) : Option AcuUsers :=
  match usersOpen file faults with
  | (true, opened) => some (usersSeedDummy opened)
  | (false, _) => none

/-- A roster with the dummy users and their cards. -/
def Roster.seeded (roster : Roster) : Roster :=
  seedUsers.foldl (fun filled seed => (filled.put seed.record).putCard seed.cardRow) roster

theorem seedLoop_cons {u : AcuUsers} {seed : SeedUser} {rest : List SeedUser}
    (stored : (u.execute (.put seed.record)).1 = true)
    (paired : ((u.execute (.put seed.record)).2.execute (.putCard seed.cardRow)).1 = true) :
    seedLoop u (seed :: rest) =
      seedLoop ((u.execute (.put seed.record)).2.execute (.putCard seed.cardRow)).2 rest := by
  rw [seedLoop]
  unfold usersPut usersPutCard
  split
  next failed result =>
    rw [result] at stored
    cases stored
  next person result =>
    rw [result] at paired ⊢
    split
    next failed again =>
      rw [again] at paired
      cases paired
    next both again => rw [again]

/-- The dummies are stored one after the other when no insert fails. -/
theorem seedLoop_roster {u : AcuUsers} (exist : u.TablesExist)
    (inserts : u.faults.Never .insert) (seeds : List SeedUser) :
    (seedLoop u seeds).roster =
      seeds.foldl (fun filled seed => (filled.put seed.record).putCard seed.cardRow)
        u.roster := by
  induction seeds generalizing u with
  | nil => rfl
  | cons seed rest inductionHypothesis =>
      obtain ⟨stored, existPut, oraclePut, rosterPut⟩ :=
        execute_reliable exist (.put seed.record) rfl inserts
      have insertsPut : (u.execute (.put seed.record)).2.faults.Never .insert := by
        unfold Faults.Never
        rw [oraclePut]
        exact inserts
      obtain ⟨paired, existPair, oraclePair, rosterPair⟩ :=
        execute_reliable existPut (.putCard seed.cardRow) rfl insertsPut
      have insertsPair : ((u.execute (.put seed.record)).2.execute
          (.putCard seed.cardRow)).2.faults.Never .insert := by
        unfold Faults.Never
        rw [oraclePair]
        exact insertsPut
      rw [seedLoop_cons stored paired, inductionHypothesis existPair insertsPair, rosterPair,
        rosterPut]
      rfl

/-- Seeding changes nothing when there are users, and stores the dummies when there are
none. -/
theorem usersSeedDummy_roster {u : AcuUsers} (exist : u.TablesExist)
    (reads : u.faults.Never .select) :
    if u.roster.users.count = 0 then
      u.faults.Never .insert → (usersSeedDummy u).roster = u.roster.seeded
    else (usersSeedDummy u).roster = u.roster := by
  have users : u.conn.view.users.isSome = true := exist.view.1
  have count : usersCount u = u.roster.users.count := by
    simp [usersCount, AcuUsers.usersReadable, reads.succeeds, users]
  unfold usersSeedDummy
  rw [count]
  split
  next none =>
    intro inserts
    rw [none, if_neg (by decide)]
    exact seedLoop_roster exist inserts seedUsers
  next some => rw [if_pos (by omega)]

/-- Whether there are users does not depend on how they are stored. -/
theorem Roster.Same.count_eq_zero {first second : Roster} (same : Same first second) :
    first.users.count = 0 ↔ second.users.count = 0 := by
  have transfer {one other : Roster} (agree : Same one other)
      (empty : one.users.rows = []) : other.users.rows = [] := by
    rw [List.eq_nil_iff_forall_not_mem]
    intro user member
    have found := agree.users user.userId
    rw [Table.find?_of_mem member, Table.find?_eq_none.mpr (by simp [empty])] at found
    cases found
  unfold Table.count
  rw [List.length_eq_zero_iff, List.length_eq_zero_iff]
  exact ⟨transfer same, transfer same.symm⟩

theorem Roster.Same.seeded {first second : Roster} (same : Same first second) :
    Same first.seeded second.seeded := by
  unfold Roster.seeded
  generalize seedUsers = seeds
  induction seeds generalizing first second with
  | nil => exact same
  | cons seed rest inductionHypothesis =>
      exact inductionHypothesis ((same.put seed.record).putCard seed.cardRow)

/-- Starting on a file serves its people and cards when there are people, and the
dummies on top when there are none. -/
theorem mainOpen_serves {file : UsersFile} {next : ReliableFaults} {roster : Roster}
    (same : file.roster.Same roster) {served : AcuUsers}
    (started : mainOpen file next.faults = some served) :
    if roster.users.count = 0 then
      next.faults.Never .insert → served.roster.Same roster.seeded
    else served.roster.Same roster := by
  unfold mainOpen at started
  have reopened := roster_reopen file next
  have up := @reopen_up file next
  unfold reopen at reopened up
  split at started
  next fresh result =>
    cases started
    rw [result] at reopened up
    obtain ⟨exist, oracle⟩ := up rfl
    have reads : fresh.faults.Never .select := by
      unfold Faults.Never
      rw [oracle]
      exact next.reads
    have seeded := usersSeedDummy_roster exist reads
    rw [show fresh.roster = file.roster from reopened] at seeded
    by_cases none : roster.users.count = 0
    · rw [if_pos none]
      rw [if_pos (same.count_eq_zero.mpr none)] at seeded
      intro inserts
      rw [seeded (by unfold Faults.Never; rw [oracle]; exact inserts)]
      exact same.seeded
    · rw [if_neg none]
      rw [if_neg fun zero => none (same.count_eq_zero.mp zero)] at seeded
      rw [seeded]
      exact same
  next => cases started

/-- The orderly end of `main`: an upload is given up and the file is closed. -/
def mainStop (store : UserStore) : UsersFile :=
  usersClose (userbinAbort store).users

theorem mainStop_roster {store : UserStore} (settled : ¬ store.users.Uncommitted) :
    (mainStop store).roster.Same store.users.roster := by
  have both : Connection.Both (fun tables => tables.roster.Same store.users.roster)
      store.users.running := by
    refine { view := .refl _, committed := ?_ }
    rw [← AcuUsers.crashRoster_eq]
    exact not_not.mp settled
  have later : Connection.Both (fun tables => tables.roster.Same store.users.roster)
      (userbinAbort store).users.running := by
    unfold userbinAbort
    split
    next => exact usersLoadAbort_both both
    next => exact both
  have committed := later.committed
  rw [← AcuUsers.crashRoster_eq] at committed
  exact committed

/-- Stopping the daemon and starting it again: the people and cards are the same when
there are people, and the dummies are added when there are none, as long as no change
waits in a transaction at the stop. -/
theorem restart_serves {store : UserStore} (settled : ¬ store.users.Uncommitted)
    {next : ReliableFaults} {served : AcuUsers}
    (started : mainOpen (mainStop store) next.faults = some served) :
    if store.users.roster.users.count = 0 then
      next.faults.Never .insert → served.roster.Same store.users.roster.seeded
    else served.roster.Same store.users.roster :=
  mainOpen_serves (mainStop_roster settled) started

/-- A store whose one person was set. -/
def personStore : UserStore :=
  userbinCreate (usersPut .first somePerson).2

theorem restart_serves_person :
    ∃ served, mainOpen (mainStop personStore) ReliableFaults.none.faults = some served ∧
      if personStore.users.roster.users.count = 0 then
        ReliableFaults.none.faults.Never .insert →
          served.roster.Same personStore.users.roster.seeded
      else served.roster.Same personStore.users.roster := by
  have opens : (mainOpen (mainStop personStore) Faults.none).isSome = true := by decide +kernel
  obtain ⟨served, started⟩ := Option.isSome_iff_exists.mp opens
  have settled : ¬ personStore.users.Uncommitted := not_not.mpr (.refl _)
  exact ⟨served, started, restart_serves settled started⟩

/-- The last person is deleted, and after the next start a dummy's card opens the
door. -/
theorem deleted_roster_seeded :
    ∃ served, mainOpen (mainStop (userbinCreate (usersDelete personStore.users
        somePerson.userId).2)) ReliableFaults.none.faults = some served ∧
      ¬ served.roster.Same
        (usersDelete personStore.users somePerson.userId).2.roster := by
  have measured : (mainOpen (mainStop (userbinCreate (usersDelete personStore.users
      somePerson.userId).2)) Faults.none).map
        (fun served =>
          seedUsers.map fun seed => (served.roster.cards.find? seed.card).isSome) =
            some [true, true, true, true, true] ∧
      (seedUsers.map fun seed =>
        ((usersDelete personStore.users somePerson.userId).2.roster.cards.find?
          seed.card).isSome) = [false, false, false, false, false] := by
    decide +kernel
  obtain ⟨after, before⟩ := measured
  obtain ⟨served, started, seeded⟩ := Option.map_eq_some_iff.mp after
  refine ⟨served, started, fun same => ?_⟩
  simp only [same.cards] at seeded
  rw [before] at seeded
  cases seeded

end Acud
