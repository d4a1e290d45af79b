/-
Module: Acud.Proofs.RosterDurability
Purpose: Individual changes beside a download, through aborts and crashes.
Trusted boundary: none
Main exports:
  RosterOp, Durability, durabilityStep, RosterKept, NothingLost, rosterKept_iff
-/
import Acud.Lib.Machine
import Acud.Proofs.RosterChanges

namespace Acud

open Lib

/-!
A download keeps a transaction open on the connection that individual changes are
written through.  While it is open their success is not durable: an abort, another
start of a download, or the end of the process takes them back.

`expected` is the roster with every individual change that returned success applied in
order; a download that is committed starts it anew.  The store serves it exactly as
long as nothing is rolled back that an individual change is part of, and as long as
both statements of a delete have the same outcome.
-/

structure Durability where
  process : UsersProcess
  expected : Roster

inductive RosterOp where
  | load (op : LoadOp)
  | put (record : AcuUserRecord)
  | putCard (card : AcuUserCard)
  | delete (userId : UserId)
  /-- The process dies, if one is up, and another is started. -/
  | restart (next : ReliableFaults)

/-- One operation on a store that is up, and what is expected of it from then on. -/
def rosterStep (u : AcuUsers) (expected : Roster) : RosterOp → UsersProcess × Roster
  | .load op =>
      let result := loadStep u op
      (.up result.2, if op = .finish ∧ result.1 then result.2.roster else expected)
  | .put record =>
      let result := usersPut u record
      (.up result.2, if result.1 then expected.put record else expected)
  | .putCard card =>
      let result := usersPutCard u card
      (.up result.2, if result.1 then expected.putCard card else expected)
  | .delete userId =>
      let result := usersDelete u userId
      (.up result.2,
        if result.1 then (expected.deleteCardsOf userId).deleteUser userId else expected)
  | .restart next => (reopen (usersClose u) next, expected)

def durabilityStep (state : Durability) (op : RosterOp) : Option Durability :=
  match state.process with
  | .up u =>
      let stepped := rosterStep u state.expected op
      some { process := stepped.1, expected := stepped.2 }
  | .down file =>
      match op with
      | .restart next => some { state with process := reopen file next }
      | _ => none

/-- The roster is what it was, with every individual change that returned success. -/
def RosterKept (state : Durability) : Prop :=
  state.process.roster.Same state.expected

/-- No change waits in a transaction that is rolled back, and a delete executes both
of its statements or none. -/
def NothingLost (state : Durability) (op : RosterOp) : Prop :=
  ∀ u, state.process = .up u →
    match op with
    | .load op => u.RollsBack op → ¬ u.Uncommitted
    | .delete userId =>
        u.roster.HasCard userId →
          (u.faults.succeeds .delete = true ↔ u.faults.next.succeeds .delete = true)
    | .restart _ => ¬ u.Uncommitted
    | _ => True

/-- What holds along the way: a store that is up has its tables, and its rollbacks
work. -/
def Durability.Sound (state : Durability) : Prop :=
  RosterKept state ∧
    ∀ u, state.process = .up u → u.TablesExist ∧ u.faults.Never .rollback

theorem reopen_healthy {file : UsersFile} {next : ReliableFaults} {u : AcuUsers}
    (running : reopen file next = .up u) : u.TablesExist ∧ u.faults.Never .rollback := by
  obtain ⟨exist, oracle⟩ := reopen_up running
  refine ⟨exist, ?_⟩
  unfold Faults.Never
  rw [oracle]
  exact next.rollbacks

/-- An operation of a download keeps the roster exactly when it takes no change back. -/
theorem load_kept_iff {u : AcuUsers} {expected : Roster}
    (reliable : u.faults.Never .rollback) (same : u.roster.Same expected) (op : LoadOp) :
    Roster.Same (loadStep u op).2.roster
        (if op = .finish ∧ (loadStep u op).1 then (loadStep u op).2.roster else expected) ↔
      (u.RollsBack op → ¬ u.Uncommitted) := by
  have effect := loadStep_running reliable op
  generalize loadStep u op = result at effect
  cases effect with
  | kept forward unswapped keeps =>
      rw [if_neg unswapped]
      refine iff_of_true ?_ fun backward => absurd backward forward
      rw [AcuUsers.roster_eq, keeps.view]
      exact same
  | wentBack backward unswapped back =>
      rw [if_neg unswapped, AcuUsers.roster_eq, back.view, ← AcuUsers.crashRoster_eq]
      constructor
      · intro kept _ uncommitted
        exact uncommitted (kept.trans same.symm)
      · intro settled
        exact (not_not.mp (settled backward)).trans same
  | replaced forward finished exist running =>
      rw [if_pos ⟨finished, rfl⟩]
      exact iff_of_true (.refl _) fun backward => absurd backward forward

/-- A delete keeps the roster exactly when its two statements agree, or when there is
no card to forget. -/
theorem delete_kept_iff {u : AcuUsers} {expected : Roster} (exist : u.TablesExist)
    (same : u.roster.Same expected) (userId : UserId) :
    Roster.Same (usersDelete u userId).2.roster
        (if (usersDelete u userId).1 then (expected.deleteCardsOf userId).deleteUser userId
          else expected) ↔
      (u.roster.HasCard userId →
        (u.faults.succeeds .delete = true ↔ u.faults.next.succeeds .delete = true)) := by
  obtain ⟨answer, _, _, roster⟩ := usersDelete_roster exist userId
  rw [answer, roster]
  by_cases owns : u.roster.HasCard userId
  · cases cards : u.faults.succeeds .delete <;>
      cases user : u.faults.next.succeeds .delete <;>
      simp only [owns, Bool.false_eq_true, ↓reduceIte, true_implies, not_true_eq_false, iff_true,
        iff_false, iff_self]
    case false.false => exact same
    case true.true => exact (same.deleteCardsOf userId).deleteUser userId
    case false.true =>
      intro kept
      have missing := kept.trans ((same.deleteCardsOf userId).deleteUser userId).symm
      exact Roster.not_same_deleteCardsOf owns rfl
        { users := fun _ => rfl, cards := fun cardId => (missing.cards cardId).symm }
    case true.false =>
      intro kept
      exact Roster.not_same_deleteCardsOf owns rfl (kept.trans same.symm)
  · have idle := Roster.same_deleteCardsOf owns
    refine iff_of_true ?_ fun has => absurd has owns
    split <;> split
    next => exact (same.deleteCardsOf userId).deleteUser userId
    next => exact idle.trans same
    next => exact (idle.symm.trans (same.deleteCardsOf userId)).deleteUser userId
    next => exact same

/-- An individual statement is expected exactly when it was executed. -/
theorem individual_kept {u : AcuUsers} {expected : Roster} {statement : UsersStmt}
    (effect : IndividualEffect u statement (u.execute statement))
    (same : u.roster.Same expected) :
    Roster.Same (u.execute statement).2.roster
      (if (u.execute statement).1 then expected.change statement else expected) := by
  rw [effect.roster]
  split
  next => exact same.change statement
  next => exact same

theorem IndividualEffect.healthy {u : AcuUsers} {statement : UsersStmt}
    {result : Bool × AcuUsers} (effect : IndividualEffect u statement result)
    (reliable : u.faults.Never .rollback) :
    result.2.TablesExist ∧ result.2.faults.Never .rollback := by
  refine ⟨effect.exist, ?_⟩
  rw [effect.faults]
  exact reliable

/-- A step keeps the tables and the oracle of a store that is up. -/
theorem durabilityStep_healthy {state next : Durability} {op : RosterOp}
    (sound : state.Sound) (stepped : durabilityStep state op = some next) :
    ∀ u, next.process = .up u → u.TablesExist ∧ u.faults.Never .rollback := by
  obtain ⟨process, expected⟩ := state
  intro users running
  cases process with
  | down file =>
      cases op with
      | restart oracle =>
          cases stepped
          exact reopen_healthy running
      | _ => cases stepped
  | up u =>
      obtain ⟨exist, reliable⟩ := sound.2 u rfl
      cases stepped
      cases op with
      | load op =>
          cases running
          refine ⟨loadStep_tablesExist reliable exist op, ?_⟩
          unfold Faults.Never
          rw [loadStep_oracle]
          exact reliable
      | put record =>
          cases running
          exact (execute_individual exist (.put record) rfl).healthy reliable
      | putCard card =>
          cases running
          exact (execute_individual exist (.putCard card) rfl).healthy reliable
      | delete userId =>
          cases running
          obtain ⟨_, later, oracle, _⟩ := usersDelete_roster exist userId
          refine ⟨later, ?_⟩
          unfold Faults.Never
          rw [oracle]
          exact reliable
      | restart oracle => exact reopen_healthy running

/-- One step keeps the roster exactly when nothing is lost in it. -/
theorem durabilityStep_kept_iff {state next : Durability} {op : RosterOp}
    (sound : state.Sound) (stepped : durabilityStep state op = some next) :
    RosterKept next ↔ NothingLost state op := by
  obtain ⟨process, expected⟩ := state
  cases process with
  | down file =>
      cases op with
      | restart oracle =>
          cases stepped
          refine iff_of_true ?_ (by rintro u ⟨⟩)
          show Roster.Same (reopen file oracle).roster expected
          rw [roster_reopen]
          exact sound.1
      | _ => cases stepped
  | up u =>
      obtain ⟨exist, reliable⟩ := sound.2 u rfl
      have same : u.roster.Same expected := sound.1
      have here : NothingLost { process := .up u, expected := expected } op ↔ _ :=
        ⟨fun lost => lost u rfl, by rintro fine users ⟨⟩; exact fine⟩
      rw [here]
      cases stepped
      cases op with
      | load op => exact load_kept_iff reliable same op
      | put record =>
          exact iff_of_true
            (individual_kept (execute_individual exist (.put record) rfl) same) trivial
      | putCard card =>
          exact iff_of_true
            (individual_kept (execute_individual exist (.putCard card) rfl) same) trivial
      | delete userId => exact delete_kept_iff exist same userId
      | restart oracle =>
          show Roster.Same (reopen (usersClose u) oracle).roster expected ↔ ¬ u.Uncommitted
          rw [roster_reopen]
          constructor
          · intro kept uncommitted
            exact uncommitted (Roster.Same.trans kept same.symm)
          · intro settled
            exact (not_not.mp settled).trans same

/-- Over every run of downloads, individual changes and crashes: the roster is what it
was with every change that returned success, as long as and only as long as nothing is
lost in a step. -/
theorem rosterKept_iff {file : UsersFile} {first : ReliableFaults} {u : AcuUsers}
    (opened : reopen file first = .up u) (ops : List RosterOp) :
    Always durabilityStep RosterKept { process := .up u, expected := u.roster } ops ↔
      Guarded durabilityStep NothingLost { process := .up u, expected := u.roster } ops := by
  have start : Durability.Sound { process := .up u, expected := u.roster } := by
    refine ⟨.refl _, ?_⟩
    rintro users ⟨⟩
    exact reopen_healthy opened
  refine always_iff_guarded (fun _ sound => sound.1) ?_ ?_ start
  · intro state op next sound fine stepped
    exact ⟨(durabilityStep_kept_iff sound stepped).mpr fine,
      durabilityStep_healthy sound stepped⟩
  · intro state op next sound kept stepped
    exact (durabilityStep_kept_iff sound stepped).mp kept

/-- A person who is set while a download is on. -/
def putDuringDownload : List RosterOp :=
  [.load .start, .put somePerson, .load (.put default)]

theorem rosterKept_iff_committed :
    Always durabilityStep RosterKept
        { process := .up .first, expected := AcuUsers.first.roster }
        (putDuringDownload ++ [.load .finish]) ↔
      Guarded durabilityStep NothingLost
        { process := .up .first, expected := AcuUsers.first.roster }
        (putDuringDownload ++ [.load .finish]) :=
  rosterKept_iff reopen_blank _

/-- The download is aborted, and the person who was set is gone. -/
theorem aborted_download_loses_person :
    ¬ Always durabilityStep RosterKept
      { process := .up .first, expected := AcuUsers.first.roster }
      (putDuringDownload ++ [.load .abort]) := by
  have lost : (run durabilityStep
      { process := .up .first, expected := AcuUsers.first.roster }
      (putDuringDownload ++ [.load .abort])).map
        (fun state =>
          ((state.process.roster.users.find? somePerson.userId).isSome,
            (state.expected.users.find? somePerson.userId).isSome)) = some (false, true) := by
    decide +kernel
  intro kept
  obtain ⟨final, reached, found⟩ := Option.map_eq_some_iff.mp lost
  have same := (kept.final reached).users somePerson.userId
  rw [Prod.mk.injEq, same] at found
  rw [found.1] at found
  cases found.2

end Acud
