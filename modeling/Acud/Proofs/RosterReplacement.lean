/-
Module: Acud.Proofs.RosterReplacement
Purpose: A full download replaces the roster at once, or not at all.
Trusted boundary: none
Main exports:
  RosterSpec, ReplacementOp, replacementStep, Answers, roster_replacement
-/
import Acud.Lib.Machine
import Acud.Proofs.RosterStore

namespace Acud

open Lib

/-!
`RosterSpec` is what a download is for: one roster that is in use, and at most one
that is being built.  The store with its two pairs of tables, its batches and its swap
script is run beside it, through failing statements and crashes, and what it answers
is always read from the roster in use.

A crash may come between any two statements of an operation.  The statements behind
it are not executed, which for the file is the same as if they had failed, so it is
told by an oracle that is cut.

`BEGIN`, `COMMIT`, inserts and DDL may fail; reads and `ROLLBACK` do not.
-/

/-! ### What a download is for -/

structure RosterSpec where
  live : Roster
  building : Option Roster

namespace RosterSpec

def start (spec : RosterSpec) : RosterSpec :=
  { spec with building := some Roster.empty }

def put (spec : RosterSpec) (record : AcuUserRecord) : RosterSpec :=
  { spec with building := spec.building.map (Roster.put · record) }

def putCard (spec : RosterSpec) (card : AcuUserCard) : RosterSpec :=
  { spec with building := spec.building.map (Roster.putCard · card) }

def finish (spec : RosterSpec) : RosterSpec :=
  { live := spec.building.getD spec.live
    building := none }

def discard (spec : RosterSpec) : RosterSpec :=
  { spec with building := none }

/-- What an operation means, told from its answer and, for an insert, from whether it
was executed. -/
def step (spec : RosterSpec) (u : AcuUsers) : LoadOp → RosterSpec
  | .start => if (usersLoadBegin u).1 then spec.start else spec.discard
  | .put record => if u.inserts (.loadPut record) then spec.put record else spec
  | .putCard card => if u.inserts (.loadPutCard card) then spec.putCard card else spec
  | .finish => if (usersLoadCommit u).1 then spec.finish else spec.discard
  | .abort => spec.discard

end RosterSpec

/-! ### The store beside its specification -/

structure Replacement where
  process : UsersProcess
  spec : RosterSpec

inductive ReplacementOp where
  | load (op : LoadOp)
  /-- The process dies after some statements of an operation and is started again. -/
  | crash (during : LoadOp) (executed : Nat) (next : ReliableFaults)
  /-- Another start, after one that failed. -/
  | restart (next : ReliableFaults)

/-- A store whose process dies after some more statements. -/
def AcuUsers.dying (u : AcuUsers) (executed : Nat) : AcuUsers :=
  { u with faults := u.faults.cut executed }

def replacementStep (state : Replacement) : ReplacementOp → Option Replacement
  | .load op =>
      match state.process with
      | .up u =>
          some
            { process := .up (loadStep u op).2
              spec := state.spec.step u op }
      | .down _ => none
  | .crash during executed next =>
      match state.process with
      | .up u =>
          some
            { process := reopen (usersClose (loadStep (u.dying executed) during).2) next
              spec := (state.spec.step (u.dying executed) during).discard }
      | .down _ => none
  | .restart next =>
      match state.process with
      | .up _ => none
      | .down file => some { state with process := reopen file next }

/-- Every read of the store is a read of this roster. -/
structure Answers (u : AcuUsers) (roster : Roster) : Prop where
  byCard : ∀ cardId, usersLookupByCard u cardId = .ofOption (roster.userOfCard cardId)
  byId : ∀ userId, usersLookupById u userId = .ofOption (roster.users.find? userId)
  cardByUser : ∀ userId, usersLookupCardByUser u userId = .ofOption (roster.cardOfUser userId)
  count : usersCount u = roster.users.count
  readAfter : ∀ afterId max, usersReadAfter u afterId max = roster.readAfter afterId max
  readAt : ∀ offset max, usersReadAt u offset max = roster.readAt offset max

theorem answers_of_running {u : AcuUsers} {roster : Roster}
    (reads : u.faults.Never .select) (running : u.running.view = .of roster) :
    Answers u roster := by
  have users : u.conn.view.users = some roster.users := congrArg TablePair.users running
  have cards : u.conn.view.userCards = some roster.cards := congrArg TablePair.cards running
  have same : u.roster = roster := by
    rw [u.roster_eq, running]
    rfl
  have succeeds := reads.succeeds
  constructor <;> intros <;>
    simp [usersLookupByCard, usersLookupById, usersLookupCardByUser, usersCount,
      usersReadAfter, usersReadAt, AcuUsers.readable, AcuUsers.usersReadable,
      AcuUsers.cardsReadable, users, cards, succeeds, same]

/-! ### The relation between the store and the specification -/

/-- Both the view and the file hold the roster in use, and the load tables hold the
roster that is being built. -/
structure AcuUsers.Implements (u : AcuUsers) (spec : RosterSpec) : Prop where
  live : Connection.Both (fun tables => tables = .of spec.live) u.running
  loading : u.loading = spec.building.isSome
  load : ∀ roster, spec.building = some roster → u.conn.view.load = .of roster

namespace AcuUsers

theorem Implements.idle {u : AcuUsers} {spec : RosterSpec} (implements : u.Implements spec)
    (idle : u.loading = false) : spec.building = none := by
  have loading := implements.loading
  rw [idle] at loading
  simpa using loading.symm

theorem Implements.active {u : AcuUsers} {spec : RosterSpec} (implements : u.Implements spec)
    (active : u.loading = true) : ∃ roster, spec.building = some roster := by
  have loading := implements.loading
  rw [active] at loading
  exact Option.isSome_iff_exists.mp loading.symm

/-- A store without a download implements the specification without one. -/
theorem implements_discard {u : AcuUsers} {spec : RosterSpec}
    (live : Connection.Both (fun tables => tables = .of spec.live) u.running)
    (idle : u.loading = false) : u.Implements spec.discard :=
  { live := live
    loading := idle
    load := by simp [RosterSpec.discard] }

end AcuUsers

section Steps

variable {u : AcuUsers} {spec : RosterSpec}

theorem usersLoadBegin_implements (implements : u.Implements spec) :
    (usersLoadBegin u).2.Implements (spec.step u .start) := by
  have live := usersLoadBegin_both implements.live
  have effect := beginDownload_effect (if u.loading then usersLoadAbort u else u)
  rw [← usersLoadBegin_eq] at effect
  have idle : (if u.loading then usersLoadAbort u else u).loading = false := by
    split
    next => rfl
    next idle => simpa using idle
  have loading := effect.loading idle
  simp only [RosterSpec.step]
  split
  next began =>
    exact
      { live := live
        loading := loading.trans began
        load := by
          rintro roster ⟨⟩
          exact effect.load began }
  next failed => exact AcuUsers.implements_discard live (by simpa [failed] using loading)

theorem usersLoadPut_implements (implements : u.Implements spec) (record : AcuUserRecord) :
    (usersLoadPut u record).2.Implements (spec.step u (.put record)) := by
  have effect := usersLoadPut_effect u record
  have live := implements.live.keepsView effect.running
  have loading := effect.loading.trans implements.loading
  simp only [RosterSpec.step]
  split
  next inserted =>
    refine
      { live := live
        loading := by simpa [RosterSpec.put] using loading
        load := ?_ }
    intro roster built
    obtain ⟨before, building, rfl⟩ := Option.map_eq_some_iff.mp built
    exact effect.load_put inserted (implements.load before building)
  next refused =>
    exact
      { live := live
        loading := loading
        load := fun roster built =>
          (effect.load_refused refused).trans (implements.load roster built) }

theorem usersLoadPutCard_implements (implements : u.Implements spec) (card : AcuUserCard) :
    (usersLoadPutCard u card).2.Implements (spec.step u (.putCard card)) := by
  have effect := usersLoadPutCard_effect u card
  have live := implements.live.keepsView effect.running
  have loading := effect.loading.trans implements.loading
  simp only [RosterSpec.step]
  split
  next inserted =>
    refine
      { live := live
        loading := by simpa [RosterSpec.putCard] using loading
        load := ?_ }
    intro roster built
    obtain ⟨before, building, rfl⟩ := Option.map_eq_some_iff.mp built
    exact effect.load_putCard inserted (implements.load before building)
  next refused =>
    exact
      { live := live
        loading := loading
        load := fun roster built =>
          (effect.load_refused refused).trans (implements.load roster built) }

/-- What a commit leaves, as far as it does not depend on a rollback. -/
theorem usersLoadCommit_committed (implements : u.Implements spec) :
    (usersLoadCommit u).2.running.committed = .of (spec.step u .finish).live := by
  have outcome := usersLoadCommit_outcome u
  simp only [RosterSpec.step]
  generalize usersLoadCommit u = result at outcome
  cases outcome with
  | idle idle => exact implements.live.committed
  | failed active effect =>
      rcases effect.committed with kept | settled
      · exact kept.trans implements.live.committed
      · exact settled.trans implements.live.view
  | replaced active unstuck exist running loading oracle =>
      obtain ⟨built, building⟩ := implements.active active
      rw [running, if_pos rfl]
      simpa [RosterSpec.finish, building] using implements.load built building

theorem usersLoadCommit_implements (implements : u.Implements spec)
    (reliable : u.faults.Never .rollback) :
    (usersLoadCommit u).2.Implements (spec.step u .finish) := by
  have outcome := usersLoadCommit_outcome u
  simp only [RosterSpec.step]
  generalize usersLoadCommit u = result at outcome
  cases outcome with
  | idle idle => exact AcuUsers.implements_discard implements.live idle
  | failed active effect =>
      have running := effect.running reliable
      refine AcuUsers.implements_discard ?_ effect.loading
      split at running
      next => exact implements.live.wentBack running
      next => exact implements.live.keepsView running
  | replaced active unstuck exist running loading oracle =>
      obtain ⟨built, building⟩ := implements.active active
      have load := implements.load built building
      exact
        { live := by
            rw [running, load]
            simp only [↓reduceIte, RosterSpec.finish, building, Option.getD_some]
            exact { view := rfl, committed := rfl }
          loading := loading
          load := by simp [RosterSpec.finish] }

/-- Every operation of a download keeps the relation. -/
theorem loadStep_implements (implements : u.Implements spec)
    (reliable : u.faults.Never .rollback) (op : LoadOp) :
    (loadStep u op).2.Implements (spec.step u op) := by
  cases op with
  | start => exact usersLoadBegin_implements implements
  | put record => exact usersLoadPut_implements implements record
  | putCard card => exact usersLoadPutCard_implements implements card
  | finish => exact usersLoadCommit_implements implements reliable
  | abort => exact AcuUsers.implements_discard (usersLoadAbort_both implements.live) rfl

/-- The file holds the roster in use after every operation, even without a rollback
that works. -/
theorem loadStep_committed (implements : u.Implements spec) (op : LoadOp) :
    (loadStep u op).2.running.committed = .of (spec.step u op).live := by
  cases op with
  | start =>
      have live := (usersLoadBegin_implements implements).live
      exact live.committed
  | put record => exact (usersLoadPut_implements implements record).live.committed
  | putCard card => exact (usersLoadPutCard_implements implements card).live.committed
  | finish => exact usersLoadCommit_committed implements
  | abort => exact (usersLoadAbort_both implements.live).committed

end Steps

/-! ### Runs -/

/-- A process implements the specification and reads without errors; a file that is
not open holds the roster in use. -/
def Replacement.Sound (state : Replacement) : Prop :=
  match state.process with
  | .up u => u.Implements state.spec ∧ u.faults.Never .select ∧ u.faults.Never .rollback
  | .down file => file.running.roster = state.spec.live ∧ state.spec.building = none

theorem reopen_sound {file : UsersFile} {spec : RosterSpec} (next : ReliableFaults)
    (live : file.running.roster = spec.live) (idle : spec.building = none) :
    Replacement.Sound { process := reopen file next, spec := spec } := by
  have opened := usersOpen_opened file next.faults
  unfold reopen
  generalize usersOpen file next.faults = result at opened
  obtain ⟨answer, users⟩ := result
  cases answer with
  | true =>
      have exist := opened.exist rfl
      have view := congrArg Connection.view opened.rosters
      have committed := congrArg Connection.committed opened.rosters
      rw [AcuUsers.rosters, Connection.committed_project] at committed
      have oracle := opened.oracle
      refine ⟨{ live := ?_, loading := ?_, load := ?_ }, ?_, ?_⟩
      · refine { view := ?_, committed := ?_ }
        · rw [TablePair.eq_of_exist exist.view, ← live]
          exact congrArg TablePair.of view
        · rw [TablePair.eq_of_exist exist.committed, ← live]
          exact congrArg TablePair.of committed
      · rw [idle]
        exact opened.loading
      · simp [idle]
      · unfold Faults.Never
        rw [oracle]
        exact next.reads
      · unfold Faults.Never
        rw [oracle]
        exact next.rollbacks
  | false =>
      have committed := congrArg Connection.committed opened.rosters
      rw [AcuUsers.rosters, Connection.committed_project, AcuUsers.running,
        Connection.committed_project] at committed
      exact ⟨committed.trans live, idle⟩

theorem AcuUsers.Implements.dying {u : AcuUsers} {spec : RosterSpec}
    (implements : u.Implements spec) (executed : Nat) :
    (u.dying executed).Implements spec :=
  { implements with }

theorem replacementStep_sound {state next : Replacement} {op : ReplacementOp}
    (sound : state.Sound) (stepped : replacementStep state op = some next) : next.Sound := by
  obtain ⟨process, spec⟩ := state
  cases op with
  | load op =>
      cases process with
      | down file => cases stepped
      | up u =>
          cases stepped
          obtain ⟨implements, reads, rollbacks⟩ := sound
          refine ⟨loadStep_implements implements rollbacks op, ?_, ?_⟩
          · unfold Faults.Never
            rw [loadStep_oracle]
            exact reads
          · unfold Faults.Never
            rw [loadStep_oracle]
            exact rollbacks
  | crash during executed oracle =>
      cases process with
      | down file => cases stepped
      | up u =>
          cases stepped
          have committed := loadStep_committed (sound.1.dying executed) during
          rw [AcuUsers.running, Connection.committed_project] at committed
          refine reopen_sound oracle ?_ rfl
          exact congrArg TablePair.roster committed
  | restart oracle =>
      cases process with
      | up u => cases stepped
      | down file =>
          cases stepped
          exact reopen_sound oracle sound.1 sound.2

/-- Whatever fails and whenever the process dies: every read is answered from the
roster in use, which is the old one until a download is committed and the one it built
from then on. -/
theorem roster_replacement {file : UsersFile} {first : ReliableFaults} {u : AcuUsers}
    (opened : reopen file first = .up u) (ops : List ReplacementOp) :
    Always replacementStep
      (fun state => ∀ users, state.process = .up users → Answers users state.spec.live)
      { process := .up u, spec := { live := file.roster, building := none } } ops := by
  have start : Replacement.Sound
      { process := .up u, spec := { live := file.roster, building := none } } := by
    rw [← opened]
    exact reopen_sound first rfl rfl
  refine always_of_invariant ?_ (fun _ _ _ => replacementStep_sound) start
  intro state sound users running
  unfold Replacement.Sound at sound
  rw [running] at sound
  obtain ⟨implements, reads, _⟩ := sound
  exact answers_of_running reads implements.live.view

theorem roster_replacement_blank :
    Always replacementStep
      (fun state => ∀ users, state.process = .up users → Answers users state.spec.live)
      { process := .up .first, spec := { live := UsersFile.blank.roster, building := none } }
      [.load .start, .load (.put default), .load .finish, .crash .start 3 .none] :=
  roster_replacement reopen_blank _

end Acud
