/-
Module: Acud.Proofs.NetConfigRollback
Purpose: When an unconfirmed network change is taken back, over all interleavings.
Trusted boundary: none
Main exports:
  NetProc.part, Serialised, NetConfig.Unconfirmed, RollsBack, netOutline,
  netStep_holds, unconfirmed_rolls_back
-/
import Acud.NetConfig

namespace Acud

open Lib

/-!
The commands look at the `pending` file once, at their start, and act on what
they saw much later: `apply` and `apply-request` first probe the new address for
some seconds.  Whatever passes the check in between goes ahead as well, so two
applies can overwrite one another's backup, and a rollback can restore a backup
that is older than what `apply-request` has installed.

The results here say what has to be kept apart, and that nothing else has to be:
rollbacks and confirms may run into one another in every order, and the power
may fail between any two steps.

* `NetProc.part`: where an invocation is between its check and its last write;
* `Serialised`: an invocation passes its check only while no other is in a part
  that its own part excludes;
* `netOutline`: what then holds at each place of each command.
-/

/-! ### What must not overlap -/

/-- The parts of the commands that rely on what the check of `pending` found. -/
inductive NetPart where
  /-- `apply`, up to its change of the profile. -/
  | apply
  /-- `apply-request`, up to its change of the profile. -/
  | request
  /-- `rollback`, up to the copy of the backup. -/
  | restore
  /-- `confirm`, and `rollback` after the copy. -/
  | close
deriving Repr, Inhabited, DecidableEq

def NetPart.excludes : NetPart → NetPart → Bool
  | .apply, _ | _, .apply => true
  | .request, .restore | .restore, .request => true
  | _, _ => false

theorem NetPart.excludes_comm (first second : NetPart) :
    first.excludes second = second.excludes first := by
  cases first <;> cases second <;> rfl

namespace NetProc

def part : NetProc → Option NetPart
  | .start _ | .ended | .applying _ _ .up | .requesting _ .up => none
  | .applying _ _ _ => some .apply
  | .requesting _ _ => some .request
  | .rollingBack (.readPending) | .rollingBack (.testBackup _)
  | .rollingBack (.copyProfile _) => some .restore
  | .rollingBack _ | .confirming _ => some .close

/-- Two invocations may be where they are at the same time. -/
def beside (first second : NetProc) : Bool :=
  match first.part, second.part with
  | some one, some two => !one.excludes two
  | _, _ => true

theorem beside_comm {first second : NetProc} (together : first.beside second = true) :
    second.beside first = true := by
  unfold beside at together ⊢
  cases one : first.part <;> cases two : second.part <;>
    simp only [one, two, NetPart.excludes_comm] at together ⊢
  exact together

end NetProc

/-- The invocation that the step takes past its check, and the others. -/
def NetConfig.entering (config : NetConfig) : NetInput → Option (NetProc × List NetProc)
  | .turn index _ =>
      match config.procs[index]? with
      | some (.start command) => some (command.enter config.world, config.others index)
      | _ => none
  | _ => none

/-- An invocation that gets past its check finds no other in a part that it must not
overlap with.  Nothing is asked of the other steps. -/
def Serialised (config : NetConfig) (input : NetInput) : Prop :=
  ∀ entry ∈ config.entering input, ∀ other ∈ entry.2, entry.1.beside other = true

instance (config : NetConfig) (input : NetInput) : Decidable (Serialised config input) :=
  inferInstanceAs (Decidable (∀ entry ∈ config.entering input, ∀ other ∈ entry.2, _))

/-! ### What is promised -/

/-- An apply that started from this profile is under way, or was neither confirmed nor
rolled back since. -/
def NetConfig.Unconfirmed (config : NetConfig) (origin : NetProfile) : Prop :=
  origin ∈ config.world.unconfirmed ∨
    ∃ settings place, .applying settings origin place ∈ config.procs ∧ place ≠ .up

namespace NetProc

def isRollback : NetProc → Bool
  | .start .rollback | .rollingBack _ => true
  | _ => false

/-- The next command is the last one of a rollback, or the one that makes it final. -/
def completesRollback (world : NetWorld) : NetProc → Bool
  | .start .rollback => world.pending.isNone
  | .rollingBack .removePending | .rollingBack .removeBackup => true
  | _ => false

/-- What a rollback owes: when it completes, the profile is the one every unconfirmed
apply has started from, and it does not take back what `apply-request` installed. -/
structure KeepsPromise (config : NetConfig) (proc : NetProc) (succeeds : Bool) : Prop where
  restores : proc.completesRollback config.world = true →
    ∀ origin, config.Unconfirmed origin →
      (proc.exec config.world succeeds).1.profile = origin
  spares : proc.isRollback = true →
    (proc.exec config.world succeeds).1.profile = config.world.profile ∨
      ∀ installed, config.world.requested = some installed →
        (proc.exec config.world succeeds).1.profile = installed

end NetProc

def RollsBack (config : NetConfig) : NetInput → Prop
  | .turn index succeeds =>
      ∀ proc, config.procs[index]? = some proc → proc.KeepsPromise config succeeds
  | _ => True

/-! ### The outline -/

namespace NetWorld

/-- With this profile in force every unconfirmed apply is taken back and nothing that
`apply-request` installed is. -/
structure TakenBack (world : NetWorld) (profile : NetProfile) : Prop where
  origins : ∀ origin ∈ world.unconfirmed, profile = origin
  request : ∀ installed, world.requested = some installed → profile = installed

/-- Without a pending change nothing is to be taken back; with one the backup takes it
back. -/
structure Invariant (world : NetWorld) : Prop where
  settled : world.pending = none →
    world.unconfirmed = [] ∧ world.TakenBack world.profile
  saved : world.pending.isSome →
    ∃ backup, world.backup = some backup ∧ world.TakenBack backup

/-- A backup that is there does not take back what `apply-request` installed. -/
def BackupSpares (world : NetWorld) : Prop :=
  ∀ backup, world.backup = some backup →
    ∀ installed, world.requested = some installed → backup = installed

end NetWorld

/-- `apply` has created the `pending` file. -/
def ApplyAt.flagged : ApplyAt → Bool
  | .checkConflict | .connFile | .copyBackup | .openPending => false
  | _ => true

/-- `apply` has made its backup. -/
def ApplyAt.backedUp : ApplyAt → Bool
  | .checkConflict | .connFile | .copyBackup => false
  | _ => true

namespace NetProc

/-- What holds of the shared state where an invocation stands. -/
def Assertion (world : NetWorld) : NetProc → Prop
  | .start _ | .ended | .applying _ _ .up | .requesting _ .up => True
  | .applying _ origin place =>
      world.profile = origin ∧ world.pending.isSome = place.flagged ∧
        (place.backedUp = true → world.backup = some origin)
  | .requesting _ _ => world.pending = none
  | .rollingBack (.readPending) | .rollingBack (.testBackup _)
  | .rollingBack (.copyProfile _) => world.BackupSpares
  | .rollingBack .stopTimer | .rollingBack .removePending =>
      world.TakenBack world.profile
  | .rollingBack .removeBackup | .confirming .removeBackup => world.pending = none
  | .confirming _ => True

end NetProc

/-- The outline of the commands. -/
def netOutline : Outline NetWorld NetProc :=
  { invariant := NetWorld.Invariant
    assertion := NetProc.Assertion
    compatible := fun first second => first.beside second = true
    symmetric := fun _ _ => NetProc.beside_comm }

/-! ### What a command does to the shared state -/

/-- Every change that a command other than `apply` can make, with what it relies on.  Only
`apply-request` installs a change for good. -/
inductive NetEffect (part : Option NetPart) (world : NetWorld) : NetWorld → Prop where
  | same : NetEffect part world world
  | timer (armed : Bool) : NetEffect part world { world with timer := armed }
  | confirm : NetEffect part world world.confirmPending
  | clear (takenBack : world.TakenBack world.profile) : NetEffect part world world.clearPending
  | removeBackup (closed : world.pending = none) : NetEffect part world world.removeBackup
  | restore (backup : NetProfile) (stored : world.backup = some backup)
      (spares : world.BackupSpares) : NetEffect part world { world with profile := backup }
  | install (installed : NetProfile) (asked : part = some .request)
      (closed : world.pending = none) :
      NetEffect part world { world with profile := installed, requested := some installed }

namespace NetProc

theorem assertion_of_part_none {world : NetWorld} {proc : NetProc} (outside : proc.part = none) :
    proc.Assertion world := by
  unfold part at outside
  unfold Assertion
  split at outside <;> first | contradiction | trivial

theorem exec_of_part_none (world : NetWorld) {proc : NetProc} (outside : proc.part = none)
    (succeeds : Bool) : (proc.exec world succeeds).1 = world := by
  unfold part at outside
  split at outside <;> first | contradiction | rfl

theorem cmdRollback_effect {world : NetWorld} {place : RollbackAt}
    (holds : (rollingBack place).Assertion world) (part : Option NetPart) (succeeds : Bool) :
    NetEffect part world (cmdRollback world succeeds place).1 := by
  cases place with
  | readPending =>
      simp only [cmdRollback]
      split
      · cases succeeds <;> exact .same
      · exact .same
  | testBackup file =>
      simp only [cmdRollback]
      split <;> exact .same
  | copyProfile file =>
      simp only [cmdRollback]
      split
      next stored =>
        cases succeeds with
        | false => exact .same
        | true => exact .restore _ stored holds
      next => exact .same
  | stopTimer => exact .timer _
  | removePending => exact .clear holds
  | removeBackup => exact .removeBackup holds

/-- A command that is not in the part of `apply`. -/
theorem exec_effect {world : NetWorld} {proc : NetProc} (outside : proc.part ≠ some .apply)
    (holds : proc.Assertion world) (succeeds : Bool) :
    NetEffect proc.part world (proc.exec world succeeds).1 := by
  cases proc with
  | start command => exact .same
  | ended => exact .same
  | applying settings origin place =>
      cases place with
      | up => exact .same
      | _ => exact absurd rfl outside
  | requesting settings place =>
      cases place with
      | modify =>
          cases succeeds with
          | false => exact .same
          | true => exact .install _ rfl holds
      | _ => cases succeeds <;> exact .same
  | confirming place =>
      cases place with
      | stopTimer => exact .timer _
      | removePending => exact .confirm
      | removeBackup => exact .removeBackup holds
  | rollingBack place => exact cmdRollback_effect holds _ succeeds

end NetProc

namespace NetWorld

theorem confirmPending_of_closed {world : NetWorld} (closed : world.pending = none) :
    world.confirmPending = world := by
  rw [confirmPending, closed]
  rfl

theorem confirmPending_of_open {world : NetWorld} (marked : world.pending.isSome) :
    world.confirmPending = { world with pending := none, unconfirmed := [], requested := none } :=
  if_pos marked

theorem clearPending_of_closed {world : NetWorld} (closed : world.pending = none) :
    world.clearPending = world := by
  rw [clearPending, closed]
  rfl

theorem clearPending_of_open {world : NetWorld} (marked : world.pending.isSome) :
    world.clearPending = { world with pending := none, unconfirmed := [] } :=
  if_pos marked

@[simp] theorem profile_confirmPending (world : NetWorld) :
    world.confirmPending.profile = world.profile := by
  unfold confirmPending
  split <;> rfl

@[simp] theorem backup_confirmPending (world : NetWorld) :
    world.confirmPending.backup = world.backup := by
  unfold confirmPending
  split <;> rfl

@[simp] theorem profile_clearPending (world : NetWorld) :
    world.clearPending.profile = world.profile := by
  unfold clearPending
  split <;> rfl

@[simp] theorem backup_clearPending (world : NetWorld) :
    world.clearPending.backup = world.backup := by
  unfold clearPending
  split <;> rfl

@[simp] theorem requested_clearPending (world : NetWorld) :
    world.clearPending.requested = world.requested := by
  unfold clearPending
  split <;> rfl

theorem closed_or_open (world : NetWorld) : world.pending = none ∨ world.pending.isSome := by
  cases world.pending with
  | none => exact .inl rfl
  | some _ => exact .inr rfl

/-- The invariant looks neither at the timer nor at what `pending` contains. -/
theorem Invariant.agree {before after : NetWorld} (invariant : before.Invariant)
    (marked : after.pending.isSome = before.pending.isSome)
    (profile : after.profile = before.profile) (backup : after.backup = before.backup)
    (unconfirmed : after.unconfirmed = before.unconfirmed)
    (requested : after.requested = before.requested) : after.Invariant := by
  have takenBack {origin : NetProfile} (holds : before.TakenBack origin) :
      after.TakenBack origin := by
    constructor
    · rw [unconfirmed]
      exact holds.origins
    · rw [requested]
      exact holds.request
  constructor
  · intro closed
    have closedBefore : before.pending = none := by
      rwa [← Option.not_isSome_iff_eq_none, ← marked, Option.not_isSome_iff_eq_none]
    obtain ⟨nothing, settled⟩ := invariant.settled closedBefore
    rw [unconfirmed, profile]
    exact ⟨nothing, takenBack settled⟩
  · intro open_
    obtain ⟨saved, stored, holds⟩ := invariant.saved (marked.symm.trans open_)
    exact ⟨saved, backup.trans stored, takenBack holds⟩

/-- What a rollback copies takes every unconfirmed apply back, also when another
rollback or confirm has come first. -/
theorem Invariant.takenBack_backup {world : NetWorld} (invariant : world.Invariant)
    (spares : world.BackupSpares) {backup : NetProfile} (stored : world.backup = some backup) :
    world.TakenBack backup := by
  rcases world.closed_or_open with closed | marked
  · obtain ⟨nothing, _⟩ := invariant.settled closed
    constructor
    · rw [nothing]
      intro origin member
      cases member
    · exact spares backup stored
  · obtain ⟨saved, storedSaved, takenBack⟩ := invariant.saved marked
    rw [stored] at storedSaved
    cases storedSaved
    exact takenBack

/-- The backup of a pending change spares what `apply-request` installed. -/
theorem Invariant.backupSpares {world : NetWorld} (invariant : world.Invariant)
    (marked : world.pending.isSome) : world.BackupSpares := by
  intro backup stored
  obtain ⟨saved, storedSaved, takenBack⟩ := invariant.saved marked
  rw [stored] at storedSaved
  cases storedSaved
  exact takenBack.request

/-- Without a backup there is nothing that a rollback would have to restore. -/
theorem Invariant.takenBack_of_noBackup {world : NetWorld} (invariant : world.Invariant)
    (missing : world.backup = none) : world.TakenBack world.profile := by
  rcases world.closed_or_open with closed | marked
  · exact (invariant.settled closed).2
  · obtain ⟨saved, storedSaved, _⟩ := invariant.saved marked
    rw [missing] at storedSaved
    cases storedSaved

theorem takenBack_of_nothing {world : NetWorld} {profile : NetProfile}
    (nothing : world.unconfirmed = [])
    (request : ∀ installed, world.requested = some installed → profile = installed) :
    world.TakenBack profile := by
  constructor
  · rw [nothing]
    intro origin member
    cases member
  · exact request

/-- A state without a pending change. -/
theorem invariant_of_closed {world : NetWorld} (closed : world.pending = none)
    (nothing : world.unconfirmed = [])
    (request : ∀ installed, world.requested = some installed → world.profile = installed) :
    world.Invariant := by
  constructor
  · intro _
    exact ⟨nothing, takenBack_of_nothing nothing request⟩
  · intro marked
    rw [closed] at marked
    cases marked

/-- A state with a pending change. -/
theorem invariant_of_open {world : NetWorld} {backup : NetProfile} (marked : world.pending.isSome)
    (stored : world.backup = some backup) (takenBack : world.TakenBack backup) :
    world.Invariant := by
  constructor
  · intro closed
    rw [closed] at marked
    cases marked
  · intro _
    exact ⟨backup, stored, takenBack⟩

end NetWorld

namespace NetEffect

variable {part : Option NetPart} {before after : NetWorld}

/-- Only `apply` marks a change as pending. -/
theorem pending_none (effect : NetEffect part before after) (closed : before.pending = none) :
    after.pending = none := by
  cases effect with
  | confirm =>
      rw [NetWorld.confirmPending_of_closed closed]
      exact closed
  | clear =>
      rw [NetWorld.clearPending_of_closed closed]
      exact closed
  | same | timer | removeBackup | restore | install => exact closed

/-- A profile with which everything is taken back stays one, whoever changes it. -/
theorem takenBack (effect : NetEffect part before after) (invariant : before.Invariant)
    (holds : before.TakenBack before.profile) : after.TakenBack after.profile := by
  cases effect with
  | same => exact holds
  | timer | removeBackup => exact ⟨holds.origins, holds.request⟩
  | confirm =>
      rcases before.closed_or_open with closed | marked
      · rw [NetWorld.confirmPending_of_closed closed]
        exact holds
      · rw [NetWorld.confirmPending_of_open marked]
        exact NetWorld.takenBack_of_nothing rfl nofun
  | clear =>
      rcases before.closed_or_open with closed | marked
      · rw [NetWorld.clearPending_of_closed closed]
        exact holds
      · rw [NetWorld.clearPending_of_open marked]
        exact NetWorld.takenBack_of_nothing rfl holds.request
  | restore backup stored spares =>
      have restored := invariant.takenBack_backup spares stored
      exact ⟨restored.origins, restored.request⟩
  | install installed asked closed =>
      apply NetWorld.takenBack_of_nothing
      · exact (invariant.settled closed).1
      · intro other same
        exact Option.some.inj same

/-- What was installed for good stays so, or a confirm ends it. -/
theorem requested (effect : NetEffect part before after) (notAsked : part ≠ some .request) :
    after.requested = before.requested ∨ after.requested = none := by
  cases effect with
  | confirm =>
      unfold NetWorld.confirmPending
      split
      · exact .inr rfl
      · exact .inl rfl
  | clear => exact .inl (NetWorld.requested_clearPending before)
  | install installed asked closed => exact absurd asked notAsked
  | same | timer | removeBackup | restore => exact .inl rfl

/-- Only a rollback changes the profile otherwise, and what it copies takes everything
back. -/
theorem profile (effect : NetEffect part before after) (notAsked : part ≠ some .request)
    (invariant : before.Invariant) :
    after.profile = before.profile ∨ before.TakenBack after.profile := by
  cases effect with
  | confirm => exact .inl (NetWorld.profile_confirmPending before)
  | clear => exact .inl (NetWorld.profile_clearPending before)
  | restore backup stored spares => exact .inr (invariant.takenBack_backup spares stored)
  | install installed asked closed => exact absurd asked notAsked
  | same | timer | removeBackup => exact .inl rfl

/-- A change by `apply-request` apart, a backup keeps sparing what that has installed. -/
theorem backupSpares (effect : NetEffect part before after) (notAsked : part ≠ some .request)
    (holds : before.BackupSpares) : after.BackupSpares := by
  intro backup stored installed asked
  have storedBefore : before.backup = some backup := by
    cases effect with
    | removeBackup => cases stored
    | confirm => exact before.backup_confirmPending.symm.trans stored
    | clear => exact before.backup_clearPending.symm.trans stored
    | same | timer | restore | install => exact stored
  rcases effect.requested notAsked with same | gone
  · rw [same] at asked
    exact holds backup storedBefore installed asked
  · rw [gone] at asked
    cases asked

theorem invariant (effect : NetEffect part before after) (holds : before.Invariant) :
    after.Invariant := by
  cases effect with
  | same => exact holds
  | timer => exact holds.agree rfl rfl rfl rfl rfl
  | confirm =>
      rcases before.closed_or_open with closed | marked
      · rw [NetWorld.confirmPending_of_closed closed]
        exact holds
      · rw [NetWorld.confirmPending_of_open marked]
        exact NetWorld.invariant_of_closed rfl rfl nofun
  | clear takenBack =>
      rcases before.closed_or_open with closed | marked
      · rw [NetWorld.clearPending_of_closed closed]
        exact holds
      · rw [NetWorld.clearPending_of_open marked]
        exact NetWorld.invariant_of_closed rfl rfl takenBack.request
  | removeBackup closed =>
      obtain ⟨nothing, settled⟩ := holds.settled closed
      exact NetWorld.invariant_of_closed closed nothing settled.request
  | restore backup stored spares =>
      have takenBack := holds.takenBack_backup spares stored
      constructor
      · intro closed
        exact ⟨(holds.settled closed).1, takenBack.origins, takenBack.request⟩
      · intro _
        exact ⟨backup, stored, takenBack.origins, takenBack.request⟩
  | install installed asked closed =>
      apply NetWorld.invariant_of_closed
      · exact closed
      · exact (holds.settled closed).1
      · intro other same
        exact Option.some.inj same

end NetEffect

/-! ### Beside one another -/

namespace NetProc

theorem part_of_beside {first second : NetProc} (together : first.beside second = true)
    {one two : NetPart} (firstPart : first.part = some one) (secondPart : second.part = some two) :
    one.excludes two = false := by
  unfold beside at together
  rw [firstPart, secondPart] at together
  simpa using together

/-- A step keeps the assertion of every invocation it may stand beside. -/
theorem assertion_beside {world : NetWorld} {proc other : NetProc} {succeeds : Bool}
    (invariant : world.Invariant) (own : proc.Assertion world) (holds : other.Assertion world)
    (together : proc.beside other = true) :
    other.Assertion (proc.exec world succeeds).1 := by
  cases otherPart : other.part with
  | none => exact assertion_of_part_none otherPart
  | some two =>
      cases ownPart : proc.part with
      | none =>
          rw [exec_of_part_none world ownPart]
          exact holds
      | some one =>
          have apart := part_of_beside together ownPart otherPart
          have notApply : proc.part ≠ some .apply := by
            intro inApply
            rw [ownPart] at inApply
            cases inApply
            cases apart
          have effect := exec_effect notApply own succeeds
          have spares (restoring : two = .restore) (spared : world.BackupSpares) :
              (proc.exec world succeeds).1.BackupSpares := by
            apply effect.backupSpares _ spared
            intro inRequest
            rw [ownPart] at inRequest
            cases inRequest
            cases restoring
            cases apart
          cases other with
          | start command => trivial
          | ended => trivial
          | applying settings origin place =>
              cases place with
              | up => trivial
              | _ =>
                  cases otherPart
                  cases one <;> cases apart
          | requesting settings place =>
              cases place with
              | up => trivial
              | _ => exact effect.pending_none holds
          | confirming place =>
              cases place with
              | removeBackup => exact effect.pending_none holds
              | _ => trivial
          | rollingBack place =>
              cases place with
              | stopTimer => exact effect.takenBack invariant holds
              | removePending => exact effect.takenBack invariant holds
              | removeBackup => exact effect.pending_none holds
              | _ =>
                  cases otherPart
                  exact spares rfl holds

/-! ### The own step -/

/-- Until `apply` marks its change as pending the profile is the one it started from. -/
theorem settled_of_unflagged {world : NetWorld} (invariant : world.Invariant)
    (unflagged : world.pending.isSome = false) :
    world.pending = none ∧ world.unconfirmed = [] ∧ world.TakenBack world.profile := by
  have closed : world.pending = none := by simpa using unflagged
  exact ⟨closed, invariant.settled closed⟩

/-- From then on its backup is what takes the change back. -/
theorem saved_of_flagged {world : NetWorld} {origin : NetProfile} (invariant : world.Invariant)
    (marked : world.pending.isSome) (stored : world.backup = some origin) :
    world.TakenBack origin := by
  obtain ⟨backup, storedBackup, takenBack⟩ := invariant.saved marked
  rw [stored] at storedBackup
  cases storedBackup
  exact takenBack

/-- `apply`, which has the files to itself until it has changed the profile. -/
theorem cmdApply_own {world : NetWorld} {settings : NetSettings} {origin : NetProfile}
    {place : ApplyAt} {succeeds : Bool} (invariant : world.Invariant)
    (holds : (applying settings origin place).Assertion world) :
    (cmdApply world settings origin succeeds place).1.Invariant ∧
      (cmdApply world settings origin succeeds place).2.Assertion
        (cmdApply world settings origin succeeds place).1 := by
  cases place with
  | up => exact ⟨invariant, trivial⟩
  | stopTimer => exact ⟨invariant.agree rfl rfl rfl rfl rfl, holds⟩
  | checkConflict | connFile | chmodFiles =>
      simp only [cmdApply]
      split
      · exact ⟨invariant, holds⟩
      · exact ⟨invariant, trivial⟩
  | copyBackup =>
      simp only [cmdApply]
      split
      · obtain ⟨started, unflagged, _⟩ := holds
        obtain ⟨closed, nothing, settled⟩ := settled_of_unflagged invariant unflagged
        refine ⟨?_, started, unflagged, fun _ => congrArg some started⟩
        exact NetWorld.invariant_of_closed closed nothing settled.request
      · exact ⟨invariant, trivial⟩
  | openPending =>
      simp only [cmdApply]
      split
      · obtain ⟨started, unflagged, stored⟩ := holds
        obtain ⟨_, nothing, settled⟩ := settled_of_unflagged invariant unflagged
        refine ⟨?_, started, rfl, stored⟩
        apply NetWorld.invariant_of_open
        · rfl
        · exact stored rfl
        · constructor
          · intro other member
            rw [nothing] at member
            exact (List.mem_singleton.mp member).symm
          · intro installed asked
            exact started ▸ settled.request installed asked
      · exact ⟨invariant, trivial⟩
  | printPending =>
      simp only [cmdApply]
      split
      · obtain ⟨started, marked, stored⟩ := holds
        have stillMarked : (world.pending.map fun _ => PendingText.profileFile).isSome =
            world.pending.isSome := Option.isSome_map
        refine ⟨?_, started, stillMarked.trans marked, stored⟩
        exact invariant.agree stillMarked rfl rfl rfl rfl
      · exact ⟨invariant, trivial⟩
  | runTimer =>
      simp only [cmdApply]
      split
      · exact ⟨invariant.agree rfl rfl rfl rfl rfl, holds⟩
      · exact ⟨invariant, trivial⟩
  | modify =>
      simp only [cmdApply]
      split
      · obtain ⟨_, marked, stored⟩ := holds
        have takenBack := saved_of_flagged invariant marked (stored rfl)
        refine ⟨?_, trivial⟩
        apply NetWorld.invariant_of_open
        · exact marked
        · exact stored rfl
        · constructor
          · intro other member
            rcases List.mem_cons.mp member with rfl | earlier
            · rfl
            · exact takenBack.origins other earlier
          · exact takenBack.request
      · exact ⟨invariant, trivial⟩

/-- Past its check an invocation stands where its assertion holds. -/
theorem enter_assertion {world : NetWorld} (invariant : world.Invariant) (command : NetCommand) :
    (command.enter world).Assertion world := by
  cases command with
  | apply args =>
      simp only [NetCommand.enter]
      split
      next passed =>
        refine ⟨rfl, ?_, nofun⟩
        rw [passed.2]
        rfl
      next => trivial
  | applyRequest request =>
      simp only [NetCommand.enter]
      split
      · split
        next passed => exact passed.1
        next => trivial
      · trivial
  | confirm =>
      simp only [NetCommand.enter]
      split <;> trivial
  | rollback =>
      simp only [NetCommand.enter]
      split
      next marked => exact invariant.backupSpares marked
      next => trivial

/-- `rollback` comes to its next place with what it needs there. -/
theorem cmdRollback_own {world : NetWorld} {place : RollbackAt} {succeeds : Bool}
    (invariant : world.Invariant) (holds : (rollingBack place).Assertion world) :
    (cmdRollback world succeeds place).2.Assertion (cmdRollback world succeeds place).1 := by
  cases place with
  | readPending =>
      simp only [cmdRollback]
      split
      · split
        · exact holds
        · trivial
      · trivial
  | testBackup file =>
      simp only [cmdRollback]
      split
      · exact holds
      next missing =>
        exact invariant.takenBack_of_noBackup (by simpa using missing)
  | copyProfile file =>
      simp only [cmdRollback]
      split
      next stored =>
        split
        · have takenBack := invariant.takenBack_backup holds stored
          exact ⟨takenBack.origins, takenBack.request⟩
        · trivial
      · trivial
  | stopTimer => exact ⟨holds.origins, holds.request⟩
  | removePending =>
      change world.clearPending.pending = none
      rcases world.closed_or_open with closed | marked
      · rw [NetWorld.clearPending_of_closed closed]
        exact closed
      · rw [NetWorld.clearPending_of_open marked]
  | removeBackup => trivial

/-- A step keeps the invariant and comes to a place where the assertion holds. -/
theorem exec_own {world : NetWorld} {proc : NetProc} {succeeds : Bool}
    (invariant : world.Invariant) (holds : proc.Assertion world) :
    (proc.exec world succeeds).1.Invariant ∧
      (proc.exec world succeeds).2.Assertion (proc.exec world succeeds).1 := by
  cases proc with
  | start command => exact ⟨invariant, enter_assertion invariant command⟩
  | ended => exact ⟨invariant, trivial⟩
  | applying settings origin place => exact cmdApply_own invariant holds
  | requesting settings place =>
      refine ⟨(exec_effect (by cases place <;> nofun) holds succeeds).invariant invariant, ?_⟩
      cases place with
      | up => trivial
      | checkConflict | connName =>
          cases succeeds with
          | false => trivial
          | true => exact holds
      | modify => cases succeeds <;> trivial
  | confirming place =>
      refine ⟨(exec_effect (by cases place <;> decide) holds succeeds).invariant invariant, ?_⟩
      cases place with
      | stopTimer | removeBackup => trivial
      | removePending =>
          change world.confirmPending.pending = none
          rcases world.closed_or_open with closed | marked
          · rw [NetWorld.confirmPending_of_closed closed]
            exact closed
          · rw [NetWorld.confirmPending_of_open marked]
  | rollingBack place =>
      refine ⟨(exec_effect (by cases place <;> nofun) holds succeeds).invariant invariant, ?_⟩
      exact cmdRollback_own invariant holds

/-- Past its check a command stays in its part or leaves it; only `rollback` comes to
another one, when it has made its copy. -/
theorem part_exec (world : NetWorld) {proc : NetProc}
    (started : ∀ command, proc ≠ .start command) (succeeds : Bool) :
    (proc.exec world succeeds).2.part = none ∨
      (proc.exec world succeeds).2.part = proc.part ∨
      (proc.part = some .restore ∧ (proc.exec world succeeds).2.part = some .close) := by
  cases proc with
  | start command => exact absurd rfl (started command)
  | ended => exact .inl rfl
  | applying settings origin place =>
      cases place with
      | up => exact .inl rfl
      | stopTimer => exact .inr (.inl rfl)
      | modify =>
          simp only [exec, cmdApply]
          split <;> exact .inl rfl
      | _ =>
          simp only [exec, cmdApply]
          split
          · exact .inr (.inl rfl)
          · exact .inl rfl
  | requesting settings place =>
      cases place with
      | up => exact .inl rfl
      | modify => cases succeeds <;> exact .inl rfl
      | checkConflict | connName =>
          cases succeeds with
          | false => exact .inl rfl
          | true => exact .inr (.inl rfl)
  | confirming place =>
      cases place with
      | removeBackup => exact .inl rfl
      | stopTimer | removePending => exact .inr (.inl rfl)
  | rollingBack place =>
      cases place with
      | readPending =>
          simp only [exec, cmdRollback]
          split
          · cases succeeds with
            | false => exact .inl rfl
            | true => exact .inr (.inl rfl)
          · exact .inl rfl
      | testBackup file =>
          simp only [exec, cmdRollback]
          split
          · exact .inr (.inl rfl)
          · exact .inr (.inr ⟨rfl, rfl⟩)
      | copyProfile file =>
          simp only [exec, cmdRollback]
          split
          · cases succeeds with
            | false => exact .inl rfl
            | true => exact .inr (.inr ⟨rfl, rfl⟩)
          · exact .inl rfl
      | stopTimer | removePending => exact .inr (.inl rfl)
      | removeBackup => exact .inl rfl

/-- Who may stand beside a command past its check may stand beside it after its step. -/
theorem beside_exec {world : NetWorld} {proc other : NetProc} {succeeds : Bool}
    (started : ∀ command, proc ≠ .start command) (together : proc.beside other = true) :
    (proc.exec world succeeds).2.beside other = true := by
  rcases part_exec world started succeeds with left | same | ⟨restoring, closing⟩
  · rw [beside, left]
  · rw [beside, same]
    exact together
  · rw [beside, closing]
    rw [beside, restoring] at together
    cases otherPart : other.part with
    | none => rfl
    | some two =>
        rw [otherPart] at together
        cases two <;> first | rfl | cases together

end NetProc

/-- No assertion looks at the timer. -/
theorem NetProc.assertion_timer {world : NetWorld} (armed : Bool) (proc : NetProc)
    (holds : proc.Assertion world) : proc.Assertion { world with timer := armed } := by
  cases proc with
  | start command => trivial
  | ended => trivial
  | applying settings origin place => cases place <;> exact holds
  | requesting settings place => cases place <;> exact holds
  | confirming place => cases place <;> exact holds
  | rollingBack place =>
      cases place with
      | stopTimer | removePending => exact ⟨holds.origins, holds.request⟩
      | _ => exact holds

/-! ### Runs -/

/-- What the outline says holds before every serialised step and after it. -/
theorem netStep_holds {config next : NetConfig} {input : NetInput}
    (holds : netOutline.Holds config) (serialised : Serialised config input)
    (stepped : netStep config input = some next) : netOutline.Holds next := by
  have disarmed : NetEffect none config.world { config.world with timer := false } :=
    .timer false
  cases input with
  | invoke command =>
      cases stepped
      exact holds.spawn trivial fun _ => rfl
  | timerElapses =>
      simp only [netStep] at stepped
      split at stepped
      · cases stepped
        have disturbed := holds.disturb (disarmed.invariant holds.invariant)
          (NetProc.assertion_timer false)
        exact disturbed.spawn trivial fun _ => rfl
      · cases stepped
  | powerLoss =>
      cases stepped
      exact Outline.holds_single (disarmed.invariant holds.invariant) trivial
  | turn index succeeds =>
      apply holds.turn stepped
      · intro proc own
        exact NetProc.exec_own holds.invariant own
      · intro proc other own beside together
        exact NetProc.assertion_beside holds.invariant own beside together
      · intro proc at_ other member together
        by_cases started : ∃ command, proc = .start command
        · obtain ⟨command, rfl⟩ := started
          apply serialised (command.enter config.world, config.others index) _ other member
          simp [NetConfig.entering, at_]
        · exact NetProc.beside_exec (not_exists.mp started) together

theorem NetConfig.fresh_holds (profile : NetProfile) :
    netOutline.Holds (NetConfig.fresh profile) := by
  refine ⟨?_, nofun, List.Pairwise.nil⟩
  exact NetWorld.invariant_of_closed rfl rfl nofun

/-- An apply under way has not changed the profile yet, and the others are recorded. -/
theorem profile_of_unconfirmed {config : NetConfig} (holds : netOutline.Holds config)
    (takenBack : config.world.TakenBack config.world.profile) {origin : NetProfile}
    (unconfirmed : config.Unconfirmed origin) : config.world.profile = origin := by
  rcases unconfirmed with recorded | ⟨settings, place, member, notDone⟩
  · exact takenBack.origins origin recorded
  · have own := holds.assertions _ member
    cases place with
    | up => exact absurd rfl notDone
    | _ => exact own.1

theorem restores_unconfirmed {config : NetConfig} (holds : netOutline.Holds config)
    {proc : NetProc} (own : proc.Assertion config.world) {succeeds : Bool}
    (completes : proc.completesRollback config.world = true) {origin : NetProfile}
    (unconfirmed : config.Unconfirmed origin) :
    (proc.exec config.world succeeds).1.profile = origin := by
  have invariant : config.world.Invariant := holds.invariant
  cases proc with
  | start command =>
      cases command with
      | rollback =>
          have closed : config.world.pending = none := Option.isNone_iff_eq_none.mp completes
          exact profile_of_unconfirmed holds (invariant.settled closed).2 unconfirmed
      | _ => cases completes
  | rollingBack place =>
      cases place with
      | removePending =>
          have restored := profile_of_unconfirmed holds own unconfirmed
          exact config.world.profile_clearPending.trans restored
      | removeBackup => exact profile_of_unconfirmed holds (invariant.settled own).2 unconfirmed
      | _ => cases completes
  | _ => cases completes

/-- Where the outline holds, a rollback keeps its promise. -/
theorem keepsPromise {config : NetConfig} (holds : netOutline.Holds config) {index : Nat}
    {proc : NetProc} (at_ : config.procs[index]? = some proc) (succeeds : Bool) :
    proc.KeepsPromise config succeeds := by
  have own : proc.Assertion config.world := holds.assertions proc (List.mem_of_getElem? at_)
  constructor
  · intro completes origin unconfirmed
    exact restores_unconfirmed holds own completes unconfirmed
  · intro rollback
    cases proc with
    | rollingBack place =>
        have effect := NetProc.exec_effect (by cases place <;> nofun) own succeeds
        have invariant : config.world.Invariant := holds.invariant
        rcases effect.profile (by cases place <;> nofun) invariant with same | takenBack
        · exact .inl same
        · exact .inr fun installed asked => takenBack.request installed asked
    | start command => exact .inl rfl
    | _ => cases rollback

/-- **Unconfirmed changes are rolled back** in every interleaving of the commands in which
no invocation passes its check while another is in a part that must not overlap with its
own; the power may fail at any time. -/
theorem unconfirmed_rolls_back (profile : NetProfile) (inputs : List NetInput)
    (serialised : Guarded netStep Serialised (NetConfig.fresh profile) inputs) :
    Guarded netStep RollsBack (NetConfig.fresh profile) inputs := by
  apply Guarded.imp_of_invariant _ _ serialised (NetConfig.fresh_holds profile)
  · intro config input next holds allowed stepped
    exact netStep_holds holds allowed stepped
  · intro config input holds _
    cases input with
    | turn index succeeds =>
        intro proc at_
        exact keepsPromise holds at_ succeeds
    | _ => trivial

/-! A profile that takes its address from DHCP, and changes to fixed addresses. -/

def dhcpProfile : NetProfile :=
  { method := .auto
    addresses := none
    gateway := none
    dns := []
    other := [] }

def fixedSettings (host : Nat) : NetSettings :=
  { address := [192, 168, 0, host]
    prefixLen := 24
    gateway := [192, 168, 0, 1]
    dns := [[192, 168, 0, 1]] }

def invokeApply (host : Nat) : NetInput :=
  .invoke (.apply { settings := fixedSettings host, secs := 60 })

def invokeRequest (host : Nat) : NetInput :=
  .invoke
    (.applyRequest
      { ip := some [192, 168, 0, host]
        prefixLen := some 24
        gateway := some [192, 168, 0, 1]
        dns := none })

def turns (index count : Nat) : List NetInput :=
  List.replicate count (.turn index true)

/-- An apply whose timer elapses while the button starts a rollback too; the power fails
between their copies, and the boot unit takes the change back. -/
def interruptedRollback : List NetInput :=
  invokeApply 10 :: turns 0 10 ++ [.timerElapses, .invoke .rollback] ++ turns 1 3 ++ turns 2 4 ++
    .powerLoss :: turns 0 7 ++ invokeRequest 20 :: turns 1 5

theorem unconfirmed_rolls_back_interrupted :
    Guarded netStep RollsBack (NetConfig.fresh dhcpProfile) interruptedRollback ∧
      (run netStep (NetConfig.fresh dhcpProfile) interruptedRollback).map (·.world.profile) =
        some (dhcpProfile.modify (fixedSettings 20)) :=
  ⟨unconfirmed_rolls_back dhcpProfile interruptedRollback (by decide +kernel),
    by decide +kernel⟩

/-- Two applies pass the check together; the second one's backup is the change of the
first, and a rollback comes to the point where it removes `pending`. -/
def secondApply : List NetInput :=
  [invokeApply 10, invokeApply 20] ++ turns 0 1 ++ turns 1 1 ++ turns 0 10 ++ turns 1 10 ++
    .invoke .rollback :: turns 2 5

/-- An apply marks its change as pending while `apply-request` probes its address; a
rollback comes to the point where it copies the backup. -/
def requestBesideApply : List NetInput :=
  [invokeRequest 20, invokeApply 10] ++ turns 0 1 ++ turns 1 6 ++ turns 0 3 ++
    .invoke .rollback :: turns 2 3

def comesTo (inputs : List NetInput) : NetConfig :=
  (run netStep (NetConfig.fresh dhcpProfile) inputs).getD (NetConfig.fresh dhcpProfile)

theorem rollback_breaks_promise :
    ¬ Guarded netStep RollsBack (NetConfig.fresh dhcpProfile) (secondApply ++ turns 2 1) ∧
      ¬ Guarded netStep RollsBack (NetConfig.fresh dhcpProfile)
        (requestBesideApply ++ turns 2 1) := by
  constructor
  · intro guarded
    have reached : run netStep (NetConfig.fresh dhcpProfile) secondApply =
        some (comesTo secondApply) := by decide +kernel
    have promised := guarded.at reached (by decide +kernel)
      (.rollingBack .removePending) (by decide +kernel)
    -- The profile that is in force is the change of the first apply.
    have restored := promised.restores rfl dhcpProfile (.inl (by decide +kernel))
    exact absurd restored (by decide +kernel)
  · intro guarded
    have reached : run netStep (NetConfig.fresh dhcpProfile) requestBesideApply =
        some (comesTo requestBesideApply) := by decide +kernel
    have promised := guarded.at reached (by decide +kernel)
      (.rollingBack (.copyProfile .profileFile)) (by decide +kernel)
    rcases promised.spares rfl with same | spared
    · exact absurd same (by decide +kernel)
    · have kept := spared (dhcpProfile.modify (fixedSettings 20)) (by decide +kernel)
      exact absurd kept (by decide +kernel)

end Acud
