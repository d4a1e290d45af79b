/-
Module: Acud.NetConfig
Purpose: The network setting helper: its commands as processes over two marker files.
Trusted boundary: none
Main exports:
  NetSettings, NetProfile, NetWorld, NetCommand, NetProc, NetProc.exec, NetConfig,
  NetInput, netStep
-/
import Acud.Lib.Interleaving
import Acud.Lib.Machine
import Acud.Lib.Memory

namespace Acud

open Lib

/-!
`acu-netcfg` is a shell script that runs as root.  Each invocation is a process
of its own: the web page starts `apply` and `confirm`, the discovery service
`apply-request`, a button, a timer and the boot unit `rollback`.  They share the
profile file of the wired connection and two marker files, `pending` and
`backup`, and nothing locks them out of each other.

Each constructor of the `...At` types below is a place in the script, named
after the command that comes next, and `exec` runs that one command.  What only
prints, creates the state directory or makes NetworkManager read a file that is
already there has no step of its own.  The last argument of `exec` says whether
the command succeeds, as far as that is up to the system; the script runs with
`set -e`, so one that fails ends it, unless `|| true` follows.

Addresses are given by their dotted parts.

[SRC src/deploy/acu-netcfg, src/deploy/acu-netcfg-boot.service]
-/

/-! ### Settings and their checks -/

/-- The parts between the dots. -/
abbrev Ipv4 := List Nat

def isIpv4 (address : Ipv4) : Bool :=
  address.length == 4 && address.all (· ≤ 255)

def ip2int (address : Ipv4) : Nat :=
  address.foldl (fun value part => value * 256 + part) 0

/-- Both addresses lie in one block of `2 ^ (32 - prefixLen)`. -/
def sameSubnet (first second : Ipv4) (prefixLen : Nat) : Bool :=
  let block := 2 ^ (32 - prefixLen)
  ip2int first / block * block == ip2int second / block * block

/-- What one change sets. -/
structure NetSettings where
  address : Ipv4
  prefixLen : Nat
  gateway : Ipv4
  dns : List Ipv4
deriving Repr, Inhabited, DecidableEq

/-- The checks that `apply` and `apply-request` share. -/
def NetSettings.wellFormed (settings : NetSettings) : Bool :=
  isIpv4 settings.address && isIpv4 settings.gateway &&
    decide (8 ≤ settings.prefixLen ∧ settings.prefixLen ≤ 30) &&
    decide (settings.address ≠ settings.gateway) &&
    sameSubnet settings.address settings.gateway settings.prefixLen

/-- `apply <ip> <prefix> <gw> <dns> <sec>`. -/
structure ApplyArgs where
  settings : NetSettings
  secs : Nat
deriving Repr, Inhabited, DecidableEq

def ApplyArgs.valid (args : ApplyArgs) : Bool :=
  args.settings.wellFormed && decide (30 ≤ args.secs ∧ args.secs ≤ 600) &&
    args.settings.dns.all isIpv4

/-- The request file that the daemon leaves; a line may be missing. -/
structure NetRequest where
  ip : Option Ipv4
  prefixLen : Option Nat
  gateway : Option Ipv4
  dns : Option (List Ipv4)
deriving Repr, Inhabited, DecidableEq

/-- Without a name server the gateway is taken, and the name server is not checked. -/
def NetRequest.settings (request : NetRequest) : Option NetSettings :=
  match request.ip, request.prefixLen, request.gateway with
  | some address, some prefixLen, some gateway =>
      some
        { address := address
          prefixLen := prefixLen
          gateway := gateway
          dns := request.dns.getD [gateway] }
  | _, _, _ => none

/-! ### The shared state -/

inductive Ipv4Method where
  | auto
  | manual
deriving Repr, Inhabited, DecidableEq

/-- The profile file of the connection on `eth0`. -/
structure NetProfile where
  method : Ipv4Method
  addresses : Option (Ipv4 × Nat)
  gateway : Option Ipv4
  dns : List Ipv4
  /-- Everything that `acu-netcfg` does not set. -/
  other : Bytes
deriving Repr, Inhabited, DecidableEq

/-- `nmcli connection modify`. -/
def NetProfile.modify (profile : NetProfile) (settings : NetSettings) : NetProfile :=
  { profile with
    method := .manual
    addresses := some (settings.address, settings.prefixLen)
    gateway := some settings.gateway
    dns := settings.dns }

/-- The text of the `pending` file: created and still empty, or the name of the
profile file. -/
inductive PendingText where
  | empty
  | profileFile
deriving Repr, Inhabited, DecidableEq

/-- What the processes share, and two records that none of them reads: the
profiles that applies not yet confirmed or rolled back have started from, and
the profile that `apply-request` installed last, until a confirmed apply
replaces it. -/
structure NetWorld where
  profile : NetProfile
  backup : Option NetProfile
  pending : Option PendingText
  /-- The rollback timer is armed. -/
  timer : Bool
  unconfirmed : List NetProfile
  requested : Option NetProfile
deriving Repr, Inhabited, DecidableEq

/-! ### The processes -/

inductive NetCommand where
  | apply (args : ApplyArgs)
  | applyRequest (request : NetRequest)
  | confirm
  | rollback
deriving Repr, Inhabited, DecidableEq

inductive ApplyAt where
  | checkConflict
  | connFile
  | copyBackup
  | openPending
  | printPending
  | chmodFiles
  | stopTimer
  | runTimer
  | modify
  | up
deriving Repr, Inhabited, DecidableEq

inductive RequestAt where
  | checkConflict
  | connName
  | modify
  | up
deriving Repr, Inhabited, DecidableEq

inductive ConfirmAt where
  | stopTimer
  | removePending
  | removeBackup
deriving Repr, Inhabited, DecidableEq

inductive RollbackAt where
  | readPending
  | testBackup (file : PendingText)
  | copyProfile (file : PendingText)
  | stopTimer
  | removePending
  | removeBackup
deriving Repr, Inhabited, DecidableEq

/-- One invocation.  `start` is in front of the test of the `pending` file; an
apply records, for the statements about it, which profile it started from. -/
inductive NetProc where
  | start (command : NetCommand)
  | applying (settings : NetSettings) (origin : NetProfile) (place : ApplyAt)
  | requesting (settings : NetSettings) (place : RequestAt)
  | confirming (place : ConfirmAt)
  | rollingBack (place : RollbackAt)
  | ended
deriving Repr, Inhabited, DecidableEq

namespace NetCommand

/-- The first commands: the checks of the arguments and of the `pending` file.
Without a change to take back, `rollback` ends well and the others do not. -/
def enter (world : NetWorld) : NetCommand → NetProc
  | .apply args =>
      if args.valid ∧ world.pending = none then
        .applying args.settings world.profile .checkConflict
      else .ended
  | .applyRequest request =>
      match request.settings with
      | some settings =>
          if world.pending = none ∧ settings.wellFormed then
            .requesting settings .checkConflict
          else .ended
      | none => .ended
  | .confirm => if world.pending.isSome then .confirming .stopTimer else .ended
  | .rollback => if world.pending.isSome then .rollingBack .readPending else .ended

end NetCommand

namespace NetWorld

/-- `systemctl stop acu-netcfg-rollback.timer || true`. -/
def stopTimer (world : NetWorld) (succeeds : Bool) : NetWorld :=
  { world with timer := world.timer && !succeeds }

/-- `confirm` removes `pending`: the change in force is not taken back any more. -/
def confirmPending (world : NetWorld) : NetWorld :=
  if world.pending.isSome then
    { world with pending := none, unconfirmed := [], requested := none }
  else world

/-- `rollback` removes `pending`: the change has been taken back. -/
def clearPending (world : NetWorld) : NetWorld :=
  if world.pending.isSome then { world with pending := none, unconfirmed := [] }
  else world

def removeBackup (world : NetWorld) : NetWorld :=
  { world with backup := none }

end NetWorld

/-- `cmd_apply` after its checks. -/
def cmdApply (world : NetWorld) (settings : NetSettings) (origin : NetProfile)
    (succeeds : Bool) : ApplyAt → NetWorld × NetProc
  | .checkConflict =>
      if succeeds then (world, .applying settings origin .connFile) else (world, .ended)
  | .connFile =>
      if succeeds then (world, .applying settings origin .copyBackup) else (world, .ended)
  | .copyBackup =>
      if succeeds then
        ({ world with backup := some world.profile }, .applying settings origin .openPending)
      else (world, .ended)
  | .openPending =>
      if succeeds then
        ({ world with
            pending := some .empty
            unconfirmed := origin :: world.unconfirmed },
          .applying settings origin .printPending)
      else (world, .ended)
  | .printPending =>
      -- What goes into a file that was removed meanwhile is lost.
      if succeeds then
        ({ world with pending := world.pending.map fun _ => .profileFile },
          .applying settings origin .chmodFiles)
      else (world, .ended)
  | .chmodFiles =>
      if succeeds ∧ world.backup.isSome ∧ world.pending.isSome then
        (world, .applying settings origin .stopTimer)
      else (world, .ended)
  | .stopTimer => (world.stopTimer succeeds, .applying settings origin .runTimer)
  | .runTimer =>
      if succeeds ∧ world.timer = false then
        ({ world with timer := true }, .applying settings origin .modify)
      else (world, .ended)
  | .modify =>
      if succeeds then
        ({ world with
            profile := world.profile.modify settings
            unconfirmed := origin :: world.unconfirmed },
          .applying settings origin .up)
      else (world, .ended)
  | .up => (world, .ended)

/-- `cmd_apply_request` after its checks. -/
def cmdApplyRequest (world : NetWorld) (settings : NetSettings) (succeeds : Bool) :
    RequestAt → NetWorld × NetProc
  | .checkConflict =>
      if succeeds then (world, .requesting settings .connName) else (world, .ended)
  | .connName => if succeeds then (world, .requesting settings .modify) else (world, .ended)
  | .modify =>
      if succeeds then
        ({ world with
            profile := world.profile.modify settings
            requested := some (world.profile.modify settings) },
          .requesting settings .up)
      else (world, .ended)
  | .up => (world, .ended)

/-- `cmd_confirm` after its check. -/
def cmdConfirm (world : NetWorld) (succeeds : Bool) : ConfirmAt → NetWorld × NetProc
  | .stopTimer => (world.stopTimer succeeds, .confirming .removePending)
  | .removePending => (world.confirmPending, .confirming .removeBackup)
  | .removeBackup => (world.removeBackup, .ended)

/-- `cmd_rollback` after its check. -/
def cmdRollback (world : NetWorld) (succeeds : Bool) : RollbackAt → NetWorld × NetProc
  | .readPending =>
      match world.pending with
      | some file =>
          if succeeds then (world, .rollingBack (.testBackup file)) else (world, .ended)
      | none => (world, .ended)
  | .testBackup file =>
      if world.backup.isSome then (world, .rollingBack (.copyProfile file))
      else (world, .rollingBack .stopTimer)
  | .copyProfile file =>
      -- There is no file without a name to copy to.
      match world.backup, file with
      | some backup, .profileFile =>
          if succeeds then ({ world with profile := backup }, .rollingBack .stopTimer)
          else (world, .ended)
      | _, _ => (world, .ended)
  | .stopTimer => (world.stopTimer succeeds, .rollingBack .removePending)
  | .removePending => (world.clearPending, .rollingBack .removeBackup)
  | .removeBackup => (world.removeBackup, .ended)

/-- One command of one process. -/
def NetProc.exec (world : NetWorld) (proc : NetProc) (succeeds : Bool) : NetWorld × NetProc :=
  match proc with
  | .start command => (world, command.enter world)
  | .applying settings origin place => cmdApply world settings origin succeeds place
  | .requesting settings place => cmdApplyRequest world settings succeeds place
  | .confirming place => cmdConfirm world succeeds place
  | .rollingBack place => cmdRollback world succeeds place
  | .ended => (world, .ended)

/-! ### Runs -/

abbrev NetConfig := Pool NetWorld NetProc

inductive NetInput where
  | invoke (command : NetCommand)
  /-- The armed timer elapses and its unit starts a rollback. -/
  | timerElapses
  | turn (index : Nat) (succeeds : Bool)
  /-- All processes and the timer are gone; at the next boot the boot unit starts a
  rollback. -/
  | powerLoss
deriving Repr, Inhabited, DecidableEq

def netStep (config : NetConfig) : NetInput → Option NetConfig
  | .invoke command => some (config.spawn (.start command))
  | .timerElapses =>
      if config.world.timer then
        some
          ({ config with world := { config.world with timer := false } }.spawn
            (.start .rollback))
      else none
  | .turn index succeeds => config.turn NetProc.exec index succeeds
  | .powerLoss =>
      some
        { world := { config.world with timer := false }
          procs := [.start .rollback] }

/-- No invocation has run yet. -/
def NetConfig.fresh (profile : NetProfile) : NetConfig :=
  { world :=
      { profile := profile
        backup := none
        pending := none
        timer := false
        unconfirmed := []
        requested := none }
    procs := [] }

end Acud
