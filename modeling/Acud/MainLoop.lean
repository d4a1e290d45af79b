/-
Module: Acud.MainLoop
Purpose: The program: its start, the reload of its configuration, and the log.
Trusted boundary: none
Main exports:
  AcuLog, resolveEventsPath, resolveUsersPath, MainLoop, MainLoop.start, MainLoop.reload,
  MainInput, MainLoop.step
-/
import Acud.DiscoverService

namespace Acud

open Lib

/-!
`main` reads the configuration, opens what it names, and then waits.  A signal makes it read
the file again: what can be switched while it runs is switched, and where something cannot be
opened the old one is kept together with the field that names it.

The databases and the listening socket are known by what they were opened with.  What a
callback does is the daemon's step, or that of the discovery unit.  Allocations do not fail, and
the file with the number of the process is left out except for its name.

[SRC src/acud/main.c, src/acud/log.c]
-/

/-! ### The log -/

/-- The file the log is written to; without one it is the standard output. -/
structure AcuLog where
  isOpen : Bool
  path : Bytes
deriving Repr, Inhabited, DecidableEq

def AcuLog.stdout : AcuLog :=
  { isOpen := false
    path := [] }

def logPathCap : Nat := 256

def logClose (log : AcuLog) : AcuLog :=
  { log with isOpen := false }

/-- `opens` says which files can be appended to. -/
def logOpen (opens : Bytes → Bool) (log : AcuLog) (path : Bytes) : AcuLog :=
  let closed := logClose log
  if path = [] then { closed with path := [] }
  else
    let named := snprintfText logPathCap path
    if opens named then { isOpen := true, path := named }
    else { closed with path := [] }

/-- The file may have been moved away: the one of its name is opened again. -/
def logReopen (opens : Bytes → Bool) (log : AcuLog) : AcuLog :=
  if log.isOpen then logOpen opens log log.path else log

/-! ### Paths -/

def storePathCap : Nat := 300

/-- `strrchr(path, '/')`: what stands in front of the last slash. -/
def directoryOf (path : Bytes) : Option Bytes :=
  if 47 ∈ path then
    some (path.take (path.length - 1 - (path.reverse.takeWhile (· ≠ 47)).length))
  else none

def pathNextToDb (cfg : Config.AcuConfig) (name : Bytes) : Bytes :=
  match directoryOf cfg.dbPath with
  | some directory => snprintfText storePathCap (directory ++ [47] ++ name)
  | none => snprintfText storePathCap name

def resolveEventsPath (cfg : Config.AcuConfig) : Bytes :=
  if cfg.eventsDbPath ≠ [] then snprintfText storePathCap cfg.eventsDbPath
  else pathNextToDb cfg (cstr "events.db")

def resolveUsersPath (cfg : Config.AcuConfig) : Bytes :=
  if cfg.usersDbPath ≠ [] then snprintfText storePathCap cfg.usersDbPath
  else pathNextToDb cfg (cstr "users.db")

/-! ### The program -/

/-- `apply_module_layout`. -/
def Config.AcuConfig.layout (cfg : Config.AcuConfig) : AcuModuleLayout :=
  { moduleCount := cfg.moduleCount.toNat
    readers := cfg.moduleReaders.toNat
    inputs := cfg.moduleInputs.toNat
    outputs := cfg.moduleOutputs.toNat
    alarmFireInputs := cfg.moduleAlarmFireInputs.toNat
    moduleType := cfg.moduleType.toNat
    installType := cfg.moduleInstallType.toNat }

/-- The fields that the daemon's parts are given. -/
def Config.AcuConfig.daemon (cfg : Config.AcuConfig) : Acud.AcuConfig :=
  { doorOpenSeconds := cfg.doorOpenSeconds.toNat
    eventsBatchSize := cfg.eventsBatchSize
    inactivitySeconds := cfg.inactivitySeconds
    deviceCategory := cfg.deviceCategory.toNat
    deviceType := cfg.deviceType.toNat
    timeSyncEnabled := cfg.timeSyncEnabled
    layout := cfg.layout }

structure MainLoop where
  cfg : Config.AcuConfig
  /-- It is copied at the start: this file is removed at the end. -/
  pidPath : Bytes
  log : AcuLog
  /-- What the settings database was opened with, and the two stores beside it. -/
  db : Bytes
  eventsDb : Bytes
  usersDb : Bytes
  /-- The port of the network unit, if there is one. -/
  port : Option Int
  disc : Option Discover.DiscoverSys
  daemon : Daemon

/-- What `main` finds when it starts. -/
structure Boot where
  file : Option Document
  /-- The machine's cast of a double that is no `long long`. -/
  castOutside : CastOutside
  opensLog : Bytes → Bool
  halOpens : Bool
  openDb : Bytes → Option SettingsDb
  openEvents : Bytes → Option EventsDb
  openUsers : Bytes → UsersFile
  usersFaults : Faults SqlKind
  listen : Int → Option Nat
  discoverFd : Option Nat
  nametoindex : Bytes → Nat
  inputFds : List Nat
  housekeepingFd : Option Nat
  answers : Nat → SendAnswer
  clock : Clock

/-- `none` when it gives up: without the hardware, the settings or the roster. -/
def MainLoop.start (boot : Boot) : Option MainLoop :=
  let cfg := (configLoad boot.castOutside boot.file configSetDefaults).2
  if boot.halOpens = false then none
  else
    match boot.openDb cfg.dbPath with
    | none => none
    | some settings =>
        let listenFd := boot.listen cfg.tcpPort
        let started := mainStart
          { cfg := cfg.daemon
            settings := settings
            events := boot.openEvents (resolveEventsPath cfg)
            eventsCapacity := cfg.eventsCapacity
            users := boot.openUsers (resolveUsersPath cfg)
            usersFaults := boot.usersFaults
            listenFd := listenFd
            discoverFd := boot.discoverFd
            inputFds := boot.inputFds
            housekeepingFd := boot.housekeepingFd
            answers := boot.answers
            clock := boot.clock }
        started.map fun daemon =>
          { cfg := cfg
            pidPath := snprintfText configPathCap cfg.pidPath
            log := logOpen boot.opensLog .stdout cfg.logPath
            db := cfg.dbPath
            eventsDb := resolveEventsPath cfg
            usersDb := resolveUsersPath cfg
            port := if listenFd.isSome then some cfg.tcpPort else none
            disc :=
              (Discover.discoverInit boot.nametoindex boot.discoverFd.isSome cfg).map fun unit =>
                { unit := unit
                  requestFiles := fun _ => none }
            daemon := daemon }

/-! ### Reload -/

/-- What a reload finds. -/
structure ReloadEnv where
  file : Option Document
  castOutside : CastOutside
  opensLog : Bytes → Bool
  openDb : Bytes → Option SettingsDb
  listen : Int → Option Nat
  nametoindex : Bytes → Nat

/-- Another path is opened; the one that cannot be is given up. -/
def reloadLog (env : ReloadEnv) (old new : Config.AcuConfig) (log : AcuLog) : AcuLog :=
  if new.logPath ≠ old.logPath then logOpen env.opensLog log new.logPath else log

/-- The file that is removed at the end must not change. -/
def keepPidPath (pidPath : Bytes) (new : Config.AcuConfig) : Config.AcuConfig :=
  if new.pidPath ≠ pidPath then { new with pidPath := snprintfText configPathCap pidPath } else new

/-- The database of a new path, if there is one, and whether it could be opened. -/
def reopenDb (env : ReloadEnv) (old new : Config.AcuConfig) : Option (Option SettingsDb) :=
  if new.dbPath ≠ old.dbPath then some (env.openDb new.dbPath) else none

def reopenPort (env : ReloadEnv) (old new : Config.AcuConfig) : Option (Option Nat) :=
  if new.tcpPort ≠ old.tcpPort then some (env.listen new.tcpPort) else none

/-- What could not be opened keeps its name. -/
def keepDbPath (old : Config.AcuConfig) (found : Option (Option SettingsDb))
    (new : Config.AcuConfig) : Config.AcuConfig :=
  match found with
  | some none => { new with dbPath := snprintfText configPathCap old.dbPath }
  | some (some _) | none => new

def keepTcpPort (old : Config.AcuConfig) (found : Option (Option Nat))
    (new : Config.AcuConfig) : Config.AcuConfig :=
  match found with
  | some none => { new with tcpPort := old.tcpPort }
  | some (some _) | none => new

/-- The input of the daemon, and the configuration that is in force afterwards; nothing if the
file was not loaded. -/
def MainLoop.reloadFound (main : MainLoop) (env : ReloadEnv) :
    Option (Reload × Config.AcuConfig) :=
  match configLoad env.castOutside env.file main.cfg with
  | (false, _) => none
  | (true, loaded) =>
      let named := keepPidPath main.pidPath loaded
      let db := reopenDb env main.cfg named
      let stored := keepDbPath main.cfg db named
      let port := reopenPort env main.cfg stored
      let cfg := keepTcpPort main.cfg port stored
      some
        ({ cfg := cfg.daemon
           db := db
           port := port }, cfg)

def MainLoop.reload (main : MainLoop) (env : ReloadEnv) : MainLoop :=
  let reopened := logReopen env.opensLog main.log
  match main.reloadFound env with
  | none => { main with log := reopened }
  | some (reload, cfg) =>
      { main with
        cfg := cfg
        log := reloadLog env main.cfg cfg reopened
        db := if reload.db.join.isSome then cfg.dbPath else main.db
        port := if reload.port.join.isSome then some cfg.tcpPort else main.port
        disc := main.disc.map fun disc =>
          (disc.step (.applyConfig env.nametoindex cfg)).1
        daemon := reloadConfig main.daemon reload }

/-! ### Steps -/

/-- What wakes `main`.  The timer may not be readable, and then nothing is done. -/
inductive MainInput where
  | clientReady (ready : LoopInterest) (answer : RecvAnswer)
  | listenReady (accepted : Option Nat)
  | cardReadable (sensors : Sensors) (down : List Nat) (cards : List CardTag)
  | housekeeping (expired : Bool)
  | clock (now monotonic : Int)
  | datagram (env : Discover.ServiceEnv) (datagram : Discover.Datagram)
  | requestTaken (path : Discover.RequestPath)
  | reload (env : ReloadEnv)

/-- `net_is_connected`: there may be no network unit. -/
def Daemon.isConnected (daemon : Daemon) : Bool :=
  daemon.netUp && netIsConnected daemon.sys.link

/-- A change of the discovery unit, if there is one. -/
def MainLoop.onDisc (main : MainLoop) (input : Discover.DiscoverInput) : MainLoop :=
  { main with disc := main.disc.map fun disc => (disc.step input).1 }

/-- A callback of the daemon. -/
def MainLoop.callback (main : MainLoop) (input : Input) : Option MainLoop :=
  (main.daemon.step input).map fun daemon => { main with daemon := daemon }

def MainLoop.step (main : MainLoop) : MainInput → Option MainLoop
  | .clientReady ready answer => main.callback (.clientReady ready answer)
  | .listenReady accepted => main.callback (.listenReady accepted)
  | .cardReadable sensors down cards => main.callback (.cardReadable sensors down cards)
  | .housekeeping expired =>
      if expired then
        (main.callback .housekeeping).map fun next =>
          next.onDisc (.setConnected next.daemon.isConnected)
      else some main
  | .clock now monotonic => main.callback (.clock now monotonic)
  | .datagram env datagram => some (main.onDisc (.datagram env datagram))
  | .requestTaken path => some (main.onDisc (.taken path))
  | .reload env => some (main.reload env)

/-- A first start without a configuration file. -/
def Boot.first : Boot :=
  { file := none
    castOutside := castX86
    opensLog := fun _ => true
    halOpens := true
    openDb := fun _ => some (StartUp.first fun _ => .again).settings
    openEvents := fun _ => none
    openUsers := fun _ => UsersFile.blank
    usersFaults := Faults.none
    listen := fun _ => some 5
    discoverFd := some 8
    nametoindex := fun _ => 2
    inputFds := [6]
    housekeepingFd := some 7
    answers := fun _ => .again
    clock := (StartUp.first fun _ => .again).clock }

end Acud
