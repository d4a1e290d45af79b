/-
Module: Acud.Daemon
Purpose: The daemon: callbacks of `main`, reload, and one step for each input.
Trusted boundary: none
Main exports:
  AcuConfig, configLoadLayout, Daemon, checkAlarmFire, onCardReadable, reloadConfig,
  Input, Daemon.step
-/
import Acud.Receive

namespace Acud

open Lib

/-!
`main` owns every object and lends them to the callbacks.  Its loop waits for a
descriptor to become ready, runs the callback, and applies a configuration
reload between two waits.  An `Input` is one such event together with what the
environment answers during it.

The network unit may be missing (the port could not be opened at start); then
`net` is NULL and everything that needs it does nothing.

[SRC src/acud/main.c, src/acud/config.c]
-/

def halRruMax : Nat := 7

/-- The configuration fields the daemon applies on a reload. -/
structure AcuConfig where
  doorOpenSeconds : Nat
  eventsBatchSize : Int
  inactivitySeconds : Int
  deviceCategory : Nat
  deviceType : Nat
  timeSyncEnabled : Bool
  layout : AcuModuleLayout
deriving Repr, Inhabited, DecidableEq

/-- The fields of the configuration file that describe the modules; `none` is a field that
is missing or not a number. -/
structure LayoutFields where
  moduleCount : Option Int
  moduleReaders : Option Int
  moduleInputs : Option Int
  moduleOutputs : Option Int
  moduleAlarmFireInputs : Option Int
  moduleType : Option Int
  moduleInstallType : Option Int

/-- A number outside its bounds reads as the default. -/
def readIntField (item : Option Int) (max fallback : Nat) : Nat :=
  match item with
  | none => fallback
  | some value => if 0 ≤ value ∧ value ≤ max then value.toNat else fallback

/-- The layout `config_load` reads from a file. -/
def configLoadLayout (fields : LayoutFields) : AcuModuleLayout :=
  { moduleCount := readIntField fields.moduleCount idtiModuleCountV2 idtiModuleDefaultCount
    readers := readIntField fields.moduleReaders idtiModuleIoSlots idtiModuleDefaultReaders
    inputs := readIntField fields.moduleInputs idtiModuleIoSlots idtiModuleDefaultInputs
    outputs := readIntField fields.moduleOutputs idtiModuleIoSlots idtiModuleDefaultOutputs
    alarmFireInputs :=
      readIntField fields.moduleAlarmFireInputs idtiModuleIoSlots
        idtiModuleDefaultAlarmFireInputs
    moduleType := readIntField fields.moduleType 255 idtiModuleTypeSsc324
    installType := readIntField fields.moduleInstallType 2 idtiModuleInstallInternal }

structure Daemon where
  sys : NetSys
  /-- `net` is not NULL. -/
  netUp : Bool

/-- Apply a change of the network unit, if there is one. -/
def Daemon.onNet (daemon : Daemon) (change : NetSys → NetSys) : Daemon :=
  if daemon.netUp then { daemon with sys := change daemon.sys } else daemon

/-! ### Card input -/

/-- The sensor inputs as the hardware layer reports them. -/
structure Sensors where
  doorOpen : Bool
  alarm : Bool
  fire : Bool
deriving Repr, Inhabited, DecidableEq

/-- A card that was read, and how the database steps of its decision end. -/
structure CardTag where
  rru : Nat
  cardId : CardId
  reads : JudgeReads

def moduleAddrForRru (rru : Nat) : Nat :=
  let number := if rru < 1 ∨ rru > halRruMax then 1 else rru
  (number - 1) * 2 + idtiEventAddrFirstModule

/-- Recompute the relays from the stored settings and the latched inputs. -/
def Daemon.applyOutputs (daemon : Daemon) : Daemon :=
  { daemon with
    sys :=
      { daemon.sys with
        panel := applyAlarmOutputs daemon.sys.settings daemon.sys.panel } }

def checkAlarm (daemon : Daemon) (alarm : Bool) : Daemon :=
  if alarm = daemon.sys.panel.alarmActive then daemon
  else
    let latched : Daemon :=
      { daemon with
        sys := { daemon.sys with panel := { daemon.sys.panel with alarmActive := alarm } } }
    (latched.onNet fun s =>
      netPushSystemEvent s (if alarm then idtiEventAlarmDetected else idtiEventAlarmRestored)
        idtiEventAddrFirstModule idtiEventAddrAlarmReader).applyOutputs

def checkFire (daemon : Daemon) (fire : Bool) : Daemon :=
  if fire = daemon.sys.panel.fireActive then daemon
  else
    let latched : Daemon :=
      { daemon with
        sys := { daemon.sys with panel := { daemon.sys.panel with fireActive := fire } } }
    (latched.onNet fun s =>
      netPushSystemEvent s (if fire then idtiEventFireDetected else idtiEventFireRestored)
        idtiEventAddrNone idtiEventAddrNone).applyOutputs

def checkAlarmFire (daemon : Daemon) (sensors : Sensors) : Daemon :=
  checkFire (checkAlarm daemon sensors.alarm) sensors.fire

def reportRruDisconnected (daemon : Daemon) (rru : Nat) : Daemon :=
  daemon.onNet fun s =>
    netPushSystemEvent s idtiEventHwNoResponse (moduleAddrForRru rru) idtiEventAddrNone

/-- Decide on one card, report it, and open the door when it is granted. -/
def judgeCard (doorStatus : UInt8) (daemon : Daemon) (card : CardTag) : Daemon :=
  let s := daemon.sys
  let judged := accessJudge s.link.store.users s.settings card.reads s.clock card.cardId
  let accessId : Blob 8 :=
    match judged with
    | (.granted, some user) => user.userId
    | _ => card.cardId
  let reported := daemon.onNet fun s =>
    netPushEvent s judged.1 accessId doorStatus (moduleAddrForRru card.rru)
      idtiEventAddrFirstReader
  if judged.1 = .granted then
    { reported with
      sys :=
        { reported.sys with
          panel :=
            { reported.sys.panel with
              hal := halOpenDoor reported.sys.panel.hal
                reported.sys.panel.doorOpenSeconds } } }
  else reported

def onCardReadable (daemon : Daemon) (sensors : Sensors) (down : List Nat)
    (cards : List CardTag) : Daemon :=
  let doorStatus := if sensors.doorOpen then idtiDoorStatusOpen else idtiDoorStatusClosed
  let noted := daemon.onNet fun s => { s with net := { s.net with doorStatus := doorStatus } }
  cards.foldl (judgeCard doorStatus)
    (down.foldl reportRruDisconnected (checkAlarmFire noted sensors))

/-! ### Reload -/

/-- What a reload finds.  `db` is present when `db_path` changed and holds the
opened and seeded database, or nothing when it could not be opened; `port` is
the same for `tcp_port` and the descriptor of the new listening socket. -/
structure Reload where
  cfg : AcuConfig
  db : Option (Option SettingsDb)
  port : Option (Option Nat)

/-- The setters that `main` calls for a network unit. -/
def applyNetConfig (net : AcuNet) (cfg : AcuConfig) : AcuNet :=
  let stored := netSetEventStore net cfg.eventsBatchSize
  { stored with
    inactivitySeconds := if cfg.inactivitySeconds > 0 then cfg.inactivitySeconds else 0
    deviceCategory := cfg.deviceCategory
    deviceType := cfg.deviceType
    timeSyncEnabled := cfg.timeSyncEnabled
    layout := cfg.layout }

/-- A network unit with everything `main` attaches to it. -/
def freshNet (cfg : AcuConfig) : AcuNet :=
  { applyNetConfig AcuNet.initial cfg with
    settingsAttached := true
    onForceOpen := true
    onSettingChanged := true }

/-- Register the listening socket. -/
def netAttachLoop (link : Link) : Link :=
  { link with
    loop :=
      (loopAdd link.loop link.listenFd LoopInterest.readOnly
        LoopCallback.netOnListenReady).getD link.loop }

/-- The connection part of a new network unit. -/
def freshLink (old : Link) (listenFd : Nat) : Link :=
  netAttachLoop
    { old with
      listenFd := listenFd
      conn := ClientConn.initial
      userbinAttached := true
      usersAttached := true }

/-- `db_path` changed: switch to the new database if it could be opened. -/
def reloadDb (daemon : Daemon) : Option (Option SettingsDb) → Daemon
  | some (some db) =>
      { daemon with sys := { daemon.sys with settings := (devsetInit db).2 } }.onNet
        fun s => { s with net := { s.net with settingsAttached := true } }
  | _ => daemon

/-- `tcp_port` changed: replace the network unit if the port could be opened. -/
def reloadPort (daemon : Daemon) (cfg : AcuConfig) : Option (Option Nat) → Daemon
  | some (some listenFd) =>
      let old := if daemon.netUp then netShutdown daemon.sys.link else daemon.sys.link
      { sys :=
          { daemon.sys with
            link := freshLink old listenFd
            net := freshNet cfg }
        netUp := true }
  | _ => daemon

def reloadConfig (daemon : Daemon) (reload : Reload) : Daemon :=
  let moved := reloadPort (reloadDb daemon reload.db) reload.cfg reload.port
  let configured : Daemon :=
    { moved with
      sys :=
        { moved.sys with
          panel :=
            { moved.sys.panel with
              moduleCount := reload.cfg.layout.moduleCount
              doorOpenSeconds := reload.cfg.doorOpenSeconds } } }
  configured.onNet fun s => { s with net := applyNetConfig s.net reload.cfg }

/-! ### Steps -/

/-- One event of the main loop. -/
inductive Input where
  | clientReady (ready : LoopInterest) (answer : RecvAnswer)
  | listenReady (accepted : Option Nat)
  | cardReadable (sensors : Sensors) (down : List Nat) (cards : List CardTag)
  | housekeeping
  | reload (reload : Reload)
  | clock (now monotonic : Int)

/-- The state after one event; `none` when a callback left its buffer. -/
def Daemon.step (daemon : Daemon) : Input → Option Daemon
  | .clientReady ready answer =>
      if daemon.netUp ∧ netIsConnected daemon.sys.link then
        (netOnClientReady daemon.sys ready answer).map fun s => { daemon with sys := s }
      else some daemon
  | .listenReady accepted => some (daemon.onNet fun s => netOnListenReady s accepted)
  | .cardReadable sensors down cards => some (onCardReadable daemon sensors down cards)
  | .housekeeping => some (daemon.onNet netCheckInactivity)
  | .reload reload => some (reloadConfig daemon reload)
  | .clock now monotonic =>
      some
        { daemon with
          sys :=
            { daemon.sys with
              clock := { daemon.sys.clock with now := now, monotonic := monotonic } } }

/-! ### Start -/

/-- What `main` finds when it starts: the configuration, the opened and seeded
settings database, the files of the two stores, the descriptors it can watch,
and the environment.  `listenFd` is `none` when the port cannot be opened. -/
structure StartUp where
  cfg : AcuConfig
  settings : SettingsDb
  events : Option EventsDb
  eventsCapacity : Int
  users : UsersFile
  usersFaults : Faults SqlKind
  listenFd : Option Nat
  discoverFd : Option Nat
  inputFds : List Nat
  housekeepingFd : Option Nat
  answers : Nat → SendAnswer
  clock : Clock

/-- Watch a descriptor for input; a full table leaves it unwatched. -/
def watchInput (cb : LoopCallback) (loop : AcuLoop LoopCallback) (fd : Nat) :
    AcuLoop LoopCallback :=
  (loopAdd loop fd LoopInterest.readOnly cb).getD loop

/-- The registrations of `main` after those of the network unit. -/
def StartUp.watch (start : StartUp) (loop : AcuLoop LoopCallback) :
    AcuLoop LoopCallback :=
  let discover := start.discoverFd.toList.foldl (watchInput .onDiscoverReadable) loop
  let inputs := start.inputFds.foldl (watchInput .onCardReadable) discover
  start.housekeepingFd.toList.foldl (watchInput .onHousekeeping) inputs

/-- The connection and the roster store before the network unit is attached. -/
def StartUp.link (start : StartUp) (users : AcuUsers) : Link :=
  { listenFd := 0
    conn := ClientConn.initial
    sock := { answers := start.answers, calls := 0, wire := [] }
    loop := loopCreate
    store := userbinCreate users
    userbinAttached := true
    usersAttached := true }

/-- The daemon when its loop starts; `none` when `main` gives up because the
roster cannot be opened. -/
def mainStart (start : StartUp) : Option Daemon :=
  match usersOpen start.users start.usersFaults with
  | (false, _) => none
  | (true, opened) =>
      let link := start.link (usersSeedDummy opened)
      let attached :=
        match start.listenFd with
        | none => link
        | some listenFd => freshLink link listenFd
      some
        { sys :=
            { link := { attached with loop := start.watch attached.loop }
              net := freshNet start.cfg
              events := eventsOpen start.events start.eventsCapacity
              settings := (devsetInit start.settings).2
              panel :=
                { hal := Hal.initial
                  alarmActive := false
                  fireActive := false
                  moduleCount := start.cfg.layout.moduleCount
                  doorOpenSeconds := start.cfg.doorOpenSeconds }
              clock := start.clock }
          netUp := start.listenFd.isSome }

/-- A first start: the default configuration and empty stores. -/
def StartUp.first (answers : Nat → SendAnswer) : StartUp :=
  { cfg :=
      { doorOpenSeconds := 3
        eventsBatchSize := 200
        inactivitySeconds := 600
        deviceCategory := idtiDeviceCategoryDefault
        deviceType := idtiDeviceTypeDefault
        timeSyncEnabled := true
        layout :=
          { moduleCount := 2
            readers := 2
            inputs := 6
            outputs := 4
            alarmFireInputs := 2
            moduleType := 61
            installType := 1 } }
    settings :=
      { deviceSettings := none
        validations := []
        timezones := []
        faults := Faults.none }
    events := some { events := EventTable.empty, sentSeq := 0, faults := Faults.none }
    eventsCapacity := 0
    users := UsersFile.blank
    usersFaults := Faults.none
    listenFd := some 5
    discoverFd := none
    inputFds := [6]
    housekeepingFd := some 7
    answers := answers
    clock :=
      { now := 0
        monotonic := 0
        localtime := fun _ => default
        mktime := fun _ => none
        settable := false } }

end Acud
