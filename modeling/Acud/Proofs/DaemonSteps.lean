/-
Module: Acud.Proofs.DaemonSteps
Purpose: Induction rules for the receive callback and frames for the other callbacks.
Trusted boundary: none
Main exports:
  LinkTransport, netOnClientReady_keeps, LoopReaches.keeps, Daemon.Passes,
  SameControls, onCardReadable_frame
-/
import Acud.Lib.Machine
import Acud.Proofs.ReceiveLoop

namespace Acud

open Lib

/-!
An invariant of the daemon is shown for the events of the main loop.  Most of
them reach only a part of the state that an invariant reads, and the receive
callback handles any number of frames.  Both are settled here once:

* `netOnClientReady_keeps` reduces the receive callback to moving bytes over the
  connection and to handling one frame;
* `onCardReadable_frame` says that reading cards reaches the relays only through
  `checkAlarmFire`.

[SRC src/acud/net.c, src/acud/main.c]
-/

/-! ### The receive callback -/

/-- How bytes move over a connection. -/
inductive LinkTransport : Link → Link → Prop where
  | flushed (link : Link) : LinkTransport link (netFlushSend link)
  | dropped (link : Link) : LinkTransport link (netDropClient link)
  | buffered (link : Link) (conn : ClientConn) (same : conn.clientFd = link.conn.clientFd) :
      LinkTransport link { link with conn := conn }

section ReceiveCallback

variable {invariant : NetSys → Prop} {s later : NetSys} {ready : LoopInterest}
  {answer : RecvAnswer} {start : LoopHead}

/-- What the transport of bytes and every frame keep, holds at each loop head. -/
theorem LoopReaches.keeps {head : LoopHead} (reached : LoopReaches start head)
    (serves : ∀ head hdr, LoopReaches start head → head.frame = some hdr →
      invariant head.sys → invariant (handleRequest head.sys hdr head.pkt))
    (holds : invariant start.sys) : invariant head.sys := by
  induction reached with
  | start => exact holds
  | round reached stepped inductionHypothesis =>
      obtain ⟨hdr, found, _, rfl⟩ := recvStep_eq_next.mp stepped
      exact serves _ hdr reached found inductionHypothesis

theorem recvStep_leave_sys {head last : LoopHead} (stepped : recvStep head = .leave last) :
    last.sys = head.sys := by
  unfold recvStep at stepped
  repeat' split at stepped
  all_goals cases stepped
  all_goals rfl

/-- The end of the loop moves bytes to the front of the buffer. -/
theorem recvFinish_keeps {head : LoopHead}
    (carries : ∀ s link, invariant s → LinkTransport s.link link →
      invariant { s with link := link })
    (holds : invariant head.sys) (finished : recvFinish head = some later) :
    invariant later := by
  unfold recvFinish at finished
  simp only at finished
  split at finished
  next =>
    cases finished
    exact holds
  next =>
    split at finished
    next => cases finished
    next =>
      cases finished
      exact carries _ _ holds (.buffered _ _ rfl)

theorem recvLoop_keeps
    (carries : ∀ s link, invariant s → LinkTransport s.link link →
      invariant { s with link := link })
    (serves : ∀ head hdr, LoopReaches start head → head.frame = some hdr →
      invariant head.sys → invariant (handleRequest head.sys hdr head.pkt))
    {rounds : Nat} {head : LoopHead} (reached : LoopReaches start head)
    (holds : invariant head.sys) (ended : recvLoop rounds head = some later) :
    invariant later := by
  induction rounds generalizing head with
  | zero => cases ended
  | succ rounds inductionHypothesis =>
      rw [recvLoop] at ended
      cases stepped : recvStep head with
      | leave last =>
          rw [stepped] at ended
          apply recvFinish_keeps carries (recvStep_leave_sys stepped ▸ holds)
          exact ended
      | undefined =>
          rw [stepped] at ended
          cases ended
      | next head' =>
          rw [stepped] at ended
          obtain ⟨hdr, found, _, rfl⟩ := recvStep_eq_next.mp stepped
          apply inductionHypothesis (reached.round stepped) _ ended
          exact serves head hdr reached found holds

theorem clientReadyFlush_keeps
    (carries : ∀ s link, invariant s → LinkTransport s.link link →
      invariant { s with link := link })
    (holds : invariant s) : invariant (clientReadyFlush s ready) := by
  unfold clientReadyFlush
  split
  next => exact carries s _ holds (.flushed s.link)
  next => exact holds

/-- The loop is entered after a flush and with the received bytes appended. -/
theorem readHead_keeps
    (carries : ∀ s link, invariant s → LinkTransport s.link link →
      invariant { s with link := link })
    (holds : invariant s) (entered : readHead s ready answer = some start) :
    invariant start.sys := by
  obtain ⟨taken, _, _, rfl⟩ := readHead_eq_some entered
  exact carries _ _ (clientReadyFlush_keeps carries holds) (.buffered _ _ rfl)

/-- An invariant that moving bytes keeps, and that each frame keeps, holds after
the receive callback. -/
theorem netOnClientReady_keeps
    (carries : ∀ s link, invariant s → LinkTransport s.link link →
      invariant { s with link := link })
    (serves : ∀ start, readHead s ready answer = some start →
      ∀ head hdr, LoopReaches start head → head.frame = some hdr →
        invariant head.sys → invariant (handleRequest head.sys hdr head.pkt))
    (holds : invariant s) (returned : netOnClientReady s ready answer = some later) :
    invariant later := by
  rcases netOnClientReady_cases s ready answer with
    plain | dropped | ⟨start, entered, looped⟩
  · rw [plain] at returned
    cases returned
    exact clientReadyFlush_keeps carries holds
  · rw [dropped] at returned
    cases returned
    exact carries _ _ (clientReadyFlush_keeps carries holds) (.dropped _)
  · rw [looped] at returned
    exact recvLoop_keeps carries (serves start entered) .start
      (readHead_keeps carries holds entered) returned

end ReceiveCallback

/-- The states in which the daemon waits or handles a frame: the state at rest,
and the loop heads of a receive callback that starts from it. -/
inductive Daemon.Passes (daemon : Daemon) : NetSys → Prop where
  | rest : daemon.Passes daemon.sys
  | head {ready : LoopInterest} {answer : RecvAnswer} {start head : LoopHead}
      (entered : readHead daemon.sys ready answer = some start)
      (reached : LoopReaches start head) : daemon.Passes head.sys

/-- What the transport of bytes and every request keep holds in every state the
daemon passes. -/
theorem Daemon.Passes.keeps {invariant : NetSys → Prop} {daemon : Daemon} {s : NetSys}
    (passes : daemon.Passes s)
    (carries : ∀ s link, invariant s → LinkTransport s.link link →
      invariant { s with link := link })
    (serves : ∀ s hdr pkt, invariant s → invariant (handleRequest s hdr pkt))
    (holds : invariant daemon.sys) : invariant s := by
  cases passes with
  | rest => exact holds
  | head entered reached =>
      apply reached.keeps fun head hdr _ _ kept => serves head.sys hdr head.pkt kept
      exact readHead_keeps carries holds entered

/-! ### The listening socket and the idle check -/

/-- Accepting a client only touches the link. -/
theorem netOnListenReady_eq (s : NetSys) (accepted : Option Nat) :
    netOnListenReady s accepted = { s with link := (netOnListenReady s accepted).link } := by
  unfold netOnListenReady netAdoptClient
  cases accepted with
  | none => rfl
  | some fd =>
      simp only
      split <;> split <;> rfl

/-- The idle check only touches the link. -/
theorem netCheckInactivity_eq (s : NetSys) :
    netCheckInactivity s = { s with link := (netCheckInactivity s).link } := by
  unfold netCheckInactivity
  split
  next => rfl
  next => split <;> rfl

/-- The idle check does nothing or drops the client. -/
theorem netCheckInactivity_cases (s : NetSys) :
    netCheckInactivity s = s ∨ netCheckInactivity s = s.dropClient := by
  unfold netCheckInactivity
  split
  next => exact .inl rfl
  next =>
    split
    next => exact .inr rfl
    next => exact .inl rfl

/-- A callback that only touches the link leaves the rest of the daemon. -/
theorem Daemon.onNet_link {change : NetSys → NetSys}
    (touches : ∀ s, change s = { s with link := (change s).link }) (daemon : Daemon) :
    ∃ link, daemon.onNet change =
      { daemon with sys := { daemon.sys with link := link } } := by
  unfold Daemon.onNet
  split
  next =>
    rw [touches]
    exact ⟨_, rfl⟩
  next => exact ⟨daemon.sys.link, rfl⟩

/-! ### Requests to try a run with -/

/-- The frame of a request to an address. -/
def requestTo (destAddr : Blob idtiAddrDestLen) (command subCommand object : UInt8)
    (data : Bytes) : Bytes :=
  (idtiBuildPacket netRespBufCap
    { destAddr := destAddr
      srcAddr := Blob.zeros _
      frameOption := 0
      frameIndex := 0
      password := 0
      command := command
      subCommand := subCommand
      object := object
      startItem := 0
      endItem := 0
      dataCurrent := 0
      dataEnd := 0
      dataTotal := 0
      dataOneLen := 0
      data := data }).getD []

/-- The frame of a request to the device itself. -/
def plainRequest (command subCommand object : UInt8) (data : Bytes) : Bytes :=
  requestTo (Blob.zeros _) command subCommand object data

/-- The event of a client that connects and of one that sends. -/
def Input.connect (fd : Nat) : Input :=
  .listenReady (some fd)

def Input.receive (bytes : Bytes) : Input :=
  .clientReady LoopInterest.readOnly (.data bytes)

/-- A reload that finds the first configuration and nothing changed but the port. -/
def Input.movePort (listenFd : Nat) : Input :=
  .reload
    { cfg := (StartUp.first fun _ => .again).cfg
      db := none
      port := some (some listenFd) }

/-! ### Reading cards -/

/-- The two states differ at most in the reported door status, the stored events
and the door openings. -/
structure SameControls (before after : Daemon) : Prop where
  netUp : after.netUp = before.netUp
  link : after.sys.link = before.sys.link
  settings : after.sys.settings = before.sys.settings
  net : ∃ doorStatus, after.sys.net = { before.sys.net with doorStatus := doorStatus }
  panel : ∃ doorOpenings, after.sys.panel =
    { before.sys.panel with
      hal := { before.sys.panel.hal with doorOpenings := doorOpenings } }

namespace SameControls

theorem refl (daemon : Daemon) : SameControls daemon daemon :=
  { netUp := rfl
    link := rfl
    settings := rfl
    net := ⟨_, rfl⟩
    panel := ⟨_, rfl⟩ }

theorem trans {first second third : Daemon} (one : SameControls first second)
    (two : SameControls second third) : SameControls first third := by
  obtain ⟨doorStatus, net⟩ := one.net
  obtain ⟨later, netLater⟩ := two.net
  obtain ⟨doorOpenings, panel⟩ := one.panel
  obtain ⟨openingsLater, panelLater⟩ := two.panel
  constructor
  · exact two.netUp.trans one.netUp
  · exact two.link.trans one.link
  · exact two.settings.trans one.settings
  · exact ⟨later, by rw [netLater, net]⟩
  · exact ⟨openingsLater, by rw [panelLater, panel]⟩

theorem event (daemon : Daemon) (eventCode : UInt32) (opMode : UInt8)
    (accessId : Option (Blob 8)) (doorStatus : UInt8) (moduleAddr readerAddr : Nat) :
    SameControls daemon
      (daemon.onNet fun s =>
        netStoreEvent s eventCode opMode accessId doorStatus moduleAddr readerAddr) := by
  unfold Daemon.onNet
  split
  next =>
    simp only
    rw [netStoreEvent_eq]
    exact ⟨rfl, rfl, rfl, ⟨_, rfl⟩, ⟨_, rfl⟩⟩
  next => exact refl daemon

theorem noted (daemon : Daemon) (doorStatus : UInt8) :
    SameControls daemon
      (daemon.onNet fun s => { s with net := { s.net with doorStatus := doorStatus } }) := by
  unfold Daemon.onNet
  split
  next => exact ⟨rfl, rfl, rfl, ⟨_, rfl⟩, ⟨_, rfl⟩⟩
  next => exact refl daemon

theorem opened (daemon : Daemon) (seconds : Nat) :
    SameControls daemon
      { daemon with
        sys :=
          { daemon.sys with
            panel :=
              { daemon.sys.panel with hal := halOpenDoor daemon.sys.panel.hal seconds } } } :=
  ⟨rfl, rfl, rfl, ⟨_, rfl⟩, ⟨_, rfl⟩⟩

/-- A fold whose every round stays within the frame does. -/
theorem foldl {α : Type} {round : Daemon → α → Daemon}
    (same : ∀ daemon item, SameControls daemon (round daemon item))
    (items : List α) (daemon : Daemon) : SameControls daemon (items.foldl round daemon) := by
  induction items generalizing daemon with
  | nil => exact refl daemon
  | cons item rest inductionHypothesis =>
      exact (same daemon item).trans (inductionHypothesis _)

end SameControls

theorem netPushEvent_frame (daemon : Daemon) (result : AccessResult) (accessId : Blob 8)
    (doorStatus : UInt8) (moduleAddr readerAddr : Nat) :
    SameControls daemon
      (daemon.onNet fun s =>
        netPushEvent s result accessId doorStatus moduleAddr readerAddr) := by
  unfold netPushEvent
  split
  next =>
    unfold Daemon.onNet
    split <;> exact SameControls.refl daemon
  next => exact SameControls.event daemon _ _ _ _ _ _

theorem judgeCard_frame (doorStatus : UInt8) (daemon : Daemon) (card : CardTag) :
    SameControls daemon (judgeCard doorStatus daemon card) := by
  unfold judgeCard
  simp only
  have reported := netPushEvent_frame daemon
    (accessJudge daemon.sys.link.store.users daemon.sys.settings card.reads
      daemon.sys.clock card.cardId).1
  split
  next => exact (reported _ doorStatus _ _).trans (SameControls.opened _ _)
  next => exact reported _ _ _ _

theorem applyAlarmOutput_eq (db : SettingsDb) (panel : Panel) (position : Nat × Nat) :
    ∃ outputs, applyAlarmOutput db panel position =
      { panel with hal := { panel.hal with outputs := outputs } } := by
  unfold applyAlarmOutput
  split
  next => exact ⟨panel.hal.outputs, rfl⟩
  next => exact ⟨_, rfl⟩

/-- A recomputation of the relays changes nothing but the outputs. -/
theorem applyAlarmOutputs_eq (db : SettingsDb) (panel : Panel) :
    ∃ outputs, applyAlarmOutputs db panel =
      { panel with hal := { panel.hal with outputs := outputs } } := by
  unfold applyAlarmOutputs
  induction outputPositions panel.moduleCount generalizing panel with
  | nil => exact ⟨panel.hal.outputs, rfl⟩
  | cons position rest inductionHypothesis =>
      obtain ⟨outputs, driven⟩ := applyAlarmOutput_eq db panel position
      rw [List.foldl_cons, driven]
      exact inductionHypothesis _

/-- The panel after the alarm input was read. -/
def latchAlarm (db : SettingsDb) (panel : Panel) (alarm : Bool) : Panel :=
  if alarm = panel.alarmActive then panel
  else applyAlarmOutputs db { panel with alarmActive := alarm }

/-- The panel after the fire input was read. -/
def latchFire (db : SettingsDb) (panel : Panel) (fire : Bool) : Panel :=
  if fire = panel.fireActive then panel
  else applyAlarmOutputs db { panel with fireActive := fire }

theorem latchAlarm_eq (db : SettingsDb) (panel : Panel) (alarm : Bool) :
    ∃ outputs, latchAlarm db panel alarm =
      { panel with
        hal := { panel.hal with outputs := outputs }
        alarmActive := alarm } := by
  unfold latchAlarm
  split
  next same => exact ⟨panel.hal.outputs, by rw [same]⟩
  next => exact applyAlarmOutputs_eq db _

theorem latchFire_eq (db : SettingsDb) (panel : Panel) (fire : Bool) :
    ∃ outputs, latchFire db panel fire =
      { panel with
        hal := { panel.hal with outputs := outputs }
        fireActive := fire } := by
  unfold latchFire
  split
  next same => exact ⟨panel.hal.outputs, by rw [same]⟩
  next => exact applyAlarmOutputs_eq db _

/-- A changed alarm input is latched, stored as an event and passed to the relays. -/
theorem checkAlarm_eq (daemon : Daemon) (alarm : Bool) :
    ∃ events, checkAlarm daemon alarm =
      { daemon with
        sys :=
          { daemon.sys with
            events := events
            panel := latchAlarm daemon.sys.settings daemon.sys.panel alarm } } := by
  unfold checkAlarm latchAlarm
  split
  next same => exact ⟨daemon.sys.events, rfl⟩
  next changed =>
    unfold Daemon.onNet netPushSystemEvent
    simp only
    split
    next =>
      rw [netStoreEvent_eq]
      exact ⟨_, rfl⟩
    next => exact ⟨_, rfl⟩

/-- The fire input is treated the same way. -/
theorem checkFire_eq (daemon : Daemon) (fire : Bool) :
    ∃ events, checkFire daemon fire =
      { daemon with
        sys :=
          { daemon.sys with
            events := events
            panel := latchFire daemon.sys.settings daemon.sys.panel fire } } := by
  unfold checkFire latchFire
  split
  next same => exact ⟨daemon.sys.events, rfl⟩
  next changed =>
    unfold Daemon.onNet netPushSystemEvent
    simp only
    split
    next =>
      rw [netStoreEvent_eq]
      exact ⟨_, rfl⟩
    next => exact ⟨_, rfl⟩

/-- The two inputs are read one after the other. -/
theorem checkAlarmFire_eq (daemon : Daemon) (sensors : Sensors) :
    ∃ events, checkAlarmFire daemon sensors =
      { daemon with
        sys :=
          { daemon.sys with
            events := events
            panel :=
              latchFire daemon.sys.settings
                (latchAlarm daemon.sys.settings daemon.sys.panel sensors.alarm)
                sensors.fire } } := by
  obtain ⟨_, alarm⟩ := checkAlarm_eq daemon sensors.alarm
  obtain ⟨events, fire⟩ := checkFire_eq (checkAlarm daemon sensors.alarm) sensors.fire
  refine ⟨events, ?_⟩
  rw [checkAlarmFire, fire, alarm]

/-- Apart from the alarm and fire inputs, reading cards stays within the frame. -/
theorem onCardReadable_frame (daemon : Daemon) (sensors : Sensors) (down : List Nat)
    (cards : List CardTag) :
    ∃ noted, SameControls daemon noted ∧
      SameControls (checkAlarmFire noted sensors)
        (onCardReadable daemon sensors down cards) := by
  unfold onCardReadable
  refine ⟨_, ?_, (SameControls.foldl (fun daemon rru => ?_) down _).trans
    (SameControls.foldl (fun daemon card => judgeCard_frame _ daemon card) cards _)⟩
  · exact SameControls.noted daemon _
  · exact SameControls.event daemon _ _ _ _ _ _

/-- Reading cards does not touch the connection. -/
theorem onCardReadable_link (daemon : Daemon) (sensors : Sensors) (down : List Nat)
    (cards : List CardTag) :
    (onCardReadable daemon sensors down cards).sys.link = daemon.sys.link := by
  obtain ⟨noted, before, after⟩ := onCardReadable_frame daemon sensors down cards
  obtain ⟨_, read⟩ := checkAlarmFire_eq noted sensors
  rw [after.link, read]
  exact before.link

theorem onCardReadable_netUp (daemon : Daemon) (sensors : Sensors) (down : List Nat)
    (cards : List CardTag) :
    (onCardReadable daemon sensors down cards).netUp = daemon.netUp := by
  obtain ⟨noted, before, after⟩ := onCardReadable_frame daemon sensors down cards
  obtain ⟨_, read⟩ := checkAlarmFire_eq noted sensors
  rw [after.netUp, read]
  exact before.netUp

/-! ### Reloading the configuration -/

/-- The reload makes a new network unit: `tcp_port` changed and could be opened. -/
def Input.renewsNet : Input → Bool
  | .reload found => found.port.join.isSome
  | _ => false

/-- An event after which the connection, if there is one, is another one. -/
def Daemon.replacesClient (daemon : Daemon) : Input → Bool
  | .listenReady (some _) => daemon.netUp
  | .reload found => found.port.join.isSome
  | _ => false

/-- Switching the database touches the settings only. -/
theorem reloadDb_eq (daemon : Daemon) (db : Option (Option SettingsDb)) :
    ∃ settingsAttached, reloadDb daemon db =
      { daemon with
        sys :=
          { daemon.sys with
            settings := (reloadDb daemon db).sys.settings
            net := { daemon.sys.net with settingsAttached := settingsAttached } } } := by
  unfold reloadDb Daemon.onNet
  split
  next =>
    split
    next => exact ⟨true, rfl⟩
    next => exact ⟨daemon.sys.net.settingsAttached, rfl⟩
  next => exact ⟨daemon.sys.net.settingsAttached, rfl⟩

/-- A change of `tcp_port` touches the network unit only. -/
theorem reloadPort_eq (daemon : Daemon) (cfg : AcuConfig) (port : Option (Option Nat)) :
    reloadPort daemon cfg port =
      { sys :=
          { daemon.sys with
            link := (reloadPort daemon cfg port).sys.link
            net := if port.join.isSome then freshNet cfg else daemon.sys.net }
        netUp := daemon.netUp || port.join.isSome } := by
  unfold reloadPort
  rcases port with _ | _ | listenFd
  · simp
  · simp
  · simp

/-- What a reload leaves: the settings of the database that is open now, the two fields
of the runtime, and a network unit with its setters called. -/
theorem reloadConfig_eq (daemon : Daemon) (reload : Reload) :
    ∃ settingsAttached, reloadConfig daemon reload =
      { sys :=
          { daemon.sys with
            link := (reloadPort daemon reload.cfg reload.port).sys.link
            settings := (reloadDb daemon reload.db).sys.settings
            panel :=
              { daemon.sys.panel with
                moduleCount := reload.cfg.layout.moduleCount
                doorOpenSeconds := reload.cfg.doorOpenSeconds }
            net :=
              if reload.port.join.isSome then applyNetConfig (freshNet reload.cfg) reload.cfg
              else if daemon.netUp then
                applyNetConfig { daemon.sys.net with settingsAttached := settingsAttached }
                  reload.cfg
              else { daemon.sys.net with settingsAttached := settingsAttached } }
        netUp := daemon.netUp || reload.port.join.isSome } := by
  obtain ⟨settingsAttached, switched⟩ := reloadDb_eq daemon reload.db
  refine ⟨settingsAttached, ?_⟩
  have link : (reloadPort (reloadDb daemon reload.db) reload.cfg reload.port).sys.link =
      (reloadPort daemon reload.cfg reload.port).sys.link := by
    rw [switched]
    unfold reloadPort
    rcases reload.port with _ | _ | listenFd <;> rfl
  unfold reloadConfig
  simp only
  rw [reloadPort_eq, link, switched]
  cases renewed : reload.port.join.isSome with
  | true => simp [Daemon.onNet]
  | false => cases daemon.netUp <;> simp [Daemon.onNet]

/-- A reload that does not move the port keeps the connection. -/
theorem reloadPort_link {port : Option (Option Nat)} (same : port.join = none) (daemon : Daemon)
    (cfg : AcuConfig) : (reloadPort daemon cfg port).sys.link = daemon.sys.link := by
  unfold reloadPort
  rcases port with _ | _ | listenFd
  · rfl
  · rfl
  · cases same

end Acud
