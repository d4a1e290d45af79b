/-
Module: Acud.Proofs.ForcedOpen
Purpose: The answered forced-open state agrees with what the hardware was told.
Trusted boundary: none
Main exports:
  ForceOpenAgrees, ForceOpenServed, ReloadKeepsForceOpen, forceOpenServed_iff
-/
import Acud.Proofs.DaemonSteps

namespace Acud

open Lib

/-!
The network unit remembers the forced-open state and tells the hardware only
about changes.  A changed `tcp_port` makes a new network unit, which starts with
the door closed, while the hardware keeps what it was told.  This is the one
event that can part the two; every other one keeps `ForceOpenAgrees`.

[SRC src/acud/net.c, src/acud/main.c]
-/

/-- The network unit and the hardware agree, and the callback is attached. -/
structure ForceOpenAgrees (s : NetSys) : Prop where
  value : s.net.forceOpen = s.panel.hal.forceOpen
  attached : s.net.onForceOpen = true

/-- A query for the forced-open state. -/
def IdtiHeader.IsForceOpenQuery (hdr : IdtiHeader) : Prop :=
  hdr.object = idtiObjForceOpen ∧ hdr.isRequest idtiCmdReqData idtiSubcmdRead = true

/-- A command that sets the forced-open state. -/
def IdtiHeader.IsForceOpenSet (hdr : IdtiHeader) : Prop :=
  hdr.object = idtiObjForceOpen ∧ hdr.isRequest idtiCmdSndStatus idtiSubcmdChange = true

/-- What the upper system relies on: a query is answered with what the hardware
was told last, and after a set command the hardware has been told what the
command asks for. -/
structure ForceOpenServed (s : NetSys) : Prop where
  query : ∀ hdr pkt, hdr.IsForceOpenQuery →
    handleRequest s hdr pkt =
      sendData (requestTimeSync s hdr pkt) hdr
        [if s.panel.hal.forceOpen then idtiForceOpenOn else 0x00] 1
  set : ∀ hdr pkt, hdr.IsForceOpenSet →
    (handleRequest s hdr pkt).panel.hal.forceOpen = forceOpenRequested hdr pkt

/-- A reload that makes a new network unit comes only while the door is not
forced open. -/
def ReloadKeepsForceOpen (daemon : Daemon) (input : Input) : Prop :=
  input.renewsNet = true → daemon.sys.panel.hal.forceOpen = false

/-! ### Requests -/

/-- Object 206 belongs to the forced-open handler alone. -/
theorem handleRequest_forceOpen {s handled : NetSys} {hdr : IdtiHeader} {pkt : Memory}
    (object : hdr.object = idtiObjForceOpen)
    (claimed : handleForceOpenRequest (requestTimeSync s hdr pkt) hdr pkt = some handled) :
    handleRequest s hdr pkt = handled := by
  have history : hdr.object ≠ idtiObjHistory := by rw [object]; decide
  have firmware : hdr.object ≠ idtiObjFirmware := by rw [object]; decide
  have start : hdr.object ≠ idtiObjUserbinStart := by rw [object]; decide
  have more : hdr.object ≠ idtiObjUserbinContinue := by rw [object]; decide
  have user : usercmdIsUserObject hdr.object = false := by rw [object]; decide
  have userbin : handleUserbinRequest (requestTimeSync s hdr pkt) hdr pkt = none := by
    simp [handleUserbinRequest, start, more]
  have usercmd : handleUsercmdRequest (requestTimeSync s hdr pkt) hdr pkt = none := by
    simp [handleUsercmdRequest, user]
  have claim : claimRequest (requestTimeSync s hdr pkt) hdr pkt = some handled := by
    simp [claimRequest, userbin, usercmd, claimed]
  simp [handleRequest, history, firmware, claim]

theorem sendResponse_panel (s : NetSys) (hdr : IdtiHeader)
    (command subCommand object : UInt8) (data : Bytes) (block : BlockIndex) :
    (sendResponse s hdr command subCommand object data block).2.panel = s.panel := by
  rw [sendResponse_eq]

/-- After a change the two agree, and the hardware has been told the value. -/
theorem netApplyForceOpen_agrees {s : NetSys} (agrees : ForceOpenAgrees s) (on : Bool) :
    ForceOpenAgrees (netApplyForceOpen s on) ∧
      (netApplyForceOpen s on).panel.hal.forceOpen = on := by
  have told : (netApplyForceOpen s on).panel.hal.forceOpen = on := by
    rw [netApplyForceOpen_eq]
    simp only [agrees.attached, and_true]
    split
    next => rfl
    next same => rw [← agrees.value, not_not.mp same]
  refine ⟨?_, told⟩
  constructor
  · rw [told, netApplyForceOpen_eq]
  · rw [netApplyForceOpen_eq]
    exact agrees.attached

/-! ### Everything else -/

/-- The relays of the outputs are not the forced-open relay. -/
theorem applyAlarmOutputs_forceOpen (db : SettingsDb) (panel : Panel) :
    (applyAlarmOutputs db panel).hal.forceOpen = panel.hal.forceOpen := by
  obtain ⟨_, driven⟩ := applyAlarmOutputs_eq db panel
  rw [driven]

/-- A setting write changes neither side of the forced-open state. -/
theorem handleSettingWrite_forceOpen {s written : NetSys} {hdr : IdtiHeader} {pkt : Memory}
    (handled : handleSettingWrite s hdr pkt = some written) :
    written.net = s.net ∧ written.panel.hal.forceOpen = s.panel.hal.forceOpen := by
  obtain ⟨_, _, stored, _, _, _, net, _, panel⟩ := handleSettingWrite_cases handled
  refine ⟨net, ?_⟩
  rw [panel]
  unfold onSettingChanged
  split
  next =>
    split
    next => exact applyAlarmOutputs_forceOpen _ _
    next => rfl
  next => rfl

theorem RequestEffect.forceOpenAgrees {hdr : IdtiHeader} {pkt : Memory}
    {before after : NetSys} (effect : RequestEffect hdr pkt before after)
    (agrees : ForceOpenAgrees before) : ForceOpenAgrees after := by
  induction effect with
  | linked effect => exact ⟨agrees.value, agrees.attached⟩
  | events s events => exact ⟨agrees.value, agrees.attached⟩
  | batch s first => exact ⟨agrees.value, agrees.attached⟩
  | clock s clock => exact ⟨agrees.value, agrees.attached⟩
  | forceOpen s on => exact (netApplyForceOpen_agrees agrees on).1
  | settingWritten handled =>
      obtain ⟨net, told⟩ := handleSettingWrite_forceOpen handled
      constructor
      · rw [net, told]
        exact agrees.value
      · rw [net]
        exact agrees.attached
  | trans _ _ one two => exact two (one agrees)

theorem handleRequest_agrees {s : NetSys} (hdr : IdtiHeader) (pkt : Memory)
    (agrees : ForceOpenAgrees s) : ForceOpenAgrees (handleRequest s hdr pkt) :=
  (handleRequest_effect s hdr pkt).forceOpenAgrees agrees

/-- Agreement does not depend on the connection. -/
theorem ForceOpenAgrees.withLink {s : NetSys} (agrees : ForceOpenAgrees s) (link : Link) :
    ForceOpenAgrees { s with link := link } :=
  ⟨agrees.value, agrees.attached⟩

/-- What both sides promise in a state in which they agree. -/
theorem ForceOpenAgrees.served {s : NetSys} (agrees : ForceOpenAgrees s) :
    ForceOpenServed s := by
  constructor
  · rintro hdr pkt ⟨object, query⟩
    apply handleRequest_forceOpen object
    have change : hdr.isRequest idtiCmdSndStatus idtiSubcmdChange = false := by
      simp only [IdtiHeader.isRequest, Bool.and_eq_true, beq_iff_eq] at query
      simp only [IdtiHeader.isRequest, query.1]
      rfl
    rw [requestTimeSync_eq]
    simp [handleForceOpenRequest, object, change, query, forceOpenValue, agrees.value]
  · rintro hdr pkt ⟨object, change⟩
    have synced : ForceOpenAgrees (requestTimeSync s hdr pkt) := by
      rw [requestTimeSync_eq]
      exact ⟨agrees.value, agrees.attached⟩
    have claimed : handleForceOpenRequest (requestTimeSync s hdr pkt) hdr pkt =
        some (sendAck (netApplyForceOpen (requestTimeSync s hdr pkt)
          (forceOpenRequested hdr pkt)) hdr idtiAckSuccess) := by
      simp [handleForceOpenRequest, object, change]
    rw [handleRequest_forceOpen object claimed]
    unfold sendAck sendBack
    rw [sendResponse_panel]
    exact (netApplyForceOpen_agrees synced _).2

/-! ### Events of the main loop -/

theorem SameControls.forceOpenAgrees {before after : Daemon}
    (same : SameControls before after) (agrees : ForceOpenAgrees before.sys) :
    ForceOpenAgrees after.sys := by
  obtain ⟨_, net⟩ := same.net
  obtain ⟨_, panel⟩ := same.panel
  constructor
  · rw [net, panel]
    exact agrees.value
  · rw [net]
    exact agrees.attached

theorem checkAlarmFire_agrees {daemon : Daemon} (agrees : ForceOpenAgrees daemon.sys)
    (sensors : Sensors) : ForceOpenAgrees (checkAlarmFire daemon sensors).sys := by
  obtain ⟨_, read⟩ := checkAlarmFire_eq daemon sensors
  obtain ⟨_, alarm⟩ := latchAlarm_eq daemon.sys.settings daemon.sys.panel sensors.alarm
  obtain ⟨_, fire⟩ := latchFire_eq daemon.sys.settings
    (latchAlarm daemon.sys.settings daemon.sys.panel sensors.alarm) sensors.fire
  rw [read, fire, alarm]
  exact ⟨agrees.value, agrees.attached⟩

/-- A reload keeps what the hardware was told; a new unit starts with the door closed,
an old one keeps its state. -/
theorem reloadConfig_forceOpen (daemon : Daemon) (reload : Reload) :
    (reloadConfig daemon reload).sys.panel.hal.forceOpen = daemon.sys.panel.hal.forceOpen ∧
      (reloadConfig daemon reload).sys.net.forceOpen =
        (!(Input.reload reload).renewsNet && daemon.sys.net.forceOpen) ∧
      (reloadConfig daemon reload).sys.net.onForceOpen =
        ((Input.reload reload).renewsNet || daemon.sys.net.onForceOpen) := by
  obtain ⟨_, reloaded⟩ := reloadConfig_eq daemon reload
  rw [reloaded, Input.renewsNet]
  refine ⟨rfl, ?_, ?_⟩
  all_goals
    cases reload.port.join with
    | some listenFd => rfl
    | none => cases daemon.netUp <;> rfl

/-- Every event but a reload keeps the agreement. -/
theorem step_agrees {daemon next : Daemon} {input : Input}
    (agrees : ForceOpenAgrees daemon.sys) (keeps : ReloadKeepsForceOpen daemon input)
    (stepped : daemon.step input = some next) : ForceOpenAgrees next.sys := by
  cases input with
  | clientReady ready answer =>
      simp only [Daemon.step] at stepped
      split at stepped
      next =>
        obtain ⟨later, returned, rfl⟩ := Option.map_eq_some_iff.mp stepped
        apply netOnClientReady_keeps (fun s link kept _ => kept.withLink link) _ agrees returned
        intro _ _ head hdr _ _ kept
        exact handleRequest_agrees hdr head.pkt kept
      next =>
        cases stepped
        exact agrees
  | listenReady accepted =>
      cases stepped
      obtain ⟨link, changed⟩ :=
        daemon.onNet_link fun s => netOnListenReady_eq s accepted
      rw [changed]
      exact agrees.withLink link
  | cardReadable sensors down cards =>
      cases stepped
      obtain ⟨noted, before, after⟩ := onCardReadable_frame daemon sensors down cards
      exact after.forceOpenAgrees (checkAlarmFire_agrees (before.forceOpenAgrees agrees) sensors)
  | housekeeping =>
      cases stepped
      obtain ⟨link, changed⟩ := daemon.onNet_link netCheckInactivity_eq
      rw [changed]
      exact agrees.withLink link
  | reload reload =>
      cases stepped
      obtain ⟨told, value, attached⟩ := reloadConfig_forceOpen daemon reload
      constructor
      · rw [told, value]
        cases renews : (Input.reload reload).renewsNet with
        | true => exact (keeps renews).symm
        | false => exact agrees.value
      · rw [attached, agrees.attached, Bool.or_true]
  | clock now monotonic =>
      cases stepped
      exact ⟨agrees.value, agrees.attached⟩

/-- The daemon starts with the door closed on both sides. -/
theorem mainStart_agrees {start : StartUp} {daemon : Daemon}
    (started : mainStart start = some daemon) : ForceOpenAgrees daemon.sys := by
  unfold mainStart at started
  split at started
  next => cases started
  next =>
    cases started
    exact ⟨rfl, rfl⟩

/-! ### The promise over runs -/

/-- A restore command without data. -/
def restoreRequest : IdtiHeader :=
  { packetLength := 46
    protocolVersion := idtiProtocolVersionV2
    frameOption := 0
    destAddr := Blob.zeros _
    srcAddr := Blob.zeros _
    frameIndex := 0
    password := 0
    command := idtiCmdSndStatus
    subCommand := idtiSubcmdChange
    object := idtiObjForceOpen
    startItem := 0
    endItem := 0
    dataBlockCurrent := 0
    dataBlockEnd := 0
    dataBlockTotal := 0
    dataBlockOneLen := 0
    dataLen := 0 }

/-- A unit that believes the door closed does not release a door that is held open. -/
theorem ForceOpenServed.released {s : NetSys} (served : ForceOpenServed s)
    (closed : s.net.forceOpen = false) : s.panel.hal.forceOpen = false := by
  have released := served.set restoreRequest Memory.zeros ⟨rfl, rfl⟩
  have claimed : handleForceOpenRequest (requestTimeSync s restoreRequest Memory.zeros)
      restoreRequest Memory.zeros =
        some (sendAck s restoreRequest idtiAckSuccess) := by
    have same : netApplyForceOpen s false = s := by
      rw [netApplyForceOpen, if_pos closed]
    exact congrArg (fun s => some (sendAck s restoreRequest idtiAckSuccess)) same
  rw [handleRequest_forceOpen rfl claimed] at released
  unfold sendAck sendBack at released
  rw [sendResponse_panel] at released
  exact released

/-- In every run of the daemon, queries answer what the hardware was told last and set
commands reach it, in every state the daemon passes, exactly when no reload makes a new
network unit while the door is forced open. -/
theorem forceOpenServed_iff (start : StartUp) (daemon : Daemon)
    (started : mainStart start = some daemon) (inputs : List Input) :
    Always Daemon.step (fun daemon => ∀ s, daemon.Passes s → ForceOpenServed s)
        daemon inputs ↔
      Guarded Daemon.step ReloadKeepsForceOpen daemon inputs := by
  have keeps : ∀ daemon input next, ForceOpenAgrees daemon.sys →
      ReloadKeepsForceOpen daemon input → daemon.step input = some next →
        ForceOpenAgrees next.sys :=
    fun _ _ _ agrees allowed stepped => step_agrees agrees allowed stepped
  apply always_iff_guarded _ keeps _ (mainStart_agrees started)
  · intro daemon agrees s passes
    apply ForceOpenAgrees.served
    exact passes.keeps (fun s link kept _ => kept.withLink link)
      (fun s hdr pkt kept => handleRequest_agrees hdr pkt kept) agrees
  · intro daemon input next agrees served stepped renews
    cases input with
    | reload reload =>
        cases stepped
        obtain ⟨told, value, _⟩ := reloadConfig_forceOpen daemon reload
        rw [← told]
        apply (served _ .rest).released
        rw [value, renews]
        rfl
    | _ => cases renews

theorem forceOpenServed_iff_first :
    ∃ daemon, mainStart (StartUp.first fun _ => .accepted 4096) = some daemon ∧
      (Always Daemon.step (fun daemon => ∀ s, daemon.Passes s → ForceOpenServed s)
          daemon [.connect 8, .movePort 9] ↔
        Guarded Daemon.step ReloadKeepsForceOpen daemon [.connect 8, .movePort 9]) := by
  have starts : (mainStart (StartUp.first fun _ => .accepted 4096)).isSome := by
    decide +kernel
  obtain ⟨daemon, started⟩ := Option.isSome_iff_exists.mp starts
  exact ⟨daemon, started, forceOpenServed_iff _ daemon started _⟩

/-- A client forces the door open, and then `tcp_port` changes. -/
def openThenMove : List Input :=
  [.connect 8,
   .receive (plainRequest idtiCmdSndStatus idtiSubcmdChange idtiObjForceOpen [idtiForceOpenOn]),
   .movePort 9]

/-- After the move the new unit answers that the door is closed, the hardware still
holds it open, and a restore command does not release it. -/
theorem moved_port_holds_door :
    ∃ daemon, mainStart (StartUp.first fun _ => .accepted 4096) = some daemon ∧
      ¬ Always Daemon.step (fun daemon => ∀ s, daemon.Passes s → ForceOpenServed s)
        daemon openThenMove := by
  have measured :
      ((mainStart (StartUp.first fun _ => .accepted 4096)).bind fun daemon =>
          run Daemon.step daemon openThenMove).map
        (fun daemon => (daemon.sys.net.forceOpen, daemon.sys.panel.hal.forceOpen)) =
      some (false, true) := by decide +kernel
  obtain ⟨final, reached, both⟩ := Option.map_eq_some_iff.mp measured
  obtain ⟨daemon, started, reached⟩ := Option.bind_eq_some_iff.mp reached
  refine ⟨daemon, started, fun always => ?_⟩
  obtain ⟨closed, held⟩ := Prod.mk.inj both
  have released := (always.final reached _ .rest).released closed
  rw [held] at released
  cases released

end Acud
