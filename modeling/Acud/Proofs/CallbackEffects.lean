/-
Module: Acud.Proofs.CallbackEffects
Purpose: Callbacks leave the parameters of the configuration alone.
Trusted boundary: none
Main exports:
  SameParameters, Daemon.step_parameters
-/
import Acud.MainLoop
import Acud.Proofs.DaemonSteps
import Acud.Proofs.RequestEffects

namespace Acud

open Lib

/-!
The program itself only waits, hands events on and reloads.  The parameters that the parts of
the daemon were given at the start are changed by a reload only, whatever a request, a card or
the timer does.

[SRC src/acud/main.c]
-/

/-- The parameters that the configuration sets are the same. -/
structure SameParameters (before after : NetSys) : Prop where
  net : ∃ doorStatus first forceOpen, after.net =
    { before.net with
      doorStatus := doorStatus
      lastBatchFirstSeq := first
      forceOpen := forceOpen }
  doorOpenSeconds : after.panel.doorOpenSeconds = before.panel.doorOpenSeconds
  moduleCount : after.panel.moduleCount = before.panel.moduleCount

namespace SameParameters

theorem of_eq {before after : NetSys} (net : after.net = before.net)
    (panel : after.panel = before.panel) : SameParameters before after :=
  { net := ⟨before.net.doorStatus, before.net.lastBatchFirstSeq, before.net.forceOpen, net⟩
    doorOpenSeconds := congrArg Panel.doorOpenSeconds panel
    moduleCount := congrArg Panel.moduleCount panel }

theorem trans {first second third : NetSys} (one : SameParameters first second)
    (two : SameParameters second third) : SameParameters first third := by
  obtain ⟨_, _, _, oneNet⟩ := one.net
  obtain ⟨doorStatus, batch, forceOpen, twoNet⟩ := two.net
  refine ⟨⟨doorStatus, batch, forceOpen, ?_⟩, ?_, ?_⟩
  · rw [twoNet, oneNet]
  · exact two.doorOpenSeconds.trans one.doorOpenSeconds
  · exact two.moduleCount.trans one.moduleCount

end SameParameters

theorem onSettingChanged_parameters (settings : SettingsDb) (panel : Panel) (object : UInt8) :
    ∃ hal, onSettingChanged settings panel object = { panel with hal := hal } := by
  unfold onSettingChanged
  split
  next =>
    obtain ⟨outputs, changed⟩ := applyAlarmOutputs_eq settings panel
    exact ⟨_, changed⟩
  next => exact ⟨panel.hal, rfl⟩

theorem RequestEffect.parameters {hdr : IdtiHeader} {pkt : Memory} {before after : NetSys}
    (effect : RequestEffect hdr pkt before after) : SameParameters before after := by
  induction effect with
  | linked => exact .of_eq rfl rfl
  | events s events => exact .of_eq rfl rfl
  | batch s first =>
      exact ⟨⟨s.net.doorStatus, first, s.net.forceOpen, rfl⟩, rfl, rfl⟩
  | clock s clock => exact .of_eq rfl rfl
  | forceOpen s on =>
      rw [netApplyForceOpen_eq]
      refine ⟨⟨s.net.doorStatus, s.net.lastBatchFirstSeq, on, rfl⟩, ?_, ?_⟩
      · show (if _ then onForceOpenChanged s.panel on else s.panel).doorOpenSeconds = _
        split <;> rfl
      · show (if _ then onForceOpenChanged s.panel on else s.panel).moduleCount = _
        split <;> rfl
  | settingWritten handled =>
      obtain ⟨_, key, stored, _, _, _, net, _, panel⟩ := handleSettingWrite_cases handled
      obtain ⟨hal, changed⟩ := onSettingChanged_parameters stored.settings _ hdr.object
      refine ⟨⟨_, _, _, net⟩, ?_, ?_⟩
      · rw [panel, changed]
        split <;> rfl
      · rw [panel, changed]
        split <;> rfl
  | trans _ _ one two => exact one.trans two

theorem onCardReadable_parameters (daemon : Daemon) (sensors : Sensors) (down : List Nat)
    (cards : List CardTag) :
    SameParameters daemon.sys (onCardReadable daemon sensors down cards).sys := by
  have same : ∀ {before after : Daemon}, SameControls before after →
      SameParameters before.sys after.sys := by
    intro before after controls
    obtain ⟨doorStatus, net⟩ := controls.net
    obtain ⟨openings, panel⟩ := controls.panel
    refine ⟨⟨doorStatus, before.sys.net.lastBatchFirstSeq, before.sys.net.forceOpen, net⟩, ?_, ?_⟩
    · rw [panel]
    · rw [panel]
  obtain ⟨noted, before, after⟩ := onCardReadable_frame daemon sensors down cards
  refine ((same before).trans ?_).trans (same after)
  obtain ⟨events, read⟩ := checkAlarmFire_eq noted sensors
  obtain ⟨_, alarm⟩ := latchAlarm_eq noted.sys.settings noted.sys.panel sensors.alarm
  obtain ⟨_, fire⟩ := latchFire_eq noted.sys.settings
    (latchAlarm noted.sys.settings noted.sys.panel sensors.alarm) sensors.fire
  rw [read]
  refine ⟨⟨_, _, _, rfl⟩, ?_, ?_⟩
  · show (latchFire _ _ _).doorOpenSeconds = _
    rw [fire, alarm]
  · show (latchFire _ _ _).moduleCount = _
    rw [fire, alarm]

/-- The input is not a reload. -/
def Input.isCallback : Input → Bool
  | .reload _ => false
  | _ => true

/-- No callback changes a parameter, or whether there is a network unit. -/
theorem Daemon.step_parameters {daemon next : Daemon} {input : Input}
    (callback : input.isCallback = true) (stepped : daemon.step input = some next) :
    next.netUp = daemon.netUp ∧ SameParameters daemon.sys next.sys := by
  cases input with
  | clientReady ready answer =>
      simp only [Daemon.step] at stepped
      split at stepped
      next =>
        obtain ⟨s, returned, rfl⟩ := Option.map_eq_some_iff.mp stepped
        refine ⟨rfl, ?_⟩
        refine netOnClientReady_keeps ?_ ?_ (.of_eq rfl rfl) returned
        · intro before link holds _
          exact holds.trans (.of_eq rfl rfl)
        · intro _ _ head hdr _ _ holds
          exact holds.trans (handleRequest_effect _ _ _).parameters
      next =>
        cases stepped
        exact ⟨rfl, .of_eq rfl rfl⟩
  | listenReady accepted =>
      obtain ⟨link, same⟩ :=
        Daemon.onNet_link (fun s => netOnListenReady_eq s accepted) daemon
      rw [Daemon.step, same] at stepped
      cases stepped
      exact ⟨rfl, .of_eq rfl rfl⟩
  | cardReadable sensors down cards =>
      cases stepped
      exact ⟨onCardReadable_netUp daemon sensors down cards,
        onCardReadable_parameters daemon sensors down cards⟩
  | housekeeping =>
      obtain ⟨link, same⟩ := Daemon.onNet_link netCheckInactivity_eq daemon
      rw [Daemon.step, same] at stepped
      cases stepped
      exact ⟨rfl, .of_eq rfl rfl⟩
  | reload found => cases callback
  | clock now monotonic =>
      cases stepped
      exact ⟨rfl, .of_eq rfl rfl⟩

/-- The timer, when it has run out. -/
theorem MainLoop.step_expired (main : MainLoop) :
    main.step (.housekeeping true) =
      (main.callback .housekeeping).map fun next =>
        next.onDisc (.setConnected next.daemon.isConnected) := rfl

end Acud
