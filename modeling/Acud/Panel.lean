/-
Module: Acud.Panel
Purpose: What the daemon told the hardware, and the alarm relay rule.
Trusted boundary: none
Main exports:
  Hal, Panel, applyAlarmOutputs, onSettingChanged, onForceOpenChanged
-/
import Acud.Protocol
import Acud.Settings

namespace Acud

open Lib

/-!
The hardware layer only executes: the state that matters is what it was last
told.  `Hal` keeps exactly that, for the forced-open relay and for every output
that was ever driven.  `Panel` adds the latched inputs and the configuration
fields that `AcuRuntime` reads.

[SRC src/acud/hal.h, src/acud/main.c]
-/

/-- The last values passed to the hardware layer.  An output that was never
passed to `hal_set_output` is `none`; outputs are (module, slot number). -/
structure Hal where
  forceOpen : Bool
  outputs : Nat × Nat → Option Bool
  doorOpenings : List Nat

def Hal.initial : Hal :=
  { forceOpen := false
    outputs := fun _ => none
    doorOpenings := [] }

def halSetForceOpen (hal : Hal) (on : Bool) : Hal :=
  { hal with forceOpen := on }

def halSetOutput (hal : Hal) (module slot : Nat) (on : Bool) : Hal :=
  { hal with outputs := Function.update hal.outputs (module, slot) (some on) }

def halOpenDoor (hal : Hal) (seconds : Nat) : Hal :=
  { hal with doorOpenings := hal.doorOpenings ++ [seconds] }

/-- The hardware and what `AcuRuntime` keeps beside it. -/
structure Panel where
  hal : Hal
  alarmActive : Bool
  fireActive : Bool
  moduleCount : Nat
  doorOpenSeconds : Nat

/-- `on_force_open_changed`. -/
def onForceOpenChanged (panel : Panel) (on : Bool) : Panel :=
  { panel with hal := halSetForceOpen panel.hal on }

/-! ### The alarm relay rule -/

/-- The output slots of the 14-slot layout. -/
def outputSlots : List Nat := [8, 9, 10, 11]

def outputKey (module slot : Nat) : SettingKey :=
  { object := idtiObjOutput
    module := module
    slot := slot }

/-- The setting block `apply_alarm_outputs` reads for an output, if its active
type is Alarm. -/
def alarmSetting (db : SettingsDb) (module slot : Nat) : Option Memory :=
  match devsetGet db (outputKey module slot) idtiOutputSettingLen with
  | .found data =>
      let out := Memory.ofBytes data
      if out.byte idtiOutputOffActiveType = idtiOutputActiveTypeAlarm then some out
      else none
  | _ => none

/-- `alarm || (fire && by_fire)`. -/
def Panel.relayOn (panel : Panel) (out : Memory) : Bool :=
  let byFire := out.byte idtiOutputOffActiveOption &&& idtiOutputOptionByFire != 0
  panel.alarmActive || (panel.fireActive && byFire)

/-- One round of the loop: outputs that are not Alarm are left alone. -/
def applyAlarmOutput (db : SettingsDb) (panel : Panel) (position : Nat × Nat) : Panel :=
  match alarmSetting db position.1 position.2 with
  | none => panel
  | some out =>
      { panel with
        hal := halSetOutput panel.hal position.1 (position.2 + idtiSlotEventBase)
          (panel.relayOn out) }

/-- Modules from one to the configured count, and in each the output slots. -/
def outputPositions (moduleCount : Nat) : List (Nat × Nat) :=
  (List.range moduleCount).flatMap fun index =>
    outputSlots.map fun slot => (index + 1, slot)

def applyAlarmOutputs (db : SettingsDb) (panel : Panel) : Panel :=
  (outputPositions panel.moduleCount).foldl (applyAlarmOutput db) panel

/-- The callback for a stored setting. -/
def onSettingChanged (db : SettingsDb) (panel : Panel) (object : UInt8) : Panel :=
  if object = idtiObjOutput then applyAlarmOutputs db panel else panel

end Acud
