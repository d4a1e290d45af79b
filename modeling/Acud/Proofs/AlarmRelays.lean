/-
Module: Acud.Proofs.AlarmRelays
Purpose: When every output that was ever driven follows its stored setting.
Trusted boundary: none
Main exports:
  alarmBlock, relayRequired, RelaysRight, RelaysKept, relays_right
-/
import Acud.Proofs.DaemonSteps

namespace Acud

open Lib

/-!
`apply_alarm_outputs` drives the outputs whose setting is Alarm, in the modules
that are configured, and leaves every other output as it is.  An output that was
driven once and then leaves this set keeps its last state.

`RelaysRight` is what the rule promises for all driven outputs.  One
recomputation establishes it for the outputs it reaches
(`applyAlarmOutputs_output`), so a step keeps it when the outputs that are not
reached need no change; `RelaysKept` states this for each event.

[SRC src/acud/main.c]
-/

/-! ### The rule -/

/-- The stored setting of an output, if its active type is Alarm. -/
def alarmBlock (db : SettingsDb) (module slot : Nat) : Option Memory :=
  ((db.stored (outputKey module slot)).filter fun data =>
    decide (data.length = idtiOutputSettingLen) &&
      (Memory.ofBytes data).byte idtiOutputOffActiveType == idtiOutputActiveTypeAlarm).map
    Memory.ofBytes

/-- On if and only if the setting is Alarm and there is an alarm, or a fire that
the output follows. -/
def relayRequired (db : SettingsDb) (panel : Panel) (module slot : Nat) : Bool :=
  (alarmBlock db module slot).any panel.relayOn

/-- Every output that was ever driven is in the state the rule requires. -/
def RelaysRight (s : NetSys) : Prop :=
  ∀ module slot on, s.panel.hal.outputs (module, slot + idtiSlotEventBase) = some on →
    on = relayRequired s.settings s.panel module slot

/-- A recomputation reads the block that is stored. -/
theorem alarmSetting_eq {db : SettingsDb} (reads : db.faults.succeeds .select = true)
    (module slot : Nat) : alarmSetting db module slot = alarmBlock db module slot := by
  unfold alarmSetting alarmBlock devsetGet
  cases present : db.deviceSettings with
  | none => simp [SettingsDb.stored, present]
  | some table =>
      rw [reads]
      simp only [Option.isSome_some, Bool.and_self, if_true]
      cases db.stored (outputKey module slot) with
      | none => rfl
      | some data =>
          by_cases long : data.length = idtiOutputSettingLen
          · by_cases alarm : (Memory.ofBytes data).byte idtiOutputOffActiveType =
                idtiOutputActiveTypeAlarm
            · simp [long, alarm, Option.filter]
            · simp [long, alarm, Option.filter]
          · simp [long, Option.filter]

/-! ### One recomputation -/

theorem applyAlarmOutput_relayOn (db : SettingsDb) (panel : Panel) (position : Nat × Nat) :
    (applyAlarmOutput db panel position).relayOn = panel.relayOn := by
  unfold applyAlarmOutput
  split <;> rfl

/-- One round drives its own output, if its setting is Alarm. -/
theorem applyAlarmOutput_output (db : SettingsDb) (panel : Panel) (position : Nat × Nat)
    (module slot : Nat) :
    (applyAlarmOutput db panel position).hal.outputs (module, slot + idtiSlotEventBase) =
      if position = (module, slot) then
        ((alarmSetting db module slot).map panel.relayOn).or
          (panel.hal.outputs (module, slot + idtiSlotEventBase))
      else panel.hal.outputs (module, slot + idtiSlotEventBase) := by
  obtain ⟨drivenModule, drivenSlot⟩ := position
  unfold applyAlarmOutput
  by_cases same : (drivenModule, drivenSlot) = (module, slot)
  · rw [if_pos same]
    cases same
    cases alarmSetting db module slot with
    | none => rfl
    | some out => exact Function.update_self _ _ _
  · rw [if_neg same]
    cases alarmSetting db drivenModule drivenSlot with
    | none => rfl
    | some out =>
        apply Function.update_of_ne
        simp only [ne_eq, Prod.mk.injEq] at same ⊢
        rintro ⟨sameModule, sameSlot⟩
        exact same ⟨sameModule.symm, Nat.add_right_cancel sameSlot.symm⟩

/-- What a list of rounds leaves on an output. -/
theorem foldl_applyAlarmOutput (db : SettingsDb) (positions : List (Nat × Nat)) (panel : Panel)
    (module slot : Nat) :
    (positions.foldl (applyAlarmOutput db) panel).hal.outputs (module, slot + idtiSlotEventBase) =
      if (module, slot) ∈ positions then
        ((alarmSetting db module slot).map panel.relayOn).or
          (panel.hal.outputs (module, slot + idtiSlotEventBase))
      else panel.hal.outputs (module, slot + idtiSlotEventBase) := by
  induction positions generalizing panel with
  | nil => rfl
  | cons position rest inductionHypothesis =>
      rw [List.foldl_cons, inductionHypothesis, applyAlarmOutput_relayOn,
        applyAlarmOutput_output]
      by_cases here : position = (module, slot)
      · rw [if_pos here, if_pos (List.mem_cons.mpr (.inl here.symm))]
        cases alarmSetting db module slot <;> simp
      · rw [if_neg here]
        have elsewhere : (module, slot) ∈ position :: rest ↔ (module, slot) ∈ rest := by
          rw [List.mem_cons]
          exact or_iff_right fun same => here same.symm
        simp only [elsewhere]

/-- A recomputation drives the outputs of the configured modules whose setting is Alarm,
and leaves every other output as it is. -/
theorem applyAlarmOutputs_output {db : SettingsDb} {panel : Panel}
    (reads : db.faults.succeeds .select = true) (module slot : Nat) :
    (applyAlarmOutputs db panel).hal.outputs (module, slot + idtiSlotEventBase) =
      if (module, slot) ∈ outputPositions panel.moduleCount then
        ((alarmBlock db module slot).map panel.relayOn).or
          (panel.hal.outputs (module, slot + idtiSlotEventBase))
      else panel.hal.outputs (module, slot + idtiSlotEventBase) := by
  unfold applyAlarmOutputs
  rw [foldl_applyAlarmOutput, alarmSetting_eq reads]

theorem relayRequired_congr {db : SettingsDb} {panel other : Panel}
    (alarm : other.alarmActive = panel.alarmActive) (fire : other.fireActive = panel.fireActive)
    (module slot : Nat) :
    relayRequired db other module slot = relayRequired db panel module slot := by
  have same : other.relayOn = panel.relayOn := by
    funext out
    simp only [Panel.relayOn, alarm, fire]
  rw [relayRequired, relayRequired, same]

/-- After a recomputation a driven output is right if it was reached, or if it was right
for the current settings and inputs already. -/
theorem applyAlarmOutputs_right {db : SettingsDb} {panel : Panel}
    (reads : db.faults.succeeds .select = true) {module slot : Nat}
    (kept : ∀ on, panel.hal.outputs (module, slot + idtiSlotEventBase) = some on →
      (module, slot) ∈ outputPositions panel.moduleCount ∧ (alarmBlock db module slot).isSome ∨
        on = relayRequired db panel module slot)
    {on : Bool}
    (driven : (applyAlarmOutputs db panel).hal.outputs (module, slot + idtiSlotEventBase) =
      some on) : on = relayRequired db panel module slot := by
  rw [applyAlarmOutputs_output reads] at driven
  split at driven
  next reached =>
    cases block : alarmBlock db module slot with
    | some out =>
        rw [block] at driven
        cases driven
        rw [relayRequired, block]
        rfl
    | none =>
        rw [block] at driven
        rcases kept on driven with ⟨_, alarm⟩ | right
        · rw [block] at alarm
          cases alarm
        · exact right
  next outside =>
    rcases kept on driven with ⟨reached, _⟩ | right
    · exact absurd reached outside
    · exact right

/-! ### What each event must respect -/

/-- The place a request would store an output setting at, when nothing stands in the way:
it is long enough, addresses an output, and the database takes it. -/
def outputWriteKey (s : NetSys) (hdr : IdtiHeader) : Option SettingKey :=
  if hdr.object = idtiObjOutput ∧ hdr.isRequest idtiCmdSndData idtiSubcmdChange = true ∧
      idtiOutputSettingLen ≤ hdr.dataLen ∧ s.net.settingsAttached = true ∧
      s.settings.deviceSettings.isSome ∧ s.settings.faults.succeeds .insert = true then
    (findSettingSpec idtiObjOutput).bind (settingKey s.net hdr)
  else none

/-- An output that is on keeps an Alarm setting, and what was stored can be read back. -/
def WriteKeepsRelays (s : NetSys) (hdr : IdtiHeader) (pkt : Memory) : Prop :=
  ∀ key, outputWriteKey s hdr = some key →
    s.settings.faults.next.succeeds .select = true ∧
      (s.panel.hal.outputs (key.module, key.slot + idtiSlotEventBase) = some true →
        (packetData pkt).byte idtiOutputOffActiveType = idtiOutputActiveTypeAlarm)

/-- When an input changes, the settings can be read, and the driven outputs of modules
that are configured no more need no change. -/
def SensorsKeepRelays (s : NetSys) (sensors : Sensors) : Prop :=
  sensors.alarm ≠ s.panel.alarmActive ∨ sensors.fire ≠ s.panel.fireActive →
    s.settings.faults.succeeds .select = true ∧
      ∀ module slot, (s.panel.hal.outputs (module, slot + idtiSlotEventBase)).isSome →
        (module, slot) ∉ outputPositions s.panel.moduleCount →
          relayRequired s.settings
              { s.panel with alarmActive := sensors.alarm, fireActive := sensors.fire }
              module slot =
            relayRequired s.settings s.panel module slot

/-- A new database requires of the driven outputs what the old one did. -/
def ReloadKeepsRelays (s : NetSys) (reload : Reload) : Prop :=
  ∀ db, reload.db = some (some db) →
    ∀ module slot, (s.panel.hal.outputs (module, slot + idtiSlotEventBase)).isSome →
      relayRequired (devsetInit db).2 s.panel module slot =
        relayRequired s.settings s.panel module slot

/-- The condition on one event of the main loop. -/
def RelaysKept (daemon : Daemon) : Input → Prop
  | .clientReady ready answer =>
      ∀ start, readHead daemon.sys ready answer = some start →
        ∀ head hdr, LoopReaches start head → head.frame = some hdr →
          WriteKeepsRelays head.sys hdr head.pkt
  | .cardReadable sensors _ _ => SensorsKeepRelays daemon.sys sensors
  | .reload found => ReloadKeepsRelays daemon.sys found
  | _ => True

/-- What a network unit that is there keeps: the relays, and that it knows the modules
the runtime knows and reports stored settings to it. -/
structure RelaysServed (s : NetSys) : Prop where
  right : RelaysRight s
  layout : s.net.layout.moduleCount = s.panel.moduleCount
  attached : s.net.onSettingChanged = true

/-! ### Setting writes -/

theorem mem_outputPositions {moduleCount module slot : Nat} :
    (module, slot) ∈ outputPositions moduleCount ↔
      1 ≤ module ∧ module ≤ moduleCount ∧ slot ∈ outputSlots := by
  simp only [outputPositions, List.mem_flatMap, List.mem_range, List.mem_map, Prod.mk.injEq]
  constructor
  · rintro ⟨index, inside, found, listed, rfl, rfl⟩
    exact ⟨by omega, by omega, listed⟩
  · rintro ⟨first, last, listed⟩
    exact ⟨module - 1, by omega, slot, listed, by omega, rfl⟩

/-- An output setting is stored for an output of a configured module. -/
theorem settingKey_output {net : AcuNet} {hdr : IdtiHeader} {spec : SettingSpec}
    {key : SettingKey} (output : spec.unit = .output)
    (addressed : settingKey net hdr spec = some key) :
    (key.module, key.slot) ∈ outputPositions net.layout.moduleCount := by
  have unit : settingUnit hdr spec = .output := by
    rw [settingUnit, output]
    rfl
  unfold settingKey at addressed
  rw [unit, if_neg (by decide)] at addressed
  split at addressed
  next => cases addressed
  next slot _ =>
    simp only at addressed
    split at addressed
    next => cases addressed
    next inside =>
      split at addressed
      next isOutput =>
        cases addressed
        obtain ⟨first, last⟩ := not_or.mp inside
        refine mem_outputPositions.mpr
          ⟨Nat.le_of_not_lt first, Nat.le_of_not_lt last, ?_⟩
        simp only [slotIsOutput, Bool.and_eq_true, decide_eq_true_eq] at isOutput
        simp only [outputSlots, List.mem_cons, List.not_mem_nil, or_false]
        omega
      next => cases addressed

theorem alarmBlock_congr {db other : SettingsDb} {module slot : Nat}
    (same : other.stored (outputKey module slot) = db.stored (outputKey module slot)) :
    alarmBlock other module slot = alarmBlock db module slot := by
  rw [alarmBlock, alarmBlock, same]

theorem relayRequired_of_stored {db other : SettingsDb} {module slot : Nat} (panel : Panel)
    (same : other.stored (outputKey module slot) = db.stored (outputKey module slot)) :
    relayRequired other panel module slot = relayRequired db panel module slot := by
  rw [relayRequired, relayRequired, alarmBlock_congr same]

/-- What the rule finds in a block that was just stored. -/
theorem alarmBlock_of_stored {db : SettingsDb} {module slot : Nat} {data : Memory}
    (stored : db.stored (outputKey module slot) = some (data.read 0 idtiOutputSettingLen)) :
    alarmBlock db module slot =
      if data.byte idtiOutputOffActiveType = idtiOutputActiveTypeAlarm then
        some (Memory.ofBytes (data.read 0 idtiOutputSettingLen))
      else none := by
  have byte := Memory.byte_ofBytes_read data 0 idtiOutputSettingLen idtiOutputOffActiveType
    (by decide)
  rw [Nat.zero_add] at byte
  by_cases alarm : data.byte idtiOutputOffActiveType = idtiOutputActiveTypeAlarm
  · simp [alarmBlock, stored, Option.filter, byte, alarm]
  · simp [alarmBlock, stored, Option.filter, byte, alarm]

/-- A stored block leaves the driven outputs right: those the recomputation reaches, and
those whose setting did not change. -/
theorem putOutput_right {s : NetSys} {key : SettingKey} {data : Memory} {stored : SettingsDb}
    (right : RelaysRight s)
    (inside : (key.module, key.slot) ∈ outputPositions s.panel.moduleCount)
    (put : devsetPut s.settings key (data.read 0 idtiOutputSettingLen) = (true, stored))
    (reads : stored.faults.succeeds .select = true)
    (alarm : s.panel.hal.outputs (key.module, key.slot + idtiSlotEventBase) = some true →
      data.byte idtiOutputOffActiveType = idtiOutputActiveTypeAlarm)
    {module slot : Nat} {on : Bool}
    (driven : (applyAlarmOutputs stored s.panel).hal.outputs
      (module, slot + idtiSlotEventBase) = some on) :
    on = relayRequired stored s.panel module slot := by
  refine applyAlarmOutputs_right reads (fun before was => ?_) driven
  have here := stored_devsetPut put (outputKey module slot)
  by_cases same : outputKey module slot = key
  · subst same
    rw [if_pos rfl] at here
    have block := alarmBlock_of_stored here
    by_cases isAlarm : data.byte idtiOutputOffActiveType = idtiOutputActiveTypeAlarm
    · rw [if_pos isAlarm] at block
      exact .inl ⟨inside, by rw [block]; rfl⟩
    · rw [if_neg isAlarm] at block
      right
      rw [relayRequired, block]
      cases before with
      | false => rfl
      | true => exact absurd (alarm was) isAlarm
  · rw [if_neg same] at here
    right
    rw [relayRequired_of_stored s.panel here]
    exact right module slot before was

theorem RelaysServed.of_same {before after : NetSys} (served : RelaysServed before)
    (same : SameRelays before after) : RelaysServed after := by
  constructor
  · intro module slot on driven
    rw [same.outputs] at driven
    rw [same.settings, relayRequired_congr same.alarmActive same.fireActive]
    exact served.right module slot on driven
  · rw [same.layout, same.moduleCount]
    exact served.layout
  · rw [same.onSettingChanged]
    exact served.attached

/-- A request that stores an output setting, followed to its recomputation. -/
theorem outputStored_right {s : NetSys} {hdr : IdtiHeader} {pkt : Memory} {spec : SettingSpec}
    {key : SettingKey} {stored : SettingsDb} (served : RelaysServed s)
    (keeps : WriteKeepsRelays s hdr pkt) (object : hdr.object = idtiObjOutput)
    (change : hdr.isRequest idtiCmdSndData idtiSubcmdChange = true)
    (found : findSettingSpec hdr.object = some spec) (long : spec.len ≤ hdr.dataLen)
    (addressed : settingKey s.net hdr spec = some key)
    (attached : s.net.settingsAttached = true)
    (put : devsetPut s.settings key ((packetData pkt).read 0 spec.len) = (true, stored))
    {module slot : Nat} {on : Bool}
    (driven : (applyAlarmOutputs stored s.panel).hal.outputs
      (module, slot + idtiSlotEventBase) = some on) :
    on = relayRequired stored s.panel module slot := by
  rw [object] at found
  cases found
  obtain ⟨present, inserts, oracle⟩ := devsetPut_done put
  have target : outputWriteKey s hdr = some key := by
    rw [outputWriteKey, if_pos ⟨object, change, long, attached, present, inserts⟩]
    exact addressed
  obtain ⟨reads, alarm⟩ := keeps key target
  have inside := settingKey_output rfl addressed
  rw [served.layout] at inside
  exact putOutput_right served.right inside put (oracle ▸ reads) alarm driven

/-- A setting write leaves the relays right under its condition. -/
theorem handleSettingWrite_served {s written : NetSys} {hdr : IdtiHeader} {pkt : Memory}
    (served : RelaysServed s) (keeps : WriteKeepsRelays s hdr pkt)
    (change : hdr.isRequest idtiCmdSndData idtiSubcmdChange = true)
    (handled : handleSettingWrite s hdr pkt = some written) : RelaysServed written := by
  obtain ⟨spec, key, stored, found, done, _, net, settings, panel⟩ :=
    handleSettingWrite_cases handled
  rw [served.attached, Bool.and_true] at panel
  have latched : written.panel.alarmActive = s.panel.alarmActive ∧
      written.panel.fireActive = s.panel.fireActive ∧
      written.panel.moduleCount = s.panel.moduleCount := by
    obtain ⟨_, driven⟩ := applyAlarmOutputs_eq stored.settings s.panel
    rw [panel]
    unfold onSettingChanged
    rw [driven]
    repeat' split
    all_goals exact ⟨rfl, rfl, rfl⟩
  refine
    { right := fun module slot on driven => ?_
      layout := by rw [net, latched.2.2, served.layout]
      attached := by rw [net, served.attached] }
  rw [settings, relayRequired_congr latched.1 latched.2.1]
  rw [panel] at driven
  rcases settingStore_cases done with
    ⟨rfl, same⟩ | ⟨place, rfl, long, addressed, attached, put⟩
  · -- The write was refused: nothing that is stored changes.
    rw [Option.isSome_none, if_neg (by decide)] at driven
    rw [relayRequired_of_stored s.panel (congrFun same _)]
    exact served.right module slot on driven
  · rw [Option.isSome_some, if_pos rfl, onSettingChanged] at driven
    by_cases object : hdr.object = idtiObjOutput
    · rw [if_pos object] at driven
      exact outputStored_right served keeps object change found long addressed attached put
        driven
    · -- A block of another object is no output setting.
      rw [if_neg object] at driven
      have other : outputKey module slot ≠ place := by
        rintro rfl
        apply object
        rw [← (findSettingSpec_object found).2, ← settingKey_object addressed]
        rfl
      have here := stored_devsetPut put (outputKey module slot)
      rw [if_neg other] at here
      rw [relayRequired_of_stored s.panel here]
      exact served.right module slot on driven

/-- Every request leaves the relays right under the condition on setting writes. -/
theorem handleRequest_served {s : NetSys} {hdr : IdtiHeader} {pkt : Memory}
    (served : RelaysServed s) (keeps : WriteKeepsRelays s hdr pkt) :
    RelaysServed (handleRequest s hdr pkt) := by
  by_cases writes : hdr.IsSettingWrite
  · have handled := handleRequest_settingWrite writes s pkt
    rw [requestTimeSync_eq] at handled
    apply handleSettingWrite_served _ _ writes.1 handled
    · exact ⟨served.right, served.layout, served.attached⟩
    · exact keeps
  · exact served.of_same ((handleRequest_effect s hdr pkt).sameRelays writes)

/-! ### Inputs and reloads -/

theorem SameControls.relaysRight {before after : Daemon} (same : SameControls before after)
    (right : RelaysRight before.sys) : RelaysRight after.sys := by
  obtain ⟨_, panel⟩ := same.panel
  intro module slot on driven
  rw [panel] at driven
  rw [same.settings, panel]
  exact right module slot on driven

/-- An output whose setting is Alarm, in a configured module. -/
def Reached (db : SettingsDb) (panel : Panel) (module slot : Nat) : Prop :=
  (module, slot) ∈ outputPositions panel.moduleCount ∧ (alarmBlock db module slot).isSome

/-- A recomputation puts the outputs it reaches in the required state. -/
theorem applyAlarmOutputs_reached {db : SettingsDb} {panel : Panel} {module slot : Nat}
    (reads : db.faults.succeeds .select = true) (reached : Reached db panel module slot) :
    (applyAlarmOutputs db panel).hal.outputs (module, slot + idtiSlotEventBase) =
      some (relayRequired db panel module slot) := by
  obtain ⟨inside, alarm⟩ := reached
  obtain ⟨out, block⟩ := Option.isSome_iff_exists.mp alarm
  rw [applyAlarmOutputs_output reads, if_pos inside, relayRequired, block]
  rfl

/-- It leaves the others. -/
theorem applyAlarmOutputs_unreached {db : SettingsDb} {panel : Panel} {module slot : Nat}
    (reads : db.faults.succeeds .select = true) (unreached : ¬ Reached db panel module slot) :
    (applyAlarmOutputs db panel).hal.outputs (module, slot + idtiSlotEventBase) =
      panel.hal.outputs (module, slot + idtiSlotEventBase) := by
  rw [applyAlarmOutputs_output reads]
  split
  next inside =>
    have block : alarmBlock db module slot = none := by
      rw [← Option.not_isSome_iff_eq_none]
      exact fun alarm => unreached ⟨inside, alarm⟩
    rw [block]
    rfl
  next => rfl

/-- What is unchanged while no output is reached: the required state of an output that is
not reached is a matter of the condition alone. -/
theorem SensorsKeepRelays.required {s : NetSys} {sensors : Sensors}
    (keeps : SensorsKeepRelays s sensors)
    (changed : sensors.alarm ≠ s.panel.alarmActive ∨ sensors.fire ≠ s.panel.fireActive)
    {module slot : Nat} (unreached : ¬ Reached s.settings s.panel module slot)
    (driven : (s.panel.hal.outputs (module, slot + idtiSlotEventBase)).isSome) :
    relayRequired s.settings
        { s.panel with alarmActive := sensors.alarm, fireActive := sensors.fire } module slot =
      relayRequired s.settings s.panel module slot := by
  by_cases inside : (module, slot) ∈ outputPositions s.panel.moduleCount
  · have block : alarmBlock s.settings module slot = none := by
      rw [← Option.not_isSome_iff_eq_none]
      exact fun alarm => unreached ⟨inside, alarm⟩
    rw [relayRequired, relayRequired, block]
    rfl
  · exact (keeps changed).2 module slot driven inside

/-- Reading an input leaves the outputs that are not reached. -/
theorem latch_unreached {db : SettingsDb} {panel : Panel} {module slot : Nat}
    (reads : db.faults.succeeds .select = true) (unreached : ¬ Reached db panel module slot)
    (alarm fire : Bool) :
    (latchFire db (latchAlarm db panel alarm) fire).hal.outputs
        (module, slot + idtiSlotEventBase) =
      panel.hal.outputs (module, slot + idtiSlotEventBase) := by
  have first : (latchAlarm db panel alarm).hal.outputs (module, slot + idtiSlotEventBase) =
      panel.hal.outputs (module, slot + idtiSlotEventBase) := by
    unfold latchAlarm
    split
    next => rfl
    next => exact applyAlarmOutputs_unreached reads unreached
  obtain ⟨_, latched⟩ := latchAlarm_eq db panel alarm
  have still : ¬ Reached db (latchAlarm db panel alarm) module slot := by
    rw [latched]
    exact unreached
  rw [← first]
  unfold latchFire
  split
  next => rfl
  next => exact applyAlarmOutputs_unreached reads still

/-- After one of the inputs changed, the outputs that are reached follow both. -/
theorem latch_reached {db : SettingsDb} {panel : Panel} {module slot : Nat}
    (reads : db.faults.succeeds .select = true) (reached : Reached db panel module slot)
    {alarm fire : Bool} (changed : alarm ≠ panel.alarmActive ∨ fire ≠ panel.fireActive) :
    (latchFire db (latchAlarm db panel alarm) fire).hal.outputs
        (module, slot + idtiSlotEventBase) =
      some (relayRequired db { panel with alarmActive := alarm, fireActive := fire }
        module slot) := by
  obtain ⟨_, latched⟩ := latchAlarm_eq db panel alarm
  by_cases same : fire = panel.fireActive
  · -- Only the alarm changed: the one recomputation saw both inputs.
    subst same
    have moved : alarm ≠ panel.alarmActive := changed.resolve_right fun differs => differs rfl
    have kept : (latchAlarm db panel alarm).fireActive = panel.fireActive := by rw [latched]
    rw [latchFire, if_pos kept.symm, latchAlarm, if_neg moved]
    exact applyAlarmOutputs_reached reads reached
  · have moved : fire ≠ (latchAlarm db panel alarm).fireActive := by
      rw [latched]
      exact same
    rw [latchFire, if_neg moved, applyAlarmOutputs_reached reads]
    · congr 1
      apply relayRequired_congr <;> rw [latched]
    · rw [latched]
      exact reached

/-- Reading the two inputs leaves the relays right under its condition. -/
theorem checkAlarmFire_right {daemon : Daemon} {sensors : Sensors}
    (right : RelaysRight daemon.sys) (keeps : SensorsKeepRelays daemon.sys sensors) :
    RelaysRight (checkAlarmFire daemon sensors).sys := by
  obtain ⟨_, read⟩ := checkAlarmFire_eq daemon sensors
  obtain ⟨_, alarm⟩ := latchAlarm_eq daemon.sys.settings daemon.sys.panel sensors.alarm
  obtain ⟨_, fire⟩ := latchFire_eq daemon.sys.settings
    (latchAlarm daemon.sys.settings daemon.sys.panel sensors.alarm) sensors.fire
  intro module slot on driven
  have required : relayRequired (checkAlarmFire daemon sensors).sys.settings
      (checkAlarmFire daemon sensors).sys.panel module slot =
        relayRequired daemon.sys.settings
          { daemon.sys.panel with alarmActive := sensors.alarm, fireActive := sensors.fire }
          module slot := by
    rw [read, fire, alarm]
    rfl
  rw [required]
  rw [read] at driven
  by_cases changed : sensors.alarm ≠ daemon.sys.panel.alarmActive ∨
      sensors.fire ≠ daemon.sys.panel.fireActive
  · have reads := (keeps changed).1
    by_cases reached : Reached daemon.sys.settings daemon.sys.panel module slot
    · rw [latch_reached reads reached changed] at driven
      exact (Option.some.inj driven).symm
    · rw [latch_unreached reads reached] at driven
      rw [keeps.required changed reached (by rw [driven]; rfl)]
      exact right module slot on driven
  · obtain ⟨sameAlarm, sameFire⟩ := not_or.mp changed
    rw [not_not] at sameAlarm sameFire
    rw [sameAlarm, sameFire, latchAlarm, if_pos rfl, latchFire, if_pos rfl] at driven
    rw [sameAlarm, sameFire]
    exact right module slot on driven

/-! ### Runs -/

/-- What the daemon keeps: its relays, and for a network unit that is there what it
serves them with. -/
structure Daemon.KeepsRelays (daemon : Daemon) : Prop where
  right : RelaysRight daemon.sys
  served : daemon.netUp = true → RelaysServed daemon.sys

theorem Daemon.KeepsRelays.withLink {daemon : Daemon} (kept : daemon.KeepsRelays) (link : Link) :
    Daemon.KeepsRelays { daemon with sys := { daemon.sys with link := link } } := by
  constructor
  · exact kept.right
  · intro up
    have served := kept.served up
    exact ⟨served.right, served.layout, served.attached⟩

theorem SameControls.sensorsKeepRelays {before after : Daemon}
    (same : SameControls before after) {sensors : Sensors}
    (keeps : SensorsKeepRelays before.sys sensors) : SensorsKeepRelays after.sys sensors := by
  obtain ⟨_, panel⟩ := same.panel
  unfold SensorsKeepRelays
  rw [same.settings, panel]
  exact keeps

theorem RelaysServed.withLink {s : NetSys} (served : RelaysServed s) (link : Link) :
    RelaysServed { s with link := link } :=
  ⟨served.right, served.layout, served.attached⟩

/-- What a network unit knows of the modules and whom it reports to is the same after
cards were read. -/
theorem onCardReadable_keepsRelays {daemon : Daemon} (kept : daemon.KeepsRelays)
    {sensors : Sensors} (keeps : SensorsKeepRelays daemon.sys sensors) (down : List Nat)
    (cards : List CardTag) : (onCardReadable daemon sensors down cards).KeepsRelays := by
  obtain ⟨noted, before, after⟩ := onCardReadable_frame daemon sensors down cards
  obtain ⟨_, read⟩ := checkAlarmFire_eq noted sensors
  obtain ⟨_, alarm⟩ := latchAlarm_eq noted.sys.settings noted.sys.panel sensors.alarm
  obtain ⟨_, fire⟩ := latchFire_eq noted.sys.settings
    (latchAlarm noted.sys.settings noted.sys.panel sensors.alarm) sensors.fire
  have right : RelaysRight (onCardReadable daemon sensors down cards).sys := by
    apply after.relaysRight
    apply checkAlarmFire_right (before.relaysRight kept.right)
    exact before.sensorsKeepRelays keeps
  refine ⟨right, fun up => ?_⟩
  rw [after.netUp, read, before.netUp] at up
  have served := kept.served up
  obtain ⟨_, netBefore⟩ := before.net
  obtain ⟨_, netAfter⟩ := after.net
  obtain ⟨_, panelBefore⟩ := before.panel
  obtain ⟨_, panelAfter⟩ := after.panel
  refine ⟨right, ?_, ?_⟩
  · rw [netAfter, panelAfter, read, fire, alarm, netBefore, panelBefore]
    exact served.layout
  · rw [netAfter, read, netBefore]
    exact served.attached

/-- The rule does not look at the configuration. -/
theorem relayRequired_configured (db : SettingsDb) (panel : Panel)
    (moduleCount doorOpenSeconds module slot : Nat) :
    relayRequired db
        { panel with moduleCount := moduleCount, doorOpenSeconds := doorOpenSeconds }
        module slot =
      relayRequired db panel module slot := rfl

/-- A reload touches the relays only through the database it opens. -/
theorem reloadConfig_keepsRelays {daemon : Daemon} (kept : daemon.KeepsRelays)
    {reload : Reload} (keeps : ReloadKeepsRelays daemon.sys reload) :
    (reloadConfig daemon reload).KeepsRelays := by
  obtain ⟨_, reloaded⟩ := reloadConfig_eq daemon reload
  have right : RelaysRight (reloadConfig daemon reload).sys := by
    intro module slot on driven
    rw [reloaded] at driven ⊢
    have was := kept.right module slot on driven
    simp only
    rw [relayRequired_configured, was]
    unfold reloadDb Daemon.onNet
    split
    next db found =>
      have same := keeps db found module slot (by rw [driven]; rfl)
      split <;> exact same.symm
    next => rfl
  refine ⟨right, fun up => ?_⟩
  rw [reloaded] at up right ⊢
  refine ⟨right, ?_, ?_⟩
  all_goals
    cases renews : reload.port.join.isSome with
    | true =>
        rw [if_pos rfl]
        rfl
    | false =>
        simp only [renews, Bool.or_false] at up
        rw [if_neg (by decide), if_pos up]
        first
          | rfl
          | exact (kept.served up).attached

/-- Every event keeps the relays right under its condition. -/
theorem step_keepsRelays {daemon next : Daemon} {input : Input} (kept : daemon.KeepsRelays)
    (keeps : RelaysKept daemon input) (stepped : daemon.step input = some next) :
    next.KeepsRelays := by
  cases input with
  | clientReady ready answer =>
      simp only [Daemon.step] at stepped
      split at stepped
      next live =>
        obtain ⟨later, returned, rfl⟩ := Option.map_eq_some_iff.mp stepped
        have served : RelaysServed later := by
          apply netOnClientReady_keeps (fun s link kept _ => kept.withLink link) _
            (kept.served live.1) returned
          intro start entered head hdr reached found held
          exact handleRequest_served held (keeps start entered head hdr reached found)
        exact ⟨served.right, fun _ => served⟩
      next =>
        cases stepped
        exact kept
  | listenReady accepted =>
      cases stepped
      obtain ⟨link, changed⟩ :=
        daemon.onNet_link fun s => netOnListenReady_eq s accepted
      rw [changed]
      exact kept.withLink link
  | cardReadable sensors down cards =>
      cases stepped
      exact onCardReadable_keepsRelays kept keeps down cards
  | housekeeping =>
      cases stepped
      obtain ⟨link, changed⟩ := daemon.onNet_link netCheckInactivity_eq
      rw [changed]
      exact kept.withLink link
  | reload reload =>
      cases stepped
      exact reloadConfig_keepsRelays kept keeps
  | clock now monotonic =>
      cases stepped
      exact ⟨kept.right, fun up =>
        ⟨(kept.served up).right, (kept.served up).layout, (kept.served up).attached⟩⟩

theorem RelaysRight.of_undriven {s : NetSys} (undriven : s.panel.hal = Hal.initial) :
    RelaysRight s := by
  intro module slot on driven
  rw [undriven] at driven
  cases driven

/-- No output was driven when the daemon starts. -/
theorem mainStart_undriven {start : StartUp} {daemon : Daemon}
    (started : mainStart start = some daemon) :
    daemon.sys.panel.hal = Hal.initial ∧
      daemon.sys.net.layout.moduleCount = daemon.sys.panel.moduleCount ∧
      daemon.sys.net.onSettingChanged = true := by
  unfold mainStart at started
  split at started
  next => cases started
  next =>
    cases started
    exact ⟨rfl, rfl, rfl⟩

theorem mainStart_keepsRelays {start : StartUp} {daemon : Daemon}
    (started : mainStart start = some daemon) : daemon.KeepsRelays := by
  obtain ⟨undriven, layout, attached⟩ := mainStart_undriven started
  constructor
  · exact RelaysRight.of_undriven undriven
  · intro _
    exact ⟨RelaysRight.of_undriven undriven, layout, attached⟩

/-- The states after each frame that an event makes the daemon handle. -/
inductive Daemon.Handles (daemon : Daemon) : Input → NetSys → Prop where
  | frame {ready : LoopInterest} {answer : RecvAnswer} {start head : LoopHead}
      (up : daemon.netUp = true) (entered : readHead daemon.sys ready answer = some start)
      (reached : LoopReaches start head) :
      daemon.Handles (.clientReady ready answer) head.sys

theorem Daemon.Handles.served {daemon : Daemon} {input : Input} {s : NetSys}
    (handles : daemon.Handles input s) (kept : daemon.KeepsRelays)
    (keeps : RelaysKept daemon input) : RelaysServed s := by
  cases handles with
  | frame up entered reached =>
      apply reached.keeps
      · intro head hdr reachedHere found held
        exact handleRequest_served held (keeps _ entered head hdr reachedHere found)
      · exact readHead_keeps (fun s link held _ => held.withLink link) (kept.served up) entered

/-- In every run of the daemon whose events meet the condition, every output that was
ever driven is in the state the rule requires, after each event and after each frame. -/
theorem relays_right (start : StartUp) (daemon : Daemon)
    (started : mainStart start = some daemon) (inputs : List Input)
    (guarded : Guarded Daemon.step RelaysKept daemon inputs) :
    Always Daemon.step (fun daemon => RelaysRight daemon.sys) daemon inputs ∧
      Guarded Daemon.step (fun daemon input => ∀ s, daemon.Handles input s → RelaysRight s)
        daemon inputs := by
  have keeps : ∀ daemon input next, Daemon.KeepsRelays daemon → RelaysKept daemon input →
      daemon.step input = some next → next.KeepsRelays :=
    fun _ _ _ kept allowed stepped => step_keepsRelays kept allowed stepped
  have holds := mainStart_keepsRelays started
  constructor
  · exact guarded.always (fun _ kept => kept.right) keeps holds
  · apply guarded.imp_of_invariant keeps _ holds
    intro daemon input kept allowed s handles
    exact (handles.served kept allowed).right

/-! ### An output that stops being Alarm while it sounds -/

/-- An output setting of a type. -/
def outputBlock (activeType : UInt8) : Bytes :=
  List.replicate idtiOutputOffActiveType 0 ++ [activeType] ++
    List.replicate (idtiOutputSettingLen - idtiOutputOffActiveType - 1) 0

/-- A first start with an Alarm output stored: the first output of the first module. -/
def StartUp.withAlarmOutput : StartUp :=
  let first := StartUp.first fun _ => .accepted 4096
  { first with
    settings :=
      (devsetPut (devsetInit first.settings).2 (outputKey 1 8)
        (outputBlock idtiOutputActiveTypeAlarm)).2 }

def alarmOn : Input :=
  .cardReadable { doorOpen := false, alarm := true, fire := false } [] []

/-- The upper system gives that output another type. -/
def retype : Input :=
  .receive
    (requestTo ⟨[0, 0, 0, 1, 0, 0, 1, 0], rfl⟩ idtiCmdSndData idtiSubcmdChange idtiObjOutput
      (outputBlock 1))

theorem relays_right_alarm :
    ∃ daemon, mainStart StartUp.withAlarmOutput = some daemon ∧
      (Always Daemon.step (fun daemon => RelaysRight daemon.sys) daemon [alarmOn] ∧
        Guarded Daemon.step (fun daemon input => ∀ s, daemon.Handles input s → RelaysRight s)
          daemon [alarmOn]) := by
  have measured : (mainStart StartUp.withAlarmOutput).map
      (fun daemon => daemon.sys.settings.faults.succeeds .select) = some true := by
    decide +kernel
  obtain ⟨daemon, started, reads⟩ := Option.map_eq_some_iff.mp measured
  refine ⟨daemon, started, relays_right _ daemon started _ ?_⟩
  intro next _
  refine ⟨fun _ => ⟨reads, ?_⟩, trivial⟩
  intro module slot driven
  rw [(mainStart_undriven started).1] at driven
  cases driven

/-- The output goes on sounding although its setting is not Alarm any more. -/
theorem retyped_output_sounds :
    ∃ daemon, mainStart StartUp.withAlarmOutput = some daemon ∧
      ¬ Always Daemon.step (fun daemon => RelaysRight daemon.sys) daemon
        [.connect 8, alarmOn, retype] := by
  have measured :
      ((mainStart StartUp.withAlarmOutput).bind fun daemon =>
          run Daemon.step daemon [.connect 8, alarmOn, retype]).map
        (fun daemon => (daemon.sys.panel.hal.outputs (1, 8 + idtiSlotEventBase),
          relayRequired daemon.sys.settings daemon.sys.panel 1 8)) =
      some (some true, false) := by decide +kernel
  obtain ⟨final, reached, both⟩ := Option.map_eq_some_iff.mp measured
  obtain ⟨daemon, started, reached⟩ := Option.bind_eq_some_iff.mp reached
  refine ⟨daemon, started, fun always => ?_⟩
  obtain ⟨sounds, required⟩ := Prod.mk.inj both
  have right := always.final reached 1 8 true sounds
  rw [required] at right
  cases right

end Acud
