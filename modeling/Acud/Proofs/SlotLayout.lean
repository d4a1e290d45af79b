/-
Module: Acud.Proofs.SlotLayout
Purpose: Which layouts make the reported slots and the slots of settings the same.
Trusted boundary: none
Main exports:
  reportedIoType, slotIoType, fixedIoType, Drives, SlotsAgree, slotsAgree_iff
-/
import Acud.Lib.Blocks
import Acud.Proofs.AlarmRelays
import Acud.Proofs.Responses
import Acud.Proofs.SettingStore

namespace Acud

open Lib

/-!
What a slot is gets decided three times.  The device status fills the slots of a module from
the configured counts; settings are accepted at fixed slots; the relays of the alarm rule
are the slots 8 to 11.  The two others do not look at the counts, so all three say the same
for one layout of a module only.

[SRC src/acud/net.c, src/acud/main.c, src/acud/config.c]
-/

/-! ### Reported slots -/

/-- The I/O type that a device status gives for a slot of a module, the first module being
number 1. -/
def reportedIoType (net : AcuNet) (clock : Clock) (module slot : Nat) : UInt8 :=
  ((buildDeviceStatus net clock).getD
    (idtiModuleArrayOffset + (module - 1) * idtiModuleEntryLen + 2 + slot) 0) >>> 4

/-- Readers, inputs, outputs, alarm and fire inputs, in this order. -/
def slotIoType (layout : AcuModuleLayout) (slot : Nat) : UInt8 :=
  if slot < layout.readers then idtiIotypeProximityReader
  else if slot < layout.readers + layout.inputs then idtiIotypeInputSensor
  else if slot < layout.readers + layout.inputs + layout.outputs then idtiIotypeOutputRelay
  else if slot < layout.readers + layout.inputs + layout.outputs + layout.alarmFireInputs then
    idtiIotypeInputSensor
  else 0

theorem slotTypes_getD (layout : AcuModuleLayout) {slot : Nat}
    (inside : slot < idtiModuleIoSlots) :
    (slotTypes layout).getD slot 0 = slotIoType layout slot := by
  unfold slotTypes slotIoType
  rw [List.getD_eq_getElem?_getD, List.getElem?_take_of_lt inside]
  simp only [List.getElem?_append, List.getElem?_replicate, List.length_append,
    List.length_replicate]
  split_ifs <;> first | rfl | omega

theorem slotIoType_cases (layout : AcuModuleLayout) (slot : Nat) :
    slotIoType layout slot ∈
      [0, idtiIotypeProximityReader, idtiIotypeInputSensor, idtiIotypeOutputRelay] := by
  unfold slotIoType
  split_ifs <;> decide

/-- Type in the upper four bits, status in the lower ones. -/
theorem moduleEntry_ioType (layout : AcuModuleLayout) {slot : Nat}
    (inside : slot < idtiModuleIoSlots) :
    (moduleEntry layout).getD (2 + slot) 0 >>> 4 = slotIoType layout slot := by
  have value := slotTypes_getD layout inside
  have possible := slotIoType_cases layout slot
  unfold moduleEntry
  rw [List.getD_eq_getElem?_getD] at value ⊢
  rw [List.append_assoc, List.getElem?_append_right (Nat.le_add_right 2 slot),
    List.getElem?_append, List.length_map]
  have offset : 2 + slot - [layout.moduleType.toUInt8, layout.installType.toUInt8].length =
      slot := Nat.add_sub_cancel_left 2 slot
  rw [offset]
  by_cases filled : slot < (slotTypes layout).length
  · rw [if_pos filled, List.getElem?_map]
    rw [List.getElem?_eq_getElem filled, Option.getD_some] at value
    rw [List.getElem?_eq_getElem filled, Option.map_some, Option.getD_some, value]
    revert possible
    generalize slotIoType layout slot = ioType
    simp only [List.mem_cons, List.not_mem_nil, or_false]
    rintro (rfl | rfl | rfl | rfl)
    all_goals decide
  · rw [if_neg filled, List.getElem?_replicate]
    rw [List.getElem?_eq_none (Nat.le_of_not_lt filled), Option.getD_none] at value
    rw [← value]
    split
    next => rfl
    next => rfl

/-- The device status gives the configured types. -/
theorem reportedIoType_eq (net : AcuNet) (clock : Clock) {module slot : Nat}
    (first : 1 ≤ module) (last : module ≤ net.layout.moduleCount)
    (few : net.layout.moduleCount ≤ idtiModuleCountV2) (inside : slot < idtiModuleIoSlots) :
    reportedIoType net clock module slot = slotIoType net.layout slot := by
  have entry := length_moduleEntry net.layout
  have position : module - 1 < min net.layout.moduleCount idtiModuleCountV2 := by omega
  have within : 2 + slot < (moduleEntry net.layout).length := by
    rw [entry]
    unfold idtiModuleIoSlots at inside
    unfold idtiModuleEntryLen
    omega
  have found := getElem?_flatten_replicate position within
  rw [← moduleEntry_ioType net.layout inside, reportedIoType]
  congr 1
  rw [List.getD_eq_getElem?_getD, List.getD_eq_getElem?_getD, ← found, entry]
  congr 1
  have index : idtiModuleArrayOffset + (module - 1) * idtiModuleEntryLen + 2 + slot =
      8 + (2 + ((module - 1) * idtiModuleEntryLen + (2 + slot))) := by
    unfold idtiModuleArrayOffset
    omega
  have inEntries : (module - 1) * idtiModuleEntryLen + (2 + slot) <
      ((List.replicate (min net.layout.moduleCount idtiModuleCountV2)
        (moduleEntry net.layout)).flatten).length := by
    obtain ⟨bound, _⟩ := List.getElem?_eq_some_iff.mp
      (found.trans (List.getElem?_eq_getElem within))
    rwa [entry] at bound
  have header : ([net.deviceCategory.toUInt8, net.deviceType.toUInt8] ++
      bcdTime (clock.localtime clock.now)).length = 8 := rfl
  have existence (count : UInt16) : (be16Bytes count).length = 2 := rfl
  rw [index, buildDeviceStatus, fillModules,
    List.getElem?_append_right (by rw [header]; exact Nat.le_add_right _ _), header,
    Nat.add_sub_cancel_left, List.append_assoc,
    List.getElem?_append_right (by rw [existence]; exact Nat.le_add_right _ _), existence,
    Nat.add_sub_cancel_left, List.getElem?_append_left inEntries]

/-! ### Slots of settings and of relays -/

/-- What settings take a slot for. -/
def fixedIoType (slot : Nat) : UInt8 :=
  if slotIsReader slot then idtiIotypeProximityReader
  else if slotIsInput slot then idtiIotypeInputSensor
  else if slotIsOutput slot then idtiIotypeOutputRelay
  else 0

/-- The I/O type whose settings the objects of a unit are. -/
def SettingUnit.ioType : SettingUnit → Option UInt8
  | .controller => none
  | .reader => some idtiIotypeProximityReader
  | .controllerOrReader => some idtiIotypeProximityReader
  | .input => some idtiIotypeInputSensor
  | .output => some idtiIotypeOutputRelay

/-- The request is about one slot of a module. -/
structure SingleSlot (hdr : IdtiHeader) (module slot : Nat) : Prop where
  module_eq : requestModule hdr = module
  selects : ∀ other, hdr.Selects other ↔ other = slot

/-- Recomputing the relays tells the hardware about the output at this slot. -/
def Drives (db : SettingsDb) (panel : Panel) (module slot : Nat) : Prop :=
  (applyAlarmOutputs db { panel with hal := Hal.initial }).hal.outputs
    (module, slot + idtiSlotEventBase) ≠ none

/-- Reports, settings and relays take every slot for the same. -/
structure SlotsAgree (net : AcuNet) (clock : Clock) : Prop where
  settings : ∀ hdr module slot spec ioType, SingleSlot hdr module slot → 1 ≤ module →
    module ≤ net.layout.moduleCount → slot < idtiModuleIoSlots → spec ∈ settingSpecs →
      spec.unit.ioType = some ioType →
        (reportedIoType net clock module slot = ioType ↔ (settingKey net hdr spec).isSome = true)
  relays : ∀ db panel module slot, panel.moduleCount = net.layout.moduleCount →
    Drives db panel module slot → reportedIoType net clock module slot = idtiIotypeOutputRelay

theorem SettingUnit.accepts_iff :
    ∀ slot < idtiModuleIoSlots, ∀ unit ∈ [SettingUnit.reader, .input, .output],
      unit.accepts slot = true ↔ some (fixedIoType slot) = unit.ioType := by
  decide

/-- A request about one slot is accepted by the objects of the type that settings take the
slot for. -/
theorem settingKey_isSome_iff {net : AcuNet} {hdr : IdtiHeader} {module slot : Nat}
    (single : SingleSlot hdr module slot) (first : 1 ≤ module)
    (last : module ≤ net.layout.moduleCount) (inside : slot < idtiModuleIoSlots)
    {spec : SettingSpec} {ioType : UInt8} (kept : spec.unit.ioType = some ioType) :
    (settingKey net hdr spec).isSome = true ↔ fixedIoType slot = ioType := by
  have low : slot < 32 := Nat.lt_trans inside (by decide)
  have alone : AloneAt hdr slot hdr := ⟨rfl, rfl, single.selects⟩
  have lowest := alone.requestSlot_eq low
  have bitmap := requestBitmap_ne_zero ((single.selects slot).mpr rfl)
  have unit : settingUnit hdr spec ∈ [SettingUnit.reader, .input, .output] ∧
      (settingUnit hdr spec).ioType = some ioType := by
    unfold settingUnit
    simp only [bitmap, and_false, ↓reduceIte]
    revert kept
    cases spec.unit <;> simp [SettingUnit.ioType]
  have notController : settingUnit hdr spec ≠ .controller := by
    intro controller
    rw [controller] at unit
    exact absurd unit.1 (by decide)
  have accepts := SettingUnit.accepts_iff slot inside _ unit.1
  rw [unit.2, Option.some.injEq] at accepts
  rw [← accepts, Option.isSome_iff_exists]
  constructor
  · rintro ⟨key, addressed⟩
    rcases settingKey_eq_some_iff.mp addressed with
      ⟨controller, _⟩ | ⟨_, other, same, _, _, accepted, _⟩
    · exact absurd controller notController
    · rw [lowest] at same
      cases same
      exact accepted
  · intro accepted
    refine ⟨_, settingKey_eq_some_iff.mpr (.inr ⟨notController, slot, lowest, ?_, ?_,
      accepted, rfl⟩)⟩
    · rw [single.module_eq]
      exact first
    · rw [single.module_eq]
      exact last

/-- Only slots of `outputSlots` are driven. -/
theorem Drives.position {db : SettingsDb} {panel : Panel} {module slot : Nat}
    (drives : Drives db panel module slot) :
    1 ≤ module ∧ module ≤ panel.moduleCount ∧ slot ∈ outputSlots := by
  rw [← mem_outputPositions]
  by_contra outside
  apply drives
  unfold applyAlarmOutputs
  rw [foldl_applyAlarmOutput, if_neg outside]
  rfl

/-! ### When the three agree -/

/-- A request about one slot of module 1. -/
def slotRequest (slot : Nat) : IdtiHeader :=
  { inputRequest idtiCmdSndData idtiSubcmdChange 0 0 with
    destAddr := ⟨[0, 0, 0, 1] ++ be32Bytes (2 ^ slot).toUInt32, rfl⟩ }

theorem slotRequest_single {slot : Nat} (inside : slot < idtiModuleIoSlots) :
    SingleSlot (slotRequest slot) 1 slot := by
  have bitmap : ∀ slot < idtiModuleIoSlots,
      (requestBitmap (slotRequest slot)).toNat = 2 ^ slot := by decide
  refine ⟨rfl, fun other => ?_⟩
  rw [IdtiHeader.Selects, bitmap slot inside, Nat.testBit_two_pow, decide_eq_true_eq]
  exact eq_comm

/-- Every slot is of a type that some settings are for. -/
theorem fixedIoType_kept :
    ∀ slot < idtiModuleIoSlots, ∃ spec ∈ settingSpecs,
      spec.unit.ioType = some (fixedIoType slot) := by
  decide

variable {net : AcuNet} {clock : Clock}

/-- The configured type of every slot is what settings take it for. -/
theorem slotsAgree_iff_slotIoType (few : net.layout.moduleCount ≤ idtiModuleCountV2) :
    SlotsAgree net clock ↔ net.layout.moduleCount = 0 ∨
      ∀ slot < idtiModuleIoSlots, slotIoType net.layout slot = fixedIoType slot := by
  constructor
  · intro agree
    rcases Nat.eq_zero_or_pos net.layout.moduleCount with none | some
    · exact .inl none
    · right
      intro slot inside
      obtain ⟨spec, member, kept⟩ := fixedIoType_kept slot inside
      have single := slotRequest_single inside
      have accepted := (settingKey_isSome_iff single (Nat.le_refl 1) some inside kept).mpr rfl
      rw [← reportedIoType_eq net clock (Nat.le_refl 1) some few inside]
      exact (agree.settings _ 1 slot spec _ single (Nat.le_refl 1) some inside member
        kept).mpr accepted
  · rintro (none | same)
    · constructor
      · intro hdr module slot spec ioType _ first last
        omega
      · intro db panel module slot count drives
        have position := drives.position
        omega
    · constructor
      · intro hdr module slot spec ioType single first last inside _ kept
        rw [reportedIoType_eq net clock first last few inside, same slot inside]
        exact (settingKey_isSome_iff single first last inside kept).symm
      · intro db panel module slot count drives
        obtain ⟨first, last, output⟩ := drives.position
        rw [count] at last
        have outputs : ∀ slot ∈ outputSlots, slot < idtiModuleIoSlots ∧
            fixedIoType slot = idtiIotypeOutputRelay := by decide
        obtain ⟨inside, fixed⟩ := outputs slot output
        rw [reportedIoType_eq net clock first last few inside, same slot inside, fixed]

section Types

variable {layout : AcuModuleLayout} {slot : Nat}

theorem slotIoType_ranges :
    slot < layout.readers ∧ slotIoType layout slot = 2 ∨
      layout.readers ≤ slot ∧ slot < layout.readers + layout.inputs ∧
        slotIoType layout slot = 3 ∨
      layout.readers + layout.inputs ≤ slot ∧
        slot < layout.readers + layout.inputs + layout.outputs ∧ slotIoType layout slot = 4 ∨
      layout.readers + layout.inputs + layout.outputs ≤ slot ∧
        slot < layout.readers + layout.inputs + layout.outputs + layout.alarmFireInputs ∧
        slotIoType layout slot = 3 ∨
      layout.readers + layout.inputs + layout.outputs + layout.alarmFireInputs ≤ slot ∧
        slotIoType layout slot = 0 := by
  unfold slotIoType idtiIotypeProximityReader idtiIotypeInputSensor idtiIotypeOutputRelay
  split_ifs <;> simp <;> omega

theorem slotIoType_eq_reader :
    slotIoType layout slot = idtiIotypeProximityReader ↔ slot < layout.readers := by
  unfold idtiIotypeProximityReader
  rcases @slotIoType_ranges layout slot with
    ⟨_, type⟩ | ⟨_, _, type⟩ | ⟨_, _, type⟩ | ⟨_, _, type⟩ | ⟨_, type⟩
  all_goals
    rw [type]
    simp
    omega

theorem slotIoType_eq_output :
    slotIoType layout slot = idtiIotypeOutputRelay ↔
      layout.readers + layout.inputs ≤ slot ∧
        slot < layout.readers + layout.inputs + layout.outputs := by
  unfold idtiIotypeOutputRelay
  rcases @slotIoType_ranges layout slot with
    ⟨_, type⟩ | ⟨_, _, type⟩ | ⟨_, _, type⟩ | ⟨_, _, type⟩ | ⟨_, type⟩
  all_goals
    rw [type]
    simp
    omega

theorem slotIoType_eq_input :
    slotIoType layout slot = idtiIotypeInputSensor ↔
      (layout.readers ≤ slot ∧ slot < layout.readers + layout.inputs) ∨
        (layout.readers + layout.inputs + layout.outputs ≤ slot ∧
          slot < layout.readers + layout.inputs + layout.outputs + layout.alarmFireInputs) := by
  unfold idtiIotypeInputSensor
  rcases @slotIoType_ranges layout slot with
    ⟨_, type⟩ | ⟨_, _, type⟩ | ⟨_, _, type⟩ | ⟨_, _, type⟩ | ⟨_, type⟩
  all_goals
    rw [type]
    simp
    omega

end Types

/-- Only two readers, six inputs, four outputs and the alarm inputs fill a module so. -/
theorem slotIoType_eq_fixed_iff (layout : AcuModuleLayout) :
    (∀ slot < idtiModuleIoSlots, slotIoType layout slot = fixedIoType slot) ↔
      layout.readers = 2 ∧ layout.inputs = 6 ∧ layout.outputs = 4 ∧
        2 ≤ layout.alarmFireInputs := by
  constructor
  · intro same
    have lastReader := slotIoType_eq_reader.mp (same 1 (by decide))
    have firstInput := slotIoType_eq_input.mp (same 2 (by decide))
    have lastInput := slotIoType_eq_input.mp (same 7 (by decide))
    have firstOutput := slotIoType_eq_output.mp (same 8 (by decide))
    have lastOutput := slotIoType_eq_output.mp (same 11 (by decide))
    have firstAlarm := slotIoType_eq_input.mp (same 12 (by decide))
    have lastAlarm := slotIoType_eq_input.mp (same 13 (by decide))
    omega
  · rintro ⟨readers, inputs, outputs, alarm⟩ slot inside
    have fixed : ∀ slot < idtiModuleIoSlots,
        slot < 2 ∧ fixedIoType slot = idtiIotypeProximityReader ∨
          8 ≤ slot ∧ slot < 12 ∧ fixedIoType slot = idtiIotypeOutputRelay ∨
            (2 ≤ slot ∧ slot < 8 ∨ 12 ≤ slot) ∧
              fixedIoType slot = idtiIotypeInputSensor := by decide
    unfold idtiModuleIoSlots at inside
    rcases fixed slot inside with ⟨reader, type⟩ | ⟨first, last, type⟩ | ⟨input, type⟩
    · rw [type, slotIoType_eq_reader]
      omega
    · rw [type, slotIoType_eq_output]
      omega
    · rw [type, slotIoType_eq_input]
      omega

/-! ### Configured layouts -/

theorem readIntField_le {item : Option Int} {max fallback : Nat} (bound : fallback ≤ max) :
    readIntField item max fallback ≤ max := by
  unfold readIntField
  split
  next => exact bound
  next value =>
    split
    next => omega
    next => exact bound

theorem readIntField_natCast {value max fallback : Nat} (within : value ≤ max) :
    readIntField (some value) max fallback = value := by
  rw [readIntField, if_pos (by omega), Int.toNat_natCast]

/-- The layouts a configuration can have. -/
structure AcuModuleLayout.Admitted (layout : AcuModuleLayout) : Prop where
  moduleCount : layout.moduleCount ≤ idtiModuleCountV2
  readers : layout.readers ≤ idtiModuleIoSlots
  inputs : layout.inputs ≤ idtiModuleIoSlots
  outputs : layout.outputs ≤ idtiModuleIoSlots
  alarmFireInputs : layout.alarmFireInputs ≤ idtiModuleIoSlots
  moduleType : layout.moduleType ≤ 255
  installType : layout.installType ≤ 2

theorem admitted_iff (layout : AcuModuleLayout) :
    layout.Admitted ↔ ∃ fields, configLoadLayout fields = layout := by
  constructor
  · intro admitted
    refine ⟨⟨some layout.moduleCount, some layout.readers, some layout.inputs,
      some layout.outputs, some layout.alarmFireInputs, some layout.moduleType,
      some layout.installType⟩, ?_⟩
    unfold configLoadLayout
    rw [readIntField_natCast admitted.moduleCount, readIntField_natCast admitted.readers,
      readIntField_natCast admitted.inputs, readIntField_natCast admitted.outputs,
      readIntField_natCast admitted.alarmFireInputs, readIntField_natCast admitted.moduleType,
      readIntField_natCast admitted.installType]
  · rintro ⟨fields, rfl⟩
    constructor
    all_goals exact readIntField_le (by decide)

/-- A unit with a layout from its configuration file. -/
def AcuNet.configured (net : AcuNet) (fields : LayoutFields) : AcuNet :=
  { net with layout := configLoadLayout fields }

/-- For every layout that can be configured: reports, settings and relays agree exactly when
there are no modules, or each has two readers, six inputs, four outputs and at least two
alarm and fire inputs. -/
theorem slotsAgree_iff (net : AcuNet) (clock : Clock) (fields : LayoutFields) :
    SlotsAgree (net.configured fields) clock ↔
      (configLoadLayout fields).moduleCount = 0 ∨
        (configLoadLayout fields).readers = 2 ∧ (configLoadLayout fields).inputs = 6 ∧
          (configLoadLayout fields).outputs = 4 ∧
            2 ≤ (configLoadLayout fields).alarmFireInputs := by
  have admitted := (admitted_iff _).mpr ⟨fields, rfl⟩
  rw [slotsAgree_iff_slotIoType admitted.moduleCount, slotIoType_eq_fixed_iff]
  rfl

/-- The default counts with one reader a module. -/
def oneReader : LayoutFields :=
  { moduleCount := none
    moduleReaders := some 1
    moduleInputs := none
    moduleOutputs := none
    moduleAlarmFireInputs := none
    moduleType := none
    moduleInstallType := none }

/-- Its second slot is reported as an input and takes reader settings. -/
theorem oneReader_disagrees :
    ¬ ∀ net clock fields, SlotsAgree (AcuNet.configured net fields) clock := by
  intro every
  have agree := every AcuNet.initial (StartUp.first fun _ => .accepted 4096).clock oneReader
  have few : (AcuNet.initial.configured oneReader).layout.moduleCount ≤ idtiModuleCountV2 := by
    decide
  rcases (slotsAgree_iff_slotIoType few).mp agree with none | same
  · exact absurd none (by decide)
  · exact absurd (same 1 (by decide)) (by decide)

end Acud
