/-
Module: Acud.Proofs.ResponseView
Purpose: What the client prints about a packet is what the device put into it.
Trusted boundary: none
Main exports:
  shownTime, shownModules, shownDevice, shownEvent, shownBatch, shownFirmware,
  parseResponse_bytes, deviceLines_status, eventLines_batch
-/
import Acud.Lib.Blocks
import Acud.ParseResponse
import Acud.Proofs.ClientFrames
import Acud.Proofs.Responses
import Mathlib.Algebra.Group.Nat.Defs
import Mathlib.Data.List.Count

namespace Acud

open Lib
open IdtiClient (Line parseResponse bcd)

/-!
The `shown` definitions say what a reader should see: the time, the modules and their totals,
the events with their fields.  They are written from the device's state, in numbers; the
theorems say that the client's functions print just that from the bytes.

[SRC src/tools/idti_client.py, src/acud/net.c, src/acud/protocol.c]
-/

/-! ### Times -/

theorem bcd_digits : ∀ digits < 100,
    bcd (((digits / 10).toUInt8 <<< (4 : UInt8)) ||| (digits % 10).toUInt8) = digits := by
  decide +kernel

/-- Two digits are written, and they are read back. -/
theorem bcd_idtiToBcd (value : Int) : bcd (idtiToBcd value) = (value.tmod 100).toNat := by
  have bound : value.tmod 100 < 100 := Int.tmod_lt_of_pos value (by decide)
  exact bcd_digits (value.tmod 100).toNat (by omega)

/-- Year of the century, month, day, hour, minute and second. -/
def shownTime (tm : Tm) : List Nat :=
  [(tm.year + 1900).tmod 100, tm.mon + 1, tm.mday, tm.hour, tm.min, tm.sec].map
    fun value => (value.tmod 100).toNat

theorem map_bcd_bcdTime (tm : Tm) : (bcdTime tm).map bcd = shownTime tm := by
  unfold bcdTime shownTime
  rw [List.map_map]
  exact List.map_congr_left fun value _ => bcd_idtiToBcd value

/-! ### Modules -/

/-- The reader slots, the input slots and the output slots of one module: what does not fit
into its 14 slots is left out, and alarm and fire inputs come last. -/
def shownReaders (layout : AcuModuleLayout) : Nat :=
  min layout.readers 14

def shownOutputs (layout : AcuModuleLayout) : Nat :=
  min layout.outputs (14 - layout.readers - layout.inputs)

def shownInputs (layout : AcuModuleLayout) : Nat :=
  min layout.inputs (14 - layout.readers) +
    min layout.alarmFireInputs (14 - layout.readers - layout.inputs - layout.outputs)

/-- What the slots of a module are, with zero for a free one. -/
def shownCategory (layout : AcuModuleLayout) : List Nat :=
  (slotTypes layout).map UInt8.toNat ++
    List.replicate (idtiModuleIoSlots - (slotTypes layout).length) 0

/-- Readers are category 2, inputs 3 and outputs 4. -/
def shownTotals (layout : AcuModuleLayout) : List (Nat × Nat) :=
  let modules := min layout.moduleCount idtiModuleCountV2
  [(2, modules * shownReaders layout), (3, modules * shownInputs layout),
    (4, modules * shownOutputs layout)].filter fun total => total.2 ≠ 0

def shownModules (layout : AcuModuleLayout) : List Line :=
  (List.range (min layout.moduleCount idtiModuleCountV2)).map (fun index =>
      .moduleAt (index + 1) layout.moduleType.toUInt8.toNat layout.installType.toUInt8.toNat
        (shownCategory layout)) ++
    [IdtiClient.totalsLine (shownTotals layout)]

section Modules

variable (layout : AcuModuleLayout)

theorem mem_slotTypes {ioType : UInt8} (member : ioType ∈ slotTypes layout) :
    ioType = idtiIotypeProximityReader ∨ ioType = idtiIotypeInputSensor ∨
      ioType = idtiIotypeOutputRelay := by
  have listed := List.mem_of_mem_take member
  simp only [List.mem_append, List.mem_replicate] at listed
  rcases listed with ((⟨_, reader⟩ | ⟨_, input⟩) | ⟨_, output⟩) | ⟨_, input⟩
  · exact .inl reader
  · exact .inr (.inl input)
  · exact .inr (.inr output)
  · exact .inr (.inl input)

theorem count_slotTypes :
    (slotTypes layout).count idtiIotypeProximityReader = shownReaders layout ∧
      (slotTypes layout).count idtiIotypeInputSensor = shownInputs layout ∧
      (slotTypes layout).count idtiIotypeOutputRelay = shownOutputs layout := by
  have readerInput : (idtiIotypeProximityReader == idtiIotypeInputSensor) = false := rfl
  have readerOutput : (idtiIotypeProximityReader == idtiIotypeOutputRelay) = false := rfl
  have inputReader : (idtiIotypeInputSensor == idtiIotypeProximityReader) = false := rfl
  have inputOutput : (idtiIotypeInputSensor == idtiIotypeOutputRelay) = false := rfl
  have outputReader : (idtiIotypeOutputRelay == idtiIotypeProximityReader) = false := rfl
  have outputInput : (idtiIotypeOutputRelay == idtiIotypeInputSensor) = false := rfl
  simp only [slotTypes, List.take_append, List.take_replicate, List.length_append,
    List.length_replicate, List.count_append, List.count_replicate, readerInput, readerOutput,
    inputReader, inputOutput, outputReader, outputInput, beq_self_eq_true, if_true,
    Bool.false_eq_true, if_false]
  unfold shownReaders shownInputs shownOutputs idtiModuleIoSlots
  omega

/-- The category is the upper half of a slot. -/
theorem slotCategory_slot {ioType : UInt8} (member : ioType ∈ slotTypes layout) :
    IdtiClient.slotCategory ((ioType <<< 4) ||| idtiIostatusInactive) = ioType.toNat := by
  rcases mem_slotTypes layout member with rfl | rfl | rfl
  all_goals decide

theorem moduleEntry_slots :
    ((moduleEntry layout).drop 2).map IdtiClient.slotCategory = shownCategory layout := by
  have slots : (moduleEntry layout).drop 2 =
      (slotTypes layout).map (fun ioType : UInt8 => (ioType <<< 4) ||| idtiIostatusInactive) ++
        List.replicate (idtiModuleIoSlots - (slotTypes layout).length) 0 := rfl
  rw [slots, List.map_append, List.map_map, List.map_replicate]
  unfold shownCategory
  refine congrArg₂ (· ++ ·) (List.map_congr_left fun ioType member => ?_) rfl
  exact slotCategory_slot layout member

theorem countedSlots_entry :
    IdtiClient.countedSlots (moduleEntry layout) = (slotTypes layout).map UInt8.toNat := by
  unfold IdtiClient.countedSlots
  rw [moduleEntry_slots, shownCategory, List.filter_append, List.filter_eq_self.mpr,
    List.filter_eq_nil_iff.mpr, List.append_nil]
  · intro category member
    rw [List.eq_of_mem_replicate member]
    decide
  · intro category member
    obtain ⟨ioType, listed, rfl⟩ := List.mem_map.mp member
    rcases mem_slotTypes layout listed with rfl | rfl | rfl
    all_goals decide

theorem count_categories :
    ((slotTypes layout).map UInt8.toNat).count 2 = shownReaders layout ∧
      ((slotTypes layout).map UInt8.toNat).count 3 = shownInputs layout ∧
      ((slotTypes layout).map UInt8.toNat).count 4 = shownOutputs layout := by
  have injective : Function.Injective UInt8.toNat := fun one two same => UInt8.toNat_inj.mp same
  obtain ⟨readers, inputs, outputs⟩ := count_slotTypes layout
  rw [← readers, ← inputs, ← outputs]
  exact ⟨List.count_map_of_injective _ _ injective idtiIotypeProximityReader,
    List.count_map_of_injective _ _ injective idtiIotypeInputSensor,
    List.count_map_of_injective _ _ injective idtiIotypeOutputRelay⟩

/-- No slot has another category. -/
theorem count_other {category : Nat} (reader : category ≠ 2) (input : category ≠ 3)
    (output : category ≠ 4) : ((slotTypes layout).map UInt8.toNat).count category = 0 := by
  rw [List.count_eq_zero]
  intro member
  obtain ⟨ioType, listed, rfl⟩ := List.mem_map.mp member
  rcases mem_slotTypes layout listed with rfl | rfl | rfl
  · exact reader rfl
  · exact input rfl
  · exact output rfl

/-- The totals over some modules of this layout. -/
theorem sortedTotals_modules (modules : List Nat) :
    IdtiClient.sortedTotals (modules.flatMap fun _ => (slotTypes layout).map UInt8.toNat) =
      [(2, modules.length * shownReaders layout), (3, modules.length * shownInputs layout),
        (4, modules.length * shownOutputs layout)].filter fun total => total.2 ≠ 0 := by
  obtain ⟨readers, inputs, outputs⟩ := count_categories layout
  have count : ∀ category,
      (modules.flatMap fun _ => (slotTypes layout).map UInt8.toNat).count category =
        modules.length * ((slotTypes layout).map UInt8.toNat).count category := by
    intro category
    induction modules with
    | nil => simp
    | cons index modules inductionHypothesis =>
        rw [List.flatMap_cons, List.count_append, inductionHypothesis, List.length_cons,
          Nat.succ_mul, Nat.add_comm]
  have all : List.range 16 = [0, 1] ++ [2, 3, 4] ++ [5, 6, 7, 8, 9, 10, 11, 12, 13, 14, 15] := rfl
  have zero : ∀ category, category ≠ 2 → category ≠ 3 → category ≠ 4 →
      (modules.flatMap fun _ => (slotTypes layout).map UInt8.toNat).count category = 0 := by
    intro category reader input output
    rw [count, count_other layout reader input output, Nat.mul_zero]
  have none : ∀ categories : List Nat,
      (∀ category ∈ categories, category ≠ 2 ∧ category ≠ 3 ∧ category ≠ 4) →
        (categories.map fun category => (category,
          (modules.flatMap fun _ => (slotTypes layout).map UInt8.toNat).count category)).filter
            (fun total => total.2 ≠ 0) = [] := by
    intro categories others
    rw [List.filter_eq_nil_iff]
    intro total member
    obtain ⟨category, listed, rfl⟩ := List.mem_map.mp member
    obtain ⟨reader, input, output⟩ := others category listed
    simp [zero category reader input output]
  unfold IdtiClient.sortedTotals
  rw [all, List.map_append, List.map_append, List.filter_append, List.filter_append,
    none [0, 1] (by decide), none [5, 6, 7, 8, 9, 10, 11, 12, 13, 14, 15] (by decide),
    List.nil_append, List.append_nil]
  simp only [List.map_cons, List.map_nil, count, readers, inputs, outputs]

end Modules

/-! ### The device status -/

/-- The lines of a device status. -/
def shownDevice (net : AcuNet) (clock : Clock) : List Line :=
  .status (256 * net.deviceCategory.toUInt8.toNat + net.deviceType.toUInt8.toNat)
    (shownTime (clock.localtime clock.now))
    (2 ^ min net.layout.moduleCount idtiModuleCountV2 - 1) :: shownModules net.layout

section Device

variable (net : AcuNet) (clock : Clock)

/-- The existence bits say how many modules there are. -/
theorem existence_bits {count : Nat} (bound : count ≤ idtiModuleCountV2) :
    IdtiClient.fromBytes (be16Bytes (2 ^ count - 1).toUInt16) = 2 ^ count - 1 := by
  have small : 2 ^ count ≤ 2 ^ 14 := Nat.pow_le_pow_right (by decide) bound
  rw [IdtiClient.fromBytes_be16Bytes, Nat.toUInt16_eq, UInt16.toNat_ofNat']
  omega

theorem existing_modules {count : Nat} (bound : count ≤ idtiModuleCountV2) :
    (List.range IdtiClient.moduleCount).filter
      (fun index => (2 ^ count - 1).testBit index) = List.range count := by
  have split : List.range IdtiClient.moduleCount =
      List.range count ++ (List.range (idtiModuleCountV2 - count)).map (count + ·) := by
    rw [← List.range_add, Nat.add_sub_cancel' bound]
    rfl
  rw [split, List.filter_append, List.filter_eq_self.mpr, List.filter_eq_nil_iff.mpr,
    List.append_nil]
  · intro index member
    obtain ⟨offset, _, rfl⟩ := List.mem_map.mp member
    simp [Nat.testBit_two_pow_sub_one]
  · intro index member
    rw [Nat.testBit_two_pow_sub_one]
    exact decide_eq_true (List.mem_range.mp member)

theorem moduleEntryOf_status {index : Nat}
    (inside : index < min net.layout.moduleCount idtiModuleCountV2) :
    IdtiClient.moduleEntryOf (buildDeviceStatus net clock) index = moduleEntry net.layout := by
  have status : buildDeviceStatus net clock =
      (([net.deviceCategory.toUInt8, net.deviceType.toUInt8] ++
          bcdTime (clock.localtime clock.now)) ++
        be16Bytes (2 ^ min net.layout.moduleCount idtiModuleCountV2 - 1).toUInt16) ++
        ((List.replicate (min net.layout.moduleCount idtiModuleCountV2)
          (moduleEntry net.layout)).flatten ++
          List.replicate ((idtiModuleCountV2 - min net.layout.moduleCount idtiModuleCountV2) *
            idtiModuleEntryLen) 0) := by
    simp only [buildDeviceStatus, fillModules, List.append_assoc]
  have front : (([net.deviceCategory.toUInt8, net.deviceType.toUInt8] ++
      bcdTime (clock.localtime clock.now)) ++ be16Bytes (2 ^ min net.layout.moduleCount
        idtiModuleCountV2 - 1).toUInt16).length = IdtiClient.moduleArrayOffset := rfl
  unfold IdtiClient.moduleEntryOf
  rw [← List.drop_drop, status, List.drop_left' front]
  apply take_drop_flatten (fun part member => ?_) (List.getElem?_replicate_of_lt inside)
  rw [List.eq_of_mem_replicate member, length_moduleEntry]
  rfl

theorem describeModules_status :
    IdtiClient.describeModules (buildDeviceStatus net clock) = shownModules net.layout := by
  have bound : min net.layout.moduleCount idtiModuleCountV2 ≤ idtiModuleCountV2 :=
    Nat.min_le_right _ _
  have bits : ((buildDeviceStatus net clock).drop 8).take 2 =
      be16Bytes (2 ^ min net.layout.moduleCount idtiModuleCountV2 - 1).toUInt16 := rfl
  have entries : ∀ index ∈ List.range (min net.layout.moduleCount idtiModuleCountV2),
      IdtiClient.moduleEntryOf (buildDeviceStatus net clock) index = moduleEntry net.layout :=
    fun index member => moduleEntryOf_status net clock (List.mem_range.mp member)
  unfold IdtiClient.describeModules shownModules
  simp only [bits, existence_bits bound, existing_modules bound]
  refine congrArg₂ (· ++ ·) (List.map_congr_left fun index member => ?_) ?_
  · rw [entries index member, IdtiClient.moduleLine, moduleEntry_slots]
    rfl
  · have counted : ((List.range (min net.layout.moduleCount idtiModuleCountV2)).flatMap
        fun index => IdtiClient.countedSlots
          (IdtiClient.moduleEntryOf (buildDeviceStatus net clock) index)) =
        (List.range (min net.layout.moduleCount idtiModuleCountV2)).flatMap
          fun _ => (slotTypes net.layout).map UInt8.toNat := by
      apply List.flatMap_congr
      intro index member
      rw [entries index member, countedSlots_entry]
    rw [counted, sortedTotals_modules, List.length_range]
    rfl

theorem deviceLines_status :
    IdtiClient.deviceLines (buildDeviceStatus net clock) = shownDevice net clock := by
  have bound : min net.layout.moduleCount idtiModuleCountV2 ≤ idtiModuleCountV2 :=
    Nat.min_le_right _ _
  have bits : ((buildDeviceStatus net clock).drop 8).take 2 =
      be16Bytes (2 ^ min net.layout.moduleCount idtiModuleCountV2 - 1).toUInt16 := rfl
  have time : ((buildDeviceStatus net clock).drop 2).take 6 =
      bcdTime (clock.localtime clock.now) := rfl
  have kind : IdtiClient.fromBytes ((buildDeviceStatus net clock).take 2) =
      256 * net.deviceCategory.toUInt8.toNat + net.deviceType.toUInt8.toNat := by
    show 256 * (256 * 0 + _) + _ = _
    rw [Nat.mul_zero, Nat.zero_add]
  unfold IdtiClient.deviceLines shownDevice
  rw [bits, existence_bits bound, time, map_bcd_bcdTime, kind, describeModules_status]

end Device

/-! ### Events -/

/-- The lines of one event. -/
def shownEvent (localtime : Int → Tm) (number : Option Nat) (event : AcuEvent) : List Line :=
  [.event number event.eventCode.toNat,
    .eventPlace event.opMode event.moduleAddr event.readerAddr event.doorStatus event.funcCode,
    .eventTime (shownTime (localtime event.ts)) event.id.bytes]

theorem eventText_info (clock : Clock) (number : Option Nat) (event : AcuEvent) :
    IdtiClient.eventText number (buildEventInfo clock event) =
      shownEvent clock.localtime number event := by
  have code : (buildEventInfo clock event).take 4 = be32Bytes event.eventCode := rfl
  have time : ((buildEventInfo clock event).drop 10).take 6 =
      bcdTime (clock.localtime event.ts) := rfl
  have id : ((buildEventInfo clock event).drop 16).take 8 = event.id.bytes := by
    have behind : (buildEventInfo clock event).drop 16 =
        event.id.bytes ++ ([0x00, 0x00, 0x00, 0x01] ++ List.replicate 8 0) := by
      rw [← List.append_assoc]
      rfl
    rw [behind]
    exact List.take_left' event.id.length_eq
  unfold IdtiClient.eventText shownEvent
  rw [code, time, id, IdtiClient.fromBytes_be32Bytes, map_bcd_bcdTime]
  rfl

/-- Numbered events, as the lines of a batch. -/
def shownNumbered (localtime : Int → Tm) (events : List (AcuEvent × Nat)) : List Line :=
  events.flatMap fun numbered => shownEvent localtime (some numbered.2) numbered.1

/-- A long batch is shown by its first three and its last two events. -/
def shownBatch (localtime : Int → Tm) : List AcuEvent → List Line
  | [] => [.noEvent]
  | [event] => shownEvent localtime none event
  | batch =>
      .eventCount batch.length ::
        (if batch.length ≤ 5 then shownNumbered localtime (batch.zipIdx 1)
        else
          shownNumbered localtime ((batch.take 3).zipIdx 1) ++ [.omitted (batch.length - 5)] ++
            shownNumbered localtime ((batch.drop (batch.length - 2)).zipIdx (batch.length - 1)))

section Events

variable (clock : Clock)

/-- The block with a number is the event with that number. -/
theorem slice_historyData {batch : List AcuEvent} {index : Nat} {event : AcuEvent}
    (found : batch[index]? = some event) :
    ((batch.flatMap (buildEventInfo clock)).drop (index * IdtiClient.eventInfoLen)).take
      IdtiClient.eventInfoLen = buildEventInfo clock event := by
  have block : (batch.map (buildEventInfo clock))[index]? = some (buildEventInfo clock event) := by
    rw [List.getElem?_map, found]
    rfl
  have slice := take_drop_flatten
    (fun part member => by
      obtain ⟨stored, _, rfl⟩ := List.mem_map.mp member
      exact length_buildEventInfo clock stored) block []
  rwa [List.append_nil, ← List.flatMap_def] at slice

theorem length_batch (batch : List AcuEvent) :
    (batch.flatMap (buildEventInfo clock)).length / IdtiClient.eventInfoLen = batch.length := by
  have length : (batch.flatMap (buildEventInfo clock)).length =
      batch.length * IdtiClient.eventInfoLen := by
    simp only [List.length_flatMap, length_buildEventInfo, List.map_const', List.sum_replicate_nat]
    rfl
  rw [length]
  exact Nat.mul_div_cancel _ (by decide)

/-- A part of the batch that is shown whole. -/
theorem eventAt_part {batch front part back : List AcuEvent}
    (cut : batch = front ++ part ++ back) (many : 1 < batch.length)
    (visible : ∀ index, front.length ≤ index → index < front.length + part.length →
      IdtiClient.isShown batch.length index = true) :
    (List.range' front.length part.length).flatMap
      (IdtiClient.eventAt (batch.flatMap (buildEventInfo clock)) batch.length) =
        shownNumbered clock.localtime (part.zipIdx (front.length + 1)) := by
  induction part generalizing front with
  | nil => rfl
  | cons event part inductionHypothesis =>
      have found : batch[front.length]? = some event := by
        rw [cut, List.append_assoc, List.getElem?_append_right (Nat.le_refl _), Nat.sub_self]
        rfl
      have here : IdtiClient.eventAt (batch.flatMap (buildEventInfo clock)) batch.length
          front.length = shownEvent clock.localtime (some (front.length + 1)) event := by
        have seen := visible front.length (Nat.le_refl _) (by simp)
        rw [IdtiClient.eventAt, if_pos seen, if_pos many, slice_historyData clock found,
          eventText_info]
      have later := @inductionHypothesis (front ++ [event]) (by rw [cut]; simp)
        (fun index low high => visible index (by simp at low; omega) (by simp at high ⊢; omega))
      rw [List.length_append, List.length_singleton] at later
      rw [List.length_cons, List.range'_succ, List.flatMap_cons, here, later]
      rfl

theorem eventLines_single (event : AcuEvent) :
    IdtiClient.eventLines ([event].flatMap (buildEventInfo clock)) =
      shownEvent clock.localtime none event := by
  have slice := @slice_historyData clock [event] 0 event rfl
  have one : ([event] : List AcuEvent).length = 1 := rfl
  have shown : IdtiClient.eventAt ([event].flatMap (buildEventInfo clock)) 1 0 =
      shownEvent clock.localtime none event := by
    rw [IdtiClient.eventAt, if_pos (by decide), if_neg (Nat.lt_irrefl 1), slice, eventText_info]
  unfold IdtiClient.eventLines
  rw [length_batch, one, if_neg Nat.one_ne_zero, if_neg (Nat.lt_irrefl 1), List.range_one,
    List.flatMap_cons, shown]
  simp

/-- Behind the first three and in front of the last two, one line tells how many are left
out. -/
theorem eventAt_middle {batch : List AcuEvent} (long : 5 < batch.length) :
    (List.range' 3 (batch.length - 5)).flatMap
      (IdtiClient.eventAt (batch.flatMap (buildEventInfo clock)) batch.length) =
        [.omitted (batch.length - 5)] := by
  have hidden : ∀ index, 3 ≤ index → index < batch.length - 2 →
      IdtiClient.eventAt (batch.flatMap (buildEventInfo clock)) batch.length index =
        if index = 3 then [.omitted (batch.length - 5)] else [] := by
    intro index low high
    have unseen : ¬ IdtiClient.isShown batch.length index = true := by
      unfold IdtiClient.isShown IdtiClient.shownHead IdtiClient.shownTail
      simp only [Bool.or_eq_true, decide_eq_true_eq]
      omega
    rw [IdtiClient.eventAt, if_neg unseen, Nat.sub_sub]
    rfl
  have front : List.range' 3 (batch.length - 5) = 3 :: List.range' 4 (batch.length - 6) := by
    have count : batch.length - 5 = (batch.length - 6) + 1 := by omega
    rw [count, List.range'_succ]
  have rest : (List.range' 4 (batch.length - 6)).flatMap
      (IdtiClient.eventAt (batch.flatMap (buildEventInfo clock)) batch.length) = [] := by
    rw [List.flatMap_eq_nil_iff]
    intro index member
    have bounds := List.mem_range'_1.mp member
    rw [hidden index (by omega) (by omega), if_neg (by omega)]
  rw [front, List.flatMap_cons, rest, hidden 3 (Nat.le_refl 3) (by omega), if_pos rfl,
    List.append_nil]

/-- A long batch is cut into its front, its middle and its back. -/
theorem eventAt_long {batch : List AcuEvent} (long : 5 < batch.length) :
    (List.range batch.length).flatMap
      (IdtiClient.eventAt (batch.flatMap (buildEventInfo clock)) batch.length) =
        shownNumbered clock.localtime ((batch.take 3).zipIdx 1) ++
          [.omitted (batch.length - 5)] ++
          shownNumbered clock.localtime
            ((batch.drop (batch.length - 2)).zipIdx (batch.length - 1)) := by
  have cut : List.range batch.length =
      List.range' 0 3 ++ List.range' 3 (batch.length - 5) ++
        List.range' (batch.length - 2) 2 := by
    have early := @List.range'_append_1 0 3 (batch.length - 5)
    have late := @List.range'_append_1 0 (3 + (batch.length - 5)) 2
    have back : 0 + (3 + (batch.length - 5)) = batch.length - 2 := by omega
    have whole : 3 + (batch.length - 5) + 2 = batch.length := by omega
    rw [back, whole, ← early, Nat.zero_add] at late
    rw [List.range_eq_range', late]
  have headLength : (batch.take 3).length = 3 := List.length_take_of_le (by omega)
  have tailLength : (batch.drop (batch.length - 2)).length = 2 := by
    rw [List.length_drop]
    omega
  have frontLength : (batch.take (batch.length - 2)).length = batch.length - 2 :=
    List.length_take_of_le (by omega)
  have head := @eventAt_part clock batch [] (batch.take 3) (batch.drop 3)
    (by rw [List.nil_append, List.take_append_drop]) (by omega)
    (fun index _ high => by
      rw [headLength, List.length_nil] at high
      unfold IdtiClient.isShown IdtiClient.shownHead
      simp only [Bool.or_eq_true, decide_eq_true_eq]
      omega)
  have tail := @eventAt_part clock batch (batch.take (batch.length - 2))
    (batch.drop (batch.length - 2)) [] (by rw [List.append_nil, List.take_append_drop]) (by omega)
    (fun index low _ => by
      rw [frontLength] at low
      unfold IdtiClient.isShown IdtiClient.shownTail
      simp only [Bool.or_eq_true, decide_eq_true_eq]
      omega)
  rw [headLength, List.length_nil] at head
  rw [tailLength, frontLength] at tail
  have number : batch.length - 2 + 1 = batch.length - 1 := by omega
  rw [number] at tail
  rw [cut, List.flatMap_append, List.flatMap_append, eventAt_middle clock long, head, tail]

theorem eventLines_batch (batch : List AcuEvent) :
    IdtiClient.eventLines (batch.flatMap (buildEventInfo clock)) =
      shownBatch clock.localtime batch := by
  rcases batch with _ | ⟨first, _ | ⟨second, rest⟩⟩
  · unfold IdtiClient.eventLines
    rw [length_batch, List.length_nil, if_pos rfl]
    rfl
  · exact eventLines_single clock first
  · have many : 1 < (first :: second :: rest).length := by simp
    unfold IdtiClient.eventLines shownBatch
    simp only [length_batch]
    generalize first :: second :: rest = batch at many ⊢
    rw [if_neg (by omega), if_pos many]
    rcases Nat.lt_or_ge 5 batch.length with long | short
    · rw [if_neg (Nat.not_le.mpr long), eventAt_long clock long]
      rfl
    · have all := @eventAt_part clock batch [] batch []
        (by rw [List.nil_append, List.append_nil]) many
        (fun index _ high => by
          rw [List.length_nil, Nat.zero_add] at high
          unfold IdtiClient.isShown IdtiClient.shownHead IdtiClient.shownTail
          simp only [Bool.or_eq_true, decide_eq_true_eq]
          omega)
      rw [List.length_nil, ← List.range_eq_range'] at all
      rw [if_pos short, all]
      rfl

end Events

/-! ### Packets -/

/-- The lines about the firmware; its version and its date are fixed. -/
def shownFirmware (net : AcuNet) : List Line :=
  [.firmware net.deviceCategory.toUInt8 net.deviceType.toUInt8 [1, 0, 0, 0],
    .builtAt [26, 9, 8, 0, 0, 0]]

theorem firmwareLines_info (net : AcuNet) :
    IdtiClient.firmwareLines (buildFirmwareInfo net) = shownFirmware net := by
  have size : IdtiClient.firmwareInfoLen ≤ (buildFirmwareInfo net).length := by
    rw [length_buildFirmwareInfo]
    decide
  have built : ((buildFirmwareInfo net).drop 6).take 6 = [26, 9, 8, 0, 0, 0].map idtiToBcd := rfl
  have date : ([26, 9, 8, 0, 0, 0].map idtiToBcd).map bcd = [26, 9, 8, 0, 0, 0] := by decide
  rw [IdtiClient.firmwareLines, if_pos size, built, date]
  rfl

/-- The lines in front of the device status. -/
def shownPacket (packet : IdtiPacket) (excluded : Bool) : List Line :=
  [.received packet.totalLen packet.totalLen 2,
    .command packet.command packet.subCommand packet.object,
    .dataBlock packet.dataCurrent.toNat packet.dataEnd.toNat packet.dataTotal.toNat
      packet.dataOneLen.toNat,
    .frameOption packet.sentOption.toNat excluded]

def shownStatus (excluded : Bool) (net : AcuNet) (clock : Clock) : List Line :=
  if excluded then [.statusExcluded] else shownDevice net clock

section Packets

variable {packet : IdtiPacket}

/-- The bytes from the command option on. -/
theorem drop_bytes (packet : IdtiPacket) :
    packet.bytes.drop 28 =
      [0x00, packet.command, packet.subCommand, xorBytes packet.checked, 0x00, packet.object,
        packet.startItem, packet.endItem] ++
      (be16Bytes packet.dataCurrent ++ (be16Bytes packet.dataEnd ++
        (be16Bytes packet.dataTotal ++ (be16Bytes packet.dataOneLen ++
          (packet.data ++ [idtiPacketChecksumFixed, idtiEtx]))))) := by
  have front : packet.bytes =
      ([idtiStx] ++ be16Bytes packet.totalLen.toUInt16 ++ [idtiProtocolVersionV2] ++
        be16Bytes packet.sentOption ++ [idtiHeaderLenV2.toUInt8] ++ packet.destAddr.bytes ++
        packet.srcAddr.bytes ++ be32Bytes packet.frameIndex ++ be32Bytes packet.password) ++
      ([0x00, packet.command, packet.subCommand, xorBytes packet.checked, 0x00, packet.object,
        packet.startItem, packet.endItem] ++
      (be16Bytes packet.dataCurrent ++ (be16Bytes packet.dataEnd ++
        (be16Bytes packet.dataTotal ++ (be16Bytes packet.dataOneLen ++
          (packet.data ++ [idtiPacketChecksumFixed, idtiEtx])))))) := by
    simp [IdtiPacket.bytes, IdtiPacket.checked]
  rw [front]
  apply List.drop_left'
  simp [be16Bytes, be32Bytes, packet.destAddr.length_eq, packet.srcAddr.length_eq,
    idtiAddrDestLen, idtiAddrSrcLen]

theorem getD_bytes (packet : IdtiPacket) (offset : Nat) :
    packet.bytes.getD (28 + offset) 0 = (packet.bytes.drop 28).getD offset 0 := by
  rw [List.getD_eq_getElem?_getD, List.getD_eq_getElem?_getD, List.getElem?_drop]

theorem last_bytes (packet : IdtiPacket) :
    packet.bytes.getD (packet.bytes.length - 1) 0 = idtiEtx := by
  rw [List.getD_eq_getElem?_getD, ← List.getLast?_eq_getElem?, IdtiClient.bytes_eq]
  simp

theorem headLines_bytes (short : packet.totalLen ≤ 65535) :
    IdtiClient.headLines packet.bytes =
      shownPacket packet (packet.sentOption &&& idtiFoptExcludeDeviceStatus != 0) := by
  obtain ⟨rest, front⟩ := IdtiClient.bytes_front packet
  have size : packet.bytes.length = packet.totalLen := by
    have total : packet.totalLen = 44 + packet.data.length + 2 := rfl
    have length := packet.length_bytes
    omega
  have field : IdtiClient.packetLength packet.bytes = packet.totalLen := by
    have long : IdtiClient.headerLen ≤ packet.bytes.length := by
      have length := packet.length_bytes
      unfold IdtiClient.headerLen
      omega
    rw [IdtiClient.packetLength_of_front short (List.prefix_refl _) long, size]
  have version : packet.bytes.getD 3 0 = idtiProtocolVersionV2 := by
    rw [front]
    rfl
  have stx : packet.bytes.getD 0 0 = idtiStx := by
    rw [front]
    rfl
  have command : packet.bytes.getD 29 0 = packet.command := by
    rw [getD_bytes packet 1, drop_bytes]
    rfl
  have sub : packet.bytes.getD 30 0 = packet.subCommand := by
    rw [getD_bytes packet 2, drop_bytes]
    rfl
  have object : packet.bytes.getD 33 0 = packet.object := by
    rw [getD_bytes packet 5, drop_bytes]
    rfl
  have block : ∀ offset, (packet.bytes.drop (28 + offset)).take 2 =
      ((packet.bytes.drop 28).drop offset).take 2 := by
    intro offset
    rw [List.drop_drop]
  have current : (packet.bytes.drop 36).take 2 = be16Bytes packet.dataCurrent := by
    rw [block 8, drop_bytes]
    rfl
  have last : (packet.bytes.drop 38).take 2 = be16Bytes packet.dataEnd := by
    rw [block 10, drop_bytes]
    rfl
  have total : (packet.bytes.drop 40).take 2 = be16Bytes packet.dataTotal := by
    rw [block 12, drop_bytes]
    rfl
  have one : (packet.bytes.drop 42).take 2 = be16Bytes packet.dataOneLen := by
    rw [block 14, drop_bytes]
    rfl
  unfold IdtiClient.headLines shownPacket
  rw [size, field, version, stx, command, sub, object, current, last, total, one,
    IdtiClient.option_bytes, IdtiClient.excludesStatus_bytes, ← size, last_bytes,
    if_pos rfl, if_pos rfl]
  simp only [IdtiClient.fromBytes_be16Bytes]
  rfl

/-- The status of a packet is printed as it is, or as left out; and then the data is printed
as it belongs to the object. -/
theorem parseResponse_bytes (short : packet.totalLen ≤ 65535) {excluded : Bool} {net : AcuNet}
    {clock : Clock} {data : Bytes}
    (option : (packet.sentOption &&& idtiFoptExcludeDeviceStatus != 0) = excluded)
    (payload : packet.data = (if excluded then [] else buildDeviceStatus net clock) ++ data) :
    parseResponse packet.bytes =
      shownPacket packet excluded ++ shownStatus excluded net clock ++
        IdtiClient.contentLines packet.object data := by
  have long : ¬ packet.bytes.length < IdtiClient.headerLen := by
    have length := packet.length_bytes
    unfold IdtiClient.headerLen
    omega
  have object : packet.bytes.getD 33 0 = packet.object := by
    rw [getD_bytes packet 5, drop_bytes]
    rfl
  have excludes : IdtiClient.excludesStatus packet.bytes = excluded := by
    rw [IdtiClient.excludesStatus_bytes, option]
  have status : (buildDeviceStatus net clock).length = IdtiClient.deviceStatusV2Len :=
    length_buildDeviceStatus net clock
  have head := headLines_bytes short
  rw [option] at head
  rw [parseResponse, if_neg long, head, object]
  unfold IdtiClient.statusLines IdtiClient.withoutStatus
  simp only [excludes, IdtiClient.packetBody_bytes, payload]
  cases excluded with
  | true => simp [shownStatus]
  | false =>
      have enough :
          IdtiClient.deviceStatusV2Len ≤ (buildDeviceStatus net clock ++ data).length := by
        rw [List.length_append, status]
        exact Nat.le_add_right _ _
      simp only [Bool.false_eq_true, if_false, Bool.not_false, Bool.true_and, if_pos enough,
        decide_eq_true enough, if_true, List.take_left' status, List.drop_left' status,
        deviceLines_status, shownStatus]

end Packets

end Acud
