/-
Module: Acud.Proofs.SettingStore
Purpose: A stored setting block is read back until its place is written again.
Trusted boundary: none
Main exports:
  settingReadReply, settingWriteReply, settingPlace, SettingRequest, settingStep,
  SettingEffect, WriteKept, write_kept, higher_slot_not_stored, settings_read_back
-/
import Acud.Lib.Machine
import Acud.Proofs.ReceiveLoop
import Acud.Proofs.RequestEffects

namespace Acud

open Lib

/-!
A request names an object, a module and a bitmap of slots.  Where a block is kept follows
from these by a rule of its own for each object, and a request that selects several slots
is about the lowest one.  `settingPlace` is that rule, the same for reads and writes, and
what is read back is told by places.

[SRC src/acud/net.c, src/acud/devset.c, src/tools/setting_all_test.py]
-/

/-! ### Replies -/

/-- The data of the reply to a read. -/
def settingReadReply (s : NetSys) (hdr : IdtiHeader) : Option Bytes :=
  if hdr.isRequest idtiCmdReqData idtiSubcmdRead = false then none
  else
    (findSettingSpec hdr.object).map fun spec =>
      match settingKey s.net hdr spec with
      | none => [idtiAckFail]
      | some key =>
          match settingStored s spec key with
          | .found data => data
          | _ => if spec.object = idtiObjDevice then deviceBasisDefault s.net else [idtiAckFail]

/-- The result byte of the reply to a write. -/
def settingWriteReply (s : NetSys) (hdr : IdtiHeader) (pkt : Memory) : Option UInt8 :=
  if hdr.isRequest idtiCmdSndData idtiSubcmdChange = false then none
  else
    (findSettingSpec hdr.object).map fun spec =>
      if (settingStore s hdr pkt spec).1.isSome then idtiAckSuccess else idtiAckFail

/-- The handler sends that reply and does nothing else. -/
theorem handleSettingRead_reply (s : NetSys) (hdr : IdtiHeader) :
    handleSettingRead s hdr =
      (settingReadReply s hdr).map fun body =>
        sendBack s (settingHeader hdr) body (BlockIndex.single body.length.toUInt16) := by
  unfold handleSettingRead settingReadReply
  split
  next => rfl
  next =>
    cases findSettingSpec hdr.object with
    | none => rfl
    | some spec =>
        dsimp only [Option.map_some]
        cases settingKey s.net hdr spec with
        | none => rfl
        | some key =>
            dsimp only
            cases settingStored s spec key with
            | found data => rfl
            | notFound =>
                dsimp only
                split
                next => rfl
                next => rfl
            | error =>
                dsimp only
                split
                next => rfl
                next => rfl

/-- The handler stores the block, sends that reply, and then turns to the event and the
callback. -/
theorem handleSettingWrite_reply {s written : NetSys} {hdr : IdtiHeader} {pkt : Memory}
    (handled : handleSettingWrite s hdr pkt = some written) :
    ∃ stored ack, settingWriteReply s hdr pkt = some ack ∧ stored.link = s.link ∧
      written.link = (sendResultAck stored hdr ack).link := by
  unfold handleSettingWrite at handled
  unfold settingWriteReply
  split at handled
  next => cases handled
  next asked =>
    rw [if_neg asked]
    split at handled
    next => cases handled
    next spec found =>
      rw [found]
      split at handled
      next refused stored =>
        cases handled
        refine ⟨refused, idtiAckFail, ?_, ?_, rfl⟩
        · simp only [Option.map_some, stored, Option.isSome_none, Bool.false_eq_true, ↓reduceIte]
        · rw [settingStore_touches stored]
      next key reached stored =>
        cases handled
        refine ⟨reached, idtiAckSuccess, ?_, ?_, ?_⟩
        · simp only [Option.map_some, stored, Option.isSome_some, ↓reduceIte]
        · rw [settingStore_touches stored]
        · rw [settingChanged_eq, settingEvent_eq]

/-! ### Places -/

/-- Where a request reads or writes. -/
def settingPlace (net : AcuNet) (hdr : IdtiHeader) : Option SettingKey :=
  (findSettingSpec hdr.object).bind (settingKey net hdr)

/-- The slot is one of the targets of the request. -/
def IdtiHeader.Selects (hdr : IdtiHeader) (slot : Nat) : Prop :=
  (requestBitmap hdr).toNat.testBit slot = true

/-- The second request is about this slot alone, of the same object and module. -/
structure AloneAt (hdr : IdtiHeader) (slot : Nat) (single : IdtiHeader) : Prop where
  object : single.object = hdr.object
  module : requestModule single = requestModule hdr
  selects : ∀ other, single.Selects other ↔ other = slot

theorem requestSlot_eq_some {hdr : IdtiHeader} {slot : Nat}
    (lowest : requestSlot hdr = some slot) : slot < 32 ∧ hdr.Selects slot := by
  unfold requestSlot at lowest
  have selected := List.find?_some lowest
  have inside := List.mem_of_find?_eq_some lowest
  exact ⟨List.mem_range.mp inside, selected⟩

theorem requestBitmap_ne_zero {hdr : IdtiHeader} {slot : Nat} (selects : hdr.Selects slot) :
    requestBitmap hdr ≠ 0 := by
  intro none
  unfold IdtiHeader.Selects at selects
  rw [none] at selects
  simp at selects

namespace AloneAt

variable {hdr single : IdtiHeader} {slot : Nat}

theorem requestSlot_eq (alone : AloneAt hdr slot single) (inside : slot < 32) :
    requestSlot single = some slot := by
  rw [requestSlot, List.find?_range_eq_some]
  refine ⟨(alone.selects slot).mpr rfl, List.mem_range.mpr inside, ?_⟩
  intro other below
  rw [Bool.not_eq_true', ← Bool.not_eq_true]
  intro selects
  have same := (alone.selects other).mp selects
  omega

/-- A request about the lowest selected slot alone is about the same place. -/
theorem settingPlace_eq (alone : AloneAt hdr slot single) (lowest : requestSlot hdr = some slot)
    (net : AcuNet) : settingPlace net single = settingPlace net hdr := by
  obtain ⟨inside, selected⟩ := requestSlot_eq_some lowest
  have bitmap := requestBitmap_ne_zero selected
  have singleBitmap := requestBitmap_ne_zero ((alone.selects slot).mpr rfl)
  have unit (spec : SettingSpec) : settingUnit single spec = settingUnit hdr spec := by
    simp only [settingUnit, bitmap, singleBitmap, and_false]
  have key : settingKey net single = settingKey net hdr := by
    funext spec
    unfold settingKey
    rw [unit, alone.requestSlot_eq inside, lowest, alone.module]
  rw [settingPlace, settingPlace, alone.object, key]

end AloneAt

/-- The slots a unit can be kept at. -/
def SettingUnit.accepts (unit : SettingUnit) (slot : Nat) : Bool :=
  match unit with
  | .reader => slotIsReader slot
  | .input => slotIsInput slot
  | _ => slotIsOutput slot

/-- Controller settings are kept at one place, all others at the lowest selected slot of a
module that exists. -/
theorem settingKey_eq_some_iff {net : AcuNet} {hdr : IdtiHeader} {spec : SettingSpec}
    {key : SettingKey} :
    settingKey net hdr spec = some key ↔
      (settingUnit hdr spec = .controller ∧
          key = { object := spec.object, module := 0, slot := 0 }) ∨
        (settingUnit hdr spec ≠ .controller ∧
          ∃ slot, requestSlot hdr = some slot ∧ 1 ≤ requestModule hdr ∧
            requestModule hdr ≤ net.layout.moduleCount ∧
            (settingUnit hdr spec).accepts slot = true ∧
            key = { object := spec.object, module := requestModule hdr, slot := slot }) := by
  unfold settingKey
  by_cases controller : settingUnit hdr spec = .controller
  · rw [if_pos controller]
    simp only [controller, true_and, ne_eq, not_true_eq_false, false_and, or_false,
      Option.some.injEq, eq_comm]
  · rw [if_neg controller]
    simp only [controller, false_and, ne_eq, not_false_eq_true, true_and, false_or]
    cases requestSlot hdr with
    | none => simp
    | some slot =>
        show (if _ then none
          else if (settingUnit hdr spec).accepts slot = true then some _ else none) = _ ↔ _
        split
        next outside =>
          simp only [reduceCtorEq, Option.some.injEq, false_iff, not_exists]
          rintro other ⟨_, first, last, _⟩
          omega
        next inside =>
          rw [not_or, Nat.not_lt, Nat.not_lt] at inside
          split
          next accepted =>
            constructor
            · intro same
              cases same
              exact ⟨slot, rfl, inside.1, inside.2, accepted, rfl⟩
            · rintro ⟨other, lowest, _, _, _, rfl⟩
              cases lowest
              rfl
          next refused =>
            simp only [reduceCtorEq, Option.some.injEq, false_iff, not_exists]
            rintro other ⟨rfl, _, _, accepted, _⟩
            exact refused accepted

/-- A place belongs to one object, and so to one block length. -/
theorem settingPlace_spec {net : AcuNet} {hdr : IdtiHeader} {key : SettingKey}
    (place : settingPlace net hdr = some key) :
    ∃ spec, findSettingSpec key.object = some spec ∧ findSettingSpec hdr.object = some spec ∧
      settingKey net hdr spec = some key := by
  obtain ⟨spec, found, addressed⟩ := Option.bind_eq_some_iff.mp place
  refine ⟨spec, ?_, found, addressed⟩
  rw [settingKey_object addressed, (findSettingSpec_object found).2]
  exact found

/-! ### Runs of requests -/

inductive SettingRequest where
  | read (hdr : IdtiHeader)
  | write (hdr : IdtiHeader) (pkt : Memory)
  /-- Everything but the settings and the layout may change between two requests. -/
  | environment (link : Link) (events : AcuEvents) (panel : Panel) (clock : Clock)

def settingStep (s : NetSys) : SettingRequest → Option NetSys
  | .read hdr => handleSettingRead s hdr
  | .write hdr pkt => handleSettingWrite s hdr pkt
  | .environment link events panel clock =>
      some { s with link := link, events := events, panel := panel, clock := clock }

/-- The request is a write that is answered Success, and this is its place. -/
def Rewrites (key : SettingKey) (s : NetSys) (request : SettingRequest) : Prop :=
  ∃ hdr pkt, request = .write hdr pkt ∧ settingPlace s.net hdr = some key ∧
    settingWriteReply s hdr pkt = some idtiAckSuccess

/-- What a request leaves of the settings. -/
inductive SettingEffect (s : NetSys) (request : SettingRequest) (next : NetSys) : Prop where
  | unchanged (none : ∀ key, ¬ Rewrites key s request) (net : next.net = s.net)
      (stored : next.settings.stored = s.settings.stored)
      (table : next.settings.deviceSettings.isSome = s.settings.deviceSettings.isSome)
      (ok : next.settings.faults.ok = s.settings.faults.ok)
  | stored {hdr : IdtiHeader} {pkt : Memory} {spec : SettingSpec} {key : SettingKey}
      (request_eq : request = .write hdr pkt)
      (answered : settingWriteReply s hdr pkt = some idtiAckSuccess)
      (found : findSettingSpec hdr.object = some spec)
      (place : settingKey s.net hdr spec = some key) (net : next.net = s.net)
      (attached : s.net.settingsAttached = true)
      (put : devsetPut s.settings key ((packetData pkt).read 0 spec.len) =
        (true, next.settings))

/-- Neither outcome of a write makes the table come or go. -/
theorem devsetPut_keeps (db : SettingsDb) (key : SettingKey) (data : Bytes) :
    (devsetPut db key data).2.deviceSettings.isSome = db.deviceSettings.isSome ∧
      (devsetPut db key data).2.faults.ok = db.faults.ok := by
  unfold devsetPut
  split
  next => exact ⟨rfl, rfl⟩
  next table present =>
    split
    next => exact ⟨rfl, rfl⟩
    next =>
      split
      next => exact ⟨by rw [present]; rfl, rfl⟩
      next => exact ⟨by rw [present], rfl⟩

theorem settingStore_keeps {s stored : NetSys} {hdr : IdtiHeader} {pkt : Memory}
    {spec : SettingSpec} {key : Option SettingKey}
    (done : settingStore s hdr pkt spec = (key, stored)) :
    stored.settings.deviceSettings.isSome = s.settings.deviceSettings.isSome ∧
      stored.settings.faults.ok = s.settings.faults.ok := by
  unfold settingStore at done
  split at done
  next =>
    cases done
    exact ⟨rfl, rfl⟩
  next =>
    split at done
    next =>
      cases done
      exact ⟨rfl, rfl⟩
    next place _ =>
      split at done
      next =>
        have kept := devsetPut_keeps s.settings place ((packetData pkt).read 0 spec.len)
        split at done
        next put =>
          cases done
          rwa [put] at kept
        next put =>
          cases done
          rwa [put] at kept
      next =>
        cases done
        exact ⟨rfl, rfl⟩

theorem settingWriteReply_handled {s written : NetSys} {hdr : IdtiHeader} {pkt : Memory}
    {spec : SettingSpec} (handled : handleSettingWrite s hdr pkt = some written)
    (found : findSettingSpec hdr.object = some spec) :
    settingWriteReply s hdr pkt =
      some (if (settingStore s hdr pkt spec).1.isSome then idtiAckSuccess else idtiAckFail) := by
  unfold handleSettingWrite at handled
  unfold settingWriteReply
  split at handled
  next => cases handled
  next asked => rw [if_neg asked, found, Option.map_some]

theorem settingStep_effect {s next : NetSys} {request : SettingRequest}
    (stepped : settingStep s request = some next) : SettingEffect s request next := by
  cases request with
  | read hdr =>
      rw [settingStep, handleSettingRead_reply] at stepped
      obtain ⟨body, _, rfl⟩ := Option.map_eq_some_iff.mp stepped
      have same := sendResponse_eq s (settingHeader hdr) (settingHeader hdr).command
        (settingHeader hdr).subCommand (settingHeader hdr).object body
        (BlockIndex.single body.length.toUInt16)
      apply SettingEffect.unchanged
      · rintro key ⟨_, _, none, _⟩
        cases none
      all_goals rw [sendBack, same]
  | write hdr pkt =>
      obtain ⟨spec, key, stored, found, done, _, net, settings, _⟩ :=
        handleSettingWrite_cases stepped
      have answer := settingWriteReply_handled stepped found
      rw [done] at answer
      rcases settingStore_cases done with
        ⟨rfl, same⟩ | ⟨place, rfl, _, addressed, attached, put⟩
      · obtain ⟨table, ok⟩ := settingStore_keeps done
        apply SettingEffect.unchanged
        · rintro key ⟨_, _, same, _, success⟩
          cases same
          rw [answer] at success
          cases success
        · exact net
        · rw [settings]
          exact same
        · rw [settings]
          exact table
        · rw [settings]
          exact ok
      · exact .stored rfl answer found addressed net attached (by rw [settings]; exact put)
  | environment link events panel clock =>
      cases stepped
      apply SettingEffect.unchanged
      · rintro key ⟨_, _, none, _⟩
        cases none
      all_goals rfl

/-! ### What is read back -/

/-- Reads of the settings database do not fail. -/
def SettingsReadable (s : NetSys) : Prop :=
  s.settings.faults.Never .select

theorem settingStored_readable {s : NetSys} (readable : SettingsReadable s) (spec : SettingSpec)
    (key : SettingKey) :
    settingStored s spec key =
      if s.net.settingsAttached && s.settings.deviceSettings.isSome then
        match s.settings.stored key with
        | none => .notFound
        | some data => if data.length = spec.len then .found data else .error
      else .error := by
  unfold settingStored devsetGet
  rw [readable.succeeds, Bool.true_and]
  cases s.net.settingsAttached with
  | false => rfl
  | true => rfl

/-- A reply is told by the block at the place of the request. -/
theorem settingReadReply_congr {s other : NetSys} (readable : SettingsReadable s)
    (otherReadable : SettingsReadable other) (net : other.net = s.net)
    (table : other.settings.deviceSettings.isSome = s.settings.deviceSettings.isSome)
    {hdr : IdtiHeader}
    (stored : ∀ key, settingPlace s.net hdr = some key →
      other.settings.stored key = s.settings.stored key) :
    settingReadReply other hdr = settingReadReply s hdr := by
  unfold settingReadReply
  split
  next => rfl
  next =>
    cases found : findSettingSpec hdr.object with
    | none => rfl
    | some spec =>
        rw [Option.map_some, Option.map_some, net]
        congr 1
        cases addressed : settingKey s.net hdr spec with
        | none => rfl
        | some key =>
            have place : settingPlace s.net hdr = some key := by
              rw [settingPlace, found]
              exact addressed
            have same : settingStored other spec key = settingStored s spec key := by
              rw [settingStored_readable otherReadable, settingStored_readable readable, net,
                table, stored key place]
            dsimp only
            rw [same]

/-- The block is kept at the place, and can be read. -/
structure Keeps (net : AcuNet) (key : SettingKey) (data : Bytes) (s : NetSys) : Prop where
  readable : SettingsReadable s
  net_eq : s.net = net
  table : s.settings.deviceSettings.isSome = true
  stored : s.settings.stored key = some data

theorem Keeps.step {net : AcuNet} {key : SettingKey} {data : Bytes} {s next : NetSys}
    {request : SettingRequest} (keeps : Keeps net key data s)
    (spared : ¬ Rewrites key s request) (stepped : settingStep s request = some next) :
    Keeps net key data next := by
  cases settingStep_effect stepped with
  | unchanged _ sameNet stored table ok =>
      constructor
      · unfold SettingsReadable Faults.Never
        rw [ok]
        exact keeps.readable
      · rw [sameNet]
        exact keeps.net_eq
      · rw [table]
        exact keeps.table
      · rw [stored]
        exact keeps.stored
  | @stored hdr pkt spec place request_eq answered found addressed sameNet _ put =>
      have kept := devsetPut_keeps s.settings place ((packetData pkt).read 0 spec.len)
      rw [put] at kept
      have elsewhere : key ≠ place := by
        rintro rfl
        apply spared
        refine ⟨hdr, pkt, request_eq, ?_, answered⟩
        rw [settingPlace, found]
        exact addressed
      constructor
      · unfold SettingsReadable Faults.Never
        rw [kept.2]
        exact keeps.readable
      · rw [sameNet]
        exact keeps.net_eq
      · rw [kept.1]
        exact keeps.table
      · rw [stored_devsetPut put, if_neg elsewhere]
        exact keeps.stored

/-- A read of the place answers the block. -/
theorem Keeps.reply {net : AcuNet} {key : SettingKey} {data : Bytes} {s : NetSys}
    (keeps : Keeps net key data s) (attached : net.settingsAttached = true)
    {hdr : IdtiHeader} (asked : hdr.isRequest idtiCmdReqData idtiSubcmdRead = true)
    (place : settingPlace net hdr = some key) {spec : SettingSpec}
    (found : findSettingSpec key.object = some spec) (length : data.length = spec.len) :
    settingReadReply s hdr = some data := by
  obtain ⟨other, same, foundHere, addressed⟩ := settingPlace_spec place
  rw [found] at same
  cases same
  unfold settingReadReply
  rw [asked, if_neg (by decide), foundHere, Option.map_some, keeps.net_eq, addressed]
  dsimp only
  rw [settingStored_readable keeps.readable, keeps.net_eq, attached, keeps.table, keeps.stored,
    Bool.and_self, if_pos rfl]
  dsimp only
  rw [if_pos length]

/-- Until a write to the place succeeds, every read of it answers the block. -/
def ReadBack (net : AcuNet) (key : SettingKey) (data : Bytes) (s : NetSys) : Prop :=
  ∀ later final, Guarded settingStep (fun state request => ¬ Rewrites key state request) s later →
    run settingStep s later = some final →
      ∀ hdr, hdr.isRequest idtiCmdReqData idtiSubcmdRead = true →
        settingPlace net hdr = some key → settingReadReply final hdr = some data

/-- What a write promises.  Its place is that of its lowest slot alone, and it stores as
many bytes as blocks of its object have. -/
structure WriteKept (s : NetSys) (hdr : IdtiHeader) (pkt : Memory) (next : NetSys) : Prop where
  stored : settingWriteReply s hdr pkt = some idtiAckSuccess →
    ∃ spec key, findSettingSpec hdr.object = some spec ∧ settingPlace s.net hdr = some key ∧
      (∀ slot single, requestSlot hdr = some slot → AloneAt hdr slot single →
        settingPlace s.net single = some key) ∧
      ReadBack s.net key ((packetData pkt).read 0 spec.len) next
  refused : settingWriteReply s hdr pkt ≠ some idtiAckSuccess →
    ∀ read, settingReadReply next read = settingReadReply s read
  elsewhere : ∀ read, settingPlace s.net read ≠ settingPlace s.net hdr →
    settingReadReply next read = settingReadReply s read

theorem settingStep_readable {s next : NetSys} {request : SettingRequest}
    (readable : SettingsReadable s) (stepped : settingStep s request = some next) :
    SettingsReadable next := by
  unfold SettingsReadable Faults.Never
  cases settingStep_effect stepped with
  | unchanged _ _ _ _ ok =>
      rw [ok]
      exact readable
  | @stored hdr pkt spec place _ _ _ _ _ _ put =>
      have kept := (devsetPut_keeps s.settings place ((packetData pkt).read 0 spec.len)).2
      rw [put] at kept
      rw [kept]
      exact readable

theorem write_kept {s next : NetSys} (readable : SettingsReadable s) {hdr : IdtiHeader}
    {pkt : Memory} (written : settingStep s (.write hdr pkt) = some next) :
    WriteKept s hdr pkt next := by
  have nextReadable := settingStep_readable readable written
  cases settingStep_effect written with
  | unchanged none net stored table _ =>
      have same (read : IdtiHeader) : settingReadReply next read = settingReadReply s read :=
        settingReadReply_congr readable nextReadable net table fun key _ => by rw [stored]
      constructor
      · intro success
        obtain ⟨spec, key, _, found, done, _⟩ := handleSettingWrite_cases written
        have answer := settingWriteReply_handled written found
        rw [done] at answer
        rcases settingStore_cases done with ⟨rfl, _⟩ | ⟨place, rfl, _, addressed, _⟩
        · rw [answer] at success
          cases success
        · refine absurd ⟨hdr, pkt, rfl, ?_, success⟩ (none place)
          rw [settingPlace, found]
          exact addressed
      · exact fun _ => same
      · exact fun read _ => same read
  | @stored other otherPkt spec key request_eq success found addressed net attached put =>
      cases request_eq
      have place : settingPlace s.net hdr = some key := by
        rw [settingPlace, found]
        exact addressed
      have kept := devsetPut_keeps s.settings key ((packetData pkt).read 0 spec.len)
      have table := (devsetPut_done put).1
      rw [put] at kept
      constructor
      · intro _
        refine ⟨spec, key, found, place, ?_, ?_⟩
        · intro slot single lowest alone
          rw [alone.settingPlace_eq lowest]
          exact place
        · intro later final guarded reached read asked samePlace
          have start : Keeps s.net key ((packetData pkt).read 0 spec.len) next := by
            refine ⟨nextReadable, net, kept.1.trans table, ?_⟩
            rw [stored_devsetPut put, if_pos rfl]
          have final := guarded.invariant (fun _ _ _ keeps spared stepped =>
            keeps.step spared stepped) start reached
          obtain ⟨other, foundKey, foundHere, _⟩ := settingPlace_spec place
          rw [found] at foundHere
          cases foundHere
          exact final.reply attached asked samePlace foundKey (Memory.length_read _ _ _)
      · exact fun failed => absurd success failed
      · intro read differs
        apply settingReadReply_congr readable nextReadable net kept.1
        intro otherKey otherPlace
        rw [stored_devsetPut put, if_neg]
        rintro rfl
        exact differs (otherPlace.trans place.symm)

/-! ### Runs -/

/-- A request about the inputs of module 1. -/
def inputRequest (command subCommand bitmap : UInt8) (dataLen : Nat) : IdtiHeader :=
  { packetLength := 46
    protocolVersion := idtiProtocolVersionV2
    frameOption := 0
    destAddr := ⟨[0, 0, 0, 1, 0, 0, 0, bitmap], rfl⟩
    srcAddr := Blob.zeros _
    frameIndex := 0
    password := 0
    command := command
    subCommand := subCommand
    object := idtiObjInput
    startItem := 0
    endItem := 0
    dataBlockCurrent := 0
    dataBlockEnd := 0
    dataBlockTotal := 0
    dataBlockOneLen := 0
    dataLen := dataLen }

/-- Settings of which none was written. -/
def SettingsDb.created : SettingsDb :=
  { deviceSettings := some (Table.empty _)
    validations := []
    timezones := []
    faults := .none }

/-- A write to the slots 2 and 3. -/
def writeTwoInputs : IdtiHeader :=
  inputRequest idtiCmdSndData idtiSubcmdChange 0x0C idtiInputSettingLen

theorem writeTwoInputs_outcome :
    ∃ s after, SettingsReadable s ∧
      settingStep s (.write writeTwoInputs Memory.zeros) = some after ∧
      settingWriteReply s writeTwoInputs Memory.zeros = some idtiAckSuccess ∧
      settingReadReply after (inputRequest idtiCmdReqData idtiSubcmdRead 0x08 0) =
        some [idtiAckFail] := by
  have measured : (connectedStart fun _ => .accepted 4096).map
      (fun s =>
        let s := { s with settings := SettingsDb.created }
        ((settingStep s (.write writeTwoInputs Memory.zeros)).map fun after =>
            settingReadReply after (inputRequest idtiCmdReqData idtiSubcmdRead 0x08 0),
          settingWriteReply s writeTwoInputs Memory.zeros)) =
      some (some (some [idtiAckFail]), some idtiAckSuccess) := by decide +kernel
  obtain ⟨s, _, both⟩ := Option.map_eq_some_iff.mp measured
  obtain ⟨read, success⟩ := Prod.mk.inj both
  obtain ⟨after, written, reply⟩ := Option.map_eq_some_iff.mp read
  exact ⟨_, after, fun _ => rfl, written, success, reply⟩

/-- The block of a write to two slots is not read back at the higher one. -/
theorem higher_slot_not_stored :
    ¬ ∀ (s after : NetSys) (hdr : IdtiHeader) (pkt : Memory) (slot : Nat) (single : IdtiHeader),
      SettingsReadable s → settingStep s (.write hdr pkt) = some after →
        settingWriteReply s hdr pkt = some idtiAckSuccess → hdr.Selects slot →
          AloneAt hdr slot single →
            single.isRequest idtiCmdReqData idtiSubcmdRead = true →
              settingReadReply after single = some ((packetData pkt).read 0 hdr.dataLen) := by
  intro every
  obtain ⟨s, after, readable, written, success, reply⟩ := writeTwoInputs_outcome
  have alone : AloneAt writeTwoInputs 3 (inputRequest idtiCmdReqData idtiSubcmdRead 0x08 0) := by
    refine ⟨rfl, rfl, fun other => ?_⟩
    show Nat.testBit (2 ^ 3) other = true ↔ other = 3
    rw [Nat.testBit_two_pow, decide_eq_true_eq]
    exact eq_comm
  have selected : writeTwoInputs.Selects 3 := by
    show (requestBitmap writeTwoInputs).toNat.testBit 3 = true
    decide
  have stored := every s after _ _ 3 _ readable written success selected alone (by decide)
  rw [reply] at stored
  have lengths := congrArg List.length (Option.some.inj stored)
  rw [Memory.length_read] at lengths
  exact absurd lengths (by decide)

/-- In every run of reads and writes: a write that succeeds is read back at its place until
that is written again, and nothing else is changed by any write. -/
theorem settings_read_back {s before after : NetSys} (readable : SettingsReadable s)
    {requests : List SettingRequest} (reached : run settingStep s requests = some before)
    {hdr : IdtiHeader} {pkt : Memory}
    (written : settingStep before (.write hdr pkt) = some after) :
    WriteKept before hdr pkt after := by
  have stays := run_invariant (fun _ _ _ readable stepped =>
    settingStep_readable readable stepped) readable reached
  exact write_kept stays written

theorem settings_read_back_inputs :
    ∃ s after, settingStep s (.write writeTwoInputs Memory.zeros) = some after ∧
      settingWriteReply s writeTwoInputs Memory.zeros = some idtiAckSuccess ∧
      WriteKept s writeTwoInputs Memory.zeros after := by
  obtain ⟨s, after, readable, written, success, _⟩ := writeTwoInputs_outcome
  have reached : run settingStep s [] = some s := rfl
  exact ⟨s, after, written, success, settings_read_back readable reached written⟩

end Acud
