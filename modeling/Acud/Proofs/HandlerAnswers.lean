/-
Module: Acud.Proofs.HandlerAnswers
Purpose: Every request is answered once, and the answer carries the device status as it is.
Trusted boundary: none
Main exports:
  Works, Responds, Answered, handleHistoryRequest_responds, handleFirmwareRequest_responds,
  handleRequest_responds
-/
import Acud.Proofs.Responses
import Acud.Proofs.StoreRuns

namespace Acud

open Lib

/-!
A handler does its work and then puts one response together.  `Responds` names the data of
the response; the roster store that is left; and that nothing the handler did shows in the
device status in front of the data.

[SRC src/acud/net.c]
-/

/-! ### What a handler answers -/

/-- What is done for a request before it is answered: on the connection only the roster store
may change, and the device status stays as it is. -/
structure Works (s worked : NetSys) (store : UserStore) : Prop where
  link : worked.link = { s.link with store := store }
  status : buildDeviceStatus worked.net worked.clock = buildDeviceStatus s.net s.clock

theorem Works.none (s : NetSys) : Works s s s.link.store :=
  ⟨rfl, rfl⟩

theorem Works.stored (s : NetSys) (store : UserStore) : Works s (s.withStore store) store :=
  ⟨rfl, rfl⟩

/-- Nothing is done to the connection. -/
theorem Works.aside {s worked : NetSys} (same : worked.link = s.link)
    (status : buildDeviceStatus worked.net worked.clock = buildDeviceStatus s.net s.clock) :
    Works s worked s.link.store :=
  ⟨by rw [same], status⟩

/-- The request is answered once, with this data and under its own object and sub command,
and the roster store is left like this. -/
def Responds (s handled : NetSys) (hdr : IdtiHeader) (store : UserStore) (data : Bytes) : Prop :=
  ∃ (worked : NetSys) (request : IdtiHeader) (command : UInt8) (block : BlockIndex),
    request.frameOption = hdr.frameOption ∧ request.srcAddr = hdr.srcAddr ∧
    request.frameIndex = answerIndex hdr ∧ data.length ≤ netEventDataCap ∧
    Works s worked store ∧
    handled.link =
      (sendResponse worked request command hdr.subCommand hdr.object data block).2.link

section Handlers

variable {s worked handled : NetSys} {hdr : IdtiHeader} {pkt : Memory} {store : UserStore}

/-- A response that returns the command of a copy of the header. -/
theorem sendBack_responds {request : IdtiHeader} {data : Bytes} {block : BlockIndex}
    (option : request.frameOption = hdr.frameOption) (source : request.srcAddr = hdr.srcAddr)
    (index : request.frameIndex = answerIndex hdr) (sub : request.subCommand = hdr.subCommand)
    (same : request.object = hdr.object) (short : data.length ≤ netEventDataCap)
    (works : Works s worked store) :
    Responds s (sendBack worked request data block) hdr store data := by
  refine ⟨worked, request, request.command, block, option, source, index, short, works, ?_⟩
  rw [← sub, ← same]
  rfl

theorem sendAck_responds (index : hdr.frameIndex = answerIndex hdr) (result : UInt8)
    (works : Works s worked store) :
    Responds s (sendAck worked hdr result) hdr store [result] := by
  have one : [result].length ≤ netEventDataCap := by
    rw [List.length_singleton]
    decide
  exact sendBack_responds rfl rfl index rfl rfl one works

theorem sendData_responds (index : hdr.frameIndex = answerIndex hdr)
    (query : hdr.isRequest idtiCmdReqData idtiSubcmdRead = true) {body : Bytes} (oneLen : Nat)
    (short : body.length ≤ netEventDataCap)
    (works : Works s worked store) :
    Responds s (sendData worked hdr body oneLen) hdr store body := by
  refine ⟨worked, hdr, idtiCmdSndData, .single oneLen.toUInt16, rfl, rfl, index, short, works, ?_⟩
  rw [(isRequest_command query).2]
  rfl

/-- Only the connection of the handled state matters for its answer. -/
theorem Responds.of_link {other : NetSys} {data : Bytes}
    (responds : Responds s handled hdr store data) (same : other.link = handled.link) :
    Responds s other hdr store data := by
  obtain ⟨worked, request, command, block, option, source, index, short, works, answered⟩ :=
    responds
  exact ⟨worked, request, command, block, option, source, index, short, works,
    same.trans answered⟩

theorem handleHistoryRequest_responds (index : hdr.frameIndex = answerIndex hdr)
    (query : hdr.isRequest idtiCmdReqData idtiSubcmdRead = true)
    (object : hdr.object = idtiObjHistory) :
    Responds s (handleHistoryRequest s hdr) hdr s.link.store
      (historyData s (historyFetch (historyRewind s hdr) hdr).1) := by
  have batch := historyFetch_length_le (historyRewind s hdr) hdr
  have clock : (historyFetch (historyRewind s hdr) hdr).2.clock = s.clock := by
    unfold historyFetch historyRewind
    split <;> split <;> rfl
  have net : (historyFetch (historyRewind s hdr) hdr).2.net = s.net := by
    unfold historyFetch historyRewind
    split <;> split <;> rfl
  have data : historyData (historyFetch (historyRewind s hdr) hdr).2
      (historyFetch (historyRewind s hdr) hdr).1 =
        historyData s (historyFetch (historyRewind s hdr) hdr).1 := by
    unfold historyData
    rw [clock]
  refine ⟨(historyFetch (historyRewind s hdr) hdr).2, hdr, idtiCmdSndData,
    historyBlock (historyFetch (historyRewind s hdr) hdr).2
      (historyFetch (historyRewind s hdr) hdr).1, rfl, rfl, index, ?_, ?_, ?_⟩
  · rw [length_historyData]
    exact Nat.mul_le_mul_right _ (batch.trans (by decide))
  · refine ⟨by rw [historyFetch_link, historyRewind_link], ?_⟩
    rw [clock, net]
  · rw [(isRequest_command query).2, object, ← data]
    unfold handleHistoryRequest
    simp only
    split
    next => exact historyAck_link _ _
    next => rfl

theorem handleFirmwareRequest_responds (index : hdr.frameIndex = answerIndex hdr)
    (query : hdr.isRequest idtiCmdReqStatus idtiSubcmdRead = true)
    (object : hdr.object = idtiObjFirmware) :
    Responds s (handleFirmwareRequest s hdr) hdr s.link.store (buildFirmwareInfo s.net) := by
  refine ⟨s, hdr, idtiCmdSndStatus, .single idtiFirmwareInfoLen.toUInt16, rfl, rfl, index, ?_,
    .none s, ?_⟩
  · rw [length_buildFirmwareInfo]
    decide
  · unfold handleFirmwareRequest
    rw [(isRequest_command query).2, object]

/-! ### Every request -/

/-- A request is answered, whatever the answer is. -/
def Answered (s handled : NetSys) (hdr : IdtiHeader) : Prop :=
  ∃ store data, Responds s handled hdr store data

theorem userbinReceive_status (s : NetSys) (hdr : IdtiHeader) (pkt : Memory) (isStart : Bool) :
    buildDeviceStatus (userbinReceive s hdr pkt isStart).2.net
        (userbinReceive s hdr pkt isStart).2.clock = buildDeviceStatus s.net s.clock := by
  unfold userbinReceive
  simp only
  split
  next => rfl
  next =>
    split
    next =>
      split
      next => rfl
      next => split <;> rfl
    next =>
      split
      next => rfl
      next =>
        simp only [userbinContinueDone]
        split
        next =>
          rw [netStoreEvent_eq]
          rfl
        next => rfl

theorem eventIndexChange_status (s : NetSys) (hdr : IdtiHeader) (pkt : Memory) :
    buildDeviceStatus (eventIndexChange s hdr pkt).2.net (eventIndexChange s hdr pkt).2.clock =
      buildDeviceStatus s.net s.clock := by
  unfold eventIndexChange
  simp only
  split
  next =>
    split
    next => rfl
    next => split <;> rfl
  next => rfl

theorem eventReset_status (s : NetSys) :
    buildDeviceStatus (eventReset s).2.net (eventReset s).2.clock =
      buildDeviceStatus s.net s.clock := by
  unfold eventReset
  split
  next => split <;> rfl
  next => rfl

theorem handleUserbinSend_responds (index : hdr.frameIndex = answerIndex hdr) (isStart : Bool)
    (query : hdr.isRequest idtiCmdReqData idtiSubcmdRead = true) :
    Answered s (handleUserbinSend s hdr pkt isStart) hdr := by
  unfold handleUserbinSend
  simp only
  split
  next => exact ⟨_, _, sendAck_responds index _ ⟨rfl, rfl⟩⟩
  next =>
    split
    next =>
      split
      next => exact ⟨_, _, sendAck_responds index _ ⟨rfl, rfl⟩⟩
      next =>
        refine ⟨_, _, sendData_responds index query _ ?_ ⟨rfl, rfl⟩⟩
        simp only [be32Bytes, List.length_append, List.length_cons, List.length_nil]
        decide
    next =>
      split
      next => exact ⟨_, _, sendAck_responds index _ ⟨rfl, rfl⟩⟩
      next =>
        split
        next => exact ⟨_, _, sendAck_responds index _ ⟨rfl, rfl⟩⟩
        next chunk store read =>
          refine ⟨_, _, sendData_responds index query _ ?_ ⟨rfl, rfl⟩⟩
          have fits := userbinReceiveChunk_length_le read
          simp only [be16Bytes, List.length_append, List.length_cons, List.length_nil]
          unfold userbinSendChunk at fits
          unfold netEventDataCap idtiEventInfoLen
          omega

theorem handleUserbinRequest_responds (index : hdr.frameIndex = answerIndex hdr)
    (claimed : handleUserbinRequest s hdr pkt = some handled) : Answered s handled hdr := by
  unfold handleUserbinRequest at claimed
  simp only at claimed
  split at claimed
  next => cases claimed
  next =>
    split at claimed
    next query =>
      cases claimed
      exact handleUserbinSend_responds index _ query
    next =>
      split at claimed
      next => cases claimed
      next write =>
        cases claimed
        obtain ⟨link, _⟩ := userbinReceive_store s hdr pkt (hdr.object == idtiObjUserbinStart)
          (Bool.eq_true_of_not_eq_false write) (fun start => eq_of_beq start)
        exact ⟨_, _, sendAck_responds index _ ⟨link, userbinReceive_status s hdr pkt _⟩⟩

theorem handleUsercmdRequest_responds (index : hdr.frameIndex = answerIndex hdr)
    (claimed : handleUsercmdRequest s hdr pkt = some handled) : Answered s handled hdr := by
  unfold handleUsercmdRequest at claimed
  simp only at claimed
  split at claimed
  next => cases claimed
  next =>
    split at claimed
    next =>
      cases claimed
      exact ⟨_, _, sendAck_responds index _ ⟨rfl, rfl⟩⟩
    next =>
      split at claimed
      next query =>
        split at claimed
        next body got =>
          cases claimed
          exact ⟨_, _, sendData_responds index query _ (usercmdGet_length_le got) (.none s)⟩
        next =>
          cases claimed
          exact ⟨_, _, sendAck_responds index _ ⟨rfl, rfl⟩⟩
      next =>
        split at claimed
        next =>
          cases claimed
          exact ⟨_, _, sendAck_responds index _ ⟨rfl, rfl⟩⟩
        next =>
          split at claimed
          next =>
            cases claimed
            exact ⟨_, _, sendAck_responds index _ ⟨rfl, rfl⟩⟩
          next => cases claimed

theorem handleForceOpenRequest_responds (index : hdr.frameIndex = answerIndex hdr)
    (claimed : handleForceOpenRequest s hdr pkt = some handled) : Answered s handled hdr := by
  unfold handleForceOpenRequest at claimed
  split at claimed
  next => cases claimed
  next =>
    split at claimed
    next =>
      cases claimed
      have same : (netApplyForceOpen s (forceOpenRequested hdr pkt)).link = s.link := by
        rw [netApplyForceOpen_eq]
      exact ⟨_, _, sendAck_responds index _ (.aside same (by rw [netApplyForceOpen_eq]; rfl))⟩
    next =>
      split at claimed
      next query =>
        cases claimed
        have short : [forceOpenValue s].length ≤ netEventDataCap := by
          rw [List.length_singleton]
          decide
        exact ⟨_, _, sendData_responds index query _ short (.none s)⟩
      next => cases claimed

/-- A response about a setting. -/
theorem sendSetting_responds (index : hdr.frameIndex = answerIndex hdr) {data : Bytes}
    {block : BlockIndex} (short : data.length ≤ netEventDataCap) {settings : SettingsDb}
    (same : worked = { s with settings := settings }) :
    Responds s (sendBack worked (settingHeader hdr) data block) hdr s.link.store data := by
  have works : Works s worked s.link.store := by
    rw [same]
    exact ⟨rfl, rfl⟩
  have option : (settingHeader hdr).frameOption = hdr.frameOption := rfl
  have source : (settingHeader hdr).srcAddr = hdr.srcAddr := rfl
  exact sendBack_responds option source index rfl rfl short works

theorem handleSettingRead_responds (index : hdr.frameIndex = answerIndex hdr)
    (claimed : handleSettingRead s hdr = some handled) : Answered s handled hdr := by
  have one : [idtiAckFail].length ≤ netEventDataCap := by decide
  unfold handleSettingRead at claimed
  split at claimed
  next => cases claimed
  next =>
    split at claimed
    next => cases claimed
    next spec found =>
      have listed := (findSettingSpec_object found).1
      split at claimed
      next =>
        cases claimed
        exact ⟨_, _, @sendSetting_responds s s hdr index _ _ one s.settings rfl⟩
      next key _ =>
        split at claimed
        next data stored =>
          cases claimed
          refine ⟨_, _, @sendSetting_responds s s hdr index _ _ ?_ s.settings rfl⟩
          unfold settingStored at stored
          split at stored
          next =>
            rw [devsetGet_length stored]
            exact settingSpecs_len spec listed
          next => cases stored
        next =>
          split at claimed
          next =>
            cases claimed
            have short : (deviceBasisDefault s.net).length ≤ netEventDataCap := by
              simp only [deviceBasisDefault, List.length_append, List.length_cons,
                List.length_nil, List.length_replicate]
              decide
            exact ⟨_, _, @sendSetting_responds s s hdr index _ _ short s.settings rfl⟩
          next =>
            cases claimed
            exact ⟨_, _, @sendSetting_responds s s hdr index _ _ one s.settings rfl⟩

theorem handleSettingWrite_responds (index : hdr.frameIndex = answerIndex hdr)
    (claimed : handleSettingWrite s hdr pkt = some handled) : Answered s handled hdr := by
  have one : ∀ result : UInt8, [result].length ≤ netEventDataCap := by
    intro result
    rw [List.length_singleton]
    decide
  unfold handleSettingWrite at claimed
  split at claimed
  next => cases claimed
  next =>
    split at claimed
    next => cases claimed
    next spec found =>
      split at claimed
      next refused stored =>
        cases claimed
        exact ⟨_, _, sendSetting_responds index (one _) (settingStore_touches stored)⟩
      next key reached stored =>
        cases claimed
        have replied : Responds s (sendResultAck reached hdr idtiAckSuccess) hdr
            s.link.store [idtiAckSuccess] :=
          sendSetting_responds index (one _) (settingStore_touches stored)
        refine ⟨_, _, replied.of_link ?_⟩
        rw [settingChanged_eq, settingEvent_eq]

theorem handleEventStoreRequest_responds
    (claimed : handleEventStoreRequest s hdr pkt = some handled) : Answered s handled hdr := by
  unfold handleEventStoreRequest at claimed
  split at claimed
  next count =>
    cases claimed
    have short : (eventCountBody s).length ≤ netEventDataCap := by
      simp only [eventCountBody, be32Bytes, List.length_append, List.length_cons,
        List.length_nil, List.length_replicate]
      decide
    have index : answerIndex hdr = 0 := if_pos count
    have option :
        ({ hdr with frameIndex := 0, startItem := 0, endItem := 0 } : IdtiHeader).frameOption =
          hdr.frameOption := rfl
    exact ⟨_, _, sendBack_responds option rfl index.symm rfl rfl short (.none s)⟩
  next other =>
    have index : hdr.frameIndex = answerIndex hdr := (if_neg other).symm
    split at claimed
    next =>
      cases claimed
      exact ⟨_, _, sendAck_responds index _
        (.aside (eventIndexChange_link s hdr pkt) (eventIndexChange_status s hdr pkt))⟩
    next =>
      split at claimed
      next =>
        cases claimed
        exact ⟨_, _, sendAck_responds index _ (.aside (eventReset_link s) (eventReset_status s))⟩
      next => cases claimed

theorem handleLcdRequest_responds (index : hdr.frameIndex = answerIndex hdr)
    (claimed : handleLcdRequest s hdr = some handled) : Answered s handled hdr := by
  unfold handleLcdRequest at claimed
  split at claimed
  next => cases claimed
  next =>
    cases claimed
    exact ⟨_, _, sendBack_responds rfl rfl index rfl rfl (length_lcdData_le hdr) (.none s)⟩

theorem claimRequest_responds (claimed : claimRequest s hdr pkt = some handled) :
    Answered s handled hdr := by
  unfold claimRequest at claimed
  simp only [Option.orElse_eq_orElse, Option.orElse_eq_or, Option.or_eq_some_iff] at claimed
  cases count : hdr.IsEventCountCheck with
  | true =>
      obtain ⟨userbin, usercmd, forced, read, written, lcd⟩ :=
        countCheck_declined s pkt count
      simp only [userbin, usercmd, forced, read, written, lcd, reduceCtorEq, false_or, true_and,
        and_false, or_false] at claimed
      exact handleEventStoreRequest_responds claimed
  | false =>
      have index : hdr.frameIndex = answerIndex hdr := (if_neg (by rw [count]; decide)).symm
      rcases claimed with userbin | ⟨_, usercmd | ⟨_, forced | ⟨_, read | ⟨_, written |
        ⟨_, store | ⟨_, lcd⟩⟩⟩⟩⟩⟩
      · exact handleUserbinRequest_responds index userbin
      · exact handleUsercmdRequest_responds index usercmd
      · exact handleForceOpenRequest_responds index forced
      · exact handleSettingRead_responds index read
      · exact handleSettingWrite_responds index written
      · exact handleEventStoreRequest_responds store
      · exact handleLcdRequest_responds index lcd

/-- Every request is answered, in the state after time synchronization. -/
theorem handleRequest_responds (s : NetSys) (hdr : IdtiHeader) (pkt : Memory) :
    Answered (requestTimeSync s hdr pkt) (handleRequest s hdr pkt) hdr := by
  have plain : hdr.object ≠ idtiObjHistoryCount → hdr.frameIndex = answerIndex hdr := by
    intro other
    simp [answerIndex, IdtiHeader.IsEventCountCheck, other]
  unfold handleRequest
  simp only
  split
  next history =>
    obtain ⟨query, object⟩ := Bool.and_eq_true_iff.mp history
    have same : hdr.object = idtiObjHistory := eq_of_beq object
    exact ⟨_, _, handleHistoryRequest_responds (plain (by rw [same]; decide)) query same⟩
  next =>
    split
    next firmware =>
      obtain ⟨query, object⟩ := Bool.and_eq_true_iff.mp firmware
      have same : hdr.object = idtiObjFirmware := eq_of_beq object
      exact ⟨_, _, handleFirmwareRequest_responds (plain (by rw [same]; decide)) query same⟩
    next =>
      split
      next claimed => exact claimRequest_responds claimed
      next declined =>
        cases count : hdr.IsEventCountCheck with
        | true =>
            -- The count check is always claimed.
            have claims : (handleEventStoreRequest (requestTimeSync s hdr pkt) hdr pkt).isSome := by
              unfold IdtiHeader.IsEventCountCheck at count
              unfold handleEventStoreRequest
              rw [if_pos count]
              rfl
            simp only [claimRequest, Option.orElse_eq_orElse, Option.orElse_eq_or,
              Option.or_eq_none_iff] at declined
            rw [declined.2.2.2.2.2.1] at claims
            cases claims
        | false =>
            have index : hdr.frameIndex = answerIndex hdr :=
              (if_neg (by rw [count]; decide)).symm
            exact ⟨_, _, sendAck_responds index _ ⟨rfl, rfl⟩⟩

end Handlers

end Acud
