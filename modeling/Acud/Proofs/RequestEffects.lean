/-
Module: Acud.Proofs.RequestEffects
Purpose: One inversion for every request: the parts of the system it may change.
Trusted boundary: none
Main exports:
  RequestEffect, handleRequest_effect, RequestEffect.link, handleRequest_link
-/
import Acud.Handlers
import Acud.Proofs.SendQueue

namespace Acud

open Lib

/-!
`RequestEffect` lists what handling a request can do.  Each handler is followed
once, here; invariants of the system are then shown for the constructors and
never unfold a handler.

A setting write is kept whole: its answer, its event and its callback belong to
one change of the settings.
-/

/-- What the handlers can do to the system for one frame. -/
inductive RequestEffect (hdr : IdtiHeader) (pkt : Memory) : NetSys → NetSys → Prop where
  | linked {s : NetSys} {link : Link} (effect : LinkEffect s.link link) :
      RequestEffect hdr pkt s { s with link := link }
  | events (s : NetSys) (events : AcuEvents) :
      RequestEffect hdr pkt s { s with events := events }
  | batch (s : NetSys) (first : Int) :
      RequestEffect hdr pkt s { s with net := { s.net with lastBatchFirstSeq := first } }
  | clock (s : NetSys) (clock : Clock) :
      RequestEffect hdr pkt s { s with clock := clock }
  | forceOpen (s : NetSys) (on : Bool) :
      RequestEffect hdr pkt s (netApplyForceOpen s on)
  | settingWritten {s written : NetSys}
      (handled : handleSettingWrite s hdr pkt = some written) :
      RequestEffect hdr pkt s written
  | trans {first second third : NetSys} (one : RequestEffect hdr pkt first second)
      (two : RequestEffect hdr pkt second third) : RequestEffect hdr pkt first third

namespace RequestEffect

variable {hdr : IdtiHeader} {pkt : Memory}

theorem refl (s : NetSys) : RequestEffect hdr pkt s s :=
  .linked (LinkEffect.refl s.link)

theorem response (s : NetSys) (request : IdtiHeader) (command subCommand object : UInt8)
    (data : Bytes) (block : BlockIndex) :
    RequestEffect hdr pkt s
      (sendResponse s request command subCommand object data block).2 := by
  rw [sendResponse_eq]
  exact .linked (sendResponse_link s request command subCommand object data block)

theorem back (s : NetSys) (request : IdtiHeader) (data : Bytes) (block : BlockIndex) :
    RequestEffect hdr pkt s (sendBack s request data block) :=
  response s request _ _ _ data block

theorem ack (s : NetSys) (request : IdtiHeader) (result : UInt8) :
    RequestEffect hdr pkt s (sendAck s request result) :=
  back s request _ _

theorem data (s : NetSys) (request : IdtiHeader) (body : Bytes) (oneLen : Nat) :
    RequestEffect hdr pkt s (sendData s request body oneLen) :=
  response s request _ _ _ body _

theorem event (s : NetSys) (eventCode : UInt32) (opMode : UInt8)
    (accessId : Option (Blob 8)) (doorStatus : UInt8) (moduleAddr readerAddr : Nat) :
    RequestEffect hdr pkt s
      (netStoreEvent s eventCode opMode accessId doorStatus moduleAddr readerAddr) := by
  rw [netStoreEvent_eq]
  exact .events s _

theorem store (s : NetSys) (store : UserStore) :
    RequestEffect hdr pkt s (s.withStore store) :=
  .linked (LinkEffect.stored s.link store)

end RequestEffect

/-- Time synchronization comes first and only touches the clock. -/
theorem requestTimeSync_eq (s : NetSys) (hdr : IdtiHeader) (pkt : Memory) :
    requestTimeSync s hdr pkt = { s with clock := (requestTimeSync s hdr pkt).clock } := by
  unfold requestTimeSync
  split
  next => exact applyTimeSync_eq s _ _
  next => rfl

section Handlers

variable {hdr : IdtiHeader} {pkt : Memory} {s handled : NetSys}

theorem requestTimeSync_effect :
    RequestEffect hdr pkt s (requestTimeSync s hdr pkt) := by
  rw [requestTimeSync_eq]
  exact .clock s _

theorem historyRewind_effect : RequestEffect hdr pkt s (historyRewind s hdr) := by
  unfold historyRewind
  split
  next => exact .events s _
  next => exact .refl s

theorem historyFetch_effect : RequestEffect hdr pkt s (historyFetch s hdr).2 := by
  unfold historyFetch
  split
  next => exact .events s _
  next => exact .refl s

theorem historyAck_effect (batch : List AcuEvent) :
    RequestEffect hdr pkt s (historyAck s batch) := by
  cases batch with
  | nil => exact .refl s
  | cons first rest =>
      refine RequestEffect.trans (.batch s first.seq) ?_
      exact .events { s with net := { s.net with lastBatchFirstSeq := first.seq } } _

theorem historyReply_effect (batch : List AcuEvent) :
    RequestEffect hdr pkt s (historyReply s hdr batch).2 :=
  .response s hdr _ _ _ _ _

theorem historyAck_link (s : NetSys) (batch : List AcuEvent) :
    (historyAck s batch).link = s.link := by
  cases batch <;> rfl

theorem historyRewind_link (s : NetSys) (hdr : IdtiHeader) :
    (historyRewind s hdr).link = s.link := by
  unfold historyRewind
  split <;> rfl

theorem historyFetch_link (s : NetSys) (hdr : IdtiHeader) :
    (historyFetch s hdr).2.link = s.link := by
  unfold historyFetch
  split <;> rfl

theorem handleHistoryRequest_effect :
    RequestEffect hdr pkt s (handleHistoryRequest s hdr) := by
  unfold handleHistoryRequest
  simp only
  have replied : RequestEffect hdr pkt s
      (historyReply (historyFetch (historyRewind s hdr) hdr).2 hdr
        (historyFetch (historyRewind s hdr) hdr).1).2 :=
    historyRewind_effect.trans (historyFetch_effect.trans (historyReply_effect _))
  split
  next => exact replied.trans (historyAck_effect _)
  next => exact replied

theorem handleFirmwareRequest_effect :
    RequestEffect hdr pkt s (handleFirmwareRequest s hdr) :=
  .response s hdr _ _ _ _ _

theorem handleLcdRequest_effect (claimed : handleLcdRequest s hdr = some handled) :
    RequestEffect hdr pkt s handled := by
  unfold handleLcdRequest at claimed
  split at claimed
  next => cases claimed
  next =>
    cases claimed
    exact .back s hdr _ _

theorem handleUserbinSend_effect (isStart : Bool) :
    RequestEffect hdr pkt s (handleUserbinSend s hdr pkt isStart) := by
  unfold handleUserbinSend
  simp only
  split
  next => exact .ack s hdr _
  next =>
    split
    next =>
      split
      next => exact RequestEffect.trans (.store s _) (.ack _ hdr _)
      next => exact RequestEffect.trans (.store s _) (.data _ hdr _ _)
    next =>
      split
      next => exact .ack s hdr _
      next =>
        split
        next => exact RequestEffect.trans (.store s _) (.ack _ hdr _)
        next => exact RequestEffect.trans (.store s _) (.data _ hdr _ _)

theorem userbinContinueDone_effect (status : AcuUserBinStatus) :
    RequestEffect hdr pkt s (userbinContinueDone s status) := by
  unfold userbinContinueDone
  split
  next => exact .event s _ _ _ _ _ _
  next => exact .refl s

theorem userbinReceive_effect (isStart : Bool) :
    RequestEffect hdr pkt s (userbinReceive s hdr pkt isStart).2 := by
  unfold userbinReceive
  simp only
  split
  next => exact .refl s
  next =>
    split
    next =>
      split
      next => exact .refl s
      next => split <;> exact .store s _
    next =>
      split
      next => exact .refl s
      next => exact RequestEffect.trans (.store s _) (userbinContinueDone_effect _)

theorem handleUserbinRequest_effect
    (claimed : handleUserbinRequest s hdr pkt = some handled) :
    RequestEffect hdr pkt s handled := by
  unfold handleUserbinRequest at claimed
  simp only at claimed
  split at claimed
  next => cases claimed
  next =>
    split at claimed
    next =>
      cases claimed
      exact handleUserbinSend_effect _
    next =>
      split at claimed
      next => cases claimed
      next =>
        cases claimed
        exact (userbinReceive_effect _).trans (.ack _ hdr _)

theorem handleUsercmdRequest_effect
    (claimed : handleUsercmdRequest s hdr pkt = some handled) :
    RequestEffect hdr pkt s handled := by
  unfold handleUsercmdRequest at claimed
  simp only at claimed
  repeat' split at claimed
  all_goals cases claimed
  · exact .ack s hdr _
  · exact .data s hdr _ _
  · exact .ack s hdr _
  · exact RequestEffect.trans (.store s _) (.ack _ hdr _)
  · exact RequestEffect.trans (.store s _) (.ack _ hdr _)

theorem handleForceOpenRequest_effect
    (claimed : handleForceOpenRequest s hdr pkt = some handled) :
    RequestEffect hdr pkt s handled := by
  unfold handleForceOpenRequest at claimed
  repeat' split at claimed
  all_goals cases claimed
  · exact RequestEffect.trans (.forceOpen s _) (.ack _ hdr _)
  · exact .data s hdr _ _

theorem handleSettingRead_effect (claimed : handleSettingRead s hdr = some handled) :
    RequestEffect hdr pkt s handled := by
  unfold handleSettingRead at claimed
  repeat' split at claimed
  all_goals cases claimed
  · exact .ack s _ _
  · exact .back s _ _ _
  · exact .back s _ _ _
  · exact .ack s _ _

theorem eventIndexChange_effect :
    RequestEffect hdr pkt s (eventIndexChange s hdr pkt).2 := by
  unfold eventIndexChange
  simp only
  repeat' split
  · exact .refl s
  · exact .events s _
  · exact .events s _
  · exact .refl s

theorem eventReset_effect : RequestEffect hdr pkt s (eventReset s).2 := by
  unfold eventReset
  repeat' split
  · exact .events s _
  · exact .events s _
  · exact .refl s

theorem handleEventStoreRequest_effect
    (claimed : handleEventStoreRequest s hdr pkt = some handled) :
    RequestEffect hdr pkt s handled := by
  unfold handleEventStoreRequest at claimed
  repeat' split at claimed
  all_goals cases claimed
  · exact .back s _ _ _
  · exact eventIndexChange_effect.trans (.ack _ hdr _)
  · exact eventReset_effect.trans (.ack _ hdr _)

theorem claimRequest_effect (claimed : claimRequest s hdr pkt = some handled) :
    RequestEffect hdr pkt s handled := by
  unfold claimRequest at claimed
  simp only [Option.orElse_eq_orElse, Option.orElse_eq_or, Option.or_eq_some_iff] at claimed
  rcases claimed with userbin | ⟨_, usercmd | ⟨_, forced | ⟨_, read | ⟨_, written |
    ⟨_, store | ⟨_, lcd⟩⟩⟩⟩⟩⟩
  · exact handleUserbinRequest_effect userbin
  · exact handleUsercmdRequest_effect usercmd
  · exact handleForceOpenRequest_effect forced
  · exact handleSettingRead_effect read
  · exact .settingWritten written
  · exact handleEventStoreRequest_effect store
  · exact handleLcdRequest_effect lcd

/-- Every request has an effect of the listed kinds. -/
theorem handleRequest_effect (s : NetSys) (hdr : IdtiHeader) (pkt : Memory) :
    RequestEffect hdr pkt s (handleRequest s hdr pkt) := by
  unfold handleRequest
  simp only
  refine requestTimeSync_effect.trans ?_
  split
  next => exact handleHistoryRequest_effect
  next =>
    split
    next => exact handleFirmwareRequest_effect
    next =>
      split
      next claimed => exact claimRequest_effect claimed
      next => exact .ack _ hdr _

end Handlers

/-! ### The link -/

/-- A change of the forced-open state touches the remembered value, the hardware
behind the callback, and the event store. -/
theorem netApplyForceOpen_eq (s : NetSys) (on : Bool) :
    netApplyForceOpen s on =
      { s with
        net := { s.net with forceOpen := on }
        panel :=
          if s.net.forceOpen ≠ on ∧ s.net.onForceOpen = true then onForceOpenChanged s.panel on
          else s.panel
        events := (netApplyForceOpen s on).events } := by
  unfold netApplyForceOpen netPushSystemEvent
  split
  next same =>
    subst same
    rw [if_neg fun changed => changed.1 rfl]
  next differs =>
    simp only
    rw [netStoreEvent_eq]
    simp [differs]

/-- Storing a block only touches the settings database. -/
theorem settingStore_touches {s stored : NetSys} {hdr : IdtiHeader} {pkt : Memory}
    {spec : SettingSpec} {key : Option SettingKey}
    (done : settingStore s hdr pkt spec = (key, stored)) :
    stored = { s with settings := stored.settings } := by
  unfold settingStore at done
  repeat' split at done
  all_goals cases done
  all_goals rfl

/-- A block is stored at the place its request addresses, or nothing stored changes. -/
theorem settingStore_cases {s stored : NetSys} {hdr : IdtiHeader} {pkt : Memory}
    {spec : SettingSpec} {key : Option SettingKey}
    (done : settingStore s hdr pkt spec = (key, stored)) :
    key = none ∧ stored.settings.stored = s.settings.stored ∨
      ∃ place, key = some place ∧ spec.len ≤ hdr.dataLen ∧
        settingKey s.net hdr spec = some place ∧ s.net.settingsAttached = true ∧
        devsetPut s.settings place ((packetData pkt).read 0 spec.len) =
          (true, stored.settings) := by
  unfold settingStore at done
  split at done
  next =>
    cases done
    exact .inl ⟨rfl, rfl⟩
  next long =>
    split at done
    next =>
      cases done
      exact .inl ⟨rfl, rfl⟩
    next place addressed =>
      split at done
      next attached =>
        split at done
        next put =>
          cases done
          exact .inr ⟨place, rfl, Nat.le_of_not_lt long, addressed, attached, put⟩
        next put =>
          cases done
          exact .inl ⟨rfl, (stored_devsetPut_failed put).1⟩
      next =>
        cases done
        exact .inl ⟨rfl, rfl⟩

/-- The success event only touches the event store. -/
theorem settingEvent_eq (s : NetSys) (spec : SettingSpec) (key : SettingKey) :
    settingEvent s spec key = { s with events := (settingEvent s spec key).events } := by
  unfold settingEvent netPushSystemEvent
  split
  next => rfl
  next => exact netStoreEvent_eq s _ _ _ _ _ _

/-- The callback only touches the panel. -/
theorem settingChanged_eq (s : NetSys) (hdr : IdtiHeader) :
    settingChanged s hdr = { s with panel := (settingChanged s hdr).panel } := by
  unfold settingChanged
  split <;> rfl

theorem sendResultAck_eq (s : NetSys) (hdr : IdtiHeader) (result : UInt8) :
    sendResultAck s hdr result = { s with link := (sendResultAck s hdr result).link } :=
  sendResponse_eq s _ _ _ _ _ _

theorem sendResultAck_link (s : NetSys) (hdr : IdtiHeader) (result : UInt8) :
    LinkEffect s.link (sendResultAck s hdr result).link :=
  sendResponse_link s _ _ _ _ _ _

/-- A setting write is refused, or it stores the block, answers, and then lets the
runtime recompute the relays from what is stored now. -/
theorem handleSettingWrite_cases {s written : NetSys} {hdr : IdtiHeader} {pkt : Memory}
    (handled : handleSettingWrite s hdr pkt = some written) :
    ∃ spec key stored, findSettingSpec hdr.object = some spec ∧
      settingStore s hdr pkt spec = (key, stored) ∧
      LinkEffect s.link written.link ∧ written.net = s.net ∧
      written.settings = stored.settings ∧
      written.panel =
        if key.isSome && s.net.onSettingChanged then
          onSettingChanged stored.settings s.panel hdr.object
        else s.panel := by
  unfold handleSettingWrite at handled
  split at handled
  next => cases handled
  next =>
    split at handled
    next => cases handled
    next spec found =>
      split at handled
      next refused stored =>
        cases handled
        obtain ⟨settings, rfl⟩ : ∃ settings, refused = { s with settings := settings } :=
          ⟨_, settingStore_touches stored⟩
        refine ⟨spec, none, _, found, stored, sendResultAck_link
          { s with settings := settings } hdr idtiAckFail, ?_, ?_, ?_⟩
        all_goals rw [sendResultAck_eq]
        rfl
      next key reached stored =>
        cases handled
        obtain ⟨settings, rfl⟩ : ∃ settings, reached = { s with settings := settings } :=
          ⟨_, settingStore_touches stored⟩
        refine ⟨spec, some key, _, found, stored, ?_, ?_, ?_, ?_⟩
        all_goals rw [settingChanged_eq, settingEvent_eq]
        · exact sendResultAck_link { s with settings := settings } hdr idtiAckSuccess
        · rw [sendResultAck_eq]
        · rw [sendResultAck_eq]
        · unfold settingChanged
          rw [sendResultAck_eq, Option.isSome_some, Bool.true_and]
          split <;> rfl

/-- The link sees replies and changes of the roster store only. -/
theorem RequestEffect.link {hdr : IdtiHeader} {pkt : Memory} {before after : NetSys}
    (effect : RequestEffect hdr pkt before after) :
    LinkEffect before.link after.link := by
  induction effect with
  | linked effect => exact effect
  | events s events => exact LinkEffect.refl s.link
  | batch s first => exact LinkEffect.refl s.link
  | clock s clock => exact LinkEffect.refl s.link
  | forceOpen s on =>
      rw [netApplyForceOpen_eq]
      exact LinkEffect.refl s.link
  | settingWritten handled =>
      obtain ⟨_, _, _, _, _, linked, _⟩ := handleSettingWrite_cases handled
      exact linked
  | trans _ _ one two => exact one.trans two

theorem handleRequest_link (s : NetSys) (hdr : IdtiHeader) (pkt : Memory) :
    LinkEffect s.link (handleRequest s hdr pkt).link :=
  (handleRequest_effect s hdr pkt).link

/-! ### Requests that are no setting writes -/

/-- The request writes an object that is kept as a setting. -/
def IdtiHeader.IsSettingWrite (hdr : IdtiHeader) : Prop :=
  hdr.isRequest idtiCmdSndData idtiSubcmdChange = true ∧ (findSettingSpec hdr.object).isSome

/-- The objects that are kept as settings belong to no other handler. -/
theorem settingSpecs_objects :
    ∀ spec ∈ settingSpecs, spec.object ≠ idtiObjUserbinStart ∧
      spec.object ≠ idtiObjUserbinContinue ∧ usercmdIsUserObject spec.object = false ∧
      spec.object ≠ idtiObjForceOpen ∧ spec.object ≠ idtiObjHistory ∧
      spec.object ≠ idtiObjHistoryCount ∧ spec.object ≠ idtiObjHistoryIndex ∧
      spec.object ≠ idtiObjLcdControl ∧ spec.object ≠ idtiObjMultiLanguage := by
  decide

/-- A setting is stored under its object. -/
theorem settingKey_object {net : AcuNet} {hdr : IdtiHeader} {spec : SettingSpec}
    {key : SettingKey} (addressed : settingKey net hdr spec = some key) :
    key.object = spec.object := by
  unfold settingKey at addressed
  simp only at addressed
  repeat' split at addressed
  all_goals cases addressed
  all_goals rfl

theorem findSettingSpec_object {object : UInt8} {spec : SettingSpec}
    (found : findSettingSpec object = some spec) :
    spec ∈ settingSpecs ∧ spec.object = object := by
  unfold findSettingSpec at found
  exact ⟨List.mem_of_find?_eq_some found, by simpa using List.find?_some found⟩

/-- Setting writes belong to their handler alone, and it answers each of them. -/
theorem handleRequest_settingWrite {hdr : IdtiHeader} (writes : hdr.IsSettingWrite)
    (s : NetSys) (pkt : Memory) :
    handleSettingWrite (requestTimeSync s hdr pkt) hdr pkt =
      some (handleRequest s hdr pkt) := by
  obtain ⟨change, kept⟩ := writes
  obtain ⟨spec, found⟩ := Option.isSome_iff_exists.mp kept
  obtain ⟨listed, object⟩ := findSettingSpec_object found
  obtain ⟨start, more, user, forced, history, _⟩ := settingSpecs_objects spec listed
  rw [object] at start more user forced history
  have command : hdr.command = idtiCmdSndData := by
    simp only [IdtiHeader.isRequest, Bool.and_eq_true, beq_iff_eq] at change
    exact change.1
  have noQuery : hdr.isRequest idtiCmdReqData idtiSubcmdRead = false := by
    rw [IdtiHeader.isRequest, command]
    rfl
  have noStatus : hdr.isRequest idtiCmdReqStatus idtiSubcmdRead = false := by
    rw [IdtiHeader.isRequest, command]
    rfl
  have userbin : handleUserbinRequest (requestTimeSync s hdr pkt) hdr pkt = none := by
    simp [handleUserbinRequest, start, more]
  have usercmd : handleUsercmdRequest (requestTimeSync s hdr pkt) hdr pkt = none := by
    simp [handleUsercmdRequest, user]
  have forceOpen : handleForceOpenRequest (requestTimeSync s hdr pkt) hdr pkt = none := by
    simp [handleForceOpenRequest, forced]
  have read : handleSettingRead (requestTimeSync s hdr pkt) hdr = none := by
    simp [handleSettingRead, noQuery]
  obtain ⟨written, handled⟩ :
      ∃ written, handleSettingWrite (requestTimeSync s hdr pkt) hdr pkt = some written := by
    unfold handleSettingWrite
    rw [if_neg (by rw [change]; decide), found]
    simp only
    split
    next => exact ⟨_, rfl⟩
    next => exact ⟨_, rfl⟩
  have claimed : claimRequest (requestTimeSync s hdr pkt) hdr pkt = some written := by
    simp [claimRequest, userbin, usercmd, forceOpen, read, handled]
  rw [handled, handleRequest]
  simp [noQuery, noStatus, claimed]

/-- What a request that is no setting write leaves alone: the settings, the relays and
their inputs, and what the unit knows about them. -/
structure SameRelays (before after : NetSys) : Prop where
  settings : after.settings = before.settings
  outputs : after.panel.hal.outputs = before.panel.hal.outputs
  alarmActive : after.panel.alarmActive = before.panel.alarmActive
  fireActive : after.panel.fireActive = before.panel.fireActive
  moduleCount : after.panel.moduleCount = before.panel.moduleCount
  layout : after.net.layout = before.net.layout
  onSettingChanged : after.net.onSettingChanged = before.net.onSettingChanged

theorem RequestEffect.sameRelays {hdr : IdtiHeader} {pkt : Memory} {before after : NetSys}
    (effect : RequestEffect hdr pkt before after) (other : ¬ hdr.IsSettingWrite) :
    SameRelays before after := by
  induction effect with
  | linked effect => exact ⟨rfl, rfl, rfl, rfl, rfl, rfl, rfl⟩
  | events s events => exact ⟨rfl, rfl, rfl, rfl, rfl, rfl, rfl⟩
  | batch s first => exact ⟨rfl, rfl, rfl, rfl, rfl, rfl, rfl⟩
  | clock s clock => exact ⟨rfl, rfl, rfl, rfl, rfl, rfl, rfl⟩
  | forceOpen s on =>
      rw [netApplyForceOpen_eq]
      by_cases told : s.net.forceOpen ≠ on ∧ s.net.onForceOpen = true
      · rw [if_pos told]
        exact ⟨rfl, rfl, rfl, rfl, rfl, rfl, rfl⟩
      · rw [if_neg told]
        exact ⟨rfl, rfl, rfl, rfl, rfl, rfl, rfl⟩
  | settingWritten handled =>
      obtain ⟨spec, _, _, found, _⟩ := handleSettingWrite_cases handled
      refine absurd ⟨?_, by rw [found]; rfl⟩ other
      unfold handleSettingWrite at handled
      split at handled
      next => cases handled
      next change => exact Bool.eq_true_of_not_eq_false change
  | trans _ _ one two =>
      constructor
      · exact two.settings.trans one.settings
      · exact two.outputs.trans one.outputs
      · exact two.alarmActive.trans one.alarmActive
      · exact two.fireActive.trans one.fireActive
      · exact two.moduleCount.trans one.moduleCount
      · exact two.layout.trans one.layout
      · exact two.onSettingChanged.trans one.onSettingChanged

end Acud
