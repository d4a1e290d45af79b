/-
Module: Acud.Proofs.EventRecords
Purpose: Between two requests the daemon only appends to its event store.
Trusted boundary: none
Main exports:
  AcuEvents.Appends, NetSys.Records, step_records
-/
import Acud.Proofs.DaemonSteps

namespace Acud

open Lib

/-!
Cards, sensors, readers that are gone: every callback that is not about a request reports
what it saw by appending events.  No event is taken back and the read position stays.

[SRC src/acud/main.c, src/acud/net.c]
-/

/-- Events are appended, one after another; some may fail to be written. -/
def AcuEvents.Appends (before after : AcuEvents) : Prop :=
  ∃ events : List AcuEvent,
    after = events.foldl (fun ev event => (eventsAppend ev event).2) before

namespace AcuEvents

theorem Appends.refl (ev : AcuEvents) : ev.Appends ev :=
  ⟨[], rfl⟩

theorem Appends.trans {first second third : AcuEvents} (one : first.Appends second)
    (two : second.Appends third) : first.Appends third := by
  obtain ⟨events, rfl⟩ := one
  obtain ⟨more, rfl⟩ := two
  exact ⟨events ++ more, by rw [List.foldl_append]⟩

theorem Appends.one (ev : AcuEvents) (event : AcuEvent) :
    ev.Appends (eventsAppend ev event).2 :=
  ⟨[event], rfl⟩

end AcuEvents

/-- The event store is appended to, and stays attached; local time stays what it is. -/
structure NetSys.Records (before after : NetSys) : Prop where
  events : before.events.Appends after.events
  attached : before.net.eventsAttached = true → after.net.eventsAttached = true
  localtime : after.clock.localtime = before.clock.localtime

namespace NetSys

variable {first second third : NetSys}

theorem Records.same (events : second.events = first.events)
    (attached : first.net.eventsAttached = true → second.net.eventsAttached = true)
    (localtime : second.clock.localtime = first.clock.localtime) : first.Records second :=
  { events := by
      rw [events]
      exact .refl _
    attached := attached
    localtime := localtime }

theorem Records.refl (s : NetSys) : s.Records s :=
  .same rfl id rfl

theorem Records.trans (one : first.Records second) (two : second.Records third) :
    first.Records third :=
  { events := one.events.trans two.events
    attached := fun attached => two.attached (one.attached attached)
    localtime := two.localtime.trans one.localtime }

theorem Records.stored (s : NetSys) (eventCode : UInt32) (opMode : UInt8)
    (accessId : Option (Blob 8)) (doorStatus : UInt8) (moduleAddr readerAddr : Nat) :
    s.Records (netStoreEvent s eventCode opMode accessId doorStatus moduleAddr readerAddr) := by
  unfold netStoreEvent
  split
  next =>
    exact
      { events := .one _ _
        attached := id
        localtime := rfl }
  next => exact .refl s

end NetSys

section Steps

variable (daemon : Daemon)

theorem onNet_records {change : NetSys → NetSys} (records : ∀ s : NetSys, s.Records (change s)) :
    daemon.sys.Records (daemon.onNet change).sys := by
  unfold Daemon.onNet
  split
  next => exact records daemon.sys
  next => exact .refl daemon.sys

theorem foldl_records {α : Type} {round : Daemon → α → Daemon}
    (records : ∀ (daemon : Daemon) item, daemon.sys.Records (round daemon item).sys)
    (items : List α) : daemon.sys.Records (items.foldl round daemon).sys := by
  induction items generalizing daemon with
  | nil => exact .refl daemon.sys
  | cons item rest inductionHypothesis =>
      rw [List.foldl_cons]
      exact (records daemon item).trans (inductionHypothesis (round daemon item))

theorem judgeCard_records (doorStatus : UInt8) (card : CardTag) :
    daemon.sys.Records (judgeCard doorStatus daemon card).sys := by
  have pushed : ∀ result accessId, daemon.sys.Records
      (daemon.onNet fun s => netPushEvent s result accessId doorStatus
        (moduleAddrForRru card.rru) idtiEventAddrFirstReader).sys := by
    intro result accessId
    apply onNet_records
    intro s
    unfold netPushEvent
    split
    next => exact .refl s
    next => exact .stored s _ _ _ _ _ _
  unfold judgeCard
  simp only
  split
  next => exact (pushed _ _).trans (.same rfl id rfl)
  next => exact pushed _ _

theorem reportRruDisconnected_records (rru : Nat) :
    daemon.sys.Records (reportRruDisconnected daemon rru).sys :=
  onNet_records daemon fun s => .stored s _ _ _ _ _ _

theorem checkAlarm_records (alarm : Bool) :
    daemon.sys.Records (checkAlarm daemon alarm).sys := by
  unfold checkAlarm
  simp only
  split
  next => exact .refl daemon.sys
  next =>
    have latched : daemon.sys.Records
        { daemon.sys with panel := { daemon.sys.panel with alarmActive := alarm } } :=
      .same rfl id rfl
    exact (latched.trans (onNet_records
      { daemon with
        sys := { daemon.sys with panel := { daemon.sys.panel with alarmActive := alarm } } }
      fun s => .stored s _ _ _ _ _ _)).trans (.same rfl id rfl)

theorem checkFire_records (fire : Bool) : daemon.sys.Records (checkFire daemon fire).sys := by
  unfold checkFire
  simp only
  split
  next => exact .refl daemon.sys
  next =>
    have latched : daemon.sys.Records
        { daemon.sys with panel := { daemon.sys.panel with fireActive := fire } } :=
      .same rfl id rfl
    exact (latched.trans (onNet_records
      { daemon with
        sys := { daemon.sys with panel := { daemon.sys.panel with fireActive := fire } } }
      fun s => .stored s _ _ _ _ _ _)).trans (.same rfl id rfl)

theorem onCardReadable_records (sensors : Sensors) (down : List Nat) (cards : List CardTag) :
    daemon.sys.Records (onCardReadable daemon sensors down cards).sys := by
  have judged : ∀ (noted : Daemon) doorStatus, noted.sys.Records
      (cards.foldl (judgeCard doorStatus)
        (down.foldl reportRruDisconnected (checkAlarmFire noted sensors))).sys := by
    intro noted doorStatus
    have sensed := (checkAlarm_records noted sensors.alarm).trans
      (checkFire_records (checkAlarm noted sensors.alarm) sensors.fire)
    refine (sensed.trans (foldl_records _ (fun daemon rru => ?_) down)).trans
      (foldl_records _ (fun daemon card => judgeCard_records daemon doorStatus card) cards)
    exact reportRruDisconnected_records daemon rru
  unfold onCardReadable
  refine NetSys.Records.trans ?_ (judged _ _)
  exact onNet_records daemon fun s => .same rfl id rfl

/-- The setters of a reload attach the event store. -/
theorem reloadConfig_records (found : Reload) :
    daemon.sys.Records (reloadConfig daemon found).sys := by
  obtain ⟨settingsAttached, reloaded⟩ := reloadConfig_eq daemon found
  rw [reloaded]
  refine .same rfl (fun attached => ?_) rfl
  simp only
  split
  next => rfl
  next =>
    split
    next => rfl
    next => exact attached

/-- An event that is not one of the client's socket. -/
theorem step_records {next : Daemon} {input : Input}
    (other : ∀ ready answer, input ≠ .clientReady ready answer)
    (stepped : daemon.step input = some next) : daemon.sys.Records next.sys := by
  cases input with
  | clientReady ready answer => exact absurd rfl (other ready answer)
  | listenReady accepted =>
      cases stepped
      apply onNet_records
      intro s
      rw [netOnListenReady_eq]
      exact .same rfl id rfl
  | cardReadable sensors down cards =>
      cases stepped
      exact onCardReadable_records daemon sensors down cards
  | housekeeping =>
      cases stepped
      apply onNet_records
      intro s
      rw [netCheckInactivity_eq]
      exact .same rfl id rfl
  | reload found =>
      cases stepped
      exact reloadConfig_records daemon found
  | clock now monotonic =>
      cases stepped
      exact .same rfl id rfl

end Steps

end Acud
