/-
Module: Acud.Proofs.HistoryWatch
Purpose: A client that polls the history is shown every event once and in order.
Trusted boundary: none
Main exports:
  Appends.grows, Watching, history_watched
-/
import Acud.Lib.Follower
import Acud.Proofs.ClientPolls
import Acud.Proofs.Delivery

namespace Acud

open Lib
open IdtiClient (PollArgs PollLoop)

/-!
The device writes its events into a log that it trims, and hands them out behind its read
position; the client asks for one at a time.  Seen together the client is a `Followed` reader
of that log, over any polls, and over any cards, sensors and reloads between and during them.

[SRC src/tools/idti_client.py, src/acud/net.c, src/acud/events.c]
-/

/-! ### Between two polls -/

/-- The read position stays, and what is new is behind it. -/
structure EventsDb.Grows (before after : EventsDb) : Prop where
  sentSeq : after.sentSeq = before.sentSeq
  origin : ∀ row ∈ after.events.rows, row ∈ before.events.rows ∨ before.sentSeq < row.seq

theorem EventsDb.Grows.refl (db : EventsDb) : db.Grows db :=
  { sentSeq := rfl
    origin := fun _ member => .inl member }

theorem EventsDb.Grows.trans {first second third : EventsDb} (one : first.Grows second)
    (two : second.Grows third) : first.Grows third :=
  { sentSeq := two.sentSeq.trans one.sentSeq
    origin := by
      intro row member
      rcases two.origin row member with old | new
      · exact one.origin row old
      · exact .inr (by rw [← one.sentSeq]; exact new) }

theorem append_grows {ev : AcuEvents} {db : EventsDb} (working : WorkingStore ev db)
    (event : AcuEvent) :
    ∃ after, WorkingStore (eventsAppend ev event).2 after ∧ db.Grows after := by
  obtain ⟨after, store, effect⟩ := append_effect working event
  refine ⟨after, store, ?_⟩
  split at effect
  next =>
    refine
      { sentSeq := effect.sentSeq
        origin := ?_ }
    intro row member
    rcases effect.origin row member with old | rfl
    · exact .inl old
    · have behind := Int.le_trans working.sound db.events.maxSeq_le_autoSeq
      exact .inr (Int.lt_add_one_of_le behind)
  next =>
    obtain ⟨events, sentSeq⟩ := effect
    refine
      { sentSeq := sentSeq
        origin := ?_ }
    intro row member
    rw [events] at member
    exact .inl member

theorem AcuEvents.Appends.grows {before after : AcuEvents} (appends : before.Appends after)
    {db : EventsDb} (working : WorkingStore before db) :
    ∃ later, WorkingStore after later ∧ db.Grows later := by
  obtain ⟨events, rfl⟩ := appends
  induction events generalizing before db with
  | nil => exact ⟨db, working, .refl db⟩
  | cons event events inductionHypothesis =>
      obtain ⟨next, store, grows⟩ := append_grows working event
      obtain ⟨later, final, more⟩ := inductionHypothesis store
      exact ⟨later, final, grows.trans more⟩

/-! ### One poll -/

section Poll

variable {s : NetSys} {db : EventsDb}

/-- A poll takes the first pending event. -/
theorem firstPending_eq (working : WorkingStore s.events db)
    (attached : s.net.eventsAttached = true) :
    firstPending s = (pendingEvents s.events).take 1 := by
  have reads := working.reads.succeeds
  unfold firstPending eventsFetch pendingEvents
  simp only [attached, working.attached, if_true, EventsDb.fetchFrom_of_sound working.sound]
  unfold EventsDb.fetchRows
  simp only [reads, if_true]
  rfl

/-- With an empty queue the reply to a poll is accepted for sending. -/
theorem pollAccepted_of_empty (connected : netIsConnected s.link = true)
    (empty : s.link.conn.unsent = []) (hdr : IdtiHeader) : pollAccepted s hdr = true := by
  have short : (historyData (pollFetched s hdr) (pollBatch s hdr)).length ≤ netEventDataCap := by
    have few := historyFetch_length_le (pollStart s hdr) hdr
    rw [length_historyData]
    exact Nat.mul_le_mul_right _ (few.trans (by decide))
  obtain ⟨packet, _, bytes, _, accepted⟩ :=
    response_accepted connected empty (pollFetched s hdr) hdr
    idtiCmdSndData idtiSubcmdRead idtiObjHistory
    (historyBlock (pollFetched s hdr) (pollBatch s hdr)) short
  have built : pollReply s hdr = some packet.bytes := bytes
  unfold pollAccepted
  rw [built]
  exact accepted

/-- The event is taken, and the read position moves behind it. -/
theorem poll_takes (working : WorkingStore s.events db) (attached : s.net.eventsAttached = true)
    (connected : netIsConnected s.link = true) (empty : s.link.conn.unsent = [])
    (args : PollArgs) (frameIndex : Int) :
    ∃ after, WorkingStore (handleHistoryRequest s (args.header frameIndex)).events after ∧
      (handleHistoryRequest s (args.header frameIndex)).net.eventsAttached = true ∧
      after.events = db.events ∧ firstPending s <+: db.events.after db.sentSeq ∧
      after.sentSeq = ((firstPending s).getLast?.map AcuEvent.seq).getD db.sentSeq := by
  obtain ⟨after, effect⟩ := poll_effect working attached (args.header frameIndex)
  have forward : rewoundPosition s db (args.header frameIndex) = db.sentSeq := by
    unfold rewoundPosition
    rw [(header_options args frameIndex).2.2.1]
    exact if_neg fun again => by cases again.1
  have sent : sentBatch s (args.header frameIndex) = firstPending s := by
    rw [sentBatch, if_pos (pollAccepted_of_empty connected empty _), pollBatch_poll]
  have front := effect.front
  have position := effect.sentSeq
  rw [forward, sent] at front position
  exact ⟨after, effect.store, effect.attached.trans attached, effect.events, front, position⟩

end Poll

/-! ### The whole loop -/

/-- The client has been shown these events, of those behind the position at which it began. -/
def Watching (base : Int) (daemon : Daemon) (shown : List AcuEvent) : Prop :=
  ∃ db, WorkingStore daemon.sys.events db ∧ daemon.sys.net.eventsAttached = true ∧
    Followed AcuEvent.seq base db.sentSeq db.events.rows shown

/-- A turn shows the next event. -/
theorem Watching.turn {base : Int} {daemon final : Daemon} {shown : List AcuEvent}
    (watching : Watching base daemon shown) {args : PollArgs} (history : args.kind = .history)
    {frameIndex : Int} {turn : Turn} {s : NetSys} {pkt : Memory}
    (exchange : Exchange daemon final (args.request frameIndex) turn s pkt) :
    Watching base final (shown ++ firstPending s) ∧
      firstPending s = (pendingEvents s.events).take 1 := by
  obtain ⟨db, working, attached, followed⟩ := watching
  obtain ⟨found, store, grows⟩ := exchange.carried.records.events.grows working
  have attachedHere := exchange.carried.records.attached attached
  obtain ⟨after, stored, attachedAfter, events, front, position⟩ :=
    poll_takes store attachedHere exchange.connected exchange.empty args frameIndex
  have handled : handleRequest s (args.request frameIndex).packet.header pkt =
      handleHistoryRequest s (args.header frameIndex) := by
    have synced := requestTimeSync_poll args frameIndex s pkt
    change handleRequest s (args.header frameIndex) pkt = _
    unfold handleRequest
    simp only [synced]
    obtain ⟨kind, excludeStatus, watch, count⟩ := args
    subst history
    rfl
  have later := exchange.carriedLater
  rw [handled] at later
  obtain ⟨last, ends, growsLater⟩ := later.records.events.grows stored
  refine ⟨⟨last, ends, later.records.attached attachedAfter, ?_⟩,
    firstPending_eq store attachedHere⟩
  have here : Followed AcuEvent.seq base found.sentSeq found.events.rows shown := by
    rw [grows.sentSeq]
    exact followed.moved grows.origin
  have took := here.took found.events.ascending front
  rw [← position, ← events] at took
  rw [growsLater.sentSeq]
  exact took.moved growsLater.origin

section Loop

variable {args : PollArgs}

theorem history_watched_from (history : args.kind = .history) {base : Int} {daemon final : Daemon}
    {loop after : PollLoop} {turns : List Turn} {shown : List AcuEvent} (idle : daemon.Idle)
    (watching : Watching base daemon shown)
    (completes : Meets (talk (PollLoop.next args) (PollLoop.answered args))
      (TurnCompletes (PollLoop.next args)) (daemon, loop) turns)
    (reached : run (talk (PollLoop.next args) (PollLoop.answered args)) (daemon, loop) turns =
      some (final, after)) :
    ∃ answers : List (IdtiPacket × NetSys),
      after.output = loop.output ++
        answers.map (fun answer => printedAnswer args answer.1 answer.2) ∧
      answers.length = turns.length ∧
      (∀ index answer, answers[index]? = some answer → ∃ turn here now,
        turns[index]? = some turn ∧
          run (talk (PollLoop.next args) (PollLoop.answered args)) (daemon, loop)
            (turns.take index) = some (here, now) ∧
          DuringRun here turn.inputs answer.2 ∧
          firstPending answer.2 = (pendingEvents answer.2.events).take 1) ∧
      Watching base final (shown ++ answers.flatMap fun answer => firstPending answer.2) := by
  induction turns generalizing daemon loop shown with
  | nil =>
      cases reached
      refine ⟨[], by simp, rfl, fun index answer found => (by cases found), ?_⟩
      rw [List.flatMap_nil, List.append_nil]
      exact watching
  | cons turn turns inductionHypothesis =>
      obtain ⟨⟨next, later⟩, stepped, followed⟩ := run_cons_eq_some reached
      obtain ⟨s, pkt, packet, exchange, replies, rfl⟩ := poll_turn idle completes.1 stepped
      obtain ⟨watchingLater, first⟩ := watching.turn history exchange
      obtain ⟨answers, output, count, each, ends⟩ :=
        inductionHypothesis exchange.idle watchingLater (completes.2 _ stepped) followed
      refine ⟨(packet, s) :: answers, ?_, by rw [List.length_cons, count, List.length_cons], ?_, ?_⟩
      · rw [output, List.map_cons, ← printed_reply replies]
        exact List.append_assoc _ _ _
      · intro index answer found
        cases index with
        | zero =>
            cases found
            exact ⟨turn, daemon, loop, rfl, rfl, exchange.during, first⟩
        | succ index =>
            obtain ⟨other, here, now, place, ran, during, pending⟩ := each index answer found
            refine ⟨other, here, now, place, ?_, during, pending⟩
            rw [List.take_succ_cons, run_cons, stepped]
            exact ran
      · rw [List.flatMap_cons, ← List.append_assoc]
        exact ends

end Loop

/-- Every run of the history loop: each reply shows the first event that is pending when its
request is handled, so that the events shown are in order and none is shown twice; and of the
events that the store still holds, those from the start on that were shown are exactly those
in front of the read position, over all cards, alarms, reloads and trimming in between. -/
theorem history_watched (args : PollArgs) (history : args.kind = .history) (daemon : Daemon)
    (idle : daemon.Idle) (db : EventsDb) (working : WorkingStore daemon.sys.events db)
    (attached : daemon.sys.net.eventsAttached = true) (turns : List Turn)
    (completes : Meets (talk (PollLoop.next args) (PollLoop.answered args))
      (TurnCompletes (PollLoop.next args)) (daemon, IdtiClient.pollLoop) turns)
    (final : Daemon) (after : PollLoop)
    (reached : run (talk (PollLoop.next args) (PollLoop.answered args))
      (daemon, IdtiClient.pollLoop) turns = some (final, after)) :
    ∃ (answers : List (IdtiPacket × NetSys)) (later : EventsDb) (shown : List AcuEvent),
      after.output = answers.map (fun answer => printedAnswer args answer.1 answer.2) ∧
      answers.length = turns.length ∧
      (∀ index answer, answers[index]? = some answer → ∃ turn here now,
        turns[index]? = some turn ∧
          run (talk (PollLoop.next args) (PollLoop.answered args)) (daemon, IdtiClient.pollLoop)
            (turns.take index) = some (here, now) ∧
          DuringRun here turn.inputs answer.2 ∧
          firstPending answer.2 = (pendingEvents answer.2.events).take 1) ∧
      shown = (answers.flatMap fun answer => firstPending answer.2) ∧
      WorkingStore final.sys.events later ∧ Ascending AcuEvent.seq shown ∧
      (∀ event ∈ shown, db.sentSeq < event.seq) ∧
      ∀ row ∈ later.events.rows, db.sentSeq < row.seq →
        (row ∈ shown ↔ row.seq ≤ later.sentSeq) := by
  obtain ⟨answers, output, count, each, later, ends, _, followed⟩ :=
    @history_watched_from args history db.sentSeq daemon final IdtiClient.pollLoop after turns []
      idle ⟨db, working, attached, .start AcuEvent.seq db.sentSeq db.events.rows⟩ completes reached
  exact ⟨answers, later, _, output, count, each, rfl, ends, followed.ascending,
    fun event member => (followed.within event member).1,
    fun row member above => followed.mem_iff member above⟩

/-! ### An alarm after the first connection -/

/-- The daemon after its first client came and the alarm input was triggered. -/
def alarmSeen : Option Daemon :=
  firstConnection.bind fun daemon =>
    daemon.step (.cardReadable { doorOpen := false, alarm := true, fire := false } [] [])

theorem firstConnection_events {daemon : Daemon} (first : firstConnection = some daemon) :
    ∃ db, WorkingStore daemon.sys.events db := by
  obtain ⟨started, starts, stepped⟩ := Option.bind_eq_some_iff.mp first
  cases stepped
  have opened := mainStart_events starts
  have works : EventsDb.PositionWorks
      { events := EventTable.empty, sentSeq := 0, faults := Faults.none } :=
    ⟨fun _ => rfl, fun _ => rfl⟩
  have repaired := EventsDb.repairIndex_works works
  have same : (started.onNet fun s => netOnListenReady s (some 8)).sys.events =
      started.sys.events := by
    unfold Daemon.onNet
    split
    next => exact netOnListenReady_events started.sys (some 8)
    next => rfl
  refine ⟨_, ⟨?_, repaired.reads, repaired.updates, EventsDb.repairIndex_sound works⟩⟩
  rw [same, opened]
  rfl

/-- The alarm is pending, and the connection is as it was. -/
theorem alarmSeen_idle :
    ∃ daemon db, alarmSeen = some daemon ∧ daemon.Idle ∧ daemon.sys.link.Takes ∧
      WorkingStore daemon.sys.events db ∧ daemon.sys.net.eventsAttached = true ∧
      (pendingEvents daemon.sys.events).map AcuEvent.eventCode = [idtiEventAlarmDetected] := by
  have measured : alarmSeen.map (fun daemon => (daemon.sys.net.eventsAttached,
      (pendingEvents daemon.sys.events).map AcuEvent.eventCode)) =
        some (true, [idtiEventAlarmDetected]) := by decide +kernel
  obtain ⟨daemon, seen, facts⟩ := Option.map_eq_some_iff.mp measured
  simp only [Prod.mk.injEq] at facts
  obtain ⟨first, connects, stepped⟩ := Option.bind_eq_some_iff.mp seen
  obtain ⟨same, found, idle, takes, _⟩ := firstConnection_idle
  rw [connects] at found
  cases found
  obtain ⟨db, working⟩ := firstConnection_events connects
  have other : ∀ ready answer,
      Input.cardReadable { doorOpen := false, alarm := true, fire := false } [] [] ≠
        .clientReady ready answer := by
    intro ready answer same
    cases same
  obtain ⟨later, store, _⟩ := (step_records first other stepped).events.grows working
  cases stepped
  have link := onCardReadable_link first { doorOpen := false, alarm := true, fire := false } [] []
  have up := onCardReadable_netUp first { doorOpen := false, alarm := true, fire := false } [] []
  refine ⟨_, later, seen, ⟨⟨up.trans idle.live.1, ?_⟩, ?_, ?_⟩, ?_, store, facts.1, facts.2⟩
  · rw [link]
    exact idle.live.2
  · rw [link]
    exact idle.read
  · rw [link]
    exact idle.sent
  · rw [link]
    exact takes

/-- Three polls of the history. -/
def historyThrice : PollArgs :=
  { kind := .history
    excludeStatus := true
    watch := false
    count := 3 }

theorem history_watched_alarm :
    ∃ (daemon final : Daemon) (db : EventsDb) (turns : List Turn) (after : PollLoop),
      alarmSeen = some daemon ∧ turns.length = 3 ∧
      (pendingEvents daemon.sys.events).map AcuEvent.eventCode = [idtiEventAlarmDetected] ∧
      ∃ (answers : List (IdtiPacket × NetSys)) (later : EventsDb) (shown : List AcuEvent),
        after.output = answers.map (fun answer => printedAnswer historyThrice answer.1 answer.2) ∧
        answers.length = turns.length ∧
        (∀ index answer, answers[index]? = some answer → ∃ (turn : Turn) (here : Daemon)
            (now : PollLoop),
          turns[index]? = some turn ∧
            run (talk (PollLoop.next historyThrice) (PollLoop.answered historyThrice))
              (daemon, IdtiClient.pollLoop) (turns.take index) = some (here, now) ∧
            DuringRun here turn.inputs answer.2 ∧
            firstPending answer.2 = (pendingEvents answer.2.events).take 1) ∧
        shown = (answers.flatMap fun answer => firstPending answer.2) ∧
        WorkingStore final.sys.events later ∧ Ascending AcuEvent.seq shown ∧
        (∀ event ∈ shown, db.sentSeq < event.seq) ∧
        ∀ row ∈ later.events.rows, db.sentSeq < row.seq →
          (row ∈ shown ↔ row.seq ≤ later.sentSeq) := by
  obtain ⟨daemon, db, seen, idle, takes, working, attached, pending⟩ := alarmSeen_idle
  obtain ⟨turns, final, after, completes, reached, length⟩ :=
    @polls_end historyThrice rfl (by decide) (by decide) daemon idle takes
  have three : (historyThrice.count : Int) = 3 := rfl
  exact ⟨daemon, final, db, turns, after, seen, by omega, pending,
    history_watched historyThrice rfl daemon idle db working attached turns completes final after
      reached⟩

end Acud
