/-
Module: Acud.Proofs.Delivery
Purpose: At-least-once delivery of events over polls whose replies may be lost.
Trusted boundary: none
Main exports:
  Delivery, DeliveryOp, deliveryStep, Delivery.Start, UndeliveredKept,
  Delivery.view, Delivery.Invariant, deliveryStep_cursorsHold, delivery_at_least_once
-/
import Acud.Lib.Redelivery
import Acud.Proofs.HistoryPoll

namespace Acud

open Lib

/-!
The upper system polls, and asks for the last batch again when it did not receive
the reply to its previous poll.  `Delivery` is the daemon's side together with what
the upper system has: every event it received, in order of arrival, and whether it
is still waiting for a reply.

Two cursors carry the guarantee: `sent_seq` in the database and the first seq of
the last batch in memory.  The daemon and its store are a `Redelivery` of events:
every step here is a poll or an append there, or leaves it as it is.

Reads of the database and writes of its read position succeed here; writing and
deleting rows may fail.
-/

/-! ### The two sides -/

structure Delivery where
  sys : NetSys
  /-- The events that were pending at the start and those appended since. -/
  history : List AcuEvent
  received : List AcuEvent
  /-- The batch of the last poll whose reply carried events. -/
  lastBatch : List AcuEvent
  /-- The reply to the previous poll was not received. -/
  missing : Bool
  /-- Some reply was not received. -/
  everLost : Bool

inductive DeliveryOp where
  | append (event : AcuEvent)
  | poll (hdr : IdtiHeader) (arrives : Bool)
  /-- Connections come and go, bytes are sent, and time passes. -/
  | environment (link : Link) (clock : Clock)
  | setBatchSize (size : Int)

/-- The reply to a poll was accepted for sending. -/
def pollAccepted (s : NetSys) (hdr : IdtiHeader) : Bool :=
  match pollReply s hdr with
  | none => false
  | some out => (netQueueSend s.link out).1

/-- The events a poll sends. -/
def sentBatch (s : NetSys) (hdr : IdtiHeader) : List AcuEvent :=
  if pollAccepted s hdr then pollBatch s hdr else []

/-- A reply that was not accepted cannot arrive, and `ReRequestEvent` is set exactly
when a reply is missing. -/
def deliveryStep (d : Delivery) : DeliveryOp → Option Delivery
  | .append event =>
      let stored := eventsAppend d.sys.events event
      some
        { d with
          sys := { d.sys with events := stored.2 }
          history :=
            if stored.1 then d.history ++ [appendedRow d.sys.events event] else d.history }
  | .poll hdr arrives =>
      if hdr.hasOption idtiFoptReRequestEvent ≠ d.missing then none
      else if arrives && !pollAccepted d.sys hdr then none
      else
        let batch := sentBatch d.sys hdr
        some
          { sys := handleHistoryRequest d.sys hdr
            history := d.history
            received := if arrives then d.received ++ batch else d.received
            lastBatch := if batch.isEmpty then d.lastBatch else batch
            missing := !arrives
            everLost := d.everLost || !arrives }
  | .environment link clock => some { d with sys := { d.sys with link := link, clock := clock } }
  | .setBatchSize size =>
      some { d with sys := { d.sys with net := netSetEventStore d.sys.net size } }

/-- The read position of the store. -/
def Delivery.sentSeq (d : Delivery) : Int :=
  (sentPosition d.sys.events).getD 0

/-- The rows of the store. -/
def Delivery.rows (d : Delivery) : List AcuEvent :=
  match d.sys.events.db with
  | none => []
  | some db => db.events.rows

/-- A new network unit over a store that was opened: nothing was sent yet in its
life, and nothing is missing. -/
structure Delivery.Start (d : Delivery) (file : EventsDb) (capacity : Int) : Prop where
  opened : d.sys.events = eventsOpen (some file) capacity
  reads : file.faults.Never .select
  updates : file.faults.Never .update
  attached : d.sys.net.eventsAttached = true
  fresh : d.sys.net.lastBatchFirstSeq = 0
  history : d.history = pendingEvents d.sys.events
  received : d.received = []
  lastBatch : d.lastBatch = []
  missing : d.missing = false
  everLost : d.everLost = false

/-- An append trims no event that was not received. -/
def UndeliveredKept (d : Delivery) (op : DeliveryOp) : Prop :=
  ∀ event, op = .append event →
    ∀ next, deliveryStep d op = some next →
      ∀ old ∈ d.rows, old ∈ d.history → old ∉ d.received → old ∈ next.rows

/-! ### The store under an append and a poll -/

/-- A database whose reads and position writes succeed. -/
structure WorkingStore (ev : AcuEvents) (db : EventsDb) : Prop where
  attached : ev.db = some db
  reads : db.faults.Never .select
  updates : db.faults.Never .update
  sound : db.ReadIndexSound

theorem WorkingStore.readIndexSound {ev : AcuEvents} {db : EventsDb}
    (working : WorkingStore ev db) : ev.ReadIndexSound := by
  intro other attached
  rw [working.attached] at attached
  cases attached
  exact working.sound

theorem WorkingStore.works {ev : AcuEvents} {db : EventsDb} (working : WorkingStore ev db) :
    db.PositionWorks :=
  ⟨working.reads, working.updates⟩

/-- Where a poll starts to read. -/
def rewoundPosition (s : NetSys) (db : EventsDb) (hdr : IdtiHeader) : Int :=
  if hdr.hasOption idtiFoptReRequestEvent ∧ 0 < s.net.lastBatchFirstSeq then
    min db.sentSeq (s.net.lastBatchFirstSeq - 1)
  else db.sentSeq

theorem pollStart_store {s : NetSys} {db : EventsDb} (working : WorkingStore s.events db)
    (attached : s.net.eventsAttached = true) (hdr : IdtiHeader) :
    ∃ rewound, WorkingStore (pollStart s hdr).events rewound ∧
      rewound.events = db.events ∧ rewound.sentSeq = rewoundPosition s db hdr ∧
      (pollStart s hdr).net = s.net := by
  have sound := pollStart_sound working.readIndexSound hdr
  have reads := working.reads.succeeds
  have updates := working.updates.succeeds
  unfold pollStart historyRewind rewoundPosition at *
  simp only [attached, Bool.and_true, Bool.and_eq_true, decide_eq_true_eq, gt_iff_lt] at sound ⊢
  split at sound
  next asked =>
    simp only [asked, and_self, ↓reduceIte]
    have positive : ¬ s.net.lastBatchFirstSeq ≤ 0 := by omega
    revert sound
    simp only [eventsRewindToSeq, working.attached, positive, ↓reduceIte,
      EventsDb.scalarWith, reads, Option.getD_some]
    split
    next behind =>
      intro sound
      exact ⟨db, working, rfl, by omega, trivial⟩
    next ahead =>
      intro sound
      simp only [EventsDb.setSentSeq, updates, ↓reduceIte] at sound ⊢
      refine ⟨_, ⟨rfl, working.reads, working.updates, sound _ rfl⟩, rfl, ?_, trivial⟩
      simp only
      omega
  next asked =>
    simp only [asked, ↓reduceIte]
    exact ⟨db, working, rfl, rfl, trivial⟩

/-- What a poll leaves in the store and in memory, told from the batch it sent. -/
structure PollEffect (s : NetSys) (db : EventsDb) (hdr : IdtiHeader) (after : EventsDb) :
    Prop where
  store : WorkingStore (handleHistoryRequest s hdr).events after
  events : after.events = db.events
  front : sentBatch s hdr <+: db.events.after (rewoundPosition s db hdr)
  sentSeq : after.sentSeq =
    ((sentBatch s hdr).getLast?.map AcuEvent.seq).getD (rewoundPosition s db hdr)
  firstSeq : (handleHistoryRequest s hdr).net.lastBatchFirstSeq =
    ((sentBatch s hdr).head?.map AcuEvent.seq).getD s.net.lastBatchFirstSeq
  attached : (handleHistoryRequest s hdr).net.eventsAttached = s.net.eventsAttached

/-- Acknowledging a batch in front of a working store. -/
theorem historyAck_store {s : NetSys} {db : EventsDb} (working : WorkingStore s.events db)
    {batch : List AcuEvent} (front : batch <+: db.events.after db.sentSeq) :
    ∃ after, WorkingStore (historyAck s batch).events after ∧ after.events = db.events ∧
      after.sentSeq = (batch.getLast?.map AcuEvent.seq).getD db.sentSeq := by
  by_cases nonempty : batch = []
  · subst nonempty
    exact ⟨db, working, rfl, rfl⟩
  · have member := front.subset (List.getLast_mem nonempty)
    have above : db.sentSeq < (batch.getLast nonempty).seq := by
      simpa using (List.mem_filter.mp member).2
    have positive : ¬ (batch.getLast nonempty).seq ≤ 0 := by
      have stored := db.events.positive _ (List.mem_filter.mp member).1
      omega
    have pending : batch.getLast nonempty ∈ pendingEvents s.events := by
      simp only [pendingEvents, working.attached]
      exact member
    have sound := eventsAck_sound working.readIndexSound pending
    have updates := working.updates.succeeds
    rw [historyAck_events s nonempty, List.getLast?_eq_some_getLast nonempty]
    revert sound
    simp only [eventsAck, positive, ↓reduceIte, working.attached, updates, above]
    intro sound
    exact ⟨_, ⟨rfl, working.reads, working.updates, sound _ rfl⟩, rfl, rfl⟩

/-- An acknowledgement remembers where its batch began. -/
theorem historyAck_net (s : NetSys) (batch : List AcuEvent) :
    (historyAck s batch).net.lastBatchFirstSeq =
        (batch.head?.map AcuEvent.seq).getD s.net.lastBatchFirstSeq ∧
      (historyAck s batch).net.eventsAttached = s.net.eventsAttached := by
  cases batch with
  | nil => exact ⟨rfl, rfl⟩
  | cons first rest => exact ⟨rfl, rfl⟩

theorem poll_effect {s : NetSys} {db : EventsDb} (working : WorkingStore s.events db)
    (attached : s.net.eventsAttached = true) (hdr : IdtiHeader) :
    ∃ after, PollEffect s db hdr after := by
  obtain ⟨rewound, store, events, position, net⟩ := pollStart_store working attached hdr
  have front : pollBatch s hdr <+: rewound.events.after rewound.sentSeq := by
    have pending := pollBatch_prefix working.readIndexSound hdr
    simpa only [pendingEvents, store.attached] using pending
  rw [← pollFetched_eq working.readIndexSound hdr] at store net
  have outcome := handleHistoryRequest_outcome s hdr
  generalize polled : handleHistoryRequest s hdr = after at outcome
  -- without an accepted reply the batch that counts is empty
  have unsent (refused : pollAccepted s hdr = false)
      (sameEvents : after.events = (pollFetched s hdr).events)
      (sameNet : after.net = (pollFetched s hdr).net) : PollEffect s db hdr rewound := by
    have none : sentBatch s hdr = [] := by simp [sentBatch, refused]
    refine
      { store := by rw [polled, sameEvents]; exact store
        events := events
        front := by rw [none]; exact List.nil_prefix
        sentSeq := by rw [none]; exact position
        firstSeq := by rw [none, polled, sameNet, net]; rfl
        attached := by rw [polled, sameNet, net] }
  cases outcome with
  | unbuilt none => exact ⟨rewound, unsent (by simp [pollAccepted, none]) rfl rfl⟩
  | refused built refused =>
      exact ⟨rewound, unsent (by simp [pollAccepted, built, refused]) rfl rfl⟩
  | @accepted out built accepted =>
      have sent : sentBatch s hdr = pollBatch s hdr := by
        simp [sentBatch, pollAccepted, built, accepted]
      have queued : WorkingStore (pollQueued s hdr out).events rewound := store
      have sameNet : (pollQueued s hdr out).net = s.net := net
      obtain ⟨acknowledged, acked, sameEvents, last⟩ := historyAck_store queued front
      obtain ⟨first, kept⟩ := historyAck_net (pollQueued s hdr out) (pollBatch s hdr)
      refine ⟨acknowledged,
        { store := by rw [polled]; exact acked
          events := sameEvents.trans events
          front := by rw [sent, ← events, ← position]; exact front
          sentSeq := by rw [sent, last, position]
          firstSeq := by rw [polled, sent, first, sameNet]
          attached := by rw [polled, kept, sameNet] }⟩

/-- What an append leaves of a working store. -/
structure AppendEffect (db after : EventsDb) (event : AcuEvent) : Prop where
  sentSeq : after.sentSeq = db.sentSeq
  autoSeq : after.events.autoSeq = db.events.autoSeq + 1
  origin : ∀ row ∈ after.events.rows,
    row ∈ db.events.rows ∨ row = db.events.numbered event
  new : db.events.numbered event ∈ after.events.rows

theorem append_written (db : EventsDb) (event : AcuEvent) :
    AppendEffect db
      { db with events := db.events.insert event, faults := db.faults.next } event :=
  { sentSeq := rfl
    autoSeq := rfl
    origin := by
      intro row member
      rcases List.mem_append.mp member with old | new
      · exact .inl old
      · exact .inr (List.mem_singleton.mp new)
    new := List.mem_append_right _ (List.mem_singleton_self _) }

/-- Trimming takes rows away, but not the one just written. -/
theorem append_trimmed (db : EventsDb) {capacity : Int} (positive : 0 < capacity)
    (event : AcuEvent) :
    AppendEffect db
      (EventsDb.trimIfNeeded
        { db with events := db.events.insert event, faults := db.faults.next } capacity)
      event := by
  have written := append_written db event
  have trimming := @EventsDb.trimIfNeeded_cases
    { db with events := db.events.insert event, faults := db.faults.next } capacity _
    positive (db.events.maxSeq_insert event)
  rcases trimming with same | failed | ⟨cut, bound, trimmed⟩
  · rw [same]
    exact written
  · rw [failed]
    exact { written with }
  · rw [trimmed]
    refine { written with origin := ?_, new := ?_ }
    · intro row member
      exact written.origin row (List.mem_filter.mp member).1
    · exact List.mem_filter.mpr ⟨written.new, decide_eq_true bound⟩

theorem EventsDb.trimIfNeeded_ok (db : EventsDb) (capacity : Int) :
    (db.trimIfNeeded capacity).faults.ok = db.faults.ok := by
  unfold trimIfNeeded
  split
  next => rfl
  next =>
    split
    next => rfl
    next => rfl

theorem append_effect {ev : AcuEvents} {db : EventsDb} (working : WorkingStore ev db)
    (event : AcuEvent) :
    ∃ after, WorkingStore (eventsAppend ev event).2 after ∧
      if (eventsAppend ev event).1 then AppendEffect db after event
      else after.events = db.events ∧ after.sentSeq = db.sentSeq := by
  have sound := eventsAppend_sound working.readIndexSound event
  have positive := ev.capacityPositive
  revert sound
  unfold eventsAppend
  simp only [working.attached, EventsDb.repairIndex_of_sound working.sound]
  split
  next =>
    have written := append_written db event
    split
    next =>
      intro sound
      have trimmed := append_trimmed db positive event
      have oracle := EventsDb.trimIfNeeded_ok
        { db with events := db.events.insert event, faults := db.faults.next } ev.capacity
      have works := working.works.of_ok oracle
      exact ⟨_, ⟨rfl, works.reads, works.updates, sound _ rfl⟩, by simpa using trimmed⟩
    next =>
      intro sound
      exact ⟨_, ⟨rfl, working.reads, working.updates, sound _ rfl⟩, by simpa using written⟩
  next =>
    intro sound
    exact ⟨_, ⟨rfl, working.reads, working.updates, sound _ rfl⟩, by simp⟩

/-! ### Steps of the redelivery -/

/-- The daemon and its store as a log read behind two cursors. -/
def Delivery.view (d : Delivery) (db : EventsDb) (base : Int) : Redelivery AcuEvent :=
  { history := d.history
    stored := db.events.rows
    top := db.events.autoSeq
    base := base
    position := db.sentSeq
    first := d.sys.net.lastBatchFirstSeq
    lastBatch := d.lastBatch
    received := d.received
    missing := d.missing
    everLost := d.everLost }

structure Delivery.Invariant (d : Delivery) (db : EventsDb) (base cut : Int) : Prop where
  store : WorkingStore d.sys.events db
  attached : d.sys.net.eventsAttached = true
  cursors : (d.view db base).Invariant AcuEvent.seq cut

/-- The cursors are right for some store, start and cut. -/
def Delivery.CursorsHold (d : Delivery) : Prop :=
  ∃ db base cut, d.Invariant db base cut

/-- Nothing was sent yet: the cursors stand at the read position. -/
theorem Delivery.Start.cursors {d : Delivery} {file : EventsDb} {capacity : Int}
    (start : d.Start file capacity) {db : EventsDb} (working : WorkingStore d.sys.events db) :
    (d.view db db.sentSeq).Invariant AcuEvent.seq db.sentSeq := by
  have history : d.history = db.events.after db.sentSeq := by
    rw [start.history]
    simp only [pendingEvents, working.attached]
  have pending {event : AcuEvent} (member : event ∈ d.history) :
      event ∈ db.events.rows ∧ db.sentSeq < event.seq := by
    rw [history] at member
    simpa [EventTable.after] using member
  have behind := Int.le_trans working.sound db.events.maxSeq_le_autoSeq
  exact
    { historyAscending := by
        show Ascending AcuEvent.seq d.history
        rw [history]
        exact db.events.ascending.filter _
      historyBounded := fun event member => db.events.bounded event (pending member).1
      storedAscending := db.events.ascending
      storedPositive := db.events.positive
      storedBounded := db.events.bounded
      known := by
        intro event member above
        show event ∈ d.history
        rw [history]
        exact List.mem_filter.mpr ⟨member, decide_eq_true above⟩
      kept := fun event member _ => (pending member).1
      fromHistory := by simp [view, start.received]
      cutoff := by
        intro event member
        have above := (pending member).2
        simp only [view, start.received, List.not_mem_nil, false_iff]
        omega
      cutBounded := behind
      base_le := Int.le_refl _
      position_le := behind
      firstOfBatch := by simp [view, start.fresh, start.lastBatch]
      batchPositive := by simp [view, start.lastBatch]
      first_le := by simp [view, start.fresh]
      beforeFirst := by simp [view, start.fresh]
      nothingSent := by
        intro _ event member bound
        have above := (pending member).2
        have bound : event.seq ≤ db.sentSeq := bound
        omega
      caughtUp := by
        intro _ event member bound
        have above := (pending member).2
        have bound : event.seq ≤ db.sentSeq := bound
        omega
      lost := by simp [view, start.missing]
      inOrder := by simp [view, start.received, Ascending] }

theorem Delivery.Start.cursorsHold {d : Delivery} {file : EventsDb} {capacity : Int}
    (start : d.Start file capacity) : d.CursorsHold := by
  have works : file.PositionWorks := ⟨start.reads, start.updates⟩
  have repaired := EventsDb.repairIndex_works works
  have working : WorkingStore d.sys.events file.repairIndex.2 :=
    { attached := by rw [start.opened]; rfl
      reads := repaired.reads
      updates := repaired.updates
      sound := EventsDb.repairIndex_sound works }
  exact ⟨_, _, _, working, start.attached, start.cursors working⟩

/-- What was appended is stored, and the trim spares what is undelivered. -/
theorem append_invariant {d next : Delivery} {db : EventsDb} {base cut : Int}
    (invariant : d.Invariant db base cut) {event : AcuEvent}
    (spared : UndeliveredKept d (.append event))
    (stepped : deliveryStep d (.append event) = some next) : next.CursorsHold := by
  have keeps := spared event rfl next stepped
  obtain ⟨after, store, effect⟩ := append_effect invariant.store event
  cases stepped
  have row : appendedRow d.sys.events event = db.events.numbered event := by
    simp only [appendedRow, invariant.store.attached]
  simp only [Delivery.rows, store.attached, invariant.store.attached] at keeps
  cases written : (eventsAppend d.sys.events event).1 with
  | false =>
      simp only [written, Bool.false_eq_true, ↓reduceIte] at effect keeps ⊢
      obtain ⟨same, position⟩ := effect
      refine ⟨after, base, cut, store, invariant.attached, ?_⟩
      have cursors := invariant.cursors
      unfold Delivery.view at cursors ⊢
      rw [same, position]
      exact cursors
  | true =>
      simp only [written, ↓reduceIte] at effect keeps ⊢
      refine ⟨after, base, cut, store, invariant.attached, ?_⟩
      have started := db.events.started
      have positive : 0 < (db.events.numbered event).seq := by
        show 0 < db.events.autoSeq + 1
        omega
      have above : db.events.autoSeq < (db.events.numbered event).seq := by
        show db.events.autoSeq < db.events.autoSeq + 1
        omega
      have appended := invariant.cursors.append positive above after.events.ascending
        effect.origin effect.new keeps
      unfold Redelivery.append Delivery.view at appended
      unfold Delivery.view
      simp only [row, effect.sentSeq, effect.autoSeq]
      exact appended

/-- The daemon reads where the redelivery does, when the upper system asks again for
what is missing. -/
theorem view_start {d : Delivery} (db : EventsDb) (base : Int) {hdr : IdtiHeader}
    (asked : hdr.hasOption idtiFoptReRequestEvent = d.missing) :
    (d.view db base).start = rewoundPosition d.sys db hdr := by
  unfold Redelivery.start rewoundPosition
  rw [asked]
  rfl

theorem poll_invariant {d next : Delivery} {db : EventsDb} {base cut : Int}
    (invariant : d.Invariant db base cut) {hdr : IdtiHeader} {arrives : Bool}
    (stepped : deliveryStep d (.poll hdr arrives) = some next) : next.CursorsHold := by
  obtain ⟨after, effect⟩ := poll_effect invariant.store invariant.attached hdr
  simp only [deliveryStep] at stepped
  split at stepped
  next => cases stepped
  next asked =>
    split at stepped
    next => cases stepped
    next =>
      cases stepped
      have start := view_start db base (not_not.mp asked)
      have front : sentBatch d.sys hdr <+: (d.view db base).waiting AcuEvent.seq := by
        unfold Redelivery.waiting
        rw [start]
        exact effect.front
      obtain ⟨later, cursors⟩ := invariant.cursors.poll front arrives
      refine ⟨after, base, later, effect.store, effect.attached.trans invariant.attached, ?_⟩
      unfold Redelivery.poll at cursors
      rw [start] at cursors
      unfold Delivery.view at cursors ⊢
      simp only [effect.events, effect.sentSeq, effect.firstSeq]
      exact cursors

/-- Every step keeps the cursors right. -/
theorem deliveryStep_cursorsHold {d next : Delivery} {op : DeliveryOp}
    (holds : d.CursorsHold) (spared : UndeliveredKept d op)
    (stepped : deliveryStep d op = some next) : next.CursorsHold := by
  obtain ⟨db, base, cut, invariant⟩ := holds
  cases op with
  | append event => exact append_invariant invariant spared stepped
  | poll hdr arrives => exact poll_invariant invariant stepped
  | environment link clock =>
      cases stepped
      exact ⟨db, base, cut, { invariant with }⟩
  | setBatchSize size =>
      cases stepped
      exact ⟨db, base, cut, { invariant with attached := rfl }⟩

/-! ### Runs -/

/-- At least once, in order, and exactly once while nothing gets lost. -/
theorem delivery_at_least_once {start final : Delivery} {file : EventsDb} {capacity : Int}
    (started : start.Start file capacity) {ops : List DeliveryOp}
    (spared : Guarded deliveryStep UndeliveredKept start ops)
    (reached : run deliveryStep start ops = some final) :
    (∃ count, ∀ event, event ∈ final.received ↔ event ∈ final.history.take count) ∧
      (∀ event ∈ final.history, event.seq ≤ final.sentSeq →
        (∀ last ∈ final.lastBatch, event.seq < last.seq) → event ∈ final.received) ∧
      (final.everLost = false → final.received.Nodup) := by
  have holds : final.CursorsHold :=
    spared.invariant (fun _ _ _ => deliveryStep_cursorsHold) started.cursorsHold reached
  obtain ⟨db, base, cut, invariant⟩ := holds
  have position : final.sentSeq = db.sentSeq := by
    simp only [Delivery.sentSeq, sentPosition, invariant.store.attached, Option.map_some,
      Option.getD_some]
  refine ⟨invariant.cursors.received_prefix, ?_, invariant.cursors.received_nodup⟩
  intro event member sent older
  rw [position] at sent
  exact invariant.cursors.received_before_last member sent older

/-- The two sides when the upper system has just connected. -/
def Delivery.opened (s : NetSys) : Delivery :=
  { sys := s
    history := pendingEvents s.events
    received := []
    lastBatch := []
    missing := false
    everLost := false }

/-- One event, whose reply is lost the first time. -/
def lostReply : List DeliveryOp :=
  [.append default, .poll (pollHeader 0) false, .poll (pollHeader idtiFoptReRequestEvent) true]

theorem mainStart_events {start : StartUp} {daemon : Daemon}
    (started : mainStart start = some daemon) :
    daemon.sys.events = eventsOpen start.events start.eventsCapacity := by
  unfold mainStart at started
  split at started
  next => cases started
  next =>
    cases started
    rfl

theorem delivery_at_least_once_lost_reply :
    ∃ s final, connectedStart (fun _ => .accepted 4096) = some s ∧
      run deliveryStep (Delivery.opened s) lostReply = some final ∧
      final.received.length = 1 ∧
      (∃ count, ∀ event, event ∈ final.received ↔ event ∈ final.history.take count) ∧
      (∀ event ∈ final.history, event.seq ≤ final.sentSeq →
        (∀ last ∈ final.lastBatch, event.seq < last.seq) → event ∈ final.received) ∧
      (final.everLost = false → final.received.Nodup) := by
  have measured : ((connectedStart fun _ => .accepted 4096).map fun s =>
      ((run deliveryStep (Delivery.opened s) lostReply).map fun d => d.received.length,
        (Delivery.opened s).rows.length, s.net.eventsAttached, s.net.lastBatchFirstSeq)) =
        some (some 1, 0, true, 0) := by decide +kernel
  obtain ⟨s, started, state⟩ := Option.map_eq_some_iff.mp measured
  simp only [Prod.mk.injEq, Option.map_eq_some_iff, List.length_eq_zero_iff] at state
  obtain ⟨⟨final, reached, one⟩, empty, attached, fresh⟩ := state
  have opened : s.events = eventsOpen
      (some { events := EventTable.empty, sentSeq := 0, faults := Faults.none }) 0 := by
    obtain ⟨daemon, main, rfl⟩ := Option.map_eq_some_iff.mp started
    rw [netOnListenReady_events]
    exact mainStart_events main
  refine ⟨s, final, started, reached, one, delivery_at_least_once
    { opened := opened
      reads := fun _ => rfl
      updates := fun _ => rfl
      attached := attached
      fresh := fresh
      history := rfl
      received := rfl
      lastBatch := rfl
      missing := rfl
      everLost := rfl } ?_ reached⟩
  intro first _
  refine ⟨?_, fun second _ => ⟨by rintro _ ⟨⟩, fun third _ => ⟨by rintro _ ⟨⟩, trivial⟩⟩⟩
  intro _ _ _ _ old member
  rw [empty] at member
  cases member

end Acud
