/-
Module: Acud.Proofs.HistoryPoll
Purpose: When a history poll keeps the events whose reply did not get out.
Trusted boundary: none
Main exports:
  HistoryOp, historyStep, ReplyHandedOver, PollKeepsUnsent, LosesReply,
  pollsKeepUnsent_iff
-/
import Acud.Lib.Machine
import Acud.Proofs.EventStore
import Acud.Proofs.ReceiveLoop

namespace Acud

open Lib

/-!
A poll rewinds if it is asked to, fetches a batch, replies, and acknowledges the
batch when the reply was accepted.  `net_queue_send` accepts a reply before it
flushes, so a `send` that fails while the reply goes out closes the connection and
the batch is acknowledged all the same.

* `ReplyHandedOver`: the connection is up and the bytes of the reply are on the
  wire or in the queue, behind everything that was there before;
* `PollKeepsUnsent`: the reply was handed over, or position and pending events are
  what they were before the fetch.
-/

/-! ### One poll -/

/-- The state in which a poll fetches. -/
def pollStart (s : NetSys) (hdr : IdtiHeader) : NetSys :=
  historyRewind s hdr

/-- The events a poll fetches. -/
def pollBatch (s : NetSys) (hdr : IdtiHeader) : List AcuEvent :=
  (historyFetch (pollStart s hdr) hdr).1

/-- The state after the fetch. -/
def pollFetched (s : NetSys) (hdr : IdtiHeader) : NetSys :=
  (historyFetch (pollStart s hdr) hdr).2

/-- The bytes of a poll's reply, if it can be built. -/
def pollReply (s : NetSys) (hdr : IdtiHeader) : Option Bytes :=
  let fetched := pollFetched s hdr
  responseBytes fetched hdr idtiCmdSndData idtiSubcmdRead idtiObjHistory
    (historyData fetched (pollBatch s hdr)) (historyBlock fetched (pollBatch s hdr))

/-- The reply was sent or is queued on a live connection. -/
def ReplyHandedOver (s : NetSys) (hdr : IdtiHeader) : Prop :=
  ∃ out, pollReply s hdr = some out ∧
    netIsConnected (handleHistoryRequest s hdr).link = true ∧
    (handleHistoryRequest s hdr).link.sock.wire ++
        (handleHistoryRequest s hdr).link.conn.unsent =
      s.link.sock.wire ++ s.link.conn.unsent ++ out

/-- The read position and the pending events are those before the fetch. -/
def PollChangesNothing (s : NetSys) (hdr : IdtiHeader) : Prop :=
  sentPosition (handleHistoryRequest s hdr).events = sentPosition (pollStart s hdr).events ∧
    pendingEvents (handleHistoryRequest s hdr).events =
      pendingEvents (pollStart s hdr).events

/-- The events go on the way, or stay where they are. -/
def PollKeepsUnsent (s : NetSys) (hdr : IdtiHeader) : Prop :=
  ReplyHandedOver s hdr ∨ PollChangesNothing s hdr

/-- The batch is not empty, the position can be moved, and a `send` fails while
the reply goes out. -/
def LosesReply (s : NetSys) (hdr : IdtiHeader) : Prop :=
  pollBatch s hdr ≠ [] ∧ AckWorks (pollStart s hdr).events ∧
    SendFailed s.link (handleHistoryRequest s hdr).link

theorem pollStart_link (s : NetSys) (hdr : IdtiHeader) : (pollStart s hdr).link = s.link := by
  unfold pollStart historyRewind
  split <;> rfl

theorem pollStart_sound {s : NetSys} (sound : s.events.ReadIndexSound) (hdr : IdtiHeader) :
    (pollStart s hdr).events.ReadIndexSound := by
  unfold pollStart historyRewind
  split
  next => exact eventsRewindToSeq_sound sound s.net.lastBatchFirstSeq
  next => exact sound

/-- From a sound position a fetch changes nothing. -/
theorem pollFetched_eq {s : NetSys} (sound : s.events.ReadIndexSound) (hdr : IdtiHeader) :
    pollFetched s hdr = pollStart s hdr := by
  unfold pollFetched historyFetch
  split
  next => rw [eventsFetch_of_sound (pollStart_sound sound hdr)]
  next => rfl

theorem pollBatch_prefix {s : NetSys} (sound : s.events.ReadIndexSound) (hdr : IdtiHeader) :
    pollBatch s hdr <+: pendingEvents (pollStart s hdr).events := by
  unfold pollBatch historyFetch
  split
  next =>
    cases fetched : (eventsFetch (pollStart s hdr).events
        (historyMax (pollStart s hdr).net hdr)).1 with
    | none => exact List.nil_prefix
    | some batch => exact eventsFetch_prefix (pollStart_sound sound hdr) fetched
  next => exact List.nil_prefix

/-- The state after a reply was queued, before the batch is acknowledged. -/
def pollQueued (s : NetSys) (hdr : IdtiHeader) (out : Bytes) : NetSys :=
  { pollFetched s hdr with link := (netQueueSend s.link out).2 }

/-- The outcomes of a poll: no reply is accepted and only the fetch happened, or
the reply is accepted and the batch acknowledged. -/
inductive PollOutcome (s : NetSys) (hdr : IdtiHeader) : NetSys → Prop where
  | unbuilt (none : pollReply s hdr = none) : PollOutcome s hdr (pollFetched s hdr)
  | refused {out : Bytes} (built : pollReply s hdr = some out)
      (refused : (netQueueSend s.link out).1 = false) :
      PollOutcome s hdr (pollQueued s hdr out)
  | accepted {out : Bytes} (built : pollReply s hdr = some out)
      (accepted : (netQueueSend s.link out).1 = true) :
      PollOutcome s hdr (historyAck (pollQueued s hdr out) (pollBatch s hdr))

theorem handleHistoryRequest_outcome (s : NetSys) (hdr : IdtiHeader) :
    PollOutcome s hdr (handleHistoryRequest s hdr) := by
  have link : (pollFetched s hdr).link = s.link := by
    rw [← pollStart_link s hdr]
    unfold pollFetched historyFetch
    split <;> rfl
  have same : handleHistoryRequest s hdr =
      if (historyReply (pollFetched s hdr) hdr (pollBatch s hdr)).1 then
        historyAck (historyReply (pollFetched s hdr) hdr (pollBatch s hdr)).2
          (pollBatch s hdr)
      else (historyReply (pollFetched s hdr) hdr (pollBatch s hdr)).2 := rfl
  rw [same, historyReply, sendResponse]
  cases built : pollReply s hdr with
  | none =>
      rw [pollReply] at built
      rw [built]
      exact .unbuilt built
  | some out =>
      have reply := built
      rw [pollReply] at reply
      rw [reply]
      simp only [link]
      cases queued : (netQueueSend s.link out).1 with
      | false => exact .refused built queued
      | true => exact .accepted built queued

/-! ### The acknowledgement -/

theorem historyAck_events (s : NetSys) {batch : List AcuEvent} (nonempty : batch ≠ []) :
    (historyAck s batch).events = (eventsAck s.events (batch.getLast nonempty).seq).2 := by
  cases batch with
  | nil => exact absurd rfl nonempty
  | cons first rest => rfl

/-- With a batch that can be acknowledged, the acknowledgement is visible. -/
theorem pendingEvents_acknowledged {s : NetSys} {batch : List AcuEvent}
    (nonempty : batch ≠ []) (front : batch <+: pendingEvents s.events)
    (works : AckWorks s.events) :
    pendingEvents (historyAck s batch).events ≠ pendingEvents s.events := by
  obtain ⟨rest, split⟩ := front
  rw [historyAck_events s nonempty, pendingEvents_ack_batch works nonempty split.symm]
  intro same
  apply nonempty
  rw [← split] at same
  simpa using same

/-- Without a batch, or when the position cannot be moved, nothing changes. -/
theorem historyAck_changes_nothing {s : NetSys} {batch : List AcuEvent}
    (vain : ¬ (batch ≠ [] ∧ AckWorks s.events)) :
    sentPosition (historyAck s batch).events = sentPosition s.events ∧
      pendingEvents (historyAck s batch).events = pendingEvents s.events := by
  by_cases nonempty : batch = []
  · subst nonempty
    exact ⟨rfl, rfl⟩
  · have fails : ¬ AckWorks s.events := fun works => vain ⟨nonempty, works⟩
    rw [historyAck_events s nonempty]
    exact (eventsAck_failed fails _).symm

/-- One poll keeps the events whose reply does not get out, unless a `send` fails
while a batch goes out. -/
theorem pollKeepsUnsent_iff_not_losesReply {s : NetSys} (sound : s.events.ReadIndexSound)
    (hdr : IdtiHeader) : PollKeepsUnsent s hdr ↔ ¬ LosesReply s hdr := by
  have fetched := pollFetched_eq sound hdr
  have front := pollBatch_prefix sound hdr
  have outcome := handleHistoryRequest_outcome s hdr
  constructor
  · rintro keeps ⟨nonempty, works, failed⟩
    unfold PollKeepsUnsent ReplyHandedOver PollChangesNothing at keeps
    revert keeps failed outcome
    generalize handleHistoryRequest s hdr = after
    intro outcome keeps failed
    cases outcome with
    | unbuilt =>
        rw [fetched, pollStart_link] at failed
        obtain ⟨call, first, last, _⟩ := failed
        omega
    | refused built refused =>
        rw [(netQueueSend_failed failed).1] at refused
        cases refused
    | @accepted out built accepted =>
        rw [historyAck_link] at failed keeps
        have gone := (netQueueSend_failed failed).2
        rcases keeps with ⟨_, _, connected, _⟩ | ⟨_, unchanged⟩
        · exact Bool.false_ne_true (gone.symm.trans connected)
        · rw [← fetched] at front works unchanged
          have visible : pendingEvents
              (historyAck (pollQueued s hdr out) (pollBatch s hdr)).events ≠
                pendingEvents (pollFetched s hdr).events :=
            pendingEvents_acknowledged nonempty front works
          exact visible unchanged
  · intro keeps
    unfold LosesReply at keeps
    unfold PollKeepsUnsent ReplyHandedOver PollChangesNothing
    revert keeps outcome
    generalize handleHistoryRequest s hdr = after
    intro outcome keeps
    cases outcome with
    | unbuilt =>
        right
        rw [fetched]
        exact ⟨rfl, rfl⟩
    | refused =>
        right
        unfold pollQueued
        rw [fetched]
        exact ⟨rfl, rfl⟩
    | @accepted out built accepted =>
        rw [historyAck_link] at keeps ⊢
        by_cases failed : SendFailed s.link (netQueueSend s.link out).2
        · right
          have vain : ¬ (pollBatch s hdr ≠ [] ∧ AckWorks (pollQueued s hdr out).events) := by
            rintro ⟨nonempty, works⟩
            unfold pollQueued at works
            rw [fetched] at works
            exact keeps ⟨nonempty, works, failed⟩
          have unchanged := historyAck_changes_nothing vain
          unfold pollQueued at unchanged ⊢
          rw [fetched] at unchanged ⊢
          exact unchanged
        · left
          exact ⟨out, built, netQueueSend_accepted accepted failed⟩

/-! ### Runs -/

/-- A poll, a new event, or a change of the connection. -/
inductive HistoryOp where
  | poll (hdr : IdtiHeader)
  | append (event : AcuEvent)
  | listenReady (accepted : Option Nat)
  | flushSend
  | checkInactivity

def historyStep (s : NetSys) : HistoryOp → Option NetSys
  | .poll hdr => some (handleHistoryRequest s hdr)
  | .append event => some { s with events := (eventsAppend s.events event).2 }
  | .listenReady accepted => some (netOnListenReady s accepted)
  | .flushSend => some { s with link := netFlushSend s.link }
  | .checkInactivity => some (netCheckInactivity s)

theorem netOnListenReady_events (s : NetSys) (accepted : Option Nat) :
    (netOnListenReady s accepted).events = s.events := by
  have adopted : ∀ (s : NetSys) fd, (netAdoptClient s fd).events = s.events := by
    intro s fd
    unfold netAdoptClient
    simp only
    split <;> rfl
  unfold netOnListenReady
  split
  next => rfl
  next =>
    rw [adopted]
    split <;> rfl

theorem handleHistoryRequest_sound {s : NetSys} (sound : s.events.ReadIndexSound)
    (hdr : IdtiHeader) : (handleHistoryRequest s hdr).events.ReadIndexSound := by
  have start := pollStart_sound sound hdr
  have fetched := pollFetched_eq sound hdr
  have front := pollBatch_prefix sound hdr
  have outcome := handleHistoryRequest_outcome s hdr
  revert outcome
  generalize handleHistoryRequest s hdr = after
  intro outcome
  cases outcome with
  | unbuilt =>
      rw [fetched]
      exact start
  | refused =>
      unfold pollQueued
      rw [fetched]
      exact start
  | accepted =>
      by_cases nonempty : pollBatch s hdr = []
      · unfold pollQueued
        rw [nonempty, fetched]
        exact start
      · rw [historyAck_events _ nonempty]
        unfold pollQueued
        rw [fetched]
        exact eventsAck_sound start (front.subset (List.getLast_mem nonempty))

theorem historyStep_sound {s later : NetSys} {op : HistoryOp}
    (sound : s.events.ReadIndexSound) (stepped : historyStep s op = some later) :
    later.events.ReadIndexSound := by
  cases op with
  | poll hdr =>
      cases stepped
      exact handleHistoryRequest_sound sound hdr
  | append event =>
      cases stepped
      exact eventsAppend_sound sound event
  | listenReady accepted =>
      cases stepped
      rw [netOnListenReady_events]
      exact sound
  | flushSend =>
      cases stepped
      exact sound
  | checkInactivity =>
      cases stepped
      unfold netCheckInactivity
      repeat' split
      all_goals exact sound

/-- Every poll of a run keeps the events whose reply does not get out, exactly when
in no poll of the run a `send` fails while a batch goes out. -/
theorem pollsKeepUnsent_iff {s : NetSys} (sound : s.events.ReadIndexSound)
    (ops : List HistoryOp) :
    Guarded historyStep (fun s op => ∀ hdr, op = .poll hdr → PollKeepsUnsent s hdr) s ops ↔
      Guarded historyStep (fun s op => ∀ hdr, op = .poll hdr → ¬ LosesReply s hdr) s ops := by
  apply guarded_congr_of_invariant
  · intro s op next sound stepped
    exact historyStep_sound sound stepped
  · intro s op sound
    exact forall₂_congr fun hdr _ => pollKeepsUnsent_iff_not_losesReply sound hdr
  · exact sound

/-- The header of a poll with the given options. -/
def pollHeader (frameOption : UInt16) : IdtiHeader :=
  { packetLength := 46
    protocolVersion := idtiProtocolVersionV2
    frameOption := frameOption
    destAddr := Blob.zeros _
    srcAddr := Blob.zeros _
    frameIndex := 1
    password := 0
    command := idtiCmdReqData
    subCommand := idtiSubcmdRead
    object := idtiObjHistory
    startItem := 0
    endItem := 0
    dataBlockCurrent := 0
    dataBlockEnd := 0
    dataBlockTotal := 0
    dataBlockOneLen := 0
    dataLen := 0 }

theorem pollsKeepUnsent_iff_connected :
    ∃ s, connectedStart (fun _ => .accepted 4096) = some s ∧
      (Guarded historyStep (fun s op => ∀ hdr, op = .poll hdr → PollKeepsUnsent s hdr) s
          [.append default, .poll (pollHeader 0)] ↔
        Guarded historyStep (fun s op => ∀ hdr, op = .poll hdr → ¬ LosesReply s hdr) s
          [.append default, .poll (pollHeader 0)]) := by
  have measured : (connectedStart fun _ => .accepted 4096).map
      (fun s => s.events.db.map fun db => (db.sentSeq, db.events.maxSeq)) =
        some (some (0, none)) := by decide +kernel
  obtain ⟨s, started, empty⟩ := Option.map_eq_some_iff.mp measured
  refine ⟨s, started, pollsKeepUnsent_iff ?_ _⟩
  intro db attached
  rw [attached, Option.map_some, Option.some.injEq, Prod.mk.injEq] at empty
  unfold EventsDb.ReadIndexSound
  rw [empty.1, empty.2]
  exact Int.le_refl 0

/-- One event, one poll, and a socket that fails: the event is no longer pending and
was never sent. -/
theorem failed_poll_loses_event :
    ∃ s, connectedStart (fun _ => .error) = some s ∧
      ¬ Guarded historyStep (fun s op => ∀ hdr, op = .poll hdr → PollKeepsUnsent s hdr) s
        [.append default, .poll (pollHeader 0)] := by
  have measured : (connectedStart fun _ => .error).map (fun s =>
      let appended : NetSys := { s with events := (eventsAppend s.events default).2 }
      let polled := handleHistoryRequest appended (pollHeader 0)
      ((pendingEvents (pollStart appended (pollHeader 0)).events).length,
        (pendingEvents polled.events).length, netIsConnected polled.link)) =
          some (1, 0, false) := by decide +kernel
  obtain ⟨s, started, state⟩ := Option.map_eq_some_iff.mp measured
  simp only [Prod.mk.injEq] at state
  obtain ⟨before, after, gone⟩ := state
  refine ⟨s, started, fun guarded => ?_⟩
  have keeps := ((guarded _ rfl).2 _ rfl).1 (pollHeader 0) rfl
  rcases keeps with ⟨_, _, connected, _⟩ | ⟨_, unchanged⟩
  · exact Bool.false_ne_true (gone.symm.trans connected)
  · rw [unchanged, before] at after
    cases after

end Acud
