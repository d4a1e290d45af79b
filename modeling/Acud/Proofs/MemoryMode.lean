/-
Module: Acud.Proofs.MemoryMode
Purpose: Without a database the newest pending events are the same.
Trusted boundary: none
Main exports:
  EventCall, EventAnswer, eventCall, EventModes, EventModes.Refines, memory_mode_refines
-/
import Acud.Proofs.EventIndex

namespace Acud

open Lib

/-!
Both modes run side by side from an empty store.  The ring physically gives up what was
acknowledged and what it has no room for; the table has a position and is trimmed far
later.  What ties them together: the ring holds the newest 512 pending events of the table
and numbers the next one alike.

Trimming cannot tell the two apart: it leaves at least as many rows as the ring has room
for.

[SRC src/acud/events.c]
-/

/-! ### Without a database -/

section Memory

variable {ev : AcuEvents} (memoryOnly : ev.db = none)
include memoryOnly

theorem eventsAppend_memory (event : AcuEvent) :
    eventsAppend ev event = (true, { ev with ring := ev.ring.push event }) := by
  unfold eventsAppend
  split
  next => rfl
  next attached => cases memoryOnly.symm.trans attached

theorem eventsFetch_memory {max : Int} (positive : 0 < max) :
    eventsFetch ev max = (some (ev.ring.contents.take max.toNat), ev) := by
  unfold eventsFetch
  rw [if_neg (by omega)]
  split
  next => rfl
  next attached => cases memoryOnly.symm.trans attached

theorem eventsAck_memory {upto : Int} (positive : 0 < upto) :
    eventsAck ev upto = (true, { ev with ring := ev.ring.dropUpto upto }) := by
  unfold eventsAck
  rw [if_neg (by omega)]
  split
  next => rfl
  next attached => cases memoryOnly.symm.trans attached

theorem eventsMarkAllSent_memory :
    eventsMarkAllSent ev = (true, { ev with ring := ev.ring.clear }) := by
  unfold eventsMarkAllSent
  split
  next => rfl
  next attached => cases memoryOnly.symm.trans attached

theorem eventsPending_memory : eventsPending ev = ev.ring.contents.length := by
  rw [eventsPending, memoryOnly, MemRing.length_contents]

end Memory

theorem eventsFetch_nonpositive (ev : AcuEvents) {max : Int} (none : ¬ 0 < max) :
    eventsFetch ev max = (Option.none, ev) := by
  rw [eventsFetch, if_pos (by omega)]

theorem eventsAck_nonpositive (ev : AcuEvents) {upto : Int} (none : ¬ 0 < upto) :
    eventsAck ev upto = (false, ev) := by
  rw [eventsAck, if_pos (by omega)]

/-! ### Calls and answers -/

inductive EventCall where
  | append (event : AcuEvent)
  | fetch (max : Int)
  | ack (upto : Int)
  | pending
  | markAllSent

inductive EventAnswer where
  | done (success : Bool)
  | events (batch : Option (List AcuEvent))
  | count (pending : Int)
deriving DecidableEq

def eventCall (ev : AcuEvents) : EventCall → EventAnswer × AcuEvents
  | .append event => (.done (eventsAppend ev event).1, (eventsAppend ev event).2)
  | .fetch max => (.events (eventsFetch ev max).1, (eventsFetch ev max).2)
  | .ack upto => (.done (eventsAck ev upto).1, (eventsAck ev upto).2)
  | .pending => (.count (eventsPending ev), ev)
  | .markAllSent => (.done (eventsMarkAllSent ev).1, (eventsMarkAllSent ev).2)

/-- A store on a database and one without, given the same calls. -/
structure EventModes where
  database : AcuEvents
  memory : AcuEvents

namespace EventModes

def created (faults : Faults SqlKind) (capacity memoryCapacity : Int) : EventModes :=
  { database := eventsOpen (some (.created faults)) capacity
    memory := eventsOpen none memoryCapacity }

def step (modes : EventModes) (call : EventCall) : Option EventModes :=
  some
    { database := (eventCall modes.database call).2
      memory := (eventCall modes.memory call).2 }

/-- The ring holds the newest pending events of the table. -/
structure Refines (modes : EventModes) (db : EventsDb) : Prop where
  indexed : Indexed modes.database db
  faultless : ∀ kind, db.faults.Never kind
  large : (eventsMemoryCap : Int) ≤ modes.database.capacity
  room : db.Room modes.database.capacity modes.database.nextTrimCheck
  memoryOnly : modes.memory.db = none
  nextSeq : modes.memory.ring.nextSeq = db.events.autoSeq + 1
  newest : modes.memory.ring.contents =
    (db.events.after db.sentSeq).rtake eventsMemoryCap

variable {modes next : EventModes} {db : EventsDb}

theorem created_refines {faults : Faults SqlKind} (faultless : ∀ kind, faults.Never kind)
    {capacity : Int} (large : (eventsMemoryCap : Int) ≤ capacity) (memoryCapacity : Int) :
    ∃ db, (created faults capacity memoryCapacity).Refines db := by
  have sound : (EventsDb.created faults).ReadIndexSound := Int.le_refl 0
  have limit : (if capacity > 0 then capacity else eventsDefaultCapacity) = capacity := by
    rw [if_pos]
    unfold eventsMemoryCap at large
    omega
  refine ⟨.created faults, ?_⟩
  constructor
  · refine ⟨?_, ⟨faultless .select, faultless .update⟩, EventTable.contiguous_empty⟩
    show some (EventsDb.created faults).repairIndex.2 = _
    rw [EventsDb.repairIndex_of_sound sound]
  · exact faultless
  · show _ ≤ if capacity > 0 then _ else _
    rw [limit]
    exact large
  · exact EventsDb.room_eventsOpen (.created faults) (Int.le_refl 0) _ _
  · rfl
  · rfl
  · exact (List.rtake_nil _).symm

/-! ### One call -/

/-- What a call leaves of the pending events of the table, and of the seq that is next. -/
structure Follows (modes : EventModes) (db : EventsDb) (call : EventCall) (after : EventsDb) :
    Prop where
  indexed : Indexed (eventCall modes.database call).2 after
  capacity : (eventCall modes.database call).2.capacity = modes.database.capacity
  ok : after.faults.ok = db.faults.ok
  room : after.Room modes.database.capacity (eventCall modes.database call).2.nextTrimCheck
  memoryOnly : (eventCall modes.memory call).2.db = none
  nextSeq : (eventCall modes.memory call).2.ring.nextSeq = after.events.autoSeq + 1
  newest : (eventCall modes.memory call).2.ring.contents =
    (after.events.after after.sentSeq).rtake eventsMemoryCap

theorem Follows.refines (refines : modes.Refines db) {call : EventCall} {after : EventsDb}
    (follows : modes.Follows db call after) (stepped : modes.step call = some next) :
    next.Refines after := by
  cases stepped
  constructor
  · exact follows.indexed
  · unfold Faults.Never
    rw [follows.ok]
    exact refines.faultless
  · rw [follows.capacity]
    exact refines.large
  · rw [follows.capacity]
    exact follows.room
  · exact follows.memoryOnly
  · exact follows.nextSeq
  · exact follows.newest

/-- Writing the position is all that such a call does to the table. -/
theorem Refines.moves (refines : modes.Refines db) (op : EventOp) (moves : op.MovesIndex)
    {call : EventCall} (same : (eventCall modes.database call).2 = eventStep modes.database op)
    (memoryOnly : (eventCall modes.memory call).2.db = none)
    (nextSeq : (eventCall modes.memory call).2.ring.nextSeq = modes.memory.ring.nextSeq)
    (newest : (eventCall modes.memory call).2.ring.contents =
      (pendingEvents (eventCall modes.database call).2).rtake eventsMemoryCap) :
    ∃ after, modes.Follows db call after := by
  obtain ⟨after, sameEvents, effect⟩ := eventStep_movesIndex refines.indexed.attached moves
  refine ⟨after, ?_⟩
  constructor
  · rw [same, effect]
    refine ⟨rfl, refines.indexed.works.of_ok sameEvents.ok, ?_⟩
    rw [sameEvents.events]
    exact refines.indexed.contiguous
  · rw [same, effect]
  · exact sameEvents.ok
  · rw [same, effect]
    unfold EventsDb.Room
    rw [sameEvents.events]
    exact refines.room
  · exact memoryOnly
  · rw [nextSeq, sameEvents.events]
    exact refines.nextSeq
  · rw [newest, same, effect]
    rfl

/-- Trimming leaves at least as many rows as the ring has room for. -/
theorem Refines.append (refines : modes.Refines db) (event : AcuEvent) :
    ∃ after, modes.Follows db (.append event) after := by
  have indexed := refines.indexed
  obtain ⟨_, after, outcome⟩ := eventsAppend_outcome indexed.attached refines.faultless
    indexed.contiguous refines.room event
  obtain ⟨other, appended⟩ := eventsAppend_indexed indexed event
  have same : other = after := by
    have attached := appended.indexed.attached
    rw [outcome.attached] at attached
    exact (Option.some.inj attached).symm
  subst same
  obtain ⟨dropped, rows, kept⟩ := outcome.rows
  have large := refines.large
  have length := db.events.length_insert event
  have numbered : modes.memory.ring.numbered event = db.events.numbered event := by
    rw [MemRing.numbered, refines.nextSeq]
    rfl
  have pushed : (eventCall modes.memory (.append event)).2 =
      { modes.memory with ring := modes.memory.ring.push event } := by
    rw [eventCall, eventsAppend_memory refines.memoryOnly]
  have newest := db.events.maxSeq_le_autoSeq
  refine ⟨other, ?_⟩
  constructor
  · exact appended.indexed
  · exact outcome.capacity
  · exact outcome.ok
  · exact outcome.room
  · rw [pushed]
    exact refines.memoryOnly
  · rw [pushed, outcome.autoSeq, MemRing.nextSeq_push, refines.nextSeq]
  · -- the newest of what is above the position, whatever was dropped in front
    have position : (db.events.insert event).after other.sentSeq =
        db.events.after db.sentSeq ++ [db.events.numbered event] := by
      rw [appended.sentSeq, EventTable.after_insert _ _ (by omega), db.after_min_maxSeq]
    have left : (other.events.after other.sentSeq).rtake eventsMemoryCap =
        ((db.events.insert event).after other.sentSeq).rtake eventsMemoryCap := by
      unfold EventTable.after
      rw [Ascending.rtake_filter_above other.events.ascending,
        Ascending.rtake_filter_above (db.events.insert event).ascending, rows]
      by_cases none : dropped = 0
      · rw [none, List.drop_zero]
      · rw [rtake_drop]
        have dropping := kept (Nat.pos_of_ne_zero none)
        rw [length]
        unfold eventsMemoryCap at *
        omega
    rw [pushed, left, position, MemRing.contents_push, numbered, refines.newest,
      rtake_concat_rtake]

/-- A fetch takes nothing off, in neither mode. -/
theorem Refines.fetch (refines : modes.Refines db) (max : Int) :
    ∃ after, modes.Follows db (.fetch max) after := by
  have indexed := refines.indexed
  have memory : (eventCall modes.memory (.fetch max)).2 = modes.memory := by
    by_cases positive : 0 < max
    · rw [eventCall, eventsFetch_memory refines.memoryOnly positive]
    · rw [eventCall, eventsFetch_nonpositive _ positive]
  have pending : pendingEvents (eventsFetch modes.database max).2 =
      db.events.after db.sentSeq := by
    unfold eventsFetch
    rw [← indexed.pendingEvents_eq]
    split
    next => rfl
    next =>
      rw [indexed.attached, indexed.pendingEvents_eq]
      have returned := FetchReturns.fetchFrom indexed.works max.toNat
      exact returned.pending_eq indexed.works
  refine refines.moves (.fetch max) trivial rfl ?_ ?_ ?_
  · rw [memory]
    exact refines.memoryOnly
  · rw [memory]
  · show _ = (pendingEvents (eventsFetch modes.database max).2).rtake _
    rw [memory, pending]
    exact refines.newest

/-- Acknowledging takes the same events off the front in both modes. -/
theorem Refines.ack (refines : modes.Refines db) (upto : Int) :
    ∃ after, modes.Follows db (.ack upto) after := by
  have indexed := refines.indexed
  have works : AckWorks modes.database := by
    intro other attached
    cases indexed.attached.symm.trans attached
    exact (refines.faultless .update).succeeds
  by_cases positive : 0 < upto
  · have memory : (eventCall modes.memory (.ack upto)).2 =
        { modes.memory with ring := modes.memory.ring.dropUpto upto } := by
      rw [eventCall, eventsAck_memory refines.memoryOnly positive]
    refine refines.moves (.ack upto) trivial rfl ?_ ?_ ?_
    · rw [memory]
      exact refines.memoryOnly
    · rw [memory]
      exact MemRing.nextSeq_dropUpto _ _
    · show _ = (pendingEvents (eventsAck modes.database upto).2).rtake _
      have ascending : Ascending AcuEvent.seq (db.events.after db.sentSeq) :=
        db.events.ascending.filter _
      have kept : Ascending AcuEvent.seq modes.memory.ring.contents :=
        modes.memory.ring.ascending
      rw [memory, pendingEvents_ack works positive, indexed.pendingEvents_eq,
        MemRing.contents_dropUpto, ← filter_above_eq_dropWhile ascending,
        ascending.rtake_filter_above]
      rw [← filter_above_eq_dropWhile kept, refines.newest]
  · have unchanged (ev : AcuEvents) : (eventsAck ev upto).2 = ev := by
      rw [eventsAck_nonpositive ev positive]
    refine refines.moves (.ack upto) trivial rfl ?_ ?_ ?_
    · show (eventsAck modes.memory upto).2.db = _
      rw [unchanged]
      exact refines.memoryOnly
    · show (eventsAck modes.memory upto).2.ring.nextSeq = _
      rw [unchanged]
    · show (eventsAck modes.memory upto).2.ring.contents =
        (pendingEvents (eventsAck modes.database upto).2).rtake _
      rw [unchanged, unchanged, indexed.pendingEvents_eq]
      exact refines.newest

theorem Refines.markAllSent (refines : modes.Refines db) :
    ∃ after, modes.Follows db .markAllSent after := by
  have indexed := refines.indexed
  have memory : (eventCall modes.memory .markAllSent).2 =
      { modes.memory with ring := modes.memory.ring.clear } := by
    rw [eventCall, eventsMarkAllSent_memory refines.memoryOnly]
  have none : pendingEvents (eventsMarkAllSent modes.database).2 = [] := by
    have written := EventsDb.setSentSeq_sentSeq indexed.works (db.events.maxSeq.getD 0)
    have same := db.setSentSeq_sameEvents (rfl : db.setSentSeq (db.events.maxSeq.getD 0) = _)
    unfold eventsMarkAllSent
    rw [indexed.attached]
    show EventTable.after _ _ = _
    rw [EventsDb.scalarWith_eq indexed.works.reads.succeeds, written, same.events]
    exact EventTable.after_of_maxSeq_le (Int.le_refl _)
  refine refines.moves .markAllSent trivial rfl ?_ ?_ ?_
  · rw [memory]
    exact refines.memoryOnly
  · rw [memory]
    rfl
  · show _ = (pendingEvents (eventsMarkAllSent modes.database).2).rtake _
    rw [memory, none, List.rtake_nil]
    exact MemRing.contents_clear _

theorem Refines.step (refines : modes.Refines db) {call : EventCall}
    (stepped : modes.step call = some next) : ∃ after, next.Refines after := by
  have follows : ∃ after, modes.Follows db call after := by
    cases call with
    | append event => exact refines.append event
    | fetch max => exact refines.fetch max
    | ack upto => exact refines.ack upto
    | pending => exact ⟨db, refines.indexed, rfl, rfl, refines.room, refines.memoryOnly,
        refines.nextSeq, refines.newest⟩
    | markAllSent => exact refines.markAllSent
  obtain ⟨after, follows⟩ := follows
  exact ⟨after, follows.refines refines stepped⟩

/-! ### Answers -/

/-- While the ring has room for what is pending, no call can tell the modes apart. -/
theorem Refines.answers (refines : modes.Refines db)
    (few : (pendingEvents modes.database).length ≤ eventsMemoryCap) (call : EventCall) :
    (eventCall modes.database call).1 = (eventCall modes.memory call).1 := by
  have indexed := refines.indexed
  have updates := (refines.faultless .update).succeeds
  have contents : modes.memory.ring.contents = pendingEvents modes.database := by
    rw [refines.newest, ← indexed.pendingEvents_eq, rtake_of_length_le few]
  have memoryOnly := refines.memoryOnly
  cases call with
  | append event =>
      obtain ⟨stored, _⟩ := eventsAppend_outcome indexed.attached refines.faultless
        indexed.contiguous refines.room event
      simp only [eventCall, stored, eventsAppend_memory memoryOnly]
  | fetch max =>
      by_cases positive : 0 < max
      · have fetched := (indexed.fetchesPending positive).answer
        simp only [eventCall, fetched, eventsFetch_memory memoryOnly positive, contents]
      · simp only [eventCall, eventsFetch_nonpositive _ positive]
  | ack upto =>
      by_cases positive : 0 < upto
      · have acknowledged : (eventsAck modes.database upto).1 = true := by
          rw [eventsAck, if_neg (by omega), indexed.attached]
          simp only [updates, ↓reduceIte]
        simp only [eventCall, acknowledged, eventsAck_memory memoryOnly positive]
      · simp only [eventCall, eventsAck_nonpositive _ positive]
  | pending =>
      simp only [eventCall, indexed.eventsPending_eq, eventsPending_memory memoryOnly, contents]
  | markAllSent =>
      have marked : (eventsMarkAllSent modes.database).1 = true := by
        rw [eventsMarkAllSent, indexed.attached]
        simp only [EventsDb.setSentSeq, updates, ↓reduceIte]
      simp only [eventCall, marked, eventsMarkAllSent_memory memoryOnly]

end EventModes

/-- Side by side from the start: what is pending in the ring is the newest that is pending
in the database, and answers are the same while the ring has room for all of it. -/
theorem memory_mode_refines {faults : Faults SqlKind} (faultless : ∀ kind, faults.Never kind)
    {capacity : Int} (large : 512 ≤ capacity) (memoryCapacity : Int)
    {calls : List EventCall} {modes : EventModes}
    (reached : run EventModes.step (.created faults capacity memoryCapacity) calls =
      some modes) :
    pendingEvents modes.memory = (pendingEvents modes.database).rtake 512 ∧
      ((pendingEvents modes.database).length ≤ 512 →
        ∀ call, (eventCall modes.database call).1 = (eventCall modes.memory call).1) := by
  have keeps (state : EventModes) (call : EventCall) (next : EventModes)
      (holds : ∃ db, state.Refines db) (stepped : state.step call = some next) :
      ∃ db, next.Refines db := by
    obtain ⟨db, refines⟩ := holds
    exact refines.step stepped
  obtain ⟨db, refines⟩ := run_invariant keeps
    (EventModes.created_refines faultless large memoryCapacity) reached
  constructor
  · rw [refines.indexed.pendingEvents_eq, pendingEvents, refines.memoryOnly]
    exact refines.newest
  · intro few call
    exact refines.answers few call

/-- An acknowledgement far beyond the newest event, then another event. -/
theorem memory_mode_refines_beyond :
    ∃ modes,
      run EventModes.step (.created .none 512 1)
        [.append default, .ack 9000, .append default, .fetch 5] = some modes ∧
      pendingEvents modes.memory = (pendingEvents modes.database).rtake 512 ∧
      (eventCall modes.database (.fetch 5)).1 = (eventCall modes.memory (.fetch 5)).1 := by
  have reached : run EventModes.step (.created .none 512 1)
      [.append default, .ack 9000, .append default, .fetch 5] = some _ := rfl
  have refined := memory_mode_refines (fun _ _ => rfl) (Int.le_refl 512) 1 reached
  exact ⟨_, reached, refined.1, refined.2 (by decide) _⟩

end Acud
