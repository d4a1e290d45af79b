/-
Module: Acud.Proofs.EventStore
Purpose: Pending events under append, fetch, acknowledgement and rewind.
Trusted boundary: none
Main exports:
  pendingEvents_ascending, eventsFetch_prefix, AckWorks, pendingEvents_ack,
  eventsAppend_sound, eventsRewindToSeq_sound, eventsAck_sound, EventsDb.SameEvents,
  EventsDb.PositionWorks, EventsDb.repairIndex_eq
-/
import Acud.Events

namespace Acud

open Lib

/-!
The database and the memory ring keep what is pending in different ways: one has
a read position, the other drops what was acknowledged.  `pendingEvents` is the
view they share, and the lemmas here are about it.

The read position is sound when it is not ahead of the newest event.  Every
operation keeps it so.
-/

/-! ### Pending events -/

theorem pendingEvents_ascending (ev : AcuEvents) :
    Ascending AcuEvent.seq (pendingEvents ev) := by
  unfold pendingEvents
  cases ev.db with
  | none => exact ev.ring.ascending
  | some db => exact db.events.ascending.filter _

theorem pendingEvents_positive {ev : AcuEvents} {event : AcuEvent}
    (member : event ∈ pendingEvents ev) : 0 < event.seq := by
  unfold pendingEvents at member
  cases attached : ev.db with
  | none =>
      rw [attached] at member
      exact ev.ring.positive event member
  | some db =>
      rw [attached] at member
      exact db.events.positive event (List.mem_filter.mp member).1

/-- A batch is taken from the front of what is pending. -/
theorem eventsFetch_prefix {ev : AcuEvents} (sound : ev.ReadIndexSound) {max : Int}
    {batch : List AcuEvent} (fetched : (eventsFetch ev max).1 = some batch) :
    batch <+: pendingEvents ev := by
  unfold eventsFetch at fetched
  unfold pendingEvents
  split at fetched
  next => cases fetched
  next =>
    cases attached : ev.db with
    | none =>
        rw [attached] at fetched
        cases fetched
        exact List.take_prefix _ _
    | some db =>
        rw [attached] at fetched
        simp only [EventsDb.fetchFrom_of_sound (sound db attached)] at fetched
        cases fetched
        unfold EventsDb.fetchRows
        split
        next => exact List.take_prefix _ _
        next => exact List.nil_prefix

/-! ### Acknowledging -/

/-- The statement that moves the read position succeeds. -/
def AckWorks (ev : AcuEvents) : Prop :=
  ∀ db, ev.db = some db → db.faults.succeeds .update = true

/-- Acknowledging takes the events up to the seq off the front. -/
theorem pendingEvents_ack {ev : AcuEvents} (works : AckWorks ev) {upto : Int}
    (positive : 0 < upto) :
    pendingEvents (eventsAck ev upto).2 =
      (pendingEvents ev).dropWhile fun event => decide (event.seq ≤ upto) := by
  unfold eventsAck
  rw [if_neg (by omega)]
  cases attached : ev.db with
  | none => simp [pendingEvents, attached, MemRing.contents_dropUpto]
  | some db =>
      have ascending := db.events.ascending.filter
        fun event => decide (db.sentSeq < event.seq)
      rw [← filter_above_eq_dropWhile (pendingEvents_ascending ev)]
      simp only [works db attached, ↓reduceIte, pendingEvents, attached, EventTable.after,
        List.filter_filter]
      congr 1
      funext event
      split <;> simp <;> omega

/-- A failed acknowledgement changes neither the position nor what is pending. -/
theorem eventsAck_failed {ev : AcuEvents} (fails : ¬ AckWorks ev) (upto : Int) :
    pendingEvents (eventsAck ev upto).2 = pendingEvents ev ∧
      sentPosition (eventsAck ev upto).2 = sentPosition ev := by
  unfold eventsAck
  split
  next => exact ⟨rfl, rfl⟩
  next =>
    cases attached : ev.db with
    | none =>
        refine absurd ?_ fails
        intro db present
        rw [attached] at present
        cases present
    | some db =>
        have refused : db.faults.succeeds .update = false := by
          rw [← Bool.not_eq_true]
          intro works
          apply fails
          intro other present
          rw [attached] at present
          cases present
          exact works
        simp [refused, pendingEvents, sentPosition, attached]

/-- After a batch was acknowledged, what was behind it is pending. -/
theorem pendingEvents_ack_batch {ev : AcuEvents} (works : AckWorks ev)
    {batch rest : List AcuEvent} (nonempty : batch ≠ [])
    (pending : pendingEvents ev = batch ++ rest) :
    pendingEvents (eventsAck ev (batch.getLast nonempty).seq).2 = rest := by
  have last : batch.getLast nonempty ∈ pendingEvents ev := by
    rw [pending]
    exact List.mem_append_left _ (List.getLast_mem nonempty)
  have ascending := pendingEvents_ascending ev
  rw [pending] at ascending
  rw [pendingEvents_ack works (pendingEvents_positive last), pending]
  exact dropWhile_upto_last ascending nonempty

/-! ### The read position -/

theorem EventsDb.setSentSeq_sound {db : EventsDb} {value : Int}
    (bound : value ≤ db.events.maxSeq.getD 0) (sound : db.ReadIndexSound) :
    (db.setSentSeq value).2.ReadIndexSound := by
  unfold setSentSeq
  split
  next => exact bound
  next => exact sound

/-- Rewinding only moves the position back. -/
theorem eventsRewindToSeq_sound {ev : AcuEvents} (sound : ev.ReadIndexSound)
    (firstSeq : Int) : (eventsRewindToSeq ev firstSeq).2.ReadIndexSound := by
  unfold eventsRewindToSeq
  cases attached : ev.db with
  | none => exact sound
  | some db =>
      have soundDb := sound db attached
      simp only
      split
      next => exact sound
      next =>
        split
        next => exact sound
        next ahead =>
          intro rewound same
          cases same
          apply EventsDb.setSentSeq_sound _ soundDb
          have bound := db.events.maxSeq_nonneg
          unfold EventsDb.ReadIndexSound at soundDb
          unfold EventsDb.scalarWith at ahead
          split at ahead
          next =>
            simp only [Option.getD_some] at ahead
            omega
          next => omega

/-- Acknowledging an event that is stored keeps the position on stored events. -/
theorem eventsAck_sound {ev : AcuEvents} (sound : ev.ReadIndexSound) {event : AcuEvent}
    (member : event ∈ pendingEvents ev) : (eventsAck ev event.seq).2.ReadIndexSound := by
  unfold eventsAck
  split
  next => exact sound
  next =>
    cases attached : ev.db with
    | none =>
        intro db present
        cases present
    | some db =>
        have soundDb := sound db attached
        have stored : event ∈ db.events.rows := by
          simp only [pendingEvents, attached] at member
          exact (List.mem_filter.mp member).1
        have bound := EventTable.seq_le_maxSeq stored
        simp only
        split
        next =>
          intro acknowledged same
          cases same
          show (if db.sentSeq < event.seq then event.seq else db.sentSeq) ≤
            db.events.maxSeq.getD 0
          split
          next => exact bound
          next => exact soundDb
        next =>
          intro refused same
          cases same
          exact soundDb

namespace EventTable

/-- Deleting from the front keeps the newest row. -/
theorem maxSeq_deleteBelow {table : EventTable} {newest cut : Int}
    (last : table.maxSeq = some newest) (bound : cut ≤ newest) :
    (table.deleteBelow cut).maxSeq = some newest := by
  unfold maxSeq at last
  obtain ⟨event, final, rfl⟩ := Option.map_eq_some_iff.mp last
  obtain ⟨front, split⟩ := List.getLast?_eq_some_iff.mp final
  simp [maxSeq, deleteBelow, split, bound]

end EventTable

/-- Trimming deletes rows from the front, and never the newest one. -/
theorem EventsDb.trimIfNeeded_cases {db : EventsDb} {capacity newest : Int}
    (positive : 0 < capacity) (last : db.events.maxSeq = some newest) :
    db.trimIfNeeded capacity = db ∨
      db.trimIfNeeded capacity = { db with faults := db.faults.next } ∨
      ∃ cut, cut ≤ newest ∧
        db.trimIfNeeded capacity =
          { db with events := db.events.deleteBelow cut, faults := db.faults.next } := by
  cases reads : db.faults.succeeds .select with
  | false =>
      -- a count that could not be read is zero
      have none : db.total = 0 := by simp [total, scalarWith, reads]
      left
      rw [trimIfNeeded, none, if_pos (by omega)]
  | true =>
      have least : db.scalarWith db.events.minSeq 1 = db.events.minSeq.getD 1 := by
        simp [scalarWith, reads]
      have total : db.total ≤ newest - db.events.minSeq.getD 1 + 1 ∨ db.total = 0 := by
        simp only [EventsDb.total, scalarWith, reads, ↓reduceIte, last, Option.getD_some]
        split <;> simp
      unfold trimIfNeeded
      split
      next => exact .inl rfl
      next excess =>
        split
        next =>
          refine .inr (.inr ⟨_, ?_, rfl⟩)
          rw [least]
          omega
        next => exact .inr (.inl rfl)

theorem EventsDb.trimIfNeeded_sound {db : EventsDb} {capacity newest : Int}
    (positive : 0 < capacity) (last : db.events.maxSeq = some newest)
    (sound : db.ReadIndexSound) : (db.trimIfNeeded capacity).ReadIndexSound := by
  rcases db.trimIfNeeded_cases positive last with same | faulted | ⟨cut, bound, trimmed⟩
  · rw [same]
    exact sound
  · rw [faulted]
    exact sound
  · rw [trimmed]
    unfold ReadIndexSound at *
    rw [last] at sound
    rw [EventTable.maxSeq_deleteBelow last bound]
    exact sound

/-- An appended event is stored above the position. -/
theorem eventsAppend_sound {ev : AcuEvents} (sound : ev.ReadIndexSound)
    (event : AcuEvent) : (eventsAppend ev event).2.ReadIndexSound := by
  unfold eventsAppend
  cases attached : ev.db with
  | none =>
      intro db present
      cases present
  | some stored =>
      have soundDb := sound stored attached
      simp only [EventsDb.repairIndex_of_sound soundDb]
      split
      next =>
        have written : EventsDb.ReadIndexSound
            { stored with
              events := stored.events.insert event
              faults := stored.faults.next } := by
          have newest := stored.events.maxSeq_le_autoSeq
          unfold EventsDb.ReadIndexSound at *
          rw [EventTable.maxSeq_insert]
          simp only [Option.getD_some]
          omega
        split
        next =>
          intro trimmed same
          cases same
          exact EventsDb.trimIfNeeded_sound ev.capacityPositive
            (stored.events.maxSeq_insert event) written
        next =>
          intro appended same
          cases same
          exact written
      next =>
        intro refused same
        cases same
        exact soundDb

/-! ### Repairing the position -/

namespace EventsDb

/-- Neither a row nor the next seq is changed. -/
structure SameEvents (db after : EventsDb) : Prop where
  events : after.events = db.events
  ok : after.faults.ok = db.faults.ok

theorem SameEvents.refl (db : EventsDb) : db.SameEvents db := ⟨rfl, rfl⟩

theorem SameEvents.trans {db middle after : EventsDb} (first : db.SameEvents middle)
    (second : middle.SameEvents after) : db.SameEvents after :=
  ⟨second.events.trans first.events, second.ok.trans first.ok⟩

theorem setSentSeq_sameEvents (db : EventsDb) {value : Int} {answer : Bool × EventsDb}
    (written : db.setSentSeq value = answer) : db.SameEvents answer.2 := by
  rw [← written, setSentSeq]
  split
  next => exact ⟨rfl, rfl⟩
  next => exact ⟨rfl, rfl⟩

theorem repairIndex_sameEvents (db : EventsDb) : db.SameEvents db.repairIndex.2 := by
  unfold repairIndex
  dsimp only
  split
  next => exact .refl db
  next =>
    split
    next result => exact db.setSentSeq_sameEvents result
    next result => exact db.setSentSeq_sameEvents result

/-- Reads and writes of the position do not fail. -/
structure PositionWorks (db : EventsDb) : Prop where
  reads : db.faults.Never .select
  updates : db.faults.Never .update

theorem PositionWorks.of_ok {db after : EventsDb} (works : db.PositionWorks)
    (ok : after.faults.ok = db.faults.ok) : after.PositionWorks := by
  constructor
  · unfold Faults.Never
    rw [ok]
    exact works.reads
  · unfold Faults.Never
    rw [ok]
    exact works.updates

variable {db : EventsDb}

theorem scalarWith_eq (reads : db.faults.succeeds .select = true) (value : Option Int)
    (default : Int) : db.scalarWith value default = value.getD default := by
  rw [scalarWith, if_pos reads]

theorem setSentSeq_sentSeq (works : db.PositionWorks) (value : Int) :
    (db.setSentSeq value).2.sentSeq = value := by
  rw [setSentSeq, if_pos works.updates.succeeds]

/-- The position is put back onto the newest event if it is ahead of it. -/
theorem repairIndex_eq (works : db.PositionWorks) :
    db.repairIndex.1 = (if db.ReadIndexSound then .sound else .repaired) ∧
      db.repairIndex.2.sentSeq = min db.sentSeq (db.events.maxSeq.getD 0) := by
  by_cases sound : db.ReadIndexSound
  · rw [repairIndex_of_sound sound, if_pos sound]
    exact ⟨rfl, (Int.min_eq_left sound).symm⟩
  · have ahead : ¬ db.sentSeq ≤ db.events.maxSeq.getD 0 := sound
    have back : min db.sentSeq (db.events.maxSeq.getD 0) = db.events.maxSeq.getD 0 :=
      Int.min_eq_right (by omega)
    rw [if_neg sound, back, repairIndex]
    simp only [scalarWith_eq works.reads.succeeds, setSentSeq, works.updates.succeeds,
      Option.getD_some, ahead, ↓reduceIte, and_self]

theorem repairIndex_works (works : db.PositionWorks) : db.repairIndex.2.PositionWorks :=
  works.of_ok db.repairIndex_sameEvents.ok

theorem repairIndex_sound (works : db.PositionWorks) : db.repairIndex.2.ReadIndexSound := by
  unfold ReadIndexSound
  rw [(repairIndex_eq works).2, db.repairIndex_sameEvents.events]
  exact Int.min_le_right _ _

end EventsDb

end Acud
