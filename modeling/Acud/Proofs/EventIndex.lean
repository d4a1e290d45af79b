/-
Module: Acud.Proofs.EventIndex
Purpose: No position of the read index hides an event that is appended.
Trusted boundary: none
Main exports:
  EventsDb.repairIndex_pending, FetchReturns, FetchesPending, Indexed, Spares,
  appended_event_pending
-/
import Acud.Proofs.Delivery
import Acud.Proofs.EventRetention

namespace Acud

open Lib

/-!
What is unsent is decided twice: a fetch selects the rows above the read position, a count
takes the difference of two seqs and clamps it.  Without holes the two agree, wherever the
position is.

A position ahead of the newest event is put back before the next row is written, and by a
fetch that found nothing.  The source fetches again after that; `FetchReturns` is that
recursion without a bound on its depth.

Reads and writes of the position succeed here; writing and deleting rows may fail.

[SRC src/acud/events.c, src/tools/events_wrap_test.c]
-/

/-! ### Repairing the position -/

namespace EventsDb

variable {db : EventsDb}

/-- Above a position that is ahead there is nothing, and nothing after the repair. -/
theorem after_min_maxSeq (db : EventsDb) :
    db.events.after (min db.sentSeq (db.events.maxSeq.getD 0)) =
      db.events.after db.sentSeq := by
  by_cases sound : db.ReadIndexSound
  · rw [Int.min_eq_left sound]
  · unfold ReadIndexSound at sound
    rw [EventTable.after_of_maxSeq_le (by omega), EventTable.after_of_maxSeq_le (by omega)]

theorem repairIndex_pending (works : db.PositionWorks) :
    db.repairIndex.2.events.after db.repairIndex.2.sentSeq = db.events.after db.sentSeq := by
  rw [db.repairIndex_sameEvents.events, (repairIndex_eq works).2, db.after_min_maxSeq]

/-- Deleting from the front, also when it fails. -/
theorem trimIfNeeded_contiguous (contiguous : db.events.Contiguous) (capacity : Int) :
    (db.trimIfNeeded capacity).events.Contiguous := by
  unfold trimIfNeeded
  split
  next => exact contiguous
  next =>
    dsimp only
    split
    next => exact contiguous.deleteBelow _
    next => exact contiguous

end EventsDb

/-! ### Fetching -/

/-- `events_fetch` on a database: it calls itself after a repair. -/
inductive FetchReturns (max : Nat) : EventsDb → List AcuEvent → EventsDb → Prop
  | rows {db : EventsDb} (found : db.fetchRows max ≠ []) :
      FetchReturns max db (db.fetchRows max) db
  | nothing {db : EventsDb} (none : db.fetchRows max = [])
      (checked : db.repairIndex.1 ≠ .repaired) : FetchReturns max db [] db.repairIndex.2
  | again {db after : EventsDb} {result : List AcuEvent} (none : db.fetchRows max = [])
      (repaired : db.repairIndex.1 = .repaired)
      (later : FetchReturns max db.repairIndex.2 result after) :
      FetchReturns max db result after

namespace FetchReturns

variable {db : EventsDb} {max : Nat}

/-- A fetch has one result. -/
theorem unique {first second : List AcuEvent} {afterFirst afterSecond : EventsDb}
    (returned : FetchReturns max db first afterFirst)
    (other : FetchReturns max db second afterSecond) :
    first = second ∧ afterFirst = afterSecond := by
  induction returned with
  | rows found =>
      cases other with
      | rows => exact ⟨rfl, rfl⟩
      | nothing none => exact absurd none found
      | again none => exact absurd none found
  | nothing none checked =>
      cases other with
      | rows found => exact absurd none found
      | nothing => exact ⟨rfl, rfl⟩
      | again _ repaired => exact absurd repaired checked
  | again none repaired _ inductionHypothesis =>
      cases other with
      | rows found => exact absurd none found
      | nothing _ checked => exact absurd repaired checked
      | again _ _ later => exact inductionHypothesis later

/-- A position that is not ahead ends the recursion. -/
theorem of_sound (sound : db.ReadIndexSound) :
    FetchReturns max db (db.fetchRows max) db := by
  by_cases found : db.fetchRows max = []
  · have checked : db.repairIndex.1 ≠ .repaired := by
      rw [EventsDb.repairIndex_of_sound sound]
      exact RepairResult.noConfusion
    have returned := FetchReturns.nothing found checked
    rw [EventsDb.repairIndex_of_sound sound] at returned
    rwa [found]
  · exact .rows found

/-- Two rounds are enough. -/
theorem fetchFrom (works : db.PositionWorks) (max : Nat) :
    FetchReturns max db (db.fetchFrom max 2).1 (db.fetchFrom max 2).2 := by
  by_cases sound : db.ReadIndexSound
  · rw [EventsDb.fetchFrom_of_sound sound]
    exact of_sound sound
  · have result := (EventsDb.repairIndex_eq works).1
    have settled := EventsDb.repairIndex_sound works
    rw [if_neg sound] at result
    rw [EventsDb.fetchFrom]
    split
    next none =>
      have split : db.repairIndex = (.repaired, db.repairIndex.2) := by rw [← result]
      rw [split]
      dsimp only
      rw [EventsDb.fetchFrom_of_sound settled]
      exact .again (List.isEmpty_iff.mp none) result (of_sound settled)
    next found => exact .rows (by simpa using found)

/-- What a fetch returns is in front of what is pending. -/
theorem result_eq (works : db.PositionWorks) {result : List AcuEvent} {after : EventsDb}
    (returned : FetchReturns max db result after) :
    result = (db.events.after db.sentSeq).take max := by
  have rows {db : EventsDb} (works : db.PositionWorks) :
      db.fetchRows max = (db.events.after db.sentSeq).take max := by
    rw [EventsDb.fetchRows, if_pos works.reads.succeeds]
  induction returned with
  | rows found => exact rows works
  | nothing none checked => rw [← rows works, none]
  | @again db after result none repaired later inductionHypothesis =>
      rw [inductionHypothesis (EventsDb.repairIndex_works works),
        EventsDb.repairIndex_pending works]

/-- A fetch does not move the position forward. -/
theorem sentSeq_le (works : db.PositionWorks) {result : List AcuEvent} {after : EventsDb}
    (returned : FetchReturns max db result after) : after.sentSeq ≤ db.sentSeq := by
  induction returned with
  | rows found => exact Int.le_refl _
  | nothing none checked =>
      rw [(EventsDb.repairIndex_eq works).2]
      exact Int.min_le_left _ _
  | again none repaired later inductionHypothesis =>
      have back := inductionHypothesis (EventsDb.repairIndex_works works)
      rw [(EventsDb.repairIndex_eq works).2] at back
      exact Int.le_trans back (Int.min_le_left _ _)

/-- A fetch takes nothing off what is pending. -/
theorem pending_eq (works : db.PositionWorks) {result : List AcuEvent} {after : EventsDb}
    (returned : FetchReturns max db result after) :
    after.events.after after.sentSeq = db.events.after db.sentSeq := by
  induction returned with
  | rows found => rfl
  | nothing none checked => exact EventsDb.repairIndex_pending works
  | again none _ later inductionHypothesis =>
      rw [inductionHypothesis (EventsDb.repairIndex_works works),
        EventsDb.repairIndex_pending works]

end FetchReturns

/-! ### What a step does to the position -/

/-- A database without holes whose position can be read and written. -/
structure Indexed (ev : AcuEvents) (db : EventsDb) : Prop where
  attached : ev.db = some db
  works : db.PositionWorks
  contiguous : db.events.Contiguous

namespace Indexed

variable {ev : AcuEvents} {db : EventsDb}

theorem pendingEvents_eq (indexed : Indexed ev db) :
    pendingEvents ev = db.events.after db.sentSeq := by
  rw [pendingEvents, indexed.attached]

theorem storedEvents_eq (indexed : Indexed ev db) : storedEvents ev = db.events.rows := by
  rw [storedEvents, indexed.attached]

theorem eventsPending_eq (indexed : Indexed ev db) :
    eventsPending ev = (pendingEvents ev).length := by
  rw [eventsPending, indexed.attached, indexed.pendingEvents_eq]
  exact EventsDb.pending_eq indexed.contiguous indexed.works.reads.succeeds

theorem mem_pendingEvents (indexed : Indexed ev db) {event : AcuEvent} :
    event ∈ pendingEvents ev ↔ event ∈ db.events.rows ∧ db.sentSeq < event.seq := by
  rw [indexed.pendingEvents_eq, EventTable.after, List.mem_filter, decide_eq_true_eq]

end Indexed

/-- What an append leaves, whether its row could be written or not. -/
structure AppendIndexed (ev : AcuEvents) (db : EventsDb) (event : AcuEvent)
    (after : EventsDb) : Prop where
  indexed : Indexed (eventsAppend ev event).2 after
  sentSeq : after.sentSeq = min db.sentSeq (db.events.maxSeq.getD 0)
  stored : (eventsAppend ev event).1 = true → db.events.numbered event ∈ after.events.rows

theorem eventsAppend_indexed {ev : AcuEvents} {db : EventsDb} (indexed : Indexed ev db)
    (event : AcuEvent) : ∃ after, AppendIndexed ev db event after := by
  have works := EventsDb.repairIndex_works indexed.works
  have position := (EventsDb.repairIndex_eq indexed.works).2
  have events := db.repairIndex_sameEvents.events
  have contiguous := indexed.contiguous.insert event
  have written := append_written db.repairIndex.2 event
  have trimmed := append_trimmed db.repairIndex.2 ev.capacityPositive event
  have effect {answered : Bool} {next : AcuEvents} {after : EventsDb}
      (done : eventsAppend ev event = (answered, next)) (attached : next.db = some after)
      (ok : after.faults.ok = db.repairIndex.2.faults.ok)
      (without : after.events.Contiguous) (sentSeq : after.sentSeq = db.repairIndex.2.sentSeq)
      (stored : answered = true → db.repairIndex.2.events.numbered event ∈ after.events.rows) :
      AppendIndexed ev db event after := by
    constructor
    · rw [done]
      exact ⟨attached, works.of_ok ok, without⟩
    · rw [sentSeq, position]
    · rw [done, ← events]
      exact stored
  unfold eventsAppend at effect
  rw [indexed.attached] at effect
  dsimp only at effect
  split at effect
  next inserted =>
    split at effect
    next due =>
      refine ⟨_, effect rfl rfl ?_ ?_ trimmed.sentSeq fun _ => trimmed.new⟩
      · exact EventsDb.trimIfNeeded_ok _ _
      · apply EventsDb.trimIfNeeded_contiguous
        rw [events]
        exact contiguous
    next early =>
      refine ⟨_, effect rfl rfl rfl ?_ written.sentSeq fun _ => written.new⟩
      rw [events]
      exact contiguous
  next refused =>
    refine ⟨_, effect rfl rfl rfl ?_ rfl fun none => by cases none⟩
    rw [events]
    exact indexed.contiguous

theorem Indexed.moves {ev : AcuEvents} {db : EventsDb} (indexed : Indexed ev db)
    {op : EventOp} (moves : op.MovesIndex) :
    ∃ after, Indexed (eventStep ev op) after ∧ after.events = db.events := by
  obtain ⟨after, same, effect⟩ := eventStep_movesIndex indexed.attached moves
  refine ⟨after, ?_, same.events⟩
  rw [effect]
  refine ⟨rfl, indexed.works.of_ok same.ok, ?_⟩
  rw [same.events]
  exact indexed.contiguous

/-- Reopening repairs the position. -/
theorem Indexed.reopens {ev : AcuEvents} {db : EventsDb} (indexed : Indexed ev db)
    (capacity : EventsCapacity) :
    Indexed (eventStep ev (.reopen capacity)) db.repairIndex.2 := by
  constructor
  · show ev.db.map _ = _
    rw [indexed.attached]
    rfl
  · exact EventsDb.repairIndex_works indexed.works
  · rw [db.repairIndex_sameEvents.events]
    exact indexed.contiguous

theorem Indexed.step {ev : AcuEvents} {db : EventsDb} (indexed : Indexed ev db)
    (op : EventOp) : ∃ after, Indexed (eventStep ev op) after := by
  rcases op.append_or_reopen_or_moves with ⟨event, rfl⟩ | ⟨capacity, rfl⟩ | moves
  · obtain ⟨after, appended⟩ := eventsAppend_indexed indexed event
    exact ⟨after, appended.indexed⟩
  · exact ⟨_, indexed.reopens capacity⟩
  · obtain ⟨after, kept, _⟩ := indexed.moves moves
    exact ⟨after, kept⟩

/-! ### What takes an event off the pending ones -/

/-- The operation neither acknowledges nor marks nor trims the event, nor does it rewind or
write the position past it. -/
def Spares (ev : AcuEvents) (event : AcuEvent) : EventOp → Prop
  | .append new => event ∈ storedEvents (eventsAppend ev new).2
  | .fetch _ => True
  | .ack upto => upto < event.seq
  | .markAllSent => False
  | .rewindToTime since => ∃ old ∈ storedEvents ev, old.seq ≤ event.seq ∧ since ≤ old.ts
  | .rewindToSeq _ => True
  | .reopen _ => True
  | .overwrite value => value < event.seq

/-- The first row since a time is not behind any row since that time. -/
theorem EventTable.firstSince_le {table : EventTable} {since : Int} {old : AcuEvent}
    (stored : old ∈ table.rows) (since_le : since ≤ old.ts) :
    ∃ first, table.firstSince since = some first ∧ 0 < first ∧ first ≤ old.seq := by
  have found : (table.rows.find? fun event => decide (since ≤ event.ts)).isSome := by
    rw [List.find?_isSome]
    exact ⟨old, stored, decide_eq_true since_le⟩
  obtain ⟨event, here⟩ := Option.isSome_iff_exists.mp found
  obtain ⟨_, front, back, split, before⟩ := List.find?_eq_some_iff_append.mp here
  have member : event ∈ table.rows := List.mem_of_find?_eq_some here
  refine ⟨event.seq, ?_, table.positive event member, ?_⟩
  · rw [firstSince, here]
    rfl
  · rw [split] at stored
    have ascending := table.ascending
    rw [split] at ascending
    rcases List.mem_append.mp stored with early | later
    · have late := before old early
      simp [since_le] at late
    · rcases List.mem_cons.mp later with rfl | behind
      · exact Int.le_refl _
      · have rest : Ascending AcuEvent.seq (event :: back) :=
          (List.pairwise_append.mp ascending).2.1
        exact Int.le_of_lt (rest.head_lt behind)

/-- Such an operation leaves the position in front of the event. -/
theorem Indexed.position {ev : AcuEvents} {db after : EventsDb} (indexed : Indexed ev db)
    {event : AcuEvent} (before : db.sentSeq < event.seq) {op : EventOp}
    (moves : op.MovesIndex) (spares : Spares ev event op)
    (stepped : (eventStep ev op).db = some after) : after.sentSeq < event.seq := by
  have attached := indexed.attached
  have updates := indexed.works.updates.succeeds
  cases op with
  | append new => cases moves
  | reopen capacity => cases moves
  | fetch max =>
      rw [eventStep, eventsFetch] at stepped
      split at stepped
      next =>
        rw [attached] at stepped
        cases stepped
        exact before
      next =>
        rw [attached] at stepped
        cases stepped
        have back := (FetchReturns.fetchFrom indexed.works max.toNat).sentSeq_le indexed.works
        exact Int.lt_of_le_of_lt back before
  | ack upto =>
      rw [eventStep, eventsAck] at stepped
      split at stepped
      next =>
        rw [attached] at stepped
        cases stepped
        exact before
      next =>
        rw [attached] at stepped
        simp only [updates, ↓reduceIte] at stepped
        cases stepped
        dsimp only
        split
        next => exact spares
        next => exact before
  | markAllSent => cases spares
  | rewindToTime since =>
      obtain ⟨old, stored, earlier, inTime⟩ := spares
      rw [indexed.storedEvents_eq] at stored
      obtain ⟨first, found, positive, bound⟩ := EventTable.firstSince_le stored inTime
      rw [eventStep, eventsRewindToTime, attached] at stepped
      simp only [EventsDb.scalarWith_eq indexed.works.reads.succeeds, found, Option.getD_some,
        EventsDb.setSentSeq, updates, gt_iff_lt, positive, ↓reduceIte] at stepped
      cases stepped
      show first - 1 < event.seq
      omega
  | rewindToSeq firstSeq =>
      rw [eventStep, eventsRewindToSeq, attached] at stepped
      dsimp only at stepped
      split at stepped
      next =>
        rw [attached] at stepped
        cases stepped
        exact before
      next =>
        rw [EventsDb.scalarWith_eq indexed.works.reads.succeeds] at stepped
        split at stepped
        next =>
          rw [attached] at stepped
          cases stepped
          exact before
        next ahead =>
          cases stepped
          rw [EventsDb.setSentSeq_sentSeq indexed.works]
          simp only [Option.getD_some] at ahead
          omega
  | overwrite value =>
      rw [eventStep, attached] at stepped
      cases stepped
      exact spares

/-- A pending event is pending after every operation that spares it. -/
theorem Indexed.stays {ev : AcuEvents} {db : EventsDb} (indexed : Indexed ev db)
    {event : AcuEvent} (pending : event ∈ pendingEvents ev) {op : EventOp}
    (spares : Spares ev event op) : event ∈ pendingEvents (eventStep ev op) := by
  obtain ⟨stored, before⟩ := indexed.mem_pendingEvents.mp pending
  rcases op.append_or_reopen_or_moves with ⟨new, rfl⟩ | ⟨capacity, rfl⟩ | moves
  · obtain ⟨after, appended⟩ := eventsAppend_indexed indexed new
    have left : event ∈ after.events.rows := by
      rw [← appended.indexed.storedEvents_eq]
      exact spares
    apply appended.indexed.mem_pendingEvents.mpr
    refine ⟨left, ?_⟩
    rw [appended.sentSeq]
    omega
  · apply (indexed.reopens capacity).mem_pendingEvents.mpr
    rw [db.repairIndex_sameEvents.events, (EventsDb.repairIndex_eq indexed.works).2]
    exact ⟨stored, by omega⟩
  · obtain ⟨after, kept, events⟩ := indexed.moves moves
    apply kept.mem_pendingEvents.mpr
    rw [events]
    exact ⟨stored, indexed.position before moves spares kept.attached⟩

/-! ### Runs -/

/-- A fetch comes to an end with the oldest pending events, as many as were asked for and
as are counted. -/
structure FetchesPending (ev : AcuEvents) (db : EventsDb) (max : Int) : Prop where
  returns : ∃ after, FetchReturns max.toNat db ((pendingEvents ev).take max.toNat) after
  only : ∀ result after, FetchReturns max.toNat db result after →
    result = (pendingEvents ev).take max.toNat
  answer : (eventsFetch ev max).1 = some ((pendingEvents ev).take max.toNat)
  count : (((pendingEvents ev).take max.toNat).length : Int) = min max (eventsPending ev)
  ascending : Ascending AcuEvent.seq ((pendingEvents ev).take max.toNat)

theorem Indexed.fetchesPending {ev : AcuEvents} {db : EventsDb} (indexed : Indexed ev db)
    {max : Int} (positive : 0 < max) : FetchesPending ev db max := by
  have returned := FetchReturns.fetchFrom indexed.works max.toNat
  have result := returned.result_eq indexed.works
  constructor
  · rw [indexed.pendingEvents_eq, ← result]
    exact ⟨_, returned⟩
  · intro other after returnedOther
    rw [indexed.pendingEvents_eq]
    exact returnedOther.result_eq indexed.works
  · rw [eventsFetch, if_neg (by omega), indexed.attached, indexed.pendingEvents_eq, ← result]
  · rw [indexed.eventsPending_eq, List.length_take]
    omega
  · exact List.Pairwise.sublist (List.take_sublist _ _) (pendingEvents_ascending ev)

theorem created_indexed {faults : Faults SqlKind} (reads : faults.Never .select)
    (updates : faults.Never .update) (capacity : EventsCapacity) :
    ∃ db, Indexed (EventLog.created faults capacity).ev db := by
  refine ⟨(EventsDb.created faults).repairIndex.2, rfl, ?_, ?_⟩
  · exact EventsDb.repairIndex_works ⟨reads, updates⟩
  · rw [(EventsDb.created faults).repairIndex_sameEvents.events]
    exact EventTable.contiguous_empty

/-- Wherever the read position was written to: a fetch returns what is pending, and an
event that is appended is pending until something takes it off. -/
theorem appended_event_pending {faults : Faults SqlKind} (reads : faults.Never .select)
    (updates : faults.Never .update) (capacity : EventsCapacity) {ops : List EventOp}
    {log : EventLog} (reached : run EventLog.step (.created faults capacity) ops = some log) :
    (∃ db, log.ev.db = some db ∧ ∀ max, 0 < max → FetchesPending log.ev db max) ∧
      ∀ event next, (eventsAppend log.ev event).1 = true →
        log.step (.append event) = some next →
        appendedRow log.ev event ∈ pendingEvents next.ev ∧
          ∀ later,
            Guarded EventLog.step (fun state => Spares state.ev (appendedRow log.ev event))
              next later →
            Always EventLog.step
              (fun state => appendedRow log.ev event ∈ pendingEvents state.ev) next later := by
  have keeps (state : EventLog) (op : EventOp) (next : EventLog)
      (holds : ∃ db, Indexed state.ev db) (stepped : state.step op = some next) :
      ∃ db, Indexed next.ev db := by
    obtain ⟨db, indexed⟩ := holds
    cases stepped
    exact indexed.step op
  obtain ⟨db, indexed⟩ := run_invariant keeps (created_indexed reads updates capacity) reached
  constructor
  · exact ⟨db, indexed.attached, fun max positive => indexed.fetchesPending positive⟩
  · intro event next answered stepped
    obtain ⟨after, appended⟩ := eventsAppend_indexed indexed event
    have row : appendedRow log.ev event = db.events.numbered event := by
      rw [appendedRow, indexed.attached]
    have nextEv : next.ev = (eventsAppend log.ev event).2 := by
      cases stepped
      rfl
    -- the position was put back in front of the seq that is given out next
    have pending : appendedRow log.ev event ∈ pendingEvents next.ev := by
      rw [nextEv, row]
      apply appended.indexed.mem_pendingEvents.mpr
      refine ⟨appended.stored answered, ?_⟩
      have newest := db.events.maxSeq_le_autoSeq
      rw [appended.sentSeq]
      show _ < db.events.autoSeq + 1
      omega
    refine ⟨pending, ?_⟩
    intro later guarded
    have stays (state : EventLog) (op : EventOp) (next : EventLog)
        (holds : (∃ db, Indexed state.ev db) ∧ appendedRow log.ev event ∈ pendingEvents state.ev)
        (spares : Spares state.ev (appendedRow log.ev event) op)
        (stepped : state.step op = some next) :
        (∃ db, Indexed next.ev db) ∧ appendedRow log.ev event ∈ pendingEvents next.ev := by
      obtain ⟨⟨db, indexed⟩, pending⟩ := holds
      cases stepped
      exact ⟨indexed.step op, indexed.stays pending spares⟩
    apply guarded.always (fun state holds => holds.2) stays
    exact ⟨⟨after, nextEv ▸ appended.indexed⟩, pending⟩

/-- The position is far ahead of the newest event when the next one is written. -/
theorem appended_event_pending_ahead :
    ∃ log next,
      run EventLog.step (.created .none ⟨1, by decide, by decide⟩)
        [.append default, .overwrite 5000] = some log ∧
      log.step (.append default) = some next ∧
      (eventsFetch log.ev 10).1 = some [] ∧
      appendedRow log.ev default ∈ pendingEvents next.ev ∧
      Always EventLog.step
        (fun state => appendedRow log.ev default ∈ pendingEvents state.ev)
        next [.fetch 10, .ack 1] := by
  have reached : run EventLog.step (.created .none ⟨1, by decide, by decide⟩)
      [.append default, .overwrite 5000] = some _ := rfl
  have promises := appended_event_pending (fun _ => rfl) (fun _ => rfl)
    ⟨1, by decide, by decide⟩ reached
  obtain ⟨db, attached, fetches⟩ := promises.1
  have later := promises.2 default _ rfl rfl
  refine ⟨_, _, reached, rfl, (fetches 10 (by decide)).answer, later.1, later.2 _ ?_⟩
  rintro _ ⟨⟩
  refine ⟨trivial, ?_⟩
  rintro _ ⟨⟩
  refine ⟨?_, trivial⟩
  show (1 : Int) < 2
  decide

end Acud
