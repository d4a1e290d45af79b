/-
Module: Acud.Proofs.EventRewind
Purpose: When moving the read position to a time loses no pending event.
Trusted boundary: none
Main exports:
  Rewound, RewindLosesNothing, RewindsBack, rewind_loses_nothing_iff
-/
import Acud.Proofs.EventIndex

namespace Acud

open Lib

/-!
The read position is set in front of the first event since a time, or behind the newest
event when there is none.  Where the position was before plays no part, so it may also move
forward, past events that were never sent.  `events_rewind_to_seq` compares first and does
not move forward.

[SRC src/acud/events.c, src/acud/events.h]
-/

/-- The store, with no statement of it failing any more. -/
def AcuEvents.faultless (ev : AcuEvents) : AcuEvents :=
  { ev with db := ev.db.map fun db => { db with faults := Faults.none } }

/-- What a rewind that succeeds is for: the events since the time are pending, the answer
is how many are, and none that was pending is not pending any more. -/
structure Rewound (before after : AcuEvents) (since count : Int) : Prop where
  covered : ∀ event ∈ storedEvents after, since ≤ event.ts → event ∈ pendingEvents after
  counted : count = eventsPending after.faultless
  kept : ∀ event ∈ pendingEvents before, event ∈ pendingEvents after

def RewindLosesNothing (ev : AcuEvents) (since : Int) : Prop :=
  ∀ count after, eventsRewindToTime ev since = (some count, after) →
    Rewound ev after since count

/-- No read fails unless nothing is stored, and every pending event has an event since the
time at its own seq or in front of it. -/
def RewindsBack (ev : AcuEvents) (since : Int) : Prop :=
  ∀ db, ev.db = some db → db.faults.succeeds .update = true →
    (db.faults.succeeds .select = true ∨ db.events.rows = []) ∧
      ∀ event ∈ pendingEvents ev, ∃ old ∈ storedEvents ev,
        old.seq ≤ event.seq ∧ since ≤ old.ts

/-- A table that has rows has a first one, with the least seq. -/
theorem EventTable.exists_first {table : EventTable} (stored : table.rows ≠ []) :
    ∃ first ∈ table.rows, table.minSeq.getD 1 = first.seq ∧
      ∀ event ∈ table.rows, first.seq ≤ event.seq := by
  obtain ⟨first, rest, split⟩ := List.exists_cons_of_ne_nil stored
  have ascending := table.ascending
  rw [split] at ascending
  refine ⟨first, by rw [split]; exact List.mem_cons_self, ?_, ?_⟩
  · rw [EventTable.minSeq, split]
    rfl
  · intro event member
    rw [split] at member
    rcases List.mem_cons.mp member with rfl | later
    · exact Int.le_refl _
    · exact Int.le_of_lt (ascending.head_lt later)

namespace EventsDb

/-- The position a rewind writes. -/
def rewindTarget (db : EventsDb) (since : Int) : Int :=
  let first := db.scalarWith (db.events.firstSince since) 0
  if first > 0 then first - 1 else db.scalarWith db.events.maxSeq 0

/-- The store behind a rewind. -/
def rewoundTo (db : EventsDb) (since : Int) : EventsDb :=
  { db with sentSeq := db.rewindTarget since, faults := db.faults.next }

variable {db : EventsDb} {since : Int}

/-- With reads that succeed the events above the target are those since the first one in
time. -/
theorem rewindTarget_lt_iff (reads : db.faults.succeeds .select = true) {event : AcuEvent}
    (stored : event ∈ db.events.rows) :
    db.rewindTarget since < event.seq ↔
      ∃ old ∈ db.events.rows, old.seq ≤ event.seq ∧ since ≤ old.ts := by
  unfold rewindTarget
  simp only [scalarWith_eq reads]
  constructor
  · intro above
    cases found : db.events.firstSince since with
    | none =>
        have newest := EventTable.seq_le_maxSeq stored
        rw [found, Option.getD_none, if_neg (by decide)] at above
        omega
    | some first =>
        obtain ⟨old, here, rfl⟩ := Option.map_eq_some_iff.mp found
        have member := List.mem_of_find?_eq_some here
        have inTime : since ≤ old.ts := by simpa using List.find?_some here
        have positive := db.events.positive old member
        rw [found, Option.getD_some, if_pos positive] at above
        exact ⟨old, member, by omega, inTime⟩
  · rintro ⟨old, member, earlier, inTime⟩
    obtain ⟨first, found, positive, bound⟩ := EventTable.firstSince_le member inTime
    rw [found, Option.getD_some, if_pos positive]
    omega

/-- The target is not in front of the rows. -/
theorem minSeq_le_rewindTarget (reads : db.faults.succeeds .select = true)
    (stored : db.events.rows ≠ []) :
    db.events.minSeq.getD 1 - 1 ≤ db.rewindTarget since := by
  obtain ⟨first, member, front, least⟩ := EventTable.exists_first stored
  rw [front]
  by_contra behind
  have above : db.rewindTarget since < first.seq := by omega
  obtain ⟨old, oldMember, earlier, inTime⟩ := (rewindTarget_lt_iff reads member).mp above
  obtain ⟨seq, found, positive, bound⟩ := EventTable.firstSince_le oldMember inTime
  obtain ⟨event, here, rfl⟩ := Option.map_eq_some_iff.mp found
  have low := least event (List.mem_of_find?_eq_some here)
  unfold rewindTarget at behind
  simp only [scalarWith_eq reads, found, Option.getD_some, gt_iff_lt, positive,
    ↓reduceIte] at behind
  omega

theorem rewindTarget_le_maxSeq (reads : db.faults.succeeds .select = true) :
    db.rewindTarget since ≤ db.events.maxSeq.getD 0 := by
  unfold rewindTarget
  simp only [scalarWith_eq reads]
  split
  next positive =>
    cases found : db.events.firstSince since with
    | none =>
        rw [found] at positive
        cases positive
    | some first =>
        obtain ⟨event, here, rfl⟩ := Option.map_eq_some_iff.mp found
        have newest := EventTable.seq_le_maxSeq (List.mem_of_find?_eq_some here)
        rw [Option.getD_some]
        omega
  next => exact Int.le_refl _

/-- The answer of a rewind is the number of events that are pending behind it. -/
theorem rewind_count (reads : db.faults.succeeds .select = true) :
    EventsDb.pending { db.rewoundTo since with faults := Faults.none } =
      db.events.maxSeq.getD 0 - db.rewindTarget since := by
  have newest := @rewindTarget_le_maxSeq db since reads
  have succeeds : (Faults.none : Faults SqlKind).succeeds .select = true := rfl
  unfold EventsDb.pending
  simp only [rewoundTo, scalarWith, succeeds, ↓reduceIte, Option.getD_some]
  by_cases stored : db.events.rows = []
  · have none : db.events.maxSeq.getD 0 = 0 := by
      rw [EventTable.maxSeq, stored]
      rfl
    have target : db.rewindTarget since = 0 := by
      simp [rewindTarget, scalarWith_eq reads, EventTable.firstSince, EventTable.maxSeq, stored]
    rw [if_pos none, none, target]
    rfl
  · have oldest := @minSeq_le_rewindTarget db since reads stored
    have last := List.getLast_mem stored
    have positive := db.events.positive _ last
    have above := EventTable.seq_le_maxSeq last
    have outside : ¬ db.rewindTarget since < db.events.minSeq.getD 1 - 1 := by omega
    rw [if_neg (by omega), if_neg outside]
    split <;> omega

theorem pending_of_empty {db : EventsDb} {sent : Int} {faults : Faults SqlKind}
    (empty : db.events.rows = []) :
    EventsDb.pending { db with sentSeq := sent, faults := faults } = 0 := by
  have none : db.events.maxSeq = none := by
    rw [EventTable.maxSeq, empty]
    rfl
  unfold EventsDb.pending EventsDb.scalarWith
  simp only [none, Option.getD_none, ite_self, ↓reduceIte]

/-- With the position in front of all rows something is pending. -/
theorem pending_pos {db : EventsDb} (reads : db.faults.succeeds .select = true)
    (stored : db.events.rows ≠ []) (front : db.sentSeq ≤ 0) : 0 < db.pending := by
  obtain ⟨first, member, oldest, _⟩ := EventTable.exists_first stored
  have positive := db.events.positive first member
  have newest := EventTable.seq_le_maxSeq member
  unfold EventsDb.pending
  simp only [scalarWith_eq reads, oldest, Option.getD_some]
  rw [if_neg (by omega)]
  split <;> split <;> omega

end EventsDb

theorem eventsRewindToTime_eq {ev : AcuEvents} {db : EventsDb} (attached : ev.db = some db)
    (since : Int) :
    eventsRewindToTime ev since =
      if db.faults.succeeds .update then
        (some (db.scalarWith db.events.maxSeq 0 - db.rewindTarget since),
          { ev with db := some (db.rewoundTo since) })
      else (none, { ev with db := some { db with faults := db.faults.next } }) := by
  unfold eventsRewindToTime
  rw [attached]
  dsimp only
  unfold EventsDb.setSentSeq
  cases updates : db.faults.succeeds .update with
  | true =>
      simp only [↓reduceIte]
      rfl
  | false => simp only [Bool.false_eq_true, ↓reduceIte]

section Rewound

variable {ev : AcuEvents} {db : EventsDb}

theorem pendingEvents_eq (attached : ev.db = some db) :
    pendingEvents ev = db.events.after db.sentSeq := by
  rw [pendingEvents, attached]

/-- What is pending behind a rewind. -/
theorem mem_pendingEvents_rewoundTo (ev : AcuEvents) (db : EventsDb) (since : Int)
    (event : AcuEvent) :
    event ∈ pendingEvents { ev with db := some (db.rewoundTo since) } ↔
      event ∈ db.events.rows ∧ db.rewindTarget since < event.seq := by
  show event ∈ db.events.rows.filter _ ↔ _
  rw [List.mem_filter, decide_eq_true_eq]
  rfl

/-- With reads that succeed, the position moves in front of the first event in time. -/
theorem rewound_iff_of_reads (attached : ev.db = some db) (since : Int)
    (reads : db.faults.succeeds .select = true) :
    Rewound ev { ev with db := some (db.rewoundTo since) } since
        (db.scalarWith db.events.maxSeq 0 - db.rewindTarget since) ↔
      ∀ event ∈ db.events.after db.sentSeq, ∃ old ∈ db.events.rows,
        old.seq ≤ event.seq ∧ since ≤ old.ts := by
  have isPending := mem_pendingEvents_rewoundTo ev db since
  have target {event : AcuEvent} (member : event ∈ db.events.rows) :=
    @EventsDb.rewindTarget_lt_iff db since reads event member
  constructor
  · intro rewound event member
    rw [← pendingEvents_eq attached] at member
    obtain ⟨stored, above⟩ := (isPending event).mp (rewound.kept event member)
    exact (target stored).mp above
  · intro backward
    refine { covered := ?_, counted := ?_, kept := ?_ }
    · intro event stored inTime
      have member : event ∈ db.events.rows := stored
      exact (isPending event).mpr
        ⟨member, (target member).mpr ⟨event, member, Int.le_refl _, inTime⟩⟩
    · show _ = EventsDb.pending { db.rewoundTo since with faults := Faults.none }
      rw [EventsDb.rewind_count reads, EventsDb.scalarWith_eq reads]
    · intro event member
      rw [pendingEvents_eq attached] at member
      have stored : event ∈ db.events.rows := (List.mem_filter.mp member).1
      exact (isPending event).mpr ⟨stored, (target stored).mpr (backward event member)⟩

/-- Reads that fail answer their defaults: the position is set to 0 and the answer is 0,
which is right for an empty store only. -/
theorem rewound_iff_of_defaults (attached : ev.db = some db) (since : Int)
    (fails : db.faults.succeeds .select = false) :
    Rewound ev { ev with db := some (db.rewoundTo since) } since
        (db.scalarWith db.events.maxSeq 0 - db.rewindTarget since) ↔
      db.events.rows = [] := by
  have zero : db.rewindTarget since = 0 := by
    simp [EventsDb.rewindTarget, EventsDb.scalarWith, fails]
  have answer : db.scalarWith db.events.maxSeq 0 - db.rewindTarget since = 0 := by
    simp [zero, EventsDb.scalarWith, fails]
  rw [answer]
  constructor
  · intro rewound
    have counted : 0 = EventsDb.pending { db.rewoundTo since with faults := Faults.none } :=
      rewound.counted
    have nothing : db.rewindTarget since ≤ 0 := by omega
    by_contra stored
    have some := @EventsDb.pending_pos { db.rewoundTo since with faults := Faults.none }
      rfl stored nothing
    omega
  · intro empty
    have none : db.events.after db.sentSeq = [] := by
      rw [EventTable.after, empty]
      rfl
    refine { covered := ?_, counted := ?_, kept := ?_ }
    · intro event stored
      have member : event ∈ db.events.rows := stored
      rw [empty] at member
      cases member
    · exact (EventsDb.pending_of_empty empty).symm
    · rw [pendingEvents_eq attached, none]
      intro event missing
      cases missing

/-- A rewind that wrote its position. -/
theorem rewound_iff (attached : ev.db = some db) (since : Int) :
    Rewound ev { ev with db := some (db.rewoundTo since) } since
        (db.scalarWith db.events.maxSeq 0 - db.rewindTarget since) ↔
      (db.faults.succeeds .select = true ∨ db.events.rows = []) ∧
        ∀ event ∈ db.events.after db.sentSeq, ∃ old ∈ db.events.rows,
          old.seq ≤ event.seq ∧ since ≤ old.ts := by
  cases reads : db.faults.succeeds .select with
  | true =>
      rw [rewound_iff_of_reads attached since reads]
      exact (and_iff_right (.inl rfl)).symm
  | false =>
      rw [rewound_iff_of_defaults attached since reads]
      simp only [Bool.false_eq_true, false_or]
      refine (and_iff_left_of_imp fun empty => ?_).symm
      rw [EventTable.after, empty]
      intro event missing
      cases missing

end Rewound

/-- For every stored event list, every read position and every time: a rewind that
succeeds loses nothing exactly when it does not move the position past a pending event. -/
theorem rewind_loses_nothing_iff (ev : AcuEvents) (since : Int) :
    RewindLosesNothing ev since ↔ RewindsBack ev since := by
  unfold RewindLosesNothing RewindsBack
  cases attached : ev.db with
  | none =>
      refine iff_of_true ?_ (fun db some => by cases some)
      intro count after rewound
      rw [eventsRewindToTime, attached] at rewound
      cases rewound
  | some db =>
      have stored : storedEvents ev = db.events.rows := by rw [storedEvents, attached]
      have pending := pendingEvents_eq attached
      simp only [Option.some.injEq, forall_eq', eventsRewindToTime_eq attached]
      cases updates : db.faults.succeeds .update with
      | false =>
          refine iff_of_true ?_ ?_
          · intro count after rewound
            cases rewound
          · intro written
            cases written
      | true =>
          simp only [↓reduceIte, Prod.mk.injEq, Option.some.injEq, and_imp, true_implies]
          rw [stored, pending]
          trans Rewound ev { ev with db := some (db.rewoundTo since) } since
            (db.scalarWith db.events.maxSeq 0 - db.rewindTarget since)
          · constructor
            · intro rewound
              exact rewound _ _ rfl rfl
            · rintro rewound _ _ rfl rfl
              exact rewound
          · exact rewound_iff attached since

/-- Two events that were not sent yet, and a rewind to the time of the second. -/
def unsentEvents : AcuEvents :=
  { eventsOpen none 100 with
    db := some
      { events :=
          (EventTable.empty.insert { (default : AcuEvent) with ts := 10 }).insert
            { (default : AcuEvent) with ts := 20 }
        sentSeq := 0
        faults := Faults.none } }

/-- The first event was pending, and the rewind moves the position past it. -/
theorem rewind_skips_pending : ¬ RewindLosesNothing unsentEvents 20 := by
  have answer : ((eventsRewindToTime unsentEvents 20).1,
      (pendingEvents unsentEvents).length,
      (pendingEvents (eventsRewindToTime unsentEvents 20).2).map AcuEvent.seq) =
        (some 1, 2, [2]) := by
    decide
  simp only [Prod.mk.injEq] at answer
  obtain ⟨count, _, left⟩ := answer
  have first : ∃ event ∈ pendingEvents unsentEvents, event.seq = 1 := by decide
  obtain ⟨event, pending, seq⟩ := first
  intro kept
  have rewound := kept 1 _ (Prod.ext count rfl)
  have still : event.seq ∈
      (pendingEvents (eventsRewindToTime unsentEvents 20).2).map AcuEvent.seq :=
    List.mem_map_of_mem (rewound.kept event pending)
  rw [left, seq] at still
  exact absurd still (by decide)

end Acud
