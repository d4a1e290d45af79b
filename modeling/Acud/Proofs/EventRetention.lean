/-
Module: Acud.Proofs.EventRetention
Purpose: The event store keeps the newest events, without holes.
Trusted boundary: none
Main exports:
  EventTable.Contiguous, EventsDb.total_eq, EventsDb.pending_eq, EventOp, eventStep,
  EventLog, Retained, events_retained
-/
import Acud.Lib.Machine
import Acud.Proofs.EventStore
import Mathlib.Algebra.Group.Int.Defs

namespace Acud

open Lib

/-!
Rows are added at the end and deleted at the front, so their seqs are consecutive up to
the last one that was given out.  Counts are computed from that: the source never counts
rows.

Trimming is looked at once for a thousand appends.  How many rows there may be until
then is told by the seq at which it is looked at next.

[SRC src/acud/events.c]
-/

/-! ### Tables without holes -/

namespace EventTable

/-- The seqs are consecutive up to the last one that was given out. -/
def Contiguous (table : EventTable) : Prop :=
  Consecutive AcuEvent.seq (table.autoSeq + 1 - table.rows.length) table.rows

variable {table : EventTable}

theorem contiguous_empty : empty.Contiguous := trivial

theorem Contiguous.insert (contiguous : table.Contiguous) (event : AcuEvent) :
    (table.insert event).Contiguous := by
  have length : (table.insert event).rows.length = table.rows.length + 1 := by
    simp [EventTable.insert]
  have first : table.autoSeq + 1 + 1 - ((table.rows.length + 1 : Nat) : Int) =
      table.autoSeq + 1 - table.rows.length := by omega
  unfold Contiguous
  rw [length]
  show Consecutive AcuEvent.seq (table.autoSeq + 1 + 1 - _) (table.rows ++ [_])
  rw [first, Consecutive.concat]
  refine ⟨contiguous, ?_⟩
  show table.autoSeq + 1 = _
  omega

/-- Deleting below a seq drops rows from the front. -/
theorem Contiguous.rows_deleteBelow (contiguous : table.Contiguous) (cut : Int) :
    (table.deleteBelow cut).rows =
      table.rows.drop (cut - (table.autoSeq + 1 - table.rows.length)).toNat :=
  Consecutive.filter_from contiguous cut

theorem Contiguous.deleteBelow (contiguous : table.Contiguous) (cut : Int) :
    (table.deleteBelow cut).Contiguous := by
  unfold Contiguous
  rw [contiguous.rows_deleteBelow, List.length_drop]
  show Consecutive AcuEvent.seq (table.autoSeq + 1 - _) _
  generalize (cut - (table.autoSeq + 1 - (table.rows.length : Int))).toNat = count
  rcases Nat.lt_or_ge table.rows.length count with beyond | within
  · rw [List.drop_of_length_le (Nat.le_of_lt beyond)]
    trivial
  · have dropped := Consecutive.drop contiguous within
    have first : table.autoSeq + 1 - ((table.rows.length - count : Nat) : Int) =
        table.autoSeq + 1 - table.rows.length + count := by omega
    rw [first]
    exact dropped

/-- What is above a position is a back part. -/
theorem Contiguous.after (contiguous : table.Contiguous) (position : Int) :
    table.after position =
      table.rows.drop (position + 1 - (table.autoSeq + 1 - table.rows.length)).toNat :=
  Consecutive.filter_above contiguous position

/-- The first and the last seq of rows that are there. -/
theorem Contiguous.ends (contiguous : table.Contiguous) (stored : table.rows ≠ []) :
    table.minSeq = some (table.autoSeq + 1 - table.rows.length) ∧
      table.maxSeq = some table.autoSeq ∧ (table.rows.length : Int) ≤ table.autoSeq := by
  have front := List.head?_eq_some_head stored
  have final := List.getLast?_eq_some_getLast stored
  have first := Consecutive.head? contiguous front
  have last := Consecutive.getLast? contiguous final
  have positive := table.positive _ (List.head_mem stored)
  refine ⟨?_, ?_, by omega⟩
  · rw [minSeq, front, Option.map_some, first]
  · rw [maxSeq, final, Option.map_some, last]
    congr 1
    omega

end EventTable

/-! ### Counts -/

namespace EventsDb

variable {db : EventsDb}

/-- `MAX - MIN + 1` is the number of rows. -/
theorem total_eq (contiguous : db.events.Contiguous)
    (reads : db.faults.succeeds .select = true) : db.total = db.events.rows.length := by
  unfold total
  simp only [scalarWith_eq reads]
  by_cases none : db.events.rows = []
  · have newest : db.events.maxSeq = Option.none := by rw [EventTable.maxSeq, none]; rfl
    rw [newest, none]
    rfl
  · obtain ⟨min, max, within⟩ := contiguous.ends none
    have positive := List.length_pos_iff.mpr none
    rw [min, max, Option.getD_some, Option.getD_some, if_neg (by omega)]
    omega

/-- The clamped difference is the number of rows above the read position. -/
theorem pending_eq (contiguous : db.events.Contiguous)
    (reads : db.faults.succeeds .select = true) :
    db.pending = (db.events.after db.sentSeq).length := by
  unfold pending
  simp only [scalarWith_eq reads, Option.getD_some]
  rw [contiguous.after, List.length_drop]
  by_cases none : db.events.rows = []
  · have newest : db.events.maxSeq = Option.none := by rw [EventTable.maxSeq, none]; rfl
    rw [newest, none]
    simp
  · obtain ⟨min, max, within⟩ := contiguous.ends none
    have positive := List.length_pos_iff.mpr none
    rw [min, max, Option.getD_some, Option.getD_some, if_neg (by omega)]
    split
    next behind =>
      split <;> omega
    next inside =>
      split <;> omega

end EventsDb

/-! ### Runs -/

/-- The capacities a store is opened with. -/
structure EventsCapacity where
  value : Int
  positive : 1 ≤ value
  small : value < 2 ^ 62

inductive EventOp where
  | append (event : AcuEvent)
  | fetch (max : Int)
  | ack (upto : Int)
  | markAllSent
  | rewindToTime (since : Int)
  | rewindToSeq (firstSeq : Int)
  /-- `events_close` and `events_open`, perhaps with another capacity. -/
  | reopen (capacity : EventsCapacity)
  /-- Someone else writes the read position. -/
  | overwrite (value : Int)

def eventStep (ev : AcuEvents) : EventOp → AcuEvents
  | .append event => (eventsAppend ev event).2
  | .fetch max => (eventsFetch ev max).2
  | .ack upto => (eventsAck ev upto).2
  | .markAllSent => (eventsMarkAllSent ev).2
  | .rewindToTime since => (eventsRewindToTime ev since).2
  | .rewindToSeq firstSeq => (eventsRewindToSeq ev firstSeq).2
  | .reopen capacity => eventsOpen ev.db capacity.value
  | .overwrite value =>
      { ev with db := ev.db.map fun db => { db with sentSeq := value } }

/-- A file with the schema and nothing else. -/
def EventsDb.created (faults : Faults SqlKind) : EventsDb :=
  { events := .empty
    sentSeq := 0
    faults := faults }

/-- A store, the capacity it was last opened with and everything that was appended. -/
structure EventLog where
  ev : AcuEvents
  capacity : EventsCapacity
  appended : List AcuEvent

namespace EventLog

def created (faults : Faults SqlKind) (capacity : EventsCapacity) : EventLog :=
  { ev := eventsOpen (some (.created faults)) capacity.value
    capacity := capacity
    appended := [] }

def step (log : EventLog) (op : EventOp) : Option EventLog :=
  some
    { ev := eventStep log.ev op
      capacity :=
        match op with
        | .reopen capacity => capacity
        | _ => log.capacity
      appended :=
        match op with
        | .append event =>
            if (eventsAppend log.ev event).1 then log.appended ++ [appendedRow log.ev event]
            else log.appended
        | _ => log.appended }

/-- What is stored is the newest that was appended, without a hole. -/
structure Retained (log : EventLog) : Prop where
  newest : storedEvents log.ev <:+ log.appended
  contiguous : ∃ first, Consecutive AcuEvent.seq first (storedEvents log.ev)
  last : (storedEvents log.ev).getLast? = log.appended.getLast?
  total : eventsTotal log.ev = (storedEvents log.ev).length

/-- An append stores its event and leaves at most 999 events over the capacity. -/
structure Stores (log : EventLog) (event : AcuEvent) (next : EventLog) : Prop where
  answered : (eventsAppend log.ev event).1 = true
  stored : appendedRow log.ev event ∈ storedEvents next.ev
  count : ((storedEvents next.ev).length : Int) ≤ next.capacity.value + 999

/-- Only an append deletes, and what it deletes has more than a capacity of events stored
that are not older. -/
def Deletes (log : EventLog) (op : EventOp) (old : AcuEvent) : Prop :=
  ∃ event, op = .append event ∧
    log.capacity.value <
      ((storedEvents log.ev ++ [appendedRow log.ev event]).filter
        fun other => decide (old.seq ≤ other.seq)).length

end EventLog

/-! ### What a step leaves alone -/

namespace EventsDb

theorem fetchFrom_sameEvents (db : EventsDb) (max retries : Nat) :
    db.SameEvents (db.fetchFrom max retries).2 := by
  induction retries generalizing db with
  | zero => exact .refl db
  | succ retries inductionHypothesis =>
      have repaired := db.repairIndex_sameEvents
      rw [fetchFrom]
      split
      next =>
        split
        next result =>
          rw [result] at repaired
          exact repaired.trans (inductionHypothesis _)
        next result =>
          rw [result] at repaired
          exact repaired
      next => exact .refl db

end EventsDb

/-- Everything but appends and reopening. -/
def EventOp.MovesIndex : EventOp → Prop
  | .append _ => False
  | .reopen _ => False
  | _ => True

theorem EventOp.append_or_reopen_or_moves (op : EventOp) :
    (∃ event, op = .append event) ∨ (∃ capacity, op = .reopen capacity) ∨ op.MovesIndex := by
  cases op with
  | append event => exact .inl ⟨event, rfl⟩
  | reopen capacity => exact .inr (.inl ⟨capacity, rfl⟩)
  | _ => exact .inr (.inr trivial)

/-- Such an operation writes the read position at most. -/
theorem eventStep_movesIndex {ev : AcuEvents} {db : EventsDb} (attached : ev.db = some db)
    {op : EventOp} (moves : op.MovesIndex) :
    ∃ after, db.SameEvents after ∧ eventStep ev op = { ev with db := some after } := by
  have unchanged : ev = { ev with db := some db } := by rw [← attached]
  cases op with
  | append event => cases moves
  | reopen capacity => cases moves
  | fetch max =>
      rw [eventStep, eventsFetch]
      split
      next => exact ⟨db, .refl db, unchanged⟩
      next =>
        rw [attached]
        exact ⟨_, db.fetchFrom_sameEvents _ _, rfl⟩
  | ack upto =>
      rw [eventStep, eventsAck]
      split
      next => exact ⟨db, .refl db, unchanged⟩
      next =>
        rw [attached]
        dsimp only
        split
        next =>
          refine ⟨_, ?_, rfl⟩
          exact ⟨rfl, rfl⟩
        next =>
          refine ⟨_, ?_, rfl⟩
          exact ⟨rfl, rfl⟩
  | markAllSent =>
      rw [eventStep, eventsMarkAllSent]
      rw [attached]
      exact ⟨_, db.setSentSeq_sameEvents rfl, rfl⟩
  | rewindToTime since =>
      rw [eventStep, eventsRewindToTime]
      rw [attached]
      dsimp only
      split
      next result =>
        exact ⟨_, db.setSentSeq_sameEvents result, rfl⟩
      next result =>
        exact ⟨_, db.setSentSeq_sameEvents result, rfl⟩
  | rewindToSeq firstSeq =>
      rw [eventStep, eventsRewindToSeq]
      rw [attached]
      dsimp only
      split
      next => exact ⟨db, .refl db, unchanged⟩
      next =>
        split
        next => exact ⟨db, .refl db, unchanged⟩
        next => exact ⟨_, db.setSentSeq_sameEvents rfl, rfl⟩
  | overwrite value =>
      rw [eventStep, attached]
      refine ⟨_, ?_, rfl⟩
      exact ⟨rfl, rfl⟩

/-! ### Appending and trimming -/

namespace EventsDb

/-- Of the rows the newest are left, as many as the capacity. -/
structure Trimmed (db : EventsDb) (capacity : Int) (after : EventsDb) : Prop where
  rows : after.events.rows =
    db.events.rows.drop (db.events.rows.length - capacity).toNat
  contiguous : after.events.Contiguous
  autoSeq : after.events.autoSeq = db.events.autoSeq
  ok : after.faults.ok = db.faults.ok

theorem trimIfNeeded_trimmed {db : EventsDb} (contiguous : db.events.Contiguous)
    (reads : db.faults.Never .select) (deletes : db.faults.Never .delete) {capacity : Int}
    (positive : 0 < capacity) : db.Trimmed capacity (db.trimIfNeeded capacity) := by
  unfold trimIfNeeded
  rw [total_eq contiguous reads.succeeds]
  split
  next within =>
    have none : ((db.events.rows.length : Int) - capacity).toNat = 0 := by omega
    constructor
    · rw [none, List.drop_zero]
    · exact contiguous
    · rfl
    · rfl
  next overfull =>
    have stored : db.events.rows ≠ [] := by
      intro none
      rw [none] at overfull
      simp only [List.length_nil] at overfull
      omega
    rw [scalarWith_eq reads.succeeds, (contiguous.ends stored).1, Option.getD_some,
      if_pos deletes.succeeds]
    constructor
    · show (db.events.deleteBelow _).rows = _
      rw [contiguous.rows_deleteBelow]
      congr 2
      omega
    · exact contiguous.deleteBelow _
    · rfl
    · rfl

end EventsDb

/-- How many rows there may be, told by the seq at which they are next looked at. -/
def EventsDb.Room (db : EventsDb) (capacity nextTrimCheck : Int) : Prop :=
  db.events.rows.length + nextTrimCheck ≤ capacity + eventsTrimSlack + db.events.autoSeq

/-- What an append whose statements succeed does to the rows: the new one is there, and
some are dropped while that leaves as many as the capacity. -/
structure AppendOutcome (ev : AcuEvents) (db : EventsDb) (event : AcuEvent)
    (next : AcuEvents) (after : EventsDb) : Prop where
  attached : next.db = some after
  capacity : next.capacity = ev.capacity
  rows : ∃ dropped, after.events.rows = (db.events.insert event).rows.drop dropped ∧
    (0 < dropped → ev.capacity + dropped = db.events.rows.length + 1)
  contiguous : after.events.Contiguous
  autoSeq : after.events.autoSeq = db.events.autoSeq + 1
  ok : after.faults.ok = db.faults.ok
  room : after.Room ev.capacity next.nextTrimCheck
  count : (after.events.rows.length : Int) ≤ ev.capacity + 999

theorem EventTable.length_insert (table : EventTable) (event : AcuEvent) :
    (table.insert event).rows.length = table.rows.length + 1 := by
  simp [EventTable.insert]

theorem eventsAppend_outcome {ev : AcuEvents} {db : EventsDb} (attached : ev.db = some db)
    (faultless : ∀ kind, db.faults.Never kind) (contiguous : db.events.Contiguous)
    (room : db.Room ev.capacity ev.nextTrimCheck) (event : AcuEvent) :
    (eventsAppend ev event).1 = true ∧
      ∃ after, AppendOutcome ev db event (eventsAppend ev event).2 after := by
  obtain ⟨sameEvents, sameFaults⟩ := db.repairIndex_sameEvents
  unfold eventsAppend
  rw [attached]
  dsimp only
  generalize db.repairIndex.2 = repaired at sameEvents sameFaults ⊢
  have works : ∀ kind, repaired.faults.Never kind := by
    unfold Faults.Never
    rw [sameFaults]
    exact faultless
  let stored : EventsDb :=
    { repaired with
      events := repaired.events.insert event
      faults := repaired.faults.next }
  have written : stored.events = db.events.insert event := by rw [← sameEvents]
  have consecutive : stored.events.Contiguous := by
    rw [written]
    exact contiguous.insert event
  have seq : (repaired.events.numbered event).seq = db.events.autoSeq + 1 := by
    rw [sameEvents]
    rfl
  have length := db.events.length_insert event
  have positive := ev.capacityPositive
  unfold EventsDb.Room at room
  rw [if_pos (works .insert).succeeds, seq]
  split
  next due =>
    have trimmed : stored.Trimmed ev.capacity (stored.trimIfNeeded ev.capacity) :=
      EventsDb.trimIfNeeded_trimmed consecutive (works .select) (works .delete) positive
    have rows := trimmed.rows
    rw [written, length] at rows
    have left : (stored.trimIfNeeded ev.capacity).events.rows.length =
        db.events.rows.length + 1 - (((db.events.rows.length + 1 : Nat) : Int) -
          ev.capacity).toNat := by rw [rows, List.length_drop, length]
    have counted : (stored.trimIfNeeded ev.capacity).events.autoSeq =
        db.events.autoSeq + 1 := by
      rw [trimmed.autoSeq, written]
      rfl
    refine ⟨rfl, stored.trimIfNeeded ev.capacity, ?_⟩
    constructor
    · rfl
    · rfl
    · refine ⟨_, rows, fun some => ?_⟩
      omega
    · exact trimmed.contiguous
    · exact counted
    · rw [trimmed.ok]
      exact sameFaults
    · unfold EventsDb.Room
      dsimp only
      omega
    · omega
  next early =>
    refine ⟨rfl, stored, ?_⟩
    constructor
    · rfl
    · rfl
    · exact ⟨0, by rw [written, List.drop_zero], fun none => absurd none (Nat.lt_irrefl 0)⟩
    · exact consecutive
    · rw [written]
      rfl
    · exact sameFaults
    · have counted : (db.events.insert event).autoSeq = db.events.autoSeq + 1 := rfl
      unfold EventsDb.Room
      rw [written, length, counted]
      dsimp only
      omega
    · rw [written, length]
      unfold eventsTrimSlack at room
      omega

/-- A file has not more rows than seqs were given out. -/
theorem EventsDb.room_eventsOpen (db : EventsDb)
    (within : db.events.rows.length ≤ db.events.autoSeq) (file : Option EventsDb)
    (capacity : Int) :
    db.Room (eventsOpen file capacity).capacity (eventsOpen file capacity).nextTrimCheck := by
  unfold EventsDb.Room eventsOpen
  dsimp only
  omega

/-! ### The invariant of a run -/

/-- What holds between the rows and what was appended. -/
structure EventLog.Invariant (log : EventLog) (db : EventsDb) : Prop where
  attached : log.ev.db = some db
  faultless : ∀ kind, db.faults.Never kind
  contiguous : db.events.Contiguous
  capacity : log.ev.capacity = log.capacity.value
  count : db.events.autoSeq = log.appended.length
  newest : db.events.rows <:+ log.appended
  last : db.events.rows.getLast? = log.appended.getLast?
  room : db.Room log.ev.capacity log.ev.nextTrimCheck

namespace EventLog

variable {log next : EventLog} {db : EventsDb}

theorem created_invariant {faults : Faults SqlKind} (faultless : ∀ kind, faults.Never kind)
    (capacity : EventsCapacity) :
    ∃ db, (created faults capacity).Invariant db := by
  have positive := capacity.positive
  have limit : (if capacity.value > 0 then capacity.value else eventsDefaultCapacity) =
      capacity.value := if_pos (by omega)
  have sound : (EventsDb.created faults).ReadIndexSound := Int.le_refl 0
  have attached : (created faults capacity).ev.db = some (.created faults) := by
    show some (EventsDb.created faults).repairIndex.2 = _
    rw [EventsDb.repairIndex_of_sound sound]
  refine ⟨.created faults,
    { attached := attached
      faultless := faultless
      contiguous := EventTable.contiguous_empty
      capacity := limit
      count := rfl
      newest := List.suffix_refl []
      last := rfl
      room := ?_ }⟩
  exact EventsDb.room_eventsOpen (.created faults) (Int.le_refl 0) _ _

theorem Invariant.retained (invariant : log.Invariant db) : log.Retained := by
  have stored : storedEvents log.ev = db.events.rows := by
    rw [storedEvents, invariant.attached]
  have total : eventsTotal log.ev = db.total := by rw [eventsTotal, invariant.attached]
  constructor
  · rw [stored]
    exact invariant.newest
  · rw [stored]
    exact ⟨_, invariant.contiguous⟩
  · rw [stored]
    exact invariant.last
  · rw [total, stored]
    exact EventsDb.total_eq invariant.contiguous (invariant.faultless .select).succeeds

/-- A step that writes the read position keeps everything else. -/
theorem Invariant.moves (invariant : log.Invariant db) {op : EventOp}
    (moves : op.MovesIndex) (stepped : log.step op = some next) :
    ∃ after, next.Invariant after ∧ after.events = db.events := by
  obtain ⟨after, same, effect⟩ := eventStep_movesIndex invariant.attached moves
  have unchanged : next = { log with ev := { log.ev with db := some after } } := by
    rw [← effect]
    cases op with
    | append event => cases moves
    | reopen capacity => cases moves
    | fetch max => cases stepped; rfl
    | ack upto => cases stepped; rfl
    | markAllSent => cases stepped; rfl
    | rewindToTime since => cases stepped; rfl
    | rewindToSeq firstSeq => cases stepped; rfl
    | overwrite value => cases stepped; rfl
  rw [unchanged]
  refine ⟨after, ?_, same.events⟩
  constructor
  · rfl
  · unfold Faults.Never
    rw [same.ok]
    exact invariant.faultless
  · rw [same.events]
    exact invariant.contiguous
  · exact invariant.capacity
  · rw [same.events]
    exact invariant.count
  · rw [same.events]
    exact invariant.newest
  · rw [same.events]
    exact invariant.last
  · unfold EventsDb.Room
    rw [same.events]
    exact invariant.room

theorem Invariant.reopens (invariant : log.Invariant db) {capacity : EventsCapacity}
    (stepped : log.step (.reopen capacity) = some next) :
    ∃ after, next.Invariant after ∧ after.events = db.events := by
  obtain ⟨sameEvents, sameFaults⟩ := db.repairIndex_sameEvents
  have positive := capacity.positive
  have limit : (if capacity.value > 0 then capacity.value else eventsDefaultCapacity) =
      capacity.value := if_pos (by omega)
  have within := invariant.newest.length_le
  have count := invariant.count
  cases stepped
  refine ⟨db.repairIndex.2, ?_, sameEvents⟩
  constructor
  · show log.ev.db.map _ = _
    rw [invariant.attached]
    rfl
  · unfold Faults.Never
    rw [sameFaults]
    exact invariant.faultless
  · rw [sameEvents]
    exact invariant.contiguous
  · exact limit
  · rw [sameEvents]
    exact count
  · rw [sameEvents]
    exact invariant.newest
  · rw [sameEvents]
    exact invariant.last
  · apply EventsDb.room_eventsOpen
    rw [sameEvents]
    omega

/-- What an append leaves of the rows and the new one. -/
structure Appended (log : EventLog) (db : EventsDb) (event : AcuEvent) (next : EventLog)
    (after : EventsDb) : Prop where
  invariant : next.Invariant after
  outcome : AppendOutcome log.ev db event next.ev after
  capacity : next.capacity = log.capacity

theorem Invariant.appends (invariant : log.Invariant db) {event : AcuEvent}
    (stepped : log.step (.append event) = some next) :
    (eventsAppend log.ev event).1 = true ∧ ∃ after, log.Appended db event next after := by
  obtain ⟨answered, after, outcome⟩ := eventsAppend_outcome invariant.attached
    invariant.faultless invariant.contiguous invariant.room event
  obtain ⟨dropped, rows, kept⟩ := outcome.rows
  have row : appendedRow log.ev event = db.events.numbered event := by
    rw [appendedRow, invariant.attached]
  have unchanged : next =
      { log with
        ev := (eventsAppend log.ev event).2
        appended := log.appended ++ [db.events.numbered event] } := by
    cases stepped
    rw [← row]
    simp only [answered, ↓reduceIte]
    rfl
  subst unchanged
  have positive := log.ev.capacityPositive
  have length := db.events.length_insert event
  obtain ⟨front, appended⟩ := invariant.newest
  refine ⟨answered, after, ?_, outcome, rfl⟩
  constructor
  · exact outcome.attached
  · unfold Faults.Never
    rw [outcome.ok]
    exact invariant.faultless
  · exact outcome.contiguous
  · rw [outcome.capacity]
    exact invariant.capacity
  · rw [outcome.autoSeq, invariant.count, List.length_append, List.length_singleton]
    rfl
  · rw [rows]
    apply (List.drop_suffix _ _).trans
    refine ⟨front, ?_⟩
    rw [← appended, List.append_assoc]
    rfl
  · -- the new row is not dropped
    rw [rows, List.getLast?_drop, if_neg (by omega)]
    simp [EventTable.insert]
  · rw [outcome.capacity]
    exact outcome.room

/-- One event more was appended. -/
theorem Appended.length (invariant : log.Invariant db) {event : AcuEvent} {after : EventsDb}
    (appended : log.Appended db event next after) :
    next.appended.length = log.appended.length + 1 := by
  have counted := appended.outcome.autoSeq
  rw [appended.invariant.count, invariant.count] at counted
  omega

/-- The appended event is stored. -/
theorem Appended.stores (invariant : log.Invariant db) {event : AcuEvent} {after : EventsDb}
    (answered : (eventsAppend log.ev event).1 = true)
    (appended : log.Appended db event next after) : log.Stores event next := by
  have stored : storedEvents next.ev = after.events.rows := by
    rw [storedEvents, appended.invariant.attached]
  have row : appendedRow log.ev event = db.events.numbered event := by
    rw [appendedRow, invariant.attached]
  have positive := log.ev.capacityPositive
  obtain ⟨dropped, rows, kept⟩ := appended.outcome.rows
  constructor
  · exact answered
  · rw [stored, row, rows]
    have within : dropped ≤ db.events.rows.length := by omega
    show _ ∈ (db.events.rows ++ [_]).drop dropped
    rw [List.drop_append_of_le_length within]
    exact List.mem_append_right _ (List.mem_singleton_self _)
  · rw [stored, appended.capacity, ← invariant.capacity]
    exact appended.outcome.count

/-- What trimming took away was under a capacity of rows. -/
theorem Appended.deletes (invariant : log.Invariant db) {event old : AcuEvent}
    {after : EventsDb} (appended : log.Appended db event next after)
    (before : old ∈ storedEvents log.ev) (gone : old ∉ storedEvents next.ev) :
    log.Deletes (.append event) old := by
  have stored : storedEvents log.ev = db.events.rows := by
    rw [storedEvents, invariant.attached]
  have left : storedEvents next.ev = after.events.rows := by
    rw [storedEvents, appended.invariant.attached]
  have row : appendedRow log.ev event = db.events.numbered event := by
    rw [appendedRow, invariant.attached]
  obtain ⟨dropped, rows, kept⟩ := appended.outcome.rows
  rw [left, rows] at gone
  rw [stored] at before
  refine ⟨event, rfl, ?_⟩
  rw [stored, row]
  show _ < (((db.events.insert event).rows.filter _).length : Int)
  have consecutive := invariant.contiguous.insert event
  have written : old ∈ (db.events.insert event).rows := List.mem_append_left _ before
  have length := db.events.length_insert event
  have bounds := Consecutive.bounds consecutive written
  rw [Consecutive.filter_from consecutive, List.length_drop]
  -- what is not left has a position among the dropped
  have position : old.seq - ((db.events.insert event).autoSeq + 1 -
      (db.events.insert event).rows.length) < dropped := by
    by_contra behind
    apply gone
    have inside : dropped = ((db.events.insert event).autoSeq + 1 -
      (db.events.insert event).rows.length + dropped -
        ((db.events.insert event).autoSeq + 1 -
      (db.events.insert event).rows.length)).toNat := by omega
    rw [inside, ← Consecutive.filter_from consecutive]
    refine List.mem_filter.mpr ⟨written, ?_⟩
    simp only [decide_eq_true_eq]
    omega
  rw [invariant.capacity] at kept
  omega

theorem Invariant.step (invariant : log.Invariant db) {op : EventOp}
    (stepped : log.step op = some next) : ∃ after, next.Invariant after := by
  rcases op.append_or_reopen_or_moves with ⟨event, rfl⟩ | ⟨capacity, rfl⟩ | moves
  · obtain ⟨_, after, appended⟩ := invariant.appends stepped
    exact ⟨after, appended.invariant⟩
  · obtain ⟨after, kept, _⟩ := invariant.reopens stepped
    exact ⟨after, kept⟩
  · obtain ⟨after, kept, _⟩ := invariant.moves moves stepped
    exact ⟨after, kept⟩

/-- Without an append the same rows are stored. -/
theorem Invariant.stored (invariant : log.Invariant db) {op : EventOp}
    (stepped : log.step op = some next) (other : ∀ event, op ≠ .append event) :
    storedEvents next.ev = storedEvents log.ev := by
  have same : ∃ after, next.Invariant after ∧ after.events = db.events := by
    rcases op.append_or_reopen_or_moves with ⟨event, rfl⟩ | ⟨capacity, rfl⟩ | moves
    · exact absurd rfl (other event)
    · exact invariant.reopens stepped
    · exact invariant.moves moves stepped
  obtain ⟨after, kept, events⟩ := same
  rw [storedEvents, storedEvents, invariant.attached, kept.attached]
  exact congrArg EventTable.rows events

/-- It holds in every state of a run. -/
theorem reached_invariant {faults : Faults SqlKind} (faultless : ∀ kind, faults.Never kind)
    (capacity : EventsCapacity) {ops : List EventOp}
    (reached : run EventLog.step (.created faults capacity) ops = some log) :
    ∃ db, log.Invariant db := by
  have keeps (state : EventLog) (op : EventOp) (next : EventLog)
      (holds : ∃ db, state.Invariant db) (stepped : state.step op = some next) :
      ∃ db, next.Invariant db := by
    obtain ⟨db, invariant⟩ := holds
    exact invariant.step stepped
  exact run_invariant keeps (created_invariant faultless capacity) reached

/-- Appends have a result, and each is one more of what was appended. -/
theorem Invariant.appendsAll (invariant : log.Invariant db) (event : AcuEvent)
    (count : Nat) :
    ∃ final after,
      run EventLog.step log (List.replicate count (.append event)) = some final ∧
        final.Invariant after ∧ final.capacity = log.capacity ∧
          final.appended.length = log.appended.length + count := by
  induction count generalizing log db with
  | zero => exact ⟨log, db, rfl, invariant, rfl, rfl⟩
  | succ count inductionHypothesis =>
      have stepped : log.step (.append event) = some _ := rfl
      obtain ⟨_, between, appended⟩ := invariant.appends stepped
      obtain ⟨final, after, reached, kept, capacity, length⟩ :=
        inductionHypothesis appended.invariant
      have one := appended.length invariant
      refine ⟨final, after, ?_, kept, capacity.trans appended.capacity, by omega⟩
      rw [List.replicate_succ, run_cons, stepped]
      exact reached

end EventLog

/-- In every run the newest events are stored without a hole, an append stores its event
within 999 of the capacity, and nothing is deleted that a capacity of events is not newer
than. -/
theorem events_retained {faults : Faults SqlKind} (faultless : ∀ kind, faults.Never kind)
    (capacity : EventsCapacity) {ops : List EventOp} {log : EventLog}
    (reached : run EventLog.step (.created faults capacity) ops = some log) :
    log.Retained ∧
      ∀ op next, log.step op = some next →
        (∀ event, op = .append event → log.Stores event next) ∧
          ∀ old ∈ storedEvents log.ev, old ∉ storedEvents next.ev → log.Deletes op old := by
  obtain ⟨db, invariant⟩ := EventLog.reached_invariant faultless capacity reached
  refine ⟨invariant.retained, ?_⟩
  intro op next stepped
  by_cases append : ∃ event, op = .append event
  · obtain ⟨event, rfl⟩ := append
    obtain ⟨answered, after, appended⟩ := invariant.appends stepped
    constructor
    · rintro other same
      cases same
      exact appended.stores invariant answered
    · intro old before gone
      exact appended.deletes invariant before gone
  · have other : ∀ event, op ≠ .append event := fun event same => append ⟨event, same⟩
    constructor
    · intro event same
      exact absurd same (other event)
    · intro old before gone
      rw [invariant.stored stepped other] at gone
      exact absurd before gone

/-- A store for one event, reopened for two, takes a thousand events more and one: then
not all that was appended is stored. -/
theorem events_retained_trimmed :
    ∃ log next,
      run EventLog.step (.created .none ⟨1, by decide, by decide⟩)
        ([.append default, .append default, .fetch 1, .ack 1,
          .reopen ⟨2, by decide, by decide⟩] ++ List.replicate 1000 (.append default)) =
            some log ∧
      log.step (.append default) = some next ∧ log.Retained ∧ log.Stores default next ∧
      (∀ old ∈ storedEvents log.ev, old ∉ storedEvents next.ev →
        log.Deletes (.append default) old) ∧
      (storedEvents next.ev).length < next.appended.length := by
  have faultless : ∀ kind, (Faults.none : Faults SqlKind).Never kind := fun _ _ => rfl
  obtain ⟨begun, opened, two, capacity⟩ : ∃ begun,
      run EventLog.step (.created .none ⟨1, by decide, by decide⟩)
        [.append default, .append default, .fetch 1, .ack 1,
          .reopen ⟨2, by decide, by decide⟩] = some begun ∧
      begun.appended.length = 2 ∧ begun.capacity.value = 2 := ⟨_, rfl, rfl, rfl⟩
  obtain ⟨db, invariant⟩ := EventLog.reached_invariant faultless _ opened
  obtain ⟨log, full, filled, kept, sameCapacity, length⟩ := invariant.appendsAll default 1000
  obtain ⟨next, stepped⟩ : ∃ next, log.step (.append default) = some next := ⟨_, rfl⟩
  obtain ⟨_, last, appended⟩ := kept.appends stepped
  have one := appended.length kept
  have reached : run EventLog.step (.created .none ⟨1, by decide, by decide⟩)
      ([.append default, .append default, .fetch 1, .ack 1,
        .reopen ⟨2, by decide, by decide⟩] ++ List.replicate 1000 (.append default)) =
          some log := by
    rw [run_append, opened, Option.bind_some, filled]
  obtain ⟨retained, after⟩ := events_retained faultless ⟨1, by decide, by decide⟩ reached
  obtain ⟨stores, deletes⟩ := after _ _ stepped
  have count := (stores default rfl).count
  rw [appended.capacity, sameCapacity, capacity] at count
  exact ⟨log, next, reached, stepped, retained, stores default rfl, deletes, by omega⟩

end Acud
