/-
Module: Acud.Events
Purpose: The event store: rows in a database, a read position, and the memory ring.
Trusted boundary: none
Main exports:
  AcuEvent, EventTable, EventsDb, MemRing, AcuEvents, eventsOpen, eventsAppend,
  eventsFetch, eventsAck, eventsPending, eventsRewindToSeq, pendingEvents
-/
import Acud.Lib.Cursor
import Acud.Lib.Memory
import Acud.Lib.Transaction
import Mathlib.Data.List.Pairwise
import Mathlib.Tactic.Common

namespace Acud

open Lib

/-!
An event is stored before anyone asks for it.  The upper system fetches events
in order and the store remembers, in the same file, how far it got: `sent_seq`
is the read position, and the events above it are pending.

* a table of rows whose seqs grow (`AUTOINCREMENT` over a rowid table);
* a write may fail, and then it has no effect; a read may fail, and then the
  scalar helpers answer their default;
* without a database the same functions work on a ring of 512 events.

Logging, statement handles and allocation failure have no effect on what the
functions answer and are left out.

[SRC src/acud/events.h, src/acud/events.c]
-/

def eventsDefaultCapacity : Int := 10000000
def eventsTrimSlack : Int := 1000
def eventsMemoryCap : Nat := 512

/-- One event, as it goes into an IDTi event structure. -/
structure AcuEvent where
  seq : Int
  eventCode : UInt32
  opMode : UInt8
  moduleAddr : UInt8
  readerAddr : UInt8
  doorStatus : UInt8
  funcCode : UInt8
  ts : Int
  id : Blob 8
deriving Repr, Inhabited, DecidableEq

/-! ### The table -/

/-- The rows of `events` in seq order, and the last seq that was ever given
out (`sqlite_sequence`). -/
structure EventTable where
  rows : List AcuEvent
  autoSeq : Int
  ascending : Ascending AcuEvent.seq rows
  positive : ∀ event ∈ rows, 0 < event.seq
  bounded : ∀ event ∈ rows, event.seq ≤ autoSeq
  started : 0 ≤ autoSeq

namespace EventTable

def empty : EventTable :=
  { rows := []
    autoSeq := 0
    ascending := List.Pairwise.nil
    positive := by simp
    bounded := by simp
    started := Int.le_refl 0 }

instance : Inhabited EventTable := ⟨empty⟩

/-- The row an `INSERT` of `event` stores: the table gives the seq. -/
def numbered (table : EventTable) (event : AcuEvent) : AcuEvent :=
  { event with seq := table.autoSeq + 1 }

/-- `INSERT INTO events`. -/
def insert (table : EventTable) (event : AcuEvent) : EventTable :=
  { rows := table.rows ++ [table.numbered event]
    autoSeq := table.autoSeq + 1
    ascending := by
      rw [Ascending, List.pairwise_append]
      refine ⟨table.ascending, List.pairwise_singleton _ _, ?_⟩
      intro old oldMember new newMember
      rw [List.mem_singleton] at newMember
      subst newMember
      have bound := table.bounded old oldMember
      show old.seq < table.autoSeq + 1
      omega
    positive := by
      intro stored member
      rcases List.mem_append.mp member with old | new
      · exact table.positive stored old
      · rw [List.mem_singleton] at new
        subst new
        have started := table.started
        show 0 < table.autoSeq + 1
        omega
    bounded := by
      intro stored member
      rcases List.mem_append.mp member with old | new
      · have bound := table.bounded stored old
        omega
      · rw [List.mem_singleton] at new
        subst new
        exact Int.le_refl _
    started := by
      have started := table.started
      omega }

/-- `DELETE FROM events WHERE seq < cut`. -/
def deleteBelow (table : EventTable) (cut : Int) : EventTable :=
  { rows := table.rows.filter fun event => decide (cut ≤ event.seq)
    autoSeq := table.autoSeq
    ascending := table.ascending.filter _
    positive := fun event member =>
      table.positive event (List.mem_filter.mp member).1
    bounded := fun event member =>
      table.bounded event (List.mem_filter.mp member).1
    started := table.started }

/-- `SELECT MIN(seq)`: the first row of a table in seq order. -/
def minSeq (table : EventTable) : Option Int :=
  table.rows.head?.map AcuEvent.seq

/-- `SELECT MAX(seq)`. -/
def maxSeq (table : EventTable) : Option Int :=
  table.rows.getLast?.map AcuEvent.seq

/-- `SELECT ... WHERE seq > position ORDER BY seq`. -/
def after (table : EventTable) (position : Int) : List AcuEvent :=
  table.rows.filter fun event => decide (position < event.seq)

/-- `SELECT MIN(seq) ... WHERE ts >= from`. -/
def firstSince (table : EventTable) (since : Int) : Option Int :=
  (table.rows.find? fun event => decide (since ≤ event.ts)).map AcuEvent.seq

/-- No row is above the newest one. -/
theorem seq_le_maxSeq {table : EventTable} {event : AcuEvent}
    (member : event ∈ table.rows) : event.seq ≤ table.maxSeq.getD 0 := by
  unfold maxSeq
  rcases List.eq_nil_or_concat table.rows with none | ⟨front, last, split⟩
  · rw [none] at member
    cases member
  · have ordered := table.ascending
    rw [split, List.concat_eq_append] at ordered
    rw [split, List.concat_eq_append] at member ⊢
    simp only [List.getLast?_append, List.getLast?_singleton, Option.some_or,
      Option.map_some, Option.getD_some]
    rcases List.mem_append.mp member with early | final
    · exact Int.le_of_lt (ordered.lt_of_append early (List.mem_singleton_self last))
    · rw [List.mem_singleton] at final
      subst final
      exact Int.le_refl _

/-- The newest row was numbered by the table. -/
theorem maxSeq_le_autoSeq (table : EventTable) :
    table.maxSeq.getD 0 ≤ table.autoSeq := by
  unfold maxSeq
  cases newest : table.rows.getLast? with
  | none => exact table.started
  | some event => exact table.bounded event (List.mem_of_getLast? newest)

theorem maxSeq_nonneg (table : EventTable) : 0 ≤ table.maxSeq.getD 0 := by
  unfold maxSeq
  cases newest : table.rows.getLast? with
  | none => exact Int.le_refl 0
  | some event =>
      exact Int.le_of_lt (table.positive event (List.mem_of_getLast? newest))

@[simp] theorem maxSeq_insert (table : EventTable) (event : AcuEvent) :
    (table.insert event).maxSeq = some (table.autoSeq + 1) := by
  simp [maxSeq, insert, numbered]

theorem after_insert (table : EventTable) (event : AcuEvent) {position : Int}
    (behind : position ≤ table.autoSeq) :
    (table.insert event).after position =
      table.after position ++ [table.numbered event] := by
  have above : position < (table.numbered event).seq := by
    show position < table.autoSeq + 1
    omega
  simp [after, insert, above]

/-- Nothing is above a position at or beyond the newest row. -/
theorem after_of_maxSeq_le {table : EventTable} {position : Int}
    (beyond : table.maxSeq.getD 0 ≤ position) : table.after position = [] := by
  unfold after
  rw [List.filter_eq_nil_iff]
  intro event member
  have bound := seq_le_maxSeq member
  simp only [decide_eq_true_eq]
  omega

end EventTable

/-! ### The database and the ring -/

/-- `events.db`: the rows and the read position, in one file. -/
structure EventsDb where
  events : EventTable
  sentSeq : Int
  faults : Faults SqlKind

/-- `count` ring slots from `head` on, wrapping at the end of the array. -/
def ringSpan (mem : Nat → AcuEvent) (head count : Nat) : List AcuEvent :=
  (List.range count).map fun index => mem ((head + index) % eventsMemoryCap)

/-- The ring used when the database could not be opened. -/
structure MemRing where
  mem : Nat → AcuEvent
  head : Nat
  count : Nat
  nextSeq : Int
  headInside : head < eventsMemoryCap
  countInside : count ≤ eventsMemoryCap
  ascending : Ascending AcuEvent.seq (ringSpan mem head count)
  positive : ∀ event ∈ ringSpan mem head count, 0 < event.seq
  below : ∀ event ∈ ringSpan mem head count, event.seq < nextSeq
  started : 0 < nextSeq

structure AcuEvents where
  db : Option EventsDb
  capacity : Int
  nextTrimCheck : Int
  ring : MemRing
  capacityPositive : 0 < capacity

theorem length_ringSpan (mem : Nat → AcuEvent) (head count : Nat) :
    (ringSpan mem head count).length = count := by
  simp [ringSpan]

/-- A span that is not empty starts with the slot at its head. -/
theorem ringSpan_succ (mem : Nat → AcuEvent) {head : Nat} (count : Nat)
    (inside : head < eventsMemoryCap) :
    ringSpan mem head (count + 1) =
      mem head :: ringSpan mem ((head + 1) % eventsMemoryCap) count := by
  unfold ringSpan
  rw [List.range_succ_eq_map, List.map_cons, List.map_map, Nat.add_zero,
    Nat.mod_eq_of_lt inside]
  congr 1
  apply List.map_congr_left
  intro index _
  show mem ((head + (index + 1)) % eventsMemoryCap) =
    mem (((head + 1) % eventsMemoryCap + index) % eventsMemoryCap)
  rw [Nat.mod_add_mod]
  congr 2
  omega

/-- The slot behind a span extends it. -/
theorem ringSpan_concat (mem : Nat → AcuEvent) (head count : Nat) :
    ringSpan mem head (count + 1) =
      ringSpan mem head count ++ [mem ((head + count) % eventsMemoryCap)] := by
  simp [ringSpan, List.range_succ]

/-- Writing the free slot behind a span leaves the span alone. -/
theorem ringSpan_update (mem : Nat → AcuEvent) (head count : Nat) (event : AcuEvent)
    (space : count < eventsMemoryCap) :
    ringSpan (Function.update mem ((head + count) % eventsMemoryCap) event) head count =
      ringSpan mem head count := by
  apply List.map_congr_left
  intro index member
  have before : index < count := List.mem_range.mp member
  apply Function.update_of_ne
  unfold eventsMemoryCap at *
  omega

namespace MemRing

def empty : MemRing :=
  { mem := fun _ => default
    head := 0
    count := 0
    nextSeq := 1
    headInside := by decide
    countInside := by decide
    ascending := List.Pairwise.nil
    positive := by simp [ringSpan]
    below := by simp [ringSpan]
    started := by decide }

/-- The events in the ring, oldest first. -/
def contents (ring : MemRing) : List AcuEvent :=
  ringSpan ring.mem ring.head ring.count

theorem span_eq_cons (ring : MemRing) (stored : 0 < ring.count) :
    ringSpan ring.mem ring.head ring.count =
      ring.mem ring.head ::
        ringSpan ring.mem ((ring.head + 1) % eventsMemoryCap) (ring.count - 1) := by
  rw [← ringSpan_succ ring.mem (ring.count - 1) ring.headInside]
  congr 1
  omega

/-- Give up the oldest event. -/
def dropFirst (ring : MemRing) (stored : 0 < ring.count) : MemRing :=
  { ring with
    head := (ring.head + 1) % eventsMemoryCap
    count := ring.count - 1
    headInside := Nat.mod_lt _ (by decide)
    countInside := Nat.le_trans (Nat.sub_le _ _) ring.countInside
    ascending := by
      have ordered := ring.ascending
      rw [ring.span_eq_cons stored] at ordered
      exact ordered.tail
    positive := fun event member =>
      ring.positive event (ring.span_eq_cons stored ▸ List.mem_cons_of_mem _ member)
    below := fun event member =>
      ring.below event (ring.span_eq_cons stored ▸ List.mem_cons_of_mem _ member) }

/-- Store one event in the free slot behind the others. -/
def store (ring : MemRing) (event : AcuEvent) (space : ring.count < eventsMemoryCap) :
    MemRing :=
  let stored : AcuEvent := { event with seq := ring.nextSeq }
  let index := (ring.head + ring.count) % eventsMemoryCap
  have contents : ringSpan (Function.update ring.mem index stored) ring.head
      (ring.count + 1) = ringSpan ring.mem ring.head ring.count ++ [stored] := by
    rw [ringSpan_concat, ringSpan_update _ _ _ _ space, Function.update_self]
  { mem := Function.update ring.mem index stored
    head := ring.head
    count := ring.count + 1
    nextSeq := ring.nextSeq + 1
    headInside := ring.headInside
    countInside := space
    ascending := by
      rw [contents, Ascending, List.pairwise_append]
      refine ⟨ring.ascending, List.pairwise_singleton _ _, ?_⟩
      intro old oldMember new newMember
      rw [List.mem_singleton] at newMember
      subst newMember
      exact ring.below old oldMember
    positive := by
      rw [contents]
      intro event member
      rcases List.mem_append.mp member with old | new
      · exact ring.positive event old
      · rw [List.mem_singleton] at new
        subst new
        exact ring.started
    below := by
      rw [contents]
      intro event member
      rcases List.mem_append.mp member with old | new
      · have bound := ring.below event old
        omega
      · rw [List.mem_singleton] at new
        subst new
        show ring.nextSeq < ring.nextSeq + 1
        omega
    started := by
      have started := ring.started
      omega }

/-- `mem_push`: a full ring gives up its oldest event. -/
def push (ring : MemRing) (event : AcuEvent) : MemRing :=
  if full : ring.count = eventsMemoryCap then
    have stored : 0 < ring.count := by rw [full]; decide
    (ring.dropFirst stored).store event (by
      show ring.count - 1 < eventsMemoryCap
      omega)
  else
    ring.store event (Nat.lt_of_le_of_ne ring.countInside full)

/-- Take events off the front while they are at or below `upto`; as many rounds
as there are events are enough. -/
def dropLoop (upto : Int) : Nat → MemRing → MemRing
  | 0, ring => ring
  | rounds + 1, ring =>
      if stored : 0 < ring.count then
        if (ring.mem ring.head).seq ≤ upto then dropLoop upto rounds (ring.dropFirst stored)
        else ring
      else ring

def dropUpto (ring : MemRing) (upto : Int) : MemRing :=
  dropLoop upto ring.count ring

/-- Everything was sent: the ring is empty, the numbering goes on. -/
def clear (ring : MemRing) : MemRing :=
  { ring with
    head := 0
    count := 0
    headInside := by decide
    countInside := by decide
    ascending := List.Pairwise.nil
    positive := by simp [ringSpan]
    below := by simp [ringSpan] }

theorem contents_eq_cons {ring : MemRing} (stored : 0 < ring.count) :
    ring.contents = ring.mem ring.head :: (ring.dropFirst stored).contents :=
  ring.span_eq_cons stored

theorem contents_eq_nil {ring : MemRing} (none : ¬ 0 < ring.count) : ring.contents = [] := by
  have zero : ring.count = 0 := by omega
  simp [contents, ringSpan, zero]

theorem length_contents (ring : MemRing) : ring.contents.length = ring.count :=
  length_ringSpan _ _ _

/-- The row a push stores: the ring gives the seq. -/
def numbered (ring : MemRing) (event : AcuEvent) : AcuEvent :=
  { event with seq := ring.nextSeq }

theorem contents_store (ring : MemRing) (event : AcuEvent)
    (space : ring.count < eventsMemoryCap) :
    (ring.store event space).contents = ring.contents ++ [ring.numbered event] := by
  show ringSpan (Function.update ring.mem _ _) ring.head (ring.count + 1) = _
  rw [ringSpan_concat, ringSpan_update _ _ _ _ space, Function.update_self]
  rfl

/-- A push keeps the newest events. -/
theorem contents_push (ring : MemRing) (event : AcuEvent) :
    (ring.push event).contents =
      (ring.contents ++ [ring.numbered event]).rtake eventsMemoryCap := by
  unfold push
  split
  next full =>
    have stored : 0 < ring.count := by rw [full]; decide
    have dropped : (ring.dropFirst stored).contents = ring.contents.drop 1 := by
      rw [contents_eq_cons stored, List.drop_one, List.tail_cons]
    rw [contents_store, dropped, List.rtake, List.length_append, length_contents, full,
      List.length_singleton, Nat.add_sub_cancel_left, List.drop_append_of_le_length]
    · rfl
    · rw [length_contents, full]
      decide
  next free =>
    have within := ring.countInside
    rw [contents_store, rtake_of_length_le]
    rw [List.length_append, length_contents, List.length_singleton]
    omega

@[simp] theorem contents_clear (ring : MemRing) : ring.clear.contents = [] := rfl

theorem nextSeq_dropUpto (ring : MemRing) (upto : Int) :
    (ring.dropUpto upto).nextSeq = ring.nextSeq := by
  unfold dropUpto
  generalize ring.count = rounds
  induction rounds generalizing ring with
  | zero => rfl
  | succ rounds inductionHypothesis =>
      rw [dropLoop]
      split
      next stored =>
        split
        next => exact inductionHypothesis (ring.dropFirst stored)
        next => rfl
      next => rfl

theorem nextSeq_push (ring : MemRing) (event : AcuEvent) :
    (ring.push event).nextSeq = ring.nextSeq + 1 := by
  unfold push
  split
  next => rfl
  next => rfl

/-- Acknowledging drops the events at the front that are not above the seq. -/
theorem contents_dropUpto (ring : MemRing) (upto : Int) :
    (ring.dropUpto upto).contents =
      ring.contents.dropWhile fun event => decide (event.seq ≤ upto) := by
  suffices loop : ∀ rounds (ring : MemRing), ring.count ≤ rounds →
      (dropLoop upto rounds ring).contents =
        ring.contents.dropWhile fun event => decide (event.seq ≤ upto) from
    loop ring.count ring (Nat.le_refl _)
  intro rounds
  induction rounds with
  | zero =>
      intro ring empty
      have none : ¬ 0 < ring.count := by omega
      simp [dropLoop, contents_eq_nil none]
  | succ rounds inductionHypothesis =>
      intro ring enough
      rw [dropLoop]
      split
      next stored =>
        rw [contents_eq_cons stored]
        split
        next old =>
          rw [List.dropWhile_cons_of_pos (by simpa using old)]
          apply inductionHypothesis
          show ring.count - 1 ≤ rounds
          omega
        next new => rw [List.dropWhile_cons_of_neg (by simpa using new), contents_eq_cons]
      next none => simp [contents_eq_nil none]

end MemRing

/-! ### Operations -/

/-- `events_repair_index` answers 1, 0 or -1. -/
inductive RepairResult where
  | repaired
  | sound
  | failed
deriving Repr, Inhabited, DecidableEq

namespace EventsDb

/-- Run a prepared scalar query: the default for no row, NULL or an error. -/
def scalarWith (db : EventsDb) (value : Option Int) (default : Int) : Int :=
  if db.faults.succeeds .select then value.getD default else default

/-- Overwrite the read position. -/
def setSentSeq (db : EventsDb) (value : Int) : Bool × EventsDb :=
  if db.faults.succeeds .update then
    (true, { db with sentSeq := value, faults := db.faults.next })
  else
    (false, { db with faults := db.faults.next })

/-- A read position ahead of the newest event is put back onto it. -/
def repairIndex (db : EventsDb) : RepairResult × EventsDb :=
  let maxSeq := db.scalarWith db.events.maxSeq 0
  let sent := db.scalarWith (some db.sentSeq) 0
  if sent ≤ maxSeq then (.sound, db)
  else
    match db.setSentSeq maxSeq with
    | (true, written) => (.repaired, written)
    | (false, written) => (.failed, written)

def pending (db : EventsDb) : Int :=
  let maxSeq := db.scalarWith db.events.maxSeq 0
  if maxSeq = 0 then 0
  else
    let minSeq := db.scalarWith db.events.minSeq 1
    let sent := db.scalarWith (some db.sentSeq) 0
    let sent := if sent < minSeq - 1 then minSeq - 1 else sent
    if maxSeq - sent > 0 then maxSeq - sent else 0

def total (db : EventsDb) : Int :=
  let maxSeq := db.scalarWith db.events.maxSeq 0
  if maxSeq = 0 then 0
  else maxSeq - db.scalarWith db.events.minSeq 1 + 1

/-- Delete from the front what is over the capacity. -/
def trimIfNeeded (db : EventsDb) (capacity : Int) : EventsDb :=
  if db.total ≤ capacity then db
  else
    let excess := db.total - capacity
    let cut := db.scalarWith db.events.minSeq 1 + excess
    if db.faults.succeeds .delete then
      { db with
        events := db.events.deleteBelow cut
        faults := db.faults.next }
    else { db with faults := db.faults.next }

/-- The rows one run of the fetch statement yields. -/
def fetchRows (db : EventsDb) (max : Nat) : List AcuEvent :=
  if db.faults.succeeds .select then (db.events.after db.sentSeq).take max else []

/-- Fetch; when there is nothing, check the read position and try again if it
had to be repaired.  The counter bounds the repetitions. -/
def fetchFrom (max : Nat) : Nat → EventsDb → List AcuEvent × EventsDb
  | 0, db => (db.fetchRows max, db)
  | retries + 1, db =>
      if (db.fetchRows max).isEmpty then
        match db.repairIndex with
        | (.repaired, repaired) => fetchFrom max retries repaired
        | (_, checked) => ([], checked)
      else (db.fetchRows max, db)

end EventsDb

/-- Open the store; `none` stands for an empty path or a file that cannot be
opened, which leaves the memory ring. -/
def eventsOpen (file : Option EventsDb) (capacity : Int) : AcuEvents :=
  let limit := if capacity > 0 then capacity else eventsDefaultCapacity
  { db := file.map fun db => db.repairIndex.2
    capacity := limit
    nextTrimCheck := limit + eventsTrimSlack
    ring := MemRing.empty
    capacityPositive := by
      simp only [limit]
      split
      next positive => exact positive
      next => decide }

def eventsRepairIndex (ev : AcuEvents) : RepairResult × AcuEvents :=
  match ev.db with
  | none => (.sound, ev)
  | some db => (db.repairIndex.1, { ev with db := some db.repairIndex.2 })

def eventsTotal (ev : AcuEvents) : Int :=
  match ev.db with
  | none => ev.ring.count
  | some db => db.total

def eventsPending (ev : AcuEvents) : Int :=
  match ev.db with
  | none => ev.ring.count
  | some db => db.pending

/-- Store one event.  The read position is checked before the write: an event
that is written behind it would never be fetched. -/
def eventsAppend (ev : AcuEvents) (event : AcuEvent) : Bool × AcuEvents :=
  match ev.db with
  | none => (true, { ev with ring := ev.ring.push event })
  | some stored =>
      let db := stored.repairIndex.2
      if db.faults.succeeds .insert then
        let written : EventsDb :=
          { db with
            events := db.events.insert event
            faults := db.faults.next }
        let rowid := (db.events.numbered event).seq
        if rowid ≥ ev.nextTrimCheck then
          (true,
            { ev with
              db := some (written.trimIfNeeded ev.capacity)
              nextTrimCheck := rowid + eventsTrimSlack })
        else (true, { ev with db := some written })
      else (false, { ev with db := some { db with faults := db.faults.next } })

/-- The oldest pending events, at most `max`; `none` is the source's `-1`. -/
def eventsFetch (ev : AcuEvents) (max : Int) : Option (List AcuEvent) × AcuEvents :=
  if max ≤ 0 then (none, ev)
  else
    match ev.db with
    | none => (some (ev.ring.contents.take max.toNat), ev)
    | some db =>
        let fetched := db.fetchFrom max.toNat 2
        (some fetched.1, { ev with db := some fetched.2 })

/-- Move the read position forward. -/
def eventsAck (ev : AcuEvents) (uptoSeq : Int) : Bool × AcuEvents :=
  if uptoSeq ≤ 0 then (false, ev)
  else
    match ev.db with
    | none => (true, { ev with ring := ev.ring.dropUpto uptoSeq })
    | some db =>
        if db.faults.succeeds .update then
          (true,
            { ev with
              db := some
                { db with
                  sentSeq := if db.sentSeq < uptoSeq then uptoSeq else db.sentSeq
                  faults := db.faults.next } })
        else (false, { ev with db := some { db with faults := db.faults.next } })

/-- Move the read position in front of the first event at or after a time;
the answer is how many events will be sent again. -/
def eventsRewindToTime (ev : AcuEvents) (since : Int) : Option Int × AcuEvents :=
  match ev.db with
  | none => (none, ev)
  | some db =>
      let first := db.scalarWith (db.events.firstSince since) 0
      let maxSeq := db.scalarWith db.events.maxSeq 0
      let target := if first > 0 then first - 1 else maxSeq
      match db.setSentSeq target with
      | (true, written) => (some (maxSeq - target), { ev with db := some written })
      | (false, written) => (none, { ev with db := some written })

/-- Move the read position back in front of `firstSeq`, never forward. -/
def eventsRewindToSeq (ev : AcuEvents) (firstSeq : Int) : Bool × AcuEvents :=
  match ev.db with
  | none => (false, ev)
  | some db =>
      if firstSeq ≤ 0 then (false, ev)
      else
        let sent := db.scalarWith (some db.sentSeq) 0
        let target := firstSeq - 1
        if target ≥ sent then (true, ev)
        else
          let written := db.setSentSeq target
          (written.1, { ev with db := some written.2 })

/-- Mark everything as sent; nothing is deleted from the database. -/
def eventsMarkAllSent (ev : AcuEvents) : Bool × AcuEvents :=
  match ev.db with
  | none => (true, { ev with ring := ev.ring.clear })
  | some db =>
      let written := db.setSentSeq (db.scalarWith db.events.maxSeq 0)
      (written.1, { ev with db := some written.2 })

/-! ### Sent position, pending and stored events -/

/-- The sent position; the ring has none of its own, it drops what was sent. -/
def sentPosition (ev : AcuEvents) : Option Int :=
  ev.db.map EventsDb.sentSeq

/-- The events the upper system has not been sent, oldest first. -/
def pendingEvents (ev : AcuEvents) : List AcuEvent :=
  match ev.db with
  | none => ev.ring.contents
  | some db => db.events.after db.sentSeq

/-- The row an append stores. -/
def appendedRow (ev : AcuEvents) (event : AcuEvent) : AcuEvent :=
  match ev.db with
  | none => { event with seq := ev.ring.nextSeq }
  | some db => db.events.numbered event

/-- The events that are stored, sent or not. -/
def storedEvents (ev : AcuEvents) : List AcuEvent :=
  match ev.db with
  | none => ev.ring.contents
  | some db => db.events.rows

/-- The read position is not ahead of the newest event. -/
def EventsDb.ReadIndexSound (db : EventsDb) : Prop :=
  db.sentSeq ≤ db.events.maxSeq.getD 0

instance (db : EventsDb) : Decidable db.ReadIndexSound :=
  inferInstanceAs (Decidable (_ ≤ _))

/-- The same of a store; the memory ring has no position that could be wrong. -/
def AcuEvents.ReadIndexSound (ev : AcuEvents) : Prop :=
  ∀ db, ev.db = some db → db.ReadIndexSound

/-- A sound position needs no repair, whether the reads succeed or not. -/
theorem EventsDb.repairIndex_of_sound {db : EventsDb} (sound : db.ReadIndexSound) :
    db.repairIndex = (.sound, db) := by
  unfold ReadIndexSound at sound
  unfold repairIndex scalarWith
  cases db.faults.succeeds .select <;> simp [sound]

/-- A fetch returns at most as many rows as were asked for. -/
theorem EventsDb.fetchFrom_length_le (db : EventsDb) (max retries : Nat) :
    (db.fetchFrom max retries).1.length ≤ max := by
  have rows : ∀ db : EventsDb, (db.fetchRows max).length ≤ max := by
    intro db
    unfold EventsDb.fetchRows
    split
    next => exact List.length_take_le _ _
    next => exact Nat.zero_le _
  induction retries generalizing db with
  | zero => exact rows db
  | succ retries inductionHypothesis =>
      rw [fetchFrom]
      split
      next =>
        split
        next => exact inductionHypothesis _
        next => exact Nat.zero_le _
      next => exact rows db

/-- Fetching from a sound position changes nothing and yields pending events. -/
theorem EventsDb.fetchFrom_of_sound {db : EventsDb} (sound : db.ReadIndexSound)
    (max retries : Nat) : db.fetchFrom max retries = (db.fetchRows max, db) := by
  cases retries with
  | zero => rfl
  | succ retries =>
      rw [fetchFrom, repairIndex_of_sound sound]
      cases rows : db.fetchRows max <;> simp

theorem eventsFetch_of_sound {ev : AcuEvents} (sound : ev.ReadIndexSound) (max : Int) :
    (eventsFetch ev max).2 = ev := by
  unfold eventsFetch
  split
  next => rfl
  next =>
    split
    next => rfl
    next db attached =>
      rw [EventsDb.fetchFrom_of_sound (sound db attached)]
      show ({ ev with db := some db } : AcuEvents) = ev
      rw [← attached]

end Acud
