/-
Module: Acud.Lib.Ring
Purpose: Ring buffers as bounded queues.
Trusted boundary: none
Main exports:
  Ring, Ring.entries, Ring.pushOver, Ring.pushIfRoom, Ring.pop, Ring.drain,
  entries_pushOverAll, entries_pushIfRoomAll, drain_eq
-/
import Mathlib.Data.List.DropRight
import Mathlib.Logic.Function.Basic
import Mathlib.Tactic.Common

namespace Acud.Lib

/-!
A ring keeps its entries in a fixed number of slots: the oldest stands at `head`, the others
follow and wrap around at the end.  What counts is the list of its entries, oldest first.

* `pushOver` gives up the oldest entry when the ring is full, `pushIfRoom` the new one;
* `entries_pushOverAll` and `entries_pushIfRoomAll` say what is left of many pushes: the
  newest entries in the first case, the oldest in the second;
* `drain` pops until nothing is left.
-/

variable {α : Type} {cap : Nat}

structure Ring (α : Type) (cap : Nat) where
  slots : Fin cap → α
  head : Nat
  count : Nat
  head_lt : head < cap
  count_le : count ≤ cap

namespace Ring

theorem cap_pos (ring : Ring α cap) : 0 < cap :=
  Nat.zero_lt_of_lt ring.head_lt

/-- The slot so many places behind the head. -/
def index (ring : Ring α cap) (offset : Nat) : Fin cap :=
  ⟨(ring.head + offset) % cap, Nat.mod_lt _ ring.cap_pos⟩

/-- Oldest first. -/
def entries (ring : Ring α cap) : List α :=
  (List.range ring.count).map fun offset => ring.slots (ring.index offset)

def empty (positive : 0 < cap) (fill : α) : Ring α cap :=
  { slots := fun _ => fill
    head := 0
    count := 0
    head_lt := positive
    count_le := Nat.zero_le cap }

/-- The oldest entry goes; its slot is free. -/
def dropOldest (ring : Ring α cap) : Ring α cap :=
  { ring with
    head := (ring.head + 1) % cap
    count := ring.count - 1
    head_lt := Nat.mod_lt _ ring.cap_pos
    count_le := (Nat.sub_le _ _).trans ring.count_le }

/-- The entry takes the slot behind the newest one. -/
def append (ring : Ring α cap) (entry : α) (room : ring.count < cap) : Ring α cap :=
  { ring with
    slots := Function.update ring.slots (ring.index ring.count) entry
    count := ring.count + 1
    count_le := room }

/-- A full ring loses its oldest entry. -/
def pushOver (ring : Ring α cap) (entry : α) : Ring α cap :=
  if room : ring.count < cap then ring.append entry room
  else
    ring.dropOldest.append entry
      (by
        have positive := ring.cap_pos
        have bound := ring.count_le
        show ring.count - 1 < cap
        omega)

/-- A full ring stays as it is. -/
def pushIfRoom (ring : Ring α cap) (entry : α) : Ring α cap :=
  if room : ring.count < cap then ring.append entry room else ring

def pop (ring : Ring α cap) : Option α × Ring α cap :=
  if ring.count = 0 then (none, ring)
  else (some (ring.slots (ring.index 0)), ring.dropOldest)

/-- Pop until nothing comes, at most so many times. -/
def drain : Nat → Ring α cap → List α × Ring α cap
  | 0, ring => ([], ring)
  | rounds + 1, ring =>
      match ring.pop with
      | (none, left) => ([], left)
      | (some entry, left) =>
          let later := drain rounds left
          (entry :: later.1, later.2)

/-! ### One operation -/

@[simp] theorem length_entries (ring : Ring α cap) : ring.entries.length = ring.count := by
  simp [entries]

@[simp] theorem entries_empty (positive : 0 < cap) (fill : α) :
    (empty positive fill).entries = [] := rfl

theorem entries_eq_nil (ring : Ring α cap) : ring.entries = [] ↔ ring.count = 0 := by
  rw [← List.length_eq_zero_iff, length_entries]

/-- Places less than a round apart are different slots. -/
theorem index_ne (ring : Ring α cap) {first second : Nat} (before : first < second)
    (inside : second < cap) : ring.index first ≠ ring.index second := by
  intro same
  have wrapped : (ring.head + first) % cap = (ring.head + second) % cap :=
    Fin.mk.inj_iff.mp same
  have apart : (ring.head + second - (ring.head + first)) % cap = 0 :=
    Nat.sub_mod_eq_zero_of_mod_eq wrapped.symm
  have distance : ring.head + second - (ring.head + first) = second - first := by omega
  rw [distance, Nat.mod_eq_of_lt (by omega)] at apart
  omega

/-- Behind the next head everything stands one place nearer. -/
theorem index_dropOldest (ring : Ring α cap) (offset : Nat) :
    ring.dropOldest.index offset = ring.index (offset + 1) := by
  apply Fin.ext
  show ((ring.head + 1) % cap + offset) % cap = (ring.head + (offset + 1)) % cap
  rw [Nat.mod_add_mod]
  congr 1
  omega

theorem entries_append (ring : Ring α cap) (entry : α) (room : ring.count < cap) :
    (ring.append entry room).entries = ring.entries ++ [entry] := by
  have places : ∀ offset, (ring.append entry room).index offset = ring.index offset :=
    fun _ => rfl
  have old : ∀ offset ∈ List.range ring.count,
      (ring.append entry room).slots ((ring.append entry room).index offset) =
        ring.slots (ring.index offset) := by
    intro offset member
    rw [places]
    apply Function.update_of_ne
    exact ring.index_ne (List.mem_range.mp member) room
  have new : (ring.append entry room).slots
      ((ring.append entry room).index ring.count) = entry :=
    Function.update_self _ _ _
  show (List.range (ring.count + 1)).map _ = _
  rw [List.range_succ, List.map_append, List.map_congr_left old, List.map_singleton, new]
  rfl

theorem entries_dropOldest (ring : Ring α cap) :
    ring.dropOldest.entries = ring.entries.drop 1 := by
  apply List.ext_getElem
  · simp [dropOldest]
  · intro offset inside bound
    have moved : ring.dropOldest.slots (ring.dropOldest.index offset) =
        ring.slots (ring.index (offset + 1)) :=
      congrArg ring.slots (ring.index_dropOldest offset)
    simpa [entries, Nat.add_comm] using moved

theorem pop_none {ring : Ring α cap} (none : ring.count = 0) : ring.pop = (.none, ring) := by
  rw [pop, if_pos none]

/-- The oldest entry comes first and is gone then. -/
theorem pop_some {ring : Ring α cap} (some : ring.count ≠ 0) :
    ∃ entry, ring.pop = (.some entry, ring.dropOldest) ∧
      ring.entries = entry :: ring.dropOldest.entries := by
  refine ⟨ring.slots (ring.index 0), if_neg some, ?_⟩
  obtain ⟨later, counted⟩ := Nat.exists_eq_succ_of_ne_zero some
  have front : ring.entries.head? = .some (ring.slots (ring.index 0)) := by
    rw [entries, counted, List.range_succ_eq_map]
    rfl
  rw [entries_dropOldest, List.drop_one]
  exact (List.cons_head?_tail front).symm

/-- The newest `cap` entries stay. -/
theorem entries_pushOver (ring : Ring α cap) (entry : α) :
    (ring.pushOver entry).entries = (ring.entries ++ [entry]).rtake cap := by
  have bound := ring.count_le
  have positive := ring.cap_pos
  unfold pushOver
  split
  next room =>
    rw [entries_append, List.rtake_eq_reverse_take_reverse, List.take_of_length_le,
      List.reverse_reverse]
    simp only [List.length_reverse, List.length_append, length_entries, List.length_singleton]
    exact room
  next full =>
    have counted : ring.count = cap := by omega
    rw [entries_append, entries_dropOldest, List.rtake, List.length_append, length_entries,
      counted, List.length_singleton, Nat.add_sub_cancel_left, List.drop_append_of_le_length]
    rw [length_entries, counted]
    exact positive

theorem entries_pushIfRoom (ring : Ring α cap) (entry : α) :
    (ring.pushIfRoom entry).entries = (ring.entries ++ [entry]).take cap := by
  have bound := ring.count_le
  unfold pushIfRoom
  split
  next room =>
    rw [entries_append, List.take_of_length_le]
    simp only [List.length_append, length_entries, List.length_singleton]
    exact room
  next full =>
    have counted : ring.count = cap := by omega
    rw [List.take_append_of_le_length (by rw [length_entries, counted]), List.take_of_length_le]
    rw [length_entries, counted]

/-! ### Many operations -/

theorem rtake_append_rtake (front behind : List α) (cap : Nat) :
    (front.rtake cap ++ behind).rtake cap = (front ++ behind).rtake cap := by
  unfold List.rtake
  rw [List.drop_append, List.drop_append, List.drop_drop]
  simp only [List.length_append, List.length_drop]
  congr 2 <;> omega

theorem take_append_take (front behind : List α) (cap : Nat) :
    (front.take cap ++ behind).take cap = (front ++ behind).take cap := by
  rw [List.take_append, List.take_append, List.take_take, Nat.min_self, List.length_take]
  congr 2
  omega

/-- Of many pushes the newest entries are left. -/
theorem entries_pushOverAll (ring : Ring α cap) (pushed : List α) :
    (pushed.foldl pushOver ring).entries = (ring.entries ++ pushed).rtake cap := by
  induction pushed generalizing ring with
  | nil =>
      rw [List.foldl_nil, List.append_nil, List.rtake, length_entries,
        Nat.sub_eq_zero_of_le ring.count_le, List.drop_zero]
  | cons entry later inductionHypothesis =>
      rw [List.foldl_cons, inductionHypothesis, entries_pushOver, rtake_append_rtake,
        List.append_assoc]
      rfl

/-- Of many pushes the oldest entries are left. -/
theorem entries_pushIfRoomAll (ring : Ring α cap) (pushed : List α) :
    (pushed.foldl pushIfRoom ring).entries = (ring.entries ++ pushed).take cap := by
  induction pushed generalizing ring with
  | nil =>
      rw [List.foldl_nil, List.append_nil, List.take_of_length_le]
      rw [length_entries]
      exact ring.count_le
  | cons entry later inductionHypothesis =>
      rw [List.foldl_cons, inductionHypothesis, entries_pushIfRoom, take_append_take,
        List.append_assoc]
      rfl

/-- Draining takes every entry, oldest first, and leaves nothing. -/
theorem drain_eq (ring : Ring α cap) {rounds : Nat} (enough : ring.count ≤ rounds) :
    (ring.drain rounds).1 = ring.entries ∧ (ring.drain rounds).2.count = 0 := by
  induction rounds generalizing ring with
  | zero =>
      have none : ring.count = 0 := by omega
      exact ⟨((entries_eq_nil ring).mpr none).symm, none⟩
  | succ rounds inductionHypothesis =>
      unfold drain
      by_cases none : ring.count = 0
      · rw [pop_none none]
        exact ⟨((entries_eq_nil ring).mpr none).symm, none⟩
      · obtain ⟨entry, popped, split⟩ := pop_some none
        have fewer : ring.dropOldest.count ≤ rounds := by
          show ring.count - 1 ≤ rounds
          omega
        obtain ⟨taken, left⟩ := inductionHypothesis ring.dropOldest fewer
        rw [popped, split]
        exact ⟨congrArg (entry :: ·) taken, left⟩

end Ring

end Acud.Lib
