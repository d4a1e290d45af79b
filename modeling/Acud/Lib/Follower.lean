/-
Module: Acud.Lib.Follower
Purpose: A reader that follows a log which grows at its end and forgets at its front.
Trusted boundary: none
Main exports:
  Followed, Followed.start, Followed.moved, Followed.took, Followed.mem_iff
-/
import Acud.Lib.Cursor

namespace Acud.Lib

/-!
A log holds entries in ascending order of a number.  A reader takes entries from the front of
what is behind its position, and the position moves behind what was taken.  Meanwhile the log
appends entries and may give up any of those that it holds.

`Followed` is what the reader can rely on: it has every entry once and in order, and it has
all of those that the log still holds up to the position.  What was given up before it was
taken is the only thing that it can miss.
-/

variable {α : Type} {key : α → Int}

structure Followed (key : α → Int) (base position : Int) (stored taken : List α) : Prop where
  base_le : base ≤ position
  ascending : Ascending key taken
  within : ∀ entry ∈ taken, base < key entry ∧ key entry ≤ position
  complete : ∀ entry ∈ stored, base < key entry → key entry ≤ position → entry ∈ taken

namespace Followed

variable {base position : Int} {stored taken : List α}

/-- A reader that starts at its position has nothing yet. -/
theorem start (key : α → Int) (base : Int) (stored : List α) : Followed key base base stored [] :=
  { base_le := Int.le_refl base
    ascending := List.Pairwise.nil
    within := fun entry member => by cases member
    complete := fun entry _ above below => by omega }

/-- The log forgets, and what it appends is behind the position. -/
theorem moved (followed : Followed key base position stored taken) {later : List α}
    (origin : ∀ entry ∈ later, entry ∈ stored ∨ position < key entry) :
    Followed key base position later taken :=
  { followed with
    complete := by
      intro entry member above below
      rcases origin entry member with old | new
      · exact followed.complete entry old above below
      · omega }

/-- A front part of what is behind the position is taken. -/
theorem took (followed : Followed key base position stored taken)
    (ascending : Ascending key stored) {batch : List α}
    (front : batch <+: stored.filter fun entry => decide (position < key entry)) :
    Followed key base ((batch.getLast?.map key).getD position) stored (taken ++ batch) := by
  obtain ⟨back, whole⟩ := front
  have behind : Ascending key (batch ++ back) := by
    rw [whole]
    exact ascending.filter _
  have above : ∀ entry ∈ batch, position < key entry := by
    intro entry member
    have kept : entry ∈ batch ++ back := List.mem_append_left back member
    rw [whole] at kept
    exact of_decide_eq_true (List.mem_filter.mp kept).2
  have base_le := followed.base_le
  by_cases nonempty : batch = []
  · subst nonempty
    rw [List.append_nil]
    exact followed
  · have last : batch.getLast?.map key = some (key (batch.getLast nonempty)) := by
      rw [List.getLast?_eq_some_getLast nonempty]
      rfl
    have further := above _ (List.getLast_mem nonempty)
    have batchAscending : Ascending key batch := (List.pairwise_append.mp behind).1
    rw [last, Option.getD_some]
    refine
      { base_le := by omega
        ascending := ?_
        within := ?_
        complete := ?_ }
    · refine List.pairwise_append.mpr ⟨followed.ascending, batchAscending, ?_⟩
      intro early earlyMember late lateMember
      have old := (followed.within early earlyMember).2
      have new := above late lateMember
      omega
    · intro entry member
      rcases List.mem_append.mp member with old | new
      · have bounds := followed.within entry old
        omega
      · have bound := batchAscending.le_last nonempty new
        have beyond := above entry new
        omega
    · intro entry member beyond bound
      by_cases old : key entry ≤ position
      · exact List.mem_append_left batch (followed.complete entry member beyond old)
      · apply List.mem_append_right taken
        apply behind.mem_front_of_le_last nonempty _ bound
        rw [whole]
        exact List.mem_filter.mpr ⟨member, by simpa using old⟩

/-- Of the entries that the log still holds, the reader has those up to the position. -/
theorem mem_iff (followed : Followed key base position stored taken) {entry : α}
    (member : entry ∈ stored) (above : base < key entry) :
    entry ∈ taken ↔ key entry ≤ position :=
  ⟨fun has => (followed.within entry has).2,
    fun bound => followed.complete entry member above bound⟩

end Followed

end Acud.Lib
