/-
Module: Acud.Lib.Cursor
Purpose: Sequences in ascending order of a number, read behind a cursor.
Trusted boundary: none
Main exports:
  Ascending, filter_above_eq_dropWhile, dropWhile_upto_last,
  Ascending.mem_front_of_le_last, Ascending.exists_take, Consecutive,
  Consecutive.filter_from, rtake_concat_rtake, Ascending.rtake_filter_above
-/
import Mathlib.Data.List.DropRight
import Mathlib.Data.List.Pairwise
import Mathlib.Data.List.TakeWhile
import Mathlib.Tactic.Common

namespace Acud.Lib

/-!
A log numbers its entries in ascending order and a reader remembers the number up
to which it has read.  What is behind a cursor can be told by number (`filter`) or
by position (`dropWhile`, `drop`); over an ascending sequence the three agree, and
acknowledging a batch from the front leaves exactly the rest.

Where the numbers are consecutive, positions can be computed from them.  A reader
that keeps only the newest entries (`rtake`) sees the newest of what is pending.
-/

variable {α : Type} {key : α → Int}

/-- Strictly ascending numbers. -/
def Ascending (key : α → Int) (entries : List α) : Prop :=
  entries.Pairwise fun first second => key first < key second

namespace Ascending

theorem tail {first : α} {rest : List α} (ascending : Ascending key (first :: rest)) :
    Ascending key rest :=
  (List.pairwise_cons.mp ascending).2

theorem head_lt {first : α} {rest : List α} (ascending : Ascending key (first :: rest))
    {entry : α} (member : entry ∈ rest) : key first < key entry :=
  (List.pairwise_cons.mp ascending).1 entry member

theorem filter {entries : List α} (ascending : Ascending key entries) (keep : α → Bool) :
    Ascending key (entries.filter keep) :=
  List.Pairwise.filter keep ascending

/-- Numbers in front are below the numbers behind. -/
theorem lt_of_append {front back : List α} (ascending : Ascending key (front ++ back))
    {early late : α} (earlyMember : early ∈ front) (lateMember : late ∈ back) :
    key early < key late :=
  (List.pairwise_append.mp ascending).2.2 early earlyMember late lateMember

/-- Everything before the last entry is below it. -/
theorem le_last {entries : List α} (ascending : Ascending key entries)
    (nonempty : entries ≠ []) {entry : α} (member : entry ∈ entries) :
    key entry ≤ key (entries.getLast nonempty) := by
  rw [← List.dropLast_concat_getLast nonempty] at ascending member
  rcases List.mem_append.mp member with early | final
  · exact Int.le_of_lt (ascending.lt_of_append early (List.mem_singleton_self _))
  · rw [List.mem_singleton] at final
    exact Int.le_of_eq (by rw [final])

/-- What is not above the last entry of a front part lies in the front part. -/
theorem mem_front_of_le_last {front back : List α} (ascending : Ascending key (front ++ back))
    (nonempty : front ≠ []) {entry : α} (member : entry ∈ front ++ back)
    (bound : key entry ≤ key (front.getLast nonempty)) : entry ∈ front := by
  rcases List.mem_append.mp member with inFront | inBack
  · exact inFront
  · have above := ascending.lt_of_append (List.getLast_mem nonempty) inBack
    omega

/-- The first entry of a front part is not above any entry. -/
theorem head_le {front back : List α} (ascending : Ascending key (front ++ back))
    (nonempty : front ≠ []) {entry : α} (member : entry ∈ front ++ back) :
    key (front.head nonempty) ≤ key entry := by
  cases front with
  | nil => exact absurd rfl nonempty
  | cons first rest =>
      rcases List.mem_cons.mp member with rfl | later
      · exact Int.le_refl _
      · exact Int.le_of_lt (ascending.head_lt later)

/-- The entries up to a number are a front part. -/
theorem exists_take {entries : List α} (ascending : Ascending key entries) (cut : Int) :
    ∃ count, ∀ entry, entry ∈ entries.take count ↔ entry ∈ entries ∧ key entry ≤ cut := by
  induction entries with
  | nil => exact ⟨0, by simp⟩
  | cons head rest inductionHypothesis =>
      obtain ⟨count, front⟩ := inductionHypothesis ascending.tail
      by_cases old : key head ≤ cut
      · refine ⟨count + 1, fun entry => ?_⟩
        rw [List.take_succ_cons, List.mem_cons, List.mem_cons, front entry]
        constructor
        · rintro (rfl | ⟨later, bound⟩)
          · exact ⟨.inl rfl, old⟩
          · exact ⟨.inr later, bound⟩
        · rintro ⟨rfl | later, bound⟩
          · exact .inl rfl
          · exact .inr ⟨later, bound⟩
      · refine ⟨0, fun entry => ?_⟩
        simp only [List.take_zero, List.not_mem_nil, false_iff, not_and]
        intro member
        rcases List.mem_cons.mp member with rfl | later
        · omega
        · have above := ascending.head_lt later
          omega

end Ascending

/-- What is above a number is what is left after the entries up to it. -/
theorem filter_above_eq_dropWhile {entries : List α} (ascending : Ascending key entries)
    (cut : Int) :
    entries.filter (fun entry => decide (cut < key entry)) =
      entries.dropWhile fun entry => decide (key entry ≤ cut) := by
  induction entries with
  | nil => rfl
  | cons head rest inductionHypothesis =>
      by_cases old : key head ≤ cut
      · rw [List.filter_cons_of_neg (by simpa using old),
          List.dropWhile_cons_of_pos (by simpa using old)]
        exact inductionHypothesis ascending.tail
      · rw [List.dropWhile_cons_of_neg (by simpa using old), List.filter_eq_self]
        intro entry member
        simp only [decide_eq_true_eq]
        rcases List.mem_cons.mp member with rfl | later
        · omega
        · have above := ascending.head_lt later
          omega

/-- Acknowledging up to the last entry of a front part leaves the back part. -/
theorem dropWhile_upto_last {front back : List α}
    (ascending : Ascending key (front ++ back)) (nonempty : front ≠ []) :
    (front ++ back).dropWhile
        (fun entry => decide (key entry ≤ key (front.getLast nonempty))) = back := by
  have frontAscending : Ascending key front := (List.pairwise_append.mp ascending).1
  rw [List.dropWhile_append_of_pos]
  · cases back with
    | nil => rfl
    | cons head rest =>
        have above := ascending.lt_of_append (List.getLast_mem nonempty) List.mem_cons_self
        rw [List.dropWhile_cons_of_neg]
        simp only [decide_eq_true_eq]
        omega
  · intro entry member
    simpa using frontAscending.le_last nonempty member

/-! ### The newest entries -/

theorem rtake_of_length_le {entries : List α} {count : Nat} (within : entries.length ≤ count) :
    entries.rtake count = entries := by
  rw [List.rtake, Nat.sub_eq_zero_of_le within, List.drop_zero]

/-- What is dropped in front of the newest entries was not among them. -/
theorem rtake_drop {entries : List α} {dropped count : Nat}
    (kept : dropped + count ≤ entries.length) :
    (entries.drop dropped).rtake count = entries.rtake count := by
  rw [List.rtake, List.rtake, List.drop_drop, List.length_drop]
  congr 1
  omega

/-- Keeping the newest before and after an entry is added is keeping them once. -/
theorem rtake_concat_rtake (entries : List α) (entry : α) (count : Nat) :
    (entries.rtake count ++ [entry]).rtake count = (entries ++ [entry]).rtake count := by
  cases count with
  | zero => simp
  | succ count =>
      rw [List.rtake_concat_succ, List.rtake_concat_succ]
      congr 1
      rcases Nat.le_total entries.length (count + 1) with few | many
      · rw [rtake_of_length_le few]
      · exact rtake_drop (by omega)

/-- The newest entries above a number are what is above it among the newest entries. -/
theorem Ascending.rtake_filter_above {entries : List α} (ascending : Ascending key entries)
    (position : Int) (count : Nat) :
    (entries.filter fun entry => decide (position < key entry)).rtake count =
      (entries.rtake count).filter fun entry => decide (position < key entry) := by
  induction entries using List.reverseRecOn generalizing count with
  | nil => simp
  | append_singleton front last inductionHypothesis =>
      have below := (List.pairwise_append.mp ascending).1
      cases count with
      | zero => simp
      | succ count =>
          rw [List.rtake_concat_succ, List.filter_append, List.filter_append]
          by_cases above : position < key last
          · rw [List.filter_cons_of_pos (by simpa using above), List.filter_nil,
              List.rtake_concat_succ, inductionHypothesis below]
          · -- nothing in front is above a number that the last one is not above
            have none {entry : α} (member : entry ∈ front) :
                ¬ decide (position < key entry) = true := by
              have early := ascending.lt_of_append member (List.mem_singleton_self last)
              simp only [decide_eq_true_eq]
              omega
            have noneKept : ∀ entry ∈ front.rtake count,
                ¬ decide (position < key entry) = true :=
              fun entry member => none (List.mem_of_mem_drop member)
            rw [List.filter_cons_of_neg (by simpa using above), List.filter_nil,
              List.filter_eq_nil_iff.mpr fun entry member => none member,
              List.filter_eq_nil_iff.mpr noneKept]
            simp

/-! ### Consecutive numbers -/

/-- The numbers count up from `first` without a hole. -/
def Consecutive (key : α → Int) : Int → List α → Prop
  | _, [] => True
  | first, entry :: rest => key entry = first ∧ Consecutive key (first + 1) rest

namespace Consecutive

variable {first : Int} {entries : List α}

theorem concat {entry : α} :
    Consecutive key first (entries ++ [entry]) ↔
      Consecutive key first entries ∧ key entry = first + entries.length := by
  induction entries generalizing first with
  | nil => simp [Consecutive]
  | cons head rest inductionHypothesis =>
      rw [List.cons_append, Consecutive, Consecutive, inductionHypothesis, and_assoc,
        List.length_cons]
      refine and_congr_right fun _ => and_congr_right fun _ => ?_
      omega

theorem bounds (consecutive : Consecutive key first entries) {entry : α}
    (member : entry ∈ entries) :
    first ≤ key entry ∧ key entry < first + entries.length := by
  induction entries generalizing first with
  | nil => cases member
  | cons head rest inductionHypothesis =>
      rw [List.length_cons]
      rcases List.mem_cons.mp member with rfl | later
      · have here := consecutive.1
        omega
      · have behind := inductionHypothesis consecutive.2 later
        omega

theorem drop (consecutive : Consecutive key first entries) {count : Nat}
    (within : count ≤ entries.length) :
    Consecutive key (first + count) (entries.drop count) := by
  induction count generalizing first entries with
  | zero => simpa using consecutive
  | succ count inductionHypothesis =>
      cases entries with
      | nil => cases within
      | cons head rest =>
          have behind := inductionHypothesis consecutive.2 (Nat.le_of_succ_le_succ within)
          have same : first + 1 + (count : Int) = first + (count + 1 : Nat) := by omega
          rw [List.drop_succ_cons, ← same]
          exact behind

/-- The entries from a number on are a back part. -/
theorem filter_from (consecutive : Consecutive key first entries) (cut : Int) :
    (entries.filter fun entry => decide (cut ≤ key entry)) =
      entries.drop (cut - first).toNat := by
  induction entries generalizing first with
  | nil => simp
  | cons head rest inductionHypothesis =>
      have here := consecutive.1
      by_cases old : key head < cut
      · have positions : (cut - first).toNat = (cut - (first + 1)).toNat + 1 := by omega
        rw [List.filter_cons_of_neg (by simpa using old), inductionHypothesis consecutive.2,
          positions, List.drop_succ_cons]
      · have none : (cut - first).toNat = 0 := by omega
        rw [none, List.drop_zero, List.filter_eq_self]
        intro entry member
        have bound := (consecutive.bounds member).1
        simp only [decide_eq_true_eq]
        omega

/-- The entries above a number are a back part. -/
theorem filter_above (consecutive : Consecutive key first entries) (position : Int) :
    (entries.filter fun entry => decide (position < key entry)) =
      entries.drop (position + 1 - first).toNat := by
  rw [← consecutive.filter_from]
  rfl

theorem head? (consecutive : Consecutive key first entries) {head : α}
    (front : entries.head? = some head) : key head = first := by
  cases entries with
  | nil => cases front
  | cons entry rest =>
      cases front
      exact consecutive.1

theorem getLast? (consecutive : Consecutive key first entries) {last : α}
    (final : entries.getLast? = some last) : key last = first + entries.length - 1 := by
  obtain ⟨front, rfl⟩ := List.getLast?_eq_some_iff.mp final
  have numbered := (concat.mp consecutive).2
  rw [numbered, List.length_append, List.length_singleton]
  omega

end Consecutive

end Acud.Lib
