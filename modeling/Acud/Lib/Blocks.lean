/-
Module: Acud.Lib.Blocks
Purpose: Streams that are consumed in blocks of a fixed size.
Trusted boundary: none
Main exports:
  blocks, blocks_append, absorb, absorb_append, absorb_block
-/
import Mathlib.Data.List.Basic
import Mathlib.Tactic.Common

namespace Acud.Lib

/-!
A consumer takes a stream in blocks of a fixed size, while the stream arrives in
pieces that are cut anywhere.  It keeps the items that do not fill a block yet in
front of the next piece.

* `blocks` are the full blocks of a sequence, and what is left behind them;
* `absorb` is the consumer: it folds the full blocks and keeps the rest;
* `absorb_append`: two pieces are absorbed like the one they make together, so
  where a stream is cut does not matter.
-/

variable {α σ : Type} {size : Nat}

/-- The full blocks at the front, and the rest. -/
def blocks (size : Nat) (data : List α) : List (List α) × List α :=
  if 0 < size ∧ size ≤ data.length then
    let later := blocks size (data.drop size)
    (data.take size :: later.1, later.2)
  else ([], data)
termination_by data.length
decreasing_by
  rw [List.length_drop]
  omega

theorem blocks_short {data : List α} (short : data.length < size) :
    blocks size data = ([], data) := by
  rw [blocks, if_neg]
  rintro ⟨_, full⟩
  omega

theorem blocks_full (positive : 0 < size) {data : List α} (full : size ≤ data.length) :
    blocks size data =
      (data.take size :: (blocks size (data.drop size)).1, (blocks size (data.drop size)).2) := by
  rw [blocks, if_pos ⟨positive, full⟩]

/-- A block in front of a sequence is its first block. -/
theorem blocks_cons (positive : 0 < size) {block : List α} (full : block.length = size)
    (data : List α) :
    blocks size (block ++ data) = (block :: (blocks size data).1, (blocks size data).2) := by
  have long : size ≤ (block ++ data).length := by
    rw [List.length_append]
    omega
  rw [blocks_full positive long, ← full, List.take_left, List.drop_left]

/-- Each property of sequences that holds of short ones, and of those with a block in
front when it holds behind it, holds of all. -/
theorem blocks_induction {property : List α → Prop} (positive : 0 < size)
    (short : ∀ data : List α, data.length < size → property data)
    (block : ∀ front data : List α, front.length = size → property data →
      property (front ++ data))
    (data : List α) : property data := by
  induction measured : data.length using Nat.strongRecOn generalizing data with
  | ind count inductionHypothesis =>
      rcases Nat.lt_or_ge data.length size with small | full
      · exact short data small
      · have rest : property (data.drop size) := by
          apply inductionHypothesis (data.drop size).length _ _ rfl
          rw [List.length_drop]
          omega
        have cut := block (data.take size) (data.drop size) (List.length_take_of_le full) rest
        rwa [List.take_append_drop] at cut

/-- What is left is less than a block. -/
theorem length_blocks_rest (positive : 0 < size) (data : List α) :
    (blocks size data).2.length < size := by
  induction data using blocks_induction positive with
  | short data short =>
      rw [blocks_short short]
      exact short
  | block front data full inductionHypothesis =>
      rw [blocks_cons positive full]
      exact inductionHypothesis

/-- More items are cut together with what was left. -/
theorem blocks_append (positive : 0 < size) (data more : List α) :
    blocks size (data ++ more) =
      ((blocks size data).1 ++ (blocks size ((blocks size data).2 ++ more)).1,
        (blocks size ((blocks size data).2 ++ more)).2) := by
  induction data using blocks_induction positive with
  | short data short =>
      rw [blocks_short short]
      rfl
  | block front data full inductionHypothesis =>
      rw [List.append_assoc, blocks_cons positive full, blocks_cons positive full,
        inductionHypothesis]
      rfl

/-! ### The consumer -/

section Absorb

variable (step : σ → List α → σ)

/-- Take the full blocks of what was kept and what arrives, and keep the rest. -/
def absorb (size : Nat) (state : σ × List α) (data : List α) : σ × List α :=
  let cut := blocks size (state.2 ++ data)
  (cut.1.foldl step state.1, cut.2)

theorem absorb_nil {state : σ × List α} (short : state.2.length < size) :
    absorb step size state [] = state := by
  rw [absorb, List.append_nil, blocks_short short]
  rfl

theorem length_absorb_rest (positive : 0 < size) (state : σ × List α) (data : List α) :
    (absorb step size state data).2.length < size :=
  length_blocks_rest positive _

/-- Where the stream is cut does not matter. -/
theorem absorb_append (positive : 0 < size) (state : σ × List α) (data more : List α) :
    absorb step size (absorb step size state data) more =
      absorb step size state (data ++ more) := by
  unfold absorb
  simp only
  rw [← List.append_assoc, blocks_append positive (state.2 ++ data) more, List.foldl_append]

/-- A full block is taken at once. -/
theorem absorb_block (positive : 0 < size) {state : σ × List α} {data : List α}
    (full : (state.2 ++ data).length = size) :
    absorb step size state data = (step state.1 (state.2 ++ data), []) := by
  have empty : blocks size ([] : List α) = ([], []) := blocks_short positive
  have cut := blocks_cons positive full []
  rw [List.append_nil, empty] at cut
  rw [absorb, cut]
  rfl

end Absorb

/-! ### The same block several times -/

theorem getElem?_flatten_replicate {block : List α} {count index offset : Nat}
    (inside : index < count) (within : offset < block.length) :
    (List.replicate count block).flatten[index * block.length + offset]? = block[offset]? := by
  induction count generalizing index with
  | zero => cases inside
  | succ count inductionHypothesis =>
      rw [List.replicate_succ, List.flatten_cons]
      cases index with
      | zero => rw [Nat.zero_mul, Nat.zero_add, List.getElem?_append_left within]
      | succ index =>
          have position : (index + 1) * block.length + offset =
              block.length + (index * block.length + offset) := by
            rw [Nat.succ_mul]
            omega
          rw [position, List.getElem?_append_right (Nat.le_add_right _ _),
            Nat.add_sub_cancel_left]
          exact inductionHypothesis (Nat.lt_of_succ_lt_succ inside)

/-! ### One block of several -/

/-- The slice at a multiple of the size is the block with that number. -/
theorem take_drop_flatten {parts : List (List α)} (sized : ∀ part ∈ parts, part.length = size)
    {index : Nat} {block : List α} (found : parts[index]? = some block) (more : List α) :
    ((parts.flatten ++ more).drop (index * size)).take size = block := by
  induction parts generalizing index with
  | nil => cases found
  | cons front parts inductionHypothesis =>
      have length : front.length = size := sized front List.mem_cons_self
      rw [List.flatten_cons, List.append_assoc]
      cases index with
      | zero =>
          cases found
          rw [Nat.zero_mul, List.drop_zero]
          exact List.take_left' length
      | succ index =>
          have position : (index + 1) * size = front.length + index * size := by
            rw [Nat.succ_mul, length, Nat.add_comm]
          rw [position, ← List.drop_drop, List.drop_left]
          exact inductionHypothesis
            (fun part member => sized part (List.mem_cons_of_mem front member)) found

end Acud.Lib
