/-
Module: Acud.Lib.Subnet
Purpose: Blocks of addresses: prefixes by bits, by masks and by division.
Trusted boundary: none
Main exports:
  leadingOnes, prefixMask, maskPrefix_iff, sameBits_iff, and_prefixMask, IsHost, isHost_iff
-/
import Mathlib.Data.Nat.Bitwise
import Mathlib.Data.Nat.Size
import Mathlib.Tactic.Common

namespace Acud.Lib

/-!
An address of `width` bits belongs, for a prefix length `bits`, to a block of
`2 ^ (width - bits)` addresses with the same leading bits.  Programs find the block in three
ways, by comparing bits, by masking and by dividing, and the three agree.

* `leadingOnes` counts the ones a mask begins with;
* `prefixMask` is the mask of a prefix length, and the only masks of that shape are these;
* the first address of the block of `address` is `address / block * block`, the last one is
  `block - 1` further.
-/

/-- How many ones stand in front, from bit `width - 1` on. -/
def leadingOnes (mask : Nat) : Nat → Nat
  | 0 => 0
  | width + 1 => if mask.testBit width then leadingOnes mask width + 1 else 0

/-- `bits` ones and zeros behind them. -/
def prefixMask (width bits : Nat) : Nat :=
  2 ^ width - 2 ^ (width - bits)

/-! ### Masks -/

theorem leadingOnes_le (mask width : Nat) : leadingOnes mask width ≤ width := by
  induction width with
  | zero => exact Nat.le_refl 0
  | succ width ih =>
      unfold leadingOnes
      split
      next => exact Nat.succ_le_succ ih
      next => exact Nat.zero_le _

/-- The bits that are counted are ones. -/
theorem testBit_of_leadingOnes {mask width index : Nat} (inside : index < width)
    (counted : width ≤ index + leadingOnes mask width) : mask.testBit index = true := by
  induction width with
  | zero => cases inside
  | succ width ih =>
      unfold leadingOnes at counted
      split at counted
      next one =>
        by_cases top : index = width
        · rw [top]
          exact one
        · exact ih (by omega) (by omega)
      next => omega

/-- The bit behind them is a zero. -/
theorem testBit_behind_leadingOnes {mask width : Nat} (more : leadingOnes mask width < width) :
    mask.testBit (width - 1 - leadingOnes mask width) = false := by
  induction width with
  | zero => cases more
  | succ width ih =>
      unfold leadingOnes at more ⊢
      split at more
      next one =>
        rw [if_pos one]
        have rest := ih (by omega)
        rwa [show width + 1 - 1 - (leadingOnes mask width + 1) =
          width - 1 - leadingOnes mask width by omega]
      next zero =>
        rw [if_neg zero]
        simpa using zero

theorem prefixMask_eq {width bits : Nat} (le : bits ≤ width) :
    prefixMask width bits = (2 ^ bits - 1) <<< (width - bits) := by
  rw [Nat.shiftLeft_eq, Nat.sub_mul, Nat.one_mul, ← Nat.pow_add, Nat.add_sub_cancel' le]
  rfl

theorem testBit_prefixMask {width bits : Nat} (le : bits ≤ width) (index : Nat) :
    (prefixMask width bits).testBit index =
      (decide (width - bits ≤ index) && decide (index < width)) := by
  rw [prefixMask_eq le, Nat.testBit_shiftLeft, Nat.testBit_two_pow_sub_one]
  by_cases low : width - bits ≤ index
  · simp only [low, decide_true, Bool.true_and, decide_eq_decide]
    omega
  · simp [low]

theorem leadingOnes_prefixMask {width bits : Nat} (le : bits ≤ width) :
    leadingOnes (prefixMask width bits) width = bits := by
  have bound := leadingOnes_le (prefixMask width bits) width
  apply Nat.le_antisymm
  · -- One more would be a zero of the mask.
    by_contra more
    have one : (prefixMask width bits).testBit (width - 1 - bits) = true :=
      @testBit_of_leadingOnes _ width _ (by omega) (by omega)
    rw [testBit_prefixMask le, Bool.and_eq_true, decide_eq_true_eq] at one
    omega
  · -- One less would leave a one of the mask behind.
    by_contra fewer
    have zero := @testBit_behind_leadingOnes (prefixMask width bits) width (by omega)
    rw [testBit_prefixMask le, Bool.and_eq_false_iff, decide_eq_false_iff_not,
      decide_eq_false_iff_not] at zero
    omega

/-- Nothing stands behind the leading ones exactly for the masks of prefixes. -/
theorem maskPrefix_iff {mask width bits : Nat} (bound : mask < 2 ^ width) :
    leadingOnes mask width = bits ∧ mask % 2 ^ (width - bits) = 0 ↔
      bits ≤ width ∧ mask = prefixMask width bits := by
  constructor
  · rintro ⟨rfl, rest⟩
    have le := leadingOnes_le mask width
    refine ⟨le, Nat.eq_of_testBit_eq fun index => ?_⟩
    rw [testBit_prefixMask le]
    by_cases high : index < width
    · by_cases counted : width - leadingOnes mask width ≤ index
      · rw [testBit_of_leadingOnes high (by omega)]
        simp [counted, high]
      · have low : (mask % 2 ^ (width - leadingOnes mask width)).testBit index = false := by
          rw [rest, Nat.zero_testBit]
        rw [Nat.testBit_mod_two_pow] at low
        simp only [Bool.and_eq_false_iff, decide_eq_false_iff_not] at low
        simp only [counted, decide_false, Bool.false_and]
        exact low.resolve_left (by omega)
    · rw [Nat.testBit_lt_two_pow
        (Nat.lt_of_lt_of_le bound (Nat.pow_le_pow_right (by decide) (by omega)))]
      simp [high]
  · rintro ⟨le, rfl⟩
    refine ⟨leadingOnes_prefixMask le, ?_⟩
    rw [prefixMask_eq le, Nat.shiftLeft_eq, Nat.mul_mod_left]

/-! ### Blocks -/

/-- The same leading bits are the same block. -/
theorem sameBits_iff {width bits first second : Nat} (le : bits ≤ width)
    (one : first < 2 ^ width) (two : second < 2 ^ width) :
    (∀ index < bits, first.testBit (width - 1 - index) = second.testBit (width - 1 - index)) ↔
      first / 2 ^ (width - bits) = second / 2 ^ (width - bits) := by
  constructor
  · intro same
    apply Nat.eq_of_testBit_eq
    intro index
    rw [Nat.testBit_div_two_pow, Nat.testBit_div_two_pow]
    by_cases inside : index < bits
    · have bit := same (bits - 1 - index) (by omega)
      rwa [show width - 1 - (bits - 1 - index) = index + (width - bits) by omega] at bit
    · have high : 2 ^ width ≤ 2 ^ (index + (width - bits)) :=
        Nat.pow_le_pow_right (by decide) (by omega)
      rw [Nat.testBit_lt_two_pow (Nat.lt_of_lt_of_le one high),
        Nat.testBit_lt_two_pow (Nat.lt_of_lt_of_le two high)]
  · intro same index inside
    have place : width - 1 - index = (bits - 1 - index) + (width - bits) := by omega
    rw [place, ← Nat.testBit_div_two_pow, ← Nat.testBit_div_two_pow, same]

/-- Masking takes the first address of the block. -/
theorem and_prefixMask {width bits address : Nat} (le : bits ≤ width)
    (bound : address < 2 ^ width) :
    address &&& prefixMask width bits = address / 2 ^ (width - bits) * 2 ^ (width - bits) := by
  apply Nat.eq_of_testBit_eq
  intro index
  rw [Nat.testBit_and, testBit_prefixMask le, ← Nat.shiftLeft_eq, Nat.testBit_shiftLeft,
    Nat.testBit_div_two_pow]
  by_cases low : width - bits ≤ index
  · by_cases high : index < width
    · simp [low, high]
    · have zero : address.testBit index = false :=
        Nat.testBit_lt_two_pow
          (Nat.lt_of_lt_of_le bound (Nat.pow_le_pow_right (by decide) (by omega)))
      simp [low, zero]
  · simp [low]

/-- The last address of a block. -/
theorem or_hostMask (start size : Nat) :
    start * 2 ^ size ||| (2 ^ size - 1) = start * 2 ^ size + (2 ^ size - 1) := by
  rw [← Nat.shiftLeft_eq, Nat.shiftLeft_add_eq_or_of_lt (by
    exact Nat.sub_lt (Nat.two_pow_pos size) Nat.one_pos)]

/-- Neither the first nor the last address of its block. -/
def IsHost (size address : Nat) : Prop :=
  address % 2 ^ size ≠ 0 ∧ address % 2 ^ size ≠ 2 ^ size - 1

theorem eq_blockStart_iff (size address : Nat) :
    address = address / 2 ^ size * 2 ^ size ↔ address % 2 ^ size = 0 := by
  have split := Nat.div_add_mod' address (2 ^ size)
  omega

theorem eq_blockEnd_iff (size address : Nat) :
    address = address / 2 ^ size * 2 ^ size ||| (2 ^ size - 1) ↔
      address % 2 ^ size = 2 ^ size - 1 := by
  have split := Nat.div_add_mod' address (2 ^ size)
  rw [or_hostMask]
  omega

theorem isHost_iff (size address : Nat) :
    IsHost size address ↔
      address ≠ address / 2 ^ size * 2 ^ size ∧
        address ≠ address / 2 ^ size * 2 ^ size ||| (2 ^ size - 1) := by
  rw [IsHost, Ne, Ne, Ne, Ne, eq_blockStart_iff, eq_blockEnd_iff]

/-- The first and the last of all addresses are the first and the last of their blocks. -/
theorem IsHost.inside {size address width : Nat} (le : size ≤ width)
    (host : IsHost size address) : address ≠ 0 ∧ address ≠ 2 ^ width - 1 := by
  constructor
  · rintro rfl
    exact host.1 (Nat.zero_mod _)
  · rintro rfl
    apply host.2
    -- All ones, of which the block has the last `size`.
    apply Nat.eq_of_testBit_eq
    intro index
    rw [Nat.testBit_mod_two_pow, Nat.testBit_two_pow_sub_one, Nat.testBit_two_pow_sub_one]
    by_cases inside : index < size
    · simp [inside, Nat.lt_of_lt_of_le inside le]
    · simp [inside]

end Acud.Lib
