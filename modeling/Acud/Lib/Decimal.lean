/-
Module: Acud.Lib.Decimal
Purpose: Decimal numbers and dotted lists of them as texts.
Trusted boundary: none
Main exports:
  Text, decimal, isNumber, numberOf, dotted, splitOn_dotted, lines, lines_unlines
-/
import Mathlib.Algebra.Group.Nat.Defs
import Mathlib.Data.List.Basic
import Mathlib.Tactic.Common

namespace Acud.Lib

/-!
A number is written in decimal without leading zeros and read back digit by digit.  Numbers
with dots between them are taken apart at the dots, and lines at their line ends: a text
that was put together this way splits into the parts it was made of.
-/

abbrev Text := List Char

/-- What `%u` and `str` write for a natural number. -/
def decimal (number : Nat) : Text :=
  Nat.toDigits 10 number

/-- One digit at least, and nothing else. -/
def isNumber (text : Text) : Bool :=
  !text.isEmpty && text.all Char.isDigit

/-- The value of a text of digits. -/
def numberOf (text : Text) : Nat :=
  Nat.ofDigitChars 10 text 0

@[simp] theorem numberOf_decimal (number : Nat) : numberOf (decimal number) = number :=
  Nat.ofDigitChars_ten_toDigits

theorem isDigit_of_mem_decimal {number : Nat} {digit : Char} (member : digit ∈ decimal number) :
    digit.isDigit = true :=
  Nat.isDigit_of_mem_toDigits (by decide) (by decide) member

theorem decimal_ne_nil (number : Nat) : decimal number ≠ [] :=
  Nat.toDigits_ne_nil

@[simp] theorem isNumber_decimal (number : Nat) : isNumber (decimal number) = true := by
  simp only [isNumber, Bool.and_eq_true, Bool.not_eq_true', List.isEmpty_eq_false_iff,
    List.all_eq_true]
  exact ⟨decimal_ne_nil number, fun digit member => isDigit_of_mem_decimal member⟩

/-- A character that is no digit does not occur in a number. -/
theorem notMem_decimal (number : Nat) {other : Char} (noDigit : other.isDigit = false) :
    other ∉ decimal number := by
  intro member
  rw [isDigit_of_mem_decimal member] at noDigit
  cases noDigit

theorem length_decimal_le {number digits : Nat} (positive : 0 < digits) :
    (decimal number).length ≤ digits ↔ number < 10 ^ digits :=
  Nat.length_toDigits_le_iff (by decide) positive

/-- The last digit comes off the end. -/
theorem decimal_eq (number : Nat) :
    decimal number =
      if number < 10 then [number.digitChar]
      else decimal (number / 10) ++ [(number % 10).digitChar] :=
  Nat.toDigits_eq_if (by decide)

/-- A number that is not zero does not start with a zero. -/
theorem head?_decimal {number : Nat} (positive : number ≠ 0) :
    (decimal number).head? ≠ some '0' := by
  induction number using Nat.strongRecOn with
  | ind number ih =>
      rw [decimal_eq]
      split
      next small =>
        have cases : number = 1 ∨ number = 2 ∨ number = 3 ∨ number = 4 ∨ number = 5 ∨
            number = 6 ∨ number = 7 ∨ number = 8 ∨ number = 9 := by omega
        rcases cases with rfl | rfl | rfl | rfl | rfl | rfl | rfl | rfl | rfl <;> decide
      next large =>
        have front := ih (number / 10) (by omega) (by omega)
        cases digits : decimal (number / 10) with
        | nil => exact absurd digits (decimal_ne_nil _)
        | cons digit rest =>
            rw [digits] at front
            simpa using front

/-! ### Dotted lists -/

/-- Numbers with dots between them. -/
def dotted (parts : List Nat) : Text :=
  ['.'].intercalate (parts.map decimal)

theorem splitOn_dotted {parts : List Nat} (some : parts ≠ []) :
    (dotted parts).splitOn '.' = parts.map decimal := by
  apply List.splitOn_intercalate
  · intro text member
    obtain ⟨number, _, rfl⟩ := List.mem_map.mp member
    exact notMem_decimal number (by decide)
  · simpa using some

theorem dotted_ne_nil {parts : List Nat} (some : parts ≠ []) : dotted parts ≠ [] := by
  intro none
  have split := splitOn_dotted some
  rw [none] at split
  cases parts with
  | nil => exact some rfl
  | cons part rest => exact decimal_ne_nil part (List.cons.inj split).1.symm

theorem map_numberOf_decimal (parts : List Nat) : (parts.map decimal).map numberOf = parts := by
  rw [List.map_map]
  apply (List.map_congr_left fun number _ => numberOf_decimal number).trans
  exact List.map_id' parts

theorem dotted_injective {first second : List Nat} (one : first ≠ []) (two : second ≠ [])
    (same : dotted first = dotted second) : first = second := by
  have parts := splitOn_dotted one
  rw [same, splitOn_dotted two] at parts
  rw [← map_numberOf_decimal first, ← parts, map_numberOf_decimal]

theorem dotted_cons (part next : Nat) (rest : List Nat) :
    dotted (part :: next :: rest) = decimal part ++ '.' :: dotted (next :: rest) := by
  simp [dotted]

/-- Only digits and dots occur. -/
theorem notMem_dotted (parts : List Nat) {other : Char} (noDigit : other.isDigit = false)
    (noDot : other ≠ '.') : other ∉ dotted parts := by
  induction parts with
  | nil => exact List.not_mem_nil
  | cons part rest ih =>
      cases rest with
      | nil => simpa [dotted] using notMem_decimal part noDigit
      | cons next rest =>
          rw [dotted_cons, List.mem_append, List.mem_cons]
          rintro (digit | dot | later)
          · exact notMem_decimal part noDigit digit
          · exact noDot dot
          · exact ih later

/-- Every part has at most `digits` digits, and a dot goes with each but the last. -/
theorem length_dotted_le {parts : List Nat} {digits : Nat} (positive : 0 < digits)
    (short : ∀ part ∈ parts, part < 10 ^ digits) :
    (dotted parts).length ≤ parts.length * (digits + 1) - 1 := by
  induction parts with
  | nil => exact Nat.zero_le _
  | cons part rest ih =>
      have first := (length_decimal_le positive).mpr (short part List.mem_cons_self)
      cases rest with
      | nil => simpa [dotted] using first
      | cons next rest =>
          have later := ih fun other member => short other (List.mem_cons_of_mem part member)
          rw [dotted_cons, List.length_append, List.length_cons]
          simp only [List.length_cons, Nat.succ_mul] at later ⊢
          omega

/-! ### Lines -/

/-- The lines of a text; what follows the last line end is not a line. -/
def lines (text : Text) : List Text :=
  (text.splitOn '\n').dropLast

/-- A text of lines, each with its line end. -/
def unlines (texts : List Text) : Text :=
  (texts.map fun text => text ++ ['\n']).flatten

theorem lines_unlines {texts : List Text} (single : ∀ text ∈ texts, '\n' ∉ text) :
    lines (unlines texts) = texts := by
  have splits : (unlines texts).splitOn '\n' = texts ++ [[]] := by
    induction texts with
    | nil => rfl
    | cons text rest ih =>
        have later : ∀ other ∈ rest, '\n' ∉ other := fun other member =>
          single other (List.mem_cons_of_mem text member)
        have front : '\n' ∉ text := single text List.mem_cons_self
        have apart : unlines (text :: rest) = text ++ '\n' :: unlines rest := by
          simp [unlines]
        rw [apart, List.splitOn_append_cons_self, List.splitOn_eq_singleton front, ih later]
        rfl
  rw [lines, splits, List.dropLast_concat]

end Acud.Lib
