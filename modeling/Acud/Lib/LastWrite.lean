/-
Module: Acud.Lib.LastWrite
Purpose: A cell of a machine that some inputs write and others clear.
Trusted boundary: none
Main exports:
  WritesCell, Undisturbed, WritesCell.cell_eq_some_iff
-/
import Acud.Lib.Machine

namespace Acud.Lib

/-!
A part of a machine's state is a cell that is written, cleared or left alone by each input.
What it holds after a run was put there by the last input that wrote it, and nothing has
cleared it since; what an input writes may depend on the state it meets.  An invariant of the
machine may be needed to say what a step does to the cell.
-/

variable {σ ι α : Type}

/-- What each step from a state of the invariant does to the cell. -/
structure WritesCell (step : σ → ι → Option σ) (invariant : σ → Prop) (cell : σ → Option α)
    (written : σ → ι → Option α) (cleared : σ → ι → Prop) : Prop where
  keeps : ∀ {state input next}, invariant state → step state input = some next → invariant next
  wrote : ∀ {state input next value}, invariant state → step state input = some next →
    written state input = some value → cell next = some value
  emptied : ∀ {state input next}, invariant state → step state input = some next →
    written state input = none → cleared state input → cell next = none
  kept : ∀ {state input next}, invariant state → step state input = some next →
    written state input = none → ¬ cleared state input → cell next = cell state

/-- Neither written nor cleared. -/
def Undisturbed (written : σ → ι → Option α) (cleared : σ → ι → Prop) (state : σ) (input : ι) :
    Prop :=
  written state input = none ∧ ¬ cleared state input

/-- The input of the run that wrote `value` last, with nothing that disturbs it behind. -/
def LastWrite (step : σ → ι → Option σ) (written : σ → ι → Option α)
    (cleared : σ → ι → Prop) (start : σ) (inputs : List ι) (value : α) : Prop :=
  ∃ early input late middle next, inputs = early ++ input :: late ∧
    run step start early = some middle ∧ written middle input = some value ∧
    step middle input = some next ∧ Meets step (Undisturbed written cleared) next late

variable {step : σ → ι → Option σ} {invariant : σ → Prop} {cell : σ → Option α}
  {written : σ → ι → Option α} {cleared : σ → ι → Prop} {value : α}

theorem meets_cons {required : σ → ι → Prop} {start next : σ} {input : ι} {rest : List ι}
    (stepped : step start input = some next) :
    Meets step required start (input :: rest) ↔
      required start input ∧ Meets step required next rest := by
  constructor
  · rintro ⟨here, later⟩
    exact ⟨here, later next stepped⟩
  · rintro ⟨here, later⟩
    refine ⟨here, ?_⟩
    intro other followed
    rw [stepped] at followed
    cases followed
    exact later

theorem not_lastWrite_nil {start : σ} : ¬ LastWrite step written cleared start [] value := by
  rintro ⟨early, input, late, _, _, split, _⟩
  exact List.append_ne_nil_of_right_ne_nil early (List.cons_ne_nil input late) split.symm

/-- The last write is the first input, or one of the others. -/
theorem lastWrite_cons {start next : σ} {input : ι} {rest : List ι}
    (stepped : step start input = some next) :
    LastWrite step written cleared start (input :: rest) value ↔
      (written start input = some value ∧ Meets step (Undisturbed written cleared) next rest) ∨
        LastWrite step written cleared next rest value := by
  constructor
  · rintro ⟨early, writer, late, middle, after, split, reached, wrote, followed, quiet⟩
    cases early with
    | nil =>
        obtain ⟨rfl, rfl⟩ := List.cons.inj split
        cases reached
        rw [stepped] at followed
        cases followed
        exact .inl ⟨wrote, quiet⟩
    | cons first early =>
        obtain ⟨rfl, rfl⟩ := List.cons.inj split
        rw [run_cons, stepped] at reached
        exact .inr ⟨early, writer, late, middle, after, rfl, reached, wrote, followed, quiet⟩
  · rintro (⟨wrote, quiet⟩ | ⟨early, writer, late, middle, after, rfl, reached, rest⟩)
    · exact ⟨[], input, rest, start, next, rfl, rfl, wrote, stepped, quiet⟩
    · refine ⟨input :: early, writer, late, middle, after, rfl, ?_, rest⟩
      rw [run_cons, stepped]
      exact reached

/-- The cell after a run: what it held, if nothing disturbed it, or the last write. -/
theorem WritesCell.cell_eq_some_iff (cells : WritesCell step invariant cell written cleared)
    {start final : σ} {inputs : List ι} (holds : invariant start)
    (reached : run step start inputs = some final) :
    cell final = some value ↔
      (cell start = some value ∧ Meets step (Undisturbed written cleared) start inputs) ∨
        LastWrite step written cleared start inputs value := by
  induction inputs generalizing start with
  | nil =>
      cases reached
      exact ⟨fun held => .inl ⟨held, trivial⟩,
        fun either => either.elim And.left fun write => absurd write not_lastWrite_nil⟩
  | cons input rest inductionHypothesis =>
      obtain ⟨next, stepped, followed⟩ := run_cons_eq_some reached
      rw [inductionHypothesis (cells.keeps holds stepped) followed, lastWrite_cons stepped,
        meets_cons stepped]
      cases wrote : written start input with
      | some other =>
          rw [cells.wrote holds stepped wrote]
          simp only [Undisturbed, wrote, reduceCtorEq, false_and, and_false, false_or]
      | none =>
          by_cases gone : cleared start input
          · rw [cells.emptied holds stepped wrote gone]
            simp only [Undisturbed, gone, not_true_eq_false, reduceCtorEq, and_false, false_and,
              false_or]
          · rw [cells.kept holds stepped wrote gone]
            simp only [Undisturbed, wrote, gone, not_false_eq_true, true_and, reduceCtorEq,
              false_and, false_or]

end Acud.Lib
