/-
Module: Acud.Lib.Machine
Purpose: Runs of a step function and the rule that carries an invariant over them.
Trusted boundary: none
Main exports:
  run, Guarded, Meets, Always, run_invariant, Meets.invariant, Guarded.invariant,
  always_iff_guarded
-/
import Mathlib.Data.Option.Basic
import Mathlib.Tactic.Common

namespace Acud.Lib

/-!
A machine is a step function `σ → ι → Option σ`: an input either takes a state
to the next one or has no defined result.  A run feeds a list of inputs.

The rules here say once what every safety argument over runs needs: what one
step keeps, a run keeps.

* `Guarded`: each step of a run meets a side condition on the state it starts
  from and on its input; `Meets` asks the same of a step without a result;
* `Always`: a property holds in every state of a run;
* `always_iff_guarded`: when the side condition is exactly what a step needs to
  keep the property, the two say the same.
-/

variable {σ τ ι : Type}

/-- Feed inputs one after another; undefined as soon as one step is. -/
def run (step : σ → ι → Option σ) : σ → List ι → Option σ
  | state, [] => some state
  | state, input :: rest =>
      match step state input with
      | some next => run step next rest
      | none => none

/-- Every step of the run meets the condition `allowed`. -/
def Guarded (step : σ → ι → Option σ) (allowed : σ → ι → Prop) :
    σ → List ι → Prop
  | _, [] => True
  | state, input :: rest =>
      ∀ next, step state input = some next →
        allowed state input ∧ Guarded step allowed next rest

instance Guarded.decidable {step : σ → ι → Option σ} {allowed : σ → ι → Prop}
    [∀ state input, Decidable (allowed state input)] :
    ∀ (state : σ) (inputs : List ι), Decidable (Guarded step allowed state inputs)
  | _, [] => isTrue trivial
  | state, input :: rest =>
      match stepped : step state input with
      | none => isTrue fun _ reached => by rw [stepped] at reached; cases reached
      | some next =>
          have : Decidable (Guarded step allowed next rest) := Guarded.decidable next rest
          decidable_of_iff (allowed state input ∧ Guarded step allowed next rest) (by
            rw [Guarded, stepped]
            simp only [Option.some.injEq, forall_eq'])

/-- Every step the run comes to meets the condition, also one that has no result. -/
def Meets (step : σ → ι → Option σ) (required : σ → ι → Prop) : σ → List ι → Prop
  | _, [] => True
  | state, input :: rest =>
      required state input ∧
        ∀ next, step state input = some next → Meets step required next rest

/-- The property holds in every state of the run, the first one included. -/
def Always (step : σ → ι → Option σ) (property : σ → Prop) : σ → List ι → Prop
  | state, [] => property state
  | state, input :: rest =>
      property state ∧
        ∀ next, step state input = some next → Always step property next rest

section Rules

variable {step : σ → ι → Option σ}

@[simp] theorem run_nil (state : σ) : run step state [] = some state := rfl

theorem run_cons (state : σ) (input : ι) (rest : List ι) :
    run step state (input :: rest) =
      (step state input).bind fun next => run step next rest := by
  rw [run]
  cases step state input <;> rfl

/-- A run splits into its first step and the rest. -/
theorem run_cons_eq_some {state final : σ} {input : ι} {rest : List ι}
    (reached : run step state (input :: rest) = some final) :
    ∃ next, step state input = some next ∧ run step next rest = some final := by
  rw [run_cons] at reached
  exact Option.bind_eq_some_iff.mp reached

/-- A run is one of its first inputs and, from there, one of the others. -/
theorem run_append (state : σ) (first second : List ι) :
    run step state (first ++ second) =
      (run step state first).bind fun middle => run step middle second := by
  induction first generalizing state with
  | nil => rfl
  | cons input rest inductionHypothesis =>
      rw [List.cons_append, run_cons, run_cons, Option.bind_assoc]
      cases step state input with
      | none => rfl
      | some next => exact inductionHypothesis next

/-- What every allowed step keeps, an allowed run keeps. -/
theorem Guarded.invariant {allowed : σ → ι → Prop} {property : σ → Prop}
    (keeps : ∀ state input next, property state → allowed state input →
      step state input = some next → property next)
    {state final : σ} {inputs : List ι}
    (guarded : Guarded step allowed state inputs) (holds : property state)
    (reached : run step state inputs = some final) : property final := by
  induction inputs generalizing state with
  | nil =>
      cases reached
      exact holds
  | cons input rest inductionHypothesis =>
      obtain ⟨next, stepped, reachedLater⟩ := run_cons_eq_some reached
      obtain ⟨allowedHere, allowedLater⟩ := guarded next stepped
      exact inductionHypothesis allowedLater
        (keeps state input next holds allowedHere stepped) reachedLater

/-- A condition on the inputs alone. -/
theorem guarded_of_forall {allowed : ι → Prop} {state : σ} {inputs : List ι}
    (each : ∀ input ∈ inputs, allowed input) :
    Guarded step (fun _ input => allowed input) state inputs := by
  induction inputs generalizing state with
  | nil => trivial
  | cons input rest inductionHypothesis =>
      obtain ⟨here, later⟩ := List.forall_mem_cons.mp each
      intro next _
      exact ⟨here, inductionHypothesis later⟩

/-- The condition holds of each step along the run. -/
theorem Guarded.at {allowed : σ → ι → Prop} {state middle : σ} {early : List ι} {input : ι}
    {rest : List ι} (guarded : Guarded step allowed state (early ++ input :: rest))
    (reached : run step state early = some middle) (defined : (step middle input).isSome) :
    allowed middle input := by
  induction early generalizing state with
  | nil =>
      cases reached
      obtain ⟨next, stepped⟩ := Option.isSome_iff_exists.mp defined
      exact (guarded next stepped).1
  | cons first later inductionHypothesis =>
      obtain ⟨next, stepped, reachedLater⟩ := run_cons_eq_some reached
      exact inductionHypothesis (guarded next stepped).2 reachedLater

/-- Side conditions that agree in every state an invariant allows guard the same
runs. -/
theorem guarded_congr_of_invariant {allowed required : σ → ι → Prop} {invariant : σ → Prop}
    (keeps : ∀ state input next, invariant state →
      step state input = some next → invariant next)
    (agree : ∀ state input, invariant state → (allowed state input ↔ required state input))
    {state : σ} {inputs : List ι} (holds : invariant state) :
    Guarded step allowed state inputs ↔ Guarded step required state inputs := by
  induction inputs generalizing state with
  | nil => exact Iff.rfl
  | cons input rest inductionHypothesis =>
      apply forall_congr'
      intro next
      apply imp_congr_right
      intro stepped
      apply and_congr (agree state input holds)
      exact inductionHypothesis (keeps state input next holds stepped)

/-- What an allowed step starts from, with the invariant of allowed runs, gives another
side condition. -/
theorem Guarded.imp_of_invariant {allowed required : σ → ι → Prop} {invariant : σ → Prop}
    (keeps : ∀ state input next, invariant state → allowed state input →
      step state input = some next → invariant next)
    (sound : ∀ state input, invariant state → allowed state input → required state input)
    {state : σ} {inputs : List ι} (guarded : Guarded step allowed state inputs)
    (holds : invariant state) : Guarded step required state inputs := by
  induction inputs generalizing state with
  | nil => trivial
  | cons input rest inductionHypothesis =>
      intro next stepped
      obtain ⟨allowedHere, allowedLater⟩ := guarded next stepped
      constructor
      · exact sound state input holds allowedHere
      · apply inductionHypothesis allowedLater
        exact keeps state input next holds allowedHere stepped

theorem Always.start {property : σ → Prop} {state : σ} {inputs : List ι}
    (always : Always step property state inputs) : property state := by
  cases inputs with
  | nil => exact always
  | cons => exact always.1

theorem Always.final {property : σ → Prop} {state final : σ} {inputs : List ι}
    (always : Always step property state inputs)
    (reached : run step state inputs = some final) : property final := by
  induction inputs generalizing state with
  | nil =>
      cases reached
      exact always
  | cons input rest inductionHypothesis =>
      obtain ⟨next, stepped, reachedLater⟩ := run_cons_eq_some reached
      exact inductionHypothesis (always.2 next stepped) reachedLater

/-- What every step keeps holds in every state of a run. -/
theorem always_of_invariant {invariant property : σ → Prop}
    (sound : ∀ state, invariant state → property state)
    (keeps : ∀ state input next, invariant state →
      step state input = some next → invariant next)
    {state : σ} {inputs : List ι} (holds : invariant state) :
    Always step property state inputs := by
  induction inputs generalizing state with
  | nil => exact sound state holds
  | cons input rest inductionHypothesis =>
      refine ⟨sound state holds, ?_⟩
      intro next stepped
      exact inductionHypothesis (keeps state input next holds stepped)

/-- What every allowed step keeps holds in every state of an allowed run. -/
theorem Guarded.always {allowed : σ → ι → Prop} {invariant property : σ → Prop}
    (sound : ∀ state, invariant state → property state)
    (keeps : ∀ state input next, invariant state → allowed state input →
      step state input = some next → invariant next)
    {state : σ} {inputs : List ι} (guarded : Guarded step allowed state inputs)
    (holds : invariant state) : Always step property state inputs := by
  induction inputs generalizing state with
  | nil => exact sound state holds
  | cons input rest inductionHypothesis =>
      refine ⟨sound state holds, ?_⟩
      intro next stepped
      obtain ⟨allowedHere, allowedLater⟩ := guarded next stepped
      exact inductionHypothesis allowedLater
        (keeps state input next holds allowedHere stepped)

/-- A condition that a step needs and that is enough for it: a property holds in
every state of a run exactly when every step meets the condition. -/
theorem always_iff_guarded {allowed : σ → ι → Prop} {invariant property : σ → Prop}
    (sound : ∀ state, invariant state → property state)
    (keeps : ∀ state input next, invariant state → allowed state input →
      step state input = some next → invariant next)
    (needs : ∀ state input next, invariant state → property next →
      step state input = some next → allowed state input)
    {state : σ} {inputs : List ι} (holds : invariant state) :
    Always step property state inputs ↔ Guarded step allowed state inputs := by
  refine ⟨fun always => ?_, fun guarded => guarded.always sound keeps holds⟩
  induction inputs generalizing state with
  | nil => trivial
  | cons input rest inductionHypothesis =>
      intro next stepped
      have later := always.2 next stepped
      have allowedHere := needs state input next holds later.start stepped
      exact ⟨allowedHere,
        inductionHypothesis (keeps state input next holds allowedHere stepped) later⟩

theorem Meets.imp {required weaker : σ → ι → Prop}
    (weaken : ∀ state input, required state input → weaker state input) {state : σ}
    {inputs : List ι} (meets : Meets step required state inputs) :
    Meets step weaker state inputs := by
  induction inputs generalizing state with
  | nil => trivial
  | cons input rest inductionHypothesis =>
      exact ⟨weaken state input meets.1, fun next stepped =>
        inductionHypothesis (meets.2 next stepped)⟩

/-- What every step that meets the condition keeps, a run of such steps keeps. -/
theorem Meets.invariant {required : σ → ι → Prop} {property : σ → Prop}
    (keeps : ∀ state input next, property state → required state input →
      step state input = some next → property next)
    {state final : σ} {inputs : List ι} (meets : Meets step required state inputs)
    (holds : property state) (reached : run step state inputs = some final) :
    property final := by
  induction inputs generalizing state with
  | nil =>
      cases reached
      exact holds
  | cons input rest inductionHypothesis =>
      obtain ⟨next, stepped, reachedLater⟩ := run_cons_eq_some reached
      obtain ⟨here, later⟩ := meets
      exact inductionHypothesis (later next stepped) (keeps state input next holds here stepped)
        reachedLater

/-- An invariant that speaks of the number of steps made. -/
theorem Meets.counted {required : σ → ι → Prop} {property : Nat → σ → Prop}
    (keeps : ∀ count state input next, property count state → required state input →
      step state input = some next → property (count + 1) next)
    {state final : σ} {inputs : List ι} {count : Nat} (meets : Meets step required state inputs)
    (holds : property count state) (reached : run step state inputs = some final) :
    property (count + inputs.length) final := by
  induction inputs generalizing state count with
  | nil =>
      cases reached
      exact holds
  | cons input rest inductionHypothesis =>
      obtain ⟨next, stepped, reachedLater⟩ := run_cons_eq_some reached
      obtain ⟨here, later⟩ := meets
      have shifted : count + (input :: rest).length = count + 1 + rest.length := by
        rw [List.length_cons, Nat.add_comm rest.length 1, Nat.add_assoc]
      rw [shifted]
      exact inductionHypothesis (later next stepped)
        (keeps count state input next holds here stepped) reachedLater

/-- A machine that can go on until it is done, and not for ever, comes to a state in which it
is done. -/
theorem exists_meets_done {required : σ → ι → Prop} {property : Nat → σ → Prop}
    {done : σ → Prop} {limit : Nat}
    (bounded : ∀ count state, property count state → count ≤ limit)
    (progress : ∀ count state, property count state → done state ∨
      ∃ input next, required state input ∧ step state input = some next ∧
        property (count + 1) next)
    {state : σ} {count : Nat} (holds : property count state) :
    ∃ inputs final, Meets step required state inputs ∧ run step state inputs = some final ∧
      done final := by
  induction left : limit - count generalizing state count with
  | zero =>
      rcases progress count state holds with here | ⟨_, _, _, _, more⟩
      · exact ⟨[], state, trivial, rfl, here⟩
      · have most := bounded (count + 1) _ more
        omega
  | succ left inductionHypothesis =>
      rcases progress count state holds with here | ⟨input, next, meets, stepped, more⟩
      · exact ⟨[], state, trivial, rfl, here⟩
      · obtain ⟨inputs, final, later, reached, ended⟩ := inductionHypothesis more (by omega)
        refine ⟨input :: inputs, final, ⟨meets, ?_⟩, ?_, ended⟩
        · intro other again
          rw [stepped] at again
          cases again
          exact later
        · rw [run_cons, stepped]
          exact reached

/-- What every step keeps, a run keeps. -/
theorem run_invariant {property : σ → Prop}
    (keeps : ∀ state input next, property state →
      step state input = some next → property next)
    {state final : σ} {inputs : List ι} (holds : property state)
    (reached : run step state inputs = some final) : property final := by
  induction inputs generalizing state with
  | nil =>
      cases reached
      exact holds
  | cons input rest inductionHypothesis =>
      obtain ⟨next, stepped, reachedLater⟩ := run_cons_eq_some reached
      exact inductionHypothesis (keeps state input next holds stepped) reachedLater

end Rules

end Acud.Lib
