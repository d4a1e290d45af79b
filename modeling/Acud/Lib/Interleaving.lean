/-
Module: Acud.Lib.Interleaving
Purpose: Processes that share a state and take turns, and the proof rule for them.
Trusted boundary: none
Main exports:
  Pool, Pool.turn, Pool.spawn, Pool.others, Outline, Outline.Holds,
  Outline.Holds.turn, Outline.Holds.spawn, Outline.Holds.disturb
-/
import Mathlib.Data.List.Pairwise
import Mathlib.Data.List.Perm.Basic
import Mathlib.Tactic.Common

namespace Acud.Lib

/-!
A pool is a shared state and the processes that work on it.  In one turn one
process takes one atomic step; which one is up to the schedule, and how the
step comes out is up to the environment.

The proof rule is the one of interference freedom.  A proof outline says what
always holds of the shared state, what holds where a process stands, and which
places two processes may be at together.  It survives a turn when

* the process that takes the turn establishes the invariant and its own
  assertion again;
* its step does not break the assertion of a process it may stand beside;
* it does not come to a place that another process excludes.
-/

variable {ω π ο : Type}

/-- A shared state and the processes that use it. -/
structure Pool (ω π : Type) where
  world : ω
  procs : List π
deriving DecidableEq

namespace Pool

/-- The process with this index takes one step. -/
def turn (exec : ω → π → ο → ω × π) (pool : Pool ω π) (index : Nat) (outcome : ο) :
    Option (Pool ω π) :=
  pool.procs[index]?.map fun proc =>
    let result := exec pool.world proc outcome
    { world := result.1
      procs := pool.procs.set index result.2 }

/-- A new process comes last. -/
def spawn (pool : Pool ω π) (proc : π) : Pool ω π :=
  { pool with procs := pool.procs ++ [proc] }

/-- The processes beside the one with this index. -/
def others (pool : Pool ω π) (index : Nat) : List π :=
  pool.procs.eraseIdx index

theorem procs_perm {pool : Pool ω π} {index : Nat} {proc : π}
    (at_ : pool.procs[index]? = some proc) :
    pool.procs.Perm (proc :: pool.others index) := by
  obtain ⟨inside, rfl⟩ := List.getElem?_eq_some_iff.mp at_
  exact (List.getElem_cons_eraseIdx_perm inside).symm

/-- What a turn does to the pool, as a whole. -/
theorem turn_eq_some {exec : ω → π → ο → ω × π} {pool next : Pool ω π} {index : Nat}
    {outcome : ο} (turned : pool.turn exec index outcome = some next) :
    ∃ proc, pool.procs[index]? = some proc ∧
      next.world = (exec pool.world proc outcome).1 ∧
      next.procs.Perm ((exec pool.world proc outcome).2 :: pool.others index) := by
  obtain ⟨proc, at_, rfl⟩ := Option.map_eq_some_iff.mp turned
  obtain ⟨inside, _⟩ := List.getElem?_eq_some_iff.mp at_
  exact ⟨proc, at_, rfl, List.set_perm_cons_eraseIdx inside _⟩

end Pool

/-- What holds of the shared state, what holds at a process's place, and which
places two processes may be at together. -/
structure Outline (ω π : Type) where
  invariant : ω → Prop
  assertion : ω → π → Prop
  compatible : π → π → Prop
  symmetric : ∀ first second, compatible first second → compatible second first

namespace Outline

variable {outline : Outline ω π}

/-- The outline holds of a pool. -/
structure Holds (outline : Outline ω π) (pool : Pool ω π) : Prop where
  invariant : outline.invariant pool.world
  assertions : ∀ proc ∈ pool.procs, outline.assertion pool.world proc
  compatible : pool.procs.Pairwise outline.compatible

theorem pairwise_perm {first second : List π} (perm : first.Perm second) :
    first.Pairwise outline.compatible ↔ second.Pairwise outline.compatible :=
  perm.pairwise_iff fun together => outline.symmetric _ _ together

/-- What holds of a process holds beside the others. -/
theorem Holds.split {pool : Pool ω π} (holds : outline.Holds pool) {index : Nat} {proc : π}
    (at_ : pool.procs[index]? = some proc) :
    outline.assertion pool.world proc ∧
      ∀ other ∈ pool.others index,
        outline.assertion pool.world other ∧ outline.compatible proc other := by
  have perm := Pool.procs_perm at_
  have pairwise := (pairwise_perm perm).mp holds.compatible
  constructor
  · exact holds.assertions proc (perm.mem_iff.mpr List.mem_cons_self)
  · intro other member
    constructor
    · exact holds.assertions other (perm.mem_iff.mpr (List.mem_cons_of_mem _ member))
    · exact List.rel_of_pairwise_cons pairwise member

/-- One turn. -/
theorem Holds.turn {exec : ω → π → ο → ω × π} {pool next : Pool ω π} {index : Nat}
    {outcome : ο} (holds : outline.Holds pool)
    (turned : pool.turn exec index outcome = some next)
    (own : ∀ proc, outline.assertion pool.world proc →
      outline.invariant (exec pool.world proc outcome).1 ∧
        outline.assertion (exec pool.world proc outcome).1 (exec pool.world proc outcome).2)
    (beside : ∀ proc other, outline.assertion pool.world proc →
      outline.assertion pool.world other → outline.compatible proc other →
      outline.assertion (exec pool.world proc outcome).1 other)
    (entered : ∀ proc, pool.procs[index]? = some proc →
      ∀ other ∈ pool.others index, outline.compatible proc other →
        outline.compatible (exec pool.world proc outcome).2 other) :
    outline.Holds next := by
  obtain ⟨proc, at_, world, perm⟩ := Pool.turn_eq_some turned
  obtain ⟨ownBefore, othersBefore⟩ := holds.split at_
  obtain ⟨invariantAfter, ownAfter⟩ := own proc ownBefore
  rw [← world] at invariantAfter ownAfter
  refine ⟨invariantAfter, ?_, ?_⟩
  · intro other member
    rcases List.mem_cons.mp (perm.mem_iff.mp member) with rfl | beside_
    · exact ownAfter
    · obtain ⟨otherBefore, together⟩ := othersBefore other beside_
      rw [world]
      exact beside proc other ownBefore otherBefore together
  · apply (pairwise_perm perm).mpr
    have before := (pairwise_perm (Pool.procs_perm at_)).mp holds.compatible
    obtain ⟨_, others⟩ := List.pairwise_cons.mp before
    apply List.pairwise_cons.mpr
    refine ⟨?_, others⟩
    intro other member
    exact entered proc at_ other member (othersBefore other member).2

/-- The environment changes the shared state and keeps every assertion. -/
theorem Holds.disturb {pool : Pool ω π} (holds : outline.Holds pool) {world : ω}
    (invariant : outline.invariant world)
    (kept : ∀ proc, outline.assertion pool.world proc → outline.assertion world proc) :
    outline.Holds { pool with world := world } :=
  ⟨invariant, fun proc member => kept proc (holds.assertions proc member), holds.compatible⟩

/-- One process, alone. -/
theorem holds_single {world : ω} {proc : π} (invariant : outline.invariant world)
    (starts : outline.assertion world proc) :
    outline.Holds { world := world, procs := [proc] } := by
  refine ⟨invariant, ?_, List.pairwise_singleton _ proc⟩
  intro other member
  rw [List.mem_singleton.mp member]
  exact starts

/-- A process that starts at a place compatible with every other. -/
theorem Holds.spawn {pool : Pool ω π} (holds : outline.Holds pool) {proc : π}
    (starts : outline.assertion pool.world proc)
    (free : ∀ other, outline.compatible proc other) : outline.Holds (pool.spawn proc) := by
  have perm : (pool.procs ++ [proc]).Perm (proc :: pool.procs) :=
    List.perm_append_singleton proc pool.procs
  refine ⟨holds.invariant, ?_, ?_⟩
  · intro other member
    rcases List.mem_cons.mp (perm.mem_iff.mp member) with rfl | old
    · exact starts
    · exact holds.assertions other old
  · apply (pairwise_perm perm).mpr
    exact List.pairwise_cons.mpr ⟨fun other _ => free other, holds.compatible⟩

end Outline

end Acud.Lib
