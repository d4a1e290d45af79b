/-
Module: Acud.Loop
Purpose: The table of descriptors that the event loop watches.
Trusted boundary: none
Main exports:
  LoopInterest, LoopEntry, AcuLoop, loopAdd, loopMod, loopRemove, AcuLoop.interest
-/
import Mathlib.Data.List.Basic
import Mathlib.Tactic.Common

namespace Acud

/-!
There is one `select` in the daemon.  Whoever owns a descriptor registers it
with the events it waits for and with the callback to run.

Descriptors are natural numbers: the source's `-1` is "no descriptor" at the
place that stores one, and never reaches these functions.  The callback type is
a parameter; a callback here stands for the function and its `user` pointer.

[SRC src/acud/loop.h, src/acud/loop.c]
-/

def acuLoopMaxFds : Nat := 32
def fdSetSize : Nat := 1024

/-- The bits `ACU_LOOP_READ` and `ACU_LOOP_WRITE`. -/
structure LoopInterest where
  read : Bool
  write : Bool
deriving Repr, Inhabited, DecidableEq

/-- Waiting for input only, as every new registration of the daemon does. -/
def LoopInterest.readOnly : LoopInterest :=
  { read := true
    write := false }

structure LoopEntry (κ : Type) where
  fd : Nat
  events : LoopInterest
  cb : κ
deriving Repr, DecidableEq

/-- The registrations in table order. -/
structure AcuLoop (κ : Type) where
  ent : List (LoopEntry κ)
deriving Repr, DecidableEq

variable {κ : Type}

def loopCreate : AcuLoop κ :=
  { ent := [] }

/-- Position of the first entry for `fd`. -/
def findEntry (loop : AcuLoop κ) (fd : Nat) : Option Nat :=
  loop.ent.findIdx? fun entry => entry.fd = fd

/-- Register `fd`, or overwrite its registration; `none` is the source's `-1`. -/
def loopAdd (loop : AcuLoop κ) (fd : Nat) (events : LoopInterest) (cb : κ) :
    Option (AcuLoop κ) :=
  let entry : LoopEntry κ := { fd := fd, events := events, cb := cb }
  if fd ≥ fdSetSize then none
  else
    match findEntry loop fd with
    | some position => some { ent := loop.ent.set position entry }
    | none =>
        if loop.ent.length ≥ acuLoopMaxFds then none
        else some { ent := loop.ent ++ [entry] }

/-- Change only the events of a registered descriptor. -/
def loopMod (loop : AcuLoop κ) (fd : Nat) (events : LoopInterest) :
    Option (AcuLoop κ) :=
  match findEntry loop fd with
  | none => none
  | some position =>
      some { ent := loop.ent.modify position fun entry =>
        { entry with events := events } }

/-- Unregister `fd`: the last entry takes its place. -/
def loopRemove (loop : AcuLoop κ) (fd : Nat) : AcuLoop κ :=
  match findEntry loop fd, loop.ent.getLast? with
  | some position, some last => { ent := (loop.ent.set position last).dropLast }
  | _, _ => loop

/-- What the loop waits for on `fd`. -/
def AcuLoop.interest (loop : AcuLoop κ) (fd : Nat) : Option LoopInterest :=
  (loop.ent.find? fun entry => entry.fd = fd).map LoopEntry.events

private theorem find?_modify_findIdx? {entries : List (LoopEntry κ)}
    {wanted : LoopEntry κ → Bool} {position : Nat}
    (found : entries.findIdx? wanted = some position)
    (change : LoopEntry κ → LoopEntry κ)
    (stays : ∀ entry, wanted entry = true → wanted (change entry) = true) :
    (entries.modify position change).find? wanted =
      (entries.find? wanted).map change := by
  induction entries generalizing position with
  | nil => simp at found
  | cons head tail inductionHypothesis =>
      rw [List.findIdx?_cons] at found
      cases hit : wanted head with
      | true =>
          rw [hit, if_pos rfl] at found
          cases found
          simp [hit, stays head hit]
      | false =>
          rw [hit, if_neg Bool.false_ne_true] at found
          obtain ⟨later, foundLater, rfl⟩ := Option.map_eq_some_iff.mp found
          simp [hit, inductionHypothesis foundLater]

private theorem find?_set_findIdx? {entries : List (LoopEntry κ)}
    {wanted : LoopEntry κ → Bool} {position : Nat}
    (found : entries.findIdx? wanted = some position)
    {entry : LoopEntry κ} (fits : wanted entry = true) :
    (entries.set position entry).find? wanted = some entry := by
  induction entries generalizing position with
  | nil => simp at found
  | cons head tail inductionHypothesis =>
      rw [List.findIdx?_cons] at found
      cases hit : wanted head with
      | true =>
          rw [hit, if_pos rfl] at found
          cases found
          simp [fits]
      | false =>
          rw [hit, if_neg Bool.false_ne_true] at found
          obtain ⟨later, foundLater, rfl⟩ := Option.map_eq_some_iff.mp found
          simp [hit, inductionHypothesis foundLater]

/-- A registration that succeeds has the interest asked for. -/
theorem interest_loopAdd {loop added : AcuLoop κ} {fd : Nat}
    {events : LoopInterest} {cb : κ}
    (done : loopAdd loop fd events cb = some added) :
    added.interest fd = some events := by
  unfold loopAdd at done
  simp only at done
  split at done
  next => cases done
  next =>
    split at done
    next position found =>
      cases done
      unfold AcuLoop.interest
      rw [find?_set_findIdx? found (by simp)]
      rfl
    next missing =>
      split at done
      next => cases done
      next =>
        cases done
        have absent : loop.ent.find? (fun entry => decide (entry.fd = fd)) = none := by
          rw [List.find?_eq_none]
          intro entry member
          simpa using List.findIdx?_eq_none_iff.mp missing entry member
        simp [AcuLoop.interest, List.find?_append, absent]

/-- `loop_mod` sets the interest of its descriptor. -/
theorem interest_loopMod {loop changed : AcuLoop κ} {fd : Nat}
    {events : LoopInterest} (done : loopMod loop fd events = some changed) :
    changed.interest fd = some events := by
  unfold loopMod at done
  split at done
  next => cases done
  next position found =>
    cases done
    have same := find?_modify_findIdx? found
      (fun entry => { entry with events := events }) (fun entry hit => hit)
    unfold AcuLoop.interest
    rw [same]
    cases present : loop.ent.find? (fun entry => decide (entry.fd = fd)) with
    | some entry => rfl
    | none =>
        have absent := List.find?_eq_none.mp present
        rw [findEntry, List.findIdx?_eq_none_iff.mpr (by simpa using absent)] at found
        cases found

end Acud
