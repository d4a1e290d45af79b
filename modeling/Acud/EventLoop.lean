/-
Module: Acud.EventLoop
Purpose: The event loop with its callbacks as a machine that takes calls and turns.
Trusted boundary: none
Main exports:
  LoopOp, callLoop, collectReady, LoopSys, LoopInput, loopStep
-/
import Acud.Lib.Machine
import Acud.Loop

namespace Acud

/-!
`loop_wait` asks `select`, copies what is ready into a list of its own and then takes the
list in turns: it looks the descriptor up again and runs its callback, which may call
`loop_add`, `loop_mod` and `loop_remove` for any descriptor.

The machine takes one call or one turn at a time.  Which calls a callback makes is up to the
run, and so is what `select` reports; nobody else runs between two turns, and callbacks do not
wait themselves.

Two records are read by nothing: the calls so far, and the turns so far with what they
came to.  A registration carries the number of the call that made it.

[SRC src/acud/loop.h, src/acud/loop.c]
-/

/-! ### Calls -/

/-- A callback, and the position among all calls of the one that registered it. -/
structure Registration (κ : Type) where
  cb : κ
  madeBy : Nat
deriving Repr, DecidableEq

inductive LoopOp (κ : Type) where
  | add (fd : Int) (events : LoopInterest) (cb : Option κ)
  | mod (fd : Int) (events : LoopInterest)
  | remove (fd : Int)
deriving Repr, DecidableEq

variable {κ : Type}

/-- The entry that `find_entry` finds. -/
def AcuLoop.entry (loop : AcuLoop κ) (fd : Nat) : Option (LoopEntry κ) :=
  loop.ent.find? fun entry => entry.fd = fd

/-- The call with this number.  One that is refused changes nothing: no callback, a negative
descriptor, or what the functions of the table refuse. -/
def callLoop (loop : AcuLoop (Registration κ)) (number : Nat) :
    LoopOp κ → AcuLoop (Registration κ)
  | .add (.ofNat fd) events (some cb) =>
      (loopAdd loop fd events { cb := cb, madeBy := number }).getD loop
  | .add _ _ _ => loop
  | .mod (.ofNat fd) events => (loopMod loop fd events).getD loop
  | .mod (.negSucc _) _ => loop
  | .remove (.ofNat fd) => loopRemove loop fd
  | .remove (.negSucc _) => loop

/-! ### Rounds -/

/-- One `select` that reported something. -/
structure LoopRound where
  /-- How many rounds there were before. -/
  number : Nat
  /-- How many calls had been made when `select` returned. -/
  selected : Nat
  readable : List Nat
  writable : List Nat
deriving Repr, Inhabited, DecidableEq

/-- Of the events somebody waits for, those that `select` reported. -/
def LoopRound.report (round : LoopRound) (fd : Nat) (events : LoopInterest) : LoopInterest :=
  { read := events.read && decide (fd ∈ round.readable)
    write := events.write && decide (fd ∈ round.writable) }

def LoopInterest.any (events : LoopInterest) : Bool :=
  events.read || events.write

/-- The list `ready`, in the order of the table. -/
def collectReady (loop : AcuLoop κ) (round : LoopRound) : List (Nat × LoopInterest) :=
  (loop.ent.map fun entry => (entry.fd, round.report entry.fd entry.events)).filter
    fun ready => ready.2.any

/-- Where the program is: outside of `loop_wait`, between two turns, or in the callback of
one; the list is what is still to come. -/
inductive LoopPlace where
  | outside
  | turns (round : LoopRound) (ready : List (Nat × LoopInterest))
  | callback (round : LoopRound) (ready : List (Nat × LoopInterest))
deriving Repr, Inhabited, DecidableEq

/-- A turn that has been taken. -/
structure LoopTurn (κ : Type) where
  round : LoopRound
  fd : Nat
  events : LoopInterest
  /-- How many calls had been made when the turn came. -/
  reached : Nat
  /-- The registration whose callback ran; none if there was no entry any more. -/
  called : Option (Registration κ)
deriving Repr, DecidableEq

structure LoopSys (κ : Type) where
  loop : AcuLoop (Registration κ)
  place : LoopPlace
  rounds : Nat
  calls : List (LoopOp κ)
  turns : List (LoopTurn κ)
deriving Repr, DecidableEq

def LoopSys.initial : LoopSys κ :=
  { loop := loopCreate
    place := .outside
    rounds := 0
    calls := []
    turns := [] }

inductive LoopInput (κ : Type) where
  | call (op : LoopOp κ)
  /-- `select` returns `rc` and the two sets. -/
  | wait (rc : Int) (readable writable : List Nat)
  | turn
  | callbackReturns
deriving Repr, DecidableEq

/-- The rest of `loop_wait` behind `select`; without entries, and unless something is ready, it
returns at once. -/
def LoopSys.wait (sys : LoopSys κ) (rc : Int) (readable writable : List Nat) : LoopSys κ :=
  if sys.loop.ent.isEmpty ∨ rc ≤ 0 then sys
  else
    let round : LoopRound :=
      { number := sys.rounds
        selected := sys.calls.length
        readable := readable
        writable := writable }
    { sys with
      place := .turns round (collectReady sys.loop round)
      rounds := sys.rounds + 1 }

/-- The turn of `fd`: its callback runs if an entry is found. -/
def LoopSys.takeTurn (sys : LoopSys κ) (round : LoopRound) (fd : Nat) (events : LoopInterest)
    (rest : List (Nat × LoopInterest)) : LoopSys κ :=
  let called := (sys.loop.entry fd).map LoopEntry.cb
  let turn : LoopTurn κ :=
    { round := round
      fd := fd
      events := events
      reached := sys.calls.length
      called := called }
  { sys with
    place := if called.isSome then .callback round rest else .turns round rest
    turns := sys.turns ++ [turn] }

def loopStep (sys : LoopSys κ) : LoopInput κ → Option (LoopSys κ)
  | .call op =>
      match sys.place with
      | .turns _ _ => none
      | _ =>
          some
            { sys with
              loop := callLoop sys.loop sys.calls.length op
              calls := sys.calls ++ [op] }
  | .wait rc readable writable =>
      match sys.place with
      | .outside => some (sys.wait rc readable writable)
      | _ => none
  | .turn =>
      match sys.place with
      | .turns _ [] => some { sys with place := .outside }
      | .turns round ((fd, events) :: rest) => some (sys.takeTurn round fd events rest)
      | _ => none
  | .callbackReturns =>
      match sys.place with
      | .callback round rest => some { sys with place := .turns round rest }
      | _ => none

end Acud
