/-
Module: Acud.Proofs.LoopDispatch
Purpose: Whom the turns of the event loop call.
Trusted boundary: none
Main exports:
  registrationOf, Readded, existed_iff, LoopProperty, loop_calls_existing_iff,
  turnAllowed_of_addAllowed
-/
import Acud.Proofs.LoopRegistry

namespace Acud

open Lib

/-!
What a descriptor is registered for is a matter of the calls so far.  A turn finds the entry
of its descriptor as the calls have left it, so it calls whoever was there when `select` returned
unless a call of the round has registered the number again.

`turnAllowed_of_addAllowed` is for whoever writes callbacks: the condition on turns follows
from one on the calls a callback makes.
-/

variable {κ : Type}

/-! ### Registrations over a history of calls -/

def registrationOf (map : LoopMap κ) (fd : Nat) : Option (Registration κ) :=
  (map.lookup fd).map Prod.snd

/-- The call registers the descriptor. -/
def AddsTo (map : LoopMap κ) (fd : Nat) (op : LoopOp κ) : Prop :=
  Admits map fd ∧ ∃ events cb, op = .add (.ofNat fd) events (some cb)

/-- A call from number `since` on has registered the descriptor, and none has removed it
again. -/
def Readded (calls : List (LoopOp κ)) (since fd : Nat) : Prop :=
  ∃ index, since ≤ index ∧
    (∃ op, calls[index]? = some op ∧ AddsTo (described (calls.take index)) fd op) ∧
    ∀ later, index < later → calls[later]? ≠ some (.remove (.ofNat fd))

theorem registrationOf_add {map : LoopMap κ} {fd : Nat} {op : LoopOp κ}
    (adds : AddsTo map fd op) (number : Nat) :
    ∃ registration, registrationOf (describe map number op) fd = some registration ∧
      registration.madeBy = number := by
  obtain ⟨admits, events, cb, rfl⟩ := adds
  refine ⟨{ cb := cb, madeBy := number }, ?_, rfl⟩
  simp only [registrationOf, describe, if_pos admits, Finmap.lookup_insert, Option.map_some]

theorem registrationOf_remove (map : LoopMap κ) (fd number : Nat) :
    registrationOf (describe map number (.remove (.ofNat fd))) fd = none := by
  simp only [registrationOf, describe, Finmap.lookup_erase, Option.map_none]

/-- Every other call leaves the registration of the descriptor alone. -/
theorem registrationOf_other {map : LoopMap κ} {fd : Nat} {op : LoopOp κ}
    (adds : ¬ AddsTo map fd op) (removes : op ≠ .remove (.ofNat fd)) (number : Nat) :
    registrationOf (describe map number op) fd = registrationOf map fd := by
  unfold describe
  split
  next other events cb =>
    split
    next admits =>
      have differs : fd ≠ other := by
        rintro rfl
        exact adds ⟨admits, events, cb, rfl⟩
      rw [registrationOf, Finmap.lookup_insert_of_ne _ differs, registrationOf]
    next => rfl
  next => rfl
  next other events =>
    split
    next old registration found =>
      by_cases same : fd = other
      · rw [registrationOf, registrationOf, same, Finmap.lookup_insert, found]
        rfl
      · rw [registrationOf, Finmap.lookup_insert_of_ne _ same, registrationOf]
    next => rfl
  next => rfl
  next other =>
    have differs : fd ≠ other := by
      rintro rfl
      exact removes rfl
    rw [registrationOf, Finmap.lookup_erase_ne differs, registrationOf]
  next => rfl

/-- A registration was made by an earlier call. -/
theorem madeBy_lt {calls : List (LoopOp κ)} {fd : Nat} {registration : Registration κ}
    (found : registrationOf (described calls) fd = some registration) :
    registration.madeBy < calls.length := by
  induction calls using List.reverseRecOn with
  | nil =>
      rw [registrationOf, described_nil, Finmap.lookup_empty] at found
      cases found
  | append_singleton calls op ih =>
      rw [described_concat] at found
      rw [List.length_append, List.length_singleton]
      by_cases adds : AddsTo (described calls) fd op
      · obtain ⟨made, stored, number⟩ := registrationOf_add adds calls.length
        rw [stored] at found
        cases found
        omega
      · by_cases removes : op = .remove (.ofNat fd)
        · rw [removes, registrationOf_remove] at found
          cases found
        · rw [registrationOf_other adds removes] at found
          exact Nat.lt_succ_of_lt (ih found)

theorem take_concat_of_le {calls : List (LoopOp κ)} (op : LoopOp κ) {count : Nat}
    (within : count ≤ calls.length) : (calls ++ [op]).take count = calls.take count :=
  List.take_append_of_le_length within

theorem getElem?_concat_eq_some {α : Type} {items : List α} {item found : α} {index : Nat} :
    (items ++ [item])[index]? = some found ↔
      items[index]? = some found ∨ (index = items.length ∧ item = found) := by
  rcases Nat.lt_trichotomy index items.length with inside | rfl | outside
  · rw [List.getElem?_append_left inside]
    exact ⟨.inl, fun place => place.resolve_right fun last => Nat.ne_of_lt inside last.1⟩
  · rw [List.getElem?_concat_length, List.getElem?_eq_none (Nat.le_refl _)]
    simp
  · have long : (items ++ [item]).length ≤ index := by
      rw [List.length_append, List.length_singleton]
      exact outside
    rw [List.getElem?_eq_none long, List.getElem?_eq_none (Nat.le_of_lt outside)]
    simp [Nat.ne_of_gt outside]

theorem readded_concat {calls : List (LoopOp κ)} {op : LoopOp κ} {since fd : Nat} :
    Readded (calls ++ [op]) since fd ↔
      (since ≤ calls.length ∧ AddsTo (described calls) fd op) ∨
        (Readded calls since fd ∧ op ≠ .remove (.ofNat fd)) := by
  have whole : (calls ++ [op]).take calls.length = calls := List.take_left
  constructor
  · rintro ⟨index, from_since, ⟨adding, stored, adds⟩, kept⟩
    rcases getElem?_concat_eq_some.mp stored with stored | ⟨rfl, rfl⟩
    · right
      have early : index < calls.length := (List.getElem?_eq_some_iff.mp stored).1
      rw [take_concat_of_le op (Nat.le_of_lt early)] at adds
      refine ⟨⟨index, from_since, ⟨adding, stored, adds⟩, fun later behind same => ?_⟩,
        fun same => ?_⟩
      · exact kept later behind (getElem?_concat_eq_some.mpr (.inl same))
      · exact kept calls.length early (getElem?_concat_eq_some.mpr (.inr ⟨rfl, same⟩))
    · left
      rw [whole] at adds
      exact ⟨from_since, adds⟩
  · rintro (⟨from_since, adds⟩ | ⟨⟨index, from_since, ⟨adding, stored, adds⟩, kept⟩, stays⟩)
    · refine ⟨calls.length, from_since, ⟨op, List.getElem?_concat_length, ?_⟩, ?_⟩
      · rw [whole]
        exact adds
      · intro later behind same
        rcases getElem?_concat_eq_some.mp same with inside | ⟨here, _⟩
        · have early := (List.getElem?_eq_some_iff.mp inside).1
          omega
        · omega
    · have early : index < calls.length := (List.getElem?_eq_some_iff.mp stored).1
      refine ⟨index, from_since,
        ⟨adding, getElem?_concat_eq_some.mpr (.inl stored), ?_⟩, fun later behind same => ?_⟩
      · rw [take_concat_of_le op (Nat.le_of_lt early)]
        exact adds
      · rcases getElem?_concat_eq_some.mp same with inside | ⟨_, last⟩
        · exact kept later behind inside
        · exact stays last

/-- Who is registered after more calls: a new registration if one of them registered the
descriptor again, and otherwise nobody or the old one. -/
theorem registrationOf_append (early late : List (LoopOp κ)) (fd : Nat) :
    (Readded (early ++ late) early.length fd →
      ∃ registration, registrationOf (described (early ++ late)) fd = some registration ∧
        early.length ≤ registration.madeBy) ∧
    (¬ Readded (early ++ late) early.length fd →
      ∀ registration, registrationOf (described (early ++ late)) fd = some registration →
        registrationOf (described early) fd = some registration) := by
  induction late using List.reverseRecOn with
  | nil =>
      rw [List.append_nil]
      constructor
      · rintro ⟨index, behind, ⟨op, stored, _⟩, _⟩
        rw [List.getElem?_eq_none behind] at stored
        cases stored
      · exact fun _ registration found => found
  | append_singleton late op ih =>
      obtain ⟨again, before⟩ := ih
      rw [← List.append_assoc, readded_concat, described_concat]
      by_cases adds : AddsTo (described (early ++ late)) fd op
      · have inside : early.length ≤ (early ++ late).length := by simp
        obtain ⟨made, stored, number⟩ := registrationOf_add adds (early ++ late).length
        constructor
        · exact fun _ => ⟨made, stored, by omega⟩
        · exact fun not => absurd (.inl ⟨inside, adds⟩) not
      · by_cases removes : op = .remove (.ofNat fd)
        · constructor
          · rintro (⟨_, adding⟩ | ⟨_, stays⟩)
            · exact absurd adding adds
            · exact absurd removes stays
          · intro _ registration found
            rw [removes, registrationOf_remove] at found
            cases found
        · rw [registrationOf_other adds removes]
          constructor
          · rintro (⟨_, adding⟩ | ⟨earlier, _⟩)
            · exact absurd adding adds
            · exact again earlier
          · exact fun not => before fun earlier => not (.inr ⟨earlier, removes⟩)

/-- The registration that is found now existed already then, exactly if no call in between
has registered the descriptor again. -/
theorem existed_iff {calls : List (LoopOp κ)} {since fd : Nat} {registration : Registration κ}
    (within : since ≤ calls.length)
    (found : registrationOf (described calls) fd = some registration) :
    registrationOf (described (calls.take since)) fd = some registration ↔
      ¬ Readded calls since fd := by
  have whole : calls.take since ++ calls.drop since = calls := List.take_append_drop since calls
  have length : (calls.take since).length = since := List.length_take_of_le within
  obtain ⟨again, before⟩ := registrationOf_append (calls.take since) (calls.drop since) fd
  rw [whole, length] at again before
  constructor
  · intro existed readded
    obtain ⟨made, stored, behind⟩ := again readded
    rw [found] at stored
    cases stored
    have earlier := madeBy_lt existed
    omega
  · exact fun not => before not registration found

/-- Nobody is registered only if no call has registered the descriptor again. -/
theorem not_readded_of_missing {calls : List (LoopOp κ)} {since fd : Nat}
    (within : since ≤ calls.length) (missing : registrationOf (described calls) fd = none) :
    ¬ Readded calls since fd := by
  intro readded
  have whole : calls.take since ++ calls.drop since = calls := List.take_append_drop since calls
  have length : (calls.take since).length = since := List.length_take_of_le within
  have again := (registrationOf_append (calls.take since) (calls.drop since) fd).1
  rw [whole, length, missing] at again
  obtain ⟨made, stored, _⟩ := again readded
  cases stored

/-! ### Turns -/

/-- Somebody waited for the descriptor when `select` returned, and these of the events that
they waited for were reported. -/
def Reported (calls : List (LoopOp κ)) (round : LoopRound) (fd : Nat) (events : LoopInterest) :
    Prop :=
  events.any = true ∧
    ∃ interest registration,
      (described (calls.take round.selected)).lookup fd = some (interest, registration) ∧
        events = round.report fd interest

/-- The turn answers a report, and it calls whoever is registered when it comes. -/
structure TurnRecorded (calls : List (LoopOp κ)) (turn : LoopTurn κ) : Prop where
  order : turn.round.selected ≤ turn.reached ∧ turn.reached ≤ calls.length
  reported : Reported calls turn.round turn.fd turn.events
  called : turn.called = registrationOf (described (calls.take turn.reached)) turn.fd

/-- Who is called was registered when `select` returned, by the same call. -/
def CallsExisting (calls : List (LoopOp κ)) (turn : LoopTurn κ) : Prop :=
  ∀ registration, turn.called = some registration →
    registrationOf (described (calls.take turn.round.selected)) turn.fd = some registration

/-- What is said of the table and of the turns so far. -/
structure LoopProperty (sys : LoopSys κ) : Prop where
  distinct : (sys.loop.ent.map LoopEntry.fd).Nodup
  bounded : sys.loop.ent.length ≤ acuLoopMaxFds
  describes : ∀ fd, (sys.loop.entry fd).map (fun entry => (entry.events, entry.cb)) =
    (described sys.calls).lookup fd
  once : (sys.turns.map fun turn => (turn.round.number, turn.fd)).Nodup
  recorded : ∀ turn ∈ sys.turns, TurnRecorded sys.calls turn
  existing : ∀ turn ∈ sys.turns, CallsExisting sys.calls turn

/-- The turns that a round has still to take. -/
structure Pending (sys : LoopSys κ) (round : LoopRound) (ready : List (Nat × LoopInterest)) :
    Prop where
  current : round.number + 1 = sys.rounds
  selected : round.selected ≤ sys.calls.length
  distinct : (ready.map Prod.fst).Nodup
  untaken : ∀ turn ∈ sys.turns, turn.round.number = round.number →
    turn.fd ∉ ready.map Prod.fst
  reported : ∀ fd events, (fd, events) ∈ ready → Reported sys.calls round fd events

/-- What holds whatever the callbacks do. -/
structure LoopInvariant (sys : LoopSys κ) : Prop where
  represents : Represents sys.loop (described sys.calls)
  bounded : sys.loop.ent.length ≤ acuLoopMaxFds
  once : (sys.turns.map fun turn => (turn.round.number, turn.fd)).Nodup
  numbered : ∀ turn ∈ sys.turns, turn.round.number < sys.rounds
  recorded : ∀ turn ∈ sys.turns, TurnRecorded sys.calls turn
  pending : ∀ round ready,
    sys.place = .turns round ready ∨ sys.place = .callback round ready →
      Pending sys round ready

theorem loopInvariant_initial : LoopInvariant (LoopSys.initial : LoopSys κ) := by
  refine ⟨represents_initial, Nat.zero_le _, List.nodup_nil, ?_, ?_, ?_⟩
  · exact fun turn member => nomatch member
  · exact fun turn member => nomatch member
  · rintro round ready (place | place) <;> cases place

/-! ### Calls keep the record -/

theorem Reported.concat {calls : List (LoopOp κ)} {round : LoopRound} {fd : Nat}
    {events : LoopInterest} (reported : Reported calls round fd events) (op : LoopOp κ)
    (within : round.selected ≤ calls.length) : Reported (calls ++ [op]) round fd events := by
  rw [Reported, take_concat_of_le op within]
  exact reported

theorem TurnRecorded.concat {calls : List (LoopOp κ)} {turn : LoopTurn κ}
    (recorded : TurnRecorded calls turn) (op : LoopOp κ) :
    TurnRecorded (calls ++ [op]) turn := by
  obtain ⟨selected, reached⟩ := recorded.order
  refine ⟨⟨selected, ?_⟩, recorded.reported.concat op (Nat.le_trans selected reached), ?_⟩
  · rw [List.length_append]
    exact Nat.le_trans reached (Nat.le_add_right _ _)
  · rw [take_concat_of_le op reached]
    exact recorded.called

theorem CallsExisting.concat {calls : List (LoopOp κ)} {turn : LoopTurn κ}
    (recorded : TurnRecorded calls turn) (existing : CallsExisting calls turn)
    (op : LoopOp κ) : CallsExisting (calls ++ [op]) turn := by
  obtain ⟨selected, reached⟩ := recorded.order
  rw [CallsExisting, take_concat_of_le op (Nat.le_trans selected reached)]
  exact existing

theorem LoopInvariant.call {sys : LoopSys κ} (invariant : LoopInvariant sys) (op : LoopOp κ) :
    LoopInvariant
      { sys with
        loop := callLoop sys.loop sys.calls.length op
        calls := sys.calls ++ [op] } := by
  refine ⟨?_, length_callLoop_le invariant.bounded _ op, invariant.once, invariant.numbered,
    fun turn member => (invariant.recorded turn member).concat op, ?_⟩
  · show Represents (callLoop sys.loop sys.calls.length op) (described (sys.calls ++ [op]))
    rw [described_concat]
    exact represents_callLoop invariant.represents _ op
  · intro round ready place
    have pending := invariant.pending round ready place
    refine ⟨pending.current, ?_, pending.distinct, pending.untaken, ?_⟩
    · show round.selected ≤ (sys.calls ++ [op]).length
      rw [List.length_append]
      exact Nat.le_trans pending.selected (Nat.le_add_right _ _)
    · exact fun fd events member =>
        (pending.reported fd events member).concat op pending.selected

/-! ### Rounds -/

theorem nodup_collectReady {loop : AcuLoop κ} (distinct : (loop.ent.map LoopEntry.fd).Nodup)
    (round : LoopRound) : ((collectReady loop round).map Prod.fst).Nodup := by
  have kept : (collectReady loop round).Sublist
      (loop.ent.map fun entry => (entry.fd, round.report entry.fd entry.events)) :=
    List.filter_sublist
  have within := kept.map Prod.fst
  rw [List.map_map] at within
  exact distinct.sublist within

theorem reported_of_collectReady {sys : LoopSys κ} (invariant : LoopInvariant sys)
    {round : LoopRound} (now : round.selected = sys.calls.length) {fd : Nat}
    {events : LoopInterest} (member : (fd, events) ∈ collectReady sys.loop round) :
    Reported sys.calls round fd events := by
  obtain ⟨listed, some⟩ := List.mem_filter.mp member
  obtain ⟨entry, stored, same⟩ := List.mem_map.mp listed
  cases same
  refine ⟨some, entry.events, entry.cb, ?_, rfl⟩
  rw [now, List.take_length]
  exact invariant.represents.lookup_of_mem stored

theorem LoopInvariant.wait {sys : LoopSys κ} (invariant : LoopInvariant sys) (rc : Int)
    (readable writable : List Nat) : LoopInvariant (sys.wait rc readable writable) := by
  unfold LoopSys.wait
  split
  next => exact invariant
  next =>
    refine ⟨invariant.represents, invariant.bounded, invariant.once, ?_, invariant.recorded, ?_⟩
    · exact fun turn member => Nat.lt_succ_of_lt (invariant.numbered turn member)
    · intro round ready place
      rcases place with place | place
      · cases place
        refine ⟨rfl, Nat.le_refl _, nodup_collectReady invariant.represents.distinct _, ?_, ?_⟩
        · exact fun turn member same =>
            absurd same (Nat.ne_of_lt (invariant.numbered turn member))
        · exact fun fd events member => reported_of_collectReady invariant rfl member
      · cases place

/-- The entry that a turn finds is the one that the calls have left. -/
theorem called_eq {sys : LoopSys κ} (invariant : LoopInvariant sys) (fd : Nat) :
    (sys.loop.entry fd).map LoopEntry.cb = registrationOf (described sys.calls) fd := by
  rw [registrationOf, ← invariant.represents.entry_eq, Option.map_map]
  rfl

theorem Pending.next {sys : LoopSys κ} {round : LoopRound} {fd : Nat} {events : LoopInterest}
    {rest : List (Nat × LoopInterest)} (pending : Pending sys round ((fd, events) :: rest)) :
    Pending (sys.takeTurn round fd events rest) round rest := by
  obtain ⟨notIn, distinct⟩ := List.nodup_cons.mp pending.distinct
  refine ⟨pending.current, pending.selected, distinct, ?_, ?_⟩
  · intro turn member same
    rcases List.mem_append.mp member with earlier | last
    · exact fun listed => pending.untaken turn earlier same (List.mem_cons_of_mem fd listed)
    · rw [List.mem_singleton.mp last]
      exact notIn
  · exact fun other reported member =>
      pending.reported other reported (List.mem_cons_of_mem _ member)

/-- Behind a turn the rest of the list is to come. -/
theorem takeTurn_place {sys : LoopSys κ} {round other : LoopRound} {fd : Nat}
    {events : LoopInterest} {rest ready : List (Nat × LoopInterest)}
    (place : (sys.takeTurn round fd events rest).place = .turns other ready ∨
      (sys.takeTurn round fd events rest).place = .callback other ready) :
    other = round ∧ ready = rest := by
  unfold LoopSys.takeTurn at place
  simp only at place
  split at place
  next =>
    rcases place with place | place <;> cases place
    exact ⟨rfl, rfl⟩
  next =>
    rcases place with place | place <;> cases place
    exact ⟨rfl, rfl⟩

theorem LoopInvariant.takeTurn {sys : LoopSys κ} (invariant : LoopInvariant sys)
    {round : LoopRound} {fd : Nat} {events : LoopInterest} {rest : List (Nat × LoopInterest)}
    (place : sys.place = .turns round ((fd, events) :: rest)) :
    LoopInvariant (sys.takeTurn round fd events rest) := by
  have pending := invariant.pending round _ (.inl place)
  refine ⟨invariant.represents, invariant.bounded, ?_, ?_, ?_, ?_⟩
  · simp only [LoopSys.takeTurn, List.map_append, List.map_singleton, List.nodup_append]
    refine ⟨invariant.once, List.nodup_singleton _, ?_⟩
    intro first firstMember second secondMember same
    obtain ⟨turn, member, rfl⟩ := List.mem_map.mp firstMember
    rw [List.mem_singleton.mp secondMember, Prod.mk.injEq] at same
    apply pending.untaken turn member same.1
    rw [same.2]
    exact List.mem_cons_self
  · intro turn member
    rcases List.mem_append.mp member with earlier | last
    · exact invariant.numbered turn earlier
    · rw [List.mem_singleton.mp last]
      exact Nat.lt_of_succ_le (Nat.le_of_eq pending.current)
  · intro turn member
    rcases List.mem_append.mp member with earlier | last
    · exact invariant.recorded turn earlier
    · rw [List.mem_singleton.mp last]
      refine ⟨⟨pending.selected, Nat.le_refl _⟩,
        pending.reported fd events List.mem_cons_self, ?_⟩
      show _ = registrationOf (described (sys.calls.take sys.calls.length)) fd
      rw [List.take_length]
      exact called_eq invariant fd
  · intro other ready elsewhere
    have here := takeTurn_place elsewhere
    rw [here.1, here.2]
    exact pending.next

/-! ### Steps -/

/-- What one step can do. -/
theorem loopStep_cases {sys next : LoopSys κ} {input : LoopInput κ}
    (stepped : loopStep sys input = some next) :
    (∃ op, input = .call op ∧ (∀ round ready, sys.place ≠ .turns round ready) ∧
      next =
        { sys with
          loop := callLoop sys.loop sys.calls.length op
          calls := sys.calls ++ [op] }) ∨
    (∃ rc readable writable, input = .wait rc readable writable ∧ sys.place = .outside ∧
      next = sys.wait rc readable writable) ∨
    (∃ round, input = .turn ∧ sys.place = .turns round [] ∧
      next = { sys with place := .outside }) ∨
    (∃ round fd events rest, input = .turn ∧
      sys.place = .turns round ((fd, events) :: rest) ∧
      next = sys.takeTurn round fd events rest) ∨
    (∃ round rest, input = .callbackReturns ∧ sys.place = .callback round rest ∧
      next = { sys with place := .turns round rest }) := by
  cases input with
  | call op =>
      simp only [loopStep] at stepped
      split at stepped
      next => cases stepped
      next elsewhere => exact .inl ⟨op, rfl, elsewhere, (Option.some.inj stepped).symm⟩
  | wait rc readable writable =>
      simp only [loopStep] at stepped
      split at stepped
      next place =>
        exact .inr (.inl ⟨rc, readable, writable, rfl, place, (Option.some.inj stepped).symm⟩)
      next => cases stepped
  | turn =>
      simp only [loopStep] at stepped
      split at stepped
      next round place =>
        exact .inr (.inr (.inl ⟨round, rfl, place, (Option.some.inj stepped).symm⟩))
      next round fd events rest place =>
        exact .inr (.inr (.inr (.inl ⟨round, fd, events, rest, rfl, place,
          (Option.some.inj stepped).symm⟩)))
      next => cases stepped
  | callbackReturns =>
      simp only [loopStep] at stepped
      split at stepped
      next round rest place =>
        exact .inr (.inr (.inr (.inr ⟨round, rest, rfl, place,
          (Option.some.inj stepped).symm⟩)))
      next => cases stepped

theorem loopInvariant_step {sys next : LoopSys κ} {input : LoopInput κ}
    (invariant : LoopInvariant sys) (stepped : loopStep sys input = some next) :
    LoopInvariant next := by
  rcases loopStep_cases stepped with ⟨op, _, _, rfl⟩ | ⟨rc, readable, writable, _, _, rfl⟩ |
    ⟨round, _, _, rfl⟩ | ⟨round, fd, events, rest, _, place, rfl⟩ | ⟨round, rest, _, place, rfl⟩
  · exact invariant.call op
  · exact invariant.wait rc readable writable
  · refine ⟨invariant.represents, invariant.bounded, invariant.once, invariant.numbered,
      invariant.recorded, ?_⟩
    rintro other ready (elsewhere | elsewhere) <;> cases elsewhere
  · exact invariant.takeTurn place
  · refine ⟨invariant.represents, invariant.bounded, invariant.once, invariant.numbered,
      invariant.recorded, ?_⟩
    rintro other ready (elsewhere | elsewhere)
    · cases elsewhere
      have pending := invariant.pending round rest (.inr place)
      exact ⟨pending.current, pending.selected, pending.distinct, pending.untaken,
        pending.reported⟩
    · cases elsewhere

/-! ### Runs -/

/-- The table is the map of the calls, and each report is answered once, whatever the
callbacks do. -/
theorem loopInvariant_always (inputs : List (LoopInput κ)) :
    Always loopStep LoopInvariant LoopSys.initial inputs :=
  always_of_invariant (fun _ invariant => invariant)
    (fun _ _ _ invariant stepped => loopInvariant_step invariant stepped) loopInvariant_initial

/-- A turn does not come to a descriptor that a call of its round has registered again. -/
def TurnAllowed (sys : LoopSys κ) : LoopInput κ → Prop
  | .turn =>
      match sys.place with
      | .turns round ((fd, _) :: _) => ¬ Readded sys.calls round.selected fd
      | _ => True
  | _ => True

/-- A turn calls somebody who was there when `select` returned exactly if it is allowed. -/
theorem callsExisting_takeTurn {sys : LoopSys κ} (invariant : LoopInvariant sys)
    {round : LoopRound} {fd : Nat} {events : LoopInterest} {rest : List (Nat × LoopInterest)}
    (place : sys.place = .turns round ((fd, events) :: rest)) :
    (∀ turn ∈ (sys.takeTurn round fd events rest).turns, CallsExisting sys.calls turn) ↔
      (∀ turn ∈ sys.turns, CallsExisting sys.calls turn) ∧
        ¬ Readded sys.calls round.selected fd := by
  have selected := (invariant.pending round _ (.inl place)).selected
  have called := called_eq invariant fd
  simp only [LoopSys.takeTurn, List.forall_mem_append, List.forall_mem_singleton, CallsExisting,
    called]
  apply and_congr_right
  intro _
  cases found : registrationOf (described sys.calls) fd with
  | none =>
      have free := not_readded_of_missing selected found
      exact iff_of_true (fun registration same => nomatch same) free
  | some registration =>
      rw [← existed_iff selected found]
      constructor
      · exact fun existing => existing registration rfl
      · intro existed other same
        cases same
        exact existed

/-- The table and the turns are as they should be in every state of a run, exactly if no turn
of the run comes to a descriptor that was registered again in its round. -/
theorem loop_calls_existing_iff (inputs : List (LoopInput κ)) :
    Always loopStep LoopProperty LoopSys.initial inputs ↔
      Guarded loopStep TurnAllowed LoopSys.initial inputs := by
  have sound : ∀ sys : LoopSys κ,
      (LoopInvariant sys ∧ ∀ turn ∈ sys.turns, CallsExisting sys.calls turn) →
        LoopProperty sys := by
    rintro sys ⟨invariant, existing⟩
    exact ⟨invariant.represents.distinct, invariant.bounded, invariant.represents.entry_eq,
      invariant.once, invariant.recorded, existing⟩
  refine always_iff_guarded sound ?_ ?_ ⟨loopInvariant_initial, fun turn member => nomatch member⟩
  · rintro sys input next ⟨invariant, existing⟩ allowed stepped
    refine ⟨loopInvariant_step invariant stepped, ?_⟩
    rcases loopStep_cases stepped with ⟨op, _, _, rfl⟩ | ⟨rc, readable, writable, _, _, rfl⟩ |
      ⟨round, _, _, rfl⟩ | ⟨round, fd, events, rest, rfl, place, rfl⟩ |
      ⟨round, rest, _, _, rfl⟩
    · exact fun turn member =>
        (existing turn member).concat (invariant.recorded turn member) op
    · unfold LoopSys.wait
      split <;> exact existing
    · exact existing
    · simp only [TurnAllowed, place] at allowed
      exact (callsExisting_takeTurn invariant place).mpr ⟨existing, allowed⟩
    · exact existing
  · rintro sys input next ⟨invariant, existing⟩ property stepped
    rcases loopStep_cases stepped with ⟨op, rfl, _, _⟩ | ⟨rc, readable, writable, rfl, _, _⟩ |
      ⟨round, rfl, place, _⟩ | ⟨round, fd, events, rest, rfl, place, rfl⟩ |
      ⟨round, rest, rfl, _, _⟩
    · trivial
    · trivial
    · simp only [TurnAllowed, place]
    · simp only [TurnAllowed, place]
      exact ((callsExisting_takeTurn invariant place).mp property.existing).2
    · trivial

/-! ### What callbacks can keep to -/

/-- A callback registers no descriptor that waits for its turn. -/
def AddAllowed (sys : LoopSys κ) : LoopInput κ → Prop
  | .call (.add (.ofNat fd) _ _) =>
      match sys.place with
      | .callback _ ready => fd ∉ ready.map Prod.fst
      | _ => True
  | _ => True

/-- Nobody who waits for a turn has been registered again. -/
def NoneReadded (sys : LoopSys κ) : Prop :=
  ∀ round ready, sys.place = .turns round ready ∨ sys.place = .callback round ready →
    ∀ fd ∈ ready.map Prod.fst, ¬ Readded sys.calls round.selected fd

theorem not_readded_now (calls : List (LoopOp κ)) (fd : Nat) :
    ¬ Readded calls calls.length fd := by
  rintro ⟨index, behind, ⟨op, stored, _⟩, _⟩
  rw [List.getElem?_eq_none behind] at stored
  cases stored

theorem noneReadded_step {sys next : LoopSys κ} {input : LoopInput κ} (none : NoneReadded sys)
    (allowed : AddAllowed sys input) (stepped : loopStep sys input = some next) :
    NoneReadded next := by
  rcases loopStep_cases stepped with ⟨op, rfl, elsewhere, rfl⟩ |
    ⟨rc, readable, writable, _, outside, rfl⟩ | ⟨round, _, _, rfl⟩ |
    ⟨round, fd, events, rest, _, place, rfl⟩ | ⟨round, rest, _, place, rfl⟩
  · intro round ready place fd waits readded
    rcases readded_concat.mp readded with ⟨_, _, events, cb, rfl⟩ | ⟨earlier, _⟩
    · have inside : sys.place = .callback round ready :=
        place.resolve_left (elsewhere round ready)
      simp only [AddAllowed, inside] at allowed
      exact allowed waits
    · exact none round ready place fd waits earlier
  · unfold LoopSys.wait
    split
    next => exact none
    next =>
      rintro round ready (place | place) fd _ <;> cases place
      exact not_readded_now sys.calls fd
  · rintro other ready (place | place) <;> cases place
  · rintro other ready elsewhere next waits
    have here : other = round ∧ ready = rest := takeTurn_place elsewhere
    rw [here.1]
    rw [here.2] at waits
    exact none round _ (.inl place) next (List.mem_cons_of_mem fd waits)
  · rintro other ready (elsewhere | elsewhere) <;> cases elsewhere
    exact none round rest (.inr place)

/-- Callbacks that keep to it have every turn allowed. -/
theorem turnAllowed_of_addAllowed {inputs : List (LoopInput κ)}
    (kept : Guarded loopStep AddAllowed LoopSys.initial inputs) :
    Guarded loopStep TurnAllowed LoopSys.initial inputs := by
  refine @Guarded.imp_of_invariant _ _ _ _ _ NoneReadded ?_ ?_ _ _ kept ?_
  · exact fun sys input next none allowed stepped => noneReadded_step none allowed stepped
  · intro sys input none _
    cases input with
    | turn =>
        simp only [TurnAllowed]
        split
        next round fd events rest place =>
          exact none round _ (.inl place) fd List.mem_cons_self
        next => trivial
    | call op => trivial
    | wait rc readable writable => trivial
    | callbackReturns => trivial
  · rintro round ready (place | place) <;> cases place

/-- The number of a client that is gone goes to the next connection within one round: both
descriptors are ready, and the callback of the first closes the second and registers it
anew. -/
def recycledNumber : List (LoopInput Nat) :=
  [.call (.add 5 .readOnly (some 1)), .call (.add 6 .readOnly (some 2)), .wait 2 [5, 6] [],
    .turn, .call (.remove 6), .call (.add 6 .readOnly (some 3)), .callbackReturns, .turn]

/-- Where it ends. -/
def recycledEnd : LoopSys Nat :=
  (run loopStep LoopSys.initial recycledNumber).getD LoopSys.initial

/-- The second turn of that round. -/
def recycledTurn : LoopTurn Nat :=
  { round := { number := 0, selected := 2, readable := [5, 6], writable := [] }
    fd := 6
    events := .readOnly
    reached := 4
    called := some { cb := 3, madeBy := 3 } }

/-- The new registration is called for what was reported for the old one. -/
theorem recycled_number_is_called :
    ¬ Always loopStep LoopProperty LoopSys.initial recycledNumber := by
  intro always
  have reached : run loopStep LoopSys.initial recycledNumber = some recycledEnd := by
    decide +kernel
  have taken : recycledTurn ∈ recycledEnd.turns := by
    decide +kernel
  have old : registrationOf (described (recycledEnd.calls.take 2)) 6 =
      some { cb := 2, madeBy := 1 } := by
    decide +kernel
  have existed := (always.final reached).existing recycledTurn taken _ rfl
  rw [recycledTurn, old] at existed
  cases existed

end Acud
