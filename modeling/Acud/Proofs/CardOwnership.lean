/-
Module: Acud.Proofs.CardOwnership
Purpose: Which cards open the door for a person, after commands that set and delete.
Trusted boundary: none
Main exports:
  CardPromise, Ownership, CommandOp, ownershipStep, OneCard, KeepsOneCard,
  one_person_one_card
-/
import Acud.Access
import Acud.Lib.Machine
import Acud.Proofs.UserCommands

namespace Acud

open Lib

/-!
People and cards are two tables.  A set command replaces the row of the person, and
the row of the card it carries; the row of another card that the person had is not
looked at.

`CardPromise` is what the answers of the commands let one expect: after a set with a
card, that card and no other resolves to the person; after a delete, none does.  It
holds in a run whose set commands find no other card of their person, whose deletes do
delete the cards, and whose rollbacks bring back no card that was taken from its
person.
-/

/-! ### What was promised -/

inductive CardPromise where
  | nothing
  | only (cardId : CardId)
  | noCard
deriving Repr, Inhabited, DecidableEq

/-- The promise admits that the card resolves to its person. -/
def CardPromise.Admits (cardId : CardId) : CardPromise → Prop
  | .nothing => True
  | .only other => cardId = other
  | .noCard => False

structure Ownership where
  users : AcuUsers
  promise : UserId → CardPromise
  /-- The card of the command that was just answered OK. -/
  latest : Option AcuUserCard

inductive CommandOp where
  | load (op : LoadOp)
  | set (data : Memory) (len : Nat)
  | delete (data : Memory) (len : Nat)

/-- A download that was committed ends what was promised before it. -/
def ownershipStep (state : Ownership) : CommandOp → Option Ownership
  | .load op =>
      let result := loadStep state.users op
      some
        { users := result.2
          promise :=
            if op = .finish ∧ result.1 then fun _ => .nothing else state.promise
          latest := none }
  | .set data len =>
      let result := usercmdSet state.users data len
      let card := if result.1 = .ok then usercmdSetCard data len else none
      some
        { users := result.2
          promise :=
            match card with
            | none => state.promise
            | some card => Function.update state.promise card.userId (.only card.cardId)
          latest := card }
  | .delete data len =>
      let result := usercmdDelete state.users data len
      some
        { users := result.2
          promise :=
            if result.1 = .ok then
              Function.update state.promise (deletedUser data) .noCard
            else state.promise
          latest := none }

/-- Cards resolve to the people they were promised for, and the card that was just set
does resolve. -/
structure OneCard (state : Ownership) : Prop where
  lookups : ∀ cardId user, usersLookupByCard state.users cardId = .found user →
    (state.promise user.userId).Admits cardId
  judged : ∀ db reads clock cardId user,
    (accessJudge state.users db reads clock cardId).2 = some user →
      (state.promise user.userId).Admits cardId
  latest : ∀ card, state.latest = some card →
    ∃ user, usersLookupByCard state.users card.cardId = .found user ∧
      user.userId = card.userId

/-- A rollback would bring back a card row that was removed from its person. -/
def AcuUsers.ReturnsCard (u : AcuUsers) : Prop :=
  ∃ card ∈ u.crashRoster.cards.rows,
    ∀ row ∈ u.roster.cards.rows, row.cardId = card.cardId → row.userId ≠ card.userId

/-- The card a set command stores: its inserts are executed and its id is not empty. -/
def storedCard (u : AcuUsers) (data : Memory) (len : Nat) : Option AcuUserCard :=
  if (usercmdSetRecord data len).userId.isZero = false ∧
      u.faults.succeeds .insert = true ∧ u.faults.next.succeeds .insert = true then
    usercmdSetCard data len
  else none

/-- The steps that take no promise back. -/
def KeepsOneCard (state : Ownership) : CommandOp → Prop
  | .load op => state.users.RollsBack op → ¬ state.users.ReturnsCard
  | .set data len =>
      ∀ card, storedCard state.users data len = some card →
        ∀ row ∈ state.users.roster.cards.rows, row.userId = card.userId →
          row.cardId = card.cardId
  | .delete data _ =>
      state.users.faults.next.succeeds .delete = true →
        state.users.roster.HasCard (deletedUser data) →
        state.users.faults.succeeds .delete = true

/-! ### Commands -/

/-- What a set command does: it changes no card row, or it was answered OK and stored
the person and the card. -/
inductive SetEffect (u : AcuUsers) (data : Memory) (len : Nat) :
    AcuUserCmdStatus × AcuUsers → Prop where
  | noCard {status : AcuUserCmdStatus} {after : AcuUsers}
      (without : status = .ok → usercmdSetCard data len = none)
      (cards : after.roster.cards = u.roster.cards) : SetEffect u data len (status, after)
  | paired {after : AcuUsers} {card : AcuUserCard}
      (carried : usercmdSetCard data len = some card)
      (stored : storedCard u data len = some card)
      (roster : after.roster =
        (u.roster.put (usercmdSetRecord data len)).putCard card) :
      SetEffect u data len (.ok, after)

theorem usercmdSet_effect {u : AcuUsers} (exist : u.TablesExist) (data : Memory) (len : Nat) :
    SetEffect u data len (usercmdSet u data len) := by
  have outcome := usercmdSet_outcome u data len
  generalize usercmdSet u data len = result at outcome
  cases outcome with
  | refused names => exact .noCard nofun rfl
  | notStored names fails roster => exact .noCard nofun (by rw [roster])
  | torn names done carried fails roster =>
      refine .noCard nofun ?_
      rw [roster]
      rfl
  | stored names done without faults users roster =>
      refine .noCard (fun _ => without) ?_
      rw [roster]
      rfl
  | paired names done carried follows faults users cards roster =>
      have named := (Bool.and_eq_true_iff.mp names).2
      have first := (exist.executes rfl).symm.trans done
      have second := (exist.executesNext rfl).symm.trans follows
      refine .paired carried ?_ roster
      unfold storedCard
      rw [if_pos ⟨by simpa using named, first, second⟩, carried]

/-! ### The invariant -/

/-- No card row is stored that the promise to its person does not admit. -/
def RowsAdmitted (cards : CardTable) (promise : UserId → CardPromise) : Prop :=
  ∀ row ∈ cards.rows, (promise row.userId).Admits row.cardId

structure Ownership.Sound (state : Ownership) : Prop where
  exist : state.users.TablesExist
  reads : state.users.faults.Never .select
  rollbacks : state.users.faults.Never .rollback
  admitted : RowsAdmitted state.users.roster.cards state.promise
  latest : ∀ card, state.latest = some card →
    ∃ user, state.users.roster.userOfCard card.cardId = some user ∧
      user.userId = card.userId

/-- A card that resolves has a row of its person. -/
theorem Roster.row_of_userOfCard {roster : Roster} {cardId : CardId} {user : AcuUserRecord}
    (resolved : roster.userOfCard cardId = some user) :
    ∃ row ∈ roster.cards.rows, row.cardId = cardId ∧ row.userId = user.userId := by
  obtain ⟨row, found, person⟩ := Option.bind_eq_some_iff.mp resolved
  exact ⟨row, Table.mem_of_find? found, Table.key_of_find? found,
    (Table.key_of_find? person).symm⟩

theorem userOfCard_of_lookup {u : AcuUsers} {cardId : CardId} {user : AcuUserRecord}
    (found : usersLookupByCard u cardId = .found user) :
    u.roster.userOfCard cardId = some user := by
  unfold usersLookupByCard at found
  split at found
  next =>
    cases resolved : u.roster.userOfCard cardId with
    | none =>
        rw [resolved] at found
        cases found
    | some other =>
        rw [resolved] at found
        cases found
        rfl
  next => cases found

/-- A judgement names a person only when the card resolves to that person. -/
theorem lookup_of_judged {u : AcuUsers} {db : SettingsDb} {reads : JudgeReads} {clock : Clock}
    {cardId : CardId} {user : AcuUserRecord}
    (judged : (accessJudge u db reads clock cardId).2 = some user) :
    usersLookupByCard u cardId = .found user := by
  unfold accessJudge at judged
  cases found : usersLookupByCard u cardId with
  | error =>
      rw [found] at judged
      cases judged
  | notFound =>
      rw [found] at judged
      cases judged
  | found other =>
      rw [found] at judged
      simp only at judged
      split at judged
      next => cases judged; rfl
      next =>
        split at judged
        next => cases judged; rfl
        next => cases judged; rfl
        next =>
          split at judged
          next => cases judged; rfl
          next => cases judged; rfl
          next => cases judged; rfl

theorem Ownership.Sound.oneCard {state : Ownership} (sound : state.Sound) : OneCard state := by
  have admits {cardId : CardId} {user : AcuUserRecord}
      (found : usersLookupByCard state.users cardId = .found user) :
      (state.promise user.userId).Admits cardId := by
    obtain ⟨row, member, rfl, owner⟩ := Roster.row_of_userOfCard (userOfCard_of_lookup found)
    rw [← owner]
    exact sound.admitted row member
  refine
    { lookups := fun _ _ => admits
      judged := fun _ _ _ _ _ judged => admits (lookup_of_judged judged)
      latest := ?_ }
  intro card just
  obtain ⟨user, resolved, owner⟩ := sound.latest card just
  obtain ⟨users, cards⟩ := sound.exist.view
  have users : state.users.conn.view.users.isSome = true := users
  have cards : state.users.conn.view.userCards.isSome = true := cards
  refine ⟨user, ?_, owner⟩
  simp [usersLookupByCard, AcuUsers.readable, AcuUsers.usersReadable, AcuUsers.cardsReadable,
    sound.reads.succeeds, users, cards, resolved, Lookup.ofOption]

/-- Cards that are stored are admitted after a download operation that takes no card
back. -/
theorem load_admitted {u : AcuUsers} {promise : UserId → CardPromise}
    (reliable : u.faults.Never .rollback) (admitted : RowsAdmitted u.roster.cards promise)
    {op : LoadOp} (kept : u.RollsBack op → ¬ u.ReturnsCard) :
    RowsAdmitted (loadStep u op).2.roster.cards
      (if op = .finish ∧ (loadStep u op).1 then fun _ => .nothing else promise) := by
  have effect := loadStep_running reliable op
  generalize loadStep u op = result at effect
  cases effect with
  | kept forward unswapped keeps =>
      rw [if_neg unswapped, AcuUsers.roster_eq, keeps.view]
      exact admitted
  | wentBack backward unswapped back =>
      rw [if_neg unswapped, AcuUsers.roster_eq, back.view, ← AcuUsers.crashRoster_eq]
      intro card member
      by_contra refused
      refine kept backward ⟨card, member, ?_⟩
      intro row stored same owner
      have fine := admitted row stored
      rw [same, owner] at fine
      exact refused fine
  | replaced forward finished exist running =>
      rw [if_pos ⟨finished, rfl⟩]
      intro row member
      trivial

/-- A card set for a person who has no other card. -/
theorem set_admitted {cards : CardTable} {promise : UserId → CardPromise}
    (admitted : RowsAdmitted cards promise) {card : AcuUserCard}
    (alone : ∀ row ∈ cards.rows, row.userId = card.userId → row.cardId = card.cardId) :
    RowsAdmitted (cards.insertOrReplace card)
      (Function.update promise card.userId (.only card.cardId)) := by
  intro row member
  rcases Table.mem_insertOrReplace.mp member with ⟨old, different⟩ | rfl
  · have other : row.userId ≠ card.userId := fun owner => different (alone row old owner)
    rw [Function.update_of_ne other]
    exact admitted row old
  · rw [Function.update_self]
    rfl

/-- Deleting rows keeps what is left admitted. -/
theorem RowsAdmitted.deleteWhere {cards : CardTable} {promise : UserId → CardPromise}
    (admitted : RowsAdmitted cards promise) (unwanted : AcuUserCard → Bool) :
    RowsAdmitted (cards.deleteWhere unwanted) promise :=
  fun row member => admitted row (Table.mem_deleteWhere.mp member).1

/-- After the cards of a person are gone, none can be promised away. -/
theorem RowsAdmitted.noCard {cards : CardTable} {promise : UserId → CardPromise}
    (admitted : RowsAdmitted cards promise) {userId : UserId}
    (gone : ∀ row ∈ cards.rows, row.userId ≠ userId) :
    RowsAdmitted cards (Function.update promise userId .noCard) := by
  intro row member
  rw [Function.update_of_ne (gone row member)]
  exact admitted row member

/-- The card rows behind a delete. -/
theorem delete_admitted {u : AcuUsers} {promise : UserId → CardPromise}
    (exist : u.TablesExist) (admitted : RowsAdmitted u.roster.cards promise)
    {userId : UserId}
    (executes : u.faults.next.succeeds .delete = true → u.roster.HasCard userId →
      u.faults.succeeds .delete = true) :
    RowsAdmitted (usersDelete u userId).2.roster.cards
      (if (usersDelete u userId).1 then Function.update promise userId .noCard
        else promise) := by
  obtain ⟨answer, _, _, roster⟩ := usersDelete_roster exist userId
  have cards : (usersDelete u userId).2.roster.cards =
      if u.faults.succeeds .delete then (u.roster.deleteCardsOf userId).cards
      else u.roster.cards := by
    rw [roster]
    simp only
    split <;> split <;> rfl
  have kept : RowsAdmitted (usersDelete u userId).2.roster.cards promise := by
    rw [cards]
    split
    next => exact admitted.deleteWhere _
    next => exact admitted
  split
  next deleted =>
    apply kept.noCard
    rw [cards]
    rw [answer] at deleted
    split
    next =>
      intro row member owner
      have away := (Table.mem_deleteWhere.mp member).2
      simp [owner] at away
    next refused =>
      intro row member owner
      exact refused (executes deleted ⟨row, member, owner⟩)
  next => exact kept

/-- The card that was just stored resolves to its person. -/
theorem Roster.userOfCard_putCard (roster : Roster) {record : AcuUserRecord}
    {card : AcuUserCard} (owner : card.userId = record.userId) :
    ((roster.put record).putCard card).userOfCard card.cardId = some record := by
  unfold userOfCard putCard put
  simp [owner]

/-! ### Steps and runs -/

theorem Ownership.Sound.reliable {state : Ownership} (sound : state.Sound) {after : AcuUsers}
    (oracle : after.faults.ok = state.users.faults.ok) :
    after.faults.Never .select ∧ after.faults.Never .rollback := by
  unfold Faults.Never
  rw [oracle]
  exact ⟨sound.reads, sound.rollbacks⟩

theorem load_sound {state next : Ownership} {op : LoadOp} (sound : state.Sound)
    (keeps : KeepsOneCard state (.load op)) (stepped : ownershipStep state (.load op) = some next) :
    next.Sound := by
  cases stepped
  obtain ⟨reads, rollbacks⟩ := sound.reliable (loadStep_oracle state.users op)
  exact
    { exist := loadStep_tablesExist sound.rollbacks sound.exist op
      reads := reads
      rollbacks := rollbacks
      admitted := load_admitted sound.rollbacks sound.admitted keeps
      latest := by simp }

theorem set_sound {state next : Ownership} {data : Memory} {len : Nat} (sound : state.Sound)
    (keeps : KeepsOneCard state (.set data len))
    (stepped : ownershipStep state (.set data len) = some next) : next.Sound := by
  obtain ⟨u, promise, latest⟩ := state
  cases stepped
  have effect := usercmdSet_effect sound.exist data len
  have tables := (usercmdSet_outcome u data len).keepsTables
  have exist := tables.exist sound.exist
  obtain ⟨reads, rollbacks⟩ := sound.reliable tables.oracle
  simp only at effect exist reads rollbacks ⊢
  generalize usercmdSet u data len = result at effect exist reads rollbacks
  cases effect with
  | @noCard status after without cards =>
      have none : (if status = .ok then usercmdSetCard data len else none) = none := by
        split
        next ok => exact without ok
        next => rfl
      rw [none]
      refine
        { exist := exist
          reads := reads
          rollbacks := rollbacks
          admitted := ?_
          latest := by simp }
      show RowsAdmitted after.roster.cards promise
      rw [cards]
      exact sound.admitted
  | @paired after card carried stored roster =>
      rw [if_pos rfl, carried]
      have owner := userId_usercmdSetCard carried
      refine
        { exist := exist
          reads := reads
          rollbacks := rollbacks
          admitted := ?_
          latest := ?_ }
      · show RowsAdmitted after.roster.cards _
        rw [roster]
        exact set_admitted sound.admitted (keeps card stored)
      · rintro other ⟨⟩
        refine ⟨usercmdSetRecord data len, ?_, owner.symm⟩
        show after.roster.userOfCard card.cardId = _
        rw [roster]
        exact u.roster.userOfCard_putCard owner

theorem delete_sound {state next : Ownership} {data : Memory} {len : Nat} (sound : state.Sound)
    (keeps : KeepsOneCard state (.delete data len))
    (stepped : ownershipStep state (.delete data len) = some next) : next.Sound := by
  obtain ⟨u, promise, latest⟩ := state
  cases stepped
  have tables := usercmdDelete_keepsTables u data len
  obtain ⟨reads, rollbacks⟩ := sound.reliable tables.oracle
  refine
    { exist := tables.exist sound.exist
      reads := reads
      rollbacks := rollbacks
      admitted := ?_
      latest := by simp }
  rcases usercmdDelete_effect u data len with refused | executed
  · simp only [refused, reduceCtorEq, ↓reduceIte]
    exact sound.admitted
  · have kept := delete_admitted sound.exist sound.admitted keeps
    rw [executed]
    cases deleted : (usersDelete u (deletedUser data)).1 with
    | true =>
        rw [deleted] at kept
        exact kept
    | false =>
        rw [deleted] at kept
        exact kept

theorem ownershipStep_sound {state next : Ownership} {op : CommandOp} (sound : state.Sound)
    (keeps : KeepsOneCard state op) (stepped : ownershipStep state op = some next) :
    next.Sound := by
  cases op with
  | load op => exact load_sound sound keeps stepped
  | set data len => exact set_sound sound keeps stepped
  | delete data len => exact delete_sound sound keeps stepped

/-- A store that was just opened: nothing was promised yet. -/
def Ownership.start (u : AcuUsers) : Ownership :=
  { users := u
    promise := fun _ => .nothing
    latest := none }

theorem Ownership.start_sound {file : UsersFile} {first : ReliableFaults} {u : AcuUsers}
    (opened : reopen file first = .up u) : (Ownership.start u).Sound := by
  obtain ⟨exist, oracle⟩ := reopen_up opened
  have same {kind : SqlKind} (never : first.faults.Never kind) : u.faults.Never kind := by
    unfold Faults.Never
    rw [oracle]
    exact never
  exact
    { exist := exist
      reads := same first.reads
      rollbacks := same first.rollbacks
      admitted := fun _ _ => trivial
      latest := by simp [start] }

/-- Over every run of commands and downloads that takes no promise back: a person has
the one card of the last set command, and none after a delete. -/
theorem one_person_one_card {file : UsersFile} {first : ReliableFaults} {u : AcuUsers}
    (opened : reopen file first = .up u) {ops : List CommandOp}
    (keeps : Guarded ownershipStep KeepsOneCard (Ownership.start u) ops) :
    Always ownershipStep OneCard (Ownership.start u) ops :=
  keeps.always (fun _ sound => sound.oneCard) (fun _ _ _ => ownershipStep_sound)
    (Ownership.start_sound opened)

/-- A set command for person 9 with a card. -/
def setCommand (card : UInt8) : Memory :=
  { byte := fun index =>
      if index = idtiUserinfoOffId then 9
      else if index = idtiUserdataOffCard then card
      else 0 }

def setCommandLen : Nat :=
  idtiUserinfoLen + acuUserNameLen + idtiUserdataLenCard

def setCommandCard (card : UInt8) : CardId :=
  proxToCardId ((setCommand card).advance idtiUserdataOffCard)

theorem one_person_one_card_set_delete :
    Always ownershipStep OneCard (Ownership.start .first)
      [.set (setCommand 1) setCommandLen, .delete (setCommand 1) setCommandLen] := by
  have empty : AcuUsers.first.roster.cards.rows = [] := by decide
  refine one_person_one_card reopen_blank ?_
  rintro afterSet ⟨⟩
  refine ⟨?_, ?_⟩
  · intro card _ row member
    have member : row ∈ AcuUsers.first.roster.cards.rows := member
    rw [empty] at member
    cases member
  · rintro afterDelete ⟨⟩
    refine ⟨?_, trivial⟩
    intro _ _
    show (usercmdSet AcuUsers.first (setCommand 1) setCommandLen).2.faults.succeeds .delete =
      true
    decide +kernel

/-- The card that was replaced still resolves to its person. -/
theorem replaced_card_resolves :
    ¬ Always ownershipStep OneCard (Ownership.start .first)
      [.set (setCommand 1) setCommandLen, .set (setCommand 2) setCommandLen] := by
  have measured : (run ownershipStep (Ownership.start .first)
      [.set (setCommand 1) setCommandLen, .set (setCommand 2) setCommandLen]).map
        (fun state =>
          (usersLookupByCard state.users (setCommandCard 1)).row?.map
            fun user => state.promise user.userId) = some (some (.only (setCommandCard 2))) := by
    decide +kernel
  intro kept
  obtain ⟨final, reached, resolved⟩ := Option.map_eq_some_iff.mp measured
  have one := kept.final reached
  obtain ⟨user, found, promised⟩ := Option.map_eq_some_iff.mp resolved
  have admits := one.lookups _ user (Lookup.row?_eq_some.mp found)
  rw [promised] at admits
  have same : setCommandCard 1 = setCommandCard 2 := admits
  revert same
  decide +kernel

end Acud
