/-
Module: Acud.Proofs.UserAtomicity
Purpose: When the commands for one user are all-or-nothing.
Trusted boundary: none
Main exports:
  SetAllOrNothing, DeleteAllOrNothing, SetNotTorn, DeleteNotTorn,
  usercmd_all_or_nothing_iff
-/
import Acud.Proofs.CardOwnership

namespace Acud

open Lib

/-!
A command is torn when its first statement has changed a table and its second one does
not follow: a set command then answers Fail with the person stored, and a delete answers
Fail with the cards gone, or OK with the cards left.

[SRC src/acud/usercmd.c, src/acud/users.c]
-/

/-- A set command that answers Fail has changed nothing. -/
def SetAllOrNothing (u : AcuUsers) (data : Memory) (len : Nat) : Prop :=
  (usercmdSet u data len).1 = .fail → (usercmdSet u data len).2.roster.Same u.roster

/-- A delete command that answers Fail has changed nothing, and one that answers OK has
left nothing of the person. -/
structure DeleteAllOrNothing (u : AcuUsers) (data : Memory) (len : Nat) : Prop where
  nothing : (usercmdDelete u data len).1 = .fail →
    (usercmdDelete u data len).2.roster.Same u.roster
  all : (usercmdDelete u data len).1 = .ok →
    (usercmdDelete u data len).2.roster.users.find? (deletedUser data) = none ∧
      ¬ (usercmdDelete u data len).2.roster.HasCard (deletedUser data)

/-- When the person of a set command is stored and changes the table, its card is
stored too. -/
def SetNotTorn (u : AcuUsers) (data : Memory) (len : Nat) : Prop :=
  usercmdNames data len = true →
    u.executes (.put (usercmdSetRecord data len)) = true →
      u.roster.users.find? (usercmdSetRecord data len).userId ≠
          some (usercmdSetRecord data len) →
        ∀ card, usercmdSetCard data len = some card →
          u.executesNext (.putCard card) = true

/-- When the person of a delete command has a card, both its statements take effect or
none does. -/
def DeleteNotTorn (u : AcuUsers) (data : Memory) (len : Nat) : Prop :=
  acuUserIdLen ≤ len → u.roster.HasCard (deletedUser data) →
    u.executes (.deleteCardsOf (deletedUser data)) =
      u.executesNext (.deleteUser (deletedUser data))

namespace Roster

/-- Storing a person changes nothing exactly when the person is stored like that. -/
theorem same_put_iff {roster : Roster} {record : AcuUserRecord} :
    (roster.put record).Same roster ↔
      roster.users.find? record.userId = some record := by
  constructor
  · intro same
    rw [← same.users record.userId]
    exact Table.find?_insertOrReplace_self _ _
  · intro stored
    refine { users := fun userId => ?_, cards := fun _ => rfl }
    unfold put
    rw [Table.find?_insertOrReplace]
    split
    next same => rw [same, stored]
    next => rfl

theorem hasCard_deleteCardsOf (roster : Roster) (userId : UserId) :
    ¬ (roster.deleteCardsOf userId).HasCard userId := by
  rintro ⟨card, member, owner⟩
  have kept := (Table.mem_deleteWhere.mp member).2
  rw [owner] at kept
  simp at kept

theorem find?_deleteUser (roster : Roster) (userId : UserId) :
    (roster.deleteUser userId).users.find? userId = none := by
  unfold deleteUser
  rw [Table.find?_deleteWhere_key, if_pos rfl]

end Roster

theorem setAllOrNothing_iff (u : AcuUsers) (data : Memory) (len : Nat) :
    SetAllOrNothing u data len ↔ SetNotTorn u data len := by
  have outcome := usercmdSet_outcome u data len
  unfold SetAllOrNothing SetNotTorn
  generalize usercmdSet u data len = result at outcome ⊢
  cases outcome with
  | refused names =>
      apply iff_of_true
      · exact fun _ => Roster.Same.refl _
      · intro named
        rw [names] at named
        cases named
  | notStored names fails roster =>
      apply iff_of_true
      · intro _
        rw [roster]
        exact Roster.Same.refl _
      · intro _ done
        rw [fails] at done
        cases done
  | stored names done without faults users roster =>
      apply iff_of_true nofun
      intro _ _ _ card carried
      rw [without] at carried
      cases carried
  | torn names done carried fails roster =>
      rw [roster]
      constructor
      · intro nothing _ _ changes
        exact absurd (Roster.same_put_iff.mp (nothing rfl)) changes
      · intro together _
        apply Roster.same_put_iff.mpr
        by_contra changes
        have follows := together names done changes _ carried
        rw [fails] at follows
        cases follows
  | paired names done carried follows faults users cards roster =>
      apply iff_of_true nofun
      intro _ _ _ card other
      rw [carried] at other
      cases other
      exact follows

/-- A delete of someone without a card is a delete of the person. -/
theorem AcuUsers.same_rosterWithoutCards {u : AcuUsers} {userId : UserId}
    (without : ¬ u.roster.HasCard userId) :
    (u.rosterWithoutCards userId).Same u.roster ∧
      ¬ (u.rosterWithoutCards userId).HasCard userId := by
  unfold rosterWithoutCards
  split
  · exact ⟨Roster.same_deleteCardsOf without, Roster.hasCard_deleteCardsOf _ _⟩
  · exact ⟨Roster.Same.refl _, without⟩

/-- What a delete that is long enough answers and leaves. -/
theorem usercmdDelete_roster (u : AcuUsers) (data : Memory) {len : Nat}
    (long : acuUserIdLen ≤ len) :
    (usercmdDelete u data len).1 =
        (if u.executesNext (.deleteUser (deletedUser data)) then .ok else .fail) ∧
      (usercmdDelete u data len).2.roster =
        if u.executesNext (.deleteUser (deletedUser data)) then
          (u.rosterWithoutCards (deletedUser data)).deleteUser (deletedUser data)
        else u.rosterWithoutCards (deletedUser data) := by
  obtain ⟨answer, _, roster⟩ := usersDelete_effect u (deletedUser data)
  rw [usercmdDelete_eq u data long, answer]
  exact ⟨rfl, roster⟩

/-- The person was deleted: no card may be left. -/
theorem deleteAllOrNothing_of_deleted {u : AcuUsers} {data : Memory} {len : Nat}
    (long : acuUserIdLen ≤ len)
    (deleted : u.executesNext (.deleteUser (deletedUser data)) = true) :
    DeleteAllOrNothing u data len ↔
      ¬ (u.rosterWithoutCards (deletedUser data)).HasCard (deletedUser data) := by
  obtain ⟨answer, roster⟩ := usercmdDelete_roster u data long
  rw [deleted, if_pos rfl] at answer roster
  constructor
  · intro whole
    have none := (whole.all answer).2
    rw [roster] at none
    exact none
  · intro none
    constructor
    · intro failed
      rw [answer] at failed
      cases failed
    · intro _
      rw [roster]
      exact ⟨Roster.find?_deleteUser _ _, none⟩

/-- The person was not deleted: the cards must be as they were. -/
theorem deleteAllOrNothing_of_kept {u : AcuUsers} {data : Memory} {len : Nat}
    (long : acuUserIdLen ≤ len)
    (kept : u.executesNext (.deleteUser (deletedUser data)) = false) :
    DeleteAllOrNothing u data len ↔
      (u.rosterWithoutCards (deletedUser data)).Same u.roster := by
  obtain ⟨answer, roster⟩ := usercmdDelete_roster u data long
  rw [kept, if_neg Bool.false_ne_true] at answer roster
  constructor
  · intro whole
    have same := whole.nothing answer
    rw [roster] at same
    exact same
  · intro same
    constructor
    · intro _
      rw [roster]
      exact same
    · intro done
      rw [answer] at done
      cases done

/-- The cards of the person are gone exactly when their statement took effect, or there
was none. -/
theorem AcuUsers.hasCard_rosterWithoutCards_iff {u : AcuUsers} {userId : UserId} :
    ¬ (u.rosterWithoutCards userId).HasCard userId ↔
      (u.roster.HasCard userId → u.executes (.deleteCardsOf userId) = true) := by
  constructor
  · intro none carded
    by_contra fails
    rw [rosterWithoutCards, if_neg fails] at none
    exact none carded
  · intro executes
    by_cases carded : u.roster.HasCard userId
    · rw [rosterWithoutCards, if_pos (executes carded)]
      exact Roster.hasCard_deleteCardsOf _ _
    · exact (same_rosterWithoutCards carded).2

/-- The cards are as they were exactly when their statement failed, or there was none. -/
theorem AcuUsers.same_rosterWithoutCards_iff {u : AcuUsers} {userId : UserId} :
    (u.rosterWithoutCards userId).Same u.roster ↔
      (u.roster.HasCard userId → u.executes (.deleteCardsOf userId) = false) := by
  constructor
  · intro same carded
    by_contra done
    rw [rosterWithoutCards, if_pos (Bool.eq_true_of_not_eq_false done)] at same
    exact Roster.not_same_deleteCardsOf carded rfl same
  · intro fails
    by_cases carded : u.roster.HasCard userId
    · rw [rosterWithoutCards, fails carded]
      exact Roster.Same.refl _
    · exact (same_rosterWithoutCards carded).1

theorem deleteAllOrNothing_iff (u : AcuUsers) (data : Memory) (len : Nat) :
    DeleteAllOrNothing u data len ↔ DeleteNotTorn u data len := by
  unfold DeleteNotTorn
  by_cases long : acuUserIdLen ≤ len
  · cases second : u.executesNext (.deleteUser (deletedUser data)) with
    | true =>
        rw [deleteAllOrNothing_of_deleted long second, AcuUsers.hasCard_rosterWithoutCards_iff]
        exact ⟨fun together _ => together, fun together => together long⟩
    | false =>
        rw [deleteAllOrNothing_of_kept long second, AcuUsers.same_rosterWithoutCards_iff]
        exact ⟨fun together _ => together, fun together => together long⟩
  · have refused : usercmdDelete u data len = (.fail, u) := if_pos (Nat.not_le.mp long)
    apply iff_of_true
    · constructor
      · intro _
        rw [refused]
        exact Roster.Same.refl _
      · intro done
        rw [refused] at done
        cases done
    · exact fun other => absurd other long

/-- **The commands for one user are all-or-nothing** exactly when they are not torn. -/
theorem usercmd_all_or_nothing_iff (u : AcuUsers) (data : Memory) (len : Nat) :
    (SetAllOrNothing u data len ↔ SetNotTorn u data len) ∧
      (DeleteAllOrNothing u data len ↔ DeleteNotTorn u data len) :=
  ⟨setAllOrNothing_iff u data len, deleteAllOrNothing_iff u data len⟩

/-- A store with this roster in which one statement, counted from the next one, fails. -/
def storeFailing (roster : Roster) (failing : Nat) : AcuUsers :=
  { conn :=
      Connection.opened
        { users := some roster.users
          userCards := some roster.cards
          usersLoad := none
          userCardsLoad := none }
    faults :=
      { ok := fun _ index => decide (index ≠ failing)
        used := 0 }
    loading := false
    inTxn := false
    loadRows := 0
    loadTotal := 0 }

/-- Person 9 with a card. -/
def cardedRoster : Roster :=
  match usercmdSetCard (setCommand 1) setCommandLen with
  | some card =>
      (Roster.empty.put (usercmdSetRecord (setCommand 1) setCommandLen)).putCard card
  | none => Roster.empty

/-- The card of a new person is not stored; the cards of a person are not deleted, and
the person is not. -/
theorem torn_commands :
    ¬ SetAllOrNothing (storeFailing Roster.empty 1) (setCommand 1) setCommandLen ∧
      ¬ DeleteAllOrNothing (storeFailing cardedRoster 0) (setCommand 1) setCommandLen ∧
      ¬ DeleteAllOrNothing (storeFailing cardedRoster 1) (setCommand 1) setCommandLen := by
  have carded : cardedRoster.HasCard (deletedUser (setCommand 1)) := by
    have stored : (cardedRoster.cards.rows.any fun card =>
        card.userId = deletedUser (setCommand 1)) = true := by decide +kernel
    obtain ⟨card, member, owner⟩ := List.any_eq_true.mp stored
    exact ⟨card, member, of_decide_eq_true owner⟩
  refine ⟨?_, ?_, ?_⟩
  · rw [setAllOrNothing_iff]
    intro whole
    have second := whole (by decide +kernel) (by decide +kernel) (by decide +kernel)
      { cardId := setCommandCard 1
        userId := deletedUser (setCommand 1)
        proxRaw := Blob.ofMemory ((setCommand 1).advance idtiUserdataOffCard) 0 acuUserProxLen }
      (by decide +kernel)
    exact absurd second (by decide +kernel)
  · rw [deleteAllOrNothing_iff]
    intro whole
    exact absurd (whole (by decide) carded) (by decide +kernel)
  · rw [deleteAllOrNothing_iff]
    intro whole
    exact absurd (whole (by decide) carded) (by decide +kernel)

end Acud
