/-
Module: Acud.Proofs.UploadRecords
Purpose: What the records of an upload put into the load tables.
Trusted boundary: none
Main exports:
  decodeRecord, storeRecord_eq, Roster.load, Loads, Inserting, Intake.store_loads,
  Intake.stored_all, Roster.Carried, Intake.storeAll_carried
-/
import Acud.Proofs.UploadStream

namespace Acud

open Lib

/-!
A record carries a user and possibly a card.  It is refused when its checksum is
wrong or its user id is empty; otherwise up to two rows are inserted.

`Loads` follows the load tables through the records: a record that is counted as
stored was decoded, and the load tables hold what it carries.

[SRC src/acud/userbin.c]
-/

/-! ### Records and what they carry -/

/-- The user and the card of a record; `none` when its checksum is wrong or its user
id is empty. -/
def decodeRecord (raw : Bytes) : Option (AcuUserRecord × Option AcuUserCard) :=
  let image := Memory.ofBytes raw
  let info := userbinParseUserInfo (image.advance idtiUserbinOffUser)
  let binCard : CardId := Blob.ofMemory image idtiUserbinOffCard acuUserCardLen
  if recordCrcOk image && !info.userId.isZero then
    some
      ({ info with
          lcdName := Blob.ofMemory image idtiUserbinOffName acuUserNameLen
          groupCodes := Blob.ofMemory image idtiUserbinOffGroup acuUserGroupLen
          restrictType := image.byte idtiUserbinOffRestrict
          restrictLimitType := image.byte (idtiUserbinOffRestrict + 1)
          restrictLimitCount := image.byte (idtiUserbinOffRestrict + 2) },
        if binCard.isZero then none
        else
          some
            { cardId := binCard
              userId := info.userId
              proxRaw :=
                Blob.ofMemory (Memory.ofBytes binCard.reverse.bytes) 0 acuUserProxLen })
  else none

/-- The card of a record belongs to its user. -/
theorem userId_of_decodeRecord {raw : Bytes} {record : AcuUserRecord} {card : AcuUserCard}
    (decoded : decodeRecord raw = some (record, some card)) : card.userId = record.userId := by
  unfold decodeRecord at decoded
  simp only at decoded
  split at decoded
  next =>
    obtain ⟨rfl, carried⟩ := Prod.mk.inj (Option.some.inj decoded)
    split at carried
    next => cases carried
    next =>
      cases carried
      rfl
  next => cases decoded

/-- The user id of a record that is not refused is not empty. -/
theorem userId_nonzero_of_decodeRecord {raw : Bytes} {record : AcuUserRecord}
    {card : Option AcuUserCard} (decoded : decodeRecord raw = some (record, card)) :
    record.userId.isZero = false := by
  unfold decodeRecord at decoded
  simp only at decoded
  split at decoded
  next accepted =>
    obtain ⟨rfl, _⟩ := Prod.mk.inj (Option.some.inj decoded)
    rw [Bool.and_eq_true, Bool.not_eq_true'] at accepted
    exact accepted.2
  next => cases decoded

/-- Insert a user, and then the card. -/
def storeEntry (users : AcuUsers) (record : AcuUserRecord) (card : Option AcuUserCard) :
    Bool × AcuUsers :=
  match usersLoadPut users record with
  | (false, failed) => (false, failed)
  | (true, stored) =>
      match card with
      | none => (true, stored)
      | some card => usersLoadPutCard stored card

/-- A record is decoded, and what it carries is inserted. -/
theorem storeRecord_eq (users : AcuUsers) (raw : Bytes) :
    storeRecord users raw =
      match decodeRecord raw with
      | none => (false, users)
      | some (record, card) => storeEntry users record card := by
  unfold storeRecord decodeRecord
  simp only
  cases recordCrcOk (Memory.ofBytes raw) with
  | false => rfl
  | true =>
      simp only [if_true, Bool.true_and]
      generalize userbinParseUserInfo ((Memory.ofBytes raw).advance idtiUserbinOffUser) = info
      cases info.userId.isZero with
      | true => rfl
      | false =>
          simp only [Bool.false_eq_true, if_false, Bool.not_false, if_true]
          unfold storeEntry
          generalize usersLoadPut users _ = result
          rcases result with ⟨_ | _, after⟩
          · rfl
          · cases (Blob.ofMemory (Memory.ofBytes raw) idtiUserbinOffCard acuUserCardLen).isZero with
            | true => rfl
            | false => rfl

/-! ### What a run of inserts keeps -/

/-- Inserts do not change the running tables, and the download stays on. -/
structure Inserting (before after : AcuUsers) : Prop where
  running : Connection.KeepsView before.running after.running
  loading : after.loading = before.loading
  oracle : after.faults.ok = before.faults.ok

namespace Inserting

theorem refl (u : AcuUsers) : Inserting u u :=
  { running := .refl _
    loading := rfl
    oracle := rfl }

theorem trans {first second third : AcuUsers} (early : Inserting first second)
    (late : Inserting second third) : Inserting first third :=
  { running := early.running.trans late.running
    loading := late.loading.trans early.loading
    oracle := late.oracle.trans early.oracle }

end Inserting

theorem InsertEffect.inserting {u after : AcuUsers} {statement : UsersStmt}
    (effect : InsertEffect u after statement) : Inserting u after :=
  { running := effect.running
    loading := effect.loading
    oracle := effect.oracle }

theorem storeEntry_inserting (users : AcuUsers) (record : AcuUserRecord)
    (card : Option AcuUserCard) : Inserting users (storeEntry users record card).2 := by
  have put := (usersLoadPut_effect users record).inserting
  unfold storeEntry
  split
  next failed refused =>
    rw [refused] at put
    exact put
  next stored done =>
    rw [done] at put
    cases card with
    | none => exact put
    | some card => exact put.trans (usersLoadPutCard_effect stored card).inserting

theorem storeRecord_inserting (users : AcuUsers) (raw : Bytes) :
    Inserting users (storeRecord users raw).2 := by
  rw [storeRecord_eq]
  cases decodeRecord raw with
  | none => exact .refl users
  | some entry => exact storeEntry_inserting users entry.1 entry.2

theorem Intake.store_inserting (intake : Intake) (raw : Bytes) :
    Inserting intake.users (intake.store raw).users := by
  have stored := storeRecord_inserting intake.users raw
  unfold Intake.store
  split
  next users done =>
    rw [done] at stored
    exact stored
  next users refused =>
    rw [refused] at stored
    exact stored

theorem Intake.storeAll_inserting (intake : Intake) (records : List Bytes) :
    Inserting intake.users (records.foldl Intake.store intake).users := by
  induction records generalizing intake with
  | nil => exact .refl _
  | cons raw rest inductionHypothesis =>
      exact (intake.store_inserting raw).trans (inductionHypothesis (intake.store raw))

/-! ### The load tables -/

/-- What a record adds to a roster. -/
def Roster.load (roster : Roster) (entry : AcuUserRecord × Option AcuUserCard) : Roster :=
  match entry.2 with
  | none => roster.put entry.1
  | some card => (roster.put entry.1).putCard card

theorem Roster.users_load (roster : Roster) (entry : AcuUserRecord × Option AcuUserCard) :
    (roster.load entry).users = roster.users.insertOrReplace entry.1 := by
  unfold Roster.load
  split <;> rfl

/-- Users are stored one after another. -/
theorem Roster.users_foldl_load (roster : Roster)
    (entries : List (AcuUserRecord × Option AcuUserCard)) :
    (entries.foldl Roster.load roster).users = roster.users.insertAll (entries.map (·.1)) := by
  induction entries generalizing roster with
  | nil => rfl
  | cons entry rest inductionHypothesis =>
      rw [List.foldl_cons, inductionHypothesis, users_load]
      rfl

/-- And so are the cards. -/
theorem Roster.cards_foldl_load (roster : Roster)
    (entries : List (AcuUserRecord × Option AcuUserCard)) :
    (entries.foldl Roster.load roster).cards =
      roster.cards.insertAll (entries.filterMap (·.2)) := by
  induction entries generalizing roster with
  | nil => rfl
  | cons entry rest inductionHypothesis =>
      obtain ⟨record, _ | card⟩ := entry
      · exact inductionHypothesis _
      · exact inductionHypothesis _

/-- The download is on, and the load tables hold this roster. -/
structure Loads (u : AcuUsers) (roster : Roster) : Prop where
  loading : u.loading = true
  load : u.conn.view.load = .of roster

/-- An insert that fails half way has stored the user at most, and one that is answered
has stored everything. -/
theorem storeEntry_loads {users : AcuUsers} {roster : Roster} (loads : Loads users roster)
    (record : AcuUserRecord) (card : Option AcuUserCard) :
    (∃ other ∈ [roster, roster.put record, roster.load (record, card)],
        Loads (storeEntry users record card).2 other) ∧
      ((storeEntry users record card).1 = true →
        Loads (storeEntry users record card).2 (roster.load (record, card))) := by
  have put := usersLoadPut_effect users record
  have answered : (usersLoadPut users record).1 = true → users.inserts (.loadPut record) = true :=
    inserts_of_usersLoadPut
  have kept : ∃ other ∈ [roster, roster.put record], Loads (usersLoadPut users record).2 other := by
    by_cases inserted : users.inserts (.loadPut record) = true
    · exact ⟨_, by simp, put.loading.trans loads.loading, put.load_put inserted loads.load⟩
    · exact ⟨roster, by simp, put.loading.trans loads.loading,
        (put.load_refused inserted).trans loads.load⟩
  unfold storeEntry
  split
  next failed refused =>
    rw [refused] at kept
    obtain ⟨other, among, held⟩ := kept
    refine ⟨⟨other, ?_, held⟩, by simp⟩
    exact List.mem_append_left [roster.load (record, card)] among
  next stored done =>
    rw [done] at put answered
    have withUser : Loads stored (roster.put record) :=
      { loading := put.loading.trans loads.loading
        load := put.load_put (answered rfl) loads.load }
    cases card with
    | none => exact ⟨⟨_, by simp, withUser⟩, fun _ => withUser⟩
    | some card =>
        have putCard := usersLoadPutCard_effect stored card
        have loading := putCard.loading.trans withUser.loading
        refine ⟨?_, fun carried => ?_⟩
        · by_cases inserted : stored.inserts (.loadPutCard card) = true
          · exact ⟨roster.load (record, some card), by simp, loading,
              putCard.load_putCard inserted withUser.load⟩
          · exact ⟨roster.put record, by simp, loading,
              (putCard.load_refused inserted).trans withUser.load⟩
        · exact
            { loading := loading
              load := putCard.load_putCard (inserts_of_usersLoadPutCard carried) withUser.load }

/-- One record: refused ones leave the load tables, and stored ones add what they
carry. -/
theorem Intake.store_loads {intake : Intake} {roster : Roster} (loads : Loads intake.users roster)
    (raw : Bytes) :
    (∃ other, Loads (intake.store raw).users other ∧
        (other = roster ∨ ∃ entry, decodeRecord raw = some entry ∧
          other ∈ [roster.put entry.1, roster.load entry])) ∧
      ((intake.store raw).parsedBad = intake.parsedBad →
        ∃ entry, decodeRecord raw = some entry ∧
          Loads (intake.store raw).users (roster.load entry)) := by
  unfold Intake.store
  cases decoded : decodeRecord raw with
  | none =>
      have stored : storeRecord intake.users raw = (false, intake.users) := by
        rw [storeRecord_eq, decoded]
      rw [stored]
      refine ⟨⟨roster, loads, .inl rfl⟩, fun counted => ?_⟩
      exact absurd counted (Nat.succ_ne_self _)
  | some entry =>
      have stored : storeRecord intake.users raw = storeEntry intake.users entry.1 entry.2 := by
        rw [storeRecord_eq, decoded]
      obtain ⟨⟨other, among, kept⟩, carried⟩ := storeEntry_loads loads entry.1 entry.2
      have source : other = roster ∨ ∃ found, some entry = some found ∧
          other ∈ [roster.put found.1, roster.load found] :=
        (List.mem_cons.mp among).imp_right fun added => ⟨entry, rfl, added⟩
      rw [← stored] at kept carried
      split
      next users done =>
        rw [done] at kept carried
        exact ⟨⟨other, kept, source⟩, fun _ => ⟨entry, rfl, carried rfl⟩⟩
      next users refused =>
        rw [refused] at kept
        exact ⟨⟨other, kept, source⟩, fun counted => absurd counted (Nat.succ_ne_self _)⟩

/-- Records are counted, each one as stored or as bad. -/
theorem Intake.store_counts (intake : Intake) (raw : Bytes) :
    intake.parsedBad ≤ (intake.store raw).parsedBad ∧
      (intake.store raw).parsedOk + (intake.store raw).parsedBad =
        intake.parsedOk + intake.parsedBad + 1 := by
  unfold Intake.store
  split
  next =>
    refine ⟨Nat.le_refl _, ?_⟩
    simp only
    omega
  next => exact ⟨Nat.le_succ _, rfl⟩

theorem Intake.storeAll_counts (intake : Intake) (records : List Bytes) :
    intake.parsedBad ≤ (records.foldl Intake.store intake).parsedBad ∧
      (records.foldl Intake.store intake).parsedOk +
          (records.foldl Intake.store intake).parsedBad =
        intake.parsedOk + intake.parsedBad + records.length := by
  induction records generalizing intake with
  | nil => exact ⟨Nat.le_refl _, rfl⟩
  | cons raw rest inductionHypothesis =>
      obtain ⟨grows, total⟩ := intake.store_counts raw
      obtain ⟨growsLater, totalLater⟩ := inductionHypothesis (intake.store raw)
      rw [List.foldl_cons, List.length_cons]
      omega

/-- When no record was counted as bad, every one was decoded, and the load tables hold
what they carry. -/
theorem Intake.stored_all {intake : Intake} {roster : Roster} (loads : Loads intake.users roster)
    {records : List Bytes}
    (good : (records.foldl Intake.store intake).parsedBad = intake.parsedBad) :
    (∀ raw ∈ records, (decodeRecord raw).isSome = true) ∧
      Loads (records.foldl Intake.store intake).users
        ((records.filterMap decodeRecord).foldl Roster.load roster) := by
  induction records generalizing intake roster with
  | nil => exact ⟨by simp, loads⟩
  | cons raw rest inductionHypothesis =>
      have first := (intake.store_counts raw).1
      have later := ((intake.store raw).storeAll_counts rest).1
      rw [List.foldl_cons] at good ⊢
      have kept : (intake.store raw).parsedBad = intake.parsedBad := by omega
      obtain ⟨entry, decoded, next⟩ := (Intake.store_loads loads raw).2 kept
      obtain ⟨decodedRest, loaded⟩ := inductionHypothesis next (good.trans kept.symm)
      refine ⟨?_, ?_⟩
      · intro other member
        rcases List.mem_cons.mp member with rfl | behind
        · rw [decoded]
          rfl
        · exact decodedRest other behind
      · rw [List.filterMap_cons_some decoded]
        exact loaded

/-- Every user and every card of the roster is carried by a record. -/
structure Roster.Carried (roster : Roster) (records : List Bytes) : Prop where
  users : ∀ record ∈ roster.users.rows, ∃ raw ∈ records, ∃ card,
    decodeRecord raw = some (record, card)
  cards : ∀ card ∈ roster.cards.rows, ∃ raw ∈ records, ∃ record,
    decodeRecord raw = some (record, some card)

theorem Roster.carried_empty (records : List Bytes) : Roster.empty.Carried records where
  users := by
    intro record among
    cases among
  cards := by
    intro card among
    cases among

section Carried

variable {roster : Roster} {records : List Bytes} {raw : Bytes} {record : AcuUserRecord}
  {card : Option AcuUserCard}

theorem Roster.Carried.put (carried : roster.Carried records) (sent : raw ∈ records)
    (decoded : decodeRecord raw = some (record, card)) : (roster.put record).Carried records where
  users := by
    intro other among
    rcases Table.mem_insertOrReplace.mp among with ⟨before, _⟩ | rfl
    · exact carried.users other before
    · exact ⟨raw, sent, card, decoded⟩
  cards := carried.cards

theorem Roster.Carried.load (carried : roster.Carried records) (sent : raw ∈ records)
    (decoded : decodeRecord raw = some (record, card)) :
    (roster.load (record, card)).Carried records := by
  have stored := carried.put sent decoded
  cases card with
  | none => exact stored
  | some card =>
      refine { users := stored.users, cards := ?_ }
      intro other among
      rcases Table.mem_insertOrReplace.mp among with ⟨before, _⟩ | rfl
      · exact stored.cards other before
      · exact ⟨raw, sent, record, decoded⟩

/-- Whichever inserts fail, the load tables hold nothing but what the records carry. -/
theorem Intake.storeAll_carried {intake : Intake} {rest : List Bytes}
    (loads : Loads intake.users roster) (carried : roster.Carried records)
    (sent : ∀ raw ∈ rest, raw ∈ records) :
    ∃ other, Loads (rest.foldl Intake.store intake).users other ∧ other.Carried records := by
  induction rest generalizing intake roster with
  | nil => exact ⟨roster, loads, carried⟩
  | cons raw rest inductionHypothesis =>
      obtain ⟨here, later⟩ := List.forall_mem_cons.mp sent
      obtain ⟨other, kept, source⟩ := (Intake.store_loads loads raw).1
      apply inductionHypothesis kept _ later
      rcases source with rfl | ⟨entry, decoded, added⟩
      · exact carried
      · rw [List.mem_pair] at added
        rcases added with rfl | rfl
        · exact carried.put here decoded
        · exact carried.load here decoded

end Carried

/-- Records that are all refused leave the load tables as they were. -/
theorem Intake.stored_none {intake : Intake} {roster : Roster} (loads : Loads intake.users roster)
    {records : List Bytes} (refused : ∀ raw ∈ records, decodeRecord raw = none) :
    Loads (records.foldl Intake.store intake).users roster := by
  induction records generalizing intake with
  | nil => exact loads
  | cons raw rest inductionHypothesis =>
      have here : storeRecord intake.users raw = (false, intake.users) := by
        rw [storeRecord_eq, refused raw List.mem_cons_self]
      rw [List.foldl_cons]
      apply inductionHypothesis
      · unfold Intake.store
        rw [here]
        exact loads
      · intro other member
        exact refused other (List.mem_cons_of_mem _ member)

end Acud
