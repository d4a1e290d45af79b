/-
Module: Acud.Proofs.AccessDecision
Purpose: A card is granted exactly when its person is admitted now and no read failed.
Trusted boundary: none
Main exports:
  Admitted, JudgeSucceeds, accessJudge_granted
-/
import Acud.Proofs.CardOwnership
import Mathlib.Data.Int.Bitwise

namespace Acud

open Lib

/-!
What the decision is for is said without the code: `Admitted` names the rows that let a
person in at a moment of local time.  `JudgeSucceeds` names the reads the decision needs.
The slots of a group are stepped through one by one and the scan ends at the first that
admits, so a step behind it is not needed; a group that admits nobody is read to its end.

[SRC src/acud/access.c, src/acud/db.c, src/acud/users.c]
-/

/-! ### Who is admitted -/

/-- The dates of a group contain a day; dates are compared as texts. -/
def ValidationRow.Contains (row : ValidationRow) (day : String) : Prop :=
  row.startDate ≤ day ∧ day ≤ row.endDate

/-- A slot admits a moment: bit 15 of the mask is Sunday, bit 9 is Saturday, and both ends
belong to the slot. -/
structure TimezoneRow.Admits (row : TimezoneRow) (moment : Tm) : Prop where
  weekday : row.weekSelect / 2 ^ (15 - moment.wday).toNat % 2 = 1
  started : row.startHour * 60 + row.startMin ≤ moment.hour * 60 + moment.min
  running : moment.hour * 60 + moment.min ≤ row.endHour * 60 + row.endMin

/-- A card admits its person at the present moment. -/
structure Admitted (roster : Roster) (db : SettingsDb) (clock : Clock) (cardId : CardId)
    (user : AcuUserRecord) : Prop where
  card : ∃ card ∈ roster.cards.rows, card.cardId = cardId ∧ card.userId = user.userId
  person : user ∈ roster.users.rows
  enabled : user.accessOption &&& acuUserOptEnable ≠ 0
  valid : user.validationCode = 0 ∨
    ∃ row ∈ db.validations, row.validationId = user.validationCode.toNat ∧
      row.Contains clock.localDate
  inTime : user.timezoneCode = 0 ∨
    ∃ row ∈ db.timezones, row.timezoneId = user.timezoneCode.toNat ∧
      row.Admits (clock.localtime clock.now)

/-! ### Which reads are needed -/

/-- The slots of a group in the order the database returns them. -/
def SettingsDb.slots (db : SettingsDb) (code : UInt16) : List TimezoneRow :=
  db.timezones.filter fun row => row.timezoneId = code.toNat

/-- The step that ends the scan of a group: the first slot that admits the moment, or the
step that finds no further slot. -/
def lastStep (slots : List TimezoneRow) (moment : Tm) : Nat :=
  slots.findIdx fun row => row.weekOk moment.wday && row.timeOk (moment.hour * 60 + moment.min)

/-- The reads that the decision about a person needs succeed. -/
structure JudgeSucceeds (users : AcuUsers) (db : SettingsDb) (reads : JudgeReads)
    (clock : Clock) (user : AcuUserRecord) : Prop where
  lookup : users.readable = true
  validation : user.validationCode ≠ 0 → reads.validation = true
  prepared : user.timezoneCode ≠ 0 → reads.timezonePrepare = true
  stepped : user.timezoneCode ≠ 0 →
    ∀ step ≤ lastStep (db.slots user.timezoneCode) (clock.localtime clock.now),
      reads.timezoneStep step = true

/-! ### The groups -/

theorem TimezoneRow.admits_iff (row : TimezoneRow) (moment : Tm) :
    (row.weekOk moment.wday && row.timeOk (moment.hour * 60 + moment.min)) = true ↔
      row.Admits moment := by
  have shift : row.weekSelect >>> (15 - moment.wday).toNat =
      row.weekSelect / 2 ^ (15 - moment.wday).toNat :=
    Int.shiftRight_eq_div_pow _ _
  simp only [TimezoneRow.weekOk, TimezoneRow.timeOk, shift, Bool.and_eq_true, decide_eq_true_eq]
  constructor
  · rintro ⟨weekday, started, running⟩
    exact ⟨weekday, started, running⟩
  · rintro ⟨weekday, started, running⟩
    exact ⟨weekday, started, running⟩

theorem dbCheckValidation_true {db : SettingsDb} {reads : JudgeReads} {clock : Clock}
    {code : UInt16} :
    dbCheckValidation db reads clock code = some true ↔
      (code ≠ 0 → reads.validation = true) ∧
        (code = 0 ∨ ∃ row ∈ db.validations, row.validationId = code.toNat ∧
          row.Contains clock.localDate) := by
  unfold dbCheckValidation ValidationRow.Contains
  by_cases free : code = 0
  · simp [free]
  · by_cases read : reads.validation = true
    · simp [free, read, and_assoc]
    · simp [free, read]

/-- The scan admits when a slot does and every step up to it succeeds. -/
theorem timezoneLoop_true (reads : JudgeReads) (moment : Tm) (slots : List TimezoneRow)
    (step : Nat) :
    timezoneLoop reads (moment.hour * 60 + moment.min) moment.wday step slots = some true ↔
      (∀ index ≤ lastStep slots moment, reads.timezoneStep (step + index) = true) ∧
        ∃ row ∈ slots, row.Admits moment := by
  induction slots generalizing step with
  | nil =>
      unfold timezoneLoop
      split <;> simp
  | cons row rest ih =>
      unfold timezoneLoop
      cases admits : row.weekOk moment.wday && row.timeOk (moment.hour * 60 + moment.min) with
      | true =>
          have last : lastStep (row :: rest) moment = 0 := by
            simp [lastStep, List.findIdx_cons, admits]
          have now : ∃ slot ∈ row :: rest, slot.Admits moment :=
            ⟨row, List.mem_cons_self, (row.admits_iff moment).mp admits⟩
          simp only [last, now, and_true]
          split
          next read => simp [read]
          next failed => simp [failed]
      | false =>
          have last : lastStep (row :: rest) moment = lastStep rest moment + 1 := by
            simp [lastStep, List.findIdx_cons, admits]
          have refuses : ¬ row.Admits moment := fun good => by
            rw [(row.admits_iff moment).mpr good] at admits
            cases admits
          have later : (∃ slot ∈ row :: rest, slot.Admits moment) ↔
              ∃ slot ∈ rest, slot.Admits moment := by
            simp [refuses]
          rw [later, last]
          split
          next read =>
            simp only [Bool.false_eq_true, if_false, ih (step + 1)]
            refine and_congr_left fun _ =>
              ⟨fun steps index inside => ?_, fun steps index inside => ?_⟩
            · cases index with
              | zero => exact read
              | succ index =>
                  have := steps index (by omega)
                  rwa [Nat.add_right_comm] at this
            · have := steps (index + 1) (by omega)
              rwa [← Nat.add_assoc, Nat.add_right_comm] at this
          next failed =>
            constructor
            · intro impossible
              cases impossible
            · rintro ⟨steps, _⟩
              exact absurd (steps 0 (Nat.zero_le _)) failed

theorem dbCheckTimezone_true {db : SettingsDb} {reads : JudgeReads} {clock : Clock}
    {code : UInt16} :
    dbCheckTimezone db reads clock code = some true ↔
      ((code ≠ 0 → reads.timezonePrepare = true) ∧
        (code ≠ 0 → ∀ step ≤ lastStep (db.slots code) (clock.localtime clock.now),
          reads.timezoneStep step = true)) ∧
        (code = 0 ∨ ∃ row ∈ db.timezones, row.timezoneId = code.toNat ∧
          row.Admits (clock.localtime clock.now)) := by
  unfold dbCheckTimezone
  by_cases free : code = 0
  · simp [free]
  · have group : (∃ row ∈ db.slots code, row.Admits (clock.localtime clock.now)) ↔
        ∃ row ∈ db.timezones, row.timezoneId = code.toNat ∧
          row.Admits (clock.localtime clock.now) := by
      simp [SettingsDb.slots, and_assoc]
    rw [if_neg free]
    split
    next prepared =>
      have scan := timezoneLoop_true reads (clock.localtime clock.now) (db.slots code) 0
      simp only [Nat.zero_add, group] at scan
      simp only [SettingsDb.slots] at scan ⊢
      rw [scan]
      simp [free, prepared]
    next unprepared => simp [free, unprepared]

/-! ### The decision -/

/-- The nested select finds the person the card row names. -/
theorem usersLookupByCard_found {users : AcuUsers} {cardId : CardId} {user : AcuUserRecord} :
    usersLookupByCard users cardId = .found user ↔
      users.readable = true ∧
        (∃ card ∈ users.roster.cards.rows, card.cardId = cardId ∧ card.userId = user.userId) ∧
        user ∈ users.roster.users.rows := by
  have resolves : users.roster.userOfCard cardId = some user ↔
      (∃ card ∈ users.roster.cards.rows, card.cardId = cardId ∧ card.userId = user.userId) ∧
        user ∈ users.roster.users.rows := by
    constructor
    · intro resolved
      obtain ⟨card, found, person⟩ := Option.bind_eq_some_iff.mp resolved
      exact ⟨Roster.row_of_userOfCard resolved, Table.mem_of_find? person⟩
    · rintro ⟨⟨card, member, rfl, owner⟩, person⟩
      have found : users.roster.users.find? card.userId = some user := by
        rw [owner]
        exact Table.find?_of_mem person
      rw [Roster.userOfCard, Table.find?_of_mem member, Option.bind_some, found]
  rw [← resolves]
  constructor
  · intro found
    refine ⟨?_, userOfCard_of_lookup found⟩
    unfold usersLookupByCard at found
    split at found
    next readable => exact readable
    next => cases found
  · rintro ⟨readable, resolved⟩
    rw [usersLookupByCard, if_pos readable, resolved]
    rfl

/-- The decision in terms of its three reads. -/
theorem accessJudge_steps {users : AcuUsers} {db : SettingsDb} {reads : JudgeReads}
    {clock : Clock} {cardId : CardId} :
    (accessJudge users db reads clock cardId).1 = .granted ↔
      ∃ user, usersLookupByCard users cardId = .found user ∧
        user.accessOption &&& acuUserOptEnable ≠ 0 ∧
        dbCheckValidation db reads clock user.validationCode = some true ∧
        dbCheckTimezone db reads clock user.timezoneCode = some true := by
  unfold accessJudge
  cases usersLookupByCard users cardId with
  | error => simp
  | notFound => simp
  | found user =>
      simp only [Lookup.found.injEq, exists_eq_left']
      by_cases disabled : user.accessOption &&& acuUserOptEnable = 0
      · simp [disabled]
      · rw [if_neg disabled]
        cases dbCheckValidation db reads clock user.validationCode with
        | none => simp
        | some valid =>
            cases valid with
            | false => simp
            | true =>
                cases dbCheckTimezone db reads clock user.timezoneCode with
                | none => simp
                | some inTime => cases inTime <;> simp [disabled]

/-- A card is granted if and only if it admits its person now and every read the decision
needs succeeds. -/
theorem accessJudge_granted (users : AcuUsers) (db : SettingsDb) (reads : JudgeReads)
    (clock : Clock) (cardId : CardId) :
    (accessJudge users db reads clock cardId).1 = .granted ↔
      ∃ user, Admitted users.roster db clock cardId user ∧
        JudgeSucceeds users db reads clock user := by
  rw [accessJudge_steps]
  refine exists_congr fun user => ?_
  rw [usersLookupByCard_found, dbCheckValidation_true, dbCheckTimezone_true]
  constructor
  · rintro ⟨⟨readable, card, person⟩, enabled, ⟨validation, valid⟩, ⟨prepared, stepped⟩, inTime⟩
    exact ⟨⟨card, person, enabled, valid, inTime⟩, ⟨readable, validation, prepared, stepped⟩⟩
  · rintro ⟨⟨card, person, enabled, valid, inTime⟩, ⟨readable, validation, prepared, stepped⟩⟩
    exact ⟨⟨readable, card, person⟩, enabled, ⟨validation, valid⟩, ⟨prepared, stepped⟩, inTime⟩

end Acud
