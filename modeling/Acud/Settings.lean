/-
Module: Acud.Settings
Purpose: The settings database: stored setting blocks, validity and timezone groups.
Trusted boundary: none
Main exports:
  Clock, SettingsDb, devsetGet, devsetPut, dbCheckValidation, dbCheckTimezone
-/
import Acud.Lib.KeyedTable
import Acud.Lib.Memory
import Acud.Lib.Transaction
import Acud.Users

namespace Acud

open Lib

/-!
`acud.db` keeps the setting blocks the upper system wrote, byte for byte, under
(object, module, slot), and the definitions of the validity and timezone groups
that user records refer to by number.

Local time comes from the C library and its timezone data, which are outside
the repository: `Clock` takes them as functions.

[SRC src/acud/devset.h, src/acud/devset.c, src/acud/db.h, src/acud/db.c]
-/

/-! ### Time -/

/-- The fields of `struct tm` that are read or set. -/
structure Tm where
  year : Int
  mon : Int
  mday : Int
  hour : Int
  min : Int
  sec : Int
  wday : Int
deriving Repr, Inhabited, DecidableEq

/-- The clocks and the conversions of the C library. -/
structure Clock where
  /-- `time(NULL)`. -/
  now : Int
  /-- Seconds of `CLOCK_MONOTONIC`. -/
  monotonic : Int
  localtime : Int → Tm
  /-- `none` is `(time_t)-1`. -/
  mktime : Tm → Option Int
  /-- `clock_settime` is permitted. -/
  settable : Bool

/-! ### Setting blocks -/

/-- The key of a stored block. -/
structure SettingKey where
  object : UInt8
  module : Nat
  slot : Nat
deriving Repr, Inhabited, DecidableEq

/-- A row of `device_settings`. -/
structure DeviceSetting where
  key : SettingKey
  data : Bytes
deriving Repr, Inhabited, DecidableEq

/-- A row of `validations`; dates are texts of the form `YYYY-MM-DD`. -/
structure ValidationRow where
  validationId : Int
  startDate : String
  endDate : String
deriving Repr, Inhabited, DecidableEq

/-- A row of `timezones`.  The hours, minutes and the mask are what `sqlite3_column_int`
reads of a column, its lower 32 bits; no hour is so large that its minutes leave an `int`. -/
structure TimezoneRow where
  timezoneId : Int
  slotIndex : Int
  startHour : Int
  startMin : Int
  endHour : Int
  endMin : Int
  weekSelect : Int
deriving Repr, Inhabited, DecidableEq

/-- `acud.db`; without `device_settings` no block can be stored or found. -/
structure SettingsDb where
  deviceSettings : Option (Table DeviceSetting.key)
  validations : List ValidationRow
  timezones : List TimezoneRow
  faults : Faults SqlKind

/-- The block stored under a key. -/
def SettingsDb.stored (db : SettingsDb) (key : SettingKey) : Option Bytes :=
  (db.deviceSettings.bind fun table => table.find? key).map DeviceSetting.data

/-- A stored block of the expected length. -/
def devsetGet (db : SettingsDb) (key : SettingKey) (outLen : Nat) : Lookup Bytes :=
  if db.faults.succeeds .select && db.deviceSettings.isSome then
    match db.stored key with
    | none => .notFound
    | some data => if data.length = outLen then .found data else .error
  else .error

/-- Store a block, replacing one under the same key. -/
def devsetPut (db : SettingsDb) (key : SettingKey) (data : Bytes) : Bool × SettingsDb :=
  match db.deviceSettings with
  | none => (false, db)
  | some table =>
      if data.isEmpty then (false, db)
      else if db.faults.succeeds .insert then
        (true,
          { db with
            deviceSettings := some (table.insertOrReplace { key := key, data := data })
            faults := db.faults.next })
      else (false, { db with faults := db.faults.next })

/-- Create the table of blocks if it is missing. -/
def devsetInit (db : SettingsDb) : Bool × SettingsDb :=
  if db.faults.succeeds .ddl then
    (true,
      { db with
        deviceSettings := some (db.deviceSettings.getD (Table.empty _))
        faults := db.faults.next })
  else (false, { db with faults := db.faults.next })

/-! ### Groups -/

/-- Which of the database steps of one access decision succeed. -/
structure JudgeReads where
  validation : Bool
  timezonePrepare : Bool
  timezoneStep : Nat → Bool

/-- Every step of the decision succeeds. -/
def JudgeReads.fine : JudgeReads :=
  { validation := true
    timezonePrepare := true
    timezoneStep := fun _ => true }

/-- A number with leading zeros up to a width. -/
def paddedDecimal (width : Nat) (value : Int) : String :=
  let digits := toString value
  String.ofList (List.replicate (width - digits.length) '0') ++ digits

/-- `date('now', 'localtime')`. -/
def Clock.localDate (clock : Clock) : String :=
  let tm := clock.localtime clock.now
  paddedDecimal 4 (tm.year + 1900) ++ "-" ++ paddedDecimal 2 (tm.mon + 1) ++ "-" ++
    paddedDecimal 2 tm.mday

/-- Group 0 is no restriction; `none` is a database error. -/
def dbCheckValidation (db : SettingsDb) (reads : JudgeReads) (clock : Clock)
    (validationCode : UInt16) : Option Bool :=
  if validationCode = 0 then some true
  else if reads.validation then
    some (db.validations.any fun row =>
      row.validationId = validationCode.toNat &&
        decide (row.startDate ≤ clock.localDate) &&
        decide (clock.localDate ≤ row.endDate))
  else none

/-- Bit `15 - tm_wday` of the weekday mask. -/
def TimezoneRow.weekOk (row : TimezoneRow) (wday : Int) : Bool :=
  row.weekSelect >>> (15 - wday).toNat % 2 = 1

def TimezoneRow.timeOk (row : TimezoneRow) (minutes : Int) : Bool :=
  decide (row.startHour * 60 + row.startMin ≤ minutes) &&
    decide (minutes ≤ row.endHour * 60 + row.endMin)

/-- Step through the slots of a group until one matches; `step` counts the
steps taken, and the last step is the one that finds no further row. -/
def timezoneLoop (reads : JudgeReads) (minutes wday : Int) :
    Nat → List TimezoneRow → Option Bool
  | step, [] => if reads.timezoneStep step then some false else none
  | step, row :: rest =>
      if reads.timezoneStep step then
        if row.weekOk wday && row.timeOk minutes then some true
        else timezoneLoop reads minutes wday (step + 1) rest
      else none

def dbCheckTimezone (db : SettingsDb) (reads : JudgeReads) (clock : Clock)
    (timezoneCode : UInt16) : Option Bool :=
  if timezoneCode = 0 then some true
  else if reads.timezonePrepare then
    let tm := clock.localtime clock.now
    timezoneLoop reads (tm.hour * 60 + tm.min) tm.wday 0
      (db.timezones.filter fun row => row.timezoneId = timezoneCode.toNat)
  else none

/-! ### Facts about stored blocks -/

theorem stored_devsetPut {db stored : SettingsDb} {key : SettingKey} {data : Bytes}
    (done : devsetPut db key data = (true, stored)) (wanted : SettingKey) :
    stored.stored wanted = if wanted = key then some data else db.stored wanted := by
  unfold devsetPut at done
  split at done
  next => cases done
  next table present =>
    split at done
    next => cases done
    next =>
      split at done
      next =>
        cases done
        have found :=
          table.find?_insertOrReplace { key := key, data := data } wanted
        simp only [SettingsDb.stored, present, Option.bind_some, found]
        split <;> rfl
      next => cases done

/-- What a write that succeeds had, and the oracle it leaves. -/
theorem devsetPut_done {db stored : SettingsDb} {key : SettingKey} {data : Bytes}
    (done : devsetPut db key data = (true, stored)) :
    db.deviceSettings.isSome ∧ db.faults.succeeds .insert = true ∧
      stored.faults = db.faults.next := by
  unfold devsetPut at done
  split at done
  next => cases done
  next table present =>
    split at done
    next => cases done
    next =>
      split at done
      next inserts =>
        cases done
        exact ⟨by rw [present]; rfl, inserts, rfl⟩
      next => cases done

/-- A write that fails leaves every stored block as it was. -/
theorem stored_devsetPut_failed {db failed : SettingsDb} {key : SettingKey}
    {data : Bytes} (done : devsetPut db key data = (false, failed)) :
    failed.stored = db.stored ∧ failed.deviceSettings = db.deviceSettings := by
  unfold devsetPut at done
  split at done
  next => cases done; exact ⟨rfl, rfl⟩
  next table present =>
    split at done
    next => cases done; exact ⟨rfl, rfl⟩
    next =>
      split at done
      next => cases done
      next => cases done; exact ⟨rfl, rfl⟩

end Acud
