/-
Module: Acud.Access
Purpose: The access decision for one card.
Trusted boundary: none
Main exports:
  AccessResult, accessJudge
-/
import Acud.Settings

namespace Acud

/-!
A card opens the door when it resolves to a person who is enabled and whose
validity and timezone groups admit the present moment.  Every error refuses.

[SRC src/acud/access.h, src/acud/access.c]
-/

inductive AccessResult where
  | granted
  | deniedNotFound
  | deniedDisabled
  | deniedValidation
  | deniedTimezone
  | deniedDbError
deriving Repr, Inhabited, DecidableEq

/-- Result and, where the card resolved, the person it resolved to. -/
def accessJudge (users : AcuUsers) (db : SettingsDb) (reads : JudgeReads)
    (clock : Clock) (cardId : CardId) : AccessResult × Option AcuUserRecord :=
  match usersLookupByCard users cardId with
  | .error => (.deniedDbError, none)
  | .notFound => (.deniedNotFound, none)
  | .found user =>
      if user.accessOption &&& acuUserOptEnable = 0 then (.deniedDisabled, some user)
      else
        match dbCheckValidation db reads clock user.validationCode with
        | none => (.deniedDbError, some user)
        | some false => (.deniedValidation, some user)
        | some true =>
            match dbCheckTimezone db reads clock user.timezoneCode with
            | none => (.deniedDbError, some user)
            | some false => (.deniedTimezone, some user)
            | some true => (.granted, some user)

end Acud
