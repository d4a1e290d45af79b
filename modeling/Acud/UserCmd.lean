/-
Module: Acud.UserCmd
Purpose: Commands that set, delete or read one user.
Trusted boundary: none
Main exports:
  AcuUserCmdStatus, usercmdIsUserObject, usercmdSet, usercmdDelete, usercmdGet
-/
import Acud.UserBin

namespace Acud

open Lib

/-!
Which blocks a set command carries is told from its length, not from its
object: user info alone, with a name, with a name and a card, or the full
112-byte user data block.

[SRC src/acud/usercmd.h, src/acud/usercmd.c]
-/

inductive AcuUserCmdStatus where
  | ok
  | fail
deriving Repr, Inhabited, DecidableEq

def usercmdIsUserObject (object : UInt8) : Bool :=
  object ∈
    [idtiObjUserAll, idtiObjUserInfo, idtiObjUserCard, idtiObjUserFinger,
      idtiObjUserRestrict, idtiObjUserData, idtiObjUserDataFgr, idtiObjUserImage]

/-- The first eight bytes of proximity data are the card value reversed. -/
def proxToCardId (prox32 : Memory) : CardId :=
  (Blob.ofMemory prox32 0 acuUserCardLen).reverse

def cardIdToProx (cardId : CardId) : Bytes :=
  cardId.reverse.bytes ++ List.replicate (idtiUserdataLenCard - acuUserCardLen) 0

/-- The record a set command of this length stores. -/
def usercmdSetRecord (data : Memory) (len : Nat) : AcuUserRecord :=
  let info := userbinParseUserInfo data
  let named :=
    { info with lcdName := Blob.ofMemory data idtiUserdataOffName acuUserNameLen }
  if len ≥ idtiUserdataLen then
    { named with
      restrictType := data.byte idtiUserdataOffRestrict
      restrictLimitType := data.byte (idtiUserdataOffRestrict + 1)
      restrictLimitCount := data.byte (idtiUserdataOffRestrict + 2)
      groupCodes := Blob.ofMemory data idtiUserdataOffGroup acuUserGroupLen }
  else if len ≥ idtiUserinfoLen + acuUserNameLen then named
  else info

/-- The proximity data of a set command that is long enough to carry a card
whose first eight bytes are not all zero. -/
def usercmdSetCard (data : Memory) (len : Nat) : Option AcuUserCard :=
  let card32 := data.advance idtiUserdataOffCard
  if len ≥ idtiUserinfoLen + acuUserNameLen + idtiUserdataLenCard ∧
      (Blob.ofMemory card32 0 acuUserCardLen).isZero = false then
    some
      { cardId := proxToCardId card32
        userId := Blob.ofMemory data idtiUserinfoOffId acuUserIdLen
        proxRaw := Blob.ofMemory card32 0 acuUserProxLen }
  else none

def usercmdSet (users : AcuUsers) (data : Memory) (len : Nat) :
    AcuUserCmdStatus × AcuUsers :=
  if len < idtiUserinfoLen then (.fail, users)
  else if (usercmdSetRecord data len).userId.isZero then (.fail, users)
  else
    match usersPut users (usercmdSetRecord data len) with
    | (false, failed) => (.fail, failed)
    | (true, stored) =>
        match usercmdSetCard data len with
        | none => (.ok, stored)
        | some card =>
            match usersPutCard stored card with
            | (false, failed) => (.fail, failed)
            | (true, paired) => (.ok, paired)

/-- The revision that follows the id is not looked at. -/
def usercmdDelete (users : AcuUsers) (data : Memory) (len : Nat) :
    AcuUserCmdStatus × AcuUsers :=
  if len < acuUserIdLen then (.fail, users)
  else
    match usersDelete users (Blob.ofMemory data 0 acuUserIdLen) with
    | (false, failed) => (.fail, failed)
    | (true, deleted) => (.ok, deleted)

/-- The data block of the requested object, or nothing for an unknown user. -/
def usercmdGet (users : AcuUsers) (object : UInt8) (data : Memory) (len : Nat) :
    Option Bytes :=
  if len < acuUserIdLen then none
  else
    match usersLookupById users (Blob.ofMemory data 0 acuUserIdLen) with
    | .found record =>
        if object = idtiObjUserInfo then
          some (userbinBuildUserInfo record ++ record.lcdName.bytes)
        else
          let card :=
            match usersLookupCardByUser users record.userId with
            | .found card => cardIdToProx card.cardId
            | _ => List.replicate idtiUserdataLenCard 0
          some
            (userbinBuildUserInfo record ++ record.lcdName.bytes ++ card ++
              [record.restrictType, record.restrictLimitType,
                record.restrictLimitCount] ++
              List.replicate 13 0 ++ record.groupCodes.bytes)
    | _ => none

end Acud
