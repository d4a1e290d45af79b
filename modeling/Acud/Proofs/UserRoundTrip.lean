/-
Module: Acud.Proofs.UserRoundTrip
Purpose: A full user data block that was stored is given back as it was sent.
Trusted boundary: none
Main exports:
  userDataBlock, ReturnsBlock, KeepsBlock, user_round_trip_iff
-/
import Acud.Proofs.RosterExport
import Acud.Proofs.UserUpdates

namespace Acud

open Lib

/-!
A full user data block goes through the reader of the user info, two tables and the
writer of the user info.  Every byte that the record has a field for comes back.  The
reserved bytes have none, and the card is not taken from the proximity data that was
stored: it is made anew from the card value of the first row of the person.

[SRC src/acud/usercmd.c, src/acud/userbin.c]
-/

/-! ### What is sent back -/

/-- The user data block that is sent back. -/
def userDataBlock (record : AcuUserRecord) (cardId : CardId) : Bytes :=
  userbinBuildUserInfo record ++ record.lcdName.bytes ++ cardIdToProx cardId ++
    [record.restrictType, record.restrictLimitType, record.restrictLimitCount] ++
    List.replicate 13 0 ++ record.groupCodes.bytes

/-- The card value that is shown for a person: zeros without a card. -/
def Roster.shownCard (roster : Roster) (userId : UserId) : CardId :=
  ((roster.cardOfUser userId).map AcuUserCard.cardId).getD (Blob.zeros acuUserCardLen)

theorem cardIdToProx_zeros :
    cardIdToProx (Blob.zeros acuUserCardLen) = List.replicate idtiUserdataLenCard 0 := by
  decide

/-- What a lookup of a card shows. -/
def Lookup.shownCard : Lookup AcuUserCard → CardId
  | .found card => card.cardId
  | .notFound | .error => Blob.zeros acuUserCardLen

/-- Without a card table a person reads as one without a card. -/
theorem shownCard_lookup {u : AcuUsers} (succeeds : u.faults.succeeds .select = true)
    (userId : UserId) :
    (usersLookupCardByUser u userId).shownCard = u.roster.shownCard userId := by
  unfold usersLookupCardByUser AcuUsers.cardsReadable Roster.shownCard
  rw [succeeds, Bool.true_and]
  split
  next =>
    cases u.roster.cardOfUser userId with
    | none => rfl
    | some card => rfl
  next missing =>
    have none : u.conn.view.userCards = none := by simpa using missing
    have without : u.roster.cardOfUser userId = Option.none := by
      simp [AcuUsers.roster, UsersFile.roster, Roster.cardOfUser, none]
    rw [without]
    rfl

/-- A person that is stored is sent back if the reads succeed. -/
theorem usercmdGet_userData {u : AcuUsers} {key : Memory} {len : Nat} {record : AcuUserRecord}
    (long : acuUserIdLen ≤ len) (table : u.conn.view.users.isSome = true)
    (found : u.roster.users.find? (Blob.ofMemory key 0 acuUserIdLen) = some record) :
    usercmdGet u idtiObjUserData key len =
      if u.faults.succeeds .select then
        some (userDataBlock record (u.roster.shownCard record.userId))
      else none := by
  unfold usercmdGet usersLookupById
  rw [if_neg (Nat.not_lt.mpr long), found, AcuUsers.usersReadable, table, Bool.and_true]
  by_cases succeeds : u.faults.succeeds .select = true
  · rw [if_pos succeeds, if_pos succeeds, ← shownCard_lookup succeeds]
    have other : ¬ idtiObjUserData = idtiObjUserInfo := by decide
    simp only [Lookup.ofOption, if_neg other]
    cases usersLookupCardByUser u record.userId with
    | found card => rfl
    | notFound | error => rw [Lookup.shownCard, userDataBlock, cardIdToProx_zeros]
  · rw [if_neg succeeds, if_neg succeeds]

/-! ### The bytes -/

/-- The user info is written as it was read, but for the reserved byte. -/
theorem holds_buildUserInfo_parse (data : Memory) :
    data.Holds 0 (userbinBuildUserInfo (userbinParseUserInfo data)) ↔
      data.byte idtiUserinfoOffReserved = 0 := by
  have date : (be32Bytes (userbinParseUserInfo data).expiredDate).drop 1 =
      [data.byte 21, data.byte 22, data.byte 23] := by
    rw [userbinParseUserInfo, be32Bytes_be32]
    rfl
  rw [userbinBuildUserInfo, date]
  -- Each byte of a field is compared with itself; only the reserved byte has no field.
  simp only [userbinParseUserInfo, Memory.be16At, Memory.be32At, be16Bytes_be16,
    be32Bytes_be32, Memory.holds_append, Memory.holds_cons, Memory.holds_nil,
    List.length_append, List.length_cons, List.length_nil, Blob.length_bytes, Blob.holds_iff,
    acuUserIdLen, idtiUserinfoOffId, idtiUserinfoOffGengroup, idtiUserinfoOffReserved,
    idtiUserinfoOffRevision, idtiUserinfoOffOption, idtiUserinfoOffLevel,
    idtiUserinfoOffValidation, idtiUserinfoOffTimezone, idtiUserinfoOffProxtype,
    idtiUserinfoOffProxwieg, idtiUserinfoOffBiotype, idtiUserinfoOffBiosub,
    idtiUserinfoOffTmplcount, idtiUserinfoOffPassword, idtiUserinfoOffCanteen,
    Nat.reduceAdd, and_true, true_and]

/-- The proximity data that is sent back is what was sent. -/
theorem holds_cardIdToProx_iff {data : Memory} {offset : Nat} {cardId : CardId} :
    data.Holds offset (cardIdToProx cardId) ↔
      cardId = proxToCardId (data.advance offset) ∧
        data.Holds (offset + acuUserCardLen)
          (List.replicate (idtiUserdataLenCard - acuUserCardLen) 0) := by
  have front : Blob.ofMemory (data.advance offset) 0 acuUserCardLen =
      Blob.ofMemory data offset acuUserCardLen :=
    Blob.ext (data.read_advance offset 0 acuUserCardLen)
  unfold cardIdToProx proxToCardId
  rw [Memory.holds_append, Blob.holds_iff, Blob.length_bytes, front]
  apply and_congr_left'
  constructor
  · intro read
    rw [read, Blob.reverse_reverse]
  · rintro rfl
    rw [Blob.reverse_reverse]

/-- The block of a record that was just read holds the bytes that have a field. -/
theorem holds_userDataBlock_iff {data : Memory} {cardId : CardId} :
    data.Holds 0 (userDataBlock (usercmdSetRecord data idtiUserdataLen) cardId) ↔
      (data.byte idtiUserinfoOffReserved = 0 ∧
        data.Holds (idtiUserdataOffCard + acuUserCardLen)
          (List.replicate (idtiUserdataLenCard - acuUserCardLen) 0) ∧
        data.Holds (idtiUserdataOffRestrict + 3) (List.replicate 13 0)) ∧
        cardId = proxToCardId (data.advance idtiUserdataOffCard) := by
  have info : userbinBuildUserInfo (usercmdSetRecord data idtiUserdataLen) =
      userbinBuildUserInfo (userbinParseUserInfo data) := rfl
  have name : data.Holds idtiUserdataOffName
      (usercmdSetRecord data idtiUserdataLen).lcdName.bytes :=
    data.holds_read idtiUserdataOffName acuUserNameLen
  have group : data.Holds idtiUserdataOffGroup
      (usercmdSetRecord data idtiUserdataLen).groupCodes.bytes :=
    data.holds_read idtiUserdataOffGroup acuUserGroupLen
  have restriction : data.Holds idtiUserdataOffRestrict
      [(usercmdSetRecord data idtiUserdataLen).restrictType,
        (usercmdSetRecord data idtiUserdataLen).restrictLimitType,
        (usercmdSetRecord data idtiUserdataLen).restrictLimitCount] :=
    data.holds_read idtiUserdataOffRestrict 3
  have length : (cardIdToProx cardId).length = idtiUserdataLenCard := by
    simp [cardIdToProx, acuUserCardLen, idtiUserdataLenCard]
  unfold userDataBlock
  simp only [Memory.holds_append, List.length_append, info, length_userbinBuildUserInfo,
    Blob.length_bytes, length, List.length_replicate, List.length_cons, List.length_nil]
  rw [holds_buildUserInfo_parse]
  constructor
  · rintro ⟨⟨⟨⟨⟨reserved, _⟩, prox⟩, _⟩, blank⟩, _⟩
    obtain ⟨card, tail⟩ := holds_cardIdToProx_iff.mp prox
    exact ⟨⟨reserved, tail, blank⟩, card⟩
  · rintro ⟨⟨reserved, tail, blank⟩, card⟩
    have prox := holds_cardIdToProx_iff.mpr ⟨card, tail⟩
    exact ⟨⟨⟨⟨⟨reserved, name⟩, prox⟩, restriction⟩, blank⟩, group⟩

/-! ### Set, then get -/

/-- The payload carries a card: its first eight bytes are not all zero. -/
def carriesCard (data : Memory) : Bool :=
  !(Blob.ofMemory (data.advance idtiUserdataOffCard) 0 acuUserCardLen).isZero

/-- A get of the person gives back the full block of the set. -/
def ReturnsBlock (u : AcuUsers) (data : Memory) : Prop :=
  ∀ key keyLen, acuUserIdLen ≤ keyLen →
    Blob.ofMemory key 0 acuUserIdLen = Blob.ofMemory data idtiUserinfoOffId acuUserIdLen →
      usercmdGet (usercmdSet u data idtiUserdataLen).2 idtiObjUserData key keyLen =
        some (data.read 0 idtiUserdataLen)

/-- The person has no card but the one of the payload.  Without a card in the payload it is
the first row that must not show one. -/
def OnlySentCard (roster : Roster) (data : Memory) : Prop :=
  let sender : UserId := Blob.ofMemory data idtiUserinfoOffId acuUserIdLen
  if carriesCard data then
    ∀ row ∈ roster.cards.rows, row.userId = sender →
      row.cardId = proxToCardId (data.advance idtiUserdataOffCard)
  else
    ∀ row, roster.cardOfUser sender = some row → row.cardId = Blob.zeros acuUserCardLen

/-- The reads after the set succeed, the payload has no bytes without a field, and the
person no other card. -/
structure KeepsBlock (u : AcuUsers) (data : Memory) : Prop where
  readable :
    (if carriesCard data then u.faults.next.next else u.faults.next).succeeds .select = true
  reserved : data.byte idtiUserinfoOffReserved = 0
  proximity : data.Holds (idtiUserdataOffCard + acuUserCardLen)
    (List.replicate (idtiUserdataLenCard - acuUserCardLen) 0)
  restriction : data.Holds (idtiUserdataOffRestrict + 3) (List.replicate 13 0)
  card : OnlySentCard u.roster data

theorem usercmdSetCard_whole (data : Memory) :
    usercmdSetCard data idtiUserdataLen =
      if carriesCard data then
        some
          { cardId := proxToCardId (data.advance idtiUserdataOffCard)
            userId := Blob.ofMemory data idtiUserinfoOffId acuUserIdLen
            proxRaw := Blob.ofMemory (data.advance idtiUserdataOffCard) 0 acuUserProxLen }
      else none := by
  unfold usercmdSetCard carriesCard
  dsimp only
  cases (Blob.ofMemory (data.advance idtiUserdataOffCard) 0 acuUserCardLen).isZero with
  | true => exact if_neg fun carried => nomatch carried.2
  | false => exact if_pos ⟨card_le_whole, rfl⟩

namespace Roster

/-- Without a card in the command the first row of the person is shown. -/
theorem shownCard_put {roster : Roster} {record : AcuUserRecord} {userId : UserId} :
    (roster.put record).shownCard userId = Blob.zeros acuUserCardLen ↔
      ∀ row, roster.cardOfUser userId = some row → row.cardId = Blob.zeros acuUserCardLen := by
  have same : (roster.put record).cardOfUser userId = roster.cardOfUser userId := rfl
  rw [shownCard, same]
  cases roster.cardOfUser userId with
  | none => exact iff_of_true rfl nofun
  | some row =>
      constructor
      · rintro zero other ⟨⟩
        exact zero
      · intro zero
        exact zero row rfl

/-- A card that was just stored is shown when the person has no other. -/
theorem shownCard_putCard {roster : Roster} {card : AcuUserCard} :
    (roster.putCard card).shownCard card.userId = card.cardId ↔
      ∀ row ∈ roster.cards.rows, row.userId = card.userId → row.cardId = card.cardId := by
  have others : (roster.putCard card).cardOfUser card.userId =
      ((roster.cards.rows.filter fun old => !decide (old.cardId = card.cardId)).find?
        fun row => row.userId = card.userId).or (some card) := by
    unfold cardOfUser putCard Table.insertOrReplace
    rw [List.find?_append]
    simp
  rw [shownCard, others]
  constructor
  · intro shown row member own
    by_contra other
    have kept : row ∈ roster.cards.rows.filter fun old => !decide (old.cardId = card.cardId) :=
      List.mem_filter.mpr ⟨member, by simpa using other⟩
    cases found : (roster.cards.rows.filter fun old => !decide (old.cardId = card.cardId)).find?
        fun row => row.userId = card.userId with
    | none => exact List.find?_eq_none.mp found row kept (by simpa using own)
    | some first =>
        rw [found] at shown
        have different := (List.mem_filter.mp (List.mem_of_find?_eq_some found)).2
        simp only [Bool.not_eq_true', decide_eq_false_iff_not] at different
        exact different shown
  · intro single
    have none : (roster.cards.rows.filter fun old => !decide (old.cardId = card.cardId)).find?
        (fun row => row.userId = card.userId) = Option.none := by
      apply List.find?_eq_none.mpr
      intro row kept own
      obtain ⟨member, different⟩ := List.mem_filter.mp kept
      have same := single row member (by simpa using own)
      simp [same] at different
    rw [none]
    rfl

end Roster

/-- A set that is answered OK leaves a table of people, and has used up its statements. -/
theorem SetOutcome.reads_of_ok {u : AcuUsers} {data : Memory} {len : Nat}
    {result : AcuUserCmdStatus × AcuUsers} (outcome : SetOutcome u data len result)
    (answered : result.1 = .ok) :
    result.2.conn.view.users.isSome = true ∧
      result.2.faults =
        if (usercmdSetCard data len).isSome then u.faults.next.next else u.faults.next := by
  cases outcome with
  | refused | notStored | torn => cases answered
  | stored names done without faults users roster =>
      rw [without]
      exact ⟨users, faults⟩
  | paired names done carried follows faults users cards roster =>
      rw [carried]
      exact ⟨users, faults⟩

theorem isSome_usercmdSetCard_whole (data : Memory) :
    (usercmdSetCard data idtiUserdataLen).isSome = carriesCard data := by
  rw [usercmdSetCard_whole]
  cases carriesCard data with
  | true => rfl
  | false => rfl

/-- The card that is shown after the set is the one of the payload. -/
theorem shownCard_store_iff {roster : Roster} {data : Memory} :
    (roster.store (usercmdSetRecord data idtiUserdataLen)
        (usercmdSetCard data idtiUserdataLen)).shownCard
          (Blob.ofMemory data idtiUserinfoOffId acuUserIdLen) =
        proxToCardId (data.advance idtiUserdataOffCard) ↔
      OnlySentCard roster data := by
  rw [usercmdSetCard_whole, OnlySentCard]
  cases carries : carriesCard data with
  | false =>
      have zero : proxToCardId (data.advance idtiUserdataOffCard) = Blob.zeros acuUserCardLen := by
        have blank := Blob.eq_zeros_of_isZero (Bool.not_eq_eq_eq_not.mp carries)
        rw [proxToCardId, blank, Blob.reverse_zeros]
      rw [zero]
      exact Roster.shownCard_put
  | true => exact Roster.shownCard_putCard

theorem length_userDataBlock (record : AcuUserRecord) (cardId : CardId) :
    (userDataBlock record cardId).length = idtiUserdataLen := by
  simp [userDataBlock, cardIdToProx, length_userbinBuildUserInfo, idtiUserinfoLen,
    acuUserNameLen, acuUserGroupLen, acuUserCardLen, idtiUserdataLenCard, idtiUserdataLen]

/-- One get after the set. -/
theorem usercmdGet_after_set_iff {u : AcuUsers} {data key : Memory} {keyLen : Nat}
    (answered : (usercmdSet u data idtiUserdataLen).1 = .ok) (long : acuUserIdLen ≤ keyLen)
    (named : Blob.ofMemory key 0 acuUserIdLen =
      Blob.ofMemory data idtiUserinfoOffId acuUserIdLen) :
    usercmdGet (usercmdSet u data idtiUserdataLen).2 idtiObjUserData key keyLen =
        some (data.read 0 idtiUserdataLen) ↔ KeepsBlock u data := by
  have outcome := usercmdSet_outcome u data idtiUserdataLen
  obtain ⟨table, faults⟩ := outcome.reads_of_ok answered
  have roster := outcome.roster_of_ok answered
  rw [isSome_usercmdSetCard_whole] at faults
  have found : (usercmdSet u data idtiUserdataLen).2.roster.users.find?
      (Blob.ofMemory key 0 acuUserIdLen) = some (usercmdSetRecord data idtiUserdataLen) := by
    rw [roster, Roster.find?_store]
    exact if_pos named
  rw [usercmdGet_userData long table found, faults, roster]
  have person : (usercmdSetRecord data idtiUserdataLen).userId =
      Blob.ofMemory data idtiUserinfoOffId acuUserIdLen := rfl
  have block (cardId : CardId) :
      userDataBlock (usercmdSetRecord data idtiUserdataLen) cardId =
          data.read 0 idtiUserdataLen ↔
        data.Holds 0 (userDataBlock (usercmdSetRecord data idtiUserdataLen) cardId) := by
    rw [Memory.Holds, length_userDataBlock]
    exact eq_comm
  constructor
  · intro returned
    by_cases readable :
        (if carriesCard data then u.faults.next.next else u.faults.next).succeeds .select = true
    · rw [if_pos readable] at returned
      have holds := (block _).mp (Option.some.inj returned)
      obtain ⟨⟨reserved, proximity, restriction⟩, shown⟩ := holds_userDataBlock_iff.mp holds
      exact
        { readable := readable
          reserved := reserved
          proximity := proximity
          restriction := restriction
          card := shownCard_store_iff.mp shown }
    · rw [if_neg readable] at returned
      cases returned
  · intro keeps
    rw [if_pos keeps.readable]
    apply congrArg some
    apply (block _).mpr
    apply holds_userDataBlock_iff.mpr
    refine ⟨⟨keeps.reserved, keeps.proximity, keeps.restriction⟩, ?_⟩
    rw [person]
    exact shownCard_store_iff.mpr keeps.card

/-- **A full user data block comes back as it was sent** exactly when it has no bytes
without a field and the person no other card. -/
theorem user_round_trip_iff {u : AcuUsers} {data : Memory}
    (answered : (usercmdSet u data idtiUserdataLen).1 = .ok) :
    ReturnsBlock u data ↔ KeepsBlock u data := by
  constructor
  · intro returns
    have returned := returns data acuUserIdLen (Nat.le_refl _) rfl
    exact (usercmdGet_after_set_iff answered (Nat.le_refl _) rfl).mp returned
  · intro keeps key keyLen long named
    exact (usercmdGet_after_set_iff answered long named).mpr keeps

/-- Person 9 and a first card. -/
theorem user_round_trip_new :
    ReturnsBlock (storeFailing Roster.empty 3) (setCommand 1) := by
  apply (user_round_trip_iff (by decide +kernel)).mpr
  exact
    { readable := by decide +kernel
      reserved := by decide
      proximity := rfl
      restriction := rfl
      card := fun row member => nomatch member }

/-- A person with a reserved byte that is not zero. -/
def reservedCommand : Memory :=
  { byte := fun index =>
      if index = idtiUserinfoOffId then 9
      else if index = idtiUserinfoOffReserved then 1
      else 0 }

/-- After a second card the first one is sent back; a reserved byte comes back as zero. -/
theorem first_card_returned :
    ((usercmdSet (storeFailing cardedRoster 3) (setCommand 2) idtiUserdataLen).1 = .ok ∧
      ¬ ReturnsBlock (storeFailing cardedRoster 3) (setCommand 2)) ∧
    ((usercmdSet (storeFailing Roster.empty 3) reservedCommand idtiUserdataLen).1 = .ok ∧
      ¬ ReturnsBlock (storeFailing Roster.empty 3) reservedCommand) := by
  refine ⟨⟨by decide +kernel, ?_⟩, ⟨by decide +kernel, ?_⟩⟩
  · intro returns
    have returned := returns (setCommand 2) acuUserIdLen (Nat.le_refl _) rfl
    exact absurd returned (by decide +kernel)
  · intro returns
    have returned := returns reservedCommand acuUserIdLen (Nat.le_refl _) rfl
    exact absurd returned (by decide +kernel)

end Acud
