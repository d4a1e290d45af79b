/-
Module: Acud.Proofs.UserBlocks
Purpose: Which bytes of a set command are taken for which block.
Trusted boundary: none
Main exports:
  UserBlock, userObjects, LaidOut, BlockPlaces, usercmdPlaces, StoresOwnBlocks,
  ReadsOwnBlocks, storesOwnBlocks_iff
-/
import Acud.Proofs.UserAtomicity

namespace Acud

open Lib

/-!
The protocol says for each user object which blocks follow one another in its payload.
The decoder does not look at the object: from the length alone it concludes that a name,
a card and the rest stand where they stand in the full user data block.

`BlockPlaces` names the places of the blocks.  What a command stores is a function of
them, so the two views are compared place by place.

[SRC src/acud/protocol.h, src/acud/usercmd.h, src/acud/usercmd.c]
-/

/-! ### Layouts -/

inductive UserBlock where
  | info
  | name
  | card
  | finger
  | restriction
  | group
  | image
deriving Repr, Inhabited, DecidableEq

namespace UserBlock

/-- A fingerprint or an image has no length of its own: it takes what is left. -/
def openEnded : UserBlock → Bool
  | .finger | .image => true
  | _ => false

def size : UserBlock → Nat
  | .info => idtiUserinfoLen
  | .name => acuUserNameLen
  | .card => idtiUserdataLenCard
  | .restriction => idtiUserdataLenRestrict
  | .group => acuUserGroupLen
  | .finger | .image => 0

/-- Where a block stands among these blocks. -/
def place (wanted : UserBlock) : List UserBlock → Option Nat
  | [] => none
  | block :: rest =>
      if block = wanted then some 0 else (place wanted rest).map (block.size + ·)

end UserBlock

/-- The user objects and their blocks (the object table of the protocol). -/
def userObjects : List (UInt8 × List UserBlock) :=
  [(idtiObjUserAll, [.info, .name, .card, .finger]),
    (idtiObjUserInfo, [.info, .name]),
    (idtiObjUserCard, [.info, .card, .name]),
    (idtiObjUserFinger, [.info, .finger]),
    (idtiObjUserRestrict, [.info, .restriction]),
    (idtiObjUserData, [.info, .name, .card, .restriction, .group]),
    (idtiObjUserDataFgr, [.info, .name, .card, .restriction, .group, .finger]),
    (idtiObjUserImage, [.info, .image])]

/-- The length fits the blocks: exactly, or with an open-ended block at least. -/
def LaidOut (object : UInt8) (len : Nat) : Prop :=
  ∃ blocks, (object, blocks) ∈ userObjects ∧
    (blocks.map UserBlock.size).sum ≤ len ∧
    (blocks.any UserBlock.openEnded = false → len = (blocks.map UserBlock.size).sum)

/-- Where the blocks behind the user info stand. -/
structure BlockPlaces where
  name : Option Nat
  card : Option Nat
  restriction : Option Nat
  group : Option Nat
deriving Repr, Inhabited, DecidableEq

def BlockPlaces.of (blocks : List UserBlock) : BlockPlaces :=
  { name := UserBlock.name.place blocks
    card := UserBlock.card.place blocks
    restriction := UserBlock.restriction.place blocks
    group := UserBlock.group.place blocks }

/-- The places that the decoder concludes from the length. -/
def usercmdPlaces (len : Nat) : BlockPlaces :=
  if len ≥ idtiUserdataLen then
    BlockPlaces.of [.info, .name, .card, .restriction, .group]
  else if len ≥ idtiUserinfoLen + acuUserNameLen + idtiUserdataLenCard then
    BlockPlaces.of [.info, .name, .card]
  else if len ≥ idtiUserinfoLen + acuUserNameLen then BlockPlaces.of [.info, .name]
  else BlockPlaces.of [.info]

/-! ### What is stored, by places -/

/-- A block that is not there reads as zeros. -/
def blockAt (data : Memory) (place : Option Nat) (size : Nat) : Blob size :=
  match place with
  | some offset => Blob.ofMemory data offset size
  | none => Blob.zeros size

def recordAt (data : Memory) (places : BlockPlaces) : AcuUserRecord :=
  let restriction := blockAt data places.restriction idtiUserdataLenRestrict
  { userbinParseUserInfo data with
    lcdName := blockAt data places.name acuUserNameLen
    restrictType := restriction.byte 0
    restrictLimitType := restriction.byte 1
    restrictLimitCount := restriction.byte 2
    groupCodes := blockAt data places.group acuUserGroupLen }

/-- A card block whose first eight bytes are zero is no card. -/
def cardAt (data : Memory) (places : BlockPlaces) : Option AcuUserCard :=
  match places.card with
  | some offset =>
      let card32 := data.advance offset
      if (Blob.ofMemory card32 0 acuUserCardLen).isZero then none
      else
        some
          { cardId := proxToCardId card32
            userId := Blob.ofMemory data idtiUserinfoOffId acuUserIdLen
            proxRaw := Blob.ofMemory card32 0 acuUserProxLen }
  | none => none

/-- The four readings of a length. -/
inductive LengthReading (len : Nat) : BlockPlaces → Prop where
  | info (short : len < idtiUserinfoLen + acuUserNameLen) :
      LengthReading len (BlockPlaces.of [.info])
  | name (enough : idtiUserinfoLen + acuUserNameLen ≤ len)
      (short : len < idtiUserinfoLen + acuUserNameLen + idtiUserdataLenCard) :
      LengthReading len (BlockPlaces.of [.info, .name])
  | card (enough : idtiUserinfoLen + acuUserNameLen + idtiUserdataLenCard ≤ len)
      (short : len < idtiUserdataLen) : LengthReading len (BlockPlaces.of [.info, .name, .card])
  | whole (enough : idtiUserdataLen ≤ len) :
      LengthReading len (BlockPlaces.of [.info, .name, .card, .restriction, .group])

theorem usercmdPlaces_reading (len : Nat) : LengthReading len (usercmdPlaces len) := by
  unfold usercmdPlaces
  split
  next enough => exact .whole enough
  next short =>
    split
    next enough => exact .card enough (Nat.not_le.mp short)
    next shorter =>
      split
      next enough => exact .name enough (Nat.not_le.mp shorter)
      next shortest => exact .info (Nat.not_le.mp shortest)

theorem name_le_card :
    idtiUserinfoLen + acuUserNameLen ≤ idtiUserinfoLen + acuUserNameLen + idtiUserdataLenCard :=
  Nat.le_add_right _ _

theorem card_le_whole :
    idtiUserinfoLen + acuUserNameLen + idtiUserdataLenCard ≤ idtiUserdataLen := by
  decide

/-- What the decoder stores is what stands at the places it concludes. -/
theorem usercmdSetRecord_eq (data : Memory) (len : Nat) :
    usercmdSetRecord data len = recordAt data (usercmdPlaces len) := by
  have reading := usercmdPlaces_reading len
  generalize usercmdPlaces len = places at reading ⊢
  unfold usercmdSetRecord
  dsimp only
  cases reading with
  | info short =>
      have noName : ¬ idtiUserinfoLen + acuUserNameLen ≤ len := Nat.not_le.mpr short
      rw [if_neg fun enough => noName ((name_le_card.trans card_le_whole).trans enough),
        if_neg noName]
      rfl
  | name enough short =>
      have noCard := Nat.not_le.mpr short
      rw [if_neg fun whole => noCard (card_le_whole.trans whole), if_pos enough]
      rfl
  | card enough short =>
      rw [if_neg (Nat.not_le.mpr short), if_pos (name_le_card.trans enough)]
      rfl
  | whole enough =>
      have restriction (index : Nat) (inside : index < idtiUserdataLenRestrict) :=
        Blob.byte_ofMemory data idtiUserdataOffRestrict inside
      have first : _ = data.byte idtiUserdataOffRestrict := restriction 0 (by decide)
      have second := restriction 1 (by decide)
      have third := restriction 2 (by decide)
      rw [if_pos enough, ← second, ← third, ← first]
      rfl

theorem usercmdSetCard_of_enough (data : Memory) {len : Nat}
    (enough : idtiUserinfoLen + acuUserNameLen + idtiUserdataLenCard ≤ len)
    {places : BlockPlaces} (place : places.card = some idtiUserdataOffCard) :
    usercmdSetCard data len = cardAt data places := by
  unfold usercmdSetCard cardAt
  rw [place]
  dsimp only
  cases (Blob.ofMemory (data.advance idtiUserdataOffCard) 0 acuUserCardLen).isZero with
  | true => exact if_neg fun carried => nomatch carried.2
  | false => exact if_pos ⟨enough, rfl⟩

theorem usercmdSetCard_eq (data : Memory) (len : Nat) :
    usercmdSetCard data len = cardAt data (usercmdPlaces len) := by
  have reading := usercmdPlaces_reading len
  generalize usercmdPlaces len = places at reading ⊢
  cases reading with
  | info short => exact if_neg fun carried => Nat.not_le.mpr short (name_le_card.trans carried.1)
  | name enough short => exact if_neg fun carried => Nat.not_le.mpr short carried.1
  | card enough short => exact usercmdSetCard_of_enough data enough rfl
  | whole enough => exact usercmdSetCard_of_enough data (card_le_whole.trans enough) rfl

/-! ### The two views compared -/

/-- The same bytes stand at the places of both views. -/
structure SameBlocks (data : Memory) (first second : BlockPlaces) : Prop where
  name : blockAt data first.name acuUserNameLen = blockAt data second.name acuUserNameLen
  restriction : ∀ index < 3,
    (blockAt data first.restriction idtiUserdataLenRestrict).byte index =
      (blockAt data second.restriction idtiUserdataLenRestrict).byte index
  group : blockAt data first.group acuUserGroupLen = blockAt data second.group acuUserGroupLen
  card : cardAt data first = cardAt data second

theorem sameBlocks_iff {data : Memory} {first second : BlockPlaces} :
    SameBlocks data first second ↔
      recordAt data first = recordAt data second ∧ cardAt data first = cardAt data second := by
  constructor
  · intro same
    refine ⟨?_, same.card⟩
    unfold recordAt
    dsimp only
    rw [same.name, same.group, same.restriction 0 (by decide), same.restriction 1 (by decide),
      same.restriction 2 (by decide)]
  · rintro ⟨record, card⟩
    refine
      { name := congrArg AcuUserRecord.lcdName record
        restriction := ?_
        group := congrArg AcuUserRecord.groupCodes record
        card := card }
    intro index inside
    match index, inside with
    | 0, _ => exact congrArg AcuUserRecord.restrictType record
    | 1, _ => exact congrArg AcuUserRecord.restrictLimitType record
    | 2, _ => exact congrArg AcuUserRecord.restrictLimitCount record

/-- The places of the blocks of an object. -/
def userObjectPlaces (object : UInt8) : BlockPlaces :=
  BlockPlaces.of ((userObjects.lookup object).getD [])

namespace Roster

/-- A person and, when there is one, a card. -/
def store (roster : Roster) (record : AcuUserRecord) : Option AcuUserCard → Roster
  | some card => (roster.put record).putCard card
  | none => roster.put record

theorem users_store (roster : Roster) (record : AcuUserRecord) (card : Option AcuUserCard) :
    (roster.store record card).users = roster.users.insertOrReplace record := by
  cases card <;> rfl

/-- What was stored into an empty roster can be told from it. -/
theorem store_inj {first second : AcuUserRecord} {firstCard secondCard : Option AcuUserCard}
    (person : first.userId = second.userId)
    (same : (empty.store first firstCard).Same (empty.store second secondCard)) :
    first = second ∧ firstCard = secondCard := by
  constructor
  · have found := same.users first.userId
    rw [users_store, users_store, Table.find?_insertOrReplace_self, person,
      Table.find?_insertOrReplace_self] at found
    exact Option.some.inj found
  · cases firstCard with
    | none =>
        cases secondCard with
        | none => rfl
        | some card =>
            have found := (same.cards card.cardId).symm
            rw [store, putCard, Table.find?_insertOrReplace_self] at found
            cases found
    | some card =>
        have found := same.cards card.cardId
        rw [store, putCard, Table.find?_insertOrReplace_self] at found
        cases secondCard with
        | none => cases found
        | some other =>
            rw [store, putCard, Table.find?_insertOrReplace] at found
            split at found
            · exact found
            · cases found

end Roster

theorem SetOutcome.roster_of_ok {u : AcuUsers} {data : Memory} {len : Nat}
    {result : AcuUserCmdStatus × AcuUsers} (outcome : SetOutcome u data len result)
    (answered : result.1 = .ok) :
    result.2.roster =
      u.roster.store (usercmdSetRecord data len) (usercmdSetCard data len) := by
  cases outcome with
  | refused | notStored | torn => cases answered
  | stored names done without faults users roster =>
      rw [roster, without]
      rfl
  | paired names done carried follows faults users cards roster =>
      rw [roster, carried]
      rfl

/-- In a store that does not fail a payload that names a person is answered OK. -/
theorem usercmdSet_ok {data : Memory} {len : Nat} (names : usercmdNames data len = true) :
    (usercmdSet (storeFailing Roster.empty 2) data len).1 = .ok := by
  have outcome := usercmdSet_outcome (storeFailing Roster.empty 2) data len
  generalize usercmdSet (storeFailing Roster.empty 2) data len = result at outcome ⊢
  cases outcome with
  | stored | paired => rfl
  | refused unnamed =>
      rw [names] at unnamed
      cases unnamed
  | notStored _ fails =>
      have done : true = false := fails
      cases done
  | torn _ _ _ fails =>
      have done : true = false := fails
      cases done

/-- Whatever the roster was, a command of this payload that answers OK has stored each
block of its object from its own place, and for the blocks it does not have nothing. -/
def StoresOwnBlocks (object : UInt8) (data : Memory) (len : Nat) : Prop :=
  ∀ u : AcuUsers, (usercmdSet u data len).1 = .ok →
    (usercmdSet u data len).2.roster.Same
      (u.roster.store (recordAt data (userObjectPlaces object))
        (cardAt data (userObjectPlaces object)))

theorem storesOwnBlocks_iff_sameBlocks {object : UInt8} {data : Memory} {len : Nat}
    (names : usercmdNames data len = true) :
    StoresOwnBlocks object data len ↔
      SameBlocks data (usercmdPlaces len) (userObjectPlaces object) := by
  rw [sameBlocks_iff]
  constructor
  · intro stores
    have answered := usercmdSet_ok names
    have stored := (usercmdSet_outcome _ data len).roster_of_ok answered
    have same := stores (storeFailing Roster.empty 2) answered
    rw [stored, usercmdSetRecord_eq, usercmdSetCard_eq] at same
    exact Roster.store_inj rfl same
  · rintro ⟨record, card⟩ u answered
    rw [(usercmdSet_outcome u data len).roster_of_ok answered, usercmdSetRecord_eq,
      usercmdSetCard_eq, record, card]
    exact Roster.Same.refl _

/-! ### By object and length -/

/-- The places of the restriction and the groups in the full block are blank. -/
structure RestBlank (data : Memory) : Prop where
  restriction : ∀ index < 3, data.byte (idtiUserdataOffRestrict + index) = 0
  group : Blob.ofMemory data idtiUserdataOffGroup acuUserGroupLen = Blob.zeros acuUserGroupLen

/-- The places behind the user info that this length lets the decoder read are blank. -/
structure FrontBlank (data : Memory) (len : Nat) : Prop where
  name : idtiUserinfoLen + acuUserNameLen ≤ len →
    Blob.ofMemory data idtiUserdataOffName acuUserNameLen = Blob.zeros acuUserNameLen
  card : idtiUserinfoLen + acuUserNameLen + idtiUserdataLenCard ≤ len →
    (Blob.ofMemory (data.advance idtiUserdataOffCard) 0 acuUserCardLen).isZero = true
  rest : idtiUserdataLen ≤ len → RestBlank data

/-- A card block that is taken for a name and part of a card, and a name that is taken
for the end of a card, make no difference. -/
structure CardForName (data : Memory) : Prop where
  name : Blob.ofMemory data idtiUserdataOffName acuUserNameLen =
    Blob.ofMemory data (idtiUserinfoLen + idtiUserdataLenCard) acuUserNameLen
  card : (Blob.ofMemory (data.advance idtiUserdataOffCard) 0 acuUserProxLen =
      Blob.ofMemory (data.advance idtiUserinfoLen) 0 acuUserProxLen) ∨
    ((Blob.ofMemory (data.advance idtiUserdataOffCard) 0 acuUserCardLen).isZero = true ∧
      (Blob.ofMemory (data.advance idtiUserinfoLen) 0 acuUserCardLen).isZero = true)

/-- The decoder's places carry what the blocks of the object say.  For `UserInfo`, `UserData`
and `UserData` with a fingerprint nothing is asked. -/
def ReadsOwnBlocks (object : UInt8) (data : Memory) (len : Nat) : Prop :=
  if object = idtiObjUserAll then idtiUserdataLen ≤ len → RestBlank data
  else if object = idtiObjUserCard then CardForName data
  else if object ∈ [idtiObjUserFinger, idtiObjUserRestrict, idtiObjUserImage] then
    FrontBlank data len
  else True

theorem SameBlocks.of_eq (data : Memory) {first second : BlockPlaces} (same : first = second) :
    SameBlocks data first second := by
  subst same
  exact { name := rfl, restriction := fun _ _ => rfl, group := rfl, card := rfl }

theorem byte_zeros (size index : Nat) : (Blob.zeros size).byte index = 0 := by
  unfold Blob.byte Blob.zeros
  rw [List.getD_eq_getElem?_getD, List.getElem?_replicate]
  split <;> rfl

theorem restriction_blank_iff {data : Memory} :
    (∀ index < 3, (Blob.ofMemory data idtiUserdataOffRestrict idtiUserdataLenRestrict).byte index =
      (Blob.zeros idtiUserdataLenRestrict).byte index) ↔
      ∀ index < 3, data.byte (idtiUserdataOffRestrict + index) = 0 := by
  apply forall_congr'
  intro index
  apply imp_congr_right
  intro inside
  have bound : index < idtiUserdataLenRestrict := Nat.lt_trans inside (by decide)
  rw [Blob.byte_ofMemory _ _ bound, byte_zeros]

theorem cardAt_eq_none_iff {data : Memory} {places : BlockPlaces} {offset : Nat}
    (place : places.card = some offset) :
    cardAt data places = none ↔
      (Blob.ofMemory (data.advance offset) 0 acuUserCardLen).isZero = true := by
  unfold cardAt
  rw [place]
  dsimp only
  split
  next zero => exact iff_of_true rfl zero
  next card => exact iff_of_false nofun card

theorem sameBlocks_whole_iff {data : Memory} :
    SameBlocks data (BlockPlaces.of [.info, .name, .card, .restriction, .group])
        (BlockPlaces.of [.info, .name, .card]) ↔ RestBlank data := by
  constructor
  · intro same
    exact
      { restriction := restriction_blank_iff.mp same.restriction
        group := same.group }
  · intro blank
    exact
      { name := rfl
        restriction := restriction_blank_iff.mpr blank.restriction
        group := blank.group
        card := rfl }

/-- An object with nothing behind the user info that the roster has a place for. -/
theorem sameBlocks_front_iff {data : Memory} {len : Nat} :
    SameBlocks data (usercmdPlaces len) (BlockPlaces.of [.info]) ↔ FrontBlank data len := by
  have reading := usercmdPlaces_reading len
  generalize usercmdPlaces len = places at reading ⊢
  cases reading with
  | info short =>
      apply iff_of_true
      · exact SameBlocks.of_eq data rfl
      · have noName := Nat.not_le.mpr short
        exact
          { name := fun enough => absurd enough noName
            card := fun enough => absurd (name_le_card.trans enough) noName
            rest := fun enough =>
              absurd ((name_le_card.trans card_le_whole).trans enough) noName }
  | name enough short =>
      have noCard := Nat.not_le.mpr short
      constructor
      · intro same
        exact
          { name := fun _ => same.name
            card := fun enough => absurd enough noCard
            rest := fun enough => absurd (card_le_whole.trans enough) noCard }
      · intro blank
        exact
          { name := blank.name enough
            restriction := fun _ _ => rfl
            group := rfl
            card := rfl }
  | card enough short =>
      constructor
      · intro same
        exact
          { name := fun _ => same.name
            card := fun _ => (cardAt_eq_none_iff rfl).mp same.card
            rest := fun enough => absurd enough (Nat.not_le.mpr short) }
      · intro blank
        exact
          { name := blank.name (name_le_card.trans enough)
            restriction := fun _ _ => rfl
            group := rfl
            card := (cardAt_eq_none_iff rfl).mpr (blank.card enough) }
  | whole enough =>
      constructor
      · intro same
        exact
          { name := fun _ => same.name
            card := fun _ => (cardAt_eq_none_iff rfl).mp same.card
            rest := fun _ =>
              { restriction := restriction_blank_iff.mp same.restriction
                group := same.group } }
      · intro blank
        have rest := blank.rest enough
        exact
          { name := blank.name ((name_le_card.trans card_le_whole).trans enough)
            restriction := restriction_blank_iff.mpr rest.restriction
            group := rest.group
            card := (cardAt_eq_none_iff rfl).mpr (blank.card (card_le_whole.trans enough)) }

/-- The restriction of an object that has only that behind the user info. -/
theorem sameBlocks_restriction_iff {data : Memory} :
    SameBlocks data (BlockPlaces.of [.info, .name]) (BlockPlaces.of [.info, .restriction]) ↔
      Blob.ofMemory data idtiUserdataOffName acuUserNameLen = Blob.zeros acuUserNameLen := by
  constructor
  · intro same
    exact same.name
  · intro blank
    refine { name := blank, restriction := ?_, group := rfl, card := rfl }
    intro index inside
    -- The restriction stands where the decoder sees the name.
    have bound : index < idtiUserdataLenRestrict := Nat.lt_trans inside (by decide)
    have read := Blob.byte_ofMemory data idtiUserdataOffName
      (Nat.lt_trans inside (by decide) : index < acuUserNameLen)
    have there := Blob.byte_ofMemory data idtiUserinfoLen bound
    rw [blank, byte_zeros] at read
    exact (byte_zeros _ _).trans (read.trans there.symm)

/-- The first eight of the same thirty-two bytes are the same. -/
theorem cardBytes_congr {first second : Memory}
    (same : Blob.ofMemory first 0 acuUserProxLen = Blob.ofMemory second 0 acuUserProxLen) :
    Blob.ofMemory first 0 acuUserCardLen = Blob.ofMemory second 0 acuUserCardLen := by
  apply Blob.ext
  apply Memory.read_congr
  intro index inside
  have bound : index < acuUserProxLen := Nat.lt_trans inside (by decide)
  have bytes := congrArg (fun blob => blob.byte index) same
  rwa [Blob.byte_ofMemory _ _ bound, Blob.byte_ofMemory _ _ bound] at bytes

/-- A card block read at two places. -/
theorem cardAt_eq_iff {data : Memory} {first second : BlockPlaces} {offset other : Nat}
    (place : first.card = some offset) (otherPlace : second.card = some other) :
    cardAt data first = cardAt data second ↔
      (Blob.ofMemory (data.advance offset) 0 acuUserProxLen =
          Blob.ofMemory (data.advance other) 0 acuUserProxLen) ∨
        ((Blob.ofMemory (data.advance offset) 0 acuUserCardLen).isZero = true ∧
          (Blob.ofMemory (data.advance other) 0 acuUserCardLen).isZero = true) := by
  constructor
  · intro same
    by_cases zero : (Blob.ofMemory (data.advance offset) 0 acuUserCardLen).isZero = true
    · have none := (cardAt_eq_none_iff place).mpr zero
      exact .inr ⟨zero, (cardAt_eq_none_iff otherPlace).mp (same.symm.trans none)⟩
    · have otherCard : ¬ (Blob.ofMemory (data.advance other) 0 acuUserCardLen).isZero = true := by
        intro otherZero
        have none := (cardAt_eq_none_iff otherPlace).mpr otherZero
        exact zero ((cardAt_eq_none_iff place).mp (same.trans none))
      unfold cardAt at same
      rw [place, otherPlace] at same
      dsimp only at same
      rw [if_neg zero, if_neg otherCard] at same
      exact .inl (congrArg AcuUserCard.proxRaw (Option.some.inj same))
  · rintro (alike | ⟨zero, otherZero⟩)
    · have cardBytes := cardBytes_congr alike
      unfold cardAt proxToCardId
      rw [place, otherPlace]
      dsimp only
      rw [alike, cardBytes]
    · rw [(cardAt_eq_none_iff place).mpr zero, (cardAt_eq_none_iff otherPlace).mpr otherZero]

theorem sameBlocks_card_iff {data : Memory} :
    SameBlocks data (BlockPlaces.of [.info, .name, .card]) (BlockPlaces.of [.info, .card, .name]) ↔
      CardForName data := by
  constructor
  · intro same
    exact
      { name := same.name
        card := (cardAt_eq_iff rfl rfl).mp same.card }
  · intro alike
    exact
      { name := alike.name
        restriction := fun _ _ => rfl
        group := rfl
        card := (cardAt_eq_iff rfl rfl).mpr alike.card }

theorem usercmdPlaces_of_whole {len : Nat} (enough : idtiUserdataLen ≤ len) :
    usercmdPlaces len = BlockPlaces.of [.info, .name, .card, .restriction, .group] :=
  if_pos enough

theorem sameBlocks_all_iff {data : Memory} {len : Nat}
    (enough : idtiUserinfoLen + acuUserNameLen + idtiUserdataLenCard ≤ len) :
    SameBlocks data (usercmdPlaces len) (BlockPlaces.of [.info, .name, .card]) ↔
      (idtiUserdataLen ≤ len → RestBlank data) := by
  by_cases whole : idtiUserdataLen ≤ len
  · rw [usercmdPlaces_of_whole whole, sameBlocks_whole_iff]
    exact ⟨fun blank _ => blank, fun blank => blank whole⟩
  · apply iff_of_true
    · apply SameBlocks.of_eq
      unfold usercmdPlaces
      rw [if_neg whole, if_pos enough]
    · exact fun other => absurd other whole

theorem frontBlank_restriction_iff {data : Memory} :
    FrontBlank data (idtiUserinfoLen + idtiUserdataLenRestrict) ↔
      Blob.ofMemory data idtiUserdataOffName acuUserNameLen = Blob.zeros acuUserNameLen := by
  constructor
  · intro blank
    exact blank.name (by decide)
  · intro blank
    exact
      { name := fun _ => blank
        card := fun enough => absurd enough (by decide)
        rest := fun enough => absurd enough (by decide) }

/-- **A set command stores each block from its own bytes** exactly when what the decoder
takes for a block that is not there is blank. -/
theorem storesOwnBlocks_iff {object : UInt8} {data : Memory} {len : Nat}
    (laidOut : LaidOut object len) (names : usercmdNames data len = true) :
    StoresOwnBlocks object data len ↔ ReadsOwnBlocks object data len := by
  rw [storesOwnBlocks_iff_sameBlocks names]
  obtain ⟨blocks, member, enough, exactly⟩ := laidOut
  simp only [userObjects, List.mem_cons, Prod.mk.injEq, List.not_mem_nil, or_false] at member
  rcases member with ⟨rfl, rfl⟩ | ⟨rfl, rfl⟩ | ⟨rfl, rfl⟩ | ⟨rfl, rfl⟩ | ⟨rfl, rfl⟩ | ⟨rfl, rfl⟩ |
    ⟨rfl, rfl⟩ | ⟨rfl, rfl⟩
  · exact sameBlocks_all_iff enough
  · rw [exactly rfl]
    exact iff_of_true (SameBlocks.of_eq data rfl) trivial
  · rw [exactly rfl]
    exact sameBlocks_card_iff
  · exact sameBlocks_front_iff
  · rw [exactly rfl]
    exact sameBlocks_restriction_iff.trans frontBlank_restriction_iff.symm
  · rw [exactly rfl]
    exact iff_of_true (SameBlocks.of_eq data rfl) trivial
  · rw [usercmdPlaces_of_whole enough]
    exact iff_of_true (SameBlocks.of_eq data rfl) trivial
  · exact sameBlocks_front_iff

theorem storesOwnBlocks_iff_userData :
    StoresOwnBlocks idtiObjUserData (setCommand 1) idtiUserdataLen :=
  (storesOwnBlocks_iff
    ⟨[.info, .name, .card, .restriction, .group], by decide, by decide, fun _ => by decide⟩
    (by decide +kernel)).mpr trivial

/-- Person 9 with a card, laid out as the protocol lays out `UserCard`. -/
def userCardPayload : Memory :=
  { byte := fun index =>
      if index = idtiUserinfoOffId then 9
      else if index = idtiUserinfoLen then 1
      else 0 }

/-- A byte of a fingerprint is taken for a card, and a card for a name. -/
theorem foreign_blocks_stored :
    ¬ StoresOwnBlocks idtiObjUserFinger (setCommand 1) setCommandLen ∧
      ¬ StoresOwnBlocks idtiObjUserCard userCardPayload setCommandLen := by
  constructor
  · rw [storesOwnBlocks_iff_sameBlocks (by decide +kernel)]
    intro same
    have blank : FrontBlank (setCommand 1) setCommandLen := sameBlocks_front_iff.mp same
    exact absurd (blank.card (by decide)) (by decide +kernel)
  · rw [storesOwnBlocks_iff_sameBlocks (by decide +kernel)]
    intro same
    have alike : CardForName userCardPayload := sameBlocks_card_iff.mp same
    exact absurd alike.name (by decide +kernel)

end Acud
