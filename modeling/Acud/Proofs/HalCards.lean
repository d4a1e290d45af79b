/-
Module: Acud.Proofs.HalCards
Purpose: Cards that are injected as text are judged one after another, each of them once.
Trusted boundary: none
Main exports:
  Spells, readLine_spelled, HalView.Room, Writes, exists_writes, injected_cards_judged
-/
import Acud.Proofs.HalQueues

namespace Acud

open Lib

/-!
A card is written as hexadecimal digits, two for each byte, in small or capital letters and
with white space around them; bytes at its end may be left out when they are zero.  However
the lines are cut into reads and wake-ups, the daemon judges the cards that were written, in
their order.  The limits are those of the layer: a line has at most 255 characters, and a
wake-up hands on no more than sixteen cards.

[SRC src/acud/hal_mock.c, src/acud/main.c]
-/

/-! ### Spelling -/

def hexDigit (value : UInt8) : UInt8 :=
  if value < 10 then value + 48 else value + 55

/-- The two digits of a byte. -/
def hexPair (byte : UInt8) : Bytes :=
  [hexDigit (byte / 16), hexDigit (byte % 16)]

def hexText (card : Bytes) : Bytes :=
  card.flatMap hexPair

/-- The line is the card in digits, apart from capitals and white space. -/
def Spells (line card : Bytes) : Prop :=
  (trim line).map toUpper = hexText card

theorem scanHex2_hexPair (byte : UInt8) (rest : Bytes) :
    scanHex2 (hexPair byte ++ rest) = byte := by
  have front : (hexPair byte ++ rest).take 2 = hexPair byte := rfl
  have read : ∀ byte : UInt8,
      ((hexPair byte).takeWhile isXdigit).foldl
        (fun value digit => 16 * value + hexValue digit) 0 = byte := by
    apply forall_byte
    decide +kernel
  rw [scanHex2, front, read]

/-- Two digits are those of a byte. -/
theorem exists_hexPair {high low : UInt8} (isHigh : isXdigit high = true)
    (isLow : isXdigit low = true) : ∃ byte, hexPair byte = [toUpper high, toUpper low] := by
  have digit : ∀ character : UInt8, isXdigit character = true →
      (hexValue character).toNat < 16 ∧ hexDigit (hexValue character) = toUpper character := by
    apply forall_byte
    decide +kernel
  obtain ⟨front, first⟩ := digit high isHigh
  obtain ⟨back, second⟩ := digit low isLow
  have quotient : (16 * hexValue high + hexValue low) / 16 = hexValue high := by
    apply UInt8.toNat_inj.mp
    rw [UInt8.toNat_div, UInt8.toNat_add, UInt8.toNat_mul]
    show (16 * (hexValue high).toNat % 256 + (hexValue low).toNat) % 256 / 16 = _
    omega
  have remainder : (16 * hexValue high + hexValue low) % 16 = hexValue low := by
    apply UInt8.toNat_inj.mp
    rw [UInt8.toNat_mod, UInt8.toNat_add, UInt8.toNat_mul]
    show (16 * (hexValue high).toNat % 256 + (hexValue low).toNat) % 256 % 16 = _
    omega
  exact ⟨16 * hexValue high + hexValue low, by rw [hexPair, quotient, remainder, first, second]⟩

/-- Digits of an even number spell a card. -/
theorem exists_hexText {count : Nat} {digits : Bytes} (even : digits.length = 2 * count)
    (hex : ∀ digit ∈ digits, isXdigit digit = true) :
    ∃ card, digits.map toUpper = hexText card := by
  induction count generalizing digits with
  | zero =>
      rw [List.eq_nil_of_length_eq_zero even]
      exact ⟨[], rfl⟩
  | succ count inductionHypothesis =>
      cases digits with
      | nil => cases even
      | cons high digits =>
          cases digits with
          | nil =>
              rw [List.length_singleton] at even
              omega
          | cons low rest =>
              obtain ⟨isHigh, behind⟩ := List.forall_mem_cons.mp hex
              obtain ⟨isLow, others⟩ := List.forall_mem_cons.mp behind
              obtain ⟨byte, pair⟩ := exists_hexPair isHigh isLow
              have shorter : rest.length = 2 * count := by
                simp only [List.length_cons] at even
                omega
              obtain ⟨card, spelled⟩ := inductionHypothesis shorter others
              refine ⟨byte :: card, ?_⟩
              show [toUpper high, toUpper low] ++ rest.map toUpper = hexPair byte ++ hexText card
              rw [pair, spelled]

theorem isXdigit_of_toUpper (byte digit : UInt8) (spelled : toUpper digit ∈ hexPair byte) :
    isXdigit digit = true ∧ digit ≠ 32 := by
  have capital : ∀ byte : UInt8, ∀ letter ∈ hexPair byte,
      (48 ≤ letter && letter ≤ 57 || 65 ≤ letter && letter ≤ 70) = true := by
    apply forall_byte
    decide +kernel
  have reads : ∀ digit : UInt8,
      (48 ≤ toUpper digit && toUpper digit ≤ 57 ||
        65 ≤ toUpper digit && toUpper digit ≤ 70) = true →
      isXdigit digit = true ∧ digit ≠ 32 := by
    apply forall_byte
    decide +kernel
  exact reads digit (capital byte _ spelled)

theorem length_hexText (card : Bytes) : (hexText card).length = 2 * card.length := by
  induction card with
  | nil => rfl
  | cons byte rest inductionHypothesis =>
      show (hexPair byte ++ hexText rest).length = _
      rw [List.length_append, inductionHypothesis, List.length_cons]
      simp only [hexPair, List.length_cons, List.length_nil]
      omega

theorem scanned_hexText (card : Bytes) :
    ((List.range card.length).map fun index => scanHex2 ((hexText card).drop (index * 2))) =
      card := by
  induction card with
  | nil => rfl
  | cons byte rest inductionHypothesis =>
      have first : scanHex2 ((hexText (byte :: rest)).drop (0 * 2)) = byte :=
        scanHex2_hexPair byte (hexText rest)
      have later : ∀ index, (hexText (byte :: rest)).drop ((index + 1) * 2) =
          (hexText rest).drop (index * 2) := by
        intro index
        rw [Nat.succ_mul, Nat.add_comm, ← List.drop_drop]
        rfl
      rw [List.length_cons, List.range_succ_eq_map, List.map_cons, List.map_map, first]
      simp only [Function.comp_def, Nat.succ_eq_add_one, later, inductionHypothesis]

/-- A number of eight bytes is read back from its digits. -/
theorem hexToCard_hexText {card : Bytes} (eight : card.length = acuUserCardLen) :
    (hexToCard (hexText card)).bytes = card := by
  have all : min ((hexText card).length / 2) acuUserCardLen = card.length := by
    rw [length_hexText, eight]
    rfl
  unfold hexToCard
  simp only [all, scanned_hexText]
  rw [eight, Nat.sub_self, List.replicate_zero, List.append_nil]

/-- The number a shorter one stands for. -/
def filledUp (card : Bytes) : Bytes :=
  card ++ List.replicate (acuUserCardLen - card.length) 0

theorem length_filledUp {card : Bytes} (short : card.length ≤ acuUserCardLen) :
    (filledUp card).length = acuUserCardLen := by
  rw [filledUp, List.length_append, List.length_replicate]
  omega

theorem hexText_zeros (count : Nat) :
    hexText (List.replicate count 0) = List.replicate (2 * count) 48 := by
  induction count with
  | zero => rfl
  | succ count inductionHypothesis =>
      rw [List.replicate_succ, Nat.mul_succ, List.replicate_add]
      show hexPair 0 ++ hexText (List.replicate count 0) = _
      rw [inductionHypothesis, ← List.replicate_add, Nat.add_comm, List.replicate_add]
      rfl

section Spelled

variable {line card : Bytes} (spells : Spells line card)
include spells

theorem Spells.length : (trim line).length = 2 * card.length := by
  have lengths := congrArg List.length spells
  rwa [List.length_map, length_hexText] at lengths

theorem Spells.digits : ∀ digit ∈ trim line, isXdigit digit = true ∧ digit ≠ 32 := by
  intro digit member
  have spelled : toUpper digit ∈ hexText card := by
    rw [← spells]
    exact List.mem_map_of_mem member
  obtain ⟨byte, _, inside⟩ := List.mem_flatMap.mp spelled
  exact isXdigit_of_toUpper byte digit inside

theorem Spells.isCardHex (nonempty : card ≠ []) (short : card.length ≤ acuUserCardLen) :
    Acud.isCardHex (trim line) = true := by
  have positive := List.length_pos_iff.mpr nonempty
  have bound : card.length ≤ 8 := short
  have lengths := spells.length
  simp only [Acud.isCardHex, Bool.and_eq_true, decide_eq_true_eq, beq_iff_eq, List.all_eq_true,
    lengths, cardHexLen]
  exact ⟨⟨⟨by omega, by omega⟩, by omega⟩, fun digit member => (spells.digits digit member).1⟩

/-- The digits that are queued are those of the whole number. -/
theorem Spells.padDigits (short : card.length ≤ acuUserCardLen) :
    Acud.padDigits (trim line) = hexText (filledUp card) := by
  have bound : card.length ≤ 8 := short
  have letters : (trim line).map (fun character =>
      if character = 32 then 48 else toUpper character) = hexText card := by
    rw [← spells]
    apply List.map_congr_left
    intro digit member
    exact if_neg (spells.digits digit member).2
  have blanks : cardHexLen - (trim line).length = 2 * (acuUserCardLen - card.length) := by
    rw [spells.length, cardHexLen, acuUserCardLen]
    omega
  have split : hexText (filledUp card) =
      hexText card ++ hexText (List.replicate (acuUserCardLen - card.length) 0) :=
    List.flatMap_append
  rw [Acud.padDigits, List.map_append, letters, List.map_replicate, blanks, split, hexText_zeros]
  rfl

/-- Digits are no command. -/
theorem Spells.ne_command {command : Bytes} (letter : command.all isXdigit = false) :
    trim line ≠ command := by
  intro same
  have digits : command.all isXdigit = true := by
    rw [← same, List.all_eq_true]
    exact fun digit member => (spells.digits digit member).1
  rw [digits] at letter
  cases letter

theorem Spells.not_down : ¬ cstr "rru down " <+: trim line := by
  intro front
  have letter := (spells.digits 114 (front.subset (by decide))).1
  revert letter
  decide

/-- The line means the card. -/
theorem readLine_spelled (nonempty : card ≠ []) (short : card.length ≤ acuUserCardLen) :
    ∃ text, readLine line = .card text ∧ text.digits = hexText (filledUp card) := by
  have isCard := spells.isCardHex nonempty short
  have some : trim line ≠ [] := by
    intro none
    have lengths := spells.length
    rw [none, List.length_nil] at lengths
    have positive := List.length_pos_iff.mpr nonempty
    omega
  have pair : ∀ one other : Bytes, one.all isXdigit = false → other.all isXdigit = false →
      ¬ (trim line = one ∨ trim line = other) := fun one other first second =>
    not_or.mpr ⟨spells.ne_command first, spells.ne_command second⟩
  refine ⟨padCard (trim line) isCard, ?_, spells.padDigits short⟩
  rw [readLine, if_neg some, readCommand, if_neg (pair _ _ (by decide) (by decide)),
    if_neg (pair _ _ (by decide) (by decide)), if_neg spells.not_down,
    if_neg (pair _ _ (by decide) (by decide)), if_neg (pair _ _ (by decide) (by decide)),
    if_neg (pair _ _ (by decide) (by decide)), if_neg (spells.ne_command (by decide)),
    dif_pos isCard]

end Spelled

/-! ### Runs -/

/-- What is written into the pipe in front of a wake-up. -/
def BoardInput.injected : BoardInput → Bytes
  | .wake (.fifo reads) _ => reads.flatten
  | _ => []

/-- The timer of the built-in cards does not run out. -/
def BoardInput.FromPipe : BoardInput → Prop
  | .wake (.auto _) _ => False
  | .other (.cardReadable _ _ _) => False
  | _ => True

/-- The numbers that an input has judged. -/
def Input.cardIds : Input → List CardId
  | .cardReadable _ _ cards => cards.map CardTag.cardId
  | _ => []

theorem cardTags_ids (reads : Nat → JudgeReads) (texts : List CardText) :
    (cardTags reads texts).map CardTag.cardId = texts.map fun text => hexToCard text.digits := by
  induction texts generalizing reads with
  | nil => rfl
  | cons text rest inductionHypothesis =>
      rw [cardTags, List.map_cons, inductionHypothesis]
      rfl

/-- The cards among some lines. -/
def cardsOf (raws : List Bytes) : List CardId :=
  ((raws.map readLine).filterMap MockLine.tagged).map fun text => hexToCard text.digits

theorem cardsOf_append (first second : List Bytes) :
    cardsOf (first ++ second) = cardsOf first ++ cardsOf second := by
  simp [cardsOf]

/-- No wake-up tags more cards than wait in the queue. -/
def HalView.Room : HalView → List BoardInput → Prop
  | _, [] => True
  | view, .wake ready _ :: rest =>
      (view.tags ready).length ≤ mockCardQueueCap ∧ (view.next ready).Room rest
  | view, .other _ :: rest => view.Room rest

/-- The cards of a wake-up are those of its lines, if these are not too many. -/
theorem input_cardIds (view : HalView) (chunks : List Bytes) (reads : Nat → JudgeReads)
    (few : (view.tags (.fifo chunks)).length ≤ mockCardQueueCap) :
    (view.input (.fifo chunks) reads).cardIds =
      cardsOf (mockLines.feed view.held chunks.flatten).2 := by
  have all : view.handedCards (.fifo chunks) = view.tags (.fifo chunks) := by
    rw [HalView.handedCards, List.rtake, Nat.sub_eq_zero_of_le few, List.drop_zero]
  show (cardTags reads (view.handedCards (.fifo chunks))).map CardTag.cardId = _
  rw [cardTags_ids, all]
  rfl

/-- What the daemon judges in the course of a run are the cards of the lines. -/
theorem inputs_cardIds (view : HalView) (inputs : List BoardInput)
    (pipe : ∀ input ∈ inputs, input.FromPipe) (room : view.Room inputs) :
    (view.inputs inputs).flatMap Input.cardIds =
      cardsOf (mockLines.feed view.held (inputs.flatMap BoardInput.injected)).2 := by
  induction inputs generalizing view with
  | nil => rfl
  | cons input rest inductionHypothesis =>
      obtain ⟨here, laterPipe⟩ := List.forall_mem_cons.mp pipe
      rw [List.flatMap_cons]
      cases input with
      | wake ready reads =>
          cases ready with
          | auto expirations => exact absurd here id
          | fifo chunks =>
              obtain ⟨few, laterRoom⟩ := room
              have judged := input_cardIds view chunks reads few
              have later := inductionHypothesis (view.next (.fifo chunks)) laterPipe laterRoom
              rw [HalView.inputs, List.flatMap_cons, judged, later, LineFormat.feed_append,
                cardsOf_append]
              rfl
      | other input =>
          have none : input.cardIds = [] := by
            cases input with
            | cardReadable sensors down cards => exact absurd here id
            | _ => rfl
          rw [HalView.inputs, List.flatMap_cons, none, List.nil_append]
          exact inductionHypothesis view laterPipe room

/-- Lines that are written: one for each card, and others between them. -/
inductive Writes : List Bytes → List Bytes → Prop where
  | nil : Writes [] []
  | card {line card : Bytes} {lines cards : List Bytes} (spells : Spells line card)
      (nonempty : card ≠ []) (short : card.length ≤ acuUserCardLen)
      (rest : Writes lines cards) : Writes (line :: lines) (card :: cards)
  | other {line : Bytes} {lines cards : List Bytes} (noCard : (readLine line).tagged = none)
      (rest : Writes lines cards) : Writes (line :: lines) cards

/-- Every line is one or the other. -/
theorem exists_writes (lines : List Bytes) : ∃ cards, Writes lines cards := by
  induction lines with
  | nil => exact ⟨[], .nil⟩
  | cons line rest inductionHypothesis =>
      obtain ⟨cards, writes⟩ := inductionHypothesis
      by_cases isCard : isCardHex (trim line) = true
      · have digits := isCard
        simp only [isCardHex, Bool.and_eq_true, decide_eq_true_eq, beq_iff_eq,
          List.all_eq_true] at digits
        obtain ⟨⟨⟨some, few⟩, even⟩, hex⟩ := digits
        have halves : (trim line).length = 2 * ((trim line).length / 2) := by omega
        obtain ⟨card, spells⟩ := exists_hexText halves hex
        have length := Spells.length spells
        have bound : cardHexLen = 2 * acuUserCardLen := rfl
        refine ⟨card :: cards, .card spells ?_ (by omega) writes⟩
        intro none
        rw [none, List.length_nil] at length
        omega
      · refine ⟨cards, .other ?_ writes⟩
        unfold readLine readCommand
        rw [dif_neg isCard]
        split_ifs <;> rfl

theorem cardsOf_written {lines cards : List Bytes} (writes : Writes lines cards) :
    (cardsOf lines).map Blob.bytes = cards.map filledUp := by
  induction writes with
  | nil => rfl
  | card spells nonempty short rest inductionHypothesis =>
      obtain ⟨text, meant, digits⟩ := readLine_spelled spells nonempty short
      have read := hexToCard_hexText (length_filledUp short)
      rw [← digits] at read
      rw [List.map_cons, ← inductionHypothesis, ← read]
      simp [cardsOf, meant, MockLine.tagged]
  | other noCard rest inductionHypothesis =>
      rw [← inductionHypothesis]
      simp [cardsOf, noCard]

/-- Whatever lines are written, the cards among them are judged in their order, each of them
once, however the text is cut into reads and wake-ups and whatever else happens in between, as
long as no wake-up tags more of them than the queue holds and the timer of the built-in cards
does not run out. -/
theorem injected_cards_judged (board : Board) (idle : board.mock.Idle)
    (fresh : board.mock.line = []) (inputs : List BoardInput)
    (pipe : ∀ input ∈ inputs, input.FromPipe) (room : board.mock.view.Room inputs)
    (lines : List Bytes) (short : ∀ line ∈ lines, line.length < mockLineCap ∧ newline ∉ line)
    (text : inputs.flatMap BoardInput.injected = (lines.map (· ++ [newline])).flatten) :
    (run Board.step board inputs).map Board.daemon =
        run Daemon.step board.daemon (board.mock.view.inputs inputs) ∧
      (∃ cards, Writes lines cards) ∧
      ∀ cards, Writes lines cards →
        ((board.mock.view.inputs inputs).flatMap Input.cardIds).map Blob.bytes =
          cards.map filledUp := by
  have ends : mockLines.ends newline = true := rfl
  have plain : ∀ line ∈ lines, mockLines.Plain line := by
    intro line member symbol inside
    have other : symbol ≠ newline := fun same => (short line member).2 (same ▸ inside)
    exact beq_false_of_ne other
  have fits : ∀ line ∈ lines, line.length ≤ mockLines.limit := fun line member =>
    Nat.le_pred_of_lt (short line member).1
  have fed := LineFormat.feed_lines ends plain fits
  have viewed : board.mock.view.held = [] := fresh
  refine ⟨(board_refines_daemon board idle inputs).1, exists_writes lines, fun cards writes => ?_⟩
  rw [inputs_cardIds board.mock.view inputs pipe room, viewed, text, fed]
  exact cardsOf_written writes

/-- A card between two commands, cut in the middle of its digits. -/
def cardInPieces : List BoardInput :=
  [.wake (.fifo [cstr "door open\n 04", cstr "a1"]) fun _ => .fine,
    .other .housekeeping,
    .wake (.fifo [cstr "B2\nlist\n"]) fun _ => .fine]

theorem injected_cards_judged_pieces :
    ∃ board, mainStart (StartUp.first fun _ => .again) = some board.daemon ∧
      board.mock = HalMock.initial ∧
      (run Board.step board cardInPieces).map Board.daemon =
          run Daemon.step board.daemon (board.mock.view.inputs cardInPieces) ∧
        ((board.mock.view.inputs cardInPieces).flatMap Input.cardIds).map Blob.bytes =
          [[0x04, 0xa1, 0xb2, 0, 0, 0, 0, 0]] := by
  obtain ⟨daemon, started⟩ :
      ∃ daemon, mainStart (StartUp.first fun _ => .again) = some daemon :=
    Option.isSome_iff_exists.mp rfl
  have writes : Writes [cstr "door open", cstr " 04a1B2", cstr "list"] [[0x04, 0xa1, 0xb2]] :=
    .other (by decide) (.card (by unfold Spells; decide) (by decide) (by decide)
      (.other (by decide) .nil))
  have room : HalMock.initial.view.Room cardInPieces := by
    simp only [cardInPieces, HalView.Room, and_true]
    constructor
    · decide +kernel
    · decide +kernel
  have pipe : ∀ input ∈ cardInPieces, input.FromPipe := by
    simp [cardInPieces, BoardInput.FromPipe]
  let board : Board :=
    { daemon := daemon
      mock := HalMock.initial }
  obtain ⟨reached, _, judged⟩ :=
    injected_cards_judged board ⟨rfl, rfl⟩ rfl cardInPieces pipe room
      [cstr "door open", cstr " 04a1B2", cstr "list"] (by decide) (by decide)
  exact ⟨board, started, rfl, reached, judged _ writes⟩

end Acud
