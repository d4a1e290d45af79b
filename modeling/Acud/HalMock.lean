/-
Module: Acud.HalMock
Purpose: The hardware layer that takes its input from a pipe, and the loops over its queues.
Trusted boundary: none
Main exports:
  HalMock, handleCommand, drainFifo, halServiceFd, halReadCard, halTakeDisconnectedRru,
  hexToCard, Board, Board.onCardReadable
-/
import Acud.Config
import Acud.Lib.LineReader
import Acud.Lib.Ring

namespace Acud

open Lib

/-!
There is no reader hardware yet: cards, sensors and lost units are injected as lines of text
into a pipe.  The lines are collected in a buffer of 256 bytes and take effect at once; cards
and lost units wait in two rings until the daemon's callback takes them out.  A second
descriptor is a timer that tags one of six built-in cards every time it runs out.

Characters are bytes, and texts end in front of the first zero.  What is only logged is left
out.

[SRC src/acud/hal.h, src/acud/hal_mock.c, src/acud/main.c]
-/

def mockLineCap : Nat := 256
def mockDownCap : Nat := 8
def mockCardQueueCap : Nat := 16

/-! ### Characters -/

def newline : UInt8 := 10

def isBlank (character : UInt8) : Bool :=
  character == 32 || character == 9 || character == 13 || character == newline

/-- `isspace`. -/
def isSpaceByte (character : UInt8) : Bool :=
  character == 32 || (9 ≤ character && character ≤ 13)

def isDigitByte (character : UInt8) : Bool :=
  48 ≤ character && character ≤ 57

/-- `isxdigit`. -/
def isXdigit (character : UInt8) : Bool :=
  isDigitByte character || (65 ≤ character && character ≤ 70) ||
    (97 ≤ character && character ≤ 102)

/-- `toupper`. -/
def toUpper (character : UInt8) : UInt8 :=
  if 97 ≤ character && character ≤ 122 then character - 32 else character

/-- The text without the white space at both ends. -/
def trim (line : Bytes) : Bytes :=
  ((line.takeWhile (· ≠ 0)).dropWhile isBlank).rdropWhile isBlank

/-- `atoi`: a sign and digits behind white space.  The value is a `long` that stops at its
bounds and is then cut to an `int`. -/
def atoi (text : Bytes) : Int :=
  let digitsOf (rest : Bytes) : Int :=
    (rest.takeWhile isDigitByte).foldl (fun value digit => 10 * value + (digit.toNat - 48 : Nat)) 0
  let value :=
    match text.dropWhile isSpaceByte with
    | 45 :: rest => max (-digitsOf rest) (-9223372036854775808)
    | 43 :: rest => min (digitsOf rest) 9223372036854775807
    | rest => min (digitsOf rest) 9223372036854775807
  value.bmod 4294967296

/-! ### Cards -/

def cardHexLen : Nat := 16

/-- A card as the queue keeps it: sixteen hexadecimal digits. -/
structure CardText where
  digits : Bytes
  length_eq : digits.length = cardHexLen
  hex : ∀ digit ∈ digits, isXdigit digit = true
deriving DecidableEq

/-- A text of digits that is a card. -/
def isCardHex (text : Bytes) : Bool :=
  2 ≤ text.length && text.length ≤ cardHexLen && text.length % 2 == 0 && text.all isXdigit

/-- `%-16s`, with zeros for the blanks behind it and capital letters. -/
def padDigits (line : Bytes) : Bytes :=
  (line ++ List.replicate (cardHexLen - line.length) 32).map fun character =>
    if character = 32 then 48 else toUpper character

theorem isXdigit_toUpper (character : UInt8) :
    isXdigit character = true → isXdigit (toUpper character) = true := by
  revert character
  apply forall_byte
  decide +kernel

theorem isXdigit_padDigits {line : Bytes} (hex : ∀ digit ∈ line, isXdigit digit = true) :
    ∀ digit ∈ padDigits line, isXdigit digit = true := by
  intro digit member
  obtain ⟨character, source, rfl⟩ := List.mem_map.mp member
  split
  next => decide
  next letter =>
    rcases List.mem_append.mp source with inside | blank
    · exact isXdigit_toUpper character (hex character inside)
    · exact absurd (List.eq_of_mem_replicate blank) letter

/-- A shorter card is filled up with zeros. -/
def padCard (line : Bytes) (card : isCardHex line = true) : CardText :=
  { digits := padDigits line
    length_eq := by
      have parts : 2 ≤ line.length ∧ line.length ≤ cardHexLen := by
        simp only [isCardHex, Bool.and_eq_true, decide_eq_true_eq] at card
        exact card.1.1
      rw [padDigits, List.length_map, List.length_append, List.length_replicate]
      omega
    hex := by
      apply isXdigit_padDigits
      simp only [isCardHex, Bool.and_eq_true, List.all_eq_true] at card
      exact card.2 }

def cardTextOf (text : String) (length_eq : (cstr text).length = cardHexLen)
    (hex : (cstr text).all isXdigit = true) : CardText :=
  { digits := cstr text
    length_eq := length_eq
    hex := List.all_eq_true.mp hex }

/-- `DUMMY_CARD_IDS`. -/
def dummyCardIds : List CardText :=
  [cardTextOf "04A1B2C3D4E5F600" (by decide) (by decide),
    cardTextOf "AABBCCDD11223300" (by decide) (by decide),
    cardTextOf "FFFFFFFFFFFFFFFF" (by decide) (by decide),
    cardTextOf "1122334455667700" (by decide) (by decide),
    cardTextOf "2233445566778800" (by decide) (by decide),
    cardTextOf "3344556677889900" (by decide) (by decide)]

/-- A queue slot that was never written. -/
def blankCard : CardText :=
  cardTextOf "0000000000000000" (by decide) (by decide)

def hexValue (digit : UInt8) : UInt8 :=
  if isDigitByte digit then digit - 48
  else if 97 ≤ digit then digit - 87
  else digit - 55

/-- `sscanf(text, "%2x", &v)` on a text of digits; nothing is read from an empty one. -/
def scanHex2 (text : Bytes) : UInt8 :=
  ((text.take 2).takeWhile isXdigit).foldl (fun value digit => 16 * value + hexValue digit) 0

/-- The raw card number; what the text does not reach is zero. -/
def hexToCard (hex : Bytes) : CardId :=
  let bytes := min (hex.length / 2) acuUserCardLen
  { bytes :=
      (List.range bytes).map (fun index => scanHex2 (hex.drop (index * 2))) ++
        List.replicate (acuUserCardLen - bytes) 0
    length_eq := by
      rw [List.length_append, List.length_map, List.length_range, List.length_replicate]
      exact Nat.add_sub_of_le (Nat.min_le_right _ _) }

/-! ### The state of the layer -/

/-- The number of a unit that exists. -/
abbrev RruNumber := { rru : Nat // 1 ≤ rru ∧ rru ≤ halRruMax }

structure HalMock where
  /-- `g_line`, as far as it is filled. -/
  line : Bytes
  doorActive : Bool
  exitActive : Bool
  alarmActive : Bool
  fireActive : Bool
  down : Ring RruNumber mockDownCap
  cards : Ring CardText mockCardQueueCap
  cardIdx : Nat
  /-- The timer of the built-in cards runs. -/
  autoOn : Bool

def HalMock.initial : HalMock :=
  { line := []
    doorActive := false
    exitActive := false
    alarmActive := false
    fireActive := false
    down := Ring.empty (by decide) ⟨1, by decide⟩
    cards := Ring.empty (by decide) blankCard
    cardIdx := 0
    autoOn := false }

def pushCard (mock : HalMock) (card : CardText) : HalMock :=
  { mock with cards := mock.cards.pushOver card }

/-- A number that no unit has is not reported. -/
def rruNumberOf (rru : Int) : Option RruNumber :=
  if known : 1 ≤ rru.toNat ∧ rru.toNat ≤ halRruMax then some ⟨rru.toNat, known⟩ else none

def pushDown (mock : HalMock) (rru : Int) : HalMock :=
  { mock with down := (rruNumberOf rru).elim mock.down mock.down.pushIfRoom }

/-! ### Lines -/

/-- The commands; `none` for a line that is none. -/
def handleCommand (mock : HalMock) (line : Bytes) : Option HalMock :=
  if line = cstr "door open" ∨ line = cstr "door closed" then
    some { mock with doorActive := decide (line = cstr "door open") }
  else if line = cstr "exit on" ∨ line = cstr "exit off" then
    some { mock with exitActive := decide (line = cstr "exit on") }
  else if cstr "rru down " <+: line then some (pushDown mock (atoi (line.drop 9)))
  else if line = cstr "alarm on" ∨ line = cstr "alarm off" then
    some { mock with alarmActive := decide (line = cstr "alarm on") }
  else if line = cstr "fire on" ∨ line = cstr "fire off" then
    some { mock with fireActive := decide (line = cstr "fire on") }
  else if line = cstr "auto on" ∨ line = cstr "auto off" then
    some { mock with autoOn := decide (line = cstr "auto on") }
  else if line = cstr "list" then some mock
  else none

/-- One line: a command, a card, or nothing that is known. -/
def takeLine (mock : HalMock) (raw : Bytes) : HalMock :=
  let line := trim raw
  if line = [] then mock
  else
    match handleCommand mock line with
    | some handled => handled
    | none => if card : isCardHex line = true then pushCard mock (padCard line card) else mock

/-- Lines end at a newline; one byte of the buffer is kept for the zero. -/
def mockLines : LineFormat UInt8 :=
  { ends := fun byte => byte == newline
    limit := mockLineCap - 1 }

def takeByte (mock : HalMock) (byte : UInt8) : HalMock :=
  let taken := mockLines.step mock.line byte
  taken.2.toList.foldl takeLine { mock with line := taken.1 }

/-- What one wake-up reads from the pipe, one element for each `read`. -/
def drainFifo (mock : HalMock) (reads : List Bytes) : HalMock :=
  reads.foldl (fun mock bytes => bytes.foldl takeByte mock) mock

/-- Tag built-in cards, one after another. -/
def tagDummies : Nat → HalMock → HalMock
  | 0, mock => mock
  | expirations + 1, mock =>
      let tagged := pushCard mock (dummyCardIds.getD mock.cardIdx blankCard)
      tagDummies expirations
        { tagged with cardIdx := (mock.cardIdx + 1) % dummyCardIds.length }

/-- The descriptor that is ready, with what it gives; the timer may give nothing. -/
inductive HalReady where
  | fifo (reads : List Bytes)
  | auto (expirations : Option Nat)
deriving Repr, Inhabited, DecidableEq

def halServiceFd (mock : HalMock) : HalReady → HalMock
  | .fifo reads => drainFifo mock reads
  | .auto none => mock
  | .auto (some expirations) => tagDummies expirations mock

/-! ### Queries -/

/-- A card and the unit it was read at: there is only one. -/
def halReadCard (mock : HalMock) : Option (Nat × CardText) × HalMock :=
  ((mock.cards.pop).1.map fun card => (1, card), { mock with cards := (mock.cards.pop).2 })

/-- Zero if no unit was lost. -/
def halTakeDisconnectedRru (mock : HalMock) : Nat × HalMock :=
  (((mock.down.pop).1.map Subtype.val).getD 0, { mock with down := (mock.down.pop).2 })

inductive HalSensorId where
  | doorContact
  | exitButton
  | alarmInput
  | fireInput
deriving Repr, Inhabited, DecidableEq

def halReadSensor (mock : HalMock) : HalSensorId → Bool
  | .doorContact => mock.doorActive
  | .exitButton => mock.exitActive
  | .alarmInput => mock.alarmActive
  | .fireInput => mock.fireActive

/-- The sensors that the daemon looks at. -/
def HalMock.sensors (mock : HalMock) : Sensors :=
  { doorOpen := halReadSensor mock .doorContact
    alarm := halReadSensor mock .alarmInput
    fire := halReadSensor mock .fireInput }

/-! ### The callback over the layer -/

/-- The daemon with the layer under it. -/
structure Board where
  daemon : Daemon
  mock : HalMock

/-- `while ((down_rru = hal_take_disconnected_rru()) > 0)`. -/
def reportDowns : Nat → Board → Board
  | 0, board => board
  | rounds + 1, board =>
      let taken := halTakeDisconnectedRru board.mock
      if taken.1 > 0 then
        reportDowns rounds
          { daemon := reportRruDisconnected board.daemon taken.1
            mock := taken.2 }
      else { board with mock := taken.2 }

/-- Judge cards until none is left; `reads` tells how the database steps for each end. -/
def judgeCards (doorStatus : UInt8) : Nat → (Nat → JudgeReads) → Board → Board
  | 0, _, board => board
  | rounds + 1, reads, board =>
      match halReadCard board.mock with
      | (none, mock) => { board with mock := mock }
      | (some (rru, text), mock) =>
          judgeCards doorStatus rounds (fun position => reads (position + 1))
            { daemon :=
                judgeCard doorStatus board.daemon
                  { rru := rru
                    cardId := hexToCard text.digits
                    reads := reads 0 }
              mock := mock }

/-- `on_card_readable`: a queue holds no more than its capacity, so the rounds do not run
out. -/
def Board.onCardReadable (board : Board) (ready : HalReady) (reads : Nat → JudgeReads) :
    Board :=
  let mock := halServiceFd board.mock ready
  let sensors := mock.sensors
  let doorStatus := if sensors.doorOpen then idtiDoorStatusOpen else idtiDoorStatusClosed
  let noted := board.daemon.onNet fun s => { s with net := { s.net with doorStatus := doorStatus } }
  judgeCards doorStatus (mockCardQueueCap + 1) reads
    (reportDowns (mockDownCap + 1)
      { daemon := checkAlarmFire noted sensors
        mock := mock })

end Acud
