/-
Module: Acud.Proofs.HalQueues
Purpose: The daemon over the hardware layer refines the daemon that is handed its inputs.
Trusted boundary: none
Main exports:
  MockLine, readLine, HalView, HalView.input, Board.step, board_refines_daemon
-/
import Acud.HalMock
import Acud.Lib.Machine

namespace Acud

open Lib

/-!
A wake-up of the callback is one input of the daemon: the sensors as the last lines left them,
the units that were reported lost and the cards that were tagged.  What that input is follows
from the text alone; the rings of the layer do not show, except that a wake-up hands on no more
than eight lost units and no more than sixteen cards.

* `readLine` says what a line means, and `HalView` what the layer knows between two wake-ups;
* `onCardReadable_eq`: one wake-up is one step of the daemon, and empties the rings;
* `board_refines_daemon`: a run of the board is the run of the daemon on those inputs.

[SRC src/acud/hal_mock.c, src/acud/main.c]
-/

/-! ### Lines -/

/-- What a line says. -/
inductive MockLine where
  | nothing
  | door (opened : Bool)
  | exit (pressed : Bool)
  | down (rru : Int)
  | alarm (active : Bool)
  | fire (active : Bool)
  | auto (on : Bool)
  | card (text : CardText)

/-- The meaning of a line with the white space taken off. -/
def readCommand (line : Bytes) : MockLine :=
  if line = cstr "door open" ∨ line = cstr "door closed" then
    .door (decide (line = cstr "door open"))
  else if line = cstr "exit on" ∨ line = cstr "exit off" then
    .exit (decide (line = cstr "exit on"))
  else if cstr "rru down " <+: line then .down (atoi (line.drop 9))
  else if line = cstr "alarm on" ∨ line = cstr "alarm off" then
    .alarm (decide (line = cstr "alarm on"))
  else if line = cstr "fire on" ∨ line = cstr "fire off" then
    .fire (decide (line = cstr "fire on"))
  else if line = cstr "auto on" ∨ line = cstr "auto off" then
    .auto (decide (line = cstr "auto on"))
  else if line = cstr "list" then .nothing
  else if card : isCardHex line = true then .card (padCard line card)
  else .nothing

def readLine (raw : Bytes) : MockLine :=
  if trim raw = [] then .nothing else readCommand (trim raw)

namespace MockLine

def apply (mock : HalMock) : MockLine → HalMock
  | .nothing => mock
  | .door opened => { mock with doorActive := opened }
  | .exit pressed => { mock with exitActive := pressed }
  | .down rru => pushDown mock rru
  | .alarm active => { mock with alarmActive := active }
  | .fire active => { mock with fireActive := active }
  | .auto on => { mock with autoOn := on }
  | .card text => pushCard mock text

/-- The unit that is reported lost. -/
def lost : MockLine → Option RruNumber
  | .down rru => rruNumberOf rru
  | _ => none

def tagged : MockLine → Option CardText
  | .card text => some text
  | _ => none

def sense (sensors : Sensors) : MockLine → Sensors
  | .door opened => { sensors with doorOpen := opened }
  | .alarm active => { sensors with alarm := active }
  | .fire active => { sensors with fire := active }
  | _ => sensors

end MockLine

/-- The commands are told apart in the same order; a line that is none may be a card. -/
theorem takeLine_eq (mock : HalMock) (raw : Bytes) :
    takeLine mock raw = (readLine raw).apply mock := by
  unfold takeLine readLine
  by_cases blank : trim raw = []
  · simp only [if_pos blank]
    rfl
  simp only [if_neg blank]
  unfold handleCommand readCommand
  by_cases door : trim raw = cstr "door open" ∨ trim raw = cstr "door closed"
  · simp only [if_pos door]
    rfl
  by_cases exit : trim raw = cstr "exit on" ∨ trim raw = cstr "exit off"
  · simp only [if_neg door, if_pos exit]
    rfl
  by_cases down : cstr "rru down " <+: trim raw
  · simp only [if_neg door, if_neg exit, if_pos down]
    rfl
  by_cases alarm : trim raw = cstr "alarm on" ∨ trim raw = cstr "alarm off"
  · simp only [if_neg door, if_neg exit, if_neg down, if_pos alarm]
    rfl
  by_cases fire : trim raw = cstr "fire on" ∨ trim raw = cstr "fire off"
  · simp only [if_neg door, if_neg exit, if_neg down, if_neg alarm, if_pos fire]
    rfl
  by_cases auto : trim raw = cstr "auto on" ∨ trim raw = cstr "auto off"
  · simp only [if_neg door, if_neg exit, if_neg down, if_neg alarm, if_neg fire, if_pos auto]
    rfl
  by_cases list : trim raw = cstr "list"
  · simp only [if_neg door, if_neg exit, if_neg down, if_neg alarm, if_neg fire, if_neg auto,
      if_pos list]
    rfl
  simp only [if_neg door, if_neg exit, if_neg down, if_neg alarm, if_neg fire, if_neg auto,
    if_neg list]
  split <;> rfl

/-! ### Services -/

/-- A line leaves the buffer alone. -/
theorem takeLine_line (mock : HalMock) (line raw : Bytes) :
    takeLine { mock with line := line } raw = { takeLine mock raw with line := line } := by
  rw [takeLine_eq, takeLine_eq]
  cases readLine raw <;> rfl

theorem takeLines_line (mock : HalMock) (line : Bytes) (raws : List Bytes) :
    raws.foldl takeLine { mock with line := line } =
      { raws.foldl takeLine mock with line := line } := by
  induction raws generalizing mock with
  | nil => rfl
  | cons raw rest inductionHypothesis =>
      rw [List.foldl_cons, List.foldl_cons, takeLine_line, inductionHypothesis]

/-- Bytes one after another: the lines among them take effect, the rest is held. -/
theorem takeBytes_eq (mock : HalMock) (bytes : Bytes) :
    bytes.foldl takeByte mock =
      { (mockLines.feed mock.line bytes).2.foldl takeLine mock with
        line := (mockLines.feed mock.line bytes).1 } := by
  induction bytes generalizing mock with
  | nil => rfl
  | cons byte rest inductionHypothesis =>
      have taken : (takeByte mock byte).line = (mockLines.step mock.line byte).1 := by
        unfold takeByte
        simp only [takeLines_line]
      rw [List.foldl_cons, inductionHypothesis, taken, LineFormat.feed, List.foldl_append]
      unfold takeByte
      simp only [takeLines_line]

/-- Where the reads of a wake-up are cut does not matter. -/
theorem drainFifo_eq (mock : HalMock) (reads : List Bytes) :
    drainFifo mock reads =
      { (mockLines.feed mock.line reads.flatten).2.foldl takeLine mock with
        line := (mockLines.feed mock.line reads.flatten).1 } := by
  rw [← takeBytes_eq, List.foldl_flatten]
  rfl

/-- What the lines do to each part of the state. -/
theorem takeLines_parts (mock : HalMock) (raws : List Bytes) :
    (raws.foldl takeLine mock).sensors =
        (raws.map readLine).foldl MockLine.sense mock.sensors ∧
      (raws.foldl takeLine mock).cardIdx = mock.cardIdx ∧
      (raws.foldl takeLine mock).down =
        ((raws.map readLine).filterMap MockLine.lost).foldl Ring.pushIfRoom mock.down ∧
      (raws.foldl takeLine mock).cards =
        ((raws.map readLine).filterMap MockLine.tagged).foldl Ring.pushOver mock.cards := by
  induction raws generalizing mock with
  | nil => exact ⟨rfl, rfl, rfl, rfl⟩
  | cons raw rest inductionHypothesis =>
      obtain ⟨sensors, cardIdx, down, cards⟩ := inductionHypothesis (takeLine mock raw)
      rw [List.foldl_cons, sensors, cardIdx, down, cards, takeLine_eq, List.map_cons,
        List.foldl_cons]
      cases readLine raw with
      | down rru =>
          refine ⟨rfl, rfl, ?_, rfl⟩
          show ((_ : List MockLine).filterMap MockLine.lost).foldl Ring.pushIfRoom
            ((rruNumberOf rru).elim mock.down mock.down.pushIfRoom) = _
          rw [List.filterMap_cons, MockLine.lost]
          cases rruNumberOf rru <;> rfl
      | _ => exact ⟨rfl, rfl, rfl, rfl⟩

/-! ### Between two wake-ups -/

/-- What the layer knows when its rings are empty. -/
structure HalView where
  held : Bytes
  sensors : Sensors
  cardIdx : Nat

def HalMock.view (mock : HalMock) : HalView :=
  { held := mock.line
    sensors := mock.sensors
    cardIdx := mock.cardIdx }

/-- Nothing waits in the rings. -/
def HalMock.Idle (mock : HalMock) : Prop :=
  mock.down.entries = [] ∧ mock.cards.entries = []

def nextDummy (index : Nat) : Nat :=
  (index + 1) % dummyCardIds.length

def dummyTags : Nat → Nat → List CardText
  | _, 0 => []
  | index, expirations + 1 =>
      dummyCardIds.getD index blankCard :: dummyTags (nextDummy index) expirations

theorem tagDummies_eq (expirations : Nat) (mock : HalMock) :
    tagDummies expirations mock =
      { mock with
        cards := (dummyTags mock.cardIdx expirations).foldl Ring.pushOver mock.cards
        cardIdx := nextDummy^[expirations] mock.cardIdx } := by
  induction expirations generalizing mock with
  | zero => rfl
  | succ expirations inductionHypothesis =>
      rw [tagDummies, inductionHypothesis]
      rfl

namespace HalView

variable (view : HalView)

/-- What is said in the course of a service. -/
def lines : HalReady → List MockLine
  | .fifo reads => ((mockLines.feed view.held reads.flatten).2).map readLine
  | .auto _ => []

def tags : HalReady → List CardText
  | .fifo reads => (view.lines (.fifo reads)).filterMap MockLine.tagged
  | .auto expirations => dummyTags view.cardIdx (expirations.getD 0)

def next (ready : HalReady) : HalView :=
  { held :=
      match ready with
      | .fifo reads => (mockLines.feed view.held reads.flatten).1
      | .auto _ => view.held
    sensors := (view.lines ready).foldl MockLine.sense view.sensors
    cardIdx :=
      match ready with
      | .fifo _ => view.cardIdx
      | .auto expirations => nextDummy^[expirations.getD 0] view.cardIdx }

/-- The lost units that are handed on: the first ones. -/
def handedDown (ready : HalReady) : List RruNumber :=
  ((view.lines ready).filterMap MockLine.lost).take mockDownCap

/-- The cards that are handed on: the last ones. -/
def handedCards (ready : HalReady) : List CardText :=
  (view.tags ready).rtake mockCardQueueCap

end HalView

/-- After a service the rings hold what is handed on. -/
theorem halServiceFd_idle {mock : HalMock} (idle : mock.Idle) (ready : HalReady) :
    (halServiceFd mock ready).view = mock.view.next ready ∧
      (halServiceFd mock ready).down.entries = mock.view.handedDown ready ∧
      (halServiceFd mock ready).cards.entries = mock.view.handedCards ready := by
  cases ready with
  | fifo reads =>
      obtain ⟨sensors, cardIdx, down, cards⟩ :=
        takeLines_parts mock (mockLines.feed mock.line reads.flatten).2
      rw [halServiceFd, drainFifo_eq]
      refine ⟨?_, ?_, ?_⟩
      · exact congrArg₂ (fun sensors cardIdx =>
          HalView.mk (mockLines.feed mock.line reads.flatten).1 sensors cardIdx) sensors cardIdx
      · rw [down, Ring.entries_pushIfRoomAll, idle.1, List.nil_append]
        rfl
      · rw [cards, Ring.entries_pushOverAll, idle.2, List.nil_append]
        rfl
  | auto expirations =>
      have tagged : halServiceFd mock (.auto expirations) =
          tagDummies (expirations.getD 0) mock := by
        cases expirations <;> rfl
      rw [tagged, tagDummies_eq]
      refine ⟨rfl, idle.1, ?_⟩
      rw [Ring.entries_pushOverAll, idle.2, List.nil_append]
      rfl

/-! ### One wake-up -/

/-- The cards as the daemon takes them, each with how its database steps end. -/
def cardTags : (Nat → JudgeReads) → List CardText → List CardTag
  | _, [] => []
  | reads, text :: rest =>
      { rru := 1
        cardId := hexToCard text.digits
        reads := reads 0 } :: cardTags (fun position => reads (position + 1)) rest

/-- The loop takes every lost unit out of its ring and reports it. -/
theorem reportDowns_eq {rounds : Nat} {board : Board} (enough : board.mock.down.count < rounds) :
    reportDowns rounds board =
      { daemon := (board.mock.down.entries.map Subtype.val).foldl reportRruDisconnected board.daemon
        mock := { board.mock with down := (board.mock.down.drain rounds).2 } } := by
  induction rounds generalizing board with
  | zero => exact absurd enough (Nat.not_lt_zero _)
  | succ rounds inductionHypothesis =>
      unfold reportDowns halTakeDisconnectedRru Ring.drain
      by_cases none : board.mock.down.count = 0
      · simp only [Ring.pop_none none, (Ring.entries_eq_nil _).mpr none]
        rfl
      · obtain ⟨number, popped, split⟩ := Ring.pop_some none
        have fewer : board.mock.down.dropOldest.count < rounds := by
          show board.mock.down.count - 1 < rounds
          omega
        have positive : number.val > 0 := number.property.1
        simp only [popped, Option.map_some, Option.getD_some, if_pos positive]
        rw [inductionHypothesis fewer, split]
        rfl

/-- The loop takes every card out of its ring and judges it. -/
theorem judgeCards_eq {doorStatus : UInt8} {rounds : Nat} {reads : Nat → JudgeReads}
    {board : Board} (enough : board.mock.cards.count < rounds) :
    judgeCards doorStatus rounds reads board =
      { daemon :=
          (cardTags reads board.mock.cards.entries).foldl (judgeCard doorStatus) board.daemon
        mock := { board.mock with cards := (board.mock.cards.drain rounds).2 } } := by
  induction rounds generalizing board reads with
  | zero => exact absurd enough (Nat.not_lt_zero _)
  | succ rounds inductionHypothesis =>
      unfold judgeCards halReadCard Ring.drain
      by_cases none : board.mock.cards.count = 0
      · simp only [Ring.pop_none none, (Ring.entries_eq_nil _).mpr none]
        rfl
      · obtain ⟨text, popped, split⟩ := Ring.pop_some none
        have fewer : board.mock.cards.dropOldest.count < rounds := by
          show board.mock.cards.count - 1 < rounds
          omega
        simp only [popped, Option.map_some]
        rw [inductionHypothesis fewer, split]
        rfl

/-- What the daemon is handed in the course of a wake-up. -/
def HalView.input (view : HalView) (ready : HalReady) (reads : Nat → JudgeReads) : Input :=
  .cardReadable (view.next ready).sensors ((view.handedDown ready).map Subtype.val)
    (cardTags reads (view.handedCards ready))

/-- A wake-up is a step of the daemon on its input, and leaves nothing in the rings. -/
theorem onCardReadable_eq {board : Board} (idle : board.mock.Idle) (ready : HalReady)
    (reads : Nat → JudgeReads) :
    board.daemon.step (board.mock.view.input ready reads) =
        some (board.onCardReadable ready reads).daemon ∧
      (board.onCardReadable ready reads).mock.view = board.mock.view.next ready ∧
      (board.onCardReadable ready reads).mock.Idle := by
  obtain ⟨viewed, down, cards⟩ := halServiceFd_idle idle ready
  have sensors : (halServiceFd board.mock ready).sensors = (board.mock.view.next ready).sensors :=
    congrArg HalView.sensors viewed
  have downRoom : (halServiceFd board.mock ready).down.count < mockDownCap + 1 :=
    Nat.lt_succ_of_le (halServiceFd board.mock ready).down.count_le
  have cardRoom : (halServiceFd board.mock ready).cards.count < mockCardQueueCap + 1 :=
    Nat.lt_succ_of_le (halServiceFd board.mock ready).cards.count_le
  have ends : board.onCardReadable ready reads =
      { daemon :=
          onCardReadable board.daemon (board.mock.view.next ready).sensors
            ((board.mock.view.handedDown ready).map Subtype.val)
            (cardTags reads (board.mock.view.handedCards ready))
        mock :=
          { halServiceFd board.mock ready with
            down := ((halServiceFd board.mock ready).down.drain (mockDownCap + 1)).2
            cards :=
              ((halServiceFd board.mock ready).cards.drain (mockCardQueueCap + 1)).2 } } := by
    unfold Board.onCardReadable
    simp only
    rw [reportDowns_eq downRoom, judgeCards_eq cardRoom, sensors, down, cards]
    rfl
  rw [ends]
  refine ⟨rfl, viewed, ?_, ?_⟩
  · exact (Ring.entries_eq_nil _).mpr (Ring.drain_eq _ (Nat.le_of_lt downRoom)).2
  · exact (Ring.entries_eq_nil _).mpr (Ring.drain_eq _ (Nat.le_of_lt cardRoom)).2

/-! ### Runs -/

/-- What the board reacts to: a descriptor of the layer, or something else that happens to
the daemon. -/
inductive BoardInput where
  | wake (ready : HalReady) (reads : Nat → JudgeReads)
  | other (input : Input)

def Board.step (board : Board) : BoardInput → Option Board
  | .wake ready reads => some (board.onCardReadable ready reads)
  | .other input => (board.daemon.step input).map fun daemon => { board with daemon := daemon }

/-- The inputs of the daemon in the course of a run. -/
def HalView.inputs : HalView → List BoardInput → List Input
  | _, [] => []
  | view, .wake ready reads :: rest => view.input ready reads :: (view.next ready).inputs rest
  | view, .other input :: rest => input :: view.inputs rest

/-- Started with empty rings, the board does what the daemon does on its inputs, and its rings
are empty again whenever it waits. -/
theorem board_refines_daemon (board : Board) (idle : board.mock.Idle)
    (inputs : List BoardInput) :
    (run Board.step board inputs).map Board.daemon =
        run Daemon.step board.daemon (board.mock.view.inputs inputs) ∧
      Always Board.step (fun later => later.mock.Idle) board inputs := by
  induction inputs generalizing board with
  | nil => exact ⟨rfl, idle⟩
  | cons input rest inductionHypothesis =>
      cases input with
      | wake ready reads =>
          obtain ⟨stepped, viewed, stays⟩ := onCardReadable_eq idle ready reads
          obtain ⟨same, always⟩ := inductionHypothesis (board.onCardReadable ready reads) stays
          constructor
          · rw [run_cons, HalView.inputs, run_cons, stepped, ← viewed]
            exact same
          · refine ⟨idle, ?_⟩
            intro next reached
            cases reached
            exact always
      | other input =>
          constructor
          · rw [run_cons, HalView.inputs, run_cons, Board.step]
            cases board.daemon.step input with
            | none => rfl
            | some daemon => exact (inductionHypothesis { board with daemon := daemon } idle).1
          · refine ⟨idle, ?_⟩
            intro next reached
            obtain ⟨daemon, _, rfl⟩ := Option.map_eq_some_iff.mp reached
            exact (inductionHypothesis { board with daemon := daemon } idle).2

/-- The door opens and the timer runs out before the daemon waits again. -/
def doorAndTimer : List BoardInput :=
  [.wake (.fifo [cstr "door op", cstr "en\n"]) fun _ => .fine,
    .wake (.auto (some 20)) fun _ => .fine]

theorem board_refines_daemon_started :
    ∃ board, mainStart (StartUp.first fun _ => .again) = some board.daemon ∧
      board.mock = HalMock.initial ∧
      (run Board.step board doorAndTimer).map Board.daemon =
          run Daemon.step board.daemon (board.mock.view.inputs doorAndTimer) ∧
        Always Board.step (fun later => later.mock.Idle) board doorAndTimer := by
  obtain ⟨daemon, started⟩ :
      ∃ daemon, mainStart (StartUp.first fun _ => .again) = some daemon :=
    Option.isSome_iff_exists.mp rfl
  exact ⟨{ daemon := daemon, mock := HalMock.initial }, started, rfl,
    board_refines_daemon _ ⟨rfl, rfl⟩ doorAndTimer⟩

end Acud
