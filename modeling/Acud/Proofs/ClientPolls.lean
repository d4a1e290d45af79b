/-
Module: Acud.Proofs.ClientPolls
Purpose: What the polling client prints is the state of the device that answered.
Trusted boundary: none
Main exports:
  IdtiClient.PollArgs.header, shownAnswer, printedAnswer, poll_turn, polls_printed
-/
import Acud.Proofs.Conversations
import Acud.Proofs.HistoryPoll

namespace Acud

open Lib
open IdtiClient (Line PollArgs PollLoop RequestKind buildRequest parseResponse)

/-!
The loop of the client sends one request after another, all of one kind, and prints every
reply.  `shownAnswer` says what belongs under each kind of request, told from the state in
which the request is handled.

A reply to `lcd-check` is 40 bytes long, so that the client takes its front for an event.

[SRC src/tools/idti_client.py, src/acud/net.c]
-/

/-! ### The requests -/

/-- The header under which the device reads a poll. -/
def IdtiClient.PollArgs.header (args : PollArgs) (frameIndex : Int) : IdtiHeader :=
  (args.request frameIndex).packet.header

section Requests

variable (args : PollArgs) (frameIndex : Int)

/-- The options as they are sent. -/
theorem header_frameOption :
    (args.header frameIndex).frameOption =
      if args.excludeStatus then
        (idtiFoptRequestAck ||| idtiFoptTcp) ||| idtiFoptExcludeDeviceStatus
      else idtiFoptRequestAck ||| idtiFoptTcp := by
  show ((if args.excludeStatus then
      (idtiFoptRequestAck ||| idtiFoptTcp) ||| idtiFoptExcludeDeviceStatus
    else idtiFoptRequestAck ||| idtiFoptTcp) ||| idtiFoptRequestAck) &&&
      ~~~idtiFoptCheckPacket = _
  cases args.excludeStatus with
  | true => decide
  | false => decide

/-- The option bits that the device looks at. -/
theorem header_options :
    (args.header frameIndex).hasOption idtiFoptExcludeDeviceStatus = args.excludeStatus ∧
      (args.header frameIndex).hasOption idtiFoptTimeSync = false ∧
      (args.header frameIndex).hasOption idtiFoptReRequestEvent = false ∧
      (args.header frameIndex).hasOption idtiFoptBlocking = false := by
  unfold IdtiHeader.hasOption
  rw [header_frameOption]
  cases args.excludeStatus with
  | true => decide
  | false => decide

theorem poll_fits {frameIndex : Int} (low : 0 ≤ frameIndex) (high : frameIndex < 2 ^ 32) :
    (args.request frameIndex).Fits := by
  have password : (0 : Int) < 2 ^ 32 := by decide
  refine ⟨⟨low, high⟩, ⟨Int.le_refl 0, password⟩, ?_, header_frameOption args frameIndex⟩
  show 46 + args.kind.data.length ≤ 65535
  cases args.kind with
  | lcdChange =>
      show 46 + (List.replicate 40 (0 : UInt8)).length ≤ 65535
      rw [List.length_replicate]
      decide
  | history | status | lcdCheck | langCheck | langChange | forceOpen | forceNormal |
    forceCheck => decide

/-- A request that could be built fits. -/
theorem poll_fits_of_built {sent : Bytes}
    (built : buildRequest (args.request frameIndex) = some sent) :
    (args.request frameIndex).Fits := by
  obtain ⟨number, numbered, _⟩ := Option.bind_eq_some_iff.mp built
  unfold IdtiClient.toBytes at numbered
  split at numbered
  next bounds =>
    have high : frameIndex < 256 ^ 4 := bounds.2
    exact poll_fits args bounds.1 (by simpa using high)
  next => cases numbered

end Requests

/-! ### The answers -/

/-- The event that a poll takes: the first that is pending, if there is one. -/
def firstPending (s : NetSys) : List AcuEvent :=
  if s.net.eventsAttached then ((eventsFetch s.events idtiEventNonblockingMax).1).getD [] else []

/-- The data of the answer to each kind of request. -/
def answerData (s : NetSys) : RequestKind → Bytes
  | .history => (firstPending s).flatMap (buildEventInfo s.clock)
  | .status => buildFirmwareInfo s.net
  | .lcdCheck =>
      [idtiLcdBacklightDefault, 0, 0, 0, 0, idtiLcdDateformatYyyymmdd] ++ List.replicate 34 0
  | .langCheck => [idtiLanguageEnglish]
  | .forceCheck => [forceOpenValue s]
  | .lcdChange | .langChange | .forceOpen | .forceNormal => [idtiAckSuccess]

/-- What is printed about it. -/
def shownAnswer (s : NetSys) : RequestKind → List Line
  | .history => shownBatch s.clock.localtime (firstPending s)
  | .status => shownFirmware s.net
  | .lcdCheck =>
      [.event none 0x01000000, .eventPlace 0 0 0 0 0,
        .eventTime [0, 0, 0, 0, 0, 0] (List.replicate 8 0)]
  | .lcdChange | .langCheck | .langChange | .forceOpen | .forceNormal | .forceCheck => [.noEvent]

/-- One byte holds no event. -/
theorem eventLines_byte (byte : UInt8) : IdtiClient.eventLines [byte] = [.noEvent] := by
  have none : [byte].length / IdtiClient.eventInfoLen = 0 :=
    Nat.div_eq_of_lt (by simp [IdtiClient.eventInfoLen])
  unfold IdtiClient.eventLines
  rw [none, if_pos rfl]

theorem eventLines_lcd :
    IdtiClient.eventLines
        ([idtiLcdBacklightDefault, 0, 0, 0, 0, idtiLcdDateformatYyyymmdd] ++ List.replicate 34 0) =
      [.event none 0x01000000, .eventPlace 0 0 0 0 0,
        .eventTime [0, 0, 0, 0, 0, 0] (List.replicate 8 0)] := by
  decide

theorem contentLines_answer (s : NetSys) (kind : RequestKind) :
    IdtiClient.contentLines kind.obj (answerData s kind) = shownAnswer s kind := by
  unfold IdtiClient.contentLines
  cases kind with
  | status =>
      exact (if_pos rfl).trans (firmwareLines_info s.net)
  | history =>
      rw [if_neg (by decide)]
      exact eventLines_batch s.clock (firstPending s)
  | lcdCheck =>
      rw [if_neg (by decide)]
      exact eventLines_lcd
  | lcdChange | langCheck | langChange | forceOpen | forceNormal | forceCheck =>
      rw [if_neg (by decide)]
      exact eventLines_byte _

section Answers

variable (args : PollArgs) (frameIndex : Int) (s : NetSys) (pkt : Memory)

/-- No poll sets the clock. -/
theorem requestTimeSync_poll : requestTimeSync s (args.header frameIndex) pkt = s := by
  rw [requestTimeSync, (header_options args frameIndex).2.1]
  rfl

theorem pollBatch_poll : pollBatch s (args.header frameIndex) = firstPending s := by
  obtain ⟨_, _, again, blocking⟩ := header_options args frameIndex
  unfold pollBatch pollStart historyRewind historyFetch historyMax firstPending
  simp only [again, blocking, Bool.false_and, Bool.false_eq_true, if_false]
  split <;> rfl

/-- No poll is an event count check, which is answered with frame index 0. -/
theorem answerIndex_poll :
    (args.header frameIndex).frameIndex = answerIndex (args.header frameIndex) := by
  obtain ⟨kind, excludeStatus, watch, count⟩ := args
  cases kind with
  | history | status | lcdCheck | lcdChange | langCheck | langChange | forceOpen | forceNormal |
    forceCheck => rfl

theorem handleRequest_poll :
    Responds s (handleRequest s (args.header frameIndex) pkt) (args.header frameIndex)
      s.link.store (answerData s args.kind) := by
  have synced := requestTimeSync_poll args frameIndex s pkt
  have batch := pollBatch_poll args frameIndex s
  have index := answerIndex_poll args frameIndex
  obtain ⟨kind, excludeStatus, watch, count⟩ := args
  have byte : ∀ value : UInt8, [value].length ≤ netEventDataCap := by
    intro value
    rw [List.length_singleton]
    decide
  have forced : ∀ on, Works s (netApplyForceOpen s on) s.link.store := by
    intro on
    rw [netApplyForceOpen_eq]
    exact ⟨rfl, rfl⟩
  unfold handleRequest
  simp only [synced]
  cases kind with
  | history =>
      have data : answerData s .history =
          historyData s (pollBatch s ((PollArgs.mk .history excludeStatus watch count).header
            frameIndex)) := by
        rw [batch]
        rfl
      rw [data]
      exact handleHistoryRequest_responds index rfl rfl
  | status => exact handleFirmwareRequest_responds index rfl rfl
  | lcdCheck =>
      have short : (answerData s .lcdCheck).length ≤ netEventDataCap := by
        have size : (answerData s .lcdCheck).length = 40 := rfl
        rw [size]
        decide
      exact sendBack_responds rfl rfl index rfl rfl short (.none s)
  | lcdChange | langCheck | langChange =>
      exact sendBack_responds rfl rfl index rfl rfl (byte _) (.none s)
  | forceOpen | forceNormal => exact sendAck_responds index idtiAckSuccess (forced _)
  | forceCheck => exact sendData_responds index rfl 1 (byte _) (.none s)

end Answers

/-! ### The loop -/

/-- What is printed about a reply, told from the state in which the request was handled. -/
def printedAnswer (args : PollArgs) (packet : IdtiPacket) (s : NetSys) : Option (List Line) :=
  some (shownPacket packet args.excludeStatus ++ shownStatus args.excludeStatus s.net s.clock ++
    shownAnswer s args.kind)

section Loop

variable {args : PollArgs} {daemon final : Daemon} {loop after : PollLoop}

/-- A loop that sends has not been left. -/
theorem pollNext_sends {sent : Bytes} (sends : PollLoop.next args loop = .send sent) :
    loop.broken = false ∧ buildRequest (args.request loop.frameIndex) = some sent := by
  unfold PollLoop.next at sends
  split at sends
  next => cases sends
  next running =>
    split at sends
    next =>
      refine ⟨Bool.eq_false_of_not_eq_true running, ?_⟩
      unfold IdtiClient.Next.request at sends
      split at sends
      next built =>
        cases sends
        exact built
      next => cases sends
    next => cases sends

/-- One turn of the loop. -/
theorem poll_turn {turn : Turn} (idle : daemon.Idle)
    (completes : TurnCompletes (PollLoop.next args) (daemon, loop) turn)
    (stepped : talk (PollLoop.next args) (PollLoop.answered args) (daemon, loop) turn =
      some (final, after)) :
    ∃ s pkt packet, Exchange daemon final (args.request loop.frameIndex) turn s pkt ∧
      IsReplyTo s (args.header loop.frameIndex) (answerData s args.kind) packet ∧
      after = loop.answered args (some packet.bytes) := by
  obtain ⟨sent, sends, reached, rfl⟩ := talk_sends stepped
  obtain ⟨_, built⟩ := pollNext_sends sends
  have fits := poll_fits_of_built args loop.frameIndex built
  rw [IdtiClient.buildRequest_eq fits] at built
  cases built
  obtain ⟨other, s, pkt, exchange⟩ := turn_exchange idle fits (completes _ sends)
  rw [exchange.reached] at reached
  cases reached
  have responds := handleRequest_poll args loop.frameIndex s pkt
  have synced : requestTimeSync s (args.request loop.frameIndex).packet.header pkt = s :=
    requestTimeSync_poll args loop.frameIndex s pkt
  obtain ⟨packet, replies, received, _⟩ := exchange.reads s.link.store (answerData s args.kind)
    (by rw [synced]; exact responds)
  rw [synced] at replies
  exact ⟨s, pkt, packet, exchange, replies, by rw [received]⟩

theorem printed_reply {s : NetSys} {packet : IdtiPacket} {frameIndex : Int}
    (replies : IsReplyTo s (args.header frameIndex) (answerData s args.kind) packet) :
    some (parseResponse packet.bytes) = printedAnswer args packet s := by
  have object : (args.header frameIndex).object = args.kind.obj := rfl
  rw [replies.shown, (header_options args frameIndex).1, object, contentLines_answer]
  rfl

end Loop

/-- So many polls were sent by a loop that does not watch. -/
structure Polling (args : PollArgs) (count : Nat) (state : Daemon × PollLoop) : Prop where
  idle : state.1.Idle
  running : state.2.broken = false
  sent : state.2.sent = count
  number : state.2.frameIndex = count + 1
  within : (count : Int) ≤ args.count

section Ending

variable {args : PollArgs} {count : Nat}

/-- A loop that was not left sends until it has sent enough. -/
theorem pollNext_once (once : args.watch = false) {loop : PollLoop}
    (running : loop.broken = false) :
    PollLoop.next args loop =
      if (loop.sent : Int) < args.count then
        .request (buildRequest (args.request loop.frameIndex))
      else .returned 0 := by
  unfold PollLoop.next
  rw [running, once]
  simp only [Bool.false_eq_true, if_false, false_or]

theorem Polling.step (once : args.watch = false) {state later : Daemon × PollLoop} {turn : Turn}
    (polling : Polling args count state)
    (completes : TurnCompletes (PollLoop.next args) state turn)
    (stepped : talk (PollLoop.next args) (PollLoop.answered args) state turn = some later) :
    Polling args (count + 1) later := by
  obtain ⟨here, loop⟩ := state
  obtain ⟨final, after⟩ := later
  have running : loop.broken = false := polling.running
  have sent : loop.sent = count := polling.sent
  obtain ⟨_, sends, _, _⟩ := talk_sends stepped
  obtain ⟨s, pkt, packet, exchange, _, rfl⟩ := poll_turn polling.idle completes stepped
  rw [pollNext_once once running] at sends
  split at sends
  next more =>
    exact
      { idle := exchange.idle
        running := rfl
        sent := congrArg (· + 1) polling.sent
        number := congrArg (· + 1) polling.number
        within := by omega }
  next => cases sends

theorem Polling.goesOn (once : args.watch = false) (high : args.count < 2 ^ 32) {here : Daemon}
    {loop : PollLoop} (polling : Polling args count (here, loop)) :
    (∃ value, PollLoop.next args loop = .returned value) ∨
      ∃ request : IdtiClient.Request, here.Idle ∧ request.Fits ∧
        PollLoop.next args loop = .request (buildRequest request) := by
  have running : loop.broken = false := polling.running
  have sent : loop.sent = count := polling.sent
  have number : loop.frameIndex = count + 1 := polling.number
  rw [pollNext_once once running]
  split
  next more => exact .inr ⟨_, polling.idle, poll_fits args (by omega) (by omega), rfl⟩
  next => exact .inl ⟨0, rfl⟩

end Ending

/-- On a socket that takes bytes the loop sends as many requests as it was told to: what is
said of a completed run is said of one that there is. -/
theorem polls_end {args : PollArgs} (once : args.watch = false) (low : 0 ≤ args.count)
    (high : args.count < 2 ^ 32) {daemon : Daemon} (idle : daemon.Idle)
    (takes : daemon.sys.link.Takes) :
    ∃ turns final after,
      Meets (talk (PollLoop.next args) (PollLoop.answered args))
        (TurnCompletes (PollLoop.next args)) (daemon, IdtiClient.pollLoop) turns ∧
      run (talk (PollLoop.next args) (PollLoop.answered args)) (daemon, IdtiClient.pollLoop)
        turns = some (final, after) ∧ (turns.length : Int) = args.count := by
  have start : Polling args 0 (daemon, IdtiClient.pollLoop) :=
    { idle := idle
      running := rfl
      sent := rfl
      number := rfl
      within := low }
  have bounded : ∀ count (state : Daemon × PollLoop), Polling args count state →
      count ≤ args.count.toNat := by
    intro count state polling
    have within := polling.within
    omega
  obtain ⟨turns, final, after, completes, reached, value, returns⟩ :=
    talk_ends bounded (fun _ _ _ _ polling => polling.step once)
      (fun _ _ _ polling => polling.goesOn once high) takes start
  refine ⟨turns, final, after, completes, reached, ?_⟩
  have ends := completes.counted (fun _ _ _ _ polling => polling.step once) start reached
  have running : after.broken = false := ends.running
  have sent : after.sent = 0 + turns.length := ends.sent
  have within := ends.within
  rw [pollNext_once once running] at returns
  split at returns
  next =>
    unfold IdtiClient.Next.request at returns
    split at returns
    next => cases returns
    next => cases returns
  next enough =>
    omega

end Acud
