/-
Module: Acud.Proofs.Reassembly
Purpose: Frames are reassembled from the received bytes, however these are cut.
Trusted boundary: none
Main exports:
  WireFrame, recvLoop_folds, Daemon.requestCalls, runCalls, Reassembling, KeepsClient, ChunkFits,
  frames_reassembled
-/
import Acud.Proofs.DaemonSteps
import Acud.Proofs.FrameReads

namespace Acud

open Lib

/-!
A frame may arrive in any number of pieces, and a piece may hold any number of
frames.  Between two reads the receive buffer holds the front of the first frame
that is not complete.  That, together with the bytes that are still to come,
is the invariant `Reassembling`.

`netOnClientReadyCalls` collects the calls of `handle_request` that a callback
makes; it takes the same rounds as `recvLoop`.

[SRC src/acud/net.c]
-/

/-! ### Frames and calls -/

/-- A frame on the wire: its header is accepted and says how long it is. -/
structure WireFrame where
  bytes : Bytes
  hdr : IdtiHeader
  parsed : idtiHeaderParse (Memory.ofBytes bytes) bytes.length = some hdr
  length_eq : bytes.length = hdr.packetLength.toNat

/-- A call of `handle_request`: the header, and the bytes of the frame at `pkt`. -/
abbrev RequestCall := IdtiHeader × Bytes

namespace WireFrame

/-- The call that handles the frame. -/
def call (frame : WireFrame) : RequestCall :=
  (frame.hdr, frame.bytes)

/-- The bytes of frames that are sent one after another. -/
def stream (frames : List WireFrame) : Bytes :=
  (frames.map WireFrame.bytes).flatten

theorem stream_cons (frame : WireFrame) (rest : List WireFrame) :
    stream (frame :: rest) = frame.bytes ++ stream rest := rfl

theorem length_ge (frame : WireFrame) : 46 ≤ frame.bytes.length := by
  rw [frame.length_eq]
  exact idtiHeaderParse_packetLength_ge frame.parsed

theorem length_lt (frame : WireFrame) : frame.bytes.length < netRecvBufCap := by
  rw [frame.length_eq]
  exact frame.hdr.packetLength.toNat_lt

end WireFrame

/-- The call a round makes that goes on, and then those of the rest of the loop. -/
def RecvStep.calls (head : LoopHead) (loop : LoopHead → List RequestCall) :
    RecvStep → List RequestCall
  | .next later =>
      (head.frame.toList.map fun hdr => (hdr, head.pkt.read 0 hdr.packetLength.toNat)) ++
        loop later
  | .leave _ | .undefined => []

theorem RecvStep.calls_next {head later : LoopHead} {loop : LoopHead → List RequestCall}
    {hdr : IdtiHeader} (found : head.frame = some hdr) :
    (RecvStep.next later).calls head loop =
      (hdr, head.pkt.read 0 hdr.packetLength.toNat) :: loop later := by
  rw [RecvStep.calls, found]
  rfl

/-- The calls of `handle_request` that the receive loop makes. -/
def recvLoopCalls : Nat → LoopHead → List RequestCall
  | 0, _ => []
  | rounds + 1, head => (recvStep head).calls head (recvLoopCalls rounds)

/-- The calls are all that the loop does: from its state they are made one after another, each on
the bytes of its frame, and behind them the buffer is moved up. -/
theorem recvLoop_folds {rounds : Nat} {head : LoopHead} {later : NetSys}
    (ended : recvLoop rounds head = some later) :
    ∃ last : LoopHead, recvFinish last = some later ∧
      last.sys = (recvLoopCalls rounds head).foldl
        (fun s call => handleRequest s call.1 (Memory.ofBytes call.2)) head.sys := by
  induction rounds generalizing head with
  | zero => cases ended
  | succ rounds inductionHypothesis =>
      rw [recvLoop] at ended
      rw [recvLoopCalls]
      cases stepped : recvStep head with
      | leave last =>
          rw [stepped] at ended
          exact ⟨last, ended, recvStep_leave_sys stepped⟩
      | undefined =>
          rw [stepped] at ended
          cases ended
      | next after =>
          rw [stepped] at ended
          obtain ⟨hdr, found, _, rfl⟩ := recvStep_eq_next.mp stepped
          obtain ⟨last, finished, folds⟩ := inductionHypothesis ended
          refine ⟨last, finished, ?_⟩
          obtain ⟨_, parsed, _⟩ := LoopHead.frame_eq_some.mp found
          have length := idtiHeaderParse_dataLen parsed
          -- The handler reads nothing behind the frame.
          have same : handleRequest head.sys hdr
                (Memory.ofBytes (head.pkt.read 0 hdr.packetLength.toNat)) =
              handleRequest head.sys hdr head.pkt := by
            apply handleRequest_congr
            intro offset inside
            rw [Memory.byte_ofBytes_read _ _ _ _ (by omega), Nat.zero_add]
          rw [RecvStep.calls_next found, List.foldl_cons, folds]
          exact congrArg (fun s => (recvLoopCalls rounds (head.handled hdr)).foldl _ s) same.symm

/-- The calls of `handle_request` that the client's callback makes. -/
def netOnClientReadyCalls (s : NetSys) (ready : LoopInterest) (answer : RecvAnswer) :
    List RequestCall :=
  match readHead s ready answer with
  | some start => recvLoopCalls (netRecvBufCap + 1) start
  | none => []

/-- The calls of `handle_request` during one event. -/
def Daemon.requestCalls (daemon : Daemon) : Input → List RequestCall
  | .clientReady ready answer =>
      if daemon.netUp ∧ netIsConnected daemon.sys.link then
        netOnClientReadyCalls daemon.sys ready answer
      else []
  | _ => []

/-- The calls of `handle_request` during a run. -/
def runCalls : Daemon → List Input → List RequestCall
  | _, [] => []
  | daemon, input :: rest =>
      daemon.requestCalls input ++
        match daemon.step input with
        | some next => runCalls next rest
        | none => []

/-- The bytes `recv` hands out during an event. -/
def Input.received : Input → Bytes
  | .clientReady ready (.data bytes) => if ready.read then bytes else []
  | _ => []

/-- The bytes in the receive buffer. -/
def NetSys.content (s : NetSys) : Bytes :=
  s.link.conn.recvBuf.read 0 s.link.conn.recvLen

/-- The bytes that the loop has not consumed yet. -/
def LoopHead.content (head : LoopHead) : Bytes :=
  head.conn.recvBuf.read head.consumed (head.conn.recvLen - head.consumed)

@[simp] theorem NetSys.length_content (s : NetSys) :
    s.content.length = s.link.conn.recvLen :=
  Memory.length_read _ _ _

/-- The buffer holds the front of the first frame that is not complete; the rest of it
and the later frames are still to come. -/
structure Reassembling (content pending : Bytes) (frames : List WireFrame) : Prop where
  stream : content ++ pending = WireFrame.stream frames
  incomplete : ∀ frame, frames.head? = some frame → content.length < frame.bytes.length

/-! ### One round -/

section Rounds

variable {head : LoopHead} {pending : Bytes} {frame : WireFrame} {rest : List WireFrame}

theorem LoopHead.length_content (safe : head.Safe) : head.content.length = head.avail := by
  rw [head.avail_of_le safe.consumed safe.fits]
  exact Memory.length_read _ _ _

/-- As far as it has arrived, the frame at hand is what `pkt` points to. -/
theorem LoopHead.byte_pkt (safe : head.Safe)
    (stream : head.content ++ pending = WireFrame.stream (frame :: rest)) {index : Nat}
    (arrived : index < head.avail) (inside : index < frame.bytes.length) :
    head.pkt.byte index = frame.bytes[index] := by
  rw [← LoopHead.length_content safe] at arrived
  have same : (head.content ++ pending)[index]? = (frame.bytes ++ WireFrame.stream rest)[index]? :=
    congrArg (fun bytes => bytes[index]?) stream
  rw [List.getElem?_append_left arrived, List.getElem?_append_left inside,
    List.getElem?_eq_getElem arrived, List.getElem?_eq_getElem inside] at same
  rw [← Option.some.inj same]
  exact (Memory.getElem_read _ _ _ _ arrived).symm

/-- Once 44 bytes are there the parser reads the header of the frame at hand. -/
theorem LoopHead.parses (safe : head.Safe)
    (stream : head.content ++ pending = WireFrame.stream (frame :: rest))
    (long : idtiHeaderLenV2 ≤ head.avail) :
    idtiHeaderParse head.pkt head.avail = some frame.hdr := by
  have whole : idtiHeaderLenV2 ≤ frame.bytes.length :=
    Nat.le_trans (by decide) frame.length_ge
  rw [← frame.parsed]
  apply idtiHeaderParse_congr _ long whole
  intro index below
  rw [LoopHead.byte_pkt safe stream (by omega) (by omega)]
  have written := Memory.byte_write_inside Memory.zeros 0 frame.bytes index (by omega)
  rw [Nat.zero_add] at written
  exact written.symm

/-- While the frame at hand is not complete the loop is left. -/
theorem recvStep_incomplete (safe : head.Safe) {frames : List WireFrame}
    (reassembling : Reassembling head.content pending frames) :
    recvStep head = .leave head := by
  have length := LoopHead.length_content safe
  have bound := head.avail_of_le safe.consumed safe.fits
  have fits := safe.fits
  have consumed := safe.consumed
  unfold recvStep
  split
  next => rfl
  next long =>
    rw [if_neg (by omega)]
    cases frames with
    | nil =>
        -- Nothing more is sent, so nothing is there to be parsed.
        have empty := congrArg List.length reassembling.stream
        rw [List.length_append, length] at empty
        change head.avail + pending.length = 0 at empty
        unfold idtiHeaderLenV2 at long
        omega
    | cons frame rest =>
        have short := reassembling.incomplete frame rfl
        rw [LoopHead.parses safe reassembling.stream (by omega)]
        simp only
        rw [frame.length_eq, length] at short
        rw [if_pos short]

/-- A complete frame at hand is the one that is handled. -/
theorem LoopHead.frame_complete (safe : head.Safe)
    (stream : head.content ++ pending = WireFrame.stream (frame :: rest))
    (complete : frame.bytes.length ≤ head.content.length) :
    head.frame = some frame.hdr ∧
      head.pkt.read 0 frame.hdr.packetLength.toNat = frame.bytes ∧
      recvStep head = .next (head.handled frame.hdr) := by
  have length := LoopHead.length_content safe
  have bound := head.avail_of_le safe.consumed safe.fits
  have whole := frame.length_ge
  have same := frame.length_eq
  have fits := safe.fits
  have consumed := safe.consumed
  rw [length] at complete
  have long : idtiHeaderLenV2 ≤ head.avail := by
    unfold idtiHeaderLenV2
    omega
  have found : head.frame = some frame.hdr :=
    LoopHead.frame_eq_some.mpr
      ⟨⟨long, by omega⟩, LoopHead.parses safe stream long, by omega⟩
  refine ⟨found, ?_, recvStep_eq_next.mpr ⟨frame.hdr, found, by omega, rfl⟩⟩
  apply List.ext_getElem
  · rw [Memory.length_read, same]
  · intro index inside below
    rw [Memory.getElem_read, Nat.zero_add]
    exact LoopHead.byte_pkt safe stream (by omega) below

/-- Handling a frame consumes its bytes and leaves those behind it. -/
theorem LoopHead.content_handled (hdr : IdtiHeader)
    (fine : ¬ SendFailed head.sys.link (handleRequest head.sys hdr head.pkt).link)
    (connected : netIsConnected head.sys.link = true) :
    (head.handled hdr).content = head.content.drop hdr.packetLength.toNat ∧
      netIsConnected (head.handled hdr).sys.link = true := by
  have effect := handleRequest_link head.sys hdr head.pkt
  have kept : SendKept head.sys.link (handleRequest head.sys hdr head.pkt).link :=
    effect.summary.outcome.resolve_right fun dropped => fine dropped.failed
  have stays : netIsConnected (head.handled hdr).sys.link = true := by
    unfold netIsConnected at connected ⊢
    exact kept.clientFd ▸ connected
  have recvLen : (head.handled hdr).conn.recvLen = head.conn.recvLen := by
    rcases effect.received with ⟨_, same⟩ | ⟨gone, _⟩
    · exact same
    · rw [netIsConnected, LoopHead.handled, gone] at stays
      cases stays
  have recvBuf : (head.handled hdr).conn.recvBuf = head.conn.recvBuf := effect.recvBuf
  refine ⟨?_, stays⟩
  have position : (head.handled hdr).consumed = head.consumed + hdr.packetLength.toNat := rfl
  rw [LoopHead.content, LoopHead.content, recvLen, recvBuf, position, Memory.drop_read]
  congr 1
  omega

theorem recvFinish_content (ordered : head.consumed ≤ head.conn.recvLen) :
    ∃ later, recvFinish head = some later ∧ later.content = head.content ∧
      later.link.conn.clientFd = head.conn.clientFd := by
  unfold recvFinish
  simp only
  split
  next start =>
    refine ⟨head.sys, rfl, ?_, rfl⟩
    rw [NetSys.content, LoopHead.content, start]
    rfl
  next =>
    rw [if_neg (Nat.not_lt.mpr ordered)]
    exact ⟨_, rfl, Memory.read_move _ _ _, rfl⟩

end Rounds

/-! ### The loop -/

/-- What a callback did: it handled some frames in order, each with its own header and
bytes, and the rest is still being reassembled for the client. -/
def HandlesFrames (calls : List RequestCall) (returned : Option NetSys) (pending : Bytes)
    (frames : List WireFrame) : Prop :=
  ∃ done rest later, frames = done ++ rest ∧ calls = done.map WireFrame.call ∧
    returned = some later ∧ netIsConnected later.link = true ∧
    Reassembling later.content pending rest

/-- The loop ends at a head whose frame is not complete. -/
theorem recvLoop_ends {head : LoopHead} {pending : Bytes} {frames : List WireFrame}
    (safe : head.Safe) (connected : netIsConnected head.sys.link = true) (rounds : Nat)
    (reassembling : Reassembling head.content pending frames) :
    HandlesFrames (recvLoopCalls (rounds + 1) head) (recvLoop (rounds + 1) head) pending
      frames := by
  obtain ⟨later, finished, same, client⟩ := recvFinish_content safe.consumed
  have left := recvStep_incomplete safe reassembling
  refine ⟨[], frames, later, rfl, ?_, ?_, ?_, ?_⟩
  · rw [recvLoopCalls, left]
    rfl
  · rw [recvLoop, left]
    exact finished
  · rw [netIsConnected, client]
    exact connected
  · rw [same]
    exact reassembling

/-- A frame that was handled comes in front of those the rest of the loop handles. -/
theorem HandlesFrames.cons {calls : List RequestCall} {returned : Option NetSys}
    {pending : Bytes} {rest : List WireFrame} (handles : HandlesFrames calls returned pending rest)
    (frame : WireFrame) :
    HandlesFrames (frame.call :: calls) returned pending (frame :: rest) := by
  obtain ⟨done, later, returns, rfl, rfl, finished⟩ := handles
  exact ⟨frame :: done, later, returns, rfl, rfl, finished⟩

/-- From each head the loop handles the frames that are complete. -/
theorem recvLoop_handles {start head : LoopHead} {pending : Bytes}
    (safe : ∀ later, LoopReaches start later → later.Safe)
    (fine : ∀ head hdr, LoopReaches start head → head.frame = some hdr →
      ¬ SendFailed head.sys.link (handleRequest head.sys hdr head.pkt).link)
    (frames : List WireFrame) {rounds : Nat} (reached : LoopReaches start head)
    (connected : netIsConnected head.sys.link = true)
    (enough : netRecvBufCap < head.consumed + rounds)
    (stream : head.content ++ pending = WireFrame.stream frames) :
    HandlesFrames (recvLoopCalls rounds head) (recvLoop rounds head) pending frames := by
  induction frames generalizing head rounds with
  | nil =>
      have ordered := (safe head reached).consumed.trans (safe head reached).fits
      obtain ⟨more, rfl⟩ : ∃ more, rounds = more + 1 := ⟨rounds - 1, by omega⟩
      apply recvLoop_ends (safe head reached) connected more ⟨stream, fun frame first => ?_⟩
      cases first
  | cons frame rest inductionHypothesis =>
      have ordered := (safe head reached).consumed.trans (safe head reached).fits
      obtain ⟨more, rfl⟩ : ∃ more, rounds = more + 1 := ⟨rounds - 1, by omega⟩
      rcases Nat.lt_or_ge head.content.length frame.bytes.length with short | complete
      · apply recvLoop_ends (safe head reached) connected more ⟨stream, fun first same => ?_⟩
        cases same
        exact short
      · obtain ⟨found, bytes, stepped⟩ :=
          LoopHead.frame_complete (safe head reached) stream complete
        obtain ⟨content, stays⟩ :=
          LoopHead.content_handled frame.hdr (fine head _ reached found) connected
        have streamLater : (head.handled frame.hdr).content ++ pending =
            WireFrame.stream rest := by
          have dropped := congrArg (List.drop frame.bytes.length) stream
          rw [WireFrame.stream_cons, List.drop_left,
            List.drop_append_of_le_length complete, frame.length_eq] at dropped
          rw [content]
          exact dropped
        have moved : (head.handled frame.hdr).consumed =
            head.consumed + frame.hdr.packetLength.toNat := rfl
        have whole := frame.length_ge
        have enoughLater : netRecvBufCap < (head.handled frame.hdr).consumed + more := by
          rw [moved, ← frame.length_eq]
          omega
        have handles :=
          inductionHypothesis (reached.round stepped) stays enoughLater streamLater
        have calls : recvLoopCalls (more + 1) head =
            frame.call :: recvLoopCalls more (head.handled frame.hdr) := by
          rw [recvLoopCalls, stepped, RecvStep.calls, found]
          simp only [Option.toList_some, List.map_cons, List.map_nil, bytes,
            List.singleton_append, WireFrame.call]
        have loops : recvLoop (more + 1) head = recvLoop more (head.handled frame.hdr) := by
          rw [recvLoop, stepped, RecvStep.continue]
        rw [calls, loops]
        exact handles.cons frame

/-! ### The callback -/

section Callback

variable {s : NetSys} {ready : LoopInterest} {answer : RecvAnswer} {pending : Bytes}
  {frames : List WireFrame}

/-- A flush that does not lose the client leaves the receive buffer alone. -/
theorem clientReadyFlush_content
    (connected : netIsConnected (clientReadyFlush s ready).link = true) :
    (clientReadyFlush s ready).content = s.content ∧
      (clientReadyFlush s ready).link.conn.recvLen = s.link.conn.recvLen := by
  have effect := clientReadyFlush_link s ready
  have recvLen : (clientReadyFlush s ready).link.conn.recvLen = s.link.conn.recvLen := by
    rcases effect.received with ⟨_, same⟩ | ⟨gone, _⟩
    · exact same
    · rw [netIsConnected, gone] at connected
      cases connected
  rw [NetSys.content, NetSys.content, recvLen, effect.recvBuf]
  exact ⟨rfl, rfl⟩

/-- A read that enters the loop does nothing else. -/
theorem netOnClientReady_enters {start : LoopHead}
    (entered : readHead s ready answer = some start) :
    netOnClientReady s ready answer = recvLoop (netRecvBufCap + 1) start := by
  unfold readHead at entered
  unfold netOnClientReady
  simp only at entered ⊢
  split at entered
  next => cases entered
  next reads =>
    rw [if_neg reads]
    split at entered
    next bytes =>
      split at entered
      next => cases entered
      next some =>
        simp only
        rw [if_neg some]
        cases entered
        rfl
    next => cases entered

/-- The head at which a chunk that fits enters the loop. -/
theorem readHead_chunk {bytes : Bytes} (read : ready.read = true)
    (connected : netIsConnected (clientReadyFlush s ready).link = true)
    (nonempty : bytes ≠ []) (fits : bytes.length ≤ netRecvBufCap - s.link.conn.recvLen) :
    ∃ start, readHead s ready (.data bytes) = some start ∧ start.consumed = 0 ∧
      start.content = s.content ++ bytes := by
  obtain ⟨content, recvLen⟩ := clientReadyFlush_content connected
  have taken : bytes.take (netRecvBufCap - (clientReadyFlush s ready).link.conn.recvLen) =
      bytes := by
    rw [recvLen]
    exact List.take_of_length_le fits
  have present : (clientReadyFlush s ready).link.conn.clientFd ≠ none :=
    Option.isSome_iff_ne_none.mp connected
  refine ⟨{ sys := (clientReadyFlush s ready).received bytes, consumed := 0 }, ?_, rfl, ?_⟩
  · unfold readHead
    simp only [read, Bool.true_eq_false, present, or_self, if_false, taken,
      List.isEmpty_eq_false_iff.mpr nonempty, Bool.false_eq_true]
  · have appended := (clientReadyFlush s ready).link.conn.recvBuf.read_write_append 0
      (clientReadyFlush s ready).link.conn.recvLen bytes
    rw [Nat.zero_add] at appended
    rw [← content]
    exact appended

/-- The callback handles the frames that the bytes at hand complete, as long as the
client stays and no `send` fails. -/
theorem netOnClientReady_handles
    (fits : s.link.conn.recvLen ≤ netRecvBufCap) (fine : NoSendFailure s ready answer)
    (stays : ∀ later, netOnClientReady s ready answer = some later →
      netIsConnected later.link = true)
    (chunk : ∀ bytes, answer = .data bytes → ready.read = true →
      bytes ≠ [] ∧ bytes.length ≤ netRecvBufCap - s.link.conn.recvLen)
    (reassembling : Reassembling s.content ((Input.clientReady ready answer).received ++ pending)
      frames) :
    HandlesFrames (netOnClientReadyCalls s ready answer) (netOnClientReady s ready answer)
      pending frames := by
  have connected : netIsConnected (clientReadyFlush s ready).link = true := by
    cases client : netIsConnected (clientReadyFlush s ready).link with
    | true => rfl
    | false =>
        have gone : (clientReadyFlush s ready).link.conn.clientFd = none :=
          Option.isSome_eq_false_iff.mp client |> Option.isNone_iff_eq_none.mp
        have returned : netOnClientReady s ready answer = some (clientReadyFlush s ready) := by
          unfold netOnClientReady
          simp only [gone, or_true, if_true]
        rw [← client]
        exact stays _ returned
  have present : (clientReadyFlush s ready).link.conn.clientFd ≠ none :=
    Option.isSome_iff_ne_none.mp connected
  obtain ⟨content, _⟩ := clientReadyFlush_content connected
  -- A callback that reads nothing handles nothing and keeps what it has.
  have idle : readHead s ready answer = none →
      netOnClientReady s ready answer = some (clientReadyFlush s ready) →
      (Input.clientReady ready answer).received = [] →
      HandlesFrames (netOnClientReadyCalls s ready answer) (netOnClientReady s ready answer)
        pending frames := by
    intro none returned nothing
    rw [nothing, List.nil_append, ← content] at reassembling
    refine ⟨[], frames, _, rfl, ?_, returned, connected, reassembling⟩
    unfold netOnClientReadyCalls
    rw [none]
    rfl
  cases read : ready.read with
  | false =>
      apply idle
      · unfold readHead
        simp only [read, true_or, if_true]
      · unfold netOnClientReady
        simp only [read, true_or, if_true]
      · cases answer with
        | data bytes => simp only [Input.received, read, Bool.false_eq_true, if_false]
        | _ => rfl
  | true =>
      cases answer with
      | again =>
          apply idle
          · unfold readHead
            simp only [read, Bool.true_eq_false, present, or_self, if_false]
          · unfold netOnClientReady
            simp only [read, Bool.true_eq_false, present, or_self, if_false]
          · rfl
      | closed =>
          have returned : netOnClientReady s ready .closed =
              some (clientReadyFlush s ready).dropClient := by
            unfold netOnClientReady
            simp only [read, Bool.true_eq_false, present, or_self, if_false]
          have lost := stays _ returned
          cases lost
      | data bytes =>
          obtain ⟨nonempty, small⟩ := chunk bytes rfl read
          obtain ⟨start, entered, consumed, held⟩ :=
            readHead_chunk read connected nonempty small
          rw [netOnClientReady_enters entered, netOnClientReadyCalls, entered]
          apply recvLoop_handles (fun later reached => reached.safe fits entered fine)
            (fun head hdr reached found => fine start entered head hdr reached found) frames .start
          · exact (readHead_sound fits entered).2.2
          · omega
          · have stream := reassembling.stream
            simp only [Input.received, read, if_true] at stream
            rw [held, List.append_assoc]
            exact stream

end Callback

/-! ### Events -/

/-- The event leaves the client its connection: no other client replaces it, none of its
replies fails, and it is connected afterwards. -/
structure KeepsClient (daemon : Daemon) (input : Input) : Prop where
  same : daemon.replacesClient input = false
  sends : ∀ ready answer, input = .clientReady ready answer →
    NoSendFailure daemon.sys ready answer
  stays : ∀ next, daemon.step input = some next → netIsConnected next.sys.link = true

/-- What `recv` hands out is not empty and fits into the free space. -/
def ChunkFits (daemon : Daemon) (input : Input) : Prop :=
  ∀ ready bytes, input = .clientReady ready (.data bytes) → ready.read = true →
    bytes ≠ [] ∧ bytes.length ≤ netRecvBufCap - daemon.sys.link.conn.recvLen

/-- The connection stays up, and a chunk that arrives fits. -/
def Arrives (daemon : Daemon) (input : Input) : Prop :=
  KeepsClient daemon input ∧ ChunkFits daemon input

/-- The bytes in the buffer are reassembled for a client that is connected. -/
structure Daemon.Reassembles (daemon : Daemon) (pending : Bytes) (frames : List WireFrame) :
    Prop where
  netUp : daemon.netUp = true
  connected : netIsConnected daemon.sys.link = true
  reassembling : Reassembling daemon.sys.content pending frames

/-- The free space that the next `recv` is offered is not zero. -/
theorem Daemon.Reassembles.room {daemon : Daemon} {pending : Bytes} {frames : List WireFrame}
    (reassembles : daemon.Reassembles pending frames) :
    daemon.sys.link.conn.recvLen < netRecvBufCap := by
  have length := daemon.sys.length_content
  cases frames with
  | nil =>
      have empty := congrArg List.length reassembles.reassembling.stream
      rw [List.length_append, length] at empty
      change daemon.sys.link.conn.recvLen + pending.length = 0 at empty
      unfold netRecvBufCap
      omega
  | cons frame rest =>
      have short := reassembles.reassembling.incomplete frame rfl
      have fits := frame.length_lt
      omega

/-- Events other than those of the client's socket leave the connection as it is. -/
theorem step_conn {daemon next : Daemon} {input : Input}
    (other : ∀ ready answer, input ≠ .clientReady ready answer)
    (keeps : KeepsClient daemon input) (stepped : daemon.step input = some next) :
    next.sys.link.conn = daemon.sys.link.conn ∧ next.netUp = daemon.netUp := by
  have stays := keeps.stays next stepped
  cases input with
  | clientReady ready answer => exact absurd rfl (other ready answer)
  | listenReady accepted =>
      cases stepped
      unfold Daemon.onNet
      split
      next up =>
        cases accepted with
        | none => exact ⟨rfl, rfl⟩
        | some fd =>
            have replaces := keeps.same
            change daemon.netUp = false at replaces
            rw [up] at replaces
            cases replaces
      next => exact ⟨rfl, rfl⟩
  | cardReadable sensors down cards =>
      cases stepped
      rw [onCardReadable_link, onCardReadable_netUp]
      exact ⟨rfl, rfl⟩
  | housekeeping =>
      cases stepped
      unfold Daemon.onNet at stays ⊢
      split at stays
      next up =>
        rcases netCheckInactivity_cases daemon.sys with same | dropped
        · rw [if_pos up, same]
          exact ⟨rfl, rfl⟩
        · rw [dropped] at stays
          cases stays
      next down =>
        rw [if_neg down]
        exact ⟨rfl, rfl⟩
  | reload found =>
      cases stepped
      obtain ⟨_, reloaded⟩ := reloadConfig_eq daemon found
      have same : found.port.join.isSome = false := keeps.same
      have moved := reloadPort_link (Option.not_isSome_iff_eq_none.mp (by rw [same]; decide))
        daemon found.cfg
      rw [reloaded]
      simp only [moved, same, Bool.or_false, and_self]
  | clock now monotonic =>
      cases stepped
      exact ⟨rfl, rfl⟩

/-- Events other than those of the client's socket receive nothing and handle nothing. -/
theorem other_event (daemon : Daemon) {input : Input}
    (other : ∀ ready answer, input ≠ .clientReady ready answer) :
    input.received = [] ∧ daemon.requestCalls input = [] ∧
      ∃ next, daemon.step input = some next := by
  cases input with
  | clientReady ready answer => exact absurd rfl (other ready answer)
  | _ => exact ⟨rfl, rfl, _, rfl⟩

/-- An event handles the frames that its bytes complete. -/
theorem step_handles {daemon : Daemon} {input : Input} {pending : Bytes}
    {frames : List WireFrame} (keeps : KeepsClient daemon input)
    (chunk : ChunkFits daemon input)
    (reassembles : daemon.Reassembles (input.received ++ pending) frames) :
    ∃ done rest next, frames = done ++ rest ∧
      daemon.requestCalls input = done.map WireFrame.call ∧ daemon.step input = some next ∧
      next.Reassembles pending rest := by
  by_cases socket : ∃ ready answer, input = .clientReady ready answer
  · obtain ⟨ready, answer, rfl⟩ := socket
    have live : daemon.netUp ∧ netIsConnected daemon.sys.link :=
      ⟨reassembles.netUp, reassembles.connected⟩
    have stepped : daemon.step (.clientReady ready answer) =
        (netOnClientReady daemon.sys ready answer).map fun s => { daemon with sys := s } :=
      if_pos live
    have calls : daemon.requestCalls (.clientReady ready answer) =
        netOnClientReadyCalls daemon.sys ready answer := if_pos live
    have stays : ∀ later, netOnClientReady daemon.sys ready answer = some later →
        netIsConnected later.link = true := by
      intro later returned
      apply keeps.stays { daemon with sys := later }
      rw [stepped, returned]
      rfl
    obtain ⟨done, rest, later, parts, handled, returned, connected, remains⟩ :=
      netOnClientReady_handles (Nat.le_of_lt reassembles.room)
        (keeps.sends ready answer rfl) stays
        (fun bytes same read => chunk ready bytes (by rw [same]) read)
        reassembles.reassembling
    refine ⟨done, rest, { daemon with sys := later }, parts, calls.trans handled, ?_,
      ⟨reassembles.netUp, connected, remains⟩⟩
    rw [stepped, returned]
    rfl
  · -- Nothing is received, and the connection is left alone.
    have other : ∀ ready answer, input ≠ .clientReady ready answer :=
      fun ready answer same => socket ⟨ready, answer, same⟩
    obtain ⟨nothing, calls, next, stepped⟩ := other_event daemon other
    obtain ⟨conn, netUp⟩ := step_conn other keeps stepped
    have remains := reassembles.reassembling
    rw [nothing, List.nil_append] at remains
    refine ⟨[], frames, next, rfl, calls, stepped, ?_, keeps.stays next stepped, ?_⟩
    · rw [netUp]
      exact reassembles.netUp
    · rw [NetSys.content, conn]
      exact remains

/-! ### Runs -/

/-- A run handles the frames that have arrived, in order. -/
theorem run_handles {daemon : Daemon} {inputs : List Input} {pending : Bytes}
    {frames : List WireFrame} (arrives : Meets Daemon.step Arrives daemon inputs)
    (reassembles : daemon.Reassembles (inputs.flatMap Input.received ++ pending) frames) :
    ∃ done rest final, frames = done ++ rest ∧
      runCalls daemon inputs = done.map WireFrame.call ∧
      run Daemon.step daemon inputs = some final ∧ final.Reassembles pending rest := by
  induction inputs generalizing daemon frames with
  | nil => exact ⟨[], frames, daemon, rfl, rfl, rfl, reassembles⟩
  | cons input later inductionHypothesis =>
      rw [List.flatMap_cons, List.append_assoc] at reassembles
      obtain ⟨⟨keeps, chunk⟩, arrivesLater⟩ := arrives
      obtain ⟨first, rest, next, rfl, calls, stepped, remains⟩ :=
        step_handles keeps chunk reassembles
      obtain ⟨done, last, final, rfl, callsLater, reached, finally_⟩ :=
        inductionHypothesis (arrivesLater next stepped) remains
      refine ⟨first ++ done, last, final, (List.append_assoc ..).symm, ?_, ?_, finally_⟩
      · rw [runCalls, calls, stepped, List.map_append]
        simp only [callsLater]
      · rw [run_cons, stepped]
        exact reached

/-- From an empty receive buffer and for every cut of the frames' bytes into chunks, with
any other events in between, each frame that has arrived is handled exactly once, in
order, with its own header and bytes; `recv` is always offered free space; and when all
bytes have arrived all frames are handled and the buffer is empty. -/
theorem frames_reassembled (daemon : Daemon) (inputs : List Input) (frames : List WireFrame)
    (pending : Bytes) (netUp : daemon.netUp = true)
    (connected : netIsConnected daemon.sys.link = true)
    (empty : daemon.sys.link.conn.recvLen = 0)
    (arrives : Meets Daemon.step Arrives daemon inputs)
    (stream : inputs.flatMap Input.received ++ pending = WireFrame.stream frames) :
    ∃ final done rest, run Daemon.step daemon inputs = some final ∧
      frames = done ++ rest ∧ runCalls daemon inputs = done.map WireFrame.call ∧
      final.sys.content ++ pending = WireFrame.stream rest ∧
      (∀ ready, (clientReadyFlush final.sys ready).link.conn.recvLen < netRecvBufCap) ∧
      (pending = [] → rest = [] ∧ final.sys.link.conn.recvLen = 0) := by
  have start : daemon.Reassembles (inputs.flatMap Input.received ++ pending) frames := by
    have nothing : daemon.sys.content = [] := by
      rw [NetSys.content, empty, Memory.read_zero]
    refine ⟨netUp, connected, ⟨?_, fun frame _ => ?_⟩⟩
    · rw [nothing, List.nil_append]
      exact stream
    · have long := frame.length_ge
      rw [nothing, List.length_nil]
      omega
  obtain ⟨done, rest, final, parts, calls, reached, reassembles⟩ := run_handles arrives start
  have remains := reassembles.reassembling.stream
  refine ⟨final, done, rest, reached, parts, calls, remains, fun ready => ?_, ?_⟩
  · exact Nat.lt_of_le_of_lt (clientReadyFlush_link final.sys ready).recvLen_le reassembles.room
  · rintro rfl
    rw [List.append_nil] at remains
    cases rest with
    | nil =>
        refine ⟨rfl, ?_⟩
        rw [← final.sys.length_content, remains]
        rfl
    | cons frame later =>
        -- All of the frame has arrived, so it would have been handled.
        have short := reassembles.reassembling.incomplete frame rfl
        rw [remains, WireFrame.stream_cons, List.length_append] at short
        omega

/-! ### A request in two pieces -/

section Socket

variable {answers : Nat → SendAnswer}

/-- Moving bytes does not change how the socket answers. -/
theorem LinkTransport.sameAnswers {before after : Link} (transport : LinkTransport before after) :
    after.sock.answers = before.sock.answers := by
  cases transport with
  | flushed => exact (LinkEffect.flushed before).summary.answers
  | dropped => rfl
  | buffered => rfl

theorem carries_answers (s : NetSys) (link : Link) (held : s.link.sock.answers = answers)
    (transport : LinkTransport s.link link) : link.sock.answers = answers :=
  transport.sameAnswers.trans held

theorem serves_answers (head : LoopHead) (hdr : IdtiHeader)
    (held : head.sys.link.sock.answers = answers) :
    (handleRequest head.sys hdr head.pkt).link.sock.answers = answers :=
  (handleRequest_link head.sys hdr head.pkt).summary.answers.trans held

/-- On a socket that never fails no reply does. -/
theorem noSendFailure_of_answers {s : NetSys} (same : s.link.sock.answers = answers)
    (fine : ∀ call, (answers call).isError = false) (ready : LoopInterest)
    (answer : RecvAnswer) : NoSendFailure s ready answer := by
  intro start entered head hdr reached _ failed
  have kept : head.sys.link.sock.answers = answers :=
    reached.keeps (fun head hdr _ _ held => serves_answers head hdr held)
      (readHead_keeps carries_answers same entered)
  obtain ⟨call, _, _, error⟩ := failed
  rw [kept, fine call] at error
  cases error

/-- A client that connects and one that sends do not change how the socket answers. -/
theorem connect_answers {daemon next : Daemon} {fd : Nat}
    (same : daemon.sys.link.sock.answers = answers)
    (stepped : daemon.step (.connect fd) = some next) :
    next.sys.link.sock.answers = answers := by
  cases stepped
  unfold Daemon.onNet
  split
  next =>
    unfold netOnListenReady netAdoptClient
    simp only
    split <;> split <;> exact same
  next => exact same

theorem receive_answers {daemon next : Daemon} {bytes : Bytes}
    (same : daemon.sys.link.sock.answers = answers)
    (stepped : daemon.step (.receive bytes) = some next) :
    next.sys.link.sock.answers = answers := by
  simp only [Input.receive, Daemon.step] at stepped
  split at stepped
  next =>
    obtain ⟨later, returned, rfl⟩ := Option.map_eq_some_iff.mp stepped
    exact netOnClientReady_keeps carries_answers
      (fun _ _ head hdr _ _ held => serves_answers head hdr held) same returned
  next =>
    cases stepped
    exact same

theorem mainStart_answers {start : StartUp} {daemon : Daemon}
    (started : mainStart start = some daemon) :
    daemon.sys.link.sock.answers = start.answers := by
  unfold mainStart at started
  split at started
  next => cases started
  next =>
    cases started
    simp only
    split <;> rfl

/-- A chunk that arrives on a socket that never fails, for a client that stays. -/
theorem arrives_receive {daemon : Daemon} {bytes : Bytes}
    (same : daemon.sys.link.sock.answers = answers)
    (fine : ∀ call, (answers call).isError = false)
    (stays : ∀ next, daemon.step (.receive bytes) = some next →
      netIsConnected next.sys.link = true)
    (nonempty : bytes ≠ [])
    (fits : bytes.length ≤ netRecvBufCap - daemon.sys.link.conn.recvLen) :
    Arrives daemon (.receive bytes) := by
  refine ⟨⟨rfl, fun ready answer _ => noSendFailure_of_answers same fine ready answer, stays⟩, ?_⟩
  intro ready chunk isChunk _
  cases isChunk
  exact ⟨nonempty, fits⟩

end Socket

/-- The firmware query as a frame. -/
theorem firmwareRequest_parses :
    ∃ frame : WireFrame, frame.bytes = firmwareRequest := by
  have parses : (idtiHeaderParse (Memory.ofBytes firmwareRequest) firmwareRequest.length).map
      (fun hdr => hdr.packetLength.toNat) = some firmwareRequest.length := by decide +kernel
  obtain ⟨hdr, parsed, length⟩ := Option.map_eq_some_iff.mp parses
  exact ⟨⟨firmwareRequest, hdr, parsed, length.symm⟩, rfl⟩

/-- The query arrives cut in two inside its header. -/
def firmwareInPieces : List Input :=
  [.receive (firmwareRequest.take 10), .receive (firmwareRequest.drop 10)]

theorem frames_reassembled_pieces :
    ∃ daemon frame, WireFrame.bytes frame = firmwareRequest ∧
      ∃ final done rest, run Daemon.step daemon firmwareInPieces = some final ∧
        [frame] = done ++ rest ∧
        runCalls daemon firmwareInPieces = done.map WireFrame.call ∧
        final.sys.content ++ [] = WireFrame.stream rest ∧
        (∀ ready, (clientReadyFlush final.sys ready).link.conn.recvLen < netRecvBufCap) ∧
        (([] : Bytes) = [] → rest = [] ∧ final.sys.link.conn.recvLen = 0) := by
  have measured :
      ((mainStart (StartUp.first fun _ => .accepted 4096)).bind fun daemon =>
          (daemon.step (.connect 8)).bind fun connected =>
            (connected.step (.receive (firmwareRequest.take 10))).bind fun first =>
              (first.step (.receive (firmwareRequest.drop 10))).map fun second =>
                (connected, first, second)).map
        (fun states => (states.1.netUp, netIsConnected states.1.sys.link,
          states.1.sys.link.conn.recvLen, netIsConnected states.2.1.sys.link,
          states.2.1.sys.link.conn.recvLen, netIsConnected states.2.2.sys.link)) =
      some (true, true, 0, true, 10, true) := by decide +kernel
  obtain ⟨⟨connected, first, second⟩, stepped, facts⟩ := Option.map_eq_some_iff.mp measured
  simp only [Prod.mk.injEq] at facts
  obtain ⟨netUp, live, empty, stays, held, staysLater⟩ := facts
  obtain ⟨daemon, started, stepped⟩ := Option.bind_eq_some_iff.mp stepped
  obtain ⟨connected, connects, stepped⟩ := Option.bind_eq_some_iff.mp stepped
  obtain ⟨first, receives, stepped⟩ := Option.bind_eq_some_iff.mp stepped
  obtain ⟨second, receivesLater, same⟩ := Option.map_eq_some_iff.mp stepped
  cases same
  obtain ⟨frame, bytes⟩ := firmwareRequest_parses
  have answers := connect_answers (mainStart_answers started) connects
  have answersLater := receive_answers answers receives
  have arrives : Meets Daemon.step Arrives connected firmwareInPieces := by
    refine ⟨arrives_receive answers (fun _ => rfl) (fun next again => ?_) (by decide +kernel) ?_,
      fun next again => ?_⟩
    · rw [receives] at again
      cases again
      exact stays
    · rw [empty]
      decide +kernel
    · rw [receives] at again
      cases again
      refine ⟨arrives_receive answersLater (fun _ => rfl) (fun next again => ?_)
        (by decide +kernel) ?_, fun _ _ => trivial⟩
      · rw [receivesLater] at again
        cases again
        exact staysLater
      · rw [held]
        decide +kernel
  have stream : firmwareInPieces.flatMap Input.received ++ [] = WireFrame.stream [frame] := by
    rw [WireFrame.stream_cons, bytes]
    decide +kernel
  exact ⟨connected, frame, bytes,
    frames_reassembled connected firmwareInPieces [frame] [] netUp live empty arrives stream⟩

end Acud
