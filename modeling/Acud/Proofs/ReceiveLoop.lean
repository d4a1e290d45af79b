/-
Module: Acud.Proofs.ReceiveLoop
Purpose: When the receive loop stays inside the received bytes.
Trusted boundary: none
Main exports:
  readHead, LoopReaches, LoopHead.Safe, ReceivesSafely, NoSendFailure,
  receivesSafely_iff, netOnClientReady_isSome
-/
import Acud.Daemon
import Acud.Proofs.RequestEffects

namespace Acud

open Lib

/-!
`consumed` is local to the loop, while `recv_len` is reset by a drop of the
client deep inside a handler.  A round keeps `consumed` within `recv_len` as
long as no `send` of its replies fails; the first one that does breaks it.

The invariant of the induction is `LoopHead.Safe` together with a client that
is still connected.
-/

/-- The head at which a read enters the loop; `none` when it does not. -/
def readHead (s : NetSys) (ready : LoopInterest) (answer : RecvAnswer) : Option LoopHead :=
  let flushed := clientReadyFlush s ready
  if ready.read = false ∨ flushed.link.conn.clientFd = none then none
  else
    match answer with
    | .data bytes =>
        let taken := bytes.take (netRecvBufCap - flushed.link.conn.recvLen)
        if taken.isEmpty then none
        else some { sys := flushed.received taken, consumed := 0 }
    | _ => none

/-- The loop heads that are reached from where a read entered the loop. -/
inductive LoopReaches (start : LoopHead) : LoopHead → Prop where
  | start : LoopReaches start start
  | round {head later : LoopHead} (reached : LoopReaches start head)
      (stepped : recvStep head = .next later) : LoopReaches start later

/-- What is promised at a loop head: the counters are in order, the header and
the frame that are parsed lie below `recv_len`, and a frame is handled only for
a client that is connected. -/
structure LoopHead.Safe (head : LoopHead) : Prop where
  consumed : head.consumed ≤ head.conn.recvLen
  fits : head.conn.recvLen ≤ netRecvBufCap
  header : head.readsHeader = true →
    head.consumed + idtiHeaderLenV2 ≤ head.conn.recvLen
  frame : ∀ hdr, head.frame = some hdr →
    head.consumed + hdr.packetLength.toNat ≤ head.conn.recvLen
  connected : head.frame.isSome → netIsConnected head.sys.link = true

/-- Every head of the loop of one callback is safe. -/
def ReceivesSafely (s : NetSys) (ready : LoopInterest) (answer : RecvAnswer) : Prop :=
  ∀ start, readHead s ready answer = some start →
    ∀ head, LoopReaches start head → head.Safe

/-- No `send` fails while the frames of the buffer are handled. -/
def NoSendFailure (s : NetSys) (ready : LoopInterest) (answer : RecvAnswer) : Prop :=
  ∀ start, readHead s ready answer = some start →
    ∀ head hdr, LoopReaches start head → head.frame = some hdr →
      ¬ SendFailed head.sys.link (handleRequest head.sys hdr head.pkt).link

/-! ### One round -/

theorem LoopHead.avail_of_le {head : LoopHead} (consumed : head.consumed ≤ head.conn.recvLen)
    (fits : head.conn.recvLen ≤ netRecvBufCap) :
    head.avail = head.conn.recvLen - head.consumed := by
  unfold netRecvBufCap at fits
  exact sizeSub_of_le (by omega) consumed

theorem LoopHead.frame_eq_some {head : LoopHead} {hdr : IdtiHeader} :
    head.frame = some hdr ↔
      (idtiHeaderLenV2 ≤ head.avail ∧
          head.consumed + idtiHeaderLenV2 ≤ netRecvBufCap) ∧
        idtiHeaderParse head.pkt head.avail = some hdr ∧
          hdr.packetLength.toNat ≤ head.avail := by
  have reads : head.readsHeader = true ↔
      idtiHeaderLenV2 ≤ head.avail ∧
        head.consumed + idtiHeaderLenV2 ≤ netRecvBufCap := by
    simp [readsHeader]
  rw [← reads]
  unfold LoopHead.frame
  split
  next goes => simp [Option.filter_eq_some_iff, goes]
  next stops => simp [stops]

/-- Counters that are in order make the bounds on parsed bytes. -/
theorem LoopHead.safe_of_le {head : LoopHead} (consumed : head.consumed ≤ head.conn.recvLen)
    (fits : head.conn.recvLen ≤ netRecvBufCap)
    (connected : netIsConnected head.sys.link = true) : head.Safe := by
  have avail := head.avail_of_le consumed fits
  refine
    { consumed := consumed
      fits := fits
      header := ?_
      frame := ?_
      connected := fun _ => connected }
  · intro reads
    simp only [readsHeader, Bool.and_eq_true, decide_eq_true_eq, avail] at reads
    omega
  · intro hdr found
    obtain ⟨_, _, short⟩ := LoopHead.frame_eq_some.mp found
    omega

/-- A round goes on exactly when the frame at hand lies in the buffer. -/
theorem recvStep_eq_next {head later : LoopHead} :
    recvStep head = .next later ↔
      ∃ hdr, head.frame = some hdr ∧
        head.consumed + hdr.packetLength.toNat ≤ netRecvBufCap ∧
        later = head.handled hdr := by
  simp only [LoopHead.frame_eq_some]
  unfold recvStep
  constructor
  · intro stepped
    split at stepped
    next => cases stepped
    next long =>
      split at stepped
      next => cases stepped
      next inside =>
        split at stepped
        next => cases stepped
        next hdr parsed =>
          split at stepped
          next => cases stepped
          next complete =>
            split at stepped
            next => cases stepped
            next ends =>
              cases stepped
              exact ⟨hdr, ⟨⟨by omega, by omega⟩, parsed, by omega⟩, by omega, rfl⟩
  · rintro ⟨hdr, ⟨⟨long, inside⟩, parsed, complete⟩, ends, rfl⟩
    rw [if_neg (by omega), if_neg (by omega), parsed]
    simp only
    rw [if_neg (by omega), if_neg (by omega)]

/-! ### The loop -/

section Loop

variable {s : NetSys} {ready : LoopInterest} {answer : RecvAnswer} {start head : LoopHead}

theorem readHead_eq_some (entered : readHead s ready answer = some start) :
    ∃ taken : Bytes,
      netIsConnected (clientReadyFlush s ready).link = true ∧
        taken.length ≤ netRecvBufCap - (clientReadyFlush s ready).link.conn.recvLen ∧
          start = { sys := (clientReadyFlush s ready).received taken, consumed := 0 } := by
  unfold readHead at entered
  simp only at entered
  split at entered
  next => cases entered
  next reads =>
    split at entered
    next bytes =>
      split at entered
      next => cases entered
      next =>
        cases entered
        refine ⟨_, ?_, List.length_take_le _ _, rfl⟩
        exact Option.isSome_iff_ne_none.mpr fun gone => reads (.inr gone)
    next => cases entered

theorem clientReadyFlush_link (s : NetSys) (ready : LoopInterest) :
    LinkEffect s.link (clientReadyFlush s ready).link := by
  unfold clientReadyFlush
  split
  next => exact .flushed s.link
  next => exact .refl s.link

/-- Nothing but receiving makes the received part longer. -/
theorem LinkEffect.recvLen_le {before after : Link} (effect : LinkEffect before after) :
    after.conn.recvLen ≤ before.conn.recvLen := by
  rcases effect.received with ⟨_, same⟩ | ⟨_, empty⟩
  · exact Nat.le_of_eq same
  · rw [empty]
    exact Nat.zero_le _

/-- The loop is entered with a connected client and a buffer that is not
overfull. -/
theorem readHead_sound (fits : s.link.conn.recvLen ≤ netRecvBufCap)
    (entered : readHead s ready answer = some start) :
    start.consumed = 0 ∧ start.conn.recvLen ≤ netRecvBufCap ∧
      netIsConnected start.sys.link = true := by
  obtain ⟨taken, connected, room, rfl⟩ := readHead_eq_some entered
  have flushed := (clientReadyFlush_link s ready).recvLen_le
  refine ⟨rfl, ?_, connected⟩
  show (clientReadyFlush s ready).link.conn.recvLen + taken.length ≤ netRecvBufCap
  omega

/-- Without a failing `send` a round keeps the counters in order and the client
connected. -/
theorem round_keeps {hdr : IdtiHeader} (safe : head.Safe) (found : head.frame = some hdr)
    (fine : ¬ SendFailed head.sys.link (handleRequest head.sys hdr head.pkt).link) :
    (head.handled hdr).Safe := by
  have effect := handleRequest_link head.sys hdr head.pkt
  have connected := safe.connected (by simp [found])
  have kept : SendKept head.sys.link (handleRequest head.sys hdr head.pkt).link :=
    effect.summary.outcome.resolve_right fun dropped => fine dropped.failed
  have stays : netIsConnected (head.handled hdr).sys.link = true := by
    unfold netIsConnected at connected ⊢
    exact kept.clientFd ▸ connected
  have recvLen : (head.handled hdr).conn.recvLen = head.conn.recvLen := by
    rcases effect.received with ⟨_, same⟩ | ⟨gone, _⟩
    · exact same
    · rw [netIsConnected, LoopHead.handled, gone] at stays
      cases stays
  apply LoopHead.safe_of_le
  · rw [recvLen]
    exact safe.frame hdr found
  · rw [recvLen]
    exact safe.fits
  · exact stays

/-- A failing `send` resets `recv_len` below what was consumed. -/
theorem round_breaks {hdr : IdtiHeader} (found : head.frame = some hdr)
    (failed : SendFailed head.sys.link (handleRequest head.sys hdr head.pkt).link) :
    (head.handled hdr).conn.recvLen < (head.handled hdr).consumed := by
  have effect := handleRequest_link head.sys hdr head.pkt
  have dropped : SendDropped head.sys.link (handleRequest head.sys hdr head.pkt).link :=
    effect.summary.outcome.resolve_left fun kept => kept.noFailure failed
  have recvLen : (head.handled hdr).conn.recvLen = 0 := by
    rcases effect.received with ⟨same, _⟩ | ⟨_, empty⟩
    · have connected := dropped.connected
      rw [← same, dropped.gone] at connected
      cases connected
    · exact empty
  have long : 46 ≤ hdr.packetLength.toNat :=
    idtiHeaderParse_packetLength_ge (LoopHead.frame_eq_some.mp found).2.1
  rw [recvLen]
  show 0 < head.consumed + hdr.packetLength.toNat
  omega

/-- Every head that is reached is safe as long as no `send` failed before it. -/
theorem LoopReaches.safe (fits : s.link.conn.recvLen ≤ netRecvBufCap)
    (entered : readHead s ready answer = some start)
    (fine : NoSendFailure s ready answer) (reached : LoopReaches start head) :
    head.Safe := by
  induction reached with
  | start =>
      obtain ⟨consumed, full, connected⟩ := readHead_sound fits entered
      exact LoopHead.safe_of_le (by omega) full connected
  | round reached stepped inductionHypothesis =>
      obtain ⟨hdr, found, _, rfl⟩ := recvStep_eq_next.mp stepped
      exact round_keeps inductionHypothesis found (fine start entered _ hdr reached found)

end Loop

/-! ### The loop ends -/

/-- A callback either returns before the loop or enters it. -/
theorem netOnClientReady_cases (s : NetSys) (ready : LoopInterest) (answer : RecvAnswer) :
    netOnClientReady s ready answer = some (clientReadyFlush s ready) ∨
      netOnClientReady s ready answer = some (clientReadyFlush s ready).dropClient ∨
      ∃ start, readHead s ready answer = some start ∧
        netOnClientReady s ready answer = recvLoop (netRecvBufCap + 1) start := by
  unfold netOnClientReady readHead
  simp only
  split
  next => exact .inl rfl
  next =>
    cases answer with
    | again => exact .inl rfl
    | closed => exact .inr (.inl rfl)
    | data bytes =>
        simp only
        split
        next => exact .inr (.inl rfl)
        next => exact .inr (.inr ⟨_, rfl, rfl⟩)

theorem recvFinish_isSome {head : LoopHead} (inside : head.consumed ≤ head.conn.recvLen) :
    (recvFinish head).isSome := by
  unfold recvFinish
  simp only
  split
  next => rfl
  next =>
    rw [if_neg (Nat.not_lt.mpr inside)]
    rfl

/-- From a safe head the loop is left with the counters in order. -/
theorem recvStep_leave {head last : LoopHead} (safe : head.Safe)
    (stepped : recvStep head = .leave last) : last.consumed ≤ last.conn.recvLen := by
  unfold recvStep at stepped
  repeat' split at stepped
  all_goals cases stepped
  · exact safe.consumed
  · exact Nat.le_refl _
  · exact safe.consumed

/-- A round from a safe head stays in the buffer. -/
theorem recvStep_ne_undefined {head : LoopHead} (safe : head.Safe) :
    recvStep head ≠ .undefined := by
  intro stepped
  have consumed := safe.consumed
  have fits := safe.fits
  have avail := head.avail_of_le consumed fits
  unfold recvStep at stepped
  split at stepped
  next => cases stepped
  next long =>
    split at stepped
    next outside => omega
    next =>
      split at stepped
      next => cases stepped
      next =>
        split at stepped
        next => cases stepped
        next complete =>
          split at stepped
          next beyond => omega
          next => cases stepped

/-- Each round consumes bytes, so a loop whose heads are safe ends in the buffer. -/
theorem recvLoop_isSome {start : LoopHead} (rounds : Nat) (head : LoopHead)
    (safe : ∀ later, LoopReaches start later → later.Safe)
    (reached : LoopReaches start head)
    (enough : netRecvBufCap < head.consumed + rounds) :
    (recvLoop rounds head).isSome := by
  induction rounds generalizing head with
  | zero =>
      have ordered := safe head reached
      have bound := ordered.consumed.trans ordered.fits
      omega
  | succ rounds inductionHypothesis =>
      rw [recvLoop]
      cases stepped : recvStep head with
      | leave last => exact recvFinish_isSome (recvStep_leave (safe head reached) stepped)
      | undefined => exact absurd stepped (recvStep_ne_undefined (safe head reached))
      | next later =>
          obtain ⟨hdr, found, _, rfl⟩ := recvStep_eq_next.mp stepped
          have long : 46 ≤ hdr.packetLength.toNat :=
            idtiHeaderParse_packetLength_ge (LoopHead.frame_eq_some.mp found).2.1
          apply inductionHypothesis _ (reached.round stepped)
          show netRecvBufCap < head.consumed + hdr.packetLength.toNat + rounds
          omega

/-- The callback has a defined result whenever no `send` fails in its loop. -/
theorem netOnClientReady_isSome (s : NetSys) (ready : LoopInterest) (answer : RecvAnswer)
    (fits : s.link.conn.recvLen ≤ netRecvBufCap) (fine : NoSendFailure s ready answer) :
    (netOnClientReady s ready answer).isSome := by
  rcases netOnClientReady_cases s ready answer with
    flushed | dropped | ⟨start, entered, looped⟩
  · rw [flushed]; rfl
  · rw [dropped]; rfl
  · rw [looped]
    refine recvLoop_isSome _ start (fun later reached => ?_) .start (by omega)
    exact reached.safe fits entered fine

/-- A callback never leaves more in the receive buffer than it holds. -/
theorem recvLoop_fits {rounds : Nat} {head : LoopHead} {s : NetSys}
    (ended : recvLoop rounds head = some s) : s.link.conn.recvLen ≤ head.conn.recvLen := by
  induction rounds generalizing head with
  | zero => cases ended
  | succ rounds inductionHypothesis =>
      rw [recvLoop] at ended
      cases stepped : recvStep head with
      | leave last =>
          rw [stepped] at ended
          have same : last.conn = head.conn := by
            unfold recvStep at stepped
            repeat' split at stepped
            all_goals cases stepped
            all_goals rfl
          change recvFinish last = some s at ended
          unfold recvFinish at ended
          simp only at ended
          repeat' split at ended
          all_goals cases ended
          · exact Nat.le_of_eq (congrArg ClientConn.recvLen same)
          · rw [← same]
            exact Nat.sub_le _ _
      | undefined =>
          rw [stepped] at ended
          cases ended
      | next later =>
          rw [stepped] at ended
          obtain ⟨hdr, _, _, rfl⟩ := recvStep_eq_next.mp stepped
          exact (inductionHypothesis ended).trans
            (handleRequest_link head.sys hdr head.pkt).recvLen_le

theorem netOnClientReady_fits {s later : NetSys} {ready : LoopInterest} {answer : RecvAnswer}
    (fits : s.link.conn.recvLen ≤ netRecvBufCap)
    (returned : netOnClientReady s ready answer = some later) :
    later.link.conn.recvLen ≤ netRecvBufCap := by
  have flushed := (clientReadyFlush_link s ready).recvLen_le
  rcases netOnClientReady_cases s ready answer with
    plain | dropped | ⟨start, entered, looped⟩
  · rw [plain] at returned
    cases returned
    exact flushed.trans fits
  · rw [dropped] at returned
    cases returned
    exact Nat.zero_le _
  · rw [looped] at returned
    exact (recvLoop_fits returned).trans (readHead_sound fits entered).2.1

/-! ### A connection that was just made -/

/-- A firmware query without data. -/
def firmwareRequest : Bytes :=
  (idtiBuildPacket netRespBufCap
    { destAddr := Blob.zeros _
      srcAddr := Blob.zeros _
      frameOption := 0
      frameIndex := 0
      password := 0
      command := idtiCmdReqStatus
      subCommand := idtiSubcmdRead
      object := idtiObjFirmware
      startItem := 0
      endItem := 0
      dataCurrent := 0
      dataEnd := 0
      dataTotal := 0
      dataOneLen := 0
      data := [] }).getD []

/-- A daemon that was just started, with a client whose socket answers `answers`. -/
def connectedStart (answers : Nat → SendAnswer) : Option NetSys :=
  (mainStart (StartUp.first answers)).map fun daemon =>
    netOnListenReady daemon.sys (some 8)

/-- The loop heads of a read on a fresh connection: the first one, and the one
after its first frame was handled. -/
def firstRound (answers : Nat → SendAnswer) (bytes : Bytes) : Option (LoopHead × LoopHead) := do
  let s ← connectedStart answers
  let start ← readHead s LoopInterest.readOnly (.data bytes)
  let hdr ← start.frame
  pure (start, start.handled hdr)

/-! ### The promise of the receive loop -/

/-- The receive loop keeps `consumed <= recv_len <= NET_RECV_BUF_CAP`, parses
received bytes only and handles frames of a connected client only, exactly when
no `send` fails while it handles the frames. -/
theorem receivesSafely_iff (s : NetSys) (ready : LoopInterest) (answer : RecvAnswer)
    (fits : s.link.conn.recvLen ≤ netRecvBufCap) :
    ReceivesSafely s ready answer ↔ NoSendFailure s ready answer := by
  constructor
  · intro safely start entered head hdr reached found failed
    have safe := safely start entered head reached
    have inside : head.consumed + hdr.packetLength.toNat ≤ netRecvBufCap :=
      Nat.le_trans (safe.frame hdr found) safe.fits
    have later := LoopReaches.round reached
      (recvStep_eq_next.mpr ⟨hdr, found, inside, rfl⟩)
    have broken := round_breaks found failed
    have ordered := (safely start entered _ later).consumed
    omega
  · intro fine start entered head reached
    exact reached.safe fits entered fine

theorem receivesSafely_iff_connected :
    ∃ s, connectedStart (fun _ => .accepted 4096) = some s ∧
      (ReceivesSafely s LoopInterest.readOnly (.data firmwareRequest) ↔
        NoSendFailure s LoopInterest.readOnly (.data firmwareRequest)) := by
  have measured : (connectedStart fun _ => .accepted 4096).map
      (fun s => s.link.conn.recvLen) = some 0 := by decide +kernel
  obtain ⟨s, started, empty⟩ := Option.map_eq_some_iff.mp measured
  exact ⟨s, started, receivesSafely_iff s _ _ (by rw [empty]; exact Nat.zero_le _)⟩

/-- When the reply to the first of two requests fails, the loop goes on with
`consumed` above `recv_len`. -/
theorem pipelined_unsafe :
    ∃ s, connectedStart (fun _ => .error) = some s ∧
      s.link.conn.recvLen ≤ netRecvBufCap ∧
      ¬ ReceivesSafely s LoopInterest.readOnly
        (.data (firmwareRequest ++ firmwareRequest)) := by
  have counters : (firstRound (fun _ => .error) (firmwareRequest ++ firmwareRequest)).map
      (fun heads => (heads.1.conn.recvLen, heads.2.conn.recvLen, heads.2.consumed)) =
        some (92, 0, 46) := by decide +kernel
  obtain ⟨⟨start, later⟩, entered, measured⟩ := Option.map_eq_some_iff.mp counters
  simp only [firstRound, Option.bind_eq_bind, Option.bind_eq_some_iff, Option.pure_def,
    Option.some.injEq, Prod.mk.injEq] at entered measured
  obtain ⟨s, started, head, read, hdr, found, rfl, rfl⟩ := entered
  obtain ⟨received, reset, consumed⟩ := measured
  have fits : s.link.conn.recvLen ≤ netRecvBufCap := by
    have fresh : (connectedStart fun _ => .error).map
        (fun s => s.link.conn.recvLen) = some 0 := by decide +kernel
    rw [started, Option.map_some, Option.some.injEq] at fresh
    rw [fresh]
    exact Nat.zero_le _
  refine ⟨s, started, fits, fun safely => ?_⟩
  have stepped : recvStep head = .next (head.handled hdr) :=
    recvStep_eq_next.mpr ⟨hdr, found, by
      show (head.handled hdr).consumed ≤ netRecvBufCap
      rw [consumed]
      decide, rfl⟩
  have ordered := (safely head read _ (LoopReaches.start.round stepped)).consumed
  rw [consumed, reset] at ordered
  exact absurd ordered (by decide)

end Acud
