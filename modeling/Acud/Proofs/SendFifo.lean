/-
Module: Acud.Proofs.SendFifo
Purpose: The send queue of a connection, over every run of replies and flushes.
Trusted boundary: none
Main exports:
  QueueOp, QueueLog, queueStep, SendFifo, send_queue_fifo
-/
import Acud.Lib.Machine
import Acud.Proofs.ReceiveLoop

namespace Acud

open Lib

/-!
Replies are appended to a buffer, and the socket takes bytes off its front when it can.
`accepted` collects the payloads whose `net_queue_send` did not report `-1`.

While the connection lasts, what the socket took and what the buffer still holds are
together exactly these payloads.  A `send` that fails ends the connection and empties the
buffer; what the socket took until then is a front part of them.

[SRC src/acud/net.c]
-/

/-- A reply is queued, or the loop reports the socket as ready. -/
inductive QueueOp where
  | queue (data : Bytes)
  | ready (interest : LoopInterest)
deriving Repr, Inhabited, DecidableEq

structure QueueLog where
  link : Link
  accepted : Bytes

def queueStep (log : QueueLog) : QueueOp → Option QueueLog
  | .queue data =>
      let result := netQueueSend log.link data
      some
        { link := result.2
          accepted := if result.1 then log.accepted ++ data else log.accepted }
  | .ready interest =>
      some { log with link := if interest.write then netFlushSend log.link else log.link }

/-- The log of a connection that was just accepted. -/
def QueueLog.opened (s : NetSys) (fd : Nat) : QueueLog :=
  { link := (netOnListenReady s (some fd)).link
    accepted := [] }

/-- The offsets lie in the buffer, and the accepted payloads are what the socket took
followed by what is queued, as long as the connection lasts. -/
structure SendFifo (log : QueueLog) : Prop where
  ordered : log.link.conn.sendOff ≤ log.link.conn.sendLen
  bounded : log.link.conn.sendLen ≤ netSendBufCap
  connected : netIsConnected log.link = true →
    log.link.sock.wire ++ log.link.conn.unsent = log.accepted
  dropped : netIsConnected log.link = false →
    log.link.conn.sendLen = 0 ∧ log.link.sock.wire <+: log.accepted

/-! ### Flushes -/

/-- The socket takes a front part of what is queued. -/
theorem SendRounds.wire_prefix {link : Link} {sock : Socket} {off : Nat}
    (rounds : SendRounds link sock off) (ordered : link.conn.sendOff ≤ link.conn.sendLen) :
    sock.wire <+: link.sock.wire ++ link.conn.unsent := by
  have progress := rounds.from_off
  have within := rounds.within ordered
  have total : off - link.conn.sendOff + (link.conn.sendLen - off) =
      link.conn.sendLen - link.conn.sendOff := by omega
  have slice := link.conn.sendBuf.read_add link.conn.sendOff
    (off - link.conn.sendOff) (link.conn.sendLen - off)
  rw [total] at slice
  rw [rounds.wire, ClientConn.unsent, slice, ← List.append_assoc]
  exact List.prefix_append _ _

/-- A flush moves bytes from the queue to the socket, or ends the connection. -/
theorem FlushResult.fifo {link flushed : Link} {accepted : Bytes}
    (result : FlushResult link flushed)
    (fifo : SendFifo { link := link, accepted := accepted }) :
    SendFifo { link := flushed, accepted := accepted } := by
  have ordered : link.conn.sendOff ≤ link.conn.sendLen := fifo.ordered
  have bounded : link.conn.sendLen ≤ netSendBufCap := fifo.bounded
  have conserves := result.conserves ordered
  have moved : netIsConnected link = true → netIsConnected flushed = true →
      flushed.sock.wire ++ flushed.conn.unsent = accepted :=
    fun before after => (conserves after).trans (fifo.connected before)
  cases result with
  | offline absent =>
      have gone : netIsConnected link = false := by simp [netIsConnected, absent]
      obtain ⟨empty, front⟩ := fifo.dropped gone
      have empty : link.conn.sendLen = 0 := empty
      have reset : resetSendBuf link.conn =
          { link.conn with sendLen := 0, sendOff := 0 } := by
        rw [resetSendBuf, if_pos (by omega)]
      rw [reset]
      refine
        { ordered := Nat.le_refl _
          bounded := Nat.zero_le _
          connected := fun present => ?_
          dropped := fun _ => ⟨rfl, front⟩ }
      have absentStill : netIsConnected link = true := present
      rw [gone] at absentStill
      cases absentStill
  | @drained fd sock off rounds connected finished =>
      have present : netIsConnected link = true := by simp [netIsConnected, connected]
      exact
        { ordered := Nat.le_refl _
          bounded := Nat.zero_le _
          connected := moved present
          dropped := fun gone => by cases present.symm.trans gone }
  | @blocked sock off rounds connected left again =>
      exact
        { ordered := Nat.le_of_lt left
          bounded := bounded
          connected := moved connected
          dropped := fun gone => by cases connected.symm.trans gone }
  | @dropped sock off rounds connected left failed =>
      have front := rounds.wire_prefix ordered
      rw [show link.sock.wire ++ link.conn.unsent = accepted from fifo.connected connected]
        at front
      exact
        { ordered := Nat.le_refl _
          bounded := Nat.zero_le _
          connected := fun present => absurd present Bool.false_ne_true
          dropped := fun _ => ⟨rfl, front⟩ }

/-! ### Steps -/

/-- Moving the queue to the front of the buffer changes nothing else. -/
theorem SendFifo.compact {log : QueueLog} (fifo : SendFifo log)
    (connected : log.link.conn.clientFd.isSome) :
    SendFifo
      { log with link := { log.link with conn := compactSendBuf log.link.conn } } := by
  have bounded := fifo.bounded
  refine
    { ordered := ?_
      bounded := ?_
      connected := fun _ => ?_
      dropped := fun gone => ?_ }
  · simp
  · simp only [sendLen_compactSendBuf]
    omega
  · simp only [unsent_compactSendBuf]
    exact fifo.connected connected
  · simp only [netIsConnected, clientFd_compactSendBuf] at gone
    rw [connected] at gone
    cases gone

theorem SendFifo.queue {log : QueueLog} (fifo : SendFifo log) (data : Bytes) :
    SendFifo
      { link := (netQueueSend log.link data).2
        accepted :=
          if (netQueueSend log.link data).1 then log.accepted ++ data else log.accepted } := by
  have result := netQueueSend_result log.link data
  generalize netQueueSend log.link data = queued at result
  cases result with
  | offline absent => exact fifo
  | full connected full => exact fifo.compact connected
  | flushed connected room result =>
      refine result.fifo ?_
      have queued : log.link.conn.unsent.length =
          log.link.conn.sendLen - log.link.conn.sendOff := by
        simp [ClientConn.unsent]
      have present : (log.link.withReply data).conn.clientFd.isSome = true := by
        simpa [Link.withReply] using connected
      refine
        { ordered := ?_
          bounded := ?_
          connected := fun _ => ?_
          dropped := fun gone => ?_ }
      · simp [Link.withReply]
      · simp only [Link.withReply, sendLen_compactSendBuf]
        omega
      · rw [unsent_withReply, ← List.append_assoc]
        exact congrArg (· ++ data) (fifo.connected connected)
      · cases present.symm.trans gone

theorem SendFifo.step {log next : QueueLog} (fifo : SendFifo log) {op : QueueOp}
    (stepped : queueStep log op = some next) : SendFifo next := by
  cases op with
  | queue data =>
      cases stepped
      exact fifo.queue data
  | ready interest =>
      cases stepped
      split
      next => exact (netFlushSend_result log.link).fifo fifo
      next => exact fifo

/-- A connection starts with an empty queue. -/
theorem QueueLog.opened_fifo (s : NetSys) (fd : Nat) : SendFifo (.opened s fd) := by
  unfold QueueLog.opened netOnListenReady netAdoptClient
  dsimp only
  split
  next => exact ⟨Nat.le_refl _, Nat.zero_le _, fun _ => rfl, nofun⟩
  next => exact ⟨Nat.le_refl _, Nat.zero_le _, nofun, fun _ => ⟨rfl, List.nil_prefix⟩⟩

/-- Over every sequence of replies, ready reports and answers of `send` on a connection
the queue is a faithful first-in first-out queue of the accepted payloads. -/
theorem send_queue_fifo (s : NetSys) (fd : Nat) (ops : List QueueOp) :
    Always queueStep SendFifo (.opened s fd) ops :=
  always_of_invariant (fun _ fifo => fifo)
    (fun _ _ _ fifo stepped => fifo.step stepped) (QueueLog.opened_fifo s fd)

/-- The same without regard to whether the connection lasts. -/
def QueueExact (log : QueueLog) : Prop :=
  log.link.sock.wire ++ log.link.conn.unsent = log.accepted

/-- The socket takes nothing the first time, and fails from then on. -/
def laterFailure (turn : Nat) : SendAnswer :=
  if turn = 0 then .again else .error

/-- A payload that waits, and the socket ready for it. -/
def waitingPayload : List QueueOp :=
  [.queue [1], .ready { read := false, write := true }]

/-- A payload is queued behind a busy socket.  When its turn comes `send` fails: the connection
is given up, and the queue with it. -/
theorem failed_send_discards_queue :
    ∃ s, connectedStart laterFailure = some s ∧
      ¬ Always queueStep QueueExact (.opened s 7) waitingPayload := by
  have measured : (connectedStart laterFailure).map
      (fun s => (run queueStep (.opened s 7) waitingPayload).map fun log =>
        (log.link.sock.wire ++ log.link.conn.unsent, log.accepted)) =
          some (some ([], [1])) := by decide +kernel
  obtain ⟨s, started, reaches⟩ := Option.map_eq_some_iff.mp measured
  obtain ⟨final, reached, bytes⟩ := Option.map_eq_some_iff.mp reaches
  refine ⟨s, started, fun always => ?_⟩
  have exact : final.link.sock.wire ++ final.link.conn.unsent = final.accepted :=
    always.final reached
  rw [Prod.mk.injEq] at bytes
  rw [bytes.1, bytes.2] at exact
  cases exact

end Acud
