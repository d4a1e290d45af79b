/-
Module: Acud.Proofs.WriteInterest
Purpose: When the event loop waits for room to send what is left in the queue.
Trusted boundary: none
Main exports:
  SendOp, sendStep, WriteInterestAgrees, LeavesBlocked, writeInterest_iff
-/
import Acud.Lib.Machine
import Acud.Proofs.ReceiveLoop

namespace Acud

open Lib

/-!
`net_flush_send` registers interest in writing at its end, behind the loop that
only ends there when nothing is left to send.  The exit taken when the socket
asks to be tried again returns before it.

Two facts hold in every state, whatever the socket answers: a connected client
is watched for input only, and bytes are left in the queue only when the last
`send` was asked to be tried again.  So interest and queue agree exactly as long
as no step ends that way.
-/

/-- The calls that touch the send queue or the registration of the client. -/
inductive SendOp where
  | queueSend (data : Bytes)
  | flushSend
  | clientReady (ready : LoopInterest) (answer : RecvAnswer)
  | listenReady (accepted : Option Nat)
  | checkInactivity

def sendStep (s : NetSys) : SendOp → Option NetSys
  | .queueSend data => some { s with link := (netQueueSend s.link data).2 }
  | .flushSend => some { s with link := netFlushSend s.link }
  | .clientReady ready answer => netOnClientReady s ready answer
  | .listenReady accepted => some (netOnListenReady s accepted)
  | .checkInactivity => some (netCheckInactivity s)

/-- The loop waits for the client to become writable. -/
def watchesWrite (link : Link) (fd : Nat) : Bool :=
  (link.loop.interest fd).any LoopInterest.write

/-- With a connected client, the loop waits for room exactly when bytes are left
to send. -/
def WriteInterestAgrees (s : NetSys) : Prop :=
  ∀ fd, s.link.conn.clientFd = some fd →
    (watchesWrite s.link fd = true ↔ s.link.conn.sendOff < s.link.conn.sendLen)

/-- The last `send` of a step was answered `EAGAIN`, `EWOULDBLOCK` or `EINTR`, and
the client is still connected after it. -/
def LeavesBlocked (s : NetSys) (op : SendOp) : Prop :=
  ∃ next, sendStep s op = some next ∧ netIsConnected next.link = true ∧
    LastSendBlocked s.link next.link

/-- Nothing is left to send and the client is watched for input. -/
structure Link.Settled (link : Link) : Prop where
  watches : link.WatchesInput
  drained : ¬ link.Waiting

/-! ### What a step does to the link -/

/-- The links a step can lead to: replies were sent, the connection is gone, or a
new one was made. -/
inductive StepLink (before after : Link) : Prop where
  | sent (summary : SendSummary before after)
  | closed (gone : after.conn.clientFd = none)
  | adopted (settled : after.Settled) (silent : after.sock.calls = before.sock.calls)

theorem netAdoptClient_link (s : NetSys) (fd : Nat) :
    StepLink s.link (netAdoptClient s fd).link := by
  unfold netAdoptClient
  simp only
  split
  next loop registered =>
    refine .adopted ⟨?_, fun waiting => absurd waiting.2 (Nat.lt_irrefl 0)⟩ rfl
    intro client same
    cases same
    exact interest_loopAdd registered
  next => exact .closed rfl

theorem netOnListenReady_link (s : NetSys) (accepted : Option Nat) :
    StepLink s.link (netOnListenReady s accepted).link := by
  unfold netOnListenReady
  cases accepted with
  | none => exact .sent (.refl s.link)
  | some fd =>
      simp only
      split
      next =>
        have adopted := netAdoptClient_link s.dropClient fd
        have silent : s.dropClient.link.sock = s.link.sock := rfl
        cases adopted with
        | sent summary =>
            have gone : s.dropClient.link.conn.clientFd = none := rfl
            rcases summary.outcome with kept | dropped
            · exact .closed (kept.clientFd.trans gone)
            · exact .closed dropped.gone
        | closed gone => exact .closed gone
        | adopted settled calls => exact .adopted settled (calls.trans (by rw [silent]))
      next => exact netAdoptClient_link s fd

theorem netCheckInactivity_link (s : NetSys) :
    StepLink s.link (netCheckInactivity s).link := by
  unfold netCheckInactivity
  split
  next => exact .sent (.refl s.link)
  next =>
    split
    next => exact .closed rfl
    next => exact .sent (.refl s.link)

/-! ### The receive callback -/

/-- Moving the receive buffer is not seen by the send queue. -/
theorem recvFinish_summary {head : LoopHead} {s : NetSys} (ended : recvFinish head = some s) :
    SendSummary head.sys.link s.link := by
  unfold recvFinish at ended
  simp only at ended
  split at ended
  next =>
    cases ended
    exact .refl _
  next =>
    split at ended
    next => cases ended
    next =>
      cases ended
      exact .silent rfl rfl rfl Iff.rfl

/-- Every round of the loop sends replies only. -/
theorem recvLoop_summary {rounds : Nat} {head : LoopHead} {s : NetSys}
    (ended : recvLoop rounds head = some s) : SendSummary head.sys.link s.link := by
  induction rounds generalizing head with
  | zero => cases ended
  | succ rounds inductionHypothesis =>
      rw [recvLoop] at ended
      cases stepped : recvStep head with
      | leave last =>
          rw [stepped] at ended
          have same : last.sys = head.sys := by
            unfold recvStep at stepped
            repeat' split at stepped
            all_goals cases stepped
            all_goals rfl
          exact same ▸ recvFinish_summary ended
      | undefined =>
          rw [stepped] at ended
          cases ended
      | next later =>
          rw [stepped] at ended
          obtain ⟨hdr, _, _, rfl⟩ := recvStep_eq_next.mp stepped
          have handled := (handleRequest_link head.sys hdr head.pkt).summary
          exact handled.trans (inductionHypothesis ended)

theorem netOnClientReady_link {s later : NetSys} {ready : LoopInterest} {answer : RecvAnswer}
    (returned : netOnClientReady s ready answer = some later) :
    StepLink s.link later.link := by
  have flushed := (clientReadyFlush_link s ready).summary
  rcases netOnClientReady_cases s ready answer with
    plain | dropped | ⟨start, entered, looped⟩
  · rw [plain] at returned
    cases returned
    exact .sent flushed
  · rw [dropped] at returned
    cases returned
    exact .closed rfl
  · rw [looped] at returned
    obtain ⟨taken, _, _, rfl⟩ := readHead_eq_some entered
    have received : SendSummary (clientReadyFlush s ready).link
        ((clientReadyFlush s ready).received taken).link :=
      .silent rfl rfl rfl Iff.rfl
    exact .sent (flushed.trans (received.trans (recvLoop_summary returned)))

theorem sendStep_link {s later : NetSys} {op : SendOp}
    (stepped : sendStep s op = some later) : StepLink s.link later.link := by
  cases op with
  | queueSend data =>
      cases stepped
      exact .sent (netQueueSend_summary s.link data)
  | flushSend =>
      cases stepped
      exact .sent (netFlushSend_summary s.link)
  | clientReady ready answer => exact netOnClientReady_link stepped
  | listenReady accepted =>
      cases stepped
      exact netOnListenReady_link s accepted
  | checkInactivity =>
      cases stepped
      exact netCheckInactivity_link s

/-! ### Runs -/

/-- A settled link needs no interest in writing and has none. -/
theorem Link.Settled.agrees {s : NetSys} (settled : s.link.Settled) :
    WriteInterestAgrees s := by
  intro fd connected
  have silent : watchesWrite s.link fd = false := by
    simp [watchesWrite, settled.watches fd connected, LoopInterest.readOnly]
  have drained : ¬ s.link.conn.sendOff < s.link.conn.sendLen := fun left =>
    settled.drained ⟨by simp [connected], left⟩
  simp [silent, drained]

theorem Link.settled_of_gone {link : Link} (gone : link.conn.clientFd = none) :
    link.Settled := by
  refine ⟨?_, ?_⟩
  · intro fd connected
    rw [gone] at connected
    cases connected
  · rintro ⟨connected, _⟩
    rw [gone] at connected
    cases connected

/-- A step that does not end blocked leaves the link settled. -/
theorem sendStep_settled {s later : NetSys} {op : SendOp} (settled : s.link.Settled)
    (allowed : ¬ LeavesBlocked s op) (stepped : sendStep s op = some later) :
    later.link.Settled := by
  cases sendStep_link stepped with
  | closed gone => exact Link.settled_of_gone gone
  | adopted fresh _ => exact fresh
  | sent summary =>
      rcases summary.outcome with kept | dropped
      · refine ⟨kept.watches settled.watches, fun waiting => ?_⟩
        rcases kept.waiting waiting with ⟨_, before⟩ | blocked
        · exact settled.drained before
        · exact allowed ⟨later, stepped, waiting.1, blocked⟩
      · exact Link.settled_of_gone dropped.gone

/-- A step that ends blocked leaves bytes for which nothing waits. -/
theorem sendStep_disagrees {s later : NetSys} {op : SendOp} (settled : s.link.Settled)
    (stepped : sendStep s op = some later) (blocked : LeavesBlocked s op) :
    ¬ WriteInterestAgrees later := by
  obtain ⟨next, same, connected, last⟩ := blocked
  cases stepped.symm.trans same
  obtain ⟨fd, client⟩ := Option.isSome_iff_exists.mp connected
  cases sendStep_link stepped with
  | closed gone =>
      rw [gone] at client
      cases client
  | adopted _ silent =>
      have more := last.1
      omega
  | sent summary =>
      rcases summary.outcome with kept | dropped
      · have waiting := kept.blocked last
        have watched := kept.watches settled.watches fd client
        intro agrees
        have write := (agrees fd client).mpr waiting.2
        simp [watchesWrite, watched, LoopInterest.readOnly] at write
      · rw [dropped.gone] at client
        cases client

/-- In a run from a settled state the registered interest agrees with the queue
in every state exactly when no step ends with a blocked `send`. -/
theorem always_agrees_iff {s : NetSys} (settled : s.link.Settled) (ops : List SendOp) :
    Always sendStep WriteInterestAgrees s ops ↔
      Guarded sendStep (fun s op => ¬ LeavesBlocked s op) s ops := by
  have sound : ∀ s : NetSys, s.link.Settled → WriteInterestAgrees s :=
    fun _ settled => settled.agrees
  apply always_iff_guarded sound
  · intro s op next settled allowed stepped
    exact sendStep_settled settled allowed stepped
  · intro s op next settled agrees stepped blocked
    exact sendStep_disagrees settled stepped blocked agrees
  · exact settled

/-! ### From the start of the daemon -/

theorem mainStart_conn {start : StartUp} {daemon : Daemon}
    (started : mainStart start = some daemon) :
    daemon.sys.link.conn = ClientConn.initial := by
  unfold mainStart at started
  split at started
  next => cases started
  next =>
    cases started
    cases start.listenFd <;> rfl

/-- From the start of the daemon, over any calls and readiness callbacks and any
answers of the socket: the loop waits for room exactly when bytes are left, as
long as and only as long as no step ends with a `send` that was asked to be tried
again. -/
theorem writeInterest_iff {start : StartUp} {daemon : Daemon}
    (started : mainStart start = some daemon) (ops : List SendOp) :
    Always sendStep WriteInterestAgrees daemon.sys ops ↔
      Guarded sendStep (fun s op => ¬ LeavesBlocked s op) daemon.sys ops :=
  always_agrees_iff (Link.settled_of_gone (by rw [mainStart_conn started]; rfl)) ops

theorem writeInterest_iff_accepting :
    ∃ daemon, mainStart (StartUp.first fun _ => .accepted 10) = some daemon ∧
      (Always sendStep WriteInterestAgrees daemon.sys
          [.listenReady (some 8), .queueSend (List.replicate 20 0)] ↔
        Guarded sendStep (fun s op => ¬ LeavesBlocked s op) daemon.sys
          [.listenReady (some 8), .queueSend (List.replicate 20 0)]) := by
  have starts : (mainStart (StartUp.first fun _ => .accepted 10)).isSome = true := by
    decide +kernel
  obtain ⟨daemon, started⟩ := Option.isSome_iff_exists.mp starts
  exact ⟨daemon, started, writeInterest_iff started _⟩

/-- A socket that takes ten bytes and then asks to be tried again. -/
def tenBytesThenFull (call : Nat) : SendAnswer :=
  if call = 0 then .accepted 10 else .again

/-- Half of a reply was taken, and the loop waits for the next request only. -/
theorem partial_send_unwatched :
    ∃ daemon, mainStart (StartUp.first tenBytesThenFull) = some daemon ∧
      ¬ Always sendStep WriteInterestAgrees daemon.sys
        [.listenReady (some 8), .queueSend (List.replicate 20 0)] := by
  have measured : ((mainStart (StartUp.first tenBytesThenFull)).bind fun daemon =>
      run sendStep daemon.sys
        [.listenReady (some 8), .queueSend (List.replicate 20 0)]).map
      (fun s => (s.link.conn.clientFd, watchesWrite s.link 8, s.link.conn.sendOff,
        s.link.conn.sendLen)) = some (some 8, false, 10, 20) := by decide +kernel
  obtain ⟨final, ran, state⟩ := Option.map_eq_some_iff.mp measured
  obtain ⟨daemon, started, reached⟩ := Option.bind_eq_some_iff.mp ran
  simp only [Prod.mk.injEq] at state
  obtain ⟨client, silent, off, len⟩ := state
  refine ⟨daemon, started, fun always => ?_⟩
  have watched := (always.final reached 8 client).mpr (by omega)
  rw [silent] at watched
  cases watched

end Acud
