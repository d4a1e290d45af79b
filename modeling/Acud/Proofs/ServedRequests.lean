/-
Module: Acud.Proofs.ServedRequests
Purpose: What a run does to the connection, request by request.
Trusted boundary: none
Main exports:
  Link.given, Link.Carries, NetSys.Carries, Served, DuringRun, run_serves
-/
import Acud.Proofs.EventRecords
import Acud.Proofs.Reassembly

namespace Acud

open Lib

/-!
`runCalls` lists the calls of `handle_request` during a run; here each call comes with the
state in which it is made.  Between two calls bytes are read, moved and sent, and other
events change other parts of the daemon: for the client, and for the roster, nothing happens,
and the event store is appended to.

[SRC src/acud/net.c]
-/

/-- The bytes for the client: those the socket took, and those that are queued. -/
def Link.given (link : Link) : Bytes :=
  link.sock.wire ++ link.conn.unsent

/-- Bytes move on their way to the client, and nothing else happens on the connection. -/
structure Link.Carries (before after : Link) : Prop where
  ordered : after.conn.sendOff ≤ after.conn.sendLen
  given : after.given = before.given
  taken : before.sock.wire.length ≤ after.sock.wire.length
  answers : after.sock.answers = before.sock.answers
  store : after.store = before.store
  attached : after.userbinAttached = before.userbinAttached ∧
    after.usersAttached = before.usersAttached

namespace Link

variable {first second third : Link}

theorem Carries.refl (ordered : first.conn.sendOff ≤ first.conn.sendLen) : first.Carries first :=
  { ordered := ordered
    given := rfl
    taken := Nat.le_refl _
    answers := rfl
    store := rfl
    attached := ⟨rfl, rfl⟩ }

theorem Carries.trans (one : first.Carries second) (two : second.Carries third) :
    first.Carries third :=
  { ordered := two.ordered
    given := two.given.trans one.given
    taken := one.taken.trans two.taken
    answers := two.answers.trans one.answers
    store := two.store.trans one.store
    attached :=
      ⟨two.attached.1.trans one.attached.1, two.attached.2.trans one.attached.2⟩ }

/-- A connection on which nothing is sent and the queue stays as it is. -/
theorem Carries.of_conn (ordered : first.conn.sendOff ≤ first.conn.sendLen) {conn : ClientConn}
    (buf : conn.sendBuf = first.conn.sendBuf) (len : conn.sendLen = first.conn.sendLen)
    (off : conn.sendOff = first.conn.sendOff) : first.Carries { first with conn := conn } := by
  have unsent : conn.unsent = first.conn.unsent := by
    rw [ClientConn.unsent, ClientConn.unsent, buf, len, off]
  refine
    { ordered := by rw [len, off]; exact ordered
      given := congrArg (first.sock.wire ++ ·) unsent
      taken := Nat.le_refl _
      answers := rfl
      store := rfl
      attached := ⟨rfl, rfl⟩ }

end Link

/-- Bytes move on their way to the client, and events are appended. -/
structure NetSys.Carries (before after : NetSys) : Prop where
  link : before.link.Carries after.link
  records : before.Records after

namespace NetSys

variable {first second third : NetSys}

theorem Carries.refl (ordered : first.link.conn.sendOff ≤ first.link.conn.sendLen) :
    first.Carries first :=
  { link := .refl ordered
    records := .refl first }

theorem Carries.trans (one : first.Carries second) (two : second.Carries third) :
    first.Carries third :=
  { link := one.link.trans two.link
    records := one.records.trans two.records }

theorem Carries.of_link {link : Link} (carried : first.link.Carries link) :
    first.Carries { first with link := link } :=
  { link := carried
    records := .same rfl id rfl }

end NetSys

/-- What a flush leaves of the queue is still a part of the buffer. -/
theorem FlushResult.ordered {link flushed : Link} (result : FlushResult link flushed)
    (ordered : link.conn.sendOff ≤ link.conn.sendLen) :
    flushed.conn.sendOff ≤ flushed.conn.sendLen := by
  cases result with
  | offline absent =>
      unfold resetSendBuf
      split
      next => exact Nat.le_refl 0
      next => exact ordered
  | drained => exact Nat.le_refl 0
  | blocked rounds _ left _ => exact Nat.le_of_lt left
  | dropped => exact Nat.le_refl 0

theorem SendRounds.taken {link : Link} {sock : Socket} {off : Nat}
    (rounds : SendRounds link sock off) : link.sock.wire.length ≤ sock.wire.length := by
  rw [rounds.wire, List.length_append]
  exact Nat.le_add_right _ _

theorem FlushResult.carries {link flushed : Link} (result : FlushResult link flushed)
    (ordered : link.conn.sendOff ≤ link.conn.sendLen) (connected : netIsConnected flushed = true) :
    link.Carries flushed := by
  have bounds := result.ordered ordered
  have given := result.conserves ordered connected
  cases result with
  | offline absent =>
      unfold resetSendBuf at connected
      split at connected
      all_goals simp [netIsConnected, absent] at connected
  | drained rounds =>
      exact
        { ordered := bounds
          given := given
          taken := rounds.taken
          answers := rounds.answers
          store := rfl
          attached := ⟨rfl, rfl⟩ }
  | blocked rounds =>
      exact
        { ordered := bounds
          given := given
          taken := rounds.taken
          answers := rounds.answers
          store := rfl
          attached := ⟨rfl, rfl⟩ }
  | dropped => cases connected

/-- A reply keeps the bounds of the queue, too. -/
theorem LinkEffect.ordered {before after : Link} (effect : LinkEffect before after)
    (ordered : before.conn.sendOff ≤ before.conn.sendLen) :
    after.conn.sendOff ≤ after.conn.sendLen := by
  induction effect with
  | stored link store => exact ordered
  | flushed link => exact (netFlushSend_result link).ordered ordered
  | queued link data =>
      have result := netQueueSend_result link data
      revert result
      generalize netQueueSend link data = queued
      intro result
      cases result with
      | offline => exact ordered
      | full => simp
      | flushed _ _ result => exact result.ordered (by simp [Link.withReply])
  | trans _ _ one two => exact two (one ordered)

/-! ### One callback -/

/-- Requests are handled one after another, each in a state with the property; in between
bytes are carried to the client. -/
inductive Served (property : NetSys → Prop) : NetSys → List RequestCall → NetSys → Prop where
  | done {s last : NetSys} (carried : s.Carries last) : Served property s [] last
  | handled {s here last : NetSys} {hdr : IdtiHeader} {pkt : Memory} {rest : List RequestCall}
      (carried : s.Carries here) (holds : property here)
      (connected : netIsConnected here.link = true)
      (fine : ¬ SendFailed here.link (handleRequest here hdr pkt).link)
      (later : Served property (handleRequest here hdr pkt) rest last) :
      Served property s ((hdr, pkt.read 0 hdr.packetLength.toNat) :: rest) last

section Callback

variable {property : NetSys → Prop} {s here last : NetSys} {calls more : List RequestCall}

theorem Served.behind (served : Served property here calls last)
    (carried : s.Carries here) : Served property s calls last := by
  cases served with
  | done later => exact .done (carried.trans later)
  | handled later holds connected fine rest =>
      exact .handled (carried.trans later) holds connected fine rest

theorem Served.append (early : Served property s calls here)
    (late : Served property here more last) : Served property s (calls ++ more) last := by
  induction early with
  | done carried => exact late.behind carried
  | handled carried holds connected fine _ inductionHypothesis =>
      exact .handled carried holds connected fine (inductionHypothesis late)

theorem Served.imp {weaker : NetSys → Prop} (weaken : ∀ s, property s → weaker s)
    (served : Served property s calls last) : Served weaker s calls last := by
  induction served with
  | done carried => exact .done carried
  | handled carried holds connected fine _ inductionHypothesis =>
      exact .handled carried (weaken _ holds) connected fine inductionHypothesis

/-- The loop serves the frames it finds. -/
theorem recvLoop_serves {start head : LoopHead} {later : NetSys} {rounds : Nat}
    (passes : ∀ head, LoopReaches start head → property head.sys)
    (fine : ∀ head hdr, LoopReaches start head → head.frame = some hdr →
      ¬ SendFailed head.sys.link (handleRequest head.sys hdr head.pkt).link)
    (reached : LoopReaches start head)
    (ordered : head.conn.sendOff ≤ head.conn.sendLen)
    (connected : netIsConnected head.sys.link = true)
    (ended : recvLoop rounds head = some later) :
    Served property head.sys (recvLoopCalls rounds head) later := by
  induction rounds generalizing head with
  | zero => cases ended
  | succ rounds inductionHypothesis =>
      rw [recvLoop] at ended
      rw [recvLoopCalls]
      cases stepped : recvStep head with
      | leave last =>
          rw [stepped] at ended
          have same := recvStep_leave_sys stepped
          change recvFinish last = some later at ended
          refine .done ?_
          rw [← same]
          have bounds : last.conn.sendOff ≤ last.conn.sendLen := by
            rw [LoopHead.conn, same]
            exact ordered
          unfold recvFinish at ended
          simp only at ended
          split at ended
          next =>
            cases ended
            exact .refl bounds
          next =>
            split at ended
            next => cases ended
            next =>
              cases ended
              exact .of_link (.of_conn bounds rfl rfl rfl)
      | undefined =>
          rw [stepped] at ended
          cases ended
      | next after =>
          rw [stepped] at ended
          obtain ⟨hdr, found, _, rfl⟩ := recvStep_eq_next.mp stepped
          have kept := fine head hdr reached found
          have effect := handleRequest_link head.sys hdr head.pkt
          have stays : netIsConnected (head.handled hdr).sys.link = true :=
            (LoopHead.content_handled hdr kept connected).2
          have behind := inductionHypothesis (reached.round stepped) (effect.ordered ordered)
            stays ended
          rw [RecvStep.calls_next found]
          exact .handled (.refl ordered) (passes head reached) connected kept behind

theorem clientReadyFlush_carries {s : NetSys} {ready : LoopInterest}
    (ordered : s.link.conn.sendOff ≤ s.link.conn.sendLen)
    (connected : netIsConnected (clientReadyFlush s ready).link = true) :
    s.Carries (clientReadyFlush s ready) := by
  unfold clientReadyFlush at connected ⊢
  split at connected
  next write =>
    rw [if_pos write]
    exact .of_link ((netFlushSend_result s.link).carries ordered connected)
  next silent =>
    rw [if_neg silent]
    exact .refl ordered

/-- The callback of the client's socket serves the frames that it handles. -/
theorem netOnClientReady_serves {s later : NetSys} {ready : LoopInterest} {answer : RecvAnswer}
    (passes : ∀ start, readHead s ready answer = some start →
      ∀ head, LoopReaches start head → property head.sys)
    (ordered : s.link.conn.sendOff ≤ s.link.conn.sendLen) (fine : NoSendFailure s ready answer)
    (stays : netIsConnected later.link = true)
    (returned : netOnClientReady s ready answer = some later) :
    Served property s (netOnClientReadyCalls s ready answer) later := by
  cases entered : readHead s ready answer with
  | none =>
      have calls : netOnClientReadyCalls s ready answer = [] := by
        unfold netOnClientReadyCalls
        rw [entered]
      rw [calls]
      rcases netOnClientReady_cases s ready answer with plain | dropped | ⟨start, enters, _⟩
      · rw [plain] at returned
        cases returned
        exact .done (clientReadyFlush_carries ordered stays)
      · rw [dropped] at returned
        cases returned
        cases stays
      · rw [entered] at enters
        cases enters
  | some start =>
      have calls : netOnClientReadyCalls s ready answer =
          recvLoopCalls (netRecvBufCap + 1) start := by
        unfold netOnClientReadyCalls
        rw [entered]
      rw [netOnClientReady_enters entered] at returned
      obtain ⟨taken, connected, _, read⟩ := readHead_eq_some entered
      have flushed := clientReadyFlush_carries ordered connected
      have buffered : s.Carries start.sys := by
        rw [read]
        exact flushed.trans (.of_link (.of_conn flushed.link.ordered rfl rfl rfl))
      rw [calls]
      apply Served.behind _ buffered
      apply recvLoop_serves (passes start entered)
        (fun head hdr reached found => fine start entered head hdr reached found) .start
        buffered.link.ordered _ returned
      rw [read]
      exact connected

end Callback

/-! ### Events and runs -/

/-- Events other than those of the client's socket leave the link alone. -/
theorem step_link {daemon next : Daemon} {input : Input}
    (other : ∀ ready answer, input ≠ .clientReady ready answer)
    (keeps : KeepsClient daemon input) (stepped : daemon.step input = some next) :
    next.sys.link = daemon.sys.link := by
  have stays := keeps.stays next stepped
  cases input with
  | clientReady ready answer => exact absurd rfl (other ready answer)
  | listenReady accepted =>
      cases stepped
      unfold Daemon.onNet
      split
      next up =>
        cases accepted with
        | none => rfl
        | some fd =>
            have replaces := keeps.same
            change daemon.netUp = false at replaces
            rw [up] at replaces
            cases replaces
      next => rfl
  | cardReadable sensors down cards =>
      cases stepped
      exact onCardReadable_link daemon sensors down cards
  | housekeeping =>
      cases stepped
      unfold Daemon.onNet at stays ⊢
      split at stays
      next up =>
        rcases netCheckInactivity_cases daemon.sys with same | dropped
        · rw [if_pos up, same]
        · rw [dropped] at stays
          cases stays
      next down => rw [if_neg down]
  | reload found =>
      cases stepped
      obtain ⟨_, reloaded⟩ := reloadConfig_eq daemon found
      have same : found.port.join.isSome = false := keeps.same
      have moved := reloadPort_link (Option.not_isSome_iff_eq_none.mp (by rw [same]; decide))
        daemon found.cfg
      rw [reloaded]
      exact moved
  | clock now monotonic =>
      cases stepped
      rfl

/-- A state in which a request can be handled while these events happen. -/
def DuringRun (daemon : Daemon) (inputs : List Input) (s : NetSys) : Prop :=
  ∃ early middle, early <+: inputs ∧ run Daemon.step daemon early = some middle ∧
    middle.Passes s

/-- The network unit is up, and a client is connected to it. -/
def Daemon.Live (daemon : Daemon) : Prop :=
  daemon.netUp = true ∧ netIsConnected daemon.sys.link = true

theorem step_serves {daemon next : Daemon} {input : Input} (live : daemon.Live)
    (ordered : daemon.sys.link.conn.sendOff ≤ daemon.sys.link.conn.sendLen)
    (keeps : KeepsClient daemon input) (stepped : daemon.step input = some next) :
    Served daemon.Passes daemon.sys (daemon.requestCalls input) next.sys ∧ next.Live := by
  have stays := keeps.stays next stepped
  by_cases socket : ∃ ready answer, input = .clientReady ready answer
  · obtain ⟨ready, answer, rfl⟩ := socket
    have step : daemon.step (.clientReady ready answer) =
        (netOnClientReady daemon.sys ready answer).map fun s => { daemon with sys := s } :=
      if_pos live
    have calls : daemon.requestCalls (.clientReady ready answer) =
        netOnClientReadyCalls daemon.sys ready answer := if_pos live
    rw [step, Option.map_eq_some_iff] at stepped
    obtain ⟨later, returned, rfl⟩ := stepped
    rw [calls]
    refine ⟨?_, live.1, stays⟩
    exact netOnClientReady_serves (fun start entered head reached => .head entered reached)
      ordered (keeps.sends ready answer rfl) stays returned
  · have other : ∀ ready answer, input ≠ .clientReady ready answer :=
      fun ready answer same => socket ⟨ready, answer, same⟩
    obtain ⟨_, calls, _⟩ := other_event daemon other
    rw [calls]
    refine ⟨.done ?_, (step_conn other keeps stepped).2.trans live.1, stays⟩
    refine ⟨?_, step_records daemon other stepped⟩
    rw [step_link other keeps stepped]
    exact .refl ordered

theorem Served.ordered {property : NetSys → Prop} {s last : NetSys} {calls : List RequestCall}
    (served : Served property s calls last) : last.link.conn.sendOff ≤ last.link.conn.sendLen := by
  induction served with
  | done carried => exact carried.link.ordered
  | handled _ _ _ _ _ inductionHypothesis => exact inductionHypothesis

/-- A run serves the requests that it handles, each in a state of the run. -/
theorem run_serves {daemon final : Daemon} {inputs : List Input} (live : daemon.Live)
    (ordered : daemon.sys.link.conn.sendOff ≤ daemon.sys.link.conn.sendLen)
    (keeps : Meets Daemon.step KeepsClient daemon inputs)
    (reached : run Daemon.step daemon inputs = some final) :
    Served (DuringRun daemon inputs) daemon.sys (runCalls daemon inputs) final.sys ∧
      final.Live := by
  induction inputs generalizing daemon with
  | nil =>
      cases reached
      exact ⟨.done (.refl ordered), live⟩
  | cons input later inductionHypothesis =>
      obtain ⟨next, stepped, followed⟩ := run_cons_eq_some reached
      obtain ⟨here, keepsLater⟩ := keeps
      obtain ⟨served, stays⟩ := step_serves live ordered here stepped
      obtain ⟨behind, ends⟩ :=
        inductionHypothesis stays served.ordered (keepsLater next stepped) followed
      refine ⟨?_, ends⟩
      rw [runCalls, stepped]
      apply (served.imp fun s passes => ?_).append (behind.imp fun s during => ?_)
      · exact ⟨[], daemon, List.nil_prefix, rfl, passes⟩
      · obtain ⟨early, middle, front, run, passes⟩ := during
        refine ⟨input :: early, middle, List.cons_prefix_cons.mpr ⟨rfl, front⟩, ?_, passes⟩
        rw [run_cons, stepped]
        exact run

end Acud
