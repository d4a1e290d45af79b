/-
Module: Acud.Proofs.UploadOwner
Purpose: An upload in progress belongs to the connection that is open.
Trusted boundary: none
Main exports:
  Link.UploadBelongs, UploadSafe, UploadOwned, upload_belongs
-/
import Acud.Proofs.Reassembly

namespace Acud

open Lib

/-!
`net_drop_client` discards the upload of the connection it closes.  Two ways
around it remain: a changed `tcp_port` closes the sockets in `net_shutdown`, and
after a failed `send` the receive loop goes on with frames of a client that is
gone, a Start among them.  `UploadSafe` excludes both; every other step keeps
`Link.UploadBelongs`.

[SRC src/acud/net.c, src/acud/main.c]
-/

/-! ### The connection -/

/-- While an upload is in progress there is a client, and dropping it discards the
upload. -/
structure Link.UploadBelongs (link : Link) : Prop where
  connected : userbinInProgress link.store = true → netIsConnected link = true
  attached : link.userbinAttached = true

theorem userbinAbort_inactive (store : UserStore) :
    userbinInProgress (userbinAbort store) = false := by
  unfold userbinAbort userbinInProgress
  split
  next => rfl
  next inactive => exact Bool.eq_false_iff.mpr inactive

/-- Dropping the client discards its upload. -/
theorem netDropClient_discards {link : Link} (attached : link.userbinAttached = true) :
    userbinInProgress (netDropClient link).store = false := by
  unfold netDropClient
  simp only [attached, Bool.true_and]
  split
  next => exact userbinAbort_inactive link.store
  next inactive => exact Bool.eq_false_iff.mpr inactive

theorem Link.UploadBelongs.dropped {link : Link} (belongs : link.UploadBelongs) :
    (netDropClient link).UploadBelongs := by
  constructor
  · intro active
    rw [netDropClient_discards belongs.attached] at active
    cases active
  · exact belongs.attached

/-- A connection with the same client and the same store. -/
theorem Link.UploadBelongs.of_same {before after : Link} (belongs : before.UploadBelongs)
    (clientFd : after.conn.clientFd = before.conn.clientFd) (store : after.store = before.store)
    (attached : after.userbinAttached = before.userbinAttached) : after.UploadBelongs := by
  constructor
  · intro active
    rw [store] at active
    rw [netIsConnected, clientFd]
    exact belongs.connected active
  · rw [attached]
    exact belongs.attached

theorem FlushResult.uploadBelongs {link flushed : Link} (result : FlushResult link flushed)
    (belongs : link.UploadBelongs) : flushed.UploadBelongs := by
  cases result with
  | offline absent =>
      refine belongs.of_same ?_ rfl rfl
      unfold resetSendBuf
      split <;> rfl
  | drained => exact belongs.of_same rfl rfl rfl
  | blocked => exact belongs.of_same rfl rfl rfl
  | dropped => exact Link.UploadBelongs.dropped (belongs.of_same rfl rfl rfl)

theorem netQueueSend_uploadBelongs {link : Link} (belongs : link.UploadBelongs) (out : Bytes) :
    (netQueueSend link out).2.UploadBelongs := by
  have result := netQueueSend_result link out
  revert result
  generalize netQueueSend link out = queued
  intro result
  cases result with
  | offline => exact belongs
  | full => exact belongs.of_same (clientFd_compactSendBuf _) rfl rfl
  | flushed _ _ result =>
      apply result.uploadBelongs
      exact belongs.of_same (clientFd_compactSendBuf _) rfl rfl

theorem LinkTransport.uploadBelongs {before after : Link} (transport : LinkTransport before after)
    (belongs : before.UploadBelongs) : after.UploadBelongs := by
  cases transport with
  | flushed => exact (netFlushSend_result before).uploadBelongs belongs
  | dropped => exact belongs.dropped
  | buffered conn same => exact belongs.of_same same rfl rfl

/-- A frame keeps the upload with its client, unless it starts one for a client that is
gone. -/
theorem handleRequest_uploadBelongs {s : NetSys} {hdr : IdtiHeader} {pkt : Memory}
    (belongs : s.link.UploadBelongs)
    (present : hdr.IsUploadStart → netIsConnected s.link = true) :
    (handleRequest s hdr pkt).link.UploadBelongs := by
  obtain ⟨_, ⟨store, _, out, _, _, _, _, _, link, quiet⟩, _⟩ := handleRequest_answers s hdr pkt
  have same : (requestTimeSync s hdr pkt).link = s.link := by rw [requestTimeSync_eq]
  rw [same] at link quiet
  rw [link]
  apply netQueueSend_uploadBelongs
  constructor
  · intro active
    rcases quiet active with before | start
    · exact belongs.connected before
    · exact present start
  · exact belongs.attached

/-! ### Events of the main loop -/

/-- No event makes a new network unit while an upload is in progress, and no Start is
handled in the receive loop after the client was dropped. -/
def UploadSafe (daemon : Daemon) (input : Input) : Prop :=
  (input.renewsNet = true → userbinInProgress daemon.sys.link.store = false) ∧
    ∀ ready answer, input = .clientReady ready answer →
      ∀ start, readHead daemon.sys ready answer = some start →
        ∀ head hdr, LoopReaches start head → head.frame = some hdr →
          hdr.IsUploadStart → netIsConnected head.sys.link = true

/-- Accepting a client leaves no upload of an earlier one. -/
theorem netOnListenReady_uploadBelongs {s : NetSys} (belongs : s.link.UploadBelongs)
    (accepted : Option Nat) :
    (netOnListenReady s accepted).link.UploadBelongs ∧
      (accepted.isSome → userbinInProgress (netOnListenReady s accepted).link.store = false) := by
  cases accepted with
  | none =>
      refine ⟨belongs, fun some => ?_⟩
      cases some
  | some fd =>
      -- The client before was dropped, or there was none; either way no upload is left.
      obtain ⟨free, rest⟩ : (userbinInProgress
          (if netIsConnected s.link then s.dropClient else s).link.store = false) ∧
          (if netIsConnected s.link then s.dropClient else s).link.userbinAttached = true := by
        split
        next => exact ⟨netDropClient_discards belongs.attached, belongs.attached⟩
        next gone =>
          refine ⟨Bool.eq_false_iff.mpr fun active => gone ?_, belongs.attached⟩
          exact belongs.connected active
      unfold netOnListenReady netAdoptClient
      simp only
      generalize (if netIsConnected s.link then s.dropClient else s) = before at free rest
      split
      next =>
        refine ⟨⟨fun active => ?_, rest⟩, fun _ => free⟩
        exact absurd active (Bool.eq_false_iff.mp free)
      next =>
        refine ⟨Link.UploadBelongs.dropped ⟨fun active => ?_, rest⟩, fun _ => ?_⟩
        · exact absurd active (Bool.eq_false_iff.mp free)
        · exact netDropClient_discards rest

theorem netCheckInactivity_uploadBelongs {s : NetSys} (belongs : s.link.UploadBelongs) :
    (netCheckInactivity s).link.UploadBelongs := by
  rcases netCheckInactivity_cases s with same | dropped
  · rw [same]
    exact belongs
  · rw [dropped]
    exact belongs.dropped

/-- The connection part of a new network unit keeps the roster store. -/
theorem freshLink_store (old : Link) (listenFd : Nat) :
    (freshLink old listenFd).store = old.store := rfl

/-- A reload that makes a new network unit leaves no client, and must find no upload. -/
theorem reloadPort_uploadBelongs {daemon : Daemon} (belongs : daemon.sys.link.UploadBelongs)
    (cfg : AcuConfig) (port : Option (Option Nat))
    (free : port.join.isSome → userbinInProgress daemon.sys.link.store = false) :
    (reloadPort daemon cfg port).sys.link.UploadBelongs ∧
      (reloadPort daemon cfg port).sys.link.store = daemon.sys.link.store := by
  unfold reloadPort
  rcases port with _ | _ | listenFd
  · exact ⟨belongs, rfl⟩
  · exact ⟨belongs, rfl⟩
  · have kept : (freshLink (if daemon.netUp then netShutdown daemon.sys.link
        else daemon.sys.link) listenFd).store = daemon.sys.link.store := by
      rw [freshLink_store]
      split <;> rfl
    refine ⟨⟨fun active => ?_, rfl⟩, kept⟩
    simp only at active
    rw [kept] at active
    exact absurd active (Bool.eq_false_iff.mp (free rfl))

/-- Every event keeps the upload with its client under the condition. -/
theorem step_uploadBelongs {daemon next : Daemon} {input : Input}
    (belongs : daemon.sys.link.UploadBelongs) (safe : UploadSafe daemon input)
    (stepped : daemon.step input = some next) : next.sys.link.UploadBelongs := by
  cases input with
  | clientReady ready answer =>
      simp only [Daemon.step] at stepped
      split at stepped
      next =>
        obtain ⟨later, returned, rfl⟩ := Option.map_eq_some_iff.mp stepped
        have carries : ∀ (s : NetSys) (link : Link), s.link.UploadBelongs →
            LinkTransport s.link link → link.UploadBelongs :=
          fun _ _ held transport => transport.uploadBelongs held
        apply netOnClientReady_keeps carries _ belongs returned
        intro start entered head hdr reached found held
        apply handleRequest_uploadBelongs held
        exact safe.2 ready answer rfl start entered head hdr reached found
      next =>
        cases stepped
        exact belongs
  | listenReady accepted =>
      cases stepped
      unfold Daemon.onNet
      split
      next => exact (netOnListenReady_uploadBelongs belongs accepted).1
      next => exact belongs
  | cardReadable sensors down cards =>
      cases stepped
      rw [onCardReadable_link]
      exact belongs
  | housekeeping =>
      cases stepped
      unfold Daemon.onNet
      split
      next => exact netCheckInactivity_uploadBelongs belongs
      next => exact belongs
  | reload found =>
      cases stepped
      obtain ⟨_, reloaded⟩ := reloadConfig_eq daemon found
      rw [reloaded]
      exact (reloadPort_uploadBelongs belongs found.cfg found.port safe.1).1
  | clock now monotonic =>
      cases stepped
      exact belongs

/-! ### Where an upload begins -/

/-- In the receive callback a Start is handled, for the client that is connected. -/
def Daemon.ReceivesStart (daemon : Daemon) (ready : LoopInterest) (answer : RecvAnswer) : Prop :=
  ∃ start head hdr, readHead daemon.sys ready answer = some start ∧
    LoopReaches start head ∧ head.frame = some hdr ∧ hdr.IsUploadStart ∧
    netIsConnected head.sys.link = true

/-- Moving bytes does not begin an upload. -/
theorem LinkTransport.quiet {before after : Link} (transport : LinkTransport before after)
    (free : userbinInProgress before.store = false) : userbinInProgress after.store = false := by
  have dropped : ∀ link : Link, userbinInProgress link.store = false →
      userbinInProgress (netDropClient link).store = false := by
    intro link free
    unfold netDropClient
    simp only
    split
    next => exact userbinAbort_inactive link.store
    next => exact free
  cases transport with
  | dropped => exact dropped before free
  | buffered conn same => exact free
  | flushed =>
      have result := netFlushSend_result before
      revert result
      generalize netFlushSend before = flushed
      intro result
      cases result with
      | offline => exact free
      | drained => exact free
      | blocked => exact free
      | dropped => exact dropped _ free

theorem netQueueSend_quiet {link : Link} (free : userbinInProgress link.store = false)
    (out : Bytes) : userbinInProgress (netQueueSend link out).2.store = false := by
  unfold netQueueSend
  split
  next => exact free
  next =>
    simp only
    split
    next => exact free
    next => exact (LinkTransport.flushed _).quiet free

/-- A frame that is no Start does not begin an upload. -/
theorem handleRequest_quiet {s : NetSys} {hdr : IdtiHeader} {pkt : Memory}
    (free : userbinInProgress s.link.store = false) (other : ¬ hdr.IsUploadStart) :
    userbinInProgress (handleRequest s hdr pkt).link.store = false := by
  obtain ⟨_, ⟨store, _, out, _, _, _, _, _, link, quiet⟩, _⟩ := handleRequest_answers s hdr pkt
  have same : (requestTimeSync s hdr pkt).link = s.link := by rw [requestTimeSync_eq]
  rw [same] at link quiet
  rw [link]
  apply netQueueSend_quiet
  apply Bool.eq_false_iff.mpr
  intro active
  rcases quiet active with before | start
  · exact absurd before (Bool.eq_false_iff.mp free)
  · exact other start

/-- An upload begins with a Start that the connected client sent. -/
theorem step_begins {daemon next : Daemon} {input : Input}
    (belongs : daemon.sys.link.UploadBelongs) (safe : UploadSafe daemon input)
    (stepped : daemon.step input = some next)
    (free : userbinInProgress daemon.sys.link.store = false)
    (active : userbinInProgress next.sys.link.store = true) :
    ∃ ready answer, input = .clientReady ready answer ∧ daemon.ReceivesStart ready answer := by
  cases input with
  | clientReady ready answer =>
      refine ⟨ready, answer, rfl, ?_⟩
      by_contra noStart
      simp only [Daemon.step] at stepped
      split at stepped
      next =>
        obtain ⟨later, returned, rfl⟩ := Option.map_eq_some_iff.mp stepped
        have carries : ∀ (s : NetSys) (link : Link), userbinInProgress s.link.store = false →
            LinkTransport s.link link → userbinInProgress link.store = false :=
          fun _ _ held transport => transport.quiet held
        have still : userbinInProgress later.link.store = false := by
          apply netOnClientReady_keeps carries _ free returned
          intro start entered head hdr reached found held
          apply handleRequest_quiet held
          intro isStart
          have present := safe.2 ready answer rfl start entered head hdr reached found isStart
          exact noStart ⟨start, head, hdr, entered, reached, found, isStart, present⟩
        exact absurd active (Bool.eq_false_iff.mp still)
      next =>
        cases stepped
        exact absurd active (Bool.eq_false_iff.mp free)
  | listenReady accepted =>
      cases stepped
      unfold Daemon.onNet at active
      split at active
      next =>
        cases accepted with
        | none => exact absurd active (Bool.eq_false_iff.mp free)
        | some fd =>
            have none := (netOnListenReady_uploadBelongs belongs (some fd)).2 rfl
            exact absurd active (Bool.eq_false_iff.mp none)
      next => exact absurd active (Bool.eq_false_iff.mp free)
  | cardReadable sensors down cards =>
      cases stepped
      rw [onCardReadable_link] at active
      exact absurd active (Bool.eq_false_iff.mp free)
  | housekeeping =>
      cases stepped
      unfold Daemon.onNet at active
      split at active
      next =>
        rcases netCheckInactivity_cases daemon.sys with same | dropped
        · rw [same] at active
          exact absurd active (Bool.eq_false_iff.mp free)
        · rw [dropped] at active
          exact absurd active (Bool.eq_false_iff.mp ((LinkTransport.dropped _).quiet free))
      next => exact absurd active (Bool.eq_false_iff.mp free)
  | reload found =>
      cases stepped
      obtain ⟨_, reloaded⟩ := reloadConfig_eq daemon found
      rw [reloaded] at active
      simp only at active
      rw [(reloadPort_uploadBelongs belongs found.cfg found.port safe.1).2] at active
      exact absurd active (Bool.eq_false_iff.mp free)
  | clock now monotonic =>
      cases stepped
      exact absurd active (Bool.eq_false_iff.mp free)

/-- An event that replaces the client leaves no upload. -/
theorem replaced_discards {daemon next : Daemon} {input : Input}
    (belongs : daemon.sys.link.UploadBelongs) (safe : UploadSafe daemon input)
    (stepped : daemon.step input = some next) (replaces : daemon.replacesClient input = true) :
    userbinInProgress next.sys.link.store = false := by
  cases input with
  | listenReady accepted =>
      cases accepted with
      | none => cases replaces
      | some fd =>
          cases stepped
          change daemon.netUp = true at replaces
          rw [Daemon.onNet, if_pos replaces]
          exact (netOnListenReady_uploadBelongs belongs (some fd)).2 rfl
  | reload found =>
      cases stepped
      obtain ⟨_, reloaded⟩ := reloadConfig_eq daemon found
      rw [reloaded]
      simp only
      rw [(reloadPort_uploadBelongs belongs found.cfg found.port safe.1).2]
      exact safe.1 replaces
  | _ => cases replaces

/-! ### Runs -/

/-- The Start of the upload came over the connection that is open now: since the event
that received it there was a client, and no event replaced it. -/
def UploadOwned (daemon : Daemon) (inputs : List Input) : Prop :=
  ∃ first ready answer rest before after, inputs = first ++ .clientReady ready answer :: rest ∧
    run Daemon.step daemon first = some before ∧
    before.step (.clientReady ready answer) = some after ∧
    before.ReceivesStart ready answer ∧
    Always Daemon.step (fun daemon => netIsConnected daemon.sys.link = true) after rest ∧
    Guarded Daemon.step (fun daemon input => daemon.replacesClient input = false) after rest

/-- One more event in front of a run. -/
theorem UploadOwned.cons {daemon next : Daemon} {input : Input} {inputs : List Input}
    (stepped : daemon.step input = some next) (owned : UploadOwned next inputs) :
    UploadOwned daemon (input :: inputs) := by
  obtain ⟨first, ready, answer, rest, before, after, rfl, reached, began, received, open_, same⟩ :=
    owned
  refine ⟨input :: first, ready, answer, rest, before, after, rfl, ?_, began, received, open_,
    same⟩
  rw [run_cons, stepped]
  exact reached

/-- An upload in progress at the end of a run began in it, or was there all along. -/
theorem upload_traced {daemon final : Daemon} {inputs : List Input}
    (belongs : daemon.sys.link.UploadBelongs)
    (guarded : Guarded Daemon.step UploadSafe daemon inputs)
    (reached : run Daemon.step daemon inputs = some final)
    (active : userbinInProgress final.sys.link.store = true) :
    UploadOwned daemon inputs ∨
      userbinInProgress daemon.sys.link.store = true ∧
        Always Daemon.step (fun daemon => netIsConnected daemon.sys.link = true) daemon inputs ∧
        Guarded Daemon.step (fun daemon input => daemon.replacesClient input = false)
          daemon inputs := by
  induction inputs generalizing daemon with
  | nil =>
      cases reached
      exact .inr ⟨active, belongs.connected active, trivial⟩
  | cons input rest inductionHypothesis =>
      obtain ⟨next, stepped, reachedLater⟩ := run_cons_eq_some reached
      obtain ⟨safe, guardedLater⟩ := guarded next stepped
      have belongsNext := step_uploadBelongs belongs safe stepped
      rcases inductionHypothesis belongsNext guardedLater reachedLater with
        owned | ⟨activeNext, connected, same⟩
      · exact .inl (owned.cons stepped)
      · cases before : userbinInProgress daemon.sys.link.store with
        | true =>
            -- The upload was there before this event, so the event kept its client.
            right
            refine ⟨rfl, ⟨belongs.connected before, fun later again => ?_⟩,
              fun later again => ?_⟩
            · rw [stepped] at again
              cases again
              exact connected
            · rw [stepped] at again
              cases again
              refine ⟨Bool.eq_false_iff.mpr fun replaces => ?_, same⟩
              rw [replaced_discards belongs safe stepped replaces] at activeNext
              cases activeNext
        | false =>
            obtain ⟨ready, answer, rfl, received⟩ :=
              step_begins belongs safe stepped before activeNext
            exact .inl ⟨[], ready, answer, rest, daemon, next, rfl, rfl, stepped, received,
              connected, same⟩

/-! ### Requests without an upload -/

/-- A chunk of an upload that is sent to the device. -/
def IdtiHeader.IsUploadContinue (hdr : IdtiHeader) : Prop :=
  hdr.object = idtiObjUserbinContinue ∧ hdr.isRequest idtiCmdSndData idtiSubcmdWrite = true

/-- An upload request belongs to its handler, which is asked before the others. -/
theorem handleRequest_upload {s : NetSys} {hdr : IdtiHeader} {pkt : Memory}
    (object : hdr.object = idtiObjUserbinStart ∨ hdr.object = idtiObjUserbinContinue)
    (write : hdr.isRequest idtiCmdSndData idtiSubcmdWrite = true) :
    handleRequest s hdr pkt =
      sendAck (userbinReceive (requestTimeSync s hdr pkt) hdr pkt
          (hdr.object == idtiObjUserbinStart)).2 hdr
        (userbinReceive (requestTimeSync s hdr pkt) hdr pkt
          (hdr.object == idtiObjUserbinStart)).1 := by
  obtain ⟨command, subCommand⟩ : hdr.command = idtiCmdSndData ∧
      hdr.subCommand = idtiSubcmdWrite := by
    simpa only [IdtiHeader.isRequest, Bool.and_eq_true, beq_iff_eq] using write
  have noQuery : hdr.isRequest idtiCmdReqData idtiSubcmdRead = false := by
    rw [IdtiHeader.isRequest, command]
    rfl
  have noStatus : hdr.isRequest idtiCmdReqStatus idtiSubcmdRead = false := by
    rw [IdtiHeader.isRequest, command]
    rfl
  have listed : ¬ (hdr.object ≠ idtiObjUserbinStart ∧ hdr.object ≠ idtiObjUserbinContinue) :=
    fun other => object.elim other.1 other.2
  unfold handleRequest
  simp only [noQuery, noStatus, Bool.false_and, Bool.false_eq_true, if_false]
  unfold claimRequest handleUserbinRequest
  simp only [listed, noQuery, write, Bool.false_eq_true, Bool.true_eq_false, if_false,
    Option.orElse_eq_orElse, Option.orElse_eq_or, Option.some_or]

/-- A chunk that finds no upload is answered Fail, and nothing else happens. -/
theorem handleRequest_continue_refused {s : NetSys} {hdr : IdtiHeader} {pkt : Memory}
    (free : userbinInProgress s.link.store = false) (more : hdr.IsUploadContinue) :
    handleRequest s hdr pkt = sendAck (requestTimeSync s hdr pkt) hdr idtiAckFail := by
  have same : (requestTimeSync s hdr pkt).link = s.link := by rw [requestTimeSync_eq]
  rw [handleRequest_upload (.inr more.1) more.2]
  have noStart : (hdr.object == idtiObjUserbinStart) = false := by
    rw [more.1]
    rfl
  have inactive : (requestTimeSync s hdr pkt).link.store.userbin.active = false := by
    rw [same]
    exact free
  have refused : userbinReceive (requestTimeSync s hdr pkt) hdr pkt false =
      (idtiAckFail, requestTimeSync s hdr pkt) := by
    unfold userbinReceive userbinContinue
    simp only [inactive, if_true, Bool.false_eq_true, if_false]
    split
    next => rfl
    next => split <;> rfl
  rw [noStart, refused]

/-- No Start is handled during the event. -/
def Daemon.WithoutStart (daemon : Daemon) (input : Input) : Prop :=
  ∀ ready answer, input = .clientReady ready answer → ¬ daemon.ReceivesStart ready answer

/-- Every chunk of an upload that is handled during the event is answered Fail, and
nothing else happens. -/
def Daemon.RefusesContinue (daemon : Daemon) (input : Input) : Prop :=
  ∀ ready answer, input = .clientReady ready answer →
    ∀ start, readHead daemon.sys ready answer = some start →
      ∀ head hdr, LoopReaches start head → head.frame = some hdr → hdr.IsUploadContinue →
        handleRequest head.sys hdr head.pkt =
          sendAck (requestTimeSync head.sys hdr head.pkt) hdr idtiAckFail

/-- Without a Start in the read, no frame of it finds an upload. -/
theorem refusesContinue {daemon : Daemon} {input : Input} (safe : UploadSafe daemon input)
    (free : userbinInProgress daemon.sys.link.store = false)
    (quiet : daemon.WithoutStart input) : daemon.RefusesContinue input := by
  intro ready answer isRead start entered head hdr reached _ more
  apply handleRequest_continue_refused _ more
  have carries : ∀ (s : NetSys) (link : Link), userbinInProgress s.link.store = false →
      LinkTransport s.link link → userbinInProgress link.store = false :=
    fun _ _ held transport => transport.quiet held
  have serves : ∀ (earlier : LoopHead) (hdr : IdtiHeader), LoopReaches start earlier →
      earlier.frame = some hdr → userbinInProgress earlier.sys.link.store = false →
        userbinInProgress (handleRequest earlier.sys hdr earlier.pkt).link.store = false := by
    intro earlier hdr reached found held
    apply handleRequest_quiet held
    intro isStart
    have present := safe.2 ready answer isRead start entered earlier hdr reached found isStart
    exact quiet ready answer isRead
      ⟨start, earlier, hdr, entered, reached, found, isStart, present⟩
  exact reached.keeps serves (readHead_keeps carries free entered)

/-! ### The promise over runs -/

/-- An upload in progress came over the connection that is open; an event after which
that connection is gone or another one leaves no upload; and without an upload chunks
are refused until a new Start. -/
structure UploadKept (daemon : Daemon) (inputs : List Input) (final : Daemon) : Prop where
  owned : userbinInProgress final.sys.link.store = true → UploadOwned daemon inputs
  discarded : ∀ input next, UploadSafe final input → final.step input = some next →
    netIsConnected next.sys.link = false ∨ final.replacesClient input = true →
      userbinInProgress next.sys.link.store = false
  refused : userbinInProgress final.sys.link.store = false → ∀ later,
    Guarded Daemon.step (fun daemon input => UploadSafe daemon input ∧
        daemon.WithoutStart input) final later →
      Guarded Daemon.step Daemon.RefusesContinue final later

/-- The daemon starts without an upload. -/
theorem mainStart_uploadFree {start : StartUp} {daemon : Daemon}
    (started : mainStart start = some daemon) :
    userbinInProgress daemon.sys.link.store = false ∧ daemon.sys.link.UploadBelongs := by
  unfold mainStart at started
  split at started
  next => cases started
  next =>
    cases started
    simp only
    split
    next =>
      refine ⟨rfl, ⟨fun active => ?_, rfl⟩⟩
      cases active
    next =>
      refine ⟨rfl, ⟨fun active => ?_, rfl⟩⟩
      cases active

/-- In every run of the daemon from its start whose events meet the condition, uploads
belong to their connection. -/
theorem upload_belongs (start : StartUp) (daemon : Daemon)
    (started : mainStart start = some daemon) (inputs : List Input)
    (guarded : Guarded Daemon.step UploadSafe daemon inputs) (final : Daemon)
    (reached : run Daemon.step daemon inputs = some final) :
    UploadKept daemon inputs final := by
  obtain ⟨free, belongs⟩ := mainStart_uploadFree started
  have keeps : ∀ (daemon : Daemon) (input : Input) (next : Daemon),
      daemon.sys.link.UploadBelongs → UploadSafe daemon input →
        daemon.step input = some next → next.sys.link.UploadBelongs :=
    fun _ _ _ belongs safe stepped => step_uploadBelongs belongs safe stepped
  have belongsFinal := guarded.invariant keeps belongs reached
  constructor
  · intro active
    rcases upload_traced belongs guarded reached active with owned | ⟨before, _⟩
    · exact owned
    · rw [free] at before
      cases before
  · intro input next safe stepped ended
    rcases ended with gone | replaced
    · apply Bool.eq_false_iff.mpr
      intro active
      have connected := (step_uploadBelongs belongsFinal safe stepped).connected active
      rw [gone] at connected
      cases connected
    · exact replaced_discards belongsFinal safe stepped replaced
  · intro freeFinal later quiet
    have kept : ∀ (daemon : Daemon) (input : Input) (next : Daemon),
        daemon.sys.link.UploadBelongs ∧ userbinInProgress daemon.sys.link.store = false →
          UploadSafe daemon input ∧ daemon.WithoutStart input →
            daemon.step input = some next →
              next.sys.link.UploadBelongs ∧ userbinInProgress next.sys.link.store = false := by
      intro daemon input next held allowed stepped
      refine ⟨step_uploadBelongs held.1 allowed.1 stepped, ?_⟩
      apply Bool.eq_false_iff.mpr
      intro active
      obtain ⟨ready, answer, isRead, received⟩ :=
        step_begins held.1 allowed.1 stepped held.2 active
      exact allowed.2 ready answer isRead received
    apply Guarded.imp_of_invariant kept _ quiet ⟨belongsFinal, freeFinal⟩
    intro daemon input held allowed
    exact refusesContinue allowed.1 held.2 allowed.2

/-- An upload of one record is announced. -/
def uploadStartRequest : Bytes :=
  plainRequest idtiCmdSndData idtiSubcmdWrite idtiObjUserbinStart
    [0, 0, 0, 128, 0, 0, 0, 1, idtiUserbinObjInfo, 0]

/-- A client connects, and starts an upload. -/
def connectAndUpload : List Input :=
  [.connect 8, .receive uploadStartRequest]

theorem upload_belongs_connect :
    ∃ daemon final, mainStart (StartUp.first fun _ => .accepted 4096) = some daemon ∧
      run Daemon.step daemon connectAndUpload = some final ∧
      userbinInProgress final.sys.link.store = true ∧
      UploadKept daemon connectAndUpload final := by
  have measured :
      ((mainStart (StartUp.first fun _ => .accepted 4096)).bind fun daemon =>
          (daemon.step (.connect 8)).bind fun connected =>
            (connected.step (.receive uploadStartRequest)).map fun final =>
              (daemon, connected, final)).map
        (fun states => (states.2.1.sys.link.conn.recvLen,
          userbinInProgress states.2.2.sys.link.store)) = some (0, true) := by
    decide +kernel
  obtain ⟨⟨daemon, connected, final⟩, stepped, facts⟩ := Option.map_eq_some_iff.mp measured
  obtain ⟨daemon, started, stepped⟩ := Option.bind_eq_some_iff.mp stepped
  obtain ⟨connected, connects, stepped⟩ := Option.bind_eq_some_iff.mp stepped
  obtain ⟨final, receives, same⟩ := Option.map_eq_some_iff.mp stepped
  cases same
  obtain ⟨empty, active⟩ := Prod.mk.inj facts
  have reached : run Daemon.step daemon connectAndUpload = some final := by
    rw [connectAndUpload, run_cons, connects, Option.bind_some, run_cons, receives,
      Option.bind_some, run_nil]
  have small : connected.sys.link.conn.recvLen ≤ netRecvBufCap := by
    rw [empty]
    exact Nat.zero_le _
  have guarded : Guarded Daemon.step UploadSafe daemon connectAndUpload := by
    intro next stepped
    rw [connects] at stepped
    cases stepped
    refine ⟨⟨fun renews => ?_, fun _ _ isRead => ?_⟩, fun next stepped => ?_⟩
    · cases renews
    · cases isRead
    · refine ⟨⟨fun renews => ?_, fun ready answer _ start entered head hdr reached found _ => ?_⟩,
        trivial⟩
      · cases renews
      · -- No reply fails on this socket, so that the client stays.
        have fine : NoSendFailure connected.sys ready answer :=
          noSendFailure_of_answers (connect_answers (mainStart_answers started) connects)
            (fun _ => rfl) ready answer
        exact (reached.safe small entered fine).connected
          (Option.isSome_iff_exists.mpr ⟨hdr, found⟩)
  exact ⟨daemon, final, started, reached, active,
    upload_belongs _ daemon started _ guarded final reached⟩

/-- An upload starts, `tcp_port` changes, and another client connects. -/
def uploadThenMove : List Input :=
  [.connect 8, .receive uploadStartRequest, .movePort 9, .connect 10]

/-- The upload of the first client is in progress for the second one. -/
theorem moved_port_keeps_upload :
    ∃ daemon final, mainStart (StartUp.first fun _ => .accepted 4096) = some daemon ∧
      run Daemon.step daemon uploadThenMove = some final ∧
      ¬ UploadKept daemon uploadThenMove final := by
  have measured :
      ((mainStart (StartUp.first fun _ => .accepted 4096)).bind fun daemon =>
          (run Daemon.step daemon uploadThenMove).map fun final => (daemon, final)).map
        (fun states => userbinInProgress states.2.sys.link.store) = some true := by
    decide +kernel
  obtain ⟨⟨daemon, final⟩, reached, active⟩ := Option.map_eq_some_iff.mp measured
  obtain ⟨daemon, started, reached⟩ := Option.bind_eq_some_iff.mp reached
  obtain ⟨final, reached, same⟩ := Option.map_eq_some_iff.mp reached
  cases same
  refine ⟨daemon, final, started, reached, fun kept => ?_⟩
  obtain ⟨first, ready, answer, rest, before, after, split, _, _, _, _, unchanged⟩ :=
    kept.owned active
  -- The only read is the second event, and the move right behind it replaces the client.
  rcases first with _ | ⟨one, _ | ⟨two, _ | ⟨three, _ | ⟨four, more⟩⟩⟩⟩
  · cases split
  · obtain ⟨_, _, rfl⟩ : Input.connect 8 = one ∧ _ ∧ [.movePort 9, .connect 10] = rest := by
      simpa [uploadThenMove] using split
    obtain ⟨sameClient, _⟩ := unchanged _ rfl
    cases sameClient
  all_goals simp [uploadThenMove, Input.movePort, Input.connect] at split

end Acud
