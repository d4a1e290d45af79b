/-
Module: Acud.Proofs.UploadRetry
Purpose: Which chunks of an upload may be sent again after a lost reply.
Trusted boundary: none
Main exports:
  AcuUserBin.CompletedBy, ResentSafely, resent_safely_iff
-/
import Acud.Proofs.UploadOwner
import Acud.Proofs.UploadStream

namespace Acud

open Lib

/-!
A receiver answers a chunk that it has processed with Success when it comes again.
It knows the chunk by its index, and the index belongs to a transfer in progress:
the chunk that completes the transfer ends it, and is refused when it comes again.

[SRC src/acud/userbin.c, src/acud/net.c]
-/

/-! ### One chunk twice -/

/-- The chunk completes the upload: it is none that comes again, and with it all bytes
have arrived. -/
def AcuUserBin.CompletedBy (ub : AcuUserBin) (index : UInt16) (chunk : Bytes) : Prop :=
  ub.last ≠ some index ∧ ub.totalSize ≤ ub.received + chunk.length

/-- Taking records changes the counters and the record at hand. -/
theorem feedRecords_userbin (rounds : Nat) (store : UserStore) (data : Bytes) :
    ∃ record parsedOk parsedBad, (feedRecords rounds store data).userbin =
      { store.userbin with record := record, parsedOk := parsedOk, parsedBad := parsedBad } := by
  induction rounds generalizing store data with
  | zero => exact ⟨_, _, _, rfl⟩
  | succ rounds inductionHypothesis =>
      rw [feedRecords]
      split
      next => exact ⟨_, _, _, rfl⟩
      next =>
        simp only
        split
        next =>
          split
          next =>
            obtain ⟨record, parsedOk, parsedBad, later⟩ := inductionHypothesis _ _
            exact ⟨record, parsedOk, parsedBad, later⟩
          next =>
            obtain ⟨record, parsedOk, parsedBad, later⟩ := inductionHypothesis _ _
            exact ⟨record, parsedOk, parsedBad, later⟩
        next =>
          obtain ⟨record, parsedOk, parsedBad, later⟩ := inductionHypothesis _ _
          exact ⟨record, parsedOk, parsedBad, later⟩

/-- How a chunk that is not refused ends: it was there before, it is processed and more
is awaited, or it completes the upload. -/
inductive ChunkTaken (store : UserStore) (index : UInt16) (chunk : Bytes) :
    AcuUserBinStatus × UserStore → Prop where
  | again (active : store.userbin.active = true) (last : store.userbin.last = some index) :
      ChunkTaken store index chunk (.ok, store)
  | processed {after : UserStore} (active : after.userbin.active = true)
      (last : after.userbin.last = some index)
      (more : ¬ store.userbin.CompletedBy index chunk) : ChunkTaken store index chunk (.ok, after)
  | completed {after : UserStore} (ended : after.userbin.active = false)
      (all : store.userbin.CompletedBy index chunk) :
      ChunkTaken store index chunk (.complete, after)

theorem userbinFinish_active (store : UserStore) :
    (userbinFinish store).userbin.active = false := by
  unfold userbinFinish
  split <;> rfl

theorem userbinContinue_cases {store : UserStore} {index : UInt16} {chunk : Bytes}
    (accepted : (userbinContinue store index chunk).1 ≠ .failed) :
    ChunkTaken store index chunk (userbinContinue store index chunk) := by
  unfold userbinContinue at accepted ⊢
  simp only at accepted ⊢
  split
  next inactive =>
    rw [if_pos inactive] at accepted
    exact absurd rfl accepted
  next active =>
    rw [if_neg active] at accepted
    rw [Bool.not_eq_false] at active
    split
    next known =>
      rw [Bool.and_eq_true, decide_eq_true_eq] at known
      refine .again active ?_
      rw [AcuUserBin.last, if_pos known.1, known.2]
    next fresh =>
      rw [if_neg fresh] at accepted
      have other : store.userbin.last ≠ some index := by
        intro same
        unfold AcuUserBin.last at same
        split at same
        next numbered =>
          cases same
          simp [numbered] at fresh
        next => cases same
      split
      next skips =>
        rw [if_pos skips] at accepted
        exact absurd rfl accepted
      next follows =>
        rw [if_neg follows] at accepted
        split
        next long =>
          rw [if_pos long] at accepted
          exact absurd rfl accepted
        next fits =>
          obtain ⟨record, parsedOk, parsedBad, fed⟩ :=
            feedRecords_userbin chunk.length store chunk
          split
          next all =>
            rw [fed] at all
            exact .completed (userbinFinish_active _) ⟨other, all⟩
          next more =>
            rw [fed] at more
            refine .processed ?_ rfl fun all => more all.2
            rw [fed]
            exact active

/-- Without an upload a chunk is refused. -/
theorem userbinContinue_inactive {store : UserStore} (inactive : store.userbin.active = false)
    (index : UInt16) (chunk : Bytes) :
    userbinContinue store index chunk = (.failed, store) := by
  unfold userbinContinue
  rw [if_pos inactive]

/-! ### Sending the answer -/

/-- Sending keeps the client and its upload, or loses both. -/
def SendsKept (before after : Link) : Prop :=
  (after.store = before.store ∧ after.conn.clientFd = before.conn.clientFd) ∨
    (userbinInProgress after.store = false ∧ before.conn.clientFd.isSome ∧
      after.conn.clientFd = none)

theorem FlushResult.sendsKept {link flushed : Link} (result : FlushResult link flushed)
    (attached : link.userbinAttached = true) : SendsKept link flushed := by
  cases result with
  | offline absent =>
      refine .inl ⟨rfl, ?_⟩
      unfold resetSendBuf
      split <;> rfl
  | drained => exact .inl ⟨rfl, rfl⟩
  | blocked => exact .inl ⟨rfl, rfl⟩
  | dropped _ connected => exact .inr ⟨netDropClient_discards attached, connected, rfl⟩

theorem netQueueSend_sendsKept {link : Link} (attached : link.userbinAttached = true)
    (out : Bytes) : SendsKept link (netQueueSend link out).2 := by
  have result := netQueueSend_result link out
  revert result
  generalize netQueueSend link out = queued
  intro result
  cases result with
  | offline => exact .inl ⟨rfl, rfl⟩
  | full => exact .inl ⟨rfl, clientFd_compactSendBuf _⟩
  | flushed _ _ result =>
      have kept := result.sendsKept attached
      simpa only [SendsKept, Link.withReply, clientFd_compactSendBuf] using kept

theorem sendAck_sendsKept {s : NetSys} (attached : s.link.userbinAttached = true)
    (hdr : IdtiHeader) (ack : UInt8) : SendsKept s.link (sendAck s hdr ack).link := by
  unfold sendAck sendBack sendResponse
  split
  next => exact .inl ⟨rfl, rfl⟩
  next => exact netQueueSend_sendsKept attached _

/-! ### One request twice -/

/-- A Continue that comes again is answered Success, and neither the roster nor the
reported result changes. -/
structure ResentSafely (s : NetSys) (hdr : IdtiHeader) (pkt : Memory) : Prop where
  success : (userbinReceive s hdr pkt false).1 = idtiAckSuccess
  roster : (userbinReceive s hdr pkt false).2.link.store.users.roster =
    s.link.store.users.roster
  result : userbinResultEvent (userbinReceive s hdr pkt false).2.link.store =
    userbinResultEvent s.link.store
  events : (userbinReceive s hdr pkt false).2.events = s.events

/-- The index and the bytes of a Continue. -/
def chunkIndex (pkt : Memory) : UInt16 :=
  (packetData pkt).be16At 0

def chunkBytes (hdr : IdtiHeader) (pkt : Memory) : Bytes :=
  (packetData pkt).read 2 (hdr.dataLen - 2)

/-- A Continue that is answered Success has been processed. -/
theorem userbinReceive_success {s : NetSys} {hdr : IdtiHeader} {pkt : Memory}
    (success : (userbinReceive s hdr pkt false).1 = idtiAckSuccess) :
    s.link.userbinAttached = true ∧ ¬ hdr.dataLen < 2 ∧
      (userbinContinue s.link.store (chunkIndex pkt) (chunkBytes hdr pkt)).1 ≠ .failed ∧
      (userbinReceive s hdr pkt false).2.link.store =
        (userbinContinue s.link.store (chunkIndex pkt) (chunkBytes hdr pkt)).2 := by
  unfold userbinReceive at success ⊢
  simp only [Bool.false_eq_true, if_false] at success ⊢
  split at success
  next => cases success
  next attached =>
    split at success
    next => cases success
    next long =>
      rw [if_neg attached, if_neg long]
      refine ⟨by simpa using attached, long, ?_, ?_⟩
      · intro failed
        have refused : (userbinContinue s.link.store ((packetData pkt).be16At 0)
            ((packetData pkt).read 2 (hdr.dataLen - 2))).1 = .failed := failed
        rw [refused] at success
        cases success
      · exact congrArg Link.store (userbinContinueDone_link _ _)

/-- A Continue whose chunk is known, or finds no upload. -/
theorem userbinReceive_again {s : NetSys} {hdr : IdtiHeader} {pkt : Memory}
    {status : AcuUserBinStatus} (attached : s.link.userbinAttached = true)
    (long : ¬ hdr.dataLen < 2) (unfinished : status ≠ .complete)
    (answered : userbinContinue s.link.store (chunkIndex pkt) (chunkBytes hdr pkt) =
      (status, s.link.store)) :
    userbinReceive s hdr pkt false =
      (if status = .failed then idtiAckFail else idtiAckSuccess, s) := by
  unfold chunkIndex chunkBytes at answered
  unfold userbinReceive
  simp only [attached, Bool.true_eq_false, Bool.false_eq_true, if_false, long, answered]
  rw [userbinContinueDone, if_neg unfinished]
  rfl

/-- Sending does not take the upload away from the connection. -/
theorem LinkEffect.attached {before after : Link} (effect : LinkEffect before after) :
    after.userbinAttached = before.userbinAttached := by
  have flushed : ∀ {link flushed : Link}, FlushResult link flushed →
      flushed.userbinAttached = link.userbinAttached := by
    intro link flushed result
    cases result <;> rfl
  induction effect with
  | stored link store => rfl
  | flushed link => exact flushed (netFlushSend_result link)
  | queued link data =>
      have result := netQueueSend_result link data
      revert result
      generalize netQueueSend link data = queued
      intro result
      cases result with
      | offline => rfl
      | full => rfl
      | flushed _ _ result => exact (flushed result).trans rfl
  | trans _ _ one two => exact two.trans one

/-- With its index known a Continue comes again safely. -/
theorem resentSafely_of_known {s : NetSys} {hdr : IdtiHeader} {pkt : Memory}
    (attached : s.link.userbinAttached = true) (long : ¬ hdr.dataLen < 2)
    (active : s.link.store.userbin.active = true)
    (last : s.link.store.userbin.last = some (chunkIndex pkt)) : ResentSafely s hdr pkt := by
  have answered := userbinReceive_again attached long (by decide)
    (userbinContinue_known active last (chunkBytes hdr pkt))
  constructor
  · rw [answered]
    rfl
  · rw [answered]
  · rw [answered]
  · rw [answered]

/-- Without an upload it is refused. -/
theorem not_resentSafely_of_inactive {s : NetSys} {hdr : IdtiHeader} {pkt : Memory}
    (inactive : s.link.store.userbin.active = false) : ¬ ResentSafely s hdr pkt := by
  intro safely
  obtain ⟨_, _, accepted, _⟩ := userbinReceive_success safely.success
  rw [userbinContinue_inactive inactive] at accepted
  exact accepted rfl

/-- After a Continue was answered, a store without upload or the one it left, whether
sending the answer failed or not. -/
theorem handleRequest_store {s : NetSys} {hdr : IdtiHeader} {pkt : Memory}
    (more : hdr.IsUploadContinue)
    (attached : s.link.userbinAttached = true) :
    (SendFailed s.link (handleRequest s hdr pkt).link ∧
        userbinInProgress (handleRequest s hdr pkt).link.store = false) ∨
      (¬ SendFailed s.link (handleRequest s hdr pkt).link ∧
        (handleRequest s hdr pkt).link.store =
          (userbinReceive (requestTimeSync s hdr pkt) hdr pkt false).2.link.store) := by
  have outcome := (handleRequest_link s hdr pkt).summary.outcome
  have same : (requestTimeSync s hdr pkt).link = s.link := by rw [requestTimeSync_eq]
  have noStart : (hdr.object == idtiObjUserbinStart) = false := by
    rw [more.1]
    rfl
  obtain ⟨link, _⟩ := userbinReceive_store (requestTimeSync s hdr pkt) hdr pkt false more.2
    (by intro start; cases start)
  have received : (userbinReceive (requestTimeSync s hdr pkt) hdr pkt false).2.link.conn =
      s.link.conn := by
    rw [link, same]
  have owned : (userbinReceive (requestTimeSync s hdr pkt) hdr pkt false).2.link.userbinAttached =
      true := by
    rw [link, same]
    exact attached
  have handled := @handleRequest_upload s hdr pkt (.inr more.1) more.2
  rw [noStart] at handled
  have kept := sendAck_sendsKept owned hdr
    (userbinReceive (requestTimeSync s hdr pkt) hdr pkt false).1
  rw [← handled, SendsKept, received] at kept
  rcases outcome with fine | dropped
  · refine .inr ⟨fine.noFailure, ?_⟩
    rcases kept with ⟨store, _⟩ | ⟨_, connected, gone⟩
    · exact store
    · rw [fine.clientFd] at gone
      rw [gone] at connected
      cases connected
  · refine .inl ⟨dropped.failed, ?_⟩
    rcases kept with ⟨_, client⟩ | ⟨ended, _⟩
    · have connected := dropped.connected
      rw [← client, dropped.gone] at connected
      cases connected
    · exact ended

/-! ### The promise for retransmissions -/

/-- A Continue that was answered Success may come again exactly when its chunk did not
complete the upload and sending the answer did not end the connection. -/
theorem resent_safely_iff (s : NetSys) (hdr : IdtiHeader) (pkt : Memory)
    (more : hdr.IsUploadContinue)
    (processed : (userbinReceive (requestTimeSync s hdr pkt) hdr pkt false).1 = idtiAckSuccess) :
    ResentSafely (requestTimeSync (handleRequest s hdr pkt) hdr pkt) hdr pkt ↔
      ¬ s.link.store.userbin.CompletedBy (chunkIndex pkt) (chunkBytes hdr pkt) ∧
        ¬ SendFailed s.link (handleRequest s hdr pkt).link := by
  have same : (requestTimeSync s hdr pkt).link = s.link := by rw [requestTimeSync_eq]
  have later : (requestTimeSync (handleRequest s hdr pkt) hdr pkt).link =
      (handleRequest s hdr pkt).link := by rw [requestTimeSync_eq]
  obtain ⟨attached, long, accepted, store⟩ := userbinReceive_success processed
  rw [same] at attached accepted store
  rcases handleRequest_store more attached with ⟨failed, ended⟩ | ⟨fine, kept⟩
  · have refused : ¬ ResentSafely (requestTimeSync (handleRequest s hdr pkt) hdr pkt) hdr pkt := by
      apply not_resentSafely_of_inactive
      rw [later]
      exact ended
    exact iff_of_false refused fun both => both.2 failed
  · rw [store] at kept
    have owned : (requestTimeSync (handleRequest s hdr pkt) hdr pkt).link.userbinAttached =
        true := by
      rw [later]
      exact (handleRequest_link s hdr pkt).attached.trans attached
    have taken := userbinContinue_cases accepted
    generalize userbinContinue s.link.store (chunkIndex pkt) (chunkBytes hdr pkt) = result
      at taken kept
    rw [← later] at kept
    cases taken with
    | again active last =>
        have safely := resentSafely_of_known owned long (by rw [kept]; exact active)
          (by rw [kept]; exact last)
        exact iff_of_true safely ⟨fun all => all.1 last, fine⟩
    | processed active last more =>
        have safely := resentSafely_of_known owned long (by rw [kept]; exact active)
          (by rw [kept]; exact last)
        exact iff_of_true safely ⟨more, fine⟩
    | completed ended all =>
        have refused := @not_resentSafely_of_inactive
          (requestTimeSync (handleRequest s hdr pkt) hdr pkt) hdr pkt (by rw [kept]; exact ended)
        exact iff_of_false refused fun both => both.1 all

/-- The only chunk of an upload of one record. -/
def wholeChunkRequest : Bytes :=
  plainRequest idtiCmdSndData idtiSubcmdWrite idtiObjUserbinContinue
    ([0, 0] ++ List.replicate 128 0)

/-- The request of the only chunk, in the state in which it arrives. -/
def wholeChunkArrives : Option (NetSys × IdtiHeader) := do
  let daemon ← mainStart (StartUp.first fun _ => .accepted 4096)
  let started ← run Daemon.step daemon [.connect 8, .receive uploadStartRequest]
  let hdr ← idtiHeaderParse (Memory.ofBytes wholeChunkRequest) wholeChunkRequest.length
  pure (started.sys, hdr)

theorem resent_safely_iff_whole :
    ∃ s hdr, wholeChunkArrives = some (s, hdr) ∧
      (ResentSafely (requestTimeSync (handleRequest s hdr (Memory.ofBytes wholeChunkRequest)) hdr
          (Memory.ofBytes wholeChunkRequest)) hdr (Memory.ofBytes wholeChunkRequest) ↔
        ¬ s.link.store.userbin.CompletedBy (chunkIndex (Memory.ofBytes wholeChunkRequest))
            (chunkBytes hdr (Memory.ofBytes wholeChunkRequest)) ∧
          ¬ SendFailed s.link
            (handleRequest s hdr (Memory.ofBytes wholeChunkRequest)).link) := by
  have measured : wholeChunkArrives.map (fun arrived =>
      (arrived.2.object, arrived.2.isRequest idtiCmdSndData idtiSubcmdWrite,
        (userbinReceive (requestTimeSync arrived.1 arrived.2 (Memory.ofBytes wholeChunkRequest))
          arrived.2 (Memory.ofBytes wholeChunkRequest) false).1)) =
      some (idtiObjUserbinContinue, true, idtiAckSuccess) := by decide +kernel
  obtain ⟨⟨s, hdr⟩, arrives, facts⟩ := Option.map_eq_some_iff.mp measured
  simp only [Prod.mk.injEq] at facts
  obtain ⟨object, write, processed⟩ := facts
  exact ⟨s, hdr, arrives, resent_safely_iff s hdr _ ⟨object, write⟩ processed⟩

/-- The chunk that completes an upload is answered Success, the client stays connected,
and when the chunk comes again it is answered Fail. -/
theorem last_chunk_refused :
    ∃ s hdr, wholeChunkArrives = some (s, hdr) ∧ hdr.IsUploadContinue ∧
      (userbinReceive (requestTimeSync s hdr (Memory.ofBytes wholeChunkRequest)) hdr
        (Memory.ofBytes wholeChunkRequest) false).1 = idtiAckSuccess ∧
      netIsConnected (handleRequest s hdr (Memory.ofBytes wholeChunkRequest)).link = true ∧
      ¬ ResentSafely (requestTimeSync (handleRequest s hdr (Memory.ofBytes wholeChunkRequest)) hdr
        (Memory.ofBytes wholeChunkRequest)) hdr (Memory.ofBytes wholeChunkRequest) := by
  have measured : wholeChunkArrives.map (fun arrived =>
      (arrived.2.object, arrived.2.isRequest idtiCmdSndData idtiSubcmdWrite,
        (userbinReceive (requestTimeSync arrived.1 arrived.2 (Memory.ofBytes wholeChunkRequest))
          arrived.2 (Memory.ofBytes wholeChunkRequest) false).1,
        netIsConnected
          (handleRequest arrived.1 arrived.2 (Memory.ofBytes wholeChunkRequest)).link,
        (userbinReceive (requestTimeSync
            (handleRequest arrived.1 arrived.2 (Memory.ofBytes wholeChunkRequest)) arrived.2
            (Memory.ofBytes wholeChunkRequest))
          arrived.2 (Memory.ofBytes wholeChunkRequest) false).1)) =
      some (idtiObjUserbinContinue, true, idtiAckSuccess, true, idtiAckFail) := by
    decide +kernel
  obtain ⟨⟨s, hdr⟩, arrives, facts⟩ := Option.map_eq_some_iff.mp measured
  simp only [Prod.mk.injEq] at facts
  obtain ⟨object, write, processed, connected, refused⟩ := facts
  refine ⟨s, hdr, arrives, ⟨object, write⟩, processed, connected, fun safely => ?_⟩
  have success := safely.success
  rw [refused] at success
  cases success

end Acud
