/-
Module: Acud.Proofs.SendQueue
Purpose: What a flush, a queued reply and a whole request can do to a link.
Trusted boundary: none
Main exports:
  SendRounds, FlushEnds, flushLoop_ends, netFlushSend_result, netQueueSend_result,
  SendSummary, netFlushSend_summary, netQueueSend_summary
-/
import Acud.Link
import Mathlib.Data.List.Basic

namespace Acud

open Lib

/-!
`net_flush_send` has three exits, and every later argument about the connection
is about which of them was taken.

* `FlushEnds` says what each exit means: the queue is empty, the socket asked to
  be tried again, or the connection was dropped.
* `SendSummary` forgets the buffers and keeps what a whole request can have done:
  the connection is kept and no `send` failed, or it was dropped by a `send` that
  did.  Summaries compose, so each handler has one.
-/

/-! ### One `send` -/

/-- What one `send` of a non-empty buffer does. -/
theorem Socket.send_cases (sock : Socket) {data : Bytes} (nonempty : 0 < data.length) :
    (∃ bytes, 0 < bytes ∧ bytes ≤ data.length ∧
      (∃ answer, 0 < answer ∧ sock.answers sock.calls = .accepted answer) ∧
      sock.send data =
        (.sent bytes,
          { sock with
            calls := sock.calls + 1
            wire := sock.wire ++ data.take bytes })) ∨
    (sock.answers sock.calls = .again ∧
      sock.send data = (.retry, { sock with calls := sock.calls + 1 })) ∨
    ((sock.answers sock.calls).isError = true ∧
      sock.send data = (.failed, { sock with calls := sock.calls + 1 })) := by
  unfold Socket.send
  cases answer : sock.answers sock.calls with
  | accepted bytes =>
      by_cases positive : 0 < bytes
      · have taken : min bytes data.length > 0 := by omega
        refine .inl ⟨min bytes data.length, taken, by omega, ⟨bytes, positive, rfl⟩, ?_⟩
        simp only [taken, ↓reduceIte]
        rw [List.take_eq_take_min]
      · have none : bytes = 0 := by omega
        subst none
        exact .inr (.inr ⟨rfl, by simp⟩)
  | again => exact .inr (.inl ⟨rfl, rfl⟩)
  | error => exact .inr (.inr ⟨rfl, rfl⟩)

/-! ### The rounds of a flush -/

/-- The link after the socket took bytes up to the offset `off`. -/
def Link.sentTo (link : Link) (sock : Socket) (off : Nat) : Link :=
  { link with
    sock := sock
    conn := { link.conn with sendOff := off } }

/-- The socket after a `send` that took nothing. -/
def Socket.asked (sock : Socket) : Socket :=
  { sock with calls := sock.calls + 1 }

/-- Rounds in which every `send` took bytes lead from the link's socket and
offset to `sock` and `off`. -/
structure SendRounds (link : Link) (sock : Socket) (off : Nat) : Prop where
  answers : sock.answers = link.sock.answers
  calls : link.sock.calls ≤ sock.calls
  accepted : ∀ call, link.sock.calls ≤ call → call < sock.calls →
    ∃ bytes, 0 < bytes ∧ link.sock.answers call = .accepted bytes
  from_off : link.conn.sendOff ≤ off
  progress : sock.calls = link.sock.calls → off = link.conn.sendOff
  within : link.conn.sendOff ≤ link.conn.sendLen → off ≤ link.conn.sendLen
  wire : sock.wire =
    link.sock.wire ++
      link.conn.sendBuf.read link.conn.sendOff (off - link.conn.sendOff)

theorem SendRounds.refl (link : Link) :
    SendRounds link link.sock link.conn.sendOff :=
  { answers := rfl
    calls := Nat.le_refl _
    accepted := fun call first last => absurd last (Nat.not_lt.mpr first)
    from_off := Nat.le_refl _
    progress := fun _ => rfl
    within := id
    wire := by simp }

/-- One more round in front. -/
theorem SendRounds.cons {link : Link} {bytes answer off : Nat} {sock : Socket}
    (room : bytes ≤ link.conn.sendLen - link.conn.sendOff)
    (left : link.conn.sendOff < link.conn.sendLen)
    (positive : 0 < answer)
    (answered : link.sock.answers link.sock.calls = .accepted answer)
    (later : SendRounds
      (link.sentTo
        { link.sock with
          calls := link.sock.calls + 1
          wire := link.sock.wire ++ link.conn.unsent.take bytes }
        (link.conn.sendOff + bytes))
      sock off) :
    SendRounds link sock off := by
  have reached : link.conn.sendOff + bytes ≤ off := later.from_off
  have called : link.sock.calls + 1 ≤ sock.calls := later.calls
  refine
    { answers := later.answers
      calls := by omega
      accepted := ?_
      from_off := by omega
      progress := fun same => by omega
      within := fun _ => later.within (by simp only [Link.sentTo]; omega)
      wire := ?_ }
  · intro call first last
    by_cases now : call = link.sock.calls
    · exact ⟨answer, positive, now ▸ answered⟩
    · exact later.accepted call (by simp only [Link.sentTo]; omega) last
  · have first : link.conn.unsent.take bytes =
        link.conn.sendBuf.read link.conn.sendOff bytes := by
      have split := link.conn.sendBuf.read_add link.conn.sendOff bytes
        (link.conn.sendLen - link.conn.sendOff - bytes)
      rw [Nat.add_sub_cancel' room] at split
      rw [ClientConn.unsent, split, List.take_left' (by simp)]
    have slice := link.conn.sendBuf.read_add link.conn.sendOff bytes
      (off - (link.conn.sendOff + bytes))
    rw [later.wire]
    simp only [Link.sentTo, first, List.append_assoc]
    rw [← slice]
    congr 2
    omega

/-- What each exit of the loop in `net_flush_send` means. -/
inductive FlushEnds (link : Link) : FlushExit → Link → Prop where
  | drained {sock : Socket} {off : Nat} (rounds : SendRounds link sock off)
      (finished : link.conn.clientFd.isSome → link.conn.sendLen ≤ off)
      (idle : link.conn.clientFd = none →
        sock = link.sock ∧ off = link.conn.sendOff) :
      FlushEnds link .drained (link.sentTo sock off)
  | blocked {sock : Socket} {off : Nat} (rounds : SendRounds link sock off)
      (connected : link.conn.clientFd.isSome) (left : off < link.conn.sendLen)
      (again : link.sock.answers sock.calls = .again) :
      FlushEnds link .blocked (link.sentTo sock.asked off)
  | dropped {sock : Socket} {off : Nat} (rounds : SendRounds link sock off)
      (connected : link.conn.clientFd.isSome) (left : off < link.conn.sendLen)
      (failed : (link.sock.answers sock.calls).isError = true) :
      FlushEnds link .dropped (netDropClient (link.sentTo sock.asked off))

/-- As many rounds as there are unsent bytes reach one of the three exits. -/
theorem flushLoop_ends (rounds : Nat) (link : Link)
    (enough : link.conn.sendLen - link.conn.sendOff ≤ rounds) :
    FlushEnds link (flushLoop rounds link).1 (flushLoop rounds link).2 := by
  induction rounds generalizing link with
  | zero =>
      have empty : link.conn.sendLen ≤ link.conn.sendOff := by omega
      exact .drained (.refl link) (fun _ => empty) (fun _ => ⟨rfl, rfl⟩)
  | succ rounds inductionHypothesis =>
      rw [flushLoop]
      split
      next going =>
        obtain ⟨connected, left⟩ := going
        have nonempty : 0 < link.conn.unsent.length := by
          simp only [ClientConn.unsent, Memory.length_read]
          omega
        rcases link.sock.send_cases nonempty with
          ⟨bytes, taken, room, ⟨answer, positive, answered⟩, sent⟩ |
          ⟨again, sent⟩ | ⟨failed, sent⟩
        · rw [sent]
          simp only [ClientConn.unsent, Memory.length_read] at room
          -- the rest of the loop ends as it does from the state after this round
          have later := inductionHypothesis
            (link.sentTo
              { link.sock with
                calls := link.sock.calls + 1
                wire := link.sock.wire ++ link.conn.unsent.take bytes }
              (link.conn.sendOff + bytes))
            (by simp only [Link.sentTo]; omega)
          change FlushEnds link (flushLoop rounds (link.sentTo _ _)).1
            (flushLoop rounds (link.sentTo _ _)).2
          revert later
          generalize flushLoop rounds (link.sentTo _ _) = ended
          rcases ended with ⟨exit, final⟩
          intro later
          cases later with
          | drained more finished idle =>
              refine .drained (more.cons room left positive answered) finished ?_
              intro absent
              rw [absent] at connected
              cases connected
          | blocked more connected left' again =>
              exact .blocked (more.cons room left positive answered) connected left' again
          | dropped more connected left' failed =>
              exact .dropped (more.cons room left positive answered) connected left' failed
        · rw [sent]
          exact .blocked (.refl link) connected left again
        · rw [sent]
          exact .dropped (.refl link) connected left failed
      next stopped =>
        refine .drained (.refl link) ?_ (fun _ => ⟨rfl, rfl⟩)
        intro connected
        exact Nat.le_of_not_lt fun left => stopped ⟨connected, left⟩

/-! ### The result of a flush -/

/-- The link after the whole queue was sent on `fd`. -/
def Link.drained (link : Link) (fd : Nat) (sock : Socket) : Link :=
  { link with
    sock := sock
    conn := { link.conn with sendLen := 0, sendOff := 0 }
    loop := (loopMod link.loop fd LoopInterest.readOnly).getD link.loop }

/-- What `net_flush_send` leaves. -/
inductive FlushResult (link : Link) : Link → Prop where
  | offline (absent : link.conn.clientFd = none) :
      FlushResult link { link with conn := resetSendBuf link.conn }
  | drained {fd : Nat} {sock : Socket} {off : Nat} (rounds : SendRounds link sock off)
      (connected : link.conn.clientFd = some fd) (finished : link.conn.sendLen ≤ off) :
      FlushResult link (link.drained fd sock)
  | blocked {sock : Socket} {off : Nat} (rounds : SendRounds link sock off)
      (connected : link.conn.clientFd.isSome) (left : off < link.conn.sendLen)
      (again : link.sock.answers sock.calls = .again) :
      FlushResult link (link.sentTo sock.asked off)
  | dropped {sock : Socket} {off : Nat} (rounds : SendRounds link sock off)
      (connected : link.conn.clientFd.isSome) (left : off < link.conn.sendLen)
      (failed : (link.sock.answers sock.calls).isError = true) :
      FlushResult link (netDropClient (link.sentTo sock.asked off))

theorem flushDone_offline (link : Link) (absent : link.conn.clientFd = none) :
    flushDone link = { link with conn := resetSendBuf link.conn } := by
  unfold flushDone resetSendBuf
  split <;> simp [absent]

theorem flushDone_finished {link : Link} {fd : Nat}
    (connected : link.conn.clientFd = some fd)
    (finished : link.conn.sendLen ≤ link.conn.sendOff) :
    flushDone link = link.drained fd link.sock := by
  simp [flushDone, resetSendBuf, finished, connected, Link.drained,
    LoopInterest.readOnly]

theorem netFlushSend_result (link : Link) : FlushResult link (netFlushSend link) := by
  have ends := flushLoop_ends (link.conn.sendLen - link.conn.sendOff) link (Nat.le_refl _)
  unfold netFlushSend
  revert ends
  generalize flushLoop (link.conn.sendLen - link.conn.sendOff) link = ended
  rcases ended with ⟨exit, flushed⟩
  intro ends
  cases ends with
  | blocked rounds connected left again => exact .blocked rounds connected left again
  | dropped rounds connected left failed => exact .dropped rounds connected left failed
  | @drained sock off rounds finished idle =>
      cases client : link.conn.clientFd with
      | none =>
          obtain ⟨rfl, rfl⟩ := idle client
          have result := FlushResult.offline client
          rwa [← flushDone_offline link client] at result
      | some fd =>
          have all : link.conn.sendLen ≤ off := finished (by simp [client])
          have result := FlushResult.drained rounds client all
          have same : flushDone (link.sentTo sock off) = link.drained fd sock :=
            flushDone_finished client all
          rwa [← same] at result

/-! ### The result of queueing a reply -/

/-- The link with a reply behind the unsent bytes. -/
def Link.withReply (link : Link) (data : Bytes) : Link :=
  { link with
    conn :=
      { compactSendBuf link.conn with
        sendBuf := (compactSendBuf link.conn).sendBuf.write
          (compactSendBuf link.conn).sendLen data
        sendLen := (compactSendBuf link.conn).sendLen + data.length } }

theorem compactSendBuf_eq (conn : ClientConn) :
    compactSendBuf conn =
      { conn with
        sendBuf := (compactSendBuf conn).sendBuf
        sendLen := conn.sendLen - conn.sendOff
        sendOff := 0 } := by
  unfold compactSendBuf
  split
  next => rfl
  next none =>
    have zero : conn.sendOff = 0 := by omega
    rw [zero, Nat.sub_zero, ← zero]

@[simp] theorem clientFd_compactSendBuf (conn : ClientConn) :
    (compactSendBuf conn).clientFd = conn.clientFd := by
  rw [compactSendBuf_eq]

@[simp] theorem recvLen_compactSendBuf (conn : ClientConn) :
    (compactSendBuf conn).recvLen = conn.recvLen := by
  rw [compactSendBuf_eq]

@[simp] theorem sendLen_compactSendBuf (conn : ClientConn) :
    (compactSendBuf conn).sendLen = conn.sendLen - conn.sendOff := by
  rw [compactSendBuf_eq]

@[simp] theorem sendOff_compactSendBuf (conn : ClientConn) :
    (compactSendBuf conn).sendOff = 0 := by
  rw [compactSendBuf_eq]

/-- Moving the queue to the front keeps its bytes. -/
theorem unsent_compactSendBuf (conn : ClientConn) :
    (compactSendBuf conn).unsent = conn.unsent := by
  unfold compactSendBuf
  split
  next => simp [ClientConn.unsent]
  next => rfl

/-- A queued reply comes behind what was unsent. -/
theorem unsent_withReply (link : Link) (data : Bytes) :
    (link.withReply data).conn.unsent = link.conn.unsent ++ data := by
  have appended := (compactSendBuf link.conn).sendBuf.read_write_append 0
    (compactSendBuf link.conn).sendLen data
  rw [← unsent_compactSendBuf link.conn]
  simpa [Link.withReply, ClientConn.unsent] using appended

/-- What `net_queue_send` answers and leaves. -/
inductive QueueResult (link : Link) (data : Bytes) : Bool × Link → Prop where
  | offline (absent : link.conn.clientFd = none) : QueueResult link data (false, link)
  | full (connected : link.conn.clientFd.isSome)
      (full : netSendBufCap < link.conn.unsent.length + data.length) :
      QueueResult link data (false, { link with conn := compactSendBuf link.conn })
  | flushed {flushed : Link} (connected : link.conn.clientFd.isSome)
      (room : link.conn.unsent.length + data.length ≤ netSendBufCap)
      (result : FlushResult (link.withReply data) flushed) :
      QueueResult link data (true, flushed)

theorem netQueueSend_result (link : Link) (data : Bytes) :
    QueueResult link data (netQueueSend link data) := by
  have queued : (compactSendBuf link.conn).sendLen = link.conn.unsent.length := by
    simp [ClientConn.unsent]
  unfold netQueueSend
  split
  next absent => exact .offline absent
  next present =>
    have connected := Option.isSome_iff_ne_none.mpr present
    simp only [queued]
    split
    next full => exact .full connected full
    next room =>
      refine .flushed connected (Nat.le_of_not_lt room) ?_
      have result := netFlushSend_result (link.withReply data)
      simpa only [Link.withReply, queued] using result

/-! ### Summaries -/

/-- A connected client has bytes in the queue that the socket did not take. -/
def Link.Waiting (link : Link) : Prop :=
  link.conn.clientFd.isSome ∧ link.conn.sendOff < link.conn.sendLen

/-- A connected client is watched for input and for nothing else. -/
def Link.WatchesInput (link : Link) : Prop :=
  ∀ fd, link.conn.clientFd = some fd →
    link.loop.interest fd = some LoopInterest.readOnly

/-- A `send` made between two states of a link failed. -/
def SendFailed (before after : Link) : Prop :=
  ∃ call, before.sock.calls ≤ call ∧ call < after.sock.calls ∧
    (before.sock.answers call).isError = true

/-- The last `send` made between two states of a link asked to be tried again. -/
def LastSendBlocked (before after : Link) : Prop :=
  before.sock.calls < after.sock.calls ∧
    before.sock.answers (after.sock.calls - 1) = .again

/-- The connection, or its absence, is the same and no `send` failed. -/
structure SendKept (before after : Link) : Prop where
  clientFd : after.conn.clientFd = before.conn.clientFd
  noFailure : ¬ SendFailed before after
  watches : before.WatchesInput → after.WatchesInput
  waiting : after.Waiting →
    (after.sock.calls = before.sock.calls ∧ before.Waiting) ∨
      LastSendBlocked before after
  idle : after.sock.calls = before.sock.calls → before.Waiting → after.Waiting
  blocked : LastSendBlocked before after → after.Waiting

/-- A `send` failed and the connection was closed. -/
structure SendDropped (before after : Link) : Prop where
  connected : before.conn.clientFd.isSome
  gone : after.conn.clientFd = none
  failed : SendFailed before after

/-- What sending replies between two states of a link can have done. -/
structure SendSummary (before after : Link) : Prop where
  answers : after.sock.answers = before.sock.answers
  calls : before.sock.calls ≤ after.sock.calls
  outcome : SendKept before after ∨ SendDropped before after

section Failures

variable {before middle after : Link}

theorem SendFailed.extend_right (failed : SendFailed before middle)
    (calls : middle.sock.calls ≤ after.sock.calls) : SendFailed before after := by
  obtain ⟨call, first, last, error⟩ := failed
  exact ⟨call, first, by omega, error⟩

theorem SendFailed.extend_left (failed : SendFailed middle after)
    (answers : middle.sock.answers = before.sock.answers)
    (calls : before.sock.calls ≤ middle.sock.calls) : SendFailed before after := by
  obtain ⟨call, first, last, error⟩ := failed
  exact ⟨call, by omega, last, answers ▸ error⟩

/-- A failure happened in one of two successive parts. -/
theorem SendFailed.split (failed : SendFailed before after)
    (answers : middle.sock.answers = before.sock.answers) :
    SendFailed before middle ∨ SendFailed middle after := by
  obtain ⟨call, first, last, error⟩ := failed
  by_cases early : call < middle.sock.calls
  · exact .inl ⟨call, first, early, error⟩
  · exact .inr ⟨call, by omega, last, answers ▸ error⟩

theorem LastSendBlocked.extend_left (blocked : LastSendBlocked middle after)
    (answers : middle.sock.answers = before.sock.answers)
    (calls : before.sock.calls ≤ middle.sock.calls) : LastSendBlocked before after :=
  ⟨by have := blocked.1; omega, answers ▸ blocked.2⟩

theorem SendRounds.not_failed {link : Link} {sock : Socket} {off : Nat}
    (rounds : SendRounds link sock off) {call : Nat} (first : link.sock.calls ≤ call)
    (last : call < sock.calls) : (link.sock.answers call).isError = false := by
  obtain ⟨bytes, positive, accepted⟩ := rounds.accepted call first last
  rw [accepted]
  simp only [SendAnswer.isError, beq_eq_false_iff_ne]
  omega

end Failures

/-- Between two states in which nothing was sent and as much is waiting. -/
theorem SendSummary.silent {before after : Link} (sock : after.sock = before.sock)
    (loop : after.loop = before.loop)
    (clientFd : after.conn.clientFd = before.conn.clientFd)
    (waiting : after.Waiting ↔ before.Waiting) : SendSummary before after := by
  refine
    { answers := by rw [sock]
      calls := by rw [sock]
      outcome := .inl ?_ }
  have calls : after.sock.calls = before.sock.calls := by rw [sock]
  refine
    { clientFd := clientFd
      noFailure := ?_
      watches := ?_
      waiting := fun left => .inl ⟨calls, waiting.mp left⟩
      idle := fun _ left => waiting.mpr left
      blocked := fun blocked => absurd blocked.1 (by rw [calls]; exact Nat.lt_irrefl _) }
  · rintro ⟨call, first, last, _⟩
    omega
  · intro watches fd present
    rw [loop]
    exact watches fd (clientFd ▸ present)

/-- Changing nothing but the roster store sends nothing. -/
theorem SendSummary.stored (link : Link) (store : UserStore) :
    SendSummary link { link with store := store } :=
  .silent rfl rfl rfl Iff.rfl

theorem SendSummary.refl (link : Link) : SendSummary link link :=
  .stored link link.store

theorem SendKept.trans {first second third : Link}
    (answers : second.sock.answers = first.sock.answers)
    (callsOne : first.sock.calls ≤ second.sock.calls)
    (callsTwo : second.sock.calls ≤ third.sock.calls)
    (one : SendKept first second) (two : SendKept second third) :
    SendKept first third := by
  refine
    { clientFd := two.clientFd.trans one.clientFd
      noFailure := fun failed => (failed.split answers).elim one.noFailure two.noFailure
      watches := fun watches => two.watches (one.watches watches)
      waiting := ?_
      idle := fun same waiting => two.idle (by omega) (one.idle (by omega) waiting)
      blocked := ?_ }
  · intro waiting
    rcases two.waiting waiting with ⟨same, earlier⟩ | blocked
    · rcases one.waiting earlier with ⟨sameBefore, first⟩ | blocked
      · exact .inl ⟨same.trans sameBefore, first⟩
      · exact .inr ⟨same ▸ blocked.1, same ▸ blocked.2⟩
    · exact .inr (blocked.extend_left answers callsOne)
  · intro blocked
    by_cases later : second.sock.calls < third.sock.calls
    · exact two.blocked ⟨later, answers ▸ blocked.2⟩
    · have same : third.sock.calls = second.sock.calls := by omega
      exact two.idle same (one.blocked ⟨same ▸ blocked.1, same ▸ blocked.2⟩)

/-- A connection that is gone stays gone: nothing is sent without it. -/
theorem SendSummary.trans {first second third : Link}
    (one : SendSummary first second) (two : SendSummary second third) :
    SendSummary first third := by
  refine
    { answers := two.answers.trans one.answers
      calls := one.calls.trans two.calls
      outcome := ?_ }
  rcases one.outcome with kept | dropped
  · rcases two.outcome with keptToo | dropped
    · exact .inl (kept.trans one.answers one.calls two.calls keptToo)
    · exact .inr
        { connected := kept.clientFd ▸ dropped.connected
          gone := dropped.gone
          failed := dropped.failed.extend_left one.answers one.calls }
  · rcases two.outcome with kept | droppedAgain
    · exact .inr
        { connected := dropped.connected
          gone := kept.clientFd.trans dropped.gone
          failed := dropped.failed.extend_right two.calls }
    · have connected := droppedAgain.connected
      rw [dropped.gone] at connected
      cases connected

/-- `loop_mod` to reading only keeps a registration that reads only, also when it
has no effect. -/
theorem interest_loopMod_getD {loop : AcuLoop LoopCallback} {fd : Nat}
    (watched : loop.interest fd = some LoopInterest.readOnly) :
    ((loopMod loop fd LoopInterest.readOnly).getD loop).interest fd =
      some LoopInterest.readOnly := by
  cases changed : loopMod loop fd LoopInterest.readOnly with
  | none => exact watched
  | some later => exact interest_loopMod changed

section Flushes

variable {base link : Link} {taken : Socket} {off : Nat}

/-- Rounds of `link`, seen from a state with the same socket. -/
theorem SendRounds.not_failed_since (rounds : SendRounds link taken off)
    (sock : link.sock = base.sock) {call : Nat} (first : base.sock.calls ≤ call)
    (last : call < taken.calls) : (base.sock.answers call).isError = false := by
  rw [← sock] at first ⊢
  exact rounds.not_failed first last

theorem SendRounds.calls_since (rounds : SendRounds link taken off)
    (sock : link.sock = base.sock) : base.sock.calls ≤ taken.calls :=
  sock ▸ rounds.calls

theorem SendRounds.answers_since (rounds : SendRounds link taken off)
    (sock : link.sock = base.sock) : taken.answers = base.sock.answers :=
  rounds.answers.trans (by rw [sock])

/-- The queue is empty, and reading is watched again. -/
theorem SendRounds.drained_kept {fd : Nat} (rounds : SendRounds link taken off)
    (connected : link.conn.clientFd = some fd) (finished : link.conn.sendLen ≤ off)
    (sock : link.sock = base.sock) (loop : link.loop = base.loop)
    (clientFd : link.conn.clientFd = base.conn.clientFd)
    (queued : base.Waiting → link.Waiting) : SendKept base (link.drained fd taken) := by
  have calls := rounds.calls_since sock
  refine
    { clientFd := clientFd
      noFailure := ?_
      watches := fun watches => ?_
      waiting := fun waiting => absurd waiting.2 (Nat.lt_irrefl 0)
      idle := ?_
      blocked := ?_ }
  · rintro ⟨call, first, last, error⟩
    cases (rounds.not_failed_since sock first last).symm.trans error
  · have watched := watches fd (clientFd ▸ connected)
    rw [← loop] at watched
    intro client same
    have one : client = fd := Option.some.inj (same.symm.trans connected)
    subst one
    exact interest_loopMod_getD watched
  · intro same waiting
    have noProgress := rounds.progress (by rw [sock]; exact same)
    have left := (queued waiting).2
    omega
  · rintro ⟨more, again⟩
    change base.sock.calls < taken.calls at more
    obtain ⟨bytes, _, accepted⟩ :=
      rounds.accepted (taken.calls - 1) (by rw [sock]; omega) (by omega)
    rw [sock] at accepted
    cases again.symm.trans accepted

/-- The last `send` is to be tried again, and bytes are left. -/
theorem SendRounds.blocked_kept (rounds : SendRounds link taken off)
    (connected : link.conn.clientFd.isSome) (left : off < link.conn.sendLen)
    (again : link.sock.answers taken.calls = .again) (sock : link.sock = base.sock)
    (loop : link.loop = base.loop) (clientFd : link.conn.clientFd = base.conn.clientFd) :
    SendKept base (link.sentTo taken.asked off) := by
  have calls := rounds.calls_since sock
  refine
    { clientFd := clientFd
      noFailure := ?_
      watches := ?_
      waiting := fun _ => .inr ⟨Nat.lt_succ_of_le calls, sock ▸ again⟩
      idle := fun same => absurd same (Nat.ne_of_gt (Nat.lt_succ_of_le calls))
      blocked := fun _ => ⟨connected, left⟩ }
  · rintro ⟨call, first, last, error⟩
    change call < taken.calls + 1 at last
    rcases Nat.lt_succ_iff_lt_or_eq.mp last with before | now
    · cases (rounds.not_failed_since sock first before).symm.trans error
    · rw [now, ← sock, again] at error
      cases error
  · intro watches fd present
    have watched := watches fd (clientFd ▸ present)
    rwa [← loop] at watched

/-- A flush of `link`, seen from a state `base` with the same socket, connection
and registrations and with no more bytes in the queue. -/
theorem FlushResult.summary {flushed : Link} (result : FlushResult link flushed)
    (sock : link.sock = base.sock) (loop : link.loop = base.loop)
    (clientFd : link.conn.clientFd = base.conn.clientFd)
    (queued : base.Waiting → link.Waiting) : SendSummary base flushed := by
  cases result with
  | offline absent =>
      have same : (resetSendBuf link.conn).clientFd = link.conn.clientFd := by
        unfold resetSendBuf
        split <;> rfl
      refine .silent sock loop (same.trans clientFd) ?_
      simp [Link.Waiting, same, ← clientFd, absent]
  | drained rounds connected finished =>
      exact
        { answers := rounds.answers_since sock
          calls := rounds.calls_since sock
          outcome := .inl (rounds.drained_kept connected finished sock loop clientFd queued) }
  | blocked rounds connected left again =>
      exact
        { answers := rounds.answers_since sock
          calls := Nat.le_succ_of_le (rounds.calls_since sock)
          outcome := .inl (rounds.blocked_kept connected left again sock loop clientFd) }
  | @dropped taken off rounds connected left failed =>
      have calls := rounds.calls_since sock
      exact
        { answers := rounds.answers_since sock
          calls := Nat.le_succ_of_le calls
          outcome := .inr
            { connected := clientFd ▸ connected
              gone := rfl
              failed := ⟨taken.calls, calls, Nat.lt_succ_self _, sock ▸ failed⟩ } }

end Flushes

theorem netFlushSend_summary (link : Link) : SendSummary link (netFlushSend link) :=
  (netFlushSend_result link).summary rfl rfl rfl id

/-- A queued reply has the summary of its flush. -/
theorem netQueueSend_summary (link : Link) (data : Bytes) :
    SendSummary link (netQueueSend link data).2 := by
  have result := netQueueSend_result link data
  revert result
  generalize netQueueSend link data = queued
  intro result
  cases result with
  | offline absent => exact .refl link
  | full connected full =>
      refine .silent rfl rfl (clientFd_compactSendBuf link.conn) ?_
      simp only [Link.Waiting, clientFd_compactSendBuf, sendOff_compactSendBuf,
        sendLen_compactSendBuf, Nat.sub_pos_iff_lt]
  | flushed connected room result =>
      refine result.summary rfl rfl (clientFd_compactSendBuf link.conn) ?_
      rintro ⟨_, left⟩
      refine ⟨by simpa [Link.withReply] using connected, ?_⟩
      simp only [Link.withReply, sendOff_compactSendBuf, sendLen_compactSendBuf]
      omega

/-- Every effect on a link has a summary. -/
theorem LinkEffect.summary {before after : Link} (effect : LinkEffect before after) :
    SendSummary before after := by
  induction effect with
  | stored link store => exact .stored link store
  | queued link data => exact netQueueSend_summary link data
  | flushed link => exact netFlushSend_summary link
  | trans _ _ summaryOne summaryTwo => exact summaryOne.trans summaryTwo

/-! ### The bytes that were accepted -/

/-- A flush that keeps the connection moves bytes from the queue to the socket. -/
theorem FlushResult.conserves {link flushed : Link} (result : FlushResult link flushed)
    (ordered : link.conn.sendOff ≤ link.conn.sendLen)
    (connected : netIsConnected flushed = true) :
    flushed.sock.wire ++ flushed.conn.unsent = link.sock.wire ++ link.conn.unsent := by
  cases result with
  | offline absent =>
      unfold resetSendBuf at connected
      split at connected
      all_goals simp [netIsConnected, absent] at connected
  | drained rounds connected finished =>
      have all := Nat.le_antisymm (rounds.within ordered) finished
      subst all
      simp [Link.drained, ClientConn.unsent, rounds.wire]
  | @blocked taken off rounds connected left again =>
      have progress := rounds.from_off
      have total : off - link.conn.sendOff + (link.conn.sendLen - off) =
          link.conn.sendLen - link.conn.sendOff := by omega
      have slice := link.conn.sendBuf.read_add link.conn.sendOff
        (off - link.conn.sendOff) (link.conn.sendLen - off)
      rw [total, Nat.add_sub_cancel' progress] at slice
      simp [Link.sentTo, Socket.asked, ClientConn.unsent, rounds.wire, slice]
  | dropped => cases connected

/-- A reply that was accepted on a connection that stays is on its way: its bytes
come behind all earlier ones. -/
theorem netQueueSend_accepted {link : Link} {data : Bytes}
    (accepted : (netQueueSend link data).1 = true)
    (fine : ¬ SendFailed link (netQueueSend link data).2) :
    netIsConnected (netQueueSend link data).2 = true ∧
      (netQueueSend link data).2.sock.wire ++ (netQueueSend link data).2.conn.unsent =
        link.sock.wire ++ link.conn.unsent ++ data := by
  have summary := netQueueSend_summary link data
  have result := netQueueSend_result link data
  revert accepted fine summary result
  generalize netQueueSend link data = queued
  intro accepted fine summary result
  have kept := summary.outcome.resolve_right fun dropped => fine dropped.failed
  cases result with
  | offline => cases accepted
  | full => cases accepted
  | flushed connected room result =>
      have stays : netIsConnected _ = true := kept.clientFd.symm ▸ connected
      refine ⟨stays, ?_⟩
      have moved := result.conserves (by simp [Link.withReply]) stays
      rw [unsent_withReply] at moved
      simpa [Link.withReply, List.append_assoc] using moved

/-- A reply during which a `send` fails is reported as accepted, and the
connection is gone. -/
theorem netQueueSend_failed {link : Link} {data : Bytes}
    (failed : SendFailed link (netQueueSend link data).2) :
    (netQueueSend link data).1 = true ∧
      netIsConnected (netQueueSend link data).2 = false := by
  have summary := netQueueSend_summary link data
  have result := netQueueSend_result link data
  revert failed summary result
  generalize netQueueSend link data = queued
  intro failed summary result
  have dropped := summary.outcome.resolve_left fun kept => kept.noFailure failed
  have gone : netIsConnected queued.2 = false := by
    simp [netIsConnected, dropped.gone]
  cases result with
  | offline absent =>
      have connected := dropped.connected
      simp [absent] at connected
  | full =>
      obtain ⟨call, first, last, _⟩ := failed
      exact absurd last (Nat.not_lt.mpr first)
  | flushed => exact ⟨rfl, gone⟩

/-! ### The received part -/

/-- The received part of the buffer is kept with the connection and emptied when
the connection is closed. -/
def ReceivedKept (before after : Link) : Prop :=
  (after.conn.clientFd = before.conn.clientFd ∧ after.conn.recvLen = before.conn.recvLen) ∨
    (after.conn.clientFd = none ∧ after.conn.recvLen = 0)

theorem FlushResult.received {link flushed : Link} (result : FlushResult link flushed) :
    ReceivedKept link flushed := by
  cases result with
  | offline absent =>
      refine .inl ?_
      unfold resetSendBuf
      split <;> exact ⟨rfl, rfl⟩
  | drained => exact .inl ⟨rfl, rfl⟩
  | blocked => exact .inl ⟨rfl, rfl⟩
  | dropped => exact .inr ⟨rfl, rfl⟩

theorem LinkEffect.received {before after : Link} (effect : LinkEffect before after) :
    ReceivedKept before after := by
  induction effect with
  | stored link store => exact .inl ⟨rfl, rfl⟩
  | flushed link => exact (netFlushSend_result link).received
  | queued link data =>
      have result := netQueueSend_result link data
      revert result
      generalize netQueueSend link data = queued
      intro result
      cases result with
      | offline => exact .inl ⟨rfl, rfl⟩
      | full => exact .inl ⟨by simp, by simp⟩
      | flushed _ _ result => simpa [ReceivedKept, Link.withReply] using result.received
  | trans _ _ one two =>
      unfold ReceivedKept at *
      rcases two with ⟨fd, received⟩ | closed
      · rw [fd, received]
        exact one
      · exact .inr closed

theorem FlushResult.recvBuf {link flushed : Link} (result : FlushResult link flushed) :
    flushed.conn.recvBuf = link.conn.recvBuf := by
  cases result with
  | offline absent =>
      unfold resetSendBuf
      split <;> rfl
  | drained => rfl
  | blocked => rfl
  | dropped => rfl

/-- Nothing but the receive callback writes to the receive buffer. -/
theorem LinkEffect.recvBuf {before after : Link} (effect : LinkEffect before after) :
    after.conn.recvBuf = before.conn.recvBuf := by
  induction effect with
  | stored link store => rfl
  | flushed link => exact (netFlushSend_result link).recvBuf
  | queued link data =>
      have result := netQueueSend_result link data
      have compacted : (compactSendBuf link.conn).recvBuf = link.conn.recvBuf := by
        unfold compactSendBuf
        split <;> rfl
      revert result
      generalize netQueueSend link data = queued
      intro result
      cases result with
      | offline => rfl
      | full => exact compacted
      | flushed _ _ result => exact result.recvBuf.trans compacted
  | trans _ _ one two => exact two.trans one

end Acud
