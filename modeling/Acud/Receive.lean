/-
Module: Acud.Receive
Purpose: The callbacks of the two sockets and the idle check.
Trusted boundary: none
Main exports:
  sizeSub, RecvAnswer, LoopHead, recvStep, recvLoop, netOnClientReady,
  netOnListenReady, netCheckInactivity, netShutdown
-/
import Acud.Handlers

namespace Acud

open Lib

/-!
Bytes are collected in the receive buffer until a frame is complete; one read
may hold several frames, and they are handled one after another.  `consumed`
counts the bytes of the frames handled so far and is compared with `recv_len`
in `size_t` arithmetic.

A step that reads or moves bytes outside the buffer has no defined result.

[SRC src/acud/net.c]
-/

/-- Subtraction of `size_t` values: it wraps around below zero. -/
def sizeSub (first second : Nat) : Nat :=
  (first + 2 ^ 64 - second) % 2 ^ 64

theorem sizeSub_of_le {first second : Nat} (small : first < 2 ^ 64)
    (le : second ≤ first) : sizeSub first second = first - second := by
  unfold sizeSub
  omega

/-- What `recv` answers: bytes, `EAGAIN`, or the end of the connection. -/
inductive RecvAnswer where
  | data (bytes : Bytes)
  | again
  | closed
deriving Repr, Inhabited, DecidableEq

/-- The state at the head of the receive loop. -/
structure LoopHead where
  sys : NetSys
  consumed : Nat

/-- One round of the receive loop leaves it, goes on, or leaves the buffer. -/
inductive RecvStep where
  | leave (head : LoopHead)
  | next (head : LoopHead)
  | undefined

namespace LoopHead

def conn (head : LoopHead) : ClientConn :=
  head.sys.link.conn

/-- `recv_len - consumed`. -/
def avail (head : LoopHead) : Nat :=
  sizeSub head.conn.recvLen head.consumed

/-- The pointer to the frame at hand. -/
def pkt (head : LoopHead) : Memory :=
  head.conn.recvBuf.advance head.consumed

/-- The loop condition holds and the header lies in the buffer. -/
def readsHeader (head : LoopHead) : Bool :=
  decide (idtiHeaderLenV2 ≤ head.avail) &&
    decide (head.consumed + idtiHeaderLenV2 ≤ netRecvBufCap)

/-- The frame at hand, when a complete one is there to be handled. -/
def frame (head : LoopHead) : Option IdtiHeader :=
  if head.readsHeader then
    (idtiHeaderParse head.pkt head.avail).filter fun hdr =>
      decide (hdr.packetLength.toNat ≤ head.avail)
  else none

/-- The state after the frame at hand was handled. -/
def handled (head : LoopHead) (hdr : IdtiHeader) : LoopHead :=
  { sys := handleRequest head.sys hdr head.pkt
    consumed := head.consumed + hdr.packetLength.toNat }

end LoopHead

/-- One round of the loop in `net_on_client_ready`. -/
def recvStep (head : LoopHead) : RecvStep :=
  if head.avail < idtiHeaderLenV2 then .leave head
  else if netRecvBufCap < head.consumed + idtiHeaderLenV2 then .undefined
  else
    match idtiHeaderParse head.pkt head.avail with
    | none => .leave { head with consumed := head.conn.recvLen }
    | some hdr =>
        if head.avail < hdr.packetLength.toNat then .leave head
        else if netRecvBufCap < head.consumed + hdr.packetLength.toNat then .undefined
        else .next (head.handled hdr)

/-- Move what is left of the buffer to its front; the length of the move is a
`size_t` difference, so it must not wrap around. -/
def recvFinish (head : LoopHead) : Option NetSys :=
  let conn := head.conn
  if head.consumed = 0 then some head.sys
  else if conn.recvLen < head.consumed then none
  else
    some
      { head.sys with
        link :=
          { head.sys.link with
            conn :=
              { conn with
                recvBuf := conn.recvBuf.move head.consumed (conn.recvLen - head.consumed)
                recvLen := conn.recvLen - head.consumed } } }

/-- How a round continues, when `loop` is the rest of the loop. -/
def RecvStep.continue (loop : LoopHead → Option NetSys) : RecvStep → Option NetSys
  | .leave last => recvFinish last
  | .undefined => none
  | .next later => loop later

/-- The loop.  A round that goes on consumes a frame of at least 46 bytes, so
the counter does not run out before the loop ends or leaves the buffer. -/
def recvLoop : Nat → LoopHead → Option NetSys
  | 0, _ => none
  | rounds + 1, head => (recvStep head).continue (recvLoop rounds)

/-- Flush when the socket is writable. -/
def clientReadyFlush (s : NetSys) (ready : LoopInterest) : NetSys :=
  if ready.write then { s with link := netFlushSend s.link } else s

/-- Append received bytes and note the activity. -/
def NetSys.received (s : NetSys) (bytes : Bytes) : NetSys :=
  let conn := s.link.conn
  { s with
    link :=
      netTouchActivity
        { s.link with
          conn :=
            { conn with
              recvBuf := conn.recvBuf.write conn.recvLen bytes
              recvLen := conn.recvLen + bytes.length } }
        s.clock.monotonic }

def NetSys.dropClient (s : NetSys) : NetSys :=
  { s with link := netDropClient s.link }

/-- The client socket is ready.  `recv` takes at most the free room, and a read
of no bytes is the end of the connection. -/
def netOnClientReady (s : NetSys) (ready : LoopInterest) (answer : RecvAnswer) :
    Option NetSys :=
  let flushed := clientReadyFlush s ready
  if ready.read = false ∨ flushed.link.conn.clientFd = none then some flushed
  else
    match answer with
    | .again => some flushed
    | .closed => some flushed.dropClient
    | .data bytes =>
        let taken := bytes.take (netRecvBufCap - flushed.link.conn.recvLen)
        if taken.isEmpty then some flushed.dropClient
        else
          recvLoop (netRecvBufCap + 1)
            { sys := flushed.received taken
              consumed := 0 }

/-- A fresh connection on a descriptor, registered for input. -/
def netAdoptClient (s : NetSys) (fd : Nat) : NetSys :=
  let link := s.link
  let adopted : Link :=
    netTouchActivity
      { link with
        sock := { link.sock with wire := [] }
        conn :=
          { link.conn with
            clientFd := some fd
            recvLen := 0
            sendLen := 0
            sendOff := 0 } }
      s.clock.monotonic
  match loopAdd adopted.loop fd LoopInterest.readOnly LoopCallback.netOnClientReady with
  | some loop => { s with link := { adopted with loop := loop } }
  | none => { s with link := netDropClient adopted }

/-- The listening socket is ready; `accept` may fail.  A new client replaces
the one that is connected. -/
def netOnListenReady (s : NetSys) (accepted : Option Nat) : NetSys :=
  match accepted with
  | none => s
  | some fd =>
      netAdoptClient (if netIsConnected s.link then s.dropClient else s) fd

/-- Close a connection that was quiet for too long. -/
def netCheckInactivity (s : NetSys) : NetSys :=
  if s.link.conn.clientFd = none ∨ s.net.inactivitySeconds ≤ 0 then s
  else if s.clock.monotonic - s.link.conn.lastActivity ≥ s.net.inactivitySeconds then
    s.dropClient
  else s

/-- Close both sockets.  An upload in progress is not discarded here. -/
def netShutdown (link : Link) : Link :=
  let loop :=
    match link.conn.clientFd with
    | none => link.loop
    | some fd => loopRemove link.loop fd
  { link with
    loop := loopRemove loop link.listenFd
    conn := ClientConn.initial }

end Acud
