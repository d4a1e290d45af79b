/-
Module: Acud.Link
Purpose: The client connection: buffers, socket, loop registration, send queue.
Trusted boundary: none
Main exports:
  SendAnswer, Socket, ClientConn, Link, netDropClient, netFlushSend, netQueueSend
-/
import Acud.Loop
import Acud.UserBin

namespace Acud

open Lib

/-!
`Link` is the part of the daemon that sending and receiving touch: the
connection fields of `AcuNet`, the socket, the event loop's table and the
roster store (a connection that ends discards the upload it carried).

The socket answers each `send` by an oracle: it takes a number of bytes, asks
to be tried again (`EAGAIN`, `EWOULDBLOCK`, `EINTR`) or fails.  `wire` collects
the bytes it took; no function reads it.

[SRC src/acud/net.c]
-/

def netRecvBufCap : Nat := 65536
def netEventBatchDefault : Int := 200
def netEventBatchMax : Int := 500
def netEventDataCap : Nat := 500 * idtiEventInfoLen
def netPayloadCap : Nat := idtiDeviceStatusV2Len + netEventDataCap
def netRespBufCap : Nat := netPayloadCap + 128
def netSendBufCap : Nat := netRespBufCap * 2

/-- The callbacks of the daemon, each with its `user` pointer. -/
inductive LoopCallback where
  | netOnListenReady
  | netOnClientReady
  | onDiscoverReadable
  | onCardReadable
  | onHousekeeping
deriving Repr, Inhabited, DecidableEq

/-! ### The socket -/

/-- What the kernel answers to one `send`. -/
inductive SendAnswer where
  | accepted (bytes : Nat)
  | again
  | error
deriving Repr, Inhabited, DecidableEq

/-- An answer that ends the connection: an error, or no byte taken. -/
def SendAnswer.isError : SendAnswer → Bool
  | .accepted bytes => bytes == 0
  | .again => false
  | .error => true

/-- The return value of `send` as the source tells it apart. -/
inductive SendResult where
  | sent (bytes : Nat)
  | retry
  | failed
deriving Repr, Inhabited, DecidableEq

structure Socket where
  answers : Nat → SendAnswer
  calls : Nat
  wire : Bytes

/-- One `send` of a non-empty buffer; the kernel takes at most all of it. -/
def Socket.send (sock : Socket) (data : Bytes) : SendResult × Socket :=
  let called := { sock with calls := sock.calls + 1 }
  match sock.answers sock.calls with
  | .accepted bytes =>
      if min bytes data.length > 0 then
        (.sent (min bytes data.length),
          { called with wire := sock.wire ++ data.take bytes })
      else (.failed, called)
  | .again => (.retry, called)
  | .error => (.failed, called)

/-! ### The connection -/

/-- The connection fields of `AcuNet`; `clientFd` is `none` for the source's `-1`. -/
structure ClientConn where
  clientFd : Option Nat
  recvBuf : Memory
  recvLen : Nat
  sendBuf : Memory
  sendLen : Nat
  sendOff : Nat
  lastActivity : Int

def ClientConn.initial : ClientConn :=
  { clientFd := none
    recvBuf := Memory.zeros
    recvLen := 0
    sendBuf := Memory.zeros
    sendLen := 0
    sendOff := 0
    lastActivity := 0 }

structure Link where
  listenFd : Nat
  conn : ClientConn
  sock : Socket
  loop : AcuLoop LoopCallback
  store : UserStore
  userbinAttached : Bool
  usersAttached : Bool

/-- `net_is_connected`. -/
def netIsConnected (link : Link) : Bool :=
  link.conn.clientFd.isSome

def netTouchActivity (link : Link) (monotonic : Int) : Link :=
  { link with conn := { link.conn with lastActivity := monotonic } }

/-- Close the connection, empty its buffers and discard its upload. -/
def netDropClient (link : Link) : Link :=
  let store :=
    if link.userbinAttached && userbinInProgress link.store then
      userbinAbort link.store
    else link.store
  let loop :=
    match link.conn.clientFd with
    | none => link.loop
    | some fd => loopRemove link.loop fd
  { link with
    store := store
    loop := loop
    conn :=
      { link.conn with
        clientFd := none
        recvLen := 0
        sendLen := 0
        sendOff := 0 } }

/-! ### The send queue -/

/-- The bytes that are queued and not yet taken by the socket. -/
def ClientConn.unsent (conn : ClientConn) : Bytes :=
  conn.sendBuf.read conn.sendOff (conn.sendLen - conn.sendOff)

/-- How the loop of `net_flush_send` was left. -/
inductive FlushExit where
  | drained
  | blocked
  | dropped
deriving Repr, Inhabited, DecidableEq

/-- Send until nothing is left or the socket stops taking bytes.  A round that
goes on has sent a byte, so as many rounds as unsent bytes are enough. -/
def flushLoop : Nat → Link → FlushExit × Link
  | 0, link => (.drained, link)
  | rounds + 1, link =>
      if link.conn.clientFd.isSome ∧ link.conn.sendOff < link.conn.sendLen then
        match link.sock.send link.conn.unsent with
        | (.sent bytes, sock) =>
            flushLoop rounds
              { link with
                sock := sock
                conn := { link.conn with sendOff := link.conn.sendOff + bytes } }
        | (.retry, sock) => (.blocked, { link with sock := sock })
        | (.failed, sock) => (.dropped, netDropClient { link with sock := sock })
      else (.drained, link)

/-- Reset an empty queue. -/
def resetSendBuf (conn : ClientConn) : ClientConn :=
  if conn.sendOff ≥ conn.sendLen then { conn with sendLen := 0, sendOff := 0 }
  else conn

/-- The end of `net_flush_send` when the loop condition became false: register
what to wait for. -/
def flushDone (link : Link) : Link :=
  let conn := resetSendBuf link.conn
  match conn.clientFd with
  | none => { link with conn := conn }
  | some fd =>
      let events : LoopInterest :=
        { read := true
          write := decide (conn.sendOff < conn.sendLen) }
      { link with
        conn := conn
        loop := (loopMod link.loop fd events).getD link.loop }

def netFlushSend (link : Link) : Link :=
  match flushLoop (link.conn.sendLen - link.conn.sendOff) link with
  | (.drained, flushed) => flushDone flushed
  | (.blocked, flushed) => flushed
  | (.dropped, flushed) => flushed

/-- Move the unsent bytes to the front of the buffer. -/
def compactSendBuf (conn : ClientConn) : ClientConn :=
  if conn.sendOff > 0 then
    { conn with
      sendBuf := conn.sendBuf.move conn.sendOff (conn.sendLen - conn.sendOff)
      sendLen := conn.sendLen - conn.sendOff
      sendOff := 0 }
  else conn

/-- Queue a reply and send what the socket takes at once.  `true` is the
source's `0`: the reply was sent or is queued, whatever the flush did. -/
def netQueueSend (link : Link) (data : Bytes) : Bool × Link :=
  if link.conn.clientFd = none then (false, link)
  else
    let conn := compactSendBuf link.conn
    if conn.sendLen + data.length > netSendBufCap then
      (false, { link with conn := conn })
    else
      (true,
        netFlushSend
          { link with
            conn :=
              { conn with
                sendBuf := conn.sendBuf.write conn.sendLen data
                sendLen := conn.sendLen + data.length } })

/-! ### Effects on a link -/

/-- What the callbacks do to a link apart from receiving and closing: they change
the roster store, queue replies and flush. -/
inductive LinkEffect : Link → Link → Prop where
  | stored (link : Link) (store : UserStore) : LinkEffect link { link with store := store }
  | queued (link : Link) (data : Bytes) : LinkEffect link (netQueueSend link data).2
  | flushed (link : Link) : LinkEffect link (netFlushSend link)
  | trans {first second third : Link} (one : LinkEffect first second)
      (two : LinkEffect second third) : LinkEffect first third

theorem LinkEffect.refl (link : Link) : LinkEffect link link :=
  .stored link link.store

end Acud
