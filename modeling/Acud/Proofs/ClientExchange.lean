/-
Module: Acud.Proofs.ClientExchange
Purpose: A request of the client and the reply it reads, over any cut of the bytes.
Trusted boundary: none
Main exports:
  IsReplyTo, Daemon.Idle, Turn, Turn.Completes, Exchange, turn_exchange, exchange_answered
-/
import Acud.Proofs.ClientFrames
import Acud.Proofs.HandlerAnswers
import Acud.Proofs.ResponseView
import Acud.Proofs.ServedRequests

namespace Acud

open Lib
open IdtiClient (buildRequest recvPacket responseBody userbinAck parseResponse)

/-!
A turn is one request of the client and what happens until it has read the reply: the bytes
of the request reach the daemon in pieces, among other events, and the bytes that the socket
takes reach the client in pieces.

`Responds` names what a handler answers.  The client takes apart what `send_response` puts
together, so it gets that data, and it gets it once: before and after the request the queue is
empty.

[SRC src/tools/idti_client.py, src/acud/net.c]
-/

/-! ### What the client reads -/

theorem or_and_distrib (first second mask : UInt16) :
    (first ||| second) &&& mask = (first &&& mask) ||| (second &&& mask) := by
  apply UInt16.toBitVec_inj.mp
  simp only [UInt16.toBitVec_and, UInt16.toBitVec_or]
  ext index
  simp [Bool.and_or_distrib_right]

/-- A response says whether it carries the device status as the request asked for it. -/
theorem sentOption_exclude (hdr : IdtiHeader) :
    (((responseOption hdr ||| idtiFoptRequestAck) &&& ~~~idtiFoptCheckPacket) &&&
      idtiFoptExcludeDeviceStatus != 0) = hdr.hasOption idtiFoptExcludeDeviceStatus := by
  have kept : ~~~idtiFoptCheckPacket &&& idtiFoptExcludeDeviceStatus =
      idtiFoptExcludeDeviceStatus := by decide
  have ack : idtiFoptRequestAck &&& idtiFoptExcludeDeviceStatus = 0 := by decide
  have other : (idtiFoptBlocking ||| idtiFoptTcp) &&& idtiFoptExcludeDeviceStatus = 0 := by
    decide
  rw [UInt16.and_assoc, kept, or_and_distrib, ack, UInt16.or_zero, responseOption]
  cases excludes : hdr.hasOption idtiFoptExcludeDeviceStatus with
  | true =>
      simp only [if_true]
      rw [or_and_distrib, UInt16.and_assoc, other, UInt16.and_zero, UInt16.zero_or]
      decide
  | false =>
      simp only [Bool.false_eq_true, if_false]
      rw [UInt16.and_assoc, other, UInt16.and_zero]
      decide

/-- Without the device status, if there is one, the data is left. -/
theorem withoutStatus_packet {packet : IdtiPacket} {s : NetSys} {hdr : IdtiHeader} {data : Bytes}
    (option : (packet.sentOption &&& idtiFoptExcludeDeviceStatus != 0) =
      hdr.hasOption idtiFoptExcludeDeviceStatus)
    (payload : packet.data = responsePayload s hdr data) :
    IdtiClient.withoutStatus packet.bytes = data := by
  have excludes := IdtiClient.excludesStatus_bytes packet
  have body := IdtiClient.packetBody_bytes packet
  have status : (buildDeviceStatus s.net s.clock).length = IdtiClient.deviceStatusV2Len :=
    length_buildDeviceStatus s.net s.clock
  rw [option] at excludes
  rw [payload] at body
  unfold IdtiClient.withoutStatus
  simp only [body, excludes, responsePayload]
  cases hdr.hasOption idtiFoptExcludeDeviceStatus with
  | true => simp
  | false =>
      simp only [Bool.not_false, Bool.true_and, Bool.false_eq_true, if_false]
      rw [if_pos (by simp [status]), List.drop_left' status]

/-- The reply to a request: it belongs to it, and it carries the device status, if it was asked
for, and this data. -/
structure IsReplyTo (s : NetSys) (hdr : IdtiHeader) (data : Bytes) (packet : IdtiPacket) :
    Prop where
  short : packet.totalLen ≤ 65535
  frameIndex : packet.frameIndex = answerIndex hdr
  destination : packet.destAddr = responseDest hdr
  subCommand : packet.subCommand = hdr.subCommand
  object : packet.object = hdr.object
  option : (packet.sentOption &&& idtiFoptExcludeDeviceStatus != 0) =
    hdr.hasOption idtiFoptExcludeDeviceStatus
  payload : packet.data = responsePayload s hdr data

section Replies

variable {s : NetSys} {hdr : IdtiHeader} {data : Bytes} {packet : IdtiPacket}

/-- The client finds the data in the reply. -/
theorem IsReplyTo.body (replies : IsReplyTo s hdr data packet) :
    responseBody (some packet.bytes) = some data := by
  have size := packet.length_bytes
  have long : ¬ packet.bytes.length < IdtiClient.headerLen + IdtiClient.tailLen := by
    unfold IdtiClient.headerLen IdtiClient.tailLen
    omega
  rw [responseBody, if_neg long, withoutStatus_packet replies.option replies.payload]

theorem IsReplyTo.ack (replies : IsReplyTo s hdr data packet) :
    userbinAck (some packet.bytes) = data.head? := by
  have size := packet.length_bytes
  have long : ¬ packet.bytes.length < IdtiClient.headerLen + 1 := by
    unfold IdtiClient.headerLen
    omega
  rw [userbinAck, if_neg long, withoutStatus_packet replies.option replies.payload]

/-- The client prints the status as it is, or as left out, and then the data. -/
theorem IsReplyTo.shown (replies : IsReplyTo s hdr data packet) :
    parseResponse packet.bytes =
      shownPacket packet (hdr.hasOption idtiFoptExcludeDeviceStatus) ++
        shownStatus (hdr.hasOption idtiFoptExcludeDeviceStatus) s.net s.clock ++
        IdtiClient.contentLines hdr.object data := by
  rw [← replies.object]
  exact parseResponse_bytes replies.short replies.option replies.payload

theorem isReplyTo_response {worked : NetSys} {store : UserStore} {request : IdtiHeader}
    {command : UInt8} {block : BlockIndex} (works : Works s worked store)
    (option : request.frameOption = hdr.frameOption) (source : request.srcAddr = hdr.srcAddr)
    (index : request.frameIndex = answerIndex hdr)
    (fits : 46 + (responsePacket worked request command hdr.subCommand hdr.object data
      block).data.length ≤ 65535) :
    IsReplyTo s hdr data
      (responsePacket worked request command hdr.subCommand hdr.object data block) := by
  have total : (responsePacket worked request command hdr.subCommand hdr.object data
      block).totalLen = 44 + (responsePacket worked request command hdr.subCommand hdr.object data
        block).data.length + 2 := rfl
  have same : request.hasOption idtiFoptExcludeDeviceStatus =
      hdr.hasOption idtiFoptExcludeDeviceStatus := by
    unfold IdtiHeader.hasOption
    rw [option]
  refine
    { short := by omega
      frameIndex := index
      destination := ?_
      subCommand := rfl
      object := rfl
      option := ?_
      payload := ?_ }
  · show responseDest request = responseDest hdr
    simp only [responseDest, source]
  · rw [IdtiPacket.sentOption, ← same]
    exact sentOption_exclude request
  · show responsePayload worked request data = responsePayload s hdr data
    rw [responsePayload, responsePayload, same, works.status]

end Replies

/-- A reply that was accepted leaves the roster store alone while the client stays. -/
theorem netQueueSend_keeps {link : Link} {out : Bytes} (accepted : (netQueueSend link out).1 = true)
    (stays : netIsConnected (netQueueSend link out).2 = true) :
    (netQueueSend link out).2.store = link.store ∧
      (netQueueSend link out).2.userbinAttached = link.userbinAttached ∧
      (netQueueSend link out).2.usersAttached = link.usersAttached := by
  have result := netQueueSend_result link out
  revert accepted stays result
  generalize netQueueSend link out = sent
  intro accepted stays result
  cases result with
  | offline => cases accepted
  | full => cases accepted
  | flushed _ _ result =>
      have carries := result.carries (by simp [Link.withReply]) stays
      exact ⟨carries.store, carries.attached⟩

/-- A response with data within the capacity is built, and accepted on an empty queue. -/
theorem response_accepted {link : Link} (connected : netIsConnected link = true)
    (empty : link.conn.unsent = []) (s : NetSys) (request : IdtiHeader)
    (command subCommand object : UInt8) {data : Bytes} (block : BlockIndex)
    (short : data.length ≤ netEventDataCap) :
    ∃ packet, packet = responsePacket s request command subCommand object data block ∧
      responseBytes s request command subCommand object data block = some packet.bytes ∧
      46 + packet.data.length ≤ 65535 ∧ (netQueueSend link packet.bytes).1 = true := by
  obtain ⟨out, bytes, built⟩ := responseBytes_isSome s request command subCommand object block short
  rw [idtiBuildPacket_eq] at built
  split at built
  next fits =>
    have same := Option.some.inj built
    have size := IdtiPacket.length_bytes
      (responsePacket s request command subCommand object data block)
    refine ⟨_, rfl, by rw [bytes, same], fits.trans (Nat.min_le_right _ _), ?_⟩
    apply netQueueSend_room connected
    have cap : netRespBufCap ≤ netSendBufCap := by decide
    rw [empty, List.length_nil, size]
    omega
  next => cases built

/-- On an empty queue the reply is accepted for sending. -/
theorem Responds.queues {s handled : NetSys} {hdr : IdtiHeader} {store : UserStore} {data : Bytes}
    (responds : Responds s handled hdr store data) (connected : netIsConnected s.link = true)
    (empty : s.link.conn.unsent = []) :
    ∃ (link : Link) (packet : IdtiPacket), IsReplyTo s hdr data packet ∧
      link = { s.link with store := store } ∧ (netQueueSend link packet.bytes).1 = true ∧
      handled.link = (netQueueSend link packet.bytes).2 := by
  obtain ⟨worked, request, command, block, option, source, index, small, works, answered⟩ :=
    responds
  obtain ⟨packet, rfl, bytes, fits, accepted⟩ := @response_accepted worked.link
    (by rw [works.link]; exact connected) (by rw [works.link]; exact empty) worked request command
    hdr.subCommand hdr.object _ block small
  refine ⟨worked.link, _, isReplyTo_response works option source index fits, works.link, accepted,
    ?_⟩
  rw [answered, sendResponse, bytes]

/-- The reply comes behind all earlier ones. -/
theorem Responds.gives {s handled : NetSys} {hdr : IdtiHeader} {store : UserStore} {data : Bytes}
    (responds : Responds s handled hdr store data) (connected : netIsConnected s.link = true)
    (empty : s.link.conn.unsent = []) (fine : ¬ SendFailed s.link handled.link) :
    ∃ packet, IsReplyTo s hdr data packet ∧
      handled.link.given = s.link.given ++ packet.bytes ∧ handled.link.store = store ∧
      handled.link.userbinAttached = s.link.userbinAttached ∧
      handled.link.usersAttached = s.link.usersAttached := by
  obtain ⟨link, packet, replies, rfl, accepted, queued⟩ := responds.queues connected empty
  rw [queued] at fine ⊢
  obtain ⟨stays, given⟩ := netQueueSend_accepted accepted fine
  exact ⟨packet, replies, given, netQueueSend_keeps accepted stays⟩

/-! ### Turns -/

/-- A client is connected; nothing of a request has arrived and no byte is queued for it. -/
structure Daemon.Idle (daemon : Daemon) : Prop where
  live : daemon.Live
  read : daemon.sys.link.conn.recvLen = 0
  sent : daemon.sys.link.conn.sendOff = daemon.sys.link.conn.sendLen

/-- The events of the daemon during one turn, and the pieces that the client's `recv` returns. -/
structure Turn where
  inputs : List Input
  heard : List Bytes

/-- The connection stays up, the bytes of the request arrive, the socket takes all bytes of the
reply, and the client reads them. -/
structure Turn.Completes (daemon : Daemon) (sent : Bytes) (turn : Turn) : Prop where
  arrives : Meets Daemon.step Arrives daemon turn.inputs
  whole : turn.inputs.flatMap Input.received = sent
  pieces : ∀ chunk ∈ turn.heard, chunk ≠ []
  taken : ∀ final, run Daemon.step daemon turn.inputs = some final →
    final.sys.link.conn.unsent = [] ∧
      daemon.sys.link.sock.wire ++ turn.heard.flatten = final.sys.link.sock.wire

/-- The turn of a request: it is handled once, in the state `s`, and whatever the handler
answers is what the client reads. -/
structure Exchange (daemon final : Daemon) (request : IdtiClient.Request) (turn : Turn)
    (s : NetSys) (pkt : Memory) : Prop where
  reached : run Daemon.step daemon turn.inputs = some final
  idle : final.Idle
  calls : runCalls daemon turn.inputs = [(request.packet.header, request.packet.bytes)]
  during : DuringRun daemon turn.inputs s
  carried : daemon.sys.Carries s
  connected : netIsConnected s.link = true
  empty : s.link.conn.unsent = []
  carriedLater : (handleRequest s request.packet.header pkt).Carries final.sys
  holds : pkt.Holds 0 request.packet.bytes
  reads : ∀ store data,
    Responds (requestTimeSync s request.packet.header pkt)
      (handleRequest s request.packet.header pkt) request.packet.header store data →
    ∃ packet, IsReplyTo (requestTimeSync s request.packet.header pkt) request.packet.header data
        packet ∧
      recvPacket (IdtiClient.answersOf turn.heard) = (some packet.bytes, []) ∧
      final.sys.link.store = store ∧
      final.sys.link.userbinAttached = daemon.sys.link.userbinAttached ∧
      final.sys.link.usersAttached = daemon.sys.link.usersAttached

/-- The frame that a request is on the wire. -/
def requestFrame (request : IdtiClient.Request) (fits : request.Fits) : WireFrame :=
  { bytes := request.packet.bytes
    hdr := request.packet.header
    parsed := by
      have total : request.packet.totalLen = 44 + request.data.length + 2 := rfl
      have size := request.packet.length_bytes
      have short := fits.short
      have same : request.packet.data.length = request.data.length := rfl
      exact IdtiPacket.parse_bytes (Memory.holds_ofBytes _) (by omega) (by omega)
    length_eq := by
      have total : request.packet.totalLen = 44 + request.data.length + 2 := rfl
      have size := request.packet.length_bytes
      have short := fits.short
      have same : request.packet.data.length = request.data.length := rfl
      have field : request.packet.header.packetLength = request.packet.totalLen.toUInt16 := rfl
      rw [field, Nat.toUInt16_eq, UInt16.toNat_ofNat', Nat.mod_eq_of_lt (by omega)]
      omega }

theorem Daemon.Idle.unsent {daemon : Daemon} (idle : daemon.Idle) :
    daemon.sys.link.conn.unsent = [] := by
  rw [ClientConn.unsent, idle.sent, Nat.sub_self, Memory.read_zero]

/-- Nothing was queued, and nothing but the queue goes to the client: nothing is queued. -/
theorem Link.Carries.unsent {before after : Link} (carried : before.Carries after)
    (empty : before.conn.unsent = []) : after.conn.unsent = [] := by
  have given := congrArg List.length carried.given
  rw [Link.given, Link.given, empty, List.append_nil, List.length_append] at given
  have taken := carried.taken
  exact List.eq_nil_of_length_eq_zero (by omega)

/-- What was given to the client and is not queued, the socket has taken. -/
theorem Link.Carries.wire {before after : Link} (carried : before.Carries after)
    (empty : after.conn.unsent = []) : after.sock.wire = before.given := by
  rw [← carried.given, Link.given, empty, List.append_nil]

theorem requestFrame_ne_nil (request : IdtiClient.Request) : request.packet.bytes ≠ [] := by
  intro none
  have size := request.packet.length_bytes
  rw [none, List.length_nil] at size
  omega

theorem Daemon.Idle.content {daemon : Daemon} (idle : daemon.Idle) : daemon.sys.content = [] := by
  rw [NetSys.content, idle.read, Memory.read_zero]

/-- The bytes of a request are those of its one frame. -/
theorem stream_requestFrame (request : IdtiClient.Request) (fits : request.Fits) :
    WireFrame.stream [requestFrame request fits] = request.packet.bytes := by
  rw [WireFrame.stream_cons]
  exact List.append_nil _

/-- A request whose bytes have all arrived was handled once. -/
theorem request_served {daemon : Daemon} {inputs : List Input} {request : IdtiClient.Request}
    (idle : daemon.Idle) (fits : request.Fits) (arrives : Meets Daemon.step Arrives daemon inputs)
    (whole : inputs.flatMap Input.received = request.packet.bytes) :
    ∃ final, run Daemon.step daemon inputs = some final ∧ final.Live ∧
      final.sys.link.conn.recvLen = 0 ∧
      runCalls daemon inputs = [(requestFrame request fits).call] ∧
      Served (DuringRun daemon inputs) daemon.sys [(requestFrame request fits).call]
        final.sys := by
  have start : daemon.Reassembles (inputs.flatMap Input.received ++ [])
      [requestFrame request fits] := by
    refine ⟨idle.live.1, idle.live.2, ⟨?_, fun frame _ => ?_⟩⟩
    · rw [idle.content, List.nil_append, whole, List.append_nil, stream_requestFrame]
    · have long := frame.length_ge
      rw [idle.content, List.length_nil]
      omega
  obtain ⟨done, rest, final, parts, calls, reached, reassembles⟩ := run_handles arrives start
  obtain ⟨served, live⟩ := run_serves idle.live (Nat.le_of_eq idle.sent)
    (arrives.imp fun daemon input both => both.1) reached
  have remains := reassembles.reassembling.stream
  rw [List.append_nil] at remains
  cases rest with
  | nil =>
      rw [List.append_nil] at parts
      rw [← parts] at calls
      rw [calls] at served
      refine ⟨final, reached, live, ?_, calls, served⟩
      rw [← final.sys.length_content, remains]
      rfl
  | cons frame later =>
      -- All of the frame has arrived, so it would have been handled.
      have short := reassembles.reassembling.incomplete frame rfl
      rw [remains, WireFrame.stream_cons, List.length_append] at short
      omega

/-- The one call of a run, the state it was made in, and what it left. -/
theorem Served.single {property : NetSys → Prop} {s last : NetSys} {call : RequestCall}
    (served : Served property s [call] last) :
    ∃ here pkt, s.Carries here ∧ property here ∧ netIsConnected here.link = true ∧
      call.2 = pkt.read 0 call.1.packetLength.toNat ∧
      ¬ SendFailed here.link (handleRequest here call.1 pkt).link ∧
      (handleRequest here call.1 pkt).Carries last := by
  generalize calls : [call] = list at served
  cases served with
  | done => cases calls
  | handled carried holds connected fine later =>
      cases calls
      cases later with
      | done carriedLater => exact ⟨_, _, carried, holds, connected, rfl, fine, carriedLater⟩

/-- The socket has taken everything: the queue is at its end. -/
theorem Daemon.Live.idle {daemon : Daemon} (live : daemon.Live)
    (read : daemon.sys.link.conn.recvLen = 0)
    (ordered : daemon.sys.link.conn.sendOff ≤ daemon.sys.link.conn.sendLen)
    (empty : daemon.sys.link.conn.unsent = []) : daemon.Idle := by
  have size := congrArg List.length empty
  rw [ClientConn.unsent, Memory.length_read] at size
  exact ⟨live, read, Nat.le_antisymm ordered (Nat.le_of_sub_eq_zero size)⟩

/-- The one request of a run is handled in the state `s`, on a queue that is empty. -/
structure Handles (daemon final : Daemon) (inputs : List Input) (request : IdtiClient.Request)
    (s : NetSys) (pkt : Memory) : Prop where
  reached : run Daemon.step daemon inputs = some final
  live : final.Live
  read : final.sys.link.conn.recvLen = 0
  calls : runCalls daemon inputs = [(request.packet.header, request.packet.bytes)]
  during : DuringRun daemon inputs s
  carried : daemon.sys.Carries s
  holds : pkt.Holds 0 request.packet.bytes
  connected : netIsConnected s.link = true
  empty : s.link.conn.unsent = []
  fine : ¬ SendFailed s.link (handleRequest s request.packet.header pkt).link
  carriedLater : (handleRequest s request.packet.header pkt).Carries final.sys

theorem request_handled {daemon : Daemon} {inputs : List Input} {request : IdtiClient.Request}
    (idle : daemon.Idle) (fits : request.Fits) (arrives : Meets Daemon.step Arrives daemon inputs)
    (whole : inputs.flatMap Input.received = request.packet.bytes) :
    ∃ final s pkt, Handles daemon final inputs request s pkt := by
  obtain ⟨final, reached, live, read, calls, served⟩ := request_served idle fits arrives whole
  obtain ⟨s, pkt, carried, during, connected, bytes, fine, carriedLater⟩ := served.single
  have size := (requestFrame request fits).length_eq
  refine ⟨final, s, pkt, reached, live, read, calls, during, carried, ?_, connected,
    carried.link.unsent idle.unsent, fine, carriedLater⟩
  unfold Memory.Holds
  change request.packet.bytes.length = _ at size
  rw [size]
  exact bytes.symm

section Handling

variable {daemon final : Daemon} {inputs : List Input} {request : IdtiClient.Request}
  {s : NetSys} {pkt : Memory} {store : UserStore} {data : Bytes}

/-- What the handler answers is what is given to the client. -/
theorem Handles.gives (handles : Handles daemon final inputs request s pkt) (idle : daemon.Idle)
    (responds : Responds (requestTimeSync s request.packet.header pkt)
      (handleRequest s request.packet.header pkt) request.packet.header store data) :
    ∃ packet, IsReplyTo (requestTimeSync s request.packet.header pkt) request.packet.header data
        packet ∧
      final.sys.link.given = daemon.sys.link.sock.wire ++ packet.bytes ∧
      final.sys.link.store = store ∧
      final.sys.link.userbinAttached = daemon.sys.link.userbinAttached ∧
      final.sys.link.usersAttached = daemon.sys.link.usersAttached := by
  have same : (requestTimeSync s request.packet.header pkt).link = s.link := by
    rw [requestTimeSync_eq]
  obtain ⟨packet, replies, given, kept, userbin, users⟩ := responds.gives
    (by rw [same]; exact handles.connected) (by rw [same]; exact handles.empty)
    (by rw [same]; exact handles.fine)
  rw [same] at given userbin users
  have before : s.link.given = daemon.sys.link.sock.wire := by
    rw [handles.carried.link.given, Link.given, idle.unsent, List.append_nil]
  rw [before] at given
  refine ⟨packet, replies, handles.carriedLater.link.given.trans given,
    handles.carriedLater.link.store.trans kept, ?_, ?_⟩
  · exact (handles.carriedLater.link.attached.1.trans userbin).trans handles.carried.link.attached.1
  · exact (handles.carriedLater.link.attached.2.trans users).trans handles.carried.link.attached.2

end Handling

theorem turn_exchange {daemon : Daemon} {request : IdtiClient.Request} {turn : Turn}
    (idle : daemon.Idle) (fits : request.Fits)
    (completes : turn.Completes daemon request.packet.bytes) :
    ∃ final s pkt, Exchange daemon final request turn s pkt := by
  obtain ⟨final, s, pkt, handles⟩ :=
    request_handled idle fits completes.arrives completes.whole
  obtain ⟨drained, heard⟩ := completes.taken final handles.reached
  refine ⟨final, s, pkt, handles.reached,
    handles.live.idle handles.read handles.carriedLater.link.ordered drained, handles.calls,
    handles.during, handles.carried, handles.connected, handles.empty, handles.carriedLater,
    handles.holds, ?_⟩
  intro store data responds
  obtain ⟨packet, replies, given, kept⟩ := handles.gives idle responds
  rw [Link.given, drained, List.append_nil, ← heard] at given
  have whole := List.append_cancel_left given
  exact ⟨packet, replies, IdtiClient.recvPacket_whole replies.short completes.pieces whole, kept⟩

/-- For every request that fits, every cut of its bytes on the way to the device and of the
reply on the way back, and any other events in between, as long as the connection stays up and
the turn completes: the request is the only one that is handled, with its own fields and data,
in a state of the run with the roster it found; the handler answers once, and the client reads
that answer, whole and with nothing behind it. -/
theorem exchange_answered (daemon : Daemon) (idle : daemon.Idle) (request : IdtiClient.Request)
    (fits : request.Fits) (sent : Bytes) (built : buildRequest request = some sent) (turn : Turn)
    (completes : turn.Completes daemon sent) :
    ∃ final s pkt store data packet,
      run Daemon.step daemon turn.inputs = some final ∧ final.Idle ∧
      runCalls daemon turn.inputs = [(request.packet.header, sent)] ∧
      DuringRun daemon turn.inputs s ∧ s.link.store = daemon.sys.link.store ∧
      idtiHeaderParse pkt sent.length = some request.packet.header ∧
      (packetData pkt).Holds 0 request.data ∧
      Responds (requestTimeSync s request.packet.header pkt)
        (handleRequest s request.packet.header pkt) request.packet.header store data ∧
      final.sys.link.store = store ∧
      recvPacket (IdtiClient.answersOf turn.heard) = (some packet.bytes, []) ∧
      IsReplyTo (requestTimeSync s request.packet.header pkt) request.packet.header data packet ∧
      responseBody (some packet.bytes) = some data := by
  rw [IdtiClient.buildRequest_eq fits] at built
  obtain rfl := Option.some.inj built
  obtain ⟨final, s, pkt, exchange⟩ := turn_exchange idle fits completes
  obtain ⟨store, data, responds⟩ := handleRequest_responds s request.packet.header pkt
  obtain ⟨packet, replies, received, kept, _⟩ := exchange.reads store data responds
  have total : request.packet.totalLen = 44 + request.packet.data.length + 2 := rfl
  have size := request.packet.length_bytes
  have short : 46 + request.packet.data.length ≤ 65535 := fits.short
  obtain ⟨_, _, _, _, _, _, _, _, _, body⟩ := IdtiPacket.bytes_parts exchange.holds
  exact ⟨final, s, pkt, store, data, packet, exchange.reached, exchange.idle, exchange.calls,
    exchange.during, exchange.carried.link.store,
    IdtiPacket.parse_bytes exchange.holds (by omega) (by omega),
    Memory.holds_advance.mpr body, responds, kept, received, replies, replies.body⟩

/-! ### A socket that takes bytes -/

/-- Every `send` takes something. -/
def Link.Takes (link : Link) : Prop :=
  ∀ call, ∃ bytes, 0 < bytes ∧ link.sock.answers call = .accepted bytes

theorem Link.Takes.of_answers {before after : Link} (takes : before.Takes)
    (same : after.sock.answers = before.sock.answers) : after.Takes := by
  intro call
  rw [same]
  exact takes call

theorem Link.Takes.not_error {link : Link} (takes : link.Takes) (call : Nat) :
    (link.sock.answers call).isError = false := by
  obtain ⟨bytes, positive, answered⟩ := takes call
  rw [answered]
  simp only [SendAnswer.isError, beq_eq_false_iff_ne]
  omega

/-- A flush sends everything. -/
theorem FlushResult.drains {link flushed : Link} (result : FlushResult link flushed)
    (takes : link.Takes) (connected : netIsConnected link = true) :
    flushed.conn.unsent = [] := by
  cases result with
  | offline absent =>
      rw [netIsConnected, absent] at connected
      cases connected
  | drained => exact Memory.read_zero _ _
  | @blocked sock off rounds _ _ again =>
      obtain ⟨bytes, _, answered⟩ := takes sock.calls
      rw [again] at answered
      cases answered
  | @dropped sock off rounds _ _ failed =>
      rw [takes.not_error] at failed
      cases failed

theorem netQueueSend_drains {link : Link} {out : Bytes} (takes : link.Takes)
    (connected : netIsConnected link = true) (accepted : (netQueueSend link out).1 = true) :
    (netQueueSend link out).2.conn.unsent = [] := by
  have result := netQueueSend_result link out
  revert accepted result
  generalize netQueueSend link out = sent
  intro accepted result
  cases result with
  | offline => cases accepted
  | full => cases accepted
  | flushed _ _ result =>
      apply result.drains (takes.of_answers rfl)
      simpa [Link.withReply, netIsConnected] using connected

theorem Responds.drains {s handled : NetSys} {hdr : IdtiHeader} {store : UserStore}
    {data : Bytes} (responds : Responds s handled hdr store data)
    (connected : netIsConnected s.link = true) (empty : s.link.conn.unsent = [])
    (takes : s.link.Takes) : handled.link.conn.unsent = [] := by
  obtain ⟨link, packet, _, rfl, accepted, queued⟩ := responds.queues connected empty
  rw [queued]
  exact netQueueSend_drains takes connected accepted

/-- A request that arrives in one piece leaves the client its connection. -/
theorem receive_stays {daemon next : Daemon} {request : IdtiClient.Request} (idle : daemon.Idle)
    (takes : daemon.sys.link.Takes) (fits : request.Fits)
    (stepped : daemon.step (.receive request.packet.bytes) = some next) :
    netIsConnected next.sys.link = true := by
  have fine := noSendFailure_of_answers (rfl : daemon.sys.link.sock.answers = _) takes.not_error
    LoopInterest.readOnly (.data request.packet.bytes)
  have bound : request.packet.bytes.length ≤ netRecvBufCap - daemon.sys.link.conn.recvLen := by
    rw [idle.read]
    exact Nat.le_of_lt (requestFrame request fits).length_lt
  have small : daemon.sys.link.conn.recvLen ≤ netRecvBufCap := by
    rw [idle.read]
    exact Nat.zero_le _
  obtain ⟨start, entered, consumed, held⟩ :=
    @readHead_chunk daemon.sys LoopInterest.readOnly request.packet.bytes rfl idle.live.2
      (requestFrame_ne_nil request) bound
  have streamed : start.content ++ [] = WireFrame.stream [requestFrame request fits] := by
    rw [stream_requestFrame, held, idle.content, List.nil_append, List.append_nil]
  have enough : netRecvBufCap < start.consumed + (netRecvBufCap + 1) := by
    rw [consumed, Nat.zero_add]
    exact Nat.lt_succ_self _
  obtain ⟨_, _, later, _, _, returned, connected, _⟩ :=
    recvLoop_handles (fun later reached => reached.safe small entered fine)
      (fun head hdr reached found => fine start entered head hdr reached found) _ .start
      (readHead_sound small entered).2.2 enough streamed
  have step : daemon.step (.receive request.packet.bytes) =
      (netOnClientReady daemon.sys LoopInterest.readOnly (.data request.packet.bytes)).map
        fun s => { daemon with sys := s } := if_pos idle.live
  rw [step, netOnClientReady_enters entered, returned] at stepped
  cases stepped
  exact connected

/-- A turn that completes: the request arrives in one piece, and so does the reply. -/
theorem turn_exists {daemon : Daemon} {request : IdtiClient.Request} (idle : daemon.Idle)
    (takes : daemon.sys.link.Takes) (fits : request.Fits) :
    ∃ turn : Turn, turn.Completes daemon request.packet.bytes ∧
      ∀ final, run Daemon.step daemon turn.inputs = some final → final.sys.link.Takes := by
  have arrives : Meets Daemon.step Arrives daemon [.receive request.packet.bytes] := by
    refine ⟨arrives_receive rfl takes.not_error (fun next => receive_stays idle takes fits)
      (requestFrame_ne_nil request) ?_, fun _ _ => trivial⟩
    rw [idle.read]
    exact Nat.le_of_lt (requestFrame request fits).length_lt
  have whole : [Input.receive request.packet.bytes].flatMap Input.received =
      request.packet.bytes := List.append_nil _
  obtain ⟨final, s, pkt, handles⟩ := request_handled idle fits arrives whole
  obtain ⟨store, data, responds⟩ := handleRequest_responds s request.packet.header pkt
  obtain ⟨packet, replies, given, _⟩ := handles.gives idle responds
  have same : (requestTimeSync s request.packet.header pkt).link = s.link := by
    rw [requestTimeSync_eq]
  have answered : (handleRequest s request.packet.header pkt).link.conn.unsent = [] :=
    responds.drains (by rw [same]; exact handles.connected) (by rw [same]; exact handles.empty)
      (by rw [same]; exact takes.of_answers handles.carried.link.answers)
  have drained := handles.carriedLater.link.unsent answered
  rw [Link.given, drained, List.append_nil] at given
  have answers : final.sys.link.sock.answers = daemon.sys.link.sock.answers :=
    handles.carriedLater.link.answers.trans
      ((handleRequest_link s request.packet.header pkt).summary.answers.trans
        handles.carried.link.answers)
  refine ⟨{ inputs := [.receive request.packet.bytes], heard := [packet.bytes] },
    { arrives := arrives, whole := whole, pieces := ?_, taken := ?_ }, ?_⟩
  · intro chunk member none
    have size := packet.length_bytes
    rw [← List.mem_singleton.mp member, none, List.length_nil] at size
    omega
  · intro other reached
    rw [handles.reached] at reached
    cases reached
    exact ⟨drained, by rw [given]; simp⟩
  · intro other reached
    rw [handles.reached] at reached
    cases reached
    exact takes.of_answers answers

/-! ### A first connection -/

/-- The daemon after its first start and its first client, on a socket that takes bytes. -/
def firstConnection : Option Daemon :=
  (mainStart (StartUp.first fun _ => .accepted 4096)).bind fun daemon =>
    daemon.step (.connect 8)

theorem mainStart_store {start : StartUp} {daemon : Daemon}
    (started : mainStart start = some daemon) :
    daemon.sys.link.store =
        userbinCreate (usersSeedDummy (usersOpen start.users start.usersFaults).2) ∧
      daemon.sys.link.userbinAttached = true := by
  unfold mainStart at started
  split at started
  next => cases started
  next opened opens =>
    cases started
    rw [opens]
    simp only
    split <;> exact ⟨rfl, rfl⟩

/-- A first client finds the store as it was. -/
theorem connect_store {daemon next : Daemon} {fd : Nat}
    (free : netIsConnected daemon.sys.link = false)
    (stepped : daemon.step (.connect fd) = some next)
    (connected : netIsConnected next.sys.link = true) :
    next.sys.link.store = daemon.sys.link.store ∧
      next.sys.link.userbinAttached = daemon.sys.link.userbinAttached := by
  cases stepped
  revert connected
  unfold Daemon.onNet
  split
  next =>
    unfold netOnListenReady netAdoptClient
    simp only [free, Bool.false_eq_true, if_false]
    split
    next => exact fun _ => ⟨rfl, rfl⟩
    next =>
      intro connected
      cases connected
  next => exact fun _ => ⟨rfl, rfl⟩

theorem firstConnection_idle :
    ∃ daemon, firstConnection = some daemon ∧ daemon.Idle ∧ daemon.sys.link.Takes ∧
      daemon.sys.link.userbinAttached = true ∧ daemon.sys.link.store = seededStore := by
  have measured :
      ((mainStart (StartUp.first fun _ => .accepted 4096)).bind fun daemon =>
          (daemon.step (.connect 8)).map fun next => (daemon, next)).map
        (fun states => (netIsConnected states.1.sys.link, states.2.netUp,
          netIsConnected states.2.sys.link, states.2.sys.link.conn.recvLen,
          states.2.sys.link.conn.sendOff, states.2.sys.link.conn.sendLen)) =
      some (false, true, true, 0, 0, 0) := by decide +kernel
  obtain ⟨⟨daemon, connected⟩, stepped, facts⟩ := Option.map_eq_some_iff.mp measured
  simp only [Prod.mk.injEq] at facts
  obtain ⟨free, netUp, live, read, off, len⟩ := facts
  obtain ⟨daemon, started, stepped⟩ := Option.bind_eq_some_iff.mp stepped
  obtain ⟨connected, connects, same⟩ := Option.map_eq_some_iff.mp stepped
  cases same
  obtain ⟨store, attached⟩ := mainStart_store started
  obtain ⟨kept, keptAttached⟩ := connect_store free connects live
  refine ⟨connected, ?_, ⟨⟨netUp, live⟩, read, off.trans len.symm⟩, ?_,
    keptAttached.trans attached, ?_⟩
  · rw [firstConnection, started]
    exact connects
  · intro call
    rw [connect_answers (mainStart_answers started) connects]
    exact ⟨4096, by decide, rfl⟩
  · rw [kept, store]
    rfl

/-- The first request of the upper system: what device is this? -/
def statusRequest : IdtiClient.Request :=
  .plain idtiCmdReqStatus idtiSubcmdRead idtiObjFirmware 1 []

theorem statusRequest_fits : statusRequest.Fits := by
  refine ⟨by decide, by decide, by decide, by decide⟩

/-- The request in two pieces, with an alarm in between. -/
def statusInPieces : List Input :=
  [.receive (statusRequest.packet.bytes.take 10),
    .cardReadable { doorOpen := false, alarm := true, fire := false } [] [],
    .receive (statusRequest.packet.bytes.drop 10)]

/-- What a step that leaves the client its connection is told from. -/
theorem keepsClient_of_stepped {daemon next : Daemon} {input : Input}
    (same : daemon.replacesClient input = false)
    (other : ∀ ready answer, input ≠ .clientReady ready answer)
    (stepped : daemon.step input = some next) (stays : netIsConnected next.sys.link = true) :
    KeepsClient daemon input where
  same := same
  sends := fun ready answer socket => absurd socket (other ready answer)
  stays := by
    intro later again
    rw [stepped] at again
    cases again
    exact stays

/-- The three steps: each keeps the connection, and in the end the reply is sent. -/
structure StatusSteps (daemon first second third : Daemon) : Prop where
  receives : daemon.step (.receive (statusRequest.packet.bytes.take 10)) = some first
  alarms : first.step
    (.cardReadable { doorOpen := false, alarm := true, fire := false } [] []) = some second
  receivesLater : second.step (.receive (statusRequest.packet.bytes.drop 10)) = some third
  stays : netIsConnected first.sys.link = true
  staysOn : netIsConnected second.sys.link = true
  staysLater : netIsConnected third.sys.link = true
  wire : daemon.sys.link.sock.wire = []
  held : second.sys.link.conn.recvLen = 10
  drained : third.sys.link.conn.unsent = []
  long : 20 < third.sys.link.sock.wire.length

theorem statusInPieces_steps :
    ∃ daemon first second third, firstConnection = some daemon ∧
      StatusSteps daemon first second third := by
  have measured :
      (firstConnection.bind fun daemon =>
          (daemon.step (.receive (statusRequest.packet.bytes.take 10))).bind fun first =>
            (first.step
                (.cardReadable { doorOpen := false, alarm := true, fire := false } [] [])).bind
              fun second =>
                (second.step (.receive (statusRequest.packet.bytes.drop 10))).map fun third =>
                  (daemon, first, second, third)).map
        (fun states => (states.1.sys.link.sock.wire.length, states.2.2.1.sys.link.conn.recvLen,
          states.2.2.2.sys.link.conn.unsent.length,
          decide (20 < states.2.2.2.sys.link.sock.wire.length),
          netIsConnected states.2.1.sys.link && netIsConnected states.2.2.1.sys.link &&
            netIsConnected states.2.2.2.sys.link)) =
      some (0, 10, 0, true, true) := by decide +kernel
  obtain ⟨⟨daemon, first, second, third⟩, stepped, facts⟩ := Option.map_eq_some_iff.mp measured
  obtain ⟨daemon, starts, stepped⟩ := Option.bind_eq_some_iff.mp stepped
  obtain ⟨first, receives, stepped⟩ := Option.bind_eq_some_iff.mp stepped
  obtain ⟨second, alarms, stepped⟩ := Option.bind_eq_some_iff.mp stepped
  obtain ⟨third, receivesLater, same⟩ := Option.map_eq_some_iff.mp stepped
  cases same
  simp only [Prod.mk.injEq, decide_eq_true_eq, Bool.and_eq_true] at facts
  obtain ⟨wire, held, drained, long, ⟨stays, staysOn⟩, staysLater⟩ := facts
  exact ⟨daemon, first, second, third, starts,
    { receives := receives
      alarms := alarms
      receivesLater := receivesLater
      stays := stays
      staysOn := staysOn
      staysLater := staysLater
      wire := List.eq_nil_of_length_eq_zero wire
      held := held
      drained := List.eq_nil_of_length_eq_zero drained
      long := long }⟩

section Steps

variable {daemon first second third : Daemon}

theorem StatusSteps.reached (steps : StatusSteps daemon first second third) :
    run Daemon.step daemon statusInPieces = some third := by
  rw [statusInPieces, run_cons, steps.receives, Option.bind_some, run_cons, steps.alarms,
    Option.bind_some, run_cons, steps.receivesLater]
  rfl

theorem StatusSteps.arrives (steps : StatusSteps daemon first second third)
    (idle : daemon.Idle) (takes : daemon.sys.link.Takes) :
    Meets Daemon.step Arrives daemon statusInPieces := by
  have answers : first.sys.link.sock.answers = daemon.sys.link.sock.answers :=
    receive_answers rfl steps.receives
  have answersLater : second.sys.link.sock.answers = daemon.sys.link.sock.answers := by
    cases steps.alarms
    rw [onCardReadable_link]
    exact answers
  constructor
  · refine arrives_receive rfl takes.not_error (fun next again => ?_) (by decide +kernel) ?_
    · rw [steps.receives] at again
      cases again
      exact steps.stays
    · rw [idle.read]
      decide +kernel
  · intro next again
    rw [steps.receives] at again
    cases again
    refine ⟨⟨keepsClient_of_stepped rfl (by rintro _ _ ⟨⟩) steps.alarms steps.staysOn, ?_⟩,
      fun next again => ?_⟩
    · rintro _ _ ⟨⟩
    · rw [steps.alarms] at again
      cases again
      refine ⟨arrives_receive answersLater takes.not_error (fun next again => ?_)
        (by decide +kernel) ?_, fun _ _ => trivial⟩
      · rw [steps.receivesLater] at again
        cases again
        exact steps.staysLater
      · rw [steps.held]
        decide +kernel

/-- The client hears the reply in two pieces. -/
def statusTurn (heard : Bytes) : Turn :=
  { inputs := statusInPieces
    heard := [heard.take 20, heard.drop 20] }

theorem StatusSteps.completes (steps : StatusSteps daemon first second third)
    (idle : daemon.Idle) (takes : daemon.sys.link.Takes) :
    (statusTurn third.sys.link.sock.wire).Completes daemon statusRequest.packet.bytes := by
  refine
    { arrives := steps.arrives idle takes
      whole := ?_
      pieces := ?_
      taken := ?_ }
  · have whole : statusInPieces.flatMap Input.received = statusRequest.packet.bytes := by
      decide +kernel
    exact whole
  · have long := steps.long
    intro chunk member none
    have size := congrArg List.length none
    rcases List.mem_pair.mp member with rfl | rfl
    · rw [List.length_take, List.length_nil] at size
      omega
    · rw [List.length_drop, List.length_nil] at size
      omega
  · intro final again
    have same : some third = some final := steps.reached.symm.trans again
    cases same
    refine ⟨steps.drained, ?_⟩
    rw [steps.wire, List.nil_append, statusTurn, List.flatten_cons, List.flatten_singleton]
    exact List.take_append_drop 20 _

end Steps

theorem exchange_answered_status :
    ∃ daemon sent turn, buildRequest statusRequest = some sent ∧
      turn.inputs = statusInPieces ∧ turn.heard.length = 2 ∧ Turn.Completes daemon sent turn ∧
      ∃ final s pkt store data packet,
        run Daemon.step daemon turn.inputs = some final ∧ final.Idle ∧
        runCalls daemon turn.inputs = [(statusRequest.packet.header, sent)] ∧
        DuringRun daemon turn.inputs s ∧ s.link.store = daemon.sys.link.store ∧
        idtiHeaderParse pkt sent.length = some statusRequest.packet.header ∧
        (packetData pkt).Holds 0 statusRequest.data ∧
        Responds (requestTimeSync s statusRequest.packet.header pkt)
          (handleRequest s statusRequest.packet.header pkt) statusRequest.packet.header store
          data ∧
        final.sys.link.store = store ∧
        recvPacket (IdtiClient.answersOf turn.heard) = (some packet.bytes, []) ∧
        IsReplyTo (requestTimeSync s statusRequest.packet.header pkt) statusRequest.packet.header
          data packet ∧
        responseBody (some packet.bytes) = some data := by
  obtain ⟨daemon, first, second, third, starts, steps⟩ := statusInPieces_steps
  obtain ⟨same, found, idle, takes, _⟩ := firstConnection_idle
  rw [starts] at found
  cases found
  have completes := steps.completes idle takes
  have built := IdtiClient.buildRequest_eq statusRequest_fits
  exact ⟨daemon, _, _, built, rfl, rfl, completes,
    exchange_answered daemon idle statusRequest statusRequest_fits _ built _ completes⟩

end Acud
