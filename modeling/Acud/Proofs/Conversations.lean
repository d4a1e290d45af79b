/-
Module: Acud.Proofs.Conversations
Purpose: Runs of turns between the client and the daemon.
Trusted boundary: none
Main exports:
  talk, TurnCompletes, TurnAnswered, talk_userbin, talk_ends
-/
import Acud.Proofs.ClientExchange

namespace Acud

open Lib
open IdtiClient (Request Next buildRequest recvPacket responseBody userbinAck)

/-!
A function of the client that talks to the device goes from one message to the next; a step of
the conversation is the turn of the message it has sent.  `talk_userbin` says once what such a
step is for a message of a transfer: the handler's data is what the client reads, and the
daemon is idle again.

[SRC src/tools/idti_client.py, src/acud/net.c]
-/

section Talk

variable {σ α : Type} (next : σ → Next α) (answered : Option Bytes → σ → σ)

/-- The turn of the message that is sent; there is none when the function has ended. -/
def talk (state : Daemon × σ) (turn : Turn) : Option (Daemon × σ) :=
  match next state.2 with
  | .send _ =>
      (run Daemon.step state.1 turn.inputs).map fun final =>
        (final, answered (recvPacket (IdtiClient.answersOf turn.heard)).1 state.2)
  | .returned _ | .raised => none

/-- The turn completes for the message that is sent. -/
def TurnCompletes (state : Daemon × σ) (turn : Turn) : Prop :=
  ∀ sent, next state.2 = .send sent → turn.Completes state.1 sent

end Talk

/-! ### Messages of a transfer -/

/-- The daemon is idle again, its roster store is as the handler left it, and the client has
read this data. -/
structure TurnAnswered (final : Daemon) (store : UserStore) (data : Bytes)
    (resp : Option Bytes) : Prop where
  idle : final.Idle
  store : final.sys.link.store = store
  attached : final.sys.link.userbinAttached = true
  body : responseBody resp = some data
  ack : userbinAck resp = data.head?

/-- Objects 208 and 209 belong to the transfer handler alone. -/
theorem handleRequest_userbin {s handled : NetSys} {hdr : IdtiHeader} {pkt : Memory}
    (object : hdr.object = idtiObjUserbinStart ∨ hdr.object = idtiObjUserbinContinue)
    (claimed : handleUserbinRequest (requestTimeSync s hdr pkt) hdr pkt = some handled) :
    handleRequest s hdr pkt = handled := by
  have history : hdr.object ≠ idtiObjHistory := by
    rcases object with same | same <;> (rw [same]; decide)
  have firmware : hdr.object ≠ idtiObjFirmware := by
    rcases object with same | same <;> (rw [same]; decide)
  have claim : claimRequest (requestTimeSync s hdr pkt) hdr pkt = some handled := by
    simp [claimRequest, claimed]
  simp [handleRequest, history, firmware, claim]

theorem answerIndex_userbin {hdr : IdtiHeader}
    (object : hdr.object = idtiObjUserbinStart ∨ hdr.object = idtiObjUserbinContinue) :
    hdr.frameIndex = answerIndex hdr := by
  have other : hdr.object ≠ idtiObjHistoryCount := by
    rcases object with same | same <;> (rw [same]; decide)
  simp [answerIndex, IdtiHeader.IsEventCountCheck, other]

/-- A request with the default fields fits when its number and its data do. -/
theorem fits_plain {command subCommand object : UInt8} {frameIndex : Int} {data : Bytes}
    (low : 0 ≤ frameIndex) (high : frameIndex < 2 ^ 32) (short : 46 + data.length ≤ 65535) :
    (Request.plain command subCommand object frameIndex data).Fits := by
  have password : (0 : Int) < 2 ^ 32 := by decide
  refine ⟨⟨low, high⟩, ⟨Int.le_refl 0, password⟩, short, ?_⟩
  show (idtiFoptRequestAck ||| idtiFoptTcp ||| idtiFoptRequestAck) &&& ~~~idtiFoptCheckPacket =
    idtiFoptRequestAck ||| idtiFoptTcp
  decide

section Step

variable {σ α : Type} {next : σ → Next α} {answered : Option Bytes → σ → σ}

theorem talk_sends {daemon final : Daemon} {client after : σ} {turn : Turn}
    (stepped : talk next answered (daemon, client) turn = some (final, after)) :
    ∃ sent, next client = .send sent ∧ run Daemon.step daemon turn.inputs = some final ∧
      after = answered (recvPacket (IdtiClient.answersOf turn.heard)).1 client := by
  unfold talk at stepped
  split at stepped
  next sent sends =>
    obtain ⟨_, reached, same⟩ := Option.map_eq_some_iff.mp stepped
    cases same
    exact ⟨sent, sends, reached, rfl⟩
  next => cases stepped
  next => cases stepped

/-- What the transfer handler answers in every state with the same roster store. -/
def UserbinAnswers (request : Request) (before store : UserStore) (data : Bytes) : Prop :=
  ∀ s pkt, s.link.store = before → s.link.userbinAttached = true →
    (packetData pkt).Holds 0 request.data →
      ∃ handled, handleUserbinRequest s request.packet.header pkt = some handled ∧
        Responds s handled request.packet.header store data

/-- A turn with a message of a transfer. -/
theorem talk_userbin {daemon final : Daemon} {client after : σ} {turn : Turn}
    {request : Request} {store : UserStore} {data : Bytes} (idle : daemon.Idle)
    (attached : daemon.sys.link.userbinAttached = true) (fits : request.Fits)
    (object : request.obj = idtiObjUserbinStart ∨ request.obj = idtiObjUserbinContinue)
    (sends : next client = .request (buildRequest request))
    (answers : UserbinAnswers request daemon.sys.link.store store data)
    (completes : TurnCompletes next (daemon, client) turn)
    (stepped : talk next answered (daemon, client) turn = some (final, after)) :
    ∃ resp, TurnAnswered final store data resp ∧ after = answered resp client := by
  rw [IdtiClient.buildRequest_eq fits] at sends
  obtain ⟨sent, sentHere, reached, rfl⟩ := talk_sends stepped
  obtain ⟨other, s, pkt, exchange⟩ := turn_exchange idle fits (completes _ sends)
  rw [exchange.reached] at reached
  cases reached
  obtain ⟨_, _, _, _, _, _, _, _, _, body⟩ := IdtiPacket.bytes_parts exchange.holds
  have same : (requestTimeSync s request.packet.header pkt).link = s.link := by
    rw [requestTimeSync_eq]
  have userbin : s.link.userbinAttached = true :=
    exchange.carried.link.attached.1.trans attached
  obtain ⟨handled, claimed, responds⟩ :=
    answers (requestTimeSync s request.packet.header pkt) pkt
      (by rw [same]; exact exchange.carried.link.store) (by rw [same]; exact userbin)
      (Memory.holds_advance.mpr body)
  rw [← handleRequest_userbin object claimed] at responds
  obtain ⟨packet, replies, received, kept, keptAttached, _⟩ := exchange.reads store data responds
  refine ⟨some packet.bytes, ⟨exchange.idle, kept, keptAttached.trans attached, replies.body,
    replies.ack⟩, ?_⟩
  rw [received]

/-- On a socket that takes bytes there is such a turn. -/
theorem talk_exists {daemon : Daemon} {client : σ} {request : Request} (idle : daemon.Idle)
    (takes : daemon.sys.link.Takes) (fits : request.Fits)
    (sends : next client = .request (buildRequest request)) :
    ∃ turn final after, TurnCompletes next (daemon, client) turn ∧
      talk next answered (daemon, client) turn = some (final, after) ∧
      final.sys.link.Takes := by
  rw [IdtiClient.buildRequest_eq fits] at sends
  obtain ⟨turn, completes, keeps⟩ := turn_exists idle takes fits
  obtain ⟨final, _, _, exchange⟩ := turn_exchange idle fits completes
  refine ⟨turn, final, answered (recvPacket (IdtiClient.answersOf turn.heard)).1 client, ?_, ?_,
    keeps final exchange.reached⟩
  · intro sent sentHere
    rw [sends] at sentHere
    cases sentHere
    exact completes
  · unfold talk
    simp only [sends, Next.request, exchange.reached, Option.map_some]

/-- A conversation whose turns keep an invariant, and in which the function has returned or
sends a request that fits, comes to its end when the number of turns is bounded. -/
theorem talk_ends {property : Nat → Daemon × σ → Prop} {limit : Nat}
    (bounded : ∀ count state, property count state → count ≤ limit)
    (keeps : ∀ count state turn later, property count state → TurnCompletes next state turn →
      talk next answered state turn = some later → property (count + 1) later)
    (goesOn : ∀ count daemon client, property count (daemon, client) →
      (∃ value, next client = .returned value) ∨
        ∃ request : Request, daemon.Idle ∧ request.Fits ∧
          next client = .request (buildRequest request))
    {daemon : Daemon} {client : σ} (takes : daemon.sys.link.Takes)
    (holds : property 0 (daemon, client)) :
    ∃ turns final after, Meets (talk next answered) (TurnCompletes next) (daemon, client) turns ∧
      run (talk next answered) (daemon, client) turns = some (final, after) ∧
      ∃ value, next after = .returned value := by
  have most : ∀ count (state : Daemon × σ),
      property count state ∧ state.1.sys.link.Takes → count ≤ limit :=
    fun count state both => bounded count state both.1
  have progress : ∀ count (state : Daemon × σ),
      property count state ∧ state.1.sys.link.Takes →
        (∃ value, next state.2 = .returned value) ∨
          ∃ turn later, TurnCompletes next state turn ∧ talk next answered state turn = some later ∧
            property (count + 1) later ∧ later.1.sys.link.Takes := by
    rintro count ⟨here, client⟩ ⟨holdsHere, takesHere⟩
    refine (goesOn count here client holdsHere).imp_right ?_
    rintro ⟨request, idle, fits, sends⟩
    obtain ⟨turn, final, after, completes, stepped, takesLater⟩ :=
      @talk_exists _ _ _ answered _ _ _ idle takesHere fits sends
    exact ⟨turn, _, completes, stepped, keeps _ _ _ _ holdsHere completes stepped, takesLater⟩
  obtain ⟨turns, ⟨final, after⟩, completes, reached, ended⟩ :=
    exists_meets_done most progress ⟨holds, takes⟩
  exact ⟨turns, final, after, completes, reached, ended⟩

end Step

end Acud
