/-
Module: Acud.IdtiClient
Purpose: The test client of the upper system: its requests, how it reads replies, and the two
  transfers of the roster.
Trusted boundary: none
Main exports:
  IdtiClient.Request, IdtiClient.buildRequest, IdtiClient.recvPacket, IdtiClient.responseBody,
  IdtiClient.userbinAck, IdtiClient.makeUserRecord, IdtiClient.Next,
  IdtiClient.sendUserbin, IdtiClient.recvUserbin
-/
import Acud.Receive
import Mathlib.Algebra.Group.Int.Defs

namespace Acud.IdtiClient

open Lib

/-!
The client connects, sends one request, reads the reply and only then sends the next one.  It
is a Python program: `none` stands for an exception where a value is computed, and
`recv_packet` reads from a list of what the calls of `recv` answer.

A function that talks to the device is a machine with the points between two messages as its
states: `next` says what it does at such a point, `answered` where a reply takes it.

[SRC src/tools/idti_client.py]
-/

def headerLen : Nat := 44
def tailLen : Nat := 2
def deviceStatusV2Len : Nat := 234
def eventInfoLen : Nat := 36
def firmwareInfoLen : Nat := 268

/-! ### Requests -/

/-- `value.to_bytes(width, "big")`. -/
def toBytes (width : Nat) (value : Int) : Option Bytes :=
  if 0 ≤ value ∧ value < 256 ^ width then
    some ((List.range width).map fun index =>
      (value.toNat / 256 ^ (width - 1 - index)).toUInt8)
  else none

/-- `int.from_bytes(data, "big")`. -/
def fromBytes (data : Bytes) : Nat :=
  data.foldl (fun value byte => 256 * value + byte.toNat) 0

/-- The arguments of `build_request`. -/
structure Request where
  command : UInt8
  subCommand : UInt8
  obj : UInt8
  frameIndex : Int
  password : Int
  startItem : UInt8
  endItem : UInt8
  data : Bytes
  frameOption : UInt16

/-- The defaults of `build_request`. -/
def Request.plain (command subCommand obj : UInt8) (frameIndex : Int) (data : Bytes) : Request :=
  { command := command
    subCommand := subCommand
    obj := obj
    frameIndex := frameIndex
    password := 0
    startItem := 0
    endItem := 0
    data := data
    frameOption := idtiFoptRequestAck ||| idtiFoptTcp }

/-- `p[0:31]`; the length field holds the low 16 bits of the length. -/
def Request.checked (request : Request) (frameIndex password : Bytes) : Bytes :=
  let total := headerLen + request.data.length + tailLen
  [idtiStx, (total / 256).toUInt8, total.toUInt8, idtiProtocolVersionV2,
      (request.frameOption >>> 8).toUInt8, request.frameOption.toUInt8, headerLen.toUInt8] ++
    [1, 1, 1, 1, 1, 0, 0, 0] ++ [1, 1, 1, 1, 1] ++ frameIndex ++ password ++
    [0x00, request.command, request.subCommand]

def buildRequest (request : Request) : Option Bytes := do
  let frameIndex ← toBytes 4 request.frameIndex
  let password ← toBytes 4 request.password
  let checked := request.checked frameIndex password
  pure
    (checked ++ [xorBytes checked] ++
      [0x00, request.obj, request.startItem, request.endItem] ++
      [0, 0] ++ [0, 0] ++ [0, 0] ++ [0, 0] ++ request.data ++
      [idtiPacketChecksumFixed, idtiEtx])

/-! ### Replies -/

/-- How a loop that waits for `want` bytes ends. -/
inductive Collected where
  | enough (buf : Bytes) (rest : List RecvAnswer)
  | closed (rest : List RecvAnswer)
  | timeout (buf : Bytes) (rest : List RecvAnswer)
deriving Repr, DecidableEq

/-- `while len(buf) < want`.  A socket from which nothing more comes runs into the timeout. -/
def collect (want : Nat) : Bytes → List RecvAnswer → Collected
  | buf, [] => if want ≤ buf.length then .enough buf [] else .timeout buf []
  | buf, answer :: rest =>
      if want ≤ buf.length then .enough buf (answer :: rest)
      else
        match answer with
        | .again => .timeout buf rest
        | .closed => .closed rest
        | .data chunk => if chunk = [] then .closed rest else collect want (buf ++ chunk) rest

/-- What a timeout leaves: the bytes so far, or `None` without any. -/
def partBuf (buf : Bytes) : Option Bytes :=
  if buf = [] then none else some buf

/-- `buf[1:3]` of a header. -/
def packetLength (buf : Bytes) : Nat :=
  fromBytes ((buf.drop 1).take 2)

/-- The packet, and the answers of `recv` that were not asked for. -/
def recvPacket (answers : List RecvAnswer) : Option Bytes × List RecvAnswer :=
  match collect headerLen [] answers with
  | .timeout buf rest => (partBuf buf, rest)
  | .closed rest => (none, rest)
  | .enough buf rest =>
      match collect (packetLength buf) buf rest with
      | .timeout part left => (partBuf part, left)
      | .closed left => (none, left)
      | .enough whole left => (some whole, left)

/-- `resp[HEADER_LEN:-TAIL_LEN]`. -/
def packetBody (resp : Bytes) : Bytes :=
  (resp.drop headerLen).take (resp.length - tailLen - headerLen)

/-- The option bits of a reply, `resp[4:6]`. -/
def excludesStatus (resp : Bytes) : Bool :=
  fromBytes ((resp.drop 4).take 2) &&& idtiFoptExcludeDeviceStatus.toNat != 0

/-- The body without the device status in front of it. -/
def withoutStatus (resp : Bytes) : Bytes :=
  let body := packetBody resp
  if !excludesStatus resp && decide (deviceStatusV2Len ≤ body.length) then
    body.drop deviceStatusV2Len
  else body

def responseBody : Option Bytes → Option Bytes
  | none => none
  | some resp =>
      if resp.length < headerLen + tailLen then none else some (withoutStatus resp)

def userbinAck : Option Bytes → Option UInt8
  | none => none
  | some resp => if resp.length < headerLen + 1 then none else (withoutStatus resp).head?

/-! ### Machines -/

/-- What a function does next: it sends bytes and waits, it has returned, or an exception has
ended it. -/
inductive Next (α : Type) where
  | send (request : Bytes)
  | returned (value : α)
  | raised
deriving Repr, DecidableEq

/-- Send a request that can be built. -/
def Next.request {α : Type} (request : Option Bytes) : Next α :=
  match request with
  | some bytes => .send bytes
  | none => .raised

/-! ### The roster from the device -/

inductive RecvUserbin where
  | start
  | continue (totalSize totalCount : Nat) (blob : Bytes) (index frameIndex : Nat)
  | finished (value : Option (Bytes × Nat × Nat))
deriving Repr, DecidableEq

def recvUserbin : RecvUserbin :=
  .start

def RecvUserbin.next : RecvUserbin → Next (Option (Bytes × Nat × Nat))
  | .start =>
      .request (buildRequest
        (.plain idtiCmdReqData idtiSubcmdRead idtiObjUserbinStart 1 [0x01]))
  | .continue totalSize totalCount blob index frameIndex =>
      if blob.length < totalSize then
        .request ((toBytes 2 index).bind fun data =>
          buildRequest
            (.plain idtiCmdReqData idtiSubcmdRead idtiObjUserbinContinue frameIndex data))
      else .returned (some (blob, totalSize, totalCount))
  | .finished value => .returned value

def RecvUserbin.answered (resp : Option Bytes) : RecvUserbin → RecvUserbin
  | .start =>
      match responseBody resp with
      | none => .finished none
      | some body =>
          if body.length < 10 then .finished none
          else
            .continue (fromBytes (body.take 4)) (fromBytes ((body.drop 4).take 4)) [] 0 2
  | .continue totalSize totalCount blob index frameIndex =>
      match responseBody resp with
      | none => .finished none
      | some body =>
          if body.length < 2 then .finished none
          -- An empty part breaks the loop; the function returns what it has.
          else if body.drop 2 = [] then .finished (some (blob, totalSize, totalCount))
          else
            .continue totalSize totalCount (blob ++ body.drop 2) (index + 1) (frameIndex + 1)
  | .finished value => .finished value

/-! ### The roster to the device -/

/-- `make_user_record` with the default name, for bytes that were already made. -/
def makeUserRecord (serial : Bytes) (userId : UserId) (cardId : Blob 8) (enabled : Bool)
    (validation timezone : Bytes) (level : UInt8) : Bytes :=
  let info :=
    userId.bytes ++ List.replicate 4 0 ++ [if enabled then 0x80 else 0x00] ++
      List.replicate 3 0 ++ [level] ++ validation ++ timezone ++ [0xff, 0xff, 0xff] ++
      List.replicate 8 0
  let body :=
    info ++ cardId.bytes ++ List.replicate 4 0 ++ List.replicate 16 0x20 ++
      List.replicate 58 0 ++ [0x01]
  serial ++ serial ++ body ++ [xorBytes body]

/-- The user that `send_userbin` makes at a position: the second is disabled, the third has a
timezone. -/
def sampleRecord (position : Nat) : Option Bytes := do
  let userId ← toBytes 8 (position + 1)
  let cardId ← toBytes 8 (0x5A5A0000 + position)
  let serial ← toBytes 4 position
  let validation ← toBytes 2 0
  let timezone ← toBytes 2 (if position = 2 then 2 else 0)
  pure
    (makeUserRecord serial (Blob.ofMemory (Memory.ofBytes userId) 0 acuUserIdLen)
      (Blob.ofMemory (Memory.ofBytes cardId) 0 8) (decide (position ≠ 1)) validation timezone 1)

/-- `--corrupt`: the check byte of the first record is turned over. -/
def corrupted (blob : Bytes) : Bytes :=
  if 128 ≤ blob.length then blob.set 127 (blob.getD 127 0 ^^^ 0xFF) else blob

inductive SendUserbin where
  | start (blob : Bytes) (totalCount : Int) (chunkSize : Nat)
  | continue (blob : Bytes) (chunkSize index off frameIndex : Nat)
  | finished (value : Nat)
deriving Repr, DecidableEq

/-- The state in which all records are made. -/
def sendUserbin (count : Int) (chunkSize : Nat) (corrupt : Bool) : Option SendUserbin := do
  let records ← (List.range count.toNat).mapM sampleRecord
  let blob := if corrupt then corrupted records.flatten else records.flatten
  pure (.start blob count chunkSize)

def SendUserbin.next : SendUserbin → Next Nat
  | .start blob totalCount _ =>
      .request do
        let size ← toBytes 4 blob.length
        let count ← toBytes 4 totalCount
        buildRequest (.plain idtiCmdSndData idtiSubcmdWrite idtiObjUserbinStart 1
          (size ++ count ++ [0x01, 0x00]))
  | .continue blob chunkSize index off frameIndex =>
      if off < blob.length then
        .request do
          let number ← toBytes 2 index
          buildRequest (.plain idtiCmdSndData idtiSubcmdWrite idtiObjUserbinContinue frameIndex
            (number ++ (blob.drop off).take chunkSize))
      else .returned 0
  | .finished value => .returned value

def SendUserbin.answered (resp : Option Bytes) : SendUserbin → SendUserbin
  | .start blob _ chunkSize =>
      if userbinAck resp = some 0x01 then .continue blob chunkSize 0 0 2 else .finished 1
  | .continue blob chunkSize index off frameIndex =>
      if userbinAck resp = some 0x01 then
        .continue blob chunkSize (index + 1) (off + ((blob.drop off).take chunkSize).length)
          (frameIndex + 1)
      else .finished 1
  | .finished value => .finished value

end Acud.IdtiClient
