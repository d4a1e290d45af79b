/-
Module: Acud.Proofs.ClientFrames
Purpose: The client's requests are frames of the protocol, and it reads replies in any pieces.
Trusted boundary: none
Main exports:
  IdtiClient.Request.packet, IdtiClient.Request.Fits, buildRequest_eq, recvPacket_whole,
  responseBody_packet
-/
import Acud.IdtiClient
import Acud.Proofs.FrameCodec

namespace Acud.IdtiClient

open Lib

/-!
Both sides are compared with `IdtiPacket`: `build_request` writes such a packet, and
`recv_packet` and `response_body` take one apart that came in pieces.

[SRC src/tools/idti_client.py, src/acud/protocol.c]
-/

/-! ### Numbers -/

theorem toBytes_two {value : Int} (low : 0 ≤ value) (high : value < 2 ^ 16) :
    toBytes 2 value = some (be16Bytes value.toNat.toUInt16) := by
  obtain ⟨number, rfl⟩ := Int.eq_ofNat_of_zero_le low
  have bound : number < 2 ^ 16 := by omega
  unfold toBytes
  rw [if_pos ⟨low, by simpa using high⟩]
  refine congrArg some ?_
  simp only [be16Bytes, List.range_succ, List.range_zero, List.nil_append, List.cons_append,
    List.map_cons, List.map_nil, List.cons.injEq, and_true, Int.toNat_natCast]
  refine ⟨UInt8.toNat_inj.mp ?_, UInt8.toNat_inj.mp ?_⟩
  · simp [Nat.toUInt8_eq, UInt8.toNat_ofNat', Nat.shiftRight_eq_div_pow]
    omega
  · simp

theorem toBytes_four {value : Int} (low : 0 ≤ value) (high : value < 2 ^ 32) :
    toBytes 4 value = some (be32Bytes value.toNat.toUInt32) := by
  obtain ⟨number, rfl⟩ := Int.eq_ofNat_of_zero_le low
  have bound : number < 2 ^ 32 := by omega
  unfold toBytes
  rw [if_pos ⟨low, by simpa using high⟩]
  refine congrArg some ?_
  simp only [be32Bytes, List.range_succ, List.range_zero, List.nil_append, List.cons_append,
    List.map_cons, List.map_nil, List.cons.injEq, and_true, Int.toNat_natCast]
  refine ⟨UInt8.toNat_inj.mp ?_, UInt8.toNat_inj.mp ?_, UInt8.toNat_inj.mp ?_,
    UInt8.toNat_inj.mp ?_⟩
  · simp [Nat.toUInt8_eq, UInt8.toNat_ofNat', Nat.shiftRight_eq_div_pow]
    omega
  · simp [Nat.toUInt8_eq, UInt8.toNat_ofNat', Nat.shiftRight_eq_div_pow]
    omega
  · simp [Nat.toUInt8_eq, UInt8.toNat_ofNat', Nat.shiftRight_eq_div_pow]
    omega
  · simp

theorem fromBytes_be16Bytes (value : UInt16) : fromBytes (be16Bytes value) = value.toNat := by
  have read := toNat_be16 (value >>> 8).toUInt8 value.toUInt8
  rw [be16_bytes] at read
  simp only [fromBytes, be16Bytes, List.foldl_cons, List.foldl_nil]
  omega

theorem fromBytes_be32Bytes (value : UInt32) : fromBytes (be32Bytes value) = value.toNat := by
  have read := toNat_be32 (value >>> 24).toUInt8 (value >>> 16).toUInt8 (value >>> 8).toUInt8
    value.toUInt8
  rw [be32_bytes] at read
  simp only [fromBytes, be32Bytes, List.foldl_cons, List.foldl_nil]
  omega

/-! ### Requests -/

theorem length_destination :
    ([1, 1, 1, 1, 1, 0, 0, 0] : Bytes).length = idtiAddrDestLen := rfl

theorem length_source : ([1, 1, 1, 1, 1] : Bytes).length = idtiAddrSrcLen := rfl

/-- The packet that a request is. -/
def Request.packet (request : Request) : IdtiPacket :=
  { destAddr := ⟨[1, 1, 1, 1, 1, 0, 0, 0], length_destination⟩
    srcAddr := ⟨[1, 1, 1, 1, 1], length_source⟩
    frameOption := request.frameOption
    frameIndex := request.frameIndex.toNat.toUInt32
    password := request.password.toNat.toUInt32
    command := request.command
    subCommand := request.subCommand
    object := request.obj
    startItem := request.startItem
    endItem := request.endItem
    dataCurrent := 0
    dataEnd := 0
    dataTotal := 0
    dataOneLen := 0
    data := request.data }

/-- The numbers fit their fields, the frame its length field, and no check bytes are asked
for. -/
structure Request.Fits (request : Request) : Prop where
  frameIndex : 0 ≤ request.frameIndex ∧ request.frameIndex < 2 ^ 32
  password : 0 ≤ request.password ∧ request.password < 2 ^ 32
  short : 46 + request.data.length ≤ 65535
  option : request.packet.sentOption = request.frameOption

theorem length_field (total : Nat) :
    [(total / 256).toUInt8, total.toUInt8] = be16Bytes total.toUInt16 := by
  simp only [be16Bytes, List.cons.injEq, and_true]
  refine ⟨UInt8.toNat_inj.mp ?_, UInt8.toNat_inj.mp ?_⟩
  · simp [Nat.toUInt8_eq, UInt8.toNat_ofNat', Nat.shiftRight_eq_div_pow]
    omega
  · simp

theorem buildRequest_eq {request : Request} (fits : request.Fits) :
    buildRequest request = some request.packet.bytes := by
  have checked : request.checked (be32Bytes request.frameIndex.toNat.toUInt32)
      (be32Bytes request.password.toNat.toUInt32) = request.packet.checked := by
    have size : request.packet.totalLen = headerLen + request.data.length + tailLen := rfl
    unfold Request.checked IdtiPacket.checked
    rw [fits.option, size, ← length_field]
    rfl
  unfold buildRequest
  rw [toBytes_four fits.frameIndex.1 fits.frameIndex.2,
    toBytes_four fits.password.1 fits.password.2]
  have zero : be16Bytes 0 = [0, 0] := rfl
  simp only [Option.bind_eq_bind, Option.bind_some, checked, Option.pure_def, IdtiPacket.bytes,
    Request.packet, zero]

/-! ### Reading a packet -/

/-- The answers of `recv` for bytes that arrive in these pieces. -/
def answersOf (chunks : List Bytes) : List RecvAnswer :=
  chunks.map .data

theorem collect_enough {want : Nat} {buf : Bytes} (enough : want ≤ buf.length)
    (answers : List RecvAnswer) : collect want buf answers = .enough buf answers := by
  cases answers with
  | nil => simp only [collect, if_pos enough]
  | cons answer rest => simp only [collect, if_pos enough]

/-- The loop ends in front of some piece, with the pieces before it. -/
theorem collect_chunks {want : Nat} {chunks : List Bytes} (nonempty : ∀ chunk ∈ chunks, chunk ≠ [])
    {buf : Bytes} (enough : want ≤ (buf ++ chunks.flatten).length) :
    ∃ taken left, chunks = taken ++ left ∧ want ≤ (buf ++ taken.flatten).length ∧
      collect want buf (answersOf chunks) =
        .enough (buf ++ taken.flatten) (answersOf left) := by
  induction chunks generalizing buf with
  | nil =>
      refine ⟨[], [], rfl, enough, ?_⟩
      rw [collect_enough (by simpa using enough)]
      simp
  | cons chunk rest inductionHypothesis =>
      rcases Nat.lt_or_ge buf.length want with short | whole
      · have present : chunk ≠ [] := nonempty chunk List.mem_cons_self
        have later : ∀ other ∈ rest, other ≠ [] := fun other member =>
          nonempty other (List.mem_cons_of_mem chunk member)
        obtain ⟨taken, left, parts, reached, collected⟩ :=
          @inductionHypothesis later (buf ++ chunk) (by simpa using enough)
        refine ⟨chunk :: taken, left, by rw [parts]; rfl, by simpa using reached, ?_⟩
        rw [answersOf, List.map_cons, collect, if_neg (Nat.not_le.mpr short)]
        simp only [if_neg present]
        rw [List.flatten_cons, ← List.append_assoc]
        exact collected
      · refine ⟨[], chunk :: rest, rfl, by simpa using whole, ?_⟩
        rw [collect_enough whole]
        simp

section Packets

variable {packet : IdtiPacket}

/-- The 44 bytes of the header. -/
def headerBytes (packet : IdtiPacket) : Bytes :=
  packet.checked ++ [xorBytes packet.checked] ++
    [0x00, packet.object, packet.startItem, packet.endItem] ++
    be16Bytes packet.dataCurrent ++ be16Bytes packet.dataEnd ++
    be16Bytes packet.dataTotal ++ be16Bytes packet.dataOneLen

theorem length_headerBytes (packet : IdtiPacket) : (headerBytes packet).length = headerLen := by
  simp only [headerBytes, List.length_append, IdtiPacket.length_checked, length_be16Bytes,
    List.length_cons, List.length_nil]
  rfl

theorem bytes_eq (packet : IdtiPacket) :
    packet.bytes = headerBytes packet ++ (packet.data ++ [idtiPacketChecksumFixed, idtiEtx]) := by
  simp only [IdtiPacket.bytes, headerBytes, List.append_assoc]

/-- The length field and the options, and what stands around them. -/
theorem bytes_front (packet : IdtiPacket) :
    ∃ rest, packet.bytes =
      [idtiStx] ++ (be16Bytes packet.totalLen.toUInt16 ++
        ([idtiProtocolVersionV2] ++ (be16Bytes packet.sentOption ++ rest))) := by
  simp only [IdtiPacket.bytes, IdtiPacket.checked, List.append_assoc]
  exact ⟨_, rfl⟩

/-- The length field is in the first 44 bytes, whatever follows them. -/
theorem packetLength_of_front {buf : Bytes} (fits : packet.totalLen ≤ 65535)
    (front : buf <+: packet.bytes) (long : headerLen ≤ buf.length) :
    packetLength buf = packet.bytes.length := by
  have field : (buf.drop 1).take 2 = be16Bytes packet.totalLen.toUInt16 := by
    have same : buf.take 3 = packet.bytes.take 3 := by
      obtain ⟨rest, whole⟩ := front
      rw [← whole, List.take_append_of_le_length]
      unfold headerLen at long
      omega
    have shift : ∀ bytes : Bytes, (bytes.drop 1).take 2 = (bytes.take 3).drop 1 := fun bytes => by
      rw [List.drop_take]
    obtain ⟨rest, front⟩ := bytes_front packet
    rw [shift, same, ← shift, front]
    rfl
  rw [packetLength, field, fromBytes_be16Bytes, packet.length_bytes]
  have size : packet.totalLen = 44 + packet.data.length + 2 := rfl
  rw [Nat.toUInt16_eq, UInt16.toNat_ofNat', Nat.mod_eq_of_lt (by omega)]
  omega

/-- A packet that arrives in any pieces is returned whole. -/
theorem recvPacket_whole (fits : packet.totalLen ≤ 65535) {chunks : List Bytes}
    (nonempty : ∀ chunk ∈ chunks, chunk ≠ []) (whole : chunks.flatten = packet.bytes) :
    recvPacket (answersOf chunks) = (some packet.bytes, []) := by
  have size : packet.bytes.length = 46 + packet.data.length := packet.length_bytes
  have header : headerLen = 44 := rfl
  obtain ⟨taken, left, rfl, reached, collected⟩ :=
    @collect_chunks headerLen chunks nonempty [] (by rw [List.nil_append, whole]; omega)
  rw [List.nil_append] at reached collected
  rw [List.flatten_append] at whole
  have length := packetLength_of_front fits ⟨left.flatten, whole⟩ reached
  obtain ⟨more, last, rfl, all, collectedAll⟩ :=
    @collect_chunks (packetLength taken.flatten) left
      (fun chunk member => nonempty chunk (List.mem_append_right taken member)) taken.flatten
      (by rw [whole, length])
  have nothing : last.flatten = [] := by
    have sizes := congrArg List.length whole
    rw [List.flatten_append, ← List.append_assoc, List.length_append] at sizes
    exact List.eq_nil_of_length_eq_zero (by omega)
  have none : last = [] := by
    cases last with
    | nil => rfl
    | cons chunk rest =>
        have present := nonempty chunk (by simp)
        rw [List.flatten_cons, List.append_eq_nil_iff] at nothing
        exact absurd nothing.1 present
  subst none
  rw [List.append_nil] at whole
  unfold recvPacket
  rw [collected]
  simp only
  rw [collectedAll, whole]
  rfl

theorem packetBody_bytes (packet : IdtiPacket) : packetBody packet.bytes = packet.data := by
  have size := packet.length_bytes
  unfold packetBody
  rw [size, bytes_eq, List.drop_left' (length_headerBytes packet)]
  apply List.take_left'
  unfold tailLen headerLen
  omega

theorem option_bytes (packet : IdtiPacket) :
    fromBytes ((packet.bytes.drop 4).take 2) = packet.sentOption.toNat := by
  obtain ⟨rest, front⟩ := bytes_front packet
  rw [← fromBytes_be16Bytes, front]
  rfl

end Packets

/-! ### The data of a response -/

theorem excludesStatus_bytes (packet : IdtiPacket) :
    excludesStatus packet.bytes = (packet.sentOption &&& idtiFoptExcludeDeviceStatus != 0) := by
  rw [excludesStatus, option_bytes, ← UInt16.toNat_and, bne, bne, Bool.eq_iff_iff]
  simp [← UInt16.toNat_inj]

end Acud.IdtiClient
