/-
Module: Acud.Proofs.FrameCodec
Purpose: A packet that is built is parsed back field by field.
Trusted boundary: none
Main exports:
  idtiBuildPacketAt, IdtiPacket.header, frame_round_trip
-/
import Acud.Protocol

namespace Acud

open Lib

/-!
The builder places the fields of a packet at offsets, the parser extracts them from
offsets of its own.  The two tables are compared through `Memory.Holds`: a packet is a list
of blocks, and every block stands where the parser looks for it.

[SRC src/acud/protocol.c]
-/

/-- `idti_build_packet` on its output buffer: the length or `-1`, and the buffer. -/
def idtiBuildPacketAt (out : Memory) (outCap : Nat) (packet : IdtiPacket) : Int × Memory :=
  match idtiBuildPacket outCap packet with
  | some bytes => (bytes.length, out.write 0 bytes)
  | none => (-1, out)

/-- The header that is found in front of a packet. -/
def IdtiPacket.header (packet : IdtiPacket) : IdtiHeader :=
  { packetLength := packet.totalLen.toUInt16
    protocolVersion := idtiProtocolVersionV2
    frameOption := packet.sentOption
    destAddr := packet.destAddr
    srcAddr := packet.srcAddr
    frameIndex := packet.frameIndex
    password := packet.password
    command := packet.command
    subCommand := packet.subCommand
    object := packet.object
    startItem := packet.startItem
    endItem := packet.endItem
    dataBlockCurrent := packet.dataCurrent
    dataBlockEnd := packet.dataEnd
    dataBlockTotal := packet.dataTotal
    dataBlockOneLen := packet.dataOneLen
    dataLen := packet.data.length }

namespace IdtiPacket

variable {packet : IdtiPacket}

/-- The packet announces a tail of two bytes. -/
theorem tailLen_sentOption (packet : IdtiPacket) : idtiTailLen packet.sentOption = 2 := by
  have cleared : packet.sentOption &&& idtiFoptCheckPacket = 0 := by
    rw [sentOption, UInt16.and_assoc, UInt16.not_and_self, UInt16.and_zero]
  rw [idtiTailLen, cleared]
  rfl

/-- The bytes of a packet that fits. -/
def bytes (packet : IdtiPacket) : Bytes :=
  packet.checked ++ [xorBytes packet.checked] ++
    [0x00, packet.object, packet.startItem, packet.endItem] ++
    be16Bytes packet.dataCurrent ++ be16Bytes packet.dataEnd ++
    be16Bytes packet.dataTotal ++ be16Bytes packet.dataOneLen ++
    packet.data ++ [idtiPacketChecksumFixed, idtiEtx]

theorem length_bytes (packet : IdtiPacket) : packet.bytes.length = 46 + packet.data.length := by
  simp only [bytes, List.length_append, length_checked, length_be16Bytes, List.length_cons,
    List.length_nil]
  omega

/-- What stands in front of the checksum. -/
theorem checked_parts {memory : Memory} (holds : memory.Holds 0 packet.checked) :
    memory.byte 0 = idtiStx ∧ memory.be16At 1 = packet.totalLen.toUInt16 ∧
      memory.byte 3 = idtiProtocolVersionV2 ∧ memory.be16At 4 = packet.sentOption ∧
      memory.byte 6 = idtiHeaderLenV2.toUInt8 ∧
      Blob.ofMemory memory 7 idtiAddrDestLen = packet.destAddr ∧
      Blob.ofMemory memory 15 idtiAddrSrcLen = packet.srcAddr ∧
      memory.be32At 20 = packet.frameIndex ∧ memory.be32At 24 = packet.password ∧
      memory.byte 29 = packet.command ∧ memory.byte 30 = packet.subCommand := by
  simp only [checked, Memory.holds_append, Memory.holds_cons, List.length_append,
    length_be16Bytes, length_be32Bytes, Blob.length_bytes, List.length_cons, List.length_nil,
    idtiAddrDestLen, idtiAddrSrcLen, Nat.zero_add, Nat.reduceAdd] at holds
  obtain ⟨⟨⟨⟨⟨⟨⟨⟨⟨⟨stx, _⟩, length⟩, version, _⟩, option⟩, header, _⟩, dest⟩, src⟩, index⟩,
    password⟩, _, command, sub, _⟩ := holds
  exact ⟨stx, Memory.be16At_of_holds length, version, Memory.be16At_of_holds option, header,
    Blob.ofMemory_of_holds dest, Blob.ofMemory_of_holds src, Memory.be32At_of_holds index,
    Memory.be32At_of_holds password, command, sub⟩

/-- The blocks behind the checksum, and the data. -/
theorem bytes_parts {memory : Memory} (holds : memory.Holds 0 packet.bytes) :
    memory.Holds 0 packet.checked ∧ memory.byte 31 = xorBytes packet.checked ∧
      memory.byte 33 = packet.object ∧ memory.byte 34 = packet.startItem ∧
      memory.byte 35 = packet.endItem ∧ memory.be16At 36 = packet.dataCurrent ∧
      memory.be16At 38 = packet.dataEnd ∧ memory.be16At 40 = packet.dataTotal ∧
      memory.be16At 42 = packet.dataOneLen ∧ memory.Holds idtiHeaderLenV2 packet.data := by
  simp only [bytes, Memory.holds_append, Memory.holds_cons, List.length_append,
    length_be16Bytes, length_checked, List.length_cons, List.length_nil, Nat.zero_add,
    Nat.reduceAdd] at holds
  obtain ⟨⟨⟨⟨⟨⟨⟨⟨checked, checksum, _⟩, _, object, start, finish, _⟩, current⟩, last⟩, total⟩,
    oneLen⟩, data⟩, _⟩ := holds
  exact ⟨checked, checksum, object, start, finish, Memory.be16At_of_holds current,
    Memory.be16At_of_holds last, Memory.be16At_of_holds total, Memory.be16At_of_holds oneLen,
    data⟩

/-- The parser finds the header of a packet, whatever follows it. -/
theorem parse_bytes {memory : Memory} (holds : memory.Holds 0 packet.bytes)
    (fits : packet.totalLen ≤ 0xFFFF) {len : Nat} (whole : packet.totalLen ≤ len) :
    idtiHeaderParse memory len = some packet.header := by
  obtain ⟨checked, checksum, object, start, finish, current, last, total, oneLen, _⟩ :=
    bytes_parts holds
  obtain ⟨stx, length, version, option, header, dest, src, index, password, command, sub⟩ :=
    checked_parts checked
  have read : memory.read 0 31 = packet.checked := by
    have front := checked
    unfold Memory.Holds at front
    rwa [length_checked] at front
  have size : packet.totalLen = 44 + packet.data.length + 2 := rfl
  have announced : packet.totalLen.toUInt16.toNat = packet.totalLen := by
    rw [Nat.toUInt16_eq, UInt16.toNat_ofNat']
    exact Nat.mod_eq_of_lt (by omega)
  have long : ¬ len < idtiHeaderLenV2 := by
    unfold idtiHeaderLenV2
    omega
  have room : ¬ packet.totalLen < idtiHeaderLenV2 + 2 := by
    unfold idtiHeaderLenV2
    omega
  have dataLen : packet.totalLen - idtiHeaderLenV2 - 2 = packet.data.length := by
    unfold idtiHeaderLenV2
    omega
  have supported : (idtiHeaderLenV2.toUInt8).toNat = idtiHeaderLenV2 := rfl
  unfold idtiHeaderParse
  simp only [stx, length, version, option, header, dest, src, index, password, command, sub,
    checksum, object, start, finish, current, last, total, oneLen, read, announced, long, room,
    supported, tailLen_sentOption, dataLen, ne_eq, not_true_eq_false, ↓reduceIte]
  rfl

end IdtiPacket

theorem idtiBuildPacket_eq (outCap : Nat) (packet : IdtiPacket) :
    idtiBuildPacket outCap packet =
      if 46 + packet.data.length ≤ min outCap 65535 then some packet.bytes else none := by
  have size : packet.totalLen = 44 + packet.data.length + 2 := rfl
  unfold idtiBuildPacket
  split
  next large => rw [if_neg (by omega)]
  next fits =>
    rw [if_pos (by omega)]
    rfl

/-- For all field values, addresses and data: a packet that fits is built with its length,
and whoever receives its bytes, with any bytes behind them, parses every field and finds
the data at offset 44; a packet that does not fit is refused, and the buffer is left alone. -/
theorem frame_round_trip (out : Memory) (outCap : Nat) (packet : IdtiPacket) :
    let size := 46 + packet.data.length
    let built := idtiBuildPacketAt out outCap packet
    if size ≤ min outCap 65535 then
      built.1 = size ∧ packet.header.packetLength.toNat = size ∧
        ∀ received len, received.read 0 size = built.2.read 0 size → size ≤ len →
          idtiHeaderParse received len = some packet.header ∧
            received.read 44 packet.data.length = packet.data
    else built = (-1, out) := by
  have total : packet.totalLen = 46 + packet.data.length := by
    unfold IdtiPacket.totalLen idtiHeaderLenV2
    omega
  dsimp only
  unfold idtiBuildPacketAt
  rw [idtiBuildPacket_eq]
  split
  next fits =>
    refine ⟨congrArg Nat.cast packet.length_bytes, ?_, ?_⟩
    · rw [← total]
      show packet.totalLen.toUInt16.toNat = _
      rw [Nat.toUInt16_eq, UInt16.toNat_ofNat']
      exact Nat.mod_eq_of_lt (by omega)
    · intro received len same whole
      have holds : received.Holds 0 packet.bytes := by
        unfold Memory.Holds
        rw [packet.length_bytes, same, ← packet.length_bytes]
        exact Memory.read_write_same out 0 packet.bytes
      obtain ⟨_, _, _, _, _, _, _, _, _, data⟩ := IdtiPacket.bytes_parts holds
      exact ⟨IdtiPacket.parse_bytes holds (by omega) (by omega), data⟩
  next large => rfl

end Acud
