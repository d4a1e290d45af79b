/-
Module: Acud.Proofs.RruFrames
Purpose: The frames of a remote reader unit as a format, and that the builder builds them.
Trusted boundary: none
Main exports:
  rruFrame, rruFormat, whole_parts, accepts_iff, whole_rruFrame, rruSent_eq
-/
import Acud.Lib.Framing
import Acud.Rru

namespace Acud

open Lib

/-!
`rruFormat` says when bytes are as long as they announce, and accepts them when they are
the frame around their own body.  The builder writes such a frame for every sequence
number, type and payload, and nothing else is accepted: the two ends of the line meet in
`rruFrame`.

[SRC src/tools/rru_proto_check.c]
-/

/-- The frame around what the length field counts. -/
def rruFrame (body : Bytes) : Bytes :=
  [rruStx] ++ be16Bytes body.length.toUInt16 ++ body ++ be16Bytes (rruCrc body) ++ [rruEtx]

/-- What stands between the length field and the CRC. -/
def rruBody (frame : Bytes) : Bytes :=
  (frame.drop 3).take (frame.length - 6)

/-- The length that STX and the length field tell. -/
def rruSize : Bytes → Option Nat
  | [_, high, low] =>
      let body := (be16 high low).toNat
      if body < 2 ∨ 2 + rruMaxPayload.toNat < body then none else some (3 + body + 3)
  | _ => none

theorem rruSize_eq_some {head : Bytes} {total : Nat} (announced : rruSize head = some total) :
    ∃ stx high low, head = [stx, high, low] ∧ total = (be16 high low).toNat + 6 ∧
      2 ≤ (be16 high low).toNat ∧ (be16 high low).toNat ≤ 257 := by
  unfold rruSize at announced
  split at announced
  next stx high low =>
    dsimp only at announced
    have longest : rruMaxPayload.toNat = 255 := rfl
    split at announced
    next => cases announced
    next fits =>
      cases announced
      exact ⟨stx, high, low, rfl, by omega, by omega, by omega⟩
  next => cases announced

/-- Frames as the two ends of the line agree on them. -/
def rruFormat : FrameFormat UInt8 where
  start byte := byte == rruStx
  headLen := 3
  size := rruSize
  accepts frame := frame == rruFrame (rruBody frame)
  headLen_pos := by decide
  headLen_le_size head total announced := by
    obtain ⟨_, _, _, _, size, _⟩ := rruSize_eq_some announced
    omega

theorem rruSize_le (head : Bytes) (total : Nat) (announced : rruFormat.size head = some total) :
    total ≤ rruFrameMax := by
  obtain ⟨_, _, _, _, size, _, most⟩ := rruSize_eq_some announced
  have longest : rruFrameMax = 263 := rfl
  omega

theorem length_rruFrame (body : Bytes) : (rruFrame body).length = body.length + 6 := by
  simp only [rruFrame, List.length_append, List.length_cons, List.length_nil, length_be16Bytes]
  omega

/-- A frame field by field. -/
theorem rruFrame_parts (body : Bytes) :
    rruFrame body =
      [rruStx, (body.length.toUInt16 >>> 8).toUInt8, body.length.toUInt16.toUInt8] ++ body ++
        [(rruCrc body >>> 8).toUInt8, (rruCrc body).toUInt8, rruEtx] := by
  simp [rruFrame, be16Bytes]

/-- A whole piece is STX, its length, as many bytes, and three more. -/
theorem whole_parts {piece : Bytes} (whole : rruFormat.Whole piece) :
    ∃ high low body first second last,
      piece = [rruStx, high, low] ++ body ++ [first, second, last] ∧
        (be16 high low).toNat = body.length ∧ 2 ≤ body.length ∧ body.length ≤ 257 := by
  obtain ⟨stx, high, low, head, size, least, most⟩ := rruSize_eq_some whole.announced
  change piece.take 3 = _ at head
  have split : piece = piece.take 3 ++ (piece.drop 3) := (List.take_append_drop 3 piece).symm
  have behind : (piece.drop 3).length = (be16 high low).toNat + 3 := by
    rw [List.length_drop]
    omega
  have tail : ((piece.drop 3).drop (be16 high low).toNat).length = 3 := by
    rw [List.length_drop]
    omega
  obtain ⟨first, second, last, ends⟩ := List.length_eq_three.mp tail
  have started : stx = rruStx := by
    have front : piece.head? = some stx := by
      rw [split, head]
      rfl
    exact beq_iff_eq.mp (whole.started stx front)
  have body : ((piece.drop 3).take (be16 high low).toNat).length = (be16 high low).toNat := by
    rw [List.length_take]
    omega
  refine ⟨high, low, (piece.drop 3).take (be16 high low).toNat, first, second, last, ?_, ?_⟩
  · rw [List.append_assoc, ← ends, List.take_append_drop, ← started, ← head]
    exact split
  · rw [body]
    exact ⟨rfl, least, most⟩

theorem rruBody_parts (high low first second last : UInt8) (body : Bytes) :
    rruBody ([rruStx, high, low] ++ body ++ [first, second, last]) = body := by
  have count : ([rruStx, high, low] ++ body ++ [first, second, last]).length - 6 = body.length := by
    simp only [List.length_append, List.length_cons, List.length_nil]
    omega
  rw [rruBody, count, List.append_assoc]
  exact List.take_left

/-- A piece is a frame when its CRC and its last byte are right. -/
theorem accepts_parts {high low first second last : UInt8} {body : Bytes}
    (announced : (be16 high low).toNat = body.length) :
    rruFormat.accepts ([rruStx, high, low] ++ body ++ [first, second, last]) =
      (last == rruEtx && be16 first second == rruCrc body) := by
  have length : body.length.toUInt16 = be16 high low := by
    rw [← announced]
    exact UInt16.ofNat_toNat
  have same : rruFormat.accepts ([rruStx, high, low] ++ body ++ [first, second, last]) =
      ([rruStx, high, low] ++ body ++ [first, second, last] == rruFrame body) := by
    show (_ == rruFrame (rruBody _)) = _
    rw [rruBody_parts]
  rw [same, Bool.eq_iff_iff, Bool.and_eq_true, beq_iff_eq, beq_iff_eq, beq_iff_eq, rruFrame, length,
    be16Bytes_be16]
  constructor
  · intro equal
    have tails : [first, second, last] = be16Bytes (rruCrc body) ++ [rruEtx] := by
      simpa using equal
    rw [be16Bytes] at tails
    cases tails
    exact ⟨rfl, be16_bytes _⟩
  · rintro ⟨rfl, crc⟩
    rw [← crc, be16Bytes_be16]
    simp

/-- What is accepted is the frame around its body. -/
theorem accepts_iff (frame : Bytes) :
    rruFormat.accepts frame = true ↔ frame = rruFrame (rruBody frame) :=
  beq_iff_eq

theorem rruBody_rruFrame (body : Bytes) : rruBody (rruFrame body) = body := by
  rw [rruFrame_parts, rruBody_parts]

theorem accepts_rruFrame (body : Bytes) : rruFormat.accepts (rruFrame body) = true := by
  rw [accepts_iff, rruBody_rruFrame]

/-- A frame is as long as it announces. -/
theorem whole_rruFrame {body : Bytes} (least : 2 ≤ body.length) (most : body.length ≤ 257) :
    rruFormat.Whole (rruFrame body) where
  started symbol found := by
    cases found
    rfl
  long := by
    rw [length_rruFrame]
    exact Nat.le_add_left 3 (body.length + 3)
  announced := by
    have field : (be16 (body.length.toUInt16 >>> 8).toUInt8 body.length.toUInt16.toUInt8).toNat =
        body.length := by
      rw [be16_bytes]
      exact Nat.mod_eq_of_lt (by omega)
    have longest : rruMaxPayload.toNat = 255 := rfl
    show rruSize [rruStx, (body.length.toUInt16 >>> 8).toUInt8, body.length.toUInt16.toUInt8] = _
    rw [rruSize, field, if_neg (by omega), length_rruFrame]
    exact congrArg some (by omega)

/-! ### The builder -/

theorem toNat_bodyLength (n : UInt8) : (2 + n.toUInt16).toNat = 2 + n.toNat := by
  have bound := n.toNat_lt
  simp only [UInt16.toNat_add, UInt8.toNat_toUInt16, UInt16.reduceToNat]
  exact Nat.mod_eq_of_lt (by omega)

theorem toNat_frameLength (n : UInt8) : (3 + (2 + n.toUInt16) + 3).toNat = n.toNat + 8 := by
  have bound := n.toNat_lt
  simp only [UInt16.toNat_add 3, UInt16.toNat_add _ 3, toNat_bodyLength, UInt16.reduceToNat]
  omega

/-- An empty payload is not copied, which makes no difference. -/
theorem copied_payload (memory payload : Memory) (n : UInt8) :
    (if n ≠ 0 then memory.write 5 (payload.read 0 n.toNat) else memory) =
      memory.write 5 (payload.read 0 n.toNat) := by
  split
  next => rfl
  next empty =>
    rw [Decidable.not_not.mp empty]
    exact (memory.write_nil 5).symm

/-- The sequence number, the type and the payload, in a frame. -/
theorem rruSent_eq (out : Memory) (seq type : UInt8) (payload : Memory) (n : UInt8) :
    rruSent out seq type payload n = rruFrame ([seq, type] ++ payload.read 0 n.toNat) := by
  have count : (payload.read 0 n.toNat).length = n.toNat := Memory.length_read ..
  unfold rruSent rruBuild
  simp only [copied_payload, toNat_frameLength, rruCrc16, toNat_bodyLength]
  generalize payload.read 0 n.toNat = data at count
  generalize fields : [rruStx] ++ be16Bytes (2 + n.toUInt16) ++ [seq, type] = head
  have five : head.length = 5 := by
    rw [← fields]
    rfl
  have behind : 3 + (2 + n.toNat) = (head ++ data).length := by
    rw [List.length_append]
    omega
  -- First the fields and the payload, one behind the other.
  have written : ((out.write 0 head).write 5 data).read 0 (head ++ data).length = head ++ data := by
    have before := Memory.read_write_same out 0 head
    rw [← five]
    exact Memory.read_write_behind before data
  generalize (out.write 0 head).write 5 data = filled at written
  have body : (filled.advance 3).read 0 (2 + n.toNat) = [seq, type] ++ data := by
    have dropped := Memory.drop_read filled 0 (head ++ data).length 3
    rw [written, ← behind, Nat.add_sub_cancel_left, ← fields] at dropped
    rw [Memory.read_advance]
    exact dropped.symm
  rw [body, behind]
  -- Then the tail behind both.
  have finished := Memory.read_write_behind written
    (be16Bytes (rruCrc ([seq, type] ++ data)) ++ [rruEtx])
  have all : (head ++ data ++ (be16Bytes (rruCrc ([seq, type] ++ data)) ++ [rruEtx])).length =
      n.toNat + 8 := by
    simp only [List.length_append, length_be16Bytes, List.length_singleton]
    omega
  have announced : ([seq, type] ++ data).length.toUInt16 = 2 + n.toUInt16 := by
    apply UInt16.toNat_inj.mp
    have bound := n.toNat_lt
    rw [toNat_bodyLength, List.length_append, count]
    exact Nat.mod_eq_of_lt (by simp; omega)
  rw [all] at finished
  rw [finished, rruFrame, announced, ← fields]
  simp only [List.append_assoc, List.cons_append, List.nil_append]

end Acud
