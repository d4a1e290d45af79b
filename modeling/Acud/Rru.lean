/-
Module: Acud.Rru
Purpose: Frames between the controller and a remote reader unit: checksum, receiver, builder.
Trusted boundary: none
Main exports:
  rruCrc16, RruRx, rruRxByte, rruFeed, rruBuild
-/
import Acud.Lib.Memory
import Mathlib.Tactic.Common

namespace Acud

open Lib

/-!
A frame is STX, a 16-bit length, the sequence number, the type and at most 255 bytes of
payload, a CRC over what the length counts, and ETX.  Nothing is escaped: the receiver
looks for STX, and from then on for as many bytes as the length announces.

`none` is a write behind the receiver's buffer.

[SRC src/tools/rru_proto_check.c]
-/

def rruStx : UInt8 := 0x02
def rruEtx : UInt8 := 0x03
def rruMaxPayload : UInt16 := 255
def rruFrameMax : Nat := 1 + 2 + 2 + rruMaxPayload.toNat + 2 + 1

/-- One round of the inner loop of `rru_crc16`. -/
def rruCrcBit (crc : UInt16) : UInt16 :=
  if crc &&& 0x8000 ≠ 0 then (crc <<< 1) ^^^ 0x1021 else crc <<< 1

/-- One round of the outer loop of `rru_crc16`. -/
def rruCrcByte (crc : UInt16) (byte : UInt8) : UInt16 :=
  Nat.repeat rruCrcBit 8 (crc ^^^ (byte.toUInt16 <<< 8))

/-- The loop of `rru_crc16` over the bytes it reads. -/
def rruCrc (bytes : Bytes) : UInt16 :=
  bytes.foldl rruCrcByte 0xFFFF

def rruCrc16 (p : Memory) (n : UInt16) : UInt16 :=
  rruCrc (p.read 0 n.toNat)

/-- The check value that the program prints first. -/
example :
    rruCrc16 (Memory.ofBytes ("123456789".toList.map fun c => c.toNat.toUInt8)) 9 = 0x29B1 := by
  decide +kernel

/-! ### Receiver -/

structure RruRx where
  buf : Memory
  len : UInt16
  want : UInt16

/-- `RruRx rx = {0}`. -/
def RruRx.cleared : RruRx :=
  { buf := Memory.zeros
    len := 0
    want := 0 }

/-- `buf[len++] = b`. -/
def RruRx.put (r : RruRx) (b : UInt8) : Option RruRx :=
  if r.len.toNat < rruFrameMax then
    some
      { r with
        buf := r.buf.write r.len.toNat [b]
        len := r.len + 1 }
  else none

/-- The checks on a frame that is complete. -/
def RruRx.frameOk (r : RruRx) : Bool :=
  let body := r.want - 6
  let got := r.buf.be16At (3 + body.toNat)
  r.buf.byte (r.want.toNat - 1) == rruEtx && got == rruCrc16 (r.buf.advance 3) body

/-- The end of `rru_rx_byte`: wait for more, or judge what came and start again. -/
def RruRx.finish (r : RruRx) : RruRx × Bool :=
  if r.want = 0 ∨ r.len < r.want then (r, false)
  else ({ r with len := 0 }, r.frameOk)

/-- The length field is complete: give up, or go on with the length of the frame. -/
def RruRx.readLength (r : RruRx) : RruRx × Bool :=
  let body := r.buf.be16At 1
  if body < 2 ∨ body > 2 + rruMaxPayload then ({ r with len := 0 }, false)
  else { r with want := 3 + body + 3 }.finish

def rruRxByte (r : RruRx) (b : UInt8) : Option (RruRx × Bool) :=
  if r.len = 0 then
    if b ≠ rruStx then some (r, false)
    else
      match r.put b with
      | some r => some ({ r with want := 0 }, false)
      | none => none
  else
    match r.put b with
    | some r => some (if r.len = 3 then r.readLength else r.finish)
    | none => none

/-- Bytes one after another, with the result of each call. -/
def rruFeed : RruRx → Bytes → Option (RruRx × List Bool)
  | r, [] => some (r, [])
  | r, b :: rest =>
      match rruRxByte r b with
      | some (r, done) =>
          match rruFeed r rest with
          | some (r, later) => some (r, done :: later)
          | none => none
      | none => none

/-! ### Builder -/

/-- The buffer that is written and the length of the frame in it. -/
def rruBuild (out : Memory) (seq type : UInt8) (payload : Memory) (n : UInt8) :
    Memory × UInt16 :=
  let body := 2 + n.toUInt16
  let out := out.write 0 ([rruStx] ++ be16Bytes body ++ [seq, type])
  let out := if n ≠ 0 then out.write 5 (payload.read 0 n.toNat) else out
  let crc := rruCrc16 (out.advance 3) body
  let out := out.write (3 + body.toNat) (be16Bytes crc ++ [rruEtx])
  (out, 3 + body + 3)

/-- The bytes a sender puts on the line after `rru_build`. -/
def rruSent (out : Memory) (seq type : UInt8) (payload : Memory) (n : UInt8) : Bytes :=
  let built := rruBuild out seq type payload n
  built.1.read 0 built.2.toNat

end Acud
