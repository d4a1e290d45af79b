/-
Module: Acud.NmDiscover
Purpose: The discovery tool of the upper system: how it reads replies and makes requests.
Trusted boundary: none
Main exports:
  NmDiscover.AckInfo, NmDiscover.parseAck, NmDiscover.int16, NmDiscover.prefixToMask,
  NmDiscover.buildSett, NmDiscover.settOf
-/
import Acud.WebForm
import Acud.Lib.Memory

namespace Acud.NmDiscover

open Lib

/-!
The tool broadcasts `FIND`, shows the replies and, when it is asked to, sends a `SETT` request
to the device with the hardware address that was found.  It is a Python program: `int`,
`bytes`, `struct` and slices of a `bytearray` are those of that language, and `none` stands
for the exception that ends it.

[SRC src/tools/nm_discover.py]
-/

def findAckLen : Nat := 50
def framePwLen : Nat := 58

def offCommand : Nat := 0
def offMac : Nat := 4
def offTcpMode : Nat := 10
def offIp : Nat := 11
def offNetmask : Nat := 15
def offGateway : Nat := 19
def offPort : Nat := 23
def offPwSetFlag : Nat := 49
def offPwCompany : Nat := 50
def offPwCustom : Nat := 54

/-! ### Replies -/

/-- `ip`: the bytes in decimal with dots. -/
def ip (bytes : Bytes) : Text :=
  dotted (bytes.map UInt8.toNat)

/-- `{x:02X}`. -/
def upperHex (value : Nat) : Char :=
  if value < 10 then Char.ofNat (48 + value) else Char.ofNat (55 + value)

def hexByte (byte : UInt8) : Text :=
  [upperHex (byte.toNat / 16), upperHex (byte.toNat % 16)]

/-- `mac`: two digits for each byte, with colons. -/
def mac (bytes : Bytes) : Text :=
  [':'].intercalate (bytes.map hexByte)

/-- `decode("ascii", "replace")`. -/
def decodeAscii (bytes : Bytes) : Text :=
  bytes.map fun byte => if byte < 128 then Char.ofNat byte.toNat else Char.ofNat 0xfffd

structure AckInfo where
  command : Text
  mac : Text
  tcpMode : UInt8
  ip : Text
  netmask : Text
  gateway : Text
  port : UInt16
  peerIp : Text
  peerPort : UInt16
  serialBps : UInt8
  databit : UInt8
  parity : UInt8
  stopbit : UInt8
  flow : UInt8
  dpChar : UInt8
  dpSize : UInt16
  dpTime : UInt16
  inactivity : UInt16
  debug : UInt8
  firmware : Text
  dhcp : UInt8
  udp : UInt8
  connect : UInt8
  pwSet : UInt8
deriving Repr, DecidableEq

/-- Field by field, each behind the one before. -/
def parseAck (data : Bytes) : Option AckInfo :=
  if data.length < findAckLen then none
  else
    let frame := Memory.ofBytes data
    some
      { command := decodeAscii (frame.read 0 4)
        mac := mac (frame.read 4 6)
        tcpMode := frame.byte 10
        ip := ip (frame.read 11 4)
        netmask := ip (frame.read 15 4)
        gateway := ip (frame.read 19 4)
        port := frame.be16At 23
        peerIp := ip (frame.read 25 4)
        peerPort := frame.be16At 29
        serialBps := frame.byte 31
        databit := frame.byte 32
        parity := frame.byte 33
        stopbit := frame.byte 34
        flow := frame.byte 35
        dpChar := frame.byte 36
        dpSize := frame.be16At 37
        dpTime := frame.be16At 39
        inactivity := frame.be16At 41
        debug := frame.byte 43
        firmware := ip (frame.read 44 2)
        dhcp := frame.byte 46
        udp := frame.byte 47
        connect := frame.byte 48
        pwSet := frame.byte 49 }

/-! ### Requests -/

def hexDigitValue (character : Char) : Option Nat :=
  WebForm.digitValue character <|>
    (if 'a' ≤ character ∧ character ≤ 'f' then some (character.toNat - 87)
    else if 'A' ≤ character ∧ character ≤ 'F' then some (character.toNat - 55)
    else none)

/-- `0x` in front of the digits, and an underscore behind it, are passed over. -/
def unprefixed : Text → Text
  | '0' :: 'x' :: '_' :: rest | '0' :: 'X' :: '_' :: rest => rest
  | '0' :: 'x' :: rest | '0' :: 'X' :: rest => rest
  | text => text

def magnitude16 (text : Text) : Option Nat :=
  let groups := (unprefixed text).splitOn '_'
  if groups.any List.isEmpty then none
  else (groups.flatten.mapM hexDigitValue).map fun digits =>
    digits.foldl (fun value digit => 16 * value + digit) 0

/-- `int(text, 16)`. -/
def int16 (text : Text) : Option Int :=
  match WebForm.stripOf WebForm.isIntSpace text with
  | '-' :: rest => (magnitude16 rest).map fun value => -(value : Int)
  | '+' :: rest => (magnitude16 rest).map Int.ofNat
  | digits => (magnitude16 digits).map Int.ofNat

/-- An element of `bytes(...)`. -/
def byteOf (value : Int) : Option UInt8 :=
  if 0 ≤ value ∧ value < 256 then some value.toNat.toUInt8 else none

def hexBytes (texts : List Text) : Option Bytes :=
  texts.mapM fun text => (int16 text).bind byteOf

def decimalBytes (texts : List Text) : Option Bytes :=
  texts.mapM fun text => (WebForm.int text).bind byteOf

/-- A shift by a negative count is an error. -/
def prefixToMask (prefixLen : Int) : Option Bytes :=
  if prefixLen > 32 then none
  else some (be32Bytes (0xffffffff * 2 ^ (32 - prefixLen).toNat % 2 ^ 32).toUInt32)

/-- `struct.pack(">H", port)`. -/
def packPort (port : Int) : Option Bytes :=
  if 0 ≤ port ∧ port ≤ 65535 then some (be16Bytes port.toNat.toUInt16) else none

/-- `password.encode("ascii")[:4].ljust(4, b"\0")`. -/
def passwordBytes (password : Text) : Option Bytes :=
  if password.all (fun character => character.toNat < 128) then
    let front := (password.map fun character => character.toNat.toUInt8).take 4
    some (front ++ List.replicate (4 - front.length) 0)
  else none

/-- `f[offset:offset + length] = data`: a slice of another length moves what is behind it. -/
def setSlice (frame : Bytes) (offset length : Nat) (data : Bytes) : Bytes :=
  frame.take offset ++ data ++ frame.drop (offset + length)

/-- `f[index] = value`. -/
def setByte (frame : Bytes) (index : Nat) (value : UInt8) : Option Bytes :=
  if index < frame.length then some (frame.set index value) else none

def buildSett (macText ipText : Text) (prefixLen : Int) (gwText : Text) (port : Int)
    (password : Text) : Option Bytes := do
  let target ← hexBytes (macText.splitOn ':')
  let address ← decimalBytes (ipText.splitOn '.')
  let netmask ← prefixToMask prefixLen
  let gateway ← decimalBytes (gwText.splitOn '.')
  let port ← packPort port
  let custom ← passwordBytes password
  let blank : Bytes := List.replicate framePwLen 0
  let command := setSlice blank offCommand 4 [83, 69, 84, 84]
  let addressed := setSlice command offMac 6 target
  let mode ← setByte addressed offTcpMode 2
  let located := setSlice mode offIp 4 address
  let masked := setSlice located offNetmask 4 netmask
  let routed := setSlice masked offGateway 4 gateway
  let listening := setSlice routed offPort 2 port
  let flagged ← setByte listening offPwSetFlag 1
  let company := setSlice flagged offPwCompany 4 [73, 68, 84, 105]
  pure (setSlice company offPwCustom 4 custom)

/-- The request for `--set`: without a prefix length it is 24. -/
def settOf (target setText gwText : Text) (port : Int) (password : Text) : Option Bytes := do
  let ipText := setText.takeWhile (· ≠ '/')
  let prefixText := (setText.dropWhile (· ≠ '/')).drop 1
  let prefixLen ← if prefixText = [] then some 24 else WebForm.int prefixText
  buildSett target ipText prefixLen gwText port password

end Acud.NmDiscover
