/-
Module: Acud.Discover
Purpose: The setting request of the UDP discovery: its checks, its reply and the
  request file it leaves.
Trusted boundary: none
Main exports:
  Discover.netmaskToPrefix, Discover.sameSubnet, Discover.settValidate,
  Discover.settRequestText, Discover.handleSett
-/
import Acud.Config
import Acud.Lib.Decimal
import Acud.Lib.Subnet

namespace Acud.Discover

open Lib

/-!
A `SETT` frame of 58 bytes carries an address, a netmask and a gateway of four bytes each.
The daemon checks them and writes them into a request file as text; another service, which
runs as root, takes the file from there.

The request file is written beside its place and moved there, so it appears with its whole
text or not at all.  The reply is its command; the device's state that goes along with it
is left out.

[SRC src/acud/discover.c]
-/

/-! ### The frame -/

def nmOffMac : Nat := 4
def nmOffIp : Nat := 11
def nmOffNetmask : Nat := 15
def nmOffGateway : Nat := 19
def nmOffPwCompany : Nat := 50
def nmOffPwCustom : Nat := 54

def nmPwCompany : String := "IDTi"

def nmPrefixMin : Nat := 8
def nmPrefixMax : Nat := 30

/-! ### Addresses -/

/-- `snprintf(out, cap, "%u.%u.%u.%u", ...)`. -/
def ipToText (ip : Memory) (cap : Nat) : Text :=
  (dotted [(ip.byte 0).toNat, (ip.byte 1).toNat, (ip.byte 2).toNat, (ip.byte 3).toNat]).take
    (cap - 1)

/-- The leading ones of the mask, if nothing but zeros stands behind them. -/
def netmaskToPrefix (mask : Memory) : Option Nat :=
  let m := (mask.be32At 0).toNat
  let bits := leadingOnes m 32
  let rest := if bits = 32 then 0 else m &&& (2 ^ (32 - bits) - 1)
  if rest = 0 then some bits else none

/-- The bits of the prefix one by one, each byte from its highest bit on. -/
def sameSubnet (a b : Memory) (prefixLen : Nat) : Bool :=
  (List.range prefixLen).all fun i =>
    (a.byte (i / 8)).toNat.testBit (7 - i % 8) == (b.byte (i / 8)).toNat.testBit (7 - i % 8)

/-! ### The checks -/

/-- Why a request is refused. -/
inductive SettRefusal where
  | zeroIp
  | broadcastIp
  | netmaskNotContiguous
  | netmaskRange
  | ipIsGateway
  | gatewayOutside
deriving Repr, Inhabited, DecidableEq

/-- The reason as it is logged. -/
def SettRefusal.why : SettRefusal → String
  | .zeroIp => "IP가 0.0.0.0이다"
  | .broadcastIp => "IP가 브로드캐스트 주소다"
  | .netmaskNotContiguous => "넷마스크가 연속된 비트가 아니다"
  | .netmaskRange => "넷마스크 범위가 /8~/30을 벗어난다"
  | .ipIsGateway => "IP와 게이트웨이가 같다"
  | .gatewayOutside => "게이트웨이가 IP 대역 밖이다"

/-- The prefix length of the request, or the first check it fails. -/
def settValidate (req : Memory) : Except SettRefusal Nat :=
  let ip := req.advance nmOffIp
  let mask := req.advance nmOffNetmask
  let gw := req.advance nmOffGateway
  if ip.byte 0 = 0 ∧ ip.byte 1 = 0 ∧ ip.byte 2 = 0 ∧ ip.byte 3 = 0 then .error .zeroIp
  else if ip.byte 0 = 255 ∧ ip.byte 1 = 255 ∧ ip.byte 2 = 255 ∧ ip.byte 3 = 255 then
    .error .broadcastIp
  else
    match netmaskToPrefix mask with
    | none => .error .netmaskNotContiguous
    | some prefixLen =>
        if prefixLen < nmPrefixMin ∨ nmPrefixMax < prefixLen then .error .netmaskRange
        else if ip.read 0 4 = gw.read 0 4 then .error .ipIsGateway
        else if sameSubnet ip gw prefixLen = false then .error .gatewayOutside
        else .ok prefixLen

/-! ### The request file -/

/-- What `sett_write_request` prints.  The frame has no name server: the gateway is taken. -/
def settRequestText (req : Memory) (prefixLen : Nat) : Text :=
  let ip := ipToText (req.advance nmOffIp) 16
  let gw := ipToText (req.advance nmOffGateway) 16
  "ip=".toList ++ ip ++ "\nprefix=".toList ++ decimal prefixLen ++ "\ngateway=".toList ++ gw ++
    "\ndns=".toList ++ gw ++ "\n".toList

/-! ### The request -/

structure AcuDiscover where
  /-- Empty if none is asked for. -/
  settPassword : Bytes
  /-- Empty if requests are refused. -/
  requestPath : Bytes
deriving Repr, Inhabited, DecidableEq

inductive SettReply where
  | fail
  | setc
deriving Repr, Inhabited, DecidableEq

/-- The reply, if there is one, and the text that took the request file's place. -/
structure SettOutcome where
  reply : Option SettReply
  requestFile : Option Text
deriving Repr, Inhabited, DecidableEq

/-- A password of the configuration asks for the fixed word in front of it as well. -/
def settPasswordOk (d : AcuDiscover) (req : Memory) : Bool :=
  d.settPassword.isEmpty ||
    (req.read nmOffPwCompany 4 == cstr nmPwCompany &&
      (req.read nmOffPwCustom 4).takeWhile (· ≠ 0) == d.settPassword.take 4)

/-- `mine` is the hardware address, if it could be read, and `writes` says whether the
request file could be put into its place. -/
def handleSett (d : AcuDiscover) (mine : Option Bytes) (writes : Bool) (req : Memory) :
    SettOutcome :=
  if mine = some (req.read nmOffMac 6) then
    if d.requestPath.isEmpty then { reply := some .fail, requestFile := none }
    else if settPasswordOk d req = false then { reply := some .fail, requestFile := none }
    else
      match settValidate req with
      | .error _ => { reply := some .fail, requestFile := none }
      | .ok prefixLen =>
          if writes then
            { reply := some .setc
              requestFile := some (settRequestText req prefixLen) }
          else { reply := some .fail, requestFile := none }
  else
    -- Meant for another device, which answers itself.
    { reply := none, requestFile := none }

end Acud.Discover
