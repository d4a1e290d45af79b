/-
Module: Acud.WebForm
Purpose: The checks of the network form of the web page.
Trusted boundary: none
Main exports:
  WebForm.int, WebForm.ipv4Address, WebForm.IPv4Network, WebForm.validateNetworkForm
-/
import Acud.Lib.Decimal
import Acud.Lib.Subnet
import Mathlib.Data.List.DropRight

namespace Acud.WebForm

open Lib

/-!
The web page is a Python program.  `int`, `str.strip` and the classes of `ipaddress` are
those of its standard library: the first two accept the decimal digits and the white space
of all scripts, an address is accepted in plain digits without leading zeros only.

[SRC src/webui/app.py]
-/

/-! ### Numbers -/

/-- The digit zero of every script that has decimal digits; nine more follow each. -/
def decimalZeros : List Nat :=
  [0x30, 0x660, 0x6f0, 0x7c0, 0x966, 0x9e6, 0xa66, 0xae6, 0xb66, 0xbe6, 0xc66, 0xce6, 0xd66,
    0xde6, 0xe50, 0xed0, 0xf20, 0x1040, 0x1090, 0x17e0, 0x1810, 0x1946, 0x19d0, 0x1a80,
    0x1a90, 0x1b50, 0x1bb0, 0x1c40, 0x1c50, 0xa620, 0xa8d0, 0xa900, 0xa9d0, 0xa9f0, 0xaa50,
    0xabf0, 0xff10, 0x104a0, 0x10d30, 0x11066, 0x110f0, 0x11136, 0x111d0, 0x112f0, 0x11450,
    0x114d0, 0x11650, 0x116c0, 0x11730, 0x118e0, 0x11950, 0x11c50, 0x11d50, 0x11da0, 0x16a60,
    0x16ac0, 0x16b50, 0x1d7ce, 0x1d7d8, 0x1d7e2, 0x1d7ec, 0x1d7f6, 0x1e140, 0x1e2f0, 0x1e950,
    0x1fbf0]

def digitValue (character : Char) : Option Nat :=
  let code := character.toNat
  (decimalZeros.find? fun first => first ≤ code && code < first + 10).map fun first => code - first

/-- The white space that `str.strip` takes off. -/
def isSpace (character : Char) : Bool :=
  let code := character.toNat
  (9 ≤ code && code ≤ 13) || (0x1c ≤ code && code ≤ 0x20) || code == 0x85 || code == 0xa0 ||
    code == 0x1680 || (0x2000 ≤ code && code ≤ 0x200a) || code == 0x2028 || code == 0x2029 ||
    code == 0x202f || code == 0x205f || code == 0x3000

/-- `int` does not take the four separators. -/
def isIntSpace (character : Char) : Bool :=
  isSpace character && !(0x1c ≤ character.toNat && character.toNat ≤ 0x1f)

def stripOf (space : Char → Bool) (text : Text) : Text :=
  (text.dropWhile space).rdropWhile space

/-- Longer numbers are not converted. -/
def intMaxStrDigits : Nat := 4300

/-- Digits, with single underscores between them. -/
def magnitude (text : Text) : Option Nat :=
  let groups := text.splitOn '_'
  if groups.any List.isEmpty || intMaxStrDigits < groups.flatten.length then none
  else (groups.flatten.mapM digitValue).map fun digits =>
    digits.foldl (fun value digit => 10 * value + digit) 0

/-- `int(text)`, where it raises no `ValueError`. -/
def int (text : Text) : Option Int :=
  match stripOf isIntSpace text with
  | '-' :: rest => (magnitude rest).map fun value => -(value : Int)
  | '+' :: rest => (magnitude rest).map Int.ofNat
  | digits => (magnitude digits).map Int.ofNat

/-! ### Addresses -/

def parseOctet (octet : Text) : Option Nat :=
  if octet.isEmpty then none
  else if octet.all Char.isDigit = false then none
  else if 3 < octet.length then none
  else if octet ≠ ['0'] ∧ octet.head? = some '0' then none
  else if 255 < numberOf octet then none
  else some (numberOf octet)

/-- `int.from_bytes(octets, 'big')`. -/
def fromBytes (octets : List Nat) : Nat :=
  octets.foldl (fun value octet => value * 256 + octet) 0

/-- `IPv4Address(text)`, where it raises no `ValueError`: the number of the address. -/
def ipv4Address (text : Text) : Option Nat :=
  if '/' ∈ text then none
  else if text.isEmpty then none
  else if (text.splitOn '.').length ≠ 4 then none
  else ((text.splitOn '.').mapM parseOctet).map fromBytes

/-- `str(address)`. -/
def addressText (address : Nat) : Text :=
  dotted [address / 2 ^ 24 % 256, address / 2 ^ 16 % 256, address / 2 ^ 8 % 256, address % 256]

/-- `IPv4Network`; the netmask follows from the prefix length. -/
structure IPv4Network where
  networkAddress : Nat
  prefixlen : Nat
deriving Repr, Inhabited, DecidableEq

namespace IPv4Network

def netmask (net : IPv4Network) : Nat :=
  prefixMask 32 net.prefixlen

def hostmask (net : IPv4Network) : Nat :=
  2 ^ 32 - 1 - net.netmask

def broadcastAddress (net : IPv4Network) : Nat :=
  net.networkAddress ||| net.hostmask

/-- `address in net`. -/
def contains (net : IPv4Network) (address : Nat) : Bool :=
  address &&& net.netmask == net.networkAddress

/-- `IPv4Network(f"...", strict=False)`. -/
def of (address prefixlen : Nat) : IPv4Network :=
  { networkAddress := address &&& prefixMask 32 prefixlen
    prefixlen := prefixlen }

/-- `str(net)`. -/
def text (net : IPv4Network) : Text :=
  addressText net.networkAddress ++ '/' :: decimal net.prefixlen

end IPv4Network

/-! ### The form -/

inductive FormError where
  | prefixRange
  | prefixNotNumber
  | ipFormat (raw : Text)
  | gatewayFormat (raw : Text)
  | dnsFormat (raw : Text)
  | ipIsGateway
  | gatewayOutside (gateway : Nat) (net : IPv4Network)
  | networkAddress
  | broadcastAddress
deriving Repr, Inhabited, DecidableEq

/-- The message that the page shows. -/
def FormError.message : FormError → Text
  | .prefixRange => "넷마스크 비트(prefix)는 8~30 사이여야 합니다.".toList
  | .prefixNotNumber => "넷마스크 비트(prefix)는 숫자여야 합니다.".toList
  | .ipFormat raw => "IP 주소 형식이 올바르지 않습니다: ".toList ++ raw
  | .gatewayFormat raw => "게이트웨이 형식이 올바르지 않습니다: ".toList ++ raw
  | .dnsFormat raw => "DNS 형식이 올바르지 않습니다: ".toList ++ raw
  | .ipIsGateway => "IP와 게이트웨이가 같습니다.".toList
  | .gatewayOutside gateway net =>
      "게이트웨이 ".toList ++ addressText gateway ++ " 가 ".toList ++ net.text ++
        " 대역 밖입니다. 이대로 적용하면 외부와 통신할 수 없습니다.".toList
  | .networkAddress => "네트워크 주소는 장치 IP로 쓸 수 없습니다.".toList
  | .broadcastAddress => "브로드캐스트 주소는 장치 IP로 쓸 수 없습니다.".toList

/-- The prefix length that is accepted, and what is wrong with it. -/
def checkPrefix (prefixRaw : Text) : Option Nat × List FormError :=
  match int prefixRaw with
  | none => (none, [.prefixNotNumber])
  | some value =>
      if 8 ≤ value ∧ value ≤ 30 then (some value.toNat, []) else (none, [.prefixRange])

def checkAddress (raw : Text) (error : Text → FormError) : Option Nat × List FormError :=
  match ipv4Address raw with
  | none => (none, [error raw])
  | some address => (some address, [])

/-- The entries of the field that are not blank. -/
def dnsList (dnsRaw : Text) : List Text :=
  ((dnsRaw.splitOn ',').map (stripOf isSpace)).filter fun entry => !entry.isEmpty

def checkDns (dnsRaw : Text) : List FormError :=
  ((dnsList dnsRaw).filter fun entry => (ipv4Address entry).isNone).map .dnsFormat

/-- The checks between the fields. -/
def checkSubnet (ip gateway prefixlen : Nat) : List FormError :=
  if ip = gateway then [.ipIsGateway]
  else
    let net := IPv4Network.of ip prefixlen
    (if net.contains gateway then [] else [.gatewayOutside gateway net]) ++
      (if ip = net.networkAddress then [.networkAddress] else []) ++
      (if ip = net.broadcastAddress then [.broadcastAddress] else [])

/-- What the form hands on: the errors, the address, the prefix length and the name
servers. -/
structure NetworkForm where
  errors : List FormError
  ip : Option Text
  prefixlen : Option Nat
  dns : Text
deriving Repr, Inhabited, DecidableEq

def validateNetworkForm (ipRaw prefixRaw gatewayRaw dnsRaw : Text) : NetworkForm :=
  let (prefixlen, prefixErrors) := checkPrefix prefixRaw
  let (ip, ipErrors) := checkAddress ipRaw .ipFormat
  let (gateway, gatewayErrors) := checkAddress gatewayRaw .gatewayFormat
  let subnetErrors :=
    match ip, gateway, prefixlen with
    | some ip, some gateway, some prefixlen => checkSubnet ip gateway prefixlen
    | _, _, _ => []
  { errors := prefixErrors ++ ipErrors ++ gatewayErrors ++ checkDns dnsRaw ++ subnetErrors
    ip := ip.map addressText
    prefixlen := prefixlen
    dns := [','].intercalate (dnsList dnsRaw) }

end Acud.WebForm
