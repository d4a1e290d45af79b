/-
Module: Acud.RequestFile
Purpose: The command of the network setting helper that reads a request file, on texts.
Trusted boundary: none
Main exports:
  Netcfg.readRequest, Netcfg.isIpv4, Netcfg.sameSubnet, Netcfg.checkFields,
  Netcfg.cmdApplyRequest
-/
import Acud.Lib.Decimal

namespace Acud.Netcfg

open Lib

/-!
`acu-netcfg apply-request` reads the request file line by line and checks the fields as
texts, with `grep` and `awk`.  What the system answers on the way is in `RequestEnv`.

`echo` prints the fields as they stand: the backslashes that it would interpret do not occur
in a request of the daemon.  `awk` computes with numbers below `2 ^ 32` exactly.

[SRC src/deploy/acu-netcfg]
-/

def iface : Text := "eth0".toList

/-! ### The fields -/

structure RequestFields where
  ipAddr : Text
  prefixLen : Text
  gw : Text
  dns : Text
deriving Repr, Inhabited, DecidableEq

def RequestFields.blank : RequestFields :=
  { ipAddr := []
    prefixLen := []
    gw := []
    dns := [] }

/-- `IFS='=' read -r key value`: split at the first `=`.  If there is one more and it ends the
line, it ends the value and is not a part of it. -/
def splitLine (line : Text) : Text × Text :=
  let key := line.takeWhile (· ≠ '=')
  let value := (line.dropWhile (· ≠ '=')).drop 1
  if value.getLast? = some '=' ∧ '=' ∉ value.dropLast then (key, value.dropLast)
  else (key, value)

/-- One turn of the loop; other keys are passed over. -/
def readField (fields : RequestFields) (line : Text) : RequestFields :=
  let (key, value) := splitLine line
  if key = "ip".toList then { fields with ipAddr := value }
  else if key = "prefix".toList then { fields with prefixLen := value }
  else if key = "gateway".toList then { fields with gw := value }
  else if key = "dns".toList then { fields with dns := value }
  else fields

def readRequest (file : Text) : RequestFields :=
  (lines file).foldl readField .blank

/-! ### The checks -/

/-- `^([0-9]{1,3}\.){3}[0-9]{1,3}$`, and no part above 255. -/
def isIpv4 (text : Text) : Bool :=
  let parts := text.splitOn '.'
  parts.length == 4 && parts.all (fun part => isNumber part && part.length ≤ 3) &&
    parts.all fun part => numberOf part ≤ 255

/-- `$i` of `awk -F.`. -/
def field (text : Text) (index : Nat) : Nat :=
  numberOf ((text.splitOn '.').getD (index - 1) [])

def ip2int (text : Text) : Nat :=
  field text 1 * 16777216 + field text 2 * 65536 + field text 3 * 256 + field text 4

def sameSubnet (first second prefixLen : Text) : Bool :=
  let a := ip2int first
  let b := ip2int second
  let blk := 2 ^ (32 - numberOf prefixLen)
  a / blk * blk == b / blk * blk

inductive RequestRefusal where
  | noFile (path : Text)
  | pending
  | missing
  | ipFormat (ipAddr : Text)
  | gatewayFormat (gw : Text)
  | prefixNotNumber (prefixLen : Text)
  | prefixRange (prefixLen : Text)
  | ipIsGateway
  | gatewayOutside (gw ipAddr prefixLen : Text)
  | arpAnswer (want : Text)
  | pingAnswer (want : Text)
  | noConnection
  /-- `set -e`, after a command that failed. -/
  | nmcli
deriving Repr, Inhabited, DecidableEq

/-- What `die` prints. -/
def RequestRefusal.message : RequestRefusal → Text
  | .noFile path => "요청 파일이 없다: ".toList ++ path
  | .pending => "webui에서 확인 대기 중인 변경이 있다 - SETT를 적용하지 않는다".toList
  | .missing => "요청 파일에 빠진 항목이 있다".toList
  | .ipFormat ipAddr => "IP 형식이 잘못됐다: ".toList ++ ipAddr
  | .gatewayFormat gw => "게이트웨이 형식이 잘못됐다: ".toList ++ gw
  | .prefixNotNumber prefixLen => "prefix가 숫자가 아니다: ".toList ++ prefixLen
  | .prefixRange prefixLen => "prefix는 8~30이어야 한다: ".toList ++ prefixLen
  | .ipIsGateway => "IP와 게이트웨이가 같다".toList
  | .gatewayOutside gw ipAddr prefixLen =>
      "게이트웨이 ".toList ++ gw ++ " 가 ".toList ++ ipAddr ++ '/' :: prefixLen ++
        " 대역 밖이다".toList
  | .arpAnswer want => want ++ " 는 이미 다른 장비가 쓰고 있다 (ARP 응답 있음)".toList
  | .pingAnswer want => want ++ " 가 ping에 응답한다 - 이미 사용 중이다".toList
  | .noConnection => iface ++ " 에 활성 연결이 없다".toList
  | .nmcli => []

/-- The tests of the fields in their order; without a name server the gateway is one. -/
def checkFields (fields : RequestFields) : Except RequestRefusal RequestFields :=
  if fields.ipAddr = [] ∨ fields.prefixLen = [] ∨ fields.gw = [] then .error .missing
  else
    let fields := if fields.dns = [] then { fields with dns := fields.gw } else fields
    if isIpv4 fields.ipAddr = false then .error (.ipFormat fields.ipAddr)
    else if isIpv4 fields.gw = false then .error (.gatewayFormat fields.gw)
    else if isNumber fields.prefixLen = false then .error (.prefixNotNumber fields.prefixLen)
    else if numberOf fields.prefixLen < 8 ∨ 30 < numberOf fields.prefixLen then
      .error (.prefixRange fields.prefixLen)
    else if fields.ipAddr = fields.gw then .error .ipIsGateway
    else if sameSubnet fields.ipAddr fields.gw fields.prefixLen = false then
      .error (.gatewayOutside fields.gw fields.ipAddr fields.prefixLen)
    else .ok fields

/-! ### The command -/

/-- What the system answers. -/
structure RequestEnv where
  /-- A change of the web page waits to be confirmed. -/
  pending : Bool
  /-- The address in use. -/
  current : Text
  /-- `arping -D` finds the address free; there may be no `arping`. -/
  arpingFree : Option (Text → Bool)
  pingAnswers : Text → Bool
  /-- Empty without an active connection. -/
  connName : Text
  modifies : Bool
  ups : Bool

def checkConflict (env : RequestEnv) (want : Text) : Option RequestRefusal :=
  if want = env.current then none
  else if env.arpingFree.any (fun free => !free want) then some (.arpAnswer want)
  else if env.pingAnswers want then some (.pingAnswer want)
  else none

/-- The arguments of `nmcli connection modify`. -/
structure NmcliSettings where
  name : Text
  addresses : Text
  gateway : Text
  dns : Text
deriving Repr, Inhabited, DecidableEq

/-- What is asked of the system after the tests of the fields. -/
def applyFields (env : RequestEnv) (fields : RequestFields) :
    Except RequestRefusal NmcliSettings :=
  match checkConflict env fields.ipAddr with
  | some refusal => .error refusal
  | none =>
      if env.connName = [] then .error .noConnection
      else if env.modifies && env.ups then
        .ok
          { name := env.connName
            addresses := fields.ipAddr ++ '/' :: fields.prefixLen
            gateway := fields.gw
            dns := fields.dns }
      else .error .nmcli

/-- The settings that are in force in the end.  The file is removed once it is read. -/
def cmdApplyRequest (env : RequestEnv) (path : Text) (file : Option Text) :
    Except RequestRefusal NmcliSettings :=
  match file with
  | none => .error (.noFile path)
  | some file =>
      if env.pending then .error .pending
      else
        match checkFields (readRequest file) with
        | .error refusal => .error refusal
        | .ok fields => applyFields env fields

end Acud.Netcfg
