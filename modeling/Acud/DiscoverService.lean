/-
Module: Acud.DiscoverService
Purpose: The discovery unit: the state it reports, its replies and its configuration.
Trusted boundary: none
Main exports:
  Discover.DiscoverUnit, Discover.NetInfo, Discover.buildFrame, Discover.loadConfig,
  Discover.discoverService, Discover.DiscoverSys, Discover.DiscoverInput
-/
import Acud.Discover

namespace Acud.Discover

open Lib

/-!
A `FIND` request of four bytes is answered with an `IMIN` frame of 50 bytes, a `SETT` request
of 58 bytes with a `SETC` or `FAIL` frame of 58 bytes.  All three carry the same table of
fields.  Every other datagram is passed over, and so is one that came in on another interface.

What the system knows of the interface is in `NetInfo`: the files and calls that it is read
from are left out.  Replies are broadcast; whether one gets out is not looked at.

[SRC src/acud/discover.h, src/acud/discover.c]
-/

def nmFrameLen : Nat := 50
def nmFramePwLen : Nat := 58
def nmFindReqLen : Nat := 4
def nmCmdLen : Nat := 4
def nmRecvCap : Nat := 256
def ifnamsiz : Nat := 16
def settPasswordCap : Nat := 8

def nmCmdFind : Bytes := cstr "FIND"
def nmCmdImin : Bytes := cstr "IMIN"
def nmCmdSett : Bytes := cstr "SETT"
def nmCmdSetc : Bytes := cstr "SETC"
def nmCmdFail : Bytes := cstr "FAIL"

def nmTcpmodeServer : UInt8 := 2
def nmPwFlagOn : UInt8 := 1
def nmPwFlagOff : UInt8 := 0
def nmSerialBps115200 : UInt8 := 255
def nmSerialDatabit : UInt8 := 8
def nmSerialParity : UInt8 := 0
def nmSerialStopbit : UInt8 := 1
def nmSerialFlow : UInt8 := 0
def nmFwMajor : UInt8 := 1
def nmFwMinor : UInt8 := 0

/-! ### The state -/

/-- The fields of the source's `AcuDiscover`: `asked` is what a setting request is checked
against. -/
structure DiscoverUnit where
  tcpPort : Int
  iface : Bytes
  /-- Zero takes requests from every interface. -/
  ifindex : Nat
  inactivitySeconds : Int
  connected : Bool
  asked : AcuDiscover
deriving Repr, Inhabited, DecidableEq

/-- What `calloc` leaves. -/
def DiscoverUnit.blank : DiscoverUnit :=
  { tcpPort := 0
    iface := []
    ifindex := 0
    inactivitySeconds := 0
    connected := false
    asked :=
      { settPassword := []
        requestPath := [] } }

/-- What can be read of the interface; `none` where it fails. -/
structure NetInfo where
  mac : Option (Blob 6)
  ipv4 : Option (Blob 4 × Blob 4)
  gateway : Option (Blob 4)
deriving DecidableEq

namespace NetInfo

/-- A field that could not be read is reported as zeros. -/
def macBytes (info : NetInfo) : Bytes :=
  (info.mac.getD (Blob.zeros 6)).bytes

def ipBytes (info : NetInfo) : Bytes :=
  (info.ipv4.getD (Blob.zeros 4, Blob.zeros 4)).1.bytes

def netmaskBytes (info : NetInfo) : Bytes :=
  (info.ipv4.getD (Blob.zeros 4, Blob.zeros 4)).2.bytes

def gatewayBytes (info : NetInfo) : Bytes :=
  (info.gateway.getD (Blob.zeros 4)).bytes

end NetInfo

/-! ### Frames -/

/-- `put_be16`: the lower 16 bits. -/
def putBe16 (value : Int) : Bytes :=
  be16Bytes (value % 65536).toNat.toUInt16

/-- The table of 50 bytes, in the order of its offsets. -/
def buildFrame (d : DiscoverUnit) (info : NetInfo) (cmd4 : Bytes) : Bytes :=
  cmd4 ++ info.macBytes ++ [nmTcpmodeServer] ++ info.ipBytes ++ info.netmaskBytes ++
    info.gatewayBytes ++ putBe16 d.tcpPort ++
    -- There is no peer: the device is the server.
    List.replicate 6 0 ++
    [nmSerialBps115200, nmSerialDatabit, nmSerialParity, nmSerialStopbit, nmSerialFlow] ++
    List.replicate 5 0 ++ putBe16 d.inactivitySeconds ++ [0, nmFwMajor, nmFwMinor, 0, 0] ++
    [if d.connected then 1 else 0] ++
    [if d.asked.settPassword.isEmpty then nmPwFlagOff else nmPwFlagOn]

/-- The reply to a setting request: nothing stands in the place of the password. -/
def sendSetReply (d : DiscoverUnit) (info : NetInfo) : SettReply → Bytes
  | .setc => buildFrame d info nmCmdSetc ++ List.replicate (nmFramePwLen - nmFrameLen) 0
  | .fail => buildFrame d info nmCmdFail ++ List.replicate (nmFramePwLen - nmFrameLen) 0

/-! ### Configuration -/

/-- `nametoindex` finds an interface by its name; zero if there is none. -/
def loadConfig (nametoindex : Bytes → Nat) (d : DiscoverUnit) (cfg : Config.AcuConfig) :
    DiscoverUnit :=
  let iface := snprintfText ifnamsiz (if cfg.netIface = [] then cstr "eth0" else cfg.netIface)
  { d with
    tcpPort := cfg.tcpPort
    iface := iface
    ifindex := nametoindex iface
    inactivitySeconds := cfg.inactivitySeconds
    asked :=
      { settPassword := snprintfText settPasswordCap cfg.discoverySettPassword
        requestPath := snprintfText configPathCap cfg.netcfgRequestPath } }

/-- `none` when the socket cannot be opened. -/
def discoverInit (nametoindex : Bytes → Nat) (opens : Bool) (cfg : Config.AcuConfig) :
    Option DiscoverUnit :=
  if opens then some (loadConfig nametoindex .blank cfg) else none

def discoverSetConnected (d : DiscoverUnit) (connected : Bool) : DiscoverUnit :=
  { d with connected := connected }

/-! ### Requests -/

/-- A datagram, and the interface it came in on, zero if that is not told. -/
structure Datagram where
  bytes : Bytes
  ifindex : Nat
deriving Repr, Inhabited, DecidableEq

/-- What the system answers while a request is served. -/
structure ServiceEnv where
  info : NetInfo
  /-- The request file can be put into its place. -/
  writes : Bool

/-- The reply that is broadcast, and the text that took the request file's place. -/
structure ServiceOutcome where
  reply : Option Bytes
  requestFile : Option Text
deriving Repr, Inhabited, DecidableEq

def ServiceOutcome.quiet : ServiceOutcome :=
  { reply := none
    requestFile := none }

/-- What is read of a datagram: the buffer takes 256 bytes. -/
def Datagram.received (datagram : Datagram) : Bytes :=
  datagram.bytes.take nmRecvCap

/-- The interface is known, and it is another one. -/
def DiscoverUnit.isForeign (d : DiscoverUnit) (datagram : Datagram) : Bool :=
  d.ifindex != 0 && datagram.ifindex != 0 && datagram.ifindex != d.ifindex

def discoverService (d : DiscoverUnit) (env : ServiceEnv) (datagram : Datagram) :
    ServiceOutcome :=
  let buf := datagram.received
  if buf.length < nmCmdLen then .quiet
  else if d.isForeign datagram then .quiet
  else if buf.length = nmFindReqLen ∧ buf.take nmCmdLen = nmCmdFind then
    { reply := some (buildFrame d env.info nmCmdImin)
      requestFile := none }
  else if buf.length = nmFramePwLen ∧ buf.take nmCmdLen = nmCmdSett then
    let outcome :=
      handleSett d.asked (env.info.mac.map Blob.bytes) env.writes (Memory.ofBytes buf)
    { reply := outcome.reply.map (sendSetReply d env.info)
      requestFile := outcome.requestFile }
  else .quiet

/-! ### Steps -/

/-- A path that a request file can have, two names being two files; a name with this ending is
that of the temporary file of another path, and is left out. -/
abbrev RequestPath := { path : Bytes // ¬ cstr ".tmp" <:+ path }

/-- The unit and the request files: a reload may name another path while a file waits at the
old one. -/
structure DiscoverSys where
  unit : DiscoverUnit
  requestFiles : RequestPath → Option Text

/-- What happens to the unit; `taken` is the helper removing a file. -/
inductive DiscoverInput where
  | datagram (env : ServiceEnv) (datagram : Datagram)
  | applyConfig (nametoindex : Bytes → Nat) (cfg : Config.AcuConfig)
  | setConnected (connected : Bool)
  | taken (path : RequestPath)

/-- A text takes the place of the file at the path in force. -/
def DiscoverSys.replaceFile (sys : DiscoverSys) (text : Text) : DiscoverSys :=
  { sys with
    requestFiles := fun path =>
      if path.val = sys.unit.asked.requestPath then some text else sys.requestFiles path }

/-- The state afterwards, and the reply that goes out. -/
def DiscoverSys.step (sys : DiscoverSys) : DiscoverInput → DiscoverSys × Option Bytes
  | .datagram env datagram =>
      let outcome := discoverService sys.unit env datagram
      (outcome.requestFile.elim sys sys.replaceFile, outcome.reply)
  | .applyConfig nametoindex cfg => ({ sys with unit := loadConfig nametoindex sys.unit cfg }, none)
  | .setConnected connected => ({ sys with unit := discoverSetConnected sys.unit connected }, none)
  | .taken path =>
      ({ sys with
          requestFiles := fun other => if other = path then none else sys.requestFiles other },
        none)

end Acud.Discover
