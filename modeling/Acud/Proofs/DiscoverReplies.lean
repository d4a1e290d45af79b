/-
Module: Acud.Proofs.DiscoverReplies
Purpose: What the discovery unit answers, and whose request its request file holds.
Trusted boundary: none
Main exports:
  Discover.DiscoverUnit.ack, Discover.reply_read_back, Discover.Accepts,
  Discover.request_file_is_last_accepted
-/
import Acud.DiscoverService
import Acud.NmDiscover
import Acud.Lib.LastWrite
import Acud.Proofs.RequestText

namespace Acud.Discover

open Lib
open NmDiscover (AckInfo parseAck)

/-!
The unit writes the table of its fields as one run of bytes, the tool takes it apart field by
field: the two orders are compared through `Memory.Holds`.

A request file is left by a datagram that passes every check.  The helper takes it away at
some time, and a later request may have replaced it by then.

[SRC src/acud/discover.c, src/tools/nm_discover.py]
-/

/-! ### Replies -/

/-- What the tool shows of a unit. -/
def DiscoverUnit.ack (d : DiscoverUnit) (info : NetInfo) (command : Text) : AckInfo :=
  { command := command
    mac := NmDiscover.mac info.macBytes
    tcpMode := nmTcpmodeServer
    ip := NmDiscover.ip info.ipBytes
    netmask := NmDiscover.ip info.netmaskBytes
    gateway := NmDiscover.ip info.gatewayBytes
    port := (d.tcpPort % 65536).toNat.toUInt16
    peerIp := dotted [0, 0, 0, 0]
    peerPort := 0
    serialBps := nmSerialBps115200
    databit := nmSerialDatabit
    parity := nmSerialParity
    stopbit := nmSerialStopbit
    flow := nmSerialFlow
    dpChar := 0
    dpSize := 0
    dpTime := 0
    inactivity := (d.inactivitySeconds % 65536).toNat.toUInt16
    debug := 0
    firmware := dotted [1, 0]
    dhcp := 0
    udp := 0
    connect := if d.connected then 1 else 0
    pwSet := if d.asked.settPassword.isEmpty then nmPwFlagOff else nmPwFlagOn }

theorem length_buildFrame (d : DiscoverUnit) (info : NetInfo) {cmd4 : Bytes}
    (four : cmd4.length = nmCmdLen) : (buildFrame d info cmd4).length = nmFrameLen := by
  simp only [buildFrame, NetInfo.macBytes, NetInfo.ipBytes, NetInfo.netmaskBytes,
    NetInfo.gatewayBytes, putBe16, List.length_append, Blob.length_bytes, length_be16Bytes,
    List.length_replicate, List.length_cons, List.length_nil, four]
  rfl

/-- The tool finds every field of a frame, whatever follows it. -/
theorem parseAck_buildFrame (d : DiscoverUnit) (info : NetInfo) {cmd4 : Bytes}
    (four : cmd4.length = nmCmdLen) (behind : Bytes) :
    parseAck (buildFrame d info cmd4 ++ behind) =
      some (d.ack info (NmDiscover.decodeAscii cmd4)) := by
  have long : ¬ (buildFrame d info cmd4 ++ behind).length < NmDiscover.findAckLen := by
    rw [List.length_append, length_buildFrame d info four]
    exact Nat.not_lt.mpr (Nat.le_add_right _ _)
  have holds := (Memory.holds_append.mp
    (Memory.holds_ofBytes (buildFrame d info cmd4 ++ behind))).1
  unfold parseAck
  rw [if_neg long]
  generalize Memory.ofBytes (buildFrame d info cmd4 ++ behind) = frame at holds
  simp only [buildFrame, NetInfo.macBytes, NetInfo.ipBytes, NetInfo.netmaskBytes,
    NetInfo.gatewayBytes, putBe16, List.replicate, Memory.holds_append, Memory.holds_cons,
    List.length_append, length_be16Bytes, Blob.length_bytes, List.length_cons, List.length_nil,
    four, nmCmdLen, Nat.zero_add, Nat.reduceAdd] at holds
  obtain ⟨⟨⟨⟨⟨⟨⟨⟨⟨⟨⟨⟨⟨command, hardware⟩, mode, _⟩, address⟩, netmask⟩, gateway⟩, port⟩,
    peer25, peer26, peer27, peer28, peer29, peer30, _⟩, bps, databit, parity, stopbit, flow, _⟩,
    dpChar, size37, size38, time39, time40, _⟩, inactivity⟩,
    debug, major, minor, dhcp, udp, _⟩, connect, _⟩, flag, _⟩ := holds
  have commandRead : frame.read 0 4 = cmd4 := Memory.read_of_holds command four
  have hardwareRead : frame.read 4 6 = info.macBytes :=
    Memory.read_of_holds hardware (Blob.length_bytes _)
  have addressRead : frame.read 11 4 = info.ipBytes :=
    Memory.read_of_holds address (Blob.length_bytes _)
  have netmaskRead : frame.read 15 4 = info.netmaskBytes :=
    Memory.read_of_holds netmask (Blob.length_bytes _)
  have gatewayRead : frame.read 19 4 = info.gatewayBytes :=
    Memory.read_of_holds gateway (Blob.length_bytes _)
  have peerRead : frame.read 25 4 = [0, 0, 0, 0] := by
    simp [Memory.read, List.range_succ, peer25, peer26, peer27, peer28]
  have firmwareRead : frame.read 44 2 = [nmFwMajor, nmFwMinor] := by
    simp [Memory.read, List.range_succ, major, minor]
  have zeroAt : ∀ offset, frame.byte offset = 0 → frame.byte (offset + 1) = 0 →
      frame.be16At offset = 0 := by
    intro offset high low
    rw [Memory.be16At, high, low]
    rfl
  simp only [commandRead, hardwareRead, mode, addressRead, netmaskRead, gatewayRead,
    Memory.be16At_of_holds port, peerRead, zeroAt 29 peer29 peer30, bps, databit, parity, stopbit,
    flow, dpChar, zeroAt 37 size37 size38, zeroAt 39 time39 time40,
    Memory.be16At_of_holds inactivity, debug, firmwareRead, dhcp, udp, connect, flag]
  rfl

/-! ### Requests -/

/-- A datagram that sets this device, as far as its frame tells. -/
structure Asks (d : DiscoverUnit) (env : ServiceEnv) (datagram : Datagram) : Prop where
  length : datagram.bytes.length = nmFramePwLen
  command : datagram.bytes.take nmCmdLen = nmCmdSett
  native : d.isForeign datagram = false
  mine : env.info.mac.map Blob.bytes =
    some ((Memory.ofBytes datagram.bytes).read nmOffMac 6)

/-- What else its request has to pass. -/
structure Passes (d : AcuDiscover) (writes : Bool) (req : Memory) (prefixLen : Nat) : Prop where
  path : d.requestPath ≠ []
  password : settPasswordOk d req = true
  valid : settValidate req = .ok prefixLen
  writes : writes = true

/-- A request that takes effect, with its prefix length. -/
structure Accepts (d : DiscoverUnit) (env : ServiceEnv) (datagram : Datagram)
    (prefixLen : Nat) : Prop where
  asks : Asks d env datagram
  passes : Passes d.asked env.writes (Memory.ofBytes datagram.bytes) prefixLen

section Requests

variable {d : AcuDiscover} {mine : Option Bytes} {writes : Bool} {req : Memory}

theorem handleSett_passes {prefixLen : Nat} (ours : mine = some (req.read nmOffMac 6))
    (passes : Passes d writes req prefixLen) :
    handleSett d mine writes req =
      { reply := some .setc
        requestFile := some (settRequestText req prefixLen) } := by
  unfold handleSett
  rw [if_pos ours, if_neg (mt List.isEmpty_iff.mp passes.path), passes.password, passes.valid,
    passes.writes]
  rfl

theorem handleSett_fails (ours : mine = some (req.read nmOffMac 6))
    (fails : ¬ ∃ prefixLen, Passes d writes req prefixLen) :
    handleSett d mine writes req =
      { reply := some .fail
        requestFile := none } := by
  unfold handleSett
  rw [if_pos ours]
  split
  next => rfl
  next path =>
    split
    next => rfl
    next password =>
      split
      next => rfl
      next prefixLen valid =>
        split
        next written =>
          rw [Bool.not_eq_false] at password
          exact absurd ⟨prefixLen, mt List.isEmpty_iff.mpr path, password, valid, written⟩ fails
        next => rfl

end Requests

/-- The three kinds of frame that a reply can be. -/
inductive Told where
  | imin
  | setc
  | fail
deriving Repr, DecidableEq

def Told.command : Told → Text
  | .imin => "IMIN".toList
  | .setc => "SETC".toList
  | .fail => "FAIL".toList

theorem Told.command_injective {first second : Told} (same : first.command = second.command) :
    first = second := by
  cases first <;> cases second <;> first | rfl | exact absurd same (by decide)

/-- What the tool makes of an outcome. -/
def ServiceOutcome.told (outcome : ServiceOutcome) : Option (Option AckInfo) :=
  outcome.reply.map parseAck

section Service

variable {d : DiscoverUnit} {env : ServiceEnv} {datagram : Datagram}

/-- A datagram of the length of a request is read as a whole. -/
theorem received_of_length {length : Nat} (short : length < nmRecvCap) :
    datagram.received.length = length ↔ datagram.bytes.length = length := by
  unfold Datagram.received
  rw [List.length_take]
  omega

theorem received_eq (short : datagram.bytes.length ≤ nmRecvCap) :
    datagram.received = datagram.bytes :=
  List.take_of_length_le short

theorem told_find (find : datagram.bytes = nmCmdFind) (native : d.isForeign datagram = false) :
    (discoverService d env datagram).told = some (some (d.ack env.info Told.imin.command)) ∧
      (discoverService d env datagram).requestFile = none := by
  have received : datagram.received = nmCmdFind := by
    rw [received_eq (by rw [find]; decide), find]
  unfold discoverService
  rw [received, native]
  refine ⟨?_, rfl⟩
  show some (parseAck (buildFrame d env.info nmCmdImin)) = _
  rw [← List.append_nil (buildFrame d env.info nmCmdImin), parseAck_buildFrame d env.info rfl]
  rfl

/-- A request of the right shape is handed on. -/
theorem discoverService_sett (asks : Asks d env datagram) :
    discoverService d env datagram =
      let outcome := handleSett d.asked (env.info.mac.map Blob.bytes) env.writes
        (Memory.ofBytes datagram.bytes)
      { reply := outcome.reply.map (sendSetReply d env.info)
        requestFile := outcome.requestFile } := by
  have received : datagram.received = datagram.bytes :=
    received_eq (by rw [asks.length]; decide)
  have size : datagram.bytes.length = 58 := asks.length
  unfold discoverService
  simp only [received, asks.native, asks.command, size]
  rfl

theorem told_accepted {prefixLen : Nat} (accepts : Accepts d env datagram prefixLen) :
    (discoverService d env datagram).told = some (some (d.ack env.info Told.setc.command)) ∧
      (discoverService d env datagram).requestFile =
        some (settRequestText (Memory.ofBytes datagram.bytes) prefixLen) := by
  rw [discoverService_sett accepts.asks, handleSett_passes accepts.asks.mine accepts.passes]
  refine ⟨?_, rfl⟩
  exact congrArg some (parseAck_buildFrame d env.info rfl _)

theorem told_refused (asks : Asks d env datagram)
    (refused : ¬ ∃ prefixLen, Accepts d env datagram prefixLen) :
    (discoverService d env datagram).told = some (some (d.ack env.info Told.fail.command)) ∧
      (discoverService d env datagram).requestFile = none := by
  have fails : ¬ ∃ prefixLen,
      Passes d.asked env.writes (Memory.ofBytes datagram.bytes) prefixLen := by
    rintro ⟨prefixLen, passes⟩
    exact refused ⟨prefixLen, asks, passes⟩
  rw [discoverService_sett asks, handleSett_fails asks.mine fails]
  refine ⟨?_, rfl⟩
  exact congrArg some (parseAck_buildFrame d env.info rfl _)

theorem told_nothing (find : ¬ (datagram.bytes = nmCmdFind ∧ d.isForeign datagram = false))
    (other : ¬ Asks d env datagram) : discoverService d env datagram = .quiet := by
  unfold discoverService
  simp only
  split
  next => rfl
  next =>
    split
    next => rfl
    next native =>
      rw [Bool.not_eq_true] at native
      split
      next request =>
        have four : datagram.bytes.length = nmFindReqLen :=
          (received_of_length (by decide)).mp request.1
        have whole : datagram.received = datagram.bytes := received_eq (by rw [four]; decide)
        have front : datagram.bytes.take nmCmdLen = nmCmdFind := whole ▸ request.2
        rw [List.take_of_length_le (by rw [four]; decide)] at front
        exact absurd ⟨front, native⟩ find
      next =>
        split
        next request =>
          have size : datagram.bytes.length = nmFramePwLen :=
            (received_of_length (by decide)).mp request.1
          have whole : datagram.received = datagram.bytes := received_eq (by rw [size]; decide)
          rw [whole] at request ⊢
          have notMine : env.info.mac.map Blob.bytes ≠
              some ((Memory.ofBytes datagram.bytes).read nmOffMac 6) :=
            fun mine => other ⟨size, request.2, native, mine⟩
          unfold handleSett
          rw [if_neg notMine]
          rfl
        next => rfl

/-- Which datagrams are answered with which frame, and which with none. -/
def Answer (d : DiscoverUnit) (env : ServiceEnv) (datagram : Datagram) : Option Told → Prop
  | some .imin => datagram.bytes = nmCmdFind ∧ d.isForeign datagram = false
  | some .setc => ∃ prefixLen, Accepts d env datagram prefixLen
  | some .fail => Asks d env datagram ∧ ¬ ∃ prefixLen, Accepts d env datagram prefixLen
  | none =>
      ¬ (datagram.bytes = nmCmdFind ∧ d.isForeign datagram = false) ∧ ¬ Asks d env datagram

theorem answer_exists (d : DiscoverUnit) (env : ServiceEnv) (datagram : Datagram) :
    ∃ told, Answer d env datagram told := by
  by_cases find : datagram.bytes = nmCmdFind ∧ d.isForeign datagram = false
  · exact ⟨some .imin, find⟩
  · by_cases asks : Asks d env datagram
    · by_cases accepts : ∃ prefixLen, Accepts d env datagram prefixLen
      · exact ⟨some .setc, accepts⟩
      · exact ⟨some .fail, asks, accepts⟩
    · exact ⟨none, find, asks⟩

/-- What the tool reads when this frame is the answer. -/
def Told.shown (d : DiscoverUnit) (info : NetInfo) (told : Option Told) :
    Option (Option AckInfo) :=
  told.map fun kind => some (d.ack info kind.command)

theorem Told.shown_injective {info : NetInfo} {first second : Option Told}
    (same : Told.shown d info first = Told.shown d info second) : first = second := by
  refine Option.map_injective ?_ same
  intro one other equal
  exact Told.command_injective (congrArg AckInfo.command (Option.some.inj equal))

theorem told_of_answer {told : Option Told} (answer : Answer d env datagram told) :
    (discoverService d env datagram).told = Told.shown d env.info told ∧
      ((discoverService d env datagram).requestFile.isSome ↔ told = some .setc) := by
  cases told with
  | none =>
      rw [told_nothing answer.1 answer.2]
      exact ⟨rfl, by decide⟩
  | some kind =>
      cases kind with
      | imin =>
          obtain ⟨shown, file⟩ := told_find answer.1 answer.2
          rw [shown, file]
          exact ⟨rfl, by decide⟩
      | setc =>
          obtain ⟨prefixLen, accepts⟩ := answer
          obtain ⟨shown, file⟩ := told_accepted accepts
          rw [shown, file]
          exact ⟨rfl, iff_of_true rfl rfl⟩
      | fail =>
          obtain ⟨shown, file⟩ := told_refused answer.1 answer.2
          rw [shown, file]
          exact ⟨rfl, by decide⟩

theorem requestFile_eq_some {file : Text} :
    (discoverService d env datagram).requestFile = some file ↔
      ∃ prefixLen, Accepts d env datagram prefixLen ∧
        file = settRequestText (Memory.ofBytes datagram.bytes) prefixLen := by
  constructor
  · intro left
    obtain ⟨told, answer⟩ := answer_exists d env datagram
    have set := (told_of_answer answer).2.mp (by rw [left]; rfl)
    rw [set] at answer
    obtain ⟨prefixLen, accepts⟩ := answer
    refine ⟨prefixLen, accepts, Option.some.inj ?_⟩
    rw [← left, (told_accepted accepts).2]
  · rintro ⟨prefixLen, accepts, rfl⟩
    exact (told_accepted accepts).2

end Service

/-- For every state of the unit, every interface and every datagram: the tool reads back from
the reply all fields of the unit, and the kind of frame tells which datagram it was; there is
none to any other.  A request file is left exactly when the tool is told `SETC`. -/
theorem reply_read_back (d : DiscoverUnit) (env : ServiceEnv) (datagram : Datagram) :
    (∀ told, (discoverService d env datagram).told = Told.shown d env.info told ↔
      Answer d env datagram told) ∧
      ((discoverService d env datagram).requestFile.isSome ↔
        (discoverService d env datagram).told = Told.shown d env.info (some .setc)) := by
  obtain ⟨actual, answer⟩ := answer_exists d env datagram
  obtain ⟨shown, file⟩ := told_of_answer answer
  constructor
  · intro told
    constructor
    · intro same
      rw [Told.shown_injective (same.symm.trans shown)]
      exact answer
    · intro other
      exact (told_of_answer other).1
  · rw [file, shown]
    exact ⟨congrArg _, Told.shown_injective⟩

/-! ### The request files -/

/-- An input is always defined. -/
def DiscoverSys.next (sys : DiscoverSys) (input : DiscoverInput) : Option DiscoverSys :=
  some (sys.step input).1

/-- The text that an input leaves at a path. -/
def DiscoverSys.written (path : RequestPath) (sys : DiscoverSys) : DiscoverInput → Option Text
  | .datagram env datagram =>
      if path.val = sys.unit.asked.requestPath then
        (discoverService sys.unit env datagram).requestFile
      else none
  | .applyConfig _ _ => none
  | .setConnected _ => none
  | .taken _ => none

/-- The input is a request that is accepted, and `path` is the one in force. -/
def DiscoverSys.Takes (path : RequestPath) (sys : DiscoverSys) : DiscoverInput → Prop
  | .datagram env datagram =>
      path.val = sys.unit.asked.requestPath ∧ ∃ prefixLen, Accepts sys.unit env datagram prefixLen
  | .applyConfig _ _ => False
  | .setConnected _ => False
  | .taken _ => False

section Path

variable {path : RequestPath} {sys : DiscoverSys} {input : DiscoverInput}

theorem DiscoverSys.written_datagram {env : ServiceEnv} {datagram : Datagram} {file : Text} :
    sys.written path (.datagram env datagram) = some file ↔
      path.val = sys.unit.asked.requestPath ∧ ∃ prefixLen,
        Accepts sys.unit env datagram prefixLen ∧
          file = settRequestText (Memory.ofBytes datagram.bytes) prefixLen := by
  rw [← requestFile_eq_some]
  exact Option.ite_none_right_eq_some

theorem DiscoverSys.written_eq_none : sys.written path input = none ↔ ¬ sys.Takes path input := by
  cases input with
  | datagram env datagram =>
      rw [← Option.not_isSome_iff_eq_none, not_iff_not, Option.isSome_iff_exists]
      simp only [DiscoverSys.written_datagram]
      constructor
      · rintro ⟨_, inForce, prefixLen, accepts, _⟩
        exact ⟨inForce, prefixLen, accepts⟩
      · rintro ⟨inForce, prefixLen, accepts⟩
        exact ⟨_, inForce, prefixLen, accepts, rfl⟩
  | applyConfig | setConnected | taken => exact iff_of_true rfl not_false

/-- Behind a datagram, a file is the text written there, or the one before. -/
theorem DiscoverSys.requestFiles_datagram (path : RequestPath) (sys : DiscoverSys)
    (env : ServiceEnv) (datagram : Datagram) :
    (sys.step (.datagram env datagram)).1.requestFiles path =
      (sys.written path (.datagram env datagram) <|> sys.requestFiles path) := by
  simp only [DiscoverSys.step, DiscoverSys.written]
  cases (discoverService sys.unit env datagram).requestFile with
  | none =>
      rw [ite_self]
      rfl
  | some text =>
      simp only [Option.elim, DiscoverSys.replaceFile]
      split
      · rfl
      · rfl

theorem DiscoverSys.writesCell (path : RequestPath) :
    WritesCell DiscoverSys.next (fun _ => True) (DiscoverSys.requestFiles · path)
      (DiscoverSys.written path) (fun _ input => input = .taken path) where
  keeps := fun _ _ => trivial
  wrote := by
    intro sys input next file _ stepped wrote
    cases stepped
    cases input with
    | datagram env datagram =>
        rw [DiscoverSys.requestFiles_datagram, wrote]
        rfl
    | applyConfig | setConnected | taken => cases wrote
  emptied := by
    intro sys input next _ stepped _ taken
    cases stepped
    cases taken
    exact if_pos rfl
  kept := by
    intro sys input next _ stepped unwritten left
    cases stepped
    cases input with
    | datagram env datagram =>
        rw [DiscoverSys.requestFiles_datagram, unwritten]
        rfl
    | applyConfig | setConnected => rfl
    | taken other =>
        have apart : path ≠ other := fun same => left (congrArg _ same.symm)
        exact if_neg apart

/-- Neither a request that is accepted for the path, nor its file taken away. -/
def DiscoverSys.Quiet (path : RequestPath) (sys : DiscoverSys) (input : DiscoverInput) : Prop :=
  ¬ sys.Takes path input ∧ input ≠ .taken path

theorem DiscoverSys.undisturbed_eq (path : RequestPath) :
    Undisturbed (DiscoverSys.written path) (fun _ input => input = .taken path) =
      DiscoverSys.Quiet path := by
  funext sys input
  exact propext (and_congr_left fun _ => DiscoverSys.written_eq_none)

end Path

/-- In every run from no request file at a path, whatever datagrams come in, however the
configuration changes, the path with it, and whenever the helper takes a file: the file that is
there is the text of the last request that was accepted while the path was the one in force, by
the configuration of that moment, and nobody has taken it since.  The helper accepts its
fields. -/
theorem request_file_is_last_accepted (path : RequestPath) (start final : DiscoverSys)
    (inputs : List DiscoverInput) (empty : start.requestFiles path = none)
    (reached : run DiscoverSys.next start inputs = some final) (file : Text) :
    (final.requestFiles path = some file ↔
      ∃ early env datagram late middle prefixLen,
        inputs = early ++ .datagram env datagram :: late ∧
          run DiscoverSys.next start early = some middle ∧
          path.val = middle.unit.asked.requestPath ∧
          Accepts middle.unit env datagram prefixLen ∧
          file = settRequestText (Memory.ofBytes datagram.bytes) prefixLen ∧
          Meets DiscoverSys.next (DiscoverSys.Quiet path)
            (middle.step (.datagram env datagram)).1 late) ∧
      (final.requestFiles path = some file →
        Netcfg.checkFields (Netcfg.readRequest file) = .ok (Netcfg.readRequest file)) := by
  have source : final.requestFiles path = some file ↔
      LastWrite DiscoverSys.next (DiscoverSys.written path) (fun _ input => input = .taken path)
        start inputs file := by
    rw [(DiscoverSys.writesCell path).cell_eq_some_iff trivial reached, empty]
    simp only [reduceCtorEq, false_and, false_or]
  rw [source]
  constructor
  · constructor
    · rintro ⟨early, input, late, middle, next, split, reachedEarly, wrote, stepped, quiet⟩
      cases input with
      | datagram env datagram =>
          obtain ⟨inForce, prefixLen, accepts, text⟩ := DiscoverSys.written_datagram.mp wrote
          cases stepped
          rw [DiscoverSys.undisturbed_eq] at quiet
          exact ⟨early, env, datagram, late, middle, prefixLen, split, reachedEarly, inForce,
            accepts, text, quiet⟩
      | applyConfig | setConnected | taken => cases wrote
    · rintro ⟨early, env, datagram, late, middle, prefixLen, split, reachedEarly, inForce, accepts,
        text, quiet⟩
      rw [← DiscoverSys.undisturbed_eq] at quiet
      exact ⟨early, .datagram env datagram, late, middle, _, split, reachedEarly,
        DiscoverSys.written_datagram.mpr ⟨inForce, prefixLen, accepts, text⟩, rfl, quiet⟩
  · rintro ⟨early, input, late, middle, next, split, reachedEarly, wrote, stepped, quiet⟩
    cases input with
    | datagram env datagram =>
        obtain ⟨_, prefixLen, accepts, rfl⟩ := DiscoverSys.written_datagram.mp wrote
        rw [Netcfg.readRequest_settRequestText]
        exact Netcfg.checkFields_settFields (settValidate_ok.mp accepts.passes.valid).2.2.2
    | applyConfig | setConnected | taken => cases wrote

/-! A unit with the default configuration, a request of the tool, a reload that names another
path, and a second request: a file waits at either path. -/

def officeUnit : DiscoverUnit := loadConfig (fun _ => 2) .blank configSetDefaults

def officeEnv : ServiceEnv :=
  { info :=
      { mac := some (Blob.zeros 6)
        ipv4 := none
        gateway := none }
    writes := true }

def settTo (address gateway : String) : Datagram :=
  { bytes :=
      (NmDiscover.buildSett "0:0:0:0:0:0".toList address.toList 24 gateway.toList 9870 []).getD []
    ifindex := 2 }

def officePath : RequestPath := ⟨configSetDefaults.netcfgRequestPath, by decide⟩

def movedPath : RequestPath := ⟨cstr "/run/moved", by decide⟩

def requestsAcrossReload : List DiscoverInput :=
  [.datagram officeEnv (settTo "192.168.0.7" "192.168.0.1"),
    .applyConfig (fun _ => 2) { configSetDefaults with netcfgRequestPath := movedPath.val },
    .datagram officeEnv (settTo "10.1.1.7" "10.1.1.1"), .setConnected true]

theorem request_file_is_last_accepted_moved :
    ∃ final, run DiscoverSys.next { unit := officeUnit, requestFiles := fun _ => none }
        requestsAcrossReload = some final ∧
      final.requestFiles officePath =
        some "ip=192.168.0.7\nprefix=24\ngateway=192.168.0.1\ndns=192.168.0.1\n".toList ∧
      final.requestFiles movedPath =
        some "ip=10.1.1.7\nprefix=24\ngateway=10.1.1.1\ndns=10.1.1.1\n".toList ∧
      Netcfg.checkFields (Netcfg.readRequest
          "ip=10.1.1.7\nprefix=24\ngateway=10.1.1.1\ndns=10.1.1.1\n".toList) =
        .ok (Netcfg.readRequest
          "ip=10.1.1.7\nprefix=24\ngateway=10.1.1.1\ndns=10.1.1.1\n".toList) := by
  obtain ⟨final, reached⟩ :
      ∃ final, run DiscoverSys.next { unit := officeUnit, requestFiles := fun _ => none }
        requestsAcrossReload = some final := Option.isSome_iff_exists.mp rfl
  have first : final.requestFiles officePath =
      some "ip=192.168.0.7\nprefix=24\ngateway=192.168.0.1\ndns=192.168.0.1\n".toList := by
    cases reached
    decide +kernel
  have second : final.requestFiles movedPath =
      some "ip=10.1.1.7\nprefix=24\ngateway=10.1.1.1\ndns=10.1.1.1\n".toList := by
    cases reached
    decide +kernel
  exact ⟨final, reached, first, second,
    (request_file_is_last_accepted movedPath _ _ _ rfl reached _).2 second⟩

end Acud.Discover
