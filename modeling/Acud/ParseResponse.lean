/-
Module: Acud.ParseResponse
Purpose: What the test client prints about a reply, and its polling loop.
Trusted boundary: none
Main exports:
  IdtiClient.Line, IdtiClient.describeModules, IdtiClient.parseResponse,
  IdtiClient.RequestKind, IdtiClient.PollArgs, IdtiClient.PollLoop
-/
import Acud.IdtiClient

namespace Acud.IdtiClient

open Lib

/-!
`parse_response` makes a list of text lines.  Here a line is the values that are put into its
text; the text around them, and the names that stand for codes, are left out.

[SRC src/tools/idti_client.py]
-/

def moduleCount : Nat := 14
def moduleEntryLen : Nat := 16
def moduleArrayOffset : Nat := 10

/-- How many events are printed at the front and at the back of a long batch. -/
def shownHead : Nat := 3
def shownTail : Nat := 2

/-- One line of the output. -/
inductive Line where
  | tooShort (size : Nat)
  | received (size packetLength version : Nat)
  | command (command subCommand obj : UInt8)
  | dataBlock (current last total oneLen : Nat)
  | notStx
  | notEtx
  | frameOption (option : Nat) (excludes : Bool)
  | statusExcluded
  | status (deviceType : Nat) (time : List Nat) (existed : Nat)
  | moduleAt (number moduleType install : Nat) (category : List Nat)
  | moduleTotals (totals : List (Nat × Nat))
  | noModules
  | noStatus (size : Nat)
  | firmware (category deviceType : UInt8) (version : List Nat)
  | builtAt (time : List Nat)
  | firmwareShort (size : Nat)
  | noEvent
  | eventCount (count : Nat)
  | omitted (count : Nat)
  | event (number : Option Nat) (code : Nat)
  | eventPlace (opMode module reader doorStatus func : UInt8)
  | eventTime (time : List Nat) (accessId : Bytes)
deriving Repr, DecidableEq

def bcd (byte : UInt8) : Nat :=
  (byte >>> 4).toNat * 10 + (byte &&& 0x0F).toNat

/-! ### Modules -/

/-- The upper four bits of an I/O slot. -/
def slotCategory (slot : UInt8) : Nat :=
  (slot >>> 4).toNat

def moduleEntryOf (ds : Bytes) (index : Nat) : Bytes :=
  (ds.drop (moduleArrayOffset + index * moduleEntryLen)).take moduleEntryLen

/-- The slots of a module that are counted for the totals. -/
def countedSlots (entry : Bytes) : List Nat :=
  ((entry.drop 2).map slotCategory).filter fun category => category ≠ 0

def moduleLine (index : Nat) (entry : Bytes) : Line :=
  .moduleAt (index + 1) (entry.getD 0 0).toNat (entry.getD 1 0).toNat
    ((entry.drop 2).map slotCategory)

/-- `sorted(total.items())`. -/
def sortedTotals (categories : List Nat) : List (Nat × Nat) :=
  ((List.range 16).map fun category => (category, categories.count category)).filter
    fun total => total.2 ≠ 0

def totalsLine (totals : List (Nat × Nat)) : Line :=
  if totals = [] then .noModules else .moduleTotals totals

def describeModules (ds : Bytes) : List Line :=
  let existed := fromBytes ((ds.drop 8).take 2)
  let present := (List.range moduleCount).filter fun index => existed.testBit index
  (present.map fun index => moduleLine index (moduleEntryOf ds index)) ++
    [totalsLine (sortedTotals (present.flatMap fun index => countedSlots (moduleEntryOf ds index)))]

/-! ### Replies -/

def headLines (pkt : Bytes) : List Line :=
  [.received pkt.length (packetLength pkt) (pkt.getD 3 0).toNat,
    .command (pkt.getD 29 0) (pkt.getD 30 0) (pkt.getD 33 0),
    .dataBlock (fromBytes ((pkt.drop 36).take 2)) (fromBytes ((pkt.drop 38).take 2))
      (fromBytes ((pkt.drop 40).take 2)) (fromBytes ((pkt.drop 42).take 2))] ++
    (if pkt.getD 0 0 = idtiStx then [] else [.notStx]) ++
    (if pkt.getD (pkt.length - 1) 0 = idtiEtx then [] else [.notEtx]) ++
    [.frameOption (fromBytes ((pkt.drop 4).take 2)) (excludesStatus pkt)]

/-- The lines of a device status. -/
def deviceLines (ds : Bytes) : List Line :=
  .status (fromBytes (ds.take 2)) (((ds.drop 2).take 6).map bcd)
    (fromBytes ((ds.drop 8).take 2)) :: describeModules ds

def statusLines (pkt : Bytes) : List Line :=
  let body := packetBody pkt
  if excludesStatus pkt then [.statusExcluded]
  else if deviceStatusV2Len ≤ body.length then deviceLines (body.take deviceStatusV2Len)
  else [.noStatus body.length]

def firmwareLines (body : Bytes) : List Line :=
  if firmwareInfoLen ≤ body.length then
    [.firmware (body.getD 0 0) (body.getD 1 0) (((body.drop 2).take 4).map UInt8.toNat),
      .builtAt (((body.drop 6).take 6).map bcd)]
  else [.firmwareShort body.length]

/-- `i in show`. -/
def isShown (count index : Nat) : Bool :=
  decide (index < min shownHead count) || decide (count - shownTail ≤ index)

/-- The three lines of one event. -/
def eventText (number : Option Nat) (ev : Bytes) : List Line :=
  [.event number (fromBytes (ev.take 4)),
    .eventPlace (ev.getD 4 0) (ev.getD 6 0) (ev.getD 7 0) (ev.getD 8 0) (ev.getD 9 0),
    .eventTime (((ev.drop 10).take 6).map bcd) ((ev.drop 16).take 8)]

def eventAt (body : Bytes) (count index : Nat) : List Line :=
  if isShown count index then
    eventText (if 1 < count then some (index + 1) else none)
      ((body.drop (index * eventInfoLen)).take eventInfoLen)
  else if index = shownHead then [.omitted (count - shownHead - shownTail)]
  else []

def eventLines (body : Bytes) : List Line :=
  let count := body.length / eventInfoLen
  if count = 0 then [.noEvent]
  else
    (if 1 < count then [.eventCount count] else []) ++
      (List.range count).flatMap (eventAt body count)

def contentLines (obj : UInt8) (body : Bytes) : List Line :=
  if obj = idtiObjFirmware then firmwareLines body else eventLines body

def parseResponse (pkt : Bytes) : List Line :=
  if pkt.length < headerLen then [.tooShort pkt.length]
  else headLines pkt ++ statusLines pkt ++ contentLines (pkt.getD 33 0) (withoutStatus pkt)

/-! ### Polling -/

/-- `--request`, without the two transfers. -/
inductive RequestKind where
  | history
  | status
  | lcdCheck
  | lcdChange
  | langCheck
  | langChange
  | forceOpen
  | forceNormal
  | forceCheck
deriving Repr, DecidableEq

def RequestKind.command : RequestKind → UInt8
  | .history | .lcdCheck | .langCheck | .forceCheck => idtiCmdReqData
  | .status => idtiCmdReqStatus
  | .lcdChange => idtiCmdSndData
  | .langChange | .forceOpen | .forceNormal => idtiCmdSndStatus

def RequestKind.sub : RequestKind → UInt8
  | .history | .status | .lcdCheck | .langCheck | .forceCheck => idtiSubcmdRead
  | .lcdChange | .langChange | .forceOpen | .forceNormal => idtiSubcmdChange

def RequestKind.obj : RequestKind → UInt8
  | .history => idtiObjHistory
  | .status => idtiObjFirmware
  | .lcdCheck | .lcdChange => idtiObjLcdControl
  | .langCheck | .langChange => idtiObjMultiLanguage
  | .forceOpen | .forceNormal | .forceCheck => idtiObjForceOpen

def RequestKind.data : RequestKind → Bytes
  | .lcdChange => List.replicate 40 0
  | .langChange => [7]
  | .forceOpen => [0x01]
  | .forceNormal => [0x00]
  | .history | .status | .lcdCheck | .langCheck | .forceCheck => []

structure PollArgs where
  kind : RequestKind
  excludeStatus : Bool
  watch : Bool
  count : Int

/-- The request with this frame index. -/
def PollArgs.request (args : PollArgs) (frameIndex : Int) : Request :=
  { Request.plain args.kind.command args.kind.sub args.kind.obj frameIndex args.kind.data with
    frameOption :=
      if args.excludeStatus then
        (idtiFoptRequestAck ||| idtiFoptTcp) ||| idtiFoptExcludeDeviceStatus
      else idtiFoptRequestAck ||| idtiFoptTcp }

/-- The loop of `main`: `frame_index`, `sent`, what was printed about each reply, and whether
the loop was left because none came.  Waiting between two polls is not modelled. -/
structure PollLoop where
  frameIndex : Int
  sent : Nat
  output : List (Option (List Line))
  broken : Bool
deriving Repr, DecidableEq

def pollLoop : PollLoop :=
  { frameIndex := 1
    sent := 0
    output := []
    broken := false }

def PollLoop.next (args : PollArgs) (loop : PollLoop) : Next Nat :=
  if loop.broken then .returned 0
  else if args.watch ∨ (loop.sent : Int) < args.count then
    .request (buildRequest (args.request loop.frameIndex))
  else .returned 0

/-- No reply ends the loop, unless it watches. -/
def PollLoop.answered (args : PollArgs) (resp : Option Bytes) (loop : PollLoop) : PollLoop :=
  { frameIndex := loop.frameIndex + 1
    sent := loop.sent + 1
    output := loop.output ++ [resp.map parseResponse]
    broken := resp.isNone && !args.watch }

end Acud.IdtiClient
