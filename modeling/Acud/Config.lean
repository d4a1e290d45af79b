/-
Module: Acud.Config
Purpose: The configuration file and how its fields are loaded.
Trusted boundary: none
Main exports:
  CJson, Document, Config.AcuConfig, configSetDefaults, configLoad
-/
import Acud.Daemon
import Mathlib.Data.Rat.Floor

namespace Acud

open Lib

/-!
`config.json` is parsed by a library into items with a key.  `config_load` looks every key
up by itself, checks the four that must be there before it writes anything, and then fills
the structure field by field.

Texts are C strings: their bytes, without the terminating zero.  Numbers are what the
parser made of them, a rational here in place of the double.

[SRC src/acud/config.h, src/acud/config.c]
-/

/-! ### The parsed file -/

/-- One item of the file; arrays, objects and `null` are not looked into. -/
inductive CJson where
  | string (valuestring : Bytes)
  | number (valuedouble : Rat)
  | bool (value : Bool)
  | other
deriving DecidableEq, Inhabited

/-- The items of the root object in the order of the file. -/
structure Document where
  items : List (Bytes × CJson)

/-- The bytes of a text constant. -/
def cstr (text : String) : Bytes :=
  text.toByteArray.data.toList

/-- `cJSON_GetObjectItemCaseSensitive`: the first item with the key. -/
def Document.item (root : Document) (key : String) : Option CJson :=
  (root.items.find? fun item => item.1 = cstr key).map Prod.snd

/-- A double as an integer, cut off at the point. -/
def truncated (value : Rat) : Int :=
  if 0 ≤ value then value.floor else value.ceil

/-- `valueint`: the parser keeps numbers within the range of `int`. -/
def valueint (value : Rat) : Int :=
  if value ≥ 2147483647 then 2147483647
  else if value ≤ -2147483648 then -2147483648
  else truncated value

def longLongMax : Int := 9223372036854775807

/-- What the machine makes of a double that is no `long long`: the cast has no defined result
there. -/
abbrev CastOutside := Rat → Int

/-- The cast of x86-64, which gives the smallest number for all of them. -/
def castX86 : CastOutside := fun _ => -longLongMax - 1

/-- The cast to `long long`. -/
def longLong (outside : CastOutside) (value : Rat) : Int :=
  if -longLongMax - 1 ≤ truncated value ∧ truncated value ≤ longLongMax then truncated value
  else outside value

/-! ### The fields -/

namespace Config

/-- Everything the configuration file sets. -/
structure AcuConfig where
  dbPath : Bytes
  usersDbPath : Bytes
  eventsDbPath : Bytes
  eventsCapacity : Int
  eventsBatchSize : Int
  doorOpenSeconds : Int
  adminPassword : Bytes
  tcpPort : Int
  pidPath : Bytes
  logPath : Bytes
  netIface : Bytes
  netcfgRequestPath : Bytes
  deviceCategory : Int
  deviceType : Int
  moduleCount : Int
  moduleReaders : Int
  moduleInputs : Int
  moduleOutputs : Int
  moduleAlarmFireInputs : Int
  moduleType : Int
  moduleInstallType : Int
  timeSyncEnabled : Bool
  inactivitySeconds : Int
  discoverySettPassword : Bytes
deriving DecidableEq, Inhabited

end Config

def configPathCap : Nat := 256
def configIfaceCap : Nat := 16
def configPasswordCap : Nat := 5

def acuDefaultDbPath : Bytes := cstr "acud.db"
def acuDefaultDoorOpenSeconds : Int := 3
def acuDefaultAdminPassword : Bytes := cstr "0000"
def acuDefaultTcpPort : Int := 9870
def acuDefaultPidPath : Bytes := cstr "acud.pid"
def acuDefaultLogPath : Bytes := cstr ""
def acuDefaultNetIface : Bytes := cstr "eth0"
def acuDefaultNetcfgRequestPath : Bytes := cstr "/run/acud/netcfg-request"
def acuDefaultSettPassword : Bytes := cstr ""
def acuDefaultInactivitySeconds : Int := 600
def acuInactivityMax : Int := 65535
def acuDefaultUsersDbPath : Bytes := cstr ""
def acuDefaultEventsDbPath : Bytes := cstr ""
def acuDefaultEventsCapacity : Int := 10000000
def acuDefaultEventsBatch : Int := 200
def acuEventsBatchMax : Int := 500
def acuEventsCapacityMin : Int := 1000

/-- `snprintf` of a text into a buffer: what fits in front of the zero. -/
def snprintfText (cap : Nat) (text : Bytes) : Bytes :=
  text.take (cap - 1)

def configSetDefaults : Config.AcuConfig :=
  { dbPath := snprintfText configPathCap acuDefaultDbPath
    usersDbPath := snprintfText configPathCap acuDefaultUsersDbPath
    eventsDbPath := snprintfText configPathCap acuDefaultEventsDbPath
    eventsCapacity := acuDefaultEventsCapacity
    eventsBatchSize := acuDefaultEventsBatch
    doorOpenSeconds := acuDefaultDoorOpenSeconds
    adminPassword := snprintfText configPasswordCap acuDefaultAdminPassword
    tcpPort := acuDefaultTcpPort
    pidPath := snprintfText configPathCap acuDefaultPidPath
    logPath := snprintfText configPathCap acuDefaultLogPath
    netIface := snprintfText configIfaceCap acuDefaultNetIface
    netcfgRequestPath := snprintfText configPathCap acuDefaultNetcfgRequestPath
    deviceCategory := idtiDeviceCategoryDefault
    deviceType := idtiDeviceTypeDefault
    moduleCount := idtiModuleDefaultCount
    moduleReaders := idtiModuleDefaultReaders
    moduleInputs := idtiModuleDefaultInputs
    moduleOutputs := idtiModuleDefaultOutputs
    moduleAlarmFireInputs := idtiModuleDefaultAlarmFireInputs
    moduleType := idtiModuleTypeSsc324
    moduleInstallType := idtiModuleInstallInternal
    timeSyncEnabled := true
    inactivitySeconds := acuDefaultInactivitySeconds
    discoverySettPassword := snprintfText configPasswordCap acuDefaultSettPassword }

/-! ### Single items -/

/-- A text; the empty one counts. -/
def textItem (cap : Nat) : Option CJson → Option Bytes
  | some (.string text) => some (snprintfText cap text)
  | _ => none

/-- A text that is not empty. -/
def nonemptyItem (cap : Nat) : Option CJson → Option Bytes
  | some (.string text) => if text = [] then none else some (snprintfText cap text)
  | _ => none

/-- A number within bounds. -/
def intItem (min max : Int) : Option CJson → Option Int
  | some (.number value) =>
      if min ≤ valueint value ∧ valueint value ≤ max then some (valueint value) else none
  | _ => none

def isValidAdminPassword (text : Bytes) : Bool :=
  text.length == 4 && text.all fun digit => 48 ≤ digit && digit ≤ 57

def passwordItem : Option CJson → Option Bytes
  | some (.string text) =>
      if isValidAdminPassword text then some (snprintfText configPasswordCap text) else none
  | _ => none

/-- The capacity is compared and read as a double. -/
def capacityItem (outside : CastOutside) : Option CJson → Option Int
  | some (.number value) =>
      if value ≥ acuEventsCapacityMin then some (longLong outside value) else none
  | _ => none

/-- `true`, `false` and numbers. -/
def flagItem : Option CJson → Option Bool
  | some (.bool value) => some value
  | some (.number value) => some (valueint value != 0)
  | _ => none

/-! ### Loading -/

/-- `read_int_field`: an optional number. -/
def readIntItem (root : Document) (name : String) (min max fallback : Int) : Int :=
  (intItem min max (root.item name)).getD fallback

/-- The fields without which nothing is loaded. -/
structure RequiredFields where
  dbPath : Bytes
  doorOpenSeconds : Int
  adminPassword : Bytes
  tcpPort : Int

def requiredFields (root : Document) : Option RequiredFields := do
  let dbPath ← nonemptyItem configPathCap (root.item "db_path")
  let doorOpenSeconds ← intItem 1 99 (root.item "door_open_seconds")
  let adminPassword ← passwordItem (root.item "admin_password")
  let tcpPort ← intItem 1 65535 (root.item "tcp_port")
  pure
    { dbPath := dbPath
      doorOpenSeconds := doorOpenSeconds
      adminPassword := adminPassword
      tcpPort := tcpPort }

/-- The block for `events_db_path`.  Without the key both paths go back to their
defaults, the one of the users as well. -/
def loadEventsDbPath (root : Document) (cfg : Config.AcuConfig) : Config.AcuConfig :=
  match root.item "events_db_path" with
  | some (.string text) => { cfg with eventsDbPath := snprintfText configPathCap text }
  | _ =>
      { cfg with
        usersDbPath := snprintfText configPathCap acuDefaultUsersDbPath
        eventsDbPath := snprintfText configPathCap acuDefaultEventsDbPath }

def loadRequired (required : RequiredFields) (cfg : Config.AcuConfig) : Config.AcuConfig :=
  { cfg with
    dbPath := required.dbPath
    doorOpenSeconds := required.doorOpenSeconds
    adminPassword := required.adminPassword
    tcpPort := required.tcpPort }

/-- The blocks in front of `events_db_path`. -/
def loadEarlyFields (root : Document) (cfg : Config.AcuConfig) : Config.AcuConfig :=
  { cfg with
    pidPath :=
      (nonemptyItem configPathCap (root.item "pid_path")).getD
        (snprintfText configPathCap acuDefaultPidPath)
    logPath :=
      (textItem configPathCap (root.item "log_path")).getD
        (snprintfText configPathCap acuDefaultLogPath)
    netIface :=
      (nonemptyItem configIfaceCap (root.item "net_iface")).getD
        (snprintfText configIfaceCap acuDefaultNetIface)
    netcfgRequestPath :=
      (textItem configPathCap (root.item "netcfg_request_path")).getD
        (snprintfText configPathCap acuDefaultNetcfgRequestPath)
    timeSyncEnabled := (flagItem (root.item "time_sync_enabled")).getD true
    moduleCount :=
      readIntItem root "module_count" 0 idtiModuleCountV2 idtiModuleDefaultCount
    moduleReaders :=
      readIntItem root "module_readers" 0 idtiModuleIoSlots idtiModuleDefaultReaders
    moduleInputs :=
      readIntItem root "module_inputs" 0 idtiModuleIoSlots idtiModuleDefaultInputs
    moduleOutputs :=
      readIntItem root "module_outputs" 0 idtiModuleIoSlots idtiModuleDefaultOutputs
    moduleAlarmFireInputs :=
      readIntItem root "module_alarm_fire_inputs" 0 idtiModuleIoSlots
        idtiModuleDefaultAlarmFireInputs
    usersDbPath :=
      (textItem configPathCap (root.item "users_db_path")).getD
        (snprintfText configPathCap acuDefaultUsersDbPath) }

/-- The blocks behind `events_db_path`. -/
def loadLateFields (outside : CastOutside) (root : Document) (cfg : Config.AcuConfig) :
    Config.AcuConfig :=
  { cfg with
    eventsCapacity :=
      (capacityItem outside (root.item "events_capacity")).getD acuDefaultEventsCapacity
    eventsBatchSize :=
      readIntItem root "events_batch_size" 1 acuEventsBatchMax acuDefaultEventsBatch
    moduleType := readIntItem root "module_type" 0 255 idtiModuleTypeSsc324
    moduleInstallType :=
      readIntItem root "module_install_type" 0 2 idtiModuleInstallInternal
    deviceCategory :=
      readIntItem root "device_category" 0 255 idtiDeviceCategoryDefault
    deviceType := readIntItem root "device_type" 0 255 idtiDeviceTypeDefault
    inactivitySeconds :=
      readIntItem root "inactivity_seconds" 0 acuInactivityMax acuDefaultInactivitySeconds
    discoverySettPassword :=
      (textItem configPasswordCap (root.item "discovery_sett_password")).getD
        (snprintfText configPasswordCap acuDefaultSettPassword) }

/-- `true` is the source's `0`.  A file that cannot be read or parsed is `none`. -/
def configLoad (outside : CastOutside) (file : Option Document) (cfg : Config.AcuConfig) :
    Bool × Config.AcuConfig :=
  match file with
  | none => (false, cfg)
  | some root =>
      match requiredFields root with
      | none => (false, cfg)
      | some required =>
          let early := loadEarlyFields root (loadRequired required cfg)
          (true, loadLateFields outside root (loadEventsDbPath root early))

end Acud
