/-
Module: Acud.Proofs.ConfigFields
Purpose: Which fields of the configuration are loaded from their own key alone.
Trusted boundary: none
Main exports:
  ConfigField, LoadsOwnKeys, UsersPathKept, configLoad_own_keys
-/
import Acud.Config

namespace Acud

open Lib

/-!
Every field has one key and one rule that says when the entry of the key is valid and what
it is worth.  `LoadsOwnKeys` compares a load with these rules.  One block of the code writes
a field that is not its own: without a text at `events_db_path` the path of the user
database goes back to its default.  The daemon's model loads only the layout
(`configLoadLayout`), and `configLoad_layout` says that it is the one loaded here.

[SRC src/acud/config.c, src/acud/config.h]
-/

/-! ### Fields, keys and rules -/

inductive ConfigField where
  | dbPath
  | usersDbPath
  | eventsDbPath
  | eventsCapacity
  | eventsBatchSize
  | doorOpenSeconds
  | adminPassword
  | tcpPort
  | pidPath
  | logPath
  | netIface
  | netcfgRequestPath
  | deviceCategory
  | deviceType
  | moduleCount
  | moduleReaders
  | moduleInputs
  | moduleOutputs
  | moduleAlarmFireInputs
  | moduleType
  | moduleInstallType
  | timeSyncEnabled
  | inactivitySeconds
  | discoverySettPassword
deriving DecidableEq, Repr

inductive ConfigValue where
  | text (bytes : Bytes)
  | int (value : Int)
  | flag (value : Bool)
deriving DecidableEq, Repr

namespace ConfigField

def key : ConfigField → String
  | dbPath => "db_path"
  | usersDbPath => "users_db_path"
  | eventsDbPath => "events_db_path"
  | eventsCapacity => "events_capacity"
  | eventsBatchSize => "events_batch_size"
  | doorOpenSeconds => "door_open_seconds"
  | adminPassword => "admin_password"
  | tcpPort => "tcp_port"
  | pidPath => "pid_path"
  | logPath => "log_path"
  | netIface => "net_iface"
  | netcfgRequestPath => "netcfg_request_path"
  | deviceCategory => "device_category"
  | deviceType => "device_type"
  | moduleCount => "module_count"
  | moduleReaders => "module_readers"
  | moduleInputs => "module_inputs"
  | moduleOutputs => "module_outputs"
  | moduleAlarmFireInputs => "module_alarm_fire_inputs"
  | moduleType => "module_type"
  | moduleInstallType => "module_install_type"
  | timeSyncEnabled => "time_sync_enabled"
  | inactivitySeconds => "inactivity_seconds"
  | discoverySettPassword => "discovery_sett_password"

/-- The field of a configuration. -/
def get (cfg : Config.AcuConfig) : ConfigField → ConfigValue
  | dbPath => .text cfg.dbPath
  | usersDbPath => .text cfg.usersDbPath
  | eventsDbPath => .text cfg.eventsDbPath
  | eventsCapacity => .int cfg.eventsCapacity
  | eventsBatchSize => .int cfg.eventsBatchSize
  | doorOpenSeconds => .int cfg.doorOpenSeconds
  | adminPassword => .text cfg.adminPassword
  | tcpPort => .int cfg.tcpPort
  | pidPath => .text cfg.pidPath
  | logPath => .text cfg.logPath
  | netIface => .text cfg.netIface
  | netcfgRequestPath => .text cfg.netcfgRequestPath
  | deviceCategory => .int cfg.deviceCategory
  | deviceType => .int cfg.deviceType
  | moduleCount => .int cfg.moduleCount
  | moduleReaders => .int cfg.moduleReaders
  | moduleInputs => .int cfg.moduleInputs
  | moduleOutputs => .int cfg.moduleOutputs
  | moduleAlarmFireInputs => .int cfg.moduleAlarmFireInputs
  | moduleType => .int cfg.moduleType
  | moduleInstallType => .int cfg.moduleInstallType
  | timeSyncEnabled => .flag cfg.timeSyncEnabled
  | inactivitySeconds => .int cfg.inactivitySeconds
  | discoverySettPassword => .text cfg.discoverySettPassword

/-- What an entry is worth; nothing when it is not valid for the field. -/
def rule (outside : CastOutside) : ConfigField → Option CJson → Option ConfigValue
  | dbPath => fun entry => (nonemptyItem configPathCap entry).map .text
  | usersDbPath | eventsDbPath | logPath | netcfgRequestPath => fun entry =>
      (textItem configPathCap entry).map .text
  | eventsCapacity => fun entry => (capacityItem outside entry).map .int
  | eventsBatchSize => fun entry => (intItem 1 acuEventsBatchMax entry).map .int
  | doorOpenSeconds => fun entry => (intItem 1 99 entry).map .int
  | adminPassword => fun entry => (passwordItem entry).map .text
  | tcpPort => fun entry => (intItem 1 65535 entry).map .int
  | pidPath => fun entry => (nonemptyItem configPathCap entry).map .text
  | netIface => fun entry => (nonemptyItem configIfaceCap entry).map .text
  | deviceCategory | deviceType | moduleType => fun entry => (intItem 0 255 entry).map .int
  | moduleCount => fun entry => (intItem 0 idtiModuleCountV2 entry).map .int
  | moduleReaders | moduleInputs | moduleOutputs | moduleAlarmFireInputs => fun entry =>
      (intItem 0 idtiModuleIoSlots entry).map .int
  | moduleInstallType => fun entry => (intItem 0 2 entry).map .int
  | timeSyncEnabled => fun entry => (flagItem entry).map .flag
  | inactivitySeconds => fun entry => (intItem 0 acuInactivityMax entry).map .int
  | discoverySettPassword => fun entry => (textItem configPasswordCap entry).map .text

/-- The entry's value when it is valid, the default of the field otherwise. -/
def own (outside : CastOutside) (field : ConfigField) (entry : Option CJson) : ConfigValue :=
  (field.rule outside entry).getD (field.get configSetDefaults)

end ConfigField

/-- A value as it would stand in the file. -/
def ConfigValue.entry : ConfigValue → CJson
  | .text bytes => .string bytes
  | .int number => .number number
  | .flag on => .bool on

/-- The cast matters for the capacity only. -/
theorem ConfigField.rule_cast (outside other : CastOutside) {field : ConfigField}
    (apart : field ≠ .eventsCapacity) : field.rule outside = field.rule other := by
  cases field with
  | eventsCapacity => exact absurd rfl apart
  | _ => rfl

/-- Every default passes the check of its own field. -/
theorem ConfigField.rule_default (outside : CastOutside) (field : ConfigField) :
    field.rule outside (some (field.get configSetDefaults).entry) =
      some (field.get configSetDefaults) := by
  by_cases capacity : field = .eventsCapacity
  · subst capacity
    rfl
  · rw [ConfigField.rule_cast outside castX86 capacity]
    cases field <;> decide +kernel

/-- A file that is not loaded leaves the configuration alone; a file that is loaded sets
every field from the entry of its own key. -/
def LoadsOwnKeys (outside : CastOutside) (file : Option Document) (cfg : Config.AcuConfig) :
    Prop :=
  configLoad outside file cfg = (false, cfg) ∨
    ∃ root loaded, file = some root ∧ configLoad outside file cfg = (true, loaded) ∧
      ∀ field : ConfigField, field.get loaded = field.own outside (root.item field.key)

/-- A file that is refused, names the event database by a text, or does not name the user
database by a text that is not empty. -/
def UsersPathKept (file : Option Document) : Prop :=
  ∀ root, file = some root → requiredFields root ≠ none →
    (textItem configPathCap (root.item "events_db_path")).isSome ∨
      nonemptyItem configPathCap (root.item "users_db_path") = none

/-! ### One load -/

section Load

variable {outside : CastOutside}

theorem requiredFields_some {root : Document} {required : RequiredFields}
    (found : requiredFields root = some required) :
    nonemptyItem configPathCap (root.item "db_path") = some required.dbPath ∧
      intItem 1 99 (root.item "door_open_seconds") = some required.doorOpenSeconds ∧
      passwordItem (root.item "admin_password") = some required.adminPassword ∧
      intItem 1 65535 (root.item "tcp_port") = some required.tcpPort := by
  simp only [requiredFields, Option.bind_eq_bind, Option.bind_eq_some_iff, Option.pure_def,
    Option.some.injEq] at found
  obtain ⟨dbPath, path, seconds, door, password, admin, port, tcp, rfl⟩ := found
  exact ⟨path, door, admin, tcp⟩

theorem configLoad_some (root : Document) (cfg : Config.AcuConfig) :
    configLoad outside (some root) cfg =
      match requiredFields root with
      | none => (false, cfg)
      | some required =>
          (true, loadLateFields outside root
            (loadEventsDbPath root (loadEarlyFields root (loadRequired required cfg)))) := rfl

/-- A load that succeeds ran through all blocks. -/
theorem configLoad_done {root : Document} {cfg loaded : Config.AcuConfig}
    (done : configLoad outside (some root) cfg = (true, loaded)) :
    ∃ required, requiredFields root = some required ∧
      loaded = loadLateFields outside root
        (loadEventsDbPath root (loadEarlyFields root (loadRequired required cfg))) := by
  rw [configLoad_some] at done
  cases found : requiredFields root with
  | none =>
      rw [found] at done
      cases done
  | some required =>
      rw [found] at done
      exact ⟨required, rfl, (Prod.mk.inj done).2.symm⟩

/-- What the block for the events writes. -/
theorem loadEventsDbPath_eq (root : Document) (cfg : Config.AcuConfig) :
    loadEventsDbPath root cfg =
      { cfg with
        usersDbPath :=
          if (textItem configPathCap (root.item "events_db_path")).isSome then cfg.usersDbPath
          else snprintfText configPathCap acuDefaultUsersDbPath
        eventsDbPath :=
          (textItem configPathCap (root.item "events_db_path")).getD
            (snprintfText configPathCap acuDefaultEventsDbPath) } := by
  unfold loadEventsDbPath
  cases root.item "events_db_path" with
  | none => rfl
  | some entry => cases entry <;> rfl

theorem getD_map_value {α : Type} (value : α → ConfigValue) (read : Option α) (fallback : α) :
    (read.map value).getD (value fallback) = value (read.getD fallback) := by
  cases read <;> rfl

/-- A load sets every field by the rule of its key, but for the path of the users. -/
theorem configLoad_get {root : Document} {cfg loaded : Config.AcuConfig}
    (done : configLoad outside (some root) cfg = (true, loaded)) (field : ConfigField)
    (other : field ≠ .usersDbPath) :
    field.get loaded = field.own outside (root.item field.key) := by
  obtain ⟨required, found, rfl⟩ := configLoad_done done
  obtain ⟨path, door, admin, tcp⟩ := requiredFields_some found
  rw [loadEventsDbPath_eq]
  cases field with
  | usersDbPath => exact absurd rfl other
  | dbPath => simp only [ConfigField.own, ConfigField.rule, ConfigField.key, path]; rfl
  | doorOpenSeconds => simp only [ConfigField.own, ConfigField.rule, ConfigField.key, door]; rfl
  | adminPassword => simp only [ConfigField.own, ConfigField.rule, ConfigField.key, admin]; rfl
  | tcpPort => simp only [ConfigField.own, ConfigField.rule, ConfigField.key, tcp]; rfl
  | _ => exact (getD_map_value _ _ _).symm

/-- The path of the users is loaded from its own key while the events have a path. -/
theorem configLoad_usersDbPath {root : Document} {cfg loaded : Config.AcuConfig}
    (done : configLoad outside (some root) cfg = (true, loaded)) :
    loaded.usersDbPath =
      if (textItem configPathCap (root.item "events_db_path")).isSome then
        (textItem configPathCap (root.item "users_db_path")).getD []
      else [] := by
  obtain ⟨required, _, rfl⟩ := configLoad_done done
  rw [loadEventsDbPath_eq]
  rfl

/-- A text that is not empty is not cut off to nothing. -/
theorem textItem_eq_nil {entry : Option CJson} :
    (textItem configPathCap entry).getD [] = [] ↔ nonemptyItem configPathCap entry = none := by
  cases entry with
  | none => simp [textItem, nonemptyItem]
  | some item =>
      cases item with
      | string text => simp [textItem, nonemptyItem, snprintfText, configPathCap]
      | number value => simp [textItem, nonemptyItem]
      | bool value => simp [textItem, nonemptyItem]
      | other => simp [textItem, nonemptyItem]

/-! ### The layout a reload applies -/

/-- The number of an item. -/
def numberItem : Option CJson → Option Int
  | some (.number value) => some (valueint value)
  | _ => none

theorem readIntItem_eq (root : Document) (name : String) (max fallback : Nat) :
    readIntItem root name 0 max fallback =
      readIntField (numberItem (root.item name)) max fallback := by
  unfold readIntItem readIntField
  cases root.item name with
  | none => rfl
  | some entry =>
      cases entry with
      | number value =>
          simp only [intItem, numberItem]
          split
          next inside => exact (Int.toNat_of_nonneg inside.1).symm
          next => rfl
      | string _ => rfl
      | bool _ => rfl
      | other => rfl

def layoutFields (root : Document) : LayoutFields :=
  { moduleCount := numberItem (root.item "module_count")
    moduleReaders := numberItem (root.item "module_readers")
    moduleInputs := numberItem (root.item "module_inputs")
    moduleOutputs := numberItem (root.item "module_outputs")
    moduleAlarmFireInputs := numberItem (root.item "module_alarm_fire_inputs")
    moduleType := numberItem (root.item "module_type")
    moduleInstallType := numberItem (root.item "module_install_type") }

/-- The layout the daemon is given after a reload is the one of the loaded fields. -/
theorem configLoad_layout {root : Document} {cfg loaded : Config.AcuConfig}
    (done : configLoad outside (some root) cfg = (true, loaded)) :
    let layout := configLoadLayout (layoutFields root)
    loaded.moduleCount = layout.moduleCount ∧ loaded.moduleReaders = layout.readers ∧
      loaded.moduleInputs = layout.inputs ∧ loaded.moduleOutputs = layout.outputs ∧
      loaded.moduleAlarmFireInputs = layout.alarmFireInputs ∧
      loaded.moduleType = layout.moduleType ∧
      loaded.moduleInstallType = layout.installType := by
  obtain ⟨required, _, rfl⟩ := configLoad_done done
  rw [loadEventsDbPath_eq]
  refine ⟨?_, ?_, ?_, ?_, ?_, ?_, ?_⟩
  all_goals exact readIntItem_eq root _ _ _

/-! ### All fields -/

/-- A refusal leaves the configuration alone. -/
theorem configLoad_refused {root : Document} (cfg : Config.AcuConfig)
    (missing : requiredFields root = none) :
    configLoad outside (some root) cfg = (false, cfg) := by
  rw [configLoad_some, missing]

theorem configLoad_loaded {root : Document} {required : RequiredFields} (cfg : Config.AcuConfig)
    (found : requiredFields root = some required) :
    ∃ loaded, configLoad outside (some root) cfg = (true, loaded) := by
  rw [configLoad_some, found]
  exact ⟨_, rfl⟩

end Load

/-- A field loaded from its own key: two files that agree on the key load the same value. -/
def FieldsApart (outside : CastOutside) (first second : Document) : Prop :=
  ∀ field : ConfigField, first.item field.key = second.item field.key →
    ∀ cfg cfg' loaded loaded', configLoad outside (some first) cfg = (true, loaded) →
      configLoad outside (some second) cfg' = (true, loaded') →
        field.get loaded = field.get loaded'

theorem loadsOwnKeys_iff (outside : CastOutside) (file : Option Document)
    (cfg : Config.AcuConfig) : LoadsOwnKeys outside file cfg ↔ UsersPathKept file := by
  cases file with
  | none =>
      constructor
      · intro _ root impossible
        cases impossible
      · intro _
        exact .inl rfl
  | some root =>
      cases found : requiredFields root with
      | none =>
          constructor
          · rintro _ _ ⟨⟩ complete
            exact absurd found complete
          · intro _
            exact .inl (configLoad_refused cfg found)
      | some required =>
          obtain ⟨loaded, done⟩ := @configLoad_loaded outside root required cfg found
          have users := configLoad_usersDbPath done
          have own : ConfigField.own outside .usersDbPath (root.item "users_db_path") =
              .text ((textItem configPathCap (root.item "users_db_path")).getD []) :=
            getD_map_value _ _ _
          constructor
          · rintro (refused | ⟨_, _, ⟨⟩, again, fields⟩) _ ⟨⟩ _
            · rw [done] at refused
              cases refused
            · rw [done] at again
              cases again
              have same : loaded.usersDbPath =
                  (textItem configPathCap (root.item "users_db_path")).getD [] :=
                ConfigValue.text.inj ((fields .usersDbPath).trans own)
              by_cases events : (textItem configPathCap (root.item "events_db_path")).isSome
              · exact .inl events
              · rw [users, if_neg events] at same
                exact .inr (textItem_eq_nil.mp same.symm)
          · intro kept
            refine .inr ⟨root, loaded, rfl, done, fun field => ?_⟩
            by_cases path : field = .usersDbPath
            · subst path
              rw [ConfigField.key, own]
              refine congrArg ConfigValue.text (users.trans ?_)
              cases kept root rfl (by rw [found]; exact Option.some_ne_none _) with
              | inl events => rw [if_pos events]
              | inr empty => rw [textItem_eq_nil.mpr empty, ite_self]
            · exact configLoad_get done field path

theorem LoadsOwnKeys.get {outside : CastOutside} {root : Document}
    {cfg loaded : Config.AcuConfig} (owns : LoadsOwnKeys outside (some root) cfg)
    (done : configLoad outside (some root) cfg = (true, loaded)) (field : ConfigField) :
    field.get loaded = field.own outside (root.item field.key) := by
  obtain refused | ⟨_, _, ⟨⟩, again, fields⟩ := owns
  · rw [done] at refused
    cases refused
  · rw [done] at again
    cases again
    exact fields field

/-- Every field is loaded from its own key alone exactly for the files that keep the path
of the users, and among these files a field depends on nothing but the entry of its key. -/
theorem configLoad_own_keys (outside : CastOutside) (file : Option Document)
    (cfg : Config.AcuConfig) :
    (LoadsOwnKeys outside file cfg ↔ UsersPathKept file) ∧
      ∀ first second, file = some first → UsersPathKept file → UsersPathKept (some second) →
        FieldsApart outside first second := by
  refine ⟨loadsOwnKeys_iff outside file cfg, ?_⟩
  rintro first second rfl one two field same cfg cfg' loaded loaded' done done'
  have owns := ((loadsOwnKeys_iff outside (some first) cfg).mpr one).get done field
  have owns' := ((loadsOwnKeys_iff outside (some second) cfg').mpr two).get done' field
  rw [owns, owns', same]

/-! ### The file that loses its users -/

/-- A file with the required fields and the given ones. -/
def fileWith (more : List (Bytes × CJson)) : Document :=
  { items :=
      [(cstr "db_path", .string (cstr "acud.db")), (cstr "door_open_seconds", .number 3),
        (cstr "admin_password", .string (cstr "0000")), (cstr "tcp_port", .number 9870)] ++
        more }

/-- Without `events_db_path` the path of the users is lost; with it, it is loaded. -/
theorem missing_events_path_drops_users_path :
    let users := (cstr "users_db_path", CJson.string (cstr "/data/users.db"))
    let events := (cstr "events_db_path", CJson.string (cstr "/data/events.db"))
    (configLoad castX86 (some (fileWith [users])) configSetDefaults).2.usersDbPath = [] ∧
      (configLoad castX86 (some (fileWith [users, events])) configSetDefaults).2.usersDbPath =
        cstr "/data/users.db" ∧
      ¬ LoadsOwnKeys castX86 (some (fileWith [users])) configSetDefaults := by
  refine ⟨by decide +kernel, by decide +kernel, fun owns => ?_⟩
  have loads : (configLoad castX86 (some (fileWith [(cstr "users_db_path",
      CJson.string (cstr "/data/users.db"))])) configSetDefaults).1 = true := by decide +kernel
  have users := owns.get (Prod.ext loads rfl) .usersDbPath
  revert users
  decide +kernel

end Acud
