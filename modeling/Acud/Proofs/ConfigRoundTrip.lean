/-
Module: Acud.Proofs.ConfigRoundTrip
Purpose: Values that were loaded are loaded again as they are.
Trusted boundary: none
Main exports:
  CapacityFits, ConfigField.rule_stable, Config.AcuConfig.Valid, configLoad_valid,
  config_round_trip
-/
import Acud.Proofs.ConfigFields

namespace Acud

open Lib

/-!
A value of the file may be cut off, clamped or rounded when it is loaded.  What comes out
passes the same check unchanged, and so does every default: a configuration that is in force
can be written out and loaded again without a difference.  The capacity of the events is an
exception: what the machine makes of a number that is no `long long` need not pass.

[SRC src/acud/config.c]
-/

/-! ### Single items -/

theorem snprintfText_stable (cap : Nat) (text : Bytes) :
    snprintfText cap (snprintfText cap text) = snprintfText cap text := by
  unfold snprintfText
  rw [List.take_take, Nat.min_self]

theorem textItem_stable {cap : Nat} {entry : Option CJson} {text : Bytes}
    (loaded : textItem cap entry = some text) :
    textItem cap (some (.string text)) = some text := by
  unfold textItem at loaded
  split at loaded
  next found =>
    cases loaded
    exact congrArg some (snprintfText_stable cap found)
  next => cases loaded

theorem nonemptyItem_stable {cap : Nat} {entry : Option CJson} {text : Bytes} (room : 1 < cap)
    (loaded : nonemptyItem cap entry = some text) :
    nonemptyItem cap (some (.string text)) = some text := by
  unfold nonemptyItem at loaded
  split at loaded
  next found =>
    split at loaded
    next => cases loaded
    next filled =>
      cases loaded
      have kept : snprintfText cap found ≠ [] := by
        unfold snprintfText
        rw [Ne, List.take_eq_nil_iff]
        rintro (none | nil)
        · omega
        · exact filled nil
      simp only [nonemptyItem, if_neg kept, snprintfText_stable]
  next => cases loaded

theorem truncated_intCast (value : Int) : truncated value = value := by
  unfold truncated
  split
  next => exact Rat.floor_intCast value
  next => exact Rat.ceil_intCast value

theorem truncated_bounds {value : Rat} {low high : Int} (above : (low : Rat) < value)
    (below : value < (high : Rat)) (negative : low ≤ 0) (positive : 0 ≤ high) :
    low ≤ truncated value ∧ truncated value ≤ high := by
  unfold truncated
  split
  next nonneg =>
    have start : 0 ≤ value.floor := Rat.le_floor_iff.mpr nonneg
    have finish : value.floor < high := Rat.floor_lt_iff.mpr below
    omega
  next negativeValue =>
    have start : low < value.ceil := Rat.lt_ceil_iff.mpr above
    have finish : value.ceil ≤ 0 := Rat.ceil_le_iff.mpr (Rat.le_of_lt (Rat.not_le.mp negativeValue))
    omega

/-- The range of `int`. -/
theorem valueint_range (value : Rat) :
    -2147483648 ≤ valueint value ∧ valueint value ≤ 2147483647 := by
  unfold valueint
  split
  next => decide
  next small =>
    split
    next => decide
    next large =>
      exact truncated_bounds (Rat.not_le.mp large) (Rat.not_le.mp small) (by decide) (by decide)

theorem valueint_intCast {value : Int} (low : -2147483648 ≤ value) (high : value ≤ 2147483647) :
    valueint value = value := by
  unfold valueint
  split
  next above =>
    have : (2147483647 : Int) ≤ value := by exact_mod_cast above
    omega
  next =>
    split
    next below =>
      have : value ≤ (-2147483648 : Int) := by exact_mod_cast below
      omega
    next => exact truncated_intCast value

theorem intItem_stable {min max : Int} {entry : Option CJson} {value : Int}
    (loaded : intItem min max entry = some value) :
    intItem min max (some (.number value)) = some value := by
  unfold intItem at loaded
  split at loaded
  next number =>
    split at loaded
    next within =>
      cases loaded
      obtain ⟨low, high⟩ := valueint_range number
      simp only [intItem, valueint_intCast low high, if_pos within]
    next => cases loaded
  next => cases loaded

theorem passwordItem_stable {entry : Option CJson} {text : Bytes}
    (loaded : passwordItem entry = some text) :
    passwordItem (some (.string text)) = some text := by
  unfold passwordItem at loaded
  split at loaded
  next found =>
    split at loaded
    next valid =>
      cases loaded
      -- Four digits are not cut off.
      have whole : snprintfText configPasswordCap found = found := by
        unfold isValidAdminPassword at valid
        rw [Bool.and_eq_true, beq_iff_eq] at valid
        exact List.take_of_length_le (Nat.le_of_eq valid.1)
      simp only [passwordItem, whole, if_pos valid]
    next => cases loaded
  next => cases loaded

/-- A number at `events_capacity` is not larger than a `long long`. -/
def CapacityFits (entry : Option CJson) : Prop :=
  ∀ value, entry = some (.number value) → truncated value ≤ longLongMax

/-- A capacity that is in its range. -/
structure CapacityInRange (value : Int) : Prop where
  enough : acuEventsCapacityMin ≤ value
  fits : value ≤ longLongMax

theorem longLong_intCast (outside : CastOutside) {value : Int} (low : -longLongMax - 1 ≤ value)
    (high : value ≤ longLongMax) : longLong outside value = value := by
  unfold longLong
  rw [truncated_intCast, if_pos ⟨low, high⟩]

theorem CapacityInRange.load {value : Int} (inRange : CapacityInRange value)
    (outside : CastOutside) : capacityItem outside (some (.number value)) = some value := by
  obtain ⟨enough, fits⟩ := inRange
  have large : ((value : Int) : Rat) ≥ (acuEventsCapacityMin : Rat) := by
    exact_mod_cast enough
  have low : -longLongMax - 1 ≤ value := le_trans (by decide) enough
  simp only [capacityItem, if_pos large, longLong_intCast outside low fits]

theorem capacityItem_inRange {outside : CastOutside} {entry : Option CJson} {value : Int}
    (fits : CapacityFits entry) (loaded : capacityItem outside entry = some value) :
    CapacityInRange value := by
  unfold capacityItem at loaded
  split at loaded
  next number =>
    split at loaded
    next large =>
      cases loaded
      have within : truncated number ≤ longLongMax := fits number rfl
      have enough : acuEventsCapacityMin ≤ truncated number := by
        have nonneg : 0 ≤ number := le_trans (by decide) large
        unfold truncated
        rw [if_pos nonneg]
        exact Rat.le_floor_iff.mpr large
      have low : -longLongMax - 1 ≤ truncated number := le_trans (by decide) enough
      unfold longLong
      rw [if_pos ⟨low, within⟩]
      exact { enough := enough, fits := within }
    next => cases loaded
  next => cases loaded

/-! ### Fields -/

/-- What a field was loaded as, it is loaded as again. -/
theorem ConfigField.rule_stable {outside other : CastOutside} {field : ConfigField}
    {entry : Option CJson} {value : ConfigValue}
    (fits : field = .eventsCapacity → CapacityFits entry)
    (loaded : field.rule outside entry = some value) :
    field.rule other (some value.entry) = some value := by
  cases field with
  | dbPath | pidPath | netIface =>
      obtain ⟨text, found, rfl⟩ := Option.map_eq_some_iff.mp loaded
      exact congrArg (Option.map ConfigValue.text) (nonemptyItem_stable (by decide) found)
  | usersDbPath | eventsDbPath | logPath | netcfgRequestPath | discoverySettPassword =>
      obtain ⟨text, found, rfl⟩ := Option.map_eq_some_iff.mp loaded
      exact congrArg (Option.map ConfigValue.text) (textItem_stable found)
  | adminPassword =>
      obtain ⟨text, found, rfl⟩ := Option.map_eq_some_iff.mp loaded
      exact congrArg (Option.map ConfigValue.text) (passwordItem_stable found)
  | eventsCapacity =>
      obtain ⟨number, found, rfl⟩ := Option.map_eq_some_iff.mp loaded
      exact congrArg (Option.map ConfigValue.int)
        ((capacityItem_inRange (fits rfl) found).load other)
  | timeSyncEnabled =>
      obtain ⟨flag, _, rfl⟩ := Option.map_eq_some_iff.mp loaded
      rfl
  | eventsBatchSize | doorOpenSeconds | tcpPort | deviceCategory | deviceType | moduleCount |
      moduleReaders | moduleInputs | moduleOutputs | moduleAlarmFireInputs | moduleType |
      moduleInstallType | inactivitySeconds =>
      obtain ⟨number, found, rfl⟩ := Option.map_eq_some_iff.mp loaded
      exact congrArg (Option.map ConfigValue.int) (intItem_stable found)

/-- Every field but the capacity would pass the check it is loaded with, on any machine. -/
def Config.AcuConfig.Valid (cfg : Config.AcuConfig) : Prop :=
  ∀ (outside : CastOutside) (field : ConfigField), field ≠ .eventsCapacity →
    field.rule outside (some (field.get cfg).entry) = some (field.get cfg)

/-- With a capacity in its range every field passes. -/
theorem Config.AcuConfig.Valid.passes {cfg : Config.AcuConfig} (valid : cfg.Valid)
    (inRange : CapacityInRange cfg.eventsCapacity) (outside : CastOutside)
    (field : ConfigField) :
    field.rule outside (some (field.get cfg).entry) = some (field.get cfg) := by
  by_cases capacity : field = .eventsCapacity
  · subst capacity
    exact congrArg (Option.map ConfigValue.int) (inRange.load outside)
  · exact valid outside field capacity

theorem ConfigField.own_stable (outside other : CastOutside) {field : ConfigField}
    (apart : field ≠ .eventsCapacity) (entry : Option CJson) :
    field.rule other (some (field.own outside entry).entry) = some (field.own outside entry) := by
  unfold ConfigField.own
  cases found : field.rule outside entry with
  | none => exact field.rule_default other
  | some value => exact ConfigField.rule_stable (fun same => absurd same apart) found

theorem configLoad_valid {outside : CastOutside} {root : Document}
    {cfg loaded : Config.AcuConfig}
    (done : configLoad outside (some root) cfg = (true, loaded)) : loaded.Valid := by
  intro other field apart
  by_cases users : field = .usersDbPath
  · subst users
    have kept : textItem configPathCap (some (.string loaded.usersDbPath)) =
        some loaded.usersDbPath := by
      rw [configLoad_usersDbPath done]
      split
      next =>
        cases found : textItem configPathCap (root.item "users_db_path") with
        | none => rfl
        | some text => exact textItem_stable found
      next => rfl
    exact congrArg (Option.map ConfigValue.text) kept
  · rw [configLoad_get done field users]
    exact ConfigField.own_stable outside other apart _

/-- The file holds no number at `events_capacity` that is no `long long`. -/
def Document.CapacityFits (root : Document) : Prop :=
  Acud.CapacityFits (root.item "events_capacity")

theorem configLoad_inRange {outside : CastOutside} {root : Document}
    {cfg loaded : Config.AcuConfig}
    (done : configLoad outside (some root) cfg = (true, loaded)) (fits : root.CapacityFits) :
    CapacityInRange loaded.eventsCapacity := by
  have own := configLoad_get done .eventsCapacity (by decide)
  rw [ConfigField.own] at own
  cases found : capacityItem outside (root.item "events_capacity") with
  | none =>
      have same : loaded.eventsCapacity = acuDefaultEventsCapacity := by
        simp only [ConfigField.key, ConfigField.rule, found] at own
        exact ConfigValue.int.inj own
      rw [same]
      exact { enough := by decide, fits := by decide }
  | some value =>
      have same : loaded.eventsCapacity = value := by
        simp only [ConfigField.key, ConfigField.rule, found] at own
        exact ConfigValue.int.inj own
      rw [same]
      exact capacityItem_inRange fits found

/-- Whatever the file, the configuration stays one that passes its checks. -/
theorem Config.AcuConfig.Valid.load {cfg : Config.AcuConfig} (valid : cfg.Valid)
    (outside : CastOutside) (file : Option Document) :
    (configLoad outside file cfg).2.Valid := by
  cases file with
  | none => exact valid
  | some root =>
      cases found : requiredFields root with
      | none =>
          rw [configLoad_refused cfg found]
          exact valid
      | some required =>
          obtain ⟨loaded, done⟩ := configLoad_loaded cfg found
          rw [done]
          exact configLoad_valid done

theorem configSetDefaults_valid : configSetDefaults.Valid :=
  fun outside field _ => field.rule_default outside

/-- The fields are all there is. -/
theorem Config.AcuConfig.eq_of_get {first second : Config.AcuConfig}
    (same : ∀ field : ConfigField, field.get first = field.get second) : first = second := by
  have text : ∀ {one other : Bytes}, ConfigValue.text one = .text other → one = other :=
    ConfigValue.text.inj
  have int : ∀ {one other : Int}, ConfigValue.int one = .int other → one = other :=
    ConfigValue.int.inj
  have flag : ∀ {one other : Bool}, ConfigValue.flag one = .flag other → one = other :=
    ConfigValue.flag.inj
  cases first
  cases second
  rw [Config.AcuConfig.mk.injEq]
  exact ⟨text (same .dbPath), text (same .usersDbPath), text (same .eventsDbPath),
    int (same .eventsCapacity), int (same .eventsBatchSize), int (same .doorOpenSeconds),
    text (same .adminPassword), int (same .tcpPort), text (same .pidPath), text (same .logPath),
    text (same .netIface), text (same .netcfgRequestPath), int (same .deviceCategory),
    int (same .deviceType), int (same .moduleCount), int (same .moduleReaders),
    int (same .moduleInputs), int (same .moduleOutputs), int (same .moduleAlarmFireInputs),
    int (same .moduleType), int (same .moduleInstallType), flag (same .timeSyncEnabled),
    int (same .inactivitySeconds), text (same .discoverySettPassword)⟩

/-! ### Writing out -/

/-- The file has every field under its key. -/
def Document.Writes (root : Document) (cfg : Config.AcuConfig) : Prop :=
  ∀ field : ConfigField, root.item field.key = some (field.get cfg).entry

section Written

variable {root : Document} {cfg : Config.AcuConfig}

theorem Document.Writes.own (writes : root.Writes cfg) (valid : cfg.Valid)
    (inRange : CapacityInRange cfg.eventsCapacity) (outside : CastOutside)
    (field : ConfigField) : field.own outside (root.item field.key) = field.get cfg := by
  unfold ConfigField.own
  rw [writes field, valid.passes inRange outside field]
  rfl

theorem Document.Writes.required (writes : root.Writes cfg) (valid : cfg.Valid) :
    ∃ required, requiredFields root = some required := by
  have read : ∀ field : ConfigField, field ≠ .eventsCapacity →
      (field.rule castX86 (root.item field.key)).isSome := by
    intro field apart
    rw [writes field, valid castX86 field apart]
    rfl
  obtain ⟨dbPath, path⟩ :=
    Option.isSome_iff_exists.mp (Option.isSome_map.symm.trans (read .dbPath (by decide)))
  obtain ⟨seconds, door⟩ :=
    Option.isSome_iff_exists.mp (Option.isSome_map.symm.trans (read .doorOpenSeconds (by decide)))
  obtain ⟨password, admin⟩ :=
    Option.isSome_iff_exists.mp (Option.isSome_map.symm.trans (read .adminPassword (by decide)))
  obtain ⟨port, tcp⟩ :=
    Option.isSome_iff_exists.mp (Option.isSome_map.symm.trans (read .tcpPort (by decide)))
  unfold requiredFields
  simp only [ConfigField.key] at path door admin tcp
  rw [path, door, admin, tcp]
  exact ⟨_, rfl⟩

end Written

/-- For every file with a capacity that fits, loaded over whatever configuration: the result,
written out and loaded over any other configuration, is that result again, also on another
machine. -/
theorem config_round_trip (outside outside' : CastOutside) (file : Document)
    (fits : file.CapacityFits) (cfg loaded : Config.AcuConfig)
    (done : configLoad outside (some file) cfg = (true, loaded)) (root : Document)
    (writes : root.Writes loaded) (other : Config.AcuConfig) :
    configLoad outside' (some root) other = (true, loaded) := by
  have valid := configLoad_valid done
  have inRange := configLoad_inRange done fits
  obtain ⟨required, found⟩ := writes.required valid
  obtain ⟨again, reloaded⟩ := @configLoad_loaded outside' root required other found
  rw [reloaded]
  refine congrArg (Prod.mk true) (Config.AcuConfig.eq_of_get fun field => ?_)
  by_cases users : field = .usersDbPath
  · subst users
    have events : root.item "events_db_path" = some (.string loaded.eventsDbPath) :=
      writes .eventsDbPath
    have entry : root.item "users_db_path" = some (.string loaded.usersDbPath) :=
      writes .usersDbPath
    have kept : textItem configPathCap (some (.string loaded.usersDbPath)) =
        some loaded.usersDbPath := by
      have passes : (textItem configPathCap (some (.string loaded.usersDbPath))).map
          ConfigValue.text = some (.text loaded.usersDbPath) :=
        valid castX86 .usersDbPath (by decide)
      obtain ⟨text, read, same⟩ := Option.map_eq_some_iff.mp passes
      rw [read, ConfigValue.text.inj same]
    show ConfigValue.text again.usersDbPath = .text loaded.usersDbPath
    have named : (textItem configPathCap (some (.string loaded.eventsDbPath))).isSome := rfl
    rw [configLoad_usersDbPath reloaded, events, if_pos named, entry, kept]
    rfl
  · rw [configLoad_get reloaded field users]
    exact writes.own valid inRange outside' field

def ConfigField.all : List ConfigField :=
  [.dbPath, .usersDbPath, .eventsDbPath, .eventsCapacity, .eventsBatchSize, .doorOpenSeconds,
    .adminPassword, .tcpPort, .pidPath, .logPath, .netIface, .netcfgRequestPath, .deviceCategory,
    .deviceType, .moduleCount, .moduleReaders, .moduleInputs, .moduleOutputs,
    .moduleAlarmFireInputs, .moduleType, .moduleInstallType, .timeSyncEnabled, .inactivitySeconds,
    .discoverySettPassword]

/-- A file of all fields. -/
def Config.AcuConfig.document (cfg : Config.AcuConfig) : Document :=
  { items := ConfigField.all.map fun field => (cstr field.key, (field.get cfg).entry) }

theorem document_writes (cfg : Config.AcuConfig) : cfg.document.Writes cfg := by
  intro field
  cases field <;> rfl

/-- A text that is cut off, and numbers that are rounded, clamped or refused. -/
def unevenFile : Document :=
  fileWith
    [(cstr "net_iface", .string (List.replicate 20 101)), (cstr "events_capacity", .number 2000.7),
      (cstr "inactivity_seconds", .number 59.9), (cstr "module_count", .number 15)]

/-- What is loaded of the four fields. -/
def unevenValues : Bytes × Int × Int × Int :=
  (List.replicate 15 101, 2000, 59, idtiModuleDefaultCount)

theorem config_round_trip_uneven :
    ∃ loaded, configLoad castX86 (some unevenFile) configSetDefaults = (true, loaded) ∧
      (loaded.netIface, loaded.eventsCapacity, loaded.inactivitySeconds, loaded.moduleCount) =
        unevenValues ∧
      configLoad castX86 (some loaded.document) configSetDefaults = (true, loaded) := by
  have reads : (configLoad castX86 (some unevenFile) configSetDefaults).1 = true := by
    decide +kernel
  have values : ((configLoad castX86 (some unevenFile) configSetDefaults).2.netIface,
      (configLoad castX86 (some unevenFile) configSetDefaults).2.eventsCapacity,
      (configLoad castX86 (some unevenFile) configSetDefaults).2.inactivitySeconds,
      (configLoad castX86 (some unevenFile) configSetDefaults).2.moduleCount) =
        unevenValues := by
    decide +kernel
  have fits : unevenFile.CapacityFits := by
    intro value entry
    have written : unevenFile.item "events_capacity" = some (.number 2000.7) := by decide +kernel
    rw [written] at entry
    cases entry
    decide +kernel
  have done : configLoad castX86 (some unevenFile) configSetDefaults =
      (true, (configLoad castX86 (some unevenFile) configSetDefaults).2) := Prod.ext reads rfl
  exact ⟨_, done, values, config_round_trip _ _ _ fits _ _ done _ (document_writes _) _⟩

end Acud
