/-
Module: Acud.Proofs.MainConsistency
Purpose: The configuration in force names what is in use, after any reloads.
Trusted boundary: none
Main exports:
  MainLoop.Consistent, main_stays_consistent, MainLoop.logWritten, log_is_last_opened
-/
import Acud.Proofs.CallbackEffects
import Acud.Proofs.ConfigRoundTrip
import Acud.Lib.LastWrite

namespace Acud

open Lib

/-!
A reload may find that the database, the port or the log cannot be opened, in any combination,
and reloads may follow one another with requests, cards and losses of the connection between
them.  Whatever happens, the parts work with the values of the configuration that is in force,
and its fields name the database and the port that are open.

The log is the exception: its field is taken over also when the file could not be opened, so
the same path is not tried again.

[SRC src/acud/main.c, src/acud/log.c]
-/

/-! ### The invariant -/

/-- The unit works with the values of the configuration. -/
structure Discover.Configured (cfg : Config.AcuConfig) (d : Discover.DiscoverUnit) : Prop where
  tcpPort : d.tcpPort = cfg.tcpPort
  iface : d.iface = cfg.netIface
  inactivitySeconds : d.inactivitySeconds = cfg.inactivitySeconds
  settPassword : d.asked.settPassword = cfg.discoverySettPassword
  requestPath : d.asked.requestPath = cfg.netcfgRequestPath

/-- Everything in use is what the configuration says. -/
structure MainLoop.Consistent (main : MainLoop) : Prop where
  valid : main.cfg.Valid
  pidPath : main.cfg.pidPath = main.pidPath
  db : main.cfg.dbPath = main.db
  port : ∀ port, main.port = some port → main.cfg.tcpPort = port
  netUp : main.daemon.netUp = main.port.isSome
  log : main.log.isOpen = true → main.cfg.logPath = main.log.path
  disc : ∀ disc, main.disc = some disc → Discover.Configured main.cfg disc.unit
  net : main.daemon.netUp = true →
    applyNetConfig main.daemon.sys.net main.cfg.daemon = main.daemon.sys.net
  doorOpenSeconds : main.daemon.sys.panel.doorOpenSeconds = main.cfg.daemon.doorOpenSeconds
  moduleCount : main.daemon.sys.panel.moduleCount = main.cfg.daemon.layout.moduleCount

/-! ### Texts that fit -/

theorem snprintfText_of_textItem {cap : Nat} {text : Bytes}
    (valid : (textItem cap (some (.string text))).map ConfigValue.text = some (.text text)) :
    snprintfText cap text = text :=
  ConfigValue.text.inj (Option.some.inj valid)

theorem fits_of_nonemptyItem {cap : Nat} {text : Bytes}
    (valid : (nonemptyItem cap (some (.string text))).map ConfigValue.text = some (.text text)) :
    text ≠ [] ∧ snprintfText cap text = text := by
  simp only [nonemptyItem] at valid
  split at valid
  next => cases valid
  next filled => exact ⟨filled, ConfigValue.text.inj (Option.some.inj valid)⟩

theorem Discover.configured_loadConfig {cfg : Config.AcuConfig} (valid : cfg.Valid)
    (nametoindex : Bytes → Nat) (d : Discover.DiscoverUnit) :
    Discover.Configured cfg (Discover.loadConfig nametoindex d cfg) := by
  obtain ⟨named, short⟩ := fits_of_nonemptyItem (valid castX86 .netIface (by decide))
  have password : snprintfText configPasswordCap cfg.discoverySettPassword =
      cfg.discoverySettPassword :=
    snprintfText_of_textItem (valid castX86 .discoverySettPassword (by decide))
  refine ⟨rfl, ?_, rfl, ?_, snprintfText_of_textItem (valid castX86 .netcfgRequestPath (by decide))⟩
  · show snprintfText Discover.ifnamsiz (if cfg.netIface = [] then _ else _) = _
    rw [if_neg named]
    exact short
  · -- The unit has room for more than the configuration keeps.
    show snprintfText Discover.settPasswordCap cfg.discoverySettPassword = _
    rw [← password]
    unfold snprintfText
    rw [List.take_take]
    rfl

/-! ### The log -/

/-- The file that is open, if one is. -/
def AcuLog.file (log : AcuLog) : Option Bytes :=
  if log.isOpen then some log.path else none

theorem AcuLog.file_eq_some {log : AcuLog} {path : Bytes} :
    log.file = some path ↔ log.isOpen = true ∧ log.path = path := by
  unfold AcuLog.file
  split
  next isOpen => simp [isOpen]
  next closed => simp [closed]

theorem logOpen_file (opens : Bytes → Bool) (log : AcuLog) (path : Bytes) :
    (logOpen opens log path).file =
      if path ≠ [] ∧ opens (snprintfText logPathCap path) = true then
        some (snprintfText logPathCap path)
      else none := by
  unfold logOpen
  by_cases empty : path = []
  · simp [empty, AcuLog.file, logClose]
  · by_cases opened : opens (snprintfText logPathCap path) = true
    · simp [empty, opened, AcuLog.file]
    · simp [empty, opened, AcuLog.file, logClose]

/-- A log that is opened on the path of a configuration bears its name. -/
theorem logOpen_path {cfg : Config.AcuConfig} (valid : cfg.Valid) (opens : Bytes → Bool)
    (log : AcuLog) (isOpen : (logOpen opens log cfg.logPath).isOpen = true) :
    cfg.logPath = (logOpen opens log cfg.logPath).path := by
  have fits : snprintfText logPathCap cfg.logPath = cfg.logPath :=
    snprintfText_of_textItem (valid castX86 .logPath (by decide))
  have file : (logOpen opens log cfg.logPath).file =
      some (logOpen opens log cfg.logPath).path := AcuLog.file_eq_some.mpr ⟨isOpen, rfl⟩
  rw [logOpen_file, fits] at file
  split at file
  next => exact Option.some.inj file
  next => cases file

/-! ### One reload -/

/-- The file, if there is one, holds no capacity that is no `long long`. -/
def FileFits (file : Option Document) : Prop :=
  ∀ root, file = some root → root.CapacityFits

/-- What a reload leaves of the configuration that was loaded. -/
structure Reloaded (main : MainLoop) (env : ReloadEnv) (reload : Reload)
    (cfg : Config.AcuConfig) : Prop where
  loaded : ∃ loaded, configLoad env.castOutside env.file main.cfg = (true, loaded) ∧
    cfg.eventsCapacity = loaded.eventsCapacity ∧
    ∀ field : ConfigField, field.get cfg = field.get loaded ∨ field.get cfg = field.get main.cfg
  daemon : reload.cfg = cfg.daemon
  pidPath : cfg.pidPath = main.pidPath
  dbPath : reload.db.join.isSome = false → cfg.dbPath = main.cfg.dbPath
  tcpPort : reload.port.join.isSome = false → cfg.tcpPort = main.cfg.tcpPort

theorem keepPidPath_eq {pidPath : Bytes} (fits : snprintfText configPathCap pidPath = pidPath)
    (new : Config.AcuConfig) : keepPidPath pidPath new = { new with pidPath := pidPath } := by
  unfold keepPidPath
  split
  next => rw [fits]
  next same =>
    rw [not_not] at same
    rw [← same]

/-- The path that is kept is the old one, and a path that is new was opened. -/
theorem keepDbPath_eq {old new : Config.AcuConfig} {env : ReloadEnv}
    (fits : snprintfText configPathCap old.dbPath = old.dbPath) :
    keepDbPath old (reopenDb env old new) new =
      { new with
        dbPath :=
          if (reopenDb env old new).join.isSome then new.dbPath else old.dbPath } := by
  unfold reopenDb
  by_cases same : new.dbPath = old.dbPath
  · rw [if_neg (not_not.mpr same)]
    show new = { new with dbPath := old.dbPath }
    rw [← same]
  · rw [if_pos same]
    cases env.openDb new.dbPath with
    | none =>
        show { new with dbPath := snprintfText configPathCap old.dbPath } = _
        rw [fits]
        rfl
    | some db => rfl

theorem keepTcpPort_eq {old new : Config.AcuConfig} {env : ReloadEnv} :
    keepTcpPort old (reopenPort env old new) new =
      { new with
        tcpPort :=
          if (reopenPort env old new).join.isSome then new.tcpPort else old.tcpPort } := by
  unfold reopenPort
  by_cases same : new.tcpPort = old.tcpPort
  · rw [if_neg (not_not.mpr same)]
    show new = { new with tcpPort := old.tcpPort }
    rw [← same]
  · rw [if_pos same]
    cases env.listen new.tcpPort <;> rfl

theorem MainLoop.Consistent.reloaded {main : MainLoop} (consistent : main.Consistent)
    {env : ReloadEnv} {reload : Reload} {cfg : Config.AcuConfig}
    (found : main.reloadFound env = some (reload, cfg)) : Reloaded main env reload cfg := by
  have pidFits : snprintfText configPathCap main.pidPath = main.pidPath := by
    rw [← consistent.pidPath]
    exact (fits_of_nonemptyItem (consistent.valid castX86 .pidPath (by decide))).2
  have dbFits : snprintfText configPathCap main.cfg.dbPath = main.cfg.dbPath :=
    (fits_of_nonemptyItem (consistent.valid castX86 .dbPath (by decide))).2
  have either : ∀ {α : Type} (value : α → ConfigValue) (opened : Bool) (new old : α),
      value (if opened then new else old) = value new ∨
        value (if opened then new else old) = value old := by
    intro α value opened new old
    cases opened with
    | true => exact .inl rfl
    | false => exact .inr rfl
  unfold MainLoop.reloadFound at found
  split at found
  next => cases found
  next loaded done =>
    simp only [Option.some.injEq, Prod.mk.injEq] at found
    obtain ⟨rfl, rfl⟩ := found
    rw [keepPidPath_eq pidFits, keepDbPath_eq dbFits, keepTcpPort_eq]
    refine ⟨⟨loaded, done, rfl, ?_⟩, rfl, rfl, ?_, ?_⟩
    · intro field
      cases field with
      | dbPath => exact either ConfigValue.text _ _ _
      | tcpPort => exact either ConfigValue.int _ _ _
      | pidPath =>
          refine .inr ?_
          show ConfigValue.text main.pidPath = .text main.cfg.pidPath
          rw [consistent.pidPath]
      | _ => exact .inl rfl
    · intro unopened
      exact if_neg (by rw [unopened]; exact Bool.false_ne_true)
    · intro unopened
      exact if_neg (by rw [unopened]; exact Bool.false_ne_true)

theorem Reloaded.valid {main : MainLoop} {env : ReloadEnv} {reload : Reload}
    {cfg : Config.AcuConfig} (reloaded : Reloaded main env reload cfg)
    (valid : main.cfg.Valid) : cfg.Valid := by
  obtain ⟨loaded, done, _, fields⟩ := reloaded.loaded
  have loadedValid := valid.load env.castOutside env.file
  rw [done] at loadedValid
  intro outside field apart
  cases fields field with
  | inl same =>
      rw [same]
      exact loadedValid outside field apart
  | inr same =>
      rw [same]
      exact valid outside field apart

/-- A file with a capacity that fits leaves one in its range. -/
theorem Reloaded.inRange {main : MainLoop} {env : ReloadEnv} {reload : Reload}
    {cfg : Config.AcuConfig} (reloaded : Reloaded main env reload cfg)
    (fits : FileFits env.file) : CapacityInRange cfg.eventsCapacity := by
  obtain ⟨loaded, done, same, _⟩ := reloaded.loaded
  rw [same]
  cases file : env.file with
  | none =>
      rw [file] at done
      cases done
  | some root =>
      rw [file] at done
      exact configLoad_inRange done (fits root file)

theorem applyNetConfig_idem (net : AcuNet) (cfg : AcuConfig) :
    applyNetConfig (applyNetConfig net cfg) cfg = applyNetConfig net cfg := rfl

theorem MainLoop.Consistent.reload {main : MainLoop} (consistent : main.Consistent)
    (env : ReloadEnv) : (main.reload env).Consistent := by
  -- The file of the log is opened again under the name it had.
  have reopened : (logReopen env.opensLog main.log).isOpen = true →
      main.cfg.logPath = (logReopen env.opensLog main.log).path := by
    unfold logReopen
    split
    next isOpen =>
      rw [← consistent.log isOpen]
      exact logOpen_path consistent.valid env.opensLog main.log
    next closed =>
      intro isOpen
      exact absurd isOpen closed
  unfold MainLoop.reload
  cases found : main.reloadFound env with
  | none => exact { consistent with log := reopened }
  | some pair =>
      obtain ⟨reload, cfg⟩ := pair
      have reloaded := consistent.reloaded found
      have valid := reloaded.valid consistent.valid
      obtain ⟨settingsAttached, after⟩ := reloadConfig_eq main.daemon reload
      refine
        { valid := valid
          pidPath := reloaded.pidPath
          db := ?db
          port := ?port
          netUp := ?netUp
          log := ?log
          disc := ?disc
          net := ?net
          doorOpenSeconds := ?doorOpenSeconds
          moduleCount := ?moduleCount }
      case db =>
        show cfg.dbPath = if reload.db.join.isSome then cfg.dbPath else main.db
        cases opened : reload.db.join.isSome with
        | true => rfl
        | false => exact (reloaded.dbPath opened).trans consistent.db
      case port =>
        intro port held
        change (if reload.port.join.isSome then some cfg.tcpPort else main.port) = some port at held
        cases opened : reload.port.join.isSome with
        | true =>
            rw [opened] at held
            exact Option.some.inj held
        | false =>
            rw [opened] at held
            exact (reloaded.tcpPort opened).trans (consistent.port port held)
      case netUp =>
        show (reloadConfig main.daemon reload).netUp =
          (if reload.port.join.isSome then some cfg.tcpPort else main.port).isSome
        rw [after, consistent.netUp]
        cases reload.port.join.isSome with
        | true => exact Bool.or_true _
        | false => exact Bool.or_false _
      case log =>
        show (reloadLog env main.cfg cfg (logReopen env.opensLog main.log)).isOpen = true →
          cfg.logPath = (reloadLog env main.cfg cfg (logReopen env.opensLog main.log)).path
        unfold reloadLog
        split
        next => exact logOpen_path valid env.opensLog _
        next same =>
          rw [not_not.mp same]
          exact reopened
      case disc =>
        intro disc held
        obtain ⟨old, _, rfl⟩ := Option.map_eq_some_iff.mp held
        exact Discover.configured_loadConfig valid env.nametoindex old.unit
      case net =>
        intro up
        change (reloadConfig main.daemon reload).netUp = true at up
        show applyNetConfig (reloadConfig main.daemon reload).sys.net cfg.daemon =
          (reloadConfig main.daemon reload).sys.net
        rw [after] at up ⊢
        rw [← reloaded.daemon]
        cases opened : reload.port.join.isSome with
        | true => exact applyNetConfig_idem _ _
        | false =>
            change (main.daemon.netUp || reload.port.join.isSome) = true at up
            rw [opened, Bool.or_false] at up
            simp only [up, Bool.false_eq_true, ↓reduceIte]
            exact applyNetConfig_idem _ _
      case doorOpenSeconds =>
        show (reloadConfig main.daemon reload).sys.panel.doorOpenSeconds = _
        rw [after, reloaded.daemon]
      case moduleCount =>
        show (reloadConfig main.daemon reload).sys.panel.moduleCount = _
        rw [after, reloaded.daemon]

/-! ### Runs -/

theorem MainLoop.Consistent.callback {main next : MainLoop} (consistent : main.Consistent)
    {input : Input} (allowed : input.isCallback = true)
    (stepped : main.callback input = some next) : next.Consistent := by
  obtain ⟨daemon, returned, rfl⟩ := Option.map_eq_some_iff.mp stepped
  obtain ⟨netUp, same⟩ := Daemon.step_parameters allowed returned
  obtain ⟨doorStatus, first, forceOpen, net⟩ := same.net
  refine
    { consistent with
      netUp := netUp.trans consistent.netUp
      net := ?net
      doorOpenSeconds := same.doorOpenSeconds.trans consistent.doorOpenSeconds
      moduleCount := same.moduleCount.trans consistent.moduleCount }
  intro up
  have before := consistent.net (netUp.symm.trans up)
  show applyNetConfig daemon.sys.net main.cfg.daemon = daemon.sys.net
  rw [net]
  -- The setters do not look at the fields that callbacks change.
  exact congrArg
    (fun settled : AcuNet =>
      { settled with doorStatus := doorStatus, lastBatchFirstSeq := first, forceOpen := forceOpen })
    before

/-- A request leaves the unit as it is. -/
theorem Discover.DiscoverSys.step_datagram_unit (sys : Discover.DiscoverSys)
    (env : Discover.ServiceEnv) (datagram : Discover.Datagram) :
    (sys.step (.datagram env datagram)).1.unit = sys.unit := by
  simp only [Discover.DiscoverSys.step]
  cases (Discover.discoverService sys.unit env datagram).requestFile <;> rfl

theorem MainLoop.Consistent.onDisc {main : MainLoop} (consistent : main.Consistent)
    {input : Discover.DiscoverInput}
    (keeps : ∀ disc : Discover.DiscoverSys, Discover.Configured main.cfg disc.unit →
      Discover.Configured main.cfg (disc.step input).1.unit) :
    (main.onDisc input).Consistent := by
  refine { consistent with disc := ?disc }
  intro disc held
  obtain ⟨old, before, rfl⟩ := Option.map_eq_some_iff.mp held
  exact keeps old (consistent.disc old before)

theorem MainLoop.Consistent.step {main next : MainLoop} {input : MainInput}
    (consistent : main.Consistent) (stepped : main.step input = some next) :
    next.Consistent := by
  cases input with
  | clientReady | listenReady | cardReadable | clock => exact consistent.callback rfl stepped
  | housekeeping expired =>
      cases expired with
      | false =>
          cases stepped
          exact consistent
      | true =>
          rw [main.step_expired] at stepped
          obtain ⟨called, returned, rfl⟩ := Option.map_eq_some_iff.mp stepped
          refine (consistent.callback rfl returned).onDisc ?_
          rintro disc ⟨tcpPort, iface, inactivity, password, path⟩
          exact ⟨tcpPort, iface, inactivity, password, path⟩
  | datagram env datagram =>
      cases stepped
      refine consistent.onDisc fun disc configured => ?_
      rw [Discover.DiscoverSys.step_datagram_unit]
      exact configured
  | requestTaken path =>
      cases stepped
      exact consistent.onDisc fun disc configured => configured
  | reload env =>
      cases stepped
      exact consistent.reload env

theorem MainLoop.start_consistent {boot : Boot} {main : MainLoop}
    (started : MainLoop.start boot = some main) : main.Consistent := by
  have valid : (configLoad boot.castOutside boot.file configSetDefaults).2.Valid :=
    configSetDefaults_valid.load boot.castOutside boot.file
  unfold MainLoop.start at started
  generalize (configLoad boot.castOutside boot.file configSetDefaults).2 = cfg at started valid
  simp only at started
  split at started
  next => cases started
  next =>
    split at started
    next => cases started
    next settings =>
      obtain ⟨daemon, daemonStarted, rfl⟩ := Option.map_eq_some_iff.mp started
      -- What `main` makes of its parts, whatever the stores hold.
      have made : daemon.netUp = (boot.listen cfg.tcpPort).isSome ∧
          daemon.sys.net = freshNet cfg.daemon ∧
          daemon.sys.panel.doorOpenSeconds = cfg.daemon.doorOpenSeconds ∧
          daemon.sys.panel.moduleCount = cfg.daemon.layout.moduleCount := by
        unfold mainStart at daemonStarted
        split at daemonStarted
        next => cases daemonStarted
        next =>
          cases daemonStarted
          exact ⟨rfl, rfl, rfl, rfl⟩
      obtain ⟨netUp, net, seconds, modules⟩ := made
      refine
        { valid := valid
          pidPath := ((fits_of_nonemptyItem (valid castX86 .pidPath (by decide))).2).symm
          db := rfl
          port := ?port
          netUp := ?netUp
          log := logOpen_path valid boot.opensLog .stdout
          disc := ?disc
          net := ?net
          doorOpenSeconds := seconds
          moduleCount := modules }
      case port =>
        intro port held
        change (if _ then some cfg.tcpPort else none) = some port at held
        split at held
        next => exact Option.some.inj held
        next => cases held
      case netUp =>
        show daemon.netUp = (if _ then some cfg.tcpPort else none).isSome
        rw [netUp]
        cases (boot.listen cfg.tcpPort).isSome <;> rfl
      case disc =>
        intro disc held
        obtain ⟨unit, opened, rfl⟩ := Option.map_eq_some_iff.mp held
        unfold Discover.discoverInit at opened
        split at opened
        next =>
          cases opened
          exact Discover.configured_loadConfig valid boot.nametoindex .blank
        next => cases opened
      case net =>
        intro _
        show applyNetConfig daemon.sys.net cfg.daemon = daemon.sys.net
        rw [net]
        rfl

/-- The input is no reload of a file with a capacity that is no `long long`. -/
def MainInput.CapacityFits : MainInput → Prop
  | .reload env => FileFits env.file
  | .clientReady _ _ | .listenReady _ | .cardReadable _ _ _ | .housekeeping _ | .clock _ _ |
      .datagram _ _ | .requestTaken _ => True

theorem MainLoop.callback_cfg {main next : MainLoop} {input : Input}
    (stepped : main.callback input = some next) : next.cfg = main.cfg := by
  obtain ⟨daemon, _, rfl⟩ := Option.map_eq_some_iff.mp stepped
  rfl

theorem MainLoop.Consistent.step_inRange {main next : MainLoop} {input : MainInput}
    (consistent : main.Consistent) (inRange : CapacityInRange main.cfg.eventsCapacity)
    (fits : input.CapacityFits) (stepped : main.step input = some next) :
    CapacityInRange next.cfg.eventsCapacity := by
  cases input with
  | clientReady | listenReady | cardReadable | clock =>
      rw [MainLoop.callback_cfg stepped]
      exact inRange
  | housekeeping expired =>
      cases expired with
      | false =>
          cases stepped
          exact inRange
      | true =>
          rw [main.step_expired] at stepped
          obtain ⟨called, returned, rfl⟩ := Option.map_eq_some_iff.mp stepped
          show CapacityInRange called.cfg.eventsCapacity
          rw [MainLoop.callback_cfg returned]
          exact inRange
  | datagram | requestTaken =>
      cases stepped
      exact inRange
  | reload env =>
      cases stepped
      show CapacityInRange (main.reload env).cfg.eventsCapacity
      unfold MainLoop.reload
      cases found : main.reloadFound env with
      | none => exact inRange
      | some pair => exact (consistent.reloaded found).inRange fits

theorem MainLoop.start_inRange {boot : Boot} {main : MainLoop} (fits : FileFits boot.file)
    (started : MainLoop.start boot = some main) : CapacityInRange main.cfg.eventsCapacity := by
  have cfg : main.cfg = (configLoad boot.castOutside boot.file configSetDefaults).2 := by
    unfold MainLoop.start at started
    simp only at started
    split at started
    next => cases started
    next =>
      split at started
      next => cases started
      next =>
        obtain ⟨daemon, _, rfl⟩ := Option.map_eq_some_iff.mp started
        rfl
  rw [cfg]
  have defaults : CapacityInRange configSetDefaults.eventsCapacity :=
    { enough := by decide, fits := by decide }
  cases file : boot.file with
  | none => exact defaults
  | some root =>
      cases found : requiredFields root with
      | none =>
          rw [configLoad_refused configSetDefaults found]
          exact defaults
      | some required =>
          obtain ⟨loaded, done⟩ := configLoad_loaded configSetDefaults found
          rw [done]
          exact configLoad_inRange done (fits root file)

/-- After every run of a started program, with any inputs and any reloads, whatever fails in
them: the configuration in force passes its checks and names the database and the port that
are in use, the file that was made at the start, and the log if it is open; the network unit,
the discovery unit and the relays work with its values.  The capacity of the events passes its
check too, if it fits in the files that were read. -/
theorem main_stays_consistent (boot : Boot) (inputs : List MainInput) (main final : MainLoop)
    (started : MainLoop.start boot = some main)
    (reached : run MainLoop.step main inputs = some final) :
    final.Consistent ∧
      (∀ disc port, final.disc = some disc → final.port = some port →
        disc.unit.tcpPort = port) ∧
      (FileFits boot.file → (∀ input ∈ inputs, input.CapacityFits) →
        CapacityInRange final.cfg.eventsCapacity) := by
  have consistent : final.Consistent :=
    run_invariant (fun _ _ _ holds stepped => MainLoop.Consistent.step holds stepped)
      (MainLoop.start_consistent started) reached
  refine ⟨consistent, ?_, ?_⟩
  · intro disc port held listening
    exact ((consistent.disc disc held).tcpPort).trans (consistent.port port listening)
  · intro bootFits fits
    have each : Guarded MainLoop.step (fun _ input => input.CapacityFits) main inputs :=
      guarded_of_forall fits
    have keeps : ∀ state (input : MainInput) next,
        state.Consistent ∧ CapacityInRange state.cfg.eventsCapacity → input.CapacityFits →
          MainLoop.step state input = some next →
            next.Consistent ∧ CapacityInRange next.cfg.eventsCapacity := by
      rintro state input next ⟨holds, inRange⟩ fit stepped
      exact ⟨holds.step stepped, holds.step_inRange inRange fit stepped⟩
    exact (each.invariant keeps
      ⟨MainLoop.start_consistent started, MainLoop.start_inRange bootFits started⟩ reached).2

/-- A file that names another database, another port and a log. -/
def otherPlaces : Document :=
  { items :=
      [(cstr "db_path", .string (cstr "/data/acud.db")), (cstr "door_open_seconds", .number 5),
        (cstr "admin_password", .string (cstr "0000")), (cstr "tcp_port", .number 9871),
        (cstr "log_path", .string (cstr "/var/log/acud.log"))] }

/-- Neither the database nor the port can be opened; the log can, the first time. -/
def failingReload (logs : Bool) : MainInput :=
  .reload
    { file := some otherPlaces
      castOutside := castX86
      opensLog := fun _ => logs
      openDb := fun _ => none
      listen := fun _ => none
      nametoindex := fun _ => 2 }

def failingReloads : List MainInput :=
  [failingReload true, .housekeeping true, failingReload false, failingReload true]

theorem main_stays_consistent_failing :
    ∃ main final, MainLoop.start Boot.first = some main ∧
      run MainLoop.step main failingReloads = some final ∧ final.Consistent ∧
      CapacityInRange final.cfg.eventsCapacity := by
  obtain ⟨main, started⟩ : ∃ main, MainLoop.start Boot.first = some main :=
    Option.isSome_iff_exists.mp rfl
  obtain ⟨final, reached⟩ : ∃ final, run MainLoop.step main failingReloads = some final := by
    cases started
    exact Option.isSome_iff_exists.mp rfl
  have noFile : FileFits Boot.first.file := by
    intro root file
    cases file
  -- The file that is read says nothing about the capacity.
  have unnamed : otherPlaces.item "events_capacity" = none := by decide
  have fits : FileFits (some otherPlaces) := by
    intro root file value entry
    cases file
    rw [unnamed] at entry
    cases entry
  have each : ∀ input ∈ failingReloads, input.CapacityFits := by
    intro input among
    simp only [failingReloads, List.mem_cons, List.not_mem_nil, or_false] at among
    obtain rfl | rfl | rfl | rfl := among
    · exact fits
    · exact trivial
    · exact fits
    · exact fits
  have whole := main_stays_consistent Boot.first failingReloads main final started reached
  exact ⟨main, final, started, reached, whole.1, whole.2.2 noFile each⟩

/-! ### The file of the log -/

/-- The path the log has after a reload. -/
def MainLoop.nextLogPath (main : MainLoop) (env : ReloadEnv) : Bytes :=
  ((main.reloadFound env).map fun found => found.2.logPath).getD main.cfg.logPath

/-- The path names a file that can be opened. -/
def ReloadEnv.logs (env : ReloadEnv) (path : Bytes) : Bool :=
  path != [] && env.opensLog path

/-- The file that a reload switches the log to. -/
def MainLoop.logWritten (main : MainLoop) : MainInput → Option Bytes
  | .reload env =>
      if main.nextLogPath env ≠ main.cfg.logPath ∧ env.logs (main.nextLogPath env) = true then
        some (main.nextLogPath env)
      else none
  | .clientReady _ _ | .listenReady _ | .cardReadable _ _ _ | .housekeeping _ | .clock _ _ |
      .datagram _ _ | .requestTaken _ => none

/-- The input is a reload that finds no file to open. -/
def MainLoop.logLost (main : MainLoop) : MainInput → Prop
  | .reload env => env.logs (main.nextLogPath env) = false
  | .clientReady _ _ | .listenReady _ | .cardReadable _ _ _ | .housekeeping _ | .clock _ _ |
      .datagram _ _ | .requestTaken _ => False

/-- A path that fits is the name that is opened. -/
theorem logOpen_file_of_valid {cfg : Config.AcuConfig} (valid : cfg.Valid) (env : ReloadEnv)
    (log : AcuLog) :
    (logOpen env.opensLog log cfg.logPath).file =
      if env.logs cfg.logPath then some cfg.logPath else none := by
  have fits : snprintfText logPathCap cfg.logPath = cfg.logPath :=
    snprintfText_of_textItem (valid castX86 .logPath (by decide))
  rw [logOpen_file, fits]
  simp only [ReloadEnv.logs, Bool.and_eq_true, bne_iff_ne]

theorem MainLoop.Consistent.reopen_file {main : MainLoop} (consistent : main.Consistent)
    (env : ReloadEnv) :
    (logReopen env.opensLog main.log).file =
      if env.logs main.cfg.logPath then main.log.file else none := by
  unfold logReopen
  split
  next isOpen =>
    rw [← consistent.log isOpen, logOpen_file_of_valid consistent.valid,
      AcuLog.file_eq_some.mpr ⟨isOpen, (consistent.log isOpen).symm⟩]
  next closed =>
    unfold AcuLog.file
    rw [if_neg closed, ite_self]

/-- What a reload does to the file of the log. -/
theorem MainLoop.Consistent.reload_file {main : MainLoop} (consistent : main.Consistent)
    (env : ReloadEnv) :
    (main.reload env).log.file =
      if env.logs (main.nextLogPath env) then
        if main.nextLogPath env ≠ main.cfg.logPath then some (main.nextLogPath env)
        else main.log.file
      else none := by
  unfold MainLoop.reload MainLoop.nextLogPath
  cases found : main.reloadFound env with
  | none =>
      have same : ¬ main.cfg.logPath ≠ main.cfg.logPath := not_not.mpr rfl
      simp only [Option.map_none, Option.getD_none, if_neg same]
      exact consistent.reopen_file env
  | some pair =>
      obtain ⟨reload, cfg⟩ := pair
      have valid := (consistent.reloaded found).valid consistent.valid
      simp only [Option.map_some, Option.getD_some, reloadLog]
      split
      next changed => exact logOpen_file_of_valid valid env _
      next same =>
        rw [not_not.mp same]
        exact consistent.reopen_file env

theorem MainLoop.callback_log {main next : MainLoop} {input : Input}
    (stepped : main.callback input = some next) : next.log = main.log := by
  obtain ⟨daemon, _, rfl⟩ := Option.map_eq_some_iff.mp stepped
  rfl

theorem MainLoop.logCell :
    WritesCell MainLoop.step MainLoop.Consistent (fun main => main.log.file)
      MainLoop.logWritten MainLoop.logLost where
  keeps := MainLoop.Consistent.step
  wrote := by
    intro main input next path consistent stepped written
    cases input with
    | reload env =>
        cases stepped
        simp only [MainLoop.logWritten] at written
        split at written
        next switched =>
          cases written
          show (main.reload env).log.file = _
          rw [consistent.reload_file env, if_pos switched.2, if_pos switched.1]
        next => cases written
    | _ => cases written
  emptied := by
    intro main input next consistent stepped _ lost
    cases input with
    | reload env =>
        cases stepped
        show (main.reload env).log.file = none
        rw [consistent.reload_file env, show env.logs (main.nextLogPath env) = false from lost]
        rfl
    | _ => cases lost
  kept := by
    intro main input next consistent stepped unwritten found
    cases input with
    | reload env =>
        cases stepped
        have opened : env.logs (main.nextLogPath env) = true := Bool.eq_true_of_not_eq_false found
        have same : ¬ main.nextLogPath env ≠ main.cfg.logPath := by
          intro differs
          rw [MainLoop.logWritten, if_pos ⟨differs, opened⟩] at unwritten
          cases unwritten
        show (main.reload env).log.file = main.log.file
        rw [consistent.reload_file env, if_pos opened, if_neg same]
    | clientReady | listenReady | cardReadable | clock =>
        exact congrArg AcuLog.file (MainLoop.callback_log stepped)
    | housekeeping expired =>
        cases expired with
        | false =>
            cases stepped
            rfl
        | true =>
            rw [main.step_expired] at stepped
            obtain ⟨called, returned, rfl⟩ := Option.map_eq_some_iff.mp stepped
            have same : called.log = main.log := MainLoop.callback_log returned
            exact congrArg AcuLog.file same
    | datagram | requestTaken =>
        cases stepped
        rfl

/-- In every run of a started program the log is in a file exactly if that file was opened at
the start, or by the last reload that changed the path, and every reload since has found that
it can be opened.  One reload that does not find it is enough: no later one brings the log
back as long as the path stays the same. -/
theorem log_is_last_opened (boot : Boot) (inputs : List MainInput) (main final : MainLoop)
    (started : MainLoop.start boot = some main)
    (reached : run MainLoop.step main inputs = some final) (path : Bytes) :
    final.log.file = some path ↔
      (main.log.file = some path ∧
          Meets MainLoop.step (Undisturbed MainLoop.logWritten MainLoop.logLost) main inputs) ∨
        LastWrite MainLoop.step MainLoop.logWritten MainLoop.logLost main inputs path :=
  MainLoop.logCell.cell_eq_some_iff (MainLoop.start_consistent started) reached

/-- The log is switched by a reload at which nothing else can be opened. -/
theorem log_is_last_opened_switched :
    ∃ main final, MainLoop.start Boot.first = some main ∧
      run MainLoop.step main [failingReload true, .housekeeping true] = some final ∧
      final.log.file = some (cstr "/var/log/acud.log") ∧
      LastWrite MainLoop.step MainLoop.logWritten MainLoop.logLost main
        [failingReload true, .housekeeping true] (cstr "/var/log/acud.log") := by
  obtain ⟨main, started⟩ : ∃ main, MainLoop.start Boot.first = some main :=
    Option.isSome_iff_exists.mp rfl
  obtain ⟨final, reached⟩ :
      ∃ final, run MainLoop.step main [failingReload true, .housekeeping true] = some final := by
    cases started
    exact Option.isSome_iff_exists.mp rfl
  have file : final.log.file = some (cstr "/var/log/acud.log") ∧ main.log.file = none := by
    cases started
    cases reached
    exact ⟨rfl, rfl⟩
  refine ⟨main, final, started, reached, file.1, ?_⟩
  refine ((log_is_last_opened Boot.first _ main final started reached _).mp file.1).resolve_left ?_
  rintro ⟨held, _⟩
  rw [file.2] at held
  cases held

end Acud
