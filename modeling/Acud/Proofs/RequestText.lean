/-
Module: Acud.Proofs.RequestText
Purpose: An accepted setting request passes the checks of the helper that reads its file.
Trusted boundary: none
Main exports:
  Netcfg.readRequest_settRequestText, Netcfg.checkFields_settFields,
  request_passes_checks
-/
import Acud.NetConfig
import Acud.Proofs.DiscoverChecks
import Acud.RequestFile

namespace Acud.Netcfg

open Lib
open Discover (Fits addressOf octets ipOf gatewayOf netmaskOf settRequestText settValidate)

/-!
The file has four lines with a key each, and no value contains a line end or a `=`, so every
field is read back as it was printed.  On the texts of addresses and numbers, the tests of
the script are the conditions that the daemon has checked.
-/

/-! ### Reading the file back -/

theorem splitLine_pair {key value : Text} (plainKey : '=' ∉ key) (plainValue : '=' ∉ value) :
    splitLine (key ++ '=' :: value) = (key, value) := by
  have front : ∀ character ∈ key, decide (character ≠ '=') = true := by
    intro character member
    rw [decide_eq_true_eq]
    rintro rfl
    exact plainKey member
  have taken : (key ++ '=' :: value).takeWhile (fun character => decide (character ≠ '=')) =
      key := by
    rw [List.takeWhile_append_of_pos front]
    simp
  have rest : (key ++ '=' :: value).dropWhile (fun character => decide (character ≠ '=')) =
      '=' :: value := by
    rw [List.dropWhile_append_of_pos front]
    simp
  unfold splitLine
  rw [taken, rest, List.drop_one, List.tail_cons, if_neg]
  rintro ⟨last, _⟩
  exact plainValue (List.mem_of_getLast? last)

/-- The fields that the daemon prints. -/
def settFields (req : Memory) (prefixLen : Nat) : RequestFields :=
  { ipAddr := dotted (octets (req.advance Discover.nmOffIp))
    prefixLen := decimal prefixLen
    gw := dotted (octets (req.advance Discover.nmOffGateway))
    dns := dotted (octets (req.advance Discover.nmOffGateway)) }

theorem settRequestText_eq (req : Memory) (prefixLen : Nat) :
    settRequestText req prefixLen =
      unlines
        ["ip".toList ++ '=' :: (settFields req prefixLen).ipAddr,
          "prefix".toList ++ '=' :: (settFields req prefixLen).prefixLen,
          "gateway".toList ++ '=' :: (settFields req prefixLen).gw,
          "dns".toList ++ '=' :: (settFields req prefixLen).dns] := by
  unfold settRequestText unlines settFields
  rw [Discover.ipToText_eq, Discover.ipToText_eq]
  simp

theorem readRequest_settRequestText (req : Memory) (prefixLen : Nat) :
    readRequest (settRequestText req prefixLen) = settFields req prefixLen := by
  have plain : ∀ other : Char, other.isDigit = false → other ≠ '.' →
      other ∉ (settFields req prefixLen).ipAddr ∧
        other ∉ (settFields req prefixLen).prefixLen ∧
        other ∉ (settFields req prefixLen).gw ∧ other ∉ (settFields req prefixLen).dns :=
    fun other noDigit noDot =>
      ⟨notMem_dotted _ noDigit noDot, notMem_decimal _ noDigit, notMem_dotted _ noDigit noDot,
        notMem_dotted _ noDigit noDot⟩
  obtain ⟨ipEnd, prefixEnd, gwEnd, dnsEnd⟩ := plain '\n' (by decide) (by decide)
  obtain ⟨ipSign, prefixSign, gwSign, dnsSign⟩ := plain '=' (by decide) (by decide)
  rw [readRequest, settRequestText_eq, lines_unlines]
  · simp only [List.foldl_cons, List.foldl_nil, readField]
    rw [splitLine_pair (by decide) ipSign, splitLine_pair (by decide) prefixSign,
      splitLine_pair (by decide) gwSign, splitLine_pair (by decide) dnsSign]
    rfl
  · intro line member
    simp only [List.mem_cons, List.not_mem_nil, or_false] at member
    rcases member with rfl | rfl | rfl | rfl
    · simpa using ipEnd
    · simpa using prefixEnd
    · simpa using gwEnd
    · simpa using dnsEnd

/-! ### The tests -/

theorem isIpv4_dotted {parts : List Nat} (four : parts.length = 4)
    (small : ∀ part ∈ parts, part ≤ 255) : isIpv4 (dotted parts) = true := by
  have split : (dotted parts).splitOn '.' = parts.map decimal :=
    splitOn_dotted (by rintro rfl; cases four)
  simp only [isIpv4, split, List.length_map, four, beq_self_eq_true, Bool.true_and,
    Bool.and_eq_true, List.all_map, List.all_eq_true, Function.comp_apply, isNumber_decimal,
    numberOf_decimal, decide_eq_true_eq]
  refine ⟨fun part member => ?_, small⟩
  have le := small part member
  exact (length_decimal_le (by decide)).mpr (by omega)

theorem ip2int_octets (ip : Memory) : ip2int (dotted (octets ip)) = addressOf ip := by
  have split : (dotted (octets ip)).splitOn '.' = (octets ip).map decimal :=
    splitOn_dotted (Discover.octets_ne_nil _)
  rw [Discover.addressOf_eq]
  unfold ip2int field
  rw [split]
  simp [octets]

theorem dotted_octets_inj {first second : Memory} :
    dotted (octets first) = dotted (octets second) ↔ addressOf first = addressOf second := by
  rw [← Discover.octets_inj]
  constructor
  · exact dotted_injective (Discover.octets_ne_nil _) (Discover.octets_ne_nil _)
  · intro same
    rw [same]

/-- Two numbers of one block begin the same block. -/
theorem sameSubnet_octets {first second : Memory} {prefixLen : Nat}
    (same : addressOf first / 2 ^ (32 - prefixLen) = addressOf second / 2 ^ (32 - prefixLen)) :
    sameSubnet (dotted (octets first)) (dotted (octets second)) (decimal prefixLen) = true := by
  simp only [sameSubnet, ip2int_octets, numberOf_decimal, same, beq_self_eq_true]

/-- An address and a gateway that fit the prefix length pass all the tests. -/
theorem checkFields_settFields {req : Memory} {prefixLen : Nat}
    (fits : Fits (ipOf req) (gatewayOf req) prefixLen) :
    checkFields (settFields req prefixLen) = .ok (settFields req prefixLen) := by
  have some : ∀ ip : Memory, dotted (octets ip) ≠ [] := fun ip =>
    dotted_ne_nil (Discover.octets_ne_nil _)
  have valid : ∀ ip : Memory, isIpv4 (dotted (octets ip)) = true := fun ip =>
    isIpv4_dotted rfl fun octet member => Discover.octet_le member
  have range : ¬ (prefixLen < 8 ∨ 30 < prefixLen) := by
    have within := fits.range
    omega
  have differs : ¬ dotted (octets (req.advance Discover.nmOffIp)) =
      dotted (octets (req.advance Discover.nmOffGateway)) := fun same =>
    fits.differs (dotted_octets_inj.mp same)
  have inside := sameSubnet_octets fits.sameBlock
  unfold checkFields settFields
  simp only [some, decimal_ne_nil, or_self, if_false, valid, isNumber_decimal,
    numberOf_decimal, range, differs, inside, Bool.true_eq_false]

/-! ### What the system may still refuse -/

/-- A change of the web page, another device, `nmcli`. -/
def RequestRefusal.fromSystem : RequestRefusal → Bool
  | .pending | .arpAnswer _ | .pingAnswer _ | .noConnection | .nmcli => true
  | _ => false

theorem checkConflict_fromSystem {env : RequestEnv} {want : Text} {refusal : RequestRefusal}
    (refused : checkConflict env want = some refusal) : refusal.fromSystem = true := by
  unfold checkConflict at refused
  split at refused
  next => cases refused
  next =>
    split at refused
    next =>
      cases refused
      rfl
    next =>
      split at refused
      next =>
        cases refused
        rfl
      next => cases refused

theorem applyFields_fromSystem {env : RequestEnv} {fields : RequestFields}
    {refusal : RequestRefusal} (refused : applyFields env fields = .error refusal) :
    refusal.fromSystem = true := by
  unfold applyFields at refused
  split at refused
  next conflict =>
    cases refused
    exact checkConflict_fromSystem conflict
  next =>
    split at refused
    next =>
      cases refused
      rfl
    next =>
      split at refused
      next => cases refused
      next =>
        cases refused
        rfl

end Acud.Netcfg

namespace Acud

open Lib Discover Netcfg

/-- What the request file of an accepted frame says is what the frame said, it passes every
test of the fields, and only the system can still refuse it. -/
theorem request_passes_checks (req : Memory) (prefixLen : Nat)
    (accepted : settValidate req = .ok prefixLen) :
    ∃ fields, readRequest (settRequestText req prefixLen) = fields ∧
      Netcfg.ip2int fields.ipAddr = ipOf req ∧ numberOf fields.prefixLen = prefixLen ∧
      Netcfg.ip2int fields.gw = gatewayOf req ∧ checkFields fields = .ok fields ∧
      ∀ env path,
        Netcfg.cmdApplyRequest env path (some (settRequestText req prefixLen)) =
          (if env.pending then .error .pending else applyFields env fields) ∧
        ∀ refusal,
          Netcfg.cmdApplyRequest env path (some (settRequestText req prefixLen)) =
            .error refusal → refusal.fromSystem = true := by
  obtain ⟨_, _, _, fits⟩ := settValidate_ok.mp accepted
  have read := readRequest_settRequestText req prefixLen
  have passed := checkFields_settFields fits
  refine ⟨settFields req prefixLen, read, ip2int_octets _, numberOf_decimal _, ip2int_octets _,
    passed, fun env path => ?_⟩
  have applied : Netcfg.cmdApplyRequest env path (some (settRequestText req prefixLen)) =
      if env.pending then .error .pending else applyFields env (settFields req prefixLen) := by
    unfold Netcfg.cmdApplyRequest
    simp only [read, passed]
  refine ⟨applied, fun refusal refused => ?_⟩
  rw [applied] at refused
  split at refused
  next =>
    cases refused
    rfl
  next => exact applyFields_fromSystem refused

/-- `192.168.0.7/24` behind `192.168.0.1`. -/
theorem request_passes_checks_host :
    ∃ fields, readRequest (settRequestText
        (Memory.zeros.write nmOffIp [192, 168, 0, 7, 255, 255, 255, 0, 192, 168, 0, 1]) 24) =
        fields ∧ fields.ipAddr = "192.168.0.7".toList ∧ checkFields fields = .ok fields := by
  obtain ⟨fields, read, _, _, _, passed, _⟩ := request_passes_checks
    (Memory.zeros.write nmOffIp [192, 168, 0, 7, 255, 255, 255, 0, 192, 168, 0, 1]) 24
    (by decide +kernel)
  refine ⟨fields, read, ?_, passed⟩
  rw [← read]
  decide +kernel

/-! ### The helper among the other commands -/

/-- The request that the fields stand for; an empty field is a missing line. -/
def Netcfg.RequestFields.request (fields : RequestFields) : NetRequest :=
  let address := fun text : Text => (text.splitOn '.').map numberOf
  { ip := if fields.ipAddr = [] then none else some (address fields.ipAddr)
    prefixLen := if fields.prefixLen = [] then none else some (numberOf fields.prefixLen)
    gateway := if fields.gw = [] then none else some (address fields.gw)
    dns := if fields.dns = [] then none else some ((fields.dns.splitOn ',').map address) }

/-- The settings of a frame. -/
def settSettings (req : Memory) (prefixLen : Nat) : NetSettings :=
  { address := octets (req.advance nmOffIp)
    prefixLen := prefixLen
    gateway := octets (req.advance nmOffGateway)
    dns := [octets (req.advance nmOffGateway)] }

theorem request_settings (req : Memory) (prefixLen : Nat) :
    (settFields req prefixLen).request.settings = some (settSettings req prefixLen) := by
  have some : ∀ ip : Memory, dotted (octets ip) ≠ [] := fun ip =>
    dotted_ne_nil (Discover.octets_ne_nil _)
  have parts : ∀ ip : Memory, ((dotted (octets ip)).splitOn '.').map numberOf = octets ip := by
    intro ip
    rw [splitOn_dotted (Discover.octets_ne_nil _), map_numberOf_decimal]
  have single : ∀ ip : Memory, (dotted (octets ip)).splitOn ',' = [dotted (octets ip)] :=
    fun ip => List.splitOn_eq_singleton (notMem_dotted _ (by decide) (by decide))
  simp only [RequestFields.request, settFields, if_neg (some _), if_neg (decimal_ne_nil _),
    single, parts, numberOf_decimal, List.map_cons, List.map_nil, NetRequest.settings,
    Option.getD_some]
  rfl

theorem ip2int_address (ip : Memory) : Acud.ip2int (octets ip) = addressOf ip := by
  rw [addressOf_eq]
  simp only [Acud.ip2int, octets, List.foldl_cons, List.foldl_nil]
  omega

theorem settSettings_wellFormed {req : Memory} {prefixLen : Nat}
    (fits : Fits (ipOf req) (gatewayOf req) prefixLen) :
    (settSettings req prefixLen).wellFormed = true := by
  have valid : ∀ ip : Memory, Acud.isIpv4 (octets ip) = true := by
    intro ip
    simp only [Acud.isIpv4, Bool.and_eq_true, List.all_eq_true, decide_eq_true_eq]
    exact ⟨rfl, fun octet member => octet_le member⟩
  have differs : octets (req.advance nmOffIp) ≠ octets (req.advance nmOffGateway) := fun same =>
    fits.differs (octets_inj.mp same)
  have inside : Acud.sameSubnet (octets (req.advance nmOffIp))
      (octets (req.advance nmOffGateway)) prefixLen = true := by
    have block : addressOf (req.advance nmOffIp) / 2 ^ (32 - prefixLen) =
        addressOf (req.advance nmOffGateway) / 2 ^ (32 - prefixLen) := fits.sameBlock
    simp only [Acud.sameSubnet, ip2int_address, block, beq_self_eq_true]
  simp only [NetSettings.wellFormed, settSettings, valid, inside, Bool.and_true,
    Bool.and_eq_true, Bool.true_and]
  exact ⟨decide_eq_true fits.range, decide_eq_true differs⟩

/-- Among the other commands of the helper, the request of an accepted frame goes on to the
test for a conflict unless a change waits to be confirmed. -/
theorem request_enters {req : Memory} {prefixLen : Nat} (world : NetWorld)
    (accepted : settValidate req = .ok prefixLen) :
    (NetCommand.applyRequest
        (readRequest (settRequestText req prefixLen)).request).enter world =
      if world.pending = none then
        .requesting (settSettings req prefixLen) .checkConflict
      else .ended := by
  obtain ⟨_, _, _, fits⟩ := settValidate_ok.mp accepted
  rw [readRequest_settRequestText]
  simp only [NetCommand.enter, request_settings, settSettings_wellFormed fits, and_true]

end Acud
