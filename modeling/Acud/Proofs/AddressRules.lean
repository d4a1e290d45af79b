/-
Module: Acud.Proofs.AddressRules
Purpose: The addresses that the network form accepts, compared with those of a setting
  request.
Trusted boundary: none
Main exports:
  WebForm.int_decimal, WebForm.ipv4Address_dotted, WebForm.checkSubnet_eq_nil,
  WebForm.validateNetworkForm_errors
-/
import Acud.Proofs.DiscoverChecks
import Acud.WebForm

namespace Acud.WebForm

open Lib
open Discover (Fits addressOf octets ipOf gatewayOf netmaskOf)

/-!
The form gets texts.  Those of a number and of an address are read back as what they were
written for, so the two sets of checks can be compared as conditions on numbers.  They part
in one point: the form also asks that the address is neither the first nor the last one of
its block.
-/

/-! ### Reading texts -/

theorem mapM_eq_some_map {α β : Type} {read : α → Option β} {value : α → β} {items : List α}
    (reads : ∀ item ∈ items, read item = some (value item)) :
    items.mapM read = some (items.map value) := by
  induction items with
  | nil => rfl
  | cons item rest ih =>
      have first := reads item List.mem_cons_self
      have later := ih fun other member => reads other (List.mem_cons_of_mem item member)
      simp [List.mapM_cons, first, later]

theorem toNat_of_isDigit {character : Char} (digit : character.isDigit = true) :
    48 ≤ character.toNat ∧ character.toNat ≤ 57 :=
  Char.isDigit_iff_toNat.mp digit

theorem digitValue_of_isDigit {character : Char} (digit : character.isDigit = true) :
    digitValue character = some (character.toNat - 48) := by
  obtain ⟨low, high⟩ := toNat_of_isDigit digit
  have first : decimalZeros.find? (fun first =>
      first ≤ character.toNat && character.toNat < first + 10) = some 48 := by
    apply List.find?_cons_of_pos
    simp only [Bool.and_eq_true, decide_eq_true_eq]
    omega
  rw [digitValue, first]
  rfl

theorem isIntSpace_of_isDigit {character : Char} (digit : character.isDigit = true) :
    isIntSpace character = false := by
  obtain ⟨low, high⟩ := toNat_of_isDigit digit
  simp only [isIntSpace, isSpace, Bool.and_eq_false_iff, Bool.or_eq_false_iff,
    decide_eq_false_iff_not, beq_eq_false_iff_ne]
  omega

theorem stripOf_eq_self {space : Char → Bool} {text : Text}
    (clean : ∀ character ∈ text, space character = false) : stripOf space text = text := by
  rw [stripOf, List.dropWhile_eq_self_iff.mpr, List.rdropWhile_eq_self_iff.mpr]
  · intro some
    rw [clean _ (List.getLast_mem some)]
    exact Bool.false_ne_true
  · intro some
    rw [clean _ (List.getElem_mem some)]
    exact Bool.false_ne_true

theorem magnitude_decimal {number : Nat} (short : (decimal number).length ≤ intMaxStrDigits) :
    magnitude (decimal number) = some number := by
  have whole : (decimal number).splitOn '_' = [decimal number] :=
    List.splitOn_eq_singleton (notMem_decimal number (by decide))
  have digits : (decimal number).mapM digitValue =
      some ((decimal number).map fun digit => digit.toNat - 48) :=
    mapM_eq_some_map fun digit member => digitValue_of_isDigit (isDigit_of_mem_decimal member)
  have value : ((decimal number).map fun digit => digit.toNat - 48).foldl
      (fun value digit => 10 * value + digit) 0 = number := by
    rw [List.foldl_map]
    exact numberOf_decimal number
  simp only [magnitude, whole, List.any_cons, List.any_nil, Bool.or_false,
    List.flatten_singleton, digits, Option.map_some, value]
  rw [if_neg]
  simp only [Bool.or_eq_true, List.isEmpty_iff, decide_eq_true_eq, not_or, Nat.not_lt]
  exact ⟨decimal_ne_nil number, short⟩

/-- `int` reads what `str` writes. -/
theorem int_decimal {number : Nat} (short : (decimal number).length ≤ intMaxStrDigits) :
    int (decimal number) = some (number : Int) := by
  have stripped : stripOf isIntSpace (decimal number) = decimal number :=
    stripOf_eq_self fun digit member => isIntSpace_of_isDigit (isDigit_of_mem_decimal member)
  have value := magnitude_decimal short
  unfold int
  rw [stripped]
  -- A number starts with a digit, so it is not taken for a sign.
  split
  next rest minus =>
    have digit := @isDigit_of_mem_decimal number '-' (by rw [minus]; exact List.mem_cons_self)
    cases digit
  next rest plus =>
    have digit := @isDigit_of_mem_decimal number '+' (by rw [plus]; exact List.mem_cons_self)
    cases digit
  next => rw [value]; rfl

theorem parseOctet_decimal {octet : Nat} (le : octet ≤ 255) :
    parseOctet (decimal octet) = some octet := by
  have digits : (decimal octet).all Char.isDigit = true :=
    List.all_eq_true.mpr fun digit member => isDigit_of_mem_decimal member
  have short : (decimal octet).length ≤ 3 :=
    (length_decimal_le (by decide)).mpr (by omega)
  have noZero : ¬ (decimal octet ≠ ['0'] ∧ (decimal octet).head? = some '0') := by
    rintro ⟨notZero, zero⟩
    by_cases null : octet = 0
    · rw [null] at notZero
      exact notZero rfl
    · exact head?_decimal null zero
  unfold parseOctet
  rw [if_neg (by simpa using decimal_ne_nil octet), if_neg (by simp [digits]),
    if_neg (Nat.not_lt.mpr short), if_neg noZero, numberOf_decimal, if_neg (Nat.not_lt.mpr le)]

/-- `IPv4Address` reads four numbers with dots between them. -/
theorem ipv4Address_dotted {parts : List Nat} (four : parts.length = 4)
    (small : ∀ part ∈ parts, part ≤ 255) :
    ipv4Address (dotted parts) = some (fromBytes parts) := by
  have some : parts ≠ [] := by
    rintro rfl
    cases four
  have split := splitOn_dotted some
  have noSlash : '/' ∉ dotted parts := notMem_dotted parts (by decide) (by decide)
  have read : (parts.map decimal).mapM parseOctet = .some parts := by
    rw [List.mapM_map]
    exact (mapM_eq_some_map fun part member => parseOctet_decimal (small part member)).trans
      (by rw [List.map_id'])
  unfold ipv4Address
  rw [if_neg noSlash, if_neg (by simpa using dotted_ne_nil some), split, List.length_map, four,
    if_neg (by simp), read]
  rfl

/-! ### The checks -/

theorem hostmask_of (address : Nat) {prefixlen : Nat} (le : prefixlen ≤ 32) :
    (IPv4Network.of address prefixlen).hostmask = 2 ^ (32 - prefixlen) - 1 := by
  have small : 2 ^ (32 - prefixlen) ≤ 2 ^ 32 := Nat.pow_le_pow_right (by decide) (by omega)
  have large := Nat.two_pow_pos (32 - prefixlen)
  show 2 ^ 32 - 1 - (2 ^ 32 - 2 ^ (32 - prefixlen)) = 2 ^ (32 - prefixlen) - 1
  omega

/-- The checks between the fields, without masks. -/
theorem checkSubnet_eq_nil {ip gateway prefixlen : Nat} (ipBound : ip < 2 ^ 32)
    (gatewayBound : gateway < 2 ^ 32) (le : prefixlen ≤ 32) :
    checkSubnet ip gateway prefixlen = [] ↔
      ip ≠ gateway ∧ ip / 2 ^ (32 - prefixlen) = gateway / 2 ^ (32 - prefixlen) ∧
        IsHost (32 - prefixlen) ip := by
  have start : (IPv4Network.of ip prefixlen).networkAddress =
      ip / 2 ^ (32 - prefixlen) * 2 ^ (32 - prefixlen) :=
    and_prefixMask le ipBound
  have member : (IPv4Network.of ip prefixlen).contains gateway = true ↔
      ip / 2 ^ (32 - prefixlen) = gateway / 2 ^ (32 - prefixlen) := by
    show (gateway &&& prefixMask 32 prefixlen == (IPv4Network.of ip prefixlen).networkAddress)
      = true ↔ _
    rw [start, and_prefixMask le gatewayBound, beq_iff_eq,
      Nat.mul_left_inj (Nat.two_pow_pos _).ne', eq_comm]
  have behind : (IPv4Network.of ip prefixlen).broadcastAddress =
      ip / 2 ^ (32 - prefixlen) * 2 ^ (32 - prefixlen) ||| (2 ^ (32 - prefixlen) - 1) := by
    rw [IPv4Network.broadcastAddress, start, hostmask_of ip le]
  unfold checkSubnet
  by_cases same : ip = gateway
  · simp [same]
  · rw [if_neg same]
    simp only [List.append_eq_nil_iff, ite_eq_left_iff, ite_eq_right_iff, List.cons_ne_nil,
      imp_false, not_not, member, start, behind]
    rw [isHost_iff]
    constructor
    · rintro ⟨⟨inside, notStart⟩, notEnd⟩
      exact ⟨same, by simpa using inside, notStart, notEnd⟩
    · rintro ⟨_, inside, notStart, notEnd⟩
      exact ⟨⟨by simpa using inside, notStart⟩, notEnd⟩

/-- What the fields are read as decides, not how they were written. -/
theorem validateNetworkForm_errors {ipRaw prefixRaw gatewayRaw : Text} (dnsRaw : Text)
    {ip gateway prefixlen : Nat} (ipRead : ipv4Address ipRaw = some ip)
    (prefixRead : int prefixRaw = some (prefixlen : Int))
    (gatewayRead : ipv4Address gatewayRaw = some gateway) (ipBound : ip < 2 ^ 32)
    (gatewayBound : gateway < 2 ^ 32) :
    (validateNetworkForm ipRaw prefixRaw gatewayRaw dnsRaw).errors = [] ↔
      Fits ip gateway prefixlen ∧ IsHost (32 - prefixlen) ip ∧ checkDns dnsRaw = [] := by
  unfold validateNetworkForm checkPrefix checkAddress
  simp only [ipRead, prefixRead, gatewayRead]
  by_cases range : 8 ≤ prefixlen ∧ prefixlen ≤ 30
  · have within : 8 ≤ (prefixlen : Int) ∧ (prefixlen : Int) ≤ 30 := by omega
    simp only [if_pos within, Int.toNat_natCast, List.nil_append, List.append_eq_nil_iff]
    rw [checkSubnet_eq_nil ipBound gatewayBound (by omega)]
    constructor
    · rintro ⟨dns, differs, sameBlock, host⟩
      exact ⟨⟨range, differs, sameBlock⟩, host, dns⟩
    · rintro ⟨fits, host, dns⟩
      exact ⟨dns, fits.differs, fits.sameBlock, host⟩
  · have outside : ¬ (8 ≤ (prefixlen : Int) ∧ (prefixlen : Int) ≤ 30) := by omega
    simp only [if_neg outside, List.cons_append, List.cons_ne_nil, false_iff]
    exact fun accepted => range accepted.1.range

theorem ipv4Address_octets (ip : Memory) :
    ipv4Address (dotted (octets ip)) = some (addressOf ip) := by
  rw [ipv4Address_dotted rfl fun octet member => Discover.octet_le member,
    Discover.addressOf_eq]
  simp only [octets, fromBytes, List.foldl_cons, List.foldl_nil, Option.some.injEq]
  omega

/-- The form on the texts of a frame. -/
def formErrors (req : Memory) (prefixlen : Nat) (dnsRaw : Text) : List FormError :=
  (validateNetworkForm (Discover.ipToText (req.advance Discover.nmOffIp) 16)
    (decimal prefixlen) (Discover.ipToText (req.advance Discover.nmOffGateway) 16)
    dnsRaw).errors

/-- The form accepts the texts of an address, a prefix length and a gateway exactly if
they fit and the address is that of a host. -/
theorem formErrors_eq_nil (req : Memory) {prefixlen : Nat} (dnsRaw : Text)
    (le : prefixlen ≤ 32) :
    formErrors req prefixlen dnsRaw = [] ↔
      Fits (ipOf req) (gatewayOf req) prefixlen ∧ IsHost (32 - prefixlen) (ipOf req) ∧
        checkDns dnsRaw = [] := by
  have short : (decimal prefixlen).length ≤ intMaxStrDigits :=
    Nat.le_trans ((@length_decimal_le prefixlen 2 (by decide)).mpr (by omega)) (by decide)
  rw [formErrors, Discover.ipToText_eq, Discover.ipToText_eq]
  exact validateNetworkForm_errors dnsRaw (ipv4Address_octets _) (int_decimal short)
    (ipv4Address_octets _) (Discover.addressOf_lt _) (Discover.addressOf_lt _)

end Acud.WebForm

namespace Acud

open Lib Discover WebForm

/-- The daemon and the form accept the same requests. -/
def SettFormAgree (req : Memory) (dnsRaw : Text) : Prop :=
  (∃ prefixLen, settValidate req = .ok prefixLen) ↔
    ∃ prefixLen, netmaskToPrefix (netmaskOf req) = some prefixLen ∧
      formErrors req prefixLen dnsRaw = []

/-- Whoever fits the mask of the request is no first and no last address of a block,
except for the two that are refused by themselves. -/
def HostUnlessRefused (req : Memory) : Prop :=
  ∀ prefixLen, addressOf (netmaskOf req) = prefixMask 32 prefixLen →
    Fits (ipOf req) (gatewayOf req) prefixLen → ipOf req ≠ 0 → ipOf req ≠ 2 ^ 32 - 1 →
      IsHost (32 - prefixLen) (ipOf req)

/-- They part exactly on the first and the last address of a block. -/
theorem sett_form_agree_iff (req : Memory) (dnsRaw : Text) (dns : checkDns dnsRaw = []) :
    SettFormAgree req dnsRaw ↔ HostUnlessRefused req := by
  constructor
  · intro agree prefixLen mask fits notZero notOnes
    have le : prefixLen ≤ 32 := Nat.le_trans fits.range.2 (by decide)
    have found := netmaskToPrefix_iff.mpr ⟨le, mask⟩
    obtain ⟨other, same, accepted⟩ :=
      agree.mp ⟨prefixLen, settValidate_ok.mpr ⟨notZero, notOnes, found, fits⟩⟩
    rw [found] at same
    cases same
    exact ((formErrors_eq_nil req dnsRaw le).mp accepted).2.1
  · intro hosts
    constructor
    · rintro ⟨prefixLen, accepted⟩
      obtain ⟨notZero, notOnes, mask, fits⟩ := settValidate_ok.mp accepted
      obtain ⟨le, masked⟩ := netmaskToPrefix_iff.mp mask
      have host := hosts prefixLen masked fits notZero notOnes
      exact ⟨prefixLen, mask, (formErrors_eq_nil req dnsRaw le).mpr ⟨fits, host, dns⟩⟩
    · rintro ⟨prefixLen, mask, accepted⟩
      have le := (netmaskToPrefix_iff.mp mask).1
      obtain ⟨fits, host, _⟩ := (formErrors_eq_nil req dnsRaw le).mp accepted
      obtain ⟨notZero, notOnes⟩ := host.inside (Nat.sub_le 32 prefixLen)
      exact ⟨prefixLen, settValidate_ok.mpr ⟨notZero, notOnes, mask, fits⟩⟩

/-- A frame with an address, a netmask and a gateway. -/
def settFrame (ip netmask gateway : Bytes) : Memory :=
  Memory.zeros.write nmOffIp (ip ++ netmask ++ gateway)

theorem sett_form_agree_iff_two_servers :
    SettFormAgree (settFrame [192, 168, 0, 7] [255, 255, 255, 0] [192, 168, 0, 1])
        "8.8.8.8, 1.1.1.1".toList ↔
      HostUnlessRefused (settFrame [192, 168, 0, 7] [255, 255, 255, 0] [192, 168, 0, 1]) :=
  sett_form_agree_iff _ _ (by decide +kernel)

/-- The address of the network itself: the daemon accepts it and the form does not. -/
theorem sett_form_part_on_network_address :
    ¬ SettFormAgree (settFrame [192, 168, 0, 0] [255, 255, 255, 0] [192, 168, 0, 1]) [] := by
  intro agree
  obtain ⟨prefixLen, mask, accepted⟩ := agree.mp ⟨24, by decide +kernel⟩
  have found : netmaskToPrefix (netmaskOf
      (settFrame [192, 168, 0, 0] [255, 255, 255, 0] [192, 168, 0, 1])) = some 24 := by
    decide +kernel
  rw [found] at mask
  cases mask
  have refused : formErrors (settFrame [192, 168, 0, 0] [255, 255, 255, 0] [192, 168, 0, 1]) 24
      [] = [.networkAddress] := by
    decide +kernel
  rw [refused] at accepted
  cases accepted

end Acud
