/-
Module: Acud.Proofs.DiscoverSetting
Purpose: A setting, from the arguments of the tool through the daemon to the helper.
Trusted boundary: none
Main exports:
  NmDiscover.hexBytes_mac, NmDiscover.buildSett_eq, Discover.setting_reaches_helper
-/
import Acud.Proofs.AddressRules
import Acud.Proofs.DiscoverReplies

namespace Acud.NmDiscover

open Lib
open WebForm (int_decimal mapM_eq_some_map)

/-!
The tool is given texts, sends a frame, the daemon checks the frame and writes texts, and the
helper reads these.  What was typed for the address, the prefix length and the gateway is what
the helper hands to the system in the end.

[SRC src/tools/nm_discover.py, src/acud/discover.c, src/deploy/acu-netcfg]
-/

/-! ### What the tool reads -/

theorem int16_hexByte (byte : UInt8) : int16 (hexByte byte) = some (byte.toNat : Int) := by
  revert byte
  apply forall_byte
  decide +kernel

theorem colon_notMem_hexByte (byte : UInt8) : ':' ∉ hexByte byte := by
  revert byte
  apply forall_byte
  decide +kernel

theorem byteOf_toNat (byte : UInt8) : byteOf (byte.toNat : Int) = some byte := by
  have small := byte.toNat_lt
  unfold byteOf
  rw [if_pos (by omega), Int.toNat_natCast]
  simp

/-- What is read back one by one is read back as a list. -/
theorem mapM_map_eq_some {α β : Type} {read : β → Option α} {write : α → β} {items : List α}
    (reads : ∀ item ∈ items, read (write item) = some item) :
    (items.map write).mapM read = some items := by
  induction items with
  | nil => rfl
  | cons item rest inductionHypothesis =>
      have first := reads item List.mem_cons_self
      have later := inductionHypothesis fun other member =>
        reads other (List.mem_cons_of_mem item member)
      simp only [List.map_cons, List.mapM_cons, first, later]
      rfl

/-- A hardware address is read back from the text that is shown for it. -/
theorem hexBytes_mac {bytes : Bytes} (filled : bytes ≠ []) :
    hexBytes ((mac bytes).splitOn ':') = some bytes := by
  have split : (mac bytes).splitOn ':' = bytes.map hexByte := by
    apply List.splitOn_intercalate
    · intro text member
      obtain ⟨byte, _, rfl⟩ := List.mem_map.mp member
      exact colon_notMem_hexByte byte
    · simpa using filled
  rw [split]
  apply mapM_map_eq_some
  intro byte _
  show (int16 (hexByte byte)).bind byteOf = some byte
  simp only [int16_hexByte, Option.bind_some, byteOf_toNat]

/-- And an address from its text. -/
theorem decimalBytes_ip {bytes : Bytes} (filled : bytes ≠ []) :
    decimalBytes ((ip bytes).splitOn '.') = some bytes := by
  have split : (ip bytes).splitOn '.' = bytes.map fun byte => decimal byte.toNat := by
    rw [ip, splitOn_dotted (by simpa using filled), List.map_map]
    rfl
  rw [split]
  apply mapM_map_eq_some
  intro byte _
  have short : (decimal byte.toNat).length ≤ WebForm.intMaxStrDigits := by
    refine ((length_decimal_le (by decide : 0 < 3)).mpr ?_).trans (by decide)
    exact byte.toNat_lt.trans (by decide)
  show (WebForm.int (decimal byte.toNat)).bind byteOf = some byte
  simp only [int_decimal short, Option.bind_some, byteOf_toNat]

/-- The mask of a prefix length. -/
theorem prefixToMask_of {prefixLen : Nat} (le : prefixLen ≤ 32) :
    prefixToMask prefixLen = some (be32Bytes (prefixMask 32 prefixLen).toUInt32) := by
  have shifted : 0xffffffff * 2 ^ (32 - (prefixLen : Int)).toNat % 2 ^ 32 =
      prefixMask 32 prefixLen := by
    have exponent : (32 - (prefixLen : Int)).toNat = 32 - prefixLen := by omega
    have positive : 0 < 2 ^ (32 - prefixLen) := Nat.two_pow_pos _
    have bound : 2 ^ (32 - prefixLen) ≤ 2 ^ 32 := Nat.pow_le_pow_right (by decide) (by omega)
    unfold prefixMask
    rw [exponent]
    omega
  unfold prefixToMask
  rw [if_neg (by omega), shifted]

theorem prefixToMask_isSome {prefixLen : Int} (isSome : (prefixToMask prefixLen).isSome) :
    prefixLen ≤ 32 := by
  by_contra above
  rw [prefixToMask, if_pos (by omega)] at isSome
  cases isSome

/-- A number that is read at all is read as the one that was written. -/
theorem int_decimal_eq_some {number : Nat} {value : Int}
    (read : WebForm.int (decimal number) = some value) : value = number := by
  by_cases short : (decimal number).length ≤ WebForm.intMaxStrDigits
  · rw [int_decimal short] at read
    exact (Option.some.inj read).symm
  · -- Too long a text is not converted.
    have none : WebForm.magnitude (decimal number) = none := by
      have whole : (decimal number).splitOn '_' = [decimal number] :=
        List.splitOn_eq_singleton (notMem_decimal number (by decide))
      unfold WebForm.magnitude
      rw [whole]
      simp only [List.any_cons, List.any_nil, Bool.or_false, List.flatten_singleton]
      rw [if_pos]
      simp only [Bool.or_eq_true, decide_eq_true_eq]
      exact .inr (Nat.not_le.mp short)
    have stripped : WebForm.stripOf WebForm.isIntSpace (decimal number) = decimal number :=
      WebForm.stripOf_eq_self fun digit member =>
        WebForm.isIntSpace_of_isDigit (isDigit_of_mem_decimal member)
    unfold WebForm.int at read
    rw [stripped] at read
    split at read
    next rest minus =>
      have digit := @isDigit_of_mem_decimal number '-' (by rw [minus]; exact List.mem_cons_self)
      cases digit
    next rest plus =>
      have digit := @isDigit_of_mem_decimal number '+' (by rw [plus]; exact List.mem_cons_self)
      cases digit
    next =>
      rw [none] at read
      cases read

/-! ### The frame -/

/-- The request for some values of its fields. -/
def settBytes (target address netmask gateway port custom : Bytes) : Bytes :=
  [83, 69, 84, 84] ++ target ++ [2] ++ address ++ netmask ++ gateway ++ port ++
    List.replicate 24 0 ++ [1] ++ [73, 68, 84, 105] ++ custom

/-- The part of a frame that is still blank is filled from its front. -/
theorem setSlice_zeros {front data : Bytes} {offset length count : Nat}
    (place : front.length = offset) (size : data.length = length) :
    setSlice (front ++ List.replicate count 0) offset length data =
      (front ++ data) ++ List.replicate (count - length) 0 := by
  subst place
  unfold setSlice
  rw [List.take_left, List.drop_append, Nat.add_sub_cancel_left, List.drop_replicate,
    List.drop_eq_nil_of_le (by omega), List.nil_append]

theorem setByte_zeros {front : Bytes} {index count : Nat} (value : UInt8)
    (place : front.length = index) (room : 0 < count) :
    setByte (front ++ List.replicate count 0) index value =
      some ((front ++ [value]) ++ List.replicate (count - 1) 0) := by
  subst place
  obtain ⟨count, rfl⟩ := Nat.exists_eq_succ_of_ne_zero (Nat.ne_of_gt room)
  unfold setByte
  rw [if_pos (by simp), List.set_append_right _ _ (Nat.le_refl _), Nat.sub_self]
  simp [List.replicate_succ]

theorem buildSett_eq {macText ipText gwText : Text} {prefixLen port : Int} {password : Text}
    {target address netmask gateway portBytes custom : Bytes}
    (macRead : hexBytes (macText.splitOn ':') = some target)
    (ipRead : decimalBytes (ipText.splitOn '.') = some address)
    (maskRead : prefixToMask prefixLen = some netmask)
    (gwRead : decimalBytes (gwText.splitOn '.') = some gateway)
    (portRead : packPort port = some portBytes)
    (passwordRead : passwordBytes password = some custom)
    (six : target.length = 6) (addressFour : address.length = 4) (maskFour : netmask.length = 4)
    (gatewayFour : gateway.length = 4) (two : portBytes.length = 2)
    (customFour : custom.length = 4) :
    buildSett macText ipText prefixLen gwText port password =
      some (settBytes target address netmask gateway portBytes custom) := by
  unfold buildSett
  rw [macRead, ipRead, maskRead, gwRead, portRead, passwordRead]
  have command : setSlice (List.replicate framePwLen 0) offCommand 4 [83, 69, 84, 84] =
      [83, 69, 84, 84] ++ List.replicate 54 0 := rfl
  have addressed := @setSlice_zeros [83, 69, 84, 84] target offMac 6 54 rfl six
  have mode := @setByte_zeros ([83, 69, 84, 84] ++ target) offTcpMode 48 2
    (by simp [six, offTcpMode]) (by decide)
  have located := @setSlice_zeros ([83, 69, 84, 84] ++ target ++ [2]) address offIp 4 47
    (by simp [six, offIp]) addressFour
  have masked := @setSlice_zeros ([83, 69, 84, 84] ++ target ++ [2] ++ address) netmask
    offNetmask 4 43 (by simp [six, addressFour, offNetmask]) maskFour
  have routed := @setSlice_zeros ([83, 69, 84, 84] ++ target ++ [2] ++ address ++ netmask)
    gateway offGateway 4 39 (by simp [six, addressFour, maskFour, offGateway]) gatewayFour
  -- From here on the parts in front stay as they are.
  generalize parts : [83, 69, 84, 84] ++ target ++ [2] ++ address ++ netmask ++ gateway = front
    at routed
  have frontLength : front.length = 23 := by
    rw [← parts]
    simp [six, addressFour, maskFour, gatewayFour]
  have listening := @setSlice_zeros front portBytes offPort 2 35 frontLength two
  -- The fields of the peer and of the serial line stay blank.
  have gap : front ++ portBytes ++ List.replicate (35 - 2) 0 =
      front ++ portBytes ++ List.replicate 24 0 ++ List.replicate 9 0 := by
    rw [List.append_assoc _ (List.replicate 24 0), List.replicate_append_replicate]
  have flagged := @setByte_zeros (front ++ portBytes ++ List.replicate 24 0) offPwSetFlag 9 1
    (by simp [frontLength, two, offPwSetFlag]) (by decide)
  have company := @setSlice_zeros (front ++ portBytes ++ List.replicate 24 0 ++ [1])
    [73, 68, 84, 105] offPwCompany 4 8 (by simp [frontLength, two, offPwCompany]) rfl
  have customized := @setSlice_zeros
    (front ++ portBytes ++ List.replicate 24 0 ++ [1] ++ [73, 68, 84, 105]) custom offPwCustom 4
    4 (by simp [frontLength, two, offPwCustom]) customFour
  simp only [Option.bind_eq_bind, Option.bind_some, command, addressed, mode, located, masked,
    routed]
  simp only [listening, gap, flagged, Option.bind_some, company, customized, Nat.sub_self,
    List.replicate_zero, List.append_nil, settBytes, parts]
  rfl

/-- Whatever else it is given, a request needs these three. -/
theorem reads_of_buildSett {macText ipText gwText : Text} {prefixLen port : Int}
    {password : Text} {frame : Bytes}
    (built : buildSett macText ipText prefixLen gwText port password = some frame) :
    (prefixToMask prefixLen).isSome ∧ (packPort port).isSome ∧ (passwordBytes password).isSome := by
  unfold buildSett at built
  obtain ⟨_, _, built⟩ := Option.bind_eq_some_iff.mp built
  obtain ⟨_, _, built⟩ := Option.bind_eq_some_iff.mp built
  obtain ⟨_, mask, built⟩ := Option.bind_eq_some_iff.mp built
  obtain ⟨_, _, built⟩ := Option.bind_eq_some_iff.mp built
  obtain ⟨_, packed, built⟩ := Option.bind_eq_some_iff.mp built
  obtain ⟨_, custom, _⟩ := Option.bind_eq_some_iff.mp built
  rw [mask, packed, custom]
  exact ⟨rfl, rfl, rfl⟩

/-- The prefix length is taken from behind the first slash. -/
theorem settOf_eq {target ipText prefixText gwText : Text} (port : Int) (password : Text)
    (plain : '/' ∉ ipText) (filled : prefixText ≠ []) :
    settOf target (ipText ++ '/' :: prefixText) gwText port password =
      (WebForm.int prefixText).bind fun prefixLen =>
        buildSett target ipText prefixLen gwText port password := by
  have front : ∀ character ∈ ipText, decide (character ≠ '/') = true := by
    intro character member
    rw [decide_eq_true_eq]
    rintro rfl
    exact plain member
  have taken : (ipText ++ '/' :: prefixText).takeWhile (fun character => decide (character ≠ '/')) =
      ipText := by
    rw [List.takeWhile_append_of_pos front]
    simp
  have rest : (ipText ++ '/' :: prefixText).dropWhile (fun character => decide (character ≠ '/')) =
      '/' :: prefixText := by
    rw [List.dropWhile_append_of_pos front]
    simp
  unfold settOf
  simp only [taken, rest, List.drop_one, List.tail_cons, if_neg filled]
  rfl

end Acud.NmDiscover

namespace Acud.Discover

open Lib
open NmDiscover (settBytes)

/-! ### What the daemon finds in it -/

/-- The parts of the frame that the daemon looks at. -/
theorem settBytes_parts {memory : Memory} {target : Blob 6}
    {address netmask gateway custom : Blob 4}
    {port : UInt16}
    (holds : memory.Holds 0 (settBytes target.bytes address.bytes netmask.bytes gateway.bytes
      (be16Bytes port) custom.bytes)) :
    memory.Holds nmOffMac target.bytes ∧ memory.Holds nmOffIp address.bytes ∧
      memory.Holds nmOffNetmask netmask.bytes ∧ memory.Holds nmOffGateway gateway.bytes ∧
      memory.Holds nmOffPwCompany (cstr nmPwCompany) ∧
      memory.Holds nmOffPwCustom custom.bytes := by
  simp only [settBytes, Memory.holds_append, List.length_append, length_be16Bytes,
    Blob.length_bytes, List.length_replicate, List.length_cons, List.length_nil, Nat.zero_add,
    Nat.reduceAdd] at holds
  obtain ⟨⟨⟨⟨⟨⟨⟨⟨⟨⟨_, hardware⟩, _⟩, located⟩, mask⟩, routed⟩, _⟩, _⟩, _⟩, company⟩,
    password⟩ := holds
  exact ⟨hardware, located, mask, routed, company, password⟩

/-- The numbers of an address. -/
def addressNumber (address : Blob 4) : Nat :=
  addressOf (Memory.ofBytes address.bytes)

theorem read_advance_of_holds {memory : Memory} {offset : Nat} {address : Blob 4}
    (holds : memory.Holds offset address.bytes) :
    (memory.advance offset).read 0 4 = address.bytes := by
  rw [Memory.read_advance]
  exact Memory.read_of_holds holds (Blob.length_bytes address)

theorem addressOf_of_holds {memory : Memory} {offset : Nat} {address : Blob 4}
    (holds : memory.Holds offset address.bytes) :
    addressOf (memory.advance offset) = addressNumber address := by
  apply read_inj.mp
  rw [read_advance_of_holds holds]
  exact (Memory.read_of_holds (Memory.holds_ofBytes _) (Blob.length_bytes address)).symm

theorem dotted_octets_of_holds {memory : Memory} {offset : Nat} {address : Blob 4}
    (holds : memory.Holds offset address.bytes) :
    dotted (octets (memory.advance offset)) = NmDiscover.ip address.bytes := by
  rw [NmDiscover.ip, ← read_advance_of_holds holds]
  rfl

/-- The mask of the frame belongs to one prefix length, the one that was asked for. -/
theorem netmaskToPrefix_of_holds {memory : Memory} {prefixLen found : Nat} (le : prefixLen ≤ 32)
    (holds : memory.Holds nmOffNetmask (be32Bytes (prefixMask 32 prefixLen).toUInt32)) :
    netmaskToPrefix (netmaskOf memory) = some found ↔ found = prefixLen := by
  have mask : addressOf (netmaskOf memory) = prefixMask 32 prefixLen := by
    have small : prefixMask 32 prefixLen < 2 ^ 32 :=
      Nat.sub_lt (Nat.two_pow_pos 32) (Nat.two_pow_pos _)
    unfold addressOf netmaskOf
    rw [Memory.be32At_of_holds (Memory.holds_advance.mpr holds), Nat.toUInt32_eq,
      UInt32.toNat_ofNat']
    exact Nat.mod_eq_of_lt small
  rw [netmaskToPrefix_iff, mask]
  constructor
  · rintro ⟨foundLe, same⟩
    rw [← leadingOnes_prefixMask foundLe, ← same, leadingOnes_prefixMask le]
  · rintro rfl
    exact ⟨le, rfl⟩

/-- The word that is compared with the password of the configuration. -/
def passwordWord (password : Text) : Bytes :=
  ((password.map fun character => character.toNat.toUInt8).take 4).takeWhile (· ≠ 0)

theorem takeWhile_zeros (front : Bytes) (count : Nat) :
    (front ++ List.replicate count 0).takeWhile (· ≠ 0) = front.takeWhile (· ≠ 0) := by
  induction front with
  | nil =>
      cases count with
      | zero => rfl
      | succ count => rfl
  | cons byte rest inductionHypothesis =>
      rw [List.cons_append, List.takeWhile_cons, List.takeWhile_cons, inductionHypothesis]

/-- What an accepted setting needs besides a frame of the right shape. -/
structure Permits (d : AcuDiscover) (writes : Bool) (password : Text) (ip gateway : Blob 4)
    (prefixLen : Nat) : Prop where
  path : d.requestPath ≠ []
  password : d.settPassword = [] ∨ passwordWord password = d.settPassword.take 4
  notZero : addressNumber ip ≠ 0
  notOnes : addressNumber ip ≠ 2 ^ 32 - 1
  fits : Fits (addressNumber ip) (addressNumber gateway) prefixLen
  writes : writes = true

section Setting

variable {target : Blob 6} {ip gateway custom : Blob 4} {prefixLen : Nat} {port : UInt16}
  {memory : Memory}

theorem passes_iff {d : AcuDiscover} {writes : Bool} {password : Text} {found : Nat}
    (le : prefixLen ≤ 32)
    (customRead : custom.bytes.takeWhile (· ≠ 0) = passwordWord password)
    (holds : memory.Holds 0 (settBytes target.bytes ip.bytes
      (be32Bytes (prefixMask 32 prefixLen).toUInt32) gateway.bytes (be16Bytes port)
      custom.bytes)) :
    Passes d writes memory found ↔
      found = prefixLen ∧ Permits d writes password ip gateway prefixLen := by
  obtain ⟨_, located, mask, routed, company, customized⟩ :=
    @settBytes_parts memory target ip ⟨be32Bytes (prefixMask 32 prefixLen).toUInt32, rfl⟩ gateway
      custom port holds
  have passwordOk : settPasswordOk d memory = true ↔
      d.settPassword = [] ∨ passwordWord password = d.settPassword.take 4 := by
    have word : memory.read nmOffPwCompany 4 = cstr nmPwCompany :=
      Memory.read_of_holds company rfl
    unfold settPasswordOk
    rw [word, Memory.read_of_holds customized (Blob.length_bytes custom), customRead]
    simp
  have valid : settValidate memory = .ok found ↔ found = prefixLen ∧ addressNumber ip ≠ 0 ∧
      addressNumber ip ≠ 2 ^ 32 - 1 ∧
      Fits (addressNumber ip) (addressNumber gateway) prefixLen := by
    rw [settValidate_ok, netmaskToPrefix_of_holds le mask, ipOf, gatewayOf,
      addressOf_of_holds located, addressOf_of_holds routed]
    constructor
    · rintro ⟨notZero, notOnes, rfl, fits⟩
      exact ⟨rfl, notZero, notOnes, fits⟩
    · rintro ⟨rfl, notZero, notOnes, fits⟩
      exact ⟨notZero, notOnes, rfl, fits⟩
  constructor
  · intro passes
    obtain ⟨same, notZero, notOnes, fits⟩ := valid.mp passes.valid
    exact ⟨same, passes.path, passwordOk.mp passes.password, notZero, notOnes, fits, passes.writes⟩
  · rintro ⟨same, permits⟩
    exact ⟨permits.path, passwordOk.mpr permits.password,
      valid.mpr ⟨same, permits.notZero, permits.notOnes, permits.fits⟩, permits.writes⟩

end Setting

/-! ### From the tool to the helper -/

/-- What the tool takes besides addresses: it stops at anything else. -/
structure Typed (prefixLen : Nat) (port : Int) (password : Text) : Prop where
  prefixLen : prefixLen ≤ 32
  port : 0 ≤ port ∧ port ≤ 65535
  ascii : ∀ character ∈ password, character.toNat < 128

/-- The four bytes that go out for a password. -/
def passwordBlob (password : Text) : Blob 4 :=
  { bytes :=
      let front := (password.map fun character => character.toNat.toUInt8).take 4
      front ++ List.replicate (4 - front.length) 0
    length_eq := by
      simp only [List.length_append, List.length_replicate, List.length_take]
      omega }

theorem passwordBytes_of (password : Text)
    (ascii : ∀ character ∈ password, character.toNat < 128) :
    NmDiscover.passwordBytes password = some (passwordBlob password).bytes := by
  have all : password.all (fun character => decide (character.toNat < 128)) = true :=
    List.all_eq_true.mpr fun character member => decide_eq_true (ascii character member)
  exact if_pos all

theorem passwordBytes_isSome {password : Text}
    (made : (NmDiscover.passwordBytes password).isSome) :
    ∀ character ∈ password, character.toNat < 128 := by
  unfold NmDiscover.passwordBytes at made
  split at made
  next all =>
    intro character member
    exact of_decide_eq_true (List.all_eq_true.mp all character member)
  next => cases made

theorem packPort_eq (port : Int) :
    NmDiscover.packPort port =
      if 0 ≤ port ∧ port ≤ 65535 then some (be16Bytes port.toNat.toUInt16) else none := rfl

/-- The request for a device whose address was read from a reply. -/
theorem settOf_eq_some {target : Blob 6} {ip gateway : Blob 4} {prefixLen : Nat} {port : Int}
    {password : Text} {frame : Bytes} :
    NmDiscover.settOf (NmDiscover.mac target.bytes)
        (NmDiscover.ip ip.bytes ++ '/' :: decimal prefixLen) (NmDiscover.ip gateway.bytes) port
        password = some frame ↔
      Typed prefixLen port password ∧
        frame = settBytes target.bytes ip.bytes (be32Bytes (prefixMask 32 prefixLen).toUInt32)
          gateway.bytes (be16Bytes port.toNat.toUInt16) (passwordBlob password).bytes := by
  have notNil : ∀ {size : Nat} (blob : Blob (size + 1)), blob.bytes ≠ [] := by
    intro size blob nil
    have length := blob.length_bytes
    rw [nil] at length
    cases length
  have built : Typed prefixLen port password →
      NmDiscover.buildSett (NmDiscover.mac target.bytes) (NmDiscover.ip ip.bytes) prefixLen
          (NmDiscover.ip gateway.bytes) port password =
        some (settBytes target.bytes ip.bytes (be32Bytes (prefixMask 32 prefixLen).toUInt32)
          gateway.bytes (be16Bytes port.toNat.toUInt16) (passwordBlob password).bytes) := by
    intro typed
    exact NmDiscover.buildSett_eq (NmDiscover.hexBytes_mac (notNil target))
      (NmDiscover.decimalBytes_ip (notNil ip)) (NmDiscover.prefixToMask_of typed.prefixLen)
      (NmDiscover.decimalBytes_ip (notNil gateway))
      ((packPort_eq port).trans (if_pos typed.port))
      (passwordBytes_of password typed.ascii) target.length_bytes
      ip.length_bytes rfl gateway.length_bytes rfl (passwordBlob password).length_bytes
  have plain : '/' ∉ NmDiscover.ip ip.bytes := notMem_dotted _ (by decide) (by decide)
  rw [NmDiscover.settOf_eq port password plain (decimal_ne_nil prefixLen)]
  constructor
  · intro sent
    obtain ⟨value, read, sent⟩ := Option.bind_eq_some_iff.mp sent
    obtain rfl := NmDiscover.int_decimal_eq_some read
    obtain ⟨mask, packed, custom⟩ := NmDiscover.reads_of_buildSett sent
    have typed : Typed prefixLen port password := by
      refine ⟨?_, ?_, ?_⟩
      · exact Int.ofNat_le.mp (NmDiscover.prefixToMask_isSome mask)
      · rw [packPort_eq] at packed
        by_contra outside
        rw [if_neg outside] at packed
        cases packed
      · exact passwordBytes_isSome custom
    rw [built typed] at sent
    exact ⟨typed, (Option.some.inj sent).symm⟩
  · rintro ⟨typed, rfl⟩
    have short : (decimal prefixLen).length ≤ WebForm.intMaxStrDigits := by
      refine ((length_decimal_le (by decide : 0 < 3)).mpr ?_).trans (by decide)
      exact typed.prefixLen.trans_lt (by decide)
    rw [WebForm.int_decimal short]
    exact built typed

/-- What the helper has to set in the end. -/
def settingFields (ip gateway : Blob 4) (prefixLen : Nat) : Netcfg.RequestFields :=
  { ipAddr := NmDiscover.ip ip.bytes
    prefixLen := decimal prefixLen
    gw := NmDiscover.ip gateway.bytes
    dns := NmDiscover.ip gateway.bytes }

theorem length_settBytes (target : Blob 6) (ip netmask gateway custom : Blob 4) (port : UInt16) :
    (settBytes target.bytes ip.bytes netmask.bytes gateway.bytes (be16Bytes port)
      custom.bytes).length = nmFramePwLen := by
  simp only [settBytes, List.length_append, length_be16Bytes, Blob.length_bytes,
    List.length_replicate, List.length_cons, List.length_nil]
  rfl

/-- For every device, address, prefix length, gateway, port and password: the tool makes a
request of what was typed behind the hardware address it was shown, or stops at what it cannot
send.  The device accepts the request exactly if the setting is permitted, and then the helper
reads what was typed and is left with what only the system can refuse. -/
theorem setting_reaches_helper (d : DiscoverUnit) (env : ServiceEnv) (target : Blob 6)
    (known : env.info.mac = some target) (ip gateway : Blob 4) (prefixLen : Nat) (port : Int)
    (password : Text) (ifindex : Nat) :
    let sent := NmDiscover.settOf (d.ack env.info Told.imin.command).mac
      (NmDiscover.ip ip.bytes ++ '/' :: decimal prefixLen) (NmDiscover.ip gateway.bytes) port
      password
    (sent.isSome ↔ Typed prefixLen port password) ∧
      ∀ frame, sent = some frame →
        let datagram : Datagram :=
          { bytes := frame
            ifindex := ifindex }
        d.isForeign datagram = false →
          (∀ found, Accepts d env datagram found ↔
            found = prefixLen ∧ Permits d.asked env.writes password ip gateway prefixLen) ∧
          ∀ file, (discoverService d env datagram).requestFile = some file →
            ∀ requestEnv path, Netcfg.cmdApplyRequest requestEnv path (some file) =
              if requestEnv.pending then .error .pending
              else Netcfg.applyFields requestEnv (settingFields ip gateway prefixLen) := by
  have shown : (d.ack env.info Told.imin.command).mac = NmDiscover.mac target.bytes := by
    show NmDiscover.mac (env.info.mac.getD (Blob.zeros 6)).bytes = _
    rw [known]
    rfl
  dsimp only
  rw [shown]
  constructor
  · rw [Option.isSome_iff_exists]
    simp only [settOf_eq_some, exists_and_left, exists_eq, and_true]
  · intro frame sent native
    obtain ⟨typed, rfl⟩ := settOf_eq_some.mp sent
    have mask : ((be32Bytes (prefixMask 32 prefixLen).toUInt32)).length = 4 := rfl
    have holds := Memory.holds_ofBytes (settBytes target.bytes ip.bytes
      (be32Bytes (prefixMask 32 prefixLen).toUInt32) gateway.bytes
      (be16Bytes port.toNat.toUInt16) (passwordBlob password).bytes)
    obtain ⟨hardware, located, _, routed, _, _⟩ :=
      @settBytes_parts _ target ip ⟨_, mask⟩ gateway (passwordBlob password) _ holds
    have asks : Asks d env
        { bytes := settBytes target.bytes ip.bytes (be32Bytes (prefixMask 32 prefixLen).toUInt32)
            gateway.bytes (be16Bytes port.toNat.toUInt16) (passwordBlob password).bytes
          ifindex := ifindex } := by
      refine ⟨?_, rfl, native, ?_⟩
      · exact length_settBytes target ip ⟨_, mask⟩ gateway (passwordBlob password) _
      · rw [known, Memory.read_of_holds hardware (Blob.length_bytes target)]
        rfl
    constructor
    · intro found
      rw [← passes_iff typed.prefixLen (takeWhile_zeros _ _) holds]
      exact ⟨Accepts.passes, fun passes => ⟨asks, passes⟩⟩
    · intro file left requestEnv path
      obtain ⟨found, accepts, rfl⟩ := requestFile_eq_some.mp left
      obtain ⟨rfl, permits⟩ :=
        (passes_iff typed.prefixLen (takeWhile_zeros _ _) holds).mp accepts.passes
      have fields : Netcfg.settFields (Memory.ofBytes (settBytes target.bytes ip.bytes
          (be32Bytes (prefixMask 32 found).toUInt32) gateway.bytes
          (be16Bytes port.toNat.toUInt16) (passwordBlob password).bytes)) found =
          settingFields ip gateway found := by
        unfold Netcfg.settFields settingFields
        rw [dotted_octets_of_holds located, dotted_octets_of_holds routed]
      have checked : Netcfg.checkFields (settingFields ip gateway found) =
          .ok (settingFields ip gateway found) := by
        rw [← fields]
        exact Netcfg.checkFields_settFields (settValidate_ok.mp accepts.passes.valid).2.2.2
      unfold Netcfg.cmdApplyRequest
      simp only [Netcfg.readRequest_settRequestText, fields, checked]

/-- Nothing is pending and nobody answers at the address asked for. -/
def officeHelper : Netcfg.RequestEnv :=
  { pending := false
    current := "192.168.0.2".toList
    arpingFree := none
    pingAnswers := fun _ => false
    connName := "eth0".toList
    modifies := true
    ups := true }

theorem permits_office :
    Permits officeUnit.asked true ['0', '0', '0', '0'] ⟨[192, 168, 0, 7], rfl⟩
      ⟨[192, 168, 0, 1], rfl⟩ 24 := by
  constructor
  · decide
  · exact Or.inl rfl
  · decide
  · decide
  · exact ⟨by decide, by decide, by decide⟩
  · rfl

/-- The default password is typed, and none is asked for: the unit accepts, and the helper
sets what was typed. -/
theorem setting_reaches_helper_office :
    ∃ frame file, NmDiscover.settOf (officeUnit.ack officeEnv.info Told.imin.command).mac
        "192.168.0.7/24".toList "192.168.0.1".toList 1004 ['0', '0', '0', '0'] = some frame ∧
      Accepts officeUnit officeEnv { bytes := frame, ifindex := 2 } 24 ∧
      (discoverService officeUnit officeEnv { bytes := frame, ifindex := 2 }).requestFile =
        some file ∧
      Netcfg.cmdApplyRequest officeHelper "request".toList (some file) =
        .ok
          { name := "eth0".toList
            addresses := "192.168.0.7/24".toList
            gateway := "192.168.0.1".toList
            dns := "192.168.0.1".toList } := by
  have sends := setting_reaches_helper officeUnit officeEnv (Blob.zeros 6) rfl
    ⟨[192, 168, 0, 7], rfl⟩ ⟨[192, 168, 0, 1], rfl⟩ 24 1004 ['0', '0', '0', '0'] 2
  obtain ⟨frame, sent⟩ := Option.isSome_iff_exists.mp
    (sends.1.mpr ⟨by decide, by decide, by simp⟩)
  have typed : NmDiscover.ip [192, 168, 0, 7] ++ '/' :: decimal 24 = "192.168.0.7/24".toList ∧
      NmDiscover.ip [192, 168, 0, 1] = "192.168.0.1".toList := by
    decide +kernel
  obtain ⟨judged, read⟩ := sends.2 frame sent rfl
  have accepts := (judged 24).mpr ⟨rfl, permits_office⟩
  have left := requestFile_eq_some.mpr ⟨24, accepts, rfl⟩
  refine ⟨frame, _, ?_, accepts, left, ?_⟩
  · rw [← typed.1, ← typed.2]
    exact sent
  · rw [read _ left]
    decide +kernel

end Acud.Discover
