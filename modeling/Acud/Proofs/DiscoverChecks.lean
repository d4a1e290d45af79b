/-
Module: Acud.Proofs.DiscoverChecks
Purpose: What the checks of a setting request amount to for the numbers of its addresses.
Trusted boundary: none
Main exports:
  Discover.addressOf, Discover.octets, Discover.ipToText_eq, Discover.sameSubnet_iff,
  Discover.netmaskToPrefix_iff, Discover.Fits, Discover.settValidate_ok
-/
import Acud.Discover

namespace Acud.Discover

open Lib

/-!
The frame has addresses as four bytes, the other side of every comparison has them as
numbers of 32 bits.  `Fits` is what remains of the checks: prefix length, address and gateway as
numbers.
-/

/-! ### Addresses as numbers -/

def addressOf (ip : Memory) : Nat :=
  (ip.be32At 0).toNat

/-- The four numbers that stand in the text of an address. -/
def octets (ip : Memory) : List Nat :=
  [(ip.byte 0).toNat, (ip.byte 1).toNat, (ip.byte 2).toNat, (ip.byte 3).toNat]

theorem octets_ne_nil (ip : Memory) : octets ip ≠ [] :=
  List.cons_ne_nil _ _

theorem addressOf_eq (ip : Memory) :
    addressOf ip =
      (ip.byte 0).toNat * 2 ^ 24 + (ip.byte 1).toNat * 2 ^ 16 + (ip.byte 2).toNat * 2 ^ 8 +
        (ip.byte 3).toNat := by
  rw [addressOf, Memory.be32At, toNat_be32]

theorem addressOf_lt (ip : Memory) : addressOf ip < 2 ^ 32 :=
  (ip.be32At 0).toNat_lt

theorem bytes_lt (ip : Memory) :
    (ip.byte 0).toNat < 256 ∧ (ip.byte 1).toNat < 256 ∧ (ip.byte 2).toNat < 256 ∧
      (ip.byte 3).toNat < 256 :=
  ⟨UInt8.toNat_lt _, UInt8.toNat_lt _, UInt8.toNat_lt _, UInt8.toNat_lt _⟩

theorem octet_le {ip : Memory} {octet : Nat} (member : octet ∈ octets ip) : octet ≤ 255 := by
  simp only [octets, List.mem_cons, List.not_mem_nil, or_false] at member
  rcases member with rfl | rfl | rfl | rfl <;> exact Nat.le_of_lt_succ (UInt8.toNat_lt _)

/-- The bytes are told apart by their weights. -/
theorem octets_eq (ip : Memory) :
    octets ip =
      [addressOf ip / 2 ^ 24 % 256, addressOf ip / 2 ^ 16 % 256, addressOf ip / 2 ^ 8 % 256,
        addressOf ip % 256] := by
  have bounds := bytes_lt ip
  rw [addressOf_eq]
  simp only [octets, List.cons.injEq, and_true]
  omega

/-- The longest address fits the buffer of 16 bytes, so nothing is cut off. -/
theorem ipToText_eq (ip : Memory) : ipToText ip 16 = dotted (octets ip) := by
  have short : (dotted (octets ip)).length ≤ (octets ip).length * (3 + 1) - 1 :=
    length_dotted_le (by decide) fun octet member => by
      have le := octet_le member
      omega
  exact List.take_of_length_le short

theorem octets_inj {first second : Memory} :
    octets first = octets second ↔ addressOf first = addressOf second := by
  constructor
  · intro same
    simp only [octets, List.cons.injEq, and_true] at same
    obtain ⟨zeroth, one, two, three⟩ := same
    rw [addressOf_eq, addressOf_eq, zeroth, one, two, three]
  · intro same
    rw [octets_eq, octets_eq, same]

/-- `memcmp` of two addresses. -/
theorem read_inj {first second : Memory} :
    first.read 0 4 = second.read 0 4 ↔ addressOf first = addressOf second := by
  rw [← octets_inj]
  simp [Memory.read, octets, List.range_succ, UInt8.toNat_inj]

theorem addressOf_eq_zero (ip : Memory) :
    (ip.byte 0 = 0 ∧ ip.byte 1 = 0 ∧ ip.byte 2 = 0 ∧ ip.byte 3 = 0) ↔ addressOf ip = 0 := by
  rw [addressOf_eq]
  simp only [← UInt8.toNat_inj, UInt8.toNat_zero]
  omega

theorem addressOf_eq_ones (ip : Memory) :
    (ip.byte 0 = 255 ∧ ip.byte 1 = 255 ∧ ip.byte 2 = 255 ∧ ip.byte 3 = 255) ↔
      addressOf ip = 2 ^ 32 - 1 := by
  have bounds := bytes_lt ip
  rw [addressOf_eq]
  simp only [← UInt8.toNat_inj, UInt8.reduceToNat]
  omega

/-- Counted from the highest bit on, bit `i` of an address stands in byte `i / 8`. -/
theorem testBit_addressOf (ip : Memory) {i : Nat} (inside : i < 32) :
    (addressOf ip).testBit (31 - i) = (ip.byte (i / 8)).toNat.testBit (7 - i % 8) := by
  obtain ⟨_, second, third, fourth⟩ := bytes_lt ip
  have nested : addressOf ip =
      2 ^ 8 * (2 ^ 8 * (2 ^ 8 * (ip.byte 0).toNat + (ip.byte 1).toNat) + (ip.byte 2).toNat) +
        (ip.byte 3).toNat := by
    rw [addressOf_eq]
    omega
  rw [nested, Nat.testBit_two_pow_mul_add _ fourth, Nat.testBit_two_pow_mul_add _ third,
    Nat.testBit_two_pow_mul_add _ second]
  have byte : i / 8 = 0 ∨ i / 8 = 1 ∨ i / 8 = 2 ∨ i / 8 = 3 := by omega
  rcases byte with place | place | place | place
  all_goals rw [place]
  · rw [if_neg (by omega), if_neg (by omega), if_neg (by omega)]
    congr 1
    omega
  · rw [if_neg (by omega), if_neg (by omega), if_pos (by omega)]
    congr 1
    omega
  · rw [if_neg (by omega), if_pos (by omega)]
    congr 1
    omega
  · rw [if_pos (by omega)]
    congr 1
    omega

/-! ### The checks -/

theorem sameSubnet_iff {first second : Memory} {prefixLen : Nat} (le : prefixLen ≤ 32) :
    sameSubnet first second prefixLen = true ↔
      addressOf first / 2 ^ (32 - prefixLen) = addressOf second / 2 ^ (32 - prefixLen) := by
  rw [← sameBits_iff le (addressOf_lt first) (addressOf_lt second), sameSubnet,
    List.all_eq_true]
  constructor
  · intro same i inside
    have bit := same i (List.mem_range.mpr inside)
    rw [beq_iff_eq] at bit
    rw [testBit_addressOf first (by omega), testBit_addressOf second (by omega), bit]
  · intro same i member
    have inside := List.mem_range.mp member
    have bit := same i inside
    rw [testBit_addressOf first (by omega), testBit_addressOf second (by omega)] at bit
    rw [beq_iff_eq, bit]

theorem netmaskToPrefix_iff {mask : Memory} {prefixLen : Nat} :
    netmaskToPrefix mask = some prefixLen ↔
      prefixLen ≤ 32 ∧ addressOf mask = prefixMask 32 prefixLen := by
  rw [← maskPrefix_iff (addressOf_lt mask)]
  have le := leadingOnes_le (addressOf mask) 32
  -- With 32 leading ones nothing is left, which is what the remainder says as well.
  have rest : (if leadingOnes (addressOf mask) 32 = 32 then 0
      else addressOf mask &&& (2 ^ (32 - leadingOnes (addressOf mask) 32) - 1)) =
        addressOf mask % 2 ^ (32 - leadingOnes (addressOf mask) 32) := by
    split
    next all => rw [all, Nat.sub_self, Nat.pow_zero, Nat.mod_one]
    next => exact Nat.and_two_pow_sub_one_eq_mod _ _
  show (if (if leadingOnes (addressOf mask) 32 = 32 then 0
      else addressOf mask &&& (2 ^ (32 - leadingOnes (addressOf mask) 32) - 1)) = 0
    then some (leadingOnes (addressOf mask) 32) else none) = some prefixLen ↔ _
  rw [rest]
  constructor
  · intro found
    split at found
    next zero =>
      cases found
      exact ⟨rfl, zero⟩
    next => cases found
  · rintro ⟨rfl, zero⟩
    rw [if_pos zero]

/-- An address and a gateway that fit a prefix length. -/
structure Fits (ip gateway prefixLen : Nat) : Prop where
  range : 8 ≤ prefixLen ∧ prefixLen ≤ 30
  differs : ip ≠ gateway
  sameBlock : ip / 2 ^ (32 - prefixLen) = gateway / 2 ^ (32 - prefixLen)

/-- The numbers of the three addresses of a frame. -/
def ipOf (req : Memory) : Nat := addressOf (req.advance nmOffIp)

def netmaskOf (req : Memory) : Memory := req.advance nmOffNetmask

def gatewayOf (req : Memory) : Nat := addressOf (req.advance nmOffGateway)

/-- The checks in their order, about numbers. -/
theorem settValidate_eq (req : Memory) :
    settValidate req =
      if ipOf req = 0 then .error .zeroIp
      else if ipOf req = 2 ^ 32 - 1 then .error .broadcastIp
      else
        match netmaskToPrefix (netmaskOf req) with
        | none => .error .netmaskNotContiguous
        | some prefixLen =>
            if prefixLen < nmPrefixMin ∨ nmPrefixMax < prefixLen then .error .netmaskRange
            else if ipOf req = gatewayOf req then .error .ipIsGateway
            else if sameSubnet (req.advance nmOffIp) (req.advance nmOffGateway) prefixLen = false
              then .error .gatewayOutside
            else .ok prefixLen := by
  unfold settValidate
  simp only [addressOf_eq_zero, addressOf_eq_ones, read_inj]
  rfl

/-- A request is accepted exactly if its mask is one of a prefix that address and gateway
fit; two addresses are refused whatever the mask. -/
theorem settValidate_ok {req : Memory} {prefixLen : Nat} :
    settValidate req = .ok prefixLen ↔
      ipOf req ≠ 0 ∧ ipOf req ≠ 2 ^ 32 - 1 ∧
        netmaskToPrefix (netmaskOf req) = some prefixLen ∧
        Fits (ipOf req) (gatewayOf req) prefixLen := by
  rw [settValidate_eq]
  constructor
  · intro accepted
    split at accepted
    next => cases accepted
    next notZero =>
      split at accepted
      next => cases accepted
      next notOnes =>
        split at accepted
        next => cases accepted
        next bits mask =>
          split at accepted
          next => cases accepted
          next range =>
            split at accepted
            next => cases accepted
            next differs =>
              split at accepted
              next => cases accepted
              next inside =>
                cases accepted
                rw [Bool.not_eq_false] at inside
                have sameBlock :=
                  (sameSubnet_iff (netmaskToPrefix_iff.mp mask).1).mp inside
                rw [not_or, Nat.not_lt, Nat.not_lt] at range
                exact ⟨notZero, notOnes, mask, range, differs, sameBlock⟩
  · rintro ⟨notZero, notOnes, mask, range, differs, sameBlock⟩
    have inside := (sameSubnet_iff (netmaskToPrefix_iff.mp mask).1).mpr sameBlock
    rw [if_neg notZero, if_neg notOnes, mask]
    have within : ¬ (prefixLen < nmPrefixMin ∨ nmPrefixMax < prefixLen) := by
      rw [not_or, Nat.not_lt, Nat.not_lt]
      exact range
    simp only [if_neg within, if_neg differs]
    rw [if_neg (by rw [Bool.not_eq_false]; exact inside)]

/-- `SETC` is answered to accepted requests only, and their text is in the request file. -/
theorem handleSett_setc {d : AcuDiscover} {mine : Option Bytes} {writes : Bool} {req : Memory}
    (answered : (handleSett d mine writes req).reply = some .setc) :
    ∃ prefixLen, settValidate req = .ok prefixLen ∧
      (handleSett d mine writes req).requestFile = some (settRequestText req prefixLen) := by
  unfold handleSett at answered ⊢
  split at answered
  next ours =>
    split at answered
    next => cases answered
    next path =>
      split at answered
      next => cases answered
      next password =>
        rw [if_pos ours, if_neg path, if_neg password]
        cases checked : settValidate req with
        | error why =>
            rw [checked] at answered
            cases answered
        | ok prefixLen =>
            rw [checked] at answered
            cases writes with
            | false => cases answered
            | true => exact ⟨prefixLen, rfl, rfl⟩
  next => cases answered

end Acud.Discover
