/-
Module: Acud.Lib.Reads
Purpose: Computations over a memory that keep account of the offsets they read.
Trusted boundary: none
Main exports:
  Reads, Reads.byte, Reads.slice, Reads.advance, Reads.Within
-/
import Acud.Lib.Memory

namespace Acud.Lib

/-!
What a function that is handed a pointer computes says nothing of the bytes it looked at on
the way.  `Reads α` keeps both: the value, and the offsets in the order they were read.  It
carries the proof that these are all: memories that agree on them give the same value, and
the same offsets.

* computations are sequenced by the monad, and a later offset may depend on an earlier byte;
* `advance` is the same computation behind a pointer that was moved;
* `Within` bounds the offsets of every memory, and is proved rule by rule along the code.
-/

structure Reads (α : Type) where
  value : Memory → α
  offsets : Memory → List Nat
  determined : ∀ first second : Memory,
    (∀ offset ∈ offsets first, first.byte offset = second.byte offset) →
      value second = value first ∧ offsets second = offsets first

namespace Reads

variable {α β : Type}

instance : Monad Reads where
  pure result :=
    { value := fun _ => result
      offsets := fun _ => []
      determined := fun _ _ _ => ⟨rfl, rfl⟩ }
  bind first next :=
    { value := fun memory => (next (first.value memory)).value memory
      offsets := fun memory =>
        first.offsets memory ++ (next (first.value memory)).offsets memory
      determined := by
        intro one other agree
        obtain ⟨value, offsets⟩ := first.determined one other fun offset member =>
          agree offset (List.mem_append_left _ member)
        rw [value, offsets]
        obtain ⟨result, rest⟩ := (next (first.value one)).determined one other
          fun offset member => agree offset (List.mem_append_right _ member)
        exact ⟨result, congrArg (first.offsets one ++ ·) rest⟩ }

/-- Read one byte. -/
def byte (offset : Nat) : Reads UInt8 :=
  { value := fun memory => memory.byte offset
    offsets := fun _ => [offset]
    determined := fun _ _ agree => ⟨(agree offset (List.mem_singleton_self offset)).symm, rfl⟩ }

/-- Memories that agree on a slice hold the same bytes there. -/
theorem slice_congr {first second : Memory} {offset length : Nat}
    (agree : ∀ index ∈ List.range' offset length, first.byte index = second.byte index) :
    second.read offset length = first.read offset length := by
  apply Memory.read_congr
  intro index inside
  exact (agree (offset + index) (List.mem_range'_1.mpr (by omega))).symm

/-- Read `length` bytes in a row. -/
def slice (offset length : Nat) : Reads Bytes :=
  { value := fun memory => memory.read offset length
    offsets := fun _ => List.range' offset length
    determined := fun _ _ agree => ⟨slice_congr agree, rfl⟩ }

def blob (offset size : Nat) : Reads (Blob size) :=
  { value := fun memory => Blob.ofMemory memory offset size
    offsets := fun _ => List.range' offset size
    determined := fun _ _ agree => ⟨Blob.ext (slice_congr agree), rfl⟩ }

def be16At (offset : Nat) : Reads UInt16 := do
  let high ← byte offset
  let low ← byte (offset + 1)
  pure (be16 high low)

def be32At (offset : Nat) : Reads UInt32 := do
  let first ← byte offset
  let second ← byte (offset + 1)
  let third ← byte (offset + 2)
  let fourth ← byte (offset + 3)
  pure (be32 first second third fourth)

/-- The computation behind the pointer `p + base`. -/
def advance (base : Nat) (reads : Reads α) : Reads α :=
  { value := fun memory => reads.value (memory.advance base)
    offsets := fun memory => (reads.offsets (memory.advance base)).map (base + ·)
    determined := by
      intro first second agree
      obtain ⟨value, offsets⟩ := reads.determined (first.advance base) (second.advance base)
        fun offset member => agree (base + offset) (List.mem_map_of_mem member)
      exact ⟨value, congrArg (List.map (base + ·)) offsets⟩ }

@[simp] theorem value_pure (result : α) (memory : Memory) :
    (pure result : Reads α).value memory = result := rfl

@[simp] theorem value_bind (first : Reads α) (next : α → Reads β) (memory : Memory) :
    (first >>= next).value memory = (next (first.value memory)).value memory := rfl

@[simp] theorem value_byte (offset : Nat) (memory : Memory) :
    (byte offset).value memory = memory.byte offset := rfl

@[simp] theorem value_slice (offset length : Nat) (memory : Memory) :
    (slice offset length).value memory = memory.read offset length := rfl

@[simp] theorem value_blob (offset size : Nat) (memory : Memory) :
    (blob offset size).value memory = Blob.ofMemory memory offset size := rfl

@[simp] theorem value_be16At (offset : Nat) (memory : Memory) :
    (be16At offset).value memory = memory.be16At offset := rfl

@[simp] theorem value_be32At (offset : Nat) (memory : Memory) :
    (be32At offset).value memory = memory.be32At offset := rfl

@[simp] theorem value_advance (base : Nat) (reads : Reads α) (memory : Memory) :
    (reads.advance base).value memory = reads.value (memory.advance base) := rfl

theorem offsets_bind (first : Reads α) (next : α → Reads β) (memory : Memory) :
    (first >>= next).offsets memory =
      first.offsets memory ++ (next (first.value memory)).offsets memory := rfl

/-! ### Bounds -/

/-- No memory makes the computation read at `limit` or behind it. -/
def Within (reads : Reads α) (limit : Nat) : Prop :=
  ∀ memory, ∀ offset ∈ reads.offsets memory, offset < limit

variable {limit : Nat}

theorem within_pure (result : α) : (pure result : Reads α).Within limit := by
  intro memory offset member
  exact absurd member List.not_mem_nil

/-- Behind a computation only the values it can have matter. -/
theorem Within.bind_value {first : Reads α} {next : α → Reads β} (inside : first.Within limit)
    (rest : ∀ memory, (next (first.value memory)).Within limit) :
    (first >>= next).Within limit := by
  intro memory offset member
  rw [offsets_bind, List.mem_append] at member
  cases member with
  | inl early => exact inside memory offset early
  | inr late => exact rest memory memory offset late

theorem Within.bind {first : Reads α} {next : α → Reads β} (inside : first.Within limit)
    (rest : ∀ result, (next result).Within limit) : (first >>= next).Within limit :=
  inside.bind_value fun memory => rest (first.value memory)

theorem within_byte {offset : Nat} (inside : offset < limit) : (byte offset).Within limit := by
  intro memory index member
  rw [List.mem_singleton.mp member]
  exact inside

theorem within_slice {offset length : Nat} (inside : offset + length ≤ limit) :
    (slice offset length).Within limit := by
  intro memory index member
  have range := List.mem_range'_1.mp member
  omega

theorem within_blob {offset size : Nat} (inside : offset + size ≤ limit) :
    (blob offset size).Within limit :=
  within_slice inside

theorem within_be16At {offset : Nat} (inside : offset + 2 ≤ limit) :
    (be16At offset).Within limit :=
  (within_byte (by omega)).bind fun _ =>
    (within_byte (by omega)).bind fun _ => within_pure _

theorem within_be32At {offset : Nat} (inside : offset + 4 ≤ limit) :
    (be32At offset).Within limit :=
  (within_byte (by omega)).bind fun _ =>
    (within_byte (by omega)).bind fun _ =>
      (within_byte (by omega)).bind fun _ =>
        (within_byte (by omega)).bind fun _ => within_pure _

theorem Within.mono {reads : Reads α} (inside : reads.Within limit) {wider : Nat}
    (le : limit ≤ wider) : reads.Within wider := by
  intro memory offset member
  exact Nat.lt_of_lt_of_le (inside memory offset member) le

/-- Behind a moved pointer the offsets move along. -/
theorem Within.advance {reads : Reads α} (inside : reads.Within limit) (base : Nat) :
    (reads.advance base).Within (base + limit) := by
  intro memory offset member
  obtain ⟨index, read, rfl⟩ := List.mem_map.mp member
  exact Nat.add_lt_add_left (inside _ index read) base

/-- The bytes in front of the pointer are not read. -/
theorem le_of_mem_advance {reads : Reads α} {base offset : Nat} {memory : Memory}
    (member : offset ∈ (reads.advance base).offsets memory) : base ≤ offset := by
  obtain ⟨index, _, rfl⟩ := List.mem_map.mp member
  exact Nat.le_add_right base index

end Reads

end Acud.Lib
