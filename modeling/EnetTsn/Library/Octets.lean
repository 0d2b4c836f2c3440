import Mathlib.Tactic.Ring
import Mathlib.Algebra.Order.Group.Nat

/-!
Octets in memory: numbers stored most significant octet first, and arrays copied
from one place to another. Every operation says which octets it writes, and every
read which octets it looks at.
-/

namespace EnetTsn.Library

abbrev Memory := Nat → UInt8

namespace Memory

def zero : Memory := fun _ => 0

def skip (memory : Memory) (offset : Nat) : Memory := fun index => memory (offset + index)

/-- `memcpy` to an offset. -/
def copy (memory : Memory) (offset count : Nat) (source : Nat → UInt8) : Memory := fun index =>
  if offset ≤ index ∧ index < offset + count then source (index - offset) else memory index

/-- The octet of a number stored in `count` octets. -/
def digit (count value index : Nat) : UInt8 := UInt8.ofNat (value / 256 ^ (count - 1 - index))

/-- Store a number in `count` octets from an offset on. -/
def store (memory : Memory) (offset count value : Nat) : Memory :=
  memory.copy offset count (digit count value)

/-- The number in `count` octets from an offset on. -/
def load (memory : Memory) (offset : Nat) : Nat → Nat
  | 0 => 0
  | count + 1 => 256 * load memory offset count + (memory (offset + count)).toNat

/-- An array of `count` octets from an offset on. -/
def array (memory : Memory) (offset count : Nat) : Vector UInt8 count :=
  Vector.ofFn fun index => memory (offset + index)

def storeArray (memory : Memory) (offset : Nat) (octets : Vector UInt8 count) : Memory :=
  memory.copy offset count fun index => octets[index]?.getD 0

section Copy

variable {memory : Memory} {offset count : Nat} {source : Nat → UInt8} (index : Nat)

theorem copy_inside (inside : index < count) :
    memory.copy offset count source (offset + index) = source index := by
  rw [copy, if_pos ⟨by omega, by omega⟩, Nat.add_sub_cancel_left]

theorem copy_start (inside : index < count) : memory.copy 0 count source index = source index := by
  rw [copy, if_pos ⟨Nat.zero_le _, by omega⟩, Nat.sub_zero]

theorem copy_outside (outside : index < offset ∨ offset + count ≤ index) :
    memory.copy offset count source index = memory index := by
  rw [copy, if_neg]
  omega

end Copy

section Load

variable {memory memory' : Memory} {offset offset' count value : Nat}

theorem load_lt (memory : Memory) (offset count : Nat) :
    memory.load offset count < 256 ^ count := by
  induction count with
  | zero => exact Nat.one_pos
  | succ count ih =>
    have octet := (memory (offset + count)).toNat_lt
    rw [load, pow_succ]
    omega

theorem load_congr (same : ∀ index < count, memory (offset + index) = memory' (offset' + index)) :
    memory.load offset count = memory'.load offset' count := by
  induction count with
  | zero => rfl
  | succ count ih =>
    have first := ih fun index inside => same index (Nat.lt_succ_of_lt inside)
    rw [load, load, first, same count (Nat.lt_succ_self count)]

theorem load_eq_iff (memory memory' : Memory) (offset count : Nat) :
    memory.load offset count = memory'.load offset count ↔
      ∀ index < count, memory (offset + index) = memory' (offset + index) := by
  refine ⟨fun same => ?_, load_congr⟩
  induction count with
  | zero => exact fun _ impossible => absurd impossible (Nat.not_lt_zero _)
  | succ count ih =>
    have octet := (memory (offset + count)).toNat_lt
    have octet' := (memory' (offset + count)).toNat_lt
    rw [load, load] at same
    intro index inside
    rcases Nat.lt_succ_iff_lt_or_eq.mp inside with before | rfl
    · exact ih (by omega) index before
    · exact UInt8.toNat_inj.mp (by omega)

theorem load_add (memory : Memory) (offset high low : Nat) : memory.load offset (high + low) =
      memory.load offset high * 256 ^ low + memory.load (offset + high) low := by
  induction low with
  | zero => simp [load]
  | succ low ih =>
    rw [← Nat.add_assoc, load, ih, load, pow_succ, Nat.add_assoc offset]
    ring

theorem load_of_zero (zero : ∀ index < count, memory (offset + index) = 0) :
    memory.load offset count = 0 := by
  induction count with
  | zero => rfl
  | succ count ih =>
    have last := zero count (Nat.lt_succ_self count)
    rw [load, ih fun index inside => zero index (Nat.lt_succ_of_lt inside), last]
    rfl

theorem array_congr (same : ∀ index < count, memory (offset + index) = memory' (offset' + index)) :
    memory.array offset count = memory'.array offset' count := by
  apply Vector.ext
  intro index inside
  simp only [array, Vector.getElem_ofFn]
  exact same index inside

theorem array_eq_iff (memory memory' : Memory) (offset count : Nat) :
    memory.array offset count = memory'.array offset count ↔
      ∀ index < count, memory (offset + index) = memory' (offset + index) := by
  refine ⟨fun same index inside => ?_, array_congr⟩
  have octet := congrArg (fun octets => octets[index]) same
  simpa only [array, Vector.getElem_ofFn] using octet

theorem load_digit (value : Nat) (width : count ≤ total) :
    load (digit total value) 0 count = value / 256 ^ (total - count) % 256 ^ count := by
  induction count with
  | zero => simp [load, Nat.mod_one]
  | succ count ih =>
    have place : total - 1 - count = total - (count + 1) := by omega
    have power : 256 ^ (total - count) = 256 ^ (total - (count + 1)) * 256 := by
      rw [← pow_succ]
      congr 1
      omega
    rw [load, ih (Nat.le_of_succ_le width), Nat.zero_add, digit, place, power,
      ← Nat.div_div_eq_div_mul, pow_succ, Nat.mul_comm (256 ^ count) 256, Nat.mod_mul,
      UInt8.toNat_ofNat', Nat.add_comm]

end Load

section Stored

variable {memory : Memory} {offset count value : Nat}

@[simp] theorem load_store_same (memory : Memory) (offset count value : Nat) :
    (memory.store offset count value).load offset count = value % 256 ^ count := by
  have digits : (memory.store offset count value).load offset count =
      load (digit count value) 0 count := by
    apply load_congr
    intro index inside
    rw [store, copy_inside index inside, Nat.zero_add]
  rw [digits, load_digit value (Nat.le_refl count), Nat.sub_self, pow_zero, Nat.div_one]

theorem store_outside (index : Nat) (outside : index < offset ∨ offset + count ≤ index) :
    memory.store offset count value index = memory index :=
  copy_outside index outside

theorem store_octet (memory : Memory) (value : Nat) (place : index = offset) :
    memory.store offset 1 value index = UInt8.ofNat value := by
  subst place
  have first : memory.copy index 1 (digit 1 value) (index + 0) = digit 1 value 0 :=
    copy_inside 0 Nat.one_pos
  rw [Nat.add_zero] at first
  rw [store, first, digit, Nat.pow_zero, Nat.div_one]

section

variable (apart : offset' + count' ≤ offset ∨ offset + count ≤ offset')
include apart

theorem load_copy_apart :
    (memory.copy offset count source).load offset' count' = memory.load offset' count' := by
  apply load_congr
  intro index inside
  apply copy_outside
  omega

theorem load_store_apart :
    (memory.store offset count value).load offset' count' = memory.load offset' count' :=
  load_copy_apart apart

theorem load_storeArray_apart {octets : Vector UInt8 count} :
    (memory.storeArray offset octets).load offset' count' = memory.load offset' count' :=
  load_copy_apart apart

end

theorem load_copy_inside (inside : offset' + count' ≤ count) :
    (memory.copy 0 count source).load offset' count' = load source offset' count' := by
  apply load_congr
  intro index small
  exact copy_start _ (by omega)

section

variable (apart : offset' + count' ≤ offset ∨ offset + count ≤ offset')
include apart

theorem array_copy_apart :
    (memory.copy offset count source).array offset' count' = memory.array offset' count' := by
  apply array_congr
  intro index inside
  apply copy_outside
  omega

theorem array_store_apart :
    (memory.store offset count value).array offset' count' = memory.array offset' count' :=
  array_copy_apart apart

theorem array_storeArray_apart {octets : Vector UInt8 count} :
    (memory.storeArray offset octets).array offset' count' = memory.array offset' count' :=
  array_copy_apart apart

end

@[simp] theorem array_storeArray_same (memory : Memory) (offset : Nat)
    (octets : Vector UInt8 count) :
    (memory.storeArray offset octets).array offset count = octets := by
  apply Vector.ext
  intro index inside
  rw [array, Vector.getElem_ofFn, storeArray, copy_inside index inside]
  simp [inside]

end Stored

end Memory

end EnetTsn.Library
