import Mathlib.Tactic.Ring
import Mathlib.Algebra.Order.Group.Nat

/-!
Strings of octets: numbers stored least significant octet first, parts of a string, and the
beginning and the end that two lists have in common.
-/

namespace EnetTsn.Library

def littleEndian : Nat → Nat → List UInt8
  | 0, _ => []
  | count + 1, value => UInt8.ofNat value :: littleEndian count (value / 256)

def ofLittleEndian : List UInt8 → Nat
  | [] => 0
  | octet :: rest => octet.toNat + 256 * ofLittleEndian rest

/-- A part of a list, if the list has it. -/
def slice (list : List α) (offset count : Nat) : Option (List α) :=
  if offset + count ≤ list.length then some ((list.drop offset).take count) else none

def commonPrefix [DecidableEq α] : List α → List α → Nat
  | first :: rest, second :: others => if first = second then commonPrefix rest others + 1 else 0
  | _, _ => 0

def commonSuffix [DecidableEq α] (first second : List α) : Nat :=
  commonPrefix first.reverse second.reverse

section Numbers

variable {count value : Nat}

@[simp] theorem length_littleEndian (count value : Nat) :
    (littleEndian count value).length = count := by
  induction count generalizing value with
  | zero => rfl
  | succ count ih => rw [littleEndian, List.length_cons, ih]

@[simp] theorem ofLittleEndian_littleEndian (count value : Nat) :
    ofLittleEndian (littleEndian count value) = value % 256 ^ count := by
  induction count generalizing value with
  | zero => simp [littleEndian, ofLittleEndian, Nat.mod_one]
  | succ count ih =>
    have power : 256 ^ (count + 1) = 256 * 256 ^ count := by ring
    rw [littleEndian, ofLittleEndian, ih, UInt8.toNat_ofNat', power, Nat.mod_mul]

variable (octets : List UInt8)

theorem ofLittleEndian_lt : ofLittleEndian octets < 256 ^ octets.length := by
  induction octets with
  | nil => exact Nat.one_pos
  | cons octet rest ih =>
    have small := octet.toNat_lt
    rw [ofLittleEndian, List.length_cons, pow_succ]
    omega

theorem littleEndian_ofLittleEndian :
    littleEndian octets.length (ofLittleEndian octets) = octets := by
  induction octets with
  | nil => rfl
  | cons octet rest ih =>
    have small := octet.toNat_lt
    have first : UInt8.ofNat (octet.toNat + 256 * ofLittleEndian rest) = octet := by
      apply UInt8.toNat_inj.mp
      rw [UInt8.toNat_ofNat']
      omega
    have later : (octet.toNat + 256 * ofLittleEndian rest) / 256 = ofLittleEndian rest := by omega
    rw [List.length_cons, ofLittleEndian, littleEndian, first, later, ih]

end Numbers

section Slices

variable {α : Type} {list first second third found : List α} {offset count : Nat}

theorem slice_eq_some (inside : slice list offset count = some found) :
    offset + count ≤ list.length ∧ found = (list.drop offset).take count := by
  obtain ⟨fits, same⟩ := Option.ite_none_right_eq_some.mp inside
  exact ⟨fits, (Option.some.inj same).symm⟩

theorem slice_of_le (fits : offset + count ≤ list.length) :
    slice list offset count = some ((list.drop offset).take count) :=
  if_pos fits

theorem length_slice (fits : offset + count ≤ list.length) :
    ((list.drop offset).take count).length = count := by
  rw [List.length_take, List.length_drop]
  omega

theorem slice_middle (first second third : List α) :
    slice (first ++ second ++ third) first.length second.length = some second := by
  rw [slice_of_le (by simp)]
  simp

end Slices

section Common

variable {α : Type} [DecidableEq α]

theorem commonPrefix_le_left (first second : List α) : commonPrefix first second ≤ first.length := by
  induction first generalizing second with
  | nil => exact Nat.le_refl 0
  | cons head rest ih =>
    cases second with
    | nil => exact Nat.zero_le _
    | cons other others =>
      rw [commonPrefix]
      split
      · exact Nat.succ_le_succ (ih others)
      · exact Nat.zero_le _

theorem take_commonPrefix (first second : List α) (count : Nat)
    (inside : count ≤ commonPrefix first second) : first.take count = second.take count := by
  induction first generalizing second count with
  | nil =>
    obtain rfl := Nat.le_zero.mp inside
    rfl
  | cons head rest ih =>
    cases second with
    | nil =>
      obtain rfl := Nat.le_zero.mp inside
      rfl
    | cons other others =>
      rw [commonPrefix] at inside
      split at inside
      · rename_i same
        subst same
        cases count with
        | zero => rfl
        | succ count =>
          rw [List.take_succ_cons, List.take_succ_cons, ih others count (by omega)]
      · obtain rfl := Nat.le_zero.mp inside
        rfl

theorem commonPrefix_comm (first second : List α) :
    commonPrefix first second = commonPrefix second first := by
  induction first generalizing second with
  | nil => cases second <;> rfl
  | cons head rest ih =>
    cases second with
    | nil => rfl
    | cons other others =>
      simp only [commonPrefix, ih others, eq_comm]

theorem commonPrefix_le_right (first second : List α) :
    commonPrefix first second ≤ second.length := by
  rw [commonPrefix_comm]
  exact commonPrefix_le_left second first

theorem drop_commonSuffix (first second : List α) (count : Nat)
    (inside : count ≤ commonSuffix first second) :
    first.drop (first.length - count) = second.drop (second.length - count) := by
  have same := take_commonPrefix first.reverse second.reverse count inside
  rw [List.take_reverse, List.take_reverse] at same
  exact List.reverse_inj.mp same

theorem commonSuffix_le_left (first second : List α) : commonSuffix first second ≤ first.length := by
  have bound := commonPrefix_le_left first.reverse second.reverse
  rwa [List.length_reverse] at bound

end Common

end EnetTsn.Library
