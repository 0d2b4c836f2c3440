import Mathlib.Algebra.Ring.Nat
import Mathlib.Logic.Function.Basic

/-!
A store of numbered fragments, of which consecutive ones are occupied as blocks: which
fragments are free, and what occupying, cutting and releasing a block do to the others.
-/

namespace EnetTsn.Library

/-- For each fragment how many fragments the block takes that starts there, and zero where
no block starts. -/
abbrev Occupancy := Nat → Nat

namespace Occupancy

/-- The blocks lie within the store and do not overlap. -/
structure Separate (busy : Occupancy) (total : Nat) : Prop where
  inside : ∀ start < total, start + busy start ≤ total
  apart : ∀ start < total, ∀ other, start < other → other < start + busy start → busy other = 0

/-- No block covers the fragment. -/
def Free (busy : Occupancy) (fragment : Nat) : Prop :=
  ∀ start ≤ fragment, start + busy start ≤ fragment

def Room (busy : Occupancy) (start count : Nat) : Prop :=
  ∀ offset < count, Free busy (start + offset)

instance : Decidable (Free busy fragment) :=
  inferInstanceAs (Decidable (∀ start ≤ fragment, _))

variable {busy : Occupancy} {total start count fragment : Nat}

theorem separate_empty (total : Nat) : Separate (fun _ => 0) total := by
  constructor
  · intro start before
    exact Nat.le_of_lt before
  · intros
    rfl

theorem Free.not_start (free : Free busy fragment) : busy fragment = 0 := by
  have here := free fragment (Nat.le_refl _)
  omega

section

variable (separate : Separate busy total)
include separate

theorem Separate.cut (fewer : count ≤ busy start) :
    Separate (Function.update busy start count) total := by
  constructor
  · intro first below
    have inside := separate.inside first below
    rcases eq_or_ne first start with rfl | other
    · rw [Function.update_self]
      omega
    · rw [Function.update_of_ne other]
      exact inside
  · intro first below other after covered
    have shorter : Function.update busy start count first ≤ busy first := by
      rcases eq_or_ne first start with rfl | differs
      · rw [Function.update_self]
        exact fewer
      · exact Nat.le_of_eq (Function.update_of_ne differs _ _)
    have none := separate.apart first below other after (by omega)
    rcases eq_or_ne other start with rfl | differs
    · rw [Function.update_self]
      omega
    · rw [Function.update_of_ne differs]
      exact none

theorem Separate.occupy (room : Room busy start count)
    (fits : start + count ≤ total) : Separate (Function.update busy start count) total := by
  constructor
  · intro first below
    rcases eq_or_ne first start with rfl | differs
    · rw [Function.update_self]
      exact fits
    · rw [Function.update_of_ne differs]
      exact separate.inside first below
  · intro first below other after covered
    rcases eq_or_ne first start with rfl | differs
    · rw [Function.update_self] at covered
      rw [Function.update_of_ne (by omega)]
      have free := room (other - first) (by omega)
      rw [Nat.add_sub_cancel' (Nat.le_of_lt after)] at free
      exact free.not_start
    · rw [Function.update_of_ne differs] at covered
      rcases eq_or_ne other start with rfl | another
      · rw [Function.update_self]
        -- the new block would start inside an old one
        rcases Nat.eq_zero_or_pos count with empty | some
        · exact empty
        · have past := room 0 some first (by omega)
          omega
      · rw [Function.update_of_ne another]
        exact separate.apart first below other after covered

theorem Separate.disjoint (below : start < total) (other : Nat)
    (some : busy other ≠ 0) (before : start < other) : start + busy start ≤ other := by
  by_contra overlap
  exact some (separate.apart start below other before (by omega))

theorem Separate.room_release (below : start < total) :
    Room (Function.update busy start 0) start (busy start) := by
  intro offset inside first before
  rcases eq_or_ne first start with rfl | differs
  · rw [Function.update_self]
    exact before
  · rw [Function.update_of_ne differs]
    have ended := separate.inside start below
    rcases Nat.lt_or_ge first start with less | more
    · rcases Nat.eq_zero_or_pos (busy first) with none | some
      · omega
      · have past := separate.disjoint (by omega) start (by omega) less
        omega
    · have none := separate.apart start below first (by omega) (by omega)
      omega

end

theorem not_room_of_covered (first offset : Nat) (after : first ≤ start + offset)
    (covered : start + offset < first + busy first) (reaches : offset < count) :
    ¬ Room busy start count := by
  intro room
  have past := room offset reaches first after
  omega

/-- Where consecutive free fragments are looked for: all before `here` is known, the latest
`count` fragments are free, and there is no room that starts before them. -/
structure Scanned (busy : Occupancy) (needed here count : Nat) : Prop where
  count_le : count ≤ here
  boundary : ∀ start < here, start + busy start ≤ here
  room : Room busy (here - count) count
  nowhere : ∀ start < here - count, ¬ Room busy start needed

theorem scanned_start (needed : Nat) : Scanned busy needed 0 0 := by
  constructor
  · exact Nat.le_refl 0
  · exact fun _ impossible => absurd impossible (Nat.not_lt_zero _)
  · exact fun _ impossible => absurd impossible (Nat.not_lt_zero _)
  · exact fun _ impossible => absurd impossible (Nat.not_lt_zero _)

variable (scanned : Scanned busy needed here count)
include scanned

theorem Scanned.free (unused : busy here = 0) : Scanned busy needed (here + 1) (count + 1) := by
  have count_le := scanned.count_le
  constructor
  · omega
  · intro start before
    have boundary := scanned.boundary start
    rcases Nat.lt_succ_iff_lt_or_eq.mp before with earlier | rfl
    · have ended := boundary earlier
      omega
    · omega
  · intro offset inside first before
    rw [Nat.add_sub_add_right] at before ⊢
    rcases Nat.lt_succ_iff_lt_or_eq.mp inside with earlier | rfl
    · exact scanned.room offset earlier first before
    · have ended := scanned.boundary first
      rcases Nat.lt_or_ge first here with less | same
      · have past := ended less
        omega
      · obtain rfl : first = here := by omega
        omega
  · intro start before
    exact scanned.nowhere start (by omega)

theorem Scanned.used (separate : Separate busy total)
    (below : here < total) (used : busy here ≠ 0) (short : count < needed) :
    Scanned busy needed (here + busy here) 0 := by
  have count_le := scanned.count_le
  constructor
  · exact Nat.zero_le _
  · intro start before
    rcases Nat.lt_trichotomy start here with less | rfl | more
    · have ended := scanned.boundary start less
      omega
    · exact Nat.le_refl _
    · have none := separate.apart here below start more before
      omega
  · intro offset inside
    exact absurd inside (Nat.not_lt_zero offset)
  · intro start before
    rcases Nat.lt_or_ge start (here - count) with earlier | later
    · exact scanned.nowhere start earlier
    · -- the room would reach the block, or start inside it
      rcases Nat.lt_or_ge start here with less | more
      · exact not_room_of_covered here (here - start) (by omega) (by omega) (by omega)
      · exact not_room_of_covered here 0 (by omega) (by omega) (by omega)

theorem Scanned.nothing (short : count < needed)
    (ended : total ≤ here) (bounded : here ≤ total) (start : Nat) (fits : start + needed ≤ total) :
    ¬ Room busy start needed :=
  scanned.nowhere start (by omega)

end Occupancy

end EnetTsn.Library
