import EnetTsn.Unibase.StaticMem

namespace EnetTsn.Unibase

open EnetTsn.Library

def StaticArray.fragments (array : StaticArray) (size : Nat) : Nat :=
  (size + array.fragsize - 1) / array.fragsize

def counts (busysizes : Int → UInt16) : Occupancy := fun start => (busysizes start).toNat

/-- A size that the search handles: an `int` holds it, and the length of a block that is
found for it fits a busy size. -/
def StaticArray.Requestable (array : StaticArray) (size : Nat) : Prop :=
  size < 2 ^ 31 ∧ (array.fragnum < 2 ^ 16 ∨ array.fragments size < 2 ^ 16)

instance {array : StaticArray} : Decidable (array.Requestable size) :=
  inferInstanceAs (Decidable (_ ∧ _))

def StaticArray.Searched (array : StaticArray) (busy : Occupancy) (needed : Nat) :
    Option (Int × Int) → Prop
  | none => ∀ start, start + needed ≤ array.fragnum → ¬ busy.Room start needed
  | some (pi, i) => ∃ start : Nat, pi = start ∧ i = start + needed ∧
      start + needed ≤ array.fragnum ∧ busy.Room start needed

variable {array : StaticArray} {busysizes : Int → UInt16} {size needed start : Nat}

theorem fragments_le_iff (count : Nat) :
    array.fragments size ≤ count ↔ size ≤ count * array.fragsize := by
  have positive := array.fragsize_pos
  rw [StaticArray.fragments, ← Nat.lt_succ_iff, Nat.div_lt_iff_lt_mul positive, Nat.succ_mul]
  omega

theorem fragments_pos (some : 0 < size) : 0 < array.fragments size := by
  by_contra none
  have small : size ≤ 0 * array.fragsize := (fragments_le_iff 0).mp (by omega)
  omega

theorem toInt_of_lt (least : -2 ^ 31 ≤ value) (most : value < 2 ^ 31) : toInt value = value :=
  Int.bmod_eq_of_le (by omega) (by omega)

theorem counts_update (start : Nat) (count : UInt16) :
    counts (Function.update busysizes start count) =
      Function.update (counts busysizes) start count.toNat := by
  funext other
  rcases eq_or_ne other start with rfl | differs
  · simp [counts]
  · have apart : (other : Int) ≠ start := by omega
    simp [counts, Function.update_of_ne differs, Function.update_of_ne apart]

theorem findFragments_searched (separate : (counts busysizes).Separate array.fragnum)
    (some : 0 < size) (fuel : Nat) (i np : Nat) (pi : Int)
    (first : pi = if np = 0 then -1 else (i : Int) - np)
    (scanned : (counts busysizes).Scanned (array.fragments size) i np)
    (short : np < array.fragments size) (bounded : i ≤ array.fragnum)
    (enough : array.fragnum ≤ i + fuel) : array.Searched (counts busysizes) (array.fragments size)
      (array.findFragments busysizes size fuel i pi np) := by
  have stops : ∀ count : Nat, (size : Int) ≤ (count : Int) * array.fragsize ↔
      array.fragments size ≤ count := by
    intro count
    rw [fragments_le_iff]
    exact_mod_cast Iff.rfl
  induction fuel generalizing i np pi with
  | zero =>
    intro start fits
    exact scanned.nothing short (by omega) bounded start fits
  | succ fuel ih =>
    have count_le := scanned.count_le
    rw [StaticArray.findFragments]
    by_cases below : i < array.fragnum
    · rw [if_pos (by omega)]
      by_cases free : busysizes i = 0
      · have unused : counts busysizes i = 0 := by simp [counts, free]
        have following := scanned.free unused
        have beginning : (if pi = -1 then (i : Int) else pi) = ((i - np : Nat) : Int) := by
          rw [first]
          by_cases none : np = 0
          · simp [none]
          · omega
        simp only [free, if_true, beginning]
        by_cases found : array.fragments size ≤ np + 1
        · have reached : (size : Int) ≤ ((np : Int) + 1) * array.fragsize := by
            exact_mod_cast (stops (np + 1)).mpr found
          rw [if_pos reached]
          have exactly : array.fragments size = np + 1 := by omega
          refine ⟨i - np, rfl, by omega, by omega, ?_⟩
          rw [exactly]
          have room := following.room
          rwa [Nat.add_sub_add_right] at room
        · have missed : ¬ (size : Int) ≤ ((np : Int) + 1) * array.fragsize := by
            intro reached
            exact found ((stops (np + 1)).mp (by exact_mod_cast reached))
          rw [if_neg missed]
          exact ih (i + 1) (np + 1) _ (by rw [if_neg (Nat.succ_ne_zero np)]; omega) following
            (by omega) below (by omega)
      · have used : counts busysizes i ≠ 0 := by
          intro none
          exact free (UInt16.toNat_inj.mp none)
        have ended := separate.inside i below
        have missed : ¬ (size : Int) ≤ 0 * array.fragsize := by omega
        simp only [free, if_false, if_neg missed]
        have following := scanned.used separate below used short
        have step := ih (i + counts busysizes i) 0 (-1) rfl following
          (fragments_pos some) ended (by omega)
        exact step
    · rw [if_neg (by omega)]
      intro start fits
      exact scanned.nothing short (by omega) bounded start fits

/-- `ub_static_getmem` gives the first free fragments that are enough in a row, and no address
exactly when there are none. -/
theorem getmem_spec (state : StaticMem) (separate : (counts state.busysizes).Separate array.fragnum)
    (some : 0 < size) (requestable : array.Requestable size) :
    (array.getmem size state = (none, state) ∧ ∀ start, start + array.fragments size ≤ array.fragnum →
      ¬ (counts state.busysizes).Room start (array.fragments size)) ∨
    ∃ (start : Nat) (count : UInt16), count.toNat = array.fragments size ∧
      start + array.fragments size ≤ array.fragnum ∧
      (counts state.busysizes).Room start (array.fragments size) ∧
      array.getmem size state = (.some (start * array.fragsize : Int),
        { state with busysizes := Function.update state.busysizes start count }) := by
  have searched : array.Searched (counts state.busysizes) (array.fragments size)
      (array.findFragments state.busysizes size array.fragnum 0 (-1) 0) :=
    findFragments_searched separate some array.fragnum 0 0 (-1) rfl
      (Occupancy.scanned_start _) (fragments_pos some) (Nat.zero_le _) (by omega)
  have cast : toInt (size : Int) = size := toInt_of_lt (by omega) (by have := requestable.1; omega)
  rw [StaticArray.getmem, if_neg (by omega), cast]
  cases result : array.findFragments state.busysizes size array.fragnum 0 (-1) 0 with
  | none =>
    rw [result] at searched
    exact Or.inl ⟨rfl, searched⟩
  | some found =>
    rw [result] at searched
    obtain ⟨pi, i⟩ := found
    obtain ⟨start, rfl, rfl, fits, room⟩ := searched
    have narrow : array.fragments size < 2 ^ 16 := by
      rcases requestable.2 with few | short
      · omega
      · exact short
    refine Or.inr ⟨start, UInt16.ofInt (start + array.fragments size - start), ?_, fits, room, rfl⟩
    have length : (start : Int) + array.fragments size - start = array.fragments size := by omega
    simp [UInt16.ofInt]
    omega

end EnetTsn.Unibase
