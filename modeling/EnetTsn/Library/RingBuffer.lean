import Mathlib.Algebra.Ring.Nat
import Mathlib.Logic.Function.Basic
import Mathlib.Data.List.Basic

/-!
A queue in a ring of cells: the entries stand between the cell that is read next and
the cell that is written next, and a cell tells whether it is in use.
-/

namespace EnetTsn.Library

structure Ring (α : Type u) (n : Nat) where
  cells : Fin n → Option α
  rdi : Fin n
  wri : Fin n

namespace Ring

variable {α : Type u} {n : Nat} [NeZero n] {ring : Ring α n} {entries : List α} {entry : α}

def empty : Ring α n where
  cells _ := none
  rdi := Fin.ofNat n 0
  wri := Fin.ofNat n 0

def push (ring : Ring α n) (entry : α) : Option (Ring α n) :=
  match ring.cells ring.wri with
  | some _ => none
  | none => some { ring with
      cells := Function.update ring.cells ring.wri (some entry)
      wri := Fin.ofNat n (ring.wri.val + 1) }

def pop (ring : Ring α n) : Option (α × Ring α n) :=
  (ring.cells ring.rdi).map fun entry => (entry, { ring with
    cells := Function.update ring.cells ring.rdi none
    rdi := Fin.ofNat n (ring.rdi.val + 1) })

/-- The cell that is read after `offset` others. -/
def slot (ring : Ring α n) (offset : Nat) : Fin n := Fin.ofNat n (ring.rdi.val + offset)

/-- What the ring holds, the oldest entry first. -/
def contents (ring : Ring α n) : List α :=
  (List.range n).filterMap fun offset => ring.cells (ring.slot offset)

/-- The ring holds a list: its cells in use are the first ones from the read index on. -/
structure Holds (ring : Ring α n) (entries : List α) : Prop where
  length : entries.length ≤ n
  written : ring.wri = ring.slot entries.length
  cells : ∀ offset < n, ring.cells (ring.slot offset) = entries[offset]?

section

variable (ring : Ring α n)

theorem slot_val (bound : offset ≤ n) : (ring.slot offset).val =
      if ring.rdi.val + offset < n then ring.rdi.val + offset else ring.rdi.val + offset - n := by
  have inside := ring.rdi.isLt
  simp only [slot, Fin.val_ofNat]
  split
  · rename_i low
    exact Nat.mod_eq_of_lt low
  · rename_i high
    rw [Nat.mod_eq_sub_mod (Nat.not_lt.mp high), Nat.mod_eq_of_lt (by omega)]

theorem slot_zero : ring.slot 0 = ring.rdi := by
  apply Fin.ext
  rw [slot_val ring (Nat.zero_le n)]
  simp

theorem slot_injective (first : a < n) (second : b < n)
    (same : ring.slot a = ring.slot b) : a = b := by
  have values := congrArg Fin.val same
  rw [slot_val ring (Nat.le_of_lt first), slot_val ring (Nat.le_of_lt second)] at values
  split at values <;> split at values <;> omega

theorem slot_full : ring.slot n = ring.slot 0 := by
  apply Fin.ext
  rw [slot_val ring (Nat.le_refl _), slot_val ring (Nat.zero_le n)]
  have inside := ring.rdi.isLt
  split <;> split <;> omega

theorem ofNat_slot_succ (offset : Nat) :
    Fin.ofNat n ((ring.slot offset).val + 1) = ring.slot (offset + 1) := by
  apply Fin.ext
  simp only [slot, Fin.val_ofNat, Nat.mod_add_mod, Nat.add_assoc]

end

theorem holds_empty : (empty : Ring α n).Holds [] where
  length := Nat.zero_le n
  written := (slot_zero empty).symm
  cells _ _ := rfl

theorem filterMap_getElem? (entries : List α) (n : Nat) (bound : entries.length ≤ n) :
    (List.range n).filterMap (fun offset => entries[offset]?) = entries := by
  induction entries generalizing n with
  | nil => simp
  | cons head rest ih =>
    obtain ⟨m, rfl⟩ : ∃ m, n = m + 1 := ⟨n - 1, by simp at bound; omega⟩
    have shorter : rest.length ≤ m := by simpa using bound
    rw [List.range_succ_eq_map, List.filterMap_cons]
    simpa [List.filterMap_map, Function.comp_def] using ih m shorter

theorem Holds.contents (holds : ring.Holds entries) : ring.contents = entries := by
  have same : ring.contents = (List.range n).filterMap (fun offset => entries[offset]?) := by
    apply List.filterMap_congr
    intro offset member
    exact holds.cells offset (List.mem_range.mp member)
  rw [same, filterMap_getElem? entries n holds.length]

theorem Holds.push_full (holds : ring.Holds entries) (full : entries.length = n) :
    ring.push entry = none := by
  have positive : 0 < n := Nat.pos_of_neZero n
  have used : ring.cells ring.wri = entries[0]? := by
    rw [holds.written, full, slot_full]
    exact holds.cells 0 positive
  rw [List.getElem?_eq_getElem (by omega)] at used
  rw [push, used]

theorem Holds.push_room (holds : ring.Holds entries) (room : entries.length < n) :
    ∃ next, ring.push entry = some next ∧ next.Holds (entries ++ [entry]) := by
  have free : ring.cells ring.wri = none := by
    rw [holds.written, holds.cells _ room]
    exact List.getElem?_eq_none (Nat.le_refl _)
  refine ⟨_, by rw [push, free], ?_⟩
  constructor
  · rw [List.length_append]
    exact room
  · rw [List.length_append]
    exact (congrArg (fun index : Fin n => Fin.ofNat n (index.val + 1)) holds.written).trans
      (ofNat_slot_succ ring _)
  · intro offset bound
    change Function.update ring.cells ring.wri (some entry) (ring.slot offset) = _
    by_cases last : offset = entries.length
    · rw [last, ← holds.written, Function.update_self]
      simp
    · have other : ring.slot offset ≠ ring.wri := by
        intro same
        exact last (slot_injective ring bound room (same.trans holds.written))
      rw [Function.update_of_ne other, holds.cells offset bound]
      rcases Nat.lt_or_gt_of_ne last with before | after
      · rw [List.getElem?_append_left before]
      · rw [List.getElem?_eq_none (by omega), List.getElem?_eq_none (by simp; omega)]

theorem Holds.pop_nil (holds : ring.Holds []) : ring.pop = none := by
  have free := holds.cells 0 (Nat.pos_of_neZero n)
  rw [slot_zero] at free
  rw [pop, free]
  rfl

theorem Holds.pop_cons (holds : ring.Holds (entry :: entries)) :
    ∃ next, ring.pop = some (entry, next) ∧ next.Holds entries := by
  have used := holds.cells 0 (Nat.pos_of_neZero n)
  rw [slot_zero] at used
  have shorter : entries.length < n := holds.length
  refine ⟨_, by rw [pop, used]; rfl, ?_⟩
  -- the cells from the new read index on are the old ones, one turn later
  have moved : ∀ offset < n, Ring.slot { ring with
      cells := Function.update ring.cells ring.rdi none
      rdi := Fin.ofNat n (ring.rdi.val + 1) } offset = ring.slot (offset + 1) := by
    intro offset _
    apply Fin.ext
    simp only [slot, Fin.val_ofNat, Nat.mod_add_mod]
    congr 1
    omega
  constructor
  · exact Nat.le_of_lt shorter
  · rw [moved _ shorter]
    exact holds.written
  · intro offset bound
    rw [moved offset bound]
    change Function.update ring.cells ring.rdi none (ring.slot (offset + 1)) = _
    by_cases last : offset + 1 = n
    · rw [last, slot_full, slot_zero, Function.update_self, List.getElem?_eq_none (by omega)]
    · have inside : offset + 1 < n := by omega
      have other : ring.slot (offset + 1) ≠ ring.rdi := by
        rw [← slot_zero ring]
        intro same
        exact absurd (slot_injective ring inside (Nat.pos_of_neZero n) same) (Nat.succ_ne_zero offset)
      rw [Function.update_of_ne other, holds.cells _ inside, List.getElem?_cons_succ]

end Ring

end EnetTsn.Library
