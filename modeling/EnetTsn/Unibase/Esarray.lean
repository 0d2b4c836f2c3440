import EnetTsn.Library.Run
import Mathlib.Algebra.Ring.Nat

namespace EnetTsn.Unibase

open EnetTsn.Library

/-- The fields of `struct ub_esarray_cstd` that `ub_esarray_init` sets for good. -/
structure EsarraySizes where
  expndUnit : Nat
  uaelementSize : Nat
  maxElementNums : Nat

namespace EsarraySizes

variable (sizes : EsarraySizes)

/-- `UB_SD_ALIGN` of the element size, with pointers of eight octets. -/
def aligned : Nat := (sizes.uaelementSize + 7) / 8 * 8

def elementSize : Int := Int.bmod sizes.aligned (2 ^ 32)

/-- The octets of some elements, a product of two `int`s. -/
def octets (nums : Nat) : Int := (sizes.elementSize * nums).bmod (2 ^ 32)

def read (ed : Nat → UInt8) : List UInt8 := (List.range sizes.uaelementSize).map ed

end EsarraySizes

/-- The other fields. The octets at `data` are those of `block`; without them no element is left. -/
structure Esarray where
  allocateNums : Nat
  elementNums : Nat
  data : Option Int
  dataLock : Bool
  block : Int → UInt8

inductive EsarrayCall where
  /-- The other way is to fill the element that `ub_esarray_get_newele` returns. -/
  | addEle (ed : Nat → UInt8)
  | popEle
  | popLastEle
  | delEle (ed : Nat → UInt8)
  | delIndex (index : Int)
  | delPointer (ed : Int)
  | dataLock
  | dataUnlock

variable (sizes : EsarraySizes)

namespace Esarray

def element (eah : Esarray) (index : Nat) : List UInt8 :=
  sizes.read fun offset => eah.block (sizes.octets index + offset)

def contents (eah : Esarray) : List (List UInt8) :=
  if eah.data.isNone then [] else (List.range eah.elementNums).map (eah.element sizes)

def address (eah : Esarray) (index : Nat) : Option Int := eah.data.map (· + sizes.octets index)

def addresses (eah : Esarray) : List (Option Int) :=
  (List.range eah.elementNums).map (eah.address sizes)

/-- `get_newele_nomutex`; `memory` is what the allocator returns. -/
def getNewele (memory : Option Int) (eah : Esarray) : Option Esarray :=
  if sizes.maxElementNums ≤ eah.elementNums then none
  else if eah.allocateNums ≤ eah.elementNums then
    if eah.dataLock then none
    else memory.map fun np =>
      { eah with
        allocateNums := eah.allocateNums + sizes.expndUnit
        data := some np
        elementNums := eah.elementNums + 1 }
  else some { eah with elementNums := eah.elementNums + 1 }

/-- `ub_esarray_add_ele`. -/
def addEle (memory : Option Int) (ed : Nat → UInt8) (eah : Esarray) : Esarray × Bool :=
  match eah.getNewele sizes memory with
  | none => (eah, false)
  | some grown =>
    let start := sizes.octets eah.elementNums
    ({ grown with block := fun octet =>
        if start ≤ octet ∧ octet < start + sizes.uaelementSize then ed (octet - start).toNat
        else grown.block octet }, true)

/-- The end of `del_index_nomutex`. When `realloc` refuses, the block that it left is given up. -/
def shrink (memory : Option Int) (eah : Esarray) : Esarray × Bool :=
  if eah.elementNums + 2 * sizes.expndUnit ≤ eah.allocateNums then
    if eah.dataLock then (eah, true)
    else if 0 < eah.elementNums ∧ memory = none then ({ eah with data := none }, false)
    else ({ eah with data := memory, allocateNums := eah.allocateNums - sizes.expndUnit }, true)
  else (eah, true)

/-- `del_index_nomutex` of an element: `memmove` and the count. -/
def remove (index : Nat) (eah : Esarray) : Esarray :=
  let start := sizes.octets index
  { eah with
    block := fun octet =>
      if start ≤ octet ∧ octet < start + sizes.octets (eah.elementNums - (index + 1)) then
        eah.block (octet - start + sizes.octets (index + 1))
      else eah.block octet
    elementNums := eah.elementNums - 1 }

def delIndexNomutex (memory : Option Int) (index : Int) (eah : Esarray) : Esarray × Bool :=
  if eah.elementNums < index + 1 ∨ index < 0 then (eah, false)
  else (eah.remove sizes index.toNat).shrink sizes memory

/-- `ub_esarray_pop_ele` and `ub_esarray_pop_last_ele`. -/
def popAt (memory : Option Int) (index : Nat) (eah : Esarray) :
    Esarray × Bool × Option (List UInt8) :=
  if eah.dataLock then (eah, false, none)
  else if eah.elementNums = 0 then (eah, false, none)
  else ((eah.delIndexNomutex sizes memory index).1, true, some (eah.element sizes index))

def delAt (memory : Option Int) (index : Int) (eah : Esarray) :
    Esarray × Bool × Option (List UInt8) :=
  if eah.dataLock then (eah, false, none)
  else
    let (eah, res) := eah.delIndexNomutex sizes memory index
    (eah, res, none)

def call (memory : Option Int) (eah : Esarray) : EsarrayCall → Esarray × Bool × Option (List UInt8)
  | .addEle ed =>
    let (eah, res) := eah.addEle sizes memory ed
    (eah, res, none)
  | .popEle => eah.popAt sizes memory 0
  | .popLastEle => eah.popAt sizes memory (eah.elementNums - 1)
  | .delEle ed => eah.delAt sizes memory ((eah.contents sizes).idxOf (sizes.read ed))
  | .delIndex index => eah.delAt sizes memory index
  | .delPointer ed => eah.delAt sizes memory ((eah.addresses sizes).idxOf (some ed))
  | .dataLock => ({ eah with dataLock := true }, !eah.dataLock, none)
  | .dataUnlock => ({ eah with dataLock := false }, eah.dataLock, none)

def cleared : Esarray where
  allocateNums := 0
  elementNums := 0
  data := none
  dataLock := false
  block := fun _ => 0

/-- `ub_esarray_init`. -/
def init (memory : Option Int) : Esarray :=
  { (cleared.getNewele sizes memory).getD cleared with elementNums := 0 }

/-- Whether a call is carried out: an element finds room or memory, the others find no lock. -/
def accepts (memory : Option Int) (eah : Esarray) : EsarrayCall → Bool
  | .addEle _ => eah.elementNums < sizes.maxElementNums &&
    (eah.elementNums < eah.allocateNums || !eah.dataLock && memory.isSome)
  | .dataLock | .dataUnlock => true
  | _ => !eah.dataLock

end Esarray

/-- A call on the list of the elements at some addresses: the list after it, and the element that
is popped. -/
def EsarrayCall.onList (list : List (List UInt8)) (addresses : List (Option Int)) :
    EsarrayCall → List (List UInt8) × Option (List UInt8)
  | .addEle ed => (list ++ [sizes.read ed], none)
  | .popEle => (list.tail, list.head?)
  | .popLastEle => (list.dropLast, list.getLast?)
  | .delEle ed => (list.erase (sizes.read ed), none)
  | .delIndex index => (if index < 0 then list else list.eraseIdx index.toNat, none)
  | .delPointer ed => (list.eraseIdx (addresses.idxOf (some ed)), none)
  | .dataLock | .dataUnlock => (list, none)

def esarraySystem (memory : Option Int) :
    System (Esarray × List (List UInt8)) (Option Int × EsarrayCall) where
  start := (.init sizes memory, [])
  step state event :=
    some ((state.1.call sizes event.1 event.2).1,
      if state.1.accepts sizes event.1 event.2 then
        (event.2.onList sizes state.2 (state.1.addresses sizes)).1
      else state.2)

variable {sizes} {memory : Option Int} {eah : Esarray} {list : List (List UInt8)}

theorem read_congr (same : ∀ offset < sizes.uaelementSize, ed offset = ed' offset) :
    sizes.read ed = sizes.read ed' :=
  List.map_congr_left fun _ member => same _ (List.mem_range.mp member)

theorem uaelementSize_le (sizes : EsarraySizes) : sizes.uaelementSize ≤ sizes.aligned := by
  unfold EsarraySizes.aligned
  omega

theorem element_before (sizes : EsarraySizes) (before : first < second) :
    sizes.aligned * first + sizes.aligned ≤ sizes.aligned * second :=
  Nat.mul_le_mul_left sizes.aligned before

theorem bmod_small {value : Nat} (small : value < 2 ^ 31) :
    (value : Int).bmod (2 ^ 32) = value := by
  rw [Int.bmod_eq_iff (by decide), Int.sub_self]
  exact ⟨by omega, by omega, Int.dvd_zero _⟩

/-- No product wraps around as long as the one with all elements does not. -/
theorem octets_eq (fits : sizes.aligned * nums < 2 ^ 31) (inside : index ≤ nums)
    (positive : 0 < nums) : sizes.octets index = (sizes.aligned * index : Nat) := by
  have one : sizes.aligned ≤ sizes.aligned * nums := Nat.le_mul_of_pos_right _ positive
  have product := Nat.mul_le_mul_left sizes.aligned inside
  unfold EsarraySizes.octets EsarraySizes.elementSize
  rw [bmod_small (by omega), ← Int.natCast_mul, bmod_small (by omega)]

/-- One unit more is no more than the maximum, and its octets are counted without wrapping. -/
structure Roomy (sizes : EsarraySizes) (elementNums : Nat) : Prop where
  positive : 0 < sizes.expndUnit
  below : elementNums + sizes.expndUnit ≤ sizes.maxElementNums
  fits : sizes.aligned * (elementNums + sizes.expndUnit) < 2 ^ 31

namespace Esarray

/-- Memory is granted only where there is room for another unit. -/
def Expandable (sizes : EsarraySizes) (memory : Option Int) (eah : Esarray) : Prop :=
  eah.elementNums < sizes.maxElementNums → eah.allocateNums ≤ eah.elementNums →
    eah.dataLock = false → memory.isSome = true → Roomy sizes eah.elementNums

/-- A step that expands with room and is not refused to shrink. -/
def Permitted (sizes : EsarraySizes) (state : Esarray × List (List UInt8))
    (event : Option Int × EsarrayCall) : Prop :=
  match event.2 with
  | .addEle _ => state.1.Expandable sizes event.1
  | _ => event.1.isSome = true

structure Held (sizes : EsarraySizes) (eah : Esarray) : Prop where
  stored : eah.elementNums ≤ eah.allocateNums
  below : eah.allocateNums ≤ sizes.maxElementNums
  fits : sizes.aligned * eah.allocateNums < 2 ^ 31
  backed : eah.data.isNone = true → eah.allocateNums = 0

namespace Held

variable (held : Held sizes eah)
include held

theorem contents_eq :
    eah.contents sizes = (List.range eah.elementNums).map (eah.element sizes) := by
  unfold contents
  split
  · rename_i lost
    have none : eah.elementNums = 0 := Nat.le_zero.mp (held.backed lost ▸ held.stored)
    rw [none]
    rfl
  · rfl

theorem contents_length : (eah.contents sizes).length = eah.elementNums := by
  simp [held.contents_eq]

theorem contents_getElem (index : Nat) (inside : index < (eah.contents sizes).length) :
    (eah.contents sizes)[index] = eah.element sizes index := by
  simp [held.contents_eq]

theorem octets (inside : index ≤ eah.allocateNums)
    (positive : 0 < eah.allocateNums) : sizes.octets index = (sizes.aligned * index : Nat) :=
  octets_eq held.fits inside positive

theorem store (block : Int → UInt8) :
    Held sizes { eah with block := block } :=
  ⟨held.stored, held.below, held.fits, held.backed⟩

end Held

structure Grown (sizes : EsarraySizes) (eah grown : Esarray) : Prop where
  elementNums : grown.elementNums = eah.elementNums + 1
  block : grown.block = eah.block
  held : Held sizes grown

section

variable (held : Held sizes eah)
include held

theorem getNewele_spec (expandable : eah.Expandable sizes memory) (ed : Nat → UInt8) :
    if eah.accepts sizes memory (.addEle ed) then
      ∃ grown, eah.getNewele sizes memory = some grown ∧ Grown sizes eah grown
    else eah.getNewele sizes memory = none := by
  obtain ⟨stored, below, fits, backed⟩ := held
  unfold getNewele accepts
  by_cases most : sizes.maxElementNums ≤ eah.elementNums
  · simp [most, Nat.not_lt.mpr most]
  have less := Nat.not_le.mp most
  rw [if_neg most]
  by_cases full : eah.allocateNums ≤ eah.elementNums
  · cases locked : eah.dataLock with
    | true => simp [Nat.not_lt.mpr full, full]
    | false =>
      cases memory with
      | none => simp [Nat.not_lt.mpr full, full]
      | some np =>
        obtain ⟨positive, room, small⟩ := expandable less full locked rfl
        have all : eah.allocateNums = eah.elementNums := Nat.le_antisymm full stored
        simp only [less, full, decide_true, Option.isSome_some, Bool.not_false, Bool.or_true,
          Bool.and_self, if_true, Bool.false_eq_true, if_false, Option.map_some]
        refine ⟨_, rfl, rfl, rfl, ?_, ?_, ?_, nofun⟩
        all_goals simp only [all]
        · omega
        · exact room
        · exact small
  · have room := Nat.not_le.mp full
    simp only [less, room, full, decide_true, Bool.true_or, Bool.and_true, if_true, if_false]
    exact ⟨_, rfl, rfl, rfl, room, below, fits, backed⟩

theorem addEle_spec (expandable : eah.Expandable sizes memory) (ed : Nat → UInt8) :
    (eah.addEle sizes memory ed).1.contents sizes =
        (if eah.accepts sizes memory (.addEle ed) then eah.contents sizes ++ [sizes.read ed]
          else eah.contents sizes) ∧
      Held sizes (eah.addEle sizes memory ed).1 := by
  have spec := getNewele_spec held expandable ed
  unfold addEle
  split at spec
  case isFalse refused =>
    rw [spec, if_neg refused]
    exact ⟨rfl, held⟩
  case isTrue accepted =>
    obtain ⟨grown, made, elementNums, block, after⟩ := spec
    rw [made, if_pos accepted]
    refine ⟨(after.store _).contents_eq.trans ?_, after.store _⟩
    have stored := after.stored
    have whole := uaelementSize_le sizes
    have start : sizes.octets eah.elementNums = (sizes.aligned * eah.elementNums : Nat) :=
      after.octets (by omega) (by omega)
    rw [held.contents_eq]
    simp only [elementNums, List.range_succ, List.map_append, List.map_singleton, block]
    refine congrArg₂ List.append ?_ ?_
    · refine List.map_congr_left fun index member => read_congr fun offset inside => ?_
      have inRange := List.mem_range.mp member
      have before := element_before sizes inRange
      have place : sizes.octets index = (sizes.aligned * index : Nat) :=
        after.octets (by omega) (by omega)
      dsimp only
      rw [start, place, if_neg (by clear start place; omega)]
    · refine congrArg (fun element => [element]) (read_congr fun offset inside => ?_)
      dsimp only
      rw [start, if_pos (by clear start; omega), Int.add_comm, Int.add_sub_cancel, Int.toNat_natCast]

theorem Held.remove (index : Nat) : Held sizes (eah.remove sizes index) :=
  ⟨Nat.le_trans (Nat.sub_le _ _) held.stored, held.below, held.fits, held.backed⟩

theorem remove_contents (inside : index < eah.elementNums) :
    (eah.remove sizes index).contents sizes = (eah.contents sizes).eraseIdx index := by
  have whole := uaelementSize_le sizes
  have stored := held.stored
  have unwrapped : ∀ place ≤ eah.elementNums, sizes.octets place = (sizes.aligned * place : Nat) :=
    fun place inRange => held.octets (by omega) (by omega)
  have length := held.contents_length
  have removed := held.remove index
  apply List.ext_getElem
  · rw [List.length_eraseIdx_of_lt (length ▸ inside), removed.contents_length, length]
    rfl
  · intro place small _
    rw [removed.contents_length] at small
    have fewer : place < eah.elementNums - 1 := small
    have here := unwrapped place (by omega)
    have start := unwrapped index (by omega)
    rw [removed.contents_getElem, List.getElem_eraseIdx]
    split
    case isTrue before =>
      rw [held.contents_getElem]
      refine read_congr fun offset inside => ?_
      have before := element_before sizes before
      dsimp only [Esarray.remove]
      generalize sizes.octets = octets at *
      rw [if_neg (by omega)]
    case isFalse after =>
      rw [held.contents_getElem]
      refine read_congr fun offset inside => ?_
      have least := Nat.mul_le_mul_left sizes.aligned (Nat.not_lt.mp after)
      have most := element_before sizes fewer
      have count := unwrapped (eah.elementNums - (index + 1)) (by omega)
      have span : sizes.aligned * (eah.elementNums - 1) = sizes.aligned * index +
          sizes.aligned * (eah.elementNums - (index + 1)) := by
        rw [← Nat.mul_add,
          show eah.elementNums - 1 = index + (eah.elementNums - (index + 1)) by omega]
      have source := unwrapped (index + 1) (by omega)
      have next := unwrapped (place + 1) (by omega)
      rw [Nat.mul_succ] at source next
      dsimp only [Esarray.remove]
      generalize sizes.octets = octets at *
      have moved : octets place + offset - octets index + octets (index + 1) =
          octets (place + 1) + offset := by omega
      rw [← moved, if_pos (by omega)]

variable (granted : memory.isSome = true)
include granted

theorem delIndexNomutex_spec (unlocked : eah.dataLock = false) (index : Int) :
    (eah.delIndexNomutex sizes memory index).1.contents sizes =
        (if index < 0 then eah.contents sizes else (eah.contents sizes).eraseIdx index.toNat) ∧
      Held sizes (eah.delIndexNomutex sizes memory index).1 := by
  unfold delIndexNomutex
  split
  case isTrue missing =>
    refine ⟨?_, held⟩
    split
    · rfl
    · rw [List.eraseIdx_of_length_le]
      rw [held.contents_length]
      omega
  case isFalse present =>
    have inside : index.toNat < eah.elementNums := by omega
    rw [if_neg (by omega), ← remove_contents held inside]
    have after := held.remove index.toNat
    have lock : (eah.remove sizes index.toNat).dataLock = false := unlocked
    generalize eah.remove sizes index.toNat = removed at *
    obtain ⟨memory, rfl⟩ := Option.isSome_iff_exists.mp granted
    unfold shrink
    split
    · rename_i spare
      rw [if_neg (by simp [lock]), if_neg (by simp)]
      have fewer := Nat.sub_le removed.allocateNums sizes.expndUnit
      have less : Held sizes { removed with
          data := some memory, allocateNums := removed.allocateNums - sizes.expndUnit } :=
        ⟨by dsimp only; omega, Nat.le_trans fewer after.below,
          Nat.lt_of_le_of_lt (Nat.mul_le_mul_left _ fewer) after.fits, nofun⟩
      exact ⟨less.contents_eq.trans after.contents_eq.symm, less⟩
    · exact ⟨rfl, after⟩

theorem delAt_spec (index : Int) : (eah.delAt sizes memory index).1.contents sizes =
        (if !eah.dataLock then
          if index < 0 then eah.contents sizes else (eah.contents sizes).eraseIdx index.toNat
        else eah.contents sizes) ∧
      Held sizes (eah.delAt sizes memory index).1 := by
  unfold delAt
  cases lock : eah.dataLock with
  | true => exact ⟨rfl, held⟩
  | false => exact delIndexNomutex_spec held granted lock index

theorem delAt_found (index : Nat) : (eah.delAt sizes memory index).1.contents sizes =
        (if !eah.dataLock then (eah.contents sizes).eraseIdx index else eah.contents sizes) ∧
      Held sizes (eah.delAt sizes memory index).1 := by
  have spec := delAt_spec held granted (index : Int)
  have least : ¬ (index : Int) < 0 := by omega
  rwa [if_neg least, Int.toNat_natCast] at spec

end

theorem popAt_delAt (index : Nat) :
    (eah.popAt sizes memory index).1 = (eah.delAt sizes memory index).1 := by
  unfold popAt delAt
  split
  · rfl
  · split
    · rw [delIndexNomutex, if_pos (by omega)]
    · rfl

theorem call_spec (held : Held sizes eah) {call : EsarrayCall}
    (permitted : Permitted sizes (eah, list) (memory, call)) :
    (eah.call sizes memory call).1.contents sizes = (if eah.accepts sizes memory call then
          (call.onList sizes (eah.contents sizes) (eah.addresses sizes)).1
        else eah.contents sizes) ∧
      Held sizes (eah.call sizes memory call).1 := by
  cases call with
  | addEle ed => exact addEle_spec held permitted ed
  | popEle =>
    have spec := delAt_found held permitted 0
    rwa [List.eraseIdx_zero, ← popAt_delAt] at spec
  | popLastEle =>
    have spec := delAt_found held permitted (eah.elementNums - 1)
    have last := @List.eraseIdx_length_sub_one _ (eah.contents sizes)
    rw [held.contents_length] at last
    rwa [last, ← popAt_delAt] at spec
  | delEle ed =>
    have spec := delAt_found held permitted ((eah.contents sizes).idxOf (sizes.read ed))
    rwa [← List.erase_eq_eraseIdx_of_idxOf rfl] at spec
  | delIndex index => exact delAt_spec held permitted index
  | delPointer ed => exact delAt_found held permitted _
  | dataLock => exact ⟨rfl, held.stored, held.below, held.fits, held.backed⟩
  | dataUnlock => exact ⟨rfl, held.stored, held.below, held.fits, held.backed⟩

theorem call_popped (held : Held sizes eah) (memory : Option Int) (call : EsarrayCall) :
    (eah.call sizes memory call).2.2 = if eah.accepts sizes memory call then
      (call.onList sizes (eah.contents sizes) (eah.addresses sizes)).2 else none := by
  have pop {index : Nat} (inside : index = 0 ∨ index < eah.elementNums) :
      (eah.popAt sizes memory index).2.2 =
        if !eah.dataLock then (eah.contents sizes)[index]? else none := by
    unfold popAt
    rw [held.contents_eq]
    cases eah.dataLock with
    | true => rfl
    | false =>
      by_cases empty : eah.elementNums = 0
      · simp [empty]
      · have present : index < eah.elementNums := by omega
        simp [empty, present]
  cases call with
  | popEle =>
    rw [EsarrayCall.onList, List.head?_eq_getElem?]
    exact pop (.inl rfl)
  | popLastEle =>
    rw [EsarrayCall.onList, List.getLast?_eq_getElem?, held.contents_length]
    exact pop (by omega)
  | delEle => simp [Esarray.call, delAt, EsarrayCall.onList, apply_ite Prod.snd]
  | delIndex => simp [Esarray.call, delAt, EsarrayCall.onList, apply_ite Prod.snd]
  | delPointer => simp [Esarray.call, delAt, EsarrayCall.onList, apply_ite Prod.snd]
  | _ => simp [Esarray.call, EsarrayCall.onList]

private theorem call_still (memory : Option Int) (call : EsarrayCall) (locked : eah.dataLock = true) :
    (eah.call sizes memory call).1.data = eah.data := by
  cases call with
  | addEle ed =>
    simp only [Esarray.call, addEle, getNewele, locked, if_true]
    split
    · rfl
    · rename_i grown made
      split at made
      · cases made
      · split at made
        · cases made
        · cases made
          rfl
  | _ => simp [Esarray.call, popAt, delAt, locked]

private theorem held_init (initially : cleared.Expandable sizes memory) : Held sizes (init sizes memory) ∧
    (init sizes memory).contents sizes = [] := by
  have start : Held sizes cleared := ⟨le_rfl, Nat.zero_le _, by simp [cleared], fun _ => rfl⟩
  have held : Held sizes (init sizes memory) := by
    have spec := getNewele_spec start initially fun _ => 0
    split at spec
    · obtain ⟨grown, made, _, _, _, below, fits, backed⟩ := spec
      rw [init, made]
      exact ⟨Nat.zero_le _, below, fits, backed⟩
    · rw [init, spec]
      exact start
  exact ⟨held, held.contents_eq⟩

end Esarray

/-- As long as units are granted where there is room for them and no request to shrink is refused,
the array holds what the list does, with memory for no more than the maximum; a call pops what it
does of the list, and no element of a locked array moves. -/
theorem esarray_refines (initially : Esarray.cleared.Expandable sizes memory)
    (reachable : (esarraySystem sizes memory).Reachable (Esarray.Permitted sizes) (eah, list)) :
    eah.contents sizes = list ∧ eah.elementNums ≤ eah.allocateNums ∧
      eah.allocateNums ≤ sizes.maxElementNums ∧ ∀ memory call, (eah.call sizes memory call).2.2 =
          (if eah.accepts sizes memory call then
            (call.onList sizes list (eah.addresses sizes)).2 else none) ∧
        (eah.dataLock = true →
          (eah.call sizes memory call).1.address sizes = eah.address sizes) := by
  have kept : eah.contents sizes = list ∧ Esarray.Held sizes eah := by
    refine reachable.invariant
      (fun state => state.1.contents sizes = state.2 ∧ Esarray.Held sizes state.1) ?_ ?_
    · exact (Esarray.held_init initially).symm
    · rintro ⟨eah, list⟩ event _ ⟨same, held⟩ permitted ⟨⟩
      dsimp only at same
      subst same
      exact Esarray.call_spec held permitted
  obtain ⟨rfl, held⟩ := kept
  refine ⟨rfl, held.stored, held.below, fun memory call => ?_⟩
  refine ⟨Esarray.call_popped held memory call, fun locked => ?_⟩
  funext index
  rw [Esarray.address, Esarray.call_still memory call locked, Esarray.address]

def EsarraySizes.sample : EsarraySizes := ⟨1, 6, 3⟩

/-- Three elements are added, one in a locked array is not popped; two are then. -/
def sampleEvents (last : Option Int) : List (Option Int × EsarrayCall) :=
  [(some 64, .addEle fun _ => 1), (some 96, .addEle fun _ => 2), (some 64, .addEle fun _ => 3),
    (some 64, .dataLock), (some 64, .popEle), (some 64, .dataUnlock), (some 64, .delEle fun _ => 1),
    (last, .popLastEle)]

def checkPermitted (state : Esarray × List (List UInt8)) (event : Option Int × EsarrayCall) : Bool :=
  match event.2 with
  | .addEle _ => state.1.elementNums < 3
  | _ => event.1.isSome

theorem permitted_of_check (state : Esarray × List (List UInt8))
    (event : Option Int × EsarrayCall) (passed : checkPermitted state event = true) :
    Esarray.Permitted .sample state event := by
  unfold checkPermitted at passed
  unfold Esarray.Permitted
  split at passed
  · intro less _ _ _
    have room : state.1.elementNums + 1 ≤ 3 := less
    exact ⟨by decide, less, Nat.lt_of_le_of_lt (Nat.mul_le_mul_left 8 room) (by decide)⟩
  · exact passed

theorem esarray_refines_sample : ∃ eah list,
    (esarraySystem .sample (some 32)).Reachable (Esarray.Permitted .sample) (eah, list) ∧
      eah.allocateNums = 2 ∧ eah.contents .sample = [List.replicate 6 2] := by
  have ran : (((esarraySystem .sample (some 32)).restrict checkPermitted).run
      (.init .sample (some 32), []) (sampleEvents (some 64))).map
        (fun state => (state.1.allocateNums, state.2)) = some (2, [List.replicate 6 2]) := by
    decide +kernel
  obtain ⟨⟨eah, list⟩, finished, values⟩ := Option.map_eq_some_iff.mp ran
  obtain ⟨allocated, rfl⟩ := Prod.mk.inj values
  have reached := System.Reachable.of_restrict permitted_of_check (System.reachable_of_run finished)
  exact ⟨eah, _, reached, allocated,
    (esarray_refines (fun _ _ _ _ => ⟨by decide, by decide, by decide⟩) reached).1⟩

/-- The elements are lost with the block that is not shrunk. -/
theorem refused_shrink_loses : ¬ ∀ sizes memory eah list,
    (esarraySystem sizes memory).Reachable System.anyStep (eah, list) →
      eah.contents sizes = list := by
  intro always
  have ran : ((esarraySystem .sample (some 32)).run (.init .sample (some 32), [])
      (sampleEvents none)).map (fun state => (state.1.contents .sample, state.2)) =
        some ([], [List.replicate 6 2]) := by
    decide +kernel
  obtain ⟨⟨eah, list⟩, finished, values⟩ := Option.map_eq_some_iff.mp ran
  obtain ⟨empty, rfl⟩ := Prod.mk.inj values
  exact absurd (empty.symm.trans (always _ _ _ _ (System.reachable_of_run finished))) (by decide)

end EnetTsn.Unibase
