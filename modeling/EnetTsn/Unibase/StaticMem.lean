import EnetTsn.Library.Run
import EnetTsn.Library.Fragments
import Mathlib.Algebra.Ring.Int.Defs

namespace EnetTsn.Unibase

open EnetTsn.Library

/-- A static array of `fragnum` fragments of `fragsize` octets each, as `UB_SD_GETMEM_DEF`
defines it. The size of a fragment is a `uint16_t`, an offset in the array is an `int`. -/
structure StaticArray where
  fragnum : Nat
  fragsize : Nat
  fragsize_pos : 0 < fragsize
  fragsize_lt : fragsize < 2 ^ 16
  size_lt : fragnum * fragsize < 2 ^ 31

/-- The busy sizes and the octets of the array. What lies before and behind them in the
memory has the other indices. -/
structure StaticMem where
  busysizes : Int → UInt16
  mem : Int → UInt8

def StaticMem.initial : StaticMem where
  busysizes _ := 0
  mem _ := 0

/-- What an `int` keeps of a number. -/
def toInt (value : Int) : Int := value.bmod (2 ^ 32)

namespace StaticArray

variable (array : StaticArray)

/-- The loop over the fragments: from where to where there are as many free ones in a row
as the size needs. -/
def findFragments (busysizes : Int → UInt16) (size : Int) : Nat → Int → Int → Int → Option (Int × Int)
  | 0, _, _, _ => none
  | fuel + 1, i, pi, np =>
    if i < array.fragnum then
      let free := busysizes i = 0
      let pi' := if free then (if pi = -1 then i else pi) else -1
      let np' := if free then np + 1 else 0
      let i' := if free then i + 1 else i + (busysizes i).toNat
      if size ≤ np' * array.fragsize then some (pi', i')
      else findFragments busysizes size fuel i' pi' np'
    else none

/-- `ub_static_getmem`. The address is the distance from the start of the array. -/
def getmem (size : Nat) (state : StaticMem) : Option Int × StaticMem :=
  if size = 0 then (none, state)
  else match array.findFragments state.busysizes (toInt size) array.fragnum 0 (-1) 0 with
    | none => (none, state)
    | some (pi, i) => (some (pi * array.fragsize),
        { state with busysizes := Function.update state.busysizes pi (UInt16.ofInt (i - pi)) })

def fragmentAt (dp : Int) : Option Int :=
  let cpi := dp.tdiv array.fragsize
  if dp < 0 ∨ array.fragnum ≤ cpi ∨ cpi * array.fragsize ≠ dp then none else some cpi

/-- `ub_static_relmem`. -/
def relmem (p : Option Int) (state : StaticMem) : StaticMem :=
  match p.bind array.fragmentAt with
  | none => state
  | some cpi =>
    if state.busysizes cpi = 0 then state
    else { state with busysizes := Function.update state.busysizes cpi 0 }

def memmove (np p : Int) (count : Nat) (mem : Int → UInt8) : Int → UInt8 := fun address =>
  if np ≤ address ∧ address < np + count then mem (p + (address - np)) else mem address

/-- How many fragments a size takes, on a `uint16_t`. -/
def newBusy (nsize : Nat) : UInt16 :=
  UInt16.ofInt ((toInt (toInt nsize + array.fragsize - 1)).tdiv array.fragsize)

/-- `ub_static_regetmem`. -/
def regetmem (p : Option Int) (nsize : Nat) (state : StaticMem) : Option Int × StaticMem :=
  match p with
  | none => array.getmem nsize state
  | some dp =>
    if nsize = 0 then (none, array.relmem p state)
    else match array.fragmentAt dp with
      | none => (none, state)
      | some cpi =>
        let cbusy := state.busysizes cpi
        let nbusy := array.newBusy nsize
        if nbusy ≤ cbusy then
          (some dp, { state with busysizes := Function.update state.busysizes cpi nbusy })
        else
          let freed := { state with busysizes := Function.update state.busysizes cpi 0 }
          match array.getmem nsize freed with
          | (none, _) =>
            -- keep it busy with the original size
            (none, { state with busysizes := Function.update freed.busysizes cpi cbusy })
          | (some np, taken) =>
            if np = dp then (some np, taken)
            else (some np, { taken with
              mem := memmove np dp (cbusy.toNat * array.fragsize) taken.mem })

end StaticArray

inductive MemCall where
  | getmem (size : Nat)
  | regetmem (p : Option Int) (nsize : Nat)
  | relmem (p : Option Int)
  | write (address : Int) (octet : UInt8)

structure Block where
  p : Int
  size : Nat
deriving DecidableEq

/-- The allocator, the blocks that its clients hold, and the address that it gave last. -/
structure Allocation where
  state : StaticMem
  blocks : List Block
  result : Option Int

def releaseBlock (p : Option Int) (blocks : List Block) : List Block :=
  blocks.filter fun block => some block.p ≠ p

def grantBlock (result : Option Int) (size : Nat) (blocks : List Block) : List Block :=
  match result with
  | none => blocks
  | some p => ⟨p, size⟩ :: blocks

/-- The distance of two addresses is an `int`. -/
def InReach (p : Option Int) : Prop := ∀ dp ∈ p, -2 ^ 31 ≤ dp ∧ dp < 2 ^ 31

instance : (p : Option Int) → Decidable (InReach p)
  | none => isTrue nofun
  | some dp => decidable_of_iff (-2 ^ 31 ≤ dp ∧ dp < 2 ^ 31) (by simp [InReach])

/-- One call of a client, or a write into a block that it holds. A pointer can be any
address, also one that is no block or no block any longer. -/
def StaticArray.step (array : StaticArray) (allocation : Allocation) :
    MemCall → Option Allocation
  | .getmem size =>
    let (result, state) := array.getmem size allocation.state
    some ⟨state, grantBlock result size allocation.blocks, result⟩
  | .regetmem p nsize =>
    if InReach p then
      let (result, state) := array.regetmem p nsize allocation.state
      if nsize = 0 ∨ result ≠ none then
        some ⟨state, grantBlock result nsize (releaseBlock p allocation.blocks), result⟩
      else some ⟨state, allocation.blocks, result⟩
    else none
  | .relmem p =>
    if InReach p then
      some ⟨array.relmem p allocation.state, releaseBlock p allocation.blocks, none⟩
    else none
  | .write address octet =>
    if ∃ block ∈ allocation.blocks, block.p ≤ address ∧ address < block.p + block.size then
      some { allocation with state := { allocation.state with
        mem := Function.update allocation.state.mem address octet } }
    else none

def staticMemSystem (array : StaticArray) : System Allocation MemCall where
  start := ⟨.initial, [], none⟩
  step := array.step

end EnetTsn.Unibase
