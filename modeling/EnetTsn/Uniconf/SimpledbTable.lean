import EnetTsn.Uniconf.KeySearch

namespace EnetTsn.Uniconf

open EnetTsn.Library

structure Entry where
  value : List UInt8
  locks : UInt8
  deriving DecidableEq, Repr

abbrev Table := List UInt8 → Option Entry

def PutValue.octets (value : PutValue) : List UInt8 := value.bytes.getD []

def Pools.room (pools : Pools ν) : Bool :=
  pools.dbdata && pools.kdata && pools.listnode.isSome

namespace Table

def append (table : Table) (kd : List UInt8) (entry : Entry) (value : PutValue) : Table × Int :=
  match value.bytes with
  | none => (table, 0)
  | some bytes =>
    if entry.value ++ bytes = [] then (table, -1)
    else (Function.update table kd (some { entry with value := entry.value ++ bytes }), 0)

/-- A put creates an entry, replaces its value or adds to it. It is refused for a key
without entry that may not be created, and for an entry that is held. -/
def put (table : Table) (kd : List UInt8) (value : PutValue) (flags : UInt8) (pools : Pools ν) :
    Table × Int :=
  match table kd with
  | none =>
    if flags &&& simpledbFlagCreate = 0 ∨ pools.room = false ∨ kd = [] then (table, -1)
    else (Function.update table kd (some ⟨value.octets, 0⟩), 0)
  | some entry =>
    if 0 < entry.locks then (table, -1)
    else if flags &&& simpledbFlagAppend ≠ 0 then table.append kd entry value
    else (Function.update table kd (some { entry with value := value.octets }), 0)

def get (table : Table) (kd : List UInt8) : Table × Answer :=
  match table kd with
  | none => (table, .result (-1))
  | some entry => (Function.update table kd (some { entry with locks := entry.locks + 1 }),
      .value (some entry.value))

def getRelease (table : Table) (kd : List UInt8) : Table × Int :=
  match table kd with
  | none => (table, -1)
  | some entry =>
    let released := if 0 < entry.locks then entry.locks - 1 else entry.locks
    (Function.update table kd (some { entry with locks := released }), 0)

def del (table : Table) (kd : List UInt8) : Table × Int :=
  match table kd with
  | none => (table, -1)
  | some entry =>
    if 0 < entry.locks then (table, -1) else (Function.update table kd none, 0)

end Table

structure Dbdata.Holds (dbd : Dbdata) (entry : Entry) : Prop where
  locks : dbd.refcounter = entry.locks
  size : dbd.vsize.toNat = entry.value.length
  octets : entry.value = [] ∨ ∃ rest, dbd.vdata = some (entry.value ++ rest)

/-- The value of this length can replace the one that is stored: a null pointer comes with
another length, and octets of another number are some, for which there is room. -/
def Replaceable (stored : List UInt8) (value : PutValue) (pools : Pools ν) : Prop :=
  match value.bytes with
  | none => value.vlen.toNat = stored.length → stored = []
  | some bytes => bytes.length ≠ stored.length → bytes ≠ [] ∧ pools.vdata = true

def Appendable (stored : List UInt8) (value : PutValue) (pools : Pools ν) : Prop :=
  ∀ bytes ∈ value.bytes, stored.length + bytes.length < 2 ^ 32 ∧
    (stored ++ bytes ≠ [] → pools.vdata = true)

section Values

variable {ν : Type} {pools : Pools ν} {dbd : Dbdata} {entry : Entry} {value : PutValue}

theorem Dbdata.Holds.read (holds : dbd.Holds entry) : dbd.read = some entry.value := by
  rw [Dbdata.read]
  by_cases empty : dbd.vsize = 0
  · have none : entry.value.length = 0 := by
      rw [← holds.size, empty]
      exact UInt32.toNat_zero
    rw [if_pos empty, List.length_eq_zero_iff.mp none]
  · rw [if_neg empty]
    rcases holds.octets with nothing | ⟨rest, block⟩
    · have zero : dbd.vsize.toNat = 0 := by
        rw [holds.size, nothing]
        exact List.length_nil
      exact absurd (UInt32.toNat_inj.mp zero) empty
    · simp only [block, holds.size]
      simp

theorem memcpy_start (octets rest bytes : List UInt8) (same : octets.length = bytes.length) :
    memcpy (octets ++ rest) 0 bytes = some (bytes ++ rest) := by
  simp [memcpy, ← same]

private theorem memcpy_end (stored block bytes : List UInt8) (kept : block.take stored.length = stored)
    (size : block.length = stored.length + bytes.length) :
    memcpy block stored.length bytes = some (stored ++ bytes) := by
  rw [memcpy, if_pos (Nat.le_of_eq size.symm), kept, ← size, List.drop_length]
  simp

theorem regetmem_given (block : Option (List UInt8)) (some_ : nsize ≠ 0)
    (given : pools.vdata = true) : ∃ grown, pools.regetmem block nsize = some grown ∧
      grown.length = nsize ∧ ∀ stored rest, block = some (stored ++ rest) →
        stored.length ≤ nsize → grown.take stored.length = stored := by
  refine ⟨_, if_neg (by simp [some_, given]), by simp, ?_⟩
  rintro stored rest rfl fits
  apply List.ext_getElem?
  intro index
  by_cases inside : index < stored.length
  · rw [List.getElem?_take_of_lt inside, List.getElem?_map,
      List.getElem?_range (Nat.lt_of_lt_of_le inside fits)]
    simp [List.getElem?_append_left inside, List.getElem?_eq_getElem inside]
  · rw [List.getElem?_eq_none (by simp; omega), List.getElem?_eq_none (by omega)]

theorem regetmem_nothing (block : Option (List UInt8)) : pools.regetmem block 0 = none :=
  if_pos (.inl rfl)

theorem Dbdata.holds_replaced (dbd : Dbdata) (bytes rest : List UInt8)
    (locks : dbd.refcounter = entry.locks) (sized : bytes.length = dbd.vsize.toNat) :
    Dbdata.Holds { dbd with vdata := some (bytes ++ rest) } { entry with value := bytes } where
  locks := locks
  size := sized.symm
  octets := .inr ⟨rest, rfl⟩

theorem copyValue_null (dbd : Dbdata) (null : value.bytes = none) :
    Simpledb.copyValue dbd value = some dbd := by
  rw [Simpledb.copyValue, null]
  cases dbd.vdata <;> rfl

private theorem copyValue_nothing (dbd : Dbdata) (zero : value.vlen = 0) :
    Simpledb.copyValue dbd value = some dbd := by
  rw [Simpledb.copyValue]
  split
  · exact if_pos zero
  · rfl

theorem nil_of_size {octets : List UInt8} {size : UInt32} (length : octets.length = size.toNat)
    (zero : size = 0) : octets = [] := by
  apply List.length_eq_zero_iff.mp
  rw [length, zero]
  exact UInt32.toNat_zero

variable (holds : dbd.Holds entry)
include holds

theorem Dbdata.Holds.replace (replaceable : Replaceable entry.value value pools) :
    ∃ resized stored, Simpledb.resizeValue dbd value pools = .ok resized ∧
      Simpledb.copyValue resized value = some stored ∧ stored.kd = dbd.kd ∧
      stored.Holds { entry with value := value.octets } := by
  rw [Replaceable] at replaceable
  by_cases same : dbd.vsize = value.vlen
  · -- a value of the same length is written over the old one
    have fits : Simpledb.resizeValue dbd value pools = .ok dbd := if_pos same
    have stored : entry.value.length = value.vlen.toNat := by
      rw [← same]
      exact holds.size.symm
    refine ⟨dbd, ?_⟩
    cases given : value.bytes with
    | none =>
      rw [given] at replaceable
      have empty : entry.value = [] := replaceable stored.symm
      refine ⟨dbd, fits, copyValue_null dbd given, rfl, ?_⟩
      rw [PutValue.octets, given, Option.getD_none, ← empty]
      exact holds
    | some octets =>
      have length : octets.length = value.vlen.toNat := value.sized octets given
      by_cases zero : value.vlen = 0
      · have nothing : octets = entry.value :=
          (nil_of_size length zero).trans (nil_of_size stored zero).symm
        refine ⟨dbd, fits, copyValue_nothing dbd zero, rfl, ?_⟩
        rw [PutValue.octets, given, Option.getD_some, nothing]
        exact holds
      · obtain ⟨rest, block⟩ : ∃ rest, dbd.vdata = some (entry.value ++ rest) := by
          apply holds.octets.resolve_left
          intro empty
          rw [empty] at stored
          exact zero (UInt32.toNat_inj.mp stored.symm)
        refine ⟨{ dbd with vdata := some (octets ++ rest) }, fits, ?_, rfl, ?_⟩
        · rw [Simpledb.copyValue, block, given]
          simp only [if_neg zero, memcpy_start _ rest octets (stored.trans length.symm),
            Option.map_some]
        · rw [PutValue.octets, given, Option.getD_some]
          apply dbd.holds_replaced octets rest holds.locks
          rw [length, same]
  · cases given : value.bytes with
    | none =>
      refine ⟨{ dbd with vsize := 0 }, { dbd with vsize := 0 }, ?_, copyValue_null _ given, rfl, ?_⟩
      · rw [Simpledb.resizeValue, if_neg same, given]
      · rw [PutValue.octets, given, Option.getD_none]
        exact {
          locks := holds.locks
          size := UInt32.toNat_zero
          octets := .inl rfl }
    | some octets =>
      rw [given] at replaceable
      have length : octets.length = value.vlen.toNat := value.sized octets given
      have other : octets.length ≠ entry.value.length := by
        rw [length, ← holds.size]
        exact fun equal => same (UInt32.toNat_inj.mp equal.symm)
      obtain ⟨filled, room⟩ := replaceable other
      have zero : value.vlen ≠ 0 := fun zero => filled (nil_of_size length zero)
      have positive : value.vlen.toNat ≠ 0 := fun equal => zero (UInt32.toNat_inj.mp equal)
      obtain ⟨block, allocated, size, _⟩ := regetmem_given dbd.vdata positive room
      have copied : memcpy block 0 octets = some (octets ++ []) := by
        have whole := memcpy_start block [] octets (size.trans length.symm)
        rwa [List.append_nil] at whole
      refine ⟨{ dbd with vdata := some block, vsize := value.vlen },
        { dbd with vdata := some (octets ++ []), vsize := value.vlen }, ?_, ?_, rfl, ?_⟩
      · rw [Simpledb.resizeValue, if_neg same, given]
        simp only [allocated]
      · simp only [Simpledb.copyValue, given, if_neg zero, copied, Option.map_some]
      · rw [PutValue.octets, given, Option.getD_some]
        exact Dbdata.holds_replaced { dbd with vsize := value.vlen } octets [] holds.locks length

theorem Dbdata.Holds.append (given : value.bytes = some bytes)
    (appendable : Appendable entry.value value pools) (added : entry.value ++ bytes ≠ []) :
    ∃ block, pools.regetmem dbd.vdata (dbd.vsize + value.vlen).toNat = some block ∧
      memcpy block dbd.vsize.toNat bytes = some (entry.value ++ bytes) ∧
      Dbdata.Holds { dbd with
        vdata := some (entry.value ++ bytes)
        vsize := dbd.vsize + value.vlen } { entry with value := entry.value ++ bytes } := by
  obtain ⟨bounded, room⟩ := appendable bytes given
  have length : bytes.length = value.vlen.toNat := value.sized bytes given
  have total : (dbd.vsize + value.vlen).toNat = (entry.value ++ bytes).length := by
    rw [UInt32.toNat_add, holds.size, ← length, List.length_append]
    exact Nat.mod_eq_of_lt bounded
  have positive : (entry.value ++ bytes).length ≠ 0 := mt List.length_eq_zero_iff.mp added
  obtain ⟨block, allocated, size, kept⟩ := regetmem_given dbd.vdata positive (room added)
  have start : block.take entry.value.length = entry.value := by
    rcases holds.octets with empty | ⟨rest, old⟩
    · rw [empty]
      exact List.take_zero
    · exact kept entry.value rest old (by simp)
  refine ⟨block, total ▸ allocated, ?_, ?_⟩
  · rw [holds.size]
    exact memcpy_end entry.value block bytes start (size.trans List.length_append)
  · exact {
      locks := holds.locks
      size := total
      octets := .inr ⟨[], by simp⟩ }

theorem Dbdata.Holds.without (empty : entry.value = []) :
    Dbdata.Holds { dbd with vdata := none } entry where
  locks := holds.locks
  size := holds.size
  octets := .inl empty

end Values

end EnetTsn.Uniconf
