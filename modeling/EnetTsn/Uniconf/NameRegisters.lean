import EnetTsn.Uniconf.Notice

namespace EnetTsn.Uniconf

open EnetTsn.Library

abbrev ItemDb := SortedMap keyBefore (List UInt8)

/-- The registers: `UC_YANGMOD_REG`, `XL4_EXTMOD_REG` and `XL4_RTIME_REG`. -/
inductive NameRegister where
  | mod
  | extmod
  | rtime
  deriving DecidableEq

namespace NameRegister

def ap : NameRegister → UInt8
  | .mod => 5
  | .extmod => 6
  | .rtime => 8

/-- The root of the register: `XL4_DATA_RW` or `XL4_DATA_RO`. -/
def root : NameRegister → UInt8
  | .mod | .extmod => 0
  | .rtime => xl4DataRo

/-- The key of the next number, with `REG_NEXTID`. -/
def numberKey (register : NameRegister) : List UInt8 := [register.root, register.ap, 0, 255]

def head (register : NameRegister) : List UInt8 := [register.root, register.ap, 255]

end NameRegister

structure RegisterName where
  octets : List UInt8
  clean : 0 ∉ octets
  short : octets.length ≤ 254
  deriving DecidableEq

namespace RegisterName

def valueKey (name : RegisterName) : ValueKey where
  octets := name.octets ++ [0]
  short := by
    have short := name.short
    rw [List.length_append, List.length_singleton]
    omega

end RegisterName

def nameKey (register : NameRegister) (name : RegisterName) : List UInt8 :=
  (yangDbCreateKey none (some [register.root, register.ap, 255, 255]) [name.valueKey]).getD []

structure RegisterRoom where
  number : Bool
  name : Bool

namespace ItemDb

/-- `get_next_nameid` without `add`. An item of a register has one octet. -/
def nextNameid (db : ItemDb) (register : NameRegister) : UInt8 :=
  match db.find register.numberKey with
  | some value => value.headD 0
  | none => 0

/-- `get_next_nameid` with `add`. -/
def addNextNameid (db : ItemDb) (register : NameRegister) (stored : Bool) : ItemDb × Int :=
  let nameid := db.nextNameid register + 1
  if nameid = 255 then (db, -1)
  else if stored then (db.put register.numberKey [nameid], (nameid.toNat : Int) - 1)
  else (db, -1)

/-- The value of a name in `setget_id_by_name`. -/
def readName (db : ItemDb) (register : NameRegister) (name : RegisterName) : Option (List UInt8) :=
  if nameKey register name = [] then none else db.find (nameKey register name)

def setgetIdByName (db : ItemDb) (name : RegisterName) (register : NameRegister) (reg : Bool)
    (room : RegisterRoom) : ItemDb × Int :=
  match db.readName register name with
  | some value => (db, (value.headD 0).toNat)
  | none =>
    if reg then
      let (db, nameid) := db.addNextNameid register room.number
      if nameid < 0 then (db, -1)
      else if nameKey register name = [] ∨ room.name = false then (db, -1)
      else (db.put (nameKey register name) [UInt8.ofNat nameid.toNat], nameid)
    else (db, -1)

/-- `get_name_by_id`, when there is memory for a range or not. The name is the C string behind
its size in the key. -/
def getNameById (db : ItemDb) (range : Bool) (nameid : UInt8) (register : NameRegister) :
    Option (List UInt8) :=
  if range then
    ((db.within (register.head ++ [0]) (register.head ++ [255])).find? fun entry =>
      entry.2 = [nameid]).map fun entry => (entry.1.drop 4).takeWhile (· ≠ 0)
  else none

/-- `yang_node_mod_set_enum`, `yang_node_extmod_set_enum` and `yang_node_rtime_set_enum`. -/
def setEnum (db : ItemDb) (register : NameRegister) (name : RegisterName) (room : RegisterRoom) :
    ItemDb × Int :=
  match register with
  | .mod => db.setgetIdByName name .mod true room
  | .extmod => db.setgetIdByName name .extmod true room
  | .rtime => db.setgetIdByName name .extmod true room

/-- `yang_node_mod_get_enum`, `yang_node_extmod_get_enum` and `yang_node_rtime_get_enum`. -/
def getEnum (db : ItemDb) (register : NameRegister) (name : RegisterName) : UInt8 :=
  let res := (db.setgetIdByName name register false ⟨false, false⟩).2
  if res < 0 then 0xff else UInt8.ofNat res.toNat

/-- `yang_node_mod_get_string`, `yang_node_extmod_get_string` and `yang_node_rtime_get_string`,
with what they write into a buffer of a size. -/
def getString (db : ItemDb) (range : Bool) (register : NameRegister) (nameid : UInt8)
    (nsize : Nat) : Option (List UInt8) :=
  (db.getNameById range nameid register).map fun astr => astr.take (nsize - 1)

end ItemDb

def RegisterName.Fits (name : RegisterName) : Prop := name.octets.length + 5 ≤ ucMaxKeysize

section Keys

variable {register other : NameRegister} {name second : RegisterName} {key low high : List UInt8}

theorem nameKey_fits (fits : name.Fits) : nameKey register name =
    register.head ++ UInt8.ofNat (name.octets.length + 1) :: (name.octets ++ [0]) := by
  have path : pathLength [register.root, register.ap, 255, 255] = some 2 := by
    cases register <;> rfl
  have size : kvsSize [name.valueKey] = name.octets.length + 2 := by
    simp [kvsSize, RegisterName.valueKey]
  have room : ¬ (0 + (2 + 1) + kvsSize [name.valueKey] = 0 ∨
      ucMaxKeysize < 0 + (2 + 1) + kvsSize [name.valueKey]) := by
    unfold RegisterName.Fits at fits
    omega
  rw [nameKey, yangDbCreateKey]
  simp only [Option.map_none, Option.getD_none, Option.map_some, path, Option.getD_some,
    Option.bind_eq_bind, Option.bind_some]
  rw [if_neg room]
  simp [encodeKvs, ValueKey.kss, RegisterName.valueKey, NameRegister.head]

theorem nameKey_long (long : ¬ name.Fits) : nameKey register name = [] := by
  have path : pathLength [register.root, register.ap, 255, 255] = some 2 := by
    cases register <;> rfl
  have size : kvsSize [name.valueKey] = name.octets.length + 2 := by
    simp [kvsSize, RegisterName.valueKey]
  have room : 0 + (2 + 1) + kvsSize [name.valueKey] = 0 ∨
      ucMaxKeysize < 0 + (2 + 1) + kvsSize [name.valueKey] := by
    unfold RegisterName.Fits at long
    omega
  rw [nameKey, yangDbCreateKey]
  simp only [Option.map_none, Option.getD_none, Option.map_some, path, Option.getD_some,
    Option.bind_eq_bind, Option.bind_some]
  rw [if_pos room]
  rfl

theorem nameKey_injective (fits : name.Fits) (fits' : second.Fits)
    (same : nameKey register name = nameKey other second) : register = other ∧ name = second := by
  rw [nameKey_fits fits, nameKey_fits fits'] at same
  simp only [NameRegister.head, List.cons_append, List.nil_append, List.cons.injEq,
    List.append_cancel_right_eq] at same
  obtain ⟨-, ap, -, -, octets⟩ := same
  refine ⟨?_, ?_⟩
  · cases register <;> cases other <;> first | rfl | exact absurd ap (by decide)
  · cases name
    cases second
    congr

theorem between_cons (above : ¬ keyBefore key (octet :: low))
    (below : ¬ keyBefore (octet :: high) key) :
    ∃ rest, key = octet :: rest ∧ ¬ keyBefore rest low ∧ ¬ keyBefore high rest := by
  unfold keyBefore at *
  cases key with
  | nil =>
    rw [keycmp_nil_cons] at above
    exact absurd (by decide) above
  | cons first rest =>
    rw [keycmp_cons_cons] at above below
    by_cases same : first = octet
    · subst same
      rw [if_pos rfl] at above below
      exact ⟨rest, rfl, above, below⟩
    · rw [if_neg same] at above
      rw [if_neg (Ne.symm same)] at below
      have notLess : ¬ first < octet := fun less => above (by rw [if_pos less]; decide)
      have notMore : ¬ octet < first := fun more => below (by rw [if_pos more]; decide)
      exact absurd (UInt8.le_antisymm (UInt8.not_lt.mp notMore) (UInt8.not_lt.mp notLess)) same

theorem head_of_between (above : ¬ keyBefore key (register.head ++ [0]))
    (below : ¬ keyBefore (register.head ++ [255]) key) : register.head <+: key := by
  obtain ⟨key, rfl, above, below⟩ := between_cons above below
  obtain ⟨key, rfl, above, below⟩ := between_cons above below
  obtain ⟨key, rfl, above, below⟩ := between_cons above below
  exact ⟨key, rfl⟩

private theorem keyBefore_cons (octet : UInt8) :
    keyBefore (octet :: low) (octet :: high) ↔ keyBefore low high := by
  rw [keyBefore, keycmp_cons_cons, if_pos rfl]
  rfl

theorem keyBefore_head (register : NameRegister) :
    keyBefore (register.head ++ low) (register.head ++ high) ↔ keyBefore low high := by
  simp only [NameRegister.head, List.cons_append, List.nil_append, keyBefore_cons]

/-- The range of `get_name_by_id` has the keys of all names that make a key. -/
theorem nameKey_between (fits : name.Fits) :
    ¬ keyBefore (nameKey register name) (register.head ++ [0]) ∧
      ¬ keyBefore (register.head ++ [255]) (nameKey register name) := by
  rw [nameKey_fits fits, keyBefore_head, keyBefore_head]
  unfold RegisterName.Fits ucMaxKeysize at fits
  have size : (UInt8.ofNat (name.octets.length + 1)).toNat = name.octets.length + 1 := by
    rw [UInt8.toNat_ofNat']
    omega
  generalize UInt8.ofNat (name.octets.length + 1) = kss at size
  have positive : kss ≠ 0 ∧ ¬ kss < 0 := by
    rw [UInt8.lt_iff_toNat_lt, ne_eq, ← UInt8.toNat_inj, size]
    exact ⟨Nat.succ_ne_zero _, Nat.not_lt_zero _⟩
  have small : 255 ≠ kss ∧ ¬ 255 < kss := by
    rw [UInt8.lt_iff_toNat_lt, ne_eq, ← UInt8.toNat_inj, size]
    change ¬ 255 = _ ∧ ¬ 255 < _
    omega
  unfold keyBefore
  rw [keycmp_cons_cons, if_neg positive.1, if_neg positive.2, keycmp_cons_cons, if_neg small.1,
    if_neg small.2]
  decide

theorem name_of_nameKey (fits : name.Fits) :
    ((nameKey register name).drop 4).takeWhile (· ≠ 0) = name.octets := by
  have clean : ∀ octet ∈ name.octets, decide (octet ≠ 0) = true := by
    intro octet member
    rw [decide_eq_true_iff]
    rintro rfl
    exact name.clean member
  rw [nameKey_fits fits]
  change (name.octets ++ [0]).takeWhile _ = _
  rw [List.takeWhile_append_of_pos clean]
  exact List.append_nil _

theorem numberKey_ne_nameKey (fits : name.Fits) : nameKey register name ≠ other.numberKey := by
  rw [nameKey_fits fits, NameRegister.numberKey]
  intro same
  exact absurd (List.cons.inj (List.cons.inj (List.cons.inj same).2).2).1 (by decide)

theorem head_numberKey : ¬ register.head <+: other.numberKey := by
  rintro ⟨rest, same⟩
  exact absurd (List.cons.inj (List.cons.inj (List.cons.inj same).2).2).1 (by decide)

theorem head_nameKey (fits : name.Fits) : register.head <+: nameKey other name ↔
    register = other := by
  rw [nameKey_fits fits]
  constructor
  · rintro ⟨rest, same⟩
    have ap := (List.cons.inj (List.cons.inj same).2).1
    cases register <;> cases other <;> first | rfl | exact absurd ap (by decide)
  · rintro rfl
    exact List.prefix_append _ _

theorem numberKey_injective (same : register.numberKey = other.numberKey) : register = other := by
  cases register <;> cases other <;> first | rfl | exact absurd same (by decide)

end Keys

end EnetTsn.Uniconf
