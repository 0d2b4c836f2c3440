import EnetTsn.Uniconf.NameRegisters

namespace EnetTsn.Uniconf

open EnetTsn.Library

/-- A register in the database: its names have numbers below the next one, each another. -/
structure Numbered (db : ItemDb) (register : NameRegister) : Prop where
  octet : ∀ value, db.find register.numberKey = some value → ∃ nameid, value = [nameid]
  bound : (db.nextNameid register).toNat ≤ 254
  named : ∀ entry ∈ db.entries, register.head <+: entry.1 →
    ∃ name nameid, name.Fits ∧ entry = (nameKey register name, [nameid]) ∧
      nameid.toNat < (db.nextNameid register).toNat
  distinct : ∀ first ∈ db.entries, ∀ second ∈ db.entries, register.head <+: first.1 →
    register.head <+: second.1 → first.2 = second.2 → first = second

section Steps

variable {db : ItemDb} {register other : NameRegister} {name : RegisterName} {room : RegisterRoom}
  {key value : List UInt8}

theorem nextNameid_put (different : register.numberKey ≠ key) :
    ItemDb.nextNameid (db.put key value) register = db.nextNameid register := by
  rw [ItemDb.nextNameid, SortedMap.find_put, if_neg different]
  rfl

theorem nextNameid_number (nameid : UInt8) :
    ItemDb.nextNameid (db.put register.numberKey [nameid]) register = nameid := by
  rw [ItemDb.nextNameid, SortedMap.find_put, if_pos rfl]
  rfl

section

variable (numbered : Numbered db register)
include numbered

theorem Numbered.put (different : register.numberKey ≠ key)
    (outside : ¬ register.head <+: key) : Numbered (db.put key value) register := by
  have inside : ∀ entry ∈ (db.put key value).entries, register.head <+: entry.1 →
      entry ∈ db.entries := by
    intro entry member named
    rcases SortedMap.mem_put.mp member with rfl | ⟨old, _⟩
    · exact absurd named outside
    · exact old
  constructor
  · intro value' found
    rw [SortedMap.find_put, if_neg different] at found
    exact numbered.octet value' found
  · rw [nextNameid_put different]
    exact numbered.bound
  · intro entry member named
    rw [nextNameid_put different]
    exact numbered.named entry (inside entry member named) named
  · intro first member second member' named named'
    exact numbered.distinct first (inside first member named) second (inside second member' named')
      named named'

theorem Numbered.number
    (next : nameid.toNat = (db.nextNameid register).toNat + 1) (bound : nameid.toNat ≤ 254) :
    Numbered (db.put register.numberKey [nameid]) register := by
  have inside : ∀ entry ∈ (db.put register.numberKey [nameid]).entries,
      register.head <+: entry.1 → entry ∈ db.entries := by
    intro entry member named
    rcases SortedMap.mem_put.mp member with rfl | ⟨old, _⟩
    · exact absurd named head_numberKey
    · exact old
  constructor
  · intro value found
    rw [SortedMap.find_put, if_pos rfl] at found
    exact ⟨nameid, (Option.some.inj found).symm⟩
  · rw [nextNameid_number]
    exact bound
  · intro entry member named
    obtain ⟨name, id, fits, same, less⟩ := numbered.named entry (inside entry member named) named
    rw [nextNameid_number, next]
    exact ⟨name, id, fits, same, by omega⟩
  · intro first member second member' named named'
    exact numbered.distinct first (inside first member named) second (inside second member' named')
      named named'

theorem Numbered.add (fits : name.Fits)
    (fresh : ∀ entry ∈ db.entries, register.head <+: entry.1 → entry.2 ≠ [nameid])
    (less : nameid.toNat < (db.nextNameid register).toNat) :
    Numbered (db.put (nameKey register name) [nameid]) register := by
  have different : register.numberKey ≠ nameKey register name := (numberKey_ne_nameKey fits).symm
  constructor
  · intro value found
    rw [SortedMap.find_put, if_neg different] at found
    exact numbered.octet value found
  · rw [nextNameid_put different]
    exact numbered.bound
  · intro entry member named
    rw [nextNameid_put different]
    rcases SortedMap.mem_put.mp member with rfl | ⟨old, _⟩
    · exact ⟨name, nameid, fits, rfl, less⟩
    · exact numbered.named entry old named
  · intro first member second member' named named' same
    rcases SortedMap.mem_put.mp member with rfl | ⟨old, _⟩
    · rcases SortedMap.mem_put.mp member' with rfl | ⟨old', _⟩
      · rfl
      · exact absurd same.symm (fresh second old' named')
    · rcases SortedMap.mem_put.mp member' with rfl | ⟨old', _⟩
      · exact absurd same (fresh first old named)
      · exact numbered.distinct first old second old' named named' same

theorem setgetIdByName_cases (name : RegisterName) (room : RegisterRoom) :
    (∃ nameid : UInt8, name.Fits ∧ (nameKey register name, [nameid]) ∈ db.entries ∧
      db.setgetIdByName name register true room = (db, (nameid.toNat : Int))) ∨
    db.setgetIdByName name register true room = (db, -1) ∨
    ∃ nameid : UInt8, nameid.toNat = (db.nextNameid register).toNat + 1 ∧ nameid.toNat ≤ 254 ∧
      (db.setgetIdByName name register true room = (db.put register.numberKey [nameid], -1) ∨
        name.Fits ∧ db.find (nameKey register name) = none ∧
          db.setgetIdByName name register true room =
            ((db.put register.numberKey [nameid]).put (nameKey register name)
              [db.nextNameid register], ((db.nextNameid register).toNat : Int))) := by
  have next : ∀ bound : db.nextNameid register + 1 ≠ 255,
      (db.nextNameid register + 1).toNat = (db.nextNameid register).toNat + 1 ∧
        (db.nextNameid register + 1).toNat ≤ 254 := by
    intro bound
    have sum := UInt8.toNat_add (db.nextNameid register) 1
    have least := numbered.bound
    rw [ne_eq, ← UInt8.toNat_inj] at bound
    change (db.nextNameid register + 1).toNat = ((db.nextNameid register).toNat + 1) % 256 at sum
    change ¬ _ = 255 at bound
    omega
  rw [ItemDb.setgetIdByName]
  cases found : db.readName register name with
  | some value =>
    left
    rw [ItemDb.readName, Option.ite_none_left_eq_some] at found
    obtain ⟨present, found⟩ := found
    have fits : name.Fits := by
      by_contra long
      exact present (nameKey_long long)
    obtain ⟨_, nameid, _, same, _⟩ := numbered.named _ (SortedMap.find_eq_some.mp found)
      ((head_nameKey fits).mpr rfl)
    cases (Prod.mk.inj same).2
    exact ⟨nameid, fits, SortedMap.find_eq_some.mp found, rfl⟩
  | none =>
    right
    rw [if_pos rfl, ItemDb.addNextNameid]
    dsimp only
    by_cases full : db.nextNameid register + 1 = 255
    · left
      rw [if_pos full]
      rfl
    · obtain ⟨sum, bound⟩ := next full
      rw [if_neg full]
      cases room.number with
      | false => exact .inl rfl
      | true =>
        have number : ((db.nextNameid register + 1).toNat : Int) - 1 =
            (db.nextNameid register).toNat := by omega
        refine .inr ⟨db.nextNameid register + 1, sum, bound, ?_⟩
        rw [if_pos rfl]
        rw [number, if_neg (by omega)]
        by_cases refused : nameKey register name = [] ∨ room.name = false
        · rw [if_pos refused]
          exact .inl rfl
        · obtain ⟨present, _⟩ := not_or.mp refused
          have fits : name.Fits := by
            by_contra long
            exact present (nameKey_long long)
          rw [ItemDb.readName, if_neg present] at found
          rw [if_neg refused, Int.toNat_natCast, UInt8.ofNat_toNat]
          exact .inr ⟨fits, found, rfl⟩

end

theorem setgetIdByName_found (fits : name.Fits)
    (there : (nameKey register name, [nameid]) ∈ db.entries) (reg : Bool) (room : RegisterRoom) :
    db.setgetIdByName name register reg room = (db, (nameid.toNat : Int)) := by
  have present : nameKey register name ≠ [] := by
    rw [nameKey_fits fits]
    exact List.cons_ne_nil _ _
  have found : db.readName register name = some [nameid] := by
    rw [ItemDb.readName, if_neg present, SortedMap.find_eq_some.mpr there]
  rw [ItemDb.setgetIdByName, found]
  rfl

private theorem getEnum_found (fits : name.Fits) (there : (nameKey register name, [nameid]) ∈ db.entries) :
    db.getEnum register name = nameid := by
  rw [ItemDb.getEnum, setgetIdByName_found fits there]
  rw [if_neg (by omega), Int.toNat_natCast, UInt8.ofNat_toNat]

theorem getString_found (numbered : Numbered db register) (fits : name.Fits)
    (there : (nameKey register name, [nameid]) ∈ db.entries) (enough : name.octets.length < nsize) :
    db.getString true register nameid nsize = some name.octets := by
  have inside : (nameKey register name, [nameid]) ∈
      db.within (register.head ++ [0]) (register.head ++ [255]) :=
    SortedMap.mem_within.mpr ⟨there, nameKey_between fits⟩
  have first : (db.within (register.head ++ [0]) (register.head ++ [255])).find?
      (fun entry => entry.2 = [nameid]) = some (nameKey register name, [nameid]) := by
    cases found : (db.within (register.head ++ [0]) (register.head ++ [255])).find?
        (fun entry => entry.2 = [nameid]) with
    | none => exact absurd (decide_eq_true rfl) (List.find?_eq_none.mp found _ inside)
    | some entry =>
      have same : entry.2 = [nameid] := by simpa using List.find?_some found
      obtain ⟨member, above, below⟩ := SortedMap.mem_within.mp (List.mem_of_find?_eq_some found)
      rw [numbered.distinct entry member _ there (head_of_between above below)
        ((head_nameKey fits).mpr rfl) same]
  rw [ItemDb.getString, ItemDb.getNameById, if_pos rfl, first, Option.map_some, Option.map_some,
    name_of_nameKey fits, List.take_of_length_le (by omega)]

structure SameRegister (db db' : ItemDb) (register : NameRegister) : Prop where
  number : db'.nextNameid register = db.nextNameid register
  getEnum : ∀ name, db'.getEnum register name = db.getEnum register name
  getString : ∀ range nameid nsize,
    db'.getString range register nameid nsize = db.getString range register nameid nsize

theorem SameRegister.trans (first : SameRegister db db' register)
    (second : SameRegister db' db'' register) : SameRegister db db'' register where
  number := second.number.trans first.number
  getEnum name := (second.getEnum name).trans (first.getEnum name)
  getString range nameid nsize :=
    (second.getString range nameid nsize).trans (first.getString range nameid nsize)

theorem sameRegister_put (different : register.numberKey ≠ key)
    (outside : ¬ register.head <+: key) :
    SameRegister db (db.put key value) register where
  number := nextNameid_put different
  getEnum name := by
    have read : ItemDb.readName (db.put key value) register name = db.readName register name := by
      rw [ItemDb.readName, ItemDb.readName]
      by_cases fits : name.Fits
      · have other : nameKey register name ≠ key := by
          rintro rfl
          exact outside ((head_nameKey fits).mpr rfl)
        rw [SortedMap.find_put, if_neg other]
      · rw [if_pos (nameKey_long fits), if_pos (nameKey_long fits)]
    rw [ItemDb.getEnum, ItemDb.getEnum, ItemDb.setgetIdByName, ItemDb.setgetIdByName, read]
    cases db.readName register name <;> rfl
  getString range nameid nsize := by
    have apart : keyBefore key (register.head ++ [0]) ∨ keyBefore (register.head ++ [255]) key := by
      by_contra inside
      obtain ⟨above, below⟩ := not_or.mp inside
      exact outside (head_of_between above below)
    rw [ItemDb.getString, ItemDb.getString, ItemDb.getNameById, ItemDb.getNameById,
      SortedMap.within_put apart]

theorem sameRegister_setget (numbered : Numbered db register) (different : other ≠ register)
    (name : RegisterName) (room : RegisterRoom) :
    SameRegister db (db.setgetIdByName name register true room).1 other ∧
      (Numbered db other → Numbered (db.setgetIdByName name register true room).1 other) := by
  have same : SameRegister db db other := ⟨rfl, fun _ => rfl, fun _ _ _ => rfl⟩
  have number : other.numberKey ≠ register.numberKey := fun equal =>
    different (numberKey_injective equal)
  have outside {name : RegisterName} (fits : name.Fits) : ¬ other.head <+: nameKey register name :=
    mt (head_nameKey fits).mp different
  rcases setgetIdByName_cases numbered name room with
    ⟨_, _, _, out⟩ | out | ⟨nameid, _, _, out | ⟨fits, _, out⟩⟩
  · rw [out]
    exact ⟨same, id⟩
  · rw [out]
    exact ⟨same, id⟩
  · rw [out]
    exact ⟨sameRegister_put number head_numberKey, fun kept => kept.put number head_numberKey⟩
  · rw [out]
    have apart : other.numberKey ≠ nameKey register name := (numberKey_ne_nameKey fits).symm
    exact ⟨(sameRegister_put number head_numberKey).trans (sameRegister_put apart (outside fits)),
      fun kept => (kept.put number head_numberKey).put apart (outside fits)⟩

theorem Numbered.setget (numbered : Numbered db register) (name : RegisterName)
    (room : RegisterRoom) : Numbered (db.setgetIdByName name register true room).1 register := by
  rcases setgetIdByName_cases numbered name room with
    ⟨_, _, _, out⟩ | out | ⟨nameid, next, bound, out | ⟨fits, _, out⟩⟩
  · rw [out]
    exact numbered
  · rw [out]
    exact numbered
  · rw [out]
    exact numbered.number next bound
  · rw [out]
    refine (numbered.number next bound).add fits ?_ ?_
    · intro entry member named same
      rcases SortedMap.mem_put.mp member with rfl | ⟨old, _⟩
      · exact head_numberKey named
      · obtain ⟨_, nameid', _, rfl, less⟩ := numbered.named entry old named
        cases same
        exact lt_irrefl _ less
    · rw [nextNameid_number, next]
      exact Nat.lt_succ_self _

end Steps

structure NameRegistration where
  register : NameRegister
  name : RegisterName
  room : RegisterRoom

structure RegisteredName where
  register : NameRegister
  name : RegisterName
  id : Int
  deriving DecidableEq

structure NameRun where
  db : ItemDb
  registered : List RegisteredName

structure OtherItems where
  db : ItemDb
  unregistered : ∀ entry ∈ db.entries, ∀ register : NameRegister,
    ¬ [register.root, register.ap] <+: entry.1

def registerSystem (items : OtherItems) : System NameRun NameRegistration where
  start := { db := items.db, registered := [] }
  step run event :=
    let (db, res) := run.db.setEnum event.register event.name event.room
    some {
      db
      registered := if 0 ≤ res then ⟨event.register, event.name, res⟩ :: run.registered
        else run.registered }

structure Registered (run : NameRun) : Prop where
  getEnum : ∀ entry ∈ run.registered,
    ((run.db.getEnum entry.register entry.name).toNat : Int) = entry.id
  getString : ∀ entry ∈ run.registered, ∀ nsize, entry.name.octets.length < nsize →
    run.db.getString true entry.register (UInt8.ofNat entry.id.toNat) nsize =
      some entry.name.octets
  again : ∀ entry ∈ run.registered, ∀ room,
    run.db.setEnum entry.register entry.name room = (run.db, entry.id)
  distinct : ∀ first ∈ run.registered, ∀ second ∈ run.registered,
    first.register = second.register → first.name ≠ second.name → first.id ≠ second.id
  readOnly : ∀ first ∈ run.registered, ∀ second ∈ run.registered,
    first.register = .mod → second.register = .mod →
      UInt8.ofNat first.id.toNat ≠ UInt8.ofNat second.id.toNat ||| xl4DataRo

def NameRegistration.Apart (db : ItemDb) (event : NameRegistration) : Prop :=
  ∀ register, register ≠ event.register →
    SameRegister db (db.setEnum event.register event.name event.room).1 register

/-- The registration is none of run time data, and a module that has no number yet gets one
without the bit for the read-only form. -/
def RegistrationPermitted (run : NameRun) (event : NameRegistration) : Prop :=
  event.register ≠ .rtime ∧
    (event.register = .mod → (run.db.readName .mod event.name).isSome ∨
      (run.db.nextNameid .mod).toNat < 128)

structure RegisteredName.Stored (db : ItemDb) (entry : RegisteredName) (nameid : UInt8) : Prop where
  other : entry.register ≠ .rtime
  fits : entry.name.Fits
  id : entry.id = nameid.toNat
  there : (nameKey entry.register entry.name, [nameid]) ∈ db.entries

structure NameRun.Ordered (run : NameRun) : Prop where
  numbered : ∀ register, Numbered run.db register
  readWrite : ∀ name : RegisterName, name.Fits → ∀ nameid,
    (nameKey .mod name, [nameid]) ∈ run.db.entries → nameid.toNat < 128
  stored : ∀ entry ∈ run.registered, ∃ nameid, entry.Stored run.db nameid

theorem setEnum_eq (other : register ≠ .rtime) (db : ItemDb) (name : RegisterName)
    (room : RegisterRoom) :
    db.setEnum register name room = db.setgetIdByName name register true room := by
  cases register with
  | mod | extmod => rfl
  | rtime => exact absurd rfl other

theorem OtherItems.numbered (items : OtherItems) (register : NameRegister) :
    Numbered items.db register ∧ items.db.nextNameid register = 0 := by
  have noNumber : items.db.find register.numberKey = none := by
    refine SortedMap.find_eq_none.mpr fun value member => ?_
    exact items.unregistered _ member register ⟨_, rfl⟩
  have noName : ∀ entry ∈ items.db.entries, ¬ register.head <+: entry.1 := by
    intro entry member named
    refine items.unregistered entry member register (List.IsPrefix.trans ?_ named)
    exact ⟨[255], rfl⟩
  have zero : items.db.nextNameid register = 0 := by
    rw [ItemDb.nextNameid, noNumber]
  refine ⟨⟨?_, ?_, ?_, ?_⟩, zero⟩
  · intro value found
    rw [noNumber] at found
    cases found
  · rw [zero]
    decide
  · exact fun entry member named => absurd named (noName entry member)
  · exact fun first member _ _ named _ => absurd named (noName first member)

section Runs

variable {run : NameRun} {register : NameRegister} {name : RegisterName} {room : RegisterRoom}

section

variable (numbered : Numbered db register)
include numbered

private theorem kept_setget (fits : second.Fits) (there : (nameKey other second, value) ∈ db.entries) :
    (nameKey other second, value) ∈ (db.setgetIdByName name register true room).1.entries := by
  have number (nameid : UInt8) : (nameKey other second, value) ∈
      (db.put register.numberKey [nameid]).entries :=
    SortedMap.mem_put.mpr (.inr ⟨there, numberKey_ne_nameKey fits⟩)
  rcases setgetIdByName_cases numbered name room with
    ⟨_, _, _, out⟩ | out | ⟨nameid, _, _, out | ⟨_, missing, out⟩⟩
  · rw [out]
    exact there
  · rw [out]
    exact there
  · rw [out]
    exact number nameid
  · rw [out]
    refine SortedMap.mem_put.mpr (.inr ⟨number nameid, fun same => ?_⟩)
    exact SortedMap.find_eq_none.mp missing value (same ▸ there)

theorem stored_setget (success : 0 ≤ (db.setgetIdByName name register true room).2) :
    ∃ nameid : UInt8, name.Fits ∧ (db.setgetIdByName name register true room).2 = nameid.toNat ∧
      (nameKey register name, [nameid]) ∈ (db.setgetIdByName name register true room).1.entries ∧
      ((nameKey register name, [nameid]) ∈ db.entries ∨
        db.readName register name = none ∧ nameid = db.nextNameid register) := by
  rcases setgetIdByName_cases numbered name room with
    ⟨nameid, fits, there, out⟩ | out | ⟨nameid, _, _, out | ⟨fits, missing, out⟩⟩
  · rw [out]
    exact ⟨nameid, fits, rfl, there, .inl there⟩
  · rw [out] at success
    exact absurd (show (0 : Int) ≤ -1 from success) (by decide)
  · rw [out] at success
    exact absurd (show (0 : Int) ≤ -1 from success) (by decide)
  · have unread : db.readName register name = none := by
      exact ite_eq_left_iff.mpr fun _ => missing
    rw [out]
    exact ⟨db.nextNameid register, fits, rfl, SortedMap.mem_put.mpr (.inl rfl), .inr ⟨unread, rfl⟩⟩

theorem named_setget (fits : second.Fits) (there : (nameKey other second, [nameid]) ∈
      (db.setgetIdByName name register true room).1.entries) :
    (nameKey other second, [nameid]) ∈ db.entries ∨
      other = register ∧ db.readName register name = none ∧ nameid = db.nextNameid register := by
  have number {value : List UInt8} (member : (nameKey other second, [nameid]) ∈
      (db.put register.numberKey value).entries) :
      (nameKey other second, [nameid]) ∈ db.entries := by
    rcases SortedMap.mem_put.mp member with new | ⟨old, _⟩
    · exact absurd (Prod.mk.inj new).1 (numberKey_ne_nameKey fits)
    · exact old
  rcases setgetIdByName_cases numbered name room with
    ⟨_, _, _, out⟩ | out | ⟨_, _, _, out | ⟨fits', missing, out⟩⟩
  · rw [out] at there
    exact .inl there
  · rw [out] at there
    exact .inl there
  · rw [out] at there
    exact .inl (number there)
  · rw [out] at there
    rcases SortedMap.mem_put.mp there with new | ⟨old, _⟩
    · obtain ⟨key, value⟩ := Prod.mk.inj new
      refine .inr ⟨(nameKey_injective fits fits' key).1, ?_, List.singleton_inj.mp value⟩
      exact ite_eq_left_iff.mpr fun _ => missing
    · exact .inl (number old)

end

theorem NameRun.Ordered.start (items : OtherItems) :
    NameRun.Ordered { db := items.db, registered := [] } where
  numbered register := (items.numbered register).1
  readWrite name fits nameid there := by
    refine absurd ?_ (items.unregistered _ there .mod)
    rw [nameKey_fits fits]
    exact ⟨_, rfl⟩
  stored entry none := absurd none List.not_mem_nil

theorem NameRun.Ordered.step (ordered : run.Ordered) (permitted : RegistrationPermitted run event)
    (taken : (registerSystem items).step run event = some next) : next.Ordered := by
  have numbered := ordered.numbered event.register
  simp only [registerSystem, setEnum_eq permitted.1, Option.some.injEq] at taken
  subst taken
  constructor
  · intro register
    by_cases same : register = event.register
    · rw [same]
      exact numbered.setget event.name event.room
    · exact (sameRegister_setget numbered same event.name event.room).2 (ordered.numbered register)
  · intro name fits nameid there
    rcases named_setget numbered fits there with old | ⟨register, unread, rfl⟩
    · exact ordered.readWrite name fits nameid old
    · rcases permitted.2 register.symm with found | less
      · rw [← register] at unread
        rw [unread] at found
        cases found
      · rw [← register]
        exact less
  · have kept : ∀ entry ∈ run.registered, ∃ nameid, entry.Stored
        (run.db.setgetIdByName event.name event.register true event.room).1 nameid := by
      intro entry member
      obtain ⟨nameid, stored⟩ := ordered.stored entry member
      exact ⟨nameid, stored.other, stored.fits, stored.id,
        kept_setget numbered stored.fits stored.there⟩
    intro entry member
    split at member
    · rename_i success
      rcases List.mem_cons.mp member with rfl | old
      · obtain ⟨nameid, fits, id, there, _⟩ := stored_setget numbered success
        exact ⟨nameid, permitted.1, fits, id, there⟩
      · exact kept entry old
    · exact kept entry member

private theorem readOnly_ge (nameid : UInt8) : 128 ≤ (nameid ||| xl4DataRo).toNat := by
  exact Nat.right_le_or

theorem NameRun.Ordered.registered (ordered : run.Ordered) : Registered run where
  getEnum entry member := by
    obtain ⟨nameid, stored⟩ := ordered.stored entry member
    rw [getEnum_found stored.fits stored.there, stored.id]
  getString entry member nsize enough := by
    obtain ⟨nameid, stored⟩ := ordered.stored entry member
    rw [stored.id, Int.toNat_natCast, UInt8.ofNat_toNat]
    exact getString_found (ordered.numbered _) stored.fits stored.there enough
  again entry member room := by
    obtain ⟨nameid, stored⟩ := ordered.stored entry member
    rw [setEnum_eq stored.other, setgetIdByName_found stored.fits stored.there, stored.id]
  distinct first member second member' register different same := by
    obtain ⟨nameid, stored⟩ := ordered.stored first member
    obtain ⟨nameid', stored'⟩ := ordered.stored second member'
    have there' := stored'.there
    rw [← register] at there'
    have equal : nameid = nameid' := by
      rw [stored.id, stored'.id, Nat.cast_inj, UInt8.toNat_inj] at same
      exact same
    have entries := (ordered.numbered first.register).distinct _ stored.there _ there'
      ((head_nameKey stored.fits).mpr rfl) ((head_nameKey stored'.fits).mpr rfl) (by rw [equal])
    exact different (nameKey_injective stored.fits stored'.fits (Prod.mk.inj entries).1).2
  readOnly first member second _ module _ same := by
    obtain ⟨nameid, stored⟩ := ordered.stored first member
    have there := stored.there
    rw [module] at there
    have less := ordered.readWrite _ stored.fits nameid there
    rw [stored.id, Int.toNat_natCast, UInt8.ofNat_toNat] at same
    have least := readOnly_ge (UInt8.ofNat second.id.toNat)
    rw [← same] at least
    omega

/-- **Names and numbers of the registers belong together** in every run that registers no run time
data and gives modules numbers without the bit for the read-only form. -/
theorem names_registered {items : OtherItems}
    (reachable : (registerSystem items).Reachable RegistrationPermitted run) :
    Registered run ∧ ∀ event, RegistrationPermitted run event → event.Apart run.db := by
  have ordered : run.Ordered := reachable.invariant NameRun.Ordered (.start items)
    fun _ _ _ ordered permitted taken => ordered.step permitted taken
  refine ⟨ordered.registered, fun event permitted register different => ?_⟩
  rw [setEnum_eq permitted.1]
  exact (sameRegister_setget (ordered.numbered _) different event.name event.room).1

end Runs

instance (run : NameRun) (event : NameRegistration) : Decidable (RegistrationPermitted run event) :=
  inferInstanceAs (Decidable (_ ∧ (_ → _)))

def noItems : OtherItems where
  db := .empty
  unregistered _ member := absurd member List.not_mem_nil

def letterName (octet : UInt8) (letter : octet ≠ 0) : RegisterName where
  octets := [octet]
  clean member := letter (List.mem_singleton.mp member).symm
  short := by simp

def registerLetter (register : NameRegister) (octet : UInt8) (letter : octet ≠ 0) :
    NameRegistration where
  register := register
  name := letterName octet letter
  room := ⟨true, true⟩

/-- Two modules, and an extension module with the name of the second. -/
theorem names_registered_three : ∃ run : NameRun,
    run.registered.map RegisteredName.id = [0, 1, 0] ∧ Registered run ∧
      ∀ event, RegistrationPermitted run event → event.Apart run.db := by
  have evaluated : (((registerSystem noItems).restrict fun run event =>
      decide (RegistrationPermitted run event)).run (registerSystem noItems).start
      [registerLetter .mod 97 (by decide), registerLetter .mod 98 (by decide),
        registerLetter .extmod 98 (by decide)]).map (fun run =>
          run.registered.map RegisteredName.id) = some [0, 1, 0] := by decide +kernel
  obtain ⟨run, finished, ids⟩ := Option.map_eq_some_iff.mp evaluated
  exact ⟨run, ids, names_registered
    ((System.reachable_of_run finished).of_restrict fun _ _ => of_decide_eq_true)⟩

/-- The name of run time data is registered as one of an extension module. -/
theorem rtime_not_registered : ¬ ∀ (items : OtherItems) (run : NameRun),
    (registerSystem items).Reachable System.anyStep run →
      Registered run ∧ ∀ event : NameRegistration, event.Apart run.db := by
  intro always
  have evaluated : ((registerSystem noItems).run (registerSystem noItems).start
      [registerLetter .rtime 97 (by decide)]).map (fun run =>
        (run.registered, run.db.getEnum .rtime (letterName 97 (by decide)))) =
      some ([⟨.rtime, letterName 97 (by decide), 0⟩], 0xff) := by decide +kernel
  obtain ⟨run, finished, found⟩ := Option.map_eq_some_iff.mp evaluated
  obtain ⟨registered, missing⟩ := Prod.mk.inj found
  have agrees := (always noItems run (System.reachable_of_run finished)).1.getEnum
    ⟨.rtime, letterName 97 (by decide), 0⟩ (registered ▸ List.mem_singleton_self _)
  rw [missing] at agrees
  exact absurd agrees (by decide)

end EnetTsn.Uniconf
