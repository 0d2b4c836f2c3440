import EnetTsn.Uniconf.SimpledbShape
import EnetTsn.Uniconf.SimpledbTable

namespace EnetTsn.Uniconf

open EnetTsn.Library

variable {ν : Type} [DecidableEq ν] {db created : Simpledb ν} {nodes first second : List ν}
  {table : Table} {kd : List UInt8} {node cnode : ν} {dbd : Dbdata} {entry : Entry}
  {value : PutValue} {flags : UInt8} {pools : Pools ν}

/-- A store stands for a map: its items hold the entries, and each entry has an item. -/
structure Represents (db : Simpledb ν) (nodes : List ν) (table : Table) : Prop where
  sorted : db.Sorted nodes
  allocated : ∀ node, (db.heap node).isSome = (db.data node).isSome
  holds : ∀ node ∈ nodes, ∀ dbd, db.data node = some dbd →
    ∃ entry, table dbd.kd = some entry ∧ dbd.Holds entry
  reached : ∀ kd entry, table kd = some entry → ∃ node ∈ nodes, db.key node = kd

namespace Represents

section

variable (represents : Represents db nodes table)
include represents

omit [DecidableEq ν] in
theorem shaped : db.Shaped nodes where
  sorted := represents.sorted
  allocated := represents.allocated

omit [DecidableEq ν] in
theorem key_injective (member : node ∈ nodes)
    (otherMember : other ∈ nodes) (same : db.key node = db.key other) : node = other := by
  have found := represents.sorted.binSearch_found member same
  rw [represents.sorted.binSearch_found otherMember rfl] at found
  simpa using found.symm

omit [DecidableEq ν] in
theorem item (member : node ∈ nodes) :
    ∃ dbd entry, db.data node = some dbd ∧ db.key node = dbd.kd ∧ table dbd.kd = some entry ∧
      dbd.Holds entry := by
  obtain ⟨dbd, found⟩ := Option.isSome_iff_exists.mp (represents.sorted.stored node member)
  obtain ⟨entry, there, holds⟩ := represents.holds node member dbd found
  exact ⟨dbd, entry, found, key_eq found, there, holds⟩

omit [DecidableEq ν] in
theorem absent (missing : table kd = none) : ∀ node ∈ nodes, db.key node ≠ kd := by
  rintro node member rfl
  obtain ⟨dbd, entry, _, same, there, _⟩ := represents.item member
  rw [same, there] at missing
  cases missing

omit [DecidableEq ν] in
theorem search (there : table kd = some entry) :
    ∃ node dbd, node ∈ nodes ∧ db.binSearch kd = some (0, some node) ∧
      db.data node = some dbd ∧ dbd.kd = kd ∧ dbd.Holds entry := by
  obtain ⟨node, member, same⟩ := represents.reached kd entry there
  obtain ⟨dbd, stored, found, key, has, holds⟩ := represents.item member
  have equal : dbd.kd = kd := key.symm.trans same
  rw [equal, there] at has
  cases has
  exact ⟨node, dbd, member, represents.sorted.binSearch_found member same, found, equal, holds⟩

theorem setData (member : node ∈ nodes)
    (found : db.data node = some dbd) (changed : Dbdata) (key : changed.kd = dbd.kd)
    (holds : changed.Holds entry) :
    Represents (db.setData node changed) nodes (Function.update table dbd.kd (some entry)) := by
  have shaped := represents.shaped.setData found key
  have keys := key_setData_same found key
  have data : ∀ other, other ≠ node → (db.setData node changed).data other = db.data other :=
    fun other different => Function.update_of_ne different _ _
  have own : (db.setData node changed).data node = some changed := Function.update_self _ _ _
  exact {
    sorted := shaped.sorted
    allocated := shaped.allocated
    holds := by
      intro other inside otherData there
      by_cases same : other = node
      · rw [same, own] at there
        cases there
        refine ⟨entry, ?_, holds⟩
        rw [key]
        exact Function.update_self _ _ _
      · rw [data other same] at there
        obtain ⟨otherEntry, has, otherHolds⟩ := represents.holds other inside otherData there
        refine ⟨otherEntry, ?_, otherHolds⟩
        rw [Function.update_of_ne _, has]
        intro sameKey
        apply same
        apply represents.key_injective inside member
        rw [key_eq there, key_eq found, sameKey]
    reached := by
      intro kd otherEntry there
      simp only [keys]
      by_cases same : kd = dbd.kd
      · exact ⟨node, member, (key_eq found).trans same.symm⟩
      · rw [Function.update_of_ne same] at there
        exact represents.reached kd otherEntry there }

end

theorem newItem_holds (kd : List UInt8) : (newItem kd).Holds ⟨[], 0⟩ where
  locks := rfl
  size := UInt32.toNat_zero
  octets := .inl rfl

theorem insert (represents : Represents db (first ++ second) table) (missing : table kd = none)
    (free : db.heap cnode = none)
    (inserted : Inserted (Function.update db.heap cnode (some ⟨none, none⟩)) result.1 result.2
      first cnode second) (gap : db.Gap kd first second) :
    Represents ((db.relinked result).setData cnode (newItem kd)) (first ++ cnode :: second)
      (Function.update table kd (some ⟨[], 0⟩)) := by
  obtain ⟨shaped, keys⟩ := represents.shaped.insert free inserted gap
  have data : ∀ other, other ≠ cnode →
      ((db.relinked result).setData cnode (newItem kd)).data other = db.data other :=
    fun other different => Function.update_of_ne different _ _
  have own : ((db.relinked result).setData cnode (newItem kd)).data cnode = some (newItem kd) :=
    Function.update_self _ _ _
  have members : ∀ other ∈ first ++ cnode :: second, other ≠ cnode → other ∈ first ++ second := by
    intro other member different
    simp only [List.mem_append, List.mem_cons] at member ⊢
    exact member.imp_right fun rest => rest.resolve_left different
  exact {
    sorted := shaped.sorted
    allocated := shaped.allocated
    holds := by
      intro other member dbd there
      by_cases same : other = cnode
      · rw [same, own] at there
        cases there
        exact ⟨⟨[], 0⟩, Function.update_self _ _ _, newItem_holds kd⟩
      · rw [data other same] at there
        have inside := members other member same
        obtain ⟨otherEntry, has, holds⟩ := represents.holds other inside dbd there
        refine ⟨otherEntry, ?_, holds⟩
        rw [Function.update_of_ne _, has]
        rintro rfl
        rw [missing] at has
        cases has
    reached := by
      intro other otherEntry there
      by_cases same : other = kd
      · exact ⟨cnode, by simp, (key_eq own).trans same.symm⟩
      · rw [Function.update_of_ne same] at there
        obtain ⟨node, member, key⟩ := represents.reached other otherEntry there
        refine ⟨node, ?_, (keys node member).trans key⟩
        simp only [List.mem_append, List.mem_cons] at member ⊢
        exact member.imp_right .inr }

variable (represents : Represents db nodes table)
include represents

/-- `onedb_put` makes an item for a key that has none, in the node that it is given. -/
theorem insertItem (missing : table kd = none) (free : db.heap cnode = none) :
    ∃ res found created nodes', db.binSearch kd = some (res, found) ∧ res ≠ 0 ∧
      db.insertItem res found cnode kd = some created ∧ created.data cnode = some (newItem kd) ∧
      cnode ∈ nodes' ∧ Represents created nodes' (Function.update table kd (some ⟨[], 0⟩)) := by
  obtain ⟨res, found, result, first, second, searched, different, created, rfl, gap, inserted⟩ :=
    represents.shaped.insertItem (represents.absent missing) free
  exact ⟨res, found, _, first ++ cnode :: second, searched, different, created,
    Function.update_self _ _ _, List.mem_append_right _ List.mem_cons_self,
    represents.insert missing free inserted gap⟩

variable (member : node ∈ nodes)
include member

variable (found : db.data node = some dbd)
include found

theorem remove : ∃ unlinked nodes', db.dblist.unlink db.heap node = some unlinked ∧ Represents {
        heap := Function.update unlinked.1 node none
        data := Function.update db.data node none
        dblist := unlinked.2 } nodes' (Function.update table dbd.kd none) := by
  obtain ⟨first, second, rfl⟩ := List.append_of_mem member
  obtain ⟨unlinked, result, shaped, data⟩ := represents.shaped.remove
  have sub : (first ++ second).Sublist (first ++ node :: second) :=
    List.Sublist.append_left (List.sublist_cons_self _ _) _
  have different : ∀ other ∈ first ++ second, other ≠ node := by
    rintro other inside rfl
    exact (List.nodup_cons.mp (List.nodup_middle.mp represents.sorted.linked.nodup)).1 inside
  have keys : ∀ other ∈ first ++ second, (db.without node unlinked).key other = db.key other := by
    intro other inside
    rw [Simpledb.key, Simpledb.key, data other inside]
  refine ⟨unlinked, first ++ second, result, ?_⟩
  change Represents (db.without node unlinked) _ _
  exact {
    sorted := shaped.sorted
    allocated := shaped.allocated
    holds := by
      intro other inside otherData there
      rw [data other inside] at there
      obtain ⟨entry, has, holds⟩ := represents.holds other (sub.subset inside) otherData there
      refine ⟨entry, ?_, holds⟩
      rw [Function.update_of_ne _, has]
      intro sameKey
      apply different other inside
      apply represents.key_injective (sub.subset inside) member
      rw [key_eq there, key_eq found, sameKey]
    reached := by
      intro kd entry there
      by_cases same : kd = dbd.kd
      · rw [same, Function.update_self] at there
        cases there
      · rw [Function.update_of_ne same] at there
        obtain ⟨other, inside, key⟩ := represents.reached kd entry there
        have apart : other ≠ node := by
          rintro rfl
          exact same (key.symm.trans (key_eq found))
        have kept : other ∈ first ++ second := by
          simp only [List.mem_append, List.mem_cons] at inside ⊢
          exact inside.imp_right fun rest => rest.resolve_left apart
        exact ⟨other, kept, (keys other kept).trans key⟩ }

theorem storeValue (holds : dbd.Holds entry) (replaceable : Replaceable entry.value value pools) :
    ∃ after, db.storeValue node value pools = some (after, 0) ∧ Represents after nodes
        (Function.update table dbd.kd (some { entry with value := value.octets })) := by
  obtain ⟨resized, stored, fits, copied, key, holdsStored⟩ := holds.replace replaceable
  refine ⟨db.setData node stored, ?_, represents.setData member found stored key holdsStored⟩
  rw [Simpledb.storeValue, found]
  simp only [Option.bind_eq_bind, Option.bind_some, fits, copied]

theorem appendValue (holds : dbd.Holds entry) (there : table dbd.kd = some entry)
    (appendable : Appendable entry.value value pools) :
    ∃ after, db.appendValue node dbd value pools =
        some (after, (table.append dbd.kd entry value).2) ∧
      Represents after nodes (table.append dbd.kd entry value).1 := by
  rw [Table.append, Simpledb.appendValue]
  cases given : value.bytes with
  | none => exact ⟨db, rfl, represents⟩
  | some bytes =>
    by_cases nothing : entry.value ++ bytes = []
    · obtain ⟨empty, none⟩ := List.append_eq_nil_iff.mp nothing
      have zero : (dbd.vsize + value.vlen).toNat = 0 := by
        have length : value.vlen.toNat = 0 := by
          rw [← value.sized bytes given, none]
          exact List.length_nil
        have size : dbd.vsize.toNat = 0 := by
          rw [holds.size, empty]
          exact List.length_nil
        rw [UInt32.toNat_add, size, length]
      have same : Function.update table dbd.kd (some entry) = table := by
        rw [← there, Function.update_eq_self]
      simp only [zero, regetmem_nothing, nothing, if_true]
      have after := represents.setData member found { dbd with vdata := Option.none } rfl
        (holds.without empty)
      rw [same] at after
      exact ⟨_, rfl, after⟩
    · obtain ⟨block, allocated, copied, grown⟩ := holds.append given appendable nothing
      simp only [allocated, copied, Option.bind_eq_bind, Option.bind_some, nothing, if_false]
      exact ⟨_, rfl, represents.setData member found { dbd with
        vdata := some (entry.value ++ bytes)
        vsize := dbd.vsize + value.vlen } rfl grown⟩

end Represents

/-- The put meets no defect, given what the map has for its key: where it creates or replaces
a value, the value is replaceable, and where it adds to one, the value is appendable. -/
def PutPermitted (found : Option Entry) (kd : List UInt8) (value : PutValue) (flags : UInt8)
    (pools : Pools ν) : Prop :=
  match found with
  | none => flags &&& simpledbFlagCreate ≠ 0 → pools.room = true → kd ≠ [] →
      Replaceable [] value pools
  | some entry => entry.locks = 0 →
      if flags &&& simpledbFlagAppend ≠ 0 then Appendable entry.value value pools
      else Replaceable entry.value value pools

namespace Represents

variable (represents : Represents db nodes table)
include represents

theorem put (fresh : ∀ cnode ∈ pools.listnode, db.heap cnode = none)
    (permitted : PutPermitted (table kd) kd value flags pools) :
    ∃ after nodes', db.onedbPut kd value flags pools =
        some (after, (table.put kd value flags pools).2) ∧
      Represents after nodes' (table.put kd value flags pools).1 := by
  rw [Table.put, Simpledb.onedbPut]
  cases there : table kd with
  | none =>
    rw [there] at permitted
    obtain ⟨res, found, searched, different, _⟩ :=
      represents.sorted.binSearch_missing (represents.absent there)
    have unchanged : ∃ after nodes', some (db, -1) = some (after, -1) ∧
        Represents after nodes' table := ⟨db, nodes, rfl, represents⟩
    simp only [searched, Option.bind_eq_bind, Option.bind_some, ne_eq, different,
      not_false_eq_true, if_true]
    by_cases creates : flags &&& simpledbFlagCreate = 0
    · simpa only [creates, if_true, true_or] using unchanged
    simp only [creates, if_false, false_or]
    by_cases noItem : pools.dbdata = false
    · have noRoom : pools.room = false := by
        rw [Pools.room, noItem, Bool.false_and, Bool.false_and]
      simpa only [noItem, noRoom, if_true, true_or] using unchanged
    have hasItem : pools.dbdata = true := eq_true_of_ne_false noItem
    simp only [hasItem, Bool.true_eq_false, if_false]
    by_cases noKey : pools.kdata = false ∨ kd.length = 0
    · have refused : pools.room = false ∨ kd = [] := by
        apply noKey.imp
        · intro none
          rw [Pools.room, none, Bool.and_false, Bool.false_and]
        · exact List.length_eq_zero_iff.mp
      simpa only [noKey, refused, if_true] using unchanged
    simp only [noKey, if_false]
    cases given : pools.listnode with
    | none =>
      have noRoom : pools.room = false := by
        rw [Pools.room, given, Option.isSome_none, Bool.and_false]
      simpa only [noRoom, true_or, if_true] using unchanged
    | some cnode =>
      obtain ⟨hasKey, filled⟩ := not_or.mp noKey
      have room : pools.room = true := by
        rw [Pools.room, given, hasItem, eq_true_of_ne_false hasKey]
        rfl
      have key : kd ≠ [] := fun empty => filled (List.length_eq_zero_iff.mpr empty)
      have refused : ¬(pools.room = false ∨ kd = []) := by simp [room, key]
      obtain ⟨res', found', created, nodes', searched', _, inserted, own, member, represented⟩ :=
        represents.insertItem there (fresh cnode given)
      rw [searched] at searched'
      cases searched'
      obtain ⟨after, done, final⟩ := represented.storeValue member own (newItem_holds kd)
        (permitted creates room key)
      refine ⟨after, nodes', ?_, ?_⟩
      · simp only [inserted, Option.bind_some, refused, if_false, done]
      · rw [if_neg refused]
        have idem := Function.update_idem (some (⟨[], 0⟩ : Entry)) (some ⟨value.octets, 0⟩) table
          (a := kd)
        rw [← idem]
        exact final
  | some entry =>
    rw [there] at permitted
    obtain ⟨node, dbd, member, searched, found, key, holds⟩ := represents.search there
    subst key
    simp only [searched, Option.bind_eq_bind, Option.bind_some, ne_eq, not_true_eq_false, if_false,
      found, holds.locks]
    by_cases locked : 0 < entry.locks
    · rw [if_pos locked, if_pos locked]
      exact ⟨db, nodes, rfl, represents⟩
    have unlocked : entry.locks = 0 := by
      apply UInt8.toNat_inj.mp
      have low : ¬ 0 < entry.locks.toNat := fun positive => locked (UInt8.lt_iff_toNat_lt.mpr positive)
      exact Nat.eq_zero_of_not_pos low
    rw [if_neg locked, if_neg locked]
    have meets := permitted unlocked
    by_cases appends : flags &&& simpledbFlagAppend ≠ 0
    · rw [if_pos appends] at meets ⊢
      rw [if_pos appends]
      obtain ⟨after, done, represented⟩ := represents.appendValue member found holds there meets
      exact ⟨after, nodes, done, represented⟩
    · rw [if_neg appends] at meets ⊢
      rw [if_neg appends]
      obtain ⟨after, done, represented⟩ := represents.storeValue member found holds meets
      exact ⟨after, nodes, done, represented⟩

variable (kd : List UInt8)

theorem get : ∃ after found, db.onedbGet kd = some (after, found) ∧
      (match found with
        | none => Answer.result (-1)
        | some dbd => .value dbd.read) = (table.get kd).2 ∧
      Represents after nodes (table.get kd).1 := by
  rw [Table.get, Simpledb.onedbGet]
  cases there : table kd with
  | none =>
    obtain ⟨res, found, searched, different, _⟩ :=
      represents.sorted.binSearch_missing (represents.absent there)
    simp only [searched, Option.bind_eq_bind, Option.bind_some, ne_eq, different,
      not_false_eq_true, if_true]
    exact ⟨db, none, rfl, rfl, represents⟩
  | some entry =>
    obtain ⟨node, dbd, member, searched, found, key, holds⟩ := represents.search there
    subst key
    simp only [searched, Option.bind_eq_bind, Option.bind_some, ne_eq, not_true_eq_false, if_false,
      found]
    refine ⟨_, some dbd, rfl, congrArg Answer.value holds.read, ?_⟩
    apply represents.setData member found { dbd with refcounter := dbd.refcounter + 1 } rfl
    exact {
      locks := congrArg (· + 1) holds.locks
      size := holds.size
      octets := holds.octets }

theorem getRelease : ∃ after, db.onedbGetRelease kd = some (after, (table.getRelease kd).2) ∧
      Represents after nodes (table.getRelease kd).1 := by
  rw [Table.getRelease, Simpledb.onedbGetRelease]
  cases there : table kd with
  | none =>
    obtain ⟨res, found, searched, different, _⟩ :=
      represents.sorted.binSearch_missing (represents.absent there)
    simp only [searched, Option.bind_eq_bind, Option.bind_some, ne_eq, different,
      not_false_eq_true, if_true]
    exact ⟨db, rfl, represents⟩
  | some entry =>
    obtain ⟨node, dbd, member, searched, found, key, holds⟩ := represents.search there
    subst key
    simp only [searched, Option.bind_eq_bind, Option.bind_some, ne_eq, not_true_eq_false, if_false,
      found]
    refine ⟨_, rfl, ?_⟩
    apply represents.setData member found { dbd with refcounter :=
      if 0 < dbd.refcounter then dbd.refcounter - 1 else dbd.refcounter } rfl
    exact {
      locks := by rw [holds.locks]
      size := holds.size
      octets := holds.octets }

theorem del : ∃ after nodes', db.onedbDel kd = some (after, (table.del kd).2) ∧
      Represents after nodes' (table.del kd).1 := by
  rw [Table.del, Simpledb.onedbDel]
  cases there : table kd with
  | none =>
    obtain ⟨res, found, searched, different, _⟩ :=
      represents.sorted.binSearch_missing (represents.absent there)
    simp only [searched, Option.bind_eq_bind, Option.bind_some, ne_eq, different,
      not_false_eq_true, if_true]
    exact ⟨db, nodes, rfl, represents⟩
  | some entry =>
    obtain ⟨node, dbd, member, searched, found, key, holds⟩ := represents.search there
    subst key
    simp only [searched, Option.bind_eq_bind, Option.bind_some, ne_eq, not_true_eq_false, if_false,
      found, holds.locks]
    by_cases locked : 0 < entry.locks
    · rw [if_pos locked, if_pos locked]
      exact ⟨db, nodes, rfl, represents⟩
    · rw [if_neg locked, if_neg locked]
      obtain ⟨unlinked, nodes', removed, represented⟩ := represents.remove member found
      exact ⟨_, nodes', by rw [removed]; rfl, represented⟩

end Represents

end EnetTsn.Uniconf
