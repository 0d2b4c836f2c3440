import EnetTsn.Uniconf.KeySearch

namespace EnetTsn.Uniconf

open EnetTsn.Library

variable {ν : Type} {db : Simpledb ν} {nodes first second : List ν} {node cnode : ν}
  {kd : List UInt8} {dbd : Dbdata}

theorem key_eq (found : db.data node = some dbd) : db.key node = dbd.kd := by
  rw [Simpledb.key, found]
  exact Option.getD_some

/-- The nodes of a list in the order of its keys; a node is given out with its item. -/
structure Simpledb.Shaped (db : Simpledb ν) (nodes : List ν) : Prop where
  sorted : db.Sorted nodes
  allocated : ∀ node, (db.heap node).isSome = (db.data node).isSome

variable [DecidableEq ν]

private theorem key_setData (db : Simpledb ν) (node : ν) (dbd : Dbdata) (other : ν) :
    (db.setData node dbd).key other = if other = node then dbd.kd else db.key other := by
  by_cases same : other = node
  · rw [if_pos same, same]
    apply key_eq
    exact Function.update_self _ _ _
  · rw [if_neg same, Simpledb.key, Simpledb.key, Simpledb.setData]
    simp only [Function.update_of_ne same]

theorem key_setData_same (found : db.data node = some dbd) (key : changed.kd = dbd.kd) (other : ν) :
    (db.setData node changed).key other = db.key other := by
  rw [key_setData]
  split
  · rename_i same
    rw [same, key, key_eq found]
  · rfl

def Simpledb.without (db : Simpledb ν) (node : ν) (unlinked : LinkHeap ν × ListHeader ν) :
    Simpledb ν where
  heap := Function.update unlinked.1 node none
  data := Function.update db.data node none
  dblist := unlinked.2

namespace Simpledb.Shaped

theorem setData (shaped : db.Shaped nodes) (found : db.data node = some dbd)
    (key : changed.kd = dbd.kd) : (db.setData node changed).Shaped nodes := by
  have own : (db.setData node changed).data node = some changed := Function.update_self _ _ _
  have isSome : ∀ other, ((db.setData node changed).data other).isSome = (db.data other).isSome := by
    intro other
    by_cases same : other = node
    · rw [same, own, found]
      exact Option.isSome_some
    · exact congrArg Option.isSome (Function.update_of_ne same _ _)
  exact {
    sorted := {
      linked := shaped.sorted.linked
      stored := fun other inside => (isSome other).trans (shaped.sorted.stored other inside)
      increasing := by
        simp only [key_setData_same found key]
        exact shaped.sorted.increasing }
    allocated := fun other => (shaped.allocated other).trans (isSome other).symm }

theorem insert (shaped : db.Shaped (first ++ second)) (free : db.heap cnode = none)
    (inserted : Inserted (Function.update db.heap cnode (some ⟨none, none⟩)) result.1 result.2
      first cnode second) (gap : db.Gap kd first second) :
    ((db.relinked result).setData cnode (newItem kd)).Shaped (first ++ cnode :: second) ∧
      ∀ other ∈ first ++ second,
        ((db.relinked result).setData cnode (newItem kd)).key other = db.key other := by
  have fresh : ∀ other ∈ first ++ second, other ≠ cnode := by
    rintro other member rfl
    obtain ⟨links, allocated⟩ := shaped.sorted.linked.segment.allocated member
    rw [free] at allocated
    cases allocated
  have data : ∀ other, other ≠ cnode →
      ((db.relinked result).setData cnode (newItem kd)).data other = db.data other :=
    fun other different => Function.update_of_ne different _ _
  have own : ((db.relinked result).setData cnode (newItem kd)).data cnode = some (newItem kd) :=
    Function.update_self _ _ _
  have keys : ∀ other ∈ first ++ second,
      ((db.relinked result).setData cnode (newItem kd)).key other = db.key other := by
    intro other member
    rw [Simpledb.key, Simpledb.key, data other (fresh other member)]
  have ownKey : ((db.relinked result).setData cnode (newItem kd)).key cnode = kd := key_eq own
  have linked : Linked (Function.update db.heap cnode (some ⟨none, none⟩)) db.dblist
      (first ++ second) := by
    apply shaped.sorted.linked.disjoint (agreeOutside_update _)
    intro other member same
    exact fresh other member (List.mem_singleton.mp same)
  have members : ∀ other ∈ first ++ cnode :: second, other ≠ cnode → other ∈ first ++ second := by
    intro other member different
    simp only [List.mem_append, List.mem_cons] at member ⊢
    exact member.imp_right fun rest => rest.resolve_left different
  refine ⟨?_, keys⟩
  exact {
    sorted := {
      linked := inserted.linked
      stored := by
        intro other member
        by_cases same : other = cnode
        · rw [same, own]
          exact Option.isSome_some
        · rw [data other same]
          exact shaped.sorted.stored other (members other member same)
      increasing := by
        apply pairwise_insert
        · apply shaped.sorted.increasing.imp_of_mem
          intro one two oneMember twoMember order
          rw [keys one oneMember, keys two twoMember]
          exact order
        · intro other member
          rw [ownKey, keys other (List.mem_append_left _ member)]
          exact gap.before other member
        · intro other member
          rw [ownKey, keys other (List.mem_append_right _ member)]
          exact gap.after other member }
    allocated := by
      intro other
      have kept := inserted.isSome linked (by simp) other
      by_cases same : other = cnode
      · rw [same] at kept ⊢
        rw [own]
        exact kept.trans (by simp)
      · rw [data other same, ← shaped.allocated]
        exact kept.trans (congrArg Option.isSome (Function.update_of_ne same _ _)) }

/-- `onedb_put` makes an item for a key that has none, in the node that it is given. -/
theorem insertItem (shaped : db.Shaped nodes) (absent : ∀ node ∈ nodes, db.key node ≠ kd)
    (free : db.heap cnode = none) :
    ∃ res found result first second, db.binSearch kd = some (res, found) ∧ res ≠ 0 ∧
      db.insertItem res found cnode kd = some ((db.relinked result).setData cnode (newItem kd)) ∧
      nodes = first ++ second ∧ db.Gap kd first second ∧
      Inserted (Function.update db.heap cnode (some ⟨none, none⟩)) result.1 result.2
        first cnode second := by
  obtain ⟨res, found, searched, different, place⟩ := shaped.sorted.binSearch_missing absent
  have fresh : cnode ∉ nodes := by
    intro member
    obtain ⟨links, allocated⟩ := shaped.sorted.linked.segment.allocated member
    rw [free] at allocated
    cases allocated
  let heap := Function.update db.heap cnode (some (⟨none, none⟩ : Links ν))
  have allocated : (heap cnode).isSome := by
    simp [heap]
  have linked : Linked heap db.dblist nodes := by
    apply shaped.sorted.linked.disjoint (agreeOutside_update _)
    intro other member same
    exact fresh (List.mem_singleton.mp same ▸ member)
  rcases place with ⟨empty, negative, rfl⟩ | ⟨first, place, second, split, rfl, side⟩
  · obtain ⟨changed, grown, result, inserted⟩ := linked.prepend allocated fresh
    refine ⟨res, none, (changed, grown), [], nodes, searched, different, ?_, rfl,
      ⟨nofun, ?_⟩, inserted⟩
    · rw [Simpledb.insertItem, if_neg (Int.not_lt.mpr (Int.le_of_lt negative))]
      simp only [heap] at result
      simp only [result, Option.map_some]
    · rw [empty]
      exact nofun
  · rw [split] at linked fresh
    rcases side with ⟨positive, gap⟩ | ⟨negative, gap⟩
    · obtain ⟨changed, grown, result, inserted⟩ := linked.insertAfter allocated fresh
      refine ⟨res, some place, (changed, grown), first ++ [place], second, searched, different, ?_,
        by rw [split]; simp, gap, inserted⟩
      rw [Simpledb.insertItem, if_pos positive]
      simp only [heap] at result
      simp only [result, Option.map_some]
    · obtain ⟨changed, grown, result, inserted⟩ := linked.insertBefore allocated fresh
      refine ⟨res, some place, (changed, grown), first, place :: second, searched, different, ?_,
        split, gap, inserted⟩
      rw [Simpledb.insertItem, if_neg (Int.not_lt.mpr (Int.le_of_lt negative))]
      simp only [heap] at result
      simp only [result, Option.map_some]

theorem remove (shaped : db.Shaped (first ++ node :: second)) :
    ∃ unlinked, db.dblist.unlink db.heap node = some unlinked ∧
      (db.without node unlinked).Shaped (first ++ second) ∧
      ∀ other ∈ first ++ second, (db.without node unlinked).data other = db.data other := by
  have linked := shaped.sorted.linked
  obtain ⟨changed, shrunk, result, unlinked⟩ := linked.unlink
  have outside : node ∉ first ++ second :=
    (List.nodup_cons.mp (List.nodup_middle.mp linked.nodup)).1
  have sub : (first ++ second).Sublist (first ++ node :: second) :=
    List.Sublist.append_left (List.sublist_cons_self _ _) _
  have different : ∀ other ∈ first ++ second, other ≠ node := by
    rintro other inside rfl
    exact outside inside
  have data : ∀ other, other ≠ node → (db.without node (changed, shrunk)).data other = db.data other :=
    fun other different => Function.update_of_ne different _ _
  have keys : ∀ other ∈ first ++ second, (db.without node (changed, shrunk)).key other = db.key other := by
    intro other inside
    rw [Simpledb.key, Simpledb.key, data other (different other inside)]
  refine ⟨(changed, shrunk), result, ?_, fun other inside => data other (different other inside)⟩
  exact {
    sorted := {
      linked := by
        apply unlinked.linked.disjoint (agreeOutside_update _)
        intro other inside same
        exact different other inside (List.mem_singleton.mp same)
      stored := by
        intro other inside
        rw [data other (different other inside)]
        exact shaped.sorted.stored other (sub.subset inside)
      increasing := by
        apply (shaped.sorted.increasing.sublist sub).imp_of_mem
        intro one two oneMember twoMember order
        rw [keys one oneMember, keys two twoMember]
        exact order }
    allocated := by
      intro other
      by_cases same : other = node
      · rw [same]
        simp [Simpledb.without]
      · rw [data other same, ← shaped.allocated, ← unlinked.isSome linked]
        exact congrArg Option.isSome (Function.update_of_ne same _ _) }

end Simpledb.Shaped

end EnetTsn.Uniconf
