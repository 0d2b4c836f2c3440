import EnetTsn.Uniconf.SimpledbShape

namespace EnetTsn.Uniconf

open EnetTsn.Library

variable {ν : Type} [DecidableEq ν] {db after : Simpledb ν} {nodes : List ν} {node : ν}
  {kd : List UInt8} {dbd : Dbdata} {value : PutValue} {flags : UInt8} {pools : Pools ν} {res : Int}

omit [DecidableEq ν] in
theorem resizeValue_kd (resized : Simpledb.resizeValue dbd value pools = .ok changed ∨
    Simpledb.resizeValue dbd value pools = .error changed) : changed.kd = dbd.kd := by
  rw [Simpledb.resizeValue] at resized
  split at resized
  · rcases resized with same | same <;> cases same
    rfl
  · split at resized
    · rcases resized with same | same <;> cases same
      rfl
    · split at resized <;> rcases resized with same | same <;> cases same <;> rfl

private theorem copyValue_kd (copied : Simpledb.copyValue dbd value = some changed) :
    changed.kd = dbd.kd := by
  rw [Simpledb.copyValue] at copied
  split at copied
  · split at copied
    · cases copied
      rfl
    · obtain ⟨written, _, rfl⟩ := Option.map_eq_some_iff.mp copied
      rfl
  · cases copied
    rfl

/-- An item of the list that no caller of `onedb_get` holds. -/
def Simpledb.unlocked (db : Simpledb ν) (node : ν) : Bool :=
  (db.data node).any fun dbd => dbd.refcounter = 0

namespace Simpledb.Shaped

variable (shaped : db.Shaped nodes)
include shaped

omit [DecidableEq ν] in
theorem search (kd : List UInt8) :
    (∃ node dbd, node ∈ nodes ∧ db.binSearch kd = some (0, some node) ∧ db.data node = some dbd ∧
        dbd.kd = kd) ∨ (∀ node ∈ nodes, db.key node ≠ kd) ∧
        ∃ res found, db.binSearch kd = some (res, found) ∧ res ≠ 0 := by
  by_cases present : ∃ node ∈ nodes, db.key node = kd
  · obtain ⟨node, member, same⟩ := present
    obtain ⟨dbd, found⟩ := Option.isSome_iff_exists.mp (shaped.sorted.stored node member)
    left
    exact ⟨node, dbd, member, shaped.sorted.binSearch_found member same, found,
      (key_eq found).symm.trans same⟩
  · have absent : ∀ node ∈ nodes, db.key node ≠ kd := fun node member same =>
      present ⟨node, member, same⟩
    obtain ⟨res, found, searched, different, _⟩ := shaped.sorted.binSearch_missing absent
    exact .inr ⟨absent, res, found, searched, different⟩

theorem storeValue (found : db.data node = some dbd)
    (done : db.storeValue node value pools = some (after, res)) :
    after.Shaped nodes ∧ ∀ other, after.key other = db.key other := by
  rw [Simpledb.storeValue, found] at done
  simp only [Option.bind_eq_bind, Option.bind_some] at done
  split at done
  · rename_i lost resized
    cases done
    have same := resizeValue_kd (.inr resized)
    exact ⟨shaped.setData found same, key_setData_same found same⟩
  · rename_i changed resized
    obtain ⟨copied, written, done⟩ := Option.bind_eq_some_iff.mp done
    cases done
    have same := (copyValue_kd written).trans (resizeValue_kd (.inl resized))
    exact ⟨shaped.setData found same, key_setData_same found same⟩

theorem appendValue (found : db.data node = some dbd)
    (done : db.appendValue node dbd value pools = some (after, res)) :
    after.Shaped nodes ∧ ∀ other, after.key other = db.key other := by
  rw [Simpledb.appendValue] at done
  split at done
  · cases done
    exact ⟨shaped, fun _ => rfl⟩
  · split at done
    · cases done
      exact ⟨shaped.setData found rfl, key_setData_same found rfl⟩
    · obtain ⟨written, _, done⟩ := Option.bind_eq_some_iff.mp done
      cases done
      exact ⟨shaped.setData found rfl, key_setData_same found rfl⟩

theorem put (fresh : ∀ cnode ∈ pools.listnode, db.heap cnode = none)
    (done : db.onedbPut kd value flags pools = some (after, res)) :
    ∃ nodes', after.Shaped nodes' ∧ ∀ node ∈ nodes, node ∈ nodes' ∧ after.key node = db.key node := by
  have unchanged : ∀ {result : Simpledb ν × Int}, some (db, (-1 : Int)) = some result →
      ∃ nodes', result.1.Shaped nodes' ∧
        ∀ node ∈ nodes, node ∈ nodes' ∧ result.1.key node = db.key node := by
    rintro _ ⟨⟩
    exact ⟨nodes, shaped, fun _ member => ⟨member, rfl⟩⟩
  rw [Simpledb.onedbPut] at done
  rcases shaped.search kd with ⟨node, dbd, member, searched, found, rfl⟩ | ⟨absent, missing⟩
  · simp only [searched, Option.bind_eq_bind, Option.bind_some, ne_eq, not_true_eq_false, if_false,
      found] at done
    split at done
    · exact unchanged done
    · split at done
      · obtain ⟨kept, keys⟩ := shaped.appendValue found done
        exact ⟨nodes, kept, fun other inside => ⟨inside, keys other⟩⟩
      · obtain ⟨kept, keys⟩ := shaped.storeValue found done
        exact ⟨nodes, kept, fun other inside => ⟨inside, keys other⟩⟩
  · obtain ⟨res, found, searched, different⟩ := missing
    simp only [searched, Option.bind_eq_bind, Option.bind_some, ne_eq, different,
      not_false_eq_true, if_true] at done
    split at done
    · exact unchanged done
    split at done
    · exact unchanged done
    split at done
    · exact unchanged done
    split at done
    · exact unchanged done
    · rename_i cnode given
      obtain ⟨res', found', result, first, second, searched', _, created, rfl, gap, inserted⟩ :=
        shaped.insertItem absent (fresh cnode given)
      rw [searched] at searched'
      cases searched'
      rw [created] at done
      obtain ⟨grown, keys⟩ := shaped.insert (fresh cnode given) inserted gap
      obtain ⟨kept, same⟩ := grown.storeValue (Function.update_self _ _ _) done
      refine ⟨first ++ cnode :: second, kept, fun other inside => ⟨?_, ?_⟩⟩
      · simp only [List.mem_append, List.mem_cons] at inside ⊢
        exact inside.imp_right .inr
      · rw [same, keys other inside]

theorem get (kd : List UInt8) :
    ∃ after found, db.onedbGet kd = some (after, found) ∧ after.Shaped nodes ∧
      ∀ other, after.key other = db.key other := by
  rw [Simpledb.onedbGet]
  rcases shaped.search kd with ⟨node, dbd, _, searched, found, _⟩ |
    ⟨_, res, found, searched, different⟩
  · simp only [searched, Option.bind_eq_bind, Option.bind_some, ne_eq, not_true_eq_false, if_false,
      found]
    exact ⟨_, _, rfl, shaped.setData found rfl, key_setData_same found rfl⟩
  · simp only [searched, Option.bind_eq_bind, Option.bind_some, ne_eq, different,
      not_false_eq_true, if_true]
    exact ⟨db, none, rfl, shaped, fun _ => rfl⟩

theorem getRelease (kd : List UInt8) :
    ∃ after res, db.onedbGetRelease kd = some (after, res) ∧ after.Shaped nodes ∧
      ∀ other, after.key other = db.key other := by
  rw [Simpledb.onedbGetRelease]
  rcases shaped.search kd with ⟨node, dbd, _, searched, found, _⟩ |
    ⟨_, res, found, searched, different⟩
  · simp only [searched, Option.bind_eq_bind, Option.bind_some, ne_eq, not_true_eq_false, if_false,
      found]
    exact ⟨_, _, rfl, shaped.setData found rfl, key_setData_same found rfl⟩
  · simp only [searched, Option.bind_eq_bind, Option.bind_some, ne_eq, different,
      not_false_eq_true, if_true]
    exact ⟨db, -1, rfl, shaped, fun _ => rfl⟩

theorem removed (member : node ∈ nodes) :
    ∃ unlinked nodes', db.dblist.unlink db.heap node = some unlinked ∧
      (db.without node unlinked).Shaped nodes' ∧ ∀ other ∈ nodes, other ≠ node →
        other ∈ nodes' ∧ (db.without node unlinked).key other = db.key other := by
  obtain ⟨first, second, rfl⟩ := List.append_of_mem member
  obtain ⟨unlinked, result, rest, data⟩ := shaped.remove
  refine ⟨unlinked, first ++ second, result, rest, fun other inside different => ?_⟩
  have kept : other ∈ first ++ second := by
    simp only [List.mem_append, List.mem_cons] at inside ⊢
    exact inside.imp_right fun later => later.resolve_left different
  refine ⟨kept, ?_⟩
  rw [Simpledb.key, Simpledb.key, data other kept]

theorem del (kd : List UInt8) :
    ∃ after res nodes', db.onedbDel kd = some (after, res) ∧ after.Shaped nodes' ∧
      ∀ node ∈ nodes, (db.key node = kd → db.unlocked node = false) →
        node ∈ nodes' ∧ after.key node = db.key node := by
  rw [Simpledb.onedbDel]
  rcases shaped.search kd with ⟨node, dbd, member, searched, found, key⟩ |
    ⟨_, res, found, searched, different⟩
  · simp only [searched, Option.bind_eq_bind, Option.bind_some, ne_eq, not_true_eq_false, if_false,
      found]
    by_cases locked : 0 < dbd.refcounter
    · rw [if_pos locked]
      exact ⟨db, -1, nodes, rfl, shaped, fun other inside _ => ⟨inside, rfl⟩⟩
    · obtain ⟨unlinked, nodes', result, rest, kept⟩ := shaped.removed member
      rw [if_neg locked, result]
      refine ⟨db.without node unlinked, 0, nodes', rfl, rest, fun other inside held => ?_⟩
      apply kept other inside
      rintro rfl
      have zero : dbd.refcounter = 0 := by
        have low : ¬ 0 < dbd.refcounter.toNat := fun positive =>
          locked (UInt8.lt_iff_toNat_lt.mpr positive)
        exact UInt8.toNat_inj.mp (Nat.eq_zero_of_not_pos low)
      have free : db.unlocked other = true := by
        rw [Simpledb.unlocked, found]
        exact decide_eq_true zero
      rw [held ((key_eq found).trans key)] at free
      cases free
  · simp only [searched, Option.bind_eq_bind, Option.bind_some, ne_eq, different,
      not_false_eq_true, if_true]
    exact ⟨db, -1, nodes, rfl, shaped, fun other inside _ => ⟨inside, rfl⟩⟩

theorem call (fresh : db.fresh event = true)
    (inBlock : ∀ kd value flags pools, event = .put kd value flags pools →
      (db.onedbPut kd value flags pools).isSome = true) :
    ∃ after answer nodes', db.call event = some (after, answer) ∧ after.Shaped nodes' ∧
      ∀ node ∈ nodes, (∀ kd, event = .del kd → db.key node = kd → db.unlocked node = false) →
        node ∈ nodes' ∧ after.key node = db.key node := by
  cases event with
  | put kd value flags pools =>
    obtain ⟨⟨after, res⟩, done⟩ := Option.isSome_iff_exists.mp (inBlock kd value flags pools rfl)
    have unused : ∀ cnode ∈ pools.listnode, db.heap cnode = none := by
      intro cnode given
      exact Option.isNone_iff_eq_none.mp ((Option.all_eq_true _ _).mp fresh cnode given)
    obtain ⟨nodes', kept, same⟩ := shaped.put unused done
    refine ⟨after, .result res, nodes', ?_, kept, fun node member _ => same node member⟩
    rw [Simpledb.call, done]
    rfl
  | get kd =>
    obtain ⟨after, found, done, kept, same⟩ := shaped.get kd
    simp only [Simpledb.call, done, Option.map_some]
    exact ⟨after, _, nodes, rfl, kept, fun node member _ => ⟨member, same node⟩⟩
  | getRelease kd =>
    obtain ⟨after, res, done, kept, same⟩ := shaped.getRelease kd
    refine ⟨after, .result res, nodes, ?_, kept, fun node member _ => ⟨member, same node⟩⟩
    rw [Simpledb.call, done]
    rfl
  | del kd =>
    obtain ⟨after, res, nodes', done, kept, same⟩ := shaped.del kd
    refine ⟨after, .result res, nodes', ?_, kept, fun node member held => ?_⟩
    · rw [Simpledb.call, done]
      rfl
    · exact same node member (held kd rfl)

end Simpledb.Shaped

end EnetTsn.Uniconf
