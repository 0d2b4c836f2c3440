import EnetTsn.Uniconf.PutErrors

namespace EnetTsn.Uniconf

open EnetTsn.Library

variable {ν : Type} [DecidableEq ν] {db after : Simpledb ν} {nodes nodes' first second : List ν}
  {node : ν} {kd : List UInt8} {dbd changed : Dbdata} {value : PutValue} {flags : UInt8}
  {pools : Pools ν}

def Dbdata.Addable (dbd : Dbdata) (value : PutValue) (flags : UInt8) : Prop :=
  dbd.refcounter = 0 → flags &&& simpledbFlagAppend ≠ 0 → value.bytes.isSome = true →
    dbd.vsize.toNat + value.vlen.toNat < 2 ^ 32

instance (dbd : Dbdata) (value : PutValue) (flags : UInt8) : Decidable (dbd.Addable value flags) :=
  inferInstanceAs (Decidable (_ → _ → _ → _))

def Dbdata.Sized (dbd : Dbdata) : Prop := ∀ block ∈ dbd.vdata, dbd.vsize.toNat ≤ block.length

/-- A change of the store that concerns one key: the items of the other keys are the same, at the
same nodes. -/
structure Simpledb.Touches (db after : Simpledb ν) (nodes nodes' : List ν) (kd : List UInt8) : Prop where
  shaped : after.Shaped nodes'
  others : ∀ node dbd, dbd.kd ≠ kd →
    (node ∈ nodes ∧ db.data node = some dbd ↔ node ∈ nodes' ∧ after.data node = some dbd)

namespace Simpledb.Touches

theorem setData (shaped : db.Shaped nodes) (found : db.data node = some dbd)
    (key : changed.kd = dbd.kd) :
    db.Touches (db.setData node changed) nodes nodes dbd.kd where
  shaped := shaped.setData found key
  others other item different := by
    have own : (db.setData node changed).data node = some changed := Function.update_self _ _ _
    refine and_congr_right fun _ => ?_
    by_cases same : other = node
    · rw [same, own, found]
      constructor
      · rintro ⟨⟩
        exact absurd rfl different
      · rintro ⟨⟩
        exact absurd key different
    · rw [show (db.setData node changed).data other = db.data other from
        Function.update_of_ne same _ _]

theorem remove (shaped : db.Shaped nodes) (member : node ∈ nodes) (found : db.data node = some dbd) :
    ∃ unlinked nodes', db.dblist.unlink db.heap node = some unlinked ∧
      db.Touches (db.without node unlinked) nodes nodes' dbd.kd ∧
      ∀ other ∈ nodes', (db.without node unlinked).key other ≠ dbd.kd := by
  obtain ⟨first, second, rfl⟩ := List.append_of_mem member
  obtain ⟨unlinked, result, rest, data⟩ := shaped.remove
  have apart := shaped.sorted.parts
  have different : ∀ other ∈ first ++ second, db.key other ≠ dbd.kd := by
    intro other inside same
    rw [← key_eq found] at same
    rcases List.mem_append.mp inside with earlier | later
    · exact absurd (apart.1 other earlier) (by rw [same]; exact lt_irrefl _)
    · exact absurd (apart.2 other later) (by rw [same]; exact lt_irrefl _)
  refine ⟨unlinked, first ++ second, result, ⟨rest, fun other item apart => ?_⟩, ?_⟩
  · constructor
    · rintro ⟨inside, here⟩
      have kept : other ∈ first ++ second := by
        simp only [List.mem_append, List.mem_cons] at inside ⊢
        refine inside.imp_right fun later => later.resolve_left ?_
        rintro rfl
        rw [found] at here
        cases here
        exact apart rfl
      exact ⟨kept, (data other kept).trans here⟩
    · rintro ⟨inside, here⟩
      rw [data other inside] at here
      exact ⟨by simp only [List.mem_append, List.mem_cons] at inside ⊢; tauto, here⟩
  · intro other inside
    rw [Simpledb.key, data other inside]
    exact different other inside

theorem insert (shaped : db.Shaped (first ++ second)) (free : db.heap cnode = none)
    (inserted : Inserted (Function.update db.heap cnode (some ⟨none, none⟩)) result.1 result.2
      first cnode second) (gap : db.Gap kd first second) :
    db.Touches ((db.relinked result).setData cnode (newItem kd)) (first ++ second)
      (first ++ cnode :: second) kd where
  shaped := (shaped.insert free inserted gap).1
  others other item different := by
    have own : ((db.relinked result).setData cnode (newItem kd)).data cnode = some (newItem kd) :=
      Function.update_self _ _ _
    have unused : db.data cnode = none := by
      have allocated := shaped.allocated cnode
      rw [free] at allocated
      exact Option.isNone_iff_eq_none.mp (by simpa using allocated.symm)
    by_cases same : other = cnode
    · rw [same, own, unused]
      constructor
      · rintro ⟨_, ⟨⟩⟩
      · rintro ⟨_, ⟨⟩⟩
        exact absurd rfl different
    · rw [show ((db.relinked result).setData cnode (newItem kd)).data other = db.data other from
        Function.update_of_ne same _ _]
      refine and_congr_left fun _ => ?_
      simp only [List.mem_append, List.mem_cons, same, false_or]

omit [DecidableEq ν] in
theorem trans (earlier : db.Touches middle nodes nodesMiddle kd)
    (later : middle.Touches after nodesMiddle nodes' kd) : db.Touches after nodes nodes' kd where
  shaped := later.shaped
  others node dbd different := (earlier.others node dbd different).trans (later.others node dbd different)

end Simpledb.Touches

namespace Dbdata.Sized

omit [DecidableEq ν] in
theorem lost (dbd : Dbdata) : ({ dbd with vdata := none } : Dbdata).Sized := fun _ => nofun

variable (sized : dbd.Sized)
include sized

omit [DecidableEq ν] in
theorem resize (value : PutValue) (pools : Pools ν) :
    match Simpledb.resizeValue dbd value pools with
    | .error lost => lost = { dbd with vdata := none }
    | .ok resized => resized.kd = dbd.kd ∧ resized.refcounter = dbd.refcounter ∧ resized.Sized ∧
        ∀ bytes ∈ value.bytes, resized.vsize = value.vlen := by
  rw [Simpledb.resizeValue]
  by_cases same : dbd.vsize = value.vlen
  · rw [if_pos same]
    exact ⟨rfl, rfl, sized, fun _ _ => same⟩
  · rw [if_neg same]
    cases value.bytes with
    | none => exact ⟨rfl, rfl, fun block _ => Nat.zero_le _, by simp⟩
    | some bytes =>
      by_cases refused : value.vlen.toNat = 0 ∨ pools.vdata = false
      · simp only [Pools.regetmem, if_pos refused]
      · simp only [Pools.regetmem, if_neg refused]
        refine ⟨trivial, trivial, ?_, fun _ _ => trivial⟩
        rintro _ ⟨⟩
        simp

theorem copy (value : PutValue) (size : ∀ bytes ∈ value.bytes, dbd.vsize = value.vlen) :
    ∃ copied, Simpledb.copyValue dbd value = some copied ∧ copied.kd = dbd.kd ∧
      copied.refcounter = dbd.refcounter ∧ copied.Sized := by
  rw [Simpledb.copyValue]
  split
  · rename_i block bytes atBlock given
    by_cases zero : value.vlen = 0
    · rw [if_pos zero]
      exact ⟨dbd, rfl, rfl, rfl, sized⟩
    · have length := value.sized bytes given
      have room := sized block atBlock
      rw [size bytes given, ← length] at room
      rw [if_neg zero, memcpy, if_pos (by rw [Nat.zero_add]; exact room)]
      refine ⟨_, rfl, rfl, rfl, ?_⟩
      rintro _ ⟨⟩
      rw [size bytes given, ← length]
      simp
  · exact ⟨dbd, rfl, rfl, rfl, sized⟩

theorem store (found : db.data node = some dbd) (value : PutValue)
    (pools : Pools ν) : ∃ changed res,
      db.storeValue node value pools = some (db.setData node changed, res) ∧
        changed.kd = dbd.kd ∧ changed.refcounter = dbd.refcounter ∧ changed.Sized := by
  have resized := sized.resize value pools
  rw [Simpledb.storeValue, found]
  simp only [Option.bind_eq_bind, Option.bind_some]
  split
  · rename_i lost failed
    rw [failed] at resized
    exact ⟨lost, -1, rfl, by rw [resized], by rw [resized], resized ▸ Sized.lost dbd⟩
  · rename_i grown done
    rw [done] at resized
    obtain ⟨kd, refcounter, room, size⟩ := resized
    obtain ⟨copied, written, kd', refcounter', rest⟩ := room.copy value size
    exact ⟨copied, 0, by rw [written]; rfl, kd'.trans kd, refcounter'.trans refcounter, rest⟩

theorem append (found : db.data node = some dbd) (value : PutValue) (pools : Pools ν)
    (fits : value.bytes.isSome = true → dbd.vsize.toNat + value.vlen.toNat < 2 ^ 32) :
    ∃ changed res, db.appendValue node dbd value pools = some (db.setData node changed, res) ∧
      changed.kd = dbd.kd ∧ changed.refcounter = dbd.refcounter ∧ changed.Sized := by
  rw [Simpledb.appendValue]
  cases given : value.bytes with
  | none =>
    have same : db.setData node dbd = db := by
      rw [Simpledb.setData, ← found, Function.update_eq_self]
    exact ⟨dbd, 0, by rw [same], rfl, rfl, sized⟩
  | some bytes =>
    rw [given] at fits
    have total : (dbd.vsize + value.vlen).toNat = dbd.vsize.toNat + value.vlen.toNat := by
      exact Nat.mod_eq_of_lt (fits rfl)
    have length := value.sized bytes given
    rw [Pools.regetmem]
    by_cases refused : (dbd.vsize + value.vlen).toNat = 0 ∨ pools.vdata = false
    · rw [if_pos refused]
      exact ⟨_, -1, rfl, rfl, rfl, Sized.lost dbd⟩
    · rw [if_neg refused]
      simp only [memcpy, List.length_map, List.length_range, length, total, le_refl, if_true,
        Option.bind_eq_bind, Option.bind_some]
      refine ⟨_, 0, rfl, rfl, rfl, ?_⟩
      rintro _ ⟨⟩
      simp [total, length]

end Dbdata.Sized

omit [DecidableEq ν] in
theorem Dbdata.holds_of_read (read : dbd.read = some content) :
    dbd.Holds ⟨content, dbd.refcounter⟩ := by
  rw [Dbdata.read] at read
  split at read
  · rename_i empty
    cases read
    exact ⟨rfl, by rw [empty]; rfl, .inl rfl⟩
  · split at read
    · cases read
    · rename_i block here
      obtain ⟨fits, same⟩ := Option.ite_none_right_eq_some.mp read
      refine ⟨rfl, ?_, .inr ⟨block.drop dbd.vsize.toNat, ?_⟩⟩
      · rw [← Option.some.inj same, List.length_take, Nat.min_eq_left fits]
      · rw [here, ← Option.some.inj same, List.take_append_drop]

theorem Dbdata.store_read (found : db.data node = some dbd) (read : dbd.read = some content)
    (given : value.bytes = some bytes) (granted : dbd.refused value false pools = false) :
    ∃ stored, db.storeValue node value pools = some (db.setData node stored, 0) ∧
      stored.kd = dbd.kd ∧ stored.read = some bytes := by
  have holds := Dbdata.holds_of_read read
  have replaceable : Replaceable content value pools := by
    have length := value.sized bytes given
    rw [Replaceable, given]
    intro different
    have size : dbd.vsize ≠ value.vlen := by
      rintro same
      apply different
      rw [length, ← same, holds.size]
    simp only [Dbdata.refused, Dbdata.roomFor, given, Option.isNone_some, Bool.false_eq_true,
      if_false, size, Option.any_some, Bool.or_eq_false_iff, decide_eq_false_iff_not,
      Bool.not_eq_false'] at granted
    refine ⟨?_, granted.2⟩
    rintro rfl
    exact granted.1 (UInt32.toNat_inj.mp length.symm)
  obtain ⟨resized, stored, grown, copied, key, stores⟩ := holds.replace replaceable
  refine ⟨stored, ?_, key, ?_⟩
  · rw [Simpledb.storeValue, found]
    simp only [Option.bind_eq_bind, Option.bind_some, grown, copied]
  · rw [stores.read, PutValue.octets, given]
    rfl

theorem refcounter_eq_zero (unlocked : ¬ 0 < dbd.refcounter) : dbd.refcounter = 0 := by
  have low : ¬ 0 < dbd.refcounter.toNat := fun positive =>
    unlocked (UInt8.lt_iff_toNat_lt.mpr positive)
  exact UInt8.toNat_inj.mp (Nat.eq_zero_of_not_pos low)

def Simpledb.AtKey (db : Simpledb ν) (nodes : List ν) (kd : List UInt8) (holds : Dbdata → Prop) :
    Prop :=
  ∀ node ∈ nodes, ∀ dbd, db.data node = some dbd → dbd.kd = kd → holds dbd

namespace Simpledb.Shaped

omit [DecidableEq ν] in
theorem unique (shaped : db.Shaped nodes) (member : node ∈ nodes) (member' : other ∈ nodes)
    (same : db.key node = db.key other) : node = other := by
  have found := shaped.sorted.binSearch_found member same
  rw [shaped.sorted.binSearch_found member' rfl] at found
  simpa using found.symm

omit [DecidableEq ν] in
theorem atKey_found (shaped : db.Shaped nodes) (member : node ∈ nodes)
    (found : db.data node = some dbd) (here : holds dbd) : db.AtKey nodes dbd.kd holds := by
  intro other inside item atOther same
  have equal := shaped.unique inside member (by rw [key_eq atOther, key_eq found, same])
  rw [equal, found] at atOther
  cases atOther
  exact here

omit [DecidableEq ν] in
theorem atKey_absent (absent : ∀ node ∈ nodes, db.key node ≠ kd) : db.AtKey nodes kd holds :=
  fun node inside _ found same => absurd ((key_eq found).trans same) (absent node inside)

variable (shaped : db.Shaped nodes)
include shaped

theorem atKey_setData (member : node ∈ nodes)
    (found : db.data node = some dbd) (key : changed.kd = dbd.kd) (here : holds changed) :
    (db.setData node changed).AtKey nodes dbd.kd holds := by
  have own : (db.setData node changed).data node = some changed := Function.update_self _ _ _
  rw [← key]
  exact (shaped.setData found key).atKey_found member own here

theorem put_cases (fresh : ∀ cnode ∈ pools.listnode, db.heap cnode = none)
    (sized : ∀ node ∈ nodes, ∀ dbd, db.data node = some dbd → dbd.Sized)
    (fits : ∀ dbd, db.itemOf kd = some dbd → dbd.Addable value flags) :
    ∃ after res, db.onedbPut kd value flags pools = some (after, res) ∧ (after = db ∨
      ∃ nodes', db.Touches after nodes nodes' kd ∧
        db.AtKey nodes kd (fun dbd => dbd.refcounter = 0) ∧
        after.AtKey nodes' kd fun dbd => dbd.refcounter = 0 ∧ dbd.Sized) := by
  rw [Simpledb.onedbPut]
  rcases shaped.search kd with ⟨node, dbd, member, searched, found, rfl⟩ | ⟨absent, missing⟩
  · simp only [searched, Option.bind_eq_bind, Option.bind_some, ne_eq, not_true_eq_false, if_false,
      found]
    by_cases locked : 0 < dbd.refcounter
    · rw [if_pos locked]
      exact ⟨db, -1, rfl, .inl rfl⟩
    · have free := refcounter_eq_zero locked
      have room := sized node member dbd found
      have written (changed : Dbdata) (key : changed.kd = dbd.kd)
          (refcounter : changed.refcounter = dbd.refcounter) (rest : changed.Sized) :
          ∃ nodes', db.Touches (db.setData node changed) nodes nodes' dbd.kd ∧
            db.AtKey nodes dbd.kd (fun dbd => dbd.refcounter = 0) ∧
            (db.setData node changed).AtKey nodes' dbd.kd
              fun dbd => dbd.refcounter = 0 ∧ dbd.Sized :=
        ⟨nodes, .setData shaped found key, shaped.atKey_found member found free,
          shaped.atKey_setData member found key ⟨refcounter.trans free, rest⟩⟩
      rw [if_neg locked]
      by_cases appends : flags &&& simpledbFlagAppend = 0
      · rw [if_neg (not_not_intro appends)]
        obtain ⟨changed, res, done, key, refcounter, rest⟩ := room.store found value pools
        exact ⟨_, res, done, .inr (written changed key refcounter rest)⟩
      · rw [if_pos appends]
        obtain ⟨changed, res, done, key, refcounter, rest⟩ := room.append found value pools
          (fits dbd (shaped.itemOf_found member found) free appends)
        exact ⟨_, res, done, .inr (written changed key refcounter rest)⟩
  · obtain ⟨order, found, searched, different⟩ := missing
    simp only [searched, Option.bind_eq_bind, Option.bind_some, ne_eq, different,
      not_false_eq_true, if_true]
    by_cases excluded : flags &&& simpledbFlagCreate = 0
    · rw [if_pos excluded]
      exact ⟨db, -1, rfl, .inl rfl⟩
    by_cases dbdata : pools.dbdata = false
    · rw [if_neg excluded, if_pos dbdata]
      exact ⟨db, -1, rfl, .inl rfl⟩
    by_cases kdata : pools.kdata = false ∨ kd.length = 0
    · rw [if_neg excluded, if_neg dbdata, if_pos kdata]
      exact ⟨db, -1, rfl, .inl rfl⟩
    rw [if_neg excluded, if_neg dbdata, if_neg kdata]
    cases given : pools.listnode with
    | none => exact ⟨db, -1, rfl, .inl rfl⟩
    | some cnode =>
      obtain ⟨_, _, result, first, second, searched', _, created, rfl, gap, inserted⟩ :=
        shaped.insertItem absent (fresh cnode given)
      rw [searched] at searched'
      cases searched'
      have grown := Simpledb.Touches.insert shaped (fresh cnode given) inserted gap
      have own : ((db.relinked result).setData cnode (newItem kd)).data cnode = some (newItem kd) :=
        Function.update_self _ _ _
      have empty : (newItem kd).Sized := fun _ => (by rintro ⟨⟩)
      obtain ⟨changed, res, done, key, refcounter, rest⟩ := empty.store own value pools
      dsimp only
      rw [created]
      refine ⟨_, res, done, .inr ⟨_, grown.trans (.setData grown.shaped own key),
        atKey_absent absent, ?_⟩⟩
      exact grown.shaped.atKey_setData (by simp) own key ⟨refcounter, rest⟩

theorem delete_cases (member : node ∈ nodes)
    (found : db.data node = some dbd) (free : dbd.refcounter = 0) :
    ∃ unlinked nodes', db.dblist.unlink db.heap node = some unlinked ∧
      db.Touches (db.without node unlinked) nodes nodes' dbd.kd ∧
      db.AtKey nodes dbd.kd (fun dbd => dbd.refcounter = 0) ∧
      (db.without node unlinked).AtKey nodes' dbd.kd fun dbd => dbd.refcounter = 0 ∧ dbd.Sized := by
  obtain ⟨unlinked, nodes', result, touches, gone⟩ := Simpledb.Touches.remove shaped member found
  exact ⟨unlinked, nodes', result, touches, shaped.atKey_found member found free, atKey_absent gone⟩

end Simpledb.Shaped

end EnetTsn.Uniconf
