import EnetTsn.Uniconf.RangeItems

namespace EnetTsn.Uniconf

open EnetTsn.Library

structure Shown where
  key : List UInt8
  size : UInt32
  value : Option (List UInt8)
  deriving DecidableEq, Repr

def Dbdata.shown (dbd : Dbdata) : Shown where
  key := dbd.kd
  size := dbd.vsize
  value := dbd.read

def Dbdata.roomFor (dbd : Dbdata) (value : PutValue) (appends : Bool) : Option UInt32 :=
  if value.bytes.isNone then none
  else if appends then some (dbd.vsize + value.vlen)
  else if dbd.vsize = value.vlen then none
  else some value.vlen

variable {ν : Type} [DecidableEq ν] {db after : Simpledb ν} {nodes : List ν} {node : ν}
  {kd : List UInt8} {dbd changed : Dbdata} {value : PutValue} {flags : UInt8} {pools : Pools ν}
  {res : Int}

def Dbdata.refused (dbd : Dbdata) (value : PutValue) (appends : Bool) (pools : Pools ν) : Bool :=
  (dbd.roomFor value appends).any fun size => size = 0 || !pools.vdata

def Dbdata.hasValue (dbd : Dbdata) : Bool := dbd.vsize ≠ 0 && dbd.read.isSome

namespace Simpledb

def contents (db : Simpledb ν) : List (Option Shown) :=
  db.nodes.map fun node => (db.data node).map Dbdata.shown

def itemOf (db : Simpledb ν) (kd : List UInt8) : Option Dbdata :=
  (db.nodes.find? fun node => db.key node = kd).bind db.data

/-- A put that makes an item has the memory for its value, and one that finds an item that is not
held has it too or the item has no value to lose. -/
def PutKeeps (db : Simpledb ν) (kd : List UInt8) (value : PutValue) (flags : UInt8)
    (pools : Pools ν) : Prop :=
  match db.itemOf kd with
  | none => flags &&& simpledbFlagCreate ≠ 0 → pools.room = true → kd ≠ [] →
      (newItem kd).refused value false pools = false
  | some dbd => dbd.refcounter = 0 → dbd.hasValue = true →
      dbd.refused value (flags &&& simpledbFlagAppend ≠ 0) pools = false

omit [DecidableEq ν] in
theorem Sorted.nodes_eq (sorted : db.Sorted nodes) : db.nodes = nodes := sorted.linked.toList

omit [DecidableEq ν] in
theorem Shaped.itemOf_missing (shaped : db.Shaped nodes) (absent : ∀ node ∈ nodes, db.key node ≠ kd) :
    db.itemOf kd = none := by
  rw [itemOf, shaped.sorted.nodes_eq, List.find?_eq_none.mpr]
  · rfl
  · intro node member same
    exact absent node member (of_decide_eq_true same)

omit [DecidableEq ν] in
theorem Shaped.itemOf_found (shaped : db.Shaped nodes) (member : node ∈ nodes)
    (found : db.data node = some dbd) : db.itemOf dbd.kd = some dbd := by
  rw [itemOf, shaped.sorted.nodes_eq]
  cases search : nodes.find? fun other => db.key other = dbd.kd with
  | none =>
    have different := List.find?_eq_none.mp search node member
    exact absurd (decide_eq_true (key_eq found)) different
  | some other =>
    have passed := List.find?_some search
    have same : db.key other = dbd.kd := of_decide_eq_true passed
    have first := shaped.sorted.binSearch_found (List.mem_of_find?_eq_some search) same
    have second := shaped.sorted.binSearch_found member (key_eq found)
    rw [second] at first
    cases first
    exact found

theorem Shaped.contents_setData (shaped : db.Shaped nodes) (member : node ∈ nodes)
    (found : db.data node = some dbd) :
    (db.setData node changed).contents = db.contents ↔ changed.shown = dbd.shown := by
  have own : (db.setData node changed).data node = some changed := Function.update_self _ _ _
  have nodes_eq : (db.setData node changed).nodes = nodes := shaped.sorted.nodes_eq
  rw [contents, contents, nodes_eq, shaped.sorted.nodes_eq, List.map_inj_left]
  constructor
  · intro same
    have here := same node member
    rw [own, found] at here
    exact Option.some.inj here
  · intro same other _
    by_cases here : other = node
    · rw [here, own, found, Option.map_some, Option.map_some, same]
    · rw [show (db.setData node changed).data other = db.data other from
        Function.update_of_ne here _ _]

omit [DecidableEq ν] in
theorem shown_lost (dbd : Dbdata) :
    ({ dbd with vdata := none } : Dbdata).shown = dbd.shown ↔ dbd.hasValue = false := by
  have lost : ({ dbd with vdata := none } : Dbdata).read =
      if dbd.vsize = 0 then some [] else none := rfl
  simp only [Dbdata.shown, Dbdata.hasValue, Shown.mk.injEq, true_and, lost]
  by_cases empty : dbd.vsize = 0
  · simp [empty, Dbdata.read]
  · cases dbd.read <;> simp [empty]

omit [DecidableEq ν] in
theorem resizeValue_refused (dbd : Dbdata) (value : PutValue) (pools : Pools ν) :
    if dbd.refused value false pools then
      resizeValue dbd value pools = .error { dbd with vdata := none }
    else ∃ resized, resizeValue dbd value pools = .ok resized := by
  rw [resizeValue, Dbdata.refused, Dbdata.roomFor]
  by_cases same : dbd.vsize = value.vlen
  · have nothing : (if value.bytes.isNone then none
        else if false then some (dbd.vsize + value.vlen)
        else if dbd.vsize = value.vlen then none else some value.vlen) = (none : Option UInt32) := by
      simp [same]
    rw [nothing, if_pos same]
    exact ⟨_, rfl⟩
  · cases value.bytes with
    | none => exact ⟨_, if_neg same⟩
    | some bytes =>
      have zero : value.vlen.toNat = 0 ↔ value.vlen = 0 := by
        rw [← UInt32.toNat_zero, UInt32.toNat_inj]
      simp only [same, if_false, Option.isNone_some, Bool.false_eq_true, Option.any_some,
        Bool.or_eq_true, decide_eq_true_eq, Bool.not_eq_true', Pools.regetmem, zero]
      by_cases refused : value.vlen = 0 ∨ pools.vdata = false
      · rw [if_pos refused, if_pos refused]
      · rw [if_neg refused, if_neg refused]
        exact ⟨_, rfl⟩

theorem storeValue_refused (found : db.data node = some dbd)
    (done : db.storeValue node value pools = some (after, res)) :
    if dbd.refused value false pools then res = -1 ∧ after = db.setData node { dbd with vdata := none }
    else res = 0 := by
  have resized := resizeValue_refused dbd value pools
  rw [storeValue, found] at done
  simp only [Option.bind_eq_bind, Option.bind_some] at done
  split at resized
  · rename_i refused
    rw [resized] at done
    cases done
    rw [if_pos refused]
    exact ⟨rfl, rfl⟩
  · rename_i granted
    obtain ⟨grown, resized⟩ := resized
    rw [resized] at done
    obtain ⟨copied, _, done⟩ := Option.bind_eq_some_iff.mp done
    cases done
    rw [if_neg granted]

theorem appendValue_refused (done : db.appendValue node dbd value pools = some (after, res)) :
    if dbd.refused value true pools then res = -1 ∧ after = db.setData node { dbd with vdata := none }
    else res = 0 := by
  rw [appendValue] at done
  rw [Dbdata.refused, Dbdata.roomFor]
  cases given : value.bytes with
  | none =>
    rw [given] at done
    cases done
    simp
  | some bytes =>
    have zero : (dbd.vsize + value.vlen).toNat = 0 ↔ dbd.vsize + value.vlen = 0 := by
      rw [← UInt32.toNat_zero, UInt32.toNat_inj]
    simp only [given, Pools.regetmem, zero] at done
    simp only [Option.isNone_some, Bool.false_eq_true, if_false, if_true, Option.any_some,
      Bool.or_eq_true, decide_eq_true_eq, Bool.not_eq_true']
    split at done
    · rename_i refused
      cases done
      split_ifs at refused ⊢ with without
      exact ⟨rfl, rfl⟩
    · rename_i block granted
      obtain ⟨written, _, done⟩ := Option.bind_eq_some_iff.mp done
      cases done
      split_ifs at granted ⊢
      rfl

theorem Shaped.refused_iff (shaped : db.Shaped nodes) (member : node ∈ nodes)
    (found : db.data node = some dbd) (outcome : if dbd.refused value appends pools then
      res = -1 ∧ after = db.setData node { dbd with vdata := none } else res = 0) :
    (res < 0 → after.contents = db.contents) ↔
      (dbd.hasValue = true → dbd.refused value appends pools = false) := by
  split at outcome
  · rename_i refused
    obtain ⟨rfl, rfl⟩ := outcome
    rw [shaped.contents_setData member found, shown_lost, refused]
    cases dbd.hasValue <;> decide
  · rename_i granted
    rw [outcome]
    exact ⟨fun _ _ => Bool.not_eq_true _ |>.mp granted, fun _ negative => absurd negative (by decide)⟩

theorem Shaped.created_refused (shaped : db.Shaped nodes)
    (absent : ∀ node ∈ nodes, db.key node ≠ kd) (free : db.heap cnode = none)
    (searched : db.binSearch kd = some (order, found))
    (done : ((db.insertItem order found cnode kd).bind fun created =>
      created.storeValue cnode value pools) = some (after, res)) :
    (res < 0 → after.contents = db.contents) ↔ (newItem kd).refused value false pools = false := by
  obtain ⟨order', found', result, first, second, searched', _, created, rfl, gap, inserted⟩ :=
    shaped.insertItem absent free
  rw [searched] at searched'
  cases searched'
  rw [created] at done
  obtain ⟨grown, _⟩ := shaped.insert free inserted gap
  have outcome := storeValue_refused (Function.update_self _ _ _) done
  split at outcome
  · rename_i refused
    obtain ⟨rfl, rfl⟩ := outcome
    have longer : (((db.relinked result).setData cnode (newItem kd)).setData cnode
        { newItem kd with vdata := none }).nodes = first ++ cnode :: second := grown.sorted.nodes_eq
    rw [refused]
    constructor
    · intro same
      have lengths := congrArg List.length (same (by decide))
      rw [contents, contents, longer, shaped.sorted.nodes_eq, List.length_map, List.length_map] at lengths
      simp at lengths
    · exact nofun
  · rename_i granted
    rw [outcome]
    exact ⟨fun _ => Bool.not_eq_true _ |>.mp granted, fun _ negative => absurd negative (by decide)⟩

end Simpledb

/-- **A put that returns an error leaves all keys and values as they were exactly when it keeps
what it may lose.** -/
theorem put_error_unchanged_iff (database : Database ν)
    (fresh : ∀ cnode ∈ pools.listnode, database.db.heap cnode = none)
    (done : database.db.onedbPut kd value flags pools = some (after, res)) :
    (res < 0 → after.contents = database.db.contents) ↔
      database.db.PutKeeps kd value flags pools := by
  have shaped := database.shaped
  rw [Simpledb.onedbPut] at done
  rw [Simpledb.PutKeeps]
  rcases shaped.search kd with ⟨node, dbd, member, searched, found, rfl⟩ | ⟨absent, missing⟩
  · simp only [searched, Option.bind_eq_bind, Option.bind_some, ne_eq, not_true_eq_false, if_false,
      found] at done
    rw [shaped.itemOf_found member found]
    split at done
    · rename_i locked
      cases done
      refine ⟨fun _ free => absurd locked ?_, fun _ _ => rfl⟩
      rw [free]
      decide
    · rename_i unlocked
      have free : dbd.refcounter = 0 := by
        have low : ¬ 0 < dbd.refcounter.toNat := fun positive =>
          unlocked (UInt8.lt_iff_toNat_lt.mpr positive)
        exact UInt8.toNat_inj.mp (Nat.eq_zero_of_not_pos low)
      simp only [free, forall_const]
      split at done
      · rename_i appends
        rw [decide_eq_true appends]
        exact shaped.refused_iff member found (Simpledb.appendValue_refused done)
      · rename_i replaces
        rw [decide_eq_false replaces]
        exact shaped.refused_iff member found (Simpledb.storeValue_refused found done)
  · obtain ⟨order, found, searched, different⟩ := missing
    simp only [searched, Option.bind_eq_bind, Option.bind_some, ne_eq, different,
      not_false_eq_true, if_true] at done
    rw [shaped.itemOf_missing absent]
    simp only [Pools.room, Bool.and_eq_true, Option.isSome_iff_exists]
    split at done
    · rename_i excluded
      cases done
      exact ⟨fun _ create => absurd excluded create, fun _ _ => rfl⟩
    split at done
    · rename_i none_
      cases done
      exact ⟨fun _ _ room => absurd room.1.1 (by simp [none_]), fun _ _ => rfl⟩
    split at done
    · rename_i none_
      cases done
      refine ⟨fun _ _ room filled => absurd none_ ?_, fun _ _ => rfl⟩
      simp [room.1.2, filled]
    split at done
    · rename_i none_
      cases done
      refine ⟨fun _ _ room => ?_, fun _ _ => rfl⟩
      obtain ⟨cnode, given⟩ := room.2
      rw [none_] at given
      cases given
    · rename_i create dbdata kdata _ cnode given
      have created := shaped.created_refused absent (fresh cnode given) searched done
      rw [not_or] at kdata
      have room : (pools.dbdata = true ∧ pools.kdata = true) ∧
          ∃ cnode, pools.listnode = some cnode := by
        simp only [Bool.not_eq_false] at dbdata kdata
        exact ⟨⟨dbdata, kdata.1⟩, cnode, given⟩
      have filled : kd ≠ [] := fun empty => kdata.2 (by rw [empty]; rfl)
      rw [created]
      exact ⟨fun granted _ _ _ => granted, fun granted => granted create room filled⟩

/-- A new key that gets no place in the list leaves the two items as they are. -/
theorem put_error_unchanged_two : ∃ after, twoKeys.db.onedbPut [2] (.of [9] (by decide))
      simpledbFlagCreate { roomFor 2 with listnode := none } = some (after, -1) ∧
      after.contents = twoKeys.db.contents := by
  have done : twoKeys.db.onedbPut [2] (.of [9] (by decide)) simpledbFlagCreate
      { roomFor 2 with listnode := none } = some (twoKeys.db, -1) := rfl
  have keeps : twoKeys.db.PutKeeps [2] (.of [9] (by decide)) simpledbFlagCreate
      { roomFor 2 with listnode := none } :=
    fun _ room => absurd room (by decide)
  exact ⟨_, done, (put_error_unchanged_iff twoKeys (by simp) done).mpr keeps (by decide)⟩

def fullPools : Pools Nat := { roomFor 2 with vdata := false }

/-- A value of two octets is to take the place of one octet, and the old one is lost. -/
theorem put_error_loses_value : ¬ ∀ (database : Database Nat) (kd : List UInt8) (value : PutValue)
    (flags : UInt8) (pools : Pools Nat) (after : Simpledb Nat) (res : Int),
    (∀ cnode ∈ pools.listnode, database.db.heap cnode = none) →
      database.db.onedbPut kd value flags pools = some (after, res) → res < 0 →
        after.contents = database.db.contents := by
  intro always
  have evaluated : (twoKeys.db.onedbPut [1] (.of [7, 8] (by decide)) simpledbFlagCreate fullPools).map
      (fun outcome => (outcome.2, outcome.1.contents)) =
      some (-1, [some ⟨[1], 1, none⟩, some ⟨[3], 1, some [6]⟩]) := by decide +kernel
  obtain ⟨⟨after, res⟩, done, shown⟩ := Option.map_eq_some_iff.mp evaluated
  obtain ⟨rfl, lost⟩ := Prod.mk.inj shown
  have fresh : ∀ cnode ∈ fullPools.listnode, twoKeys.db.heap cnode = none := by
    rintro _ ⟨⟩
    rfl
  have same := always twoKeys [1] _ _ fullPools after (-1) fresh done (by decide)
  rw [lost] at same
  exact absurd same (by decide)

end EnetTsn.Uniconf
