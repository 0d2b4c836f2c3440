import EnetTsn.Uniconf.ItemChanges

/-!
Items whose values are handed out. `refcounter` counts in eight bits how often the value of an
item was handed out and not yet released, and the calls that change or delete an item look at it.
-/

namespace EnetTsn.Uniconf

open EnetTsn.Library

variable {ν : Type} [DecidableEq ν]

/-- The calls of the interface for single keys, and the deletion at the node of a range. -/
inductive HoldEvent (ν : Type) where
  | call (event : DbEvent ν)
  | delInRange (rangedp : SimpledbRange ν) (direction : Direction)

/-- The store, and how often the value of each key was handed out and not released. -/
structure Holding (ν : Type) where
  db : Simpledb ν
  out : List UInt8 → Nat

inductive HoldOutcome (ν : Type) where
  | intact (holding : Holding ν)
  | corrupted

namespace Holding

def counted (out : List UInt8 → Nat) (event : DbEvent ν) (answer : Answer) : List UInt8 → Nat :=
  match event, answer with
  | .get kd, .value _ => Function.update out kd (out kd + 1)
  | .getRelease kd, .result 0 => Function.update out kd (out kd - 1)
  | _, _ => out

def after (holding : Holding ν) : HoldEvent ν → Option (Holding ν)
  | .call event => (holding.db.call event).map fun (db, answer) =>
      { db := db, out := counted holding.out event answer }
  | .delInRange rangedp direction =>
    (holding.db.simpledbDelInRange rangedp direction).map fun (db, _, _) => { holding with db := db }

/-- A node that a put is given is not in use, and a range stands at a node of the list. -/
def fresh (holding : Holding ν) : HoldEvent ν → Bool
  | .call event => holding.db.fresh event
  | .delInRange rangedp _ => rangedp.np.all fun np => np ∈ holding.db.nodes

end Holding

def holdSystem : System (HoldOutcome ν) (HoldEvent ν) where
  start := .intact { db := emptyDb, out := fun _ => 0 }
  step outcome event :=
    match outcome with
    | .corrupted => none
    | .intact holding =>
      if holding.fresh event then some ((holding.after event).elim .corrupted .intact) else none

/-- A value is not handed out a 256th time before one of the others is released, and a value
does not grow to 2^32 octets. -/
def HoldPermitted : HoldOutcome ν → HoldEvent ν → Prop
  | .intact holding, .call (.get kd) => holding.out kd < 255
  | .intact holding, .call (.put kd value flags _) =>
    (holding.db.itemOf kd).all fun dbd => dbd.Addable value flags
  | _, _ => True

instance : (outcome : HoldOutcome ν) → (event : HoldEvent ν) → Decidable (HoldPermitted outcome event)
  | .intact holding, .call (.get kd) => inferInstanceAs (Decidable (holding.out kd < 255))
  | .intact holding, .call (.put kd value flags _) => inferInstanceAs (Decidable
      (((holding.db.itemOf kd).all fun dbd => dbd.Addable value flags) = true))
  | .intact _, .call (.getRelease _) | .intact _, .call (.del _) | .intact _, .delInRange _ _
  | .corrupted, _ => isTrue trivial

def Simpledb.Keeps (db after : Simpledb ν) (node : ν) : Prop :=
  node ∈ after.nodes ∧ ∃ dbd count, db.data node = some dbd ∧
    after.data node = some { dbd with refcounter := count }

structure Holding.Protects (holding : Holding ν) : Prop where
  /-- The value of the key is handed out: its item stays as it is whatever call comes next. -/
  held : ∀ kd, 0 < holding.out kd → ∃ node, node ∈ holding.db.nodes ∧ holding.db.key node = kd ∧
    ∀ event next, HoldPermitted (.intact holding) event →
      holdSystem.step (.intact holding) event = some next →
        ∃ after, next = .intact after ∧ holding.db.Keeps after.db node
  /-- All that was handed out of an item is released: it can be put and deleted. -/
  free : ∀ node ∈ holding.db.nodes, ∀ dbd, holding.db.data node = some dbd →
    holding.out dbd.kd = 0 →
      (∀ value flags pools, HoldPermitted (.intact holding) (.call (.put dbd.kd value flags pools)) →
        dbd.refused value (flags &&& simpledbFlagAppend ≠ 0) pools = false →
          ∃ after stored, holding.db.onedbPut dbd.kd value flags pools = some (after, 0) ∧
            after.itemOf dbd.kd = some stored ∧
            (flags &&& simpledbFlagAppend = 0 → dbd.read.isSome = true →
              ∀ bytes ∈ value.bytes, stored.read = some bytes)) ∧
      ∃ after, holding.db.onedbDel dbd.kd = some (after, 0)

variable {after : Simpledb ν} {nodes nodes' : List ν} {node : ν} {kd : List UInt8} {dbd : Dbdata}
  {value : PutValue} {flags : UInt8} {pools : Pools ν}

structure Holding.Counts (holding : Holding ν) (nodes : List ν) : Prop where
  shaped : holding.db.Shaped nodes
  items : ∀ node ∈ nodes, ∀ dbd, holding.db.data node = some dbd →
    dbd.refcounter.toNat = holding.out dbd.kd ∧ dbd.Sized
  absent : ∀ kd, (∀ node ∈ nodes, holding.db.key node ≠ kd) → holding.out kd = 0

namespace Holding.Counts

variable {holding next : Holding ν} {out : List UInt8 → Nat}

variable (counts : holding.Counts nodes)
include counts

omit [DecidableEq ν] in
theorem touch (touches : holding.db.Touches after nodes nodes' kd)
    (same : ∀ other, other ≠ kd → out other = holding.out other)
    (here : after.AtKey nodes' kd fun dbd => dbd.refcounter.toNat = out kd ∧ dbd.Sized)
    (absent : (∀ node ∈ nodes', after.key node ≠ kd) → out kd = 0) :
    Holding.Counts { db := after, out := out } nodes' where
  shaped := touches.shaped
  items := by
    intro node inside dbd found
    by_cases key : dbd.kd = kd
    · rw [key]
      exact here node inside dbd found key
    · obtain ⟨before, stored⟩ := (touches.others node dbd key).mpr ⟨inside, found⟩
      obtain ⟨counted, sized⟩ := counts.items node before dbd stored
      exact ⟨counted.trans (same dbd.kd key).symm, sized⟩
  absent := by
    intro other missing
    by_cases key : other = kd
    · rw [key] at missing ⊢
      exact absent missing
    · refine (same other key).trans (counts.absent other fun node inside atKey => ?_)
      obtain ⟨dbd, found⟩ := Option.isSome_iff_exists.mp (counts.shaped.sorted.stored node inside)
      rw [key_eq found] at atKey
      obtain ⟨later, kept⟩ := (touches.others node dbd (by rw [atKey]; exact key)).mp ⟨inside, found⟩
      exact missing node later ((key_eq kept).trans atKey)

omit [DecidableEq ν] in
theorem out_eq_zero
    (free : holding.db.AtKey nodes kd fun dbd => dbd.refcounter = 0) : holding.out kd = 0 := by
  by_cases present : ∃ node ∈ nodes, holding.db.key node = kd
  · obtain ⟨node, inside, key⟩ := present
    obtain ⟨dbd, found⟩ := Option.isSome_iff_exists.mp (counts.shaped.sorted.stored node inside)
    rw [key_eq found] at key
    rw [← key, ← (counts.items node inside dbd found).1, free node inside dbd found key]
    rfl
  · exact counts.absent kd fun node inside key => present ⟨node, inside, key⟩

omit [DecidableEq ν] in
theorem touch_free (touches : holding.db.Touches after nodes nodes' kd)
    (before : holding.db.AtKey nodes kd fun dbd => dbd.refcounter = 0)
    (later : after.AtKey nodes' kd fun dbd => dbd.refcounter = 0 ∧ dbd.Sized) :
    Holding.Counts { holding with db := after } nodes' ∧
      ∀ node ∈ nodes, 0 < holding.out (holding.db.key node) → holding.db.Keeps after node := by
  have zero := counts.out_eq_zero before
  constructor
  · refine counts.touch touches (fun _ _ => rfl) ?_ fun _ => zero
    intro node inside dbd found key
    obtain ⟨free, sized⟩ := later node inside dbd found key
    rw [free, zero]
    exact ⟨rfl, sized⟩
  · intro node inside held
    obtain ⟨dbd, found⟩ := Option.isSome_iff_exists.mp (counts.shaped.sorted.stored node inside)
    rw [key_eq found] at held
    have other : dbd.kd ≠ kd := by
      rintro rfl
      rw [zero] at held
      cases held
    obtain ⟨stays, kept⟩ := (touches.others node dbd other).mp ⟨inside, found⟩
    refine ⟨touches.shaped.sorted.nodes_eq ▸ stays, dbd, dbd.refcounter, found, kept⟩

theorem recount (member : node ∈ nodes) (found : holding.db.data node = some dbd) (count : UInt8) :
    (Holding.Counts { db := holding.db.setData node { dbd with refcounter := count }
                      out := Function.update holding.out dbd.kd count.toNat } nodes) ∧
      ∀ other ∈ nodes,
        holding.db.Keeps (holding.db.setData node { dbd with refcounter := count }) other := by
  have key : ({ dbd with refcounter := count } : Dbdata).kd = dbd.kd := rfl
  have touches := Simpledb.Touches.setData counts.shaped found key
  constructor
  · refine counts.touch touches (fun other apart => Function.update_of_ne apart _ _) ?_ ?_
    · refine counts.shaped.atKey_setData member found key ?_
      rw [Function.update_self]
      exact ⟨rfl, (counts.items node member dbd found).2⟩
    · intro missing
      refine absurd ?_ (missing node member)
      exact (key_setData_same found key node).trans (key_eq found)
  · intro other inside
    refine ⟨touches.shaped.sorted.nodes_eq ▸ inside, ?_⟩
    by_cases same : other = node
    · exact ⟨dbd, count, same ▸ found, same ▸ Function.update_self _ _ _⟩
    · obtain ⟨item, stored⟩ := Option.isSome_iff_exists.mp (counts.shaped.sorted.stored other inside)
      exact ⟨item, item.refcounter, stored, (Function.update_of_ne same _ _).trans stored⟩

omit [DecidableEq ν] in
theorem keeps_self : ∀ node ∈ nodes, holding.db.Keeps holding.db node := by
  intro node inside
  obtain ⟨dbd, found⟩ := Option.isSome_iff_exists.mp (counts.shaped.sorted.stored node inside)
  exact ⟨counts.shaped.sorted.nodes_eq ▸ inside, dbd, dbd.refcounter, found, found⟩

theorem put (fresh : holding.db.fresh (.put kd value flags pools) = true)
    (permitted : HoldPermitted (.intact holding) (.call (.put kd value flags pools))) :
    ∃ next nodes', holding.after (.call (.put kd value flags pools)) = some next ∧
      next.Counts nodes' ∧
      ∀ node ∈ nodes, 0 < holding.out (holding.db.key node) → holding.db.Keeps next.db node := by
  have unused : ∀ cnode ∈ pools.listnode, holding.db.heap cnode = none := fun cnode given =>
    Option.isNone_iff_eq_none.mp ((Option.all_eq_true _ _).mp fresh cnode given)
  have fits : ∀ dbd, holding.db.itemOf kd = some dbd → dbd.Addable value flags := fun dbd found =>
    of_decide_eq_true ((Option.all_eq_true _ _).mp permitted dbd found)
  obtain ⟨after, res, done, cases_⟩ := counts.shaped.put_cases unused
    (fun node inside dbd found => (counts.items node inside dbd found).2) fits
  have called : holding.after (.call (.put kd value flags pools)) =
      some { holding with db := after } := by
    rw [Holding.after, Simpledb.call, done]
    rfl
  rcases cases_ with rfl | ⟨nodes', touches, before, later⟩
  · refine ⟨_, nodes, called, counts, fun node inside _ => ?_⟩
    exact counts.keeps_self node inside
  · obtain ⟨counted, kept⟩ := counts.touch_free touches before later
    exact ⟨_, nodes', called, counted, kept⟩

theorem get (permitted : HoldPermitted (.intact holding) (.call (.get kd))) :
    ∃ next, holding.after (.call (.get kd)) = some next ∧ next.Counts nodes ∧
      ∀ node ∈ nodes, holding.db.Keeps next.db node := by
  rw [Holding.after, Simpledb.call, Simpledb.onedbGet]
  rcases counts.shaped.search kd with ⟨node, dbd, member, searched, found, rfl⟩ |
    ⟨_, res, found, searched, different⟩
  · have below : holding.out dbd.kd < 255 := permitted
    obtain ⟨counted, _⟩ := counts.items node member dbd found
    have count : (dbd.refcounter + 1).toNat = holding.out dbd.kd + 1 := by
      rw [UInt8.toNat_add, counted]
      exact Nat.mod_eq_of_lt (Nat.succ_lt_succ below)
    have recounted := counts.recount member found (dbd.refcounter + 1)
    rw [count] at recounted
    simp only [searched, Option.bind_eq_bind, Option.bind_some, ne_eq, not_true_eq_false, if_false,
      found, Option.map_some]
    exact ⟨_, rfl, recounted.1, recounted.2⟩
  · simp only [searched, Option.bind_eq_bind, Option.bind_some, ne_eq, different,
      not_false_eq_true, if_true, Option.map_some]
    exact ⟨_, rfl, counts, counts.keeps_self⟩

theorem getRelease (kd : List UInt8) :
    ∃ next, holding.after (.call (.getRelease kd)) = some next ∧ next.Counts nodes ∧
      ∀ node ∈ nodes, holding.db.Keeps next.db node := by
  rw [Holding.after, Simpledb.call, Simpledb.onedbGetRelease]
  rcases counts.shaped.search kd with ⟨node, dbd, member, searched, found, rfl⟩ |
    ⟨_, res, found, searched, different⟩
  · obtain ⟨counted, _⟩ := counts.items node member dbd found
    have count : (if 0 < dbd.refcounter then dbd.refcounter - 1 else dbd.refcounter).toNat =
        holding.out dbd.kd - 1 := by
      split
      · rename_i held
        have positive : 1 ≤ dbd.refcounter := by
          exact UInt8.lt_iff_toNat_lt.mp held
        rw [UInt8.toNat_sub_of_le _ _ positive, counted]
        rfl
      · rename_i free
        rw [← counted, refcounter_eq_zero free]
        rfl
    have recounted := counts.recount member found
      (if 0 < dbd.refcounter then dbd.refcounter - 1 else dbd.refcounter)
    rw [count] at recounted
    simp only [searched, Option.bind_eq_bind, Option.bind_some, ne_eq, not_true_eq_false, if_false,
      found, Option.map_some]
    exact ⟨_, rfl, recounted.1, recounted.2⟩
  · simp only [searched, Option.bind_eq_bind, Option.bind_some, ne_eq, different,
      not_false_eq_true, if_true, Option.map_some]
    exact ⟨_, rfl, counts, counts.keeps_self⟩

theorem del (kd : List UInt8) :
    ∃ next nodes', holding.after (.call (.del kd)) = some next ∧ next.Counts nodes' ∧
      ∀ node ∈ nodes, 0 < holding.out (holding.db.key node) → holding.db.Keeps next.db node := by
  rw [Holding.after, Simpledb.call, Simpledb.onedbDel]
  rcases counts.shaped.search kd with ⟨node, dbd, member, searched, found, rfl⟩ |
    ⟨_, res, found, searched, different⟩
  · simp only [searched, Option.bind_eq_bind, Option.bind_some, ne_eq, not_true_eq_false, if_false,
      found]
    by_cases locked : 0 < dbd.refcounter
    · rw [if_pos locked]
      exact ⟨_, nodes, rfl, counts, fun node inside _ => counts.keeps_self node inside⟩
    · obtain ⟨unlinked, nodes', result, touches, before, later⟩ :=
        counts.shaped.delete_cases member found (refcounter_eq_zero locked)
      obtain ⟨counted, kept⟩ := counts.touch_free touches before later
      rw [if_neg locked, result]
      exact ⟨_, nodes', rfl, counted, kept⟩
  · simp only [searched, Option.bind_eq_bind, Option.bind_some, ne_eq, different,
      not_false_eq_true, if_true, Option.map_some]
    exact ⟨_, nodes, rfl, counts, fun node inside _ => counts.keeps_self node inside⟩

theorem delInRange (fresh : holding.fresh (.delInRange rangedp direction) = true) :
    ∃ next nodes', holding.after (.delInRange rangedp direction) = some next ∧ next.Counts nodes' ∧
      ∀ node ∈ nodes, 0 < holding.out (holding.db.key node) → holding.db.Keeps next.db node := by
  have unchanged : ∃ next nodes', some holding = some next ∧ next.Counts nodes' ∧
      ∀ node ∈ nodes, 0 < holding.out (holding.db.key node) → holding.db.Keeps next.db node :=
    ⟨_, nodes, rfl, counts, fun node inside _ => counts.keeps_self node inside⟩
  rw [Holding.after, Simpledb.simpledbDelInRange]
  by_cases moves : direction = .nomove
  · rw [if_pos moves]
    exact unchanged
  rw [if_neg moves]
  cases atNode : rangedp.np with
  | none => exact unchanged
  | some np =>
    have member : np ∈ nodes := by
      have inside := of_decide_eq_true ((Option.all_eq_true _ _).mp fresh np atNode)
      exact counts.shaped.sorted.nodes_eq ▸ inside
    obtain ⟨dbd, found⟩ := Option.isSome_iff_exists.mp (counts.shaped.sorted.stored np member)
    simp only [found, Option.bind_eq_bind, Option.bind_some]
    by_cases locked : 0 < dbd.refcounter
    · rw [if_pos locked]
      exact unchanged
    · obtain ⟨unlinked, nodes', result, touches, before, later⟩ :=
        counts.shaped.delete_cases member found (refcounter_eq_zero locked)
      obtain ⟨links, allocated⟩ := counts.shaped.sorted.linked.segment.allocated member
      obtain ⟨counted, kept⟩ := counts.touch_free touches before later
      rw [if_neg locked, allocated, result]
      exact ⟨_, nodes', rfl, counted, kept⟩

theorem step (permitted : HoldPermitted (.intact holding) event)
    (taken : holdSystem.step (.intact holding) event = some outcome) :
    ∃ next nodes', outcome = .intact next ∧ next.Counts nodes' ∧
      ∀ node ∈ nodes, 0 < holding.out (holding.db.key node) → holding.db.Keeps next.db node := by
  obtain ⟨fresh, same⟩ := Option.ite_none_right_eq_some.mp taken
  have result : ∃ next nodes', holding.after event = some next ∧ next.Counts nodes' ∧
      ∀ node ∈ nodes, 0 < holding.out (holding.db.key node) → holding.db.Keeps next.db node := by
    cases event with
    | delInRange rangedp direction => exact counts.delInRange fresh
    | call event =>
      cases event with
      | put kd value flags pools => exact counts.put fresh permitted
      | get kd =>
        obtain ⟨next, done, counted, kept⟩ := counts.get permitted
        exact ⟨next, nodes, done, counted, fun node inside _ => kept node inside⟩
      | getRelease kd =>
        obtain ⟨next, done, counted, kept⟩ := counts.getRelease kd
        exact ⟨next, nodes, done, counted, fun node inside _ => kept node inside⟩
      | del kd => exact counts.del kd
  obtain ⟨next, nodes', done, counted, kept⟩ := result
  rw [done] at same
  cases same
  exact ⟨next, nodes', rfl, counted, kept⟩

omit [DecidableEq ν] in
theorem refcounter_free (member : node ∈ nodes)
    (found : holding.db.data node = some dbd) (zero : holding.out dbd.kd = 0) :
    dbd.refcounter = 0 := by
  obtain ⟨counted, _⟩ := counts.items node member dbd found
  rw [zero] at counted
  exact UInt8.toNat_inj.mp counted

theorem put_free (member : node ∈ nodes)
    (found : holding.db.data node = some dbd) (zero : holding.out dbd.kd = 0)
    (permitted : HoldPermitted (.intact holding) (.call (.put dbd.kd value flags pools)))
    (granted : dbd.refused value (flags &&& simpledbFlagAppend ≠ 0) pools = false) :
    ∃ after stored, holding.db.onedbPut dbd.kd value flags pools = some (after, 0) ∧
      after.itemOf dbd.kd = some stored ∧
      (flags &&& simpledbFlagAppend = 0 → dbd.read.isSome = true →
        ∀ bytes ∈ value.bytes, stored.read = some bytes) := by
  have free := counts.refcounter_free member found zero
  have searched := counts.shaped.sorted.binSearch_found member (key_eq found)
  have sized := (counts.items node member dbd found).2
  have put : holding.db.onedbPut dbd.kd value flags pools =
      if flags &&& simpledbFlagAppend ≠ 0 then holding.db.appendValue node dbd value pools
      else holding.db.storeValue node value pools := by
    rw [Simpledb.onedbPut, searched]
    simp only [Option.bind_eq_bind, Option.bind_some, ne_eq, not_true_eq_false, if_false, found, free]
    rfl
  have item {stored : Dbdata} (key : stored.kd = dbd.kd) :
      (holding.db.setData node stored).itemOf dbd.kd = some stored := by
    rw [← key]
    exact (counts.shaped.setData found key).itemOf_found member (Function.update_self _ _ _)
  rw [put]
  by_cases appends : flags &&& simpledbFlagAppend = 0
  · rw [decide_eq_false (not_not_intro appends)] at granted
    rw [if_neg (not_not_intro appends)]
    by_cases readable : dbd.read.isSome = true ∧ value.bytes.isSome = true
    · obtain ⟨content, read⟩ := Option.isSome_iff_exists.mp readable.1
      obtain ⟨bytes, given⟩ := Option.isSome_iff_exists.mp readable.2
      obtain ⟨stored, done, key, read'⟩ := Dbdata.store_read found read given granted
      refine ⟨_, stored, done, item key, fun _ _ other same => ?_⟩
      rw [given] at same
      cases same
      exact read'
    · obtain ⟨stored, res, done, key, _⟩ := sized.store found value pools
      have accepted := Simpledb.storeValue_refused found done
      rw [granted, if_neg Bool.false_ne_true] at accepted
      rw [accepted] at done
      exact ⟨_, stored, done, item key, fun _ some_ bytes given =>
        absurd ⟨some_, Option.isSome_of_mem given⟩ readable⟩
  · rw [decide_eq_true appends] at granted
    rw [if_pos appends]
    have fits : dbd.Addable value flags := of_decide_eq_true
      ((Option.all_eq_true _ _).mp permitted dbd (counts.shaped.itemOf_found member found))
    obtain ⟨stored, res, done, key, _⟩ := sized.append found value pools (fits free appends)
    have accepted := Simpledb.appendValue_refused done
    rw [granted, if_neg Bool.false_ne_true] at accepted
    rw [accepted] at done
    exact ⟨_, stored, done, item key, fun plain => absurd plain appends⟩

private theorem del_free (member : node ∈ nodes)
    (found : holding.db.data node = some dbd) (zero : holding.out dbd.kd = 0) :
    ∃ after, holding.db.onedbDel dbd.kd = some (after, 0) := by
  have free := counts.refcounter_free member found zero
  have searched := counts.shaped.sorted.binSearch_found member (key_eq found)
  obtain ⟨unlinked, _, result, _⟩ := counts.shaped.delete_cases member found free
  rw [Simpledb.onedbDel, searched]
  simp only [Option.bind_eq_bind, Option.bind_some, ne_eq, not_true_eq_false, if_false, found, free,
    result]
  exact ⟨_, rfl⟩

theorem protects : holding.Protects where
  held := by
    intro kd positive
    obtain ⟨node, inside, rfl⟩ : ∃ node ∈ nodes, holding.db.key node = kd := by
      by_contra missing
      rw [counts.absent kd fun node inside same => missing ⟨node, inside, same⟩] at positive
      cases positive
    refine ⟨node, counts.shaped.sorted.nodes_eq ▸ inside, rfl, fun event outcome permitted taken => ?_⟩
    obtain ⟨next, _, same, _, kept⟩ := counts.step permitted taken
    exact ⟨next, same, kept node inside positive⟩
  free := by
    intro node inside dbd found zero
    rw [counts.shaped.sorted.nodes_eq] at inside
    exact ⟨fun value flags pools permitted granted =>
      counts.put_free inside found zero permitted granted, counts.del_free inside found zero⟩

end Holding.Counts

theorem reachable_counts {outcome : HoldOutcome ν}
    (reachable : holdSystem.Reachable HoldPermitted outcome) :
    ∃ holding nodes, outcome = .intact holding ∧ Holding.Counts holding nodes := by
  apply reachable.invariant (fun outcome : HoldOutcome ν => ∃ holding nodes,
    outcome = .intact holding ∧ Holding.Counts holding nodes)
  · exact ⟨_, [], rfl, {
      shaped := emptyDb_refines.represents.shaped
      items := fun _ impossible => absurd impossible List.not_mem_nil
      absent := fun _ _ => rfl }⟩
  · rintro _ event next ⟨holding, nodes, rfl, counts⟩ permitted taken
    obtain ⟨after, nodes', same, counted, _⟩ := counts.step permitted taken
    exact ⟨after, nodes', same, counted⟩

/-- **The value of an item stays while it is handed out**, and the item can be changed again when
all is released, in every run in which no value is handed out more than 255 times at once. -/
theorem held_items_protected {outcome : HoldOutcome ν}
    (reachable : holdSystem.Reachable HoldPermitted outcome) :
    ∃ holding, outcome = .intact holding ∧ holding.Protects := by
  obtain ⟨holding, nodes, same, counts⟩ := reachable_counts reachable
  exact ⟨holding, same, counts.protects⟩

theorem reachable_of_checked {outcome : HoldOutcome ν}
    (finished : (holdSystem.restrict fun outcome event => decide (HoldPermitted outcome event)).run
      holdSystem.start events = some outcome) : holdSystem.Reachable HoldPermitted outcome :=
  (System.reachable_of_run finished).of_restrict fun _ _ => of_decide_eq_true

def HoldOutcome.count (outcome : HoldOutcome ν) (kd : List UInt8) : Option Nat :=
  match outcome with
  | .intact holding => some (holding.out kd)
  | .corrupted => none

/-- The value of one key is handed out twice, and one of these is released. -/
theorem held_items_protected_once : ∃ holding : Holding Nat,
    holdSystem.Reachable HoldPermitted (.intact holding) ∧ holding.out [1] = 1 ∧
      holding.Protects := by
  have evaluated : ((holdSystem.restrict fun outcome event =>
      decide (HoldPermitted outcome event)).run holdSystem.start
      [.call (ucDbalCreate [1] (.of [5] (by decide)) (roomFor 0)), .call (.get [1]),
        .call (.get [1]), .call (.getRelease [1])]).map (HoldOutcome.count · [1]) =
      some (some 1) := by decide +kernel
  obtain ⟨outcome, finished, count⟩ := Option.map_eq_some_iff.mp evaluated
  have reachable := reachable_of_checked finished
  obtain ⟨holding, rfl, protects⟩ := held_items_protected reachable
  exact ⟨holding, reachable, Option.some.inj count, protects⟩

/-- The store has an item of the key 1 whose counter is the number of gets modulo 2^8. -/
structure Holding.HandedOut (holding : Holding Nat) (gets : Nat) (nodes : List Nat) (node : Nat)
    (dbd : Dbdata) : Prop where
  reachable : holdSystem.Reachable System.anyStep (.intact holding)
  shaped : holding.db.Shaped nodes
  member : node ∈ nodes
  found : holding.db.data node = some dbd
  key : dbd.kd = [1]
  refcounter : dbd.refcounter = UInt8.ofNat gets
  out : holding.out [1] = gets

theorem handed_out (gets : Nat) : ∃ (holding : Holding Nat) (nodes : List Nat) (node : Nat)
    (dbd : Dbdata), holding.HandedOut gets nodes node dbd := by
  induction gets with
  | zero =>
    have evaluated : ((holdSystem.restrict fun outcome event =>
        decide (HoldPermitted outcome event)).run holdSystem.start
        [.call (ucDbalCreate [1] (.of [5] (by decide)) (roomFor 0))]).any (fun outcome =>
          match outcome with
          | .intact holding => holding.db.nodes = [0] ∧
              holding.db.data 0 = some ⟨0, [1], 1, some [5]⟩ ∧ holding.out [1] = 0
          | .corrupted => false) = true := by decide +kernel
    obtain ⟨outcome, finished, holds⟩ := Option.any_eq_true _ _ |>.mp evaluated
    have reachable := reachable_of_checked finished
    obtain ⟨holding, nodes, rfl, counts⟩ := reachable_counts reachable
    obtain ⟨list, found, out⟩ := of_decide_eq_true holds
    rw [counts.shaped.sorted.nodes_eq] at list
    exact ⟨holding, nodes, 0, _, reachable.mono fun _ _ _ => trivial, counts.shaped,
      by rw [list]; exact List.mem_singleton_self 0, found, rfl, rfl, out⟩
  | succ gets ih =>
    obtain ⟨holding, nodes, node, dbd, earlier⟩ := ih
    have searched := earlier.shaped.sorted.binSearch_found earlier.member
      ((key_eq earlier.found).trans earlier.key)
    have key : ({ dbd with refcounter := dbd.refcounter + 1 } : Dbdata).kd = dbd.kd := rfl
    have taken : holdSystem.step (.intact holding) (.call (.get [1])) = some (.intact {
        db := holding.db.setData node { dbd with refcounter := dbd.refcounter + 1 }
        out := Function.update holding.out [1] (holding.out [1] + 1) }) := by
      simp only [holdSystem, Holding.fresh, Simpledb.fresh, Holding.after, Simpledb.call,
        Simpledb.onedbGet, searched, Option.bind_eq_bind, Option.bind_some, ne_eq,
        not_true_eq_false, if_false, earlier.found, Option.map_some]
      rfl
    refine ⟨_, nodes, node, _, .step earlier.reachable trivial taken,
      earlier.shaped.setData earlier.found key, earlier.member, Function.update_self _ _ _,
      earlier.key, ?_, ?_⟩
    · rw [earlier.refcounter, UInt8.ofNat_add]
      rfl
    · have counted := Function.update_self ([1] : List UInt8) (holding.out [1] + 1) holding.out
      exact counted.trans (by rw [earlier.out])

/-- The value of an item is handed out 256 times, and the item is deleted. -/
theorem held_item_deleted : ¬ ∀ outcome : HoldOutcome Nat,
    holdSystem.Reachable System.anyStep outcome →
      ∃ holding, outcome = .intact holding ∧ holding.Protects := by
  intro always
  obtain ⟨holding, nodes, node, dbd, handed⟩ := handed_out 256
  obtain ⟨_, ⟨⟩, protects⟩ := always _ handed.reachable
  obtain ⟨other, inside, same, kept⟩ := protects.held [1] (by rw [handed.out]; decide)
  obtain ⟨unlinked, nodes', result, touches, gone⟩ :=
    Simpledb.Touches.remove handed.shaped handed.member handed.found
  have searched := handed.shaped.sorted.binSearch_found handed.member
    ((key_eq handed.found).trans handed.key)
  have free : ¬ 0 < dbd.refcounter := by
    rw [handed.refcounter]
    decide
  have taken : holdSystem.step (.intact holding) (.call (.del [1])) =
      some (.intact { holding with db := holding.db.without node unlinked }) := by
    simp only [holdSystem, Holding.fresh, Simpledb.fresh, Holding.after, Simpledb.call,
      Simpledb.onedbDel, searched, Option.bind_eq_bind, Option.bind_some, ne_eq,
      not_true_eq_false, if_false, handed.found, free, result, Option.map_some]
    rfl
  obtain ⟨after, ⟨⟩, stays, item, count, before, later⟩ := kept (.call (.del [1])) _ trivial taken
  rw [touches.shaped.sorted.nodes_eq] at stays
  rw [key_eq before] at same
  exact gone other stays ((key_eq later).trans (same.trans handed.key.symm))

end EnetTsn.Uniconf
