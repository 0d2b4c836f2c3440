import EnetTsn.Uniconf.SimpledbRefinement

namespace EnetTsn.Uniconf

open EnetTsn.Library

variable {ν : Type} [DecidableEq ν]

def Table.call (table : Table) (event : DbEvent ν) : Table × Answer :=
  match event with
  | .put kd value flags pools =>
    ((table.put kd value flags pools).1, .result (table.put kd value flags pools).2)
  | .get kd => table.get kd
  | .getRelease kd => ((table.getRelease kd).1, .result (table.getRelease kd).2)
  | .del kd => ((table.del kd).1, .result (table.del kd).2)

def replay : List (DbEvent ν × Answer) → Table
  | [] => fun _ => none
  | call :: earlier => ((replay earlier).call call.1).1

def Simpledb.nodes (db : Simpledb ν) : List ν := db.dblist.toList db.heap

structure DbRun.FiniteMap (run : DbRun ν) : Prop where
  linked : Linked run.db.heap run.db.dblist run.db.nodes
  increasing : run.db.nodes.Pairwise fun first second =>
    keycmp (run.db.key first) (run.db.key second) < 0
  found : ∀ kd entry, replay run.history kd = some entry → ∃ node dbd, node ∈ run.db.nodes ∧
    run.db.binSearch kd = some (0, some node) ∧ run.db.data node = some dbd ∧ dbd.kd = kd ∧
      dbd.read = some entry.value
  missing : ∀ kd, replay run.history kd = none → (∀ node ∈ run.db.nodes, run.db.key node ≠ kd) ∧
    ∃ res found, run.db.binSearch kd = some (res, found) ∧ res ≠ 0
  answers : ∀ later event answer earlier, run.history = later ++ (event, answer) :: earlier →
    answer = ((replay earlier).call event).2

/-- A put where the size of the value is zero for a stored one that is not empty, where a
null pointer comes with the size of the stored value, for which the pools have no room, or
that makes a value of 2^32 octets is excluded; other calls are not. -/
def DbPermitted (outcome : DbOutcome ν) (event : DbEvent ν) : Prop :=
  match outcome, event with
  | .intact run, .put kd value flags pools =>
    PutPermitted (replay run.history kd) kd value flags pools
  | _, _ => True

instance (stored : List UInt8) (pools : Pools ν) :
    (value : PutValue) → Decidable (Replaceable stored value pools)
  | ⟨none, vlen, _⟩ => inferInstanceAs (Decidable (vlen.toNat = stored.length → stored = []))
  | ⟨some bytes, _, _⟩ => inferInstanceAs (Decidable
      (bytes.length ≠ stored.length → bytes ≠ [] ∧ pools.vdata = true))

instance (stored : List UInt8) (pools : Pools ν) :
    (value : PutValue) → Decidable (Appendable stored value pools)
  | ⟨none, _, _⟩ => isTrue fun _ impossible => nomatch impossible
  | ⟨some bytes, _, _⟩ => decidable_of_iff (stored.length + bytes.length < 2 ^ 32 ∧
      (stored ++ bytes ≠ [] → pools.vdata = true))
      ⟨fun fits _ same => Option.some.inj same ▸ fits, fun all => all bytes rfl⟩

instance (kd : List UInt8) (value : PutValue) (flags : UInt8) (pools : Pools ν) :
    (found : Option Entry) → Decidable (PutPermitted found kd value flags pools)
  | none => inferInstanceAs (Decidable (flags &&& simpledbFlagCreate ≠ 0 → pools.room = true →
      kd ≠ [] → Replaceable [] value pools))
  | some entry => inferInstanceAs (Decidable (entry.locks = 0 →
      if flags &&& simpledbFlagAppend ≠ 0 then Appendable entry.value value pools
      else Replaceable entry.value value pools))

instance : (outcome : DbOutcome ν) → (event : DbEvent ν) → Decidable (DbPermitted outcome event)
  | .intact run, .put kd value flags pools =>
    inferInstanceAs (Decidable (PutPermitted (replay run.history kd) kd value flags pools))
  | .intact _, .get _ | .intact _, .getRelease _ | .intact _, .del _ | .corrupted, _ => isTrue trivial

variable {db : Simpledb ν} {nodes : List ν} {table : Table} {event : DbEvent ν}
  {outcome : DbOutcome ν} {run : DbRun ν}

theorem Represents.call (represents : Represents db nodes table) (fresh : db.fresh event = true)
    (permitted : ∀ kd value flags pools, event = .put kd value flags pools →
      PutPermitted (table kd) kd value flags pools) :
    ∃ after nodes', db.call event = some (after, (table.call event).2) ∧
      Represents after nodes' (table.call event).1 := by
  cases event with
  | put kd value flags pools =>
    have free : ∀ cnode ∈ pools.listnode, db.heap cnode = none := by
      intro cnode given
      rw [Simpledb.fresh, Option.mem_def.mp given] at fresh
      exact Option.isNone_iff_eq_none.mp fresh
    obtain ⟨after, nodes', done, represented⟩ :=
      represents.put free (permitted kd value flags pools rfl)
    exact ⟨after, nodes', by rw [Simpledb.call, done]; rfl, represented⟩
  | get kd =>
    obtain ⟨after, found, done, answer, represented⟩ := represents.get kd
    refine ⟨after, nodes, ?_, represented⟩
    rw [Simpledb.call, done, Option.map_some]
    exact congrArg (fun answer => some (after, answer)) answer
  | getRelease kd =>
    obtain ⟨after, done, represented⟩ := represents.getRelease kd
    exact ⟨after, nodes, by rw [Simpledb.call, done]; rfl, represented⟩
  | del kd =>
    obtain ⟨after, nodes', done, represented⟩ := represents.del kd
    exact ⟨after, nodes', by rw [Simpledb.call, done]; rfl, represented⟩

/-- A run whose store stands for the map of its history, and whose answers are the map's. -/
structure DbRun.Refines (run : DbRun ν) (nodes : List ν) : Prop where
  represents : Represents run.db nodes (replay run.history)
  answers : ∀ later event answer earlier, run.history = later ++ (event, answer) :: earlier →
    answer = ((replay earlier).call event).2

omit [DecidableEq ν] in
theorem emptyDb_refines : DbRun.Refines (⟨emptyDb, []⟩ : DbRun ν) [] where
  represents := {
    sorted := {
      linked := linked_empty
      stored := fun _ impossible => absurd impossible List.not_mem_nil
      increasing := .nil }
    allocated := fun _ => rfl
    holds := fun _ impossible => absurd impossible List.not_mem_nil
    reached := nofun }
  answers later event answer earlier split := by
    have length := congrArg List.length split
    simp at length

theorem DbRun.Refines.step (refines : run.Refines nodes)
    (permitted : DbPermitted (.intact run) event)
    (taken : simpledbSystem.step (.intact run) event = some outcome) :
    ∃ next nodes', outcome = .intact next ∧ next.Refines nodes' := by
  obtain ⟨fresh, same⟩ := Option.ite_none_right_eq_some.mp taken
  have meets : ∀ kd value flags pools, event = .put kd value flags pools →
      PutPermitted (replay run.history kd) kd value flags pools := by
    rintro kd value flags pools rfl
    exact permitted
  obtain ⟨after, nodes', done, represented⟩ := refines.represents.call fresh meets
  rw [done] at same
  cases same
  refine ⟨_, nodes', rfl, represented, ?_⟩
  intro later event' answer earlier split
  cases later with
  | nil =>
    cases split
    rfl
  | cons last rest =>
    obtain ⟨_, inner⟩ := List.cons.inj split
    exact refines.answers rest event' answer earlier inner

omit [DecidableEq ν] in
theorem DbRun.Refines.finiteMap (refines : run.Refines nodes) : run.FiniteMap := by
  have sorted := refines.represents.sorted
  have same : run.db.nodes = nodes := sorted.linked.toList
  exact {
    linked := same ▸ sorted.linked
    increasing := same ▸ sorted.increasing
    found := by
      intro kd entry there
      obtain ⟨node, dbd, member, searched, found, key, holds⟩ := refines.represents.search there
      exact ⟨node, dbd, same ▸ member, searched, found, key, holds.read⟩
    missing := by
      intro kd none
      have absent := refines.represents.absent none
      obtain ⟨res, found, searched, different, _⟩ := sorted.binSearch_missing absent
      exact ⟨same ▸ absent, res, found, searched, different⟩
    answers := refines.answers }

/-- **The store behaves as a finite map in every run of permitted calls.** -/
theorem simpledb_finite_map (reachable : simpledbSystem.Reachable DbPermitted outcome) :
    ∃ run, outcome = .intact run ∧ DbRun.FiniteMap (ν := ν) run := by
  have invariant : ∃ run nodes, outcome = .intact run ∧ DbRun.Refines run nodes := by
    apply reachable.invariant (fun outcome : DbOutcome ν => ∃ run nodes,
      outcome = .intact run ∧ DbRun.Refines run nodes)
    · exact ⟨_, [], rfl, emptyDb_refines⟩
    · rintro _ event next ⟨run, nodes, rfl, refines⟩ permitted taken
      exact refines.step permitted taken
  obtain ⟨run, nodes, same, refines⟩ := invariant
  exact ⟨run, same, refines.finiteMap⟩

def PutValue.of (bytes : List UInt8) (short : bytes.length < 2 ^ 32) : PutValue where
  bytes := some bytes
  vlen := UInt32.ofNat bytes.length
  sized := by
    intro content same
    rw [← Option.some.inj same]
    exact (UInt32.toNat_ofNat_of_lt' short).symm

def roomFor (cnode : Nat) : Pools Nat where
  dbdata := true
  kdata := true
  listnode := some cnode
  vdata := true
  content _ := 0

def DbOutcome.answers : DbOutcome ν → Option (List Answer)
  | .intact run => some (run.history.map Prod.snd)
  | .corrupted => none

/-- Two keys, of which one is the start of the other; the longer one is written twice and
added to, and the shorter one is deleted. -/
def mapEvents : List (DbEvent Nat) :=
  [ucDbalCreate [1, 2] (.of [7, 8] (by decide)) (roomFor 0),
    ucDbalCreate [1] (.of [5] (by decide)) (roomFor 1),
    ucDbalCreate [1, 2] (.of [6, 6, 6] (by decide)) (roomFor 2),
    ucDbalAppend [1, 2] (.of [9] (by decide)) (roomFor 2),
    .get [1, 2], .del [1, 2], .getRelease [1, 2], .del [1], .get [1]]

theorem simpledb_finite_map_prefix : ∃ run : DbRun Nat, run.history.map Prod.snd =
    [.result (-1), .result 0, .result 0, .result (-1), .value (some [6, 6, 6, 9]), .result 0,
      .result 0, .result 0, .result 0] ∧ run.FiniteMap := by
  have evaluated : ((simpledbSystem.restrict fun outcome event =>
      decide (DbPermitted outcome event)).run simpledbSystem.start mapEvents).map
      DbOutcome.answers = some (some [.result (-1), .result 0, .result 0, .result (-1),
        .value (some [6, 6, 6, 9]), .result 0, .result 0, .result 0, .result 0]) := by
    decide +kernel
  obtain ⟨outcome, finished, answers⟩ := Option.map_eq_some_iff.mp evaluated
  obtain ⟨run, rfl, finite⟩ := simpledb_finite_map ((System.reachable_of_run finished).of_restrict
    fun _ _ => of_decide_eq_true)
  exact ⟨run, Option.some.inj answers, finite⟩

def DbOutcome.latestAgrees : DbOutcome ν → Bool
  | .intact ⟨_, (event, answer) :: earlier⟩ => answer = ((replay earlier).call event).2
  | .intact ⟨_, []⟩ | .corrupted => true

def emptyValueEvents : List (DbEvent Nat) :=
  [ucDbalCreate [1] (.of [7, 8] (by decide)) (roomFor 0),
    ucDbalCreate [1] (.of [] (by decide)) (roomFor 1), .get [1]]

/-- The item has lost its value, but not its size. -/
theorem empty_value_lost : ¬ ∀ outcome : DbOutcome Nat,
    simpledbSystem.Reachable System.anyStep outcome →
      ∃ run, outcome = .intact run ∧ run.FiniteMap := by
  intro always
  have evaluated : (simpledbSystem.run simpledbSystem.start emptyValueEvents).map
      (fun outcome => (outcome.latestAgrees, outcome.answers)) =
      some (false, some [.value none, .result (-1), .result 0]) := by decide +kernel
  obtain ⟨outcome, finished, observed⟩ := Option.map_eq_some_iff.mp evaluated
  obtain ⟨⟨db, history⟩, rfl, finite⟩ := always outcome (System.reachable_of_run finished)
  obtain ⟨agrees, _⟩ := Prod.mk.inj observed
  cases history with
  | nil => cases agrees
  | cons last earlier =>
    have answered := finite.answers [] last.1 last.2 earlier rfl
    exact of_decide_eq_false agrees answered

end EnetTsn.Uniconf
