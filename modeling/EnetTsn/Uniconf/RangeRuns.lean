import EnetTsn.Uniconf.RangeIteration

namespace EnetTsn.Uniconf

open EnetTsn.Library

private theorem not_low_of_le {keyrange : KeyRange} (notLow : keyrange.low kd1 = false)
    (order : word kd1 ≤ word kd2) : keyrange.low kd2 = false := by
  simp only [KeyRange.low, Option.any_eq_false, decide_eq_false_iff_not, keycmp_neg] at notLow ⊢
  exact fun kd given below => notLow kd given (lt_of_le_of_lt order below)

private theorem not_high_of_le {keyrange : KeyRange} (notHigh : keyrange.high kd2 = false)
    (order : word kd1 ≤ word kd2) : keyrange.high kd1 = false := by
  simp only [KeyRange.high, Option.any_eq_false, decide_eq_false_iff_not, keycmp_neg] at notHigh ⊢
  exact fun kd given above => notHigh kd given (lt_of_lt_of_le above order)

variable {ν : Type} {db after : Simpledb ν} {nodes nodes' : List ν} {iteration : Iteration ν}
  {np n2 : ν}

/-- The nodes that an iteration goes on to use: the one that it visits next, and the last one. -/
def Iteration.stands (iteration : Iteration ν) : List ν :=
  match iteration.np with
  | none => []
  | some np => np :: (iteration.rangedp.bind SimpledbRange.n2).toList

structure Iteration.Ahead (iteration : Iteration ν) (db : Simpledb ν) (nodes : List ν)
    (np n2 : ν) : Prop where
  last : iteration.rangedp.bind SimpledbRange.n2 = some n2
  spans : db.Spans nodes np n2
  notLow : iteration.keyrange.low (db.key np) = false
  notHigh : iteration.keyrange.high (db.key n2) = false
  behind : ∀ kd ∈ iteration.returned, word kd < word (db.key np)
  covered : ∀ kd ∈ iteration.throughout, kd ∈ iteration.returned ∨
    word (db.key np) ≤ word kd ∧ word kd ≤ word (db.key n2)

structure Iteration.Standing (iteration : Iteration ν) (db : Simpledb ν) (nodes : List ν) :
    Prop where
  increasing : iteration.returned.Pairwise fun first second => keycmp first second < 0
  inRange : ∀ kd ∈ iteration.returned, iteration.keyrange.contains kd = true
  present : ∀ kd ∈ iteration.throughout, ∃ node ∈ nodes, db.key node = kd
  finished : iteration.np = none → ∀ kd ∈ iteration.throughout, kd ∈ iteration.returned
  ahead : ∀ np, iteration.np = some np → ∃ n2, iteration.Ahead db nodes np n2

/-- What an iteration promises: the node that it visits next is in the list, it gives the keys
of the range in their order and none twice, and at its end it has given each one that has been
present all the time. -/
structure Iteration.Right (iteration : Iteration ν) (db : Simpledb ν) : Prop where
  visited : ∀ np, iteration.np = some np → np ∈ db.nodes
  increasing : iteration.returned.Pairwise fun first second => keycmp first second < 0
  inRange : ∀ kd ∈ iteration.returned, iteration.keyrange.contains kd = true
  complete : iteration.np = none → ∀ kd ∈ iteration.throughout, kd ∈ iteration.returned

variable [DecidableEq ν]

namespace Iteration.Standing

section

variable (standing : iteration.Standing db nodes)
include standing

omit [DecidableEq ν] in
theorem right (shaped : db.Shaped nodes) :
    iteration.Right db where
  visited := by
    intro np atNode
    obtain ⟨n2, ahead⟩ := standing.ahead np atNode
    have same : db.nodes = nodes := shaped.sorted.linked.toList
    rw [same]
    exact ahead.spans.first
  increasing := standing.increasing
  inRange := standing.inRange
  complete := standing.finished

omit [DecidableEq ν] in
theorem mono (shaped : after.Shaped nodes')
    (kept : ∀ node ∈ nodes, node ∈ iteration.stands → node ∈ nodes' ∧ after.key node = db.key node) :
    ({ iteration with
      throughout := iteration.throughout.filter fun kd => kd ∈ after.keys } : Iteration ν).Standing
        after nodes' where
  increasing := standing.increasing
  inRange := standing.inRange
  present := by
    intro kd member
    have inside := of_decide_eq_true (List.mem_filter.mp member).2
    have same : after.nodes = nodes' := shaped.sorted.linked.toList
    rw [Simpledb.keys, same] at inside
    exact List.mem_map.mp inside
  finished := fun ended kd member => standing.finished ended kd (List.mem_of_mem_filter member)
  ahead := by
    intro np atNode
    obtain ⟨n2, ahead⟩ := standing.ahead np atNode
    have atNow : iteration.np = some np := atNode
    have used : iteration.stands = [np, n2] := by
      rw [Iteration.stands, atNow, ahead.last]
      rfl
    rw [used] at kept
    have current := kept np ahead.spans.first (by simp)
    have final := kept n2 ahead.spans.last (by simp)
    refine ⟨n2, ?_⟩
    exact {
      last := ahead.last
      spans := ahead.spans.mono current final
      notLow := by
        rw [current.2]
        exact ahead.notLow
      notHigh := by
        rw [final.2]
        exact ahead.notHigh
      behind := by
        rw [current.2]
        exact ahead.behind
      covered := by
        intro kd member
        rw [current.2, final.2]
        exact ahead.covered kd (List.mem_of_mem_filter member) }

theorem advance (shaped : db.Shaped nodes) (atNode : iteration.np = some np) :
    ∃ moved dbd, db.simpledbGetFromRange iteration.rangedp .forward = some (some (moved, dbd)) ∧
      ({ iteration with
        rangedp := some moved
        returned := iteration.returned ++ [dbd.kd] } : Iteration ν).Standing db nodes := by
  obtain ⟨n2, ahead⟩ := standing.ahead np atNode
  obtain ⟨range, given, atRange⟩ := Option.bind_eq_some_iff.mp atNode
  have atLast : range.n2 = some n2 := by
    have last := ahead.last
    rwa [given] at last
  obtain ⟨dbd, found⟩ :=
    Option.isSome_iff_exists.mp (shaped.sorted.stored np ahead.spans.first)
  have key : db.key np = dbd.kd := key_eq found
  have increasing : (iteration.returned ++ [dbd.kd]).Pairwise fun first second =>
      keycmp first second < 0 := by
    refine List.pairwise_append.mpr ⟨standing.increasing, List.pairwise_singleton _ _, ?_⟩
    intro kd member _ isNew
    rw [List.mem_singleton.mp isNew, ← key]
    exact keycmp_neg.mpr (ahead.behind kd member)
  have inRange : ∀ kd ∈ iteration.returned ++ [dbd.kd], iteration.keyrange.contains kd = true := by
    intro kd member
    rcases List.mem_append.mp member with earlier | isNew
    · exact standing.inRange kd earlier
    · rw [List.mem_singleton.mp isNew, ← key, KeyRange.contains, ahead.notLow,
        not_high_of_le ahead.notHigh ahead.spans.order]
      rfl
  rw [given]
  simp only [Simpledb.simpledbGetFromRange, atRange, found, Option.bind_eq_bind, Option.bind_some,
    Simpledb.moveInRange, atLast, Option.some.injEq]
  by_cases done : n2 = np
  · -- the item at the last node was the last one
    rw [if_pos done]
    refine ⟨_, dbd, rfl, ?_⟩
    exact {
      increasing := increasing
      inRange := inRange
      present := standing.present
      finished := by
        intro _ kd member
        rcases ahead.covered kd member with earlier | ⟨above, below⟩
        · exact List.mem_append_left _ earlier
        · rw [done] at below
          have same : kd = db.key np := word_injective (le_antisymm below above)
          rw [same, key]
          exact List.mem_append_right _ List.mem_cons_self
      ahead := by rintro _ ⟨⟩ }
  · obtain ⟨next, prev, links, _, _, rest, least, above⟩ := shaped.sorted.next ahead.spans done
    rw [if_neg done, links]
    refine ⟨_, dbd, rfl, ?_⟩
    exact {
      increasing := increasing
      inRange := inRange
      present := standing.present
      finished := by rintro ⟨⟩
      ahead := by
        rintro _ ⟨⟩
        refine ⟨n2, ?_⟩
        exact {
          last := rfl
          spans := rest
          notLow := not_low_of_le ahead.notLow (le_of_lt above)
          notHigh := ahead.notHigh
          behind := by
            intro kd member
            rcases List.mem_append.mp member with earlier | isNew
            · exact lt_trans (ahead.behind kd earlier) above
            · rw [List.mem_singleton.mp isNew, ← key]
              exact above
          covered := by
            intro kd member
            rcases ahead.covered kd member with earlier | ⟨low, high⟩
            · exact .inl (List.mem_append_left _ earlier)
            · rcases lt_or_eq_of_le low with later | same
              · obtain ⟨node, inside, rfl⟩ := standing.present kd member
                exact .inr ⟨least node inside later, high⟩
              · left
                rw [← word_injective same, key]
                exact List.mem_append_right _ List.mem_cons_self } }

end

theorem started (shaped : db.Shaped nodes) (done : db.simpledbGetRange krange true = some result) :
    ({ keyrange := krange
       rangedp := result
       returned := []
       throughout := db.keys.filter krange.contains } : Iteration ν).Standing db nodes := by
  obtain ⟨_, found, ends, nothing⟩ := SimpledbRange.Stands.start shaped krange true
  rw [done] at found
  cases found
  have same : db.nodes = nodes := shaped.sorted.linked.toList
  have within : ∀ kd ∈ db.keys.filter krange.contains,
      ∃ node ∈ db.inRange krange nodes, db.key node = kd := by
    intro kd member
    obtain ⟨inKeys, inside⟩ := List.mem_filter.mp member
    rw [Simpledb.keys, same] at inKeys
    obtain ⟨node, inNodes, rfl⟩ := List.mem_map.mp inKeys
    exact ⟨node, List.mem_filter.mpr ⟨inNodes, inside⟩, rfl⟩
  exact {
    increasing := List.Pairwise.nil
    inRange := nofun
    present := by
      intro kd member
      obtain ⟨node, inside, key⟩ := within kd member
      exact ⟨node, List.mem_of_mem_filter inside, key⟩
    finished := by
      intro ended kd member
      obtain ⟨node, inside, _⟩ := within kd member
      cases result with
      | none =>
        rw [nothing rfl rfl] at inside
        cases inside
      | some range =>
        obtain ⟨_, n1, n2, rfl, _⟩ := ends range rfl
        cases ended
    ahead := by
      intro np atNode
      obtain ⟨range, rfl, atRange⟩ := Option.bind_eq_some_iff.mp atNode
      obtain ⟨_, n1, n2, rfl, spans, notLow, notHigh, between⟩ := ends range rfl
      cases atRange
      refine ⟨n2, ?_⟩
      exact {
        last := rfl
        spans := spans
        notLow := notLow
        notHigh := notHigh
        behind := nofun
        covered := by
          intro kd member
          obtain ⟨node, inside, rfl⟩ := within kd member
          obtain ⟨above, below⟩ := between node inside
          exact .inr ⟨above.order, below.order⟩ } }

end Iteration.Standing

namespace Clients

def iterationStands (clients : Clients ν) : List ν := clients.iteration.toList.flatMap Iteration.stands

def stands (clients : Clients ν) : List ν :=
  clients.iterationStands ++ clients.other.toList.flatMap SimpledbRange.stands

end Clients

/-- No node is deleted on which an iteration or the range of the other client stands, but the
one that the other client deletes through its range, and a put writes in the block of its
value. -/
def ClientPermitted : Sharing ν → ClientEvent ν → Prop
  | .intact clients, .call (.put kd value flags pools) =>
    (clients.db.onedbPut kd value flags pools).isSome = true
  | .intact clients, .call (.del kd) =>
    ∀ node ∈ clients.stands, clients.db.key node = kd → clients.db.unlocked node = false
  | .intact clients, .delInRange direction =>
    ∀ node ∈ clients.iterationStands, direction ≠ .nomove →
      clients.other.bind SimpledbRange.np = some node → clients.db.unlocked node = false
  | _, _ => True

instance : (outcome : Sharing ν) → (event : ClientEvent ν) → Decidable (ClientPermitted outcome event)
  | .intact clients, .call (.put kd value flags pools) => inferInstanceAs (Decidable
      ((clients.db.onedbPut kd value flags pools).isSome = true))
  | .intact clients, .call (.del kd) => inferInstanceAs (Decidable
      (∀ node ∈ clients.stands, clients.db.key node = kd → clients.db.unlocked node = false))
  | .intact clients, .delInRange direction => inferInstanceAs (Decidable
      (∀ node ∈ clients.iterationStands, direction ≠ .nomove →
        clients.other.bind SimpledbRange.np = some node → clients.db.unlocked node = false))
  | .intact _, .call (.get _) | .intact _, .call (.getRelease _) | .intact _, .getRange _ _
  | .intact _, .getFromRange | .intact _, .otherGetRange _ _ | .intact _, .otherGetFromRange _
  | .intact _, .otherGetRangeRelease | .corrupted, _ => isTrue trivial

structure Clients.Standing (clients : Clients ν) (nodes : List ν) : Prop where
  shaped : clients.db.Shaped nodes
  iteration : ∀ iteration, clients.iteration = some iteration →
    iteration.Standing clients.db nodes
  other : ∀ rangedp, clients.other = some rangedp → rangedp.Stands clients.db nodes

namespace Clients.Standing

variable {clients : Clients ν} {event : ClientEvent ν}

omit [DecidableEq ν] in
theorem iteration_stands (running : clients.iteration = some iteration) :
    clients.iterationStands = iteration.stands := by
  rw [Clients.iterationStands, running]
  exact List.flatMap_singleton _ _

variable (standing : clients.Standing nodes)
include standing

omit [DecidableEq ν] in
theorem keep (shaped : after.Shaped nodes') (kept : ∀ node ∈ nodes, node ∈ clients.iterationStands →
      node ∈ nodes' ∧ after.key node = clients.db.key node) :
    ∀ iteration, (clients.withDb after).iteration = some iteration → iteration.Standing after nodes' := by
  intro iteration running
  obtain ⟨before, was, rfl⟩ := Option.map_eq_some_iff.mp running
  rw [iteration_stands was] at kept
  exact (standing.iteration before was).mono shaped kept

theorem call {event : DbEvent ν} (fresh : clients.db.fresh event = true)
    (permitted : ClientPermitted (.intact clients) (.call event)) :
    ∃ next nodes', clients.after (.call event) = some next ∧ next.Standing nodes' := by
  have inBlock : ∀ kd value flags pools, event = .put kd value flags pools →
      (clients.db.onedbPut kd value flags pools).isSome = true := by
    rintro kd value flags pools rfl
    exact permitted
  have held : ∀ node ∈ clients.stands, ∀ kd, event = .del kd → clients.db.key node = kd →
      clients.db.unlocked node = false := by
    rintro node member kd rfl
    exact permitted node member
  obtain ⟨after, answer, nodes', done, shaped, kept⟩ := standing.shaped.call fresh inBlock
  refine ⟨clients.withDb after, nodes', ?_, ?_⟩
  · rw [Clients.after, done]
    rfl
  exact {
    shaped := shaped
    iteration := standing.keep shaped (fun node inside used =>
      kept node inside (held node (List.mem_append_left _ used)))
    other := by
      intro rangedp given
      refine (standing.other rangedp given).mono fun node inside used => ?_
      refine kept node inside (held node (List.mem_append_right _ ?_))
      rw [show clients.other = some rangedp from given]
      exact List.mem_flatMap.mpr ⟨rangedp, List.mem_cons_self, used⟩ }

theorem delInRange (permitted : ClientPermitted (.intact clients) (.delInRange direction)) :
    ∃ next nodes', clients.after (.delInRange direction) = some next ∧ next.Standing nodes' := by
  rw [Clients.after]
  cases given : clients.other with
  | none => exact ⟨clients, nodes, rfl, standing⟩
  | some rangedp =>
    have stands := standing.other rangedp given
    have unchanged : ({ clients.withDb clients.db with other := some rangedp } : Clients ν).Standing
        nodes := {
      shaped := standing.shaped
      iteration := standing.keep standing.shaped (fun _ inside _ => ⟨inside, rfl⟩)
      other := by
        rintro _ ⟨⟩
        exact stands }
    simp only [Simpledb.simpledbDelInRange]
    by_cases moves : direction = .nomove
    · rw [if_pos moves]
      exact ⟨_, nodes, rfl, unchanged⟩
    rw [if_neg moves]
    cases atNode : rangedp.np with
    | none => exact ⟨_, nodes, rfl, unchanged⟩
    | some np =>
      obtain ⟨n1, n2, _, _, _, behind⟩ := stands np atNode
      obtain ⟨dbd, found⟩ :=
        Option.isSome_iff_exists.mp (standing.shaped.sorted.stored np behind.first)
      simp only [found, Option.bind_eq_bind, Option.bind_some]
      by_cases locked : 0 < dbd.refcounter
      · rw [if_pos locked]
        exact ⟨_, nodes, rfl, unchanged⟩
      have free : clients.db.unlocked np = true := by
        have low : ¬ 0 < dbd.refcounter.toNat := fun positive =>
          locked (UInt8.lt_iff_toNat_lt.mpr positive)
        rw [Simpledb.unlocked, found]
        exact decide_eq_true (UInt8.toNat_inj.mp (Nat.eq_zero_of_not_pos low))
      obtain ⟨unlinked, nodes', result, shaped, kept⟩ := standing.shaped.removed behind.first
      obtain ⟨links, allocated, rest⟩ := stands.without standing.shaped atNode moves kept
      rw [if_neg locked, allocated, result]
      refine ⟨_, nodes', rfl, ?_⟩
      exact {
        shaped := shaped
        iteration := by
          refine standing.keep shaped fun node inside used => kept node inside ?_
          rintro rfl
          have held := permitted node used moves (by rw [given]; exact atNode)
          rw [free] at held
          cases held
        other := by
          rintro _ ⟨⟩
          exact rest }

theorem otherGetFromRange (direction : Direction) :
    ∃ next, clients.after (.otherGetFromRange direction) = some next ∧ next.Standing nodes := by
  rw [Clients.after]
  cases given : clients.other with
  | none => exact ⟨clients, rfl, standing⟩
  | some rangedp =>
    simp only [Simpledb.simpledbGetFromRange]
    cases atNode : rangedp.np with
    | none => exact ⟨clients, rfl, standing⟩
    | some np =>
      have stands := standing.other rangedp given
      obtain ⟨_, _, _, _, _, behind⟩ := stands np atNode
      obtain ⟨dbd, found⟩ :=
        Option.isSome_iff_exists.mp (standing.shaped.sorted.stored np behind.first)
      obtain ⟨moved, done, after⟩ := stands.move standing.shaped atNode direction
      simp only [found, done, Option.bind_eq_bind, Option.bind_some, Option.map_some]
      refine ⟨_, rfl, ?_⟩
      exact {
        shaped := standing.shaped
        iteration := standing.iteration
        other := by
          rintro _ ⟨⟩
          exact after }

theorem step (fresh : clients.fresh event = true)
    (permitted : ClientPermitted (.intact clients) event) :
    ∃ next nodes', clients.after event = some next ∧ next.Standing nodes' := by
  cases event with
  | getRange krange granted =>
    obtain ⟨result, found, _⟩ := SimpledbRange.Stands.start standing.shaped krange granted
    rw [Clients.after, Clients.started, found]
    refine ⟨_, nodes, rfl, ?_⟩
    exact {
      shaped := standing.shaped
      iteration := by
        intro iteration running
        obtain ⟨rfl, same⟩ := Option.ite_none_right_eq_some.mp running
        cases same
        exact Iteration.Standing.started standing.shaped found
      other := standing.other }
  | getFromRange =>
    rw [Clients.after]
    cases running : clients.iteration with
    | none => exact ⟨clients, nodes, rfl, standing⟩
    | some iteration =>
      have before := standing.iteration iteration running
      simp only [Clients.advanced]
      cases atNode : iteration.np with
      | none =>
        have nothing : clients.db.simpledbGetFromRange iteration.rangedp .forward = some none := by
          cases given : iteration.rangedp with
          | none => rfl
          | some range =>
            rw [Iteration.np, given] at atNode
            have ended : range.np = none := atNode
            simp only [Simpledb.simpledbGetFromRange, ended]
        rw [nothing]
        exact ⟨clients, nodes, rfl, standing⟩
      | some np =>
        obtain ⟨moved, dbd, found, after⟩ := before.advance standing.shaped atNode
        rw [found]
        refine ⟨_, nodes, rfl, ?_⟩
        exact {
          shaped := standing.shaped
          iteration := by
            rintro _ ⟨⟩
            exact after
          other := standing.other }
  | call event => exact standing.call fresh permitted
  | otherGetRange krange granted =>
    obtain ⟨result, found, ends, _⟩ := SimpledbRange.Stands.start standing.shaped krange granted
    rw [Clients.after, found]
    refine ⟨_, nodes, rfl, ?_⟩
    exact {
      shaped := standing.shaped
      iteration := standing.iteration
      other := fun range given => (ends range given).1 }
  | otherGetFromRange direction =>
    obtain ⟨next, done, after⟩ := standing.otherGetFromRange direction
    exact ⟨next, nodes, done, after⟩
  | delInRange direction => exact standing.delInRange permitted
  | otherGetRangeRelease =>
    refine ⟨_, nodes, rfl, ?_⟩
    exact {
      shaped := standing.shaped
      iteration := standing.iteration
      other := by simp }

end Clients.Standing

/-- **An iteration gives each key of its range that is there throughout once and in order, and
visits only nodes of the list.** -/
theorem iteration_undisturbed {outcome : Sharing ν}
    (reachable : rangeSystem.Reachable ClientPermitted outcome) :
    ∃ clients, outcome = .intact clients ∧
      ∀ iteration, clients.iteration = some iteration → iteration.Right clients.db := by
  have invariant : ∃ clients nodes, outcome = .intact clients ∧ clients.Standing nodes := by
    apply reachable.invariant (fun outcome : Sharing ν => ∃ clients nodes,
      outcome = .intact clients ∧ clients.Standing nodes)
    · refine ⟨_, [], rfl, ?_⟩
      exact {
        shaped := {
          sorted := {
            linked := linked_empty
            stored := nofun
            increasing := List.Pairwise.nil }
          allocated := fun _ => rfl }
        iteration := nofun
        other := nofun }
    · rintro _ event next ⟨clients, nodes, rfl, standing⟩ permitted taken
      obtain ⟨fresh, same⟩ := Option.ite_none_right_eq_some.mp taken
      obtain ⟨after, nodes', done, kept⟩ := standing.step fresh permitted
      rw [done] at same
      cases same
      exact ⟨after, nodes', rfl, kept⟩
  obtain ⟨clients, nodes, same, standing⟩ := invariant
  exact ⟨clients, same, fun iteration running =>
    (standing.iteration iteration running).right standing.shaped⟩

def Sharing.given : Sharing ν → Option (List (List UInt8) × Bool)
  | .intact clients => clients.iteration.map fun iteration =>
      (iteration.returned, iteration.np.isNone)
  | .corrupted => none

def oneItem (kd : List UInt8) (cnode : Nat) : ClientEvent Nat :=
  .call (ucDbalCreate kd (.of [7] (by decide)) (roomFor cnode))

/-- The other client puts a key in the middle of the range, and deletes the first one, which
the iteration has left. -/
def sharedEvents : List (ClientEvent Nat) :=
  [oneItem [1] 0, oneItem [2] 1, oneItem [3] 2, .getRange ⟨some [1], some [3]⟩ true, .getFromRange,
    oneItem [2, 5] 3, .otherGetRange ⟨none, none⟩ true, .delInRange .forward, .getFromRange,
    .getFromRange, .getFromRange]

theorem iteration_undisturbed_between : ∃ clients : Clients Nat,
    (Sharing.intact clients).given = some ([[1], [2], [2, 5], [3]], true) ∧
      ∀ iteration, clients.iteration = some iteration → iteration.Right clients.db := by
  have evaluated : ((rangeSystem.restrict fun outcome event =>
      decide (ClientPermitted outcome event)).run rangeSystem.start sharedEvents).map
      Sharing.given = some (some ([[1], [2], [2, 5], [3]], true)) := by decide +kernel
  obtain ⟨outcome, finished, answers⟩ := Option.map_eq_some_iff.mp evaluated
  obtain ⟨clients, rfl, right⟩ := iteration_undisturbed ((System.reachable_of_run finished).of_restrict
    fun _ _ => of_decide_eq_true)
  exact ⟨clients, answers, right⟩

def deletedEvents : List (ClientEvent Nat) :=
  [oneItem [1] 0, oneItem [2] 1, .getRange ⟨none, none⟩ true, .getFromRange, .call (.del [2])]

/-- The node that the iteration visits next is not in the list. -/
theorem deleted_node_visited : ¬ ∀ outcome : Sharing Nat,
    rangeSystem.Reachable System.anyStep outcome → ∃ clients, outcome = .intact clients ∧
      ∀ iteration, clients.iteration = some iteration → iteration.Right clients.db := by
  intro always
  have evaluated : (rangeSystem.run rangeSystem.start (deletedEvents ++ [.getFromRange])).map
      (fun outcome : Sharing Nat => match outcome with
        | .intact _ => false
        | .corrupted => true) = some true := by decide +kernel
  obtain ⟨outcome, finished, observed⟩ := Option.map_eq_some_iff.mp evaluated
  obtain ⟨clients, rfl, _⟩ := always outcome (System.reachable_of_run finished)
  cases observed

end EnetTsn.Uniconf
