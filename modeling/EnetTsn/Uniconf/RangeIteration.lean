import EnetTsn.Uniconf.RangeClients
import EnetTsn.Uniconf.SimpledbCalls

namespace EnetTsn.Uniconf

open EnetTsn.Library

variable {ν : Type} {db after : Simpledb ν} {nodes nodes' : List ν} {np n1 n2 node : ν}

structure Simpledb.Spans (db : Simpledb ν) (nodes : List ν) (n1 n2 : ν) : Prop where
  first : n1 ∈ nodes
  last : n2 ∈ nodes
  order : word (db.key n1) ≤ word (db.key n2)

namespace Simpledb.Spans

theorem mono (spans : db.Spans nodes n1 n2) (firstKept : n1 ∈ nodes' ∧ after.key n1 = db.key n1)
    (lastKept : n2 ∈ nodes' ∧ after.key n2 = db.key n2) : after.Spans nodes' n1 n2 where
  first := firstKept.1
  last := lastKept.1
  order := by
    rw [firstKept.2, lastKept.2]
    exact spans.order

theorem refl (member : node ∈ nodes) : db.Spans nodes node node where
  first := member
  last := member
  order := le_refl _

end Simpledb.Spans

namespace Simpledb.Sorted

theorem parts (sorted : db.Sorted (first ++ node :: second)) :
    (∀ other ∈ first, word (db.key other) < word (db.key node)) ∧
      ∀ other ∈ second, word (db.key node) < word (db.key other) := by
  obtain ⟨_, later, across⟩ := List.pairwise_append.mp sorted.increasing
  constructor
  · intro other member
    exact keycmp_neg.mp (across other member node List.mem_cons_self)
  · intro other member
    exact keycmp_neg.mp ((List.pairwise_cons.mp later).1 other member)

theorem next (sorted : db.Sorted nodes) (spans : db.Spans nodes np n2) (different : n2 ≠ np) :
    ∃ next prev, db.heap np = some ⟨some next, prev⟩ ∧ next ≠ np ∧ db.Spans nodes np next ∧
      db.Spans nodes next n2 ∧ (∀ other ∈ nodes, word (db.key np) < word (db.key other) →
        word (db.key next) ≤ word (db.key other)) ∧ word (db.key np) < word (db.key next) := by
  obtain ⟨first, second, rfl⟩ := List.append_of_mem spans.first
  obtain ⟨before, behind⟩ := sorted.parts
  have inSecond : ∀ other ∈ first ++ np :: second, word (db.key np) < word (db.key other) →
      other ∈ second := by
    intro other member above
    rcases List.mem_append.mp member with earlier | later
    · exact absurd above (lt_asymm (before other earlier))
    · rcases List.mem_cons.mp later with rfl | inside
      · exact absurd above (lt_irrefl _)
      · exact inside
  have lastInSecond : n2 ∈ second := by
    rcases List.mem_append.mp spans.last with earlier | later
    · exact absurd spans.order (not_le_of_gt (before n2 earlier))
    · exact (List.mem_cons.mp later).resolve_left different
  cases second with
  | nil => cases lastInSecond
  | cons next rest =>
    have above := behind next List.mem_cons_self
    have links := sorted.linked.links
    have split : first ++ np :: next :: rest = (first ++ [np]) ++ next :: rest := by simp
    rw [split] at sorted
    have further : ∀ other ∈ next :: rest, word (db.key next) ≤ word (db.key other) := by
      intro other member
      rcases List.mem_cons.mp member with rfl | inside
      · exact le_refl _
      · exact le_of_lt (sorted.parts.2 other inside)
    refine ⟨next, first.getLast?, links, ?_, ⟨spans.first, by simp, le_of_lt above⟩,
      ⟨by simp, spans.last, further n2 lastInSecond⟩, ?_, above⟩
    · rintro rfl
      exact lt_irrefl _ above
    · intro other member less
      exact further other (inSecond other member less)

theorem previous (sorted : db.Sorted nodes) (spans : db.Spans nodes n1 np) (different : n1 ≠ np) :
    ∃ prev next, db.heap np = some ⟨next, some prev⟩ ∧ prev ≠ np ∧ db.Spans nodes n1 prev ∧
      db.Spans nodes prev np := by
  obtain ⟨first, second, rfl⟩ := List.append_of_mem spans.last
  obtain ⟨before, behind⟩ := sorted.parts
  have inFirst : n1 ∈ first := by
    rcases List.mem_append.mp spans.first with earlier | later
    · exact earlier
    · rcases List.mem_cons.mp later with same | inside
      · exact absurd same different
      · exact absurd spans.order (not_le_of_gt (behind n1 inside))
  have links := sorted.linked.links
  rcases List.eq_nil_or_concat' first with rfl | ⟨start, prev, rfl⟩
  · cases inFirst
  · rw [List.getLast?_concat] at links
    have below := before prev (by simp)
    have order : word (db.key n1) ≤ word (db.key prev) := by
      rcases List.mem_append.mp inFirst with earlier | last
      · rw [List.append_assoc] at sorted
        exact le_of_lt (sorted.parts.1 n1 earlier)
      · rw [List.mem_singleton.mp last]
    refine ⟨prev, second.head?, links, ?_, ⟨spans.first, by simp, order⟩,
      ⟨by simp, spans.last, le_of_lt below⟩⟩
    rintro rfl
    exact lt_irrefl _ below

end Simpledb.Sorted

variable [DecidableEq ν] {rangedp : SimpledbRange ν} {direction : Direction}

def SimpledbRange.Stands (rangedp : SimpledbRange ν) (db : Simpledb ν) (nodes : List ν) : Prop :=
  ∀ np, rangedp.np = some np → ∃ n1 n2, rangedp.n1 = some n1 ∧ rangedp.n2 = some n2 ∧
    db.Spans nodes n1 np ∧ db.Spans nodes np n2

def SimpledbRange.stands (rangedp : SimpledbRange ν) : List ν :=
  match rangedp.np with
  | none => []
  | some np => np :: (rangedp.n1.toList ++ rangedp.n2.toList)

namespace SimpledbRange.Stands

section

variable (stands : rangedp.Stands db nodes)
include stands

omit [DecidableEq ν] in
theorem mono
    (kept : ∀ node ∈ nodes, node ∈ rangedp.stands → node ∈ nodes' ∧ after.key node = db.key node) :
    rangedp.Stands after nodes' := by
  intro np atNode
  obtain ⟨n1, n2, atFirst, atLast, before, behind⟩ := stands np atNode
  have used : rangedp.stands = [np, n1, n2] := by
    rw [SimpledbRange.stands, atNode, atFirst, atLast]
    rfl
  rw [used] at kept
  have current := kept np behind.first (by simp)
  have first := kept n1 before.first (by simp)
  have last := kept n2 behind.last (by simp)
  exact ⟨n1, n2, atFirst, atLast, before.mono first current, behind.mono current last⟩

theorem move (shaped : db.Shaped nodes) (atNode : rangedp.np = some np) (direction : Direction) :
    ∃ moved, db.moveInRange rangedp np direction = some moved ∧ moved.Stands db nodes := by
  obtain ⟨n1, n2, atFirst, atLast, before, behind⟩ := stands np atNode
  cases direction with
  | nomove => exact ⟨rangedp, rfl, stands⟩
  | forward =>
    rw [Simpledb.moveInRange]
    by_cases done : rangedp.n2 = some np
    · rw [if_pos done]
      exact ⟨_, rfl, nofun⟩
    · have different : n2 ≠ np := by
        rintro rfl
        exact done atLast
      obtain ⟨next, prev, links, _, step, rest, _⟩ := shaped.sorted.next behind different
      rw [if_neg done, links]
      refine ⟨_, rfl, ?_⟩
      rintro _ ⟨⟩
      exact ⟨n1, n2, atFirst, atLast, ⟨before.first, step.last, le_trans before.order step.order⟩,
        rest⟩
  | backward =>
    rw [Simpledb.moveInRange]
    by_cases done : rangedp.n1 = some np
    · rw [if_pos done]
      exact ⟨_, rfl, nofun⟩
    · have different : n1 ≠ np := by
        rintro rfl
        exact done atFirst
      obtain ⟨prev, next, links, _, rest, step⟩ := shaped.sorted.previous before different
      rw [if_neg done, links]
      refine ⟨_, rfl, ?_⟩
      rintro _ ⟨⟩
      exact ⟨n1, n2, atFirst, atLast, rest,
        ⟨step.first, behind.last, le_trans step.order behind.order⟩⟩

/-- The range of `simpledb_del_in_range` stands on nodes that stay. -/
theorem without (shaped : db.Shaped nodes)
    (atNode : rangedp.np = some np) (moves : direction ≠ .nomove)
    (kept : ∀ other ∈ nodes, other ≠ np → other ∈ nodes' ∧ after.key other = db.key other) :
    ∃ links, db.heap np = some links ∧
      (Simpledb.rangeWithout rangedp np links direction).Stands after nodes' := by
  obtain ⟨n1, n2, atFirst, atLast, before, behind⟩ := stands np atNode
  obtain ⟨links, allocated⟩ := shaped.sorted.linked.segment.allocated behind.first
  refine ⟨links, allocated, ?_⟩
  -- the first end, the node before `np`, and the range before it
  have back (different : n1 ≠ np) : ∃ prev, links.prev = some prev ∧
      after.Spans nodes' n1 prev ∧ prev ≠ np ∧ db.Spans nodes prev np := by
    obtain ⟨prev, next, found, apart, rest, step⟩ := shaped.sorted.previous before different
    rw [allocated] at found
    cases found
    exact ⟨prev, rfl, rest.mono (kept n1 rest.first different) (kept prev rest.last apart), apart,
      step⟩
  have forth (different : n2 ≠ np) : ∃ next, links.next = some next ∧
      after.Spans nodes' next n2 ∧ next ≠ np ∧ db.Spans nodes np next := by
    obtain ⟨next, prev, found, apart, step, rest, _⟩ := shaped.sorted.next behind different
    rw [allocated] at found
    cases found
    exact ⟨next, rfl, rest.mono (kept next rest.first apart) (kept n2 rest.last different), apart,
      step⟩
  rw [Simpledb.rangeWithout, atFirst, atLast]
  simp only [Option.some.injEq]
  by_cases firstSame : n1 = np <;> by_cases lastSame : n2 = np
  · rw [if_pos ⟨firstSame, lastSame⟩]
    exact nofun
  · obtain ⟨next, atNext, rest, _⟩ := forth lastSame
    rw [if_neg (fun both => lastSame both.2), if_neg lastSame, if_pos firstSame, atNext]
    cases direction with
    | nomove => exact absurd rfl moves
    | backward => exact nofun
    | forward =>
      rintro _ ⟨⟩
      exact ⟨next, n2, rfl, rfl, .refl rest.first, rest⟩
  · obtain ⟨prev, atPrev, rest, _⟩ := back firstSame
    rw [if_neg (fun both => firstSame both.1), if_pos lastSame, atPrev]
    cases direction with
    | nomove => exact absurd rfl moves
    | forward => exact nofun
    | backward =>
      rintro _ ⟨⟩
      exact ⟨n1, prev, rfl, rfl, rest, .refl rest.last⟩
  · obtain ⟨prev, atPrev, restBefore, prevApart, toNode⟩ := back firstSame
    obtain ⟨next, atNext, restBehind, nextApart, fromNode⟩ := forth lastSame
    have firstKept := kept n1 before.first firstSame
    have lastKept := kept n2 behind.last lastSame
    have prevKept := kept prev toNode.first prevApart
    have nextKept := kept next fromNode.last nextApart
    rw [if_neg (fun both => firstSame both.1), if_neg lastSame, if_neg firstSame, atPrev, atNext]
    cases direction with
    | nomove => exact absurd rfl moves
    | forward =>
      rintro _ ⟨⟩
      have order : db.Spans nodes n1 next :=
        ⟨before.first, fromNode.last, le_trans before.order fromNode.order⟩
      exact ⟨n1, n2, rfl, rfl, order.mono firstKept nextKept, restBehind⟩
    | backward =>
      rintro _ ⟨⟩
      have order : db.Spans nodes prev n2 :=
        ⟨toNode.first, behind.last, le_trans toNode.order behind.order⟩
      exact ⟨n1, n2, rfl, rfl, restBefore, order.mono prevKept lastKept⟩

end

/-- What `simpledb_get_range` returns for a list in order. -/
theorem start (shaped : db.Shaped nodes) (krange : KeyRange) (granted : Bool) :
    ∃ result, db.simpledbGetRange krange granted = some result ∧
      (∀ range, result = some range → range.Stands db nodes ∧
        ∃ n1 n2, range = { n1 := some n1, n2 := some n2, np := some n1 } ∧
          db.Spans nodes n1 n2 ∧ krange.low (db.key n1) = false ∧ krange.high (db.key n2) = false ∧
          ∀ node ∈ db.inRange krange nodes, db.Spans nodes n1 node ∧ db.Spans nodes node n2) ∧
      (granted = true → result = none → db.inRange krange nodes = []) := by
  rw [Simpledb.simpledbGetRange]
  by_cases refused : granted = false
  · rw [if_pos refused]
    refine ⟨none, rfl, nofun, fun granted_ => ?_⟩
    rw [refused] at granted_
    cases granted_
  rw [if_neg refused]
  obtain ⟨nothing, ends⟩ := shaped.sorted.getRange krange
  rcases List.eq_nil_or_concat' (db.inRange krange nodes) with empty | ⟨start, n2, split⟩
  · rw [nothing empty]
    exact ⟨none, rfl, nofun, fun _ _ => empty⟩
  · obtain ⟨n1, rest, headed⟩ : ∃ n1 rest, db.inRange krange nodes = n1 :: rest := by
      rw [split]
      cases start with
      | nil => exact ⟨n2, [], rfl⟩
      | cons head tail => exact ⟨head, tail ++ [n2], rfl⟩
    have found := ends n1 n2 (by rw [headed]; rfl) (by rw [split, List.getLast?_concat])
    have increasing : (db.inRange krange nodes).Pairwise fun first second =>
        keycmp (db.key first) (db.key second) < 0 := List.Pairwise.filter _ shaped.sorted.increasing
    have inside : ∀ node ∈ db.inRange krange nodes, node ∈ nodes ∧
        krange.low (db.key node) = false ∧ krange.high (db.key node) = false := by
      intro node member
      obtain ⟨inNodes, within⟩ := List.mem_filter.mp member
      rw [Bool.and_eq_true, Bool.not_eq_true', Bool.not_eq_true'] at within
      exact ⟨inNodes, within.1, within.2⟩
    have firstInside := inside n1 (by rw [headed]; exact List.mem_cons_self)
    have lastInside := inside n2 (by rw [split]; simp)
    have above : ∀ node ∈ db.inRange krange nodes, db.Spans nodes n1 node := by
      intro node member
      refine ⟨firstInside.1, (inside node member).1, ?_⟩
      rw [headed] at member increasing
      rcases List.mem_cons.mp member with rfl | later
      · exact le_refl _
      · exact le_of_lt (keycmp_neg.mp ((List.pairwise_cons.mp increasing).1 node later))
    have below : ∀ node ∈ db.inRange krange nodes, db.Spans nodes node n2 := by
      intro node member
      refine ⟨(inside node member).1, lastInside.1, ?_⟩
      rw [split] at member increasing
      rcases List.mem_append.mp member with earlier | last
      · exact le_of_lt (keycmp_neg.mp
          ((List.pairwise_append.mp increasing).2.2 node earlier n2 List.mem_cons_self))
      · rw [List.mem_singleton.mp last]
    rw [found]
    refine ⟨_, rfl, ?_, nofun⟩
    rintro _ ⟨⟩
    have spans := above n2 (by rw [split]; simp)
    refine ⟨?_, n1, n2, rfl, spans, firstInside.2.1, lastInside.2.2,
      fun node member => ⟨above node member, below node member⟩⟩
    rintro _ ⟨⟩
    exact ⟨n1, n2, rfl, rfl, .refl firstInside.1, spans⟩

end SimpledbRange.Stands

end EnetTsn.Uniconf
