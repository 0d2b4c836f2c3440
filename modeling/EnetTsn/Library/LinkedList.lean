import Mathlib.Algebra.Ring.Nat
import Mathlib.Logic.Function.Basic
import Mathlib.Data.List.Nodup

/-!
Doubly linked lists whose nodes carry their own links. The nodes stand in memory that is
given out and taken back, several lists may stand in one memory, and an access to a node
that is not given out has no result.
-/

namespace EnetTsn.Library

structure Links (ν : Type u) where
  next : Option ν
  prev : Option ν
  deriving DecidableEq, Repr

abbrev LinkHeap (ν : Type u) := ν → Option (Links ν)

structure ListHeader (ν : Type u) where
  head : Option ν
  tail : Option ν
  count : Nat
  deriving DecidableEq, Repr

def ListHeader.empty : ListHeader ν where
  head := none
  tail := none
  count := 0

section Operations

variable [DecidableEq ν]

namespace LinkHeap

def setNext (heap : LinkHeap ν) (node : ν) (value : Option ν) : Option (LinkHeap ν) :=
  (heap node).map fun links => Function.update heap node (some { links with next := value })

def setPrev (heap : LinkHeap ν) (node : ν) (value : Option ν) : Option (LinkHeap ν) :=
  (heap node).map fun links => Function.update heap node (some { links with prev := value })

def setLinks (heap : LinkHeap ν) (node : ν) (links : Links ν) : Option (LinkHeap ν) :=
  (heap node).map fun _ => Function.update heap node (some links)

def setNextOf (heap : LinkHeap ν) (node : Option ν) (value : Option ν) : Option (LinkHeap ν) :=
  match node with
  | none => some heap
  | some node => heap.setNext node value

def setPrevOf (heap : LinkHeap ν) (node : Option ν) (value : Option ν) : Option (LinkHeap ν) :=
  match node with
  | none => some heap
  | some node => heap.setPrev node value

end LinkHeap

namespace ListHeader

def append (list : ListHeader ν) (heap : LinkHeap ν) (node : ν) :
    Option (LinkHeap ν × ListHeader ν) := do
  let heap ← heap.setLinks node ⟨none, list.tail⟩
  let heap ← heap.setNextOf list.tail (some node)
  some (heap, ⟨list.head.or (some node), some node, list.count + 1⟩)

def prepend (list : ListHeader ν) (heap : LinkHeap ν) (node : ν) :
    Option (LinkHeap ν × ListHeader ν) := do
  let heap ← heap.setLinks node ⟨list.head, none⟩
  let heap ← heap.setPrevOf list.head (some node)
  some (heap, ⟨some node, list.tail.or (some node), list.count + 1⟩)

def insertBefore (list : ListHeader ν) (heap : LinkHeap ν) (place node : ν) :
    Option (LinkHeap ν × ListHeader ν) := do
  let links ← heap place
  let heap ← heap.setNextOf links.prev (some node)
  let heap ← heap.setLinks node ⟨some place, links.prev⟩
  let heap ← heap.setPrev place (some node)
  let first := if links.prev = none ∧ list.head = some place then some node else list.head
  some (heap, ⟨first, list.tail, list.count + 1⟩)

def insertAfter (list : ListHeader ν) (heap : LinkHeap ν) (place node : ν) :
    Option (LinkHeap ν × ListHeader ν) := do
  let links ← heap place
  let heap ← heap.setPrevOf links.next (some node)
  let heap ← heap.setLinks node ⟨links.next, some place⟩
  let heap ← heap.setNext place (some node)
  let last := if links.next = none ∧ list.tail = some place then some node else list.tail
  some (heap, ⟨list.head, last, list.count + 1⟩)

/-- Nothing tells whether the node is in the list: the header changes when a link of the
node is missing. -/
def unlink (list : ListHeader ν) (heap : LinkHeap ν) (node : ν) :
    Option (LinkHeap ν × ListHeader ν) := do
  let links ← heap node
  let heap ← heap.setNextOf links.prev links.next
  let heap ← heap.setPrevOf links.next links.prev
  let heap ← heap.setLinks node ⟨none, none⟩
  let first := if links.prev = none then links.next else list.head
  let last := if links.next = none then links.prev else list.tail
  some (heap, ⟨first, last, list.count - 1⟩)

end ListHeader

end Operations

namespace LinkHeap

def walk (heap : LinkHeap ν) : Nat → ν → Option ν
  | 0, node => some node
  | steps + 1, node => do
    let links ← heap node
    let next ← links.next
    walk heap steps next

/-- Follow the forward links to the first node that is accepted, over a number of nodes. -/
def search (heap : LinkHeap ν) (accept : ν → Option Bool) : Nat → Option ν → Option (Option ν)
  | _, none => some none
  | 0, some _ => none
  | fuel + 1, some node => do
    if ← accept node then some (some node)
    else
      let links ← heap node
      search heap accept fuel links.next

def follow (heap : LinkHeap ν) : Nat → Option ν → List ν
  | 0, _ => []
  | _ + 1, none => []
  | fuel + 1, some node => node :: follow heap fuel ((heap node).bind Links.next)

end LinkHeap

def ListHeader.toList (list : ListHeader ν) (heap : LinkHeap ν) : List ν :=
  heap.follow list.count list.head

/-- The nodes are linked one behind another between two neighbours. -/
def Segment (heap : LinkHeap ν) : Option ν → List ν → Option ν → Prop
  | _, [], _ => True
  | before, node :: rest, after =>
    heap node = some ⟨rest.head?.or after, before⟩ ∧ Segment heap (some node) rest after

/-- A list holds the nodes, each once, in their order. -/
structure Linked (heap : LinkHeap ν) (list : ListHeader ν) (nodes : List ν) : Prop where
  segment : Segment heap none nodes none
  nodup : nodes.Nodup
  head : list.head = nodes.head?
  tail : list.tail = nodes.getLast?
  count : list.count = nodes.length

def AgreeOutside (nodes : List ν) (heap changed : LinkHeap ν) : Prop :=
  ∀ node, node ∉ nodes → changed node = heap node

variable {heap changed : LinkHeap ν} {list : ListHeader ν} {nodes first second : List ν}
  {node place : ν} {before after : Option ν}

theorem AgreeOutside.mono (agree : AgreeOutside first heap changed)
    (included : ∀ node ∈ first, node ∈ second) : AgreeOutside second heap changed :=
  fun node absent => agree node fun member => absent (included node member)

theorem AgreeOutside.trans (agree : AgreeOutside nodes heap changed)
    (later : AgreeOutside nodes changed final) : AgreeOutside nodes heap final :=
  fun node absent => (later node absent).trans (agree node absent)

theorem Segment.frame (segment : Segment heap before nodes after)
    (agree : ∀ node ∈ nodes, changed node = heap node) : Segment changed before nodes after := by
  induction nodes generalizing before with
  | nil => trivial
  | cons node rest ih =>
    obtain ⟨links, inner⟩ := segment
    obtain ⟨same, others⟩ := List.forall_mem_cons.mp agree
    exact ⟨same.trans links, ih inner others⟩

theorem segment_append : Segment heap before (first ++ second) after ↔
    Segment heap before first (second.head?.or after) ∧
      Segment heap (first.getLast?.or before) second after := by
  induction first generalizing before with
  | nil => simp [Segment]
  | cons node rest ih =>
    have last : (node :: rest).getLast?.or before = rest.getLast?.or (some node) := by
      cases rest with
      | nil => rfl
      | cons _ _ => simp [List.getLast?_eq_some_getLast]
    have head : (rest ++ second).head?.or after = rest.head?.or (second.head?.or after) := by
      cases rest <;> rfl
    rw [List.cons_append, Segment, Segment, ih, last, head]
    exact and_assoc.symm

theorem Segment.allocated (segment : Segment heap before nodes after) (member : node ∈ nodes) :
    ∃ links, heap node = some links := by
  induction nodes generalizing before with
  | nil => cases member
  | cons head rest ih =>
    rcases List.mem_cons.mp member with rfl | inner
    · exact ⟨_, segment.1⟩
    · exact ih segment.2 inner

theorem Linked.links (linked : Linked heap list (first ++ node :: second)) :
    heap node = some ⟨second.head?, first.getLast?⟩ := by
  have inner := (segment_append.mp linked.segment).2
  have links := inner.1
  simpa using links

theorem Linked.frame (linked : Linked heap list nodes)
    (agree : ∀ node ∈ nodes, changed node = heap node) : Linked changed list nodes :=
  { linked with
    segment := linked.segment.frame agree }

theorem Linked.disjoint (linked : Linked heap list nodes) (agree : AgreeOutside first heap changed)
    (apart : ∀ node ∈ nodes, node ∉ first) : Linked changed list nodes :=
  linked.frame fun node member => agree node (apart node member)

theorem linked_empty : Linked heap ListHeader.empty [] where
  segment := trivial
  nodup := List.nodup_nil
  head := rfl
  tail := rfl
  count := rfl

theorem Segment.follow (segment : Segment heap before nodes none) :
    heap.follow nodes.length nodes.head? = nodes := by
  induction nodes generalizing before with
  | nil => rfl
  | cons node rest ih =>
    obtain ⟨links, inner⟩ := segment
    rw [Option.or_none] at links
    have onward := ih inner
    rw [List.length_cons, List.head?_cons, LinkHeap.follow, links]
    exact congrArg (node :: ·) onward

theorem Linked.toList (linked : Linked heap list nodes) : list.toList heap = nodes := by
  rw [ListHeader.toList, linked.count, linked.head]
  exact linked.segment.follow

theorem Segment.search (segment : Segment heap before nodes none)
    (accepts : ∀ node ∈ nodes, accept node = some (test node)) :
    heap.search accept nodes.length nodes.head? = some (nodes.find? test) := by
  induction nodes generalizing before with
  | nil => rfl
  | cons node rest ih =>
    obtain ⟨links, inner⟩ := segment
    obtain ⟨here, later⟩ := List.forall_mem_cons.mp accepts
    rw [Option.or_none] at links
    rw [List.length_cons, List.head?_cons, LinkHeap.search, here, List.find?_cons, links]
    cases test node with
    | true => rfl
    | false => exact ih inner later

theorem Linked.search (linked : Linked heap list nodes)
    (accepts : ∀ node ∈ nodes, accept node = some (test node)) :
    heap.search accept list.count list.head = some (nodes.find? test) := by
  rw [linked.count, linked.head]
  exact linked.segment.search accepts

theorem Segment.walk (segment : Segment heap before nodes none) (start : nodes.head? = some node)
    (inside : steps < nodes.length) : heap.walk steps node = nodes[steps]? := by
  induction steps generalizing before nodes node with
  | zero =>
    rw [LinkHeap.walk, ← start, List.head?_eq_getElem?]
  | succ steps ih =>
    cases nodes with
    | nil => cases start
    | cons first rest =>
      cases start
      obtain ⟨links, inner⟩ := segment
      have shorter : steps < rest.length := Nat.lt_of_succ_lt_succ inside
      obtain ⟨second, following⟩ : ∃ second, rest.head? = some second := by
        cases rest with
        | nil => cases shorter
        | cons second _ => exact ⟨second, rfl⟩
      rw [following] at links
      rw [LinkHeap.walk, links]
      exact ih inner following shorter

theorem Linked.walk (linked : Linked heap list nodes) (start : nodes[offset]? = some node)
    (inside : offset + steps < nodes.length) : heap.walk steps node = nodes[offset + steps]? := by
  have split := List.take_append_drop offset nodes
  have segment := linked.segment
  rw [← split] at segment
  rw [(segment_append.mp segment).2.walk (by rw [List.head?_drop, start])
    (by rw [List.length_drop]; omega), List.getElem?_drop]

theorem Linked.next (linked : Linked heap list nodes) (here : nodes[position]? = some node) :
    ∃ links, heap node = some links ∧ links.next = nodes[position + 1]? := by
  obtain ⟨inside, rfl⟩ := List.getElem?_eq_some_iff.mp here
  have split := List.take_append_drop position nodes
  rw [List.drop_eq_getElem_cons inside] at split
  rw [← split] at linked
  refine ⟨_, linked.links, ?_⟩
  rw [List.head?_drop]

theorem Segment.join (start : Segment heap none first (some node))
    (middle : heap node = some ⟨second.head?, first.getLast?⟩)
    (stop : Segment heap (some node) second none) :
    Segment heap none (first ++ node :: second) none := by
  apply segment_append.mpr
  refine ⟨start, ?_, stop⟩
  simpa using middle

/-- A node has come to stand between the nodes before and after its place, and nothing
else has changed. -/
structure Inserted (heap changed : LinkHeap ν) (grown : ListHeader ν)
    (first : List ν) (node : ν) (second : List ν) : Prop where
  linked : Linked changed grown (first ++ node :: second)
  agree : AgreeOutside (first ++ node :: second) heap changed

theorem Inserted.isSome (inserted : Inserted heap changed grown first node second)
    (linked : Linked heap list (first ++ second)) (allocated : (heap node).isSome) (other : ν) :
    (changed other).isSome = (heap other).isSome := by
  by_cases member : other ∈ first ++ node :: second
  · obtain ⟨_, after⟩ := inserted.linked.segment.allocated member
    rw [after]
    rcases List.mem_append.mp member with inFirst | rest
    · obtain ⟨_, found⟩ := linked.segment.allocated (List.mem_append_left _ inFirst)
      rw [found]
      rfl
    · rcases List.mem_cons.mp rest with rfl | inSecond
      · exact allocated.symm
      · obtain ⟨_, found⟩ := linked.segment.allocated (List.mem_append_right _ inSecond)
        rw [found]
        rfl
  · rw [inserted.agree other member]

/-- A node is taken out of a list, and no node outside is changed. -/
structure Unlinked (heap changed : LinkHeap ν) (shrunk : ListHeader ν)
    (first : List ν) (node : ν) (second : List ν) : Prop where
  linked : Linked changed shrunk (first ++ second)
  agree : AgreeOutside (first ++ node :: second) heap changed
  free : changed node = some ⟨none, none⟩

theorem Unlinked.isSome (unlinked : Unlinked heap changed shrunk first node second)
    (linked : Linked heap list (first ++ node :: second)) (other : ν) :
    (changed other).isSome = (heap other).isSome := by
  by_cases member : other ∈ first ++ node :: second
  · obtain ⟨_, found⟩ := linked.segment.allocated member
    rw [found]
    by_cases same : other = node
    · rw [same, unlinked.free]
      rfl
    · have kept : other ∈ first ++ second := by
        simp only [List.mem_append, List.mem_cons] at member ⊢
        exact member.imp_right fun rest => rest.resolve_left same
      obtain ⟨_, after⟩ := unlinked.linked.segment.allocated kept
      rw [after]
      rfl
  · rw [unlinked.agree other member]

theorem pairwise_insert (pairwise : (first ++ second).Pairwise related)
    (before : ∀ other ∈ first, related other node) (after : ∀ other ∈ second, related node other) :
    (first ++ node :: second).Pairwise related := by
  obtain ⟨inFirst, inSecond, across⟩ := List.pairwise_append.mp pairwise
  apply List.pairwise_append.mpr
  refine ⟨inFirst, List.pairwise_cons.mpr ⟨after, inSecond⟩, ?_⟩
  intro other member later laterMember
  rcases List.mem_cons.mp laterMember with rfl | inside
  · exact before other member
  · exact across other member later inside

theorem nodup_insert (nodup : (first ++ second).Nodup) (fresh : node ∉ first ++ second) :
    (first ++ node :: second).Nodup :=
  List.nodup_middle.mpr (List.nodup_cons.mpr ⟨fresh, nodup⟩)

theorem parts_apart (nodup : (first ++ place :: second).Nodup)
    (fresh : node ∉ first ++ place :: second) :
    (∀ other ∈ first, other ≠ node ∧ other ∉ place :: second) ∧
      ∀ other ∈ place :: second, other ≠ node ∧ other ∉ first := by
  have apart := List.disjoint_of_nodup_append nodup
  constructor
  · intro other member
    exact ⟨fun same => fresh (same ▸ List.mem_append_left _ member), apart member⟩
  · intro other member
    exact ⟨fun same => fresh (same ▸ List.mem_append_right _ member),
      fun inner => apart inner member⟩

section Specifications

variable [DecidableEq ν]

theorem setLinks_some (links : Links ν) (allocated : (heap node).isSome) :
    heap.setLinks node links = some (Function.update heap node (some links)) := by
  obtain ⟨present, found⟩ := Option.isSome_iff_exists.mp allocated
  rw [LinkHeap.setLinks, found]
  rfl

theorem agreeOutside_update (links : Option (Links ν)) :
    AgreeOutside [node] heap (Function.update heap node links) :=
  fun _ absent => Function.update_of_ne (fun same => absent (List.mem_singleton.mpr same)) _ _

theorem Segment.setNextOf (segment : Segment heap before nodes after) (nodup : nodes.Nodup)
    (value : Option ν) : ∃ changed, heap.setNextOf nodes.getLast? value = some changed ∧
      Segment changed before nodes value ∧ AgreeOutside nodes heap changed := by
  rcases List.eq_nil_or_concat nodes with rfl | ⟨inner, last, rfl⟩
  · exact ⟨heap, rfl, trivial, fun _ _ => rfl⟩
  · rw [List.concat_eq_append] at segment nodup ⊢
    obtain ⟨start, links, _⟩ := segment_append.mp segment
    have apart : last ∉ inner := by
      intro member
      exact (List.disjoint_of_nodup_append nodup) member List.mem_cons_self
    refine ⟨Function.update heap last (some ⟨value, inner.getLast?.or before⟩), ?_, ?_, ?_⟩
    · rw [List.getLast?_concat, LinkHeap.setNextOf, LinkHeap.setNext, links]
      rfl
    · apply segment_append.mpr
      constructor
      · apply start.frame
        intro node member
        have other : node ≠ last := fun same => apart (same ▸ member)
        exact Function.update_of_ne other _ _
      · exact ⟨Function.update_self _ _ _, trivial⟩
    · exact (agreeOutside_update _).mono fun node member => List.mem_append_right _ member

theorem Segment.setPrevOf (segment : Segment heap before nodes after) (nodup : nodes.Nodup)
    (value : Option ν) : ∃ changed, heap.setPrevOf nodes.head? value = some changed ∧
      Segment changed value nodes after ∧ AgreeOutside nodes heap changed := by
  cases nodes with
  | nil => exact ⟨heap, rfl, trivial, fun _ _ => rfl⟩
  | cons first rest =>
    obtain ⟨links, inner⟩ := segment
    have apart : first ∉ rest := (List.nodup_cons.mp nodup).1
    refine ⟨Function.update heap first (some ⟨rest.head?.or after, value⟩), ?_, ?_, ?_⟩
    · rw [List.head?_cons, LinkHeap.setPrevOf, LinkHeap.setPrev, links]
      rfl
    · refine ⟨Function.update_self _ _ _, inner.frame ?_⟩
      intro node member
      have other : node ≠ first := fun same => apart (same ▸ member)
      exact Function.update_of_ne other _ _
    · exact (agreeOutside_update _).mono fun node member =>
        List.mem_singleton.mp member ▸ List.mem_cons_self

theorem Linked.append (linked : Linked heap list nodes) (allocated : (heap node).isSome)
    (fresh : node ∉ nodes) : ∃ changed grown, list.append heap node = some (changed, grown) ∧
      Inserted heap changed grown nodes node [] := by
  let written := Function.update heap node (some ⟨none, nodes.getLast?⟩)
  have outside : AgreeOutside [node] heap written := agreeOutside_update _
  have kept : Segment written none nodes none := linked.segment.frame fun other member =>
      outside other fun same => fresh (List.mem_singleton.mp same ▸ member)
  obtain ⟨changed, relinked, segment, agree⟩ := kept.setNextOf linked.nodup (some node)
  have own : changed node = some ⟨none, nodes.getLast?⟩ := by
    rw [agree node fresh]
    exact Function.update_self _ _ _
  refine ⟨changed, ⟨list.head.or (some node), some node, list.count + 1⟩, ?_, ?_, ?_⟩
  · rw [ListHeader.append, setLinks_some _ allocated, linked.tail]
    simp only [Option.bind_eq_bind, Option.bind_some]
    rw [relinked]
    rfl
  · exact {
      segment := segment.join own trivial
      nodup := nodup_insert (by simpa using linked.nodup) (by simpa using fresh)
      head := by rw [linked.head]; cases nodes <;> rfl
      tail := by simp
      count := by simp [linked.count] }
  · exact (outside.mono (by simp)).trans (agree.mono (by simp +contextual))

theorem Linked.prepend (linked : Linked heap list nodes) (allocated : (heap node).isSome)
    (fresh : node ∉ nodes) : ∃ changed grown, list.prepend heap node = some (changed, grown) ∧
      Inserted heap changed grown [] node nodes := by
  let written := Function.update heap node (some ⟨nodes.head?, none⟩)
  have outside : AgreeOutside [node] heap written := agreeOutside_update _
  have kept : Segment written none nodes none := linked.segment.frame fun other member =>
      outside other fun same => fresh (List.mem_singleton.mp same ▸ member)
  obtain ⟨changed, relinked, segment, agree⟩ := kept.setPrevOf linked.nodup (some node)
  have own : changed node = some ⟨nodes.head?, none⟩ := by
    rw [agree node fresh]
    exact Function.update_self _ _ _
  refine ⟨changed, ⟨some node, list.tail.or (some node), list.count + 1⟩, ?_, ?_, ?_⟩
  · rw [ListHeader.prepend, setLinks_some _ allocated, linked.head]
    simp only [Option.bind_eq_bind, Option.bind_some]
    rw [relinked]
    rfl
  · exact {
      segment := Segment.join trivial own segment
      nodup := nodup_insert linked.nodup fresh
      head := rfl
      tail := by
        rw [linked.tail]
        cases nodes with
        | nil => rfl
        | cons _ _ => simp [List.getLast?_eq_some_getLast]
      count := by simp [linked.count] }
  · exact (outside.mono (by simp)).trans (agree.mono (by simp +contextual))

theorem Linked.insertBefore (linked : Linked heap list (first ++ place :: second))
    (allocated : (heap node).isSome) (fresh : node ∉ first ++ place :: second) :
    ∃ changed grown, list.insertBefore heap place node = some (changed, grown) ∧
      Inserted heap changed grown first node (place :: second) := by
  obtain ⟨start, stop⟩ := segment_append.mp linked.segment
  obtain ⟨nodupFirst, nodupSecond, _⟩ := List.nodup_append.mp linked.nodup
  obtain ⟨apartFirst, apartSecond⟩ := parts_apart linked.nodup fresh
  -- the nodes before the place, then the new node, then the nodes from the place on
  obtain ⟨heap₁, relinked₁, segment₁, agree₁⟩ := start.setNextOf nodupFirst (some node)
  let heap₂ := Function.update heap₁ node (some ⟨some place, first.getLast?⟩)
  have agree₂ : AgreeOutside [node] heap₁ heap₂ := agreeOutside_update _
  have kept : Segment heap₂ first.getLast? (place :: second) none := by
    refine (by simpa using stop : Segment heap first.getLast? (place :: second) none).frame ?_
    intro other member
    obtain ⟨different, outside⟩ := apartSecond other member
    exact (agree₂ other (by simpa using different)).trans (agree₁ other outside)
  obtain ⟨heap₃, relinked₃, segment₃, agree₃⟩ := kept.setPrevOf nodupSecond (some node)
  have own : heap₃ node = some ⟨some place, first.getLast?⟩ := by
    rw [agree₃ node (fun member => fresh (List.mem_append_right _ member))]
    exact Function.update_self _ _ _
  have startKept : Segment heap₃ none first (some node) := by
    apply segment₁.frame
    intro other member
    obtain ⟨different, outside⟩ := apartFirst other member
    exact (agree₃ other outside).trans (agree₂ other (by simpa using different))
  have available : (heap₁ node).isSome := by
    rw [agree₁ node (fun member => fresh (List.mem_append_left _ member))]
    exact allocated
  let head := if first.getLast? = none ∧ list.head = some place then some node else list.head
  refine ⟨heap₃, ⟨head, list.tail, list.count + 1⟩, ?_, ?_, ?_⟩
  · have relinkedPlace : LinkHeap.setPrev heap₂ place (some node) = some heap₃ := relinked₃
    rw [ListHeader.insertBefore, linked.links]
    simp only [Option.bind_eq_bind, Option.bind_some]
    rw [relinked₁, Option.bind_some, setLinks_some _ available, Option.bind_some, relinkedPlace]
    rfl
  · exact {
      segment := startKept.join own segment₃
      nodup := nodup_insert linked.nodup fresh
      head := by
        change ite _ _ _ = _
        rw [linked.head]
        cases first <;> simp
      tail := by
        rw [linked.tail]
        simp
      count := by
        rw [linked.count]
        simp only [List.length_append, List.length_cons, Nat.add_assoc] }
  · refine (agree₁.mono ?_).trans ((agree₂.mono ?_).trans (agree₃.mono ?_)) <;> simp +contextual

theorem Linked.insertAfter (linked : Linked heap list (first ++ place :: second))
    (allocated : (heap node).isSome) (fresh : node ∉ first ++ place :: second) :
    ∃ changed grown, list.insertAfter heap place node = some (changed, grown) ∧
      Inserted heap changed grown (first ++ [place]) node second := by
  have split : first ++ place :: second = (first ++ [place]) ++ second := by simp
  have linkedAtEnd := linked
  rw [split] at linkedAtEnd fresh
  obtain ⟨start, stop⟩ := segment_append.mp linkedAtEnd.segment
  obtain ⟨nodupFirst, nodupSecond, _⟩ := List.nodup_append.mp linkedAtEnd.nodup
  obtain ⟨heap₁, relinked₁, segment₁, agree₁⟩ := stop.setPrevOf nodupSecond (some node)
  let heap₂ := Function.update heap₁ node (some ⟨second.head?, some place⟩)
  have agree₂ : AgreeOutside [node] heap₁ heap₂ := agreeOutside_update _
  have apart := List.disjoint_of_nodup_append linkedAtEnd.nodup
  have freshFirst : ∀ other ∈ first ++ [place], other ∉ [node] := by
    intro other member same
    exact fresh (List.mem_append_left _ (List.mem_singleton.mp same ▸ member))
  have freshSecond : ∀ other ∈ second, other ∉ [node] := by
    intro other member same
    exact fresh (List.mem_append_right _ (List.mem_singleton.mp same ▸ member))
  have kept : Segment heap₂ none (first ++ [place]) (second.head?.or none) := by
    apply start.frame
    intro other member
    exact (agree₂ other (freshFirst other member)).trans (agree₁ other (apart member))
  obtain ⟨heap₃, relinked₃, segment₃, agree₃⟩ := kept.setNextOf nodupFirst (some node)
  have own : heap₃ node = some ⟨second.head?, (first ++ [place]).getLast?⟩ := by
    rw [agree₃ node (fun member => fresh (List.mem_append_left _ member)), List.getLast?_concat]
    exact Function.update_self _ _ _
  have stopKept : Segment heap₃ (some node) second none := by
    apply segment₁.frame
    intro other member
    exact (agree₃ other (fun inner => apart inner member)).trans
      (agree₂ other (freshSecond other member))
  have available : (heap₁ node).isSome := by
    rw [agree₁ node (fun member => fresh (List.mem_append_right _ member))]
    exact allocated
  let tail := if second.head? = none ∧ list.tail = some place then some node else list.tail
  refine ⟨heap₃, ⟨list.head, tail, list.count + 1⟩, ?_, ?_, ?_⟩
  · have relinkedPlace : LinkHeap.setNext heap₂ place (some node) = some heap₃ := by
      rw [List.getLast?_concat] at relinked₃
      exact relinked₃
    rw [ListHeader.insertAfter, linked.links]
    simp only [Option.bind_eq_bind, Option.bind_some]
    rw [relinked₁, Option.bind_some, setLinks_some _ available, Option.bind_some, relinkedPlace]
    rfl
  · exact {
      segment := segment₃.join own stopKept
      nodup := nodup_insert linkedAtEnd.nodup fresh
      head := by
        rw [linked.head]
        cases first <;> simp
      tail := by
        change ite _ _ _ = _
        rw [linked.tail]
        cases second <;> simp
      count := by
        rw [linked.count]
        simp only [List.length_append, List.length_cons, List.length_nil]
        omega }
  · refine (agree₁.mono ?_).trans ((agree₂.mono ?_).trans (agree₃.mono ?_)) <;> grind

theorem Linked.unlink (linked : Linked heap list (first ++ node :: second)) :
    ∃ changed shrunk, list.unlink heap node = some (changed, shrunk) ∧
      Unlinked heap changed shrunk first node second := by
  obtain ⟨start, stop⟩ := segment_append.mp linked.segment
  obtain ⟨nodupFirst, nodupRest, _⟩ := List.nodup_append.mp linked.nodup
  obtain ⟨freshSecond, nodupSecond⟩ := List.nodup_cons.mp nodupRest
  have apart := List.disjoint_of_nodup_append linked.nodup
  obtain ⟨heap₁, relinked₁, segment₁, agree₁⟩ := start.setNextOf nodupFirst second.head?
  have kept : Segment heap₁ (some node) second none := by
    apply stop.2.frame
    intro other member
    exact agree₁ other fun inner => apart inner (List.mem_cons_of_mem _ member)
  obtain ⟨heap₂, relinked₂, segment₂, agree₂⟩ := kept.setPrevOf nodupSecond first.getLast?
  let heap₃ := Function.update heap₂ node (some ⟨none, none⟩)
  have agree₃ : AgreeOutside [node] heap₂ heap₃ := agreeOutside_update _
  have startKept : Segment heap₃ none first second.head? := by
    apply segment₁.frame
    intro other member
    have outside : other ∉ node :: second := apart member
    have different : other ∉ [node] := fun same =>
      outside (List.mem_singleton.mp same ▸ List.mem_cons_self)
    exact (agree₃ other different).trans
      (agree₂ other fun inner => outside (List.mem_cons_of_mem _ inner))
  have stopKept : Segment heap₃ first.getLast? second none := by
    apply segment₂.frame
    intro other member
    exact agree₃ other fun same => freshSecond (List.mem_singleton.mp same ▸ member)
  have available : (heap₂ node).isSome := by
    rw [agree₂ node freshSecond, agree₁ node fun member => apart member List.mem_cons_self,
      linked.links]
    rfl
  let head := if first.getLast? = none then second.head? else list.head
  let tail := if second.head? = none then first.getLast? else list.tail
  refine ⟨heap₃, ⟨head, tail, list.count - 1⟩, ?_, ?_, ?_, ?_⟩
  · rw [ListHeader.unlink, linked.links]
    simp only [Option.bind_eq_bind, Option.bind_some]
    rw [relinked₁, Option.bind_some, relinked₂, Option.bind_some, setLinks_some _ available]
    rfl
  · exact {
      segment := by
        apply segment_append.mpr
        constructor <;> simpa
      nodup := (List.nodup_middle.mp linked.nodup).of_cons
      head := by
        change ite _ _ _ = _
        rw [linked.head]
        cases first <;> simp
      tail := by
        change ite _ _ _ = _
        rw [linked.tail]
        cases second <;> simp [List.getLast?_eq_some_getLast]
      count := by
        rw [linked.count]
        simp only [List.length_append, List.length_cons]
        omega }
  · refine (agree₁.mono ?_).trans ((agree₂.mono ?_).trans (agree₃.mono ?_)) <;> simp +contextual
  · exact Function.update_self _ _ _

theorem Linked.unlink_head (linked : Linked heap list (node :: second)) :
    ∃ changed shrunk, list.unlink heap node = some (changed, shrunk) ∧
      Unlinked heap changed shrunk [] node second :=
  @Linked.unlink ν heap list [] second node _ linked

end Specifications

end EnetTsn.Library
