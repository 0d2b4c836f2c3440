import EnetTsn.Library.BubblePass
import EnetTsn.Library.LinkedList
import EnetTsn.Library.Loop
import EnetTsn.Library.Run

namespace EnetTsn.Unibase

open EnetTsn.Library

structure ListState (ν : Type) where
  heap : LinkHeap ν
  list : ListHeader ν

def ListState.nodes (state : ListState ν) : List ν := state.list.toList state.heap

section Operations

variable [DecidableEq ν]

def ListState.of (result : LinkHeap ν × ListHeader ν) : ListState ν := ⟨result.1, result.2⟩

/-- The inner loop of `ub_list_sort` from a node on, with the flag `sort`. -/
def ListState.sortWalk (sh : ν → ν → Bool) : Nat → Option ν → ListState ν → Bool →
    Option (ListState ν × Bool)
  | _, none, state, sort => some (state, sort)
  | 0, some _, _, _ => none
  | turns + 1, some node, state, sort => do
    let links ← state.heap node
    match links.next with
    | none => some (state, sort)
    | some next =>
      if sh node next then sortWalk sh turns (some next) state sort
      else
        let (heap, list) ← state.list.unlink state.heap node
        let (heap, list) ← list.insertAfter heap next node
        sortWalk sh turns (some node) ⟨heap, list⟩ true

/-- `ub_list_sort`, with a number of walks over the list. -/
def ListState.sort (sh : ν → ν → Bool) (walks : Nat) (state : ListState ν) : Option (ListState ν) :=
  (doWhile (fun pair => pair.1.sortWalk sh pair.1.list.count pair.1.list.head false) (·.2) walks
    (state, true)).map (·.1)

/-- `ub_list_clear`; the function that each node is passed to may give it back. -/
def ListState.clearWalk (release : Bool) : Nat → Option ν → LinkHeap ν → Option (LinkHeap ν)
  | _, none, heap => some heap
  | 0, some _, _ => none
  | turns + 1, some node, heap => do
    let links ← heap node
    clearWalk release turns links.next (if release then Function.update heap node none else heap)

inductive ListCall (ν : Type) where
  | append (node : ν)
  | prepend (node : ν)
  | insertBefore (place node : ν)
  | insertAfter (place node : ν)
  | unlink (node : ν)
  | clear (release : Bool)
  | sort (sh : ν → ν → Bool)

def ListState.step (state : ListState ν) (walks : Nat) : ListCall ν → Option (ListState ν)
  | .append node => (state.list.append state.heap node).map .of
  | .prepend node => (state.list.prepend state.heap node).map .of
  | .insertBefore place node => (state.list.insertBefore state.heap place node).map .of
  | .insertAfter place node => (state.list.insertAfter state.heap place node).map .of
  | .unlink node => (state.list.unlink state.heap node).map .of
  | .clear release => (clearWalk release state.list.count state.list.head state.heap).map
      fun heap => ⟨heap, .empty⟩
  | .sort sh => state.sort sh walks

def listSystem (heap : LinkHeap ν) : System (ListState ν) (ListCall ν × Nat) where
  start := ⟨heap, .empty⟩
  step state event := state.step event.2 event.1

end Operations

/-- A node that is put into the list stands in memory and is in no list yet; a place, and a node
that is taken out, are in the list. -/
def ListState.Permitted (state : ListState ν) : ListCall ν → Prop
  | .append node | .prepend node => (state.heap node).isSome ∧ node ∉ state.nodes
  | .insertBefore place node | .insertAfter place node =>
    (state.heap node).isSome ∧ node ∉ state.nodes ∧ place ∈ state.nodes
  | .unlink node => node ∈ state.nodes
  | .clear _ => True
  | .sort sh => TotalPreorder sh

def ListCall.Makes (nodes changed : List ν) : ListCall ν → Prop
  | .append node => changed = nodes ++ [node]
  | .prepend node => changed = node :: nodes
  | .insertBefore place node => ∃ first second, nodes = first ++ place :: second ∧
      changed = first ++ node :: place :: second
  | .insertAfter place node => ∃ first second, nodes = first ++ place :: second ∧
      changed = first ++ place :: node :: second
  | .unlink node => ∃ first second, nodes = first ++ node :: second ∧ changed = first ++ second
  | .clear _ => changed = []
  | .sort sh => StableSort sh changed nodes

variable {ν : Type} [DecidableEq ν] {sh : ν → ν → Bool} {heap : LinkHeap ν} {list : ListHeader ν}
  {state : ListState ν} {nodes front rest : List ν} {node : ν} {turns : Nat}

theorem sortWalk_spec (linked : Linked state.heap state.list (front ++ node :: rest))
    (enough : rest.length < turns) (sort : Bool) : ∃ next,
      state.sortWalk sh turns (some node) sort = some (next, sort || (bubbleFrom sh node rest).2) ∧
      Linked next.heap next.list (front ++ (bubbleFrom sh node rest).1) := by
  induction rest generalizing state front node turns sort with
  | nil =>
    obtain ⟨turns, rfl⟩ := Nat.exists_eq_succ_of_ne_zero (Nat.ne_zero_of_lt enough)
    refine ⟨state, ?_, linked⟩
    simp [ListState.sortWalk, linked.links, bubbleFrom]
  | cons other rest ih =>
    obtain ⟨turns, rfl⟩ := Nat.exists_eq_succ_of_ne_zero (Nat.ne_zero_of_lt enough)
    have fewer : rest.length < turns := Nat.lt_of_succ_lt_succ enough
    simp only [ListState.sortWalk, linked.links, Option.bind_eq_bind, Option.bind_some,
      List.head?_cons, bubbleFrom]
    by_cases right : sh node other = true
    · have moved : Linked state.heap state.list ((front ++ [node]) ++ other :: rest) := by
        simpa using linked
      obtain ⟨next, walked, after⟩ := ih moved fewer sort
      rw [if_pos right, if_pos right]
      exact ⟨next, walked, by simpa using after⟩
    · rw [if_neg right, if_neg right]
      obtain ⟨heap₁, list₁, taken, unlinked⟩ := linked.unlink
      have fresh : node ∉ front ++ other :: rest := by
        have nodup := List.nodup_middle.mp linked.nodup
        exact (List.nodup_cons.mp nodup).1
      have free : (heap₁ node).isSome = true := by rw [unlinked.free]; rfl
      obtain ⟨heap₂, list₂, put, inserted⟩ := unlinked.linked.insertAfter free fresh
      have exchanged : Linked (ListState.mk heap₂ list₂).heap (ListState.mk heap₂ list₂).list
          ((front ++ [other]) ++ node :: rest) := inserted.linked
      obtain ⟨next, walked, after⟩ := ih exchanged fewer true
      refine ⟨next, ?_, by simpa using after⟩
      simp only [taken, Option.bind_some, put, walked, Bool.true_or, Bool.or_true]

structure Sorting (sh : ν → ν → Bool) (nodes : List ν) (pair : ListState ν × Bool) : Prop where
  linked : ∃ changed, Linked pair.1.heap pair.1.list changed
  perm : pair.1.nodes.Perm nodes
  stable : ∀ a, pair.1.nodes.filter (equivalent sh a) = nodes.filter (equivalent sh a)
  still : pair.2 = false → pair.1.nodes.Pairwise fun a b => sh a b = true

theorem Sorting.walk (order : TotalPreorder sh) (sorting : Sorting sh nodes pair) : ∃ next,
      pair.1.sortWalk sh pair.1.list.count pair.1.list.head false = some next ∧
      Sorting sh nodes next ∧
      (next.2 = true → misplaced sh next.1.nodes < misplaced sh pair.1.nodes) := by
  obtain ⟨state, sort⟩ := pair
  obtain ⟨changed, linked⟩ := sorting.linked
  have perm := sorting.perm
  have stable := sorting.stable
  dsimp only [ListState.nodes] at linked perm stable
  rw [linked.toList] at perm stable
  rw [linked.head, linked.count]
  cases changed with
  | nil =>
    have none : state.nodes = [] := linked.toList
    refine ⟨(state, false), by simp [ListState.sortWalk], ⟨⟨_, linked⟩, ?_, ?_, ?_⟩, by simp⟩
    · rw [none]; exact perm
    · rw [none]; exact stable
    · rw [none]; exact fun _ => List.Pairwise.nil
  | cons first rest =>
    have whole : Linked state.heap state.list ([] ++ first :: rest) := linked
    obtain ⟨next, walked, after⟩ := @sortWalk_spec ν _ sh _ _ _ _ _ whole (Nat.lt_succ_self _) false
    have before : state.nodes = first :: rest := linked.toList
    have now : next.nodes = (bubbleFrom sh first rest).1 := after.toList
    have fewer := @bubbleFrom_misplaced _ sh first rest order
    refine ⟨(next, (bubbleFrom sh first rest).2), walked, ⟨⟨_, after⟩, ?_, ?_, ?_⟩, ?_⟩
    · rw [now]
      exact bubbleFrom_perm.trans perm
    · intro a
      rw [now, bubbleFrom_stable order, stable]
    · intro still
      obtain ⟨same, increasing⟩ := bubbleFrom_still order still
      rw [now, same]
      exact increasing
    · intro exchanged
      rw [before, now]
      rw [if_pos exchanged] at fewer
      exact fewer

theorem sort_spec (order : TotalPreorder sh) (linked : Linked state.heap state.list nodes)
    (enough : misplaced sh nodes < walks) : ∃ next sorted, state.sort sh walks = some next ∧
      Linked next.heap next.list sorted ∧ StableSort sh sorted nodes := by
  have nodes_eq : state.nodes = nodes := linked.toList
  have start : Sorting sh nodes (state, true) :=
    ⟨⟨_, linked⟩, by rw [nodes_eq], fun a => by rw [nodes_eq], by simp⟩
  obtain ⟨⟨next, sort⟩, done, ⟨⟨sorted, after⟩, perm, stable, still⟩, stopped⟩ :=
    doWhile_of_measure (Sorting sh nodes) (fun pair => misplaced sh pair.1.nodes)
      (fun pair sorting => sorting.walk order) start (by rw [nodes_eq]; exact enough)
  have same : next.nodes = sorted := after.toList
  rw [same] at perm stable still
  refine ⟨next, sorted, ?_, after, still stopped, perm, stable⟩
  rw [ListState.sort, done]
  rfl

private theorem clearWalk_some (segment : Segment heap before nodes none) (nodup : nodes.Nodup)
    (release : Bool) :
    ∃ cleared, ListState.clearWalk release nodes.length nodes.head? heap = some cleared := by
  induction nodes generalizing heap before with
  | nil => exact ⟨heap, rfl⟩
  | cons node rest ih =>
    obtain ⟨fresh, apart⟩ := List.nodup_cons.mp nodup
    have left : Segment (if release then Function.update heap node none else heap) (some node)
        rest none := by
      apply segment.2.frame
      intro other member
      split
      · exact Function.update_of_ne (ne_of_mem_of_not_mem member fresh) _ _
      · rfl
    obtain ⟨cleared, walked⟩ := ih left apart
    refine ⟨cleared, ?_⟩
    simpa [ListState.clearWalk, segment.1] using walked

theorem step_spec (linked : Linked state.heap state.list nodes) (permitted : state.Permitted call) :
    ∃ next changed enough, (∀ walks, enough ≤ walks → state.step walks call = some next) ∧
      Linked next.heap next.list changed ∧ call.Makes nodes changed := by
  have same : state.nodes = nodes := linked.toList
  cases call with
  | append node =>
    obtain ⟨heap, list, done, inserted⟩ := linked.append permitted.1 (same ▸ permitted.2)
    exact ⟨⟨heap, list⟩, _, 0, fun _ _ => congrArg (Option.map _) done, inserted.linked, rfl⟩
  | prepend node =>
    obtain ⟨heap, list, done, inserted⟩ := linked.prepend permitted.1 (same ▸ permitted.2)
    exact ⟨⟨heap, list⟩, _, 0, fun _ _ => congrArg (Option.map _) done, inserted.linked, rfl⟩
  | insertBefore place node =>
    obtain ⟨allocated, fresh, member⟩ := permitted
    rw [same] at fresh member
    obtain ⟨first, second, rfl⟩ := List.append_of_mem member
    obtain ⟨heap, list, done, inserted⟩ := linked.insertBefore allocated fresh
    exact ⟨⟨heap, list⟩, _, 0, fun _ _ => congrArg (Option.map _) done, inserted.linked,
      first, second, rfl, rfl⟩
  | insertAfter place node =>
    obtain ⟨allocated, fresh, member⟩ := permitted
    rw [same] at fresh member
    obtain ⟨first, second, rfl⟩ := List.append_of_mem member
    obtain ⟨heap, list, done, inserted⟩ := linked.insertAfter allocated fresh
    exact ⟨⟨heap, list⟩, _, 0, fun _ _ => congrArg (Option.map _) done, inserted.linked,
      first, second, rfl, by simp⟩
  | unlink node =>
    have member : node ∈ state.nodes := permitted
    rw [same] at member
    obtain ⟨first, second, rfl⟩ := List.append_of_mem member
    obtain ⟨heap, list, done, unlinked⟩ := linked.unlink
    exact ⟨⟨heap, list⟩, _, 0, fun _ _ => congrArg (Option.map _) done, unlinked.linked,
      first, second, rfl, rfl⟩
  | clear release =>
    obtain ⟨cleared, done⟩ := clearWalk_some linked.segment linked.nodup release
    refine ⟨⟨cleared, .empty⟩, [], 0, fun _ _ => ?_, linked_empty, rfl⟩
    rw [ListState.step, linked.head, linked.count, done]
    rfl
  | sort sh =>
    obtain ⟨next, sorted, done, after, stable⟩ :=
      sort_spec permitted linked (Nat.lt_succ_self (misplaced sh nodes))
    refine ⟨next, sorted, (misplaced sh nodes).succ, fun walks enough => ?_, after, stable⟩
    obtain ⟨pair, finished, rfl⟩ := Option.map_eq_some_iff.mp done
    exact congrArg (Option.map _) (doWhile_mono finished enough)

private theorem step_mono (enough : walks ≤ more) (taken : state.step walks call = some next) :
    state.step more call = some next := by
  cases call with
  | sort sh =>
    obtain ⟨pair, finished, rfl⟩ := Option.map_eq_some_iff.mp taken
    exact congrArg (Option.map _) (doWhile_mono finished enough)
  | _ => exact taken

/-- In every run the links are those of a list, and each call that is permitted ends and makes of
the list what it is for. -/
theorem list_kept (heap : LinkHeap ν) (state : ListState ν)
    (reachable : (listSystem heap).Reachable (fun state event => state.Permitted event.1) state) :
    ∃ nodes, Linked state.heap state.list nodes ∧ ∀ call, state.Permitted call →
      ∃ next changed enough, (∀ walks, enough ≤ walks → state.step walks call = some next) ∧
        Linked next.heap next.list changed ∧ call.Makes nodes changed := by
  have invariant : ∃ nodes, Linked state.heap state.list nodes := by
    refine reachable.invariant (fun state => ∃ nodes, Linked state.heap state.list nodes)
      ⟨[], linked_empty⟩ ?_
    rintro before ⟨call, walks⟩ after ⟨nodes, linked⟩ permitted taken
    obtain ⟨next, changed, enough, done, kept, _⟩ := step_spec linked permitted
    have same := (step_mono (Nat.le_max_left walks enough) taken).symm.trans
      (done _ (Nat.le_max_right walks enough))
    cases same
    exact ⟨changed, kept⟩
  obtain ⟨nodes, linked⟩ := invariant
  exact ⟨nodes, linked, fun call permitted => step_spec linked permitted⟩

theorem list_kept_two : ∃ state : ListState Nat, state.nodes = [5, 2] ∧
    ∃ nodes, Linked state.heap state.list nodes ∧ ∀ call, state.Permitted call →
      ∃ next changed enough, (∀ walks, enough ≤ walks → state.step walks call = some next) ∧
        Linked next.heap next.list changed ∧ call.Makes nodes changed := by
  let system := listSystem fun _ : Nat => some ⟨none, none⟩
  have first : system.Reachable (fun state event => state.Permitted event.1) _ :=
    .step .start (show system.start.Permitted (.append 5) from ⟨rfl, by decide⟩)
      (show system.step system.start (.append 5, 0) = some _ from rfl)
  refine ⟨_, ?_, list_kept _ _ (.step first ?_ (show system.step _ (.append 2, 0) = some _ from rfl))⟩
  · decide
  · exact ⟨rfl, by decide⟩

end EnetTsn.Unibase
