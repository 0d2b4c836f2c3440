import EnetTsn.Uniconf.RangeIteration

namespace EnetTsn.Uniconf

open EnetTsn.Library

structure Database (ν : Type) where
  db : Simpledb ν
  nodes : List ν
  shaped : db.Shaped nodes

variable {ν : Type} {db : Simpledb ν} {nodes front ahead rest behind : List ν} {node : ν}
  {dbd : Dbdata} {rangedp : SimpledbRange ν} {krange : KeyRange} {calls : Nat}

def Simpledb.itemsAt (db : Simpledb ν) (nodes : List ν) : List Dbdata := nodes.filterMap db.data

def Database.items (database : Database ν) : List Dbdata := database.db.itemsAt database.nodes

structure Database.Lists (database : Database ν) (krange : KeyRange)
    (order : List UInt8 → List UInt8 → Prop) (items : List Dbdata) : Prop where
  exactly : ∀ dbd, dbd ∈ items ↔ dbd ∈ database.items ∧ krange.contains dbd.kd = true
  ordered : items.Pairwise fun first second => order first.kd second.kd

/-- `simpledb_move_bottom_range`. -/
def SimpledbRange.moveBottomRange (rangedp : SimpledbRange ν) : SimpledbRange ν :=
  { rangedp with np := rangedp.n2 }

variable [DecidableEq ν]

/-- `simpledb_get_from_range` is called until it reports the end; none where the number of calls
does not suffice. -/
def Simpledb.itemsFrom (db : Simpledb ν) (direction : Direction) :
    Nat → Option (SimpledbRange ν) → Option (List Dbdata)
  | 0, _ => none
  | calls + 1, rangedp => do
    match ← db.simpledbGetFromRange rangedp direction with
    | none => some []
    | some (moved, dbd) => (db.itemsFrom direction calls (some moved)).map (dbd :: ·)

namespace Simpledb

theorem itemsFrom_end (direction : Direction) (positive : 0 < calls)
    (ended : ∀ range, rangedp? = some range → range.np = none) :
    db.itemsFrom direction calls rangedp? = some [] := by
  obtain ⟨calls, rfl⟩ := Nat.exists_eq_succ_of_ne_zero (Nat.ne_of_gt positive)
  cases rangedp? with
  | none => rfl
  | some range =>
    simp only [itemsFrom, simpledbGetFromRange, ended range rfl]
    rfl

theorem itemsFrom_item (atNode : rangedp.np = some node) (found : db.data node = some dbd)
    (moves : db.moveInRange rangedp node direction = some moved)
    (others : db.itemsFrom direction calls (some moved) = some items) :
    db.itemsFrom direction (calls + 1) (some rangedp) = some (dbd :: items) := by
  simp only [itemsFrom, simpledbGetFromRange, atNode, found, moves, others, Option.bind_eq_bind,
    Option.bind_some, Option.map_some]

omit [DecidableEq ν] in
theorem Sorted.different (sorted : db.Sorted (front ++ node :: behind)) :
    node ∉ front ∧ node ∉ behind := by
  have apart := List.nodup_middle.mp sorted.linked.nodup
  have outside := (List.nodup_cons.mp apart).1
  rw [List.mem_append, not_or] at outside
  exact outside

theorem itemsFrom_forward (sorted : db.Sorted (front ++ (ahead ++ rest)))
    (atNode : rangedp.np = ahead.head?) (atLast : rangedp.n2 = ahead.getLast?)
    (enough : ahead.length < calls) :
    db.itemsFrom .forward calls (some rangedp) = some (db.itemsAt ahead) := by
  induction ahead generalizing front rangedp calls with
  | nil =>
    apply itemsFrom_end _ enough
    rintro _ ⟨⟩
    exact atNode
  | cons node ahead ih =>
    obtain ⟨calls, rfl⟩ := Nat.exists_eq_succ_of_ne_zero (Nat.ne_zero_of_lt enough)
    obtain ⟨dbd, found⟩ := Option.isSome_iff_exists.mp (sorted.stored node (by simp))
    have further : db.itemsFrom .forward calls (some { rangedp with np := ahead.head? }) =
        some (db.itemsAt ahead) := by
      cases ahead with
      | nil =>
        apply itemsFrom_end _ (Nat.lt_of_succ_lt_succ enough)
        rintro _ ⟨⟩
        rfl
      | cons next ahead =>
        have later : db.Sorted ((front ++ [node]) ++ ((next :: ahead) ++ rest)) := by
          rw [List.append_assoc]
          exact sorted
        refine ih later rfl ?_ (Nat.lt_of_succ_lt_succ enough)
        rw [atLast, List.getLast?_cons_cons]
    rw [itemsAt, List.filterMap_cons, found]
    refine itemsFrom_item atNode found ?_ further
    rw [moveInRange]
    cases ahead with
    | nil => exact if_pos atLast
    | cons next ahead =>
      have other : rangedp.n2 ≠ some node := by
        intro same
        rw [atLast, List.getLast?_cons_cons] at same
        have inside : node ∈ next :: ahead := List.mem_of_mem_getLast? same
        exact sorted.different.2 (List.mem_append_left _ inside)
      rw [if_neg other, sorted.linked.links]
      rfl

theorem itemsFrom_backward (sorted : db.Sorted (front ++ (ahead.reverse ++ rest)))
    (atNode : rangedp.np = ahead.head?) (atFirst : rangedp.n1 = ahead.getLast?)
    (enough : ahead.length < calls) :
    db.itemsFrom .backward calls (some rangedp) = some (db.itemsAt ahead) := by
  induction ahead generalizing rest rangedp calls with
  | nil =>
    apply itemsFrom_end _ enough
    rintro _ ⟨⟩
    exact atNode
  | cons node ahead ih =>
    obtain ⟨calls, rfl⟩ := Nat.exists_eq_succ_of_ne_zero (Nat.ne_zero_of_lt enough)
    obtain ⟨dbd, found⟩ := Option.isSome_iff_exists.mp (sorted.stored node (by simp))
    rw [List.reverse_cons, List.append_assoc, List.singleton_append] at sorted
    have further : db.itemsFrom .backward calls (some { rangedp with np := ahead.head? }) =
        some (db.itemsAt ahead) := by
      cases ahead with
      | nil =>
        apply itemsFrom_end _ (Nat.lt_of_succ_lt_succ enough)
        rintro _ ⟨⟩
        rfl
      | cons previous ahead =>
        refine ih sorted rfl ?_ (Nat.lt_of_succ_lt_succ enough)
        rw [atFirst, List.getLast?_cons_cons]
    rw [itemsAt, List.filterMap_cons, found]
    refine itemsFrom_item atNode found ?_ further
    rw [← List.append_assoc] at sorted
    rw [moveInRange]
    cases ahead with
    | nil => exact if_pos atFirst
    | cons previous ahead =>
      have other : rangedp.n1 ≠ some node := by
        intro same
        rw [atFirst, List.getLast?_cons_cons] at same
        have inside : node ∈ previous :: ahead := List.mem_of_mem_getLast? same
        exact sorted.different.1 (List.mem_append_right _ (List.mem_reverse.mpr inside))
      rw [if_neg other, sorted.linked.links, List.reverse_cons, ← List.append_assoc,
        List.getLast?_concat]
      rfl

end Simpledb

namespace Database

variable (database : Database ν) (krange : KeyRange)

omit [DecidableEq ν] in
theorem lists_inRange
    (same : ∀ node, node ∈ inside ↔ node ∈ database.db.inRange krange database.nodes)
    (ordered : inside.Pairwise fun first second =>
      order (database.db.key first) (database.db.key second)) :
    database.Lists krange order (database.db.itemsAt inside) where
  exactly dbd := by
    have within (node : ν) : node ∈ inside ↔ node ∈ database.nodes ∧
        krange.contains (database.db.key node) = true := by
      rw [same, Simpledb.inRange, window, List.mem_filter]
      rfl
    rw [items, Simpledb.itemsAt, Simpledb.itemsAt, List.mem_filterMap, List.mem_filterMap]
    constructor
    · rintro ⟨node, member, found⟩
      obtain ⟨inNodes, contained⟩ := (within node).mp member
      rw [key_eq found] at contained
      exact ⟨⟨node, inNodes, found⟩, contained⟩
    · rintro ⟨⟨node, inNodes, found⟩, contained⟩
      rw [← key_eq found] at contained
      exact ⟨node, (within node).mpr ⟨inNodes, contained⟩, found⟩
  ordered := by
    refine List.Pairwise.filterMap _ ?_ ordered
    intro first second less dbd found other foundOther
    rw [key_eq found, key_eq foundOther] at less
    exact less

/-- **A range is gone through from either end**: it gives the items between its bounds, each once
and in the order of the keys, and reports the end behind the last one. A bound that is a null
pointer or a key of no octets is none, and without memory for the range there is no range. -/
theorem get_from_range_items : database.db.simpledbGetRange krange false = some none ∧
    ∃ rangedp, database.db.simpledbGetRange krange true = some rangedp ∧
      (∃ items, database.Lists krange (fun first second => keycmp first second < 0) items ∧
        ∀ calls, items.length < calls → database.db.itemsFrom .forward calls rangedp = some items) ∧
      ∃ items, database.Lists krange (fun first second => 0 < keycmp first second) items ∧
        ∀ calls, items.length < calls → database.db.itemsFrom .backward calls
          (rangedp.map SimpledbRange.moveBottomRange) = some items := by
  have sorted := database.shaped.sorted
  have increasing : (database.db.inRange krange database.nodes).Pairwise fun first second =>
      keycmp (database.db.key first) (database.db.key second) < 0 :=
    List.Pairwise.filter _ sorted.increasing
  have forward : database.Lists krange (fun first second => keycmp first second < 0) _ :=
    database.lists_inRange krange (fun _ => Iff.rfl) increasing
  have backward : database.Lists krange (fun first second => 0 < keycmp first second) _ :=
    database.lists_inRange krange (fun _ => List.mem_reverse)
      (List.pairwise_reverse.mpr (increasing.imp keycmp_swap.mpr))
  obtain ⟨front, rest, split⟩ : ∃ front rest,
      database.nodes = front ++ (database.db.inRange krange database.nodes ++ rest) := by
    obtain ⟨front, rest, split⟩ := window_infix (sorted.downLow krange) (sorted.downHigh krange)
    exact ⟨front, rest, by rw [← List.append_assoc]; exact split⟩
  obtain ⟨nothing, ends⟩ := sorted.getRange krange
  refine ⟨rfl, ?_⟩
  have length {inside : List ν} (part : inside ⊆ database.nodes) :
      (database.db.itemsAt inside).length = inside.length := by
    rw [Simpledb.itemsAt, List.length_filterMap_eq_countP, List.countP_eq_length]
    exact fun node member => sorted.stored node (part member)
  have part : database.db.inRange krange database.nodes ⊆ database.nodes :=
    List.filter_subset_self _
  generalize database.db.inRange krange database.nodes = inside at *
  cases inside with
  | nil =>
    have empty : database.db.simpledbGetRange krange true = some none := by
      rw [Simpledb.simpledbGetRange, nothing rfl]
      rfl
    refine ⟨none, empty, ⟨_, forward, ?_⟩, _, backward, ?_⟩
    · exact fun calls enough => Simpledb.itemsFrom_end _ enough (by simp)
    · exact fun calls enough => Simpledb.itemsFrom_end _ enough (by simp)
  | cons n1 tail =>
    have atLast := List.getLast?_eq_some_getLast (List.cons_ne_nil n1 tail)
    generalize (n1 :: tail).getLast (List.cons_ne_nil n1 tail) = n2 at atLast
    have opened : database.db.simpledbGetRange krange true =
        some (some { n1 := some n1, n2 := some n2, np := some n1 }) := by
      rw [Simpledb.simpledbGetRange, ends n1 n2 rfl atLast]
      rfl
    refine ⟨_, opened, ⟨_, forward, fun calls enough => ?_⟩, _, backward, fun calls enough => ?_⟩
    · rw [length part] at enough
      exact Simpledb.itemsFrom_forward (split ▸ sorted) rfl atLast.symm enough
    · have reversed : (n1 :: tail).reverse ⊆ database.nodes :=
        fun node member => part (List.mem_reverse.mp member)
      rw [length reversed] at enough
      have turned : database.db.Sorted (front ++ ((n1 :: tail).reverse.reverse ++ rest)) := by
        rw [List.reverse_reverse, ← split]
        exact sorted
      refine Simpledb.itemsFrom_backward turned ?_ ?_ enough
      · rw [List.head?_reverse]
        exact atLast.symm
      · rw [List.getLast?_reverse]
        rfl

end Database

def twoKeys : Database Nat where
  db := {
    heap := fun node =>
      if node = 0 then some ⟨some 1, none⟩ else if node = 1 then some ⟨none, some 0⟩ else none
    data := fun node => if node = 0 then some ⟨0, [1], 1, some [5]⟩
      else if node = 1 then some ⟨0, [3], 1, some [6]⟩ else none
    dblist := ⟨some 0, some 1, 2⟩ }
  nodes := [0, 1]
  shaped := {
    sorted := {
      linked := {
        segment := ⟨rfl, rfl, trivial⟩
        nodup := by decide
        head := rfl
        tail := rfl
        count := rfl }
      stored := by decide
      increasing := by decide }
    allocated := by
      intro node
      dsimp only
      split_ifs <;> rfl }

/-- A range stands at its first node after `simpledb_get_range`, so that the first step backward
comes to the end of it. -/
theorem backward_from_start : ¬ ∀ (database : Database Nat) (krange : KeyRange) rangedp,
    database.db.simpledbGetRange krange true = some rangedp →
      ∃ items, database.Lists krange (fun first second => 0 < keycmp first second) items ∧
        ∀ calls, items.length < calls →
          database.db.itemsFrom .backward calls rangedp = some items := by
  intro always
  obtain ⟨items, lists, iterated⟩ := always twoKeys ⟨some [1], some [3]⟩
    (some { n1 := some 0, n2 := some 1, np := some 0 }) (by decide)
  have last : (⟨0, [3], 1, some [6]⟩ : Dbdata) ∈ items := (lists.exactly _).mpr (by decide)
  have enough := iterated (items.length + 2) (by omega)
  have short : twoKeys.db.itemsFrom .backward (items.length + 2)
      (some { n1 := some 0, n2 := some 1, np := some 0 }) = some [⟨0, [1], 1, some [5]⟩] := rfl
  rw [← Option.some.inj enough] at last
  exact absurd last (by decide)

end EnetTsn.Uniconf
