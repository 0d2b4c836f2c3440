import EnetTsn.Library.Window
import EnetTsn.Uniconf.KeySearch

namespace EnetTsn.Uniconf

open EnetTsn.Library

/-- `key_range_t`. A null pointer and a key of no octets leave an end open. -/
structure KeyRange where
  kd1 : Option (List UInt8)
  kd2 : Option (List UInt8)
  deriving DecidableEq

def givenKey (kd : Option (List UInt8)) : Option (List UInt8) := kd.filter fun octets => octets ≠ []

namespace KeyRange

def low (range : KeyRange) (kd : List UInt8) : Bool :=
  (givenKey range.kd1).any fun first => keycmp kd first < 0

def high (range : KeyRange) (kd : List UInt8) : Bool :=
  (givenKey range.kd2).any fun last => keycmp last kd < 0

def contains (range : KeyRange) (kd : List UInt8) : Bool := !range.low kd && !range.high kd

end KeyRange

section Search

variable {ν : Type} [DecidableEq ν]

namespace Simpledb

/-- The first end of `get_range`. -/
def lowEnd (db : Simpledb ν) (kd1 : Option (List UInt8)) : Option (Option ν) :=
  match givenKey kd1 with
  | none => some db.dblist.head
  | some kd => do
    let (res, n1) ← db.binSearch kd
    match n1 with
    | none => some none
    | some node =>
      if 0 < res then (db.heap node).map Links.next
      else some (some node)

/-- The second end of `get_range`. -/
def highEnd (db : Simpledb ν) (kd2 : Option (List UInt8)) : Option (Option ν) :=
  match givenKey kd2 with
  | none => some db.dblist.tail
  | some kd => do
    let (res, n2) ← db.binSearch kd
    match n2 with
    | none => some none
    | some node =>
      if res < 0 then (db.heap node).map Links.prev
      else some (some node)

/-- `get_range`: the ends of a range that has data. The outer option is the access to memory. -/
def getRange (db : Simpledb ν) (keyrange : KeyRange) : Option (Option (ν × ν)) := do
  let n1 ← db.lowEnd keyrange.kd1
  let n2 ← db.highEnd keyrange.kd2
  match n1, n2 with
  | some first, some last => do
    let dbd1 ← db.data first
    let dbd2 ← db.data last
    if keycmp dbd2.kd dbd1.kd < 0 then some none else some (some (first, last))
  | _, _ => some none

end Simpledb

end Search

theorem keycmp_lt_of_le (first : keycmp kd1 kd2 < 0) (second : ¬ keycmp kd3 kd2 < 0) :
    keycmp kd1 kd3 < 0 := by
  rcases Int.lt_trichotomy (keycmp kd3 kd2) 0 with below | same | above
  · exact absurd below second
  · rw [keycmp_eq_zero.mp same]
    exact first
  · exact keycmp_trans first (keycmp_swap.mp above)

namespace Simpledb

variable {ν : Type} {db : Simpledb ν} {nodes : List ν} {kd : List UInt8} {keyrange : KeyRange}

def inRange (db : Simpledb ν) (keyrange : KeyRange) (nodes : List ν) : List ν :=
  window (fun node => keyrange.low (db.key node)) (fun node => keyrange.high (db.key node)) nodes

variable (sorted : db.Sorted nodes)
include sorted

theorem Sorted.downLow (keyrange : KeyRange) :
    Downward (fun node => keyrange.low (db.key node)) nodes := by
  refine sorted.increasing.imp ?_
  intro first second order below
  simp only [KeyRange.low, Option.any_eq_true] at below ⊢
  obtain ⟨kd, given, less⟩ := below
  rw [decide_eq_true_iff] at less
  exact ⟨kd, given, decide_eq_true (keycmp_trans order less)⟩

theorem Sorted.downHigh (keyrange : KeyRange) :
    Downward (fun node => !keyrange.high (db.key node)) nodes := by
  refine sorted.increasing.imp ?_
  intro first second order notHigh
  simp only [Bool.not_eq_true', KeyRange.high, Option.any_eq_false] at notHigh ⊢
  intro kd given
  have above := notHigh kd given
  rw [decide_eq_false_iff_not] at above ⊢
  exact fun less => above (keycmp_trans less order)

theorem Sorted.lowEnd [DecidableEq ν] (keyrange : KeyRange) :
    db.lowEnd keyrange.kd1 = some (nodes.filter fun node => !keyrange.low (db.key node)).head? := by
  rw [Simpledb.lowEnd]
  cases given : givenKey keyrange.kd1 with
  | none =>
    have all : (nodes.filter fun node => !keyrange.low (db.key node)) = nodes := by
      refine List.filter_eq_self.mpr fun node _ => ?_
      rw [KeyRange.low, given]
      rfl
    rw [all, sorted.linked.head]
  | some kd =>
    have low (node : ν) : keyrange.low (db.key node) = decide (keycmp (db.key node) kd < 0) := by
      rw [KeyRange.low, given]
      rfl
    by_cases empty : nodes = []
    · have count : db.dblist.count = 0 := by
        rw [sorted.linked.count, empty]
        rfl
      have searched : db.binSearch kd = some (-1, none) := if_pos count
      simp only [searched, empty]
      rfl
    obtain ⟨first, place, second, rfl, searched, before, after⟩ := sorted.binSearch_split kd empty
    have start : (first.filter fun node => !keyrange.low (db.key node)) = [] := by
      refine List.filter_eq_nil_iff.mpr fun node member => ?_
      rw [low, decide_eq_true (before node member)]
      exact Bool.noConfusion
    have stop : (second.filter fun node => !keyrange.low (db.key node)) = second := by
      refine List.filter_eq_self.mpr fun node member => ?_
      have above := keycmp_swap.mpr (after node member)
      rw [low, decide_eq_false (by omega)]
      rfl
    simp only [searched, Option.bind_eq_bind, Option.bind_some, sorted.linked.links, Option.map_some]
    rw [List.filter_append, List.filter_cons, start, stop, low]
    by_cases above : 0 < keycmp kd (db.key place)
    · rw [if_pos above, decide_eq_true (keycmp_swap.mp above)]
      rfl
    · rw [if_neg above, decide_eq_false (mt keycmp_swap.mpr above)]
      rfl

theorem Sorted.highEnd [DecidableEq ν] (keyrange : KeyRange) :
    db.highEnd keyrange.kd2 = some (nodes.filter fun node => !keyrange.high (db.key node)).getLast? := by
  rw [Simpledb.highEnd]
  cases given : givenKey keyrange.kd2 with
  | none =>
    have all : (nodes.filter fun node => !keyrange.high (db.key node)) = nodes := by
      refine List.filter_eq_self.mpr fun node _ => ?_
      rw [KeyRange.high, given]
      rfl
    rw [all, sorted.linked.tail]
  | some kd =>
    have high (node : ν) : keyrange.high (db.key node) = decide (keycmp kd (db.key node) < 0) := by
      rw [KeyRange.high, given]
      rfl
    by_cases empty : nodes = []
    · have count : db.dblist.count = 0 := by
        rw [sorted.linked.count, empty]
        rfl
      have searched : db.binSearch kd = some (-1, none) := if_pos count
      simp only [searched, empty]
      rfl
    obtain ⟨first, place, second, rfl, searched, before, after⟩ := sorted.binSearch_split kd empty
    have start : (first.filter fun node => !keyrange.high (db.key node)) = first := by
      refine List.filter_eq_self.mpr fun node member => ?_
      have below := keycmp_swap.mpr (before node member)
      rw [high, decide_eq_false (by omega)]
      rfl
    have stop : (second.filter fun node => !keyrange.high (db.key node)) = [] := by
      refine List.filter_eq_nil_iff.mpr fun node member => ?_
      rw [high, decide_eq_true (after node member)]
      exact Bool.noConfusion
    simp only [searched, Option.bind_eq_bind, Option.bind_some, sorted.linked.links, Option.map_some]
    rw [List.filter_append, List.filter_cons, start, stop, high]
    by_cases below : keycmp kd (db.key place) < 0
    · rw [if_pos below, decide_eq_true below]
      simp
    · rw [if_neg below, decide_eq_false below]
      simp

theorem Sorted.getRange [DecidableEq ν] (keyrange : KeyRange) :
    (db.inRange keyrange nodes = [] → db.getRange keyrange = some none) ∧
      ∀ first last, (db.inRange keyrange nodes).head? = some first →
        (db.inRange keyrange nodes).getLast? = some last →
          db.getRange keyrange = some (some (first, last)) := by
  have stored : ∀ node ∈ nodes, ∃ dbd, db.data node = some dbd ∧ db.key node = dbd.kd := by
    intro node member
    obtain ⟨dbd, found⟩ := Option.isSome_iff_exists.mp (sorted.stored node member)
    refine ⟨dbd, found, ?_⟩
    rw [key, found]
    rfl
  rw [Simpledb.getRange, sorted.lowEnd, sorted.highEnd]
  simp only [Option.bind_eq_bind, Option.bind_some]
  constructor
  · intro empty
    cases atLow : (nodes.filter fun node => !keyrange.low (db.key node)).head? with
    | none => rfl
    | some first =>
      cases atHigh : (nodes.filter fun node => !keyrange.high (db.key node)).getLast? with
      | none => rfl
      | some last =>
        obtain ⟨inFirst, notLow⟩ := List.mem_filter.mp (List.mem_of_mem_head? atLow)
        obtain ⟨inLast, notHigh⟩ := List.mem_filter.mp (List.mem_of_mem_getLast? atHigh)
        -- the last node is before the range, or the range would have it
        have lastLow : keyrange.low (db.key last) = true := by
          by_contra above
          have member : last ∈ db.inRange keyrange nodes := by
            refine List.mem_filter.mpr ⟨inLast, ?_⟩
            rw [Bool.and_eq_true, Bool.not_eq_true']
            exact ⟨Bool.not_eq_true _ |>.mp above, notHigh⟩
          rw [empty] at member
          cases member
        have order : keycmp (db.key last) (db.key first) < 0 := by
          simp only [KeyRange.low, Option.any_eq_true, decide_eq_true_eq, Bool.not_eq_true',
            Option.any_eq_false, decide_eq_false_iff_not] at lastLow notLow
          obtain ⟨kd, given, below⟩ := lastLow
          exact keycmp_lt_of_le below (notLow kd given)
        obtain ⟨dbd1, found1, key1⟩ := stored first inFirst
        obtain ⟨dbd2, found2, key2⟩ := stored last inLast
        rw [key1, key2] at order
        simp only [found1, found2, Option.bind_some, if_pos order]
  · intro first last atFirst atLast
    have filled : db.inRange keyrange nodes ≠ [] := by
      intro empty
      rw [empty] at atFirst
      cases atFirst
    have low := window_head (sorted.downHigh keyrange) filled
    have high := window_last (sorted.downLow keyrange) filled
    have increasing : (db.inRange keyrange nodes).Pairwise fun first second =>
        keycmp (db.key first) (db.key second) < 0 := List.Pairwise.filter _ sorted.increasing
    rw [inRange] at atFirst atLast increasing
    have inFirst := List.mem_of_mem_head? atFirst
    have inLast := List.mem_of_mem_getLast? atLast
    obtain ⟨dbd1, found1, key1⟩ := stored first (List.mem_filter.mp inFirst).1
    obtain ⟨dbd2, found2, key2⟩ := stored last (List.mem_filter.mp inLast).1
    have order : ¬ keycmp dbd2.kd dbd1.kd < 0 := by
      rw [← key1, ← key2]
      cases between : window (fun node => keyrange.low (db.key node))
          (fun node => keyrange.high (db.key node)) nodes with
      | nil => exact absurd between filled
      | cons head tail =>
        rw [between] at atFirst inLast increasing
        cases atFirst
        rcases List.mem_cons.mp inLast with same | later
        · rw [same, keycmp_eq_zero.mpr rfl]
          decide
        · have less := (List.pairwise_cons.mp increasing).1 last later
          have above := keycmp_swap.mpr less
          omega
    rw [← low, ← high, atFirst, atLast]
    simp only [found1, found2, Option.bind_some, if_neg order]

end Simpledb

end EnetTsn.Uniconf
