import EnetTsn.Library.BinarySearch
import EnetTsn.Uniconf.Simpledb
import Mathlib.Data.List.Lex
import Mathlib.Order.Basic

namespace EnetTsn.Uniconf

open EnetTsn.Library

def word (kd : List UInt8) : List Nat := kd.map UInt8.toNat

theorem word_injective (same : word kd1 = word kd2) : kd1 = kd2 :=
  List.map_injective_iff.mpr (fun _ _ => UInt8.toNat_inj.mp) same

private theorem keycmp_nil_nil : keycmp [] [] = 0 := rfl

theorem keycmp_nil_cons (octet : UInt8) (rest : List UInt8) : keycmp [] (octet :: rest) = -1 := by
  simp [keycmp, memcmp]

theorem keycmp_cons_nil (octet : UInt8) (rest : List UInt8) : keycmp (octet :: rest) [] = 1 := by
  simp [keycmp, memcmp]

theorem keycmp_cons_cons (first second : UInt8) (rest others : List UInt8) :
    keycmp (first :: rest) (second :: others) =
      if first = second then keycmp rest others else if first < second then -1 else 1 := by
  by_cases same : first = second
  · simp [keycmp, memcmp, same]
  · by_cases below : first < second
    · simp [keycmp, memcmp, same, below]
    · simp [keycmp, memcmp, same, below]

theorem keycmp_sign (kd1 kd2 : List UInt8) :
    (keycmp kd1 kd2 < 0 ↔ word kd1 < word kd2) ∧ (0 < keycmp kd1 kd2 ↔ word kd2 < word kd1) := by
  induction kd1 generalizing kd2 with
  | nil =>
    cases kd2 with
    | nil => simp [keycmp_nil_nil]
    | cons octet rest => simp [keycmp_nil_cons, word]
  | cons first rest ih =>
    cases kd2 with
    | nil => simp [keycmp_cons_nil, word]
    | cons second others =>
      obtain ⟨below, above⟩ := ih others
      rw [keycmp_cons_cons]
      simp only [word, List.map_cons, List.cons_lt_cons_iff] at below above ⊢
      by_cases same : first = second
      · simp [same, below, above]
      · have different : first.toNat ≠ second.toNat := fun equal => same (UInt8.toNat_inj.mp equal)
        by_cases order : first < second
        · have less : first.toNat < second.toNat := UInt8.lt_iff_toNat_lt.mp order
          simp [same, order, less, less.not_gt, different.symm]
        · have less : second.toNat < first.toNat := by
            have notLess : ¬ first.toNat < second.toNat := fun below =>
              order (UInt8.lt_iff_toNat_lt.mpr below)
            omega
          simp [same, order, less, less.not_gt, different]

theorem keycmp_neg {kd1 kd2 : List UInt8} : keycmp kd1 kd2 < 0 ↔ word kd1 < word kd2 :=
  (keycmp_sign kd1 kd2).1

theorem keycmp_pos {kd1 kd2 : List UInt8} : 0 < keycmp kd1 kd2 ↔ word kd2 < word kd1 :=
  (keycmp_sign kd1 kd2).2

theorem keycmp_eq_zero : keycmp kd1 kd2 = 0 ↔ kd1 = kd2 := by
  have neg := @keycmp_neg kd1 kd2
  have pos := @keycmp_pos kd1 kd2
  constructor
  · intro zero
    rw [zero] at neg pos
    apply word_injective
    rcases lt_trichotomy (word kd1) (word kd2) with below | same | above
    · exact absurd (neg.mpr below) (by decide)
    · exact same
    · exact absurd (pos.mpr above) (by decide)
  · rintro rfl
    have notNeg := mt neg.mp (lt_irrefl _)
    have notPos := mt pos.mp (lt_irrefl _)
    omega

theorem keycmp_trans (first : keycmp kd1 kd2 < 0) (second : keycmp kd2 kd3 < 0) : keycmp kd1 kd3 < 0 :=
  keycmp_neg.mpr (lt_trans (keycmp_neg.mp first) (keycmp_neg.mp second))

theorem keycmp_swap : 0 < keycmp kd1 kd2 ↔ keycmp kd2 kd1 < 0 :=
  keycmp_pos.trans keycmp_neg.symm

theorem not_below_self (kd : List UInt8) : ¬ keycmp kd kd < 0 := by
  rw [keycmp_eq_zero.mpr rfl]
  decide

theorem keycmp_asymm (less : keycmp kd1 kd2 < 0) : ¬ keycmp kd2 kd1 < 0 :=
  fun greater => not_below_self kd1 (keycmp_trans less greater)

namespace Simpledb

variable {ν : Type} {db : Simpledb ν} {nodes : List ν} {kd : List UInt8}

def key (db : Simpledb ν) (node : ν) : List UInt8 :=
  ((db.data node).map Dbdata.kd).getD []

structure Sorted (db : Simpledb ν) (nodes : List ν) : Prop where
  linked : Linked db.heap db.dblist nodes
  stored : ∀ node ∈ nodes, (db.data node).isSome
  increasing : nodes.Pairwise fun first second => keycmp (db.key first) (db.key second) < 0

def compareAt (db : Simpledb ν) (kd : List UInt8) (nodes : List ν) (position : Nat) : Int :=
  ((nodes[position]?).map fun node => keycmp kd (db.key node)).getD 0

theorem compareAt_eq (here : nodes[position]? = some node) :
    db.compareAt kd nodes position = keycmp kd (db.key node) := by
  rw [compareAt, here]
  rfl

variable (sorted : db.Sorted nodes)
include sorted

private theorem Sorted.increasing_compareAt (kd : List UInt8) :
    Increasing (db.compareAt kd nodes) nodes.length := by
  intro first second order inside low
  have insideFirst : first < nodes.length := Nat.lt_trans order inside
  have above := List.pairwise_iff_getElem.mp sorted.increasing first second insideFirst inside order
  rw [compareAt_eq (List.getElem?_eq_getElem insideFirst)] at low
  rw [compareAt_eq (List.getElem?_eq_getElem inside)]
  rcases Int.lt_or_eq_of_le low with below | same
  · exact keycmp_trans below above
  · rw [keycmp_eq_zero.mp same]
    exact above

theorem Sorted.searchFrom (kd : List UInt8) (positive : 0 < size)
    (inside : start + size ≤ nodes.length) : db.searchFrom kd fuel size nodes[start]? =
      (halvingSearch (db.compareAt kd nodes) fuel start size).map fun found =>
        (found.1, nodes[found.2]?) := by
  induction fuel generalizing size start with
  | zero => rfl
  | succ fuel ih =>
    have first : start < nodes.length := by omega
    have middle : start + size / 2 < nodes.length := by omega
    have here := List.getElem?_eq_getElem first
    have there := List.getElem?_eq_getElem middle
    have walked : db.heap.walk (size / 2) nodes[start] = some nodes[start + size / 2] :=
      (sorted.linked.walk here middle).trans there
    obtain ⟨dbd, found⟩ := Option.isSome_iff_exists.mp (sorted.stored _ (List.getElem_mem middle))
    have compared : db.compareAt kd nodes (start + size / 2) = keycmp kd dbd.kd := by
      rw [compareAt_eq there, key, found]
      rfl
    obtain ⟨links, linksThere, next⟩ := sorted.linked.next there
    rw [Simpledb.searchFrom, halvingSearch, here]
    simp only [Option.bind_eq_bind, Option.bind_some, walked, found, compared, linksThere, next]
    by_cases ended : keycmp kd dbd.kd = 0 ∨ size / 2 = 0
    · rw [if_pos ended, if_pos ended, Option.map_some, there]
    rw [if_neg ended, if_neg ended]
    obtain ⟨_, several⟩ := not_or.mp ended
    by_cases later : 0 < keycmp kd dbd.kd
    · rw [if_pos later, if_pos later]
      generalize remaining : (if size % 2 = 0 then size / 2 - 1 else size / 2) = left
      by_cases last : left = 0
      · rw [if_pos last, if_pos last, Option.map_some, there]
      · rw [if_neg last, if_neg last]
        apply ih (Nat.pos_of_ne_zero last)
        split at remaining <;> omega
    · rw [if_neg later, if_neg later, ← here]
      exact ih (Nat.pos_of_ne_zero several) (by omega)

/-- What `bin_search` returns for a list that is not empty. -/
theorem Sorted.binSearch (kd : List UInt8) (filled : nodes ≠ []) :
    ∃ res position, db.binSearch kd = some (res, nodes[position]?) ∧
      Located (db.compareAt kd nodes) nodes.length res position := by
  have positive : 0 < nodes.length := List.length_pos_iff.mpr filled
  obtain ⟨res, position, searched, located⟩ := halvingSearch_located
    (sorted.increasing_compareAt kd) positive (Nat.le_refl _) (Nat.le_of_eq (Nat.zero_add _))
    (fun _ impossible => absurd impossible (Nat.not_lt_zero _)) (fun other high below => by omega)
  refine ⟨res, position, ?_, located⟩
  have count : db.dblist.count ≠ 0 := by
    rw [sorted.linked.count]
    exact positive.ne'
  rw [Simpledb.binSearch, if_neg count, sorted.linked.count, sorted.linked.head,
    List.head?_eq_getElem?, sorted.searchFrom kd positive (Nat.le_of_eq (Nat.zero_add _)), searched]
  rfl

theorem Sorted.binSearch_found (member : node ∈ nodes)
    (same : db.key node = kd) : db.binSearch kd = some (0, some node) := by
  obtain ⟨res, position, searched, located⟩ := sorted.binSearch kd (List.ne_nil_of_mem member)
  obtain ⟨index, inside, rfl⟩ := List.getElem_of_mem member
  have equal : db.compareAt kd nodes index = 0 := by
    rw [compareAt_eq (List.getElem?_eq_getElem inside), same]
    exact keycmp_eq_zero.mpr rfl
  -- positions before and after the one that is found compare differently
  have atPosition : position = index := by
    rcases Nat.lt_trichotomy index position with before | at_ | after
    · have positive := located.before index before
      omega
    · exact at_.symm
    · have negative := located.after index after inside
      omega
  subst atPosition
  have zero : res = 0 := located.compared.symm.trans equal
  rw [searched, zero, List.getElem?_eq_getElem inside]

theorem Sorted.binSearch_split (kd : List UInt8) (filled : nodes ≠ []) :
    ∃ first place second, nodes = first ++ place :: second ∧
      db.binSearch kd = some (keycmp kd (db.key place), some place) ∧
      (∀ node ∈ first, keycmp (db.key node) kd < 0) ∧ ∀ node ∈ second, keycmp kd (db.key node) < 0 := by
  obtain ⟨res, position, searched, located⟩ := sorted.binSearch kd filled
  obtain ⟨place, here⟩ : ∃ place, nodes[position]? = some place :=
    ⟨_, List.getElem?_eq_getElem located.inside⟩
  have compared : keycmp kd (db.key place) = res := (compareAt_eq here).symm.trans located.compared
  have rest : nodes.drop position = place :: nodes.drop (position + 1) := by
    rw [List.drop_eq_getElem?_toList_append, here]
    rfl
  refine ⟨nodes.take position, place, nodes.drop (position + 1), ?_, ?_, ?_, ?_⟩
  · rw [← rest]
    exact (List.take_append_drop position nodes).symm
  · rw [searched, here, compared]
  · intro node member
    obtain ⟨index, low, rfl⟩ := List.mem_take_iff_getElem.mp member
    have positive := located.before index (by omega)
    rw [compareAt_eq (List.getElem?_eq_getElem (by omega))] at positive
    exact keycmp_swap.mp positive
  · intro node member
    obtain ⟨index, low, rfl⟩ := List.mem_drop_iff_getElem.mp member
    have negative := located.after (position + 1 + index) (by omega) (by omega)
    rwa [compareAt_eq (List.getElem?_eq_getElem (by omega))] at negative

structure Gap (db : Simpledb ν) (kd : List UInt8) (first second : List ν) : Prop where
  before : ∀ node ∈ first, keycmp (db.key node) kd < 0
  after : ∀ node ∈ second, keycmp kd (db.key node) < 0

theorem Sorted.binSearch_missing (absent : ∀ node ∈ nodes, db.key node ≠ kd) :
    ∃ res found, db.binSearch kd = some (res, found) ∧ res ≠ 0 ∧
      ((nodes = [] ∧ res < 0 ∧ found = none) ∨
        ∃ first place second, nodes = first ++ place :: second ∧ found = some place ∧
          (0 < res ∧ db.Gap kd (first ++ [place]) second ∨
            res < 0 ∧ db.Gap kd first (place :: second))) := by
  by_cases empty : nodes = []
  · refine ⟨-1, none, ?_, by decide, .inl ⟨empty, by decide, rfl⟩⟩
    rw [Simpledb.binSearch, sorted.linked.count, empty]
    rfl
  obtain ⟨first, place, second, split, searched, before, after⟩ := sorted.binSearch_split kd empty
  have different : keycmp kd (db.key place) ≠ 0 := by
    intro zero
    refine absent place ?_ (keycmp_eq_zero.mp zero).symm
    rw [split]
    exact List.mem_append_right first List.mem_cons_self
  refine ⟨_, some place, searched, different, .inr ⟨first, place, second, split, rfl, ?_⟩⟩
  rcases Int.lt_or_gt_of_ne different with negative | positive
  · right
    refine ⟨negative, before, ?_⟩
    intro node member
    rcases List.mem_cons.mp member with rfl | later
    · exact negative
    · exact after node later
  · left
    refine ⟨positive, ?_, after⟩
    intro node member
    rcases List.mem_append.mp member with earlier | last
    · exact before node earlier
    · rw [List.mem_singleton.mp last]
      exact keycmp_swap.mp positive

end Simpledb

end EnetTsn.Uniconf
