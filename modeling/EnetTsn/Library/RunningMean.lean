import Mathlib.Algebra.Order.Ring.Int
import Mathlib.Data.List.Induction
import Mathlib.Tactic.Linarith
import Mathlib.Tactic.LinearCombination
import Mathlib.Tactic.Ring

namespace EnetTsn.Library

/-- The recurrences `M + (x - M) / k` and `V + (x - M) * (x - M')` over the integers, the quotient
being truncated. -/
structure RunningStat where
  count : ℕ
  mean : ℤ
  variance : ℤ
  deriving Repr, DecidableEq

namespace RunningStat

def start : RunningStat := { count := 0, mean := 0, variance := 0 }

def add (stat : RunningStat) (value : ℤ) : RunningStat :=
  let mean := stat.mean + (value - stat.mean).tdiv (stat.count + 1)
  { count := stat.count + 1
    mean := mean
    variance := stat.variance + (value - stat.mean) * (value - mean) }

def ofList (values : List ℤ) : RunningStat := values.foldl add start

theorem ofList_concat (values : List ℤ) (value : ℤ) :
    ofList (values ++ [value]) = (ofList values).add value :=
  List.foldl_append

@[simp] theorem count_ofList (values : List ℤ) : (ofList values).count = values.length := by
  induction values using List.reverseRecOn with
  | nil => rfl
  | append_singleton earlier value ih =>
    rw [ofList_concat, List.length_append, List.length_singleton, ← ih]
    rfl

theorem add_start (value : ℤ) :
    start.add value = { count := 1, mean := value, variance := 0 } := by
  simp [start, add]

theorem mean_add_towards (stat : RunningStat) (value : ℤ) :
    stat.mean ≤ (stat.add value).mean ∧ (stat.add value).mean ≤ value ∨
      value ≤ (stat.add value).mean ∧ (stat.add value).mean ≤ stat.mean := by
  have moved : (stat.add value).mean = stat.mean + (value - stat.mean).tdiv (stat.count + 1) := rfl
  rcases le_total stat.mean value with above | below
  · have forward : 0 ≤ value - stat.mean := sub_nonneg.mpr above
    have least := Int.tdiv_nonneg forward (by omega : (0 : ℤ) ≤ stat.count + 1)
    have most := Int.tdiv_le_self (stat.count + 1 : ℤ) forward
    exact .inl ⟨by omega, by omega⟩
  · have backward : 0 ≤ stat.mean - value := sub_nonneg.mpr below
    have least := Int.tdiv_nonneg backward (by omega : (0 : ℤ) ≤ stat.count + 1)
    have most := Int.tdiv_le_self (stat.count + 1 : ℤ) backward
    have mirrored : (value - stat.mean).tdiv (stat.count + 1) =
        -(stat.mean - value).tdiv (stat.count + 1) := by
      rw [← Int.neg_tdiv, neg_sub]
    exact .inr ⟨by omega, by omega⟩

theorem mean_bounded (low high : ℤ) (nonempty : values ≠ [])
    (bounded : ∀ value ∈ values, low ≤ value ∧ value ≤ high) :
    low ≤ (ofList values).mean ∧ (ofList values).mean ≤ high := by
  induction values using List.reverseRecOn with
  | nil => exact absurd rfl nonempty
  | append_singleton earlier value ih =>
    have last := bounded value (by simp)
    rw [ofList_concat]
    by_cases first : earlier = []
    · subst first
      rw [show ofList [] = start from rfl, add_start]
      exact last
    · have before := ih first fun other member => bounded other (by simp [member])
      rcases mean_add_towards (ofList earlier) value with ⟨least, most⟩ | ⟨least, most⟩
      · exact ⟨before.1.trans least, most.trans last.2⟩
      · exact ⟨last.1.trans least, most.trans before.2⟩

theorem variance_le_add (stat : RunningStat) (value : ℤ) :
    stat.variance ≤ (stat.add value).variance := by
  have added : (stat.add value).variance =
      stat.variance + (value - stat.mean) * (value - (stat.add value).mean) := rfl
  rcases mean_add_towards stat value with ⟨least, most⟩ | ⟨least, most⟩
  · have product := mul_nonneg (sub_nonneg.mpr (least.trans most)) (sub_nonneg.mpr most)
    omega
  · have product := mul_nonneg_of_nonpos_of_nonpos
      (sub_nonpos.mpr (least.trans most)) (sub_nonpos.mpr least)
    omega

theorem variance_nonneg (values : List ℤ) : 0 ≤ (ofList values).variance := by
  induction values using List.reverseRecOn with
  | nil => exact le_rfl
  | append_singleton earlier value ih =>
    rw [ofList_concat]
    exact ih.trans (variance_le_add _ value)

/-- Each of the divisions after the first drops less than its divisor, and what they drop adds
up: the mean times the number of values is off their sum by at most half of `n * (n - 1)`. -/
theorem mean_drift (values : List ℤ) : 2 * |values.length * (ofList values).mean - values.sum| ≤
      values.length * (values.length - 1) := by
  induction values using List.reverseRecOn with
  | nil => simp
  | append_singleton earlier value ih =>
    let stat := ofList earlier
    let dropped := (value - stat.mean).tmod (earlier.length + 1)
    have below : |dropped| ≤ earlier.length := by
      have less := Int.natAbs_tmod (value - stat.mean) (earlier.length + 1)
      have positive : 0 < (earlier.length + 1 : ℤ).natAbs := by omega
      have remainder := Nat.mod_lt (value - stat.mean).natAbs positive
      rw [Int.abs_eq_natAbs]
      omega
    have split : (earlier.length + 1 : ℤ) * (stat.add value).mean - (earlier.sum + value) =
        (earlier.length * stat.mean - earlier.sum) - dropped := by
      have divided := Int.mul_tdiv_add_tmod (value - stat.mean) (earlier.length + 1)
      have moved : (stat.add value).mean =
          stat.mean + (value - stat.mean).tdiv (earlier.length + 1) := by
        simp only [add, stat, count_ofList]
      rw [moved]
      linear_combination divided
    rw [ofList_concat, List.sum_append, List.sum_singleton, List.length_append,
      List.length_singleton]
    push_cast
    rw [split]
    have step := abs_sub (earlier.length * stat.mean - earlier.sum) dropped
    linarith

end RunningStat

end EnetTsn.Library
