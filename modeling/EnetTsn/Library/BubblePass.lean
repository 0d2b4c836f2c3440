import Mathlib.Algebra.Ring.Nat

/-!
Sorting by passes over a list that exchange neighbours in the wrong order, until a pass
exchanges none.
-/

namespace EnetTsn.Library

/-- One pass of a bubble sort, and whether it exchanged anything. -/
def bubbleFrom (le : α → α → Bool) (carried : α) : List α → List α × Bool
  | [] => ([carried], false)
  | next :: rest =>
    if le carried next then
      (carried :: (bubbleFrom le next rest).1, (bubbleFrom le next rest).2)
    else (next :: (bubbleFrom le carried rest).1, true)

structure TotalPreorder (le : α → α → Bool) : Prop where
  trans : ∀ a b c, le a b = true → le b c = true → le a c = true
  total : ∀ a b, le a b = true ∨ le b a = true

def equivalent (le : α → α → Bool) (a b : α) : Bool := le a b && le b a

structure StableSort (le : α → α → Bool) (sorted original : List α) : Prop where
  increasing : sorted.Pairwise fun a b => le a b = true
  perm : sorted.Perm original
  stable : ∀ a, sorted.filter (equivalent le a) = original.filter (equivalent le a)

/-- The number of pairs that stand in the wrong order. -/
def misplaced (le : α → α → Bool) : List α → Nat
  | [] => 0
  | first :: rest => rest.countP (fun other => !le first other) + misplaced le rest

variable {le : α → α → Bool} {carried : α} {rest : List α}

theorem bubbleFrom_perm : (bubbleFrom le carried rest).1.Perm (carried :: rest) := by
  induction rest generalizing carried with
  | nil => exact List.Perm.refl _
  | cons next rest ih =>
    rw [bubbleFrom]
    split
    · exact ih.cons carried
    · exact (ih.cons next).trans (List.Perm.swap carried next rest)

variable (order : TotalPreorder le)
include order

theorem bubbleFrom_stable (a : α) : (bubbleFrom le carried rest).1.filter (equivalent le a) =
      (carried :: rest).filter (equivalent le a) := by
  induction rest generalizing carried with
  | nil => rfl
  | cons next rest ih =>
    rw [bubbleFrom]
    split
    · rw [List.filter_cons, ih, ← List.filter_cons]
    · rename_i wrong
      have apart : ¬ (equivalent le a carried = true ∧ equivalent le a next = true) := by
        intro both
        simp only [equivalent, Bool.and_eq_true] at both
        exact wrong (order.trans _ a _ both.1.2 both.2.1)
      simp only [List.filter_cons, ih]
      by_cases first : equivalent le a carried = true
      · have second : ¬ equivalent le a next = true := fun second => apart ⟨first, second⟩
        simp only [if_pos first, if_neg second]
      · simp only [if_neg first]

theorem bubbleFrom_misplaced : misplaced le (bubbleFrom le carried rest).1 +
      (if (bubbleFrom le carried rest).2 then 1 else 0) ≤ misplaced le (carried :: rest) := by
  induction rest generalizing carried with
  | nil => exact Nat.le_refl _
  | cons next rest ih =>
    rw [bubbleFrom]
    split
    · have later := @ih next
      simp only [misplaced, bubbleFrom_perm.countP_eq] at later ⊢
      omega
    · rename_i wrong
      have later := @ih carried
      have back : le next carried = true := (order.total carried next).resolve_left wrong
      simp only [misplaced, bubbleFrom_perm.countP_eq, List.countP_cons, wrong, back] at later ⊢
      simp only [Bool.not_true, Bool.not_false, Bool.false_eq_true, if_false, if_true]
      split at later <;> omega

theorem bubbleFrom_still (still : (bubbleFrom le carried rest).2 = false) :
    (bubbleFrom le carried rest).1 = carried :: rest ∧
      (carried :: rest).Pairwise fun a b => le a b = true := by
  induction rest generalizing carried with
  | nil => exact ⟨rfl, List.pairwise_singleton _ _⟩
  | cons next rest ih =>
    rw [bubbleFrom] at still ⊢
    split at still
    · rename_i right
      obtain ⟨same, increasing⟩ := ih still
      rw [if_pos right, same]
      refine ⟨rfl, List.pairwise_cons.mpr ⟨fun other member => ?_, increasing⟩⟩
      rcases List.mem_cons.mp member with rfl | later
      · exact right
      · exact order.trans _ next _ right ((List.pairwise_cons.mp increasing).1 other later)
    · cases still

end EnetTsn.Library
