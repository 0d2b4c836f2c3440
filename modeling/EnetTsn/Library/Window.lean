import Mathlib.Data.List.Basic

/-!
Windows of an ordered list: what is not too low and not too high stands together.
-/

namespace EnetTsn.Library

/-- What passes the test stands in front of what does not. -/
def Downward (test : α → Bool) (list : List α) : Prop :=
  list.Pairwise fun first second => test second = true → test first = true

def window (low high : α → Bool) (list : List α) : List α :=
  list.filter fun element => !low element && !high element

variable {α : Type} {low high test : α → Bool} {list : List α}

theorem filter_window_low : window low high list =
    (list.filter fun element => !low element).filter fun element => !high element := by
  rw [window, List.filter_filter]
  exact List.filter_congr fun _ _ => Bool.and_comm _ _

theorem filter_window_high : window low high list =
    (list.filter fun element => !high element).filter fun element => !low element := by
  rw [window, List.filter_filter]

theorem Downward.filter_append (down : Downward test list) :
    ∃ rest, list = list.filter test ++ rest ∧ ∀ element ∈ rest, test element = false := by
  induction list with
  | nil => exact ⟨[], rfl, nofun⟩
  | cons head tail ih =>
    obtain ⟨first, later⟩ := List.pairwise_cons.mp down
    by_cases passes : test head = true
    · obtain ⟨rest, split, fails⟩ := ih later
      rw [List.filter_cons_of_pos passes]
      exact ⟨rest, congrArg (head :: ·) split, fails⟩
    · have none : ∀ element ∈ head :: tail, ¬ test element = true := by
        intro element member
        rcases List.mem_cons.mp member with rfl | inTail
        · exact passes
        · exact fun higher => passes (first element inTail higher)
      refine ⟨head :: tail, ?_, fun element member => Bool.not_eq_true _ |>.mp (none element member)⟩
      rw [List.filter_eq_nil_iff.mpr none]
      rfl

theorem window_infix (downLow : Downward low list)
    (downHigh : Downward (fun element => !high element) list) :
    ∃ first last, list = first ++ window low high list ++ last := by
  induction list with
  | nil => exact ⟨[], [], rfl⟩
  | cons head tail ih =>
    obtain ⟨firstLow, laterLow⟩ := List.pairwise_cons.mp downLow
    obtain ⟨_, laterHigh⟩ := List.pairwise_cons.mp downHigh
    by_cases lower : low head = true
    · obtain ⟨first, last, split⟩ := ih laterLow laterHigh
      have skipped : window low high (head :: tail) = window low high tail :=
        List.filter_cons_of_neg (by simp [lower])
      rw [skipped]
      exact ⟨head :: first, last, congrArg (head :: ·) split⟩
    · have all : ∀ element ∈ head :: tail, (!low element) = true := by
        intro element member
        rw [Bool.not_eq_true']
        rcases List.mem_cons.mp member with rfl | inTail
        · exact Bool.not_eq_true _ |>.mp lower
        · exact Bool.not_eq_true _ |>.mp fun lowElement => lower (firstLow element inTail lowElement)
      obtain ⟨rest, split, _⟩ := downHigh.filter_append
      rw [filter_window_low, List.filter_eq_self.mpr all]
      exact ⟨[], rest, split⟩

theorem window_head (downHigh : Downward (fun element => !high element) list)
    (filled : window low high list ≠ []) :
    (window low high list).head? = (list.filter fun element => !low element).head? := by
  have down : Downward (fun element => !high element) (list.filter fun element => !low element) :=
    List.Pairwise.filter _ downHigh
  obtain ⟨rest, split, _⟩ := down.filter_append
  rw [filter_window_low] at filled ⊢
  generalize (list.filter fun element => !low element) = upper at filled split ⊢
  cases found : upper.filter fun element => !high element with
  | nil => exact absurd found filled
  | cons head tail =>
    rw [found] at split
    rw [split]
    rfl

theorem window_last (downLow : Downward low list) (filled : window low high list ≠ []) :
    (window low high list).getLast? = (list.filter fun element => !high element).getLast? := by
  have down : Downward low (list.filter fun element => !high element) :=
    List.Pairwise.filter _ downLow
  rw [filter_window_high] at filled ⊢
  generalize (list.filter fun element => !high element) = lower at filled down ⊢
  rcases List.eq_nil_or_concat' lower with rfl | ⟨start, last, rfl⟩
  · exact absurd rfl filled
  · have above : (!low last) = true := by
      rw [Bool.not_eq_true']
      by_contra lowLast
      apply filled
      refine List.filter_eq_nil_iff.mpr ?_
      intro element member
      have lowElement : low element = true := by
        rcases List.mem_append.mp member with inStart | isLast
        · exact (List.pairwise_append.mp down).2.2 element inStart last List.mem_cons_self
            (Bool.not_eq_false _ |>.mp lowLast)
        · rw [List.mem_singleton.mp isLast]
          exact Bool.not_eq_false _ |>.mp lowLast
      simp [lowElement]
    have kept : [last].filter (fun element => !low element) = [last] :=
      List.filter_cons_of_pos above
    rw [List.filter_append, kept, List.getLast?_concat, List.getLast?_concat]

end EnetTsn.Library
