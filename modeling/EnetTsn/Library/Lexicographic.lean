import Mathlib.Data.List.Lex
import Mathlib.Order.Lattice

/-!
Lexicographic comparison of sequences of equal length, and the selection of the
best candidate by a scan that only moves to strictly better ones.
-/

namespace EnetTsn.Library

theorem append_lt_append_iff [LinearOrder α] (as' bs' : List α)
    (sameLength : as.length = bs.length) :
    as ++ as' < bs ++ bs' ↔ as < bs ∨ as = bs ∧ as' < bs' := by
  induction as generalizing bs with
  | nil =>
    have empty : bs = [] := List.length_eq_zero_iff.mp sameLength.symm
    subst empty
    simp
  | cons a as ih =>
    cases bs with
    | nil => simp at sameLength
    | cons b bs =>
      simp only [List.cons_append, List.cons_lt_cons_iff, List.cons.injEq,
        ih (by simpa using sameLength)]
      tauto

theorem not_lt_of_forall₂_ge [LinearOrder α] {as bs : List α}
    (above : List.Forall₂ (fun a b => b ≤ a) as bs) : ¬ as < bs := by
  induction above with
  | nil => simp
  | cons head _ ih =>
    rw [List.cons_lt_cons_iff]
    rintro (below | ⟨_, rest⟩)
    · exact below.not_ge head
    · exact ih rest

/-- The best candidate of a scan, the first one of equals. -/
def scanBest (beats : α → α → Bool) (start : α) (candidates : List α) : α :=
  candidates.foldl (fun best candidate => if beats candidate best then candidate else best) start

section Scan

variable [LinearOrder κ] {key : α → κ} {beats : α → α → Bool}

variable (agrees : ∀ a b, beats a b = true ↔ key a < key b)
include agrees

theorem scanBest_cases (start : α) (candidates : List α) : scanBest beats start candidates = start ∨
      scanBest beats start candidates ∈ candidates ∧
        key (scanBest beats start candidates) < key start := by
  induction candidates generalizing start with
  | nil => exact Or.inl rfl
  | cons candidate rest ih =>
    by_cases better : beats candidate start = true
    · have moved : scanBest beats start (candidate :: rest) = scanBest beats candidate rest := by
        simp [scanBest, better]
      have lower := (agrees candidate start).mp better
      rw [moved]
      right
      rcases ih candidate with stayed | ⟨member, lowest⟩
      · rw [stayed]
        exact ⟨List.mem_cons_self, lower⟩
      · exact ⟨List.mem_cons_of_mem _ member, lowest.trans lower⟩
    · have stayed : scanBest beats start (candidate :: rest) = scanBest beats start rest := by
        simp [scanBest, better]
      rw [stayed]
      rcases ih start with same | ⟨member, lowest⟩
      · exact Or.inl same
      · exact Or.inr ⟨List.mem_cons_of_mem _ member, lowest⟩

theorem scanBest_le_start (start : α) (candidates : List α) :
    key (scanBest beats start candidates) ≤ key start := by
  rcases scanBest_cases agrees start candidates with same | ⟨_, lower⟩
  · rw [same]
  · exact lower.le

theorem scanBest_le_candidate (start : α) (candidates : List α) (member : candidate ∈ candidates) :
    key (scanBest beats start candidates) ≤ key candidate := by
  induction candidates generalizing start with
  | nil => cases member
  | cons first rest ih =>
    have next : scanBest beats start (first :: rest) =
        scanBest beats (if beats first start then first else start) rest := rfl
    rcases List.mem_cons.mp member with rfl | later
    · refine (scanBest_le_start agrees _ rest).trans ?_
      by_cases better : beats candidate start = true
      · simp [better]
      · have notLower := mt (agrees candidate start).mpr better
        simpa [better] using not_lt.mp notLower
    · exact ih _ later

end Scan

end EnetTsn.Library
