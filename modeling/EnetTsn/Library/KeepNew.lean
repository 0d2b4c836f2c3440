import Mathlib.Data.List.Induction
import Mathlib.Data.List.Nodup

/-!
Elements that are kept one by one unless a test tells that they are there already. What is kept is
each element once exactly if the test is right about every element when it is asked.
-/

namespace EnetTsn.Library

variable {α : Type}

/-- Keep each element that a test does not tell from those kept. -/
def keepNew (told : List α → α → Bool) : List α → List α → List α
  | kept, [] => kept
  | kept, element :: rest =>
    keepNew told (if told kept element then kept else kept ++ [element]) rest

/-- The first occurrence of each element. -/
def firsts [DecidableEq α] (elements : List α) : List α :=
  keepNew (fun kept element => element ∈ kept) [] elements

section Keeping

variable {told : List α → α → Bool} {kept elements rest : List α} {element : α}

theorem keepNew_append (told : List α → α → Bool) (kept elements rest : List α) :
    keepNew told kept (elements ++ rest) = keepNew told (keepNew told kept elements) rest := by
  induction elements generalizing kept with
  | nil => rfl
  | cons element elements ih => exact ih _

theorem prefix_keepNew (told : List α → α → Bool) (kept elements : List α) :
    kept <+: keepNew told kept elements := by
  induction elements generalizing kept with
  | nil => exact List.prefix_rfl
  | cons element elements ih =>
    refine List.IsPrefix.trans ?_ (ih _)
    split
    · exact List.prefix_rfl
    · exact List.prefix_append _ _

theorem mem_keepNew (member : element ∈ keepNew told kept elements) :
    element ∈ kept ∨ element ∈ elements := by
  induction elements generalizing kept with
  | nil => exact .inl member
  | cons first elements ih =>
    rcases ih member with inside | later
    · split at inside
      · exact .inl inside
      · rcases List.mem_append.mp inside with inside | here
        · exact .inl inside
        · exact .inr (List.mem_cons.mpr (.inl (List.mem_singleton.mp here)))
    · exact .inr (List.mem_cons_of_mem _ later)

theorem not_mem_keepNew (stays : ∀ later, told (kept ++ later) element) (absent : element ∉ kept) :
    element ∉ keepNew told kept elements := by
  induction elements generalizing kept with
  | nil => exact absent
  | cons first elements ih =>
    rw [keepNew]
    split
    · exact ih stays absent
    · rename_i new
      refine ih (fun later => ?_) ?_
      · rw [List.append_assoc]
        exact stays _
      · rw [List.mem_append, List.mem_singleton, not_or]
        refine ⟨absent, ?_⟩
        rintro rfl
        have now := stays []
        rw [List.append_nil] at now
        exact new now

variable [DecidableEq α]

theorem mem_firsts : element ∈ firsts elements ↔ element ∈ elements := by
  constructor
  · intro member
    exact (mem_keepNew member).resolve_left List.not_mem_nil
  · intro member
    obtain ⟨before, after, rfl⟩ := List.append_of_mem member
    rw [firsts, keepNew_append, keepNew]
    refine (prefix_keepNew _ _ after).subset ?_
    split
    · rename_i inside
      exact of_decide_eq_true inside
    · exact List.mem_append_right _ (List.mem_singleton.mpr rfl)

theorem nodup_keepNew_mem (distinct : kept.Nodup) :
    (keepNew (fun kept element => element ∈ kept) kept elements).Nodup := by
  induction elements generalizing kept with
  | nil => exact distinct
  | cons element elements ih =>
    refine ih ?_
    split
    · exact distinct
    · rename_i new
      refine List.nodup_append.mpr ⟨distinct, List.nodup_singleton _, ?_⟩
      rintro other member _ same rfl
      rw [List.mem_singleton.mp same] at member
      exact new (decide_eq_true member)

theorem nodup_firsts (elements : List α) : (firsts elements).Nodup :=
  nodup_keepNew_mem List.nodup_nil

/-- The test tells each element rightly from the ones before it. -/
def AllTold (told : List α → α → Bool) (elements : List α) : Prop :=
  ∀ before element after, elements = before ++ element :: after →
    (told (firsts before) element ↔ element ∈ before)

theorem allTold_concat : AllTold told (elements ++ [element]) ↔
    AllTold told elements ∧ (told (firsts elements) element ↔ element ∈ elements) := by
  constructor
  · intro all
    refine ⟨?_, all elements element [] rfl⟩
    rintro before other after rfl
    exact all before other (after ++ [element]) (by simp)
  · rintro ⟨all, here⟩ before other after same
    rcases List.eq_nil_or_concat after with rfl | ⟨after, last, rfl⟩
    · obtain ⟨rfl, last⟩ := List.append_inj' same rfl
      obtain rfl := List.singleton_inj.mp last
      exact here
    · rw [List.concat_eq_append, ← List.cons_append, ← List.append_assoc] at same
      exact all before other after (List.append_inj_left' same rfl)

theorem AllTold.keepNew_eq (all : AllTold told elements) :
    keepNew told [] elements = firsts elements := by
  induction elements using List.reverseRecOn with
  | nil => rfl
  | append_singleton elements element ih =>
    obtain ⟨before, here⟩ := allTold_concat.mp all
    have last : firsts (elements ++ [element]) =
        keepNew (fun kept element => element ∈ kept) (firsts elements) [element] :=
      keepNew_append _ _ _ _
    rw [keepNew_append, ih before, last]
    simp only [keepNew, decide_eq_true_eq, mem_firsts, here]

theorem told_of_right (all : AllTold told elements)
    (stays : ∀ kept later, told kept element → told (kept ++ later) element)
    (distinct : (keepNew told [] (elements ++ element :: rest)).Nodup)
    (whole : element ∈ keepNew told [] (elements ++ element :: rest)) :
    told (firsts elements) element ↔ element ∈ elements := by
  rw [keepNew_append, all.keepNew_eq, keepNew] at distinct whole
  constructor
  · intro told
    rw [if_pos told] at whole
    by_contra absent
    exact not_mem_keepNew (fun later => stays _ later told) (mt mem_firsts.mp absent) whole
  · intro member
    by_contra new
    rw [if_neg new] at distinct
    have twice := distinct.sublist (prefix_keepNew _ _ _).sublist
    exact (List.nodup_append.mp twice).2.2 element (mem_firsts.mpr member) element
      List.mem_cons_self rfl

theorem keepNew_iff (stays : ∀ kept later, ∀ element ∈ elements, told kept element →
    told (kept ++ later) element) :
    ((keepNew told [] elements).Nodup ∧ ∀ element, element ∈ keepNew told [] elements ↔
      element ∈ elements) ↔ AllTold told elements := by
  constructor
  · rintro ⟨distinct, whole⟩
    have all (before after : List α) (split : elements = before ++ after) :
        AllTold told before := by
      induction before using List.reverseRecOn generalizing after with
      | nil => exact fun _ _ _ same => absurd same (by simp)
      | append_singleton before element ih =>
        have same : elements = before ++ element :: after := by
          rw [split, List.append_assoc]
          rfl
        have member : element ∈ elements := by
          rw [same]
          exact List.mem_append_right _ List.mem_cons_self
        refine allTold_concat.mpr ⟨ih _ same, ?_⟩
        rw [same] at distinct
        have kept := (whole element).mpr member
        rw [same] at kept
        exact told_of_right (ih _ same) (fun kept later => stays kept later element member)
          distinct kept
    exact all elements [] (List.append_nil _).symm
  · intro all
    rw [all.keepNew_eq]
    exact ⟨nodup_firsts _, fun _ => mem_firsts⟩

end Keeping

end EnetTsn.Library
