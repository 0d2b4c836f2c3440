import Mathlib.Data.List.Infix
import EnetTsn.Library.Numeral

/-!
The search for a word in a text, and strings that end with a zero within a memory of octets.
-/

namespace EnetTsn.Library

/-- Where a word first stands in a text. -/
def firstAt [DecidableEq α] (word : List α) : List α → Option Nat
  | [] => if word = [] then some 0 else none
  | element :: rest =>
    if word <+: element :: rest then some 0 else (firstAt word rest).map (· + 1)

def cstring (octets : List UInt8) : List UInt8 := octets.takeWhile (· ≠ 0)

/-- `strstr` from an address on, and `strchr` for a word of one octet: the address of the word,
if there is one. There is no result when no zero ends the string within the memory. -/
def strstr (mem : List UInt8) (address : Nat) (word : List UInt8) : Option (Option Nat) :=
  if 0 ∈ mem.drop address then
    some ((firstAt word (cstring (mem.drop address))).map (address + ·))
  else none

/-- `memmove` within a memory; there is no result when it does not stay within. -/
def memmove (mem : List UInt8) (dest src count : Nat) : Option (List UInt8) :=
  if dest + count ≤ mem.length ∧ src + count ≤ mem.length then
    some (mem.take dest ++ (mem.drop src).take count ++ mem.drop (dest + count))
  else none

/-- `memset` with zeros. -/
def clear (mem : List UInt8) (address count : Nat) : Option (List UInt8) :=
  if address + count ≤ mem.length then
    some (mem.take address ++ List.replicate count 0 ++ mem.drop (address + count))
  else none

section Infix

variable {α : Type} {word front rest : List α}

theorem infix_append_of_head (outside : first ∉ front) :
    first :: word <:+: front ++ rest ↔ first :: word <:+: rest := by
  induction front with
  | nil => rfl
  | cons element front ih =>
    obtain ⟨different, others⟩ := not_or.mp (mt List.mem_cons.mpr outside)
    rw [List.cons_append, List.infix_cons_iff, ih others, List.cons_prefix_cons,
      or_iff_right fun start => different start.1]

theorem infix_append_cons_iff (outside : element ∉ word) :
    word <:+: front ++ element :: rest ↔ word <:+: front ∨ word <:+: rest := by
  constructor
  · rintro ⟨before, after, same⟩
    rcases List.append_eq_append_iff.mp same with ⟨middle, left, right⟩ | ⟨middle, left, right⟩
    · exact .inl ⟨before, middle, left.symm⟩
    · cases middle with
      | nil => exact .inl ⟨before, [], by rw [List.append_nil, left, List.append_nil]⟩
      | cons other middle =>
        obtain ⟨rfl, tail⟩ := List.cons.inj right
        rcases List.append_eq_append_iff.mp left with
          ⟨between, first, second⟩ | ⟨between, first, second⟩
        · refine absurd ?_ outside
          rw [second]
          exact List.mem_append_right _ List.mem_cons_self
        · cases between with
          | nil =>
            refine absurd ?_ outside
            rw [List.nil_append] at second
            rw [← second]
            exact List.mem_cons_self
          | cons here between =>
            obtain ⟨-, inner⟩ := List.cons.inj second
            refine .inr ⟨between, after, ?_⟩
            rw [tail, inner]
            rfl
  · rintro (inside | inside)
    · exact inside.trans (List.prefix_append _ _).isInfix
    · exact (inside.trans (List.suffix_cons _ _).isInfix).trans (List.suffix_append _ _).isInfix

end Infix

section Search

variable {α : Type} [DecidableEq α] {word text front rest : List α} {place : Nat}

theorem firstAt_eq_none : firstAt word text = none ↔ ¬ word <:+: text := by
  induction text with
  | nil =>
    rw [firstAt, List.infix_nil]
    split <;> simp_all
  | cons element rest ih =>
    rw [firstAt, List.infix_cons_iff, not_or]
    split
    · rename_i start
      simp [start]
    · rename_i start
      rw [Option.map_eq_none_iff, ih, and_iff_right start]

theorem firstAt_eq_some (found : firstAt word text = some place) :
    ∃ rest, text = text.take place ++ word ++ rest ∧ place + word.length ≤ text.length ∧
      ∀ before < place, ¬ word <+: text.drop before := by
  induction text generalizing place with
  | nil =>
    obtain ⟨rfl, same⟩ := Option.ite_none_right_eq_some.mp found
    cases same
    exact ⟨[], by simp, by simp, nofun⟩
  | cons element rest ih =>
    rw [firstAt] at found
    split at found
    · rename_i start
      cases found
      obtain ⟨after, same⟩ := start
      refine ⟨after, by simpa using same.symm, ?_, nofun⟩
      rw [← same, List.length_append]
      omega
    · rename_i start
      obtain ⟨later, here, rfl⟩ := Option.map_eq_some_iff.mp found
      obtain ⟨after, same, fits, first⟩ := ih here
      refine ⟨after, ?_, ?_, ?_⟩
      · rw [List.take_succ_cons, List.cons_append, List.cons_append, ← same]
      · rw [List.length_cons]
        omega
      · intro before less
        cases before with
        | zero => exact start
        | succ before => exact first before (Nat.lt_of_succ_lt_succ less)

theorem firstAt_append (filled : word ≠ []) (absent : ¬ word <:+: front ++ word.dropLast)
    (rest : List α) : firstAt word (front ++ word ++ rest) = some front.length := by
  induction front with
  | nil =>
    cases word with
    | nil => exact absurd rfl filled
    | cons first word =>
      rw [List.nil_append, List.cons_append, firstAt, ← List.cons_append,
        if_pos (List.prefix_append _ _)]
      rfl
  | cons element front ih =>
    rw [List.cons_append, List.infix_cons_iff, not_or] at absent
    have start : ¬ word <+: element :: (front ++ word ++ rest) := by
      intro start
      apply absent.1
      have whole : element :: (front ++ word ++ rest) =
          (element :: (front ++ word.dropLast)) ++ ([word.getLast filled] ++ rest) := by
        nth_rewrite 1 [← List.dropLast_append_getLast filled]
        simp only [List.cons_append, List.append_assoc, List.nil_append]
      rw [whole] at start
      apply List.prefix_of_prefix_length_le start (List.prefix_append _ _)
      rw [List.length_cons, List.length_append, List.length_dropLast]
      have := List.length_pos_of_ne_nil filled
      omega
    rw [List.cons_append, List.cons_append, firstAt, if_neg start, ih absent.2]
    rfl

theorem firstAt_append_iff (filled : word ≠ []) (rest : List α) :
    firstAt word (front ++ word ++ rest) = some front.length ↔
      ¬ word <:+: front ++ word.dropLast := by
  constructor
  · rintro found ⟨before, after, same⟩
    obtain ⟨_, _, _, first⟩ := firstAt_eq_some found
    have positive := List.length_pos_of_ne_nil filled
    have size := congrArg List.length same
    simp only [List.length_append, List.length_dropLast] at size
    refine first before.length (by omega) ?_
    have whole : front ++ word ++ rest =
        before ++ (word ++ (after ++ ([word.getLast filled] ++ rest))) := by
      nth_rewrite 1 [← List.dropLast_append_getLast filled]
      rw [← List.append_assoc front, ← same]
      simp only [List.append_assoc]
    rw [whole, List.drop_left]
    exact List.prefix_append _ _
  · exact fun absent => firstAt_append filled absent rest

theorem firstAt_append_of_some (found : firstAt word text = some place) (rest : List α) :
    firstAt word (text ++ rest) = some place := by
  induction text generalizing place with
  | nil =>
    obtain ⟨rfl, _⟩ := Option.ite_none_right_eq_some.mp found
    cases found
    cases rest with
    | nil => rfl
    | cons element rest => exact if_pos (List.nil_prefix)
  | cons element text ih =>
    rw [firstAt] at found
    rw [List.cons_append, firstAt]
    split at found
    · rename_i start
      have longer := start.trans (List.prefix_append (element :: text) rest)
      rw [List.cons_append] at longer
      rw [if_pos longer, found]
    · rename_i start
      obtain ⟨later, here, rfl⟩ := Option.map_eq_some_iff.mp found
      obtain ⟨_, _, fits, _⟩ := firstAt_eq_some here
      have outside : ¬ word <+: element :: (text ++ rest) := by
        intro longer
        refine start (List.prefix_of_prefix_length_le longer
          (List.prefix_append (element :: text) rest) ?_)
        rw [List.length_cons]
        omega
      rw [if_neg outside, ih here]
      rfl

theorem firstAt_skip (outside : first ∉ front) (rest : List α) :
    firstAt (first :: word) (front ++ rest) =
      (firstAt (first :: word) rest).map (front.length + ·) := by
  induction front with
  | nil => simp
  | cons element front ih =>
    obtain ⟨different, others⟩ := not_or.mp (mt List.mem_cons.mpr outside)
    have start : ¬ first :: word <+: element :: (front ++ rest) := fun start =>
      different (List.cons_prefix_cons.mp start).1
    rw [List.cons_append, firstAt, if_neg start, ih others, Option.map_map]
    congr 1
    funext place
    simp only [Function.comp, List.length_cons]
    omega

theorem firstAt_singleton (absent : element ∉ front) (rest : List α) :
    firstAt [element] (front ++ element :: rest) = some front.length := by
  have none : ¬ [element] <:+: front ++ [element].dropLast := by
    rw [List.dropLast_singleton, List.append_nil, List.singleton_infix_iff]
    exact absent
  have single := firstAt_append (List.cons_ne_nil _ _) none rest
  rwa [List.append_assoc] at single

end Search

end EnetTsn.Library
