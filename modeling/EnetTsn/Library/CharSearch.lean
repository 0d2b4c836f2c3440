import Mathlib.Algebra.Ring.Nat
import Mathlib.Data.List.Basic
import Mathlib.Data.List.TakeWhile

/-!
The string class and the string streams of C++: the search for a character from a place on or
back from one, the change of a part, and the lines that a stream is read in.
-/

namespace EnetTsn.Library

section Search

variable {α : Type} [DecidableEq α]

/-- `std::string::find` of a character. -/
def findMark (text : List α) (mark : α) (place : Nat) : Option Nat :=
  ((text.drop place).findIdx? (· = mark)).map (place + ·)

/-- `std::string::rfind` of a character. -/
def rfindMark (text : List α) (mark : α) (place : Nat) : Option Nat :=
  ((text.take (place + 1)).reverse.findIdx? (· = mark)).map
    (fun back => (text.take (place + 1)).length - 1 - back)

/-- `std::string::substr`. -/
def substr (text : List α) (place count : Nat) : List α := (text.drop place).take count

/-- `std::string::replace`, and `insert` where nothing is replaced. -/
def replaceAt (text : List α) (place count : Nat) (part : List α) : List α :=
  text.take place ++ part ++ text.drop (place + count)

/-- The lines that `std::getline` gives until the stream has ended. -/
def getlines (delimiter : α) : List α → List (List α)
  | [] => []
  | first :: rest =>
    if first = delimiter then [] :: getlines delimiter rest
    else match getlines delimiter rest with
      | [] => [[first]]
      | line :: lines => (first :: line) :: lines

variable {text front segment rest line : List α} {mark delimiter : α} {place found : Nat}

theorem takeWhile_absent (absent : mark ∉ segment) : segment.takeWhile (· ≠ mark) = segment :=
  List.takeWhile_eq_self_iff.mpr fun _ member =>
    decide_eq_true fun same => absent (same ▸ member)

theorem takeWhile_mark (absent : mark ∉ segment) (rest : List α) :
    (segment ++ mark :: rest).takeWhile (· ≠ mark) = segment := by
  rw [List.takeWhile_append_of_pos, List.takeWhile_cons_of_neg (by simp), List.append_nil]
  exact fun element member => decide_eq_true fun same => absent (same ▸ member)

theorem takeWhile_findIdx? (search : text.findIdx? (· = mark) = some place) :
    text.takeWhile (· ≠ mark) = text.take place := by
  have index := (List.findIdx?_eq_some_iff_findIdx_eq.mp search).2
  rw [List.takeWhile_eq_take_findIdx_not, ← index]
  congr 2
  funext character
  simp

theorem findIdx?_mark (absent : mark ∉ segment) :
    (segment ++ mark :: rest).findIdx? (· = mark) = some segment.length := by
  rw [List.findIdx?_append, List.findIdx?_eq_none_iff.mpr, List.findIdx?_cons]
  · simp
  · intro element member
    exact decide_eq_false fun same => absent (same ▸ member)

theorem findMark_append (absent : mark ∉ segment) (front rest : List α) :
    findMark (front ++ (segment ++ mark :: rest)) mark front.length =
      some (front.length + segment.length) := by
  rw [findMark, List.drop_left, findIdx?_mark absent]
  rfl

theorem findMark_absent (absent : mark ∉ rest) (front : List α) :
    findMark (front ++ rest) mark front.length = none := by
  rw [findMark, List.drop_left, Option.map_eq_none_iff, List.findIdx?_eq_none_iff]
  intro element member
  exact decide_eq_false fun same => absent (same ▸ member)

theorem rfindMark_append (absent : mark ∉ segment) (front rest : List α) :
    rfindMark (front ++ mark :: (segment ++ rest)) mark (front.length + segment.length) =
      some front.length := by
  have shape : (front ++ mark :: (segment ++ rest)).take (front.length + segment.length + 1) =
      front ++ mark :: segment := by
    rw [Nat.add_assoc, List.take_length_add_append, List.take_succ_cons, List.take_left]
  have back : (segment.reverse ++ mark :: front.reverse).findIdx? (· = mark) =
      some segment.length := by
    rw [findIdx?_mark (by rwa [List.mem_reverse]), List.length_reverse]
  rw [rfindMark, shape, List.reverse_append, List.reverse_cons, List.append_assoc,
    List.singleton_append, back, Option.map_some, List.length_append, List.length_cons]
  congr 1
  omega

theorem getlines_append (absent : delimiter ∉ line) (rest : List α) :
    getlines delimiter (line ++ delimiter :: rest) = line :: getlines delimiter rest := by
  induction line with
  | nil => rw [List.nil_append, getlines, if_pos rfl]
  | cons first line ih =>
    rw [List.mem_cons, not_or] at absent
    rw [List.cons_append, getlines, if_neg (Ne.symm absent.1), ih absent.2]

theorem getlines_absent (absent : delimiter ∉ line) (nonempty : line ≠ []) :
    getlines delimiter line = [line] := by
  induction line with
  | nil => exact absurd rfl nonempty
  | cons first line ih =>
    rw [List.mem_cons, not_or] at absent
    rw [getlines, if_neg (Ne.symm absent.1)]
    cases line with
    | nil => rfl
    | cons second line => rw [ih absent.2 (List.cons_ne_nil _ _)]

theorem flatten_getlines (delimiter : α) (text : List α) :
    (getlines delimiter text).flatten = text.filter (· ≠ delimiter) := by
  induction text with
  | nil => rfl
  | cons first rest ih =>
    by_cases same : first = delimiter
    · rw [getlines, if_pos same, List.flatten_cons, ih, List.filter_cons_of_neg (by simp [same])]
      rfl
    · rw [getlines, if_neg same, List.filter_cons_of_pos (by simp [same]), ← ih]
      cases getlines delimiter rest with
      | nil => rfl
      | cons line lines => rfl

end Search

end EnetTsn.Library
