/-!
A search that halves a window of positions. It ends at the position that is equal, or at a
neighbour of the place where an equal one would stand.
-/

namespace EnetTsn.Library

/-- Compare the middle of a window, and go on in the part that is left. A comparison is
positive when what is searched comes after the position. -/
def halvingSearch (compare : Nat → Int) : Nat → Nat → Nat → Option (Int × Nat)
  | 0, _, _ => none
  | fuel + 1, start, size =>
    let half := size / 2
    let res := compare (start + half)
    if res = 0 ∨ half = 0 then some (res, start + half)
    else if 0 < res then
      let rest := if size % 2 = 0 then half - 1 else half
      if rest = 0 then some (res, start + half)
      else halvingSearch compare fuel (start + half + 1) rest
    else halvingSearch compare fuel start half

def Increasing (compare : Nat → Int) (bound : Nat) : Prop :=
  ∀ first second, first < second → second < bound → compare first ≤ 0 → compare second < 0

/-- Everything before the position comes before what is searched, and everything after the
position comes after it. -/
structure Located (compare : Nat → Int) (bound : Nat) (res : Int) (position : Nat) : Prop where
  inside : position < bound
  compared : compare position = res
  before : ∀ other < position, 0 < compare other
  after : ∀ other, position < other → other < bound → compare other < 0

variable {compare : Nat → Int} {bound fuel start size position : Nat} {res : Int}

theorem Increasing.positive (increasing : Increasing compare bound) (order : first < second)
    (inside : second < bound) (high : 0 ≤ compare second) : 0 < compare first := by
  apply Int.not_le.mp
  intro low
  have below := increasing first second order inside low
  omega

theorem halvingSearch_located (increasing : Increasing compare bound) (positive : 0 < size)
    (enough : size ≤ fuel) (inside : start + size ≤ bound)
    (before : ∀ other < start, 0 < compare other)
    (after : ∀ other, start + size ≤ other → other < bound → compare other < 0) :
    ∃ res position, halvingSearch compare fuel start size = some (res, position) ∧
      Located compare bound res position := by
  induction fuel generalizing start size with
  | zero => omega
  | succ fuel ih =>
    have middle : start + size / 2 < bound := by omega
    rw [halvingSearch]
    by_cases ended : compare (start + size / 2) = 0 ∨ size / 2 = 0
    · refine ⟨_, _, if_pos ended, middle, rfl, ?_, ?_⟩
      · intro other low
        rcases ended with equal | single
        · exact increasing.positive low middle (Int.le_of_eq equal.symm)
        · exact before other (by omega)
      · intro other high below
        rcases ended with equal | single
        · exact increasing _ other high below (Int.le_of_eq equal)
        · exact after other (by omega) below
    rw [if_neg ended]
    obtain ⟨different, several⟩ := not_or.mp ended
    by_cases later : 0 < compare (start + size / 2)
    · have beforeMiddle : ∀ other < start + size / 2, 0 < compare other := fun other low =>
        increasing.positive low middle (Int.le_of_lt later)
      rw [if_pos later]
      generalize remaining : (if size % 2 = 0 then size / 2 - 1 else size / 2) = rest
      have split : start + size / 2 + 1 + rest = start + size := by
        split at remaining <;> omega
      by_cases last : rest = 0
      · refine ⟨_, _, if_pos last, middle, rfl, beforeMiddle, ?_⟩
        intro other high below
        exact after other (by omega) below
      · have onward : ∃ res position,
            halvingSearch compare fuel (start + size / 2 + 1) rest = some (res, position) ∧
              Located compare bound res position := by
          apply ih (Nat.pos_of_ne_zero last) (by omega) (by omega)
          · intro other low
            rcases Nat.lt_or_ge other (start + size / 2) with low | high
            · exact beforeMiddle other low
            · obtain rfl : other = start + size / 2 := by omega
              exact later
          · intro other high below
            exact after other (by omega) below
        obtain ⟨res, position, found, located⟩ := onward
        exact ⟨res, position, (if_neg last).trans found, located⟩
    · rw [if_neg later]
      have low : compare (start + size / 2) < 0 := by omega
      apply ih (Nat.pos_of_ne_zero several) (by omega) (by omega) before
      intro other high below
      rcases Nat.eq_or_lt_of_le high with same | above
      · rw [← same]
        exact low
      · exact increasing _ other above below (Int.le_of_lt low)

end EnetTsn.Library
