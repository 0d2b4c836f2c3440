import Mathlib.Data.Int.Log
import Mathlib.Data.Rat.Floor
import Mathlib.Tactic.Linarith
import Mathlib.Tactic.FieldSimp

/-!
Double precision arithmetic: an operation is the exact rational result, rounded to
the nearest double, ties to even. A number of at most 53 binary digits is a double,
so that it is not rounded.
-/

namespace EnetTsn.Library.Binary64

/-- The nearest integer, and the even one of two. -/
def nearest (value : ℚ) : ℤ :=
  if Int.fract value < 1 / 2 ∨ Int.fract value = 1 / 2 ∧ ⌊value⌋ % 2 = 0 then ⌊value⌋
  else ⌊value⌋ + 1

/-- The exponent of a double's last binary digit. -/
def lastPlace (value : ℚ) : ℤ := max (Int.log 2 |value| - 52) (-1074)

def round (value : ℚ) : ℚ := nearest (value / 2 ^ lastPlace value) * 2 ^ lastPlace value

def add (left right : ℚ) : ℚ := round (left + right)

def sub (left right : ℚ) : ℚ := round (left - right)

def mul (left right : ℚ) : ℚ := round (left * right)

def div (left right : ℚ) : ℚ := round (left / right)

def ldexp (value : ℚ) (exponent : ℤ) : ℚ := round (value * 2 ^ exponent)

def truncate (value : ℚ) : ℤ := if 0 ≤ value then ⌊value⌋ else ⌈value⌉

@[simp] theorem nearest_intCast (value : ℤ) : nearest value = value := by
  simp [nearest]

@[simp] theorem truncate_intCast (value : ℤ) : truncate value = value := by
  simp [truncate]

/-- The number is a double. -/
def Fits (value : ℚ) : Prop :=
  ∃ (digits exponent : ℤ), value = digits * 2 ^ exponent ∧ |digits| < 2 ^ 53 ∧ -1074 ≤ exponent

theorem round_of_multiple {value : ℚ} (digits : ℤ)
    (multiple : value = digits * 2 ^ lastPlace value) : round value = value := by
  have positive : (2 : ℚ) ^ lastPlace value ≠ 0 := zpow_ne_zero _ (by decide)
  have quotient : value / 2 ^ lastPlace value = digits := by
    rw [div_eq_iff positive]
    exact multiple
  rw [round, quotient, nearest_intCast]
  exact multiple.symm

theorem lastPlace_le {value : ℚ} {digits exponent : ℤ} (shown : value = digits * 2 ^ exponent)
    (nonzero : value ≠ 0) (small : |digits| < 2 ^ 53) (large : -1074 ≤ exponent) :
    lastPlace value ≤ exponent := by
  have power : (0 : ℚ) < 2 ^ exponent := zpow_pos (by decide) _
  have digitsBound : (|digits| : ℚ) < 2 ^ (53 : ℤ) := by
    exact_mod_cast small
  have bound : |value| < 2 ^ (exponent + 53) := by
    rw [shown, abs_mul, abs_of_pos power, add_comm, zpow_add₀ (by decide)]
    exact mul_lt_mul_of_pos_right digitsBound power
  have log : Int.log 2 |value| < exponent + 53 :=
    (Int.lt_zpow_iff_log_lt (by decide) (abs_pos.mpr nonzero)).mp bound
  unfold lastPlace
  omega

theorem round_of_fits {value : ℚ} (fits : Fits value) : round value = value := by
  obtain ⟨digits, exponent, shown, small, large⟩ := fits
  by_cases zero : value = 0
  · apply round_of_multiple 0
    rw [zero, Int.cast_zero, zero_mul]
  · have below := lastPlace_le shown zero small large
    apply round_of_multiple (digits * 2 ^ (exponent - lastPlace value).toNat)
    have split : (2 : ℚ) ^ exponent =
        2 ^ (exponent - lastPlace value).toNat * 2 ^ lastPlace value := by
      rw [← zpow_natCast, ← zpow_add₀ (by decide), Int.toNat_of_nonneg (by omega)]
      congr 1
      omega
    push_cast
    rw [mul_assoc, ← split]
    exact shown

theorem nearest_le {value : ℚ} {bound : ℤ} (below : value < bound) : nearest value ≤ bound := by
  have floor : ⌊value⌋ < bound := Int.floor_lt.mpr below
  unfold nearest
  split <;> omega

theorem le_nearest {value : ℚ} {bound : ℤ} (above : bound ≤ value) : bound ≤ nearest value := by
  have floor : bound ≤ ⌊value⌋ := Int.le_floor.mpr above
  unfold nearest
  split <;> omega

theorem abs_div_lastPlace_lt (value : ℚ) : |value / 2 ^ lastPlace value| < 2 ^ 53 := by
  have power : (0 : ℚ) < 2 ^ lastPlace value := zpow_pos (by decide) _
  rw [abs_div, abs_of_pos power, div_lt_iff₀ power]
  by_cases zero : value = 0
  · rw [zero, abs_zero]
    exact mul_pos (by norm_num) (zero ▸ power)
  · have magnitude : |value| < 2 ^ (Int.log 2 |value| + 1) := Int.lt_zpow_succ_log_self (by decide) _
    have place : Int.log 2 |value| + 1 ≤ 53 + lastPlace value := by
      unfold lastPlace
      omega
    have larger : (2 : ℚ) ^ (Int.log 2 |value| + 1) ≤ 2 ^ (53 + lastPlace value) :=
      zpow_le_zpow_right₀ (by decide) place
    have split : (2 : ℚ) ^ (53 + lastPlace value) = 2 ^ 53 * 2 ^ lastPlace value := by
      rw [zpow_add₀ (by decide)]
      norm_cast
    rw [split] at larger
    exact lt_of_lt_of_le magnitude larger

theorem fits_round (value : ℚ) : Fits (round value) := by
  obtain ⟨lower, upper⟩ := abs_lt.mp (abs_div_lastPlace_lt value)
  have least : -(2 ^ 53) ≤ nearest (value / 2 ^ lastPlace value) :=
    le_nearest (by push_cast; exact lower.le)
  have most : nearest (value / 2 ^ lastPlace value) ≤ 2 ^ 53 := nearest_le (by push_cast; exact upper)
  have place : -1074 ≤ lastPlace value := le_max_right _ _
  by_cases small : |nearest (value / 2 ^ lastPlace value)| < 2 ^ 53
  · exact ⟨_, _, rfl, small, place⟩
  · have carried : ∀ sign : ℤ, nearest (value / 2 ^ lastPlace value) = sign * 2 ^ 53 →
        round value = sign * 2 ^ (53 + lastPlace value) := by
      intro sign same
      rw [round, same, zpow_add₀ (by decide)]
      push_cast
      rw [mul_assoc]
    rcases abs_cases (nearest (value / 2 ^ lastPlace value)) with ⟨same, _⟩ | ⟨same, _⟩
    · refine ⟨1, 53 + lastPlace value, carried 1 (by omega), by decide, by omega⟩
    · refine ⟨-1, 53 + lastPlace value, carried (-1) (by omega), by decide, by omega⟩

@[simp] theorem round_round (value : ℚ) : round (round value) = round value :=
  round_of_fits (fits_round value)

theorem fits_scaled (digits : ℤ) (exponent : ℤ) (small : |digits| < 2 ^ 53)
    (large : -1074 ≤ exponent) : Fits (digits * 2 ^ exponent) :=
  ⟨digits, exponent, rfl, small, large⟩

theorem fits_intCast (value : ℤ) (small : |value| < 2 ^ 53) : Fits value :=
  ⟨value, 0, by simp, small, by decide⟩

theorem ldexp_scaled (digits exponent shift : ℤ) (small : |digits| < 2 ^ 53)
    (large : -1074 ≤ exponent + shift) :
    ldexp (digits * 2 ^ exponent) shift = digits * 2 ^ (exponent + shift) := by
  rw [ldexp, mul_assoc, ← zpow_add₀ (by decide)]
  exact round_of_fits (fits_scaled digits _ small large)

theorem abs_nearest_sub_le (value : ℚ) : |nearest value - value| ≤ 1 / 2 := by
  have parts := Int.self_sub_floor value
  have least := Int.fract_nonneg value
  have most := Int.fract_lt_one value
  unfold nearest
  split
  · rename_i down
    have half : Int.fract value ≤ 1 / 2 := down.elim le_of_lt fun tie => tie.1.le
    rw [abs_le]
    constructor <;> linarith
  · rename_i up
    rw [not_or] at up
    push_cast
    rw [abs_le]
    constructor <;> linarith

theorem abs_round_sub_le_place (value : ℚ) : |round value - value| ≤ 2 ^ lastPlace value / 2 := by
  have power : (0 : ℚ) < 2 ^ lastPlace value := zpow_pos (by decide) _
  have scaled : round value - value =
      (nearest (value / 2 ^ lastPlace value) - value / 2 ^ lastPlace value) *
        2 ^ lastPlace value := by
    rw [round, sub_mul, div_mul_cancel₀ _ power.ne']
  rw [scaled, abs_mul, abs_of_pos power]
  calc |nearest (value / 2 ^ lastPlace value) - value / 2 ^ lastPlace value| * 2 ^ lastPlace value
      ≤ 1 / 2 * 2 ^ lastPlace value :=
        mul_le_mul_of_nonneg_right (abs_nearest_sub_le _) power.le
    _ = 2 ^ lastPlace value / 2 := by ring

theorem abs_round_sub_le (value : ℚ) :
    |round value - value| ≤ |value| * 2 ^ (-53 : ℤ) + 2 ^ (-1075 : ℤ) := by
  have tiny : (0 : ℚ) ≤ 2 ^ (-1075 : ℤ) := zpow_nonneg (by decide) _
  have part : (0 : ℚ) ≤ |value| * 2 ^ (-53 : ℤ) :=
    mul_nonneg (abs_nonneg value) (zpow_nonneg (by decide) _)
  by_cases zero : value = 0
  · rw [zero, round, zero_div, show nearest 0 = 0 from nearest_intCast 0, Int.cast_zero, zero_mul,
      sub_zero, abs_zero, zero_mul, zero_add]
    exact tiny
  have half : (2 : ℚ) ^ lastPlace value / 2 = 2 ^ (lastPlace value - 1) := by
    rw [zpow_sub_one₀ (by decide), div_eq_mul_inv]
  have error := abs_round_sub_le_place value
  rw [half] at error
  by_cases large : -1074 ≤ Int.log 2 |value| - 52
  · have place : lastPlace value - 1 = Int.log 2 |value| + -53 := by
      unfold lastPlace
      omega
    have below : (2 : ℚ) ^ Int.log 2 |value| ≤ |value| :=
      Int.zpow_log_le_self (by decide) (abs_pos.mpr zero)
    have scaled := mul_le_mul_of_nonneg_right below
      (zpow_nonneg (by decide) _ : (0 : ℚ) ≤ 2 ^ (-53 : ℤ))
    rw [place, zpow_add₀ (by decide)] at error
    linarith
  · have place : lastPlace value - 1 = -1075 := by
      unfold lastPlace
      omega
    rw [place] at error
    linarith

theorem abs_round_sub_le_of_near {value exact error : ℚ} (near : |value - exact| ≤ error) :
    |round value - exact| ≤ error + (|exact| + error) * 2 ^ (-53 : ℤ) + 2 ^ (-1075 : ℤ) := by
  have triangle : |round value - exact| ≤ |round value - value| + |value - exact| := by
    have split : round value - exact = (round value - value) + (value - exact) := by ring
    rw [split]
    exact abs_add_le _ _
  have size : |value| ≤ |exact| + error := by
    have split : value = exact + (value - exact) := by ring
    have sum := abs_add_le exact (value - exact)
    rw [← split] at sum
    linarith
  have scaled := mul_le_mul_of_nonneg_right size
    (zpow_nonneg (by decide) _ : (0 : ℚ) ≤ 2 ^ (-53 : ℤ))
  linarith [abs_round_sub_le value]

theorem abs_truncate_le (value : ℚ) : (|truncate value| : ℚ) ≤ |value| := by
  unfold truncate
  split
  · rename_i nonneg
    have floor : (0 : ℤ) ≤ ⌊value⌋ := Int.floor_nonneg.mpr nonneg
    rw [abs_of_nonneg nonneg, abs_of_nonneg (by exact_mod_cast floor)]
    exact Int.floor_le value
  · rename_i neg
    have below := (not_le.mp neg).le
    have ceil : ⌈value⌉ ≤ 0 := Int.ceil_le.mpr (by exact_mod_cast below)
    rw [abs_of_nonpos below, abs_of_nonpos (by exact_mod_cast ceil)]
    exact neg_le_neg (Int.le_ceil value)

end EnetTsn.Library.Binary64
