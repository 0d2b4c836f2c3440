import EnetTsn.Clock.GmRate

namespace EnetTsn.Clock

open EnetTsn.Library

namespace GmRateData

def exactPpb (sm : GmRateData) (dmts dlts : Int) : ℚ :=
  sm.alpha * ((dmts : ℚ) / dlts - 1) * 1000000000

section Rounding

variable {value exact error : ℚ}

theorem round_near (near : |value - exact| ≤ error) :
    |Binary64.round value - exact| ≤ error + (|exact| + error) / 10 ^ 15 + 1 / 10 ^ 18 := by
  have bound := Binary64.abs_round_sub_le_of_near near
  have least : (0 : ℚ) ≤ |exact| + error :=
    add_nonneg (abs_nonneg exact) ((abs_nonneg _).trans near)
  have relative : (2 : ℚ) ^ (-53 : ℤ) ≤ 1 / 10 ^ 15 := by norm_num
  have absolute : (2 : ℚ) ^ (-1075 : ℤ) ≤ 1 / 10 ^ 18 := by
    calc (2 : ℚ) ^ (-1075 : ℤ) ≤ 2 ^ (-60 : ℤ) := zpow_le_zpow_right₀ (by norm_num) (by norm_num)
      _ ≤ 1 / 10 ^ 18 := by norm_num
  calc |Binary64.round value - exact|
      ≤ error + (|exact| + error) * 2 ^ (-53 : ℤ) + 2 ^ (-1075 : ℤ) := bound
    _ ≤ error + (|exact| + error) * (1 / 10 ^ 15) + 1 / 10 ^ 18 :=
        add_le_add (add_le_add_right (mul_le_mul_of_nonneg_left relative least) _) absolute
    _ = error + (|exact| + error) / 10 ^ 15 + 1 / 10 ^ 18 := by ring

theorem round_self_near (value : ℚ) :
    |Binary64.round value - value| ≤ |value| / 10 ^ 15 + 1 / 10 ^ 18 := by
  have near : |value - value| ≤ 0 := by simp
  simpa using round_near near

theorem round_intCast_near {count : Int} (nonzero : count ≠ 0) :
    |Binary64.round count - count| ≤ |(count : ℚ)| * (2 / 10 ^ 15) := by
  have least : (1 : ℚ) ≤ |(count : ℚ)| := by
    exact_mod_cast Int.one_le_abs nonzero
  have bound := round_self_near (count : ℚ)
  linarith

theorem quotient_near {dmts dlts : Int} (master : dmts ≠ 0) (own : dlts ≠ 0) :
    |Binary64.round dmts / Binary64.round dlts - (dmts : ℚ) / dlts| ≤
      |(dmts : ℚ) / dlts| * (5 / 10 ^ 15) := by
  have ownNonzero : (dlts : ℚ) ≠ 0 := by exact_mod_cast own
  have size : 0 < |(dlts : ℚ)| := abs_pos.mpr ownNonzero
  have upper := round_intCast_near master
  have lower := round_intCast_near own
  have large : |(dlts : ℚ)| * (1 - 2 / 10 ^ 15) ≤ |Binary64.round dlts| := by
    have triangle := abs_sub_abs_le_abs_sub (dlts : ℚ) (Binary64.round dlts)
    rw [abs_sub_comm] at triangle
    linarith
  have positive : 0 < |Binary64.round dlts| := lt_of_lt_of_le (mul_pos size (by norm_num)) large
  have nonzero : Binary64.round dlts ≠ 0 := abs_pos.mp positive
  have split : Binary64.round dmts / Binary64.round dlts - (dmts : ℚ) / dlts =
      ((Binary64.round dmts - dmts) - (dmts : ℚ) / dlts * (Binary64.round dlts - dlts)) /
        Binary64.round dlts := by
    field_simp
    ring
  have whole : |(dmts : ℚ)| = |(dmts : ℚ) / dlts| * |(dlts : ℚ)| := by
    rw [← abs_mul, div_mul_cancel₀ _ ownNonzero]
  rw [split, abs_div, div_le_iff₀ positive]
  have part : |(dmts : ℚ) / dlts * (Binary64.round dlts - dlts)| ≤
      |(dmts : ℚ) / dlts| * (|(dlts : ℚ)| * (2 / 10 ^ 15)) := by
    rw [abs_mul]
    exact mul_le_mul_of_nonneg_left lower (abs_nonneg _)
  have both := abs_sub (Binary64.round dmts - dmts)
    ((dmts : ℚ) / dlts * (Binary64.round dlts - dlts))
  have grown := mul_le_mul_of_nonneg_left large (abs_nonneg ((dmts : ℚ) / dlts))
  rw [whole] at upper
  have rest : 0 ≤ |(dmts : ℚ) / dlts| * |(dlts : ℚ)| := by positivity
  nlinarith

theorem nrate_near {sm : GmRateData} {dmts dlts : Int} (mrate : sm.mrate = 1)
    (alpha : |sm.alpha| ≤ 2) (master : dmts ≠ 0) (own : dlts ≠ 0)
    (moderate : |sm.alpha * ((dmts : ℚ) / dlts - 1)| ≤ 3) :
    |sm.nrate dmts dlts - (1 + sm.alpha * ((dmts : ℚ) / dlts - 1))| ≤ 60 / 10 ^ 15 := by
  have ratio := quotient_near master own
  have quotient := round_near ratio
  have product : |sm.alpha * ((dmts : ℚ) / dlts)| ≤ 5 := by
    have split : sm.alpha * ((dmts : ℚ) / dlts) =
        sm.alpha * ((dmts : ℚ) / dlts - 1) + sm.alpha := by ring
    rw [split]
    linarith [abs_add_le (sm.alpha * ((dmts : ℚ) / dlts - 1)) sm.alpha]
  -- the filter's first product
  have scaled : |sm.alpha * Binary64.div (Binary64.round dmts) (Binary64.round dlts) -
      sm.alpha * ((dmts : ℚ) / dlts)| ≤ 37 / 10 ^ 15 := by
    rw [← mul_sub, abs_mul]
    have grown := mul_le_mul_of_nonneg_left quotient (abs_nonneg sm.alpha)
    rw [abs_mul] at product
    refine grown.trans ?_
    nlinarith [abs_nonneg sm.alpha]
  have first := round_near scaled
  -- its second one
  have rest := round_self_near (1 - sm.alpha)
  have second : Binary64.mul (Binary64.sub 1 sm.alpha) sm.mrate =
      Binary64.round (1 - sm.alpha) := by
    rw [mrate, Binary64.mul, mul_one, Binary64.sub, Binary64.round_round]
  have complement : |1 - sm.alpha| ≤ 3 := by
    have triangle := abs_sub (1 : ℚ) sm.alpha
    rw [abs_one] at triangle
    linarith
  have sum : |Binary64.round (sm.alpha * Binary64.div (Binary64.round dmts)
        (Binary64.round dlts)) + Binary64.round (1 - sm.alpha) -
      (1 + sm.alpha * ((dmts : ℚ) / dlts - 1))| ≤ 50 / 10 ^ 15 := by
    have split : Binary64.round (sm.alpha * Binary64.div (Binary64.round dmts)
          (Binary64.round dlts)) + Binary64.round (1 - sm.alpha) -
          (1 + sm.alpha * ((dmts : ℚ) / dlts - 1)) =
        (Binary64.round (sm.alpha * Binary64.div (Binary64.round dmts) (Binary64.round dlts)) -
          sm.alpha * ((dmts : ℚ) / dlts)) +
        (Binary64.round (1 - sm.alpha) - (1 - sm.alpha)) := by ring
    rw [split]
    refine (abs_add_le _ _).trans ?_
    linarith
  have total := round_near sum
  have size : |1 + sm.alpha * ((dmts : ℚ) / dlts - 1)| ≤ 4 := by
    have triangle := abs_add_le 1 (sm.alpha * ((dmts : ℚ) / dlts - 1))
    linarith
  rw [nrate, second]
  refine total.trans ?_
  linarith

theorem ppb_near {sm : GmRateData} {dmts dlts : Int} (mrate : sm.mrate = 1)
    (alpha : |sm.alpha| ≤ 2) (master : dmts ≠ 0) (own : dlts ≠ 0)
    (moderate : |sm.exactPpb dmts dlts| ≤ 3 * 1000000000) :
    |Binary64.mul (Binary64.sub (sm.nrate dmts dlts) 1) 1000000000 - sm.exactPpb dmts dlts| ≤
      1 / 2 := by
  have small : |sm.alpha * ((dmts : ℚ) / dlts - 1)| ≤ 3 := by
    rw [exactPpb, abs_mul] at moderate
    have positive : |(1000000000 : ℚ)| = 1000000000 := by norm_num
    exact le_of_mul_le_mul_right moderate (by norm_num)
  have rate := nrate_near mrate alpha master own small
  have offset : |sm.nrate dmts dlts - 1 - sm.alpha * ((dmts : ℚ) / dlts - 1)| ≤ 60 / 10 ^ 15 := by
    rw [sub_sub]
    exact rate
  have rounded := round_near offset
  have scaled : |Binary64.sub (sm.nrate dmts dlts) 1 * 1000000000 - sm.exactPpb dmts dlts| ≤
      64 / 10 ^ 6 := by
    have split : Binary64.sub (sm.nrate dmts dlts) 1 * 1000000000 - sm.exactPpb dmts dlts =
        (Binary64.round (sm.nrate dmts dlts - 1) - sm.alpha * ((dmts : ℚ) / dlts - 1)) *
          1000000000 := by
      rw [Binary64.sub, exactPpb]
      ring
    rw [split, abs_mul]
    have positive : |(1000000000 : ℚ)| = 1000000000 := by norm_num
    rw [positive]
    linarith
  have total := round_near scaled
  refine total.trans ?_
  linarith

end Rounding

/-- What the part for the offset leaves as it was, and the offset that it hands over. -/
structure OffsetMoved (cfg : GmRateConfig) (around : GmRateSurroundings) (sm : GmRateData)
    (out : GmRateData × List ClockCall × Int) : Prop where
  mrate : out.1.mrate = sm.mrate
  alpha : out.1.alpha = sm.alpha
  gmadjppb : out.1.gmadjppb = sm.gmadjppb
  rateIsStable : out.1.rateIsStable = sm.rateIsStable
  rateStableCount : out.1.rateStableCount = sm.rateStableCount
  skipFreqadj : out.1.skipFreqadj = sm.skipFreqadj ∨ movesHw cfg around = true
  calls : ∀ adjvppb clockIndex, ClockCall.setadj adjvppb clockIndex ∉ out.2.1
  offset : out.2.2 = setPhaseOffsetGMNoopReturn ∨ |out.2.2| ≤ max cfg.phaseOffsetAdjustByFreq 0

section Offset

variable {cfg : GmRateConfig} {around : GmRateSurroundings} {sm : GmRateData}
  {out : GmRateData × List ClockCall × Int} {stage : OffsetState} {count ind : Int}

theorem OffsetMoved.restage (moved : OffsetMoved cfg around
    { sm with offsetGMStable := stage, offsetGMStableCount := count, gmchangeInd := ind } out) :
    OffsetMoved cfg around sm out :=
  ⟨moved.mrate, moved.alpha, moved.gmadjppb, moved.rateIsStable, moved.rateStableCount,
    moved.skipFreqadj, moved.calls, moved.offset⟩

private theorem abs_int32_le (below : llabs value < bound) (wide : int64 value = value) :
    |int32 value| ≤ max bound 0 := by
  have least : -9223372036854775808 ≤ value := by
    rw [← wide]
    exact Int.le_bmod (by decide)
  have most : value < 9223372036854775808 := by
    rw [← wide]
    exact Int.bmod_lt (by decide)
  have shape := Int.bmod_def value 4294967296
  have size := abs_cases value
  rw [llabs, int64, Int.bmod_def] at below
  rw [int32]
  generalize Int.bmod value 4294967296 = result at shape ⊢
  have sign := abs_cases result
  split at below <;> split at shape <;> omega

theorem moveOffset_moved (cfg : GmRateConfig) (around : GmRateSurroundings) (sm : GmRateData)
    (offsetGM : Int) : OffsetMoved cfg around sm (sm.moveOffset cfg around offsetGM) := by
  unfold moveOffset
  dsimp only
  split
  · rename_i byFreq
    exact ⟨rfl, rfl, rfl, rfl, rfl, .inl rfl, fun _ _ => List.not_mem_nil,
      .inr (abs_int32_le byFreq.1 (by simp [int64]))⟩
  · split
    · rename_i hw
      exact ⟨rfl, rfl, rfl, rfl, rfl, .inr hw, by simp, .inr (by simp)⟩
    · exact ⟨rfl, rfl, rfl, rfl, rfl, .inl rfl, by simp, .inr (by simp)⟩

theorem followOffset_moved
    (start : sm.offsetGMStable = .unstableAdj → cfg.phaseOffsetIirAlphaStartValue ≠ 0)
    (stable : sm.offsetGMStable = .stableAdj → cfg.phaseOffsetIirAlphaStableValue ≠ 0) :
    ∃ out, sm.followOffset cfg around dts dofg = .ok out ∧ OffsetMoved cfg around sm out := by
  unfold followOffset
  split
  · exact ⟨_, rfl, (moveOffset_moved cfg around _ _).restage⟩
  · exact ⟨_, rfl, (moveOffset_moved cfg around _ _).restage⟩
  · rename_i stage
    rw [filterOffset, if_neg (start stage)]
    refine ⟨_, rfl, ?_⟩
    split
    · split
      · exact (moveOffset_moved cfg around _ _).restage
      · exact (moveOffset_moved cfg around _ _).restage
    · exact (moveOffset_moved cfg around _ _).restage
  · rename_i stage
    split
    · exact ⟨_, rfl, rfl, rfl, rfl, rfl, rfl, .inl rfl, fun _ _ => List.not_mem_nil, .inr (by simp)⟩
    · rw [filterOffset, if_neg (stable stage)]
      refine ⟨_, rfl, ?_⟩
      split
      · exact (moveOffset_moved cfg around _ _).restage
      · exact moveOffset_moved cfg around _ _

theorem setPhaseOffsetGM_moved {dts dlts : Int}
    (start : |int64 (dts - sm.offsetGM)| < phaseNewgmCriterion → withinInterval cfg dlts = false →
      sm.offsetGMStable = .unstableAdj → cfg.phaseOffsetIirAlphaStartValue ≠ 0)
    (stable : |int64 (dts - sm.offsetGM)| < phaseNewgmCriterion → withinInterval cfg dlts = false →
      sm.offsetGMStable = .stableAdj → cfg.phaseOffsetIirAlphaStableValue ≠ 0) :
    ∃ out, sm.setPhaseOffsetGM cfg around dts dlts = .ok out ∧ OffsetMoved cfg around sm out := by
  unfold setPhaseOffsetGM
  dsimp only
  split
  · exact ⟨_, rfl, rfl, rfl, rfl, rfl, rfl, .inl rfl, fun _ _ => List.not_mem_nil, .inr (by simp)⟩
  by_cases jump : phaseNewgmCriterion ≤ |int64 (dts - sm.offsetGM)|
  · rw [if_pos jump, if_neg (by simp)]
    obtain ⟨out, followed, moved⟩ : ∃ out,
        { sm with offsetGMStable := .startAdj }.followOffset cfg around dts
          |int64 (dts - sm.offsetGM)| = .ok out ∧
        OffsetMoved cfg around { sm with offsetGMStable := .startAdj } out :=
      followOffset_moved (fun stage => OffsetState.noConfusion stage)
        (fun stage => OffsetState.noConfusion stage)
    exact ⟨out, followed, moved.restage⟩
  · rw [if_neg jump]
    have small := not_le.mp jump
    cases within : withinInterval cfg dlts with
    | false =>
      exact followOffset_moved (start small within) (stable small within)
    | true =>
      by_cases early : sm.offsetGMStable = .unstableAdj ∨ sm.offsetGMStable = .stableAdj
      · rw [if_pos ⟨rfl, early⟩]
        exact ⟨_, rfl, rfl, rfl, rfl, rfl, rfl, .inl rfl, fun _ _ => List.not_mem_nil, .inl rfl⟩
      · rw [if_neg fun both => early both.2]
        exact followOffset_moved (fun stage => absurd (.inl stage) early)
          (fun stage => absurd (.inr stage) early)

private theorem setPhaseOffsetGM_waits {dts dlts : Int}
    (small : |int64 (dts - sm.offsetGM)| < phaseNewgmCriterion)
    (within : withinInterval cfg dlts = true)
    (stage : sm.offsetGMStable = .unstableAdj ∨ sm.offsetGMStable = .stableAdj) :
    sm.setPhaseOffsetGM cfg around dts dlts = .ok (sm, [], setPhaseOffsetGMNoopReturn) := by
  have near := not_le.mpr small
  unfold setPhaseOffsetGM
  dsimp only
  rw [if_neg fun all => near all.1, if_neg near, if_pos ⟨within, stage⟩]

end Offset

section Rate

variable {cfg : GmRateConfig} {around : GmRateSurroundings} {sm : GmRateData} {ppb value : Int}

theorem checked_of_abs (small : |value| ≤ 2147483647) : checked value = .ok value := by
  obtain ⟨least, most⟩ := abs_le.mp small
  rw [checked, if_pos ⟨by omega, most⟩]

theorem abs_reciprocal {alpha : ℚ} (inverse : reciprocal value = .ok alpha) : |alpha| ≤ 2 := by
  by_cases zero : value = 0
  · rw [reciprocal, if_pos zero] at inverse
    cases inverse
  · rw [reciprocal, if_neg zero] at inverse
    cases inverse
    have least : (1 : ℚ) ≤ |(value : ℚ)| := by exact_mod_cast Int.one_le_abs zero
    have exact : |(1 : ℚ) / value| ≤ 1 := by
      rw [abs_div, abs_one]
      exact div_le_one_of_le₀ least (abs_nonneg _)
    have near := round_self_near (1 / (value : ℚ))
    have split : Binary64.div 1 value =
        (Binary64.round (1 / (value : ℚ)) - 1 / value) + 1 / value := by
      rw [Binary64.div]
      ring
    rw [split]
    refine (abs_add_le _ _).trans ?_
    linarith

structure Filtering (sm : GmRateData) : Prop where
  mrate : sm.mrate = 1
  alpha : |sm.alpha| ≤ 2

def AdjustsWithin (cfg : GmRateConfig) (calls : List ClockCall) : Prop :=
  ∀ adjvppb clockIndex, .setadj adjvppb clockIndex ∈ calls → |adjvppb| ≤ cfg.maxAdjustRateOnClock

theorem judgeRate_ok (filtering : Filtering sm) (small : |ppb| ≤ 2147483647)
    (stable : sm.rateIsStable = false → freqOffsetStableTrns ≤ sm.rateStableCount + 1 →
      cfg.freqOffsetIirAlphaStableValue ≠ 0)
    (start : sm.rateIsStable = true → cfg.freqOffsetIirAlphaStartValue ≠ 0) :
    ∃ next, sm.judgeRate cfg ppb = .ok next ∧ Filtering next ∧ next.gmadjppb = sm.gmadjppb := by
  have size : checked |ppb| = .ok |ppb| := checked_of_abs (by rwa [abs_abs])
  unfold judgeRate
  rw [size]
  by_cases unstable : sm.rateIsStable = false
  · by_cases near : |ppb| < cfg.freqOffsetStablePpb
    · by_cases often : freqOffsetStableTrns ≤ sm.rateStableCount + 1
      · obtain ⟨alpha, inverse⟩ :
            ∃ alpha, reciprocal cfg.freqOffsetIirAlphaStableValue = .ok alpha :=
          ⟨_, if_neg (stable unstable often)⟩
        refine ⟨{ sm with
          rateStableCount := sm.rateStableCount + 1, rateIsStable := true, alpha },
          ?_, ⟨filtering.mrate, abs_reciprocal inverse⟩, rfl⟩
        simp only [bind, Except.bind, if_pos unstable, if_pos near, if_pos often, inverse]
        rfl
      · refine ⟨{ sm with rateStableCount := sm.rateStableCount + 1 }, ?_,
          ⟨filtering.mrate, filtering.alpha⟩, rfl⟩
        simp only [bind, Except.bind, if_pos unstable, if_pos near, if_neg often]
        rfl
    · refine ⟨{ sm with rateStableCount := 0 }, ?_, ⟨filtering.mrate, filtering.alpha⟩, rfl⟩
      simp only [bind, Except.bind, if_pos unstable, if_neg near]
      rfl
  · by_cases leap : cfg.freqOffsetTimeleapMaxJumpPpb < |ppb|
    · obtain ⟨alpha, inverse⟩ : ∃ alpha, reciprocal cfg.freqOffsetIirAlphaStartValue = .ok alpha :=
        ⟨_, if_neg (start (Bool.eq_true_of_not_eq_false unstable))⟩
      refine ⟨{ sm with rateStableCount := 0, rateIsStable := false, alpha }, ?_,
        ⟨filtering.mrate, abs_reciprocal inverse⟩, rfl⟩
      simp only [bind, Except.bind, if_neg unstable, if_pos leap, inverse]
      rfl
    · refine ⟨sm, ?_, filtering, rfl⟩
      simp only [bind, Except.bind, if_neg unstable, if_neg leap]
      rfl

private theorem abs_limited_le (positive : 0 ≤ maxadj) (gmadjppb : Int) :
    |limited maxadj gmadjppb| ≤ maxadj := by
  rw [limited, abs_le]
  split
  · omega
  · split <;> omega

theorem adjustRate_ok (around : GmRateSurroundings) (filtering : Filtering sm)
    (small : |ppb| ≤ 2147483647)
    (sum : |sm.gmadjppb + ppb| ≤ 2147483647) (positive : 0 ≤ cfg.maxAdjustRateOnClock) :
    ∃ next calls, sm.adjustRate cfg around ppb = .ok (next, calls) ∧ Filtering next ∧
      AdjustsWithin cfg calls := by
  have size : checked |ppb| = .ok |ppb| := checked_of_abs (by rwa [abs_abs])
  unfold adjustRate
  rw [size]
  by_cases wide : cfg.freqOffsetUpdateMratePpb < |ppb|
  · refine ⟨{ sm with
      gmadjppb := limited cfg.maxAdjustRateOnClock (sm.gmadjppb + ppb), mrate := 1 },
      [.setadj (limited cfg.maxAdjustRateOnClock (sm.gmadjppb + ppb)) around.thisClockIndex], ?_,
      ⟨rfl, filtering.alpha⟩, ?_⟩
    · simp only [bind, Except.bind, if_pos wide, checked_of_abs sum]
      rfl
    · intro adjvppb clockIndex member
      obtain ⟨rfl, -⟩ := ClockCall.setadj.inj (List.mem_singleton.mp member)
      exact abs_limited_le positive _
  · refine ⟨sm, [], ?_, filtering, fun _ _ member => nomatch member⟩
    simp only [bind, Except.bind, if_neg wide]
    rfl

/-- The rate of a turn makes no number too big, and the items that it uses are right. -/
structure ModerateRate (cfg : GmRateConfig) (sm : GmRateData) (dmts dlts : Int) : Prop where
  stable : sm.rateIsStable = false → freqOffsetStableTrns ≤ sm.rateStableCount + 1 →
    cfg.freqOffsetIirAlphaStableValue ≠ 0
  start : sm.rateIsStable = true → cfg.freqOffsetIirAlphaStartValue ≠ 0
  maxadj : 0 ≤ cfg.maxAdjustRateOnClock
  small : |sm.exactPpb dmts dlts| +
    ((|sm.gmadjppb| + max cfg.phaseOffsetAdjustByFreq 0 : Int) : ℚ) < 2147483647

theorem abs_truncated_add_le {dmts dlts : Int} (filtering : Filtering sm) (master : dmts ≠ 0)
    (own : dlts ≠ 0) (moderate : ModerateRate cfg sm dmts dlts) :
    |Binary64.truncate (Binary64.mul (Binary64.sub (sm.nrate dmts dlts) 1) 1000000000)| +
      (|sm.gmadjppb| + max cfg.phaseOffsetAdjustByFreq 0) ≤ 2147483647 := by
  have rest : (0 : ℚ) ≤ ((|sm.gmadjppb| + max cfg.phaseOffsetAdjustByFreq 0 : Int) : ℚ) := by
    exact_mod_cast add_nonneg (abs_nonneg sm.gmadjppb) (le_max_right _ _)
  have small := moderate.small
  have near := ppb_near filtering.mrate filtering.alpha master own (by linarith)
  have cut := Binary64.abs_truncate_le
    (Binary64.mul (Binary64.sub (sm.nrate dmts dlts) 1) 1000000000)
  generalize Binary64.mul (Binary64.sub (sm.nrate dmts dlts) 1) 1000000000 = offset at near cut ⊢
  have size : |offset| ≤ |sm.exactPpb dmts dlts| + 1 / 2 := by
    have triangle := abs_sub_abs_le_abs_sub offset (sm.exactPpb dmts dlts)
    linarith
  have total : ((|Binary64.truncate offset| +
      (|sm.gmadjppb| + max cfg.phaseOffsetAdjustByFreq 0) : Int) : ℚ) < (2147483648 : Int) := by
    push_cast at rest small cut ⊢
    linarith
  have bound : |Binary64.truncate offset| +
      (|sm.gmadjppb| + max cfg.phaseOffsetAdjustByFreq 0) < 2147483648 := by
    exact_mod_cast total
  omega

theorem followRate_ok {dmts dlts offsetComp : Int} (filtering : Filtering sm) (master : dmts ≠ 0)
    (own : dlts ≠ 0) (offset : |offsetComp| ≤ max cfg.phaseOffsetAdjustByFreq 0)
    (moderate : llabs (int64 (dmts - dlts)) ≤ cmsrTooBigPasstimeGap → sm.skipFreqadj ≤ 0 →
      ModerateRate cfg sm dmts dlts) :
    ∃ out, sm.followRate cfg around dmts dlts offsetComp = .ok out ∧ Filtering out.1 ∧
      AdjustsWithin cfg out.2.1 := by
  unfold followRate
  by_cases gap : cmsrTooBigPasstimeGap < llabs (int64 (dmts - dlts))
  · rw [if_pos gap]
    exact ⟨_, rfl, filtering, fun _ _ member => nomatch member⟩
  by_cases skipped : 0 < sm.skipFreqadj
  · rw [if_neg gap, if_pos skipped]
    exact ⟨_, rfl, ⟨filtering.mrate, filtering.alpha⟩, fun _ _ member => nomatch member⟩
  have fine := moderate (not_lt.mp gap) (not_lt.mp skipped)
  have room := abs_truncated_add_le filtering master own fine
  rw [if_neg gap, if_neg skipped]
  generalize Binary64.truncate
    (Binary64.mul (Binary64.sub (sm.nrate dmts dlts) 1) 1000000000) = ppb at room ⊢
  have nonneg := abs_nonneg sm.gmadjppb
  have small : |ppb| ≤ 2147483647 := by omega
  have both := abs_add_le ppb offsetComp
  have sum : |ppb + offsetComp| ≤ 2147483647 := by omega
  obtain ⟨judged, judgement, filtering', kept⟩ :=
    judgeRate_ok filtering small fine.stable fine.start
  have all := abs_add_le judged.gmadjppb (ppb + offsetComp)
  rw [kept] at all
  obtain ⟨next, calls, adjustment, filtering'', within⟩ :=
    adjustRate_ok around filtering' sum (by rw [kept]; omega) fine.maxadj
  refine ⟨(next, calls, 0), ?_, filtering'', within⟩
  simp only [checked_of_abs small, judgement, checked_of_abs sum, adjustment, bind, Except.bind]
  rfl

end Rate

theorem bind_of_ok {α β : Type} {ran : Except RateFault α} {out : α} (ok : ran = .ok out)
    (rest : α → Except RateFault β) : ran >>= rest = rest out := by
  rw [ok]
  rfl

section Turn

variable {cfg : GmRateConfig} {around : GmRateSurroundings} {sm : GmRateData} {lts mts : UInt64}

def Timed (sm : GmRateData) (lts mts : UInt64) : Prop :=
  ¬ (sm.dmts mts = 0 ∨ sm.dlts lts = 0 ∨ mts = 0 ∨ lts = 0)

def Steady (cfg : GmRateConfig) (sm : GmRateData) (lts mts : UInt64) : Prop :=
  (cfg.quickSyncAlgo = false ∨ sm.rateIsStable = true) ∧
    |int64 (dtsOf lts mts - sm.offsetGM)| < phaseNewgmCriterion

def Waits (cfg : GmRateConfig) (sm : GmRateData) (lts mts : UInt64) : Prop :=
  Steady cfg sm lts mts ∧ withinInterval cfg (sm.dlts lts) = true ∧
    (sm.offsetGMStable = .unstableAdj ∨ sm.offsetGMStable = .stableAdj)

def FollowsOffset (cfg : GmRateConfig) (sm : GmRateData) (lts mts : UInt64) : Prop :=
  Timed sm lts mts ∧ Steady cfg sm lts mts ∧ withinInterval cfg (sm.dlts lts) = false

def ComputesRate (cfg : GmRateConfig) (around : GmRateSurroundings) (sm : GmRateData)
    (lts mts : UInt64) : Prop :=
  Timed sm lts mts ∧ ¬ Waits cfg sm lts mts ∧
    llabs (int64 (sm.dmts mts - sm.dlts lts)) ≤ cmsrTooBigPasstimeGap ∧
    (sm.skipFreqadj ≤ 0 ∨ movesHw cfg around = true)

/-- The filter of the offset has a coefficient where it is used, and so has that of the rate; the
rate is small enough for its sums, and its bound is none below zero. -/
structure Moderate (cfg : GmRateConfig) (around : GmRateSurroundings) (sm : GmRateData)
    (lts mts : UInt64) : Prop where
  phaseStart : FollowsOffset cfg sm lts mts → sm.offsetGMStable = .unstableAdj →
    cfg.phaseOffsetIirAlphaStartValue ≠ 0
  phaseStable : FollowsOffset cfg sm lts mts → sm.offsetGMStable = .stableAdj →
    cfg.phaseOffsetIirAlphaStableValue ≠ 0
  rate : ComputesRate cfg around sm lts mts →
    ModerateRate cfg sm (sm.dmts mts) (sm.dlts lts)

instance (cfg : GmRateConfig) (sm : GmRateData) (dmts dlts : Int) :
    Decidable (ModerateRate cfg sm dmts dlts) :=
  decidable_of_iff ((sm.rateIsStable = false → freqOffsetStableTrns ≤ sm.rateStableCount + 1 →
        cfg.freqOffsetIirAlphaStableValue ≠ 0) ∧
      (sm.rateIsStable = true → cfg.freqOffsetIirAlphaStartValue ≠ 0) ∧
      0 ≤ cfg.maxAdjustRateOnClock ∧
      |sm.exactPpb dmts dlts| +
        ((|sm.gmadjppb| + max cfg.phaseOffsetAdjustByFreq 0 : Int) : ℚ) < 2147483647)
    ⟨fun ⟨stable, start, maxadj, small⟩ => ⟨stable, start, maxadj, small⟩,
      fun ⟨stable, start, maxadj, small⟩ => ⟨stable, start, maxadj, small⟩⟩

instance (sm : GmRateData) (lts mts : UInt64) : Decidable (Timed sm lts mts) :=
  inferInstanceAs (Decidable (¬ _))

instance (cfg : GmRateConfig) (sm : GmRateData) (lts mts : UInt64) :
    Decidable (Steady cfg sm lts mts) :=
  inferInstanceAs (Decidable (_ ∧ _))

instance (cfg : GmRateConfig) (sm : GmRateData) (lts mts : UInt64) :
    Decidable (Waits cfg sm lts mts) :=
  inferInstanceAs (Decidable (_ ∧ _))

instance (cfg : GmRateConfig) (sm : GmRateData) (lts mts : UInt64) :
    Decidable (FollowsOffset cfg sm lts mts) :=
  inferInstanceAs (Decidable (_ ∧ _))

instance (cfg : GmRateConfig) (around : GmRateSurroundings) (sm : GmRateData)
    (lts mts : UInt64) : Decidable (ComputesRate cfg around sm lts mts) :=
  inferInstanceAs (Decidable (_ ∧ _))

instance (cfg : GmRateConfig) (around : GmRateSurroundings) (sm : GmRateData)
    (lts mts : UInt64) : Decidable (Moderate cfg around sm lts mts) :=
  decidable_of_iff ((FollowsOffset cfg sm lts mts → sm.offsetGMStable = .unstableAdj →
        cfg.phaseOffsetIirAlphaStartValue ≠ 0) ∧
      (FollowsOffset cfg sm lts mts → sm.offsetGMStable = .stableAdj →
        cfg.phaseOffsetIirAlphaStableValue ≠ 0) ∧
      (ComputesRate cfg around sm lts mts → ModerateRate cfg sm (sm.dmts mts) (sm.dlts lts)))
    ⟨fun ⟨start, stable, rate⟩ => ⟨start, stable, rate⟩,
      fun ⟨start, stable, rate⟩ => ⟨start, stable, rate⟩⟩

theorem ModerateRate.congr {dmts dlts : Int} (moderate : ModerateRate cfg sm dmts dlts)
    (alpha : other.alpha = sm.alpha) (gmadjppb : other.gmadjppb = sm.gmadjppb)
    (rateIsStable : other.rateIsStable = sm.rateIsStable)
    (rateStableCount : other.rateStableCount = sm.rateStableCount) :
    ModerateRate cfg other dmts dlts := by
  obtain ⟨stable, start, maxadj, small⟩ := moderate
  refine ⟨?_, ?_, maxadj, ?_⟩
  · rwa [rateIsStable, rateStableCount]
  · rwa [rateIsStable]
  · rwa [exactPpb, alpha, gmadjppb]

theorem computeGmRateRatio_ok (filtering : Filtering sm)
    (moderate : Moderate cfg around sm lts mts) :
    ∃ out, sm.computeGmRateRatio cfg around lts mts = .ok out ∧ Filtering out.1 ∧
      AdjustsWithin cfg out.2.1 := by
  unfold computeGmRateRatio
  dsimp only
  by_cases idle : sm.dmts mts = 0 ∨ sm.dlts lts = 0 ∨ mts = 0 ∨ lts = 0
  · rw [if_pos idle]
    exact ⟨_, rfl, ⟨filtering.mrate, filtering.alpha⟩, fun _ _ member => nomatch member⟩
  have timed : Timed sm lts mts := idle
  obtain ⟨master, own, -, -⟩ : sm.dmts mts ≠ 0 ∧ sm.dlts lts ≠ 0 ∧ mts ≠ 0 ∧ lts ≠ 0 := by
    simpa only [not_or] using idle
  rw [if_neg idle]
  by_cases offsets : cfg.quickSyncAlgo = false ∨ sm.rateIsStable = true
  · rw [if_pos offsets]
    by_cases waits : Waits cfg sm lts mts
    · obtain ⟨⟨-, small⟩, within, stage⟩ := waits
      rw [setPhaseOffsetGM_waits small within stage]
      exact ⟨(sm, [], -1), rfl, filtering, fun _ _ member => nomatch member⟩
    · obtain ⟨⟨next, moved, offsetComp⟩, ran, frame⟩ :
          ∃ out, sm.setPhaseOffsetGM cfg around (dtsOf lts mts) (sm.dlts lts) = .ok out ∧
            OffsetMoved cfg around sm out :=
        setPhaseOffsetGM_moved
          (fun small within => moderate.phaseStart ⟨timed, ⟨offsets, small⟩, within⟩)
          (fun small within => moderate.phaseStable ⟨timed, ⟨offsets, small⟩, within⟩)
      have kept : Filtering next :=
        ⟨frame.mrate.trans filtering.mrate, by rw [frame.alpha]; exact filtering.alpha⟩
      rw [bind_of_ok ran]
      by_cases noop : offsetComp = setPhaseOffsetGMNoopReturn
      · rw [if_pos noop]
        exact ⟨(next, moved, -1), rfl, kept, fun _ _ member => absurd member (frame.calls _ _)⟩
      · rw [if_neg noop]
        obtain ⟨⟨last, calls, res⟩, followed, filtering', within⟩ : ∃ out,
            { next with lastLts := lts, lastMts := mts }.followRate cfg around (sm.dmts mts)
              (sm.dlts lts) offsetComp = .ok out ∧ Filtering out.1 ∧
            AdjustsWithin cfg out.2.1 := by
          refine followRate_ok ⟨kept.mrate, kept.alpha⟩ master own
            (frame.offset.resolve_left noop) ?_
          intro gap skipped
          have skips : sm.skipFreqadj ≤ 0 ∨ movesHw cfg around = true :=
            frame.skipFreqadj.imp (fun same => same.ge.trans skipped) id
          exact (moderate.rate ⟨timed, waits, gap, skips⟩).congr frame.alpha frame.gmadjppb
            frame.rateIsStable frame.rateStableCount
        rw [bind_of_ok followed]
        refine ⟨(last, moved ++ calls, res), rfl, filtering', ?_⟩
        intro adjvppb clockIndex member
        obtain before | behind := List.mem_append.mp member
        · exact absurd before (frame.calls _ _)
        · exact within _ _ behind
  · rw [if_neg offsets]
    have waits : ¬ Waits cfg sm lts mts := fun waits => offsets waits.1.1
    refine followRate_ok ⟨filtering.mrate, filtering.alpha⟩ master own (by simp) ?_
    intro gap skipped
    exact (moderate.rate ⟨timed, waits, gap, .inl skipped⟩).congr rfl rfl rfl rfl

end Turn

end GmRateData

open GmRateData

def GmRatePermitted : Except RateFault GmRateRun → GmRateEvent → Prop
  | .error _, _ => True
  | .ok _, .begin cfg => cfg.freqOffsetIirAlphaStartValue ≠ 0
  | .ok run, .clockSourceReq cfg around lts mts => Moderate cfg around run.sm lts mts

/-- No number has overflowed, nothing was divided by zero, and every adjustment of the clock was
within its bound. -/
def GmRateSafe : Except RateFault GmRateRun → Prop
  | .error _ => False
  | .ok run => ∀ entry ∈ run.applied, |entry.1| ≤ entry.2

def GmRateInvariant (state : Except RateFault GmRateRun) : Prop :=
  ∃ run, state = .ok run ∧ Filtering run.sm ∧ ∀ entry ∈ run.applied, |entry.1| ≤ entry.2

theorem initializingProc_ok {cfg : GmRateConfig} (usable : cfg.freqOffsetIirAlphaStartValue ≠ 0)
    (sm : GmRateData) : ∃ next, sm.initializingProc cfg = .ok next ∧ Filtering next := by
  obtain ⟨alpha, inverse⟩ : ∃ alpha, reciprocal cfg.freqOffsetIirAlphaStartValue = .ok alpha :=
    ⟨_, if_neg usable⟩
  unfold initializingProc
  rw [inverse]
  exact ⟨_, rfl, rfl, abs_reciprocal inverse⟩

private theorem mem_adjustments (member : adjvppb ∈ adjustments calls) :
    ∃ clockIndex, .setadj adjvppb clockIndex ∈ calls := by
  obtain ⟨call, inside, same⟩ := List.mem_filterMap.mp member
  cases call with
  | setadj value clockIndex =>
    cases same
    exact ⟨clockIndex, inside⟩
  | setoffset64 ts64 clockIndex => cases same

private theorem gmRateSystem_start (cfg : GmRateConfig) : (gmRateSystem cfg).start =
    (cleared.initializingProc cfg).map fun sm => { sm, applied := [] } := rfl

private theorem gmRateSystem_begin (cfg cfg' : GmRateConfig) (run : GmRateRun) :
    (gmRateSystem cfg).step (.ok run) (.begin cfg') =
      some ((run.sm.initializingProc cfg').map fun sm => { run with sm }) := rfl

private theorem gmRateSystem_clockSourceReq (cfg cfg' : GmRateConfig) (around : GmRateSurroundings)
    (run : GmRateRun) (lts mts : UInt64) :
    (gmRateSystem cfg).step (.ok run) (.clockSourceReq cfg' around lts mts) =
      some ((run.sm.computeGmRateRatio cfg' around lts mts).map fun out =>
        { sm := out.1
          applied := (adjustments out.2.1).map (·, cfg'.maxAdjustRateOnClock) ++ run.applied }) :=
  rfl

theorem gmRateInvariant_step (invariant : GmRateInvariant state)
    (permitted : GmRatePermitted state event)
    (step : (gmRateSystem cfg).step state event = some next) : GmRateInvariant next := by
  obtain ⟨run, rfl, filtering, within⟩ := invariant
  cases event with
  | begin cfg' =>
    obtain ⟨sm, ready, filtering'⟩ := initializingProc_ok permitted run.sm
    rw [gmRateSystem_begin, ready] at step
    exact ⟨_, (Option.some.inj step).symm, filtering', within⟩
  | clockSourceReq cfg' around lts mts =>
    obtain ⟨out, computed, filtering', adjusts⟩ := computeGmRateRatio_ok filtering permitted
    rw [gmRateSystem_clockSourceReq, computed] at step
    refine ⟨_, (Option.some.inj step).symm, filtering', ?_⟩
    intro entry member
    obtain new | old := List.mem_append.mp member
    · obtain ⟨adjvppb, applied, rfl⟩ := List.mem_map.mp new
      obtain ⟨clockIndex, called⟩ := mem_adjustments applied
      exact adjusts adjvppb clockIndex called
    · exact within entry old

/-- In every run whose configurations have their coefficients and bounds, and in which the rate
that a turn computes is moderate, no number overflows, nothing is divided by zero, and each
adjustment of the clock is within its bound. -/
theorem gm_rate_safe {cfg : GmRateConfig} {state : Except RateFault GmRateRun}
    (usable : cfg.freqOffsetIirAlphaStartValue ≠ 0)
    (reachable : (gmRateSystem cfg).Reachable GmRatePermitted state) : GmRateSafe state := by
  have invariant : GmRateInvariant state := by
    induction reachable with
    | start =>
      obtain ⟨sm, ready, filtering⟩ := initializingProc_ok usable cleared
      refine ⟨⟨sm, []⟩, ?_, filtering, fun _ member => absurd member List.not_mem_nil⟩
      rw [gmRateSystem_start, ready]
      rfl
    | step _ permitted step ih => exact gmRateInvariant_step ih permitted step
  obtain ⟨run, rfl, -, within⟩ := invariant
  exact within

def gmRateCheck : Except RateFault GmRateRun → GmRateEvent → Bool
  | .error _, _ => true
  | .ok _, .begin cfg => decide (cfg.freqOffsetIirAlphaStartValue ≠ 0)
  | .ok run, .clockSourceReq cfg around lts mts => decide (Moderate cfg around run.sm lts mts)

theorem permitted_of_check (state : Except RateFault GmRateRun) (event : GmRateEvent)
    (check : gmRateCheck state event = true) : GmRatePermitted state event := by
  cases state with
  | error fault => trivial
  | ok run =>
    cases event with
    | begin cfg | clockSourceReq cfg around lts mts =>
      simp only [gmRateCheck, decide_eq_true_eq] at check
      exact check

/-- The clock of a master that runs faster by a millionth is adjusted. -/
theorem gm_rate_safe_faster : ∃ run : GmRateRun, run.applied = [(1000, 1000000)] ∧
    GmRateSafe (.ok run) := by
  have finished : (((gmRateSystem gmRateDefaults).restrict gmRateCheck).run
      (gmRateSystem gmRateDefaults).start
      [.clockSourceReq gmRateDefaults ⟨0, 1, 1⟩ 1000000000 1000000000,
        .clockSourceReq gmRateDefaults ⟨0, 1, 1⟩ 2000000000 2000001000]).map
      (fun state => state.toOption.map GmRateRun.applied) = some (some [(1000, 1000000)]) := by
    decide +kernel
  obtain ⟨state, ran, applied⟩ := Option.map_eq_some_iff.mp finished
  have reached : (gmRateSystem gmRateDefaults).Reachable GmRatePermitted state :=
    (System.reachable_of_run ran).of_restrict permitted_of_check
  cases state with
  | error fault => cases applied
  | ok run => exact ⟨run, Option.some.inj applied, gm_rate_safe (by decide) reached⟩

/-- A master whose time jumps on by 90 ms, while the local time comes on by 10 ms, makes the
offset of the rate overflow. -/
theorem rate_overflows : ¬ ∀ state, (gmRateSystem gmRateDefaults).Reachable System.anyStep state →
    GmRateSafe state := by
  intro safe
  have finished : ((gmRateSystem gmRateDefaults).run (gmRateSystem gmRateDefaults).start
      [.clockSourceReq gmRateDefaults ⟨0, 1, 1⟩ 1000000000 1000000000,
        .clockSourceReq gmRateDefaults ⟨0, 1, 1⟩ 1010000000 1100000000]).map
      (fun state => state.toOption.isSome) = some false := by
    decide +kernel
  obtain ⟨state, ran, faulted⟩ := Option.map_eq_some_iff.mp finished
  have held := safe state (System.reachable_of_run ran)
  cases state with
  | error fault => exact held
  | ok run => cases faulted

end EnetTsn.Clock
