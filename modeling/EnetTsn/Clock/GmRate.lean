import EnetTsn.Library.Binary64
import EnetTsn.Library.Run

namespace EnetTsn.Clock

open EnetTsn.Library

inductive OffsetState where
  | notAdj
  | startAdj
  | unstableAdj
  | stableAdj
  deriving DecidableEq

structure GmRateConfig where
  clockComputeIntervalMsec : Int
  phaseOffsetIirAlphaStartValue : Int
  phaseOffsetIirAlphaStableValue : Int
  useHwPhaseAdjustment : Bool
  skipFreqadjCountMax : Int
  phaseOffsetAdjustByFreq : Int
  phaseAdjustmentByFreq : Bool
  quickSyncAlgo : Bool
  freqOffsetIirAlphaStartValue : Int
  freqOffsetIirAlphaStableValue : Int
  freqOffsetStablePpb : Int
  freqOffsetTimeleapMaxJumpPpb : Int
  freqOffsetUpdateMratePpb : Int
  maxAdjustRateOnClock : Int

/-- What the computation finds in `ptasg` and of the clock. -/
structure GmRateSurroundings where
  domainIndex : Nat
  thisClockIndex : Int
  /-- `gptpclock_get_gmchange_ind`. -/
  gmchangeInd : Int

/-- The part of `clock_master_sync_receive_data_t` for the rate and the offset. -/
structure GmRateData where
  mrate : ℚ
  lastLts : UInt64
  lastMts : UInt64
  gmadjppb : Int
  alpha : ℚ
  rateStableCount : Int
  rateIsStable : Bool
  offsetGM : Int
  offsetGMStableCount : Int
  offsetGMStable : OffsetState
  gmchangeInd : Int
  skipFreqadj : Int

inductive ClockCall where
  | setoffset64 (ts64 : Int) (clockIndex : Int)
  | setadj (adjvppb : Int) (clockIndex : Int)
  deriving DecidableEq

inductive RateFault where
  | divideByZero
  | overflow
  deriving DecidableEq

def cmsrTooBigPasstimeGap : Int := 100000000

def freqOffsetStableTrns : Int := 3

def phaseOffsetStableTrns : Int := 3

def phaseNewgmCriterion : Int := 1000000

def phaseStableCriterion : Int := 10000

def phaseUnstableCriterion : Int := 30000

def setPhaseOffsetGMNoopReturn : Int := -99999999

def movesHw (cfg : GmRateConfig) (around : GmRateSurroundings) : Bool :=
  cfg.useHwPhaseAdjustment && around.domainIndex == 0

/-- A value as `int64_t`. -/
def int64 (value : Int) : Int := Int.bmod value 18446744073709551616

/-- A value as `int32_t`. -/
def int32 (value : Int) : Int := Int.bmod value 4294967296

def llabs (value : Int) : Int := int64 |value|

/-- A result of type `int`. -/
def checked (value : Int) : Except RateFault Int :=
  if -2147483648 ≤ value ∧ value ≤ 2147483647 then .ok value else .error .overflow

/-- `1.0/value`. -/
def reciprocal (value : Int) : Except RateFault ℚ :=
  if value = 0 then .error .divideByZero else .ok (Binary64.div 1 value)

def filterOffset (alpha dts offsetGM : Int) : Except RateFault Int :=
  if alpha = 0 then .error .divideByZero
  else .ok (int64 (dts.tdiv alpha + (alpha - 1) * offsetGM.tdiv alpha))

def withinInterval (cfg : GmRateConfig) (dlts : Int) : Bool :=
  decide (0 < dlts ∧ dlts < int32 (cfg.clockComputeIntervalMsec * 1000000))

namespace GmRateData

/-- The end of `set_phase_offsetGM`: the new offset goes to the clock, or its difference to the
old one is handed over to be made up for by the rate. -/
def moveOffset (cfg : GmRateConfig) (around : GmRateSurroundings) (sm : GmRateData)
    (offsetGM : Int) : GmRateData × List ClockCall × Int :=
  let od := int64 (offsetGM - sm.offsetGM)
  let padjClockindex := if movesHw cfg around then around.thisClockIndex else 0
  if llabs od < cfg.phaseOffsetAdjustByFreq ∧ cfg.phaseAdjustmentByFreq then (sm, [], int32 od)
  else if movesHw cfg around then
    ({ sm with offsetGM := 0, skipFreqadj := cfg.skipFreqadjCountMax },
      [.setoffset64 offsetGM padjClockindex], 0)
  else ({ sm with offsetGM := offsetGM }, [.setoffset64 offsetGM padjClockindex], 0)

/-- The switch of `set_phase_offsetGM`, for the size of the change. -/
def followOffset (cfg : GmRateConfig) (around : GmRateSurroundings) (sm : GmRateData)
    (dts dofg : Int) : Except RateFault (GmRateData × List ClockCall × Int) :=
  match sm.offsetGMStable with
  | .notAdj | .startAdj =>
    .ok ({ sm with offsetGMStable := .unstableAdj, offsetGMStableCount := 0 }.moveOffset cfg around
      dts)
  | .unstableAdj => do
    let offsetGM ← filterOffset cfg.phaseOffsetIirAlphaStartValue dts sm.offsetGM
    let sm :=
      if dofg < phaseStableCriterion then
        if phaseOffsetStableTrns ≤ sm.offsetGMStableCount + 1 then
          { sm with
            offsetGMStable := .stableAdj
            gmchangeInd := around.gmchangeInd
            offsetGMStableCount := 0 }
        else { sm with offsetGMStableCount := sm.offsetGMStableCount + 1 }
      else { sm with offsetGMStableCount := 0 }
    return sm.moveOffset cfg around offsetGM
  | .stableAdj =>
    if sm.gmchangeInd ≠ around.gmchangeInd then
      .ok ({ sm with offsetGMStable := .startAdj }, [], 0)
    else do
      let offsetGM ← filterOffset cfg.phaseOffsetIirAlphaStableValue dts sm.offsetGM
      let sm :=
        if phaseUnstableCriterion < dofg then { sm with offsetGMStable := .unstableAdj } else sm
      return sm.moveOffset cfg around offsetGM

def setPhaseOffsetGM (cfg : GmRateConfig) (around : GmRateSurroundings) (sm : GmRateData)
    (dts dlts : Int) : Except RateFault (GmRateData × List ClockCall × Int) :=
  let dofg := |int64 (dts - sm.offsetGM)|
  -- the first big jump of a stable clock is only noted
  if phaseNewgmCriterion ≤ dofg ∧ sm.gmchangeInd ≠ 0 ∧ sm.gmchangeInd = around.gmchangeInd ∧
      sm.offsetGMStable ≠ .notAdj then
    .ok ({ sm with offsetGMStable := .notAdj }, [], 0)
  else
    let sm := if phaseNewgmCriterion ≤ dofg then { sm with offsetGMStable := .startAdj } else sm
    if withinInterval cfg dlts ∧
        (sm.offsetGMStable = .unstableAdj ∨ sm.offsetGMStable = .stableAdj) then
      .ok (sm, [], setPhaseOffsetGMNoopReturn)
    else sm.followOffset cfg around dts dofg

def nrate (sm : GmRateData) (dmts dlts : Int) : ℚ :=
  Binary64.add
    (Binary64.mul sm.alpha (Binary64.div (Binary64.round dmts) (Binary64.round dlts)))
    (Binary64.mul (Binary64.sub 1 sm.alpha) sm.mrate)

def judgeRate (cfg : GmRateConfig) (sm : GmRateData) (ppb : Int) : Except RateFault GmRateData := do
  let size ← checked |ppb|
  if sm.rateIsStable = false then
    if size < cfg.freqOffsetStablePpb then
      if freqOffsetStableTrns ≤ sm.rateStableCount + 1 then
        let alpha ← reciprocal cfg.freqOffsetIirAlphaStableValue
        return { sm with rateStableCount := sm.rateStableCount + 1, rateIsStable := true, alpha }
      else return { sm with rateStableCount := sm.rateStableCount + 1 }
    else return { sm with rateStableCount := 0 }
  else if cfg.freqOffsetTimeleapMaxJumpPpb < size then
    let alpha ← reciprocal cfg.freqOffsetIirAlphaStartValue
    return { sm with rateStableCount := 0, rateIsStable := false, alpha }
  else return sm

def limited (maxadj gmadjppb : Int) : Int :=
  if maxadj < gmadjppb then maxadj else if gmadjppb < -maxadj then -maxadj else gmadjppb

def adjustRate (cfg : GmRateConfig) (around : GmRateSurroundings) (sm : GmRateData) (ppb : Int) :
    Except RateFault (GmRateData × List ClockCall) := do
  let size ← checked |ppb|
  if cfg.freqOffsetUpdateMratePpb < size then
    let sum ← checked (sm.gmadjppb + ppb)
    let gmadjppb := limited cfg.maxAdjustRateOnClock sum
    return ({ sm with gmadjppb, mrate := 1 }, [.setadj gmadjppb around.thisClockIndex])
  else return (sm, [])

/-- The rest of `computeGmRateRatio`, when the offset is done. -/
def followRate (cfg : GmRateConfig) (around : GmRateSurroundings) (sm : GmRateData)
    (dmts dlts offsetComp : Int) : Except RateFault (GmRateData × List ClockCall × Int) :=
  if cmsrTooBigPasstimeGap < llabs (int64 (dmts - dlts)) then .ok (sm, [], -1)
  else if 0 < sm.skipFreqadj then
    .ok ({ sm with skipFreqadj := sm.skipFreqadj - 1 }, [], -1)
  else do
    let ppb ← checked (Binary64.truncate
      (Binary64.mul (Binary64.sub (sm.nrate dmts dlts) 1) 1000000000))
    let sm ← sm.judgeRate cfg ppb
    let ppb ← checked (ppb + offsetComp)
    let (sm, calls) ← sm.adjustRate cfg around ppb
    return (sm, calls, 0)

def dlts (sm : GmRateData) (lts : UInt64) : Int := int64 (lts - sm.lastLts).toNat

def dmts (sm : GmRateData) (mts : UInt64) : Int := int64 (mts - sm.lastMts).toNat

/-- The offset of the master, `dts`. -/
def dtsOf (lts mts : UInt64) : Int := int64 (mts - lts).toNat

/-- `computeGmRateRatio`, with the calls that change the clock. -/
def computeGmRateRatio (cfg : GmRateConfig) (around : GmRateSurroundings) (sm : GmRateData)
    (lts mts : UInt64) : Except RateFault (GmRateData × List ClockCall × Int) :=
  let dlts := sm.dlts lts
  let dmts := sm.dmts mts
  if dmts = 0 ∨ dlts = 0 ∨ mts = 0 ∨ lts = 0 then
    .ok ({ sm with
      rateStableCount := 0
      rateIsStable := false
      offsetGMStable := .startAdj
      offsetGMStableCount := 0
      skipFreqadj := 1 }, [], -1)
  else
    let dts := dtsOf lts mts
    if cfg.quickSyncAlgo = false ∨ sm.rateIsStable = true then do
      let (sm, moved, offsetComp) ← sm.setPhaseOffsetGM cfg around dts dlts
      if offsetComp = setPhaseOffsetGMNoopReturn then return (sm, moved, -1)
      else
        let (sm, calls, res) ←
          { sm with lastLts := lts, lastMts := mts }.followRate cfg around dmts dlts offsetComp
        return (sm, moved ++ calls, res)
    else { sm with lastLts := lts, lastMts := mts }.followRate cfg around dmts dlts 0

def initializingProc (cfg : GmRateConfig) (sm : GmRateData) : Except RateFault GmRateData := do
  let alpha ← reciprocal cfg.freqOffsetIirAlphaStartValue
  return { sm with
    mrate := 1
    alpha
    lastLts := 0
    lastMts := 0
    offsetGM := 0
    rateStableCount := 0
    rateIsStable := false
    offsetGMStableCount := 0
    skipFreqadj := 0 }

def cleared : GmRateData where
  mrate := 0
  lastLts := 0
  lastMts := 0
  gmadjppb := 0
  alpha := 0
  rateStableCount := 0
  rateIsStable := false
  offsetGM := 0
  offsetGMStableCount := 0
  offsetGMStable := .startAdj
  gmchangeInd := 0
  skipFreqadj := 0

end GmRateData

/-- The values of `gptp_nonyangconfig.xml`. -/
def gmRateDefaults : GmRateConfig where
  clockComputeIntervalMsec := 1000
  phaseOffsetIirAlphaStartValue := 2
  phaseOffsetIirAlphaStableValue := 10
  useHwPhaseAdjustment := false
  skipFreqadjCountMax := 2
  phaseOffsetAdjustByFreq := 100000
  phaseAdjustmentByFreq := true
  quickSyncAlgo := false
  freqOffsetIirAlphaStartValue := 2
  freqOffsetIirAlphaStableValue := 10
  freqOffsetStablePpb := 100
  freqOffsetTimeleapMaxJumpPpb := 800
  freqOffsetUpdateMratePpb := 10
  maxAdjustRateOnClock := 1000000

/-- What happens to the data: the state machine begins anew, or a request comes with the local
time and the time of the master. -/
inductive GmRateEvent where
  | begin (cfg : GmRateConfig)
  | clockSourceReq (cfg : GmRateConfig) (around : GmRateSurroundings) (lts mts : UInt64)

/-- The data, and the adjustments that the clock got, each with the bound of its configuration. -/
structure GmRateRun where
  sm : GmRateData
  applied : List (Int × Int)

def adjustments (calls : List ClockCall) : List Int :=
  calls.filterMap fun
    | .setadj adjvppb _ => some adjvppb
    | .setoffset64 _ _ => none

/-- The computation for any times, from the start of the state machine on; a fault ends it. -/
def gmRateSystem (cfg : GmRateConfig) : System (Except RateFault GmRateRun) GmRateEvent where
  start := (GmRateData.cleared.initializingProc cfg).map fun sm => { sm, applied := [] }
  step
    | .error _, _ => none
    | .ok run, .begin cfg => some ((run.sm.initializingProc cfg).map fun sm =>
        { run with sm })
    | .ok run, .clockSourceReq cfg around lts mts =>
      some ((run.sm.computeGmRateRatio cfg around lts mts).map fun out =>
        { sm := out.1
          applied := (adjustments out.2.1).map (·, cfg.maxAdjustRateOnClock) ++ run.applied })

end EnetTsn.Clock
