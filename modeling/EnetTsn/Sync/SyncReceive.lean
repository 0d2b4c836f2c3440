import EnetTsn.Library.Loop
import EnetTsn.Md.FollowUpTlv

/-!
`md_sync_receive_sm`: a Sync and its Follow_Up make up an `MDSyncReceive`. The
messages are copied into the buffers of the machine before it runs.
-/

namespace EnetTsn.Sync

open EnetTsn.Gptp EnetTsn.Library EnetTsn.Md

/-- `Timestamp`, with its seconds on 48 bits. -/
structure Timestamp where
  nanoseconds : UInt32
  secondsLsb : UInt32
  secondsMsb : UInt16
  deriving DecidableEq, Repr

/-- The time-synchronization information that the machines hand on: `MDSyncSend`. -/
structure MDSyncSend extends FollowUpInformation where
  domainIndex : UInt8
  followUpCorrectionField : ScaledNs
  sourcePortIdentity : PortIdentity
  logMessageInterval : Int8
  preciseOriginTimestamp : Timestamp
  upstreamTxTime : UInt64
  deriving DecidableEq

structure MDSyncReceive extends MDSyncSend where
  seqid : UInt16
  deriving DecidableEq

inductive SyncReceiveState where
  | init
  | discard
  | waitingForFollowUp
  | waitingForSync
  | reaction
  deriving DecidableEq, Repr

structure SyncPort where
  BEGIN : Bool
  instanceEnable : Bool
  portOper : Bool
  ptpPortEnabled : Bool
  asCapable : Bool
  asymmetryMeasurementMode : Bool
  oneStepReceive : Bool
  ingressLatency : Int64
  neighborPropDelay : UInt64
  neighborRateRatio : ℚ
  delayAsymmetry : UInt64

/-- `PORT_OPER && PTP_PORT_ENABLED && AS_CAPABLE`. -/
def SyncPort.up (port : SyncPort) : Bool :=
  port.portOper && port.ptpPortEnabled && port.asCapable

/-- `md_sync_receive_data`. -/
structure SyncReceive where
  state : SyncReceiveState
  lastState : SyncReceiveState
  rcvdSync : Bool
  rcvdFollowUp : Bool
  recSync : Memory
  recFollowUp : Memory
  syncEventIngressTimestamp : UInt64
  upstreamSyncInterval : UInt64
  followUpReceiptTimeoutTime : UInt64

/-- `sizeof(MDPTPMsgSync)`. -/
def syncSize : Nat := 44

/-- `sizeof(MDPTPMsgSyncOneStep)` and `sizeof(MDPTPMsgFollowUp)`. -/
def followUpSize : Nat := 76

/-- `GET_TWO_STEP_FLAG`. -/
def twoStepFlag (message : Memory) : Bool := message 6 &&& 0x2 != 0

def sequenceId (message : Memory) : UInt16 := UInt16.ofNat (message.load 30 2)

def correctionField (message : Memory) : UInt64 := UInt64.ofNat (message.load 8 8)

def preciseOriginTimestamp (message : Memory) : Timestamp where
  secondsMsb := UInt16.ofNat (message.load 34 2)
  secondsLsb := UInt32.ofNat (message.load 36 4)
  nanoseconds := UInt32.ofNat (message.load 40 4)

/-- The conversion of a double to `uint64_t`; a value out of range, which is undefined
in C, is taken modulo 2^64. -/
def truncateUInt64 (value : ℚ) : UInt64 := UInt64.ofInt (Binary64.truncate value)

def linkDelay (port : SyncPort) (rateRatio : ℚ) : ℚ :=
  Binary64.add
    (Binary64.div (Binary64.round port.neighborPropDelay.toNat) port.neighborRateRatio)
    (Binary64.div (Binary64.round port.delayAsymmetry.toNat) rateRatio)

/-- `setMDSyncReceive`. The phase change of a one-step Sync is read from the Follow_Up
buffer. -/
def setMDSyncReceive (port : SyncPort) (sync followUp : Memory)
    (syncEventIngressTimestamp : UInt64) : MDSyncReceive :=
  let origin := if twoStepFlag sync then followUp else sync
  let correction := correctionField sync +
    if twoStepFlag sync then correctionField followUp else 0
  let information := { followUpInformation 44 origin with
    lastGmPhaseChange := (followUpInformation 44 followUp).lastGmPhaseChange }
  let header := mdDecomposeHead sync
  { information with
    domainIndex := header.domainIndex
    seqid := header.sequenceId
    followUpCorrectionField :=
      { nsec := (correction >>> 16).toInt64, subns := correction.toUInt16, nsecMsb := 0 }
    sourcePortIdentity := header.sourcePortIdentity
    logMessageInterval := header.logMessageInterval
    preciseOriginTimestamp := preciseOriginTimestamp origin
    upstreamTxTime :=
      syncEventIngressTimestamp - truncateUInt64 (linkDelay port information.rateRatio) }

namespace SyncReceive

def init : SyncReceive where
  state := .init
  lastState := .init
  rcvdSync := false
  rcvdFollowUp := false
  recSync := Memory.zero
  recFollowUp := Memory.zero
  syncEventIngressTimestamp := 0
  upstreamSyncInterval := 0
  followUpReceiptTimeoutTime := 0

def moveTo (state : SyncReceiveState) (data : SyncReceive) : SyncReceive :=
  { data with state := state }

def again (state : SyncReceiveState) (data : SyncReceive) : SyncReceive :=
  { data with lastState := .reaction, state := state }

def allstateCondition (port : SyncPort) (data : SyncReceive) : SyncReceive :=
  if port.BEGIN || !port.instanceEnable || !port.up then again .discard data else data

def syncArrived (port : SyncPort) (twoStep : Bool) (data : SyncReceive) : Bool :=
  data.rcvdSync && port.up && twoStepFlag data.recSync == twoStep

def discardProc (data : SyncReceive) : SyncReceive :=
  { data with rcvdSync := false, rcvdFollowUp := false }

def discardCondition (port : SyncPort) (data : SyncReceive) : SyncReceive :=
  let active := !port.asymmetryMeasurementMode
  if data.syncArrived port false && active && !port.oneStepReceive then again .discard data
  else if data.syncArrived port true && active then moveTo .waitingForFollowUp data
  else if data.syncArrived port false && active && port.oneStepReceive then
    moveTo .waitingForSync data
  else moveTo .discard data

def waitingForFollowUpProc (cts64 : UInt64) (data : SyncReceive) : SyncReceive :=
  let interval := logToNsec (mdDecomposeHead data.recSync).logMessageInterval
  { data with
    rcvdSync := false
    upstreamSyncInterval := interval
    followUpReceiptTimeoutTime := cts64 + interval }

def followUpMissing (port : SyncPort) (cts64 : UInt64) (data : SyncReceive) : SyncReceive :=
  let active := !port.asymmetryMeasurementMode
  if data.syncArrived port false && port.oneStepReceive then moveTo .waitingForSync data
  else if decide (data.followUpReceiptTimeoutTime ≤ cts64) && active ||
      data.syncArrived port false && active && !port.oneStepReceive then moveTo .discard data
  else moveTo .waitingForFollowUp data

def waitingForFollowUpCondition (port : SyncPort) (cts64 : UInt64) (data : SyncReceive) :
    SyncReceive :=
  if data.syncArrived port true then again .waitingForFollowUp data
  else if data.rcvdFollowUp then
    if sequenceId data.recFollowUp = sequenceId data.recSync then moveTo .waitingForSync data
    else followUpMissing port cts64 { data with rcvdFollowUp := false }
  else followUpMissing port cts64 data

def waitingForSyncProc (data : SyncReceive) : SyncReceive :=
  { data with rcvdSync := false, rcvdFollowUp := false }

def waitingForSyncCondition (port : SyncPort) (data : SyncReceive) : SyncReceive :=
  let active := !port.asymmetryMeasurementMode
  if data.syncArrived port false && active && port.oneStepReceive then again .waitingForSync data
  else if data.syncArrived port true && active then moveTo .waitingForFollowUp data
  else if data.syncArrived port false && active && !port.oneStepReceive then moveTo .discard data
  else moveTo .waitingForSync data

def arm (port : SyncPort) (cts64 : UInt64) (stateChange : Bool) (data : SyncReceive) :
    SyncReceive × Option MDSyncReceive :=
  match data.state with
  | .init => (moveTo .discard data, none)
  | .discard =>
    (discardCondition port (if stateChange then discardProc data else data), none)
  | .waitingForFollowUp =>
    (waitingForFollowUpCondition port cts64
      (if stateChange then waitingForFollowUpProc cts64 data else data), none)
  | .waitingForSync =>
    (waitingForSyncCondition port (if stateChange then waitingForSyncProc data else data),
      if stateChange then
        some (setMDSyncReceive port data.recSync data.recFollowUp data.syncEventIngressTimestamp)
      else none)
  | .reaction => (data, none)

def machine (port : SyncPort) (cts64 : UInt64) :
    Machine SyncReceive SyncReceiveState MDSyncReceive where
  state := SyncReceive.state
  lastState := SyncReceive.lastState
  setLastState data state := { data with lastState := state }
  arm := arm port cts64

/-- `md_sync_receive_sm_recv_sync` before the machine runs: the data, and whether it runs. A
one-step Sync is larger than `recSync`, so `ub_assert_fatal` returns behind the flag; with no Sync
in the buffer so far the machine would next read a null pointer, here it reads zeroes. -/
def storeSync (port : SyncPort) (message : Memory) (ts64 : UInt64) (data : SyncReceive) :
    SyncReceive × Bool :=
  let data := { data with rcvdSync := true }
  let size := if twoStepFlag message then syncSize else followUpSize
  if syncSize < size then (data, false)
  else ({ data with
    recSync := data.recSync.copy 0 size message
    syncEventIngressTimestamp := ts64 - port.ingressLatency.toUInt64 }, true)

theorem storeSync_twoStep (port : SyncPort) (ts64 : UInt64) (data : SyncReceive)
    (twoStep : twoStepFlag message = true) :
    storeSync port message ts64 data = ({ data with
      rcvdSync := true
      recSync := data.recSync.copy 0 syncSize message
      syncEventIngressTimestamp := ts64 - port.ingressLatency.toUInt64 }, true) := by
  simp [storeSync, twoStep]

theorem storeSync_oneStep (port : SyncPort) (ts64 : UInt64) (data : SyncReceive)
    (oneStep : ¬ twoStepFlag message = true) :
    storeSync port message ts64 data = ({ data with rcvdSync := true }, false) := by
  have larger : syncSize < followUpSize := by decide
  simp [storeSync, oneStep, larger]

def storeFollowUp (message : Memory) (data : SyncReceive) : SyncReceive :=
  { data with
    rcvdFollowUp := true
    recFollowUp := data.recFollowUp.copy 0 followUpSize message }

end SyncReceive

open SyncReceive in
/-- `md_sync_receive_sm`; see `mdSyncReceiveSm_total`. -/
def mdSyncReceiveSm (port : SyncPort) (cts64 : UInt64) (data : SyncReceive) :
    Option (SyncReceive × Option MDSyncReceive) :=
  (machine port cts64).run 8 (allstateCondition port data)

namespace SyncReceive

section Conditions

theorem received_of_arrived {data : SyncReceive} (arrived : data.syncArrived port twoStep = true) :
    data.rcvdSync = true ∧ twoStepFlag data.recSync = twoStep := by
  simp only [syncArrived, Bool.and_eq_true, beq_iff_eq] at arrived
  exact ⟨arrived.1.1, arrived.2⟩

variable (port : SyncPort) (cts64 : UInt64) (data : SyncReceive)

theorem discardCondition_cases :
    discardCondition port data = again .discard data ∧ data.rcvdSync = true ∨
      discardCondition port data = moveTo .waitingForFollowUp data ∧
        data.syncArrived port true = true ∨
      discardCondition port data = moveTo .waitingForSync data ∧ port.oneStepReceive = true ∧
        data.rcvdSync = true ∨ discardCondition port data = moveTo .discard data ∧
        (port.asymmetryMeasurementMode = false →
          ∀ twoStep, data.syncArrived port twoStep = false) := by
  unfold discardCondition
  dsimp only
  split
  · rename_i oneStep
    simp only [Bool.and_eq_true] at oneStep
    exact Or.inl ⟨rfl, (received_of_arrived oneStep.1.1).1⟩
  · split
    · rename_i twoStep
      simp only [Bool.and_eq_true] at twoStep
      exact Or.inr (Or.inl ⟨rfl, twoStep.1⟩)
    · split
      · rename_i oneStep
        simp only [Bool.and_eq_true] at oneStep
        exact Or.inr (Or.inr (Or.inl ⟨rfl, oneStep.2, (received_of_arrived oneStep.1.1).1⟩))
      · refine Or.inr (Or.inr (Or.inr ⟨rfl, fun normal twoStep => ?_⟩))
        cases receives : port.oneStepReceive <;> cases twoStep <;> simp_all

theorem waitingForSyncCondition_cases :
    waitingForSyncCondition port data = again .waitingForSync data ∧ port.oneStepReceive = true ∨
      waitingForSyncCondition port data = moveTo .waitingForFollowUp data ∧
        data.syncArrived port true = true ∨
      waitingForSyncCondition port data = moveTo .discard data ∧ data.rcvdSync = true ∨
      waitingForSyncCondition port data = moveTo .waitingForSync data ∧
        (port.asymmetryMeasurementMode = false →
          ∀ twoStep, data.syncArrived port twoStep = false) := by
  unfold waitingForSyncCondition
  dsimp only
  split
  · rename_i oneStep
    simp only [Bool.and_eq_true] at oneStep
    exact Or.inl ⟨rfl, oneStep.2⟩
  · split
    · rename_i twoStep
      simp only [Bool.and_eq_true] at twoStep
      exact Or.inr (Or.inl ⟨rfl, twoStep.1⟩)
    · split
      · rename_i refused
        simp only [Bool.and_eq_true] at refused
        exact Or.inr (Or.inr (Or.inl ⟨rfl, (received_of_arrived refused.1.1).1⟩))
      · refine Or.inr (Or.inr (Or.inr ⟨rfl, fun normal twoStep => ?_⟩))
        cases receives : port.oneStepReceive <;> cases twoStep <;> simp_all

theorem followUpMissing_cases :
    followUpMissing port cts64 data = moveTo .waitingForSync data ∧ port.oneStepReceive = true ∨
      followUpMissing port cts64 data = moveTo .discard data ∨
      followUpMissing port cts64 data = moveTo .waitingForFollowUp data ∧
        (port.asymmetryMeasurementMode = false → data.syncArrived port false = false) := by
  unfold followUpMissing
  dsimp only
  split
  · rename_i oneStep
    simp only [Bool.and_eq_true] at oneStep
    exact Or.inl ⟨rfl, oneStep.2⟩
  · rename_i refused
    split
    · exact Or.inr (Or.inl rfl)
    · rename_i waits
      refine Or.inr (Or.inr ⟨rfl, fun normal => ?_⟩)
      cases arrived : data.syncArrived port false with
      | false => rfl
      | true => simp_all

theorem waitingForFollowUpCondition_cases :
    waitingForFollowUpCondition port cts64 data = again .waitingForFollowUp data ∧
        data.syncArrived port true = true ∨
      waitingForFollowUpCondition port cts64 data = moveTo .waitingForSync data ∧
        data.syncArrived port true = false ∧ data.rcvdFollowUp = true ∧
        sequenceId data.recFollowUp = sequenceId data.recSync ∨
      waitingForFollowUpCondition port cts64 data =
        followUpMissing port cts64 { data with rcvdFollowUp := false } ∧
        data.syncArrived port true = false := by
  unfold waitingForFollowUpCondition
  split
  · rename_i arrived
    exact Or.inl ⟨rfl, arrived⟩
  · rename_i none
    have absent : data.syncArrived port true = false := by simpa using none
    split
    · rename_i followUp
      split
      · rename_i same
        exact Or.inr (Or.inl ⟨rfl, absent, followUp, same⟩)
      · exact Or.inr (Or.inr ⟨rfl, absent⟩)
    · rename_i quiet
      have same : { data with rcvdFollowUp := false } = data := by
        have none : data.rcvdFollowUp = false := by simpa using quiet
        rw [← none]
      exact Or.inr (Or.inr ⟨by rw [same], absent⟩)

end Conditions

def freshWeight : SyncReceiveState → Nat
  | .init => 6
  | .reaction => 0
  | .discard => 1
  | .waitingForFollowUp => 3
  | .waitingForSync => 2

def weight (data : SyncReceive) : Nat :=
  if data.lastState = data.state ∧ data.state ≠ .init then 5 else freshWeight data.state

theorem weight_moveTo (data : SyncReceive) (state : SyncReceiveState)
    (fresh : (moveTo state data).lastState ≠ (moveTo state data).state) :
    weight (moveTo state data) = freshWeight state :=
  if_neg fun same => fresh same.1

section Weights

variable {port : SyncPort} {cts64 : UInt64} {data : SyncReceive}

theorem weight_discardCondition (last : data.lastState = .discard)
    (unstable : (discardCondition port data).lastState ≠ (discardCondition port data).state) :
    weight (discardCondition port data) < 5 ∧ data.rcvdSync = true := by
  rcases discardCondition_cases port data with
    ⟨chosen, received⟩ | ⟨chosen, arrived⟩ | ⟨chosen, _, received⟩ | ⟨chosen, _⟩
  · rw [chosen]
    exact ⟨by simp [weight, again, freshWeight], received⟩
  · rw [chosen] at unstable ⊢
    rw [weight_moveTo _ _ unstable]
    exact ⟨by decide, (received_of_arrived arrived).1⟩
  · rw [chosen] at unstable ⊢
    rw [weight_moveTo _ _ unstable]
    exact ⟨by decide, received⟩
  · rw [chosen] at unstable
    exact absurd last unstable

private theorem weight_waitingForSyncCondition (last : data.lastState = .waitingForSync)
    (unstable : (waitingForSyncCondition port data).lastState ≠
      (waitingForSyncCondition port data).state) :
    weight (waitingForSyncCondition port data) < 5 := by
  rcases waitingForSyncCondition_cases port data with
    ⟨chosen, _⟩ | ⟨chosen, _⟩ | ⟨chosen, _⟩ | ⟨chosen, _⟩
  · rw [chosen]
    simp [weight, again, freshWeight]
  · rw [chosen] at unstable ⊢
    rw [weight_moveTo _ _ unstable]
    decide
  · rw [chosen] at unstable ⊢
    rw [weight_moveTo _ _ unstable]
    decide
  · rw [chosen] at unstable
    exact absurd last unstable

variable (last : data.lastState = .waitingForFollowUp)
include last

private theorem weight_followUpMissing (unstable : (followUpMissing port cts64 data).lastState ≠
      (followUpMissing port cts64 data).state) : weight (followUpMissing port cts64 data) < 3 := by
  rcases followUpMissing_cases port cts64 data with ⟨chosen, _⟩ | chosen | ⟨chosen, _⟩
  · rw [chosen] at unstable ⊢
    rw [weight_moveTo _ _ unstable]
    decide
  · rw [chosen] at unstable ⊢
    rw [weight_moveTo _ _ unstable]
    decide
  · rw [chosen] at unstable
    exact absurd last unstable

theorem weight_waitingForFollowUpCondition
    (unstable : (waitingForFollowUpCondition port cts64 data).lastState ≠
      (waitingForFollowUpCondition port cts64 data).state) :
    weight (waitingForFollowUpCondition port cts64 data) < 3 ∨
      weight (waitingForFollowUpCondition port cts64 data) < 5 ∧ data.rcvdSync = true := by
  rcases waitingForFollowUpCondition_cases port cts64 data with
    ⟨chosen, arrived⟩ | ⟨chosen, _⟩ | ⟨chosen, _⟩
  · rw [chosen]
    exact Or.inr ⟨by simp [weight, again, freshWeight], (received_of_arrived arrived).1⟩
  · rw [chosen] at unstable ⊢
    rw [weight_moveTo _ _ unstable]
    exact Or.inl (by decide)
  · rw [chosen] at unstable ⊢
    exact Or.inl (weight_followUpMissing last unstable)

end Weights

theorem descends (port : SyncPort) (cts64 : UInt64) :
    (machine port cts64).Descends weight := by
  intro data none unstable
  simp only [Machine.switch, machine] at none unstable ⊢
  cases state : data.state
  all_goals simp only [arm, state] at none unstable ⊢
  case init =>
    rw [weight_moveTo _ _ unstable]
    simp [weight, state, freshWeight]
  case reaction => simp at unstable
  case discard =>
    by_cases same : data.lastState = .discard
    · have small := weight_discardCondition (by simp [same]) unstable
      simpa [weight, state, same, freshWeight] using small.1
    · have impossible := weight_discardCondition (by simp [same, discardProc]) unstable
      simp [same, discardProc] at impossible
  case waitingForSync =>
    by_cases same : data.lastState = .waitingForSync
    · have small := weight_waitingForSyncCondition (by simp [same]) unstable
      simpa [weight, state, same, freshWeight] using small
    · simp [same] at none
  case waitingForFollowUp =>
    by_cases same : data.lastState = .waitingForFollowUp
    · have top : weight data = 5 := by simp [weight, state, same]
      rw [top]
      rcases weight_waitingForFollowUpCondition (by simp [same]) unstable with small | ⟨small, _⟩
      · omega
      · exact small
    · have top : weight data = 3 := by simp [weight, state, same, freshWeight]
      rw [top]
      rcases weight_waitingForFollowUpCondition (by simp [same, waitingForFollowUpProc]) unstable
        with small | ⟨_, impossible⟩
      · exact small
      · simp [same, waitingForFollowUpProc] at impossible

end SyncReceive

open SyncReceive in
theorem mdSyncReceiveSm_total (port : SyncPort) (cts64 : UInt64) (data : SyncReceive) :
    ∃ next emitted, mdSyncReceiveSm port cts64 data = some (next, emitted) := by
  refine (descends port cts64).total ?_
  unfold weight freshWeight
  split
  · omega
  · split <;> omega

end EnetTsn.Sync
