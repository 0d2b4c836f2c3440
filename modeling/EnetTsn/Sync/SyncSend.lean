import EnetTsn.Sync.PortSync

namespace EnetTsn.Sync

open EnetTsn.Gptp EnetTsn.Library EnetTsn.Md

structure SyncSendPort extends EnabledPort where
  asymmetryMeasurementMode : Bool
  oneStepTxOper : Bool
  settings : HeaderSettings
  currentLogSyncInterval : Int8
  egressLatency : Int64
  /-- `gptpclock_we_are_gm`. -/
  weAreGm : Bool
  /-- `gptpnet_txtslost_time`. -/
  txtsLostTime : UInt64
  /-- `rand() & 0xffff`. -/
  random : UInt16
  /-- `gptpclock_getts64`. -/
  getts64 : UInt64
  sendbuf : Memory
  sendSync : SendResult
  sendFollowUp : SendResult
  sendOneStep : SendResult

inductive SyncSendState where
  | init
  | initializing
  | sendSyncTwoStep
  | sendFollowUp
  | sendSyncOneStep
  | setCorrectionField
  | reaction
  deriving DecidableEq, Repr

inductive SyncMessageKind where
  | sync
  | followUp
  | syncOneStep
  deriving DecidableEq, Repr

structure SyncMessage where
  kind : SyncMessageKind
  port : SyncSendPort
  sequenceId : UInt16
  value : MDSyncSend
  syncTs : UInt64

/-- `md_sync_send_data`, with the sequenceId of the port and the messages sent so far. -/
structure SyncSend where
  state : SyncSendState
  lastState : SyncSendState
  rcvdMDSync : Bool
  rcvdMDSyncPtr : MDSyncSend
  rcvdMDTimestampReceive : Bool
  syncSequenceId : UInt16
  syncTs : UInt64
  mockTxts64 : UInt64
  txSyncTime : UInt64
  sent : List SyncMessage

def composeSyncHeader (port : SyncSendPort) (value : MDSyncSend) (sequenceId : UInt16)
    (ssize : Nat) : Memory :=
  mdHeaderCompose port.settings .sync (UInt16.ofNat ssize) value.sourcePortIdentity.clockIdentity
      value.sourcePortIdentity.portIndex sequenceId port.currentLogSyncInterval port.sendbuf
    |>.store 33 1 value.logMessageInterval.toUInt8.toNat
    |>.store 4 1 value.domainIndex.toNat

/-- `composeSyncFupTLV`. The sum of the nanoseconds is taken on 32 bits. -/
def composeSyncFupTLV (value : MDSyncSend) (cf : UInt64) (memory : Memory) : Memory :=
  let origin := value.preciseOriginTimestamp
  let tsns := (origin.nanoseconds.toUInt64 + cf).toUInt32
  let carry := decide (UInt32.ofNat ubSecNs ≤ tsns)
  let tslsb := if carry then origin.secondsLsb + 1 else origin.secondsLsb
  let tsmsb := if carry && tslsb == 0 then origin.secondsMsb + 1 else origin.secondsMsb
  memory
    |>.store 34 2 tsmsb.toNat
    |>.store 36 4 tslsb.toNat
    |>.store 40 4 (if carry then tsns - UInt32.ofNat ubSecNs else tsns).toNat
    |> mdFollowupInformationTlvCompose 44 value.toFollowUpInformation

def receivedCorrection (value : MDSyncSend) : UInt64 :=
  (value.followUpCorrectionField.nsec.toUInt64 <<< 16) +
    value.followUpCorrectionField.subns.toUInt64

def residenceTime (value : MDSyncSend) (syncTs : UInt64) : UInt64 :=
  truncateUInt64
    (Binary64.mul value.rateRatio (Binary64.round (syncTs - value.upstreamTxTime).toNat))

def relayedCorrection (value : MDSyncSend) (syncTs : UInt64) : UInt64 :=
  let residence := residenceTime value syncTs
  receivedCorrection value + ((residence <<< 16) + residence.toUInt16.toUInt64)

/-- `setFollowUp_txFollowUp` up to the transmission. -/
def setFollowUp (port : SyncSendPort) (value : MDSyncSend) (sequenceId : UInt16)
    (syncTs : UInt64) : Memory :=
  let head := mdHeaderTemplate port.settings .followUp (UInt16.ofNat followUpSize)
    value.sourcePortIdentity sequenceId port.currentLogSyncInterval
  let correction := if port.weAreGm then 0 else relayedCorrection value syncTs
  let cf := if port.weAreGm then syncTs - value.upstreamTxTime else 0
  mdComposeHead { head with correctionField := correction.toInt64, domainIndex := value.domainIndex }
      (port.sendbuf.copy 0 followUpSize Memory.zero)
    |> composeSyncFupTLV value cf

/-- `setSyncOneStep` up to the transmission. -/
def setSyncOneStep (port : SyncSendPort) (value : MDSyncSend) (sequenceId : UInt16) : Memory :=
  composeSyncHeader port value sequenceId followUpSize
    |>.store 8 8 (if port.weAreGm then 0 else receivedCorrection value).toNat
    |> composeSyncFupTLV value 0

def SyncMessage.frame (message : SyncMessage) : Memory :=
  match message.kind with
  | .sync => composeSyncHeader message.port message.value message.sequenceId syncSize
  | .followUp => setFollowUp message.port message.value message.sequenceId message.syncTs
  | .syncOneStep => setSyncOneStep message.port message.value message.sequenceId

namespace SyncSend

/-- `INIT_SM_DATA`. -/
def init : SyncSend where
  state := .init
  lastState := .init
  rcvdMDSync := false
  rcvdMDSyncPtr :=
    { rateRatio := 0, gmTimeBaseIndicator := 0, lastGmFreqChange := 0
      lastGmPhaseChange := { subns := 0, nsec := 0, nsecMsb := 0 }
      domainIndex := 0
      followUpCorrectionField := { subns := 0, nsec := 0, nsecMsb := 0 }
      sourcePortIdentity := { clockIdentity := ClockIdentity.fill 0, portIndex := 0 }
      logMessageInterval := 0
      preciseOriginTimestamp := { nanoseconds := 0, secondsLsb := 0, secondsMsb := 0 }
      upstreamTxTime := 0 }
  rcvdMDTimestampReceive := false
  syncSequenceId := 0
  syncTs := 0
  mockTxts64 := 0
  txSyncTime := 0
  sent := []

def moveTo (state : SyncSendState) (data : SyncSend) : SyncSend := { data with state := state }

def again (state : SyncSendState) (data : SyncSend) : SyncSend :=
  { data with lastState := .reaction, state := state }

def allstateCondition (port : SyncSendPort) (data : SyncSend) : SyncSend :=
  if port.BEGIN || !port.instanceEnable || !port.up then again .initializing data else data

def initializingProc (port : SyncSendPort) (data : SyncSend) : SyncSend :=
  { data with
    rcvdMDSync := false, rcvdMDTimestampReceive := false, syncSequenceId := port.random }

def requested (port : SyncSendPort) (oneStep : Bool) (data : SyncSend) : Bool :=
  data.rcvdMDSync && port.up && !port.asymmetryMeasurementMode && port.oneStepTxOper == oneStep

def requestedCondition (port : SyncSendPort) (state : SyncSendState) (data : SyncSend) :
    SyncSendState :=
  if data.requested port false then .sendSyncTwoStep
  else if data.requested port true then .sendSyncOneStep
  else state

def compose (kind : SyncMessageKind) (port : SyncSendPort) (data : SyncSend) : SyncMessage where
  kind := kind
  port := port
  sequenceId := data.syncSequenceId
  value := data.rcvdMDSyncPtr
  syncTs := data.syncTs

def send (result : SendResult) (kind : SyncMessageKind) (port : SyncSendPort) (data : SyncSend) :
    SyncSend :=
  match result with
  | .sent => { data with sent := data.sent ++ [data.compose kind port] }
  | .failed | .skipped => data

/-- `send_sync_two_step_proc`: a skipped Sync gets a timestamp of the clock. -/
def sendSyncTwoStepProc (port : SyncSendPort) (cts64 : UInt64) (data : SyncSend) :
    SyncSend × Bool :=
  let data := { data with rcvdMDSync := false }
  match port.sendSync with
  | .failed => ({ data with lastState := .reaction }, false)
  | .skipped => ({ data with mockTxts64 := port.getts64, txSyncTime := cts64 }, true)
  | .sent => ({ data.send .sent .sync port with txSyncTime := cts64 }, true)

/-- A timestamp is taken for that of the current Sync; a lost one lets the Sync be
sent again. -/
def sendSyncTwoStepCondition (port : SyncSendPort) (cts64 : UInt64) (data : SyncSend) :
    SyncSend :=
  if data.rcvdMDTimestampReceive then moveTo .sendFollowUp data
  else if data.mockTxts64 != 0 then
    moveTo .sendFollowUp { data with syncTs := data.mockTxts64, mockTxts64 := 0 }
  else if port.txtsLostTime ≤ cts64 - data.txSyncTime then again .sendSyncTwoStep data
  else data

/-- `send_follow_up_proc`: a Follow_Up that could not be sent is tried again. -/
def sendFollowUpProc (port : SyncSendPort) (data : SyncSend) : SyncSend × Option Bool :=
  let data := { data with rcvdMDTimestampReceive := false }
  match port.sendFollowUp with
  | .failed => ({ data with lastState := .reaction }, some false)
  | result =>
    ({ data.send result .followUp port with syncSequenceId := data.syncSequenceId + 1 }, none)

/-- `send_sync_one_step_proc`: the result of `gptpnet_send` is its length. -/
def sendSyncOneStepProc (port : SyncSendPort) (data : SyncSend) : SyncSend :=
  let data := { data with rcvdMDSync := false }
  match port.sendOneStep with
  | .failed => data
  | .skipped => { data with mockTxts64 := port.getts64 }
  | .sent => data.send .sent .syncOneStep port

def sendSyncOneStepCondition (data : SyncSend) : SyncSendState :=
  if data.rcvdMDTimestampReceive then .setCorrectionField else .sendSyncOneStep

def setCorrectionFieldCondition (port : SyncSendPort) (data : SyncSend) : SyncSendState :=
  if data.requested port false then .sendSyncTwoStep else .setCorrectionField

def arm (port : SyncSendPort) (cts64 : UInt64) (stateChange : Bool) (data : SyncSend) :
    SyncSend × Option Bool :=
  match data.state with
  | .init => (moveTo .initializing data, none)
  | .initializing =>
    let entered := if stateChange then initializingProc port data else data
    (moveTo (requestedCondition port .initializing entered) entered, none)
  | .sendSyncTwoStep =>
    if stateChange then
      ((sendSyncTwoStepProc port cts64 data).1, some (sendSyncTwoStepProc port cts64 data).2)
    else (sendSyncTwoStepCondition port cts64 data, none)
  | .sendFollowUp =>
    if stateChange then sendFollowUpProc port data
    else (moveTo (requestedCondition port .sendFollowUp data) data, none)
  | .sendSyncOneStep =>
    let entered := if stateChange then sendSyncOneStepProc port data else data
    (moveTo (sendSyncOneStepCondition entered) entered, none)
  | .setCorrectionField =>
    let entered := if stateChange then { data with rcvdMDTimestampReceive := false } else data
    (moveTo (setCorrectionFieldCondition port entered) entered, none)
  | .reaction => (data, none)

def machine (port : SyncSendPort) (cts64 : UInt64) : Machine SyncSend SyncSendState Bool where
  state := SyncSend.state
  lastState := SyncSend.lastState
  setLastState data state := { data with lastState := state }
  arm := arm port cts64

end SyncSend

open SyncSend in
/-- `md_sync_send_sm`; the result is there when it returns early, with a Sync sent or
a transmission failed. -/
def mdSyncSendSm (port : SyncSendPort) (cts64 : UInt64) (data : SyncSend) :
    Option (SyncSend × Option Bool) :=
  (machine port cts64).run 8 (allstateCondition port data)

namespace SyncSend

def freshWeight : SyncSendState → Nat
  | .init => 3
  | .sendSyncOneStep => 2
  | .setCorrectionField => 1
  | .initializing | .sendSyncTwoStep | .sendFollowUp | .reaction => 0

def weight (data : SyncSend) : Nat :=
  if data.lastState = data.state ∧ data.state ≠ .init then 3 else freshWeight data.state

theorem weight_moveTo (data : SyncSend) (state : SyncSendState)
    (fresh : (moveTo state data).lastState ≠ (moveTo state data).state) :
    weight (moveTo state data) = freshWeight state :=
  if_neg fun same => fresh same.1

private theorem requestedCondition_cases (port : SyncSendPort) (state : SyncSendState) (data : SyncSend) :
    requestedCondition port state data = state ∨ data.rcvdMDSync = true ∧
      (requestedCondition port state data = .sendSyncTwoStep ∨
        requestedCondition port state data = .sendSyncOneStep) := by
  unfold requestedCondition
  split
  · rename_i twoStep
    simp only [requested, Bool.and_eq_true] at twoStep
    exact Or.inr ⟨twoStep.1.1.1, Or.inl rfl⟩
  · split
    · rename_i oneStep
      simp only [requested, Bool.and_eq_true] at oneStep
      exact Or.inr ⟨oneStep.1.1.1, Or.inr rfl⟩
    · exact Or.inl rfl

theorem weight_requestedCondition {state : SyncSendState} (last : data.lastState = state)
    (unstable : (moveTo (requestedCondition port state data) data).lastState ≠
      (moveTo (requestedCondition port state data) data).state) :
    weight (moveTo (requestedCondition port state data) data) < 3 ∧ data.rcvdMDSync = true := by
  rw [weight_moveTo _ _ unstable]
  rcases requestedCondition_cases port state data with stays | ⟨received, chosen | chosen⟩
  · exact absurd (last.trans stays.symm) unstable
  · rw [chosen]
    exact ⟨by decide, received⟩
  · rw [chosen]
    exact ⟨by decide, received⟩

private theorem weight_sendSyncOneStepCondition (last : data.lastState = .sendSyncOneStep)
    (unstable : (moveTo (sendSyncOneStepCondition data) data).lastState ≠
      (moveTo (sendSyncOneStepCondition data) data).state) :
    weight (moveTo (sendSyncOneStepCondition data) data) = 1 := by
  rw [weight_moveTo _ _ unstable]
  unfold sendSyncOneStepCondition at unstable ⊢
  split at unstable
  · rename_i received
    rw [if_pos received]
    rfl
  · exact absurd last unstable

private theorem weight_setCorrectionFieldCondition (last : data.lastState = .setCorrectionField)
    (unstable : (moveTo (setCorrectionFieldCondition port data) data).lastState ≠
      (moveTo (setCorrectionFieldCondition port data) data).state) :
    weight (moveTo (setCorrectionFieldCondition port data) data) = 0 := by
  rw [weight_moveTo _ _ unstable]
  unfold setCorrectionFieldCondition at unstable ⊢
  split at unstable
  · rename_i requested
    rw [if_pos requested]
    rfl
  · exact absurd last unstable

variable (port : SyncSendPort) (cts64 : UInt64)

theorem sendSyncTwoStepCondition_cases (data : SyncSend) :
    sendSyncTwoStepCondition port cts64 data = moveTo .sendFollowUp data ∧
        data.rcvdMDTimestampReceive = true ∨ sendSyncTwoStepCondition port cts64 data =
        moveTo .sendFollowUp { data with syncTs := data.mockTxts64, mockTxts64 := 0 } ∧
        data.rcvdMDTimestampReceive = false ∧ data.mockTxts64 ≠ 0 ∨
      sendSyncTwoStepCondition port cts64 data = again .sendSyncTwoStep data ∧
        data.rcvdMDTimestampReceive = false ∨
      sendSyncTwoStepCondition port cts64 data = data ∧ data.rcvdMDTimestampReceive = false := by
  unfold sendSyncTwoStepCondition
  split
  · rename_i received
    exact Or.inl ⟨rfl, received⟩
  · rename_i none
    have absent : data.rcvdMDTimestampReceive = false := by simpa using none
    split
    · rename_i mock
      exact Or.inr (Or.inl ⟨rfl, absent, by simpa using mock⟩)
    · split
      · exact Or.inr (Or.inr (Or.inl ⟨rfl, absent⟩))
      · exact Or.inr (Or.inr (Or.inr ⟨rfl, absent⟩))

private theorem stored_sendSyncOneStepProc (data : SyncSend) :
    (sendSyncOneStepProc port data).state = data.state ∧
      (sendSyncOneStepProc port data).lastState = data.lastState := by
  unfold sendSyncOneStepProc
  cases port.sendOneStep <;> exact ⟨rfl, rfl⟩

theorem descends : (machine port cts64).Descends weight := by
  intro data none unstable
  simp only [Machine.switch, machine] at none unstable ⊢
  cases state : data.state
  all_goals simp only [arm, state] at none unstable ⊢
  case init =>
    rw [weight_moveTo _ _ unstable]
    simp [weight, state, freshWeight]
  case reaction => exact absurd rfl unstable
  case initializing =>
    by_cases same : data.lastState = .initializing
    · simp only [same, bne_self_eq_false, Bool.false_eq_true, if_false] at unstable ⊢
      have top : weight data = 3 := by simp [weight, state, same]
      rw [top]
      exact (weight_requestedCondition rfl unstable).1
    · simp only [bne_iff_ne.mpr same, if_true] at unstable
      have impossible := (weight_requestedCondition rfl unstable).2
      simp [initializingProc] at impossible
  case sendSyncTwoStep =>
    by_cases same : data.lastState = .sendSyncTwoStep
    · simp only [same, bne_self_eq_false, Bool.false_eq_true, if_false] at unstable ⊢
      have top : weight data = 3 := by simp [weight, state, same]
      rw [top]
      rcases sendSyncTwoStepCondition_cases port cts64
          { data with state := .sendSyncTwoStep, lastState := .sendSyncTwoStep } with
        ⟨chosen, _⟩ | ⟨chosen, _⟩ | ⟨chosen, _⟩ | ⟨chosen, _⟩
      · rw [chosen] at unstable ⊢
        rw [weight_moveTo _ _ unstable]
        decide
      · rw [chosen] at unstable ⊢
        rw [weight_moveTo _ _ unstable]
        decide
      · rw [chosen]
        simp [weight, again, freshWeight]
      · rw [chosen] at unstable
        exact absurd rfl unstable
    · simp [same] at none
  case sendFollowUp =>
    by_cases same : data.lastState = .sendFollowUp
    · simp only [same, bne_self_eq_false, Bool.false_eq_true, if_false] at unstable ⊢
      have top : weight data = 3 := by simp [weight, state, same]
      rw [top]
      exact (weight_requestedCondition rfl unstable).1
    · simp only [bne_iff_ne.mpr same, if_true, sendFollowUpProc] at none unstable
      cases result : port.sendFollowUp with
      | failed => simp [result] at none
      | skipped => simp [result, send] at unstable
      | sent => simp [result, send] at unstable
  case sendSyncOneStep =>
    have heavy : 1 < weight data := by
      unfold weight
      split
      · decide
      · rw [state]
        decide
    rw [weight_sendSyncOneStepCondition ?_ unstable]
    · exact heavy
    · split
      · exact (stored_sendSyncOneStepProc port _).2
      · rfl
  case setCorrectionField =>
    have heavy : 0 < weight data := by
      unfold weight
      split
      · decide
      · rw [state]
        decide
    rw [weight_setCorrectionFieldCondition ?_ unstable]
    · exact heavy
    · split <;> rfl

end SyncSend

theorem mdSyncSendSm_total (port : SyncSendPort) (cts64 : UInt64) (data : SyncSend) :
    ∃ next result, mdSyncSendSm port cts64 data = some (next, result) := by
  refine (SyncSend.descends port cts64).total ?_
  unfold SyncSend.weight SyncSend.freshWeight
  split
  · decide
  · split <;> decide

namespace SyncSend

structure Sending (port : SyncSendPort) (before after : SyncSend) : Prop where
  value : after.rcvdMDSyncPtr = before.rcvdMDSyncPtr
  sent : ∃ messages, after.sent = before.sent ++ messages ∧
    ∀ message ∈ messages, message.value = before.rcvdMDSyncPtr ∧ message.port = port

theorem Sending.of_same (value : after.rcvdMDSyncPtr = before.rcvdMDSyncPtr)
    (sent : after.sent = before.sent) : Sending port before after :=
  ⟨value, [], sent.trans (List.append_nil _).symm,
    fun _ impossible => absurd impossible List.not_mem_nil⟩

theorem Sending.trans (first : Sending port before middle) (second : Sending port middle after) :
    Sending port before after := by
  obtain ⟨earlier, sent, composed⟩ := first.sent
  obtain ⟨later, sent', composed'⟩ := second.sent
  refine ⟨second.value.trans first.value, earlier ++ later, ?_, ?_⟩
  · rw [sent', sent, List.append_assoc]
  · intro message member
    rcases List.mem_append.mp member with before | after
    · exact composed message before
    · rw [← first.value]
      exact composed' message after

theorem sending_send (result : SendResult) (kind : SyncMessageKind) (port : SyncSendPort)
    (data : SyncSend) : Sending port data (data.send result kind port) := by
  cases result with
  | failed => exact .of_same rfl rfl
  | skipped => exact .of_same rfl rfl
  | sent =>
    refine ⟨rfl, [data.compose kind port], rfl, fun message member => ?_⟩
    rw [List.mem_singleton.mp member]
    exact ⟨rfl, rfl⟩

variable (port : SyncSendPort) (cts64 : UInt64) (data : SyncSend)

private theorem sending_sendSyncTwoStepProc :
    Sending port data (sendSyncTwoStepProc port cts64 data).1 := by
  unfold sendSyncTwoStepProc
  cases port.sendSync with
  | failed => exact .of_same rfl rfl
  | skipped => exact .of_same rfl rfl
  | sent =>
    have sending := sending_send .sent .sync port { data with rcvdMDSync := false }
    exact ⟨sending.value, sending.sent⟩

private theorem sending_sendFollowUpProc : Sending port data (sendFollowUpProc port data).1 := by
  unfold sendFollowUpProc
  cases port.sendFollowUp with
  | failed => exact .of_same rfl rfl
  | skipped => exact .of_same rfl rfl
  | sent =>
    have sending := sending_send .sent .followUp port { data with rcvdMDTimestampReceive := false }
    exact ⟨sending.value, sending.sent⟩

private theorem sending_sendSyncOneStepProc : Sending port data (sendSyncOneStepProc port data) := by
  unfold sendSyncOneStepProc
  cases port.sendOneStep with
  | failed => exact .of_same rfl rfl
  | skipped => exact .of_same rfl rfl
  | sent =>
    have sending := sending_send .sent .syncOneStep port { data with rcvdMDSync := false }
    exact ⟨sending.value, sending.sent⟩

private theorem sending_sendSyncTwoStepCondition : Sending port data (sendSyncTwoStepCondition port cts64 data) := by
  rcases sendSyncTwoStepCondition_cases port cts64 data with
    ⟨chosen, _⟩ | ⟨chosen, _⟩ | ⟨chosen, _⟩ | ⟨chosen, _⟩
  all_goals
    rw [chosen]
    exact .of_same rfl rfl

private theorem sending_switch : Sending port data ((machine port cts64).switch data).1 := by
  have remembered : Sending port data { data with lastState := data.state } := .of_same rfl rfl
  refine remembered.trans ?_
  simp only [Machine.switch, machine, arm]
  split
  · exact .of_same rfl rfl
  · split <;> exact .of_same rfl rfl
  · split
    · exact sending_sendSyncTwoStepProc port cts64 _
    · exact sending_sendSyncTwoStepCondition port cts64 _
  · split
    · exact sending_sendFollowUpProc port _
    · exact .of_same rfl rfl
  · split
    · have sending := sending_sendSyncOneStepProc port { data with lastState := data.state }
      exact ⟨sending.value, sending.sent⟩
    · exact .of_same rfl rfl
  · split <;> exact .of_same rfl rfl
  · exact .of_same rfl rfl

end SyncSend

open SyncSend in
theorem sending_mdSyncSendSm (finished : mdSyncSendSm port cts64 data = some (next, result)) :
    Sending port data next := by
  refine (machine port cts64).run_preserves (Sending port data) ?_ ?_ finished
  · exact fun current sending => sending.trans (sending_switch port cts64 current)
  · unfold allstateCondition
    split <;> exact .of_same rfl rfl

end EnetTsn.Sync
