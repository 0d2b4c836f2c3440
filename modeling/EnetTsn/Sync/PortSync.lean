import EnetTsn.Sync.SyncReceive

namespace EnetTsn.Sync

open EnetTsn.Gptp EnetTsn.Library

structure PortSyncSync extends MDSyncSend where
  localPortIndex : Int16
  syncReceiptTimeoutTime : UInt64
  syncNextSendTimeoutTime : UInt64
  lastSyncSeqID : UInt16
  deriving DecidableEq

/-- What `port_sync_sync_receive_sm` reads of its port. -/
structure PortSyncReceivePort extends SyncPort where
  thisPort : UInt16
  syncReceiptTimeout : Int8

inductive PortSyncReceiveState where
  | init
  | discard
  | receivedSync
  | reaction
  deriving DecidableEq, Repr

/-- `port_sync_sync_receive_data`, with the two global variables it sets. -/
structure PortSyncReceive where
  state : PortSyncReceiveState
  lastState : PortSyncReceiveState
  rcvdMDSync : Bool
  rcvdMDSyncPtr : MDSyncReceive
  syncReceiptTimeoutTimeInterval : UInt64
  parentLogSyncInterval : Int8

def setPSSyncPSSR (port : PortSyncReceivePort) (syncReceiptTimeoutTimeInterval : UInt64)
    (received : MDSyncReceive) (rateRatio : ℚ) (cts64 : UInt64) : PortSyncSync :=
  let interval := logToNsec received.logMessageInterval
  { received.toMDSyncSend with
    localPortIndex := port.thisPort.toInt16
    syncReceiptTimeoutTime := cts64 + syncReceiptTimeoutTimeInterval
    rateRatio := rateRatio
    lastSyncSeqID := received.seqid
    syncNextSendTimeoutTime := cts64 + interval + interval / 2 }

namespace PortSyncReceive

def moveTo (state : PortSyncReceiveState) (data : PortSyncReceive) : PortSyncReceive :=
  { data with state := state }

def arrived (port : PortSyncReceivePort) (data : PortSyncReceive) : Bool :=
  data.rcvdMDSync && port.up

def allstateCondition (port : PortSyncReceivePort) (data : PortSyncReceive) : PortSyncReceive :=
  if port.BEGIN || !port.instanceEnable || data.rcvdMDSync && !port.up then
    { data with lastState := .reaction, state := .discard }
  else data

/-- What `received_sync` hands on. -/
def receivedPortSync (port : PortSyncReceivePort) (received : MDSyncReceive) (cts64 : UInt64) :
    PortSyncSync :=
  setPSSyncPSSR port
    (receiptTimeoutInterval port.syncReceiptTimeout received.logMessageInterval) received
    (Binary64.add received.rateRatio (Binary64.sub port.neighborRateRatio 1)) cts64

/-- What `received_sync` sets. -/
def receivedSync (port : PortSyncReceivePort) (data : PortSyncReceive) : PortSyncReceive :=
  let interval := data.rcvdMDSyncPtr.logMessageInterval
  { data with
    rcvdMDSync := false
    syncReceiptTimeoutTimeInterval := receiptTimeoutInterval port.syncReceiptTimeout interval
    parentLogSyncInterval := interval }

def arm (port : PortSyncReceivePort) (cts64 : UInt64) (stateChange : Bool)
    (data : PortSyncReceive) : PortSyncReceive × Option PortSyncSync :=
  match data.state with
  | .init => (moveTo .discard data, none)
  | .discard =>
    if stateChange then (moveTo .receivedSync { data with rcvdMDSync := false }, none)
    else (moveTo (if data.arrived port then .receivedSync else .discard) data, none)
  | .receivedSync =>
    let entered := if stateChange then data.receivedSync port else data
    (moveTo (if entered.arrived port && !port.asymmetryMeasurementMode then .reaction
      else .receivedSync) entered,
      if stateChange then some (receivedPortSync port data.rcvdMDSyncPtr cts64) else none)
  | .reaction => (data, none)

def machine (port : PortSyncReceivePort) (cts64 : UInt64) :
    Machine PortSyncReceive PortSyncReceiveState PortSyncSync where
  state := PortSyncReceive.state
  lastState := PortSyncReceive.lastState
  setLastState data state := { data with lastState := state }
  arm := arm port cts64

end PortSyncReceive

open PortSyncReceive in
def portSyncSyncReceiveSmRecvMDSync (port : PortSyncReceivePort) (received : MDSyncReceive)
    (cts64 : UInt64) (data : PortSyncReceive) : Option (PortSyncReceive × Option PortSyncSync) :=
  (machine port cts64).run 4 (allstateCondition port
    { data with rcvdMDSync := true, rcvdMDSyncPtr := received, lastState := .reaction })

structure EnabledPort where
  BEGIN : Bool
  instanceEnable : Bool
  portOper : Bool
  ptpPortEnabled : Bool
  asCapable : Bool

def EnabledPort.up (port : EnabledPort) : Bool :=
  port.portOper && port.ptpPortEnabled && port.asCapable

/-- What `port_sync_sync_send_sm` reads of the instance and of its port. -/
structure PortSyncSendPort extends EnabledPort where
  domainIndex : UInt8
  thisClock : ClockIdentity
  thisPort : UInt16
  selectedState : PTPPortState
  /-- The test configuration that sends on this port whatever its state. -/
  testSyncSendPort : Bool
  currentLogSyncInterval : Int8
  parentLogSyncInterval : Int8
  syncReceiptTimeout : Int8
  syncInterval : UInt64

inductive PortSyncSendState where
  | init
  | transmitInit
  | sendMdSync
  | syncReceiptTimeout
  | reaction
  deriving DecidableEq, Repr

/-- `port_sync_sync_send_data` with `PortSyncSyncSendSM`, and the flags of the port
that it sets. -/
structure PortSyncSend where
  state : PortSyncSendState
  lastState : PortSyncSendState
  rcvdPSSync : Bool
  rcvdPSSyncPtr : PortSyncSync
  lastPreciseOriginTimestamp : Timestamp
  lastFollowUpCorrectionField : ScaledNs
  lastRateRatio : ℚ
  lastUpstreamTxTime : UInt64
  lastGmTimeBaseIndicator : UInt16
  lastGmPhaseChange : ScaledNs
  lastGmFreqChange : ℚ
  lastRcvdPortNum : UInt16
  lastSyncSentTime : UInt64
  syncReceiptTimeoutTime : UInt64
  interval1 : UInt64
  numberSyncTransmissions : UInt8
  syncSlowdown : Bool
  syncLocked : Bool

def setMDSync (port : PortSyncSendPort) (data : PortSyncSend) : MDSyncSend where
  domainIndex := port.domainIndex
  followUpCorrectionField := data.lastFollowUpCorrectionField
  sourcePortIdentity := { clockIdentity := port.thisClock, portIndex := port.thisPort }
  logMessageInterval := port.currentLogSyncInterval
  preciseOriginTimestamp := data.lastPreciseOriginTimestamp
  upstreamTxTime := data.lastUpstreamTxTime
  rateRatio := data.lastRateRatio
  gmTimeBaseIndicator := data.lastGmTimeBaseIndicator
  lastGmPhaseChange := data.lastGmPhaseChange
  lastGmFreqChange := data.lastGmFreqChange

namespace PortSyncSend

def moveTo (state : PortSyncSendState) (data : PortSyncSend) : PortSyncSend :=
  { data with state := state }

def allstateCondition (port : PortSyncSendPort) (data : PortSyncSend) : PortSyncSend :=
  if port.BEGIN || !port.instanceEnable || data.rcvdPSSync && !port.up then
    { data with lastState := .reaction, state := .transmitInit }
  else if port.currentLogSyncInterval == 127 then moveTo .transmitInit data
  else data

def transmitInitProc (data : PortSyncSend) : PortSyncSend :=
  { data with rcvdPSSync := false, syncSlowdown := false, numberSyncTransmissions := 0 }

def sends (port : PortSyncSendPort) : Bool :=
  port.up && (port.selectedState == .masterPort || port.testSyncSendPort)

def received (port : PortSyncSendPort) (data : PortSyncSend) : Bool :=
  data.rcvdPSSync && data.rcvdPSSyncPtr.localPortIndex.toUInt16 != port.thisPort && sends port

def transmitInitCondition (port : PortSyncSendPort) (data : PortSyncSend) : PortSyncSendState :=
  if port.currentLogSyncInterval == 127 then .transmitInit
  else if data.received port then .sendMdSync
  else .transmitInit

def store (port : PortSyncSendPort) (data : PortSyncSend) : PortSyncSend :=
  let received := data.rcvdPSSyncPtr
  { data with
    lastRcvdPortNum := received.localPortIndex.toUInt16
    lastPreciseOriginTimestamp := received.preciseOriginTimestamp
    lastFollowUpCorrectionField := received.followUpCorrectionField
    lastRateRatio := received.rateRatio
    lastUpstreamTxTime := received.upstreamTxTime
    lastGmTimeBaseIndicator := received.gmTimeBaseIndicator
    lastGmPhaseChange := received.lastGmPhaseChange
    lastGmFreqChange := received.lastGmFreqChange
    syncReceiptTimeoutTime := received.syncReceiptTimeoutTime
    syncLocked := port.parentLogSyncInterval == port.currentLogSyncInterval }

def schedule (port : PortSyncSendPort) (data : PortSyncSend) : PortSyncSend :=
  if data.syncSlowdown then
    if port.syncReceiptTimeout.toUInt8 ≤ data.numberSyncTransmissions then
      { data with
        interval1 := port.syncInterval, numberSyncTransmissions := 0, syncSlowdown := false }
    else
      { data with
        interval1 := port.syncInterval
        numberSyncTransmissions := data.numberSyncTransmissions + 1 }
  else { data with numberSyncTransmissions := 0, interval1 := port.syncInterval }

def sendMdSyncProc (port : PortSyncSendPort) (cts64 : UInt64) (data : PortSyncSend) :
    PortSyncSend × MDSyncSend :=
  let stored := if data.rcvdPSSync then data.store port else data
  let sent := { stored with rcvdPSSync := false, lastSyncSentTime := cts64 }
  (schedule port sent, setMDSync port sent)

def sendMdSyncCondition (port : PortSyncSendPort) (cts64 : UInt64) (data : PortSyncSend) :
    PortSyncSend :=
  if decide (data.syncReceiptTimeoutTime ≤ cts64) && !data.syncLocked then
    moveTo .syncReceiptTimeout data
  else if (data.rcvdPSSync && data.syncLocked &&
        data.rcvdPSSyncPtr.localPortIndex.toUInt16 != port.thisPort ||
      !data.syncLocked && decide (data.interval1 ≤ cts64 - data.lastSyncSentTime) &&
        data.lastRcvdPortNum != port.thisPort) && sends port then
    { data with lastState := .reaction, state := .sendMdSync }
  else moveTo .sendMdSync data

def syncReceiptTimeoutCondition (port : PortSyncSendPort) (data : PortSyncSend) :
    PortSyncSendState :=
  if data.received port then .sendMdSync else .syncReceiptTimeout

def arm (port : PortSyncSendPort) (cts64 : UInt64) (stateChange : Bool) (data : PortSyncSend) :
    PortSyncSend × Option MDSyncSend :=
  match data.state with
  | .init => (moveTo .transmitInit data, none)
  | .transmitInit =>
    let entered := if stateChange then transmitInitProc data else data
    (moveTo (transmitInitCondition port entered) entered, none)
  | .sendMdSync =>
    if stateChange then
      ((sendMdSyncProc port cts64 data).1, some (sendMdSyncProc port cts64 data).2)
    else (sendMdSyncCondition port cts64 data, none)
  | .syncReceiptTimeout =>
    let entered := if stateChange then { data with rcvdPSSync := false } else data
    (moveTo (syncReceiptTimeoutCondition port entered) entered, none)
  | .reaction => (data, none)

def machine (port : PortSyncSendPort) (cts64 : UInt64) :
    Machine PortSyncSend PortSyncSendState MDSyncSend where
  state := PortSyncSend.state
  lastState := PortSyncSend.lastState
  setLastState data state := { data with lastState := state }
  arm := arm port cts64

end PortSyncSend

open PortSyncSend in
def portSyncSyncSendSmPortSyncSync (port : PortSyncSendPort) (portSyncSync : PortSyncSync)
    (cts64 : UInt64) (data : PortSyncSend) : Option (PortSyncSend × Option MDSyncSend) :=
  (machine port cts64).run 4 (allstateCondition port
    { data with rcvdPSSync := true, rcvdPSSyncPtr := portSyncSync })

namespace PortSyncReceive

def weight (data : PortSyncReceive) : Nat :=
  match data.state with
  | .init => 3
  | .discard => 2
  | .receivedSync => 1
  | .reaction => 0

theorem descends (port : PortSyncReceivePort) (cts64 : UInt64) :
    (machine port cts64).Descends weight := by
  intro data none unstable
  simp only [Machine.switch, machine] at none unstable ⊢
  cases state : data.state
  all_goals simp only [arm, state] at none unstable ⊢
  case init => simp [weight, moveTo, state]
  case reaction => exact absurd rfl unstable
  case discard =>
    by_cases same : data.lastState = .discard
    · simp only [same, bne_self_eq_false, Bool.false_eq_true, if_false, moveTo] at unstable ⊢
      split at unstable
      · rename_i chosen
        simp [weight, chosen, state]
      · exact absurd rfl unstable
    · simp [weight, moveTo, same, state]
  case receivedSync =>
    by_cases same : data.lastState = .receivedSync
    · simp only [same, bne_self_eq_false, Bool.false_eq_true, if_false, moveTo] at unstable ⊢
      split at unstable
      · rename_i chosen
        simp [weight, chosen, state]
      · exact absurd rfl unstable
    · simp [same] at none

end PortSyncReceive

theorem portSyncSyncReceiveSmRecvMDSync_total (port : PortSyncReceivePort)
    (received : MDSyncReceive) (cts64 : UInt64) (data : PortSyncReceive) :
    ∃ next result, portSyncSyncReceiveSmRecvMDSync port received cts64 data =
      some (next, result) := by
  refine (PortSyncReceive.descends port cts64).total ?_
  unfold PortSyncReceive.weight
  split <;> decide

namespace PortSyncReceive

variable (port : PortSyncReceivePort) (cts64 : UInt64) (data : PortSyncReceive)

private theorem switch_received :
    ((machine port cts64).switch data).1.rcvdMDSyncPtr = data.rcvdMDSyncPtr := by
  simp only [Machine.switch, machine, arm]
  split
  · rfl
  · split <;> rfl
  · split <;> rfl
  · rfl

theorem switch_result (returned : ((machine port cts64).switch data).2 = some result) :
    result = receivedPortSync port data.rcvdMDSyncPtr cts64 := by
  simp only [Machine.switch, machine, arm] at returned
  split at returned
  · cases returned
  · split at returned <;> cases returned
  · split at returned <;> cases returned
    rfl
  · cases returned

end PortSyncReceive

theorem portSyncSyncReceiveSmRecvMDSync_result
    (finished : portSyncSyncReceiveSmRecvMDSync port received cts64 data =
      some (next, some result)) :
    result = PortSyncReceive.receivedPortSync port received cts64 := by
  refine (PortSyncReceive.machine port cts64).run_result
    (fun current => current.rcvdMDSyncPtr = received)
    (fun result => result = PortSyncReceive.receivedPortSync port received cts64) ?_ ?_ ?_ finished
  · intro current after holds silent _
    have kept := PortSyncReceive.switch_received port cts64 current
    rw [silent] at kept
    exact kept.trans holds
  · intro current after value holds out
    rw [← holds]
    exact PortSyncReceive.switch_result port cts64 current (congrArg Prod.snd out)
  · unfold PortSyncReceive.allstateCondition
    split <;> rfl

namespace PortSyncSend

def weight (data : PortSyncSend) : Nat :=
  if data.state = .init ∨ data.lastState = data.state then 1 else 0

section

variable (port : PortSyncSendPort)

private theorem transmitInitCondition_of_none (none : data.rcvdPSSync = false) :
    transmitInitCondition port data = .transmitInit := by
  simp [transmitInitCondition, received, none]

theorem syncReceiptTimeoutCondition_of_none (none : data.rcvdPSSync = false) :
    syncReceiptTimeoutCondition port data = .syncReceiptTimeout := by
  simp [syncReceiptTimeoutCondition, received, none]

variable (data : PortSyncSend)

private theorem transmitInitCondition_cases : transmitInitCondition port data = .transmitInit ∨
      (transmitInitCondition port data = .sendMdSync ∧ data.received port = true) := by
  unfold transmitInitCondition
  split
  · exact Or.inl rfl
  · split
    · rename_i received
      exact Or.inr ⟨rfl, received⟩
    · exact Or.inl rfl

private theorem syncReceiptTimeoutCondition_cases :
    syncReceiptTimeoutCondition port data = .syncReceiptTimeout ∨
      (syncReceiptTimeoutCondition port data = .sendMdSync ∧ data.received port = true) := by
  unfold syncReceiptTimeoutCondition
  split
  · rename_i received
    exact Or.inr ⟨rfl, received⟩
  · exact Or.inl rfl

end

def sendsAgain (port : PortSyncSendPort) (cts64 : UInt64) (data : PortSyncSend) : Bool :=
  !(decide (data.syncReceiptTimeoutTime ≤ cts64) && !data.syncLocked) &&
    ((data.rcvdPSSync && data.syncLocked &&
        data.rcvdPSSyncPtr.localPortIndex.toUInt16 != port.thisPort ||
      !data.syncLocked && decide (data.interval1 ≤ cts64 - data.lastSyncSentTime) &&
        data.lastRcvdPortNum != port.thisPort) && sends port)

variable (port : PortSyncSendPort) (cts64 : UInt64)

/-- The passes that go on without a result: out of the first state, to sending what was
received or what is due, and to the timeout. -/
theorem switch_moves_on (data next : PortSyncSend)
    (silent : (machine port cts64).switch data = (next, none))
    (unstable : next.lastState ≠ next.state) :
    (data.state = .init ∧ next = { data with lastState := .init, state := .transmitInit }) ∨
    (data.state = data.lastState ∧ data.received port = true ∧
      next = { data with lastState := data.state, state := .sendMdSync }) ∨
    (data.state = .sendMdSync ∧ data.lastState = .sendMdSync ∧
      next = { data with lastState := .sendMdSync, state := .syncReceiptTimeout }) ∨
    (data.state = .sendMdSync ∧ data.lastState = .sendMdSync ∧ data.sendsAgain port cts64 = true ∧
      next = { data with lastState := .reaction, state := .sendMdSync }) := by
  have out : next = ((machine port cts64).switch data).1 := by rw [silent]
  have none : ((machine port cts64).switch data).2 = none := by rw [silent]
  subst out
  simp only [Machine.switch, machine] at none unstable ⊢
  cases state : data.state
  all_goals simp only [arm, state] at none unstable ⊢
  case init => exact Or.inl ⟨trivial, rfl⟩
  case reaction => exact absurd rfl unstable
  case transmitInit =>
    by_cases same : data.lastState = .transmitInit
    · simp only [same, bne_self_eq_false, Bool.false_eq_true, if_false] at unstable ⊢
      rcases transmitInitCondition_cases port { data with lastState := .transmitInit } with
        chosen | ⟨chosen, received⟩
      · simp only [state] at chosen
        rw [chosen] at unstable
        exact absurd rfl unstable
      · simp only [state] at chosen
        rw [chosen]
        exact Or.inr (Or.inl ⟨trivial, received, rfl⟩)
    · simp only [bne_iff_ne.mpr same, if_true] at unstable
      rw [transmitInitCondition_of_none port rfl] at unstable
      exact absurd rfl unstable
  case sendMdSync =>
    by_cases same : data.lastState = .sendMdSync
    · simp only [same, bne_self_eq_false, Bool.false_eq_true, if_false, sendMdSyncCondition]
        at unstable ⊢
      split at unstable
      · rename_i timeout
        rw [if_pos timeout]
        exact Or.inr (Or.inr (Or.inl ⟨trivial, trivial, rfl⟩))
      · rename_i waits
        rw [if_neg waits]
        split at unstable
        · rename_i again
          rw [if_pos again]
          refine Or.inr (Or.inr (Or.inr ⟨trivial, trivial, ?_, rfl⟩))
          rw [sendsAgain, Bool.eq_false_iff.mpr waits]
          exact again
        · exact absurd rfl unstable
    · simp [same] at none
  case syncReceiptTimeout =>
    by_cases same : data.lastState = .syncReceiptTimeout
    · simp only [same, bne_self_eq_false, Bool.false_eq_true, if_false] at unstable ⊢
      rcases syncReceiptTimeoutCondition_cases port
          { data with lastState := .syncReceiptTimeout } with chosen | ⟨chosen, received⟩
      · simp only [state] at chosen
        rw [chosen] at unstable
        exact absurd rfl unstable
      · simp only [state] at chosen
        rw [chosen]
        exact Or.inr (Or.inl ⟨trivial, received, rfl⟩)
    · simp only [bne_iff_ne.mpr same, if_true] at unstable
      exact absurd rfl unstable

theorem switch_again (data next : PortSyncSend)
    (silent : (machine port cts64).switch data = (next, none))
    (unstable : next.lastState ≠ next.state) :
    weight next < weight data ∧ next.rcvdPSSyncPtr = data.rcvdPSSyncPtr ∧
      next.rcvdPSSync = data.rcvdPSSync := by
  rcases switch_moves_on port cts64 data next silent unstable with
    ⟨first, moved⟩ | ⟨stable, _, moved⟩ | ⟨sending, stable, moved⟩ | ⟨sending, stable, _, moved⟩
  · rw [moved]
    exact ⟨by simp [weight, first], rfl, rfl⟩
  · rw [moved] at unstable ⊢
    have left : data.state ≠ .sendMdSync := unstable
    have before : weight data = 1 := if_pos (Or.inr stable.symm)
    have after : weight { data with lastState := data.state, state := .sendMdSync } = 0 := by
      simp [weight, left]
    exact ⟨by omega, rfl, rfl⟩
  · rw [moved]
    exact ⟨by simp [weight, sending, stable], rfl, rfl⟩
  · rw [moved]
    exact ⟨by simp [weight, sending, stable], rfl, rfl⟩

theorem switch_result (data : PortSyncSend) (received : data.rcvdPSSync = true)
    (returned : ((machine port cts64).switch data).2 = some result) :
    result = setMDSync port (data.store port) := by
  simp only [Machine.switch, machine, arm] at returned
  split at returned
  · cases returned
  · cases returned
  · split at returned <;> cases returned
    simp only [sendMdSyncProc, received, if_true]
    rfl
  · cases returned
  · cases returned

end PortSyncSend

theorem portSyncSyncSendSmPortSyncSync_total (port : PortSyncSendPort)
    (portSyncSync : PortSyncSync) (cts64 : UInt64) (data : PortSyncSend) :
    ∃ next result, portSyncSyncSendSmPortSyncSync port portSyncSync cts64 data =
      some (next, result) := by
  refine (PortSyncSend.machine port cts64).run_total (fun _ => True) PortSyncSend.weight ?_
    trivial ?_
  · exact fun data next _ silent unstable =>
      ⟨trivial, (PortSyncSend.switch_again port cts64 data next silent unstable).1⟩
  · unfold PortSyncSend.weight
    split <;> decide

theorem portSyncSyncSendSmPortSyncSync_result
    (finished : portSyncSyncSendSmPortSyncSync port portSyncSync cts64 data =
      some (next, some result)) :
    result = setMDSync port ({ data with rcvdPSSyncPtr := portSyncSync }.store port) := by
  refine (PortSyncSend.machine port cts64).run_result
    (fun current => current.rcvdPSSyncPtr = portSyncSync ∧ current.rcvdPSSync = true)
    (fun result => result = setMDSync port
      ({ data with rcvdPSSyncPtr := portSyncSync }.store port)) ?_ ?_ ?_ finished
  · rintro current after ⟨holds, received⟩ silent unstable
    obtain ⟨_, kept, flag⟩ := PortSyncSend.switch_again port cts64 current after silent unstable
    exact ⟨kept.trans holds, flag.trans received⟩
  · rintro current after value ⟨holds, received⟩ out
    rw [PortSyncSend.switch_result port cts64 current received (congrArg Prod.snd out)]
    simp only [setMDSync, PortSyncSend.store, holds]
  · unfold PortSyncSend.allstateCondition
    split
    · exact ⟨rfl, rfl⟩
    · split <;> exact ⟨rfl, rfl⟩

end EnetTsn.Sync
