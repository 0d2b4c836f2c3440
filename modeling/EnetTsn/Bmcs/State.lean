import EnetTsn.Gptp.Priority
import EnetTsn.Library.Loop
import Mathlib.Logic.Function.Basic

/-!
The data of one domain that the best master clock selection reads and writes:
the global variables of `mind.h` and the private data of the state machines.
The per-port arrays of the C structures (`selectedState`, `reselect`,
`selected`) are fields of the port they belong to.
-/

namespace EnetTsn.Bmcs

open EnetTsn.Gptp EnetTsn.Library

/-- `BmcsInfoIs`. -/
inductive InfoIs where
  | received
  | mine
  | aged
  | disabled
  deriving DecidableEq, Repr

/-- `BmcsRcvdInfo`. -/
inductive RcvdInfo where
  | repeatedMasterInfo
  | superiorMasterInfo
  | inferiorMasterInfo
  | otherInfo
  deriving DecidableEq, Repr

/-- The part of `PerPortGlobalForAllDomain` and `PerPortGlobal` in use here. -/
structure PerPortGlobal where
  asymmetryMeasurementMode : Bool
  portOper : Bool
  useMgtSettableLogAnnounceInterval : Bool
  mgtSettableLogAnnounceInterval : Int8
  useMgtSettableLogGptpCapableMessageInterval : Bool
  mgtSettableLogGptpCapableMessageInterval : Int8
  asCapable : Bool
  ptpPortEnabled : Bool
  thisPort : UInt16
  syncReceiptTimeout : Int8
  useMgtSettableLogSyncInterval : Bool
  mgtSettableLogSyncInterval : Int8
  initialLogSyncInterval : Int8
  syncReceiptTimeoutTimeInterval : UInt64
  oldAnnounceInterval : UInt64
  gPtpCapableMessageSlowdown : Bool
  gPtpCapableMessageInterval : UInt64
  currentLogGptpCapableMessageInterval : Int8
  initialLogGptpCapableMessageInterval : Int8

structure BmcsPerPortGlobal where
  announceReceiptTimeoutTimeInterval : UInt64
  announceSlowdown : Bool
  oldAnnounceInterval : UInt64
  infoIs : InfoIs
  masterPriority : UInteger224
  currentLogAnnounceInterval : Int8
  initialLogAnnounceInterval : Int8
  announceInterval : UInt64
  messageStepsRemoved : UInt16
  newInfo : Bool
  portPriority : UInteger224
  portStepsRemoved : UInt16
  /-- Whether `rcvdAnnouncePtr` points at the receive machine's buffer. -/
  rcvdAnnouncePtr : Bool
  rcvdMsg : Bool
  updtInfo : Bool
  ann : TimeProperties
  annPathSequenceCount : UInt8
  annPathSequence : Nat → UInt8
  announceReceiptTimeout : Int8
  /-- Whether a copy into `annPathSequence` has left the structure. -/
  overrun : Bool

inductive AnnounceReceiveState where
  | init
  | discard
  | receive
  | reaction
  deriving DecidableEq, Repr

structure PortAnnounceReceiveData where
  state : AnnounceReceiveState
  lastState : AnnounceReceiveState
  rcvdAnnounce : Bool
  /-- The message buffer that `rcvdAnnouncePtr` points at. -/
  buffer : PTPMsgAnnounce

inductive AnnounceInformationState where
  | init
  | disabled
  | aged
  | update
  | current
  | receive
  | superiorMasterPort
  | repeatedMasterPort
  | inferiorMasterOrOtherPort
  | reaction
  deriving DecidableEq, Repr

structure PortAnnounceInformationData where
  state : AnnounceInformationState
  lastState : AnnounceInformationState
  announceReceiptTimeoutTime : UInt64
  messagePriority : UInteger224
  rcvdInfo : RcvdInfo
  syncReceiptTimeoutTime : UInt64

inductive AnnounceTransmitState where
  | init
  | transmitInit
  | transmitPeriodic
  | idle
  | transmitAnnounce
  | reaction
  deriving DecidableEq, Repr

structure PortAnnounceTransmitData where
  state : AnnounceTransmitState
  lastState : AnnounceTransmitState
  announceSendTime : UInt64
  numberAnnounceTransmissions : UInt8
  interval2 : UInt64
  announceTx : PTPMsgAnnounce

inductive IntervalSettingState where
  | init
  | notEnabled
  | initialise
  | setIntervals
  | reaction
  deriving DecidableEq, Repr

/-- `announce_interval_setting_data` and `gptp_capable_interval_setting_data`:
`requested` is the log interval of the signaling message last handed over. -/
structure IntervalSettingData where
  state : IntervalSettingState
  lastState : IntervalSettingState
  rcvdSignalingMsg : Bool
  requested : Int8
  deriving DecidableEq, Repr

inductive AnnounceInformationExtState where
  | init
  | initialise
  | receive
  | reaction
  deriving DecidableEq, Repr

structure PortAnnounceInformationExtData where
  state : AnnounceInformationExtState
  lastState : AnnounceInformationExtState
  rcvdAnnounce : Bool
  messagePriority : UInteger224

inductive StateSettingExtState where
  | init
  | initialise
  | stateSetting
  | reaction
  deriving DecidableEq, Repr

/-- `port_state_setting_ext_data`; the change flag is the one of all domains. -/
structure PortStateSettingExtData where
  state : StateSettingExtState
  lastState : StateSettingExtState
  asymmetryMeasurementModeChangeThisPort : Bool
  disabledExt : Bool
  rcvdPortStateInd : Bool
  portStateInd : PTPPortState
  messagePriority : UInteger224

structure Port where
  selectedState : PTPPortState
  reselect : Bool
  selected : Bool
  ppg : PerPortGlobal
  bppg : BmcsPerPortGlobal
  parecd : PortAnnounceReceiveData
  painfd : PortAnnounceInformationData
  patransd : PortAnnounceTransmitData
  aisetd : IntervalSettingData
  gcinvsetd : IntervalSettingData
  paiextd : PortAnnounceInformationExtData
  pssextd : PortStateSettingExtData

namespace Port

/-- `PORT_OPER && PTP_PORT_ENABLED && AS_CAPABLE`. -/
def up (port : Port) : Bool :=
  port.ppg.portOper && port.ppg.ptpPortEnabled && port.ppg.asCapable

end Port

structure PerTimeAwareSystemGlobal where
  BEGIN : Bool
  gmPresent : Bool
  thisClock : ClockIdentity
  instanceEnable : Bool
  domainIndex : Nat
  gmStableInitdone : Bool
  asCapableOrAll : Bool

structure BmcsPerTimeAwareSystemGlobal where
  masterStepsRemoved : UInt16
  current : TimeProperties
  sys : TimeProperties
  systemPriority : UInteger224
  gmPriority : UInteger224
  lastGmPriority : UInteger224
  pathTraceCount : UInt8
  pathTrace : Nat → ClockIdentity
  externalPortConfiguration : UInt8
  bmcsQuickUpdate : Int

inductive StateSelectionState where
  | init
  | initBridge
  | stateSelection
  | reaction
  deriving DecidableEq, Repr

/-- `port_state_selection_data`; the change flag is the one of all domains. -/
structure PortStateSelectionData where
  state : StateSelectionState
  lastState : StateSelectionState
  systemIdentityChange : Bool
  asymmetryMeasurementModeChange : Bool
  deferredGmsync : Bool
  initSlaveTs : Int64

inductive GmStableState where
  | init
  | initialise
  | gmLost
  | gmUnstable
  | gmStable
  | reaction
  deriving DecidableEq, Repr

structure GmStableData where
  state : GmStableState
  lastState : GmStableState
  clockIdentity : ClockIdentity
  gmChange : Bool

inductive ClockMasterSyncReceiveState where
  | init
  | initializing
  | waiting
  | receiveSourceTime
  | reaction
  deriving DecidableEq, Repr

/-- `clock_master_sync_receive_data` without the servo: `computations` counts the
calls of `computeGmRateRatio`. -/
structure ClockMasterSyncReceiveData where
  state : ClockMasterSyncReceiveState
  lastState : ClockMasterSyncReceiveState
  rcvdClockSourceReq : Bool
  rcvdLocalClockTick : Bool
  computations : Nat
  deriving DecidableEq, Repr

structure Config where
  /-- Physical ports and the clock master port, index 0. -/
  maxPorts : Nat
  somePort : 1 < maxPorts
  fewPorts : maxPorts < absMaxNetdevs
  staticSlave : Int
  initialSlaveTime : Int
  priority1 : UInt8
  /-- Whether rate and offset are stable after each call of `computeGmRateRatio`;
  the floating-point servo is not part of the model. -/
  servoStable : Nat → Bool

structure Domain where
  ptasg : PerTimeAwareSystemGlobal
  bptasg : BmcsPerTimeAwareSystemGlobal
  ports : Nat → Port
  pssd : PortStateSelectionData
  gmsd : GmStableData
  cmsrecd : ClockMasterSyncReceiveData
  /-- `gptpclock_get_gmsync` of every domain. -/
  gmsync : Nat → GmsyncStatus

structure TraceOnly (before after : BmcsPerTimeAwareSystemGlobal) : Prop where
  rest : after = { before with
    pathTrace := after.pathTrace, pathTraceCount := after.pathTraceCount }

theorem traceOnly_refl (bptasg : BmcsPerTimeAwareSystemGlobal) : TraceOnly bptasg bptasg := ⟨rfl⟩

namespace Domain

def setPort (domain : Domain) (index : Nat) (port : Port) : Domain :=
  { domain with ports := Function.update domain.ports index port }

/-- `gptpclock_set_gmsync` of this domain. -/
def setGmsync (domain : Domain) (status : GmsyncStatus) : Domain :=
  { domain with gmsync := Function.update domain.gmsync domain.ptasg.domainIndex status }

def ownGmsync (domain : Domain) : GmsyncStatus :=
  domain.gmsync domain.ptasg.domainIndex

section Projections

variable (domain : Domain) (index : Nat) (port : Port) (status : GmsyncStatus)

@[simp] theorem setPort_ports_same : (domain.setPort index port).ports index = port := by
  simp [setPort]

@[simp] theorem setPort_ports_other (other : index' ≠ index) :
    (domain.setPort index port).ports index' = domain.ports index' := by
  simp [setPort, other]

@[simp] theorem setPort_ptasg : (domain.setPort index port).ptasg = domain.ptasg := rfl
@[simp] theorem setPort_bptasg : (domain.setPort index port).bptasg = domain.bptasg := rfl
@[simp] theorem setPort_pssd : (domain.setPort index port).pssd = domain.pssd := rfl
@[simp] theorem setPort_gmsd : (domain.setPort index port).gmsd = domain.gmsd := rfl
@[simp] theorem setPort_cmsrecd : (domain.setPort index port).cmsrecd = domain.cmsrecd := rfl
@[simp] theorem setPort_gmsync : (domain.setPort index port).gmsync = domain.gmsync := rfl
@[simp] theorem setGmsync_ptasg : (domain.setGmsync status).ptasg = domain.ptasg := rfl
@[simp] theorem setGmsync_bptasg : (domain.setGmsync status).bptasg = domain.bptasg := rfl
@[simp] theorem setGmsync_ports : (domain.setGmsync status).ports = domain.ports := rfl
@[simp] theorem setGmsync_pssd : (domain.setGmsync status).pssd = domain.pssd := rfl
@[simp] theorem setGmsync_gmsd : (domain.setGmsync status).gmsd = domain.gmsd := rfl
@[simp] theorem setGmsync_cmsrecd : (domain.setGmsync status).cmsrecd = domain.cmsrecd := rfl

end Projections

end Domain

end EnetTsn.Bmcs
