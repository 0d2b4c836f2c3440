import EnetTsn.Bmcs.AnnounceReceive
import EnetTsn.Bmcs.ClockState

/-!
The data of a domain after `gptpman_domain_init` and `bmcs_ptas_glb_update`:
everything is cleared, then the configured values are stored.
-/

namespace EnetTsn.Bmcs

open EnetTsn.Gptp EnetTsn.Library

structure PortSettings where
  ptpPortEnabled : Bool
  initialLogAnnounceInterval : Int8
  announceReceiptTimeout : Int8
  mgtSettableLogAnnounceInterval : Int8
  logSyncInterval : Int8
  initialLogSyncInterval : Int8
  syncReceiptTimeout : Int8
  useMgtSettableLogGptpCapableMessageInterval : Bool
  mgtSettableLogGptpCapableMessageInterval : Int8
  currentLogGptpCapableMessageInterval : Int8
  initialLogGptpCapableMessageInterval : Int8

structure Settings where
  thisClock : ClockIdentity
  domainIndex : Nat
  externalPortConfiguration : UInt8
  bmcsQuickUpdate : Int
  clockQuality : ClockQuality
  priority2 : UInt8
  ptpTimescale : Bool
  timeSource : UInt8
  port : Nat → PortSettings

/-- A message structure after `memset`. -/
def PTPMsgAnnounce.cleared : PTPMsgAnnounce where
  header :=
    { majorSdoId := 0, messageType := 0, minorVersionPTP := 0, versionPTP := 0
      messageLength := 0, domainIndex := 0, minorSdoId := 0, flags := (0, 0)
      correctionField := 0, messageTypeSpecific := Vector.replicate 4 0
      sourcePortIdentity := { clockIdentity := ClockIdentity.fill 0, portIndex := 0 }
      sequenceId := 0, control := 0, logMessageInterval := 0 }
  currentUtcOffset := 0
  grandmasterPriority1 := 0
  grandmasterClockQuality := { clockClass := 0, clockAccuracy := 0, offsetScaledLogVariance := 0 }
  grandmasterPriority2 := 0
  grandmasterIdentity := ClockIdentity.fill 0
  stepsRemoved := 0
  timeSource := 0
  tlvType := 0
  tlvLength := 0
  pathSequence := fun _ => 0

def TimeProperties.cleared : TimeProperties where
  leap61 := false
  leap59 := false
  currentUtcOffsetValid := false
  ptpTimescale := false
  timeTraceable := false
  frequencyTraceable := false
  currentUtcOffset := 0
  timeSource := 0

/-- `pp_glb_init`. -/
def PerPortGlobal.init (settings : PortSettings) (portIndex : Nat) : PerPortGlobal where
  asymmetryMeasurementMode := false
  portOper := false
  useMgtSettableLogAnnounceInterval := false
  mgtSettableLogAnnounceInterval := settings.mgtSettableLogAnnounceInterval
  useMgtSettableLogGptpCapableMessageInterval :=
    settings.useMgtSettableLogGptpCapableMessageInterval
  mgtSettableLogGptpCapableMessageInterval := settings.mgtSettableLogGptpCapableMessageInterval
  asCapable := false
  ptpPortEnabled := settings.ptpPortEnabled
  thisPort := UInt16.ofNat portIndex
  syncReceiptTimeout := settings.syncReceiptTimeout
  useMgtSettableLogSyncInterval := false
  mgtSettableLogSyncInterval := 0
  initialLogSyncInterval := settings.initialLogSyncInterval
  syncReceiptTimeoutTimeInterval :=
    receiptTimeoutInterval settings.syncReceiptTimeout settings.logSyncInterval
  oldAnnounceInterval := 0
  gPtpCapableMessageSlowdown := false
  gPtpCapableMessageInterval := 0
  currentLogGptpCapableMessageInterval := settings.currentLogGptpCapableMessageInterval
  initialLogGptpCapableMessageInterval := settings.initialLogGptpCapableMessageInterval

/-- `bmcs_pp_glb_init`. -/
def BmcsPerPortGlobal.init (settings : PortSettings) : BmcsPerPortGlobal where
  announceReceiptTimeoutTimeInterval := 0
  announceSlowdown := false
  oldAnnounceInterval := 0
  infoIs := .disabled
  masterPriority := UInteger224.fill 0
  currentLogAnnounceInterval := 0
  initialLogAnnounceInterval := settings.initialLogAnnounceInterval
  announceInterval := 0
  messageStepsRemoved := 0
  newInfo := false
  portPriority := UInteger224.fill 0
  portStepsRemoved := 0
  rcvdAnnouncePtr := false
  rcvdMsg := false
  updtInfo := false
  ann := TimeProperties.cleared
  annPathSequenceCount := 0
  annPathSequence := fun _ => 0
  announceReceiptTimeout := settings.announceReceiptTimeout
  overrun := false

/-- `gptpman_port_init`; the receive machine has already run once. -/
def Port.init (settings : PortSettings) (portIndex : Nat) : Port where
  selectedState := .unset
  reselect := false
  selected := false
  ppg := PerPortGlobal.init settings portIndex
  bppg := BmcsPerPortGlobal.init settings
  parecd :=
    { state := .discard, lastState := .discard, rcvdAnnounce := false
      buffer := PTPMsgAnnounce.cleared }
  painfd :=
    { state := .init, lastState := .init, announceReceiptTimeoutTime := 0
      messagePriority := UInteger224.fill 0, rcvdInfo := .repeatedMasterInfo
      syncReceiptTimeoutTime := UInt64.ofNat (2 ^ 64 - 1) }
  patransd :=
    { state := .init, lastState := .init, announceSendTime := 0
      numberAnnounceTransmissions := 0, interval2 := 1000000000
      announceTx := PTPMsgAnnounce.cleared }
  aisetd := { state := .init, lastState := .init, rcvdSignalingMsg := false, requested := 0 }
  gcinvsetd := { state := .init, lastState := .init, rcvdSignalingMsg := false, requested := 0 }
  paiextd :=
    { state := .init, lastState := .init, rcvdAnnounce := false
      messagePriority := UInteger224.fill 0 }
  pssextd :=
    { state := .init, lastState := .init, asymmetryMeasurementModeChangeThisPort := false
      disabledExt := false, rcvdPortStateInd := false, portStateInd := .unset
      messagePriority := UInteger224.fill 0xFF }

/-- `ptas_glb_init` and `set_domain_thisClock`. -/
def PerTimeAwareSystemGlobal.init (settings : Settings) : PerTimeAwareSystemGlobal where
  BEGIN := false
  gmPresent := false
  thisClock := settings.thisClock
  instanceEnable := true
  domainIndex := settings.domainIndex
  gmStableInitdone := false
  asCapableOrAll := false

/-- `systemPriority` as `bmcs_ptas_glb_update` stores it. -/
def systemPriorityOf (cfg : Config) (settings : Settings) : UInteger224 where
  rootSystemIdentity :=
    { priority1 := cfg.priority1
      clockClass := settings.clockQuality.clockClass
      clockAccuracy := settings.clockQuality.clockAccuracy
      padding3 := 0
      offsetScaledLogVariance := settings.clockQuality.offsetScaledLogVariance
      priority2 := settings.priority2
      clockIdentity := settings.thisClock
      padding15 := 0 }
  stepsRemoved := 0
  sourcePortIdentity := { clockIdentity := settings.thisClock, portIndex := 0 }
  portNumber := 0

/-- `bmcs_ptas_glb_init` and `bmcs_ptas_glb_update`. -/
def BmcsPerTimeAwareSystemGlobal.init (cfg : Config) (settings : Settings) :
    BmcsPerTimeAwareSystemGlobal where
  masterStepsRemoved := 0
  current := TimeProperties.cleared
  sys := { TimeProperties.cleared with
    ptpTimescale := settings.ptpTimescale
    currentUtcOffset := if settings.ptpTimescale then 37 else 0
    timeSource := settings.timeSource }
  systemPriority := systemPriorityOf cfg settings
  gmPriority := UInteger224.fill 0
  lastGmPriority := UInteger224.fill 0
  pathTraceCount := 0
  pathTrace := fun _ => ClockIdentity.fill 0
  externalPortConfiguration := settings.externalPortConfiguration
  bmcsQuickUpdate := settings.bmcsQuickUpdate

/-- `gptpman_domain_init`. -/
def Domain.init (cfg : Config) (settings : Settings) : Domain where
  ptasg := PerTimeAwareSystemGlobal.init settings
  bptasg := BmcsPerTimeAwareSystemGlobal.init cfg settings
  ports := fun index => Port.init (settings.port index) index
  pssd :=
    { state := .init, lastState := .init, systemIdentityChange := false
      asymmetryMeasurementModeChange := false, deferredGmsync := false, initSlaveTs := 0 }
  gmsd :=
    { state := .init, lastState := .init, clockIdentity := ClockIdentity.fill 0, gmChange := false }
  cmsrecd :=
    { state := .waiting, lastState := .waiting, rcvdClockSourceReq := false
      rcvdLocalClockTick := false, computations := 0 }
  gmsync := fun _ => .unsync

instance neZero_fourteen : NeZero 14 := ⟨by decide⟩

/-- A configuration for runs on concrete data: the clock master port, one physical
port, and the given number of further ones. -/
def Config.sample (ports : Fin 14) : Config where
  maxPorts := ports + 2
  somePort := by omega
  fewPorts := by unfold absMaxNetdevs; omega
  staticSlave := -1
  initialSlaveTime := 0
  priority1 := 246
  servoStable := fun _ => true

def PortSettings.sample : PortSettings where
  ptpPortEnabled := true
  initialLogAnnounceInterval := 0
  announceReceiptTimeout := 3
  mgtSettableLogAnnounceInterval := 0
  logSyncInterval := -3
  initialLogSyncInterval := -3
  syncReceiptTimeout := 3
  useMgtSettableLogGptpCapableMessageInterval := false
  mgtSettableLogGptpCapableMessageInterval := 0
  currentLogGptpCapableMessageInterval := 0
  initialLogGptpCapableMessageInterval := 0

def Settings.sample : Settings where
  thisClock := ClockIdentity.fill 1
  domainIndex := 0
  externalPortConfiguration := valueDisabled
  bmcsQuickUpdate := 0
  clockQuality := { clockClass := 248, clockAccuracy := 0x22, offsetScaledLogVariance := 0x436A }
  priority2 := 248
  ptpTimescale := true
  timeSource := 0xA0
  port := fun _ => PortSettings.sample

/-- An Announce of a better clock than the one of the default settings, with a
path-trace TLV without entries. -/
def PTPMsgAnnounce.sample (stepsRemoved : UInt16) : PTPMsgAnnounce :=
  { PTPMsgAnnounce.cleared with
    header := { PTPMsgAnnounce.cleared.header with
      sourcePortIdentity := { clockIdentity := ClockIdentity.fill 2, portIndex := 1 } }
    grandmasterPriority1 := 1
    grandmasterIdentity := ClockIdentity.fill 2
    stepsRemoved := stepsRemoved
    tlvType := 0x8 }

end EnetTsn.Bmcs
