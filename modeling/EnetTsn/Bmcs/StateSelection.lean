import EnetTsn.Bmcs.AnnounceReceive

namespace EnetTsn.Bmcs

open EnetTsn.Gptp EnetTsn.Library

/-- `gmPathPriority` of a port: all ones unless the port holds a priority. -/
def gmPathPriority (port : Port) : UInteger224 :=
  if hasPortPriority port.bppg.portPriority && port.bppg.infoIs != .aged then
    { port.bppg.portPriority with stepsRemoved := port.bppg.portPriority.stepsRemoved + 1 }
  else UInteger224.fill 0xFF

def updateStateDisabledTree (domain : Domain) : Domain :=
  { domain with
    ports := fun index =>
      if index < absMaxNetdevs then { domain.ports index with selectedState := .disabledPort }
      else domain.ports index
    bptasg := { domain.bptasg with
      lastGmPriority := UInteger224.fill 1
      pathTrace := Function.update domain.bptasg.pathTrace 0 domain.ptasg.thisClock
      pathTraceCount := 1 } }

def clearReselectTree (domain : Domain) : Domain :=
  { domain with ports := fun index =>
      if index < absMaxNetdevs then { domain.ports index with reselect := false }
      else domain.ports index }

def setSelectedTree (domain : Domain) : Domain :=
  { domain with ports := fun index =>
      if index < absMaxNetdevs then { domain.ports index with selected := true }
      else domain.ports index }

/-- The branches of `portStateUpdate` on `infoIs` and the asymmetry mode: the
new state of the port and its `updtInfo`. -/
def assignState (gmPriority : UInteger224) (masterStepsRemoved : UInt16) (port : Port) :
    PTPPortState × Bool :=
  if port.bppg.infoIs = .disabled then (.disabledPort, false)
  else if port.ppg.asymmetryMeasurementMode then (.passivePort, false)
  else match port.bppg.infoIs with
    | .aged => (.masterPort, true)
    | .mine =>
      (.masterPort, port.bppg.updtInfo ||
        port.bppg.masterPriority ≠ port.bppg.portPriority ||
        masterStepsRemoved ≠ port.bppg.portStepsRemoved)
    | .received =>
      if gmPriority = gmPathPriority port then (.slavePort, false)
      else if comparePriorityVectors port.bppg.masterPriority port.bppg.portPriority ≠ .superior
      then (.passivePort, false)
      else (.masterPort, true)
    | .disabled => (port.selectedState, port.bppg.updtInfo)

@[simps]
def assignPort (gmPriority : UInteger224) (masterStepsRemoved : UInt16) (port : Port) : Port :=
  { port with
    selectedState := (assignState gmPriority masterStepsRemoved port).1
    bppg := { port.bppg with updtInfo := (assignState gmPriority masterStepsRemoved port).2 } }

def slavePathTrace (thisClock : ClockIdentity) (port : Port)
    (bptasg : BmcsPerTimeAwareSystemGlobal) : BmcsPerTimeAwareSystemGlobal :=
  storePathTrace thisClock port.bppg.annPathSequence
    (min port.bppg.annPathSequenceCount.toNat maxPathTraceN) bptasg

def portStateUpdate (index : Nat) (domain : Domain) : Domain :=
  let port := domain.ports index
  let port' := assignPort domain.bptasg.gmPriority domain.bptasg.masterStepsRemoved port
  let bptasg := if port'.selectedState = .slavePort ∧ port.selectedState ≠ .slavePort then
      slavePathTrace domain.ptasg.thisClock port domain.bptasg
    else domain.bptasg
  { domain.setPort index port' with bptasg := bptasg }

/-- One port of the loop of `updtStatesTree`: a port that stops being the slave
leaves the clock unsynchronized. -/
def updatePort (domain : Domain) (index : Nat) : Domain :=
  let oldState := (domain.ports index).selectedState
  let domain := portStateUpdate index domain
  if (domain.ports index).selectedState ≠ oldState ∧ oldState = .slavePort then
    domain.setGmsync .unsync
  else domain

structure GmChoice where
  priority : UInteger224
  properties : TimeProperties
  deriving DecidableEq

/-- One port of the loop that chooses `gmPriority`. -/
def considerPort (thisClock : ClockIdentity) (port : Port) (best : GmChoice) : GmChoice :=
  if port.bppg.infoIs = .disabled then best
  else if (gmPathPriority port).sourcePortIdentity.clockIdentity ≠ thisClock ∧
      comparePriorityVectors (gmPathPriority port) best.priority = .superior then
    { priority := gmPathPriority port, properties := port.bppg.ann }
  else best

/-- The choice of `gmPriority` from `systemPriority` and the paths of the ports. -/
def chooseGm (cfg : Config) (domain : Domain) : GmChoice :=
  (List.range cfg.maxPorts).foldl
    (fun best index => considerPort domain.ptasg.thisClock (domain.ports index) best)
    { priority := domain.bptasg.systemPriority, properties := domain.bptasg.sys }

def masterPriorityOf (thisClock : ClockIdentity) (gmPriority : UInteger224) (thisPort : UInt16) :
    UInteger224 :=
  { gmPriority with
    sourcePortIdentity := { clockIdentity := thisClock, portIndex := thisPort }
    portNumber := thisPort }

@[simps]
def setMasterPriority (thisClock : ClockIdentity) (gmPriority : UInteger224) (port : Port) : Port :=
  { port with bppg := { port.bppg with
      masterPriority := masterPriorityOf thisClock gmPriority port.ppg.thisPort } }

/-- The part of `updtStatesTree` before the ports are assigned their states. -/
def computePriorities (cfg : Config) (domain : Domain) : Domain :=
  { domain with
    bptasg := { domain.bptasg with
      lastGmPriority := domain.bptasg.gmPriority
      gmPriority := (chooseGm cfg domain).priority
      current := (chooseGm cfg domain).properties
      masterStepsRemoved := (chooseGm cfg domain).priority.stepsRemoved }
    ports := fun index =>
      if index < cfg.maxPorts then
        setMasterPriority domain.ptasg.thisClock (chooseGm cfg domain).priority
          (domain.ports index)
      else domain.ports index }

/-- The loop of `updtStatesTree` over the ports from index 1. -/
def updatePorts (cfg : Config) (domain : Domain) : Domain :=
  (List.range' 1 (cfg.maxPorts - 1)).foldl updatePort domain

def slavePortAvail (cfg : Config) (domain : Domain) : Bool :=
  (List.range' 1 (cfg.maxPorts - 1)).any fun index =>
    (domain.ports index).selectedState == .slavePort

def portZeroState (cfg : Config) (domain : Domain) : PTPPortState :=
  if slavePortAvail cfg domain then .passivePort else .slavePort

def updatePortZero (cfg : Config) (domain : Domain) : Domain :=
  let newState := portZeroState cfg domain
  let updated := domain.setPort 0 { domain.ports 0 with selectedState := newState }
  if (domain.ports 0).selectedState = newState then updated
  else if newState = .slavePort then
    if domain.pssd.deferredGmsync then updated else updated.setGmsync .syncStable
  else updated.setGmsync .unsync

def updateGmPresent (domain : Domain) : Domain :=
  { domain with ptasg := { domain.ptasg with
    gmPresent := domain.bptasg.gmPriority.rootSystemIdentity.priority1 < 255 } }

def updatePathTrace (domain : Domain) : Domain :=
  if domain.ptasg.thisClock = domain.bptasg.gmPriority.rootSystemIdentity.clockIdentity then
    { domain with bptasg := { domain.bptasg with
        pathTrace := Function.update domain.bptasg.pathTrace 0 domain.ptasg.thisClock
        pathTraceCount := 1 } }
  else domain

/-- `updtStatesTree`: the returned clock identity says that the grandmaster
changed. -/
def updtStatesTree (cfg : Config) (domain : Domain) : Domain × Option ClockIdentity :=
  let updated := updatePathTrace <| updatePortZero cfg <| updateGmPresent <|
    updatePorts cfg <| computePriorities cfg domain
  (updated, if updated.bptasg.lastGmPriority ≠ updated.bptasg.gmPriority then
      some updated.bptasg.gmPriority.rootSystemIdentity.clockIdentity
    else none)

namespace StateSelection

def setPriority1 (value : UInt8) (domain : Domain) : Domain :=
  { domain with bptasg := { domain.bptasg with
      systemPriority := { domain.bptasg.systemPriority with
        rootSystemIdentity := { domain.bptasg.systemPriority.rootSystemIdentity with
          priority1 := value } } } }

def clearInitSlave (cfg : Config) (domain : Domain) : Domain :=
  { setPriority1 cfg.priority1 domain with
    pssd := { domain.pssd with deferredGmsync := false, initSlaveTs := 0 } }

def procInitSlave (cfg : Config) (cts64 : UInt64) (domain : Domain) :
    Domain × Option ClockIdentity :=
  let clearexit (domain : Domain) : Domain × Option ClockIdentity :=
    updtStatesTree cfg (clearInitSlave cfg domain)
  if (domain.ports 0).selectedState ≠ .slavePort ∧
      GmsyncStatus.sync.toNat ≤ (domain.gmsync 0).toNat ∧ domain.ptasg.gmStableInitdone then
    clearexit domain
  else if domain.pssd.initSlaveTs < cts64.toInt64 then
    if (domain.ports 0).selectedState = .slavePort then
      clearexit (domain.setGmsync .syncStable)
    else clearexit domain
  else (domain, none)

def procDeferredGmsync (cfg : Config) (cts64 : UInt64) (domain : Domain) :
    Domain × Option ClockIdentity :=
  if domain.pssd.initSlaveTs ≠ 0 then procInitSlave cfg cts64 domain
  else if domain.ptasg.domainIndex = 0 then (domain, none)
  else if GmsyncStatus.syncStable.toNat ≤ (domain.gmsync 0).toNat then
    let domain := if (domain.ports 0).selectedState = .slavePort then
        domain.setGmsync .syncStable else domain
    ({ domain with pssd := { domain.pssd with deferredGmsync := false } }, none)
  else (domain, none)

def moveTo (state : StateSelectionState) (domain : Domain) : Domain :=
  { domain with pssd := { domain.pssd with state := state } }

def allstateCondition (domain : Domain) : StateSelectionState :=
  if (domain.ptasg.BEGIN || !domain.ptasg.instanceEnable) &&
      domain.bptasg.externalPortConfiguration == valueDisabled then .initBridge
  else domain.pssd.state

def initBridgeProc (cfg : Config) (domain : Domain) : Domain :=
  if 0 ≤ cfg.staticSlave then
    let domain := { domain with
      ports := fun index =>
        if index < absMaxNetdevs then
          { domain.ports index with
            selectedState := if (index : Int) = cfg.staticSlave then .slavePort else .masterPort }
        else domain.ports index
      ptasg := { domain.ptasg with gmPresent := true } }
    if cfg.staticSlave = 0 then domain.setGmsync .syncStable else domain
  else updateStateDisabledTree domain

def initBridgeCondition (cfg : Config) (domain : Domain) : Domain × StateSelectionState :=
  if 0 ≤ cfg.staticSlave then
    if cfg.staticSlave ≥ absMaxNetdevs ∨ cfg.staticSlave = 0 then (domain, .initBridge)
    else if (domain.ports cfg.staticSlave.toNat).ppg.asCapable then
      if domain.ownGmsync.toNat < GmsyncStatus.sync.toNat then
        (domain.setGmsync .sync, .initBridge)
      else (domain, .initBridge)
    else (domain.setGmsync .unsync, .initBridge)
  else (domain, .stateSelection)

/-- The part of `state_selection_proc` that starts the initial slave phase of
domain 0 or defers the synchronization of another domain. -/
def deferGmsync (cfg : Config) (cts64 : UInt64) (domain : Domain) : Domain :=
  if domain.ptasg.gmStableInitdone then domain
  else if domain.ptasg.domainIndex ≠ 0 then
    { domain with pssd := { domain.pssd with deferredGmsync := true } }
  else if cfg.initialSlaveTime ≠ 0 then
    { setPriority1 254 domain with
      pssd := { domain.pssd with
        initSlaveTs := cts64.toInt64 + Int64.ofInt (cfg.initialSlaveTime * ubSecNs)
        deferredGmsync := true } }
  else domain

def stateSelectionProc (cfg : Config) (cts64 : UInt64) (domain : Domain) :
    Domain × Option ClockIdentity :=
  let domain := clearReselectTree { domain with pssd := { domain.pssd with
    systemIdentityChange := false, asymmetryMeasurementModeChange := false } }
  let updated := updtStatesTree cfg (deferGmsync cfg cts64 domain)
  (setSelectedTree updated.1, updated.2)

/-- Whether some `reselect` flag is set. -/
def anyReselect (domain : Domain) : Bool :=
  (List.range absMaxNetdevs).any fun index => (domain.ports index).reselect

def selectionRequested (domain : Domain) : Bool :=
  anyReselect domain || domain.pssd.systemIdentityChange ||
    domain.pssd.asymmetryMeasurementModeChange

/-- `state_selection_condition`, which forces the procedure to run again by
resetting the last state. -/
def stateSelectionCondition (domain : Domain) : Domain :=
  if selectionRequested domain then
    { domain with pssd := { domain.pssd with lastState := .reaction, state := .stateSelection } }
  else domain

def deferredStep (cfg : Config) (cts64 : UInt64) (domain : Domain) :
    Domain × Option ClockIdentity :=
  if domain.pssd.deferredGmsync then procDeferredGmsync cfg cts64 domain else (domain, none)

def selectionStep (cfg : Config) (cts64 : UInt64) (stateChange : Bool) (domain : Domain) :
    Domain × Option ClockIdentity :=
  if stateChange then stateSelectionProc cfg cts64 domain else (domain, none)

def arm (cfg : Config) (cts64 : UInt64) (stateChange : Bool) (domain : Domain) :
    Domain × Option ClockIdentity :=
  match domain.pssd.state with
  | .init => (moveTo .initBridge domain, none)
  | .initBridge =>
    let domain := if stateChange then initBridgeProc cfg domain else domain
    let next := initBridgeCondition cfg domain
    (moveTo next.2 next.1, none)
  | .stateSelection =>
    let deferred := deferredStep cfg cts64 domain
    if deferred.2.isSome then deferred
    else
      let selection := selectionStep cfg cts64 stateChange deferred.1
      (stateSelectionCondition selection.1, selection.2)
  | .reaction => (domain, none)

def machine (cfg : Config) (cts64 : UInt64) :
    Machine Domain StateSelectionState ClockIdentity where
  state domain := domain.pssd.state
  lastState domain := domain.pssd.lastState
  setLastState domain state := { domain with pssd := { domain.pssd with lastState := state } }
  arm := arm cfg cts64

end StateSelection

open StateSelection in
/-- `port_state_selection_sm`, for at most sixteen turns. -/
def portStateSelectionSm (cfg : Config) (cts64 : UInt64) (domain : Domain) :
    Option (Domain × Option ClockIdentity) :=
  (machine cfg cts64).run 16 (moveTo (allstateCondition domain) domain)

end EnetTsn.Bmcs
