import EnetTsn.Bmcs.AnnounceInformation

namespace EnetTsn.Bmcs

open EnetTsn.Gptp EnetTsn.Library

structure ExternalData where
  port : Port
  bptasg : BmcsPerTimeAwareSystemGlobal

namespace AnnounceInformationExt

/-- The trace `rcvdInfoExt` stores for a slave port. Its count is left as it is. -/
def storeTrace (thisClock : ClockIdentity) (announce : PTPMsgAnnounce)
    (bptasg : BmcsPerTimeAwareSystemGlobal) : BmcsPerTimeAwareSystemGlobal :=
  let count := min (announce.stepsRemoved.toNat + 1) maxPathTraceN
  { bptasg with
    pathTrace :=
      if count < maxPathTraceN then
        Function.update (memcpy bptasg.pathTrace (identityAt announce.pathSequence) count) count
          thisClock
      else memcpy bptasg.pathTrace (fun _ => ClockIdentity.fill 0) maxPathTraceN }

def rcvdInfoExt (thisClock : ClockIdentity) (data : ExternalData) : ExternalData :=
  let announce := data.port.parecd.buffer
  { port := { data.port with
      paiextd := { data.port.paiextd with
        messagePriority :=
          messageVector data.port.paiextd.messagePriority announce data.port.ppg.thisPort }
      bppg := { data.port.bppg with messageStepsRemoved := announce.stepsRemoved } }
    bptasg := if data.port.selectedState = .slavePort then
        storeTrace thisClock announce data.bptasg
      else data.bptasg }

/-- `receive_proc`, which records the other information and the steps removed. -/
def receiveProc (thisClock : ClockIdentity) (data : ExternalData) : ExternalData :=
  let data := rcvdInfoExt thisClock data
  { data with port := { data.port with bppg := { data.port.bppg with
      ann := data.port.parecd.buffer.timeProperties
      portStepsRemoved := data.port.bppg.messageStepsRemoved + 1 } } }

def initializeProc (data : ExternalData) : ExternalData :=
  { data with port := { data.port with
      paiextd := { data.port.paiextd with rcvdAnnounce := false }
      bppg := { data.port.bppg with updtInfo := false } } }

def moveTo (state : AnnounceInformationExtState) (data : ExternalData) : ExternalData :=
  { data with port := { data.port with paiextd := { data.port.paiextd with state := state } } }

def allstateCondition (ptasg : PerTimeAwareSystemGlobal) (data : ExternalData) :
    AnnounceInformationExtState :=
  if (!data.port.up || ptasg.BEGIN || !ptasg.instanceEnable) &&
      data.bptasg.externalPortConfiguration == 1 then .initialise
  else data.port.paiextd.state

/-- `PORT_OPER && PTP_PORT_ENABLED && AS_CAPABLE && rcvdAnnounce`. -/
def received (data : ExternalData) : Bool := data.port.up && data.port.paiextd.rcvdAnnounce

/-- `receive_proc` hands its message priority over. -/
def arm (ptasg : PerTimeAwareSystemGlobal) (stateChange : Bool) (data : ExternalData) :
    ExternalData × Option UInteger224 :=
  match data.port.paiextd.state with
  | .init => (moveTo .initialise data, none)
  | .initialise =>
    let data := if stateChange then initializeProc data else data
    (moveTo (if received data then .receive else .initialise) data, none)
  | .receive =>
    let result := if stateChange then receiveProc ptasg.thisClock data else data
    (moveTo (if received result then .reaction else .receive) result,
      if stateChange then some result.port.paiextd.messagePriority else none)
  | .reaction => (data, none)

def machine (ptasg : PerTimeAwareSystemGlobal) :
    Machine ExternalData AnnounceInformationExtState UInteger224 where
  state data := data.port.paiextd.state
  lastState data := data.port.paiextd.lastState
  setLastState data state :=
    { data with port := { data.port with paiextd := { data.port.paiextd with lastState := state } } }
  arm := arm ptasg

end AnnounceInformationExt

open AnnounceInformationExt in
def portAnnounceInformationExtSm (ptasg : PerTimeAwareSystemGlobal) (data : ExternalData) :
    Option (ExternalData × Option UInteger224) :=
  (machine ptasg).run 8 (moveTo (allstateCondition ptasg data) data)

namespace StateSettingExt

def slavePortAvail (cfg : Config) (first : Nat) (domain : Domain) : Bool :=
  (List.range' first (cfg.maxPorts - first)).any fun index =>
    (domain.ports index).selectedState == .slavePort

def setSelectedState (index : Nat) (state : PTPPortState) (domain : Domain) : Domain :=
  domain.setPort index { domain.ports index with selectedState := state }

def ownTrace (domain : Domain) : Domain :=
  let cleared := memcpy domain.bptasg.pathTrace (fun _ => ClockIdentity.fill 0) maxPathTraceN
  { domain with bptasg := { domain.bptasg with
      pathTrace := Function.update cleared 0 domain.ptasg.thisClock } }

def resetStateDisabledTree (cfg : Config) (index : Nat) (domain : Domain) : Domain :=
  let domain := setSelectedState index .disabledPort domain
  if slavePortAvail cfg 0 domain then domain else ownTrace domain

def slaveIndex (cfg : Config) (domain : Domain) : Option Nat :=
  (List.range' 1 (cfg.maxPorts - 1)).find? fun index =>
    (domain.ports index).selectedState == .slavePort

/-- The first part of `updtPortState`: the time properties, the steps removed and
whether there is a grandmaster. -/
def takeInformation (index : Nat) (slave : Option Nat) (domain : Domain) : Domain :=
  match slave with
  | some slave =>
    { domain with
      bptasg := { domain.bptasg with
        current := (domain.ports index).bppg.ann
        masterStepsRemoved := (domain.ports slave).bppg.portStepsRemoved }
      ptasg := { domain.ptasg with gmPresent :=
        (domain.ports index).pssextd.messagePriority.rootSystemIdentity.priority1 < 255 } }
  | none =>
    { domain with
      bptasg := { domain.bptasg with
        gmPriority := domain.bptasg.systemPriority
        current := domain.bptasg.sys
        masterStepsRemoved := 0 }
      ptasg := { domain.ptasg with gmPresent :=
        domain.bptasg.systemPriority.rootSystemIdentity.priority1 < 255 } }

/-- The state `updtPortState` gives its port. -/
def portState (port : Port) : PTPPortState :=
  if port.pssextd.disabledExt then .disabledPort
  else if port.ppg.asymmetryMeasurementMode then .passivePort
  else port.pssextd.portStateInd

def assignStates (index : Nat) (slave : Option Nat) (domain : Domain) : Domain :=
  let newState := portState (domain.ports index)
  let domain := setSelectedState index newState domain
  if newState = .slavePort then setSelectedState 0 .passivePort domain
  else if slave.isNone then setSelectedState 0 .slavePort domain
  else domain

def computeGmPriority (index : Nat) (slave : Option Nat) (domain : Domain) : Domain :=
  { domain with bptasg := { domain.bptasg with
      gmPriority :=
        if slave.isNone then domain.bptasg.systemPriority
        else if (domain.ports index).selectedState = .slavePort then
          (domain.ports index).pssextd.messagePriority
        else domain.bptasg.gmPriority } }

def computeMasterPriority (index : Nat) (domain : Domain) : Domain :=
  let port := domain.ports index
  domain.setPort index { port with bppg := { port.bppg with masterPriority :=
    { domain.bptasg.gmPriority with
      sourcePortIdentity :=
        { clockIdentity := domain.ptasg.thisClock, portIndex := port.ppg.thisPort }
      portNumber := port.ppg.thisPort } } }

/-- `updtPortState`; whether there is a slave port is looked up before the state
is assigned. -/
def updtPortState (cfg : Config) (index : Nat) (domain : Domain) : Domain :=
  let slave := slaveIndex cfg domain
  let domain := computeMasterPriority index <| computeGmPriority index slave <|
    assignStates index slave <| takeInformation index slave domain
  if slave.isNone then ownTrace domain else domain

def modify (index : Nat) (change : PortStateSettingExtData → PortStateSettingExtData)
    (domain : Domain) : Domain :=
  domain.setPort index
    { domain.ports index with pssextd := change (domain.ports index).pssextd }

def moveTo (index : Nat) (state : StateSettingExtState) (domain : Domain) : Domain :=
  modify index (fun data => { data with state := state }) domain

def allstateCondition (index : Nat) (domain : Domain) : StateSettingExtState :=
  if (domain.ptasg.BEGIN || !domain.ptasg.instanceEnable) &&
      domain.bptasg.externalPortConfiguration == 1 then .initialise
  else (domain.ports index).pssextd.state

def stateSettingProc (cfg : Config) (index : Nat) (domain : Domain) : Domain :=
  modify index (fun data => { data with
    asymmetryMeasurementModeChangeThisPort := false, rcvdPortStateInd := false })
    (updtPortState cfg index domain)

def requested (data : PortStateSettingExtData) : Bool :=
  data.rcvdPortStateInd || data.asymmetryMeasurementModeChangeThisPort

/-- `state_setting_condition` resets the last state while there is more to do. -/
def stateSettingCondition (index : Nat) (domain : Domain) : Domain :=
  let data := (domain.ports index).pssextd
  if requested data || data.disabledExt then
    modify index (fun data => { data with lastState := .reaction, state := .stateSetting }) domain
  else moveTo index .stateSetting domain

def arm (cfg : Config) (index : Nat) (stateChange : Bool) (domain : Domain) :
    Domain × Option Unit :=
  match (domain.ports index).pssextd.state with
  | .init => (moveTo index .initialise domain, none)
  | .initialise =>
    let domain := if stateChange then resetStateDisabledTree cfg index domain else domain
    (moveTo index (if requested (domain.ports index).pssextd then .stateSetting else .initialise)
      domain, none)
  | .stateSetting =>
    let domain := if stateChange then stateSettingProc cfg index domain else domain
    (stateSettingCondition index domain, none)
  | .reaction => (domain, none)

def machine (cfg : Config) (index : Nat) : Machine Domain StateSettingExtState Unit where
  state domain := (domain.ports index).pssextd.state
  lastState domain := (domain.ports index).pssextd.lastState
  setLastState domain state := modify index (fun data => { data with lastState := state }) domain
  arm := arm cfg index

end StateSettingExt

open StateSettingExt in
/-- `port_state_setting_ext_sm`, for at most eight turns: it need not end while
`disabledExt` is set. -/
def portStateSettingExtSm (cfg : Config) (index : Nat) (domain : Domain) : Option Domain :=
  ((machine cfg index).run 8 (moveTo index (allstateCondition index domain) domain)).map (·.1)

/-- The branch of `sm_bmcs_perform` for external port configuration. -/
def performExternal (cfg : Config) (index : Nat) (domain : Domain) : Option Domain :=
  (portAnnounceInformationExtSm domain.ptasg
    { port := domain.ports index, bptasg := domain.bptasg }).bind fun (data, result) =>
  let domain : Domain := { domain.setPort index data.port with bptasg := data.bptasg }
  portStateSettingExtSm cfg index <| match result with
    | some priority =>
      StateSettingExt.modify index (fun data => { data with messagePriority := priority }) domain
    | none => domain

/-- What the external machines leave alone of a port. A new `masterPriority` is
signed by this clock. -/
structure ExternalPortKept (thisClock : ClockIdentity) (before after : Port) : Prop where
  rest : after = { before with
    selectedState := after.selectedState
    paiextd := after.paiextd
    pssextd := after.pssextd
    bppg := { before.bppg with
      updtInfo := after.bppg.updtInfo
      messageStepsRemoved := after.bppg.messageStepsRemoved
      ann := after.bppg.ann
      portStepsRemoved := after.bppg.portStepsRemoved
      masterPriority := after.bppg.masterPriority } }
  updtInfo : after.bppg.updtInfo = true → before.bppg.updtInfo = true
  masterPriority : after.bppg.masterPriority = before.bppg.masterPriority ∨
    after.bppg.masterPriority.sourcePortIdentity.clockIdentity = thisClock
  portStateInd : after.pssextd.portStateInd = before.pssextd.portStateInd

namespace ExternalPortKept

theorem refl (thisClock : ClockIdentity) (port : Port) : ExternalPortKept thisClock port port :=
  ⟨rfl, id, Or.inl rfl, rfl⟩

theorem trans (first : ExternalPortKept thisClock before middle)
    (second : ExternalPortKept thisClock middle after) :
    ExternalPortKept thisClock before after where
  rest := by rw [second.rest, first.rest]
  updtInfo updt := first.updtInfo (second.updtInfo updt)
  masterPriority := by
    rcases second.masterPriority with same | signed
    · rw [same]
      exact first.masterPriority
    · exact Or.inr signed
  portStateInd := second.portStateInd.trans first.portStateInd

end ExternalPortKept

/-- What the external branch leaves alone of a domain. Besides port 0 only a port
whose external state says so becomes the slave. -/
structure ExternalFrame (before after : Domain) : Prop where
  ports : ∀ index,
    ExternalPortKept before.ptasg.thisClock (before.ports index) (after.ports index)
  slave : ∀ index, 0 < index → (after.ports index).selectedState = .slavePort →
    (before.ports index).selectedState = .slavePort ∨
      (before.ports index).pssextd.portStateInd = .slavePort
  ptasg : after.ptasg = { before.ptasg with gmPresent := after.ptasg.gmPresent }
  bptasg : after.bptasg = { before.bptasg with
    pathTrace := after.bptasg.pathTrace
    current := after.bptasg.current
    masterStepsRemoved := after.bptasg.masterStepsRemoved
    gmPriority := after.bptasg.gmPriority }
  pssd : after.pssd = before.pssd
  gmsd : after.gmsd = before.gmsd
  cmsrecd : after.cmsrecd = before.cmsrecd
  gmsync : after.gmsync = before.gmsync

namespace ExternalFrame

theorem refl (domain : Domain) : ExternalFrame domain domain :=
  ⟨fun _ => .refl _ _, fun _ _ => Or.inl, rfl, rfl, rfl, rfl, rfl, rfl⟩

theorem thisClock (frame : ExternalFrame before after) :
    after.ptasg.thisClock = before.ptasg.thisClock := by rw [frame.ptasg]

theorem trans (first : ExternalFrame before middle) (second : ExternalFrame middle after) :
    ExternalFrame before after where
  ports index := (first.ports index).trans (first.thisClock ▸ second.ports index)
  slave index positive slave := by
    rcases second.slave index positive slave with before | external
    · exact first.slave index positive before
    · exact Or.inr ((first.ports index).portStateInd ▸ external)
  ptasg := by rw [second.ptasg, first.ptasg]
  bptasg := by rw [second.bptasg, first.bptasg]
  pssd := second.pssd.trans first.pssd
  gmsd := second.gmsd.trans first.gmsd
  cmsrecd := second.cmsrecd.trans first.cmsrecd
  gmsync := second.gmsync.trans first.gmsync

theorem setPort (kept : ExternalPortKept domain.ptasg.thisClock (domain.ports index) port)
    (slave : 0 < index → port.selectedState = .slavePort →
      (domain.ports index).selectedState = .slavePort ∨
        (domain.ports index).pssextd.portStateInd = .slavePort) :
    ExternalFrame domain (domain.setPort index port) := by
  refine ⟨fun other => ?_, fun other => ?_, rfl, rfl, rfl, rfl, rfl, rfl⟩
  all_goals by_cases same : other = index
  · subst same
    simpa using kept
  · rw [Domain.setPort_ports_other _ _ _ same]
    exact .refl _ _
  · subst same
    simpa using slave
  · rw [Domain.setPort_ports_other _ _ _ same]
    exact fun _ => Or.inl

end ExternalFrame

namespace StateSettingExt

variable (cfg : Config) (index : Nat) (domain : Domain)

theorem frame_modify (change : PortStateSettingExtData → PortStateSettingExtData)
    (kept : ∀ data, (change data).portStateInd = data.portStateInd) :
    ExternalFrame domain (modify index change domain) :=
  .setPort ⟨rfl, id, Or.inl rfl, kept _⟩ fun _ => Or.inl

theorem frame_setSelectedState (state : PTPPortState) (external : 0 < index → state = .slavePort →
      (domain.ports index).pssextd.portStateInd = .slavePort) :
    ExternalFrame domain (setSelectedState index state domain) :=
  .setPort ⟨rfl, id, Or.inl rfl, rfl⟩ fun positive slave => Or.inr (external positive slave)

theorem frame_ownTrace : ExternalFrame domain (ownTrace domain) :=
  ⟨fun _ => .refl _ _, fun _ _ => Or.inl, rfl, rfl, rfl, rfl, rfl, rfl⟩

private theorem portState_slavePort (port : Port) (slave : portState port = .slavePort) :
    port.pssextd.portStateInd = .slavePort := by
  unfold portState at slave
  split at slave
  · cases slave
  · split at slave
    · cases slave
    · exact slave

private theorem frame_resetStateDisabledTree :
    ExternalFrame domain (resetStateDisabledTree cfg index domain) := by
  have disabled := frame_setSelectedState index domain .disabledPort nofun
  unfold resetStateDisabledTree
  dsimp only
  split
  · exact disabled
  · exact disabled.trans (frame_ownTrace _)

variable (slave : Option Nat)

private theorem frame_takeInformation : ExternalFrame domain (takeInformation index slave domain) := by
  cases slave <;> exact ⟨fun _ => .refl _ _, fun _ _ => Or.inl, rfl, rfl, rfl, rfl, rfl, rfl⟩

private theorem frame_assignStates : ExternalFrame domain (assignStates index slave domain) := by
  have assigned := frame_setSelectedState index domain (portState (domain.ports index))
    fun _ => portState_slavePort _
  unfold assignStates
  dsimp only
  split
  · exact assigned.trans (frame_setSelectedState 0 _ _ nofun)
  · split
    · exact assigned.trans (frame_setSelectedState 0 _ _ nofun)
    · exact assigned

private theorem frame_computeGmPriority : ExternalFrame domain (computeGmPriority index slave domain) :=
  ⟨fun _ => .refl _ _, fun _ _ => Or.inl, rfl, rfl, rfl, rfl, rfl, rfl⟩

private theorem frame_computeMasterPriority : ExternalFrame domain (computeMasterPriority index domain) :=
  .setPort ⟨rfl, id, Or.inr rfl, rfl⟩ fun _ => Or.inl

theorem frame_updtPortState : ExternalFrame domain (updtPortState cfg index domain) := by
  have computed := (((frame_takeInformation index domain (slaveIndex cfg domain)).trans
    (frame_assignStates index _ (slaveIndex cfg domain))).trans
    (frame_computeGmPriority index _ (slaveIndex cfg domain))).trans
    (frame_computeMasterPriority index _)
  unfold updtPortState
  dsimp only
  split
  · exact computed.trans (frame_ownTrace _)
  · exact computed

theorem frame_moveTo (state : StateSettingExtState) :
    ExternalFrame domain (moveTo index state domain) := frame_modify index domain _ fun _ => rfl

private theorem frame_stateSettingProc : ExternalFrame domain (stateSettingProc cfg index domain) :=
  (frame_updtPortState cfg index domain).trans (frame_modify index _ _ fun _ => rfl)

theorem frame_stateSettingCondition : ExternalFrame domain (stateSettingCondition index domain) := by
  unfold stateSettingCondition
  dsimp only
  split
  · exact frame_modify index domain _ fun _ => rfl
  · exact frame_moveTo index domain _

private theorem frame_arm (stateChange : Bool) :
    ExternalFrame domain (arm cfg index stateChange domain).1 := by
  unfold arm
  split
  · exact frame_moveTo index domain _
  · cases stateChange with
    | false => exact frame_moveTo index domain _
    | true =>
      exact (frame_resetStateDisabledTree cfg index domain).trans (frame_moveTo index _ _)
  · cases stateChange with
    | false => exact frame_stateSettingCondition index domain
    | true =>
      exact (frame_stateSettingProc cfg index domain).trans (frame_stateSettingCondition index _)
  · exact .refl domain

private theorem frame_run (finished : portStateSettingExtSm cfg index domain = some next) :
    ExternalFrame domain next := by
  obtain ⟨⟨final, result⟩, ran, rfl⟩ := Option.map_eq_some_iff.mp finished
  refine (machine cfg index).run_preserves (ExternalFrame domain) ?_
    (frame_moveTo index domain _) ran
  intro current frame
  have remembered : ExternalFrame current ((machine cfg index).setLastState current
      ((machine cfg index).state current)) :=
    frame_modify index current
      (fun data => { data with lastState := (machine cfg index).state current }) fun _ => rfl
  exact (frame.trans remembered).trans (frame_arm cfg index _ _)

end StateSettingExt

structure ExternalKept (thisClock : ClockIdentity) (before after : ExternalData) : Prop where
  port : ExternalPortKept thisClock before.port after.port
  selectedState : after.port.selectedState = before.port.selectedState
  bptasg : after.bptasg = { before.bptasg with pathTrace := after.bptasg.pathTrace }

namespace AnnounceInformationExt

theorem kept_trans (first : ExternalKept thisClock before middle)
    (second : ExternalKept thisClock middle after) : ExternalKept thisClock before after :=
  ⟨first.port.trans second.port, second.selectedState.trans first.selectedState,
    by rw [second.bptasg, first.bptasg]⟩

theorem kept_moveTo (state : AnnounceInformationExtState) (data : ExternalData) :
    ExternalKept thisClock data (moveTo state data) :=
  ⟨⟨rfl, id, Or.inl rfl, rfl⟩, rfl, rfl⟩

private theorem kept_initializeProc (data : ExternalData) :
    ExternalKept thisClock data (initializeProc data) :=
  ⟨⟨rfl, fun updt => absurd updt Bool.false_ne_true, Or.inl rfl, rfl⟩, rfl, rfl⟩

theorem kept_receiveProc (data : ExternalData) :
    ExternalKept thisClock data (receiveProc thisClock data) := by
  refine ⟨⟨rfl, id, Or.inl rfl, rfl⟩, rfl, ?_⟩
  unfold receiveProc rcvdInfoExt storeTrace
  split <;> rfl

private theorem kept_arm (ptasg : PerTimeAwareSystemGlobal) (stateChange : Bool) (data : ExternalData) :
    ExternalKept ptasg.thisClock data (arm ptasg stateChange data).1 := by
  unfold arm
  split
  · exact kept_moveTo _ _
  · cases stateChange with
    | false => exact kept_moveTo _ _
    | true => exact kept_trans (kept_initializeProc data) (kept_moveTo _ _)
  · cases stateChange with
    | false => exact kept_moveTo _ _
    | true => exact kept_trans (kept_receiveProc data) (kept_moveTo _ _)
  · exact ⟨.refl _ _, rfl, rfl⟩

private theorem kept_run (finished : portAnnounceInformationExtSm ptasg data = some (next, result)) :
    ExternalKept ptasg.thisClock data next := by
  refine (machine ptasg).run_preserves (ExternalKept ptasg.thisClock data) ?_ (kept_moveTo _ _)
    finished
  intro current kept
  have remembered : ExternalKept ptasg.thisClock current
      ((machine ptasg).setLastState current ((machine ptasg).state current)) :=
    ⟨⟨rfl, id, Or.inl rfl, rfl⟩, rfl, rfl⟩
  exact kept_trans (kept_trans kept remembered) (kept_arm ptasg _ _)

end AnnounceInformationExt

/-- The external branch of `sm_bmcs_perform` stays within its frame. -/
theorem frame_performExternal (finished : performExternal cfg index domain = some next) :
    ExternalFrame domain next := by
  obtain ⟨⟨data, result⟩, ran, rest⟩ := Option.bind_eq_some_iff.mp finished
  have kept := AnnounceInformationExt.kept_run ran
  have stored : ExternalFrame domain
      { domain.setPort index data.port with bptasg := data.bptasg } :=
    { ExternalFrame.setPort kept.port fun _ slave => Or.inl (kept.selectedState ▸ slave) with
      bptasg := by rw [kept.bptasg] }
  refine (stored.trans ?_).trans (StateSettingExt.frame_run cfg index _ rest)
  cases result with
  | none => exact .refl _
  | some priority => exact StateSettingExt.frame_modify index _ _ fun _ => rfl

end EnetTsn.Bmcs
