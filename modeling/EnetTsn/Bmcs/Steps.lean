import EnetTsn.Bmcs.AnnounceTransmit
import EnetTsn.Bmcs.ExternalPort
import EnetTsn.Bmcs.Initial
import EnetTsn.Bmcs.IntervalSetting
import EnetTsn.Bmcs.StateSelection
import EnetTsn.Library.Run

/-!
A domain as a system of interleaved steps: every call of one of its state
machines is a step of its own, and so is every change that the code around them
makes. The handlers of `gptpman` run some of these steps in a fixed order; here
any order is allowed.
-/

namespace EnetTsn.Bmcs

open EnetTsn.Gptp EnetTsn.Library

namespace Domain

/-- Whether `sm_bmcs_perform` takes its branch for external port configuration. -/
def external (domain : Domain) : Bool :=
  domain.bptasg.externalPortConfiguration != valueDisabled

def view (domain : Domain) : InstanceView := { ptasg := domain.ptasg, bptasg := domain.bptasg }

def onPort (index : Nat) (call : Port → Option Port) (domain : Domain) : Option Domain :=
  (call (domain.ports index)).map (domain.setPort index)

def onReceive (index : Nat) (call : ReceiveData → Option ReceiveData) (domain : Domain) :
    Option Domain :=
  (call { port := domain.ports index, bptasg := domain.bptasg }).map fun data =>
    { domain.setPort index data.port with bptasg := data.bptasg }

def setPpg (index : Nat) (change : PerPortGlobal → PerPortGlobal) (domain : Domain) : Domain :=
  domain.setPort index
    { domain.ports index with ppg := change (domain.ports index).ppg }

end Domain

inductive PortStep where
  /-- `port_announce_receive_sm_recv_announce`. -/
  | recvAnnounce (announce : PTPMsgAnnounce)
  | announceReceive
  | announceInformation (cts64 : UInt64)
  | syncReceiptTimeoutTime (time : UInt64)
  | announceTransmit (cts64 : UInt64)
  /-- The announce interval machine, with the request of a signaling message. -/
  | announceInterval (request : Option Int8)
  | gptpCapableInterval (request : Option Int8)
  | portOper (value : Bool)
  | asCapable (value : Bool)
  | asymmetryMeasurementMode (value : Bool)

inductive Step where
  | port (index : Nat) (step : PortStep)
  /-- The branch of `sm_bmcs_perform` for external port configuration. -/
  | external (index : Nat)
  | stateSelection (cts64 : UInt64)
  | gmStable
  | gmChange (clockIdentity : ClockIdentity)
  | clockSourceReq
  | asCapableOrAll (value : Bool)
  | gmsync (domainIndex : Nat) (status : GmsyncStatus)

namespace IntervalSetting

def call (setting : IntervalSetting) (ptasg : PerTimeAwareSystemGlobal) (request : Option Int8)
    (port : Port) : Option Port :=
  match request with
  | none => setting.run ptasg port
  | some requested => setting.recvSignaling ptasg requested port

end IntervalSetting

/-- A change of the asymmetry measurement mode, with the flag that announces it to
the external selection. -/
def setMode (value : Bool) (port : Port) : Port :=
  { port with
    ppg := { port.ppg with asymmetryMeasurementMode := value }
    pssextd := { port.pssextd with asymmetryMeasurementModeChangeThisPort := true } }

def PortStep.perform (index : Nat) (domain : Domain) : PortStep → Option Domain
  | .recvAnnounce announce =>
    domain.onReceive index (portAnnounceReceiveSmRecvAnnounce domain.ptasg announce)
  | .announceReceive => domain.onReceive index (portAnnounceReceiveSm domain.ptasg)
  | .announceInformation cts64 =>
    if domain.external then none
    else domain.onPort index (portAnnounceInformationSm domain.view cts64)
  | .syncReceiptTimeoutTime time =>
    domain.onPort index fun port => some (portAnnounceInformationSmSyncReceiptTimeoutTime time port)
  | .announceTransmit cts64 =>
    domain.onPort index fun port => (portAnnounceTransmitSm domain.view cts64 8 port).map (·.1)
  | .announceInterval request =>
    domain.onPort index (announceIntervalSetting.call domain.ptasg request)
  | .gptpCapableInterval request =>
    domain.onPort index (gptpCapableIntervalSetting.call domain.ptasg request)
  | .portOper value => some (domain.setPpg index fun ppg => { ppg with portOper := value })
  | .asCapable value => some (domain.setPpg index fun ppg => { ppg with asCapable := value })
  | .asymmetryMeasurementMode value =>
    some { domain.setPort index (setMode value (domain.ports index)) with
      pssd := { domain.pssd with asymmetryMeasurementModeChange := true } }

def perform (cfg : Config) (domain : Domain) : Step → Option Domain
  | .port index step =>
    if 0 < index ∧ index < cfg.maxPorts then step.perform index domain else none
  | .external index =>
    if 0 < index ∧ index < cfg.maxPorts ∧ domain.external then performExternal cfg index domain
    else none
  | .stateSelection cts64 =>
    if domain.external then none else (portStateSelectionSm cfg cts64 domain).map (·.1)
  | .gmStable => gmStableSm domain
  | .gmChange clockIdentity => gmStableGmChange clockIdentity domain
  | .clockSourceReq => clockMasterSyncReceiveSmClockSourceReq cfg domain
  | .asCapableOrAll value => some { domain with ptasg := { domain.ptasg with
      asCapableOrAll := value } }
  | .gmsync domainIndex status => some { domain with
      gmsync := Function.update domain.gmsync domainIndex status }

def domainSystem (cfg : Config) (settings : Settings) : System Domain Step where
  start := Domain.init cfg settings
  step := perform cfg

def masterSteps (index : Nat) : List Step :=
  [.port index (.portOper true), .port index (.asCapable true),
    .port index (.announceInformation 0), .stateSelection 0,
    .port index (.announceInformation 0), .stateSelection 0]

end EnetTsn.Bmcs
