import EnetTsn.Interval.RequestSetting
import EnetTsn.Library.Run

namespace EnetTsn.Interval

open EnetTsn.Bmcs EnetTsn.Gptp EnetTsn.Library

/-- The intervals that `adjust_tout_interval` is called with. -/
structure ToutIntervals where
  syncIntervalNs : UInt64
  announceIntervalNs : UInt64
  pDelayIntervalNs : UInt64
  asCapableIntervalNs : UInt64
  deriving DecidableEq, Repr

def ToutIntervals.toList (intervals : ToutIntervals) : List UInt64 :=
  [intervals.syncIntervalNs, intervals.announceIntervalNs, intervals.pDelayIntervalNs,
    intervals.asCapableIntervalNs]

def maxToutIntervalNs : UInt64 := 125000000

def shorten (minToutIntervalNs intervalNs : UInt64) : UInt64 :=
  if intervalNs ≠ 0 then
    if intervalNs < minToutIntervalNs then intervalNs else minToutIntervalNs
  else minToutIntervalNs

def adjustToutInterval (crrToutIntervalNs : UInt32) (intervals : ToutIntervals) : UInt32 :=
  let minToutIntervalNs := shorten maxToutIntervalNs intervals.syncIntervalNs
  let minToutIntervalNs := shorten minToutIntervalNs intervals.announceIntervalNs
  let minToutIntervalNs := shorten minToutIntervalNs intervals.pDelayIntervalNs
  let minToutIntervalNs := shorten minToutIntervalNs intervals.asCapableIntervalNs
  let minToutIntervalNs :=
    if maxToutIntervalNs < minToutIntervalNs then maxToutIntervalNs else minToutIntervalNs
  if minToutIntervalNs.toUInt32 ≠ crrToutIntervalNs then minToutIntervalNs.toUInt32
  else crrToutIntervalNs

/-- The callers compare with the interval before their loop, and set every one that differs. -/
def adjustAll (toutIntervalNs : UInt32) (calls : List ToutIntervals) : UInt32 :=
  calls.foldl (fun current intervals =>
    let newToutIntervalNs := adjustToutInterval toutIntervalNs intervals
    if newToutIntervalNs ≠ toutIntervalNs then newToutIntervalNs else current) toutIntervalNs

/-- What `gptpman` was started with. -/
structure ManagerConfig where
  maxPorts : Nat
  maxDomains : Nat
  /-- `DOMAIN_DATA_EXIST`. -/
  domainDataExist : Nat → Bool

def ManagerConfig.portIndices (cfg : ManagerConfig) : List Nat :=
  (List.range cfg.maxPorts).tail

def ManagerConfig.domainIndices (cfg : ManagerConfig) : List Nat :=
  (List.range cfg.maxDomains).filter cfg.domainDataExist

/-- The interval of the ticks, and the machines that set the other intervals. The request
interval of a port serves all domains. -/
structure Manager where
  toutInterval : UInt32
  domains : Nat → Domain
  syncSettings : Nat → Nat → RequestSettingData SyncIntervalVariables
  linkDelaySettings : Nat → RequestSettingData LinkDelayVariables

namespace Manager

def receivePort (manager : Manager) (di pi : Nat) : ReceivePort where
  BEGIN := (manager.domains di).ptasg.BEGIN
  instanceEnable := (manager.domains di).ptasg.instanceEnable
  portOper := ((manager.domains di).ports pi).ppg.portOper
  ptpPortEnabled := ((manager.domains di).ports pi).ppg.ptpPortEnabled

def intervals (manager : Manager) (di pi : Nat) : ToutIntervals where
  syncIntervalNs := (manager.syncSettings di pi).vars.interval
  announceIntervalNs := ((manager.domains di).ports pi).bppg.announceInterval
  pDelayIntervalNs := (manager.linkDelaySettings pi).vars.interval
  asCapableIntervalNs := ((manager.domains di).ports pi).ppg.gPtpCapableMessageInterval

/-- `ldisetd`: only the ports of domain 0 have one, and the others follow a NULL pointer. -/
def ldisetd (manager : Manager) (di pi : Nat) : Option (RequestSettingData LinkDelayVariables) :=
  if di = 0 then some (manager.linkDelaySettings pi) else none

/-- The intervals of a port, read through its `ldisetd`. -/
def readIntervals (manager : Manager) (di pi : Nat) : Option ToutIntervals :=
  (manager.ldisetd di pi).map fun _ => manager.intervals di pi

def setPort (manager : Manager) (di pi : Nat) (port : Port) : Manager :=
  let domain := manager.domains di
  let domain := { domain with ports := Function.update domain.ports pi port }
  { manager with domains := Function.update manager.domains di domain }

def setSync (manager : Manager) (di pi : Nat) (data : RequestSettingData SyncIntervalVariables) :
    Manager :=
  let settings := Function.update (manager.syncSettings di) pi data
  { manager with syncSettings := Function.update manager.syncSettings di settings }

def setLinkDelay (manager : Manager) (pi : Nat) (data : RequestSettingData LinkDelayVariables) :
    Manager :=
  { manager with linkDelaySettings := Function.update manager.linkDelaySettings pi data }

/-- A received message interval request goes to three machines, and then the tick is adjusted. -/
def messageIntervalRequest (manager : Manager) (di pi : Nat) (tlv : PTPMsgIntervalRequestTLV) :
    Option (Manager × List ToutIntervals) :=
  let port := manager.receivePort di pi
  (syncIntervalSetting.run port (RequestSetting.store (some tlv) (manager.syncSettings di pi))).bind
    fun sync => (manager.ldisetd di pi).bind fun linkDelay =>
      (linkDelayIntervalSetting.run port (RequestSetting.store (some tlv) linkDelay)).bind
        fun linkDelay =>
          (announceIntervalSetting.recvSignaling (manager.domains di).ptasg tlv.announceInterval
            ((manager.domains di).ports pi)).bind fun announced =>
              let next := ((manager.setSync di pi sync).setLinkDelay pi linkDelay).setPort di pi
                announced
              (next.readIntervals di pi).map fun intervals => (next, [intervals])

def capableIntervalRequest (manager : Manager) (di pi : Nat)
    (logGptpCapableMessageInterval : Int8) : Option (Manager × List ToutIntervals) :=
  (gptpCapableIntervalSetting.recvSignaling (manager.domains di).ptasg
    logGptpCapableMessageInterval ((manager.domains di).ports pi)).bind fun port =>
      let next := manager.setPort di pi port
      (next.readIntervals di pi).map fun intervals => (next, [intervals])

def requestedTimeout (receiptTimeout initialLog requested : Int8) (timeInterval : UInt64) :
    UInt64 :=
  if logIntervalInReservedRange requested || requested == -128 then timeInterval
  else receiptTimeout.toInt64.toUInt64 *
    logToNsec (if requested = 126 then initialLog else requested)

/-- `gptpnet_adjust_glb_interval_and_tout`: a slave port expects what it is about to ask for. -/
def adjustGlbInterval (manager : Manager) (di pi : Nat) (logSync logAnnounce logPdelay : Int8) :
    Option Manager :=
  let port := (manager.domains di).ports pi
  if port.selectedState = .slavePort then
    (manager.ldisetd di pi).map fun data =>
      let linkDelay := { data with vars := { data.vars with
        toLogInterval := data.vars.toLogInterval.request logPdelay } }
      let expecting := { port with
        ppg := { port.ppg with
          syncReceiptTimeoutTimeInterval := requestedTimeout port.ppg.syncReceiptTimeout
            (manager.syncSettings di pi).vars.initialLog logSync
            port.ppg.syncReceiptTimeoutTimeInterval }
        bppg := { port.bppg with
          announceReceiptTimeoutTimeInterval := requestedTimeout port.bppg.announceReceiptTimeout
            port.bppg.initialLogAnnounceInterval logAnnounce
            port.bppg.announceReceiptTimeoutTimeInterval } }
      (manager.setLinkDelay pi linkDelay).setPort di pi expecting
  else some manager

def notInvolved : UInt64 := 0xFFFFFFFFFFFFFFFF

def txMsgIntervalTurn (logSync logAnnounce logPdelay : Int8) (loop : Manager × List ToutIntervals)
    (index : Nat × Nat) : Option (Manager × List ToutIntervals) :=
  (loop.1.adjustGlbInterval index.1 index.2 logSync logAnnounce logPdelay).bind fun next =>
    (next.ldisetd index.1 index.2).map fun linkDelay =>
      (next, loop.2 ++ [
        { syncIntervalNs := notInvolved
          announceIntervalNs := notInvolved
          pDelayIntervalNs := linkDelay.vars.interval
          asCapableIntervalNs := notInvolved }])

/-- `gptpnet_tx_msg_interval_req`, without the messages that it sends. -/
def txMsgIntervalReq (cfg : ManagerConfig) (manager : Manager)
    (logSync logAnnounce logPdelay : Int8) : Option (Manager × List ToutIntervals) :=
  (cfg.domainIndices.flatMap fun di => cfg.portIndices.map fun pi => (di, pi)).foldlM
    (txMsgIntervalTurn logSync logAnnounce logPdelay) (manager, [])

end Manager

/-- The message interval requests: received by a port, or to be transmitted by all of them. That a
port which comes up initialises its intervals again is no request. -/
inductive IntervalRequest where
  | messageInterval (di pi : Nat) (tlv : PTPMsgIntervalRequestTLV)
  | capableInterval (di pi : Nat) (logGptpCapableMessageInterval : Int8)
  | transmit (logSync logAnnounce logPdelay : Int8)

namespace Manager

/-- What a request does to the intervals, with the calls of `adjust_tout_interval`. A message for a
domain that does not exist is dropped. -/
def request (cfg : ManagerConfig) (manager : Manager) :
    IntervalRequest → Option (Manager × List ToutIntervals)
  | .messageInterval di pi tlv =>
    if pi ∉ cfg.portIndices then none
    else if di ∉ cfg.domainIndices then some (manager, [])
    else manager.messageIntervalRequest di pi tlv
  | .capableInterval di pi logGptpCapableMessageInterval =>
    if pi ∉ cfg.portIndices then none
    else if di ∉ cfg.domainIndices then some (manager, [])
    else manager.capableIntervalRequest di pi logGptpCapableMessageInterval
  | .transmit logSync logAnnounce logPdelay =>
    manager.txMsgIntervalReq cfg logSync logAnnounce logPdelay

def adjust (manager : Manager) (toutInterval : UInt32) (calls : List ToutIntervals) : Manager :=
  { manager with toutInterval := adjustAll toutInterval calls }

/-- The end of `static_domains_init`, with the intervals as they were initialised: the ports of
domain 0 adjust the configured tick. -/
def staticDomainsInit (cfg : ManagerConfig) (manager : Manager) : Manager :=
  manager.adjust manager.toutInterval (cfg.portIndices.map (manager.intervals 0))

end Manager

def tickSystem (cfg : ManagerConfig) (configured : Manager) : System Manager IntervalRequest where
  start := configured.staticDomainsInit cfg
  step manager event := (manager.request cfg event).map fun (next, calls) =>
    next.adjust manager.toutInterval calls

def Manager.Active (cfg : ManagerConfig) (manager : Manager) (interval : UInt64) : Prop :=
  ∃ di ∈ cfg.domainIndices, ∃ pi ∈ cfg.portIndices,
    interval ∈ (manager.intervals di pi).toList ∧ interval ≠ 0

def Manager.Ticks (cfg : ManagerConfig) (manager : Manager) : Prop :=
  ∀ interval, manager.Active cfg interval → manager.toutInterval.toUInt64 ≤ interval

end EnetTsn.Interval
