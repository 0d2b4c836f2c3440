import EnetTsn.Bmcs.Frames
import EnetTsn.Interval.RequestSetting
import EnetTsn.Sync.Pairing
import EnetTsn.Sync.PortSync

namespace EnetTsn.Interval

open EnetTsn.Bmcs EnetTsn.Gptp EnetTsn.Library EnetTsn.Md EnetTsn.Sync

section Conversions

/-- `superior_master_port_proc` converts the interval of the Announce and the configured
interval of the Sync messages. -/
def informationConversions (stateChange : Bool) (port : Port) : List Int8 :=
  if stateChange && port.painfd.state == .superiorMasterPort then
    [port.parecd.buffer.header.logMessageInterval, port.ppg.logSyncInterval]
  else []

def requestConversions (requested initialLog : Int8) : List Int8 :=
  if logIntervalInReservedRange requested || requested == -128 then []
  else if requested = 126 then [initialLog]
  else [requested]

def settingConversions (state : IntervalSettingState) (useMgtSettable : Bool)
    (mgtSettableLog initialLog requested : Int8) : List Int8 :=
  match state with
  | .notEnabled => if useMgtSettable then [mgtSettableLog] else []
  | .initialise => [initialLog]
  | .setIntervals => requestConversions requested initialLog
  | .init | .reaction => []

def announceSettingConversions (stateChange : Bool) (port : Port) : List Int8 :=
  if stateChange then
    settingConversions port.aisetd.state port.ppg.useMgtSettableLogAnnounceInterval
      port.ppg.mgtSettableLogAnnounceInterval port.bppg.initialLogAnnounceInterval
      port.aisetd.requested
  else []

def requestSettingConversions (setting : RequestSetting ν)
    (requested : PTPMsgIntervalRequestTLV → Int8) (stateChange : Bool)
    (data : RequestSettingData ν) : List Int8 :=
  let vars := setting.logInterval data.vars
  if stateChange then
    settingConversions data.state vars.useMgtSettable vars.mgtSettableLog vars.initialLog
      (requested data.rcvdSignalingPtr)
  else []

/-- `waiting_for_follow_up_proc` converts the interval of the Sync. -/
def syncConversions (stateChange : Bool) (data : SyncReceive) : List Int8 :=
  if stateChange && data.state == .waitingForFollowUp then
    [(mdDecomposeHead data.recSync).logMessageInterval]
  else []

/-- `received_sync` and `setPSSyncPSSR` convert the interval that they are handed. -/
def portSyncConversions (stateChange : Bool) (data : PortSyncReceive) : List Int8 :=
  if stateChange && data.state == .receivedSync then
    [data.rcvdMDSyncPtr.logMessageInterval, data.rcvdMDSyncPtr.logMessageInterval]
  else []

/-- `received_tlv_proc` converts the interval of the gPTP-capable message. -/
def capableConversions (stateChange : Bool) (data : CapableReceive) : List Int8 :=
  if stateChange && data.state == .receivedTlv then [data.logGptpCapableMessageInterval] else []

end Conversions

def domainConversions (domain : Domain) : Step → List Int8
  | .port index (.announceInformation cts64) =>
    (AnnounceInformation.machine domain.view cts64).effects informationConversions 128
      (AnnounceInformation.moveTo
        (AnnounceInformation.allstateCondition domain.view (domain.ports index))
        (domain.ports index))
  | .port index (.announceInterval request) =>
    let port := domain.ports index
    let stored := match request with
      | none => port
      | some requested => { port with
          aisetd := { port.aisetd with rcvdSignalingMsg := true, requested := requested } }
    announceIntervalSetting.machine.effects announceSettingConversions 16
      (announceIntervalSetting.moveTo
        (announceIntervalSetting.allstateCondition domain.ptasg stored) stored)
  | _ => []

structure Receivers where
  domain : Domain
  sync : SyncReceive
  portSync : PortSyncReceive
  capable : CapableReceive
  syncSetting : RequestSettingData SyncIntervalVariables
  linkDelaySetting : RequestSettingData LinkDelayVariables

inductive ReceiverEvent where
  | domain (step : Step)
  | sync (port : PortSyncReceivePort) (cts64 : UInt64) (step : SyncStep)
  | capable (port : ReceivePort) (cts64 : UInt64) (message : Option Int8)
  | syncInterval (port : ReceivePort) (request : Option PTPMsgIntervalRequestTLV)
  | linkDelayInterval (port : ReceivePort) (request : Option PTPMsgIntervalRequestTLV)

/-- The buffers before `md_sync_receive_sm` runs, and whether it runs. -/
def storeSyncStep (port : SyncPort) (data : SyncReceive) : SyncStep → SyncReceive × Bool
  | .recvSync message ts64 => data.storeSync port message ts64
  | .recvFollowUp message => (data.storeFollowUp message, true)
  | .tick => (data, true)

/-- What `md_sync_receive_sm` returns on a tick is dropped. -/
def handedOn (step : SyncStep) (result : Option MDSyncReceive) : Option MDSyncReceive :=
  match step with
  | .tick => none
  | .recvSync _ _ | .recvFollowUp _ => result

/-- The conversions of `port_sync_sync_receive_sm` on what it is handed. -/
def portSyncCallConversions (port : PortSyncReceivePort) (cts64 : UInt64) (data : PortSyncReceive)
    (received : MDSyncReceive) : List Int8 :=
  (PortSyncReceive.machine port cts64).effects portSyncConversions 4
    (PortSyncReceive.allstateCondition port
      { data with rcvdMDSync := true, rcvdMDSyncPtr := received, lastState := .reaction })

def handleSync (port : PortSyncReceivePort) (cts64 : UInt64) (step : SyncStep)
    (receivers : Receivers) : Option (Receivers × List Int8) :=
  let (stored, runs) := storeSyncStep port.toSyncPort receivers.sync step
  if runs then
    let converted := (SyncReceive.machine port.toSyncPort cts64).effects syncConversions 8
      (SyncReceive.allstateCondition port.toSyncPort stored)
    (mdSyncReceiveSm port.toSyncPort cts64 stored).bind fun (sync, result) =>
      match handedOn step result with
      | none => some ({ receivers with sync := sync }, converted)
      | some received =>
        (portSyncSyncReceiveSmRecvMDSync port received cts64 receivers.portSync).map
          fun (portSync, _) => ({ receivers with sync := sync, portSync := portSync },
            converted ++ portSyncCallConversions port cts64 receivers.portSync received)
  else some ({ receivers with sync := stored }, [])

def handleCapable (port : ReceivePort) (cts64 : UInt64) (message : Option Int8)
    (receivers : Receivers) : Option (Receivers × List Int8) :=
  let stored := receivers.capable.store message
  (stored.run port cts64).map fun capable => ({ receivers with capable := capable },
    (CapableReceive.machine port cts64).effects capableConversions 8
      (CapableReceive.moveTo (CapableReceive.allstateCondition port stored) stored))

def callSetting (setting : RequestSetting ν) (requested : PTPMsgIntervalRequestTLV → Int8)
    (port : ReceivePort) (request : Option PTPMsgIntervalRequestTLV) (data : RequestSettingData ν) :
    Option (RequestSettingData ν × List Int8) :=
  let stored := RequestSetting.store request data
  (setting.run port stored).map fun next => (next,
    (setting.machine port).effects (requestSettingConversions setting requested) 8
      (RequestSetting.moveTo (setting.allstateCondition port stored) stored))

def handle (cfg : Config) (receivers : Receivers) : ReceiverEvent →
    Option (Receivers × List Int8)
  | .domain step => (perform cfg receivers.domain step).map fun domain =>
    ({ receivers with domain := domain }, domainConversions receivers.domain step)
  | .sync port cts64 step => handleSync port cts64 step receivers
  | .capable port cts64 message => handleCapable port cts64 message receivers
  | .syncInterval port request =>
    (callSetting syncIntervalSetting PTPMsgIntervalRequestTLV.timeSyncInterval port request
      receivers.syncSetting).map fun (data, converted) =>
        ({ receivers with syncSetting := data }, converted)
  | .linkDelayInterval port request =>
    (callSetting linkDelayIntervalSetting PTPMsgIntervalRequestTLV.linkDelayInterval port request
      receivers.linkDelaySetting).map fun (data, converted) =>
        ({ receivers with linkDelaySetting := data }, converted)

structure ReceiverSettings where
  gPtpCapableReceiptTimeout : Int8
  sync : SyncIntervalVariables
  linkDelay : LinkDelayVariables

def Receivers.init (cfg : Config) (settings : Settings) (receiverSettings : ReceiverSettings)
    (portSync : PortSyncReceive) : Receivers where
  domain := Domain.init cfg settings
  sync := SyncReceive.init
  portSync := portSync
  capable := CapableReceive.init receiverSettings.gPtpCapableReceiptTimeout
  syncSetting := RequestSetting.init receiverSettings.sync
  linkDelaySetting := RequestSetting.init receiverSettings.linkDelay

/-- The machines from their start; `port_sync_sync_receive_sm` may start from any data. -/
def receiverSystem (cfg : Config) (settings : Settings) (receiverSettings : ReceiverSettings)
    (portSync : PortSyncReceive) : System Receivers ReceiverEvent where
  start := Receivers.init cfg settings receiverSettings portSync
  step receivers event := (handle cfg receivers event).map Prod.fst

end EnetTsn.Interval
