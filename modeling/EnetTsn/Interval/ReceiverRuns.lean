import EnetTsn.Interval.Conversions
import EnetTsn.Sync.Relay

namespace EnetTsn.Interval

open EnetTsn.Bmcs EnetTsn.Gptp EnetTsn.Library EnetTsn.Md EnetTsn.Sync

structure SettingsConvertible (cfg : Config) (settings : Settings)
    (receiverSettings : ReceiverSettings) : Prop where
  ports : ∀ index < cfg.maxPorts, Convertible (settings.port index).initialLogSyncInterval ∧
    Convertible (settings.port index).initialLogAnnounceInterval
  sync : Convertible receiverSettings.sync.initialLog
  managedSync : receiverSettings.sync.useMgtSettable = true →
    Convertible receiverSettings.sync.mgtSettableLog
  linkDelay : Convertible receiverSettings.linkDelay.initialLog
  managedLinkDelay : receiverSettings.linkDelay.useMgtSettable = true →
    Convertible receiverSettings.linkDelay.mgtSettableLog

def InRange : ReceiverEvent → Prop
  | .domain step => DomainInRange step
  | .sync _ _ (.recvSync message _) => Convertible (mdDecomposeHead message).logMessageInterval
  | .capable _ _ (some logInterval) => Convertible logInterval
  | .syncInterval _ (some tlv) => tlv.timeSyncInterval ≠ 127
  | .linkDelayInterval _ (some tlv) => tlv.linkDelayInterval ≠ 127
  | _ => True

structure ReceiversReady (cfg : Config) (receivers : Receivers) : Prop where
  configured : ∀ index < cfg.maxPorts, PortConfigured (receivers.domain.ports index)
  received : ∀ index, PortReceived (receivers.domain.ports index)
  sync : Convertible (mdDecomposeHead receivers.sync.recSync).logMessageInterval
  capable : Convertible receivers.capable.logGptpCapableMessageInterval
  syncSetting : SettingReady syncIntervalSetting PTPMsgIntervalRequestTLV.timeSyncInterval
    receivers.syncSetting
  linkDelaySetting : SettingReady linkDelayIntervalSetting
    PTPMsgIntervalRequestTLV.linkDelayInterval receivers.linkDelaySetting

theorem convertible_zero : Convertible 0 := by decide

theorem zero_sends : (0 : Int8) ≠ 127 := by decide

private theorem ready_init (convertible : SettingsConvertible cfg settings receiverSettings)
    (portSync : PortSyncReceive) :
    ReceiversReady cfg (Receivers.init cfg settings receiverSettings portSync) where
  configured index bounded :=
    { sync := (convertible.ports index bounded).1
      managedAnnounce := fun uses => (nomatch uses)
      initialAnnounce := (convertible.ports index bounded).2 }
  received _ := ⟨convertible_zero, zero_sends⟩
  sync := (by decide : Convertible (mdDecomposeHead Memory.zero).logMessageInterval)
  capable := convertible_zero
  syncSetting := ⟨convertible.managedSync, convertible.sync, zero_sends⟩
  linkDelaySetting := ⟨convertible.managedLinkDelay, convertible.linkDelay, zero_sends⟩

theorem ready_handle (ready : ReceiversReady cfg receivers) (inRange : InRange event)
    (handled : handle cfg receivers event = some (next, converted)) :
    ReceiversReady cfg next ∧ ∀ x ∈ converted, SafeConversion x := by
  cases event with
  | domain step =>
    obtain ⟨domain, done, same⟩ := Option.map_eq_some_iff.mp handled
    obtain ⟨rfl, rfl⟩ := Prod.mk.inj same
    refine ⟨⟨?_, ?_, ready.sync, ready.capable, ready.syncSetting, ready.linkDelaySetting⟩, ?_⟩
    · exact fun index bounded => configured_perform done index (ready.configured index bounded)
    · exact received_perform ready.received inRange done
    · exact domainConversions_safe ready.configured ready.received inRange done
  | sync port cts64 step =>
    have convertible : ∀ message ts64, step = .recvSync message ts64 →
        Convertible (mdDecomposeHead message).logMessageInterval := by
      rintro message ts64 rfl
      exact inRange
    obtain ⟨⟨sync, portSync, rfl, kept⟩, safe⟩ := handleSync_safe ready.sync convertible handled
    exact ⟨⟨ready.configured, ready.received, kept, ready.capable, ready.syncSetting,
      ready.linkDelaySetting⟩, safe⟩
  | capable port cts64 message =>
    have convertible : ∀ logInterval, message = some logInterval → Convertible logInterval := by
      rintro logInterval rfl
      exact inRange
    obtain ⟨⟨capable, rfl, kept⟩, safe⟩ := handleCapable_safe ready.capable convertible handled
    exact ⟨⟨ready.configured, ready.received, ready.sync, kept, ready.syncSetting,
      ready.linkDelaySetting⟩, safe⟩
  | syncInterval port request =>
    obtain ⟨⟨data, conversions⟩, called, same⟩ := Option.map_eq_some_iff.mp handled
    obtain ⟨rfl, rfl⟩ := Prod.mk.inj same
    have sends : ∀ tlv, request = some tlv → tlv.timeSyncInterval ≠ 127 := by
      rintro tlv rfl
      exact inRange
    obtain ⟨kept, safe⟩ := callSetting_safe syncInterval_keeps ready.syncSetting sends called
    exact ⟨⟨ready.configured, ready.received, ready.sync, ready.capable, kept,
      ready.linkDelaySetting⟩, safe⟩
  | linkDelayInterval port request =>
    obtain ⟨⟨data, conversions⟩, called, same⟩ := Option.map_eq_some_iff.mp handled
    obtain ⟨rfl, rfl⟩ := Prod.mk.inj same
    have sends : ∀ tlv, request = some tlv → tlv.linkDelayInterval ≠ 127 := by
      rintro tlv rfl
      exact inRange
    obtain ⟨kept, safe⟩ :=
      callSetting_safe linkDelayInterval_keeps ready.linkDelaySetting sends called
    exact ⟨⟨ready.configured, ready.received, ready.sync, ready.capable, ready.syncSetting,
      kept⟩, safe⟩

section Samples

def LogInterval.configured (initialLog : Int8) : LogInterval where
  useMgtSettable := false
  mgtSettableLog := 0
  initialLog := initialLog
  currentLog := initialLog
  interval := 0

def ReceiverSettings.sample : ReceiverSettings where
  gPtpCapableReceiptTimeout := 9
  sync :=
    { LogInterval.configured (-3) with
      clockMasterLogSyncInterval := -3, clockMasterSyncInterval := 0 }
  linkDelay :=
    { LogInterval.configured 0 with
      computeNeighborRateRatio := true, computeNeighborPropDelay := true }

def unusedPortSync : PortSyncReceive where
  state := .init
  lastState := .init
  rcvdMDSync := false
  rcvdMDSyncPtr := { Relay.plainSend with seqid := 0 }
  syncReceiptTimeoutTimeInterval := 0
  parentLogSyncInterval := 0

def sampleSystem : System Receivers ReceiverEvent :=
  receiverSystem (Config.sample 0) Settings.sample .sample unusedPortSync

def ReceivePort.running : ReceivePort where
  BEGIN := false
  instanceEnable := true
  portOper := true
  ptpPortEnabled := true

def PTPMsgIntervalRequestTLV.asking (timeSyncInterval : Int8) : PTPMsgIntervalRequestTLV where
  linkDelayInterval := -128
  timeSyncInterval := timeSyncInterval
  announceInterval := -128
  flags := 6

def announcedEvents : List ReceiverEvent :=
  [.domain (.port 1 (.portOper true)), .domain (.port 1 (.asCapable true)),
    .domain (.port 1 (.announceInformation 0)), .domain (.stateSelection 0),
    .domain (.port 1 (.announceInformation 0)),
    .domain (.port 1 (.recvAnnounce (PTPMsgAnnounce.sample 0)))]

end Samples

end EnetTsn.Interval
