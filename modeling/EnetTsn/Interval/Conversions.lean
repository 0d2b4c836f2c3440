import EnetTsn.Bmcs.SelectionMoves
import EnetTsn.Interval.Receivers

namespace EnetTsn.Interval

open EnetTsn.Bmcs EnetTsn.Gptp EnetTsn.Library EnetTsn.Md EnetTsn.Sync

theorem requestConversions_safe (sends : requested ≠ 127) (configured : Convertible initialLog) :
    ∀ x ∈ requestConversions requested initialLog, SafeConversion x := by
  have all : ∀ octet : Fin 256, (UInt8.ofNat octet).toInt8 ≠ 127 →
      logIntervalInReservedRange (UInt8.ofNat octet).toInt8 = false →
      (UInt8.ofNat octet).toInt8 ≠ -128 → (UInt8.ofNat octet).toInt8 ≠ 126 →
      Convertible (UInt8.ofNat octet).toInt8 := by decide +kernel
  have same : (UInt8.ofNat requested.toUInt8.toNat).toInt8 = requested := by simp
  have shown := all ⟨requested.toUInt8.toNat, requested.toUInt8.toNat_lt⟩
  rw [same] at shown
  intro x member
  rw [safeConversion_iff]
  unfold requestConversions at member
  split at member
  · exact absurd member List.not_mem_nil
  · rename_i heeded
    simp only [Bool.or_eq_true, beq_iff_eq, not_or, Bool.not_eq_true] at heeded
    split at member
    · rw [List.mem_singleton.mp member]
      exact configured
    · rename_i literal
      rw [List.mem_singleton.mp member]
      exact shown sends heeded.1 heeded.2 literal

theorem settingConversions_safe (managed : useMgtSettable = true → Convertible mgtSettableLog)
    (configured : Convertible initialLog) (sends : requested ≠ 127) (state : IntervalSettingState) :
    ∀ x ∈ settingConversions state useMgtSettable mgtSettableLog initialLog requested,
      SafeConversion x := by
  intro x member
  cases state with
  | init | reaction => exact absurd member List.not_mem_nil
  | notEnabled =>
    simp only [settingConversions] at member
    split at member
    · rename_i uses
      rw [List.mem_singleton.mp member]
      exact (safeConversion_iff _).mpr (managed uses)
    · exact absurd member List.not_mem_nil
  | initialise =>
    rw [List.mem_singleton.mp member]
    exact (safeConversion_iff _).mpr configured
  | setIntervals => exact requestConversions_safe sends configured x member

structure PortConfigured (port : Port) : Prop where
  sync : Convertible port.ppg.logSyncInterval
  managedAnnounce : port.ppg.useMgtSettableLogAnnounceInterval = true →
    Convertible port.ppg.mgtSettableLogAnnounceInterval
  initialAnnounce : Convertible port.bppg.initialLogAnnounceInterval

structure PortReceived (port : Port) : Prop where
  announce : Convertible port.parecd.buffer.header.logMessageInterval
  request : port.aisetd.requested ≠ 127

section Announce

private theorem informationConversions_safe (configured : PortConfigured port)
    (received : PortReceived port) (stateChange : Bool) :
    ∀ x ∈ informationConversions stateChange port, SafeConversion x := by
  intro x member
  unfold informationConversions at member
  split at member
  · rcases List.mem_cons.mp member with rfl | second
    · exact (safeConversion_iff _).mpr received.announce
    · rw [List.mem_singleton.mp second]
      exact (safeConversion_iff _).mpr configured.sync
  · exact absurd member List.not_mem_nil

theorem informationConversions_kept (kept : InformationKept before after)
    (configured : PortConfigured before) (received : PortReceived before) :
    PortConfigured after ∧ PortReceived after := by
  have rest := kept.rest
  refine ⟨⟨?_, ?_, ?_⟩, ⟨?_, ?_⟩⟩
  · rw [rest]
    exact configured.sync
  · rw [rest]
    exact configured.managedAnnounce
  · rw [rest]
    exact configured.initialAnnounce
  · rw [rest]
    exact received.announce
  · rw [rest]
    exact received.request

open AnnounceInformation in
theorem information_safe (view : InstanceView) (cts64 : UInt64) (configured : PortConfigured port)
    (received : PortReceived port) (fuel : Nat) :
    ∀ x ∈ (machine view cts64).effects informationConversions fuel port, SafeConversion x := by
  refine Machine.effects_safe _ (InformationKept port) SafeConversion ?_ ?_ ?_ (.refl port)
  · refine Machine.Table.switch_preserves _ _ ?_ ?_ ?_
    · exact fun _ current kept => kept.trans ⟨rfl⟩
    · exact fun _ current kept => kept.trans ⟨rfl⟩
    · exact fun state current kept => kept.trans (kept_informationProc view cts64 state current)
  · exact fun current _ kept => kept.trans ⟨rfl⟩
  · intro stateChange current kept
    obtain ⟨configured, received⟩ := informationConversions_kept kept configured received
    exact informationConversions_safe configured received stateChange

/-- `announce_interval_setting_sm` leaves what it converts alone, and what a port has
received. -/
theorem announceSetting_switch (port : Port) (valid : PortConfigured port ∧ PortReceived port) :
    PortConfigured (announceIntervalSetting.machine.switch port).1 ∧
      PortReceived (announceIntervalSetting.machine.switch port).1 := by
  refine Machine.Table.switch_preserves _
    (fun port => PortConfigured port ∧ PortReceived port) ?_ ?_ ?_ port valid
  · exact fun _ _ ⟨configured, received⟩ =>
      ⟨⟨configured.sync, configured.managedAnnounce, configured.initialAnnounce⟩,
        ⟨received.announce, received.request⟩⟩
  · exact fun _ _ ⟨configured, received⟩ =>
      ⟨⟨configured.sync, configured.managedAnnounce, configured.initialAnnounce⟩,
        ⟨received.announce, received.request⟩⟩
  · intro state port ⟨configured, received⟩
    cases state
    all_goals exact ⟨⟨configured.sync, configured.managedAnnounce, configured.initialAnnounce⟩,
      ⟨received.announce, received.request⟩⟩

theorem announceSetting_safe (configured : PortConfigured port) (received : PortReceived port)
    (fuel : Nat) :
    ∀ x ∈ announceIntervalSetting.machine.effects announceSettingConversions fuel port,
      SafeConversion x := by
  refine Machine.effects_safe _ (fun port => PortConfigured port ∧ PortReceived port)
    SafeConversion announceSetting_switch ?_ ?_ ⟨configured, received⟩
  · exact fun _ _ ⟨configured, received⟩ =>
      ⟨⟨configured.sync, configured.managedAnnounce, configured.initialAnnounce⟩,
        ⟨received.announce, received.request⟩⟩
  · intro stateChange current ⟨configured, received⟩ x member
    unfold announceSettingConversions at member
    split at member
    · exact settingConversions_safe configured.managedAnnounce configured.initialAnnounce
        received.request _ x member
    · exact absurd member List.not_mem_nil

end Announce

section Sync

private theorem syncMachine_safe (port : SyncPort) (cts64 : UInt64)
    (received : Convertible (mdDecomposeHead data.recSync).logMessageInterval) (fuel : Nat) :
    ∀ x ∈ (SyncReceive.machine port cts64).effects syncConversions fuel data, SafeConversion x := by
  refine Machine.effects_safe _ (fun current => current.recSync = data.recSync) SafeConversion
    ?_ ?_ ?_ rfl
  · exact fun current kept => (SyncReceive.buffers_switch port cts64 current).recSync.trans kept
  · exact fun _ _ kept => kept
  · intro stateChange current kept x member
    unfold syncConversions at member
    split at member
    · rw [List.mem_singleton.mp member, kept]
      exact (safeConversion_iff _).mpr received
    · exact absurd member List.not_mem_nil

private theorem portSyncSwitch_ptr (port : PortSyncReceivePort) (cts64 : UInt64) (data : PortSyncReceive) :
    ((PortSyncReceive.machine port cts64).switch data).1.rcvdMDSyncPtr = data.rcvdMDSyncPtr := by
  simp only [Machine.switch, PortSyncReceive.machine, PortSyncReceive.arm]
  split
  · rfl
  · split <;> rfl
  · split <;> rfl
  · rfl

theorem portSyncCall_safe (port : PortSyncReceivePort) (cts64 : UInt64) (data : PortSyncReceive)
    (convertible : Convertible received.logMessageInterval) :
    ∀ x ∈ portSyncCallConversions port cts64 data received, SafeConversion x := by
  refine Machine.effects_safe _ (fun data => Convertible data.rcvdMDSyncPtr.logMessageInterval)
    SafeConversion ?_ ?_ ?_ ?_
  · intro current kept
    rw [portSyncSwitch_ptr]
    exact kept
  · exact fun _ _ kept => kept
  · intro stateChange current kept x member
    unfold portSyncConversions at member
    split at member
    · have same : x = current.rcvdMDSyncPtr.logMessageInterval := by simpa using member
      rw [same]
      exact (safeConversion_iff _).mpr kept
    · exact absurd member List.not_mem_nil
  · have same : (PortSyncReceive.allstateCondition port { data with
        rcvdMDSync := true, rcvdMDSyncPtr := received, lastState := .reaction }).rcvdMDSyncPtr =
        received := by
      unfold PortSyncReceive.allstateCondition
      split <;> rfl
    rw [same]
    exact convertible

theorem storeSyncStep_interval (port : SyncPort)
    (received : Convertible (mdDecomposeHead data.recSync).logMessageInterval)
    (convertible : ∀ message ts64, step = .recvSync message ts64 →
      Convertible (mdDecomposeHead message).logMessageInterval) :
    Convertible (mdDecomposeHead (storeSyncStep port data step).1.recSync).logMessageInterval := by
  cases step with
  | recvSync message ts64 =>
    by_cases twoStep : twoStepFlag message = true
    · rw [storeSyncStep, SyncReceive.storeSync_twoStep port ts64 data twoStep]
      have header : mdDecomposeHead (data.recSync.copy 0 syncSize message) =
          mdDecomposeHead message := by
        apply mdDecomposeHead_congr
        intro index small
        exact Memory.copy_start index (Nat.lt_of_lt_of_le small (by decide))
      exact convertible message ts64 rfl
    · rw [storeSyncStep, SyncReceive.storeSync_oneStep port ts64 data twoStep]
      exact received
  | recvFollowUp message => exact received
  | tick => exact received

private theorem recSync_mdSyncReceiveSm (finished : mdSyncReceiveSm port cts64 data = some (next, result)) :
    next.recSync = data.recSync := by
  refine (SyncReceive.machine port cts64).run_preserves
    (fun current => current.recSync = data.recSync) ?_ ?_ finished
  · exact fun current kept => (SyncReceive.buffers_switch port cts64 current).recSync.trans kept
  · exact (SyncReceive.buffers_allstateCondition port data).recSync

theorem handleSync_safe
    (received : Convertible (mdDecomposeHead receivers.sync.recSync).logMessageInterval)
    (convertible : ∀ message ts64, step = .recvSync message ts64 →
      Convertible (mdDecomposeHead message).logMessageInterval)
    (handled : handleSync port cts64 step receivers = some (next, converted)) :
    (∃ sync portSync, next = { receivers with sync := sync, portSync := portSync } ∧
        Convertible (mdDecomposeHead sync.recSync).logMessageInterval) ∧
      ∀ x ∈ converted, SafeConversion x := by
  have stored := storeSyncStep_interval port.toSyncPort received convertible
  unfold handleSync at handled
  generalize storeSyncStep port.toSyncPort receivers.sync step = called at handled stored
  obtain ⟨held, runs⟩ := called
  cases runs with
  | false =>
    cases handled
    exact ⟨⟨held, receivers.portSync, rfl, stored⟩, fun _ member => absurd member List.not_mem_nil⟩
  | true =>
  obtain ⟨⟨sync, result⟩, ran, rest⟩ := Option.bind_eq_some_iff.mp handled
  have kept : Convertible (mdDecomposeHead sync.recSync).logMessageInterval := by
    rw [recSync_mdSyncReceiveSm ran]
    exact stored
  have first : ∀ x ∈ (SyncReceive.machine port.toSyncPort cts64).effects syncConversions 8
      (SyncReceive.allstateCondition port.toSyncPort held), SafeConversion x := by
    refine syncMachine_safe port.toSyncPort cts64 ?_ 8
    rw [(SyncReceive.buffers_allstateCondition port.toSyncPort _).recSync]
    exact stored
  cases handed : handedOn step result with
  | none =>
    simp only [handed, Option.some.injEq, Prod.mk.injEq] at rest
    obtain ⟨rfl, rfl⟩ := rest
    exact ⟨⟨sync, receivers.portSync, rfl, kept⟩, first⟩
  | some value =>
    simp only [handed] at rest
    obtain ⟨⟨portSync, _⟩, _, same⟩ := Option.map_eq_some_iff.mp rest
    obtain ⟨rfl, rfl⟩ := Prod.mk.inj same
    refine ⟨⟨sync, portSync, rfl, kept⟩, fun x member => ?_⟩
    have returned : result = some value := by
      cases step with
      | tick => cases handed
      | recvSync | recvFollowUp => exact handed
    subst returned
    have convertible : Convertible value.logMessageInterval := by
      rw [mdSyncReceiveSm_result ran]
      exact stored
    rcases List.mem_append.mp member with before | after
    · exact first x before
    · exact portSyncCall_safe port cts64 receivers.portSync convertible x after

end Sync

section Settings

structure SameConfiguration (before after : LogInterval) : Prop where
  useMgtSettable : after.useMgtSettable = before.useMgtSettable
  mgtSettableLog : after.mgtSettableLog = before.mgtSettableLog
  initialLog : after.initialLog = before.initialLog

theorem SameConfiguration.refl (vars : LogInterval) : SameConfiguration vars vars := ⟨rfl, rfl, rfl⟩

theorem sameConfiguration_notEnabled (vars : LogInterval) :
    SameConfiguration vars vars.notEnabled := by
  unfold LogInterval.notEnabled
  split <;> exact ⟨rfl, rfl, rfl⟩

theorem sameConfiguration_request (requested : Int8) (vars : LogInterval) :
    SameConfiguration vars (vars.request requested) := by
  unfold LogInterval.request
  split
  · exact .refl vars
  · split <;> exact ⟨rfl, rfl, rfl⟩

variable (setting : RequestSetting ν) (requested : PTPMsgIntervalRequestTLV → Int8)

structure SettingReady (data : RequestSettingData ν) : Prop where
  managed : (setting.logInterval data.vars).useMgtSettable = true →
    Convertible (setting.logInterval data.vars).mgtSettableLog
  initial : Convertible (setting.logInterval data.vars).initialLog
  request : requested data.rcvdSignalingPtr ≠ 127

structure KeepsConfiguration : Prop where
  notEnabled : ∀ vars, SameConfiguration (setting.logInterval vars)
    (setting.logInterval (setting.notEnabledProc vars))
  initialise : ∀ vars, SameConfiguration (setting.logInterval vars)
    (setting.logInterval (setting.initialiseProc vars))
  setInterval : ∀ tlv vars, SameConfiguration (setting.logInterval vars)
    (setting.logInterval (setting.setIntervalProc tlv vars))

variable {setting requested}

theorem SettingReady.congr (ready : SettingReady setting requested before)
    (request : after.rcvdSignalingPtr = before.rcvdSignalingPtr)
    (same : SameConfiguration (setting.logInterval before.vars) (setting.logInterval after.vars)) :
    SettingReady setting requested after := by
  refine ⟨?_, ?_, ?_⟩
  · rw [same.useMgtSettable, same.mgtSettableLog]
    exact ready.managed
  · rw [same.initialLog]
    exact ready.initial
  · rw [request]
    exact ready.request

variable (keeps : KeepsConfiguration setting)
include keeps

theorem ready_switch (port : ReceivePort)
    (data : RequestSettingData ν) (ready : SettingReady setting requested data) :
    SettingReady setting requested ((setting.machine port).switch data).1 := by
  simp only [Machine.switch, RequestSetting.machine, RequestSetting.arm]
  split
  · exact ready.congr rfl (.refl _)
  · split
    · exact ready.congr rfl (keeps.notEnabled data.vars)
    · exact ready.congr rfl (.refl _)
  · split
    · have entered : SettingReady setting requested (setting.enterInitialise data) :=
        ready.congr rfl (keeps.initialise data.vars)
      split
      · exact entered.congr rfl (.refl _)
      · exact entered.congr rfl (.refl _)
    · exact ready.congr rfl (.refl _)
  · have entered (entry : RequestSettingData ν) (valid : SettingReady setting requested entry) :
        SettingReady setting requested (RequestSetting.setIntervalCondition entry) := by
      unfold RequestSetting.setIntervalCondition
      split
      · exact valid.congr rfl (.refl _)
      · exact valid
    refine entered _ ?_
    split
    · exact ready.congr rfl (keeps.setInterval data.rcvdSignalingPtr data.vars)
    · exact ready.congr rfl (.refl _)
  · exact ready.congr rfl (.refl _)

theorem callSetting_safe (ready : SettingReady setting requested data)
    (sends : ∀ tlv, request = some tlv → requested tlv ≠ 127)
    (called : callSetting setting requested port request data = some (next, converted)) :
    SettingReady setting requested next ∧ ∀ x ∈ converted, SafeConversion x := by
  obtain ⟨final, ran, same⟩ := Option.map_eq_some_iff.mp called
  obtain ⟨rfl, rfl⟩ := Prod.mk.inj same
  have stored : SettingReady setting requested (RequestSetting.store request data) := by
    cases request with
    | none => exact ready
    | some tlv => exact ⟨ready.managed, ready.initial, sends tlv rfl⟩
  have started : SettingReady setting requested
      (RequestSetting.moveTo (setting.allstateCondition port (RequestSetting.store request data))
        (RequestSetting.store request data)) := stored.congr rfl (.refl _)
  constructor
  · obtain ⟨⟨final, result⟩, finished, rfl⟩ := Option.map_eq_some_iff.mp ran
    exact (setting.machine port).run_preserves (SettingReady setting requested)
      (ready_switch keeps port) started finished
  · refine Machine.effects_safe _ (SettingReady setting requested) SafeConversion
      (ready_switch keeps port) ?_ ?_ started
    · exact fun _ _ ready => ready.congr rfl (.refl _)
    · intro stateChange current ready x member
      unfold requestSettingConversions at member
      split at member
      · exact settingConversions_safe ready.managed ready.initial ready.request _ x member
      · exact absurd member List.not_mem_nil

end Settings

theorem syncInterval_keeps : KeepsConfiguration syncIntervalSetting where
  notEnabled vars := sameConfiguration_notEnabled vars.toLogInterval
  initialise _ := ⟨rfl, rfl, rfl⟩
  setInterval tlv vars := by
    have same := sameConfiguration_request tlv.timeSyncInterval vars.toLogInterval
    simp only [syncIntervalSetting]
    split <;> exact same

theorem linkDelayInterval_keeps : KeepsConfiguration linkDelayIntervalSetting where
  notEnabled vars := sameConfiguration_notEnabled vars.toLogInterval
  initialise _ := ⟨rfl, rfl, rfl⟩
  setInterval tlv vars := sameConfiguration_request tlv.linkDelayInterval vars.toLogInterval

section Capable

theorem capableSwitch_interval (port : ReceivePort) (cts64 : UInt64) (data : CapableReceive) :
    ((CapableReceive.machine port cts64).switch data).1.logGptpCapableMessageInterval =
      data.logGptpCapableMessageInterval := by
  have conditioned (data : CapableReceive) :
      (CapableReceive.receivedTlvCondition cts64 data).logGptpCapableMessageInterval =
        data.logGptpCapableMessageInterval := by
    rcases CapableReceive.receivedTlvCondition_cases cts64 data with chosen | ⟨chosen, _⟩ | chosen
    · rw [chosen]
      rfl
    · rw [chosen]
    · rw [chosen]
  simp only [Machine.switch, CapableReceive.machine, CapableReceive.arm]
  split
  · rfl
  · rfl
  · split <;> rfl
  · rw [conditioned]
    split <;> rfl
  · rfl

theorem handleCapable_safe (received : Convertible receivers.capable.logGptpCapableMessageInterval)
    (convertible : ∀ logInterval, message = some logInterval → Convertible logInterval)
    (handled : handleCapable port cts64 message receivers = some (next, converted)) :
    (∃ capable, next = { receivers with capable := capable } ∧
        Convertible capable.logGptpCapableMessageInterval) ∧ ∀ x ∈ converted, SafeConversion x := by
  obtain ⟨capable, ran, same⟩ := Option.map_eq_some_iff.mp handled
  obtain ⟨rfl, rfl⟩ := Prod.mk.inj same
  have stored : Convertible (receivers.capable.store message).logGptpCapableMessageInterval := by
    cases message with
    | none => exact received
    | some logInterval => exact convertible logInterval rfl
  constructor
  · obtain ⟨⟨final, result⟩, finished, rfl⟩ := Option.map_eq_some_iff.mp ran
    refine ⟨final, rfl, ?_⟩
    refine (CapableReceive.machine port cts64).run_preserves
      (fun data => Convertible data.logGptpCapableMessageInterval) ?_ ?_ finished
    · intro current kept
      rw [capableSwitch_interval]
      exact kept
    · exact stored
  · refine Machine.effects_safe _ (fun data => Convertible data.logGptpCapableMessageInterval)
      SafeConversion ?_ ?_ ?_ stored
    · intro current kept
      rw [capableSwitch_interval]
      exact kept
    · exact fun _ _ kept => kept
    · intro stateChange current kept x member
      unfold capableConversions at member
      split at member
      · rw [List.mem_singleton.mp member]
        exact (safeConversion_iff _).mpr kept
      · exact absurd member List.not_mem_nil

end Capable

section Domain

theorem PortReceived.congr (received : PortReceived before)
    (buffer : after.parecd.buffer = before.parecd.buffer)
    (requested : after.aisetd.requested = before.aisetd.requested) : PortReceived after :=
  ⟨buffer ▸ received.announce, requested ▸ received.request⟩

open AnnounceTransmit in
theorem received_announceTransmit (received : PortReceived port)
    (finished : portAnnounceTransmitSm view cts64 fuel port = some (next, result)) :
    PortReceived next := by
  have following (port : Port) (received : PortReceived port) : PortReceived (nextInterval port) := by
    unfold nextInterval
    split
    · split <;> exact received.congr rfl rfl
    · exact received.congr rfl rfl
  have sending (port : Port) (received : PortReceived port) :
      PortReceived (transmitAnnounceProc view port) :=
    following _ (received.congr rfl rfl)
  have start : PortReceived (moveTo (allstateCondition view port) port) := received.congr rfl rfl
  refine (machine view cts64).run_preserves PortReceived ?_ start finished
  intro port received
  simp only [Machine.switch, machine, arm]
  split
  · exact received.congr rfl rfl
  · split <;> exact received.congr rfl rfl
  · split <;> exact received.congr rfl rfl
  · split <;> exact received.congr rfl rfl
  · split
    · have sent : PortReceived (transmitAnnounceProc view { port with
          patransd := { port.patransd with lastState := port.patransd.state } }) :=
        sending _ (received.congr rfl rfl)
      exact sent.congr rfl rfl
    · exact received.congr rfl rfl
  · exact received.congr rfl rfl

theorem received_announceInterval (received : PortReceived port)
    (sends : ∀ requested, request = some requested → requested ≠ 127)
    (finished : announceIntervalSetting.call ptasg request port = some next) :
    PortReceived next := by
  have ran (stored : Port) (received : PortReceived stored)
      (finished : announceIntervalSetting.run ptasg stored = some next) : PortReceived next := by
    obtain ⟨⟨final, result⟩, ran, rfl⟩ := Option.map_eq_some_iff.mp finished
    refine announceIntervalSetting.table.run_preserves_data PortReceived ?_ ?_ ?_ ?_ ran
    · exact fun _ _ received => received.congr rfl rfl
    · exact fun _ _ received => received.congr rfl rfl
    · intro state current _ received
      cases state <;> exact received.congr rfl rfl
    · exact received.congr rfl rfl
  cases request with
  | none => exact ran port received finished
  | some requested =>
    have stored : PortReceived { port with
        aisetd := { port.aisetd with rcvdSignalingMsg := true, requested := requested } } :=
      ⟨received.announce, sends requested rfl⟩
    exact ran _ stored finished

def DomainInRange : Step → Prop
  | .port _ (.recvAnnounce announce) => Convertible announce.header.logMessageInterval
  | .port _ (.announceInterval (some requested)) => requested ≠ 127
  | _ => True

theorem received_portStep (received : PortReceived (domain.ports index))
    (inRange : DomainInRange (.port index step)) (done : step.perform index domain = some next) :
    PortReceived (next.ports index) := by
  cases step with
  | recvAnnounce announce =>
    obtain ⟨data, ran, rfl⟩ := onReceive_eq_some done
    have buffer : data.port.parecd.buffer = announce := buffer_portAnnounceReceiveSm ran
    have kept := (kept_recvAnnounce ran).port
    have same : PortReceived data.port := by
      refine ⟨buffer.symm ▸ inRange, ?_⟩
      rw [kept]
      exact received.request
    simpa using same
  | announceReceive =>
    obtain ⟨data, ran, rfl⟩ := onReceive_eq_some done
    have kept := (kept_portAnnounceReceiveSm ran).port
    have same : PortReceived data.port := by
      refine received.congr (buffer_portAnnounceReceiveSm ran) ?_
      rw [kept]
    simpa using same
  | announceInformation cts64 =>
    simp only [PortStep.perform] at done
    split at done
    · cases done
    · obtain ⟨port, ran, rfl⟩ := onPort_eq_some done
      have kept := (kept_portAnnounceInformationSm ran).rest
      have same : PortReceived port := by
        refine received.congr ?_ ?_
        · rw [kept]
        · rw [kept]
      simpa using same
  | syncReceiptTimeoutTime time =>
    simp only [PortStep.perform] at done
    obtain ⟨port, ran, rfl⟩ := onPort_eq_some done
    cases ran
    have same : PortReceived
        (portAnnounceInformationSmSyncReceiptTimeoutTime time (domain.ports index)) :=
      received.congr rfl rfl
    simpa using same
  | announceTransmit cts64 =>
    simp only [PortStep.perform] at done
    obtain ⟨port, called, rfl⟩ := onPort_eq_some done
    obtain ⟨⟨final, result⟩, ran, rfl⟩ := Option.map_eq_some_iff.mp called
    simpa using received_announceTransmit received ran
  | announceInterval request =>
    obtain ⟨port, ran, rfl⟩ := onPort_eq_some done
    have sends : ∀ requested, request = some requested → requested ≠ 127 := by
      rintro requested rfl
      exact inRange
    simpa using received_announceInterval received sends ran
  | gptpCapableInterval request =>
    obtain ⟨port, ran, rfl⟩ := onPort_eq_some done
    have same : PortReceived port := by
      cases request with
      | none =>
        exact gptpCapableIntervalSetting.run_preserves PortReceived
          (fun _ _ received => received.congr rfl rfl) (fun _ _ received => received.congr rfl rfl)
          ran received
      | some requested =>
        exact gptpCapableIntervalSetting.run_preserves PortReceived
          (fun _ _ received => received.congr rfl rfl) (fun _ _ received => received.congr rfl rfl)
          ran (received.congr rfl rfl)
    simpa using same
  | portOper value =>
    cases done
    have same : PortReceived { domain.ports index with
        ppg := { (domain.ports index).ppg with portOper := value } } := received.congr rfl rfl
    simpa [Domain.setPpg] using same
  | asCapable value =>
    cases done
    have same : PortReceived { domain.ports index with
        ppg := { (domain.ports index).ppg with asCapable := value } } := received.congr rfl rfl
    simpa [Domain.setPpg] using same
  | asymmetryMeasurementMode value =>
    cases done
    have same : PortReceived (setMode value (domain.ports index)) := received.congr rfl rfl
    simpa [Domain.setPort] using same

theorem received_perform (received : ∀ index, PortReceived (domain.ports index))
    (inRange : DomainInRange step) (done : perform cfg domain step = some next) :
    ∀ index, PortReceived (next.ports index) := by
  intro other
  rcases perform_cases done with
    ⟨index, portStep, rfl, _, _, rest, _⟩ | ⟨_, _, _, ran⟩ | ⟨_, index, _, _, ran⟩ | kept
  · by_cases same : other = index
    · subst same
      simp only [perform] at done
      split at done
      · exact received_portStep (received other) inRange done
      · cases done
    · rw [rest.ports other same]
      exact received other
  · have frame := (selecting_portStateSelectionSm ran).frame.ports other
    refine (received other).congr ?_ ?_
    · rw [frame.parecd]
    · rw [frame.aisetd]
  · have frame := ((frame_performExternal ran).ports other).rest
    refine (received other).congr ?_ ?_
    · rw [frame]
    · rw [frame]
  · rw [kept.ports]
    exact received other

theorem announceCall_safe (ptasg : PerTimeAwareSystemGlobal) (stored : Port)
    (configured : PortConfigured stored) (received : PortReceived stored) :
    ∀ x ∈ announceIntervalSetting.machine.effects announceSettingConversions 16
      (announceIntervalSetting.moveTo (announceIntervalSetting.allstateCondition ptasg stored)
        stored), SafeConversion x := by
  have kept : PortConfigured (announceIntervalSetting.moveTo
      (announceIntervalSetting.allstateCondition ptasg stored) stored) :=
    ⟨configured.sync, configured.managedAnnounce, configured.initialAnnounce⟩
  have started : PortReceived (announceIntervalSetting.moveTo
      (announceIntervalSetting.allstateCondition ptasg stored) stored) := received.congr rfl rfl
  exact announceSetting_safe kept started 16

theorem configured_perform (done : perform cfg domain step = some next) (index : Nat)
    (configured : PortConfigured (domain.ports index)) : PortConfigured (next.ports index) := by
  have ⟨sync, managed, initial⟩ := configured
  rcases perform_cases done with
    ⟨changed, portStep, rfl, _, _, rest, change⟩ | ⟨_, _, _, ran⟩ | ⟨_, _, _, _, ran⟩ | kept
  · by_cases same : index = changed
    · subst same
      generalize next.ports index = port at change ⊢
      cases change with
      | recvAnnounce ran =>
        rw [(kept_recvAnnounce ran).port]
        exact ⟨sync, managed, initial⟩
      | announceReceive ran =>
        rw [(kept_portAnnounceReceiveSm ran).port]
        exact ⟨sync, managed, initial⟩
      | information _ ran =>
        rw [(kept_portAnnounceInformationSm ran).rest]
        exact ⟨sync, managed, initial⟩
      | side kept =>
        rw [kept.rest]
        exact ⟨sync, managed, initial⟩
      | syncReceiptTimeoutTime | portOper | asCapable | asymmetryMeasurementMode =>
        exact ⟨sync, managed, initial⟩
    · rw [rest.ports index same]
      exact configured
  · have frame := (selecting_portStateSelectionSm ran).frame.ports index
    refine ⟨?_, ?_, ?_⟩
    · rw [frame.ppg]
      exact sync
    · rw [frame.ppg]
      exact managed
    · rw [frame.bppg]
      exact initial
  · rw [((frame_performExternal ran).ports index).rest]
    exact ⟨sync, managed, initial⟩
  · rw [kept.ports]
    exact configured

theorem domainConversions_safe
    (configured : ∀ index < cfg.maxPorts, PortConfigured (domain.ports index))
    (received : ∀ index, PortReceived (domain.ports index)) (inRange : DomainInRange step)
    (done : perform cfg domain step = some next) :
    ∀ x ∈ domainConversions domain step, SafeConversion x := by
  intro x member
  have onPort : ∀ index portStep, step = .port index portStep → index < cfg.maxPorts := by
    rintro index portStep rfl
    simp only [perform] at done
    split at done
    · rename_i bounded
      exact bounded.2
    · cases done
  unfold domainConversions at member
  split at member
  · rename_i index cts64
    have moved : InformationKept (domain.ports index) (AnnounceInformation.moveTo
        (AnnounceInformation.allstateCondition domain.view (domain.ports index))
        (domain.ports index)) := ⟨rfl⟩
    have start := informationConversions_kept moved (configured index (onPort index _ rfl))
      (received index)
    exact information_safe domain.view cts64 start.1 start.2 128 x member
  · rename_i index request
    have fixed := configured index (onPort index _ rfl)
    cases request with
    | none =>
      exact announceCall_safe domain.ptasg (domain.ports index) fixed (received index) x member
    | some requested =>
      have stored : PortReceived { domain.ports index with
          aisetd := { (domain.ports index).aisetd with
            rcvdSignalingMsg := true, requested := requested } } :=
        ⟨(received index).announce, inRange⟩
      refine announceCall_safe domain.ptasg _ ?_ stored x member
      exact ⟨fixed.sync, fixed.managedAnnounce, fixed.initialAnnounce⟩
  · exact absurd member List.not_mem_nil

end Domain

end EnetTsn.Interval
