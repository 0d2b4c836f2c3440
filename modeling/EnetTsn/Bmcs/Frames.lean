import EnetTsn.Bmcs.Steps

namespace EnetTsn.Bmcs

open EnetTsn.Gptp EnetTsn.Library

/-- The frame of the information machine: what it writes is listed, every other
variable of the port stays as it is. -/
structure InformationKept (before after : Port) : Prop where
  rest : after = { before with
    reselect := after.reselect
    selected := after.selected
    painfd := after.painfd
    ppg := { before.ppg with
      syncReceiptTimeoutTimeInterval := after.ppg.syncReceiptTimeoutTimeInterval }
    bppg := { before.bppg with
      announceReceiptTimeoutTimeInterval := after.bppg.announceReceiptTimeoutTimeInterval
      infoIs := after.bppg.infoIs
      messageStepsRemoved := after.bppg.messageStepsRemoved
      newInfo := after.bppg.newInfo
      portPriority := after.bppg.portPriority
      portStepsRemoved := after.bppg.portStepsRemoved
      rcvdAnnouncePtr := after.bppg.rcvdAnnouncePtr
      rcvdMsg := after.bppg.rcvdMsg
      updtInfo := after.bppg.updtInfo
      ann := after.bppg.ann
      annPathSequenceCount := after.bppg.annPathSequenceCount
      annPathSequence := after.bppg.annPathSequence
      announceReceiptTimeout := after.bppg.announceReceiptTimeout
      overrun := after.bppg.overrun } }

namespace InformationKept

theorem refl (port : Port) : InformationKept port port := ⟨rfl⟩

theorem trans (first : InformationKept before middle) (second : InformationKept middle after) :
    InformationKept before after := ⟨by rw [second.rest, first.rest]⟩

section Fields

variable (kept : InformationKept before after)
include kept

theorem selectedState : after.selectedState = before.selectedState := by rw [kept.rest]

theorem parecd : after.parecd = before.parecd := by rw [kept.rest]

theorem masterPriority : after.bppg.masterPriority = before.bppg.masterPriority := by
  rw [kept.rest]

theorem asymmetryMeasurementMode :
    after.ppg.asymmetryMeasurementMode = before.ppg.asymmetryMeasurementMode := by rw [kept.rest]

theorem thisPort : after.ppg.thisPort = before.ppg.thisPort := by rw [kept.rest]

theorem up : after.up = before.up := by
  rw [kept.rest]
  rfl

end Fields

end InformationKept

open AnnounceInformation in
theorem kept_informationProc (view : InstanceView) (cts64 : UInt64)
    (state : AnnounceInformationState) (port : Port) :
    InformationKept port (proc view cts64 state port) := by
  cases state <;> exact ⟨rfl⟩

open AnnounceInformation in
theorem kept_portAnnounceInformationSm
    (finished : portAnnounceInformationSm view cts64 port = some next) :
    InformationKept port next := by
  refine portAnnounceInformationSm_preserves (fun _ => InformationKept port) ⟨?_, ?_⟩ ?_ ?_ ?_
    (.refl port) finished
  · exact fun _ s' current kept => kept.trans ⟨rfl⟩
  · exact fun _ s' current kept => kept.trans ⟨rfl⟩
  · exact fun _ _ kept => kept
  · exact fun s current _ kept => kept.trans (kept_informationProc view cts64 s current)
  · exact fun _ _ _ kept => kept

/-- The machines that send change nothing of the port but this. -/
structure SideKept (before after : Port) : Prop where
  rest : after = { before with
    patransd := after.patransd
    aisetd := after.aisetd
    gcinvsetd := after.gcinvsetd
    ppg := { before.ppg with
      oldAnnounceInterval := after.ppg.oldAnnounceInterval
      gPtpCapableMessageSlowdown := after.ppg.gPtpCapableMessageSlowdown
      gPtpCapableMessageInterval := after.ppg.gPtpCapableMessageInterval
      currentLogGptpCapableMessageInterval := after.ppg.currentLogGptpCapableMessageInterval }
    bppg := { before.bppg with
      announceSlowdown := after.bppg.announceSlowdown
      oldAnnounceInterval := after.bppg.oldAnnounceInterval
      currentLogAnnounceInterval := after.bppg.currentLogAnnounceInterval
      announceInterval := after.bppg.announceInterval
      newInfo := after.bppg.newInfo } }

namespace SideKept

theorem refl (port : Port) : SideKept port port := ⟨rfl⟩

theorem trans (first : SideKept before middle) (second : SideKept middle after) :
    SideKept before after := ⟨by rw [second.rest, first.rest]⟩

end SideKept

theorem kept_intervalRun (setting : IntervalSetting)
    (store : ∀ vars port, SideKept port (setting.store vars port))
    (setData : ∀ data port, SideKept port (setting.setData data port))
    (finished : setting.call ptasg request port = some next) : SideKept port next := by
  cases request with
  | none =>
    exact setting.run_preserves (SideKept port) (fun vars current kept => kept.trans (store _ _))
      (fun data current kept => kept.trans (setData _ _)) finished (.refl port)
  | some requested =>
    exact setting.run_preserves (SideKept port) (fun vars current kept => kept.trans (store _ _))
      (fun data current kept => kept.trans (setData _ _)) finished (setData _ _)

private theorem kept_announceInterval
    (finished : announceIntervalSetting.call ptasg request port = some next) : SideKept port next :=
  kept_intervalRun announceIntervalSetting (fun _ _ => ⟨rfl⟩) (fun _ _ => ⟨rfl⟩) finished

private theorem kept_gptpCapableInterval
    (finished : gptpCapableIntervalSetting.call ptasg request port = some next) :
    SideKept port next :=
  kept_intervalRun gptpCapableIntervalSetting (fun _ _ => ⟨rfl⟩) (fun _ _ => ⟨rfl⟩) finished

open AnnounceTransmit in
theorem kept_transmitArm (view : InstanceView) (cts64 : UInt64) (stateChange : Bool) (port : Port) :
    SideKept port (arm view cts64 stateChange port).1 := by
  unfold arm
  split
  · exact ⟨rfl⟩
  · cases stateChange <;> exact ⟨rfl⟩
  · cases stateChange <;> exact ⟨rfl⟩
  · cases stateChange <;> exact ⟨rfl⟩
  · cases stateChange with
    | false => exact ⟨rfl⟩
    | true =>
      have sent : SideKept port (transmitAnnounceProc view port) := by
        unfold transmitAnnounceProc nextInterval
        dsimp only
        split
        · split <;> exact ⟨rfl⟩
        · exact ⟨rfl⟩
      exact sent.trans ⟨rfl⟩
  · exact ⟨rfl⟩

open AnnounceTransmit in
theorem kept_portAnnounceTransmitSm
    (finished : portAnnounceTransmitSm view cts64 fuel port = some (next, result)) :
    SideKept port next := by
  refine (machine view cts64).run_preserves (SideKept port) ?_ ⟨rfl⟩ finished
  intro current kept
  have remembered : SideKept port
      ((machine view cts64).setLastState current ((machine view cts64).state current)) :=
    kept.trans ⟨rfl⟩
  exact remembered.trans (kept_transmitArm view cts64 _ _)

/-- A step of one port leaves the others and the domain alone. -/
structure OnePort (index : Nat) (before after : Domain) : Prop where
  ports : ∀ other, other ≠ index → after.ports other = before.ports other
  ptasg : after.ptasg = before.ptasg
  trace : TraceOnly before.bptasg after.bptasg
  pssd : after.pssd = { before.pssd with
    asymmetryMeasurementModeChange := after.pssd.asymmetryMeasurementModeChange }
  gmsd : after.gmsd = before.gmsd
  cmsrecd : after.cmsrecd = before.cmsrecd
  gmsync : after.gmsync = before.gmsync

theorem onePort_setPort (domain : Domain) (index : Nat) (port : Port) :
    OnePort index domain (domain.setPort index port) where
  ports _ other := Domain.setPort_ports_other domain index port other
  ptasg := rfl
  trace := traceOnly_refl _
  pssd := rfl
  gmsd := rfl
  cmsrecd := rfl
  gmsync := rfl

theorem onPort_eq_some {domain : Domain} (done : domain.onPort index call = some next) :
    ∃ port, call (domain.ports index) = some port ∧ next = domain.setPort index port := by
  obtain ⟨port, ran, rfl⟩ := Option.map_eq_some_iff.mp done
  exact ⟨port, ran, rfl⟩

theorem onReceive_eq_some {domain : Domain} (done : domain.onReceive index call = some next) :
    ∃ data, call { port := domain.ports index, bptasg := domain.bptasg } = some data ∧
      next = { domain.setPort index data.port with bptasg := data.bptasg } := by
  obtain ⟨data, ran, rfl⟩ := Option.map_eq_some_iff.mp done
  exact ⟨data, ran, rfl⟩

theorem onePort_receive
    (kept : ReceiveKept { port := domain.ports index, bptasg := domain.bptasg } data) :
    OnePort index domain { domain.setPort index data.port with bptasg := data.bptasg } :=
  { onePort_setPort domain index data.port with trace := kept.trace }

inductive PortChange (domain : Domain) (index : Nat) : PortStep → Port → Prop
  | recvAnnounce (ran : portAnnounceReceiveSmRecvAnnounce domain.ptasg announce
      { port := domain.ports index, bptasg := domain.bptasg } = some data) :
      PortChange domain index (.recvAnnounce announce) data.port
  | announceReceive (ran : portAnnounceReceiveSm domain.ptasg
      { port := domain.ports index, bptasg := domain.bptasg } = some data) :
      PortChange domain index .announceReceive data.port
  | information (managed : domain.external = false)
      (ran : portAnnounceInformationSm domain.view cts64 (domain.ports index) = some port) :
      PortChange domain index (.announceInformation cts64) port
  | syncReceiptTimeoutTime (time : UInt64) :
      PortChange domain index (.syncReceiptTimeoutTime time)
        (portAnnounceInformationSmSyncReceiptTimeoutTime time (domain.ports index))
  | side (kept : SideKept (domain.ports index) port) : PortChange domain index step port
  | portOper (value : Bool) : PortChange domain index (.portOper value)
      { domain.ports index with ppg := { (domain.ports index).ppg with portOper := value } }
  | asCapable (value : Bool) : PortChange domain index (.asCapable value)
      { domain.ports index with ppg := { (domain.ports index).ppg with asCapable := value } }
  | asymmetryMeasurementMode (value : Bool) :
      PortChange domain index (.asymmetryMeasurementMode value)
        (setMode value (domain.ports index))

theorem PortStep.perform_cases {step : PortStep} (done : step.perform index domain = some next) :
    OnePort index domain next ∧ PortChange domain index step (next.ports index) := by
  cases step with
  | recvAnnounce announce =>
    obtain ⟨data, ran, rfl⟩ := onReceive_eq_some done
    exact ⟨onePort_receive (kept_recvAnnounce ran), by simpa using PortChange.recvAnnounce ran⟩
  | announceReceive =>
    obtain ⟨data, ran, rfl⟩ := onReceive_eq_some done
    exact ⟨onePort_receive (kept_portAnnounceReceiveSm ran),
      by simpa using PortChange.announceReceive ran⟩
  | announceInformation cts64 =>
    simp only [PortStep.perform] at done
    split at done
    · cases done
    · rename_i managed
      obtain ⟨port, ran, rfl⟩ := onPort_eq_some done
      exact ⟨onePort_setPort _ _ _,
        by simpa using PortChange.information (by simpa using managed) ran⟩
  | syncReceiptTimeoutTime time =>
    simp only [PortStep.perform] at done
    obtain ⟨port, ran, rfl⟩ := onPort_eq_some done
    cases ran
    exact ⟨onePort_setPort _ _ _, by simpa using PortChange.syncReceiptTimeoutTime time⟩
  | announceTransmit cts64 =>
    simp only [PortStep.perform] at done
    obtain ⟨port, called, rfl⟩ := onPort_eq_some done
    obtain ⟨⟨final, result⟩, ran, rfl⟩ := Option.map_eq_some_iff.mp called
    exact ⟨onePort_setPort _ _ _, by simpa using PortChange.side (kept_portAnnounceTransmitSm ran)⟩
  | announceInterval request =>
    obtain ⟨port, ran, rfl⟩ := onPort_eq_some done
    exact ⟨onePort_setPort _ _ _, by simpa using PortChange.side (kept_announceInterval ran)⟩
  | gptpCapableInterval request =>
    obtain ⟨port, ran, rfl⟩ := onPort_eq_some done
    exact ⟨onePort_setPort _ _ _, by simpa using PortChange.side (kept_gptpCapableInterval ran)⟩
  | portOper value =>
    cases done
    exact ⟨onePort_setPort _ _ _, by simpa [Domain.setPpg] using PortChange.portOper value⟩
  | asCapable value =>
    cases done
    exact ⟨onePort_setPort _ _ _, by simpa [Domain.setPpg] using PortChange.asCapable value⟩
  | asymmetryMeasurementMode value =>
    cases done
    refine ⟨{ onePort_setPort domain index _ with pssd := rfl }, ?_⟩
    simpa [Domain.setPort] using PortChange.asymmetryMeasurementMode value

theorem PortStep.bptasg_cases {step : PortStep} (done : step.perform index domain = some next) :
    (next.bptasg = domain.bptasg ∧ (∀ announce, step ≠ .recvAnnounce announce) ∧
      step ≠ .announceReceive) ∨ (∃ announce data, step = .recvAnnounce announce ∧
      portAnnounceReceiveSmRecvAnnounce domain.ptasg announce
        { port := domain.ports index, bptasg := domain.bptasg } = some data ∧
      next = { domain.setPort index data.port with bptasg := data.bptasg }) ∨
    (∃ data, step = .announceReceive ∧ portAnnounceReceiveSm domain.ptasg
        { port := domain.ports index, bptasg := domain.bptasg } = some data ∧
      next = { domain.setPort index data.port with bptasg := data.bptasg }) := by
  cases step with
  | recvAnnounce announce =>
    obtain ⟨data, ran, same⟩ := onReceive_eq_some done
    exact Or.inr (Or.inl ⟨announce, data, rfl, ran, same⟩)
  | announceReceive =>
    obtain ⟨data, ran, same⟩ := onReceive_eq_some done
    exact Or.inr (Or.inr ⟨data, rfl, ran, same⟩)
  | announceInformation cts64 =>
    simp only [PortStep.perform] at done
    split at done
    · cases done
    · obtain ⟨port, _, rfl⟩ := onPort_eq_some done
      exact Or.inl ⟨rfl, nofun, nofun⟩
  | syncReceiptTimeoutTime _ | announceTransmit _ | announceInterval _ | gptpCapableInterval _ =>
    simp only [PortStep.perform] at done
    obtain ⟨port, _, rfl⟩ := onPort_eq_some done
    exact Or.inl ⟨rfl, nofun, nofun⟩
  | portOper _ | asCapable _ | asymmetryMeasurementMode _ =>
    cases done
    exact Or.inl ⟨rfl, nofun, nofun⟩

structure ClockKept (before after : Domain) : Prop where
  ports : after.ports = before.ports
  bptasg : after.bptasg = before.bptasg
  pssd : after.pssd = before.pssd
  ptasg : after.ptasg = { before.ptasg with
    gmStableInitdone := after.ptasg.gmStableInitdone
    asCapableOrAll := after.ptasg.asCapableOrAll }

namespace ClockKept

theorem refl (domain : Domain) : ClockKept domain domain := ⟨rfl, rfl, rfl, rfl⟩

theorem trans (first : ClockKept before middle) (second : ClockKept middle after) :
    ClockKept before after where
  ports := second.ports.trans first.ports
  bptasg := second.bptasg.trans first.bptasg
  pssd := second.pssd.trans first.pssd
  ptasg := by rw [second.ptasg, first.ptasg]

end ClockKept

private theorem kept_gmStableProc (state : GmStableState) (domain : Domain) :
    ClockKept domain (GmStable.proc state domain) := by
  cases state with
  | init | reaction => exact .refl domain
  | initialise =>
    simp only [GmStable.proc, GmStable.initializeProc]
    split <;> exact ⟨rfl, rfl, rfl, rfl⟩
  | gmLost | gmStable => exact ⟨rfl, rfl, rfl, rfl⟩
  | gmUnstable =>
    simp only [GmStable.proc, GmStable.gmUnstableProc]
    split
    · exact ⟨rfl, rfl, rfl, rfl⟩
    · exact .refl domain

theorem kept_gmStableSm (finished : gmStableSm domain = some next) : ClockKept domain next := by
  obtain ⟨⟨final, result⟩, ran, rfl⟩ := Option.map_eq_some_iff.mp finished
  refine GmStable.table.run_preserves_data (ClockKept domain) ?_ ?_ ?_ ?_ ran
  · exact fun state current kept => kept.trans ⟨rfl, rfl, rfl, rfl⟩
  · exact fun state current kept => kept.trans ⟨rfl, rfl, rfl, rfl⟩
  · exact fun state current _ kept => kept.trans (kept_gmStableProc state current)
  · exact ⟨rfl, rfl, rfl, rfl⟩

theorem kept_gmStableGmChange (finished : gmStableGmChange clockIdentity domain = some next) :
    ClockKept domain next := by
  unfold gmStableGmChange at finished
  split at finished
  · cases finished
    exact .refl domain
  · have stored : ClockKept domain { domain with gmsd := { domain.gmsd with
        clockIdentity := clockIdentity, gmChange := true } } := ⟨rfl, rfl, rfl, rfl⟩
    exact stored.trans (kept_gmStableSm finished)

private theorem kept_clockMasterProc (cfg : Config) (state : ClockMasterSyncReceiveState)
    (domain : Domain) : ClockKept domain (ClockMasterSyncReceive.proc cfg state domain) := by
  cases state with
  | init | waiting | reaction => exact .refl domain
  | initializing => exact ⟨rfl, rfl, rfl, rfl⟩
  | receiveSourceTime =>
    simp only [ClockMasterSyncReceive.proc, ClockMasterSyncReceive.receiveSourceTimeProc]
    split
    · split
      · exact ⟨rfl, rfl, rfl, rfl⟩
      · split <;> exact ⟨rfl, rfl, rfl, rfl⟩
    · exact ⟨rfl, rfl, rfl, rfl⟩

theorem kept_clockSourceReq
    (finished : clockMasterSyncReceiveSmClockSourceReq cfg domain = some next) :
    ClockKept domain next := by
  obtain ⟨⟨final, result⟩, ran, rfl⟩ := Option.map_eq_some_iff.mp finished
  refine (ClockMasterSyncReceive.table cfg).run_preserves_data (ClockKept domain) ?_ ?_ ?_ ?_ ran
  · exact fun state current kept => kept.trans ⟨rfl, rfl, rfl, rfl⟩
  · exact fun state current kept => kept.trans ⟨rfl, rfl, rfl, rfl⟩
  · exact fun state current _ kept => kept.trans (kept_clockMasterProc cfg state current)
  · exact ⟨rfl, rfl, rfl, rfl⟩

theorem perform_cases (done : perform cfg domain step = some next) :
    (∃ index portStep, step = .port index portStep ∧ 0 < index ∧ index < cfg.maxPorts ∧
      OnePort index domain next ∧ PortChange domain index portStep (next.ports index)) ∨
    (domain.external = false ∧
      ∃ cts64 result, portStateSelectionSm cfg cts64 domain = some (next, result)) ∨
    (domain.external = true ∧ ∃ index, 0 < index ∧ index < cfg.maxPorts ∧
      performExternal cfg index domain = some next) ∨ ClockKept domain next := by
  cases step with
  | port index step =>
    simp only [perform] at done
    split at done
    · rename_i inRange
      have change := PortStep.perform_cases done
      exact Or.inl ⟨index, step, rfl, inRange.1, inRange.2, change.1, change.2⟩
    · cases done
  | external index =>
    simp only [perform] at done
    split at done
    · rename_i enabled
      exact Or.inr (Or.inr (Or.inl ⟨enabled.2.2, index, enabled.1, enabled.2.1, done⟩))
    · cases done
  | stateSelection cts64 =>
    simp only [perform] at done
    split at done
    · cases done
    · rename_i managed
      obtain ⟨⟨final, result⟩, ran, rfl⟩ := Option.map_eq_some_iff.mp done
      exact Or.inr (Or.inl ⟨by simpa using managed, cts64, result, ran⟩)
  | gmStable => exact Or.inr (Or.inr (Or.inr (kept_gmStableSm done)))
  | gmChange clockIdentity => exact Or.inr (Or.inr (Or.inr (kept_gmStableGmChange done)))
  | clockSourceReq => exact Or.inr (Or.inr (Or.inr (kept_clockSourceReq done)))
  | asCapableOrAll value =>
    cases done
    exact Or.inr (Or.inr (Or.inr ⟨rfl, rfl, rfl, rfl⟩))
  | gmsync domainIndex status =>
    cases done
    exact Or.inr (Or.inr (Or.inr ⟨rfl, rfl, rfl, rfl⟩))

end EnetTsn.Bmcs
