import EnetTsn.Bmcs.ReceiveSide
import EnetTsn.Md.AnnounceReception

/-!
Announces received while the port is down. `gptpman` hands an Announce to
`port_announce_receive_sm` and calls `sm_bmcs_perform` at once, and the receive
machine runs at no other time.
-/

namespace EnetTsn.Bmcs

open EnetTsn.Gptp EnetTsn.Library

def Step.reception : Step → Bool
  | .port _ (.recvAnnounce _) | .port _ .announceReceive => true
  | _ => false

/-- What happens to a domain: an Announce is received at a port, or any other step. -/
inductive BmcsEvent where
  | announce (index : Nat) (announce : PTPMsgAnnounce) (cts64 : UInt64)
  | step (step : Step)

namespace BmcsEvent

def announcedAt (index : Nat) : BmcsEvent → Bool
  | .announce received _ _ => received == index
  | .step _ => false

end BmcsEvent

namespace Domain

/-- The step that `sm_bmcs_perform` begins with. -/
def bmcsStep (index : Nat) (cts64 : UInt64) (domain : Domain) : Step :=
  if domain.external then .external index else .port index (.announceInformation cts64)

end Domain

/-- What an event does. An Announce is handed over as `gptpnet_cb_recv` does it. -/
def dispatch (cfg : Config) (domain : Domain) : BmcsEvent → Option Domain
  | .announce index announce cts64 =>
    (perform cfg domain (.port index (.recvAnnounce announce))).bind fun received =>
      perform cfg received (received.bmcsStep index cts64)
  | .step step => if step.reception then none else perform cfg domain step

def bmcsSystem (cfg : Config) (settings : Settings) : System Domain BmcsEvent where
  start := Domain.init cfg settings
  step := dispatch cfg

/-- What the information machine and the receive machine have left of a port between
two events. -/
structure PortAtRest (port : Port) : Prop where
  awake : Awake port
  stable : port.painfd.lastState = port.painfd.state
  disabled : port.painfd.state = .disabled ∨ port.painfd.state = .init ↔
    port.bppg.infoIs = .disabled
  rcvdMsg : port.bppg.infoIs = .disabled → port.bppg.rcvdMsg = false

structure Undisturbed (before after : Port) : Prop where
  parecd : after.parecd = before.parecd
  state : after.painfd.state = before.painfd.state
  lastState : after.painfd.lastState = before.painfd.lastState
  infoIs : after.bppg.infoIs = before.bppg.infoIs
  rcvdMsg : after.bppg.rcvdMsg = before.bppg.rcvdMsg

namespace Undisturbed

theorem refl (port : Port) : Undisturbed port port := ⟨rfl, rfl, rfl, rfl, rfl⟩

variable (undisturbed : Undisturbed before after)
include undisturbed

theorem atRest (rest : PortAtRest before) : PortAtRest after where
  awake := by
    unfold Awake
    rw [undisturbed.parecd]
    exact rest.awake
  stable := by rw [undisturbed.lastState, undisturbed.state, rest.stable]
  disabled := by
    rw [undisturbed.state, undisturbed.infoIs]
    exact rest.disabled
  rcvdMsg disabled := by
    rw [undisturbed.rcvdMsg]
    exact rest.rcvdMsg (undisturbed.infoIs ▸ disabled)

theorem quiet (quiet : Quiet before.painfd.state before) : Quiet after.painfd.state after :=
  ⟨undisturbed.rcvdMsg.trans quiet.rcvdMsg, undisturbed.state ▸ quiet.idle⟩

end Undisturbed

private theorem undisturbed_side (kept : SideKept before after) : Undisturbed before after := by
  constructor
  all_goals rw [kept.rest]

private theorem undisturbed_selection (kept : PortKept before after) : Undisturbed before after :=
  ⟨kept.parecd, by rw [kept.painfd], by rw [kept.painfd], kept.infoIs, kept.rcvdMsg⟩

private theorem undisturbed_portChange (change : PortChange domain index step port)
    (unheard : Step.reception (.port index step) = false) :
    Undisturbed (domain.ports index) port ∨ ∃ cts64, step = .announceInformation cts64 ∧
      portAnnounceInformationSm domain.view cts64 (domain.ports index) = some port := by
  cases change with
  | recvAnnounce | announceReceive => cases unheard
  | information _ ran => exact Or.inr ⟨_, rfl, ran⟩
  | side kept => exact Or.inl (undisturbed_side kept)
  | syncReceiptTimeoutTime | portOper | asCapable | asymmetryMeasurementMode =>
    exact Or.inl ⟨rfl, rfl, rfl, rfl, rfl⟩

theorem undisturbed_perform (managed : domain.external = false)
    (unheard : Step.reception step = false) (done : perform cfg domain step = some next)
    (index : Nat) : Undisturbed (domain.ports index) (next.ports index) ∨
      ∃ cts64, step = .port index (.announceInformation cts64) ∧
        portAnnounceInformationSm domain.view cts64 (domain.ports index) =
          some (next.ports index) := by
  rcases perform_cases done with
    ⟨place, portStep, rfl, _, _, rest, change⟩ | ⟨_, cts64, result, ran⟩ | ⟨external, _⟩ | kept
  · by_cases same : index = place
    · subst same
      rcases undisturbed_portChange change unheard with undisturbed | ⟨cts64, rfl, ran⟩
      · exact Or.inl undisturbed
      · exact Or.inr ⟨cts64, rfl, ran⟩
    · rw [rest.ports index same]
      exact Or.inl (.refl _)
  · exact Or.inl (undisturbed_selection ((selecting_portStateSelectionSm ran).frame.ports index))
  · rw [managed] at external
    cases external
  · rw [kept.ports]
    exact Or.inl (.refl _)

structure Managed (domain : Domain) : Prop where
  managed : domain.external = false
  begun : domain.ptasg.BEGIN = false
  enabled : domain.ptasg.instanceEnable = true

theorem Managed.perform (running : Managed domain) (done : perform cfg domain step = some next) :
    Managed next := by
  rcases perform_cases done with
    ⟨place, portStep, rfl, _, _, rest, _⟩ | ⟨_, cts64, result, ran⟩ | ⟨external, _⟩ | kept
  · refine ⟨?_, rest.ptasg ▸ running.begun, rest.ptasg ▸ running.enabled⟩
    unfold Domain.external
    rw [rest.trace.rest]
    exact running.managed
  · have frame := (selecting_portStateSelectionSm ran).frame
    refine ⟨?_, frame.BEGIN.trans running.begun, frame.instanceEnable.trans running.enabled⟩
    unfold Domain.external
    rw [frame.externalPortConfiguration]
    exact running.managed
  · rw [running.managed] at external
    cases external
  · refine ⟨?_, ?_, ?_⟩
    · unfold Domain.external
      rw [kept.bptasg]
      exact running.managed
    · rw [kept.ptasg]
      exact running.begun
    · rw [kept.ptasg]
      exact running.enabled

section Information

open AnnounceInformation

/-- How the state of the machine and `infoIs` go together while it runs; an Announce
waits at a disabled port only until the machine takes note that the port is up. -/
structure Agreeing (s : AnnounceInformationState) (port : Port) : Prop where
  disabled : s = .disabled ∨ s = .init ↔ port.bppg.infoIs = .disabled
  rcvdMsg : port.bppg.infoIs = .disabled → port.up = true ∨ port.bppg.rcvdMsg = false

/-- What `Agreeing` asks of a port that is about to enter a state. -/
def ReadyFor (s : AnnounceInformationState) (port : Port) : Prop :=
  s ≠ .init ∧ (s = .disabled ∨ s = .aged ∨ s = .update ∨ port.bppg.infoIs ≠ .disabled)

section

variable (view : InstanceView) (cts64 : UInt64)

private theorem ignores_agreeing : (table view cts64).Ignores Agreeing :=
  ⟨fun _ _ _ agreeing => ⟨agreeing.disabled, agreeing.rcvdMsg⟩,
    fun _ _ _ agreeing => ⟨agreeing.disabled, agreeing.rcvdMsg⟩⟩

private theorem ignores_readyFor : (table view cts64).Ignores ReadyFor :=
  ⟨fun _ _ _ ready => ready, fun _ _ _ ready => ready⟩

theorem agreeing_of_ne (disabled : s ≠ .disabled) (init : s ≠ .init)
    (infoIs : port.bppg.infoIs ≠ .disabled) : Agreeing s port :=
  ⟨⟨fun either => (either.elim disabled init).elim, fun same => absurd same infoIs⟩,
    fun same => absurd same infoIs⟩

private theorem agreeing_proc (ready : ReadyFor s port) : Agreeing s (proc view cts64 s port) := by
  obtain ⟨started, prepared⟩ := ready
  cases s with
  | init => exact absurd rfl started
  | disabled => exact ⟨⟨fun _ => rfl, fun _ => Or.inl rfl⟩, fun _ => Or.inr rfl⟩
  | aged | update | superiorMasterPort => exact agreeing_of_ne nofun nofun nofun
  | current | receive | repeatedMasterPort | inferiorMasterOrOtherPort | reaction =>
    rcases prepared with impossible | impossible | impossible | infoIs
    · cases impossible
    · cases impossible
    · cases impossible
    · exact agreeing_of_ne nofun nofun infoIs

theorem readyFor_condition (same : port.painfd.state = s)
    (agreeing : Agreeing s port) (moves : condition view cts64 s port ≠ s) :
    ReadyFor (condition view cts64 s port) port := by
  have info : s ≠ .disabled → s ≠ .init → port.bppg.infoIs ≠ .disabled :=
    fun disabled init infoIs => (agreeing.disabled.mpr infoIs).elim disabled init
  cases s with
  | init => exact ⟨by rintro ⟨⟩, Or.inl rfl⟩
  | disabled =>
    simp only [condition, disabledCondition, same]
    split
    · exact ⟨by rintro ⟨⟩, Or.inr (Or.inl rfl)⟩
    · rw [ite_self]
      exact ⟨by rintro ⟨⟩, Or.inl rfl⟩
  | aged =>
    simp only [condition, agedCondition]
    split
    · exact ⟨by rintro ⟨⟩, Or.inr (Or.inr (Or.inl rfl))⟩
    · exact ⟨by rintro ⟨⟩, Or.inr (Or.inl rfl)⟩
  | update | superiorMasterPort | repeatedMasterPort =>
    exact ⟨by rintro ⟨⟩, Or.inr (Or.inr (Or.inr (info (by simp) (by simp))))⟩
  | current =>
    have infoIs := info (by simp) (by simp)
    simp only [condition]
    rcases currentCondition_cases view cts64 port with
      ⟨next, _⟩ | ⟨next, _⟩ | ⟨next, _⟩ | ⟨next, _⟩
    all_goals
      rw [next]
      exact ⟨by rintro ⟨⟩, Or.inr (Or.inr (Or.inr infoIs))⟩
  | receive =>
    have infoIs := info (by simp) (by simp)
    simp only [condition]
    rcases receiveCondition_cases port with ⟨next, _⟩ | ⟨next, _⟩ | ⟨next, _⟩ | ⟨next, _⟩
    all_goals
      rw [next]
      exact ⟨by rintro ⟨⟩, Or.inr (Or.inr (Or.inr infoIs))⟩
  | inferiorMasterOrOtherPort =>
    have infoIs := info (by simp) (by simp)
    simp only [condition]
    rcases inferiorCondition_cases view port with ⟨next, _⟩ | next
    all_goals
      rw [next]
      exact ⟨by rintro ⟨⟩, Or.inr (Or.inr (Or.inr infoIs))⟩
  | reaction => exact absurd rfl moves

end

theorem atRest_portAnnounceInformationSm (awake : Awake port)
    (stable : port.painfd.lastState = port.painfd.state)
    (agreeing : Agreeing port.painfd.state port)
    (finished : portAnnounceInformationSm view cts64 port = some next) : PortAtRest next := by
  have kept := kept_portAnnounceInformationSm finished
  obtain ⟨settled, agrees⟩ := portAnnounceInformationSm_phases ReadyFor Agreeing
    (ignores_readyFor view cts64) (ignores_agreeing view cts64)
    (fun _ _ => ⟨nofun, Or.inl rfl⟩) (fun _ _ _ ready => agreeing_proc view cts64 ready)
    (fun _ _ same agreeing moves => readyFor_condition view cts64 same agreeing moves) stable
    (fun _ => agreeing) finished
  refine ⟨?_, settled, agrees.disabled, fun disabled => ?_⟩
  · unfold Awake
    rw [kept.parecd]
    exact awake
  · have stays := portAnnounceInformationSm_quiescent finished
    have state := agrees.disabled.mpr disabled
    refine (agrees.rcvdMsg disabled).resolve_left fun up => ?_
    rcases state with state | state
    · rw [state] at stays
      have aged : condition view cts64 .disabled next = .aged := if_pos up
      rw [aged] at stays
      cases stays
    · rw [state] at stays
      cases stays

private theorem unheeding_of_down (rest : PortAtRest port) (down : port.up = false)
    (managed : view.bptasg.externalPortConfiguration = valueDisabled) : Unheeding view port := by
  by_cases disabled : port.bppg.infoIs = .disabled
  · refine Or.inl ⟨rest.rcvdMsg disabled, ?_⟩
    rcases rest.disabled.mpr disabled with state | state
    · rw [state]
      rfl
    · rw [state]
      rfl
  · refine Or.inr ⟨?_, ?_⟩
    · unfold allstateCondition
      rw [down, managed]
      simp [disabled]
    · rw [rest.stable]
      exact fun state => disabled (rest.disabled.mp (Or.inl state))

end Information

structure DomainAtRest (domain : Domain) : Prop extends Managed domain where
  ports : ∀ index, PortAtRest (domain.ports index)

theorem external_of_trace {domain : Domain} (managed : domain.external = false)
    (trace : TraceOnly domain.bptasg bptasg) :
    bptasg.externalPortConfiguration = valueDisabled := by
  rw [trace.rest]
  simpa [Domain.external] using managed

theorem dispatch_announce (managed : domain.external = false)
    (inRange : 0 < index ∧ index < cfg.maxPorts) :
    dispatch cfg domain (.announce index announce cts64) =
      (portAnnounceReceiveSmRecvAnnounce domain.ptasg announce
        { port := domain.ports index, bptasg := domain.bptasg }).bind fun data =>
      (portAnnounceInformationSm { ptasg := domain.ptasg, bptasg := data.bptasg } cts64
        data.port).map fun port => { domain.setPort index port with bptasg := data.bptasg } := by
  simp only [dispatch, perform, if_pos inRange, PortStep.perform, Domain.onReceive]
  cases ran : portAnnounceReceiveSmRecvAnnounce domain.ptasg announce
    { port := domain.ports index, bptasg := domain.bptasg } with
  | none => rfl
  | some data =>
    let received : Domain := { domain.setPort index data.port with bptasg := data.bptasg }
    have external : received.external = false := by
      simp [Domain.external, received, external_of_trace managed (kept_recvAnnounce ran).trace]
    have step : received.bmcsStep index cts64 = .port index (.announceInformation cts64) :=
      if_neg (by rw [external]; simp)
    have called : perform cfg received (.port index (.announceInformation cts64)) =
        received.onPort index (portAnnounceInformationSm received.view cts64) := by
      simp [perform, inRange, PortStep.perform, external]
    have stored : ∀ port, received.setPort index port =
        { domain.setPort index port with bptasg := data.bptasg } := by
      intro port
      simp [received, Domain.setPort]
    have port : received.ports index = data.port := Domain.setPort_ports_same domain index _
    have run : perform cfg received (received.bmcsStep index cts64) =
        (portAnnounceInformationSm { ptasg := domain.ptasg, bptasg := data.bptasg } cts64
          data.port).map fun port => { domain.setPort index port with bptasg := data.bptasg } := by
      rw [step, called, Domain.onPort, port]
      exact congrArg (Option.map · _) (funext stored)
    exact run

theorem dispatch_outside (outside : ¬ (0 < index ∧ index < cfg.maxPorts)) :
    dispatch cfg domain (.announce index announce cts64) = none := by
  simp only [dispatch, perform, if_neg outside]
  rfl

theorem recvAnnounce_cases (announce : PTPMsgAnnounce) (data : ReceiveData)
    (begun : ptasg.BEGIN = false) (enabled : ptasg.instanceEnable = true)
    (managed : data.bptasg.externalPortConfiguration = valueDisabled) (awake : Awake data.port) :
    (data.port.up = true ∧ portAnnounceReceiveSmRecvAnnounce ptasg announce data =
      some (examine ptasg announce data)) ∨
    (data.port.up = false ∧ portAnnounceReceiveSmRecvAnnounce ptasg announce data =
      some (discard announce data)) := by
  cases up : data.port.up with
  | true => exact Or.inl ⟨rfl, recvAnnounce_up begun enabled awake up⟩
  | false => exact Or.inr ⟨rfl, recvAnnounce_down managed up⟩

namespace DomainAtRest

theorem init (cfg : Config) (settings : Settings)
    (managed : settings.externalPortConfiguration = valueDisabled) :
    DomainAtRest (Domain.init cfg settings) where
  managed := by simp [Domain.external, Domain.init, BmcsPerTimeAwareSystemGlobal.init, managed]
  begun := rfl
  enabled := rfl
  ports _ := ⟨Or.inl rfl, rfl, ⟨fun _ => rfl, fun _ => Or.inr rfl⟩, fun _ => rfl⟩

variable {cfg : Config} {domain : Domain} (rest : DomainAtRest domain)
include rest

theorem step {step : Step} (unheard : step.reception = false)
    (done : perform cfg domain step = some next) : DomainAtRest next := by
  refine ⟨rest.toManaged.perform done, fun index => ?_⟩
  have port := rest.ports index
  rcases undisturbed_perform rest.managed unheard done index with undisturbed | ⟨_, _, ran⟩
  · exact undisturbed.atRest port
  · exact atRest_portAnnounceInformationSm port.awake port.stable
      ⟨port.disabled, fun disabled => Or.inr (port.rcvdMsg disabled)⟩ ran

theorem received {data : ReceiveData} (ran : portAnnounceReceiveSmRecvAnnounce domain.ptasg announce
    { port := domain.ports index, bptasg := domain.bptasg } = some data) :
    Awake data.port ∧ (data.port.up = true ∨
      data.port.bppg.rcvdMsg = (domain.ports index).bppg.rcvdMsg) := by
  have managed := external_of_trace rest.managed (traceOnly_refl domain.bptasg)
  rcases recvAnnounce_cases announce { port := domain.ports index, bptasg := domain.bptasg }
      rest.begun rest.enabled managed (rest.ports index).awake with ⟨up, taken⟩ | ⟨_, taken⟩
  · rw [taken] at ran
    cases ran
    exact ⟨Or.inr rfl, Or.inl up⟩
  · rw [taken] at ran
    cases ran
    exact ⟨Or.inl rfl, Or.inr rfl⟩

theorem reception (done : dispatch cfg domain (.announce index announce cts64) = some next) :
    DomainAtRest next := by
  by_cases inRange : 0 < index ∧ index < cfg.maxPorts
  · rw [dispatch_announce rest.managed inRange] at done
    obtain ⟨data, ran, called⟩ := Option.bind_eq_some_iff.mp done
    obtain ⟨port, information, rfl⟩ := Option.map_eq_some_iff.mp called
    have before := rest.ports index
    have kept := kept_recvAnnounce ran
    obtain ⟨awake, taken⟩ := rest.received ran
    have painfd : data.port.painfd = (domain.ports index).painfd := by rw [kept.port]
    have infoIs : data.port.bppg.infoIs = (domain.ports index).bppg.infoIs := by rw [kept.port]
    have agreeing : Agreeing data.port.painfd.state data.port := by
      refine ⟨?_, fun disabled => taken.imp_right fun same => ?_⟩
      · rw [painfd, infoIs]
        exact before.disabled
      · rw [same]
        exact before.rcvdMsg (infoIs ▸ disabled)
    have stable : data.port.painfd.lastState = data.port.painfd.state := by
      rw [painfd]
      exact before.stable
    refine ⟨⟨?_, rest.begun, rest.enabled⟩, fun other => ?_⟩
    · simp [Domain.external, external_of_trace rest.managed kept.trace]
    · by_cases same : other = index
      · subst same
        simpa [Domain.setPort] using
          atRest_portAnnounceInformationSm awake stable agreeing information
      · simpa [Domain.setPort, same] using rest.ports other
  · rw [dispatch_outside inRange] at done
    cases done

theorem dispatch (done : Bmcs.dispatch cfg domain event = some next) : DomainAtRest next := by
  cases event with
  | announce index announce cts64 => exact rest.reception done
  | step step =>
    obtain ⟨unheard, taken⟩ := Option.ite_none_left_eq_some.mp done
    exact rest.step (by simpa using unheard) taken

end DomainAtRest

private theorem atRest_reachable (managed : settings.externalPortConfiguration = valueDisabled)
    (reached : (bmcsSystem cfg settings).Reachable System.anyStep domain) : DomainAtRest domain :=
  reached.invariant DomainAtRest (.init cfg settings managed) fun _ _ _ rest _ done =>
    rest.dispatch done

section Twin

variable {cfg : Config} {domain : Domain} {sides : Nat → Option ReceiveSide}

def Overlooks (sides : Nat → Option ReceiveSide) (domain : Domain) : Prop :=
  ∀ index, sides index = none ∨ Unheeding domain.view (domain.ports index)

private theorem withReceive_information (overlooks : Overlooks sides domain) (index : Nat)
    (cts64 : UInt64) : portAnnounceInformationSm domain.view cts64
        ((domain.ports index).withReceive (sides index)) =
      (portAnnounceInformationSm domain.view cts64 (domain.ports index)).map
        (Port.withReceive (sides index)) := by
  rcases overlooks index with own | unheeding
  · rw [own]
    exact Option.map_id'.symm
  · exact unheeding.withReceive cts64 (sides index)

section

variable (managed : domain.external = false)
include managed

theorem withReceive_portStep
    (overlooks : Overlooks sides domain) (unheard : Step.reception (.port index step) = false) :
    step.perform index (domain.withReceive sides) =
      (step.perform index domain).map (Domain.withReceive sides) := by
  have external : (domain.withReceive sides).external = false := managed
  cases step with
  | recvAnnounce | announceReceive => cases unheard
  | announceInformation cts64 =>
    simp only [PortStep.perform]
    rw [external, managed]
    exact withReceive_onPort (withReceive_information overlooks index cts64)
  | syncReceiptTimeoutTime time =>
    simp only [PortStep.perform]
    apply withReceive_onPort
    rfl
  | announceTransmit cts64 =>
    simp only [PortStep.perform]
    exact withReceive_onPort (blindPort_portAnnounceTransmitSm domain.view cts64 8 _ _)
  | announceInterval request =>
    exact withReceive_onPort (blindSetting_announce.call domain.ptasg request _ _)
  | gptpCapableInterval request =>
    exact withReceive_onPort (blindSetting_gptpCapable.call domain.ptasg request _ _)
  | portOper value =>
    exact congrArg some (domain.withReceive_setPort sides index
      { domain.ports index with ppg := { (domain.ports index).ppg with portOper := value } })
  | asCapable value =>
    exact congrArg some (domain.withReceive_setPort sides index
      { domain.ports index with ppg := { (domain.ports index).ppg with asCapable := value } })
  | asymmetryMeasurementMode value =>
    exact congrArg (fun stored : Domain => some { stored with
      pssd := { domain.pssd with asymmetryMeasurementModeChange := true } })
      (domain.withReceive_setPort sides index (setMode value (domain.ports index)))

theorem withReceive_perform (overlooks : Overlooks sides domain)
    (unheard : step.reception = false) : perform cfg (domain.withReceive sides) step =
      (perform cfg domain step).map (Domain.withReceive sides) := by
  have external : (domain.withReceive sides).external = false := managed
  cases step with
  | port index step =>
    by_cases inRange : 0 < index ∧ index < cfg.maxPorts
    · simp only [perform, if_pos inRange]
      exact withReceive_portStep managed overlooks unheard
    · simp only [perform, if_neg inRange]
      rfl
  | external index =>
    simp [perform, external, managed]
  | stateSelection cts64 =>
    simp only [perform]
    rw [external, managed, withReceive_portStateSelectionSm]
    simp
    rfl
  | gmStable => exact blindStep_gmStableSm sides domain
  | gmChange clockIdentity => exact blindStep_gmStableGmChange clockIdentity sides domain
  | clockSourceReq => exact blindStep_clockSourceReq cfg sides domain
  | asCapableOrAll | gmsync => rfl

theorem withReceive_reception (own : sides index = none) :
    dispatch cfg (domain.withReceive sides) (.announce index announce cts64) =
      (dispatch cfg domain (.announce index announce cts64)).map (Domain.withReceive sides) := by
  by_cases inRange : 0 < index ∧ index < cfg.maxPorts
  · have external : (domain.withReceive sides).external = false := managed
    have port : (domain.withReceive sides).ports index = domain.ports index := by
      simp only [Domain.withReceive]
      rw [own]
      rfl
    have stored : ∀ port, (domain.withReceive sides).setPort index port =
        (domain.setPort index port).withReceive sides := by
      intro port
      rw [← domain.withReceive_setPort, own]
      rfl
    rw [dispatch_announce external inRange, dispatch_announce managed inRange, port]
    simp only [stored, Option.map_bind, Option.map_map, Function.comp_def]
    rfl
  · rw [dispatch_outside inRange, dispatch_outside inRange]
    rfl

end

def only (index : Nat) (side : Option ReceiveSide) : Nat → Option ReceiveSide :=
  Function.update (fun _ => none) index side

@[simp] theorem only_same (index : Nat) (side : Option ReceiveSide) : only index side index = side :=
  Function.update_self ..

theorem only_other (side : Option ReceiveSide) (other : index' ≠ index) :
    only index side index' = none :=
  Function.update_of_ne other ..

theorem setPort_withReceive (domain : Domain) (index : Nat) (port : Port)
    (side : Option ReceiveSide) : (domain.setPort index port).withReceive (only index side) =
      domain.setPort index (port.withReceive side) := by
  simp only [Domain.withReceive, Domain.setPort]
  congr 1
  funext other
  by_cases same : other = index
  · subst same
    simp
  · simp [same, only_other, Port.withReceive_none]

theorem withReceive_only (domain : Domain) (index : Nat) (side : Option ReceiveSide) :
    domain.withReceive (only index side) =
      domain.setPort index ((domain.ports index).withReceive side) := by
  rw [← setPort_withReceive]
  congr 1
  simp [Domain.setPort]

private theorem withReceive_only_none (domain : Domain) (index : Nat) :
    domain.withReceive (only index none) = domain := by
  rw [withReceive_only, Port.withReceive_none]
  simp [Domain.setPort]

theorem withReceive_recvAnnounce (announce : PTPMsgAnnounce) (begun : ptasg.BEGIN = false)
    (enabled : ptasg.instanceEnable = true)
    (managed : bptasg.externalPortConfiguration = valueDisabled) (side : Option ReceiveSide)
    (awake : Awake port) (twin : Awake (port.withReceive side)) :
    portAnnounceReceiveSmRecvAnnounce ptasg announce
        { port := port.withReceive side, bptasg := bptasg } =
      portAnnounceReceiveSmRecvAnnounce ptasg announce { port := port, bptasg := bptasg } := by
  have same : (port.withReceive side).up = port.up := rfl
  rcases recvAnnounce_cases announce { port := port, bptasg := bptasg } begun enabled managed
    awake with ⟨up, taken⟩ | ⟨down, taken⟩
  · rcases recvAnnounce_cases announce { port := port.withReceive side, bptasg := bptasg } begun
      enabled managed twin with ⟨_, twinTaken⟩ | ⟨down, _⟩
    · rw [taken, twinTaken]
      rfl
    · exact nomatch (down.symm.trans same).trans up
  · rcases recvAnnounce_cases announce { port := port.withReceive side, bptasg := bptasg } begun
      enabled managed twin with ⟨up, _⟩ | ⟨_, twinTaken⟩
    · exact nomatch (up.symm.trans same).trans down
    · rw [taken, twinTaken]
      rfl

/-- The domain behaves alike with another receive side of the port. -/
structure Twin (index : Nat) (side : Option ReceiveSide) (domain : Domain) : Prop where
  rest : DomainAtRest domain
  awake : Awake ((domain.ports index).withReceive side)
  quiet : side = none ∨ Quiet (domain.ports index).painfd.state (domain.ports index)

namespace Twin

theorem reception {side : Option ReceiveSide} (twin : Twin index side domain) :
    dispatch cfg (domain.withReceive (only index side)) (.announce index announce cts64) =
      dispatch cfg domain (.announce index announce cts64) := by
  by_cases inRange : 0 < index ∧ index < cfg.maxPorts
  · have managed := external_of_trace twin.rest.managed (traceOnly_refl domain.bptasg)
    have external : (domain.withReceive (only index side)).external = false := twin.rest.managed
    have port : (domain.withReceive (only index side)).ports index =
        (domain.ports index).withReceive side := by
      rw [withReceive_only, Domain.setPort_ports_same]
    have stored : ∀ port, (domain.withReceive (only index side)).setPort index port =
        domain.setPort index port := by
      intro port
      rw [withReceive_only]
      simp [Domain.setPort]
    have taken := withReceive_recvAnnounce announce twin.rest.begun twin.rest.enabled managed side
      (twin.rest.ports index).awake twin.awake
    rw [dispatch_announce external inRange, dispatch_announce twin.rest.managed inRange, port]
    simp only [stored]
    exact congrArg (Option.bind · _) taken
  · rw [dispatch_outside inRange, dispatch_outside inRange]

variable {side : Option ReceiveSide} (twin : Twin index side domain)
include twin

theorem awake_next (rest : DomainAtRest next) : Awake ((next.ports index).withReceive side) := by
  cases side with
  | none => exact (rest.ports index).awake
  | some given => exact twin.awake

theorem overlooks : Overlooks (only index side) domain := by
  intro other
  by_cases same : other = index
  · subst same
    rw [only_same]
    exact twin.quiet.imp_right Or.inl
  · exact Or.inl (only_other side same)

theorem step {step : Step} (unheard : step.reception = false)
    (done : perform cfg domain step = some next) :
    perform cfg (domain.withReceive (only index side)) step =
      some (next.withReceive (only index side)) ∧ Twin index side next := by
  have rest := twin.rest.step unheard done
  refine ⟨?_, rest, twin.awake_next rest, twin.quiet.imp_right fun quiet => ?_⟩
  · rw [withReceive_perform twin.rest.managed twin.overlooks unheard, done]
    rfl
  · rcases undisturbed_perform twin.rest.managed unheard done index with
      undisturbed | ⟨_, _, ran⟩
    · exact undisturbed.quiet quiet
    · exact Unheeding.quiet (Or.inl quiet) ran

theorem elsewhere (other : place ≠ index)
    (done : dispatch cfg domain (.announce place announce cts64) = some next) :
    dispatch cfg (domain.withReceive (only index side)) (.announce place announce cts64) =
      some (next.withReceive (only index side)) ∧ Twin index side next := by
  have rest := twin.rest.reception done
  refine ⟨?_, rest, twin.awake_next rest, ?_⟩
  · rw [withReceive_reception twin.rest.managed (only_other side other), done]
    rfl
  · by_cases inRange : 0 < place ∧ place < cfg.maxPorts
    · rw [dispatch_announce twin.rest.managed inRange] at done
      obtain ⟨data, _, called⟩ := Option.bind_eq_some_iff.mp done
      obtain ⟨port, _, rfl⟩ := Option.map_eq_some_iff.mp called
      simpa [Domain.setPort, Ne.symm other] using twin.quiet
    · rw [dispatch_outside inRange] at done
      cases done

theorem run (finished : (bmcsSystem cfg settings).run domain events = some final) :
    ∃ side', (bmcsSystem cfg settings).run (domain.withReceive (only index side)) events =
        some (final.withReceive (only index side')) ∧
      ((∀ event ∈ events, event.announcedAt index = false) →
        side' = side ∧ Twin index side final) := by
  induction events generalizing domain with
  | nil =>
    cases finished
    exact ⟨side, rfl, fun _ => ⟨rfl, twin⟩⟩
  | cons event events ih =>
    obtain ⟨next, done, later⟩ := Option.bind_eq_some_iff.mp finished
    have follow : (bmcsSystem cfg settings).step (domain.withReceive (only index side)) event =
          some (next.withReceive (only index side)) → Twin index side next →
        ∃ side', (bmcsSystem cfg settings).run (domain.withReceive (only index side))
            (event :: events) = some (final.withReceive (only index side')) ∧
          ((∀ event' ∈ event :: events, event'.announcedAt index = false) →
            side' = side ∧ Twin index side final) := by
      intro twinDone twinNext
      obtain ⟨side', ran, silent⟩ := ih twinNext later
      refine ⟨side', ?_, fun unannounced => silent (List.forall_mem_cons.mp unannounced).2⟩
      simp [System.run, twinDone, ran]
    cases event with
    | step step =>
      obtain ⟨unheard, taken⟩ := Option.ite_none_left_eq_some.mp done
      obtain ⟨twinDone, twinNext⟩ := twin.step (by simpa using unheard) taken
      exact follow ((if_neg unheard).trans twinDone) twinNext
    | announce place announce cts64 =>
      by_cases other : place = index
      · subst other
        refine ⟨none, ?_, fun unannounced => ?_⟩
        · rw [withReceive_only_none, System.run]
          exact (congrArg (Option.bind · _) twin.reception).trans finished
        · have silent := (List.forall_mem_cons.mp unannounced).1
          simp [BmcsEvent.announcedAt] at silent
      · obtain ⟨twinDone, twinNext⟩ := twin.elsewhere other done
        exact follow twinDone twinNext

end Twin

theorem twin_of_down (rest : DomainAtRest domain) (down : (domain.ports index).up = false)
    (done : dispatch cfg domain (.announce index announce cts64) = some next) :
    ∃ given, perform cfg domain (.port index (.announceInformation cts64)) =
        some (next.withReceive (only index (some given))) ∧ Twin index (some given) next := by
  by_cases inRange : 0 < index ∧ index < cfg.maxPorts
  · have atRest := rest.reception done
    have managed := external_of_trace rest.managed (traceOnly_refl domain.bptasg)
    let data := discard announce { port := domain.ports index, bptasg := domain.bptasg }
    let given : ReceiveSide :=
      { parecd := (domain.ports index).parecd
        rcvdAnnouncePtr := (domain.ports index).bppg.rcvdAnnouncePtr }
    have own : data.port.withReceive (some given) = domain.ports index := rfl
    have portRest := rest.ports index
    have dataRest : PortAtRest data.port :=
      ⟨Or.inl rfl, portRest.stable, portRest.disabled, portRest.rcvdMsg⟩
    have unheeding : Unheeding domain.view data.port :=
      unheeding_of_down dataRest down managed
    rw [dispatch_announce rest.managed inRange, recvAnnounce_down managed down] at done
    obtain ⟨port, ran, rfl⟩ := Option.map_eq_some_iff.mp done
    have called : portAnnounceInformationSm domain.view cts64 (domain.ports index) =
        some (port.withReceive (some given)) := by
      have twin := unheeding.withReceive cts64 (some given)
      exact twin.trans (congrArg (Option.map _) ran)
    have performed : perform cfg domain (.port index (.announceInformation cts64)) =
        domain.onPort index (portAnnounceInformationSm domain.view cts64) := by
      simp [perform, inRange, PortStep.perform, rest.managed]
    refine ⟨given, ?_, atRest, portRest.awake, Or.inr ?_⟩
    · rw [performed, Domain.onPort, called]
      exact congrArg some (setPort_withReceive domain index port (some given)).symm
    · have quiet : Quiet port.painfd.state port := unheeding.quiet ran
      simpa using quiet
  · rw [dispatch_outside inRange] at done
    cases done

end Twin

/-- Two domains differ in the receive side of one port only. -/
structure AlikeBut (index : Nat) (first second : Domain) : Prop where
  others : ∀ other, other ≠ index → second.ports other = first.ports other
  port : second.ports index = { first.ports index with
    parecd := (second.ports index).parecd
    bppg := { (first.ports index).bppg with
      rcvdAnnouncePtr := (second.ports index).bppg.rcvdAnnouncePtr } }
  ptasg : second.ptasg = first.ptasg
  bptasg : second.bptasg = first.bptasg
  pssd : second.pssd = first.pssd
  gmsd : second.gmsd = first.gmsd
  cmsrecd : second.cmsrecd = first.cmsrecd
  gmsync : second.gmsync = first.gmsync

private theorem alikeBut_withReceive (domain : Domain) (index : Nat) (side : Option ReceiveSide) :
    AlikeBut index domain (domain.withReceive (only index side)) := by
  rw [withReceive_only]
  refine ⟨fun other distinct => ?_, ?_, rfl, rfl, rfl, rfl, rfl, rfl⟩
  · exact Domain.setPort_ports_other domain index _ distinct
  · rw [Domain.setPort_ports_same]
    rfl

/-- Without external port configuration, an Announce received while the port is down is
never used: as long as no other Announce is received at the port, none is pending there,
and in all that follows the domain is the one that has not received it, but for what the
receive machine holds. -/
theorem down_announce_unused {cfg : Config} {settings : Settings} {domain final : Domain}
    (managed : settings.externalPortConfiguration = valueDisabled)
    (reached : (bmcsSystem cfg settings).Reachable System.anyStep domain)
    (down : (domain.ports index).up = false) (finished : (bmcsSystem cfg settings).run domain
      (.announce index announce cts64 :: events) = some final) :
    ((∀ event ∈ events, event.announcedAt index = false) →
      (final.ports index).bppg.rcvdMsg = false) ∧ ∃ unheard, (bmcsSystem cfg settings).run domain
        (.step (.port index (.announceInformation cts64)) :: events) = some unheard ∧
      AlikeBut index final unheard := by
  obtain ⟨next, done, later⟩ := Option.bind_eq_some_iff.mp finished
  obtain ⟨given, performed, twin⟩ := twin_of_down (atRest_reachable managed reached) down done
  obtain ⟨side, ran, silent⟩ := twin.run later
  refine ⟨fun unannounced => ?_, final.withReceive (only index side), ?_,
    alikeBut_withReceive final index side⟩
  · obtain ⟨rfl, twinFinal⟩ := silent unannounced
    exact (twinFinal.quiet.resolve_left nofun).rcvdMsg
  · have stepped : (bmcsSystem cfg settings).step domain
        (.step (.port index (.announceInformation cts64))) =
          some (next.withReceive (only index (some given))) := performed
    rw [System.run, stepped]
    exact ran

def revivedEvents (received : PTPMsgAnnounce) : List BmcsEvent :=
  [.announce 1 received 0, .step (.port 1 (.portOper true)), .step (.port 1 (.asCapable true)),
    .step (.port 1 (.announceInformation 0)), .step (.stateSelection 0)]

theorem down_announce_unused_sample :
    ∃ final, (bmcsSystem (.sample 0) .sample).run (Domain.init (.sample 0) .sample)
        (revivedEvents (PTPMsgAnnounce.sample 0)) = some final ∧
      ((∀ event ∈ (revivedEvents (PTPMsgAnnounce.sample 0)).tail, event.announcedAt 1 = false) →
        (final.ports 1).bppg.rcvdMsg = false) ∧
      ∃ unheard, (bmcsSystem (.sample 0) .sample).run (Domain.init (.sample 0) .sample)
          (.step (.port 1 (.announceInformation 0)) :: (revivedEvents (PTPMsgAnnounce.sample 0)).tail) =
            some unheard ∧ AlikeBut 1 final unheard := by
  have runs : ((bmcsSystem (.sample 0) .sample).run (Domain.init (.sample 0) .sample)
      (revivedEvents (PTPMsgAnnounce.sample 0))).isSome = true := by decide +kernel
  obtain ⟨final, finished⟩ := Option.isSome_iff_exists.mp runs
  exact ⟨final, finished, down_announce_unused rfl .start rfl finished⟩

def Settings.external : Settings := { Settings.sample with externalPortConfiguration := 1 }

def externalEvents : List BmcsEvent :=
  [.step (.port 1 (.portOper true)), .step (.port 1 (.asCapable true)),
    .announce 1 { PTPMsgAnnounce.sample 0 with
      header := { PTPMsgAnnounce.cleared.header with
        sourcePortIdentity := { clockIdentity := ClockIdentity.fill 1, portIndex := 1 } } } 0,
    .step (.port 1 (.asCapable false))]

def portOne (domain : Domain) : Bool × Bool :=
  ((domain.ports 1).up, (domain.ports 1).bppg.rcvdMsg)

def announceOctets (messageLength : UInt8) : List UInt8 :=
  List.replicate 12 0 ++ [0x88, 0xF7] ++ [0x1B, 0x02, 0x00, messageLength] ++ List.replicate 16 0 ++
    List.replicate 8 2 ++ List.replicate 19 0 ++ [1] ++ List.replicate 5 0 ++ List.replicate 8 2 ++
    List.replicate 3 0

def bareFrame : List UInt8 := announceOctets 64
def tracedFrame : List UInt8 :=
  announceOctets 76 ++ [0x00, 0x08, 0x00, 0x08] ++ List.replicate 8 1

def handedOver (earlier : List (List UInt8)) (frame : List UInt8) : Option PTPMsgAnnounce :=
  (Md.receive .sample frame (Md.receiverAfter .sample Memory.zero earlier)).2

def selectingEvents (received : PTPMsgAnnounce) : List BmcsEvent :=
  [.step (.port 1 (.portOper true)), .step (.port 1 (.asCapable true)),
    .step (.port 1 (.announceInformation 0)), .step (.stateSelection 0),
    .step (.port 1 (.announceInformation 0)), .announce 1 received 0, .step (.stateSelection 0)]

def selectedPriority (domain : Domain) : UInt8 :=
  domain.bptasg.gmPriority.rootSystemIdentity.priority1

/-- With external port configuration an Announce becomes pending at a port that is
down. Without it, the TLV of an Announce received while the port was down is used with
a later one that has none, and decides on the grandmaster. -/
theorem down_announce_used :
    (((bmcsSystem (.sample 0) .external).run (Domain.init (.sample 0) .external)
        externalEvents).map portOne = some (false, false) ∧
      ((bmcsSystem (.sample 0) .external).run (Domain.init (.sample 0) .external)
        (externalEvents ++ [.announce 1 (PTPMsgAnnounce.sample 0) 0])).map portOne = some (false, true)) ∧
    ((handedOver [] tracedFrame).bind fun first =>
      (handedOver [tracedFrame] bareFrame).bind fun second =>
        ((bmcsSystem (.sample 0) .sample).run (Domain.init (.sample 0) .sample)
          (.announce 1 first 0 :: selectingEvents second)).map selectedPriority) = some 246 ∧
    ((handedOver [] bareFrame).bind fun second =>
      ((bmcsSystem (.sample 0) .sample).run (Domain.init (.sample 0) .sample)
        (.step (.port 1 (.announceInformation 0)) :: selectingEvents second)).map
          selectedPriority) = some 1 := by
  decide +kernel

end EnetTsn.Bmcs
