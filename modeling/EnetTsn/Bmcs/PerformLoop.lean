import EnetTsn.Bmcs.DownAnnounce
import EnetTsn.Bmcs.InformationCall
import EnetTsn.Bmcs.SelectionCall
import EnetTsn.Bmcs.TransmitLoop

/-!
`sm_bmcs_perform`: the information machine of a port and the selection machine of its domain take
turns until no information is left to update, and the transmit machine runs after them.
-/

namespace EnetTsn.Bmcs

open EnetTsn.Gptp EnetTsn.Library StateSelection

def followGm (cfg : Config) (gm : Option ClockIdentity) (domain : Domain) : Option Domain :=
  match gm with
  | none => some domain
  | some clockIdentity =>
    (gmStableGmChange clockIdentity domain).bind (clockMasterSyncReceiveSmClockSourceReq cfg)

/-- A pass of the loop. The flag tells whether the selection machine got to
`state_selection_condition` in the latest pass. -/
def performPass (cfg : Config) (cts64 : UInt64) (index : Nat) (pass : Domain × Bool) :
    Option (Domain × Bool) :=
  (pass.1.onPort index (portAnnounceInformationSm pass.1.view cts64)).bind fun informed =>
    (portStateSelectionSm cfg cts64 informed).bind fun selected =>
      (followGm cfg selected.2 selected.1).map fun next =>
        (next, runsSelection cfg cts64 informed)

/-- The `do`-`while` loop. -/
def performLoop (cfg : Config) (cts64 : UInt64) (index passes : Nat) (domain : Domain) :
    Option (Domain × Bool) :=
  doWhile (performPass cfg cts64 index) (fun pass => (pass.1.ports index).bppg.updtInfo) passes
    (domain, false)

/-- What a call leaves: the domain, whether the last pass got to the condition of the selection,
and the Announce for `md_announce_send_sm`, whose call ends by `mdAnnounceSendSm_total`. -/
structure PerformOutcome where
  domain : Domain
  selected : Bool
  announce : Option PTPMsgAnnounce

/-- `sm_bmcs_perform`, for at most the given numbers of passes and of turns of the transmit
machine. -/
def smBmcsPerform (cfg : Config) (cts64 : UInt64) (index passes turns : Nat) (domain : Domain) :
    Option PerformOutcome :=
  (if domain.external then (performExternal cfg index domain).map fun next => (next, false)
    else performLoop cfg cts64 index passes domain).bind fun pass =>
      (portAnnounceTransmitSm pass.1.view cts64 turns (pass.1.ports index)).map fun sent =>
        ⟨pass.1.setPort index sent.1, pass.2, sent.2⟩

/-- What the information machine and the selection read of a port, but for the mode. -/
structure FlagsKept (before after : Port) : Prop where
  state : after.painfd.state = before.painfd.state
  lastState : after.painfd.lastState = before.painfd.lastState
  infoIs : after.bppg.infoIs = before.bppg.infoIs
  updtInfo : after.bppg.updtInfo = before.bppg.updtInfo
  selected : after.selected = before.selected
  reselect : after.reselect = before.reselect

theorem InformationReady.congr (ready : InformationReady before)
    (state : after.painfd.state = before.painfd.state)
    (lastState : after.painfd.lastState = before.painfd.lastState)
    (infoIs : after.bppg.infoIs = before.bppg.infoIs) : InformationReady after where
  stable := by rw [lastState, state, ready.stable]
  resting := by
    rw [state]
    exact ready.resting
  known := by
    rw [infoIs, state]
    exact ready.known

/-- What holds of a domain between two steps: every port that the selection has to look at says so,
and before the first selection there is nothing to update. -/
structure PerformReady (cfg : Config) (domain : Domain) : Prop extends Managed domain where
  ports : ∀ index, InformationReady (domain.ports index)
  selection : SelectionReady cfg domain
  listed : Settled domain → ∀ index, 0 < index → index < cfg.maxPorts →
    (domain.ports index).selected = true ∨ (domain.ports index).reselect = true
  silenced : ∀ index, 0 < index → index < cfg.maxPorts → (domain.ports index).selected = true →
    Silenced (domain.ports index) → (domain.ports index).bppg.updtInfo = false ∨
      domain.pssd.asymmetryMeasurementModeChange = true
  unserved : ¬ Settled domain → ∀ index, (domain.ports index).bppg.updtInfo = false

theorem viewRunning_of_managed (running : Managed domain) :
    ViewRunning domain.view where
  begun := running.begun
  enabled := running.enabled
  managed := by
    have internal := running.managed
    simp only [Domain.external, bne_eq_false_iff_eq] at internal
    exact internal

private theorem unserved_portAnnounceInformationSm (none : port.bppg.updtInfo = false)
    (finished : portAnnounceInformationSm view cts64 port = some next) :
    next.bppg.updtInfo = false := by
  refine portAnnounceInformationSm_preserves (fun _ port => port.bppg.updtInfo = false) ⟨?_, ?_⟩
    ?_ ?_ ?_ none finished
  · exact fun _ _ _ kept => kept
  · exact fun _ _ _ kept => kept
  · exact fun _ _ kept => kept
  · intro s current _ kept
    cases s with
    | update => rfl
    | _ => exact kept
  · exact fun _ _ _ kept => kept

theorem flags_portChange (change : PortChange domain index step port) :
    (FlagsKept (domain.ports index) port ∧
      (port.ppg.asymmetryMeasurementMode = (domain.ports index).ppg.asymmetryMeasurementMode ∨
        ∃ value, step = .asymmetryMeasurementMode value)) ∨
    ∃ cts64, portAnnounceInformationSm domain.view cts64 (domain.ports index) = some port := by
  cases change with
  | recvAnnounce ran =>
    rw [(kept_recvAnnounce ran).port]
    exact .inl ⟨⟨rfl, rfl, rfl, rfl, rfl, rfl⟩, .inl rfl⟩
  | announceReceive ran =>
    rw [(kept_portAnnounceReceiveSm ran).port]
    exact .inl ⟨⟨rfl, rfl, rfl, rfl, rfl, rfl⟩, .inl rfl⟩
  | information _ ran => exact .inr ⟨_, ran⟩
  | side kept =>
    rw [kept.rest]
    exact .inl ⟨⟨rfl, rfl, rfl, rfl, rfl, rfl⟩, .inl rfl⟩
  | syncReceiptTimeoutTime | portOper | asCapable =>
    exact .inl ⟨⟨rfl, rfl, rfl, rfl, rfl, rfl⟩, .inl rfl⟩
  | asymmetryMeasurementMode value =>
    exact .inl ⟨⟨rfl, rfl, rfl, rfl, rfl, rfl⟩, .inr ⟨value, rfl⟩⟩

theorem PortStep.pssd_cases {step : PortStep} (done : step.perform index domain = some next) :
    (next.pssd = domain.pssd ∧ ∀ value, step ≠ .asymmetryMeasurementMode value) ∨
      next.pssd.asymmetryMeasurementModeChange = true := by
  cases step with
  | recvAnnounce _ | announceReceive =>
    obtain ⟨data, _, rfl⟩ := onReceive_eq_some done
    exact .inl ⟨rfl, by simp⟩
  | announceInformation cts64 =>
    simp only [PortStep.perform] at done
    split at done
    · cases done
    · obtain ⟨port, _, rfl⟩ := onPort_eq_some done
      exact .inl ⟨rfl, by simp⟩
  | syncReceiptTimeoutTime _ | announceTransmit _ | announceInterval _ | gptpCapableInterval _ =>
    simp only [PortStep.perform] at done
    obtain ⟨port, _, rfl⟩ := onPort_eq_some done
    exact .inl ⟨rfl, by simp⟩
  | portOper _ | asCapable _ =>
    cases done
    exact .inl ⟨rfl, by simp⟩
  | asymmetryMeasurementMode value =>
    cases done
    exact .inr rfl

theorem SelectionReady.congr (ready : SelectionReady cfg before)
    (state : after.pssd.state = before.pssd.state)
    (lastState : after.pssd.lastState = before.pssd.lastState)
    (deferred : after.pssd.deferredGmsync = before.pssd.deferredGmsync) :
    SelectionReady cfg after := by
  cases ready with
  | settled dynamic settled =>
    exact .settled dynamic ⟨state.trans settled.state, lastState.trans settled.lastState⟩
  | first dynamic start passed =>
    exact .first dynamic (state.trans start) (deferred.trans passed)
  | static static start passed =>
    exact .static static (state ▸ start) (deferred.trans passed)

theorem settled_congr (state : after.pssd.state = before.pssd.state)
    (lastState : after.pssd.lastState = before.pssd.lastState) :
    Settled after ↔ Settled before := by
  constructor
  · exact fun settled => ⟨state ▸ settled.state, lastState ▸ settled.lastState⟩
  · exact fun settled => ⟨state.trans settled.state, lastState.trans settled.lastState⟩

namespace PerformReady

theorem init (cfg : Config) (settings : Settings)
    (managed : settings.externalPortConfiguration = valueDisabled) :
    PerformReady cfg (Domain.init cfg settings) where
  toManaged := (DomainAtRest.init cfg settings managed).toManaged
  ports _ := ⟨rfl, trivial, ⟨fun _ => .inl rfl, fun _ => rfl⟩⟩
  selection := by
    rcases lt_or_ge cfg.staticSlave 0 with dynamic | static
    · exact .first dynamic rfl rfl
    · exact .static static (.inl rfl) rfl
  listed settled := nomatch settled.state
  silenced _ _ _ _ _ := .inl rfl
  unserved _ _ := rfl

variable {cfg : Config} {domain : Domain} (ready : PerformReady cfg domain)
include ready

theorem clockKept (kept : ClockKept domain next) (managed : Managed next) :
    PerformReady cfg next := by
  have settled := settled_congr (congrArg PortStateSelectionData.state kept.pssd)
    (congrArg PortStateSelectionData.lastState kept.pssd)
  refine ⟨managed, ?_, ?_, ?_, ?_, ?_⟩
  · rw [kept.ports]
    exact ready.ports
  · exact ready.selection.congr (by rw [kept.pssd]) (by rw [kept.pssd]) (by rw [kept.pssd])
  · rw [kept.ports, settled]
    exact ready.listed
  · rw [kept.ports, kept.pssd]
    exact ready.silenced
  · rw [kept.ports, settled]
    exact ready.unserved

theorem selectionEffect (effect : SelectionEffect cfg domain next)
    (frame : SelectionFrame domain next) (after : SelectionReady cfg next)
    (managed : Managed next) : PerformReady cfg next := by
  have ports index : InformationReady (next.ports index) :=
    (ready.ports index).congr (by rw [(frame.ports index).painfd])
      (by rw [(frame.ports index).painfd]) (frame.ports index).infoIs
  cases effect with
  | selected _ settled _ flags assigned =>
    refine ⟨managed, ports, after, fun _ index _ inRange => .inl ?_, ?_, (absurd settled ·)⟩
    · exact flags index (inRange.trans cfg.fewPorts)
    · exact fun index positive inRange _ silent => .inl (assigned index positive inRange silent)
  | updated _ _ settled kept assigned =>
    refine ⟨managed, ports, after, fun _ index positive inRange => ?_, ?_, (absurd settled ·)⟩
    · rw [kept.selected, kept.reselect]
      exact ready.listed ((settled_congr kept.state kept.lastState).mp settled) index positive
        inRange
    · exact fun index positive inRange _ silent => .inl (assigned index positive inRange silent)
  | kept _ _ settled kept same =>
    refine ⟨managed, ports, after, fun _ => ?_, ?_, (absurd settled ·)⟩
    · rw [same]
      exact ready.listed ((settled_congr kept.state kept.lastState).mp settled)
    · rw [same, kept.asymmetryMeasurementModeChange]
      exact ready.silenced
  | static kept =>
    have outside : ¬ Settled next := by
      rintro ⟨state, _⟩
      cases kept.state.symm.trans state
    have static : 0 ≤ cfg.staticSlave := by
      cases after with
      | settled _ settled => exact absurd settled outside
      | first _ state => cases kept.state.symm.trans state
      | static static => exact static
    have before : ¬ Settled domain := by
      rintro ⟨state, _⟩
      cases ready.selection with
      | settled dynamic => omega
      | first dynamic => omega
      | static _ start => rcases start with start | start <;> cases start.symm.trans state
    have none index : (next.ports index).bppg.updtInfo = false := by
      rw [kept.bppg]
      exact ready.unserved before index
    exact ⟨managed, ports, after, (absurd · outside), fun index _ _ _ _ => .inl (none index),
      fun _ => none⟩

theorem information (rest : OnePort index domain next)
    (pssd : next.pssd = domain.pssd ∨ next.pssd.asymmetryMeasurementModeChange = true)
    (ran : portAnnounceInformationSm domain.view cts64 (domain.ports index) =
      some (next.ports index)) (managed : Managed next) : PerformReady cfg next := by
  have effect := portAnnounceInformationSm_effect (viewRunning_of_managed ready.toManaged)
    (ready.ports index) ran
  have settled : Settled next ↔ Settled domain := settled_congr (by rw [rest.pssd])
    (by rw [rest.pssd])
  refine ⟨managed, fun other => ?_, ?_, fun stays other positive inRange => ?_,
    fun other positive inRange selected silent => ?_, fun outside other => ?_⟩
  · by_cases same : other = index
    · rw [same]
      exact effect.ready
    · rw [rest.ports other same]
      exact ready.ports other
  · exact ready.selection.congr (by rw [rest.pssd]) (by rw [rest.pssd]) (by rw [rest.pssd])
  · have listed := ready.listed (settled.mp stays) other positive inRange
    by_cases same : other = index
    · subst same
      exact effect.listed listed
    · rw [rest.ports other same]
      exact listed
  · rcases pssd with same | flagged
    · cases pending : domain.pssd.asymmetryMeasurementModeChange with
      | true =>
        right
        rw [same]
        exact pending
      | false =>
        have before := ready.silenced other positive inRange
        rw [pending] at before
        left
        by_cases here : other = index
        · subst here
          exact effect.silenced (fun chosen quiet => (before chosen quiet).resolve_right nofun)
            selected silent
        · rw [rest.ports other here] at selected silent ⊢
          exact (before selected silent).resolve_right nofun
    · exact .inr flagged
  · have none := ready.unserved (fun inside => outside (settled.mpr inside)) other
    by_cases same : other = index
    · subst same
      exact unserved_portAnnounceInformationSm none ran
    · rw [rest.ports other same]
      exact none

theorem portStep {step : PortStep} (done : step.perform index domain = some next)
    (managed : Managed next) : PerformReady cfg next := by
  obtain ⟨rest, change⟩ := PortStep.perform_cases done
  have pssd := PortStep.pssd_cases done
  rcases flags_portChange change with ⟨kept, mode⟩ | ⟨cts64, ran⟩
  · have settled : Settled next ↔ Settled domain := settled_congr (by rw [rest.pssd])
      (by rw [rest.pssd])
    refine ⟨managed, fun other => ?_, ?_, fun stays other positive inRange => ?_,
      fun other positive inRange selected silent => ?_, fun outside other => ?_⟩
    · by_cases same : other = index
      · rw [same]
        exact (ready.ports index).congr kept.state kept.lastState kept.infoIs
      · rw [rest.ports other same]
        exact ready.ports other
    · exact ready.selection.congr (by rw [rest.pssd]) (by rw [rest.pssd]) (by rw [rest.pssd])
    · have listed := ready.listed (settled.mp stays) other positive inRange
      by_cases same : other = index
      · subst same
        rw [kept.selected, kept.reselect]
        exact listed
      · rw [rest.ports other same]
        exact listed
    · rcases pssd with ⟨same, unchanged⟩ | flagged
      · have before := ready.silenced other positive inRange
        rw [same]
        by_cases here : other = index
        · subst here
          have mode := mode.resolve_right fun ⟨value, changes⟩ => unchanged value changes
          rw [kept.selected] at selected
          rw [Silenced, kept.infoIs, mode] at silent
          rw [kept.updtInfo]
          exact before selected silent
        · rw [rest.ports other here] at selected silent ⊢
          exact before selected silent
      · exact .inr flagged
    · have none := ready.unserved (fun inside => outside (settled.mpr inside)) other
      by_cases same : other = index
      · subst same
        rw [kept.updtInfo]
        exact none
      · rw [rest.ports other same]
        exact none
  · exact ready.information rest (pssd.imp_left And.left) ran managed

theorem perform (done : perform cfg domain step = some next) : PerformReady cfg next := by
  have managed := ready.toManaged.perform done
  rcases perform_cases done with
    ⟨index, portStep, rfl, positive, inRange, _⟩ | ⟨_, cts64, result, ran⟩ | ⟨external, _⟩ | kept
  · have taken : portStep.perform index domain = some next := by
      rw [Bmcs.perform, if_pos ⟨positive, inRange⟩] at done
      exact done
    exact ready.portStep taken managed
  · have running : Running domain := ⟨ready.begun, ready.enabled⟩
    obtain ⟨next', result', ran', after, effect, _⟩ :=
      portStateSelectionSm_effect cts64 running ready.selection
    cases ran.symm.trans ran'
    exact ready.selectionEffect effect (selecting_portStateSelectionSm ran).frame after managed
  · rw [ready.managed] at external
    cases external
  · exact ready.clockKept kept managed

end PerformReady

private theorem performReady_reachable (managed : settings.externalPortConfiguration = valueDisabled)
    (reached : (domainSystem cfg settings).Reachable System.anyStep domain) :
    PerformReady cfg domain :=
  reached.invariant (PerformReady cfg) (.init cfg settings managed) fun _ _ _ ready _ done =>
    ready.perform done

def selectionDue (domain : Domain) : Bool :=
  selectionRequested domain || domain.pssd.state != .stateSelection

/-- What the passes of the loop use up: events that the port holds, a request, the initial slave
phase, and the information to update, in this order. -/
def passWeight (index : Nat) (domain : Domain) : Nat :=
  16 * portBudget (domain.ports index) + 4 * (selectionDue domain).toNat +
    2 * (slavePhase domain).toNat + (domain.ports index).bppg.updtInfo.toNat

def transmitTimer (port : Port) : PortAnnounceTransmitData × Int8 × Bool :=
  (port.patransd, port.bppg.currentLogAnnounceInterval, port.ppg.asCapable)

theorem selectionDue_congr (pssd : after.pssd = before.pssd)
    (reselect : ∀ index, (after.ports index).reselect = (before.ports index).reselect) :
    selectionDue after = selectionDue before := by
  simp only [selectionDue, selectionRequested, anyReselect, pssd, reselect]

private theorem anyReselect_of (inRange : index < absMaxNetdevs)
    (reselect : (domain.ports index).reselect = true) : selectionRequested domain = true := by
  have some' : anyReselect domain = true :=
    List.any_eq_true.mpr ⟨index, List.mem_range.mpr inRange, reselect⟩
  rw [selectionRequested, some']
  rfl

private theorem selectionRequested_of_mode (pending : domain.pssd.asymmetryMeasurementModeChange = true) :
    selectionRequested domain = true := by
  rw [selectionRequested, pending, Bool.or_true]

private theorem kept_followGm (done : followGm cfg gm domain = some next) : ClockKept domain next := by
  cases gm with
  | none =>
    cases done
    exact .refl domain
  | some clockIdentity =>
    obtain ⟨middle, changed, requested⟩ := Option.bind_eq_some_iff.mp done
    exact (kept_gmStableGmChange changed).trans (kept_clockSourceReq requested)

private theorem followGm_total (cfg : Config) (gm : Option ClockIdentity) (domain : Domain) :
    ∃ next, followGm cfg gm domain = some next := by
  cases gm with
  | none => exact ⟨domain, rfl⟩
  | some clockIdentity =>
    obtain ⟨middle, changed⟩ := gmStableGmChange_total clockIdentity domain
    obtain ⟨next, requested⟩ := clockMasterSyncReceiveSm_total cfg { middle with
      cmsrecd := { middle.cmsrecd with rcvdClockSourceReq := true, lastState := .reaction } }
    exact ⟨next, Option.bind_eq_some_iff.mpr ⟨middle, changed, requested⟩⟩

private theorem passWeight_clockKept (kept : ClockKept domain next) :
    passWeight index next = passWeight index domain := by
  have due : selectionDue next = selectionDue domain :=
    selectionDue_congr kept.pssd fun _ => by rw [kept.ports]
  simp only [passWeight, kept.ports, due, slavePhase, kept.pssd]

section Pass

variable {cfg : Config} {cts64 : UInt64} {index : Nat} {domain selected : Domain} {port : Port}

theorem due_of_waits (ready : PerformReady cfg domain) (settled : Settled domain)
    (positive : 0 < index) (inRange : index < cfg.maxPorts)
    (waits : (domain.ports index).selected = false ∨ Silenced (domain.ports index))
    (updt : (domain.ports index).bppg.updtInfo = true) : selectionRequested domain = true := by
  cases chosen : (domain.ports index).selected with
  | false =>
    have listed := ready.listed settled index positive inRange
    rw [chosen] at listed
    exact anyReselect_of (inRange.trans cfg.fewPorts) (listed.resolve_left nofun)
  | true =>
    rw [chosen] at waits
    rcases ready.silenced index positive inRange chosen (waits.resolve_left nofun) with
      none | pending
    · cases none.symm.trans updt
    · exact selectionRequested_of_mode pending

theorem passWeight_lt (running : PerformReady cfg domain) (positive : 0 < index)
    (inRange : index < cfg.maxPorts)
    (ran : portAnnounceInformationSm domain.view cts64 (domain.ports index) = some port)
    (informed : PerformReady cfg (domain.setPort index port))
    (effect : SelectionEffect cfg (domain.setPort index port) selected)
    (frame : SelectionFrame (domain.setPort index port) selected)
    (after : PerformReady cfg selected) (updt : (selected.ports index).bppg.updtInfo = true) :
    passWeight index selected < passWeight index domain := by
  have information := portAnnounceInformationSm_effect (viewRunning_of_managed running.toManaged)
    (running.ports index) ran
  have kept := frame.ports index
  rw [Domain.setPort_ports_same] at kept
  have budget : portBudget (selected.ports index) = portBudget port := by
    simp only [portBudget, kept.painfd, kept.up, kept.infoIs, kept.rcvdMsg]
  have within := information.within
  have flagBounds (flag : Bool) : flag.toNat ≤ 1 := Bool.toNat_le flag
  have bounds := And.intro (flagBounds (selectionDue selected)) (flagBounds (slavePhase selected))
  unfold passWeight
  rw [budget, updt, Bool.toNat_true]
  rcases information.quiet with quiet | spent
  · have due : selectionDue (domain.setPort index port) = selectionDue domain := by
      refine selectionDue_congr rfl fun other => ?_
      by_cases same : other = index
      · subst same
        rw [Domain.setPort_ports_same]
        exact quiet
      · rw [Domain.setPort_ports_other _ _ _ same]
    have phase : slavePhase (domain.setPort index port) = slavePhase domain := rfl
    cases effect with
    | selected request settled served =>
      have before : selectionDue domain = true := by
        rw [← due, selectionDue, Bool.or_eq_true, bne_iff_ne]
        exact request
      have now : selectionDue selected = false := by
        rw [selectionDue, served, settled.state]
        rfl
      rw [before, now]
      simp only [Bool.toNat_true, Bool.toNat_false]
      omega
    | updated before passed settled same =>
      have still : selectionDue selected = selectionDue domain := by
        rw [← due, selectionDue, selectionDue, selectionRequested_congr same, same.state]
      rw [phase] at before
      rw [still, before, passed]
      simp only [Bool.toNat_true, Bool.toNat_false]
      omega
    | kept idle _ settled same ports =>
      have stays : Settled (domain.setPort index port) :=
        (settled_congr same.state same.lastState).mp settled
      rw [ports, Domain.setPort_ports_same] at updt
      have waits := information.waits updt
      have request := due_of_waits informed stays positive inRange
        (by rwa [Domain.setPort_ports_same]) (by rwa [Domain.setPort_ports_same])
      cases idle.symm.trans request
    | static same =>
      have outside : ¬ Settled selected := by
        rintro ⟨state, _⟩
        cases same.state.symm.trans state
      cases (after.unserved outside index).symm.trans updt
  · omega

end Pass

structure PassReady (cfg : Config) (index : Nat) (port : Port) (pass : Domain × Bool) : Prop where
  ready : PerformReady cfg pass.1
  timer : transmitTimer (pass.1.ports index) = transmitTimer port
  served : pass.2 = true → anyReselect pass.1 = false

private theorem transmitTimer_information (ran : portAnnounceInformationSm view cts64 port = some next) :
    transmitTimer next = transmitTimer port := by
  rw [(kept_portAnnounceInformationSm ran).rest]
  rfl

private theorem transmitTimer_selection (kept : PortKept before after) :
    transmitTimer after = transmitTimer before := by
  rw [transmitTimer, kept.patransd, kept.bppg, kept.ppg]
  rfl

private theorem anyReselect_of_served (served : selectionRequested domain = false) :
    anyReselect domain = false := by
  simp only [selectionRequested, Bool.or_eq_false_iff] at served
  exact served.1.1

theorem performPass_ready {cfg : Config} (positive : 0 < index) (inRange : index < cfg.maxPorts)
    (cts64 : UInt64) {pass : Domain × Bool} (start : PassReady cfg index port pass) :
    ∃ next, performPass cfg cts64 index pass = some next ∧ PassReady cfg index port next ∧
      ((next.1.ports index).bppg.updtInfo = true →
        passWeight index next.1 < passWeight index pass.1) := by
  obtain ⟨domain, flag⟩ := pass
  have ready := start.ready
  obtain ⟨informed, ran⟩ := portAnnounceInformationSm_total domain.view cts64 (domain.ports index)
  have step : perform cfg domain (.port index (.announceInformation cts64)) =
      some (domain.setPort index informed) := by
    rw [perform, if_pos ⟨positive, inRange⟩, PortStep.perform, ready.managed, if_neg (by simp),
      Domain.onPort, ran]
    rfl
  have readyInformed := ready.perform step
  have running : Running (domain.setPort index informed) :=
    ⟨readyInformed.begun, readyInformed.enabled⟩
  obtain ⟨selected, gm, ranSelection, afterSelection, effect, served⟩ :=
    portStateSelectionSm_effect cts64 running readyInformed.selection
  have frame := (selecting_portStateSelectionSm ranSelection).frame
  have stepSelection : perform cfg (domain.setPort index informed) (.stateSelection cts64) =
      some selected := by
    rw [perform, readyInformed.managed, if_neg (by simp), ranSelection]
    rfl
  have readySelected := readyInformed.perform stepSelection
  obtain ⟨next, followed⟩ := followGm_total cfg gm selected
  have kept := kept_followGm followed
  have managed : Managed next := by
    refine ⟨?_, ?_, ?_⟩
    · rw [Domain.external, kept.bptasg]
      exact readySelected.managed
    · rw [kept.ptasg]
      exact readySelected.begun
    · rw [kept.ptasg]
      exact readySelected.enabled
  refine ⟨(next, runsSelection cfg cts64 (domain.setPort index informed)), ?_, ⟨?_, ?_, ?_⟩, ?_⟩
  · simp only [performPass, Domain.onPort, ran, Option.map_some, Option.bind_some, ranSelection,
      followed]
  · exact readySelected.clockKept kept managed
  · have same := transmitTimer_selection (frame.ports index)
    rw [Domain.setPort_ports_same] at same
    rw [kept.ports]
    exact same.trans ((transmitTimer_information ran).trans start.timer)
  · intro runs
    rw [anyReselect, kept.ports]
    exact anyReselect_of_served (served runs)
  · rw [kept.ports, passWeight_clockKept kept]
    exact passWeight_lt ready positive inRange ran readyInformed effect frame readySelected

private theorem performLoop_ends {cfg : Config} {domain : Domain} (ready : PerformReady cfg domain)
    (positive : 0 < index) (inRange : index < cfg.maxPorts) (cts64 : UInt64) :
    ∃ passes pass, performLoop cfg cts64 index passes domain = some pass ∧
      PassReady cfg index (domain.ports index) pass ∧
      (pass.1.ports index).bppg.updtInfo = false := by
  have start : PassReady cfg index (domain.ports index) (domain, false) := ⟨ready, rfl, nofun⟩
  obtain ⟨pass, ended⟩ := doWhile_of_measure (PassReady cfg index (domain.ports index))
    (fun pass => passWeight index pass.1)
    (fun _ held => performPass_ready positive inRange cts64 held) start (Nat.lt_succ_self _)
  exact ⟨_, pass, ended⟩

def transmitStart (view : InstanceView) (port : Port) : Port :=
  AnnounceTransmit.moveTo (AnnounceTransmit.allstateCondition view port) port

theorem circles_congr (timer : transmitTimer port' = transmitTimer port)
    (begun : view'.ptasg.BEGIN = view.ptasg.BEGIN)
    (enabled : view'.ptasg.instanceEnable = view.ptasg.instanceEnable)
    (circles : AnnounceTransmit.Circles cts64 (transmitStart view port)) :
    AnnounceTransmit.Circles cts64 (transmitStart view' port') := by
  simp only [transmitTimer, Prod.mk.injEq] at timer
  obtain ⟨patransd, log, capable⟩ := timer
  have start : AnnounceTransmit.allstateCondition view' port' =
      AnnounceTransmit.allstateCondition view port := by
    simp only [AnnounceTransmit.allstateCondition, begun, enabled, capable, log, patransd]
  have data : (transmitStart view' port').patransd = (transmitStart view port).patransd := by
    simp only [transmitStart, AnnounceTransmit.moveTo, patransd, start]
  refine ⟨?_, ?_, ?_⟩
  · exact log.trans_ne circles.open_
  · rw [data]
    exact circles.due
  · rw [data]
    exact circles.place

/-- What a call should do: end, with nothing left to update at its port, and with no port left that
asks for a selection, if the last pass got to the condition of the selection. -/
def PerformEnds (cfg : Config) (cts64 : UInt64) (index : Nat) (domain : Domain) : Prop :=
  ∃ passes turns outcome, smBmcsPerform cfg cts64 index passes turns domain = some outcome ∧
    (outcome.domain.ports index).bppg.updtInfo = false ∧
    (outcome.selected = true → anyReselect outcome.domain = false)

section Call

variable {cfg : Config} {domain : Domain}

theorem smBmcsPerform_managed (managed : domain.external = false) :
    smBmcsPerform cfg cts64 index passes turns domain =
      (performLoop cfg cts64 index passes domain).bind fun pass =>
        (portAnnounceTransmitSm pass.1.view cts64 turns (pass.1.ports index)).map fun sent =>
          ⟨pass.1.setPort index sent.1, pass.2, sent.2⟩ := by
  rw [smBmcsPerform, managed, if_neg nofun]

private theorem performLoop_unique {pass pass' : Domain × Bool}
    (first : performLoop cfg cts64 index passes domain = some pass)
    (second : performLoop cfg cts64 index passes' domain = some pass') : pass' = pass := by
  have more := doWhile_mono first (Nat.le_max_left passes passes')
  have more' := doWhile_mono second (Nat.le_max_right passes passes')
  exact Option.some.inj (more'.symm.trans more)

theorem performEnds_of_transmitEnds {pass : Domain × Bool} (managed : domain.external = false)
    (loop : performLoop cfg cts64 index passes domain = some pass)
    (ready : PassReady cfg index port pass) (none : (pass.1.ports index).bppg.updtInfo = false)
    (ends : TransmitEnds pass.1.view cts64 (pass.1.ports index)) :
    PerformEnds cfg cts64 index domain := by
  obtain ⟨turns, ⟨sent, announce⟩, finished⟩ := ends
  have kept := kept_portAnnounceTransmitSm finished
  refine ⟨passes, turns, ⟨pass.1.setPort index sent, pass.2, announce⟩, ?_, ?_, fun ran => ?_⟩
  · rw [smBmcsPerform_managed managed, loop, Option.bind_some, finished]
    rfl
  · rw [Domain.setPort_ports_same, kept.rest]
    exact none
  · have served := ready.served ran
    simp only [anyReselect, List.any_eq_false, List.mem_range] at served ⊢
    intro other inRange
    by_cases same : other = index
    · subst same
      rw [Domain.setPort_ports_same, kept.rest]
      exact served other inRange
    · rw [Domain.setPort_ports_other _ _ _ same]
      exact served other inRange

end Call

def hastenedSettings : Settings := { Settings.sample with port := fun _ => PortSettings.managed }

/-- A port that is up sends an Announce, is asked for an eighth of the interval, and sends the next
one when it is due. -/
def hastenedSteps : List Step :=
  [.port 1 (.portOper true), .port 1 (.asCapable true), .port 1 (.gptpCapableInterval none),
    .port 1 (.announceInterval none), .port 1 (.announceInformation 0), .stateSelection 0,
    .port 1 (.announceInformation 0), .port 1 (.announceTransmit 0),
    .port 1 (.announceInterval (some (-3))), .port 1 (.announceTransmit 1000000000)]

/-- The interval of the slowdown is one that has never been set. -/
theorem hastened_reached : ∃ domain,
    (domainSystem (Config.sample 0) hastenedSettings).Reachable System.anyStep domain ∧
      ((transmitStart domain.view (domain.ports 1)).patransd.state,
        (domain.ports 1).patransd.lastState, (domain.ports 1).patransd.announceSendTime,
        (domain.ports 1).patransd.interval2, (domain.ports 1).bppg.currentLogAnnounceInterval) =
      (.idle, .idle, 2000000000, 0, -3) := by
  let system := domainSystem (Config.sample 0) hastenedSettings
  have ran : (system.run system.start hastenedSteps).map (fun domain =>
      ((transmitStart domain.view (domain.ports 1)).patransd.state,
        (domain.ports 1).patransd.lastState, (domain.ports 1).patransd.announceSendTime,
        (domain.ports 1).patransd.interval2, (domain.ports 1).bppg.currentLogAnnounceInterval)) =
      some (.idle, .idle, 2000000000, 0, -3) := by
    decide +kernel
  obtain ⟨domain, finished, found⟩ := Option.map_eq_some_iff.mp ran
  exact ⟨domain, System.reachable_of_run finished, found⟩

end EnetTsn.Bmcs
