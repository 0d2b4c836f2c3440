import EnetTsn.Bmcs.SettingLoop
import EnetTsn.Bmcs.Steps

/-!
What `updtPortState` leaves behind with an external configuration of the ports: whether port 0
is the slave port exactly when no other port is, and whether the grandmaster priority is the one
of the slave port. It looks for a slave port before it gives its own port the new state.
-/

namespace EnetTsn.Bmcs

open EnetTsn.Gptp EnetTsn.Library

namespace StateSettingExt

variable {cfg : Config} {index : Nat} {domain : Domain}

/-- The port is one of the ports that `updtPortState` looks at, and the slave port. -/
def IsSlave (cfg : Config) (domain : Domain) (port : Nat) : Prop :=
  0 < port ∧ port < cfg.maxPorts ∧ (domain.ports port).selectedState = .slavePort

def WantsSlave (port : Port) : Prop :=
  port.pssextd.disabledExt = false ∧ port.ppg.asymmetryMeasurementMode = false ∧
    port.pssextd.portStateInd = .slavePort

structure Agrees (cfg : Config) (domain : Domain) : Prop where
  portZero : (domain.ports 0).selectedState = .slavePort ↔ ¬ ∃ port, IsSlave cfg domain port
  slave : ∀ port, IsSlave cfg domain port →
    domain.bptasg.gmPriority = (domain.ports port).pssextd.messagePriority
  system : (¬ ∃ port, IsSlave cfg domain port) →
    domain.bptasg.gmPriority = domain.bptasg.systemPriority

/-- A call of `updtPortState`: its port, and the domain that it finds. -/
structure SettingCall where
  index : Nat
  domain : Domain

def SettingCall.result (cfg : Config) (call : SettingCall) : Domain :=
  updtPortState cfg call.index call.domain

/-- The call finds its port at the place it is going to have: a slave port when there was none has
the priority of this system, a second one the priority of the first, and a port that is not to
be the slave finds states and priority that agree without it. -/
structure SettingCall.Settable (cfg : Config) (call : SettingCall) : Prop where
  first : (¬ ∃ port, IsSlave cfg call.domain port) → WantsSlave (call.domain.ports call.index) →
    call.domain.bptasg.systemPriority =
      (call.domain.ports call.index).pssextd.messagePriority
  second : (∃ port, IsSlave cfg call.domain port) → WantsSlave (call.domain.ports call.index) →
    ∀ port, port ≠ call.index → IsSlave cfg call.domain port →
      (call.domain.ports port).pssextd.messagePriority =
        (call.domain.ports call.index).pssextd.messagePriority
  portZero : (∃ port, IsSlave cfg call.domain port) → ¬ WantsSlave (call.domain.ports call.index) →
    ((call.domain.ports 0).selectedState = .slavePort ↔
      ¬ ∃ port, port ≠ call.index ∧ IsSlave cfg call.domain port)
  left : (∃ port, IsSlave cfg call.domain port) → ¬ WantsSlave (call.domain.ports call.index) →
    ∀ port, port ≠ call.index → IsSlave cfg call.domain port →
      call.domain.bptasg.gmPriority = (call.domain.ports port).pssextd.messagePriority
  givenUp : (∃ port, IsSlave cfg call.domain port) → ¬ WantsSlave (call.domain.ports call.index) →
    (¬ ∃ port, port ≠ call.index ∧ IsSlave cfg call.domain port) →
      call.domain.bptasg.gmPriority = call.domain.bptasg.systemPriority

theorem portState_eq_slavePort (port : Port) : portState port = .slavePort ↔ WantsSlave port := by
  unfold portState WantsSlave
  cases port.pssextd.disabledExt <;> cases port.ppg.asymmetryMeasurementMode <;> simp

theorem slaveIndex_isNone : (slaveIndex cfg domain).isNone = true ↔
    ¬ ∃ port, IsSlave cfg domain port := by
  rw [Option.isNone_iff_eq_none, slaveIndex, List.find?_eq_none]
  constructor
  · rintro none ⟨port, positive, bound, slave⟩
    exact none port (List.mem_range'_1.mpr (by omega)) (beq_iff_eq.mpr slave)
  · intro none port member slave
    obtain ⟨positive, bound⟩ := List.mem_range'_1.mp member
    exact none ⟨port, positive, by omega, beq_iff_eq.mp slave⟩

section Result

variable (cfg index domain)

theorem setSelectedState_selectedState (other port : Nat) (state : PTPPortState) :
    ((setSelectedState other state domain).ports port).selectedState =
      if port = other then state else (domain.ports port).selectedState := by
  by_cases same : port = other
  · rw [same, if_pos rfl, setSelectedState, Domain.setPort_ports_same]
  · rw [if_neg same, setSelectedState, Domain.setPort_ports_other _ _ _ same]

variable (port : Nat)

private theorem computeMasterPriority_selectedState :
    ((computeMasterPriority index domain).ports port).selectedState =
      (domain.ports port).selectedState := by
  by_cases same : port = index
  · rw [same, computeMasterPriority, Domain.setPort_ports_same]
  · rw [computeMasterPriority, Domain.setPort_ports_other _ _ _ same]

theorem updtPortState_selectedState : ((updtPortState cfg index domain).ports port).selectedState =
      ((assignStates index (slaveIndex cfg domain) domain).ports port).selectedState := by
  have assigned : ∀ informed : Domain, informed.ports = domain.ports →
      ((assignStates index (slaveIndex cfg domain) informed).ports port).selectedState =
        ((assignStates index (slaveIndex cfg domain) domain).ports port).selectedState := by
    intro informed same
    unfold assignStates
    dsimp only
    rw [same]
    split
    · simp only [setSelectedState_selectedState, same]
    · split <;> simp only [setSelectedState_selectedState, same]
  have ports : ((updtPortState cfg index domain).ports port).selectedState =
      ((assignStates index (slaveIndex cfg domain)
        (takeInformation index (slaveIndex cfg domain) domain)).ports port).selectedState := by
    unfold updtPortState
    dsimp only
    split <;> exact computeMasterPriority_selectedState index _ port
  rw [ports, assigned _ (takeInformation_ports index _ domain)]

theorem isSlave_updtPortState : IsSlave cfg (updtPortState cfg index domain) port ↔
      if port = index then 0 < port ∧ port < cfg.maxPorts ∧ WantsSlave (domain.ports port)
      else IsSlave cfg domain port := by
  unfold IsSlave
  rw [updtPortState_selectedState]
  rcases Nat.eq_zero_or_pos port with rfl | positive
  · simp
  · have other : port ≠ 0 := by omega
    unfold assignStates
    dsimp only
    by_cases same : port = index
    · subst same
      rw [if_pos rfl, ← portState_eq_slavePort]
      split
      · simp only [setSelectedState_selectedState, if_neg other, if_true]
      · split <;> simp only [setSelectedState_selectedState, if_neg other, if_true]
    · split
      · simp only [setSelectedState_selectedState, if_neg other, if_neg same]
      · split <;> simp only [setSelectedState_selectedState, if_neg other, if_neg same]

theorem portZero_updtPortState (physical : 0 < index) :
    ((updtPortState cfg index domain).ports 0).selectedState =
      if portState (domain.ports index) = .slavePort then .passivePort
      else if (slaveIndex cfg domain).isNone then .slavePort
      else (domain.ports 0).selectedState := by
  have other : (0 : Nat) ≠ index := by omega
  rw [updtPortState_selectedState]
  unfold assignStates
  dsimp only
  split
  · rw [setSelectedState_selectedState, if_pos rfl]
  · split
    · rw [setSelectedState_selectedState, if_pos rfl]
    · rw [setSelectedState_selectedState, if_neg other]

private theorem assignStates_bptasg (slave : Option Nat) :
    (assignStates index slave domain).bptasg = domain.bptasg := by
  unfold assignStates
  dsimp only
  split
  · rfl
  · split <;> rfl

private theorem assignStates_selectedState (slave : Option Nat) (physical : 0 < index) :
    ((assignStates index slave domain).ports index).selectedState =
      portState (domain.ports index) := by
  have other : index ≠ 0 := by omega
  unfold assignStates
  dsimp only
  split
  · simp only [setSelectedState_selectedState, if_neg other, if_true]
  · split <;> simp only [setSelectedState_selectedState, if_neg other, if_true]

theorem gmPriority_updtPortState (physical : 0 < index) :
    (updtPortState cfg index domain).bptasg.gmPriority =
      if (slaveIndex cfg domain).isNone then domain.bptasg.systemPriority
      else if portState (domain.ports index) = .slavePort then
        (domain.ports index).pssextd.messagePriority
      else domain.bptasg.gmPriority := by
  have computed : (updtPortState cfg index domain).bptasg.gmPriority =
      (computeGmPriority index (slaveIndex cfg domain) (assignStates index (slaveIndex cfg domain)
        (takeInformation index (slaveIndex cfg domain) domain))).bptasg.gmPriority := by
    unfold updtPortState
    dsimp only
    split <;> rfl
  rw [computed, computeGmPriority]
  rw [assignStates_selectedState _ _ _ physical, assignStates_bptasg, assignStates_pssextd,
    takeInformation_ports]
  cases slaveIndex cfg domain <;> rfl

private theorem systemPriority_updtPortState :
    (updtPortState cfg index domain).bptasg.systemPriority = domain.bptasg.systemPriority := by
  rw [(frame_updtPortState cfg index domain).bptasg]

end Result

namespace SettingCall

variable {call : SettingCall}

def Another (cfg : Config) (call : SettingCall) : Prop :=
  ∃ port, port ≠ call.index ∧ IsSlave cfg call.domain port

theorem forall_slave (cfg : Config) (physical : 0 < call.index)
    (bound : call.index < cfg.maxPorts) (holds : Nat → Prop) :
    (∀ port, IsSlave cfg (call.result cfg) port → holds port) ↔
      (WantsSlave (call.domain.ports call.index) → holds call.index) ∧
        ∀ port, port ≠ call.index → IsSlave cfg call.domain port → holds port := by
  have slaves := isSlave_updtPortState cfg call.index call.domain
  constructor
  · intro all
    constructor
    · intro wanted
      refine all _ ((slaves _).mpr ?_)
      rw [if_pos rfl]
      exact ⟨physical, bound, wanted⟩
    · intro port other slave
      refine all _ ((slaves _).mpr ?_)
      rw [if_neg other]
      exact slave
  · rintro ⟨own, others⟩ port slave
    have kept := (slaves port).mp slave
    by_cases same : port = call.index
    · subst same
      rw [if_pos rfl] at kept
      exact own kept.2.2
    · rw [if_neg same] at kept
      exact others port same kept

variable (physical : 0 < call.index)
include physical

variable (bound : call.index < cfg.maxPorts)
include bound

theorem exists_slave : (¬ ∃ port, IsSlave cfg (call.result cfg) port) ↔
      ¬ WantsSlave (call.domain.ports call.index) ∧ ¬ call.Another cfg := by
  have none := forall_slave cfg physical bound fun _ => False
  simp only [not_exists, Another, not_and]
  exact none

theorem agrees_unfold : Agrees cfg (call.result cfg) ↔
      (((call.result cfg).ports 0).selectedState = .slavePort ↔
        ¬ WantsSlave (call.domain.ports call.index) ∧ ¬ call.Another cfg) ∧
      (WantsSlave (call.domain.ports call.index) → (call.result cfg).bptasg.gmPriority =
        (call.domain.ports call.index).pssextd.messagePriority) ∧
      (∀ port, port ≠ call.index → IsSlave cfg call.domain port →
        (call.result cfg).bptasg.gmPriority = (call.domain.ports port).pssextd.messagePriority) ∧
      (¬ WantsSlave (call.domain.ports call.index) ∧ ¬ call.Another cfg →
        (call.result cfg).bptasg.gmPriority = call.domain.bptasg.systemPriority) := by
  have slave := forall_slave cfg physical bound fun port =>
    (call.result cfg).bptasg.gmPriority = (call.domain.ports port).pssextd.messagePriority
  have messages : ∀ port, ((call.result cfg).ports port).pssextd =
      (call.domain.ports port).pssextd := updtPortState_pssextd cfg call.index call.domain
  have system : (call.result cfg).bptasg.systemPriority = call.domain.bptasg.systemPriority :=
    systemPriority_updtPortState cfg call.index call.domain
  have parts : Agrees cfg (call.result cfg) ↔ _ ∧ _ ∧ _ :=
    ⟨fun agrees => ⟨agrees.portZero, agrees.slave, agrees.system⟩,
      fun parts => ⟨parts.1, parts.2.1, parts.2.2⟩⟩
  simp only [messages] at parts
  rw [parts, exists_slave physical bound, slave, and_assoc, system]

theorem agrees_iff_of_slave (available : ∃ port, IsSlave cfg call.domain port) :
    Agrees cfg (call.result cfg) ↔ call.Settable cfg := by
  have found : ¬ (slaveIndex cfg call.domain).isNone = true :=
    fun none => slaveIndex_isNone.mp none available
  rw [agrees_unfold physical bound]
  unfold result
  rw [portZero_updtPortState _ _ _ physical, gmPriority_updtPortState _ _ _ physical,
    if_neg found, if_neg found]
  by_cases wanted : WantsSlave (call.domain.ports call.index)
  · have slave := (portState_eq_slavePort _).mpr wanted
    rw [if_pos slave, if_pos slave]
    constructor
    · rintro ⟨-, -, others, -⟩
      exact ⟨fun none => absurd available none,
        fun _ _ port other slave => (others port other slave).symm,
        fun _ unwanted => absurd wanted unwanted, fun _ unwanted => absurd wanted unwanted,
        fun _ unwanted => absurd wanted unwanted⟩
    · intro settable
      exact ⟨⟨nofun, fun neither => absurd wanted neither.1⟩, fun _ => rfl,
        fun port other slave => (settable.second available wanted port other slave).symm,
        fun neither => absurd wanted neither.1⟩
  · have otherState := fun slave => wanted ((portState_eq_slavePort _).mp slave)
    rw [if_neg otherState, if_neg otherState]
    constructor
    · rintro ⟨portZero, -, others, none⟩
      exact ⟨fun none => absurd available none, fun _ wants => absurd wants wanted,
        fun _ _ => portZero.trans (and_iff_right wanted), fun _ _ => others,
        fun _ _ alone => none ⟨wanted, alone⟩⟩
    · intro settable
      exact ⟨(settable.portZero available wanted).trans (and_iff_right wanted).symm,
        fun wants => absurd wants wanted, settable.left available wanted,
        fun neither => settable.givenUp available wanted neither.2⟩

theorem agrees_iff_of_none (available : ¬ ∃ port, IsSlave cfg call.domain port) :
    Agrees cfg (call.result cfg) ↔ call.Settable cfg := by
  have found : (slaveIndex cfg call.domain).isNone = true := slaveIndex_isNone.mpr available
  have noOther : ¬ call.Another cfg := fun ⟨port, _, slave⟩ => available ⟨port, slave⟩
  rw [agrees_unfold physical bound]
  unfold result
  rw [portZero_updtPortState _ _ _ physical, gmPriority_updtPortState _ _ _ physical,
    if_pos found, if_pos found]
  by_cases wanted : WantsSlave (call.domain.ports call.index)
  · rw [if_pos ((portState_eq_slavePort _).mpr wanted)]
    constructor
    · rintro ⟨-, own, -, -⟩
      exact ⟨fun _ => own, fun some => absurd some available, fun some => absurd some available,
        fun some => absurd some available, fun some => absurd some available⟩
    · intro settable
      exact ⟨⟨nofun, fun neither => absurd wanted neither.1⟩, settable.first available,
        fun port _ slave => absurd ⟨port, slave⟩ available, fun _ => rfl⟩
  · rw [if_neg fun slave => wanted ((portState_eq_slavePort _).mp slave)]
    constructor
    · intro _
      exact ⟨fun _ wants => absurd wants wanted, fun some => absurd some available,
        fun some => absurd some available, fun some => absurd some available,
        fun some => absurd some available⟩
    · intro _
      exact ⟨iff_of_true rfl ⟨wanted, noOther⟩, fun wants => absurd wants wanted,
        fun port _ slave => absurd ⟨port, slave⟩ available, fun _ => rfl⟩

theorem agrees_iff : Agrees cfg (call.result cfg) ↔ call.Settable cfg := by
  by_cases available : ∃ port, IsSlave cfg call.domain port
  · exact agrees_iff_of_slave physical bound available
  · exact agrees_iff_of_none physical bound available

end SettingCall

/-- The calls of `updtPortState` within the first passes of the machine. -/
def settingCalls (cfg : Config) (index passes : Nat) (domain : Domain) : List SettingCall :=
  (machine cfg index).effects (fun stateChange domain =>
    if stateChange && (domain.ports index).pssextd.state == .stateSetting then [⟨index, domain⟩]
    else []) passes (moveTo index (allstateCondition index domain) domain)

end StateSettingExt

open StateSettingExt

/-- What `sm_bmcs_perform` does before the setting machine: the information machine runs, and its
message priority is handed over. -/
def announced (index : Nat) (domain : Domain) : Option Domain :=
  (portAnnounceInformationExtSm domain.ptasg
    { port := domain.ports index, bptasg := domain.bptasg }).map fun (data, result) =>
  let domain : Domain := { domain.setPort index data.port with bptasg := data.bptasg }
  match result with
  | some priority =>
    StateSettingExt.modify index (fun data => { data with messagePriority := priority }) domain
  | none => domain

inductive SettingEvent where
  | step (step : Step)
  /-- `sm_bmcs_perform`, where the setting machine makes at most that many passes. -/
  | external (index passes : Nat)
  | portStateInd (index : Nat) (state : PTPPortState)
  | disabledExt (index : Nat) (value : Bool)

/-- The calls of `updtPortState` that an event makes. -/
def SettingEvent.calls (cfg : Config) (domain : Domain) : SettingEvent → List SettingCall
  | .external index passes =>
    match announced index domain with
    | some ready => settingCalls cfg index passes ready
    | none => []
  | .step _ | .portStateInd .. | .disabledExt .. => []

/-- What an event does. A call of the setting machine leaves no domain while it has not come to
its end. -/
def SettingEvent.perform (cfg : Config) (domain : Domain) : SettingEvent → Option (Option Domain)
  | .step (.external _) => none
  | .step other => (Bmcs.perform cfg domain other).map some
  | .external index passes =>
    if 0 < index ∧ index < cfg.maxPorts ∧ domain.external then
      (announced index domain).map fun ready => ((machine cfg index).run passes
        (moveTo index (allstateCondition index ready) ready)).map (·.1)
    else none
  | .portStateInd index state => some <| some <|
    modify index (fun data => { data with portStateInd := state, rcvdPortStateInd := true }) domain
  | .disabledExt index value => some <| some <|
    modify index (fun data => { data with disabledExt := value }) domain

/-- A run so far: the domain, unless a call has not come to its end, and all calls of
`updtPortState`. -/
structure SettingRun where
  domain : Option Domain
  calls : List SettingCall

def settingSystem (cfg : Config) (settings : Settings) : System SettingRun SettingEvent where
  start := { domain := some (Domain.init cfg settings), calls := [] }
  step run event := run.domain.bind fun domain => (event.perform cfg domain).map fun next =>
    { domain := next, calls := run.calls ++ event.calls cfg domain }

/-- Every call of `updtPortState` that the event makes finds its port in place. -/
def SettingPermitted (cfg : Config) (run : SettingRun) (event : SettingEvent) : Prop :=
  ∀ domain, run.domain = some domain → ∀ call ∈ event.calls cfg domain, call.Settable cfg

private theorem settingCalls_index (member : call ∈ settingCalls cfg index passes domain) :
    call.index = index := by
  obtain ⟨pass, _, made⟩ := List.mem_flatMap.mp member
  dsimp only at made
  split at made
  · rw [List.mem_singleton.mp made]
  · exact absurd made List.not_mem_nil

theorem SettingEvent.calls_physical {event : SettingEvent}
    (taken : event.perform cfg domain = some next) (member : call ∈ event.calls cfg domain) :
    0 < call.index ∧ call.index < cfg.maxPorts := by
  cases event with
  | external index passes =>
    simp only [SettingEvent.perform] at taken
    split at taken
    · rename_i physical
      simp only [SettingEvent.calls] at member
      split at member
      · rw [settingCalls_index member]
        exact ⟨physical.1, physical.2.1⟩
      · exact absurd member List.not_mem_nil
    · cases taken
  | step | portStateInd | disabledExt => exact absurd member List.not_mem_nil

/-- **All calls of a run leave states and priority that agree exactly when every one of them finds
its port in place.** -/
theorem setting_calls_agree_iff {cfg : Config} {settings : Settings} {run : SettingRun}
    (reachable : (settingSystem cfg settings).Reachable System.anyStep run) :
    (∀ call ∈ run.calls, Agrees cfg (call.result cfg)) ↔
      (settingSystem cfg settings).Reachable (SettingPermitted cfg) run := by
  refine reachable.iff_allowed (fun run => ∀ call ∈ run.calls, Agrees cfg (call.result cfg))
    (fun _ none => absurd none List.not_mem_nil) ?_
  intro earlier event next _ taken
  obtain ⟨domain, present, moved⟩ := Option.bind_eq_some_iff.mp taken
  obtain ⟨after, performed, rfl⟩ := Option.map_eq_some_iff.mp moved
  rw [List.forall_mem_append]
  refine and_congr_right fun _ => ?_
  constructor
  · intro agrees domain' present' call member
    cases present.symm.trans present'
    have physical := SettingEvent.calls_physical performed member
    exact (SettingCall.agrees_iff physical.1 physical.2).mp (agrees call member)
  · intro permitted call member
    have physical := SettingEvent.calls_physical performed member
    exact (SettingCall.agrees_iff physical.1 physical.2).mpr (permitted domain present call member)

private theorem SettingCall.settable_of_none {call : SettingCall}
    (none : (slaveIndex cfg call.domain).isNone = true)
    (other : portState (call.domain.ports call.index) ≠ .slavePort) : call.Settable cfg := by
  have noSlave := slaveIndex_isNone.mp none
  exact ⟨fun _ wanted => absurd ((portState_eq_slavePort _).mpr wanted) other,
    fun some => absurd some noSlave, fun some => absurd some noSlave,
    fun some => absurd some noSlave, fun some => absurd some noSlave⟩

def externalSettings : Settings := { Settings.sample with externalPortConfiguration := 1 }

/-- Two ports are made master and passive port. -/
theorem setting_calls_agree_two : ∃ run, run.calls.length = 2 ∧
    (settingSystem (Config.sample 1) externalSettings).Reachable System.anyStep run ∧
    ∀ call ∈ run.calls, Agrees (Config.sample 1) (call.result (Config.sample 1)) := by
  have evaluated : (((settingSystem (Config.sample 1) externalSettings).restrict fun run event =>
      run.domain.all fun domain => (event.calls (Config.sample 1) domain).all fun call =>
        (slaveIndex (Config.sample 1) call.domain).isNone &&
          portState (call.domain.ports call.index) != .slavePort).run
      (settingSystem (Config.sample 1) externalSettings).start
      [.portStateInd 1 .masterPort, .external 1 8, .portStateInd 2 .passivePort,
        .external 2 8]).map (fun run => run.calls.length) = some 2 := by
    decide +kernel
  obtain ⟨run, finished, calls⟩ := Option.map_eq_some_iff.mp evaluated
  have permitted : (settingSystem (Config.sample 1) externalSettings).Reachable
      (SettingPermitted (Config.sample 1)) run := by
    refine (System.reachable_of_run finished).of_restrict ?_
    intro run event checked domain present call member
    have all := (Option.all_eq_true _ _).mp checked domain present
    obtain ⟨none, other⟩ := Bool.and_eq_true_iff.mp (List.all_eq_true.mp all call member)
    exact SettingCall.settable_of_none none (bne_iff_ne.mp other)
  have reachable := permitted.mono fun _ _ _ => trivial
  exact ⟨run, calls, reachable, (setting_calls_agree_iff reachable).mpr permitted⟩

/-- The first port that is made the slave port leaves the grandmaster priority at the one of this
system. -/
theorem slave_setting_disagrees : ¬ ∀ (cfg : Config) (settings : Settings) (run : SettingRun),
    (settingSystem cfg settings).Reachable System.anyStep run →
      ∀ call ∈ run.calls, Agrees cfg (call.result cfg) := by
  intro always
  have evaluated : ((settingSystem (Config.sample 0) externalSettings).run
      (settingSystem (Config.sample 0) externalSettings).start
      [.portStateInd 1 .slavePort, .external 1 8]).map (fun run => run.calls.map fun call =>
        (call.index, slaveIndex (Config.sample 0) call.domain,
          portState (call.domain.ports call.index), decide (call.domain.bptasg.systemPriority =
            (call.domain.ports call.index).pssextd.messagePriority))) =
      some [(1, none, .slavePort, false)] := by
    decide +kernel
  obtain ⟨run, finished, calls⟩ := Option.map_eq_some_iff.mp evaluated
  obtain ⟨call, only, found⟩ := List.map_eq_singleton_iff.mp calls
  simp only [Prod.mk.injEq, decide_eq_false_iff_not] at found
  obtain ⟨port, none, slave, differs⟩ := found
  have agrees := always _ _ run (System.reachable_of_run finished) call
    (only ▸ List.mem_singleton_self call)
  have settable := (SettingCall.agrees_iff (by omega) (by rw [port]; decide)).mp agrees
  exact differs (settable.first (slaveIndex_isNone.mp (Option.isNone_iff_eq_none.mpr none))
    ((portState_eq_slavePort _).mp slave))

end EnetTsn.Bmcs
