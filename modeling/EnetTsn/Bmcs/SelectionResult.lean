import EnetTsn.Bmcs.SelectionFrame

namespace EnetTsn.Bmcs

open EnetTsn.Gptp EnetTsn.Library

/-- A port whose path the choice of the grandmaster looks at: not disabled, and
with a path vector that this clock did not send. -/
def considered (thisClock : ClockIdentity) (port : Port) : Bool :=
  port.bppg.infoIs != .disabled &&
    (gmPathPriority port).sourcePortIdentity.clockIdentity != thisClock

/-- What a port offers as a grandmaster. -/
def offer (port : Port) : GmChoice :=
  { priority := gmPathPriority port, properties := port.bppg.ann }

def beats (candidate best : GmChoice) : Bool :=
  comparePriorityVectors candidate.priority best.priority == .superior

theorem beats_iff (candidate best : GmChoice) :
    beats candidate best = true ↔ candidate.priority.key < best.priority.key := by
  simp [beats, superior_iff]

def offers (cfg : Config) (domain : Domain) : List GmChoice :=
  ((List.range cfg.maxPorts).filter fun index =>
    considered domain.ptasg.thisClock (domain.ports index)).map
      fun index => offer (domain.ports index)

section

variable (cfg : Config) (domain : Domain)

theorem mem_offers (choice : GmChoice) : choice ∈ offers cfg domain ↔ ∃ index < cfg.maxPorts,
      considered domain.ptasg.thisClock (domain.ports index) = true ∧
        offer (domain.ports index) = choice := by
  simp [offers, and_assoc]

theorem chooseGm_eq_scan : chooseGm cfg domain =
      scanBest beats { priority := domain.bptasg.systemPriority, properties := domain.bptasg.sys }
        (offers cfg domain) := by
  have body : ∀ (indices : List Nat) (best : GmChoice), indices.foldl (fun best index =>
          considerPort domain.ptasg.thisClock (domain.ports index) best) best =
        scanBest beats best ((indices.filter fun index =>
          considered domain.ptasg.thisClock (domain.ports index)).map
            fun index => offer (domain.ports index)) := by
    intro indices
    induction indices with
    | nil => intro best; rfl
    | cons index rest ih =>
      intro best
      rw [List.foldl_cons, ih]
      by_cases eligible : considered domain.ptasg.thisClock (domain.ports index) = true
      · rw [List.filter_cons, if_pos eligible, List.map_cons]
        have facts : (domain.ports index).bppg.infoIs ≠ .disabled ∧
            (gmPathPriority (domain.ports index)).sourcePortIdentity.clockIdentity ≠
              domain.ptasg.thisClock := by
          simpa [considered] using eligible
        have step : considerPort domain.ptasg.thisClock (domain.ports index) best =
            if beats (offer (domain.ports index)) best then offer (domain.ports index)
            else best := by
          simp [considerPort, beats, offer, facts]
        rw [step]
        rfl
      · rw [List.filter_cons, if_neg eligible]
        have step : considerPort domain.ptasg.thisClock (domain.ports index) best = best := by
          unfold considerPort
          by_cases disabled : (domain.ports index).bppg.infoIs = .disabled
          · rw [if_pos disabled]
          · rw [if_neg disabled, if_neg]
            intro ⟨foreign, _⟩
            exact eligible (by simp [considered, disabled, foreign])
        rw [step]
  exact body _ _

theorem chooseGm_cases : chooseGm cfg domain =
        { priority := domain.bptasg.systemPriority, properties := domain.bptasg.sys } ∨
      ∃ index < cfg.maxPorts, considered domain.ptasg.thisClock (domain.ports index) = true ∧
        chooseGm cfg domain = offer (domain.ports index) ∧
        (gmPathPriority (domain.ports index)).key < domain.bptasg.systemPriority.key := by
  rw [chooseGm_eq_scan]
  rcases scanBest_cases beats_iff
    { priority := domain.bptasg.systemPriority, properties := domain.bptasg.sys }
    (offers cfg domain) with start | ⟨member, lower⟩
  · exact Or.inl start
  · obtain ⟨index, inRange, eligible, same⟩ := (mem_offers cfg domain _).mp member
    rw [← same] at lower
    exact Or.inr ⟨index, inRange, eligible, same.symm, lower⟩

theorem chooseGm_le_system :
    (chooseGm cfg domain).priority.key ≤ domain.bptasg.systemPriority.key := by
  rw [chooseGm_eq_scan]
  exact scanBest_le_start beats_iff _ _

theorem chooseGm_le_path (inRange : index < cfg.maxPorts)
    (eligible : considered domain.ptasg.thisClock (domain.ports index) = true) :
    (chooseGm cfg domain).priority.key ≤ (gmPathPriority (domain.ports index)).key := by
  rw [chooseGm_eq_scan]
  exact scanBest_le_candidate beats_iff _ _
    ((mem_offers cfg domain _).mpr ⟨index, inRange, eligible, rfl⟩)

end

section Updated

variable (cfg : Config) (domain : Domain)

def assignedDomain (cfg : Config) (domain : Domain) : Domain :=
  updateGmPresent (updatePorts cfg (computePriorities cfg domain))

theorem updtStatesTree_fst : (updtStatesTree cfg domain).1 =
      updatePathTrace (updatePortZero cfg (assignedDomain cfg domain)) := rfl

theorem frame_computePriorities : SelectionFrame domain (computePriorities cfg domain) := by
  refine ⟨⟨rfl, rfl, rfl, rfl, rfl, rfl, rfl, rfl, rfl, rfl, rfl⟩, ?_⟩
  intro index
  simp only [computePriorities]
  split
  · exact kept_setMasterPriority _ _ _
  · exact .refl _

private theorem frame_updatePorts : SelectionFrame domain (updatePorts cfg domain) :=
  foldl_updatePort_preserves (SelectionFrame domain)
    (fun current index frame => frame.trans (frame_updatePort current index)) _ _ (.refl domain)

theorem frame_updateGmPresent : SelectionFrame domain (updateGmPresent domain) :=
  ⟨⟨rfl, rfl, rfl, rfl, rfl, rfl, rfl, rfl, rfl, rfl, rfl⟩, fun _ => .refl _⟩

private theorem frame_assignedDomain : SelectionFrame domain (assignedDomain cfg domain) :=
  ((frame_computePriorities cfg domain).trans (frame_updatePorts cfg _)).trans
    (frame_updateGmPresent _)

theorem frame_updatePathTrace : SelectionFrame domain (updatePathTrace domain) := by
  obtain ⟨ports, ptasg, _, gmsd, cmsrecd⟩ := updatePathTrace_rest domain
  exact frame_of_ports ptasg (traceOnly_updatePathTrace domain) gmsd cmsrecd
    (fun index => by rw [ports]; exact .refl _)

theorem frame_updtStatesTree : SelectionFrame domain (updtStatesTree cfg domain).1 :=
  ((frame_assignedDomain cfg domain).trans (frame_updatePortZero cfg _)).trans
    (frame_updatePathTrace _)

private theorem pssd_updatePorts : (updatePorts cfg domain).pssd = domain.pssd :=
  foldl_updatePort_preserves (fun current => current.pssd = domain.pssd)
    (fun current index same => (updatePort_pssd current index).trans same) _ _ rfl

@[simp] theorem pssd_updtStatesTree : (updtStatesTree cfg domain).1.pssd = domain.pssd := by
  rw [updtStatesTree_fst, (updatePathTrace_rest _).2.2.1, updatePortZero_pssd]
  exact pssd_updatePorts cfg (computePriorities cfg domain)

theorem traceOnly_updtStatesTree :
    TraceOnly (computePriorities cfg domain).bptasg (updtStatesTree cfg domain).1.bptasg := by
  have ports : TraceOnly (computePriorities cfg domain).bptasg (assignedDomain cfg domain).bptasg :=
    foldl_updatePort_preserves
      (fun current => TraceOnly (computePriorities cfg domain).bptasg current.bptasg)
      (fun current index trace => by
        have step := traceOnly_updatePort current index
        exact ⟨by rw [step.rest, trace.rest]⟩) _ _ (traceOnly_refl _)
  have last := traceOnly_updatePathTrace (updatePortZero cfg (assignedDomain cfg domain))
  rw [updatePortZero_bptasg] at last
  exact ⟨by rw [updtStatesTree_fst, last.rest, ports.rest]⟩

theorem updtStatesTree_gmPriority :
    (updtStatesTree cfg domain).1.bptasg.gmPriority = (chooseGm cfg domain).priority := by
  rw [(traceOnly_updtStatesTree cfg domain).rest]
  rfl

theorem updtStatesTree_systemPriority :
    (updtStatesTree cfg domain).1.bptasg.systemPriority = domain.bptasg.systemPriority := by
  rw [(traceOnly_updtStatesTree cfg domain).rest]
  rfl

def selectPort (thisClock : ClockIdentity) (gmPriority : UInteger224) (port : Port) : Port :=
  assignPort gmPriority gmPriority.stepsRemoved (setMasterPriority thisClock gmPriority port)

theorem assignedDomain_ports (index : Nat) : (assignedDomain cfg domain).ports index =
      if index = 0 then
        setMasterPriority domain.ptasg.thisClock (chooseGm cfg domain).priority (domain.ports 0)
      else if index < cfg.maxPorts then
        selectPort domain.ptasg.thisClock (chooseGm cfg domain).priority (domain.ports index)
      else domain.ports index := by
  have some := cfg.somePort
  have loop := foldl_updatePort_ports (List.range' 1 (cfg.maxPorts - 1))
    (computePriorities cfg domain) List.nodup_range' index
  have same : (assignedDomain cfg domain).ports index =
      ((List.range' 1 (cfg.maxPorts - 1)).foldl updatePort (computePriorities cfg domain)).ports
        index := rfl
  rw [same, loop]
  by_cases zero : index = 0
  · subst zero
    simp [computePriorities, show 0 < cfg.maxPorts by omega]
  · by_cases inRange : index < cfg.maxPorts
    · have member : index ∈ List.range' 1 (cfg.maxPorts - 1) := by
        rw [List.mem_range'_1]
        omega
      rw [if_pos member, if_neg zero, if_pos inRange]
      simp [computePriorities, inRange, selectPort]
    · have absent : index ∉ List.range' 1 (cfg.maxPorts - 1) := by
        rw [List.mem_range'_1]
        omega
      rw [if_neg absent, if_neg zero, if_neg inRange]
      simp [computePriorities, inRange]

theorem slavePortAvail_iff : slavePortAvail cfg domain = true ↔
      ∃ index, 0 < index ∧ index < cfg.maxPorts ∧
        (domain.ports index).selectedState = .slavePort := by
  simp only [slavePortAvail, List.any_eq_true, List.mem_range'_1, beq_iff_eq]
  constructor
  · rintro ⟨index, ⟨low, high⟩, slave⟩
    exact ⟨index, low, by omega, slave⟩
  · rintro ⟨index, low, high, slave⟩
    exact ⟨index, ⟨low, by omega⟩, slave⟩

theorem updtStatesTree_ports (index : Nat) : (updtStatesTree cfg domain).1.ports index =
      if index = 0 then
        { setMasterPriority domain.ptasg.thisClock (chooseGm cfg domain).priority (domain.ports 0)
          with selectedState := portZeroState cfg (assignedDomain cfg domain) }
      else if index < cfg.maxPorts then
        selectPort domain.ptasg.thisClock (chooseGm cfg domain).priority (domain.ports index)
      else domain.ports index := by
  rw [updtStatesTree_fst, (updatePathTrace_rest _).1, updatePortZero_ports]
  by_cases zero : index = 0
  · subst zero
    simp [assignedDomain_ports]
  · rw [Domain.setPort_ports_other _ _ _ zero, assignedDomain_ports, if_neg zero, if_neg zero]

end Updated

end EnetTsn.Bmcs
