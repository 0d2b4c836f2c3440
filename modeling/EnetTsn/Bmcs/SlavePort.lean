import EnetTsn.Bmcs.AnnounceRecord

/-!
Which port `updtStatesTree` makes the slave port, in whatever order the machines
of a domain run.
-/

namespace EnetTsn.Bmcs

open EnetTsn.Gptp EnetTsn.Library

/-- What every interleaving keeps true of a port whose information machine is in
state `s`: whose vector a port holds follows from its `infoIs`. -/
structure PortSound (thisClock : ClockIdentity) (index : Nat) (s : AnnounceInformationState)
    (port : Port) : Prop where
  thisPort : port.ppg.thisPort = UInt16.ofNat index
  mine : port.bppg.infoIs = .mine →
    port.bppg.portPriority.sourcePortIdentity.clockIdentity = thisClock
  received : port.bppg.infoIs = .received → port.bppg.portPriority.portNumber = UInt16.ofNat index
  updating : port.bppg.updtInfo = true ∨ s = .update →
    port.bppg.masterPriority.sourcePortIdentity.clockIdentity = thisClock
  superior : port.painfd.rcvdInfo = .superiorMasterInfo ∨ s = .superiorMasterPort →
    port.painfd.messagePriority.portNumber = UInt16.ofNat index

namespace PortSound

variable (sound : PortSound thisClock index s port)
include sound

theorem move (update : s' = .update → port.bppg.updtInfo)
    (superior : s' = .superiorMasterPort → port.painfd.rcvdInfo = .superiorMasterInfo) :
    PortSound thisClock index s' port where
  thisPort := sound.thisPort
  mine := sound.mine
  received := sound.received
  updating pending := sound.updating (Or.inl (pending.elim id update))
  superior pending := sound.superior (Or.inl (pending.elim id superior))

theorem elsewhere (update : s' ≠ .update := by rintro ⟨⟩)
    (superior : s' ≠ .superiorMasterPort := by rintro ⟨⟩) : PortSound thisClock index s' port :=
  sound.move (absurd · update) (absurd · superior)

end PortSound

namespace AnnounceInformation

variable {thisClock : ClockIdentity} {index : Nat} (view : InstanceView) (cts64 : UInt64)
  (s : AnnounceInformationState)

theorem sound_stay
    (port : Port) (same : port.painfd.state = s) (sound : PortSound thisClock index s port) :
    PortSound thisClock index (condition view cts64 s port) port := by
  cases s with
  | init => exact sound.elsewhere
  | disabled =>
    simp only [condition, disabledCondition, same]
    split
    · exact sound.elsewhere
    · split <;> exact sound
  | aged =>
    simp only [condition, agedCondition]
    split
    · rename_i pending
      exact sound.move (fun _ => by simp at pending; exact pending.2) (by simp)
    · exact sound
  | update | superiorMasterPort | repeatedMasterPort => exact sound.elsewhere
  | current =>
    simp only [condition]
    rcases currentCondition_cases view cts64 port with
      ⟨next, _, updt⟩ | ⟨next, _⟩ | ⟨next, _⟩ | ⟨next, _⟩ <;> rw [next]
    · exact sound.move (fun _ => updt) (by simp)
    all_goals exact sound.elsewhere
  | receive =>
    simp only [condition]
    rcases receiveCondition_cases port with ⟨next, _⟩ | ⟨next, info⟩ | ⟨next, _⟩ | ⟨next, _⟩ <;>
      rw [next]
    · exact sound
    · exact sound.move (by simp) (fun _ => info)
    all_goals exact sound.elsewhere
  | inferiorMasterOrOtherPort =>
    simp only [condition]
    rcases inferiorCondition_cases view port with ⟨next, _⟩ | next <;> rw [next]
    all_goals exact sound.elsewhere
  | reaction => exact sound

theorem sound_proc (port : Port) (sound : PortSound thisClock index s port) :
    PortSound thisClock index s (proc view cts64 s port) := by
  cases s with
  | init | current | reaction => exact sound
  | disabled =>
    exact ⟨sound.thisPort, by simp [proc], by simp [proc], sound.updating, sound.superior⟩
  | aged =>
    exact ⟨sound.thisPort, by simp [proc], by simp [proc], sound.updating, sound.superior⟩
  | update =>
    refine ⟨sound.thisPort, ?_, by simp [proc], ?_, sound.superior⟩
    · intro _
      exact sound.updating (Or.inr rfl)
    · intro _
      exact sound.updating (Or.inr rfl)
  | receive =>
    refine ⟨sound.thisPort, sound.mine, sound.received, sound.updating, ?_⟩
    intro _
    simpa [proc, messageVector] using sound.thisPort
  | superiorMasterPort =>
    refine ⟨by simpa [proc] using sound.thisPort, by simp [proc], ?_, ?_, ?_⟩
    · intro _
      simpa [proc] using sound.superior (Or.inr rfl)
    · simpa [proc] using sound.updating
    · simpa [proc] using sound.superior
  | repeatedMasterPort | inferiorMasterOrOtherPort =>
    exact ⟨sound.thisPort, sound.mine, sound.received, sound.updating, sound.superior⟩

private theorem sound_run (sound : PortSound thisClock index port.painfd.state port)
    (finished : portAnnounceInformationSm view cts64 port = some next) :
    PortSound thisClock index next.painfd.state next := by
  refine portAnnounceInformationSm_preserves (PortSound thisClock index) ⟨?_, ?_⟩ ?_ ?_
    (sound_stay view cts64) sound finished
  · exact fun s s' port kept => ⟨kept.1, kept.2, kept.3, kept.4, kept.5⟩
  · exact fun s s' port kept => ⟨kept.1, kept.2, kept.3, kept.4, kept.5⟩
  · exact fun s port valid => valid.elsewhere
  · exact fun s port _ valid => sound_proc view cts64 s port valid

end AnnounceInformation

/-- Every port of the domain is sound, and port 0 is the clock master. -/
structure DomainSound (cfg : Config) (domain : Domain) : Prop where
  ports : ∀ index, index < cfg.maxPorts →
    PortSound domain.ptasg.thisClock index (domain.ports index).painfd.state (domain.ports index)
  clockMaster : (domain.ports 0).bppg.infoIs = .disabled
  systemSteps : domain.bptasg.systemPriority.stepsRemoved = 0
  systemPort : domain.bptasg.systemPriority.portNumber = 0

namespace DomainSound

theorem init (cfg : Config) (settings : Settings) : DomainSound cfg (Domain.init cfg settings) where
  ports index _ :=
    { thisPort := rfl, mine := nofun, received := nofun
      updating := fun pending => by simp [Domain.init, Port.init, BmcsPerPortGlobal.init] at pending
      superior := fun pending => by simp [Domain.init, Port.init] at pending }
  clockMaster := rfl
  systemSteps := rfl
  systemPort := rfl

theorem portChange (change : PortChange domain index step port)
    (sound : PortSound thisClock index (domain.ports index).painfd.state (domain.ports index)) :
    PortSound thisClock index port.painfd.state port := by
  cases change with
  | recvAnnounce ran =>
    rw [(kept_recvAnnounce ran).port]
    exact ⟨sound.1, sound.2, sound.3, sound.4, sound.5⟩
  | announceReceive ran =>
    rw [(kept_portAnnounceReceiveSm ran).port]
    exact ⟨sound.1, sound.2, sound.3, sound.4, sound.5⟩
  | information _ ran => exact AnnounceInformation.sound_run domain.view _ sound ran
  | side kept =>
    rw [kept.rest]
    exact ⟨sound.1, sound.2, sound.3, sound.4, sound.5⟩
  | syncReceiptTimeoutTime time | portOper value | asCapable value
  | asymmetryMeasurementMode value =>
    exact ⟨sound.1, sound.2, sound.3, sound.4, sound.5⟩

private theorem onePort (rest : OnePort index domain next) (positive : 0 < index)
    (change : PortChange domain index step (next.ports index)) (sound : DomainSound cfg domain) :
    DomainSound cfg next where
  ports other inRange := by
    rw [rest.ptasg]
    by_cases same : other = index
    · subst same
      exact portChange change (sound.ports _ inRange)
    · rw [rest.ports other same]
      exact sound.ports other inRange
  clockMaster := by
    rw [rest.ports 0 (by omega)]
    exact sound.clockMaster
  systemSteps := by
    rw [rest.trace.rest]
    exact sound.systemSteps
  systemPort := by
    rw [rest.trace.rest]
    exact sound.systemPort

theorem selectionMove (move : SelectionMove cfg before after) (sound : DomainSound cfg before) :
    DomainSound cfg after where
  ports index inRange := by
    have port := sound.ports index inRange
    have kept := move.frame.ports index
    rw [move.frame.thisClock, kept.painfd]
    refine ⟨by simpa [kept.ppg] using port.thisPort, by simpa [kept.infoIs, kept.portPriority]
      using port.mine, by simpa [kept.infoIs, kept.portPriority] using port.received, ?_,
      by simpa [kept.painfd] using port.superior⟩
    rcases move.bppg inRange with same | signed
    · simpa [same] using port.updating
    · exact fun _ => signed
  clockMaster := by
    rw [(move.frame.ports 0).infoIs]
    exact sound.clockMaster
  systemSteps := by
    obtain ⟨value, same⟩ := move.systemPriority
    rw [same]
    exact sound.systemSteps
  systemPort := by
    obtain ⟨value, same⟩ := move.systemPriority
    rw [same]
    exact sound.systemPort

theorem selecting (selecting : Selecting cfg before after) (sound : DomainSound cfg before) :
    DomainSound cfg after :=
  selecting.preserves (DomainSound cfg) (fun _ _ move => selectionMove move) sound

theorem external (frame : ExternalFrame before after) (sound : DomainSound cfg before) :
    DomainSound cfg after where
  ports index inRange := by
    have port := sound.ports index inRange
    have kept := frame.ports index
    have painfd : (after.ports index).painfd = (before.ports index).painfd := by rw [kept.rest]
    rw [frame.thisClock, painfd]
    refine ⟨by rw [kept.rest]; exact port.thisPort, by rw [kept.rest]; exact port.mine,
      by rw [kept.rest]; exact port.received, ?_, by rw [painfd]; exact port.superior⟩
    intro pending
    rcases kept.masterPriority with same | signed
    · rw [same]
      exact port.updating (pending.imp_left kept.updtInfo)
    · exact signed
  clockMaster := by
    rw [(frame.ports 0).rest]
    exact sound.clockMaster
  systemSteps := by
    rw [frame.bptasg]
    exact sound.systemSteps
  systemPort := by
    rw [frame.bptasg]
    exact sound.systemPort

theorem clockKept (kept : ClockKept before after) (sound : DomainSound cfg before) :
    DomainSound cfg after where
  ports index inRange := by
    rw [kept.ptasg, kept.ports]
    exact sound.ports index inRange
  clockMaster := by
    rw [kept.ports]
    exact sound.clockMaster
  systemSteps := by
    rw [kept.bptasg]
    exact sound.systemSteps
  systemPort := by
    rw [kept.bptasg]
    exact sound.systemPort

theorem perform (done : perform cfg domain step = some next) (sound : DomainSound cfg domain) :
    DomainSound cfg next := by
  rcases perform_cases done with
    ⟨index, _, _, positive, _, rest, change⟩ | ⟨_, cts64, result, ran⟩ | ⟨_, index, _, _, ran⟩ | kept
  · exact onePort rest positive change sound
  · exact selecting (selecting_portStateSelectionSm ran) sound
  · exact external (frame_performExternal ran) sound
  · exact clockKept kept sound

theorem reachable (reached : (domainSystem cfg settings).Reachable allowed domain) :
    DomainSound cfg domain :=
  reached.invariant (DomainSound cfg) (init cfg settings)
    (fun _ _ _ sound _ done => perform done sound)

end DomainSound

def pathVector (port : Port) : UInteger224 :=
  { port.bppg.portPriority with stepsRemoved := port.bppg.portPriority.stepsRemoved + 1 }

theorem gmPathPriority_cases (port : Port) :
    (hasPortPriority port.bppg.portPriority = true ∧ port.bppg.infoIs ≠ .aged ∧
      gmPathPriority port = pathVector port) ∨ gmPathPriority port = UInteger224.fill 0xFF := by
  unfold gmPathPriority
  by_cases held : (hasPortPriority port.bppg.portPriority && port.bppg.infoIs != .aged) = true
  · rw [if_pos held]
    simp only [Bool.and_eq_true, bne_iff_ne] at held
    exact Or.inl ⟨held.1, held.2, rfl⟩
  · rw [if_neg held]
    exact Or.inr rfl

private theorem assignState_slavePort (gmPriority : UInteger224) (steps : UInt16) (port : Port) :
    (assignState gmPriority steps port).1 = .slavePort ↔
      port.bppg.infoIs = .received ∧ port.ppg.asymmetryMeasurementMode = false ∧
        gmPriority = gmPathPriority port := by
  unfold assignState
  cases info : port.bppg.infoIs <;> cases mode : port.ppg.asymmetryMeasurementMode <;>
    simp only [reduceIte, Bool.false_eq_true] <;> try simp
  split
  · simp_all
  · split <;> simp_all

theorem portNumber_inj {cfg : Config} (inFirst : first < cfg.maxPorts)
    (inSecond : second < cfg.maxPorts) (same : UInt16.ofNat first = UInt16.ofNat second) :
    first = second := by
  have few := cfg.fewPorts
  have value := congrArg UInt16.toNat same
  simp only [UInt16.toNat_ofNat', absMaxNetdevs] at value few
  omega

section Choice

variable {cfg : Config} {domain : Domain} (sound : DomainSound cfg domain)
include sound

theorem chooseGm_source : (chooseGm cfg domain).priority = domain.bptasg.systemPriority ∨
      ∃ index, 0 < index ∧ index < cfg.maxPorts ∧ (domain.ports index).bppg.infoIs = .received ∧
        (chooseGm cfg domain).priority = gmPathPriority (domain.ports index) ∧
        gmPathPriority (domain.ports index) = pathVector (domain.ports index) ∧
        (chooseGm cfg domain).priority.key < domain.bptasg.systemPriority.key := by
  rcases chooseGm_cases cfg domain with system | ⟨index, inRange, eligible, chosen, better⟩
  · exact Or.inl (by rw [system])
  · have facts : (domain.ports index).bppg.infoIs ≠ .disabled ∧
        (gmPathPriority (domain.ports index)).sourcePortIdentity.clockIdentity ≠
          domain.ptasg.thisClock := by
      simpa [considered] using eligible
    have priority : (chooseGm cfg domain).priority = gmPathPriority (domain.ports index) := by
      rw [chosen]
      rfl
    rcases gmPathPriority_cases (domain.ports index) with ⟨_, notAged, path⟩ | ones
    · have positive : 0 < index := by
        rcases Nat.eq_zero_or_pos index with zero | positive
        · subst zero
          exact absurd sound.clockMaster facts.1
        · exact positive
      have received : (domain.ports index).bppg.infoIs = .received := by
        cases info : (domain.ports index).bppg.infoIs with
        | received => rfl
        | mine =>
          have signed := (sound.ports index inRange).mine info
          rw [path] at facts
          exact absurd signed facts.2
        | aged => exact absurd info notAged
        | disabled => exact absurd info facts.1
      exact Or.inr ⟨index, positive, inRange, received, priority, path, priority ▸ better⟩
    · rw [ones] at better
      exact absurd better (fill_not_superior _)

private theorem chooseGm_portNumber :
    ∃ index < cfg.maxPorts, (chooseGm cfg domain).priority.portNumber = UInt16.ofNat index := by
  rcases chooseGm_source sound with system | ⟨index, _, inRange, received, path, vector, _⟩
  · exact ⟨0, by have := cfg.somePort; omega, by rw [system, sound.systemPort]; rfl⟩
  · exact ⟨index, inRange, by rw [path, vector]; exact (sound.ports index inRange).received received⟩

private theorem chooseGm_ne_ones : (chooseGm cfg domain).priority ≠ UInteger224.fill 0xFF := by
  intro ones
  obtain ⟨index, inRange, number⟩ := chooseGm_portNumber sound
  have few := cfg.fewPorts
  rw [ones] at number
  have value := congrArg UInt16.toNat number
  have ones : (UInteger224.fill 0xFF).portNumber.toNat = 65535 := by decide
  simp only [ones, UInt16.toNat_ofNat', absMaxNetdevs] at value few
  omega

theorem path_of_chosen (inRange : index < cfg.maxPorts) (positive : 0 < index)
    (received : (domain.ports index).bppg.infoIs = .received)
    (chosen : (chooseGm cfg domain).priority = pathVector (domain.ports index)) :
    (chooseGm cfg domain).priority = gmPathPriority (domain.ports index) := by
  have number : (chooseGm cfg domain).priority.portNumber = UInt16.ofNat index := by
    rw [chosen]
    exact (sound.ports index inRange).received received
  rcases chooseGm_source sound with system | ⟨source, _, sourceInRange, from_, path, vector, _⟩
  · rw [system, sound.systemPort] at number
    have zero : 0 = index := portNumber_inj (by have := cfg.somePort; omega) inRange number
    omega
  · have sourceNumber : (chooseGm cfg domain).priority.portNumber = UInt16.ofNat source := by
      rw [path, vector]
      exact (sound.ports source sourceInRange).received from_
    have same := portNumber_inj sourceInRange inRange (sourceNumber.symm.trans number)
    exact same ▸ path

theorem updtStatesTree_slavePort_iff
    (off : ∀ index < cfg.maxPorts, (domain.ports index).ppg.asymmetryMeasurementMode = false)
    (positive : 0 < index) (inRange : index < cfg.maxPorts) :
    ((updtStatesTree cfg domain).1.ports index).selectedState = .slavePort ↔
      (domain.ports index).bppg.infoIs = .received ∧
        (chooseGm cfg domain).priority = pathVector (domain.ports index) := by
  rw [updtStatesTree_ports, if_neg (by omega : index ≠ 0), if_pos inRange]
  have kept := kept_setMasterPriority domain.ptasg.thisClock (chooseGm cfg domain).priority
    (domain.ports index)
  rw [selectPort, assignPort_selectedState, assignState_slavePort, kept.infoIs, kept.ppg,
    kept.gmPathPriority]
  constructor
  · rintro ⟨received, _, path⟩
    rcases gmPathPriority_cases (domain.ports index) with ⟨_, _, vector⟩ | ones
    · exact ⟨received, path.trans vector⟩
    · exact absurd (path.trans ones) (chooseGm_ne_ones sound)
  · rintro ⟨received, chosen⟩
    exact ⟨received, off index inRange, path_of_chosen sound inRange positive received chosen⟩

end Choice

theorem updtStatesTree_portZero (cfg : Config) (domain : Domain) :
    ((updtStatesTree cfg domain).1.ports 0).selectedState = .slavePort ↔
      ∀ index, 0 < index → index < cfg.maxPorts →
        ((updtStatesTree cfg domain).1.ports index).selectedState ≠ .slavePort := by
  have zero : ((updtStatesTree cfg domain).1.ports 0).selectedState =
      portZeroState cfg (assignedDomain cfg domain) := by
    rw [updtStatesTree_ports, if_pos rfl]
  have assigned : ∀ index, 0 < index →
      (assignedDomain cfg domain).ports index = (updtStatesTree cfg domain).1.ports index := by
    intro index positive
    rw [assignedDomain_ports, updtStatesTree_ports, if_neg (by omega : index ≠ 0),
      if_neg (by omega : index ≠ 0)]
  rw [zero, portZeroState]
  split
  · rename_i available
    obtain ⟨index, positive, inRange, slave⟩ := (slavePortAvail_iff cfg _).mp available
    rw [assigned index positive] at slave
    exact ⟨nofun, fun none => absurd slave (none index positive inRange)⟩
  · rename_i unavailable
    refine ⟨fun _ index positive inRange slave => unavailable ?_, fun _ => rfl⟩
    exact (slavePortAvail_iff cfg _).mpr
      ⟨index, positive, inRange, by rw [assigned index positive]; exact slave⟩

theorem chooseGm_minimal (cfg : Config) (domain : Domain) (inRange : index < cfg.maxPorts)
    (enabled : (domain.ports index).bppg.infoIs ≠ .disabled)
    (notAged : (domain.ports index).bppg.infoIs ≠ .aged)
    (held : hasPortPriority (domain.ports index).bppg.portPriority = true)
    (foreign : (domain.ports index).bppg.portPriority.sourcePortIdentity.clockIdentity ≠
      domain.ptasg.thisClock) :
    comparePriorityVectors (pathVector (domain.ports index)) (chooseGm cfg domain).priority ≠
      .superior := by
  have path : gmPathPriority (domain.ports index) = pathVector (domain.ports index) := by
    simp [gmPathPriority, held, notAged, pathVector]
  have eligible : considered domain.ptasg.thisClock (domain.ports index) = true := by
    simp [considered, enabled, path, pathVector, foreign]
  rw [Ne, superior_iff, ← path]
  exact (chooseGm_le_path cfg domain inRange eligible).not_gt

theorem exists_slave (sound : DomainSound cfg domain)
    (off : ∀ index < cfg.maxPorts, (domain.ports index).ppg.asymmetryMeasurementMode = false) :
    ∃ slave < cfg.maxPorts, (∀ index < cfg.maxPorts,
        (((updtStatesTree cfg domain).1.ports index).selectedState = .slavePort ↔ index = slave)) ∧
      (slave = 0 ↔ (chooseGm cfg domain).priority = domain.bptasg.systemPriority) := by
  have physical : ∀ index, 0 < index → index < cfg.maxPorts →
      (((updtStatesTree cfg domain).1.ports index).selectedState = .slavePort ↔
        (domain.ports index).bppg.infoIs = .received ∧
          (chooseGm cfg domain).priority = pathVector (domain.ports index)) :=
    fun _ positive inRange => updtStatesTree_slavePort_iff sound off positive inRange
  have number : ∀ index, index < cfg.maxPorts → (domain.ports index).bppg.infoIs = .received →
      (pathVector (domain.ports index)).portNumber = UInt16.ofNat index :=
    fun index inRange => (sound.ports index inRange).received
  have zero : 0 < cfg.maxPorts := by have := cfg.somePort; omega
  have portZero := updtStatesTree_portZero cfg domain
  rcases chooseGm_source sound with system | ⟨source, positive, inRange, received, path, vector, better⟩
  · have none : ∀ index, 0 < index → index < cfg.maxPorts →
        ((updtStatesTree cfg domain).1.ports index).selectedState ≠ .slavePort := by
      intro index positive inRange slave
      obtain ⟨received, chosen⟩ := (physical index positive inRange).mp slave
      have same := number index inRange received
      rw [← chosen, system, sound.systemPort] at same
      have atZero : 0 = index := portNumber_inj zero inRange same
      omega
    refine ⟨0, zero, ?_, by simp [system]⟩
    intro index inRange
    rcases Nat.eq_zero_or_pos index with atZero | positive
    · subst atZero
      simpa using portZero.mpr none
    · exact iff_of_false (none index positive inRange) (by omega)
  · have chosen : (chooseGm cfg domain).priority = pathVector (domain.ports source) :=
      path.trans vector
    have slave := (physical source positive inRange).mpr ⟨received, chosen⟩
    refine ⟨source, inRange, ?_, iff_of_false (by omega) ?_⟩
    · intro index indexInRange
      rcases Nat.eq_zero_or_pos index with atZero | indexPositive
      · subst atZero
        exact iff_of_false (fun isSlave => portZero.mp isSlave source positive inRange slave)
          (by omega)
      · rw [physical index indexPositive indexInRange]
        constructor
        · rintro ⟨from_, same⟩
          refine portNumber_inj indexInRange inRange ?_
          rw [← number index indexInRange from_, ← number source inRange received, ← same, chosen]
        · rintro rfl
          exact ⟨received, chosen⟩
    · intro equal
      rw [equal] at better
      exact lt_irrefl _ better

/-- Whatever the machines of a domain have done, and wherever in a run of the
selection `updtStatesTree` is called: as long as no Announce brings more path than a
record has room for, no record is left by a copy, and exactly one port is the slave port.
It is port 0 when this clock is the grandmaster, else the port whose received vector
gives `gmPriority`, and no eligible vector is better. -/
theorem updtStatesTree_unique_slave {cfg : Config} {settings : Settings} {domain calling : Domain}
    (reached : (domainSystem cfg settings).Reachable FittingPath domain)
    (selecting : Selecting cfg domain calling)
    (off : ∀ index < cfg.maxPorts, (domain.ports index).ppg.asymmetryMeasurementMode = false) :
    let after := (updtStatesTree cfg calling).1
    (∀ index, (after.ports index).bppg.overrun = false) ∧ ∃ slave < cfg.maxPorts,
      (∀ index < cfg.maxPorts, ((after.ports index).selectedState = .slavePort ↔ index = slave)) ∧
      (slave = 0 ↔ after.bptasg.gmPriority = after.bptasg.systemPriority) ∧
      (slave ≠ 0 → ∀ index, 0 < index → index < cfg.maxPorts →
        ((after.ports index).bppg.infoIs = .received ∧
          pathVector (after.ports index) = after.bptasg.gmPriority ↔ index = slave)) ∧
      comparePriorityVectors after.bptasg.systemPriority after.bptasg.gmPriority ≠ .superior ∧
      ∀ index < cfg.maxPorts, (after.ports index).bppg.infoIs ≠ .disabled →
        (after.ports index).bppg.infoIs ≠ .aged →
        hasPortPriority (after.ports index).bppg.portPriority = true →
        (after.ports index).bppg.portPriority.sourcePortIdentity.clockIdentity ≠
          after.ptasg.thisClock →
        comparePriorityVectors (pathVector (after.ports index)) after.bptasg.gmPriority ≠
          .superior := by
  intro after
  have sound := DomainSound.selecting selecting (DomainSound.reachable reached)
  have callingOff : ∀ index < cfg.maxPorts,
      (calling.ports index).ppg.asymmetryMeasurementMode = false := by
    intro index inRange
    rw [(selecting.frame.ports index).ppg]
    exact off index inRange
  have kept := frame_updtStatesTree cfg calling
  have gm : after.bptasg.gmPriority = (chooseGm cfg calling).priority :=
    updtStatesTree_gmPriority cfg calling
  have system : after.bptasg.systemPriority = calling.bptasg.systemPriority :=
    updtStatesTree_systemPriority cfg calling
  have info : ∀ index, (after.ports index).bppg.infoIs = (calling.ports index).bppg.infoIs :=
    fun index => (kept.ports index).infoIs
  have priority : ∀ index,
      (after.ports index).bppg.portPriority = (calling.ports index).bppg.portPriority :=
    fun index => (kept.ports index).portPriority
  have vector : ∀ index, pathVector (after.ports index) = pathVector (calling.ports index) :=
    fun index => by simp only [pathVector, priority]
  obtain ⟨slave, inRange, unique, zero⟩ := exists_slave sound callingOff
  simp only [gm, system, info, priority, vector, show after.ptasg.thisClock =
    calling.ptasg.thisClock from kept.thisClock]
  refine ⟨fun index => ?_, slave, inRange, unique, zero, ?_, ?_, ?_⟩
  · rw [(kept.ports index).bppg, (selecting.frame.ports index).bppg]
    exact (pathHeld_reachable reached index).within
  · intro _ index positive indexInRange
    rw [← unique index indexInRange,
      updtStatesTree_slavePort_iff sound callingOff positive indexInRange]
    exact and_congr_right fun _ => eq_comm
  · rw [Ne, superior_iff]
    exact (chooseGm_le_system cfg calling).not_gt
  · exact fun index indexInRange => chooseGm_minimal cfg calling indexInRange

def checkFittingPath (_ : Domain) : Step → Bool
  | .port _ (.recvAnnounce announce) => announce.tlvLength.toNat ≤ pathSequenceSize
  | _ => true

private theorem fittingPath_of_check (domain : Domain) (step : Step)
    (passed : checkFittingPath domain step = true) : FittingPath domain step := by
  rintro index announce rfl
  simpa [checkFittingPath] using passed

/-- A port that has received a better vector becomes the slave port, in place of port 0. -/
theorem updtStatesTree_unique_slave_received :
    ∃ domain, (domainSystem (Config.sample 0) Settings.sample).Reachable FittingPath domain ∧
      (domain.ports 1).bppg.infoIs = .received ∧ ∀ index < 2,
        (((updtStatesTree (Config.sample 0) domain).1.ports index).selectedState = .slavePort ↔
          index = 1) := by
  have ran : (((domainSystem (Config.sample 0) Settings.sample).restrict checkFittingPath).run
      (Domain.init (Config.sample 0) Settings.sample) receivedSteps).map
        (fun domain => ((domain.ports 1).bppg.infoIs, (domain.ports 0).ppg.asymmetryMeasurementMode,
          (domain.ports 1).ppg.asymmetryMeasurementMode,
          ((updtStatesTree (Config.sample 0) domain).1.ports 1).selectedState)) =
      some (.received, false, false, .slavePort) := by
    decide +kernel
  obtain ⟨domain, finished, values⟩ := Option.map_eq_some_iff.mp ran
  simp only [Prod.mk.injEq] at values
  obtain ⟨info, zeroOff, oneOff, chosen⟩ := values
  have reached := System.Reachable.of_restrict fittingPath_of_check
    (System.reachable_of_run finished)
  have off : ∀ index < (Config.sample 0).maxPorts,
      (domain.ports index).ppg.asymmetryMeasurementMode = false := by
    rintro (_ | _ | index) inRange
    · exact zeroOff
    · exact oneOff
    · exact absurd inRange (by simp [Config.sample])
  obtain ⟨_, slave, _, unique, _⟩ := updtStatesTree_unique_slave reached .refl off
  have one : 1 = slave := (unique 1 (by decide)).mp chosen
  subst one
  exact ⟨domain, reached, info, unique⟩

def overrunSteps : List Step :=
  masterSteps 1 ++ [.port 1 (.recvAnnounce { PTPMsgAnnounce.sample 0 with tlvLength := 65535 }),
    .port 1 (.announceInformation 1)]

/-- What the record of the path is told to hold is written behind it otherwise. -/
theorem path_overruns_record :
    ∃ domain, (domainSystem (Config.sample 0) Settings.sample).Reachable System.anyStep domain ∧
      (domain.ports 0).ppg.asymmetryMeasurementMode = false ∧
      (domain.ports 1).ppg.asymmetryMeasurementMode = false ∧
      (domain.ports 1).bppg.overrun = true := by
  have ran : ((domainSystem (Config.sample 0) Settings.sample).run
      (Domain.init (Config.sample 0) Settings.sample) overrunSteps).map
        (fun domain => ((domain.ports 0).ppg.asymmetryMeasurementMode,
          (domain.ports 1).ppg.asymmetryMeasurementMode, (domain.ports 1).bppg.overrun)) =
      some (false, false, true) := by
    decide +kernel
  obtain ⟨domain, finished, values⟩ := Option.map_eq_some_iff.mp ran
  simp only [Prod.mk.injEq] at values
  exact ⟨domain, System.reachable_of_run finished, values⟩

end EnetTsn.Bmcs
