import EnetTsn.Bmcs.StateSelection

namespace EnetTsn.Bmcs

open EnetTsn.Gptp EnetTsn.Library

/-- A selection changes of a port only its state, its two selection flags,
`masterPriority` and `updtInfo`. -/
structure PortKept (before after : Port) : Prop where
  ppg : after.ppg = before.ppg
  parecd : after.parecd = before.parecd
  painfd : after.painfd = before.painfd
  patransd : after.patransd = before.patransd
  aisetd : after.aisetd = before.aisetd
  gcinvsetd : after.gcinvsetd = before.gcinvsetd
  paiextd : after.paiextd = before.paiextd
  pssextd : after.pssextd = before.pssextd
  bppg : after.bppg = { before.bppg with
    masterPriority := after.bppg.masterPriority, updtInfo := after.bppg.updtInfo }

theorem PortKept.refl (port : Port) : PortKept port port := ⟨rfl, rfl, rfl, rfl, rfl, rfl, rfl, rfl, rfl⟩

theorem PortKept.trans (first : PortKept before middle) (second : PortKept middle after) :
    PortKept before after where
  ppg := second.ppg.trans first.ppg
  parecd := second.parecd.trans first.parecd
  painfd := second.painfd.trans first.painfd
  patransd := second.patransd.trans first.patransd
  aisetd := second.aisetd.trans first.aisetd
  gcinvsetd := second.gcinvsetd.trans first.gcinvsetd
  paiextd := second.paiextd.trans first.paiextd
  pssextd := second.pssextd.trans first.pssextd
  bppg := by rw [second.bppg, first.bppg]

section PortKeptFields

variable (kept : PortKept before after)
include kept

theorem PortKept.infoIs : after.bppg.infoIs = before.bppg.infoIs := by rw [kept.bppg]

theorem PortKept.portPriority : after.bppg.portPriority = before.bppg.portPriority := by
  rw [kept.bppg]

theorem PortKept.rcvdMsg : after.bppg.rcvdMsg = before.bppg.rcvdMsg := by rw [kept.bppg]

theorem PortKept.up : after.up = before.up := by simp [Port.up, kept.ppg]

theorem PortKept.gmPathPriority : gmPathPriority after = gmPathPriority before := by
  simp [Bmcs.gmPathPriority, kept.portPriority, kept.infoIs]

end PortKeptFields

structure InstanceKept (before after : Domain) : Prop where
  BEGIN : after.ptasg.BEGIN = before.ptasg.BEGIN
  thisClock : after.ptasg.thisClock = before.ptasg.thisClock
  instanceEnable : after.ptasg.instanceEnable = before.ptasg.instanceEnable
  domainIndex : after.ptasg.domainIndex = before.ptasg.domainIndex
  gmStableInitdone : after.ptasg.gmStableInitdone = before.ptasg.gmStableInitdone
  asCapableOrAll : after.ptasg.asCapableOrAll = before.ptasg.asCapableOrAll
  sys : after.bptasg.sys = before.bptasg.sys
  externalPortConfiguration :
    after.bptasg.externalPortConfiguration = before.bptasg.externalPortConfiguration
  bmcsQuickUpdate : after.bptasg.bmcsQuickUpdate = before.bptasg.bmcsQuickUpdate
  gmsd : after.gmsd = before.gmsd
  cmsrecd : after.cmsrecd = before.cmsrecd

section

variable (domain : Domain)

theorem InstanceKept.refl : InstanceKept domain domain :=
  ⟨rfl, rfl, rfl, rfl, rfl, rfl, rfl, rfl, rfl, rfl, rfl⟩

theorem InstanceKept.trans (first : InstanceKept before middle)
    (second : InstanceKept middle after) : InstanceKept before after where
  BEGIN := second.BEGIN.trans first.BEGIN
  thisClock := second.thisClock.trans first.thisClock
  instanceEnable := second.instanceEnable.trans first.instanceEnable
  domainIndex := second.domainIndex.trans first.domainIndex
  gmStableInitdone := second.gmStableInitdone.trans first.gmStableInitdone
  asCapableOrAll := second.asCapableOrAll.trans first.asCapableOrAll
  sys := second.sys.trans first.sys
  externalPortConfiguration :=
    second.externalPortConfiguration.trans first.externalPortConfiguration
  bmcsQuickUpdate := second.bmcsQuickUpdate.trans first.bmcsQuickUpdate
  gmsd := second.gmsd.trans first.gmsd
  cmsrecd := second.cmsrecd.trans first.cmsrecd

/-- What a selection leaves alone. -/
structure SelectionFrame (before after : Domain) : Prop extends InstanceKept before after where
  ports : ∀ index, PortKept (before.ports index) (after.ports index)

theorem SelectionFrame.refl : SelectionFrame domain domain :=
  ⟨.refl domain, fun _ => .refl _⟩

theorem SelectionFrame.trans (first : SelectionFrame before middle)
    (second : SelectionFrame middle after) : SelectionFrame before after :=
  ⟨first.toInstanceKept.trans second.toInstanceKept,
    fun index => (first.ports index).trans (second.ports index)⟩

theorem frame_setGmsync (status : GmsyncStatus) : SelectionFrame domain (domain.setGmsync status) :=
  ⟨⟨rfl, rfl, rfl, rfl, rfl, rfl, rfl, rfl, rfl, rfl, rfl⟩, fun _ => .refl _⟩

theorem frame_pssd (pssd : PortStateSelectionData) :
    SelectionFrame domain { domain with pssd := pssd } :=
  ⟨⟨rfl, rfl, rfl, rfl, rfl, rfl, rfl, rfl, rfl, rfl, rfl⟩, fun _ => .refl _⟩

end

theorem frame_of_ports (ptasg : after.ptasg = before.ptasg)
    (trace : TraceOnly before.bptasg after.bptasg) (gmsd : after.gmsd = before.gmsd)
    (cmsrecd : after.cmsrecd = before.cmsrecd)
    (ports : ∀ index, PortKept (before.ports index) (after.ports index)) :
    SelectionFrame before after := by
  refine ⟨⟨?_, ?_, ?_, ?_, ?_, ?_, ?_, ?_, ?_, gmsd, cmsrecd⟩, ports⟩
  all_goals first | rw [ptasg] | rw [trace.rest]

private theorem kept_assignPort (gmPriority : UInteger224) (steps : UInt16) (port : Port) :
    PortKept port (assignPort gmPriority steps port) := ⟨rfl, rfl, rfl, rfl, rfl, rfl, rfl, rfl, rfl⟩

theorem kept_setMasterPriority (thisClock : ClockIdentity) (gmPriority : UInteger224)
    (port : Port) : PortKept port (setMasterPriority thisClock gmPriority port) :=
  ⟨rfl, rfl, rfl, rfl, rfl, rfl, rfl, rfl, rfl⟩

theorem kept_selectedState (port : Port) (state : PTPPortState) :
    PortKept port { port with selectedState := state } := ⟨rfl, rfl, rfl, rfl, rfl, rfl, rfl, rfl, rfl⟩

theorem kept_setPort {domain : Domain} (kept : PortKept (domain.ports index) port) (other : Nat) :
    PortKept (domain.ports other) ((domain.setPort index port).ports other) := by
  by_cases same : other = index
  · subst same
    simpa using kept
  · rw [Domain.setPort_ports_other _ _ _ same]
    exact .refl _

section UpdatePort

variable (domain : Domain) (index : Nat)

theorem traceOnly_portStateUpdate :
    TraceOnly domain.bptasg (portStateUpdate index domain).bptasg := by
  unfold portStateUpdate
  dsimp only
  split
  · exact traceOnly_storePathTrace _ _ _ _
  · exact traceOnly_refl _

theorem frame_portStateUpdate : SelectionFrame domain (portStateUpdate index domain) :=
  frame_of_ports rfl (traceOnly_portStateUpdate domain index) rfl rfl
    (kept_setPort (kept_assignPort _ _ _))

/-- The loop body of `updtStatesTree` may unsynchronize the clock, nothing else. -/
theorem updatePort_cases : updatePort domain index = portStateUpdate index domain ∨
      updatePort domain index = (portStateUpdate index domain).setGmsync .unsync := by
  unfold updatePort
  dsimp only
  split
  · exact Or.inr rfl
  · exact Or.inl rfl

theorem frame_updatePort : SelectionFrame domain (updatePort domain index) := by
  rcases updatePort_cases domain index with same | unsync
  · rw [same]
    exact frame_portStateUpdate domain index
  · rw [unsync]
    exact (frame_portStateUpdate domain index).trans (frame_setGmsync _ _)

theorem updatePort_ports :
    (updatePort domain index).ports = (portStateUpdate index domain).ports := by
  rcases updatePort_cases domain index with same | unsync
  · rw [same]
  · rw [unsync, Domain.setGmsync_ports]

theorem updatePort_bptasg :
    (updatePort domain index).bptasg = (portStateUpdate index domain).bptasg := by
  rcases updatePort_cases domain index with same | unsync
  · rw [same]
  · rw [unsync, Domain.setGmsync_bptasg]

theorem updatePort_pssd : (updatePort domain index).pssd = domain.pssd := by
  rcases updatePort_cases domain index with same | unsync
  · rw [same]
    rfl
  · rw [unsync]
    rfl

private theorem updatePort_ports_same : (updatePort domain index).ports index =
      assignPort domain.bptasg.gmPriority domain.bptasg.masterStepsRemoved (domain.ports index) := by
  rw [updatePort_ports]
  simp [portStateUpdate, Domain.setPort]

private theorem updatePort_ports_other (other : Nat) (distinct : other ≠ index) :
    (updatePort domain index).ports other = domain.ports other := by
  rw [updatePort_ports]
  simp [portStateUpdate, Domain.setPort, distinct]

theorem traceOnly_updatePort : TraceOnly domain.bptasg (updatePort domain index).bptasg := by
  rw [updatePort_bptasg]
  exact traceOnly_portStateUpdate domain index

end UpdatePort

theorem foldl_updatePort_preserves (holds : Domain → Prop)
    (step : ∀ domain index, holds domain → holds (updatePort domain index))
    (indices : List Nat) (domain : Domain) (start : holds domain) :
    holds (indices.foldl updatePort domain) := by
  induction indices generalizing domain with
  | nil => exact start
  | cons index rest ih => exact ih _ (step domain index start)

theorem foldl_updatePort_ports (indices : List Nat) (domain : Domain) (nodup : indices.Nodup)
    (index : Nat) : (indices.foldl updatePort domain).ports index = if index ∈ indices then
        assignPort domain.bptasg.gmPriority domain.bptasg.masterStepsRemoved (domain.ports index)
      else domain.ports index := by
  induction indices generalizing domain with
  | nil => simp
  | cons first rest ih =>
    obtain ⟨fresh, nodup⟩ := List.nodup_cons.mp nodup
    have trace := traceOnly_updatePort domain first
    have gm : (updatePort domain first).bptasg.gmPriority = domain.bptasg.gmPriority := by
      rw [trace.rest]
    have steps : (updatePort domain first).bptasg.masterStepsRemoved =
        domain.bptasg.masterStepsRemoved := by rw [trace.rest]
    rw [List.foldl_cons, ih _ nodup, gm, steps]
    by_cases same : index = first
    · subst same
      simp [fresh, updatePort_ports_same]
    · rw [updatePort_ports_other _ _ _ same]
      simp [same]

section UpdatePortZero

variable (cfg : Config) (domain : Domain)

theorem updatePortZero_cases :
    ∃ port', port' = { domain.ports 0 with selectedState := portZeroState cfg domain } ∧
      (updatePortZero cfg domain = domain.setPort 0 port' ∨
        ∃ status, updatePortZero cfg domain = (domain.setPort 0 port').setGmsync status) := by
  refine ⟨_, rfl, ?_⟩
  unfold updatePortZero
  dsimp only
  split
  · exact Or.inl rfl
  · split
    · split
      · exact Or.inl rfl
      · exact Or.inr ⟨_, rfl⟩
    · exact Or.inr ⟨_, rfl⟩

theorem updatePortZero_ports : (updatePortZero cfg domain).ports =
      (domain.setPort 0 { domain.ports 0 with
        selectedState := portZeroState cfg domain }).ports := by
  obtain ⟨port', rfl, same | ⟨status, same⟩⟩ := updatePortZero_cases cfg domain <;> rw [same]
  rfl

theorem updatePortZero_bptasg : (updatePortZero cfg domain).bptasg = domain.bptasg := by
  obtain ⟨port', rfl, same | ⟨status, same⟩⟩ := updatePortZero_cases cfg domain <;> rw [same] <;> rfl

theorem updatePortZero_pssd : (updatePortZero cfg domain).pssd = domain.pssd := by
  obtain ⟨port', rfl, same | ⟨status, same⟩⟩ := updatePortZero_cases cfg domain <;> rw [same] <;> rfl

theorem frame_updatePortZero : SelectionFrame domain (updatePortZero cfg domain) := by
  have zero : SelectionFrame domain
      (domain.setPort 0 { domain.ports 0 with selectedState := portZeroState cfg domain }) :=
    frame_of_ports rfl (traceOnly_refl _) rfl rfl (kept_setPort (kept_selectedState _ _))
  obtain ⟨port', rfl, same | ⟨status, same⟩⟩ := updatePortZero_cases cfg domain
  · rw [same]
    exact zero
  · rw [same]
    exact zero.trans (frame_setGmsync _ _)

end UpdatePortZero

theorem traceOnly_updatePathTrace (domain : Domain) :
    TraceOnly domain.bptasg (updatePathTrace domain).bptasg := by
  unfold updatePathTrace
  split
  · exact ⟨rfl⟩
  · exact traceOnly_refl _

theorem updatePathTrace_rest (domain : Domain) : (updatePathTrace domain).ports = domain.ports ∧
      (updatePathTrace domain).ptasg = domain.ptasg ∧ (updatePathTrace domain).pssd = domain.pssd ∧
      (updatePathTrace domain).gmsd = domain.gmsd ∧
      (updatePathTrace domain).cmsrecd = domain.cmsrecd := by
  unfold updatePathTrace
  split <;> exact ⟨rfl, rfl, rfl, rfl, rfl⟩

end EnetTsn.Bmcs
