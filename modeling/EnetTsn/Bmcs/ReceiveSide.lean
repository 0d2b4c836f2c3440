import EnetTsn.Bmcs.Frames
import EnetTsn.Bmcs.SelectionMoves

namespace EnetTsn.Bmcs

open EnetTsn.Gptp EnetTsn.Library

/-- What the receive machine of a port owns. -/
structure ReceiveSide where
  parecd : PortAnnounceReceiveData
  rcvdAnnouncePtr : Bool

namespace Port

def withReceive (side : Option ReceiveSide) (port : Port) : Port :=
  { port with
    parecd := side.elim port.parecd ReceiveSide.parecd
    bppg := { port.bppg with
      rcvdAnnouncePtr := side.elim port.bppg.rcvdAnnouncePtr ReceiveSide.rcvdAnnouncePtr } }

theorem withReceive_none (port : Port) : port.withReceive none = port := rfl

end Port

namespace Domain

def withReceive (sides : Nat → Option ReceiveSide) (domain : Domain) : Domain :=
  { domain with ports := fun index => (domain.ports index).withReceive (sides index) }

theorem withReceive_setPort (sides : Nat → Option ReceiveSide) (domain : Domain) (index : Nat)
    (port : Port) : (domain.withReceive sides).setPort index (port.withReceive (sides index)) =
      (domain.setPort index port).withReceive sides := by
  unfold withReceive setPort
  congr 1
  funext other
  by_cases same : other = index
  · subst same
    simp
  · simp [same]

end Domain

/-- The operation does not read the receive side of any port. -/
def Blind (operation : Domain → Domain) : Prop :=
  ∀ sides domain, operation (domain.withReceive sides) = (operation domain).withReceive sides

def BlindCall (call : Domain → Domain × ρ) : Prop :=
  ∀ sides domain, call (domain.withReceive sides) =
    ((call domain).1.withReceive sides, (call domain).2)

theorem Blind.comp (second : Blind later) (first : Blind operation) :
    Blind fun domain => later (operation domain) := by
  intro sides domain
  dsimp only
  rw [first, second]

theorem BlindCall.comp (call : BlindCall later) (first : Blind operation) :
    BlindCall fun domain => later (operation domain) := by
  intro sides domain
  dsimp only
  rw [first, call]

theorem Blind.ite [DecidablePred test]
    (unseen : ∀ sides domain, test (domain.withReceive sides) ↔ test domain)
    (first : Blind operation) (second : Blind other) :
    Blind fun domain => if test domain then operation domain else other domain := by
  intro sides domain
  dsimp only
  rw [first, second, apply_ite (Domain.withReceive sides)]
  exact if_congr (unseen sides domain) rfl rfl

theorem BlindCall.ite [DecidablePred test]
    (unseen : ∀ sides domain, test (domain.withReceive sides) ↔ test domain)
    (first : BlindCall call) (second : BlindCall other) :
    BlindCall fun domain => if test domain then call domain else other domain := by
  intro sides domain
  by_cases holds : test domain
  · simp only [if_pos holds, if_pos ((unseen sides domain).mpr holds)]
    exact first sides domain
  · simp only [if_neg holds, if_neg (mt (unseen sides domain).mp holds)]
    exact second sides domain

theorem Blind.returning (blind : Blind operation) (result : ρ) :
    BlindCall fun domain => (operation domain, result) := by
  intro sides domain
  dsimp only
  rw [blind]

theorem BlindCall.after (call : BlindCall first) (last : Blind operation) :
    BlindCall fun domain => (operation (first domain).1, (first domain).2) := by
  intro sides domain
  dsimp only
  rw [call, last]

theorem blind_id : Blind fun domain => domain := fun _ _ => rfl

theorem blind_ports (chosen : Nat → Prop) [DecidablePred chosen] (change : Nat → Port → Port)
    (blind : ∀ index side port,
      change index (port.withReceive side) = (change index port).withReceive side) :
    Blind fun domain => { domain with
      ports := fun index =>
        if chosen index then change index (domain.ports index) else domain.ports index } := by
  intro sides domain
  simp only [Domain.withReceive]
  congr 1
  funext index
  by_cases inside : chosen index
  · rw [if_pos inside, if_pos inside, blind]
  · rw [if_neg inside, if_neg inside]

section Selection

private theorem blind_clearReselectTree : Blind clearReselectTree :=
  blind_ports (· < absMaxNetdevs) (fun _ port => { port with reselect := false }) fun _ _ _ => rfl

private theorem blind_setSelectedTree : Blind setSelectedTree :=
  blind_ports (· < absMaxNetdevs) (fun _ port => { port with selected := true }) fun _ _ _ => rfl

theorem blind_setGmsync (status : GmsyncStatus) : Blind fun domain => domain.setGmsync status :=
  fun _ _ => rfl

private theorem blind_updateStateDisabledTree : Blind updateStateDisabledTree := by
  intro sides domain
  have ports := blind_ports (· < absMaxNetdevs)
    (fun _ port => { port with selectedState := .disabledPort }) (fun _ _ _ => rfl) sides domain
  exact congrArg (fun assigned : Domain => { assigned with
    bptasg := (updateStateDisabledTree domain).bptasg }) ports

variable (cfg : Config)

private theorem blind_computePriorities : Blind (computePriorities cfg) := by
  intro sides domain
  have ports := blind_ports (· < cfg.maxPorts)
    (fun _ => setMasterPriority domain.ptasg.thisClock (chooseGm cfg domain).priority)
    (fun _ _ _ => rfl) sides domain
  exact congrArg (fun assigned : Domain => { assigned with
    bptasg := (computePriorities cfg domain).bptasg }) ports

private theorem blind_portStateUpdate (index : Nat) : Blind (portStateUpdate index) := by
  intro sides domain
  have assigned := domain.withReceive_setPort sides index
    (assignPort domain.bptasg.gmPriority domain.bptasg.masterStepsRemoved (domain.ports index))
  exact congrArg (fun assigned : Domain => { assigned with
    bptasg := (portStateUpdate index domain).bptasg }) assigned

private theorem blind_updatePort (index : Nat) : Blind fun domain => updatePort domain index := by
  intro sides domain
  simp only [updatePort]
  rw [blind_portStateUpdate]
  rw [apply_ite (Domain.withReceive sides)]
  rfl

private theorem blind_updatePorts : Blind (updatePorts cfg) := by
  intro sides domain
  exact List.foldl_hom (Domain.withReceive sides) fun current index =>
    blind_updatePort index sides current

private theorem blind_updatePortZero : Blind (updatePortZero cfg) := by
  intro sides domain
  have updated := domain.withReceive_setPort sides 0
    { domain.ports 0 with selectedState := portZeroState cfg domain }
  simp only [updatePortZero]
  rw [apply_ite (Domain.withReceive sides), apply_ite (Domain.withReceive sides),
    apply_ite (Domain.withReceive sides), ← blind_setGmsync, ← blind_setGmsync, ← updated]
  rfl

private theorem blind_updateGmPresent : Blind updateGmPresent := fun _ _ => rfl

private theorem blind_updatePathTrace : Blind updatePathTrace := by
  intro sides domain
  simp only [updatePathTrace]
  rw [apply_ite (Domain.withReceive sides)]
  rfl

theorem blindCall_updtStatesTree : BlindCall (updtStatesTree cfg) := by
  intro sides domain
  simp only [updtStatesTree]
  rw [blind_computePriorities, blind_updatePorts, blind_updateGmPresent, blind_updatePortZero,
    blind_updatePathTrace]
  rfl

open StateSelection

private theorem blind_clearInitSlave : Blind (clearInitSlave cfg) := fun _ _ => rfl

variable (cts64 : UInt64)

private theorem blindCall_procInitSlave : BlindCall (procInitSlave cfg cts64) := by
  have update := (blindCall_updtStatesTree cfg).comp (blind_clearInitSlave cfg)
  have synced := update.comp (blind_setGmsync .syncStable)
  refine .ite (fun _ _ => Iff.rfl) update (.ite (fun _ _ => Iff.rfl) ?_ (blind_id.returning none))
  exact .ite (fun _ _ => Iff.rfl) synced update

private theorem blindCall_procDeferredGmsync : BlindCall (procDeferredGmsync cfg cts64) := by
  refine .ite (fun _ _ => Iff.rfl) (blindCall_procInitSlave cfg cts64)
    (.ite (fun _ _ => Iff.rfl) (blind_id.returning none)
      (.ite (fun _ _ => Iff.rfl) ?_ (blind_id.returning none)))
  have synced : Blind fun domain => if (domain.ports 0).selectedState = .slavePort then
      domain.setGmsync .syncStable else domain :=
    .ite (fun _ _ => Iff.rfl) (blind_setGmsync .syncStable) blind_id
  have cleared : Blind fun domain => { domain with
    pssd := { domain.pssd with deferredGmsync := false } } := fun _ _ => rfl
  exact (cleared.comp synced).returning none

private theorem blind_deferGmsync : Blind (deferGmsync cfg cts64) :=
  .ite (fun _ _ => Iff.rfl) blind_id (.ite (fun _ _ => Iff.rfl) (fun _ _ => rfl)
    (.ite (fun _ _ => Iff.rfl) (fun _ _ => rfl) blind_id))

theorem blind_initBridgeProc : Blind (initBridgeProc cfg) := by
  have assigned : Blind fun domain => { domain with
      ports := fun index =>
        if index < absMaxNetdevs then
          { domain.ports index with
            selectedState := if (index : Int) = cfg.staticSlave then .slavePort else .masterPort }
        else domain.ports index
      ptasg := { domain.ptasg with gmPresent := true } } := by
    intro sides domain
    have ports := blind_ports (· < absMaxNetdevs) (fun index port => { port with
      selectedState := if (index : Int) = cfg.staticSlave then .slavePort else .masterPort })
      (fun _ _ _ => rfl) sides domain
    exact congrArg (fun assigned : Domain => { assigned with
      ptasg := { domain.ptasg with gmPresent := true } }) ports
  have synced : Blind fun domain =>
      if cfg.staticSlave = 0 then domain.setGmsync .syncStable else domain :=
    .ite (fun _ _ => Iff.rfl) (blind_setGmsync .syncStable) blind_id
  exact .ite (fun _ _ => Iff.rfl) (synced.comp assigned) blind_updateStateDisabledTree

private theorem blindCall_initBridgeCondition : BlindCall (initBridgeCondition cfg) := by
  refine .ite (fun _ _ => Iff.rfl) ?_ (blind_id.returning _)
  refine .ite (fun _ _ => Iff.rfl) (blind_id.returning _) ?_
  refine .ite (fun _ _ => Iff.rfl) ?_ ((blind_setGmsync .unsync).returning _)
  exact .ite (fun _ _ => Iff.rfl) ((blind_setGmsync .sync).returning _) (blind_id.returning _)

private theorem blindCall_stateSelectionProc : BlindCall (stateSelectionProc cfg cts64) := by
  have cleared : Blind fun domain => { domain with pssd := { domain.pssd with
    systemIdentityChange := false, asymmetryMeasurementModeChange := false } } := fun _ _ => rfl
  have updated := (blindCall_updtStatesTree cfg).comp
    ((blind_deferGmsync cfg cts64).comp (blind_clearReselectTree.comp cleared))
  exact updated.after blind_setSelectedTree

private theorem blind_stateSelectionCondition : Blind stateSelectionCondition :=
  .ite (fun _ _ => Iff.rfl) (fun _ _ => rfl) blind_id

private theorem blindCall_deferredStep : BlindCall (deferredStep cfg cts64) :=
  .ite (fun _ _ => Iff.rfl) (blindCall_procDeferredGmsync cfg cts64) (blind_id.returning none)

private theorem blindCall_selectionStep (stateChange : Bool) :
    BlindCall (selectionStep cfg cts64 stateChange) :=
  .ite (fun _ _ => Iff.rfl) (blindCall_stateSelectionProc cfg cts64) (blind_id.returning none)

theorem blindCall_selectionArm (stateChange : Bool) : BlindCall (arm cfg cts64 stateChange) := by
  intro sides domain
  have state : (domain.withReceive sides).pssd.state = domain.pssd.state := rfl
  unfold arm
  rw [state]
  cases domain.pssd.state with
  | init | reaction => rfl
  | initBridge =>
    have bridged : Blind fun domain =>
        if stateChange then initBridgeProc cfg domain else domain :=
      .ite (fun _ _ => Iff.rfl) (blind_initBridgeProc cfg) blind_id
    have entered := (blindCall_initBridgeCondition cfg).comp bridged sides domain
    dsimp only at entered ⊢
    rw [entered]
    rfl
  | stateSelection =>
    dsimp only
    rw [blindCall_deferredStep]
    by_cases changed : (deferredStep cfg cts64 domain).2.isSome = true
    · rw [if_pos changed, if_pos changed]
    · rw [if_neg changed, if_neg changed, blindCall_selectionStep, blind_stateSelectionCondition]

theorem withReceive_portStateSelectionSm (sides : Nat → Option ReceiveSide) (domain : Domain) :
    portStateSelectionSm cfg cts64 (domain.withReceive sides) =
      (portStateSelectionSm cfg cts64 domain).map fun out => (out.1.withReceive sides, out.2) := by
  refine (machine cfg cts64).run_map (Domain.withReceive sides) (fun _ => rfl) (fun _ => rfl) ?_ 16
    (moveTo (allstateCondition domain) domain)
  intro current
  exact blindCall_selectionArm cfg cts64 (current.pssd.lastState != current.pssd.state) sides
    { current with pssd := { current.pssd with lastState := current.pssd.state } }

end Selection

section Clock

def BlindStep (step : Domain → Option Domain) : Prop :=
  ∀ sides domain, step (domain.withReceive sides) =
    (step domain).map (Domain.withReceive sides)

private theorem blind_gmStableProc (state : GmStableState) : Blind (GmStable.proc state) := by
  cases state with
  | init | gmLost | gmStable | reaction => exact fun _ _ => rfl
  | initialise =>
    have cleared : Blind fun domain => { domain with
      ptasg := { domain.ptasg with gmStableInitdone := false } } := fun _ _ => rfl
    have status : Blind fun domain => if (domain.ports 0).selectedState ≠ .slavePort then
        domain.setGmsync .unsync else domain.setGmsync .syncStable :=
      .ite (fun _ _ => Iff.rfl) (blind_setGmsync .unsync) (blind_setGmsync .syncStable)
    exact status.comp cleared
  | gmUnstable => exact .ite (fun _ _ => Iff.rfl) (blind_setGmsync .sync) blind_id

theorem blindStep_gmStableSm : BlindStep gmStableSm := by
  intro sides domain
  have run := GmStable.table.run_map_data (ρ := Unit) (Domain.withReceive sides) (fun _ => rfl)
    (fun _ => rfl) (fun _ _ => rfl) (fun _ _ => rfl)
    (fun state current => blind_gmStableProc state sides current)
    (fun state _ => by cases state <;> rfl) 32
    (GmStable.moveTo (GmStable.allstateCondition domain) domain)
  unfold gmStableSm
  rw [Option.map_map]
  exact (congrArg (Option.map (·.1)) run).trans (Option.map_map _ _ _)

theorem blindStep_gmStableGmChange (clockIdentity : ClockIdentity) :
    BlindStep (gmStableGmChange clockIdentity) := by
  intro sides domain
  have gmsd : (domain.withReceive sides).gmsd = domain.gmsd := rfl
  unfold gmStableGmChange
  rw [gmsd]
  by_cases known : domain.gmsd.clockIdentity = clockIdentity
  · rw [if_pos known, if_pos known]
    rfl
  · rw [if_neg known, if_neg known]
    exact blindStep_gmStableSm sides { domain with gmsd := { domain.gmsd with
      clockIdentity := clockIdentity, gmChange := true } }

theorem blind_clockMasterProc (cfg : Config) (state : ClockMasterSyncReceiveState) :
    Blind (ClockMasterSyncReceive.proc cfg state) := by
  cases state with
  | init | initializing | waiting | reaction => exact fun _ _ => rfl
  | receiveSourceTime =>
    have cleared : Blind fun domain => { domain with cmsrecd := { domain.cmsrecd with
      rcvdClockSourceReq := false, rcvdLocalClockTick := false } } := fun _ _ => rfl
    have counted : Blind fun domain => { domain with cmsrecd := { domain.cmsrecd with
      rcvdClockSourceReq := false, rcvdLocalClockTick := false
      computations := domain.cmsrecd.computations + 1 } } := fun _ _ => rfl
    refine .ite (fun _ _ => Iff.rfl) (.ite (fun _ _ => Iff.rfl) ?_ ?_) cleared
    · exact (blind_setGmsync .sync).comp counted
    · exact .ite (fun _ _ => Iff.rfl) ((blind_setGmsync .syncStable).comp counted) counted

theorem blindStep_clockSourceReq (cfg : Config) :
    BlindStep (clockMasterSyncReceiveSmClockSourceReq cfg) := by
  intro sides domain
  let requested : Domain := { domain with cmsrecd := { domain.cmsrecd with
    rcvdClockSourceReq := true, lastState := .reaction } }
  have run := (ClockMasterSyncReceive.table cfg).run_map_data (ρ := Unit)
    (Domain.withReceive sides) (fun _ => rfl) (fun _ => rfl) (fun _ _ => rfl) (fun _ _ => rfl)
    (fun state current => blind_clockMasterProc cfg state sides current)
    (fun state _ => by cases state <;> rfl) 16
    (ClockMasterSyncReceive.moveTo (ClockMasterSyncReceive.allstateCondition requested) requested)
  unfold clockMasterSyncReceiveSmClockSourceReq clockMasterSyncReceiveSm
  rw [Option.map_map]
  exact (congrArg (Option.map (·.1)) run).trans (Option.map_map _ _ _)

end Clock

section Ports

def BlindPort (call : Port → Option Port) : Prop :=
  ∀ side port, call (port.withReceive side) = (call port).map (Port.withReceive side)

theorem withReceive_onPort {domain : Domain} {call : Port → Option Port}
    (blind : call ((domain.ports index).withReceive (sides index)) =
      (call (domain.ports index)).map (Port.withReceive (sides index))) :
    (domain.withReceive sides).onPort index call =
      (domain.onPort index call).map (Domain.withReceive sides) := by
  have called : (domain.withReceive sides).onPort index call =
      (call ((domain.ports index).withReceive (sides index))).map
        ((domain.withReceive sides).setPort index) := rfl
  rw [called, blind, Domain.onPort, Option.map_map, Option.map_map]
  congr 1
  funext port
  exact domain.withReceive_setPort sides index port

structure BlindSetting (setting : IntervalSetting) : Prop where
  vars : ∀ side port, setting.vars (port.withReceive side) = setting.vars port
  data : ∀ side port, setting.data (port.withReceive side) = setting.data port
  store : ∀ side vars port, setting.store vars (port.withReceive side) =
    (setting.store vars port).withReceive side
  setData : ∀ side data port, setting.setData data (port.withReceive side) =
    (setting.setData data port).withReceive side

namespace BlindSetting

variable {setting : IntervalSetting} (blind : BlindSetting setting)
include blind

theorem enabled (side : Option ReceiveSide) (port : Port) :
    setting.enabled (port.withReceive side) = setting.enabled port := by
  unfold IntervalSetting.enabled
  rw [blind.vars]
  rfl

theorem moveTo (side : Option ReceiveSide) (state : IntervalSettingState) (port : Port) :
    setting.moveTo state (port.withReceive side) =
      (setting.moveTo state port).withReceive side := by
  unfold IntervalSetting.moveTo
  rw [blind.data, blind.setData]

theorem remember (side : Option ReceiveSide) (state : IntervalSettingState) (port : Port) :
    setting.remember state (port.withReceive side) =
      (setting.remember state port).withReceive side := by
  unfold IntervalSetting.remember
  rw [blind.data, blind.setData]

theorem clearRequest (side : Option ReceiveSide) (port : Port) :
    setting.clearRequest (port.withReceive side) =
      (setting.clearRequest port).withReceive side := by
  unfold IntervalSetting.clearRequest
  rw [blind.data, blind.setData]

theorem proc (side : Option ReceiveSide) (state : IntervalSettingState) (port : Port) :
    setting.proc state (port.withReceive side) = (setting.proc state port).withReceive side := by
  cases state with
  | init | reaction => rfl
  | notEnabled =>
    simp only [IntervalSetting.proc]
    rw [blind.vars, blind.store]
  | initialise =>
    simp only [IntervalSetting.proc]
    rw [blind.vars, blind.store, blind.clearRequest]
  | setIntervals =>
    simp only [IntervalSetting.proc]
    rw [blind.vars, blind.data, blind.store, blind.clearRequest]

theorem condition (side : Option ReceiveSide) (state : IntervalSettingState) (port : Port) :
    setting.condition state (port.withReceive side) = setting.condition state port := by
  cases state with
  | init | reaction => rfl
  | notEnabled =>
    simp only [IntervalSetting.condition]
    rw [blind.enabled]
  | initialise | setIntervals =>
    simp only [IntervalSetting.condition]
    rw [blind.data]

variable (ptasg : PerTimeAwareSystemGlobal)

theorem run : BlindPort (setting.run ptasg) := by
  intro side port
  have ran := setting.table.run_map_data (ρ := Unit) (Port.withReceive side)
    (fun current => congrArg IntervalSettingData.state (blind.data side current))
    (fun current => congrArg IntervalSettingData.lastState (blind.data side current))
    (blind.moveTo side) (blind.remember side) (blind.proc side) (blind.condition side) 16
    (setting.moveTo (setting.allstateCondition ptasg port) port)
  have condition : setting.allstateCondition ptasg (port.withReceive side) =
      setting.allstateCondition ptasg port := by
    unfold IntervalSetting.allstateCondition
    rw [blind.enabled, blind.data]
  unfold IntervalSetting.run
  rw [condition, blind.moveTo, Option.map_map]
  exact (congrArg (Option.map (·.1)) ran).trans (Option.map_map _ _ _)

theorem call (request : Option Int8) : BlindPort (setting.call ptasg request) := by
  cases request with
  | none => exact blind.run ptasg
  | some requested =>
    intro side port
    simp only [IntervalSetting.call, IntervalSetting.recvSignaling]
    rw [blind.data, blind.setData, blind.run ptasg]

end BlindSetting

theorem blindSetting_announce : BlindSetting announceIntervalSetting :=
  ⟨fun _ _ => rfl, fun _ _ => rfl, fun _ _ _ => rfl, fun _ _ _ => rfl⟩

theorem blindSetting_gptpCapable : BlindSetting gptpCapableIntervalSetting :=
  ⟨fun _ _ => rfl, fun _ _ => rfl, fun _ _ _ => rfl, fun _ _ _ => rfl⟩

open AnnounceTransmit in
theorem withReceive_nextInterval (side : Option ReceiveSide) (port : Port) :
    nextInterval (port.withReceive side) = (nextInterval port).withReceive side := by
  unfold nextInterval
  rw [apply_ite (Port.withReceive side), apply_ite (Port.withReceive side)]
  rfl

variable (view : InstanceView) (cts64 : UInt64)

open AnnounceTransmit in
theorem withReceive_transmitArm (stateChange : Bool) (side : Option ReceiveSide) (port : Port) :
    arm view cts64 stateChange (port.withReceive side) =
      ((arm view cts64 stateChange port).1.withReceive side, (arm view cts64 stateChange port).2) := by
  have state : (port.withReceive side).patransd.state = port.patransd.state := rfl
  unfold arm
  rw [state]
  cases port.patransd.state with
  | init | reaction => rfl
  | transmitInit | transmitPeriodic | idle => cases stateChange <;> rfl
  | transmitAnnounce =>
    cases stateChange with
    | false => rfl
    | true =>
      have sent : transmitAnnounceProc view (port.withReceive side) =
          (transmitAnnounceProc view port).withReceive side :=
        withReceive_nextInterval side { port with
          bppg := { port.bppg with newInfo := false }
          patransd := { port.patransd with announceTx := txAnnounce view port } }
      rw [if_pos rfl, if_pos rfl, sent]
      rfl

open AnnounceTransmit in
theorem blindPort_portAnnounceTransmitSm (fuel : Nat) :
    BlindPort fun port => (portAnnounceTransmitSm view cts64 fuel port).map (·.1) := by
  intro side port
  have ran := (machine view cts64).run_map (Port.withReceive side) (fun _ => rfl) (fun _ => rfl)
    (fun current => withReceive_transmitArm view cts64
      (current.patransd.lastState != current.patransd.state) side
      { current with patransd := { current.patransd with lastState := current.patransd.state } })
    fuel (moveTo (allstateCondition view port) port)
  rw [Option.map_map]
  exact (congrArg (Option.map (·.1)) ran).trans (Option.map_map _ _ _)

end Ports

section Information

open AnnounceInformation

def heeds : AnnounceInformationState → Bool
  | .receive | .superiorMasterPort | .repeatedMasterPort | .inferiorMasterOrOtherPort => true
  | .init | .disabled | .aged | .update | .current | .reaction => false

/-- Nothing received waits at the port. -/
structure Quiet (s : AnnounceInformationState) (port : Port) : Prop where
  rcvdMsg : port.bppg.rcvdMsg = false
  idle : heeds s = false

theorem ignores_quiet (view : InstanceView) (cts64 : UInt64) : (table view cts64).Ignores Quiet :=
  ⟨fun _ _ _ quiet => ⟨quiet.rcvdMsg, quiet.idle⟩, fun _ _ _ quiet => ⟨quiet.rcvdMsg, quiet.idle⟩⟩

theorem Quiet.proc (view : InstanceView) (cts64 : UInt64) (quiet : Quiet s port) :
    Quiet s (proc view cts64 s port) := by
  refine ⟨?_, quiet.idle⟩
  cases s with
  | disabled => rfl
  | init | aged | update | current | reaction => exact quiet.rcvdMsg
  | receive | superiorMasterPort | repeatedMasterPort | inferiorMasterOrOtherPort =>
    exact absurd quiet.idle nofun

theorem Quiet.condition (view : InstanceView) (cts64 : UInt64) (same : port.painfd.state = s)
    (quiet : Quiet s port) : Quiet (condition view cts64 s port) port := by
  refine ⟨quiet.rcvdMsg, ?_⟩
  cases s with
  | init | update | reaction => rfl
  | disabled =>
    simp only [AnnounceInformation.condition, disabledCondition, quiet.rcvdMsg, same]
    split <;> rfl
  | aged =>
    simp only [AnnounceInformation.condition, agedCondition]
    split <;> rfl
  | current =>
    simp only [AnnounceInformation.condition]
    rcases currentCondition_cases view cts64 port with
      ⟨next, _⟩ | ⟨next, _⟩ | ⟨_, received, _⟩ | ⟨next, _⟩
    · rw [next]
      rfl
    · rw [next]
      rfl
    · rw [quiet.rcvdMsg] at received
      cases received
    · rw [next]
      rfl
  | receive | superiorMasterPort | repeatedMasterPort | inferiorMasterOrOtherPort =>
    cases quiet.idle

/-- The next call of the machine uses no Announce: none waits, or the port is about to
be disabled. -/
def Unheeding (view : InstanceView) (port : Port) : Prop :=
  Quiet port.painfd.state port ∨
    (allstateCondition view port = .disabled ∧ port.painfd.lastState ≠ .disabled)

def Entering (s : AnnounceInformationState) (port : Port) : Prop := s = .disabled ∨ Quiet s port

theorem ignores_entering (view : InstanceView) (cts64 : UInt64) :
    (table view cts64).Ignores Entering :=
  ⟨fun _ _ _ entering => entering.imp_right fun quiet => ⟨quiet.rcvdMsg, quiet.idle⟩,
    fun _ _ _ entering => entering.imp_right fun quiet => ⟨quiet.rcvdMsg, quiet.idle⟩⟩

theorem Entering.idle (entering : Entering s port) : heeds s = false := by
  rcases entering with rfl | quiet
  · rfl
  · exact quiet.idle

theorem Entering.proc (view : InstanceView) (cts64 : UInt64) (entering : Entering s port) :
    Quiet s (AnnounceInformation.proc view cts64 s port) := by
  rcases entering with rfl | quiet
  · exact ⟨rfl, rfl⟩
  · exact quiet.proc view cts64

namespace Unheeding

variable {view : InstanceView} {port : Port} (unheeding : Unheeding view port)
include unheeding

theorem entering : Entering (allstateCondition view port) port := by
  rcases unheeding with quiet | ⟨disabled, _⟩
  · rcases allstateCondition_cases view port with disabled | same
    · exact Or.inl disabled
    · rw [same]
      exact Or.inr quiet
  · exact Or.inl disabled

theorem stayed (same : port.painfd.lastState = allstateCondition view port) :
    Quiet (allstateCondition view port) port := by
  rcases unheeding with quiet | ⟨disabled, fresh⟩
  · refine ⟨quiet.rcvdMsg, ?_⟩
    rcases allstateCondition_cases view port with disabled | same
    · rw [disabled]
      rfl
    · rw [same]
      exact quiet.idle
  · rw [disabled] at same
    exact absurd same fresh

theorem quiet (finished : portAnnounceInformationSm view cts64 port = some next) :
    Quiet next.painfd.state next := by
  obtain ⟨⟨final, result⟩, ran, rfl⟩ := Option.map_eq_some_iff.mp finished
  exact ((table view cts64).run_phases Entering Quiet (ignores_entering view cts64)
    (ignores_quiet view cts64) (fun _ _ _ entering => entering.proc view cts64)
    (fun _ _ same quiet _ => Or.inr (quiet.condition view cts64 same))
    (fun _ => (ignores_entering view cts64).moveTo _ _ _ unheeding.entering)
    (fun same => (ignores_quiet view cts64).moveTo _ _ _ (unheeding.stayed same)) ran).2

end Unheeding

private theorem withReceive_informationProc (view : InstanceView) (cts64 : UInt64)
    (side : Option ReceiveSide) (port : Port) (idle : heeds s = false) :
    proc view cts64 s (port.withReceive side) = (proc view cts64 s port).withReceive side := by
  cases s with
  | init | disabled | aged | update | current | reaction => rfl
  | receive | superiorMasterPort | repeatedMasterPort | inferiorMasterOrOtherPort =>
    exact absurd idle nofun

theorem Unheeding.withReceive (unheeding : Unheeding view port) (cts64 : UInt64)
    (side : Option ReceiveSide) : portAnnounceInformationSm view cts64 (port.withReceive side) =
      (portAnnounceInformationSm view cts64 port).map (Port.withReceive side) := by
  have ran := (table view cts64).run_map (ρ := Unit) (Port.withReceive side) Entering Quiet
    (ignores_entering view cts64) (ignores_quiet view cts64)
    (fun _ _ _ entering => entering.proc view cts64)
    (fun _ _ same quiet _ => Or.inr (quiet.condition view cts64 same)) (fun _ => rfl)
    (fun _ => rfl) (fun _ _ => rfl) (fun _ _ => rfl)
    (fun _ port _ entering => withReceive_informationProc view cts64 side port entering.idle)
    (fun s _ _ _ => by cases s <;> rfl)
    (fun _ => (ignores_entering view cts64).moveTo _ (allstateCondition view port) _
      unheeding.entering)
    (fun same => (ignores_quiet view cts64).moveTo _ (allstateCondition view port) _
      (unheeding.stayed same)) 128
  unfold portAnnounceInformationSm
  rw [Option.map_map]
  exact (congrArg (Option.map (·.1)) ran).trans (Option.map_map _ _ _)

end Information

end EnetTsn.Bmcs
