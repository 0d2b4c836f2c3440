import EnetTsn.Bmcs.SelectionMoves

namespace EnetTsn.Bmcs

open EnetTsn.Gptp EnetTsn.Library

namespace StateSelection

/-- The selection waits for a port that asks for it. -/
structure Settled (domain : Domain) : Prop where
  state : domain.pssd.state = .stateSelection
  lastState : domain.pssd.lastState = .stateSelection

def slavePhase (domain : Domain) : Bool :=
  domain.pssd.deferredGmsync && domain.pssd.initSlaveTs != 0

section Deferred

variable (cfg : Config) (cts64 : UInt64) (domain : Domain)

/-- The deferred step may change the status of the clock and end the deferral, or
it ends the initial slave phase with an update of the states. -/
theorem deferredStep_cases : (∃ (status : Option GmsyncStatus) (deferred : Bool),
      deferredStep cfg cts64 domain = ({ status.elim domain domain.setGmsync with
        pssd := { domain.pssd with deferredGmsync := deferred } }, none) ∧
      (deferred = true → domain.pssd.deferredGmsync = true)) ∨
    (slavePhase domain = true ∧ ∃ status : Option GmsyncStatus,
      deferredStep cfg cts64 domain = updtStatesTree cfg
        (clearInitSlave cfg (status.elim domain domain.setGmsync))) := by
  unfold deferredStep
  by_cases deferred : domain.pssd.deferredGmsync = true
  · rw [if_pos deferred]
    have unchanged : (domain, (none : Option ClockIdentity)) =
        ({ (none : Option GmsyncStatus).elim domain domain.setGmsync with
          pssd := { domain.pssd with deferredGmsync := true } }, none) := by
      rw [← deferred]
      rfl
    by_cases phase : domain.pssd.initSlaveTs ≠ 0
    · have slave : procDeferredGmsync cfg cts64 domain = procInitSlave cfg cts64 domain :=
        if_pos phase
      rw [slave]
      rcases procInitSlave_cases cfg cts64 domain with waits | ⟨status, updates⟩
      · rw [waits]
        exact Or.inl ⟨none, true, unchanged, fun _ => deferred⟩
      · refine Or.inr ⟨?_, status, updates⟩
        simp [slavePhase, deferred, phase]
    · left
      unfold procDeferredGmsync
      rw [if_neg phase]
      split
      · exact ⟨none, true, unchanged, fun _ => deferred⟩
      · split
        · split
          · exact ⟨some .syncStable, false, rfl, nofun⟩
          · exact ⟨none, false, rfl, nofun⟩
        · exact ⟨none, true, unchanged, fun _ => deferred⟩
  · rw [if_neg deferred]
    refine Or.inl ⟨none, false, ?_, nofun⟩
    rw [Bool.not_eq_true] at deferred
    rw [← deferred]
    rfl

/-- The variables of the machine and the flags of the ports that the step leaves alone. -/
structure DeferredKept (before after : Domain) : Prop where
  state : after.pssd.state = before.pssd.state
  lastState : after.pssd.lastState = before.pssd.lastState
  systemIdentityChange : after.pssd.systemIdentityChange = before.pssd.systemIdentityChange
  asymmetryMeasurementModeChange :
    after.pssd.asymmetryMeasurementModeChange = before.pssd.asymmetryMeasurementModeChange
  reselect : ∀ index, (after.ports index).reselect = (before.ports index).reselect
  selected : ∀ index, (after.ports index).selected = (before.ports index).selected

theorem updtStatesTree_flags (index : Nat) :
    ((updtStatesTree cfg domain).1.ports index).reselect = (domain.ports index).reselect ∧
      ((updtStatesTree cfg domain).1.ports index).selected = (domain.ports index).selected := by
  rw [updtStatesTree_ports]
  by_cases zero : index = 0
  · subst zero
    exact ⟨rfl, rfl⟩
  · rw [if_neg zero]
    split <;> exact ⟨rfl, rfl⟩

variable (status : Option GmsyncStatus)

theorem ports_optionalGmsync : (status.elim domain domain.setGmsync).ports = domain.ports := by
  cases status <;> rfl

private theorem pssd_optionalGmsync : (status.elim domain domain.setGmsync).pssd = domain.pssd := by
  cases status <;> rfl

theorem kept_deferredStep : DeferredKept domain (deferredStep cfg cts64 domain).1 := by
  rcases deferredStep_cases cfg cts64 domain with ⟨status, deferred, same, _⟩ | ⟨_, status, same⟩
  · rw [same]
    refine ⟨rfl, rfl, rfl, rfl, fun index => ?_, fun index => ?_⟩
    · exact congrArg (fun ports => (ports index).reselect) (ports_optionalGmsync domain status)
    · exact congrArg (fun ports => (ports index).selected) (ports_optionalGmsync domain status)
  · have ports : (clearInitSlave cfg (status.elim domain domain.setGmsync)).ports =
        domain.ports := ports_optionalGmsync domain status
    have pssd : (clearInitSlave cfg (status.elim domain domain.setGmsync)).pssd =
        { domain.pssd with deferredGmsync := false, initSlaveTs := 0 } := by
      rw [clearInitSlave, pssd_optionalGmsync]
    rw [same]
    refine ⟨?_, ?_, ?_, ?_, fun index => ?_, fun index => ?_⟩
    · rw [pssd_updtStatesTree, pssd]
    · rw [pssd_updtStatesTree, pssd]
    · rw [pssd_updtStatesTree, pssd]
    · rw [pssd_updtStatesTree, pssd]
    · rw [(updtStatesTree_flags cfg _ index).1, ports]
    · rw [(updtStatesTree_flags cfg _ index).2, ports]

theorem selectionRequested_congr (kept : DeferredKept before after) :
    selectionRequested after = selectionRequested before := by
  simp only [selectionRequested, anyReselect, kept.systemIdentityChange,
    kept.asymmetryMeasurementModeChange, kept.reselect]

private theorem deferredStep_settles : (deferredStep cfg cts64 domain).1 = domain ∨
      (deferredStep cfg cts64 domain).1.pssd.deferredGmsync = false := by
  unfold deferredStep
  split
  · rcases procDeferredGmsync_cases cfg cts64 domain with slave | waits | ⟨status, ends⟩
    · rw [slave]
      rcases procInitSlave_cases cfg cts64 domain with waits | ⟨status, updates⟩
      · rw [waits]
        exact Or.inl rfl
      · rw [updates, pssd_updtStatesTree]
        exact Or.inr rfl
    · rw [waits]
      exact Or.inl rfl
    · rw [ends]
      exact Or.inr rfl
  · exact Or.inl rfl

theorem deferredStep_over (passed : domain.pssd.deferredGmsync = false) :
    deferredStep cfg cts64 domain = (domain, none) := by
  unfold deferredStep
  rw [passed]
  rfl

private theorem deferredStep_again (silent : (deferredStep cfg cts64 domain).2 = none) :
    (deferredStep cfg cts64 (deferredStep cfg cts64 domain).1).2 = none := by
  rcases deferredStep_settles cfg cts64 domain with same | passed
  · rw [same]
    exact silent
  · rw [deferredStep_over _ _ _ passed]

end Deferred

section Selection

variable (cfg : Config) (cts64 : UInt64) (domain : Domain)

/-- The domain that `state_selection_proc` updates. -/
def cleared : Domain :=
  deferGmsync cfg cts64 (clearReselectTree { domain with pssd := { domain.pssd with
    systemIdentityChange := false, asymmetryMeasurementModeChange := false } })

private theorem stateSelectionProc_eq : stateSelectionProc cfg cts64 domain =
      (setSelectedTree (updtStatesTree cfg (cleared cfg cts64 domain)).1,
        (updtStatesTree cfg (cleared cfg cts64 domain)).2) := rfl

private theorem deferGmsync_pssd :
    (deferGmsync cfg cts64 domain).pssd = { domain.pssd with
      deferredGmsync := (deferGmsync cfg cts64 domain).pssd.deferredGmsync
      initSlaveTs := (deferGmsync cfg cts64 domain).pssd.initSlaveTs } := by
  unfold deferGmsync
  split
  · rfl
  · split
    · rfl
    · split <;> rfl

private theorem deferGmsync_ports : (deferGmsync cfg cts64 domain).ports = domain.ports := by
  unfold deferGmsync
  split
  · rfl
  · split
    · rfl
    · split <;> rfl

theorem stateSelectionProc_pssd :
    (stateSelectionProc cfg cts64 domain).1.pssd = { domain.pssd with
      systemIdentityChange := false
      asymmetryMeasurementModeChange := false
      deferredGmsync := (stateSelectionProc cfg cts64 domain).1.pssd.deferredGmsync
      initSlaveTs := (stateSelectionProc cfg cts64 domain).1.pssd.initSlaveTs } := by
  have updated : (stateSelectionProc cfg cts64 domain).1.pssd = (cleared cfg cts64 domain).pssd :=
    pssd_updtStatesTree cfg (cleared cfg cts64 domain)
  rw [updated]
  exact deferGmsync_pssd cfg cts64 _

theorem stateSelectionProc_flags (inRange : index < absMaxNetdevs) :
    ((stateSelectionProc cfg cts64 domain).1.ports index).selected = true ∧
      ((stateSelectionProc cfg cts64 domain).1.ports index).reselect = false := by
  have ports : (stateSelectionProc cfg cts64 domain).1.ports index =
      { (updtStatesTree cfg (cleared cfg cts64 domain)).1.ports index with selected := true } :=
    if_pos inRange
  have lowered : ((cleared cfg cts64 domain).ports index).reselect = false := by
    rw [cleared, deferGmsync_ports]
    simp [clearReselectTree, inRange]
  rw [ports]
  exact ⟨rfl, (updtStatesTree_flags cfg _ index).1.trans lowered⟩

theorem selectionRequested_stateSelectionProc :
    selectionRequested (stateSelectionProc cfg cts64 domain).1 = false := by
  have none : anyReselect (stateSelectionProc cfg cts64 domain).1 = false := by
    simp only [anyReselect, List.any_eq_false, List.mem_range]
    intro index inRange
    rw [(stateSelectionProc_flags cfg cts64 domain inRange).2]
    exact Bool.false_ne_true
  rw [selectionRequested, none, stateSelectionProc_pssd]
  rfl

private theorem stateSelectionCondition_of_request (request : selectionRequested domain = true) :
    stateSelectionCondition domain = { domain with pssd := { domain.pssd with
      lastState := .reaction, state := .stateSelection } } := if_pos request

theorem stateSelectionCondition_of_none (none : selectionRequested domain = false) :
    stateSelectionCondition domain = domain := by
  unfold stateSelectionCondition
  rw [none]
  rfl

end Selection

section Call

variable {cfg : Config} {cts64 : UInt64} {domain : Domain}

theorem switch_eq_arm (domain : Domain) : (machine cfg cts64).switch domain =
      arm cfg cts64 (domain.pssd.lastState != domain.pssd.state)
        { domain with pssd := { domain.pssd with lastState := domain.pssd.state } } := rfl

theorem arm_stateSelection (stateChange : Bool) (state : domain.pssd.state = .stateSelection) :
    arm cfg cts64 stateChange domain =
      if (deferredStep cfg cts64 domain).2.isSome then deferredStep cfg cts64 domain
      else (stateSelectionCondition
          (selectionStep cfg cts64 stateChange (deferredStep cfg cts64 domain).1).1,
        (selectionStep cfg cts64 stateChange (deferredStep cfg cts64 domain).1).2) := by
  unfold arm
  rw [state]

theorem switch_settled (settled : Settled domain) : (machine cfg cts64).switch domain =
      if (deferredStep cfg cts64 domain).2.isSome then deferredStep cfg cts64 domain
      else (stateSelectionCondition (deferredStep cfg cts64 domain).1, none) := by
  have stored : ({ domain with pssd := { domain.pssd with lastState := domain.pssd.state } } :
      Domain) = domain := by
    rw [settled.state, ← settled.lastState]
  have same : (domain.pssd.lastState != domain.pssd.state) = false := by
    simp [settled.state, settled.lastState]
  rw [switch_eq_arm, stored, same, arm_stateSelection _ settled.state]
  rfl

theorem switch_entering (state : domain.pssd.state = .stateSelection)
    (entering : domain.pssd.lastState ≠ .stateSelection)
    (store : stored = { domain with pssd := { domain.pssd with lastState := .stateSelection } })
    (silent : (deferredStep cfg cts64 stored).2 = none) : (machine cfg cts64).switch domain =
      stateSelectionProc cfg cts64 (deferredStep cfg cts64 stored).1 := by
  have changed : (domain.pssd.lastState != domain.pssd.state) = true := by
    simpa [state] using entering
  have storedState : stored.pssd.state = .stateSelection := by
    rw [store]
    exact state
  have served := selectionRequested_stateSelectionProc cfg cts64 (deferredStep cfg cts64 stored).1
  rw [switch_eq_arm, changed, state, ← store, arm_stateSelection _ storedState, silent]
  simp only [Option.isSome_none, Bool.false_eq_true, if_false, selectionStep, if_true]
  rw [stateSelectionCondition_of_none _ served]

def entering (domain : Domain) : Domain :=
  { domain with pssd := { domain.pssd with lastState := .reaction, state := .stateSelection } }

private theorem stored_entering (settled : Settled domain) :
    domain = { entering domain with
      pssd := { (entering domain).pssd with lastState := .stateSelection } } := by
  obtain ⟨state, lastState⟩ := settled
  rcases domain with ⟨_, _, _, ⟨_, _, _, _, _, _⟩, _, _, _⟩
  cases state
  cases lastState
  rfl

theorem settled_deferredStep (settled : Settled domain) :
    Settled (deferredStep cfg cts64 domain).1 := by
  have kept := kept_deferredStep cfg cts64 domain
  exact ⟨kept.state.trans settled.state, kept.lastState.trans settled.lastState⟩

theorem settled_stateSelectionProc (settled : Settled domain) :
    Settled (stateSelectionProc cfg cts64 domain).1 := by
  constructor
  · rw [stateSelectionProc_pssd]
    exact settled.state
  · rw [stateSelectionProc_pssd]
    exact settled.lastState

theorem run_entering (state : domain.pssd.state = .stateSelection)
    (fresh : domain.pssd.lastState ≠ .stateSelection)
    (store : stored = { domain with pssd := { domain.pssd with lastState := .stateSelection } })
    (silent : (deferredStep cfg cts64 stored).2 = none) :
    (machine cfg cts64).run (fuel + 1) domain =
      some (stateSelectionProc cfg cts64 (deferredStep cfg cts64 stored).1) := by
  have out := switch_entering state fresh store silent
  have settled : Settled stored := by
    rw [store]
    exact ⟨state, rfl⟩
  have after : Settled (stateSelectionProc cfg cts64 (deferredStep cfg cts64 stored).1).1 :=
    settled_stateSelectionProc (settled_deferredStep settled)
  cases result : (stateSelectionProc cfg cts64 (deferredStep cfg cts64 stored).1).2 with
  | some identity =>
    have returns : (machine cfg cts64).switch domain =
        ((stateSelectionProc cfg cts64 (deferredStep cfg cts64 stored).1).1, some identity) := by
      rw [out, ← result]
    rw [(machine cfg cts64).run_of_result returns, ← result]
  | none =>
    have returns : (machine cfg cts64).switch domain =
        ((stateSelectionProc cfg cts64 (deferredStep cfg cts64 stored).1).1, none) := by
      rw [out, ← result]
    rw [(machine cfg cts64).run_of_stable returns (after.lastState.trans after.state.symm),
      ← result]

end Call

end StateSelection

open StateSelection

section Call

variable {cfg : Config} {cts64 : UInt64} {domain : Domain}

structure Running (domain : Domain) : Prop where
  begun : domain.ptasg.BEGIN = false
  enabled : domain.ptasg.instanceEnable = true

section

variable (running : Running domain)
include running

theorem portStateSelectionSm_eq :
    portStateSelectionSm cfg cts64 domain = (StateSelection.machine cfg cts64).run 16 domain := by
  unfold portStateSelectionSm
  have keeps : allstateCondition domain = domain.pssd.state := by
    simp [allstateCondition, running.begun, running.enabled]
  rw [keeps]
  rfl

private theorem portStateSelectionSm_deferred (settled : Settled domain)
    (returns : (deferredStep cfg cts64 domain).2 = some identity) :
    portStateSelectionSm cfg cts64 domain = some (deferredStep cfg cts64 domain) := by
  have out : (StateSelection.machine cfg cts64).switch domain =
      ((deferredStep cfg cts64 domain).1, some identity) := by
    rw [switch_settled settled, if_pos (by rw [returns]; rfl), ← returns]
  rw [portStateSelectionSm_eq running, (StateSelection.machine cfg cts64).run_of_result out,
    ← returns]

theorem portStateSelectionSm_idle (settled : Settled domain)
    (silent : (deferredStep cfg cts64 domain).2 = none) (none : selectionRequested domain = false) :
    portStateSelectionSm cfg cts64 domain = some (deferredStep cfg cts64 domain) := by
  have still : selectionRequested (deferredStep cfg cts64 domain).1 = false := by
    rw [selectionRequested_congr (kept_deferredStep cfg cts64 domain), none]
  have out : (StateSelection.machine cfg cts64).switch domain =
      ((deferredStep cfg cts64 domain).1, Option.none) := by
    rw [switch_settled settled, silent, stateSelectionCondition_of_none _ still]
    rfl
  have after : Settled (deferredStep cfg cts64 domain).1 := settled_deferredStep settled
  rw [portStateSelectionSm_eq running, (StateSelection.machine cfg cts64).run_of_stable out
    (after.lastState.trans after.state.symm), ← silent]

theorem portStateSelectionSm_selects (settled : Settled domain)
    (silent : (deferredStep cfg cts64 domain).2 = none)
    (request : selectionRequested domain = true) :
    portStateSelectionSm cfg cts64 domain = some (stateSelectionProc cfg cts64
      (deferredStep cfg cts64 (deferredStep cfg cts64 domain).1).1) := by
  have still : selectionRequested (deferredStep cfg cts64 domain).1 = true := by
    rw [selectionRequested_congr (kept_deferredStep cfg cts64 domain), request]
  have out : (StateSelection.machine cfg cts64).switch domain =
      (entering (deferredStep cfg cts64 domain).1, none) := by
    rw [switch_settled settled, silent, stateSelectionCondition_of_request _ still]
    rfl
  have after : Settled (deferredStep cfg cts64 domain).1 := settled_deferredStep settled
  have store := stored_entering after
  have fresh : (entering (deferredStep cfg cts64 domain).1).pssd.lastState ≠ .stateSelection :=
    StateSelectionState.noConfusion
  rw [portStateSelectionSm_eq running, (StateSelection.machine cfg cts64).run_of_unstable out fresh]
  exact run_entering rfl fresh store (deferredStep_again cfg cts64 domain silent)

def bridged (domain : Domain) : Domain :=
  { updateStateDisabledTree domain with pssd := { domain.pssd with
      state := .stateSelection, lastState := .stateSelection } }

theorem portStateSelectionSm_first (state : domain.pssd.state = .init)
    (passed : domain.pssd.deferredGmsync = false) (dynamic : cfg.staticSlave < 0) :
    portStateSelectionSm cfg cts64 domain = some (stateSelectionProc cfg cts64 (bridged domain)) := by
  have start : (StateSelection.machine cfg cts64).switch domain =
      ({ domain with pssd := { domain.pssd with state := .initBridge, lastState := .init } },
        none) := by
    rw [switch_eq_arm]
    unfold arm
    rw [state]
    rfl
  let bridge : Domain := { updateStateDisabledTree domain with pssd := { domain.pssd with
    state := .stateSelection, lastState := .initBridge } }
  have passes : (StateSelection.machine cfg cts64).switch
      { domain with pssd := { domain.pssd with state := .initBridge, lastState := .init } } =
        (bridge, none) := by
    have proc : ∀ current, initBridgeProc cfg current = updateStateDisabledTree current :=
      fun current => if_neg (Int.not_le.mpr dynamic)
    have condition : ∀ current, initBridgeCondition cfg current = (current, .stateSelection) :=
      fun current => if_neg (Int.not_le.mpr dynamic)
    rw [switch_eq_arm]
    simp only [arm, proc, condition]
    rfl
  have silent : deferredStep cfg cts64 (bridged domain) = (bridged domain, none) :=
    deferredStep_over cfg cts64 _ passed
  have moved : (StateSelectionState.init : StateSelectionState) ≠ .initBridge := nofun
  have entered : bridge.pssd.lastState ≠ .stateSelection := StateSelectionState.noConfusion
  rw [portStateSelectionSm_eq running,
    (StateSelection.machine cfg cts64).run_of_unstable start moved,
    (StateSelection.machine cfg cts64).run_of_unstable passes entered]
  have selected : (StateSelection.machine cfg cts64).run 14 bridge = some (stateSelectionProc cfg
      cts64 (deferredStep cfg cts64 (bridged domain)).1) :=
    run_entering rfl entered rfl (by rw [silent])
  rw [silent] at selected
  exact selected

end

/-- What a call leaves alone while a static slave port keeps the machine in its
second state. -/
structure StaticKept (before after : Domain) : Prop where
  bppg : ∀ index, (after.ports index).bppg = (before.ports index).bppg
  deferredGmsync : after.pssd.deferredGmsync = before.pssd.deferredGmsync
  state : after.pssd.state = .initBridge
  lastState : after.pssd.lastState = .initBridge

section

variable (static : 0 ≤ cfg.staticSlave)
include static

theorem initBridgeCondition_static (domain : Domain) : ∃ status : Option GmsyncStatus,
      initBridgeCondition cfg domain = (status.elim domain domain.setGmsync, .initBridge) := by
  unfold initBridgeCondition
  rw [if_pos static]
  split
  · exact ⟨none, rfl⟩
  · split
    · split
      · exact ⟨some .sync, rfl⟩
      · exact ⟨none, rfl⟩
    · exact ⟨some .unsync, rfl⟩

private theorem initBridgeProc_static (domain : Domain) :
    (∀ index, ((initBridgeProc cfg domain).ports index).bppg = (domain.ports index).bppg) ∧
      (initBridgeProc cfg domain).pssd = domain.pssd := by
  unfold initBridgeProc
  rw [if_pos static]
  split
  all_goals
    refine ⟨fun index => ?_, rfl⟩
    try rw [Domain.setGmsync_ports]
    dsimp only
    split <;> rfl

theorem switch_static (state : domain.pssd.state = .initBridge) :
    ∃ next, (StateSelection.machine cfg cts64).switch domain = (next, none) ∧
      StaticKept domain next := by
  let stored : Domain := { domain with pssd := { domain.pssd with lastState := .initBridge } }
  have out : ∀ stateChange : Bool, ∃ next, arm cfg cts64 stateChange stored = (next, none) ∧
      StaticKept domain next := by
    intro stateChange
    have storedState : stored.pssd.state = .initBridge := state
    unfold arm
    rw [storedState]
    cases stateChange with
    | false =>
      obtain ⟨status, same⟩ := initBridgeCondition_static static stored
      refine ⟨_, rfl, ?_⟩
      simp only [Bool.false_eq_true, if_false, same]
      cases status <;> exact ⟨fun _ => rfl, rfl, rfl, rfl⟩
    | true =>
      obtain ⟨status, same⟩ := initBridgeCondition_static static (initBridgeProc cfg stored)
      obtain ⟨bppg, pssd⟩ := initBridgeProc_static static stored
      refine ⟨_, rfl, ?_⟩
      simp only [if_true, same]
      cases status
      all_goals
        refine ⟨bppg, ?_, rfl, ?_⟩
        · have deferred : (initBridgeProc cfg stored).pssd.deferredGmsync =
              domain.pssd.deferredGmsync := by rw [pssd]
          exact deferred
        · have last : (initBridgeProc cfg stored).pssd.lastState = .initBridge := by rw [pssd]
          exact last
  rw [switch_eq_arm, state]
  exact out _

end

theorem portStateSelectionSm_static (running : Running domain) (static : 0 ≤ cfg.staticSlave)
    (state : domain.pssd.state = .init ∨ domain.pssd.state = .initBridge) :
    ∃ next, portStateSelectionSm cfg cts64 domain = some (next, none) ∧ StaticKept domain next := by
  rw [portStateSelectionSm_eq running]
  rcases state with start | bridge
  · let started : Domain := { domain with pssd := { domain.pssd with
      state := .initBridge, lastState := .init } }
    have out : (StateSelection.machine cfg cts64).switch domain = (started, none) := by
      rw [switch_eq_arm]
      unfold arm
      rw [start]
      rfl
    have later : ∃ next, (StateSelection.machine cfg cts64).switch started = (next, none) ∧
        StaticKept started next := switch_static static rfl
    obtain ⟨next, rest, kept⟩ := later
    have moved : (StateSelectionState.init : StateSelectionState) ≠ .initBridge := nofun
    rw [(StateSelection.machine cfg cts64).run_of_unstable out moved,
      (StateSelection.machine cfg cts64).run_of_stable rest (kept.lastState.trans kept.state.symm)]
    exact ⟨next, rfl, ⟨kept.bppg, kept.deferredGmsync, kept.state, kept.lastState⟩⟩
  · have later : ∃ next, (StateSelection.machine cfg cts64).switch domain = (next, none) ∧
        StaticKept domain next := switch_static static bridge
    obtain ⟨next, out, kept⟩ := later
    rw [(StateSelection.machine cfg cts64).run_of_stable out (kept.lastState.trans kept.state.symm)]
    exact ⟨next, rfl, kept⟩

/-- An update has dropped the information to pass on of every port that is disabled
or measures its asymmetry. -/
def Assigned (cfg : Config) (domain : Domain) : Prop :=
  ∀ index, 0 < index → index < cfg.maxPorts →
    ((domain.ports index).bppg.infoIs = .disabled ∨
      (domain.ports index).ppg.asymmetryMeasurementMode = true) →
    (domain.ports index).bppg.updtInfo = false

private theorem assignState_silent
    (silent : port.bppg.infoIs = .disabled ∨ port.ppg.asymmetryMeasurementMode = true) :
    (assignState gmPriority steps port).2 = false := by
  unfold assignState
  by_cases disabled : port.bppg.infoIs = .disabled
  · rw [if_pos disabled]
  · have mode := silent.resolve_left disabled
    rw [if_neg disabled, if_pos mode]

theorem assigned_updtStatesTree (cfg : Config) (domain : Domain) :
    Assigned cfg (updtStatesTree cfg domain).1 := by
  intro index positive inRange
  rw [updtStatesTree_ports, if_neg (Nat.ne_of_gt positive), if_pos inRange]
  intro silent
  exact assignState_silent silent

private theorem Assigned.of_ports (assigned : Assigned cfg before) (ports : ∀ index,
    (after.ports index).bppg = (before.ports index).bppg ∧
      (after.ports index).ppg = (before.ports index).ppg) : Assigned cfg after := by
  intro index positive inRange silent
  rw [(ports index).1] at silent ⊢
  rw [(ports index).2] at silent
  exact assigned index positive inRange silent

private theorem assigned_stateSelectionProc (cfg : Config) (cts64 : UInt64) (domain : Domain) :
    Assigned cfg (stateSelectionProc cfg cts64 domain).1 := by
  refine (assigned_updtStatesTree cfg (cleared cfg cts64 domain)).of_ports fun index => ?_
  rw [stateSelectionProc_eq]
  simp only [setSelectedTree]
  split <;> exact ⟨rfl, rfl⟩

inductive SelectionReady (cfg : Config) (domain : Domain) : Prop
  | settled (dynamic : cfg.staticSlave < 0) (settled : Settled domain)
  | first (dynamic : cfg.staticSlave < 0) (state : domain.pssd.state = .init)
      (passed : domain.pssd.deferredGmsync = false)
  | static (static : 0 ≤ cfg.staticSlave)
      (state : domain.pssd.state = .init ∨ domain.pssd.state = .initBridge)
      (passed : domain.pssd.deferredGmsync = false)

/-- What a call does to the flags: a selection, an update at the end of the initial
slave phase, nothing, or nothing beyond the static states. -/
inductive SelectionEffect (cfg : Config) (before after : Domain) : Prop
  | selected
      (request : selectionRequested before = true ∨ before.pssd.state ≠ .stateSelection)
      (settled : Settled after) (served : selectionRequested after = false)
      (flags : ∀ index < absMaxNetdevs, (after.ports index).selected = true)
      (assigned : Assigned cfg after)
  | updated (phase : slavePhase before = true) (passed : slavePhase after = false)
      (settled : Settled after) (kept : DeferredKept before after) (assigned : Assigned cfg after)
  | kept (idle : selectionRequested before = false)
      (phase : slavePhase after = true → slavePhase before = true)
      (settled : Settled after) (kept : DeferredKept before after)
      (ports : after.ports = before.ports)
  | static (kept : StaticKept before after)

/-- Whether a call reaches `state_selection_condition`: there is no static slave
port, and the deferred step does not return. -/
def runsSelection (cfg : Config) (cts64 : UInt64) (domain : Domain) : Bool :=
  decide (cfg.staticSlave < 0) &&
    (domain.pssd.state != .stateSelection || (deferredStep cfg cts64 domain).2.isNone)

theorem effect_stateSelectionProc (cts64 : UInt64)
    (request : selectionRequested domain = true ∨ domain.pssd.state ≠ .stateSelection)
    (settled : Settled current) :
    SelectionEffect cfg domain (stateSelectionProc cfg cts64 current).1 :=
  .selected request (settled_stateSelectionProc settled)
    (selectionRequested_stateSelectionProc cfg cts64 current)
    (fun _ inRange => (stateSelectionProc_flags cfg cts64 current inRange).1)
    (assigned_stateSelectionProc cfg cts64 current)

theorem effect_deferredStep (settled : Settled domain)
    (idle : selectionRequested domain = false ∨ (deferredStep cfg cts64 domain).2 ≠ none) :
    SelectionEffect cfg domain (deferredStep cfg cts64 domain).1 := by
  have after : Settled (deferredStep cfg cts64 domain).1 := settled_deferredStep settled
  have kept := kept_deferredStep cfg cts64 domain
  rcases deferredStep_cases cfg cts64 domain with
    ⟨status, deferred, same, ends⟩ | ⟨phase, status, same⟩
  · refine .kept (idle.resolve_right ?_) ?_ after kept ?_
    · simp [same]
    · rw [same]
      simp only [slavePhase, Bool.and_eq_true]
      exact And.imp_left ends
    · rw [same]
      exact ports_optionalGmsync domain status
  · refine .updated phase ?_ after kept ?_
    · rw [same, slavePhase, pssd_updtStatesTree]
      rfl
    · rw [same]
      exact assigned_updtStatesTree cfg _

theorem portStateSelectionSm_effect (cts64 : UInt64) (running : Running domain)
    (ready : SelectionReady cfg domain) :
    ∃ next result, portStateSelectionSm cfg cts64 domain = some (next, result) ∧
      SelectionReady cfg next ∧ SelectionEffect cfg domain next ∧
      (runsSelection cfg cts64 domain = true → selectionRequested next = false) := by
  cases ready with
  | settled dynamic settled =>
    have deferred : Settled (deferredStep cfg cts64 domain).1 := settled_deferredStep settled
    cases result : (deferredStep cfg cts64 domain).2 with
    | some identity =>
      refine ⟨_, _, portStateSelectionSm_deferred running settled result,
        .settled dynamic deferred, effect_deferredStep settled (Or.inr ?_), fun runs => ?_⟩
      · rw [result]
        nofun
      · simp [runsSelection, settled.state, result] at runs
    | none =>
      cases request : selectionRequested domain with
      | false =>
        have still := selectionRequested_congr (kept_deferredStep cfg cts64 domain)
        exact ⟨_, _, portStateSelectionSm_idle running settled result request,
          .settled dynamic deferred, effect_deferredStep settled (Or.inl request),
          fun _ => still.trans request⟩
      | true =>
        have again : Settled (deferredStep cfg cts64 (deferredStep cfg cts64 domain).1).1 :=
          settled_deferredStep deferred
        exact ⟨_, _, portStateSelectionSm_selects running settled result request,
          .settled dynamic (settled_stateSelectionProc again),
          effect_stateSelectionProc cts64 (Or.inl request) again,
          fun _ => selectionRequested_stateSelectionProc cfg cts64 _⟩
  | first dynamic state passed =>
    have bridge : Settled (bridged domain) := ⟨rfl, rfl⟩
    have outside : domain.pssd.state ≠ .stateSelection := by
      rw [state]
      nofun
    exact ⟨_, _, portStateSelectionSm_first running state passed dynamic,
      .settled dynamic (settled_stateSelectionProc bridge),
      effect_stateSelectionProc cts64 (Or.inr outside) bridge,
      fun _ => selectionRequested_stateSelectionProc cfg cts64 _⟩
  | static static state passed =>
    obtain ⟨next, ran, kept⟩ := portStateSelectionSm_static running static state
    refine ⟨next, none, ran, .static static (Or.inr kept.state) (kept.deferredGmsync.trans passed),
      .static kept, fun runs => ?_⟩
    simp only [runsSelection, Bool.and_eq_true, decide_eq_true_eq] at runs
    exact absurd runs.1 (Int.not_lt.mpr static)

end Call

end EnetTsn.Bmcs
