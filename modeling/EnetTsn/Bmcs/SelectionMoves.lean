import EnetTsn.Bmcs.SelectionResult
import Mathlib.Logic.Relation

namespace EnetTsn.Bmcs

open EnetTsn.Gptp EnetTsn.Library StateSelection

inductive SelectionMove (cfg : Config) : Domain → Domain → Prop
  | pssd (data : PortStateSelectionData) : SelectionMove cfg domain { domain with pssd := data }
  | gmsync (status : GmsyncStatus) : SelectionMove cfg domain (domain.setGmsync status)
  | initialSlave : SelectionMove cfg domain (setPriority1 254 domain)
  | configured : SelectionMove cfg domain (setPriority1 cfg.priority1 domain)
  | clearReselect : SelectionMove cfg domain (clearReselectTree domain)
  | setSelected : SelectionMove cfg domain (setSelectedTree domain)
  | initBridge : SelectionMove cfg domain (initBridgeProc cfg domain)
  | update : SelectionMove cfg domain (updtStatesTree cfg domain).1

def Selecting (cfg : Config) : Domain → Domain → Prop := Relation.ReflTransGen (SelectionMove cfg)

theorem Selecting.refl : Selecting cfg domain domain := Relation.ReflTransGen.refl

theorem Selecting.trans (first : Selecting cfg before middle)
    (second : Selecting cfg middle after) : Selecting cfg before after :=
  Relation.ReflTransGen.trans first second

theorem SelectionMove.selecting (move : SelectionMove cfg before after) :
    Selecting cfg before after := Relation.ReflTransGen.single move

theorem Selecting.preserves (holds : Domain → Prop)
    (kept : ∀ before after, SelectionMove cfg before after → holds before → holds after)
    (selecting : Selecting cfg before after) (start : holds before) : holds after := by
  induction selecting with
  | refl => exact start
  | tail _ move ih => exact kept _ _ move ih

section Moves

variable (cfg : Config) (cts64 : UInt64) (domain : Domain)

private theorem selecting_clearInitSlave : Selecting cfg domain (clearInitSlave cfg domain) :=
  SelectionMove.configured.selecting.trans (SelectionMove.pssd _).selecting

/-- `proc_init_slave` waits, or updates the states in a state it has moved to. -/
theorem procInitSlave_cases : procInitSlave cfg cts64 domain = (domain, none) ∨
      ∃ status : Option GmsyncStatus, procInitSlave cfg cts64 domain = updtStatesTree cfg
        (clearInitSlave cfg (status.elim domain domain.setGmsync)) := by
  unfold procInitSlave
  split
  · exact Or.inr ⟨none, rfl⟩
  · split
    · split
      · exact Or.inr ⟨some .syncStable, rfl⟩
      · exact Or.inr ⟨none, rfl⟩
    · exact Or.inl rfl

theorem selecting_optionalGmsync (status : Option GmsyncStatus) :
    Selecting cfg domain (status.elim domain domain.setGmsync) := by
  cases status with
  | none => exact .refl
  | some status => exact (SelectionMove.gmsync status).selecting

private theorem selecting_procInitSlave : Selecting cfg domain (procInitSlave cfg cts64 domain).1 := by
  rcases procInitSlave_cases cfg cts64 domain with waits | ⟨status, updates⟩
  · rw [waits]
    exact .refl
  · rw [updates]
    exact ((selecting_optionalGmsync cfg domain status).trans
      (selecting_clearInitSlave cfg _)).trans SelectionMove.update.selecting

/-- `proc_deferred_gmsync` returns a pointer only from `proc_init_slave`. -/
theorem procDeferredGmsync_cases :
    procDeferredGmsync cfg cts64 domain = procInitSlave cfg cts64 domain ∨
      procDeferredGmsync cfg cts64 domain = (domain, none) ∨
      ∃ status : Option GmsyncStatus, procDeferredGmsync cfg cts64 domain =
        ({ status.elim domain domain.setGmsync with
            pssd := { domain.pssd with deferredGmsync := false } }, none) := by
  unfold procDeferredGmsync
  by_cases slavePhase : domain.pssd.initSlaveTs ≠ 0
  · exact Or.inl (if_pos slavePhase)
  · rw [if_neg slavePhase]
    right
    split
    · exact Or.inl rfl
    · split
      · right
        by_cases slave : (domain.ports 0).selectedState = .slavePort
        · exact ⟨some .syncStable, by simp [slave]⟩
        · exact ⟨none, by simp [slave]⟩
      · exact Or.inl rfl

private theorem selecting_procDeferredGmsync :
    Selecting cfg domain (procDeferredGmsync cfg cts64 domain).1 := by
  rcases procDeferredGmsync_cases cfg cts64 domain with same | waits | ⟨status, synced⟩
  · rw [same]
    exact selecting_procInitSlave cfg cts64 domain
  · rw [waits]
    exact .refl
  · rw [synced]
    exact (selecting_optionalGmsync cfg domain status).trans (SelectionMove.pssd _).selecting

private theorem selecting_deferGmsync : Selecting cfg domain (deferGmsync cfg cts64 domain) := by
  unfold deferGmsync
  split
  · exact .refl
  · split
    · exact (SelectionMove.pssd _).selecting
    · split
      · exact SelectionMove.initialSlave.selecting.trans (SelectionMove.pssd _).selecting
      · exact .refl

private theorem selecting_stateSelectionProc :
    Selecting cfg domain (stateSelectionProc cfg cts64 domain).1 := by
  have cleared := (SelectionMove.pssd { domain.pssd with
    systemIdentityChange := false, asymmetryMeasurementModeChange := false }
    : SelectionMove cfg domain _).selecting.trans SelectionMove.clearReselect.selecting
  exact ((cleared.trans (selecting_deferGmsync cfg cts64 _)).trans
    SelectionMove.update.selecting).trans SelectionMove.setSelected.selecting

private theorem selecting_stateSelectionCondition :
    Selecting cfg domain (stateSelectionCondition domain) := by
  unfold stateSelectionCondition
  split
  · exact (SelectionMove.pssd _).selecting
  · exact .refl

private theorem selecting_initBridgeCondition : Selecting cfg domain (initBridgeCondition cfg domain).1 := by
  unfold initBridgeCondition
  split
  · split
    · exact .refl
    · split
      · split
        · exact (SelectionMove.gmsync _).selecting
        · exact .refl
      · exact (SelectionMove.gmsync _).selecting
  · exact .refl

private theorem selecting_deferredStep : Selecting cfg domain (deferredStep cfg cts64 domain).1 := by
  unfold deferredStep
  split
  · exact selecting_procDeferredGmsync cfg cts64 domain
  · exact .refl

private theorem selecting_selectionStep (stateChange : Bool) :
    Selecting cfg domain (selectionStep cfg cts64 stateChange domain).1 := by
  unfold selectionStep
  split
  · exact selecting_stateSelectionProc cfg cts64 domain
  · exact .refl

private theorem selecting_arm (stateChange : Bool) :
    Selecting cfg domain (arm cfg cts64 stateChange domain).1 := by
  unfold arm
  split
  · exact (SelectionMove.pssd _).selecting
  · refine Selecting.trans ?_ (SelectionMove.pssd _).selecting
    refine Selecting.trans ?_ (selecting_initBridgeCondition cfg _)
    split
    · exact SelectionMove.initBridge.selecting
    · exact .refl
  · have deferred := selecting_deferredStep cfg cts64 domain
    dsimp only
    split
    · exact deferred
    · exact (deferred.trans (selecting_selectionStep cfg cts64 _ stateChange)).trans
        (selecting_stateSelectionCondition cfg _)
  · exact .refl

private theorem selecting_switch :
    Selecting cfg domain ((StateSelection.machine cfg cts64).switch domain).1 :=
  (SelectionMove.pssd _).selecting.trans (selecting_arm cfg cts64 _ _)

end Moves

theorem selecting_portStateSelectionSm
    (finished : portStateSelectionSm cfg cts64 domain = some (next, result)) :
    Selecting cfg domain next := by
  refine (StateSelection.machine cfg cts64).run_preserves (Selecting cfg domain) ?_ ?_ finished
  · intro current reached
    exact reached.trans (selecting_switch cfg cts64 current)
  · exact (SelectionMove.pssd _).selecting

section Frame

variable {cfg : Config} {before after : Domain}

theorem frame_initBridgeProc (cfg : Config) (domain : Domain) :
    SelectionFrame domain (initBridgeProc cfg domain) := by
  unfold initBridgeProc
  split
  · have assigned : SelectionFrame domain { domain with
        ports := fun index =>
          if index < absMaxNetdevs then
            { domain.ports index with
              selectedState := if (index : Int) = cfg.staticSlave then .slavePort else .masterPort }
          else domain.ports index
        ptasg := { domain.ptasg with gmPresent := true } } := by
      refine ⟨⟨rfl, rfl, rfl, rfl, rfl, rfl, rfl, rfl, rfl, rfl, rfl⟩, fun index => ?_⟩
      dsimp only
      split
      · exact kept_selectedState _ _
      · exact .refl _
    split
    · exact assigned.trans (frame_setGmsync _ _)
    · exact assigned
  · refine ⟨⟨rfl, rfl, rfl, rfl, rfl, rfl, rfl, rfl, rfl, rfl, rfl⟩, fun index => ?_⟩
    simp only [updateStateDisabledTree]
    split
    · exact kept_selectedState _ _
    · exact .refl _

theorem SelectionMove.frame (move : SelectionMove cfg before after) :
    SelectionFrame before after := by
  cases move with
  | pssd data => exact frame_pssd before data
  | gmsync status => exact frame_setGmsync before status
  | initialSlave | configured =>
    exact ⟨⟨rfl, rfl, rfl, rfl, rfl, rfl, rfl, rfl, rfl, rfl, rfl⟩, fun _ => .refl _⟩
  | clearReselect =>
    refine ⟨⟨rfl, rfl, rfl, rfl, rfl, rfl, rfl, rfl, rfl, rfl, rfl⟩, fun index => ?_⟩
    simp only [clearReselectTree]
    split
    · exact ⟨rfl, rfl, rfl, rfl, rfl, rfl, rfl, rfl, rfl⟩
    · exact .refl _
  | setSelected =>
    refine ⟨⟨rfl, rfl, rfl, rfl, rfl, rfl, rfl, rfl, rfl, rfl, rfl⟩, fun index => ?_⟩
    simp only [setSelectedTree]
    split
    · exact ⟨rfl, rfl, rfl, rfl, rfl, rfl, rfl, rfl, rfl⟩
    · exact .refl _
  | initBridge => exact frame_initBridgeProc cfg before
  | update => exact frame_updtStatesTree cfg before

theorem Selecting.frame (selecting : Selecting cfg before after) : SelectionFrame before after :=
  selecting.preserves (SelectionFrame before) (fun _ _ move frame => frame.trans move.frame)
    (.refl before)

variable (move : SelectionMove cfg before after)
include move

/-- Only the update of the states writes `bppg`, and it signs `masterPriority`
with this clock. -/
theorem SelectionMove.bppg (inRange : index < cfg.maxPorts) :
    (after.ports index).bppg = (before.ports index).bppg ∨
      (after.ports index).bppg.masterPriority.sourcePortIdentity.clockIdentity =
        before.ptasg.thisClock := by
  cases move with
  | pssd data => exact Or.inl rfl
  | gmsync status | initialSlave | configured => exact Or.inl rfl
  | clearReselect =>
    left
    simp only [clearReselectTree]
    split <;> rfl
  | setSelected =>
    left
    simp only [setSelectedTree]
    split <;> rfl
  | initBridge =>
    left
    unfold initBridgeProc
    split
    · split
      all_goals
        simp only [Domain.setGmsync_ports]
        split <;> rfl
    · simp only [updateStateDisabledTree]
      split <;> rfl
  | update =>
    right
    rw [updtStatesTree_ports]
    by_cases zero : index = 0
    · rw [if_pos zero]
      rfl
    · rw [if_neg zero, if_pos inRange]
      rfl

/-- No move touches the system priority beyond its `priority1`. -/
theorem SelectionMove.systemPriority :
    ∃ value, after.bptasg.systemPriority = { before.bptasg.systemPriority with
      rootSystemIdentity := { before.bptasg.systemPriority.rootSystemIdentity with
        priority1 := value } } := by
  cases move with
  | pssd data => exact ⟨_, rfl⟩
  | gmsync status | clearReselect | setSelected => exact ⟨_, rfl⟩
  | initialSlave | configured => exact ⟨_, rfl⟩
  | initBridge =>
    refine ⟨before.bptasg.systemPriority.rootSystemIdentity.priority1, ?_⟩
    unfold initBridgeProc
    split
    · split <;> rfl
    · rfl
  | update =>
    exact ⟨before.bptasg.systemPriority.rootSystemIdentity.priority1,
      updtStatesTree_systemPriority cfg before⟩

end Frame

end EnetTsn.Bmcs
