import EnetTsn.Bmcs.Frames

namespace EnetTsn.Bmcs

open EnetTsn.Gptp EnetTsn.Library AnnounceInformation

/-- Events a port still holds: a change of its operation that the machine has not
followed, and a received vector that may time out. -/
def heldEvents (up : Bool) : InfoIs → Nat
  | .disabled => if up then 1 else 0
  | .received => if up then 1 else 2
  | .mine | .aged => if up then 0 else 1

def settledBudget (s : AnnounceInformationState) (up : Bool) (infoIs : InfoIs)
    (rcvdMsg : Bool) : Nat :=
  heldEvents up infoIs + (if s = .init then 2 else 0) +
    if rcvdMsg = true ∨ s = .receive then 2 else 0

def arrivalBudget (s : AnnounceInformationState) (up : Bool) (infoIs : InfoIs)
    (rcvdMsg : Bool) : Nat :=
  heldEvents up infoIs + (if s = .disabled ∧ up = true then 1 else 0) +
    if rcvdMsg = true ∨ s = .receive ∨ s = .superiorMasterPort then 2 else 0

def portBudget (port : Port) : Nat :=
  settledBudget port.painfd.state port.up port.bppg.infoIs port.bppg.rcvdMsg

/-- How many events are left, and whether one was spent. -/
structure Spending (start port : Port) (budget amount : Nat) : Prop where
  within : amount ≤ budget
  quiet : port.reselect = start.reselect ∨ amount < budget
  up : port.up = start.up

structure SpendingArrival (start : Port) (budget : Nat) (s : AnnounceInformationState)
    (port : Port) : Prop where
  spending : Spending start port budget
    (arrivalBudget s port.up port.bppg.infoIs port.bppg.rcvdMsg)
  notInit : s ≠ .init
  down : port.up = false → s = .disabled
  known : port.bppg.infoIs = .disabled → s = .disabled ∨ s = .aged
  disabling : s = .disabled → port.up = false ∧ port.bppg.infoIs ≠ .disabled ∨
    arrivalBudget s port.up port.bppg.infoIs port.bppg.rcvdMsg < budget
  aging : s = .aged → port.bppg.infoIs = .disabled ∨ port.bppg.infoIs = .received ∨
    arrivalBudget s port.up port.bppg.infoIs port.bppg.rcvdMsg < budget
  consuming : s = .repeatedMasterPort ∨ s = .inferiorMasterOrOtherPort →
    port.bppg.rcvdMsg = true ∨
      arrivalBudget s port.up port.bppg.infoIs port.bppg.rcvdMsg < budget

structure SpendingSettled (start : Port) (budget : Nat) (s : AnnounceInformationState)
    (port : Port) : Prop where
  spending : Spending start port budget
    (settledBudget s port.up port.bppg.infoIs port.bppg.rcvdMsg)
  down : port.up = false → s = .init ∨ s = .disabled
  known : port.bppg.infoIs = .disabled ↔ s = .init ∨ s = .disabled
  consumed : s = .inferiorMasterOrOtherPort →
    settledBudget s port.up port.bppg.infoIs port.bppg.rcvdMsg < budget

section Machine

variable {view : InstanceView} {cts64 : UInt64} {start : Port} {budget : Nat}

private theorem ignores_arrival : (table view cts64).Ignores (SpendingArrival start budget) := by
  constructor
  all_goals exact fun _ _ _ kept =>
    ⟨⟨kept.spending.within, kept.spending.quiet, kept.spending.up⟩, kept.notInit, kept.down,
      kept.known, kept.disabling, kept.aging, kept.consuming⟩

private theorem ignores_settled : (table view cts64).Ignores (SpendingSettled start budget) := by
  constructor
  all_goals exact fun _ _ _ kept =>
    ⟨⟨kept.spending.within, kept.spending.quiet, kept.spending.up⟩, kept.down, kept.known,
      kept.consumed⟩

theorem up_proc (view : InstanceView) (cts64 : UInt64) (s : AnnounceInformationState)
    (port : Port) : (proc view cts64 s port).up = port.up :=
  (kept_informationProc view cts64 s port).up

section

variable (arrival : SpendingArrival start budget s port)
include arrival

theorem SpendingArrival.isUp (other : s ≠ .disabled) : port.up = true := by
  cases up : port.up with
  | true => rfl
  | false => exact absurd (arrival.down up) other

theorem settled_of_lower (lower : settledBudget s port.up (proc view cts64 s port).bppg.infoIs
      (proc view cts64 s port).bppg.rcvdMsg < budget)
    (known : (proc view cts64 s port).bppg.infoIs = .disabled ↔ s = .init ∨ s = .disabled) :
    SpendingSettled start budget s (proc view cts64 s port) := by
  have up := up_proc view cts64 s port
  refine ⟨⟨?_, Or.inr ?_, up.trans arrival.spending.up⟩, fun down => ?_, known, fun _ => ?_⟩
  · rw [up]
    exact Nat.le_of_lt lower
  · rw [up]
    exact lower
  · exact Or.inr (arrival.down (up ▸ down))
  · rw [up]
    exact lower

theorem settled_of_quiet (within : settledBudget s port.up (proc view cts64 s port).bppg.infoIs
      (proc view cts64 s port).bppg.rcvdMsg ≤
        arrivalBudget s port.up port.bppg.infoIs port.bppg.rcvdMsg)
    (quiet : (proc view cts64 s port).reselect = port.reselect)
    (known : (proc view cts64 s port).bppg.infoIs = .disabled ↔ s = .init ∨ s = .disabled)
    (other : s ≠ .inferiorMasterOrOtherPort) :
    SpendingSettled start budget s (proc view cts64 s port) := by
  have up := up_proc view cts64 s port
  refine ⟨⟨?_, ?_, up.trans arrival.spending.up⟩, fun down => ?_, known, (absurd · other)⟩
  · rw [up]
    exact Nat.le_trans within arrival.spending.within
  · rw [up, quiet]
    exact arrival.spending.quiet.imp_right (Nat.lt_of_le_of_lt within)
  · exact Or.inr (arrival.down (up ▸ down))

end

theorem spending_proc (s : AnnounceInformationState) (port : Port)
    (arrival : SpendingArrival start budget s port) :
    SpendingSettled start budget s (proc view cts64 s port) := by
  have within := arrival.spending.within
  cases s with
  | init => exact absurd rfl arrival.notInit
  | disabled =>
    refine settled_of_lower arrival ?_ (by simp [proc])
    simp only [proc, disabledProc_bppg_infoIs, disabledProc_bppg_rcvdMsg]
    rcases arrival.disabling rfl with ⟨down, held⟩ | less
    · rw [down] at within ⊢
      refine Nat.lt_of_lt_of_le ?_ within
      cases infoIs : port.bppg.infoIs <;> cases port.bppg.rcvdMsg <;>
        simp [infoIs, settledBudget, arrivalBudget, heldEvents] at held ⊢
    · refine Nat.lt_of_le_of_lt ?_ less
      cases port.up <;> cases port.bppg.infoIs <;> cases port.bppg.rcvdMsg <;> decide
  | aged =>
    have up := arrival.isUp (by simp)
    have known := arrival.aging rfl
    refine settled_of_lower arrival ?_ (by simp [proc])
    simp only [proc, agedProc_bppg_infoIs, agedProc_bppg_rcvdMsg, up] at within known ⊢
    rcases known with held | held | less
    · refine Nat.lt_of_lt_of_le ?_ within
      rw [held]
      cases port.bppg.rcvdMsg <;> decide
    · refine Nat.lt_of_lt_of_le ?_ within
      rw [held]
      cases port.bppg.rcvdMsg <;> decide
    · refine Nat.lt_of_le_of_lt ?_ less
      cases port.bppg.infoIs <;> cases port.bppg.rcvdMsg <;> decide
  | superiorMasterPort =>
    have up := arrival.isUp (by simp)
    refine settled_of_lower arrival ?_ (by simp [proc])
    simp only [proc, superiorMasterPortProc_bppg_infoIs, superiorMasterPortProc_bppg_rcvdMsg,
      up] at within ⊢
    refine Nat.lt_of_lt_of_le ?_ within
    cases port.bppg.infoIs <;> cases port.bppg.rcvdMsg <;> decide
  | update =>
    refine settled_of_quiet arrival ?_ rfl (by simp [proc]) (by simp)
    rw [arrival.isUp (by simp)]
    simp only [proc, updateProc_bppg_infoIs, updateProc_bppg_rcvdMsg]
    cases port.bppg.infoIs <;> cases port.bppg.rcvdMsg <;> decide
  | current | reaction =>
    have known : port.bppg.infoIs ≠ .disabled := by
      intro disabled
      rcases arrival.known disabled with same | same <;> cases same
    refine settled_of_quiet arrival ?_ rfl (by simp [proc, known]) (by simp)
    rw [arrival.isUp (by simp)]
    simp only [proc, id]
    cases port.bppg.infoIs <;> cases port.bppg.rcvdMsg <;> decide
  | receive =>
    have known : port.bppg.infoIs ≠ .disabled := by
      intro disabled
      rcases arrival.known disabled with same | same <;> cases same
    refine settled_of_quiet arrival ?_ rfl (by simp [proc, known]) (by simp)
    rw [arrival.isUp (by simp)]
    simp only [proc, rcvdInfo_bppg_infoIs, rcvdInfo_bppg_rcvdMsg]
    cases port.bppg.infoIs <;> cases port.bppg.rcvdMsg <;> decide
  | repeatedMasterPort | inferiorMasterOrOtherPort =>
    have known : port.bppg.infoIs ≠ .disabled := by
      intro disabled
      rcases arrival.known disabled with same | same <;> cases same
    have up := arrival.isUp (by simp)
    have consuming := arrival.consuming (by simp)
    refine settled_of_lower arrival ?_ (by simp [proc, known])
    simp only [proc, repeatedMasterPortProc_bppg_infoIs, repeatedMasterPortProc_bppg_rcvdMsg,
      inferiorMasterOrOtherPortProc_bppg_infoIs, inferiorMasterOrOtherPortProc_bppg_rcvdMsg,
      up] at within consuming ⊢
    rcases consuming with pending | less
    · refine Nat.lt_of_lt_of_le ?_ within
      rw [pending]
      cases port.bppg.infoIs <;> decide
    · refine Nat.lt_of_le_of_lt ?_ less
      cases port.bppg.infoIs <;> cases port.bppg.rcvdMsg <;> decide

theorem SpendingSettled.isUp (settled : SpendingSettled start budget s port)
    (init : s ≠ .init) (disabled : s ≠ .disabled) : port.up = true := by
  cases up : port.up with
  | true => rfl
  | false =>
    rcases settled.down up with same | same
    · exact absurd same init
    · exact absurd same disabled

theorem arrivalBudget_le (s : AnnounceInformationState) (up : Bool) (infoIs : InfoIs)
    (rcvdMsg : Bool) (disabled : s' = .disabled → up = false)
    (holding : s' = .receive ∨ s' = .superiorMasterPort → rcvdMsg = true ∨ s = .receive) :
    arrivalBudget s' up infoIs rcvdMsg ≤ settledBudget s up infoIs rcvdMsg := by
  have pending : (if rcvdMsg = true ∨ s' = .receive ∨ s' = .superiorMasterPort then 2 else 0) ≤
      if rcvdMsg = true ∨ s = .receive then 2 else 0 := by
    split
    · rename_i held
      rw [if_pos (held.elim Or.inl holding)]
    · exact Nat.zero_le _
  have following : ¬(s' = .disabled ∧ up = true) := by
    rintro ⟨same, operating⟩
    exact nomatch (disabled same).symm.trans operating
  simp only [arrivalBudget, settledBudget, if_neg following]
  omega

theorem SpendingSettled.move (settled : SpendingSettled start budget s port)
    (holding : s' = .receive ∨ s' = .superiorMasterPort →
      port.bppg.rcvdMsg = true ∨ s = .receive := by rintro (h | h) <;> cases h)
    (aging : s' = .aged → port.bppg.infoIs = .received ∨
      arrivalBudget s' port.up port.bppg.infoIs port.bppg.rcvdMsg < budget := by rintro ⟨⟩)
    (consuming : s' = .repeatedMasterPort ∨ s' = .inferiorMasterOrOtherPort →
      port.bppg.rcvdMsg = true ∨ arrivalBudget s' port.up port.bppg.infoIs port.bppg.rcvdMsg <
        budget := by rintro (h | h) <;> cases h)
    (init : s ≠ .init := by rintro ⟨⟩) (disabled : s ≠ .disabled := by rintro ⟨⟩)
    (notInit : s' ≠ .init := by rintro ⟨⟩) (disabling : s' ≠ .disabled := by rintro ⟨⟩) :
    SpendingArrival start budget s' port := by
  have up := settled.isUp init disabled
  have within := arrivalBudget_le s port.up port.bppg.infoIs port.bppg.rcvdMsg
    (absurd · disabling) holding
  have spending : Spending start port budget
      (arrivalBudget s' port.up port.bppg.infoIs port.bppg.rcvdMsg) :=
    ⟨Nat.le_trans within settled.spending.within,
      settled.spending.quiet.imp_right (Nat.lt_of_le_of_lt within), settled.spending.up⟩
  refine ⟨spending, notInit, fun down => ?_, fun known => ?_, (absurd · disabling),
    fun same => Or.inr (aging same), consuming⟩
  · exact nomatch up.symm.trans down
  · rcases settled.known.mp known with same | same
    · exact absurd same init
    · exact absurd same disabled

private theorem spending_initCondition (settled : SpendingSettled start budget .init port) :
    SpendingArrival start budget .disabled port := by
  have disabled := settled.known.mpr (Or.inl rfl)
  have less : arrivalBudget .disabled port.up port.bppg.infoIs port.bppg.rcvdMsg < budget := by
    refine Nat.lt_of_lt_of_le ?_ settled.spending.within
    rw [disabled]
    cases port.up <;> cases port.bppg.rcvdMsg <;> decide
  exact ⟨⟨Nat.le_of_lt less, Or.inr less, settled.spending.up⟩, nofun, fun _ => rfl,
    fun _ => Or.inl rfl, fun _ => Or.inr less, nofun, nofun⟩

theorem spending_disabledCondition (settled : SpendingSettled start budget .disabled port)
    (up : port.up = true) : SpendingArrival start budget .aged port := by
  have disabled := settled.known.mpr (Or.inr rfl)
  have within : arrivalBudget .aged port.up port.bppg.infoIs port.bppg.rcvdMsg ≤
      settledBudget .disabled port.up port.bppg.infoIs port.bppg.rcvdMsg :=
    arrivalBudget_le _ _ _ _ nofun nofun
  have spending : Spending start port budget
      (arrivalBudget .aged port.up port.bppg.infoIs port.bppg.rcvdMsg) :=
    ⟨Nat.le_trans within settled.spending.within,
      settled.spending.quiet.imp_right (Nat.lt_of_le_of_lt within), settled.spending.up⟩
  refine ⟨spending, nofun, fun down => ?_, fun _ => Or.inr rfl, nofun, fun _ => Or.inl disabled,
    nofun⟩
  exact nomatch up.symm.trans down

theorem SpendingSettled.consumed_or (settled : SpendingSettled start budget .receive port)
    (superior : s' ≠ .superiorMasterPort := by rintro ⟨⟩) (receive : s' ≠ .receive := by rintro ⟨⟩)
    (disabled : s' ≠ .disabled := by rintro ⟨⟩) : port.bppg.rcvdMsg = true ∨
      arrivalBudget s' port.up port.bppg.infoIs port.bppg.rcvdMsg < budget := by
  cases consumed : port.bppg.rcvdMsg with
  | true => exact Or.inl rfl
  | false =>
    have within := settled.spending.within
    refine Or.inr (Nat.lt_of_lt_of_le ?_ within)
    simp [arrivalBudget, settledBudget, superior, receive, disabled]

variable (s : AnnounceInformationState) (port : Port)

theorem spending_condition
    (same : port.painfd.state = s) (settled : SpendingSettled start budget s port)
    (moves : condition view cts64 s port ≠ s) :
    SpendingArrival start budget (condition view cts64 s port) port := by
  cases s with
  | init => exact spending_initCondition settled
  | disabled =>
    cases up : port.up with
    | false =>
      refine absurd ?_ moves
      simp [condition, disabledCondition, up, same]
    | true =>
      have next : condition view cts64 .disabled port = .aged := if_pos up
      rw [next]
      exact spending_disabledCondition settled up
  | aged =>
    have next : condition view cts64 .aged port = .update := by
      simp only [condition, agedCondition] at moves ⊢
      split at moves
      · rename_i ready
        rw [if_pos ready]
      · exact absurd rfl moves
    rw [next]
    exact settled.move
  | update | superiorMasterPort | repeatedMasterPort =>
    exact settled.move
  | current =>
    simp only [condition] at moves ⊢
    rcases currentCondition_cases view cts64 port with
      ⟨next, _⟩ | ⟨next, received, _⟩ | ⟨next, rcvd, _⟩ | ⟨next, _⟩
    · rw [next]
      exact settled.move
    · rw [next]
      exact settled.move (by simp) (fun _ => Or.inl received)
    · rw [next]
      exact settled.move fun _ => Or.inl rcvd
    · exact absurd next moves
  | receive =>
    simp only [condition] at moves ⊢
    rcases receiveCondition_cases port with ⟨next, _⟩ | ⟨next, _⟩ | ⟨next, _⟩ | ⟨next, _⟩
    · exact absurd next moves
    · rw [next]
      exact settled.move fun _ => Or.inr rfl
    · rw [next]
      exact settled.move (by simp) (by simp) fun _ => settled.consumed_or
    · rw [next]
      exact settled.move (by simp) (by simp) fun _ => settled.consumed_or
  | inferiorMasterOrOtherPort =>
    simp only [condition] at moves ⊢
    rcases inferiorCondition_cases view port with ⟨next, _⟩ | next
    · have lower : arrivalBudget .aged port.up port.bppg.infoIs port.bppg.rcvdMsg ≤
          settledBudget .inferiorMasterOrOtherPort port.up port.bppg.infoIs
            port.bppg.rcvdMsg := arrivalBudget_le _ _ _ _ (by simp) (by simp)
      rw [next]
      exact settled.move (by simp) fun _ =>
        Or.inr (Nat.lt_of_le_of_lt lower (settled.consumed rfl))
    · rw [next]
      exact settled.move
  | reaction => exact absurd rfl moves

theorem condition_ne_reaction (same : port.painfd.state = s) (other : s ≠ .reaction) :
    condition view cts64 s port ≠ .reaction := by
  cases s with
  | reaction => exact absurd rfl other
  | init | update | superiorMasterPort | repeatedMasterPort => rintro ⟨⟩
  | disabled =>
    simp only [condition, disabledCondition, same]
    cases port.up <;> cases port.bppg.rcvdMsg <;> simp
  | aged =>
    simp only [condition, agedCondition]
    split <;> simp
  | current =>
    rcases currentCondition_cases view cts64 port with ⟨next, _⟩ | ⟨next, _⟩ | ⟨next, _⟩ | ⟨next, _⟩ <;>
      simp [condition, next]
  | receive =>
    rcases receiveCondition_cases port with ⟨next, _⟩ | ⟨next, _⟩ | ⟨next, _⟩ | ⟨next, _⟩ <;>
      simp [condition, next]
  | inferiorMasterOrOtherPort =>
    rcases inferiorCondition_cases view port with ⟨next, _⟩ | next <;> simp [condition, next]

end Machine

def Resting : AnnounceInformationState → Prop
  | .init | .disabled | .aged | .current | .receive => True
  | _ => False

structure InformationReady (port : Port) : Prop where
  stable : port.painfd.lastState = port.painfd.state
  resting : Resting port.painfd.state
  known : port.bppg.infoIs = .disabled ↔
    port.painfd.state = .init ∨ port.painfd.state = .disabled

structure ViewRunning (view : InstanceView) : Prop where
  begun : view.ptasg.BEGIN = false
  enabled : view.ptasg.instanceEnable = true
  managed : view.bptasg.externalPortConfiguration = valueDisabled

private theorem allstateCondition_running (running : ViewRunning view) (port : Port) :
    allstateCondition view port =
      if port.up = false ∧ port.bppg.infoIs ≠ .disabled then .disabled else port.painfd.state := by
  unfold allstateCondition
  rw [running.begun, running.enabled, running.managed]
  cases port.up <;> cases port.bppg.infoIs <;> rfl

def Silenced (port : Port) : Prop :=
  port.bppg.infoIs = .disabled ∨ port.ppg.asymmetryMeasurementMode = true

structure InformationEffect (before after : Port) : Prop where
  ready : InformationReady after
  within : portBudget after ≤ portBudget before
  quiet : after.reselect = before.reselect ∨ portBudget after < portBudget before
  listed : before.selected = true ∨ before.reselect = true →
    after.selected = true ∨ after.reselect = true
  silenced : (before.selected = true → Silenced before → before.bppg.updtInfo = false) →
    after.selected = true → Silenced after → after.bppg.updtInfo = false
  waits : after.bppg.updtInfo = true → after.selected = false ∨ Silenced after

section Effect

variable {view : InstanceView} {cts64 : UInt64} {port next : Port}

theorem spending_portAnnounceInformationSm (running : ViewRunning view)
    (ready : InformationReady port)
    (finished : portAnnounceInformationSm view cts64 port = some next) :
    next.painfd.lastState = next.painfd.state ∧
      SpendingSettled port (portBudget port) next.painfd.state next := by
  have overall := allstateCondition_running running port
  refine portAnnounceInformationSm_phases (SpendingArrival port (portBudget port))
    (SpendingSettled port (portBudget port)) ignores_arrival ignores_settled ?_ ?_ ?_
    ready.stable ?_ finished
  · intro disables elsewhere
    have follows : port.up = false ∧ port.bppg.infoIs ≠ .disabled := by
      rw [overall] at disables
      split at disables
      · assumption
      · exact absurd disables elsewhere
    have within : arrivalBudget .disabled port.up port.bppg.infoIs port.bppg.rcvdMsg ≤
        portBudget port := arrivalBudget_le _ _ _ _ (fun _ => follows.1) nofun
    exact ⟨⟨within, Or.inl rfl, rfl⟩, nofun, fun _ => rfl, fun _ => Or.inl rfl,
      fun _ => Or.inl follows, nofun, nofun⟩
  · exact fun s current _ arrival => spending_proc s current arrival
  · exact fun s current same settled moves => spending_condition s current same settled moves
  · intro stayed
    refine ⟨⟨Nat.le_refl _, Or.inl rfl, rfl⟩, fun down => ?_, ready.known, fun same => ?_⟩
    · by_cases disabled : port.bppg.infoIs = .disabled
      · exact ready.known.mp disabled
      · rw [overall, if_pos ⟨down, disabled⟩] at stayed
        exact Or.inr stayed.symm
    · have resting := ready.resting
      rw [same] at resting
      exact resting.elim

theorem resting_portAnnounceInformationSm (resting : Resting port.painfd.state)
    (finished : portAnnounceInformationSm view cts64 port = some next) :
    Resting next.painfd.state := by
  have quiescent := portAnnounceInformationSm_quiescent finished
  have known : next.painfd.state ≠ .reaction := by
    refine portAnnounceInformationSm_preserves (fun s _ => s ≠ .reaction) ⟨?_, ?_⟩ ?_ ?_ ?_ ?_
      finished
    · exact fun _ _ _ other => other
    · exact fun _ _ _ other => other
    · exact fun _ _ _ => nofun
    · exact fun _ _ _ other => other
    · exact fun s current same other => condition_ne_reaction s current same other
    · intro same
      rw [same] at resting
      exact resting
  cases state : next.painfd.state <;> rw [state] at quiescent known
  case init | disabled | aged | current | receive => trivial
  case update | superiorMasterPort | repeatedMasterPort => cases quiescent
  case inferiorMasterOrOtherPort =>
    rcases inferiorCondition_cases view next with ⟨moves, _⟩ | moves <;>
      cases quiescent.symm.trans moves
  case reaction => exact absurd rfl known

theorem waits_portAnnounceInformationSm (resting : Resting next.painfd.state)
    (settled : SpendingSettled port budget next.painfd.state next)
    (finished : portAnnounceInformationSm view cts64 port = some next) :
    next.bppg.updtInfo = true → next.selected = false ∨ Silenced next := by
  intro updt
  have quiescent := portAnnounceInformationSm_quiescent finished
  cases state : next.painfd.state <;> rw [state] at quiescent settled resting
  case init => cases quiescent
  case disabled => exact Or.inr (Or.inl (settled.known.mpr (Or.inr rfl)))
  case aged =>
    cases selected : next.selected with
    | false => exact Or.inl rfl
    | true =>
      rw [show condition view cts64 .aged next = agedCondition next from rfl, agedCondition,
        selected, updt] at quiescent
      cases quiescent
  case current =>
    rcases currentCondition_cases view cts64 next with
      ⟨moves, _⟩ | ⟨moves, _⟩ | ⟨moves, _⟩ | ⟨_, waits, _⟩
    · cases moves.symm.trans quiescent
    · cases moves.symm.trans quiescent
    · cases moves.symm.trans quiescent
    · exact Or.inl (waits updt)
  case receive =>
    rcases receiveCondition_cases next with ⟨_, mode⟩ | ⟨moves, _⟩ | ⟨moves, _⟩ | ⟨moves, _⟩
    · exact Or.inr (Or.inr mode)
    all_goals cases moves.symm.trans quiescent
  all_goals exact resting.elim

private theorem listed_portAnnounceInformationSm (listed : port.selected = true ∨ port.reselect = true)
    (finished : portAnnounceInformationSm view cts64 port = some next) :
    next.selected = true ∨ next.reselect = true := by
  refine portAnnounceInformationSm_preserves
    (fun _ port => port.selected = true ∨ port.reselect = true) ⟨?_, ?_⟩ ?_ ?_ ?_ listed finished
  · exact fun _ _ _ kept => kept
  · exact fun _ _ _ kept => kept
  · exact fun _ _ kept => kept
  · intro s current _ kept
    cases s with
    | disabled | aged | superiorMasterPort => exact Or.inr rfl
    | _ => exact kept
  · exact fun _ _ _ kept => kept

private theorem silenced_portAnnounceInformationSm
    (silenced : port.selected = true → Silenced port → port.bppg.updtInfo = false)
    (finished : portAnnounceInformationSm view cts64 port = some next) :
    next.selected = true → Silenced next → next.bppg.updtInfo = false := by
  refine portAnnounceInformationSm_preserves
    (fun _ port => port.selected = true → Silenced port → port.bppg.updtInfo = false)
    ⟨?_, ?_⟩ ?_ ?_ ?_ silenced finished
  · exact fun _ _ _ kept => kept
  · exact fun _ _ _ kept => kept
  · exact fun _ _ kept => kept
  · intro s current _ kept
    cases s with
    | disabled | aged | superiorMasterPort => exact fun selected => nomatch selected
    | update => exact fun _ _ => rfl
    | _ => exact kept
  · exact fun _ _ _ kept => kept

theorem portAnnounceInformationSm_effect (running : ViewRunning view)
    (ready : InformationReady port)
    (finished : portAnnounceInformationSm view cts64 port = some next) :
    InformationEffect port next := by
  obtain ⟨stable, settled⟩ := spending_portAnnounceInformationSm running ready finished
  have resting := resting_portAnnounceInformationSm ready.resting finished
  refine ⟨⟨stable, resting, settled.known⟩, settled.spending.within, settled.spending.quiet,
    ?_, ?_, ?_⟩
  · exact fun listed => listed_portAnnounceInformationSm listed finished
  · exact fun silenced => silenced_portAnnounceInformationSm silenced finished
  · exact waits_portAnnounceInformationSm resting settled finished

end Effect

end EnetTsn.Bmcs
