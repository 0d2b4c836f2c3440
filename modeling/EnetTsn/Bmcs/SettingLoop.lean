import EnetTsn.Bmcs.ExternalPort
import EnetTsn.Bmcs.Initial

/-!
Whether a call of `port_state_setting_ext_sm` ends: in `STATE_SETTING` its loop goes round as
long as there is more to set, and nothing in it takes `disabledExt` back.
-/

namespace EnetTsn.Bmcs

open EnetTsn.Gptp EnetTsn.Library

namespace StateSettingExt

variable {cfg : Config} {index : Nat} {domain : Domain}

def SettingEnds (cfg : Config) (index : Nat) (domain : Domain) : Prop :=
  ∃ fuel result, (machine cfg index).run fuel
    (moveTo index (allstateCondition index domain) domain) = some result

/-- The machine is in `STATE_SETTING` or comes to it, while `disabledExt` is set. -/
def Circles (data : PortStateSettingExtData) : Prop :=
  data.disabledExt = true ∧
    match data.state with
    | .init | .initialise => requested data = true
    | .stateSetting => True
    | .reaction => False

def armData (stateChange : Bool) (data : PortStateSettingExtData) : PortStateSettingExtData :=
  match data.state with
  | .init => { data with state := .initialise }
  | .initialise => { data with state := if requested data then .stateSetting else .initialise }
  | .stateSetting =>
    let entered := if stateChange then
      { data with asymmetryMeasurementModeChangeThisPort := false, rcvdPortStateInd := false }
      else data
    if requested entered || entered.disabledExt then
      { entered with lastState := .reaction, state := .stateSetting }
    else { entered with state := .stateSetting }
  | .reaction => data

theorem modify_pssextd (index : Nat)
    (change : PortStateSettingExtData → PortStateSettingExtData) (domain : Domain) :
    ((modify index change domain).ports index).pssextd = change (domain.ports index).pssextd := by
  simp [modify]

theorem setSelectedState_pssextd (index other : Nat) (state : PTPPortState) (domain : Domain) :
    ((setSelectedState other state domain).ports index).pssextd = (domain.ports index).pssextd := by
  by_cases same : index = other
  · rw [same]
    simp [setSelectedState]
  · simp [setSelectedState, same]

private theorem resetStateDisabledTree_pssextd (domain : Domain) :
    ((resetStateDisabledTree cfg index domain).ports index).pssextd =
      (domain.ports index).pssextd := by
  have kept := setSelectedState_pssextd index index .disabledPort domain
  rw [resetStateDisabledTree]
  split <;> exact kept

theorem takeInformation_ports (index : Nat) (slave : Option Nat) (domain : Domain) :
    (takeInformation index slave domain).ports = domain.ports := by
  cases slave <;> rfl

theorem assignStates_pssextd (slave : Option Nat) (domain : Domain) (port : Nat) :
    ((assignStates index slave domain).ports port).pssextd = (domain.ports port).pssextd := by
  rw [assignStates]
  split
  · rw [setSelectedState_pssextd, setSelectedState_pssextd]
  · split
    · rw [setSelectedState_pssextd, setSelectedState_pssextd]
    · rw [setSelectedState_pssextd]

private theorem computeMasterPriority_pssextd (index : Nat) (domain : Domain) (port : Nat) :
    ((computeMasterPriority index domain).ports port).pssextd = (domain.ports port).pssextd := by
  by_cases same : port = index
  · rw [same, computeMasterPriority, Domain.setPort_ports_same]
  · rw [computeMasterPriority, Domain.setPort_ports_other _ _ _ same]

theorem updtPortState_pssextd (cfg : Config) (index : Nat) (domain : Domain) (port : Nat) :
    ((updtPortState cfg index domain).ports port).pssextd = (domain.ports port).pssextd := by
  have computed : ∀ slave, ((computeMasterPriority index (computeGmPriority index slave
      (assignStates index slave (takeInformation index slave domain)))).ports port).pssextd =
      (domain.ports port).pssextd := by
    intro slave
    rw [computeMasterPriority_pssextd]
    change ((assignStates index slave _).ports port).pssextd = _
    rw [assignStates_pssextd, takeInformation_ports]
  rw [updtPortState]
  split <;> exact computed _

theorem stateSettingCondition_pssextd (domain : Domain) :
    ((stateSettingCondition index domain).ports index).pssextd =
      if requested (domain.ports index).pssextd || (domain.ports index).pssextd.disabledExt then
        { (domain.ports index).pssextd with lastState := .reaction, state := .stateSetting }
      else { (domain.ports index).pssextd with state := .stateSetting } := by
  rw [stateSettingCondition]
  split <;> exact modify_pssextd index _ domain

theorem arm_pssextd (stateChange : Bool) (domain : Domain) :
    ((arm cfg index stateChange domain).1.ports index).pssextd =
      armData stateChange (domain.ports index).pssextd := by
  rw [arm, armData]
  cases (domain.ports index).pssextd.state with
  | init =>
    rw [moveTo, modify_pssextd]
  | initialise =>
    have kept : ((if stateChange then resetStateDisabledTree cfg index domain else domain).ports
        index).pssextd = (domain.ports index).pssextd := by
      cases stateChange with
      | false => rfl
      | true => exact resetStateDisabledTree_pssextd domain
    dsimp only
    rw [moveTo, modify_pssextd, kept]
  | stateSetting =>
    cases stateChange with
    | false => exact stateSettingCondition_pssextd domain
    | true =>
      have cleared : ((stateSettingProc cfg index domain).ports index).pssextd =
          { (domain.ports index).pssextd with
            asymmetryMeasurementModeChangeThisPort := false, rcvdPortStateInd := false } := by
        rw [stateSettingProc, modify_pssextd, updtPortState_pssextd]
      rw [if_pos rfl, if_pos rfl, stateSettingCondition_pssextd, cleared]
      rfl
  | reaction => rfl

private theorem arm_silent (stateChange : Bool) (domain : Domain) :
    (arm cfg index stateChange domain).2 = none := by
  rw [arm]
  split <;> rfl

theorem switch_pssextd (cfg : Config) (index : Nat) (domain : Domain) :
    ∃ next, (machine cfg index).switch domain = (next, none) ∧ (next.ports index).pssextd = armData
        ((domain.ports index).pssextd.lastState != (domain.ports index).pssextd.state)
        { (domain.ports index).pssextd with lastState := (domain.ports index).pssextd.state } := by
  refine ⟨((machine cfg index).switch domain).1, ?_, ?_⟩
  · exact Prod.ext rfl (arm_silent _ _)
  · rw [← modify_pssextd index (fun data => { data with
      lastState := (domain.ports index).pssextd.state }) domain]
    exact arm_pssextd _ _

theorem Circles.armData (circles : Circles data) :
    Circles (armData (data.lastState != data.state) { data with lastState := data.state }) ∧
      (armData (data.lastState != data.state) { data with lastState := data.state }).lastState ≠
        (armData (data.lastState != data.state) { data with lastState := data.state }).state := by
  obtain ⟨disabled, place⟩ := circles
  cases state : data.state with
  | init =>
    rw [state] at place
    simp only [StateSettingExt.armData]
    exact ⟨⟨disabled, place⟩, by decide⟩
  | initialise =>
    rw [state] at place
    have next : StateSettingExt.armData (data.lastState != .initialise)
        { data with state := .initialise, lastState := .initialise } =
        { data with state := .stateSetting, lastState := .initialise } := by
      have asked : requested { data with state := .initialise, lastState := .initialise } = true :=
        place
      simp only [StateSettingExt.armData]
      rw [if_pos asked]
    rw [next]
    exact ⟨⟨disabled, trivial⟩, by simp⟩
  | stateSetting =>
    simp only [StateSettingExt.armData]
    split <;> simp only [disabled, Bool.or_true, if_true] <;> exact ⟨⟨rfl, trivial⟩, by decide⟩
  | reaction =>
    rw [state] at place
    exact place.elim

def passesLeft (data : PortStateSettingExtData) : Nat :=
  match data.state with
  | .init => 4
  | .initialise => 3
  | .stateSetting => if data.lastState = .stateSetting then 2 else 1
  | .reaction => 0

private theorem passesLeft_lt (data : PortStateSettingExtData) : passesLeft data < 8 := by
  unfold passesLeft
  split
  case h_3 => split <;> decide
  all_goals decide

theorem passesLeft_armData_lt (ends : ¬ Circles data) (unstable :
      (armData (data.lastState != data.state) { data with lastState := data.state }).lastState ≠
        (armData (data.lastState != data.state) { data with lastState := data.state }).state) :
    ¬ Circles (armData (data.lastState != data.state) { data with lastState := data.state }) ∧
      passesLeft (armData (data.lastState != data.state) { data with lastState := data.state }) <
        passesLeft data := by
  cases state : data.state with
  | init =>
    have enabled : ¬ (data.disabledExt = true ∧ requested data = true) := by
      simpa only [Circles, state] using ends
    simp only [armData, state, passesLeft, Circles]
    exact ⟨enabled, by decide⟩
  | initialise =>
    have enabled : ¬ (data.disabledExt = true ∧ requested data = true) := by
      simpa only [Circles, state] using ends
    simp only [armData, state] at unstable ⊢
    by_cases asked : requested { data with state := .initialise, lastState := .initialise } = true
    · rw [if_pos asked]
      refine ⟨fun circles => enabled ⟨circles.1, asked⟩, ?_⟩
      simp [passesLeft, state]
    · rw [if_neg asked] at unstable
      exact absurd rfl unstable
  | stateSetting =>
    have enabled : data.disabledExt = false := by
      simpa only [Circles, state, and_true, Bool.not_eq_true] using ends
    simp only [armData, state] at unstable ⊢
    by_cases same : data.lastState = .stateSetting
    · rw [same, bne_self_eq_false, if_neg Bool.false_ne_true] at unstable ⊢
      split at unstable
      · rename_i more
        rw [if_pos more]
        refine ⟨fun circles => ?_, ?_⟩
        · have disabled : data.disabledExt = true := circles.1
          rw [enabled] at disabled
          cases disabled
        · simp [passesLeft, state, same]
      · exact absurd rfl unstable
    · -- the entry procedure has taken the requests back
      rw [bne_iff_ne.mpr same, if_pos rfl] at unstable
      simp only [requested, enabled, Bool.or_false] at unstable
      exact absurd rfl unstable
  | reaction =>
    simp only [armData, state] at unstable
    exact absurd rfl unstable

theorem circles_turn (circles : Circles (domain.ports index).pssextd) :
    ∃ next, (machine cfg index).turn domain = .again next ∧ Circles (next.ports index).pssextd := by
  obtain ⟨next, out, data⟩ := switch_pssextd cfg index domain
  obtain ⟨again, unstable⟩ := circles.armData
  rw [← data] at again unstable
  have moves : ¬ (machine cfg index).lastState next = (machine cfg index).state next := unstable
  exact ⟨next, by simp only [Machine.turn, out, if_neg moves], again⟩

/-- **A call ends exactly when it does not come to `STATE_SETTING` with `disabledExt`.** -/
theorem settingEnds_iff (cfg : Config) (index : Nat) (domain : Domain) :
    SettingEnds cfg index domain ↔ ¬ Circles { (domain.ports index).pssextd with
      state := allstateCondition index domain } := by
  have start := modify_pssextd index
    (fun data => { data with state := allstateCondition index domain }) domain
  constructor
  · rintro ⟨fuel, ⟨final, result⟩, finished⟩ circles
    rw [← start] at circles
    exact Exits.not_of_cycle (fun domain => Circles (domain.ports index).pssextd)
      (fun _ circles => circles_turn circles) circles (iterate_exits finished)
  · intro ends
    rw [← start] at ends
    have halts : ∃ final result, (machine cfg index).run 8
        (moveTo index (allstateCondition index domain) domain) = some (final, result) := by
      refine (machine cfg index).run_total (fun domain => ¬ Circles (domain.ports index).pssextd)
        (fun domain => passesLeft (domain.ports index).pssextd) ?_ ends (passesLeft_lt _)
      intro domain next ends out unstable
      obtain ⟨next', out', data⟩ := switch_pssextd cfg index domain
      cases out.symm.trans out'
      have changes : (next.ports index).pssextd.lastState ≠ (next.ports index).pssextd.state :=
        unstable
      rw [data] at changes ⊢
      exact passesLeft_armData_lt ends changes
    obtain ⟨final, result, finished⟩ := halts
    exact ⟨8, (final, result), finished⟩

/-- A domain whose port 1 is disabled by the external configuration when a state is indicated. -/
def disabledPort : Domain :=
  modify 1 (fun data => { data with disabledExt := true, rcvdPortStateInd := true })
    (Domain.init (Config.sample 0) { Settings.sample with externalPortConfiguration := 1 })

theorem disabledExt_does_not_end : ¬ ∀ (cfg : Config) (index : Nat) (domain : Domain),
    SettingEnds cfg index domain := by
  intro always
  have ends := (settingEnds_iff (Config.sample 0) 1 disabledPort).mp (always _ _ _)
  exact ends ⟨rfl, rfl⟩

end StateSettingExt

end EnetTsn.Bmcs
