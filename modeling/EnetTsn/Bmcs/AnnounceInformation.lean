import EnetTsn.Bmcs.State
import Mathlib.Tactic.Simps.Basic

namespace EnetTsn.Bmcs

open EnetTsn.Gptp EnetTsn.Library

/-- The message priority vector `rcvdInfo` builds from an Announce over the
machine's previous one (whose padding it keeps). -/
def messageVector (previous : UInteger224) (announce : PTPMsgAnnounce) (thisPort : UInt16) :
    UInteger224 :=
  { rootSystemIdentity := { previous.rootSystemIdentity with
      priority1 := announce.grandmasterPriority1
      clockClass := announce.grandmasterClockQuality.clockClass
      clockAccuracy := announce.grandmasterClockQuality.clockAccuracy
      offsetScaledLogVariance := announce.grandmasterClockQuality.offsetScaledLogVariance
      priority2 := announce.grandmasterPriority2
      clockIdentity := announce.grandmasterIdentity }
    stepsRemoved := announce.stepsRemoved
    sourcePortIdentity := announce.header.sourcePortIdentity
    portNumber := thisPort }

/-- The classification `rcvdInfo` ends with. -/
def classify (port : Port) (message : UInteger224) : RcvdInfo :=
  if port.selectedState ≠ .disabledPort then
    if port.bppg.portPriority = message then .repeatedMasterInfo
    else if comparePriorityVectors message port.bppg.portPriority = .superior then
      .superiorMasterInfo
    else .inferiorMasterInfo
  else .otherInfo

/-- `rcvdInfo`: the message vector and the steps removed are stored as well. -/
@[simps]
def rcvdInfo (port : Port) : Port :=
  let announce := port.parecd.buffer
  let message := messageVector port.painfd.messagePriority announce port.ppg.thisPort
  { port with
    bppg := { port.bppg with messageStepsRemoved := announce.stepsRemoved }
    painfd := { port.painfd with
      messagePriority := message, rcvdInfo := classify port message } }

/-- The count of the `memcpy` in `recordOtherAnnounceInfo`. -/
abbrev recordCount (announce : PTPMsgAnnounce) : Nat := announce.tlvLength.toNat

/-- `recordOtherAnnounceInfo`. The count of its `memcpy` is not compared with the size of the
array: the octet behind it is `announceReceiptTimeout`, the last member of the structure. -/
@[simps]
def recordOtherAnnounceInfo (port : Port) : Port :=
  let announce := port.parecd.buffer
  let count := recordCount announce
  { port with bppg := { port.bppg with
      ann := announce.timeProperties
      annPathSequenceCount := UInt8.ofNat (count / 8)
      annPathSequence :=
        memcpy port.bppg.annPathSequence announce.pathSequence (min count pathSequenceSize)
      announceReceiptTimeout :=
        if pathSequenceSize < count then (announce.pathSequence pathSequenceSize).toInt8
        else port.bppg.announceReceiptTimeout
      overrun := port.bppg.overrun || decide (pathSequenceSize < count) } }

/-- The log sync interval that `superior_master_port_proc` takes. -/
def PerPortGlobal.logSyncInterval (ppg : PerPortGlobal) : Int8 :=
  if ppg.useMgtSettableLogSyncInterval then ppg.mgtSettableLogSyncInterval
  else ppg.initialLogSyncInterval

structure InstanceView where
  ptasg : PerTimeAwareSystemGlobal
  bptasg : BmcsPerTimeAwareSystemGlobal

namespace AnnounceInformation

def allstateCondition (view : InstanceView) (port : Port) : AnnounceInformationState :=
  if (!port.up && port.bppg.infoIs != .disabled || view.ptasg.BEGIN ||
      !view.ptasg.instanceEnable) &&
      view.bptasg.externalPortConfiguration == valueDisabled then .disabled
  else port.painfd.state

theorem allstateCondition_cases (view : InstanceView) (port : Port) :
    allstateCondition view port = .disabled ∨ allstateCondition view port = port.painfd.state := by
  unfold allstateCondition
  split
  · exact Or.inl rfl
  · exact Or.inr rfl

@[simps]
def disabledProc (cts64 : UInt64) (port : Port) : Port :=
  { port with
    bppg := { port.bppg with rcvdMsg := false, infoIs := .disabled }
    painfd := { port.painfd with announceReceiptTimeoutTime := cts64 }
    reselect := true
    selected := false }

def disabledCondition (port : Port) : AnnounceInformationState :=
  if port.up then .aged
  else if port.bppg.rcvdMsg then .disabled
  else port.painfd.state

@[simps]
def agedProc (port : Port) : Port :=
  { port with
    bppg := { port.bppg with infoIs := .aged, annPathSequenceCount := 0 }
    reselect := true
    selected := false }

def agedCondition (port : Port) : AnnounceInformationState :=
  if port.selected && port.bppg.updtInfo then .update else .aged

@[simps]
def updateProc (view : InstanceView) (port : Port) : Port :=
  { port with bppg := { port.bppg with
      portPriority := port.bppg.masterPriority
      portStepsRemoved := view.bptasg.masterStepsRemoved
      updtInfo := false
      infoIs := .mine
      newInfo := true } }

/-- The receipt timeouts that `current_condition` looks at. -/
def timedOut (view : InstanceView) (cts64 : UInt64) (port : Port) : Bool :=
  port.painfd.announceReceiptTimeoutTime ≤ cts64 ||
    port.painfd.syncReceiptTimeoutTime ≤ cts64 && view.ptasg.gmPresent

def currentCondition (view : InstanceView) (cts64 : UInt64) (port : Port) :
    AnnounceInformationState :=
  if port.selected && port.bppg.updtInfo then .update
  else if port.bppg.infoIs == .received && timedOut view cts64 port &&
      !port.bppg.updtInfo && !port.bppg.rcvdMsg then .aged
  else if port.bppg.rcvdMsg && !port.bppg.updtInfo then .receive
  else .current

def receiveCondition (port : Port) : AnnounceInformationState :=
  if port.ppg.asymmetryMeasurementMode then .receive
  else match port.painfd.rcvdInfo with
    | .repeatedMasterInfo => .repeatedMasterPort
    | .inferiorMasterInfo | .otherInfo => .inferiorMasterOrOtherPort
    | .superiorMasterInfo => .superiorMasterPort

@[simps]
def superiorMasterPortProc (cts64 : UInt64) (port : Port) : Port :=
  let announce := port.parecd.buffer
  let port := recordOtherAnnounceInfo { port with bppg := { port.bppg with
    portPriority := port.painfd.messagePriority
    portStepsRemoved := announce.stepsRemoved } }
  let announceInterval :=
    receiptTimeoutInterval port.bppg.announceReceiptTimeout announce.header.logMessageInterval
  let syncInterval :=
    receiptTimeoutInterval port.ppg.syncReceiptTimeout port.ppg.logSyncInterval
  { port with
    ppg := { port.ppg with syncReceiptTimeoutTimeInterval := syncInterval }
    bppg := { port.bppg with
      announceReceiptTimeoutTimeInterval := announceInterval
      infoIs := .received
      rcvdMsg := false
      rcvdAnnouncePtr := false }
    painfd := { port.painfd with
      announceReceiptTimeoutTime := cts64 + announceInterval
      syncReceiptTimeoutTime := cts64 + syncInterval }
    reselect := true
    selected := false }

@[simps]
def repeatedMasterPortProc (cts64 : UInt64) (port : Port) : Port :=
  { port with
    painfd := { port.painfd with
      announceReceiptTimeoutTime := cts64 + port.bppg.announceReceiptTimeoutTimeInterval }
    bppg := { port.bppg with rcvdMsg := false, rcvdAnnouncePtr := false } }

@[simps]
def inferiorMasterOrOtherPortProc (port : Port) : Port :=
  { port with bppg := { port.bppg with rcvdMsg := false, rcvdAnnouncePtr := false } }

def inferiorMasterOrOtherPortCondition (view : InstanceView) (port : Port) :
    AnnounceInformationState :=
  if port.painfd.messagePriority.sourcePortIdentity = port.bppg.portPriority.sourcePortIdentity ∧
      view.bptasg.bmcsQuickUpdate ≠ 0 then .aged
  else .current

@[simps]
def moveTo (state : AnnounceInformationState) (port : Port) : Port :=
  { port with painfd := { port.painfd with state := state } }

@[simps]
def remember (state : AnnounceInformationState) (port : Port) : Port :=
  { port with painfd := { port.painfd with lastState := state } }

def proc (view : InstanceView) (cts64 : UInt64) : AnnounceInformationState → Port → Port
  | .disabled => disabledProc cts64
  | .aged => agedProc
  | .update => updateProc view
  | .receive => rcvdInfo
  | .superiorMasterPort => superiorMasterPortProc cts64
  | .repeatedMasterPort => repeatedMasterPortProc cts64
  | .inferiorMasterOrOtherPort => inferiorMasterOrOtherPortProc
  | .init | .current | .reaction => id

theorem proc_stored (view : InstanceView) (cts64 : UInt64) (state : AnnounceInformationState)
    (port : Port) : (proc view cts64 state port).painfd.state = port.painfd.state ∧
      (proc view cts64 state port).painfd.lastState = port.painfd.lastState := by
  cases state <;> simp [proc]

def condition (view : InstanceView) (cts64 : UInt64) :
    AnnounceInformationState → Port → AnnounceInformationState
  | .init => fun _ => .disabled
  | .disabled => disabledCondition
  | .aged => agedCondition
  | .update | .superiorMasterPort | .repeatedMasterPort => fun _ => .current
  | .current => currentCondition view cts64
  | .receive => receiveCondition
  | .inferiorMasterOrOtherPort => inferiorMasterOrOtherPortCondition view
  | .reaction => fun _ => .reaction

def table (view : InstanceView) (cts64 : UInt64) : Machine.Table Port AnnounceInformationState where
  state port := port.painfd.state
  lastState port := port.painfd.lastState
  moveTo := moveTo
  remember := remember
  proc := proc view cts64
  condition := condition view cts64
  state_moveTo _ _ := rfl
  lastState_moveTo _ _ := rfl
  state_remember _ _ := rfl
  lastState_remember _ _ := rfl
  stored_proc := proc_stored view cts64

def machine (view : InstanceView) (cts64 : UInt64) :
    Machine Port AnnounceInformationState Unit :=
  (table view cts64).machine

end AnnounceInformation

open AnnounceInformation in
/-- `port_announce_information_sm`; the turns are enough for every port, see
`portAnnounceInformationSm_total`. -/
def portAnnounceInformationSm (view : InstanceView) (cts64 : UInt64) (port : Port) :
    Option Port :=
  ((machine view cts64).run 128 (moveTo (allstateCondition view port) port)).map (·.1)

def portAnnounceInformationSmSyncReceiptTimeoutTime (syncReceiptTimeoutTime : UInt64)
    (port : Port) : Port :=
  { port with painfd := { port.painfd with syncReceiptTimeoutTime := syncReceiptTimeoutTime } }

namespace AnnounceInformation

variable (view : InstanceView) (cts64 : UInt64)

/-- When `current_condition` leaves the state, and for where. -/
theorem currentCondition_cases (port : Port) :
    (currentCondition view cts64 port = .update ∧ port.selected ∧ port.bppg.updtInfo) ∨
    (currentCondition view cts64 port = .aged ∧ port.bppg.infoIs = .received ∧
      timedOut view cts64 port ∧ port.bppg.updtInfo = false ∧ port.bppg.rcvdMsg = false) ∨
    (currentCondition view cts64 port = .receive ∧ port.bppg.rcvdMsg ∧ port.bppg.updtInfo = false) ∨
    (currentCondition view cts64 port = .current ∧
      (port.bppg.updtInfo = true → port.selected = false) ∧
      (port.bppg.rcvdMsg = true → port.bppg.updtInfo = true)) := by
  unfold currentCondition
  by_cases update : (port.selected && port.bppg.updtInfo) = true
  · rw [if_pos update]
    exact Or.inl ⟨rfl, by simpa using update⟩
  · rw [if_neg update]
    right
    by_cases aged : (port.bppg.infoIs == .received && timedOut view cts64 port &&
        !port.bppg.updtInfo && !port.bppg.rcvdMsg) = true
    · rw [if_pos aged]
      exact Or.inl ⟨rfl, by simpa [and_assoc] using aged⟩
    · rw [if_neg aged]
      right
      by_cases receive : (port.bppg.rcvdMsg && !port.bppg.updtInfo) = true
      · rw [if_pos receive]
        exact Or.inl ⟨rfl, by simpa using receive⟩
      · rw [if_neg receive]
        refine Or.inr ⟨rfl, ?_, ?_⟩
        · have := update; simp at this; intro updt; cases sel : port.selected <;> simp_all
        · simpa using receive

/-- `receive_condition` waits while the asymmetry is measured. -/
theorem receiveCondition_cases (port : Port) :
    (receiveCondition port = .receive ∧ port.ppg.asymmetryMeasurementMode) ∨
    (receiveCondition port = .superiorMasterPort ∧ port.painfd.rcvdInfo = .superiorMasterInfo) ∨
    (receiveCondition port = .repeatedMasterPort ∧ port.painfd.rcvdInfo = .repeatedMasterInfo) ∨
    (receiveCondition port = .inferiorMasterOrOtherPort ∧
      port.painfd.rcvdInfo ≠ .superiorMasterInfo ∧ port.painfd.rcvdInfo ≠ .repeatedMasterInfo) := by
  unfold receiveCondition
  by_cases mode : port.ppg.asymmetryMeasurementMode = true
  · exact Or.inl ⟨if_pos mode, mode⟩
  · cases port.painfd.rcvdInfo <;> simp

/-- `inferior_master_or_other_port_condition` ages the port only in quick update mode. -/
theorem inferiorCondition_cases (port : Port) :
    (inferiorMasterOrOtherPortCondition view port = .aged ∧ view.bptasg.bmcsQuickUpdate ≠ 0) ∨
    inferiorMasterOrOtherPortCondition view port = .current := by
  by_cases quick : port.painfd.messagePriority.sourcePortIdentity =
      port.bppg.portPriority.sourcePortIdentity ∧ view.bptasg.bmcsQuickUpdate ≠ 0
  · exact Or.inl ⟨if_pos quick, quick.2⟩
  · exact Or.inr (if_neg quick)

/-- Position of a state on the way through the machine, given the two flags
that a visit may consume. -/
def rank (updtInfo rcvdMsg : Bool) : AnnounceInformationState → Nat
  | .init => 15
  | .disabled => 14
  | .aged | .reaction => 0
  | .update => if updtInfo then 5 else 13
  | .current => 8
  | .receive => if rcvdMsg then 7 else 10
  | .superiorMasterPort | .repeatedMasterPort | .inferiorMasterOrOtherPort =>
    if rcvdMsg then 6 else 9

def weight (port : Port) (state : AnnounceInformationState) : Nat :=
  16 * port.bppg.updtInfo.toNat + 16 * port.bppg.rcvdMsg.toNat +
    rank port.bppg.updtInfo port.bppg.rcvdMsg state

theorem weight_le (port : Port) (state : AnnounceInformationState) : weight port state ≤ 47 := by
  unfold weight
  cases port.bppg.updtInfo <;> cases port.bppg.rcvdMsg <;> cases state <;> simp [rank]

theorem weight_proc_lt (port : Port)
    (state : AnnounceInformationState) (same : port.painfd.state = state)
    (moves : condition view cts64 state (proc view cts64 state port) ≠ state) :
    weight (proc view cts64 state port)
      (condition view cts64 state (proc view cts64 state port)) < weight port state := by
  cases state with
  | init => simp [proc, condition, weight, rank]
  | disabled =>
    cases up : (disabledProc cts64 port).up
    · simp [proc, condition, disabledCondition, up, same] at moves
    · simp [proc, condition, disabledCondition, up, weight, rank]
      omega
  | aged => simp [proc, condition, agedCondition] at moves
  | update =>
    cases updt : port.bppg.updtInfo
    · simp [proc, condition, weight, rank, updt]
    · simp [proc, condition, weight, rank, updt]
      omega
  | current =>
    simp only [proc, condition, id] at moves ⊢
    rcases currentCondition_cases view cts64 port with
      ⟨next, _, updt⟩ | ⟨next, _⟩ | ⟨next, rcvd, updt⟩ | ⟨next, _⟩
    · simp [next, weight, rank, updt]
    · simp [next, weight, rank]
    · simp [next, weight, rank, rcvd, updt]
    · exact absurd next moves
  | receive =>
    simp only [proc, condition] at moves ⊢
    rcases receiveCondition_cases (rcvdInfo port) with ⟨next, _⟩ | ⟨next, _⟩ | ⟨next, _⟩ | ⟨next, _⟩
    · exact absurd next moves
    all_goals cases rcvd : port.bppg.rcvdMsg <;> simp [next, weight, rank, rcvd]
  | superiorMasterPort =>
    cases rcvd : port.bppg.rcvdMsg <;> simp [proc, condition, weight, rank, rcvd]
  | repeatedMasterPort =>
    cases rcvd : port.bppg.rcvdMsg <;> simp [proc, condition, weight, rank, rcvd]
  | inferiorMasterOrOtherPort =>
    simp only [proc, condition]
    rcases inferiorCondition_cases view (inferiorMasterOrOtherPortProc port) with ⟨next, _⟩ | next
    all_goals cases rcvd : port.bppg.rcvdMsg <;> simp [next, weight, rank, rcvd] <;> omega
  | reaction => simp [condition] at moves

end AnnounceInformation

open AnnounceInformation in
/-- The `while` loop of `port_announce_information_sm` always ends. -/
theorem portAnnounceInformationSm_total (view : InstanceView) (cts64 : UInt64) (port : Port) :
    ∃ next, portAnnounceInformationSm view cts64 port = some next := by
  obtain ⟨final, finished⟩ := (table view cts64).run_total (ρ := Unit) weight 48
    (fun port state => Nat.lt_succ_of_le (weight_le port state))
    (fun _ _ _ => rfl) (fun _ _ _ => rfl) (fun port state => weight_proc_lt view cts64 port state)
    (by omega : 2 * 48 ≤ 128) (moveTo (allstateCondition view port) port)
  exact ⟨final, by simp [portAnnounceInformationSm, machine, finished]⟩

open AnnounceInformation in
theorem portAnnounceInformationSm_phases (arriving settled : AnnounceInformationState → Port → Prop)
    (arrival : (table view cts64).Ignores arriving)
    (settlement : (table view cts64).Ignores settled)
    (disable : allstateCondition view port = .disabled → port.painfd.state ≠ .disabled →
      arriving .disabled port) (enter : ∀ s port, port.painfd.state = s → arriving s port →
      settled s (proc view cts64 s port))
    (leave : ∀ s port, port.painfd.state = s → settled s port → condition view cts64 s port ≠ s →
      arriving (condition view cts64 s port) port)
    (stable : port.painfd.lastState = port.painfd.state)
    (start : allstateCondition view port = port.painfd.state → settled port.painfd.state port)
    (finished : portAnnounceInformationSm view cts64 port = some next) :
    next.painfd.lastState = next.painfd.state ∧ settled next.painfd.state next := by
  obtain ⟨⟨final, result⟩, ran, rfl⟩ := Option.map_eq_some_iff.mp finished
  have state : (table view cts64).state (moveTo (allstateCondition view port) port) =
      allstateCondition view port := rfl
  have lastState : (table view cts64).lastState (moveTo (allstateCondition view port) port) =
      port.painfd.state := stable
  refine (table view cts64).run_phases arriving settled arrival settlement enter leave ?_ ?_ ran
  · rw [state, lastState]
    intro moved
    apply arrival.moveTo
    rcases allstateCondition_cases view port with disabled | same
    · rw [disabled] at moved ⊢
      exact disable disabled moved
    · exact absurd same.symm moved
  · rw [state, lastState]
    intro stayed
    apply settlement.moveTo
    rw [← stayed]
    exact start stayed.symm

open AnnounceInformation in
theorem portAnnounceInformationSm_quiescent
    (finished : portAnnounceInformationSm view cts64 port = some next) :
    condition view cts64 next.painfd.state next = next.painfd.state := by
  obtain ⟨⟨final, result⟩, ran, rfl⟩ := Option.map_eq_some_iff.mp finished
  obtain ⟨entered, rfl, stays⟩ := (table view cts64).run_quiescent ran
  exact stays

open AnnounceInformation in
/-- What the entry procedures and the conditions keep, a call of the machine
keeps. The property may depend on the state of the machine. -/
theorem portAnnounceInformationSm_preserves (holds : AnnounceInformationState → Port → Prop)
    (ignores : (table view cts64).Ignores holds)
    (disable : ∀ s port, holds s port → holds .disabled port)
    (proc : ∀ s port, port.painfd.state = s → holds s port → holds s (proc view cts64 s port))
    (condition : ∀ s port, port.painfd.state = s → holds s port →
      holds (condition view cts64 s port) port) (start : holds port.painfd.state port)
    (finished : portAnnounceInformationSm view cts64 port = some next) :
    holds next.painfd.state next := by
  obtain ⟨⟨final, result⟩, ran, rfl⟩ := Option.map_eq_some_iff.mp finished
  refine (table view cts64).run_invariant holds ignores proc condition ?_ ran
  have entered : (table view cts64).state (moveTo (allstateCondition view port) port) =
      allstateCondition view port := rfl
  apply ignores.moveTo
  rcases allstateCondition_cases view port with disabled | same
  · rw [disabled]
    exact disable _ _ start
  · rw [same]
    exact start

end EnetTsn.Bmcs
