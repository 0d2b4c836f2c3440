import EnetTsn.Gptp.Types
import EnetTsn.Library.Loop

namespace EnetTsn.Interval

open EnetTsn.Gptp EnetTsn.Library

structure ReceivePort where
  BEGIN : Bool
  instanceEnable : Bool
  portOper : Bool
  ptpPortEnabled : Bool

def ReceivePort.up (port : ReceivePort) : Bool := port.portOper && port.ptpPortEnabled

inductive CapableReceiveState where
  | init
  | notEnabled
  | initialise
  | receivedTlv
  | reaction
  deriving DecidableEq, Repr

/-- `gptp_capable_receive_data` with the flag of the port that it sets. Of the message
last received only the log interval is read. -/
structure CapableReceive where
  state : CapableReceiveState
  lastState : CapableReceiveState
  rcvdGptpCapableTlv : Bool
  logGptpCapableMessageInterval : Int8
  gPtpCapableReceiptTimeout : Int8
  gPtpCapableReceiptTimeoutInterval : UInt64
  timeoutTime : UInt64
  neighborGptpCapable : Bool
  deriving DecidableEq, Repr

namespace CapableReceive

def init (gPtpCapableReceiptTimeout : Int8) : CapableReceive where
  state := .init
  lastState := .init
  rcvdGptpCapableTlv := false
  logGptpCapableMessageInterval := 0
  gPtpCapableReceiptTimeout := gPtpCapableReceiptTimeout
  gPtpCapableReceiptTimeoutInterval := 0
  timeoutTime := 0
  neighborGptpCapable := false

def moveTo (state : CapableReceiveState) (data : CapableReceive) : CapableReceive :=
  { data with state := state }

variable (port : ReceivePort) (cts64 : UInt64)

def allstateCondition (data : CapableReceive) : CapableReceiveState :=
  if port.BEGIN || !port.instanceEnable || !port.up then .notEnabled else data.state

def notEnabledCondition : CapableReceiveState :=
  if port.up then .initialise else .notEnabled

def initialiseProc (data : CapableReceive) : CapableReceive :=
  { data with neighborGptpCapable := false }

def initialiseCondition (data : CapableReceive) : CapableReceiveState :=
  if data.rcvdGptpCapableTlv then .receivedTlv else .initialise

def receivedTlvProc (data : CapableReceive) : CapableReceive :=
  let interval :=
    receiptTimeoutInterval data.gPtpCapableReceiptTimeout data.logGptpCapableMessageInterval
  { data with
    rcvdGptpCapableTlv := false
    gPtpCapableReceiptTimeoutInterval := interval
    timeoutTime := cts64 + interval
    neighborGptpCapable := true }

def receivedTlvCondition (data : CapableReceive) : CapableReceive :=
  if data.timeoutTime ≤ cts64 then moveTo .initialise data
  else if data.rcvdGptpCapableTlv then { data with lastState := .reaction }
  else data

def arm (stateChange : Bool) (data : CapableReceive) : CapableReceive × Option Unit :=
  match data.state with
  | .init => (moveTo .notEnabled data, none)
  | .notEnabled => (moveTo (notEnabledCondition port) data, none)
  | .initialise =>
    let entered := if stateChange then initialiseProc data else data
    (moveTo (initialiseCondition entered) entered, none)
  | .receivedTlv =>
    (receivedTlvCondition cts64 (if stateChange then receivedTlvProc cts64 data else data), none)
  | .reaction => (data, none)

def machine : Machine CapableReceive CapableReceiveState Unit where
  state := CapableReceive.state
  lastState := CapableReceive.lastState
  setLastState data state := { data with lastState := state }
  arm := arm port cts64

/-- `gptp_capable_receive_sm`; see `run_total`. -/
def run (data : CapableReceive) : Option CapableReceive :=
  ((machine port cts64).run 8 (moveTo (allstateCondition port data) data)).map (·.1)

/-- The data that the machine runs on: `gptp_capable_receive_rcvdSignalingMsg` stores the
message before. -/
def store (message : Option Int8) (data : CapableReceive) : CapableReceive :=
  match message with
  | none => data
  | some logInterval =>
    { data with rcvdGptpCapableTlv := true, logGptpCapableMessageInterval := logInterval }

def weight (data : CapableReceive) : Nat :=
  let flag := if data.rcvdGptpCapableTlv then 2 else 0
  match data.state with
  | .init => flag + 2
  | .notEnabled => flag + 1
  | .initialise => flag
  | .receivedTlv => if data.rcvdGptpCapableTlv && data.lastState == .receivedTlv then 3 else 1
  | .reaction => 0

theorem weight_lt (data : CapableReceive) : weight data < 8 := by
  obtain ⟨state, lastState, flag, _, _, _, _, _⟩ := data
  cases state <;> cases flag <;> cases lastState <;> simp [weight]

theorem receivedTlvCondition_cases (data : CapableReceive) :
    receivedTlvCondition cts64 data = moveTo .initialise data ∨
      receivedTlvCondition cts64 data = { data with lastState := .reaction } ∧
        data.rcvdGptpCapableTlv = true ∨ receivedTlvCondition cts64 data = data := by
  unfold receivedTlvCondition
  split
  · exact Or.inl rfl
  · split
    · rename_i received
      exact Or.inr (Or.inl ⟨rfl, received⟩)
    · exact Or.inr (Or.inr rfl)

theorem descends : (machine port cts64).Descends weight := by
  intro data _ unstable
  simp only [Machine.switch, machine] at unstable ⊢
  cases state : data.state
  all_goals simp only [arm, state] at unstable ⊢
  case init => cases flag : data.rcvdGptpCapableTlv <;> simp [weight, moveTo, state, flag]
  case reaction => exact absurd rfl unstable
  case notEnabled =>
    cases up : port.up with
    | false => simp [notEnabledCondition, up, moveTo] at unstable
    | true => simp [notEnabledCondition, up, moveTo, weight, state]
  case initialise =>
    cases flag : data.rcvdGptpCapableTlv with
    | false =>
      refine absurd ?_ unstable
      split <;> simp [initialiseCondition, initialiseProc, flag, moveTo]
    | true =>
      have old : weight data = 2 := by simp [weight, state, flag]
      rw [old]
      split <;> simp [initialiseCondition, initialiseProc, moveTo, weight]
  case receivedTlv =>
    by_cases fresh : data.lastState = .receivedTlv
    · simp only [fresh, bne_self_eq_false, Bool.false_eq_true, if_false] at unstable ⊢
      rcases receivedTlvCondition_cases cts64
          { data with state := .receivedTlv, lastState := .receivedTlv } with
        expired | ⟨again, flag⟩ | stays
      · rw [expired]
        cases flag : data.rcvdGptpCapableTlv <;> simp [weight, moveTo, state, fresh, flag]
      · rw [again]
        have flag : data.rcvdGptpCapableTlv = true := flag
        simp [weight, state, fresh, flag]
      · rw [stays] at unstable
        exact absurd rfl unstable
    · have old : weight data = 1 := by simp [weight, state, fresh]
      have changed : (data.lastState != CapableReceiveState.receivedTlv) = true := by simpa using fresh
      rw [old]
      simp only [changed, if_true] at unstable ⊢
      rcases receivedTlvCondition_cases cts64 (receivedTlvProc cts64
          { data with state := .receivedTlv, lastState := .receivedTlv }) with
        expired | ⟨_, flag⟩ | stays
      · rw [expired]
        simp [weight, moveTo, receivedTlvProc]
      · cases flag
      · rw [stays] at unstable
        exact absurd rfl unstable

theorem run_total (data : CapableReceive) : ∃ next, run port cts64 data = some next := by
  obtain ⟨final, result, finished⟩ := (descends port cts64).total
    (weight_lt (moveTo (allstateCondition port data) data))
  exact ⟨final, by simp [run, finished]⟩

end CapableReceive

end EnetTsn.Interval
