import EnetTsn.Bmcs.IntervalSetting
import EnetTsn.Interval.CapableReceive

namespace EnetTsn.Interval

open EnetTsn.Bmcs EnetTsn.Gptp EnetTsn.Library

/-- What the machines read of a `PTPMsgIntervalRequestTLV`. -/
structure PTPMsgIntervalRequestTLV where
  linkDelayInterval : Int8
  timeSyncInterval : Int8
  announceInterval : Int8
  flags : UInt8
  deriving DecidableEq, Repr

structure LogInterval where
  useMgtSettable : Bool
  mgtSettableLog : Int8
  initialLog : Int8
  currentLog : Int8
  interval : UInt64
  deriving DecidableEq, Repr

namespace LogInterval

def notEnabled (vars : LogInterval) : LogInterval :=
  if vars.useMgtSettable then
    { vars with currentLog := vars.mgtSettableLog, interval := logToNsec vars.mgtSettableLog }
  else vars

def initial (vars : LogInterval) : LogInterval :=
  { vars with currentLog := vars.initialLog, interval := logToNsec vars.initialLog }

def request (requested : Int8) (vars : LogInterval) : LogInterval :=
  if logIntervalInReservedRange requested || requested == -128 then vars
  else if requested = 126 then vars.initial
  else { vars with currentLog := requested, interval := logToNsec requested }

end LogInterval

/-- `sync_interval_setting_data` and `link_delay_interval_setting_data`, with the
variables that they set. -/
structure RequestSettingData (ν : Type) where
  state : IntervalSettingState
  lastState : IntervalSettingState
  rcvdSignalingMsg : Bool
  rcvdSignalingPtr : PTPMsgIntervalRequestTLV
  vars : ν

structure RequestSetting (ν : Type) where
  logInterval : ν → LogInterval
  /-- Whether the port is not to be managed by requests now. -/
  inactive : ReceivePort → Bool
  notEnabledProc : ν → ν
  initialiseProc : ν → ν
  /-- Whether the initial state is left only in a later pass. -/
  initialiseBreaks : Bool
  setIntervalProc : PTPMsgIntervalRequestTLV → ν → ν

namespace RequestSetting

variable (setting : RequestSetting ν) (port : ReceivePort)

def init (vars : ν) : RequestSettingData ν where
  state := .init
  lastState := .init
  rcvdSignalingMsg := false
  rcvdSignalingPtr :=
    { linkDelayInterval := 0, timeSyncInterval := 0, announceInterval := 0, flags := 0 }
  vars := vars

def moveTo (state : IntervalSettingState) (data : RequestSettingData ν) : RequestSettingData ν :=
  { data with state := state }

def allstateCondition (data : RequestSettingData ν) : IntervalSettingState :=
  if setting.inactive port || (setting.logInterval data.vars).useMgtSettable then .notEnabled
  else data.state

def notEnabledCondition (data : RequestSettingData ν) : IntervalSettingState :=
  if port.up && !(setting.logInterval data.vars).useMgtSettable then .initialise else .notEnabled

def initialiseCondition (data : RequestSettingData ν) : IntervalSettingState :=
  if data.rcvdSignalingMsg then .setIntervals else .initialise

def enterInitialise (data : RequestSettingData ν) : RequestSettingData ν :=
  { data with vars := setting.initialiseProc data.vars, rcvdSignalingMsg := false }

def enterSetInterval (data : RequestSettingData ν) : RequestSettingData ν :=
  { data with
    vars := setting.setIntervalProc data.rcvdSignalingPtr data.vars, rcvdSignalingMsg := false }

def setIntervalCondition (data : RequestSettingData ν) : RequestSettingData ν :=
  if data.rcvdSignalingMsg then { data with lastState := .reaction } else data

def arm (stateChange : Bool) (data : RequestSettingData ν) : RequestSettingData ν × Option Unit :=
  match data.state with
  | .init => (moveTo .notEnabled data, none)
  | .notEnabled =>
    let entered :=
      if stateChange then { data with vars := setting.notEnabledProc data.vars } else data
    (moveTo (setting.notEnabledCondition port entered) entered, none)
  | .initialise =>
    if stateChange then
      let entered := setting.enterInitialise data
      (if setting.initialiseBreaks then entered else moveTo (initialiseCondition entered) entered,
        none)
    else (moveTo (initialiseCondition data) data, none)
  | .setIntervals =>
    (setIntervalCondition (if stateChange then setting.enterSetInterval data else data), none)
  | .reaction => (data, none)

def machine : Machine (RequestSettingData ν) IntervalSettingState Unit where
  state := RequestSettingData.state
  lastState := RequestSettingData.lastState
  setLastState data state := { data with lastState := state }
  arm := setting.arm port

/-- A call of the machine; see `run_total`. -/
def run (data : RequestSettingData ν) : Option (RequestSettingData ν) :=
  ((setting.machine port).run 8 (moveTo (setting.allstateCondition port data) data)).map (·.1)

/-- The data that the machine runs on: `SignalingMsg1` and `SignalingMsg3` store the
request before. -/
def store (request : Option PTPMsgIntervalRequestTLV) (data : RequestSettingData ν) :
    RequestSettingData ν :=
  match request with
  | none => data
  | some tlv => { data with rcvdSignalingMsg := true, rcvdSignalingPtr := tlv }

end RequestSetting

structure SyncIntervalVariables extends LogInterval where
  clockMasterLogSyncInterval : Int8
  clockMasterSyncInterval : UInt64
  deriving DecidableEq, Repr

/-- `sync_interval_setting_sm`: a changed interval goes to the clock master as well. -/
def syncIntervalSetting : RequestSetting SyncIntervalVariables where
  logInterval := SyncIntervalVariables.toLogInterval
  inactive port := port.BEGIN || !port.instanceEnable || !port.up
  notEnabledProc vars := { vars with toLogInterval := vars.toLogInterval.notEnabled }
  initialiseProc vars := { vars with toLogInterval := vars.toLogInterval.initial }
  initialiseBreaks := true
  setIntervalProc tlv vars :=
    let next := vars.toLogInterval.request tlv.timeSyncInterval
    if next.interval ≠ vars.interval then
      { next with
        clockMasterLogSyncInterval := next.currentLog
        clockMasterSyncInterval := next.interval }
    else { vars with toLogInterval := next }

/-- The variables of the request interval, with what is computed from the responses. -/
structure LinkDelayVariables extends LogInterval where
  computeNeighborRateRatio : Bool
  computeNeighborPropDelay : Bool
  deriving DecidableEq, Repr

/-- `link_delay_interval_setting_sm`: it serves all domains and does not look at
`instanceEnable`; the flags of a request say what is computed. -/
def linkDelayIntervalSetting : RequestSetting LinkDelayVariables where
  logInterval := LinkDelayVariables.toLogInterval
  inactive port := port.BEGIN || !port.up
  notEnabledProc vars := { vars with toLogInterval := vars.toLogInterval.notEnabled }
  initialiseProc vars :=
    { vars.toLogInterval.initial with
      computeNeighborRateRatio := true, computeNeighborPropDelay := true }
  initialiseBreaks := false
  setIntervalProc tlv vars :=
    { vars.toLogInterval.request tlv.linkDelayInterval with
      computeNeighborRateRatio := tlv.flags &&& 1 != 0
      computeNeighborPropDelay := tlv.flags &&& 2 != 0 }

namespace RequestSetting

variable (setting : RequestSetting ν) (port : ReceivePort)

def weight (data : RequestSettingData ν) : Nat :=
  match data.state with
  | .init => 4
  | .notEnabled => 3
  | .initialise => 2
  | .setIntervals => if data.rcvdSignalingMsg && data.lastState == .setIntervals then 1 else 0
  | .reaction => 0

theorem weight_lt (data : RequestSettingData ν) : weight data < 8 := by
  obtain ⟨state, lastState, flag, _, _⟩ := data
  cases state <;> cases flag <;> cases lastState <;> simp [weight]

theorem notEnabledCondition_cases (data : RequestSettingData ν) :
    setting.notEnabledCondition port data = .initialise ∨
      setting.notEnabledCondition port data = .notEnabled := by
  unfold notEnabledCondition
  split
  · exact Or.inl rfl
  · exact Or.inr rfl

theorem descends : (setting.machine port).Descends weight := by
  intro data _ unstable
  simp only [Machine.switch, machine] at unstable ⊢
  cases state : data.state
  all_goals simp only [arm, state] at unstable ⊢
  case init => simp [weight, moveTo, state]
  case reaction => exact absurd rfl unstable
  case notEnabled =>
    have old : weight data = 3 := by simp [weight, state]
    rw [old]
    generalize entry : (if (data.lastState != .notEnabled) = true then _ else _) = entered
      at unstable ⊢
    have last : entered.lastState = .notEnabled := by
      rw [← entry]
      split <;> rfl
    rcases setting.notEnabledCondition_cases port entered with leaves | stays
    · rw [leaves]
      simp [weight, moveTo]
    · rw [stays] at unstable
      exact absurd last unstable
  case initialise =>
    have old : weight data = 2 := by simp [weight, state]
    rw [old]
    cases flag : data.rcvdSignalingMsg with
    | false =>
      refine absurd ?_ unstable
      split
      · split <;> simp [initialiseCondition, enterInitialise, moveTo]
      · simp [initialiseCondition, flag, moveTo]
    | true =>
      split
      · rename_i fresh
        refine absurd ?_ unstable
        split <;> simp [initialiseCondition, enterInitialise, moveTo]
      · simp [initialiseCondition, moveTo, weight]
  case setIntervals =>
    by_cases fresh : data.lastState = .setIntervals
    · simp only [fresh, bne_self_eq_false, Bool.false_eq_true, if_false, setIntervalCondition]
        at unstable ⊢
      cases flag : data.rcvdSignalingMsg with
      | false => simp [flag] at unstable
      | true => simp [weight, state, fresh, flag]
    · refine absurd ?_ unstable
      have changed : (data.lastState != IntervalSettingState.setIntervals) = true := by simpa using fresh
      simp [changed, setIntervalCondition, enterSetInterval]

theorem run_total (data : RequestSettingData ν) : ∃ next, setting.run port data = some next := by
  obtain ⟨final, result, finished⟩ := (setting.descends port).total
    (weight_lt (moveTo (setting.allstateCondition port data) data))
  exact ⟨final, by simp [run, finished]⟩

end RequestSetting

end EnetTsn.Interval
