import EnetTsn.Bmcs.State

/-!
The machines that set a message interval on request of the neighbor:
`announce_interval_setting_sm` and `gptp_capable_interval_setting_sm`. They
differ in the variables they work on.
-/

namespace EnetTsn.Bmcs

open EnetTsn.Gptp EnetTsn.Library

structure IntervalVariables where
  useMgtSettable : Bool
  mgtSettableLog : Int8
  initialLog : Int8
  currentLog : Int8
  interval : UInt64
  oldInterval : UInt64
  slowdown : Bool

def logIntervalInReservedRange (value : Int8) : Bool :=
  -127 ≤ value && value ≤ -25 || 25 ≤ value && value ≤ 125

namespace IntervalVariables

/-- `not_enabled_proc`. -/
def notEnabled (vars : IntervalVariables) : IntervalVariables :=
  if vars.useMgtSettable then
    { vars with
      currentLog := vars.mgtSettableLog, interval := logToNsec vars.mgtSettableLog }
  else vars

/-- `initialize_proc` without its flag. -/
def initial (vars : IntervalVariables) : IntervalVariables :=
  { vars with
    currentLog := vars.initialLog
    interval := logToNsec vars.initialLog
    oldInterval := logToNsec vars.initialLog
    slowdown := false }

/-- The interpretation of a requested log interval: reserved values and -128
change nothing, 126 stands for the initial value. -/
def request (requested : Int8) (vars : IntervalVariables) : IntervalVariables :=
  if logIntervalInReservedRange requested || requested == -128 then vars
  else if requested = 126 then
    { vars with
      currentLog := vars.initialLog, interval := logToNsec vars.initialLog }
  else { vars with currentLog := requested, interval := logToNsec requested }

def compareOld (vars : IntervalVariables) : IntervalVariables :=
  { vars with slowdown := vars.interval < vars.oldInterval }

end IntervalVariables

/-- Where an interval setting machine finds its variables and its own data in a
port, and what it does with a request. -/
structure IntervalSetting where
  vars : Port → IntervalVariables
  store : IntervalVariables → Port → Port
  data : Port → IntervalSettingData
  setData : IntervalSettingData → Port → Port
  setIntervals : Int8 → IntervalVariables → IntervalVariables
  data_setData : ∀ data' port, data (setData data' port) = data'
  data_store : ∀ vars' port, data (store vars' port) = data port

namespace IntervalSetting

variable (setting : IntervalSetting)

/-- `PORT_OPER && PTP_PORT_ENABLED && !use…`. -/
def enabled (port : Port) : Bool :=
  port.ppg.portOper && port.ppg.ptpPortEnabled && !(setting.vars port).useMgtSettable

def moveTo (state : IntervalSettingState) (port : Port) : Port :=
  setting.setData { setting.data port with state := state } port

def remember (state : IntervalSettingState) (port : Port) : Port :=
  setting.setData { setting.data port with lastState := state } port

def clearRequest (port : Port) : Port :=
  setting.setData { setting.data port with rcvdSignalingMsg := false } port

def allstateCondition (ptasg : PerTimeAwareSystemGlobal) (port : Port) : IntervalSettingState :=
  if ptasg.BEGIN || !ptasg.instanceEnable || !setting.enabled port then .notEnabled
  else (setting.data port).state

def proc : IntervalSettingState → Port → Port
  | .notEnabled => fun port => setting.store (setting.vars port).notEnabled port
  | .initialise => fun port =>
    setting.clearRequest (setting.store (setting.vars port).initial port)
  | .setIntervals => fun port =>
    setting.clearRequest (setting.store
      (setting.setIntervals (setting.data port).requested (setting.vars port)).compareOld port)
  | .init | .reaction => id

def condition : IntervalSettingState → Port → IntervalSettingState
  | .init => fun _ => .notEnabled
  | .notEnabled => fun port => if setting.enabled port then .initialise else .notEnabled
  | .initialise => fun port =>
    if (setting.data port).rcvdSignalingMsg then .setIntervals else .initialise
  | .setIntervals => fun port =>
    if (setting.data port).rcvdSignalingMsg then .reaction else .setIntervals
  | .reaction => fun _ => .setIntervals

def table : Machine.Table Port IntervalSettingState where
  state port := (setting.data port).state
  lastState port := (setting.data port).lastState
  moveTo := setting.moveTo
  remember := setting.remember
  proc := setting.proc
  condition := setting.condition
  state_moveTo _ _ := by simp [moveTo, setting.data_setData]
  lastState_moveTo _ _ := by simp [moveTo, setting.data_setData]
  state_remember _ _ := by simp [remember, setting.data_setData]
  lastState_remember _ _ := by simp [remember, setting.data_setData]
  stored_proc state _ := by
    cases state <;> simp [proc, clearRequest, setting.data_setData, setting.data_store]

def machine : Machine Port IntervalSettingState Unit := setting.table.machine

/-- One call of the machine; see `run_total`. -/
def run (ptasg : PerTimeAwareSystemGlobal) (port : Port) : Option Port :=
  (setting.machine.run 16 (setting.moveTo (setting.allstateCondition ptasg port) port)).map (·.1)

def recvSignaling (ptasg : PerTimeAwareSystemGlobal) (requested : Int8) (port : Port) :
    Option Port :=
  setting.run ptasg (setting.setData
    { setting.data port with rcvdSignalingMsg := true, requested := requested } port)

def rank : IntervalSettingState → Nat
  | .init => 4
  | .notEnabled => 3
  | .initialise => 2
  | .reaction => 1
  | .setIntervals => 0

theorem rank_proc_lt (port : Port) (state : IntervalSettingState)
    (moves : setting.condition state (setting.proc state port) ≠ state) :
    rank (setting.condition state (setting.proc state port)) < rank state := by
  cases state with
  | init => simp [condition, rank]
  | notEnabled =>
    simp only [condition] at moves ⊢
    split <;> simp_all [rank]
  | initialise =>
    simp only [condition] at moves ⊢
    split <;> simp_all [rank]
  | setIntervals =>
    exact absurd (by simp [condition, proc, clearRequest, setting.data_setData]) moves
  | reaction => simp [condition, rank]

theorem run_total (ptasg : PerTimeAwareSystemGlobal) (port : Port) :
    ∃ next, setting.run ptasg port = some next := by
  obtain ⟨final, finished⟩ := setting.table.run_total (ρ := Unit) (fun _ state => rank state) 5
    (fun _ state => by cases state <;> simp [rank]) (fun _ _ _ => rfl) (fun _ _ _ => rfl)
    (fun port state _ => setting.rank_proc_lt port state) (by omega : 2 * 5 ≤ 16)
    (setting.moveTo (setting.allstateCondition ptasg port) port)
  exact ⟨final, by simp [run, machine, finished]⟩

theorem run_preserves (holds : Port → Prop)
    (store : ∀ vars port, holds port → holds (setting.store vars port))
    (setData : ∀ data port, holds port → holds (setting.setData data port))
    (finished : setting.run ptasg port = some next) (start : holds port) : holds next := by
  obtain ⟨⟨final, result⟩, ran, rfl⟩ := Option.map_eq_some_iff.mp finished
  refine setting.table.run_preserves_data holds (fun _ _ => setData _ _) (fun _ _ => setData _ _)
    ?_ (setData _ _ start) ran
  intro state port _ kept
  cases state with
  | notEnabled => exact store _ _ kept
  | initialise => exact setData _ _ (store _ _ kept)
  | setIntervals => exact setData _ _ (store _ _ kept)
  | init | reaction => exact kept

end IntervalSetting

/-- `announce_interval_setting_sm`. -/
def announceIntervalSetting : IntervalSetting where
  vars port :=
    { useMgtSettable := port.ppg.useMgtSettableLogAnnounceInterval
      mgtSettableLog := port.ppg.mgtSettableLogAnnounceInterval
      initialLog := port.bppg.initialLogAnnounceInterval
      currentLog := port.bppg.currentLogAnnounceInterval
      interval := port.bppg.announceInterval
      oldInterval := port.bppg.oldAnnounceInterval
      slowdown := port.bppg.announceSlowdown }
  store vars port := { port with bppg := { port.bppg with
    currentLogAnnounceInterval := vars.currentLog
    announceInterval := vars.interval
    oldAnnounceInterval := vars.oldInterval
    announceSlowdown := vars.slowdown } }
  data port := port.aisetd
  setData data port := { port with aisetd := data }
  setIntervals := IntervalVariables.request
  data_setData _ _ := rfl
  data_store _ _ := rfl

/-- `gptp_capable_interval_setting_sm`: its old interval is `oldAnnounceInterval`
of `PerPortGlobal`, and a request is checked once more against the management. -/
def gptpCapableIntervalSetting : IntervalSetting where
  vars port :=
    { useMgtSettable := port.ppg.useMgtSettableLogGptpCapableMessageInterval
      mgtSettableLog := port.ppg.mgtSettableLogGptpCapableMessageInterval
      initialLog := port.ppg.initialLogGptpCapableMessageInterval
      currentLog := port.ppg.currentLogGptpCapableMessageInterval
      interval := port.ppg.gPtpCapableMessageInterval
      oldInterval := port.ppg.oldAnnounceInterval
      slowdown := port.ppg.gPtpCapableMessageSlowdown }
  store vars port := { port with ppg := { port.ppg with
    currentLogGptpCapableMessageInterval := vars.currentLog
    gPtpCapableMessageInterval := vars.interval
    oldAnnounceInterval := vars.oldInterval
    gPtpCapableMessageSlowdown := vars.slowdown } }
  data port := port.gcinvsetd
  setData data port := { port with gcinvsetd := data }
  setIntervals requested vars :=
    if vars.useMgtSettable then vars else vars.request requested
  data_setData _ _ := rfl
  data_store _ _ := rfl

end EnetTsn.Bmcs
