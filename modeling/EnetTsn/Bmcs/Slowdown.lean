import EnetTsn.Bmcs.Frames
import EnetTsn.Bmcs.GptpCapableTransmit

namespace EnetTsn.Bmcs

open EnetTsn.Gptp EnetTsn.Library

structure Ledger where
  /-- The interval that the setting machine of the kind was initialised with last. -/
  initial : UInt64
  /-- The interval in effect when the latest request was executed. -/
  before : UInt64
  /-- The count of slowed down transmissions at that moment. -/
  counted : UInt8
  /-- The transmissions since then. -/
  sent : Nat
  /-- Whether every transmission so far chose the interval it should. -/
  lawful : Bool
  /-- Whether every transmission so far met `Ledger.conforms`. -/
  conforming : Bool
  deriving DecidableEq, Repr

/-- What a transmission is made with: the slowdown flag and count, how many
transmissions a slowdown lasts, and the two intervals to choose from. -/
structure Pace where
  slowdown : Bool
  count : UInt8
  timeout : Nat
  old : UInt64
  interval : UInt64
  deriving DecidableEq, Repr

namespace Ledger

def empty : Ledger where
  initial := 0
  before := 0
  counted := 0
  sent := 0
  lawful := true
  conforming := true

def request (interval : UInt64) (count : UInt8) (ledger : Ledger) : Ledger :=
  { ledger with before := interval, counted := count, sent := 0 }

def due (pace : Pace) (ledger : Ledger) : UInt64 :=
  if pace.slowdown ∧ ledger.sent < pace.timeout then ledger.before else pace.interval

/-- During a slowdown the request has replaced the interval that is kept elsewhere; at its
end the count had started from zero, unless the request changed nothing. -/
def conforms (saved : UInt64) (pace : Pace) (ledger : Ledger) : Bool :=
  !pace.slowdown ||
    if pace.count.toNat < pace.timeout then ledger.before == saved
    else ledger.counted == 0 || ledger.before == pace.interval

def transmit (saved : UInt64) (pace : Pace) (scheduled : UInt64) (ledger : Ledger) : Ledger :=
  { ledger with
    sent := ledger.sent + 1
    lawful := ledger.lawful && scheduled == ledger.due pace
    conforming := ledger.conforming && ledger.conforms saved pace }

end Ledger

/-- A port with the ledgers of its two kinds of messages. -/
structure PacedPort where
  capable : CapablePort
  announce : Ledger
  signaling : Ledger

def Pace.choice (pace : Pace) : UInt64 :=
  if pace.slowdown ∧ pace.count.toNat < pace.timeout then pace.old else pace.interval

def announcePace (port : Port) : Pace where
  slowdown := port.bppg.announceSlowdown
  count := port.patransd.numberAnnounceTransmissions
  timeout := port.bppg.announceReceiptTimeout.toUInt8.toNat
  old := port.ppg.oldAnnounceInterval
  interval := port.bppg.announceInterval

def signalingPace (capable : CapablePort) : Pace where
  slowdown := capable.port.ppg.gPtpCapableMessageSlowdown
  count := capable.gctransd.numberGptpCapableMessageTransmissions
  timeout := capable.gPtpCapableReceiptTimeout.toInt.toNat
  old := capable.oldGptpCapableMessageInterval
  interval := capable.port.ppg.gPtpCapableMessageInterval

/-- Entering `INITIALIZE` initialises the interval, entering `SET_INTERVAL` executes a request. -/
def observeRequest (setting : IntervalSetting) (count : UInt8) (stateChange : Bool) (port : Port)
    (ledger : Ledger) : Ledger :=
  if stateChange ∧ (setting.data port).state = .setIntervals then
    ledger.request (setting.vars port).interval count
  else if stateChange ∧ (setting.data port).state = .initialise then
    { ledger with initial := logToNsec (setting.vars port).initialLog }
  else ledger

open AnnounceTransmit in
/-- Entering `TRANSMIT_ANNOUNCE` transmits; `interval2` is what the send time is
advanced by. The interval saved is one of the other kind. -/
def observeAnnounce (saved : UInt64) (stateChange : Bool) (port : Port) (ledger : Ledger) :
    Ledger :=
  if stateChange ∧ port.patransd.state = .transmitAnnounce then
    ledger.transmit saved (announcePace port) (nextInterval port).patransd.interval2
  else ledger

open GptpCapableTransmit in
/-- Nothing is saved of the interval of the signaling messages. -/
def observeSignaling (stateChange : Bool) (capable : CapablePort) (ledger : Ledger) : Ledger :=
  if stateChange ∧ capable.gctransd.state = .transmitTlv then
    ledger.transmit 0 (signalingPace capable) (interval3 capable)
  else ledger

namespace IntervalSetting

variable (setting : IntervalSetting)

def handOver (request : Option Int8) (port : Port) : Port :=
  match request with
  | none => port
  | some requested => setting.setData
    { setting.data port with rcvdSignalingMsg := true, requested := requested } port

def observedCall (ptasg : PerTimeAwareSystemGlobal) (request : Option Int8) (count : UInt8)
    (port : Port) (ledger : Ledger) : Option (Port × Ledger) :=
  let port := setting.handOver request port
  ((setting.machine.observed (observeRequest setting count)).run 16
    (setting.moveTo (setting.allstateCondition ptasg port) port, ledger)).map (·.1)

theorem observedCall_fst (ptasg : PerTimeAwareSystemGlobal) (request : Option Int8)
    (count : UInt8) (port : Port) (ledger : Ledger) :
    (setting.observedCall ptasg request count port ledger).map (·.1) =
      setting.call ptasg request port := by
  have same := setting.machine.observed_run (observeRequest setting count) 16
    (setting.moveTo (setting.allstateCondition ptasg (setting.handOver request port))
      (setting.handOver request port), ledger)
  have call : setting.call ptasg request port = setting.run ptasg (setting.handOver request port) := by
    cases request <;> rfl
  rw [call, run, ← same, observedCall, Option.map_map, Option.map_map]
  rfl

end IntervalSetting

def observedAnnounceTransmit (saved : UInt64) (view : InstanceView) (cts64 : UInt64) (port : Port)
    (ledger : Ledger) : Option (Port × Ledger) :=
  (((AnnounceTransmit.machine view cts64).observed (observeAnnounce saved)).run 8
    (AnnounceTransmit.moveTo (AnnounceTransmit.allstateCondition view port) port, ledger)).map (·.1)

theorem observedAnnounceTransmit_fst (saved : UInt64) (view : InstanceView) (cts64 : UInt64)
    (port : Port) (ledger : Ledger) :
    (observedAnnounceTransmit saved view cts64 port ledger).map (·.1) =
      (portAnnounceTransmitSm view cts64 8 port).map (·.1) := by
  rw [portAnnounceTransmitSm, ← (AnnounceTransmit.machine view cts64).observed_run
    (observeAnnounce saved) 8 (_, ledger), observedAnnounceTransmit, Option.map_map, Option.map_map]
  rfl

def observedCapableTransmit (ptasg : PerTimeAwareSystemGlobal) (cts64 : UInt64)
    (capable : CapablePort) (ledger : Ledger) : Option (CapablePort × Ledger) :=
  (((GptpCapableTransmit.machine cts64).observed observeSignaling).run 8
    (GptpCapableTransmit.moveTo (GptpCapableTransmit.allstateCondition ptasg capable) capable,
      ledger)).map (·.1)

/-- The other machines and the management change anything of the port but the
variables of the two transmissions. -/
def changeElsewhere (other port : Port) : Port :=
  { other with
    patransd := port.patransd
    aisetd := port.aisetd
    gcinvsetd := port.gcinvsetd
    ppg := { other.ppg with
      oldAnnounceInterval := port.ppg.oldAnnounceInterval
      gPtpCapableMessageSlowdown := port.ppg.gPtpCapableMessageSlowdown
      gPtpCapableMessageInterval := port.ppg.gPtpCapableMessageInterval }
    bppg := { other.bppg with
      announceSlowdown := port.bppg.announceSlowdown
      oldAnnounceInterval := port.bppg.oldAnnounceInterval
      announceInterval := port.bppg.announceInterval
      announceReceiptTimeout := port.bppg.announceReceiptTimeout } }

inductive PaceStep where
  /-- `announce_interval_setting_sm`, on a request or on a tick. -/
  | announceInterval (ptasg : PerTimeAwareSystemGlobal) (request : Option Int8)
  /-- `gptp_capable_interval_setting_sm`, on a request or on a tick. -/
  | gptpCapableInterval (ptasg : PerTimeAwareSystemGlobal) (request : Option Int8)
  | announceTransmit (view : InstanceView) (cts64 : UInt64)
  | gptpCapableTransmit (ptasg : PerTimeAwareSystemGlobal) (cts64 : UInt64)
  | elsewhere (other : Port)

namespace PacedPort

def init (settings : PortSettings) (gPtpCapableReceiptTimeout : Int8) (portIndex : Nat) :
    PacedPort where
  capable := CapablePort.init settings gPtpCapableReceiptTimeout portIndex
  announce := .empty
  signaling := .empty

def setPort (port : Port) (paced : PacedPort) : PacedPort :=
  { paced with capable := { paced.capable with port := port } }

def perform (paced : PacedPort) : PaceStep → Option PacedPort
  | .announceInterval ptasg request =>
    (announceIntervalSetting.observedCall ptasg request
      paced.capable.port.patransd.numberAnnounceTransmissions paced.capable.port
      paced.announce).map fun next => { paced.setPort next.1 with announce := next.2 }
  | .gptpCapableInterval ptasg request =>
    (gptpCapableIntervalSetting.observedCall ptasg request
      paced.capable.gctransd.numberGptpCapableMessageTransmissions paced.capable.port
      paced.signaling).map fun next => { paced.setPort next.1 with signaling := next.2 }
  | .announceTransmit view cts64 =>
    (observedAnnounceTransmit paced.signaling.initial view cts64 paced.capable.port
      paced.announce).map fun next => { paced.setPort next.1 with announce := next.2 }
  | .gptpCapableTransmit ptasg cts64 =>
    (observedCapableTransmit ptasg cts64 paced.capable paced.signaling).map fun next =>
      { paced with capable := next.1, signaling := next.2 }
  | .elsewhere other => some (paced.setPort (changeElsewhere other paced.capable.port))

end PacedPort

def pacedSystem (settings : PortSettings) (gPtpCapableReceiptTimeout : Int8) (portIndex : Nat) :
    System PacedPort PaceStep where
  start := PacedPort.init settings gPtpCapableReceiptTimeout portIndex
  step := PacedPort.perform

/-- The ledger of a message kind is in step with its flag and count, and every
transmission so far was lawful exactly if it conformed. -/
structure Following (slowdown : Bool) (count : UInt8) (timeout : Nat) (ledger : Ledger) : Prop where
  counts : slowdown = true → count.toNat = ledger.counted.toNat + ledger.sent
  bounded : count.toNat ≤ timeout
  lawful : ledger.lawful = ledger.conforming

namespace Following

def Of (saved : UInt64) (pace : Pace) (ledger : Ledger) : Prop :=
  Following pace.slowdown pace.count pace.timeout ledger ∧ pace.old = saved

theorem choice_eq_due (following : Of saved pace ledger) :
    (pace.choice == ledger.due pace) = ledger.conforms saved pace := by
  obtain ⟨⟨counts, bounded, _⟩, rfl⟩ := following
  unfold Pace.choice Ledger.due Ledger.conforms
  cases slow : pace.slowdown with
  | false => simp
  | true =>
    have counted := counts slow
    by_cases lasts : pace.count.toNat < pace.timeout
    · have early : ledger.sent < pace.timeout := by omega
      simp only [lasts, early, and_self, if_true, Bool.not_true, Bool.false_or]
      exact BEq.comm
    · by_cases zero : ledger.counted = 0
      · have late : ¬ ledger.sent < pace.timeout := by
          rw [zero] at counted
          have none : (0 : UInt8).toNat = 0 := rfl
          omega
        simp [lasts, late, zero]
      · have early : ledger.sent < pace.timeout := by
          have some : ledger.counted.toNat ≠ 0 := fun none => zero (UInt8.toNat_inj.mp none)
          omega
        have unequal : (ledger.counted == 0) = false := beq_false_of_ne zero
        simp only [lasts, early, unequal, and_true, and_false, if_true, if_false, Bool.not_true,
          Bool.false_or]
        exact BEq.comm

end Following

def Pace.next (pace : Pace) : Pace :=
  if pace.slowdown ∧ pace.count.toNat < pace.timeout then { pace with count := pace.count + 1 }
  else { pace with slowdown := false, count := 0 }

namespace Following

theorem transmit (fits : pace.timeout < 256) (following : Of saved pace ledger) :
    Of saved pace.next (ledger.transmit saved pace pace.choice) := by
  have agree := choice_eq_due following
  obtain ⟨⟨counts, bounded, lawful⟩, old⟩ := following
  have verdict : (ledger.lawful && pace.choice == ledger.due pace) =
      (ledger.conforming && ledger.conforms saved pace) := by
    rw [lawful, agree]
  unfold Pace.next
  split
  · rename_i lasts
    have counted := counts lasts.1
    have more : (pace.count + 1).toNat = pace.count.toNat + 1 := by
      rw [UInt8.toNat_add, Nat.mod_eq_of_lt]
      · rfl
      · have below := lasts.2
        have one : (1 : UInt8).toNat = 1 := rfl
        omega
    refine ⟨⟨fun _ => ?_, ?_, verdict⟩, old⟩
    · change (pace.count + 1).toNat = ledger.counted.toNat + (ledger.sent + 1)
      omega
    · change (pace.count + 1).toNat ≤ pace.timeout
      omega
  · exact ⟨⟨nofun, Nat.zero_le _, verdict⟩, old⟩

variable (following : Following slowdown count timeout ledger)
include following

theorem request (slowdown' : Bool)
    (interval : UInt64) : Following slowdown' count timeout (ledger.request interval count) where
  counts _ := rfl
  bounded := following.bounded
  lawful := following.lawful

theorem clear : Following false count timeout ledger :=
  ⟨nofun, following.bounded, following.lawful⟩

end Following

private theorem IntervalVariables.kept_notEnabled (vars : IntervalVariables) :
    vars.notEnabled.slowdown = vars.slowdown ∧ vars.notEnabled.oldInterval = vars.oldInterval := by
  unfold notEnabled
  split <;> exact ⟨rfl, rfl⟩

theorem IntervalVariables.oldInterval_request (requested : Int8) (vars : IntervalVariables) :
    (vars.request requested).oldInterval = vars.oldInterval := by
  unfold request
  split
  · rfl
  · split <;> rfl

namespace IntervalSetting

variable (setting : IntervalSetting)

/-- A call of the setting machine keeps the ledger in step, and the old interval that it writes
is the one it was initialised with last. -/
theorem following_observedCall (stored : ∀ vars port, setting.vars (setting.store vars port) =
      { setting.vars port with
        currentLog := vars.currentLog
        interval := vars.interval
        oldInterval := vars.oldInterval
        slowdown := vars.slowdown })
    (kept : ∀ data port, setting.vars (setting.setData data port) = setting.vars port)
    (intervals : ∀ requested vars,
      (setting.setIntervals requested vars).oldInterval = vars.oldInterval)
    (done : setting.observedCall ptasg request count port ledger = some (next, ledger'))
    (start : Following (setting.vars port).slowdown count timeout ledger) :
    Following (setting.vars next).slowdown count timeout ledger' ∧
      ((setting.vars port).oldInterval = ledger.initial →
        (setting.vars next).oldInterval = ledger'.initial) := by
  obtain ⟨⟨final, result⟩, ran, outcome⟩ := Option.map_eq_some_iff.mp done
  cases outcome
  refine setting.table.observed_preserves
    (fun pair => Following (setting.vars pair.1).slowdown count timeout pair.2 ∧
      ((setting.vars port).oldInterval = ledger.initial →
        (setting.vars pair.1).oldInterval = pair.2.initial))
    ?_ ?_ ?_ ?_ ?_ ran
  · intro state current ledger following
    simpa only [table, moveTo, kept] using following
  · intro state current ledger following
    simpa only [table, remember, kept] using following
  · intro state port ledger current ⟨following, old⟩
    have here : (setting.data port).state = state := current
    cases state with
    | notEnabled =>
      simpa [table, proc, stored, observeRequest, here, IntervalVariables.kept_notEnabled]
        using And.intro following old
    | initialise =>
      refine ⟨?_, ?_⟩
      · have cleared : Following false count timeout
            { ledger with initial := logToNsec (setting.vars port).initialLog } :=
          ⟨nofun, following.bounded, following.lawful⟩
        simpa [table, proc, clearRequest, kept, stored, observeRequest, here,
          IntervalVariables.initial] using cleared
      · intro _
        simp [table, proc, clearRequest, kept, stored, observeRequest, here,
          IntervalVariables.initial]
    | setIntervals =>
      refine ⟨?_, ?_⟩
      · simpa [table, proc, observeRequest, here] using following.request _ _
      · simpa [table, proc, clearRequest, kept, stored, observeRequest, here,
          IntervalVariables.compareOld, intervals, Ledger.request] using old
    | init | reaction =>
      simpa [table, proc, observeRequest, here] using And.intro following old
  · intro port ledger
    simp [observeRequest]
  · cases request with
    | none => simpa only [handOver, moveTo, kept] using And.intro start id
    | some requested => simpa only [handOver, moveTo, kept] using And.intro start id

end IntervalSetting

theorem kept_observedCall (setting : IntervalSetting) (holds : Port → Prop)
    (store : ∀ vars port, holds port → holds (setting.store vars port))
    (setData : ∀ data port, holds port → holds (setting.setData data port))
    (done : setting.observedCall ptasg request count port ledger = some (next, ledger'))
    (start : holds port) : holds next := by
  have call : setting.call ptasg request port = some next := by
    rw [← setting.observedCall_fst ptasg request count port ledger, done]
    rfl
  cases request with
  | none => exact setting.run_preserves holds store setData call start
  | some requested => exact setting.run_preserves holds store setData call (setData _ _ start)

open AnnounceTransmit in
theorem announcePace_transmitAnnounceProc (view : InstanceView) (port : Port) :
    announcePace (transmitAnnounceProc view port) = (announcePace port).next := by
  unfold transmitAnnounceProc nextInterval Pace.next announcePace
  cases slow : port.bppg.announceSlowdown with
  | false => simp [slow]
  | true =>
    by_cases lasts : port.patransd.numberAnnounceTransmissions <
        port.bppg.announceReceiptTimeout.toUInt8
    · have natural := UInt8.lt_iff_toNat_lt.mp lasts
      simp [slow, UInt8.not_le.mpr lasts, natural]
    · have natural := mt UInt8.lt_iff_toNat_lt.mpr lasts
      simp [slow, UInt8.not_lt.mp lasts, natural]

open AnnounceTransmit in
theorem interval2_nextInterval (port : Port) :
    (nextInterval port).patransd.interval2 = (announcePace port).choice := by
  unfold nextInterval Pace.choice announcePace
  cases slow : port.bppg.announceSlowdown with
  | false => simp
  | true =>
    by_cases lasts : port.patransd.numberAnnounceTransmissions <
        port.bppg.announceReceiptTimeout.toUInt8
    · have natural := UInt8.lt_iff_toNat_lt.mp lasts
      simp [UInt8.not_le.mpr lasts, natural]
    · have natural := mt UInt8.lt_iff_toNat_lt.mpr lasts
      simp [UInt8.not_lt.mp lasts, natural]

open GptpCapableTransmit in
theorem slowedDown_eq (capable : CapablePort) :
    slowedDown capable = !decide ((signalingPace capable).count.toNat <
      (signalingPace capable).timeout) := by
  unfold slowedDown signalingPace
  by_cases lasts : capable.gPtpCapableReceiptTimeout.toInt ≤
      capable.gctransd.numberGptpCapableMessageTransmissions.toNat
  · have natural : ¬ capable.gctransd.numberGptpCapableMessageTransmissions.toNat <
        capable.gPtpCapableReceiptTimeout.toInt.toNat := by omega
    rw [decide_eq_true lasts, decide_eq_false natural]
    rfl
  · have natural : capable.gctransd.numberGptpCapableMessageTransmissions.toNat <
        capable.gPtpCapableReceiptTimeout.toInt.toNat := by omega
    rw [decide_eq_false lasts, decide_eq_true natural]
    rfl

open GptpCapableTransmit in
theorem interval3_eq (capable : CapablePort) :
    interval3 capable = (signalingPace capable).choice := by
  simp [interval3, slowedDown_eq, Pace.choice, signalingPace]

open GptpCapableTransmit in
theorem signalingPace_transmitTlvProc (capable : CapablePort) :
    signalingPace (transmitTlvProc capable) = (signalingPace capable).next := by
  have condition : (capable.port.ppg.gPtpCapableMessageSlowdown && !slowedDown capable) = true ↔
      (signalingPace capable).slowdown = true ∧
        (signalingPace capable).count.toNat < (signalingPace capable).timeout := by
    rw [slowedDown_eq]
    simp [signalingPace]
  unfold transmitTlvProc count Pace.next
  by_cases lasts : (signalingPace capable).slowdown = true ∧
      (signalingPace capable).count.toNat < (signalingPace capable).timeout
  · rw [if_pos lasts, if_pos (condition.mpr lasts)]
    rfl
  · rw [if_neg lasts, if_neg (mt condition.mp lasts)]
    rfl

private theorem observeAnnounce_quiet (saved : UInt64) (stateChange : Bool) (port : Port)
    (ledger : Ledger) (quiet : stateChange = true → port.patransd.state ≠ .transmitAnnounce) :
    observeAnnounce saved stateChange port ledger = ledger := by
  refine if_neg ?_
  rintro ⟨change, state⟩
  exact quiet change state

open AnnounceTransmit in
theorem following_announceArm (view : InstanceView) (cts64 : UInt64) (stateChange : Bool)
    (port : Port) (following : Following.Of saved (announcePace port) ledger) :
    Following.Of saved (announcePace (arm view cts64 stateChange port).1)
        (observeAnnounce saved stateChange port ledger) ∧
      (arm view cts64 stateChange port).1.ppg = port.ppg := by
  have fits : (announcePace port).timeout < 256 := UInt8.toNat_lt _
  unfold arm
  cases stateChange with
  | false =>
    split <;> exact ⟨following, rfl⟩
  | true =>
    cases state : port.patransd.state
    case transmitAnnounce =>
      have observed : observeAnnounce saved true port ledger =
          ledger.transmit saved (announcePace port) (announcePace port).choice := by
        rw [observeAnnounce, if_pos ⟨rfl, state⟩, interval2_nextInterval]
      have sent := Following.transmit fits following
      rw [← announcePace_transmitAnnounceProc view port, ← observed] at sent
      have ppg : (transmitAnnounceProc view port).ppg = port.ppg := by
        unfold transmitAnnounceProc nextInterval
        dsimp only
        split
        · split <;> rfl
        · rfl
      exact ⟨sent, ppg⟩
    all_goals rw [observeAnnounce_quiet saved true port ledger fun _ => by rw [state]; decide]
    case transmitInit =>
      exact ⟨⟨⟨nofun, Nat.zero_le _, following.1.lawful⟩, following.2⟩, rfl⟩
    all_goals exact ⟨following, rfl⟩

open AnnounceTransmit in
theorem following_observedAnnounceTransmit
    (done : observedAnnounceTransmit saved view cts64 port ledger = some (next, ledger'))
    (start : Following.Of saved (announcePace port) ledger) :
    Following.Of saved (announcePace next) ledger' ∧ next.ppg = port.ppg := by
  obtain ⟨⟨final, result⟩, ran, outcome⟩ := Option.map_eq_some_iff.mp done
  cases outcome
  refine Machine.run_preserves _
    (fun pair => Following.Of saved (announcePace pair.1) pair.2 ∧ pair.1.ppg = port.ppg) ?_
    ⟨start, rfl⟩ ran
  rintro ⟨current, ledger⟩ ⟨following, ppg⟩
  obtain ⟨kept, same⟩ := following_announceArm view cts64
    (current.patransd.lastState != current.patransd.state)
    { current with patransd := { current.patransd with lastState := current.patransd.state } }
    following
  exact ⟨kept, same.trans ppg⟩

private theorem observeSignaling_quiet (stateChange : Bool) (capable : CapablePort) (ledger : Ledger)
    (quiet : stateChange = true → capable.gctransd.state ≠ .transmitTlv) :
    observeSignaling stateChange capable ledger = ledger := by
  refine if_neg ?_
  rintro ⟨change, state⟩
  exact quiet change state

private theorem initial_observeSignaling (stateChange : Bool) (capable : CapablePort) (ledger : Ledger) :
    (observeSignaling stateChange capable ledger).initial = ledger.initial := by
  unfold observeSignaling
  split <;> rfl

open GptpCapableTransmit in
theorem following_signalingArm (cts64 : UInt64) (stateChange : Bool) (capable : CapablePort)
    (following : Following.Of 0 (signalingPace capable) ledger) :
    Following.Of 0 (signalingPace (arm cts64 stateChange capable).1)
        (observeSignaling stateChange capable ledger) ∧
      announcePace (arm cts64 stateChange capable).1.port = announcePace capable.port := by
  have fits : (signalingPace capable).timeout < 256 := by
    have bound := capable.gPtpCapableReceiptTimeout.toInt_lt
    change capable.gPtpCapableReceiptTimeout.toInt.toNat < 256
    omega
  unfold arm
  cases stateChange with
  | false =>
    split
    case h_4 =>
      split
      · contradiction
      · split
        · exact ⟨following, rfl⟩
        · split <;> exact ⟨following, rfl⟩
    all_goals exact ⟨following, rfl⟩
  | true =>
    cases state : capable.gctransd.state
    case transmitTlv =>
      have observed : observeSignaling true capable ledger =
          ledger.transmit 0 (signalingPace capable) (signalingPace capable).choice := by
        rw [observeSignaling, if_pos ⟨rfl, state⟩, interval3_eq]
      have sent := Following.transmit fits following
      rw [← signalingPace_transmitTlvProc capable, ← observed] at sent
      have announce : announcePace (transmitTlvProc capable).port = announcePace capable.port := by
        unfold transmitTlvProc count
        split <;> rfl
      exact ⟨sent, announce⟩
    all_goals rw [observeSignaling_quiet true capable ledger fun _ => by rw [state]; decide]
    case initialise => exact ⟨⟨following.1.clear, following.2⟩, rfl⟩
    all_goals exact ⟨following, rfl⟩

open GptpCapableTransmit in
theorem following_observedCapableTransmit
    (done : observedCapableTransmit ptasg cts64 capable ledger = some (next, ledger'))
    (start : Following.Of 0 (signalingPace capable) ledger) :
    Following.Of 0 (signalingPace next) ledger' ∧
      announcePace next.port = announcePace capable.port ∧ ledger'.initial = ledger.initial := by
  obtain ⟨⟨final, result⟩, ran, outcome⟩ := Option.map_eq_some_iff.mp done
  cases outcome
  refine Machine.run_preserves _ (fun pair => Following.Of 0 (signalingPace pair.1) pair.2 ∧
      announcePace pair.1.port = announcePace capable.port ∧
        pair.2.initial = ledger.initial) ?_ ⟨start, rfl, rfl⟩ ran
  rintro ⟨current, ledger⟩ ⟨following, announce, initial⟩
  obtain ⟨kept, same⟩ := following_signalingArm cts64
    (current.gctransd.lastState != current.gctransd.state)
    (remember current.gctransd.state current) following
  exact ⟨kept, same.trans announce, (initial_observeSignaling _ _ _).trans initial⟩

/-- Both ledgers are in step. The old interval that an Announce is sent with is one of the
signaling messages, and theirs is never written. -/
structure Paced (paced : PacedPort) : Prop where
  announce : Following.Of paced.signaling.initial (announcePace paced.capable.port) paced.announce
  signaling : Following.Of 0 (signalingPace paced.capable) paced.signaling

namespace Paced

theorem init (settings : PortSettings) (timeout : Int8) (portIndex : Nat) :
    Paced (PacedPort.init settings timeout portIndex) where
  announce := ⟨⟨nofun, Nat.zero_le _, rfl⟩, rfl⟩
  signaling := ⟨⟨nofun, Nat.zero_le _, rfl⟩, rfl⟩

theorem step (start : Paced paced) (done : paced.perform event = some next) : Paced next := by
  cases event with
  | announceInterval ptasg request =>
    obtain ⟨⟨port, ledger⟩, ran, rfl⟩ := Option.map_eq_some_iff.mp done
    obtain ⟨following, _⟩ := announceIntervalSetting.following_observedCall (fun _ _ => rfl)
      (fun _ _ => rfl) IntervalVariables.oldInterval_request ran start.announce.1
    obtain ⟨ppg, patransd, timeout⟩ := kept_observedCall announceIntervalSetting
      (fun port => port.ppg = paced.capable.port.ppg ∧ port.patransd = paced.capable.port.patransd ∧
        port.bppg.announceReceiptTimeout = paced.capable.port.bppg.announceReceiptTimeout)
      (fun _ _ kept => kept) (fun _ _ kept => kept) ran ⟨rfl, rfl, rfl⟩
    refine ⟨⟨?_, ?_⟩, ?_⟩
    · change Following _ port.patransd.numberAnnounceTransmissions
        port.bppg.announceReceiptTimeout.toUInt8.toNat _
      rw [patransd, timeout]
      exact following
    · exact (congrArg PerPortGlobal.oldAnnounceInterval ppg).trans start.announce.2
    · refine ⟨?_, start.signaling.2⟩
      change Following port.ppg.gPtpCapableMessageSlowdown _ _ _
      rw [ppg]
      exact start.signaling.1
  | gptpCapableInterval ptasg request =>
    obtain ⟨⟨port, ledger⟩, ran, rfl⟩ := Option.map_eq_some_iff.mp done
    have intervals : ∀ requested vars, (gptpCapableIntervalSetting.setIntervals requested
        vars).oldInterval = vars.oldInterval := by
      intro requested vars
      simp only [gptpCapableIntervalSetting]
      split
      · rfl
      · exact vars.oldInterval_request requested
    obtain ⟨following, old⟩ := gptpCapableIntervalSetting.following_observedCall (fun _ _ => rfl)
      (fun _ _ => rfl) intervals ran start.signaling.1
    obtain ⟨bppg, patransd⟩ := kept_observedCall gptpCapableIntervalSetting
      (fun port => port.bppg = paced.capable.port.bppg ∧
        port.patransd = paced.capable.port.patransd)
      (fun _ _ kept => kept) (fun _ _ kept => kept) ran ⟨rfl, rfl⟩
    refine ⟨⟨?_, old start.announce.2⟩, following, start.signaling.2⟩
    change Following port.bppg.announceSlowdown port.patransd.numberAnnounceTransmissions
      port.bppg.announceReceiptTimeout.toUInt8.toNat _
    rw [bppg, patransd]
    exact start.announce.1
  | announceTransmit view cts64 =>
    obtain ⟨⟨port, ledger⟩, ran, rfl⟩ := Option.map_eq_some_iff.mp done
    obtain ⟨following, ppg⟩ := following_observedAnnounceTransmit ran start.announce
    refine ⟨following, ?_, start.signaling.2⟩
    change Following port.ppg.gPtpCapableMessageSlowdown _ _ _
    rw [ppg]
    exact start.signaling.1
  | gptpCapableTransmit ptasg cts64 =>
    obtain ⟨⟨capable, ledger⟩, ran, rfl⟩ := Option.map_eq_some_iff.mp done
    obtain ⟨following, announce, initial⟩ := following_observedCapableTransmit ran start.signaling
    refine ⟨?_, following⟩
    rw [announce, initial]
    exact start.announce
  | elsewhere other =>
    cases done
    exact ⟨start.announce, start.signaling⟩

end Paced

def upPort : Port :=
  let port := Port.init PortSettings.sample 1
  { port with
    selectedState := .masterPort
    selected := true
    ppg := { port.ppg with portOper := true, asCapable := true } }

/-- Both machines transmit at the initial interval of a second, the neighbor asks for
shorter ones, and the next transmissions are due. -/
def slowdownSteps : List PaceStep :=
  let domain := Domain.init (Config.sample 0) Settings.sample
  [.elsewhere upPort, .announceInterval domain.ptasg none, .announceTransmit domain.view 0,
    .announceInterval domain.ptasg (some (-3)), .announceTransmit domain.view 1000000000,
    .gptpCapableInterval domain.ptasg none, .gptpCapableTransmit domain.ptasg 0,
    .gptpCapableInterval domain.ptasg (some (-3)), .gptpCapableTransmit domain.ptasg 1000000000]

/-- The machines of the signaling interval are initialised with the second that the request for
Announces replaces. -/
def keptSteps : List PaceStep :=
  let domain := Domain.init (Config.sample 0) Settings.sample
  [.elsewhere upPort, .gptpCapableInterval domain.ptasg none, .announceInterval domain.ptasg none,
    .announceTransmit domain.view 0, .announceInterval domain.ptasg (some (-3)),
    .announceTransmit domain.view 1000000000]

end EnetTsn.Bmcs
