import EnetTsn.Interval.CapableReceive
import EnetTsn.Library.Run

namespace EnetTsn.Interval

open EnetTsn.Gptp EnetTsn.Library

namespace CapableReceive

variable {portOper ptpPortEnabled : Bool} {data : CapableReceive}

structure Rests (data : CapableReceive) : Prop where
  stable : data.lastState = data.state
  running : data.state ≠ .reaction

def stayIn (state : CapableReceiveState) (data : CapableReceive) : CapableReceive :=
  { data with state := state, lastState := state }

def down (data : CapableReceive) : CapableReceive := stayIn .notEnabled data

def reset (data : CapableReceive) : CapableReceive := stayIn .initialise (initialiseProc data)

def quiet (cts64 : UInt64) (data : CapableReceive) : CapableReceive :=
  match data.state with
  | .receivedTlv => if data.timeoutTime ≤ cts64 then reset data else data
  | .initialise => data
  | _ => reset data

def taken (cts64 : UInt64) (data : CapableReceive) : CapableReceive :=
  let received := stayIn .receivedTlv (receivedTlvProc cts64 data)
  if received.timeoutTime ≤ cts64 then reset received else received

/-- A call is made on the port as it is now; `BEGIN` is false and `instanceEnable` true from
the start on. -/
def callOf (portOper ptpPortEnabled : Bool) : ReceivePort where
  BEGIN := false
  instanceEnable := true
  portOper := portOper
  ptpPortEnabled := ptpPortEnabled

private theorem run_down (off : (portOper && ptpPortEnabled) = false) (cts64 : UInt64)
    (data : CapableReceive) :
    run (callOf portOper ptpPortEnabled) cts64 data = some (down data) := by
  have isDown : (callOf portOper ptpPortEnabled).up = false := off
  have chosen : allstateCondition (callOf portOper ptpPortEnabled) data = .notEnabled := by
    rw [allstateCondition, isDown]
    rfl
  have out : (machine (callOf portOper ptpPortEnabled) cts64).switch (moveTo .notEnabled data) =
      (down data, none) := by
    simp [Machine.switch, machine, arm, moveTo, notEnabledCondition, isDown, down, stayIn]
  rw [run, chosen, Machine.run_of_stable _ out rfl]
  rfl

theorem run_up (on : (portOper && ptpPortEnabled) = true) (cts64 : UInt64) (data : CapableReceive) :
    run (callOf portOper ptpPortEnabled) cts64 data =
      ((machine (callOf portOper ptpPortEnabled) cts64).run 8 data).map Prod.fst := by
  have isUp : (callOf portOper ptpPortEnabled).up = true := on
  have chosen : allstateCondition (callOf portOper ptpPortEnabled) data = data.state := by
    rw [allstateCondition, isUp]
    rfl
  rw [run, chosen]
  rfl

private theorem reset_self (rests : data.Rests) (state : data.state = .initialise)
    (incapable : data.neighborGptpCapable = false) : data.reset = data := by
  have stable := rests.stable
  obtain ⟨_, _, _, _, _, _, _, _⟩ := data
  cases state
  cases stable
  cases incapable
  rfl

private theorem timeout_quiet (cts64 : UInt64) (data : CapableReceive) :
    (quiet cts64 data).gPtpCapableReceiptTimeout = data.gPtpCapableReceiptTimeout := by
  unfold quiet
  split
  · split <;> rfl
  · rfl
  · rfl

section Passes

variable {port : ReceivePort} {cts64 : UInt64}

theorem passes_reset (data : CapableReceive) (state : data.state = .initialise)
    (entered : data.lastState ≠ .initialise) (idle : data.rcvdGptpCapableTlv = false) (fuel : Nat) :
    (machine port cts64).run (fuel + 1) data = some (reset data, none) := by
  have out : (machine port cts64).switch data = (reset data, none) := by
    have changed : (data.lastState != data.state) = true := by
      rw [state]
      exact bne_iff_ne.mpr entered
    change arm port cts64 (data.lastState != data.state) { data with lastState := data.state } = _
    rw [changed, state, arm]
    simp [initialiseProc, initialiseCondition, idle, moveTo, reset, stayIn]
  exact Machine.run_of_stable _ out rfl

theorem passes_taken (data : CapableReceive) (state : data.state = .receivedTlv)
    (entered : data.lastState ≠ .receivedTlv) (fuel : Nat) :
    (machine port cts64).run (fuel + 2) data = some (taken cts64 data, none) := by
  have out : (machine port cts64).switch data =
      (receivedTlvCondition cts64 (stayIn .receivedTlv (receivedTlvProc cts64 data)), none) := by
    have changed : (data.lastState != data.state) = true := by
      rw [state]
      exact bne_iff_ne.mpr entered
    change arm port cts64 (data.lastState != data.state) { data with lastState := data.state } = _
    rw [changed, state, arm]
    simp only [if_true, receivedTlvProc, stayIn, state]
  by_cases expired : (receivedTlvProc cts64 data).timeoutTime ≤ cts64
  · have moved : receivedTlvCondition cts64 (stayIn .receivedTlv (receivedTlvProc cts64 data)) =
        moveTo .initialise (stayIn .receivedTlv (receivedTlvProc cts64 data)) := if_pos expired
    have ends : (machine port cts64).run (fuel + 1)
        (moveTo .initialise (stayIn .receivedTlv (receivedTlvProc cts64 data))) =
          some (reset (stayIn .receivedTlv (receivedTlvProc cts64 data)), none) :=
      passes_reset (moveTo .initialise (stayIn .receivedTlv (receivedTlvProc cts64 data))) rfl
        (by rintro ⟨⟩) rfl fuel
    rw [moved] at out
    rw [Machine.run_of_unstable _ out (by rintro ⟨⟩), ends]
    exact congrArg (fun final => some (final, none)) (if_pos expired).symm
  · have stays : receivedTlvCondition cts64 (stayIn .receivedTlv (receivedTlvProc cts64 data)) =
        stayIn .receivedTlv (receivedTlvProc cts64 data) := if_neg expired
    rw [stays] at out
    rw [Machine.run_of_stable _ out rfl]
    exact congrArg (fun final => some (final, none)) (if_neg expired).symm

theorem passes_initialise (data : CapableReceive) (state : data.state = .initialise)
    (arrived : data.rcvdGptpCapableTlv = true) (fuel : Nat) :
    (machine port cts64).run (fuel + 3) data = some (taken cts64 data, none) := by
  obtain ⟨next, out, receiving, entered, same⟩ : ∃ next,
      (machine port cts64).switch data = (next, none) ∧ next.state = .receivedTlv ∧
        next.lastState = .initialise ∧ taken cts64 next = taken cts64 data := by
    refine ⟨moveTo .receivedTlv (stayIn .initialise
      (if data.lastState != data.state then initialiseProc data else data)), ?_, rfl, rfl, ?_⟩
    · change arm port cts64 (data.lastState != data.state) { data with lastState := data.state } = _
      rw [state, arm]
      simp only
      split <;> simp [initialiseProc, initialiseCondition, arrived, moveTo, stayIn, state]
    · split <;> rfl
  have unstable : (machine port cts64).lastState next ≠ (machine port cts64).state next := by
    change next.lastState ≠ next.state
    rw [receiving, entered]
    simp
  rw [Machine.run_of_unstable _ out unstable, ← same]
  apply passes_taken next receiving
  rw [entered]
  simp

private theorem switch_notEnabled (isUp : port.up = true) (state : data.state = .notEnabled) :
    (machine port cts64).switch data =
      (moveTo .initialise { data with lastState := .notEnabled }, none) := by
  change arm port cts64 (data.lastState != data.state) { data with lastState := data.state } = _
  rw [state, arm]
  simp only [notEnabledCondition, isUp, if_true]

private theorem switch_init (state : data.state = .init) : (machine port cts64).switch data =
      (moveTo .notEnabled { data with lastState := .init }, none) := by
  change arm port cts64 (data.lastState != data.state) { data with lastState := data.state } = _
  rw [state, arm]

theorem passes_notEnabled (isUp : port.up = true) (state : data.state = .notEnabled) (fuel : Nat) :
    (machine port cts64).run (fuel + 4) data =
      some (if data.rcvdGptpCapableTlv then taken cts64 data else reset data, none) := by
  rw [Machine.run_of_unstable _ (switch_notEnabled isUp state) nofun]
  by_cases arrived : data.rcvdGptpCapableTlv = true
  · rw [if_pos arrived]
    exact passes_initialise (moveTo .initialise { data with lastState := .notEnabled }) rfl
      arrived fuel
  · rw [if_neg arrived]
    exact passes_reset (moveTo .initialise { data with lastState := .notEnabled }) rfl nofun
      (Bool.not_eq_true _ ▸ arrived) (fuel + 2)

theorem passes_init (isUp : port.up = true) (state : data.state = .init) (fuel : Nat) :
    (machine port cts64).run (fuel + 5) data =
      some (if data.rcvdGptpCapableTlv then taken cts64 data else reset data, none) := by
  have ends : (machine port cts64).run (fuel + 4)
      (moveTo .notEnabled { data with lastState := .init }) =
        some (if data.rcvdGptpCapableTlv then taken cts64 data else reset data, none) :=
    passes_notEnabled isUp rfl fuel
  rw [Machine.run_of_unstable _ (switch_init state) nofun]
  exact ends

theorem switch_receivedTlv (port : ReceivePort) (cts64 : UInt64)
    (state : data.state = .receivedTlv) (stable : data.lastState = .receivedTlv) :
    (machine port cts64).switch data = (receivedTlvCondition cts64 data, none) := by
  have same : { data with lastState := data.state } = data := by
    obtain ⟨_, _, _, _, _, _, _, _⟩ := data
    cases state
    cases stable
    rfl
  change arm port cts64 (data.lastState != data.state) { data with lastState := data.state } = _
  rw [same, state, stable, arm, state]
  rfl

variable (state : data.state = .receivedTlv)
include state

variable (stable : data.lastState = .receivedTlv)
include stable

theorem passes_expired (expired : data.timeoutTime ≤ cts64) (fuel : Nat) :
    (machine port cts64).run (fuel + 4) data =
      some (if data.rcvdGptpCapableTlv then taken cts64 data else reset data, none) := by
  have out := switch_receivedTlv port cts64 state stable
  have unstable : data.lastState ≠ .initialise := by
    rw [stable]
    exact nofun
  rw [receivedTlvCondition, if_pos expired] at out
  rw [Machine.run_of_unstable _ out unstable]
  cases arrived : data.rcvdGptpCapableTlv with
  | true => exact passes_initialise (moveTo .initialise data) rfl arrived fuel
  | false => exact passes_reset (moveTo .initialise data) rfl unstable arrived (fuel + 2)

private theorem passes_renewed (inTime : ¬ data.timeoutTime ≤ cts64)
    (arrived : data.rcvdGptpCapableTlv = true) (fuel : Nat) :
    (machine port cts64).run (fuel + 3) data = some (taken cts64 data, none) := by
  have out := switch_receivedTlv port cts64 state stable
  have unstable : CapableReceiveState.reaction ≠ data.state := by
    rw [state]
    exact nofun
  rw [receivedTlvCondition, if_neg inTime, if_pos arrived] at out
  rw [Machine.run_of_unstable _ out unstable]
  exact passes_taken { data with lastState := .reaction } state nofun fuel

end Passes

variable (on : (portOper && ptpPortEnabled) = true)
include on

theorem run_quiet (rests : data.Rests) (idle : data.rcvdGptpCapableTlv = false) (cts64 : UInt64) :
    run (callOf portOper ptpPortEnabled) cts64 data = some (quiet cts64 data) := by
  have isUp : (callOf portOper ptpPortEnabled).up = true := on
  have stable := rests.stable
  rw [run_up on, quiet]
  cases state : data.state with
  | init =>
    rw [passes_init isUp state 3, idle]
    rfl
  | notEnabled =>
    rw [passes_notEnabled isUp state 4, idle]
    rfl
  | initialise =>
    have out : (machine (callOf portOper ptpPortEnabled) cts64).switch data = (data, none) := by
      have same : { data with lastState := data.state } = data := by
        obtain ⟨_, _, _, _, _, _, _, _⟩ := data
        cases state
        cases stable
        rfl
      change arm _ cts64 (data.lastState != data.state) { data with lastState := data.state } = _
      have stays : moveTo .initialise data = data := by
        rw [← state]
        rfl
      rw [same, state, stable, arm, state]
      simp only [bne_self_eq_false, Bool.false_eq_true, if_false, initialiseCondition, idle, stays]
    rw [Machine.run_of_stable _ out rests.stable]
    rfl
  | receivedTlv =>
    rw [state] at stable
    by_cases expired : data.timeoutTime ≤ cts64
    · rw [passes_expired state stable expired 4, idle]
      simp [expired]
    · have out := switch_receivedTlv (callOf portOper ptpPortEnabled) cts64 state stable
      rw [receivedTlvCondition, if_neg expired, if_neg (by simp [idle])] at out
      rw [Machine.run_of_stable _ out rests.stable]
      simp [expired]
  | reaction => exact absurd state rests.running

theorem run_taken (rests : data.Rests) (arrived : data.rcvdGptpCapableTlv = true) (cts64 : UInt64) :
    run (callOf portOper ptpPortEnabled) cts64 data = some (taken cts64 data) := by
  have isUp : (callOf portOper ptpPortEnabled).up = true := on
  have stable := rests.stable
  rw [run_up on]
  cases state : data.state with
  | init =>
    rw [passes_init isUp state 3, arrived]
    rfl
  | notEnabled =>
    rw [passes_notEnabled isUp state 4, arrived]
    rfl
  | initialise =>
    rw [passes_initialise data state arrived 5]
    rfl
  | receivedTlv =>
    rw [state] at stable
    by_cases expired : data.timeoutTime ≤ cts64
    · rw [passes_expired state stable expired 4, arrived]
      rfl
    · rw [passes_renewed state stable expired arrived 5]
      rfl
  | reaction => exact absurd state rests.running

end CapableReceive

/-- `time` is before `start` plus `timeout` intervals of `2 ^ log` seconds each. -/
def InTime (timeout log : Int8) (start time : UInt64) : Prop :=
  (time.toNat - start.toNat) * 2 ^ (-log.toInt).toNat <
    timeout.toUInt8.toNat * (ubSecNs * 2 ^ log.toInt.toNat)

instance (timeout log : Int8) (start time : UInt64) : Decidable (InTime timeout log start time) :=
  inferInstanceAs (Decidable (_ < _))

def wholeNanoseconds (log : Int8) : Nat :=
  ubSecNs * 2 ^ log.toInt.toNat / 2 ^ (-log.toInt).toNat

/-- What `timeout` intervals of whole nanoseconds add up to. -/
def wholeTimeout (timeout log : Int8) : Nat := timeout.toUInt8.toNat * wholeNanoseconds log

def Representable (timeout log : Int8) (start : UInt64) : Prop :=
  -31 ≤ log ∧ log ≤ 31 ∧ start.toNat + wholeTimeout timeout log < 2 ^ 64

instance (timeout log : Int8) (start : UInt64) : Decidable (Representable timeout log start) :=
  inferInstanceAs (Decidable (_ ∧ _ ∧ _))

private theorem toNat_logToNsec (log : Int8) (low : -31 ≤ log) (high : log ≤ 31) :
    (logToNsec log).toNat = wholeNanoseconds log := by
  have all : ∀ octet : Fin 256, -31 ≤ (UInt8.ofNat octet).toInt8 → (UInt8.ofNat octet).toInt8 ≤ 31 →
      (logToNsec (UInt8.ofNat octet).toInt8).toNat =
        wholeNanoseconds (UInt8.ofNat octet).toInt8 := by
    decide +kernel
  have same : (UInt8.ofNat log.toUInt8.toNat).toInt8 = log := by simp
  have shown := all ⟨log.toUInt8.toNat, log.toUInt8.toNat_lt⟩
  rw [same] at shown
  exact shown low high

private theorem toNat_deadline (representable : Representable timeout log start) :
    (start + receiptTimeoutInterval timeout log).toNat =
      start.toNat + wholeTimeout timeout log := by
  obtain ⟨low, high, fits⟩ := representable
  have product : wholeTimeout timeout log < 2 ^ 64 := Nat.lt_of_le_of_lt (Nat.le_add_left ..) fits
  have interval : (receiptTimeoutInterval timeout log).toNat = wholeTimeout timeout log := by
    rw [receiptTimeoutInterval, UInt64.toNat_mul, toNat_logToNsec log low high,
      UInt8.toNat_toUInt64]
    exact Nat.mod_eq_of_lt product
  rw [UInt64.toNat_add, interval, Nat.mod_eq_of_lt fits]

private theorem inTime_of_lt (before : time.toNat < start.toNat + wholeTimeout timeout log)
    (after : start ≤ time) : InTime timeout log start time := by
  have elapsed : time.toNat - start.toNat < wholeTimeout timeout log := by
    have order := UInt64.le_iff_toNat_le.mp after
    omega
  have positive : 0 < 2 ^ (-log.toInt).toNat := Nat.two_pow_pos _
  calc (time.toNat - start.toNat) * 2 ^ (-log.toInt).toNat
      < wholeTimeout timeout log * 2 ^ (-log.toInt).toNat :=
        Nat.mul_lt_mul_of_pos_right elapsed positive
    _ = timeout.toUInt8.toNat * (wholeNanoseconds log * 2 ^ (-log.toInt).toNat) :=
        Nat.mul_assoc ..
    _ ≤ timeout.toUInt8.toNat * (ubSecNs * 2 ^ log.toInt.toNat) :=
        Nat.mul_le_mul_left _ (Nat.div_mul_le_self ..)

/-- A port with its machine: the time of the last event, the last TLV that was received
while the port was up with no interruption since, and whether the port has been down since
the machine last ran. -/
structure CapableRun where
  data : CapableReceive
  portOper : Bool
  ptpPortEnabled : Bool
  now : UInt64
  last : Option (UInt64 × Int8)
  interrupted : Bool
  deriving DecidableEq, Repr

inductive CapableEvent where
  | setPort (portOper ptpPortEnabled : Bool)
  /-- `gptp_capable_receive_rcvdSignalingMsg` with the log interval of the TLV. -/
  | tlv (log : Int8) (cts64 : UInt64)
  | tick (cts64 : UInt64)

namespace CapableRun

def up (run : CapableRun) : Bool := run.portOper && run.ptpPortEnabled

def call (cts64 : UInt64) (run : CapableRun) : Option CapableRun :=
  (CapableReceive.run (CapableReceive.callOf run.portOper run.ptpPortEnabled) cts64
    run.data).map fun data => { run with data := data, now := cts64, interrupted := !run.up }

def receive (log : Int8) (cts64 : UInt64) (run : CapableRun) : CapableRun :=
  { run with
    data := run.data.store (some log)
    last := if run.up then some (cts64, log) else run.last }

def setPort (portOper ptpPortEnabled : Bool) (run : CapableRun) : CapableRun :=
  if portOper && ptpPortEnabled then
    { run with portOper := portOper, ptpPortEnabled := ptpPortEnabled }
  else
    { run with
      portOper := portOper, ptpPortEnabled := ptpPortEnabled, last := none, interrupted := true }

end CapableRun

/-- The runs of one port from its initialisation on, whose own call of the machine is a tick
at zero. The clock does not run backwards. -/
def capableSystem (gPtpCapableReceiptTimeout : Int8) (portOper ptpPortEnabled : Bool) :
    System CapableRun CapableEvent where
  start :=
    { data := CapableReceive.init gPtpCapableReceiptTimeout
      portOper := portOper, ptpPortEnabled := ptpPortEnabled
      now := 0, last := none, interrupted := true }
  step run
    | .setPort portOper ptpPortEnabled => some (run.setPort portOper ptpPortEnabled)
    | .tlv log cts64 => if run.now ≤ cts64 then (run.receive log cts64).call cts64 else none
    | .tick cts64 => if run.now ≤ cts64 then run.call cts64 else none

namespace CapableRun

/-- The neighbor is capable: a TLV was received while the port was up, it has been up ever
since, and the timeout of the last such TLV has not passed. -/
def NeighborCapable (run : CapableRun) : Prop :=
  ∃ start log, run.last = some (start, log) ∧ start ≤ run.now ∧
    InTime run.data.gPtpCapableReceiptTimeout log start run.now

/-- A port that is up receives only TLVs whose deadline can be represented. A tick of a port
that is up finds no TLV that came while it was down and no capability from before an
interruption, and it does not fall between the deadline in whole nanoseconds and the exact
one. -/
def Permitted (run : CapableRun) : CapableEvent → Prop
  | .setPort _ _ => True
  | .tlv log cts64 =>
    run.up = true → Representable run.data.gPtpCapableReceiptTimeout log cts64
  | .tick cts64 => run.up = true →
    run.data.rcvdGptpCapableTlv = false ∧
    (run.interrupted = true → run.data.state = .receivedTlv → run.data.timeoutTime ≤ cts64) ∧
    ∀ tlv ∈ run.last,
      tlv.1.toNat + wholeTimeout run.data.gPtpCapableReceiptTimeout tlv.2 ≤ cts64.toNat →
      ¬ InTime run.data.gPtpCapableReceiptTimeout tlv.2 tlv.1 cts64

instance (run : CapableRun) : DecidablePred run.Permitted
  | .setPort _ _ => .isTrue trivial
  | .tlv _ _ => inferInstanceAs (Decidable (_ → _))
  | .tick _ =>
    have (p : UInt64 × Int8 → Prop) [DecidablePred p] : Decidable (∀ tlv ∈ run.last, p tlv) :=
      Option.decidableForallMem run.last
    inferInstanceAs (Decidable (_ → _ ∧ _ ∧ _))

structure Follows (run : CapableRun) : Prop where
  idle : run.data.rcvdGptpCapableTlv = false
  started : run.data.state = .initialise ∨ run.data.state = .receivedTlv
  received : run.data.state = .receivedTlv → run.data.neighborGptpCapable = true ∧
    run.now < run.data.timeoutTime ∧ ∃ start log, run.last = some (start, log) ∧
      run.data.timeoutTime.toNat =
        start.toNat + wholeTimeout run.data.gPtpCapableReceiptTimeout log
  expired : run.data.state = .initialise → ∀ start log, run.last = some (start, log) →
    start.toNat + wholeTimeout run.data.gPtpCapableReceiptTimeout log ≤ run.now.toNat

structure Sound (run : CapableRun) : Prop where
  rests : run.data.Rests
  initial : run.data.state = .initialise → run.data.neighborGptpCapable = false
  past : ∀ start log, run.last = some (start, log) → start ≤ run.now
  interrupted : run.interrupted = true → run.last = none
  down : run.up = false → run.interrupted = true
  follows : run.interrupted = false → run.Follows

variable {run : CapableRun}

theorem call_up (isUp : run.up = true) (rests : run.data.Rests) (cts64 : UInt64) :
    run.call cts64 = some { run with
      data := if run.data.rcvdGptpCapableTlv then run.data.taken cts64 else run.data.quiet cts64
      now := cts64
      interrupted := false } := by
  unfold call
  rw [isUp]
  cases arrived : run.data.rcvdGptpCapableTlv with
  | true =>
    rw [CapableReceive.run_taken isUp rests arrived]
    rfl
  | false =>
    rw [CapableReceive.run_quiet isUp rests arrived]
    rfl

theorem call_down (isDown : run.up = false) (cts64 : UInt64) : run.call cts64 =
      some { run with data := run.data.down, now := cts64, interrupted := true } := by
  unfold call
  rw [CapableReceive.run_down isDown, isDown]
  rfl

theorem Sound.setPort (sound : run.Sound) (portOper ptpPortEnabled : Bool) :
    (run.setPort portOper ptpPortEnabled).Sound := by
  unfold CapableRun.setPort
  split
  · rename_i on
    refine ⟨sound.rests, sound.initial, sound.past, sound.interrupted, ?_, ?_⟩
    · intro off
      cases on.symm.trans off
    · intro steady
      have follows := sound.follows steady
      exact ⟨follows.idle, follows.started, follows.received, follows.expired⟩
  · exact ⟨sound.rests, sound.initial, fun _ _ absent => (nomatch absent), fun _ => rfl,
      fun _ => rfl, fun steady => (nomatch steady)⟩

theorem Sound.callDown (sound : run.Sound) (isDown : run.up = false) (cts64 : UInt64) :
    Sound { run with data := run.data.down, now := cts64, interrupted := true } := by
  have none := sound.interrupted (sound.down isDown)
  refine ⟨⟨rfl, nofun⟩, nofun, ?_, fun _ => none, fun _ => rfl, nofun⟩
  intro start log known
  cases none.symm.trans known

theorem sound_reset {data : CapableReceive} (isReset : run.data = data.reset)
    (isUp : run.up = true) (called : run.interrupted = false)
    (idle : data.rcvdGptpCapableTlv = false)
    (past : ∀ start log, run.last = some (start, log) → start ≤ run.now)
    (expired : ∀ start log, run.last = some (start, log) →
      start.toNat + wholeTimeout data.gPtpCapableReceiptTimeout log ≤ run.now.toNat) :
    run.Sound := by
  have rests : run.data.Rests := by
    rw [isReset]
    exact ⟨rfl, nofun⟩
  have follows : run.Follows := by
    constructor
    · rw [isReset]
      exact idle
    · rw [isReset]
      exact Or.inl rfl
    · rw [isReset]
      exact nofun
    · rw [isReset]
      exact fun _ => expired
  refine ⟨rests, ?_, past, ?_, ?_, fun _ => follows⟩
  · intro _
    rw [isReset]
    rfl
  · intro interrupted
    cases called.symm.trans interrupted
  · intro isDown
    cases isUp.symm.trans isDown

theorem sound_waiting (isUp : run.up = true) (called : run.interrupted = false)
    (rests : run.data.Rests) (state : run.data.state = .receivedTlv)
    (idle : run.data.rcvdGptpCapableTlv = false) (capable : run.data.neighborGptpCapable = true)
    (past : ∀ start log, run.last = some (start, log) → start ≤ run.now)
    (inTime : run.now < run.data.timeoutTime)
    (received : ∃ start log, run.last = some (start, log) ∧ run.data.timeoutTime.toNat =
      start.toNat + wholeTimeout run.data.gPtpCapableReceiptTimeout log) :
    run.Sound := by
  have follows : run.Follows := by
    refine ⟨idle, Or.inr state, fun _ => ⟨capable, inTime, received⟩, ?_⟩
    intro initial
    cases state.symm.trans initial
  refine ⟨rests, ?_, past, ?_, ?_, fun _ => follows⟩
  · intro initial
    cases state.symm.trans initial
  · intro interrupted
    cases called.symm.trans interrupted
  · intro isDown
    cases isUp.symm.trans isDown

theorem Sound.deadline (sound : run.Sound) (state : run.data.state = .receivedTlv)
    (expired : run.data.timeoutTime ≤ cts64) (known : run.last = some (start, log)) :
    start.toNat + wholeTimeout run.data.gPtpCapableReceiptTimeout log ≤ cts64.toNat := by
  cases interrupted : run.interrupted with
  | true => cases (sound.interrupted interrupted).symm.trans known
  | false =>
    obtain ⟨_, _, start', log', known', deadline⟩ := (sound.follows interrupted).received state
    cases known.symm.trans known'
    rw [← deadline]
    exact UInt64.le_iff_toNat_le.mp expired

private theorem Sound.receiveDown (sound : run.Sound) (isDown : run.up = false) (log : Int8)
    (cts64 : UInt64) : (run.receive log cts64).Sound := by
  have interrupted := sound.down isDown
  have kept : (run.receive log cts64).last = run.last := by
    rw [receive, isDown]
    rfl
  refine ⟨⟨sound.rests.stable, sound.rests.running⟩, sound.initial, ?_, ?_, fun _ => interrupted,
    ?_⟩
  · rw [kept]
    exact sound.past
  · rw [kept]
    exact sound.interrupted
  · intro steady
    cases interrupted.symm.trans steady

theorem Sound.callQuiet (sound : run.Sound) (later : run.now ≤ cts64)
    (idle : run.data.rcvdGptpCapableTlv = false)
    (stale : run.interrupted = true → run.data.state = .receivedTlv →
      run.data.timeoutTime ≤ cts64) (isUp : run.up = true) :
    Sound { run with data := run.data.quiet cts64, now := cts64, interrupted := false } := by
  have past : ∀ start log, run.last = some (start, log) → start ≤ cts64 := by
    intro start log known
    exact UInt64.le_trans (sound.past start log known) later
  -- A machine that has not run yet, or saw the port down, knows no TLV.
  have forgotten : run.data.state ≠ .initialise → run.data.state ≠ .receivedTlv →
      run.last = none := by
    intro notInitial notReceived
    cases interrupted : run.interrupted with
    | true => exact sound.interrupted interrupted
    | false =>
      rcases (sound.follows interrupted).started with initial | received
      · exact absurd initial notInitial
      · exact absurd received notReceived
  unfold CapableReceive.quiet
  split
  · rename_i state
    split
    · rename_i expired
      exact sound_reset rfl isUp rfl idle past fun start log => sound.deadline state expired
    · rename_i inTime
      have steady : run.interrupted = false := by
        cases interrupted : run.interrupted with
        | true => exact absurd (stale interrupted state) inTime
        | false => rfl
      obtain ⟨capable, _, received⟩ := (sound.follows steady).received state
      exact sound_waiting isUp rfl sound.rests state idle capable past
        (UInt64.not_le.mp inTime) received
  · rename_i state
    have isReset := CapableReceive.reset_self sound.rests state (sound.initial state)
    refine sound_reset isReset.symm isUp rfl idle past ?_
    intro start log known
    cases interrupted : run.interrupted with
    | true => cases (sound.interrupted interrupted).symm.trans known
    | false =>
      have expired := (sound.follows interrupted).expired state start log known
      exact Nat.le_trans expired (UInt64.le_iff_toNat_le.mp later)
  · rename_i notReceived notInitial
    refine sound_reset rfl isUp rfl idle past ?_
    intro start log known
    cases (forgotten notInitial notReceived).symm.trans known

theorem sound_callTaken (isUp : run.up = true)
    (representable : Representable run.data.gPtpCapableReceiptTimeout log cts64) :
    Sound { run with
      data := (run.data.store (some log)).taken cts64
      now := cts64
      last := some (cts64, log)
      interrupted := false } := by
  have deadline : ((run.data.store (some log)).receivedTlvProc cts64).timeoutTime.toNat =
      cts64.toNat + wholeTimeout run.data.gPtpCapableReceiptTimeout log :=
    toNat_deadline representable
  unfold CapableReceive.taken
  simp only
  split
  · rename_i expired
    refine sound_reset rfl isUp rfl rfl ?_ ?_
    · intro start log' known
      cases known
      exact UInt64.le_refl cts64
    · intro start log' known
      cases known
      exact deadline ▸ UInt64.le_iff_toNat_le.mp expired
  · rename_i inTime
    refine sound_waiting isUp rfl ⟨rfl, nofun⟩ rfl rfl rfl ?_ (UInt64.not_le.mp inTime)
      ⟨cts64, log, rfl, deadline⟩
    intro start log' known
    cases known
    exact UInt64.le_refl cts64

end CapableRun

section Runs

variable {timeout : Int8} {portOper ptpPortEnabled : Bool} {run next : CapableRun}

open CapableRun

theorem sound_step (sound : run.Sound) (permitted : run.Permitted event)
    (taken : (capableSystem timeout portOper ptpPortEnabled).step run event = some next) :
    next.Sound := by
  cases event with
  | setPort portOper ptpPortEnabled =>
    cases taken
    exact sound.setPort portOper ptpPortEnabled
  | tlv log cts64 =>
    obtain ⟨later, called⟩ := Option.ite_none_right_eq_some.mp taken
    cases up : run.up with
    | true =>
      have upReceived : (run.receive log cts64).up = true := up
      have stored : (run.receive log cts64).data.Rests := ⟨sound.rests.stable, sound.rests.running⟩
      have arrived : (run.receive log cts64).data.rcvdGptpCapableTlv = true := rfl
      rw [call_up upReceived stored, arrived] at called
      cases called
      have valid := sound_callTaken up (permitted up)
      rw [receive, up]
      exact valid
    | false =>
      have downReceived : (run.receive log cts64).up = false := up
      rw [call_down downReceived] at called
      cases called
      exact (sound.receiveDown up log cts64).callDown downReceived cts64
  | tick cts64 =>
    obtain ⟨later, called⟩ := Option.ite_none_right_eq_some.mp taken
    cases up : run.up with
    | true =>
      obtain ⟨idle, stale, _⟩ := permitted up
      rw [call_up up sound.rests, idle] at called
      cases called
      exact sound.callQuiet later idle stale up
    | false =>
      rw [call_down up] at called
      cases called
      exact sound.callDown up cts64

private theorem sound_start : (capableSystem timeout portOper ptpPortEnabled).start.Sound := by
  refine ⟨⟨rfl, nofun⟩, nofun, ?_, fun _ => rfl, fun _ => rfl, nofun⟩
  exact fun _ _ known => (nomatch known)

theorem follows_tick (sound : run.Sound) (permitted : run.Permitted (.tick cts64))
    (taken : (capableSystem timeout portOper ptpPortEnabled).step run (.tick cts64) = some next)
    (isUp : next.up = true) : next.data.neighborGptpCapable = true ↔ next.NeighborCapable := by
  have valid := sound_step sound permitted taken
  obtain ⟨later, called⟩ := Option.ite_none_right_eq_some.mp taken
  have up : run.up = true := by
    obtain ⟨data, _, rfl⟩ := Option.map_eq_some_iff.mp called
    exact isUp
  obtain ⟨idle, _, exact⟩ := permitted up
  rw [call_up up sound.rests, idle, if_neg Bool.false_ne_true] at called
  cases called
  have follows := valid.follows rfl
  rcases follows.started with initial | received
  · have incapable := valid.initial initial
    rw [incapable]
    refine ⟨nofun, ?_⟩
    rintro ⟨start, log, known, _, inTime⟩
    have expired := follows.expired initial start log known
    have timeout := CapableReceive.timeout_quiet cts64 run.data
    simp only [timeout] at expired inTime
    exact absurd inTime (exact (start, log) known expired)
  · obtain ⟨capable, before, start, log, known, deadline⟩ := follows.received received
    refine ⟨fun _ => ⟨start, log, known, valid.past start log known, ?_⟩, fun _ => capable⟩
    apply inTime_of_lt _ (valid.past start log known)
    rw [← deadline]
    exact UInt64.lt_iff_toNat_lt.mp before

/-- In every run whose events are all permitted, after every tick of a port that is up the
neighbor counts as capable if and only if it is. -/
theorem capable_follows_tlvs (reachable : (capableSystem timeout portOper ptpPortEnabled).Reachable
      CapableRun.Permitted run) (permitted : run.Permitted (.tick cts64))
    (taken : (capableSystem timeout portOper ptpPortEnabled).step run (.tick cts64) = some next)
    (isUp : next.up = true) : next.data.neighborGptpCapable = true ↔ next.NeighborCapable := by
  refine follows_tick ?_ permitted taken isUp
  exact reachable.invariant CapableRun.Sound sound_start
    fun _ _ _ sound allowed stepped => sound_step sound allowed stepped

end Runs

namespace Sample

def received : List CapableEvent :=
  [.tick 0, .setPort true true, .tick 500000000, .tlv 0 1000000000]

def early : List CapableEvent := [.tick 0, .tlv 0 1000000000, .setPort true true]

def tick : CapableEvent := .tick 2000000000

end Sample

/-- After the TLV the neighbor is capable. -/
theorem capable_follows_tlvs_received :
    ∃ run next, (capableSystem 9 false true).Reachable CapableRun.Permitted run ∧
      (capableSystem 9 false true).step run Sample.tick = some next ∧
      next.data.neighborGptpCapable = true ∧ next.NeighborCapable := by
  have ran : (((capableSystem 9 false true).restrict fun run event =>
      decide (run.Permitted event)).run (capableSystem 9 false true).start Sample.received).map
      (fun run => (decide (run.Permitted Sample.tick),
        ((capableSystem 9 false true).step run Sample.tick).map
          fun next => (next.up, next.data.neighborGptpCapable))) =
      some (true, some (true, true)) := by
    decide +kernel
  obtain ⟨run, finished, values⟩ := Option.map_eq_some_iff.mp ran
  obtain ⟨permitted, stepped⟩ := Prod.mk.inj values
  obtain ⟨next, taken, flags⟩ := Option.map_eq_some_iff.mp stepped
  obtain ⟨up, capable⟩ := Prod.mk.inj flags
  have reachable := (System.reachable_of_run finished).of_restrict fun _ _ => of_decide_eq_true
  have follows := capable_follows_tlvs reachable (of_decide_eq_true permitted) taken up
  exact ⟨run, next, reachable, taken, capable, follows.mp capable⟩

/-- A TLV that a port received while it was down makes the neighbor capable when the port
comes up. -/
theorem capable_without_tlv :
    ¬ ∀ (timeout : Int8) (portOper ptpPortEnabled : Bool) (run next : CapableRun) (cts64 : UInt64),
      (capableSystem timeout portOper ptpPortEnabled).Reachable System.anyStep run →
      (capableSystem timeout portOper ptpPortEnabled).step run (.tick cts64) = some next →
      next.up = true → (next.data.neighborGptpCapable = true ↔ next.NeighborCapable) := by
  intro all
  have ran : (((capableSystem 9 false true).run (capableSystem 9 false true).start
      Sample.early).map fun run =>
        ((capableSystem 9 false true).step run Sample.tick).map fun next =>
          (next.up, next.data.neighborGptpCapable, next.last)) =
      some (some (true, true, none)) := by
    decide +kernel
  obtain ⟨run, finished, stepped⟩ := Option.map_eq_some_iff.mp ran
  obtain ⟨next, taken, values⟩ := Option.map_eq_some_iff.mp stepped
  simp only [Prod.mk.injEq] at values
  obtain ⟨up, capable, forgotten⟩ := values
  have follows := all 9 false true run next _ (System.reachable_of_run finished) taken up
  obtain ⟨start, log, known, _⟩ := follows.mp capable
  cases forgotten.symm.trans known

end EnetTsn.Interval
