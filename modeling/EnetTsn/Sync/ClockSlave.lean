import EnetTsn.Library.Run
import EnetTsn.Sync.SiteSync

namespace EnetTsn.Sync

open EnetTsn.Gptp EnetTsn.Library

/-- `ExtendedTimestamp`: `nanoseconds` and `subns` are `msb` and `lsb` of its fraction. -/
structure ExtendedTimestamp where
  nanoseconds : UInt32
  subns : UInt16
  secondsLsb : UInt32
  secondsMsb : UInt16
  deriving DecidableEq, Repr

inductive ClockSlaveState where
  | init
  | initializing
  | sendSyncIndication
  | reaction
  deriving DecidableEq, Repr

/-- What `clock_slave_sync_sm` reads of its domain, its clock and the configuration, and the
port that `local_ppg` of the received structure points to. -/
structure ClockSlaveInstance where
  BEGIN : Bool
  instanceEnable : Bool
  clock : Int64
  staticPortStateSlavePort : Int
  localPpg : Option SyncPort

/-- `clock_slave_sync_data`, with the global variables it sets. -/
structure ClockSlave where
  state : ClockSlaveState
  lastState : ClockSlaveState
  rcvdPSSync : Bool
  rcvdPSSyncPtr : PortSyncSync
  rcvdLocalClockTick : Bool
  clockSlaveTime : ExtendedTimestamp
  lastSyncSeqID : UInt16
  syncReceiptTime : ExtendedTimestamp
  syncReceiptLocalTime : UInt64
  gmTimeBaseIndicator : UInt16
  lastGmPhaseChange : ScaledNs
  lastGmFreqChange : ℚ
  gmIdentity : ClockIdentity

def propagationDelay (port : SyncPort) (rateRatio : ℚ) : ℚ :=
  Binary64.add
    (Binary64.mul (Binary64.round port.neighborPropDelay.toNat)
      (Binary64.div rateRatio port.neighborRateRatio))
    (Binary64.round port.delayAsymmetry.toNat)

namespace ClockSlave

def moveTo (state : ClockSlaveState) (data : ClockSlave) : ClockSlave :=
  { data with state := state }

def allstateCondition (inst : ClockSlaveInstance) (data : ClockSlave) : ClockSlaveState :=
  if inst.BEGIN || !inst.instanceEnable then .initializing else data.state

def initializingCondition (data : ClockSlave) : ClockSlaveState :=
  if data.rcvdPSSync || data.rcvdLocalClockTick then .sendSyncIndication else .initializing

def updateSlaveTime (inst : ClockSlaveInstance) (data : ClockSlave) : ClockSlave :=
  { data with clockSlaveTime := { data.clockSlaveTime with
      secondsLsb := (inst.clock / 1000000000).toUInt64.toUInt32
      nanoseconds := (inst.clock % 1000000000).toUInt64.toUInt32 } }

/-- The nanoseconds that `send_sync_indication_proc` adds up. -/
def receiptNsec (localPpg : Option SyncPort) (source : PortSyncSync) : UInt64 :=
  let nsec := source.preciseOriginTimestamp.secondsLsb.toUInt64 * 1000000000 +
    source.preciseOriginTimestamp.nanoseconds.toUInt64 +
    source.followUpCorrectionField.nsec.toUInt64
  match localPpg with
  | none => nsec
  | some port => nsec + truncateUInt64 (propagationDelay port source.rateRatio)

/-- What `send_sync_indication_proc` stores of a structure that a port handed on. -/
def indicate (inst : ClockSlaveInstance) (data : ClockSlave) : ClockSlave :=
  let source := data.rcvdPSSyncPtr
  let nsec := receiptNsec inst.localPpg source
  { data with
    lastSyncSeqID := source.lastSyncSeqID
    syncReceiptTime := { data.syncReceiptTime with
      secondsLsb := (nsec / 1000000000).toUInt32
      nanoseconds := (nsec % 1000000000).toUInt32 }
    syncReceiptLocalTime := match inst.localPpg with
      | none => source.upstreamTxTime
      | some port => source.upstreamTxTime + truncateUInt64 (linkDelay port source.rateRatio)
    gmTimeBaseIndicator := source.gmTimeBaseIndicator
    lastGmPhaseChange := source.lastGmPhaseChange
    lastGmFreqChange := source.lastGmFreqChange
    gmIdentity := if 0 < inst.staticPortStateSlavePort then source.sourcePortIdentity.clockIdentity
      else data.gmIdentity }

/-- `send_sync_indication_proc`. A structure of the clock master has no port, and is left. -/
def sendSyncIndicationProc (inst : ClockSlaveInstance) (data : ClockSlave) :
    ClockSlave × Option ExtendedTimestamp :=
  let handedOn := data.rcvdPSSync && data.rcvdPSSyncPtr.localPortIndex != 0
  let indicated := if handedOn then indicate inst data else data
  let updated := if data.rcvdLocalClockTick then updateSlaveTime inst indicated else indicated
  ({ updated with rcvdPSSync := false, rcvdLocalClockTick := false },
    if handedOn then some updated.syncReceiptTime else none)

def sendSyncIndicationCondition (data : ClockSlave) : ClockSlave :=
  if data.rcvdPSSync || data.rcvdLocalClockTick then
    { data with lastState := .reaction, state := .sendSyncIndication }
  else moveTo .sendSyncIndication data

def arm (inst : ClockSlaveInstance) (stateChange : Bool) (data : ClockSlave) :
    ClockSlave × Option ExtendedTimestamp :=
  match data.state with
  | .init => (moveTo .initializing data, none)
  | .initializing =>
    let entered := if stateChange then { data with rcvdPSSync := false } else data
    (moveTo (initializingCondition entered) entered, none)
  | .sendSyncIndication =>
    if stateChange then
      (sendSyncIndicationCondition (sendSyncIndicationProc inst data).1,
        (sendSyncIndicationProc inst data).2)
    else (sendSyncIndicationCondition data, none)
  | .reaction => (data, none)

def machine (inst : ClockSlaveInstance) : Machine ClockSlave ClockSlaveState ExtendedTimestamp where
  state := ClockSlave.state
  lastState := ClockSlave.lastState
  setLastState data state := { data with lastState := state }
  arm := arm inst

/-- The memory that `clock_slave_sync_sm_init` clears. -/
def zero : ClockSlave where
  state := .init
  lastState := .init
  rcvdPSSync := false
  rcvdPSSyncPtr := SiteSync.zeroPortSyncSync
  rcvdLocalClockTick := false
  clockSlaveTime := { nanoseconds := 0, subns := 0, secondsLsb := 0, secondsMsb := 0 }
  lastSyncSeqID := 0
  syncReceiptTime := { nanoseconds := 0, subns := 0, secondsLsb := 0, secondsMsb := 0 }
  syncReceiptLocalTime := 0
  gmTimeBaseIndicator := 0
  lastGmPhaseChange := { subns := 0, nsec := 0, nsecMsb := 0 }
  lastGmFreqChange := 0
  gmIdentity := ClockIdentity.fill 0

end ClockSlave

open ClockSlave in
/-- `clock_slave_sync_sm`; see `clockSlaveSyncSm_total`. -/
def clockSlaveSyncSm (inst : ClockSlaveInstance) (data : ClockSlave) :
    Option (ClockSlave × Option ExtendedTimestamp) :=
  (machine inst).run 8 (moveTo (allstateCondition inst data) data)

def clockSlaveSyncSmPortSyncSync (inst : ClockSlaveInstance) (portSyncSync : PortSyncSync)
    (data : ClockSlave) : Option (ClockSlave × Option ExtendedTimestamp) :=
  clockSlaveSyncSm inst { data with rcvdPSSync := true, rcvdPSSyncPtr := portSyncSync }

def clockSlaveSyncSmLoclClockUpdate (inst : ClockSlaveInstance) (data : ClockSlave) :
    Option (ClockSlave × Option ExtendedTimestamp) :=
  clockSlaveSyncSm inst { data with rcvdLocalClockTick := true }

inductive ClockSlaveStep where
  | portSyncSync (inst : ClockSlaveInstance) (source : PortSyncSync)
  | loclClockUpdate (inst : ClockSlaveInstance)

def ClockSlave.perform (data : ClockSlave) :
    ClockSlaveStep → Option (ClockSlave × Option ExtendedTimestamp)
  | .portSyncSync inst source => clockSlaveSyncSmPortSyncSync inst source data
  | .loclClockUpdate inst => clockSlaveSyncSmLoclClockUpdate inst data

def clockSlaveSystem : System ClockSlave ClockSlaveStep where
  start := ClockSlave.zero
  step data event := (data.perform event).map Prod.fst

namespace ClockSlave

section Passes

variable (inst : ClockSlaveInstance) (data : ClockSlave)

def weight (data : ClockSlave) : Nat :=
  match data.state with
  | .init => 4
  | .initializing => 3
  | .sendSyncIndication => if data.lastState = .sendSyncIndication then 2 else 1
  | .reaction => 0

private theorem sendSyncIndicationCondition_proc :
    sendSyncIndicationCondition (sendSyncIndicationProc inst data).1 =
      moveTo .sendSyncIndication (sendSyncIndicationProc inst data).1 := by
  simp [sendSyncIndicationCondition, sendSyncIndicationProc]

def remembered (data : ClockSlave) : ClockSlave := { data with lastState := data.state }

private theorem initializingCondition_cases (data : ClockSlave) :
    initializingCondition data = .sendSyncIndication ∨
      initializingCondition data = .initializing := by
  unfold initializingCondition
  split
  · exact .inl rfl
  · exact .inr rfl

theorem switch_initializing (state : data.state = .initializing) :
    ∃ entered, (entered = remembered data ∨ entered = { remembered data with rcvdPSSync := false }) ∧
      (machine inst).switch data = (moveTo (initializingCondition entered) entered, none) := by
  refine ⟨if data.lastState != .initializing then { remembered data with rcvdPSSync := false }
    else remembered data, ?_, ?_⟩
  · split
    · exact .inr rfl
    · exact .inl rfl
  · simp only [Machine.switch, machine, arm, remembered, state]

theorem switch_entering (state : data.state = .sendSyncIndication)
    (entering : data.lastState ≠ .sendSyncIndication) : (machine inst).switch data =
      (moveTo .sendSyncIndication (sendSyncIndicationProc inst (remembered data)).1,
        (sendSyncIndicationProc inst (remembered data)).2) := by
  rw [← sendSyncIndicationCondition_proc]
  simp only [Machine.switch, machine, arm, remembered, state, bne_iff_ne.mpr entering, if_true]

theorem switch_staying (state : data.state = .sendSyncIndication)
    (staying : data.lastState = .sendSyncIndication) :
    (machine inst).switch data = (sendSyncIndicationCondition (remembered data), none) := by
  simp only [Machine.switch, machine, arm, remembered, state, staying, bne_self_eq_false,
    Bool.false_eq_true, if_false]

private theorem lastState_sendSyncIndicationProc :
    (sendSyncIndicationProc inst data).1.lastState = data.lastState := by
  unfold sendSyncIndicationProc
  dsimp only
  split <;> split <;> rfl

theorem weight_switch_lt (next : ClockSlave) (silent : (machine inst).switch data = (next, none))
    (unstable : next.lastState ≠ next.state) : weight next < weight data := by
  cases state : data.state with
  | init =>
    simp only [Machine.switch, machine, arm, state, Prod.mk.injEq, and_true] at silent
    subst silent
    simp [weight, moveTo, state]
  | reaction =>
    simp only [Machine.switch, machine, arm, state, Prod.mk.injEq, and_true] at silent
    subst silent
    exact absurd rfl unstable
  | initializing =>
    obtain ⟨entered, same, out⟩ := switch_initializing inst data state
    cases out.symm.trans silent
    have last : entered.lastState = .initializing := by
      rcases same with rfl | rfl <;> exact state
    rcases initializingCondition_cases entered with sends | waits
    · simp [weight, moveTo, sends, last, state]
    · exact absurd (last.trans waits.symm) unstable
  | sendSyncIndication =>
    by_cases staying : data.lastState = .sendSyncIndication
    · cases (switch_staying inst data state staying).symm.trans silent
      unfold sendSyncIndicationCondition at unstable ⊢
      split at unstable
      · rename_i pending
        simp [pending, weight, state, staying]
      · exact absurd state unstable
    · have out := congrArg Prod.fst ((switch_entering inst data state staying).symm.trans silent)
      subst out
      exact absurd ((lastState_sendSyncIndicationProc inst _).trans state) unstable

end Passes

def WholeNanoseconds (data : ClockSlave) : Prop :=
  data.syncReceiptTime.subns = 0 ∧ data.syncReceiptTime.secondsMsb = 0

def receiptTime (localPpg : Option SyncPort) (source : PortSyncSync) : ExtendedTimestamp where
  nanoseconds := (receiptNsec localPpg source % 1000000000).toUInt32
  subns := 0
  secondsLsb := (receiptNsec localPpg source / 1000000000).toUInt32
  secondsMsb := 0

section Results

variable {inst : ClockSlaveInstance} {data : ClockSlave}

private theorem syncReceiptTime_indicate (whole : data.WholeNanoseconds) :
    (indicate inst data).syncReceiptTime = receiptTime inst.localPpg data.rcvdPSSyncPtr := by
  obtain ⟨subns, secondsMsb⟩ := whole
  simp only [indicate, receiptTime, subns, secondsMsb]

section

variable (inst : ClockSlaveInstance)

private theorem sendSyncIndicationProc_cases (data : ClockSlave) :
    (sendSyncIndicationProc inst data).1.syncReceiptTime = data.syncReceiptTime ∧
        (sendSyncIndicationProc inst data).2 = none ∨
      (sendSyncIndicationProc inst data).1.syncReceiptTime = (indicate inst data).syncReceiptTime ∧
        (sendSyncIndicationProc inst data).2 = some (indicate inst data).syncReceiptTime := by
  cases handedOn : data.rcvdPSSync && data.rcvdPSSyncPtr.localPortIndex != 0 with
  | false =>
    simp only [sendSyncIndicationProc, handedOn, Bool.false_eq_true, if_false]
    refine .inl ⟨?_, trivial⟩
    split <;> rfl
  | true =>
    simp only [sendSyncIndicationProc, handedOn, if_true]
    refine .inr ⟨?_, congrArg some ?_⟩
    all_goals split <;> rfl

private theorem rcvdPSSyncPtr_sendSyncIndicationProc (data : ClockSlave) :
    (sendSyncIndicationProc inst data).1.rcvdPSSyncPtr = data.rcvdPSSyncPtr := by
  unfold sendSyncIndicationProc
  dsimp only
  split <;> split <;> rfl

structure Indicating (source : PortSyncSync) (data : ClockSlave) : Prop where
  pointer : data.rcvdPSSyncPtr = source
  whole : data.WholeNanoseconds

theorem Indicating.proc (indicating : Indicating source data) :
    Indicating source (sendSyncIndicationProc inst data).1 ∧
      ∀ time, (sendSyncIndicationProc inst data).2 = some time →
        time = receiptTime inst.localPpg source := by
  have pointer := (rcvdPSSyncPtr_sendSyncIndicationProc inst data).trans indicating.pointer
  rcases sendSyncIndicationProc_cases inst data with ⟨kept, silent⟩ | ⟨stored, returned⟩
  · refine ⟨⟨pointer, ?_⟩, fun time some => nomatch silent.symm.trans some⟩
    rw [WholeNanoseconds, kept]
    exact indicating.whole
  · rw [syncReceiptTime_indicate indicating.whole, indicating.pointer] at stored returned
    refine ⟨⟨pointer, ?_⟩, fun time some => ?_⟩
    · rw [WholeNanoseconds, stored]
      exact ⟨rfl, rfl⟩
    · exact Option.some.inj (some.symm.trans returned)

theorem Indicating.switch (indicating : Indicating source data) :
    Indicating source ((machine inst).switch data).1 ∧
      ∀ time, ((machine inst).switch data).2 = some time →
        time = receiptTime inst.localPpg source := by
  have remembers : Indicating source (remembered data) := ⟨indicating.pointer, indicating.whole⟩
  cases state : data.state with
  | init | reaction =>
    simp only [Machine.switch, machine, arm, state]
    exact ⟨⟨indicating.pointer, indicating.whole⟩, by simp⟩
  | initializing =>
    obtain ⟨entered, same, out⟩ := switch_initializing inst data state
    rw [out]
    refine ⟨?_, by simp⟩
    rcases same with rfl | rfl <;> exact ⟨indicating.pointer, indicating.whole⟩
  | sendSyncIndication =>
    by_cases staying : data.lastState = .sendSyncIndication
    · rw [switch_staying inst data state staying]
      refine ⟨?_, by simp⟩
      unfold sendSyncIndicationCondition
      split <;> exact ⟨indicating.pointer, indicating.whole⟩
    · rw [switch_entering inst data state staying]
      obtain ⟨kept, returned⟩ := remembers.proc inst
      exact ⟨⟨kept.pointer, kept.whole⟩, returned⟩

end

theorem Indicating.clockSlaveSyncSm (indicating : Indicating source data)
    (finished : clockSlaveSyncSm inst data = some (next, returned)) :
    Indicating source next ∧ ∀ time, returned = some time →
      time = receiptTime inst.localPpg source := by
  have start : Indicating source (moveTo (allstateCondition inst data) data) :=
    ⟨indicating.pointer, indicating.whole⟩
  refine ⟨(machine inst).run_preserves (Indicating source) (fun _ kept => (kept.switch inst).1) start
    finished, ?_⟩
  rintro time rfl
  refine (machine inst).run_result (Indicating source)
    (fun time => time = receiptTime inst.localPpg source) ?_ ?_ start finished
  · intro current next kept silent _
    have switched := (kept.switch inst).1
    rwa [silent] at switched
  · intro current next value kept out
    exact (kept.switch inst).2 value (congrArg Prod.snd out)

end Results

theorem WholeNanoseconds.of_reachable (reachable : clockSlaveSystem.Reachable System.anyStep data) :
    data.WholeNanoseconds := by
  have start : clockSlaveSystem.start.WholeNanoseconds := ⟨rfl, rfl⟩
  refine reachable.invariant WholeNanoseconds start ?_
  intro data event next whole _ done
  obtain ⟨⟨final, returned⟩, finished, rfl⟩ := Option.map_eq_some_iff.mp done
  cases event with
  | portSyncSync inst source =>
    have indicating : Indicating source
        { data with rcvdPSSync := true, rcvdPSSyncPtr := source } := ⟨rfl, whole⟩
    exact (indicating.clockSlaveSyncSm finished).1.whole
  | loclClockUpdate inst =>
    have indicating : Indicating data.rcvdPSSyncPtr
        { data with rcvdLocalClockTick := true } := ⟨rfl, whole⟩
    exact (indicating.clockSlaveSyncSm finished).1.whole

end ClockSlave

open ClockSlave in
theorem clockSlaveSyncSm_total (inst : ClockSlaveInstance) (data : ClockSlave) :
    ∃ next returned, clockSlaveSyncSm inst data = some (next, returned) := by
  refine (machine inst).run_total (fun _ => True) weight ?_ trivial ?_
  · exact fun data next _ silent unstable =>
      ⟨trivial, weight_switch_lt inst data next silent unstable⟩
  · unfold weight
    split
    case h_3 => split <;> decide
    all_goals decide

theorem clockSlaveSyncSmPortSyncSync_result
    (reachable : clockSlaveSystem.Reachable System.anyStep data)
    (finished : clockSlaveSyncSmPortSyncSync inst source data = some (next, some time)) :
    time = ClockSlave.receiptTime inst.localPpg source := by
  have whole := ClockSlave.WholeNanoseconds.of_reachable reachable
  have indicating : ClockSlave.Indicating source
      { data with rcvdPSSync := true, rcvdPSSyncPtr := source } := ⟨rfl, whole⟩
  exact (indicating.clockSlaveSyncSm finished).2 time rfl

end EnetTsn.Sync
