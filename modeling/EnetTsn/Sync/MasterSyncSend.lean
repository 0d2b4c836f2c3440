import EnetTsn.Sync.PortSync

/-!
`clock_master_sync_send_sm`: a grandmaster hands on its own time again and again. A call sends
when the timer of the machine has run down, whether or not the instance is enabled.
-/

namespace EnetTsn.Sync

open EnetTsn.Gptp EnetTsn.Library EnetTsn.Md

inductive MasterSyncState where
  | init
  | initializing
  | sendSyncIndication
  | reaction
  deriving DecidableEq

structure MasterSyncInstance extends FollowUpInformation where
  BEGIN : Bool
  instanceEnable : Bool
  domainIndex : UInt8
  thisClock : ClockIdentity
  clockMasterSyncInterval : UInt64
  clockMasterLogSyncInterval : Int8
  thisTime : Int64
  masterTime : Int64

structure MasterSyncSend where
  state : MasterSyncState
  lastState : MasterSyncState
  syncSendTime : UInt64

def setPSSyncCMSS (inst : MasterSyncInstance) : PortSyncSync :=
  { inst.toFollowUpInformation with
    localPortIndex := 0
    domainIndex := inst.domainIndex
    upstreamTxTime := inst.thisTime.toUInt64
    preciseOriginTimestamp := {
      nanoseconds := (inst.masterTime % 1000000000).toUInt64.toUInt32
      secondsLsb := (inst.masterTime / 1000000000).toUInt64.toUInt32
      secondsMsb := 0 }
    followUpCorrectionField := ⟨0, 0, 0⟩
    sourcePortIdentity := ⟨inst.thisClock, 0⟩
    logMessageInterval := inst.clockMasterLogSyncInterval
    syncReceiptTimeoutTime := -1
    syncNextSendTimeoutTime := -1
    lastSyncSeqID := 0 }

namespace MasterSyncSend

def arm (inst : MasterSyncInstance) (cts64 : UInt64) (stateChange : Bool) (data : MasterSyncSend) :
    MasterSyncSend × Option PortSyncSync :=
  let entered := if stateChange then
    { data with syncSendTime := cts64 + inst.clockMasterSyncInterval } else data
  match data.state with
  | .init => ({ data with state := .initializing }, none)
  | .initializing => ({ entered with
      state := if entered.syncSendTime ≤ cts64 then .sendSyncIndication else .initializing }, none)
  | .sendSyncIndication =>
    if stateChange then (entered, some (setPSSyncCMSS inst))
    else (if data.syncSendTime ≤ cts64 then { data with lastState := .reaction } else data, none)
  | .reaction => (data, none)

def machine (inst : MasterSyncInstance) (cts64 : UInt64) :
    Machine MasterSyncSend MasterSyncState PortSyncSync where
  state := MasterSyncSend.state
  lastState := MasterSyncSend.lastState
  setLastState data state := { data with lastState := state }
  arm := arm inst cts64

/-- `allstate_condition` sends the machine back to its start. -/
def forced (inst : MasterSyncInstance) : Bool := inst.BEGIN || !inst.instanceEnable

def start : MasterSyncSend := ⟨.init, .init, 0⟩

end MasterSyncSend

open MasterSyncSend in
def clockMasterSyncSendSm (inst : MasterSyncInstance) (cts64 : UInt64) (data : MasterSyncSend) :
    Option (MasterSyncSend × Option PortSyncSync) :=
  (machine inst cts64).run 4 { data with
    state := if forced inst then .initializing else data.state }

/-- The calls of a run with their times: what is sent and when, unless a call does not end. -/
def masterSyncs (data : MasterSyncSend) :
    List (MasterSyncInstance × UInt64) → Option (List (UInt64 × PortSyncSync))
  | [] => some []
  | (inst, cts64) :: later => do
    let (next, sent) ← clockMasterSyncSendSm inst cts64 data
    let rest ← masterSyncs next later
    return (sent.map (cts64, ·)).toList ++ rest

structure SendTimer where
  due : UInt64
  sent : Bool

/-- A call sets the timer when it sends, when it is the first one, and when it is forced to after
one that sent; it sends when the timer is due. -/
def SendTimer.call (timer : Option SendTimer) (inst : MasterSyncInstance) (cts64 : UInt64) :
    SendTimer × Bool :=
  let due := cts64 + inst.clockMasterSyncInterval
  match timer with
  | none => (⟨due, due ≤ cts64⟩, due ≤ cts64)
  | some timer =>
    if MasterSyncSend.forced inst && timer.sent then (⟨due, due ≤ cts64⟩, due ≤ cts64)
    else if timer.due ≤ cts64 then (⟨due, true⟩, true)
    else (timer, false)

def timedSyncs (timer : Option SendTimer) :
    List (MasterSyncInstance × UInt64) → List (UInt64 × PortSyncSync)
  | [] => []
  | (inst, cts64) :: later =>
    let (next, sends) := SendTimer.call timer inst cts64
    (if sends then [(cts64, setPSSyncCMSS inst)] else []) ++ timedSyncs (some next) later

def MasterSyncSend.Holds (data : MasterSyncSend) : Option SendTimer → Prop
  | none => data = start
  | some timer => data =
    let state := if timer.sent then .sendSyncIndication else .initializing
    ⟨state, state, timer.due⟩

namespace MasterSyncSend

variable (inst : MasterSyncInstance) (cts64 : UInt64)

theorem run_entering (other : last ≠ .initializing) :
    (machine inst cts64).run (more + 2) ⟨.initializing, last, old⟩ =
      let due := cts64 + inst.clockMasterSyncInterval
      some (if due ≤ cts64 then (⟨.sendSyncIndication, .sendSyncIndication, due⟩,
          some (setPSSyncCMSS inst))
        else (⟨.initializing, .initializing, due⟩, none)) := by
  by_cases zero : cts64 + inst.clockMasterSyncInterval ≤ cts64 <;>
    simp [Machine.run, iterate, Machine.turn, Machine.switch, machine, arm, other, zero]

private theorem run_waiting (sent : Bool) :
    let state : MasterSyncState := if sent then .sendSyncIndication else .initializing
    (machine inst cts64).run 4 ⟨state, state, due⟩ =
      some (if due ≤ cts64 then (⟨.sendSyncIndication, .sendSyncIndication,
          cts64 + inst.clockMasterSyncInterval⟩, some (setPSSyncCMSS inst))
        else (⟨state, state, due⟩, none)) := by
  cases sent <;> by_cases reached : due ≤ cts64 <;>
    simp [Machine.run, iterate, Machine.turn, Machine.switch, machine, arm, reached]

theorem call_eq (holds : data.Holds timer) : ∃ next,
    clockMasterSyncSendSm inst cts64 data = some (next,
      if (SendTimer.call timer inst cts64).2 then some (setPSSyncCMSS inst) else none) ∧
    next.Holds (some (SendTimer.call timer inst cts64).1) := by
  cases timer with
  | none =>
    cases holds
    have first : clockMasterSyncSendSm inst cts64 start = (machine inst cts64).run 4 start ∨
        clockMasterSyncSendSm inst cts64 start =
          (machine inst cts64).run 4 ⟨.initializing, .init, 0⟩ := by
      cases off : forced inst <;> simp [clockMasterSyncSendSm, off, start]
    have moved : (machine inst cts64).run 4 start =
        (machine inst cts64).run 3 ⟨.initializing, .init, 0⟩ :=
      Machine.run_of_unstable _ rfl (by simp [machine])
    rw [moved, run_entering inst cts64 (by simp), run_entering inst cts64 (by simp), or_self] at first
    rw [first]
    by_cases zero : cts64 + inst.clockMasterSyncInterval ≤ cts64 <;>
      simp [SendTimer.call, zero, Holds]
  | some timer =>
    cases holds
    by_cases again : forced inst && timer.sent
    · obtain ⟨off, sent⟩ := Bool.and_eq_true_iff.mp again
      simp only [clockMasterSyncSendSm, off, sent, if_true]
      rw [run_entering inst cts64 (by simp)]
      by_cases zero : cts64 + inst.clockMasterSyncInterval ≤ cts64 <;>
        simp [SendTimer.call, zero, Holds, off, sent]
    · have same : (if forced inst then MasterSyncState.initializing else
          if timer.sent then .sendSyncIndication else .initializing) =
          if timer.sent then .sendSyncIndication else .initializing := by
        cases off : forced inst <;> cases sent : timer.sent <;> simp_all
      simp only [clockMasterSyncSendSm, same]
      rw [run_waiting inst cts64 timer.sent]
      by_cases reached : timer.due ≤ cts64 <;>
        simp [SendTimer.call, eq_false_of_ne_true again, reached, Holds]

theorem masterSyncs_eq (calls : List (MasterSyncInstance × UInt64)) (holds : data.Holds timer) :
    masterSyncs data calls = some (timedSyncs timer calls) := by
  induction calls generalizing data timer with
  | nil => rfl
  | cons call later ih =>
    obtain ⟨next, called, held⟩ := call_eq call.1 call.2 holds
    simp only [masterSyncs, timedSyncs, called, Option.bind_eq_bind, Option.bind_some, ih held]
    cases (SendTimer.call timer call.1 call.2).2 <;> rfl

end MasterSyncSend

theorem master_sync_refines (calls : List (MasterSyncInstance × UInt64)) :
    masterSyncs .start calls = some (timedSyncs none calls) := by
  have started : MasterSyncSend.start.Holds none := rfl
  exact MasterSyncSend.masterSyncs_eq calls started

/-- The time of a call is not so late that an interval of at least `gap` from it wraps. -/
def Spaced (gap : Nat) (call : MasterSyncInstance × UInt64) : Prop :=
  gap ≤ call.1.clockMasterSyncInterval.toNat ∧
    call.2.toNat + call.1.clockMasterSyncInterval.toNat < 2 ^ 64

theorem SendTimer.call_paced (spaced : Spaced gap (inst, cts64)) (after : last ≤ cts64.toNat)
    (due : ∀ held ∈ timer, last + gap ≤ held.due.toNat) :
    ((call timer inst cts64).2 = true → last + gap ≤ cts64.toNat) ∧
      ∀ held ∈ some (call timer inst cts64).1,
        (if (call timer inst cts64).2 then cts64.toNat else last) + gap ≤ held.due.toNat := by
  obtain ⟨long, fits⟩ := spaced
  dsimp only at long fits
  have sum : (cts64 + inst.clockMasterSyncInterval).toNat =
      cts64.toNat + inst.clockMasterSyncInterval.toNat := by
    rw [UInt64.toNat_add, Nat.mod_eq_of_lt fits]
  simp only [Option.mem_some_iff, forall_eq']
  unfold call
  cases timer with
  | none =>
    simp only [decide_eq_true_eq, UInt64.le_iff_toNat_le, sum]
    split <;> omega
  | some timer =>
    have late := due timer rfl
    dsimp only
    split
    · simp only [decide_eq_true_eq, UInt64.le_iff_toNat_le, sum]
      split <;> omega
    · split
      · rename_i reached
        rw [UInt64.le_iff_toNat_le] at reached
        simp only [if_true, sum]
        omega
      · simpa using late

theorem timedSyncs_paced {calls : List (MasterSyncInstance × UInt64)}
    (ordered : calls.Pairwise fun first second => first.2 ≤ second.2)
    (spaced : ∀ call ∈ calls, Spaced gap call) (after : ∀ call ∈ calls, last ≤ call.2.toNat)
    (due : ∀ held ∈ timer, last + gap ≤ held.due.toNat) :
    (∀ sync ∈ timedSyncs timer calls, last + gap ≤ sync.1.toNat) ∧
      (timedSyncs timer calls).Pairwise fun first second =>
        first.1.toNat + gap ≤ second.1.toNat := by
  induction calls generalizing timer last with
  | nil => exact ⟨fun _ member => absurd member List.not_mem_nil, .nil⟩
  | cons call later ih =>
    obtain ⟨inst, cts64⟩ := call
    obtain ⟨following, rest⟩ := List.pairwise_cons.mp ordered
    obtain ⟨first, others⟩ := List.forall_mem_cons.mp spaced
    obtain ⟨now, afterwards⟩ := List.forall_mem_cons.mp after
    obtain ⟨late, next⟩ := SendTimer.call_paced first now due
    rw [timedSyncs]
    cases sends : (SendTimer.call timer inst cts64).2 with
    | true =>
      simp only [sends, if_true] at next ⊢
      obtain ⟨all, pairs⟩ := ih rest others
        (fun call member => UInt64.le_iff_toNat_le.mp (following call member)) next
      have reached := late sends
      refine ⟨?_, List.pairwise_cons.mpr ⟨all, pairs⟩⟩
      refine List.forall_mem_cons.mpr ⟨reached, fun sync member => ?_⟩
      have behind := all sync member
      omega
    | false =>
      simp only [sends, Bool.false_eq_true, if_false] at next ⊢
      exact ih rest others afterwards next

/-- Over calls in the order of their times, whatever they say of the instance, what is sent is
apart by the least of the intervals. -/
theorem master_syncs_paced {calls : List (MasterSyncInstance × UInt64)}
    (ordered : calls.Pairwise fun first second => first.2 ≤ second.2)
    (spaced : ∀ call ∈ calls, Spaced gap call) : ∃ syncs, masterSyncs .start calls = some syncs ∧
      syncs.Pairwise fun first second => first.1.toNat + gap ≤ second.1.toNat := by
  have unset : ∀ held ∈ (none : Option SendTimer), 0 + gap ≤ held.due.toNat := by
    rintro _ ⟨⟩
  have started : MasterSyncSend.start.Holds none := rfl
  exact ⟨_, MasterSyncSend.masterSyncs_eq calls started,
    (timedSyncs_paced ordered spaced (fun _ _ => Nat.zero_le _) unset).2⟩

def MasterSyncInstance.disabled : MasterSyncInstance :=
  ⟨⟨1, 0, ⟨0, 0, 0⟩, 0⟩, false, false, 0, .fill 0, 5, 0, 0, 0⟩

theorem master_syncs_paced_disabled : ∃ syncs,
    masterSyncs .start [(.disabled, 0), (.disabled, 5), (.disabled, 7), (.disabled, 12)] =
      some syncs ∧ syncs.Pairwise fun first second => first.1.toNat + 5 ≤ second.1.toNat :=
  master_syncs_paced (by decide) (by simp [Spaced, MasterSyncInstance.disabled])

end EnetTsn.Sync
