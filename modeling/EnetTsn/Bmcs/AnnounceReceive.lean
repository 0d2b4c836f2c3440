import EnetTsn.Bmcs.State
import Mathlib.Tactic.Simps.Basic

namespace EnetTsn.Bmcs

open EnetTsn.Gptp EnetTsn.Library

def pathEntries (announce : PTPMsgAnnounce) : Nat :=
  min (announce.tlvLength.toNat / 8) maxPathTraceN

/-- Copy a received path sequence to `pathTrace` and append `thisClock`, or
empty the trace when the result would not fit. -/
def storePathTrace (thisClock : ClockIdentity) (sequence : Nat → UInt8) (count : Nat)
    (bptasg : BmcsPerTimeAwareSystemGlobal) : BmcsPerTimeAwareSystemGlobal :=
  if count + 1 ≤ maxPathTraceN then
    { bptasg with
      pathTrace := Function.update
        (memcpy bptasg.pathTrace (identityAt sequence) count) count thisClock
      pathTraceCount := UInt8.ofNat (count + 1) }
  else { bptasg with pathTraceCount := 0 }

def clearPathTrace (bptasg : BmcsPerTimeAwareSystemGlobal) : BmcsPerTimeAwareSystemGlobal :=
  { bptasg with
    pathTrace := fun index =>
      if index < maxPathTraceN then ClockIdentity.fill 0 else bptasg.pathTrace index }

def traversed (thisClock : ClockIdentity) (announce : PTPMsgAnnounce) : Bool :=
  (List.range (pathEntries announce)).any fun index =>
    identityAt announce.pathSequence index = thisClock

/-- What `qualifyAnnounce` decides, and the path trace it leaves behind. -/
def qualifyAnnounce (ptasg : PerTimeAwareSystemGlobal) (port : Port)
    (bptasg : BmcsPerTimeAwareSystemGlobal) : Bool × BmcsPerTimeAwareSystemGlobal :=
  let announce := port.parecd.buffer
  if announce.header.sourcePortIdentity.clockIdentity = ptasg.thisClock then (false, bptasg)
  else if 255 ≤ announce.stepsRemoved then (false, bptasg)
  else if announce.tlvType = 0x8 then
    if traversed ptasg.thisClock announce then (false, bptasg)
    else if port.selectedState = .slavePort then
      (true, storePathTrace ptasg.thisClock announce.pathSequence (pathEntries announce) bptasg)
    else (true, bptasg)
  else (true, clearPathTrace bptasg)

def qualifies (thisClock : ClockIdentity) (announce : PTPMsgAnnounce) : Bool :=
  announce.header.sourcePortIdentity.clockIdentity != thisClock &&
    decide (announce.stepsRemoved < 255) &&
    !(announce.tlvType == 0x8 && traversed thisClock announce)

/-- The trace changes only when the Announce qualifies, and then by its TLV on the
slave port, or for want of a TLV on any port. -/
theorem qualifyAnnounce_cases (ptasg : PerTimeAwareSystemGlobal) (port : Port)
    (bptasg : BmcsPerTimeAwareSystemGlobal) :
    (qualifyAnnounce ptasg port bptasg).1 = qualifies ptasg.thisClock port.parecd.buffer ∧
    ((qualifyAnnounce ptasg port bptasg).2 = bptasg ∨
      (qualifies ptasg.thisClock port.parecd.buffer = true ∧ port.parecd.buffer.tlvType = 0x8 ∧
        port.selectedState = .slavePort ∧ (qualifyAnnounce ptasg port bptasg).2 =
          storePathTrace ptasg.thisClock port.parecd.buffer.pathSequence
            (pathEntries port.parecd.buffer) bptasg) ∨
      (qualifies ptasg.thisClock port.parecd.buffer = true ∧ port.parecd.buffer.tlvType ≠ 0x8 ∧
        (qualifyAnnounce ptasg port bptasg).2 = clearPathTrace bptasg)) := by
  unfold qualifyAnnounce qualifies
  by_cases own : port.parecd.buffer.header.sourcePortIdentity.clockIdentity = ptasg.thisClock
  · simp [own]
  · by_cases far : 255 ≤ port.parecd.buffer.stepsRemoved
    · have near : ¬ port.parecd.buffer.stepsRemoved < 255 := UInt16.not_lt.mpr far
      simp [own, far, near]
    · have near : port.parecd.buffer.stepsRemoved < 255 := UInt16.not_le.mp far
      by_cases tlv : port.parecd.buffer.tlvType = 0x8
      · by_cases loop : traversed ptasg.thisClock port.parecd.buffer = true
        · simp [own, far, near, tlv, loop]
        · by_cases slave : port.selectedState = .slavePort <;>
            simp [own, far, near, tlv, loop, slave]
      · simp [own, far, near, tlv]

structure ReceiveData where
  port : Port
  bptasg : BmcsPerTimeAwareSystemGlobal

namespace AnnounceReceive

@[simps]
def moveTo (state : AnnounceReceiveState) (data : ReceiveData) : ReceiveData :=
  { data with port := { data.port with parecd := { data.port.parecd with state := state } } }

@[simps]
def remember (state : AnnounceReceiveState) (data : ReceiveData) : ReceiveData :=
  { data with port := { data.port with parecd := { data.port.parecd with lastState := state } } }

def allstateCondition (ptasg : PerTimeAwareSystemGlobal) (data : ReceiveData) :
    AnnounceReceiveState :=
  if (ptasg.BEGIN || !ptasg.instanceEnable ||
      data.port.parecd.rcvdAnnounce && !data.port.up) &&
      data.bptasg.externalPortConfiguration == valueDisabled then .discard
  else data.port.parecd.state

@[simps]
def discardProc (data : ReceiveData) : ReceiveData :=
  { data with port := { data.port with
      parecd := { data.port.parecd with rcvdAnnounce := false }
      bppg := { data.port.bppg with rcvdMsg := false } } }

def discardCondition (data : ReceiveData) : AnnounceReceiveState :=
  if data.port.parecd.rcvdAnnounce && data.port.up then .receive else .discard

@[simps]
def receiveProc (ptasg : PerTimeAwareSystemGlobal) (data : ReceiveData) : ReceiveData :=
  let qualified := qualifyAnnounce ptasg data.port data.bptasg
  { port := { data.port with
      parecd := { data.port.parecd with rcvdAnnounce := false }
      bppg := { data.port.bppg with rcvdMsg := qualified.1 } }
    bptasg := qualified.2 }

def receiveCondition (data : ReceiveData) : AnnounceReceiveState :=
  if data.port.parecd.rcvdAnnounce && data.port.up && !data.port.bppg.rcvdMsg then .receive
  else data.port.parecd.state

def proc (ptasg : PerTimeAwareSystemGlobal) : AnnounceReceiveState → ReceiveData → ReceiveData
  | .discard => discardProc
  | .receive => receiveProc ptasg
  | .init | .reaction => id

def condition : AnnounceReceiveState → ReceiveData → AnnounceReceiveState
  | .init => fun _ => .discard
  | .discard => discardCondition
  | .receive => receiveCondition
  | .reaction => fun _ => .reaction

def table (ptasg : PerTimeAwareSystemGlobal) :
    Machine.Table ReceiveData AnnounceReceiveState where
  state data := data.port.parecd.state
  lastState data := data.port.parecd.lastState
  moveTo := moveTo
  remember := remember
  proc := proc ptasg
  condition := condition
  state_moveTo _ _ := rfl
  lastState_moveTo _ _ := rfl
  state_remember _ _ := rfl
  lastState_remember _ _ := rfl
  stored_proc state _ := by cases state <;> exact ⟨rfl, rfl⟩

def machine (ptasg : PerTimeAwareSystemGlobal) : Machine ReceiveData AnnounceReceiveState Unit :=
  (table ptasg).machine

end AnnounceReceive

open AnnounceReceive in
/-- `port_announce_receive_sm`; the turns are enough, see
`portAnnounceReceiveSm_total`. -/
def portAnnounceReceiveSm (ptasg : PerTimeAwareSystemGlobal) (data : ReceiveData) :
    Option ReceiveData :=
  ((machine ptasg).run 8 (moveTo (allstateCondition ptasg data) data)).map (·.1)

namespace AnnounceReceive

def rank : AnnounceReceiveState → Nat
  | .init => 2
  | .discard => 1
  | .receive | .reaction => 0

theorem rank_proc_lt (ptasg : PerTimeAwareSystemGlobal) (data : ReceiveData)
    (state : AnnounceReceiveState) (same : data.port.parecd.state = state)
    (moves : condition state (proc ptasg state data) ≠ state) :
    rank (condition state (proc ptasg state data)) < rank state := by
  cases state with
  | init => simp [condition, rank]
  | discard =>
    simp only [condition, discardCondition] at moves ⊢
    split <;> simp_all [rank]
  | receive =>
    simp only [condition, receiveCondition] at moves ⊢
    split <;> simp_all [proc]
  | reaction => simp [condition] at moves

end AnnounceReceive

section

variable (ptasg : PerTimeAwareSystemGlobal)

open AnnounceReceive in
theorem portAnnounceReceiveSm_total (data : ReceiveData) :
    ∃ next, portAnnounceReceiveSm ptasg data = some next := by
  obtain ⟨final, finished⟩ := (table ptasg).run_total (ρ := Unit) (fun _ state => rank state) 3
    (fun _ state => by cases state <;> simp [rank]) (fun _ _ _ => rfl) (fun _ _ _ => rfl)
    (rank_proc_lt ptasg) (by omega : 2 * 3 ≤ 8) (moveTo (allstateCondition ptasg data) data)
  exact ⟨final, by simp [portAnnounceReceiveSm, machine, finished]⟩

theorem traceOnly_storePathTrace (thisClock : ClockIdentity) (sequence : Nat → UInt8) (count : Nat)
    (bptasg : BmcsPerTimeAwareSystemGlobal) :
    TraceOnly bptasg (storePathTrace thisClock sequence count bptasg) := by
  unfold storePathTrace
  split <;> exact ⟨rfl⟩

structure ReceiveKept (before after : ReceiveData) : Prop where
  port : after.port = { before.port with
    parecd := after.port.parecd
    bppg := { before.port.bppg with
      rcvdMsg := after.port.bppg.rcvdMsg
      rcvdAnnouncePtr := after.port.bppg.rcvdAnnouncePtr } }
  trace : TraceOnly before.bptasg after.bptasg

theorem ReceiveKept.trans (first : ReceiveKept before middle) (second : ReceiveKept middle after) :
    ReceiveKept before after where
  port := by rw [second.port, first.port]
  trace := ⟨by rw [second.trace.rest, first.trace.rest]⟩

private theorem traceOnly_qualifyAnnounce (port : Port) (bptasg : BmcsPerTimeAwareSystemGlobal) :
    TraceOnly bptasg (qualifyAnnounce ptasg port bptasg).2 := by
  rcases (qualifyAnnounce_cases ptasg port bptasg).2 with
    same | ⟨_, _, _, stored⟩ | ⟨_, _, cleared⟩
  · rw [same]
    exact traceOnly_refl _
  · rw [stored]
    exact traceOnly_storePathTrace _ _ _ _
  · rw [cleared]
    exact ⟨rfl⟩

theorem kept_parecd (parecd : PortAnnounceReceiveData) (data : ReceiveData) :
    ReceiveKept data { data with port := { data.port with parecd := parecd } } :=
  ⟨rfl, traceOnly_refl _⟩

theorem kept_receiveProc (state : AnnounceReceiveState)
    (data : ReceiveData) : ReceiveKept data (AnnounceReceive.proc ptasg state data) := by
  cases state with
  | receive => exact ⟨rfl, traceOnly_qualifyAnnounce _ _ _⟩
  | discard => exact ⟨rfl, traceOnly_refl _⟩
  | init | reaction => exact ⟨rfl, traceOnly_refl _⟩

end

open AnnounceReceive in
theorem portAnnounceReceiveSm_preserves (holds : AnnounceReceiveState → ReceiveData → Prop)
    (ignores : (table ptasg).Ignores holds) (discard : ∀ s data, holds s data → holds .discard data)
    (proc : ∀ s data, data.port.parecd.state = s → holds s data → holds s (proc ptasg s data))
    (condition : ∀ s data, data.port.parecd.state = s → holds s data →
      holds (condition s data) data) (start : holds data.port.parecd.state data)
    (finished : portAnnounceReceiveSm ptasg data = some next) :
    holds next.port.parecd.state next := by
  obtain ⟨⟨final, result⟩, ran, rfl⟩ := Option.map_eq_some_iff.mp finished
  refine (table ptasg).run_invariant holds ignores proc condition ?_ ran
  have entered : (table ptasg).state (moveTo (allstateCondition ptasg data) data) =
      allstateCondition ptasg data := rfl
  apply ignores.moveTo
  unfold allstateCondition
  split
  · exact discard _ _ start
  · exact start

section

variable (finished : portAnnounceReceiveSm ptasg data = some next)
include finished

theorem kept_portAnnounceReceiveSm : ReceiveKept data next := by
  refine portAnnounceReceiveSm_preserves (fun _ => ReceiveKept data) ⟨?_, ?_⟩ ?_ ?_ ?_
    ⟨rfl, traceOnly_refl _⟩ finished
  · exact fun _ _ current kept => kept.trans (kept_parecd _ current)
  · exact fun _ _ current kept => kept.trans (kept_parecd _ current)
  · exact fun _ _ kept => kept
  · exact fun s current _ kept => kept.trans (kept_receiveProc ptasg s current)
  · exact fun _ _ _ kept => kept

theorem buffer_portAnnounceReceiveSm : next.port.parecd.buffer = data.port.parecd.buffer := by
  refine portAnnounceReceiveSm_preserves
    (fun _ current => current.port.parecd.buffer = data.port.parecd.buffer) ⟨?_, ?_⟩ ?_ ?_ ?_
    rfl finished
  · exact fun _ _ _ same => same
  · exact fun _ _ _ same => same
  · exact fun _ _ same => same
  · intro s current _ same
    cases s <;> exact same
  · exact fun _ _ _ same => same

def Pending (port : Port) : Prop :=
  port.bppg.rcvdMsg = true ∨ port.parecd.rcvdAnnounce = true ∨ port.parecd.state = .receive

theorem pending_portAnnounceReceiveSm (pending : Pending next.port) : Pending data.port := by
  refine portAnnounceReceiveSm_preserves
    (fun s current => current.port.bppg.rcvdMsg = true ∨ current.port.parecd.rcvdAnnounce = true ∨
      s = .receive → Pending data.port) ⟨?_, ?_⟩ ?_ ?_ ?_ (fun start => start) finished pending
  · exact fun _ _ _ kept => kept
  · exact fun _ _ _ kept => kept
  · exact fun s current kept waiting => kept (waiting.imp_right (Or.imp_right nofun))
  · intro s current _ kept waiting
    cases s with
    | receive => exact kept (Or.inr (Or.inr rfl))
    | discard => simp [AnnounceReceive.proc] at waiting
    | init | reaction => exact kept waiting
  · intro s current same kept waiting
    cases s with
    | init => exact kept (waiting.imp_right (Or.imp_right nofun))
    | discard =>
      simp only [AnnounceReceive.condition, AnnounceReceive.discardCondition] at waiting
      split at waiting
      · rename_i received
        simp only [Bool.and_eq_true] at received
        exact kept (Or.inr (Or.inl received.1))
      · exact kept waiting
    | receive => exact kept (Or.inr (Or.inr rfl))
    | reaction => exact kept waiting

end

/-- The Announce is copied to the buffer, and the last state is reset so that the
machine enters its state again. -/
def storeAnnounce (announce : PTPMsgAnnounce) (data : ReceiveData) : ReceiveData :=
  { data with port := { data.port with
      parecd := { data.port.parecd with
        rcvdAnnounce := true, buffer := announce, lastState := .discard }
      bppg := { data.port.bppg with rcvdAnnouncePtr := true } } }

def portAnnounceReceiveSmRecvAnnounce (ptasg : PerTimeAwareSystemGlobal)
    (announce : PTPMsgAnnounce) (data : ReceiveData) : Option ReceiveData :=
  portAnnounceReceiveSm ptasg (storeAnnounce announce data)

section Calls

open AnnounceReceive

def Awake (port : Port) : Prop := port.parecd.state = .discard ∨ port.parecd.state = .receive

def examine (ptasg : PerTimeAwareSystemGlobal) (announce : PTPMsgAnnounce) (data : ReceiveData) :
    ReceiveData :=
  moveTo .receive (remember .receive (receiveProc ptasg (storeAnnounce announce data)))

def discard (announce : PTPMsgAnnounce) (data : ReceiveData) : ReceiveData :=
  moveTo .discard (remember .discard (storeAnnounce announce data))

theorem recvAnnounce_up (running : ptasg.BEGIN = false) (enabled : ptasg.instanceEnable = true)
    (awake : Awake data.port) (up : data.port.up = true) :
    portAnnounceReceiveSmRecvAnnounce ptasg announce data = some (examine ptasg announce data) := by
  have stored : (storeAnnounce announce data).port.up = true := up
  have keeps : allstateCondition ptasg (storeAnnounce announce data) = data.port.parecd.state := by
    unfold allstateCondition
    rw [running, enabled, stored]
    simp [storeAnnounce]
  unfold portAnnounceReceiveSmRecvAnnounce portAnnounceReceiveSm machine
  rw [keeps]
  rcases awake with discard | receive
  · rw [discard]
    have moves : (table ptasg).target (moveTo .discard (storeAnnounce announce data)) =
        .receive := if_pos stored
    rw [(table ptasg).run_succ, moves, if_neg nofun, (table ptasg).run_succ]
    rfl
  · rw [receive, (table ptasg).run_succ]
    rfl

theorem recvAnnounce_down (managed : data.bptasg.externalPortConfiguration = valueDisabled)
    (down : data.port.up = false) :
    portAnnounceReceiveSmRecvAnnounce ptasg announce data = some (discard announce data) := by
  have stored : (storeAnnounce announce data).port.up = false := down
  have discards : allstateCondition ptasg (storeAnnounce announce data) = .discard := by
    unfold allstateCondition
    rw [stored]
    simp [storeAnnounce, managed]
  have stays : (table ptasg).target (moveTo .discard (storeAnnounce announce data)) = .discard := by
    have condition : discardCondition (storeAnnounce announce data) = .discard := by
      simp [discardCondition, stored]
    exact condition
  unfold portAnnounceReceiveSmRecvAnnounce portAnnounceReceiveSm machine
  rw [discards, (table ptasg).run_succ, stays]
  rfl

end Calls

private theorem kept_storeAnnounce (announce : PTPMsgAnnounce) (data : ReceiveData) :
    ReceiveKept data (storeAnnounce announce data) := ⟨rfl, traceOnly_refl _⟩

theorem kept_recvAnnounce
    (finished : portAnnounceReceiveSmRecvAnnounce ptasg announce data = some next) :
    ReceiveKept data next :=
  (kept_storeAnnounce announce data).trans (kept_portAnnounceReceiveSm finished)

end EnetTsn.Bmcs
