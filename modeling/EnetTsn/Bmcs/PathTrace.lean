import EnetTsn.Bmcs.Frames
import EnetTsn.Bmcs.SelectionMoves

namespace EnetTsn.Bmcs

open EnetTsn.Gptp EnetTsn.Library

/-- The trace ends with the clock, which is nowhere else in it. -/
structure PathTraceOk (thisClock : ClockIdentity) (bptasg : BmcsPerTimeAwareSystemGlobal) :
    Prop where
  last : 0 < bptasg.pathTraceCount.toNat →
    bptasg.pathTrace (bptasg.pathTraceCount.toNat - 1) = thisClock
  once : ∀ index, index + 1 < bptasg.pathTraceCount.toNat → bptasg.pathTrace index ≠ thisClock

structure SameTrace (before after : BmcsPerTimeAwareSystemGlobal) : Prop where
  count : after.pathTraceCount = before.pathTraceCount
  entries : ∀ index < before.pathTraceCount.toNat, after.pathTrace index = before.pathTrace index

def CleanPath (thisClock : ClockIdentity) (sequence : Nat → UInt8) (count : Nat) : Prop :=
  ∀ index < count, identityAt sequence index ≠ thisClock

section Trace

variable {thisClock : ClockIdentity} {bptasg : BmcsPerTimeAwareSystemGlobal}

theorem SameTrace.refl (bptasg : BmcsPerTimeAwareSystemGlobal) : SameTrace bptasg bptasg :=
  ⟨rfl, fun _ _ => rfl⟩

theorem SameTrace.trans (first : SameTrace before middle) (second : SameTrace middle after) :
    SameTrace before after where
  count := second.count.trans first.count
  entries index inUse := by
    rw [second.entries index (first.count ▸ inUse), first.entries index inUse]

theorem PathTraceOk.congr (ok : PathTraceOk thisClock before)
    (count : after.pathTraceCount = before.pathTraceCount)
    (trace : after.pathTrace = before.pathTrace) : PathTraceOk thisClock after := by
  constructor
  · rw [count, trace]
    exact ok.last
  · rw [count, trace]
    exact ok.once

theorem ok_of_empty (empty : bptasg.pathTraceCount = 0) : PathTraceOk thisClock bptasg := by
  constructor
  · intro used
    simp [empty] at used
  · intro index used
    simp [empty] at used

theorem ok_storePathTrace {sequence : Nat → UInt8} (clean : CleanPath thisClock sequence count) :
    PathTraceOk thisClock (storePathTrace thisClock sequence count bptasg) := by
  unfold storePathTrace
  by_cases fits : count + 1 ≤ maxPathTraceN
  · have size : (UInt8.ofNat (count + 1)).toNat = count + 1 := by
      rw [UInt8.toNat_ofNat']
      unfold maxPathTraceN at fits
      omega
    rw [if_pos fits]
    constructor
    · intro _
      dsimp only
      rw [size, Nat.add_sub_cancel, Function.update_self]
    · intro index used
      rw [size] at used
      have before : index < count := by omega
      simp only [Function.update_of_ne (Nat.ne_of_lt before), memcpy, before, if_true]
      exact clean index before
  · rw [if_neg fits]
    exact ok_of_empty rfl

theorem ok_ownTrace (own : bptasg.pathTrace 0 = thisClock) (count : bptasg.pathTraceCount = 1) :
    PathTraceOk thisClock bptasg := by
  constructor
  · intro _
    rw [count]
    exact own
  · intro index used
    rw [count] at used
    exact absurd used (by simp)

theorem clean_of_not_traversed (clean : traversed thisClock announce = false) :
    CleanPath thisClock announce.pathSequence (pathEntries announce) := by
  intro index inRange same
  simp only [traversed, List.any_eq_false, List.mem_range, decide_eq_true_eq] at clean
  exact clean index inRange same

end Trace

/-- An Announce whose qualification leaves the trace whole: it has the TLV, or it is
not accepted, or there is no trace yet and no path in it that names this clock. -/
def Traced (thisClock : ClockIdentity) (count : UInt8) (announce : PTPMsgAnnounce) : Prop :=
  qualifies thisClock announce = true → announce.tlvType ≠ 0x8 →
    count = 0 ∧ traversed thisClock announce = false

instance (thisClock : ClockIdentity) (count : UInt8) (announce : PTPMsgAnnounce) :
    Decidable (Traced thisClock count announce) := by
  unfold Traced
  infer_instance

section Qualification

variable {ptasg : PerTimeAwareSystemGlobal} {port : Port}
  {bptasg : BmcsPerTimeAwareSystemGlobal}

theorem clean_of_qualifies (traced : Traced thisClock count announce)
    (accepted : qualifies thisClock announce = true) :
    CleanPath thisClock announce.pathSequence (pathEntries announce) := by
  apply clean_of_not_traversed
  by_cases tlv : announce.tlvType = 0x8
  · simp only [qualifies, tlv, beq_self_eq_true, Bool.true_and, Bool.and_eq_true,
      Bool.not_eq_true'] at accepted
    exact accepted.2
  · exact (traced accepted tlv).2

theorem ok_qualifyAnnounce (ok : PathTraceOk ptasg.thisClock bptasg)
    (traced : Traced ptasg.thisClock bptasg.pathTraceCount port.parecd.buffer) :
    PathTraceOk ptasg.thisClock (qualifyAnnounce ptasg port bptasg).2 := by
  rcases (qualifyAnnounce_cases ptasg port bptasg).2 with
    same | ⟨accepted, _, _, stored⟩ | ⟨accepted, absent, cleared⟩
  · rw [same]
    exact ok
  · rw [stored]
    exact ok_storePathTrace (clean_of_qualifies traced accepted)
  · rw [cleared]
    exact ok_of_empty (traced accepted absent).1

private theorem qualifyAnnounce_absent (absent : port.parecd.buffer.tlvType ≠ 0x8)
    (accepted : (qualifyAnnounce ptasg port bptasg).1 = true) :
    (qualifyAnnounce ptasg port bptasg).2 = clearPathTrace bptasg := by
  unfold qualifyAnnounce at accepted ⊢
  dsimp only at accepted ⊢
  split at accepted
  · cases accepted
  · rename_i foreign
    split at accepted
    · cases accepted
    · rename_i near
      rw [if_neg foreign, if_neg near, if_neg absent]

private theorem sameTrace_qualifyAnnounce
    (traced : Traced ptasg.thisClock bptasg.pathTraceCount port.parecd.buffer)
    (elsewhere : qualifies ptasg.thisClock port.parecd.buffer = false ∨
      port.selectedState ≠ .slavePort) :
    SameTrace bptasg (qualifyAnnounce ptasg port bptasg).2 := by
  rcases (qualifyAnnounce_cases ptasg port bptasg).2 with
    same | ⟨accepted, _, slave, _⟩ | ⟨accepted, absent, cleared⟩
  · rw [same]
    exact .refl _
  · rcases elsewhere with bad | other
    · exact nomatch bad.symm.trans accepted
    · exact absurd slave other
  · rw [cleared]
    refine ⟨rfl, fun index used => ?_⟩
    rw [(traced accepted absent).1] at used
    exact absurd used (by simp)

private theorem count_qualifyAnnounce (other : port.selectedState ≠ .slavePort) :
    (qualifyAnnounce ptasg port bptasg).2.pathTraceCount = bptasg.pathTraceCount := by
  rcases (qualifyAnnounce_cases ptasg port bptasg).2 with
    same | ⟨_, _, slave, _⟩ | ⟨_, _, cleared⟩
  · rw [same]
  · exact absurd slave other
  · rw [cleared]
    rfl

private theorem traced_qualifyAnnounce
    (traced : Traced ptasg.thisClock bptasg.pathTraceCount port.parecd.buffer) :
    Traced ptasg.thisClock (qualifyAnnounce ptasg port bptasg).2.pathTraceCount
      port.parecd.buffer := by
  rcases (qualifyAnnounce_cases ptasg port bptasg).2 with
    same | ⟨_, tlv, _, _⟩ | ⟨_, _, cleared⟩
  · rw [same]
    exact traced
  · exact fun _ absent => absurd tlv absent
  · rw [cleared]
    exact traced

end Qualification

section Receive

open AnnounceReceive

variable {ptasg : PerTimeAwareSystemGlobal} {data next : ReceiveData}

structure Receiving (thisClock : ClockIdentity) (announce : PTPMsgAnnounce)
    (data : ReceiveData) : Prop where
  buffer : data.port.parecd.buffer = announce
  trace : PathTraceOk thisClock data.bptasg
  traced : Traced thisClock data.bptasg.pathTraceCount announce
  pending : data.port.bppg.rcvdMsg = true →
    CleanPath thisClock announce.pathSequence (pathEntries announce)

theorem receiving_portAnnounceReceiveSm
    (start : Receiving ptasg.thisClock data.port.parecd.buffer data)
    (finished : portAnnounceReceiveSm ptasg data = some next) :
    Receiving ptasg.thisClock data.port.parecd.buffer next := by
  refine portAnnounceReceiveSm_preserves
    (fun _ => Receiving ptasg.thisClock data.port.parecd.buffer) ⟨?_, ?_⟩ ?_ ?_ ?_ start finished
  · exact fun _ _ _ kept => ⟨kept.buffer, kept.trace, kept.traced, kept.pending⟩
  · exact fun _ _ _ kept => ⟨kept.buffer, kept.trace, kept.traced, kept.pending⟩
  · exact fun _ _ kept => kept
  · intro s current _ kept
    cases s with
    | init | reaction => exact kept
    | discard => exact ⟨kept.buffer, kept.trace, kept.traced, nofun⟩
    | receive =>
      have traced : Traced ptasg.thisClock current.bptasg.pathTraceCount
          current.port.parecd.buffer := kept.buffer.symm ▸ kept.traced
      have decision := (qualifyAnnounce_cases ptasg current.port current.bptasg).1
      refine ⟨kept.buffer, ok_qualifyAnnounce kept.trace traced, ?_, fun accepted => ?_⟩
      · have after := traced_qualifyAnnounce traced
        rw [kept.buffer] at after
        exact after
      · have qualified := decision.symm.trans accepted
        rw [kept.buffer] at qualified
        exact clean_of_qualifies kept.traced qualified
  · exact fun _ _ _ kept => kept

theorem awake_portAnnounceReceiveSm (awake : Awake data.port)
    (finished : portAnnounceReceiveSm ptasg data = some next) : Awake next.port := by
  refine portAnnounceReceiveSm_preserves (fun s _ => s = .discard ∨ s = .receive) ⟨?_, ?_⟩ ?_ ?_ ?_
    awake finished
  · exact fun _ _ _ kept => kept
  · exact fun _ _ _ kept => kept
  · exact fun _ _ _ => Or.inl rfl
  · exact fun _ _ _ kept => kept
  · intro s current same kept
    rcases kept with rfl | rfl
    · simp only [condition, discardCondition]
      split
      · exact Or.inr rfl
      · exact Or.inl rfl
    · simp only [condition, receiveCondition]
      split
      · exact Or.inr rfl
      · exact Or.inr same

theorem count_portAnnounceReceiveSm (other : data.port.selectedState ≠ .slavePort)
    (finished : portAnnounceReceiveSm ptasg data = some next) :
    next.bptasg.pathTraceCount = data.bptasg.pathTraceCount := by
  have kept : next.port.selectedState ≠ .slavePort ∧
      next.bptasg.pathTraceCount = data.bptasg.pathTraceCount := by
    refine portAnnounceReceiveSm_preserves (fun _ current =>
      current.port.selectedState ≠ .slavePort ∧
        current.bptasg.pathTraceCount = data.bptasg.pathTraceCount) ⟨?_, ?_⟩ ?_ ?_ ?_
      ⟨other, rfl⟩ finished
    · exact fun _ _ _ kept => kept
    · exact fun _ _ _ kept => kept
    · exact fun _ _ kept => kept
    · intro s current _ kept
      cases s with
      | init | reaction | discard => exact kept
      | receive => exact ⟨kept.1, (count_qualifyAnnounce kept.1).trans kept.2⟩
    · exact fun _ _ _ kept => kept
  exact kept.2

theorem sameTrace_portAnnounceReceiveSm
    (traced : Traced ptasg.thisClock data.bptasg.pathTraceCount data.port.parecd.buffer)
    (elsewhere : qualifies ptasg.thisClock data.port.parecd.buffer = false ∨
      data.port.selectedState ≠ .slavePort)
    (finished : portAnnounceReceiveSm ptasg data = some next) :
    SameTrace data.bptasg next.bptasg := by
  have kept : (next.port.parecd.buffer = data.port.parecd.buffer ∧
      next.port.selectedState = data.port.selectedState) ∧ SameTrace data.bptasg next.bptasg := by
    refine portAnnounceReceiveSm_preserves (fun _ current =>
      (current.port.parecd.buffer = data.port.parecd.buffer ∧
        current.port.selectedState = data.port.selectedState) ∧
          SameTrace data.bptasg current.bptasg) ⟨?_, ?_⟩ ?_ ?_ ?_ ⟨⟨rfl, rfl⟩, .refl _⟩ finished
    · exact fun _ _ _ kept => kept
    · exact fun _ _ _ kept => kept
    · exact fun _ _ kept => kept
    · intro s current _ kept
      cases s with
      | init | reaction | discard => exact kept
      | receive =>
        refine ⟨kept.1, kept.2.trans (sameTrace_qualifyAnnounce ?_ ?_)⟩
        · rw [kept.2.count, kept.1.1]
          exact traced
        · rw [kept.1.1, kept.1.2]
          exact elsewhere
    · exact fun _ _ _ kept => kept
  exact kept.2

def Accepted (port : Port) : Prop :=
  port.parecd.rcvdAnnounce = false ∧ port.bppg.rcvdMsg = true

theorem cleared_portAnnounceReceiveSm (absent : data.port.parecd.buffer.tlvType ≠ 0x8)
    (received : data.port.parecd.rcvdAnnounce = true) (accepted : Accepted next.port)
    (finished : portAnnounceReceiveSm ptasg data = some next) :
    ∀ index < maxPathTraceN, next.bptasg.pathTrace index = ClockIdentity.fill 0 := by
  have kept : next.port.parecd.buffer = data.port.parecd.buffer ∧ (Accepted next.port →
      ∀ index < maxPathTraceN, next.bptasg.pathTrace index = ClockIdentity.fill 0) := by
    refine portAnnounceReceiveSm_preserves (fun _ current =>
      current.port.parecd.buffer = data.port.parecd.buffer ∧ (Accepted current.port →
        ∀ index < maxPathTraceN, current.bptasg.pathTrace index = ClockIdentity.fill 0))
      ⟨?_, ?_⟩ ?_ ?_ ?_ ⟨rfl, fun taken => ?_⟩ finished
    · exact fun _ _ _ kept => kept
    · exact fun _ _ _ kept => kept
    · exact fun _ _ kept => kept
    · intro s current _ kept
      cases s with
      | init | reaction => exact kept
      | discard => exact ⟨kept.1, fun taken => nomatch taken.2⟩
      | receive =>
        refine ⟨kept.1, fun taken index inRange => ?_⟩
        have qualified : (qualifyAnnounce ptasg current.port current.bptasg).1 = true := taken.2
        have cleared := qualifyAnnounce_absent (kept.1.symm ▸ absent) qualified
        have after : (AnnounceReceive.proc ptasg .receive current).bptasg =
            clearPathTrace current.bptasg := cleared
        rw [after]
        exact if_pos inRange
    · exact fun _ _ _ kept => kept
    · exact nomatch received.symm.trans taken.1
  exact kept.2 accepted

theorem sameTrace_recvAnnounce (traced : Traced ptasg.thisClock data.bptasg.pathTraceCount announce)
    (elsewhere : qualifies ptasg.thisClock announce = false ∨ data.port.selectedState ≠ .slavePort)
    (finished : portAnnounceReceiveSmRecvAnnounce ptasg announce data = some next) :
    SameTrace data.bptasg next.bptasg := by
  have buffer : (storeAnnounce announce data).port.parecd.buffer = announce := rfl
  have state : (storeAnnounce announce data).port.selectedState = data.port.selectedState := rfl
  have same := sameTrace_portAnnounceReceiveSm (by rw [buffer]; exact traced)
    (by rw [buffer, state]; exact elsewhere) finished
  exact same

theorem cleared_recvAnnounce (absent : announce.tlvType ≠ 0x8) (accepted : Accepted next.port)
    (finished : portAnnounceReceiveSmRecvAnnounce ptasg announce data = some next) :
    ∀ index < maxPathTraceN, next.bptasg.pathTrace index = ClockIdentity.fill 0 := by
  have buffer : (storeAnnounce announce data).port.parecd.buffer = announce := rfl
  have received : (storeAnnounce announce data).port.parecd.rcvdAnnounce = true := rfl
  exact cleared_portAnnounceReceiveSm (buffer.symm ▸ absent) received accepted finished

end Receive

/-- The path a port has recorded is clean, and so is the one in a buffer that may
still be used: while an Announce is pending, or in the given case. -/
structure PortTraced (thisClock : ClockIdentity) (used : Prop) (port : Port) : Prop where
  awake : Awake port
  record : CleanPath thisClock port.bppg.annPathSequence
    (min port.bppg.annPathSequenceCount.toNat maxPathTraceN)
  buffer : port.bppg.rcvdMsg = true ∨ used →
    CleanPath thisClock port.parecd.buffer.pathSequence (pathEntries port.parecd.buffer)

/-- The buffer is used on entry of two states of the information machine, and kept
for later in one of them. -/
def Taking (s : AnnounceInformationState) : Prop := s = .receive ∨ s = .superiorMasterPort

section Information

open AnnounceInformation

variable {thisClock : ClockIdentity}

theorem clean_recordOtherAnnounceInfo
    (clean : CleanPath thisClock port.parecd.buffer.pathSequence (pathEntries port.parecd.buffer)) :
    CleanPath thisClock (recordOtherAnnounceInfo port).bppg.annPathSequence
      (min (recordOtherAnnounceInfo port).bppg.annPathSequenceCount.toNat maxPathTraceN) := by
  intro index inRange
  have count : (recordOtherAnnounceInfo port).bppg.annPathSequenceCount.toNat ≤
      port.parecd.buffer.tlvLength.toNat / 8 := by
    exact Nat.mod_le _ _
  have entry : index < pathEntries port.parecd.buffer := by
    unfold pathEntries
    omega
  have copied : identityAt (recordOtherAnnounceInfo port).bppg.annPathSequence index =
      identityAt port.parecd.buffer.pathSequence index := by
    unfold identityAt
    congr 1
    funext offset
    have bytes : 8 * index + offset < min port.parecd.buffer.tlvLength.toNat pathSequenceSize := by
      unfold pathSequenceSize
      omega
    rw [recordOtherAnnounceInfo_bppg_annPathSequence, memcpy, if_pos bytes]
  rw [copied]
  exact clean index entry

theorem PortTraced.elsewhere (traced : PortTraced thisClock used port) (unused : ¬ used') :
    PortTraced thisClock used' port := by
  refine ⟨traced.awake, traced.record, ?_⟩
  rintro (pending | using_)
  · exact traced.buffer (Or.inl pending)
  · exact absurd using_ unused

theorem not_taking (receive : s ≠ .receive := by rintro ⟨⟩)
    (superior : s ≠ .superiorMasterPort := by rintro ⟨⟩) : ¬ Taking s := by
  rintro (same | same)
  · exact receive same
  · exact superior same

theorem portTraced_proc (view : InstanceView) (cts64 : UInt64) (s : AnnounceInformationState)
    (port : Port) (traced : PortTraced thisClock (Taking s) port) :
    PortTraced thisClock (s = .receive) (proc view cts64 s port) := by
  cases s with
  | init | current | reaction => exact traced.elsewhere (by simp)
  | disabled =>
    refine ⟨traced.awake, traced.record, ?_⟩
    rintro (pending | waiting)
    · cases pending
    · cases waiting
  | aged =>
    refine ⟨traced.awake, ?_, (traced.elsewhere (by simp)).buffer⟩
    intro index inRange
    simp [proc] at inRange
  | update => exact ⟨traced.awake, traced.record, (traced.elsewhere (by simp)).buffer⟩
  | receive => exact ⟨traced.awake, traced.record, fun _ => traced.buffer (Or.inr (Or.inl rfl))⟩
  | superiorMasterPort =>
    have clean := traced.buffer (Or.inr (Or.inr rfl))
    exact ⟨traced.awake, clean_recordOtherAnnounceInfo clean, fun _ => clean⟩
  | repeatedMasterPort | inferiorMasterOrOtherPort =>
    refine ⟨traced.awake, traced.record, ?_⟩
    rintro (pending | waiting)
    · cases pending
    · cases waiting

theorem portTraced_condition (view : InstanceView) (cts64 : UInt64)
    (s : AnnounceInformationState) (port : Port) (same : port.painfd.state = s)
    (traced : PortTraced thisClock (s = .receive) port) :
    PortTraced thisClock (Taking (condition view cts64 s port)) port := by
  cases s with
  | init | update | superiorMasterPort | repeatedMasterPort | reaction =>
    exact traced.elsewhere not_taking
  | disabled =>
    simp only [condition, disabledCondition, same]
    split
    · exact traced.elsewhere not_taking
    · split <;> exact traced.elsewhere not_taking
  | aged =>
    simp only [condition, agedCondition]
    split <;> exact traced.elsewhere not_taking
  | current =>
    simp only [condition]
    rcases currentCondition_cases view cts64 port with
      ⟨next, _⟩ | ⟨next, _⟩ | ⟨next, rcvd, _⟩ | ⟨next, _⟩ <;> rw [next]
    · exact traced.elsewhere not_taking
    · exact traced.elsewhere not_taking
    · exact ⟨traced.awake, traced.record, fun _ => traced.buffer (Or.inl rcvd)⟩
    · exact traced.elsewhere not_taking
  | receive => exact ⟨traced.awake, traced.record, fun _ => traced.buffer (Or.inr rfl)⟩
  | inferiorMasterOrOtherPort =>
    simp only [condition]
    rcases inferiorCondition_cases view port with ⟨next, _⟩ | next <;> rw [next]
    · exact traced.elsewhere not_taking
    · exact traced.elsewhere not_taking

theorem portTraced_portAnnounceInformationSm (stable : port.painfd.lastState = port.painfd.state)
    (traced : PortTraced thisClock (port.painfd.state = .receive) port)
    (finished : portAnnounceInformationSm view cts64 port = some next) :
    next.painfd.lastState = next.painfd.state ∧
      PortTraced thisClock (next.painfd.state = .receive) next := by
  refine portAnnounceInformationSm_phases (fun s => PortTraced thisClock (Taking s))
    (fun s => PortTraced thisClock (s = .receive)) ⟨?_, ?_⟩ ⟨?_, ?_⟩ ?_ ?_ ?_ stable
    (fun _ => traced) finished
  · exact fun _ _ _ kept => ⟨kept.awake, kept.record, kept.buffer⟩
  · exact fun _ _ _ kept => ⟨kept.awake, kept.record, kept.buffer⟩
  · exact fun _ _ _ kept => ⟨kept.awake, kept.record, kept.buffer⟩
  · exact fun _ _ _ kept => ⟨kept.awake, kept.record, kept.buffer⟩
  · exact fun _ _ => traced.elsewhere not_taking
  · exact fun s port _ kept => portTraced_proc view cts64 s port kept
  · exact fun s port same kept _ => portTraced_condition view cts64 s port same kept

end Information

section Selection

variable {cfg : Config} {before after : Domain}

structure SelectionTraced (domain : Domain) : Prop where
  trace : PathTraceOk domain.ptasg.thisClock domain.bptasg
  records : ∀ index, CleanPath domain.ptasg.thisClock (domain.ports index).bppg.annPathSequence
    (min (domain.ports index).bppg.annPathSequenceCount.toNat maxPathTraceN)

theorem SelectionTraced.of_frame (traced : SelectionTraced before)
    (frame : SelectionFrame before after)
    (trace : PathTraceOk before.ptasg.thisClock after.bptasg) : SelectionTraced after := by
  refine ⟨frame.thisClock.symm ▸ trace, fun index => ?_⟩
  rw [frame.thisClock, (frame.ports index).bppg]
  exact traced.records index

private theorem traced_updatePort (domain : Domain) (index : Nat) (traced : SelectionTraced domain) :
    SelectionTraced (updatePort domain index) := by
  apply traced.of_frame (frame_updatePort domain index)
  rw [updatePort_bptasg]
  unfold portStateUpdate
  dsimp only
  split
  · exact ok_storePathTrace (traced.records index)
  · exact traced.trace

theorem traced_updtStatesTree (domain : Domain) (traced : SelectionTraced domain) :
    SelectionTraced (updtStatesTree cfg domain).1 := by
  have computed : SelectionTraced (computePriorities cfg domain) :=
    traced.of_frame (frame_computePriorities cfg domain) (traced.trace.congr rfl rfl)
  have updated : SelectionTraced (updatePorts cfg (computePriorities cfg domain)) :=
    foldl_updatePort_preserves SelectionTraced traced_updatePort _ _ computed
  have assigned : SelectionTraced (assignedDomain cfg domain) :=
    updated.of_frame (frame_updateGmPresent _) (updated.trace.congr rfl rfl)
  have zero : SelectionTraced (updatePortZero cfg (assignedDomain cfg domain)) := by
    apply assigned.of_frame (frame_updatePortZero _ _)
    rw [updatePortZero_bptasg]
    exact assigned.trace
  apply zero.of_frame (frame_updatePathTrace _)
  unfold updatePathTrace
  split
  · exact ok_ownTrace (by simp) rfl
  · exact zero.trace

theorem traced_selectionMove (move : SelectionMove cfg before after)
    (traced : SelectionTraced before) : SelectionTraced after := by
  have frame := move.frame
  cases move with
  | pssd data | gmsync status => exact traced.of_frame frame traced.trace
  | initialSlave | configured | clearReselect | setSelected =>
    exact traced.of_frame frame (traced.trace.congr rfl rfl)
  | initBridge =>
    apply traced.of_frame frame
    unfold StateSelection.initBridgeProc
    split
    · split <;> exact traced.trace
    · exact ok_ownTrace (by simp [updateStateDisabledTree]) rfl
  | update => exact traced_updtStatesTree before traced

end Selection

end EnetTsn.Bmcs
