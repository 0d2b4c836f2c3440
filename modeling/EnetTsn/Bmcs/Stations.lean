import EnetTsn.Bmcs.AnnounceRecord
import EnetTsn.Bmcs.PathCopies
import EnetTsn.Bmcs.TracedRuns

/-!
A domain with the frames that reach its ports. Their octets pass the receive buffer and the
decoder of the port, as `gptpnet_cb_recv` has it, before the domain is handed an Announce.
-/

namespace EnetTsn.Bmcs

open EnetTsn.Gptp EnetTsn.Library EnetTsn.Md

/-- A domain with the receive buffer and the decoders of the ports, which all domains share. -/
structure Station where
  domain : Domain
  rxbuf : Memory
  decoder : Nat → AnnounceDecoder

inductive StationEvent where
  /-- A frame at a port, for this domain or for another one. -/
  | frame (index : Nat) (own : Bool) (octets : List UInt8)
  | step (step : Step)

namespace Station

variable (receivers : ReceiverSettings)

def receive (index : Nat) (frame : List UInt8) (station : Station) :
    AnnounceReceiver × Option PTPMsgAnnounce :=
  Md.receive receivers frame { rxbuf := station.rxbuf, decoder := station.decoder index }

def hear (station : Station) : StationEvent → Station
  | .frame index _ frame =>
    let receiver := (station.receive receivers index frame).1
    { station with
      rxbuf := receiver.rxbuf
      decoder := Function.update station.decoder index receiver.decoder }
  | .step _ => station

/-- The step of the domain that an event brings about. An Announce comes out of a frame only. -/
def induced (station : Station) : StationEvent → Option Step
  | .frame index own frame =>
    if own then (station.receive receivers index frame).2.map fun announce =>
      .port index (.recvAnnounce announce)
    else none
  | .step (.port _ (.recvAnnounce _)) => none
  | .step step => some step

def perform (cfg : Config) (station : Station) (event : StationEvent) : Option Station :=
  match station.induced receivers event with
  | none => some (station.hear receivers event)
  | some step => (Bmcs.perform cfg station.domain step).map fun domain =>
    { station.hear receivers event with domain := domain }

end Station

def stationSystem (cfg : Config) (settings : Settings) (receivers : ReceiverSettings)
    (beyond : Memory) : System Station StationEvent where
  start :=
    { domain := Domain.init cfg settings
      rxbuf := beyond.copy 0 rxbufSize Memory.zero
      decoder := fun _ => startDecoder receivers }
  step := Station.perform receivers cfg

/-- The frame brings all octets of the Announce that it tells of. -/
structure Whole (frame : List UInt8) : Prop where
  framed : AnnounceFrame frame
  brought : if hasTlv (messageOctets frame) then
      68 + toldLength (messageOctets frame) ≤ messageSize frame
    else 64 ≤ messageSize frame

/-- Every Announce that is handed on, to whichever domain, fits the records of the ports, and one
for this domain comes in a whole frame. Without a TLV, what is kept of another one is harmless. -/
structure Clear (receivers : ReceiverSettings) (harmless : PTPMsgAnnounce → Prop)
    (station : Station) (event : StationEvent) : Prop where
  fits : ∀ index own frame announce, event = .frame index own frame →
    (station.receive receivers index frame).2 = some announce →
      announce.tlvLength.toNat ≤ pathSequenceSize
  whole : ∀ index frame announce, event = .frame index true frame →
    (station.receive receivers index frame).2 = some announce → Whole frame ∧
      (hasTlv (messageOctets frame) = false → harmless (station.decoder index).rcvdAnnounce)

/-- The Announce that a frame holds, decoded by itself. -/
def announceIn (frame : List UInt8) : PTPMsgAnnounce :=
  if hasTlv (messageOctets frame) then recPath (messageOctets frame) announceCleared
  else recFixed (messageOctets frame) announceCleared

section Decoding

variable {receivers : ReceiverSettings} {frame : List UInt8} {receiver : AnnounceReceiver}

theorem Whole.octets (whole : Whole frame) (inside : index < 64) :
    readMessage frame receiver index = messageOctets frame index := by
  refine messageOver_inside ?_
  have brought := whole.brought
  split at brought <;> omega

theorem Whole.decoded (whole : Whole frame)
    (handed : (Md.receive receivers frame receiver).2 = some announce) :
    (hasTlv (messageOctets frame) = true ∧ SameAnnounce announce (announceIn frame)) ∨
      (hasTlv (messageOctets frame) = false ∧
        announce = recFixed (messageOctets frame) receiver.decoder.rcvdAnnounce) := by
  rw [handed_eq whole.framed] at handed
  obtain ⟨_, handed⟩ := Option.ite_none_right_eq_some.mp handed
  unfold decodedTlv at handed
  rw [hasTlv_congr (whole.octets (by decide)) (whole.octets (by decide))] at handed
  unfold announceIn
  cases tlv : hasTlv (messageOctets frame) with
  | false =>
    rw [tlv, if_neg Bool.false_ne_true] at handed
    exact .inr ⟨rfl, (Option.some.inj handed).symm.trans (recFixed_congr fun _ => whole.octets)⟩
  | true =>
    rw [tlv, if_pos rfl] at handed
    obtain ⟨_, same⟩ := Option.ite_none_right_eq_some.mp handed
    have brought := whole.brought
    rw [tlv, if_pos rfl, toldLength] at brought
    have inside : ∀ index < 68 + (UInt16.ofNat ((messageOctets frame).load 66 2)).toNat,
        readMessage frame receiver index = messageOctets frame index :=
      fun index told => messageOver_inside (by omega)
    have told : (readMessage frame receiver).load 66 2 = (messageOctets frame).load 66 2 :=
      Memory.load_congr fun index small => inside _ (by omega)
    refine .inl ⟨rfl, ?_⟩
    rw [← Option.some.inj same, if_pos rfl]
    refine sameAnnounce_recPath fun index small => inside index ?_
    rw [told] at small
    omega

end Decoding

/-- Two Announces that a port records alike. -/
structure SameRecord (first second : PTPMsgAnnounce) : Prop where
  fields : { first with tlvType := second.tlvType, pathSequence := second.pathSequence } = second
  path : ∀ index < min second.tlvLength.toNat pathSequenceSize,
    first.pathSequence index = second.pathSequence index

theorem TakenFrom.same (taken : TakenFrom first port) (same : SameRecord first second) :
    TakenFrom second port := by
  have length : second.tlvLength = first.tlvLength := by rw [← same.fields]
  refine ⟨?_, ?_, ?_, ?_, ?_, fun index inside => ?_⟩
  · rw [← same.fields]
    exact taken.portPriority
  · rw [← same.fields]
    exact taken.portStepsRemoved
  · rw [← same.fields]
    exact taken.interval
  · rw [← same.fields]
    exact taken.properties
  · rw [length]
    exact taken.pathCount
  · rw [← same.path index inside]
    exact taken.path index (length ▸ inside)

private theorem sameRecord_announceIn (whole : Whole frame)
    (handed : (Md.receive receivers frame receiver).2 = some announce)
    (kept : hasTlv (messageOctets frame) = false → receiver.decoder.rcvdAnnounce.tlvLength = 0) :
    SameRecord announce (announceIn frame) := by
  rcases whole.decoded handed with ⟨_, same⟩ | ⟨noTlv, rfl⟩
  · refine ⟨?_, fun index inside => same.path index (Nat.lt_min.mp inside).2⟩
    have type := congrArg PTPMsgAnnounce.tlvType same.fields
    rw [← type]
    exact same.fields
  · unfold announceIn
    rw [if_neg (by simp [noTlv])]
    refine ⟨?_, fun index inside => absurd inside (by simp [recFixed, announceCleared])⟩
    simp only [recFixed, kept noTlv]
    rfl

section Runs

variable {cfg : Config} {settings : Settings} {receivers : ReceiverSettings} {beyond : Memory}
  {station next : Station} {event : StationEvent}

theorem Station.perform_cases (done : station.perform receivers cfg event = some next) :
    (station.induced receivers event = none ∧ next.domain = station.domain) ∨
      ∃ step, station.induced receivers event = some step ∧
        Bmcs.perform cfg station.domain step = some next.domain := by
  unfold perform at done
  cases brings : station.induced receivers event with
  | none =>
    rw [brings] at done
    refine .inl ⟨rfl, ?_⟩
    rw [← Option.some.inj done]
    cases event <;> rfl
  | some step =>
    rw [brings] at done
    obtain ⟨domain, taken, rfl⟩ := Option.map_eq_some_iff.mp done
    exact .inr ⟨step, rfl, taken⟩

private theorem Station.induced_recvAnnounce
    (brings : station.induced receivers event = some (.port index (.recvAnnounce announce))) :
    ∃ frame, event = .frame index true frame ∧
      (station.receive receivers index frame).2 = some announce := by
  unfold induced at brings
  split at brings
  · split at brings
    · rename_i own
      obtain ⟨other, handed, same⟩ := Option.map_eq_some_iff.mp brings
      cases same
      cases own
      exact ⟨_, rfl, handed⟩
    · exact nomatch brings
  · exact nomatch brings
  · rename_i notReceived
    cases brings
    exact absurd rfl (notReceived _ _)

/-- An event that hands no Announce to a port that is waiting with one. -/
structure CalmFrame (receivers : ReceiverSettings) (state : Station × List StationEvent)
    (event : StationEvent) : Prop extends
    Clear receivers (fun kept => kept.tlvLength = 0) state.1 event where
  calm : ∀ index announce,
    state.1.induced receivers event = some (.port index (.recvAnnounce announce)) →
      (state.1.domain.ports index).painfd.state ≠ .receive

/-- The domain has recorded its Announces as it should, and each of them from one frame. -/
def FramesRecorded (state : Station × List StationEvent) : Prop :=
  ∃ steps, DomainRecorded (state.1.domain, steps) ∧ ∀ index announce,
    receivedAt index steps announce → ∃ frame, .frame index true frame ∈ state.2 ∧
      SameRecord announce (announceIn frame)

theorem FramesRecorded.step {state after : Station × List StationEvent}
    (recorded : FramesRecorded state) (calm : CalmFrame receivers state event)
    (taken : (stationSystem cfg settings receivers beyond).recorded.step state event = some after) :
    FramesRecorded after := by
  obtain ⟨steps, valid, frames⟩ := recorded
  obtain ⟨done, history⟩ := System.recorded_step taken
  have earlier : ∀ index announce, receivedAt index steps announce → ∃ frame,
      .frame index true frame ∈ after.2 ∧ SameRecord announce (announceIn frame) := by
    intro index announce received
    obtain ⟨frame, member, same⟩ := frames index announce received
    exact ⟨frame, history ▸ List.mem_cons_of_mem _ member, same⟩
  rcases Station.perform_cases done with ⟨_, same⟩ | ⟨step, brings, performed⟩
  · exact ⟨steps, same ▸ valid, earlier⟩
  · have next : (domainSystem cfg settings).recorded.step (state.1.domain, steps) step =
        some (after.1.domain, step :: steps) := by simp [System.recorded, domainSystem, performed]
    refine ⟨step :: steps, valid.step ?_ next, fun index announce received => ?_⟩
    · rintro index announce rfl
      exact calm.calm index announce brings
    · rcases List.mem_cons.mp received with rfl | before
      · obtain ⟨frame, rfl, handed⟩ := Station.induced_recvAnnounce brings
        obtain ⟨whole, kept⟩ := calm.whole index frame announce rfl handed
        exact ⟨frame, history ▸ List.mem_cons_self, sameRecord_announceIn whole handed kept⟩
      · exact earlier index announce before

end Runs

/-- In a run of frames that bring whole Announces, and none to a port that is waiting with one,
a port that holds a received vector has taken all it records from one frame. -/
theorem received_taken_from_one {cfg : Config} {settings : Settings}
    {receivers : ReceiverSettings} {beyond : Memory} {state : Station × List StationEvent}
    (reached : (stationSystem cfg settings receivers beyond).recorded.Reachable
      (CalmFrame receivers) state) (info : (state.1.domain.ports index).bppg.infoIs = .received) :
    ∃ frame, StationEvent.frame index true frame ∈ state.2 ∧
      TakenFrom (announceIn frame) (state.1.domain.ports index) := by
  obtain ⟨steps, valid, frames⟩ := reached.invariant FramesRecorded
    ⟨[], DomainRecorded.start cfg settings, nofun⟩ fun _ _ _ recorded calm taken =>
      recorded.step calm taken
  obtain ⟨announce, received, taken⟩ := (valid.ports index).recorded.taken info
  obtain ⟨frame, member, same⟩ := frames index announce received
  exact ⟨frame, member, taken.same same⟩

def checkFrame (receivers : ReceiverSettings) (holds : Domain → Step → Bool) (station : Station)
    (event : StationEvent) : Bool :=
  (match event with
    | .frame _ _ frame => frame == twoHopsFrame
    | .step _ => true) &&
  (station.induced receivers event).all (holds station.domain)

theorem checkFrame_sound (passed : checkFrame receivers holds station event = true) :
    Clear receivers harmless station event ∧ ∀ step, station.induced receivers event = some step →
      holds station.domain step = true := by
  obtain ⟨only, all⟩ := Bool.and_eq_true_iff.mp passed
  have whole : Whole twoHopsFrame := ⟨twoHopsFrame_announce, by decide⟩
  have tlv : hasTlv (messageOctets twoHopsFrame) = true := rfl
  refine ⟨⟨?_, ?_⟩, fun step brings => by simpa [brings] using all⟩
  · rintro index own frame announce rfl handed
    obtain rfl : frame = twoHopsFrame := by simpa using only
    obtain ⟨_, same⟩ := (whole.decoded handed).resolve_right fun other => by simp [tlv] at other
    have told := congrArg PTPMsgAnnounce.tlvLength same.fields
    rw [show announce.tlvLength = (announceIn twoHopsFrame).tlvLength from told]
    decide +kernel
  · rintro index frame announce rfl _
    obtain rfl : frame = twoHopsFrame := by simpa using only
    exact ⟨whole, fun noTlv => nomatch tlv.symm.trans noTlv⟩

def stationSample : System Station StationEvent :=
  stationSystem (Config.sample 0) .sample .sample Memory.zero

def checkCalm (domain : Domain) : Step → Bool
  | .port index (.recvAnnounce _) => (domain.ports index).painfd.state != .receive
  | _ => true

private theorem calmFrame_of_check (state : Station × List StationEvent) (event : StationEvent)
    (passed : checkFrame .sample checkCalm state.1 event = true) : CalmFrame .sample state event := by
  obtain ⟨clear, calm⟩ := checkFrame_sound passed
  refine ⟨clear, fun index announce brings => ?_⟩
  simpa [checkCalm] using calm _ brings

/-- A master port is brought the Announce. -/
def twoHopsEvents : List StationEvent :=
  (masterSteps 1).map .step ++ [.frame 1 true twoHopsFrame, .step (.port 1 (.announceInformation 1))]

theorem received_taken_from_one_sample :
    ∃ state, stationSample.recorded.Reachable (CalmFrame .sample) state ∧
      (state.1.domain.ports 1).bppg.infoIs = .received ∧
      (state.1.domain.ports 1).bppg.annPathSequenceCount = 2 ∧
      ∃ frame, StationEvent.frame 1 true frame ∈ state.2 ∧
        TakenFrom (announceIn frame) (state.1.domain.ports 1) := by
  have ran : ((stationSample.recorded.restrict fun state => checkFrame .sample checkCalm state.1).run
      (stationSample.start, []) twoHopsEvents).map (fun state =>
        ((state.1.domain.ports 1).bppg.infoIs,
          (state.1.domain.ports 1).bppg.annPathSequenceCount)) = some (.received, 2) := by
    decide +kernel
  obtain ⟨state, finished, values⟩ := Option.map_eq_some_iff.mp ran
  obtain ⟨info, count⟩ := Prod.mk.inj values
  have reached := System.Reachable.of_restrict calmFrame_of_check (System.reachable_of_run finished)
  exact ⟨state, reached, info, count, received_taken_from_one reached info⟩

/-- An Announce of a better clock without a TLV follows. -/
def mixedEvents : List StationEvent :=
  twoHopsEvents ++ [.frame 1 true noTlvFrame, .step (.port 1 (.announceInformation 2))]

/-- The vector recorded then comes from the second Announce, the path from the first. -/
theorem received_mixed : ∃ state, stationSample.recorded.Reachable System.anyStep state ∧
      (state.1.domain.ports 1).bppg.infoIs = .received ∧
      ¬ ∃ frame, StationEvent.frame 1 true frame ∈ state.2 ∧
        TakenFrom (announceIn frame) (state.1.domain.ports 1) := by
  have ran : (stationSample.run stationSample.start mixedEvents).map (fun station =>
      ((station.domain.ports 1).bppg.infoIs,
        (station.domain.ports 1).bppg.portPriority.rootSystemIdentity.priority1,
        (station.domain.ports 1).bppg.annPathSequenceCount)) = some (.received, 0, 2) := by
    decide +kernel
  obtain ⟨station, finished, values⟩ := Option.map_eq_some_iff.mp ran
  simp only [Prod.mk.injEq] at values
  obtain ⟨info, priority1, count⟩ := values
  refine ⟨_, System.reachable_of_run (System.recorded_run finished), info, ?_⟩
  rintro ⟨frame, member, taken⟩
  have either : frame = twoHopsFrame ∨ frame = noTlvFrame := by
    simpa [mixedEvents, twoHopsEvents, masterSteps, or_comm, stationSample, stationSystem,
      System.recorded] using member
  rcases either with rfl | rfl
  · obtain ⟨previous, vector⟩ := taken.portPriority
    have first := congrArg (fun vector => vector.rootSystemIdentity.priority1) vector
    exact absurd (priority1.symm.trans first) (by
      simp only [messageVector]
      decide +kernel)
  · exact absurd (count.symm.trans taken.pathCount) (by decide +kernel)

/-- An event that qualifies no Announce at the cost of the trace, see `Traceable`. -/
structure TraceableFrame (receivers : ReceiverSettings) (station : Station)
    (event : StationEvent) : Prop extends
    Clear receivers (fun kept => kept.tlvType ≠ 8) station event where
  traceable : ∀ step, station.induced receivers event = some step → Traceable station.domain step

def HasPathTrace (frame : List UInt8) : Prop :=
  hasTlv (messageOctets frame) = true ∧ (messageOctets frame).load 64 2 = 8

theorem TraceableFrame.tlvType
    (traceable : TraceableFrame receivers station (.frame index true frame))
    (handed : (station.receive receivers index frame).2 = some announce) :
    announce.tlvType = 8 ↔ HasPathTrace frame := by
  obtain ⟨whole, kept⟩ := traceable.whole index frame announce rfl handed
  rcases whole.decoded handed with ⟨tlv, same⟩ | ⟨noTlv, rfl⟩
  · have type : announce.tlvType = UInt16.ofNat ((messageOctets frame).load 64 2) := by
      have equal := congrArg PTPMsgAnnounce.tlvType same.fields
      rw [announceIn, if_pos tlv] at equal
      exact equal
    rw [HasPathTrace, and_iff_right tlv, type, ← UInt16.toNat_inj,
      UInt16.toNat_ofNat_of_lt' (Memory.load_lt _ 64 2)]
    rfl
  · exact iff_of_false (kept noTlv) fun traced => nomatch noTlv.symm.trans traced.1

/-- In every run whose frames keep the trace traceable, it ends with this clock, names it nowhere
else, and a received Announce changes it as it should. -/
theorem pathTrace_traceable {cfg : Config} {settings : Settings} {receivers : ReceiverSettings}
    {beyond : Memory} {station : Station}
    (reached : (stationSystem cfg settings receivers beyond).Reachable (TraceableFrame receivers)
      station) : PathTraceOk station.domain.ptasg.thisClock station.domain.bptasg ∧
      ∀ index frame announce next, TraceableFrame receivers station (.frame index true frame) →
        (station.receive receivers index frame).2 = some announce →
        station.perform receivers cfg (.frame index true frame) = some next →
          (announce.tlvType = 8 ↔ HasPathTrace frame) ∧
            KeepsTrace station.domain index announce next.domain := by
  have valid := reached.invariant (fun station => DomainTraced station.domain)
    (DomainTraced.init cfg settings) fun before event after traced traceable done => by
      rcases Station.perform_cases done with ⟨_, same⟩ | ⟨step, brings, performed⟩
      · rw [same]
        exact traced
      · exact traced.step (traceable.traceable step brings) performed
  refine ⟨valid.trace, fun index frame announce next traceable handed done => ?_⟩
  have brings : station.induced receivers (.frame index true frame) =
      some (.port index (.recvAnnounce announce)) := by simp [Station.induced, handed]
  refine ⟨traceable.tlvType handed, ?_⟩
  rcases Station.perform_cases done with ⟨none, _⟩ | ⟨step, some, performed⟩
  · rw [none] at brings
    cases brings
  · obtain rfl := Option.some.inj (some.symm.trans brings)
    simp only [perform] at performed
    split at performed
    · exact keepsTrace performed (traceable.traceable _ brings)
    · cases performed

def checkTraceable (domain : Domain) : Step → Bool
  | .port _ (.recvAnnounce announce) =>
    decide (Traced domain.ptasg.thisClock domain.bptasg.pathTraceCount announce) &&
      !traversed domain.ptasg.thisClock announce
  | .port _ .announceReceive => false
  | _ => true

private theorem traceableFrame_of_check (station : Station) (event : StationEvent)
    (passed : checkFrame .sample checkTraceable station event = true) :
    TraceableFrame .sample station event := by
  obtain ⟨clear, holds⟩ := checkFrame_sound passed
  refine ⟨clear, fun step brings => ?_⟩
  have checked := holds step brings
  constructor
  · rintro _ announce rfl
    simp only [checkTraceable, Bool.and_eq_true, decide_eq_true_eq, Bool.not_eq_true'] at checked
    exact ⟨fun _ => checked.1, fun loop => nomatch checked.2.symm.trans loop⟩
  · rintro _ rfl
    exact nomatch checked

theorem pathTrace_traceable_sample :
    ∃ station, stationSample.Reachable (TraceableFrame .sample) station ∧
      (station.domain.ports 1).selectedState = .slavePort ∧
      station.domain.bptasg.pathTraceCount = 3 ∧
      PathTraceOk station.domain.ptasg.thisClock station.domain.bptasg := by
  have ran : ((stationSample.restrict (checkFrame .sample checkTraceable)).run stationSample.start
      (twoHopsEvents ++ [.step (.stateSelection 1)])).map (fun station =>
        ((station.domain.ports 1).selectedState, station.domain.bptasg.pathTraceCount)) =
      some (.slavePort, 3) := by
    decide +kernel
  obtain ⟨station, finished, values⟩ := Option.map_eq_some_iff.mp ran
  obtain ⟨slave, count⟩ := Prod.mk.inj values
  have reached := System.Reachable.of_restrict traceableFrame_of_check
    (System.reachable_of_run finished)
  exact ⟨station, reached, slave, count, (pathTrace_traceable reached).1⟩

/-- An Announce without a TLV clears the trace of the grandmaster: the last entry in use is then
not this clock. -/
theorem pathTrace_cleared_in_use : ∃ station, stationSample.Reachable System.anyStep station ∧
      0 < station.domain.bptasg.pathTraceCount.toNat ∧
      station.domain.bptasg.pathTrace (station.domain.bptasg.pathTraceCount.toNat - 1) ≠
        station.domain.ptasg.thisClock := by
  have ran : (stationSample.run stationSample.start
      ((masterSteps 1).map .step ++ [.frame 1 true noTlvFrame])).map (fun station =>
        (station.domain.bptasg.pathTraceCount, station.domain.bptasg.pathTrace 0,
          station.domain.ptasg.thisClock)) = some (1, ClockIdentity.fill 0, ClockIdentity.fill 1) := by
    decide +kernel
  obtain ⟨station, finished, values⟩ := Option.map_eq_some_iff.mp ran
  simp only [Prod.mk.injEq] at values
  obtain ⟨count, first, own⟩ := values
  refine ⟨station, System.reachable_of_run finished, ?_, ?_⟩
  · rw [count]
    decide
  · rw [count, own]
    exact first ▸ by decide

end EnetTsn.Bmcs
