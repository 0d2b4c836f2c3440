import EnetTsn.Bmcs.PathTrace

namespace EnetTsn.Bmcs

open EnetTsn.Gptp EnetTsn.Library

/-- Whether the machines use the buffer of the port without another look at the
Announce that arrives in it. -/
def Waiting (port : Port) : Prop :=
  port.painfd.state = .receive ∨ port.bppg.rcvdMsg = true ∧ port.up = false

/-- A step that qualifies no Announce at the cost of the trace, and that brings no
Announce whose path names this clock to a port that would use it as it is. -/
structure Traceable (domain : Domain) (step : Step) : Prop where
  received : ∀ index announce, step = .port index (.recvAnnounce announce) →
    ((domain.ports index).up = true ∨ domain.external = true →
      Traced domain.ptasg.thisClock domain.bptasg.pathTraceCount announce) ∧
    (traversed domain.ptasg.thisClock announce = true → ¬ Waiting (domain.ports index))
  again : ∀ index, step = .port index .announceReceive →
    Traced domain.ptasg.thisClock domain.bptasg.pathTraceCount (domain.ports index).parecd.buffer

structure SettledPort (thisClock : ClockIdentity) (port : Port) : Prop where
  stable : port.painfd.lastState = port.painfd.state
  traced : PortTraced thisClock (port.painfd.state = .receive) port

section Port

variable {thisClock : ClockIdentity} {ptasg : PerTimeAwareSystemGlobal}
  {bptasg : BmcsPerTimeAwareSystemGlobal} {before after : Port}

theorem SettledPort.congr (settled : SettledPort thisClock before)
    (parecd : after.parecd = before.parecd) (state : after.painfd.state = before.painfd.state)
    (lastState : after.painfd.lastState = before.painfd.lastState)
    (rcvdMsg : after.bppg.rcvdMsg = before.bppg.rcvdMsg)
    (count : after.bppg.annPathSequenceCount = before.bppg.annPathSequenceCount)
    (path : after.bppg.annPathSequence = before.bppg.annPathSequence) :
    SettledPort thisClock after := by
  refine ⟨?_, ?_, ?_, ?_⟩
  · rw [lastState, state]
    exact settled.stable
  · rw [Awake, parecd]
    exact settled.traced.awake
  · rw [count, path]
    exact settled.traced.record
  · rw [rcvdMsg, state, parecd]
    exact settled.traced.buffer

theorem SettledPort.examine (settled : SettledPort ptasg.thisClock before)
    (whole : Traced ptasg.thisClock bptasg.pathTraceCount announce)
    (ready : traversed ptasg.thisClock announce = true → ¬ Waiting before) :
    SettledPort ptasg.thisClock
      (examine ptasg announce { port := before, bptasg := bptasg }).port := by
  refine ⟨settled.stable, Or.inr rfl, settled.traced.record, fun used => ?_⟩
  have decision := (qualifyAnnounce_cases ptasg
    (storeAnnounce announce { port := before, bptasg := bptasg }).port bptasg).1
  rcases used with accepted | waiting
  · exact clean_of_qualifies whole (decision.symm.trans accepted)
  · cases loop : traversed ptasg.thisClock announce with
    | false => exact clean_of_not_traversed loop
    | true => exact absurd (Or.inl waiting) (ready loop)

theorem SettledPort.discard (settled : SettledPort thisClock before) (down : before.up = false)
    (ready : traversed thisClock announce = true → ¬ Waiting before) :
    SettledPort thisClock (discard announce { port := before, bptasg := bptasg }).port := by
  refine ⟨settled.stable, Or.inl rfl, settled.traced.record, fun used => ?_⟩
  cases loop : traversed thisClock announce with
  | false => exact clean_of_not_traversed loop
  | true =>
    refine absurd ?_ (ready loop)
    rcases used with pending | waiting
    · exact Or.inr ⟨pending, down⟩
    · exact Or.inl waiting

theorem SettledPort.receive (settled : SettledPort ptasg.thisClock before)
    (ok : PathTraceOk ptasg.thisClock bptasg)
    (whole : Traced ptasg.thisClock bptasg.pathTraceCount before.parecd.buffer)
    (finished : portAnnounceReceiveSm ptasg { port := before, bptasg := bptasg } = some data) :
    SettledPort ptasg.thisClock data.port ∧ PathTraceOk ptasg.thisClock data.bptasg := by
  have kept := (kept_portAnnounceReceiveSm finished).port
  have painfd : data.port.painfd = before.painfd := by rw [kept]
  have path : data.port.bppg.annPathSequence = before.bppg.annPathSequence := by rw [kept]
  have count : data.port.bppg.annPathSequenceCount = before.bppg.annPathSequenceCount := by
    rw [kept]
  have start : Receiving ptasg.thisClock before.parecd.buffer { port := before, bptasg := bptasg } :=
    ⟨rfl, ok, whole, fun pending => settled.traced.buffer (Or.inl pending)⟩
  have receiving : Receiving ptasg.thisClock before.parecd.buffer data :=
    receiving_portAnnounceReceiveSm start finished
  refine ⟨⟨?_, ?_, ?_, ?_⟩, receiving.trace⟩
  · rw [painfd]
    exact settled.stable
  · exact awake_portAnnounceReceiveSm settled.traced.awake finished
  · rw [path, count]
    exact settled.traced.record
  · rw [receiving.buffer, painfd]
    rintro (pending | waiting)
    · exact receiving.pending pending
    · exact settled.traced.buffer (Or.inr waiting)

end Port

/-- The invariant of a domain. With external port configuration no port is ever the
slave, and the trace stays empty. -/
structure DomainTraced (domain : Domain) : Prop where
  running : domain.ptasg.BEGIN = false
  enabled : domain.ptasg.instanceEnable = true
  trace : PathTraceOk domain.ptasg.thisClock domain.bptasg
  managed : domain.external = false → ∀ index,
    SettledPort domain.ptasg.thisClock (domain.ports index)
  external : domain.external = true → domain.bptasg.pathTraceCount = 0 ∧ ∀ index, 0 < index →
    (domain.ports index).selectedState ≠ .slavePort ∧
      (domain.ports index).pssextd.portStateInd ≠ .slavePort

namespace DomainTraced

theorem init (cfg : Config) (settings : Settings) : DomainTraced (Domain.init cfg settings) where
  running := rfl
  enabled := rfl
  trace := ok_of_empty rfl
  managed _ index := by
    refine ⟨rfl, Or.inl rfl, ?_, ?_⟩
    · intro entry inRange
      exact absurd inRange (by simp [Domain.init, Port.init, BmcsPerPortGlobal.init])
    · rintro (pending | waiting)
      · cases pending
      · cases waiting
  external _ := ⟨rfl, fun _ _ => ⟨nofun, nofun⟩⟩

theorem portChange (change : PortChange domain index step port)
    (announce : ∀ announce, step ≠ .recvAnnounce announce) (again : step ≠ .announceReceive)
    (settled : SettledPort thisClock (domain.ports index)) : SettledPort thisClock port := by
  cases change with
  | recvAnnounce ran => exact absurd rfl (announce _)
  | announceReceive ran => exact absurd rfl again
  | information _ ran =>
    obtain ⟨stable, traced⟩ :=
      portTraced_portAnnounceInformationSm settled.stable settled.traced ran
    exact ⟨stable, traced⟩
  | side kept =>
    refine settled.congr ?_ ?_ ?_ ?_ ?_ ?_
    all_goals rw [kept.rest]
  | syncReceiptTimeoutTime time | portOper value | asCapable value
  | asymmetryMeasurementMode value => exact settled.congr rfl rfl rfl rfl rfl rfl

private theorem states_portChange (change : PortChange domain index step port)
    (external : domain.external = true) : port.selectedState = (domain.ports index).selectedState ∧
      port.pssextd.portStateInd = (domain.ports index).pssextd.portStateInd := by
  cases change with
  | recvAnnounce ran => rw [(kept_recvAnnounce ran).port]; exact ⟨rfl, rfl⟩
  | announceReceive ran => rw [(kept_portAnnounceReceiveSm ran).port]; exact ⟨rfl, rfl⟩
  | information managed _ => exact nomatch managed.symm.trans external
  | side kept => rw [kept.rest]; exact ⟨rfl, rfl⟩
  | syncReceiptTimeoutTime time | portOper value | asCapable value
  | asymmetryMeasurementMode value => exact ⟨rfl, rfl⟩

theorem managedPort (done : step.perform index domain = some next)
    (traceable : Traceable domain (.port index step)) (managed : domain.external = false)
    (valid : DomainTraced domain) : PathTraceOk domain.ptasg.thisClock next.bptasg ∧
      SettledPort domain.ptasg.thisClock (next.ports index) := by
  have settled := valid.managed managed index
  rcases PortStep.bptasg_cases done with
    ⟨same, announce, again⟩ | ⟨announce, data, rfl, ran, rfl⟩ | ⟨data, rfl, ran, rfl⟩
  · rw [same]
    exact ⟨valid.trace, portChange (PortStep.perform_cases done).2 announce again settled⟩
  · obtain ⟨whole, ready⟩ := traceable.received index announce rfl
    cases up : (domain.ports index).up with
    | true =>
      have examined := (recvAnnounce_up valid.running valid.enabled settled.traced.awake up).symm.trans
        ran
      cases examined
      refine ⟨ok_qualifyAnnounce valid.trace (whole (Or.inl up)), ?_⟩
      simpa using settled.examine (whole (Or.inl up)) ready
    | false =>
      have discarded := (recvAnnounce_down (by simpa [Domain.external] using managed) up).symm.trans ran
      cases discarded
      refine ⟨valid.trace, ?_⟩
      simpa using settled.discard up ready
  · obtain ⟨received, trace⟩ := settled.receive valid.trace (traceable.again index rfl) ran
    exact ⟨trace, by simpa using received⟩

private theorem externalPort {step : PortStep} (done : step.perform index domain = some next)
    (positive : 0 < index) (external : domain.external = true) (valid : DomainTraced domain) :
    next.bptasg.pathTraceCount = 0 := by
  obtain ⟨empty, states⟩ := valid.external external
  rcases PortStep.bptasg_cases done with
    ⟨same, _, _⟩ | ⟨announce, data, rfl, ran, rfl⟩ | ⟨data, rfl, ran, rfl⟩
  · rw [same]
    exact empty
  · exact (count_portAnnounceReceiveSm (states index positive).1 ran).trans empty
  · exact (count_portAnnounceReceiveSm (states index positive).1 ran).trans empty

theorem portStep (done : step.perform index domain = some next) (positive : 0 < index)
    (traceable : Traceable domain (.port index step)) (valid : DomainTraced domain) :
    DomainTraced next := by
  obtain ⟨rest, change⟩ := PortStep.perform_cases done
  have sameExternal : next.external = domain.external := by
    rw [Domain.external, rest.trace.rest]
    rfl
  cases external : domain.external with
  | false =>
    obtain ⟨trace, settled⟩ := managedPort done traceable external valid
    refine ⟨rest.ptasg ▸ valid.running, rest.ptasg ▸ valid.enabled, rest.ptasg ▸ trace,
      fun _ other => ?_, fun after => nomatch (sameExternal.trans external).symm.trans after⟩
    rw [rest.ptasg]
    by_cases same : other = index
    · subst same
      exact settled
    · rw [rest.ports other same]
      exact valid.managed external other
  | true =>
    have empty := externalPort done positive external valid
    refine ⟨rest.ptasg ▸ valid.running, rest.ptasg ▸ valid.enabled, ok_of_empty empty,
      fun after => ?_, fun _ => ⟨empty, fun other otherPositive => ?_⟩⟩
    · exact nomatch (sameExternal.trans external).symm.trans after
    · have states := (valid.external external).2 other otherPositive
      by_cases same : other = index
      · subst same
        obtain ⟨selectedState, portStateInd⟩ := states_portChange change external
        rw [selectedState, portStateInd]
        exact states
      · rw [rest.ports other same]
        exact states

theorem selecting (selecting : Selecting cfg domain next) (managed : domain.external = false)
    (valid : DomainTraced domain) : DomainTraced next := by
  have frame := selecting.frame
  have traced : SelectionTraced next :=
    selecting.preserves SelectionTraced (fun _ _ => traced_selectionMove)
      ⟨valid.trace, fun index => (valid.managed managed index).traced.record⟩
  refine ⟨frame.BEGIN.trans valid.running, frame.instanceEnable.trans valid.enabled,
    traced.trace, fun _ index => ?_, fun after => ?_⟩
  · have port := frame.ports index
    rw [frame.thisClock]
    refine (valid.managed managed index).congr port.parecd ?_ ?_ port.rcvdMsg ?_ ?_
    · rw [port.painfd]
    · rw [port.painfd]
    · rw [port.bppg]
    · rw [port.bppg]
  · rw [Domain.external, frame.externalPortConfiguration] at after
    exact nomatch managed.symm.trans after

theorem externalFrame (frame : ExternalFrame domain next) (external : domain.external = true)
    (valid : DomainTraced domain) : DomainTraced next := by
  obtain ⟨empty, states⟩ := valid.external external
  have count : next.bptasg.pathTraceCount = 0 := by
    rw [frame.bptasg]
    exact empty
  have sameExternal : next.external = domain.external := by
    rw [Domain.external, frame.bptasg]
    rfl
  refine ⟨?_, ?_, ok_of_empty count, fun after => ?_, fun _ => ⟨count, fun index positive => ?_⟩⟩
  · rw [frame.ptasg]
    exact valid.running
  · rw [frame.ptasg]
    exact valid.enabled
  · exact nomatch (sameExternal.trans external).symm.trans after
  · obtain ⟨selectedState, portStateInd⟩ := states index positive
    refine ⟨fun slave => ?_, (frame.ports index).portStateInd ▸ portStateInd⟩
    rcases frame.slave index positive slave with before | ind
    · exact selectedState before
    · exact portStateInd ind

theorem clockKept (kept : ClockKept domain next) (valid : DomainTraced domain) :
    DomainTraced next := by
  have sameExternal : next.external = domain.external := by
    rw [Domain.external, kept.bptasg]
    rfl
  have thisClock : next.ptasg.thisClock = domain.ptasg.thisClock := by rw [kept.ptasg]
  constructor
  · rw [kept.ptasg]
    exact valid.running
  · rw [kept.ptasg]
    exact valid.enabled
  · rw [thisClock, kept.bptasg]
    exact valid.trace
  · rw [sameExternal, thisClock, kept.ports]
    exact valid.managed
  · rw [sameExternal, kept.bptasg, kept.ports]
    exact valid.external

theorem step (valid : DomainTraced domain) (traceable : Traceable domain event)
    (done : perform cfg domain event = some next) : DomainTraced next := by
  rcases perform_cases done with
    ⟨index, portStep, rfl, positive, inRange, _⟩ | ⟨managed, cts64, result, ran⟩ |
      ⟨external, _, _, _, ran⟩ | kept
  · have taken : portStep.perform index domain = some next := by
      simpa [perform, positive, inRange] using done
    exact valid.portStep taken positive traceable
  · exact valid.selecting (selecting_portStateSelectionSm ran) managed
  · exact valid.externalFrame (frame_performExternal ran) external
  · exact valid.clockKept kept

end DomainTraced

private theorem identityBytes_zero (zero : trace (index / 8) = ClockIdentity.fill 0) :
    identityBytes trace index = 0 := by
  unfold identityBytes
  rw [zero]
  simp [ClockIdentity.fill, Vector.get]

theorem txAnnounce_zero
    (zero : ∀ index < maxPathTraceN, view.bptasg.pathTrace index = ClockIdentity.fill 0)
    (inRange : position < (txAnnounce view port).tlvLength.toNat) :
    (txAnnounce view port).pathSequence position = 0 := by
  by_cases fits : view.bptasg.pathTraceCount.toNat ≤ maxPathTraceN
  · have length : (txAnnounce view port).tlvLength = UInt16.ofNat
        (8 * view.bptasg.pathTraceCount.toNat) := if_pos fits
    have size : (txAnnounce view port).tlvLength.toNat = 8 * view.bptasg.pathTraceCount.toNat := by
      rw [length, UInt16.toNat_ofNat']
      unfold maxPathTraceN at fits
      omega
    have sequence : (txAnnounce view port).pathSequence =
        memcpy port.patransd.announceTx.pathSequence (identityBytes view.bptasg.pathTrace)
          (txAnnounce view port).tlvLength.toNat := if_pos fits
    rw [sequence, memcpy, if_pos inRange]
    apply identityBytes_zero
    apply zero
    omega
  · have length : (txAnnounce view port).tlvLength = 0 := if_neg fits
    rw [length] at inRange
    exact absurd inRange (by simp)

/-- What the path trace promises of an Announce received on a port: one without the
TLV that the slave port accepts leaves nothing of an earlier path to be sent, as
long as the array stays; a bad one, or one on another port, leaves the trace. -/
structure KeepsTrace (domain : Domain) (index : Nat) (announce : PTPMsgAnnounce) (next : Domain) :
    Prop where
  absent : announce.tlvType ≠ 0x8 → (domain.ports index).selectedState = .slavePort →
    Accepted (next.ports index) → ∀ later : Domain,
    later.bptasg.pathTrace = next.bptasg.pathTrace → ∀ cts64 fuel port sender sent,
      portAnnounceTransmitSm later.view cts64 fuel port = some (sender, some sent) →
      ∀ position < sent.tlvLength.toNat, sent.pathSequence position = 0
  elsewhere : qualifies domain.ptasg.thisClock announce = false ∨
    (domain.ports index).selectedState ≠ .slavePort → SameTrace domain.bptasg next.bptasg

theorem keepsTrace (done : PortStep.perform index domain (.recvAnnounce announce) = some next)
    (traceable : Traceable domain (.port index (.recvAnnounce announce))) :
    KeepsTrace domain index announce next := by
  obtain ⟨data, ran, rfl⟩ := onReceive_eq_some done
  have received := (traceable.received index announce rfl).1
  constructor
  · intro absent _ accepted later same cts64 fuel port sender sent finished position inRange
    obtain ⟨sending, rfl⟩ := sent_portAnnounceTransmitSm finished
    refine txAnnounce_zero ?_ inRange
    have taken : Accepted data.port := by simpa using accepted
    have cleared := cleared_recvAnnounce absent taken ran
    intro entry inArray
    exact (congrFun same entry).trans (cleared entry inArray)
  · intro elsewhere
    by_cases examined : (domain.ports index).up = true ∨ domain.external = true
    · exact sameTrace_recvAnnounce (received examined) elsewhere ran
    · simp only [not_or, Bool.not_eq_true] at examined
      have discarded := (recvAnnounce_down (by simpa [Domain.external] using examined.2)
        examined.1).symm.trans ran
      cases discarded
      exact .refl _

end EnetTsn.Bmcs
