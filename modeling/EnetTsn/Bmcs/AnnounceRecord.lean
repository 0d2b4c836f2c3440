import EnetTsn.Bmcs.Frames
import EnetTsn.Bmcs.SelectionMoves

namespace EnetTsn.Bmcs

open EnetTsn.Gptp EnetTsn.Library AnnounceInformation

/-- All that a port records is of one Announce. -/
structure TakenFrom (announce : PTPMsgAnnounce) (port : Port) : Prop where
  portPriority : ∃ previous,
    port.bppg.portPriority = messageVector previous announce port.ppg.thisPort
  portStepsRemoved : port.bppg.portStepsRemoved = announce.stepsRemoved
  interval : port.bppg.announceReceiptTimeoutTimeInterval =
    receiptTimeoutInterval port.bppg.announceReceiptTimeout announce.header.logMessageInterval
  properties : port.bppg.ann = announce.timeProperties
  pathCount : port.bppg.annPathSequenceCount = UInt8.ofNat (announce.tlvLength.toNat / 8)
  path : ∀ index < min announce.tlvLength.toNat pathSequenceSize,
    port.bppg.annPathSequence index = announce.pathSequence index

/-- The message vector is that of the Announce in the buffer. -/
def Examined (port : Port) : Prop :=
  ∃ previous, port.painfd.messagePriority =
    messageVector previous port.parecd.buffer port.ppg.thisPort

/-- What a port holds was received, where its machine stands in `s`. -/
structure Recorded (received : PTPMsgAnnounce → Prop) (s : AnnounceInformationState)
    (port : Port) : Prop where
  taken : port.bppg.infoIs = .received → ∃ announce, received announce ∧ TakenFrom announce port
  pending : Pending port → received port.parecd.buffer
  waiting : s = .receive → received port.parecd.buffer ∧ Examined port

structure Arriving (received : PTPMsgAnnounce → Prop) (s : AnnounceInformationState)
    (port : Port) : Prop where
  taken : port.bppg.infoIs = .received → ∃ announce, received announce ∧ TakenFrom announce port
  pending : Pending port → received port.parecd.buffer
  receiving : s = .receive → received port.parecd.buffer
  superior : s = .superiorMasterPort → received port.parecd.buffer ∧ Examined port

theorem TakenFrom.congr (taken : TakenFrom announce port)
    (ppg : port'.ppg.thisPort = port.ppg.thisPort)
    (bppg : port'.bppg = { port.bppg with
      infoIs := port'.bppg.infoIs
      masterPriority := port'.bppg.masterPriority
      currentLogAnnounceInterval := port'.bppg.currentLogAnnounceInterval
      announceInterval := port'.bppg.announceInterval
      oldAnnounceInterval := port'.bppg.oldAnnounceInterval
      announceSlowdown := port'.bppg.announceSlowdown
      messageStepsRemoved := port'.bppg.messageStepsRemoved
      newInfo := port'.bppg.newInfo
      rcvdAnnouncePtr := port'.bppg.rcvdAnnouncePtr
      rcvdMsg := port'.bppg.rcvdMsg
      updtInfo := port'.bppg.updtInfo }) : TakenFrom announce port' := by
  constructor
  · rw [bppg, ppg]
    exact taken.portPriority
  all_goals rw [bppg]
  · exact taken.portStepsRemoved
  · exact taken.interval
  · exact taken.properties
  · exact taken.pathCount
  · exact taken.path

section Machine

variable {received : PTPMsgAnnounce → Prop} {view : InstanceView} {cts64 : UInt64}

theorem Recorded.elsewhere (recorded : Recorded received s port)
    (receive : s' ≠ .receive := by rintro ⟨⟩) (superior : s' ≠ .superiorMasterPort := by rintro ⟨⟩) :
    Arriving received s' port :=
  ⟨recorded.taken, recorded.pending, (absurd · receive), (absurd · superior)⟩

private theorem takenFrom_superiorMasterPortProc (port : Port) (examined : Examined port) :
    TakenFrom port.parecd.buffer (superiorMasterPortProc cts64 port) where
  portPriority := examined
  portStepsRemoved := rfl
  interval := rfl
  properties := rfl
  pathCount := rfl
  path index inRange := by
    simp [memcpy, inRange]

variable (s : AnnounceInformationState)

theorem recorded_proc (port : Port)
    (arriving : Arriving received s port) : Recorded received s (proc view cts64 s port) := by
  cases s with
  | init | current | reaction => exact ⟨arriving.taken, arriving.pending, by simp⟩
  | disabled =>
    refine ⟨by rintro ⟨⟩, fun pending => arriving.pending ?_, by rintro ⟨⟩⟩
    simp [Pending, proc] at pending
    tauto
  | aged | update => exact ⟨by rintro ⟨⟩, arriving.pending, by rintro ⟨⟩⟩
  | receive =>
    refine ⟨fun info => ?_, arriving.pending, fun _ => ⟨arriving.receiving rfl, ⟨_, rfl⟩⟩⟩
    obtain ⟨announce, got, taken⟩ := arriving.taken info
    exact ⟨announce, got, taken.congr rfl rfl⟩
  | superiorMasterPort =>
    obtain ⟨got, examined⟩ := arriving.superior rfl
    exact ⟨fun _ => ⟨_, got, takenFrom_superiorMasterPortProc port examined⟩, fun _ => got, by simp⟩
  | repeatedMasterPort | inferiorMasterOrOtherPort =>
    refine ⟨fun info => ?_, fun pending => arriving.pending ?_, by simp⟩
    · obtain ⟨announce, got, taken⟩ := arriving.taken info
      exact ⟨announce, got, taken.congr rfl rfl⟩
    · simp [Pending, proc] at pending
      tauto

theorem arriving_condition (port : Port)
    (same : port.painfd.state = s) (recorded : Recorded received s port)
    (moves : condition view cts64 s port ≠ s) :
    Arriving received (condition view cts64 s port) port := by
  cases s with
  | init | update | superiorMasterPort | repeatedMasterPort =>
    exact recorded.elsewhere
  | disabled =>
    simp only [condition, disabledCondition, same] at moves ⊢
    split
    · exact recorded.elsewhere
    · split <;> exact recorded.elsewhere
  | aged =>
    simp only [condition, agedCondition] at moves ⊢
    split <;> exact recorded.elsewhere
  | current =>
    simp only [condition] at moves ⊢
    rcases currentCondition_cases view cts64 port with
      ⟨next, _⟩ | ⟨next, _⟩ | ⟨next, rcvd, _⟩ | ⟨next, _⟩ <;> rw [next]
    · exact recorded.elsewhere
    · exact recorded.elsewhere
    · exact ⟨recorded.taken, recorded.pending, fun _ => recorded.pending (Or.inl rcvd), by simp⟩
    · exact recorded.elsewhere
  | receive =>
    simp only [condition] at moves ⊢
    rcases receiveCondition_cases port with ⟨next, _⟩ | ⟨next, _⟩ | ⟨next, _⟩ | ⟨next, _⟩
    · exact absurd next moves
    · rw [next]
      exact ⟨recorded.taken, recorded.pending, by simp, fun _ => recorded.waiting rfl⟩
    all_goals
      rw [next]
      exact recorded.elsewhere
  | inferiorMasterOrOtherPort =>
    simp only [condition] at moves ⊢
    rcases inferiorCondition_cases view port with ⟨next, _⟩ | next <;> rw [next]
    all_goals exact recorded.elsewhere
  | reaction => exact absurd rfl moves

private theorem ignores_recorded : (table view cts64).Ignores (Recorded received) := by
  constructor
  all_goals
    intro s s' port recorded
    refine ⟨fun info => ?_, recorded.pending, recorded.waiting⟩
    obtain ⟨announce, got, taken⟩ := recorded.taken info
    exact ⟨announce, got, taken.congr rfl rfl⟩

private theorem ignores_arriving : (table view cts64).Ignores (Arriving received) := by
  constructor
  all_goals
    intro s s' port arriving
    refine ⟨fun info => ?_, arriving.pending, arriving.receiving, arriving.superior⟩
    obtain ⟨announce, got, taken⟩ := arriving.taken info
    exact ⟨announce, got, taken.congr rfl rfl⟩

theorem recorded_run (stable : port.painfd.lastState = port.painfd.state)
    (recorded : Recorded received port.painfd.state port)
    (finished : portAnnounceInformationSm view cts64 port = some next) :
    next.painfd.lastState = next.painfd.state ∧ Recorded received next.painfd.state next := by
  refine portAnnounceInformationSm_phases (Arriving received) (Recorded received)
    ignores_arriving ignores_recorded ?_ ?_ arriving_condition stable (fun _ => recorded)
    finished
  · exact fun _ _ => recorded.elsewhere
  · exact fun s port _ arriving => recorded_proc s port arriving

end Machine

/-- No copy has left the record of the port, and the Announce that it holds makes none do so. -/
structure PathHeld (port : Port) : Prop where
  within : port.bppg.overrun = false
  fits : port.parecd.buffer.tlvLength.toNat ≤ pathSequenceSize

namespace PathHeld

theorem proc (view : InstanceView) (cts64 : UInt64) (s : AnnounceInformationState) (port : Port)
    (held : PathHeld port) : PathHeld (proc view cts64 s port) := by
  cases s with
  | superiorMasterPort =>
    have fits : ¬ pathSequenceSize < port.parecd.buffer.tlvLength.toNat := Nat.not_lt.mpr held.fits
    refine ⟨?_, held.fits⟩
    simp [AnnounceInformation.proc, held.within, fits]
  | _ => exact ⟨held.within, held.fits⟩

theorem portChange (change : PortChange domain index step port)
    (fitting : ∀ announce, step = .recvAnnounce announce →
      announce.tlvLength.toNat ≤ pathSequenceSize)
    (held : PathHeld (domain.ports index)) : PathHeld port := by
  cases change with
  | @recvAnnounce announce _ ran =>
    have kept := (kept_recvAnnounce ran).port
    constructor
    · rw [kept]
      exact held.within
    · rw [buffer_portAnnounceReceiveSm ran]
      exact fitting announce rfl
  | announceReceive ran =>
    constructor
    · rw [(kept_portAnnounceReceiveSm ran).port]
      exact held.within
    · rw [buffer_portAnnounceReceiveSm ran]
      exact held.fits
  | information _ ran =>
    refine portAnnounceInformationSm_preserves (fun _ => PathHeld) ⟨?_, ?_⟩ ?_ ?_ ?_ held ran
    · exact fun _ _ _ kept => ⟨kept.within, kept.fits⟩
    · exact fun _ _ _ kept => ⟨kept.within, kept.fits⟩
    · exact fun _ _ kept => kept
    · exact fun s port _ kept => kept.proc domain.view _ s port
    · exact fun _ _ _ kept => kept
  | side kept =>
    constructor
    all_goals rw [kept.rest]
    · exact held.within
    · exact held.fits
  | syncReceiptTimeoutTime time | portOper value | asCapable value
  | asymmetryMeasurementMode value => exact ⟨held.within, held.fits⟩

end PathHeld

/-- A step that brings no Announce with a longer path than the record has room for. -/
def FittingPath (_ : Domain) (step : Step) : Prop :=
  ∀ index announce, step = .port index (.recvAnnounce announce) →
    announce.tlvLength.toNat ≤ pathSequenceSize

theorem pathHeld_reachable
    (reached : (domainSystem cfg settings).Reachable FittingPath domain) (index : Nat) :
    PathHeld (domain.ports index) := by
  refine reached.invariant (fun domain => ∀ index, PathHeld (domain.ports index))
    (fun _ => ⟨rfl, Nat.zero_le _⟩) ?_ index
  intro before event after held fitting done index
  rcases perform_cases done with
    ⟨other, step, rfl, _, _, rest, change⟩ | ⟨_, cts64, result, ran⟩ | ⟨_, _, _, _, ran⟩ | kept
  · by_cases same : index = other
    · subst same
      exact (held index).portChange change fun announce brought => fitting index announce (by rw [brought])
    · rw [rest.ports index same]
      exact held index
  · have port := (selecting_portStateSelectionSm ran).frame.ports index
    refine ⟨?_, ?_⟩
    · rw [port.bppg]
      exact (held index).within
    · rw [port.parecd]
      exact (held index).fits
  · have port := ((frame_performExternal ran).ports index).rest
    refine ⟨?_, ?_⟩
    · rw [port]
      exact (held index).within
    · rw [port]
      exact (held index).fits
  · rw [kept.ports]
    exact held index

structure PortRecorded (received : PTPMsgAnnounce → Prop) (port : Port) : Prop where
  stable : port.painfd.lastState = port.painfd.state
  recorded : Recorded received port.painfd.state port

theorem PortRecorded.mono (weaker : ∀ announce, received announce → received' announce)
    (port : PortRecorded received before) : PortRecorded received' before := by
  refine ⟨port.stable, ⟨fun info => ?_, fun pending => weaker _ (port.recorded.pending pending),
    fun waiting => (port.recorded.waiting waiting).imp_left (weaker _)⟩⟩
  obtain ⟨announce, got, taken⟩ := port.recorded.taken info
  exact ⟨announce, weaker _ got, taken⟩

section

variable (port : PortRecorded received before)
include port

theorem PortRecorded.congr
    (taken : ∀ announce, after.bppg.infoIs = .received → TakenFrom announce before →
      TakenFrom announce after) (infoIs : after.bppg.infoIs = before.bppg.infoIs)
    (rcvdMsg : after.bppg.rcvdMsg = before.bppg.rcvdMsg) (parecd : after.parecd = before.parecd)
    (thisPort : after.ppg.thisPort = before.ppg.thisPort)
    (painfd : after.painfd = { before.painfd with
      syncReceiptTimeoutTime := after.painfd.syncReceiptTimeoutTime }) :
    PortRecorded received after := by
  refine ⟨by rw [painfd]; exact port.stable, ⟨fun info => ?_, fun pending => ?_, fun waiting => ?_⟩⟩
  · obtain ⟨announce, got, from_⟩ := port.recorded.taken (infoIs ▸ info)
    exact ⟨announce, got, taken announce info from_⟩
  · rw [parecd]
    exact port.recorded.pending (by simpa [Pending, rcvdMsg, parecd] using pending)
  · rw [painfd] at waiting
    have old := port.recorded.waiting waiting
    rw [Examined, parecd, painfd, thisPort]
    exact old

theorem PortRecorded.receive
    (finished : portAnnounceReceiveSm ptasg { port := before, bptasg := bptasg } = some data) :
    PortRecorded received data.port := by
  have kept := (kept_portAnnounceReceiveSm finished).port
  have buffer : data.port.parecd.buffer = before.parecd.buffer :=
    buffer_portAnnounceReceiveSm finished
  have painfd : data.port.painfd = before.painfd := by rw [kept]
  have thisPort : data.port.ppg.thisPort = before.ppg.thisPort := by rw [kept]
  have infoIs : data.port.bppg.infoIs = before.bppg.infoIs := by rw [kept]
  refine ⟨by rw [painfd]; exact port.stable, ⟨fun info => ?_, fun pending => ?_, fun waiting => ?_⟩⟩
  · obtain ⟨announce, got, taken⟩ := port.recorded.taken (infoIs ▸ info)
    exact ⟨announce, got, taken.congr thisPort (by rw [kept])⟩
  · rw [buffer]
    exact port.recorded.pending (pending_portAnnounceReceiveSm finished pending)
  · rw [painfd] at waiting
    have old := port.recorded.waiting waiting
    rw [Examined, buffer, painfd, thisPort]
    exact old

theorem PortRecorded.recvAnnounce (ready : before.painfd.state ≠ .receive)
    (finished : portAnnounceReceiveSmRecvAnnounce ptasg announce
      { port := before, bptasg := bptasg } = some data) :
    PortRecorded (fun other => other = announce ∨ received other) data.port := by
  have stored : PortRecorded (fun other => other = announce ∨ received other)
      (storeAnnounce announce { port := before, bptasg := bptasg }).port := by
    refine ⟨port.stable, ⟨fun info => ?_, fun _ => Or.inl rfl, (absurd · ready)⟩⟩
    obtain ⟨other, got, taken⟩ := port.recorded.taken info
    exact ⟨other, Or.inr got, taken.congr rfl rfl⟩
  exact stored.receive finished

end

def receivedAt (index : Nat) (history : List Step) (announce : PTPMsgAnnounce) : Prop :=
  Step.port index (.recvAnnounce announce) ∈ history

/-- The invariant of all ports over the history of a run. With external port
configuration no port ever holds a received vector. -/
structure DomainRecorded (state : Domain × List Step) : Prop where
  ports : ∀ index, PortRecorded (receivedAt index state.2) (state.1.ports index)
  external : state.1.external = true → ∀ index, (state.1.ports index).bppg.infoIs = .disabled

/-- A step that does not bring an Announce to a port whose information machine is
waiting with one. -/
def Calm (state : Domain × List Step) (step : Step) : Prop :=
  ∀ index announce, step = .port index (.recvAnnounce announce) →
    (state.1.ports index).painfd.state ≠ .receive

namespace DomainRecorded

theorem start (cfg : Config) (settings : Settings) :
    DomainRecorded (domainSystem cfg settings).recorded.start where
  ports index := by
    refine ⟨rfl, ⟨nofun, fun pending => ?_, nofun⟩⟩
    rcases pending with rcvdMsg | rcvdAnnounce | receive
    · exact nomatch rcvdMsg
    · exact nomatch rcvdAnnounce
    · exact nomatch receive
  external _ _ := rfl

theorem grown (port : PortRecorded (receivedAt index history) before) :
    PortRecorded (receivedAt index (step :: history)) before :=
  port.mono fun _ got => List.mem_cons_of_mem _ got

theorem portChange (port : PortRecorded (receivedAt index history) (domain.ports index))
    (calm : Calm (domain, history) (.port index step))
    (change : PortChange domain index step after) :
    PortRecorded (receivedAt index (.port index step :: history)) after := by
  cases change with
  | recvAnnounce ran =>
    refine (port.recvAnnounce (calm index _ rfl) ran).mono fun other got => ?_
    rcases got with rfl | got
    · exact List.mem_cons_self
    · exact List.mem_cons_of_mem _ got
  | announceReceive ran => exact grown (port.receive ran)
  | information _ ran =>
    obtain ⟨stable, recorded⟩ := recorded_run port.stable port.recorded ran
    exact grown ⟨stable, recorded⟩
  | side kept =>
    refine grown (port.congr (fun announce _ taken => taken.congr ?_ ?_) ?_ ?_ ?_ ?_ ?_)
    all_goals rw [kept.rest]
  | syncReceiptTimeoutTime time =>
    exact grown (port.congr (fun _ _ taken => taken.congr rfl rfl) rfl rfl rfl rfl rfl)
  | portOper value | asCapable value | asymmetryMeasurementMode value =>
    exact grown (port.congr (fun _ _ taken => taken.congr rfl rfl) rfl rfl rfl rfl rfl)

private theorem infoIs_portChange (change : PortChange domain index step port)
    (external : domain.external = true) : port.bppg.infoIs = (domain.ports index).bppg.infoIs := by
  cases change with
  | recvAnnounce ran => rw [(kept_recvAnnounce ran).port]
  | announceReceive ran => rw [(kept_portAnnounceReceiveSm ran).port]
  | information managed _ => simp [managed] at external
  | side kept => rw [kept.rest]
  | syncReceiptTimeoutTime time | portOper value | asCapable value
  | asymmetryMeasurementMode value => rfl

theorem step (valid : DomainRecorded state) (calm : Calm state event)
    (taken : (domainSystem cfg settings).recorded.step state event = some next) :
    DomainRecorded next := by
  obtain ⟨domain, history⟩ := state
  obtain ⟨done, recorded⟩ := System.recorded_step taken
  obtain ⟨after, history'⟩ := next
  subst recorded
  rcases perform_cases done with
    ⟨index, step, rfl, _, _, rest, change⟩ | ⟨_, cts64, result, ran⟩ | ⟨external, _, _, _, ran⟩ | kept
  · have sameExternal : after.external = domain.external := by
      rw [Domain.external, rest.trace.rest]
      rfl
    refine ⟨fun other => ?_, fun external other => ?_⟩
    · by_cases same : other = index
      · subst same
        exact portChange (valid.ports other) calm change
      · rw [show (after, Step.port index step :: history).1.ports other = domain.ports other from
          rest.ports other same]
        exact grown (valid.ports other)
    · have before : domain.external = true := sameExternal ▸ external
      by_cases same : other = index
      · subst same
        exact (infoIs_portChange change before).trans (valid.external before other)
      · rw [show (after, Step.port index step :: history).1.ports other = domain.ports other from
          rest.ports other same]
        exact valid.external before other
  · have frame := (selecting_portStateSelectionSm ran).frame
    have sameExternal : after.external = domain.external := by
      rw [Domain.external, frame.externalPortConfiguration]
      rfl
    refine ⟨fun index => ?_, fun external index => ?_⟩
    · have port := frame.ports index
      refine grown ((valid.ports index).congr (fun _ _ taken => taken.congr ?_ ?_) ?_ ?_ ?_ ?_ ?_)
      · exact congrArg PerPortGlobal.thisPort port.ppg
      · rw [port.bppg]
      · exact port.infoIs
      · exact port.rcvdMsg
      · exact port.parecd
      · exact congrArg PerPortGlobal.thisPort port.ppg
      · exact port.painfd ▸ rfl
    · exact (frame.ports index).infoIs.trans (valid.external (sameExternal ▸ external) index)
  · have frame := frame_performExternal ran
    have disabled : ∀ index, (after.ports index).bppg.infoIs = .disabled := by
      intro index
      rw [(frame.ports index).rest]
      exact valid.external external index
    refine ⟨fun index => ?_, fun _ => disabled⟩
    have port := (frame.ports index).rest
    refine grown ((valid.ports index).congr (fun _ info _ => ?_) ?_ ?_ ?_ ?_ ?_)
    · exact nomatch (disabled index).symm.trans info
    all_goals
      rw [port]
  · refine ⟨fun index => ?_, fun external index => ?_⟩
    · rw [show (after, event :: history).1.ports = domain.ports from kept.ports]
      exact grown (valid.ports index)
    · have sameExternal : after.external = domain.external := by
        rw [Domain.external, kept.bptasg]
        rfl
      rw [show (after, event :: history).1.ports = domain.ports from kept.ports]
      exact valid.external (sameExternal ▸ external) index

end DomainRecorded

def receivedSteps : List Step :=
  masterSteps 1 ++ [.port 1 (.recvAnnounce (PTPMsgAnnounce.sample 0)),
    .port 1 (.announceInformation 1)]

end EnetTsn.Bmcs
