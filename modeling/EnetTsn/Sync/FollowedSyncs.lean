import EnetTsn.Library.Run
import EnetTsn.Sync.SyncSend

namespace EnetTsn.Sync

open EnetTsn.Gptp EnetTsn.Library

structure SyncTransmission where
  message : SyncMessage
  /-- The time that the network reports for it, or that of the clock when it was skipped. -/
  departs : UInt64
  skipped : Bool

def SyncTransmission.stamp (egressLatency : Int64) (transmission : SyncTransmission) : UInt64 :=
  if transmission.skipped then transmission.departs
  else transmission.departs + egressLatency.toUInt64

structure SyncRecord where
  transmissions : List SyncTransmission
  /-- With the transmissions before each. -/
  followUps : List (SyncMessage × List SyncTransmission)

inductive SyncSendStep where
  | tick
  | mdSyncSend (value : MDSyncSend)
  | txts (seqid : UInt16) (ts64 : UInt64)

structure SyncSendEvent where
  port : SyncSendPort
  cts64 : UInt64
  /-- When the Sync leaves that this call sends. -/
  departs : UInt64
  step : SyncSendStep

def SyncSendEvent.twoStep (egressLatency : Int64) (event : SyncSendEvent) : SyncSendPort :=
  { event.port with oneStepTxOper := false, egressLatency := egressLatency }

namespace SyncRecord

def init : SyncRecord where
  transmissions := []
  followUps := []

def sync (port : SyncSendPort) (departs : UInt64) (message : SyncMessage) (record : SyncRecord) :
    SyncRecord :=
  match port.sendSync with
  | .failed => record
  | .skipped => { record with
      transmissions := ⟨message, port.getts64, true⟩ :: record.transmissions }
  | .sent => { record with
      transmissions := ⟨message, departs, false⟩ :: record.transmissions }

def followUp (port : SyncSendPort) (message : SyncMessage) (record : SyncRecord) : SyncRecord :=
  if port.sendFollowUp = .failed then record
  else { record with followUps := (message, record.transmissions) :: record.followUps }

def observe (port : SyncSendPort) (departs : UInt64) (stateChange : Bool) (data : SyncSend)
    (record : SyncRecord) : SyncRecord :=
  if stateChange then
    match data.state with
    | .sendSyncTwoStep => record.sync port departs (data.compose .sync port)
    | .sendFollowUp => record.followUp port (data.compose .followUp port)
    | _ => record
  else record

end SyncRecord

namespace SyncSend

def deliver (port : SyncSendPort) (data : SyncSend) : SyncSendStep → SyncSend
  | .tick => data
  | .mdSyncSend value => { data with rcvdMDSync := true, rcvdMDSyncPtr := value }
  | .txts _ ts64 =>
    { data with rcvdMDTimestampReceive := true, syncTs := ts64 + port.egressLatency.toUInt64 }

end SyncSend

open SyncSend in
def syncSendSystem (egressLatency : Int64) : System (SyncSend × SyncRecord) SyncSendEvent where
  start := (init, .init)
  step pair event :=
    let port := event.twoStep egressLatency
    (((machine port event.cts64).observed (SyncRecord.observe port event.departs)).run 8
      (allstateCondition port (pair.1.deliver port event.step), pair.2)).map Prod.fst

/-- A Follow_Up is that of a Sync that was sent before, with the structure and the transmit
timestamp of that Sync. -/
def FollowsUp (egressLatency : Int64) (followUp : SyncMessage × List SyncTransmission) : Prop :=
  ∃ transmission ∈ followUp.2, followUp.1 = { transmission.message with
    kind := .followUp
    port := followUp.1.port
    syncTs := transmission.stamp egressLatency }

structure Correlated (egressLatency : Int64) (record : SyncRecord) : Prop where
  followUps : ∀ followUp ∈ record.followUps, FollowsUp egressLatency followUp
  /-- No two structures are sent under one sequenceId. -/
  values : ∀ one ∈ record.transmissions, ∀ other ∈ record.transmissions,
    one.message.sequenceId = other.message.sequenceId → one.message.value = other.message.value

namespace SyncSend

/-- A Sync is under way: its timestamp is awaited, it is to be sent again, or its Follow_Up is
still unsent. -/
def UnderWay (data : SyncSend) : Prop :=
  data.state = .sendSyncTwoStep ∧
      (data.lastState = .sendSyncTwoStep ∨ data.lastState = .reaction) ∨
    data.state = .sendFollowUp ∧ data.lastState ≠ .sendFollowUp

def Restarts (port : SyncSendPort) : Prop :=
  (port.BEGIN || !port.instanceEnable || !port.up) = true

/-- No other structure arrives while a Sync that was sent is under way, and a timestamp is one
of its transmissions. -/
def Ordered (port : SyncSendPort) (transmissions : List SyncTransmission) (data : SyncSend) :
    SyncSendStep → Prop
  | .tick => True
  | .mdSyncSend value => data.UnderWay →
      (∃ transmission ∈ transmissions, transmission.message.sequenceId = data.syncSequenceId) →
        value = data.rcvdMDSyncPtr
  | .txts seqid ts64 => Restarts port ∨ data.UnderWay ∧ seqid = data.syncSequenceId ∧
      ∃ transmission ∈ transmissions, transmission.skipped = false ∧
        transmission.message.sequenceId = seqid ∧ transmission.departs = ts64

/-- A new Sync is sent under a sequenceId that no Sync had, and with no mock timestamp left. -/
def Fresh (port : SyncSendPort) (transmissions : List SyncTransmission) (data : SyncSend) : Prop :=
  data.state = .sendSyncTwoStep → ¬data.UnderWay →
    (∀ transmission ∈ transmissions, transmission.message.sequenceId ≠ data.syncSequenceId) ∧
      (port.sendSync ≠ .skipped → data.mockTxts64 = 0)

end SyncSend

open SyncSend in
def Orderly (egressLatency : Int64) (pair : SyncSend × SyncRecord) (event : SyncSendEvent) :
    Prop :=
  let port := event.twoStep egressLatency
  pair.1.Ordered port pair.2.transmissions event.step ∧
    ∀ pass ∈ ((machine port event.cts64).observed (SyncRecord.observe port event.departs)).trail 8
        (allstateCondition port (pair.1.deliver port event.step), pair.2),
      pass.1.Fresh port pass.2.transmissions

namespace SyncSend

variable {egressLatency : Int64} {data next : SyncSend} {record : SyncRecord}

structure Current (egressLatency : Int64) (data : SyncSend)
    (transmissions : List SyncTransmission) : Prop where
  value : ∀ transmission ∈ transmissions,
    transmission.message.sequenceId = data.syncSequenceId →
      transmission.message.value = data.rcvdMDSyncPtr
  stamped : data.rcvdMDTimestampReceive = true → ∃ transmission ∈ transmissions,
    transmission.message.sequenceId = data.syncSequenceId ∧
      transmission.stamp egressLatency = data.syncTs
  mocked : data.mockTxts64 ≠ 0 → ∃ transmission ∈ transmissions,
    transmission.message.sequenceId = data.syncSequenceId ∧
      transmission.stamp egressLatency = data.mockTxts64

structure Timed (egressLatency : Int64) (data : SyncSend)
    (transmissions : List SyncTransmission) : Prop where
  value : ∀ transmission ∈ transmissions,
    transmission.message.sequenceId = data.syncSequenceId →
      transmission.message.value = data.rcvdMDSyncPtr
  stamped : ∃ transmission ∈ transmissions,
    transmission.message.sequenceId = data.syncSequenceId ∧
      transmission.stamp egressLatency = data.syncTs

def Phase (egressLatency : Int64) (data : SyncSend) (transmissions : List SyncTransmission) :
    Prop :=
  match data.state with
  | .init => True
  | .initializing => data.lastState = .initializing → data.rcvdMDTimestampReceive = false
  | .sendSyncTwoStep =>
    (data.UnderWay → Current egressLatency data transmissions) ∧
      (¬data.UnderWay → data.rcvdMDTimestampReceive = false)
  | .sendFollowUp =>
    (data.UnderWay → Timed egressLatency data transmissions) ∧
      (¬data.UnderWay → data.rcvdMDTimestampReceive = false)
  | .sendSyncOneStep | .setCorrectionField | .reaction => False

structure Followed (egressLatency : Int64) (data : SyncSend) (record : SyncRecord) : Prop where
  phase : Phase egressLatency data record.transmissions
  correlated : Correlated egressLatency record

section Phases

variable {transmissions : List SyncTransmission}

theorem phase_initializing (state : data.state = .initializing) :
    Phase egressLatency data transmissions ↔
      (data.lastState = .initializing → data.rcvdMDTimestampReceive = false) := by
  simp only [Phase, state]

theorem phase_sync (state : data.state = .sendSyncTwoStep) :
    Phase egressLatency data transmissions ↔
      (data.UnderWay → Current egressLatency data transmissions) ∧
        (¬data.UnderWay → data.rcvdMDTimestampReceive = false) := by
  simp only [Phase, state]

theorem phase_followUp (state : data.state = .sendFollowUp) :
    Phase egressLatency data transmissions ↔
      (data.UnderWay → Timed egressLatency data transmissions) ∧
        (¬data.UnderWay → data.rcvdMDTimestampReceive = false) := by
  simp only [Phase, state]

theorem underWay_sync (state : data.state = .sendSyncTwoStep) :
    data.UnderWay ↔ data.lastState = .sendSyncTwoStep ∨ data.lastState = .reaction := by
  simp [UnderWay, state]

theorem underWay_followUp (state : data.state = .sendFollowUp) :
    data.UnderWay ↔ data.lastState ≠ .sendFollowUp := by
  simp [UnderWay, state]

theorem phase_quiet (state : data.state = .initializing ∨
      (data.state = .sendSyncTwoStep ∨ data.state = .sendFollowUp) ∧ ¬data.UnderWay)
    (unstamped : data.rcvdMDTimestampReceive = false) : Phase egressLatency data transmissions := by
  rcases state with initializing | ⟨sync | followUp, quiet⟩
  · exact (phase_initializing initializing).mpr fun _ => unstamped
  · exact (phase_sync sync).mpr ⟨fun way => absurd way quiet, fun _ => unstamped⟩
  · exact (phase_followUp followUp).mpr ⟨fun way => absurd way quiet, fun _ => unstamped⟩

variable (event : SyncSendEvent)

private theorem requestedCondition_twoStep (state : SyncSendState) (data : SyncSend) :
    requestedCondition (event.twoStep egressLatency) state data = state ∨
      requestedCondition (event.twoStep egressLatency) state data = .sendSyncTwoStep := by
  unfold requestedCondition
  split
  · exact .inr rfl
  · rw [if_neg (by simp [requested, SyncSendEvent.twoStep])]
    exact .inl rfl

theorem phase_requested {state : SyncSendState}
    (waits : state = .initializing ∨ state = .sendFollowUp) (last : data.lastState = state)
    (unstamped : data.rcvdMDTimestampReceive = false) : Phase egressLatency
      (moveTo (requestedCondition (event.twoStep egressLatency) state data) data)
      transmissions := by
  refine phase_quiet ?_ unstamped
  rcases requestedCondition_twoStep event state data with chosen | chosen
  all_goals rw [chosen]
  · rcases waits with rfl | rfl
    · exact .inl rfl
    · exact .inr ⟨.inr rfl, by rw [underWay_followUp rfl]; exact not_not.mpr last⟩
  · refine .inr ⟨.inl rfl, ?_⟩
    rw [underWay_sync rfl]
    rcases waits with rfl | rfl
    all_goals simp [moveTo, last]

end Phases

section Passes

variable {port : SyncSendPort} {cts64 departs : UInt64}

def known (data : SyncSend) : UInt16 × MDSyncSend × Bool × UInt64 × UInt64 :=
  (data.syncSequenceId, data.rcvdMDSyncPtr, data.rcvdMDTimestampReceive, data.syncTs,
    data.mockTxts64)

theorem Current.of_known (current : Current egressLatency data transmissions)
    (same : next.known = data.known) : Current egressLatency next transmissions := by
  simp only [known, Prod.mk.injEq] at same
  obtain ⟨sequenceId, value, stamp, syncTs, mock⟩ := same
  exact ⟨by rw [sequenceId, value]; exact current.value,
    by rw [sequenceId, stamp, syncTs]; exact current.stamped,
    by rw [sequenceId, mock]; exact current.mocked⟩

theorem current_of_fresh (unstamped : data.rcvdMDTimestampReceive = false)
    (unused : ∀ transmission ∈ transmissions,
      transmission.message.sequenceId ≠ data.syncSequenceId) (unmocked : data.mockTxts64 = 0) :
    Current egressLatency data transmissions where
  value transmission member same := absurd same (unused transmission member)
  stamped received := nomatch unstamped.symm.trans received
  mocked mock := absurd unmocked mock

theorem followed_transmit (value : ∀ transmission ∈ record.transmissions,
      transmission.message.sequenceId = message.sequenceId →
        transmission.message.value = message.value) (correlated : Correlated egressLatency record) :
    Correlated egressLatency
      { record with transmissions := ⟨message, departs, skipped⟩ :: record.transmissions } where
  followUps := correlated.followUps
  values := by
    intro one first other second same
    rcases List.mem_cons.mp first with rfl | earlier
    · rcases List.mem_cons.mp second with rfl | before
      · rfl
      · exact (value other before same.symm).symm
    · rcases List.mem_cons.mp second with rfl | before
      · exact value one earlier same
      · exact correlated.values one earlier other before same

theorem Current.transmit (current : Current egressLatency data transmissions)
    (port : SyncSendPort) (departs : UInt64) (skipped : Bool) :
    Current egressLatency data (⟨data.compose .sync port, departs, skipped⟩ :: transmissions) where
  value := List.forall_mem_cons.mpr ⟨fun _ => rfl, current.value⟩
  stamped received := by
    obtain ⟨transmission, member, known⟩ := current.stamped received
    exact ⟨transmission, List.mem_cons_of_mem _ member, known⟩
  mocked mock := by
    obtain ⟨transmission, member, known⟩ := current.mocked mock
    exact ⟨transmission, List.mem_cons_of_mem _ member, known⟩

private theorem current_skip (port : SyncSendPort)
    (current : Current egressLatency { data with mockTxts64 := 0 } transmissions) :
    Current egressLatency { data with mockTxts64 := port.getts64 }
      (⟨data.compose .sync port, port.getts64, true⟩ :: transmissions) where
  value := List.forall_mem_cons.mpr ⟨fun _ => rfl, current.value⟩
  stamped received := by
    obtain ⟨transmission, member, known⟩ := current.stamped received
    exact ⟨transmission, List.mem_cons_of_mem _ member, known⟩
  mocked _ := ⟨_, List.mem_cons_self, rfl, rfl⟩

theorem pass_sync_entry (state : data.state = .sendSyncTwoStep)
    (last : data.lastState = .sendSyncTwoStep) (correlated : Correlated egressLatency record)
    (unmocked : port.sendSync = .skipped →
      Current egressLatency { data with mockTxts64 := 0 } record.transmissions)
    (current : port.sendSync ≠ .skipped → Current egressLatency data record.transmissions) :
    Followed egressLatency (sendSyncTwoStepProc port cts64 data).1
      (record.sync port departs (data.compose .sync port)) := by
  have underWay {next : SyncSend} {transmissions : List SyncTransmission}
      (into : next.state = .sendSyncTwoStep)
      (seen : next.lastState = .sendSyncTwoStep ∨ next.lastState = .reaction)
      (known : Current egressLatency next transmissions) :
      Phase egressLatency next transmissions :=
    (phase_sync into).mpr ⟨fun _ => known, fun idle => absurd ((underWay_sync into).mpr seen) idle⟩
  unfold sendSyncTwoStepProc SyncRecord.sync
  cases send : port.sendSync with
  | failed =>
    have known := current (by rw [send]; nofun)
    exact ⟨underWay (by exact state) (.inr rfl) (known.of_known rfl), correlated⟩
  | skipped =>
    have known := unmocked send
    exact ⟨underWay (by exact state) (.inl (by exact last))
      ((current_skip port known).of_known rfl), followed_transmit known.value correlated⟩
  | sent =>
    have known := current (by rw [send]; nofun)
    exact ⟨underWay (by exact state) (.inl (by exact last))
      ((known.transmit port departs false).of_known rfl), followed_transmit known.value correlated⟩

theorem pass_sync (state : data.state = .sendSyncTwoStep)
    (last : data.lastState = .sendSyncTwoStep) (followed : Followed egressLatency data record) :
    Followed egressLatency (sendSyncTwoStepCondition port cts64 data) record := by
  have way : data.UnderWay := (underWay_sync state).mpr (.inl last)
  have current := ((phase_sync state).mp followed.phase).1 way
  have followUp {next : SyncSend} (into : next.state = .sendFollowUp)
      (seen : next.lastState = .sendSyncTwoStep)
      (timed : Timed egressLatency next record.transmissions) :
      Followed egressLatency next record := by
    have way : next.UnderWay := (underWay_followUp into).mpr (by rw [seen]; nofun)
    exact ⟨(phase_followUp into).mpr ⟨fun _ => timed, fun idle => absurd way idle⟩,
      followed.correlated⟩
  rcases sendSyncTwoStepCondition_cases port cts64 data with
    ⟨chosen, received⟩ | ⟨chosen, -, mock⟩ | ⟨chosen, -⟩ | ⟨chosen, -⟩
  all_goals rw [chosen]
  · exact followUp rfl last ⟨current.value, current.stamped received⟩
  · exact followUp rfl last ⟨current.value, current.mocked mock⟩
  · refine ⟨(phase_sync rfl).mpr ⟨fun _ => current.of_known rfl, fun idle => ?_⟩,
      followed.correlated⟩
    exact absurd ((underWay_sync rfl).mpr (.inr rfl)) idle
  · exact followed

private theorem Timed.followsUp (timed : Timed egressLatency data transmissions) (port : SyncSendPort) :
    FollowsUp egressLatency (data.compose .followUp port, transmissions) := by
  obtain ⟨transmission, member, sequenceId, stamp⟩ := timed.stamped
  refine ⟨transmission, member, ?_⟩
  simp only [compose, sequenceId, stamp, timed.value transmission member sequenceId]

theorem pass_followUp_entry (state : data.state = .sendFollowUp)
    (last : data.lastState = .sendFollowUp) (correlated : Correlated egressLatency record)
    (timed : Timed egressLatency data record.transmissions) :
    Followed egressLatency (sendFollowUpProc port data).1
      (record.followUp port (data.compose .followUp port)) := by
  have quiet {next : SyncSend} (into : next.state = .sendFollowUp)
      (seen : next.lastState = .sendFollowUp) (unstamped : next.rcvdMDTimestampReceive = false) :
      Phase egressLatency next record.transmissions :=
    phase_quiet (.inr ⟨.inr into, fun way => (underWay_followUp into).mp way seen⟩) unstamped
  have more : Correlated egressLatency { record with
      followUps := (data.compose .followUp port, record.transmissions) :: record.followUps } :=
    ⟨List.forall_mem_cons.mpr ⟨timed.followsUp port, correlated.followUps⟩, correlated.values⟩
  unfold sendFollowUpProc SyncRecord.followUp
  cases send : port.sendFollowUp with
  | failed =>
    refine ⟨(phase_followUp (by exact state)).mpr ⟨fun _ => ⟨timed.value, timed.stamped⟩,
      fun _ => rfl⟩, correlated⟩
  | skipped => exact ⟨quiet (by exact state) (by exact last) rfl, more⟩
  | sent => exact ⟨quiet (by exact state) (by exact last) rfl, more⟩

theorem arm_followed {event : SyncSendEvent} (followed : Followed egressLatency data record)
    (fresh : data.Fresh (event.twoStep egressLatency) record.transmissions) (stateChange : Bool)
    (changed : stateChange = true ↔ data.lastState ≠ data.state) : Followed egressLatency
      (arm (event.twoStep egressLatency) cts64 stateChange { data with lastState := data.state }).1
      (SyncRecord.observe (event.twoStep egressLatency) departs stateChange
        { data with lastState := data.state } record) := by
  obtain ⟨entered, same⟩ : ∃ entered : SyncSend, entered = { data with lastState := data.state } :=
    ⟨_, rfl⟩
  rw [← same]
  have entering : entered.state = data.state ∧ entered.lastState = data.state ∧
      entered.known = data.known := by
    rw [same]
    exact ⟨rfl, rfl, rfl⟩
  obtain ⟨into, last, known⟩ := entering
  have unchanged (stays : stateChange = false) : entered = data := by
    have kept : data.lastState = data.state :=
      not_not.mp (mt changed.mpr (Bool.eq_false_iff.mp stays))
    rw [same]
    exact congrArg (fun state => ({ data with lastState := state } : SyncSend)) kept.symm
  obtain ⟨phase, correlated⟩ := followed
  cases state : data.state
  all_goals
    rw [state] at into last changed
    simp only [arm, SyncRecord.observe, into, ite_self]
  case sendSyncOneStep => simp only [Phase, state] at phase
  case setCorrectionField => simp only [Phase, state] at phase
  case reaction => simp only [Phase, state] at phase
  case init =>
    refine ⟨(phase_initializing rfl).mpr fun other => ?_, correlated⟩
    cases last.symm.trans other
  case initializing =>
    cases stateChange with
    | true => exact ⟨phase_requested event (.inl rfl) last rfl, correlated⟩
    | false =>
      rw [unchanged rfl] at last ⊢
      have unstamped := (phase_initializing state).mp phase last
      exact ⟨phase_requested event (.inl rfl) last unstamped, correlated⟩
  case sendSyncTwoStep =>
    cases stateChange with
    | false =>
      rw [unchanged rfl] at last ⊢
      exact pass_sync state last ⟨phase, correlated⟩
    | true =>
      obtain ⟨current, unstamped⟩ := (phase_sync state).mp phase
      by_cases way : data.UnderWay
      · have current := current way
        refine pass_sync_entry into last correlated (fun _ => ?_) fun _ => current.of_known known
        rw [same]
        exact ⟨current.value, current.stamped, fun mock => absurd rfl mock⟩
      · have unstamped := unstamped way
        obtain ⟨unused, unmocked⟩ := fresh state way
        refine pass_sync_entry into last correlated (fun _ => ?_) fun taken => ?_
        · rw [same]
          exact current_of_fresh unstamped unused rfl
        · exact (current_of_fresh unstamped unused (unmocked taken)).of_known known
  case sendFollowUp =>
    obtain ⟨timed, unstamped⟩ := (phase_followUp state).mp phase
    cases stateChange with
    | true =>
      have timed := timed ((underWay_followUp state).mpr (changed.mp rfl))
      refine pass_followUp_entry into last correlated ?_
      rw [same]
      exact ⟨timed.value, timed.stamped⟩
    | false =>
      rw [unchanged rfl] at last ⊢
      have idle : ¬data.UnderWay := fun way => (underWay_followUp state).mp way last
      exact ⟨phase_requested event (.inr rfl) last (unstamped idle), correlated⟩

end Passes

section Events

variable {event : SyncSendEvent}

private theorem allstate_of_restarts (restarts : Restarts port) (data : SyncSend) :
    allstateCondition port data = again .initializing data :=
  if_pos restarts

private theorem allstate_of_not_restarts (goes : ¬Restarts port) (data : SyncSend) :
    allstateCondition port data = data :=
  if_neg goes

theorem phase_mdSyncSend (phase : Phase egressLatency data transmissions)
    (ordered : data.UnderWay → (∃ transmission ∈ transmissions,
      transmission.message.sequenceId = data.syncSequenceId) → value = data.rcvdMDSyncPtr) :
    Phase egressLatency { data with rcvdMDSync := true, rcvdMDSyncPtr := value } transmissions := by
  have kept (way : data.UnderWay) (values : ∀ transmission ∈ transmissions,
      transmission.message.sequenceId = data.syncSequenceId →
        transmission.message.value = data.rcvdMDSyncPtr) :
      ∀ transmission ∈ transmissions, transmission.message.sequenceId = data.syncSequenceId →
        transmission.message.value = value := by
    intro transmission member current
    rw [ordered way ⟨transmission, member, current⟩]
    exact values transmission member current
  unfold Phase at phase ⊢
  dsimp only
  split
  · trivial
  all_goals
    rename_i state
    simp only [state] at phase
  · exact phase
  · exact ⟨fun way => ⟨kept way (phase.1 way).value, (phase.1 way).stamped, (phase.1 way).mocked⟩,
      phase.2⟩
  · exact ⟨fun way => ⟨kept way (phase.1 way).value, (phase.1 way).stamped⟩, phase.2⟩

theorem phase_txts (phase : Phase egressLatency data transmissions) (way : data.UnderWay)
    (own : ∃ transmission ∈ transmissions, transmission.skipped = false ∧
      transmission.message.sequenceId = data.syncSequenceId ∧ transmission.departs = ts64) :
    Phase egressLatency { data with
      rcvdMDTimestampReceive := true, syncTs := ts64 + egressLatency.toUInt64 } transmissions := by
  have stamped : ∃ transmission ∈ transmissions,
      transmission.message.sequenceId = data.syncSequenceId ∧
        transmission.stamp egressLatency = ts64 + egressLatency.toUInt64 := by
    obtain ⟨transmission, member, sent, sequenceId, departs⟩ := own
    exact ⟨transmission, member, sequenceId, by rw [SyncTransmission.stamp, sent, departs]; rfl⟩
  rcases way with ⟨state, seen⟩ | ⟨state, seen⟩
  · have way := (underWay_sync state).mpr seen
    have current := ((phase_sync state).mp phase).1 way
    exact (phase_sync (by exact state)).mpr
      ⟨fun _ => ⟨current.value, fun _ => stamped, current.mocked⟩, fun idle => absurd way idle⟩
  · have way := (underWay_followUp state).mpr seen
    have timed := ((phase_followUp state).mp phase).1 way
    exact (phase_followUp (by exact state)).mpr
      ⟨fun _ => ⟨timed.value, stamped⟩, fun idle => absurd way idle⟩

theorem followed_deliver (followed : Followed egressLatency data record)
    (ordered : data.Ordered (event.twoStep egressLatency) record.transmissions event.step) :
    Followed egressLatency (allstateCondition (event.twoStep egressLatency)
        (data.deliver (event.twoStep egressLatency) event.step)) record := by
  obtain ⟨phase, correlated⟩ := followed
  refine ⟨?_, correlated⟩
  by_cases restarts : Restarts (event.twoStep egressLatency)
  · rw [allstate_of_restarts restarts]
    exact (phase_initializing rfl).mpr nofun
  · rw [allstate_of_not_restarts restarts]
    cases step : event.step with
    | tick => exact phase
    | mdSyncSend value =>
      rw [step] at ordered
      exact phase_mdSyncSend phase ordered
    | txts seqid ts64 =>
      rw [step] at ordered
      obtain ⟨way, rfl, own⟩ := ordered.resolve_left restarts
      exact phase_txts phase way own

end Events

end SyncSend

section Runs

variable {egressLatency : Int64} {pair next : SyncSend × SyncRecord} {event : SyncSendEvent}

open SyncSend in
theorem syncSendSystem_followed (followed : Followed egressLatency pair.1 pair.2)
    (orderly : Orderly egressLatency pair event)
    (taken : (syncSendSystem egressLatency).step pair event = some next) :
    Followed egressLatency next.1 next.2 := by
  obtain ⟨⟨final, result⟩, finished, rfl⟩ := Option.map_eq_some_iff.mp taken
  refine Machine.run_preserves_trail _
    (fun pair : SyncSend × SyncRecord => Followed egressLatency pair.1 pair.2)
    (fun pass => pass.1.Fresh (event.twoStep egressLatency) pass.2.transmissions) ?_ orderly.2
    (followed_deliver followed orderly.1) finished
  exact fun pass fresh valid => arm_followed valid fresh _ bne_iff_ne

/-- In every run of orderly steps, the Follow_Ups belong to the Syncs, and a sequenceId to one
structure. -/
theorem followUps_correlated
    (reachable : (syncSendSystem egressLatency).Reachable (Orderly egressLatency) pair) :
    Correlated egressLatency pair.2 := by
  have followed : pair.1.Followed egressLatency pair.2 := by
    refine reachable.invariant (fun pair => pair.1.Followed egressLatency pair.2) ?_ ?_
    · exact ⟨trivial, fun _ member => absurd member List.not_mem_nil,
        fun _ member => absurd member List.not_mem_nil⟩
    · exact fun pair event next kept orderly taken => syncSendSystem_followed kept orderly taken
  exact followed.correlated

end Runs

section Decidable

variable {port : SyncSendPort} {transmissions : List SyncTransmission} {data : SyncSend}

open SyncSend

instance : Decidable data.UnderWay := inferInstanceAs (Decidable (_ ∧ (_ ∨ _) ∨ _ ∧ _))

instance : Decidable (Restarts port) := inferInstanceAs (Decidable (_ = _))

instance : (step : SyncSendStep) → Decidable (data.Ordered port transmissions step)
  | .tick => isTrue trivial
  | .mdSyncSend _ => inferInstanceAs (Decidable (_ → (∃ transmission ∈ transmissions, _) → _))
  | .txts _ _ =>
    inferInstanceAs (Decidable (_ ∨ _ ∧ _ ∧ ∃ transmission ∈ transmissions, _ ∧ _ ∧ _))

instance : Decidable (data.Fresh port transmissions) :=
  inferInstanceAs (Decidable (_ → _ → (∀ transmission ∈ transmissions, _) ∧ (_ → _)))

instance {egressLatency : Int64} {pair : SyncSend × SyncRecord} {event : SyncSendEvent} :
    Decidable (Orderly egressLatency pair event) :=
  inferInstanceAs (Decidable (_ ∧ ∀ pass ∈ _, _))

end Decidable

def sendingPort : SyncSendPort where
  BEGIN := false
  instanceEnable := true
  portOper := true
  ptpPortEnabled := true
  asCapable := true
  asymmetryMeasurementMode := false
  oneStepTxOper := false
  settings := { minorVersionPTP := 1, ptpTimescale := true, mode2011 := false }
  currentLogSyncInterval := -3
  egressLatency := 20
  weAreGm := false
  txtsLostTime := 5000000
  random := 7
  getts64 := 900
  sendbuf := Memory.zero
  sendSync := .sent
  sendFollowUp := .sent
  sendOneStep := .sent

def structureOf (upstreamTxTime : UInt64) : MDSyncSend :=
  { SyncSend.init.rcvdMDSyncPtr with upstreamTxTime := upstreamTxTime }

theorem followUps_correlated_one : ∃ pair : SyncSend × SyncRecord,
    pair.2.followUps.length = 1 ∧ Correlated 20 pair.2 := by
  let system := (syncSendSystem 20).restrict fun pair event => decide (Orderly 20 pair event)
  have ran : (system.run system.start
      [ .mk sendingPort 1000 0 .tick, .mk sendingPort 1000 1100 (.mdSyncSend (structureOf 500)),
        .mk sendingPort 1000 0 (.txts 7 1100) ]).map (fun pair => pair.2.followUps.length) =
      some 1 := by decide +kernel
  obtain ⟨pair, finished, once⟩ := Option.map_eq_some_iff.mp ran
  exact ⟨pair, once, followUps_correlated (System.Reachable.of_restrict
    (fun _ _ => of_decide_eq_true) (System.reachable_of_run finished))⟩

/-- A structure that arrives before the timestamp of a Sync is taken for that of the Sync. -/
theorem overtaken_not_correlated : ¬ ∀ egressLatency pair,
    (syncSendSystem egressLatency).Reachable System.anyStep pair →
      Correlated egressLatency pair.2 := by
  intro all
  let system := syncSendSystem 20
  have ran : (system.run system.start
      [ .mk sendingPort 1000 0 .tick, .mk sendingPort 1000 1100 (.mdSyncSend (structureOf 500)),
        .mk sendingPort 1000 0 (.mdSyncSend (structureOf 600)),
        .mk sendingPort 1000 1300 (.txts 7 1100) ]).map (fun pair =>
          pair.2.followUps.map fun followUp => (followUp.1.value.upstreamTxTime,
            followUp.2.map fun sent => sent.message.value.upstreamTxTime)) =
      some [(600, [500])] := by decide +kernel
  obtain ⟨pair, finished, sent⟩ := Option.map_eq_some_iff.mp ran
  obtain ⟨followUp, member, times⟩ : ∃ followUp ∈ pair.2.followUps,
      (followUp.1.value.upstreamTxTime,
        followUp.2.map fun sent => sent.message.value.upstreamTxTime) = (600, [500]) :=
    List.mem_map.mp (sent ▸ List.mem_singleton_self _)
  obtain ⟨later, earlier⟩ := Prod.mk.inj times
  obtain ⟨transmission, before, same⟩ :=
    (all _ pair (System.reachable_of_run finished)).followUps followUp member
  have first : transmission.message.value.upstreamTxTime ∈ [(500 : UInt64)] :=
    earlier ▸ List.mem_map_of_mem before
  rw [same, List.mem_singleton.mp first] at later
  exact absurd later (by decide)

end EnetTsn.Sync
