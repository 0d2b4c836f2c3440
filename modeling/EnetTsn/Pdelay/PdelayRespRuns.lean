import EnetTsn.Library.Run
import EnetTsn.Pdelay.PdelayResp

namespace EnetTsn.Pdelay

open EnetTsn.Gptp EnetTsn.Library EnetTsn.Md

structure Transmission where
  answer : PdelayAnswer
  /-- The time that the network reports for it, or that of the clock when it was skipped. -/
  departs : UInt64
  skipped : Bool
  deriving DecidableEq, Repr

def Transmission.stamp (settings : PdelayRespSettings) (transmission : Transmission) : UInt64 :=
  if transmission.skipped then transmission.departs
  else transmission.departs + settings.egressLatency.toUInt64

structure AnswerRecord where
  transmissions : List Transmission
  /-- With the Pdelay_Resp that was sent last then. -/
  followUps : List (PdelayAnswer × Option Transmission)

inductive PdelayRespStep where
  | tick
  | recvReq (message : Memory) (ts64 : UInt64)
  /-- The timestamp of a Pdelay_Resp, which can come late and more than once. -/
  | txts (index : Nat)

structure PdelayRespEvent where
  port : PdelayRespPort
  cts64 : UInt64
  /-- When the Pdelay_Resp leaves that this call sends. -/
  departs : UInt64
  step : PdelayRespStep

namespace AnswerRecord

def init : AnswerRecord where
  transmissions := []
  followUps := []

def respond (event : PdelayRespEvent) (answer : PdelayAnswer) (record : AnswerRecord) :
    AnswerRecord :=
  match event.port.sendResp with
  | .failed => record
  | .skipped => { record with
      transmissions := ⟨answer, event.port.getts64, true⟩ :: record.transmissions }
  | .sent => { record with
      transmissions := ⟨answer, event.departs, false⟩ :: record.transmissions }

def followUp (port : PdelayRespPort) (answer : PdelayAnswer) (record : AnswerRecord) :
    AnswerRecord :=
  if port.sendRespFup = .failed then record
  else { record with followUps := (answer, record.transmissions.head?) :: record.followUps }

def observe (settings : PdelayRespSettings) (event : PdelayRespEvent) (stateChange : Bool)
    (data : PdelayResp) (record : AnswerRecord) : AnswerRecord :=
  if stateChange then
    match data.state with
    | .sentPdelayRespWaitingForTimestamp => record.respond event (data.setPdelayResp settings)
    | .waitingForPdelayReq => record.followUp event.port (data.setPdelayRespFollowUp settings)
    | _ => record
  else record

end AnswerRecord

namespace PdelayResp

def deliver (settings : PdelayRespSettings) (transmissions : List Transmission)
    (data : PdelayResp) : PdelayRespStep → PdelayResp × Bool
  | .tick => (data, true)
  | .recvReq message ts64 => data.storeReq settings message ts64
  | .txts index =>
    match transmissions[index]? with
    | none | some ⟨_, _, true⟩ => (data, false)
    | some ⟨answer, departs, false⟩ =>
      match data.storeTxts settings answer.sequenceId departs with
      | none => (data, false)
      | some next => (next, true)

end PdelayResp

open PdelayResp in
def answerSystem (settings : PdelayRespSettings) :
    System (PdelayResp × AnswerRecord) PdelayRespEvent where
  start := (init, .init)
  step pair event :=
    match pair.1.deliver settings pair.2.transmissions event.step with
    | (data, false) => some (data, pair.2)
    | (data, true) =>
      (((machine settings event.port event.cts64).observed
          (AnswerRecord.observe settings event)).run 5
        (moveTo (allstateCondition settings event.port data) data, pair.2)).map Prod.fst

def Belongs (settings : PdelayRespSettings) (followUp : PdelayAnswer × Option Transmission) :
    Prop :=
  ∃ transmission, followUp.2 = some transmission ∧
    followUp.1.sequenceId = transmission.answer.sequenceId ∧
    followUp.1.requestingPortIdentity = transmission.answer.requestingPortIdentity ∧
    followUp.1.secondsLsb = (transmission.stamp settings / UInt64.ofNat ubSecNs).toUInt32 ∧
    followUp.1.nanoseconds = (transmission.stamp settings % UInt64.ofNat ubSecNs).toUInt32

namespace PdelayResp

def Unfollowed (data : PdelayResp) : Prop :=
  data.state = .sentPdelayRespWaitingForTimestamp ∧ data.lastState = data.state ∨
    data.state = .waitingForPdelayReq ∧ data.lastState ≠ data.state

/-- No other request arrives until the follow-up is sent, and no timestamp of another
transmission. -/
def Ordered (settings : PdelayRespSettings) (transmissions : List Transmission)
    (data : PdelayResp) : PdelayRespStep → Prop
  | .tick => True
  | .recvReq message _ => data.Unfollowed →
      (decodePdelayRequest message).sequenceId = data.recPdelayReq.sequenceId ∧
        (decodePdelayRequest message).sourcePortIdentity = data.recPdelayReq.sourcePortIdentity
  | .txts index => data.Unfollowed →
      (data.deliver settings transmissions (.txts index)).2 = true → index = 0

def Unmocked (port : PdelayRespPort) (data : PdelayResp) : Prop :=
  data.state = .sentPdelayRespWaitingForTimestamp → data.lastState ≠ data.state →
    port.sendResp = .sent → data.mockTxts64 = 0

end PdelayResp

open PdelayResp in
def Orderly (settings : PdelayRespSettings) (pair : PdelayResp × AnswerRecord)
    (event : PdelayRespEvent) : Prop :=
  pair.1.Ordered settings pair.2.transmissions event.step ∧
    let data := (pair.1.deliver settings pair.2.transmissions event.step).1
    ∀ pass ∈ ((machine settings event.port event.cts64).observed
        (AnswerRecord.observe settings event)).trail 5
        (moveTo (allstateCondition settings event.port data) data, pair.2),
      Unmocked event.port pass.1

namespace PdelayResp

variable {settings : PdelayRespSettings} {data next : PdelayResp} {transmission : Transmission}
  {transmissions : List Transmission} {record : AnswerRecord}

structure Answered (data : PdelayResp) (transmission : Transmission) : Prop where
  sequenceId : data.recPdelayReq.sequenceId = transmission.answer.sequenceId
  requesting : data.recPdelayReq.sourcePortIdentity = transmission.answer.requestingPortIdentity

structure Awaited (settings : PdelayRespSettings) (data : PdelayResp)
    (transmission : Transmission) : Prop extends Answered data transmission where
  stamped : data.rcvdMDTimestampReceive = true → data.ts3 = transmission.stamp settings
  mocked : data.mockTxts64 ≠ 0 → data.mockTxts64 = transmission.stamp settings

structure Timed (settings : PdelayRespSettings) (data : PdelayResp)
    (transmission : Transmission) : Prop extends Answered data transmission where
  ts3 : data.ts3 = transmission.stamp settings

def Phase (settings : PdelayRespSettings) (data : PdelayResp)
    (transmissions : List Transmission) : Prop :=
  match data.state with
  | .sentPdelayRespWaitingForTimestamp => data.lastState = .sentPdelayRespWaitingForTimestamp →
      ∃ transmission, transmissions.head? = some transmission ∧ Awaited settings data transmission
  | .waitingForPdelayReq => data.lastState ≠ .waitingForPdelayReq →
      ∃ transmission, transmissions.head? = some transmission ∧ Timed settings data transmission
  | .init | .notEnabled | .initialWaitingForPdelayReq | .reaction => True

structure Followed (settings : PdelayRespSettings) (data : PdelayResp) (record : AnswerRecord) :
    Prop where
  phase : Phase settings data record.transmissions
  belongs : ∀ followUp ∈ record.followUps, Belongs settings followUp

theorem phase_sent (state : data.state = .sentPdelayRespWaitingForTimestamp) :
    Phase settings data transmissions ↔
      (data.lastState = .sentPdelayRespWaitingForTimestamp → ∃ transmission,
        transmissions.head? = some transmission ∧ Awaited settings data transmission) := by
  simp only [Phase, state]

theorem phase_waiting (state : data.state = .waitingForPdelayReq) :
    Phase settings data transmissions ↔ (data.lastState ≠ .waitingForPdelayReq → ∃ transmission,
        transmissions.head? = some transmission ∧ Timed settings data transmission) := by
  simp only [Phase, state]

theorem Timed.belongs (timed : Timed settings data transmission) :
    Belongs settings (data.setPdelayRespFollowUp settings, some transmission) :=
  ⟨transmission, rfl, timed.sequenceId, timed.requesting,
    congrArg (fun time => (time / UInt64.ofNat ubSecNs).toUInt32) timed.ts3,
    congrArg (fun time => (time % UInt64.ofNat ubSecNs).toUInt32) timed.ts3⟩

private theorem followed_followUp (belongs : ∀ followUp ∈ record.followUps, Belongs settings followUp)
    (head : record.transmissions.head? = some transmission)
    (timed : Timed settings data transmission) :
    ∀ followUp ∈ (record.followUp port (data.setPdelayRespFollowUp settings)).followUps,
      Belongs settings followUp := by
  unfold AnswerRecord.followUp
  split
  · exact belongs
  · exact List.forall_mem_cons.mpr ⟨head ▸ timed.belongs, belongs⟩

private theorem awaited_respond (taken : event.port.sendResp ≠ .failed)
    (unmocked : event.port.sendResp = .sent → data.mockTxts64 = 0) (cts64 : UInt64) :
    ∃ transmission, (record.respond event (data.setPdelayResp settings)).transmissions.head? =
        some transmission ∧
      Awaited settings (sentPdelayRespProc event.port cts64 data) transmission := by
  unfold AnswerRecord.respond sentPdelayRespProc
  cases send : event.port.sendResp with
  | failed => exact absurd send taken
  | skipped =>
    exact ⟨_, rfl, ⟨rfl, rfl⟩, fun received => absurd received Bool.false_ne_true, fun _ => rfl⟩
  | sent => exact ⟨_, rfl, ⟨rfl, rfl⟩, fun received => absurd received Bool.false_ne_true,
      fun mock => absurd (unmocked send) mock⟩

private theorem sentPdelayRespProc_state (port : PdelayRespPort) (cts64 : UInt64) (data : PdelayResp) :
    (sentPdelayRespProc port cts64 data).state = data.state := by
  unfold sentPdelayRespProc
  cases port.sendResp <;> rfl

private theorem followUps_respond (event : PdelayRespEvent) (answer : PdelayAnswer)
    (record : AnswerRecord) : (record.respond event answer).followUps = record.followUps := by
  unfold AnswerRecord.respond
  cases event.port.sendResp <;> rfl

private theorem transmissions_followUp (port : PdelayRespPort) (answer : PdelayAnswer)
    (record : AnswerRecord) :
    (record.followUp port answer).transmissions = record.transmissions := by
  unfold AnswerRecord.followUp
  split <;> rfl

theorem phase_quiet (sent : data.state = .sentPdelayRespWaitingForTimestamp →
      data.lastState ≠ .sentPdelayRespWaitingForTimestamp)
    (waiting : data.state = .waitingForPdelayReq → data.lastState = .waitingForPdelayReq) :
    Phase settings data transmissions := by
  unfold Phase
  split
  · rename_i state
    exact fun last => absurd last (sent state)
  · rename_i state
    exact fun other => absurd (waiting state) other
  all_goals trivial

section Passes

variable {event : PdelayRespEvent}

theorem Timed.of_same (timed : Timed settings data transmission)
    (request : next.recPdelayReq = data.recPdelayReq) (ts3 : next.ts3 = data.ts3) :
    Timed settings next transmission :=
  ⟨⟨request ▸ timed.sequenceId, request ▸ timed.requesting⟩, ts3.trans timed.ts3⟩

theorem pass_sent (state : data.state = .sentPdelayRespWaitingForTimestamp)
    (last : data.lastState = .sentPdelayRespWaitingForTimestamp)
    (followed : Followed settings data record) (port : PdelayRespPort) (cts64 : UInt64) :
    Followed settings (sentPdelayRespCondition port cts64 data) record := by
  obtain ⟨transmission, head, awaited⟩ := (phase_sent state).mp followed.phase last
  rcases sentPdelayRespCondition_cases port cts64 data with
    chosen | ⟨chosen, received⟩ | ⟨chosen, mock⟩ | chosen
  all_goals rw [chosen]
  · exact followed
  · exact ⟨(phase_waiting rfl).mpr fun _ => ⟨transmission, head,
      ⟨awaited.sequenceId, awaited.requesting⟩, awaited.stamped received⟩, followed.belongs⟩
  · exact ⟨(phase_waiting rfl).mpr fun _ => ⟨transmission, head,
      ⟨awaited.sequenceId, awaited.requesting⟩, awaited.mocked mock⟩, followed.belongs⟩
  · exact ⟨phase_quiet nofun (fun impossible => nomatch state.symm.trans impossible),
      followed.belongs⟩

theorem arm_followed (followed : Followed settings data record)
    (unmocked : Unmocked event.port data) (stateChange : Bool)
    (fresh : stateChange = true ↔ data.lastState ≠ data.state) : Followed settings
      (arm settings event.port event.cts64 stateChange { data with lastState := data.state }).1
      (AnswerRecord.observe settings event stateChange { data with lastState := data.state }
        record) := by
  obtain ⟨entered, same⟩ : ∃ entered : PdelayResp, entered = { data with lastState := data.state } :=
    ⟨_, rfl⟩
  rw [← same]
  have entering : entered.state = data.state ∧ entered.lastState = data.state := by
    rw [same]
    exact ⟨rfl, rfl⟩
  obtain ⟨into, last⟩ := entering
  have unchanged (stays : stateChange = false) : entered = data := by
    have kept : data.lastState = data.state :=
      not_not.mp (mt fresh.mpr (Bool.eq_false_iff.mp stays))
    rw [same]
    exact congrArg (fun state => ({ data with lastState := state } : PdelayResp)) kept.symm
  have belongs := followed.belongs
  cases state : data.state
  all_goals
    rw [state] at into last fresh
    simp only [arm, AnswerRecord.observe, into, ite_self]
  case init => exact ⟨trivial, belongs⟩
  case reaction => exact ⟨phase_quiet (fun impossible => nomatch into.symm.trans impossible)
      (fun impossible => nomatch into.symm.trans impossible), belongs⟩
  case notEnabled =>
    refine ⟨phase_quiet ?_ ?_, belongs⟩
    all_goals
      unfold notEnabledCondition
      split <;> nofun
  case initialWaitingForPdelayReq =>
    generalize entering : (if stateChange then _ else entered) = waiting
    have kept : waiting.lastState = .initialWaitingForPdelayReq := by
      rw [← entering]
      split <;> exact last
    refine ⟨phase_quiet (fun _ => ?_) ?_, belongs⟩
    · exact fun sent => nomatch kept.symm.trans sent
    · unfold initialWaitingForPdelayReqCondition
      split <;> nofun
  case waitingForPdelayReq =>
    have quiet (transmissions : List Transmission) : Phase settings
        (moveTo (waitingForPdelayReqCondition entered) entered) transmissions :=
      phase_quiet (fun _ sent => nomatch last.symm.trans sent) (fun _ => last)
    cases stateChange with
    | false => exact ⟨quiet _, belongs⟩
    | true =>
      obtain ⟨transmission, head, timed⟩ := (phase_waiting state).mp followed.phase (fresh.mp rfl)
      have timed : Timed settings entered transmission := by
        rw [same]
        exact timed.of_same rfl rfl
      refine ⟨?_, followed_followUp belongs head timed⟩
      by_cases failed : event.port.sendRespFup = .failed
      · simp only [failed, beq_self_eq_true, Bool.and_self, if_true]
        refine (phase_waiting rfl).mpr fun _ => ⟨transmission, ?_, timed.of_same rfl rfl⟩
        rw [transmissions_followUp]
        exact head
      · simp only [failed, Bool.true_and, beq_iff_eq, if_false]
        exact quiet _
  case sentPdelayRespWaitingForTimestamp =>
    cases stateChange with
    | false =>
      rw [unchanged rfl] at last ⊢
      exact pass_sent state last followed event.port event.cts64
    | true =>
      refine ⟨?_, by simpa only [if_true, followUps_respond] using belongs⟩
      have unmocked (sent : event.port.sendResp = .sent) : entered.mockTxts64 = 0 := by
        rw [same]
        exact unmocked state (state ▸ fresh.mp rfl) sent
      by_cases failed : event.port.sendResp = .failed
      · refine phase_quiet ?_ ?_
        all_goals simp [sentPdelayRespProc, failed, into]
      · exact (phase_sent (by simp [sentPdelayRespProc_state, into])).mpr fun _ =>
          awaited_respond failed unmocked event.cts64

end Passes

section Events

variable {message : Memory} {ts64 : UInt64} {step : PdelayRespStep}

def place (data : PdelayResp) : PdelayRespState × PdelayRespState × UInt64 × Bool × UInt64 :=
  (data.state, data.lastState, data.ts3, data.rcvdMDTimestampReceive, data.mockTxts64)

private theorem place_storeReq (settings : PdelayRespSettings) (data : PdelayResp) (message : Memory)
    (ts64 : UInt64) : (data.storeReq settings message ts64).1.place = data.place ∧
      (data.storeReq settings message ts64).1.recPdelayReq = decodePdelayRequest message := by
  unfold storeReq
  dsimp only
  split
  · exact ⟨rfl, rfl⟩
  · split <;> exact ⟨rfl, rfl⟩

theorem Phase.request (phase : Phase settings data transmissions) (same : next.place = data.place)
    (request : data.Unfollowed → next.recPdelayReq.sequenceId = data.recPdelayReq.sequenceId ∧
      next.recPdelayReq.sourcePortIdentity = data.recPdelayReq.sourcePortIdentity) :
    Phase settings next transmissions := by
  simp only [place, Prod.mk.injEq] at same
  obtain ⟨into, last, ts3, stamp, mock⟩ := same
  unfold Phase at phase ⊢
  rw [into, last]
  split
  · rename_i state
    intro sent
    simp only [state] at phase
    obtain ⟨transmission, head, awaited⟩ := phase sent
    obtain ⟨sequenceId, source⟩ := request (.inl ⟨state, sent.trans state.symm⟩)
    exact ⟨transmission, head, ⟨sequenceId.trans awaited.sequenceId, source.trans awaited.requesting⟩,
      by rw [stamp, ts3]; exact awaited.stamped, by rw [mock]; exact awaited.mocked⟩
  · rename_i state
    intro other
    simp only [state] at phase
    obtain ⟨transmission, head, timed⟩ := phase other
    obtain ⟨sequenceId, source⟩ := request (.inr ⟨state, state ▸ other⟩)
    exact ⟨transmission, head, ⟨sequenceId.trans timed.sequenceId, source.trans timed.requesting⟩,
      ts3.trans timed.ts3⟩
  all_goals trivial

theorem phase_storeTxts {answer : PdelayAnswer} (phase : Phase settings data transmissions)
    (found : data.storeTxts settings answer.sequenceId departs = some next)
    (latest : data.Unfollowed → transmissions.head? = some ⟨answer, departs, false⟩) :
    Phase settings next transmissions := by
  unfold storeTxts at found
  split at found
  · cases found
  · rename_i expected
    obtain ⟨sending, sequenceId⟩ := not_or.mp expected
    have state := not_not.mp sending
    obtain rfl := Option.some.inj found
    refine (phase_sent (by exact state)).mpr fun last => ?_
    have head := latest (.inl ⟨state, last.trans state.symm⟩)
    obtain ⟨transmission, head', awaited⟩ := (phase_sent state).mp phase last
    obtain rfl := Option.some.inj (head.symm.trans head')
    exact ⟨_, head, ⟨awaited.sequenceId, awaited.requesting⟩, fun _ => rfl, awaited.mocked⟩

variable (followed : Followed settings data record)
include followed

theorem followed_deliver (ordered : Ordered settings record.transmissions data step) :
    Followed settings (data.deliver settings record.transmissions step).1 record := by
  refine ⟨?_, followed.belongs⟩
  have phase := followed.phase
  cases step with
  | tick => exact phase
  | recvReq message ts64 =>
    obtain ⟨place, request⟩ := place_storeReq settings data message ts64
    exact phase.request place fun unfollowed => by
      simp only [deliver, request]
      exact ordered unfollowed
  | txts index =>
    simp only [Ordered, deliver] at ordered ⊢
    split at ordered
    · exact phase
    · exact phase
    · rename_i answer departs found
      split at ordered
      · exact phase
      · rename_i next stored
        refine phase_storeTxts phase stored fun unfollowed => ?_
        obtain rfl := ordered unfollowed rfl
        rw [List.head?_eq_getElem?]
        exact found

private theorem followed_allstate (port : PdelayRespPort) :
    Followed settings (moveTo (allstateCondition settings port data) data) record := by
  refine ⟨?_, followed.belongs⟩
  unfold allstateCondition
  split
  · exact phase_quiet nofun nofun
  · exact followed.phase

end Events

end PdelayResp

section Runs

variable {settings : PdelayRespSettings} {pair next : PdelayResp × AnswerRecord}
  {event : PdelayRespEvent}

open PdelayResp in
theorem answerSystem_followed (followed : Followed settings pair.1 pair.2)
    (orderly : Orderly settings pair event)
    (taken : (answerSystem settings).step pair event = some next) :
    Followed settings next.1 next.2 := by
  have delivered := followed_deliver followed orderly.1
  have passes := orderly.2
  simp only [answerSystem] at taken
  split at taken
  · rename_i data found
    rw [found] at delivered
    rw [← Option.some.inj taken]
    exact delivered
  · rename_i data found
    rw [found] at delivered passes
    obtain ⟨⟨final, result⟩, finished, rfl⟩ := Option.map_eq_some_iff.mp taken
    refine Machine.run_preserves_trail _
      (fun pair : PdelayResp × AnswerRecord => Followed settings pair.1 pair.2)
      (fun pass => Unmocked event.port pass.1) ?_ passes
      (followed_allstate delivered event.port) finished
    exact fun pass unmocked valid => arm_followed valid unmocked _ bne_iff_ne

/-- In every run of orderly steps, a Pdelay_Resp_Follow_Up belongs to the Pdelay_Resp that was
sent last. -/
theorem followUps_belong (reachable : (answerSystem settings).Reachable (Orderly settings) pair) :
    ∀ followUp ∈ pair.2.followUps, Belongs settings followUp := by
  have followed : pair.1.Followed settings pair.2 := by
    refine reachable.invariant (fun pair => pair.1.Followed settings pair.2) ?_ ?_
    · exact ⟨trivial, fun _ member => absurd member List.not_mem_nil⟩
    · exact fun pair event next kept orderly taken => answerSystem_followed kept orderly taken
  exact followed.belongs

end Runs

section Decidable

variable {settings : PdelayRespSettings} {port : PdelayRespPort} {data : PdelayResp}
  {transmissions : List Transmission}

open PdelayResp

instance : Decidable data.Unfollowed := inferInstanceAs (Decidable (_ ∧ _ ∨ _ ∧ _))

instance : (step : PdelayRespStep) → Decidable (data.Ordered settings transmissions step)
  | .tick => isTrue trivial
  | .recvReq _ _ => inferInstanceAs (Decidable (_ → _ ∧ _))
  | .txts _ => inferInstanceAs (Decidable (_ → _ → _))

instance : Decidable (Unmocked port data) := inferInstanceAs (Decidable (_ → _ → _ → _))

instance {pair : PdelayResp × AnswerRecord} {event : PdelayRespEvent} :
    Decidable (Orderly settings pair event) :=
  inferInstanceAs (Decidable (_ ∧ ∀ pass ∈ _, _))

end Decidable

def answeringSettings : PdelayRespSettings where
  cmldsMode := false
  portEnabled1 := true
  egressLatency := 20
  ingressLatency := 30

def answeringPort : PdelayRespPort where
  BEGIN := false
  portOper := true
  txtsLostTime := 5000000
  getts64 := 700
  sendResp := .sent
  sendRespFup := .sent

def requestMessage (octet sequenceId portIndex : UInt8) : Memory := fun index =>
  if index = 0 then octet
  else if 20 ≤ index ∧ index < 28 then 2
  else if index = 29 then portIndex
  else if index = 31 then sequenceId
  else 0

theorem followUps_belong_one : ∃ pair : PdelayResp × AnswerRecord, pair.2.followUps.length = 1 ∧
      ∀ followUp ∈ pair.2.followUps, Belongs answeringSettings followUp := by
  let system := (answerSystem answeringSettings).restrict
    fun pair event => decide (Orderly answeringSettings pair event)
  have ran : (system.run system.start [ .mk answeringPort 1000 0 .tick,
        .mk answeringPort 1000 1100 (.recvReq (requestMessage 0x10 5 1) 1050),
        .mk answeringPort 1000 0 (.txts 0) ]).map (fun pair => pair.2.followUps.length) =
      some 1 := by decide +kernel
  obtain ⟨pair, finished, once⟩ := Option.map_eq_some_iff.mp ran
  exact ⟨pair, once, followUps_belong (System.Reachable.of_restrict
    (fun _ _ => of_decide_eq_true) (System.reachable_of_run finished))⟩

/-- A request that is rejected is answered by the follow-up all the same. -/
theorem rejected_followed : ¬ ∀ settings pair,
    (answerSystem settings).Reachable System.anyStep pair →
      ∀ followUp ∈ pair.2.followUps, Belongs settings followUp := by
  intro all
  let system := answerSystem answeringSettings
  have ran : (system.run system.start [ .mk answeringPort 1000 0 .tick,
        .mk answeringPort 1000 1100 (.recvReq (requestMessage 0x10 5 1) 1050),
        .mk answeringPort 1000 0 (.recvReq (requestMessage 0x00 5 2) 1070),
        .mk answeringPort 1000 0 (.txts 0) ]).map (fun pair => pair.2.followUps.map fun followUp =>
          (followUp.1.requestingPortIdentity.portIndex,
            followUp.2.map fun sent => sent.answer.requestingPortIdentity.portIndex)) =
      some [(2, some 1)] := by decide +kernel
  obtain ⟨pair, finished, sent⟩ := Option.map_eq_some_iff.mp ran
  obtain ⟨followUp, member, ports⟩ : ∃ followUp ∈ pair.2.followUps,
      (followUp.1.requestingPortIdentity.portIndex,
        followUp.2.map fun sent => sent.answer.requestingPortIdentity.portIndex) = (2, some 1) :=
    List.mem_map.mp (sent ▸ List.mem_singleton_self _)
  obtain ⟨transmission, last, -, requesting, -⟩ :=
    all _ pair (System.reachable_of_run finished) followUp member
  obtain ⟨there, answered⟩ := Prod.mk.inj ports
  rw [last] at answered
  have here : transmission.answer.requestingPortIdentity.portIndex = 1 := Option.some.inj answered
  rw [requesting, here] at there
  exact absurd there (by decide)

end EnetTsn.Pdelay
