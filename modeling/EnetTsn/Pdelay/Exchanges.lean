import EnetTsn.Pdelay.PdelayRuns

namespace EnetTsn.Pdelay

open EnetTsn.Gptp EnetTsn.Library

/-- An event with the transmission that a timestamp is of: a request is sent again under its
sequenceId while its timestamp is missing. -/
structure ExchangeEvent extends PdelayEvent where
  transmission : Nat

structure Heard where
  /-- The sequenceId of the request sent last. -/
  request : Option UInt16
  /-- The transmissions so far, skipped ones too. -/
  sends : Nat
  /-- The transmit timestamps by the numbers of the transmissions. -/
  stamps : List (Nat × UInt64)
  /-- The Pdelay_Resp received last, with its time of arrival. -/
  response : Option (PdelayResponse × UInt64)
  followUp : Option PdelayResponse

/-- With the data on which `waiting_for_pdelay_interval_timer_proc` ran. -/
structure ExchangeRecord where
  heard : Heard
  computed : List (PdelayReq × Heard)

namespace ExchangeRecord

def init : ExchangeRecord where
  heard := { request := none, sends := 0, stamps := [], response := none, followUp := none }
  computed := []

def ask (port : PdelayPort) (sequenceId : UInt16) (record : ExchangeRecord) : ExchangeRecord :=
  match port.send with
  | .failed => record
  | .skipped => { record with heard := { record.heard with
      request := some sequenceId
      sends := record.heard.sends + 1
      stamps := (record.heard.sends + 1, port.getts64) :: record.heard.stamps } }
  | .sent => { record with heard := { record.heard with
      request := some sequenceId
      sends := record.heard.sends + 1 } }

def hear (settings : PdelaySettings) (transmission : Nat) (record : ExchangeRecord) :
    PdelayStep → ExchangeRecord
  | .txts _ ts64 => { record with heard := { record.heard with
      stamps := (transmission, ts64 + settings.egressLatency.toUInt64) :: record.heard.stamps } }
  | .recvResp message ts64 => { record with heard := { record.heard with
      response := some (decodePdelayResponse message, ts64) } }
  | .recvRespFup message => { record with heard := { record.heard with
      followUp := some (decodePdelayResponse message) } }
  | .tick | .linkDown => record

def observe (port : PdelayPort) (stateChange : Bool) (data : PdelayReq)
    (record : ExchangeRecord) : ExchangeRecord :=
  if stateChange then
    match data.state with
    | .initialSendPdelayReq => record.ask port port.random
    | .sendPdelayReq => record.ask port (data.pdelayReqSequenceId + 1)
    | .waitingForPdelayIntervalTimer =>
      { record with computed := (data, record.heard) :: record.computed }
    | _ => record
  else record

end ExchangeRecord

open PdelayReq in
def exchangeSystem (settings : PdelaySettings) :
    System (PdelayReq × ExchangeRecord) ExchangeEvent where
  start := (init, .init)
  step pair event :=
    match pair.1.deliver settings event.step with
    | none => some (pair.1.undelivered event.step,
        pair.2.hear settings event.transmission event.step)
    | some data =>
      (((machine settings event.port event.cts64).observed
          fun stateChange => ExchangeRecord.observe event.port stateChange).run 8
        (moveTo (allstateCondition event.port data) data,
          pair.2.hear settings event.transmission event.step)).map Prod.fst

/-- The stored messages are of one exchange, whose request is the one sent last, and the four
timestamps are theirs: `t1` is that of the last transmission. -/
structure Exchanged (settings : PdelaySettings) (data : PdelayReq) (heard : Heard) : Prop where
  request : heard.request = some data.txPdelayReq
  responseId : data.recPdelayResp.sequenceId = data.txPdelayReq
  followUpId : data.recPdelayRespFup.sequenceId = data.txPdelayReq
  source : data.recPdelayRespFup.sourcePortIdentity = data.recPdelayResp.sourcePortIdentity
  requesting : data.recPdelayResp.requestingPortIdentity =
    { clockIdentity := settings.thisClock, portIndex := settings.thisPort }
  t1 : (heard.sends, data.t1ts64) ∈ heard.stamps
  response : ∃ ts64, heard.response = some (data.recPdelayResp, ts64) ∧
    data.t4ts64 = ts64 - settings.ingressLatency.toUInt64
  t2 : data.t2ts64 = data.recPdelayResp.timestamp
  followUp : heard.followUp = some data.recPdelayRespFup
  t3 : data.t3ts64 = data.recPdelayRespFup.timestamp

namespace PdelayReq

variable (settings : PdelaySettings) (port : PdelayPort) (cts64 : UInt64)

def acceptsResp (data : PdelayReq) : Prop :=
  data.expired port cts64 = false ∧ data.rcvdPdelayResp = true ∧
    respState settings data = .waitingForPdelayRespFollowUp

def acceptsRespFup (data : PdelayReq) : Prop :=
  data.expired port cts64 = false ∧
    ¬(data.rcvdPdelayResp = true ∧ data.recPdelayResp.sequenceId = data.txPdelayReq) ∧
    data.rcvdPdelayRespFollowUp = true ∧
    respFupState settings data = .waitingForPdelayIntervalTimer

/-- The data on which the condition of `WAITING_FOR_PDELAY_RESP_FOLLOW_UP` is asked. -/
def awaitingRespFup (data : PdelayReq) : PdelayReq :=
  if data.lastState ≠ data.state then waitingForPdelayRespFollowUpProc data else data

structure Faithful (data : PdelayReq) : Prop where
  /-- No request is sent while the mock timestamp of a skipped one is left. -/
  unmocked : data.state = .initialSendPdelayReq ∨ data.state = .sendPdelayReq →
    data.lastState ≠ data.state → port.send = .sent → data.mockTxts64 = 0
  /-- A Pdelay_Resp that is accepted answers the request. -/
  answered : data.state = .waitingForPdelayResp → acceptsResp settings port cts64 data →
    data.recPdelayResp.sequenceId = data.txPdelayReq
  /-- No other Pdelay_Resp came before a Pdelay_Resp_Follow_Up that is accepted, and both are of
  one port. -/
  followed : data.state = .waitingForPdelayRespFollowUp →
    acceptsRespFup settings port cts64 data.awaitingRespFup →
      data.awaitingRespFup.rcvdPdelayResp = false ∧
        data.recPdelayRespFup.sourcePortIdentity = data.recPdelayResp.sourcePortIdentity

/-- A timestamp that is taken is that of the last transmission, and none is taken between a
transmission that failed and its repetition. -/
def Timely (sends transmission : Nat) (data : PdelayReq) : PdelayStep → Prop
  | .txts seqid _ => seqid = data.pdelayReqSequenceId →
      (data.state = .sendPdelayReq → data.lastState = .sendPdelayReq ∧ transmission = sends) ∧
        (data.state = .initialSendPdelayReq → data.lastState = .initialSendPdelayReq →
          transmission = sends)
  | _ => True

end PdelayReq

def Steady (settings : PdelaySettings) (pair : PdelayReq × ExchangeRecord)
    (event : ExchangeEvent) : Prop :=
  pair.1.Timely pair.2.heard.sends event.transmission event.step ∧ ∀ data, pair.1.deliver settings event.step = some data →
    ∀ pass ∈ ((PdelayReq.machine settings event.port event.cts64).observed
        fun stateChange => ExchangeRecord.observe event.port stateChange).trail 8
        (PdelayReq.moveTo (PdelayReq.allstateCondition event.port data) data,
          pair.2.hear settings event.transmission event.step),
      PdelayReq.Faithful settings event.port event.cts64 pass.1

namespace PdelayReq

structure Sent (data : PdelayReq) (heard : Heard) : Prop where
  request : heard.request = some data.txPdelayReq
  stamped : data.rcvdMDTimestampReceive = true → (heard.sends, data.t1ts64) ∈ heard.stamps
  mocked : data.mockTxts64 ≠ 0 → (heard.sends, data.mockTxts64) ∈ heard.stamps

structure Timed (data : PdelayReq) (heard : Heard) : Prop where
  request : heard.request = some data.txPdelayReq
  stamped : (heard.sends, data.t1ts64) ∈ heard.stamps
  unstamped : data.lastState = data.state → data.rcvdMDTimestampReceive = false

structure HasResp (settings : PdelaySettings) (data : PdelayReq) (heard : Heard) : Prop where
  response : ∃ ts64, heard.response = some (data.recPdelayResp, ts64) ∧
    data.t4ts64 = ts64 - settings.ingressLatency.toUInt64
  t2 : data.t2ts64 = data.recPdelayResp.timestamp

structure HasRespFup (data : PdelayReq) (heard : Heard) : Prop where
  followUp : heard.followUp = some data.recPdelayRespFup
  t3 : data.t3ts64 = data.recPdelayRespFup.timestamp

structure Answers (settings : PdelaySettings) (data : PdelayReq) : Prop where
  responseId : data.recPdelayResp.sequenceId = data.txPdelayReq
  requesting : data.recPdelayResp.requestingPortIdentity =
    { clockIdentity := settings.thisClock, portIndex := settings.thisPort }

def Phase (settings : PdelaySettings) (data : PdelayReq) (heard : Heard) : Prop :=
  match data.state with
  | .init | .notEnabled | .reaction => True
  | .initialSendPdelayReq => data.lastState = .initialSendPdelayReq → Sent data heard
  | .reset => data.rcvdMDTimestampReceive = false
  | .sendPdelayReq =>
    (data.lastState = .sendPdelayReq → Sent data heard) ∧
      (data.lastState ≠ .sendPdelayReq → data.rcvdMDTimestampReceive = false)
  | .waitingForPdelayResp => Timed data heard
  | .waitingForPdelayRespFollowUp =>
    Timed data heard ∧ data.rcvdMDTimestampReceive = false ∧
      (data.rcvdPdelayResp = false ∨ data.lastState ≠ data.state →
        Answers settings data ∧ HasResp settings data heard)
  | .waitingForPdelayIntervalTimer =>
    data.rcvdMDTimestampReceive = false ∧
      (data.lastState ≠ data.state → Exchanged settings data heard)

section Phases

variable {settings : PdelaySettings} {data : PdelayReq} {heard : Heard}

theorem phase_initialSend (state : data.state = .initialSendPdelayReq) :
    Phase settings data heard ↔ (data.lastState = .initialSendPdelayReq → Sent data heard) := by
  simp only [Phase, state]

theorem phase_send (state : data.state = .sendPdelayReq) :
    Phase settings data heard ↔ (data.lastState = .sendPdelayReq → Sent data heard) ∧
      (data.lastState ≠ .sendPdelayReq → data.rcvdMDTimestampReceive = false) := by
  simp only [Phase, state]

end Phases

structure Traced (settings : PdelaySettings) (data : PdelayReq) (record : ExchangeRecord) :
    Prop where
  phase : Phase settings data record.heard
  response : data.rcvdPdelayResp = true → HasResp settings data record.heard
  followUp : data.rcvdPdelayRespFollowUp = true → HasRespFup data record.heard
  computed : ∀ exchange ∈ record.computed, Exchanged settings exchange.1 exchange.2

section Passes

variable {settings : PdelaySettings} {port : PdelayPort} {cts64 : UInt64}
  {data next : PdelayReq} {record : ExchangeRecord}

def stored (data : PdelayReq) : PdelayResponse × UInt64 × UInt64 × PdelayResponse × UInt64 :=
  (data.recPdelayResp, data.t2ts64, data.t4ts64, data.recPdelayRespFup, data.t3ts64)

theorem HasResp.of_stored (has : HasResp settings data heard) (same : next.stored = data.stored) :
    HasResp settings next heard := by
  simp only [stored, Prod.mk.injEq] at same
  obtain ⟨response, t2, t4, -⟩ := same
  exact ⟨by rw [response, t4]; exact has.response, by rw [response, t2]; exact has.t2⟩

theorem HasRespFup.of_stored (has : HasRespFup data heard) (same : next.stored = data.stored) :
    HasRespFup next heard := by
  simp only [stored, Prod.mk.injEq] at same
  obtain ⟨-, -, -, followUp, t3⟩ := same
  exact ⟨by rw [followUp]; exact has.followUp, by rw [followUp, t3]; exact has.t3⟩

theorem Traced.pass (traced : Traced settings data record) (same : next.stored = data.stored)
    (phase : Phase settings next record.heard)
    (response : next.rcvdPdelayResp = true → data.rcvdPdelayResp = true)
    (followUp : next.rcvdPdelayRespFollowUp = true → data.rcvdPdelayRespFollowUp = true) :
    Traced settings next record where
  phase := phase
  response received := (traced.response (response received)).of_stored same
  followUp received := (traced.followUp (followUp received)).of_stored same
  computed := traced.computed

theorem pass_notEnabled (traced : Traced settings data record)
    (last : data.lastState = .notEnabled) (stateChange : Bool) :
    let entered := if stateChange then notEnabledProc settings data else data
    Traced settings (moveTo (notEnabledCondition settings port entered) entered) record := by
  intro entered
  have frame : entered.stored = data.stored ∧ entered.rcvdPdelayResp = data.rcvdPdelayResp ∧
      entered.rcvdPdelayRespFollowUp = data.rcvdPdelayRespFollowUp ∧
      entered.lastState = .notEnabled := by
    simp only [entered, notEnabledProc]
    split
    · split <;> exact ⟨rfl, rfl, rfl, last⟩
    · exact ⟨rfl, rfl, rfl, last⟩
  obtain ⟨same, response, followUp, kept⟩ := frame
  refine traced.pass same ?_ (fun received => response ▸ received)
    (fun received => followUp ▸ received)
  rcases notEnabledCondition_cases settings port entered with chosen | chosen | ⟨chosen, -⟩
  all_goals simp only [Phase, moveTo, chosen]
  intro impossible
  exact nomatch kept.symm.trans impossible

theorem Sent.timed (sent : Sent data heard) (received : data.rcvdMDTimestampReceive = true)
    (last : data.lastState ≠ .waitingForPdelayResp) :
    Timed (moveTo .waitingForPdelayResp data) heard where
  request := sent.request
  stamped := sent.stamped received
  unstamped := fun same => absurd same last

theorem Sent.timed_mock (sent : Sent data heard) (mock : data.mockTxts64 ≠ 0)
    (last : data.lastState ≠ .waitingForPdelayResp) :
    Timed (moveTo .waitingForPdelayResp { data with t1ts64 := data.mockTxts64, mockTxts64 := 0 })
      heard where
  request := sent.request
  stamped := sent.mocked mock
  unstamped := fun same => absurd same last

theorem pass_initialSend (traced : Traced settings data record)
    (state : data.state = .initialSendPdelayReq) (last : data.lastState = .initialSendPdelayReq) :
    Traced settings (initialSendPdelayReqCondition port cts64 data) record := by
  have sent : Sent data record.heard := by
    have phase := traced.phase
    simp only [Phase, state] at phase
    exact phase last
  have other : data.lastState ≠ .waitingForPdelayResp := by rw [last]; nofun
  rcases initialSendPdelayReqCondition_cases port cts64 data with
    chosen | ⟨chosen, received⟩ | chosen | ⟨chosen, mock⟩
  all_goals rw [chosen]
  · exact traced
  · exact traced.pass rfl (sent.timed received other) id id
  · exact traced.pass rfl (by simp only [Phase, again]; nofun) id id
  · exact traced.pass rfl (sent.timed_mock mock other) id id

theorem pass_send (traced : Traced settings data record) (state : data.state = .sendPdelayReq)
    (last : data.lastState = .sendPdelayReq) :
    Traced settings (sendPdelayReqCondition port cts64 data) record := by
  have sent : Sent data record.heard := by
    have phase := traced.phase
    simp only [Phase, state] at phase
    exact phase.1 last
  have other : data.lastState ≠ .waitingForPdelayResp := by rw [last]; nofun
  by_cases received : data.rcvdMDTimestampReceive = true
  · rw [sendPdelayReqCondition, if_pos received]
    exact traced.pass rfl (sent.timed received other) id id
  · rcases sendPdelayReqCondition_cases port cts64 data with
      chosen | ⟨-, impossible⟩ | chosen | ⟨chosen, mock⟩
    · rw [chosen]
      exact traced
    · exact absurd impossible received
    · rw [chosen]
      refine traced.pass rfl ⟨nofun, fun _ => Bool.eq_false_iff.mpr received⟩ id id
    · rw [chosen]
      exact traced.pass rfl (sent.timed_mock mock other) id id

theorem sent_ask (taken : port.send ≠ .failed) (tx : data.txPdelayReq = sequenceId)
    (unstamped : data.rcvdMDTimestampReceive = false)
    (unmocked : port.send = .sent → data.mockTxts64 = 0)
    (mocked : port.send = .skipped → data.mockTxts64 = port.getts64) :
    Sent data (record.ask port sequenceId).heard := by
  unfold ExchangeRecord.ask
  cases send : port.send with
  | failed => exact absurd send taken
  | skipped =>
    refine ⟨congrArg some tx.symm, fun received => ?_, fun _ => ?_⟩
    · exact nomatch unstamped.symm.trans received
    · rw [mocked send]
      exact List.mem_cons_self
  | sent =>
    refine ⟨congrArg some tx.symm, fun received => ?_, fun mock => ?_⟩
    · exact nomatch unstamped.symm.trans received
    · exact absurd (unmocked send) mock

private theorem computed_ask (port : PdelayPort) (sequenceId : UInt16) (record : ExchangeRecord) :
    (record.ask port sequenceId).computed = record.computed := by
  unfold ExchangeRecord.ask
  cases port.send <;> rfl

theorem traced_ask (sequenceId : UInt16)
    (computed : ∀ exchange ∈ record.computed, Exchanged settings exchange.1 exchange.2)
    (phase : Phase settings next (record.ask port sequenceId).heard)
    (response : next.rcvdPdelayResp = false) (followUp : next.rcvdPdelayRespFollowUp = false) :
    Traced settings next (record.ask port sequenceId) where
  phase := phase
  response received := nomatch response.symm.trans received
  followUp received := nomatch followUp.symm.trans received
  computed := (computed_ask port sequenceId record).symm ▸ computed

theorem pass_initialSend_entry
    (computed : ∀ exchange ∈ record.computed, Exchanged settings exchange.1 exchange.2)
    (state : data.state = .initialSendPdelayReq)
    (unmocked : port.send = .sent → data.mockTxts64 = 0) :
    Traced settings (initialSendPdelayReqProc port cts64 data) (record.ask port port.random) := by
  refine traced_ask port.random computed ?_ ?_ ?_
  · cases send : port.send with
    | failed => simp only [Phase, initialSendPdelayReqProc, transmit, send, state]; nofun
    | skipped =>
      have sent : Sent (initialSendPdelayReqProc port cts64 data)
          (record.ask port port.random).heard := by
        apply sent_ask <;> simp [initialSendPdelayReqProc, transmit, send]
      simp only [Phase, initialSendPdelayReqProc, transmit, send, state] at sent ⊢
      exact fun _ => sent
    | sent =>
      have sent : Sent (initialSendPdelayReqProc port cts64 data)
          (record.ask port port.random).heard := by
        apply sent_ask <;> simp [initialSendPdelayReqProc, transmit, send, unmocked send]
      simp only [Phase, initialSendPdelayReqProc, transmit, send, state] at sent ⊢
      exact fun _ => sent
  · cases send : port.send <;> simp [initialSendPdelayReqProc, transmit, send]
  · cases send : port.send <;> simp [initialSendPdelayReqProc, transmit, send]

theorem pass_send_entry
    (computed : ∀ exchange ∈ record.computed, Exchanged settings exchange.1 exchange.2)
    (state : data.state = .sendPdelayReq) (unstamped : data.rcvdMDTimestampReceive = false)
    (unmocked : port.send = .sent → data.mockTxts64 = 0) :
    Traced settings (sendPdelayReqProc port cts64 data)
      (record.ask port (data.pdelayReqSequenceId + 1)) := by
  refine traced_ask (data.pdelayReqSequenceId + 1) computed ?_ ?_ ?_
  · cases send : port.send with
    | failed =>
      simp only [Phase, sendPdelayReqProc, transmit, send, state]
      exact ⟨nofun, fun _ => unstamped⟩
    | skipped =>
      have sent : Sent (sendPdelayReqProc port cts64 data)
          (record.ask port (data.pdelayReqSequenceId + 1)).heard := by
        apply sent_ask <;> simp [sendPdelayReqProc, transmit, send, unstamped]
      simp only [Phase, sendPdelayReqProc, transmit, send, state] at sent ⊢
      exact ⟨fun _ => sent, fun _ => unstamped⟩
    | sent =>
      have sent : Sent (sendPdelayReqProc port cts64 data)
          (record.ask port (data.pdelayReqSequenceId + 1)).heard := by
        apply sent_ask <;> simp [sendPdelayReqProc, transmit, send, unstamped, unmocked send]
      simp only [Phase, sendPdelayReqProc, transmit, send, state] at sent ⊢
      exact ⟨fun _ => sent, fun _ => unstamped⟩
  · cases send : port.send <;> simp [sendPdelayReqProc, transmit, send]
  · cases send : port.send <;> simp [sendPdelayReqProc, transmit, send]

theorem pass_reset (traced : Traced settings data record) (state : data.state = .reset)
    (last : data.lastState = .reset) (stateChange : Bool) :
    Traced settings (resetCondition settings port cts64
      (if stateChange then resetProc settings data else data)) record := by
  have unstamped : data.rcvdMDTimestampReceive = false := by
    have phase := traced.phase
    simp only [Phase, state] at phase
    exact phase
  have multi (data : PdelayReq) : (resetMultiResponses settings data).stored = data.stored ∧
      (resetMultiResponses settings data).rcvdPdelayResp = data.rcvdPdelayResp ∧
      (resetMultiResponses settings data).rcvdPdelayRespFollowUp = data.rcvdPdelayRespFollowUp ∧
      (resetMultiResponses settings data).lastState = data.lastState ∧
      (resetMultiResponses settings data).rcvdMDTimestampReceive = data.rcvdMDTimestampReceive := by
    unfold resetMultiResponses
    split <;> exact ⟨rfl, rfl, rfl, rfl, rfl⟩
  generalize resetting : (if stateChange then resetProc settings data else data) = entered
  have frame : entered.stored = data.stored ∧
      (entered.rcvdPdelayResp = true → data.rcvdPdelayResp = true) ∧
      (entered.rcvdPdelayRespFollowUp = true → data.rcvdPdelayRespFollowUp = true) ∧
      entered.lastState = .reset ∧ entered.rcvdMDTimestampReceive = false := by
    subst resetting
    split
    · unfold resetProc
      dsimp only
      split
      · obtain ⟨same, response, followUp, kept, stamp⟩ := multi
          { data with rcvdPdelayResp := false, lostResponses := data.lostResponses + 1 }
        exact ⟨same, fun received => (nomatch response.symm.trans received),
          fun received => followUp.symm.trans received, kept.trans last, stamp.trans unstamped⟩
      · split
        · exact ⟨rfl, nofun, id, last, unstamped⟩
        · obtain ⟨same, response, followUp, kept, stamp⟩ := multi
            (giveUp { data with rcvdPdelayResp := false })
          exact ⟨same, fun received => (nomatch response.symm.trans received),
            fun received => followUp.symm.trans received, kept.trans last, stamp.trans unstamped⟩
    · exact ⟨rfl, id, id, last, unstamped⟩
  obtain ⟨same, response, followUp, kept, stamp⟩ := frame
  obtain ⟨_, chosen | chosen⟩ := resetCondition_cases settings port cts64 entered
  · rw [chosen]
    exact traced.pass same stamp response followUp
  · rw [chosen]
    exact traced.pass same
      ⟨fun impossible => (nomatch kept.symm.trans impossible), fun _ => stamp⟩ response followUp

private theorem answers_of_accepted (accepted : respState settings data = .waitingForPdelayRespFollowUp)
    (responseId : data.recPdelayResp.sequenceId = data.txPdelayReq) : Answers settings data := by
  refine ⟨responseId, ?_⟩
  unfold respState at accepted
  dsimp only at accepted
  split at accepted
  · cases accepted
  · split at accepted
    · cases accepted
    · split at accepted
      · cases accepted
      · rename_i clock port
        simp only [bne_iff_ne, ne_eq, not_not] at clock port
        exact congrArg₂ PortIdentity.mk clock port

theorem pass_waitingResp (traced : Traced settings data record)
    (state : data.state = .waitingForPdelayResp) (last : data.lastState = .waitingForPdelayResp)
    (timed : Timed data record.heard) (faithful : acceptsResp settings port cts64 data →
      data.recPdelayResp.sequenceId = data.txPdelayReq) :
    Traced settings (waitingForPdelayRespCondition settings port cts64 data) record := by
  have unstamped := timed.unstamped (last.trans state.symm)
  unfold waitingForPdelayRespCondition
  by_cases expired : data.expired port cts64 = true
  · rw [if_pos expired]
    exact traced.pass rfl unstamped id id
  rw [if_neg expired]
  by_cases received : data.rcvdPdelayResp = true
  · rw [if_neg (by simp [received])]
    rcases respState_cases settings data with target | target | target
    all_goals rw [target]
    · exact traced.pass rfl unstamped id id
    · exact traced.pass rfl ⟨timed.request, timed.stamped, fun _ => unstamped⟩ id id
    · have accepted : acceptsResp settings port cts64 data :=
        ⟨Bool.eq_false_iff.mpr expired, received, target⟩
      have answers := answers_of_accepted target (faithful accepted)
      have has := traced.response received
      refine traced.pass rfl ⟨⟨timed.request, timed.stamped, fun _ => unstamped⟩, unstamped,
        fun _ => ⟨⟨answers.responseId, answers.requesting⟩, has.response, has.t2⟩⟩ id id
  · rw [if_pos (by simp [received])]
    split
    · refine traced.pass rfl ?_ id nofun
      simp only [Phase, state]
      exact ⟨timed.request, timed.stamped, fun _ => unstamped⟩
    · exact traced

private theorem followUpId_of_accepted
    (accepted : respFupState settings data = .waitingForPdelayIntervalTimer) :
    data.recPdelayRespFup.sequenceId = data.txPdelayReq := by
  unfold respFupState at accepted
  dsimp only at accepted
  split at accepted
  · cases accepted
  · split at accepted
    · cases accepted
    · split at accepted
      · cases accepted
      · rename_i same
        simpa using same

theorem pass_waitingRespFup (traced : Traced settings data record)
    (state : data.state = .waitingForPdelayRespFollowUp)
    (last : data.lastState = .waitingForPdelayRespFollowUp)
    (faithful : acceptsRespFup settings port cts64 data → data.rcvdPdelayResp = false ∧
      data.recPdelayRespFup.sourcePortIdentity = data.recPdelayResp.sourcePortIdentity) :
    Traced settings (waitingForPdelayRespFollowUpCondition settings port cts64 data) record := by
  have phase := traced.phase
  simp only [Phase, state] at phase
  obtain ⟨timed, unstamped, answered⟩ := phase
  unfold waitingForPdelayRespFollowUpCondition
  by_cases expired : data.expired port cts64 = true
  · rw [if_pos expired]
    exact traced.pass rfl unstamped id id
  rw [if_neg expired]
  by_cases twice : data.rcvdPdelayResp = true ∧ data.recPdelayResp.sequenceId = data.txPdelayReq
  · rw [if_pos (by simp [twice])]
    exact traced.pass rfl unstamped id id
  rw [if_neg (by simpa using twice)]
  by_cases received : data.rcvdPdelayRespFollowUp = true
  · rw [if_neg (by simp [received])]
    rcases respFupState_cases settings data with target | target | target
    · rw [target]
      exact traced.pass rfl unstamped id id
    · rw [target]
      refine traced.pass rfl ⟨⟨timed.request, timed.stamped, fun _ => unstamped⟩, unstamped,
        fun fresh => ?_⟩ id id
      obtain ⟨answers, has⟩ := answered (fresh.imp_right fun different => absurd last different)
      exact ⟨⟨answers.responseId, answers.requesting⟩, has.response, has.t2⟩
    · obtain ⟨single, source⟩ := faithful ⟨Bool.eq_false_iff.mpr expired, twice, received, target⟩
      obtain ⟨answers, has⟩ := answered (.inl single)
      have hasFup := traced.followUp received
      rw [target]
      refine traced.pass rfl ⟨unstamped, fun _ => ?_⟩ id id
      exact {
        request := timed.request
        responseId := answers.responseId
        followUpId := followUpId_of_accepted target
        source := source
        requesting := answers.requesting
        t1 := timed.stamped
        response := has.response
        t2 := has.t2
        followUp := hasFup.followUp
        t3 := hasFup.t3 }
  · rw [if_pos (by simp [received])]
    exact traced

theorem frame_waitingForPdelayIntervalTimerProc (settings : PdelaySettings) (port : PdelayPort)
    (data : PdelayReq) :
    let next := waitingForPdelayIntervalTimerProc settings port data
    next.stored = data.stored ∧ next.rcvdPdelayResp = data.rcvdPdelayResp ∧
      next.rcvdPdelayRespFollowUp = false ∧ next.lastState = data.lastState ∧
      next.rcvdMDTimestampReceive = data.rcvdMDTimestampReceive := by
  have measured : (measure port data).stored = data.stored ∧
      (measure port data).rcvdPdelayResp = data.rcvdPdelayResp ∧
      (measure port data).rcvdPdelayRespFollowUp = false ∧
      (measure port data).lastState = data.lastState ∧
      (measure port data).rcvdMDTimestampReceive = data.rcvdMDTimestampReceive := by
    unfold measure updatePropDelay updateRateRatio
    split <;> split <;> exact ⟨rfl, rfl, rfl, rfl, rfl⟩
  unfold waitingForPdelayIntervalTimerProc
  split
  · exact ⟨rfl, rfl, rfl, rfl, rfl⟩
  · rcases judge_verdicts settings data.neighborPropDelay (measure port data) with
      ⟨chosen, -⟩ | ⟨chosen, -⟩ | chosen
    all_goals
      rw [chosen]
      exact measured

theorem pass_timer (traced : Traced settings data record)
    (state : data.state = .waitingForPdelayIntervalTimer)
    (last : data.lastState = .waitingForPdelayIntervalTimer) (stateChange : Bool) :
    let entered := if stateChange then waitingForPdelayIntervalTimerProc settings port data
      else data
    Traced settings (moveTo (waitingForPdelayIntervalTimerCondition port cts64 entered) entered)
      record := by
  intro entered
  have unstamped : data.rcvdMDTimestampReceive = false := by
    have phase := traced.phase
    simp only [Phase, state] at phase
    exact phase.1
  have frame : entered.stored = data.stored ∧
      (entered.rcvdPdelayResp = true → data.rcvdPdelayResp = true) ∧
      (entered.rcvdPdelayRespFollowUp = true → data.rcvdPdelayRespFollowUp = true) ∧
      entered.lastState = .waitingForPdelayIntervalTimer ∧
      entered.rcvdMDTimestampReceive = false := by
    simp only [entered]
    split
    · obtain ⟨same, response, followUp, kept, stamp⟩ :=
        frame_waitingForPdelayIntervalTimerProc settings port data
      exact ⟨same, fun received => response.symm.trans received,
        fun received => (nomatch followUp.symm.trans received), kept.trans last,
        stamp.trans unstamped⟩
    · exact ⟨rfl, id, id, last, unstamped⟩
  obtain ⟨same, response, followUp, kept, stamp⟩ := frame
  refine traced.pass same ?_ response followUp
  unfold waitingForPdelayIntervalTimerCondition
  split
  · exact ⟨fun impossible => (nomatch kept.symm.trans impossible), fun _ => stamp⟩
  · exact ⟨stamp, fun different => absurd kept different⟩

private theorem exchanged_remember (exchanged : Exchanged settings data heard) (state : PdelayReqState) :
    Exchanged settings { data with lastState := state } heard where
  request := exchanged.request
  responseId := exchanged.responseId
  followUpId := exchanged.followUpId
  source := exchanged.source
  requesting := exchanged.requesting
  t1 := exchanged.t1
  response := exchanged.response
  t2 := exchanged.t2
  followUp := exchanged.followUp
  t3 := exchanged.t3

variable (traced : Traced settings data record)
include traced

theorem Traced.remember
    (phase : Phase settings { data with lastState := data.state } record.heard) :
    Traced settings { data with lastState := data.state } record :=
  traced.pass rfl phase id id

variable (faithful : Faithful settings port cts64 data)
include faithful

theorem arm_traced (stateChange : Bool) (fresh : stateChange = true ↔ data.lastState ≠ data.state) :
    Traced settings (arm settings port cts64 stateChange { data with lastState := data.state }).1
      (ExchangeRecord.observe port stateChange { data with lastState := data.state } record) := by
  have phase := traced.phase
  have remembered := traced.remember
  obtain ⟨entered, same⟩ : ∃ entered : PdelayReq, entered = { data with lastState := data.state } :=
    ⟨_, rfl⟩
  rw [← same] at remembered ⊢
  have entering : entered.state = data.state ∧ entered.lastState = data.state := by
    rw [same]
    exact ⟨rfl, rfl⟩
  obtain ⟨into, last⟩ := entering
  have unchanged (stays : stateChange = false) : entered = data := by
    have kept : data.lastState = data.state :=
      not_not.mp (mt fresh.mpr (Bool.eq_false_iff.mp stays))
    rw [same]
    exact congrArg (fun state => ({ data with lastState := state } : PdelayReq)) kept.symm
  cases state : data.state
  all_goals
    rw [state] at into last fresh
    simp only [Phase, state] at phase
    simp only [Phase, into] at remembered
    simp only [arm, ExchangeRecord.observe, into, ite_self]
  case init => exact (remembered trivial).pass rfl trivial id id
  case reaction => exact remembered trivial
  case notEnabled => exact pass_notEnabled (remembered trivial) last stateChange
  case initialSendPdelayReq =>
    cases stateChange with
    | true =>
      exact pass_initialSend_entry traced.computed into
        (by rw [same]; exact faithful.unmocked (.inl state) (state ▸ fresh.mp rfl))
    | false =>
      rw [unchanged rfl] at last ⊢
      exact pass_initialSend traced state last
  case reset => exact pass_reset (remembered (same ▸ phase)) into last stateChange
  case sendPdelayReq =>
    cases stateChange with
    | true =>
      have unstamped : entered.rcvdMDTimestampReceive = false := by
        rw [same]
        exact phase.2 (fresh.mp rfl)
      exact pass_send_entry traced.computed into unstamped
        (by rw [same]; exact faithful.unmocked (.inr state) (state ▸ fresh.mp rfl))
    | false =>
      rw [unchanged rfl] at last ⊢
      exact pass_send traced state last
  case waitingForPdelayResp =>
    cases stateChange with
    | true =>
      have timed : Timed (waitingForPdelayRespProc entered) record.heard := by
        rw [same]
        exact ⟨phase.request, phase.stamped, fun _ => rfl⟩
      have entry : Traced settings (waitingForPdelayRespProc entered) record := by
        refine traced.pass (by rw [same]; rfl) ?_ (by rw [same]; exact id) (by rw [same]; exact id)
        simp only [Phase, waitingForPdelayRespProc, into] at timed ⊢
        exact timed
      exact pass_waitingResp entry into last timed (by rw [same]; exact faithful.answered state)
    | false =>
      rw [unchanged rfl] at last ⊢
      exact pass_waitingResp traced state last phase (faithful.answered state)
  case waitingForPdelayRespFollowUp =>
    cases stateChange with
    | true =>
      obtain ⟨timed, unstamped, answered⟩ := phase
      have entry : Traced settings (waitingForPdelayRespFollowUpProc entered) record := by
        refine traced.pass (by rw [same]; rfl) ?_ (by rintro ⟨⟩) (by rw [same]; exact id)
        obtain ⟨answers, has⟩ := answered (.inr (fresh.mp rfl))
        simp only [Phase, waitingForPdelayRespFollowUpProc, into]
        rw [same]
        exact ⟨⟨timed.request, timed.stamped, fun _ => unstamped⟩, unstamped,
          fun _ => ⟨⟨answers.responseId, answers.requesting⟩, has.response, has.t2⟩⟩
      have followed := faithful.followed state
      rw [awaitingRespFup, if_pos (state ▸ fresh.mp rfl)] at followed
      refine pass_waitingRespFup entry into last ?_
      rw [same]
      exact followed
    | false =>
      rw [unchanged rfl] at last ⊢
      have followed := faithful.followed state
      rw [awaitingRespFup, if_neg (not_not.mpr (last.trans state.symm))] at followed
      exact pass_waitingRespFup traced state last followed
  case waitingForPdelayIntervalTimer =>
    have settled : Traced settings entered record :=
      remembered ⟨same ▸ phase.1, fun different => absurd last different⟩
    cases stateChange with
    | true =>
      have exchanged : Exchanged settings entered record.heard := by
        rw [same]
        exact exchanged_remember (phase.2 (fresh.mp rfl)) _
      have timed : Traced settings
          (moveTo (waitingForPdelayIntervalTimerCondition port cts64 _) _) record :=
        pass_timer settled into last true
      exact ⟨timed.phase, timed.response, timed.followUp, fun exchange member =>
        (List.mem_cons.mp member).elim (fun here => here ▸ exchanged) (timed.computed exchange)⟩
    | false => exact pass_timer settled into last false

theorem switch_traced :
    let switched := ((machine settings port cts64).observed
      fun stateChange => ExchangeRecord.observe port stateChange).switch (data, record)
    Traced settings switched.1.1 switched.1.2 :=
  arm_traced traced faithful _ bne_iff_ne

end Passes

end PdelayReq

end EnetTsn.Pdelay
