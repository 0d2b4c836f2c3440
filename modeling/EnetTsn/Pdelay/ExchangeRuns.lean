import EnetTsn.Pdelay.Exchanges

namespace EnetTsn.Pdelay

open EnetTsn.Gptp EnetTsn.Library

namespace PdelayReq

section Events

variable {settings : PdelaySettings} {data next : PdelayReq} {record : ExchangeRecord}

def Settled (data : PdelayReq) : Prop :=
  data.lastState = data.state ∨ data.lastState = .reaction ∧
    (data.state = .initialSendPdelayReq ∨ data.state = .sendPdelayReq)

theorem settled_arm (last : data.lastState = data.state)
    (returned : arm settings port cts64 stateChange data = (next, some ())) : Settled next := by
  cases state : data.state
  all_goals simp only [arm, state] at returned
  case initialSendPdelayReq =>
    cases stateChange with
    | false => cases returned
    | true =>
      obtain ⟨rfl, -⟩ := Prod.mk.inj returned
      unfold initialSendPdelayReqProc transmit
      cases send : port.send with
      | failed => exact .inr ⟨rfl, .inl state⟩
      | skipped | sent => exact .inl last
  case sendPdelayReq =>
    cases stateChange with
    | false => cases returned
    | true =>
      obtain ⟨rfl, -⟩ := Prod.mk.inj returned
      unfold sendPdelayReqProc transmit
      cases send : port.send with
      | failed => exact .inr ⟨rfl, .inr state⟩
      | skipped | sent => exact .inl last
  all_goals cases returned

theorem Phase.deliver (phase : Phase settings data heard) (settled : Settled data)
    (state : next.state = data.state) (lastState : next.lastState = data.lastState)
    (stamp : next.rcvdMDTimestampReceive = data.rcvdMDTimestampReceive)
    (sent : Sent data heard → Sent next heard') (timed : Timed data heard → Timed next heard')
    (answered : next.rcvdPdelayResp = false → Answers settings data ∧ HasResp settings data heard →
      Answers settings next ∧ HasResp settings next heard')
    (response : next.rcvdPdelayResp = false → data.rcvdPdelayResp = false) :
    Phase settings next heard' := by
  have seen (other : data.state ≠ .initialSendPdelayReq) (other' : data.state ≠ .sendPdelayReq) :
      next.lastState = next.state := by
    rw [state, lastState]
    exact settled.resolve_right fun sending => sending.2.elim other other'
  unfold Phase at phase ⊢
  rw [state, lastState, stamp]
  cases current : data.state
  all_goals simp only [current] at phase ⊢
  case initialSendPdelayReq => exact fun last => sent (phase last)
  case reset => exact phase
  case sendPdelayReq => exact ⟨fun last => sent (phase.1 last), phase.2⟩
  case waitingForPdelayResp => exact timed phase
  case waitingForPdelayRespFollowUp =>
    have same := seen (by rw [current]; nofun) (by rw [current]; nofun)
    rw [state, lastState, current] at same
    refine ⟨timed phase.1, phase.2.1, fun fresh => ?_⟩
    have none := fresh.resolve_right (not_not.mpr same)
    exact answered none (phase.2.2 (.inl (response none)))
  case waitingForPdelayIntervalTimer =>
    have same := seen (by rw [current]; nofun) (by rw [current]; nofun)
    rw [state, lastState, current] at same
    exact ⟨phase.1, fun different => absurd same different⟩

variable (traced : Traced settings data record)
include traced

variable (settled : Settled data)
include settled

theorem Traced.stamp (transmission : Nat) (seqid : UInt16) (ts64 : UInt64) :
    Traced settings data (record.hear settings transmission (.txts seqid ts64)) where
  phase := traced.phase.deliver settled rfl rfl rfl (fun sent => ⟨sent.request,
      fun received => List.mem_cons_of_mem _ (sent.stamped received),
      fun mock => List.mem_cons_of_mem _ (sent.mocked mock)⟩)
    (fun timed => ⟨timed.request, List.mem_cons_of_mem _ timed.stamped, timed.unstamped⟩)
    (fun _ known => ⟨known.1, known.2.response, known.2.t2⟩) id
  response received := ⟨(traced.response received).response, (traced.response received).t2⟩
  followUp received := ⟨(traced.followUp received).followUp, (traced.followUp received).t3⟩
  computed := traced.computed

theorem traced_storeTxts (timely : data.Timely record.heard.sends transmission (.txts seqid ts64))
    (found : data.storeTxts settings seqid ts64 = some next) :
    Traced settings next (record.hear settings transmission (.txts seqid ts64)) := by
  unfold storeTxts at found
  split at found
  · cases found
  · rename_i sending
    split at found
    · cases found
    · rename_i same
      have current : seqid = data.pdelayReqSequenceId := not_not.mp same
      have out := Option.some.inj found
      obtain ⟨again, first⟩ := timely current
      have sent (last : transmission = record.heard.sends) (sent : Sent data record.heard) :
          Sent next (record.hear settings transmission (.txts seqid ts64)).heard := by
        rw [← out]
        exact ⟨sent.request, fun _ => last ▸ List.mem_cons_self,
          fun mock => List.mem_cons_of_mem _ (sent.mocked mock)⟩
      have kept : next.state = data.state ∧ next.lastState = data.lastState := by
        rw [← out]
        exact ⟨rfl, rfl⟩
      refine (traced.stamp settled transmission seqid ts64).pass (by rw [← out]; rfl) ?_
        (by rw [← out]; exact id) (by rw [← out]; exact id)
      by_cases initial : data.state = .initialSendPdelayReq
      · have phase := (phase_initialSend initial).mp traced.phase
        exact (phase_initialSend (kept.1.trans initial)).mpr fun last =>
          have entered := kept.2.symm.trans last
          sent (first initial entered) (phase entered)
      · have send : data.state = .sendPdelayReq := by
          by_contra other
          exact sending ⟨other, initial⟩
        have phase := (phase_send send).mp traced.phase
        obtain ⟨entered, last⟩ := again send
        exact (phase_send (kept.1.trans send)).mpr ⟨fun _ => sent last (phase.1 entered),
          fun unsent => absurd (kept.2.trans entered) unsent⟩

private theorem traced_storeResp (message : Memory) (ts64 : UInt64) :
    Traced settings (data.storeResp settings message ts64)
      (record.hear settings transmission (.recvResp message ts64)) where
  phase := traced.phase.deliver settled rfl rfl rfl
    (fun sent => ⟨sent.request, sent.stamped, sent.mocked⟩)
    (fun timed => ⟨timed.request, timed.stamped, timed.unstamped⟩) nofun nofun
  response _ := ⟨⟨ts64, rfl, rfl⟩, rfl⟩
  followUp received := ⟨(traced.followUp received).followUp, (traced.followUp received).t3⟩
  computed := traced.computed

private theorem traced_storeRespFup (message : Memory) : Traced settings (data.storeRespFup message)
      (record.hear settings transmission (.recvRespFup message)) where
  phase := traced.phase.deliver settled rfl rfl rfl
    (fun sent => ⟨sent.request, sent.stamped, sent.mocked⟩)
    (fun timed => ⟨timed.request, timed.stamped, timed.unstamped⟩)
    (fun _ known => ⟨⟨known.1.responseId, known.1.requesting⟩, known.2.response, known.2.t2⟩) id
  response received := ⟨(traced.response received).response, (traced.response received).t2⟩
  followUp _ := ⟨rfl, rfl⟩
  computed := traced.computed

private theorem traced_allstate (port : PdelayPort) :
    Traced settings (moveTo (allstateCondition port data) data) record := by
  refine traced.pass rfl ?_ id id
  unfold allstateCondition
  split
  · exact trivial
  · split
    · refine (phase_initialSend rfl).mpr fun last => ?_
      have initial : data.state = .initialSendPdelayReq := by
        rcases settled with same | ⟨unsent, -⟩
        · exact same.symm.trans last
        · exact nomatch unsent.symm.trans last
      have sent := (phase_initialSend initial).mp traced.phase last
      exact ⟨sent.request, sent.stamped, sent.mocked⟩
    · exact traced.phase

theorem traced_deliver (timely : data.Timely record.heard.sends transmission step)
    (found : data.deliver settings step = some next) :
    Traced settings next (record.hear settings transmission step) ∧ Settled next := by
  cases step with
  | tick =>
    obtain rfl := Option.some.inj found
    exact ⟨traced, settled⟩
  | txts seqid ts64 =>
    refine ⟨traced_storeTxts traced settled timely found, ?_⟩
    simp only [deliver, storeTxts] at found
    split at found
    · cases found
    · split at found
      · cases found
      · obtain rfl := Option.some.inj found
        exact settled
  | recvResp message ts64 =>
    obtain rfl := Option.some.inj found
    exact ⟨traced_storeResp traced settled message ts64, settled⟩
  | recvRespFup message =>
    obtain rfl := Option.some.inj found
    exact ⟨traced_storeRespFup traced settled message, settled⟩
  | linkDown => cases found

private theorem traced_undelivered (found : data.deliver settings step = none) :
    Traced settings (data.undelivered step) (record.hear settings transmission step) ∧
      Settled (data.undelivered step) := by
  cases step with
  | txts seqid ts64 => exact ⟨traced.stamp settled transmission seqid ts64, settled⟩
  | linkDown => exact ⟨traced.pass rfl (traced.phase.deliver settled rfl rfl rfl
      (fun sent => ⟨sent.request, sent.stamped, sent.mocked⟩)
      (fun timed => ⟨timed.request, timed.stamped, timed.unstamped⟩)
      (fun _ known => ⟨⟨known.1.responseId, known.1.requesting⟩, known.2.response, known.2.t2⟩)
      id) id id, settled⟩
  | tick | recvResp | recvRespFup => cases found

end Events

end PdelayReq

section Runs

variable {settings : PdelaySettings} {pair next : PdelayReq × ExchangeRecord} {event : ExchangeEvent}

open PdelayReq in
theorem exchangeSystem_step (traced : Traced settings pair.1 pair.2) (settled : Settled pair.1)
    (steady : Steady settings pair event)
    (taken : (exchangeSystem settings).step pair event = some next) :
    Traced settings next.1 next.2 ∧ Settled next.1 := by
  simp only [exchangeSystem] at taken
  split at taken
  · rename_i none
    rw [← Option.some.inj taken]
    exact traced_undelivered traced settled none
  · rename_i data found
    obtain ⟨⟨final, result⟩, finished, rfl⟩ := Option.map_eq_some_iff.mp taken
    obtain ⟨delivered, still⟩ := traced_deliver traced settled steady.1 found
    constructor
    · refine Machine.run_preserves_trail _
        (fun pair : PdelayReq × ExchangeRecord => Traced settings pair.1 pair.2)
        (fun pass => Faithful settings event.port event.cts64 pass.1) ?_ (steady.2 data found)
        (traced_allstate delivered still event.port) finished
      exact fun pass faithful valid => switch_traced valid faithful
    · refine Machine.run_final _ (fun pair : PdelayReq × ExchangeRecord => Settled pair.1)
        (fun _ stable => .inl stable) ?_ finished
      intro data next value returned
      have out := congrArg (fun out => (out.1.1, out.2)) returned
      exact settled_arm rfl out

private theorem exchangeSystem_traced
    (reachable : (exchangeSystem settings).Reachable (Steady settings) pair) :
    pair.1.Traced settings pair.2 ∧ pair.1.Settled := by
  refine reachable.invariant (fun pair => pair.1.Traced settings pair.2 ∧ pair.1.Settled) ?_ ?_
  · exact ⟨⟨trivial, fun received => absurd received Bool.false_ne_true,
      fun received => absurd received Bool.false_ne_true,
      fun _ member => absurd member List.not_mem_nil⟩, .inl rfl⟩
  · exact fun pair event next kept steady taken =>
      exchangeSystem_step kept.1 kept.2 steady taken

/-- In every run of steady steps, a delay is computed from one exchange of messages. -/
theorem exchanged_of_steady
    (reachable : (exchangeSystem settings).Reachable (Steady settings) pair) :
    ∀ exchange ∈ pair.2.computed, Exchanged settings exchange.1 exchange.2 :=
  (exchangeSystem_traced reachable).1.computed

end Runs

section Decidable

variable {settings : PdelaySettings} {port : PdelayPort} {cts64 : UInt64} {data : PdelayReq}

open PdelayReq

instance : Decidable (acceptsResp settings port cts64 data) :=
  inferInstanceAs (Decidable (_ ∧ _ ∧ _))

instance : Decidable (acceptsRespFup settings port cts64 data) :=
  inferInstanceAs (Decidable (_ ∧ _ ∧ _ ∧ _))

instance : Decidable (Faithful settings port cts64 data) :=
  decidable_of_iff (_ ∧ _ ∧ _)
    ⟨fun ⟨unmocked, answered, followed⟩ => ⟨unmocked, answered, followed⟩,
      fun faithful => ⟨faithful.unmocked, faithful.answered, faithful.followed⟩⟩

instance : (step : PdelayStep) → Decidable (data.Timely sends transmission step)
  | .txts _ _ => inferInstanceAs (Decidable (_ → _ ∧ _))
  | .tick | .recvResp _ _ | .recvRespFup _ | .linkDown => isTrue trivial

instance {pair : PdelayReq × ExchangeRecord} {event : ExchangeEvent} :
    Decidable (Steady settings pair event) :=
  inferInstanceAs (Decidable (_ ∧ ∀ data ∈ pair.1.deliver settings event.step, ∀ pass ∈ _, _))

end Decidable

theorem exchanged_of_steady_exchange : ∃ pair : PdelayReq × ExchangeRecord,
    pair.2.computed.length = 1 ∧
      ∀ exchange ∈ pair.2.computed, Exchanged measuringSettings exchange.1 exchange.2 := by
  let system := (exchangeSystem measuringSettings).restrict
    fun pair event => decide (Steady measuringSettings pair event)
  have ran : (system.run system.start ((exchangeEvents 7 1000000000 100).map (.mk · 1))).map
      (fun pair => pair.2.computed.length) = some 1 := by decide +kernel
  obtain ⟨pair, finished, once⟩ := Option.map_eq_some_iff.mp ran
  exact ⟨pair, once, exchanged_of_steady (System.Reachable.of_restrict
    (fun _ _ => of_decide_eq_true) (System.reachable_of_run finished))⟩

def numberedMessage (sequenceId : UInt8) : Memory := fun index =>
  if index = 0 then 0x10
  else if index = 31 then sequenceId
  else if 20 ≤ index ∧ index < 28 then 2
  else if 44 ≤ index ∧ index < 52 ∨ index = 53 then 1
  else 0

/-- The response to an earlier request is taken for that of the request sent last. -/
theorem stale_not_exchanged : ¬ ∀ settings pair,
    (exchangeSystem settings).Reachable System.anyStep pair →
      ∀ exchange ∈ pair.2.computed, Exchanged settings exchange.1 exchange.2 := by
  intro all
  let system := exchangeSystem measuringSettings
  have ran : (system.run system.start
      ([ .mk measuringPort 1000 .tick, .mk measuringPort 1000 (.txts 7 1000),
        .mk measuringPort 1000 (.recvResp (numberedMessage 5) 1200),
        .mk measuringPort 1000 (.recvRespFup (numberedMessage 7)) ].map (.mk · 1))).map
      (fun pair => pair.2.computed.map fun exchange =>
        (exchange.1.recPdelayResp.sequenceId, exchange.1.txPdelayReq)) = some [(5, 7)] := by
    decide +kernel
  obtain ⟨pair, finished, computed⟩ := Option.map_eq_some_iff.mp ran
  obtain ⟨exchange, member, ids⟩ : ∃ exchange ∈ pair.2.computed,
      (exchange.1.recPdelayResp.sequenceId, exchange.1.txPdelayReq) = (5, 7) :=
    List.mem_map.mp (computed ▸ List.mem_singleton_self _)
  have exchanged := all _ pair (System.reachable_of_run finished) exchange member
  obtain ⟨response, request⟩ := Prod.mk.inj ids
  have same := exchanged.responseId
  rw [response, request] at same
  exact absurd same (by decide)

end EnetTsn.Pdelay
