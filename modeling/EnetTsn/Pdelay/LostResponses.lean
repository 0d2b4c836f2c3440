import EnetTsn.Pdelay.PdelayRuns

namespace EnetTsn.Pdelay

open EnetTsn.Gptp EnetTsn.Library

structure LinkFlags where
  isMeasuringDelay : Bool
  asCapableAcrossDomains : Bool
  deriving DecidableEq, Repr

def LinkFlags.cleared : LinkFlags where
  isMeasuringDelay := false
  asCapableAcrossDomains := false

structure LossCount where
  lostResponses : UInt16
  flags : LinkFlags

inductive ExchangeEnd where
  /-- An entry of the state after a loss: its number since the last completed exchange, and the
  flags before and after `reset_proc`. -/
  | reset (number : Nat) (before after : LinkFlags)
  /-- A completed exchange, with the number of lost responses it leaves. -/
  | completed (lostResponses : UInt16)
  deriving DecidableEq, Repr

/-- The entry after the allowed ones clears the flags, and no other entry touches them. -/
def ExchangeEnd.Counted (allowedLostResponses : UInt16) : ExchangeEnd → Prop
  | .reset number before after =>
    after = if number = allowedLostResponses.toNat + 1 then .cleared else before
  | .completed lostResponses => lostResponses = 0

/-- The ends of the exchanges of a run, and the losses since the last completed one. -/
structure LossRecord where
  resets : Nat
  ends : List ExchangeEnd
  deriving DecidableEq

namespace PdelayReq

def linkFlags (data : PdelayReq) : LinkFlags where
  isMeasuringDelay := data.isMeasuringDelay
  asCapableAcrossDomains := data.asCapableAcrossDomains

def lossCount (data : PdelayReq) : LossCount where
  lostResponses := data.lostResponses
  flags := data.linkFlags

theorem framed_lossCount : Framed lossCount :=
  fun _ _ same => (congrArg lossCount same).trans rfl

end PdelayReq

def recordLosses (settings : PdelaySettings) (port : PdelayPort) (_cts64 : UInt64)
    (stateChange : Bool) (data : PdelayReq) (record : LossRecord) : LossRecord :=
  if stateChange then
    match data.state with
    | .reset =>
      { resets := record.resets + 1
        ends := record.ends ++
          [.reset (record.resets + 1) data.linkFlags (data.resetProc settings).linkFlags] }
    | .waitingForPdelayIntervalTimer =>
      { resets := 0
        ends := record.ends ++
          [.completed (data.waitingForPdelayIntervalTimerProc settings port).lostResponses] }
    | _ => record
  else record

def PdelayReqState.requested : PdelayReqState → Bool
  | .reset | .sendPdelayReq | .waitingForPdelayResp | .waitingForPdelayRespFollowUp
  | .waitingForPdelayIntervalTimer => true
  | .init | .notEnabled | .initialSendPdelayReq | .reaction => false

namespace PdelayReq

section States

variable (settings : PdelaySettings) (port : PdelayPort) (cts64 : UInt64) (data : PdelayReq)
  (stateChange : Bool)

theorem requested_arm
    (requested : (arm settings port cts64 stateChange data).1.state.requested = true) :
    data.state.requested = true ∨ data.state = .initialSendPdelayReq ∧ stateChange = false := by
  cases state : data.state with
  | reset => exact .inl rfl
  | sendPdelayReq => exact .inl rfl
  | waitingForPdelayResp => exact .inl rfl
  | waitingForPdelayRespFollowUp => exact .inl rfl
  | waitingForPdelayIntervalTimer => exact .inl rfl
  | init =>
    simp only [arm, state] at requested
    cases requested
  | notEnabled =>
    simp only [arm, state, moveTo] at requested
    generalize (if stateChange = true then notEnabledProc settings data else data) = entered at requested
    rcases notEnabledCondition_cases settings port entered with chosen | chosen | ⟨chosen, _⟩
    all_goals
      rw [chosen] at requested
      cases requested
  | initialSendPdelayReq =>
    cases stateChange with
    | true =>
      simp only [arm, state, if_true, initialSendPdelayReqProc, transmit] at requested
      cases send : port.send <;> simp [send, PdelayReqState.requested] at requested
    | false => exact .inr ⟨rfl, rfl⟩
  | reaction =>
    simp only [arm, state] at requested
    cases requested

private theorem cleared_initialSendPdelayReqProc
    (sent : (initialSendPdelayReqProc port cts64 data).lastState = .initialSendPdelayReq) :
    (initialSendPdelayReqProc port cts64 data).linkFlags = .cleared := by
  cases send : port.send with
  | failed => simp [initialSendPdelayReqProc, transmit, send] at sent
  | skipped => simp [initialSendPdelayReqProc, transmit, send, linkFlags, LinkFlags.cleared]
  | sent => simp [initialSendPdelayReqProc, transmit, send, linkFlags, LinkFlags.cleared]

theorem lastState_arm : (arm settings port cts64 stateChange data).1.lastState = data.lastState ∨
      (arm settings port cts64 stateChange data).1.lastState = .reaction := by
  cases state : data.state
  all_goals simp only [arm, state]
  case init => exact .inl rfl
  case reaction => exact .inl trivial
  case notEnabled =>
    left
    cases stateChange with
    | true => exact lastState_notEnabledProc settings data
    | false => rfl
  case initialSendPdelayReq =>
    cases stateChange with
    | true => cases send : port.send <;> simp [initialSendPdelayReqProc, transmit, send]
    | false =>
      rcases initialSendPdelayReqCondition_cases port cts64 data with
        chosen | ⟨chosen, _⟩ | chosen | ⟨chosen, _⟩
      · exact .inl (congrArg lastState chosen)
      · exact .inl ((congrArg lastState chosen).trans rfl)
      · exact .inr ((congrArg lastState chosen).trans rfl)
      · exact .inl ((congrArg lastState chosen).trans rfl)
  case reset =>
    left
    have entered : (if stateChange then resetProc settings data else data).lastState =
        data.lastState := by
      split
      · exact lastState_resetProc settings data
      · rfl
    obtain ⟨_, chosen | chosen⟩ := resetCondition_cases settings port cts64
      (if stateChange then resetProc settings data else data)
    all_goals exact (congrArg lastState chosen).trans entered
  case sendPdelayReq =>
    cases stateChange with
    | true => cases send : port.send <;> simp [sendPdelayReqProc, transmit, send]
    | false =>
      rcases sendPdelayReqCondition_cases port cts64 data with
        chosen | ⟨chosen, _⟩ | chosen | ⟨chosen, _⟩
      · exact .inl (congrArg lastState chosen)
      · exact .inl ((congrArg lastState chosen).trans rfl)
      · exact .inr ((congrArg lastState chosen).trans rfl)
      · exact .inl ((congrArg lastState chosen).trans rfl)
  case waitingForPdelayResp =>
    left
    have entered : (if stateChange then waitingForPdelayRespProc data else data).lastState =
        data.lastState := by
      split <;> rfl
    rcases waitingForPdelayRespCondition_cases settings port cts64
      (if stateChange then waitingForPdelayRespProc data else data) with
      chosen | chosen | chosen | ⟨chosen, _⟩
    all_goals exact (congrArg lastState chosen).trans entered
  case waitingForPdelayRespFollowUp =>
    left
    have entered : (if stateChange then waitingForPdelayRespFollowUpProc data else data).lastState =
        data.lastState := by
      split <;> rfl
    rcases waitingForPdelayRespFollowUpCondition_cases settings port cts64
      (if stateChange then waitingForPdelayRespFollowUpProc data else data) with
      chosen | ⟨_, chosen⟩ | ⟨chosen, _⟩
    all_goals exact (congrArg lastState chosen).trans entered
  case waitingForPdelayIntervalTimer =>
    left
    cases stateChange with
    | true => exact lastState_waitingForPdelayIntervalTimerProc settings port data
    | false => rfl

end States

end PdelayReq

/-- What holds of the losses in every state: no more are counted than allowed, nor than there
were. -/
structure Tally (settings : PdelaySettings) (count : LossCount) (record : LossRecord) : Prop where
  few : count.lostResponses ≤ settings.allowedLostResponses
  below : count.lostResponses.toNat ≤ record.resets
  ends : ∀ exchangeEnd ∈ record.ends, exchangeEnd.Counted settings.allowedLostResponses

/-- All losses since the last completed exchange are counted, or there is nothing to clear. -/
def Complete (count : LossCount) (record : LossRecord) : Prop :=
  count.flags = .cleared ∨ count.lostResponses.toNat = record.resets

structure Losses (settings : PdelaySettings) (data : PdelayReq) (record : LossRecord) : Prop where
  tally : Tally settings data.lossCount record
  initial : data.lastState = .initialSendPdelayReq → data.linkFlags = .cleared
  complete : data.state.requested = true → Complete data.lossCount record

namespace PdelayReq

section Entry

variable {settings : PdelaySettings}

/-- Off the conformance to the test plan, `reset_proc` counts a loss or clears the flags. -/
theorem resetProc_cases (standard : settings.conformToAvnu = false) (data : PdelayReq) :
    data.lostResponses < settings.allowedLostResponses ∧ (resetProc settings data).lossCount =
          { data.lossCount with lostResponses := data.lostResponses + 1 } ∨
      ¬ data.lostResponses < settings.allowedLostResponses ∧
        (resetProc settings data).lossCount = { data.lossCount with flags := .cleared } := by
  have kept (data : PdelayReq) : resetMultiResponses settings data = data := by
    unfold resetMultiResponses
    rw [standard]
    rfl
  unfold resetProc
  dsimp only
  split
  · rename_i counted
    rw [kept]
    exact .inl ⟨counted, rfl⟩
  · rename_i full
    split
    · rename_i incapable
      have never : data.asCapableAcrossDomains = false := by simpa using incapable
      refine .inr ⟨full, ?_⟩
      simp only [lossCount, linkFlags, LinkFlags.cleared, never]
    · rw [kept]
      exact .inr ⟨full, rfl⟩

private theorem lostResponses_waitingForPdelayIntervalTimerProc (port : PdelayPort) (data : PdelayReq) :
    (waitingForPdelayIntervalTimerProc settings port data).lostResponses = 0 := by
  have measured : (measure port data).lostResponses = 0 := by
    unfold measure updatePropDelay updateRateRatio
    split <;> split <;> rfl
  unfold waitingForPdelayIntervalTimerProc
  split
  · rfl
  · rcases judge_verdicts settings data.neighborPropDelay (measure port data) with
      ⟨verdict, _⟩ | ⟨verdict, _⟩ | verdict
    all_goals exact (congrArg lostResponses verdict).trans measured

variable {port : PdelayPort} {cts64 : UInt64} {data : PdelayReq} {record : LossRecord}

variable (standard : settings.conformToAvnu = false)
include standard

variable (tally : Tally settings data.lossCount record)
include tally

theorem reset_entry (complete : Complete data.lossCount record) :
    (resetProc settings data).lossCount.lostResponses ≤ settings.allowedLostResponses ∧
      (resetProc settings data).lossCount.lostResponses.toNat ≤ record.resets + 1 ∧
      ExchangeEnd.Counted settings.allowedLostResponses
        (.reset (record.resets + 1) data.linkFlags (resetProc settings data).linkFlags) ∧
      ((resetProc settings data).linkFlags = .cleared ∨
        (resetProc settings data).lossCount.lostResponses.toNat = record.resets + 1) := by
  have few := UInt16.le_iff_toNat_le.mp tally.few
  have below := tally.below
  have bound := settings.allowedLostResponses.toNat_lt
  change data.lostResponses.toNat ≤ settings.allowedLostResponses.toNat at few
  have before : data.linkFlags = .cleared ∨ data.lostResponses.toNat = record.resets := complete
  rcases resetProc_cases standard data with ⟨counted, after⟩ | ⟨full, after⟩
  · have less := UInt16.lt_iff_toNat_lt.mp counted
    have succ : (data.lostResponses + 1).toNat = data.lostResponses.toNat + 1 := by
      rw [UInt16.toNat_add, show (1 : UInt16).toNat = 1 from rfl]
      exact Nat.mod_eq_of_lt (by omega)
    have flags : (resetProc settings data).linkFlags = data.linkFlags := congrArg LossCount.flags after
    rw [after, flags]
    refine ⟨?_, ?_, ?_, ?_⟩
    · rw [UInt16.le_iff_toNat_le, succ]
      exact less
    · rw [succ]
      exact Nat.succ_le_succ below
    · simp only [ExchangeEnd.Counted]
      rcases before with clear | exactly
      · rw [clear, ite_self]
      · rw [if_neg (by omega)]
    · rcases before with clear | exactly
      · exact .inl clear
      · exact .inr (succ.trans (congrArg Nat.succ exactly))
  · have most : settings.allowedLostResponses.toNat ≤ data.lostResponses.toNat :=
      Nat.le_of_not_lt fun less => full (UInt16.lt_iff_toNat_lt.mpr less)
    have flags : (resetProc settings data).linkFlags = .cleared := congrArg LossCount.flags after
    rw [after, flags]
    refine ⟨tally.few, Nat.le_succ_of_le below, ?_, .inl rfl⟩
    simp only [ExchangeEnd.Counted]
    rcases before with clear | exactly
    · rw [clear, ite_self]
    · rw [if_pos (by omega)]

theorem losses_entryProc (complete : data.state.requested = true → Complete data.lossCount record) :
    Tally settings (entryProc settings port cts64 data).lossCount
        (recordLosses settings port cts64 true data record) ∧
      (data.state.requested = true → Complete (entryProc settings port cts64 data).lossCount
        (recordLosses settings port cts64 true data record)) := by
  have ended {exchangeEnd : ExchangeEnd}
      (counted : exchangeEnd.Counted settings.allowedLostResponses) :
      ∀ other ∈ record.ends ++ [exchangeEnd], other.Counted settings.allowedLostResponses := by
    intro other member
    rcases List.mem_append.mp member with earlier | same
    · exact tally.ends other earlier
    · rw [List.mem_singleton.mp same]
      exact counted
  cases state : data.state
  all_goals simp only [entryProc, recordLosses, state, if_true]
  case reset =>
    obtain ⟨few, below, counted, complete⟩ :=
      reset_entry standard tally (complete (by rw [state]; rfl))
    exact ⟨⟨few, below, ended counted⟩, fun _ => complete⟩
  case waitingForPdelayIntervalTimer =>
    have none : (waitingForPdelayIntervalTimerProc settings port data).lostResponses = 0 :=
      lostResponses_waitingForPdelayIntervalTimerProc port data
    refine ⟨⟨?_, ?_, ended none⟩, fun _ => .inr ?_⟩
    · exact (none ▸ UInt16.zero_le : _ ≤ settings.allowedLostResponses)
    · exact Nat.le_of_eq (congrArg UInt16.toNat none)
    · exact congrArg UInt16.toNat none
  case initialSendPdelayReq =>
    refine ⟨?_, by rintro ⟨⟩⟩
    cases send : port.send with
    | failed =>
      have same : (initialSendPdelayReqProc port cts64 data).lossCount = data.lossCount := by
        simp [initialSendPdelayReqProc, transmit, send, lossCount, linkFlags]
      rw [same]
      exact tally
    | skipped | sent =>
      have none : (initialSendPdelayReqProc port cts64 data).lossCount.lostResponses = 0 := by
        simp [initialSendPdelayReqProc, transmit, send, lossCount]
      have below := Nat.le_of_eq (congrArg UInt16.toNat none)
      exact ⟨none ▸ UInt16.zero_le, Nat.le_trans below (Nat.zero_le _), tally.ends⟩
  case notEnabled =>
    have same : (notEnabledProc settings data).lossCount.lostResponses =
        data.lossCount.lostResponses := by
      unfold notEnabledProc
      split <;> rfl
    exact ⟨⟨same ▸ tally.few, same ▸ tally.below, tally.ends⟩, by rintro ⟨⟩⟩
  all_goals exact ⟨tally, fun requested => complete (by rw [state]; exact requested)⟩

end Entry

end PdelayReq

section Runs

open PdelayReq

variable {settings : PdelaySettings} {port : PdelayPort} {cts64 : UInt64} {data : PdelayReq}
  {record : LossRecord}

theorem Losses.enter (standard : settings.conformToAvnu = false) (last : data.lastState = data.state)
    (tally : Tally settings data.lossCount record)
    (complete : data.state.requested = true → Complete data.lossCount record) :
    Losses settings (arm settings port cts64 true data).1
      (recordLosses settings port cts64 true data record) := by
  have count : (arm settings port cts64 true data).1.lossCount =
      (entryProc settings port cts64 data).lossCount :=
    view_arm settings port cts64 framed_lossCount true data
  obtain ⟨after, completed⟩ := losses_entryProc standard tally complete
  refine ⟨count ▸ after, fun initial => ?_, fun requested => ?_⟩
  · have state : data.state = .initialSendPdelayReq := by
      rcases lastState_arm settings port cts64 data true with kept | anew
      · exact last.symm.trans (kept.symm.trans initial)
      · cases anew.symm.trans initial
    simp only [arm, state, if_true] at initial ⊢
    exact cleared_initialSendPdelayReqProc port cts64 data initial
  · rcases requested_arm settings port cts64 data true requested with before | ⟨_, entered⟩
    · exact count ▸ completed before
    · cases entered

theorem Losses.stay (last : data.lastState = data.state) (valid : Losses settings data record) :
    Losses settings (arm settings port cts64 false data).1 record := by
  have count : (arm settings port cts64 false data).1.lossCount = data.lossCount :=
    view_arm settings port cts64 framed_lossCount false data
  have flags : (arm settings port cts64 false data).1.linkFlags = data.linkFlags :=
    congrArg LossCount.flags count
  refine ⟨count ▸ valid.tally, fun initial => ?_, fun requested => ?_⟩
  · rcases lastState_arm settings port cts64 data false with kept | anew
    · exact flags.trans (valid.initial (kept.symm.trans initial))
    · cases anew.symm.trans initial
  · rw [count]
    rcases requested_arm settings port cts64 data false requested with before | ⟨initial, _⟩
    · exact valid.complete before
    · exact .inl (valid.initial (last.trans initial))

private theorem requested_allstateCondition
    (requested : (allstateCondition port data).requested = true) : data.state.requested = true := by
  unfold allstateCondition at requested
  split at requested
  · cases requested
  · split at requested
    · cases requested
    · exact requested

private theorem states_deliver (found : data.deliver settings step = some delivered) :
    delivered.state = data.state ∧ delivered.lastState = data.lastState := by
  cases step with
  | tick | recvResp message ts64 | recvRespFup message =>
    cases found
    exact ⟨rfl, rfl⟩
  | txts seqid ts64 =>
    simp only [deliver, storeTxts] at found
    split at found
    · cases found
    · split at found
      · cases found
      · cases found
        exact ⟨rfl, rfl⟩
  | linkDown => cases found

theorem Losses.deliver (valid : Losses settings data record)
    (found : data.deliver settings step = some delivered) :
    Losses settings (moveTo (allstateCondition port delivered) delivered) record := by
  have count : delivered.lossCount = data.lossCount := view_deliver framed_lossCount found
  have flags : delivered.linkFlags = data.linkFlags := congrArg LossCount.flags count
  obtain ⟨state, lastState⟩ := states_deliver found
  have tally : Tally settings delivered.lossCount record := count ▸ valid.tally
  refine ⟨⟨tally.few, tally.below, tally.ends⟩, fun initial => ?_, fun requested => ?_⟩
  · exact flags.trans (valid.initial (lastState.symm.trans initial))
  · have before := requested_allstateCondition requested
    rw [state] at before
    have complete : Complete delivered.lossCount record := count ▸ valid.complete before
    exact complete

end Runs

/-- Off the conformance to the test plan, in every run of messages, timestamps, ticks and link
failures, the flags are cleared by the entry of the state after a loss whose number since the last
completed exchange is one more than the allowed losses, no other entry touches them, and every
completed exchange leaves no loss counted. -/
theorem lostResponses_counted {settings : PdelaySettings} {pair : PdelayReq × LossRecord}
    (standard : settings.conformToAvnu = false)
    (reachable : (pdelaySystem settings (recordLosses settings)
      { resets := 0, ends := [] }).Reachable System.anyStep pair) :
    ∀ exchangeEnd ∈ pair.2.ends, exchangeEnd.Counted settings.allowedLostResponses := by
  have start : Losses settings PdelayReq.init { resets := 0, ends := [] } :=
    ⟨⟨UInt16.zero_le, Nat.le_refl 0, nofun⟩, nofun, nofun⟩
  have losses : Losses settings pair.1 pair.2 := by
    refine reachable.invariant (fun pair => Losses settings pair.1 pair.2) start ?_
    rintro ⟨data, record⟩ event next valid _ taken
    simp only [pdelaySystem] at taken
    split at taken
    · rw [← Option.some.inj taken]
      cases step : event.step with
      | linkDown =>
        have cleared (clear : data.linkFlags = .cleared) :
            (data.undelivered .linkDown).linkFlags = .cleared := by
          simp only [PdelayReq.linkFlags, LinkFlags.cleared, LinkFlags.mk.injEq] at clear
          simp only [PdelayReq.undelivered, PdelayReq.linkFlags, LinkFlags.cleared, clear.1]
        exact ⟨⟨valid.tally.few, valid.tally.below, valid.tally.ends⟩,
          fun initial => cleared (valid.initial initial),
          fun requested => (valid.complete requested).imp_left cleared⟩
      | tick | txts | recvResp | recvRespFup => exact valid
    · rename_i delivered found
      obtain ⟨⟨final, result⟩, finished, rfl⟩ := Option.map_eq_some_iff.mp taken
      refine Machine.run_preserves _ (fun pair => Losses settings pair.1 pair.2) ?_ ?_ finished
      · rintro ⟨data, record⟩ valid
        simp only [Machine.switch, Machine.observed, PdelayReq.machine]
        by_cases same : data.lastState = data.state
        · simp only [same, bne_self_eq_false]
          refine Losses.stay rfl ⟨valid.tally, fun initial => ?_, valid.complete⟩
          exact valid.initial (same.trans initial)
        · simp only [bne_iff_ne.mpr same]
          exact Losses.enter standard rfl valid.tally valid.complete
      · exact valid.deliver found
  exact losses.tally.ends

def impatientSettings : PdelaySettings := { measuringSettings with allowedLostResponses := 1 }

def unansweredEvents (sequenceId start : Nat) : List PdelayEvent :=
  (exchangeEvents sequenceId start 0).take 2

def silencedLink : List PdelayEvent :=
  exchangeEvents 7 10000000000 500 ++ exchangeEvents 8 11000000000 500 ++
    unansweredEvents 9 12000000000 ++ unansweredEvents 10 13000000000 ++
    unansweredEvents 11 14000000000

theorem lostResponses_counted_silenced : ∃ pair : PdelayReq × LossRecord,
    pair.2.ends = [.completed 0, .completed 0, .reset 1 ⟨true, true⟩ ⟨true, true⟩,
      .reset 2 ⟨true, true⟩ .cleared] ∧
    ∀ exchangeEnd ∈ pair.2.ends, exchangeEnd.Counted impatientSettings.allowedLostResponses := by
  let system := pdelaySystem impatientSettings (recordLosses impatientSettings)
    { resets := 0, ends := [] }
  have ran : (system.run system.start silencedLink).map (fun pair => pair.2.ends) =
      some [.completed 0, .completed 0, .reset 1 ⟨true, true⟩ ⟨true, true⟩,
        .reset 2 ⟨true, true⟩ .cleared] := by decide +kernel
  obtain ⟨pair, finished, ends⟩ := Option.map_eq_some_iff.mp ran
  exact ⟨pair, ends, lostResponses_counted rfl (System.reachable_of_run finished)⟩

end EnetTsn.Pdelay
