import EnetTsn.Library.Run
import EnetTsn.Pdelay.PdelayReq

namespace EnetTsn.Pdelay

open EnetTsn.Gptp EnetTsn.Library

namespace PdelayReq

section Conditions

variable (settings : PdelaySettings) (port : PdelayPort) (cts64 : UInt64) (data : PdelayReq)

theorem lostTimestamp_cases (repeated : PdelayReq → PdelayReq) :
    lostTimestamp port cts64 repeated data = data ∨
      lostTimestamp port cts64 repeated data = repeated data ∨
      lostTimestamp port cts64 repeated data =
        moveTo .waitingForPdelayResp { data with t1ts64 := data.mockTxts64, mockTxts64 := 0 } ∧
        data.mockTxts64 ≠ 0 := by
  unfold lostTimestamp
  split
  · split
    · rename_i mock
      exact Or.inr (Or.inr ⟨rfl, by simpa using mock⟩)
    · exact Or.inr (Or.inl rfl)
  · exact Or.inl rfl

theorem initialSendPdelayReqCondition_cases : initialSendPdelayReqCondition port cts64 data = data ∨
      initialSendPdelayReqCondition port cts64 data = moveTo .waitingForPdelayResp data ∧
        data.rcvdMDTimestampReceive = true ∨
      initialSendPdelayReqCondition port cts64 data = again .initialSendPdelayReq data ∨
      initialSendPdelayReqCondition port cts64 data =
        moveTo .waitingForPdelayResp { data with t1ts64 := data.mockTxts64, mockTxts64 := 0 } ∧
        data.mockTxts64 ≠ 0 := by
  unfold initialSendPdelayReqCondition
  split
  · exact Or.inl rfl
  · split
    · rename_i received
      exact Or.inr (Or.inl ⟨rfl, received⟩)
    · rcases lostTimestamp_cases port cts64 data (again .initialSendPdelayReq) with
        stays | repeated | mock
      · exact Or.inl stays
      · exact Or.inr (Or.inr (Or.inl repeated))
      · exact Or.inr (Or.inr (Or.inr mock))

theorem sendPdelayReqCondition_cases : sendPdelayReqCondition port cts64 data = data ∨
      sendPdelayReqCondition port cts64 data = moveTo .waitingForPdelayResp data ∧
        data.rcvdMDTimestampReceive = true ∨
      sendPdelayReqCondition port cts64 data = again .sendPdelayReq
        { data with pdelayReqSequenceId := data.pdelayReqSequenceId - 1 } ∨
      sendPdelayReqCondition port cts64 data =
        moveTo .waitingForPdelayResp { data with t1ts64 := data.mockTxts64, mockTxts64 := 0 } ∧
        data.mockTxts64 ≠ 0 := by
  unfold sendPdelayReqCondition
  split
  · rename_i received
    exact Or.inr (Or.inl ⟨rfl, received⟩)
  · rcases lostTimestamp_cases port cts64 data (fun data => again .sendPdelayReq
        { data with pdelayReqSequenceId := data.pdelayReqSequenceId - 1 }) with
      stays | repeated | mock
    · exact Or.inl stays
    · exact Or.inr (Or.inr (Or.inl repeated))
    · exact Or.inr (Or.inr (Or.inr mock))

theorem resetTimer_cases : resetTimer port cts64 data = moveTo .reset data ∨
      resetTimer port cts64 data = moveTo .sendPdelayReq data := by
  unfold resetTimer
  split
  · exact Or.inr rfl
  · exact Or.inl rfl

theorem resetCondition_cases : ∃ multiResponses, resetCondition settings port cts64 data =
        moveTo .reset { data with multiResponses := multiResponses } ∨
      resetCondition settings port cts64 data =
        moveTo .sendPdelayReq { data with multiResponses := multiResponses } := by
  unfold resetCondition
  split
  · split
    · exact ⟨data.multiResponses, Or.inl rfl⟩
    · exact ⟨0, resetTimer_cases port cts64 _⟩
  · exact ⟨data.multiResponses, resetTimer_cases port cts64 data⟩

theorem respState_cases :
    respState settings data = .reset ∨ respState settings data = .waitingForPdelayResp ∨
      respState settings data = .waitingForPdelayRespFollowUp := by
  unfold respState
  dsimp only
  repeat' split
  all_goals simp

theorem waitingForPdelayRespCondition_cases :
    waitingForPdelayRespCondition settings port cts64 data = data ∨
      waitingForPdelayRespCondition settings port cts64 data =
        { data with rcvdPdelayRespFollowUp := false } ∨
      waitingForPdelayRespCondition settings port cts64 data = moveTo .reset data ∨
      waitingForPdelayRespCondition settings port cts64 data =
        moveTo (respState settings data) data ∧ data.rcvdPdelayResp = true := by
  unfold waitingForPdelayRespCondition
  split
  · exact Or.inr (Or.inr (Or.inl rfl))
  · split
    · split
      · exact Or.inr (Or.inl rfl)
      · exact Or.inl rfl
    · rename_i received
      exact Or.inr (Or.inr (Or.inr ⟨rfl, by simpa using received⟩))

theorem respFupState_cases :
    respFupState settings data = .reset ∨ respFupState settings data = .waitingForPdelayRespFollowUp ∨
      respFupState settings data = .waitingForPdelayIntervalTimer := by
  unfold respFupState
  dsimp only
  repeat' split
  all_goals simp

theorem waitingForPdelayRespFollowUpCondition_cases :
    waitingForPdelayRespFollowUpCondition settings port cts64 data = data ∨
      (∃ multiResponses, waitingForPdelayRespFollowUpCondition settings port cts64 data =
        moveTo .reset { data with multiResponses := multiResponses }) ∨
      waitingForPdelayRespFollowUpCondition settings port cts64 data =
        moveTo (respFupState settings data) data ∧
        (data.rcvdPdelayResp = true → data.recPdelayResp.sequenceId ≠ data.txPdelayReq) ∧
        data.rcvdPdelayRespFollowUp = true := by
  unfold waitingForPdelayRespFollowUpCondition
  split
  · exact Or.inr (Or.inl ⟨data.multiResponses, rfl⟩)
  · split
    · exact Or.inr (Or.inl ⟨data.multiResponses + 1, rfl⟩)
    · rename_i single
      split
      · exact Or.inl rfl
      · rename_i received
        refine Or.inr (Or.inr ⟨rfl, fun response same => ?_, by simpa using received⟩)
        simp [response, same] at single

theorem notEnabledCondition_cases : notEnabledCondition settings port data = .notEnabled ∨
      notEnabledCondition settings port data = .reaction ∨
      notEnabledCondition settings port data = .initialSendPdelayReq ∧
        settings.neighborPropDelay = 0 := by
  unfold notEnabledCondition
  split
  · split
    · exact Or.inr (Or.inl rfl)
    · exact Or.inl rfl
  · rename_i measured
    split
    · exact Or.inr (Or.inr ⟨rfl, by simpa using measured⟩)
    · exact Or.inl rfl

end Conditions

section Total

def freshWeight : PdelayReqState → Nat
  | .waitingForPdelayResp => 3
  | .waitingForPdelayRespFollowUp => 2
  | .notEnabled | .reset | .waitingForPdelayIntervalTimer => 1
  | .init | .initialSendPdelayReq | .sendPdelayReq | .reaction => 0

def weight (data : PdelayReq) : Nat :=
  if data.state = .init ∨ data.lastState = data.state then 5 else freshWeight data.state

private theorem weight_of_fresh (data : PdelayReq) (entered : data.state ≠ .init)
    (fresh : data.lastState ≠ data.state) : weight data = freshWeight data.state :=
  if_neg (not_or.mpr ⟨entered, fresh⟩)

private theorem freshWeight_le (data : PdelayReq) : freshWeight data.state ≤ weight data := by
  unfold weight
  split
  · cases data.state <;> decide
  · exact Nat.le_refl _

section

variable (settings : PdelaySettings)

theorem lastState_notEnabledProc (data : PdelayReq) :
    (notEnabledProc settings data).lastState = data.lastState := by
  unfold notEnabledProc
  split <;> rfl

theorem lastState_resetMultiResponses (data : PdelayReq) :
    (resetMultiResponses settings data).lastState = data.lastState := by
  unfold resetMultiResponses
  split <;> rfl

theorem lastState_resetProc (data : PdelayReq) :
    (resetProc settings data).lastState = data.lastState := by
  unfold resetProc
  dsimp only
  split
  · exact lastState_resetMultiResponses settings _
  · split
    · rfl
    · exact lastState_resetMultiResponses settings _

private theorem lastState_judge (previous : UInt64) (data : PdelayReq) :
    (judge settings previous data).lastState = data.lastState := by
  have fault : (detectedFault settings previous data).lastState = data.lastState := by
    unfold detectedFault
    split <;> rfl
  unfold judge
  dsimp only
  split
  · exact fault
  · split
    · rfl
    · split
      · rfl
      · exact fault

private theorem lastState_measure (port : PdelayPort) (data : PdelayReq) :
    (measure port data).lastState = data.lastState := by
  unfold measure updatePropDelay updateRateRatio
  split <;> split <;> rfl

theorem lastState_waitingForPdelayIntervalTimerProc (port : PdelayPort) (data : PdelayReq) :
    (waitingForPdelayIntervalTimerProc settings port data).lastState = data.lastState := by
  unfold waitingForPdelayIntervalTimerProc
  split
  · rfl
  · rw [lastState_judge, lastState_measure]

end

def Lowers (bound : Nat) (next : PdelayReq) : Prop :=
  next.lastState ≠ next.state → next.state ≠ .init ∧ freshWeight next.state < bound

section Lowers

variable (settings : PdelaySettings) (port : PdelayPort) (cts64 : UInt64) (data : PdelayReq)

theorem Lowers.stays (same : next.lastState = next.state) : Lowers bound next :=
  fun unstable => absurd same unstable

theorem Lowers.enters (state : PdelayReqState) (same : next.state = state) (entered : state ≠ .init)
    (less : freshWeight state < bound) : Lowers bound next := by
  subst same
  exact fun _ => ⟨entered, less⟩

private theorem lowers_notEnabled (last : data.lastState = .notEnabled) :
    Lowers 1 (moveTo (notEnabledCondition settings port data) data) := by
  rcases notEnabledCondition_cases settings port data with chosen | chosen | ⟨chosen, _⟩
  · rw [chosen]
    exact .stays last
  · rw [chosen]
    exact .enters .reaction rfl nofun (by decide)
  · rw [chosen]
    exact .enters .initialSendPdelayReq rfl nofun (by decide)

private theorem lowers_initialSendPdelayReq (last : data.lastState = .initialSendPdelayReq)
    (state : data.state = .initialSendPdelayReq) :
    Lowers 5 (initialSendPdelayReqCondition port cts64 data) := by
  rcases initialSendPdelayReqCondition_cases port cts64 data with
    chosen | ⟨chosen, _⟩ | chosen | ⟨chosen, _⟩
  · rw [chosen]
    exact .stays (last.trans state.symm)
  · rw [chosen]
    exact .enters .waitingForPdelayResp rfl nofun (by decide)
  · rw [chosen]
    exact .enters .initialSendPdelayReq rfl nofun (by decide)
  · rw [chosen]
    exact .enters .waitingForPdelayResp rfl nofun (by decide)

private theorem lowers_reset (last : data.lastState = .reset) :
    Lowers 1 (resetCondition settings port cts64 data) := by
  obtain ⟨_, chosen | chosen⟩ := resetCondition_cases settings port cts64 data
  · rw [chosen]
    exact .stays last
  · rw [chosen]
    exact .enters .sendPdelayReq rfl nofun (by decide)

private theorem lowers_sendPdelayReq (last : data.lastState = .sendPdelayReq)
    (state : data.state = .sendPdelayReq) : Lowers 5 (sendPdelayReqCondition port cts64 data) := by
  rcases sendPdelayReqCondition_cases port cts64 data with
    chosen | ⟨chosen, _⟩ | chosen | ⟨chosen, _⟩
  · rw [chosen]
    exact .stays (last.trans state.symm)
  · rw [chosen]
    exact .enters .waitingForPdelayResp rfl nofun (by decide)
  · rw [chosen]
    exact .enters .sendPdelayReq rfl nofun (by decide)
  · rw [chosen]
    exact .enters .waitingForPdelayResp rfl nofun (by decide)

theorem lowers_waitingForPdelayResp (last : data.lastState = .waitingForPdelayResp)
    (state : data.state = .waitingForPdelayResp) :
    Lowers 3 (waitingForPdelayRespCondition settings port cts64 data) := by
  rcases waitingForPdelayRespCondition_cases settings port cts64 data with
    chosen | chosen | chosen | ⟨chosen, _⟩
  · rw [chosen]
    exact .stays (last.trans state.symm)
  · rw [chosen]
    exact .stays (last.trans state.symm)
  · rw [chosen]
    exact .enters .reset rfl nofun (by decide)
  · rw [chosen]
    rcases respState_cases settings data with target | target | target
    · rw [target]
      exact .enters .reset rfl nofun (by decide)
    · rw [target]
      exact .stays last
    · rw [target]
      exact .enters .waitingForPdelayRespFollowUp rfl nofun (by decide)

theorem lowers_waitingForPdelayRespFollowUp (last : data.lastState = .waitingForPdelayRespFollowUp)
    (state : data.state = .waitingForPdelayRespFollowUp) :
    Lowers 2 (waitingForPdelayRespFollowUpCondition settings port cts64 data) := by
  rcases waitingForPdelayRespFollowUpCondition_cases settings port cts64 data with
    chosen | ⟨_, chosen⟩ | ⟨chosen, _⟩
  · rw [chosen]
    exact .stays (last.trans state.symm)
  · rw [chosen]
    exact .enters .reset rfl nofun (by decide)
  · rw [chosen]
    rcases respFupState_cases settings data with target | target | target
    · rw [target]
      exact .enters .reset rfl nofun (by decide)
    · rw [target]
      exact .stays last
    · rw [target]
      exact .enters .waitingForPdelayIntervalTimer rfl nofun (by decide)

private theorem lowers_waitingForPdelayIntervalTimer
    (last : data.lastState = .waitingForPdelayIntervalTimer) :
    Lowers 1 (moveTo (waitingForPdelayIntervalTimerCondition port cts64 data) data) := by
  unfold waitingForPdelayIntervalTimerCondition
  split
  · exact .enters .sendPdelayReq rfl nofun (by decide)
  · exact .stays last

end Lowers

theorem weight_lt_of_lowers (lowers : Lowers bound next) (enough : bound ≤ weight data)
    (unstable : next.lastState ≠ next.state) : weight next < weight data := by
  obtain ⟨entered, less⟩ := lowers unstable
  rw [weight_of_fresh next entered unstable]
  exact Nat.lt_of_lt_of_le less enough

theorem descends (settings : PdelaySettings) (port : PdelayPort) (cts64 : UInt64) :
    (machine settings port cts64).Descends weight := by
  intro data none unstable
  have least := freshWeight_le data
  simp only [Machine.switch, machine] at none unstable ⊢
  cases state : data.state
  all_goals
    rw [state] at least
    simp only [arm, state] at none unstable ⊢
  case init =>
    have top : 5 ≤ weight data := by simp [weight, state]
    exact weight_lt_of_lowers (.enters .notEnabled rfl (by simp) (by decide)) top unstable
  case reaction => exact absurd rfl unstable
  case notEnabled =>
    refine weight_lt_of_lowers (lowers_notEnabled settings port _ ?_) least unstable
    split
    · exact lastState_notEnabledProc settings _
    · rfl
  case initialSendPdelayReq =>
    by_cases same : data.lastState = .initialSendPdelayReq
    · have top : 5 ≤ weight data := by simp [weight, state, same]
      simp only [same, bne_self_eq_false, Bool.false_eq_true, if_false] at unstable ⊢
      exact weight_lt_of_lowers (lowers_initialSendPdelayReq port cts64 _ rfl rfl) top unstable
    · simp [same] at none
  case reset =>
    refine weight_lt_of_lowers (lowers_reset settings port cts64 _ ?_) least unstable
    split
    · exact lastState_resetProc settings _
    · rfl
  case sendPdelayReq =>
    by_cases same : data.lastState = .sendPdelayReq
    · have top : 5 ≤ weight data := by simp [weight, state, same]
      simp only [same, bne_self_eq_false, Bool.false_eq_true, if_false] at unstable ⊢
      exact weight_lt_of_lowers (lowers_sendPdelayReq port cts64 _ rfl rfl) top unstable
    · simp [same] at none
  case waitingForPdelayResp =>
    refine weight_lt_of_lowers (lowers_waitingForPdelayResp settings port cts64 _ ?_ ?_) least
      unstable
    · split <;> rfl
    · split <;> rfl
  case waitingForPdelayRespFollowUp =>
    refine weight_lt_of_lowers (lowers_waitingForPdelayRespFollowUp settings port cts64 _ ?_ ?_)
      least unstable
    · split <;> rfl
    · split <;> rfl
  case waitingForPdelayIntervalTimer =>
    refine weight_lt_of_lowers (lowers_waitingForPdelayIntervalTimer port cts64 _ ?_) least unstable
    split
    · exact lastState_waitingForPdelayIntervalTimerProc settings port _
    · rfl

end Total

end PdelayReq

open PdelayReq in
theorem mdPdelayReqSm_total (settings : PdelaySettings) (port : PdelayPort) (cts64 : UInt64)
    (data : PdelayReq) : ∃ next result, mdPdelayReqSm settings port cts64 data =
      some (next, result) := by
  refine (descends settings port cts64).total ?_
  unfold weight
  split
  · decide
  · generalize (moveTo (allstateCondition port data) data).state = state
    cases state <;> decide

structure Measurement where
  detectedFaults : UInt16
  neighborRateRatioValid : Bool
  prevT1ts64 : UInt64
  prevT2ts64 : UInt64
  neighborRateRatio : ℚ
  neighborPropDelay : UInt64
  asCapableAcrossDomains : Bool

namespace PdelayReq

def measurement (data : PdelayReq) : Measurement where
  detectedFaults := data.detectedFaults
  neighborRateRatioValid := data.neighborRateRatioValid
  prevT1ts64 := data.prevT1ts64
  prevT2ts64 := data.prevT2ts64
  neighborRateRatio := data.neighborRateRatio
  neighborPropDelay := data.neighborPropDelay
  asCapableAcrossDomains := data.asCapableAcrossDomains

section Judge

variable (settings : PdelaySettings) (port : PdelayPort) (previous : UInt64) (data : PdelayReq)

private theorem detectedFault_cases : data.detectedFaults ≤ settings.allowedFaults ∧
        detectedFault settings previous data =
          { data with detectedFaults := data.detectedFaults + 1, neighborPropDelay := previous } ∨
      detectedFault settings previous data = noAsCapable data := by
  unfold detectedFault
  split
  · rename_i allowed
    exact Or.inl ⟨allowed, rfl⟩
  · exact Or.inr rfl

private theorem judge_cases : judge settings previous data = detectedFault settings previous data ∨
      judge settings previous data =
        { data with detectedFaults := 0, asCapableAcrossDomains := true } ∧
        data.neighborPropDelay ≤ settings.neighborPropDelayThresh ∧
        data.neighborRateRatioValid = true ∨ judge settings previous data = noAsCapable data := by
  unfold judge
  dsimp only
  split
  · exact Or.inl rfl
  · split
    · rename_i good
      simp only [Bool.and_eq_true, decide_eq_true_eq] at good
      exact Or.inr (Or.inl ⟨rfl, good.1.1, good.2⟩)
    · split
      · exact Or.inr (Or.inr rfl)
      · exact Or.inl rfl

theorem judge_verdicts : judge settings previous data =
        { data with detectedFaults := 0, asCapableAcrossDomains := true } ∧
        data.neighborPropDelay ≤ settings.neighborPropDelayThresh ∧
        data.neighborRateRatioValid = true ∨ judge settings previous data =
        { data with detectedFaults := data.detectedFaults + 1, neighborPropDelay := previous } ∧
        data.detectedFaults ≤ settings.allowedFaults ∨
      judge settings previous data = noAsCapable data := by
  rcases judge_cases settings previous data with fault | good | bad
  · rcases detectedFault_cases settings previous data with ⟨allowed, tolerated⟩ | bad
    · exact Or.inr (Or.inl ⟨fault.trans tolerated, allowed⟩)
    · exact Or.inr (Or.inr (fault.trans bad))
  · exact Or.inl good
  · exact Or.inr (Or.inr bad)

theorem asCapable_measure : (measure port data).asCapableAcrossDomains = data.asCapableAcrossDomains := by
  unfold measure updatePropDelay updateRateRatio
  split <;> split <;> rfl

theorem detectedFaults_measure : (measure port data).detectedFaults = data.detectedFaults := by
  unfold measure updatePropDelay updateRateRatio
  split <;> split <;> rfl

theorem neighborPropDelay_measure (computed : port.computeNeighborPropDelay = true) :
    (measure port data).neighborPropDelay = clip (measure port data).rawDelay := by
  simp [measure, updatePropDelay, computed, rawDelay]

end Judge

section Reset

variable {settings : PdelaySettings}

theorem asCapable_resetMultiResponses (data : PdelayReq)
    (capable : (resetMultiResponses settings data).asCapableAcrossDomains = true) :
    resetMultiResponses settings data = data := by
  unfold resetMultiResponses at capable ⊢
  split at capable
  · cases capable
  · rename_i kept
    exact if_neg kept

theorem asCapable_resetProc (data : PdelayReq)
    (capable : (resetProc settings data).asCapableAcrossDomains = true) :
    data.asCapableAcrossDomains = true ∧
      (resetProc settings data).detectedFaults = data.detectedFaults := by
  unfold resetProc at capable ⊢
  dsimp only at capable ⊢
  split at capable
  · rename_i few
    rw [asCapable_resetMultiResponses _ capable] at capable
    rw [if_pos few]
    exact ⟨capable, by unfold resetMultiResponses; split <;> rfl⟩
  · split at capable
    · rename_i never
      simp only [Bool.not_eq_true'] at never
      exact nomatch never.symm.trans capable
    · rw [asCapable_resetMultiResponses _ capable] at capable
      cases capable

/-- `reset_proc` at most starts the rate ratio again. -/
theorem rates_resetProc (settings : PdelaySettings) (data : PdelayReq) :
    ((resetProc settings data).neighborRateRatio = data.neighborRateRatio ∨
        (resetProc settings data).neighborRateRatio = 1) ∧
      ((resetProc settings data).neighborRateRatioValid = true → data.neighborRateRatioValid = true) ∧
      (resetProc settings data).prevT1ts64 = data.prevT1ts64 ∧
      (resetProc settings data).prevT2ts64 = data.prevT2ts64 := by
  have multi (data : PdelayReq) :
      resetMultiResponses settings data = giveUp data ∨ resetMultiResponses settings data = data := by
    unfold resetMultiResponses
    split
    · exact Or.inl rfl
    · exact Or.inr rfl
  unfold resetProc
  dsimp only
  split
  · rcases multi { data with rcvdPdelayResp := false, lostResponses := data.lostResponses + 1 } with
      given | kept
    · rw [given]
      exact ⟨Or.inr rfl, nofun, rfl, rfl⟩
    · rw [kept]
      exact ⟨Or.inl rfl, id, rfl, rfl⟩
  · split
    · exact ⟨Or.inl rfl, id, rfl, rfl⟩
    · rcases multi (giveUp { data with rcvdPdelayResp := false }) with given | kept
      · rw [given]
        exact ⟨Or.inr rfl, nofun, rfl, rfl⟩
      · rw [kept]
        exact ⟨Or.inr rfl, nofun, rfl, rfl⟩

end Reset

section Measurement

variable (settings : PdelaySettings) (port : PdelayPort) (cts64 : UInt64)

def entryProc (data : PdelayReq) : PdelayReq :=
  match data.state with
  | .notEnabled => notEnabledProc settings data
  | .initialSendPdelayReq => initialSendPdelayReqProc port cts64 data
  | .reset => resetProc settings data
  | .waitingForPdelayIntervalTimer => waitingForPdelayIntervalTimerProc settings port data
  | _ => data

def Framed (view : PdelayReq → γ) : Prop :=
  ∀ data next : PdelayReq, next = { data with
    state := next.state
    lastState := next.lastState
    pdelayIntervalTimer := next.pdelayIntervalTimer
    rcvdPdelayResp := next.rcvdPdelayResp
    rcvdPdelayRespFollowUp := next.rcvdPdelayRespFollowUp
    recPdelayResp := next.recPdelayResp
    recPdelayRespFup := next.recPdelayRespFup
    txPdelayReq := next.txPdelayReq
    rcvdMDTimestampReceive := next.rcvdMDTimestampReceive
    pdelayReqSequenceId := next.pdelayReqSequenceId
    multiResponses := next.multiResponses
    t1ts64 := next.t1ts64
    t2ts64 := next.t2ts64
    t3ts64 := next.t3ts64
    t4ts64 := next.t4ts64
    mockTxts64 := next.mockTxts64
    sent := next.sent } → view next = view data

section Framed

variable {view : PdelayReq → γ} (framed : Framed view)

include framed

section

variable (data : PdelayReq)

private theorem view_sendPdelayReqProc : view (sendPdelayReqProc port cts64 data) = view data := by
  unfold sendPdelayReqProc transmit
  cases port.send <;> exact framed data _ rfl

private theorem view_initialSendPdelayReqCondition :
    view (initialSendPdelayReqCondition port cts64 data) = view data := by
  rcases initialSendPdelayReqCondition_cases port cts64 data with
    chosen | ⟨chosen, _⟩ | chosen | ⟨chosen, _⟩
  all_goals exact (congrArg view chosen).trans (framed data _ rfl)

private theorem view_resetCondition : view (resetCondition settings port cts64 data) = view data := by
  obtain ⟨_, chosen | chosen⟩ := resetCondition_cases settings port cts64 data
  all_goals exact (congrArg view chosen).trans (framed data _ rfl)

private theorem view_sendPdelayReqCondition :
    view (sendPdelayReqCondition port cts64 data) = view data := by
  rcases sendPdelayReqCondition_cases port cts64 data with
    chosen | ⟨chosen, _⟩ | chosen | ⟨chosen, _⟩
  all_goals exact (congrArg view chosen).trans (framed data _ rfl)

private theorem view_waitingForPdelayRespCondition :
    view (waitingForPdelayRespCondition settings port cts64 data) = view data := by
  rcases waitingForPdelayRespCondition_cases settings port cts64 data with
    chosen | chosen | chosen | ⟨chosen, _⟩
  all_goals exact (congrArg view chosen).trans (framed data _ rfl)

private theorem view_waitingForPdelayRespFollowUpCondition :
    view (waitingForPdelayRespFollowUpCondition settings port cts64 data) = view data := by
  rcases waitingForPdelayRespFollowUpCondition_cases settings port cts64 data with
    chosen | ⟨_, chosen⟩ | ⟨chosen, _⟩
  all_goals exact (congrArg view chosen).trans (framed data _ rfl)

end

theorem view_arm (stateChange : Bool) (data : PdelayReq) :
    view (arm settings port cts64 stateChange data).1 =
      view (if stateChange then entryProc settings port cts64 data else data) := by
  cases state : data.state
  all_goals simp only [arm, entryProc, state]
  case init =>
    rw [ite_self]
    exact framed data _ rfl
  case reaction => rw [ite_self]
  case notEnabled => exact framed _ _ rfl
  case waitingForPdelayIntervalTimer => exact framed _ _ rfl
  case initialSendPdelayReq =>
    cases stateChange with
    | true => rfl
    | false => exact view_initialSendPdelayReqCondition port cts64 framed data
  case reset => exact view_resetCondition settings port cts64 framed _
  case sendPdelayReq =>
    cases stateChange with
    | true => exact view_sendPdelayReqProc port cts64 framed data
    | false => exact view_sendPdelayReqCondition port cts64 framed data
  case waitingForPdelayResp =>
    rw [view_waitingForPdelayRespCondition settings port cts64 framed]
    split
    · exact framed data _ rfl
    · rfl
  case waitingForPdelayRespFollowUp =>
    rw [view_waitingForPdelayRespFollowUpCondition settings port cts64 framed]
    split
    · exact framed data _ rfl
    · rfl

end Framed

theorem framed_measurement : Framed measurement :=
  fun _ _ same => (congrArg measurement same).trans rfl

private theorem measurement_arm (stateChange : Bool) (data : PdelayReq) :
    (arm settings port cts64 stateChange data).1.measurement =
      (if stateChange then entryProc settings port cts64 data else data).measurement :=
  view_arm settings port cts64 framed_measurement stateChange data

end Measurement

end PdelayReq

inductive PdelayStep where
  | tick
  /-- `md_pdelay_req_sm_txts`. -/
  | txts (seqid : UInt16) (ts64 : UInt64)
  /-- `md_pdelay_req_sm_recv_resp`. -/
  | recvResp (message : Memory) (ts64 : UInt64)
  /-- `md_pdelay_req_sm_recv_respfup`. -/
  | recvRespFup (message : Memory)
  /-- `gptpnet_cb_devdown`. -/
  | linkDown

structure PdelayEvent where
  port : PdelayPort
  cts64 : UInt64
  step : PdelayStep

namespace PdelayReq

def deliver (settings : PdelaySettings) (data : PdelayReq) : PdelayStep → Option PdelayReq
  | .tick => some data
  | .txts seqid ts64 => data.storeTxts settings seqid ts64
  | .recvResp message ts64 => some (data.storeResp settings message ts64)
  | .recvRespFup message => some (data.storeRespFup message)
  | .linkDown => none

def undelivered (data : PdelayReq) : PdelayStep → PdelayReq
  | .linkDown => { data with asCapableAcrossDomains := false }
  | _ => data

end PdelayReq

theorem PdelayReq.view_deliver {view : PdelayReq → γ} (framed : Framed view)
    {settings : PdelaySettings} {data delivered : PdelayReq} {step : PdelayStep}
    (found : data.deliver settings step = some delivered) : view delivered = view data := by
  cases step with
  | tick =>
    cases found
    rfl
  | txts seqid ts64 =>
    simp only [deliver, storeTxts] at found
    split at found
    · cases found
    · split at found
      · cases found
      · cases found
        exact framed data _ rfl
  | recvResp message ts64 =>
    cases found
    exact framed data _ rfl
  | recvRespFup message =>
    cases found
    exact framed data _ rfl
  | linkDown => cases found

open PdelayReq in
def pdelaySystem (settings : PdelaySettings)
    (observe : PdelayPort → UInt64 → Bool → PdelayReq → γ → γ) (record : γ) :
    System (PdelayReq × γ) PdelayEvent where
  start := (init, record)
  step pair event :=
    match pair.1.deliver settings event.step with
    | none => some (pair.1.undelivered event.step, pair.2)
    | some data =>
      (((machine settings event.port event.cts64).observed (observe event.port event.cts64)).run 8
        (moveTo (allstateCondition event.port data) data, pair.2)).map Prod.fst

section Invariant

variable {settings : PdelaySettings} {observe : PdelayPort → UInt64 → Bool → PdelayReq → γ → γ}

open PdelayReq in
def PassesPermitted (settings : PdelaySettings)
    (observe : PdelayPort → UInt64 → Bool → PdelayReq → γ → γ)
    (permitted : PdelayEvent → PdelayReq × γ → Prop) (pair : PdelayReq × γ) (event : PdelayEvent) :
    Prop :=
  ∀ data, pair.1.deliver settings event.step = some data →
    ∀ pass ∈ ((machine settings event.port event.cts64).observed
        (observe event.port event.cts64)).trail 8
        (moveTo (allstateCondition event.port data) data, pair.2), permitted event pass

instance {permitted : PdelayEvent → PdelayReq × γ → Prop}
    [∀ event pass, Decidable (permitted event pass)] {pair : PdelayReq × γ} {event : PdelayEvent} :
    Decidable (PassesPermitted settings observe permitted pair event) :=
  inferInstanceAs (Decidable (∀ data ∈ pair.1.deliver settings event.step, ∀ pass ∈ _, _))

open PdelayReq in
theorem pdelaySystem_invariant (holds : Measurement → γ → Prop)
    (start : holds init.measurement record)
    (linkDown : ∀ (data : PdelayReq) (record : γ), holds data.measurement record →
      holds (data.undelivered .linkDown).measurement record)
    (entered : ∀ event data record, permitted event (data, record) → data.lastState ≠ data.state →
      holds data.measurement record → holds (entryProc settings event.port event.cts64
          { data with lastState := data.state }).measurement
        (observe event.port event.cts64 true { data with lastState := data.state } record))
    (stayed : ∀ port cts64 data record, observe port cts64 false data record = record)
    (reachable : (pdelaySystem settings observe record).Reachable
      (PassesPermitted settings observe permitted) pair) : holds pair.1.measurement pair.2 := by
  refine reachable.invariant (fun pair => holds pair.1.measurement pair.2) start ?_
  rintro ⟨data, record⟩ event next kept allowed taken
  simp only [pdelaySystem] at taken
  split at taken
  · rw [← Option.some.inj taken]
    cases step : event.step with
    | linkDown => exact linkDown data record kept
    | tick | txts | recvResp | recvRespFup => exact kept
  · rename_i delivered found
    obtain ⟨⟨final, result⟩, finished, rfl⟩ := Option.map_eq_some_iff.mp taken
    refine Machine.run_preserves_trail _ (fun pair => holds pair.1.measurement pair.2)
      (permitted event) ?_ (allowed delivered found) ?_ finished
    · rintro ⟨data, record⟩ fine valid
      simp only [Machine.switch, Machine.observed, machine, measurement_arm]
      by_cases same : data.lastState = data.state
      · simp only [same, bne_self_eq_false, stayed, Bool.false_eq_true, if_false]
        exact valid
      · simp only [bne_iff_ne.mpr same, if_true]
        exact entered event data record fine same valid
    · have unchanged : delivered.measurement = data.measurement :=
        PdelayReq.view_deliver PdelayReq.framed_measurement found
      exact unchanged ▸ kept

end Invariant

def measuringSettings : PdelaySettings where
  thisClock := ClockIdentity.fill 1
  thisPort := 1
  conformToAvnu := false
  neighborPropDelay := 0
  allowedLostResponses := 9
  allowedFaults := 9
  neighborPropDelayThresh := 800
  neighborPropDelayMinLimit := 0
  egressLatency := 0
  ingressLatency := 0

def measuringPort : PdelayPort where
  BEGIN := false
  portOper := true
  portEnabled0 := true
  asymmetryMeasurementMode := false
  computeNeighborRateRatio := true
  computeNeighborPropDelay := true
  currentLogPdelayReqInterval := 0
  pdelayReqInterval := 1000000000
  txtsLostTime := 100000000
  random := 7
  getts64 := 0
  send := .sent

def peerMessage (sequenceId timestamp : Nat) : Memory :=
  ((((((Memory.zero.store 0 1 0x10).store 30 2 sequenceId).store 20 8 0x0202020202020202).store
    28 2 1).store 40 4 (timestamp % ubSecNs)).store 36 4 (timestamp / ubSecNs)).store
    44 8 0x0101010101010101 |>.store 52 2 1

/-- The events of an exchange with the given sequenceId: it starts at `start`, where the
clock of the peer is the same, and each message takes `delay` nanoseconds. -/
def exchangeEvents (sequenceId start delay : Nat) : List PdelayEvent :=
  [ .mk measuringPort (UInt64.ofNat start) .tick,
    .mk measuringPort (UInt64.ofNat start)
      (.txts (UInt16.ofNat sequenceId) (UInt64.ofNat start)),
    .mk measuringPort (UInt64.ofNat start)
      (.recvResp (peerMessage sequenceId (start + delay)) (UInt64.ofNat (start + 2 * delay))),
    .mk measuringPort (UInt64.ofNat start) (.recvRespFup (peerMessage sequenceId (start + delay))) ]

end EnetTsn.Pdelay
