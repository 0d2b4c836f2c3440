import EnetTsn.Pdelay.PdelayRuns

/-!
What `asCapableAcrossDomains` says of the exchanges measured so far. A computed delay
that is out of range is clipped to 0; of such exchanges nothing is said here.
-/

namespace EnetTsn.Pdelay

open EnetTsn.Gptp EnetTsn.Library

/-- An exchange from which a delay was computed: the delay before it is clipped, and the
measurement before and after the exchange. -/
structure Exchange where
  rawDelay : Int64
  before : Measurement
  after : Measurement

def PdelayReq.exchange (settings : PdelaySettings) (port : PdelayPort) (data : PdelayReq) :
    Exchange where
  rawDelay := (data.measure port).rawDelay
  before := data.measurement
  after := (data.waitingForPdelayIntervalTimerProc settings port).measurement

def recordExchange (settings : PdelaySettings) (port : PdelayPort) (_ : UInt64) (stateChange : Bool)
    (data : PdelayReq) (exchanges : List Exchange) : List Exchange :=
  if stateChange && data.state == .waitingForPdelayIntervalTimer && !port.asymmetryMeasurementMode then
    exchanges ++ [data.exchange settings port]
  else exchanges

namespace Exchange

variable (settings : PdelaySettings) (exchange : Exchange)

def OutOfRange : Prop := exchange.rawDelay < 0 ∨ computedPropTimeTooBig < exchange.rawDelay

def WithinThreshold : Prop :=
  0 ≤ exchange.rawDelay.toInt ∧
    exchange.rawDelay.toInt ≤ settings.neighborPropDelayThresh.toNat

structure Tolerated : Prop where
  capable : exchange.before.asCapableAcrossDomains = true
  allowed : exchange.before.detectedFaults ≤ settings.allowedFaults
  counted : exchange.after.detectedFaults = exchange.before.detectedFaults + 1

def Vouching : Prop := exchange.OutOfRange ∨ exchange.WithinThreshold settings

/-- With a delay above the threshold an exchange makes no port capable, and it counts
as a fault unless it ends the capability. -/
structure Blamed : Prop where
  notSet : exchange.after.asCapableAcrossDomains = true →
    exchange.before.asCapableAcrossDomains = true
  notCleared : exchange.after.detectedFaults = exchange.before.detectedFaults + 1 ∨
    exchange.after.asCapableAcrossDomains = false

end Exchange

/-- The exchanges that keep a port capable: one that vouches for it and then only
tolerated faults, which are counted. -/
structure Vouched (settings : PdelaySettings) (exchanges : List Exchange) (faults : UInt16) where
  earlier : List Exchange
  latest : Exchange
  tolerated : List Exchange
  shown : exchanges = earlier ++ latest :: tolerated
  vouching : latest.Vouching settings
  faulty : ∀ exchange ∈ tolerated, exchange.Tolerated settings
  counted : faults = UInt16.ofNat tolerated.length
  bounded : settings.allowedFaults.toNat < 65535 →
    tolerated.length ≤ settings.allowedFaults.toNat + 1

structure Accounted (settings : PdelaySettings) (measurement : Measurement)
    (exchanges : List Exchange) : Prop where
  vouched : measurement.asCapableAcrossDomains = true →
    Nonempty (Vouched settings exchanges measurement.detectedFaults)
  blamed : ∀ exchange ∈ exchanges, ¬ exchange.OutOfRange →
    settings.neighborPropDelayThresh.toNat < exchange.rawDelay.toInt → exchange.Blamed

section Clip

private theorem toNat_toUInt64_of_nonneg (value : Int64) (nonneg : 0 ≤ value.toInt) :
    (value.toUInt64.toNat : ℤ) = value.toInt := by
  have signed : value.toInt = value.toBitVec.toInt := rfl
  have unsigned : value.toUInt64.toNat = value.toBitVec.toNat := rfl
  rw [signed, BitVec.toInt_eq_toNat_cond] at nonneg ⊢
  rw [unsigned]
  split at nonneg
  · rename_i small
    rw [if_pos small]
  · omega

variable {settings : PdelaySettings} {exchange : Exchange}

theorem Exchange.vouching_iff :
    (¬ exchange.OutOfRange → clip exchange.rawDelay ≤ settings.neighborPropDelayThresh) ↔
      exchange.Vouching settings := by
  unfold Exchange.Vouching Exchange.WithinThreshold
  by_cases out : exchange.OutOfRange
  · exact ⟨fun _ => Or.inl out, fun _ inside => absurd out inside⟩
  · have same : clip exchange.rawDelay = exchange.rawDelay.toUInt64 := if_neg out
    have nonneg : 0 ≤ exchange.rawDelay.toInt := by
      have inside := (not_or.mp out).1
      simpa [Int64.lt_iff_toInt_lt] using inside
    rw [same]
    simp only [out, false_or, not_false_eq_true, true_implies, UInt64.le_iff_toNat_le]
    have value : (exchange.rawDelay.toUInt64.toNat : ℤ) = exchange.rawDelay.toInt :=
      toNat_toUInt64_of_nonneg _ nonneg
    omega

end Clip

section Runs

variable {settings : PdelaySettings}

private theorem recordExchange_measured (state : data.state = .waitingForPdelayIntervalTimer)
    (symmetric : port.asymmetryMeasurementMode = false) (cts64 : UInt64)
    (exchanges : List Exchange) : recordExchange settings port cts64 true data exchanges =
      exchanges ++ [data.exchange settings port] := by
  simp [recordExchange, state, symmetric]

private theorem recordExchange_unmeasured
    (other : ¬ (data.state = .waitingForPdelayIntervalTimer ∧ port.asymmetryMeasurementMode = false))
    (cts64 : UInt64) (exchanges : List Exchange) :
    recordExchange settings port cts64 true data exchanges = exchanges := by
  refine if_neg fun measured => other ?_
  simpa using measured

open PdelayReq in
theorem asCapable_entryProc (measured : settings.neighborPropDelay = 0)
    (other : ¬ (data.state = .waitingForPdelayIntervalTimer ∧ port.asymmetryMeasurementMode = false))
    (capable : (entryProc settings port cts64 data).asCapableAcrossDomains = true) :
    data.asCapableAcrossDomains = true ∧
      (entryProc settings port cts64 data).detectedFaults = data.detectedFaults := by
  cases state : data.state
  all_goals simp only [entryProc, state] at capable ⊢
  case notEnabled =>
    have same : notEnabledProc settings data = data := if_neg (not_not.mpr measured)
    rw [same] at capable ⊢
    exact ⟨capable, rfl⟩
  case initialSendPdelayReq =>
    unfold initialSendPdelayReqProc transmit at capable ⊢
    cases sent : port.send with
    | failed =>
      simp only [sent] at capable
      exact ⟨capable, rfl⟩
    | skipped | sent => simp [sent] at capable
  case reset => exact asCapable_resetProc data capable
  case waitingForPdelayIntervalTimer =>
    have asymmetric : port.asymmetryMeasurementMode = true := by
      simpa [state] using other
    simp only [waitingForPdelayIntervalTimerProc, asymmetric, if_true] at capable ⊢
    exact ⟨capable, rfl⟩
  all_goals exact ⟨capable, trivial⟩

theorem Accounted.exchange (valid : Accounted settings measurement exchanges) (exchange : Exchange)
    (vouched : exchange.after.asCapableAcrossDomains = true →
      Nonempty (Vouched settings (exchanges ++ [exchange]) exchange.after.detectedFaults))
    (blamed : ¬ exchange.OutOfRange →
      settings.neighborPropDelayThresh.toNat < exchange.rawDelay.toInt → exchange.Blamed) :
    Accounted settings exchange.after (exchanges ++ [exchange]) where
  vouched := vouched
  blamed latest member := by
    rcases List.mem_append.mp member with before | new
    · exact valid.blamed latest before
    · rw [List.mem_singleton.mp new]
      exact blamed

private theorem Vouched.renew (vouching : exchange.Vouching settings) (exchanges : List Exchange) :
    Nonempty (Vouched settings (exchanges ++ [exchange]) 0) := by
  refine ⟨.mk exchanges exchange [] rfl vouching ?_ rfl ?_⟩
  · exact fun _ impossible => absurd impossible List.not_mem_nil
  · exact fun _ => Nat.zero_le _

theorem Vouched.tolerate (vouched : Vouched settings exchanges exchange.before.detectedFaults)
    (tolerated : exchange.Tolerated settings) :
    Nonempty (Vouched settings (exchanges ++ [exchange]) exchange.after.detectedFaults) := by
  refine ⟨.mk vouched.earlier vouched.latest (vouched.tolerated ++ [exchange]) ?_ vouched.vouching
    ?_ ?_ ?_⟩
  · conv_lhs => rw [vouched.shown]
    simp
  · intro fault member
    rcases List.mem_append.mp member with before | new
    · exact vouched.faulty fault before
    · rw [List.mem_singleton.mp new]
      exact tolerated
  · have counted := vouched.counted
    rw [tolerated.counted, List.length_append, UInt16.ofNat_add]
    exact congrArg (· + 1) counted
  · intro small
    have few := vouched.bounded small
    have allowed := UInt16.le_iff_toNat_le.mp tolerated.allowed
    have length : exchange.before.detectedFaults.toNat = vouched.tolerated.length := by
      rw [congrArg UInt16.toNat vouched.counted]
      exact Nat.mod_eq_of_lt (by omega)
    rw [List.length_append, List.length_singleton]
    omega

open PdelayReq in
theorem exchange_verdicts (data : PdelayReq) (computed : port.computeNeighborPropDelay = true)
    (symmetric : port.asymmetryMeasurementMode = false) :
    (data.exchange settings port).after.detectedFaults = 0 ∧
        (data.exchange settings port).Vouching settings ∨
      (data.exchange settings port).after.asCapableAcrossDomains =
          (data.exchange settings port).before.asCapableAcrossDomains ∧
        (data.exchange settings port).before.detectedFaults ≤ settings.allowedFaults ∧
        (data.exchange settings port).after.detectedFaults =
          (data.exchange settings port).before.detectedFaults + 1 ∨
      (data.exchange settings port).after.asCapableAcrossDomains = false := by
  have delay := neighborPropDelay_measure port data computed
  have capable := asCapable_measure port data
  have faults := detectedFaults_measure port data
  have judged : (data.exchange settings port).after =
      (judge settings data.neighborPropDelay (measure port data)).measurement := by
    simp [exchange, waitingForPdelayIntervalTimerProc, symmetric]
  rw [judged]
  rcases judge_verdicts settings data.neighborPropDelay (measure port data) with
    ⟨verdict, below, _⟩ | ⟨verdict, allowed⟩ | verdict
  · rw [verdict]
    exact Or.inl ⟨rfl, Exchange.vouching_iff.mp fun _ => delay ▸ below⟩
  · rw [verdict]
    have before : data.detectedFaults ≤ settings.allowedFaults := faults ▸ allowed
    exact Or.inr (Or.inl ⟨capable, before, congrArg (· + 1) faults⟩)
  · rw [verdict]
    exact Or.inr (Or.inr rfl)

theorem Accounted.judged {data : PdelayReq} (computed : port.computeNeighborPropDelay = true)
    (symmetric : port.asymmetryMeasurementMode = false)
    (valid : Accounted settings data.measurement exchanges) :
    Accounted settings (data.exchange settings port).after
      (exchanges ++ [data.exchange settings port]) := by
  refine valid.exchange _ ?_ ?_
  · intro after
    rcases exchange_verdicts data computed symmetric with
      ⟨cleared, vouching⟩ | ⟨kept, allowed, counted⟩ | ended
    · rw [cleared]
      exact Vouched.renew vouching exchanges
    · have before := kept.symm.trans after
      obtain ⟨vouched⟩ := valid.vouched before
      exact vouched.tolerate ⟨before, allowed, counted⟩
    · exact nomatch ended.symm.trans after
  · intro inside above
    rcases exchange_verdicts data computed symmetric with
      ⟨_, out | within⟩ | ⟨kept, _, counted⟩ | ended
    · exact absurd out inside
    · exact absurd within.2 (not_le.mpr above)
    · exact ⟨fun after => kept.symm.trans after, Or.inl counted⟩
    · exact ⟨fun after => (nomatch ended.symm.trans after), Or.inr ended⟩

open PdelayReq in
theorem Accounted.entered (measured : settings.neighborPropDelay = 0) {event : PdelayEvent}
    (computed : event.port.computeNeighborPropDelay = true)
    (valid : Accounted settings data.measurement exchanges) :
    Accounted settings (entryProc settings event.port event.cts64 data).measurement
      (recordExchange settings event.port event.cts64 true data exchanges) := by
  by_cases exchanged : data.state = .waitingForPdelayIntervalTimer ∧
      event.port.asymmetryMeasurementMode = false
  · obtain ⟨state, symmetric⟩ := exchanged
    rw [recordExchange_measured state symmetric]
    have entry : entryProc settings event.port event.cts64 data =
        waitingForPdelayIntervalTimerProc settings event.port data := by
      simp [entryProc, state]
    rw [entry]
    exact valid.judged computed symmetric
  · rw [recordExchange_unmeasured exchanged]
    refine ⟨fun capable => ?_, valid.blamed⟩
    obtain ⟨before, faults⟩ := asCapable_entryProc measured exchanged capable
    have same : (entryProc settings event.port event.cts64 data).measurement.detectedFaults =
        data.measurement.detectedFaults := faults
    rw [same]
    exact valid.vouched before

/-- With a measured link delay a port is capable only after an exchange that is clipped
or in the range, since when every exchange was a tolerated fault; and an exchange above
the threshold makes no port capable and is counted as a fault. -/
theorem asCapableAcrossDomains_accounted (measured : settings.neighborPropDelay = 0)
    (reachable : (pdelaySystem settings (recordExchange settings) []).Reachable
      (fun _ event => event.port.computeNeighborPropDelay = true) pair) :
    Accounted settings pair.1.measurement pair.2 := by
  have permitted : (pdelaySystem settings (recordExchange settings) []).Reachable
      (PassesPermitted settings (recordExchange settings)
        fun event _ => event.port.computeNeighborPropDelay = true) pair :=
    reachable.mono fun _ _ computed _ _ _ _ => computed
  refine pdelaySystem_invariant (Accounted settings) ?_ ?_ ?_ ?_ permitted
  · exact ⟨nofun, fun _ impossible => absurd impossible List.not_mem_nil⟩
  · exact fun data exchanges valid => ⟨nofun, valid.blamed⟩
  · intro event data exchanges computed _ valid
    have same : Accounted settings ({ data with lastState := data.state }).measurement exchanges :=
      valid
    exact same.entered measured computed
  · exact fun _ _ _ _ => rfl

end Runs

def lengthenedLink : List PdelayEvent :=
  exchangeEvents 7 10000000000 500 ++ exchangeEvents 8 11000000000 500 ++
    exchangeEvents 9 12000000000 900

def exchangedRun (events : List PdelayEvent) : Option (PdelayReq × List Exchange) :=
  let system := (pdelaySystem measuringSettings (recordExchange measuringSettings) []).restrict
    fun _ event => event.port.computeNeighborPropDelay
  system.run system.start events

theorem exchangedRun_reachable (finished : exchangedRun events = some pair) :
    (pdelaySystem measuringSettings (recordExchange measuringSettings) []).Reachable
      (fun _ event => event.port.computeNeighborPropDelay = true) pair :=
  (System.reachable_of_run finished).of_restrict fun _ _ passed => passed

/-- The port is still capable after an exchange above the threshold. -/
theorem asCapableAcrossDomains_tolerated : ¬ ∀ settings pair, settings.neighborPropDelay = 0 →
      (pdelaySystem settings (recordExchange settings) []).Reachable
        (fun _ event => event.port.computeNeighborPropDelay = true) pair →
      pair.1.asCapableAcrossDomains = true →
      ∃ exchange, pair.2.getLast? = some exchange ∧ exchange.WithinThreshold settings := by
  intro claim
  have ran : (exchangedRun lengthenedLink).map
      (fun pair => (pair.1.asCapableAcrossDomains, pair.2.getLast?.map Exchange.rawDelay)) =
      some (true, some 900) := by decide +kernel
  obtain ⟨pair, finished, shown⟩ := Option.map_eq_some_iff.mp ran
  obtain ⟨capable, last⟩ := Prod.mk.inj shown
  obtain ⟨exchange, found, _, within⟩ :=
    claim measuringSettings pair rfl (exchangedRun_reachable finished) capable
  rw [found] at last
  rw [Option.some.inj last] at within
  exact absurd within (by decide)

theorem asCapableAcrossDomains_accounted_lengthened : ∃ pair : PdelayReq × List Exchange,
    pair.1.asCapableAcrossDomains = true ∧
      Accounted measuringSettings pair.1.measurement pair.2 := by
  have ran : (exchangedRun lengthenedLink).map (fun pair => pair.1.asCapableAcrossDomains) =
      some true := by decide +kernel
  obtain ⟨pair, finished, capable⟩ := Option.map_eq_some_iff.mp ran
  exact ⟨pair, capable, asCapableAcrossDomains_accounted rfl (exchangedRun_reachable finished)⟩

end EnetTsn.Pdelay
