import EnetTsn.Pdelay.PdelayRuns

namespace EnetTsn.Pdelay

open EnetTsn.Gptp EnetTsn.Library

abbrev RequestTimes := UInt64 × UInt64

/-- A rate ratio that is computed only from the times of the given exchanges. -/
inductive RatioFrom (exchanges : List RequestTimes) : ℚ → Prop
  | unit : RatioFrom exchanges 1
  | quotient : (prevT1, prevT2) ∈ exchanges → (t1, t2) ∈ exchanges →
      RatioFrom exchanges (pdelayRateRatio t1 t2 prevT1 prevT2)
  | average : RatioFrom exchanges old → RatioFrom exchanges latest →
      RatioFrom exchanges (average old latest)

/-- A moment at which `asCapableAcrossDomains` becomes true after an initial request. -/
structure Rise where
  exchanges : List RequestTimes
  neighborRateRatio : ℚ

/-- The exchanges since the latest initial request, if there was one, and the rises. -/
structure RateRecord where
  requested : Bool
  exchanges : List RequestTimes
  rises : List Rise

namespace RateRecord

def empty : RateRecord where
  requested := false
  exchanges := []
  rises := []

def exchangesAfter (port : PdelayPort) (data : PdelayReq) (record : RateRecord) : RateRecord :=
  if data.state = .initialSendPdelayReq then { record with requested := true, exchanges := [] }
  else if data.state = .waitingForPdelayIntervalTimer ∧ port.asymmetryMeasurementMode = false then
    { record with exchanges := record.exchanges ++ [(data.t1ts64, data.t2ts64)] }
  else record

def noteRise (before after : Measurement) (record : RateRecord) : RateRecord :=
  if record.requested && !before.asCapableAcrossDomains && after.asCapableAcrossDomains then
    { record with rises := record.rises ++ [
        { exchanges := record.exchanges, neighborRateRatio := after.neighborRateRatio }] }
  else record

end RateRecord

def recordRates (settings : PdelaySettings) (port : PdelayPort) (cts64 : UInt64) (stateChange : Bool)
    (data : PdelayReq) (record : RateRecord) : RateRecord :=
  if stateChange then
    (record.exchangesAfter port data).noteRise data.measurement
      (data.entryProc settings port cts64).measurement
  else record

structure Rise.Grounded (rise : Rise) : Prop where
  twice : 2 ≤ rise.exchanges.length
  ratio : RatioFrom rise.exchanges rise.neighborRateRatio

/-- A pass in which the first exchange since the initial request finds the ratio valid
already, or takes the cleared timestamps for those of an exchange, or in which a
configured delay makes the port capable. -/
structure Misled (settings : PdelaySettings) (event : PdelayEvent) (pass : PdelayReq × RateRecord) :
    Prop where
  requested : pass.2.requested = true
  entered : pass.1.lastState ≠ pass.1.state
  misled : pass.1.state = .notEnabled ∧ settings.neighborPropDelay ≠ 0 ∨
    pass.1.state = .waitingForPdelayIntervalTimer ∧
      event.port.asymmetryMeasurementMode = false ∧ pass.2.exchanges = [] ∧
      (pass.1.neighborRateRatioValid = true ∨
        inWindow event.port.pdelayReqInterval pass.1.t1ts64 = true ∧
          inWindow event.port.pdelayReqInterval pass.1.t2ts64 = true)

instance (pass : PdelayReq × RateRecord) : Decidable (Misled settings event pass) :=
  decidable_of_iff (pass.2.requested = true ∧ pass.1.lastState ≠ pass.1.state ∧
    (pass.1.state = .notEnabled ∧ settings.neighborPropDelay ≠ 0 ∨
      pass.1.state = .waitingForPdelayIntervalTimer ∧
        event.port.asymmetryMeasurementMode = false ∧ pass.2.exchanges = [] ∧
        (pass.1.neighborRateRatioValid = true ∨
          inWindow event.port.pdelayReqInterval pass.1.t1ts64 = true ∧
            inWindow event.port.pdelayReqInterval pass.1.t2ts64 = true)))
    ⟨fun ⟨requested, entered, misled⟩ => ⟨requested, entered, misled⟩,
      fun ⟨requested, entered, misled⟩ => ⟨requested, entered, misled⟩⟩

def UnmisledPass (settings : PdelaySettings) (event : PdelayEvent) (pass : PdelayReq × RateRecord) :
    Prop :=
  event.port.computeNeighborRateRatio = true ∧ ¬ Misled settings event pass

structure Tracked (measurement : Measurement) (record : RateRecord) : Prop where
  ratio : record.requested = true → RatioFrom record.exchanges measurement.neighborRateRatio
  cleared : record.requested = true → record.exchanges = [] →
    measurement.prevT1ts64 = 0 ∧ measurement.prevT2ts64 = 0
  previous : record.requested = true → record.exchanges ≠ [] →
    (measurement.prevT1ts64, measurement.prevT2ts64) ∈ record.exchanges
  valid : record.requested = true → record.exchanges ≠ [] →
    measurement.neighborRateRatioValid = true → 2 ≤ record.exchanges.length
  rises : ∀ rise ∈ record.rises, rise.Grounded

theorem RatioFrom.append (ratio : RatioFrom exchanges value) (latest : RequestTimes) :
    RatioFrom (exchanges ++ [latest]) value := by
  induction ratio with
  | unit => exact .unit
  | quotient before latest =>
    exact .quotient (List.mem_append_left _ before) (List.mem_append_left _ latest)
  | average _ _ old new => exact .average old new

namespace RateRecord

theorem noteRise_of_kept
    (kept : after.asCapableAcrossDomains = true → before.asCapableAcrossDomains = true)
    (record : RateRecord) : record.noteRise before after = record := by
  refine if_neg fun rise => ?_
  simp only [Bool.and_eq_true, Bool.not_eq_true'] at rise
  exact nomatch rise.1.2.symm.trans (kept rise.2)

end RateRecord

theorem Tracked.noteRise (tracked : Tracked after record)
    (founded : before.asCapableAcrossDomains = false → after.asCapableAcrossDomains = true →
      after.neighborRateRatioValid = true ∧ record.exchanges ≠ []) :
    Tracked after (record.noteRise before after) := by
  unfold RateRecord.noteRise
  split
  · rename_i rise
    simp only [Bool.and_eq_true, Bool.not_eq_true'] at rise
    obtain ⟨⟨requested, low⟩, high⟩ := rise
    obtain ⟨valid, some⟩ := founded low high
    refine ⟨tracked.ratio, tracked.cleared, tracked.previous, tracked.valid, ?_⟩
    intro rise member
    rcases List.mem_append.mp member with earlier | new
    · exact tracked.rises rise earlier
    · rw [List.mem_singleton.mp new]
      exact ⟨tracked.valid requested some valid, tracked.ratio requested⟩
  · exact tracked

theorem Tracked.restart (tracked : Tracked before record)
    (ratio : after.neighborRateRatio = before.neighborRateRatio ∨ after.neighborRateRatio = 1)
    (prevT1 : after.prevT1ts64 = before.prevT1ts64) (prevT2 : after.prevT2ts64 = before.prevT2ts64)
    (valid : after.neighborRateRatioValid = true → before.neighborRateRatioValid = true) :
    Tracked after record where
  ratio requested := by
    rcases ratio with same | unit
    · rw [same]
      exact tracked.ratio requested
    · rw [unit]
      exact .unit
  cleared requested none := by
    rw [prevT1, prevT2]
    exact tracked.cleared requested none
  previous requested some := by
    rw [prevT1, prevT2]
    exact tracked.previous requested some
  valid requested some flag := tracked.valid requested some (valid flag)
  rises := tracked.rises

namespace PdelayReq

/-- What an exchange makes of the rate ratio: only one that is in the window after the
one before it makes it valid and enters into it. -/
theorem rates_measure (port : PdelayPort) (data : PdelayReq)
    (computed : port.computeNeighborRateRatio = true) :
    ((measure port data).prevT1ts64 = data.t1ts64 ∧ (measure port data).prevT2ts64 = data.t2ts64) ∧
      ((measure port data).neighborRateRatioValid = data.neighborRateRatioValid ∧
          (measure port data).neighborRateRatio = average data.neighborRateRatio 1 ∨
        (inWindow port.pdelayReqInterval (data.t1ts64 - data.prevT1ts64) = true ∧
            inWindow port.pdelayReqInterval (data.t2ts64 - data.prevT2ts64) = true) ∧
          (measure port data).neighborRateRatio = average data.neighborRateRatio
            (pdelayRateRatio data.t1ts64 data.t2ts64 data.prevT1ts64 data.prevT2ts64)) := by
  have undelayed : (measure port data).prevT1ts64 =
        (updateRateRatio port (completeExchange data)).prevT1ts64 ∧
      (measure port data).prevT2ts64 = (updateRateRatio port (completeExchange data)).prevT2ts64 ∧
      (measure port data).neighborRateRatioValid =
        (updateRateRatio port (completeExchange data)).neighborRateRatioValid ∧
      (measure port data).neighborRateRatio =
        (updateRateRatio port (completeExchange data)).neighborRateRatio := by
    unfold measure updatePropDelay
    split <;> exact ⟨rfl, rfl, rfl, rfl⟩
  obtain ⟨prevT1, prevT2, valid, ratio⟩ := undelayed
  rw [prevT1, prevT2, valid, ratio]
  simp only [updateRateRatio, computed, if_true]
  refine ⟨⟨rfl, rfl⟩, ?_⟩
  cases inside : inWindow port.pdelayReqInterval (data.t1ts64 - data.prevT1ts64) &&
      inWindow port.pdelayReqInterval (data.t2ts64 - data.prevT2ts64) with
  | false =>
    left
    simp only [completeExchange, inside, Bool.or_false, Bool.false_eq_true, if_false]
    exact ⟨trivial, trivial⟩
  | true =>
    right
    simp only [completeExchange, inside, if_true]
    exact ⟨by simpa using inside, trivial⟩

theorem rates_judge (settings : PdelaySettings) (previous : UInt64) (data : PdelayReq) :
    (judge settings previous data).neighborRateRatio = data.neighborRateRatio ∧
      (judge settings previous data).neighborRateRatioValid = data.neighborRateRatioValid ∧
      (judge settings previous data).prevT1ts64 = data.prevT1ts64 ∧
      (judge settings previous data).prevT2ts64 = data.prevT2ts64 ∧
      (data.asCapableAcrossDomains = false →
        (judge settings previous data).asCapableAcrossDomains = true →
        data.neighborRateRatioValid = true) := by
  rcases judge_verdicts settings previous data with ⟨good, _, valid⟩ | ⟨fault, _⟩ | bad
  · rw [good]
    exact ⟨rfl, rfl, rfl, rfl, fun _ _ => valid⟩
  · rw [fault]
    exact ⟨rfl, rfl, rfl, rfl, fun low high => (nomatch low.symm.trans high)⟩
  · rw [bad]
    exact ⟨rfl, rfl, rfl, rfl, fun _ => nofun⟩

end PdelayReq

section Entry

variable {settings : PdelaySettings} {event : PdelayEvent} {data : PdelayReq} {record : RateRecord}

variable (tracked : Tracked data.measurement record)
include tracked

theorem Tracked.idle (same : after = data.measurement)
    (unasked : data.state ≠ .initialSendPdelayReq)
    (other : ¬ (data.state = .waitingForPdelayIntervalTimer ∧
      event.port.asymmetryMeasurementMode = false)) :
    Tracked after ((record.exchangesAfter event.port data).noteRise data.measurement after) := by
  subst same
  rw [RateRecord.exchangesAfter, if_neg unasked, if_neg other, RateRecord.noteRise_of_kept id]
  exact tracked

open PdelayReq in
theorem Tracked.notEnabled
    (configured : record.requested = true → settings.neighborPropDelay = 0) (port : PdelayPort)
    (state : data.state = .notEnabled) : Tracked (notEnabledProc settings data).measurement
      ((record.exchangesAfter port data).noteRise data.measurement
        (notEnabledProc settings data).measurement) := by
  have same : record.exchangesAfter port data = record := by simp [RateRecord.exchangesAfter, state]
  rw [same]
  cases requested : record.requested with
  | true =>
    have unchanged : notEnabledProc settings data = data := if_neg (not_not.mpr (configured requested))
    rw [unchanged, RateRecord.noteRise_of_kept id]
    exact tracked
  | false =>
    have unnoted : record.noteRise data.measurement (notEnabledProc settings data).measurement =
        record := by simp [RateRecord.noteRise, requested]
    rw [unnoted]
    refine ⟨?_, ?_, ?_, ?_, tracked.rises⟩
    all_goals exact fun impossible => nomatch requested.symm.trans impossible

open PdelayReq in
theorem Tracked.initialSend (port : PdelayPort)
    (cts64 : UInt64) (state : data.state = .initialSendPdelayReq) :
    Tracked (initialSendPdelayReqProc port cts64 data).measurement
      ((record.exchangesAfter port data).noteRise data.measurement
        (initialSendPdelayReqProc port cts64 data).measurement) := by
  have forgotten : record.exchangesAfter port data =
      { record with requested := true, exchanges := [] } := by
    simp [RateRecord.exchangesAfter, state]
  have kept : (initialSendPdelayReqProc port cts64 data).asCapableAcrossDomains = true →
      data.asCapableAcrossDomains = true := by
    unfold initialSendPdelayReqProc transmit
    cases port.send with
    | failed => exact id
    | skipped | sent => exact nofun
  have cleared : (initialSendPdelayReqProc port cts64 data).neighborRateRatio = 1 ∧
      (initialSendPdelayReqProc port cts64 data).prevT1ts64 = 0 ∧
      (initialSendPdelayReqProc port cts64 data).prevT2ts64 = 0 := by
    unfold initialSendPdelayReqProc transmit
    cases port.send <;> exact ⟨rfl, rfl, rfl⟩
  rw [forgotten, RateRecord.noteRise_of_kept kept]
  refine ⟨fun _ => ?_, fun _ _ => cleared.2, fun _ some => absurd rfl some,
    fun _ some => absurd rfl some, tracked.rises⟩
  have unit : (initialSendPdelayReqProc port cts64 data).measurement.neighborRateRatio = 1 := cleared.1
  rw [unit]
  exact .unit

open PdelayReq in
theorem Tracked.reset (port : PdelayPort) (state : data.state = .reset) :
    Tracked (resetProc settings data).measurement
      ((record.exchangesAfter port data).noteRise data.measurement
        (resetProc settings data).measurement) := by
  have same : record.exchangesAfter port data = record := by simp [RateRecord.exchangesAfter, state]
  have kept : (resetProc settings data).asCapableAcrossDomains = true →
      data.asCapableAcrossDomains = true := fun capable => (asCapable_resetProc data capable).1
  rw [same, RateRecord.noteRise_of_kept kept]
  obtain ⟨ratio, valid, prevT1, prevT2⟩ := rates_resetProc settings data
  exact tracked.restart ratio prevT1 prevT2 valid

variable (computed : event.port.computeNeighborRateRatio = true)
include computed

open PdelayReq in
theorem Tracked.exchanged (symmetric : event.port.asymmetryMeasurementMode = false)
    (first : record.requested = true → record.exchanges = [] → data.neighborRateRatioValid = false ∧
        ¬ (inWindow event.port.pdelayReqInterval data.t1ts64 = true ∧
          inWindow event.port.pdelayReqInterval data.t2ts64 = true))
    (state : data.state = .waitingForPdelayIntervalTimer) :
    Tracked (waitingForPdelayIntervalTimerProc settings event.port data).measurement
      ((record.exchangesAfter event.port data).noteRise data.measurement
        (waitingForPdelayIntervalTimerProc settings event.port data).measurement) := by
  have judged : waitingForPdelayIntervalTimerProc settings event.port data =
      judge settings data.neighborPropDelay (measure event.port data) := by
    simp [waitingForPdelayIntervalTimerProc, symmetric]
  have extended : record.exchangesAfter event.port data =
      { record with exchanges := record.exchanges ++ [(data.t1ts64, data.t2ts64)] } := by
    simp [RateRecord.exchangesAfter, state, symmetric]
  obtain ⟨⟨prevT1, prevT2⟩, ratio⟩ := rates_measure event.port data computed
  obtain ⟨sameRatio, sameValid, samePrevT1, samePrevT2, high⟩ :=
    rates_judge settings data.neighborPropDelay (measure event.port data)
  have capable := asCapable_measure event.port data
  rw [judged, extended]
  generalize judge settings data.neighborPropDelay (measure event.port data) = verdict at *
  generalize measure event.port data = measured at *
  -- an exchange in the window has one before it: cleared timestamps would count from zero
  have follows : record.requested = true →
      inWindow event.port.pdelayReqInterval (data.t1ts64 - data.prevT1ts64) = true ∧
        inWindow event.port.pdelayReqInterval (data.t2ts64 - data.prevT2ts64) = true →
      record.exchanges ≠ [] := by
    intro requested inside none
    obtain ⟨zeroT1, zeroT2⟩ := tracked.cleared requested none
    have prevs : data.prevT1ts64 = 0 ∧ data.prevT2ts64 = 0 := ⟨zeroT1, zeroT2⟩
    rw [prevs.1, prevs.2, UInt64.sub_zero, UInt64.sub_zero] at inside
    exact (first requested none).2 inside
  refine Tracked.noteRise ⟨?_, ?_, ?_, ?_, tracked.rises⟩ ?_
  · intro requested
    have before := (tracked.ratio requested).append (data.t1ts64, data.t2ts64)
    have after : verdict.measurement.neighborRateRatio = measured.neighborRateRatio := sameRatio
    rw [after]
    rcases ratio with ⟨_, fallback⟩ | ⟨inside, quotient⟩
    · rw [fallback]
      exact before.average .unit
    · rw [quotient]
      have previous : (data.prevT1ts64, data.prevT2ts64) ∈
          record.exchanges ++ [(data.t1ts64, data.t2ts64)] :=
        List.mem_append_left _ (tracked.previous requested (follows requested inside))
      have latest : (data.t1ts64, data.t2ts64) ∈ record.exchanges ++ [(data.t1ts64, data.t2ts64)] :=
        List.mem_append_right _ (List.mem_singleton.mpr rfl)
      exact before.average (.quotient previous latest)
  · intro _ none
    exact absurd none (by simp)
  · intro _ _
    have latest : (verdict.measurement.prevT1ts64, verdict.measurement.prevT2ts64) =
        (data.t1ts64, data.t2ts64) :=
      Prod.ext (samePrevT1.trans prevT1) (samePrevT2.trans prevT2)
    rw [latest]
    simp
  · intro requested _ valid
    have flag : measured.neighborRateRatioValid = true := sameValid.symm.trans valid
    have some : record.exchanges ≠ [] := by
      intro none
      rcases ratio with ⟨kept, _⟩ | ⟨inside, _⟩
      · exact nomatch ((first requested none).1.symm.trans kept.symm).trans flag
      · exact follows requested inside none
    have length := List.length_pos_iff.mpr some
    simp only [List.length_append, List.length_singleton]
    omega
  · intro low rises
    have lowMeasured : measured.asCapableAcrossDomains = false := capable.trans low
    exact ⟨sameValid.trans (high lowMeasured rises), by simp⟩

open PdelayReq in
theorem Tracked.entered (configured : record.requested = true → data.state = .notEnabled →
      settings.neighborPropDelay = 0)
    (first : record.requested = true → data.state = .waitingForPdelayIntervalTimer →
      event.port.asymmetryMeasurementMode = false → record.exchanges = [] →
      data.neighborRateRatioValid = false ∧
        ¬ (inWindow event.port.pdelayReqInterval data.t1ts64 = true ∧
          inWindow event.port.pdelayReqInterval data.t2ts64 = true)) :
    Tracked (entryProc settings event.port event.cts64 data).measurement
      (recordRates settings event.port event.cts64 true data record) := by
  simp only [recordRates, if_true]
  cases state : data.state
  case notEnabled =>
    simp only [entryProc, state]
    exact tracked.notEnabled (fun requested => configured requested state) event.port state
  case initialSendPdelayReq =>
    simp only [entryProc, state]
    exact tracked.initialSend event.port event.cts64 state
  case reset =>
    simp only [entryProc, state]
    exact tracked.reset event.port state
  case waitingForPdelayIntervalTimer =>
    simp only [entryProc, state]
    cases symmetric : event.port.asymmetryMeasurementMode with
    | true =>
      refine tracked.idle ?_ (by simp [state]) (by simp [symmetric])
      simp [waitingForPdelayIntervalTimerProc, symmetric, completeExchange, measurement]
    | false =>
      exact tracked.exchanged computed symmetric
        (fun requested none => first requested state symmetric none) state
  all_goals
    simp only [entryProc, state]
    exact tracked.idle rfl (by simp [state]) (by simp [state])

end Entry

/-- In every run that is not misled, `asCapableAcrossDomains` becomes true only after two
exchanges since the initial request, with a rate ratio computed from such only. -/
theorem rises_grounded (reachable : (pdelaySystem settings (recordRates settings) .empty).Reachable
      (PassesPermitted settings (recordRates settings) (UnmisledPass settings)) pair) :
    ∀ rise ∈ pair.2.rises, rise.Grounded := by
  have tracked : Tracked pair.1.measurement pair.2 := by
    refine pdelaySystem_invariant Tracked ?_ ?_ ?_ ?_ reachable
    · exact ⟨nofun, nofun, nofun, nofun, fun _ impossible => absurd impossible List.not_mem_nil⟩
    · exact fun data record tracked =>
        ⟨tracked.ratio, tracked.cleared, tracked.previous, tracked.valid, tracked.rises⟩
    · intro event data record fine entered tracked
      have same : Tracked ({ data with lastState := data.state }).measurement record := tracked
      refine same.entered fine.1 ?_ ?_
      · intro requested state
        by_contra configured
        exact fine.2 ⟨requested, entered, Or.inl ⟨state, configured⟩⟩
      · intro requested state symmetric none
        have trusted (misled : data.neighborRateRatioValid = true ∨
            inWindow event.port.pdelayReqInterval data.t1ts64 = true ∧
              inWindow event.port.pdelayReqInterval data.t2ts64 = true) : False :=
          fine.2 ⟨requested, entered, Or.inr ⟨state, symmetric, none, misled⟩⟩
        exact ⟨by simpa using fun valid => trusted (Or.inl valid), fun inside => trusted (Or.inr inside)⟩
    · exact fun _ _ _ _ => rfl
  exact tracked.rises

instance (pass : PdelayReq × RateRecord) : Decidable (UnmisledPass settings event pass) :=
  inferInstanceAs (Decidable (_ ∧ _))

def ratedSystem : System (PdelayReq × RateRecord) PdelayEvent :=
  pdelaySystem measuringSettings (recordRates measuringSettings) .empty

def flappedLink : List PdelayEvent :=
  exchangeEvents 7 10000000000 500 ++ exchangeEvents 8 11000000000 500 ++
    [ .mk measuringPort 12000000000 .linkDown,
      .mk { measuringPort with portOper := false } 12000000000 .tick ] ++
    exchangeEvents 7 13000000000 500

/-- After the link failure a single exchange makes the port capable. -/
theorem rises_after_one_exchange : ¬ ∀ settings pair,
      (pdelaySystem settings (recordRates settings) .empty).Reachable
        (fun _ event => event.port.computeNeighborRateRatio = true) pair →
      ∀ rise ∈ pair.2.rises, rise.Grounded := by
  intro claim
  have ran : ((ratedSystem.restrict fun _ event => event.port.computeNeighborRateRatio).run
      ratedSystem.start flappedLink).map (fun pair => pair.2.rises.map fun rise =>
        rise.exchanges.length) = some [2, 1] := by decide +kernel
  obtain ⟨pair, finished, lengths⟩ := Option.map_eq_some_iff.mp ran
  have reachable : ratedSystem.Reachable
      (fun _ event => event.port.computeNeighborRateRatio = true) pair :=
    (System.reachable_of_run finished).of_restrict fun _ _ passed => passed
  have single : 1 ∈ pair.2.rises.map fun rise => rise.exchanges.length := by simp [lengths]
  obtain ⟨rise, member, length⟩ := List.mem_map.mp single
  have grounded := claim measuringSettings pair reachable rise member
  exact absurd grounded.twice (by simp [length])

theorem rises_grounded_lengthened : ∃ pair : PdelayReq × RateRecord,
    pair.2.rises.map (fun rise => rise.exchanges.length) = [2] ∧
      ∀ rise ∈ pair.2.rises, rise.Grounded := by
  have ran : ((ratedSystem.restrict fun pair event => decide (PassesPermitted measuringSettings
      (recordRates measuringSettings) (UnmisledPass measuringSettings) pair event)).run
      ratedSystem.start (exchangeEvents 7 10000000000 500 ++ exchangeEvents 8 11000000000 500)).map
      (fun pair => pair.2.rises.map fun rise => rise.exchanges.length) = some [2] := by
    decide +kernel
  obtain ⟨pair, finished, lengths⟩ := Option.map_eq_some_iff.mp ran
  have reachable := (System.reachable_of_run finished).of_restrict
    fun _ _ passed => of_decide_eq_true passed
  exact ⟨pair, lengths, rises_grounded reachable⟩

end EnetTsn.Pdelay
