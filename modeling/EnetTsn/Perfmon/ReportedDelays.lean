import EnetTsn.Perfmon.PerfmonRuns
import Mathlib.Tactic.FieldSimp
import Mathlib.Tactic.Positivity

namespace EnetTsn.Perfmon

open EnetTsn.Library

def exactMean (values : List Int64) : ℚ := (readings values).sum / values.length

/-- How far the average is from the mean, in nanoseconds. -/
def averageError (values : List Int64) (record : ParameterRecord) : ℚ :=
  |(record.average.toInt : ℚ) / 2 ^ 16 - exactMean values|

/-- The minimum and the maximum are those of the measurements, with the average between them. -/
structure Extremes (values : List Int64) (record : ParameterRecord) : Prop where
  min : IsLeast (scaledReadings values) record.min.toInt
  max : IsGreatest (scaledReadings values) record.max.toInt
  min_le_average : record.min ≤ record.average
  average_le_max : record.average ≤ record.max

/-- The average lacks less than a nanosecond, and the variance sum is not negative. -/
structure Precise (values : List Int64) (record : ParameterRecord) : Prop
    extends Extremes values record where
  average : averageError values record < 1
  variance : 0 ≤ record.ancillary.V

/-- The average lacks a fraction for each division of its recurrence, and the variance sum is
that of its recurrence where this fits the type. -/
structure Reports (values : List Int64) (record : ParameterRecord) : Prop
    extends Extremes values record where
  average : averageError values record ≤ (values.length - 1) / 2
  variance : (RunningStat.ofList (readings values)).variance < 2 ^ 63 →
    record.ancillary.V.toInt = (RunningStat.ofList (readings values)).variance ∧
      0 ≤ record.ancillary.V

def Reported (report : List Int64 → ParameterRecord → Prop)
    (events : List (PerfmonEvent params)) [DecidableEq params] (ds : DataSet params) : Prop :=
  ∀ id p, measured id p events ≠ [] → (∀ value ∈ measured id p events, FitsScaled value) →
    report (measured id p events) (ds id p)

section

variable (tracks : Tracks values record)
include tracks

variable (nonempty : values ≠ [])
include nonempty

variable (fits : ∀ value ∈ values, FitsScaled value)
include fits

theorem Tracks.toInt_average :
    record.average.toInt = (RunningStat.ofList (readings values)).mean * 2 ^ 16 := by
  have small := mean_small fits
  have mean := (tracks.stat fits).mean
  rw [tracks.average nonempty, toInt_scaled, mean]
  unfold FitsScaled
  omega

theorem Tracks.extremes : Extremes values record := by
  have average := tracks.toInt_average nonempty fits
  have least := tracks.min nonempty fits
  have greatest := tracks.max nonempty fits
  obtain ⟨smallest, -, low⟩ := least.1
  obtain ⟨largest, -, high⟩ := greatest.1
  have some : readings values ≠ [] := mt List.map_eq_nil_iff.mp nonempty
  have between := RunningStat.mean_bounded smallest.toInt largest.toInt some
    fun reading member => by
      obtain ⟨value, measured, rfl⟩ := List.mem_map.mp member
      have scaled : value.toInt * 2 ^ 16 ∈ scaledReadings values := ⟨value, measured, rfl⟩
      have above := least.2 scaled
      have below := greatest.2 scaled
      omega
  exact {
    min := least
    max := greatest
    min_le_average := Int64.le_iff_toInt_le.mpr (by omega)
    average_le_max := Int64.le_iff_toInt_le.mpr (by omega) }

theorem Tracks.averageError_le : averageError values record ≤ (values.length - 1) / 2 := by
  let mean := (RunningStat.ofList (readings values)).mean
  have drift : 2 * |(values.length : ℚ) * mean - (readings values).sum| ≤
      values.length * (values.length - 1) := by
    have whole := RunningStat.mean_drift (readings values)
    rw [readings, List.length_map] at whole
    exact_mod_cast whole
  have some : (0 : ℚ) < values.length := by
    exact_mod_cast List.length_pos_iff.mpr nonempty
  have unscaled : (record.average.toInt : ℚ) / 2 ^ 16 = mean := by
    rw [tracks.toInt_average nonempty fits]
    push_cast
    exact mul_div_cancel_right₀ _ (by norm_num)
  have difference : (mean : ℚ) - exactMean values =
      (values.length * mean - (readings values).sum) / values.length := by
    rw [exactMean]
    field_simp
  rw [averageError, unscaled, difference, abs_div, abs_of_pos some, div_le_div_iff₀ some two_pos]
  linarith

theorem Tracks.reports :
    Reports values record where
  toExtremes := tracks.extremes nonempty fits
  average := tracks.averageError_le nonempty fits
  variance small := by
    have nonneg := RunningStat.variance_nonneg (readings values)
    have exact : record.ancillary.V.toInt = (RunningStat.ofList (readings values)).variance := by
      rw [(tracks.stat fits).variance]
      exact Int.bmod_eq_of_le (by omega) (by omega)
    refine ⟨exact, Int64.le_iff_toInt_le.mpr ?_⟩
    rw [exact]
    exact nonneg

end

variable [DecidableEq params]

theorem run_reports (events : List (PerfmonEvent params)) (counted : Counted events) :
    ∃ ds, (perfmonSystem (DataSet.add DataRecord.add) DataSet.reset).run
      (perfmonSystem (DataSet.add DataRecord.add) DataSet.reset).start events = some ds ∧
        Reported Reports events ds := by
  obtain ⟨ds, ran, current⟩ := run_current counted
  exact ⟨ds, ran, fun id p nonempty fits => (current id p).reports nonempty fits⟩

private theorem length_measured_le (id : RecordId) (p : params) (events : List (PerfmonEvent params)) :
    (measured id p events).length ≤ events.length := by
  induction events using List.reverseRecOn with
  | nil => exact Nat.le_refl _
  | append_singleton earlier event ih =>
    rw [measured_concat, List.length_append, List.length_singleton]
    cases event with
    | add q value =>
      rw [measure]
      split
      · rw [List.length_append]
        exact Nat.add_le_add_right ih 1
      · exact Nat.le_succ_of_le ih
    | reset type =>
      rw [measure]
      split
      · exact Nat.zero_le _
      · exact Nat.le_succ_of_le ih

theorem counted_of_length {events : List (PerfmonEvent params)} (few : events.length < 2 ^ 32) :
    Counted events := by
  intro earlier start id p
  exact (length_measured_le id p earlier).trans_lt (start.length_le.trans_lt few)

theorem ParameterRecord.add_full {record : ParameterRecord}
    (full : record.ancillary.N.toNat + 1 = 2 ^ 32) (value : Int64) : record.add value = none := by
  have round : record.ancillary.N + 1 = 0 := by
    apply UInt32.toNat.inj
    exact (congrArg (· % 2 ^ 32) full).trans rfl
  rw [ParameterRecord.add, perfmonRunningStatAdd, round]
  rfl

private theorem run_full {events : List (PerfmonEvent params)} (counted : Counted events) (p : params)
    (full : (measured .shortintv p events).length + 1 = 2 ^ 32) (value : Int64) :
    (perfmonSystem (DataSet.add DataRecord.add) DataSet.reset).run
      (perfmonSystem (DataSet.add DataRecord.add) DataSet.reset).start
        (events ++ [.add p value]) = none := by
  obtain ⟨ds, ran, current⟩ := run_current counted
  have none : DataSet.add DataRecord.add ds p value = none := by
    have record := ParameterRecord.add_full
      ((congrArg Nat.succ (current .shortintv p).count).trans full) value
    rw [DataSet.add, DataRecord.add, record]
    rfl
  rw [System.run_append, ran]
  exact congrArg (Option.bind · some) none

private theorem measured_adds (id : RecordId) (p : params) (values : List Int64) :
    measured id p (values.map (.add p)) = values := by
  induction values using List.reverseRecOn with
  | nil => rfl
  | append_singleton earlier value ih =>
    rw [List.map_append, List.map_singleton, measured_concat, ih, measure, if_pos rfl]

private theorem run_replicate (p : params) (value : Int64) {times : ℕ} (full : times + 1 = 2 ^ 32) :
    (perfmonSystem (DataSet.add DataRecord.add) DataSet.reset).run
      (perfmonSystem (DataSet.add DataRecord.add) DataSet.reset).start
        (List.replicate (times + 1) (.add p value)) = none := by
  rw [List.replicate_succ']
  refine run_full (counted_of_length ?_) p ?_ value
  · rw [List.length_replicate]
    omega
  · rw [← List.map_replicate, measured_adds, List.length_replicate, full]

/-- In every run of a port's and of a clock's data set every parameter of every record reports
the minimum and the maximum of its measurements with the average between them, which is off their
mean by half a nanosecond at most for each measurement after the first. -/
theorem delays_reported : (∀ events : List (PerfmonEvent PPMPDDRParams), Counted events →
      ∃ ds, portPerfmon.run portPerfmon.start events = some ds ∧ Reported Reports events ds) ∧
    ∀ events : List (PerfmonEvent CPMDRParams), Counted events →
      ∃ ds, clockPerfmon.run clockPerfmon.start events = some ds ∧ Reported Reports events ds :=
  ⟨run_reports, run_reports⟩

theorem fitsScaled_of_all {values : List Int64}
    (all : values.all fun value => decide (FitsScaled value)) :
    ∀ value ∈ values, FitsScaled value := fun _ member =>
  of_decide_eq_true (List.all_eq_true.mp all _ member)

theorem delays_reported_three : ∃ ds, portPerfmon.run portPerfmon.start
        [.add .meanLinkDelay 3, .reset 1, .add .meanLinkDelay (-4), .add .meanLinkDelay 10] =
          some ds ∧ Reports [3, -4, 10] (ds .shortintv .meanLinkDelay) ∧
      Reports [-4, 10] (ds .longintv .meanLinkDelay) := by
  let events : List (PerfmonEvent PPMPDDRParams) :=
    [.add .meanLinkDelay 3, .reset 1, .add .meanLinkDelay (-4), .add .meanLinkDelay 10]
  obtain ⟨ds, ran, reported⟩ := delays_reported.1 events (counted_of_length (by decide))
  have short : measured .shortintv .meanLinkDelay events = [3, -4, 10] := by decide +kernel
  have long : measured .longintv .meanLinkDelay events = [-4, 10] := by decide +kernel
  have shortReported := reported .shortintv .meanLinkDelay
  have longReported := reported .longintv .meanLinkDelay
  exact ⟨ds, ran, shortReported (List.cons_ne_nil _ _) (fitsScaled_of_all (by decide +kernel)),
    longReported (List.cons_ne_nil _ _) (fitsScaled_of_all (by decide +kernel))⟩

/-- Four values whose mean is 1.5 ns off the average, two values whose variance sum is negative,
and the measurement that the counter divides by zero at. -/
theorem delays_not_precise :
    (∃ ds, portPerfmon.run portPerfmon.start ([0, 1, 2, 3].map (.add .meanLinkDelay)) = some ds ∧
      averageError [0, 1, 2, 3] (ds .shortintv .meanLinkDelay) = 3 / 2 ∧
      ¬ Precise [0, 1, 2, 3] (ds .shortintv .meanLinkDelay)) ∧
    (∃ ds, portPerfmon.run portPerfmon.start ([0, 0x100000000].map (.add .meanLinkDelay)) =
        some ds ∧ (ds .shortintv .meanLinkDelay).ancillary.V < 0) ∧
    portPerfmon.run portPerfmon.start
      (List.replicate (0xFFFFFFFF + 1) (.add .meanLinkDelay 0)) = none := by
  have round (times : ℕ) (full : times + 1 = 2 ^ 32) : portPerfmon.run portPerfmon.start
      (List.replicate (times + 1) (.add .meanLinkDelay 0)) = none :=
    run_replicate PPMPDDRParams.meanLinkDelay 0 full
  refine ⟨?_, ?_, round 0xFFFFFFFF rfl⟩
  · have ran : (portPerfmon.run portPerfmon.start ([0, 1, 2, 3].map (.add .meanLinkDelay))).map
        (fun ds => (ds .shortintv .meanLinkDelay).average) = some 0 := by decide +kernel
    obtain ⟨ds, finished, average⟩ := Option.map_eq_some_iff.mp ran
    have error : averageError [0, 1, 2, 3] (ds .shortintv .meanLinkDelay) = 3 / 2 := by
      have sum : (readings [0, 1, 2, 3]).sum = 6 := by decide
      have none : (0 : Int64).toInt = 0 := rfl
      rw [averageError, exactMean, average, sum, none]
      norm_num
    refine ⟨ds, finished, error, fun precise => ?_⟩
    have small := precise.average
    rw [error] at small
    norm_num at small
  · have ran : (portPerfmon.run portPerfmon.start ([0, 0x100000000].map (.add .meanLinkDelay))).map
          (fun ds => decide ((ds .shortintv .meanLinkDelay).ancillary.V < 0)) = some true := by
      decide +kernel
    obtain ⟨ds, finished, negative⟩ := Option.map_eq_some_iff.mp ran
    exact ⟨ds, finished, of_decide_eq_true negative⟩

end EnetTsn.Perfmon
