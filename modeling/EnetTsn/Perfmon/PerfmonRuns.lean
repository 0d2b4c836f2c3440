import EnetTsn.Library.RunningMean
import EnetTsn.Perfmon.DataRecords
import Mathlib.Algebra.Order.Field.Rat
import Mathlib.Order.Bounds.Basic

namespace EnetTsn.Perfmon

open EnetTsn.Library

/-- The product with `SCALEDNS_FACTOR` fits its type. -/
def FitsScaled (value : Int64) : Prop :=
  -2 ^ 63 ≤ value.toInt * 2 ^ 16 ∧ value.toInt * 2 ^ 16 < 2 ^ 63

instance : DecidablePred FitsScaled := fun _ => inferInstanceAs (Decidable (_ ∧ _))

def readings (values : List Int64) : List ℤ := values.map Int64.toInt

def scaledReadings (values : List Int64) : Set ℤ :=
  {scaled | ∃ value ∈ values, value.toInt * 2 ^ 16 = scaled}

/-- The numbers of an ancillary record are those of the recurrences over the integers, the
variance sum but for the word that holds it. -/
structure Follows (stat : RunningStat) (anc : PerfMonAncillaryDataRecord) : Prop where
  count : anc.N.toNat = stat.count
  mean : anc.M.toInt = stat.mean
  prevM : anc.prevM = anc.M
  variance : anc.V.toInt = stat.variance.bmod (2 ^ 64)
  prevV : anc.prevV = anc.V

section RunningStat

theorem toInt_counter (N : UInt32) : N.toUInt64.toInt64.toInt = N.toNat := by
  have bound := N.toNat_lt
  have signed : N.toUInt64.toInt64.toInt = N.toUInt64.toBitVec.toInt := rfl
  have same : N.toUInt64.toBitVec.toNat = N.toNat := rfl
  rw [signed, BitVec.toInt_eq_toNat_cond, same, if_pos (by omega)]

theorem toNat_counter_succ {N : UInt32} (room : N.toNat + 1 < 2 ^ 32) :
    (N + 1).toNat = N.toNat + 1 := by
  exact Nat.mod_eq_of_lt room

theorem counter_succ_ne_zero {N : UInt32} (room : N.toNat + 1 < 2 ^ 32) : N + 1 ≠ 0 := by
  intro zero
  have counted := toNat_counter_succ room
  rw [zero] at counted
  exact absurd counted (Nat.succ_ne_zero _).symm

private theorem perfmonRunningStatAdd_counts {anc : PerfMonAncillaryDataRecord}
    (room : anc.N.toNat + 1 < 2 ^ 32) (x : Int64) :
    ∃ next, perfmonRunningStatAdd anc x = some next ∧ next.N.toNat = anc.N.toNat + 1 := by
  have counted := toNat_counter_succ room
  by_cases first : anc.N + 1 = 1
  · exact ⟨_, if_pos first, counted⟩
  · exact ⟨_, (if_neg first).trans (if_neg (counter_succ_ne_zero room)), counted⟩

private theorem toInt_quotient (N : UInt32) :
    (dividend / N.toUInt64.toInt64).toInt = dividend.toInt.tdiv N.toNat := by
  have notMinusOne : N.toUInt64.toInt64 ≠ -1 := by
    intro same
    have counter := toInt_counter N
    rw [same] at counter
    have negative : (-1 : Int64).toInt = -1 := rfl
    omega
  rw [Int64.toInt_div_of_ne_right _ _ notMinusOne, toInt_counter]

theorem toInt_sub_of_small {left right : Int64}
    (leftSmall : -2 ^ 47 ≤ left.toInt ∧ left.toInt < 2 ^ 47)
    (rightSmall : -2 ^ 47 ≤ right.toInt ∧ right.toInt < 2 ^ 47) :
    (left - right).toInt = left.toInt - right.toInt := by
  rw [Int64.toInt_sub]
  exact Int.bmod_eq_of_le (by omega) (by omega)

theorem perfmonRunningStatAdd_follows (follows : Follows stat anc) (room : anc.N.toNat + 1 < 2 ^ 32)
    (initial : stat.count = 0 → stat = RunningStat.start)
    (small : -2 ^ 47 ≤ stat.mean ∧ stat.mean < 2 ^ 47) (fits : -2 ^ 47 ≤ x.toInt ∧ x.toInt < 2 ^ 47)
    (added : perfmonRunningStatAdd anc x = some next) : Follows (stat.add x.toInt) next := by
  have counted := toNat_counter_succ room
  unfold perfmonRunningStatAdd at added
  by_cases first : anc.N + 1 = 1
  · have empty : stat.count = 0 := by
      rw [first] at counted
      have one : (1 : UInt32).toNat = 1 := rfl
      have same := follows.count
      omega
    rw [if_pos first] at added
    obtain rfl := Option.some.inj added
    have start := initial empty
    have none : anc.V = 0 := by
      apply Int64.toInt.inj
      rw [follows.variance, start]
      rfl
    rw [start, RunningStat.add_start]
    exact {
      count := congrArg UInt32.toNat first
      mean := rfl
      prevM := rfl
      variance := congrArg Int64.toInt none
      prevV := none.symm }
  · rw [if_neg first, if_neg (counter_succ_ne_zero room)] at added
    obtain rfl := Option.some.inj added
    have before : anc.prevM.toInt = stat.mean := by rw [follows.prevM, follows.mean]
    have difference : (x - anc.prevM).toInt = x.toInt - stat.mean := by
      rw [toInt_sub_of_small fits (before ▸ small), before]
    have between := stat.mean_add_towards x.toInt
    have mean : (anc.prevM + (x - anc.prevM) / (anc.N + 1).toUInt64.toInt64).toInt =
        (stat.add x.toInt).mean := by
      have moved : (stat.add x.toInt).mean =
          stat.mean + (x.toInt - stat.mean).tdiv (stat.count + 1) := rfl
      rw [Int64.toInt_add, toInt_quotient, difference, before, counted, follows.count, moved]
      push_cast
      exact Int.bmod_eq_of_le (by omega) (by omega)
    refine ⟨counted.trans (congrArg Nat.succ follows.count), mean, rfl, ?_, rfl⟩
    generalize anc.prevM + (x - anc.prevM) / (anc.N + 1).toUInt64.toInt64 = M at mean ⊢
    have remaining : (x - M).toInt = x.toInt - M.toInt := toInt_sub_of_small fits (by omega)
    have added : (stat.add x.toInt).variance = stat.variance +
        (x.toInt - stat.mean) * (x.toInt - (stat.add x.toInt).mean) := rfl
    rw [Int64.toInt_add, Int64.toInt_mul, difference, remaining, mean, follows.prevV,
      follows.variance, added, Int.bmod_add_bmod, Int.add_bmod_bmod]

end RunningStat

/-- A record is that of the measurements so far. -/
structure Tracks (values : List Int64) (record : ParameterRecord) : Prop where
  count : record.ancillary.N.toNat = values.length
  initial : values = [] → record = .reset
  average : values ≠ [] → record.average = record.ancillary.M * scalednsFactor
  stat : (∀ value ∈ values, FitsScaled value) →
    Follows (RunningStat.ofList (readings values)) record.ancillary
  min : values ≠ [] → (∀ value ∈ values, FitsScaled value) →
    IsLeast (scaledReadings values) record.min.toInt
  max : values ≠ [] → (∀ value ∈ values, FitsScaled value) →
    IsGreatest (scaledReadings values) record.max.toInt

section Extremes

theorem toInt_scaled (fits : FitsScaled value) :
    (value * scalednsFactor).toInt = value.toInt * 2 ^ 16 := by
  rw [Int64.toInt_mul]
  exact Int.bmod_eq_of_le fits.1 fits.2

theorem ne_invalid_of_scaled (scaled : value.toInt ∈ scaledReadings values) :
    value ≠ invalidTimeintervalValue := by
  rintro rfl
  obtain ⟨reading, -, same⟩ := scaled
  have odd : invalidTimeintervalValue.toInt = 2 ^ 63 - 1 := by decide
  omega

theorem scaledReadings_concat (values : List Int64) (value : Int64) :
    scaledReadings (values ++ [value]) = insert (value.toInt * 2 ^ 16) (scaledReadings values) := by
  ext scaled
  constructor
  · rintro ⟨reading, member, rfl⟩
    rcases List.mem_append.mp member with earlier | last
    · exact .inr ⟨reading, earlier, rfl⟩
    · exact .inl (congrArg (·.toInt * 2 ^ 16) (List.mem_singleton.mp last))
  · rintro (rfl | ⟨reading, member, rfl⟩)
    · exact ⟨value, List.mem_append_right _ (List.mem_singleton_self _), rfl⟩
    · exact ⟨reading, List.mem_append_left _ member, rfl⟩

theorem scaledReadings_singleton (value : Int64) :
    scaledReadings [value] = {value.toInt * 2 ^ 16} := by
  have concat := scaledReadings_concat [] value
  have none : scaledReadings [] = ∅ :=
    Set.eq_empty_of_forall_notMem fun _ ⟨_, member, _⟩ => List.not_mem_nil member
  rwa [none, insert_empty_eq] at concat

private theorem toInt_raised (valid : before ≠ invalidTimeintervalValue) (scaled : Int64) :
    (if before = invalidTimeintervalValue ∨ before < scaled then scaled else before).toInt =
      max scaled.toInt before.toInt := by
  simp only [valid, false_or, Int64.lt_iff_toInt_lt]
  split
  case isTrue less => rw [max_eq_left less.le]
  case isFalse most => rw [max_eq_right (not_lt.mp most)]

private theorem toInt_lowered (valid : before ≠ invalidTimeintervalValue) (scaled : Int64) :
    (if before = invalidTimeintervalValue ∨ scaled < before then scaled else before).toInt =
      min scaled.toInt before.toInt := by
  simp only [valid, false_or, Int64.lt_iff_toInt_lt]
  split
  case isTrue less => rw [min_eq_left less.le]
  case isFalse least => rw [min_eq_right (not_lt.mp least)]

private theorem Tracks.max_concat (tracks : Tracks values record)
    (fits : ∀ reading ∈ values ++ [value], FitsScaled reading) :
    IsGreatest (scaledReadings (values ++ [value]))
      (if record.max = invalidTimeintervalValue ∨ record.max < value * scalednsFactor
        then value * scalednsFactor else record.max).toInt := by
  have scaled := toInt_scaled (fits value (by simp))
  by_cases empty : values = []
  · subst empty
    rw [tracks.initial rfl, if_pos (.inl rfl), scaled, List.nil_append, scaledReadings_singleton]
    exact isGreatest_singleton
  · have before := tracks.max empty fun reading member => fits reading (by simp [member])
    rw [scaledReadings_concat, toInt_raised (ne_invalid_of_scaled before.1), scaled]
    exact before.insert _

private theorem Tracks.min_concat (tracks : Tracks values record)
    (fits : ∀ reading ∈ values ++ [value], FitsScaled reading) :
    IsLeast (scaledReadings (values ++ [value]))
      (if record.min = invalidTimeintervalValue ∨ value * scalednsFactor < record.min
        then value * scalednsFactor else record.min).toInt := by
  have scaled := toInt_scaled (fits value (by simp))
  by_cases empty : values = []
  · subst empty
    rw [tracks.initial rfl, if_pos (.inl rfl), scaled, List.nil_append, scaledReadings_singleton]
    exact isLeast_singleton
  · have before := tracks.min empty fun reading member => fits reading (by simp [member])
    rw [scaledReadings_concat, toInt_lowered (ne_invalid_of_scaled before.1), scaled]
    exact before.insert _

end Extremes

section Measured

private theorem readings_concat (values : List Int64) (value : Int64) :
    readings (values ++ [value]) = readings values ++ [value.toInt] :=
  List.map_append

theorem mean_small (fits : ∀ value ∈ values, FitsScaled value) :
    -2 ^ 47 ≤ (RunningStat.ofList (readings values)).mean ∧
      (RunningStat.ofList (readings values)).mean < 2 ^ 47 := by
  by_cases empty : readings values = []
  · rw [empty]
    exact ⟨by decide, by decide⟩
  · have between := RunningStat.mean_bounded (-2 ^ 47) (2 ^ 47 - 1) empty fun reading member => by
        obtain ⟨value, measured, rfl⟩ := List.mem_map.mp member
        have fitted := fits value measured
        unfold FitsScaled at fitted
        omega
    omega

theorem count_eq_zero (empty : (RunningStat.ofList values).count = 0) :
    RunningStat.ofList values = .start := by
  rw [RunningStat.count_ofList] at empty
  rw [List.length_eq_zero_iff.mp empty]
  rfl

theorem Tracks.add (tracks : Tracks values record) (room : values.length + 1 < 2 ^ 32)
    (value : Int64) : ∃ next, record.add value = some next ∧ Tracks (values ++ [value]) next := by
  have counter : record.ancillary.N.toNat + 1 < 2 ^ 32 := by rw [tracks.count]; exact room
  obtain ⟨anc, added, counted⟩ := perfmonRunningStatAdd_counts counter value
  refine ⟨_, congrArg (Option.map _) added, ?_⟩
  exact {
    count := by
      rw [counted, tracks.count, List.length_append, List.length_singleton]
    initial := fun empty => absurd empty (by simp)
    average := fun _ => rfl
    stat := fun fits => by
      have earlier : ∀ reading ∈ values, FitsScaled reading :=
        fun reading member => fits reading (by simp [member])
      have last := fits value (by simp)
      unfold FitsScaled at last
      rw [readings_concat, RunningStat.ofList_concat]
      exact perfmonRunningStatAdd_follows (tracks.stat earlier) counter count_eq_zero
        (mean_small earlier) (by omega) added
    min := fun _ fits => tracks.min_concat fits
    max := fun _ fits => tracks.max_concat fits }

theorem tracks_reset : Tracks [] .reset where
  count := rfl
  initial := fun _ => rfl
  average := fun some => absurd rfl some
  stat := fun _ => ⟨rfl, rfl, rfl, rfl, rfl⟩
  min := fun some => absurd rfl some
  max := fun some => absurd rfl some

variable [DecidableEq params]

/-- What a record has been given for a parameter since the last reset that covers it. -/
def measure (id : RecordId) (p : params) (values : List Int64) :
    PerfmonEvent params → List Int64
  | .add q v => if p = q then values ++ [v] else values
  | .reset type => if id.coveredBy type then [] else values

/-- The measurements of a parameter since its last reset. -/
def measured (id : RecordId) (p : params) (events : List (PerfmonEvent params)) : List Int64 :=
  events.foldl (measure id p) []

theorem measured_concat (id : RecordId) (p : params) (events : List (PerfmonEvent params))
    (event : PerfmonEvent params) :
    measured id p (events ++ [event]) = measure id p (measured id p events) event :=
  List.foldl_append

/-- The counter of no record comes round to zero. -/
def Counted (events : List (PerfmonEvent params)) : Prop :=
  ∀ earlier, earlier <+: events → ∀ id p, (measured id p earlier).length < 2 ^ 32

def Current (events : List (PerfmonEvent params)) (ds : DataSet params) : Prop :=
  ∀ id p, Tracks (measured id p events) (ds id p)

theorem DataRecord.add_tracks {given : params → List Int64} (tracks : ∀ q, Tracks (given q) (dr q))
    (p : params) (value : Int64) (room : (given p).length + 1 < 2 ^ 32) :
    ∃ next, DataRecord.add dr p value = some next ∧
      ∀ q, Tracks (if q = p then given q ++ [value] else given q) (next q) := by
  obtain ⟨record, added, tracked⟩ := (tracks p).add room value
  refine ⟨Function.update dr p record, congrArg (Option.map _) added, fun q => ?_⟩
  by_cases same : q = p
  · subst same
    rw [if_pos rfl, Function.update_self]
    exact tracked
  · rw [if_neg same, Function.update_of_ne same]
    exact tracks q

theorem Current.add (current : Current events ds) (p : params) (value : Int64)
    (room : ∀ id, (measured id p events).length + 1 < 2 ^ 32) :
    ∃ next, DataSet.add DataRecord.add ds p value = some next ∧
      Current (events ++ [.add p value]) next := by
  obtain ⟨short, shortAdded, shortTracks⟩ :=
    DataRecord.add_tracks (current .shortintv) p value (room .shortintv)
  obtain ⟨long, longAdded, longTracks⟩ :=
    DataRecord.add_tracks (current .longintv) p value (room .longintv)
  refine ⟨_, by rw [DataSet.add, shortAdded, longAdded]; rfl, fun id q => ?_⟩
  rw [measured_concat]
  cases id with
  | shortintv => exact shortTracks q
  | longintv => exact longTracks q

theorem Current.reset {ds : DataSet params} (current : Current events ds) (type : UInt8) :
    Current (events ++ [.reset type]) (DataSet.reset ds type) := by
  intro id p
  rw [measured_concat, measure, DataSet.reset]
  split
  · exact tracks_reset
  · exact current id p

theorem run_current {events : List (PerfmonEvent params)} (counted : Counted events) :
    ∃ ds, (perfmonSystem (DataSet.add DataRecord.add) DataSet.reset).run
      (perfmonSystem (DataSet.add DataRecord.add) DataSet.reset).start events = some ds ∧
        Current events ds := by
  induction events using List.reverseRecOn with
  | nil =>
    refine ⟨_, rfl, fun id p => ?_⟩
    cases id <;> exact tracks_reset
  | append_singleton earlier event ih =>
    obtain ⟨ds, ran, current⟩ := ih fun before start =>
      counted before (start.trans (List.prefix_append _ _))
    cases event with
    | add p value =>
      have room : ∀ id, (measured id p earlier).length + 1 < 2 ^ 32 := by
        intro id
        have last := counted _ (List.prefix_refl _) id p
        rw [measured_concat, measure, if_pos rfl, List.length_append] at last
        exact last
      obtain ⟨next, added, currentNext⟩ := current.add p value room
      refine ⟨next, ?_, currentNext⟩
      rw [System.run_append, ran]
      exact congrArg (Option.bind · some) added
    | reset type =>
      refine ⟨DataSet.reset ds type, ?_, current.reset type⟩
      rw [System.run_append, ran]
      rfl

end Measured

end EnetTsn.Perfmon
