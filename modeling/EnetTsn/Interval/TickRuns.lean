import EnetTsn.Interval.ReceiverRuns
import EnetTsn.Interval.TickInterval

namespace EnetTsn.Interval

open EnetTsn.Bmcs EnetTsn.Gptp EnetTsn.Library

section Shortest

private theorem shorten_le_iff (minimum interval bound : UInt64) :
    shorten minimum interval ≤ bound ↔ minimum ≤ bound ∨ interval ≠ 0 ∧ interval ≤ bound := by
  unfold shorten
  split
  · rename_i active
    split
    · rename_i less
      constructor
      · exact fun le => .inr ⟨active, le⟩
      · rintro (le | ⟨_, le⟩)
        · exact UInt64.le_trans (UInt64.le_of_lt less) le
        · exact le
    · rename_i notLess
      constructor
      · exact .inl
      · rintro (le | ⟨_, le⟩)
        · exact le
        · exact UInt64.le_trans (UInt64.not_lt.mp notLess) le
  · rename_i inactive
    exact ⟨.inl, fun either => either.resolve_right fun other => inactive other.1⟩

private theorem foldl_shorten_le_iff (intervals : List UInt64) (minimum bound : UInt64) :
    intervals.foldl shorten minimum ≤ bound ↔
      minimum ≤ bound ∨ ∃ own ∈ intervals, own ≠ 0 ∧ own ≤ bound := by
  induction intervals generalizing minimum with
  | nil => simp
  | cons interval intervals ih =>
    simp only [List.foldl_cons, ih, shorten_le_iff, List.mem_cons, or_and_right, exists_or,
      exists_eq_left, or_assoc]

namespace ToutIntervals

variable (intervals : ToutIntervals)

def shortest : UInt64 := intervals.toList.foldl shorten maxToutIntervalNs

def Reaches (bound : UInt64) : Prop :=
  maxToutIntervalNs ≤ bound ∨ ∃ own ∈ intervals.toList, own ≠ 0 ∧ own ≤ bound

theorem shortest_le_iff (bound : UInt64) : intervals.shortest ≤ bound ↔ intervals.Reaches bound :=
  foldl_shorten_le_iff intervals.toList maxToutIntervalNs bound

private theorem shortest_le_max : intervals.shortest ≤ maxToutIntervalNs :=
  (intervals.shortest_le_iff maxToutIntervalNs).mpr (.inl (UInt64.le_refl _))

end ToutIntervals

theorem toUInt64_adjustToutInterval (current : UInt32) (intervals : ToutIntervals) :
    (adjustToutInterval current intervals).toUInt64 = intervals.shortest := by
  have most := intervals.shortest_le_max
  have small : intervals.shortest.toUInt32.toUInt64 = intervals.shortest := by
    apply UInt64.toNat_inj.mp
    have below := UInt64.le_iff_toNat_le.mp most
    exact Nat.mod_eq_of_lt (Nat.lt_of_le_of_lt below (by decide))
  have same : adjustToutInterval current intervals = intervals.shortest.toUInt32 := by
    have clip : (if maxToutIntervalNs < intervals.shortest then maxToutIntervalNs
        else intervals.shortest) = intervals.shortest := if_neg (UInt64.not_lt.mpr most)
    change (if (if maxToutIntervalNs < intervals.shortest then maxToutIntervalNs
        else intervals.shortest).toUInt32 ≠ current then _ else current) = _
    rw [clip]
    split
    · exact congrArg UInt64.toUInt32 clip
    · rename_i unchanged
      exact (not_not.mp unchanged).symm
  rw [same, small]

private theorem foldl_replace (taken : α → Bool) (value : α → β) (elements : List α) (first : β) :
    elements.foldl (fun current element => if taken element then value element else current) first =
      ((elements.filter taken).getLast?.map value).getD first := by
  induction elements generalizing first with
  | nil => rfl
  | cons element elements ih =>
    rw [List.foldl_cons, ih, List.filter_cons]
    split
    · rw [List.getLast?_cons]
      cases (elements.filter taken).getLast? <;> rfl
    · rfl

def lastChange (toutInterval : UInt32) (calls : List ToutIntervals) : Option ToutIntervals :=
  (calls.filter fun intervals => intervals.shortest != toutInterval.toUInt64).getLast?

/-- The port that is adjusted to last has an interval that is at most the bound; without such a
port the tick itself is. -/
def Governs (toutInterval : UInt32) (calls : List ToutIntervals) (bound : UInt64) : Prop :=
  match lastChange toutInterval calls with
  | some intervals => intervals.Reaches bound
  | none => toutInterval.toUInt64 ≤ bound

theorem adjustAll_le_iff (toutInterval : UInt32) (calls : List ToutIntervals) (bound : UInt64) :
    (adjustAll toutInterval calls).toUInt64 ≤ bound ↔ Governs toutInterval calls bound := by
  have differs (intervals : ToutIntervals) :
      (adjustToutInterval toutInterval intervals ≠ toutInterval) =
        ((intervals.shortest != toutInterval.toUInt64) = true) := by
    rw [bne_iff_ne, ← toUInt64_adjustToutInterval toutInterval intervals]
    exact propext (not_congr UInt32.toUInt64_inj.symm)
  have last : adjustAll toutInterval calls = ((lastChange toutInterval calls).map
      (adjustToutInterval toutInterval)).getD toutInterval := by
    unfold adjustAll lastChange
    simp only [differs]
    exact foldl_replace _ _ _ _
  rw [last]
  unfold Governs
  cases lastChange toutInterval calls with
  | none => rfl
  | some intervals =>
    rw [Option.map_some, Option.getD_some, toUInt64_adjustToutInterval]
    exact intervals.shortest_le_iff bound

end Shortest

namespace Manager

/-- The ports that adjust the tick for a request govern all intervals that are active then. -/
def Suits (cfg : ManagerConfig) (manager : Manager) (event : IntervalRequest) : Prop :=
  ∀ next calls, manager.request cfg event = some (next, calls) →
    ∀ interval, next.Active cfg interval → Governs manager.toutInterval calls interval

def Configured (cfg : ManagerConfig) (configured : Manager) : Prop :=
  ∀ interval, configured.Active cfg interval →
    Governs configured.toutInterval (cfg.portIndices.map (configured.intervals 0)) interval

theorem ticks_adjust_iff {manager : Manager} {toutInterval : UInt32} {calls : List ToutIntervals} :
    (manager.adjust toutInterval calls).Ticks cfg ↔
      ∀ interval, manager.Active cfg interval → Governs toutInterval calls interval := by
  refine forall_congr' fun interval => imp_congr Iff.rfl ?_
  exact adjustAll_le_iff toutInterval calls interval

theorem ticks_start_iff : (tickSystem cfg configured).start.Ticks cfg ↔ configured.Configured cfg :=
  ticks_adjust_iff

private theorem ticks_step_iff {configured manager next : Manager} {event : IntervalRequest}
    (taken : (tickSystem cfg configured).step manager event = some next) :
    next.Ticks cfg ↔ manager.Suits cfg event := by
  obtain ⟨⟨requested, calls⟩, done, rfl⟩ := Option.map_eq_some_iff.mp taken
  refine ticks_adjust_iff.trans ⟨fun all other calls' same => ?_, fun suits => suits _ _ done⟩
  cases done.symm.trans same
  exact all

end Manager

/-- The tick is at most every active interval in all states of a run exactly when the configured
intervals and all requests of the run suit. -/
theorem ticks_iff_suits {cfg : ManagerConfig} {configured : Manager} {pair : Manager × List Manager}
    (reachable : (tickSystem cfg configured).visiting.Reachable System.anyStep pair) :
    (∀ manager ∈ pair.2, manager.Ticks cfg) ↔ configured.Configured cfg ∧
      (tickSystem cfg configured).visiting.Reachable
        (fun pair event => pair.1.Suits cfg event) pair := by
  rw [System.visiting_iff (Manager.Ticks cfg) (fun _ _ _ _ => Manager.ticks_step_iff) reachable,
    Manager.ticks_start_iff]

section Samples

def ManagerConfig.twoPorts : ManagerConfig where
  maxPorts := 3
  maxDomains := 1
  domainDataExist di := di == 0

def Manager.sending (first second : Int8) : Manager where
  toutInterval := 125000000
  domains _ :=
    let domain := Domain.init (Config.sample 0) Settings.sample
    { domain with ports := fun pi =>
        let port := domain.ports pi
        { port with ppg := { port.ppg with portOper := true, ptpPortEnabled := true } } }
  syncSettings _ pi := RequestSetting.init
    { ReceiverSettings.sample.sync with
      initialLog := if pi = 1 then first else second
      interval := logToNsec (if pi = 1 then first else second) }
  linkDelaySettings _ := RequestSetting.init
    { ReceiverSettings.sample.linkDelay with interval := logToNsec 0 }

def PTPMsgIntervalRequestTLV.keeping : PTPMsgIntervalRequestTLV := .asking (-128)

instance (cfg : ManagerConfig) (manager : Manager) : Decidable (manager.Ticks cfg) :=
  decidable_of_iff (∀ di ∈ cfg.domainIndices, ∀ pi ∈ cfg.portIndices,
      (manager.intervals di pi).toList.all fun interval =>
        decide (interval ≠ 0 → manager.toutInterval.toUInt64 ≤ interval))
    ⟨fun all interval ⟨di, domain, pi, port, member, active⟩ =>
      of_decide_eq_true (List.all_eq_true.mp (all di domain pi port) interval member) active,
      fun all di domain pi port => List.all_eq_true.mpr fun interval member =>
        decide_eq_true fun active => all interval ⟨di, domain, pi, port, member, active⟩⟩

end Samples

/-- The second request halves the shortest interval, and the tick with it. -/
theorem ticks_iff_suits_halved : ∃ pair : Manager × List Manager,
    pair.2.map Manager.toutInterval = [31250000, 31250000, 15625000] ∧
      (∀ manager ∈ pair.2, manager.Ticks .twoPorts) ∧
      (tickSystem .twoPorts (.sending (-5) (-3))).visiting.Reachable
        (fun pair event => pair.1.Suits .twoPorts event) pair := by
  let system := (tickSystem .twoPorts (.sending (-5) (-3))).visiting
  have ran : (system.run system.start
      [.messageInterval 0 1 (.asking (-6)), .messageInterval 0 1 (.asking (-6))]).map (fun pair =>
        (pair.2.map Manager.toutInterval, decide (∀ manager ∈ pair.2, manager.Ticks .twoPorts))) =
      some ([31250000, 31250000, 15625000], true) := by
    decide +kernel
  obtain ⟨pair, finished, shown⟩ := Option.map_eq_some_iff.mp ran
  obtain ⟨intervals, ticks⟩ := Prod.mk.inj shown
  have ticking := of_decide_eq_true ticks
  exact ⟨pair, intervals, ticking,
    ((ticks_iff_suits (System.reachable_of_run finished)).mp ticking).2⟩

/-- A request to the port with the longer intervals makes the tick longer than the Sync interval of
the other port. -/
theorem not_ticks_kept :
    ¬ ∀ (cfg : ManagerConfig) (configured manager : Manager), configured.Configured cfg →
      (tickSystem cfg configured).Reachable System.anyStep manager → manager.Ticks cfg := by
  intro all
  let system := tickSystem .twoPorts (.sending (-5) (-3))
  have started : system.start.Ticks .twoPorts := by decide +kernel
  have ran : (system.run system.start [.messageInterval 0 2 .keeping]).map
      (fun manager => decide (manager.Ticks .twoPorts)) = some false := by decide +kernel
  obtain ⟨manager, finished, longer⟩ := Option.map_eq_some_iff.mp ran
  have ticks := all .twoPorts _ manager (Manager.ticks_start_iff.mp started)
    (System.reachable_of_run finished)
  exact absurd ticks (of_decide_eq_false longer)

end EnetTsn.Interval
