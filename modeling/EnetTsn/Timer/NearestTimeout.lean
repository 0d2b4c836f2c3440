import EnetTsn.Timer.TimerRuns

namespace EnetTsn.Timer

open EnetTsn.Library

/-- The microseconds from one time to a later one, as the `int` that they are returned in. -/
def usecUntil (abstimeNsec cts64 : UInt64) : Int32 :=
  Int32.ofNat ((abstimeNsec - cts64) / usecNs).toNat

/-- `cb_xtimer_man_nearest_timeout`, and the result of `cb_xtimer_man_schedule`. -/
def cbXtimerManNearestTimeout (man : XtimerMan τ β) (cts64 : UInt64) : Option Int32 :=
  match man.runningTimers.head with
  | none => some (-2)
  | some tnode => (man.ndata tnode).map fun tdata =>
    if tdata.abstimeNsec ≤ cts64 then 0 else usecUntil tdata.abstimeNsec cts64

def cbXtimerRemainTimeout (man : XtimerMan τ β) (timer : τ) (cts64 : UInt64) : Option Int32 :=
  (man.ndata timer).map fun tdata =>
    if tdata.isRunning = false ∨ tdata.abstimeNsec ≤ cts64 then 0
    else usecUntil tdata.abstimeNsec cts64

section Until

variable {early late cts64 : UInt64}

theorem toInt_usecUntil (ahead : cts64 < late) (near : late.toNat < cts64.toNat + 2 ^ 31 * 1000) :
    (usecUntil late cts64).toInt = ((late.toNat - cts64.toNat) / 1000 : Nat) := by
  have micros : ((late - cts64) / usecNs).toNat = (late.toNat - cts64.toNat) / 1000 := by
    rw [UInt64.toNat_div, UInt64.toNat_sub_of_le _ _ (UInt64.le_of_lt ahead)]
    rfl
  rw [usecUntil, micros, Int32.toInt_ofNat_of_lt (by omega)]

theorem usecUntil_nonneg (ahead : cts64 < late)
    (near : late.toNat < cts64.toNat + 2 ^ 31 * 1000) : 0 ≤ usecUntil late cts64 := by
  rw [Int32.le_iff_toInt_le, toInt_usecUntil ahead near]
  exact Int.natCast_nonneg _

private theorem usecUntil_le (order : early ≤ late) (ahead : cts64 < early)
    (near : late.toNat < cts64.toNat + 2 ^ 31 * 1000) :
    usecUntil early cts64 ≤ usecUntil late cts64 := by
  have below : early.toNat ≤ late.toNat := order
  rw [Int32.le_iff_toInt_le, toInt_usecUntil ahead (by omega),
    toInt_usecUntil (UInt64.lt_of_lt_of_le ahead order) near]
  omega

end Until

/-- The nearest timeout is that of a running timer, and no running timer whose timeout fits an
`int` has less time left. -/
structure TimerState.TellsNearest [DecidableEq τ] (state : TimerState τ β) (cts64 : UInt64)
    (nearest : Int32) : Prop where
  told : cbXtimerManNearestTimeout state.man cts64 = some nearest
  idle : state.running = [] → nearest = -2
  attained : state.running ≠ [] →
    ∃ timer ∈ state.running, cbXtimerRemainTimeout state.man timer cts64 = some nearest
  least : ∀ timer ∈ state.running,
    (state.man.abstime timer).toNat < cts64.toNat + 2 ^ 31 * 1000 →
      ∃ remains, cbXtimerRemainTimeout state.man timer cts64 = some remains ∧
        0 ≤ nearest ∧ nearest ≤ remains

variable {τ β : Type} [DecidableEq τ] {state : TimerState τ β} {outcome : Outcome τ β}

namespace TimerState.Orderly

variable (orderly : state.Orderly)
include orderly

theorem data (member : timer ∈ state.running) :
    ∃ tdata, state.man.ndata timer = some tdata ∧ tdata.isRunning = true :=
  (Option.any_eq_true _ _).mp ((orderly.marked timer).mpr (.inl member))

theorem remain (member : timer ∈ state.running) (cts64 : UInt64) :
    cbXtimerRemainTimeout state.man timer cts64 = some (if state.man.abstime timer ≤ cts64 then 0
        else usecUntil (state.man.abstime timer) cts64) := by
  obtain ⟨tdata, data, running⟩ := orderly.data member
  simp [cbXtimerRemainTimeout, XtimerMan.abstime, data, running]

theorem tellsNearest (cts64 : UInt64) : ∃ nearest, state.TellsNearest cts64 nearest := by
  have start : state.man.runningTimers.head = state.running.head? := orderly.linked.head
  cases timers : state.running with
  | nil =>
    refine ⟨-2, ?_, fun _ => rfl, fun some => absurd timers some, ?_⟩
    · simp [cbXtimerManNearestTimeout, start, timers]
    · intro timer member
      rw [timers] at member
      cases member
  | cons first later =>
    have member : first ∈ state.running := timers ▸ List.mem_cons_self
    have earliest : ∀ timer ∈ state.running, state.man.abstime first ≤ state.man.abstime timer := by
      have sorted := orderly.sorted
      rw [timers] at sorted ⊢
      exact List.forall_mem_cons.mpr ⟨UInt64.le_refl _, (List.pairwise_cons.mp sorted).1⟩
    refine ⟨_, ?told, fun none => ?idle, fun _ => ⟨first, member, orderly.remain member cts64⟩,
      ?least⟩
    case told =>
      obtain ⟨tdata, data, _⟩ := orderly.data member
      simp [cbXtimerManNearestTimeout, start, timers, XtimerMan.abstime, data]
    case idle => simp [timers] at none
    case least =>
      intro timer inside near
      refine ⟨_, orderly.remain inside cts64, ?_⟩
      have order := earliest timer inside
      by_cases due : state.man.abstime first ≤ cts64
      · rw [if_pos due]
        refine ⟨Int32.le_refl 0, ?_⟩
        split
        · exact Int32.le_refl 0
        · rename_i waits
          exact usecUntil_nonneg (UInt64.not_le.mp waits) near
      · have ahead := UInt64.not_le.mp due
        have waits := UInt64.lt_of_lt_of_le ahead order
        rw [if_neg due, if_neg (UInt64.not_le.mpr waits)]
        exact ⟨usecUntil_nonneg ahead (Nat.lt_of_le_of_lt order near),
          usecUntil_le order ahead near⟩

end TimerState.Orderly

theorem nearest_timeout_least (reachable : timerSystem.Reachable Permitted outcome) :
    ∃ state : TimerState τ β, outcome = .intact state ∧
      ∀ cts64, ∃ nearest, state.TellsNearest cts64 nearest := by
  obtain ⟨state, same, orderly⟩ := orderly_of_reachable reachable
  exact ⟨state, same, orderly.tellsNearest⟩

def twoTimers : List (TimerEvent Nat Unit) :=
  [.create 0 none, .create 1 none, .start 0 20 1, .start 1 10 1]

theorem nearest_timeout_least_two : ∃ state : TimerState Nat Unit,
    state.history = [.started 1, .started 0] ∧
      ∀ cts64, ∃ nearest, state.TellsNearest cts64 nearest := by
  have evaluated : ((timerSystem.restrict fun outcome event =>
      decide (Permitted outcome event)).run timerSystem.start twoTimers).map Outcome.records =
      some (some [.started 1, .started 0]) := by decide +kernel
  obtain ⟨outcome, finished, recorded⟩ := Option.map_eq_some_iff.mp evaluated
  obtain ⟨state, rfl, tells⟩ := nearest_timeout_least
    ((System.reachable_of_run finished).of_restrict fun _ _ => of_decide_eq_true)
  exact ⟨state, Option.some.inj recorded, tells⟩

end EnetTsn.Timer
