import EnetTsn.Timer.TimerInvariant

namespace EnetTsn.Timer

open EnetTsn.Library

variable {τ β : Type} [DecidableEq τ]

def TimerState.running (state : TimerState τ β) : List τ :=
  state.man.runningTimers.toList state.man.heap

/-- The timers that have expired in the passes under way, and wait for their callback. -/
def TimerState.waiting (state : TimerState τ β) : List τ :=
  state.calls.flatMap fun call => call.expiredTimers.toList state.man.heap

def expiries (timer : τ) (history : List (Record τ β)) : Nat :=
  history.countP fun record => match record with
    | .expired other => other = timer
    | _ => false

def callbacks (timer : τ) (history : List (Record τ β)) : Nat :=
  history.countP fun record => match record with
    | .called other _ => other = timer
    | _ => false

def latest (timer : τ) (history : List (Record τ β)) : Option (Record τ β) :=
  history.find? fun record => record.timer = timer

/-- What the timer manager promises in every state. Between two passes no timer waits. -/
structure TimerState.Orderly (state : TimerState τ β) : Prop where
  linked : Linked state.man.heap state.man.runningTimers state.running
  sorted : state.running.Pairwise fun first second =>
    state.man.abstime first ≤ state.man.abstime second
  once : (state.running ++ state.waiting).Nodup
  marked : ∀ timer, state.man.isRunning timer = true ↔
    timer ∈ state.running ∨ timer ∈ state.waiting
  answered : ∀ timer, expiries timer state.history =
    callbacks timer state.history + if timer ∈ state.waiting then 1 else 0
  due : ∀ later timer expirecb earlier, state.history = later ++ .called timer expirecb :: earlier →
    latest timer earlier = some (.expired timer)
  alive : ∀ later timer earlier, state.history = later ++ .expired timer :: earlier →
    latest timer earlier = some (.started timer)

/-- No timer is stopped or deleted while it waits for its callback, and none is deleted
while its callback runs. -/
def Permitted (outcome : Outcome τ β) (event : TimerEvent τ β) : Prop :=
  match outcome, event with
  | .intact state, .stop timer => timer ∉ state.waiting
  | .intact state, .delete timer => timer ∉ state.waiting ∧
      ∀ call ∈ state.calls, call.point ≠ .callback timer
  | _, _ => True

instance : (outcome : Outcome τ β) → (event : TimerEvent τ β) → Decidable (Permitted outcome event)
  | .intact state, .stop timer => inferInstanceAs (Decidable (timer ∉ state.waiting))
  | .intact state, .delete timer => inferInstanceAs (Decidable (timer ∉ state.waiting ∧
      ∀ call ∈ state.calls, call.point ≠ .callback timer))
  | .intact _, .create _ _ | .intact _, .start _ _ _ | .intact _, .setPeriodic _
  | .intact _, .clearPeriodic _ | .intact _, .schedule _ | .intact _, .turn
  | .intact _, .callbackReturn | .freedTouched, _ => isTrue trivial

variable {state : TimerState τ β} {outcome : Outcome τ β} {event : TimerEvent τ β}
  {running : List τ} {parts : List (List τ)} {timer : τ} {history : List (Record τ β)} {life : Life}

omit [DecidableEq τ] in
theorem Queued.waiting (queued : Queued heap calls parts) :
    calls.flatMap (fun call => call.expiredTimers.toList heap) = parts.flatten := by
  induction queued with
  | nil => rfl
  | cons linked _ ih => rw [List.flatMap_cons, List.flatten_cons, linked.toList, ih]

theorem lifeOf_latest (lived : lifeOf timer history = some life) :
    (life = .expired → latest timer history = some (.expired timer)) ∧
      (life = .running → latest timer history = some (.started timer)) := by
  induction history generalizing life with
  | nil =>
    cases lived
    exact ⟨by simp, by simp⟩
  | cons record earlier ih =>
    by_cases own : record.timer = timer
    · rw [lifeOf, if_pos own] at lived
      obtain ⟨before, _, after⟩ := Option.bind_eq_some_iff.mp lived
      have found : latest timer (record :: earlier) = some record := by
        simp [latest, own]
      rw [found, ← own]
      cases record with
      | started _ =>
        cases before <;> cases after
        exact ⟨by simp, fun _ => rfl⟩
      | expired _ =>
        cases before <;> cases after
        exact ⟨fun _ => rfl, by simp⟩
      | called _ _ =>
        cases before <;> cases after
        exact ⟨by simp, by simp⟩
      | stopped _ => cases before <;> cases after <;> exact ⟨by simp, by simp⟩
    · rw [lifeOf, if_neg own] at lived
      have found : latest timer (record :: earlier) = latest timer earlier := by
        simp [latest, own]
      rw [found]
      exact ih lived

variable (later : List (Record τ β))

theorem lifeOf_suffix (lived : lifeOf timer (later ++ history) = some life) :
    ∃ before, lifeOf timer history = some before := by
  induction later generalizing life with
  | nil => exact ⟨life, lived⟩
  | cons record rest ih =>
    rw [List.cons_append, lifeOf] at lived
    split at lived
    · obtain ⟨before, earlier, _⟩ := Option.bind_eq_some_iff.mp lived
      exact ih earlier
    · exact ih lived

private theorem expired_of_called (expirecb : Option β)
    (lived : lifeOf timer (later ++ .called timer expirecb :: history) = some life) :
    latest timer history = some (.expired timer) := by
  obtain ⟨after, called⟩ := lifeOf_suffix later lived
  have own : (Record.called timer expirecb).timer = timer := rfl
  rw [lifeOf, if_pos own] at called
  obtain ⟨before, lifeBefore, step⟩ := Option.bind_eq_some_iff.mp called
  apply (lifeOf_latest lifeBefore).1
  cases before <;> cases step
  rfl

private theorem started_of_expired (lived : lifeOf timer (later ++ .expired timer :: history) = some life) :
    latest timer history = some (.started timer) := by
  obtain ⟨after, expired⟩ := lifeOf_suffix later lived
  have own : (Record.expired timer : Record τ β).timer = timer := rfl
  rw [lifeOf, if_pos own] at expired
  obtain ⟨before, lifeBefore, step⟩ := Option.bind_eq_some_iff.mp expired
  apply (lifeOf_latest lifeBefore).2
  cases before <;> cases step
  rfl

private theorem expiries_of_lifeOf (lived : lifeOf timer history = some life) :
    expiries timer history = callbacks timer history + if life = .expired then 1 else 0 := by
  induction history generalizing life with
  | nil =>
    cases lived
    rfl
  | cons record earlier ih =>
    by_cases own : record.timer = timer
    · rw [lifeOf, if_pos own] at lived
      obtain ⟨before, lifeBefore, step⟩ := Option.bind_eq_some_iff.mp lived
      have counted := ih lifeBefore
      cases record <;> cases before <;> cases step <;> simp_all [expiries, callbacks, Record.timer]
    · rw [lifeOf, if_neg own] at lived
      have counted := ih lived
      cases record <;> simp_all [expiries, callbacks, Record.timer]

namespace TimerState

section

variable (holds : state.Holds running parts)
include holds

theorem Holds.operate
    (permitted : Permitted (.intact state) event) (taken : state.operate event = some outcome) :
    ∃ next running' parts', outcome = .intact next ∧ next.Holds running' parts' := by
  have waiting : state.waiting = parts.flatten := holds.queued.waiting
  have given : ∀ timer, (state.man.ndata timer).isSome = true →
      ∃ tdata, state.man.ndata timer = some tdata := fun _ => Option.isSome_iff_exists.mp
  cases event with
  | create timer expirecb =>
    obtain ⟨⟨noData, noNode⟩, same⟩ := Option.ite_none_right_eq_some.mp taken
    cases same
    exact ⟨_, running, parts, rfl, holds.create expirecb (Option.isNone_iff_eq_none.mp noData)
      (Option.isNone_iff_eq_none.mp noNode)⟩
  | start timer timeoutUs now =>
    obtain ⟨present, same⟩ := Option.ite_none_right_eq_some.mp taken
    obtain ⟨tdata, found⟩ := given timer present
    obtain ⟨result, started, running', after⟩ := holds.start found timeoutUs now
    rw [started] at same
    cases same
    exact ⟨_, running', parts, rfl, after⟩
  | stop timer =>
    obtain ⟨present, same⟩ := Option.ite_none_right_eq_some.mp taken
    obtain ⟨tdata, found⟩ := given timer present
    have awake : timer ∉ parts.flatten := waiting ▸ permitted
    obtain ⟨man, stopped, left, after⟩ := holds.stop found awake
    rw [stopped] at same
    cases same
    exact ⟨_, left, parts, rfl, after⟩
  | delete timer =>
    obtain ⟨present, same⟩ := Option.ite_none_right_eq_some.mp taken
    obtain ⟨tdata, found⟩ := given timer present
    obtain ⟨notWaiting, returned⟩ := permitted
    have awake : timer ∉ parts.flatten := waiting ▸ notWaiting
    obtain ⟨man, deleted, left, after⟩ := holds.delete found awake returned
    rw [deleted] at same
    cases same
    exact ⟨_, left, parts, rfl, after⟩
  | setPeriodic timer =>
    obtain ⟨present, same⟩ := Option.ite_none_right_eq_some.mp taken
    obtain ⟨tdata, found⟩ := given timer present
    rw [cbXtimerSetPeriodic, setPeriodicTo, found] at same
    cases same
    exact ⟨_, running, parts, rfl, holds.setNdata found _ rfl rfl⟩
  | clearPeriodic timer =>
    obtain ⟨present, same⟩ := Option.ite_none_right_eq_some.mp taken
    obtain ⟨tdata, found⟩ := given timer present
    rw [cbXtimerClearPeriodic, setPeriodicTo, found] at same
    cases same
    exact ⟨_, running, parts, rfl, holds.setNdata found _ rfl rfl⟩
  | schedule now =>
    cases taken
    exact ⟨_, running, [] :: parts, rfl, holds.schedule now⟩
  | turn => cases taken
  | callbackReturn => cases taken

theorem Holds.proceed (taken : state.proceed event = some outcome) :
    ∃ next running' parts', outcome = .intact next ∧ next.Holds running' parts' := by
  unfold TimerState.proceed at taken
  split at taken
  · rename_i call outer calls
    split at taken
    · rename_i collecting
      obtain ⟨next, turned, running', parts', after⟩ := holds.collectTurn calls collecting
      rw [turned] at taken
      cases taken
      exact ⟨next, running', parts', rfl, after⟩
    · rename_i processing
      obtain ⟨next, turned, running', parts', after⟩ := holds.processTurn calls processing
      rw [turned] at taken
      cases taken
      exact ⟨next, running', parts', rfl, after⟩
    · cases taken
  · rename_i call outer calls
    split at taken
    · rename_i timer atCallback
      have present : (state.man.ndata timer).isSome :=
        holds.current call (calls ▸ List.mem_cons_self) timer atCallback
      obtain ⟨next, returned, running', after⟩ :=
        (holds.advance calls .process nofun).afterCallback present
      rw [returned] at taken
      cases taken
      exact ⟨next, running', parts, rfl, after⟩
    · cases taken
    · cases taken
  · cases taken

theorem Holds.step
    (permitted : Permitted (.intact state) event) (taken : state.step event = some outcome) :
    ∃ next running' parts', outcome = .intact next ∧ next.Holds running' parts' := by
  unfold TimerState.step at taken
  split at taken
  · exact holds.proceed taken
  · exact holds.proceed taken
  · exact holds.operate permitted (Option.ite_none_right_eq_some.mp taken).2

end

private theorem timerStart_holds : (timerStart : TimerState τ β).Holds [] [] where
  linked := linked_empty
  queued := .nil
  once := List.nodup_nil
  allocated _ := rfl
  marked timer := by simp [timerStart, XtimerMan.isRunning]
  sorted := .nil
  current _ impossible := absurd impossible List.not_mem_nil
  lives _ := rfl

theorem Holds.orderly (holds : state.Holds running parts) : state.Orderly := by
  have list : state.running = running := holds.linked.toList
  have waiting : state.waiting = parts.flatten := holds.queued.waiting
  have apart := List.disjoint_of_nodup_append holds.once
  exact {
    linked := list ▸ holds.linked
    sorted := list ▸ holds.sorted
    once := by
      rw [list, waiting]
      exact holds.once
    marked := fun timer => by
      rw [list, waiting, ← List.mem_append]
      exact holds.marked timer
    answered := fun timer => by
      have expired : lifeIn running parts.flatten timer = .expired ↔ timer ∈ parts.flatten := by
        by_cases member : timer ∈ running
        · rw [lifeIn_running member]
          exact ⟨nofun, fun inside => absurd inside (apart member)⟩
        · by_cases inside : timer ∈ parts.flatten
          · rw [lifeIn_waiting member inside]
            exact iff_of_true rfl inside
          · rw [lifeIn_idle member inside]
            exact ⟨nofun, fun other => absurd other inside⟩
      rw [expiries_of_lifeOf (holds.lives timer), waiting]
      simp only [expired]
    due := fun later timer expirecb earlier split => by
      have lived := holds.lives timer
      rw [split] at lived
      exact expired_of_called later expirecb lived
    alive := fun later timer earlier split => by
      have lived := holds.lives timer
      rw [split] at lived
      exact started_of_expired later lived }

end TimerState

theorem orderly_of_reachable (reachable : timerSystem.Reachable Permitted outcome) :
    ∃ state : TimerState τ β, outcome = .intact state ∧ state.Orderly := by
  have invariant : ∃ state running parts, outcome = .intact state ∧
      TimerState.Holds (τ := τ) (β := β) state running parts := by
    apply reachable.invariant (fun outcome => ∃ state running parts,
      outcome = .intact state ∧ TimerState.Holds state running parts)
    · exact ⟨_, [], [], rfl, TimerState.timerStart_holds⟩
    · rintro _ event next ⟨state, running, parts, rfl, holds⟩ permitted taken
      exact holds.step permitted taken
  obtain ⟨state, running, parts, same, holds⟩ := invariant
  exact ⟨state, same, holds.orderly⟩

/-- **The timer manager is orderly in every state that permitted steps reach.** -/
theorem timers_orderly (reachable : timerSystem.Reachable Permitted outcome) :
    ∃ state, outcome = .intact state ∧ state.Orderly :=
  orderly_of_reachable reachable

def Outcome.records : Outcome τ β → Option (List (Record τ β))
  | .intact state => some state.history
  | .freedTouched => none

/-- Two timers expire in one pass, and the first is periodic; the callback of the second
stops the first. -/
def passEvents : List (TimerEvent Nat Unit) :=
  [.create 0 (some ()), .create 1 (some ()), .setPeriodic 0, .start 0 10 1, .start 1 20 1,
    .schedule 50000, .turn, .turn, .turn, .turn, .callbackReturn, .turn, .stop 0,
    .callbackReturn, .turn]

theorem timers_orderly_pass : ∃ state : TimerState Nat Unit, state.history =
    [.stopped 0, .called 1 (some ()), .started 0, .called 0 (some ()), .expired 1, .expired 0,
      .started 1, .started 0] ∧ state.Orderly := by
  have evaluated : ((timerSystem.restrict fun outcome event =>
      decide (Permitted outcome event)).run timerSystem.start passEvents).map Outcome.records =
      some (some [.stopped 0, .called 1 (some ()), .started 0, .called 0 (some ()), .expired 1,
        .expired 0, .started 1, .started 0]) := by decide +kernel
  obtain ⟨outcome, finished, recorded⟩ := Option.map_eq_some_iff.mp evaluated
  obtain ⟨state, rfl, orderly⟩ := timers_orderly ((System.reachable_of_run finished).of_restrict
    fun _ _ => of_decide_eq_true)
  exact ⟨state, Option.some.inj recorded, orderly⟩

def stopWaitingEvents : List (TimerEvent Nat Unit) :=
  [.create 0 (some ()), .create 1 (some ()), .start 0 10 1, .start 1 20 1, .schedule 50000,
    .turn, .turn, .turn, .turn, .stop 1, .callbackReturn, .turn]

/-- The callback of a stopped timer runs. -/
theorem stopped_timer_called : ¬ ∀ outcome : Outcome Nat Unit,
    timerSystem.Reachable System.anyStep outcome →
      ∃ state, outcome = .intact state ∧ state.Orderly := by
  intro always
  have evaluated : (timerSystem.run timerSystem.start stopWaitingEvents).map Outcome.records =
      some (some [.called 1 (some ()), .stopped 1, .called 0 (some ()), .expired 1, .expired 0,
        .started 1, .started 0]) := by decide +kernel
  obtain ⟨outcome, finished, recorded⟩ := Option.map_eq_some_iff.mp evaluated
  obtain ⟨state, rfl, orderly⟩ := always outcome (System.reachable_of_run finished)
  have due := orderly.due [] 1 (some ()) _ (Option.some.inj recorded)
  revert due
  decide

end EnetTsn.Timer
