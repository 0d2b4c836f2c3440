/-!
Systems that take one labelled step after another: which states a run reaches
when all its steps are allowed, and what holds in all of them.
-/

namespace EnetTsn.Library

/-- A state machine: an event may be impossible in a state. -/
structure System (σ ε : Type) where
  start : σ
  step : σ → ε → Option σ

namespace System

variable (system : System σ ε)

def run (state : σ) : List ε → Option σ
  | [] => some state
  | event :: events => (system.step state event).bind fun next => run next events

/-- The states of all runs of allowed events. -/
inductive Reachable (allowed : σ → ε → Prop) : σ → Prop
  | start : Reachable allowed system.start
  | step : Reachable allowed state → allowed state event →
      system.step state event = some next → Reachable allowed next

def anyStep : σ → ε → Prop := fun _ _ => True

def restrict (check : σ → ε → Bool) : System σ ε where
  start := system.start
  step state event := if check state event then system.step state event else none

def recorded : System (σ × List ε) ε where
  start := (system.start, [])
  step state event := (system.step state.1 event).map fun next => (next, event :: state.2)

def visiting : System (σ × List σ) ε where
  start := (system.start, [system.start])
  step pair event := (system.step pair.1 event).map fun next => (next, pair.2 ++ [next])

variable {system} (holds : σ → Prop)

theorem Reachable.invariant (start : holds system.start)
    (kept : ∀ state event next, holds state → allowed state event →
      system.step state event = some next → holds next)
    (reachable : system.Reachable allowed state) : holds state := by
  induction reachable with
  | start => exact start
  | step _ permitted taken ih => exact kept _ _ _ ih permitted taken

theorem Reachable.mono (weaker : ∀ state event, allowed state event → allowed' state event)
    (reachable : system.Reachable allowed state) : system.Reachable allowed' state := by
  induction reachable with
  | start => exact .start
  | step _ permitted taken ih => exact .step ih (weaker _ _ permitted) taken

theorem run_append (state : σ) (first second : List ε) : system.run state (first ++ second) =
      (system.run state first).bind fun middle => system.run middle second := by
  induction first generalizing state with
  | nil => rfl
  | cons event events ih =>
    simp only [List.cons_append, run]
    cases system.step state event with
    | none => rfl
    | some next => exact ih next

theorem Reachable.run_allowed (reachable : system.Reachable allowed state)
    (permitted : ∀ event ∈ events, ∀ state, allowed state event)
    (finished : system.run state events = some final) : system.Reachable allowed final := by
  induction events generalizing state with
  | nil =>
    cases finished
    exact reachable
  | cons event events ih =>
    obtain ⟨next, taken, rest⟩ := Option.bind_eq_some_iff.mp finished
    obtain ⟨first, later⟩ := List.forall_mem_cons.mp permitted
    exact ih (.step reachable (first state) taken) later rest

theorem Reachable.run (reachable : system.Reachable anyStep state)
    (finished : system.run state events = some final) : system.Reachable anyStep final :=
  reachable.run_allowed (fun _ _ _ => trivial) finished

theorem reachable_of_run (finished : system.run system.start events = some final) :
    system.Reachable anyStep final :=
  Reachable.start.run finished

/-- A property of the run so far that every allowed step keeps and every other step ends holds
exactly when all steps were allowed. -/
theorem Reachable.iff_allowed (start : holds system.start)
    (step : ∀ state event next, system.Reachable anyStep state →
      system.step state event = some next → (holds next ↔ holds state ∧ allowed state event))
    (reachable : system.Reachable anyStep state) :
    holds state ↔ system.Reachable allowed state := by
  constructor
  · intro held
    induction reachable with
    | start => exact .start
    | step earlier _ taken ih =>
      obtain ⟨before, permitted⟩ := (step _ _ _ earlier taken).mp held
      exact .step (ih before) permitted taken
  · intro permitted
    induction permitted with
    | start => exact start
    | step earlier permitted taken ih =>
      have before := earlier.mono fun _ _ _ => trivial
      exact (step _ _ _ before taken).mpr ⟨ih before, permitted⟩

theorem visited (reachable : system.visiting.Reachable anyStep pair) :
    system.start ∈ pair.2 ∧ pair.1 ∈ pair.2 := by
  induction reachable with
  | start => exact ⟨List.mem_singleton_self _, List.mem_singleton_self _⟩
  | step _ _ taken ih =>
    obtain ⟨next, _, rfl⟩ := Option.map_eq_some_iff.mp taken
    exact ⟨List.mem_append_left _ ih.1, List.mem_append_right _ (List.mem_singleton_self _)⟩

/-- All states of a run have a property that an event keeps exactly when it is allowed just when
the start has it and all steps were allowed. -/
theorem visiting_iff {allowed : σ → ε → Prop}
    (step : ∀ state event next, holds state → system.step state event = some next →
      (holds next ↔ allowed state event)) (reachable : system.visiting.Reachable anyStep pair) :
    (∀ state ∈ pair.2, holds state) ↔ holds system.start ∧
      system.visiting.Reachable (fun pair event => allowed pair.1 event) pair := by
  have kept (started : holds system.start) : (∀ state ∈ pair.2, holds state) ↔
      system.visiting.Reachable (fun pair event => allowed pair.1 event) pair := by
    refine reachable.iff_allowed (fun pair => ∀ state ∈ pair.2, holds state) ?_ ?_
    · exact fun state member => List.mem_singleton.mp member ▸ started
    · intro earlier event next reached taken
      obtain ⟨state, moved, rfl⟩ := Option.map_eq_some_iff.mp taken
      rw [List.forall_mem_append, List.forall_mem_singleton]
      exact and_congr_right fun all => step _ _ _ (all _ (visited reached).2) moved
  constructor
  · intro all
    have started := all _ (visited reachable).1
    exact ⟨started, (kept started).mp all⟩
  · exact fun both => (kept both.1).mpr both.2

theorem Reachable.of_restrict
    (sound : ∀ state event, check state event = true → allowed state event)
    (reachable : (system.restrict check).Reachable anyStep state) :
    system.Reachable allowed state := by
  induction reachable with
  | start => exact .start
  | step _ _ taken ih =>
    simp only [restrict] at taken
    split at taken
    · rename_i passed
      exact .step ih (sound _ _ passed) taken
    · cases taken

theorem recorded_step (taken : system.recorded.step state event = some next) :
    system.step state.1 event = some next.1 ∧ next.2 = event :: state.2 := by
  obtain ⟨after, stepped, rfl⟩ := Option.map_eq_some_iff.mp taken
  exact ⟨stepped, rfl⟩

theorem recorded_run (finished : system.run state.1 events = some final) :
    system.recorded.run state events = some (final, events.reverse ++ state.2) := by
  induction events generalizing state with
  | nil =>
    cases finished
    rfl
  | cons event events ih =>
    obtain ⟨next, taken, rest⟩ := Option.bind_eq_some_iff.mp finished
    have step : system.recorded.step state event = some (next, event :: state.2) := by
      simp [recorded, taken]
    have following : system.recorded.run (next, event :: state.2) events =
        some (final, events.reverse ++ event :: state.2) := ih rest
    simp [run, step, following]

end System

end EnetTsn.Library
