/-!
Loops of unknown length and the `while (true) switch (state)` machines built
from them. A loop body decides each turn whether to go round again; a bounded
interpreter runs it, and `Exits` says what it computes without a bound.
-/

namespace EnetTsn.Library

inductive Turn (σ ρ : Type) where
  | again (next : σ)
  | leave (final : σ) (result : ρ)

/-- Run a loop for a bounded number of turns. -/
def iterate (body : σ → Turn σ ρ) : Nat → σ → Option (σ × ρ)
  | 0, _ => none
  | fuel + 1, state => match body state with
    | .leave final result => some (final, result)
    | .again next => iterate body fuel next

/-- The loop started in `state` leaves in `final` with `result`. -/
inductive Exits (body : σ → Turn σ ρ) : σ → σ → ρ → Prop
  | leave : body state = .leave final result → Exits body state final result
  | again : body state = .again next → Exits body next final result →
      Exits body state final result

theorem iterate_exits {body : σ → Turn σ ρ}
    (finished : iterate body fuel state = some (final, result)) :
    Exits body state final result := by
  induction fuel generalizing state with
  | zero => simp [iterate] at finished
  | succ fuel ih =>
    cases turn : body state with
    | leave stop value =>
      simp only [iterate, turn, Option.some.injEq, Prod.mk.injEq] at finished
      obtain ⟨rfl, rfl⟩ := finished
      exact .leave turn
    | again next =>
      simp only [iterate, turn] at finished
      exact .again turn (ih finished)

theorem Exits.deterministic {body : σ → Turn σ ρ}
    (first : Exits body state final result) (second : Exits body state final' result') :
    final = final' ∧ result = result' := by
  induction first with
  | leave turn =>
    cases second with
    | leave turn' => simpa using turn.symm.trans turn'
    | again turn' _ => exact nomatch turn.symm.trans turn'
  | again turn _ ih =>
    cases second with
    | leave turn' => exact nomatch turn.symm.trans turn'
    | again turn' rest =>
      cases turn.symm.trans turn'
      exact ih rest

section

variable (holds : σ → Prop) (post : σ → ρ → Prop)

theorem Exits.invariant (exits : Exits body state final result) (start : holds state)
    (again : ∀ state next, holds state → body state = .again next → holds next)
    (leave : ∀ state final result, holds state → body state = .leave final result →
      post final result) : post final result := by
  induction exits with
  | leave turn => exact leave _ _ _ start turn
  | again turn _ ih => exact ih (again _ _ start turn)

variable (measure : σ → Nat)

theorem iterate_of_measure {body : σ → Turn σ ρ}
    (again : ∀ state next, holds state → body state = .again next →
      holds next ∧ measure next < measure state)
    (start : holds state) (enough : measure state < fuel) :
    ∃ final result, iterate body fuel state = some (final, result) := by
  induction fuel generalizing state with
  | zero => omega
  | succ fuel ih =>
    cases turn : body state with
    | leave final result => exact ⟨final, result, by simp [iterate, turn]⟩
    | again next =>
      obtain ⟨kept, lower⟩ := again state next start turn
      obtain ⟨final, result, finished⟩ := ih kept (by omega)
      exact ⟨final, result, by simpa [iterate, turn] using finished⟩

def everyTurn (body : σ → Turn σ ρ) (check : σ → Bool) : Nat → σ → Bool
  | 0, _ => true
  | fuel + 1, state => check state && match body state with
    | .leave _ _ => true
    | .again next => everyTurn body check fuel next

theorem everyTurn_invariant (passed : everyTurn body check fuel state = true)
    (finished : iterate body fuel state = some (final, result)) (start : holds state)
    (again : ∀ state next, holds state → check state = true → body state = .again next →
      holds next) (leave : ∀ state final result, holds state → check state = true →
      body state = .leave final result → post final result) : post final result := by
  induction fuel generalizing state with
  | zero => cases finished
  | succ fuel ih =>
    obtain ⟨here, later⟩ := Bool.and_eq_true_iff.mp passed
    cases turn : body state with
    | leave stop value =>
      simp only [iterate, turn, Option.some.injEq, Prod.mk.injEq] at finished
      obtain ⟨rfl, rfl⟩ := finished
      exact leave _ _ _ start here turn
    | again next =>
      simp only [iterate, turn] at finished
      simp only [turn] at later
      exact ih later finished (again _ _ start here turn)

def carrying (body : σ → Turn σ ρ) (record : σ → γ → γ) (pair : σ × γ) : Turn (σ × γ) ρ :=
  match body pair.1 with
  | .leave final result => .leave (final, record pair.1 pair.2) result
  | .again next => .again (next, record pair.1 pair.2)

theorem everyTurn_carrying (body : σ → Turn σ ρ) (record : σ → γ → γ) (check : σ → Bool)
    (fuel : Nat) (pair : σ × γ) :
    everyTurn (carrying body record) (fun pair => check pair.1) fuel pair =
      everyTurn body check fuel pair.1 := by
  induction fuel generalizing pair with
  | zero => rfl
  | succ fuel ih =>
    simp only [everyTurn, carrying]
    cases body pair.1 with
    | leave final result => rfl
    | again next => simp only [ih]

theorem iterate_carrying {body : σ → Turn σ ρ} (record : σ → γ → γ)
    (finished : iterate body fuel state = some (final, result)) (kept : γ) :
    ∃ kept', iterate (carrying body record) fuel (state, kept) = some ((final, kept'), result) := by
  induction fuel generalizing state kept with
  | zero => cases finished
  | succ fuel ih =>
    cases turn : body state with
    | leave stop value =>
      simp only [iterate, turn, Option.some.injEq, Prod.mk.injEq] at finished
      obtain ⟨rfl, rfl⟩ := finished
      exact ⟨record state kept, by simp [iterate, carrying, turn]⟩
    | again next =>
      simp only [iterate, turn] at finished
      obtain ⟨kept', ran⟩ := ih finished (record state kept)
      exact ⟨kept', by simpa [iterate, carrying, turn] using ran⟩

theorem Exits.not_of_cycle {body : σ → Turn σ ρ}
    (again : ∀ state, holds state → ∃ next, body state = .again next ∧ holds next)
    (start : holds state) : ¬ Exits body state final result := by
  intro exits
  induction exits with
  | leave turn =>
    obtain ⟨next, round, _⟩ := again _ start
    exact nomatch turn.symm.trans round
  | again turn _ ih =>
    obtain ⟨next, round, kept⟩ := again _ start
    cases turn.symm.trans round
    exact ih kept

/-- `do … while`: the body runs once, then as long as it asks for more, for at most
the given number of passes. -/
def doWhile (body : σ → Option σ) (again : σ → Bool) : Nat → σ → Option σ
  | 0, _ => none
  | fuel + 1, state => (body state).bind fun next =>
    if again next then doWhile body again fuel next else some next

theorem doWhile_of_measure
    (pass : ∀ state, holds state → ∃ next, body state = some next ∧ holds next ∧
      (again next = true → measure next < measure state)) (start : holds state)
    (enough : measure state < fuel) :
    ∃ final, doWhile body again fuel state = some final ∧ holds final ∧ again final = false := by
  induction fuel generalizing state with
  | zero => omega
  | succ fuel ih =>
    obtain ⟨next, ran, kept, lower⟩ := pass state start
    cases more : again next with
    | false => exact ⟨next, by simp [doWhile, ran, more], kept, more⟩
    | true =>
      have less := lower more
      obtain ⟨final, finished, rest⟩ := ih kept (by omega)
      exact ⟨final, by simpa [doWhile, ran, more] using finished, rest⟩

end

theorem doWhile_mono {body : σ → Option σ} {again : σ → Bool}
    (finished : doWhile body again fuel state = some final) (more : fuel ≤ fuel') :
    doWhile body again fuel' state = some final := by
  induction fuel generalizing state fuel' with
  | zero => cases finished
  | succ fuel ih =>
    obtain ⟨rest, rfl⟩ : ∃ rest, fuel' = rest + 1 := ⟨fuel' - 1, by omega⟩
    obtain ⟨next, ran, after⟩ := Option.bind_eq_some_iff.mp finished
    simp only [doWhile, ran, Option.bind_some]
    split at after
    · rename_i again
      rw [if_pos again]
      exact ih after (by omega)
    · rename_i done
      rw [if_neg done]
      exact after

/-- A `for` loop over a list: what holds of the elements passed so far is extended by
each turn. -/
theorem foldl_invariant {body : σ → α → σ} (holds : List α → σ → Prop) (start : holds [] init)
    (kept : ∀ before next after state, list = before ++ next :: after → holds before state →
      holds (before ++ [next]) (body state next)) : holds list (list.foldl body init) := by
  have run : ∀ before after state, list = before ++ after → holds before state →
      holds list (after.foldl body state) := by
    intro before after
    induction after generalizing before with
    | nil =>
      intro state whole valid
      rw [whole, List.append_nil]
      exact valid
    | cons next after ih =>
      intro state whole valid
      refine ih (before ++ [next]) (body state next) ?_ (kept before next after state whole valid)
      rw [whole, List.append_assoc, List.singleton_append]
  exact run [] list init rfl start

/-- A machine that switches on its state until the state is stable or an arm
returns a result: where the two state variables live and what the switch does. -/
structure Machine (σ S ρ : Type) where
  state : σ → S
  lastState : σ → S
  setLastState : σ → S → σ
  arm : Bool → σ → σ × Option ρ

namespace Machine

variable [DecidableEq S] (machine : Machine σ S ρ)

def switch (data : σ) : σ × Option ρ :=
  machine.arm (machine.lastState data != machine.state data)
    (machine.setLastState data (machine.state data))

/-- One pass of `while (true)`. -/
def turn (data : σ) : Turn σ (Option ρ) :=
  match machine.switch data with
  | (next, some result) => .leave next (some result)
  | (next, none) =>
    if machine.lastState next = machine.state next then .leave next none else .again next

def run (fuel : Nat) (data : σ) : Option (σ × Option ρ) :=
  iterate machine.turn fuel data

theorem turn_again (turn : machine.turn data = .again next) :
    machine.switch data = (next, none) ∧ machine.lastState next ≠ machine.state next := by
  unfold Machine.turn at turn
  split at turn
  · cases turn
  · rename_i out
    split at turn
    · cases turn
    · rename_i unstable
      cases turn
      exact ⟨out, unstable⟩

theorem turn_leave (turn : machine.turn data = .leave final result) :
    machine.switch data = (final, result) ∧
      (result = none → machine.lastState final = machine.state final) := by
  unfold Machine.turn at turn
  split at turn
  · rename_i out
    cases turn
    exact ⟨out, nofun⟩
  · rename_i out
    split at turn
    · rename_i stable
      cases turn
      exact ⟨out, fun _ => stable⟩
    · cases turn

theorem run_of_result (out : machine.switch data = (next, some result)) :
    machine.run (fuel + 1) data = some (next, some result) := by
  simp [run, iterate, turn, out]

theorem run_of_stable (out : machine.switch data = (next, none))
    (stable : machine.lastState next = machine.state next) :
    machine.run (fuel + 1) data = some (next, none) := by
  simp [run, iterate, turn, out, stable]

theorem run_of_unstable (out : machine.switch data = (next, none))
    (unstable : machine.lastState next ≠ machine.state next) :
    machine.run (fuel + 1) data = machine.run fuel next := by
  simp [run, iterate, turn, out, unstable]

theorem run_preserves (holds : σ → Prop)
    (preserved : ∀ data, holds data → holds (machine.switch data).1)
    (start : holds data) (finished : machine.run fuel data = some (final, result)) :
    holds final := by
  refine Exits.invariant holds (fun final _ => holds final) (iterate_exits finished) start ?_ ?_
  · intro data next kept turn
    have out := preserved data kept
    rwa [(machine.turn_again turn).1] at out
  · intro data final result kept turn
    have out := preserved data kept
    rwa [(machine.turn_leave turn).1] at out

theorem run_final (post : σ → Prop)
    (stable : ∀ data, machine.lastState data = machine.state data → post data)
    (returned : ∀ data next value, machine.switch data = (next, some value) → post next)
    (finished : machine.run fuel data = some (final, result)) : post final := by
  refine Exits.invariant (fun _ => True) (fun final _ => post final)
    (iterate_exits finished) trivial (fun _ _ _ _ => trivial) ?_
  intro data final result _ turn
  obtain ⟨out, silent⟩ := machine.turn_leave turn
  cases result with
  | none => exact stable final (silent rfl)
  | some value => exact returned data final value out

theorem run_total (holds : σ → Prop) (measure : σ → Nat)
    (progress : ∀ data next, holds data → machine.switch data = (next, none) →
      machine.lastState next ≠ machine.state next → holds next ∧ measure next < measure data)
    (start : holds data) (enough : measure data < fuel) :
    ∃ final result, machine.run fuel data = some (final, result) := by
  refine iterate_of_measure holds measure ?_ start enough
  intro data next kept turn
  obtain ⟨out, unstable⟩ := machine.turn_again turn
  exact progress data next kept out unstable

/-- Every pass that is followed by another one lowers the weight. -/
def Descends (weight : σ → Nat) : Prop :=
  ∀ data, (machine.switch data).2 = none →
    machine.lastState (machine.switch data).1 ≠ machine.state (machine.switch data).1 →
    weight (machine.switch data).1 < weight data

theorem Descends.total {machine : Machine σ S ρ} (descends : machine.Descends weight)
    (enough : weight data < fuel) : ∃ final result, machine.run fuel data = some (final, result) := by
  refine machine.run_total (fun _ => True) weight ?_ trivial enough
  intro data next _ silent unstable
  have less := descends data
  rw [silent] at less
  exact ⟨trivial, less rfl unstable⟩

theorem run_result (holds : σ → Prop) (post : ρ → Prop)
    (kept : ∀ data next, holds data → machine.switch data = (next, none) →
      machine.lastState next ≠ machine.state next → holds next)
    (returned : ∀ data next value, holds data → machine.switch data = (next, some value) →
      post value)
    (start : holds data) (finished : machine.run fuel data = some (final, some value)) :
    post value := by
  refine Exits.invariant holds (fun _ result => ∀ value, result = some value → post value)
    (iterate_exits finished) start ?_ ?_ value rfl
  · intro data next valid turn
    obtain ⟨out, unstable⟩ := machine.turn_again turn
    exact kept data next valid out unstable
  · rintro data final _ valid turn value rfl
    exact returned data final value valid (machine.turn_leave turn).1

theorem run_map (f : σ → σ) (state : ∀ data, machine.state (f data) = machine.state data)
    (lastState : ∀ data, machine.lastState (f data) = machine.lastState data) (switch : ∀ data,
      machine.switch (f data) = (f (machine.switch data).1, (machine.switch data).2))
    (fuel : Nat) (data : σ) :
    machine.run fuel (f data) = (machine.run fuel data).map fun out => (f out.1, out.2) := by
  induction fuel generalizing data with
  | zero => rfl
  | succ fuel ih =>
    have mapped := switch data
    cases out : machine.switch data with
    | mk next result =>
      rw [out] at mapped
      cases result with
      | some value =>
        rw [machine.run_of_result out, machine.run_of_result mapped]
        rfl
      | none =>
        by_cases stable : machine.lastState next = machine.state next
        · have stable' : machine.lastState (f next) = machine.state (f next) := by
            rw [lastState, state, stable]
          rw [machine.run_of_stable out stable, machine.run_of_stable mapped stable']
          rfl
        · have unstable' : machine.lastState (f next) ≠ machine.state (f next) := by
            rw [lastState, state]
            exact stable
          rw [machine.run_of_unstable out stable, machine.run_of_unstable mapped unstable', ih]

/-- The data that each turn of a run starts from. -/
def trail : Nat → σ → List σ
  | 0, _ => []
  | fuel + 1, data => data :: match machine.turn data with
    | .again next => trail fuel next
    | .leave _ _ => []

theorem run_preserves_trail (holds permitted : σ → Prop)
    (preserved : ∀ data, permitted data → holds data → holds (machine.switch data).1)
    (passes : ∀ pass ∈ machine.trail fuel data, permitted pass)
    (start : holds data) (finished : machine.run fuel data = some (final, result)) :
    holds final := by
  induction fuel generalizing data with
  | zero => simp [run, iterate] at finished
  | succ fuel ih =>
    have kept := preserved data (passes data (List.mem_cons_self ..)) start
    cases turn : machine.turn data with
    | leave stop value =>
      simp only [run, iterate, turn, Option.some.injEq, Prod.mk.injEq] at finished
      obtain ⟨rfl, rfl⟩ := finished
      rwa [(machine.turn_leave turn).1] at kept
    | again next =>
      simp only [run, iterate, turn] at finished
      rw [(machine.turn_again turn).1] at kept
      refine ih (fun pass member => passes pass ?_) kept finished
      simp only [trail, turn]
      exact List.mem_cons_of_mem data member

variable (holds : σ → Prop)

theorem trail_preserves
    (preserved : ∀ data, holds data → holds (machine.switch data).1) (start : holds data) :
    ∀ pass ∈ machine.trail fuel data, holds pass := by
  induction fuel generalizing data with
  | zero => exact fun _ impossible => absurd impossible List.not_mem_nil
  | succ fuel ih =>
    intro pass member
    rcases List.mem_cons.mp member with rfl | later
    · exact start
    · cases turn : machine.turn data with
      | leave stop value =>
        simp only [turn] at later
        exact absurd later List.not_mem_nil
      | again next =>
        simp only [turn] at later
        have kept := preserved data start
        rw [(machine.turn_again turn).1] at kept
        exact ih kept pass later

/-- What the passes of a run do, where each pass is seen with the data that its arm is
given. -/
def effects (what : Bool → σ → List α) (fuel : Nat) (data : σ) : List α :=
  (machine.trail fuel data).flatMap fun pass =>
    what (machine.lastState pass != machine.state pass)
      (machine.setLastState pass (machine.state pass))

theorem effects_safe (safe : α → Prop)
    (preserved : ∀ data, holds data → holds (machine.switch data).1)
    (remembered : ∀ data state, holds data → holds (machine.setLastState data state))
    (emits : ∀ stateChange data, holds data → ∀ effect ∈ what stateChange data, safe effect)
    (start : holds data) : ∀ effect ∈ machine.effects what fuel data, safe effect := by
  intro effect member
  obtain ⟨pass, passed, emitted⟩ := List.mem_flatMap.mp member
  have valid := machine.trail_preserves holds preserved start pass passed
  exact emits _ _ (remembered pass _ valid) effect emitted

/-- The machine together with a record of its passes, which has no influence on it:
a pass is recorded with the data its arm is given. -/
def observed (observe : Bool → σ → γ → γ) : Machine (σ × γ) S ρ where
  state pair := machine.state pair.1
  lastState pair := machine.lastState pair.1
  setLastState pair state := (machine.setLastState pair.1 state, pair.2)
  arm stateChange pair :=
    (((machine.arm stateChange pair.1).1, observe stateChange pair.1 pair.2),
      (machine.arm stateChange pair.1).2)

theorem observed_run (observe : Bool → σ → γ → γ) (fuel : Nat) (pair : σ × γ) :
    ((machine.observed observe).run fuel pair).map (fun out => (out.1.1, out.2)) =
      machine.run fuel pair.1 := by
  induction fuel generalizing pair with
  | zero => rfl
  | succ fuel ih =>
    have switched : ((machine.observed observe).switch pair).1.1 = (machine.switch pair.1).1 ∧
        ((machine.observed observe).switch pair).2 = (machine.switch pair.1).2 := ⟨rfl, rfl⟩
    cases out : (machine.observed observe).switch pair with
    | mk next result =>
      rw [out] at switched
      have plain : machine.switch pair.1 = (next.1, result) := Prod.ext switched.1.symm switched.2.symm
      cases result with
      | some value => rw [run_of_result _ out, run_of_result _ plain]; rfl
      | none =>
        by_cases stable : machine.lastState next.1 = machine.state next.1
        · rw [run_of_stable _ out stable, run_of_stable _ plain stable]
          rfl
        · rw [run_of_unstable _ out stable, run_of_unstable _ plain stable]
          exact ih next

/-- The common shape of a machine: on entry of a state its procedure runs, and
after every pass its condition chooses the next state. The two state variables
behave as variables, and no procedure touches them. -/
structure Table (σ S : Type) where
  state : σ → S
  lastState : σ → S
  moveTo : S → σ → σ
  remember : S → σ → σ
  proc : S → σ → σ
  condition : S → σ → S
  state_moveTo : ∀ s data, state (moveTo s data) = s
  lastState_moveTo : ∀ s data, lastState (moveTo s data) = lastState data
  state_remember : ∀ s data, state (remember s data) = state data
  lastState_remember : ∀ s data, lastState (remember s data) = s
  stored_proc : ∀ s data, state (proc s data) = state data ∧
    lastState (proc s data) = lastState data

end Machine

namespace Machine.Table

variable (table : Table σ S)

def machine : Machine σ S ρ where
  state := table.state
  lastState := table.lastState
  setLastState data state := table.remember state data
  arm stateChange data :=
    let data' := if stateChange then table.proc (table.state data) data else data
    (table.moveTo (table.condition (table.state data) data') data', none)

variable [DecidableEq S]

def entered (data : σ) : σ :=
  if table.lastState data = table.state data then table.remember (table.state data) data
  else table.proc (table.state data) (table.remember (table.state data) data)

def target (data : σ) : S := table.condition (table.state data) (table.entered data)

theorem lastState_entered (data : σ) : table.lastState (table.entered data) = table.state data := by
  unfold entered
  split <;> simp [table.lastState_remember, table.stored_proc]

theorem state_entered (data : σ) : table.state (table.entered data) = table.state data := by
  unfold entered
  split <;> simp [table.state_remember, table.stored_proc]

theorem switch_eq (data : σ) : (table.machine : Machine σ S ρ).switch data =
      (table.moveTo (table.target data) (table.entered data), none) := by
  by_cases same : table.lastState data = table.state data
  · simp [switch, Table.machine, target, entered, same, table.state_remember]
  · simp [switch, Table.machine, target, entered, same, table.state_remember]

theorem run_succ (fuel : Nat) (data : σ) : (table.machine : Machine σ S ρ).run (fuel + 1) data =
      if table.target data = table.state data then
        some (table.moveTo (table.target data) (table.entered data), none)
      else (table.machine : Machine σ S ρ).run fuel
        (table.moveTo (table.target data) (table.entered data)) := by
  have last : table.lastState (table.moveTo (table.target data) (table.entered data)) =
      table.state data := by
    rw [table.lastState_moveTo, table.lastState_entered]
  have turn : (table.machine : Machine σ S ρ).turn data =
      if table.target data = table.state data then
        .leave (table.moveTo (table.target data) (table.entered data)) none
      else .again (table.moveTo (table.target data) (table.entered data)) := by
    unfold Machine.turn
    rw [table.switch_eq]
    simp only [Table.machine, table.state_moveTo, last, eq_comm]
  simp only [run, iterate, turn]
  by_cases stays : table.target data = table.state data
  · simp [stays]
  · simp [stays]

/-- A run always ends when moving on from an entered state lowers a measure that
takes any value below `bound`. -/
theorem run_total (measure : σ → S → Nat) (bound : Nat) (bounded : ∀ data s, measure data s < bound)
    (moveTo : ∀ s s' data, measure (table.moveTo s' data) s = measure data s)
    (remember : ∀ s s' data, measure (table.remember s' data) s = measure data s)
    (lower : ∀ data s, table.state data = s → table.condition s (table.proc s data) ≠ s →
      measure (table.proc s data) (table.condition s (table.proc s data)) < measure data s)
    (enough : 2 * bound ≤ fuel) (data : σ) :
    ∃ final, (table.machine : Machine σ S ρ).run fuel data = some (final, none) := by
  have fresh : ∀ fuel data, table.lastState data ≠ table.state data →
      measure data (table.state data) < fuel →
      ∃ final, (table.machine : Machine σ S ρ).run fuel data = some (final, none) := by
    intro fuel
    induction fuel with
    | zero => intro data _ impossible; omega
    | succ fuel ih =>
      intro data unstable below
      rw [table.run_succ]
      by_cases stays : table.target data = table.state data
      · exact ⟨_, if_pos stays⟩
      · rw [if_neg stays]
        have entered : table.entered data =
            table.proc (table.state data) (table.remember (table.state data) data) :=
          if_neg unstable
        have less := lower (table.remember (table.state data) data) (table.state data)
          (table.state_remember _ _) (by simpa [target, entered] using stays)
        rw [remember, ← entered] at less
        refine ih _ ?_ ?_
        · rw [table.lastState_moveTo, table.state_moveTo, table.lastState_entered]
          exact Ne.symm stays
        · rw [table.state_moveTo, moveTo]
          exact Nat.lt_of_lt_of_le less (Nat.le_of_lt_succ below)
  obtain ⟨fuel, rfl⟩ : ∃ rest, fuel = rest + 1 := ⟨fuel - 1, by have := bounded data (table.state data); omega⟩
  rw [table.run_succ]
  by_cases stays : table.target data = table.state data
  · exact ⟨_, if_pos stays⟩
  · rw [if_neg stays]
    refine fresh fuel _ ?_ ?_
    · rw [table.lastState_moveTo, table.state_moveTo, table.lastState_entered]
      exact Ne.symm stays
    · have := bounded (table.moveTo (table.target data) (table.entered data))
        (table.state (table.moveTo (table.target data) (table.entered data)))
      omega

/-- A property of the current state and the data that does not depend on what the
two state variables hold. -/
structure Ignores (holds : S → σ → Prop) : Prop where
  moveTo : ∀ s s' data, holds s data → holds s (table.moveTo s' data)
  remember : ∀ s s' data, holds s data → holds s (table.remember s' data)

/-- The rule for whole runs: what holds on arrival in a state makes its entry
procedure settle it, what holds in a settled state makes its condition choose a
state in which the arrival is prepared. A run ends in a settled state. -/
theorem run_phases (arriving settled : S → σ → Prop) (arrival : table.Ignores arriving)
    (settlement : table.Ignores settled)
    (enter : ∀ s data, table.state data = s → arriving s data → settled s (table.proc s data))
    (leave : ∀ s data, table.state data = s → settled s data → table.condition s data ≠ s →
      arriving (table.condition s data) data)
    (moved : table.lastState data ≠ table.state data → arriving (table.state data) data)
    (stayed : table.lastState data = table.state data → settled (table.state data) data)
    (finished : (table.machine : Machine σ S ρ).run fuel data = some (final, result)) :
    table.lastState final = table.state final ∧ settled (table.state final) final := by
  induction fuel generalizing data with
  | zero => simp [run, iterate] at finished
  | succ fuel ih =>
    have entered : settled (table.state data) (table.entered data) := by
      by_cases same : table.lastState data = table.state data
      · rw [show table.entered data = table.remember (table.state data) data from if_pos same]
        exact settlement.remember _ _ _ (stayed same)
      · rw [show table.entered data =
          table.proc (table.state data) (table.remember (table.state data) data) from if_neg same]
        exact enter _ _ (table.state_remember _ _) (arrival.remember _ _ _ (moved same))
    have state := table.state_moveTo (table.target data) (table.entered data)
    have lastState : table.lastState (table.moveTo (table.target data) (table.entered data)) =
        table.state data := by
      rw [table.lastState_moveTo, table.lastState_entered]
    rw [table.run_succ] at finished
    by_cases stays : table.target data = table.state data
    · rw [if_pos stays] at finished
      cases finished
      rw [state, lastState, stays]
      exact ⟨rfl, settlement.moveTo _ _ _ entered⟩
    · rw [if_neg stays] at finished
      refine ih ?_ ?_ finished
      · intro _
        rw [state]
        exact arrival.moveTo _ _ _ (leave _ _ (table.state_entered data) entered stays)
      · intro stable
        rw [state, lastState] at stable
        exact absurd stable.symm stays

/-- A map of the data that leaves the two state variables alone, and that commutes with
what the run does in the phases it passes, commutes with the run. -/
theorem run_map (f : σ → σ) (arriving settled : S → σ → Prop) (arrival : table.Ignores arriving)
    (settlement : table.Ignores settled)
    (enter : ∀ s data, table.state data = s → arriving s data → settled s (table.proc s data))
    (leave : ∀ s data, table.state data = s → settled s data → table.condition s data ≠ s →
      arriving (table.condition s data) data)
    (state : ∀ data, table.state (f data) = table.state data)
    (lastState : ∀ data, table.lastState (f data) = table.lastState data)
    (moveTo : ∀ s data, table.moveTo s (f data) = f (table.moveTo s data))
    (remember : ∀ s data, table.remember s (f data) = f (table.remember s data))
    (proc : ∀ s data, table.state data = s → arriving s data →
      table.proc s (f data) = f (table.proc s data))
    (condition : ∀ s data, table.state data = s → settled s data →
      table.condition s (f data) = table.condition s data)
    (moved : table.lastState data ≠ table.state data → arriving (table.state data) data)
    (stayed : table.lastState data = table.state data → settled (table.state data) data)
    (fuel : Nat) : (table.machine : Machine σ S ρ).run fuel (f data) =
      ((table.machine : Machine σ S ρ).run fuel data).map fun out => (f out.1, out.2) := by
  induction fuel generalizing data with
  | zero => rfl
  | succ fuel ih =>
    have settles : settled (table.state data) (table.entered data) ∧
        table.entered (f data) = f (table.entered data) := by
      by_cases same : table.lastState data = table.state data
      · have same' : table.lastState (f data) = table.state (f data) := by
          rw [lastState, state, same]
        rw [show table.entered data = table.remember (table.state data) data from if_pos same,
          show table.entered (f data) = table.remember (table.state (f data)) (f data) from
            if_pos same', state, remember]
        exact ⟨settlement.remember _ _ _ (stayed same), rfl⟩
      · have other : ¬ table.lastState (f data) = table.state (f data) := by
          rw [lastState, state]
          exact same
        rw [show table.entered data =
          table.proc (table.state data) (table.remember (table.state data) data) from if_neg same,
          show table.entered (f data) =
            table.proc (table.state (f data)) (table.remember (table.state (f data)) (f data)) from
            if_neg other, state, remember]
        have arrives := arrival.remember _ (table.state data) _ (moved same)
        exact ⟨enter _ _ (table.state_remember _ _) arrives,
          proc _ _ (table.state_remember _ _) arrives⟩
    obtain ⟨entered, mapped⟩ := settles
    have target : table.target (f data) = table.target data := by
      rw [target, state, mapped, condition _ _ (table.state_entered data) entered]
      rfl
    have next := moveTo (table.target data) (table.entered data)
    rw [table.run_succ, table.run_succ, target, mapped, state, next]
    by_cases stays : table.target data = table.state data
    · rw [if_pos stays, if_pos stays]
      rfl
    · rw [if_neg stays, if_neg stays]
      apply ih
      · intro _
        rw [table.state_moveTo]
        exact arrival.moveTo _ _ _ (leave _ _ (table.state_entered data) entered stays)
      · intro stable
        rw [table.state_moveTo, table.lastState_moveTo, table.lastState_entered] at stable
        exact absurd stable.symm stays

theorem run_map_data (f : σ → σ) (state : ∀ data, table.state (f data) = table.state data)
    (lastState : ∀ data, table.lastState (f data) = table.lastState data)
    (moveTo : ∀ s data, table.moveTo s (f data) = f (table.moveTo s data))
    (remember : ∀ s data, table.remember s (f data) = f (table.remember s data))
    (proc : ∀ s data, table.proc s (f data) = f (table.proc s data))
    (condition : ∀ s data, table.condition s (f data) = table.condition s data) (fuel : Nat)
    (data : σ) : (table.machine : Machine σ S ρ).run fuel (f data) =
      ((table.machine : Machine σ S ρ).run fuel data).map fun out => (f out.1, out.2) :=
  table.run_map f (fun _ _ => True) (fun _ _ => True) ⟨fun _ _ _ _ => trivial, fun _ _ _ _ => trivial⟩
    ⟨fun _ _ _ _ => trivial, fun _ _ _ _ => trivial⟩
    (fun _ _ _ _ => trivial) (fun _ _ _ _ _ => trivial) state lastState moveTo remember
    (fun s data _ _ => proc s data) (fun s data _ _ => condition s data) (fun _ => trivial)
    (fun _ => trivial) fuel

theorem run_quiescent (finished : (table.machine : Machine σ S ρ).run fuel data = some (final, result)) :
    ∃ entered, final = table.moveTo (table.state entered) entered ∧
      table.condition (table.state entered) entered = table.state entered := by
  induction fuel generalizing data with
  | zero => simp [run, iterate] at finished
  | succ fuel ih =>
    rw [table.run_succ] at finished
    by_cases stays : table.target data = table.state data
    · rw [if_pos stays] at finished
      cases finished
      have state := table.state_entered data
      refine ⟨table.entered data, by rw [state, stays], ?_⟩
      rw [state]
      exact stays
    · rw [if_neg stays] at finished
      exact ih finished

/-- A property that every entry procedure keeps, and that is kept from a state to
the one its condition chooses, is kept by a whole run. -/
theorem run_invariant (holds : S → σ → Prop) (ignores : table.Ignores holds)
    (proc : ∀ s data, table.state data = s → holds s data → holds s (table.proc s data))
    (condition : ∀ s data, table.state data = s → holds s data →
      holds (table.condition s data) data) (start : holds (table.state data) data)
    (finished : (table.machine : Machine σ S ρ).run fuel data = some (final, result)) :
    holds (table.state final) final :=
  (table.run_phases holds holds ignores ignores proc
    (fun s data same valid _ => condition s data same valid) (fun _ => start) (fun _ => start)
    finished).2

theorem run_preserves_data (holds : σ → Prop)
    (moveTo : ∀ state data, holds data → holds (table.moveTo state data))
    (remember : ∀ state data, holds data → holds (table.remember state data))
    (proc : ∀ state data, table.state data = state → holds data → holds (table.proc state data))
    (start : holds data)
    (finished : (table.machine : Machine σ S ρ).run fuel data = some (final, result)) :
    holds final :=
  table.run_invariant (fun _ => holds) ⟨fun _ => moveTo, fun _ => remember⟩ proc
    (fun _ _ _ valid => valid) start finished

theorem switch_preserves (holds : σ → Prop)
    (moveTo : ∀ state data, holds data → holds (table.moveTo state data))
    (remember : ∀ state data, holds data → holds (table.remember state data))
    (proc : ∀ state data, holds data → holds (table.proc state data)) (data : σ)
    (start : holds data) : holds ((table.machine : Machine σ S ρ).switch data).1 := by
  rw [table.switch_eq]
  refine moveTo _ _ ?_
  unfold entered
  split
  · exact remember _ _ start
  · exact proc _ _ (remember _ _ start)

theorem observed_preserves (holds : σ × γ → Prop)
    (moveTo : ∀ s data record, holds (data, record) → holds (table.moveTo s data, record))
    (remember : ∀ s data record, holds (data, record) → holds (table.remember s data, record))
    (proc : ∀ s data record, table.state data = s → holds (data, record) →
      holds (table.proc s data, observe true data record))
    (stay : ∀ data record, observe false data record = record) (start : holds pair)
    (finished : ((table.machine : Machine σ S ρ).observed observe).run fuel pair =
      some (final, result)) : holds final := by
  refine Machine.run_preserves _ holds ?_ start finished
  rintro ⟨data, record⟩ kept
  have remembered := remember (table.state data) data record kept
  have entered := proc (table.state data) _ record (table.state_remember _ _) remembered
  simp only [switch, observed, Table.machine, table.state_remember]
  by_cases same : table.lastState data = table.state data
  · simp only [same, bne_self_eq_false, stay, Bool.false_eq_true, if_false]
    exact moveTo _ _ _ remembered
  · simp only [bne_iff_ne.mpr same, if_true]
    exact moveTo _ _ _ entered

end Machine.Table

end EnetTsn.Library
