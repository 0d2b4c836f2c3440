import EnetTsn.Pdelay.PdelayRuns

namespace EnetTsn.Pdelay

open EnetTsn.Gptp EnetTsn.Library

namespace PdelayReq

/-- With a configured delay the machine waits in its first states, or sends a request
again and again that cannot be sent. -/
inductive FixedPhase : PdelayReqState → PdelayReqState → Prop
  | init : FixedPhase .init .init
  | notEnabled : FixedPhase .notEnabled .notEnabled
  | reaction : FixedPhase .reaction .reaction
  | initialSend : FixedPhase .initialSendPdelayReq .reaction

section Passes

variable {settings : PdelaySettings} (fixed : settings.neighborPropDelay ≠ 0) (port : PdelayPort)
  (cts64 : UInt64) {data : PdelayReq}

include fixed

section

variable (state : data.state = .notEnabled)
include state

theorem run_entersNotEnabled (entering : data.lastState ≠ .notEnabled) :
    (machine settings port cts64).run (fuel + 1) data =
      some ({ notEnabledProc settings data with lastState := .notEnabled }, none) := by
  apply Machine.run_of_stable
  · simp only [Machine.switch, machine, arm, state, bne_iff_ne.mpr entering, if_true]
    simp [notEnabledProc, notEnabledCondition, moveTo, fixed, state]
  · simp [machine, notEnabledProc, fixed, state]

theorem run_staysNotEnabled (last : data.lastState = .notEnabled)
    (capable : data.asCapableAcrossDomains = true) :
    (machine settings port cts64).run (fuel + 1) data = some (data, none) := by
  apply Machine.run_of_stable
  · obtain ⟨⟩ := data
    cases state
    cases last
    cases capable
    simp [Machine.switch, machine, arm, notEnabledCondition, moveTo, fixed]
  · exact last.trans state.symm

theorem run_leavesNotEnabled (last : data.lastState = .notEnabled)
    (incapable : data.asCapableAcrossDomains = false) :
    (machine settings port cts64).run (fuel + 2) data =
      some ({ data with state := .reaction, lastState := .reaction }, none) := by
  have left : (machine settings port cts64).switch data =
      ({ data with state := .reaction }, none) := by
    obtain ⟨⟩ := data
    cases state
    cases last
    cases incapable
    simp [Machine.switch, machine, arm, notEnabledCondition, moveTo, fixed]
  have unstable : (machine settings port cts64).lastState { data with state := .reaction } ≠
      (machine settings port cts64).state { data with state := .reaction } := by
    rw [last]
    rintro ⟨⟩
  rw [Machine.run_of_unstable _ left unstable]
  exact Machine.run_of_stable _ rfl rfl

end

theorem run_init (state : data.state = .init) (last : data.lastState = .init) :
    (machine settings port cts64).run (fuel + 2) data =
      some ({ notEnabledProc settings { data with state := .notEnabled } with
        lastState := .notEnabled }, none) := by
  have left : (machine settings port cts64).switch data =
      ({ data with state := .notEnabled }, none) := by
    obtain ⟨⟩ := data
    cases state
    cases last
    rfl
  have unstable : ({ data with state := .notEnabled } : PdelayReq).lastState ≠ .notEnabled := by
    rw [last]
    nofun
  rw [Machine.run_of_unstable _ left unstable]
  exact run_entersNotEnabled fixed port cts64 rfl unstable

omit fixed

private theorem run_reaction (state : data.state = .reaction) (last : data.lastState = .reaction) :
    (machine settings port cts64).run (fuel + 1) data = some (data, none) := by
  apply Machine.run_of_stable
  · obtain ⟨⟩ := data
    cases state
    cases last
    rfl
  · exact last.trans state.symm

private theorem run_initialSend (state : data.state = .initialSendPdelayReq)
    (entering : data.lastState ≠ .initialSendPdelayReq) :
    (machine settings port cts64).run (fuel + 1) data =
      some (initialSendPdelayReqProc port cts64 { data with lastState := .initialSendPdelayReq },
        some ()) := by
  apply Machine.run_of_result
  simp only [Machine.switch, machine, arm, state, bne_iff_ne.mpr entering, if_true]

theorem initialSendPdelayReqProc_fields (port : PdelayPort) (cts64 : UInt64) (data : PdelayReq) :
    (initialSendPdelayReqProc port cts64 data).state = data.state ∧ (port.send = .failed →
        (initialSendPdelayReqProc port cts64 data).lastState = .reaction ∧
        (initialSendPdelayReqProc port cts64 data).asCapableAcrossDomains =
          data.asCapableAcrossDomains) ∧ (port.send ≠ .failed →
        (initialSendPdelayReqProc port cts64 data).asCapableAcrossDomains = false) := by
  cases send : port.send with
  | failed =>
    simp only [initialSendPdelayReqProc, transmit, send]
    exact ⟨trivial, fun _ => ⟨trivial, trivial⟩, fun other => absurd rfl other⟩
  | skipped =>
    simp only [initialSendPdelayReqProc, transmit, send]
    exact ⟨trivial, nofun, fun _ => trivial⟩
  | sent =>
    simp only [initialSendPdelayReqProc, transmit, send]
    exact ⟨trivial, nofun, fun _ => trivial⟩

end Passes

end PdelayReq

/-- A port with a configured delay: whether its link has changed since the start, and
whether a tick has followed the last change. -/
structure FixedRun where
  data : PdelayReq
  portOper : Bool
  changed : Bool
  followed : Bool

/-- `gptpnet_cb_devup` of a link that is fast enough, `gptpnet_cb_devdown`, and the call of
the machine in a tick with what it reads of its port besides the link. -/
inductive FixedEvent where
  | devup
  | devdown
  | tick (port : PdelayPort) (cts64 : UInt64)

/-- The port of a tick. `BEGIN` is false from the start on, and `portEnabled0` is set once. -/
def FixedRun.tickPort (run : FixedRun) (portEnabled0 : Bool) (port : PdelayPort) : PdelayPort :=
  { port with BEGIN := false, portOper := run.portOper, portEnabled0 := portEnabled0 }

def fixedSystem (settings : PdelaySettings) (portEnabled0 : Bool) : System FixedRun FixedEvent where
  start := { data := PdelayReq.init, portOper := false, changed := false, followed := false }
  step run
    | .devup => some { run with portOper := true, changed := true, followed := false }
    | .devdown =>
      some { data := run.data.undelivered .linkDown, portOper := false, changed := true
             followed := false }
    | .tick port cts64 =>
      (mdPdelayReqSm settings (run.tickPort portEnabled0 port) cts64 run.data).map fun out =>
        { run with data := out.1, followed := true }

namespace FixedRun

variable (portEnabled0 : Bool) (run : FixedRun)

def Follows : Prop :=
  run.changed = true → run.followed = true →
    run.data.asCapableAcrossDomains = (run.portOper && portEnabled0)

def Stuck : Prop :=
  run.data.state = .reaction ∧ (run.portOper && portEnabled0) = true

/-- The link does not come up in the state that nothing leaves. A tick finds a working port
capable or at its start, and not told to stop its requests unless they fail; and it finds
another port with the capability that the link took away. -/
def Permitted : FixedEvent → Prop
  | .devup => portEnabled0 = true → run.data.state ≠ .reaction
  | .devdown => True
  | .tick port _ => run.changed = true →
    if (run.portOper && portEnabled0) = true then
      if port.currentLogPdelayReqInterval = 127 ∨ run.data.state = .initialSendPdelayReq then
        run.data.asCapableAcrossDomains = true ∧ port.send = .failed
      else run.data.state = .init ∨ run.data.asCapableAcrossDomains = true
    else run.data.state = .notEnabled ∧ run.data.asCapableAcrossDomains = false

structure Valid : Prop where
  phase : PdelayReq.FixedPhase run.data.state run.data.lastState
  incapable : run.data.state = .reaction → run.data.asCapableAcrossDomains = false
  unchanged : run.changed = false → run.portOper = false

end FixedRun

section Runs

variable {settings : PdelaySettings} {portEnabled0 : Bool} {run next : FixedRun}

open PdelayReq in
theorem allstateCondition_tickPort (run : FixedRun) (portEnabled0 : Bool) (port : PdelayPort)
    (data : PdelayReq) : allstateCondition (run.tickPort portEnabled0 port) data =
      if (run.portOper && portEnabled0) = true then
        if port.currentLogPdelayReqInterval = 127 then .initialSendPdelayReq else data.state
      else .notEnabled := by
  unfold allstateCondition FixedRun.tickPort
  cases run.portOper <;> cases portEnabled0 <;> simp

open PdelayReq in
theorem tick_sends (valid : run.Valid) (up : (run.portOper && portEnabled0) = true)
    (port : PdelayPort) (cts64 : UInt64)
    (sends : port.currentLogPdelayReqInterval = 127 ∨ run.data.state = .initialSendPdelayReq) :
    ∃ after, mdPdelayReqSm settings (run.tickPort portEnabled0 port) cts64 run.data =
        some (after, some ()) ∧ after.state = .initialSendPdelayReq ∧
      (port.send = .failed → after.lastState = .reaction ∧
        after.asCapableAcrossDomains = run.data.asCapableAcrossDomains) ∧
      (port.send ≠ .failed → after.asCapableAcrossDomains = false) := by
  have entering : (moveTo .initialSendPdelayReq run.data).lastState ≠ .initialSendPdelayReq := by
    change run.data.lastState ≠ _
    have phase := valid.phase
    generalize run.data.state = state at phase
    generalize run.data.lastState = last at phase ⊢
    cases phase <;> nofun
  have chosen : allstateCondition (run.tickPort portEnabled0 port) run.data =
      .initialSendPdelayReq := by
    rw [allstateCondition_tickPort, if_pos up]
    rcases sends with stops | sending
    · exact if_pos stops
    · rw [sending]
      exact ite_self _
  refine ⟨_, ?_, initialSendPdelayReqProc_fields (run.tickPort portEnabled0 port) cts64
    { moveTo .initialSendPdelayReq run.data with lastState := .initialSendPdelayReq }⟩
  rw [mdPdelayReqSm, chosen]
  exact run_initialSend _ cts64 rfl entering

open PdelayReq in
theorem tick_waits (fixed : settings.neighborPropDelay ≠ 0) (valid : run.Valid)
    (up : (run.portOper && portEnabled0) = true) (port : PdelayPort) (cts64 : UInt64)
    (waits : ¬ (port.currentLogPdelayReqInterval = 127 ∨ run.data.state = .initialSendPdelayReq)) :
    ∃ after, mdPdelayReqSm settings (run.tickPort portEnabled0 port) cts64 run.data =
        some (after, none) ∧ FixedPhase after.state after.lastState ∧
      (after.state = .reaction → after.asCapableAcrossDomains = false) ∧
      after.asCapableAcrossDomains =
        (run.data.state == .init || run.data.asCapableAcrossDomains) := by
  have chosen : moveTo (allstateCondition (run.tickPort portEnabled0 port) run.data) run.data =
      run.data := by
    rw [allstateCondition_tickPort, if_pos up, if_neg (not_or.mp waits).1]
    rfl
  rw [mdPdelayReqSm, chosen]
  have phase := valid.phase
  generalize state : run.data.state = current at phase
  generalize last : run.data.lastState = previous at phase
  cases phase with
  | init =>
    refine ⟨_, run_init fixed _ cts64 state last, ?_⟩
    simp only [notEnabledProc, if_pos fixed]
    exact ⟨.notEnabled, nofun, rfl⟩
  | notEnabled =>
    cases capable : run.data.asCapableAcrossDomains with
    | true =>
      refine ⟨_, run_staysNotEnabled fixed _ cts64 state last capable, ?_⟩
      rw [state, last]
      exact ⟨.notEnabled, nofun, capable⟩
    | false =>
      exact ⟨_, run_leavesNotEnabled fixed _ cts64 state last capable, .reaction,
        fun _ => capable, capable⟩
  | reaction =>
    refine ⟨_, run_reaction _ cts64 state last, ?_⟩
    rw [state, last]
    exact ⟨.reaction, fun _ => valid.incapable state, rfl⟩
  | initialSend => exact absurd (Or.inr state) waits

open PdelayReq in
theorem tick_down (fixed : settings.neighborPropDelay ≠ 0) (valid : run.Valid)
    (down : (run.portOper && portEnabled0) = false) (port : PdelayPort) (cts64 : UInt64) :
    ∃ after, mdPdelayReqSm settings (run.tickPort portEnabled0 port) cts64 run.data =
        some (after, none) ∧ FixedPhase after.state after.lastState ∧
      (after.state = .reaction → after.asCapableAcrossDomains = false) ∧
      (after.asCapableAcrossDomains = false ↔
        run.data.state = .notEnabled ∧ run.data.asCapableAcrossDomains = false) := by
  have chosen : allstateCondition (run.tickPort portEnabled0 port) run.data = .notEnabled := by
    rw [allstateCondition_tickPort, down]
    rfl
  rw [mdPdelayReqSm, chosen]
  by_cases last : run.data.lastState = .notEnabled
  · have state : run.data.state = .notEnabled := by
      have phase := valid.phase
      rw [last] at phase
      generalize run.data.state = current at phase ⊢
      cases phase
      rfl
    cases capable : run.data.asCapableAcrossDomains with
    | true =>
      refine ⟨_, run_staysNotEnabled fixed _ cts64 rfl last capable, ?_⟩
      refine ⟨?_, nofun, ?_⟩
      · rw [show (moveTo .notEnabled run.data).lastState = _ from last]
        exact .notEnabled
      · rw [show (moveTo .notEnabled run.data).asCapableAcrossDomains = _ from capable]
        exact ⟨nofun, fun absent => nomatch absent.2⟩
    | false =>
      exact ⟨_, run_leavesNotEnabled fixed _ cts64 rfl last capable, .reaction,
        fun _ => capable, fun _ => ⟨state, rfl⟩, fun _ => capable⟩
  · refine ⟨_, run_entersNotEnabled fixed _ cts64 rfl last, ?_⟩
    simp only [notEnabledProc, if_pos fixed]
    refine ⟨.notEnabled, nofun, nofun, ?_⟩
    rintro ⟨state, _⟩
    have phase := valid.phase
    rw [state] at phase
    generalize previous : run.data.lastState = previousState at phase last
    cases phase
    exact absurd rfl last

theorem step_tick (found : mdPdelayReqSm settings (run.tickPort portEnabled0 port) cts64 run.data =
      some (after, result)) : (fixedSystem settings portEnabled0).step run (.tick port cts64) =
      some { run with data := after, followed := true } := by
  simp only [fixedSystem, found, Option.map_some]

variable (fixed : settings.neighborPropDelay ≠ 0)
include fixed

theorem valid_tick (valid : run.Valid) (permitted : run.Permitted portEnabled0 (.tick port cts64))
    (taken : (fixedSystem settings portEnabled0).step run (.tick port cts64) = some next) :
    next.Valid ∧ next.Follows portEnabled0 ∧ ¬ next.Stuck portEnabled0 := by
  cases up : run.portOper && portEnabled0 with
  | false =>
    obtain ⟨after, found, phase, incapable, capability⟩ := tick_down fixed valid up port cts64
    rw [step_tick found] at taken
    cases taken
    refine ⟨⟨phase, incapable, valid.unchanged⟩, fun changed _ => ?_, ?_⟩
    · have allowed := permitted changed
      rw [up, if_neg Bool.false_ne_true] at allowed
      exact (capability.mpr allowed).trans up.symm
    · rintro ⟨_, working⟩
      exact nomatch up.symm.trans working
  | true =>
    have changed : run.changed = true := by
      by_contra absent
      have closed := valid.unchanged (Bool.eq_false_iff.mpr absent)
      rw [closed] at up
      exact Bool.false_ne_true up
    have allowed := permitted changed
    rw [if_pos up] at allowed
    by_cases sends : port.currentLogPdelayReqInterval = 127 ∨ run.data.state = .initialSendPdelayReq
    · rw [if_pos sends] at allowed
      obtain ⟨after, found, state, repeated, _⟩ := tick_sends valid up port cts64 sends
      obtain ⟨last, same⟩ := repeated allowed.2
      rw [step_tick found] at taken
      cases taken
      have other : after.state ≠ .reaction := by
        rw [state]
        nofun
      refine ⟨⟨?_, fun reacts => absurd reacts other, valid.unchanged⟩, fun _ _ => ?_, ?_⟩
      · rw [state, last]
        exact .initialSend
      · exact (same.trans allowed.1).trans up.symm
      · exact fun stuck => other stuck.1
    · rw [if_neg sends] at allowed
      obtain ⟨after, found, phase, incapable, capability⟩ := tick_waits fixed valid up port cts64 sends
      have capable : after.asCapableAcrossDomains = true := by
        rw [capability, Bool.or_eq_true, beq_iff_eq]
        exact allowed
      rw [step_tick found] at taken
      cases taken
      refine ⟨⟨phase, incapable, valid.unchanged⟩, fun _ _ => capable.trans up.symm, ?_⟩
      exact fun stuck => nomatch capable.symm.trans (incapable stuck.1)

theorem valid_fixed_step (valid : run.Valid) (permitted : run.Permitted portEnabled0 event)
    (taken : (fixedSystem settings portEnabled0).step run event = some next) :
    next.Valid ∧ next.Follows portEnabled0 ∧ ¬ next.Stuck portEnabled0 := by
  cases event with
  | devup =>
    cases taken
    refine ⟨⟨valid.phase, valid.incapable, nofun⟩, nofun, ?_⟩
    exact fun stuck => permitted (Bool.and_eq_true_iff.mp stuck.2).2 stuck.1
  | devdown =>
    cases taken
    exact ⟨⟨valid.phase, fun _ => rfl, nofun⟩, nofun, fun stuck => nomatch stuck.2⟩
  | tick port cts64 => exact valid_tick fixed valid permitted taken

/-- A step that is not permitted leaves a capability that does not follow the link, or a
machine that nothing moves while the link is up. -/
theorem astray_of_not_permitted (valid : run.Valid) (denied : ¬ run.Permitted portEnabled0 event) :
    ∃ next, (fixedSystem settings portEnabled0).step run event = some next ∧
      ¬ (next.Follows portEnabled0 ∧ ¬ next.Stuck portEnabled0) := by
  cases event with
  | devup =>
    simp only [FixedRun.Permitted, Classical.not_imp, not_not] at denied
    exact ⟨_, rfl, fun sound => sound.2 ⟨denied.2, denied.1⟩⟩
  | devdown => exact absurd trivial denied
  | tick port cts64 =>
    simp only [FixedRun.Permitted, Classical.not_imp] at denied
    obtain ⟨changed, wrong⟩ := denied
    cases up : run.portOper && portEnabled0 with
    | false =>
      obtain ⟨after, found, _, _, capability⟩ := tick_down fixed valid up port cts64
      rw [up, if_neg Bool.false_ne_true] at wrong
      refine ⟨_, step_tick found, fun sound => wrong ?_⟩
      exact capability.mp ((sound.1 changed rfl).trans up)
    | true =>
      rw [if_pos up] at wrong
      by_cases sends :
          port.currentLogPdelayReqInterval = 127 ∨ run.data.state = .initialSendPdelayReq
      · rw [if_pos sends] at wrong
        obtain ⟨after, found, _, repeated, sent⟩ := tick_sends valid up port cts64 sends
        refine ⟨_, step_tick found, fun sound => wrong ?_⟩
        have capable : after.asCapableAcrossDomains = true := (sound.1 changed rfl).trans up
        by_cases fails : port.send = .failed
        · exact ⟨(repeated fails).2.symm.trans capable, fails⟩
        · exact nomatch capable.symm.trans (sent fails)
      · rw [if_neg sends] at wrong
        obtain ⟨after, found, _, _, capability⟩ := tick_waits fixed valid up port cts64 sends
        refine ⟨_, step_tick found, fun sound => wrong ?_⟩
        have capable : after.asCapableAcrossDomains = true := (sound.1 changed rfl).trans up
        rw [capability, Bool.or_eq_true, beq_iff_eq] at capable
        exact capable

theorem valid_of_reachable (reachable : (fixedSystem settings portEnabled0).Reachable
      (FixedRun.Permitted portEnabled0) run) : run.Valid :=
  reachable.invariant FixedRun.Valid ⟨.init, fun _ => rfl, fun _ => rfl⟩
    fun _ _ _ valid permitted taken => (valid_fixed_step fixed valid permitted taken).1

end Runs

/-- With a configured delay the capability follows the link in every run in which the link
does not come back before the machine has left its last state, and in which a tick finds a
working port that is capable or new; the first other step breaks it. -/
theorem capability_follows (settings : PdelaySettings) (portEnabled0 : Bool)
    (fixed : settings.neighborPropDelay ≠ 0) :
    (∀ run, (fixedSystem settings portEnabled0).Reachable (FixedRun.Permitted portEnabled0) run →
      run.Follows portEnabled0 ∧ ¬ run.Stuck portEnabled0) ∧
    ∀ run event, (fixedSystem settings portEnabled0).Reachable (FixedRun.Permitted portEnabled0) run →
      ¬ run.Permitted portEnabled0 event →
      ∃ next, (fixedSystem settings portEnabled0).step run event = some next ∧
        ¬ (next.Follows portEnabled0 ∧ ¬ next.Stuck portEnabled0) := by
  constructor
  · intro run reachable
    cases reachable with
    | start => exact ⟨nofun, fun stuck => Bool.false_ne_true stuck.2⟩
    | step before permitted taken =>
      exact (valid_fixed_step fixed (valid_of_reachable fixed before) permitted taken).2
  · exact fun run event reachable denied =>
      astray_of_not_permitted fixed (valid_of_reachable fixed reachable) denied

namespace FixedRun

def settings : PdelaySettings := { measuringSettings with neighborPropDelay := 500 }

def tick : FixedEvent := .tick measuringPort 0

def failing : List FixedEvent := [.devup, tick, tick, .devdown, tick]

def permitted (run : FixedRun) : FixedEvent → Bool
  | .devup => run.data.state != .reaction
  | .devdown => true
  | .tick port _ => !run.changed ||
    if run.portOper then
      port.currentLogPdelayReqInterval != 127 && run.data.state != .initialSendPdelayReq &&
        (run.data.state == .init || run.data.asCapableAcrossDomains)
    else run.data.state == .notEnabled && !run.data.asCapableAcrossDomains

theorem permitted_sound (run : FixedRun) (event : FixedEvent)
    (passed : permitted run event = true) : run.Permitted true event := by
  cases event with
  | devup => exact fun _ => bne_iff_ne.mp passed
  | devdown => trivial
  | tick port cts64 =>
    intro changed
    simp only [permitted, changed, Bool.not_true, Bool.false_or] at passed
    cases up : run.portOper with
    | true =>
      simp only [up, if_true, Bool.and_eq_true, bne_iff_ne, Bool.or_eq_true, beq_iff_eq] at passed
      rw [Bool.true_and, if_pos rfl, if_neg (not_or.mpr passed.1)]
      exact passed.2
    | false =>
      simpa [up] using passed

end FixedRun

open FixedRun in
theorem capability_follows_failing :
    ∃ run, (fixedSystem settings true).Reachable (FixedRun.Permitted true) run ∧
      (run.changed && run.followed) = true ∧ run.portOper = false ∧
      run.data.asCapableAcrossDomains = (run.portOper && true) := by
  have law := capability_follows settings true (by decide)
  have ran : (((fixedSystem settings true).restrict permitted).run
      (fixedSystem settings true).start failing).map
      (fun run => (run.changed && run.followed, run.portOper)) = some (true, false) := by
    decide +kernel
  obtain ⟨run, finished, values⟩ := Option.map_eq_some_iff.mp ran
  obtain ⟨seen, down⟩ := Prod.mk.inj values
  have reachable : (fixedSystem settings true).Reachable (FixedRun.Permitted true) run :=
    (System.reachable_of_run finished).of_restrict permitted_sound
  obtain ⟨changed, followed⟩ := Bool.and_eq_true_iff.mp seen
  exact ⟨run, reachable, seen, down, (law.1 run reachable).1 changed followed⟩

open FixedRun in
/-- The link fails and comes back: an enabled port with a link is not capable, and the
machine waits in a state that no tick leaves. -/
theorem capability_lost_on_flap :
    ¬ ∀ (settings : PdelaySettings) (portEnabled0 : Bool), settings.neighborPropDelay ≠ 0 →
      ∀ run, (fixedSystem settings portEnabled0).Reachable System.anyStep run →
        run.Follows portEnabled0 ∧ ¬ run.Stuck portEnabled0 := by
  intro all
  have ran : ((fixedSystem settings true).run (fixedSystem settings true).start
      (failing ++ [.devup, tick])).map
      (fun run => (run.data.state, run.portOper)) = some (.reaction, true) := by
    decide +kernel
  obtain ⟨run, finished, values⟩ := Option.map_eq_some_iff.mp ran
  obtain ⟨state, up⟩ := Prod.mk.inj values
  have sound := all settings true (by decide) run (System.reachable_of_run finished)
  refine sound.2 ⟨state, ?_⟩
  rw [up]
  rfl

end EnetTsn.Pdelay
