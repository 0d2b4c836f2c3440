import EnetTsn.Bmcs.Slowdown

/-!
Whether a call of `port_announce_transmit_sm` ends: its loop goes round as long as the send
time that `idle_proc` computes has come already.
-/

namespace EnetTsn.Bmcs

open EnetTsn.Gptp EnetTsn.Library

def TransmitEnds (view : InstanceView) (cts64 : UInt64) (port : Port) : Prop :=
  ∃ fuel result, portAnnounceTransmitSm view cts64 fuel port = some result

namespace AnnounceTransmit

variable {view : InstanceView} {cts64 : UInt64} {port : Port}

/-- The turns that a call can still make: it waits at the end in `IDLE` or returns what
`TRANSMIT_ANNOUNCE` sends. -/
def turnsLeft (cts64 : UInt64) (port : Port) : Nat :=
  match port.patransd.state with
  | .init => 6
  | .transmitInit => 5
  | .idle =>
    if port.patransd.lastState = .idle ∧ port.patransd.announceSendTime ≤ cts64 then 4 else 2
  | .transmitPeriodic => 3
  | .transmitAnnounce => 1
  | .reaction => 0

private theorem turnsLeft_lt (port : Port) : turnsLeft cts64 port < 8 := by
  unfold turnsLeft
  split
  case h_3 => split <;> decide
  all_goals decide

/-- A send time that has come takes the machine out of `IDLE`. -/
def Serves (view : InstanceView) (port : Port) : Prop :=
  (port.selected && !port.bppg.updtInfo) = true ∨
    view.bptasg.externalPortConfiguration = valueDisabled

theorem idleCondition_cases (view : InstanceView) (cts64 : UInt64) (port : Port) :
    idleCondition view cts64 port = .transmitAnnounce ∧ cts64 < port.patransd.announceSendTime ∨
      idleCondition view cts64 port = .transmitPeriodic ∧
        port.patransd.announceSendTime ≤ cts64 ∧ Serves view port ∨
      idleCondition view cts64 port = port.patransd.state := by
  unfold idleCondition
  dsimp only
  split
  · rename_i sends
    simp only [Bool.and_eq_true, decide_eq_true_eq] at sends
    exact .inl ⟨rfl, sends.1.1.2⟩
  · split
    · rename_i due
      simp only [Bool.and_eq_true, decide_eq_true_eq] at due
      exact .inr (.inl ⟨rfl, due.1, by simpa [Serves] using due.2⟩)
    · exact .inr (.inr rfl)

private theorem idleCondition_due (due : port.patransd.announceSendTime ≤ cts64)
    (serves : Serves view port) : idleCondition view cts64 port = .transmitPeriodic := by
  have out : (decide (port.patransd.announceSendTime ≤ cts64) &&
      (port.selected && !port.bppg.updtInfo ||
        view.bptasg.externalPortConfiguration == valueDisabled)) = true := by
    simpa [due, Serves] using serves
  unfold idleCondition
  rw [if_neg (by simp [UInt64.not_lt.mpr due]), if_pos out]

structure Entered (port entered : Port) : Prop where
  lastState : entered.patransd.lastState = port.patransd.state
  state : entered.patransd.state = port.patransd.state
  interval2 : entered.patransd.interval2 = port.patransd.interval2
  currentLog : entered.bppg.currentLogAnnounceInterval = port.bppg.currentLogAnnounceInterval
  selected : entered.selected = port.selected
  updtInfo : entered.bppg.updtInfo = port.bppg.updtInfo

theorem Entered.serves (kept : Entered port entered) : Serves view entered ↔ Serves view port := by
  rw [Serves, Serves, kept.selected, kept.updtInfo]

def remembered (port : Port) : Port :=
  { port with patransd := { port.patransd with lastState := port.patransd.state } }

theorem switch_transmitInit (view : InstanceView) (cts64 : UInt64)
    (state : port.patransd.state = .transmitInit) :
    ∃ entered, Entered port entered ∧ (machine view cts64).switch port =
      (moveTo (transmitInitCondition entered) entered, none) := by
  refine ⟨if port.patransd.lastState != .transmitInit then transmitInitProc (remembered port)
    else remembered port, ?_, ?_⟩
  rotate_left
  · simp only [Machine.switch, machine, arm, remembered, state]
  · split <;> exact ⟨rfl, rfl, rfl, rfl, rfl, rfl⟩

theorem switch_transmitPeriodic (view : InstanceView) (cts64 : UInt64)
    (state : port.patransd.state = .transmitPeriodic) :
    ∃ entered, Entered port entered ∧ (machine view cts64).switch port =
      (moveTo .idle entered, none) := by
  refine ⟨if port.patransd.lastState != .transmitPeriodic then
    transmitPeriodicProc (remembered port) else remembered port, ?_, ?_⟩
  rotate_left
  · simp only [Machine.switch, machine, arm, remembered, state]
  · split <;> exact ⟨rfl, rfl, rfl, rfl, rfl, rfl⟩

/-- On entry of `IDLE` the send time is computed anew. -/
theorem switch_idle (view : InstanceView) (cts64 : UInt64) (state : port.patransd.state = .idle) :
    ∃ entered, Entered port entered ∧ (machine view cts64).switch port =
        (moveTo (idleCondition view cts64 entered) entered, none) ∧
      entered.patransd.announceSendTime = if port.patransd.lastState = .idle then
        port.patransd.announceSendTime else cts64 + port.patransd.interval2 := by
  refine ⟨if port.patransd.lastState != .idle then idleProc cts64 (remembered port)
    else remembered port, ?_, ?_, ?_⟩
  rotate_left
  · simp only [Machine.switch, machine, arm, remembered, state]
  · by_cases same : port.patransd.lastState = .idle
    · rw [if_neg (by simp [same]), if_pos same]
      rfl
    · rw [if_pos (by simp [same]), if_neg same]
      rfl
  · split <;> exact ⟨rfl, rfl, rfl, rfl, rfl, rfl⟩

/-- Once `IDLE` is entered it is not left for `TRANSMIT_PERIODIC` in the same call. -/
def Pauses (view : InstanceView) (cts64 : UInt64) (port : Port) : Prop :=
  cts64 < cts64 + port.patransd.interval2 ∨ ¬ Serves view port

section

variable (pauses : Pauses view cts64 port)
include pauses

theorem Pauses.of_entered (kept : Entered port entered)
    (next : AnnounceTransmitState) : Pauses view cts64 (moveTo next entered) := by
  rw [Pauses, ← kept.interval2, ← kept.serves] at pauses
  exact pauses

theorem turnsLeft_switch_lt (silent : (machine view cts64).switch port = (next, none))
    (unstable : next.patransd.lastState ≠ next.patransd.state) :
    Pauses view cts64 next ∧ turnsLeft cts64 next < turnsLeft cts64 port := by
  cases state : port.patransd.state with
  | init =>
    simp only [Machine.switch, machine, arm, state, Prod.mk.injEq, and_true] at silent
    subst silent
    exact ⟨pauses, by simp [turnsLeft, moveTo, state]⟩
  | reaction =>
    simp only [Machine.switch, machine, arm, state, Prod.mk.injEq, and_true] at silent
    subst silent
    exact absurd rfl unstable
  | transmitInit =>
    obtain ⟨entered, kept, out⟩ := switch_transmitInit view cts64 state
    cases silent.symm.trans out
    have rank : turnsLeft cts64 port = 5 := by simp [turnsLeft, state]
    have last := kept.lastState.trans state
    refine ⟨pauses.of_entered kept _, ?_⟩
    unfold transmitInitCondition at unstable ⊢
    split at unstable
    · exact absurd last unstable
    · rename_i open_
      rw [if_neg open_, rank]
      simp [turnsLeft, moveTo, last]
  | transmitPeriodic =>
    obtain ⟨entered, kept, out⟩ := switch_transmitPeriodic view cts64 state
    cases silent.symm.trans out
    have rank : turnsLeft cts64 port = 3 := by simp [turnsLeft, state]
    have last := kept.lastState.trans state
    refine ⟨pauses.of_entered kept _, ?_⟩
    rw [rank]
    simp [turnsLeft, moveTo, last]
  | idle =>
    obtain ⟨entered, kept, out, sendTime⟩ := switch_idle view cts64 state
    cases silent.symm.trans out
    have last := kept.lastState.trans state
    refine ⟨pauses.of_entered kept _, ?_⟩
    rcases idleCondition_cases view cts64 entered with ⟨sends, _⟩ | ⟨periodic, due, serves⟩ | stays
    · have rank : 1 < turnsLeft cts64 port := by
        simp only [turnsLeft, state]
        split <;> decide
      rw [sends]
      exact rank
    · have advances := pauses.resolve_right (not_not.mpr (kept.serves.mp serves))
      -- the send time has come, so it was not computed on entry
      have come : port.patransd.lastState = .idle ∧ port.patransd.announceSendTime ≤ cts64 := by
        rw [sendTime] at due
        split at due
        · exact ⟨‹_›, due⟩
        · exact absurd advances (UInt64.not_lt.mpr due)
      have rank : turnsLeft cts64 port = 4 := by
        simp only [turnsLeft, state]
        exact if_pos come
      rw [periodic, rank]
      exact Nat.lt_succ_self 3
    · rw [stays, kept.state, state] at unstable
      exact absurd last unstable
  | transmitAnnounce =>
    simp only [Machine.switch, machine, arm, state, Prod.mk.injEq] at silent
    obtain ⟨rfl, _⟩ := silent
    exact absurd rfl unstable

theorem ends_of_pauses : TransmitEnds view cts64 port := by
  have halts : ∃ final result, (machine view cts64).run 8
      (moveTo (allstateCondition view port) port) = some (final, result) :=
    (machine view cts64).run_total (Pauses view cts64) (turnsLeft cts64)
      (fun _ _ ahead silent unstable => turnsLeft_switch_lt ahead silent unstable) pauses
      (turnsLeft_lt _)
  obtain ⟨final, result, finished⟩ := halts
  exact ⟨8, (final, result), finished⟩

end

/-- Without transmissions the machine does not leave `TRANSMIT_INIT`. -/
theorem ends_of_stopped (view : InstanceView) (cts64 : UInt64)
    (stopped : port.bppg.currentLogAnnounceInterval = 127) : TransmitEnds view cts64 port := by
  have start : allstateCondition view port = .transmitInit := by
    unfold allstateCondition
    split
    · rfl
    · rfl
  have state : (moveTo .transmitInit port).patransd.state = .transmitInit := rfl
  obtain ⟨entered, kept, out⟩ := switch_transmitInit view cts64 state
  have stays : transmitInitCondition entered = .transmitInit :=
    if_pos (kept.currentLog.trans stopped)
  refine ⟨1, (moveTo (transmitInitCondition entered) entered, none), ?_⟩
  rw [portAnnounceTransmitSm, start]
  exact (machine view cts64).run_of_stable out (kept.lastState.trans stays.symm)

/-- The turns of a call that goes round in circles: from `IDLE`, when the send time has come,
to `TRANSMIT_PERIODIC` and back. -/
structure Circles (cts64 : UInt64) (port : Port) : Prop where
  open_ : port.bppg.currentLogAnnounceInterval ≠ 127
  due : cts64 + port.patransd.interval2 ≤ cts64
  place : port.patransd.state = .init ∨ port.patransd.state = .transmitInit ∨
    port.patransd.state = .transmitPeriodic ∨
    port.patransd.state = .idle ∧
      (port.patransd.lastState ≠ .idle ∨ port.patransd.announceSendTime ≤ cts64)

theorem Circles.of_entered (circles : Circles cts64 port) (kept : Entered port entered)
    (next : AnnounceTransmitState) (place : next = .transmitInit ∨ next = .transmitPeriodic ∨
      next = .idle ∧ port.patransd.state ≠ .idle) : Circles cts64 (moveTo next entered) where
  open_ := kept.currentLog.trans_ne circles.open_
  due := by
    have due := circles.due
    rw [← kept.interval2] at due
    exact due
  place := by
    rcases place with rfl | rfl | ⟨rfl, other⟩
    · exact .inr (.inl rfl)
    · exact .inr (.inr (.inl rfl))
    · exact .inr (.inr (.inr ⟨rfl, .inl (kept.lastState.trans_ne other)⟩))

theorem circles_turn (serves : Serves view port) (circles : Circles cts64 port) :
    ∃ next, (machine view cts64).turn port = .again next ∧
      (Serves view next ∧ Circles cts64 next) := by
  have again : ∀ {entered : Port} {place : AnnounceTransmitState}, Entered port entered →
      (machine view cts64).switch port = (moveTo place entered, none) →
      entered.patransd.lastState ≠ place → Circles cts64 (moveTo place entered) →
      ∃ next, (machine view cts64).turn port = .again next ∧
        (Serves view next ∧ Circles cts64 next) := by
    intro entered place kept out unstable circles
    have moves : ¬ (machine view cts64).lastState (moveTo place entered) =
      (machine view cts64).state (moveTo place entered) := unstable
    have served : Serves view (moveTo place entered) := kept.serves.mpr serves
    exact ⟨_, by simp only [Machine.turn, out, if_neg moves], served, circles⟩
  rcases circles.place with state | state | state | ⟨state, late⟩
  · have entered : Entered port { port with patransd :=
        { port.patransd with lastState := .init } } := ⟨state.symm, rfl, rfl, rfl, rfl, rfl⟩
    refine again entered ?_ ?_ (circles.of_entered entered .transmitInit (.inl rfl))
    · simp [Machine.switch, machine, arm, state]
    · exact (by decide : AnnounceTransmitState.init ≠ .transmitInit)
  · obtain ⟨entered, kept, out⟩ := switch_transmitInit view cts64 state
    have moves : transmitInitCondition entered = .idle :=
      if_neg (kept.currentLog.trans_ne circles.open_)
    rw [moves] at out
    refine again kept out ?_ (circles.of_entered kept .idle (.inr (.inr ⟨rfl, by simp [state]⟩)))
    exact (kept.lastState.trans state).trans_ne
      (by decide : AnnounceTransmitState.transmitInit ≠ .idle)
  · obtain ⟨entered, kept, out⟩ := switch_transmitPeriodic view cts64 state
    refine again kept out ?_ (circles.of_entered kept .idle (.inr (.inr ⟨rfl, by simp [state]⟩)))
    exact (kept.lastState.trans state).trans_ne
      (by decide : AnnounceTransmitState.transmitPeriodic ≠ .idle)
  · obtain ⟨entered, kept, out, sendTime⟩ := switch_idle view cts64 state
    have come : entered.patransd.announceSendTime ≤ cts64 := by
      rw [sendTime]
      split
      · rename_i same
        exact late.resolve_left (not_not.mpr same)
      · exact circles.due
    rw [idleCondition_due come (kept.serves.mpr serves)] at out
    refine again kept out ?_ (circles.of_entered kept .transmitPeriodic (.inr (.inl rfl)))
    exact (kept.lastState.trans state).trans_ne
      (by decide : AnnounceTransmitState.idle ≠ .transmitPeriodic)

variable (view : InstanceView) (cts64 : UInt64)

theorem not_ends_of_circles (serves : Serves view port)
    (circles : Circles cts64 (moveTo (allstateCondition view port) port)) :
    ¬ TransmitEnds view cts64 port := by
  rintro ⟨fuel, ⟨final, result⟩, finished⟩
  have served : Serves view (moveTo (allstateCondition view port) port) := serves
  exact Exits.not_of_cycle (fun port => Serves view port ∧ Circles cts64 port)
    (fun _ goes => circles_turn goes.1 goes.2) ⟨served, circles⟩ (iterate_exits finished)

theorem run_transmitAnnounce (fuel : Nat) (state : port.patransd.state = .transmitAnnounce) :
    ∃ final result, (machine view cts64).run (fuel + 1) port = some (final, result) := by
  have out : (machine view cts64).switch port =
      arm view cts64 (port.patransd.lastState != .transmitAnnounce) (remembered port) := by
    simp only [Machine.switch, machine, remembered, state]
  have stored : (remembered port).patransd.state = .transmitAnnounce := state
  unfold arm at out
  rw [stored] at out
  cases change : port.patransd.lastState != .transmitAnnounce with
  | false =>
    rw [change] at out
    exact ⟨_, _, (machine view cts64).run_of_stable out rfl⟩
  | true =>
    rw [change] at out
    exact ⟨_, _, (machine view cts64).run_of_result out⟩

theorem ends_of_not_circles (stays : ¬ Circles cts64 (moveTo (allstateCondition view port) port)) :
    TransmitEnds view cts64 port := by
  by_cases stopped : port.bppg.currentLogAnnounceInterval = 127
  · exact ends_of_stopped view cts64 stopped
  by_cases advances : cts64 < cts64 + port.patransd.interval2
  · exact ends_of_pauses (.inl advances)
  have due := UInt64.not_lt.mp advances
  generalize moved : moveTo (allstateCondition view port) port = start at stays
  have same : start.bppg = port.bppg ∧ start.patransd.interval2 = port.patransd.interval2 := by
    rw [← moved]
    exact ⟨rfl, rfl⟩
  have place (place : start.patransd.state = .init ∨ start.patransd.state = .transmitInit ∨
      start.patransd.state = .transmitPeriodic ∨ start.patransd.state = .idle ∧
        (start.patransd.lastState ≠ .idle ∨ start.patransd.announceSendTime ≤ cts64)) : False := by
    refine stays ⟨?_, ?_, place⟩
    · rw [same.1]
      exact stopped
    · rw [same.2]
      exact due
  suffices halts : ∃ final result, (machine view cts64).run 2 start = some (final, result) by
    obtain ⟨final, result, finished⟩ := halts
    exact ⟨2, (final, result), by rw [portAnnounceTransmitSm, moved, finished]⟩
  cases state : start.patransd.state with
  | init => exact (place (.inl state)).elim
  | transmitInit => exact (place (.inr (.inl state))).elim
  | transmitPeriodic => exact (place (.inr (.inr (.inl state)))).elim
  | transmitAnnounce => exact run_transmitAnnounce view cts64 1 state
  | reaction =>
    have out : (machine view cts64).switch start = (remembered start, none) := by
      simp only [Machine.switch, machine, arm, remembered, state]
    exact ⟨_, _, (machine view cts64).run_of_stable out rfl⟩
  | idle =>
    have rests : start.patransd.lastState = .idle ∧ cts64 < start.patransd.announceSendTime := by
      constructor
      · by_contra other
        exact place (.inr (.inr (.inr ⟨state, .inl other⟩)))
      · by_contra late
        exact place (.inr (.inr (.inr ⟨state, .inr (UInt64.not_lt.mp late)⟩)))
    obtain ⟨entered, kept, out, sendTime⟩ := switch_idle view cts64 state
    rw [if_pos rests.1] at sendTime
    have last := kept.lastState.trans state
    rcases idleCondition_cases view cts64 entered with ⟨sends, _⟩ | ⟨_, late, _⟩ | rest
    · rw [sends] at out
      have unstable : (moveTo .transmitAnnounce entered).patransd.lastState ≠ .transmitAnnounce :=
        last.trans_ne (by decide)
      rw [(machine view cts64).run_of_unstable out unstable]
      exact run_transmitAnnounce view cts64 0 rfl
    · rw [sendTime] at late
      exact absurd rests.2 (UInt64.not_lt.mpr late)
    · rw [rest] at out
      have stable : (moveTo entered.patransd.state entered).patransd.lastState =
          (moveTo entered.patransd.state entered).patransd.state :=
        kept.lastState.trans kept.state.symm
      exact ⟨_, _, (machine view cts64).run_of_stable out stable⟩

end AnnounceTransmit

structure TimedPort where
  port : Port
  latest : Option Pace

/-- Entering `TRANSMIT_ANNOUNCE` transmits. -/
def observePace (stateChange : Bool) (port : Port) (latest : Option Pace) : Option Pace :=
  if stateChange ∧ port.patransd.state = .transmitAnnounce then some (announcePace port) else latest

/-- Everything else about the port changes, but for what the two machines that set the intervals
and the transmitting one work on. -/
def changeBeside (other port : Port) : Port :=
  { other with
    patransd := port.patransd
    aisetd := port.aisetd
    gcinvsetd := port.gcinvsetd
    ppg := { other.ppg with oldAnnounceInterval := port.ppg.oldAnnounceInterval }
    bppg := { other.bppg with
      announceSlowdown := port.bppg.announceSlowdown
      oldAnnounceInterval := port.bppg.oldAnnounceInterval
      announceInterval := port.bppg.announceInterval } }

inductive TimedStep where
  /-- `announce_interval_setting_sm`, on a request or on a tick. -/
  | announceInterval (ptasg : PerTimeAwareSystemGlobal) (request : Option Int8)
  /-- `gptp_capable_interval_setting_sm`, on a request or on a tick. -/
  | gptpCapableInterval (ptasg : PerTimeAwareSystemGlobal) (request : Option Int8)
  | announceTransmit (view : InstanceView) (cts64 : UInt64)
  | beside (other : Port)

namespace TimedPort

/-- The interval that the next send time is computed with: one second ahead of the first
transmission. -/
def scheduled (timed : TimedPort) : UInt64 := (timed.latest.map Pace.choice).getD 1000000000

open AnnounceTransmit in
/-- A call of the transmitting machine; `transmit_port` says that it is one. -/
def transmit (view : InstanceView) (cts64 : UInt64) (timed : TimedPort) : Option TimedPort :=
  (((machine view cts64).observed observePace).run 8
    (moveTo (allstateCondition view timed.port) timed.port, timed.latest)).map fun out =>
      ⟨out.1.1, out.1.2⟩

theorem transmit_port (view : InstanceView) (cts64 : UInt64) (timed : TimedPort) :
    (timed.transmit view cts64).map TimedPort.port =
      (portAnnounceTransmitSm view cts64 8 timed.port).map (·.1) := by
  rw [portAnnounceTransmitSm, ← (AnnounceTransmit.machine view cts64).observed_run observePace 8
    (_, timed.latest), transmit, Option.map_map, Option.map_map]
  rfl

def perform (timed : TimedPort) : TimedStep → Option TimedPort
  | .announceInterval ptasg request =>
    (announceIntervalSetting.call ptasg request timed.port).map ({ timed with port := · })
  | .gptpCapableInterval ptasg request =>
    (gptpCapableIntervalSetting.call ptasg request timed.port).map ({ timed with port := · })
  | .announceTransmit view cts64 => timed.transmit view cts64
  | .beside other => some { timed with port := changeBeside other timed.port }

end TimedPort

def timedSystem (settings : PortSettings) (portIndex : Nat) : System TimedPort TimedStep where
  start := { port := Port.init settings portIndex, latest := none }
  step := TimedPort.perform

namespace TimedPort

def Scheduled (timed : TimedPort) : Prop := timed.port.patransd.interval2 = timed.scheduled

open AnnounceTransmit in
theorem scheduled_arm (view : InstanceView) (cts64 : UInt64) (stateChange : Bool) (port : Port)
    (latest : Option Pace) (start : Scheduled ⟨port, latest⟩) :
    Scheduled ⟨(arm view cts64 stateChange port).1, observePace stateChange port latest⟩ := by
  unfold arm
  cases stateChange with
  | false =>
    have quiet : observePace false port latest = latest := if_neg nofun
    split <;> exact start
  | true =>
    cases state : port.patransd.state with
    | transmitAnnounce =>
      have observed : observePace true port latest = some (announcePace port) := if_pos ⟨rfl, state⟩
      rw [observed]
      exact interval2_nextInterval _
    | init | transmitInit | transmitPeriodic | idle | reaction =>
      have quiet : observePace true port latest = latest := if_neg (by simp [state])
      rw [quiet]
      exact start

open AnnounceTransmit in
theorem Scheduled.transmit (start : Scheduled timed)
    (done : timed.transmit view cts64 = some next) : Scheduled next := by
  obtain ⟨⟨final, result⟩, ran, rfl⟩ := Option.map_eq_some_iff.mp done
  refine Machine.run_preserves _ (fun pair => Scheduled ⟨pair.1, pair.2⟩) ?_ start ran
  rintro ⟨port, latest⟩ start
  exact scheduled_arm view cts64 _ (remembered port) latest start

theorem patransd_call (setting : IntervalSetting)
    (store : ∀ vars port, (setting.store vars port).patransd = port.patransd)
    (setData : ∀ data port, (setting.setData data port).patransd = port.patransd)
    (done : setting.call ptasg request before = some next) : next.patransd = before.patransd := by
  have kept : ∀ port, setting.run ptasg port = some next → next.patransd = port.patransd := by
    intro port ran
    exact setting.run_preserves (fun other => other.patransd = port.patransd)
      (fun _ _ same => (store _ _).trans same) (fun _ _ same => (setData _ _).trans same) ran rfl
  cases request with
  | none => exact kept _ done
  | some requested => exact (kept _ done).trans (setData _ _)

theorem Scheduled.step (start : Scheduled timed) (done : timed.perform event = some next) :
    Scheduled next := by
  cases event with
  | announceInterval ptasg request =>
    obtain ⟨port, ran, rfl⟩ := Option.map_eq_some_iff.mp done
    have kept := patransd_call announceIntervalSetting (fun _ _ => rfl) (fun _ _ => rfl) ran
    exact (congrArg PortAnnounceTransmitData.interval2 kept).trans start
  | gptpCapableInterval ptasg request =>
    obtain ⟨port, ran, rfl⟩ := Option.map_eq_some_iff.mp done
    have kept := patransd_call gptpCapableIntervalSetting (fun _ _ => rfl) (fun _ _ => rfl) ran
    exact (congrArg PortAnnounceTransmitData.interval2 kept).trans start
  | announceTransmit view cts64 => exact start.transmit done
  | beside other =>
    cases done
    exact start

theorem Scheduled.of_reachable
    (reachable : (timedSystem settings portIndex).Reachable System.anyStep timed) :
    Scheduled timed := by
  have start : Scheduled ⟨Port.init settings portIndex, none⟩ := rfl
  exact reachable.invariant Scheduled start fun _ _ _ start _ done => start.step done

end TimedPort

/-- The call stays in `IDLE`, where it waits for a send time ahead, or starts where it only
transmits. -/
def Waits (view : InstanceView) (cts64 : UInt64) (port : Port) : Prop :=
  match AnnounceTransmit.allstateCondition view port with
  | .idle => port.patransd.lastState = .idle ∧ cts64 < port.patransd.announceSendTime
  | .transmitAnnounce | .reaction => True
  | .init | .transmitInit | .transmitPeriodic => False

open AnnounceTransmit in
theorem waits_iff (view : InstanceView) (cts64 : UInt64) (port : Port) :
    Waits view cts64 port ↔ ¬ ((allstateCondition view port = .init ∨
      allstateCondition view port = .transmitInit ∨
      allstateCondition view port = .transmitPeriodic ∨ allstateCondition view port = .idle ∧
        (port.patransd.lastState ≠ .idle ∨ port.patransd.announceSendTime ≤ cts64))) := by
  unfold Waits
  cases allstateCondition view port <;> simp

/-- In every state that a run reaches, a call at any time ends exactly when the machine does not
transmit at all, the latest interval leads to a later send time, it waits for one, or it is not
taken out of `IDLE`. -/
theorem transmitEnds_iff
    (reachable : (timedSystem settings portIndex).Reachable System.anyStep timed)
    (view : InstanceView) (cts64 : UInt64) : TransmitEnds view cts64 timed.port ↔
      timed.port.bppg.currentLogAnnounceInterval = 127 ∨ cts64 < cts64 + timed.scheduled ∨
        Waits view cts64 timed.port ∨ ¬ AnnounceTransmit.Serves view timed.port := by
  have interval := TimedPort.Scheduled.of_reachable reachable
  rw [← interval, waits_iff]
  constructor
  · intro ends
    by_contra neither
    obtain ⟨open_, rest⟩ := not_or.mp neither
    obtain ⟨advances, rest⟩ := not_or.mp rest
    obtain ⟨place, held⟩ := not_or.mp rest
    exact AnnounceTransmit.not_ends_of_circles view cts64 (not_not.mp held)
      ⟨open_, UInt64.not_lt.mp advances, not_not.mp place⟩ ends
  · rintro (stopped | advances | waits | held)
    · exact AnnounceTransmit.ends_of_stopped view cts64 stopped
    · exact AnnounceTransmit.ends_of_pauses (.inl advances)
    · exact AnnounceTransmit.ends_of_not_circles view cts64 fun circles => waits circles.place
    · exact AnnounceTransmit.ends_of_pauses (.inr held)

def PortSettings.managed : PortSettings :=
  { PortSettings.sample with useMgtSettableLogGptpCapableMessageInterval := true }

/-- A port that is up sends an Announce, is asked for an eighth of the interval, and sends the
next one when it is due. -/
def managedSteps : List TimedStep :=
  let domain := Domain.init (Config.sample 0) Settings.sample
  let managed := { upPort with ppg := { upPort.ppg with
    useMgtSettableLogGptpCapableMessageInterval := true } }
  [.beside managed, .gptpCapableInterval domain.ptasg none, .announceInterval domain.ptasg none,
    .announceTransmit domain.view 0, .announceInterval domain.ptasg (some (-3)),
    .announceTransmit domain.view 1000000000]

theorem managed_reached :
    ∃ timed, (timedSystem PortSettings.managed 1).Reachable System.anyStep timed ∧
      timed.port.patransd.interval2 = 0 ∧
      AnnounceTransmit.allstateCondition (Domain.init (Config.sample 0) Settings.sample).view
        timed.port = .idle ∧ timed.port.patransd.lastState = .idle ∧
      timed.port.patransd.announceSendTime = 2000000000 ∧
      timed.port.bppg.currentLogAnnounceInterval = -3 := by
  let view := (Domain.init (Config.sample 0) Settings.sample).view
  have ran : ((timedSystem PortSettings.managed 1).run (timedSystem PortSettings.managed 1).start
      managedSteps).map (fun timed => (timed.port.patransd.interval2,
        AnnounceTransmit.allstateCondition view timed.port, timed.port.patransd.lastState,
        timed.port.patransd.announceSendTime, timed.port.bppg.currentLogAnnounceInterval)) =
      some (0, .idle, .idle, 2000000000, -3) := by
    decide +kernel
  obtain ⟨timed, finished, found⟩ := Option.map_eq_some_iff.mp ran
  simp only [Prod.mk.injEq] at found
  exact ⟨timed, System.reachable_of_run finished, found⟩

/-- Half a second ahead of the send time the call ends, although the interval is zero. -/
theorem transmitEnds_iff_waiting :
    ∃ timed, (timedSystem PortSettings.managed 1).Reachable System.anyStep timed ∧
      timed.scheduled = 0 ∧
      TransmitEnds (Domain.init (Config.sample 0) Settings.sample).view 1500000000 timed.port := by
  obtain ⟨timed, reached, interval, state, lastState, sendTime, _⟩ := managed_reached
  have scheduled := TimedPort.Scheduled.of_reachable reached
  refine ⟨timed, reached, scheduled.symm.trans interval, ?_⟩
  refine (transmitEnds_iff reached _ _).mpr (.inr (.inr (.inl ?_)))
  rw [Waits, state]
  exact ⟨lastState, by rw [sendTime]; decide⟩

/-- The slowdown takes the old interval of the other machine, which has never been set. -/
theorem managed_not_transmitEnds : ¬ ∀ settings portIndex timed view cts64,
    (timedSystem settings portIndex).Reachable System.anyStep timed →
      TransmitEnds view cts64 timed.port := by
  intro all
  obtain ⟨timed, reached, interval, state, lastState, sendTime, log⟩ := managed_reached
  refine AnnounceTransmit.not_ends_of_circles _ 2000000000 (.inr rfl) ⟨?_, ?_, ?_⟩
    (all _ _ timed (Domain.init (Config.sample 0) Settings.sample).view 2000000000 reached)
  · rw [AnnounceTransmit.moveTo, log]
    decide
  · rw [AnnounceTransmit.moveTo, interval]
    decide
  · exact .inr (.inr (.inr ⟨state, .inr (UInt64.le_of_eq sendTime)⟩))

end EnetTsn.Bmcs
