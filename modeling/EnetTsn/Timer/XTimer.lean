import EnetTsn.Library.LinkedList
import EnetTsn.Library.Run

/-!
The timer manager of `cb_xtimer.c`: the operations on timers, and the passes of
`cb_xtimer_man_schedule`, whose callbacks may call every operation again.
-/

namespace EnetTsn.Timer

open EnetTsn.Library

/-- `UB_USEC_NS`. -/
def usecNs : UInt64 := 1000

/-- `struct cb_xtimer_ndata`; a callback stands together with its argument. -/
structure XtimerNdata (β : Type) where
  abstimeNsec : UInt64
  timeoutUs : UInt32
  isPeriodic : Bool
  isRunning : Bool
  expirecb : Option β
  deriving DecidableEq, Repr

/-- `struct cb_xtimer_man`, with the memory that its timers stand in: the two parts of
each `struct cb_xtimer` that was created and not deleted. -/
structure XtimerMan (τ β : Type) where
  heap : LinkHeap τ
  ndata : τ → Option (XtimerNdata β)
  runningTimers : ListHeader τ

variable {τ β : Type} [DecidableEq τ]

namespace XtimerMan

def setNdata (man : XtimerMan τ β) (timer : τ) (tdata : XtimerNdata β) : XtimerMan τ β :=
  { man with ndata := Function.update man.ndata timer (some tdata) }

def relinked (man : XtimerMan τ β) (result : LinkHeap τ × ListHeader τ) : XtimerMan τ β :=
  { man with
    heap := result.1
    runningTimers := result.2 }

end XtimerMan

/-- `cb_xtimer_create`, in memory that is free. -/
def cbXtimerCreate (man : XtimerMan τ β) (timer : τ) (expirecb : Option β) : XtimerMan τ β :=
  { man with
    heap := Function.update man.heap timer (some ⟨none, none⟩)
    ndata := Function.update man.ndata timer (some {
      abstimeNsec := 0
      timeoutUs := 0
      isPeriodic := false
      isRunning := false
      expirecb := expirecb }) }

/-- What `cb_xtimer_delete` and `cb_xtimer_stop` do first with a timer that is running. -/
def leaveRunning (man : XtimerMan τ β) (timer : τ) (tdata : XtimerNdata β) :
    Option (XtimerMan τ β) :=
  if tdata.isRunning then (man.runningTimers.unlink man.heap timer).map man.relinked
  else some man

def cbXtimerDelete (man : XtimerMan τ β) (timer : τ) : Option (XtimerMan τ β) := do
  let tdata ← man.ndata timer
  let man ← leaveRunning man timer tdata
  some { man with
    heap := Function.update man.heap timer none
    ndata := Function.update man.ndata timer none }

/-- The place of `add_timer_abstime` for an expiry time that comes before the last one. -/
def insertionPlace (man : XtimerMan τ β) (abstimeNsec : UInt64) : Option (Option τ) :=
  man.heap.search (fun other => (man.ndata other).map fun tdata => abstimeNsec ≤ tdata.abstimeNsec)
    man.runningTimers.count man.runningTimers.head

/-- The list operation of `add_timer_abstime`. -/
def insertTimer (man : XtimerMan τ β) (timer : τ) (abstimeNsec : UInt64) :
    Option (XtimerMan τ β) :=
  match man.runningTimers.tail with
  | none => (man.runningTimers.append man.heap timer).map man.relinked
  | some last => do
    let lastData ← man.ndata last
    if lastData.abstimeNsec ≤ abstimeNsec then
      (man.runningTimers.append man.heap timer).map man.relinked
    else
      match ← insertionPlace man abstimeNsec with
      | none => some man
      | some place => (man.runningTimers.insertBefore man.heap place timer).map man.relinked

def addTimerAbstime (man : XtimerMan τ β) (timer : τ) (abstimeNsec : UInt64) :
    Option (XtimerMan τ β × Int) := do
  let tdata ← man.ndata timer
  if tdata.isRunning then some (man, -2)
  else
    let marked := man.setNdata timer { tdata with
      isRunning := true
      abstimeNsec := abstimeNsec }
    let added ← insertTimer marked timer abstimeNsec
    some (added, 0)

/-- The expiry time of `cb_xtimer_start`. A periodic timer may be started in its own
callback, and goes on from its last expiry. -/
def startAbstime (tdata : XtimerNdata β) (timeoutUs : UInt32) (now : UInt64) : UInt64 :=
  if tdata.isPeriodic ∧ tdata.abstimeNsec ≠ 0 then tdata.abstimeNsec + timeoutUs.toUInt64 * usecNs
  else now + timeoutUs.toUInt64 * usecNs

def cbXtimerStart (man : XtimerMan τ β) (timer : τ) (timeoutUs : UInt32) (now : UInt64) :
    Option (XtimerMan τ β × Int) := do
  let tdata ← man.ndata timer
  let (added, res) ← addTimerAbstime man timer (startAbstime tdata timeoutUs now)
  if res ≠ 0 then some (added, res)
  else
    let started ← added.ndata timer
    some (added.setNdata timer { started with timeoutUs := timeoutUs }, 0)

def cbXtimerStop (man : XtimerMan τ β) (timer : τ) : Option (XtimerMan τ β) := do
  let tdata ← man.ndata timer
  let man ← leaveRunning man timer tdata
  some (man.setNdata timer { tdata with
    isRunning := false
    isPeriodic := false })

/-- `cb_xtimer_set_periodic` and `cb_xtimer_clear_periodic`. -/
def setPeriodicTo (isPeriodic : Bool) (man : XtimerMan τ β) (timer : τ) :
    Option (XtimerMan τ β) := do
  let tdata ← man.ndata timer
  some (man.setNdata timer { tdata with isPeriodic := isPeriodic })

def cbXtimerSetPeriodic (man : XtimerMan τ β) (timer : τ) : Option (XtimerMan τ β) :=
  setPeriodicTo true man timer

def cbXtimerClearPeriodic (man : XtimerMan τ β) (timer : τ) : Option (XtimerMan τ β) :=
  setPeriodicTo false man timer

/-- Where `cb_xtimer_man_schedule` stands: in its first loop, in its second loop, or in a
callback. -/
inductive SchedulePoint (τ : Type) where
  | collect
  | process
  | callback (timer : τ)
  deriving DecidableEq, Repr

/-- A call of `cb_xtimer_man_schedule` that has not returned. -/
structure ScheduleCall (τ : Type) where
  cts64 : UInt64
  expiredTimers : ListHeader τ
  point : SchedulePoint τ
  deriving DecidableEq, Repr

/-- What happens to a timer: it comes to the running list, leaves it as it has expired,
runs its callback if it has one, or is stopped or deleted. -/
inductive Record (τ β : Type) where
  | started (timer : τ)
  | expired (timer : τ)
  | called (timer : τ) (expirecb : Option β)
  | stopped (timer : τ)
  deriving DecidableEq, Repr

/-- The manager, the calls of `cb_xtimer_man_schedule` with the innermost one first, and
what happened so far, the latest first. -/
structure TimerState (τ β : Type) where
  man : XtimerMan τ β
  calls : List (ScheduleCall τ)
  history : List (Record τ β)

def collectTurn (state : TimerState τ β) (call : ScheduleCall τ) (outer : List (ScheduleCall τ)) :
    Option (TimerState τ β) :=
  let finished := { state with calls := { call with point := .process } :: outer }
  match state.man.runningTimers.head with
  | none => some finished
  | some tnode => do
    let tdata ← state.man.ndata tnode
    if call.cts64 < tdata.abstimeNsec then some finished
    else
      let unlinked ← state.man.runningTimers.unlink state.man.heap tnode
      let (heap, expiredTimers) ← call.expiredTimers.append unlinked.1 tnode
      some {
        man := state.man.relinked (heap, unlinked.2)
        calls := { call with expiredTimers := expiredTimers } :: outer
        history := .expired tnode :: state.history }

/-- What the second loop does with a timer after its callback: a periodic timer runs again. -/
def afterCallback (state : TimerState τ β) (tnode : τ) : Option (TimerState τ β) := do
  let tdata ← state.man.ndata tnode
  if tdata.isPeriodic then
    let (man, res) ← addTimerAbstime state.man tnode
      (tdata.timeoutUs.toUInt64 * usecNs + tdata.abstimeNsec)
    some { state with
      man := man
      history := if res = 0 then .started tnode :: state.history else state.history }
  else some state

def processTurn (state : TimerState τ β) (call : ScheduleCall τ) (outer : List (ScheduleCall τ)) :
    Option (TimerState τ β) :=
  match call.expiredTimers.head with
  | none => some { state with calls := outer }
  | some tnode => do
    let tdata ← state.man.ndata tnode
    let (heap, expiredTimers) ← call.expiredTimers.unlink state.man.heap tnode
    let handled := { state.man with heap := heap }.setNdata tnode { tdata with isRunning := false }
    let history := .called tnode tdata.expirecb :: state.history
    let left := { call with expiredTimers := expiredTimers }
    match tdata.expirecb with
    | some _ => some ⟨handled, { left with point := .callback tnode } :: outer, history⟩
    | none => afterCallback ⟨handled, left :: outer, history⟩ tnode

inductive TimerEvent (τ β : Type) where
  | create (timer : τ) (expirecb : Option β)
  | start (timer : τ) (timeoutUs : UInt32) (now : UInt64)
  | stop (timer : τ)
  | delete (timer : τ)
  | setPeriodic (timer : τ)
  | clearPeriodic (timer : τ)
  | schedule (now : UInt64)
  /-- The innermost pass takes its next turn. -/
  | turn
  /-- The callback of the innermost pass returns. -/
  | callbackReturn
  deriving DecidableEq, Repr

/-- What a step comes to: the program goes on, or has used memory of a deleted timer. -/
inductive Outcome (τ β : Type) where
  | intact (state : TimerState τ β)
  | freedTouched

def Outcome.of (result : Option (TimerState τ β)) : Outcome τ β :=
  match result with
  | some state => .intact state
  | none => .freedTouched

namespace TimerState

/-- Operations are called outside all passes, or in the callback of the innermost pass. -/
def callable (state : TimerState τ β) : Bool :=
  match state.calls with
  | [] => true
  | call :: _ =>
    match call.point with
    | .callback _ => true
    | .collect | .process => false

def withMan (state : TimerState τ β) (man : XtimerMan τ β) : TimerState τ β :=
  { state with man := man }

def started (state : TimerState τ β) (timer : τ) (result : XtimerMan τ β × Int) :
    TimerState τ β :=
  { state with
    man := result.1
    history := if result.2 = 0 then .started timer :: state.history else state.history }

def stopped (state : TimerState τ β) (timer : τ) (man : XtimerMan τ β) : TimerState τ β :=
  { state with
    man := man
    history := .stopped timer :: state.history }

/-- A call of an operation; its timer, if it takes one, is one that was created and not
deleted. -/
def operate (state : TimerState τ β) (event : TimerEvent τ β) : Option (Outcome τ β) :=
  match event with
  | .create timer expirecb =>
    if (state.man.ndata timer).isNone ∧ (state.man.heap timer).isNone then
      some (.intact (state.withMan (cbXtimerCreate state.man timer expirecb)))
    else none
  | .start timer timeoutUs now =>
    if (state.man.ndata timer).isSome then
      some (Outcome.of ((cbXtimerStart state.man timer timeoutUs now).map (state.started timer)))
    else none
  | .stop timer =>
    if (state.man.ndata timer).isSome then
      some (Outcome.of ((cbXtimerStop state.man timer).map (state.stopped timer)))
    else none
  | .delete timer =>
    if (state.man.ndata timer).isSome then
      some (Outcome.of ((cbXtimerDelete state.man timer).map (state.stopped timer)))
    else none
  | .setPeriodic timer =>
    if (state.man.ndata timer).isSome then
      some (Outcome.of ((cbXtimerSetPeriodic state.man timer).map state.withMan))
    else none
  | .clearPeriodic timer =>
    if (state.man.ndata timer).isSome then
      some (Outcome.of ((cbXtimerClearPeriodic state.man timer).map state.withMan))
    else none
  | .schedule now =>
    some (.intact { state with calls := ⟨now, ListHeader.empty, .collect⟩ :: state.calls })
  | .turn | .callbackReturn => none

def proceed (state : TimerState τ β) (event : TimerEvent τ β) : Option (Outcome τ β) :=
  match state.calls, event with
  | call :: outer, .turn =>
    match call.point with
    | .collect => some (Outcome.of (collectTurn state call outer))
    | .process => some (Outcome.of (processTurn state call outer))
    | .callback _ => none
  | call :: outer, .callbackReturn =>
    match call.point with
    | .callback timer => some (Outcome.of (afterCallback { state with
        calls := { call with point := .process } :: outer } timer))
    | .collect | .process => none
  | _, _ => none

def step (state : TimerState τ β) (event : TimerEvent τ β) : Option (Outcome τ β) :=
  match event with
  | .turn | .callbackReturn => state.proceed event
  | _ => if state.callable then state.operate event else none

end TimerState

def timerStart : TimerState τ β where
  man := {
    heap := fun _ => none
    ndata := fun _ => none
    runningTimers := ListHeader.empty }
  calls := []
  history := []

/-- The operations and the passes in any order. Nothing more is said about a program that
has used memory of a deleted timer. -/
def timerSystem : System (Outcome τ β) (TimerEvent τ β) where
  start := .intact timerStart
  step outcome event :=
    match outcome with
    | .intact state => state.step event
    | .freedTouched => none

end EnetTsn.Timer
