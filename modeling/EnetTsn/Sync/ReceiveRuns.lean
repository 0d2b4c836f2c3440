import EnetTsn.Sync.Relay

namespace EnetTsn.Sync

open EnetTsn.Gptp EnetTsn.Library

open PortSyncReceive in
/-- `port_sync_sync_receive_sm`, called without a new structure. -/
def portSyncSyncReceiveSm (port : PortSyncReceivePort) (cts64 : UInt64) (data : PortSyncReceive) :
    Option (PortSyncReceive × Option PortSyncSync) :=
  (machine port cts64).run 4 (allstateCondition port data)

namespace PortSyncReceive

/-- The machine after `port_sync_sync_receive_sm_init`; its pointer does not point anywhere. -/
def initialized (pointer : MDSyncReceive) : PortSyncReceive where
  state := .init
  lastState := .init
  rcvdMDSync := false
  rcvdMDSyncPtr := pointer
  syncReceiptTimeoutTimeInterval := 0
  parentLogSyncInterval := 0

/-- Between two calls the machine stays in the receiving state, with nothing pending. -/
structure Waiting (data : PortSyncReceive) : Prop where
  state : data.state = .receivedSync
  lastState : data.lastState = .receivedSync
  consumed : data.rcvdMDSync = false

private theorem arrived_receivedSync (port : PortSyncReceivePort) (data : PortSyncReceive) :
    (receivedSync port data).arrived port = false := rfl

section Passes

variable {port : PortSyncReceivePort} {cts64 : UInt64} {data : PortSyncReceive}

theorem run_receivedSync (state : data.state = .receivedSync)
    (entering : data.lastState ≠ .receivedSync) : ∃ next, (machine port cts64).run (fuel + 1) data =
        some (next, some (receivedPortSync port data.rcvdMDSyncPtr cts64)) ∧ next.Waiting ∧
      next.rcvdMDSyncPtr = data.rcvdMDSyncPtr := by
  refine ⟨moveTo .receivedSync (receivedSync port
    { data with state := .receivedSync, lastState := .receivedSync }), ?_, ⟨rfl, rfl, rfl⟩, rfl⟩
  apply Machine.run_of_result
  simp only [Machine.switch, machine, arm, state, bne_iff_ne.mpr entering, if_true,
    arrived_receivedSync, Bool.false_and, Bool.false_eq_true, if_false]

theorem run_discard (state : data.state = .discard) (entering : data.lastState ≠ .discard) :
    ∃ next, (machine port cts64).run (fuel + 2) data =
        some (next, some (receivedPortSync port data.rcvdMDSyncPtr cts64)) ∧ next.Waiting ∧
      next.rcvdMDSyncPtr = data.rcvdMDSyncPtr := by
  have out : (machine port cts64).switch data = (moveTo .receivedSync
      { data with rcvdMDSync := false, lastState := .discard }, none) := by
    simp only [Machine.switch, machine, arm, state, bne_iff_ne.mpr entering, if_true]
  rw [(machine port cts64).run_of_unstable out (by rintro ⟨⟩)]
  exact run_receivedSync rfl (by rintro ⟨⟩)

theorem run_init (state : data.state = .init) : ∃ next, (machine port cts64).run (fuel + 3) data =
        some (next, some (receivedPortSync port data.rcvdMDSyncPtr cts64)) ∧ next.Waiting ∧
      next.rcvdMDSyncPtr = data.rcvdMDSyncPtr := by
  have out : (machine port cts64).switch data =
      (moveTo .discard { data with lastState := .init }, none) := by
    simp only [Machine.switch, machine, arm, state]
  rw [(machine port cts64).run_of_unstable out (by rintro ⟨⟩)]
  exact run_discard rfl (by rintro ⟨⟩)

variable (port : PortSyncReceivePort)

private theorem recvMDSync_handsOn (received : MDSyncReceive)
    (cts64 : UInt64) (entered : data.state = .init ∨ data.Waiting) :
    ∃ next, portSyncSyncReceiveSmRecvMDSync port received cts64 data =
        some (next, some (receivedPortSync port received cts64)) ∧ next.Waiting ∧
      next.rcvdMDSyncPtr = received := by
  unfold portSyncSyncReceiveSmRecvMDSync allstateCondition
  split
  · exact run_discard rfl nofun
  · rcases entered with first | waiting
    · exact run_init first
    · exact run_receivedSync waiting.state nofun

theorem tick_waiting (cts64 : UInt64) (waiting : data.Waiting) :
    ∃ next, portSyncSyncReceiveSm port cts64 data = some (next,
        if port.BEGIN || !port.instanceEnable then
          some (receivedPortSync port data.rcvdMDSyncPtr cts64)
        else none) ∧ next.Waiting ∧ next.rcvdMDSyncPtr = data.rcvdMDSyncPtr := by
  have idle : (data.rcvdMDSync && !port.up) = false := by rw [waiting.consumed, Bool.false_and]
  unfold portSyncSyncReceiveSm allstateCondition
  rw [idle, Bool.or_false]
  split
  · exact run_discard rfl nofun
  · refine ⟨data, ?_, waiting, rfl⟩
    refine (machine port cts64).run_of_stable ?_ (waiting.lastState.trans waiting.state.symm)
    obtain ⟨state, lastState, consumed⟩ := waiting
    cases data
    subst state lastState consumed
    rfl

end Passes

end PortSyncReceive

/-- A structure that was handed on, with the port at that moment and the number of the arrival
that the pointer goes back to. -/
structure HandedOn where
  port : PortSyncReceivePort
  number : Nat
  portSyncSync : PortSyncSync

/-- A port, its machine, the number of arrivals, and what the machine has handed on. -/
structure ReceiveRun where
  port : PortSyncReceivePort
  data : PortSyncReceive
  arrivals : Nat
  emitted : List HandedOn

inductive ReceiveEvent where
  | change (port : PortSyncReceivePort)
  | recvMDSync (received : MDSyncReceive) (cts64 : UInt64)
  | tick (cts64 : UInt64)

namespace ReceiveRun

def emit (run : ReceiveRun) (number : Nat) (next : PortSyncReceive) :
    Option PortSyncSync → ReceiveRun
  | none => { run with data := next, arrivals := number }
  | some result => { run with
      data := next
      arrivals := number
      emitted := run.emitted ++ [{ port := run.port, number := number, portSyncSync := result }] }

/-- Before the first arrival a call without a structure follows a pointer to nowhere. -/
def perform (run : ReceiveRun) : ReceiveEvent → Option ReceiveRun
  | .change port => some { run with port := port }
  | .recvMDSync received cts64 =>
    (portSyncSyncReceiveSmRecvMDSync run.port received cts64 run.data).map fun out =>
      run.emit (run.arrivals + 1) out.1 out.2
  | .tick cts64 =>
    if run.arrivals = 0 then none
    else (portSyncSyncReceiveSm run.port cts64 run.data).map fun out =>
      run.emit run.arrivals out.1 out.2

structure Guarded (run : ReceiveRun) : Prop where
  up : ∀ emission ∈ run.emitted, emission.port.up = true
  once : (run.emitted.map HandedOn.number).Nodup

/-- A structure arrives at a port that is up, and no call without one finds an instance that
begins or is disabled. -/
def Admits (run : ReceiveRun) : ReceiveEvent → Prop
  | .change _ => True
  | .recvMDSync _ _ => run.port.up = true
  | .tick _ => run.port.BEGIN = false ∧ run.port.instanceEnable = true

/-- The machine waits, and the last arrival has been handed on, after the ones before. -/
structure Numbered (run : ReceiveRun) : Prop where
  entered : run.arrivals = 0 ∧ run.data.state = .init ∨ 0 < run.arrivals ∧ run.data.Waiting
  bound : ∀ number ∈ run.emitted.map HandedOn.number, number ≤ run.arrivals
  last : 0 < run.arrivals → run.arrivals ∈ run.emitted.map HandedOn.number

end ReceiveRun

def receiveSystem (port : PortSyncReceivePort) (pointer : MDSyncReceive) :
    System ReceiveRun ReceiveEvent where
  start :=
    { port := port, data := .initialized pointer, arrivals := 0, emitted := [] }
  step := ReceiveRun.perform

namespace ReceiveRun

section Steps

variable {run next : ReceiveRun}

theorem perform_recvMDSync (numbered : run.Numbered)
    (done : run.perform (.recvMDSync received cts64) = some next) :
    ∃ data result, data.Waiting ∧ next = { run with
      data := data
      arrivals := run.arrivals + 1
      emitted := run.emitted ++
        [{ port := run.port, number := run.arrivals + 1, portSyncSync := result }] } := by
  have entered : run.data.state = .init ∨ run.data.Waiting := by
    rcases numbered.entered with ⟨_, first⟩ | ⟨_, waiting⟩
    · exact .inl first
    · exact .inr waiting
  obtain ⟨data, finished, waiting, _⟩ :=
    PortSyncReceive.recvMDSync_handsOn run.port received cts64 entered
  obtain ⟨out, called, rfl⟩ := Option.map_eq_some_iff.mp done
  cases finished.symm.trans called
  exact ⟨data, _, waiting, rfl⟩

theorem perform_tick (numbered : run.Numbered) (done : run.perform (.tick cts64) = some next) :
    0 < run.arrivals ∧ ∃ data result, data.Waiting ∧ next = { run with
      data := data
      emitted := if run.port.BEGIN || !run.port.instanceEnable then run.emitted ++
          [{ port := run.port, number := run.arrivals, portSyncSync := result }]
        else run.emitted } := by
  simp only [perform] at done
  split at done
  · cases done
  · rename_i arrived
    have waiting := numbered.entered.resolve_left fun first => arrived first.1
    obtain ⟨data, finished, waits, _⟩ := PortSyncReceive.tick_waiting run.port cts64 waiting.2
    obtain ⟨out, called, rfl⟩ := Option.map_eq_some_iff.mp done
    cases finished.symm.trans called
    refine ⟨waiting.1, data, PortSyncReceive.receivedPortSync run.port run.data.rcvdMDSyncPtr cts64,
      waits, ?_⟩
    split <;> rfl

theorem Numbered.step (numbered : run.Numbered) (done : run.perform event = some next) :
    next.Numbered := by
  cases event with
  | change port =>
    cases done
    exact ⟨numbered.entered, numbered.bound, numbered.last⟩
  | recvMDSync received cts64 =>
    obtain ⟨data, result, waiting, rfl⟩ := perform_recvMDSync numbered done
    refine ⟨.inr ⟨Nat.succ_pos _, waiting⟩, ?_, ?_⟩
    · intro number member
      simp only [List.map_append, List.map_cons, List.map_nil, List.mem_append,
        List.mem_singleton] at member
      rcases member with earlier | rfl
      · exact Nat.le_succ_of_le (numbered.bound number earlier)
      · exact Nat.le_refl _
    · intro _
      simp
  | tick cts64 =>
    obtain ⟨positive, data, result, waiting, rfl⟩ := perform_tick numbered done
    refine ⟨.inr ⟨positive, waiting⟩, ?_, ?_⟩
    · intro number member
      split at member
      · simp only [List.map_append, List.map_cons, List.map_nil, List.mem_append,
          List.mem_singleton] at member
        rcases member with earlier | rfl
        · exact numbered.bound number earlier
        · exact Nat.le_refl _
      · exact numbered.bound number member
    · intro _
      have before := numbered.last positive
      split
      · rw [List.map_append]
        exact List.mem_append_left _ before
      · exact before

theorem Numbered.of_reachable {port : PortSyncReceivePort}
    (reachable : (receiveSystem port pointer).Reachable allowed run) :
    run.Numbered := by
  have start : (receiveSystem port pointer).start.Numbered :=
    ⟨.inl ⟨rfl, rfl⟩, nofun, fun positive => absurd positive (Nat.lt_irrefl 0)⟩
  exact reachable.invariant Numbered start fun _ _ _ numbered _ done => numbered.step done

theorem guarded_append_iff {data : PortSyncReceive} {arrivals : Nat} :
    Guarded { run with data := data, arrivals := arrivals, emitted := run.emitted ++ [emission] } ↔
      run.Guarded ∧ emission.port.up = true ∧
        emission.number ∉ run.emitted.map HandedOn.number := by
  constructor
  · rintro ⟨up, once⟩
    simp only [List.map_append, List.map_cons, List.map_nil, List.nodup_append] at once
    refine ⟨⟨fun earlier member => up earlier (List.mem_append_left _ member), once.1⟩,
      up emission (List.mem_append_right _ (List.mem_singleton_self _)), fun member => ?_⟩
    exact once.2.2 _ member _ (List.mem_singleton_self _) rfl
  · rintro ⟨⟨up, once⟩, isUp, fresh⟩
    refine ⟨fun later member => ?_, ?_⟩
    · rcases List.mem_append.mp member with earlier | same
      · exact up later earlier
      · rw [List.mem_singleton.mp same]
        exact isUp
    · simp only [List.map_append, List.map_cons, List.map_nil, List.nodup_append]
      refine ⟨once, by simp, fun number member other same => ?_⟩
      rw [List.mem_singleton.mp same]
      rintro rfl
      exact fresh member

theorem guarded_step_iff (numbered : run.Numbered) (done : run.perform event = some next) :
    next.Guarded ↔ run.Guarded ∧ run.Admits event := by
  cases event with
  | change port =>
    cases done
    exact ⟨fun guarded => ⟨⟨guarded.up, guarded.once⟩, trivial⟩,
      fun guarded => ⟨guarded.1.up, guarded.1.once⟩⟩
  | recvMDSync received cts64 =>
    obtain ⟨data, result, _, rfl⟩ := perform_recvMDSync numbered done
    have fresh : run.arrivals + 1 ∉ run.emitted.map HandedOn.number :=
      fun member => absurd (numbered.bound _ member) (Nat.not_succ_le_self _)
    rw [guarded_append_iff]
    exact and_congr_right fun _ => and_iff_left fresh
  | tick cts64 =>
    obtain ⟨positive, data, result, _, rfl⟩ := perform_tick numbered done
    cases again : run.port.BEGIN || !run.port.instanceEnable with
    | true =>
      simp only [if_true]
      rw [guarded_append_iff]
      refine iff_of_false (fun guarded => guarded.2.2 (numbered.last positive)) ?_
      rintro ⟨_, begins, enabled⟩
      simp [begins, enabled] at again
    | false =>
      simp only [Bool.or_eq_false_iff, Bool.not_eq_false'] at again
      exact ⟨fun guarded => ⟨⟨guarded.up, guarded.once⟩, again⟩,
        fun guarded => ⟨guarded.1.up, guarded.1.once⟩⟩

end Steps

end ReceiveRun

/-- A run hands on structures of ports that are up only, and each one once, exactly when all its
steps are admitted. -/
theorem guarded_iff_admits {port : PortSyncReceivePort} {pointer : MDSyncReceive}
    {run : ReceiveRun} (reachable : (receiveSystem port pointer).Reachable System.anyStep run) :
    run.Guarded ↔ (receiveSystem port pointer).Reachable ReceiveRun.Admits run := by
  have start : (receiveSystem port pointer).start.Guarded :=
    ⟨fun _ member => absurd member List.not_mem_nil, List.nodup_nil⟩
  refine reachable.iff_allowed ReceiveRun.Guarded start ?_
  intro earlier event next reached done
  exact ReceiveRun.guarded_step_iff (ReceiveRun.Numbered.of_reachable reached) done

namespace ReceiveRun

def plainReceived : MDSyncReceive := { Relay.plainSend with seqid := 0 }

def receivingPort : PortSyncReceivePort := (Relay.undelayed 0).port

end ReceiveRun

theorem guarded_iff_admits_up : ∃ run : ReceiveRun,
    (receiveSystem ReceiveRun.receivingPort ReceiveRun.plainReceived).Reachable
      System.anyStep run ∧ run.emitted.length = 1 ∧
    (run.Guarded ↔ (receiveSystem ReceiveRun.receivingPort ReceiveRun.plainReceived).Reachable
      ReceiveRun.Admits run) := by
  let system := receiveSystem ReceiveRun.receivingPort ReceiveRun.plainReceived
  have runs : (system.run system.start [.recvMDSync ReceiveRun.plainReceived 0, .tick 0]).map
      (fun run => run.emitted.length) = some 1 := by decide +kernel
  obtain ⟨run, done, emitted⟩ := Option.map_eq_some_iff.mp runs
  have reachable := System.reachable_of_run done
  exact ⟨run, reachable, emitted, guarded_iff_admits reachable⟩

/-- An arrival while the port is down is handed on all the same. -/
theorem down_not_guarded :
    ¬ ∀ (port : PortSyncReceivePort) (pointer : MDSyncReceive) (run : ReceiveRun),
      (receiveSystem port pointer).Reachable System.anyStep run → run.Guarded := by
  intro all
  let system := receiveSystem { ReceiveRun.receivingPort with asCapable := false }
    ReceiveRun.plainReceived
  have runs : (system.run system.start [.recvMDSync ReceiveRun.plainReceived 0]).map
      (fun run => run.emitted.map fun emission => emission.port.up) = some [false] := by
    decide +kernel
  obtain ⟨run, done, emitted⟩ := Option.map_eq_some_iff.mp runs
  have guarded := all _ _ run (System.reachable_of_run done)
  have member : false ∈ run.emitted.map fun emission => emission.port.up := by
    rw [emitted]
    exact List.mem_singleton_self _
  obtain ⟨emission, handedOn, down⟩ := List.mem_map.mp member
  cases (guarded.up emission handedOn).symm.trans down

end EnetTsn.Sync
