import EnetTsn.Sync.Relay

namespace EnetTsn.Sync

open EnetTsn.Gptp EnetTsn.Library

def sentOn (port : PortSyncSendPort) (source : PortSyncSync) : MDSyncSend :=
  { source.toMDSyncSend with
    domainIndex := port.domainIndex
    sourcePortIdentity := { clockIdentity := port.thisClock, portIndex := port.thisPort }
    logMessageInterval := port.currentLogSyncInterval }

namespace PortSyncSend

/-- The machine is about to send because its own interval is over, whatever it received. -/
structure Repeats (port : PortSyncSendPort) (cts64 : UInt64) (data : PortSyncSend) : Prop where
  running : port.BEGIN = false ∧ port.instanceEnable = true
  sends : PortSyncSend.sends port = true
  allowed : port.currentLogSyncInterval ≠ 127
  state : data.state = .sendMdSync
  unlocked : data.syncLocked = false
  early : cts64 < data.syncReceiptTimeoutTime
  due : data.interval1 ≤ cts64 - data.lastSyncSentTime
  other : data.lastRcvdPortNum ≠ port.thisPort

def arrived (port : PortSyncSendPort) (source : PortSyncSync) (data : PortSyncSend) : PortSyncSend :=
  allstateCondition port { data with rcvdPSSync := true, rcvdPSSyncPtr := source }

private theorem rcvdPSSyncPtr_arrived (port : PortSyncSendPort) (source : PortSyncSync)
    (data : PortSyncSend) : (data.arrived port source).rcvdPSSyncPtr = source := by
  unfold arrived allstateCondition
  split
  · rfl
  · split <;> rfl

theorem arrived_sending {data : PortSyncSend}
    (sending : (data.arrived port source).state = .sendMdSync) :
    port.BEGIN = false ∧ port.instanceEnable = true ∧ port.currentLogSyncInterval ≠ 127 ∧
      data.arrived port source = { data with rcvdPSSync := true, rcvdPSSyncPtr := source } := by
  unfold arrived allstateCondition at sending ⊢
  split at sending
  · cases sending
  · rename_i runs
    split at sending
    · cases sending
    · rename_i allowed
      rw [if_neg runs, if_neg allowed]
      simp only [Bool.or_eq_true, not_or, Bool.not_eq_true, Bool.not_eq_false'] at runs
      exact ⟨runs.1.1, runs.1.2, fun stops => allowed (beq_iff_eq.mpr stops), rfl⟩

private theorem arrived_eq {data : PortSyncSend} (repeats : data.Repeats port cts64)
    (source : PortSyncSync) :
    data.arrived port source = { data with rcvdPSSync := true, rcvdPSSyncPtr := source } := by
  have up : port.toEnabledPort.up = true := (Bool.and_eq_true_iff.mp repeats.sends).1
  have goes : ¬ (port.currentLogSyncInterval == 127) = true :=
    fun stops => repeats.allowed (beq_iff_eq.mp stops)
  unfold arrived allstateCondition
  rw [repeats.running.1, repeats.running.2, up]
  simp [goes]

private theorem stored_schedule (port : PortSyncSendPort) (data : PortSyncSend) :
    (schedule port data).state = data.state ∧ (schedule port data).lastState = data.lastState := by
  unfold schedule
  split
  · split <;> exact ⟨rfl, rfl⟩
  · exact ⟨rfl, rfl⟩

private theorem stored_sendMdSyncProc (port : PortSyncSendPort) (cts64 : UInt64) (data : PortSyncSend) :
    (sendMdSyncProc port cts64 data).1.state = data.state ∧
      (sendMdSyncProc port cts64 data).1.lastState = data.lastState := by
  obtain ⟨state, lastState⟩ := stored_schedule port
    { (if data.rcvdPSSync then data.store port else data) with
      rcvdPSSync := false, lastSyncSentTime := cts64 }
  cases received : data.rcvdPSSync with
  | true =>
    rw [received] at state lastState
    simp only [sendMdSyncProc, received]
    exact ⟨state, lastState⟩
  | false =>
    rw [received] at state lastState
    simp only [sendMdSyncProc, received]
    exact ⟨state, lastState⟩

theorem returned_entering (out : (machine port cts64).switch data = (next, some result)) :
    data.state = .sendMdSync ∧ data.lastState ≠ .sendMdSync ∧ next.state = .sendMdSync ∧
      next.lastState = .sendMdSync := by
  simp only [Machine.switch, machine] at out
  cases state : data.state
  all_goals simp only [arm, state] at out
  case sendMdSync =>
    by_cases same : data.lastState = .sendMdSync
    · simp [same] at out
    · simp only [bne_iff_ne.mpr same, if_true, Prod.mk.injEq] at out
      rw [← out.1]
      exact ⟨rfl, same, stored_sendMdSyncProc port cts64 _⟩
  all_goals cases congrArg Prod.snd out

end PortSyncSend

section Call

open PortSyncSend

variable {port : PortSyncSendPort} {source : PortSyncSync} {cts64 : UInt64}
  {data next : PortSyncSend} {result : MDSyncSend}

theorem send_origin (settled : data.lastState = data.state)
    (finished : portSyncSyncSendSmPortSyncSync port source cts64 data = some (next, some result)) :
    sends port = true ∧
      (source.localPortIndex.toUInt16 ≠ port.thisPort ∨ data.Repeats port cts64) := by
  refine (machine port cts64).run_result
    (fun current => current.rcvdPSSyncPtr = source ∧
      (current.state = .sendMdSync → current.lastState ≠ .sendMdSync → sends port = true ∧
        (source.localPortIndex.toUInt16 ≠ port.thisPort ∨ data.Repeats port cts64)) ∧
      (current.state = .sendMdSync → current.lastState = .sendMdSync →
        current = data.arrived port source)) (fun _ => _) ?_ ?_ ?_ finished
  · rintro current after ⟨pointer, _, first⟩ silent unstable
    rcases switch_moves_on port cts64 current after silent unstable with
      ⟨_, moved⟩ | ⟨_, received, moved⟩ | ⟨_, _, moved⟩ | ⟨sending, stable, again, moved⟩
    · rw [moved]
      exact ⟨pointer, by simp, by simp⟩
    · -- the condition looked at the received structure itself
      simp only [PortSyncSend.received, pointer, Bool.and_eq_true, bne_iff_ne] at received
      rw [moved] at unstable ⊢
      exact ⟨pointer, fun _ _ => ⟨received.2, Or.inl received.1.2⟩,
        fun _ same => absurd same unstable⟩
    · rw [moved]
      exact ⟨pointer, by simp, by simp⟩
    · -- the machine was sending before, and its interval or the received structure is due
      have same := first sending stable
      obtain ⟨started, enabled, allowed, unchanged⟩ := arrived_sending (same ▸ sending)
      simp only [sendsAgain, pointer, Bool.and_eq_true, Bool.or_eq_true, bne_iff_ne,
        Bool.not_eq_true', Bool.and_eq_false_iff, decide_eq_true_eq, decide_eq_false_iff_not]
        at again
      obtain ⟨timely, reason, sendable⟩ := again
      rw [moved]
      refine ⟨pointer, fun _ _ => ⟨sendable, ?_⟩, by simp⟩
      rcases reason with ⟨⟨_, _⟩, other⟩ | ⟨⟨unlocked, due⟩, other⟩
      · exact Or.inl other
      · have fields := same.trans unchanged
        rw [fields] at sending unlocked due other timely
        have early : cts64 < data.syncReceiptTimeoutTime := by
          rcases timely with late | locked
          · exact UInt64.not_le.mp late
          · simp only [Bool.not_eq_eq_eq_not, Bool.not_false] at locked
            cases unlocked.symm.trans locked
        exact Or.inr
          { running := ⟨started, enabled⟩, sends := sendable, allowed := allowed
            state := sending, unlocked := unlocked, early := early, due := due, other := other }
  · rintro current after value ⟨_, entering, _⟩ out
    obtain ⟨sending, entered, _⟩ := returned_entering out
    exact entering sending entered
  · refine ⟨rcvdPSSyncPtr_arrived port source data, ?_, fun _ _ => rfl⟩
    intro sending entered
    obtain ⟨_, _, _, unchanged⟩ := arrived_sending sending
    change (data.arrived port source).state = _ at sending
    change (data.arrived port source).lastState ≠ _ at entered
    rw [unchanged] at sending entered
    exact absurd (settled.trans sending) entered

theorem sends_of_repeats (source : PortSyncSync) (settled : data.lastState = data.state)
    (repeats : data.Repeats port cts64) :
    ∃ next, portSyncSyncSendSmPortSyncSync port source cts64 data =
      some (next, some (sentOn port source)) := by
  have state := repeats.state
  have again : sendMdSyncCondition port cts64
      { data with
        rcvdPSSync := true, rcvdPSSyncPtr := source, state := .sendMdSync
        lastState := .sendMdSync } =
      { data with
        rcvdPSSync := true, rcvdPSSyncPtr := source, lastState := .reaction
        state := .sendMdSync } := by
    have late : decide (data.syncReceiptTimeoutTime ≤ cts64) = false :=
      decide_eq_false (UInt64.not_le.mpr repeats.early)
    have due : decide (data.interval1 ≤ cts64 - data.lastSyncSentTime) = true :=
      decide_eq_true repeats.due
    have other : (data.lastRcvdPortNum != port.thisPort) = true := bne_iff_ne.mpr repeats.other
    unfold sendMdSyncCondition
    simp [late, due, other, repeats.unlocked, repeats.sends]
  have first : (machine port cts64).switch (data.arrived port source) =
      ({ data with
        rcvdPSSync := true, rcvdPSSyncPtr := source, lastState := .reaction
        state := .sendMdSync }, none) := by
    rw [arrived_eq repeats source, Machine.switch]
    simp only [machine, arm, settled, state, bne_self_eq_false, Bool.false_eq_true, if_false, again]
  have second : ∃ next, (machine port cts64).switch
      { data with
        rcvdPSSync := true, rcvdPSSyncPtr := source, lastState := .reaction
        state := .sendMdSync } = (next, some (sentOn port source)) := by
    exact ⟨_, rfl⟩
  obtain ⟨next, returned⟩ := second
  refine ⟨next, ?_⟩
  have unfolded : portSyncSyncSendSmPortSyncSync port source cts64 data =
      (machine port cts64).run 4 (data.arrived port source) := rfl
  rw [unfolded, Machine.run_of_unstable _ first (by rintro ⟨⟩), Machine.run_of_result _ returned]

private theorem settled_call
    (finished : portSyncSyncSendSmPortSyncSync port source cts64 data = some (next, returned)) :
    next.lastState = next.state := by
  refine Exits.invariant (fun _ => True) (fun final _ => final.lastState = final.state)
    (iterate_exits finished) trivial (fun _ _ _ _ => trivial) ?_
  intro current final value _ turn
  obtain ⟨out, stable⟩ := (machine port cts64).turn_leave turn
  cases value with
  | none => exact stable rfl
  | some value =>
    obtain ⟨_, _, sending, entered⟩ := returned_entering out
    exact entered.trans sending.symm

end Call

structure RelayedSend where
  port : PortSyncSendPort
  source : PortSyncSync
  mdSyncSend : MDSyncSend

namespace RelayedSend

def FromOther (emission : RelayedSend) : Prop :=
  emission.mdSyncSend = sentOn emission.port emission.source ∧
    emission.source.localPortIndex.toUInt16 ≠ emission.port.thisPort

def OnMaster (emission : RelayedSend) : Prop :=
  emission.port.selectedState = .masterPort ∧ emission.port.portOper = true ∧
    emission.port.ptpPortEnabled = true ∧ emission.port.asCapable = true

end RelayedSend

structure SendRun where
  port : PortSyncSendPort
  data : PortSyncSend
  emitted : List RelayedSend

/-- The machine runs only when a structure arrives; links, selections, timeouts, ticks and
settings change what it reads of its port. -/
inductive SendEvent where
  | change (port : PortSyncSendPort)
  | portSyncSync (source : PortSyncSync) (cts64 : UInt64)

def SendRun.emit (run : SendRun) (source : PortSyncSync) (next : PortSyncSend) :
    Option MDSyncSend → SendRun
  | none => { run with data := next }
  | some result => { run with
      data := next
      emitted := run.emitted ++ [{ port := run.port, source := source, mdSyncSend := result }] }

/-- A port with a machine that has not run yet. The number of the port and the test
configuration are set once. -/
def sendSystem (port : PortSyncSendPort) (data : PortSyncSend) : System SendRun SendEvent where
  start := { port := port, data := data, emitted := [] }
  step run
    | .change after =>
      if after.thisPort = run.port.thisPort ∧
          after.testSyncSendPort = run.port.testSyncSendPort then
        some { run with port := after }
      else none
    | .portSyncSync source cts64 =>
      (portSyncSyncSendSmPortSyncSync run.port source cts64 run.data).map fun out =>
        run.emit source out.1 out.2

def SendRun.Permitted (run : SendRun) : SendEvent → Prop
  | .change _ => True
  | .portSyncSync source cts64 => run.data.Repeats run.port cts64 →
      source.localPortIndex.toUInt16 ≠ run.port.thisPort

section Runs

variable {port : PortSyncSendPort} {data : PortSyncSend} {run next : SendRun}

theorem SendRun.emit_cases (run : SendRun) (source : PortSyncSync) (after : PortSyncSend)
    (returned : Option MDSyncSend) : (run.emit source after returned).port = run.port ∧
      (run.emit source after returned).data = after ∧
      ∀ emission ∈ (run.emit source after returned).emitted, emission ∈ run.emitted ∨
        returned = some emission.mdSyncSend ∧ emission.port = run.port ∧
          emission.source = source := by
  cases returned with
  | none => exact ⟨rfl, rfl, fun _ member => Or.inl member⟩
  | some result =>
    refine ⟨rfl, rfl, fun emission member => ?_⟩
    rcases List.mem_append.mp member with before | added
    · exact Or.inl before
    · cases List.mem_singleton.mp added
      exact Or.inr ⟨rfl, rfl, rfl⟩

structure SendRun.Ready (run : SendRun) : Prop where
  settled : run.data.lastState = run.data.state
  untested : run.port.testSyncSendPort = false

private theorem ready_step (ready : run.Ready) (taken : (sendSystem port data).step run event = some next) :
    next.Ready := by
  cases event with
  | change after =>
    simp only [sendSystem] at taken
    split at taken
    · rename_i same
      cases taken
      exact ⟨ready.settled, same.2.trans ready.untested⟩
    · cases taken
  | portSyncSync source cts64 =>
    obtain ⟨⟨after, returned⟩, finished, rfl⟩ := Option.map_eq_some_iff.mp taken
    obtain ⟨samePort, sameData, _⟩ := run.emit_cases source after returned
    refine ⟨?_, ?_⟩
    · rw [sameData]
      exact settled_call finished
    · rw [samePort]
      exact ready.untested

theorem emitted_step (ready : run.Ready)
    (taken : (sendSystem port data).step run event = some next) :
    ∀ emission ∈ next.emitted, emission ∈ run.emitted ∨
      emission.OnMaster ∧ (run.Permitted event → emission.FromOther) := by
  cases event with
  | change after =>
    simp only [sendSystem] at taken
    split at taken
    · cases taken
      exact fun emission member => Or.inl member
    · cases taken
  | portSyncSync source cts64 =>
    obtain ⟨⟨after, returned⟩, finished, rfl⟩ := Option.map_eq_some_iff.mp taken
    intro emission member
    rcases (run.emit_cases source after returned).2.2 emission member with
      before | ⟨rfl, samePort, sameSource⟩
    · exact Or.inl before
    · refine Or.inr ⟨?_, fun permitted => ?_⟩
      · obtain ⟨sendable, _⟩ := send_origin ready.settled finished
        simp only [PortSyncSend.sends, EnabledPort.up, ready.untested, Bool.or_false,
          Bool.and_eq_true, beq_iff_eq] at sendable
        rw [RelayedSend.OnMaster, samePort]
        exact ⟨sendable.2, sendable.1.1.1, sendable.1.1.2, sendable.1.2⟩
      · rw [RelayedSend.FromOther, samePort, sameSource]
        refine ⟨portSyncSyncSendSmPortSyncSync_result finished, ?_⟩
        rcases (send_origin ready.settled finished).2 with other | repeats
        · exact other
        · exact permitted repeats

theorem ready_of_reachable (fresh : data.lastState = data.state)
    (untested : port.testSyncSendPort = false)
    (reachable : (sendSystem port data).Reachable allowed run) : run.Ready :=
  reachable.invariant SendRun.Ready ⟨fresh, untested⟩
    fun _ _ _ ready _ taken => ready_step ready taken

end Runs

/-- Whatever happens to a port without a test configuration, it sends on only as an
operational, enabled and capable master; and what it sends on comes from another port in
every run in which nothing of its own arrives while the machine repeats. What does arrive
then goes out. -/
theorem emissions_relayed (port : PortSyncSendPort) (data : PortSyncSend)
    (fresh : data.lastState = data.state) (untested : port.testSyncSendPort = false) :
    (∀ run, (sendSystem port data).Reachable System.anyStep run →
      ∀ emission ∈ run.emitted, emission.OnMaster) ∧
    (∀ run, (sendSystem port data).Reachable SendRun.Permitted run →
      ∀ emission ∈ run.emitted, emission.FromOther) ∧
    ∀ run source cts64, (sendSystem port data).Reachable System.anyStep run →
      ¬ run.Permitted (.portSyncSync source cts64) →
      ∃ next, (sendSystem port data).step run (.portSyncSync source cts64) = some next ∧
        ∃ emission ∈ next.emitted, ¬ emission.FromOther := by
  refine ⟨?_, ?_, ?_⟩
  · intro run reachable
    induction reachable with
    | start => exact fun _ impossible => absurd impossible List.not_mem_nil
    | step before _ taken ih =>
      intro emission member
      rcases emitted_step (ready_of_reachable fresh untested before) taken emission member with
        earlier | ⟨master, _⟩
      · exact ih emission earlier
      · exact master
  · intro run reachable
    induction reachable with
    | start => exact fun _ impossible => absurd impossible List.not_mem_nil
    | step before permitted taken ih =>
      intro emission member
      rcases emitted_step (ready_of_reachable fresh untested before) taken emission member with
        earlier | ⟨_, relayed⟩
      · exact ih emission earlier
      · exact relayed permitted
  · intro run source cts64 reachable denied
    simp only [SendRun.Permitted, Classical.not_imp, not_not] at denied
    obtain ⟨repeats, own⟩ := denied
    have settled := (ready_of_reachable fresh untested reachable).settled
    obtain ⟨after, finished⟩ := sends_of_repeats source settled repeats
    refine ⟨run.emit source after (some (sentOn run.port source)), ?_, ?_⟩
    · simp only [sendSystem, finished, Option.map_some]
    · exact ⟨_, List.mem_append_right _ (List.mem_singleton_self _), fun other => other.2 own⟩

namespace Relay

def masterPort : PortSyncSendPort :=
  { (undelayed 0).portSendPort with parentLogSyncInterval := 1, syncInterval := 1000000000 }

def receivedBy (localPortIndex : Int16) : PortSyncSync :=
  { plainSend with
    localPortIndex := localPortIndex, syncReceiptTimeoutTime := 6000000000
    syncNextSendTimeoutTime := 3000000000, lastSyncSeqID := 7 }

/-- The structure of another port arrives, then the port becomes passive and a master again. -/
def relayed : List SendEvent :=
  [.portSyncSync (receivedBy 1) 0, .change { masterPort with selectedState := .passivePort },
    .change masterPort]

def reflected : List SendEvent := relayed ++ [.portSyncSync (receivedBy 2) 1000000000]

def fromOthers (run : SendRun) : SendEvent → Bool
  | .change _ => true
  | .portSyncSync source _ => source.localPortIndex.toUInt16 != run.port.thisPort

private theorem fromOthers_permitted (run : SendRun) (event : SendEvent)
    (passed : fromOthers run event = true) : run.Permitted event := by
  cases event with
  | change after => trivial
  | portSyncSync source cts64 => exact fun _ => bne_iff_ne.mp passed

end Relay

open Relay in
theorem emissions_relayed_master :
    ∃ run, (sendSystem masterPort (undelayed 0).portSend).Reachable SendRun.Permitted run ∧
      run.emitted.length = 1 ∧ ∀ emission ∈ run.emitted, emission.OnMaster ∧ emission.FromOther := by
  have law := emissions_relayed masterPort (undelayed 0).portSend rfl rfl
  have ran : (((sendSystem masterPort (undelayed 0).portSend).restrict fromOthers).run
      (sendSystem masterPort (undelayed 0).portSend).start relayed).map
      (fun run => run.emitted.length) = some 1 := by decide +kernel
  obtain ⟨run, finished, length⟩ := Option.map_eq_some_iff.mp ran
  have reachable : (sendSystem masterPort (undelayed 0).portSend).Reachable SendRun.Permitted run :=
    (System.reachable_of_run finished).of_restrict fromOthers_permitted
  exact ⟨run, reachable, length, fun emission member =>
    ⟨law.1 run (reachable.mono fun _ _ _ => trivial) emission member,
      law.2.1 run reachable emission member⟩⟩

open Relay in
/-- A port that sends at its own interval sends what it received itself: the machine looks at
the port that the last structure came from. -/
theorem own_structure_emitted :
    ¬ ∀ (port : PortSyncSendPort) (data : PortSyncSend), data.lastState = data.state →
      port.testSyncSendPort = false → ∀ run, (sendSystem port data).Reachable System.anyStep run →
        ∀ emission ∈ run.emitted, emission.OnMaster ∧ emission.FromOther := by
  intro all
  have ran : ((sendSystem masterPort (undelayed 0).portSend).run
      (sendSystem masterPort (undelayed 0).portSend).start reflected).map
      (fun run => run.emitted.map fun emission =>
        (emission.source.localPortIndex.toUInt16, emission.port.thisPort)) =
      some [(1, 2), (2, 2)] := by decide +kernel
  obtain ⟨run, finished, emitted⟩ := Option.map_eq_some_iff.mp ran
  have own : ((2 : UInt16), (2 : UInt16)) ∈ run.emitted.map fun emission =>
      (emission.source.localPortIndex.toUInt16, emission.port.thisPort) := by
    rw [emitted]
    exact List.mem_cons_of_mem _ (List.mem_singleton_self _)
  obtain ⟨emission, member, ports⟩ := List.mem_map.mp own
  obtain ⟨_, _, other⟩ := all _ _ rfl rfl run (System.reachable_of_run finished) emission member
  exact other ((congrArg Prod.fst ports).trans (congrArg Prod.snd ports).symm)

end EnetTsn.Sync
