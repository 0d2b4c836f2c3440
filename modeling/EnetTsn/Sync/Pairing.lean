import EnetTsn.Library.Run
import EnetTsn.Sync.SyncReceive

/-!
Which messages an `MDSyncReceive` is built from, over every interleaving of received
messages, ticks and port changes without one-step reception.
-/

namespace EnetTsn.Sync

open EnetTsn.Gptp EnetTsn.Library EnetTsn.Md

structure TwoStepPort extends SyncPort where
  twoStep : oneStepReceive = false

structure Reception where
  message : Memory
  ingress : UInt64

/-- An `MDSyncReceive` with what the machine read of its port, and which of the received
Syncs was in the buffer. -/
structure Emission where
  port : SyncPort
  value : MDSyncReceive
  sync : Nat

/-- The Syncs that were copied into the buffer and the Follow_Ups received so far, in the order of
their arrival, and the structures emitted. -/
structure PairingLog where
  syncs : List Reception
  followUps : List Memory
  emissions : List Emission

namespace SyncReceive

structure Buffers (before after : SyncReceive) : Prop where
  recSync : after.recSync = before.recSync
  recFollowUp : after.recFollowUp = before.recFollowUp
  ingress : after.syncEventIngressTimestamp = before.syncEventIngressTimestamp
  followUp : after.rcvdFollowUp = true → before.rcvdFollowUp = true

theorem Buffers.trans (first : Buffers before middle) (second : Buffers middle after) :
    Buffers before after :=
  ⟨second.recSync.trans first.recSync, second.recFollowUp.trans first.recFollowUp,
    second.ingress.trans first.ingress, fun flag => first.followUp (second.followUp flag)⟩

/-- What holds in every pass of a call, where `unused` says that no structure has been
built from the Sync in the buffer. -/
structure Passing (unused : Prop) (data : SyncReceive) : Prop where
  received : data.rcvdSync = true → unused
  waiting : data.state = .waitingForFollowUp → unused
  matched : data.state = .waitingForSync → data.lastState ≠ .waitingForSync →
    unused ∧ data.rcvdFollowUp = true ∧ sequenceId data.recFollowUp = sequenceId data.recSync

structure Resting (unused : Prop) (data : SyncReceive) : Prop where
  stable : data.lastState = data.state
  received : data.rcvdSync = true → unused
  waiting : data.state = .waitingForFollowUp → unused

/-- An emitted structure is built from the buffers, which hold a Sync that is still
unused and a Follow_Up with its sequenceId. -/
structure Built (unused : Prop) (port : SyncPort) (data : SyncReceive) (value : MDSyncReceive) :
    Prop where
  unused : unused
  followUp : data.rcvdFollowUp = true
  sequenceId : sequenceId data.recFollowUp = sequenceId data.recSync
  value : value = setMDSyncReceive port data.recSync data.recFollowUp data.syncEventIngressTimestamp

/-- What one pass does: with a structure it leaves the machine waiting for the next Sync. -/
structure Passed (unused : Prop) (port : SyncPort) (before after : SyncReceive)
    (result : Option MDSyncReceive) : Prop where
  buffers : Buffers before after
  passing : result = none → Passing unused after
  consumed : result ≠ none → after.state = .waitingForSync ∧
    after.lastState = .waitingForSync ∧ after.rcvdSync = false
  built : ∀ value, result = some value → Built unused port before value

section Passes

variable {unused : Prop} {port : TwoStepPort} {data : SyncReceive}

private theorem passing_discardCondition (received : data.rcvdSync = true → unused) :
    Passing unused (discardCondition port.toSyncPort data) := by
  rcases discardCondition_cases port.toSyncPort data with
    ⟨chosen, _⟩ | ⟨chosen, arrived⟩ | ⟨_, oneStep, _⟩ | ⟨chosen, _⟩
  · rw [chosen]
    exact ⟨received, nofun, nofun⟩
  · rw [chosen]
    exact ⟨received, fun _ => received (received_of_arrived arrived).1, nofun⟩
  · rw [port.twoStep] at oneStep
    cases oneStep
  · rw [chosen]
    exact ⟨received, nofun, nofun⟩

private theorem passing_followUpMissing (cts64 : UInt64) (unusedSync : unused) :
    Passing unused (followUpMissing port.toSyncPort cts64 data) := by
  rcases followUpMissing_cases port.toSyncPort cts64 data with
    ⟨_, oneStep⟩ | chosen | ⟨chosen, _⟩
  · rw [port.twoStep] at oneStep
    cases oneStep
  · rw [chosen]
    exact ⟨fun _ => unusedSync, nofun, nofun⟩
  · rw [chosen]
    exact ⟨fun _ => unusedSync, fun _ => unusedSync, nofun⟩

private theorem passing_waitingForFollowUpCondition (cts64 : UInt64) (data : SyncReceive)
    (unusedSync : unused) :
    Passing unused (waitingForFollowUpCondition port.toSyncPort cts64 data) := by
  rcases waitingForFollowUpCondition_cases port.toSyncPort cts64 data with
    ⟨chosen, _⟩ | ⟨chosen, _, followUp, same⟩ | ⟨chosen, _⟩
  · rw [chosen]
    exact ⟨fun _ => unusedSync, fun _ => unusedSync, nofun⟩
  · rw [chosen]
    exact ⟨fun _ => unusedSync, nofun, fun _ _ => ⟨unusedSync, followUp, same⟩⟩
  · rw [chosen]
    exact passing_followUpMissing cts64 unusedSync

private theorem passing_waitingForSyncCondition (last : data.lastState = .waitingForSync)
    (received : data.rcvdSync = true → unused) :
    Passing unused (waitingForSyncCondition port.toSyncPort data) := by
  rcases waitingForSyncCondition_cases port.toSyncPort data with
    ⟨_, oneStep⟩ | ⟨chosen, arrived⟩ | ⟨chosen, _⟩ | ⟨chosen, _⟩
  · rw [port.twoStep] at oneStep
    cases oneStep
  · rw [chosen]
    exact ⟨received, fun _ => received (received_of_arrived arrived).1, nofun⟩
  · rw [chosen]
    exact ⟨received, nofun, nofun⟩
  · rw [chosen]
    exact ⟨received, nofun, fun _ entered => absurd last entered⟩

theorem waitingForSyncCondition_consumed (consumed : data.rcvdSync = false) :
    waitingForSyncCondition port.toSyncPort data = moveTo .waitingForSync data := by
  rcases waitingForSyncCondition_cases port.toSyncPort data with
    ⟨_, oneStep⟩ | ⟨_, arrived⟩ | ⟨_, flag⟩ | ⟨chosen, _⟩
  · rw [port.twoStep] at oneStep
    cases oneStep
  · exact nomatch consumed.symm.trans (received_of_arrived arrived).1
  · exact nomatch consumed.symm.trans flag
  · exact chosen

theorem buffers_discardCondition (port : SyncPort) (data : SyncReceive) :
    Buffers data (discardCondition port data) := by
  rcases discardCondition_cases port data with
    ⟨chosen, _⟩ | ⟨chosen, _⟩ | ⟨chosen, _⟩ | ⟨chosen, _⟩
  all_goals
    rw [chosen]
    exact ⟨rfl, rfl, rfl, id⟩

theorem buffers_waitingForFollowUpCondition (port : SyncPort) (cts64 : UInt64)
    (data : SyncReceive) : Buffers data (waitingForFollowUpCondition port cts64 data) := by
  rcases waitingForFollowUpCondition_cases port cts64 data with
    ⟨chosen, _⟩ | ⟨chosen, _⟩ | ⟨chosen, _⟩
  · rw [chosen]
    exact ⟨rfl, rfl, rfl, id⟩
  · rw [chosen]
    exact ⟨rfl, rfl, rfl, id⟩
  · rw [chosen]
    rcases followUpMissing_cases port cts64 { data with rcvdFollowUp := false } with
      ⟨chosen, _⟩ | chosen | ⟨chosen, _⟩
    all_goals
      rw [chosen]
      exact ⟨rfl, rfl, rfl, nofun⟩

theorem buffers_waitingForSyncCondition (port : SyncPort) (data : SyncReceive) :
    Buffers data (waitingForSyncCondition port data) := by
  rcases waitingForSyncCondition_cases port data with
    ⟨chosen, _⟩ | ⟨chosen, _⟩ | ⟨chosen, _⟩ | ⟨chosen, _⟩
  all_goals
    rw [chosen]
    exact ⟨rfl, rfl, rfl, id⟩

theorem Passed.silent (buffers : Buffers data after) (passing : Passing unused after) :
    Passed unused port.toSyncPort data after none :=
  ⟨buffers, fun _ => passing, fun impossible => absurd rfl impossible, nofun⟩

theorem passed_switch (port : TwoStepPort) (cts64 : UInt64) (passing : Passing unused data) :
    Passed unused port.toSyncPort data ((machine port.toSyncPort cts64).switch data).1
      ((machine port.toSyncPort cts64).switch data).2 := by
  simp only [Machine.switch, machine]
  cases state : data.state
  all_goals simp only [arm]
  case init =>
    exact .silent ⟨rfl, rfl, rfl, id⟩ ⟨passing.received, by rintro ⟨⟩, by rintro ⟨⟩⟩
  case reaction =>
    exact .silent ⟨rfl, rfl, rfl, id⟩ ⟨passing.received, by simp, by simp⟩
  case discard =>
    refine .silent (Buffers.trans ?_ (buffers_discardCondition _ _)) (passing_discardCondition ?_)
    · split
      · exact ⟨rfl, rfl, rfl, by rintro ⟨⟩⟩
      · exact ⟨rfl, rfl, rfl, id⟩
    · split
      · rintro ⟨⟩
      · exact passing.received
  case waitingForFollowUp =>
    refine .silent (Buffers.trans ?_ (buffers_waitingForFollowUpCondition _ _ _))
      (passing_waitingForFollowUpCondition cts64 _ (passing.waiting state))
    split <;> exact ⟨rfl, rfl, rfl, id⟩
  case waitingForSync =>
    by_cases same : data.lastState = .waitingForSync
    · simp only [same, bne_self_eq_false, Bool.false_eq_true, if_false]
      refine .silent (Buffers.trans ?_ (buffers_waitingForSyncCondition _ _))
        (passing_waitingForSyncCondition rfl passing.received)
      exact ⟨rfl, rfl, rfl, id⟩
    · simp only [bne_iff_ne.mpr same, if_true]
      obtain ⟨unusedSync, followUp, ids⟩ := passing.matched state same
      refine ⟨⟨rfl, rfl, rfl, by rintro ⟨⟩⟩, by rintro ⟨⟩, fun _ => ⟨rfl, rfl, rfl⟩, ?_⟩
      rintro _ ⟨⟩
      exact ⟨unusedSync, followUp, ids, rfl⟩

end Passes

/-- What a call does: it ends at rest, and what it emits is built from the buffers. -/
structure Called (unused : Prop) (port : SyncPort) (before after : SyncReceive)
    (result : Option MDSyncReceive) : Prop where
  buffers : Buffers before after
  rest : Resting (unused ∧ result = none) after
  built : ∀ value, result = some value →
    ∃ data, Buffers before data ∧ Built unused port data value

theorem called_run {unused : Prop} {port : TwoStepPort} (start : Passing unused data)
    (finished : (machine port.toSyncPort cts64).run fuel data = some (next, result)) :
    Called unused port.toSyncPort data next result := by
  refine Exits.invariant (fun current => Buffers data current ∧ Passing unused current)
    (Called unused port.toSyncPort data) (iterate_exits finished) ⟨⟨rfl, rfl, rfl, id⟩, start⟩ ?_ ?_
  · rintro current after ⟨buffers, passing⟩ turn
    obtain ⟨out, _⟩ := (machine port.toSyncPort cts64).turn_again turn
    have passed := passed_switch port cts64 passing
    rw [out] at passed
    exact ⟨(buffers.trans passed.buffers), passed.passing rfl⟩
  · rintro current after result ⟨buffers, passing⟩ turn
    obtain ⟨out, stable⟩ := (machine port.toSyncPort cts64).turn_leave turn
    have passed := passed_switch port cts64 passing
    rw [out] at passed
    refine ⟨buffers.trans passed.buffers, ?_,
      fun value emitted => ⟨current, buffers, passed.built value emitted⟩⟩
    cases result with
    | none =>
      have resting := passed.passing rfl
      exact ⟨stable rfl, fun flag => ⟨resting.received flag, rfl⟩,
        fun state => ⟨resting.waiting state, rfl⟩⟩
    | some _ =>
      obtain ⟨state, last, consumed⟩ := passed.consumed nofun
      refine ⟨last.trans state.symm, fun impossible => ?_, fun impossible => ?_⟩
      · exact nomatch consumed.symm.trans impossible
      · exact nomatch state.symm.trans impossible

private theorem passing_allstateCondition {unused : Prop} (port : SyncPort)
    (resting : Resting unused data) : Passing unused (allstateCondition port data) := by
  unfold allstateCondition
  split
  · exact ⟨resting.received, nofun, nofun⟩
  · exact ⟨resting.received, resting.waiting,
      fun state entered => absurd (resting.stable.trans state) entered⟩

theorem buffers_allstateCondition (port : SyncPort) (data : SyncReceive) :
    Buffers data (allstateCondition port data) := by
  unfold allstateCondition
  split <;> exact ⟨rfl, rfl, rfl, id⟩

private theorem called_mdSyncReceiveSm {unused : Prop} {port : TwoStepPort} (resting : Resting unused data)
    (finished : mdSyncReceiveSm port.toSyncPort cts64 data = some (next, result)) :
    Called unused port.toSyncPort data next result := by
  have kept := buffers_allstateCondition port.toSyncPort data
  have called := called_run (passing_allstateCondition port.toSyncPort resting) finished
  refine ⟨kept.trans called.buffers, called.rest, fun value emitted => ?_⟩
  obtain ⟨current, buffers, built⟩ := called.built value emitted
  exact ⟨current, kept.trans buffers, built⟩

end SyncReceive

namespace SyncReceive

theorem buffers_switch (port : SyncPort) (cts64 : UInt64) (data : SyncReceive) :
    Buffers data ((machine port cts64).switch data).1 := by
  simp only [Machine.switch, machine, arm]
  split
  · exact ⟨rfl, rfl, rfl, id⟩
  · refine Buffers.trans ?_ (buffers_discardCondition port _)
    split
    · exact ⟨rfl, rfl, rfl, by rintro ⟨⟩⟩
    · exact ⟨rfl, rfl, rfl, id⟩
  · refine Buffers.trans ?_ (buffers_waitingForFollowUpCondition port cts64 _)
    split <;> exact ⟨rfl, rfl, rfl, id⟩
  · refine Buffers.trans ?_ (buffers_waitingForSyncCondition port _)
    split
    · exact ⟨rfl, rfl, rfl, by rintro ⟨⟩⟩
    · exact ⟨rfl, rfl, rfl, id⟩
  · exact ⟨rfl, rfl, rfl, id⟩

theorem switch_result (port : SyncPort) (cts64 : UInt64) (data : SyncReceive)
    (returned : ((machine port cts64).switch data).2 = some value) :
    value = setMDSyncReceive port data.recSync data.recFollowUp data.syncEventIngressTimestamp := by
  simp only [Machine.switch, machine, arm] at returned
  split at returned
  · cases returned
  · cases returned
  · cases returned
  · split at returned <;> cases returned
    rfl
  · cases returned

end SyncReceive

open SyncReceive in
theorem mdSyncReceiveSm_result (finished : mdSyncReceiveSm port cts64 data = some (next, some value)) :
    value = setMDSyncReceive port data.recSync data.recFollowUp data.syncEventIngressTimestamp := by
  refine (machine port cts64).run_result (Buffers data) (fun value => value =
    setMDSyncReceive port data.recSync data.recFollowUp data.syncEventIngressTimestamp) ?_ ?_ ?_
    finished
  · intro current after buffers silent _
    have passed := buffers_switch port cts64 current
    rw [silent] at passed
    exact buffers.trans passed
  · intro current after value buffers out
    rw [switch_result port cts64 current (congrArg Prod.snd out), buffers.recSync,
      buffers.recFollowUp, buffers.ingress]
  · exact buffers_allstateCondition port data

section Octets

variable {sync sync' followUp followUp' : Memory}

private theorem twoStepFlag_congr (same : ∀ index < syncSize, sync index = sync' index) :
    twoStepFlag sync = twoStepFlag sync' := by
  rw [twoStepFlag, twoStepFlag, same 6 (by decide)]

theorem load_of_same (same : ∀ index < size, sync index = sync' index)
    (inside : offset + count ≤ size) : sync.load offset count = sync'.load offset count := by
  apply Memory.load_congr
  intro index small
  exact same _ (by omega)

theorem sequenceId_congr (same : ∀ index < syncSize, sync index = sync' index) :
    sequenceId sync = sequenceId sync' := by
  rw [sequenceId, sequenceId, load_of_same same (by decide)]

theorem correctionField_congr (same : ∀ index < syncSize, sync index = sync' index) :
    correctionField sync = correctionField sync' := by
  rw [correctionField, correctionField, load_of_same same (by decide)]

theorem followUpInformation_congr
    (same : ∀ index < followUpSize, followUp index = followUp' index) :
    followUpInformation 44 followUp = followUpInformation 44 followUp' := by
  simp only [followUpInformation, loadScaledOffset]
  rw [load_of_same same (by decide), load_of_same same (by decide),
    load_of_same same (by decide), load_of_same same (by decide),
    load_of_same same (by decide), load_of_same same (by decide)]

theorem preciseOriginTimestamp_congr
    (same : ∀ index < followUpSize, followUp index = followUp' index) :
    preciseOriginTimestamp followUp = preciseOriginTimestamp followUp' := by
  simp only [preciseOriginTimestamp]
  rw [load_of_same same (by decide), load_of_same same (by decide), load_of_same same (by decide)]

theorem setMDSyncReceive_congr (port : SyncPort) (ingress : UInt64)
    (sameSync : ∀ index < if twoStepFlag sync' then syncSize else followUpSize,
      sync index = sync' index)
    (sameFollowUp : ∀ index < followUpSize, followUp index = followUp' index) :
    setMDSyncReceive port sync followUp ingress = setMDSyncReceive port sync' followUp' ingress := by
  have short : ∀ index < syncSize, sync index = sync' index := by
    intro index inside
    apply sameSync
    split
    · exact inside
    · exact Nat.lt_of_lt_of_le inside (by decide)
  have shortFollowUp : ∀ index < syncSize, followUp index = followUp' index := fun index inside =>
    sameFollowUp index (Nat.lt_of_lt_of_le inside (by decide))
  have header : mdDecomposeHead sync = mdDecomposeHead sync' :=
    mdDecomposeHead_congr fun index inside => short index (Nat.lt_of_lt_of_le inside (by decide))
  unfold setMDSyncReceive
  rw [twoStepFlag_congr short, header, correctionField_congr short,
    correctionField_congr shortFollowUp, followUpInformation_congr sameFollowUp]
  by_cases twoStep : twoStepFlag sync' = true
  · simp only [twoStep, if_true, followUpInformation_congr sameFollowUp,
      preciseOriginTimestamp_congr sameFollowUp]
  · have oneStep : ∀ index < followUpSize, sync index = sync' index := by
      simpa only [twoStep, Bool.false_eq_true, if_false] using sameSync
    simp only [twoStep, Bool.false_eq_true, if_false, followUpInformation_congr oneStep,
      preciseOriginTimestamp_congr oneStep]

end Octets

inductive SyncStep where
  /-- `md_sync_receive_sm_recv_sync`. -/
  | recvSync (message : Memory) (ts64 : UInt64)
  /-- `md_sync_receive_sm_recv_fup`. -/
  | recvFollowUp (message : Memory)
  | tick

/-- A Sync that is received has the two-step flag. -/
def SyncStep.TwoStep : SyncStep → Prop
  | .recvSync message _ => twoStepFlag message = true
  | .recvFollowUp _ | .tick => True

instance : DecidablePred SyncStep.TwoStep
  | .recvSync _ _ => inferInstanceAs (Decidable (_ = _))
  | .recvFollowUp _ | .tick => .isTrue trivial

structure Paired where
  data : SyncReceive
  log : PairingLog

namespace Paired

/-- The buffers before the machine runs, and whether it runs. -/
def store (port : SyncPort) (paired : Paired) : SyncStep → Paired × Bool
  | .recvSync message ts64 =>
    let (data, runs) := paired.data.storeSync port message ts64
    let reception := { message := message, ingress := ts64 - port.ingressLatency.toUInt64 }
    (⟨data, if runs then { paired.log with syncs := paired.log.syncs ++ [reception] }
      else paired.log⟩, runs)
  | .recvFollowUp message =>
    (⟨paired.data.storeFollowUp message,
      { paired.log with followUps := paired.log.followUps ++ [message] }⟩, true)
  | .tick => (paired, true)

def emit (port : SyncPort) (log : PairingLog) : Option MDSyncReceive → PairingLog
  | none => log
  | some value => { log with emissions := log.emissions ++
      [{ port := port, value := value, sync := log.syncs.length - 1 }] }

def perform (paired : Paired) (port : TwoStepPort) (cts64 : UInt64) (step : SyncStep) :
    Option Paired :=
  let (stored, runs) := paired.store port.toSyncPort step
  if runs then
    (mdSyncReceiveSm port.toSyncPort cts64 stored.data).map fun called =>
      { data := called.1, log := emit port.toSyncPort stored.log called.2 }
  else some stored

end Paired

def pairingSystem : System Paired (TwoStepPort × UInt64 × SyncStep) where
  start := { data := SyncReceive.init, log := { syncs := [], followUps := [], emissions := [] } }
  step paired event := paired.perform event.1 event.2.1 event.2.2

/-- The structure is built from the Sync it is logged with, its ingress timestamp, and
a received Follow_Up with the same sequenceId. -/
def Emission.FromPair (log : PairingLog) (emission : Emission) : Prop :=
  ∃ reception followUp, log.syncs[emission.sync]? = some reception ∧ followUp ∈ log.followUps ∧
    sequenceId followUp = sequenceId reception.message ∧
    emission.value =
      setMDSyncReceive emission.port reception.message followUp reception.ingress

structure PairingLog.Sound (log : PairingLog) : Prop where
  fromPair : ∀ emission ∈ log.emissions, emission.FromPair log
  once : (log.emissions.map Emission.sync).Nodup

def PairingLog.Unused (log : PairingLog) : Prop :=
  log.syncs ≠ [] ∧ ∀ emission ∈ log.emissions, emission.sync + 1 < log.syncs.length

structure Holds (data : SyncReceive) (log : PairingLog) : Prop where
  sync : ∀ reception, log.syncs.getLast? = some reception →
    (∀ index < if twoStepFlag reception.message then syncSize else followUpSize,
      data.recSync index = reception.message index) ∧
      data.syncEventIngressTimestamp = reception.ingress
  followUp : ∀ message, log.followUps.getLast? = some message →
    ∀ index < followUpSize, data.recFollowUp index = message index
  present : data.rcvdFollowUp = true → log.followUps ≠ []

structure Paired.Valid (paired : Paired) : Prop where
  resting : paired.data.Resting paired.log.Unused
  holds : Holds paired.data paired.log
  used : ∀ emission ∈ paired.log.emissions, emission.sync < paired.log.syncs.length
  sound : paired.log.Sound

section Steps

open SyncReceive

theorem Holds.of_buffers (holds : Holds data log) (buffers : Buffers data next) :
    Holds next log where
  sync := by
    rw [buffers.recSync, buffers.ingress]
    exact holds.sync
  followUp := by
    rw [buffers.recFollowUp]
    exact holds.followUp
  present flag := holds.present (buffers.followUp flag)

theorem Emission.FromPair.append (fromPair : FromPair log emission)
    (syncs : List Reception) (followUps : List Memory) (emissions : List Emission) :
    FromPair (.mk (log.syncs ++ syncs) (log.followUps ++ followUps) emissions) emission := by
  obtain ⟨reception, followUp, place, member, rest⟩ := fromPair
  refine ⟨reception, followUp, ?_, List.mem_append_left _ member, rest⟩
  obtain ⟨inside, _⟩ := List.getElem?_eq_some_iff.mp place
  rw [List.getElem?_append_left inside]
  exact place

theorem fromPair_of_built {unused : Prop} (holds : Holds data log) (built : Built unused port data value)
    (present : log.syncs ≠ []) :
    Emission.FromPair log { port := port, value := value, sync := log.syncs.length - 1 } := by
  obtain ⟨reception, latest⟩ := Option.ne_none_iff_exists'.mp
    (mt List.getLast?_eq_none_iff.mp present)
  obtain ⟨followUp, newest⟩ := Option.ne_none_iff_exists'.mp
    (mt List.getLast?_eq_none_iff.mp (holds.present built.followUp))
  obtain ⟨octets, ingress⟩ := holds.sync reception latest
  have octets' := holds.followUp followUp newest
  refine ⟨reception, followUp, ?_, List.mem_of_getLast? newest, ?_, ?_⟩
  · rw [← List.getLast?_eq_getElem?]
    exact latest
  · have short : ∀ index < syncSize, data.recSync index = reception.message index := by
      intro index inside
      apply octets
      split
      · exact inside
      · exact Nat.lt_of_lt_of_le inside (by decide)
    rw [← sequenceId_congr short, ← built.sequenceId]
    exact (sequenceId_congr fun index inside =>
      octets' index (Nat.lt_of_lt_of_le inside (by decide))).symm
  · rw [built.value, ingress]
    exact setMDSyncReceive_congr port reception.ingress octets octets'

theorem PairingLog.Sound.append (sound : PairingLog.Sound log) (syncs : List Reception)
    (followUps : List Memory) :
    PairingLog.Sound (.mk (log.syncs ++ syncs) (log.followUps ++ followUps) log.emissions) where
  fromPair emission member := (sound.fromPair emission member).append syncs followUps _
  once := sound.once

theorem Holds.storeSync (holds : Holds data log) (port : SyncPort) (ts64 : UInt64)
    (twoStep : twoStepFlag message = true) : Holds (data.storeSync port message ts64).1
      { log with syncs := log.syncs ++
        [{ message := message, ingress := ts64 - port.ingressLatency.toUInt64 }] } where
  sync reception latest := by
    rw [List.getLast?_append, List.getLast?_singleton, Option.some_or] at latest
    cases latest
    rw [storeSync_twoStep port ts64 data twoStep, if_pos twoStep]
    exact ⟨fun index inside => Memory.copy_start index inside, rfl⟩
  followUp := by
    rw [storeSync_twoStep port ts64 data twoStep]
    exact holds.followUp
  present := by
    rw [storeSync_twoStep port ts64 data twoStep]
    exact holds.present

theorem Holds.storeFollowUp (holds : Holds data log) (message : Memory) :
    Holds (data.storeFollowUp message) { log with followUps := log.followUps ++ [message] } where
  sync := holds.sync
  followUp newest latest := by
    rw [List.getLast?_append, List.getLast?_singleton, Option.some_or] at latest
    cases latest
    exact fun index inside => Memory.copy_start index inside
  present _ := List.append_ne_nil_of_right_ne_nil _ (List.cons_ne_nil _ _)

namespace Paired

theorem Valid.store {paired : Paired} (valid : paired.Valid) (port : SyncPort)
    (permitted : step.TwoStep) :
    (paired.store port step).2 = true ∧ (paired.store port step).1.Valid := by
  cases step with
  | recvSync message ts64 =>
    have stored := storeSync_twoStep port ts64 paired.data permitted
    have holds := valid.holds.storeSync port ts64 permitted
    simp only [Paired.store, stored, if_true, true_and] at holds ⊢
    have unused : PairingLog.Unused { paired.log with syncs := paired.log.syncs ++
        [{ message := message, ingress := ts64 - port.ingressLatency.toUInt64 }] } := by
      refine ⟨List.append_ne_nil_of_right_ne_nil _ (List.cons_ne_nil _ _), fun emission member => ?_⟩
      have before := valid.used emission member
      simp only [List.length_append, List.length_singleton]
      omega
    refine ⟨⟨valid.resting.stable, fun _ => unused, fun _ => unused⟩, holds,
      fun emission member => ?_, ?_⟩
    · exact Nat.lt_of_succ_lt (unused.2 emission member)
    · have appended := valid.sound.append
        [{ message := message, ingress := ts64 - port.ingressLatency.toUInt64 }] []
      rw [List.append_nil] at appended
      exact appended
  | recvFollowUp message =>
    refine ⟨rfl, ?_⟩
    refine ⟨⟨valid.resting.stable, valid.resting.received, valid.resting.waiting⟩,
      valid.holds.storeFollowUp message, valid.used, ?_⟩
    have appended := valid.sound.append [] [message]
    rw [List.append_nil] at appended
    exact appended
  | tick => exact ⟨rfl, valid⟩

theorem Valid.called {paired : Paired} {port : TwoStepPort} (valid : paired.Valid)
    (called : Called paired.log.Unused port.toSyncPort paired.data next result) :
    Valid { data := next, log := emit port.toSyncPort paired.log result } := by
  have holds := valid.holds.of_buffers called.buffers
  have resting := called.rest
  cases result with
  | none =>
    refine ⟨⟨resting.stable, fun flag => ?_, fun state => ?_⟩, holds, valid.used, valid.sound⟩
    · exact (resting.received flag).1
    · exact (resting.waiting state).1
  | some value =>
    obtain ⟨current, buffers, built⟩ := called.built value rfl
    obtain ⟨present, fresh⟩ := built.unused
    have pair := fromPair_of_built (valid.holds.of_buffers buffers) built present
    have length : 0 < paired.log.syncs.length := List.length_pos_iff.mpr present
    refine ⟨⟨resting.stable, fun flag => ?_, fun state => ?_⟩,
      ⟨holds.sync, holds.followUp, holds.present⟩, ?_, ?_, ?_⟩
    · exact nomatch (resting.received flag).2
    · exact nomatch (resting.waiting state).2
    · intro emission member
      rcases List.mem_append.mp member with before | new
      · exact valid.used emission before
      · rw [List.mem_singleton.mp new]
        exact Nat.sub_lt length Nat.one_pos
    · intro emission member
      rcases List.mem_append.mp member with before | new
      · exact valid.sound.fromPair emission before
      · rw [List.mem_singleton.mp new]
        exact pair
    · simp only [emit, List.map_append, List.map_cons, List.map_nil]
      refine List.nodup_append.mpr ⟨valid.sound.once, List.pairwise_singleton _ _, ?_⟩
      intro place before latest new same
      obtain ⟨emission, member, rfl⟩ := List.mem_map.mp before
      have earlier := fresh emission member
      rw [List.mem_singleton.mp new] at same
      omega

theorem Valid.perform {paired : Paired} (valid : paired.Valid) (permitted : step.TwoStep)
    (taken : paired.perform port cts64 step = some next) : next.Valid := by
  obtain ⟨runs, stored⟩ := valid.store port.toSyncPort permitted
  simp only [Paired.perform, runs, if_true] at taken
  obtain ⟨⟨data, result⟩, finished, rfl⟩ := Option.map_eq_some_iff.mp taken
  exact stored.called (called_mdSyncReceiveSm stored.resting finished)

private theorem valid_start : pairingSystem.start.Valid where
  resting := ⟨rfl, nofun, nofun⟩
  holds := by
    refine ⟨fun _ impossible => ?_, fun _ impossible => ?_, fun impossible => ?_⟩
    · cases impossible
    · cases impossible
    · cases impossible
  used _ impossible := absurd impossible List.not_mem_nil
  sound := ⟨fun _ impossible => absurd impossible List.not_mem_nil, List.nodup_nil⟩

end Paired

end Steps

def twoStepSyncs (_ : Paired) (event : TwoStepPort × UInt64 × SyncStep) : Prop :=
  event.2.2.TwoStep

/-- Whatever two-step Syncs, Follow_Ups, ticks and port changes come in whatever order, every
emitted structure is built from a Sync and a Follow_Up with one sequenceId, with the ingress
timestamp of that Sync, and no Sync is used twice. -/
theorem pairingSystem_sound (reachable : pairingSystem.Reachable twoStepSyncs paired) :
    paired.log.Sound := by
  have valid : paired.Valid := reachable.invariant Paired.Valid Paired.valid_start
    fun _ _ _ valid permitted taken => valid.perform permitted taken
  exact valid.sound

namespace Paired

def wiredPort : TwoStepPort where
  BEGIN := false
  instanceEnable := true
  portOper := true
  ptpPortEnabled := true
  asCapable := true
  asymmetryMeasurementMode := false
  oneStepReceive := false
  ingressLatency := 0
  neighborPropDelay := 0
  neighborRateRatio := 1
  delayAsymmetry := 0
  twoStep := rfl

def twoStepMessage (sequenceId : Nat) : Memory :=
  (Memory.zero.store 6 1 2).store 30 2 sequenceId

def repeatedSync : List (TwoStepPort × UInt64 × SyncStep) :=
  [(wiredPort, 0, .tick), (wiredPort, 0, .recvSync (twoStepMessage 7) 1000),
    (wiredPort, 0, .recvSync (twoStepMessage 7) 2000),
    (wiredPort, 0, .recvFollowUp (twoStepMessage 6)),
    (wiredPort, 0, .recvFollowUp (twoStepMessage 7)),
    (wiredPort, 0, .recvFollowUp (twoStepMessage 7))]

def oneStepSync : List (TwoStepPort × UInt64 × SyncStep) :=
  [(wiredPort, 0, .tick), (wiredPort, 0, .recvSync (twoStepMessage 7) 1000),
    (wiredPort, 0, .recvFollowUp (twoStepMessage 7)),
    (wiredPort, 0, .recvSync (Memory.zero.store 30 2 8) 2000),
    (wiredPort, 0, .recvFollowUp (twoStepMessage 7))]

end Paired

theorem pairingSystem_sound_repeated : ∃ paired, pairingSystem.Reachable twoStepSyncs paired ∧
      paired.log.emissions.map Emission.sync = [1] ∧ paired.log.Sound := by
  have ran : (pairingSystem.run pairingSystem.start Paired.repeatedSync).map
      (fun paired => paired.log.emissions.map Emission.sync) = some [1] := by decide +kernel
  obtain ⟨paired, finished, emitted⟩ := Option.map_eq_some_iff.mp ran
  have permitted : ∀ event ∈ Paired.repeatedSync, event.2.2.TwoStep := by decide +kernel
  have reachable : pairingSystem.Reachable twoStepSyncs paired :=
    System.Reachable.start.run_allowed (fun event member _ => permitted event member) finished
  exact ⟨paired, reachable, emitted, pairingSystem_sound reachable⟩

/-- A Sync without the two-step flag sets `rcvdSync` and leaves the older Sync in the buffer, which
a repeated Follow_Up then completes for the second time. -/
theorem oneStep_sync_used_twice : ¬ ∀ paired,
    pairingSystem.Reachable System.anyStep paired → paired.log.Sound := by
  intro sound
  have ran : (pairingSystem.run pairingSystem.start Paired.oneStepSync).map
      (fun paired => paired.log.emissions.map Emission.sync) = some [0, 0] := by decide +kernel
  obtain ⟨paired, finished, emitted⟩ := Option.map_eq_some_iff.mp ran
  have once := (sound paired (System.reachable_of_run finished)).once
  rw [emitted] at once
  exact absurd once (by decide)

end EnetTsn.Sync
