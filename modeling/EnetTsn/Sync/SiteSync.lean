import EnetTsn.Sync.PortSync

namespace EnetTsn.Sync

open EnetTsn.Gptp EnetTsn.Library

/-- What `site_sync_sync_sm` reads of its domain and of the configuration. -/
structure Site where
  BEGIN : Bool
  instanceEnable : Bool
  selectedState : Int16 → PTPPortState
  gmPresent : Bool
  testSyncRecPort : Int
  staticPortStateSlavePort : Int

inductive SiteSyncState where
  | init
  | initializing
  | receivingSync
  | reaction
  deriving DecidableEq, Repr

/-- `rcvdPSSyncPtr` points to what a port handed on, or is set to `txPSSyncPtrSSS`. -/
inductive PSSyncPtr where
  | received (portSyncSync : PortSyncSync)
  | txPSSyncPtrSSS

def PSSyncPtr.isTx : PSSyncPtr → Bool
  | .received _ => false
  | .txPSSyncPtrSSS => true

/-- `site_sync_sync_data`, with the interval it sets in the domain and whether it reset the
synchronization of the clock. `txPSSyncPtrSSS` only ever points to `portSyncSync`. -/
structure SiteSync where
  state : SiteSyncState
  lastState : SiteSyncState
  rcvdPSSync : Bool
  rcvdPSSyncPtr : PSSyncPtr
  portSyncSync : PortSyncSync
  siteSyncTimeout : UInt64
  siteSyncSendtime : UInt64
  parentLogSyncInterval : Int8
  gmsyncUnsync : Bool

/-- The structure comes from the slave port of a domain with a grandmaster, or from the port
under test. -/
def Site.accepts (site : Site) (source : PortSyncSync) : Bool :=
  site.selectedState source.localPortIndex == .slavePort && site.gmPresent ||
    site.testSyncRecPort == source.localPortIndex.toInt

namespace SiteSync

def moveTo (state : SiteSyncState) (data : SiteSync) : SiteSync :=
  { data with state := state }

def deref (data : SiteSync) : PSSyncPtr → PortSyncSync
  | .received portSyncSync => portSyncSync
  | .txPSSyncPtrSSS => data.portSyncSync

def allstateCondition (site : Site) (data : SiteSync) : SiteSync :=
  if site.BEGIN || !site.instanceEnable then
    { data with lastState := .reaction, state := .initializing }
  else data

def initializingCondition (site : Site) (data : SiteSync) : SiteSyncState :=
  if data.rcvdPSSync && site.accepts (data.deref data.rcvdPSSyncPtr) then .receivingSync
  else .initializing

def setPSSyncSend (data : SiteSync) (pssptr : PortSyncSync) : SiteSync :=
  { data with
    portSyncSync := pssptr
    siteSyncTimeout := pssptr.syncReceiptTimeoutTime
    siteSyncSendtime := pssptr.syncNextSendTimeoutTime }

def receivingSyncProc (data : SiteSync) : SiteSync :=
  let pssptr := data.deref data.rcvdPSSyncPtr
  { setPSSyncSend { data with rcvdPSSync := false } pssptr with
    parentLogSyncInterval := pssptr.logMessageInterval }

def overdue (site : Site) (cts64 : UInt64) (data : SiteSync) : Bool :=
  site.selectedState data.portSyncSync.localPortIndex == .slavePort && site.gmPresent &&
    (data.siteSyncTimeout != 0 && !decide (data.siteSyncTimeout < cts64)) &&
    data.siteSyncSendtime != 0 && decide (data.siteSyncSendtime < cts64)

/-- What was received does not stand in for the overdue structure: it is no structure of a
receiving port, or not newer. -/
def outdated (data : SiteSync) (source : PortSyncSync) : Bool :=
  source.syncReceiptTimeoutTime == -1 ||
    decide (source.syncReceiptTimeoutTime ≤ data.siteSyncSendtime)

/-- The first two checks of `receiving_sync_condition`. -/
def reactSync (site : Site) (cts64 : UInt64) (data : SiteSync) : SiteSync :=
  let received := data.deref data.rcvdPSSyncPtr
  let reacting :=
    if data.rcvdPSSync && site.accepts received then { data with lastState := .reaction } else data
  if data.rcvdPSSync && data.overdue site cts64 then
    { reacting with
      rcvdPSSyncPtr := if data.outdated received then .txPSSyncPtrSSS else data.rcvdPSSyncPtr
      lastState := .reaction }
  else reacting

/-- The last check of `receiving_sync_condition`. -/
def timeoutSync (site : Site) (cts64 : UInt64) (data : SiteSync) : SiteSync :=
  if data.siteSyncTimeout != 0 && decide (data.siteSyncTimeout < cts64) then
    { data with
      siteSyncTimeout := 0
      gmsyncUnsync := data.gmsyncUnsync || decide (0 < site.staticPortStateSlavePort) }
  else data

def receivingSyncCondition (site : Site) (cts64 : UInt64) (data : SiteSync) : SiteSync :=
  moveTo .receivingSync (timeoutSync site cts64 (reactSync site cts64 data))

def arm (site : Site) (cts64 : UInt64) (stateChange : Bool) (data : SiteSync) :
    SiteSync × Option PortSyncSync :=
  match data.state with
  | .init => (moveTo .initializing data, none)
  | .initializing =>
    let entered := if stateChange then { data with rcvdPSSync := false } else data
    (moveTo (initializingCondition site entered) entered, none)
  | .receivingSync =>
    let entered := if stateChange then receivingSyncProc data else data
    (receivingSyncCondition site cts64 entered,
      if stateChange then some entered.portSyncSync else none)
  | .reaction => (data, none)

def machine (site : Site) (cts64 : UInt64) : Machine SiteSync SiteSyncState PortSyncSync where
  state := SiteSync.state
  lastState := SiteSync.lastState
  setLastState data state := { data with lastState := state }
  arm := arm site cts64

end SiteSync

open SiteSync in
def siteSyncSyncSm (site : Site) (cts64 : UInt64) (data : SiteSync) :
    Option (SiteSync × Option PortSyncSync) :=
  (machine site cts64).run 4 (allstateCondition site data)

def siteSyncSyncSmPortSyncSync (site : Site) (portSyncSync : PortSyncSync) (cts64 : UInt64)
    (data : SiteSync) : Option (SiteSync × Option PortSyncSync) :=
  siteSyncSyncSm site cts64
    { data with rcvdPSSync := true, rcvdPSSyncPtr := .received portSyncSync }

namespace SiteSync

def zeroPortSyncSync : PortSyncSync where
  rateRatio := 0
  gmTimeBaseIndicator := 0
  lastGmPhaseChange := { subns := 0, nsec := 0, nsecMsb := 0 }
  lastGmFreqChange := 0
  domainIndex := 0
  followUpCorrectionField := { subns := 0, nsec := 0, nsecMsb := 0 }
  sourcePortIdentity := { clockIdentity := ClockIdentity.fill 0, portIndex := 0 }
  logMessageInterval := 0
  preciseOriginTimestamp := { nanoseconds := 0, secondsLsb := 0, secondsMsb := 0 }
  upstreamTxTime := 0
  localPortIndex := 0
  syncReceiptTimeoutTime := 0
  syncNextSendTimeoutTime := 0
  lastSyncSeqID := 0

/-- The memory that `site_sync_sync_sm_init` clears. -/
def zero : SiteSync where
  state := .init
  lastState := .init
  rcvdPSSync := false
  rcvdPSSyncPtr := .received zeroPortSyncSync
  portSyncSync := zeroPortSyncSync
  siteSyncTimeout := 0
  siteSyncSendtime := 0
  parentLogSyncInterval := 0
  gmsyncUnsync := false

/-- What the call of the machine at the end of `site_sync_sync_sm_init` leaves. -/
def initialized : SiteSync := { zero with state := .initializing, lastState := .initializing }

structure Settled (data : SiteSync) : Prop where
  stable : data.lastState = data.state
  waits : data.state = .initializing ∨ data.state = .receivingSync

theorem settled_initialized : initialized.Settled := ⟨rfl, Or.inl rfl⟩

def chosen (site : Site) (source : PortSyncSync) (cts64 : UInt64) (data : SiteSync) :
    Option PSSyncPtr :=
  if site.BEGIN || !site.instanceEnable then none
  else if data.state == .receivingSync && data.overdue site cts64 then
    some (if data.outdated source then .txPSSyncPtrSSS else .received source)
  else if site.accepts source then some (.received source)
  else none

structure Left (data : SiteSync) (sent : Option PSSyncPtr) (next : SiteSync) : Prop where
  settled : next.Settled
  stored : next.portSyncSync = (sent.map data.deref).getD data.portSyncSync
  pointer : ∀ ptr, sent = some ptr → next.rcvdPSSyncPtr = ptr

theorem kept_timeoutSync (site : Site) (cts64 : UInt64) (data : SiteSync) :
    (timeoutSync site cts64 data).portSyncSync = data.portSyncSync ∧
      (timeoutSync site cts64 data).rcvdPSSyncPtr = data.rcvdPSSyncPtr ∧
      (timeoutSync site cts64 data).rcvdPSSync = data.rcvdPSSync ∧
      (timeoutSync site cts64 data).lastState = data.lastState := by
  unfold timeoutSync
  split <;> exact ⟨rfl, rfl, rfl, rfl⟩

private theorem reactSync_of_none (site : Site) (cts64 : UInt64) (none : data.rcvdPSSync = false) :
    reactSync site cts64 data = data := by
  simp [reactSync, none]

section Passes

variable (site : Site) (cts64 : UInt64) {data : SiteSync}

theorem run_entering (state : data.state = .receivingSync)
    (entering : data.lastState ≠ .receivingSync) :
    ∃ next, (machine site cts64).run (fuel + 1) data =
        some (next, some (data.deref data.rcvdPSSyncPtr)) ∧ next.Settled ∧
      next.portSyncSync = data.deref data.rcvdPSSyncPtr ∧
      next.rcvdPSSyncPtr = data.rcvdPSSyncPtr := by
  let entered := receivingSyncProc { data with lastState := .receivingSync }
  obtain ⟨stored, pointer, _, last⟩ := kept_timeoutSync site cts64 entered
  have same : receivingSyncCondition site cts64 entered =
      moveTo .receivingSync (timeoutSync site cts64 entered) := by
    have cleared : entered.rcvdPSSync = false := rfl
    rw [receivingSyncCondition, reactSync_of_none site cts64 cleared]
  refine ⟨moveTo .receivingSync (timeoutSync site cts64 entered), ?_, ?_, stored, pointer⟩
  · apply Machine.run_of_result
    simp only [Machine.switch, machine, arm, state, bne_iff_ne.mpr entering, if_true]
    simp only [entered, state]
    rfl
  · exact ⟨last, Or.inr rfl⟩

theorem run_initializing (settled : data.Settled) (state : data.state = .initializing)
    (received : data.rcvdPSSync = true) : ∃ next, (machine site cts64).run 4 data =
        some (next, if site.accepts (data.deref data.rcvdPSSyncPtr) then
          some (data.deref data.rcvdPSSyncPtr) else none) ∧ next.Settled ∧
      next.portSyncSync = (if site.accepts (data.deref data.rcvdPSSyncPtr) then
        data.deref data.rcvdPSSyncPtr else data.portSyncSync) ∧
      next.rcvdPSSyncPtr = data.rcvdPSSyncPtr := by
  have last : data.lastState = .initializing := settled.stable.trans state
  have out : (machine site cts64).switch data =
      (moveTo (initializingCondition site data) data, none) := by
    obtain ⟨⟩ := data
    cases last
    cases state
    rfl
  by_cases accepted : site.accepts (data.deref data.rcvdPSSyncPtr) = true
  · have next : initializingCondition site data = .receivingSync := by
      simp [initializingCondition, received, accepted]
    rw [next] at out
    have unstable : (moveTo .receivingSync data).lastState ≠ .receivingSync := by
      rw [show (moveTo .receivingSync data).lastState = _ from last]
      nofun
    rw [(machine site cts64).run_of_unstable out unstable, if_pos accepted, if_pos accepted]
    exact run_entering site cts64 rfl unstable
  · have next : initializingCondition site data = .initializing := by
      simp [initializingCondition, accepted]
    rw [next] at out
    rw [(machine site cts64).run_of_stable out last, if_neg accepted, if_neg accepted]
    exact ⟨_, rfl, ⟨last, Or.inl rfl⟩, rfl, rfl⟩

def reaction (site : Site) (cts64 : UInt64) (data : SiteSync) : Option PSSyncPtr :=
  if data.overdue site cts64 then
    some (if data.outdated (data.deref data.rcvdPSSyncPtr) then .txPSSyncPtrSSS
      else data.rcvdPSSyncPtr)
  else if site.accepts (data.deref data.rcvdPSSyncPtr) then some data.rcvdPSSyncPtr
  else none

theorem reactSync_received (received : data.rcvdPSSync = true) : reactSync site cts64 data =
      match data.reaction site cts64 with
      | none => data
      | some ptr => { data with rcvdPSSyncPtr := ptr, lastState := .reaction } := by
  simp only [reactSync, reaction, received, Bool.true_and]
  cases data.overdue site cts64
  · cases site.accepts (data.deref data.rcvdPSSyncPtr) <;> simp
  · cases site.accepts (data.deref data.rcvdPSSyncPtr) <;> simp [received]

theorem run_receiving (settled : data.Settled) (state : data.state = .receivingSync)
    (received : data.rcvdPSSync = true) : ∃ next, (machine site cts64).run 4 data =
        some (next, (data.reaction site cts64).map data.deref) ∧
      data.Left (data.reaction site cts64) next := by
  have last : data.lastState = .receivingSync := settled.stable.trans state
  have out : (machine site cts64).switch data =
      (receivingSyncCondition site cts64 data, none) := by
    obtain ⟨⟩ := data
    cases last
    cases state
    rfl
  cases reacts : data.reaction site cts64 with
  | none =>
    obtain ⟨stored, _, _, sameLast⟩ := kept_timeoutSync site cts64 data
    have next : receivingSyncCondition site cts64 data =
        moveTo .receivingSync (timeoutSync site cts64 data) := by
      rw [receivingSyncCondition, reactSync_received site cts64 received, reacts]
    rw [next] at out
    refine ⟨_, (machine site cts64).run_of_stable out (sameLast.trans last), ?_⟩
    exact { settled := ⟨sameLast.trans last, Or.inr rfl⟩, stored := stored, pointer := nofun }
  | some ptr =>
    let after : SiteSync := { data with rcvdPSSyncPtr := ptr, lastState := .reaction }
    obtain ⟨stored, pointer, _, sameLast⟩ := kept_timeoutSync site cts64 after
    have next : receivingSyncCondition site cts64 data =
        moveTo .receivingSync (timeoutSync site cts64 after) := by
      rw [receivingSyncCondition, reactSync_received site cts64 received, reacts]
    rw [next] at out
    have unstable : (moveTo .receivingSync (timeoutSync site cts64 after)).lastState ≠
        .receivingSync := by
      rw [show (moveTo .receivingSync (timeoutSync site cts64 after)).lastState = _ from sameLast]
      nofun
    have same : (moveTo .receivingSync (timeoutSync site cts64 after)).deref
        (moveTo .receivingSync (timeoutSync site cts64 after)).rcvdPSSyncPtr = data.deref ptr := by
      change (timeoutSync site cts64 after).deref (timeoutSync site cts64 after).rcvdPSSyncPtr = _
      rw [pointer]
      cases ptr with
      | received value => rfl
      | txPSSyncPtrSSS => exact stored
    obtain ⟨final, finished, ready, sent, kept⟩ := run_entering site cts64 rfl unstable
    rw [(machine site cts64).run_of_unstable out unstable, finished, same]
    refine ⟨final, rfl, ?_⟩
    exact
      { settled := ready
        stored := sent.trans same
        pointer := fun _ chosen => (kept.trans pointer).trans (Option.some.inj chosen) }

end Passes

theorem call_eq (site : Site) (source : PortSyncSync) (cts64 : UInt64) (settled : data.Settled) :
    ∃ next, siteSyncSyncSmPortSyncSync site source cts64 data =
        some (next, (data.chosen site source cts64).map data.deref) ∧
      data.Left (data.chosen site source cts64) next := by
  unfold siteSyncSyncSmPortSyncSync siteSyncSyncSm allstateCondition chosen
  by_cases stopped : (site.BEGIN || !site.instanceEnable) = true
  · rw [if_pos stopped, if_pos stopped]
    refine ⟨_, (machine site cts64).run_of_stable rfl rfl, ?_⟩
    exact { settled := ⟨rfl, Or.inl rfl⟩, stored := rfl, pointer := nofun }
  · rw [if_neg stopped, if_neg stopped]
    have arrived : SiteSync.Settled
        { data with rcvdPSSync := true, rcvdPSSyncPtr := .received source } :=
      ⟨settled.stable, settled.waits⟩
    rcases settled.waits with waiting | receiving
    · obtain ⟨next, finished, ready, stored, pointer⟩ :=
        run_initializing site cts64 arrived waiting rfl
      have other : (data.state == .receivingSync && data.overdue site cts64) = false := by
        rw [waiting]
        rfl
      rw [other, if_neg Bool.false_ne_true]
      refine ⟨next, ?_, ?_⟩
      · rw [finished]
        cases accepted : site.accepts source <;> simp [deref, accepted]
      · refine { settled := ready, stored := ?_, pointer := ?_ }
        · rw [stored]
          cases accepted : site.accepts source <;> simp [deref, accepted]
        · intro ptr chosen
          rw [pointer]
          split at chosen
          · exact Option.some.inj chosen
          · cases chosen
    · obtain ⟨next, finished, left⟩ :=
        run_receiving site cts64 arrived receiving rfl
      have same : (data.state == .receivingSync && data.overdue site cts64) =
          data.overdue site cts64 := by
        rw [receiving]
        rfl
      rw [same]
      exact ⟨next, finished, left.settled, left.stored, left.pointer⟩

end SiteSync

end EnetTsn.Sync
