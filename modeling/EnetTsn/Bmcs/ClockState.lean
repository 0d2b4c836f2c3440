import EnetTsn.Bmcs.State
import Mathlib.Tactic.Simps.Basic

namespace EnetTsn.Bmcs

open EnetTsn.Gptp EnetTsn.Library

namespace GmStable

@[simps]
def moveTo (state : GmStableState) (domain : Domain) : Domain :=
  { domain with gmsd := { domain.gmsd with state := state } }

@[simps]
def remember (state : GmStableState) (domain : Domain) : Domain :=
  { domain with gmsd := { domain.gmsd with lastState := state } }

def allstateCondition (domain : Domain) : GmStableState :=
  if domain.ptasg.BEGIN || !domain.ptasg.asCapableOrAll then .initialise
  else domain.gmsd.state

def initializeProc (domain : Domain) : Domain :=
  let domain := { domain with ptasg := { domain.ptasg with gmStableInitdone := false } }
  if (domain.ports 0).selectedState ≠ .slavePort then domain.setGmsync .unsync
  else domain.setGmsync .syncStable

def initializeCondition (domain : Domain) : GmStableState :=
  if domain.ptasg.asCapableOrAll && GmsyncStatus.sync.toNat ≤ domain.ownGmsync.toNat then
    .gmUnstable
  else .initialise

@[simps]
def gmLostProc (domain : Domain) : Domain :=
  { domain with gmsd := { domain.gmsd with gmChange := false } }

def gmLostCondition (domain : Domain) : GmStableState :=
  if domain.ownGmsync.toNat < GmsyncStatus.syncStable.toNat then .gmUnstable else .gmLost

def gmUnstableProc (domain : Domain) : Domain :=
  if domain.ownGmsync = .syncStable then domain.setGmsync .sync else domain

def gmUnstableCondition (domain : Domain) : GmStableState :=
  if domain.ownGmsync = .syncStable then .gmStable
  else if domain.gmsd.gmChange then .gmLost
  else .gmUnstable

@[simps]
def gmStableProc (domain : Domain) : Domain :=
  { domain with ptasg := { domain.ptasg with gmStableInitdone := true } }

def gmStableCondition (domain : Domain) : GmStableState :=
  if domain.gmsd.gmChange then .gmLost else .gmStable

def proc : GmStableState → Domain → Domain
  | .initialise => initializeProc
  | .gmLost => gmLostProc
  | .gmUnstable => gmUnstableProc
  | .gmStable => gmStableProc
  | .init | .reaction => id

theorem proc_stored (state : GmStableState) (domain : Domain) :
    (proc state domain).gmsd.state = domain.gmsd.state ∧
      (proc state domain).gmsd.lastState = domain.gmsd.lastState := by
  cases state with
  | init | gmLost | gmStable | reaction => exact ⟨rfl, rfl⟩
  | initialise =>
    simp only [proc, initializeProc]
    split <;> exact ⟨rfl, rfl⟩
  | gmUnstable =>
    simp only [proc, gmUnstableProc]
    split <;> exact ⟨rfl, rfl⟩

def condition : GmStableState → Domain → GmStableState
  | .init => fun _ => .initialise
  | .initialise => initializeCondition
  | .gmLost => gmLostCondition
  | .gmUnstable => gmUnstableCondition
  | .gmStable => gmStableCondition
  | .reaction => fun _ => .reaction

def table : Machine.Table Domain GmStableState where
  state domain := domain.gmsd.state
  lastState domain := domain.gmsd.lastState
  moveTo := moveTo
  remember := remember
  proc := proc
  condition := condition
  state_moveTo _ _ := rfl
  lastState_moveTo _ _ := rfl
  state_remember _ _ := rfl
  lastState_remember _ _ := rfl
  stored_proc := proc_stored

def machine : Machine Domain GmStableState Unit := table.machine

end GmStable

open GmStable in
/-- `gm_stable_sm`; see `gmStableSm_total`. -/
def gmStableSm (domain : Domain) : Option Domain :=
  (machine.run 32 (moveTo (allstateCondition domain) domain)).map (·.1)

namespace GmStable

section

variable (domain : Domain)

@[simp] theorem ownGmsync_setGmsync (status : GmsyncStatus) :
    (domain.setGmsync status).ownGmsync = status := by
  simp [Domain.ownGmsync, Domain.setGmsync]

private theorem gmUnstableProc_ownGmsync : (gmUnstableProc domain).ownGmsync ≠ .syncStable := by
  unfold gmUnstableProc
  split
  · simp
  · assumption

private theorem gmUnstableProc_gmChange : (gmUnstableProc domain).gmsd.gmChange = domain.gmsd.gmChange := by
  unfold gmUnstableProc
  split <;> rfl

private theorem initializeProc_gmChange : (initializeProc domain).gmsd.gmChange = domain.gmsd.gmChange := by
  unfold initializeProc
  dsimp only
  split <;> rfl

end

def weight (domain : Domain) (state : GmStableState) : Nat :=
  4 * domain.gmsd.gmChange.toNat + match state with
    | .init => 7
    | .initialise => 6
    | .gmStable => 5
    | .gmUnstable => 2
    | .gmLost => if domain.gmsd.gmChange then 1 else 3
    | .reaction => 0

theorem weight_proc_lt (domain : Domain) (state : GmStableState)
    (moves : condition state (proc state domain) ≠ state) :
    weight (proc state domain) (condition state (proc state domain)) < weight domain state := by
  cases state with
  | init => simp [condition, proc, weight]
  | initialise =>
    by_cases ready : ((initializeProc domain).ptasg.asCapableOrAll &&
        GmsyncStatus.sync.toNat ≤ (initializeProc domain).ownGmsync.toNat) = true
    · have next : initializeCondition (initializeProc domain) = .gmUnstable := if_pos ready
      simp [condition, proc, next, weight, initializeProc_gmChange]
    · exact absurd (if_neg ready) moves
  | gmLost =>
    by_cases lost : (gmLostProc domain).ownGmsync.toNat < GmsyncStatus.syncStable.toNat
    · have next : gmLostCondition (gmLostProc domain) = .gmUnstable := if_pos lost
      cases change : domain.gmsd.gmChange <;> simp [condition, proc, next, weight, change]
    · exact absurd (if_neg lost) moves
  | gmUnstable =>
    have unstable := gmUnstableProc_ownGmsync domain
    have kept := gmUnstableProc_gmChange domain
    cases change : domain.gmsd.gmChange
    · exact absurd (by simp [condition, proc, gmUnstableCondition, unstable, kept, change]) moves
    · simp [condition, proc, gmUnstableCondition, unstable, weight, kept, change]
  | gmStable =>
    cases change : domain.gmsd.gmChange
    · exact absurd (by simp [condition, proc, gmStableCondition, change]) moves
    · simp [condition, proc, gmStableCondition, weight, change]
  | reaction => simp [condition] at moves

end GmStable

open GmStable in
theorem gmStableSm_total (domain : Domain) : ∃ next, gmStableSm domain = some next := by
  obtain ⟨final, finished⟩ := table.run_total (ρ := Unit) weight 12 (fun domain state => by
      unfold weight
      cases domain.gmsd.gmChange <;> cases state <;> simp)
    (fun _ _ _ => rfl) (fun _ _ _ => rfl) (fun domain state _ => weight_proc_lt domain state)
    (by omega : 2 * 12 ≤ 32) (moveTo (allstateCondition domain) domain)
  exact ⟨final, by simp [gmStableSm, machine, finished]⟩

def gmStableGmChange (clockIdentity : ClockIdentity) (domain : Domain) : Option Domain :=
  if domain.gmsd.clockIdentity = clockIdentity then some domain
  else gmStableSm { domain with gmsd := { domain.gmsd with
    clockIdentity := clockIdentity, gmChange := true } }

theorem gmStableGmChange_total (clockIdentity : ClockIdentity) (domain : Domain) :
    ∃ next, gmStableGmChange clockIdentity domain = some next := by
  unfold gmStableGmChange
  split
  · exact ⟨domain, rfl⟩
  · exact gmStableSm_total _

namespace ClockMasterSyncReceive

@[simps]
def moveTo (state : ClockMasterSyncReceiveState) (domain : Domain) : Domain :=
  { domain with cmsrecd := { domain.cmsrecd with state := state } }

@[simps]
def remember (state : ClockMasterSyncReceiveState) (domain : Domain) : Domain :=
  { domain with cmsrecd := { domain.cmsrecd with lastState := state } }

def allstateCondition (domain : Domain) : ClockMasterSyncReceiveState :=
  if domain.ptasg.BEGIN || !domain.ptasg.instanceEnable then .initializing
  else domain.cmsrecd.state

@[simps]
def initializingProc (domain : Domain) : Domain :=
  { domain with cmsrecd := { domain.cmsrecd with
    rcvdClockSourceReq := false, rcvdLocalClockTick := false } }

def waitingCondition (domain : Domain) : ClockMasterSyncReceiveState :=
  if domain.cmsrecd.rcvdClockSourceReq || domain.cmsrecd.rcvdLocalClockTick then
    .receiveSourceTime
  else .waiting

def receiveSourceTimeProc (cfg : Config) (domain : Domain) : Domain :=
  let stable := cfg.servoStable domain.cmsrecd.computations
  let cleared : Domain := { domain with cmsrecd := { domain.cmsrecd with
    rcvdClockSourceReq := false, rcvdLocalClockTick := false } }
  if domain.cmsrecd.rcvdClockSourceReq then
    let counted : Domain := { cleared with cmsrecd := { cleared.cmsrecd with
      computations := domain.cmsrecd.computations + 1 } }
    if domain.ownGmsync = .unsync then counted.setGmsync .sync
    else if stable then counted.setGmsync .syncStable
    else counted
  else cleared

def proc (cfg : Config) : ClockMasterSyncReceiveState → Domain → Domain
  | .initializing => initializingProc
  | .receiveSourceTime => receiveSourceTimeProc cfg
  | .init | .waiting | .reaction => id

theorem proc_stored (cfg : Config) (state : ClockMasterSyncReceiveState) (domain : Domain) :
    (proc cfg state domain).cmsrecd.state = domain.cmsrecd.state ∧
      (proc cfg state domain).cmsrecd.lastState = domain.cmsrecd.lastState := by
  cases state with
  | init | initializing | waiting | reaction => exact ⟨rfl, rfl⟩
  | receiveSourceTime =>
    simp only [proc, receiveSourceTimeProc]
    split
    · split
      · exact ⟨rfl, rfl⟩
      · split <;> exact ⟨rfl, rfl⟩
    · exact ⟨rfl, rfl⟩

def condition : ClockMasterSyncReceiveState → Domain → ClockMasterSyncReceiveState
  | .init => fun _ => .initializing
  | .initializing | .receiveSourceTime => fun _ => .waiting
  | .waiting => waitingCondition
  | .reaction => fun _ => .reaction

def table (cfg : Config) : Machine.Table Domain ClockMasterSyncReceiveState where
  state domain := domain.cmsrecd.state
  lastState domain := domain.cmsrecd.lastState
  moveTo := moveTo
  remember := remember
  proc := proc cfg
  condition := condition
  state_moveTo _ _ := rfl
  lastState_moveTo _ _ := rfl
  state_remember _ _ := rfl
  lastState_remember _ _ := rfl
  stored_proc := proc_stored cfg

def machine (cfg : Config) : Machine Domain ClockMasterSyncReceiveState Unit :=
  (table cfg).machine

end ClockMasterSyncReceive

open ClockMasterSyncReceive in
/-- `clock_master_sync_receive_sm`; see `clockMasterSyncReceiveSm_total`. -/
def clockMasterSyncReceiveSm (cfg : Config) (domain : Domain) : Option Domain :=
  ((machine cfg).run 16 (moveTo (allstateCondition domain) domain)).map (·.1)

namespace ClockMasterSyncReceive

def requested (domain : Domain) : Bool :=
  domain.cmsrecd.rcvdClockSourceReq || domain.cmsrecd.rcvdLocalClockTick

private theorem receiveSourceTimeProc_requested (cfg : Config) (domain : Domain) :
    requested (receiveSourceTimeProc cfg domain) = false := by
  unfold receiveSourceTimeProc
  dsimp only
  split
  · split
    · rfl
    · split <;> rfl
  · rfl

def weight (domain : Domain) (state : ClockMasterSyncReceiveState) : Nat :=
  4 * (requested domain).toNat + match state with
    | .init => 3
    | .initializing => 2
    | .waiting => 1
    | .receiveSourceTime => if requested domain then 0 else 2
    | .reaction => 0

theorem weight_proc_lt (cfg : Config) (domain : Domain) (state : ClockMasterSyncReceiveState)
    (moves : condition state (proc cfg state domain) ≠ state) :
    weight (proc cfg state domain) (condition state (proc cfg state domain)) <
      weight domain state := by
  cases state with
  | init => simp [condition, proc, weight]
  | initializing =>
    have cleared : requested (initializingProc domain) = false := rfl
    simp [condition, proc, weight, cleared]
  | waiting =>
    cases due : requested domain
    · exact absurd (by simpa [condition, proc, waitingCondition, requested] using due) moves
    · have next : waitingCondition domain = .receiveSourceTime := if_pos due
      simp [condition, proc, next, weight, due]
  | receiveSourceTime =>
    cases due : requested domain <;>
      simp [condition, proc, weight, receiveSourceTimeProc_requested, due]
  | reaction => simp [condition] at moves

end ClockMasterSyncReceive

open ClockMasterSyncReceive in
theorem clockMasterSyncReceiveSm_total (cfg : Config) (domain : Domain) :
    ∃ next, clockMasterSyncReceiveSm cfg domain = some next := by
  obtain ⟨final, finished⟩ := (table cfg).run_total (ρ := Unit) weight 8 (fun domain state => by
      unfold weight
      cases requested domain <;> cases state <;> simp)
    (fun _ _ _ => rfl) (fun _ _ _ => rfl) (fun domain state _ => weight_proc_lt cfg domain state)
    (by omega : 2 * 8 ≤ 16) (moveTo (allstateCondition domain) domain)
  exact ⟨final, by simp [clockMasterSyncReceiveSm, machine, finished]⟩

def clockMasterSyncReceiveSmClockSourceReq (cfg : Config) (domain : Domain) : Option Domain :=
  clockMasterSyncReceiveSm cfg { domain with cmsrecd := { domain.cmsrecd with
    rcvdClockSourceReq := true, lastState := .reaction } }

end EnetTsn.Bmcs
