import EnetTsn.Library.Run
import Mathlib.Algebra.Ring.Nat

namespace EnetTsn.Clock

open EnetTsn.Library

/-- What differs between platforms: the descriptors of PTP devices and the sizes of the shared
structures. -/
structure Platform (φ : Type) where
  /-- `PTPFD_VALID`. -/
  valid : φ → Bool
  /-- A descriptor in cleared memory. -/
  cleared : φ
  /-- The size of `gptp_clock_ppara_t`. -/
  pparaSize : Int32
  /-- The size of `gptp_master_clock_shm_head_t`. -/
  headSize : Int32

/-- `gptp_master_clock_data_t`; the shared memory is given by its address. -/
structure GptpMasterClockData (φ : Type) where
  maxDomains : Int32
  shmfd : Int32
  shmsize : Int32
  shm : Option Nat
  ptpfds : Option (List φ)
  suppressMsg : Bool
  refCounter : Int32
  shmemName : List UInt8
  deriving DecidableEq

/-- What a call of `gptpmasterclock_init` is given and finds. -/
structure InitAttempt (φ : Type) where
  shmemName : Option (List UInt8)
  /-- The first mapping: its descriptor, and the number of domains that stands there. -/
  head : Option (Int32 × Int32)
  /-- The mapping of the whole shared memory: its descriptor and address. -/
  mapping : Option (Int32 × Nat)
  /-- Whether there is memory for the descriptors. -/
  memory : Bool
  /-- What opening the PTP device of a domain gives, unless the domain has none. -/
  ptpdev : Nat → Option φ

namespace GptpMasterClockData

variable {φ : Type}

def cleared : GptpMasterClockData φ where
  maxDomains := 0
  shmfd := 0
  shmsize := 0
  shm := none
  ptpfds := none
  suppressMsg := false
  refCounter := 0
  shmemName := []

def gptpMasterClockSharedMem : List UInt8 := "/gptp_mc_shm".toUTF8.data.toList

/-- The name as it is stored, in `GPTP_MAX_SIZE_SHARED_MEMNAME` octets. -/
def storedName (shmemName : Option (List UInt8)) : List UInt8 :=
  match shmemName with
  | none | some [] => gptpMasterClockSharedMem
  | some name => name.take 31

/-- `gptpmasterclock_close`. -/
def close (gmcd : GptpMasterClockData φ) : GptpMasterClockData φ × Int32 :=
  if gmcd.maxDomains = 0 then (gmcd, -1)
  else if gmcd.shm.isNone then (gmcd, -1)
  else
    let gmcd := { gmcd with refCounter := gmcd.refCounter - 1 }
    if 0 < gmcd.refCounter then (gmcd, 0) else (cleared, 0)

/-- What `gptpmasterclock_init` does at `erexit`. -/
def erexit (gmcd : GptpMasterClockData φ) : GptpMasterClockData φ × Int32 :=
  let closed := if gmcd.suppressMsg then gmcd.close.1 else { gmcd.close.1 with suppressMsg := true }
  ({ closed with refCounter := closed.refCounter - 1 }, -1)

end GptpMasterClockData

namespace Platform

variable {φ : Type} [DecidableEq φ] (platform : Platform φ)

/-- The loop of `ptpdev_open` over the domains. -/
def openFrom (ptpdev : Nat → Option φ) : List Nat → List φ → Int32 → List φ × Int32
  | [], ptpfds, res => (ptpfds, res)
  | i :: rest, ptpfds, res =>
    if ptpfds.getD i platform.cleared ≠ platform.cleared then openFrom ptpdev rest ptpfds res
    else
      match ptpdev i with
      | none => openFrom ptpdev rest ptpfds res
      | some ptpfd =>
        if platform.valid ptpfd then openFrom ptpdev rest (ptpfds.set i ptpfd) 0
        else (ptpfds.set i ptpfd, -1)

def ptpdevOpen (ptpdev : Nat → Option φ) (ptpfds : List φ) : List φ × Int32 :=
  platform.openFrom ptpdev (List.range ptpfds.length) ptpfds (-1)

def noneOpen (maxDomains : Int32) : List φ :=
  List.replicate maxDomains.toInt.toNat platform.cleared

open GptpMasterClockData in
/-- `gptpmasterclock_init`. -/
def init (attempt : InitAttempt φ) (gmcd : GptpMasterClockData φ) :
    GptpMasterClockData φ × Int32 :=
  let gmcd := { gmcd with refCounter := gmcd.refCounter + 1 }
  if gmcd.maxDomains ≠ 0 then (gmcd, 0)
  else
    let gmcd := { gmcd with shmemName := storedName attempt.shmemName }
    match attempt.head with
    | none => { gmcd with shmfd := 0 }.erexit
    | some (shmfd, dnum) =>
      if dnum = 0 then { gmcd with shmfd := shmfd }.erexit
      else
        let gmcd := { gmcd with
          maxDomains := dnum, shmsize := platform.pparaSize * dnum + platform.headSize }
        match attempt.mapping with
        | none => { gmcd with shmfd := 0, shm := none }.erexit
        | some (shmfd, address) =>
          let gmcd := { gmcd with shmfd := shmfd, shm := some address }
          if attempt.memory then
            let (ptpfds, res) := platform.ptpdevOpen attempt.ptpdev (platform.noneOpen dnum)
            let gmcd := { gmcd with ptpfds := some ptpfds }
            if res ≠ 0 then gmcd.erexit else ({ gmcd with suppressMsg := false }, 0)
          else { gmcd with ptpfds := none }.erexit

end Platform

inductive MasterClockEvent (φ : Type) where
  | init (attempt : InitAttempt φ)
  | close

/-- The data after some calls, with the number of inits that have succeeded, of closes that were
made, and of closes that have succeeded. -/
structure MasterClockRun (φ : Type) where
  gmcd : GptpMasterClockData φ
  succeeded : Nat
  closes : Nat
  closed : Nat
  deriving DecidableEq

section System

variable {φ : Type} [DecidableEq φ] (platform : Platform φ)

def masterClockSystem : System (MasterClockRun φ) (MasterClockEvent φ) where
  start := { gmcd := .cleared, succeeded := 0, closes := 0, closed := 0 }
  step run
    | .init attempt =>
      let (gmcd, res) := platform.init attempt run.gmcd
      some { run with gmcd, succeeded := run.succeeded + if res = 0 then 1 else 0 }
    | .close =>
      let (gmcd, res) := run.gmcd.close
      some { run with
        gmcd, closes := run.closes + 1, closed := run.closed + if res = 0 then 1 else 0 }

end System

def GptpMasterClockData.Usable {φ : Type} (gmcd : GptpMasterClockData φ) : Prop :=
  gmcd.maxDomains ≠ 0 ∧ gmcd.shm.isSome ∧ gmcd.ptpfds.isSome

/-- An init that has read a number of domains comes to its end: there is memory, and the domains
have at least one device and only such that can be opened. -/
def InitAttempt.Completes {φ : Type} (platform : Platform φ) (attempt : InitAttempt φ) : Prop :=
  ∀ shmfd dnum, attempt.head = some (shmfd, dnum) → dnum ≠ 0 →
    attempt.mapping.isSome ∧ attempt.memory = true ∧
      (∃ i < dnum.toInt.toNat, (attempt.ptpdev i).isSome) ∧
      ∀ i < dnum.toInt.toNat, ∀ ptpfd ∈ attempt.ptpdev i, platform.valid ptpfd = true

/-- An init comes to its end once it has read a number of domains, and the counter has room
for it. -/
def MasterClockPermitted {φ : Type} (platform : Platform φ)
    (run : MasterClockRun φ) : MasterClockEvent φ → Prop
  | .init attempt => attempt.Completes platform ∧ run.succeeded < run.closed + 0x7fffffff
  | .close => True

instance {φ : Type} (platform : Platform φ) (attempt : InitAttempt φ) :
    Decidable (attempt.Completes platform) :=
  match head : attempt.head with
  | none => .isTrue fun _ _ same => nomatch head.symm.trans same
  | some (shmfd, dnum) => decidable_of_iff (dnum ≠ 0 →
      attempt.mapping.isSome ∧ attempt.memory = true ∧
        (∃ i < dnum.toInt.toNat, (attempt.ptpdev i).isSome) ∧
        ∀ i < dnum.toInt.toNat, ∀ ptpfd ∈ attempt.ptpdev i, platform.valid ptpfd = true)
      ⟨fun all _ _ same => by cases head.symm.trans same; exact all, fun all => all shmfd dnum head⟩

instance {φ : Type} (platform : Platform φ) (run : MasterClockRun φ) :
    ∀ event, Decidable (MasterClockPermitted platform run event)
  | .init _ => inferInstanceAs (Decidable (_ ∧ _))
  | .close => inferInstanceAs (Decidable True)

section Calls

variable {φ : Type} {gmcd : GptpMasterClockData φ}

open GptpMasterClockData

private theorem close_usable (usable : gmcd.Usable) :
    gmcd.close = if 0 < gmcd.refCounter - 1 then
        ({ gmcd with refCounter := gmcd.refCounter - 1 }, 0)
      else (.cleared, 0) := by
  have mapped : ¬ gmcd.shm.isNone = true := by simp [Option.isSome_iff_ne_none.mp usable.2.1]
  rw [close, if_neg usable.1, if_neg mapped]

theorem close_unused (unused : gmcd.maxDomains = 0) : gmcd.close = (gmcd, -1) := by
  rw [close, if_pos unused]

private theorem erexit_unused (unused : gmcd.maxDomains = 0) :
    gmcd.erexit = ({ gmcd with suppressMsg := true, refCounter := gmcd.refCounter - 1 }, -1) := by
  rw [erexit, close_unused unused]
  cases suppressed : gmcd.suppressMsg with
  | false => rfl
  | true => simp [suppressed]

variable [DecidableEq φ] {platform : Platform φ} {attempt : InitAttempt φ}

theorem openFrom_valid {ptpfds : List φ} {res : Int32} (distinct : indices.Nodup)
    (closed : ∀ i ∈ indices, ptpfds.getD i platform.cleared = platform.cleared)
    (valid : ∀ i ∈ indices, ∀ ptpfd ∈ ptpdev i, platform.valid ptpfd = true)
    (some : res = 0 ∨ ∃ i ∈ indices, (ptpdev i).isSome) :
    (platform.openFrom ptpdev indices ptpfds res).2 = 0 := by
  induction indices generalizing ptpfds res with
  | nil => simpa [Platform.openFrom] using some
  | cons i rest ih =>
    obtain ⟨fresh, distinct⟩ := List.nodup_cons.mp distinct
    obtain ⟨here, later⟩ := List.forall_mem_cons.mp valid
    rw [Platform.openFrom, if_neg (not_not_intro (closed i List.mem_cons_self))]
    cases device : ptpdev i with
    | none =>
      refine ih distinct (fun j member => closed j (List.mem_cons_of_mem i member)) later ?_
      simpa [device] using some
    | some ptpfd =>
      dsimp only
      rw [if_pos (here ptpfd device)]
      refine ih distinct (fun j member => ?_) later (Or.inl rfl)
      have other : i ≠ j := fun same => fresh (same ▸ member)
      rw [List.getD_eq_getElem?_getD, List.getElem?_set_ne other, ← List.getD_eq_getElem?_getD]
      exact closed j (List.mem_cons_of_mem i member)

private theorem ptpdevOpen_noneOpen (some : ∃ i < dnum.toInt.toNat, (ptpdev i).isSome)
    (valid : ∀ i < dnum.toInt.toNat, ∀ ptpfd ∈ ptpdev i, platform.valid ptpfd = true) :
    (platform.ptpdevOpen ptpdev (platform.noneOpen dnum)).2 = 0 := by
  have length : (platform.noneOpen dnum).length = dnum.toInt.toNat := List.length_replicate
  rw [Platform.ptpdevOpen, length]
  refine openFrom_valid List.nodup_range ?_ ?_ (Or.inr ?_)
  · intro i member
    rw [Platform.noneOpen, List.getD_eq_getElem?_getD,
      List.getElem?_replicate_of_lt (List.mem_range.mp member)]
    rfl
  · exact fun i member => valid i (List.mem_range.mp member)
  · obtain ⟨i, less, device⟩ := some
    exact ⟨i, List.mem_range.mpr less, device⟩

theorem init_used (used : gmcd.maxDomains ≠ 0) :
    platform.init attempt gmcd = ({ gmcd with refCounter := gmcd.refCounter + 1 }, 0) := by
  exact if_pos used

/-- What the globals are after an init that has mapped the shared memory and opened the devices. -/
def Platform.opened (platform : Platform φ) (attempt : InitAttempt φ) (dnum shmfd : Int32)
    (address : Nat) (refCounter : Int32) : GptpMasterClockData φ where
  maxDomains := dnum
  shmfd := shmfd
  shmsize := platform.pparaSize * dnum + platform.headSize
  shm := some address
  ptpfds := some (platform.ptpdevOpen attempt.ptpdev (platform.noneOpen dnum)).1
  suppressMsg := false
  refCounter := refCounter
  shmemName := storedName attempt.shmemName

theorem init_unused (unused : gmcd.maxDomains = 0) (completes : attempt.Completes platform) :
    (∃ shmfd, (∀ fd dnum, attempt.head = some (fd, dnum) → dnum = 0) ∧
      platform.init attempt gmcd = ({ gmcd with
        shmfd, suppressMsg := true, shmemName := storedName attempt.shmemName }, -1)) ∨
    ∃ fd dnum shmfd address, attempt.head = some (fd, dnum) ∧ dnum ≠ 0 ∧
      attempt.mapping = some (shmfd, address) ∧ platform.init attempt gmcd =
        (platform.opened attempt dnum shmfd address (gmcd.refCounter + 1), 0) := by
  have failed : ∀ shmfd, erexit { gmcd with
      refCounter := gmcd.refCounter + 1, shmemName := storedName attempt.shmemName, shmfd } =
      ({ gmcd with
        shmfd, suppressMsg := true, shmemName := storedName attempt.shmemName }, -1) := by
    intro shmfd
    refine (erexit_unused ?_).trans ?_
    · exact unused
    · simp only [Int32.add_sub_cancel]
  rw [Platform.init]
  rw [if_neg (not_not_intro unused)]
  cases head : attempt.head with
  | none => exact Or.inl ⟨0, nofun, failed 0⟩
  | some mapped =>
    obtain ⟨fd, dnum⟩ := mapped
    dsimp only
    by_cases none : dnum = 0
    · rw [if_pos none]
      refine Or.inl ⟨fd, fun fd' dnum' same => ?_, failed fd⟩
      cases same
      exact none
    · obtain ⟨mapping, memory, device, valid⟩ := completes fd dnum head none
      obtain ⟨⟨shmfd, address⟩, mapping⟩ := Option.isSome_iff_exists.mp mapping
      rw [if_neg none, mapping]
      dsimp only
      rw [if_pos memory, ptpdevOpen_noneOpen device valid]
      exact Or.inr ⟨fd, dnum, shmfd, address, rfl, none, rfl, rfl⟩

end Calls

section Runs

variable {φ : Type} {run : MasterClockRun φ}

open GptpMasterClockData

def GptpMasterClockData.Unopened (gmcd : GptpMasterClockData φ) : Prop :=
  gmcd = { cleared with
    shmfd := gmcd.shmfd, suppressMsg := gmcd.suppressMsg, shmemName := gmcd.shmemName }

inductive Standing (run : MasterClockRun φ) : Prop
  | unopened (unopened : run.gmcd.Unopened) (even : run.succeeded = run.closed)
  | opened (opens : Nat) (usable : run.gmcd.Usable) (some : 0 < opens) (few : opens < 2 ^ 31)
      (counted : run.succeeded = run.closed + opens)
      (refCounter : run.gmcd.refCounter = Int32.ofNat opens)

theorem Unopened.maxDomains {gmcd : GptpMasterClockData φ} (unopened : gmcd.Unopened) :
    gmcd.maxDomains = 0 := by
  rw [unopened]
  rfl

theorem Unopened.refCounter {gmcd : GptpMasterClockData φ} (unopened : gmcd.Unopened) :
    gmcd.refCounter = 0 := by
  rw [unopened]
  rfl

private theorem Standing.usable_iff (standing : Standing run) :
    run.gmcd.Usable ↔ run.closed < run.succeeded := by
  cases standing with
  | unopened unopened even =>
    rw [even]
    exact iff_of_false (fun usable => usable.1 (Unopened.maxDomains unopened)) (Nat.lt_irrefl _)
  | opened opens usable some few counted _ => exact iff_of_true usable (by omega)

theorem Standing.close (standing : Standing run) :
    Standing { run with
      gmcd := run.gmcd.close.1
      closes := run.closes + 1
      closed := run.closed + if run.gmcd.close.2 = 0 then 1 else 0 } := by
  cases standing with
  | unopened unopened even =>
    rw [close_unused (Unopened.maxDomains unopened)]
    exact .unopened unopened even
  | opened opens usable some few counted refCounter =>
    obtain ⟨rest, rfl⟩ : ∃ rest, opens = rest + 1 := ⟨opens - 1, by omega⟩
    have less : run.gmcd.refCounter - 1 = Int32.ofNat rest := by
      rw [refCounter, Int32.ofNat_add]
      exact Int32.add_sub_cancel _ _
    have positive : 0 < Int32.ofNat rest ↔ 0 < rest := Int32.ofNat_lt_iff_lt (by decide) (by omega)
    rw [close_usable usable, less]
    by_cases last : 0 < rest
    · rw [if_pos (positive.mpr last)]
      refine .opened rest usable last (by omega) ?_ rfl
      change run.succeeded = run.closed + 1 + rest
      omega
    · rw [if_neg fun more => last (positive.mp more)]
      refine .unopened rfl ?_
      change run.succeeded = run.closed + 1
      omega

variable [DecidableEq φ] {platform : Platform φ}

theorem Standing.init (standing : Standing run) (completes : attempt.Completes platform)
    (room : run.succeeded < run.closed + 0x7fffffff) :
    Standing { run with
      gmcd := (platform.init attempt run.gmcd).1
      succeeded := run.succeeded + if (platform.init attempt run.gmcd).2 = 0 then 1 else 0 } := by
  cases standing with
  | unopened unopened even =>
    rcases init_unused (Unopened.maxDomains unopened) completes with
      ⟨shmfd, -, out⟩ | ⟨fd, dnum, shmfd, address, -, some, -, out⟩
    · rw [out]
      refine .unopened ?_ even
      rw [Unopened, unopened]
    · rw [out]
      refine .opened 1 ⟨some, rfl, rfl⟩ Nat.one_pos (by omega) (congrArg (· + 1) even) ?_
      rw [Unopened.refCounter unopened]
      rfl
  | opened opens usable some few counted refCounter =>
    rw [init_used usable.1]
    refine .opened (opens + 1) usable (by omega) (by omega) ?_ ?_
    · change run.succeeded + 1 = run.closed + (opens + 1)
      omega
    · rw [refCounter, Int32.ofNat_add]
      rfl

private theorem reachable_standing
    (reachable : (masterClockSystem platform).Reachable (MasterClockPermitted platform) run) :
    Standing run := by
  have start : Standing (masterClockSystem platform).start := .unopened rfl rfl
  refine reachable.invariant Standing start ?_
  intro run event next standing permitted taken
  cases event with
  | init attempt =>
    cases taken
    exact standing.init permitted.1 permitted.2
  | close =>
    cases taken
    exact standing.close

/-- What the counts of a run say about the globals, and what the next call does. -/
structure Accounted (platform : Platform φ) (run : MasterClockRun φ) : Prop where
  usable : run.gmcd.Usable ↔ run.closed < run.succeeded
  refused : ¬ run.gmcd.Usable → run.gmcd.close = (run.gmcd, -1)
  failed : ∀ attempt, attempt.Completes platform → (platform.init attempt run.gmcd).2 ≠ 0 →
    (platform.init attempt run.gmcd).1 = { run.gmcd with
      shmfd := (platform.init attempt run.gmcd).1.shmfd
      suppressMsg := true
      shmemName := storedName attempt.shmemName }
  afresh : ∀ attempt, attempt.Completes platform → ¬ run.gmcd.Usable →
    (platform.init attempt run.gmcd).2 = (platform.init attempt cleared).2 ∧
      ((platform.init attempt run.gmcd).2 = 0 →
        platform.init attempt run.gmcd = platform.init attempt cleared)

private theorem init_failed (completes : attempt.Completes platform)
    (failed : (platform.init attempt gmcd).2 ≠ 0) :
    (platform.init attempt gmcd).1 = { gmcd with
      shmfd := (platform.init attempt gmcd).1.shmfd
      suppressMsg := true
      shmemName := storedName attempt.shmemName } := by
  by_cases unused : gmcd.maxDomains = 0
  · rcases init_unused unused completes with
      ⟨shmfd, -, out⟩ | ⟨fd, dnum, shmfd, address, -, -, -, out⟩
    · rw [out]
    · rw [out] at failed
      exact absurd rfl failed
  · rw [init_used unused] at failed
    exact absurd rfl failed

theorem init_afresh (completes : attempt.Completes platform) (unopened : gmcd.Unopened) :
    (platform.init attempt gmcd).2 = (platform.init attempt cleared).2 ∧
      ((platform.init attempt gmcd).2 = 0 →
        platform.init attempt gmcd = platform.init attempt cleared) := by
  have fresh : (cleared : GptpMasterClockData φ).maxDomains = 0 := rfl
  rcases init_unused (Unopened.maxDomains unopened) completes with
    ⟨shmfd, none, out⟩ | ⟨fd, dnum, shmfd, address, head, some, mapping, out⟩
  · rcases init_unused fresh completes with ⟨_, -, out'⟩ | ⟨fd, dnum, _, _, head, some, -, -⟩
    · rw [out, out']
      exact ⟨rfl, fun impossible => absurd (show (-1 : Int32) = 0 from impossible) (by decide)⟩
    · exact absurd (none fd dnum head) some
  · rcases init_unused fresh completes with
      ⟨_, none, -⟩ | ⟨_, _, _, _, head', -, mapping', out'⟩
    · exact absurd (none fd dnum head) some
    · cases head.symm.trans head'
      cases mapping.symm.trans mapping'
      rw [out, out', Unopened.refCounter unopened]
      exact ⟨rfl, fun _ => rfl⟩

/-- **The clock is usable exactly while more inits than closes have succeeded, and a failed init
leaves nothing that a later one would notice.** -/
theorem masterClock_accounted {platform : Platform φ} {run : MasterClockRun φ}
    (reachable : (masterClockSystem platform).Reachable (MasterClockPermitted platform) run) :
    Accounted platform run := by
  have standing := reachable_standing reachable
  have unopened : ¬ run.gmcd.Usable → run.gmcd.Unopened := by
    intro unusable
    cases standing with
    | unopened unopened _ => exact unopened
    | opened _ usable => exact absurd usable unusable
  exact ⟨standing.usable_iff,
    fun unusable => close_unused (Unopened.maxDomains (unopened unusable)),
    fun _ completes failed => init_failed completes failed,
    fun _ completes unusable => init_afresh completes (unopened unusable)⟩

end Runs

def filePlatform : Platform Int32 where
  valid fd := 0 ≤ fd
  cleared := 0
  pparaSize := 72
  headSize := 48

def oneDomain : InitAttempt Int32 where
  shmemName := none
  head := some (3, 1)
  mapping := some (3, 4096)
  memory := true
  ptpdev _ := some 4

def noDaemon : InitAttempt Int32 := { oneDomain with head := none }

/-- A failed init, two that succeed, and a close. -/
theorem masterClock_accounted_four : ∃ run : MasterClockRun Int32,
    run.succeeded = 2 ∧ run.closed = 1 ∧ run.gmcd.Usable ∧ Accounted filePlatform run := by
  have evaluated : (((masterClockSystem filePlatform).restrict fun run event =>
      decide (MasterClockPermitted filePlatform run event)).run
      (masterClockSystem filePlatform).start
      [.init noDaemon, .init oneDomain, .init oneDomain, .close]).map (fun run =>
        (run.succeeded, run.closed)) = some (2, 1) := by decide +kernel
  obtain ⟨run, finished, counts⟩ := Option.map_eq_some_iff.mp evaluated
  obtain ⟨succeeded, closed⟩ := Prod.mk.inj counts
  have accounted := masterClock_accounted
    ((System.reachable_of_run finished).of_restrict fun _ _ => of_decide_eq_true)
  exact ⟨run, succeeded, closed, accounted.usable.mpr (by omega), accounted⟩

/-- An init that finds no shared memory leaves a note not to report that again. -/
theorem failed_init_suppresses : ¬ ∀ (platform : Platform Int32) (run : MasterClockRun Int32),
    (masterClockSystem platform).Reachable System.anyStep run →
      (run.gmcd.Usable ↔ run.closes < run.succeeded) ∧
        ∀ attempt, (platform.init attempt run.gmcd).2 ≠ 0 →
          (platform.init attempt run.gmcd).1 = run.gmcd := by
  intro always
  have unchanged := (always filePlatform _ .start).2 noDaemon (by decide)
  have suppressed : (filePlatform.init noDaemon .cleared).1.suppressMsg = true := by decide
  have kept : (filePlatform.init noDaemon .cleared).1.suppressMsg = false :=
    congrArg GptpMasterClockData.suppressMsg unchanged
  cases kept

/-- `gptpmasterclock_expand_timestamp_ts64`. -/
def expandTimestampTs64 (timestamp : UInt32) (ts64 : Int64) : UInt64 :=
  let dtime := timestamp.toUInt64.toInt64 - (ts64 &&& 0xffffffff)
  if 2147483647 < dtime then (ts64 + (-2147483648) + dtime - (2147483647 + 1)).toUInt64
  else if dtime < -2147483648 then (ts64 + 2147483647 + dtime - (-2147483648 - 1)).toUInt64
  else (ts64 + dtime).toUInt64

/-- A time of 64 bits with the lower word `timestamp`, in the window of `2 ^ 32` around `ts64`. -/
structure Expands (timestamp : UInt32) (ts64 : Int64) (time : UInt64) : Prop where
  congruent : time.toUInt32 = timestamp
  notBefore : -2147483648 ≤ (time.toInt64 - ts64).toInt
  before : (time.toInt64 - ts64).toInt < 2147483648

variable {timestamp : UInt32} {ts64 : Int64}

private theorem lower_toInt (ts64 : Int64) :
    (ts64 &&& 0xffffffff).toInt = (ts64.toUInt64.toNat % 4294967296 : Nat) := by
  have low : (ts64 &&& 0xffffffff).toBitVec.toNat = ts64.toUInt64.toNat % 4294967296 := by
    exact Nat.and_two_pow_sub_one_eq_mod _ 32
  rw [← Int64.toInt_toBitVec, BitVec.toInt_eq_toNat_of_lt, low]
  omega

private theorem dtime_toInt (timestamp : UInt32) (ts64 : Int64) :
    (timestamp.toUInt64.toInt64 - (ts64 &&& 0xffffffff)).toInt =
      timestamp.toNat - (ts64.toUInt64.toNat % 4294967296 : Nat) := by
  have small := timestamp.toNat_lt
  have stamp : timestamp.toUInt64.toInt64.toInt = timestamp.toNat := by
    rw [← Int64.toInt_toBitVec, BitVec.toInt_eq_toNat_of_lt (by simp; omega)]
    simp
  rw [Int64.toInt_sub, lower_toInt, stamp, Int.bmod_eq_of_le] <;> omega

theorem distance_emod (time : UInt64) (ts64 : Int64) :
    ((time.toInt64 - ts64).toInt + ts64.toUInt64.toNat) % 4294967296 = time.toNat % 4294967296 := by
  have value : time.toInt64.toInt = (time.toNat : Int).bmod 18446744073709551616 := by
    exact BitVec.toInt_eq_toNat_bmod _
  have signed : ts64.toInt = (ts64.toUInt64.toNat : Int).bmod 18446744073709551616 :=
    BitVec.toInt_eq_toNat_bmod _
  have difference := Int64.toInt_sub time.toInt64 ts64
  have outer := Int.bmod_add_bdiv (time.toInt64.toInt - ts64.toInt) 18446744073709551616
  have inner := Int.bmod_add_bdiv time.toNat 18446744073709551616
  have reference := Int.bmod_add_bdiv ts64.toUInt64.toNat 18446744073709551616
  rw [← value] at inner
  rw [← signed] at reference
  rw [← difference] at outer
  clear value signed difference
  omega

theorem Expands.unique (one : Expands timestamp ts64 first)
    (other : Expands timestamp ts64 second) : first = second := by
  have same := congrArg UInt32.toNat (one.congruent.trans other.congruent.symm)
  simp only [UInt64.toNat_toUInt32] at same
  have distance : (first.toInt64 - ts64).toInt = (second.toInt64 - ts64).toInt := by
    have := distance_emod first ts64
    have := distance_emod second ts64
    have := one.notBefore
    have := one.before
    have := other.notBefore
    have := other.before
    omega
  have both : first.toInt64 - ts64 = second.toInt64 - ts64 := Int64.toInt.inj distance
  have whole : first.toInt64 = second.toInt64 := by grind
  exact congrArg Int64.toUInt64 whole

theorem expand_distance (timestamp : UInt32) (ts64 : Int64) :
    ∃ turns : Int, ((expandTimestampTs64 timestamp ts64).toInt64 - ts64).toInt =
        timestamp.toNat - (ts64.toUInt64.toNat % 4294967296 : Nat) + turns * 4294967296 ∧
      -2147483648 ≤ ((expandTimestampTs64 timestamp ts64).toInt64 - ts64).toInt ∧
      ((expandTimestampTs64 timestamp ts64).toInt64 - ts64).toInt < 2147483648 := by
  have small := timestamp.toNat_lt
  have dtime := dtime_toInt timestamp ts64
  unfold expandTimestampTs64
  generalize timestamp.toUInt64.toInt64 - (ts64 &&& 0xffffffff) = d at *
  dsimp only
  have far := @Int64.lt_iff_toInt_lt 2147483647 d
  have early := @Int64.lt_iff_toInt_lt d (-2147483648)
  have top : (2147483647 : Int64).toInt = 2147483647 := by decide
  have bottom : (-2147483648 : Int64).toInt = -2147483648 := by decide
  have step : (4294967296 : Int64).toInt = 4294967296 := by decide
  split
  case isTrue late =>
    have bound := far.mp late
    have moved : ts64 + (-2147483648) + d - (2147483647 + 1) - ts64 = d - 4294967296 := by grind
    rw [Int64.toInt64_toUInt64, moved, Int64.toInt_sub, step, Int.bmod_eq_of_le] <;> try omega
    exact ⟨-1, by omega⟩
  case isFalse notLate =>
    have above := mt far.mpr notLate
    split
    case isTrue soon =>
      have bound := early.mp soon
      have moved : ts64 + 2147483647 + d - (-2147483648 - 1) - ts64 = d + 4294967296 := by grind
      rw [Int64.toInt64_toUInt64, moved, Int64.toInt_add, step, Int.bmod_eq_of_le] <;> try omega
      exact ⟨1, by omega⟩
    case isFalse notSoon =>
      have below := mt early.mpr notSoon
      have moved : ts64 + d - ts64 = d := by grind
      rw [Int64.toInt64_toUInt64, moved]
      exact ⟨0, by omega⟩

theorem expand_unique (timestamp : UInt32) (ts64 : Int64) :
    Expands timestamp ts64 (expandTimestampTs64 timestamp ts64) ∧
      ∀ time, Expands timestamp ts64 time → time = expandTimestampTs64 timestamp ts64 := by
  have expanded : Expands timestamp ts64 (expandTimestampTs64 timestamp ts64) := by
    obtain ⟨turns, distance, notBefore, before⟩ := expand_distance timestamp ts64
    refine ⟨UInt32.toNat_inj.mp ?_, notBefore, before⟩
    have small := timestamp.toNat_lt
    have residue := distance_emod (expandTimestampTs64 timestamp ts64) ts64
    rw [UInt64.toNat_toUInt32]
    omega
  exact ⟨expanded, fun time expands => expands.unique expanded⟩

end EnetTsn.Clock
