import EnetTsn.Clock.GptpClock

namespace EnetTsn.Clock

open EnetTsn.Gptp EnetTsn.Library

namespace DomainClock

section Update

variable (clock : Nat) (change : OneClock → OneClock) (domain : DomainClock)

@[simp] theorem update_shm : (domain.update clock change).shm = domain.shm := rfl

@[simp] theorem update_thisClockIndex :
    (domain.update clock change).thisClockIndex = domain.thisClockIndex := rfl

@[simp] theorem update_clds_self :
    (domain.update clock change).clds clock = (domain.clds clock).map change := by
  simp [update]

theorem update_clds_other (other : index ≠ clock) :
    (domain.update clock change).clds index = domain.clds index := by
  simp [update, other]

end Update

/-- The master clock of a domain, and a clock on the same device as `thisClock`. -/
structure Paired (domain : DomainClock) (od0 odt : OneClock) : Prop where
  master : domain.clds 0 = some od0
  this : domain.clds domain.thisClockIndex = some odt
  index : domain.thisClockIndex ≠ 0
  mode0 : od0.mode = .master
  ptpdev : odt.ptpdev = od0.ptpdev
  shared : domain.shm.ptpdev = some od0.ptpdev

/-- `thisClock` is adjusted, in hardware or in software. -/
structure Chosen (domain : DomainClock) (od0 odt : OneClock) : Prop
    extends Paired domain od0 odt where
  mode : odt.mode ≠ .master

structure Agreed (domain : DomainClock) (od0 odt : OneClock) : Prop
    extends Chosen domain od0 odt where
  offset : domain.shm.offset64 = od0.offset64 + odt.offset64
  main : odt.mode = .slaveMain → odt.offset64 = 0 ∧ domain.shm.adjrate = 0
  sub : odt.mode = .slaveSub → domain.shm.adjrate = odt.adjrate ∧
    (odt.adjrate ≠ 0 → domain.shm.lastSetts64 = odt.lastSetts64)

theorem Chosen.congr (chosen : Chosen before od0 odt) (clds : after.clds = before.clds)
    (index : after.thisClockIndex = before.thisClockIndex)
    (shared : after.shm.ptpdev = before.shm.ptpdev) : Chosen after od0 odt where
  master := by
    rw [clds]
    exact chosen.master
  this := by
    rw [clds, index]
    exact chosen.this
  index := by
    rw [index]
    exact chosen.index
  mode0 := chosen.mode0
  mode := chosen.mode
  ptpdev := chosen.ptpdev
  shared := shared.trans chosen.shared

def KeepsMode (change : OneClock → OneClock) : Prop :=
  ∀ od, (change od).mode = od.mode ∧ (change od).ptpdev = od.ptpdev

section Chosen

variable {domain : DomainClock} {od0 odt : OneClock} {change : OneClock → OneClock}

section

variable (chosen : Chosen domain od0 odt)
include chosen

theorem Chosen.updateMaster (keeps : KeepsMode change) :
    Chosen (domain.update 0 change) (change od0) odt where
  master := by simp [chosen.master]
  this := by
    rw [update_thisClockIndex, update_clds_other _ _ _ chosen.index]
    exact chosen.this
  index := chosen.index
  mode0 := (keeps od0).1.trans chosen.mode0
  mode := chosen.mode
  ptpdev := chosen.ptpdev.trans (keeps od0).2.symm
  shared := by
    rw [(keeps od0).2]
    exact chosen.shared

theorem Chosen.updateThis (keeps : KeepsMode change) :
    Chosen (domain.update domain.thisClockIndex change) od0 (change odt) where
  master := by
    rw [update_clds_other _ _ _ chosen.index.symm]
    exact chosen.master
  this := by simp [chosen.this]
  index := chosen.index
  mode0 := chosen.mode0
  mode := by
    rw [(keeps odt).1]
    exact chosen.mode
  ptpdev := (keeps odt).2.trans chosen.ptpdev
  shared := chosen.shared

theorem Chosen.updateOther (notMaster : clock ≠ 0)
    (notThis : clock ≠ domain.thisClockIndex) : Chosen (domain.update clock change) od0 odt :=
  { chosen with
    master := by
      rw [update_clds_other _ _ _ notMaster.symm]
      exact chosen.master
    this := by
      rw [update_thisClockIndex, update_clds_other _ _ _ notThis.symm]
      exact chosen.this }

end

theorem Agreed.updateOther (agreed : Agreed domain od0 odt) (notMaster : clock ≠ 0)
    (notThis : clock ≠ domain.thisClockIndex) : Agreed (domain.update clock change) od0 odt :=
  { agreed with toChosen := agreed.toChosen.updateOther notMaster notThis }

theorem Chosen.slaveSub (chosen : Chosen domain od0 odt) (notMain : odt.mode ≠ .slaveMain) :
    odt.mode = .slaveSub := by
  cases mode : odt.mode with
  | master => exact absurd mode chosen.mode
  | slaveMain => exact absurd mode notMain
  | slaveSub => rfl

theorem Agreed.command (agreed : Agreed domain od0 odt) (commands : List DeviceCommand) :
    Agreed { domain with commands := commands } od0 odt :=
  ⟨agreed.toChosen.congr rfl rfl rfl, agreed.offset, agreed.main, agreed.sub⟩

/-- The master clock and `thisClock` of a domain agree with the shared parameters. -/
def Agrees (domain : DomainClock) : Prop := ∃ od0 odt, Agreed domain od0 odt

end Chosen

section Resync

variable {domain : DomainClock} {od0 odt : OneClock}

private theorem Chosen.setoffsetOd_master (chosen : Chosen domain od0 odt) : domain.setoffsetOd 0 =
      { domain with shm := { domain.shm with offset64 := od0.offset64 + odt.offset64 } } := by
  simp [setoffsetOd, thisClock, chosen.master, chosen.this, chosen.mode0]

theorem Chosen.setoffsetOd_this (chosen : Chosen domain od0 odt) (sub : odt.mode = .slaveSub) :
    domain.setoffsetOd domain.thisClockIndex = { domain with shm := { domain.shm with
          lastSetts64 := odt.lastSetts64, offset64 := od0.offset64 + odt.offset64 } } := by
  simp [setoffsetOd, chosen.master, chosen.this, sub]

private theorem setoffsetOd_other (notMaster : clock ≠ 0) (notThis : clock ≠ domain.thisClockIndex) :
    domain.setoffsetOd clock = domain := by
  unfold setoffsetOd
  split
  · rfl
  · split
    · split
      · exact if_neg notMaster
      · rfl
    · split
      · exact if_neg notThis.symm
      · rfl
    · rfl

theorem Agreed.resyncOther (agreed : Agreed domain od0 odt) (notMaster : clock ≠ 0)
    (notThis : clock ≠ domain.thisClockIndex) :
    Agreed ((domain.update clock change).setoffsetOd clock) od0 odt := by
  have skipped : (domain.update clock change).setoffsetOd clock = domain.update clock change :=
    setoffsetOd_other notMaster notThis
  rw [skipped]
  exact agreed.updateOther notMaster notThis

theorem Chosen.resyncMaster (chosen : Chosen domain od0 odt)
    (main : odt.mode = .slaveMain → odt.offset64 = 0 ∧ domain.shm.adjrate = 0)
    (sub : odt.mode = .slaveSub → domain.shm.adjrate = odt.adjrate ∧
      (odt.adjrate ≠ 0 → domain.shm.lastSetts64 = odt.lastSetts64)) :
    Agreed (domain.setoffsetOd 0) od0 odt := by
  rw [chosen.setoffsetOd_master]
  exact ⟨chosen.congr rfl rfl rfl, rfl, main, sub⟩

/-- `thisClock` has been set, and has the shared frequency. -/
theorem Chosen.resyncThis (chosen : Chosen domain od0 odt) (sub : odt.mode = .slaveSub)
    (rate : domain.shm.adjrate = odt.adjrate) :
    Agreed (domain.setoffsetOd domain.thisClockIndex) od0 odt := by
  rw [chosen.setoffsetOd_this sub]
  refine ⟨chosen.congr rfl rfl rfl, rfl, ?_, fun _ => ⟨rate, fun _ => rfl⟩⟩
  intro main
  rw [sub] at main
  cases main

end Resync

section Operations

variable {domain : DomainClock}

/-- A clock is the master clock, `thisClock` or another one. -/
theorem Chosen.clock_cases (chosen : Chosen domain od0 odt) (found : domain.clds clock = some od) :
    (clock = 0 ∧ od = od0) ∨ (clock = domain.thisClockIndex ∧ od = odt) ∨
      (clock ≠ 0 ∧ clock ≠ domain.thisClockIndex) := by
  by_cases isMaster : clock = 0
  · subst isMaster
    exact Or.inl ⟨rfl, Option.some.inj (found.symm.trans chosen.master)⟩
  · by_cases isThis : clock = domain.thisClockIndex
    · subst isThis
      exact Or.inr (Or.inl ⟨rfl, Option.some.inj (found.symm.trans chosen.this)⟩)
    · exact Or.inr (Or.inr ⟨isMaster, isThis⟩)

theorem agrees_settsOffsetOd (now offset64 : Int64) (clock : Nat) (agrees : Agrees domain) :
    Agrees (domain.settsOffsetOd now offset64 clock) := by
  obtain ⟨od0, odt, agreed⟩ := agrees
  unfold settsOffsetOd
  split
  · exact ⟨od0, odt, agreed⟩
  · rename_i od found
    have keeps : KeepsMode (·.setTo now offset64) := fun _ => ⟨rfl, rfl⟩
    rcases agreed.clock_cases found with ⟨rfl, rfl⟩ | ⟨rfl, rfl⟩ | ⟨notMaster, notThis⟩
    · rw [if_neg (by simp [agreed.mode0])]
      exact ⟨_, odt, (agreed.updateMaster keeps).resyncMaster agreed.main agreed.sub⟩
    · have stored := agreed.updateThis keeps
      split
      · rename_i main
        refine ⟨od0, _, Agreed.command ⟨stored, ?_, ?_, ?_⟩ _⟩
        · have before := agreed.offset
          rw [(agreed.main main).1] at before
          simp [OneClock.setTo, main, before]
        · exact fun _ => ⟨by simp [OneClock.setTo, main], (agreed.main main).2⟩
        · intro sub
          have conflict : PtpclockMode.slaveMain = .slaveSub := main.symm.trans sub
          cases conflict
      · rename_i notMain
        have sub := agreed.slaveSub notMain
        exact ⟨od0, _, stored.resyncThis sub (agreed.sub sub).1⟩
    · split
      · exact ⟨od0, odt, (agreed.updateOther notMaster notThis).command _⟩
      · exact ⟨od0, odt, agreed.resyncOther notMaster notThis⟩

private theorem agrees_settsOd (env : Environment) (ts64 : Int64) (clock : Nat) (agrees : Agrees domain) :
    Agrees (domain.settsOd env ts64 clock) := by
  unfold settsOd
  split
  · exact agrees
  · exact agrees_settsOffsetOd _ _ _ agrees

theorem agrees_setoffset64 (env : Environment) (offset64 : Int64) (clock : Nat)
    (agrees : Agrees domain) : Agrees (domain.setoffset64 env offset64 clock) := by
  unfold setoffset64
  split
  · exact agrees
  · rename_i od found
    split
    · exact agrees_settsOffsetOd _ _ _ agrees
    · rename_i notMain
      obtain ⟨od0, odt, agreed⟩ := agrees
      have keeps : KeepsMode fun od => { od with offset64 := offset64 } := fun _ => ⟨rfl, rfl⟩
      rcases agreed.clock_cases found with ⟨rfl, rfl⟩ | ⟨rfl, rfl⟩ | ⟨notMaster, notThis⟩
      · exact ⟨_, odt, (agreed.updateMaster keeps).resyncMaster agreed.main agreed.sub⟩
      · have sub := agreed.slaveSub notMain
        exact ⟨od0, _, (agreed.updateThis keeps).resyncThis sub (agreed.sub sub).1⟩
      · exact ⟨od0, odt, agreed.resyncOther notMaster notThis⟩

/-- The shared offset and reference time are those of `thisClock`, which is adjusted in
software; nothing is said of the frequency. -/
structure Based (domain : DomainClock) (od0 odt : OneClock) : Prop
    extends Chosen domain od0 odt where
  sub : odt.mode = .slaveSub
  offset : domain.shm.offset64 = od0.offset64 + odt.offset64
  lastSetts : domain.shm.lastSetts64 = odt.lastSetts64

theorem Chosen.based_settsOd (chosen : Chosen domain od0 odt) (sub : odt.mode = .slaveSub)
    (env : Environment) (ts64 : Int64) : ∃ odt,
      Based (domain.settsOd env ts64 domain.thisClockIndex) od0 odt ∧
        (domain.settsOd env ts64 domain.thisClockIndex).thisClockIndex = domain.thisClockIndex := by
  have keeps : KeepsMode (·.setTo (env.gettime odt.ptpdev 1) (ts64 - env.gettime odt.ptpdev 0)) :=
    fun _ => ⟨rfl, rfl⟩
  have stored := chosen.updateThis keeps
  have resynced := stored.setoffsetOd_this sub
  have notMain : ¬ odt.mode = .slaveMain := by simp [sub]
  have set : domain.settsOd env ts64 domain.thisClockIndex =
      (domain.update domain.thisClockIndex (·.setTo (env.gettime odt.ptpdev 1)
        (ts64 - env.gettime odt.ptpdev 0))).setoffsetOd domain.thisClockIndex := by
    simp only [settsOd, settsOffsetOd, chosen.this, if_neg notMain]
  rw [set]
  rw [update_thisClockIndex] at resynced
  rw [resynced]
  exact ⟨_, ⟨stored.congr rfl rfl rfl, sub, rfl, rfl⟩, rfl⟩

theorem Based.storeAdjrate (based : Based domain od0 odt) (adjvppb : Int32) :
    Agrees (domain.storeAdjrate adjvppb domain.thisClockIndex) := by
  have keeps : KeepsMode fun od => { od with
      adjrate := Binary64.div adjvppb.toInt 1000000000, adjvppb := adjvppb } := fun _ => ⟨rfl, rfl⟩
  have stored := based.updateThis keeps
  simp only [DomainClock.storeAdjrate, based.master]
  refine ⟨od0, _, stored.congr rfl rfl rfl, based.offset, ?_, fun _ => ⟨rfl, fun _ => based.lastSetts⟩⟩
  intro main
  have sub : PtpclockMode.slaveMain = .slaveSub := main.symm.trans based.sub
  cases sub

/-- Setting the frequency of `thisClock` in software makes the parameters agree, whatever
they were. -/
theorem Chosen.setadj_sub (chosen : Chosen domain od0 odt) (sub : odt.mode = .slaveSub)
    (env : Environment) (adjvppb : Int32) :
    Agrees (domain.setadj env adjvppb domain.thisClockIndex) := by
  have noted : Chosen { domain with thisClockAdjppb := adjvppb } od0 odt := chosen.congr rfl rfl rfl
  obtain ⟨after, based, same⟩ :=
    noted.based_settsOd sub (env.after 1) (gettsOd (env.gettime odt.ptpdev 0) odt)
  have agrees := based.storeAdjrate adjvppb
  rw [same] at agrees
  simp only [setadj, chosen.this, sub, if_true]
  exact agrees

private theorem Agreed.updateAdjvppb (agreed : Agreed domain od0 odt) (adjvppb : Int32) (clock : Nat) :
    Agrees (domain.update clock fun od => { od with adjvppb := adjvppb }) := by
  have keeps : KeepsMode fun od => { od with adjvppb := adjvppb } := fun _ => ⟨rfl, rfl⟩
  by_cases isMaster : clock = 0
  · subst isMaster
    exact ⟨_, odt, agreed.updateMaster keeps, agreed.offset, agreed.main, agreed.sub⟩
  · by_cases isThis : clock = domain.thisClockIndex
    · subst isThis
      exact ⟨od0, _, agreed.updateThis keeps, agreed.offset, agreed.main, agreed.sub⟩
    · exact ⟨od0, odt, agreed.updateOther isMaster isThis⟩

theorem agrees_setadj (env : Environment) (adjvppb : Int32) (clock : Nat) (agrees : Agrees domain)
    (permitted : ∀ od, domain.clds clock = some od → od.mode = .slaveSub →
      domain.thisClockIndex = clock) : Agrees (domain.setadj env adjvppb clock) := by
  obtain ⟨od0, odt, agreed⟩ := agrees
  have noting (thisClockAdjppb : Int32) :
      Agreed { domain with thisClockAdjppb := thisClockAdjppb } od0 odt :=
    ⟨agreed.toChosen.congr rfl rfl rfl, agreed.offset, agreed.main, agreed.sub⟩
  have noted : Agreed (if domain.thisClockIndex = clock then
      { domain with thisClockAdjppb := adjvppb } else domain) od0 odt := by
    split
    · exact noting adjvppb
    · exact agreed
  cases found : domain.clds clock with
  | none =>
    simp only [setadj, found]
    exact ⟨od0, odt, agreed⟩
  | some od =>
    cases mode : od.mode with
    | master =>
      simp only [setadj, found, mode]
      exact ⟨od0, odt, noted⟩
    | slaveSub =>
      obtain rfl := permitted od found mode
      obtain rfl := Option.some.inj (found.symm.trans agreed.this)
      exact agreed.setadj_sub mode env adjvppb
    | slaveMain =>
      simp only [setadj, found, mode]
      split
      · obtain ⟨od0, odt, stored⟩ := noted.updateAdjvppb adjvppb clock
        exact ⟨od0, odt, stored.command _⟩
      · exact ⟨od0, odt, noted⟩

end Operations

def Wired (domain : DomainClock) : Prop :=
  ∀ mod, domain.clds 0 = some mod → mod.mode = .master ∧ domain.shm.ptpdev = some mod.ptpdev

/-- A relation of a domain before and after that the parts of the operations keep: changing a clock
but its mode and device, and changing other parameters than the clocks, the choice of one and the
shared device. -/
structure Frame (R : DomainClock → DomainClock → Prop) : Prop where
  refl (domain : DomainClock) : R domain domain
  trans {before middle after : DomainClock} : R before middle → R middle after → R before after
  parameters {before after : DomainClock} : after.clds = before.clds →
    after.thisClockIndex = before.thisClockIndex → after.shm.ptpdev = before.shm.ptpdev →
    R before after
  update {change : OneClock → OneClock} : KeepsMode change → ∀ (clock : Nat) (domain : DomainClock),
    R domain (domain.update clock change)

section Frame

variable {R : DomainClock → DomainClock → Prop}

variable (frame : Frame R)
include frame

theorem Frame.setoffsetOd (clock : Nat) (domain : DomainClock) :
    R domain (domain.setoffsetOd clock) := by
  unfold DomainClock.setoffsetOd
  split
  · exact frame.refl domain
  · split
    · split
      · split
        · exact frame.parameters rfl rfl rfl
        · exact frame.refl domain
      · exact frame.refl domain
    · split
      · split
        · exact frame.parameters rfl rfl rfl
        · exact frame.refl domain
      · exact frame.refl domain
    · exact frame.refl domain

theorem Frame.settsOffsetOd (now offset64 : Int64) (clock : Nat) (domain : DomainClock) :
    R domain (domain.settsOffsetOd now offset64 clock) := by
  have keeps : KeepsMode (·.setTo now offset64) := fun _ => ⟨rfl, rfl⟩
  have stored := frame.update keeps clock domain
  unfold DomainClock.settsOffsetOd
  split
  · exact frame.refl domain
  · split
    · exact frame.trans stored (frame.parameters rfl rfl rfl)
    · exact frame.trans stored (frame.setoffsetOd clock _)

variable (env : Environment)

theorem Frame.settsOd (ts64 : Int64) (clock : Nat) (domain : DomainClock) :
    R domain (domain.settsOd env ts64 clock) := by
  unfold DomainClock.settsOd
  split
  · exact frame.refl domain
  · exact frame.settsOffsetOd _ _ _ _

theorem Frame.setoffset64 (offset64 : Int64) (clock : Nat)
    (domain : DomainClock) : R domain (domain.setoffset64 env offset64 clock) := by
  have keeps : KeepsMode fun od => { od with offset64 := offset64 } := fun _ => ⟨rfl, rfl⟩
  unfold DomainClock.setoffset64
  split
  · exact frame.refl domain
  · split
    · exact frame.settsOffsetOd _ _ _ _
    · exact frame.trans (frame.update keeps clock domain) (frame.setoffsetOd clock _)

theorem Frame.storeAdjrate (adjvppb : Int32) (clock : Nat) (domain : DomainClock) :
    R domain (domain.storeAdjrate adjvppb clock) := by
  unfold DomainClock.storeAdjrate
  split
  · have keeps : KeepsMode fun od => { od with
        adjrate := Binary64.div adjvppb.toInt 1000000000 } := fun _ => ⟨rfl, rfl⟩
    exact frame.update keeps clock domain
  · have keeps : KeepsMode fun od => { od with
        adjrate := Binary64.div adjvppb.toInt 1000000000, adjvppb := adjvppb } :=
      fun _ => ⟨rfl, rfl⟩
    exact frame.trans (frame.update keeps clock domain) (frame.parameters rfl rfl rfl)

theorem Frame.setadj (adjvppb : Int32) (clock : Nat) (domain : DomainClock) :
    R domain (domain.setadj env adjvppb clock) := by
  have noted : R domain (if domain.thisClockIndex = clock then
      { domain with thisClockAdjppb := adjvppb } else domain) := by
    split
    · exact frame.parameters rfl rfl rfl
    · exact frame.refl domain
  have keeps : KeepsMode fun od => { od with adjvppb := adjvppb } := fun _ => ⟨rfl, rfl⟩
  unfold DomainClock.setadj
  split
  · exact frame.refl domain
  · dsimp only
    split
    · split
      · have stored := frame.trans noted (frame.update keeps clock _)
        exact frame.trans stored (frame.parameters rfl rfl rfl)
      · exact noted
    · exact noted
    · exact frame.trans (frame.trans noted (frame.settsOd _ _ _ _)) (frame.storeAdjrate _ _ _)

theorem Frame.adjustGM (domain first : DomainClock) : R domain (domain.adjustGM env first) := by
  unfold DomainClock.adjustGM
  split
  · rename_i od _ _ _
    have keeps : KeepsMode fun od1 => { od1 with adjrate := 0, offset64 := od.offset64 } :=
      fun _ => ⟨rfl, rfl⟩
    split
    · exact frame.settsOd _ _ _ _
    · exact frame.trans (frame.update keeps 0 domain) (frame.parameters rfl rfl rfl)
  · exact frame.refl domain

theorem Frame.becomeGM (domain first : DomainClock) (index : Nat) :
    R domain (domain.becomeGM env first index) := by
  have adjusted : R domain (if index ≠ 0 then domain.adjustGM env first else domain) := by
    split
    · exact frame.adjustGM env domain first
    · exact frame.refl domain
  unfold DomainClock.becomeGM
  dsimp only
  split
  · exact frame.trans adjusted (frame.setadj _ _ _ _)
  · exact adjusted

theorem Frame.setGmchange (domain first : DomainClock) (index : Nat)
    (gmIdentity : ClockIdentity) (become : Bool) :
    R domain (domain.setGmchange env first index gmIdentity become) := by
  have changed : R domain { domain with
      gmClockId := gmIdentity
      weAreGm := become
      shm := { domain.shm with gmchangeInd := domain.shm.gmchangeInd + 1 } } :=
    frame.parameters rfl rfl rfl
  unfold DomainClock.setGmchange
  split
  · exact frame.refl domain
  · split
    · exact frame.refl domain
    · split
      · exact frame.trans changed (frame.becomeGM _ _ _ _)
      · exact changed

end Frame

structure Kept (before after : DomainClock) : Prop where
  index : after.thisClockIndex = before.thisClockIndex
  wired : Wired before → Wired after

section Kept

variable {before middle after : DomainClock}

theorem Kept.refl (domain : DomainClock) : Kept domain domain := ⟨rfl, id⟩

theorem Kept.trans (first : Kept before middle) (second : Kept middle after) : Kept before after :=
  ⟨second.index.trans first.index, second.wired ∘ first.wired⟩

private theorem kept_of_parameters (clds : after.clds = before.clds)
    (index : after.thisClockIndex = before.thisClockIndex)
    (ptpdev : after.shm.ptpdev = before.shm.ptpdev) : Kept before after := by
  refine ⟨index, fun wired mod found => ?_⟩
  rw [clds] at found
  rw [ptpdev]
  exact wired mod found

private theorem kept_update (keeps : KeepsMode change) (clock : Nat) (domain : DomainClock) :
    Kept domain (domain.update clock change) := by
  refine ⟨rfl, fun wired mod found => ?_⟩
  by_cases isMaster : 0 = clock
  · subst isMaster
    obtain ⟨before, master, rfl⟩ := Option.map_eq_some_iff.mp found
    rw [(keeps before).1, (keeps before).2]
    exact wired before master
  · rw [update_clds_other _ _ _ isMaster] at found
    exact wired mod found

theorem frame_kept : Frame Kept where
  refl := Kept.refl
  trans := Kept.trans
  parameters := kept_of_parameters
  update := kept_update

end Kept

section Choose

variable {domain : DomainClock} {od mod : OneClock}

/-- `thisClock` is told how it is adjusted. -/
theorem Paired.choose (paired : Paired domain od0 odt) (change : OneClock → OneClock)
    (follows : (change odt).mode ≠ .master) (device : (change odt).ptpdev = odt.ptpdev) :
    Chosen (domain.update domain.thisClockIndex change) od0 (change odt) where
  master := by
    rw [update_clds_other _ _ _ paired.index.symm]
    exact paired.master
  this := by simp [paired.this]
  index := paired.index
  mode0 := paired.mode0
  mode := follows
  ptpdev := device.trans paired.ptpdev
  shared := paired.shared

theorem Chosen.agrees_clearMaster (chosen : Chosen domain od0 odt)
    (main : odt.mode = .slaveMain → odt.offset64 = 0 ∧ domain.shm.adjrate = 0)
    (sub : odt.mode = .slaveSub → domain.shm.adjrate = odt.adjrate ∧
      (odt.adjrate ≠ 0 → domain.shm.lastSetts64 = odt.lastSetts64)) :
    Agrees (domain.clearMaster domain.thisClockIndex) := by
  have keeps : KeepsMode fun mod => { mod with offset64 := 0 } := fun _ => ⟨rfl, rfl⟩
  have cleared := chosen.updateMaster keeps
  simp only [clearMaster, chosen.this]
  exact ⟨_, odt, cleared.congr rfl rfl rfl, rfl, main, sub⟩

theorem Chosen.setoffset64_main (chosen : Chosen domain od0 odt) (main : odt.mode = .slaveMain)
    (offset : domain.shm.offset64 = od0.offset64) (rate : domain.shm.adjrate = 0)
    (env : Environment) (offset64 : Int64) :
    Agrees (domain.setoffset64 env offset64 domain.thisClockIndex) := by
  have keeps : KeepsMode (·.setTo (env.gettime odt.ptpdev 0) offset64) := fun _ => ⟨rfl, rfl⟩
  have stored := chosen.updateThis keeps
  simp only [setoffset64, settsOffsetOd, chosen.this, main, if_true]
  have none : (odt.setTo (env.gettime odt.ptpdev 0) offset64).offset64 = 0 := if_pos main
  refine ⟨od0, _, Agreed.command ⟨stored, ?_, fun _ => ⟨none, rate⟩, ?_⟩ _⟩
  · rw [none]
    simpa using offset
  · intro sub
    have conflict : PtpclockMode.slaveMain = .slaveSub := main.symm.trans sub
    cases conflict

theorem agrees_clearMaster (agrees : Agrees domain) :
    Agrees (domain.clearMaster domain.thisClockIndex) := by
  obtain ⟨od0, odt, agreed⟩ := agrees
  exact agreed.agrees_clearMaster agreed.main agreed.sub

variable (env : Environment)

/-- The frequency and the offset of the master clock are moved to `thisClock`. -/
theorem agrees_moveMaster (agrees : Agrees domain) (od mod : OneClock) :
    Agrees (domain.moveMaster env od mod domain.thisClockIndex) := by
  have rated : Agrees (domain.moveAdjrate env od domain.thisClockIndex) := by
    unfold moveAdjrate
    split
    · exact agrees_setadj env _ _ agrees fun _ _ _ => rfl
    · exact agrees
  have kept : Kept domain (domain.moveAdjrate env od domain.thisClockIndex) := by
    unfold moveAdjrate
    split
    · exact frame_kept.setadj _ _ _ _
    · exact .refl domain
  have index := (kept.trans (frame_kept.setoffset64 (env.after 1) mod.offset64
    domain.thisClockIndex _)).index
  have phased := agrees_clearMaster (agrees_setoffset64 (env.after 1) mod.offset64
    domain.thisClockIndex rated)
  rw [index] at phased
  exact phased

theorem agrees_moveToMain (chosen : Chosen domain od0 odt)
    (main : odt.mode = .slaveMain) (offset : domain.shm.offset64 = od0.offset64)
    (rate : domain.shm.adjrate = 0) (same : odt.offset64 = od.offset64) (mod : OneClock) :
    Agrees (domain.moveToMain env od mod domain.thisClockIndex) := by
  have phased : Agrees (if od.offset64 ≠ 0 then
      domain.setoffset64 env od.offset64 domain.thisClockIndex else domain) := by
    split
    · exact chosen.setoffset64_main main offset rate env _
    · rename_i unset
      have none : odt.offset64 = 0 := same.trans (not_not.mp unset)
      refine ⟨od0, odt, chosen, ?_, fun _ => ⟨none, rate⟩, ?_⟩
      · rw [none]
        simpa using offset
      · intro sub
        rw [main] at sub
        cases sub
  have index : (if od.offset64 ≠ 0 then
      domain.setoffset64 env od.offset64 domain.thisClockIndex else domain).thisClockIndex =
      domain.thisClockIndex := by
    split
    · exact (frame_kept.setoffset64 _ _ _ _).index
    · rfl
  have moved := agrees_moveMaster env phased od mod
  rw [index] at moved
  exact moved

/-- What is asked before a clock becomes `thisClock`: in hardware, that it has no offset of
its own unless that is moved; in software, that the shared frequency and reference time are
already its own, and the shared offset unless that is computed anew. -/
def Choosable (usedElsewhere : Bool) (clock : Nat) (setClockPara : Bool) (domain : DomainClock) :
    Prop :=
  clock ≠ 0 → ∀ od ∈ domain.clds clock, ∀ mod ∈ domain.clds 0, od.ptpdev = mod.ptpdev →
    if od.state = .rdwr ∧ usedElsewhere = false then setClockPara = true ∨ od.offset64 = 0
    else
      domain.shm.adjrate = od.adjrate ∧
        (od.adjrate ≠ 0 → domain.shm.lastSetts64 = od.lastSetts64) ∧
        (setClockPara = true ∨ domain.shm.offset64 = mod.offset64 + od.offset64)

theorem agrees_becomeMain (paired : Paired domain mod od)
    (setClockPara : Bool) (moved : setClockPara = true ∨ od.offset64 = 0) :
    Agrees (domain.becomeMain env od mod domain.thisClockIndex setClockPara) := by
  have chosen := paired.choose OneClock.inHardware (nomatch ·) rfl
  have entered : domain.modeSlaveMain domain.thisClockIndex =
      { domain.update domain.thisClockIndex OneClock.inHardware with
        shm := { domain.shm with adjrate := 0, offset64 := mod.offset64 } } := by
    simp only [modeSlaveMain, chosen.master, update_shm]
  simp only [becomeMain, entered]
  split
  · have kept : Chosen { domain.update domain.thisClockIndex OneClock.inHardware with
        shm := { domain.shm with adjrate := 0, offset64 := mod.offset64 } } mod od.inHardware :=
      chosen.congr rfl rfl rfl
    have offset : od.inHardware.offset64 = od.offset64 := rfl
    exact agrees_moveToMain env kept rfl rfl rfl offset mod
  · rename_i unset
    have none : od.offset64 = 0 := moved.resolve_left unset
    refine ⟨mod, _, chosen.congr rfl rfl rfl, ?_, fun _ => ⟨none, rfl⟩, (nomatch ·)⟩
    have offset : mod.offset64 = mod.offset64 + od.offset64 := by simp [none]
    exact offset

theorem agrees_becomeSub (paired : Paired domain mod od) (setClockPara : Bool)
    (rate : domain.shm.adjrate = od.adjrate)
    (lastSetts : od.adjrate ≠ 0 → domain.shm.lastSetts64 = od.lastSetts64)
    (offset : setClockPara = true ∨ domain.shm.offset64 = mod.offset64 + od.offset64) :
    Agrees (domain.becomeSub od mod domain.thisClockIndex setClockPara) := by
  have chosen := paired.choose (·.inMode .slaveSub) (nomatch ·) rfl
  unfold becomeSub
  split
  · have keeps : KeepsMode fun sub => { sub with offset64 := od.offset64 + mod.offset64 } :=
      fun _ => ⟨rfl, rfl⟩
    exact (chosen.updateThis keeps).agrees_clearMaster (nomatch ·) fun _ => ⟨rate, lastSetts⟩
  · rename_i unset
    exact ⟨mod, _, chosen, offset.resolve_left unset, (nomatch ·), fun _ => ⟨rate, lastSetts⟩⟩

theorem setThisClock_cases (usedElsewhere : Bool) (clock : Nat)
    (setClockPara : Bool) (domain : DomainClock) (wired : Wired domain)
    (choosable : Choosable usedElsewhere clock setClockPara domain) :
    domain.setThisClock env usedElsewhere clock setClockPara = domain ∨
      Agrees (domain.setThisClock env usedElsewhere clock setClockPara) := by
  unfold setThisClock
  split
  · exact Or.inl rfl
  · rename_i notMaster
    split
    · rename_i od mod found stored
      split
      · exact Or.inl rfl
      · rename_i sameDevice
        have ptpdev := not_not.mp sameDevice
        have permitted := choosable notMaster od found mod stored ptpdev
        have paired : Paired ({ domain with thisClockIndex := clock }.update 0 (·.inMode .master))
            mod od := by
          obtain ⟨master, shared⟩ := wired mod stored
          have same : mod.inMode .master = mod := by
            rw [← master]
            rfl
          refine ⟨?_, ?_, notMaster, master, ptpdev, shared⟩
          · simp [stored, same]
          · rw [update_thisClockIndex, update_clds_other _ _ _ notMaster]
            exact found
        right
        split
        · rename_i hardware
          rw [if_pos hardware] at permitted
          exact agrees_becomeMain env paired setClockPara permitted
        · rename_i software
          rw [if_neg software] at permitted
          obtain ⟨rate, lastSetts, offset⟩ := permitted
          exact agrees_becomeSub paired setClockPara rate lastSetts offset
    · exact Or.inl rfl

end Choose

section Takeover

variable {domain first : DomainClock}

/-- What is asked before a domain takes the time of domain 0 over from a master clock with
the same `thisClock`: that its own `thisClock` is then set anew in software, or has no
frequency of its own and that the offset it keeps is that of domain 0. -/
def Takable (env : Environment) (domain first : DomainClock) : Prop :=
  first.thisClockIndex = domain.thisClockIndex →
    ∀ od ∈ first.clds 0, ∀ odt ∈ domain.clds domain.thisClockIndex,
      (env.resetFreqadjBecomegm = true ∧ odt.mode = .slaveSub) ∨
        ((odt.mode = .slaveSub → odt.adjrate = 0) ∧
          first.shm.offset64 = od.offset64 + odt.offset64)

variable (env : Environment)

private theorem adjustGM_cases (domain first : DomainClock) : domain.adjustGM env first = domain ∨
      (∃ ts64, domain.adjustGM env first = domain.settsOd (env.after 1) ts64 0) ∨
      ∃ od, first.clds 0 = some od ∧ first.thisClockIndex = domain.thisClockIndex ∧
        domain.adjustGM env first =
          { domain.update 0 fun od1 => { od1 with adjrate := 0, offset64 := od.offset64 } with
            shm := { domain.shm with adjrate := 0, offset64 := first.shm.offset64 } } := by
  unfold adjustGM
  split
  · rename_i od _ found _
    split
    · exact Or.inr (Or.inl ⟨_, rfl⟩)
    · rename_i same
      exact Or.inr (Or.inr ⟨od, found, not_not.mp same, rfl⟩)
  · exact Or.inl rfl

theorem agrees_becomeGM (index : Nat) (agrees : Agrees domain)
    (takable : index ≠ 0 → Takable env domain first) :
    Agrees (domain.becomeGM env first index) := by
  have finish (adjusted : DomainClock) (agrees : Agrees adjusted) :
      Agrees (if env.resetFreqadjBecomegm then
        adjusted.setadj (env.after 3) 0 adjusted.thisClockIndex else adjusted) := by
    split
    · exact agrees_setadj _ _ _ agrees fun _ _ _ => rfl
    · exact agrees
  by_cases other : index ≠ 0
  · simp only [becomeGM, if_pos other]
    rcases adjustGM_cases env domain first with same | ⟨ts64, set⟩ | ⟨od, found, same, taken⟩
    · rw [same]
      exact finish domain agrees
    · rw [set]
      exact finish _ (agrees_settsOd _ _ _ agrees)
    · obtain ⟨od0, odt, agreed⟩ := agrees
      have keeps : KeepsMode fun od1 => { od1 with adjrate := 0, offset64 := od.offset64 } :=
        fun _ => ⟨rfl, rfl⟩
      have stored := agreed.updateMaster keeps
      have copied : Chosen
          { domain.update 0 fun od1 => { od1 with adjrate := 0, offset64 := od.offset64 } with
            shm := { domain.shm with adjrate := 0, offset64 := first.shm.offset64 } } _ odt :=
        stored.congr rfl rfl rfl
      rw [taken]
      rcases takable other same od found odt agreed.this with ⟨reset, sub⟩ | ⟨none, offset⟩
      · rw [if_pos reset]
        exact copied.setadj_sub sub _ _
      · refine finish _ ⟨_, odt, copied, offset, ?_, ?_⟩
        · exact fun main => ⟨(agreed.main main).1, rfl⟩
        · exact fun sub => ⟨(none sub).symm, fun rated => absurd (none sub) rated⟩
  · simp only [becomeGM, if_neg other]
    exact finish domain agrees

theorem agrees_setGmchange (index : Nat) (gmIdentity : ClockIdentity)
    (become : Bool) (agrees : Agrees domain)
    (takable : become = true → index ≠ 0 → domain.gmClockId ≠ gmIdentity →
      Takable env domain first) :
    Agrees (domain.setGmchange env first index gmIdentity become) := by
  obtain ⟨od0, odt, agreed⟩ := agrees
  have changed : Agreed { domain with
      gmClockId := gmIdentity
      weAreGm := become
      shm := { domain.shm with gmchangeInd := domain.shm.gmchangeInd + 1 } } od0 odt :=
    ⟨agreed.congr rfl rfl rfl, agreed.offset, agreed.main, agreed.sub⟩
  unfold setGmchange
  split
  · exact ⟨od0, odt, agreed⟩
  · split
    · exact ⟨od0, odt, agreed⟩
    · rename_i other
      split
      · rename_i becomes
        exact agrees_becomeGM env index ⟨od0, odt, changed⟩
          fun another => takable becomes another other
      · exact ⟨od0, odt, changed⟩

end Takeover

end DomainClock

end EnetTsn.Clock
