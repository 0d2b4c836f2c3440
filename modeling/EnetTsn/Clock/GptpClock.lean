import EnetTsn.Gptp.Types
import EnetTsn.Library.Binary64
import EnetTsn.Library.Run

namespace EnetTsn.Clock

open EnetTsn.Gptp EnetTsn.Library

inductive PtpclockState where
  | nowork
  | noaccess
  | rdonly
  | rdwr
  deriving DecidableEq, Repr

inductive PtpclockMode where
  | master
  | slaveMain
  | slaveSub
  deriving DecidableEq, Repr

/-- `oneclock_data`; the PTP devices are numbered. -/
structure OneClock where
  ptpdev : Nat
  state : PtpclockState
  mode : PtpclockMode
  offset64 : Int64
  lastSetts64 : Int64
  adjrate : ℚ
  adjvppb : Int32
  deriving DecidableEq

/-- `gptp_clock_ppara`, the part of a domain in the shared memory. -/
structure ClockParameters where
  ptpdev : Option Nat
  offset64 : Int64
  lastSetts64 : Int64
  adjrate : ℚ
  gmchangeInd : UInt32
  deriving DecidableEq

inductive DeviceCommand where
  | setoffset (ptpdev : Nat) (offset64 : Int64)
  | adjtime (ptpdev : Nat) (adjvppb : Int32)
  deriving DecidableEq, Repr

/-- The clocks of one domain by their index, with the `per_domain_data`. -/
structure DomainClock where
  clds : Nat → Option OneClock
  shm : ClockParameters
  gmClockId : ClockIdentity
  weAreGm : Bool
  thisClockIndex : Nat
  thisClockAdjppb : Int32
  /-- The latest one first. -/
  commands : List DeviceCommand

structure GptpClockData where
  maxDomains : Nat
  domains : Nat → DomainClock

/-- What an operation meets: the readings of a device in the order the operation takes
them, whether a device takes a frequency, and a configuration value. -/
structure Environment where
  gettime : Nat → Nat → Int64
  adjtime : Nat → Int32 → Bool
  resetFreqadjBecomegm : Bool

def Environment.after (readings : Nat) (env : Environment) : Environment :=
  { env with gettime := fun ptpdev reading => env.gettime ptpdev (readings + reading) }

/-- The conversion of an `int64_t` to a double. -/
def toDouble (value : Int64) : ℚ := Binary64.round value.toInt

/-- The conversion of a double to an `int64_t`. -/
def ofDouble (value : ℚ) : Int64 := Int64.ofInt (Binary64.truncate value)

def ratePhase (adjrate : ℚ) (elapsed : Int64) : ℚ := Binary64.mul adjrate (toDouble elapsed)

/-- `gptpclock_getts_od` at a reading of the device. -/
def gettsOd (now : Int64) (od : OneClock) : Int64 :=
  let dts64 :=
    if od.adjrate ≠ 0 ∧ od.mode = .slaveSub then ofDouble (ratePhase od.adjrate (now - od.lastSetts64))
    else 0
  now + od.offset64 + dts64

/-- What `gptpclock_setts_offset_od` stores: a clock that is adjusted in hardware has no
offset of its own. -/
def OneClock.setTo (now offset64 : Int64) (od : OneClock) : OneClock :=
  { od with lastSetts64 := now, offset64 := if od.mode = .slaveMain then 0 else offset64 }

def OneClock.inMode (mode : PtpclockMode) (od : OneClock) : OneClock := { od with mode := mode }

def OneClock.inHardware (od : OneClock) : OneClock := { od.inMode .slaveMain with adjrate := 0 }

namespace DomainClock

def update (clock : Nat) (change : OneClock → OneClock) (domain : DomainClock) : DomainClock :=
  { domain with clds := fun index =>
      if index = clock then (domain.clds index).map change else domain.clds index }

def thisClock (domain : DomainClock) : Option OneClock := domain.clds domain.thisClockIndex

/-- `gptpclock_setoffset_od`. -/
def setoffsetOd (clock : Nat) (domain : DomainClock) : DomainClock :=
  match domain.clds clock with
  | none => domain
  | some od =>
    match od.mode with
    | .master =>
      match domain.thisClock with
      | some odt =>
        if clock = 0 then
          { domain with shm := { domain.shm with offset64 := od.offset64 + odt.offset64 } }
        else domain
      | none => domain
    | .slaveSub =>
      match domain.clds 0 with
      | some od0 =>
        if domain.thisClockIndex = clock then
          { domain with shm := { domain.shm with
              lastSetts64 := od.lastSetts64, offset64 := od0.offset64 + od.offset64 } }
        else domain
      | none => domain
    | .slaveMain => domain

/-- `gptpclock_setts_offset_od`. -/
def settsOffsetOd (now offset64 : Int64) (clock : Nat) (domain : DomainClock) : DomainClock :=
  match domain.clds clock with
  | none => domain
  | some od =>
    let stored := domain.update clock (·.setTo now offset64)
    if od.mode = .slaveMain then
      { stored with commands := .setoffset od.ptpdev offset64 :: stored.commands }
    else stored.setoffsetOd clock

/-- `gptpclock_setts_od`. -/
def settsOd (env : Environment) (ts64 : Int64) (clock : Nat) (domain : DomainClock) : DomainClock :=
  match domain.clds clock with
  | none => domain
  | some od =>
    domain.settsOffsetOd (env.gettime od.ptpdev 1) (ts64 - env.gettime od.ptpdev 0) clock

/-- `gptpclock_setoffset64`. -/
def setoffset64 (env : Environment) (offset64 : Int64) (clock : Nat) (domain : DomainClock) :
    DomainClock :=
  match domain.clds clock with
  | none => domain
  | some od =>
    if od.mode = .slaveMain then domain.settsOffsetOd (env.gettime od.ptpdev 0) offset64 clock
    else (domain.update clock fun od => { od with offset64 := offset64 }).setoffsetOd clock

/-- The frequency of a clock and of the shared parameters, at the end of
`gptpclock_setadj`. -/
def storeAdjrate (adjvppb : Int32) (clock : Nat) (domain : DomainClock) : DomainClock :=
  let adjrate := Binary64.div adjvppb.toInt 1000000000
  match domain.clds 0 with
  | none => domain.update clock fun od => { od with adjrate := adjrate }
  | some _ =>
    { domain.update clock fun od => { od with adjrate := adjrate, adjvppb := adjvppb } with
      shm := { domain.shm with adjrate := adjrate } }

/-- `gptpclock_setadj`. -/
def setadj (env : Environment) (adjvppb : Int32) (clock : Nat) (domain : DomainClock) :
    DomainClock :=
  match domain.clds clock with
  | none => domain
  | some od =>
    let noted :=
      if domain.thisClockIndex = clock then { domain with thisClockAdjppb := adjvppb } else domain
    match od.mode with
    | .slaveMain =>
      if env.adjtime od.ptpdev adjvppb then
        { noted.update clock fun od => { od with adjvppb := adjvppb } with
          commands := .adjtime od.ptpdev adjvppb :: noted.commands }
      else noted
    | .master => noted
    | .slaveSub =>
      -- Setting the clock to its own time moves what the old frequency made into the offset.
      let ts := gettsOd (env.gettime od.ptpdev 0) od
      (noted.settsOd (env.after 1) ts clock).storeAdjrate adjvppb clock

/-- `gptpclock_mode_slave_main`, when no other domain uses the clock so. -/
def modeSlaveMain (clock : Nat) (domain : DomainClock) : DomainClock :=
  let main := domain.update clock OneClock.inHardware
  match main.clds 0 with
  | none => main
  | some od0 => { main with shm := { main.shm with adjrate := 0, offset64 := od0.offset64 } }

/-- The end of `gptpclock_set_thisClock`: the offset of the master clock has moved. -/
def clearMaster (clock : Nat) (domain : DomainClock) : DomainClock :=
  match domain.clds clock with
  | none => domain
  | some od =>
    { domain.update 0 fun mod => { mod with offset64 := 0 } with
      shm := { domain.shm with offset64 := 0 + od.offset64 } }

def moveAdjrate (env : Environment) (od : OneClock) (clock : Nat) (domain : DomainClock) :
    DomainClock :=
  if od.adjrate ≠ 0 then
    domain.setadj env (Int32.ofInt (Binary64.truncate (Binary64.mul od.adjrate 1000000000))) clock
  else domain

def moveMaster (env : Environment) (od mod : OneClock) (clock : Nat) (domain : DomainClock) :
    DomainClock :=
  ((domain.moveAdjrate env od clock).setoffset64 (env.after 1) mod.offset64 clock).clearMaster clock

/-- What a clock that becomes `thisClock` as `PTPCLOCK_SLAVE_MAIN` takes over from its
software adjustment and from the master clock. -/
def moveToMain (env : Environment) (od mod : OneClock) (clock : Nat) (domain : DomainClock) :
    DomainClock :=
  let phased :=
    if od.offset64 ≠ 0 then domain.setoffset64 env od.offset64 clock else domain
  phased.moveMaster env od mod clock

/-- `thisClock` becomes `PTPCLOCK_SLAVE_MAIN`. -/
def becomeMain (env : Environment) (od mod : OneClock) (clock : Nat) (setClockPara : Bool)
    (domain : DomainClock) : DomainClock :=
  let main := domain.modeSlaveMain clock
  if setClockPara then main.moveToMain env od mod clock else main

/-- `thisClock` becomes `PTPCLOCK_SLAVE_SUB`. -/
def becomeSub (od mod : OneClock) (clock : Nat) (setClockPara : Bool) (domain : DomainClock) :
    DomainClock :=
  let sub := domain.update clock (·.inMode .slaveSub)
  if setClockPara then
    (sub.update clock fun sub => { sub with
      offset64 := od.offset64 + mod.offset64 }).clearMaster clock
  else sub

/-- `gptpclock_set_thisClock`; the clock is used as `PTPCLOCK_SLAVE_MAIN` in another domain
or not. -/
def setThisClock (env : Environment) (usedElsewhere : Bool) (clock : Nat) (setClockPara : Bool)
    (domain : DomainClock) : DomainClock :=
  if clock = 0 then domain
  else
    match domain.clds clock, domain.clds 0 with
    | some od, some mod =>
      if od.ptpdev ≠ mod.ptpdev then domain
      else
        let chosen := { domain with thisClockIndex := clock }.update 0 (·.inMode .master)
        if od.state = .rdwr ∧ usedElsewhere = false then
          chosen.becomeMain env od mod clock setClockPara
        else chosen.becomeSub od mod clock setClockPara
    | _, _ => domain

/-- `adjust_GM_btw_domains` with the clocks of domain 0. -/
def adjustGM (env : Environment) (domain first : DomainClock) : DomainClock :=
  match first.clds 0, domain.clds 0 with
  | some od, some _ =>
    if first.thisClockIndex ≠ domain.thisClockIndex then
      domain.settsOd (env.after 1) (gettsOd (env.gettime od.ptpdev 0) od) 0
    else
      { domain.update 0 fun od1 => { od1 with adjrate := 0, offset64 := od.offset64 } with
        shm := { domain.shm with adjrate := 0, offset64 := first.shm.offset64 } }
  | _, _ => domain

def becomeGM (env : Environment) (domain first : DomainClock) (index : Nat) : DomainClock :=
  let adjusted := if index ≠ 0 then domain.adjustGM env first else domain
  if env.resetFreqadjBecomegm then adjusted.setadj (env.after 3) 0 adjusted.thisClockIndex
  else adjusted

/-- `gptpclock_set_gmchange`. -/
def setGmchange (env : Environment) (domain first : DomainClock) (index : Nat)
    (gmIdentity : ClockIdentity) (become : Bool) : DomainClock :=
  match domain.clds 0 with
  | none => domain
  | some _ =>
    if domain.gmClockId = gmIdentity then domain
    else
      let changed := { domain with
        gmClockId := gmIdentity
        weAreGm := become
        shm := { domain.shm with gmchangeInd := domain.shm.gmchangeInd + 1 } }
      if become then changed.becomeGM env first index else changed

end DomainClock

namespace GptpClockData

/-- Whether the clock is `PTPCLOCK_SLAVE_MAIN` in another domain. -/
def usedElsewhere (index clock : Nat) (data : GptpClockData) : Bool :=
  (List.range data.maxDomains).any fun other =>
    other != index && ((data.domains other).clds clock).any fun od => od.mode == .slaveMain

def onDomain (index : Nat) (change : DomainClock → DomainClock) (data : GptpClockData) :
    GptpClockData :=
  { data with domains := Function.update data.domains index (change (data.domains index)) }

end GptpClockData

inductive ClockEvent where
  | setoffset64 (offset64 : Int64) (clock domain : Nat)
  | setadj (adjvppb : Int32) (clock domain : Nat)
  | setThisClock (clock domain : Nat) (setClockPara : Bool)
  | setGmchange (domain : Nat) (gmIdentity : ClockIdentity) (become : Bool)

def ClockEvent.perform (env : Environment) (data : GptpClockData) : ClockEvent → GptpClockData
  | .setoffset64 offset64 clock domain => data.onDomain domain (·.setoffset64 env offset64 clock)
  | .setadj adjvppb clock domain => data.onDomain domain (·.setadj env adjvppb clock)
  | .setThisClock clock domain setClockPara =>
    data.onDomain domain (·.setThisClock env (data.usedElsewhere domain clock) clock setClockPara)
  | .setGmchange domain gmIdentity become =>
    data.onDomain domain (·.setGmchange env (data.domains 0) domain gmIdentity become)

/-- A clock as `gptpclock_add_clock` adds it. -/
def OneClock.added (ptpdev : Nat) (state : PtpclockState) : OneClock where
  ptpdev := ptpdev
  state := state
  mode := .master
  offset64 := 0
  lastSetts64 := 0
  adjrate := 0
  adjvppb := 0

def DomainClock.added (clocks : Nat → Option (Nat × PtpclockState)) : DomainClock where
  clds clock := (clocks clock).map fun (ptpdev, state) => OneClock.added ptpdev state
  shm :=
    { ptpdev := (clocks 0).map Prod.fst, offset64 := 0, lastSetts64 := 0, adjrate := 0
      gmchangeInd := if (clocks 0).isSome then 1 else 0 }
  gmClockId := ClockIdentity.fill 0
  weAreGm := false
  thisClockIndex := 0
  thisClockAdjppb := 0
  commands := []

def clockSystem (maxDomains : Nat) (clocks : Nat → Nat → Option (Nat × PtpclockState)) :
    System GptpClockData (Environment × ClockEvent) where
  start := { maxDomains := maxDomains, domains := fun index => DomainClock.added (clocks index) }
  step data event := some (event.2.perform event.1 data)

/-- The time that the shared parameters give at a reading of the device: the correction is
added to it as a double. -/
def ClockParameters.ts64 (now : Int64) (pp : ClockParameters) : Int64 :=
  let ts64 := now + pp.offset64
  if pp.adjrate ≠ 0 then
    ofDouble (Binary64.add (toDouble ts64) (ratePhase pp.adjrate (now - pp.lastSetts64)))
  else ts64

section Time

variable (data : GptpClockData) (instant : Nat → Int64) (index : Nat)

/-- `gptpmasterclock_get_domain_ts64`. -/
def domainTs64 : Option Int64 :=
  let pp := (data.domains index).shm
  if index < data.maxDomains then pp.ptpdev.map fun ptpdev => pp.ts64 (instant ptpdev) else none

/-- `gptpclock_getts64`. -/
def getts64 (clock : Nat) : Option Int64 :=
  ((data.domains index).clds clock).map fun od => gettsOd (instant od.ptpdev) od

/-- The time of the master clock of a domain in `setPSSyncCMSS`: that of `thisClock`, to
which `gptpclock_apply_offset` adds the offset of the master clock. -/
def masterTs64 : Option Int64 :=
  (getts64 data instant index (data.domains index).thisClockIndex).bind fun ts64 =>
    ((data.domains index).clds 0).map fun od0 => ts64 + od0.offset64

end Time

end EnetTsn.Clock
