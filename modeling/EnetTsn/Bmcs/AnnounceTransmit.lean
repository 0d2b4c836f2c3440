import EnetTsn.Bmcs.AnnounceInformation

namespace EnetTsn.Bmcs

open EnetTsn.Gptp EnetTsn.Library

/-- The flag bits `txAnnounce` ors into the octet it reuses. -/
def TimeProperties.setFlags (properties : TimeProperties) (octet : UInt8) : UInt8 :=
  octet ||| (if properties.leap61 then 0x01 else 0)
    ||| (if properties.leap59 then 0x02 else 0)
    ||| (if properties.currentUtcOffsetValid then 0x04 else 0)
    ||| (if properties.ptpTimescale then 0x08 else 0)
    ||| (if properties.timeTraceable then 0x10 else 0)
    ||| (if properties.frequencyTraceable then 0x20 else 0)

def identityBytes (identities : Nat → ClockIdentity) : Nat → UInt8 :=
  fun index => (identities (index / 8)).get ⟨index % 8, Nat.mod_lt _ (by omega)⟩

/-- `txAnnounce`, over the structure of the previous transmission. -/
def txAnnounce (view : InstanceView) (port : Port) : PTPMsgAnnounce :=
  let previous := port.patransd.announceTx
  let identity := port.bppg.masterPriority.rootSystemIdentity
  let count := view.bptasg.pathTraceCount.toNat
  let fits := count ≤ maxPathTraceN
  let tlvLength : UInt16 := if fits then UInt16.ofNat (8 * count) else 0
  { header := { previous.header with
      sequenceId := previous.header.sequenceId + 1
      flags := (previous.header.flags.1,
        TimeProperties.setFlags view.bptasg.current previous.header.flags.2) }
    currentUtcOffset := view.bptasg.current.currentUtcOffset
    grandmasterPriority1 := identity.priority1
    grandmasterClockQuality :=
      { clockClass := identity.clockClass
        clockAccuracy := identity.clockAccuracy
        offsetScaledLogVariance := identity.offsetScaledLogVariance }
    grandmasterPriority2 := identity.priority2
    grandmasterIdentity := identity.clockIdentity
    stepsRemoved := view.bptasg.masterStepsRemoved
    timeSource := view.bptasg.current.timeSource
    tlvType := 0x8
    tlvLength := tlvLength
    pathSequence := if fits then
        memcpy previous.pathSequence (identityBytes view.bptasg.pathTrace) tlvLength.toNat
      else previous.pathSequence }

namespace AnnounceTransmit

def moveTo (state : AnnounceTransmitState) (port : Port) : Port :=
  { port with patransd := { port.patransd with state := state } }

def allstateCondition (view : InstanceView) (port : Port) : AnnounceTransmitState :=
  if view.ptasg.BEGIN || !view.ptasg.instanceEnable || !port.ppg.asCapable then .transmitInit
  else if port.bppg.currentLogAnnounceInterval = 127 then .transmitInit
  else port.patransd.state

def transmitInitProc (port : Port) : Port :=
  { port with
    bppg := { port.bppg with newInfo := true, announceSlowdown := false }
    patransd := { port.patransd with numberAnnounceTransmissions := 0 } }

def transmitInitCondition (port : Port) : AnnounceTransmitState :=
  if port.bppg.currentLogAnnounceInterval = 127 then .transmitInit else .idle

def transmitPeriodicProc (port : Port) : Port :=
  { port with bppg := { port.bppg with
    newInfo := port.bppg.newInfo || port.selectedState == .masterPort } }

def idleProc (cts64 : UInt64) (port : Port) : Port :=
  { port with patransd := { port.patransd with
    announceSendTime := cts64 + port.patransd.interval2 } }

def idleCondition (view : InstanceView) (cts64 : UInt64) (port : Port) : AnnounceTransmitState :=
  let settled := port.selected && !port.bppg.updtInfo
  if port.bppg.newInfo && port.selectedState == .masterPort &&
      decide (cts64 < port.patransd.announceSendTime) &&
      (settled || view.bptasg.externalPortConfiguration == 1) &&
      !port.ppg.asymmetryMeasurementMode then .transmitAnnounce
  else if decide (port.patransd.announceSendTime ≤ cts64) &&
      (settled || view.bptasg.externalPortConfiguration == valueDisabled) then .transmitPeriodic
  else port.patransd.state

/-- The interval of the next transmission. During a slowdown the machine takes
`oldAnnounceInterval` of `PerPortGlobal`, not the one of `BmcsPerPortGlobal`. -/
def nextInterval (port : Port) : Port :=
  if port.bppg.announceSlowdown then
    if port.bppg.announceReceiptTimeout.toUInt8 ≤ port.patransd.numberAnnounceTransmissions then
      { port with
        bppg := { port.bppg with announceSlowdown := false }
        patransd := { port.patransd with
          interval2 := port.bppg.announceInterval, numberAnnounceTransmissions := 0 } }
    else
      { port with patransd := { port.patransd with
          interval2 := port.ppg.oldAnnounceInterval
          numberAnnounceTransmissions := port.patransd.numberAnnounceTransmissions + 1 } }
  else
    { port with patransd := { port.patransd with
        interval2 := port.bppg.announceInterval, numberAnnounceTransmissions := 0 } }

def transmitAnnounceProc (view : InstanceView) (port : Port) : Port :=
  let port := { port with
    bppg := { port.bppg with newInfo := false }
    patransd := { port.patransd with announceTx := txAnnounce view port } }
  nextInterval port

def arm (view : InstanceView) (cts64 : UInt64) (stateChange : Bool) (port : Port) :
    Port × Option PTPMsgAnnounce :=
  match port.patransd.state with
  | .init => (moveTo .transmitInit port, none)
  | .transmitInit =>
    let port := if stateChange then transmitInitProc port else port
    (moveTo (transmitInitCondition port) port, none)
  | .transmitPeriodic =>
    let port := if stateChange then transmitPeriodicProc port else port
    (moveTo .idle port, none)
  | .idle =>
    let port := if stateChange then idleProc cts64 port else port
    (moveTo (idleCondition view cts64 port) port, none)
  | .transmitAnnounce =>
    let sent := if stateChange then transmitAnnounceProc view port else port
    ({ sent with patransd := { sent.patransd with lastState := .idle, state := .idle } },
      if stateChange then some sent.patransd.announceTx else none)
  | .reaction => (port, none)

def machine (view : InstanceView) (cts64 : UInt64) :
    Machine Port AnnounceTransmitState PTPMsgAnnounce where
  state port := port.patransd.state
  lastState port := port.patransd.lastState
  setLastState port state := { port with patransd := { port.patransd with lastState := state } }
  arm := arm view cts64

end AnnounceTransmit

open AnnounceTransmit in
/-- `port_announce_transmit_sm`, for at most the given number of turns: the loop
need not end. -/
def portAnnounceTransmitSm (view : InstanceView) (cts64 : UInt64) (fuel : Nat) (port : Port) :
    Option (Port × Option PTPMsgAnnounce) :=
  (machine view cts64).run fuel (moveTo (allstateCondition view port) port)

namespace AnnounceTransmit

theorem nextInterval_announceTx (port : Port) :
    (nextInterval port).patransd.announceTx = port.patransd.announceTx := by
  unfold nextInterval
  split
  · split <;> rfl
  · rfl

private theorem arm_sent (sent : (arm view cts64 stateChange port).2 = some announce) :
    announce = txAnnounce view port := by
  unfold arm at sent
  split at sent
  case h_5 =>
    cases stateChange with
    | false => cases sent
    | true =>
      simp only [if_true, transmitAnnounceProc, nextInterval_announceTx, Option.some.injEq] at sent
      exact sent.symm
  all_goals cases sent

end AnnounceTransmit

open AnnounceTransmit in
/-- What the machine sends is what `txAnnounce` builds. -/
theorem sent_portAnnounceTransmitSm
    (finished : portAnnounceTransmitSm view cts64 fuel port = some (next, some announce)) :
    ∃ sender, announce = txAnnounce view sender := by
  refine Exits.invariant (fun _ => True)
    (fun _ result => result = some announce → ∃ sender, announce = txAnnounce view sender)
    (iterate_exits finished) trivial (fun _ _ _ _ => trivial) ?_ rfl
  intro data final result _ turn sent
  have left := congrArg Prod.snd ((machine view cts64).turn_leave turn).1
  rw [sent] at left
  exact ⟨_, arm_sent left⟩

end EnetTsn.Bmcs
