import EnetTsn.Bmcs.Frames
import EnetTsn.Bmcs.SelectionMoves

namespace EnetTsn.Bmcs

open EnetTsn.Gptp EnetTsn.Library

inductive TimeFlag where
  | leap61
  | leap59
  | currentUtcOffsetValid
  | ptpTimescale
  | timeTraceable
  | frequencyTraceable
  deriving DecidableEq, Repr

namespace TimeFlag

def value (properties : TimeProperties) : TimeFlag → Bool
  | leap61 => properties.leap61
  | leap59 => properties.leap59
  | currentUtcOffsetValid => properties.currentUtcOffsetValid
  | ptpTimescale => properties.ptpTimescale
  | timeTraceable => properties.timeTraceable
  | frequencyTraceable => properties.frequencyTraceable

def position : TimeFlag → Nat
  | leap61 => 0
  | leap59 => 1
  | currentUtcOffsetValid => 2
  | ptpTimescale => 3
  | timeTraceable => 4
  | frequencyTraceable => 5

def isSet (octet : UInt8) (flag : TimeFlag) : Bool := octet.toNat.testBit flag.position

theorem isSet_cleared (flag : TimeFlag) : isSet 0 flag = false := by
  simp [isSet]

private theorem isSet_or (first second : UInt8) (flag : TimeFlag) :
    isSet (first ||| second) flag = (isSet first flag || isSet second flag) := by
  simp [isSet, Nat.testBit_or]

private theorem isSet_ite (condition : Bool) (octet : UInt8) (flag : TimeFlag) :
    isSet (if condition then octet else 0) flag = (condition && isSet octet flag) := by
  cases condition with
  | false => exact isSet_cleared flag
  | true => rfl

theorem isSet_setFlags (properties : TimeProperties) (octet : UInt8) (flag : TimeFlag) :
    isSet (TimeProperties.setFlags properties octet) flag = (isSet octet flag || flag.value properties) := by
  simp only [TimeProperties.setFlags, isSet_or, isSet_ite]
  cases flag <;> simp [isSet, position, value, Nat.testBit]

end TimeFlag

def Port.announceFlags (port : Port) : UInt8 := port.patransd.announceTx.header.flags.2

def sentAnnounce (domain : Domain) (index : Nat) : Step → Option PTPMsgAnnounce
  | .port sender (.announceTransmit cts64) =>
    if sender = index then
      (portAnnounceTransmitSm domain.view cts64 8 (domain.ports index)).bind (·.2)
    else none
  | _ => none

/-- A domain together with the time properties it had at the Announces of each port, the
latest ones first. -/
structure AnnouncedDomain where
  domain : Domain
  announced : Nat → List TimeProperties

def noteSent (domain : Domain) (sent : Option PTPMsgAnnounce)
    (announced : List TimeProperties) : List TimeProperties :=
  match sent with
  | none => announced
  | some _ => domain.bptasg.current :: announced

def announcedSystem (cfg : Config) (settings : Settings) : System AnnouncedDomain Step where
  start := { domain := Domain.init cfg settings, announced := fun _ => [] }
  step state step := (perform cfg state.domain step).map fun next =>
    { domain := next
      announced := fun index =>
        noteSent state.domain (sentAnnounce state.domain index step)
          (state.announced index) }

def FlagsAfter (view : InstanceView) (before after : Port) : Option PTPMsgAnnounce → Prop
  | none => after.announceFlags = before.announceFlags
  | some announce => after.announceFlags = announce.header.flags.2 ∧
      announce.header.flags.2 =
        TimeProperties.setFlags view.bptasg.current before.announceFlags

namespace AnnounceTransmit

variable (view : InstanceView)

private theorem flagsAfter_transmitAnnounceProc (port : Port) :
    FlagsAfter view port (transmitAnnounceProc view port)
      (some (transmitAnnounceProc view port).patransd.announceTx) := by
  refine ⟨rfl, ?_⟩
  rw [transmitAnnounceProc, nextInterval_announceTx]
  rfl

private theorem flagsAfter_arm (cts64 : UInt64) (stateChange : Bool) (port : Port) :
    FlagsAfter view port (arm view cts64 stateChange port).1
      (arm view cts64 stateChange port).2 := by
  unfold arm
  split
  case h_5 =>
    cases stateChange with
    | false => rfl
    | true => exact flagsAfter_transmitAnnounceProc view port
  all_goals cases stateChange <;> rfl

end AnnounceTransmit

open AnnounceTransmit in
theorem flagsAfter_portAnnounceTransmitSm
    (finished : portAnnounceTransmitSm view cts64 fuel port = some (next, sent)) :
    FlagsAfter view port next sent := by
  have switched (current : Port) (kept : current.announceFlags = port.announceFlags) :
      FlagsAfter view port ((machine view cts64).switch current).1
        ((machine view cts64).switch current).2 := by
    have after := flagsAfter_arm view cts64 (current.patransd.lastState != current.patransd.state)
      ((machine view cts64).setLastState current current.patransd.state)
    unfold FlagsAfter at after ⊢
    rw [← kept]
    exact after
  refine Exits.invariant (fun current => current.announceFlags = port.announceFlags)
    (FlagsAfter view port) (iterate_exits finished) rfl ?_ ?_
  · intro current next kept turn
    have after := switched current kept
    rw [((machine view cts64).turn_again turn).1] at after
    exact after
  · intro current final result kept turn
    have after := switched current kept
    rw [((machine view cts64).turn_leave turn).1] at after
    exact after

theorem announceFlags_intervalCall (setting : IntervalSetting)
    (store : ∀ vars port, (setting.store vars port).announceFlags = port.announceFlags)
    (setData : ∀ data port, (setting.setData data port).announceFlags = port.announceFlags)
    (finished : setting.call ptasg request port = some next) :
    next.announceFlags = port.announceFlags := by
  cases request with
  | none =>
    exact setting.run_preserves (fun current => current.announceFlags = port.announceFlags)
      (fun vars current kept => (store vars current).trans kept)
      (fun data current kept => (setData data current).trans kept) finished rfl
  | some requested =>
    exact setting.run_preserves (fun current => current.announceFlags = port.announceFlags)
      (fun vars current kept => (store vars current).trans kept)
      (fun data current kept => (setData data current).trans kept) finished (setData _ _)

theorem FlagsAfter.silent (same : after.patransd = before.patransd) :
    FlagsAfter view before after none := by
  unfold FlagsAfter Port.announceFlags
  rw [same]

theorem flagsAfter_portStep (done : step.perform index domain = some next) :
    FlagsAfter domain.view (domain.ports index) (next.ports index)
      (sentAnnounce domain index (.port index step)) := by
  cases step with
  | announceTransmit cts64 =>
    simp only [PortStep.perform] at done
    obtain ⟨port, called, rfl⟩ := onPort_eq_some done
    obtain ⟨⟨final, sent⟩, ran, rfl⟩ := Option.map_eq_some_iff.mp called
    rw [Domain.setPort_ports_same, sentAnnounce, if_pos rfl, ran]
    exact flagsAfter_portAnnounceTransmitSm ran
  | recvAnnounce announce =>
    obtain ⟨data, ran, rfl⟩ := onReceive_eq_some done
    have port := (kept_recvAnnounce ran).port
    refine .silent ?_
    simp only [Domain.setPort_ports_same]
    rw [port]
  | announceReceive =>
    obtain ⟨data, ran, rfl⟩ := onReceive_eq_some done
    have port := (kept_portAnnounceReceiveSm ran).port
    refine .silent ?_
    simp only [Domain.setPort_ports_same]
    rw [port]
  | announceInformation cts64 =>
    simp only [PortStep.perform] at done
    split at done
    · cases done
    · obtain ⟨port, ran, rfl⟩ := onPort_eq_some done
      refine .silent ?_
      rw [Domain.setPort_ports_same, (kept_portAnnounceInformationSm ran).rest]
  | syncReceiptTimeoutTime time =>
    simp only [PortStep.perform] at done
    obtain ⟨port, ran, rfl⟩ := onPort_eq_some done
    cases ran
    refine .silent ?_
    rw [Domain.setPort_ports_same]
    rfl
  | announceInterval request =>
    obtain ⟨port, ran, rfl⟩ := onPort_eq_some done
    rw [Domain.setPort_ports_same]
    exact announceFlags_intervalCall announceIntervalSetting (fun _ _ => rfl) (fun _ _ => rfl) ran
  | gptpCapableInterval request =>
    obtain ⟨port, ran, rfl⟩ := onPort_eq_some done
    rw [Domain.setPort_ports_same]
    exact announceFlags_intervalCall gptpCapableIntervalSetting (fun _ _ => rfl) (fun _ _ => rfl)
      ran
  | portOper value | asCapable value | asymmetryMeasurementMode value =>
    cases done
    refine .silent ?_
    simp [Domain.setPpg, Domain.setPort, setMode]

private theorem sentAnnounce_port (domain : Domain) (other : sender ≠ index) (step : PortStep) :
    sentAnnounce domain index (.port sender step) = none := by
  cases step <;> simp [sentAnnounce, other]

theorem flagsAfter_perform (done : perform cfg domain step = some next) (index : Nat) :
    FlagsAfter domain.view (domain.ports index) (next.ports index)
      (sentAnnounce domain index step) := by
  cases step with
  | port sender step =>
    simp only [perform] at done
    split at done
    · by_cases same : sender = index
      · subst same
        exact flagsAfter_portStep done
      · rw [sentAnnounce_port domain same]
        refine .silent ?_
        rw [(PortStep.perform_cases done).1.ports index (Ne.symm same)]
    · cases done
  | external external =>
    simp only [perform] at done
    split at done
    · refine .silent ?_
      rw [((frame_performExternal done).ports index).rest]
    · cases done
  | stateSelection cts64 =>
    simp only [perform] at done
    split at done
    · cases done
    · obtain ⟨⟨final, result⟩, ran, rfl⟩ := Option.map_eq_some_iff.mp done
      exact .silent ((selecting_portStateSelectionSm ran).frame.ports index).patransd
  | gmStable =>
    refine .silent ?_
    rw [(kept_gmStableSm done).ports]
  | gmChange clockIdentity =>
    refine .silent ?_
    rw [(kept_gmStableGmChange done).ports]
  | clockSourceReq =>
    refine .silent ?_
    rw [(kept_clockSourceReq done).ports]
  | asCapableOrAll value | gmsync domainIndex status =>
    cases done
    exact .silent rfl

/-- A bit of the octet that a port reuses is set when its property held at some Announce
before. -/
def FlagsNoted (state : AnnouncedDomain) : Prop :=
  ∀ index flag, TimeFlag.isSet (state.domain.ports index).announceFlags flag =
    (state.announced index).any flag.value

theorem FlagsNoted.step (noted : FlagsNoted state)
    (done : (announcedSystem cfg settings).step state event = some next) : FlagsNoted next := by
  obtain ⟨domain, performed, rfl⟩ := Option.map_eq_some_iff.mp done
  intro index flag
  have after := flagsAfter_perform performed index
  dsimp only
  cases sent : sentAnnounce state.domain index event with
  | none =>
    rw [sent] at after
    have octet : (domain.ports index).announceFlags =
        (state.domain.ports index).announceFlags := after
    rw [octet, noteSent]
    exact noted index flag
  | some announce =>
    rw [sent] at after
    rw [after.1, after.2, TimeFlag.isSet_setFlags, noted index flag, Bool.or_comm]
    rfl

theorem FlagsNoted.of_reachable
    (reachable : (announcedSystem cfg settings).Reachable System.anyStep state) :
    FlagsNoted state := by
  have start : FlagsNoted (announcedSystem cfg settings).start :=
    fun _ flag => TimeFlag.isSet_cleared flag
  exact reachable.invariant FlagsNoted start fun _ _ _ noted _ done => noted.step done

def FlagsTell (properties : TimeProperties) (announce : PTPMsgAnnounce) : Prop :=
  ∀ flag, TimeFlag.isSet announce.header.flags.2 flag = flag.value properties

/-- In every run, the bits of an Announce tell the properties of the moment exactly when no
property that has ended held at an earlier Announce of the port. -/
theorem flagsTell_iff (reachable : (announcedSystem cfg settings).Reachable System.anyStep state)
    (done : (announcedSystem cfg settings).step state event = some next)
    (sent : sentAnnounce state.domain index event = some announce) :
    FlagsTell state.domain.bptasg.current announce ↔
      ∀ flag : TimeFlag, flag.value state.domain.bptasg.current = false →
        ∀ earlier ∈ state.announced index, flag.value earlier = false := by
  have noted := FlagsNoted.of_reachable reachable
  obtain ⟨domain, performed, rfl⟩ := Option.map_eq_some_iff.mp done
  have after := flagsAfter_perform performed index
  rw [sent] at after
  have bit (flag : TimeFlag) : TimeFlag.isSet announce.header.flags.2 flag =
      ((state.announced index).any flag.value || flag.value state.domain.bptasg.current) := by
    rw [after.2, TimeFlag.isSet_setFlags, noted index flag]
    rfl
  constructor
  · intro tell flag ended earlier member
    have told := (bit flag).symm.trans (tell flag)
    rw [ended, Bool.or_false] at told
    simpa using List.any_eq_false.mp told earlier member
  · intro ended flag
    rw [bit flag]
    cases value : flag.value state.domain.bptasg.current with
    | true => exact Bool.or_true _
    | false =>
      rw [Bool.or_false, List.any_eq_false]
      intro earlier member
      simpa using ended flag value earlier member

def twoMasterSteps : List Step :=
  [.port 1 (.portOper true), .port 1 (.asCapable true),
    .port 2 (.portOper true), .port 2 (.asCapable true),
    .port 1 (.announceInformation 0), .port 2 (.announceInformation 0), .stateSelection 0,
    .port 1 (.announceInformation 0), .port 2 (.announceInformation 0), .stateSelection 0,
    .port 2 (.announceInterval none)]

theorem flagsTell_iff_first : ∃ state announce,
      (announcedSystem (Config.sample 1) Settings.sample).Reachable System.anyStep state ∧
      state.announced 2 ≠ [] ∧
      sentAnnounce state.domain 2 (.port 2 (.announceTransmit 2000000000)) = some announce ∧
      FlagsTell state.domain.bptasg.current announce := by
  have ran : ((announcedSystem (Config.sample 1) Settings.sample).run
      (announcedSystem (Config.sample 1) Settings.sample).start
        (twoMasterSteps ++ [.port 2 (.announceTransmit 0)])).map
        (fun state => (((announcedSystem (Config.sample 1) Settings.sample).step state
            (.port 2 (.announceTransmit 2000000000))).isSome,
          (sentAnnounce state.domain 2 (.port 2 (.announceTransmit 2000000000))).isSome,
          decide (state.announced 2 = [state.domain.bptasg.current]))) =
      some (true, true, true) := by
    decide +kernel
  obtain ⟨state, finished, values⟩ := Option.map_eq_some_iff.mp ran
  simp only [Prod.mk.injEq, Option.isSome_iff_exists, decide_eq_true_eq] at values
  obtain ⟨⟨next, done⟩, ⟨announce, sent⟩, listed⟩ := values
  have reached := System.reachable_of_run finished
  refine ⟨state, announce, reached, by simp [listed], sent,
    (flagsTell_iff reached done sent).mpr fun flag ended earlier member => ?_⟩
  rw [listed] at member
  exact List.mem_singleton.mp member ▸ ended

def timescaleLostSteps : List Step :=
  twoMasterSteps ++ [.port 2 (.announceTransmit 0),
    .port 1 (.recvAnnounce (PTPMsgAnnounce.sample 0)), .port 1 (.announceInformation 1),
    .stateSelection 1, .port 2 (.announceInformation 1)]

/-- The second port goes on announcing the timescale. -/
theorem timescaleLost_not_flagsTell : ¬ ∀ cfg settings state event next index announce,
    (announcedSystem cfg settings).Reachable System.anyStep state →
      (announcedSystem cfg settings).step state event = some next →
        sentAnnounce state.domain index event = some announce →
          FlagsTell state.domain.bptasg.current announce := by
  intro all
  have ran : ((announcedSystem (Config.sample 1) Settings.sample).run
      (announcedSystem (Config.sample 1) Settings.sample).start timescaleLostSteps).map
        (fun state => (((announcedSystem (Config.sample 1) Settings.sample).step state
            (.port 2 (.announceTransmit 100))).isSome, state.domain.bptasg.current.ptpTimescale,
          (sentAnnounce state.domain 2 (.port 2 (.announceTransmit 100))).map (·.header.flags.2))) =
      some (true, false, some 8) := by
    decide +kernel
  obtain ⟨state, finished, values⟩ := Option.map_eq_some_iff.mp ran
  simp only [Prod.mk.injEq, Option.isSome_iff_exists, Option.map_eq_some_iff] at values
  obtain ⟨⟨next, done⟩, ended, announce, sent, octet⟩ := values
  have told := all _ _ state _ next 2 announce (System.reachable_of_run finished) done sent
    .ptpTimescale
  rw [octet] at told
  exact absurd (told.trans ended) (by decide)

end EnetTsn.Bmcs
