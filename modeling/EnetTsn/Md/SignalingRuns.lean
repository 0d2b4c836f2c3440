import EnetTsn.Md.Signaling
import EnetTsn.Interval.CapableReceive
import EnetTsn.Library.Run

namespace EnetTsn.Md

open EnetTsn.Gptp EnetTsn.Library
open EnetTsn.Bmcs (CapablePort PTPMsgGPTPCapableTLV tlvOrganizationId)
open EnetTsn.Bmcs.GptpCapableTransmit (setGptpCapableTlv)
open EnetTsn.Interval (ReceivePort)

/-- `md_signaling_type_t`. -/
inductive MdSignalingType where
  | none
  | msgIntervalReq
  | gptpCapable
  deriving DecidableEq, Repr

inductive MdSignalingSendState where
  | init
  | initialise
  | sendSignaling
  | reaction
  deriving DecidableEq, Repr

structure SignalingSendPort extends ReceivePort where
  settings : HeaderSettings
  thisClock : ClockIdentity
  thisPort : UInt16
  domainIndex : UInt8
  cmldsMode : Bool
  /-- `rand()`. -/
  random : UInt16
  /-- There is a network to send to. -/
  attached : Bool
  sendbuf : Memory
  /-- `gptpnet_send_whook` does not fail. -/
  accepted : Bool

structure SignalingFrame where
  octets : Memory
  tlv : SignalingTlv

/-- `md_signaling_send_data`, with the messages sent so far. -/
structure SignalingSend where
  state : MdSignalingSendState
  lastState : MdSignalingSendState
  stype : MdSignalingType
  rcvdTxmsg : Option SignalingTlv
  sequenceId : UInt16
  sent : List SignalingFrame

def signalingDown (port : ReceivePort) : Bool :=
  port.BEGIN || !port.instanceEnable || !port.up

def mdSignalingSendSetMsgIntervalReq (logSync logAnnounce logPdelay : Int8) :
    PTPMsgIntervalRequestTLV where
  tlvType := 0x0003
  lengthField := 12
  organizationId := tlvOrganizationId
  organizationSubType := 2
  linkDelayInterval := logPdelay
  timeSyncInterval := logSync
  announceInterval := logAnnounce
  flags := 0x00

namespace SignalingSend

def init : SignalingSend where
  state := .init
  lastState := .init
  stype := .none
  rcvdTxmsg := none
  sequenceId := 0
  sent := []

def moveTo (state : MdSignalingSendState) (sm : SignalingSend) : SignalingSend :=
  { sm with state := state }

def remember (state : MdSignalingSendState) (sm : SignalingSend) : SignalingSend :=
  { sm with lastState := state }

variable (port : SignalingSendPort)

def composeHeader (sequenceId : UInt16) : Memory :=
  let sdata := mdHeaderCompose port.settings .signaling (UInt16.ofNat signalingSize)
      port.thisClock port.thisPort sequenceId 0x7f port.sendbuf
    |>.copy 34 10 (fun _ => 0xff)
    |>.store 4 1 port.domainIndex.toNat
  if port.cmldsMode then sdata.store 0 1 (sdata 0 &&& 0x0F ||| 0x20).toNat else sdata

def setup (stype : MdSignalingType) (tlv : SignalingTlv) (sdata : Memory) : Memory :=
  match stype with
  | .msgIntervalReq => setupMsgIntervalReqTlv tlv.toIntervalRequest sdata
  | .gptpCapable => setupGptpCapableTlv tlv.toGptpCapable sdata
  | .none => sdata

def sendSignaling (sm : SignalingSend) : SignalingSend × Int :=
  if sm.stype = .none ∨ !port.attached then (sm, -1)
  else match sm.rcvdTxmsg with
    | none => (sm, -1)
    | some tlv =>
      let octets := setup sm.stype tlv (composeHeader port sm.sequenceId)
      if port.accepted then
        ({ sm with sequenceId := sm.sequenceId + 1, sent := ⟨octets, tlv⟩ :: sm.sent }, 0)
      else (sm, -2)

def allstateCondition (sm : SignalingSend) : SignalingSend :=
  if signalingDown port.toReceivePort then moveTo .initialise (remember .reaction sm) else sm

def initializeProc (sm : SignalingSend) : SignalingSend := { sm with sequenceId := port.random }

def initializeCondition (sm : SignalingSend) : MdSignalingSendState :=
  if sm.stype ≠ .none then .sendSignaling else .initialise

def sendSignalingProc (sm : SignalingSend) : SignalingSend × Int :=
  let (sm, result) := sendSignaling port sm
  if result = -2 then (sm, -1) else ({ sm with stype := .none }, 0)

def sendSignalingCondition (sm : SignalingSend) : SignalingSend :=
  if sm.stype ≠ .none then remember .reaction sm else sm

def arm (stateChange : Bool) (sm : SignalingSend) : SignalingSend × Option Unit :=
  match sm.state with
  | .init => (moveTo .initialise sm, none)
  | .initialise =>
    let sm := if stateChange then initializeProc port sm else sm
    (moveTo (initializeCondition sm) sm, none)
  | .sendSignaling =>
    if stateChange then
      let (sm, result) := sendSignalingProc port sm
      if result ≠ 0 then (remember .reaction sm, some ()) else (sm, none)
    else (moveTo .sendSignaling (sendSignalingCondition sm), none)
  | .reaction => (sm, none)

def machine : Machine SignalingSend MdSignalingSendState Unit where
  state := state
  lastState := lastState
  setLastState sm state := remember state sm
  arm := arm port

end SignalingSend

open SignalingSend in
/-- `md_signaling_send_sm`. -/
def mdSignalingSendSm (port : SignalingSendPort) (sm : SignalingSend) : Option SignalingSend :=
  ((machine port).run 5 (allstateCondition port sm)).map Prod.fst

/-- `md_signaling_send_sm_mdSignalingSend`. -/
def mdSignalingSend (port : SignalingSendPort) (msg : SignalingTlv) (sm : SignalingSend) :
    Option SignalingSend :=
  let stype := msg.header.organizationSubType
  if stype = 2 then
    mdSignalingSendSm port
      { sm with stype := .msgIntervalReq, rcvdTxmsg := some msg, lastState := .reaction }
  else if stype = 4 then
    mdSignalingSendSm port
      { sm with stype := .gptpCapable, rcvdTxmsg := some msg, lastState := .reaction }
  else some { sm with stype := .none }

inductive MdSignalingReceiveState where
  | init
  | initialise
  | recvSignaling
  | reaction
  deriving DecidableEq, Repr

/-- `md_signaling_receive_data`. -/
structure SignalingReceive where
  state : MdSignalingReceiveState
  lastState : MdSignalingReceiveState
  recv : Bool
  rcvdRxmsg : Memory
  gctlm : PTPMsgGPTPCapableTLV
  gcmirtlm : PTPMsgGPTPCapableMsgIntervalReqTLV
  mrtlm : PTPMsgIntervalRequestTLV

namespace SignalingReceive

def init : SignalingReceive where
  state := .init
  lastState := .init
  recv := false
  rcvdRxmsg := Memory.zero
  gctlm := recvGptpCapable Memory.zero
  gcmirtlm := recvGptpCapableMsgIntervalReq Memory.zero
  mrtlm := recvMsgIntervalReq Memory.zero

def moveTo (state : MdSignalingReceiveState) (sm : SignalingReceive) : SignalingReceive :=
  { sm with state := state }

def remember (state : MdSignalingReceiveState) (sm : SignalingReceive) : SignalingReceive :=
  { sm with lastState := state }

def store (tlv : SignalingTlv) (sm : SignalingReceive) : SignalingReceive :=
  match tlv with
  | .msgIntervalReq tlv => { sm with mrtlm := tlv }
  | .gptpCapable tlv => { sm with gctlm := tlv }
  | .gptpCapableIntervalReq tlv => { sm with gcmirtlm := tlv }

def allstateCondition (port : ReceivePort) (sm : SignalingReceive) : SignalingReceive :=
  if signalingDown port then moveTo .initialise (remember .reaction sm) else sm

def initializeCondition (sm : SignalingReceive) : MdSignalingReceiveState :=
  if sm.recv then .recvSignaling else .initialise

def recvSignalingProc (sm : SignalingReceive) : SignalingReceive × Option SignalingTlv :=
  match recvSignaling sm.rcvdRxmsg with
  | some tlv => (store tlv { sm with recv := false }, some tlv)
  | none => ({ sm with recv := false }, none)

def recvSignalingCondition (sm : SignalingReceive) : SignalingReceive :=
  if sm.recv then remember .reaction sm else sm

def arm (stateChange : Bool) (sm : SignalingReceive) :
    SignalingReceive × Option SignalingTlv :=
  match sm.state with
  | .init => (moveTo .initialise sm, none)
  | .initialise => (moveTo (initializeCondition sm) sm, none)
  | .recvSignaling =>
    if stateChange then recvSignalingProc sm
    else (moveTo .recvSignaling (recvSignalingCondition sm), none)
  | .reaction => (sm, none)

def machine : Machine SignalingReceive MdSignalingReceiveState SignalingTlv where
  state := state
  lastState := lastState
  setLastState sm state := remember state sm
  arm := arm

end SignalingReceive

open SignalingReceive in
def mdSignalingReceiveSm (port : ReceivePort) (sm : SignalingReceive) :
    Option (SignalingReceive × Option SignalingTlv) :=
  machine.run 5 (allstateCondition port sm)

/-- `md_signaling_receive_sm_mdSignalingRec`. -/
def mdSignalingRec (port : ReceivePort) (recbptr : Memory) (sm : SignalingReceive) :
    Option (SignalingReceive × Option SignalingTlv) :=
  mdSignalingReceiveSm port
    { sm with recv := true, rcvdRxmsg := recbptr, lastState := .reaction }

def dispatchedAs (stype : UInt32) : GPTPSignalingMsgType :=
  if stype = 2 then .msgIntervalReq
  else if stype = 4 then .gptpCapable
  else if stype = 5 then .gptpCapableIntervalReq
  else .notSupported

namespace SignalingReceive

def Received (recbptr : Memory) (outcome : Option (SignalingReceive × Option SignalingTlv)) :
    Prop :=
  ∃ final, outcome = some (final, recvSignaling recbptr) ∧ final.state = .recvSignaling

private theorem state_recvSignalingProc (sm : SignalingReceive) :
    (recvSignalingProc sm).1.state = sm.state ∧
      (recvSignalingProc sm).1.lastState = sm.lastState := by
  unfold recvSignalingProc
  cases recvSignaling sm.rcvdRxmsg with
  | none => exact ⟨rfl, rfl⟩
  | some tlv => cases tlv <;> exact ⟨rfl, rfl⟩

private theorem result_recvSignalingProc (sm : SignalingReceive) :
    (recvSignalingProc sm).2 = recvSignaling sm.rcvdRxmsg := by
  unfold recvSignalingProc
  cases recvSignaling sm.rcvdRxmsg <;> rfl

theorem run_entered (receiving : sm.state = .recvSignaling)
    (entered : sm.lastState ≠ .recvSignaling) :
    Received sm.rcvdRxmsg (machine.run (fuel + 1) sm) := by
  have changed : (sm.lastState != sm.state) = true := by
    rw [receiving]
    exact bne_iff_ne.mpr entered
  have out : machine.switch sm = recvSignalingProc (remember .recvSignaling sm) := by
    change arm (sm.lastState != sm.state) (remember sm.state sm) = _
    rw [changed, receiving, arm]
    simp only [remember, receiving, if_true]
  have states := state_recvSignalingProc (remember .recvSignaling sm)
  have result := result_recvSignalingProc (remember .recvSignaling sm)
  rw [← out] at states result
  refine ⟨(machine.switch sm).1, ?_, states.1.trans receiving⟩
  cases tlv : recvSignaling sm.rcvdRxmsg with
  | some value => exact machine.run_of_result (Prod.ext rfl (result.trans tlv))
  | none =>
    apply machine.run_of_stable (Prod.ext rfl (result.trans tlv))
    exact states.2.trans (states.1.trans receiving).symm

theorem run_initialise (sm : SignalingReceive) (stored : sm.recv = true)
    (initial : sm.state = .initialise) (fuel : Nat) :
    Received sm.rcvdRxmsg (machine.run (fuel + 2) sm) := by
  have out : machine.switch sm = (moveTo .recvSignaling (remember .initialise sm), none) := by
    change arm (sm.lastState != sm.state) (remember sm.state sm) = _
    rw [initial, arm]
    simp only [remember, initial, initializeCondition, stored, if_true]
  rw [machine.run_of_unstable out nofun]
  exact run_entered rfl nofun

theorem run_init (stored : sm.recv = true) (initial : sm.state = .init) (fuel : Nat) :
    Received sm.rcvdRxmsg (machine.run (fuel + 3) sm) := by
  have out : machine.switch sm = (moveTo .initialise (remember .init sm), none) := by
    change arm (sm.lastState != sm.state) (remember sm.state sm) = _
    rw [initial, arm]
    simp only [remember, initial]
  have after : Received sm.rcvdRxmsg
      (machine.run (fuel + 2) (moveTo .initialise (remember .init sm))) :=
    run_initialise (moveTo .initialise (remember .init sm)) stored rfl fuel
  rw [machine.run_of_unstable out nofun]
  exact after

theorem run_stored (stored : sm.recv = true) (entered : sm.lastState = .reaction)
    (running : sm.state ≠ .reaction) : Received sm.rcvdRxmsg (machine.run 5 sm) := by
  cases state : sm.state with
  | init => exact run_init stored state 2
  | initialise => exact run_initialise sm stored state 3
  | recvSignaling =>
    refine run_entered state ?_
    rw [entered]
    exact nofun
  | reaction => exact absurd state running

end SignalingReceive

open SignalingReceive in
theorem mdSignalingRec_returns (port : ReceivePort) (recbptr : Memory)
    (running : sm.state ≠ .reaction) : Received recbptr (mdSignalingRec port recbptr sm) := by
  unfold mdSignalingRec mdSignalingReceiveSm allstateCondition
  split
  · exact run_initialise _ rfl rfl 3
  · exact run_stored rfl rfl running

def receptions : System SignalingReceive (ReceivePort × Memory) where
  start := .init
  step sm event := (mdSignalingRec event.1 event.2 sm).map Prod.fst

theorem receiver_running (reachable : receptions.Reachable System.anyStep sm) :
    sm.state ≠ .reaction := by
  refine reachable.invariant (fun sm => sm.state ≠ .reaction) (by decide) ?_
  intro state event next running _ taken
  obtain ⟨out, received, rfl⟩ := Option.map_eq_some_iff.mp taken
  obtain ⟨final, returned, receiving⟩ := mdSignalingRec_returns event.1 event.2 running
  cases received.symm.trans returned
  rw [receiving]
  exact nofun

/-- What the daemon hands over: requests for any intervals, and the gPTP-capable TLV of a
port with any interval. -/
inductive HandedOver : SignalingTlv → Prop
  | msgIntervalReq (logSync logAnnounce logPdelay : Int8) :
      HandedOver (.msgIntervalReq (mdSignalingSendSetMsgIntervalReq logSync logAnnounce logPdelay))
  | gptpCapable (capable : CapablePort) : HandedOver (.gptpCapable (setGptpCapableTlv capable))

def SignalingTlv.stype : SignalingTlv → MdSignalingType
  | msgIntervalReq _ => .msgIntervalReq
  | gptpCapable _ => .gptpCapable
  | gptpCapableIntervalReq _ => .none

namespace HandedOver

variable {tlv : SignalingTlv}

variable (handed : HandedOver tlv)
include handed

theorem selects : tlv.type.selector = some tlv.header := by
  cases handed <;> rfl

theorem sent : tlv.type ≠ .gptpCapableIntervalReq := by
  cases handed <;> exact nofun

theorem stype_ne : tlv.stype ≠ .none := by
  cases handed <;> exact nofun

theorem setup (sdata : Memory) : SignalingSend.setup tlv.stype tlv sdata = setupTlv tlv sdata := by
  cases handed <;> rfl

end HandedOver

/-- A message that the receiver of its octets decodes to the TLV it was composed from,
whatever lies behind the message in the buffer and in whatever order the receptions of
that port came. -/
def SignalingFrame.Arrives (frame : SignalingFrame) : Prop :=
  ∀ receiver, receptions.Reachable System.anyStep receiver → ∀ port buffer,
    (∀ index < signalingSize, buffer index = frame.octets index) →
    classifyRxSignalingType buffer = frame.tlv.type ∧
      ∃ final, mdSignalingRec port buffer receiver = some (final, some frame.tlv)

private theorem arrives_of_setup (handed : HandedOver tlv) (sdata : Memory) :
    (SignalingFrame.mk (setupTlv tlv sdata) tlv).Arrives := by
  intro receiver reachable port buffer same
  obtain ⟨final, returned, _⟩ := mdSignalingRec_returns port buffer (receiver_running reachable)
  have received : recvSignaling buffer = some tlv :=
    (recvSignaling_congr same).trans (recvSignaling_setup sdata tlv handed.sent handed.selects)
  rw [received] at returned
  have selects := ((recvSignaling_eq_some_iff buffer tlv).mp received).1
  exact ⟨(classifyRxSignalingType_eq_iff buffer selects).mpr rfl, final, returned⟩

namespace SignalingSend

variable {port : SignalingSendPort} {sm : SignalingSend}

/-- What the sender keeps: what waits was handed over, and what was sent arrives. -/
structure Sound (sm : SignalingSend) : Prop where
  running : sm.state ≠ .reaction
  waiting : sm.stype ≠ .none →
    ∃ tlv, sm.rcvdTxmsg = some tlv ∧ HandedOver tlv ∧ sm.stype = tlv.stype
  sent : ∀ frame ∈ sm.sent, HandedOver frame.tlv ∧ frame.Arrives

section

variable (sound : sm.Sound)
include sound

theorem Sound.moveTo {state : MdSignalingSendState}
    (running : state ≠ .reaction) : (moveTo state sm).Sound :=
  ⟨running, sound.waiting, sound.sent⟩

theorem Sound.remember (state : MdSignalingSendState) : (remember state sm).Sound :=
  ⟨sound.running, sound.waiting, sound.sent⟩

theorem Sound.allstateCondition : (allstateCondition port sm).Sound := by
  unfold SignalingSend.allstateCondition
  split
  · exact (sound.remember .reaction).moveTo nofun
  · exact sound

theorem Sound.sendSignaling : (sendSignaling port sm).1.Sound := by
  unfold SignalingSend.sendSignaling
  split
  · exact sound
  · rename_i ready
    obtain ⟨tlv, holds, handed, kind⟩ := sound.waiting fun idle => ready (.inl idle)
    simp only [holds]
    split
    · refine ⟨sound.running, fun _ => ⟨tlv, rfl, handed, kind⟩, ?_⟩
      intro frame member
      rcases List.mem_cons.mp member with rfl | earlier
      · refine ⟨handed, ?_⟩
        rw [kind, handed.setup]
        exact arrives_of_setup handed _
      · exact sound.sent frame earlier
    · exact sound

theorem Sound.sendSignalingProc : (sendSignalingProc port sm).1.Sound := by
  have sent : (SignalingSend.sendSignaling port sm).1.Sound := sound.sendSignaling
  unfold SignalingSend.sendSignalingProc
  simp only
  split
  · exact sent
  · exact ⟨sent.running, fun waiting => absurd rfl waiting, sent.sent⟩

end

theorem initializeCondition_running (sm : SignalingSend) : initializeCondition sm ≠ .reaction := by
  unfold initializeCondition
  split <;> exact nofun

theorem Sound.switch (sound : sm.Sound) : ((machine port).switch sm).1.Sound := by
  have entered := sound.remember sm.state
  change (arm port (sm.lastState != sm.state) (SignalingSend.remember sm.state sm)).1.Sound
  generalize (sm.lastState != sm.state) = stateChange
  generalize SignalingSend.remember sm.state sm = sm at entered ⊢
  unfold arm
  split
  · exact entered.moveTo nofun
  · cases stateChange with
    | false => exact entered.moveTo (initializeCondition_running sm)
    | true =>
      have restarted : (initializeProc port sm).Sound :=
        ⟨entered.running, entered.waiting, entered.sent⟩
      exact restarted.moveTo (initializeCondition_running _)
  · cases stateChange with
    | false =>
      unfold sendSignalingCondition
      simp only [Bool.false_eq_true, if_false]
      split
      · exact (entered.remember .reaction).moveTo nofun
      · exact entered.moveTo nofun
    | true =>
      have processed : (SignalingSend.sendSignalingProc port sm).1.Sound :=
        entered.sendSignalingProc
      simp only [if_true]
      split
      · exact processed.remember .reaction
      · exact processed
  · exact entered

theorem Sound.mdSignalingSendSm (sound : sm.Sound)
    (finished : mdSignalingSendSm port sm = some next) : next.Sound := by
  obtain ⟨⟨final, result⟩, ran, rfl⟩ := Option.map_eq_some_iff.mp finished
  exact (machine port).run_preserves Sound (fun _ valid => valid.switch) sound.allstateCondition ran

theorem mdSignalingSend_handed (handed : HandedOver tlv) :
    mdSignalingSend port tlv sm = Md.mdSignalingSendSm port
      { sm with stype := tlv.stype, rcvdTxmsg := some tlv, lastState := .reaction } := by
  cases handed <;> rfl

theorem Sound.mdSignalingSend (sound : sm.Sound) (handed : HandedOver tlv)
    (finished : mdSignalingSend port tlv sm = some next) : next.Sound := by
  rw [mdSignalingSend_handed handed] at finished
  have stored : Sound { sm with
      stype := tlv.stype, rcvdTxmsg := some tlv, lastState := .reaction } :=
    ⟨sound.running, fun _ => ⟨tlv, rfl, handed, rfl⟩, sound.sent⟩
  exact stored.mdSignalingSendSm finished

structure Ready (port : SignalingSendPort) (tlv : SignalingTlv) (sm : SignalingSend) : Prop where
  handed : HandedOver tlv
  waits : sm.stype = tlv.stype
  holds : sm.rcvdTxmsg = some tlv
  attached : port.attached = true
  accepted : port.accepted = true

def Sends (tlv : SignalingTlv) (sm : SignalingSend)
    (outcome : Option (SignalingSend × Option Unit)) : Prop :=
  ∃ final, outcome = some (final, none) ∧
    ∃ octets, final.sent = ⟨octets, tlv⟩ :: sm.sent

variable {tlv : SignalingTlv}

variable (ready : Ready port tlv sm)
include ready

theorem Ready.sendSignalingProc : ∃ final, SignalingSend.sendSignalingProc port sm = (final, 0) ∧
      final.state = sm.state ∧ final.lastState = sm.lastState ∧
      ∃ octets, final.sent = ⟨octets, tlv⟩ :: sm.sent := by
  have waiting : ¬ (sm.stype = .none ∨ !port.attached) := by
    rw [ready.waits, ready.attached]
    exact fun idle => idle.elim ready.handed.stype_ne nofun
  unfold SignalingSend.sendSignalingProc SignalingSend.sendSignaling
  rw [if_neg waiting, ready.holds]
  simp only [ready.accepted, if_true]
  exact ⟨_, rfl, rfl, rfl, _, rfl⟩

theorem run_entered (sending : sm.state = .sendSignaling)
    (entered : sm.lastState ≠ .sendSignaling) (fuel : Nat) :
    Sends tlv sm ((machine port).run (fuel + 1) sm) := by
  have changed : (sm.lastState != sm.state) = true := by
    rw [sending]
    exact bne_iff_ne.mpr entered
  have remembered : Ready port tlv (SignalingSend.remember .sendSignaling sm) :=
    ⟨ready.handed, ready.waits, ready.holds, ready.attached, ready.accepted⟩
  obtain ⟨final, processed, state, lastState, octets, sent⟩ := remembered.sendSignalingProc
  have out : (machine port).switch sm = (final, none) := by
    change arm port (sm.lastState != sm.state) (SignalingSend.remember sm.state sm) = _
    rw [changed, sending, arm]
    simp only [SignalingSend.remember, sending, if_true] at processed ⊢
    rw [processed]
    simp
  refine ⟨final, (machine port).run_of_stable out ?_, octets, sent⟩
  exact lastState.trans (state.trans sending).symm

theorem run_initialise (initial : sm.state = .initialise)
    (fuel : Nat) : Sends tlv sm ((machine port).run (fuel + 2) sm) := by
  have waiting : sm.stype ≠ .none := by
    rw [ready.waits]
    exact ready.handed.stype_ne
  obtain ⟨middle, out, kept, sent⟩ : ∃ middle,
      (machine port).switch sm = (SignalingSend.moveTo .sendSignaling middle, none) ∧
      Ready port tlv (SignalingSend.moveTo .sendSignaling middle) ∧
      middle.lastState = .initialise ∧ middle.sent = sm.sent := by
    refine ⟨if sm.lastState != sm.state then
      initializeProc port (SignalingSend.remember .initialise sm)
      else SignalingSend.remember .initialise sm, ?_, ?_⟩
    · change arm port (sm.lastState != sm.state) (SignalingSend.remember sm.state sm) = _
      rw [initial, arm]
      simp only [SignalingSend.remember, initial]
      split <;> simp [initializeCondition, initializeProc, waiting]
    · split <;> exact ⟨⟨ready.handed, ready.waits, ready.holds, ready.attached, ready.accepted⟩,
        rfl, rfl⟩
  have entered : (SignalingSend.moveTo .sendSignaling middle).lastState ≠ .sendSignaling := by
    change middle.lastState ≠ .sendSignaling
    rw [sent.1]
    exact nofun
  obtain ⟨final, ran, octets, added⟩ := run_entered kept rfl entered fuel
  refine ⟨final, ?_, octets, ?_⟩
  · rw [(machine port).run_of_unstable out entered, ran]
  · rw [added, ← sent.2]
    rfl

theorem run_init (initial : sm.state = .init) (fuel : Nat) :
    Sends tlv sm ((machine port).run (fuel + 3) sm) := by
  have out : (machine port).switch sm =
      (SignalingSend.moveTo .initialise (SignalingSend.remember .init sm), none) := by
    change arm port (sm.lastState != sm.state) (SignalingSend.remember sm.state sm) = _
    rw [initial, arm]
    simp only [SignalingSend.remember, initial]
  have kept : Ready port tlv (SignalingSend.moveTo .initialise (SignalingSend.remember .init sm)) :=
    ⟨ready.handed, ready.waits, ready.holds, ready.attached, ready.accepted⟩
  rw [(machine port).run_of_unstable out nofun]
  exact run_initialise kept rfl fuel

theorem run_stored (entered : sm.lastState = .reaction)
    (running : sm.state ≠ .reaction) : Sends tlv sm ((machine port).run 5 sm) := by
  cases state : sm.state with
  | init => exact run_init ready state 2
  | initialise => exact run_initialise ready state 3
  | sendSignaling =>
    refine run_entered ready state ?_ 4
    rw [entered]
    exact nofun
  | reaction => exact absurd state running

end SignalingSend

open SignalingSend in
theorem mdSignalingSend_sends (running : sm.state ≠ .reaction) (handed : HandedOver tlv)
    (attached : port.attached = true) (accepted : port.accepted = true) :
    ∃ final, mdSignalingSend port tlv sm = some final ∧
      ∃ octets, final.sent = ⟨octets, tlv⟩ :: sm.sent := by
  have ready : ∀ state, Ready port tlv
      { sm with stype := tlv.stype, rcvdTxmsg := some tlv, lastState := .reaction
                state := state } :=
    fun _ => ⟨handed, rfl, rfl, attached, accepted⟩
  rw [mdSignalingSend_handed handed, mdSignalingSendSm, allstateCondition]
  split
  · obtain ⟨final, ran, sent⟩ := run_initialise (ready .initialise) rfl 3
    exact ⟨final, Option.map_eq_some_iff.mpr ⟨_, ran, rfl⟩, sent⟩
  · obtain ⟨final, ran, sent⟩ := run_stored (ready sm.state) rfl running
    exact ⟨final, Option.map_eq_some_iff.mpr ⟨_, ran, rfl⟩, sent⟩

inductive SendEvent where
  | handOver (port : SignalingSendPort) (tlv : SignalingTlv)
  | tick (port : SignalingSendPort)

def transmissions : System SignalingSend SendEvent where
  start := .init
  step sm
    | .handOver port tlv => mdSignalingSend port tlv sm
    | .tick port => mdSignalingSendSm port sm

def fromDaemon (_ : SignalingSend) : SendEvent → Prop
  | .handOver _ tlv => HandedOver tlv
  | .tick _ => True

private theorem sender_sound (reachable : transmissions.Reachable fromDaemon sm) : sm.Sound := by
  refine reachable.invariant SignalingSend.Sound ?_ ?_
  · exact ⟨by decide, fun waiting => absurd rfl waiting,
      fun _ impossible => absurd impossible List.not_mem_nil⟩
  · intro state event next sound allowed taken
    cases event with
    | handOver port tlv => exact sound.mdSignalingSend allowed taken
    | tick port => exact sound.mdSignalingSendSm taken

private theorem dispatchedAs_of_selects {tlv : SignalingTlv}
    (selects : tlv.type.selector = some tlv.header) :
    dispatchedAs tlv.header.organizationSubType = tlv.type := by
  generalize tlv.header = header at selects ⊢
  cases type : tlv.type with
  | notSupported =>
    rw [type] at selects
    cases selects
  | _ =>
    rw [type] at selects
    cases selects
    rfl

/-- Headers and signaling TLVs survive the wire: a header is read back as it was composed
and composed as it was received; every message that is sent, at once or later, arrives
as the TLV that was handed over; and a received message is decoded, and dispatched, under
the layout that its common header selects, and under no other. -/
theorem signaling_round_trip :
    (∀ (head : PTPMsgHeader) (sendbuf : Memory), head.majorSdoId < 16 → head.messageType < 16 →
      head.minorVersionPTP < 16 → head.versionPTP < 16 →
      mdDecomposeHead (mdComposeHead head sendbuf) = head) ∧
    (∀ (rxmsg sendbuf : Memory), ∀ index < 34,
      mdComposeHead (mdDecomposeHead rxmsg) sendbuf index = rxmsg index) ∧
    (∀ sm, transmissions.Reachable fromDaemon sm →
      (∀ frame ∈ sm.sent, HandedOver frame.tlv ∧ frame.Arrives) ∧
      ∀ port tlv, HandedOver tlv → port.attached = true → port.accepted = true →
        ∃ final frame, mdSignalingSend port tlv sm = some final ∧
          final.sent = frame :: sm.sent ∧ frame.tlv = tlv ∧ frame.Arrives) ∧
    (∀ receiver, receptions.Reachable System.anyStep receiver → ∀ port rxmsg tlv,
      ((∃ final, mdSignalingRec port rxmsg receiver = some (final, some tlv)) ↔
        tlv.type.selector = some (recvSignalingMsgHdr rxmsg) ∧ decodeAs rxmsg tlv.type = some tlv) ∧
      ((∃ final, mdSignalingRec port rxmsg receiver = some (final, some tlv)) →
        dispatchedAs tlv.header.organizationSubType = tlv.type)) := by
  refine ⟨?_, mdComposeHead_decompose, ?_, ?_⟩
  · intro head sendbuf sdo type minor version
    exact mdDecomposeHead_compose head sendbuf sdo type minor version
  · intro sm reachable
    have sound := sender_sound reachable
    refine ⟨sound.sent, ?_⟩
    intro port tlv handed attached accepted
    obtain ⟨final, finished, octets, sent⟩ :=
      mdSignalingSend_sends sound.running handed attached accepted
    have after := (sound.mdSignalingSend handed finished).sent ⟨octets, tlv⟩
      (sent ▸ List.mem_cons_self ..)
    exact ⟨final, ⟨octets, tlv⟩, finished, sent, rfl, after.2⟩
  · intro receiver reachable port rxmsg tlv
    obtain ⟨after, returned, _⟩ := mdSignalingRec_returns port rxmsg (receiver_running reachable)
    have received : (∃ final, mdSignalingRec port rxmsg receiver = some (final, some tlv)) ↔
        recvSignaling rxmsg = some tlv := by
      rw [returned]
      constructor
      · rintro ⟨final, same⟩
        exact congrArg Prod.snd (Option.some.inj same)
      · intro same
        exact ⟨after, by rw [same]⟩
    rw [received, recvSignaling_eq_some_iff]
    refine ⟨Iff.rfl, ?_⟩
    rintro ⟨selects, decoded⟩
    apply dispatchedAs_of_selects
    rw [selects, (decodeAs_type decoded).2]

def SignalingSendPort.sample : SignalingSendPort where
  BEGIN := false
  instanceEnable := true
  portOper := true
  ptpPortEnabled := true
  settings := { minorVersionPTP := 1, ptpTimescale := true, mode2011 := false }
  thisClock := ClockIdentity.fill 1
  thisPort := 1
  domainIndex := 0
  cmldsMode := false
  random := 7
  attached := true
  sendbuf := Memory.zero
  accepted := true

/-- A request for negative intervals arrives. -/
theorem signaling_round_trip_negative : ∃ final frame,
      mdSignalingSend .sample (.msgIntervalReq (mdSignalingSendSetMsgIntervalReq (-3) (-1) (-5)))
        .init = some final ∧ final.sent = [frame] ∧ frame.Arrives := by
  obtain ⟨_, send⟩ := signaling_round_trip.2.2.1 .init .start
  obtain ⟨final, frame, finished, sent, _, arrives⟩ :=
    send .sample _ (.msgIntervalReq (-3) (-1) (-5)) rfl rfl
  exact ⟨final, frame, finished, sent, arrives⟩

end EnetTsn.Md
