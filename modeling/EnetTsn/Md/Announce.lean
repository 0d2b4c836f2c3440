import EnetTsn.Md.Header
import EnetTsn.Library.Loop

namespace EnetTsn.Md

open EnetTsn.Gptp EnetTsn.Library

structure AnnounceSender where
  settings : HeaderSettings
  thisClock : ClockIdentity
  thisPort : UInt16
  domainIndex : UInt8
  currentLogAnnounceInterval : Int8
  conformToAvnu : Bool

/-- `sizeof(MDPTPMsgAnnounce)`. -/
def announceSize : Nat := 68 + 8 * maxPathTraceN

/-- The length that `sendAnnounce` hands to the header. -/
def composedSize (announce : PTPMsgAnnounce) : Int :=
  announceSize - (maxPathTraceN - announce.tlvLength.toNat / 8 : Int) * 8

/-- The fields that `sendAnnounce` fills in ahead of the path sequence. -/
def composeAnnounce (sender : AnnounceSender) (announce : PTPMsgAnnounce) (sendbuf : Memory) :
    Memory :=
  let quality := announce.grandmasterClockQuality
  mdHeaderCompose sender.settings .announce (UInt16.ofInt (composedSize announce))
      sender.thisClock sender.thisPort announce.header.sequenceId
      sender.currentLogAnnounceInterval sendbuf
    |>.store 4 1 sender.domainIndex.toNat
    |>.store 6 1 announce.header.flags.1.toNat
    |>.store 7 1 announce.header.flags.2.toNat
    |>.store 44 2 announce.currentUtcOffset.toUInt16.toNat
    |>.store 47 1 announce.grandmasterPriority1.toNat
    |>.store 48 1 quality.clockClass.toNat
    |>.store 49 1 quality.clockAccuracy.toNat
    |>.store 50 2 quality.offsetScaledLogVariance.toNat
    |>.store 52 1 announce.grandmasterPriority2.toNat
    |>.storeArray 53 announce.grandmasterIdentity
    |>.store 61 2 announce.stepsRemoved.toNat
    |>.store 63 1 announce.timeSource.toNat
    |>.store 64 2 announce.tlvType.toNat
    |>.store 66 2 announce.tlvLength.toNat

/-- `sendAnnounce`: the send buffer and the number of octets sent from it. -/
def sendAnnounce (sender : AnnounceSender) (announce : PTPMsgAnnounce) (sendbuf : Memory) :
    Memory × UInt16 :=
  let ssize := composedSize announce
  let sdata := composeAnnounce sender announce sendbuf
  if 0 < announce.tlvLength then
    (sdata.copy 68 (8 * (announce.tlvLength.toNat / 8)) announce.pathSequence, UInt16.ofInt ssize)
  else if sender.conformToAvnu then (sdata, UInt16.ofInt (ssize - 2 - 2))
  else (sdata, UInt16.ofInt ssize)

inductive MdAnnounceSendState where
  | init
  | initialise
  | sendAnnounce
  | reaction
  deriving DecidableEq, Repr

/-- `md_announce_send_data` without the Announce. -/
structure AnnounceSend where
  state : MdAnnounceSendState
  lastState : MdAnnounceSendState
  rcvdTxAnnounce : Bool

namespace AnnounceSend

/-- The passes of `md_announce_send_sm`, where `result` is what `sendAnnounce` returns. -/
def arm (result : Int) (stateChange : Bool) (sm : AnnounceSend) : AnnounceSend × Option Unit :=
  match sm.state with
  | .init => ({ sm with state := .initialise }, none)
  | .initialise =>
    ({ sm with state := if sm.rcvdTxAnnounce then .sendAnnounce else .initialise }, none)
  | .sendAnnounce =>
    if stateChange then
      let sm := { sm with rcvdTxAnnounce := false }
      if result = -2 then ({ sm with lastState := .reaction }, some ()) else (sm, none)
    else (if sm.rcvdTxAnnounce then { sm with lastState := .reaction } else sm, none)
  | .reaction => (sm, none)

def machine (result : Int) : Machine AnnounceSend MdAnnounceSendState Unit where
  state := state
  lastState := lastState
  setLastState sm state := { sm with lastState := state }
  arm := arm result

def weight (sm : AnnounceSend) : Nat :=
  match sm.state with
  | .init => 4
  | .initialise => 3
  | .sendAnnounce => if sm.lastState = .sendAnnounce then 2 else 1
  | .reaction => 0

theorem descends (result : Int) : (machine result).Descends weight := by
  rintro ⟨state, lastState, rcvdTxAnnounce⟩ none unstable
  simp only [Machine.switch, machine] at none unstable ⊢
  cases state
  all_goals simp only [arm] at none unstable ⊢
  case init => simp [weight]
  case reaction => exact absurd rfl unstable
  case initialise => cases rcvdTxAnnounce <;> simp_all [weight]
  case sendAnnounce =>
    by_cases same : lastState = .sendAnnounce
    · cases rcvdTxAnnounce <;> simp_all [weight]
    · by_cases failed : result = -2 <;> simp_all

end AnnounceSend

/-- `md_announce_send_sm`; `down` is the condition of `allstate_condition`. -/
def mdAnnounceSendSm (down : Bool) (result : Int) (sm : AnnounceSend) : Option AnnounceSend :=
  ((AnnounceSend.machine result).run 5 (if down then
    { sm with state := .initialise, lastState := .reaction } else sm)).map Prod.fst

theorem mdAnnounceSendSm_total (down : Bool) (result : Int) (sm : AnnounceSend) :
    ∃ next, mdAnnounceSendSm down result sm = some next := by
  rw [mdAnnounceSendSm]
  generalize (if down then _ else sm) = entered
  have small : entered.weight < 5 := by
    unfold AnnounceSend.weight
    split <;> try split
    all_goals decide
  obtain ⟨final, _, finished⟩ := (AnnounceSend.descends result).total small
  exact ⟨final, by rw [finished]; rfl⟩

/-- `IEEE_1588_ANNOUNCE_NO_TLV_SIZE`. -/
def announceNoTlvSize : Nat := 64

/-- Whether the receiver takes the path sequence: it has to fit the message and the
array. -/
def acceptsTlv (messageLength tlvLength : UInt16) : Bool :=
  (tlvLength.toNat : Int) ≤ messageLength.toNat - (announceNoTlvSize + 2 + 2 : Int) &&
    decide (tlvLength.toNat / 8 ≤ maxPathTraceN)

/-- The values that `recAnnounce` takes from every message. -/
def recFixed (message : Memory) (rcvdAnnounce : PTPMsgAnnounce) : PTPMsgAnnounce :=
  { rcvdAnnounce with
    header := mdDecomposeHead message
    currentUtcOffset := (UInt16.ofNat (message.load 44 2)).toInt16
    grandmasterPriority1 := UInt8.ofNat (message.load 47 1)
    grandmasterClockQuality :=
      { clockClass := UInt8.ofNat (message.load 48 1)
        clockAccuracy := UInt8.ofNat (message.load 49 1)
        offsetScaledLogVariance := UInt16.ofNat (message.load 50 2) }
    grandmasterPriority2 := UInt8.ofNat (message.load 52 1)
    grandmasterIdentity := message.array 53 8
    stepsRemoved := UInt16.ofNat (message.load 61 2)
    timeSource := UInt8.ofNat (message.load 63 1) }

/-- The octets from `pathSequence` to the end of the decoded structure, where six octets of
padding follow the array. -/
def pathSequenceRoom : Nat := pathSequenceSize + 6

def recTlv (message : Memory) (rcvdAnnounce : PTPMsgAnnounce) : PTPMsgAnnounce :=
  { recFixed message rcvdAnnounce with
    tlvType := UInt16.ofNat (message.load 64 2)
    tlvLength := UInt16.ofNat (message.load 66 2)
    pathSequence := memcpy rcvdAnnounce.pathSequence (fun _ => 0xFF) pathSequenceSize }

def recPath (message : Memory) (rcvdAnnounce : PTPMsgAnnounce) : PTPMsgAnnounce :=
  let tlv := recTlv message rcvdAnnounce
  { tlv with
    pathSequence := memcpy tlv.pathSequence (message.skip 68)
      (min tlv.tlvLength.toNat pathSequenceRoom) }

def foreignSdo (cmldsMode : Bool) (message : Memory) : Bool :=
  !cmldsMode && (mdDecomposeHead message).majorSdoId != 0x1

def hasTlv (message : Memory) : Bool :=
  decide (announceNoTlvSize < (mdDecomposeHead message).messageLength.toNat)

def validTlv (message : Memory) : Bool :=
  acceptsTlv (mdDecomposeHead message).messageLength (UInt16.ofNat (message.load 66 2))

/-- `recAnnounce`: the structure it fills, and whether it returns it. -/
def recAnnounce (cmldsMode : Bool) (message : Memory) (rcvdAnnounce : PTPMsgAnnounce) :
    PTPMsgAnnounce × Bool :=
  if foreignSdo cmldsMode message then
    ({ rcvdAnnounce with header := mdDecomposeHead message }, false)
  else if hasTlv message then
    if validTlv message then (recPath message rcvdAnnounce, true)
    else (recTlv message rcvdAnnounce, false)
  else (recFixed message rcvdAnnounce, true)

structure Recovers (sender : AnnounceSender) (announce received : PTPMsgAnnounce) : Prop where
  domainIndex : received.header.domainIndex = sender.domainIndex
  flags : received.header.flags = announce.header.flags
  sourcePortIdentity : received.header.sourcePortIdentity =
    { clockIdentity := sender.thisClock, portIndex := sender.thisPort }
  sequenceId : received.header.sequenceId = announce.header.sequenceId
  logMessageInterval : received.header.logMessageInterval = sender.currentLogAnnounceInterval
  currentUtcOffset : received.currentUtcOffset = announce.currentUtcOffset
  grandmasterPriority1 : received.grandmasterPriority1 = announce.grandmasterPriority1
  grandmasterClockQuality : received.grandmasterClockQuality = announce.grandmasterClockQuality
  grandmasterPriority2 : received.grandmasterPriority2 = announce.grandmasterPriority2
  grandmasterIdentity : received.grandmasterIdentity = announce.grandmasterIdentity
  stepsRemoved : received.stepsRemoved = announce.stepsRemoved
  timeSource : received.timeSource = announce.timeSource
  tlvType : received.tlvType = announce.tlvType
  tlvLength : received.tlvLength = announce.tlvLength
  pathSequence : ∀ index < announce.tlvLength.toNat,
    received.pathSequence index = announce.pathSequence index

def arrives (sent : Memory × UInt16) (buffer : Memory) : Memory := buffer.copy 0 sent.2.toNat sent.1

/-- Whatever the buffers and the decoded structure held before, decoding recovers
what was encoded, and the length in the header is the number of octets sent. -/
def AnnounceRoundTrip (sender : AnnounceSender) (announce : PTPMsgAnnounce) : Prop :=
  ∀ (cmldsMode : Bool) (sendbuf buffer : Memory) (rcvdAnnounce : PTPMsgAnnounce),
    (mdDecomposeHead (sendAnnounce sender announce sendbuf).1).messageLength =
      (sendAnnounce sender announce sendbuf).2 ∧
    ∃ received, recAnnounce cmldsMode (arrives (sendAnnounce sender announce sendbuf) buffer)
      rcvdAnnounce = (received, true) ∧ Recovers sender announce received

section Composed

variable (sender : AnnounceSender) (announce : PTPMsgAnnounce) (sendbuf : Memory)

structure ComposedHeader (header : PTPMsgHeader) : Prop where
  majorSdoId : header.majorSdoId = 1
  messageLength : header.messageLength = UInt16.ofInt (composedSize announce)
  domainIndex : header.domainIndex = sender.domainIndex
  flags : header.flags = announce.header.flags
  sourcePortIdentity : header.sourcePortIdentity =
    { clockIdentity := sender.thisClock, portIndex := sender.thisPort }
  sequenceId : header.sequenceId = announce.header.sequenceId
  logMessageInterval : header.logMessageInterval = sender.currentLogAnnounceInterval

theorem composedHeader : ComposedHeader sender announce
    (mdDecomposeHead (composeAnnounce sender announce sendbuf)) := by
  have sdo := packNibbles_nibbles (by decide : (1 : UInt8) < 16) (by decide : (11 : UInt8) < 16)
  constructor
  all_goals
    simp (disch := omega) [mdDecomposeHead, composeAnnounce, mdHeaderCompose, mdComposeHead,
      mdHeaderTemplate, PTPMsgType.code, Memory.load_store_apart, Memory.load_storeArray_apart,
      Memory.array_store_apart, Memory.array_storeArray_apart, sdo.1]

theorem composedFields : UInt16.ofNat ((composeAnnounce sender announce sendbuf).load 44 2) =
        announce.currentUtcOffset.toUInt16 ∧
      UInt8.ofNat ((composeAnnounce sender announce sendbuf).load 47 1) =
        announce.grandmasterPriority1 ∧
      UInt8.ofNat ((composeAnnounce sender announce sendbuf).load 48 1) =
        announce.grandmasterClockQuality.clockClass ∧
      UInt8.ofNat ((composeAnnounce sender announce sendbuf).load 49 1) =
        announce.grandmasterClockQuality.clockAccuracy ∧
      UInt16.ofNat ((composeAnnounce sender announce sendbuf).load 50 2) =
        announce.grandmasterClockQuality.offsetScaledLogVariance ∧
      UInt8.ofNat ((composeAnnounce sender announce sendbuf).load 52 1) =
        announce.grandmasterPriority2 ∧
      (composeAnnounce sender announce sendbuf).array 53 8 = announce.grandmasterIdentity ∧
      UInt16.ofNat ((composeAnnounce sender announce sendbuf).load 61 2) = announce.stepsRemoved ∧
      UInt8.ofNat ((composeAnnounce sender announce sendbuf).load 63 1) = announce.timeSource ∧
      UInt16.ofNat ((composeAnnounce sender announce sendbuf).load 64 2) = announce.tlvType ∧
      UInt16.ofNat ((composeAnnounce sender announce sendbuf).load 66 2) = announce.tlvLength := by
  refine ⟨?_, ?_, ?_, ?_, ?_, ?_, ?_, ?_, ?_, ?_, ?_⟩
  all_goals
    simp (disch := omega) [composeAnnounce, Memory.load_store_apart, Memory.load_storeArray_apart,
      Memory.array_store_apart]

variable {sender announce sendbuf}

theorem header_of_agree
    (agree : ∀ index < 68, message index = composeAnnounce sender announce sendbuf index) :
    ComposedHeader sender announce (mdDecomposeHead message) := by
  rw [mdDecomposeHead_congr fun index inside => agree index (by omega)]
  exact composedHeader sender announce sendbuf

theorem recovers_of_agree (rcvdAnnounce : PTPMsgAnnounce)
    (fits : announce.tlvLength.toNat ≤ pathSequenceSize)
    (agree : ∀ index < 68, message index = composeAnnounce sender announce sendbuf index)
    (path : ∀ index < announce.tlvLength.toNat, message (68 + index) = announce.pathSequence index)
    : Recovers sender announce (recPath message rcvdAnnounce) := by
  have header := header_of_agree agree
  obtain ⟨utc, priority1, class_, accuracy, variance, priority2, identity, steps, source, type,
    length⟩ := composedFields sender announce sendbuf
  have load : ∀ offset count, offset + count ≤ 68 → message.load offset count =
      (composeAnnounce sender announce sendbuf).load offset count := by
    intro offset count inside
    apply Memory.load_congr
    intro index small
    exact agree _ (by omega)
  have array : message.array 53 8 = (composeAnnounce sender announce sendbuf).array 53 8 := by
    apply Memory.array_congr
    intro index small
    exact agree _ (by omega)
  have tlvLength : (recPath message rcvdAnnounce).tlvLength = announce.tlvLength := by
    rw [← length, ← load 66 2 (by omega)]
    rfl
  constructor
  case pathSequence =>
    intro index inside
    have place : (recPath message rcvdAnnounce).pathSequence index = message (68 + index) :=
      if_pos (by
        rw [← tlvLength] at inside fits
        exact Nat.lt_min.mpr ⟨inside, by unfold pathSequenceRoom; omega⟩)
    rw [place, path index inside]
  case tlvLength => exact tlvLength
  case domainIndex => exact header.domainIndex
  case flags => exact header.flags
  case sourcePortIdentity => exact header.sourcePortIdentity
  case sequenceId => exact header.sequenceId
  case logMessageInterval => exact header.logMessageInterval
  all_goals simp only [recPath, recTlv, recFixed]
  case grandmasterIdentity => rw [array, identity]
  case currentUtcOffset => rw [load 44 2 (by omega), utc, Int16.toInt16_toUInt16]
  case grandmasterPriority1 => rw [load 47 1 (by omega), priority1]
  case grandmasterClockQuality =>
    rw [load 48 1 (by omega), class_, load 49 1 (by omega), accuracy, load 50 2 (by omega),
      variance]
  case grandmasterPriority2 => rw [load 52 1 (by omega), priority2]
  case stepsRemoved => rw [load 61 2 (by omega), steps]
  case timeSource => rw [load 63 1 (by omega), source]
  case tlvType => rw [load 64 2 (by omega), type]

end Composed

section RoundTrip

variable {sender : AnnounceSender} {announce : PTPMsgAnnounce} {n : Nat}

section

variable (length : announce.tlvLength.toNat = 8 * n)
include length

theorem composedSize_eq : composedSize announce = 68 + 8 * n := by
  unfold composedSize announceSize
  omega

theorem composedSize_toNat (fits : n ≤ maxPathTraceN) :
    (UInt16.ofInt (composedSize announce)).toNat = 68 + 8 * n := by
  rw [composedSize_eq length]
  unfold maxPathTraceN at fits
  simp [UInt16.ofInt]
  omega

structure SentWhole (sender : AnnounceSender) (announce : PTPMsgAnnounce) (sendbuf : Memory)
    (sent : Memory × UInt16) : Prop where
  size : sent.2 = UInt16.ofInt (composedSize announce)
  composed : ∀ index < 68, sent.1 index = composeAnnounce sender announce sendbuf index
  path : ∀ index < announce.tlvLength.toNat, sent.1 (68 + index) = announce.pathSequence index

theorem sentWhole (whole : 0 < n ∨ sender.conformToAvnu = false) (sendbuf : Memory) :
    SentWhole sender announce sendbuf (sendAnnounce sender announce sendbuf) := by
  unfold sendAnnounce
  rcases Nat.eq_zero_or_pos n with rfl | positive
  · have absent : ¬ 0 < announce.tlvLength := by
      rw [UInt16.lt_iff_toNat_lt, length]
      decide
    have ieee := whole.resolve_left (Nat.lt_irrefl 0)
    simp only [absent, if_false, ieee]
    refine ⟨rfl, fun _ _ => rfl, fun index impossible => ?_⟩
    omega
  · have present : 0 < announce.tlvLength := by
      rw [UInt16.lt_iff_toNat_lt, length]
      exact Nat.mul_pos (by decide) positive
    simp only [present, if_true]
    refine ⟨rfl, fun index inside => ?_, fun index inside => ?_⟩
    · exact Memory.copy_outside index (Or.inl inside)
    · apply Memory.copy_inside
      omega

theorem recAnnounce_arrives (fits : n ≤ maxPathTraceN)
    (sent : Memory × UInt16) (whole : SentWhole sender announce sendbuf sent)
    (cmldsMode : Bool) (buffer : Memory) (rcvdAnnounce : PTPMsgAnnounce) :
    recAnnounce cmldsMode (arrives sent buffer) rcvdAnnounce =
        (recPath (arrives sent buffer) rcvdAnnounce, true) ∧
      Recovers sender announce (recPath (arrives sent buffer) rcvdAnnounce) := by
  have size : sent.2.toNat = 68 + 8 * n := by
    rw [whole.size, composedSize_toNat length fits]
  have octet : ∀ index < 68 + 8 * n, arrives sent buffer index = sent.1 index := by
    intro index inside
    exact if_pos ⟨Nat.zero_le _, by omega⟩
  have agree : ∀ index < 68,
      arrives sent buffer index = composeAnnounce sender announce sendbuf index := by
    intro index inside
    rw [octet index (by omega), whole.composed index inside]
  have header := header_of_agree agree
  have messageLength : (mdDecomposeHead (arrives sent buffer)).messageLength.toNat = 68 + 8 * n := by
    rw [header.messageLength, composedSize_toNat length fits]
  have recovered := recovers_of_agree rcvdAnnounce (by unfold pathSequenceSize; omega) agree
    fun index inside => by rw [octet (68 + index) (by omega), whole.path index inside]
  have gptp : foreignSdo cmldsMode (arrives sent buffer) = false := by
    simp [foreignSdo, header.majorSdoId]
  have tlv : hasTlv (arrives sent buffer) = true := by
    unfold hasTlv announceNoTlvSize
    exact decide_eq_true (by omega)
  have valid : validTlv (arrives sent buffer) = true := by
    have received : UInt16.ofNat ((arrives sent buffer).load 66 2) = announce.tlvLength :=
      recovered.tlvLength
    unfold validTlv acceptsTlv announceNoTlvSize
    rw [received, messageLength, length]
    simp
    omega
  refine ⟨?_, recovered⟩
  rw [recAnnounce, gptp, tlv, valid]
  rfl

end

/-- Encoding and decoding an Announce with a path-trace TLV is a round trip, and the
header tells the number of octets sent, except for the empty TLV that Avnu leaves
out: its four octets are cut off after the header has been written. -/
theorem announceRoundTrip_iff (sender : AnnounceSender) (announce : PTPMsgAnnounce) (n : Nat)
    (length : announce.tlvLength.toNat = 8 * n) (fits : n ≤ maxPathTraceN) :
    AnnounceRoundTrip sender announce ↔ 0 < n ∨ sender.conformToAvnu = false := by
  constructor
  · intro roundTrip
    rcases Nat.eq_zero_or_pos n with rfl | positive
    · cases avnu : sender.conformToAvnu with
      | false => exact Or.inr rfl
      | true =>
        have absent : ¬ 0 < announce.tlvLength := by
          rw [UInt16.lt_iff_toNat_lt, length]
          decide
        obtain ⟨told, _⟩ := roundTrip false Memory.zero Memory.zero (recFixed Memory.zero announce)
        have sent : sendAnnounce sender announce Memory.zero =
            (composeAnnounce sender announce Memory.zero, UInt16.ofInt (composedSize announce - 2 - 2)) := by
          simp only [sendAnnounce, absent, if_false, avnu, if_true]
        have lengths : UInt16.ofInt (68 + 8 * (0 : Nat)) = UInt16.ofInt (68 + 8 * (0 : Nat) - 2 - 2) := by
          rw [sent, (composedHeader sender announce Memory.zero).messageLength,
            composedSize_eq length] at told
          exact told
        exact absurd lengths (by decide)
    · exact Or.inl positive
  · intro whole cmldsMode sendbuf buffer rcvdAnnounce
    have sent := sentWhole length whole sendbuf
    have agree := header_of_agree sent.composed
    exact ⟨agree.messageLength.trans sent.size.symm, _,
      recAnnounce_arrives length fits _ sent cmldsMode buffer rcvdAnnounce⟩

end RoundTrip

def AnnounceSender.sample (conformToAvnu : Bool) : AnnounceSender where
  settings := { minorVersionPTP := 1, ptpTimescale := true, mode2011 := false }
  thisClock := ClockIdentity.fill 1
  thisPort := 1
  domainIndex := 0
  currentLogAnnounceInterval := 0
  conformToAvnu := conformToAvnu

def announceCleared : PTPMsgAnnounce where
  header := mdDecomposeHead Memory.zero
  currentUtcOffset := 0
  grandmasterPriority1 := 0
  grandmasterClockQuality := { clockClass := 0, clockAccuracy := 0, offsetScaledLogVariance := 0 }
  grandmasterPriority2 := 0
  grandmasterIdentity := ClockIdentity.fill 0
  stepsRemoved := 0
  timeSource := 0
  tlvType := 0
  tlvLength := 0
  pathSequence := fun _ => 0

def announceOfLength (tlvLength : UInt16) : PTPMsgAnnounce :=
  { announceCleared with
    grandmasterPriority1 := 246
    grandmasterIdentity := ClockIdentity.fill 2
    tlvType := 0x8
    tlvLength := tlvLength
    pathSequence := fun _ => 2 }

/-- Two entries arrive. -/
theorem announceRoundTrip_two : AnnounceRoundTrip (.sample true) (announceOfLength 16) :=
  (announceRoundTrip_iff (.sample true) (announceOfLength 16) 2 (by decide) (by decide)).mpr
    (Or.inl (by decide))

/-- The header of the Announce that Avnu sends without a TLV tells four octets too many. -/
theorem announceRoundTrip_avnu : ¬ AnnounceRoundTrip (.sample true) (announceOfLength 0) := by
  intro roundTrip
  have told := (roundTrip false Memory.zero Memory.zero (announceOfLength 0)).1
  revert told
  decide +kernel

end EnetTsn.Md
