import EnetTsn.Bmcs.AnnounceInformation
import EnetTsn.Bmcs.Initial
import EnetTsn.Md.AnnounceReception

namespace EnetTsn.Bmcs

open EnetTsn.Gptp EnetTsn.Library EnetTsn.Md

def toldLength (message : Memory) : Nat := (UInt16.ofNat (message.load 66 2)).toNat

/-- The count of the second `memcpy` in `recAnnounce`, zero where it is not reached. -/
def recAnnounceCount (cmldsMode : Bool) (message : Memory) : Nat :=
  if foreignSdo cmldsMode message = false ∧ hasTlv message = true ∧ validTlv message = true then
    toldLength message
  else 0

/-- A port that is about to record the Announce it holds: it has qualified the Announce and
found it superior to what it has recorded. -/
structure Recording (thisClock : ClockIdentity) (announce : PTPMsgAnnounce) (port : Port) :
    Prop where
  buffer : port.parecd.buffer = announce
  qualified : qualifies thisClock announce = true
  superior : AnnounceInformation.receiveCondition (rcvdInfo port) = .superiorMasterPort

/-- Some port records an Announce that qualifies. -/
theorem exists_recording (qualified : qualifies thisClock announce = true) :
    ∃ port, Recording thisClock announce port := by
  let base := Port.init .sample 1
  let port : Port := { base with
    parecd := { base.parecd with buffer := announce }
    bppg := { base.bppg with portPriority := UInteger224.fill 0xFF } }
  let message := messageVector port.painfd.messagePriority announce port.ppg.thisPort
  have near : message.stepsRemoved < 255 := by
    simp only [qualifies, Bool.and_eq_true, decide_eq_true_eq] at qualified
    exact qualified.1.2
  have different : message.key ≠ (UInteger224.fill 0xFF).key := by
    intro same
    have steps := (List.cons.inj (List.append_inj same (by simp)).2).1
    have full : (UInteger224.fill 0xFF).stepsRemoved.toNat = 65535 := rfl
    have bound : (255 : UInt16).toNat = 255 := rfl
    rw [UInt16.lt_iff_toNat_lt] at near
    omega
  have below : message.key < (UInteger224.fill 0xFF).key :=
    lt_of_le_of_ne (not_lt.mp (fill_not_superior message)) different
  refine ⟨port, rfl, qualified, ?_⟩
  have classified : classify port message = .superiorMasterInfo := by
    have other : ¬ port.bppg.portPriority = message := fun same => different (same ▸ rfl)
    unfold classify
    rw [if_pos nofun, if_neg other, if_pos ((superior_iff _ _).mpr below)]
  unfold AnnounceInformation.receiveCondition
  rw [if_neg nofun, show (rcvdInfo port).painfd.rcvdInfo = classify port message from rfl,
    classified]

section Reception

variable (settings : ReceiverSettings) (thisClock : ClockIdentity) (frame : List UInt8)
  (receiver : AnnounceReceiver)

/-- The message that is decoded: the octets of the frame, and what the buffer held behind them. -/
def readMessage : Memory := messageOver frame receiver.rxbuf

def pathOctets : Nat :=
  if hasTlv (readMessage frame receiver) then messageSize frame - 68 else 0

def unknownDomain : Bool :=
  readMessage frame receiver 4 != 0 && !settings.knownDomain (readMessage frame receiver 4)

def decodedCount : Nat :=
  if unknownDomain settings frame receiver then 0
  else recAnnounceCount (receiver.decoder.cmldsMode != 0) (readMessage frame receiver)

def FitsPath (count : Nat) : Prop :=
  count ≤ pathSequenceSize ∧ count ≤ pathOctets frame receiver

/-- The copy into the decoded structure keeps to the array and to the frame, and so does the one
into the record of a port that goes on to record the Announce. -/
def CopiesFit : Prop :=
  FitsPath frame receiver (decodedCount settings frame receiver) ∧
    ∀ announce, (receive settings frame receiver).2 = some announce →
      ∀ port, Recording thisClock announce port →
        FitsPath frame receiver (recordCount port.parecd.buffer)

/-- The count is the one that decoding copies with: of the structure before, maybe filled with
ones, that many octets are replaced by those of the message. -/
def DecodeCopies : Prop :=
  ∃ path, (path = receiver.decoder.rcvdAnnounce.pathSequence ∨
      path = (recTlv (readMessage frame receiver) receiver.decoder.rcvdAnnounce).pathSequence) ∧
    (receive settings frame receiver).1.decoder.rcvdAnnounce.pathSequence =
      memcpy path ((readMessage frame receiver).skip 68)
        (min (decodedCount settings frame receiver) pathSequenceRoom)

/-- The count is the one that recording copies with, and the record is left when it is too large. -/
structure RecordCopies (port : Port) : Prop where
  copied : (recordOtherAnnounceInfo port).bppg.annPathSequence =
    memcpy port.bppg.annPathSequence port.parecd.buffer.pathSequence
      (min (recordCount port.parecd.buffer) pathSequenceSize)
  left : (recordOtherAnnounceInfo port).bppg.overrun = true ↔
    port.bppg.overrun = true ∨ pathSequenceSize < recordCount port.parecd.buffer

def acceptsAnnounce : Bool :=
  !unknownDomain settings frame receiver &&
    !foreignSdo (receiver.decoder.cmldsMode != 0) (readMessage frame receiver) &&
      (!hasTlv (readMessage frame receiver) || validTlv (readMessage frame receiver))

/-- The TLV of an accepted message is no longer than the array and lies in the frame; without
one no length is kept from an earlier message, or the Announce does not qualify. -/
def PathWithin : Prop :=
  acceptsAnnounce settings frame receiver = true →
    if hasTlv (readMessage frame receiver) then
      toldLength (readMessage frame receiver) ≤ pathSequenceSize ∧
        toldLength (readMessage frame receiver) ≤ messageSize frame - 68
    else receiver.decoder.rcvdAnnounce.tlvLength = 0 ∨
      qualifies thisClock (recFixed (readMessage frame receiver) receiver.decoder.rcvdAnnounce) =
        false

variable {settings thisClock frame receiver}

private theorem decodedCount_eq (accepted : acceptsAnnounce settings frame receiver = true)
    (tlv : hasTlv (readMessage frame receiver) = true) :
    decodedCount settings frame receiver = toldLength (readMessage frame receiver) := by
  simp only [acceptsAnnounce, tlv, Bool.and_eq_true, Bool.not_eq_true', Bool.not_true,
    Bool.false_or] at accepted
  obtain ⟨⟨known, own⟩, valid⟩ := accepted
  rw [decodedCount, if_neg (by simp [known]), recAnnounceCount, if_pos ⟨own, tlv, valid⟩]

theorem decodedCount_eq_zero (ignored : acceptsAnnounce settings frame receiver = false ∨
      hasTlv (readMessage frame receiver) = false) : decodedCount settings frame receiver = 0 := by
  unfold decodedCount
  split
  · rfl
  · rename_i known
    refine if_neg fun ⟨own, tlv, valid⟩ => ?_
    rcases ignored with rejected | noTlv
    · simp [acceptsAnnounce, known, own, tlv, valid] at rejected
    · exact Bool.false_ne_true (noTlv.symm.trans tlv)

theorem handed_eq (announce : AnnounceFrame frame) : (receive settings frame receiver).2 =
      if acceptsAnnounce settings frame receiver then
        decodedTlv (readMessage frame receiver) receiver.decoder.rcvdAnnounce
      else none := by
  have type : lowNibble (readMessage frame receiver 0) = PTPMsgType.announce.code := by
    rw [readMessage, messageOver_inside announce.size_pos]
    exact announce.type
  rw [announce.receive, ← readMessage]
  by_cases unknown : unknownDomain settings frame receiver = true
  · have unknown' := unknown
    simp only [unknownDomain, Bool.and_eq_true, bne_iff_ne, Bool.not_eq_true'] at unknown'
    rw [decoded_of_unknown unknown'.1 unknown'.2, if_neg (by simp [acceptsAnnounce, unknown])]
  · have known := unknown
    simp only [unknownDomain, Bool.and_eq_true, bne_iff_ne, Bool.not_eq_true'] at known
    rw [decoded_eq type known, decodedTlv]
    simp only [acceptsAnnounce, unknown]
    cases foreignSdo (receiver.decoder.cmldsMode != 0) (readMessage frame receiver) <;>
      cases hasTlv (readMessage frame receiver) <;>
        cases validTlv (readMessage frame receiver) <;> rfl

private theorem recordCount_decodedTlv
    (handed : decodedTlv (readMessage frame receiver) receiver.decoder.rcvdAnnounce = some next) :
    recordCount next =
      if hasTlv (readMessage frame receiver) then toldLength (readMessage frame receiver)
      else receiver.decoder.rcvdAnnounce.tlvLength.toNat := by
  unfold decodedTlv at handed
  split at handed
  · rename_i tlv
    split at handed
    · rw [if_pos tlv, ← Option.some.inj handed]
      rfl
    · exact nomatch handed
  · rename_i noTlv
    rw [if_neg noTlv, ← Option.some.inj handed]
    rfl

private theorem exists_decodedTlv (accepted : acceptsAnnounce settings frame receiver = true) :
    ∃ next, decodedTlv (readMessage frame receiver) receiver.decoder.rcvdAnnounce = some next := by
  unfold decodedTlv
  simp only [acceptsAnnounce, Bool.and_eq_true] at accepted
  split
  · rename_i tlv
    rw [tlv, Bool.not_true, Bool.false_or] at accepted
    exact ⟨_, if_pos accepted.2⟩
  · exact ⟨_, rfl⟩

theorem memcpy_zero (path source : Nat → UInt8) : memcpy path source 0 = path := by
  funext index
  exact if_neg (Nat.not_lt_zero index)

theorem decodeCopies (announce : AnnounceFrame frame) : DecodeCopies settings frame receiver := by
  have type : lowNibble (readMessage frame receiver 0) = PTPMsgType.announce.code := by
    rw [readMessage, messageOver_inside announce.size_pos]
    exact announce.type
  unfold DecodeCopies
  rw [(announce.receive_cases receiver).2, ← readMessage, recvMessage, decodedCount]
  cases unknown : unknownDomain settings frame receiver with
  | true =>
    have unknown' := unknown
    simp only [unknownDomain, Bool.and_eq_true, bne_iff_ne, Bool.not_eq_true'] at unknown'
    rw [if_pos unknown', if_pos rfl, Nat.zero_min]
    exact ⟨_, Or.inl rfl, (memcpy_zero _ _).symm⟩
  | false =>
    have known : ¬ (readMessage frame receiver 4 ≠ 0 ∧
        settings.knownDomain (readMessage frame receiver 4) = false) := by
      simpa [unknownDomain] using unknown
    rw [if_neg known, if_pos type, if_neg Bool.false_ne_true, AnnounceDecoder.recAnnounce,
      Md.recAnnounce, recAnnounceCount]
    cases foreignSdo (receiver.decoder.cmldsMode != 0) (readMessage frame receiver)
    · cases hasTlv (readMessage frame receiver)
      · exact ⟨_, Or.inl rfl, (memcpy_zero _ _).symm⟩
      · cases validTlv (readMessage frame receiver)
        · exact ⟨_, Or.inr rfl, (memcpy_zero _ _).symm⟩
        · exact ⟨_, Or.inr rfl, rfl⟩
    · exact ⟨_, Or.inl rfl, (memcpy_zero _ _).symm⟩

end Reception

private theorem recordCopies (port : Port) : RecordCopies port where
  copied := rfl
  left := by simp

def freshReceiver : AnnounceReceiver where
  rxbuf := Memory.zero
  decoder := startDecoder .sample

/-- An Announce of first priority 1, with a path of two identities. -/
def twoHopsFrame : List UInt8 :=
  List.replicate 12 0 ++ [0x88, 0xF7] ++ [0x1B, 0x02, 0x00, 84] ++ List.replicate 43 0 ++ [1] ++
    List.replicate 16 0 ++ [0x00, 0x08, 0x00, 16] ++ List.replicate 8 5 ++ List.replicate 8 6

theorem twoHopsFrame_announce : AnnounceFrame twoHopsFrame :=
  ⟨by decide, by decide, rfl, rfl⟩

end EnetTsn.Bmcs
