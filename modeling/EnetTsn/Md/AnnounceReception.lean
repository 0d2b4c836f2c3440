import EnetTsn.Md.Announce

namespace EnetTsn.Md

open EnetTsn.Gptp EnetTsn.Library

/-- `sizeof(gpnet->rxbuf)`: an Ethernet header and a message. -/
def rxbufSize : Nat := 14 + 1500

def ethPtp : Nat := 0x88F7

def ethVlan : Nat := 0x8100

def octets (frame : List UInt8) : Memory := fun index => frame.getD index 0

/-- What the Announces of a port are decoded into, with the `cmlds_mode` behind it, read as an
unsigned number. -/
structure AnnounceDecoder where
  rcvdAnnounce : PTPMsgAnnounce
  cmldsMode : Nat

/-- `recAnnounce` with what its `memcpy` writes behind the structure. The longest path that is
taken reaches one octet further, the low one of `cmlds_mode`. -/
def AnnounceDecoder.recAnnounce (message : Memory) (decoder : AnnounceDecoder) :
    AnnounceDecoder × Bool :=
  let result := Md.recAnnounce (decoder.cmldsMode != 0) message decoder.rcvdAnnounce
  ({ rcvdAnnounce := result.1
     cmldsMode :=
      if result.2 ∧ hasTlv message ∧ pathSequenceRoom < result.1.tlvLength.toNat then
        256 * (decoder.cmldsMode / 256) + (message (68 + pathSequenceRoom)).toNat
      else decoder.cmldsMode }, result.2)

/-- The receive buffer with the memory behind it, and the decoder of a port. -/
structure AnnounceReceiver where
  rxbuf : Memory
  decoder : AnnounceDecoder

/-- `get_domain_index`, and the configured `cmlds_mode`. -/
structure ReceiverSettings where
  knownDomain : UInt8 → Bool
  cmldsMode : Nat

def headerLength (rxbuf : Memory) : Nat := if rxbuf.load 12 2 = ethVlan then 18 else 14

/-- The octets that `provide_rxframe` moves when it strips a VLAN tag. -/
def stripTag (rxbuf : Memory) : Memory :=
  if rxbuf.load 12 2 = ethVlan then rxbuf.copy 4 12 rxbuf else rxbuf

/-- The branch of `gptpnet_cb_recv` for an Announce. -/
def recvMessage (settings : ReceiverSettings) (message : Memory) (decoder : AnnounceDecoder) :
    AnnounceDecoder × Bool :=
  if message 4 ≠ 0 ∧ settings.knownDomain (message 4) = false then (decoder, false)
  else if lowNibble (message 0) = PTPMsgType.announce.code then decoder.recAnnounce message
  else (decoder, false)

/-- `process_rxdata` and `provide_rxframe` for one frame: the receiver afterwards and
the Announce that is handed on. -/
def receive (settings : ReceiverSettings) (frame : List UInt8) (receiver : AnnounceReceiver) :
    AnnounceReceiver × Option PTPMsgAnnounce :=
  if rxbufSize < frame.length then (receiver, none)
  else
    let rxbuf := receiver.rxbuf.copy 0 frame.length (octets frame)
    if frame.length ≤ 14 then ({ receiver with rxbuf := rxbuf }, none)
    else
      let stripped := stripTag rxbuf
      if stripped.load (headerLength rxbuf - 2) 2 = ethPtp then
        let result := recvMessage settings (stripped.skip (headerLength rxbuf)) receiver.decoder
        ({ rxbuf := stripped, decoder := result.1 },
          if result.2 then some result.1.rcvdAnnounce else none)
      else ({ receiver with rxbuf := stripped }, none)

/-- The decoder as `md_announce_receive_sm_init` leaves it. -/
def startDecoder (settings : ReceiverSettings) : AnnounceDecoder where
  rcvdAnnounce := announceCleared
  cmldsMode := settings.cmldsMode

/-- The receiver after some frames. The buffer starts cleared, what lies behind it is
other data. -/
def receiverAfter (settings : ReceiverSettings) (beyond : Memory)
    (earlier : List (List UInt8)) : AnnounceReceiver :=
  earlier.foldl (fun receiver frame => (receive settings frame receiver).1)
    { rxbuf := beyond.copy 0 rxbufSize Memory.zero, decoder := startDecoder settings }

/-- Equal decoded values: all fields, and the whole array of the path sequence. -/
structure SameAnnounce (first second : PTPMsgAnnounce) : Prop where
  fields : { first with pathSequence := second.pathSequence } = second
  path : ∀ index < pathSequenceSize, first.pathSequence index = second.pathSequence index

def SameDecoded : Option PTPMsgAnnounce → Option PTPMsgAnnounce → Prop
  | none, none => True
  | some first, some second => SameAnnounce first second
  | _, _ => False

/-- What is decoded from the frame does not depend on the frames before it, nor on what
lies behind the buffer. -/
def HistoryFree (settings : ReceiverSettings) (frame : List UInt8) : Prop :=
  ∀ beyond beyond' earlier earlier',
    SameDecoded (receive settings frame (receiverAfter settings beyond earlier)).2
      (receive settings frame (receiverAfter settings beyond' earlier')).2

def messageOctets (frame : List UInt8) : Memory :=
  (octets frame).skip (headerLength (octets frame))

def messageSize (frame : List UInt8) : Nat := frame.length - headerLength (octets frame)

structure AnnounceFrame (frame : List UInt8) : Prop where
  fits : frame.length ≤ rxbufSize
  long : headerLength (octets frame) < frame.length
  ptp : (octets frame).load (headerLength (octets frame) - 2) 2 = ethPtp
  type : lowNibble (messageOctets frame 0) = PTPMsgType.announce.code

def decoded (settings : ReceiverSettings) (message : Memory) (decoder : AnnounceDecoder) :
    Option PTPMsgAnnounce :=
  let result := recvMessage settings message decoder
  if result.2 then some result.1.rcvdAnnounce else none

def messageOver (frame : List UInt8) (rxbuf : Memory) : Memory := fun index =>
  if index < messageSize frame then messageOctets frame index
  else rxbuf (headerLength (octets frame) + index)

theorem headerLength_cases (memory : Memory) :
    (headerLength memory = 18 ∧ memory.load 12 2 = ethVlan) ∨
      (headerLength memory = 14 ∧ memory.load 12 2 ≠ ethVlan) := by
  unfold headerLength
  split
  · rename_i tagged
    exact Or.inl ⟨rfl, tagged⟩
  · rename_i plain
    exact Or.inr ⟨rfl, plain⟩

section Frame

variable {settings : ReceiverSettings} {frame : List UInt8}

section

variable (announce : AnnounceFrame frame)
include announce

theorem AnnounceFrame.receive_cases (receiver : AnnounceReceiver) :
    (receive settings frame receiver).2 =
        decoded settings (messageOver frame receiver.rxbuf) receiver.decoder ∧
      (receive settings frame receiver).1.decoder =
        (recvMessage settings (messageOver frame receiver.rxbuf) receiver.decoder).1 := by
  have fits : ¬ rxbufSize < frame.length := Nat.not_lt.mpr announce.fits
  have long := announce.long
  have minimum : 14 ≤ headerLength (octets frame) := by
    rcases headerLength_cases (octets frame) with ⟨length, _⟩ | ⟨length, _⟩ <;> omega
  have present : ¬ frame.length ≤ 14 := by omega
  have tag : (receiver.rxbuf.copy 0 frame.length (octets frame)).load 12 2 =
      (octets frame).load 12 2 := Memory.load_copy_inside (by omega)
  have header : headerLength (receiver.rxbuf.copy 0 frame.length (octets frame)) =
      headerLength (octets frame) := by
    unfold headerLength
    rw [tag]
  have behind : ∀ index, headerLength (octets frame) ≤ index + 2 →
      stripTag (receiver.rxbuf.copy 0 frame.length (octets frame)) index =
        receiver.rxbuf.copy 0 frame.length (octets frame) index := by
    intro index far
    unfold stripTag
    rw [tag]
    rcases headerLength_cases (octets frame) with ⟨length, tagged⟩ | ⟨_, plain⟩
    · rw [if_pos tagged]
      exact Memory.copy_outside index (Or.inr (by omega))
    · rw [if_neg plain]
  have type : (stripTag (receiver.rxbuf.copy 0 frame.length (octets frame))).load
      (headerLength (octets frame) - 2) 2 = ethPtp := by
    rw [← announce.ptp]
    apply Memory.load_congr
    intro index small
    rw [behind _ (by omega)]
    exact if_pos ⟨Nat.zero_le _, by omega⟩
  have message : (stripTag (receiver.rxbuf.copy 0 frame.length (octets frame))).skip
      (headerLength (octets frame)) = messageOver frame receiver.rxbuf := by
    funext index
    unfold Memory.skip
    rw [behind _ (by omega)]
    unfold messageOver messageSize Memory.copy
    by_cases inside : index < frame.length - headerLength (octets frame)
    · rw [if_pos inside, if_pos (by omega)]
      rfl
    · rw [if_neg inside, if_neg (by omega)]
  unfold Md.receive
  simp only [fits, if_false, present, header, type, if_true, message]
  exact ⟨rfl, trivial⟩

theorem AnnounceFrame.receive (receiver : AnnounceReceiver) : (receive settings frame receiver).2 =
      decoded settings (messageOver frame receiver.rxbuf) receiver.decoder :=
  (announce.receive_cases receiver).1

theorem AnnounceFrame.size_pos : 0 < messageSize frame :=
  Nat.sub_pos_of_lt announce.long

end

theorem messageOver_zero : messageOver frame Memory.zero = messageOctets frame := by
  funext index
  unfold messageOver
  split
  · rfl
  · rename_i past
    have absent : frame.length ≤ headerLength (octets frame) + index := by
      unfold messageSize at past
      omega
    simp [messageOctets, Memory.skip, octets, Memory.zero, absent]

/-- A frame of another protocol that fills the buffer leaves nothing else in it. -/
theorem receive_filler (full : frame.length = rxbufSize) (twelve : octets frame 12 = 0)
    (thirteen : octets frame 13 = 0) (receiver : AnnounceReceiver) :
    (receive settings frame receiver).1 =
      { receiver with rxbuf := receiver.rxbuf.copy 0 rxbufSize (octets frame) } := by
  have type : (receiver.rxbuf.copy 0 frame.length (octets frame)).load 12 2 = 0 := by
    rw [Memory.load_copy_inside (by rw [full]; decide)]
    simp [Memory.load, twelve, thirteen]
  have plain : ¬ (0 : Nat) = ethVlan := by decide
  have other : ¬ (0 : Nat) = ethPtp := by decide
  have fits : ¬ rxbufSize < frame.length := by omega
  have long : ¬ frame.length ≤ 14 := by
    rw [full]
    decide
  simp only [receive, fits, long, if_false, stripTag, headerLength, type, plain, Nat.reduceSub,
    other]
  rw [full]

theorem exists_history (settings : ReceiverSettings) (stale : Memory) :
    ∃ beyond earlier, (receiverAfter settings beyond earlier).decoder = startDecoder settings ∧
      ∀ index, 14 ≤ index → (receiverAfter settings beyond earlier).rxbuf index = stale index := by
  let frame : List UInt8 := List.ofFn fun index : Fin rxbufSize =>
    if index.val = 12 ∨ index.val = 13 then 0 else stale index
  have octet : ∀ index, index < rxbufSize → octets frame index =
      if index = 12 ∨ index = 13 then 0 else stale index := by
    intro index inside
    simp [octets, frame, inside]
  have after : receiverAfter settings stale [frame] =
      { rxbuf := (stale.copy 0 rxbufSize Memory.zero).copy 0 rxbufSize (octets frame)
        decoder := startDecoder settings } :=
    receive_filler List.length_ofFn (octet 12 (by decide)) (octet 13 (by decide)) _
  refine ⟨stale, [frame], by rw [after], fun index far => ?_⟩
  rw [after]
  dsimp only
  by_cases inside : index < rxbufSize
  · rw [Memory.copy_start index inside, octet index inside, if_neg (by omega)]
  · rw [Memory.copy_outside index (Or.inr (by omega)), Memory.copy_outside index (Or.inr (by omega))]

theorem HistoryFree.over (free : HistoryFree settings frame) (announce : AnnounceFrame frame)
    (stale stale' : Memory) :
    SameDecoded (decoded settings (messageOver frame stale) (startDecoder settings))
      (decoded settings (messageOver frame stale') (startDecoder settings)) := by
  obtain ⟨beyond, earlier, cleared, buffer⟩ := exists_history settings stale
  obtain ⟨beyond', earlier', cleared', buffer'⟩ := exists_history settings stale'
  have minimum : 14 ≤ headerLength (octets frame) := by
    rcases headerLength_cases (octets frame) with ⟨length, _⟩ | ⟨length, _⟩ <;> omega
  have message : ∀ rxbuf stale : Memory, (∀ index, 14 ≤ index → rxbuf index = stale index) →
      messageOver frame rxbuf = messageOver frame stale := by
    intro rxbuf stale same
    funext index
    unfold messageOver
    rw [same _ (by omega)]
  have same := free beyond beyond' earlier earlier'
  rw [announce.receive, announce.receive, cleared, cleared', message _ _ buffer,
    message _ _ buffer'] at same
  exact same

end Frame

/-- Whether the message is refused where `cmlds_mode` is zero, and its low octet is all that
it has. -/
def modeDecides (settings : ReceiverSettings) (message : Memory) : Bool :=
  foreignSdo (256 ≤ settings.cmldsMode) message

/-- The condition on the frame: it goes to an unknown domain, or it tells of a TLV and brings all
octets that decide about it. -/
def Determined (settings : ReceiverSettings) (frame : List UInt8) : Prop :=
  let message := messageOctets frame
  let size := messageSize frame
  (4 < size ∧ message 4 ≠ 0 ∧ settings.knownDomain (message 4) = false) ∨
  (4 ≤ size ∧ hasTlv message = true ∧
    ((mdDecomposeHead message).messageLength < 68 ∨ (67 ≤ size ∧ validTlv message = false) ∨
      (modeDecides settings message = false ∧
        68 + min (UInt16.ofNat (message.load 66 2)).toNat pathSequenceSize ≤ size)))

section Decoded

variable {settings : ReceiverSettings} {message message' : Memory}
  {rcvdAnnounce rcvdAnnounce' : PTPMsgAnnounce} {decoder : AnnounceDecoder}

theorem foreignSdo_congr (same : message 0 = message' 0) :
    foreignSdo cmldsMode message = foreignSdo cmldsMode message' := by
  have octet : message.load 0 1 = message'.load 0 1 := by simp [Memory.load, same]
  unfold foreignSdo mdDecomposeHead
  rw [octet]

theorem messageLength_congr (first : message 2 = message' 2) (second : message 3 = message' 3) :
    (mdDecomposeHead message).messageLength = (mdDecomposeHead message').messageLength := by
  have octets : message.load 2 2 = message'.load 2 2 := by simp [Memory.load, first, second]
  unfold mdDecomposeHead
  rw [octets]

theorem hasTlv_congr (first : message 2 = message' 2) (second : message 3 = message' 3) :
    hasTlv message = hasTlv message' := by
  unfold hasTlv
  rw [messageLength_congr first second]

theorem decoded_of_unknown (other : message 4 ≠ 0)
    (unknown : settings.knownDomain (message 4) = false) :
    decoded settings message decoder = none := by
  have ignored : recvMessage settings message decoder = (decoder, false) := if_pos ⟨other, unknown⟩
  unfold decoded
  rw [ignored]
  rfl

def decodedTlv (message : Memory) (rcvdAnnounce : PTPMsgAnnounce) : Option PTPMsgAnnounce :=
  if hasTlv message then if validTlv message then some (recPath message rcvdAnnounce) else none
  else some (recFixed message rcvdAnnounce)

theorem decoded_eq (type : lowNibble (message 0) = PTPMsgType.announce.code)
    (known : ¬ (message 4 ≠ 0 ∧ settings.knownDomain (message 4) = false)) :
    decoded settings message decoder = if foreignSdo (decoder.cmldsMode != 0) message then none
      else decodedTlv message decoder.rcvdAnnounce := by
  unfold decoded recvMessage AnnounceDecoder.recAnnounce recAnnounce decodedTlv
  rw [if_neg known, if_pos type]
  cases foreignSdo (decoder.cmldsMode != 0) message <;> cases hasTlv message <;>
    cases validTlv message <;> rfl

theorem decoded_of_invalid (tlv : hasTlv message = true) (invalid : validTlv message = false) :
    decoded settings message decoder = none := by
  unfold decoded recvMessage AnnounceDecoder.recAnnounce recAnnounce
  rw [tlv, invalid]
  split
  · rfl
  · cases foreignSdo (decoder.cmldsMode != 0) message <;> split <;> rfl

private theorem validTlv_of_short (short : (mdDecomposeHead message).messageLength < 68) :
    validTlv message = false := by
  unfold validTlv acceptsTlv announceNoTlvSize
  rw [UInt16.lt_iff_toNat_lt] at short
  simp
  have bound : (68 : UInt16).toNat = 68 := rfl
  omega

private theorem acceptsTlv_anti (longer : length.toNat ≤ length'.toNat)
    (invalid : acceptsTlv messageLength length = false) :
    acceptsTlv messageLength length' = false := by
  unfold acceptsTlv at invalid ⊢
  simp at invalid ⊢
  intro fits
  have tooLong := invalid (by omega)
  have quotient : length.toNat / 8 ≤ length'.toNat / 8 := Nat.div_le_div_right longer
  omega

theorem recFixed_congr (same : ∀ index < 64, message index = message' index) :
    recFixed message rcvdAnnounce = recFixed message' rcvdAnnounce := by
  have load : ∀ offset count, offset + count ≤ 64 →
      message.load offset count = message'.load offset count := by
    intro offset count inside
    apply Memory.load_congr
    intro index small
    exact same _ (by omega)
  have array : message.array 53 8 = message'.array 53 8 := by
    apply Memory.array_congr
    intro index small
    exact same _ (by omega)
  have header : mdDecomposeHead message = mdDecomposeHead message' :=
    mdDecomposeHead_congr fun index inside => same _ (by omega)
  simp (disch := omega) only [recFixed, header, array, load]

theorem sameAnnounce_recPath (same : ∀ index,
      index < 68 + min (UInt16.ofNat (message.load 66 2)).toNat pathSequenceSize →
        message index = message' index) :
    SameAnnounce (recPath message rcvdAnnounce) (recPath message' rcvdAnnounce') := by
  have load : ∀ offset, offset + 2 ≤ 68 → message.load offset 2 = message'.load offset 2 := by
    intro offset inside
    apply Memory.load_congr
    intro index small
    exact same _ (by omega)
  have fixed := @recFixed_congr message message' rcvdAnnounce fun index small => same index (by omega)
  constructor
  · simp only [recPath, recTlv, fixed, load 64 (by omega), load 66 (by omega)]
    rfl
  · intro index inside
    have length : (recPath message' rcvdAnnounce').tlvLength =
        (recPath message rcvdAnnounce).tlvLength := by
      simp only [recPath, recTlv, load 66 (by omega)]
    have path : ∀ (message : Memory) rcvdAnnounce,
        (recPath message rcvdAnnounce).pathSequence index =
          if index < (recPath message rcvdAnnounce).tlvLength.toNat then message (68 + index)
          else 0xFF := by
      intro message rcvdAnnounce
      have room : index < pathSequenceRoom := Nat.lt_add_right 6 inside
      simp [recPath, recTlv, memcpy, inside, room, Memory.skip]
    rw [path, path, length]
    by_cases entry : index < (recPath message rcvdAnnounce).tlvLength.toNat
    · rw [if_pos entry, if_pos entry]
      exact same _ (Nat.add_lt_add_left (Nat.lt_min.mpr ⟨entry, inside⟩) 68)
    · rw [if_neg entry, if_neg entry]

/-- No frame changes more of the mode than its low octet. -/
theorem cmldsMode_recvMessage (message : Memory) (decoder : AnnounceDecoder) :
    (recvMessage settings message decoder).1.cmldsMode / 256 = decoder.cmldsMode / 256 := by
  unfold recvMessage AnnounceDecoder.recAnnounce
  split
  · rfl
  · split
    · dsimp only
      split
      · have octet := (message (68 + pathSequenceRoom)).toNat_lt
        omega
      · rfl
    · rfl

private theorem cmldsMode_receive (frame : List UInt8) (receiver : AnnounceReceiver) :
    (receive settings frame receiver).1.decoder.cmldsMode / 256 =
      receiver.decoder.cmldsMode / 256 := by
  unfold Md.receive
  split
  · rfl
  · dsimp only
    split
    · rfl
    · split
      · exact cmldsMode_recvMessage _ _
      · rfl

theorem cmldsMode_receiverAfter (settings : ReceiverSettings) (beyond : Memory)
    (earlier : List (List UInt8)) :
    (receiverAfter settings beyond earlier).decoder.cmldsMode / 256 = settings.cmldsMode / 256 := by
  have frames : ∀ receiver : AnnounceReceiver,
      (earlier.foldl (fun receiver frame => (receive settings frame receiver).1)
        receiver).decoder.cmldsMode / 256 = receiver.decoder.cmldsMode / 256 := by
    induction earlier with
    | nil => exact fun _ => rfl
    | cons frame rest ih => exact fun receiver => (ih _).trans (cmldsMode_receive frame receiver)
  exact frames _

/-- A message that the mode does not decide about is taken as far as the mode goes. -/
theorem foreignSdo_of_undecided (undecided : modeDecides settings message = false)
    (high : mode / 256 = settings.cmldsMode / 256) : foreignSdo (mode != 0) message = false := by
  unfold modeDecides foreignSdo at undecided
  unfold foreignSdo
  by_cases large : 256 ≤ settings.cmldsMode
  · have positive : mode ≠ 0 := by omega
    simp [positive]
  · simp only [large, decide_false, Bool.not_false, Bool.true_and] at undecided
    rw [undecided, Bool.and_false]

end Decoded

section Forward

variable {settings : ReceiverSettings} {frame : List UInt8}

theorem messageOver_inside (inside : index < messageSize frame) :
    messageOver frame rxbuf index = messageOctets frame index := if_pos inside

theorem tlvLength_eq (memory : Memory) :
    (UInt16.ofNat (memory.load 66 2)).toNat = 256 * (memory 66).toNat + (memory 67).toNat := by
  have octets : memory.load 66 2 = 256 * (memory 66).toNat + (memory 67).toNat := by
    simp [Memory.load]
  rw [UInt16.toNat_ofNat_of_lt' (memory.load_lt 66 2), octets]

private theorem tlvLength_le (size : 67 ≤ messageSize frame) (rxbuf : Memory) :
    (UInt16.ofNat ((messageOctets frame).load 66 2)).toNat ≤
      (UInt16.ofNat ((messageOver frame rxbuf).load 66 2)).toNat := by
  have low : (messageOctets frame 67).toNat ≤ (messageOver frame rxbuf 67).toNat := by
    rw [← messageOver_zero]
    unfold messageOver
    split
    · exact Nat.le_refl _
    · exact Nat.zero_le _
  have high : messageOver frame rxbuf 66 = messageOctets frame 66 := messageOver_inside size
  rw [tlvLength_eq, tlvLength_eq, high]
  omega

theorem AnnounceFrame.same_of_whole (announce : AnnounceFrame frame)
    (tlv : hasTlv (messageOctets frame) = true)
    (whole : 68 + min (UInt16.ofNat ((messageOctets frame).load 66 2)).toNat pathSequenceSize ≤
      messageSize frame) (taken : ∀ decoder ∈ [first, second],
      foreignSdo (decoder.cmldsMode != 0) (messageOctets frame) = false) (rxbuf rxbuf' : Memory) :
    SameDecoded (decoded settings (messageOver frame rxbuf) first)
      (decoded settings (messageOver frame rxbuf') second) := by
  have octet : ∀ rxbuf index, index < messageSize frame →
      messageOver frame rxbuf index = messageOctets frame index :=
    fun _ _ inside => messageOver_inside inside
  have length : ∀ rxbuf, (messageOver frame rxbuf).load 66 2 = (messageOctets frame).load 66 2 :=
    fun rxbuf => Memory.load_congr fun index small => octet rxbuf _ (by omega)
  have valid : ∀ rxbuf, validTlv (messageOver frame rxbuf) = validTlv (messageOctets frame) := by
    intro rxbuf
    unfold validTlv
    rw [messageLength_congr (octet rxbuf 2 (by omega)) (octet rxbuf 3 (by omega)), length]
  have shown : ∀ rxbuf, ∀ decoder ∈ [first, second],
      ¬ (messageOctets frame 4 ≠ 0 ∧ settings.knownDomain (messageOctets frame 4) = false) →
      decoded settings (messageOver frame rxbuf) decoder = if validTlv (messageOctets frame) then
          some (recPath (messageOver frame rxbuf) decoder.rcvdAnnounce)
        else none := by
    intro rxbuf decoder either known
    rw [← octet rxbuf 4 (by omega)] at known
    rw [decoded_eq (by rw [octet rxbuf 0 (by omega)]; exact announce.type) known,
      foreignSdo_congr (octet rxbuf 0 (by omega)), taken decoder either]
    simp only [Bool.false_eq_true, if_false, decodedTlv, valid]
    rw [hasTlv_congr (octet rxbuf 2 (by omega)) (octet rxbuf 3 (by omega)), tlv]
    rfl
  by_cases unknown : messageOctets frame 4 ≠ 0 ∧
      settings.knownDomain (messageOctets frame 4) = false
  · have ignored : ∀ rxbuf decoder, decoded settings (messageOver frame rxbuf) decoder = none := by
      intro rxbuf decoder
      have unknown' := unknown
      rw [← octet rxbuf 4 (by omega)] at unknown'
      exact decoded_of_unknown unknown'.1 unknown'.2
    rw [ignored, ignored]
    trivial
  · rw [shown rxbuf first (by simp) unknown, shown rxbuf' second (by simp) unknown]
    split
    · apply sameAnnounce_recPath
      intro index inside
      rw [length] at inside
      rw [octet rxbuf index (by omega), octet rxbuf' index (by omega)]
    · trivial

theorem Determined.same (determined : Determined settings frame) (announce : AnnounceFrame frame)
    (high : ∀ decoder ∈ [first, second], decoder.cmldsMode / 256 = settings.cmldsMode / 256)
    (rxbuf rxbuf' : Memory) : SameDecoded (decoded settings (messageOver frame rxbuf) first)
      (decoded settings (messageOver frame rxbuf') second) := by
  have none_same : (∀ rxbuf decoder, decoded settings (messageOver frame rxbuf) decoder = none) →
      SameDecoded (decoded settings (messageOver frame rxbuf) first)
        (decoded settings (messageOver frame rxbuf') second) := by
    intro ignored
    rw [ignored, ignored]
    trivial
  rcases determined with ⟨size, other, unknown⟩ | ⟨size, tlv, rest⟩
  · apply none_same
    intro rxbuf decoder
    have domain := (messageOver_inside size : messageOver frame rxbuf 4 = _)
    apply decoded_of_unknown
    · rw [domain]
      exact other
    · rw [domain]
      exact unknown
  · have tlvOver : ∀ rxbuf, hasTlv (messageOver frame rxbuf) = true := by
      intro rxbuf
      rw [hasTlv_congr (messageOver_inside (by omega)) (messageOver_inside (by omega))]
      exact tlv
    have lengthOver : ∀ rxbuf, (mdDecomposeHead (messageOver frame rxbuf)).messageLength =
        (mdDecomposeHead (messageOctets frame)).messageLength := by
      intro rxbuf
      exact messageLength_congr (messageOver_inside (by omega)) (messageOver_inside (by omega))
    rcases rest with short | ⟨size67, invalid⟩ | ⟨undecided, whole⟩
    · apply none_same
      intro rxbuf decoder
      refine decoded_of_invalid (tlvOver rxbuf) (validTlv_of_short ?_)
      rw [lengthOver]
      exact short
    · apply none_same
      intro rxbuf decoder
      refine decoded_of_invalid (tlvOver rxbuf) ?_
      unfold validTlv at invalid ⊢
      rw [lengthOver]
      refine acceptsTlv_anti ?_ invalid
      exact tlvLength_le size67 rxbuf
    · exact announce.same_of_whole tlv whole
        (fun decoder either => foreignSdo_of_undecided undecided (high decoder either))
        rxbuf rxbuf'

end Forward

section Backward

variable {settings : ReceiverSettings} {frame : List UInt8}

def staleOctet (frame : List UInt8) (position : Nat) : Memory :=
  Function.update Memory.zero (headerLength (octets frame) + position) 1

private theorem messageOver_staleOctet (past : messageSize frame ≤ position) :
    messageOver frame (staleOctet frame position) =
      Function.update (messageOctets frame) position 1 := by
  funext index
  rw [← messageOver_zero]
  unfold messageOver staleOctet
  by_cases same : index = position
  · subst same
    rw [if_neg (by omega), Function.update_self, Function.update_self]
  · rw [Function.update_of_ne same, Function.update_of_ne (by omega)]

theorem messageOctets_past (past : messageSize frame ≤ index) : messageOctets frame index = 0 := by
  rw [← messageOver_zero]
  exact if_neg (by omega)

structure Undetermined (settings : ReceiverSettings) (frame : List UInt8) : Prop where
  announce : AnnounceFrame frame
  known : ¬ (messageOctets frame 4 ≠ 0 ∧ settings.knownDomain (messageOctets frame 4) = false)
  undecided : modeDecides settings (messageOctets frame) = false

theorem known_of_lacks (lacks : ¬ Determined settings frame) :
    ¬ (messageOctets frame 4 ≠ 0 ∧ settings.knownDomain (messageOctets frame 4) = false) := by
  rintro ⟨other, unknown⟩
  refine lacks (Or.inl ⟨?_, other, unknown⟩)
  by_contra past
  exact other (messageOctets_past (by omega))

section

variable (taken : Undetermined settings frame)
include taken

theorem Undetermined.gptp :
    foreignSdo ((startDecoder settings).cmldsMode != 0) (messageOctets frame) = false :=
  foreignSdo_of_undecided taken.undecided rfl

private theorem Undetermined.decoded_update (position : Nat) (behind : 4 < position) :
    decoded settings (Function.update (messageOctets frame) position 1) (startDecoder settings) =
      decodedTlv (Function.update (messageOctets frame) position 1) announceCleared := by
  have first : Function.update (messageOctets frame) position 1 0 = messageOctets frame 0 :=
    Function.update_of_ne (by omega) _ _
  have domain : Function.update (messageOctets frame) position 1 4 = messageOctets frame 4 :=
    Function.update_of_ne (by omega) _ _
  rw [decoded_eq, foreignSdo_congr first, taken.gptp]
  · rfl
  · rw [first]
    exact taken.announce.type
  · rw [domain]
    exact taken.known

private theorem Undetermined.decoded_zero : decoded settings (messageOctets frame) (startDecoder settings) =
      decodedTlv (messageOctets frame) announceCleared := by
  rw [decoded_eq taken.announce.type taken.known, taken.gptp]
  rfl

end

theorem decodedTlv_ne_none (lacks : ¬ Determined settings frame)
    (agree : ∀ index < 68, message index = messageOctets frame index) :
    decodedTlv message rcvdAnnounce ≠ none := by
  have length : message.load 66 2 = (messageOctets frame).load 66 2 :=
    Memory.load_congr fun index small => agree _ (by omega)
  unfold decodedTlv validTlv
  rw [hasTlv_congr (agree 2 (by decide)) (agree 3 (by decide)),
    messageLength_congr (agree 2 (by decide)) (agree 3 (by decide)), length, ← validTlv]
  cases tlv : hasTlv (messageOctets frame) with
  | false => simp
  | true =>
    have long : 68 ≤ (mdDecomposeHead (messageOctets frame)).messageLength.toNat := by
      by_cases size : 4 ≤ messageSize frame
      · by_contra short
        have less : (mdDecomposeHead (messageOctets frame)).messageLength < 68 := by
          exact Nat.lt_of_not_le short
        exact lacks (Or.inr ⟨size, tlv, Or.inl less⟩)
      · have low : messageOctets frame 3 = 0 := messageOctets_past (by omega)
        have length : (mdDecomposeHead (messageOctets frame)).messageLength.toNat =
            256 * (messageOctets frame 2).toNat := by
          have octets : (messageOctets frame).load 2 2 = 256 * (messageOctets frame 2).toNat := by
            simp [Memory.load, low]
          unfold mdDecomposeHead
          rw [UInt16.toNat_ofNat_of_lt' (Memory.load_lt _ 2 2), octets]
        have more : announceNoTlvSize <
            (mdDecomposeHead (messageOctets frame)).messageLength.toNat := of_decide_eq_true tlv
        omega
    have valid : validTlv (messageOctets frame) = true := by
      by_cases size : 67 ≤ messageSize frame
      · rw [← Bool.not_eq_false]
        exact fun invalid => lacks (Or.inr ⟨by omega, tlv, Or.inr (Or.inl ⟨size, invalid⟩)⟩)
      · have empty : (UInt16.ofNat ((messageOctets frame).load 66 2)).toNat = 0 := by
          rw [tlvLength_eq, messageOctets_past (by omega), messageOctets_past (by omega)]
          rfl
        unfold validTlv acceptsTlv announceNoTlvSize
        rw [empty]
        simp
        omega
    simp [valid]

theorem decodedTlv_fields (handed : decodedTlv message rcvdAnnounce = some announce) :
    announce.grandmasterPriority1 = message 47 ∧ announce.timeSource = message 63 := by
  unfold decodedTlv at handed
  split at handed
  · split at handed
    · cases handed
      exact ⟨by simp [recPath, recTlv, recFixed, Memory.load],
        by simp [recPath, recTlv, recFixed, Memory.load]⟩
    · cases handed
  · cases handed
    exact ⟨by simp [recFixed, Memory.load], by simp [recFixed, Memory.load]⟩

theorem decodedTlv_tlv (tlv : hasTlv message = true)
    (handed : decodedTlv message rcvdAnnounce = some announce) :
    announce = recPath message rcvdAnnounce := by
  unfold decodedTlv at handed
  rw [tlv, if_pos rfl] at handed
  split at handed
  · cases handed
    rfl
  · cases handed

theorem HistoryFree.update (free : HistoryFree settings frame)
    (taken : Undetermined settings frame) (lacks : ¬ Determined settings frame)
    (past : messageSize frame ≤ position) (behind : 4 < position) :
    ∃ first second, decodedTlv (messageOctets frame) announceCleared = some first ∧
      decodedTlv (Function.update (messageOctets frame) position 1) announceCleared = some second ∧
      SameAnnounce first second := by
  have same := free.over taken.announce Memory.zero (staleOctet frame position)
  rw [messageOver_zero, messageOver_staleOctet past, taken.decoded_zero,
    taken.decoded_update position behind] at same
  obtain ⟨first, handed⟩ := Option.ne_none_iff_exists'.mp (decodedTlv_ne_none lacks fun _ _ => rfl :
      decodedTlv (messageOctets frame) announceCleared ≠ none)
  rw [handed] at same
  cases handed' : decodedTlv (Function.update (messageOctets frame) position 1) announceCleared with
  | none =>
    rw [handed'] at same
    exact same.elim
  | some second =>
    rw [handed'] at same
    exact ⟨first, second, handed, rfl, same⟩

def emptyTlvFrame : List UInt8 :=
  List.replicate 12 0 ++ [0x88, 0xF7] ++ [0x1B, 0x02, 0x00, 68] ++ List.replicate 60 0 ++
    [0x00, 0x08, 0x00, 0x00]

theorem emptyTlvFrame_announce : AnnounceFrame emptyTlvFrame :=
  ⟨by decide, by decide, rfl, rfl⟩

private theorem tlvType_emptyTlvFrame (settings : ReceiverSettings) :
    (receiverAfter settings Memory.zero [emptyTlvFrame]).decoder.rcvdAnnounce.tlvType = 8 := by
  let message := messageOver emptyTlvFrame (Memory.zero.copy 0 rxbufSize Memory.zero)
  have both : ∀ cmldsMode, (recAnnounce cmldsMode message announceCleared).1.tlvType = 8 := by
    intro cmldsMode
    cases cmldsMode <;> decide +kernel
  have handed : recvMessage settings message (startDecoder settings) =
      (startDecoder settings).recAnnounce message := by
    unfold recvMessage
    rw [if_neg (fun unknown => unknown.1 (by rfl)), if_pos (by decide +kernel)]
  unfold receiverAfter
  rw [List.foldl_cons, List.foldl_nil, (emptyTlvFrame_announce.receive_cases _).2, handed]
  exact both _

section

variable (free : HistoryFree settings frame)
include free

variable (taken : Undetermined settings frame)
include taken

theorem HistoryFree.absurd_of_noTlv (size : 64 ≤ messageSize frame)
    (tlv : hasTlv (messageOctets frame) = false) : False := by
  have handed : ∀ rxbuf (decoder : AnnounceDecoder),
      decoder.cmldsMode / 256 = settings.cmldsMode / 256 →
        decoded settings (messageOver frame rxbuf) decoder =
          some (recFixed (messageOver frame rxbuf) decoder.rcvdAnnounce) := by
    intro rxbuf decoder high
    have octet : ∀ index < 5, messageOver frame rxbuf index = messageOctets frame index :=
      fun index inside => messageOver_inside (by omega)
    have known := taken.known
    rw [← octet 4 (by decide)] at known
    rw [decoded_eq (by rw [octet 0 (by decide)]; exact taken.announce.type) known,
      foreignSdo_congr (octet 0 (by decide)), foreignSdo_of_undecided taken.undecided high]
    unfold decodedTlv
    rw [hasTlv_congr (octet 2 (by decide)) (octet 3 (by decide)), tlv]
    rfl
  have same := free Memory.zero Memory.zero [] [emptyTlvFrame]
  rw [taken.announce.receive, taken.announce.receive,
    handed _ _ (cmldsMode_receiverAfter settings _ _),
    handed _ _ (cmldsMode_receiverAfter settings _ _)] at same
  have types := congrArg PTPMsgAnnounce.tlvType same.fields
  have second := tlvType_emptyTlvFrame settings
  have first : (receiverAfter settings Memory.zero []).decoder.rcvdAnnounce.tlvType = 0 := rfl
  simp only [recFixed] at types
  rw [first, second] at types
  exact absurd types (by decide)

variable (lacks : ¬ Determined settings frame)
include lacks

theorem HistoryFree.fixedPart : 64 ≤ messageSize frame := by
  rcases Nat.lt_or_ge 47 (messageSize frame) with longer | size
  · rcases Nat.lt_or_ge 63 (messageSize frame) with whole | size
    · exact whole
    · obtain ⟨first, second, handed, handed', same⟩ := free.update taken lacks size (by decide)
      have sources := congrArg PTPMsgAnnounce.timeSource same.fields
      have shown : first.timeSource = second.timeSource := sources
      rw [(decodedTlv_fields handed).2, (decodedTlv_fields handed').2, Function.update_self,
        messageOctets_past size] at shown
      exact absurd shown (by decide)
  · obtain ⟨first, second, handed, handed', same⟩ := free.update taken lacks size (by decide)
    have priorities := congrArg PTPMsgAnnounce.grandmasterPriority1 same.fields
    have shown : first.grandmasterPriority1 = second.grandmasterPriority1 := priorities
    rw [(decodedTlv_fields handed).1, (decodedTlv_fields handed').1, Function.update_self,
      messageOctets_past size] at shown
    exact absurd shown (by decide)

theorem HistoryFree.absurd_of_tlv
    (size : 64 ≤ messageSize frame) (tlv : hasTlv (messageOctets frame) = true) : False := by
  have paths : ∀ position, messageSize frame ≤ position →
      SameAnnounce (recPath (messageOctets frame) announceCleared)
        (recPath (Function.update (messageOctets frame) position 1) announceCleared) := by
    intro position past
    obtain ⟨first, second, handed, handed', same⟩ := free.update taken lacks past (by omega)
    have tlv' : hasTlv (Function.update (messageOctets frame) position 1) = true := by
      rw [hasTlv_congr (Function.update_of_ne (by omega) _ _)
        (Function.update_of_ne (by omega) _ _)]
      exact tlv
    rw [decodedTlv_tlv tlv handed, decodedTlv_tlv tlv' handed'] at same
    exact same
  rcases Nat.lt_or_ge 67 (messageSize frame) with whole | size67
  · have cut : messageSize frame - 68 <
        min (UInt16.ofNat ((messageOctets frame).load 66 2)).toNat pathSequenceSize := by
      by_contra fits
      exact lacks (Or.inr ⟨by omega, tlv, Or.inr (Or.inr ⟨taken.undecided, by omega⟩)⟩)
    obtain ⟨entry, inArray⟩ := Nat.lt_min.mp cut
    have room : messageSize frame - 68 < pathSequenceRoom := Nat.lt_add_right 6 inArray
    have same := paths (messageSize frame) (Nat.le_refl _)
    have entry' : messageSize frame - 68 < (UInt16.ofNat (Memory.load
        (Function.update (messageOctets frame) (messageSize frame) 1) 66 2)).toNat := by
      rw [tlvLength_eq] at entry ⊢
      rw [Function.update_of_ne (by omega), Function.update_of_ne (by omega)]
      exact entry
    have shown := same.path (messageSize frame - 68) inArray
    have octet : (recPath (messageOctets frame) announceCleared).pathSequence
        (messageSize frame - 68) = messageOctets frame (68 + (messageSize frame - 68)) :=
      if_pos (Nat.lt_min.mpr ⟨entry, room⟩)
    have octet' : (recPath (Function.update (messageOctets frame) (messageSize frame) 1)
        announceCleared).pathSequence (messageSize frame - 68) =
          Function.update (messageOctets frame) (messageSize frame) 1
            (68 + (messageSize frame - 68)) := if_pos (Nat.lt_min.mpr ⟨entry', room⟩)
    rw [octet, octet', Nat.add_sub_cancel' (by omega : 68 ≤ messageSize frame),
      Function.update_self, messageOctets_past (Nat.le_refl _)] at shown
    exact absurd shown (by decide)
  · have same := paths 67 size67
    have lengths : (UInt16.ofNat ((messageOctets frame).load 66 2)) =
        UInt16.ofNat (Memory.load (Function.update (messageOctets frame) 67 1) 66 2) := by
      have fields := congrArg PTPMsgAnnounce.tlvLength same.fields
      exact fields
    have shown := congrArg UInt16.toNat lengths
    rw [tlvLength_eq, tlvLength_eq, Function.update_self, Function.update_of_ne (by decide),
      messageOctets_past size67] at shown
    simp at shown

end

/-- An Announce with the longest path that is taken, of which it brings nothing. -/
def longTlvFrame : List UInt8 :=
  List.replicate 12 0 ++ [0x88, 0xF7] ++ [0x1B, 0x02, 0x05, 0xE3] ++ List.replicate 62 0 ++
    [0x05, 0x9F]

theorem longTlvFrame_announce : AnnounceFrame longTlvFrame :=
  ⟨by decide, by decide, rfl, rfl⟩

theorem cmldsMode_longTlvFrame (rxbuf : Memory) (decoder : AnnounceDecoder) :
    (recvMessage settings (messageOver longTlvFrame rxbuf) decoder).1.cmldsMode =
      256 * (decoder.cmldsMode / 256) + (rxbuf 1520).toNat := by
  have size : messageSize longTlvFrame = 68 := by rfl
  have octet : ∀ index < 68, messageOver longTlvFrame rxbuf index = messageOctets longTlvFrame index :=
    fun index inside => messageOver_inside (by omega)
  have told : (UInt16.ofNat ((messageOver longTlvFrame rxbuf).load 66 2)).toNat = 1439 := by
    rw [tlvLength_eq, octet 66 (by decide), octet 67 (by decide)]
    rfl
  have tlv : hasTlv (messageOver longTlvFrame rxbuf) = true := by
    rw [hasTlv_congr (octet 2 (by decide)) (octet 3 (by decide))]
    rfl
  have valid : validTlv (messageOver longTlvFrame rxbuf) = true := by
    unfold validTlv
    rw [messageLength_congr (octet 2 (by decide)) (octet 3 (by decide)), UInt16.toNat_inj.mp
      (told.trans (by decide : (1439 : Nat) = (1439 : UInt16).toNat))]
    rfl
  have own : ∀ cmldsMode, foreignSdo cmldsMode (messageOver longTlvFrame rxbuf) = false := by
    intro cmldsMode
    rw [foreignSdo_congr (octet 0 (by decide))]
    cases cmldsMode <;> rfl
  have behind : messageOver longTlvFrame rxbuf (68 + pathSequenceRoom) = rxbuf 1520 := by
    have header : headerLength (octets longTlvFrame) = 14 := by rfl
    rfl
  have handed : Md.recAnnounce (decoder.cmldsMode != 0) (messageOver longTlvFrame rxbuf)
      decoder.rcvdAnnounce =
        (recPath (messageOver longTlvFrame rxbuf) decoder.rcvdAnnounce, true) := by
    unfold Md.recAnnounce
    rw [own, tlv, valid]
    rfl
  unfold recvMessage AnnounceDecoder.recAnnounce
  rw [if_neg (fun unknown => unknown.1 (by rw [octet 4 (by decide)]; rfl)),
    if_pos (by rw [octet 0 (by decide)]; rfl), handed]
  have long : pathSequenceRoom <
      (recPath (messageOver longTlvFrame rxbuf) decoder.rcvdAnnounce).tlvLength.toNat := by
    change pathSequenceRoom < (UInt16.ofNat ((messageOver longTlvFrame rxbuf).load 66 2)).toNat
    rw [told]
    decide
  dsimp only
  rw [if_pos ⟨rfl, tlv, long⟩, behind]

/-- Any octet may come to lie on the low one of the mode, with an empty buffer behind it. -/
theorem exists_mode (settings : ReceiverSettings) (octet : UInt8) : ∃ beyond earlier,
      (receiverAfter settings beyond earlier).decoder.cmldsMode =
        256 * (settings.cmldsMode / 256) + octet.toNat ∧
      ∀ index < rxbufSize, (receiverAfter settings beyond earlier).rxbuf index = 0 := by
  let blank : List UInt8 := List.replicate rxbufSize 0
  have zero : ∀ index, octets blank index = 0 := by
    intro index
    by_cases inside : index < rxbufSize <;> simp [octets, blank, inside]
  refine ⟨fun _ => octet, [longTlvFrame, blank], ?_, fun index inside => ?_⟩
  all_goals
    unfold receiverAfter
    rw [List.foldl_cons, List.foldl_cons, List.foldl_nil,
      receive_filler List.length_replicate (zero 12) (zero 13)]
  · rw [(longTlvFrame_announce.receive_cases _).2, cmldsMode_longTlvFrame]
    dsimp only
    rw [Memory.copy_outside 1520 (Or.inr (by decide))]
    rfl
  · exact (Memory.copy_start index inside).trans (zero index)

theorem HistoryFree.undecided (free : HistoryFree settings frame) (announce : AnnounceFrame frame)
    (lacks : ¬ Determined settings frame) : modeDecides settings (messageOctets frame) = false := by
  by_contra decides
  have foreign : foreignSdo (256 ≤ settings.cmldsMode) (messageOctets frame) = true := by
    simpa [modeDecides] using decides
  have small : settings.cmldsMode / 256 = 0 := by
    unfold foreignSdo at foreign
    simp only [Bool.and_eq_true, Bool.not_eq_true', decide_eq_false_iff_not] at foreign
    omega
  obtain ⟨beyond, earlier, off, buffer⟩ := exists_mode settings 0
  obtain ⟨beyond', earlier', on, buffer'⟩ := exists_mode settings 1
  have octet : ∀ rxbuf : Memory, (∀ index < rxbufSize, rxbuf index = 0) → ∀ index < 68,
      messageOver frame rxbuf index = messageOctets frame index := by
    intro rxbuf empty index inside
    rw [← messageOver_zero]
    unfold messageOver
    split
    · rfl
    · have header : headerLength (octets frame) ≤ 18 := by
        rcases headerLength_cases (octets frame) with ⟨length, _⟩ | ⟨length, _⟩ <;> omega
      exact empty _ (by unfold rxbufSize; omega)
  have same := free beyond beyond' earlier earlier'
  have first := octet _ buffer
  have second := octet _ buffer'
  have known := known_of_lacks lacks
  rw [announce.receive, announce.receive,
    decoded_eq (by rw [first 0 (by decide)]; exact announce.type)
      (by rw [first 4 (by decide)]; exact known),
    decoded_eq (by rw [second 0 (by decide)]; exact announce.type)
      (by rw [second 4 (by decide)]; exact known), off, on, small,
    foreignSdo_congr (first 0 (by decide)), foreignSdo_congr (second 0 (by decide))] at same
  have refused : foreignSdo (256 * 0 + (0 : UInt8).toNat != 0) (messageOctets frame) = true := by
    unfold foreignSdo at foreign ⊢
    simp only [Bool.and_eq_true] at foreign
    simpa using foreign.2
  have taken : foreignSdo (256 * 0 + (1 : UInt8).toNat != 0) (messageOctets frame) = false := rfl
  obtain ⟨next, handed⟩ := Option.ne_none_iff_exists'.mp
    (decodedTlv_ne_none lacks second : decodedTlv _ (receiverAfter settings beyond'
      earlier').decoder.rcvdAnnounce ≠ none)
  rw [refused, taken, if_pos rfl, if_neg (by decide), handed] at same
  exact same

end Backward

/-- Decoding an Announce frame depends on the frames before it, or on what lies behind
the frame, exactly without the condition. -/
theorem historyFree_iff (settings : ReceiverSettings) (frame : List UInt8)
    (announce : AnnounceFrame frame) : HistoryFree settings frame ↔ Determined settings frame := by
  constructor
  · intro free
    by_contra lacks
    have taken : Undetermined settings frame :=
      ⟨announce, known_of_lacks lacks, free.undecided announce lacks⟩
    have size := free.fixedPart taken lacks
    cases tlv : hasTlv (messageOctets frame) with
    | false => exact free.absurd_of_noTlv taken size tlv
    | true => exact free.absurd_of_tlv taken lacks size tlv
  · intro determined beyond beyond' earlier earlier'
    rw [announce.receive, announce.receive]
    refine determined.same announce (fun decoder either => ?_) _ _
    rcases List.mem_cons.mp either with rfl | last
    · exact cmldsMode_receiverAfter settings beyond earlier
    · rw [List.mem_singleton.mp last]
      exact cmldsMode_receiverAfter settings beyond' earlier'

def ReceiverSettings.sample : ReceiverSettings where
  knownDomain := fun _ => false
  cmldsMode := 0

theorem historyFree_emptyTlvFrame : HistoryFree .sample emptyTlvFrame := by
  rw [historyFree_iff .sample emptyTlvFrame emptyTlvFrame_announce]
  refine Or.inr ⟨?_, ?_, Or.inr (Or.inr ⟨?_, ?_⟩)⟩
  all_goals decide

def noTlvFrame : List UInt8 :=
  List.replicate 12 0 ++ [0x88, 0xF7] ++ [0x1B, 0x02, 0x00, 64] ++ List.replicate 60 0

private theorem undetermined_noTlvFrame : Undetermined .sample noTlvFrame := by
  refine ⟨⟨?_, ?_, ?_, ?_⟩, ?_, ?_⟩
  all_goals decide

/-- The TLV of an earlier Announce is handed on with one that has none. -/
theorem noTlvFrame_not_historyFree : ¬ HistoryFree .sample noTlvFrame := by
  intro free
  have size : 64 ≤ messageSize noTlvFrame := by rfl
  have noTlv : hasTlv (messageOctets noTlvFrame) = false := by rfl
  exact free.absurd_of_noTlv undetermined_noTlvFrame size noTlv

end EnetTsn.Md
