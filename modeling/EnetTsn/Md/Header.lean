import EnetTsn.Gptp.Types
import EnetTsn.Library.Octets

namespace EnetTsn.Md

open EnetTsn.Gptp EnetTsn.Library

/-- The message types in use (`PTPMsgType`). -/
inductive PTPMsgType where
  | sync
  | pdelayReq
  | pdelayResp
  | followUp
  | pdelayRespFollowUp
  | announce
  | signaling
  deriving DecidableEq, Repr

namespace PTPMsgType

def code : PTPMsgType → UInt8
  | sync => 0x0
  | pdelayReq => 0x2
  | pdelayResp => 0x3
  | followUp => 0x8
  | pdelayRespFollowUp => 0xA
  | announce => 0xB
  | signaling => 0xC

end PTPMsgType

structure HeaderSettings where
  minorVersionPTP : UInt8
  ptpTimescale : Bool
  /-- `MODE_8021_AS_2011`. -/
  mode2011 : Bool

def packNibbles (high low : UInt8) : UInt8 := high <<< 4 ||| low

def highNibble (octet : UInt8) : UInt8 := octet >>> 4 &&& 0xF

def lowNibble (octet : UInt8) : UInt8 := octet &&& 0xF

def mdComposeHead (head : PTPMsgHeader) (memory : Memory) : Memory :=
  memory
    |>.store 0 1 (packNibbles head.majorSdoId head.messageType).toNat
    |>.store 1 1 (packNibbles head.minorVersionPTP head.versionPTP).toNat
    |>.store 2 2 head.messageLength.toNat
    |>.store 4 1 head.domainIndex.toNat
    |>.store 5 1 head.minorSdoId.toNat
    |>.store 6 1 head.flags.1.toNat
    |>.store 7 1 head.flags.2.toNat
    |>.store 8 8 head.correctionField.toUInt64.toNat
    |>.storeArray 16 head.messageTypeSpecific
    |>.storeArray 20 head.sourcePortIdentity.clockIdentity
    |>.store 28 2 head.sourcePortIdentity.portIndex.toNat
    |>.store 30 2 head.sequenceId.toNat
    |>.store 32 1 head.control.toNat
    |>.store 33 1 head.logMessageInterval.toUInt8.toNat

def mdDecomposeHead (memory : Memory) : PTPMsgHeader where
  majorSdoId := highNibble (UInt8.ofNat (memory.load 0 1))
  messageType := lowNibble (UInt8.ofNat (memory.load 0 1))
  minorVersionPTP := highNibble (UInt8.ofNat (memory.load 1 1))
  versionPTP := lowNibble (UInt8.ofNat (memory.load 1 1))
  messageLength := UInt16.ofNat (memory.load 2 2)
  domainIndex := UInt8.ofNat (memory.load 4 1)
  minorSdoId := UInt8.ofNat (memory.load 5 1)
  flags := (UInt8.ofNat (memory.load 6 1), UInt8.ofNat (memory.load 7 1))
  correctionField := (UInt64.ofNat (memory.load 8 8)).toInt64
  messageTypeSpecific := memory.array 16 4
  sourcePortIdentity :=
    { clockIdentity := memory.array 20 8, portIndex := UInt16.ofNat (memory.load 28 2) }
  sequenceId := UInt16.ofNat (memory.load 30 2)
  control := UInt8.ofNat (memory.load 32 1)
  logMessageInterval := (UInt8.ofNat (memory.load 33 1)).toInt8

def mdHeaderTemplate (settings : HeaderSettings) (msgtype : PTPMsgType) (len : UInt16)
    (portId : PortIdentity) (seqid : UInt16) (logMessageInterval : Int8) : PTPMsgHeader where
  majorSdoId := 1
  messageType := msgtype.code
  minorVersionPTP := settings.minorVersionPTP
  versionPTP := 2
  messageLength := len
  domainIndex := 0
  minorSdoId := 0
  flags :=
    (if msgtype = .sync ∨ msgtype = .pdelayResp then 0x2 else 0x0,
      if (msgtype = .announce ∨ settings.mode2011) ∧ settings.ptpTimescale then 0x8 else 0x0)
  correctionField := 0
  messageTypeSpecific := Vector.replicate 4 0
  sourcePortIdentity := portId
  sequenceId := seqid
  control :=
    if settings.mode2011 then
      match msgtype with
      | .sync => 0x0
      | .followUp => 0x2
      | _ => 0x5
    else 0x0
  logMessageInterval := logMessageInterval

/-- `md_header_compose`: the send buffer is cleared over the length of the message. -/
def mdHeaderCompose (settings : HeaderSettings) (msgtype : PTPMsgType) (ssize : UInt16)
    (thisClock : ClockIdentity) (thisPort : UInt16) (seqid : UInt16) (logMessageInterval : Int8)
    (sendbuf : Memory) : Memory :=
  mdComposeHead (mdHeaderTemplate settings msgtype ssize
    { clockIdentity := thisClock, portIndex := thisPort } seqid logMessageInterval)
    (sendbuf.copy 0 ssize.toNat Memory.zero)

theorem mdDecomposeHead_congr (same : ∀ index < 34, memory index = memory' index) :
    mdDecomposeHead memory = mdDecomposeHead memory' := by
  have load : ∀ offset count, offset + count ≤ 34 →
      memory.load offset count = memory'.load offset count := by
    intro offset count inside
    apply Memory.load_congr
    intro index small
    exact same _ (by omega)
  have array : ∀ offset count, offset + count ≤ 34 →
      memory.array offset count = memory'.array offset count := by
    intro offset count inside
    apply Memory.array_congr
    intro index small
    exact same _ (by omega)
  simp (disch := omega) only [mdDecomposeHead, load, array]

theorem exists_nibble (fits : value < 16) : ∃ nibble : Fin 16, value = UInt8.ofNat nibble :=
  ⟨⟨value.toNat, UInt8.lt_iff_toNat_lt.mp fits⟩, by simp⟩

theorem packNibbles_nibbles (highFits : high < 16) (lowFits : low < 16) :
    highNibble (packNibbles high low) = high ∧ lowNibble (packNibbles high low) = low := by
  obtain ⟨high, rfl⟩ := exists_nibble highFits
  obtain ⟨low, rfl⟩ := exists_nibble lowFits
  revert high low
  decide

theorem mdDecomposeHead_compose (head : PTPMsgHeader) (memory : Memory)
    (sdo : head.majorSdoId < 16) (type : head.messageType < 16)
    (minor : head.minorVersionPTP < 16) (version : head.versionPTP < 16) :
    mdDecomposeHead (mdComposeHead head memory) = head := by
  obtain ⟨highSdo, lowSdo⟩ := packNibbles_nibbles sdo type
  obtain ⟨highVersion, lowVersion⟩ := packNibbles_nibbles minor version
  simp only [mdDecomposeHead, mdComposeHead]
  simp (disch := omega) [Memory.load_store_apart, Memory.load_storeArray_apart,
    Memory.array_store_apart, Memory.array_storeArray_apart, highSdo, lowSdo, highVersion,
    lowVersion]

theorem packNibbles_of_nibbles (octet : UInt8) :
    packNibbles (highNibble octet) (lowNibble octet) = octet := by
  have every : ∀ value : Fin 256, packNibbles (highNibble (UInt8.ofNat value))
      (lowNibble (UInt8.ofNat value)) = UInt8.ofNat value := by
    decide +kernel
  simpa using every ⟨octet.toNat, octet.toNat_lt⟩

theorem nibbles_lt (octet : UInt8) : highNibble octet < 16 ∧ lowNibble octet < 16 := by
  have every : ∀ value : Fin 256, highNibble (UInt8.ofNat value) < 16 ∧
      lowNibble (UInt8.ofNat value) < 16 := by
    decide +kernel
  simpa using every ⟨octet.toNat, octet.toNat_lt⟩

theorem octet_eq_of_nibbles (high : highNibble octet = highNibble octet')
    (low : lowNibble octet = lowNibble octet') : octet = octet' := by
  rw [← packNibbles_of_nibbles octet, high, low, packNibbles_of_nibbles]

theorem agree_of_mdDecomposeHead (same : mdDecomposeHead memory = mdDecomposeHead memory') :
    ∀ index < 34, memory index = memory' index := by
  simp only [mdDecomposeHead, PTPMsgHeader.mk.injEq, PortIdentity.mk.injEq, Prod.mk.injEq] at same
  obtain ⟨sdo, type, minor, version, length, domain, minorSdo, ⟨flags0, flags1⟩, correction,
    specific, ⟨clock, port⟩, sequenceId, control, interval⟩ := same
  have octet : ∀ offset, UInt8.ofNat (memory.load offset 1) = memory offset ∧
      UInt8.ofNat (memory'.load offset 1) = memory' offset := by
    intro offset
    simp [Memory.load]
  simp only [octet] at sdo type minor version domain minorSdo flags0 flags1 control interval
  have number16 : ∀ offset,
      UInt16.ofNat (memory.load offset 2) = UInt16.ofNat (memory'.load offset 2) →
      ∀ index < 2, memory (offset + index) = memory' (offset + index) := by
    intro offset equal
    have bound : memory.load offset 2 < 2 ^ 16 := memory.load_lt offset 2
    have bound' : memory'.load offset 2 < 2 ^ 16 := memory'.load_lt offset 2
    apply (Memory.load_eq_iff memory memory' offset 2).mp
    have values := congrArg UInt16.toNat equal
    rwa [UInt16.toNat_ofNat', UInt16.toNat_ofNat', Nat.mod_eq_of_lt bound,
      Nat.mod_eq_of_lt bound'] at values
  have correctionOctets : ∀ index < 8, memory (8 + index) = memory' (8 + index) := by
    have bound : memory.load 8 8 < 2 ^ 64 := memory.load_lt 8 8
    have bound' : memory'.load 8 8 < 2 ^ 64 := memory'.load_lt 8 8
    apply (Memory.load_eq_iff memory memory' 8 8).mp
    have values := congrArg (fun value : Int64 => value.toUInt64.toNat) correction
    simp only [UInt64.toUInt64_toInt64, UInt64.toNat_ofNat'] at values
    rwa [Nat.mod_eq_of_lt bound, Nat.mod_eq_of_lt bound'] at values
  have first := octet_eq_of_nibbles sdo type
  have second := octet_eq_of_nibbles minor version
  have last := congrArg Int8.toUInt8 interval
  have specificOctets := (Memory.array_eq_iff memory memory' 16 4).mp specific
  have clockOctets := (Memory.array_eq_iff memory memory' 20 8).mp clock
  intro index small
  -- The octets field by field.
  rcases (by omega : index = 0 ∨ index = 1 ∨ (2 ≤ index ∧ index < 4) ∨ index = 4 ∨ index = 5 ∨
      index = 6 ∨ index = 7 ∨ (8 ≤ index ∧ index < 16) ∨ (16 ≤ index ∧ index < 20) ∨
      (20 ≤ index ∧ index < 28) ∨ (28 ≤ index ∧ index < 30) ∨ (30 ≤ index ∧ index < 32) ∨
      index = 32 ∨ index = 33) with
    rfl | rfl | here | rfl | rfl | rfl | rfl | here | here | here | here | here | rfl | rfl
  · exact first
  · exact second
  · simpa [show 2 + (index - 2) = index by omega] using number16 2 length (index - 2) (by omega)
  · exact domain
  · exact minorSdo
  · exact flags0
  · exact flags1
  · simpa [show 8 + (index - 8) = index by omega] using correctionOctets (index - 8) (by omega)
  · simpa [show 16 + (index - 16) = index by omega] using specificOctets (index - 16) (by omega)
  · simpa [show 20 + (index - 20) = index by omega] using clockOctets (index - 20) (by omega)
  · simpa [show 28 + (index - 28) = index by omega] using number16 28 port (index - 28) (by omega)
  · simpa [show 30 + (index - 30) = index by omega] using
      number16 30 sequenceId (index - 30) (by omega)
  · exact control
  · exact last

theorem mdComposeHead_decompose (memory sendbuf : Memory) :
    ∀ index < 34, mdComposeHead (mdDecomposeHead memory) sendbuf index = memory index := by
  apply agree_of_mdDecomposeHead
  exact mdDecomposeHead_compose _ sendbuf (nibbles_lt _).1 (nibbles_lt _).2 (nibbles_lt _).1
    (nibbles_lt _).2

end EnetTsn.Md
