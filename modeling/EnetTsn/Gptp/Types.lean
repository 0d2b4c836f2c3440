import Mathlib.Algebra.Ring.Nat

/-!
The base data types of the gPTP stack (`gptpbasetypes.h`, `mind.h`) and the
macros the state machines compute with.
-/

namespace EnetTsn.Gptp

abbrev ClockIdentity := Vector UInt8 8

structure PortIdentity where
  clockIdentity : ClockIdentity
  portIndex : UInt16
  deriving DecidableEq, Repr

structure ClockQuality where
  clockClass : UInt8
  clockAccuracy : UInt8
  offsetScaledLogVariance : UInt16
  deriving DecidableEq, Repr

/-- `UInteger112`, with the two bytes the compiler pads it with (offsets 3 and
15): `memcmp` and `memcpy` of the whole structure see them. -/
structure UInteger112 where
  priority1 : UInt8
  clockClass : UInt8
  clockAccuracy : UInt8
  padding3 : UInt8
  offsetScaledLogVariance : UInt16
  priority2 : UInt8
  clockIdentity : ClockIdentity
  padding15 : UInt8
  deriving DecidableEq, Repr

structure UInteger224 where
  rootSystemIdentity : UInteger112
  stepsRemoved : UInt16
  sourcePortIdentity : PortIdentity
  portNumber : UInt16
  deriving DecidableEq, Repr

/-- `memset(clockIdentity, byte, sizeof(ClockIdentity))`. -/
def ClockIdentity.fill (byte : UInt8) : ClockIdentity := Vector.replicate 8 byte

/-- `memset(vector, byte, sizeof(UInteger224))`. -/
def UInteger224.fill (byte : UInt8) : UInteger224 :=
  let word := UInt16.ofNat (byte.toNat * 257)
  { rootSystemIdentity :=
      { priority1 := byte, clockClass := byte, clockAccuracy := byte, padding3 := byte,
        offsetScaledLogVariance := word, priority2 := byte,
        clockIdentity := ClockIdentity.fill byte, padding15 := byte },
    stepsRemoved := word,
    sourcePortIdentity := { clockIdentity := ClockIdentity.fill byte, portIndex := word },
    portNumber := word }

/-- The values of `PTPPortState`, and the zero the state array starts with. -/
inductive PTPPortState where
  | unset
  | disabledPort
  | masterPort
  | passivePort
  | slavePort
  deriving DecidableEq, Repr

inductive GmsyncStatus where
  | unsync
  | sync
  | syncStable
  deriving DecidableEq, Repr

namespace GmsyncStatus

def toNat : GmsyncStatus → Nat
  | unsync => 0
  | sync => 1
  | syncStable => 2

end GmsyncStatus

/-- A signed time interval: nanoseconds on 80 bits and a fraction of 2^-16 ns. -/
structure ScaledNs where
  subns : UInt16
  nsec : Int64
  nsecMsb : Int16
  deriving DecidableEq, Repr

/-- What becomes of a message that is handed to the network; the test hook can skip
it, and says so. -/
inductive SendResult where
  | failed
  | skipped
  | sent
  deriving DecidableEq, Repr

def ubSecNs : Nat := 1000000000

def valueDisabled : UInt8 := 0

/-- `XL4_DATA_ABS_MAX_NETDEVS`. -/
def absMaxNetdevs : Nat := 16

def maxPathTraceN : Nat := 179

/-- The size of the arrays `pathSequence` and `annPathSequence`, in octets. -/
def pathSequenceSize : Nat := 8 * maxPathTraceN

/-- `LOG_TO_NSEC`. A shift of `1u` by 32 or more is undefined in C; here the
count is taken modulo 32. -/
def logToNsec (x : Int8) : UInt64 :=
  if 0 ≤ x then UInt64.ofNat (ubSecNs * 2 ^ (x.toInt.toNat % 32))
  else UInt64.ofNat (ubSecNs / 2 ^ ((-x.toInt).toNat % 32))

/-- `(uint8_t)timeout * LOG_TO_NSEC(interval)`. -/
def receiptTimeoutInterval (timeout interval : Int8) : UInt64 :=
  timeout.toUInt8.toUInt64 * logToNsec interval

def memcpy (destination source : Nat → α) (count : Nat) : Nat → α :=
  fun index => if index < count then source index else destination index

/-- The bytes of a `ClockIdentity` array from entry `index` on. -/
def identityAt (bytes : Nat → UInt8) (index : Nat) : ClockIdentity :=
  Vector.ofFn fun offset => bytes (8 * index + offset)

structure PTPMsgHeader where
  majorSdoId : UInt8
  messageType : UInt8
  minorVersionPTP : UInt8
  versionPTP : UInt8
  messageLength : UInt16
  domainIndex : UInt8
  minorSdoId : UInt8
  flags : UInt8 × UInt8
  correctionField : Int64
  messageTypeSpecific : Vector UInt8 4
  sourcePortIdentity : PortIdentity
  sequenceId : UInt16
  control : UInt8
  logMessageInterval : Int8
  deriving DecidableEq, Repr

/-- A decoded Announce; `pathSequence` is the byte view of its identity array. -/
structure PTPMsgAnnounce where
  header : PTPMsgHeader
  currentUtcOffset : Int16
  grandmasterPriority1 : UInt8
  grandmasterClockQuality : ClockQuality
  grandmasterPriority2 : UInt8
  grandmasterIdentity : ClockIdentity
  stepsRemoved : UInt16
  timeSource : UInt8
  tlvType : UInt16
  tlvLength : UInt16
  pathSequence : Nat → UInt8

/-- The leap-second, UTC, traceability and time-source values that the `sys`,
`ann` and unprefixed global variables each hold a set of. -/
structure TimeProperties where
  leap61 : Bool
  leap59 : Bool
  currentUtcOffsetValid : Bool
  ptpTimescale : Bool
  timeTraceable : Bool
  frequencyTraceable : Bool
  currentUtcOffset : Int16
  timeSource : UInt8
  deriving DecidableEq, Repr

/-- The time properties an Announce carries, as `recordOtherAnnounceInfo` reads them. -/
def PTPMsgAnnounce.timeProperties (announce : PTPMsgAnnounce) : TimeProperties :=
  let flags := announce.header.flags.2
  { leap61 := flags &&& 0x01 == 0x01
    leap59 := flags &&& 0x02 == 0x02
    currentUtcOffsetValid := flags &&& 0x04 == 0x04
    ptpTimescale := flags &&& 0x08 == 0x08
    timeTraceable := flags &&& 0x10 == 0x10
    frequencyTraceable := flags &&& 0x20 == 0x20
    currentUtcOffset := announce.currentUtcOffset
    timeSource := announce.timeSource }

/-- The count that `1u` is shifted by. -/
def shiftCount (x : Int8) : UInt8 :=
  if 0 ≤ x then UInt8.ofInt x.toInt else UInt8.ofInt (-x.toInt)

/-- The shift is by less than the width of an `unsigned int`, what is divided by is not
zero, and the interval is positive. -/
structure SafeConversion (x : Int8) : Prop where
  shift : (shiftCount x).toNat < 32
  divisor : x < 0 → 2 ^ (shiftCount x).toNat % 2 ^ 32 ≠ 0
  positive : 0 < logToNsec x

instance : DecidablePred SafeConversion := fun x =>
  decidable_of_iff ((shiftCount x).toNat < 32 ∧
    (x < 0 → 2 ^ (shiftCount x).toNat % 2 ^ 32 ≠ 0) ∧ 0 < logToNsec x)
    ⟨fun ⟨shift, divisor, positive⟩ => ⟨shift, divisor, positive⟩,
      fun ⟨shift, divisor, positive⟩ => ⟨shift, divisor, positive⟩⟩

def Convertible (x : Int8) : Prop := -29 ≤ x ∧ x ≤ 31

instance : DecidablePred Convertible := fun _ => inferInstanceAs (Decidable (_ ∧ _))

theorem safeConversion_iff (x : Int8) : SafeConversion x ↔ Convertible x := by
  have all : ∀ octet : Fin 256,
      SafeConversion (UInt8.ofNat octet).toInt8 ↔ Convertible (UInt8.ofNat octet).toInt8 := by
    decide +kernel
  have same : (UInt8.ofNat x.toUInt8.toNat).toInt8 = x := by simp
  have shown := all ⟨x.toUInt8.toNat, x.toUInt8.toNat_lt⟩
  rwa [same] at shown

end EnetTsn.Gptp
