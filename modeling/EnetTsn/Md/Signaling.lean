import EnetTsn.Md.Header
import EnetTsn.Bmcs.GptpCapableTransmit

namespace EnetTsn.Md

open EnetTsn.Gptp EnetTsn.Library
open EnetTsn.Bmcs (PTPMsgGPTPCapableTLV tlvOrganizationId)

/-- `PTPSignalingMsgCommonHeader`, with the numbers that its octets stand for. -/
structure PTPSignalingMsgCommonHeader where
  tlvType : UInt16
  lengthField : UInt16
  organizationId : Vector UInt8 3
  organizationSubType : UInt32
  deriving DecidableEq, Repr

structure PTPMsgIntervalRequestTLV where
  tlvType : UInt16
  lengthField : UInt16
  organizationId : Vector UInt8 3
  organizationSubType : UInt32
  linkDelayInterval : Int8
  timeSyncInterval : Int8
  announceInterval : Int8
  flags : UInt8
  deriving DecidableEq, Repr

structure PTPMsgGPTPCapableMsgIntervalReqTLV where
  tlvType : UInt16
  lengthField : UInt16
  organizationId : Vector UInt8 3
  organizationSubType : UInt32
  logGptpCapableMessageInterval : Int8
  reserved : Vector UInt8 3
  deriving DecidableEq, Repr

inductive SignalingTlv where
  | msgIntervalReq (tlv : PTPMsgIntervalRequestTLV)
  | gptpCapable (tlv : PTPMsgGPTPCapableTLV)
  | gptpCapableIntervalReq (tlv : PTPMsgGPTPCapableMsgIntervalReqTLV)
  deriving DecidableEq, Repr

inductive GPTPSignalingMsgType where
  | msgIntervalReq
  | gptpCapable
  | gptpCapableIntervalReq
  | notSupported
  deriving DecidableEq, Repr

namespace SignalingTlv

def type : SignalingTlv → GPTPSignalingMsgType
  | msgIntervalReq _ => .msgIntervalReq
  | gptpCapable _ => .gptpCapable
  | gptpCapableIntervalReq _ => .gptpCapableIntervalReq

def header : SignalingTlv → PTPSignalingMsgCommonHeader
  | msgIntervalReq tlv =>
    ⟨tlv.tlvType, tlv.lengthField, tlv.organizationId, tlv.organizationSubType⟩
  | gptpCapable tlv =>
    ⟨tlv.tlvType, tlv.lengthField, tlv.organizationId, tlv.organizationSubType⟩
  | gptpCapableIntervalReq tlv =>
    ⟨tlv.tlvType, tlv.lengthField, tlv.organizationId, tlv.organizationSubType⟩

/-- The pointer cast to a message interval request: the members behind the common ones
are the same octets under other names. -/
def toIntervalRequest : SignalingTlv → PTPMsgIntervalRequestTLV
  | msgIntervalReq tlv => tlv
  | gptpCapable tlv =>
    { tlvType := tlv.tlvType, lengthField := tlv.lengthField
      organizationId := tlv.organizationId, organizationSubType := tlv.organizationSubType
      linkDelayInterval := tlv.logGptpCapableMessageInterval
      timeSyncInterval := tlv.flags.toInt8
      announceInterval := 0, flags := 0 }
  | gptpCapableIntervalReq tlv =>
    { tlvType := tlv.tlvType, lengthField := tlv.lengthField
      organizationId := tlv.organizationId, organizationSubType := tlv.organizationSubType
      linkDelayInterval := tlv.logGptpCapableMessageInterval
      timeSyncInterval := tlv.reserved[0].toInt8
      announceInterval := tlv.reserved[1].toInt8
      flags := tlv.reserved[2] }

def toGptpCapable : SignalingTlv → PTPMsgGPTPCapableTLV
  | msgIntervalReq tlv =>
    { tlvType := tlv.tlvType, lengthField := tlv.lengthField
      organizationId := tlv.organizationId, organizationSubType := tlv.organizationSubType
      logGptpCapableMessageInterval := tlv.linkDelayInterval
      flags := tlv.timeSyncInterval.toUInt8 }
  | gptpCapable tlv => tlv
  | gptpCapableIntervalReq tlv =>
    { tlvType := tlv.tlvType, lengthField := tlv.lengthField
      organizationId := tlv.organizationId, organizationSubType := tlv.organizationSubType
      logGptpCapableMessageInterval := tlv.logGptpCapableMessageInterval
      flags := tlv.reserved[0] }

end SignalingTlv

def signalingSize : Nat := 60

def setupSignalingMsgHdr (header : PTPSignalingMsgCommonHeader) (sdata : Memory) : Memory :=
  sdata
    |>.store 44 2 header.tlvType.toNat
    |>.store 46 2 header.lengthField.toNat
    |>.storeArray 48 header.organizationId
    |>.store 51 1 (header.organizationSubType >>> 16 &&& 0xff).toNat
    |>.store 52 1 (header.organizationSubType >>> 8 &&& 0xff).toNat
    |>.store 53 1 (header.organizationSubType &&& 0xff).toNat

/-- `setup_gptp_capable_tlv`. On the wire the interval has no sign. -/
def setupGptpCapableTlv (tlv : PTPMsgGPTPCapableTLV) (sdata : Memory) : Memory :=
  setupSignalingMsgHdr (SignalingTlv.gptpCapable tlv).header sdata
    |>.store 54 1 tlv.logGptpCapableMessageInterval.toUInt8.toNat
    |>.store 55 1 tlv.flags.toNat

def setupMsgIntervalReqTlv (tlv : PTPMsgIntervalRequestTLV) (sdata : Memory) : Memory :=
  setupSignalingMsgHdr (SignalingTlv.msgIntervalReq tlv).header sdata
    |>.store 54 1 tlv.linkDelayInterval.toUInt8.toNat
    |>.store 55 1 tlv.timeSyncInterval.toUInt8.toNat
    |>.store 56 1 tlv.announceInterval.toUInt8.toNat
    |>.store 57 1 tlv.flags.toNat

def recvSignalingMsgHdr (rxmsg : Memory) : PTPSignalingMsgCommonHeader where
  tlvType := UInt16.ofNat (rxmsg.load 44 2)
  lengthField := UInt16.ofNat (rxmsg.load 46 2)
  organizationId := rxmsg.array 48 3
  organizationSubType :=
    (rxmsg 51).toUInt32 <<< 16 ||| (rxmsg 52).toUInt32 <<< 8 ||| (rxmsg 53).toUInt32

def recvGptpCapable (rxmsg : Memory) : PTPMsgGPTPCapableTLV where
  tlvType := (recvSignalingMsgHdr rxmsg).tlvType
  lengthField := (recvSignalingMsgHdr rxmsg).lengthField
  organizationId := (recvSignalingMsgHdr rxmsg).organizationId
  organizationSubType := (recvSignalingMsgHdr rxmsg).organizationSubType
  logGptpCapableMessageInterval := (rxmsg 54).toInt8
  flags := rxmsg 55

def recvGptpCapableMsgIntervalReq (rxmsg : Memory) : PTPMsgGPTPCapableMsgIntervalReqTLV where
  tlvType := (recvSignalingMsgHdr rxmsg).tlvType
  lengthField := (recvSignalingMsgHdr rxmsg).lengthField
  organizationId := (recvSignalingMsgHdr rxmsg).organizationId
  organizationSubType := (recvSignalingMsgHdr rxmsg).organizationSubType
  logGptpCapableMessageInterval := (rxmsg 54).toInt8
  reserved := rxmsg.array 55 3

def recvMsgIntervalReq (rxmsg : Memory) : PTPMsgIntervalRequestTLV where
  tlvType := (recvSignalingMsgHdr rxmsg).tlvType
  lengthField := (recvSignalingMsgHdr rxmsg).lengthField
  organizationId := (recvSignalingMsgHdr rxmsg).organizationId
  organizationSubType := (recvSignalingMsgHdr rxmsg).organizationSubType
  linkDelayInterval := (rxmsg 54).toInt8
  timeSyncInterval := (rxmsg 55).toInt8
  announceInterval := (rxmsg 56).toInt8
  flags := rxmsg 57

def classifyRxSignalingType (rxmsg : Memory) : GPTPSignalingMsgType :=
  if rxmsg 48 ≠ 0x00 ∨ rxmsg 49 ≠ 0x80 ∨ rxmsg 50 ≠ 0xC2 then .notSupported
  else if rxmsg 51 ≠ 0x00 ∨ rxmsg 52 ≠ 0x00 then .notSupported
  else
    let tlvtype := UInt16.ofNat (rxmsg.load 44 2)
    let tlvlen := UInt16.ofNat (rxmsg.load 46 2)
    let stype := rxmsg 53
    if tlvtype = 0x0003 ∧ tlvlen = 12 ∧ stype = 2 then .msgIntervalReq
    else if tlvtype = 0x8000 ∧ tlvlen = 12 ∧ stype = 4 then .gptpCapable
    else if tlvtype = 0x8000 ∧ tlvlen = 10 ∧ stype = 5 then .gptpCapableIntervalReq
    else .notSupported

/-- `recv_signaling_proc`, as far as it reads the message. -/
def recvSignaling (rxmsg : Memory) : Option SignalingTlv :=
  match classifyRxSignalingType rxmsg with
  | .msgIntervalReq => some (.msgIntervalReq (recvMsgIntervalReq rxmsg))
  | .gptpCapable => some (.gptpCapable (recvGptpCapable rxmsg))
  | .gptpCapableIntervalReq =>
    some (.gptpCapableIntervalReq (recvGptpCapableMsgIntervalReq rxmsg))
  | .notSupported => none

def GPTPSignalingMsgType.selector : GPTPSignalingMsgType → Option PTPSignalingMsgCommonHeader
  | msgIntervalReq => some ⟨0x0003, 12, tlvOrganizationId, 2⟩
  | gptpCapable => some ⟨0x8000, 12, tlvOrganizationId, 4⟩
  | gptpCapableIntervalReq => some ⟨0x8000, 10, tlvOrganizationId, 5⟩
  | notSupported => none

theorem toNat_joinOctets (first second third : UInt8) :
    (first.toUInt32 <<< 16 ||| second.toUInt32 <<< 8 ||| third.toUInt32).toNat =
      first.toNat * 65536 + second.toNat * 256 + third.toNat := by
  have low : second.toNat <<< 8 ||| third.toNat = second.toNat <<< 8 + third.toNat :=
    (Nat.shiftLeft_add_eq_or_of_lt third.toNat_lt second.toNat).symm
  have lowBound : second.toNat <<< 8 + third.toNat < 2 ^ 16 := by
    have second := second.toNat_lt
    have third := third.toNat_lt
    omega
  have firstBound := first.toNat_lt
  have secondBound := second.toNat_lt
  have whole : first.toNat <<< 16 % 2 ^ 32 = first.toNat <<< 16 ∧
      second.toNat <<< 8 % 2 ^ 32 = second.toNat <<< 8 := by
    omega
  simp only [UInt32.toNat_or, UInt32.toNat_shiftLeft, UInt8.toNat_toUInt32, UInt32.reduceToNat,
    Nat.reduceMod, whole.1, whole.2]
  rw [Nat.or_assoc, low, ← Nat.shiftLeft_add_eq_or_of_lt lowBound, Nat.shiftLeft_eq,
    Nat.shiftLeft_eq]
  omega

theorem recvSignalingMsgHdr_congr
    (same : ∀ index, 44 ≤ index → index < 54 → rxmsg index = rxmsg' index) :
    recvSignalingMsgHdr rxmsg = recvSignalingMsgHdr rxmsg' := by
  have tlvType : rxmsg.load 44 2 = rxmsg'.load 44 2 := by
    apply Memory.load_congr
    intro index small
    exact same _ (by omega) (by omega)
  have lengthField : rxmsg.load 46 2 = rxmsg'.load 46 2 := by
    apply Memory.load_congr
    intro index small
    exact same _ (by omega) (by omega)
  have organizationId : rxmsg.array 48 3 = rxmsg'.array 48 3 := by
    apply Memory.array_congr
    intro index small
    exact same _ (by omega) (by omega)
  rw [recvSignalingMsgHdr, recvSignalingMsgHdr, tlvType, lengthField, organizationId,
    same 51 (by omega) (by omega), same 52 (by omega) (by omega), same 53 (by omega) (by omega)]

theorem organizationId_eq_iff (rxmsg : Memory) : rxmsg.array 48 3 = #v[0x00, 0x80, 0xC2] ↔
      rxmsg 48 = 0x00 ∧ rxmsg 49 = 0x80 ∧ rxmsg 50 = 0xC2 := by
  constructor
  · intro equal
    have octet : ∀ index (inside : index < 3),
        rxmsg (48 + index) = (#v[0x00, 0x80, 0xC2] : Vector UInt8 3)[index] := by
      intro index inside
      rw [← Vector.getElem_ofFn (f := fun index : Fin 3 => rxmsg (48 + index)) inside]
      exact congrArg (fun octets : Vector UInt8 3 => octets[index]) equal
    exact ⟨octet 0 (by omega), octet 1 (by omega), octet 2 (by omega)⟩
  · rintro ⟨first, second, third⟩
    apply Vector.ext
    intro index inside
    rcases (by omega : index = 0 ∨ index = 1 ∨ index = 2) with rfl | rfl | rfl
    · exact first
    · exact second
    · exact third

private theorem organizationSubType_eq_iff (rxmsg : Memory) (stype : UInt8) :
    (recvSignalingMsgHdr rxmsg).organizationSubType = stype.toUInt32 ↔
      rxmsg 51 = 0x00 ∧ rxmsg 52 = 0x00 ∧ rxmsg 53 = stype := by
  have joined := toNat_joinOctets (rxmsg 51) (rxmsg 52) (rxmsg 53)
  have bound := stype.toNat_lt
  have third := (rxmsg 53).toNat_lt
  have zero : (0x00 : UInt8).toNat = 0 := rfl
  rw [← UInt32.toNat_inj, ← UInt8.toNat_inj, ← UInt8.toNat_inj, ← UInt8.toNat_inj,
    recvSignalingMsgHdr, joined, UInt8.toNat_toUInt32, zero]
  omega

theorem classifyRxSignalingType_eq_iff (rxmsg : Memory) (selects : type.selector = some header) :
    classifyRxSignalingType rxmsg = type ↔ recvSignalingMsgHdr rxmsg = header := by
  have organization := organizationId_eq_iff rxmsg
  have subType := organizationSubType_eq_iff rxmsg
  have fields : recvSignalingMsgHdr rxmsg = header ↔
      UInt16.ofNat (rxmsg.load 44 2) = header.tlvType ∧
      UInt16.ofNat (rxmsg.load 46 2) = header.lengthField ∧
      rxmsg.array 48 3 = header.organizationId ∧
      (recvSignalingMsgHdr rxmsg).organizationSubType = header.organizationSubType := by
    cases header
    exact PTPSignalingMsgCommonHeader.mk.injEq .. ▸ Iff.rfl
  rw [fields, classifyRxSignalingType]
  cases type with
  | msgIntervalReq =>
    cases selects
    have two : _ = (2 : UInt32) ↔ _ := subType 2
    grind
  | gptpCapable =>
    cases selects
    have four : _ = (4 : UInt32) ↔ _ := subType 4
    grind
  | gptpCapableIntervalReq =>
    cases selects
    have five : _ = (5 : UInt32) ↔ _ := subType 5
    grind
  | notSupported => cases selects

def decodeAs (rxmsg : Memory) : GPTPSignalingMsgType → Option SignalingTlv
  | .msgIntervalReq => some (.msgIntervalReq (recvMsgIntervalReq rxmsg))
  | .gptpCapable => some (.gptpCapable (recvGptpCapable rxmsg))
  | .gptpCapableIntervalReq =>
    some (.gptpCapableIntervalReq (recvGptpCapableMsgIntervalReq rxmsg))
  | .notSupported => none

theorem decodeAs_type (decoded : decodeAs rxmsg type = some tlv) :
    tlv.type = type ∧ tlv.header = recvSignalingMsgHdr rxmsg := by
  cases type with
  | notSupported => cases decoded
  | _ =>
    cases decoded
    exact ⟨rfl, rfl⟩

/-- A TLV is decoded under the layout that its common header selects, and every message
whose header selects a layout is decoded. -/
theorem recvSignaling_eq_some_iff (rxmsg : Memory) (tlv : SignalingTlv) :
    recvSignaling rxmsg = some tlv ↔ tlv.type.selector = some (recvSignalingMsgHdr rxmsg) ∧
        decodeAs rxmsg tlv.type = some tlv := by
  have decodes : recvSignaling rxmsg = decodeAs rxmsg (classifyRxSignalingType rxmsg) := by
    unfold recvSignaling decodeAs
    cases classifyRxSignalingType rxmsg <;> rfl
  rw [decodes]
  constructor
  · intro received
    have type := (decodeAs_type received).1
    rw [type]
    refine ⟨?_, received⟩
    cases selects : (classifyRxSignalingType rxmsg).selector with
    | some header =>
      rw [(classifyRxSignalingType_eq_iff rxmsg selects).mp rfl]
    | none =>
      cases kind : classifyRxSignalingType rxmsg with
      | notSupported =>
        rw [kind] at received
        cases received
      | _ =>
        rw [kind] at selects
        cases selects
  · rintro ⟨selects, decoded⟩
    rw [(classifyRxSignalingType_eq_iff rxmsg selects).mpr rfl, decoded]

theorem recvSignaling_congr (same : ∀ index < signalingSize, rxmsg index = rxmsg' index) :
    recvSignaling rxmsg = recvSignaling rxmsg' := by
  have octet : ∀ index < 60, rxmsg index = rxmsg' index := same
  have header : recvSignalingMsgHdr rxmsg = recvSignalingMsgHdr rxmsg' :=
    recvSignalingMsgHdr_congr fun index _ small => octet index (by omega)
  have reserved : rxmsg.array 55 3 = rxmsg'.array 55 3 := by
    apply Memory.array_congr
    intro index small
    exact octet _ (by omega)
  have decoded : decodeAs rxmsg = decodeAs rxmsg' := by
    funext type
    unfold decodeAs recvMsgIntervalReq recvGptpCapable recvGptpCapableMsgIntervalReq
    rw [header, reserved, octet 54 (by omega), octet 55 (by omega), octet 56 (by omega),
      octet 57 (by omega)]
  apply Option.ext
  intro tlv
  rw [recvSignaling_eq_some_iff, recvSignaling_eq_some_iff, header, decoded]

def setupTlv : SignalingTlv → Memory → Memory
  | .msgIntervalReq tlv => setupMsgIntervalReqTlv tlv
  | .gptpCapable tlv => setupGptpCapableTlv tlv
  | .gptpCapableIntervalReq _ => id

theorem recvSignalingMsgHdr_setup (sdata : Memory) {type : GPTPSignalingMsgType}
    (selects : type.selector = some header) :
    recvSignalingMsgHdr (setupSignalingMsgHdr header sdata) = header := by
  have octets : setupSignalingMsgHdr header sdata 51 =
        UInt8.ofNat (header.organizationSubType >>> 16 &&& 0xff).toNat ∧
      setupSignalingMsgHdr header sdata 52 =
        UInt8.ofNat (header.organizationSubType >>> 8 &&& 0xff).toNat ∧
      setupSignalingMsgHdr header sdata 53 =
        UInt8.ofNat (header.organizationSubType &&& 0xff).toNat := by
    unfold setupSignalingMsgHdr
    simp (disch := omega) only [Memory.store_octet, Memory.store_outside, and_self]
  have numbers : (setupSignalingMsgHdr header sdata).load 44 2 = header.tlvType.toNat ∧
      (setupSignalingMsgHdr header sdata).load 46 2 = header.lengthField.toNat ∧
      (setupSignalingMsgHdr header sdata).array 48 3 = header.organizationId := by
    have tlvType := header.tlvType.toNat_lt
    have lengthField := header.lengthField.toNat_lt
    simp (disch := omega) only [setupSignalingMsgHdr, Memory.load_store_apart,
      Memory.load_storeArray_apart, Memory.array_store_apart, Memory.array_storeArray_same,
      Memory.load_store_same, Nat.reducePow, Nat.mod_eq_of_lt, and_self]
  rw [recvSignalingMsgHdr, numbers.1, numbers.2.1, numbers.2.2, octets.1, octets.2.1, octets.2.2]
  cases type with
  | notSupported => cases selects
  | _ =>
    cases selects
    rfl

theorem recvSignaling_setup (sdata : Memory) (tlv : SignalingTlv)
    (sent : tlv.type ≠ .gptpCapableIntervalReq) (selects : tlv.type.selector = some tlv.header) :
    recvSignaling (setupTlv tlv sdata) = some tlv := by
  rw [recvSignaling_eq_some_iff]
  have header := recvSignalingMsgHdr_setup sdata selects
  have apart : recvSignalingMsgHdr (setupTlv tlv sdata) =
      recvSignalingMsgHdr (setupSignalingMsgHdr tlv.header sdata) := by
    apply recvSignalingMsgHdr_congr
    intro index _ small
    cases tlv with
    | gptpCapableIntervalReq tlv => exact absurd rfl sent
    | _ =>
      simp (disch := omega) only [setupTlv, setupMsgIntervalReqTlv, setupGptpCapableTlv,
        Memory.store_outside]
  rw [apart, header]
  refine ⟨selects, ?_⟩
  cases tlv with
  | gptpCapableIntervalReq tlv => exact absurd rfl sent
  | msgIntervalReq tlv =>
    have read := apart.trans header
    simp only [setupTlv, SignalingTlv.header] at read
    simp (disch := omega) only [SignalingTlv.type, setupTlv, decodeAs, recvMsgIntervalReq, read]
    simp (disch := omega) [setupMsgIntervalReqTlv, Memory.store_octet, Memory.store_outside]
  | gptpCapable tlv =>
    have read := apart.trans header
    simp only [setupTlv, SignalingTlv.header] at read
    simp (disch := omega) only [SignalingTlv.type, setupTlv, decodeAs, recvGptpCapable, read]
    simp (disch := omega) [setupGptpCapableTlv, Memory.store_octet, Memory.store_outside]

end EnetTsn.Md
