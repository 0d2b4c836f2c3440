import EnetTsn.Md.Header
import EnetTsn.Library.Binary64
import Mathlib.Tactic.IntervalCases

namespace EnetTsn.Md

open EnetTsn.Gptp EnetTsn.Library

structure FollowUpInformation where
  rateRatio : ℚ
  gmTimeBaseIndicator : UInt16
  lastGmPhaseChange : ScaledNs
  lastGmFreqChange : ℚ
  deriving DecidableEq

/-- `(int32_t)ldexp(value, 41)`. -/
def scaledOffset (value : ℚ) : Int32 := Int32.ofInt (Binary64.truncate (Binary64.ldexp value 41))

def mdFollowupInformationTlvCompose (tlv : Nat) (information : FollowUpInformation)
    (memory : Memory) : Memory :=
  let phase := information.lastGmPhaseChange
  memory
    |>.store (tlv + 0) 2 0x3
    |>.store (tlv + 2) 2 28
    |>.store (tlv + 4) 1 0x00
    |>.store (tlv + 5) 1 0x80
    |>.store (tlv + 6) 1 0xC2
    |>.store (tlv + 7) 1 0
    |>.store (tlv + 8) 1 0
    |>.store (tlv + 9) 1 1
    |>.store (tlv + 10) 4 (scaledOffset (Binary64.sub information.rateRatio 1)).toUInt32.toNat
    |>.store (tlv + 14) 2 information.gmTimeBaseIndicator.toNat
    |>.store (tlv + 16) 2 phase.nsecMsb.toUInt16.toNat
    -- the first four of the eight octets
    |>.copy (tlv + 18) 4 (Memory.digit 8 phase.nsec.toUInt64.toNat)
    |>.store (tlv + 22) 2 phase.subns.toNat
    |>.store (tlv + 28) 4 (scaledOffset information.lastGmFreqChange).toUInt32.toNat

def loadScaledOffset (memory : Memory) (offset : Nat) : ℚ :=
  Binary64.ldexp (UInt32.ofNat (memory.load offset 4)).toInt32.toInt (-41)

/-- The TLV as `setMDSyncReceive` reads it. -/
def followUpInformation (tlv : Nat) (memory : Memory) : FollowUpInformation where
  rateRatio := Binary64.add 1 (loadScaledOffset memory (tlv + 10))
  gmTimeBaseIndicator := UInt16.ofNat (memory.load (tlv + 14) 2)
  lastGmPhaseChange :=
    { nsecMsb := (UInt16.ofNat (memory.load (tlv + 16) 2)).toInt16
      nsec := (UInt64.ofNat (memory.load (tlv + 18) 8)).toInt64
      subns := UInt16.ofNat (memory.load (tlv + 26) 2) }
  lastGmFreqChange := loadScaledOffset memory (tlv + 28)

def FollowUpInformation.scaled (k k' : Int32) (gmTimeBaseIndicator : UInt16)
    (lastGmPhaseChange : ScaledNs) : FollowUpInformation where
  rateRatio := 1 + k.toInt * 2 ^ (-41 : ℤ)
  gmTimeBaseIndicator := gmTimeBaseIndicator
  lastGmPhaseChange := lastGmPhaseChange
  lastGmFreqChange := k'.toInt * 2 ^ (-41 : ℤ)

/-- Every field of `MDFollowUpInformationTLV` has its value in its own octets. -/
structure InLayout (tlv : Nat) (k k' : Int32) (gmTimeBaseIndicator : UInt16)
    (lastGmPhaseChange : ScaledNs) (memory : Memory) : Prop where
  tlvType : memory.load (tlv + 0) 2 = 0x3
  lengthField : memory.load (tlv + 2) 2 = 28
  organizationId : memory.array (tlv + 4) 3 = #v[0x00, 0x80, 0xC2]
  organizationSubType : memory.array (tlv + 7) 3 = #v[0, 0, 1]
  cumulativeScaledRateOffset : memory.load (tlv + 10) 4 = k.toUInt32.toNat
  gmTimeBaseIndicator : memory.load (tlv + 14) 2 = gmTimeBaseIndicator.toNat
  nsecMsb : memory.load (tlv + 16) 2 = lastGmPhaseChange.nsecMsb.toUInt16.toNat
  nsec : memory.load (tlv + 18) 8 = lastGmPhaseChange.nsec.toUInt64.toNat
  subns : memory.load (tlv + 26) 2 = lastGmPhaseChange.subns.toNat
  scaledLastGmFreqChange : memory.load (tlv + 28) 4 = k'.toUInt32.toNat

/-- Composed into cleared octets, as the callers do, the TLV has every field in its
place, and reading it gives the composed values. -/
def FollowUpRoundTrip (k k' : Int32) (gmTimeBaseIndicator : UInt16) (lastGmPhaseChange : ScaledNs) :
    Prop :=
  ∀ (tlv : Nat) (memory : Memory), (∀ index < 32, memory (tlv + index) = 0) →
    let information := FollowUpInformation.scaled k k' gmTimeBaseIndicator lastGmPhaseChange
    let composed := mdFollowupInformationTlvCompose tlv information memory
    followUpInformation tlv composed = information ∧
      InLayout tlv k k' gmTimeBaseIndicator lastGmPhaseChange composed

section Scaled

variable (k k' : Int32)

theorem abs_toInt_lt : |(k.toInt : ℤ)| < 2 ^ 53 := by
  have lower := k.le_toInt
  have upper := k.toInt_lt
  rw [abs_lt]
  omega

private theorem scaledOffset_scaled : scaledOffset (k.toInt * 2 ^ (-41 : ℤ)) = k := by
  have exact := Binary64.ldexp_scaled k.toInt (-41) 41 (abs_toInt_lt k) (by decide)
  rw [neg_add_cancel, zpow_zero, mul_one] at exact
  rw [scaledOffset, exact, Binary64.truncate_intCast, Int32.ofInt_toInt]

private theorem sub_one_scaled :
    Binary64.sub (1 + k.toInt * 2 ^ (-41 : ℤ)) 1 = k.toInt * 2 ^ (-41 : ℤ) := by
  rw [Binary64.sub, add_sub_cancel_left]
  exact Binary64.round_of_fits (Binary64.fits_scaled _ _ (abs_toInt_lt k) (by decide))

private theorem one_add_scaled :
    Binary64.add 1 (k.toInt * 2 ^ (-41 : ℤ)) = 1 + k.toInt * 2 ^ (-41 : ℤ) := by
  have lower := k.le_toInt
  have upper := k.toInt_lt
  have sum : (1 : ℚ) + k.toInt * 2 ^ (-41 : ℤ) = ((2 ^ 41 + k.toInt : ℤ) : ℚ) * 2 ^ (-41 : ℤ) := by
    push_cast
    rw [add_mul]
    norm_num
  rw [Binary64.add, sum]
  refine Binary64.round_of_fits (Binary64.fits_scaled _ _ ?_ (by decide))
  rw [abs_lt]
  omega

theorem loadScaledOffset_of_load (stored : memory.load offset 4 = k.toUInt32.toNat) :
    loadScaledOffset memory offset = k.toInt * 2 ^ (-41 : ℤ) := by
  have exact := Binary64.ldexp_scaled k.toInt 0 (-41) (abs_toInt_lt k) (by decide)
  rw [zpow_zero, mul_one, zero_add] at exact
  rw [loadScaledOffset, stored, UInt32.ofNat_toNat, Int32.toInt32_toUInt32, exact]

end Scaled

section Composed

variable (k k' : Int32) (gmTimeBaseIndicator : UInt16) (lastGmPhaseChange : ScaledNs)
  (tlv : Nat) (memory : Memory)

theorem mdFollowupInformationTlvCompose_untouched (information : FollowUpInformation)
    (index : Nat) (untouched : index < tlv ∨ tlv + 24 ≤ index ∧ index < tlv + 28 ∨
      tlv + 32 ≤ index) :
    mdFollowupInformationTlvCompose tlv information memory index = memory index := by
  simp (disch := omega) only [mdFollowupInformationTlvCompose, Memory.store, Memory.copy_outside]

theorem composed_fields :
    let composed := mdFollowupInformationTlvCompose tlv
      (.scaled k k' gmTimeBaseIndicator lastGmPhaseChange) memory
    composed.load (tlv + 0) 2 = 0x3 ∧ composed.load (tlv + 2) 2 = 28 ∧
      composed.load (tlv + 10) 4 = k.toUInt32.toNat ∧
      composed.load (tlv + 14) 2 = gmTimeBaseIndicator.toNat ∧
      composed.load (tlv + 16) 2 = lastGmPhaseChange.nsecMsb.toUInt16.toNat ∧
      composed.load (tlv + 28) 4 = k'.toUInt32.toNat := by
  have octets (value : UInt16) : value.toNat % 256 ^ 2 = value.toNat :=
    Nat.mod_eq_of_lt value.toNat_lt
  have octets4 (value : UInt32) : value.toNat % 256 ^ 4 = value.toNat :=
    Nat.mod_eq_of_lt value.toNat_lt
  simp only [mdFollowupInformationTlvCompose, FollowUpInformation.scaled, sub_one_scaled,
    scaledOffset_scaled]
  refine ⟨?_, ?_, ?_, ?_, ?_, ?_⟩
  all_goals
    simp (disch := omega) only [Memory.load_store_apart, Memory.load_copy_apart,
      Memory.load_store_same, octets, octets4]
  all_goals rfl

private theorem composed_organization :
    let composed := mdFollowupInformationTlvCompose tlv
      (.scaled k k' gmTimeBaseIndicator lastGmPhaseChange) memory
    composed.array (tlv + 4) 3 = #v[0x00, 0x80, 0xC2] ∧
      composed.array (tlv + 7) 3 = #v[0, 0, 1] := by
  constructor
  all_goals
    apply Vector.ext
    intro index inside
    interval_cases index
    all_goals
      simp (disch := omega) only [mdFollowupInformationTlvCompose, Memory.array,
        Vector.getElem_ofFn, Memory.store_outside, Memory.copy_outside, Memory.store_octet]
      rfl

/-- The high half of the nanoseconds, the sub-nanoseconds in the place of the next two
octets, and what the buffer held before. -/
theorem composed_nsec :
    let composed := mdFollowupInformationTlvCompose tlv
      (.scaled k k' gmTimeBaseIndicator lastGmPhaseChange) memory
    composed.load (tlv + 18) 8 = (lastGmPhaseChange.nsec.toUInt64.toNat / 2 ^ 32 * 2 ^ 16 +
        lastGmPhaseChange.subns.toNat) * 2 ^ 16 + memory.load (tlv + 24) 2 := by
  intro composed
  have nsecBound := lastGmPhaseChange.nsec.toUInt64.toNat_lt
  have high : composed.load (tlv + 18) 4 = lastGmPhaseChange.nsec.toUInt64.toNat / 2 ^ 32 := by
    have stored : composed.load (tlv + 18) 4 =
        Memory.load (Memory.digit 8 lastGmPhaseChange.nsec.toUInt64.toNat) 0 4 := by
      simp (disch := omega) only [composed, mdFollowupInformationTlvCompose,
        Memory.load_store_apart]
      apply Memory.load_congr
      intro index inside
      rw [Memory.copy_inside index inside, Nat.zero_add]
      rfl
    rw [stored, Memory.load_digit _ (by decide)]
    omega
  have middle : composed.load (tlv + 22) 2 = lastGmPhaseChange.subns.toNat := by
    have subnsBound := lastGmPhaseChange.subns.toNat_lt
    simp (disch := omega) only [composed, mdFollowupInformationTlvCompose,
      Memory.load_store_apart, Memory.load_store_same]
    exact Nat.mod_eq_of_lt subnsBound
  have low : composed.load (tlv + 24) 2 = memory.load (tlv + 24) 2 := by
    apply Memory.load_congr
    intro index inside
    exact mdFollowupInformationTlvCompose_untouched tlv memory _ _ (by omega)
  rw [Memory.load_add composed (tlv + 18) 4 4, Memory.load_add composed (tlv + 18 + 4) 2 2, high]
  rw [middle, low]
  omega

theorem composed_subns :
    let composed := mdFollowupInformationTlvCompose tlv
      (.scaled k k' gmTimeBaseIndicator lastGmPhaseChange) memory
    composed.load (tlv + 26) 2 = memory.load (tlv + 26) 2 := by
  apply Memory.load_congr
  intro index inside
  exact mdFollowupInformationTlvCompose_untouched tlv memory _ _ (by omega)

end Composed

section RoundTrip

variable {k k' : Int32} {gmTimeBaseIndicator : UInt16} {lastGmPhaseChange : ScaledNs}

private theorem followUpInformation_of_layout
    (layout : InLayout tlv k k' gmTimeBaseIndicator lastGmPhaseChange memory) :
    followUpInformation tlv memory = .scaled k k' gmTimeBaseIndicator lastGmPhaseChange := by
  rw [followUpInformation, FollowUpInformation.scaled,
    loadScaledOffset_of_load k layout.cumulativeScaledRateOffset,
    loadScaledOffset_of_load k' layout.scaledLastGmFreqChange, one_add_scaled,
    layout.gmTimeBaseIndicator, layout.nsecMsb, layout.nsec, layout.subns]
  simp only [UInt16.ofNat_toNat, UInt64.ofNat_toNat, Int16.toInt16_toUInt16, Int64.toInt64_toUInt64]

/-- The TLV is composed in its layout, and read back, when the phase change is a whole
multiple of 2^32 ns: four of the eight octets of its nanoseconds are written, and its
sub-nanoseconds go into the place of the fifth and sixth. -/
theorem followUpRoundTrip_iff (k k' : Int32) (gmTimeBaseIndicator : UInt16)
    (lastGmPhaseChange : ScaledNs) : FollowUpRoundTrip k k' gmTimeBaseIndicator lastGmPhaseChange ↔
      lastGmPhaseChange.nsec.toUInt64.toNat % 2 ^ 32 = 0 ∧ lastGmPhaseChange.subns = 0 := by
  constructor
  · intro roundTrip
    obtain ⟨_, layout⟩ := roundTrip 0 Memory.zero fun _ _ => rfl
    have nsec := layout.nsec
    have subns := layout.subns
    rw [composed_nsec, Memory.load_of_zero fun _ _ => rfl] at nsec
    rw [composed_subns, Memory.load_of_zero fun _ _ => rfl] at subns
    have none : lastGmPhaseChange.subns = 0 := UInt16.toNat_inj.mp subns.symm
    exact ⟨by omega, none⟩
  · rintro ⟨whole, none⟩ tlv memory cleared
    intro information composed
    obtain ⟨type, length, cumulative, indicator, nsecMsb, freq⟩ :=
      composed_fields k k' gmTimeBaseIndicator lastGmPhaseChange tlv memory
    obtain ⟨organization, subType⟩ :=
      composed_organization k k' gmTimeBaseIndicator lastGmPhaseChange tlv memory
    have zero : lastGmPhaseChange.subns.toNat = 0 := congrArg UInt16.toNat none
    have nsec : composed.load (tlv + 18) 8 = lastGmPhaseChange.nsec.toUInt64.toNat := by
      have rest : memory.load (tlv + 24) 2 = 0 := Memory.load_of_zero fun index inside => by
          rw [Nat.add_assoc]
          exact cleared (24 + index) (by omega)
      rw [composed_nsec, rest]
      omega
    have subns : composed.load (tlv + 26) 2 = lastGmPhaseChange.subns.toNat := by
      have rest : memory.load (tlv + 26) 2 = 0 := Memory.load_of_zero fun index inside => by
          rw [Nat.add_assoc]
          exact cleared (26 + index) (by omega)
      rw [composed_subns, rest, zero]
    have layout : InLayout tlv k k' gmTimeBaseIndicator lastGmPhaseChange composed :=
      ⟨type, length, organization, subType, cumulative, indicator, nsecMsb, nsec, subns, freq⟩
    exact ⟨followUpInformation_of_layout layout, layout⟩

/-- A phase change of one nanosecond is lost. -/
theorem followUpRoundTrip_nanosecond :
    ¬ FollowUpRoundTrip 0 0 0 { subns := 0, nsec := 1, nsecMsb := 0 } := by
  intro roundTrip
  have nsec := (roundTrip 0 Memory.zero fun _ _ => rfl).2.nsec
  rw [composed_nsec] at nsec
  revert nsec
  decide

end RoundTrip

end EnetTsn.Md
