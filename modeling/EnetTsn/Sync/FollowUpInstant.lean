import EnetTsn.Sync.ReceiptTime

namespace EnetTsn.Sync

open EnetTsn.Gptp EnetTsn.Library EnetTsn.Md

def Timestamp.seconds (time : Timestamp) : Nat :=
  time.secondsMsb.toNat * 2 ^ 32 + time.secondsLsb.toNat

/-- The timestamp that `composeSyncFupTLV` writes. -/
def foldedTimestamp (origin : Timestamp) (cf : UInt64) : Timestamp :=
  let tsns := (origin.nanoseconds.toUInt64 + cf).toUInt32
  let carry := decide (UInt32.ofNat ubSecNs ≤ tsns)
  let tslsb := if carry then origin.secondsLsb + 1 else origin.secondsLsb
  { nanoseconds := if carry then tsns - UInt32.ofNat ubSecNs else tsns
    secondsLsb := tslsb
    secondsMsb := if carry && tslsb == 0 then origin.secondsMsb + 1 else origin.secondsMsb }

def carriedOut (origin : Timestamp) (nanoseconds : ℤ) : ℤ :=
  if origin.seconds + 1 = 2 ^ 48 ∧ 10 ^ 9 ≤ nanoseconds then 2 ^ 48 * 10 ^ 9 else 0

section Folding

variable (origin : Timestamp) (cf : UInt64)

private theorem ofNat_toNat_thirtyTwo (value : UInt32) : UInt32.ofNat (value.toNat % 256 ^ 4) = value := by
  have small : value.toNat < 256 ^ 4 := value.toNat_lt
  rw [Nat.mod_eq_of_lt small, UInt32.ofNat_toNat]

private theorem ofNat_toNat_sixteen (value : UInt16) : UInt16.ofNat (value.toNat % 256 ^ 2) = value := by
  have small : value.toNat < 256 ^ 2 := value.toNat_lt
  rw [Nat.mod_eq_of_lt small, UInt16.ofNat_toNat]

private theorem preciseOriginTimestamp_composeSyncFupTLV (value : MDSyncSend) (memory : Memory) :
    preciseOriginTimestamp (composeSyncFupTLV value cf memory) =
      foldedTimestamp value.preciseOriginTimestamp cf := by
  simp only [preciseOriginTimestamp, composeSyncFupTLV, mdFollowupInformationTlvCompose,
    foldedTimestamp]
  simp (disch := omega) only [Memory.load_store_apart, Memory.load_copy_apart,
    Memory.load_store_same, ofNat_toNat_thirtyTwo, ofNat_toNat_sixteen]

def foldedNanoseconds (origin : Timestamp) (cf : UInt64) : Nat :=
  (origin.nanoseconds.toNat + cf.toNat) % 2 ^ 32

theorem toNat_tsns :
    (origin.nanoseconds.toUInt64 + cf).toUInt32.toNat = foldedNanoseconds origin cf := by
  rw [UInt64.toNat_toUInt32, UInt64.toNat_add, UInt32.toNat_toUInt64, foldedNanoseconds]
  omega

theorem carries_iff : UInt32.ofNat ubSecNs ≤ (origin.nanoseconds.toUInt64 + cf).toUInt32 ↔
      10 ^ 9 ≤ foldedNanoseconds origin cf := by
  rw [UInt32.le_iff_toNat_le, toNat_tsns]
  rfl

theorem toNat_nanoseconds : (foldedTimestamp origin cf).nanoseconds.toNat =
      if 10 ^ 9 ≤ foldedNanoseconds origin cf then foldedNanoseconds origin cf - 10 ^ 9
      else foldedNanoseconds origin cf := by
  simp only [foldedTimestamp, decide_eq_true_eq, carries_iff]
  split
  · rename_i carries
    rw [UInt32.toNat_sub_of_le _ _ ((carries_iff origin cf).mpr carries), toNat_tsns]
    rfl
  · exact toNat_tsns origin cf

theorem seconds_foldedTimestamp : (foldedTimestamp origin cf).seconds =
      if 10 ^ 9 ≤ foldedNanoseconds origin cf then (origin.seconds + 1) % 2 ^ 48
      else origin.seconds := by
  have lsb := origin.secondsLsb.toNat_lt
  have msb := origin.secondsMsb.toNat_lt
  simp only [foldedTimestamp, Timestamp.seconds, decide_eq_true_eq, Bool.and_eq_true, carries_iff,
    beq_iff_eq]
  split
  · rename_i carries
    have next : (origin.secondsLsb + 1).toNat = (origin.secondsLsb.toNat + 1) % 2 ^ 32 := by
      rfl
    have upper : (origin.secondsMsb + 1).toNat = (origin.secondsMsb.toNat + 1) % 2 ^ 16 := by
      rfl
    have zero : origin.secondsLsb + 1 = 0 ↔ (origin.secondsLsb.toNat + 1) % 2 ^ 32 = 0 := by
      rw [← UInt32.toNat_inj, next]
      rfl
    simp only [carries, true_and, zero]
    split
    · omega
    · omega
  · rename_i stays
    simp only [stays, false_and, if_false]

theorem nsec_eq (time : Timestamp) :
    time.nsec = (time.seconds * 10 ^ 9 + time.nanoseconds.toNat : ℤ) := by
  rfl

theorem seconds_lt (time : Timestamp) : time.seconds < 2 ^ 48 := by
  have lsb := time.secondsLsb.toNat_lt
  have msb := time.secondsMsb.toNat_lt
  unfold Timestamp.seconds
  omega

theorem nsec_foldedTimestamp :
    (foldedTimestamp origin cf).nsec = origin.nsec - origin.nanoseconds.toNat +
      foldedNanoseconds origin cf - carriedOut origin (foldedNanoseconds origin cf) := by
  have bound := seconds_lt origin
  rw [nsec_eq, nsec_eq, seconds_foldedTimestamp, toNat_nanoseconds, carriedOut]
  by_cases carries : 10 ^ 9 ≤ foldedNanoseconds origin cf
  · have carriesInt : (10 ^ 9 : ℤ) ≤ foldedNanoseconds origin cf := by exact_mod_cast carries
    split <;> omega
  · have staysInt : ¬ (10 ^ 9 : ℤ) ≤ foldedNanoseconds origin cf := by exact_mod_cast carries
    simp only [if_neg carries, staysInt, and_false, if_false]
    omega

end Folding

def elapsed (value : MDSyncSend) (syncTs : UInt64) : ℤ :=
  (syncTs - value.upstreamTxTime).toInt64.toInt

def signedResidence (value : MDSyncSend) (syncTs : UInt64) : ℤ :=
  Binary64.truncate (Binary64.mul value.rateRatio (Binary64.round (elapsed value syncTs)))

def accumulated (port : SyncSendPort) (value : MDSyncSend) (syncTs : UInt64) : ℤ :=
  if port.weAreGm then elapsed value syncTs * 2 ^ 16
  else (receivedCorrection value).toInt64.toInt + signedResidence value syncTs * 2 ^ 16

/-- The timestamp and the correction of a Follow_Up denote the origin with what is to be added,
and the timestamp is in its range. -/
structure FollowUpTells (port : SyncSendPort) (value : MDSyncSend) (sequenceId : UInt16)
    (syncTs : UInt64) : Prop where
  instant :
    (preciseOriginTimestamp (setFollowUp port value sequenceId syncTs)).nsec * 2 ^ 16 +
        (correctionField (setFollowUp port value sequenceId syncTs)).toInt64.toInt =
      value.preciseOriginTimestamp.nsec * 2 ^ 16 + accumulated port value syncTs
  nanoseconds :
    (preciseOriginTimestamp (setFollowUp port value sequenceId syncTs)).nanoseconds.toNat < 10 ^ 9

/-- A grandmaster folds less than two seconds into the nanoseconds, with a carry that stays in
the seconds. -/
structure FoldsElapsed (value : MDSyncSend) (syncTs : UInt64) : Prop where
  nonneg : 0 ≤ value.preciseOriginTimestamp.nanoseconds.toNat + elapsed value syncTs
  bound : value.preciseOriginTimestamp.nanoseconds.toNat + elapsed value syncTs < 2 * 10 ^ 9
  carry : value.preciseOriginTimestamp.nanoseconds.toNat + elapsed value syncTs < 10 ^ 9 ∨
    value.preciseOriginTimestamp.seconds + 1 < 2 ^ 48

/-- A clock that is not the grandmaster adds a residence time of whole 2^16 ns, whatever its
sign, as far as the correction can hold it. -/
structure AddsResidence (port : SyncSendPort) (value : MDSyncSend) (syncTs : UInt64) : Prop where
  bound : value.preciseOriginTimestamp.nanoseconds.toNat < 2 * 10 ^ 9
  multiple : (residenceTime value syncTs).toNat % 2 ^ 16 = 0
  signed : signedResidence value syncTs % 2 ^ 48 = (residenceTime value syncTs).toNat % 2 ^ 48
  least : -(2 ^ 63) ≤ accumulated port value syncTs +
    carriedOut value.preciseOriginTimestamp value.preciseOriginTimestamp.nanoseconds.toNat * 2 ^ 16
  most : accumulated port value syncTs +
    carriedOut value.preciseOriginTimestamp value.preciseOriginTimestamp.nanoseconds.toNat * 2 ^ 16
      < 2 ^ 63

section Instants

variable {port : SyncSendPort} {value : MDSyncSend} {sequenceId : UInt16} {syncTs : UInt64}

theorem timestamp_setFollowUp (port : SyncSendPort) (value : MDSyncSend) (sequenceId : UInt16)
    (syncTs : UInt64) : preciseOriginTimestamp (setFollowUp port value sequenceId syncTs) =
      foldedTimestamp value.preciseOriginTimestamp
        (if port.weAreGm then syncTs - value.upstreamTxTime else 0) := by
  rw [setFollowUp, preciseOriginTimestamp_composeSyncFupTLV]

private theorem correctionField_setFollowUp_gm (gm : port.weAreGm = true) :
    correctionField (setFollowUp port value sequenceId syncTs) = 0 := by
  rw [setFollowUp, correctionField_composeSyncFupTLV, correctionField_mdComposeHead, if_pos gm]
  rfl

theorem nanoseconds_lt_iff (origin : Timestamp) (cf : UInt64) :
    (foldedTimestamp origin cf).nanoseconds.toNat < 10 ^ 9 ↔
      foldedNanoseconds origin cf < 2 * 10 ^ 9 := by
  rw [toNat_nanoseconds]
  split <;> omega

private theorem foldedNanoseconds_elapsed (value : MDSyncSend) (syncTs : UInt64) :
    (foldedNanoseconds value.preciseOriginTimestamp (syncTs - value.upstreamTxTime) : ℤ) =
      (value.preciseOriginTimestamp.nanoseconds.toNat + elapsed value syncTs) % 2 ^ 32 := by
  have signed := toInt_toInt64 (syncTs - value.upstreamTxTime)
  rw [elapsed, foldedNanoseconds]
  split at signed <;> omega

private theorem elapsed_bounds (value : MDSyncSend) (syncTs : UInt64) :
    -(2 ^ 63) ≤ elapsed value syncTs ∧ elapsed value syncTs < 2 ^ 63 := by
  have bound := (syncTs - value.upstreamTxTime).toNat_lt
  have signed := toInt_toInt64 (syncTs - value.upstreamTxTime)
  rw [elapsed]
  split at signed <;> omega

theorem followUpTells_gm (gm : port.weAreGm = true) :
    FollowUpTells port value sequenceId syncTs ↔ FoldsElapsed value syncTs := by
  have timestamp : preciseOriginTimestamp (setFollowUp port value sequenceId syncTs) =
      foldedTimestamp value.preciseOriginTimestamp (syncTs - value.upstreamTxTime) := by
    rw [timestamp_setFollowUp, if_pos gm]
  have correction : (correctionField (setFollowUp port value sequenceId syncTs)).toInt64.toInt =
      0 := by
    rw [correctionField_setFollowUp_gm gm]
    rfl
  have whole := nsec_foldedTimestamp value.preciseOriginTimestamp (syncTs - value.upstreamTxTime)
  have range := nanoseconds_lt_iff value.preciseOriginTimestamp (syncTs - value.upstreamTxTime)
  have folded := foldedNanoseconds_elapsed value syncTs
  have bounds := elapsed_bounds value syncTs
  have seconds := seconds_lt value.preciseOriginTimestamp
  constructor
  · rintro ⟨instant, nanoseconds⟩
    rw [timestamp, correction, whole, accumulated, if_pos gm, carriedOut] at instant
    rw [timestamp, range] at nanoseconds
    split at instant
    · omega
    · rename_i kept
      exact ⟨by omega, by omega, by omega⟩
  · rintro ⟨nonneg, bound, carry⟩
    refine ⟨?_, ?_⟩
    · rw [timestamp, correction, whole, accumulated, if_pos gm, carriedOut, if_neg (by omega)]
      omega
    · rw [timestamp, range]
      omega

theorem toInt_toInt64_eq_iff (word : UInt64) (number : ℤ) : word.toInt64.toInt = number ↔
      number % 2 ^ 64 = word.toNat ∧ -(2 ^ 63) ≤ number ∧ number < 2 ^ 63 := by
  have bound := word.toNat_lt
  rw [toInt_toInt64]
  split <;> omega

theorem toNat_relayedCorrection (value : MDSyncSend) (syncTs : UInt64) :
    (relayedCorrection value syncTs).toNat =
      ((receivedCorrection value).toNat + (residenceTime value syncTs).toNat * 2 ^ 16 +
        (residenceTime value syncTs).toNat % 2 ^ 16) % 2 ^ 64 := by
  simp only [relayedCorrection, UInt64.toNat_add, toNat_shiftLeft_sixteen, UInt16.toNat_toUInt64,
    UInt64.toNat_toUInt16]
  omega

private theorem carriedOut_emod (origin : Timestamp) (nanoseconds : ℤ) :
    carriedOut origin nanoseconds % 2 ^ 48 = 0 := by
  unfold carriedOut
  split <;> rfl

private theorem emod_correction_iff {received : Nat} {signed lost : ℤ} (residence : Nat) (exact : ℤ)
    (same : signed % 2 ^ 64 = received) (turns : lost % 2 ^ 48 = 0) :
    (signed + exact * 2 ^ 16 + lost * 2 ^ 16) % 2 ^ 64 =
        ((received + residence * 2 ^ 16 + residence % 2 ^ 16) % 2 ^ 64 : Nat) ↔
      residence % 2 ^ 16 = 0 ∧ exact % 2 ^ 48 = residence % 2 ^ 48 := by
  omega

private theorem toInt_toInt64_emod (word : UInt64) : word.toInt64.toInt % 2 ^ 64 = word.toNat := by
  have bound := word.toNat_lt
  rw [toInt_toInt64]
  split <;> omega

theorem followUpTells_relay (relays : port.weAreGm = false) :
    FollowUpTells port value sequenceId syncTs ↔ AddsResidence port value syncTs := by
  have timestamp : preciseOriginTimestamp (setFollowUp port value sequenceId syncTs) =
      foldedTimestamp value.preciseOriginTimestamp 0 := by
    rw [timestamp_setFollowUp, relays]
    rfl
  have whole := nsec_foldedTimestamp value.preciseOriginTimestamp 0
  have range := nanoseconds_lt_iff value.preciseOriginTimestamp 0
  have folded : foldedNanoseconds value.preciseOriginTimestamp 0 =
      value.preciseOriginTimestamp.nanoseconds.toNat := by
    have bound := value.preciseOriginTimestamp.nanoseconds.toNat_lt
    rw [foldedNanoseconds, UInt64.toNat_zero, Nat.add_zero, Nat.mod_eq_of_lt bound]
  rw [folded] at whole range
  have instant : (preciseOriginTimestamp (setFollowUp port value sequenceId syncTs)).nsec * 2 ^ 16 +
        (correctionField (setFollowUp port value sequenceId syncTs)).toInt64.toInt =
      value.preciseOriginTimestamp.nsec * 2 ^ 16 + accumulated port value syncTs ↔
      (relayedCorrection value syncTs).toInt64.toInt = accumulated port value syncTs +
        carriedOut value.preciseOriginTimestamp
          value.preciseOriginTimestamp.nanoseconds.toNat * 2 ^ 16 := by
    rw [timestamp, correctionField_setFollowUp _ _ _ _ relays, whole]
    constructor <;> intro same <;> linarith
  have nanoseconds :
      (preciseOriginTimestamp (setFollowUp port value sequenceId syncTs)).nanoseconds.toNat <
        10 ^ 9 ↔ value.preciseOriginTimestamp.nanoseconds.toNat < 2 * 10 ^ 9 := by
    rw [timestamp, range]
  have digits := emod_correction_iff (residenceTime value syncTs).toNat
    (signedResidence value syncTs) (toInt_toInt64_emod (receivedCorrection value))
    (carriedOut_emod value.preciseOriginTimestamp value.preciseOriginTimestamp.nanoseconds.toNat)
  have total : accumulated port value syncTs =
      (receivedCorrection value).toInt64.toInt + signedResidence value syncTs * 2 ^ 16 := by
    rw [accumulated, relays]
    rfl
  constructor
  · rintro ⟨denotes, inRange⟩
    obtain ⟨word, least, most⟩ := (toInt_toInt64_eq_iff _ _).mp (instant.mp denotes)
    rw [toNat_relayedCorrection, total, digits] at word
    exact ⟨nanoseconds.mp inRange, word.1, word.2, least, most⟩
  · rintro ⟨bound, multiple, signed, least, most⟩
    refine ⟨instant.mpr ((toInt_toInt64_eq_iff _ _).mpr ⟨?_, least, most⟩), nanoseconds.mpr bound⟩
    rw [toNat_relayedCorrection, total, digits]
    exact ⟨multiple, signed⟩

end Instants

/-- The Follow_Up denotes the right instant exactly when, on a grandmaster, less than two seconds
are folded in, and otherwise, the residence time has no low bits to be added twice. -/
theorem followUpTells_iff (port : SyncSendPort) (value : MDSyncSend) (sequenceId : UInt16)
    (syncTs : UInt64) : FollowUpTells port value sequenceId syncTs ↔
      if port.weAreGm then FoldsElapsed value syncTs else AddsResidence port value syncTs := by
  cases gm : port.weAreGm with
  | true => exact followUpTells_gm gm
  | false => exact followUpTells_relay gm

def Relay.gmPort : SyncSendPort := { (undelayed 0).sendPort with weAreGm := true }

/-- An origin of 0.6 s whose Sync leaves, at the second try, 1.5 s later: 1100000000 ns. -/
theorem retransmitted_not_followUpTells : ¬ ∀ port value sequenceId syncTs,
    FollowUpTells port value sequenceId syncTs := by
  intro all
  have tells := all Relay.gmPort { Relay.plainSend with
    preciseOriginTimestamp := { nanoseconds := 600000000, secondsLsb := 0, secondsMsb := 0 } } 0
    1500000000
  have written : ¬ (preciseOriginTimestamp (setFollowUp Relay.gmPort { Relay.plainSend with
      preciseOriginTimestamp := { nanoseconds := 600000000, secondsLsb := 0, secondsMsb := 0 } } 0
      1500000000)).nanoseconds.toNat < 10 ^ 9 := by
    decide +kernel
  exact written tells.nanoseconds

end EnetTsn.Sync
