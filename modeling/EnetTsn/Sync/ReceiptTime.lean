import EnetTsn.Sync.ClockSlave
import EnetTsn.Sync.Relay
import Mathlib.Tactic.LinearCombination

/-!
The way of the corrections of a Sync and its Follow_Up into the receipt time of the clock:
`setMDSyncReceive` splits their sum, and `clock_slave_sync_sm` adds it to the origin.
-/

namespace EnetTsn.Sync

open EnetTsn.Gptp EnetTsn.Library EnetTsn.Md

/-- What the two receiving machines of a port make of the messages in the buffers, in any of
their states and at any time. -/
structure HandsOn (port : PortSyncReceivePort) (receive : SyncReceive) (source : PortSyncSync) :
    Prop where
  steps : ∃ received cts64 portCts64 portReceive,
    (mdSyncReceiveSm port.toSyncPort cts64 receive).map Prod.snd = some (some received) ∧
    (portSyncSyncReceiveSmRecvMDSync port received portCts64 portReceive).map Prod.snd =
      some (some source)

namespace SyncReceive

def correctionSum (receive : SyncReceive) : ℤ :=
  (correctionField receive.recSync +
    if twoStepFlag receive.recSync then correctionField receive.recFollowUp else 0).toInt64.toInt

def origin (receive : SyncReceive) : Timestamp :=
  preciseOriginTimestamp
    (if twoStepFlag receive.recSync then receive.recFollowUp else receive.recSync)

end SyncReceive

def Timestamp.nsec (time : Timestamp) : ℤ :=
  (time.secondsMsb.toNat * 2 ^ 32 + time.secondsLsb.toNat) * 10 ^ 9 + time.nanoseconds.toNat

def ExtendedTimestamp.scaled (time : ExtendedTimestamp) : ℤ :=
  ((time.secondsMsb.toNat * 2 ^ 32 + time.secondsLsb.toNat) * 10 ^ 9 + time.nanoseconds.toNat) *
    2 ^ 16 + time.subns.toNat

def ClockSlaveInstance.delay (inst : ClockSlaveInstance) (rateRatio : ℚ) : ℤ :=
  match inst.localPpg with
  | none => 0
  | some port => Binary64.truncate (propagationDelay port rateRatio)

structure SplitsSum (sum : ℤ) (correction : ScaledNs) : Prop where
  whole : correction.nsec.toInt * 2 ^ 16 + correction.subns.toNat = sum
  floor : correction.nsec.toInt = sum / 2 ^ 16

section Arithmetic

theorem toInt_toInt64 (value : UInt64) :
    value.toInt64.toInt = if value.toNat < 2 ^ 63 then (value.toNat : ℤ) else value.toNat - 2 ^ 64 := by
  have signed : value.toInt64.toInt = value.toBitVec.toInt := rfl
  have same : value.toBitVec.toNat = value.toNat := rfl
  rw [signed, BitVec.toInt_eq_toNat_cond, same]
  split <;> split <;> omega

private theorem toInt_shiftRight_sixteen (value : UInt64) :
    (value >>> 16).toInt64.toInt = value.toNat / 2 ^ 16 := by
  have bound := value.toNat_lt
  rw [toInt_toInt64, toNat_shiftRight_sixteen, if_pos (by omega)]
  omega

private theorem splitsSum_iff (value : UInt64) (nsecMsb : Int16) : SplitsSum value.toInt64.toInt
      { nsec := (value >>> 16).toInt64, subns := value.toUInt16, nsecMsb := nsecMsb } ↔
        0 ≤ value.toInt64.toInt := by
  have bound := value.toNat_lt
  have high := toInt_shiftRight_sixteen value
  have low : value.toUInt16.toNat = value.toNat % 2 ^ 16 := UInt64.toNat_toUInt16 value
  have signed := toInt_toInt64 value
  constructor
  · rintro ⟨whole, -⟩
    dsimp only at whole
    omega
  · intro nonneg
    refine ⟨?_, ?_⟩
    · dsimp only
      split at signed <;> omega
    · dsimp only
      split at signed <;> omega

private theorem toNat_truncateUInt64 (value : ℚ) :
    ((truncateUInt64 value).toNat : ℤ) = Binary64.truncate value % 2 ^ 64 := by
  have nonneg := Int.emod_nonneg (Binary64.truncate value) (b := 2 ^ 64) (by decide)
  rw [truncateUInt64, UInt64.ofInt, UInt64.toNat_ofNat']
  omega

theorem toNat_receiptNsec (inst : ClockSlaveInstance) (source : PortSyncSync) :
    ((ClockSlave.receiptNsec inst.localPpg source).toNat : ℤ) =
      (source.preciseOriginTimestamp.secondsLsb.toNat * 10 ^ 9 +
        source.preciseOriginTimestamp.nanoseconds.toNat +
        source.followUpCorrectionField.nsec.toUInt64.toNat + inst.delay source.rateRatio) %
          2 ^ 64 := by
  have second : (1000000000 : UInt64).toNat = 10 ^ 9 := rfl
  unfold ClockSlave.receiptNsec ClockSlaveInstance.delay
  cases inst.localPpg with
  | none =>
    simp only [UInt64.toNat_add, UInt64.toNat_mul, UInt32.toNat_toUInt64, second]
    omega
  | some port =>
    have added := toNat_truncateUInt64 (propagationDelay port source.rateRatio)
    simp only [UInt64.toNat_add, UInt64.toNat_mul, UInt32.toNat_toUInt64, second]
    omega

private theorem seconds_add_nanoseconds (nsec : Nat) :
    nsec / 10 ^ 9 % 2 ^ 32 * 10 ^ 9 + nsec % 10 ^ 9 % 2 ^ 32 = nsec % (2 ^ 32 * 10 ^ 9) := by
  have small : nsec % 10 ^ 9 % 2 ^ 32 = nsec % 10 ^ 9 :=
    Nat.mod_eq_of_lt ((Nat.mod_lt nsec (by norm_num)).trans (by norm_num))
  rw [small, Nat.mul_comm (2 ^ 32), Nat.mod_mul, Nat.add_comm, Nat.mul_comm]

private theorem scaled_receiptTime (localPpg : Option SyncPort) (source : PortSyncSync) :
    (ClockSlave.receiptTime localPpg source).scaled =
      ((ClockSlave.receiptNsec localPpg source).toNat % (2 ^ 32 * 10 ^ 9) : ℤ) * 2 ^ 16 := by
  have second : (1000000000 : UInt64).toNat = 10 ^ 9 := rfl
  have digits := seconds_add_nanoseconds (ClockSlave.receiptNsec localPpg source).toNat
  simp only [ClockSlave.receiptTime, ExtendedTimestamp.scaled, UInt64.toNat_toUInt32,
    UInt64.toNat_div, UInt64.toNat_mod, second, UInt16.toNat_zero]
  generalize (ClockSlave.receiptNsec localPpg source).toNat = nsec at digits ⊢
  zify at digits
  norm_num at digits ⊢
  exact digits

private theorem dvd_of_turns (same : turns * (2 ^ 32 * 10 ^ 9) + wraps * 2 ^ 64 = 0) : (2 ^ 23 : ℤ) ∣ turns := by
  have reduced : (turns * 1953125 + wraps * 2 ^ 23) * 2 ^ 41 = 0 := by
    linear_combination same
  have cancelled : turns * 1953125 + wraps * 2 ^ 23 = 0 :=
    (mul_eq_zero.mp reduced).resolve_right (by norm_num)
  -- 3054701 is the inverse of 5^9 modulo 2^23
  exact ⟨-(3054701 * wraps) - 711228 * turns, by linear_combination 3054701 * cancelled⟩

theorem instant_iff {msb rest : ℤ} (nonneg : 0 ≤ msb) (field : msb < 2 ^ 16) :
    rest % 2 ^ 64 % (2 ^ 32 * 10 ^ 9) = msb * (2 ^ 32 * 10 ^ 9) + rest ↔
      msb = 0 ∧ 0 ≤ rest ∧ rest < 2 ^ 32 * 10 ^ 9 := by
  constructor
  · intro same
    have wraps := Int.mul_ediv_add_emod rest (2 ^ 64)
    have turns := Int.mul_ediv_add_emod (rest % 2 ^ 64) (2 ^ 32 * 10 ^ 9)
    have word := Int.emod_nonneg rest (b := 2 ^ 64) (by decide)
    have wordBound := Int.emod_lt_of_pos rest (b := 2 ^ 64) (by decide)
    have second := Int.emod_nonneg (rest % 2 ^ 64) (b := 2 ^ 32 * 10 ^ 9) (by decide)
    have secondBound := Int.emod_lt_of_pos (rest % 2 ^ 64) (b := 2 ^ 32 * 10 ^ 9) (by decide)
    have turnNonneg := Int.ediv_nonneg word (b := 2 ^ 32 * 10 ^ 9) (by decide)
    rw [same] at turns second secondBound
    generalize rest % 2 ^ 64 / (2 ^ 32 * 10 ^ 9) = turn at *
    generalize rest % 2 ^ 64 = low at *
    generalize rest / 2 ^ 64 = wrap at *
    have divides : 2 ^ 23 ∣ msb + turn := dvd_of_turns (show _ * _ + wrap * _ = 0 by linarith)
    have few : msb + turn < 2 ^ 23 := by linarith
    have none : msb + turn = 0 := Int.eq_zero_of_dvd_of_nonneg_of_lt (by linarith) few divides
    have zero : msb = 0 := by linarith
    rw [zero, zero_mul, zero_add] at second secondBound
    exact ⟨zero, second, secondBound⟩
  · rintro ⟨rfl, nonneg, bound⟩
    rw [zero_mul, zero_add, Int.emod_eq_of_lt nonneg (by linarith), Int.emod_eq_of_lt nonneg bound]

private theorem scaled_eq_iff {low whole sum : ℤ} :
    low * 2 ^ 16 = (whole - sum / 2 ^ 16) * 2 ^ 16 + sum ↔ sum % 2 ^ 16 = 0 ∧ low = whole := by
  omega

theorem receipt_iff (origin : Timestamp) (sum delay : ℤ) :
    (origin.secondsLsb.toNat * 10 ^ 9 + origin.nanoseconds.toNat + sum / 2 ^ 16 + delay : ℤ) %
          2 ^ 64 % (2 ^ 32 * 10 ^ 9) * 2 ^ 16 = origin.nsec * 2 ^ 16 + sum + delay * 2 ^ 16 ↔
      sum % 2 ^ 16 = 0 ∧ origin.secondsMsb = 0 ∧ 0 ≤ origin.nsec + sum / 2 ^ 16 + delay ∧
        origin.nsec + sum / 2 ^ 16 + delay < 2 ^ 32 * 10 ^ 9 := by
  have upper := origin.secondsMsb.toNat_lt
  have cleared : (origin.secondsMsb.toNat : ℤ) = 0 ↔ origin.secondsMsb = 0 := by
    rw [Int.natCast_eq_zero, ← UInt16.toNat_inj, UInt16.toNat_zero]
  have instant : origin.nsec + sum / 2 ^ 16 + delay =
      origin.secondsMsb.toNat * (2 ^ 32 * 10 ^ 9) + (origin.secondsLsb.toNat * 10 ^ 9 +
        origin.nanoseconds.toNat + sum / 2 ^ 16 + delay) := by
    unfold Timestamp.nsec
    ring
  have total : origin.nsec * 2 ^ 16 + sum + delay * 2 ^ 16 =
      (origin.nsec + sum / 2 ^ 16 + delay - sum / 2 ^ 16) * 2 ^ 16 + sum := by ring
  rw [total, scaled_eq_iff, instant, instant_iff (Int.natCast_nonneg _) (by omega), cleared]
  refine and_congr_right fun _ => and_congr_right fun none => ?_
  rw [cleared.mpr none, zero_mul, zero_add]

private theorem toNat_shifted {value : UInt64} (nonneg : 0 ≤ value.toInt64.toInt) :
    ((value >>> 16).toInt64.toUInt64.toNat : ℤ) = value.toInt64.toInt / 2 ^ 16 := by
  have bound := value.toNat_lt
  have signed := toInt_toInt64 value
  rw [UInt64.toUInt64_toInt64, toNat_shiftRight_sixteen]
  split at signed <;> omega

end Arithmetic

def receiptInstant (inst : ClockSlaveInstance) (receive : SyncReceive) (source : PortSyncSync) :
    ℤ :=
  receive.origin.nsec + receive.correctionSum / 2 ^ 16 + inst.delay source.rateRatio

/-- The sum of the corrections is split as it should, and the receipt time is the origin with
the sum and the delay. -/
structure ReceivesTime (inst : ClockSlaveInstance) (receive : SyncReceive)
    (source : PortSyncSync) (time : ExtendedTimestamp) : Prop where
  splits : SplitsSum receive.correctionSum source.followUpCorrectionField
  added : time.scaled = receive.origin.nsec * 2 ^ 16 + receive.correctionSum +
    inst.delay source.rateRatio * 2 ^ 16

theorem HandsOn.fields {receive : SyncReceive} (handsOn : HandsOn port receive source) :
    source.preciseOriginTimestamp = receive.origin ∧ source.followUpCorrectionField =
        (setMDSyncReceive port.toSyncPort receive.recSync receive.recFollowUp
          receive.syncEventIngressTimestamp).followUpCorrectionField := by
  obtain ⟨received, cts64, portCts64, portReceive, first, second⟩ := handsOn.steps
  obtain ⟨⟨_, _⟩, finished, rfl⟩ := Option.map_eq_some_iff.mp first
  obtain ⟨⟨_, _⟩, handedOn, rfl⟩ := Option.map_eq_some_iff.mp second
  rw [portSyncSyncReceiveSmRecvMDSync_result handedOn, mdSyncReceiveSm_result finished]
  exact ⟨rfl, rfl⟩

/-- In every run of the clock's machine, the receipt time of a Sync is right exactly when the
sum of the corrections is a number of whole nanoseconds that is not negative, and the instant
has 32 bits of seconds, as its origin. -/
theorem receivesTime_iff {receive : SyncReceive} (handsOn : HandsOn port receive source)
    (reachable : clockSlaveSystem.Reachable System.anyStep data)
    (finished : clockSlaveSyncSmPortSyncSync inst source data = some (next, some time)) :
    ReceivesTime inst receive source time ↔
      (0 ≤ receive.correctionSum ∧ receive.correctionSum % 2 ^ 16 = 0) ∧
        receive.origin.secondsMsb = 0 ∧ 0 ≤ receiptInstant inst receive source ∧
          receiptInstant inst receive source < 2 ^ 32 * 10 ^ 9 := by
  obtain ⟨origin, correction⟩ := handsOn.fields
  have splits : SplitsSum receive.correctionSum source.followUpCorrectionField ↔
      0 ≤ receive.correctionSum := by
    rw [correction]
    exact splitsSum_iff _ _
  have time_eq := clockSlaveSyncSmPortSyncSync_result reachable finished
  have floor (nonneg : 0 ≤ receive.correctionSum) : ReceivesTime inst receive source time ↔
      time.scaled = receive.origin.nsec * 2 ^ 16 + receive.correctionSum +
        inst.delay source.rateRatio * 2 ^ 16 :=
    ⟨ReceivesTime.added, fun added => ⟨splits.mpr nonneg, added⟩⟩
  by_cases nonneg : 0 ≤ receive.correctionSum
  rotate_left
  · exact ⟨fun receives => absurd (splits.mp receives.splits) nonneg,
      fun right => absurd right.1.1 nonneg⟩
  have shifted : (source.followUpCorrectionField.nsec.toUInt64.toNat : ℤ) =
      receive.correctionSum / 2 ^ 16 := by
    rw [correction]
    exact toNat_shifted nonneg
  rw [floor nonneg, time_eq, scaled_receiptTime, toNat_receiptNsec, origin, shifted, receipt_iff,
    receiptInstant]
  exact ⟨fun right => ⟨⟨nonneg, right.1⟩, right.2⟩, fun right => ⟨right.1.2, right.2⟩⟩

namespace Relay

def corrected (correction : Nat) : SyncReceive :=
  { (undelayed 0).receive with recSync := (Paired.twoStepMessage 7).store 8 8 correction }

def correctedReceived (correction : Nat) : MDSyncReceive :=
  setMDSyncReceive (undelayed 0).port.toSyncPort (corrected correction).recSync
    (corrected correction).recFollowUp 0

def correctedSource (correction : Nat) : PortSyncSync :=
  PortSyncReceive.receivedPortSync (undelayed 0).port (correctedReceived correction) 0

def slaveInstance : ClockSlaveInstance where
  BEGIN := false
  instanceEnable := true
  clock := 0
  staticPortStateSlavePort := 0
  localPpg := some (undelayed 0).port.toSyncPort

end Relay

open Relay in
theorem receivesTime_iff_corrected : ∃ data time, clockSlaveSystem.Reachable System.anyStep data ∧
      ReceivesTime slaveInstance (corrected 65536) (correctedSource 65536) time := by
  have handsOn : HandsOn (undelayed 0).port (corrected 65536) (correctedSource 65536) :=
    ⟨correctedReceived 65536, 0, 0, (undelayed 0).portReceive, by decide +kernel, by decide +kernel⟩
  have ran : ((clockSlaveSystem.run clockSlaveSystem.start
      [.portSyncSync slaveInstance (correctedSource 65536)]).bind fun data =>
        (clockSlaveSyncSmPortSyncSync slaveInstance (correctedSource 65536) data).bind
          Prod.snd).isSome = true := by
    decide +kernel
  obtain ⟨time, returned⟩ := Option.isSome_iff_exists.mp ran
  obtain ⟨data, finished, called⟩ := Option.bind_eq_some_iff.mp returned
  obtain ⟨⟨next, _⟩, done, rfl⟩ := Option.bind_eq_some_iff.mp called
  have reached := System.reachable_of_run finished
  refine ⟨data, time, reached, (receivesTime_iff handsOn reached done).mpr ⟨?_, ?_, ?_⟩⟩
  all_goals decide +kernel

open Relay in
/-- A correction of -1 ns becomes one of 2^48 - 1 ns. -/
theorem negative_not_receivesTime : ¬ ∀ port receive source data inst next time,
    HandsOn port receive source → clockSlaveSystem.Reachable System.anyStep data →
      clockSlaveSyncSmPortSyncSync inst source data = some (next, some time) →
        ReceivesTime inst receive source time := by
  intro all
  have handsOn : HandsOn (undelayed 0).port (corrected (2 ^ 64 - 65536))
      (correctedSource (2 ^ 64 - 65536)) :=
    ⟨correctedReceived (2 ^ 64 - 65536), 0, 0, (undelayed 0).portReceive, by decide +kernel,
      by decide +kernel⟩
  have ran : ((clockSlaveSystem.run clockSlaveSystem.start
      [.portSyncSync slaveInstance (correctedSource (2 ^ 64 - 65536))]).bind fun data =>
        (clockSlaveSyncSmPortSyncSync slaveInstance (correctedSource (2 ^ 64 - 65536)) data).bind
          Prod.snd).isSome = true := by
    decide +kernel
  obtain ⟨time, returned⟩ := Option.isSome_iff_exists.mp ran
  obtain ⟨data, finished, called⟩ := Option.bind_eq_some_iff.mp returned
  obtain ⟨⟨next, _⟩, done, rfl⟩ := Option.bind_eq_some_iff.mp called
  have receives := all _ _ _ data slaveInstance next time handsOn
    (System.reachable_of_run finished) done
  have different : ¬ (correctedSource (2 ^ 64 - 65536)).followUpCorrectionField.nsec.toInt =
      (corrected (2 ^ 64 - 65536)).correctionSum / 2 ^ 16 := by
    decide +kernel
  exact different receives.splits.floor

end EnetTsn.Sync
