import EnetTsn.Bmcs.AnnounceInformation
import EnetTsn.Bmcs.StateSelection
import EnetTsn.Bmcs.Initial

/-!
The priority vectors the code builds: `compare_priority_vectors` reads their fields, while the
selection and the test for a repeated Announce compare all their bytes.
-/

namespace EnetTsn.Bmcs

open EnetTsn.Gptp

/-- `stepsRemoved` of a path: one more than that of the port's vector. -/
def UInteger224.next (vector : UInteger224) : UInteger224 :=
  { vector with stepsRemoved := vector.stepsRemoved + 1 }

/-- The vectors of the code. An Announce is written over the last message of its port, and the
master vectors over the one that was chosen as `gmPriority`; both name a port. -/
inductive Built : UInteger224 → Prop
  | filled (byte : UInt8) : Built (.fill byte)
  | system (cfg : Config) (settings : Settings) : Built (systemPriorityOf cfg settings)
  | announced (announce : PTPMsgAnnounce) (last : Built previous)
      (named : previous.portNumber.toNat < absMaxNetdevs)
      (ownPort : thisPort.toNat < absMaxNetdevs) :
      Built (messageVector previous announce thisPort)
  | next (path : Built vector) : Built (UInteger224.next vector)
  | master (thisClock : ClockIdentity) (chosen : Built gmPriority)
      (named : gmPriority.portNumber.toNat < absMaxNetdevs)
      (ownPort : thisPort.toNat < absMaxNetdevs) :
      Built (masterPriorityOf thisClock gmPriority thisPort)

/-- The padding follows from the port number: a fill repeats its byte there, and the number of a
port is smaller than any other fill. -/
structure PaddedByPort (vector : UInteger224) : Prop where
  padding3 : vector.rootSystemIdentity.padding3.toNat = vector.portNumber.toNat / 257
  padding15 : vector.rootSystemIdentity.padding15.toNat = vector.portNumber.toNat / 257

theorem Built.paddedByPort (built : Built vector) : PaddedByPort vector := by
  have port {number : UInt16} (named : number.toNat < absMaxNetdevs) : number.toNat / 257 = 0 :=
    Nat.div_eq_of_lt (named.trans (by decide))
  induction built with
  | filled byte =>
    have bound := byte.toNat_lt
    have word : (UInt16.ofNat (byte.toNat * 257)).toNat / 257 = byte.toNat := by
      rw [UInt16.toNat_ofNat', Nat.mod_eq_of_lt (by omega)]
      omega
    exact ⟨word.symm, word.symm⟩
  | system cfg settings =>
    have cleared : (0 : UInt8).toNat = (0 : UInt16).toNat / 257 := by decide
    exact ⟨cleared, cleared⟩
  | announced announce last named ownPort padded =>
    have zero := port named
    have own := port ownPort
    exact ⟨(padded.padding3.trans zero).trans own.symm, (padded.padding15.trans zero).trans own.symm⟩
  | next path padded => exact ⟨padded.padding3, padded.padding15⟩
  | master thisClock chosen named ownPort padded =>
    have zero := port named
    have own := port ownPort
    exact ⟨(padded.padding3.trans zero).trans own.symm, (padded.padding15.trans zero).trans own.symm⟩

theorem octets_injective : Function.Injective ClockIdentity.octets := by
  intro first second same
  have bytes := List.map_injective_iff.mpr (fun _ _ => UInt8.toNat_inj.mp) same
  exact Vector.toList_inj.mp bytes

theorem eq_of_key_eq (first : PaddedByPort a) (second : PaddedByPort b) (same : a.key = b.key) :
    a = b := by
  obtain ⟨root, rest⟩ := List.append_inj same (by simp)
  obtain ⟨values, identity⟩ := List.append_inj root rfl
  obtain ⟨steps, source⟩ := List.cons.inj rest
  obtain ⟨sourceIdentity, numbers⟩ := List.append_inj source (by simp)
  have rootIdentity := octets_injective identity
  have sourceClock := octets_injective sourceIdentity
  simp only [List.cons.injEq, and_true, UInt8.toNat_inj, UInt16.toNat_inj] at values numbers
  have padding3 := first.padding3.trans (numbers.2 ▸ second.padding3.symm)
  have padding15 := first.padding15.trans (numbers.2 ▸ second.padding15.symm)
  obtain ⟨⟨⟩, _, ⟨⟩, _⟩ := a
  obtain ⟨⟨⟩, _, ⟨⟩, _⟩ := b
  simp_all [UInt8.toNat_inj, UInt16.toNat_inj]

private theorem inferior_iff (a b : UInteger224) :
    comparePriorityVectors a b = .inferior ↔ b.key < a.key := by
  have decided := decides_vectors a b
  rcases lt_trichotomy a.key b.key with lower | same | higher
  · simp [decided.superior.mpr lower, lower.le]
  · simp [decided.same.mpr same, same]
  · have notSuperior := mt decided.superior.mp higher.not_gt
    have notSame := mt decided.same.mp higher.ne'
    revert notSuperior notSame
    cases comparePriorityVectors a b <;> simp [higher]

/-- The comparison is a total order of vectors, and agrees with `memcmp` on the built ones. -/
theorem compare_orders : (∀ a b c : UInteger224, (∃! result, comparePriorityVectors a b = result) ∧
      (comparePriorityVectors a b = .superior ↔ comparePriorityVectors b a = .inferior) ∧
      (comparePriorityVectors a b = .superior → comparePriorityVectors b c = .superior →
        comparePriorityVectors a c = .superior)) ∧
      ∀ a b : UInteger224, Built a → Built b → (comparePriorityVectors a b = .same ↔ a = b) := by
  constructor
  · intro a b c
    refine ⟨⟨_, rfl, fun _ equal => equal.symm⟩, ?_, ?_⟩
    · rw [superior_iff, inferior_iff]
    · simp only [superior_iff]
      exact lt_trans
  · intro a b first second
    constructor
    · intro same
      exact eq_of_key_eq first.paddedByPort second.paddedByPort ((decides_vectors a b).same.mp same)
    · intro equal
      exact (decides_vectors a b).same.mpr (congrArg _ equal)

theorem compare_orders_announced :
    comparePriorityVectors (systemPriorityOf (Config.sample 0) Settings.sample)
      (UInteger224.next (messageVector (.fill 0) (PTPMsgAnnounce.sample 0) 1)) ≠ .same := by
  have path := (Built.announced (PTPMsgAnnounce.sample 0) (Built.filled 0) (by decide)
    (by decide : (1 : UInt16).toNat < absMaxNetdevs)).next
  exact mt (compare_orders.2 _ _ (.system _ _) path).mp (by decide)

end EnetTsn.Bmcs
