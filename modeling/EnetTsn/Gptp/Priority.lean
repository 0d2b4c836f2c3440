import EnetTsn.Gptp.Types
import EnetTsn.Library.Lexicographic
import Mathlib.Data.List.Forall2

namespace EnetTsn.Gptp

open EnetTsn.Library

/-- `bmcs_priority_comparison_result`. -/
inductive PriorityComparison where
  | same
  | superior
  | inferior
  deriving DecidableEq, Repr

/-- `SELECT_PRIORITY` on the value of an unsigned field. -/
def selectPriority (a b : Nat) : PriorityComparison :=
  if a = b then .same else if a < b then .superior else .inferior

/-- `if (result != SAME_PRIORITY) return result;`. -/
def PriorityComparison.orElse (result : PriorityComparison)
    (next : Unit → PriorityComparison) : PriorityComparison :=
  match result with
  | .same => next ()
  | decided => decided

/-- The loop of `compare_clockid` over the bytes of two clock identities. -/
def compareBytes : List UInt8 → List UInt8 → PriorityComparison
  | a :: as, b :: bs =>
    (selectPriority a.toNat b.toNat).orElse fun _ => compareBytes as bs
  | _, _ => .same

def compareClockid (a b : ClockIdentity) : PriorityComparison :=
  compareBytes a.toList b.toList

/-- `compare_priority_vectors`: a vector is superior when its first differing
field is the smaller one. -/
def comparePriorityVectors (a b : UInteger224) : PriorityComparison :=
  (selectPriority a.rootSystemIdentity.priority1.toNat
      b.rootSystemIdentity.priority1.toNat).orElse fun _ =>
  (selectPriority a.rootSystemIdentity.clockClass.toNat
      b.rootSystemIdentity.clockClass.toNat).orElse fun _ =>
  (selectPriority a.rootSystemIdentity.clockAccuracy.toNat
      b.rootSystemIdentity.clockAccuracy.toNat).orElse fun _ =>
  (selectPriority a.rootSystemIdentity.offsetScaledLogVariance.toNat
      b.rootSystemIdentity.offsetScaledLogVariance.toNat).orElse fun _ =>
  (selectPriority a.rootSystemIdentity.priority2.toNat
      b.rootSystemIdentity.priority2.toNat).orElse fun _ =>
  (compareClockid a.rootSystemIdentity.clockIdentity
      b.rootSystemIdentity.clockIdentity).orElse fun _ =>
  (selectPriority a.stepsRemoved.toNat b.stepsRemoved.toNat).orElse fun _ =>
  (compareClockid a.sourcePortIdentity.clockIdentity
      b.sourcePortIdentity.clockIdentity).orElse fun _ =>
  (selectPriority a.sourcePortIdentity.portIndex.toNat
      b.sourcePortIdentity.portIndex.toNat).orElse fun _ =>
  selectPriority a.portNumber.toNat b.portNumber.toNat

def hasPortPriority (vector : UInteger224) : Bool :=
  vector.rootSystemIdentity.priority1 != 0 ||
  vector.rootSystemIdentity.clockClass != 0 ||
  vector.rootSystemIdentity.clockAccuracy != 0 ||
  vector.rootSystemIdentity.offsetScaledLogVariance != 0 ||
  vector.rootSystemIdentity.priority2 != 0 ||
  vector.stepsRemoved != 0

def ClockIdentity.octets (identity : ClockIdentity) : List Nat :=
  identity.toList.map UInt8.toNat

/-- The fields before `stepsRemoved`, in the order they are compared. -/
def UInteger112.key (identity : UInteger112) : List Nat :=
  [identity.priority1.toNat, identity.clockClass.toNat, identity.clockAccuracy.toNat,
    identity.offsetScaledLogVariance.toNat, identity.priority2.toNat] ++
    identity.clockIdentity.octets

/-- The fields after `stepsRemoved`, in the order they are compared. -/
def UInteger224.sourceKey (vector : UInteger224) : List Nat :=
  vector.sourcePortIdentity.clockIdentity.octets ++
    [vector.sourcePortIdentity.portIndex.toNat, vector.portNumber.toNat]

/-- A priority vector as the sequence of numbers that `compare_priority_vectors`
orders lexicographically. The padding bytes take no part. -/
def UInteger224.key (vector : UInteger224) : List Nat :=
  vector.rootSystemIdentity.key ++ vector.stepsRemoved.toNat :: vector.sourceKey

structure Decides (result : PriorityComparison) (as bs : List Nat) : Prop where
  superior : result = .superior ↔ as < bs
  same : result = .same ↔ as = bs

theorem decides_select (a b : Nat) : Decides (selectPriority a b) [a] [b] := by
  unfold selectPriority
  rcases Nat.lt_trichotomy a b with below | equal | above
  · constructor <;> simp [below, below.ne, List.cons_lt_cons_iff]
  · constructor <;> simp [equal]
  · constructor <;> simp [above.ne', above.not_gt, List.cons_lt_cons_iff]

theorem Decides.orElse (front : Decides result as bs) (sameLength : as.length = bs.length)
    (back : Decides (next ()) as' bs') : Decides (result.orElse next) (as ++ as') (bs ++ bs') := by
  constructor
  · rw [append_lt_append_iff as' bs' sameLength, ← front.superior, ← front.same, ← back.superior]
    cases result <;> simp [PriorityComparison.orElse]
  · have split : as ++ as' = bs ++ bs' ↔ as = bs ∧ as' = bs' :=
      ⟨fun equal => List.append_inj equal sameLength, fun ⟨first, second⟩ => by rw [first, second]⟩
    rw [split, ← front.same, ← back.same]
    cases result <;> simp [PriorityComparison.orElse]

theorem Decides.cons {next : Unit → PriorityComparison} (a b : Nat)
    (rest : Decides (next ()) as bs) :
    Decides ((selectPriority a b).orElse next) (a :: as) (b :: bs) :=
  (decides_select a b).orElse rfl rest

private theorem decides_bytes (as bs : List UInt8) (sameLength : as.length = bs.length) :
    Decides (compareBytes as bs) (as.map UInt8.toNat) (bs.map UInt8.toNat) := by
  induction as generalizing bs with
  | nil =>
    have empty : bs = [] := List.length_eq_zero_iff.mp sameLength.symm
    subst empty
    constructor <;> simp [compareBytes]
  | cons a as ih =>
    cases bs with
    | nil => simp at sameLength
    | cons b bs =>
      have rest := ih bs (by simpa using sameLength)
      exact Decides.cons a.toNat b.toNat rest

theorem decides_clockid (a b : ClockIdentity) : Decides (compareClockid a b) a.octets b.octets :=
  decides_bytes a.toList b.toList (by simp)

@[simp] theorem octets_length (identity : ClockIdentity) : identity.octets.length = 8 := by
  simp [ClockIdentity.octets]

@[simp] theorem UInteger112.key_length (identity : UInteger112) : identity.key.length = 13 := by
  simp [UInteger112.key]

/-- `compare_priority_vectors` decides the lexicographic order of the keys. -/
theorem decides_vectors (a b : UInteger224) : Decides (comparePriorityVectors a b) a.key b.key := by
  refine Decides.cons _ _ <| Decides.cons _ _ <| Decides.cons _ _ <| Decides.cons _ _ <|
    Decides.cons _ _ <| (decides_clockid _ _).orElse (by simp) <| Decides.cons _ _ <|
    (decides_clockid _ _).orElse (by simp) <| Decides.cons _ _ <| decides_select _ _

theorem superior_iff (a b : UInteger224) : comparePriorityVectors a b = .superior ↔ a.key < b.key :=
  (decides_vectors a b).superior

private theorem octets_le_fill (identity : ClockIdentity) :
    List.Forall₂ (fun a b => b ≤ a) (ClockIdentity.fill 0xFF).octets identity.octets := by
  have octets : (ClockIdentity.fill 0xFF).octets = List.replicate 8 255 := by decide
  rw [octets]
  refine List.forall₂_iff_get.mpr ⟨by simp, fun index _ inRange => ?_⟩
  simp only [ClockIdentity.octets, List.get_eq_getElem, List.getElem_map, List.getElem_replicate]
  exact Nat.le_of_lt_succ (UInt8.toNat_lt _)

theorem fill_not_superior (vector : UInteger224) : ¬ (UInteger224.fill 0xFF).key < vector.key := by
  have byte : ∀ value : UInt8, value.toNat ≤ 255 := fun value => Nat.le_of_lt_succ value.toNat_lt
  have word : ∀ value : UInt16, value.toNat ≤ 65535 := fun value => Nat.le_of_lt_succ value.toNat_lt
  have identity := octets_le_fill
  refine not_lt_of_forall₂_ge ?_
  have root : List.Forall₂ (fun a b => b ≤ a)
      (UInteger224.fill 0xFF).rootSystemIdentity.key vector.rootSystemIdentity.key :=
    .cons (byte _) <| .cons (byte _) <| .cons (byte _) <| .cons (word _) <| .cons (byte _) <|
      identity _
  have source : List.Forall₂ (fun a b => b ≤ a)
      (UInteger224.fill 0xFF).sourceKey vector.sourceKey :=
    List.rel_append (identity _) (.cons (word _) <| .cons (word _) .nil)
  exact List.rel_append root (.cons (word _) source)

end EnetTsn.Gptp
