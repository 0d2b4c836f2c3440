import Mathlib.Data.List.Basic
import EnetTsn.Uniconf.Binconf

namespace EnetTsn.Uniconf

open EnetTsn.Library

def ucMaxValuekeys : Nat := 8

def apter : UInt8 := 255

structure ValueKey where
  octets : List UInt8
  short : octets.length < 256
  deriving DecidableEq

def ValueKey.kss (kv : ValueKey) : UInt8 := UInt8.ofNat kv.octets.length

def pathLength (octets : List UInt8) : Option Nat :=
  if apter ∈ octets then some (octets.idxOf apter) else none

def kvsSize (kvs : List ValueKey) : Nat := (kvs.map fun kv => kv.octets.length + 1).sum

def encodeKvs (kvs : List ValueKey) : List UInt8 := kvs.flatMap fun kv => kv.kss :: kv.octets

/-- `yang_db_create_key`, with the octets that are written; none if it reads behind a path. -/
def yangDbCreateKey (pap ap : Option (List UInt8)) (kvs : List ValueKey) : Option (List UInt8) := do
  let papc ← (pap.map pathLength).getD (some 0)
  let apc ← (ap.map fun octets => (pathLength octets).map (· + 1)).getD (some 1)
  if papc + apc + kvsSize kvs = 0 ∨ ucMaxKeysize < papc + apc + kvsSize kvs then some []
  else some ((pap.getD []).take papc ++ (ap.getD [apter]).take apc ++ encodeKvs kvs)

/-- What `yang_db_extract_key` leaves: its result, the path, the value keys, and the sizes that it
has written. -/
structure Extracted where
  res : Int
  ap : Option (List UInt8)
  kvs : List (List UInt8)
  kss : List UInt8
  deriving DecidableEq

def countLoop : Nat → List UInt8 → Nat
  | fuel + 1, size :: rest => countLoop fuel (rest.drop size.toNat) + 1
  | _, _ => 0

/-- The memory for the path, and for one value key after the other: whether there is a block
of a size. -/
abbrev KeyMemory := Nat → Nat → Bool

/-- The loop that copies the value keys from the `turn`th on; none if it reads behind the key.
The sizes end with a zero. -/
def copyLoop (getmem : KeyMemory) (ap : List UInt8) : Nat → Nat → List UInt8 → Option Extracted
  | 0, _, _ => some ⟨0, some ap, [], [0]⟩
  | _ + 1, _, [] => none
  | vn + 1, turn, size :: rest =>
    if getmem turn size.toNat = false then some ⟨-1, some ap, [], [size]⟩
    else do
      let kv ← slice rest 0 size.toNat
      let later ← copyLoop getmem ap vn (turn + 1) (rest.drop size.toNat)
      some { later with
        kvs := kv :: later.kvs
        kss := size :: later.kss }

/-- `yang_db_extract_key`; none if it reads behind the key. -/
def yangDbExtractKey (getmem : KeyMemory) (key : Option (List UInt8)) : Option Extracted :=
  match key with
  | none => some ⟨-1, none, [], []⟩
  | some key =>
    let an := key.idxOf apter + 1
    if getmem 0 an = false then some ⟨-1, none, [], []⟩
    else
      -- a path that takes all of the key may lack its terminator
      let ap := (key ++ [apter]).take an
      let rest := key.drop an
      let vn := countLoop rest.length rest
      if vn = 0 then some ⟨0, some ap, [], []⟩
      else if ucMaxValuekeys < vn then some ⟨-1, none, [], []⟩
      else copyLoop getmem ap vn 1 rest

/-- The loop for the last value key, from the distance `j` behind the path on. -/
def bottomLoop : Nat → Nat → List UInt8 → Option Nat
  | fuel + 1, j, size :: rest =>
    (bottomLoop fuel (j + size.toNat + 1) (rest.drop size.toNat)).or (some j)
  | _, _, _ => none

/-- `yang_db_key_bottomp`, with the distance from the start of the key, or a null pointer; none
if the path does not end. -/
def yangDbKeyBottomp (key : List UInt8) : Option (Option Nat) := do
  let length ← pathLength key
  let an := length + 1
  some ((bottomLoop (key.drop an).length 0 (key.drop an)).map (an + ·))

section Paths

variable {path more : List UInt8}

theorem pathLength_clean (clean : apter ∉ path) (more : List UInt8) :
    pathLength (path ++ apter :: more) = some path.length := by
  have there : apter ∈ path ++ apter :: more := List.mem_append_right path List.mem_cons_self
  rw [pathLength, if_pos there, List.idxOf_append_of_notMem clean, List.idxOf_cons_self,
    Nat.add_zero]

theorem idxOf_clean (clean : apter ∉ path) (more : List UInt8) :
    (path ++ apter :: more).idxOf apter = path.length := by
  rw [List.idxOf_append_of_notMem clean, List.idxOf_cons_self, Nat.add_zero]

theorem split_path (path more : List UInt8) :
    (path ++ apter :: more).take (path.length + 1) = path ++ [apter] ∧
      (path ++ apter :: more).drop (path.length + 1) = more := by
  have split : path ++ apter :: more = (path ++ [apter]) ++ more := by
    rw [List.append_assoc]
    rfl
  have length : (path ++ [apter]).length = path.length + 1 := by
    rw [List.length_append]
    rfl
  rw [split]
  exact ⟨List.take_left' length, List.drop_left' length⟩

end Paths

section ValueKeys

variable {kvs : List ValueKey} {kv : ValueKey} {getmem : KeyMemory}

theorem ValueKey.kss_toNat (kv : ValueKey) : kv.kss.toNat = kv.octets.length := by
  exact Nat.mod_eq_of_lt kv.short

theorem length_encodeKvs (kvs : List ValueKey) : (encodeKvs kvs).length = kvsSize kvs := by
  induction kvs with
  | nil => rfl
  | cons kv rest ih =>
    have split : encodeKvs (kv :: rest) = kv.kss :: kv.octets ++ encodeKvs rest := rfl
    have sum : kvsSize (kv :: rest) = kv.octets.length + 1 + kvsSize rest := List.sum_cons
    rw [split, List.length_append, List.length_cons, ih, sum]

theorem length_le_kvsSize (kvs : List ValueKey) : kvs.length ≤ kvsSize kvs := by
  induction kvs with
  | nil => exact Nat.zero_le _
  | cons kv rest ih =>
    have sum : kvsSize (kv :: rest) = kv.octets.length + 1 + kvsSize rest := List.sum_cons
    rw [List.length_cons, sum]
    omega

theorem countLoop_encodeKvs (fuel : Nat) (enough : kvs.length ≤ fuel) :
    countLoop fuel (encodeKvs kvs) = kvs.length := by
  induction kvs generalizing fuel with
  | nil => cases fuel <;> rfl
  | cons kv rest ih =>
    cases fuel with
    | zero => exact absurd enough (Nat.not_succ_le_zero _)
    | succ fuel =>
      have split : encodeKvs (kv :: rest) = kv.kss :: (kv.octets ++ encodeKvs rest) := rfl
      rw [split, countLoop, kv.kss_toNat, List.drop_left' rfl,
        ih fuel (Nat.le_of_succ_le_succ enough)]
      rfl

theorem copyLoop_encodeKvs (ap : List UInt8) (turn : Nat)
    (granted : ∀ turn, ∀ kv ∈ kvs, getmem turn kv.octets.length = true) :
    copyLoop getmem ap kvs.length turn (encodeKvs kvs) =
      some ⟨0, some ap, kvs.map ValueKey.octets, kvs.map ValueKey.kss ++ [0]⟩ := by
  induction kvs generalizing turn with
  | nil => rfl
  | cons kv rest ih =>
    obtain ⟨first, others⟩ : (∀ turn, getmem turn kv.octets.length = true) ∧
        ∀ turn, ∀ kv ∈ rest, getmem turn kv.octets.length = true := by
      constructor
      · exact fun turn => granted turn kv List.mem_cons_self
      · exact fun turn other member => granted turn other (List.mem_cons_of_mem _ member)
    have split : encodeKvs (kv :: rest) = kv.kss :: (kv.octets ++ encodeKvs rest) := rfl
    have block : ¬ getmem turn kv.octets.length = false := by
      rw [first turn]
      exact Bool.noConfusion
    have copied : slice (kv.octets ++ encodeKvs rest) 0 kv.octets.length = some kv.octets := by
      rw [slice_of_le (by rw [List.length_append]; omega), List.drop_zero, List.take_left' rfl]
    rw [split, List.length_cons, copyLoop, kv.kss_toNat, if_neg block, copied, List.drop_left' rfl,
      ih (turn + 1) others]
    rfl

theorem bottomLoop_encodeKvs (fuel j : Nat) (kvs : List ValueKey) (last : ValueKey)
    (enough : kvs.length < fuel) :
    bottomLoop fuel j (encodeKvs (kvs ++ [last])) = some (j + kvsSize kvs) := by
  induction kvs generalizing fuel j with
  | nil =>
    cases fuel with
    | zero => exact absurd enough (Nat.not_lt_zero _)
    | succ fuel =>
      have split : encodeKvs [last] = last.kss :: (last.octets ++ []) := rfl
      have ended (j : Nat) : bottomLoop fuel j [] = none := by cases fuel <;> rfl
      rw [List.nil_append, split, bottomLoop, last.kss_toNat, List.drop_left' rfl, ended]
      rfl
  | cons kv rest ih =>
    cases fuel with
    | zero => exact absurd enough (Nat.not_lt_zero _)
    | succ fuel =>
      have split : encodeKvs (kv :: rest ++ [last]) =
        kv.kss :: (kv.octets ++ encodeKvs (rest ++ [last])) := rfl
      have sum : kvsSize (kv :: rest) = kv.octets.length + 1 + kvsSize rest := List.sum_cons
      rw [split, bottomLoop, kv.kss_toNat, List.drop_left' rfl,
        ih fuel _ (Nat.lt_of_succ_lt_succ enough), sum, Option.some_or]
      congr 1
      omega

end ValueKeys

end EnetTsn.Uniconf
