import EnetTsn.Uniconf.KeyRoundTrip
import EnetTsn.Uniconf.Notice

namespace EnetTsn.Uniconf

open EnetTsn.Library

structure Semname where
  kv : ValueKey
  ends : kv.octets = kv.octets.takeWhile (· ≠ 0) ++ [0]
  deriving DecidableEq

def Semname.text (semname : Semname) : List UInt8 := semname.kv.octets.takeWhile (· ≠ 0)

structure Registration where
  aps : NodePath
  kvs : List ValueKey
  semname : Semname
  deriving DecidableEq

def pushedKey (aps : NodePath) (kvs : List ValueKey) : List UInt8 :=
  aps.nodes ++ apter :: encodeKvs kvs

namespace Registration

def part (registration : Registration) : List UInt8 := pushedKey registration.aps registration.kvs

def key (area : UInt8) (registration : Registration) : List UInt8 :=
  xl4DataRo :: area :: (registration.part ++ registration.semname.kv.kss ::
    registration.semname.kv.octets)

def Fits (registration : Registration) : Prop :=
  (registration.key ucNoticeReg).length ≤ ucMaxKeysize

instance (registration : Registration) : Decidable registration.Fits :=
  inferInstanceAs (Decidable (_ ≤ _))

end Registration

def registrationOf (aps : NodePath) (kvs : List ValueKey) : Option Registration := do
  let last ← kvs.getLast?
  if ends : last.octets = last.octets.takeWhile (· ≠ 0) ++ [0] then
    some { aps := aps, kvs := kvs.dropLast, semname := { kv := last, ends := ends } }
  else none

section Strings

variable {kvs : List ValueKey} {aps : NodePath} {registration : Registration}

theorem string_fills (octets : List UInt8) : (octets.takeWhile (· ≠ 0)).length + 1 = octets.length ↔
      octets = octets.takeWhile (· ≠ 0) ++ [0] := by
  constructor
  · intro size
    have split : octets.takeWhile (· ≠ 0) ++ octets.dropWhile (· ≠ 0) = octets :=
      List.takeWhile_append_dropWhile
    have total := congrArg List.length split
    rw [List.length_append] at total
    obtain ⟨last, single⟩ := List.length_eq_one_iff.mp
      (show (octets.dropWhile fun octet => octet ≠ 0).length = 1 by omega)
    have stops := List.head?_dropWhile_not (fun octet : UInt8 => decide (octet ≠ 0)) octets
    rw [single] at stops split
    rw [of_decide_eq_false stops |> not_not.mp] at split
    exact split.symm
  · intro whole
    have size := congrArg List.length whole
    rw [List.length_append, List.length_singleton] at size
    exact size.symm

theorem semnameOf_registrationOf (aps : NodePath) (kvs : List ValueKey) :
    semnameOf kvs = (registrationOf aps kvs).map fun registration => registration.semname.text := by
  rw [semnameOf, registrationOf]
  cases kvs.getLast? with
  | none => rfl
  | some last =>
    simp only [Option.bind_eq_bind, Option.bind_some]
    by_cases ends : last.octets = last.octets.takeWhile (· ≠ 0) ++ [0]
    · rw [dif_pos ends, if_pos ((string_fills last.octets).mpr ends)]
      rfl
    · rw [dif_neg ends, if_neg fun size => ends ((string_fills last.octets).mp size)]
      rfl

theorem registrationOf_eq_some (given : registrationOf aps kvs = some registration) :
    registration.aps = aps ∧ kvs = registration.kvs ++ [registration.semname.kv] := by
  obtain ⟨last, isLast, checked⟩ := Option.bind_eq_some_iff.mp given
  by_cases ends : last.octets = last.octets.takeWhile (· ≠ 0) ++ [0]
  · rw [dif_pos ends] at checked
    cases checked
    exact ⟨rfl, (List.dropLast_append_getLast? last isLast).symm⟩
  · rw [dif_neg ends] at checked
    exact absurd checked (Option.some_ne_none _).symm

end Strings

section Encoding

private theorem encodeKvs_append (kvs more : List ValueKey) :
    encodeKvs (kvs ++ more) = encodeKvs kvs ++ encodeKvs more :=
  List.flatMap_append

private theorem encodeKvs_cons (kv : ValueKey) (kvs : List ValueKey) :
    encodeKvs (kv :: kvs) = kv.kss :: (kv.octets ++ encodeKvs kvs) := rfl

private theorem encodeKvs_injective (same : encodeKvs kvs = encodeKvs others) : kvs = others := by
  induction kvs generalizing others with
  | nil =>
    cases others with
    | nil => rfl
    | cons kv others => exact absurd same.symm (List.cons_ne_nil _ _)
  | cons kv rest ih =>
    cases others with
    | nil => exact absurd same (List.cons_ne_nil _ _)
    | cons other others =>
      obtain ⟨size, octets⟩ := List.cons.inj same
      have length : kv.octets.length = other.octets.length := by
        rw [← kv.kss_toNat, size, other.kss_toNat]
      obtain ⟨first, later⟩ := List.append_inj octets length
      rw [ValueKey.ext_octets first, ih later]

theorem pushedKey_injective (same : pushedKey aps kvs = pushedKey aps' kvs') :
    aps = aps' ∧ kvs = kvs' := by
  have place : aps.nodes.length = aps'.nodes.length := by
    rw [← idxOf_clean aps.clean (encodeKvs kvs), ← idxOf_clean aps'.clean (encodeKvs kvs')]
    exact congrArg (List.idxOf apter) same
  obtain ⟨nodes, rest⟩ := List.append_inj same place
  refine ⟨?_, encodeKvs_injective (List.cons.inj rest).2⟩
  cases aps
  cases aps'
  cases nodes
  rfl

variable {area : UInt8} {aps : NodePath} {kvs : List ValueKey}

theorem yangDbCreateKey_area (notEnd : area ≠ apter) :
    yangDbCreateKey (some [xl4DataRo, area, apter]) (some (aps.nodes ++ [apter])) kvs =
      some (if (pushedKey aps kvs).length + 2 ≤ ucMaxKeysize
        then xl4DataRo :: area :: pushedKey aps kvs else []) := by
  have clean : apter ∉ [xl4DataRo, area] := by
    rw [List.mem_cons, List.mem_singleton, not_or]
    exact ⟨by decide, notEnd.symm⟩
  have front : pathLength [xl4DataRo, area, apter] = some 2 := pathLength_clean clean []
  have path : pathLength (aps.nodes ++ [apter]) = some aps.nodes.length :=
    pathLength_clean aps.clean []
  have size : (pushedKey aps kvs).length = aps.nodes.length + 1 + kvsSize kvs := by
    rw [pushedKey, List.length_append, List.length_cons, length_encodeKvs]
    omega
  have whole : (aps.nodes ++ [apter]).take (aps.nodes.length + 1) = aps.nodes ++ [apter] :=
    (split_path aps.nodes []).1
  simp only [yangDbCreateKey, Option.map_some, Option.getD_some, front, path,
    Option.bind_eq_bind, Option.bind_some, whole]
  by_cases fits : (pushedKey aps kvs).length + 2 ≤ ucMaxKeysize
  · rw [if_pos fits, if_neg (by omega), pushedKey]
    simp
  · rw [if_neg fits, if_pos (by omega)]

theorem yangDbCreateKey_pushed : yangDbCreateKey none (some (aps.nodes ++ [apter])) kvs =
    some (if (pushedKey aps kvs).length ≤ ucMaxKeysize then pushedKey aps kvs else []) := by
  have path : pathLength (aps.nodes ++ [apter]) = some aps.nodes.length :=
    pathLength_clean aps.clean []
  have size : (pushedKey aps kvs).length = aps.nodes.length + 1 + kvsSize kvs := by
    rw [pushedKey, List.length_append, List.length_cons, length_encodeKvs]
    omega
  have whole : (aps.nodes ++ [apter]).take (aps.nodes.length + 1) = aps.nodes ++ [apter] :=
    (split_path aps.nodes []).1
  simp only [yangDbCreateKey, Option.map_some, Option.map_none, Option.getD_some, Option.getD_none,
    path, Option.bind_eq_bind, Option.bind_some, whole]
  by_cases fits : (pushedKey aps kvs).length ≤ ucMaxKeysize
  · rw [if_pos fits, if_neg (by omega), pushedKey]
    simp
  · rw [if_neg fits, if_pos (by omega)]

end Encoding

namespace Registration

variable {area : UInt8} {registration other : Registration}

theorem key_eq (area : UInt8) (registration : Registration) : registration.key area =
    xl4DataRo :: area :: pushedKey registration.aps
      (registration.kvs ++ [registration.semname.kv]) := by
  rw [key, part, pushedKey, pushedKey, encodeKvs_append, List.append_assoc, encodeKvs_cons,
    List.cons_append]
  simp [encodeKvs]

theorem key_injective (same : registration.key area = other.key area) : registration = other := by
  rw [key_eq, key_eq] at same
  obtain ⟨paths, keys⟩ := pushedKey_injective (List.cons.inj (List.cons.inj same).2).2
  obtain ⟨kvs, names⟩ := List.append_inj' keys rfl
  cases registration with
  | mk aps kvs semname =>
    cases other with
    | mk aps' kvs' semname' =>
      cases semname
      cases semname'
      cases paths
      cases kvs
      cases (List.cons.inj names).1
      rfl

theorem key_inj : registration.key area = other.key area ↔ registration = other :=
  ⟨key_injective, fun same => by rw [same]⟩

theorem ext_part (part : registration.part = other.part)
    (text : registration.semname.text = other.semname.text) : registration = other := by
  obtain ⟨paths, keys⟩ := pushedKey_injective part
  have octets : registration.semname.kv.octets = other.semname.kv.octets := by
    rw [registration.semname.ends, other.semname.ends]
    exact congrArg (· ++ [0]) text
  cases registration with
  | mk aps kvs semname =>
    cases other with
    | mk aps' kvs' semname' =>
      cases semname
      cases semname'
      cases paths
      cases keys
      cases ValueKey.ext_octets octets
      rfl

theorem length_key (area : UInt8) (registration : Registration) : (registration.key area).length =
      registration.part.length + registration.semname.kv.octets.length + 3 := by
  rw [key, List.length_cons, List.length_cons, List.length_append, List.length_cons]
  omega

theorem set_area (area next : UInt8) (registration : Registration) :
    (registration.key area).set 1 next = registration.key next := rfl

theorem bottomp (notEnd : area ≠ apter) :
    yangDbKeyBottomp (registration.key area) = some (some (registration.part.length + 2)) := by
  have clean : apter ∉ xl4DataRo :: area :: registration.aps.nodes := by
    simp only [List.mem_cons, not_or]
    exact ⟨by decide, notEnd.symm, registration.aps.clean⟩
  have split : registration.key area = (xl4DataRo :: area :: registration.aps.nodes) ++
      apter :: encodeKvs (registration.kvs ++ [registration.semname.kv]) := key_eq area registration
  have enough : registration.kvs.length <
      (encodeKvs (registration.kvs ++ [registration.semname.kv])).length := by
    have count := length_le_kvsSize (registration.kvs ++ [registration.semname.kv])
    rw [List.length_append, List.length_singleton] at count
    have some : 0 < (encodeKvs (registration.kvs ++ [registration.semname.kv])).length := by
      simp [encodeKvs]
    rw [length_encodeKvs] at *
    omega
  have dropped := (split_path (xl4DataRo :: area :: registration.aps.nodes)
    (encodeKvs (registration.kvs ++ [registration.semname.kv]))).2
  have place : registration.part.length =
      registration.aps.nodes.length + 1 + kvsSize registration.kvs := by
    rw [part, pushedKey, List.length_append, List.length_cons, length_encodeKvs]
    omega
  simp only [yangDbKeyBottomp, split, pathLength_clean clean, Option.bind_eq_bind, Option.bind_some,
    dropped, bottomLoop_encodeKvs _ 0 _ _ enough, Option.map_some, place]
  rw [List.length_cons, List.length_cons]
  congr 2
  omega

theorem drop_part (area : UInt8) (registration : Registration) :
    (registration.key area).drop (registration.part.length + 2) =
      registration.semname.kv.kss :: registration.semname.kv.octets := by
  rw [key, List.drop_succ_cons, List.drop_succ_cons, List.drop_left' rfl]

theorem getD_part (area : UInt8) (registration : Registration) :
    (registration.key area).getD (registration.part.length + 2) 0 =
      registration.semname.kv.kss := by
  have head := congrArg List.head? (drop_part area registration)
  rw [List.head?_drop] at head
  rw [List.getD_eq_getElem?_getD, head]
  rfl

theorem cString_name (area : UInt8) (registration : Registration) :
    cString ((registration.key area).drop (registration.part.length + 2 + 1)) =
      some registration.semname.text := by
  have there : (0 : UInt8) ∈ registration.semname.kv.octets := by
    rw [registration.semname.ends]
    exact List.mem_append_right _ List.mem_cons_self
  rw [← List.drop_drop, drop_part, List.drop_succ_cons, List.drop_zero, cString, if_pos there]
  rfl

theorem noticeKsize_key (fits : registration.Fits) :
    noticeKsize (registration.key area) registration.semname.kv.kss = registration.part.length := by
  have length := length_key area registration
  have bound : registration.part.length < 2 ^ 32 := by
    have small : ucMaxKeysize < 2 ^ 32 := by decide
    rw [Fits, length_key] at fits
    omega
  rw [noticeKsize, length, ValueKey.kss_toNat]
  omega

theorem take_part (area : UInt8) (registration : Registration) :
    ((registration.key area).drop 2).take registration.part.length = registration.part :=
  List.take_left' rfl

theorem endsWithSemname_self (area : UInt8) (registration : Registration) :
    endsWithSemname registration.semname.text (registration.key area) = true := by
  have size := congrArg List.length registration.semname.ends
  rw [List.length_append, List.length_singleton] at size
  change registration.semname.kv.octets.length = registration.semname.text.length + 1 at size
  have length := length_key area registration
  have front : (registration.key area).length - (registration.semname.text.length + 2) =
      registration.part.length + 2 - 0 := by omega
  have behind : (registration.key area).length - (registration.semname.text.length + 1) =
      registration.part.length + 2 + 1 := by omega
  have octet := congrArg List.head? (drop_part area registration)
  rw [List.head?_drop, List.head?_cons] at octet
  have name : (registration.semname.kv.octets).take registration.semname.text.length =
      registration.semname.text := by
    rw [registration.semname.ends]
    exact List.take_left' rfl
  rw [endsWithSemname, front, behind, Nat.sub_zero, octet, ← List.drop_drop, drop_part,
    List.drop_succ_cons, List.drop_zero, name, Option.map_some, ValueKey.kss_toNat, size]
  simp only [decide_true, Bool.and_true, decide_eq_true_eq]
  omega

end Registration

end EnetTsn.Uniconf
