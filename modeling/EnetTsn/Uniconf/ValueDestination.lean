import EnetTsn.Uniconf.ValueLists

namespace EnetTsn.Uniconf

open EnetTsn.Library

/-- What the memory answers: whether a request is granted, and the octets of a block that nobody
has written. -/
structure ValueMemory where
  granted : Nat → Bool
  fresh : Nat → UInt8

/-- The block at `*destd`, where none is `NULL`, and `*size`, with a mark if something was
written through the pointer. -/
structure ConvDest where
  block : Option (List UInt8)
  size : Nat
  written : Bool

def ConvDest.Consistent (dest : ConvDest) : Prop := dest.size ≤ (dest.block.getD []).length

def stringData (vstr : List UInt8) : List UInt8 :=
  if 2 ≤ vstr.length ∧ vstr.head? = some 34 ∧ vstr.getLast? = some 34 then vstr.tail
  else vstr ++ [0]

inductive ConvKind where
  | string
  | fingerprint
  | ranges
  | fixed
  deriving DecidableEq

def convKind : YangVtype → ConvKind
  | .string | .stringLeafList | .union | .unionLeafList | .binary | .binaryLeafList
  | .instanceIdentifier | .instanceIdentifierLeafList => .string
  | .tlsFingerprint => .fingerprint
  | .vidRangeType => .ranges
  | _ => .fixed

def fixedOctets (vstr : List UInt8) (vtype : YangVtype) (hints : Option (List UInt8)) :
    Option (Option (List UInt8)) :=
  (yangValueConv ⟨0, 0, true⟩ vstr vtype hints).map fun converted => converted.map Prod.fst

section Writing

variable (memory : ValueMemory)

def ValueMemory.regetmem (block : Option (List UInt8)) (asize : Nat) : List UInt8 :=
  let old := (block.getD []).take asize
  old ++ (List.range' old.length (asize - old.length)).map memory.fresh

def overwrite (block : List UInt8) (place : Nat) (data : List UInt8) : List UInt8 :=
  block.take place ++ data ++ block.drop (place + data.length)

/-- `value_conv_destcopy`, with the destination and whether it has copied. -/
def destcopy (dest : ConvDest) (srcd : List UInt8) : ConvDest × Bool :=
  let asize := max srcd.length dest.size
  if srcd.length = 0 ∨ ucMaxValuesize < asize ∨ memory.granted 0 = false then (dest, false)
  else
    let block := overwrite (memory.regetmem dest.block asize) 0 srcd
    let block := overwrite block srcd.length (List.replicate (asize - srcd.length) 0)
    (⟨some block, asize, true⟩, true)

/-- A value that is complete before it is copied: the destination, and the size of the value if it
was converted. -/
def convCopy (dest : ConvDest) (data : List UInt8) : ConvDest × Option Nat :=
  let copy := destcopy memory dest data
  (copy.1, if copy.2 then some data.length else none)

/-- A string, whose last octet is written whether it was copied or not; none is a write to `NULL`
or beyond the block. -/
def convTerminated (dest : ConvDest) (vstr : List UInt8) : Option (ConvDest × Option Nat) :=
  let data := stringData vstr
  let copy := destcopy memory dest data
  match copy.1.block with
  | none => none
  | some block =>
    if block.length < data.length then none
    else
      some ({ copy.1 with block := some (overwrite block (data.length - 1) [0]), written := true },
        if copy.2 then some data.length else none)

def rangeOctets (range : UInt16 × UInt16) : List UInt8 :=
  littleEndian 2 range.1.toNat ++ littleEndian 2 range.2.toNat

/-- The loop over the ranges, with the number of the request, the size with a terminator and the
size of the allocation. The last part is whether it has converted. -/
def convRangesLoop : Nat → Nat → Option (List UInt8) → Nat → Nat → ConvDest → Bool →
    ConvDest × Nat × Nat × Bool
  | turns + 1, request, some (octet :: rest), csize, asize, dest, _ =>
    let next := getTwoVids (octet :: rest)
    let csize := csize + 4
    let asize := max csize asize
    if memory.granted request = false then (dest, csize, asize, false)
    else
      let block := overwrite (memory.regetmem dest.block asize) (csize - 8) (rangeOctets next.1)
      convRangesLoop turns (request + 1) next.2 csize asize ⟨some block, asize, true⟩ true
  | _, _, _, csize, asize, dest, converted => (dest, csize, asize, converted)

def convRanges (dest : ConvDest) (vstr : List UInt8) : ConvDest × Option Nat :=
  match convRangesLoop memory (vstr.length + 1) 0 (some vstr) 4 dest.size dest false with
  | (dest, _, _, false) => (dest, none)
  | (dest, csize, asize, true) =>
    let block := overwrite (dest.block.getD []) (csize - 4) [0, 0, 0, 0]
    let block := overwrite block csize (List.replicate (asize - csize) 0)
    (⟨some block, asize, true⟩, some csize)

/-- `yang_value_conv` with its destination: none is an access outside of the memory, and none for
the size of the value is an error. -/
def yangValueConvInto (dest : ConvDest) (vstr : List UInt8) (vtype : YangVtype)
    (hints : Option (List UInt8)) : Option (ConvDest × Option Nat) :=
  match convKind vtype with
  | .string => convTerminated memory dest vstr
  | .fingerprint =>
    let res := (ubHexstr2barray 58 256 vstr).length
    if res ≤ 1 ∨ 255 ≤ res then some (dest, none) else some (convCopy memory dest (vstr ++ [0]))
  | .ranges => some (convRanges memory dest vstr)
  | .fixed =>
    match fixedOctets vstr vtype hints with
    | none => none
    | some none => some (dest, none)
    | some (some data) => some (convCopy memory dest data)

end Writing

/-- The octets of the value of a text: for a string the text without its quotes and with its end. -/
def valueOctets (vstr : List UInt8) (vtype : YangVtype) (hints : Option (List UInt8)) :
    Option (List UInt8) :=
  match convKind vtype with
  | .string => some ((stringData vstr).dropLast ++ [0])
  | .fingerprint => some (vstr ++ [0])
  | .ranges => some (encodeVids (vidRanges (vstr.length + 1) (some vstr)) ++ [0, 0, 0, 0])
  | .fixed => (fixedOctets vstr vtype hints).join

/-- A conversion that has converted, with a destination that is large enough and holds the value,
or has failed without writing and with its pointer and its size as they belong together. -/
def ConvHandled (dest : ConvDest) (value : Option (List UInt8)) :
    Option (ConvDest × Option Nat) → Prop
  | none => False
  | some (after, some csize) => ∃ block octets, after.block = some block ∧ value = some octets ∧
      csize = octets.length ∧ csize ≤ block.length ∧ block.take csize = octets ∧ after.Consistent
  | some (after, none) => after.written = false ∧ after.block = dest.block ∧ after.Consistent

/-- Where the destination is handled: a string is copied, ranges are given memory throughout or
not at all, and a stream id is not read beyond its end. -/
def Manageable (memory : ValueMemory) (size : Nat) (vstr : List UInt8) (vtype : YangVtype) : Prop :=
  match convKind vtype with
  | .string => max (stringData vstr).length size ≤ ucMaxValuesize ∧ memory.granted 0 = true
  | .fingerprint => True
  | .ranges => memory.granted 0 = true →
      ∀ request < (vidRanges (vstr.length + 1) (some vstr)).length, memory.granted request = true
  | .fixed => vtype = .streamIdType ∨ vtype = .streamIdTypeLeafList →
      (ubHexstr2barray 45 6 vstr).length = 6 → 17 ≤ vstr.length

section Blocks

variable {memory : ValueMemory} {block data : List UInt8} {place : Nat}

theorem length_regetmem (memory : ValueMemory) (block : Option (List UInt8)) (asize : Nat) :
    (memory.regetmem block asize).length = asize := by
  simp only [ValueMemory.regetmem, List.length_append, List.length_map, List.length_range',
    List.length_take]
  omega

private theorem take_regetmem (block : Option (List UInt8)) (kept : count ≤ asize)
    (inside : count ≤ (block.getD []).length) :
    (memory.regetmem block asize).take count = (block.getD []).take count := by
  rw [ValueMemory.regetmem, List.take_append_of_le_length, List.take_take, Nat.min_eq_left kept]
  rw [List.length_take]
  exact Nat.le_min.mpr ⟨kept, inside⟩

theorem length_overwrite (fits : place + data.length ≤ block.length) :
    (overwrite block place data).length = block.length := by
  simp only [overwrite, List.length_append, List.length_take, List.length_drop]
  omega

theorem take_overwrite (data : List UInt8) (fits : place ≤ block.length) :
    (overwrite block place data).take (place + data.length) = block.take place ++ data := by
  have front : (block.take place ++ data).length = place + data.length := by
    rw [List.length_append, List.length_take, Nat.min_eq_left fits]
  rw [overwrite, ← front, List.take_left]

end Blocks

section Copying

variable {memory : ValueMemory} {dest : ConvDest} {data : List UInt8}

theorem destcopy_copied (filled : data ≠ []) (fits : max data.length dest.size ≤ ucMaxValuesize)
    (granted : memory.granted 0 = true) : destcopy memory dest data =
      (⟨some (data ++ List.replicate (max data.length dest.size - data.length) 0),
        max data.length dest.size, true⟩, true) := by
  have accepted : ¬ (data.length = 0 ∨ ucMaxValuesize < max data.length dest.size ∨
      memory.granted 0 = false) := by
    rw [not_or, not_or, granted]
    exact ⟨fun none => filled (List.eq_nil_of_length_eq_zero none), Nat.not_lt_of_le fits,
      Bool.noConfusion⟩
  have size := length_regetmem memory dest.block (max data.length dest.size)
  rw [destcopy, if_neg accepted]
  have first : overwrite (memory.regetmem dest.block (max data.length dest.size)) 0 data =
      data ++ (memory.regetmem dest.block (max data.length dest.size)).drop data.length := by
    simp [overwrite]
  have rest : (data ++ (memory.regetmem dest.block (max data.length dest.size)).drop
      data.length).drop (data.length + (max data.length dest.size - data.length)) = [] := by
    refine List.drop_of_length_le ?_
    rw [List.length_append, List.length_drop, size]
  rw [first]
  simp only [overwrite, List.length_replicate, List.take_left, rest, List.append_nil]

theorem destcopy_refused (refused : ¬ (max data.length dest.size ≤ ucMaxValuesize ∧
    memory.granted 0 = true)) : destcopy memory dest data = (dest, false) := by
  refine if_pos ?_
  by_cases fits : max data.length dest.size ≤ ucMaxValuesize
  · exact .inr (.inr (Bool.eq_false_iff.mpr fun granted => refused ⟨fits, granted⟩))
  · exact .inr (.inl (Nat.lt_of_not_le fits))

theorem convCopy_handled (filled : data ≠ []) (prior : dest.Consistent)
    (untouched : dest.written = false) :
    ConvHandled dest (some data) (some (convCopy memory dest data)) := by
  rw [convCopy]
  by_cases accepted : max data.length dest.size ≤ ucMaxValuesize ∧ memory.granted 0 = true
  · rw [destcopy_copied filled accepted.1 accepted.2]
    refine ⟨_, data, rfl, rfl, rfl, ?_, List.take_left, ?_⟩
    · exact List.length_append ▸ Nat.le_add_right _ _
    · simp [ConvDest.Consistent]
  · rw [destcopy_refused accepted]
    exact ⟨untouched, rfl, prior⟩

private theorem stringData_ne_nil (vstr : List UInt8) : stringData vstr ≠ [] := by
  rw [stringData]
  split
  · rename_i inQuotes
    intro none
    have size := congrArg List.length none
    rw [List.length_tail, List.length_nil] at size
    omega
  · exact List.append_ne_nil_of_right_ne_nil _ (List.cons_ne_nil _ _)

theorem convTerminated_handled (vstr : List UInt8) :
    ConvHandled dest (some ((stringData vstr).dropLast ++ [0])) (convTerminated memory dest vstr) ↔
      max (stringData vstr).length dest.size ≤ ucMaxValuesize ∧ memory.granted 0 = true := by
  have filled := stringData_ne_nil vstr
  have positive := List.length_pos_of_ne_nil filled
  rw [convTerminated]
  by_cases accepted : max (stringData vstr).length dest.size ≤ ucMaxValuesize ∧
      memory.granted 0 = true
  · rw [destcopy_copied filled accepted.1 accepted.2]
    refine iff_of_true ?_ accepted
    have enough : ¬ (stringData vstr ++ List.replicate
        (max (stringData vstr).length dest.size - (stringData vstr).length) 0).length <
          (stringData vstr).length := by
      rw [List.length_append]
      omega
    simp only [if_neg enough]
    have place : (stringData vstr).length - 1 + ([0] : List UInt8).length =
        (stringData vstr).length := Nat.sub_add_cancel positive
    have inside : (stringData vstr).length - 1 ≤ (stringData vstr ++ List.replicate
        (max (stringData vstr).length dest.size - (stringData vstr).length) 0).length := by
      omega
    have fits : (stringData vstr).length - 1 + ([0] : List UInt8).length ≤
        (stringData vstr ++ List.replicate
          (max (stringData vstr).length dest.size - (stringData vstr).length) 0).length := by
      rw [place, List.length_append]
      exact Nat.le_add_right _ _
    have size := length_overwrite fits
    refine ⟨_, _, rfl, rfl, ?_, ?_, ?_, ?_⟩
    · rw [List.length_append, List.length_dropLast]
      exact place.symm
    · rw [size, List.length_append]
      exact Nat.le_add_right _ _
    · have front := take_overwrite [0] inside
      rw [place] at front
      rw [front, List.take_append_of_le_length (Nat.sub_le _ _), List.dropLast_eq_take]
    · simp only [ConvDest.Consistent, Option.getD_some, size, List.length_append,
        List.length_replicate]
      omega
  · rw [destcopy_refused accepted]
    refine iff_of_false ?_ accepted
    cases dest.block with
    | none => exact id
    | some block =>
      dsimp only
      split
      · exact id
      · rintro ⟨written, _⟩
        exact absurd written (by simp)

end Copying

section Fixed

variable {vstr data : List UInt8} {vtype : YangVtype} {hints : Option (List UInt8)}

/-- A conversion to any destination is a copy of some octets, which are at most eight. -/
structure CopiesOf (conv : Destination → Option (Option Converted))
    (data : Option (Option (List UInt8))) : Prop where
  copied : ∀ dest, conv dest = data.map fun octets => octets.bind (valueConvDestcopy dest)
  sizes : ∀ octets, data = some (some octets) → octets ≠ [] ∧ octets.length ≤ 8

theorem copiesOf_convData (filled : data ≠ []) (short : data.length ≤ 8) :
    CopiesOf (fun dest => convData dest data) (some (some data)) :=
  ⟨fun _ => rfl, by rintro _ ⟨⟩; exact ⟨filled, short⟩⟩

theorem copiesOf_refused : CopiesOf (fun _ => some none) (some none) := ⟨fun _ => rfl, nofun⟩

private theorem littleEndian_ne_nil (positive : 0 < count) (value : Nat) : littleEndian count value ≠ [] :=
  List.ne_nil_of_length_pos (by rwa [length_littleEndian])

theorem copiesOf_littleEndian (positive : 0 < count) (short : count ≤ 8) :
    CopiesOf (fun dest => convData dest (littleEndian count value))
      (some (some (littleEndian count value))) :=
  copiesOf_convData (littleEndian_ne_nil positive value) (by rwa [length_littleEndian])

theorem length_ubHexstr2barray (delim : UInt8) (count : Nat) (text : List UInt8) :
    (ubHexstr2barray delim count text).length ≤ count := by
  induction count generalizing text with
  | zero => exact Nat.le_refl 0
  | succ count ih =>
    rw [ubHexstr2barray]
    dsimp only
    split
    · exact Nat.zero_le _
    · split
      · exact Nat.succ_le_succ (Nat.zero_le _)
      · split
        · exact Nat.succ_le_succ (ih _)
        · exact Nat.succ_le_succ (Nat.zero_le _)

theorem copiesOf_filled {octets : List UInt8} (positive : 0 < count) (short : count ≤ 8)
    (fits : octets.length ≤ count) :
    CopiesOf (fun dest => convData dest (octets ++ List.replicate (count - octets.length) 0))
      (some (some (octets ++ List.replicate (count - octets.length) 0))) := by
  have size : (octets ++ List.replicate (count - octets.length) (0 : UInt8)).length = count := by
    rw [List.length_append, List.length_replicate]
    omega
  refine copiesOf_convData (List.ne_nil_of_length_pos ?_) ?_
  · rwa [size]
  · rwa [size]

theorem copiesOf_streamIdType (vstr : List UInt8) :
    ∃ data, CopiesOf (fun dest => convStreamIdType dest vstr) data ∧
      (data = none ↔ ¬ ((ubHexstr2barray 45 6 vstr).length = 6 → 17 ≤ vstr.length)) := by
  have first := length_ubHexstr2barray 45 6 vstr
  have second := length_ubHexstr2barray 45 2 (vstr.drop 18)
  simp only [convStreamIdType]
  by_cases six : (ubHexstr2barray 45 6 vstr).length = 6
  · by_cases short : vstr.length < 17
    · refine ⟨none, ⟨fun dest => ?_, by simp⟩, ?_⟩
      · rw [if_pos six, if_pos short]
        rfl
      · exact iff_of_true rfl fun safe => absurd (safe six) (Nat.not_le_of_lt short)
    · simp only [if_pos six, if_neg short]
      refine ⟨_, copiesOf_filled (by decide) (by decide) ?_, ?_⟩
      · split
        · rw [List.length_append]
          omega
        · omega
      · exact iff_of_false (by simp) (not_not_intro fun _ => Nat.le_of_not_lt short)
  · simp only [if_neg six]
    refine ⟨_, copiesOf_filled (by decide) (by decide) (by omega), ?_⟩
    exact iff_of_false (by simp) (not_not_intro fun same => absurd same six)

private theorem copiesOf_word (word : UInt32) :
    ∃ data, CopiesOf (fun dest => if word = invalidValue then some none
      else convData dest (littleEndian 4 word.toNat)) (some data) := by
  by_cases invalid : word = invalidValue
  · simp only [if_pos invalid]
    exact ⟨_, copiesOf_refused⟩
  · simp only [if_neg invalid]
    exact ⟨_, copiesOf_littleEndian (by decide) (by decide)⟩

theorem copiesOf_fixed (vstr : List UInt8) (hints : Option (List UInt8))
    (fixed : convKind vtype = .fixed) :
    ∃ data, CopiesOf (fun dest => yangValueConv dest vstr vtype hints) data ∧
      (data = none ↔ ¬ (vtype = .streamIdType ∨ vtype = .streamIdTypeLeafList →
        (ubHexstr2barray 45 6 vstr).length = 6 → 17 ≤ vstr.length)) := by
  have always {data : Option (List UInt8)}
      (other : ¬ (vtype = .streamIdType ∨ vtype = .streamIdTypeLeafList))
      (copies : CopiesOf (fun dest => yangValueConv dest vstr vtype hints) (some data)) :
      ∃ data, CopiesOf (fun dest => yangValueConv dest vstr vtype hints) data ∧
        (data = none ↔ ¬ (vtype = .streamIdType ∨ vtype = .streamIdTypeLeafList →
          (ubHexstr2barray 45 6 vstr).length = 6 → 17 ≤ vstr.length)) :=
    ⟨_, copies, iff_of_false nofun (not_not_intro fun one => absurd one other)⟩
  cases vtype
  case string | stringLeafList | union | unionLeafList | binary | binaryLeafList
      | instanceIdentifier | instanceIdentifierLeafList | tlsFingerprint | vidRangeType =>
    exact absurd fixed (by decide)
  case streamIdType | streamIdTypeLeafList =>
    obtain ⟨data, copies, outside⟩ := copiesOf_streamIdType vstr
    refine ⟨data, copies, outside.trans (not_congr ?_)⟩
    simp
  case int8 | int16 | int32 | int64 | int64LeafList | uint8 | uint8LeafList | uint16
      | uint16LeafList | hexuint16 | hexuint16LeafList | uint32 | uint32LeafList | uint64
      | uint64LeafList | enumeration | netconfDatastoreType | transportStatus | endStationStatus
      | bits =>
    exact always (by decide) (copiesOf_littleEndian (by decide) (by decide))
  case boolean => exact always (by decide) (copiesOf_convData (by simp) (by simp))
  case macAddress | physAddress | streamid =>
    exact always (by decide)
      (copiesOf_filled (by decide) (by decide) (length_ubHexstr2barray _ _ _))
  case identityref =>
    obtain ⟨data, copies⟩ := copiesOf_word _
    exact always (by decide) copies
  all_goals exact always (by decide) copiesOf_refused

theorem CopiesOf.fixedOctets {data : Option (Option (List UInt8))}
    (copies : CopiesOf (fun dest => yangValueConv dest vstr vtype hints) data) :
    fixedOctets vstr vtype hints = data := by
  rw [Uniconf.fixedOctets, copies.copied]
  rcases data with _ | _ | octets
  · rfl
  · rfl
  · obtain ⟨filled, short⟩ := copies.sizes octets rfl
    have positive : octets.length ≠ 0 := mt List.eq_nil_of_length_eq_zero filled
    have accepted : ¬ (ucMaxValuesize < max octets.length 0 ∨ true = false) := by
      rw [not_or, ucMaxValuesize]
      exact ⟨by omega, Bool.noConfusion⟩
    have copied : valueConvDestcopy ⟨0, 0, true⟩ octets = some (octets, octets.length) := by
      rw [valueConvDestcopy, if_neg positive, if_neg accepted]
      simp
    rw [Option.map_some, Option.map_some, Option.bind_some, copied]
    rfl

end Fixed

section Ranges

variable {memory : ValueMemory} {dest : ConvDest} {done : List (UInt16 × UInt16)}
  {csize asize request : Nat}

structure RangesSoFar (done : List (UInt16 × UInt16)) (csize : Nat) (dest : ConvDest) : Prop where
  size : csize = 4 * (done.length + 1)
  held : 4 * done.length ≤ (dest.block.getD []).length
  octets : (dest.block.getD []).take (4 * done.length) = encodeVids done

structure RangesHeld (done : List (UInt16 × UInt16)) (csize asize : Nat) (dest : ConvDest) : Prop
    extends RangesSoFar done csize dest where
  block : ∃ block, dest.block = some block ∧ block.length = asize
  sizeof : dest.size = asize
  room : csize ≤ asize
  written : dest.written = true

theorem length_rangeOctets (range : UInt16 × UInt16) : (rangeOctets range).length = 4 := by
  rw [rangeOctets, List.length_append, length_littleEndian, length_littleEndian]

private theorem encodeVids_concat (done : List (UInt16 × UInt16)) (range : UInt16 × UInt16) :
    encodeVids (done ++ [range]) = encodeVids done ++ rangeOctets range := by
  rw [encodeVids, List.flatMap_append, List.flatMap_singleton]
  rfl

theorem RangesSoFar.turn (held : RangesSoFar done csize dest) (memory : ValueMemory)
    (range : UInt16 × UInt16) (asize : Nat) :
    RangesHeld (done ++ [range]) (csize + 4) (max (csize + 4) asize)
      ⟨some (overwrite (memory.regetmem dest.block (max (csize + 4) asize)) (csize + 4 - 8)
        (rangeOctets range)), max (csize + 4) asize, true⟩ := by
  have size := held.size
  have least : csize + 4 ≤ max (csize + 4) asize := Nat.le_max_left _ _
  have place : csize + 4 - 8 = 4 * done.length := by omega
  have count : (done ++ [range]).length = done.length + 1 := List.length_append
  have whole := length_regetmem memory dest.block (max (csize + 4) asize)
  have inside : 4 * done.length ≤ (memory.regetmem dest.block (max (csize + 4) asize)).length := by
    omega
  have fits : 4 * done.length + (rangeOctets range).length ≤
      (memory.regetmem dest.block (max (csize + 4) asize)).length := by
    rw [whole, length_rangeOctets]
    omega
  have front := take_overwrite (rangeOctets range) inside
  rw [length_rangeOctets, take_regetmem _ (by omega) held.held, held.octets] at front
  have length := length_overwrite fits
  rw [place]
  refine ⟨⟨?_, ?_, ?_⟩, ⟨_, rfl, length.trans whole⟩, rfl, least, rfl⟩
  · omega
  · rw [Option.getD_some, length, whole, count]
    omega
  · rw [Option.getD_some, count, encodeVids_concat, Nat.mul_succ]
    exact front

theorem convRangesLoop_held (turns : Nat) (rest : Option (List UInt8))
    (held : RangesHeld done csize asize dest) : ∃ after csize' asize' converted,
      convRangesLoop memory turns request rest csize asize dest true =
        (after, csize', asize', converted) ∧ after.written = true ∧
      (converted = true ↔ ∀ turn < (vidRanges turns rest).length,
        memory.granted (request + turn) = true) ∧
      (converted = true → RangesHeld (done ++ vidRanges turns rest) csize' asize' after) := by
  induction turns generalizing rest done csize asize dest request with
  | zero =>
    have none : vidRanges 0 rest = [] := rfl
    refine ⟨dest, csize, asize, true, rfl, held.written, iff_of_true rfl ?_, fun _ => ?_⟩
    · exact nofun
    · rwa [none, List.append_nil]
  | succ turns ih =>
    match rest with
    | none =>
      refine ⟨dest, csize, asize, true, rfl, held.written, iff_of_true rfl nofun, fun _ => ?_⟩
      exact (List.append_nil done).symm ▸ held
    | some [] =>
      refine ⟨dest, csize, asize, true, rfl, held.written, iff_of_true rfl nofun, fun _ => ?_⟩
      exact (List.append_nil done).symm ▸ held
    | some (octet :: rest) =>
      have ranges : vidRanges (turns + 1) (some (octet :: rest)) =
          (getTwoVids (octet :: rest)).1 :: vidRanges turns (getTwoVids (octet :: rest)).2 := rfl
      rw [convRangesLoop, ranges, List.length_cons]
      by_cases refused : memory.granted request = false
      · refine ⟨dest, csize + 4, max (csize + 4) asize, false, if_pos refused, held.written,
          iff_of_false Bool.false_ne_true fun all => ?_, fun converted => absurd converted nofun⟩
        have first := all 0 (Nat.succ_pos _)
        rw [Nat.add_zero, refused] at first
        exact absurd first nofun
      · have next := held.toRangesSoFar.turn memory (getTwoVids (octet :: rest)).1 asize
        obtain ⟨after, csize', asize', converted, same, written, granted, later⟩ :=
          ih (getTwoVids (octet :: rest)).2 next
        refine ⟨after, csize', asize', converted, (if_neg refused).trans same, written, ?_, ?_⟩
        · rw [granted]
          constructor
          · intro all turn inside
            cases turn with
            | zero => exact eq_true_of_ne_false refused
            | succ turn =>
              rw [← Nat.succ_add_eq_add_succ]
              exact all turn (Nat.lt_of_succ_lt_succ inside)
          · intro all turn inside
            have here := all (turn + 1) (Nat.succ_lt_succ inside)
            rwa [← Nat.succ_add_eq_add_succ] at here
        · intro done'
          rw [List.append_cons]
          exact later done'

theorem RangesHeld.handled (held : RangesHeld done csize asize dest) (start : ConvDest) :
    ConvHandled start (some (encodeVids done ++ [0, 0, 0, 0]))
      (some (⟨some (overwrite (overwrite (dest.block.getD []) (csize - 4) [0, 0, 0, 0]) csize
        (List.replicate (asize - csize) 0)), asize, true⟩, some csize)) := by
  obtain ⟨block, same, length⟩ := held.block
  have size := held.size
  have room := held.room
  have octets := held.octets
  rw [same, Option.getD_some] at octets ⊢
  have place : csize - 4 = 4 * done.length := by omega
  have terminator : csize - 4 + ([0, 0, 0, 0] : List UInt8).length = csize := by
    rw [place, size]
    rfl
  have fits : csize - 4 + ([0, 0, 0, 0] : List UInt8).length ≤ block.length := by
    rw [terminator, length]
    exact room
  have first := length_overwrite fits
  have rest : csize + (List.replicate (asize - csize) (0 : UInt8)).length ≤
      (overwrite block (csize - 4) [0, 0, 0, 0]).length := by
    rw [first, length, List.length_replicate]
    omega
  have second := length_overwrite rest
  have count : csize = (encodeVids done ++ [0, 0, 0, 0]).length := by
    rw [List.length_append, length_encodeVids, size]
    rfl
  refine ⟨_, _, rfl, rfl, count, ?_, ?_, ?_⟩
  · rw [second, first, length]
    exact room
  · have inside : csize - 4 ≤ block.length := by omega
    have front := take_overwrite [0, 0, 0, 0] inside
    rw [terminator, place, octets] at front
    rw [overwrite, List.append_assoc, List.take_append_of_le_length, List.take_take, Nat.min_self,
      place]
    · exact front
    · rw [List.length_take, first, length]
      omega
  · simp only [ConvDest.Consistent, Option.getD_some, second, first, length]
    exact Nat.le_refl _

theorem convRanges_handled (vstr : List UInt8) (prior : dest.Consistent)
    (untouched : dest.written = false) :
    ConvHandled dest (some (encodeVids (vidRanges (vstr.length + 1) (some vstr)) ++ [0, 0, 0, 0]))
        (some (convRanges memory dest vstr)) ↔
      (memory.granted 0 = true → ∀ request < (vidRanges (vstr.length + 1) (some vstr)).length,
        memory.granted request = true) := by
  cases vstr with
  | nil => exact iff_of_true ⟨untouched, rfl, prior⟩ fun _ => nofun
  | cons octet rest =>
    have ranges : vidRanges ((octet :: rest).length + 1) (some (octet :: rest)) =
        (getTwoVids (octet :: rest)).1 ::
          vidRanges (octet :: rest).length (getTwoVids (octet :: rest)).2 := rfl
    rw [convRanges, convRangesLoop, ranges]
    by_cases refused : memory.granted 0 = false
    · simp only [if_pos refused]
      refine iff_of_true ⟨untouched, rfl, prior⟩ fun granted => ?_
      rw [refused] at granted
      exact absurd granted nofun
    · have given := eq_true_of_ne_false refused
      have start : RangesSoFar [] 4 dest := ⟨rfl, Nat.zero_le _, rfl⟩
      have first := start.turn memory (getTwoVids (octet :: rest)).1 dest.size
      obtain ⟨after, csize, asize, converted, same, written, granted, later⟩ :=
        convRangesLoop_held (octet :: rest).length (getTwoVids (octet :: rest)).2 first
      have all : converted = true ↔ (memory.granted 0 = true → ∀ request <
          ((getTwoVids (octet :: rest)).1 ::
            vidRanges (octet :: rest).length (getTwoVids (octet :: rest)).2).length,
            memory.granted request = true) := by
        rw [granted]
        constructor
        · intro each _ request inside
          cases request with
          | zero => exact given
          | succ request =>
            have turn := each request (Nat.lt_of_succ_lt_succ inside)
            rwa [Nat.add_comm] at turn
        · intro each turn inside
          rw [Nat.add_comm]
          exact each given (turn + 1) (Nat.succ_lt_succ inside)
      simp only [if_neg refused, Nat.zero_add, same]
      refine Iff.trans ?_ all
      cases converted with
      | false =>
        refine iff_of_false ?_ Bool.false_ne_true
        rintro ⟨unwritten, _⟩
        rw [written] at unwritten
        exact absurd unwritten nofun
      | true => exact iff_of_true ((later rfl).handled dest) rfl

end Ranges

section Destinations

variable (memory : ValueMemory) (destd : Option (List UInt8)) (size : Nat) (vstr : List UInt8)
  (vtype : YangVtype) (hints : Option (List UInt8))

/-- A conversion has a destination that is large enough and holds the value, or fails without
writing to it, exactly if a string is copied (its text fits the largest value, as the destination
does, and there is memory), ranges get memory throughout or not at all, and a stream id of six
octets has what is read behind them. -/
theorem value_conv_handled (prior : size ≤ (destd.getD []).length) :
    ConvHandled ⟨destd, size, false⟩ (valueOctets vstr vtype hints)
        (yangValueConvInto memory ⟨destd, size, false⟩ vstr vtype hints) ↔
      Manageable memory size vstr vtype := by
  rw [yangValueConvInto, valueOctets, Manageable]
  cases kind : convKind vtype with
  | string => exact convTerminated_handled vstr
  | fingerprint =>
    refine iff_of_true ?_ trivial
    dsimp only
    split
    · exact ⟨rfl, rfl, prior⟩
    · exact convCopy_handled (List.append_ne_nil_of_right_ne_nil _ (List.cons_ne_nil _ _)) prior rfl
  | ranges => exact convRanges_handled vstr prior rfl
  | fixed =>
    obtain ⟨data, copies, outside⟩ := copiesOf_fixed vstr hints kind
    rw [copies.fixedOctets]
    rcases data with _ | _ | octets
    · exact iff_of_false id (outside.mp rfl)
    · exact iff_of_true ⟨rfl, rfl, prior⟩ (not_not.mp (mt outside.mpr nofun))
    · obtain ⟨filled, _⟩ := copies.sizes octets rfl
      exact iff_of_true (convCopy_handled filled prior rfl) (not_not.mp (mt outside.mpr nofun))

end Destinations

def ampleMemory : ValueMemory := ⟨fun _ => true, fun _ => 0⟩

/-- A string for a destination that has eight octets. -/
theorem value_conv_handled_string :
    ConvHandled ⟨some (List.replicate 8 1), 8, false⟩ (valueOctets (octets "true") .string none)
      (yangValueConvInto ampleMemory ⟨some (List.replicate 8 1), 8, false⟩ (octets "true")
        .string none) :=
  (value_conv_handled ampleMemory (some (List.replicate 8 1)) 8 (octets "true") .string none
    (by decide)).mpr ⟨by decide, rfl⟩

/-- A string with its end is longer than a value may be, and its last octet is written to `NULL`. -/
theorem long_string_not_handled :
    ¬ ConvHandled ⟨none, 0, false⟩ (valueOctets (List.replicate 320 97) .string none)
      (yangValueConvInto ampleMemory ⟨none, 0, false⟩ (List.replicate 320 97) .string none) := by
  have outside : (yangValueConvInto ampleMemory ⟨none, 0, false⟩ (List.replicate 320 97)
      .string none).isNone = true := by
    decide +kernel
  rw [Option.isNone_iff_eq_none.mp outside]
  exact id

end EnetTsn.Uniconf
