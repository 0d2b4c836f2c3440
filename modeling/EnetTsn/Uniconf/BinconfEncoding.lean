import Mathlib.Data.Nat.Bitwise
import EnetTsn.Uniconf.BinconfHeader

namespace EnetTsn.Uniconf

open EnetTsn.Library

inductive Operation where
  | create (value : List UInt8)
  | append (value : List UInt8)
  | delete
  deriving DecidableEq

namespace Operation

def value : Operation → List UInt8
  | create value | append value => value
  | delete => []

def vdata : Operation → Option (List UInt8)
  | create value | append value => some value
  | delete => none

def vsize : Operation → UInt16
  | create value => UInt16.ofNat value.length
  | append value => 0x8000 ||| UInt16.ofNat value.length
  | delete => 0

def sent : Operation → Operation
  | create [] => delete
  | other => other

end Operation

/-- An item whose key is accepted, and whose size has room for the length of its value. -/
structure BinItem where
  key : List UInt8
  action : Operation
  key_lt : key.length < ucMaxKeysize
  value_lt : action.value.length < 2 ^ 15

def BinItem.content (item : BinItem) : List UInt8 × Operation := (item.key, item.action)

def firstPoint (last key : List UInt8) : Nat := commonPrefix key last

def keptEnd (last key : List UInt8) : Nat :=
  min (last.length - firstPoint last key) (commonSuffix key last)

def Apart (last key : List UInt8) : Prop :=
  last.length ≤ key.length ∨ commonPrefix key last + commonSuffix key last ≤ key.length

instance : Decidable (Apart last key) := inferInstanceAs (Decidable (_ ∨ _))

def encodeItem (last : List UInt8) (item : BinItem) : List UInt8 :=
  littleEndian 4 (findDifPoints last item.key).toNat ++
    (item.key.drop (firstPoint last item.key)).take
      (item.key.length - keptEnd last item.key - firstPoint last item.key) ++
    littleEndian 2 item.action.vsize.toNat ++ item.action.value

def itemHeader (last : List UInt8) (item : BinItem) : Header where
  pa := firstPoint last item.key
  pb := last.length - keptEnd last item.key
  pc := item.key.length - keptEnd last item.key
  vsize := item.action.vsize

section Sizes

variable {action : Operation}

theorem append_vsize_toNat (short : value.length < 2 ^ 15) :
    (Operation.append value).vsize.toNat = 2 ^ 15 + value.length := by
  rw [Operation.vsize, UInt16.toNat_or, UInt16.toNat_ofNat', Nat.mod_eq_of_lt (by omega)]
  change 1 <<< 15 ||| value.length = _
  rw [← Nat.shiftLeft_add_eq_or_of_lt short]
  rfl

theorem vsizeSize_vsize (short : action.value.length < 2 ^ 15) :
    vsizeSize action.vsize = action.value.length := by
  rw [vsizeSize_toNat]
  cases action with
  | create value =>
    simp only [Operation.value] at short ⊢
    rw [Operation.vsize, UInt16.toNat_ofNat']
    omega
  | append value =>
    simp only [Operation.value] at short ⊢
    rw [append_vsize_toNat short]
    omega
  | delete => rfl

theorem vsizeAppend_iff (vsize : UInt16) : vsizeAppend vsize = true ↔ 2 ^ 15 ≤ vsize.toNat := by
  have below := vsize.toNat_lt
  have bit : vsize.toNat.testBit 15 = decide (2 ^ 15 ≤ vsize.toNat) := by
    rw [Nat.testBit_eq_decide_div_mod_eq, decide_eq_decide]
    omega
  have flag : (vsize &&& 0x8000).toNat = (vsize.toNat.testBit 15).toNat * 2 ^ 15 := by
    change vsize.toNat &&& 2 ^ 15 = _
    exact Nat.and_two_pow _ _
  rw [vsizeAppend, decide_eq_true_iff, ne_eq, ← UInt16.toNat_inj, flag, bit]
  simp

end Sizes

section Points

variable {last key : List UInt8}

theorem findDifPoints_eq (last key : List UInt8) : findDifPoints last key =
    packPoints (firstPoint last key) (last.length - keptEnd last key)
      (key.length - keptEnd last key) := by
  have first : matchLoop last.length key last = commonPrefix key last := by
    rw [matchLoop_eq, Nat.min_eq_right (commonPrefix_le_right key last)]
  simp only [findDifPoints, first, matchLoop_eq]
  rfl

theorem keptEnd_le_left (last key : List UInt8) : keptEnd last key ≤ last.length - firstPoint last key :=
  Nat.min_le_left _ _

theorem keptEnd_le_suffix (last key : List UInt8) : keptEnd last key ≤ commonSuffix key last :=
  Nat.min_le_right _ _

theorem firstPoint_le_left (last key : List UInt8) : firstPoint last key ≤ last.length :=
  commonPrefix_le_right key last

private theorem firstPoint_le_right (last key : List UInt8) : firstPoint last key ≤ key.length :=
  commonPrefix_le_left key last

private theorem keptEnd_le_right (last key : List UInt8) : keptEnd last key ≤ key.length :=
  Nat.le_trans (keptEnd_le_suffix last key) (commonSuffix_le_left key last)

theorem apart_iff : Apart last key ↔ firstPoint last key + keptEnd last key ≤ key.length := by
  have first := firstPoint_le_left last key
  rw [Apart, keptEnd]
  change _ ∨ firstPoint last key + _ ≤ _ ↔ _
  omega

theorem middle_replaced (apart : Apart last key) : last.take (firstPoint last key) ++
      (key.drop (firstPoint last key)).take (key.length - keptEnd last key - firstPoint last key) ++
      last.drop (last.length - keptEnd last key) = key := by
  have fits := apart_iff.mp apart
  have start := take_commonPrefix key last (firstPoint last key) (Nat.le_refl _)
  have ending := drop_commonSuffix key last _ (keptEnd_le_suffix last key)
  have join := List.take_append_drop (key.length - keptEnd last key - firstPoint last key)
    (key.drop (firstPoint last key))
  rw [List.drop_drop, show firstPoint last key + (key.length - keptEnd last key -
    firstPoint last key) = key.length - keptEnd last key by omega] at join
  rw [← start, ← ending, List.append_assoc, join, List.take_append_drop]

theorem findDifPoints_toNat (last_lt : last.length < ucMaxKeysize) (key_lt : key.length < ucMaxKeysize) :
    Apart last key → (findDifPoints last key).toNat = firstPoint last key * 2 ^ 22 +
      (last.length - keptEnd last key - firstPoint last key) * 2 ^ 11 +
      (key.length - keptEnd last key - firstPoint last key) := by
  intro apart
  have fits := apart_iff.mp apart
  have first := firstPoint_le_left last key
  have second := keptEnd_le_left last key
  rw [ucMaxKeysize] at last_lt key_lt
  rw [findDifPoints_eq]
  exact packPoints_toNat (by omega) (by omega) (by omega) (by omega)

end Points

section Encoder

variable {last : List UInt8} {bc : BcData} {item : BinItem}

theorem length_encodeItem (last : List UInt8) (item : BinItem) : (encodeItem last item).length =
    4 + (item.key.length - keptEnd last item.key - firstPoint last item.key) + 2 +
      item.action.value.length := by
  simp [encodeItem]
  omega

variable (last_lt : bc.lkey.length < ucMaxKeysize)
include last_lt

theorem setKvdata_apart (apart : Apart bc.lkey item.key) :
    ucBinconfSetKvdata bc item.key item.action.vdata item.action.vsize =
      if bc.chunkSize - bc.chunk.length < (encodeItem bc.lkey item).length then
        some (bc, if bc.chunk.length = 0 then 2 else 1)
      else some ({ bc with
        chunk := bc.chunk ++ encodeItem bc.lkey item
        lkey := item.key }, 0) := by
  have fits := apart_iff.mp apart
  have first := firstPoint_le_left bc.lkey item.key
  have second := keptEnd_le_left bc.lkey item.key
  have key_lt := item.key_lt
  obtain ⟨_, pa, _, size⟩ := word_fields (findDifPoints_toNat last_lt key_lt apart)
    (by rw [ucMaxKeysize] at last_lt; omega) (by rw [ucMaxKeysize] at key_lt; omega)
  have word : (if bc.lkey.length ≠ 0 then findDifPoints bc.lkey item.key
      else UInt32.ofNat item.key.length) = findDifPoints bc.lkey item.key := by
    split
    · rfl
    · rename_i empty
      have value := findDifPoints_toNat last_lt key_lt apart
      rw [ucMaxKeysize] at key_lt
      apply UInt32.toNat_inj.mp
      rw [value, UInt32.toNat_ofNat']
      omega
  have start : (if bc.lkey.length ≠ 0 then ((findDifPoints bc.lkey item.key >>> 22) &&& 0x3ff).toNat
      else 0) = firstPoint bc.lkey item.key := by
    split
    · exact pa
    · omega
  have width : (if bc.lkey.length ≠ 0 then (findDifPoints bc.lkey item.key &&& 0x7ff).toNat
      else item.key.length) =
      item.key.length - keptEnd bc.lkey item.key - firstPoint bc.lkey item.key := by
    split
    · exact size
    · omega
  have svsize : (if item.action.vdata.isSome then vsizeSize item.action.vsize else 0) =
      item.action.value.length := by
    rw [vsizeSize_vsize item.value_lt]
    cases item.action <;> rfl
  have value : slice (item.action.vdata.getD []) 0 item.action.value.length =
      some item.action.value := by
    have whole : item.action.vdata.getD [] = item.action.value := by
      cases item.action <;> rfl
    rw [whole, slice_of_le (by omega), List.drop_zero, List.take_length]
  have keyPart : slice item.key (firstPoint bc.lkey item.key)
      (item.key.length - keptEnd bc.lkey item.key - firstPoint bc.lkey item.key) = _ :=
    slice_of_le (by omega)
  rw [ucBinconfSetKvdata]
  simp only [word, start, width, svsize, value, keyPart]
  rw [if_neg (Nat.not_le_of_lt key_lt), length_encodeItem]
  simp only [Option.bind_eq_bind, Option.bind_some, encodeItem, ← List.append_assoc]
  by_cases room : bc.chunkSize - bc.chunk.length < item.key.length - keptEnd bc.lkey item.key -
      firstPoint bc.lkey item.key + item.action.value.length + 4 + 2
  · have full : bc.chunkSize - bc.chunk.length < 4 + (item.key.length -
        keptEnd bc.lkey item.key - firstPoint bc.lkey item.key) + 2 + item.action.value.length := by
      omega
    rw [if_pos room, if_pos full]
  · rw [if_neg room, if_neg (by omega)]

theorem setKvdata_overlap (overlap : ¬ Apart bc.lkey item.key) (next : BcData) :
    ucBinconfSetKvdata bc item.key item.action.vdata item.action.vsize ≠ some (next, 0) := by
  have crossed : ¬ firstPoint bc.lkey item.key + keptEnd bc.lkey item.key ≤ item.key.length :=
    fun fits => overlap (apart_iff.mpr fits)
  have first := firstPoint_le_left bc.lkey item.key
  have firstRight := firstPoint_le_right bc.lkey item.key
  have second := keptEnd_le_left bc.lkey item.key
  have secondRight := keptEnd_le_right bc.lkey item.key
  have key_lt := item.key_lt
  have some_ : bc.lkey.length ≠ 0 := by omega
  have pa : ((findDifPoints bc.lkey item.key >>> 22) &&& 0x3ff).toNat = 1023 := by
    rw [findDifPoints_eq]
    rw [ucMaxKeysize] at last_lt
    exact packPoints_negative (by omega) (by omega)
  intro accepted
  rw [ucBinconfSetKvdata] at accepted
  simp only [if_pos some_, pa] at accepted
  rw [if_neg (Nat.not_le_of_lt key_lt)] at accepted
  generalize (if item.action.vdata.isSome then vsizeSize item.action.vsize else 0) = svsize at accepted
  split at accepted
  · have code := congrArg Prod.snd (Option.some.inj accepted)
    split at code <;> simp at code
  · obtain ⟨keyPart, found, _⟩ := Option.bind_eq_some_iff.mp accepted
    have inside := (slice_eq_some found).1
    rw [ucMaxKeysize] at key_lt
    omega

end Encoder

section Decoder

variable {last more : List UInt8} {item : BinItem}

def newPart (last key : List UInt8) : List UInt8 :=
  (key.drop (firstPoint last key)).take (key.length - keptEnd last key - firstPoint last key)

theorem length_newPart (apart : Apart last key) :
    (newPart last key).length = key.length - keptEnd last key - firstPoint last key := by
  have fits := apart_iff.mp apart
  simp [newPart]
  omega

theorem encodeItem_append (last : List UInt8) (item : BinItem) (more : List UInt8) :
    encodeItem last item ++ more = littleEndian 4 (findDifPoints last item.key).toNat ++
      (newPart last item.key ++ (littleEndian 2 item.action.vsize.toNat ++
        (item.action.value ++ more))) := by
  simp only [encodeItem, newPart, List.append_assoc]

theorem readHeader_encodeItem (last_lt : last.length < ucMaxKeysize) (apart : Apart last item.key)
    (more : List UInt8) :
    readHeader (encodeItem last item ++ more) = some (itemHeader last item) := by
  have fits := apart_iff.mp apart
  have first := firstPoint_le_left last item.key
  have second := keptEnd_le_left last item.key
  have key_lt := item.key_lt
  obtain ⟨pa, _, pb, size⟩ := word_fields (findDifPoints_toNat last_lt key_lt apart)
    (by rw [ucMaxKeysize] at last_lt; omega) (by rw [ucMaxKeysize] at key_lt; omega)
  have part := length_newPart apart
  have word_lt : (findDifPoints last item.key).toNat < 256 ^ 4 :=
    (findDifPoints last item.key).toNat_lt
  have vsize_lt : item.action.vsize.toNat < 256 ^ 2 := item.action.vsize.toNat_lt
  have word : UInt32.ofNat (ofLittleEndian
      (littleEndian 4 (findDifPoints last item.key).toNat)) = findDifPoints last item.key := by
    rw [ofLittleEndian_littleEndian, Nat.mod_eq_of_lt word_lt, UInt32.ofNat_toNat]
  have vsize : UInt16.ofNat (ofLittleEndian (littleEndian 2 item.action.vsize.toNat)) =
      item.action.vsize := by
    rw [ofLittleEndian_littleEndian, Nat.mod_eq_of_lt vsize_lt, UInt16.ofNat_toNat]
  rw [encodeItem_append, readHeader, List.take_left' (length_littleEndian 4 _)]
  simp only [word, size, ← part]
  rw [← List.drop_drop, List.drop_left' (length_littleEndian 4 _), List.drop_left' rfl,
    List.take_left' (length_littleEndian 2 _), vsize]
  simp only [List.length_append, length_littleEndian]
  rw [if_neg (by omega), if_neg (by omega), Header.ofWord, pa, pb, size, itemHeader]
  congr 2 <;> omega

theorem newKey_encodeItem (apart : Apart last item.key) (more : List UInt8) :
    (itemHeader last item).newKey last (encodeItem last item ++ more) = item.key := by
  have part := length_newPart apart
  have width : (itemHeader last item).pc - (itemHeader last item).pa =
      (newPart last item.key).length := by
    rw [part]
    rfl
  rw [Header.newKey, encodeItem_append, List.drop_left' (length_littleEndian 4 _), width,
    List.take_left' rfl]
  exact middle_replaced apart

theorem drop_valueAt (apart : Apart last item.key) (more : List UInt8) :
    (encodeItem last item ++ more).drop (itemHeader last item).valueAt = item.action.value ++ more := by
  have part := length_newPart apart
  have place : (itemHeader last item).valueAt = 4 + (newPart last item.key).length + 2 := by
    rw [part]
    rfl
  rw [place, encodeItem_append, ← List.drop_drop, ← List.drop_drop,
    List.drop_left' (length_littleEndian 4 _), List.drop_left' rfl,
    List.drop_left' (length_littleEndian 2 _)]

theorem itemHeader_size (last : List UInt8) (item : BinItem) :
    (itemHeader last item).size = (encodeItem last item).length := by
  rw [Header.size, length_encodeItem]
  change _ + vsizeSize item.action.vsize = _
  rw [vsizeSize_vsize item.value_lt]
  rfl

theorem inLkey_encodeItem (apart : Apart last item.key) :
    (itemHeader last item).pb ≤ last.length ∧ (itemHeader last item).inLkey last = true := by
  have fits := apart_iff.mp apart
  have key_lt := item.key_lt
  refine ⟨Nat.sub_le _ _, ?_⟩
  rw [Header.inLkey, Bool.and_eq_true, inLkey_iff, inLkey_iff]
  simp only [itemHeader]
  omega

end Decoder

end EnetTsn.Uniconf
