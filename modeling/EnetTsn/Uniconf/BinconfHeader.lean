import EnetTsn.Uniconf.Binconf

namespace EnetTsn.Uniconf

open EnetTsn.Library

theorem matchLoop_eq (limit : Nat) (first second : List UInt8) :
    matchLoop limit first second = min limit (commonPrefix first second) := by
  induction limit generalizing first second with
  | zero => simp [matchLoop]
  | succ limit ih =>
    cases first with
    | nil => simp [matchLoop, commonPrefix]
    | cons head rest =>
      cases second with
      | nil => simp [matchLoop, commonPrefix]
      | cons other others =>
        simp only [matchLoop, commonPrefix]
        by_cases same : head = other
        · rw [if_pos same, if_pos same, ih]
          omega
        · rw [if_neg same, if_neg same, Nat.min_zero]

theorem vsizeSize_toNat (vsize : UInt16) : vsizeSize vsize = vsize.toNat % 2 ^ 15 := by
  change vsize.toNat &&& 2 ^ 15 - 1 = _
  exact Nat.and_two_pow_sub_one_eq_mod _ _

section Points

variable {pa pb pc : Nat}

theorem packPoints_toNat (pa_lt : pa < 1024) (pb_lt : pb - pa < 2048)
    (pa_le_pc : pa ≤ pc) (pc_lt : pc - pa < 2048) :
    (packPoints pa pb pc).toNat = pa * 2 ^ 22 + (pb - pa) * 2 ^ 11 + (pc - pa) := by
  have difference : UInt32.ofInt ((pc : Int) - pa) = UInt32.ofNat (pc - pa) := by
    have value : (pc : Int) - pa = (pc - pa : Nat) := by omega
    rw [value, UInt32.ofInt]
    congr 1
    omega
  have first_lt : pa <<< 22 < 2 ^ 32 := by omega
  have second_lt : (pb - pa) <<< 11 < 2 ^ 32 := by omega
  have third_lt : pc - pa < 2 ^ 32 := by omega
  rw [packPoints, difference, UInt32.toNat_or, UInt32.toNat_or]
  simp only [UInt32.toNat_ofNat']
  rw [Nat.mod_eq_of_lt first_lt, Nat.mod_eq_of_lt second_lt, Nat.mod_eq_of_lt third_lt,
    Nat.or_assoc, ← Nat.shiftLeft_add_eq_or_of_lt pc_lt (pb - pa),
    ← Nat.shiftLeft_add_eq_or_of_lt (by omega) pa]
  omega

theorem word_fields {res : UInt32} (value : res.toNat = first * 2 ^ 22 + second * 2 ^ 11 + third)
    (second_lt : second < 2048) (third_lt : third < 2048) :
    (res >>> 22).toNat = first ∧ ((res >>> 22) &&& 0x3ff).toNat = first ∧
      ((res >>> 11) &&& 0x7ff).toNat = second ∧ (res &&& 0x7ff).toNat = third := by
  have below := res.toNat_lt
  have high : (res >>> 22).toNat = first := by
    change res.toNat >>> 22 = first
    omega
  refine ⟨high, ?_, ?_, ?_⟩
  · rw [UInt32.toNat_and, high]
    change first &&& 2 ^ 10 - 1 = first
    rw [Nat.and_two_pow_sub_one_eq_mod]
    omega
  · change res.toNat >>> 11 &&& 2 ^ 11 - 1 = second
    rw [Nat.and_two_pow_sub_one_eq_mod, Nat.shiftRight_eq_div_pow]
    omega
  · change res.toNat &&& 2 ^ 11 - 1 = third
    rw [Nat.and_two_pow_sub_one_eq_mod]
    omega

theorem packPoints_negative (overlap : pc < pa) (short : pa - pc < 2048) :
    ((packPoints pa pb pc >>> 22) &&& 0x3ff).toNat = 1023 := by
  have difference : (UInt32.ofInt ((pc : Int) - pa)).toNat = 2 ^ 32 - (pa - pc) := by
    simp [UInt32.ofInt]
    omega
  have large : 2 ^ 32 - (pa - pc) ≤ (packPoints pa pb pc).toNat := by
    rw [packPoints, UInt32.toNat_or, difference]
    exact Nat.right_le_or
  have below := (packPoints pa pb pc).toNat_lt
  change (packPoints pa pb pc).toNat >>> 22 &&& 2 ^ 10 - 1 = 1023
  rw [Nat.and_two_pow_sub_one_eq_mod, Nat.shiftRight_eq_div_pow]
  omega

end Points

structure Header where
  pa : Nat
  pb : Nat
  pc : Nat
  vsize : UInt16

namespace Header

def ofWord (res : UInt32) (vsize : UInt16) : Header where
  pa := (res >>> 22).toNat
  pb := ((res >>> 11) &&& 0x7ff).toNat + (res >>> 22).toNat
  pc := (res &&& 0x7ff).toNat + (res >>> 22).toNat
  vsize := vsize

def valueAt (head : Header) : Nat := 4 + (head.pc - head.pa) + 2

def size (head : Header) : Nat := head.valueAt + vsizeSize head.vsize

def newKey (head : Header) (lkey octets : List UInt8) : List UInt8 :=
  lkey.take head.pa ++ (octets.drop 4).take (head.pc - head.pa) ++ lkey.drop head.pb

def inLkey (head : Header) (lkey : List UInt8) : Bool :=
  Uniconf.inLkey head.pc (lkey.length - head.pb) && Uniconf.inLkey head.pa (head.pc - head.pa)

end Header

theorem inLkey_iff : inLkey offset count = true ↔ count = 0 ∨ offset + count ≤ ucMaxKeysize := by
  simp [inLkey]

/-- The head that stands at the start of some octets, if they are enough for it and the octets
of the key. -/
def readHeader (octets : List UInt8) : Option Header :=
  if octets.length < 4 then none
  else
    let res := UInt32.ofNat (ofLittleEndian (octets.take 4))
    let size := (res &&& 0x7ff).toNat
    if octets.length < 4 + size + 2 then none
    else some (.ofWord res (UInt16.ofNat (ofLittleEndian ((octets.drop (4 + size)).take 2))))

theorem Header.ofWord_size (res : UInt32) (vsize : UInt16) :
    (Header.ofWord res vsize).pc - (Header.ofWord res vsize).pa = (res &&& 0x7ff).toNat :=
  Nat.add_sub_cancel _ _

theorem valueAt_le_of_readHeader (found : readHeader octets = some head) :
    head.valueAt ≤ octets.length := by
  obtain ⟨_, found⟩ := Option.ite_none_left_eq_some.mp found
  obtain ⟨enough, found⟩ := Option.ite_none_left_eq_some.mp found
  cases found
  rw [Header.valueAt, Header.ofWord_size]
  omega

theorem readHeader_append (found : readHeader (octets ++ more) = some head) :
    (octets.length < head.valueAt → readHeader octets = none) ∧
      (head.valueAt ≤ octets.length → readHeader octets = some head ∧
        ∀ lkey, head.newKey lkey octets = head.newKey lkey (octets ++ more)) := by
  obtain ⟨_, found⟩ := Option.ite_none_left_eq_some.mp found
  obtain ⟨_, found⟩ := Option.ite_none_left_eq_some.mp found
  by_cases word : octets.length < 4
  · have none : readHeader octets = none := if_pos word
    refine ⟨fun _ => none, fun enough => ?_⟩
    rw [Header.valueAt] at enough
    omega
  · have start : (octets ++ more).take 4 = octets.take 4 :=
      List.take_append_of_le_length (by omega)
    rw [start] at found
    rw [readHeader, if_neg word]
    generalize UInt32.ofNat (ofLittleEndian (octets.take 4)) = res at found ⊢
    cases found
    rw [Header.valueAt, Header.ofWord_size]
    refine ⟨fun short => if_pos short, fun enough => ?_⟩
    have size : (octets ++ more).drop (4 + (res &&& 0x7ff).toNat) =
        octets.drop (4 + (res &&& 0x7ff).toNat) ++ more :=
      List.drop_append_of_le_length (by omega)
    have front : ((octets ++ more).drop (4 + (res &&& 0x7ff).toNat)).take 2 =
        (octets.drop (4 + (res &&& 0x7ff).toNat)).take 2 := by
      rw [size]
      refine List.take_append_of_le_length ?_
      rw [List.length_drop]
      omega
    refine ⟨?_, ?_⟩
    · rw [if_neg (by omega), front]
    · intro lkey
      have key : ((octets ++ more).drop 4).take (res &&& 0x7ff).toNat =
          (octets.drop 4).take (res &&& 0x7ff).toNat := by
        rw [List.drop_append_of_le_length (by omega)]
        refine List.take_append_of_le_length ?_
        rw [List.length_drop]
        omega
      rw [Header.newKey, Header.newKey, Header.ofWord_size, key]

section SetDbitem

variable {bc : BcData} {rpt : Nat} {head : Header}

def BcData.sized (bc : BcData) (head : Header) (rpt : Nat) : BcData :=
  { bc with
    vsize := head.vsize
    vdata := rpt + head.valueAt }

def BcData.taken (bc : BcData) (head : Header) (rpt : Nat) : BcData :=
  { bc.sized head rpt with
    lkey := head.newKey bc.lkey (bc.chunk.drop rpt)
    apdsize := if bc.chunk.length < rpt + head.size
      then UInt16.ofNat (rpt + head.size - bc.chunk.length) else bc.apdsize }

theorem setDbitem_incomplete (missing : readHeader (bc.chunk.drop rpt) = none) :
    ∃ next, setDbitem bc rpt = some (bc, next, 1) := by
  rw [readHeader, List.length_drop] at missing
  rw [setDbitem]
  split
  · exact ⟨rpt, rfl⟩
  · rename_i enough
    rw [slice_of_le (by omega)]
    simp only [Option.bind_eq_bind, Option.bind_some, Nat.add_sub_cancel]
    split
    · exact ⟨_, rfl⟩
    · split
      · exact ⟨_, rfl⟩
      · simp only [ite_eq_left_iff, reduceCtorEq, imp_false, Decidable.not_not] at missing
        omega

/-- What `set_dbitem` does with an item whose head is complete. -/
theorem setDbitem_found (found : readHeader (bc.chunk.drop rpt) = some head) : setDbitem bc rpt =
      if bc.lkey.length < head.pb then some (bc.sized head rpt, rpt + head.size, -1)
      else if bc.chunk.length < rpt + head.size ∧ rpt ≠ 0 then
        some (bc.sized head rpt, rpt + head.size, 1)
      else if head.inLkey bc.lkey then
        some (bc.taken head rpt, min bc.chunk.length (rpt + head.size), 0)
      else none := by
  rw [readHeader, List.length_drop] at found
  obtain ⟨enough, found⟩ := Option.ite_none_left_eq_some.mp found
  obtain ⟨whole, found⟩ := Option.ite_none_left_eq_some.mp found
  cases found
  rw [setDbitem, if_neg (by omega), slice_of_le (by omega)]
  simp only [Option.bind_eq_bind, Option.bind_some, Nat.add_sub_cancel]
  rw [if_neg (by omega), if_neg (by omega), slice_of_le (by omega)]
  simp only [Option.bind_some]
  generalize UInt32.ofNat (ofLittleEndian ((bc.chunk.drop rpt).take 4)) = res at whole ⊢
  rw [slice_of_le (by omega), List.drop_drop, ← Nat.add_assoc]
  generalize UInt16.ofNat (ofLittleEndian
    ((bc.chunk.drop (rpt + 4 + (res &&& 0x7ff).toNat)).take 2)) = vsize
  have valueAt : rpt + 4 + (res &&& 0x7ff).toNat + 2 = rpt + (Header.ofWord res vsize).valueAt := by
    rw [Header.valueAt, Header.ofWord_size]
    omega
  have next : rpt + 4 + (res &&& 0x7ff).toNat + 2 + vsizeSize vsize =
      rpt + (Header.ofWord res vsize).size := by
    rw [valueAt, Header.size]
    exact Nat.add_assoc _ _ _
  have key : (Header.ofWord res vsize).newKey bc.lkey (bc.chunk.drop rpt) =
      bc.lkey.take (res >>> 22).toNat ++ (bc.chunk.drop (rpt + 4)).take (res &&& 0x7ff).toNat ++
        bc.lkey.drop ((res >>> 11 &&& 0x7ff).toNat + (res >>> 22).toNat) := by
    rw [Header.newKey, Header.ofWord_size, List.drop_drop]
    rfl
  rw [next, valueAt, BcData.taken, key, Header.inLkey, Header.ofWord_size]
  by_cases refused : bc.lkey.length < (Header.ofWord res vsize).pb
  · rw [if_pos refused]
    exact if_pos refused
  rw [if_neg refused]
  refine (if_neg refused).trans ?_
  by_cases waits : bc.chunk.length < rpt + (Header.ofWord res vsize).size ∧ rpt ≠ 0
  · rw [if_pos waits, if_pos waits]
    rfl
  rw [if_neg waits, if_neg waits]
  by_cases inside : (inLkey (Header.ofWord res vsize).pc (bc.lkey.length - (Header.ofWord res vsize).pb) &&
      inLkey (Header.ofWord res vsize).pa (res &&& 0x7ff).toNat) = true
  · rw [if_pos inside]
    refine (if_pos inside).trans ?_
    by_cases part : bc.chunk.length < rpt + (Header.ofWord res vsize).size
    · rw [if_pos part, if_pos part, Nat.min_eq_left (Nat.le_of_lt part)]
      rfl
    · rw [if_neg part, if_neg part, Nat.min_eq_right (Nat.le_of_not_lt part)]
      rfl
  · rw [if_neg inside]
    exact if_neg inside

end SetDbitem

theorem awaited_sub (apdsize : UInt16) (count : Nat) :
    (apdsize - UInt16.ofNat (min apdsize.toNat count)).toNat = apdsize.toNat - count := by
  have small := apdsize.toNat_lt
  have value : (UInt16.ofNat (min apdsize.toNat count)).toNat = min apdsize.toNat count := by
    rw [UInt16.toNat_ofNat']
    omega
  rw [UInt16.toNat_sub_of_le _ _ (UInt16.le_iff_toNat_le.mpr (by omega)), value]
  omega

section Call

variable {σ : Type} {dbal : Dbal σ} {db written : σ} {bc bc' : BcData}

theorem writeChunk_whole (whole : bc.apdsize = 0) : ucBinconfWriteChunk dbal bc db =
    (writeItems dbal (bc.chunk.length + 1) bc db 0 0 0).bind fun (read, db, last, result) =>
      match result with
      | .error res => some (read, db, res)
      | .ok items => some ({ read with chunk := read.chunk.drop last }, db, items) := by
  have nothing : ¬ 0 < bc.apdsize := by
    rw [whole]
    exact UInt16.lt_irrefl 0
  rw [ucBinconfWriteChunk]
  simp only [if_neg nothing]
  rfl

theorem writeChunk_rest (some_ : 0 < bc.apdsize)
    (accepted : writeRest dbal bc db = (bc', written, true)) : ucBinconfWriteChunk dbal bc db =
    if 0 < bc'.apdsize then some (bc', written, 0) else ucBinconfWriteChunk dbal bc' written := by
  by_cases more : 0 < bc'.apdsize
  · rw [ucBinconfWriteChunk, if_pos more]
    simp only [if_pos some_, accepted]
    simp only [if_pos more]
    rfl
  · rw [ucBinconfWriteChunk, ucBinconfWriteChunk, if_neg more]
    simp only [if_pos some_, accepted, if_neg more]

theorem writeChunk_refused (some_ : 0 < bc.apdsize)
    (refused : writeRest dbal bc db = (bc', written, false)) :
    ucBinconfWriteChunk dbal bc db = some (bc', written, -1) := by
  rw [ucBinconfWriteChunk]
  simp only [if_pos some_, refused]
  rfl

end Call

end EnetTsn.Uniconf
