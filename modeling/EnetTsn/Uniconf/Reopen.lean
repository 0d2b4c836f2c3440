import EnetTsn.Uniconf.SaveRestore

namespace EnetTsn.Uniconf

open EnetTsn.Library

/-- The sizes of a record are accepted, and there is memory for its key and its value. -/
def Loadable (grant : LoadGrant) (item : KeyValue) : Prop :=
  item.1 ≠ [] ∧ item.1.length ≤ ucMaxKeysize ∧ item.2.length ≤ ucMaxValuesize ∧
    grant.kdata = true ∧ (item.2 ≠ [] → grant.vdata = true)

instance : Decidable (Loadable grant item) := inferInstanceAs (Decidable (_ ∧ _ ∧ _ ∧ _ ∧ _))

def below (last : Option (List UInt8)) (item : KeyValue) : Bool :=
  last.any fun kd => keycmp item.1 kd < 0

/-- The records that are read: those that fit on the medium, up to the first one that is not
accepted or for which there is no memory. A record whose key is smaller than the last one
takes no node of the list. -/
def recordsRead (grants : Nat → LoadGrant) :
    Nat → Nat → Option (List UInt8) → List KeyValue → List KeyValue
  | _, _, _, [] => []
  | turn, room, last, item :: rest =>
    if room < (record item).length ∨ (grants turn).dbdata = false ∨ ¬ Loadable (grants turn) item then []
    else if below last item then
      item :: recordsRead grants (turn + 1) (room - (record item).length) last rest
    else if (grants turn).listnode = false then []
    else item :: recordsRead grants (turn + 1) (room - (record item).length) (some item.1) rest

def keepRecords : Option (List UInt8) → List KeyValue → List KeyValue
  | _, [] => []
  | last, item :: rest =>
    if below last item then keepRecords last rest else item :: keepRecords (some item.1) rest

/-- Each record has a larger key than all before, or is one of those before and not the one
with the largest key. -/
def InOrder (before : List KeyValue) : List KeyValue → Prop
  | [] => True
  | item :: rest => ((∀ earlier ∈ before, keycmp earlier.1 item.1 < 0) ∨
      (item ∈ before ∧ ∃ earlier ∈ before, keycmp item.1 earlier.1 < 0)) ∧
        InOrder (before ++ [item]) rest

instance decidableInOrder (before : List KeyValue) :
    (records : List KeyValue) → Decidable (InOrder before records)
  | [] => isTrue trivial
  | item :: rest =>
    have := decidableInOrder (before ++ [item]) rest
    inferInstanceAs (Decidable (_ ∧ _))

section Records

variable {grant : LoadGrant} {grants : Nat → LoadGrant} {item : KeyValue} {inf more rest : List UInt8}

theorem length_record (item : KeyValue) :
    (record item).length = 4 + item.1.length + 4 + item.2.length := by
  simp [record]
  omega

/-- What stands at the start of a file that `deserialize_one` accepts. -/
theorem deserializeOne_sound (read : deserializeOne grant inf = some (item, rest)) :
    inf = record item ++ rest ∧ Loadable grant item := by
  obtain ⟨head, first, read⟩ := Option.bind_eq_some_iff.mp read
  obtain ⟨fits, rfl⟩ := slice_eq_some first
  obtain ⟨short, read⟩ := Option.ite_none_left_eq_some.mp read
  obtain ⟨kd, second, read⟩ := Option.bind_eq_some_iff.mp read
  obtain ⟨fitsKey, same⟩ := slice_eq_some second
  obtain ⟨size, third, read⟩ := Option.bind_eq_some_iff.mp read
  obtain ⟨fitsSize, rfl⟩ := slice_eq_some third
  obtain ⟨small, read⟩ := Option.ite_none_left_eq_some.mp read
  obtain ⟨value, fourth, read⟩ := Option.bind_eq_some_iff.mp read
  obtain ⟨fitsValue, same'⟩ := slice_eq_some fourth
  cases read
  have keySize := length_slice fits
  have sizeSize := length_slice fitsSize
  have kdLength := length_slice fitsKey
  have valueLength := length_slice fitsValue
  rw [← same] at kdLength
  rw [← same'] at valueLength
  have ksize := littleEndian_ofLittleEndian ((inf.drop 0).take 4)
  have vsize := littleEndian_ofLittleEndian
    ((inf.drop (4 + ofLittleEndian ((inf.drop 0).take 4))).take 4)
  rw [keySize] at ksize
  rw [sizeSize] at vsize
  generalize ofLittleEndian ((inf.drop 0).take 4) = count at *
  generalize ofLittleEndian ((inf.drop (4 + count)).take 4) = count' at *
  obtain ⟨notLong, granted, positive⟩ : ¬ ucMaxKeysize < count ∧ ¬ grant.kdata = false ∧ ¬ count = 0 := by
    simpa only [not_or] using short
  obtain ⟨notLarge, room⟩ := not_or.mp small
  have part (offset size : Nat) :
      (inf.drop offset).take size ++ inf.drop (offset + size) = inf.drop offset := by
    rw [← List.drop_drop]
    exact List.take_append_drop _ _
  refine ⟨?_, ?_, ?_, ?_, ?_, ?_⟩
  · rw [record, kdLength, valueLength, ksize, vsize, List.append_assoc, List.append_assoc,
      List.append_assoc]
    rw [same, same', part, part, part, part, List.drop_zero]
  · rintro rfl
    exact positive kdLength.symm
  · change kd.length ≤ _
    omega
  · change value.length ≤ _
    omega
  · exact Bool.not_eq_false _ |>.mp granted
  · intro filled
    by_contra refused
    apply room
    refine ⟨?_, Bool.not_eq_true _ |>.mp refused⟩
    rw [← valueLength]
    exact List.length_pos_iff.mpr filled

theorem deserializeOne_record (sizedKey : item.1.length < 2 ^ 32) (sizedValue : item.2.length < 2 ^ 32)
    (more : List UInt8) : deserializeOne grant (record item ++ more) =
      if Loadable grant item then some (item, more) else none := by
  obtain ⟨kd, value⟩ := item
  have keySize : ofLittleEndian (littleEndian 4 kd.length) = kd.length := by
    rw [ofLittleEndian_littleEndian]
    exact Nat.mod_eq_of_lt sizedKey
  have valueSize : ofLittleEndian (littleEndian 4 value.length) = value.length := by
    rw [ofLittleEndian_littleEndian]
    exact Nat.mod_eq_of_lt sizedValue
  have first : slice (record (kd, value) ++ more) 0 4 = some (littleEndian 4 kd.length) := by
    simpa [record] using slice_middle [] (littleEndian 4 kd.length)
      (kd ++ littleEndian 4 value.length ++ value ++ more)
  have second : slice (record (kd, value) ++ more) 4 kd.length = some kd := by
    simpa [record] using slice_middle (littleEndian 4 kd.length) kd
      (littleEndian 4 value.length ++ value ++ more)
  have third : slice (record (kd, value) ++ more) (4 + kd.length) 4 =
      some (littleEndian 4 value.length) := by
    simpa [record] using slice_middle (littleEndian 4 kd.length ++ kd)
      (littleEndian 4 value.length) (value ++ more)
  have fourth : slice (record (kd, value) ++ more) (4 + kd.length + 4) value.length = some value := by
    simpa [record, Nat.add_assoc] using slice_middle (littleEndian 4 kd.length ++ kd ++
      littleEndian 4 value.length) value more
  have rest : (record (kd, value) ++ more).drop (4 + kd.length + 4 + value.length) = more :=
    List.drop_left' (length_record (kd, value))
  have empty : kd.length = 0 ↔ kd = [] := List.length_eq_zero_iff
  have filled : 0 < value.length ↔ value ≠ [] := List.length_pos_iff
  rw [deserializeOne]
  simp only [first, second, third, fourth, rest, keySize, valueSize, Option.bind_eq_bind,
    Option.bind_some]
  by_cases loadable : Loadable grant (kd, value)
  · obtain ⟨some_, short, small, kdata, vdata⟩ := loadable
    have passed : ¬ (ucMaxKeysize < kd.length ∨ grant.kdata = false ∨ kd.length = 0) := by
      rintro (long | refused | nothing)
      · exact absurd short (Nat.not_le.mpr long)
      · rw [kdata] at refused
        cases refused
      · exact some_ (empty.mp nothing)
    have passed' : ¬ (ucMaxValuesize < value.length ∨ (0 < value.length ∧ grant.vdata = false)) := by
      rintro (large | ⟨positive, refused⟩)
      · exact absurd small (Nat.not_le.mpr large)
      · rw [vdata (filled.mp positive)] at refused
        cases refused
    rw [if_neg passed, if_neg passed', if_pos ⟨some_, short, small, kdata, vdata⟩]
  · rw [if_neg loadable]
    by_cases stopped : ucMaxKeysize < kd.length ∨ grant.kdata = false ∨ kd.length = 0
    · exact if_pos stopped
    · rw [if_neg stopped]
      refine if_pos ?_
      by_contra passed
      apply loadable
      obtain ⟨short, kdata, some_⟩ : ¬ ucMaxKeysize < kd.length ∧ ¬ grant.kdata = false ∧
          ¬ kd.length = 0 := by
        simpa only [not_or] using stopped
      obtain ⟨small, vdata⟩ := not_or.mp passed
      refine ⟨mt empty.mpr some_, Nat.le_of_not_lt short, Nat.le_of_not_lt small, ?_, ?_⟩
      · exact Bool.not_eq_false _ |>.mp kdata
      · intro notEmpty
        exact Bool.not_eq_false _ |>.mp fun refused => vdata ⟨filled.mpr notEmpty, refused⟩

theorem deserializeOne_truncated (sizedKey : item.1.length < 2 ^ 32)
    (sizedValue : item.2.length < 2 ^ 32) (short : room < (record item).length) :
    deserializeOne grant ((record item).take room) = none := by
  cases read : deserializeOne grant ((record item).take room) with
  | none => rfl
  | some result =>
    obtain ⟨found, rest⟩ := result
    obtain ⟨start, accepted⟩ := deserializeOne_sound read
    have whole : record item = record found ++ (rest ++ (record item).drop room) := by
      rw [← List.append_assoc, ← start, List.take_append_drop]
    have ⟨_, shortKey, shortValue, _⟩ := accepted
    rw [ucMaxKeysize] at shortKey
    rw [ucMaxValuesize] at shortValue
    have first : deserializeOne grant (record item ++ []) =
        if Loadable grant item then some (item, []) else none :=
      deserializeOne_record sizedKey sizedValue []
    have second : deserializeOne grant (record found ++ (rest ++ (record item).drop room)) =
        if Loadable grant found then some (found, rest ++ (record item).drop room) else none :=
      deserializeOne_record (by omega) (by omega) _
    rw [← whole, if_pos accepted, ← List.append_nil (record item), first] at second
    obtain ⟨_, same⟩ := Option.ite_none_right_eq_some.mp second
    obtain ⟨_, nothing⟩ := Prod.mk.inj (Option.some.inj same)
    have missing := (List.append_eq_nil_iff.mp nothing.symm).2
    rw [List.append_nil, List.drop_eq_nil_iff] at missing
    omega

theorem deserializeAll_eq (fuel turn room : Nat) (last : Option (List UInt8)) (written : List KeyValue)
    (sized : ∀ item ∈ written, item.1.length < 2 ^ 32 ∧ item.2.length < 2 ^ 32)
    (enough : ((written.flatMap record).take room).length < fuel) :
    deserializeAll grants fuel turn last ((written.flatMap record).take room) =
      keepRecords last (recordsRead grants turn room last written) := by
  induction written generalizing fuel turn room last with
  | nil =>
    cases fuel with
    | zero => exact absurd enough (Nat.not_lt_zero _)
    | succ fuel =>
      have nothing : deserializeOne (grants turn) [] = none := rfl
      rw [List.flatMap_nil, List.take_nil, deserializeAll, nothing, recordsRead, keepRecords]
      split <;> rfl
  | cons item rest ih =>
    cases fuel with
    | zero => exact absurd enough (Nat.not_lt_zero _)
    | succ fuel =>
      obtain ⟨⟨sizedKey, sizedValue⟩, later⟩ := List.forall_mem_cons.mp sized
      have size := length_record item
      rw [List.flatMap_cons] at enough ⊢
      rw [deserializeAll, recordsRead]
      by_cases granted : (grants turn).dbdata = false
      · rw [if_pos granted, if_pos (.inr (.inl granted))]
        rfl
      rw [if_neg granted]
      by_cases short : room < (record item).length
      · rw [if_pos (.inl short), List.take_append_of_le_length (Nat.le_of_lt short),
          deserializeOne_truncated sizedKey sizedValue short]
        rfl
      · have fits := Nat.le_of_not_lt short
        rw [List.take_append, List.take_of_length_le fits] at enough ⊢
        rw [List.length_append] at enough
        rw [deserializeOne_record sizedKey sizedValue]
        by_cases loadable : Loadable (grants turn) item
        · have passed : ¬ (room < (record item).length ∨ (grants turn).dbdata = false ∨
              ¬ Loadable (grants turn) item) := by
            rintro (less | refused | unloadable)
            · exact short less
            · exact granted refused
            · exact unloadable loadable
          rw [if_pos loadable, if_neg passed]
          change (if below last item = true then _ else _) = _
          by_cases smaller : below last item = true
          · rw [if_pos smaller, if_pos smaller, keepRecords, if_pos smaller]
            exact ih fuel (turn + 1) _ last later (by omega)
          · rw [if_neg smaller, if_neg smaller]
            by_cases node : (grants turn).listnode = false
            · rw [if_pos node, if_pos node]
              rfl
            · rw [if_neg node, if_neg node, keepRecords, if_neg smaller,
                ih fuel (turn + 1) _ (some item.1) later (by omega)]
        · rw [if_neg loadable, if_pos (.inr (.inr loadable))]
          rfl

end Records

def Rising (items : List KeyValue) : Prop :=
  items.Pairwise fun first second => keycmp first.1 second.1 < 0

section Order

variable {items kept before records : List KeyValue} {item other : KeyValue}

private theorem Rising.eq_of_key (rising : Rising items) (first : item ∈ items) (second : other ∈ items)
    (same : item.1 = other.1) : item = other := by
  induction items with
  | nil => cases first
  | cons head rest ih =>
    obtain ⟨above, later⟩ := List.pairwise_cons.mp rising
    rcases List.mem_cons.mp first with rfl | inRest
    · rcases List.mem_cons.mp second with rfl | inRest'
      · rfl
      · exact absurd (same ▸ above other inRest') (not_below_self _)
    · rcases List.mem_cons.mp second with rfl | inRest'
      · exact absurd (same ▸ above item inRest) (not_below_self _)
      · exact ih later inRest inRest'

theorem Rising.eq_of_mem_iff (first : Rising items) (second : Rising kept)
    (same : ∀ item, item ∈ items ↔ item ∈ kept) : items = kept := by
  have distinct {list : List KeyValue} (rising : Rising list) : list.Nodup := by
    refine List.Pairwise.imp ?_ rising
    rintro item _ less rfl
    exact not_below_self item.1 less
  have permuted := (List.perm_ext_iff_of_nodup (distinct first) (distinct second)).mpr same
  exact permuted.eq_of_pairwise (fun _ _ _ _ less greater => absurd greater (keycmp_asymm less))
    first second

private theorem keepRecords_ge (last : List UInt8) (records : List KeyValue) :
    ∀ item ∈ keepRecords (some last) records, ¬ keycmp item.1 last < 0 := by
  induction records generalizing last with
  | nil => exact nofun
  | cons head rest ih =>
    intro item member
    rw [keepRecords] at member
    by_cases smaller : below (some last) head = true
    · rw [if_pos smaller] at member
      exact ih last item member
    · rw [if_neg smaller] at member
      have notLess : ¬ keycmp head.1 last < 0 := by
        intro less
        exact smaller (decide_eq_true less)
      rcases List.mem_cons.mp member with rfl | later
      · exact notLess
      · intro less
        exact ih head.1 item later (keycmp_lt_of_le less notLess)

theorem Rising.last (rising : Rising items) (ends : items.getLast? = some other) (member : item ∈ items) :
    item = other ∨ keycmp item.1 other.1 < 0 := by
  rcases List.eq_nil_or_concat' items with rfl | ⟨start, last, rfl⟩
  · cases ends
  · rw [List.getLast?_concat] at ends
    cases ends
    rcases List.mem_append.mp member with inStart | isLast
    · exact .inr ((List.pairwise_append.mp rising).2.2 item inStart other List.mem_cons_self)
    · exact .inl (List.mem_singleton.mp isLast)

/-- An item that is not below the last one is that one, if it is in the list, else it is above the
list. -/
theorem Rising.eq_last (rising : Rising kept) (member : item ∈ kept)
    (notLess : ∀ last, kept.getLast? = some last → ¬ keycmp item.1 last.1 < 0) :
    kept.getLast? = some item := by
  obtain ⟨last, ends⟩ := Option.isSome_iff_exists.mp
    (List.getLast?_isSome.mpr (List.ne_nil_of_mem member))
  rcases rising.last ends member with rfl | less
  · exact ends
  · exact absurd less (notLess last ends)

theorem Rising.above (risingKept : Rising kept) (rising : Rising items)
    (inside : ∀ item ∈ kept, item ∈ items) (member : item ∈ items) (fresh : item ∉ kept)
    (notLess : ∀ last, kept.getLast? = some last → ¬ keycmp item.1 last.1 < 0) :
    ∀ earlier ∈ kept, keycmp earlier.1 item.1 < 0 := by
  intro earlier earlierKept
  obtain ⟨last, ends⟩ := Option.isSome_iff_exists.mp
    (List.getLast?_isSome.mpr (List.ne_nil_of_mem earlierKept))
  have lastKept := List.mem_of_getLast? ends
  have lastLess : keycmp last.1 item.1 < 0 := by
    rcases Int.lt_trichotomy (keycmp last.1 item.1) 0 with less | equal | greater
    · exact less
    · have one := rising.eq_of_key (inside last lastKept) member (keycmp_eq_zero.mp equal)
      exact absurd (one ▸ lastKept) fresh
    · exact absurd (keycmp_swap.mp greater) (notLess last ends)
  rcases risingKept.last ends earlierKept with rfl | less
  · exact lastLess
  · exact keycmp_trans less lastLess

/-- What is kept of the records is the rising list of all items exactly if the records have
all items and are in order. The items that are kept already are those before. -/
theorem keepRecords_eq_iff (rising : Rising items) (risingKept : Rising kept)
    (same : ∀ item, item ∈ before ↔ item ∈ kept) (inside : ∀ item ∈ kept, item ∈ items)
    (all : ∀ item ∈ records, item ∈ items) :
    kept ++ keepRecords (kept.getLast?.map Prod.fst) records = items ↔
      (∀ item ∈ items, item ∈ before ++ records) ∧ InOrder before records := by
  induction records generalizing kept before with
  | nil =>
    rw [keepRecords, List.append_nil, List.append_nil, InOrder, and_true]
    constructor
    · rintro rfl item member
      exact (same item).mpr member
    · intro every
      refine risingKept.eq_of_mem_iff rising fun item => ⟨inside item, fun member => ?_⟩
      exact (same item).mp (every item member)
  | cons record rest ih =>
    obtain ⟨inItems, later⟩ := List.forall_mem_cons.mp all
    have shifted : before ++ record :: rest = before ++ [record] ++ rest := by
      rw [List.append_assoc]
      rfl
    rw [keepRecords, InOrder, shifted]
    by_cases smaller : below (kept.getLast?.map Prod.fst) record = true
    · -- the record is dropped: it must have been kept before
      obtain ⟨kd, atLast, less⟩ := Option.any_eq_true _ _ |>.mp smaller
      obtain ⟨last, ends, rfl⟩ := Option.map_eq_some_iff.mp atLast
      rw [decide_eq_true_iff] at less
      have lastKept := List.mem_of_getLast? ends
      have lastBefore := (same last).mpr lastKept
      rw [if_pos smaller]
      by_cases member : record ∈ kept
      · have ordered : (∀ earlier ∈ before, keycmp earlier.1 record.1 < 0) ∨
            (record ∈ before ∧ ∃ earlier ∈ before, keycmp record.1 earlier.1 < 0) :=
          .inr ⟨(same record).mpr member, last, lastBefore, less⟩
        have same' : ∀ item, item ∈ before ++ [record] ↔ item ∈ kept := by
          intro item
          rw [List.mem_append, List.mem_singleton, same item]
          constructor
          · rintro (inKept | rfl)
            · exact inKept
            · exact member
          · exact .inl
        rw [ih risingKept same' inside later]
        exact and_congr_right fun _ => (and_iff_right ordered).symm
      · refine iff_of_false ?_ ?_
        · rintro rfl
          rcases List.mem_append.mp inItems with inKept | inLater
          · exact member inKept
          · rw [ends] at inLater
            exact keepRecords_ge last.1 rest record inLater less
        · rintro ⟨_, first | ⟨again, _⟩, _⟩
          · exact keycmp_asymm less (first last lastBefore)
          · exact member ((same record).mp again)
    · rw [if_neg smaller]
      have notLess : ∀ last, kept.getLast? = some last → ¬ keycmp record.1 last.1 < 0 := by
        intro last ends less
        apply smaller
        rw [ends]
        exact decide_eq_true less
      by_cases again : record ∈ kept
      · -- it has the key of the last record, which then stands there twice
        have ends := risingKept.eq_last again notLess
        refine iff_of_false ?_ ?_
        · rintro rfl
          exact not_below_self _ ((List.pairwise_append.mp rising).2.2 record again record
            List.mem_cons_self)
        · rintro ⟨_, first | ⟨_, earlier, member, less⟩, _⟩
          · exact not_below_self _ (first record ((same record).mpr again))
          · rcases risingKept.last ends ((same earlier).mp member) with rfl | smallerKey
            · exact not_below_self _ less
            · exact keycmp_asymm less smallerKey
      · have above := risingKept.above rising inside inItems again notLess
        have ordered : (∀ earlier ∈ before, keycmp earlier.1 record.1 < 0) ∨
            (record ∈ before ∧ ∃ earlier ∈ before, keycmp record.1 earlier.1 < 0) :=
          .inl fun earlier member => above earlier ((same earlier).mp member)
        have rising' : Rising (kept ++ [record]) := by
          refine List.pairwise_append.mpr ⟨risingKept, List.pairwise_singleton _ _, ?_⟩
          intro earlier member other isRecord
          rw [List.mem_singleton.mp isRecord]
          exact above earlier member
        have same' : ∀ item, item ∈ before ++ [record] ↔ item ∈ kept ++ [record] := by
          intro item
          rw [List.mem_append, List.mem_append, same item]
        have inside' : ∀ item ∈ kept ++ [record], item ∈ items := by
          intro item member
          rcases List.mem_append.mp member with inKept | isRecord
          · exact inside item inKept
          · rw [List.mem_singleton.mp isRecord]
            exact inItems
        have step := ih rising' same' inside' later
        rw [List.getLast?_concat, List.append_assoc] at step
        refine Iff.trans step ?_
        exact and_congr_right fun _ => (and_iff_right ordered).symm

end Order

/-- What a save and an open meet: how many octets the file takes, if it can be opened; whether
there is memory for the opened store, and whether the file can be read; and the answers of
the pools. -/
structure Medium where
  room : Option Nat
  instance_ : Bool
  readable : Bool
  grants : Nat → LoadGrant

def saveThenOpen [DecidableEq ν] (db : Simpledb ν) (medium : Medium) (keyranges : List KeyRange) :
    Option (Int × Option (List KeyValue)) := do
  let (res, file) ← db.simpledbSavedata medium.room keyranges
  some (res, simpledbOpen medium.instance_ medium.grants (if medium.readable then file else none))

def selectedItems (items : List KeyValue) (keyranges : List KeyRange) : List KeyValue :=
  items.filter fun item => keyranges.any fun keyrange => keyrange.contains item.1

def Preserves [DecidableEq ν] (db : Simpledb ν) (items : List KeyValue) (medium : Medium)
    (keyranges : List KeyRange) : Prop :=
  ∃ res opened, saveThenOpen db medium keyranges = some (res, opened) ∧
    (res = 0 → ∀ loaded ∈ opened, loaded = selectedItems items keyranges)

/-- If no error is reported, all items of the ranges are among the records that are read, and
these are in order; without a file to read there are no such items. -/
def RestoreCondition (items : List KeyValue) (medium : Medium) (keyranges : List KeyRange) : Prop :=
  ∀ room ∈ medium.room, medium.instance_ = true →
    if medium.readable then
      let records := recordsRead medium.grants 0 room none (writtenItems items keyranges)
      (∀ item ∈ selectedItems items keyranges, item ∈ records) ∧ InOrder [] records
    else selectedItems items keyranges = []

section Restore

variable {ν : Type} {db : Simpledb ν} {items : List KeyValue} {medium : Medium}
  {keyranges : List KeyRange}

theorem rising_of_contents (sorted : db.Sorted nodes)
    (contents : nodes.map db.content = items.map some) : Rising items := by
  have keys : ∀ nodes : List ν, ∀ items : List KeyValue, nodes.map db.content = items.map some →
      items.map Prod.fst = nodes.map db.key := by
    intro nodes
    induction nodes with
    | nil =>
      intro items contents
      rw [List.map_eq_nil_iff.mp contents.symm]
      rfl
    | cons node rest ih =>
      intro items contents
      cases items with
      | nil => cases contents
      | cons item later =>
        obtain ⟨here, others⟩ := List.cons.inj contents
        obtain ⟨_, _, _, _, key⟩ := content_eq here
        rw [List.map_cons, List.map_cons, key, ih later others]
  have increasing : (items.map Prod.fst).Pairwise fun first second => keycmp first second < 0 := by
    rw [keys nodes items contents]
    exact List.pairwise_map.mpr sorted.increasing
  exact List.pairwise_map.mp increasing

theorem value_lt {nodes : List ν} (contents : nodes.map db.content = items.map some) :
    ∀ item ∈ items, item.2.length < 2 ^ 32 := by
  intro item member
  have there : some item ∈ nodes.map db.content := by
    rw [contents]
    exact List.mem_map_of_mem member
  obtain ⟨node, _, found⟩ := List.mem_map.mp there
  obtain ⟨dbd, _, _, read, _⟩ := content_eq found
  have small := dbd.vsize.toNat_lt
  rw [Dbdata.read] at read
  split at read
  · rw [← Option.some.inj read]
    exact Nat.two_pow_pos 32
  · split at read
    · cases read
    · obtain ⟨enough, same⟩ := Option.ite_none_right_eq_some.mp read
      rw [← Option.some.inj same, List.length_take]
      omega

theorem writtenItems_selected (items : List KeyValue) (keyranges : List KeyRange) :
    ∀ item ∈ writtenItems items keyranges, item ∈ selectedItems items keyranges := by
  induction keyranges with
  | nil => exact nofun
  | cons keyrange rest ih =>
    intro item member
    rw [writtenItems] at member
    have later : item ∈ selectedItems items rest → item ∈ selectedItems items (keyrange :: rest) := by
      intro chosen
      obtain ⟨inItems, inRest⟩ := List.mem_filter.mp chosen
      refine List.mem_filter.mpr ⟨inItems, ?_⟩
      rw [List.any_cons, inRest, Bool.or_true]
    split at member
    · cases member
    · split at member
      · cases member
      · rcases List.mem_append.mp member with here | after
        · obtain ⟨inItems, inRange⟩ := List.mem_filter.mp here
          refine List.mem_filter.mpr ⟨inItems, ?_⟩
          rw [List.any_cons, inRange, Bool.true_or]
        · exact later (ih item after)

theorem recordsRead_subset (grants : Nat → LoadGrant) (turn room : Nat) (last : Option (List UInt8))
    (written : List KeyValue) : ∀ item ∈ recordsRead grants turn room last written, item ∈ written := by
  induction written generalizing turn room last with
  | nil => exact nofun
  | cons head rest ih =>
    intro item member
    rw [recordsRead] at member
    split at member
    · cases member
    · split at member
      · rcases List.mem_cons.mp member with rfl | later
        · exact List.mem_cons_self
        · exact List.mem_cons_of_mem _ (ih _ _ _ item later)
      · split at member
        · cases member
        · rcases List.mem_cons.mp member with rfl | later
          · exact List.mem_cons_self
          · exact List.mem_cons_of_mem _ (ih _ _ _ item later)

theorem opened_eq [DecidableEq ν] (contains : db.Contains items) (opens : medium.room = some room) :
    saveThenOpen db medium keyranges =
      some (0, if medium.instance_ = false then none else some (if medium.readable then
        keepRecords none (recordsRead medium.grants 0 room none (writtenItems items keyranges))
        else [])) := by
  obtain ⟨nodes, sorted, contents⟩ := contains.nodes
  have sized : ∀ item ∈ writtenItems items keyranges, item.1.length < 2 ^ 32 ∧ item.2.length < 2 ^ 32 := by
    intro item member
    have inItems := (List.mem_filter.mp (writtenItems_selected items keyranges item member)).1
    exact ⟨contains.sized item inItems, value_lt contents item inItems⟩
  simp only [saveThenOpen, Simpledb.simpledbSavedata, opens, savedataLoop_eq sorted contents,
    Option.map_some, Option.bind_eq_bind, Option.bind_some, simpledbOpen]
  have content : (OutFile.add ⟨[], room⟩ ((writtenItems items keyranges).flatMap record)).content =
    ((writtenItems items keyranges).flatMap record).take room := rfl
  rw [content]
  cases medium.instance_ with
  | false => rfl
  | true =>
    cases medium.readable with
    | false => rfl
    | true =>
      simp only [Bool.true_eq_false, if_false, if_true,
        deserializeAll_eq _ 0 room none _ sized (Nat.lt_succ_self _)]

/-- **Saving and opening restores exactly the items of the ranges, or reports an error, if and
only if the records that are read have all these items and are in order.** -/
theorem save_restores_iff [DecidableEq ν] (db : Simpledb ν) (items : List KeyValue)
    (medium : Medium) (keyranges : List KeyRange) (contains : db.Contains items) :
    Preserves db items medium keyranges ↔ RestoreCondition items medium keyranges := by
  rw [RestoreCondition]
  cases opens : medium.room with
  | none =>
    refine iff_of_true ⟨-1, simpledbOpen medium.instance_ medium.grants
      (if medium.readable then none else none), ?_, fun zero => absurd zero (by decide)⟩ nofun
    simp only [saveThenOpen, Simpledb.simpledbSavedata, opens]
    rfl
  | some room =>
    obtain ⟨nodes, sorted, contents⟩ := contains.nodes
    have rising : Rising (selectedItems items keyranges) :=
      List.Pairwise.filter _ (rising_of_contents sorted contents)
    simp only [Preserves, opened_eq contains opens, Option.mem_def, Option.some.injEq, forall_eq']
    cases medium.instance_ with
    | false => exact iff_of_true ⟨0, none, rfl, fun _ => nofun⟩ nofun
    | true =>
      have loads (loaded : List KeyValue) : (∃ res opened, ((0 : Int), some loaded) = (res, opened) ∧
            (res = 0 → ∀ found, opened = some found → found = selectedItems items keyranges)) ↔
          loaded = selectedItems items keyranges := by
        constructor
        · rintro ⟨res, opened, same, all⟩
          cases same
          exact all rfl loaded rfl
        · rintro rfl
          refine ⟨0, some (selectedItems items keyranges), rfl, ?_⟩
          intro _ found same
          exact (Option.some.inj same).symm
      have all : ∀ item ∈ recordsRead medium.grants 0 room none (writtenItems items keyranges),
          item ∈ selectedItems items keyranges := fun item member =>
        writtenItems_selected items keyranges item (recordsRead_subset _ _ _ _ _ item member)
      simp only [Bool.true_eq_false, if_false, loads, forall_const]
      cases medium.readable with
      | false =>
        exact eq_comm
      | true =>
        exact keepRecords_eq_iff rising .nil (fun _ => Iff.rfl) nofun all

end Restore

theorem Represents.items {ν : Type} {db : Simpledb ν} {nodes : List ν} {table : Table}
    (represents : Represents db nodes table) :
    ∃ items : List KeyValue, nodes.map db.content = items.map some ∧
      ∀ item, item ∈ items ↔ (table item.1).map Entry.value = some item.2 := by
  have stored : ∀ node ∈ nodes, ∃ entry, table (db.key node) = some entry ∧
      db.content node = some (db.key node, entry.value) := by
    intro node member
    obtain ⟨dbd, data⟩ := Option.isSome_iff_exists.mp (represents.sorted.stored node member)
    obtain ⟨entry, there, holds⟩ := represents.holds node member dbd data
    rw [key_eq data]
    refine ⟨entry, there, ?_⟩
    rw [Simpledb.content, data, Option.bind_some, holds.read]
    rfl
  refine ⟨nodes.map fun node => (db.key node, ((table (db.key node)).map Entry.value).getD []),
    ?_, ?_⟩
  · rw [List.map_map]
    refine List.map_congr_left fun node member => ?_
    obtain ⟨entry, there, content⟩ := stored node member
    rw [content, Function.comp_apply, there]
    rfl
  · intro item
    constructor
    · intro member
      obtain ⟨node, inNodes, rfl⟩ := List.mem_map.mp member
      obtain ⟨entry, there, _⟩ := stored node inNodes
      simp only [there, Option.map_some, Option.getD_some]
    · intro value
      obtain ⟨entry, there, same⟩ := Option.map_eq_some_iff.mp value
      obtain ⟨node, inNodes, key⟩ := represents.reached item.1 entry there
      refine List.mem_map.mpr ⟨node, inNodes, Prod.ext key ?_⟩
      simp only [key, there, Option.map_some, Option.getD_some, same]

def twoItems : Simpledb Nat where
  heap node := if node = 0 then some ⟨some 1, none⟩ else if node = 1 then some ⟨none, some 0⟩ else none
  data node := if node = 0 then some ⟨0, [1], 1, some [5]⟩
    else if node = 1 then some ⟨0, [3], 1, some [6]⟩ else none
  dblist := ⟨some 0, some 1, 2⟩

theorem twoItems_contains : twoItems.Contains [([1], [5]), ([3], [6])] where
  nodes := ⟨[0, 1], {
      linked := {
        segment := ⟨rfl, rfl, trivial⟩
        nodup := by decide
        head := rfl
        tail := rfl
        count := rfl }
      stored := by decide
      increasing := by decide }, rfl⟩
  sized := by decide

def plenty : Medium where
  room := some 1000
  instance_ := true
  readable := true
  grants _ := ⟨true, true, true, true⟩

theorem save_restores_two : Preserves twoItems [([1], [5]), ([3], [6])] plenty
    [⟨none, some [2]⟩, ⟨some [3], some [9]⟩] := by
  refine (save_restores_iff twoItems _ plenty _ twoItems_contains).mpr ?_
  intro room given _
  cases given
  decide

/-- A range without items in front of the range of all items: the save succeeds, and the opened
store is empty. -/
theorem empty_range_ends : ¬ ∀ (db : Simpledb Nat) (items : List KeyValue) (medium : Medium)
    (keyranges : List KeyRange), db.Contains items → Preserves db items medium keyranges := by
  intro always
  obtain ⟨res, opened, ran, restores⟩ := always twoItems _ plenty
    [⟨some [2], some [2]⟩, ⟨some [1], some [3]⟩] twoItems_contains
  have evaluated : saveThenOpen twoItems plenty [⟨some [2], some [2]⟩, ⟨some [1], some [3]⟩] =
      some (0, some []) := by decide +kernel
  cases ran
  have same := restores rfl [] rfl
  exact absurd same (by decide)

end EnetTsn.Uniconf
