import EnetTsn.Uniconf.BinconfEncoding

namespace EnetTsn.Uniconf

open EnetTsn.Library

/-- `uc_binconf_set_kvdata` for one item after the other, as long as each is accepted. -/
def setItems (bc : BcData) : List BinItem → Option BcData
  | [] => some bc
  | item :: rest =>
    match ucBinconfSetKvdata bc item.key item.action.vdata item.action.vsize with
    | some (next, 0) => setItems next rest
    | _ => none

def recorder : Dbal (List Write) := fun log write => (log ++ [write], true)

/-- How a decoder ends: a part did not fit in its chunk, or was answered by an error or left
the buffers, or all parts went well. -/
inductive Fed where
  | refused
  | failed
  | done (bc : BcData) (log : List Write)

/-- `uc_binconf_set_bindata` and `uc_binconf_write_chunk` for one part after the other. -/
def feed (bc : BcData) (log : List Write) : List (List UInt8) → Fed
  | [] => .done bc log
  | piece :: rest =>
    let (given, setsize) := ucBinconfSetBindata bc piece
    if setsize ≠ piece.length then .refused
    else
      match ucBinconfWriteChunk recorder given log with
      | none => .failed
      | some (next, written, res) => if res < 0 then .failed else feed next written rest

/-- The items that the writes make, the latest one first: the rest of a value belongs to the
item before it. -/
def addWrite (items : List (List UInt8 × Operation)) : Write → List (List UInt8 × Operation)
  | .create key value => (key, .create value) :: items
  | .append key value => (key, .append value) :: items
  | .del key => (key, .delete) :: items
  | .rest key value =>
    match items with
    | (last, .create start) :: earlier =>
      if last = key then (last, .create (start ++ value)) :: earlier
      else (key, .append value) :: items
    | (last, .append start) :: earlier =>
      if last = key then (last, .append (start ++ value)) :: earlier
      else (key, .append value) :: items
    | _ => (key, .append value) :: items

def assemble (log : List Write) : List (List UInt8 × Operation) :=
  (log.foldl addWrite []).reverse

def Decodes (octets : List UInt8) (items : List (List UInt8 × Operation)) : Prop :=
  ∀ chunkSize pieces, pieces.flatten = octets →
    feed (ucBinconfInit chunkSize) [] pieces ≠ .refused →
    ∃ bc log, feed (ucBinconfInit chunkSize) [] pieces = .done bc log ∧ assemble log = items

def encodedAtMost (items : List BinItem) : Nat :=
  (items.map fun item => 4 + item.key.length + 2 + item.action.value.length).sum

/-- The round trip: where there is room the items are accepted, and what the encoder has made
of accepted items decodes to them. -/
def RoundTrips (items : List BinItem) : Prop :=
  ∀ chunkSize, (encodedAtMost items ≤ chunkSize →
      ∃ bc, setItems (ucBinconfInit chunkSize) items = some bc) ∧
    ∀ bc, setItems (ucBinconfInit chunkSize) items = some bc →
      Decodes bc.chunk (items.map BinItem.content)

/-- No key is encoded after one with which its common beginning and its common end overlap. -/
def KeysApart (last : List UInt8) : List BinItem → Prop
  | [] => True
  | item :: rest => Apart last item.key ∧ KeysApart item.key rest

def encodeItems (last : List UInt8) : List BinItem → List UInt8
  | [] => []
  | item :: rest => encodeItem last item ++ encodeItems item.key rest

def BinItem.sent (item : BinItem) : List UInt8 × Operation := (item.key, item.action.sent)

section Encoder

variable {bc : BcData} {items : List BinItem}

theorem setItems_chunk (last_lt : bc.lkey.length < ucMaxKeysize) (after : BcData)
    (accepted : setItems bc items = some after) :
    KeysApart bc.lkey items ∧ after.chunk = bc.chunk ++ encodeItems bc.lkey items := by
  induction items generalizing bc with
  | nil =>
    cases accepted
    exact ⟨trivial, (List.append_nil _).symm⟩
  | cons item rest ih =>
    rw [setItems] at accepted
    split at accepted
    · rename_i next first
      have apart : Apart bc.lkey item.key := by
        by_contra overlap
        exact setKvdata_overlap last_lt overlap next first
      rw [setKvdata_apart last_lt apart] at first
      split at first
      · have code := congrArg Prod.snd (Option.some.inj first)
        split at code <;> simp at code
      · cases first
        obtain ⟨later, chunk⟩ := ih item.key_lt accepted
        exact ⟨⟨apart, later⟩, by rw [chunk, encodeItems, List.append_assoc]⟩
    · cases accepted

private theorem length_encodeItem_le (last : List UInt8) (item : BinItem) :
    (encodeItem last item).length ≤ 4 + item.key.length + 2 + item.action.value.length := by
  rw [length_encodeItem]
  omega

private theorem setItems_accepted (last_lt : bc.lkey.length < ucMaxKeysize) (apart : KeysApart bc.lkey items)
    (room : bc.chunk.length + encodedAtMost items ≤ bc.chunkSize) :
    ∃ after, setItems bc items = some after := by
  induction items generalizing bc with
  | nil => exact ⟨bc, rfl⟩
  | cons item rest ih =>
    have size := length_encodeItem_le bc.lkey item
    rw [encodedAtMost, List.map_cons, List.sum_cons] at room
    rw [setItems, setKvdata_apart last_lt apart.1, if_neg (by omega)]
    refine ih item.key_lt apart.2 ?_
    rw [List.length_append, encodedAtMost]
    change _ ≤ bc.chunkSize
    omega

end Encoder

section Log

variable {items : List (List UInt8 × Operation)} {key : List UInt8}

private theorem addWrite_rest_rest (key first second : List UInt8) :
    addWrite (addWrite items (.rest key first)) (.rest key second) =
      addWrite items (.rest key (first ++ second)) := by
  rcases items with _ | ⟨⟨last, action⟩, earlier⟩
  · simp [addWrite]
  · cases action with
    | create start =>
      by_cases same : last = key
      · simp [addWrite, same]
      · simp [addWrite, same]
    | append start =>
      by_cases same : last = key
      · simp [addWrite, same]
      · simp [addWrite, same]
    | delete => simp [addWrite]

theorem assemble_append (log : List Write) (write : Write) :
    assemble (log ++ [write]) = (addWrite (assemble log).reverse write).reverse := by
  simp [assemble]

private theorem assemble_rest_rest (log : List Write) (key first second : List UInt8) :
    assemble (log ++ [.rest key first] ++ [.rest key second]) =
      assemble (log ++ [.rest key (first ++ second)]) := by
  rw [assemble_append, assemble_append, assemble_append, List.reverse_reverse, addWrite_rest_rest]

theorem addWrite_item {item : BinItem} (keyed : bc.lkey = item.key)
    (sized : bc.vsize = item.action.vsize) :
    addWrite items (itemWrite bc item.action.value) = item.sent :: items := by
  have short := item.value_lt
  rw [itemWrite, keyed, sized, BinItem.sent]
  cases chosen : item.action with
  | create value =>
    rw [chosen] at short
    have size : (Operation.create value).vsize.toNat = value.length := by
      exact Nat.mod_eq_of_lt (by simp only [Operation.value] at short; omega)
    cases value with
    | nil => rfl
    | cons octet rest =>
      have filled : (Operation.create (octet :: rest)).vsize ≠ 0 := by
        intro zero
        rw [zero] at size
        cases size
      have fresh : vsizeAppend (Operation.create (octet :: rest)).vsize ≠ true := by
        rw [ne_eq, vsizeAppend_iff, size]
        simp only [Operation.value] at short
        omega
      rw [if_neg filled, if_neg fresh]
      rfl
  | append value =>
    rw [chosen] at short
    have size : (Operation.append value).vsize.toNat = 2 ^ 15 + value.length :=
      append_vsize_toNat short
    have filled : (Operation.append value).vsize ≠ 0 := by
      intro zero
      rw [zero, UInt16.toNat_zero] at size
      omega
    have more : vsizeAppend (Operation.append value).vsize = true := by
      rw [vsizeAppend_iff, size]
      omega
    rw [if_neg filled, if_pos more]
    rfl
  | delete => rfl

private theorem addWrite_part (part more : List UInt8) (filled : bc.vsize ≠ 0) :
    addWrite (addWrite items (itemWrite bc part)) (.rest bc.lkey more) =
      addWrite items (itemWrite bc (part ++ more)) := by
  rw [itemWrite, itemWrite, if_neg filled, if_neg filled]
  by_cases flag : vsizeAppend bc.vsize = true
  · rw [if_pos flag, if_pos flag]
    simp [addWrite]
  · rw [if_neg flag, if_neg flag]
    simp [addWrite]

end Log

/-- How far a decoder is, before the octets that have not come yet: between two items, of
which the next one is not complete, or inside a value. -/
inductive Progress (bc : BcData) (log : List Write) (coming : List UInt8) (items : List BinItem) : Prop
  | between (past left : List BinItem) : items = past ++ left → bc.apdsize = 0 →
      bc.chunk ++ coming = encodeItems bc.lkey left → KeysApart bc.lkey left →
      bc.lkey.length < ucMaxKeysize → assemble log = past.map BinItem.sent →
      (∀ item ∈ left.head?, bc.chunk.length < (encodeItem bc.lkey item).length) →
      Progress bc log coming items
  | inside (past left : List BinItem) (value : List UInt8) : items = past ++ left →
      value.length = bc.apdsize.toNat → value ≠ [] → bc.chunk = [] →
      coming = value ++ encodeItems bc.lkey left → KeysApart bc.lkey left →
      bc.lkey.length < ucMaxKeysize →
      assemble (log ++ [.rest bc.lkey value]) = past.map BinItem.sent →
      Progress bc log coming items

section Decoder

variable {bc : BcData} {log : List Write} {coming : List UInt8} {items left past : List BinItem}

theorem encodeItem_pos (last : List UInt8) (item : BinItem) : 0 < (encodeItem last item).length := by
  rw [length_encodeItem]
  omega

section Turn

variable {rpt : Nat} {item : BinItem} {more : List UInt8}

theorem setDbitem_complete (whole : bc.apdsize = 0)
    (octets : bc.chunk.drop rpt ++ coming = encodeItem bc.lkey item ++ more)
    (apart : Apart bc.lkey item.key) (last_lt : bc.lkey.length < ucMaxKeysize)
    (enough : (encodeItem bc.lkey item).length ≤ (bc.chunk.drop rpt).length) :
    ∃ read, setDbitem bc rpt = some (read, rpt + (encodeItem bc.lkey item).length, 0) ∧
      read.chunk = bc.chunk ∧ read.lkey = item.key ∧ read.vsize = item.action.vsize ∧
      read.apdsize = 0 ∧ slice read.chunk read.vdata
        (sub32 (vsizeSize read.vsize) read.apdsize.toNat) = some item.action.value := by
  have full := readHeader_encodeItem last_lt apart more
  have key := newKey_encodeItem apart more
  have value := drop_valueAt apart more
  have size := itemHeader_size bc.lkey item
  rw [← octets] at full key value
  have vsize : vsizeSize (itemHeader bc.lkey item).vsize = item.action.value.length :=
    vsizeSize_vsize item.value_lt
  have parts : (itemHeader bc.lkey item).size = (itemHeader bc.lkey item).valueAt +
      item.action.value.length := by
    rw [← vsize]
    rfl
  obtain ⟨found, same⟩ := (readHeader_append full).2 (by omega)
  obtain ⟨pb_le, inside⟩ := inLkey_encodeItem apart
  have length := List.length_drop (i := rpt) (l := bc.chunk)
  have some_ := encodeItem_pos bc.lkey item
  have ends : ¬ bc.chunk.length < rpt + (itemHeader bc.lkey item).size := by omega
  refine ⟨bc.taken (itemHeader bc.lkey item) rpt, ?_, rfl, ?_, rfl, ?_, ?_⟩
  · rw [setDbitem_found found, if_neg (Nat.not_lt.mpr pb_le), if_neg (fun short => ends short.1),
      if_pos inside, Nat.min_eq_right (Nat.le_of_not_lt ends), size]
  · exact (same bc.lkey).trans key
  · exact (if_neg ends).trans whole
  · have apdsize : (bc.taken (itemHeader bc.lkey item) rpt).apdsize = 0 := (if_neg ends).trans whole
    rw [apdsize]
    change slice bc.chunk (rpt + (itemHeader bc.lkey item).valueAt)
      (sub32 (vsizeSize (itemHeader bc.lkey item).vsize) 0) = _
    have short := item.value_lt
    rw [vsize, sub32, if_pos (Nat.zero_le _), Nat.sub_zero, slice_of_le (by omega),
      ← List.drop_drop]
    rw [List.drop_append_of_le_length (by omega)] at value
    have front := congrArg (List.take item.action.value.length) value
    rw [List.take_left' rfl, List.take_append_of_le_length (by rw [List.length_drop]; omega)] at front
    rw [front]

theorem setDbitem_waiting (octets : bc.chunk.drop rpt ++ coming = encodeItem bc.lkey item ++ more)
    (apart : Apart bc.lkey item.key) (last_lt : bc.lkey.length < ucMaxKeysize)
    (short : (bc.chunk.drop rpt).length < (encodeItem bc.lkey item).length)
    (waits : rpt ≠ 0 ∨ (bc.chunk.drop rpt).length < (itemHeader bc.lkey item).valueAt)
    (below : rpt ≤ bc.chunk.length) :
    ∃ read next, setDbitem bc rpt = some (read, next, 1) ∧ read.chunk = bc.chunk ∧
      read.lkey = bc.lkey ∧ read.apdsize = bc.apdsize := by
  have full := readHeader_encodeItem last_lt apart more
  have size := itemHeader_size bc.lkey item
  rw [← octets] at full
  obtain ⟨none, found⟩ := readHeader_append full
  have length := List.length_drop (i := rpt) (l := bc.chunk)
  by_cases head : (bc.chunk.drop rpt).length < (itemHeader bc.lkey item).valueAt
  · obtain ⟨next, result⟩ := setDbitem_incomplete (none head)
    exact ⟨bc, next, result, rfl, rfl, rfl⟩
  · obtain ⟨pb_le, _⟩ := inLkey_encodeItem apart
    have later := waits.resolve_right head
    refine ⟨bc.sized (itemHeader bc.lkey item) rpt, rpt + (itemHeader bc.lkey item).size, ?_,
      rfl, rfl, rfl⟩
    rw [setDbitem_found (found (by omega)).1, if_neg (Nat.not_lt.mpr pb_le),
      if_pos ⟨by omega, later⟩]

theorem setDbitem_first (octets : bc.chunk ++ coming = encodeItem bc.lkey item ++ more)
    (apart : Apart bc.lkey item.key) (last_lt : bc.lkey.length < ucMaxKeysize)
    (short : bc.chunk.length < (encodeItem bc.lkey item).length)
    (begun : (itemHeader bc.lkey item).valueAt ≤ bc.chunk.length) :
    ∃ read part rest, setDbitem bc 0 = some (read, bc.chunk.length, 0) ∧
      read.chunk = bc.chunk ∧ read.lkey = item.key ∧ read.vsize = item.action.vsize ∧
      read.apdsize.toNat = rest.length ∧ slice read.chunk read.vdata
        (sub32 (vsizeSize read.vsize) read.apdsize.toNat) = some part ∧
      item.action.value = part ++ rest ∧ coming = rest ++ more ∧ rest ≠ [] := by
  have full := readHeader_encodeItem last_lt apart more
  have key := newKey_encodeItem apart more
  have value := drop_valueAt apart more
  have size := itemHeader_size bc.lkey item
  rw [← octets] at full key value
  have vsize : vsizeSize (itemHeader bc.lkey item).vsize = item.action.value.length :=
    vsizeSize_vsize item.value_lt
  have parts : (itemHeader bc.lkey item).size = (itemHeader bc.lkey item).valueAt +
      item.action.value.length := by
    rw [← vsize]
    rfl
  obtain ⟨found, same⟩ := (readHeader_append full).2 begun
  have start : readHeader (bc.chunk.drop 0) = some (itemHeader bc.lkey item) := found
  obtain ⟨pb_le, inside⟩ := inLkey_encodeItem apart
  have value_lt := item.value_lt
  have open_ : bc.chunk.length < 0 + (itemHeader bc.lkey item).size := by omega
  have length := List.length_drop (i := (itemHeader bc.lkey item).valueAt) (l := bc.chunk)
  have missing : (UInt16.ofNat (0 + (itemHeader bc.lkey item).size - bc.chunk.length)).toNat =
      (itemHeader bc.lkey item).size - bc.chunk.length := by
    rw [UInt16.toNat_ofNat', Nat.zero_add]
    exact Nat.mod_eq_of_lt (by omega)
  rw [List.drop_append_of_le_length begun] at value
  rcases List.append_eq_append_iff.mp value with ⟨rest, split, came⟩ | ⟨excess, split, _⟩
  · have lengths := congrArg List.length split
    rw [List.length_append] at lengths
    have apdsize : (bc.taken (itemHeader bc.lkey item) 0).apdsize.toNat = rest.length := by
      have read : (bc.taken (itemHeader bc.lkey item) 0).apdsize =
          UInt16.ofNat (0 + (itemHeader bc.lkey item).size - bc.chunk.length) := if_pos open_
      rw [read, missing]
      omega
    refine ⟨bc.taken (itemHeader bc.lkey item) 0, bc.chunk.drop (itemHeader bc.lkey item).valueAt,
      rest, ?_, rfl, (same bc.lkey).trans key, rfl, apdsize, ?_, split, came, ?_⟩
    · rw [setDbitem_found start, if_neg (Nat.not_lt.mpr pb_le), if_neg (fun later => later.2 rfl),
        if_pos inside, Nat.min_eq_left (Nat.le_of_lt open_)]
    · rw [apdsize]
      change slice bc.chunk (0 + (itemHeader bc.lkey item).valueAt)
        (sub32 (vsizeSize (itemHeader bc.lkey item).vsize) rest.length) = _
      rw [vsize, sub32, if_pos (by omega), Nat.zero_add, slice_of_le (by omega),
        List.take_of_length_le (by omega)]
    · rintro rfl
      rw [List.length_nil] at lengths
      omega
  · have lengths := congrArg List.length split
    rw [List.length_append] at lengths
    omega

end Turn

theorem assemble_item {read : BcData} (keyed : read.lkey = item.key)
    (sized : read.vsize = item.action.vsize) (written : assemble log = past.map BinItem.sent) :
    assemble (log ++ [itemWrite read item.action.value]) = (past ++ [item]).map BinItem.sent := by
  rw [assemble_append, addWrite_item keyed sized, List.reverse_cons, List.reverse_reverse, written,
    List.map_append]
  rfl

theorem assemble_parts {read : BcData} (keyed : read.lkey = item.key)
    (sized : read.vsize = item.action.vsize) (split : item.action.value = part ++ rest)
    (some_ : rest ≠ []) (written : assemble log = past.map BinItem.sent) :
    assemble (log ++ [itemWrite read part] ++ [.rest read.lkey rest]) =
      (past ++ [item]).map BinItem.sent := by
  have filled : read.vsize ≠ 0 := by
    intro zero
    have size := vsizeSize_vsize item.value_lt
    rw [← sized, zero, split, List.length_append] at size
    have positive := List.length_pos_iff.mpr some_
    change 0 = _ at size
    omega
  have whole := assemble_item keyed sized written
  rw [split, assemble_append] at whole
  rw [assemble_append, assemble_append, List.reverse_reverse, addWrite_part part rest filled]
  exact whole

section Loop

variable {σ : Type} {dbal : Dbal σ} {db written : σ} {read : BcData} {next : Nat}

theorem writeItems_turn (fuel rpt count : Nat) (more : rpt < bc.chunk.length)
    (result : setDbitem bc rpt = some (read, next, 0))
    (found : slice read.chunk read.vdata (sub32 (vsizeSize read.vsize) read.apdsize.toNat) = some value)
    (accepted : dbal db (itemWrite read value) = (written, true)) :
    writeItems dbal (fuel + 1) bc db rpt last count =
      writeItems dbal fuel read written next next (count + 1) := by
  rw [writeItems, if_pos more]
  simp only [result, Option.bind_eq_bind, Option.bind_some, found, accepted, Int.lt_irrefl,
    if_false, ne_eq, not_true_eq_false, if_true]

private theorem writeItems_stop (fuel rpt count : Nat) (more : rpt < bc.chunk.length)
    (result : setDbitem bc rpt = some (read, next, 1)) :
    writeItems dbal (fuel + 1) bc db rpt last count = some (read, db, last, .ok count) := by
  have positive : ¬ (1 : Int) < 0 := by decide
  have nonzero : (1 : Int) ≠ 0 := by decide
  rw [writeItems, if_pos more]
  simp only [result, Option.bind_eq_bind, Option.bind_some, if_neg positive, if_pos nonzero]

end Loop

theorem writeItems_progress (fuel rpt count : Nat) (whole : bc.apdsize = 0)
    (below : rpt ≤ bc.chunk.length) (enough : bc.chunk.length < rpt + fuel)
    (octets : bc.chunk.drop rpt ++ coming = encodeItems bc.lkey left)
    (apart : KeysApart bc.lkey left) (last_lt : bc.lkey.length < ucMaxKeysize)
    (written : assemble log = past.map BinItem.sent) :
    ∃ after log' last count', writeItems recorder fuel bc log rpt rpt count =
        some (after, log', last, .ok count') ∧
      Progress { after with chunk := after.chunk.drop last } log' coming (past ++ left) := by
  induction fuel generalizing bc log rpt count left past with
  | zero => omega
  | succ fuel ih =>
    by_cases ended : bc.chunk.length ≤ rpt
    · rw [writeItems, if_neg (Nat.not_lt.mpr ended)]
      refine ⟨bc, log, rpt, count, rfl, .between past left rfl whole octets apart last_lt written ?_⟩
      intro item _
      rw [List.drop_eq_nil_of_le ended]
      exact encodeItem_pos _ _
    · have length := List.length_drop (i := rpt) (l := bc.chunk)
      cases left with
      | nil =>
        have nothing := (List.append_eq_nil_iff.mp octets).1
        rw [nothing, List.length_nil] at length
        omega
      | cons item rest =>
        have some_ := encodeItem_pos bc.lkey item
        by_cases complete : (encodeItem bc.lkey item).length ≤ (bc.chunk.drop rpt).length
        · obtain ⟨read, result, chunk, lkey, vsize, apdsize, value⟩ :=
            setDbitem_complete whole octets apart.1 last_lt complete
          have passed : bc.chunk.drop (rpt + (encodeItem bc.lkey item).length) ++ coming =
              encodeItems item.key rest := by
            have dropped := congrArg (List.drop (encodeItem bc.lkey item).length) octets
            rw [List.drop_append_of_le_length complete, List.drop_drop] at dropped
            exact dropped.trans (List.drop_left' rfl)
          rw [writeItems_turn fuel rpt count (Nat.lt_of_not_le ended) result value rfl,
            List.append_cons past item rest]
          refine ih (rpt + (encodeItem bc.lkey item).length) (count + 1) apdsize ?_ ?_ ?_ ?_ ?_
            (assemble_item lkey vsize written)
          · rw [chunk]
            omega
          · rw [chunk]
            omega
          · rw [chunk, lkey]
            exact passed
          · rw [lkey]
            exact apart.2
          · rw [lkey]
            exact item.key_lt
        · have short := Nat.lt_of_not_le complete
          by_cases waits : rpt ≠ 0 ∨ (bc.chunk.drop rpt).length < (itemHeader bc.lkey item).valueAt
          · obtain ⟨read, next, result, chunk, lkey, apdsize⟩ :=
              setDbitem_waiting octets apart.1 last_lt short waits below
            refine ⟨read, log, rpt, count,
              writeItems_stop fuel rpt count (Nat.lt_of_not_le ended) result,
              .between past (item :: rest) rfl (apdsize.trans whole) ?_ ?_ ?_ written ?_⟩
            · rw [chunk, lkey]
              exact octets
            · rw [lkey]
              exact apart
            · rw [lkey]
              exact last_lt
            · rintro _ ⟨⟩
              rw [chunk, lkey]
              exact short
          · obtain ⟨top, begun⟩ := not_or.mp waits
            obtain rfl := Decidable.not_not.mp top
            obtain ⟨read, part, value, result, chunk, lkey, vsize, apdsize, found, split, came, some_⟩ :=
              setDbitem_first octets apart.1 last_lt short (Nat.le_of_not_lt begun)
            cases fuel with
            | zero => omega
            | succ fuel =>
              refine ⟨read, log ++ [itemWrite read part], bc.chunk.length, count + 1, ?_,
                .inside (past ++ [item]) rest value (List.append_cons ..) apdsize.symm some_ ?_ ?_
                  ?_ ?_ (assemble_parts lkey vsize split some_ written)⟩
              · rw [writeItems_turn (fuel + 1) 0 count (Nat.lt_of_not_le ended) result found rfl,
                  writeItems, chunk, if_neg (Nat.lt_irrefl _)]
              · rw [chunk]
                exact List.drop_length
              · rw [lkey]
                exact came
              · rw [lkey]
                exact apart.2
              · rw [lkey]
                exact item.key_lt

/-- A call of `uc_binconf_write_chunk` between two items. -/
theorem writeChunk_between (whole : bc.apdsize = 0)
    (octets : bc.chunk ++ coming = encodeItems bc.lkey left) (apart : KeysApart bc.lkey left)
    (last_lt : bc.lkey.length < ucMaxKeysize) (written : assemble log = past.map BinItem.sent) :
    ∃ next log' res, ucBinconfWriteChunk recorder bc log = some (next, log', res) ∧ 0 ≤ res ∧
      Progress next log' coming (past ++ left) := by
  obtain ⟨after, log', last, count, ran, progress⟩ := writeItems_progress (bc.chunk.length + 1) 0 0
    whole (Nat.zero_le _) (by omega) octets apart last_lt written
  refine ⟨_, log', count, ?_, Int.natCast_nonneg count, progress⟩
  rw [writeChunk_whole whole, ran]
  rfl

/-- A call of `uc_binconf_write_chunk` inside a value. -/
theorem writeChunk_inside (size : value.length = bc.apdsize.toNat) (some_ : value ≠ [])
    (octets : bc.chunk ++ coming = value ++ encodeItems bc.lkey left)
    (apart : KeysApart bc.lkey left) (last_lt : bc.lkey.length < ucMaxKeysize)
    (written : assemble (log ++ [.rest bc.lkey value]) = past.map BinItem.sent) :
    ∃ next log' res, ucBinconfWriteChunk recorder bc log = some (next, log', res) ∧ 0 ≤ res ∧
      Progress next log' coming (past ++ left) := by
  have positive := List.length_pos_iff.mpr some_
  have missing : 0 < bc.apdsize := UInt16.lt_iff_toNat_lt.mpr (by rw [← size]; exact positive)
  have subtracted := awaited_sub bc.apdsize bc.chunk.length
  rw [writeChunk_rest missing rfl]
  by_cases enough : value.length ≤ bc.chunk.length
  · -- the value is complete, and the items after it follow in the same call
    have front : bc.chunk.take value.length = value := by
      have first := congrArg (List.take value.length) octets
      rwa [List.take_append_of_le_length enough, List.take_left' rfl] at first
    have behind : bc.chunk.drop value.length ++ coming = encodeItems bc.lkey left := by
      have second := congrArg (List.drop value.length) octets
      rwa [List.drop_append_of_le_length enough, List.drop_left' rfl] at second
    have awsize : min bc.apdsize.toNat bc.chunk.length = value.length := by omega
    have whole : bc.apdsize - UInt16.ofNat value.length = 0 := by
      rw [awsize] at subtracted
      apply UInt16.toNat_inj.mp
      rw [subtracted, ← size, Nat.sub_eq_zero_of_le enough]
      rfl
    simp only [awsize, front, whole, UInt16.lt_irrefl, if_false]
    exact writeChunk_between rfl behind apart last_lt written
  · have awsize : min bc.apdsize.toNat bc.chunk.length = bc.chunk.length := by omega
    rw [awsize, ← size] at subtracted
    have more : 0 < bc.apdsize - UInt16.ofNat bc.chunk.length := by
      refine UInt16.lt_iff_toNat_lt.mpr ?_
      rw [subtracted]
      change 0 < _
      omega
    have behind : value.drop bc.chunk.length ++ encodeItems bc.lkey left = coming := by
      have second := congrArg (List.drop bc.chunk.length) octets
      rw [List.drop_left' rfl, List.drop_append_of_le_length (by omega)] at second
      exact second.symm
    have front : bc.chunk = value.take bc.chunk.length := by
      have first := congrArg (List.take bc.chunk.length) octets
      rwa [List.take_left' rfl, List.take_append_of_le_length (by omega)] at first
    simp only [awsize, if_pos more, List.take_length]
    refine ⟨_, _, 0, rfl, Int.le_refl 0, .inside past left (value.drop bc.chunk.length) rfl ?_ ?_ ?_
      behind.symm apart last_lt ?_⟩
    · rw [List.length_drop]
      exact subtracted.symm
    · rw [← List.length_pos_iff, List.length_drop]
      omega
    · exact List.drop_length
    · refine (assemble_rest_rest log bc.lkey bc.chunk (value.drop bc.chunk.length)).trans ?_
      have joined := List.take_append_drop bc.chunk.length value
      rw [← front] at joined
      rw [joined]
      exact written

/-- A call of `uc_binconf_write_chunk` keeps the decoder on its way. -/
theorem writeChunk_progress (progress : Progress bc log (piece ++ coming) items) :
    ∃ next log' res, ucBinconfWriteChunk recorder { bc with chunk := bc.chunk ++ piece } log =
      some (next, log', res) ∧ 0 ≤ res ∧ Progress next log' coming items := by
  cases progress with
  | between past left all whole octets apart last_lt written _ =>
    subst all
    rw [← List.append_assoc] at octets
    refine writeChunk_between ?_ ?_ ?_ ?_ written
    · exact whole
    · exact octets
    · exact apart
    · exact last_lt
  | inside past left value all size some_ empty octets apart last_lt written =>
    subst all
    rw [empty, List.nil_append]
    refine writeChunk_inside ?_ some_ ?_ ?_ ?_ written
    · exact size
    · exact octets
    · exact apart
    · exact last_lt

theorem Progress.finished (progress : Progress bc log [] items) :
    assemble log = items.map BinItem.sent := by
  cases progress with
  | between past left all whole octets apart last_lt written waits =>
    subst all
    cases left with
    | nil => rw [written, List.append_nil]
    | cons item rest =>
      have short := waits item rfl
      have length := congrArg List.length octets
      rw [encodeItems, List.append_nil, List.length_append] at length
      omega
  | inside past left value all size some_ empty octets apart last_lt written =>
    exact absurd (List.append_eq_nil_iff.mp octets.symm).1 some_

theorem init_lkey_lt (chunkSize : Nat) : (ucBinconfInit chunkSize).lkey.length < ucMaxKeysize :=
  Nat.zero_lt_succ 127

theorem Progress.start (apart : KeysApart [] items) (chunkSize : Nat) :
    Progress (ucBinconfInit chunkSize) [] (encodeItems [] items) items :=
  .between [] items rfl rfl rfl apart (init_lkey_lt chunkSize) rfl fun _ _ => encodeItem_pos _ _

theorem feed_progress (pieces : List (List UInt8)) (progress : Progress bc log pieces.flatten items)
    (fit : feed bc log pieces ≠ .refused) :
    ∃ after log', feed bc log pieces = .done after log' ∧ Progress after log' [] items := by
  induction pieces generalizing bc log with
  | nil => exact ⟨bc, log, rfl, progress⟩
  | cons piece rest ih =>
    rw [feed] at fit ⊢
    simp only [ucBinconfSetBindata] at fit ⊢
    by_cases taken : min (bc.chunkSize - bc.chunk.length) piece.length = piece.length
    · obtain ⟨next, log', res, ran, good, progress⟩ := writeChunk_progress progress
      simp only [taken, List.take_length, ran, if_neg (Int.not_lt.mpr good), ne_eq,
        not_true_eq_false, if_false] at fit ⊢
      exact ih progress fit
    · exact absurd (if_pos taken) fit

end Decoder

section RoundTrip

variable {items : List BinItem}

theorem feed_whole (octets : List UInt8) :
    feed (ucBinconfInit octets.length) [] [octets] ≠ .refused := by
  rw [feed]
  simp only [ucBinconfSetBindata, ucBinconfInit, List.length_nil, Nat.sub_zero, Nat.min_self]
  split
  · rename_i different
    exact absurd rfl different
  · split
    · exact nofun
    · split
      · exact nofun
      · exact nofun

theorem decodes_sent (apart : KeysApart [] items) :
    Decodes (encodeItems [] items) (items.map BinItem.sent) := by
  intro chunkSize pieces all fit
  have start := Progress.start apart chunkSize
  rw [← all] at start
  obtain ⟨bc, log, fed, progress⟩ := feed_progress pieces start fit
  exact ⟨bc, log, fed, progress.finished⟩

theorem sent_eq_content (item : BinItem) : item.sent = item.content ↔ item.action ≠ .create [] := by
  rw [BinItem.sent, BinItem.content]
  cases item.action with
  | create value => cases value <;> simp [Operation.sent]
  | append value => simp [Operation.sent]
  | delete => simp [Operation.sent]

/-- The binary form keeps items exactly when no key difference overlaps and no value without
octets is created. -/
theorem binary_round_trip (items : List BinItem) :
    RoundTrips items ↔ KeysApart [] items ∧ ∀ item ∈ items, item.action ≠ .create [] := by
  constructor
  · intro trips
    obtain ⟨bc, accepted⟩ := (trips (encodedAtMost items)).1 (Nat.le_refl _)
    obtain ⟨apart, chunk⟩ := setItems_chunk (init_lkey_lt _) bc accepted
    refine ⟨apart, ?_⟩
    have encoded : bc.chunk = encodeItems [] items := chunk
    obtain ⟨_, log, fed, content⟩ := (trips _).2 bc accepted _ [bc.chunk] (List.flatten_singleton)
      (feed_whole bc.chunk)
    have decoded := decodes_sent apart _ [encodeItems [] items] List.flatten_singleton
      (feed_whole (encodeItems [] items))
    rw [← encoded] at decoded
    obtain ⟨_, _, fed', sent⟩ := decoded
    cases fed.symm.trans fed'
    have same := sent.symm.trans content
    intro item member
    exact (sent_eq_content item).mp (List.map_inj_left.mp same item member)
  · rintro ⟨apart, filled⟩ chunkSize
    constructor
    · intro room
      refine setItems_accepted (init_lkey_lt _) apart ?_
      rw [ucBinconfInit, List.length_nil, Nat.zero_add]
      exact room
    · intro bc accepted
      have chunk := (setItems_chunk (init_lkey_lt _) bc accepted).2
      have same : items.map BinItem.content = items.map BinItem.sent :=
        List.map_congr_left fun item member => ((sent_eq_content item).mpr (filled item member)).symm
      rw [chunk, same]
      exact decodes_sent apart

def doubledKey : List BinItem :=
  [⟨[1, 7, 7], .create [5], by decide, by decide⟩, ⟨[1, 7], .create [6], by decide, by decide⟩]

/-- The second of these items is not accepted, whatever room there is. -/
theorem doubled_key_lost : ¬ RoundTrips doubledKey := by
  intro trips
  have room : encodedAtMost doubledKey ≤ 1024 := by decide
  have refused : setItems (ucBinconfInit 1024) doubledKey = none := by decide +kernel
  obtain ⟨bc, accepted⟩ := (trips 1024).1 room
  cases accepted

end RoundTrip

end EnetTsn.Uniconf
