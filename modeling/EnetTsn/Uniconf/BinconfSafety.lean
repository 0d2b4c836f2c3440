import EnetTsn.Library.Run
import EnetTsn.Uniconf.BinconfHeader

/-!
A decoder of the binary form that is fed with any octets. It stays in its buffers as long as
no item makes a key longer than the buffer for the last key, and no item is popped while
more octets of a value are awaited than the item has.
-/

namespace EnetTsn.Uniconf

open EnetTsn.Library

/-- A decoder and its database, or a decoder that has read behind the octets in its chunk or
has written behind the end of its buffer for the last key. -/
inductive Decoding (σ : Type) where
  | intact (bc : BcData) (db : σ)
  | corrupted

inductive DecoderCall where
  | setBindata (bdata : List UInt8)
  | writeChunk
  | popItem (granted : Bool)
  | cleanChunk
  | cleanLkey

variable {σ : Type}

def Decoding.after (result : Option (BcData × σ × α)) : Decoding σ :=
  match result with
  | none => .corrupted
  | some (bc, db, _) => .intact bc db

def decoderSystem (dbal : Dbal σ) (chunkSize : Nat) (db : σ) : System (Decoding σ) DecoderCall where
  start := .intact (ucBinconfInit chunkSize) db
  step
    | .corrupted, _ => none
    | .intact bc db, .setBindata bdata => some (.intact (ucBinconfSetBindata bc bdata).1 db)
    | .intact bc db, .writeChunk => some (.after (ucBinconfWriteChunk dbal bc db))
    | .intact bc db, .popItem granted =>
      some (.after ((ucBinconfPopItem bc granted).map fun (bc, item) => (bc, db, item)))
    | .intact bc db, .cleanChunk => some (.intact (ucBinconfCleanChunk bc) db)
    | .intact bc db, .cleanLkey => some (.intact (ucBinconfCleanLkey bc) db)

def Header.keyLength (head : Header) (lksize : Nat) : Nat := head.pc + (lksize - head.pb)

/-- No item in the octets makes too long a key, up to the first one that does not fit to the
last key or is not complete. The first item of a chunk may end in its value. -/
def keysFit : Nat → Nat → Bool → List UInt8 → Bool
  | 0, _, _, _ => true
  | fuel + 1, lksize, top, octets =>
    match readHeader octets with
    | none => true
    | some head =>
      if lksize < head.pb then true
      else if octets.length < head.size ∧ top = false then true
      else head.keyLength lksize ≤ ucMaxKeysize &&
        keysFit fuel (head.keyLength lksize) false (octets.drop head.size)

/-- The first item of the chunk makes no key that is too long, and if it is complete its value
has as many octets as are awaited. -/
def popFits (bc : BcData) : Bool :=
  match readHeader bc.chunk with
  | none => true
  | some head => bc.lkey.length < head.pb || (head.keyLength bc.lkey.length ≤ ucMaxKeysize &&
      (bc.chunk.length < head.size || vsizeSize head.vsize = 0 ||
        bc.apdsize.toNat ≤ vsizeSize head.vsize))

def DecoderPermitted (state : Decoding σ) (call : DecoderCall) : Prop :=
  match state, call with
  | .intact bc _, .writeChunk =>
    let items := bc.chunk.drop bc.apdsize.toNat
    keysFit (items.length + 1) bc.lkey.length true items = true
  | .intact bc _, .popItem _ => popFits bc = true
  | _, _ => True

instance : (state : Decoding σ) → (call : DecoderCall) → Decidable (DecoderPermitted state call)
  | .intact _ _, .writeChunk => inferInstanceAs (Decidable (keysFit _ _ _ _ = true))
  | .intact bc _, .popItem _ => inferInstanceAs (Decidable (popFits bc = true))
  | .intact _ _, .setBindata _ | .intact _ _, .cleanChunk | .intact _ _, .cleanLkey
  | .corrupted, _ => isTrue trivial

section Heads

variable {octets lkey : List UInt8} {head : Header}

variable (found : readHeader octets = some head)
include found

theorem readHeader_points : head.pa ≤ head.pb ∧ head.pa ≤ head.pc := by
  obtain ⟨_, found⟩ := Option.ite_none_left_eq_some.mp found
  obtain ⟨_, found⟩ := Option.ite_none_left_eq_some.mp found
  cases found
  exact ⟨Nat.le_add_left _ _, Nat.le_add_left _ _⟩

theorem length_newKey (fits : head.pb ≤ lkey.length) :
    (head.newKey lkey octets).length = head.keyLength lkey.length := by
  obtain ⟨first, second⟩ := readHeader_points found
  have enough := valueAt_le_of_readHeader found
  rw [Header.valueAt] at enough
  simp only [Header.newKey, Header.keyLength, List.length_append, List.length_take,
    List.length_drop]
  omega

theorem inLkey_of_keyLength
    (short : head.keyLength lkey.length ≤ ucMaxKeysize) : head.inLkey lkey = true := by
  obtain ⟨_, second⟩ := readHeader_points found
  rw [Header.keyLength] at short
  rw [Header.inLkey, Bool.and_eq_true, inLkey_iff, inLkey_iff]
  omega

end Heads

section Safety

variable {bc : BcData} {db : σ} {dbal : Dbal σ} {rpt : Nat} {head : Header}

private theorem taken_apdsize (found : readHeader (bc.chunk.drop rpt) = some head)
    (below : rpt ≤ bc.chunk.length) : (bc.taken head rpt).apdsize.toNat =
      if bc.chunk.length < rpt + head.size then rpt + head.size - bc.chunk.length
      else bc.apdsize.toNat := by
  have enough := valueAt_le_of_readHeader found
  have size : head.size = head.valueAt + vsizeSize head.vsize := rfl
  have short := vsizeSize_toNat head.vsize
  rw [List.length_drop] at enough
  simp only [BcData.taken]
  split
  · rw [UInt16.toNat_ofNat']
    omega
  · rfl

/-- The octets of a value that `set_dbitem` has found are in the chunk, and no more than its
size says, unless more octets were awaited before than a complete value has. -/
theorem value_inside (found : readHeader (bc.chunk.drop rpt) = some head)
    (below : rpt ≤ bc.chunk.length)
    (awaited : rpt + head.size ≤ bc.chunk.length → bc.apdsize.toNat ≤ vsizeSize head.vsize) :
    sub32 (vsizeSize head.vsize) (bc.taken head rpt).apdsize.toNat ≤ vsizeSize head.vsize ∧
      rpt + head.valueAt + sub32 (vsizeSize head.vsize) (bc.taken head rpt).apdsize.toNat ≤
        bc.chunk.length := by
  have enough := valueAt_le_of_readHeader found
  have size : head.size = head.valueAt + vsizeSize head.vsize := rfl
  rw [List.length_drop] at enough
  rw [taken_apdsize found below, sub32]
  split
  · rw [if_pos (by omega)]
    omega
  · rw [if_pos (by omega)]
    omega

theorem writeItems_safe (fuel items last : Nat) (whole : bc.apdsize = 0)
    (below : rpt ≤ bc.chunk.length) (enough : bc.chunk.length < rpt + fuel)
    (fit : keysFit fuel bc.lkey.length (rpt = 0) (bc.chunk.drop rpt) = true)
    (short : bc.lkey.length ≤ ucMaxKeysize) :
    ∃ after db' last' result, writeItems dbal fuel bc db rpt last items =
      some (after, db', last', result) ∧ after.lkey.length ≤ ucMaxKeysize := by
  induction fuel generalizing bc db rpt last items with
  | zero => omega
  | succ fuel ih =>
    rw [writeItems]
    by_cases more : rpt < bc.chunk.length
    · rw [if_pos more]
      rw [keysFit] at fit
      cases found : readHeader (bc.chunk.drop rpt) with
      | none =>
        obtain ⟨next, result⟩ := setDbitem_incomplete found
        rw [result]
        exact ⟨bc, db, last, .ok items, rfl, short⟩
      | some head =>
        simp only [found, List.length_drop, decide_eq_false_iff_not] at fit
        rw [setDbitem_found found]
        by_cases refused : bc.lkey.length < head.pb
        · rw [if_pos refused]
          exact ⟨bc.sized head rpt, db, last, .error (-1), rfl, short⟩
        rw [if_neg refused] at fit ⊢
        by_cases waits : bc.chunk.length < rpt + head.size ∧ rpt ≠ 0
        · rw [if_pos waits]
          exact ⟨bc.sized head rpt, db, last, .ok items, rfl, short⟩
        rw [if_neg (by omega), Bool.and_eq_true, decide_eq_true_iff] at fit
        rw [if_neg waits, if_pos (inLkey_of_keyLength found fit.1)]
        obtain ⟨_, inside⟩ := value_inside found below (fun _ => by rw [whole]; exact Nat.zero_le _)
        have value : slice (bc.taken head rpt).chunk (bc.taken head rpt).vdata
            (sub32 (vsizeSize (bc.taken head rpt).vsize) (bc.taken head rpt).apdsize.toNat) = _ :=
          slice_of_le inside
        have length := length_newKey found (Nat.le_of_not_lt refused)
        have shortNext : (bc.taken head rpt).lkey.length ≤ ucMaxKeysize :=
          Nat.le_trans (Nat.le_of_eq length) fit.1
        simp only [Option.bind_eq_bind, Option.bind_some, value]
        rw [if_neg (Int.lt_irrefl 0), if_neg (fun wrong => wrong rfl)]
        split
        · by_cases part : bc.chunk.length < rpt + head.size
          · -- the value ends behind the chunk, and so does the loop
            rw [Nat.min_eq_left (Nat.le_of_lt part)]
            cases fuel with
            | zero => omega
            | succ fuel =>
              have ended : ¬ bc.chunk.length < (bc.taken head rpt).chunk.length := Nat.lt_irrefl _
              rw [writeItems, if_neg ended]
              exact ⟨_, _, _, _, rfl, shortNext⟩
          · have size : head.size = 4 + (head.pc - head.pa) + 2 + vsizeSize head.vsize := rfl
            rw [Nat.min_eq_right (Nat.le_of_not_lt part)]
            refine ih _ _ ((if_neg part).trans whole) (Nat.le_of_not_lt part) ?_ ?_ shortNext
            · change bc.chunk.length < _
              omega
            · have later : decide (rpt + head.size = 0) = false := decide_eq_false (by omega)
              have rest := fit.2
              rw [← length, List.drop_drop, ← later] at rest
              exact rest
        · exact ⟨_, _, _, _, rfl, shortNext⟩
    · rw [if_neg more]
      exact ⟨bc, db, last, .ok items, rfl, short⟩

theorem writeChunk_items_safe (whole : bc.apdsize = 0) (short : bc.lkey.length ≤ ucMaxKeysize)
    (fit : keysFit (bc.chunk.length + 1) bc.lkey.length true bc.chunk = true) :
    ∃ after db' res, ucBinconfWriteChunk dbal bc db = some (after, db', res) ∧
      after.lkey.length ≤ ucMaxKeysize := by
  have safe : ∃ after db' last result, writeItems dbal (bc.chunk.length + 1) bc db 0 0 0 =
      some (after, db', last, result) ∧ after.lkey.length ≤ ucMaxKeysize :=
    writeItems_safe _ 0 0 whole (Nat.zero_le _) (by omega) fit short
  obtain ⟨after, db', last, result, ran, kept⟩ := safe
  rw [writeChunk_whole whole, ran]
  cases result with
  | error res => exact ⟨after, db', res, rfl, kept⟩
  | ok items => exact ⟨_, db', items, rfl, kept⟩

theorem eq_zero_of_not_pos {count : UInt16} (none : ¬ 0 < count) : count = 0 := by
  apply UInt16.toNat_inj.mp
  exact Nat.eq_zero_of_not_pos none

/-- A call of `uc_binconf_write_chunk` stays in the buffers. -/
theorem writeChunk_safe (short : bc.lkey.length ≤ ucMaxKeysize)
    (fit : keysFit ((bc.chunk.drop bc.apdsize.toNat).length + 1) bc.lkey.length true
      (bc.chunk.drop bc.apdsize.toNat) = true) :
    ∃ after db' res, ucBinconfWriteChunk dbal bc db = some (after, db', res) ∧
      after.lkey.length ≤ ucMaxKeysize := by
  by_cases awaited : 0 < bc.apdsize
  · cases accepted : dbal db (.rest bc.lkey (bc.chunk.take (min bc.apdsize.toNat bc.chunk.length))) with
    | mk written good =>
      cases good with
      | false =>
        have refused : writeRest dbal bc db = (bc, written, false) := by
          rw [writeRest]
          simp only [accepted]
          rfl
        exact ⟨bc, written, -1, writeChunk_refused awaited refused, short⟩
      | true =>
        have rest : writeRest dbal bc db = ({ bc with
            apdsize := bc.apdsize - UInt16.ofNat (min bc.apdsize.toNat bc.chunk.length)
            chunk := bc.chunk.drop (min bc.apdsize.toNat bc.chunk.length) }, written, true) := by
          rw [writeRest]
          simp only [accepted]
          rfl
        rw [writeChunk_rest awaited rest]
        split
        · exact ⟨_, written, 0, rfl, short⟩
        · rename_i none
          have nothing : bc.apdsize - UInt16.ofNat (min bc.apdsize.toNat bc.chunk.length) = 0 :=
            eq_zero_of_not_pos none
          have left := awaited_sub bc.apdsize bc.chunk.length
          rw [nothing, UInt16.toNat_zero] at left
          have all : min bc.apdsize.toNat bc.chunk.length = bc.apdsize.toNat := by omega
          rw [all] at nothing ⊢
          refine writeChunk_items_safe ?_ ?_ fit
          · exact nothing
          · exact short
  · have whole := eq_zero_of_not_pos awaited
    rw [whole] at fit
    exact writeChunk_items_safe whole short fit

/-- A call of `uc_binconf_pop_item` stays in the buffers. -/
theorem popItem_safe (granted : Bool) (short : bc.lkey.length ≤ ucMaxKeysize)
    (fit : popFits bc = true) : ∃ after item, ucBinconfPopItem bc granted = some (after, item) ∧
      after.lkey.length ≤ ucMaxKeysize := by
  rw [ucBinconfPopItem]
  rw [popFits] at fit
  cases found : readHeader bc.chunk with
  | none =>
    have start : readHeader (bc.chunk.drop 0) = none := found
    obtain ⟨next, result⟩ := setDbitem_incomplete start
    rw [result]
    exact ⟨bc, _, rfl, short⟩
  | some head =>
    have start : readHeader (bc.chunk.drop 0) = some head := found
    simp only [found, Bool.or_eq_true, Bool.and_eq_true, decide_eq_true_eq] at fit
    rw [setDbitem_found start]
    by_cases refused : bc.lkey.length < head.pb
    · rw [if_pos refused]
      exact ⟨_, _, rfl, short⟩
    obtain ⟨keyed, sized⟩ := fit.resolve_left refused
    have shortNext : (bc.taken head 0).lkey.length ≤ ucMaxKeysize :=
      Nat.le_trans (Nat.le_of_eq (length_newKey found (Nat.le_of_not_lt refused))) keyed
    rw [if_neg refused, if_neg (fun later => later.2 rfl), if_pos (inLkey_of_keyLength start keyed)]
    simp only [Option.bind_eq_bind, Option.bind_some, ne_eq, not_true_eq_false, if_false]
    split
    · exact ⟨_, _, rfl, shortNext⟩
    · have enough := valueAt_le_of_readHeader found
      have copied : ∃ count, (if 0 < vsizeSize (bc.taken head 0).vsize then
            sub32 (vsizeSize (bc.taken head 0).vsize) (bc.taken head 0).apdsize.toNat else 0) = count ∧
          count ≤ vsizeSize head.vsize ∧ 0 + head.valueAt + count ≤ bc.chunk.length := by
        by_cases filled : 0 < vsizeSize head.vsize
        · obtain ⟨less, inside⟩ := value_inside start (Nat.zero_le _) (by omega)
          exact ⟨_, if_pos filled, less, inside⟩
        · exact ⟨0, if_neg filled, Nat.zero_le _, by omega⟩
      obtain ⟨count, same, less, inside⟩ := copied
      have value : slice (bc.taken head 0).chunk (bc.taken head 0).vdata count = _ :=
        slice_of_le inside
      have fits : ¬ vsizeSize (bc.taken head 0).vsize < count := Nat.not_lt.mpr less
      rw [same, if_neg fits, value]
      exact ⟨_, _, rfl, shortNext⟩

end Safety

def Decoding.Held : Decoding σ → Prop
  | .intact bc _ => bc.lkey.length ≤ ucMaxKeysize
  | .corrupted => False

theorem decoder_step {dbal : Dbal σ} {chunkSize : Nat} {start : σ} {state next : Decoding σ}
    {call : DecoderCall} (held : state.Held) (permitted : DecoderPermitted state call)
    (taken : (decoderSystem dbal chunkSize start).step state call = some next) : next.Held := by
  cases state with
  | corrupted => exact held.elim
  | intact bc db =>
    cases call with
    | setBindata bdata =>
      cases taken
      exact held
    | writeChunk =>
      have safe : ∃ after db' res, ucBinconfWriteChunk dbal bc db = some (after, db', res) ∧
        after.lkey.length ≤ ucMaxKeysize := writeChunk_safe held permitted
      obtain ⟨after, db', res, ran, kept⟩ := safe
      simp only [decoderSystem, ran] at taken
      cases taken
      exact kept
    | popItem granted =>
      obtain ⟨after, item, ran, kept⟩ := popItem_safe granted held permitted
      simp only [decoderSystem, ran] at taken
      cases taken
      exact kept
    | cleanChunk =>
      cases taken
      exact held
    | cleanLkey =>
      cases taken
      exact Nat.zero_le _

/-- In every run whose calls decode only items that fit, no octet is read behind those in the
chunk, and none is written behind the end of the buffer for the last key. -/
theorem decoder_in_buffers (dbal : Dbal σ) (chunkSize : Nat) (start : σ) (state : Decoding σ)
    (reachable : (decoderSystem dbal chunkSize start).Reachable DecoderPermitted state) :
    state ≠ .corrupted := by
  have held : state.Held := reachable.invariant Decoding.Held (Nat.zero_le _)
    fun _ _ _ => decoder_step
  rintro rfl
  exact held

def takeAll : Dbal Unit := fun db _ => (db, true)

def Decoding.lastKey : Decoding σ → Option (List UInt8)
  | .intact bc _ => some bc.lkey
  | .corrupted => none

/-- An item with the key 1, 2, 3 and a value of four octets of which two come later, and an
item with the key 1, 2, 4. -/
theorem decoder_in_buffers_parts : ∃ state, (decoderSystem takeAll 64 ()).Reachable
    DecoderPermitted state ∧ state.lastKey = some [1, 2, 4] ∧ state ≠ .corrupted := by
  have ran : (((decoderSystem takeAll 64 ()).restrict fun state call =>
      decide (DecoderPermitted state call)).run (decoderSystem takeAll 64 ()).start
      [.setBindata [3, 0, 0, 0, 1, 2, 3, 4, 0, 9, 9], .writeChunk,
        .setBindata [8, 8, 1, 8, 128, 0, 4, 0, 0], .writeChunk, .popItem true]).map Decoding.lastKey =
      some (some [1, 2, 4]) := by
    decide +kernel
  obtain ⟨state, finished, key⟩ := Option.map_eq_some_iff.mp ran
  have reachable : (decoderSystem takeAll 64 ()).Reachable DecoderPermitted state :=
    (System.reachable_of_run finished).of_restrict fun _ _ => of_decide_eq_true
  exact ⟨state, reachable, key, decoder_in_buffers takeAll 64 () state reachable⟩

def longKey : List UInt8 := [200, 0, 0, 0] ++ List.replicate 200 1 ++ [0, 0]

/-- The first item writes behind the buffer for the last key, which has 128 octets. -/
theorem long_key_overflows : (decoderSystem takeAll 1472 ()).Reachable System.anyStep .corrupted := by
  have ran : ((decoderSystem takeAll 1472 ()).run (decoderSystem takeAll 1472 ()).start
      [.setBindata longKey, .writeChunk]).map Decoding.lastKey = some none := by
    decide +kernel
  obtain ⟨state, finished, key⟩ := Option.map_eq_some_iff.mp ran
  cases state with
  | intact bc db => cases key
  | corrupted => exact System.reachable_of_run finished

end EnetTsn.Uniconf
