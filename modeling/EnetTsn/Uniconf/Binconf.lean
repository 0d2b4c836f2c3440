import EnetTsn.Library.OctetString

namespace EnetTsn.Uniconf

open EnetTsn.Library

def ucMaxKeysize : Nat := 128

/-- `uc_bcdata`: the first `chunk_pt` octets of `chunkdata`, the first `lksize` octets of
`lkey`, and `vdata` as a position in the chunk. A chunk is far smaller than 2^32 octets, so
that positions in it are plain numbers. -/
structure BcData where
  chunkSize : Nat
  chunk : List UInt8
  lkey : List UInt8
  vdata : Nat
  vsize : UInt16
  apdsize : UInt16
  deriving DecidableEq

def ucBinconfInit (chunkSize : Nat) : BcData where
  chunkSize := chunkSize
  chunk := []
  lkey := []
  vdata := 0
  vsize := 0
  apdsize := 0

def vsizeSize (vsize : UInt16) : Nat := (vsize &&& 0x7fff).toNat

def vsizeAppend (vsize : UInt16) : Bool := vsize &&& 0x8000 ≠ 0

/-- A loop over two strings while their octets agree, for at most `limit` octets. -/
def matchLoop : Nat → List UInt8 → List UInt8 → Nat
  | limit + 1, first :: rest, second :: others =>
    if first = second then matchLoop limit rest others + 1 else 0
  | _, _, _ => 0

/-- `pa`, `pb` and `pc` in a word: ten bits, and twice eleven bits. A negative difference
fills the word with its sign. -/
def packPoints (pa pb pc : Nat) : UInt32 :=
  UInt32.ofNat (pa <<< 22) ||| UInt32.ofNat ((pb - pa) <<< 11) ||| UInt32.ofInt ((pc : Int) - pa)

/-- `find_dif_points`. The second loop runs from the ends of the keys; what it leaves of the
last key does not reach into the common beginning, what it leaves of the new one may. -/
def findDifPoints (lkey key : List UInt8) : UInt32 :=
  let pa := matchLoop lkey.length key lkey
  let i := matchLoop (lkey.length - pa) key.reverse lkey.reverse
  packPoints pa (lkey.length - i) (key.length - i)

/-- `uc_binconf_set_kvdata`; none if it reads behind the end of the key or the value. -/
def ucBinconfSetKvdata (bc : BcData) (key : List UInt8) (vdata : Option (List UInt8))
    (vsize : UInt16) : Option (BcData × Int) :=
  let svsize := if vdata.isSome then vsizeSize vsize else 0
  if ucMaxKeysize ≤ key.length then some (bc, -1)
  else
    let res := if bc.lkey.length ≠ 0 then findDifPoints bc.lkey key else UInt32.ofNat key.length
    let pa := if bc.lkey.length ≠ 0 then ((res >>> 22) &&& 0x3ff).toNat else 0
    let size := if bc.lkey.length ≠ 0 then (res &&& 0x7ff).toNat else key.length
    if bc.chunkSize - bc.chunk.length < size + svsize + 4 + 2 then
      some (bc, if bc.chunk.length = 0 then 2 else 1)
    else do
      let keyPart ← slice key pa size
      let value ← slice (vdata.getD []) 0 svsize
      some ({ bc with
        chunk := bc.chunk ++ littleEndian 4 res.toNat ++ keyPart ++
          littleEndian 2 vsize.toNat ++ value
        lkey := key }, 0)

def ucBinconfSetBindata (bc : BcData) (bdata : List UInt8) : BcData × Nat :=
  let setsize := min (bc.chunkSize - bc.chunk.length) bdata.length
  ({ bc with chunk := bc.chunk ++ bdata.take setsize }, setsize)

def inLkey (offset count : Nat) : Bool := count = 0 || offset + count ≤ ucMaxKeysize

/-- `set_dbitem`, with the position that it reads next; none if it reads behind the octets in
the chunk, or writes behind the end of the buffer for the last key. -/
def setDbitem (bc : BcData) (rpt : Nat) : Option (BcData × Nat × Int) :=
  if bc.chunk.length < rpt + 4 then some (bc, rpt, 1)
  else do
    let octets ← slice bc.chunk rpt 4
    let res := UInt32.ofNat (ofLittleEndian octets)
    let pa := (res >>> 22).toNat
    let pb := ((res >>> 11) &&& 0x7ff).toNat + pa
    let pc := (res &&& 0x7ff).toNat + pa
    let keyAt := rpt + 4
    let vsizeAt := keyAt + (pc - pa)
    if bc.chunk.length < vsizeAt then some (bc, keyAt, 1)
    else if bc.chunk.length < vsizeAt + 2 then some (bc, vsizeAt, 1)
    else do
      let octets ← slice bc.chunk vsizeAt 2
      let vsize := UInt16.ofNat (ofLittleEndian octets)
      let vdata := vsizeAt + 2
      let next := vdata + vsizeSize vsize
      let sized := { bc with
        vsize := vsize
        vdata := vdata }
      if bc.lkey.length < pb then some (sized, next, -1)
      else if bc.chunk.length < next ∧ rpt ≠ 0 then some (sized, next, 1)
      else do
        let key ← slice bc.chunk keyAt (pc - pa)
        -- the end of the last key moves first, then the new part is copied in
        if inLkey pc (bc.lkey.length - pb) && inLkey pa (pc - pa) then
          let keyed := { sized with lkey := bc.lkey.take pa ++ key ++ bc.lkey.drop pb }
          if bc.chunk.length < next then
            some ({ keyed with apdsize := UInt16.ofNat (next - bc.chunk.length) }, bc.chunk.length, 0)
          else some (keyed, next, 0)
        else none

/-- What is written to the database: a whole item or the first part of it, or the `rest` of
a value, which is appended. -/
inductive Write where
  | create (key value : List UInt8)
  | append (key value : List UInt8)
  | del (key : List UInt8)
  | rest (key value : List UInt8)
  deriving DecidableEq

/-- What the database, and the hardware access if there is one, do with a write: the new state,
and whether it went well. The result of a deletion itself is not looked at. -/
abbrev Dbal (σ : Type) := σ → Write → σ × Bool

def itemWrite (bc : BcData) (value : List UInt8) : Write :=
  if bc.vsize = 0 then .del bc.lkey
  else if vsizeAppend bc.vsize then .append bc.lkey value
  else .create bc.lkey value

/-- A difference of two `uint32_t`. -/
def sub32 (first second : Nat) : Nat :=
  if second ≤ first then first - second else first + 2 ^ 32 - second

section WriteChunk

variable {σ : Type} (dbal : Dbal σ)

/-- The loop of `uc_binconf_write_chunk`: the end of the last item that was written, how many
there are, and the result of a failure. Each turn takes some octets of the chunk, so that
it makes fewer turns than the chunk has octets; none also stands for one turn more. -/
def writeItems : Nat → BcData → σ → (rpt last items : Nat) →
    Option (BcData × σ × Nat × Except Int Nat)
  | 0, _, _, _, _, _ => none
  | fuel + 1, bc, db, rpt, last, items =>
    if rpt < bc.chunk.length then do
      let (read, next, res) ← setDbitem bc rpt
      if res < 0 then some (read, db, last, .error res)
      else if res ≠ 0 then some (read, db, last, .ok items)
      else do
        let value ← slice read.chunk read.vdata (sub32 (vsizeSize read.vsize) read.apdsize.toNat)
        let (written, good) := dbal db (itemWrite read value)
        if good then writeItems fuel read written next next (items + 1)
        else some (read, written, last, .error (-1))
    else some (bc, db, last, .ok items)

/-- The first part of `uc_binconf_write_chunk`: the rest of a value. -/
def writeRest (bc : BcData) (db : σ) : BcData × σ × Bool :=
  let awsize := min bc.apdsize.toNat bc.chunk.length
  let (written, good) := dbal db (.rest bc.lkey (bc.chunk.take awsize))
  if good then
    ({ bc with
      apdsize := bc.apdsize - UInt16.ofNat awsize
      chunk := bc.chunk.drop awsize }, written, true)
  else (bc, written, false)

def ucBinconfWriteChunk (bc : BcData) (db : σ) : Option (BcData × σ × Int) :=
  let (bc, db, good) := if 0 < bc.apdsize then writeRest dbal bc db else (bc, db, true)
  if good = false then some (bc, db, -1)
  else if 0 < bc.apdsize then some (bc, db, 0)
  else do
    let (read, db, last, result) ← writeItems dbal (bc.chunk.length + 1) bc db 0 0 0
    match result with
    | .error res => some (read, db, res)
    | .ok items => some ({ read with chunk := read.chunk.drop last }, db, items)

end WriteChunk

inductive DbAction where
  | delete
  | append
  | create
  deriving DecidableEq

/-- An item that is handed to the caller: its key, the size of its value and the first
octets of it. -/
structure PoppedItem where
  key : List UInt8
  vsize : Nat
  value : List UInt8
  atype : DbAction
  deriving DecidableEq

/-- `uc_binconf_pop_item`, where `granted` says whether there is a block for the value; none
if it copies octets that are not in the chunk, or more than the block has. -/
def ucBinconfPopItem (bc : BcData) (granted : Bool) : Option (BcData × Option PoppedItem × Int) := do
  let (read, next, res) ← setDbitem bc 0
  if res ≠ 0 then some (read, none, -1)
  else if 0 < vsizeSize read.vsize ∧ granted = false then some (read, none, -1)
  else do
    let count := if 0 < vsizeSize read.vsize then sub32 (vsizeSize read.vsize) read.apdsize.toNat else 0
    if vsizeSize read.vsize < count then none
    else do
      let value ← slice read.chunk read.vdata count
      let atype := if read.vsize = 0 then DbAction.delete
        else if vsizeAppend read.vsize then .append else .create
      some ({ read with
        chunk := read.chunk.drop next
        apdsize := 0 }, some ⟨read.lkey, vsizeSize read.vsize, value, atype⟩, read.apdsize.toNat)

def ucBinconfCleanChunk (bc : BcData) : BcData := { bc with chunk := [] }

def ucBinconfCleanLkey (bc : BcData) : BcData := { bc with lkey := [] }

end EnetTsn.Uniconf
