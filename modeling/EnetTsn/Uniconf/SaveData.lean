import EnetTsn.Uniconf.Binconf
import EnetTsn.Uniconf.Ranges

namespace EnetTsn.Uniconf

open EnetTsn.Library

structure OutFile where
  content : List UInt8
  room : Nat
  deriving DecidableEq

/-- `ub_fiowrite`, and whether all octets are written. -/
def ubFiowrite (outf : OutFile) (octets : List UInt8) : OutFile × Bool :=
  ({ content := outf.content ++ octets.take outf.room
     room := outf.room - octets.length }, octets.length ≤ outf.room)

def writeParts (outf : OutFile) : List (List UInt8) → OutFile × Bool
  | [] => (outf, true)
  | part :: rest =>
    let (written, good) := ubFiowrite outf part
    if good then writeParts written rest else (written, false)

/-- `serialize_one`; none if the block of the value is missing or too short. -/
def serializeOne (outf : OutFile) (dbd : Dbdata) : Option (OutFile × Bool) := do
  let (keyed, good) := writeParts outf
    [littleEndian 4 dbd.kd.length, dbd.kd, littleEndian 4 dbd.vsize.toNat]
  if good = false then some (keyed, false)
  else if 0 < dbd.vsize then do
    let value ← dbd.read
    some (ubFiowrite keyed value)
  else some (keyed, true)

section Save

variable {ν : Type} [DecidableEq ν]

namespace Simpledb

/-- The loop of `serialize_range`, which ends behind the last node of the range. -/
def serializeNodes (db : Simpledb ν) (last : ν) : Nat → OutFile → Option ν → Option OutFile
  | 0, _, _ => none
  | _ + 1, outf, none => some outf
  | fuel + 1, outf, some node => do
    let dbd ← db.data node
    let (written, good) ← serializeOne outf dbd
    if good = false ∨ node = last then some written
    else
      let links ← db.heap node
      serializeNodes db last fuel written links.next

def serializeRange (db : Simpledb ν) (outf : OutFile) (keyrange : KeyRange) :
    Option (OutFile × Int) := do
  match ← db.getRange keyrange with
  | none => some (outf, -1)
  | some (first, last) =>
    let written ← db.serializeNodes last (db.dblist.count + 1) outf (some first)
    some (written, 0)

/-- The loop of `simpledb_savedata`. A range that is open at both ends is the end of the ranges. -/
def savedataLoop (db : Simpledb ν) (outf : OutFile) : List KeyRange → Option OutFile
  | [] => some outf
  | kr :: rest =>
    if givenKey kr.kd1 = none ∧ givenKey kr.kd2 = none then some outf
    else do
      let (written, res) ← db.serializeRange outf kr
      if res = 0 then savedataLoop db written rest else some written

/-- `simpledb_savedata`, with the octets of the file if it could be opened. The room of the
medium is none if there is no file, or it cannot be opened. -/
def simpledbSavedata (db : Simpledb ν) (room : Option Nat) (keyranges : List KeyRange) :
    Option (Int × Option (List UInt8)) :=
  match room with
  | none => some (-1, none)
  | some room => (db.savedataLoop ⟨[], room⟩ keyranges).map fun outf => (0, some outf.content)

end Simpledb

end Save

abbrev KeyValue := List UInt8 × List UInt8

structure LoadGrant where
  dbdata : Bool
  kdata : Bool
  vdata : Bool
  listnode : Bool

/-- `deserialize_one`, with the rest of the file; none for a result that is not positive. -/
def deserializeOne (grant : LoadGrant) (inf : List UInt8) : Option (KeyValue × List UInt8) := do
  let ksize := ofLittleEndian (← slice inf 0 4)
  if ucMaxKeysize < ksize ∨ grant.kdata = false ∨ ksize = 0 then none
  else do
    let kd ← slice inf 4 ksize
    let vsize := ofLittleEndian (← slice inf (4 + ksize) 4)
    if ucMaxValuesize < vsize ∨ (0 < vsize ∧ grant.vdata = false) then none
    else do
      let value ← slice inf (4 + ksize + 4) vsize
      some ((kd, value), inf.drop (4 + ksize + 4 + vsize))

/-- `deserialize_all`, with the items in the order of the list: each is put behind the last
one, unless its key is smaller. The answers of the pools are counted by the records. -/
def deserializeAll (grants : Nat → LoadGrant) :
    Nat → Nat → Option (List UInt8) → List UInt8 → List KeyValue
  | 0, _, _, _ => []
  | fuel + 1, turn, pn, inf =>
    if (grants turn).dbdata = false then []
    else
      match deserializeOne (grants turn) inf with
      | none => []
      | some (item, rest) =>
        if pn.any fun last => keycmp item.1 last < 0 then
          deserializeAll grants fuel (turn + 1) pn rest
        else if (grants turn).listnode = false then []
        else item :: deserializeAll grants fuel (turn + 1) (some item.1) rest

/-- `simpledb_open`: a null pointer if there is no memory, mutex or semaphore for the store.
Without a file that can be read the store is empty. -/
def simpledbOpen (instance_ : Bool) (grants : Nat → LoadGrant) (inf : Option (List UInt8)) :
    Option (List KeyValue) :=
  if instance_ = false then none
  else some (match inf with
    | none => []
    | some octets => deserializeAll grants (octets.length + 1) 0 none octets)

end EnetTsn.Uniconf
