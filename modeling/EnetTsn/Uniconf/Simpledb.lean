import EnetTsn.Library.LinkedList
import EnetTsn.Library.Run

namespace EnetTsn.Uniconf

open EnetTsn.Library

def ucMaxValuesize : Nat := 320

/-- `memcmp` over a number of octets, of which the sign counts. -/
def memcmp : Nat → List UInt8 → List UInt8 → Int
  | size + 1, first :: rest, second :: others =>
    if first = second then memcmp size rest others
    else if first < second then -1
    else 1
  | _, _, _ => 0

/-- `keycmp` for two keys that are given. -/
def keycmp (kd1 kd2 : List UInt8) : Int :=
  if kd2.length < kd1.length then
    let res := memcmp kd2.length kd1 kd2
    if res = 0 then 1 else res
  else if kd1.length < kd2.length then
    let res := memcmp kd1.length kd1 kd2
    if res = 0 then -1 else res
  else memcmp kd1.length kd1 kd2

/-- `dbdata_t`; `vdata` is the block of memory for the value, which may be larger. -/
structure Dbdata where
  refcounter : UInt8
  kd : List UInt8
  vsize : UInt32
  vdata : Option (List UInt8)
  deriving DecidableEq, Repr

def newItem (kd : List UInt8) : Dbdata where
  refcounter := 0
  kd := kd
  vsize := 0
  vdata := none

/-- `simpledb_data_t`, with the items at the nodes of its list. -/
structure Simpledb (ν : Type) where
  heap : LinkHeap ν
  data : ν → Option Dbdata
  dblist : ListHeader ν

def simpledbFlagCreate : UInt8 := 1

def simpledbFlagAppend : UInt8 := 2

instance lawfulBEq_octets : LawfulBEq (List UInt8) := List.instLawfulBEq

/-- The value and its length as they are put: a null pointer comes with any length. -/
structure PutValue where
  bytes : Option (List UInt8)
  vlen : UInt32
  sized : ∀ content ∈ bytes, content.length = vlen.toNat

def PutValue.null : PutValue where
  bytes := none
  vlen := 0
  sized := nofun

/-- What the memory pools answer to the requests of a call: whether they have room, the
node that is given out, and what stands in a new block. -/
structure Pools (ν : Type) where
  dbdata : Bool
  kdata : Bool
  listnode : Option ν
  vdata : Bool
  content : Nat → UInt8

/-- `UB_SD_REGETMEM` for a value. A request for nothing gives the block back. -/
def Pools.regetmem (pools : Pools ν) (block : Option (List UInt8)) (nsize : Nat) :
    Option (List UInt8) :=
  if nsize = 0 ∨ pools.vdata = false then none
  else some ((List.range nsize).map fun index =>
    (block.bind fun octets => octets[index]?).getD (pools.content index))

/-- `memcpy` into a block; none is a write behind its end. -/
def memcpy (block : List UInt8) (offset : Nat) (bytes : List UInt8) : Option (List UInt8) :=
  if offset + bytes.length ≤ block.length then
    some (block.take offset ++ bytes ++ block.drop (offset + bytes.length))
  else none

variable {ν : Type} [DecidableEq ν]

namespace Simpledb

def setData (db : Simpledb ν) (node : ν) (dbd : Dbdata) : Simpledb ν :=
  { db with data := Function.update db.data node (some dbd) }

def relinked (db : Simpledb ν) (result : LinkHeap ν × ListHeader ν) : Simpledb ν :=
  { db with
    heap := result.1
    dblist := result.2 }

/-- The loop of `bin_search`: the number of nodes left is not zero, and they start at `n1`. -/
def searchFrom (db : Simpledb ν) (kd : List UInt8) : Nat → Nat → Option ν → Option (Int × Option ν)
  | 0, _, _ => none
  | fuel + 1, pn, n1 => do
    let node ← n1
    let rnode ← db.heap.walk (pn / 2) node
    let dbd ← db.data rnode
    let res := keycmp kd dbd.kd
    if res = 0 ∨ pn / 2 = 0 then some (res, some rnode)
    else if 0 < res then
      let left := if pn % 2 = 0 then pn / 2 - 1 else pn / 2
      if left = 0 then some (res, some rnode)
      else
        let links ← db.heap rnode
        searchFrom db kd fuel left links.next
    else searchFrom db kd fuel (pn / 2) n1

def binSearch (db : Simpledb ν) (kd : List UInt8) : Option (Int × Option ν) :=
  if db.dblist.count = 0 then some (-1, none)
  else searchFrom db kd db.dblist.count db.dblist.count db.dblist.head

/-- The item of `onedb_put` for a new key, next to the node that the search has found. -/
def insertItem (db : Simpledb ν) (res : Int) (node : Option ν) (cnode : ν) (kd : List UInt8) :
    Option (Simpledb ν) :=
  let heap := Function.update db.heap cnode (some ⟨none, none⟩)
  let inserted :=
    if 0 < res then
      match node with
      | none => db.dblist.append heap cnode
      | some place => db.dblist.insertAfter heap place cnode
    else
      match node with
      | none => db.dblist.prepend heap cnode
      | some place => db.dblist.insertBefore heap place cnode
  inserted.map fun result => (db.relinked result).setData cnode (newItem kd)

/-- The room for a value of another size; the error is an item that has lost its block. -/
def resizeValue (dbd : Dbdata) (value : PutValue) (pools : Pools ν) : Except Dbdata Dbdata :=
  if dbd.vsize = value.vlen then .ok dbd
  else
    match value.bytes with
    | none => .ok { dbd with vsize := 0 }
    | some _ =>
      match pools.regetmem dbd.vdata value.vlen.toNat with
      | none => .error { dbd with vdata := none }
      | some block => .ok { dbd with
          vdata := some block
          vsize := value.vlen }

def copyValue (dbd : Dbdata) (value : PutValue) : Option Dbdata :=
  match dbd.vdata, value.bytes with
  | some block, some bytes =>
    if value.vlen = 0 then some dbd
    else (memcpy block 0 bytes).map fun written => { dbd with vdata := some written }
  | _, _ => some dbd

/-- `onedb_put` from the size check on. -/
def storeValue (db : Simpledb ν) (node : ν) (value : PutValue) (pools : Pools ν) :
    Option (Simpledb ν × Int) := do
  let dbd ← db.data node
  match resizeValue dbd value pools with
  | .error lost => some (db.setData node lost, -1)
  | .ok resized =>
    let copied ← copyValue resized value
    some (db.setData node copied, 0)

/-- `onedb_put` with `SIMPLEDB_FLAG_APPEND` for a key that exists. -/
def appendValue (db : Simpledb ν) (node : ν) (dbd : Dbdata) (value : PutValue) (pools : Pools ν) :
    Option (Simpledb ν × Int) :=
  match value.bytes with
  | none => some (db, 0)
  | some bytes =>
    match pools.regetmem dbd.vdata (dbd.vsize + value.vlen).toNat with
    | none => some (db.setData node { dbd with vdata := none }, -1)
    | some block => do
      let written ← memcpy block dbd.vsize.toNat bytes
      some (db.setData node { dbd with
        vdata := some written
        vsize := dbd.vsize + value.vlen }, 0)

def onedbPut (db : Simpledb ν) (kd : List UInt8) (value : PutValue) (flags : UInt8)
    (pools : Pools ν) : Option (Simpledb ν × Int) := do
  let (res, found) ← db.binSearch kd
  if res ≠ 0 then
    if flags &&& simpledbFlagCreate = 0 then some (db, -1)
    else if pools.dbdata = false then some (db, -1)
    else if pools.kdata = false ∨ kd.length = 0 then some (db, -1)
    else
      match pools.listnode with
      | none => some (db, -1)
      | some cnode =>
        let created ← db.insertItem res found cnode kd
        created.storeValue cnode value pools
  else
    let node ← found
    let dbd ← db.data node
    if 0 < dbd.refcounter then some (db, -1)
    else if flags &&& simpledbFlagAppend ≠ 0 then db.appendValue node dbd value pools
    else db.storeValue node value pools

/-- `onedb_get`: the item whose value the caller reads. -/
def onedbGet (db : Simpledb ν) (kd : List UInt8) : Option (Simpledb ν × Option Dbdata) := do
  let (res, found) ← db.binSearch kd
  if res ≠ 0 then some (db, none)
  else
    let node ← found
    let dbd ← db.data node
    some (db.setData node { dbd with refcounter := dbd.refcounter + 1 }, some dbd)

def onedbGetRelease (db : Simpledb ν) (kd : List UInt8) : Option (Simpledb ν × Int) := do
  let (res, found) ← db.binSearch kd
  if res ≠ 0 then some (db, -1)
  else
    let node ← found
    let dbd ← db.data node
    let released := if 0 < dbd.refcounter then dbd.refcounter - 1 else dbd.refcounter
    some (db.setData node { dbd with refcounter := released }, 0)

def onedbDel (db : Simpledb ν) (kd : List UInt8) : Option (Simpledb ν × Int) := do
  let (res, found) ← db.binSearch kd
  if res ≠ 0 then some (db, -1)
  else
    let node ← found
    let dbd ← db.data node
    if 0 < dbd.refcounter then some (db, -1)
    else
      let (heap, dblist) ← db.dblist.unlink db.heap node
      some ({
        heap := Function.update heap node none
        data := Function.update db.data node none
        dblist := dblist }, 0)

end Simpledb

/-- The octets that a caller reads at the value of an item; none if they are not there. -/
def Dbdata.read (dbd : Dbdata) : Option (List UInt8) :=
  if dbd.vsize = 0 then some []
  else
    match dbd.vdata with
    | none => none
    | some block => if dbd.vsize.toNat ≤ block.length then some (block.take dbd.vsize.toNat) else none

inductive DbEvent (ν : Type) where
  | put (kd : List UInt8) (value : PutValue) (flags : UInt8) (pools : Pools ν)
  | get (kd : List UInt8)
  | getRelease (kd : List UInt8)
  | del (kd : List UInt8)

def ucDbalCreate (kd : List UInt8) (value : PutValue) (pools : Pools ν) : DbEvent ν :=
  .put kd value simpledbFlagCreate pools

def ucDbalAppend (kd : List UInt8) (value : PutValue) (pools : Pools ν) : DbEvent ν :=
  .put kd value (simpledbFlagCreate ||| simpledbFlagAppend) pools

/-- The return value of a call, and for a get that finds its key the value that is read. -/
inductive Answer where
  | result (res : Int)
  | value (content : Option (List UInt8))
  deriving DecidableEq, Repr

namespace Simpledb

def call (db : Simpledb ν) (event : DbEvent ν) : Option (Simpledb ν × Answer) :=
  match event with
  | .put kd value flags pools => (db.onedbPut kd value flags pools).map fun (after, res) =>
      (after, .result res)
  | .get kd => (db.onedbGet kd).map fun (after, found) => (after,
      match found with
      | none => .result (-1)
      | some dbd => .value dbd.read)
  | .getRelease kd => (db.onedbGetRelease kd).map fun (after, res) => (after, .result res)
  | .del kd => (db.onedbDel kd).map fun (after, res) => (after, .result res)

def fresh (db : Simpledb ν) (event : DbEvent ν) : Bool :=
  match event with
  | .put _ _ _ pools => pools.listnode.all fun cnode => (db.heap cnode).isNone
  | .get _ | .getRelease _ | .del _ => true

end Simpledb

structure DbRun (ν : Type) where
  db : Simpledb ν
  history : List (DbEvent ν × Answer)

inductive DbOutcome (ν : Type) where
  | intact (run : DbRun ν)
  | corrupted

def DbRun.answered (run : DbRun ν) (event : DbEvent ν) (result : Option (Simpledb ν × Answer)) :
    DbOutcome ν :=
  match result with
  | none => .corrupted
  | some (db, answer) => .intact ⟨db, (event, answer) :: run.history⟩

def emptyDb : Simpledb ν where
  heap _ := none
  data _ := none
  dblist := ListHeader.empty

def simpledbSystem : System (DbOutcome ν) (DbEvent ν) where
  start := .intact ⟨emptyDb, []⟩
  step outcome event :=
    match outcome with
    | .corrupted => none
    | .intact run =>
      if run.db.fresh event then some (run.answered event (run.db.call event)) else none

end EnetTsn.Uniconf
