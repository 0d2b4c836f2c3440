import EnetTsn.Library.Run
import EnetTsn.Uniconf.Binconf

/-!
The server for the binary form over UDP: `ucudpbind.c`. One decoder serves all datagrams.
-/

namespace EnetTsn.Uniconf

open EnetTsn.Library

def ucudpbinPlsize : Nat := 1472

def ucBinconfudpPull : UInt8 := 1

def ucBinconfudpPullWcard : UInt8 := 2

def ucBinconfudpPullokres : UInt8 := 3

def ucBinconfudpPullngres : UInt8 := 4

/-- `UC_BINCONFUDP_PUSHC`: more pushes follow. -/
def ucBinconfudpPushc : UInt8 := 5

def ucBinconfudpPushe : UInt8 := 6

def ucBinconfudpPushokres : UInt8 := 7

def ucBinconfudpPushngres : UInt8 := 8

/-- The database as the server uses it: writes, a get that holds the value until it is
released, the first item in a range of keys, and the two calls for keys whose changes ask
for an action. -/
structure UcDbald (σ : Type) where
  write : Dbal σ
  get : σ → List UInt8 → σ × Option (List UInt8)
  getRelease : σ → List UInt8 → σ
  firstInRange : σ → List UInt8 → List UInt8 → Option (List UInt8 × List UInt8)
  keyNeedaction : σ → List UInt8 → Bool
  askaction : σ → List UInt8 → σ

/-- A datagram, and what else is answered while it is handled: whether there is memory for
the two keys of a range and for the reply, and whether the reply is sent. -/
structure Datagram where
  rdata : List UInt8
  keysGranted : Bool
  replyGranted : Bool
  written : Bool

def datagramKsize (rdata : List UInt8) : Nat := ofLittleEndian ((rdata.drop 1).take 4)

/-- The size checks, which compare numbers of the type `int`. -/
def tooSmall (rdata : List UInt8) : Bool :=
  rdata.length < 6 || (rdata.length : Int) < ((datagramKsize rdata : Int) + 5).bmod (2 ^ 32)

def increaseLast : List UInt8 → List UInt8
  | [] => []
  | octet :: rest => if octet = 0xff then octet :: increaseLast rest else (octet + 1) :: rest

def wildcardEnd (key : List UInt8) : List UInt8 := (increaseLast key.reverse).reverse

def pullokres (ksize : Nat) (key value : List UInt8) : List UInt8 :=
  ucBinconfudpPullokres :: littleEndian 4 ksize ++ key ++ littleEndian 2 value.length ++ value

def pullngres (rdata : List UInt8) : List UInt8 := ucBinconfudpPullngres :: rdata.tail

section Receive

variable {σ : Type} (uc : UcDbald σ)

/-- `get_wildcard_data`, with the reply if it is sent; none if it reads behind the datagram
or writes to a null pointer. -/
def getWildcardData (db : σ) (datagram : Datagram) (ksize : Nat) : Option (Option (List UInt8)) :=
  if datagram.keysGranted = false then some none
  else do
    let key ← slice datagram.rdata 5 ksize
    match uc.firstInRange db key (wildcardEnd key) with
    | none => some none
    | some (ekey, value) =>
      if datagram.replyGranted = false then none
      else some (if datagram.written then some (pullokres ekey.length ekey value) else none)

def receivePull (db : σ) (rdata : List UInt8) (ksize : Nat) : Option (σ × List UInt8) := do
  let key ← slice rdata 5 ksize
  match uc.get db key with
  | (held, some (octet :: rest)) =>
    let value := octet :: rest
    let reply := if ucudpbinPlsize < value.length + ksize + 9 then pullngres rdata
      else pullokres ksize key value
    some (uc.getRelease held key, reply)
  | (held, _) => some (held, pullngres rdata)

def receivePush (bc : BcData) (db : σ) (rdata : List UInt8) : Option (BcData × σ × Int) :=
  let (given, setsize) := ucBinconfSetBindata (ucBinconfCleanLkey bc) rdata.tail
  if setsize = rdata.tail.length then ucBinconfWriteChunk uc.write given db
  else some (given, db, -1)

def receivePushe (db : σ) (rdata : List UInt8) (ksize : Nat) (res : Int) :
    Option (σ × List UInt8) :=
  if 0 < res then do
    let key ← slice rdata 5 ksize
    some (if uc.keyNeedaction db key then uc.askaction db key else db, [ucBinconfudpPushokres])
  else some (db, [ucBinconfudpPushngres])

/-- `ucudpbin_receive_cb`, with the replies that it sends; none if it reads behind the
datagram or leaves the buffers of the decoder. -/
def ucudpbinReceiveCb (bc : BcData) (db : σ) (datagram : Datagram) :
    Option (BcData × σ × List (List UInt8)) :=
  let rdata := datagram.rdata
  let ksize := datagramKsize rdata
  if tooSmall rdata then some (bc, db, [])
  else if rdata.head? = some ucBinconfudpPull then do
    let (after, reply) ← receivePull uc db rdata ksize
    some (bc, after, [reply])
  else if rdata.head? = some ucBinconfudpPullWcard then do
    let reply ← getWildcardData uc db datagram ksize
    some (bc, db, [reply.getD (pullngres rdata)])
  else if rdata.head? = some ucBinconfudpPushc then do
    let (after, pushed, _) ← receivePush uc bc db rdata
    some (after, pushed, [])
  else if rdata.head? = some ucBinconfudpPushe then do
    let (after, pushed, res) ← receivePush uc bc db rdata
    let (asked, reply) ← receivePushe uc pushed rdata ksize res
    some (after, asked, [reply])
  else some (bc, db, [])

structure UdpServer (σ : Type) where
  bc : BcData
  db : σ
  history : List (Datagram × List (List UInt8))

inductive Serving (σ : Type) where
  | intact (server : UdpServer σ)
  | corrupted

def UdpServer.received (server : UdpServer σ) (datagram : Datagram)
    (result : Option (BcData × σ × List (List UInt8))) : Serving σ :=
  match result with
  | none => .corrupted
  | some (bc, db, replies) => .intact ⟨bc, db, (datagram, replies) :: server.history⟩

def receiveSystem (db : σ) : System (Serving σ) Datagram where
  start := .intact ⟨ucBinconfInit ucudpbinPlsize, db, []⟩
  step
    | .corrupted, _ => none
    | .intact server, datagram =>
      some (server.received datagram (ucudpbinReceiveCb uc server.bc server.db datagram))

end Receive

end EnetTsn.Uniconf
