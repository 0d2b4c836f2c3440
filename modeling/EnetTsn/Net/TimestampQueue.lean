import EnetTsn.Library.Loop
import EnetTsn.Library.Octets
import EnetTsn.Library.RingBuffer
import EnetTsn.Library.Run

namespace EnetTsn.Net

open EnetTsn.Library

/-- `txts_info_t`; the cell of the queue tells whether it is used. -/
structure TxtsInfo where
  ndevIndex : Nat
  msgtype : UInt8
  seqid : UInt16
  domain : UInt8
  deriving DecidableEq, Repr

abbrev maxTxtsInfo : Nat := 32

instance neZero_maxTxtsInfo : NeZero maxTxtsInfo := ⟨by decide⟩

abbrev TxtsQueue := Ring TxtsInfo maxTxtsInfo

def gptpMaxPacketSize : UInt16 := 1500

def ptpHeadMsgtype (pdata : Memory) : UInt8 := pdata 0 &&& 0x0f

def ptpHeadDomainNumber (pdata : Memory) : UInt8 := pdata 4

def ptpHeadSeqid (pdata : Memory) : UInt16 := UInt16.ofNat (pdata.load 30 2)

/-- A call of `gptpnet_send`: the send buffer of the device, and what the socket answers. -/
structure SendCall where
  ndevIndex : Nat
  pdata : Memory
  length : UInt16
  sendto : Int

namespace SendCall

def txtsInfo (call : SendCall) : TxtsInfo where
  ndevIndex := call.ndevIndex
  msgtype := ptpHeadMsgtype call.pdata
  seqid := ptpHeadSeqid call.pdata
  domain := ptpHeadDomainNumber call.pdata

def isEvent (call : SendCall) : Bool := ptpHeadMsgtype call.pdata < 8

def tooLong (call : SendCall) : Bool := gptpMaxPacketSize < call.length

def transmitted (call : SendCall) : Bool := !call.tooLong && decide (0 ≤ call.sendto)

end SendCall

/-- `push_txts_info`; a full queue stays as it is. -/
def pushTxtsInfo (queue : TxtsQueue) (info : TxtsInfo) : TxtsQueue := (queue.push info).getD queue

/-- `pop_txts_info`; an empty queue stays as it is. -/
def popTxtsInfo (queue : TxtsQueue) : Option TxtsInfo × TxtsQueue :=
  match queue.pop with
  | none => (none, queue)
  | some (info, next) => (some info, next)

def gptpnetSend (call : SendCall) (queue : TxtsQueue) : TxtsQueue × Int :=
  if call.tooLong then (queue, -1)
  else
    let pushed := if call.isEvent then pushTxtsInfo queue call.txtsInfo else queue
    if call.sendto < 0 then ((popTxtsInfo pushed).2, -1) else (pushed, call.sendto)

structure TimestampKey where
  txPort : UInt8
  msgType : UInt8
  seqId : UInt16
  domain : UInt8
  deriving DecidableEq, Repr

/-- The Ethernet driver below: its timestamp request, and the stamping of a frame that
was transmitted. -/
structure EnetDriver (δ : Type) where
  getTxTimestamp : δ → TimestampKey → Option UInt64 × δ
  complete : δ → TimestampKey → UInt64 → δ

/-- The driver keeps the timestamps of the transmitted frames until they are asked for,
and hands out the oldest one with the given identifiers. -/
structure EnetDriver.Lawful (driver : EnetDriver δ) (stamps : δ → List (TimestampKey × UInt64)) :
    Prop where
  complete : ∀ state key ts, stamps (driver.complete state key ts) = stamps state ++ [(key, ts)]
  found : ∀ state key ts before after, stamps state = before ++ (key, ts) :: after →
    (∀ stamp ∈ before, stamp.1 ≠ key) → (driver.getTxTimestamp state key).1 = some ts ∧
      stamps (driver.getTxTimestamp state key).2 = before ++ after
  missing : ∀ state key, (∀ stamp ∈ stamps state, stamp.1 ≠ key) →
    (driver.getTxTimestamp state key).1 = none ∧
      stamps (driver.getTxTimestamp state key).2 = stamps state

/-- The layers over the driver: `lldtsync.c` of `jacinto`, and the two sources of `sitara`. -/
inductive LLDTsync where
  | jacinto
  | sitaraCpts
  | sitaraPhy
  deriving DecidableEq, Repr

/-- `LLDTSyncGetTxTime`: none is an error. With the CPTS of `sitara` a failed request is
no error, and the variable keeps what was in it. -/
def LLDTsync.getTxTime (lldtsync : LLDTsync) (answer : Option UInt64) (ts : UInt64) :
    Option UInt64 :=
  match lldtsync with
  | .jacinto | .sitaraPhy => answer
  | .sitaraCpts => some (answer.getD ts)

structure Gpnet where
  macports : List UInt8
  lldtsync : LLDTsync

/-- `ndev_index_to_macport`; -1 is an octet at the driver. -/
def Gpnet.ndevIndexToMacport (gpnet : Gpnet) (ndevIndex : Nat) : UInt8 :=
  gpnet.macports[ndevIndex]?.getD 255

def Gpnet.key (gpnet : Gpnet) (info : TxtsInfo) : TimestampKey where
  txPort := gpnet.ndevIndexToMacport info.ndevIndex
  msgType := info.msgtype
  seqId := info.seqid
  domain := info.domain

/-- What the callback gets with `GPTPNET_EVENT_TXTS`. -/
structure EventDataTxts where
  portIndex : Nat
  msgtype : UInt8
  seqid : UInt16
  domain : UInt8
  ts64 : UInt64
  deriving DecidableEq, Repr

def provideTxts (info : TxtsInfo) (ts : UInt64) : EventDataTxts where
  portIndex := info.ndevIndex + 1
  msgtype := info.msgtype
  seqid := info.seqid
  domain := info.domain
  ts64 := ts

/-- What `process_txts` works on. -/
structure TxtsLoop (δ : Type) where
  queue : TxtsQueue
  driver : δ
  ts : UInt64
  provided : List EventDataTxts

/-- One turn of `process_txts`. -/
def txtsTurn (gpnet : Gpnet) (driver : EnetDriver δ) (loop : TxtsLoop δ) :
    Turn (TxtsLoop δ) Unit :=
  match popTxtsInfo loop.queue with
  | (none, _) => .leave loop ()
  | (some info, queue) =>
    let answer := driver.getTxTimestamp loop.driver (gpnet.key info)
    let ts := answer.1.getD loop.ts
    match gpnet.lldtsync.getTxTime answer.1 loop.ts with
    | none => .again { loop with queue := queue, driver := answer.2, ts := ts }
    | some stamp => .again {
        queue := queue
        driver := answer.2
        ts := ts
        provided := loop.provided ++ [provideTxts info stamp] }

/-- `process_txts`: the queue is empty after as many turns as it has cells. -/
def processTxts (gpnet : Gpnet) (driver : EnetDriver δ) (loop : TxtsLoop δ) :
    Option (TxtsLoop δ) :=
  (iterate (txtsTurn gpnet driver) (maxTxtsInfo + 1) loop).map (·.1)

/-- The queue and the driver, with what happened to the event messages so far: the ones on
their way, the ones that were stamped, and the reports. -/
structure TxtsState (δ : Type) where
  queue : TxtsQueue
  driver : δ
  inFlight : List TxtsInfo
  completions : List EventDataTxts
  reports : List EventDataTxts

inductive TxtsEvent where
  | send (call : SendCall)
  /-- The oldest frames on their way are stamped, and `process_txts` runs; its variable
  holds `ts` at the start. -/
  | processTxts (stamps : List UInt64) (ts : UInt64)

namespace TxtsState

def stamped (state : TxtsState δ) (stamps : List UInt64) : List (TxtsInfo × UInt64) :=
  state.inFlight.zip stamps

def completed (gpnet : Gpnet) (driver : EnetDriver δ) (state : TxtsState δ)
    (stamps : List UInt64) : δ :=
  (state.stamped stamps).foldl (fun current frame =>
    driver.complete current (gpnet.key frame.1) frame.2) state.driver

def sent (state : TxtsState δ) (call : SendCall) : TxtsState δ :=
  { state with
    queue := (gptpnetSend call state.queue).1
    inFlight := if call.transmitted && call.isEvent then state.inFlight ++ [call.txtsInfo]
      else state.inFlight }

/-- The outcome of a call of `process_txts`. -/
def processed (state : TxtsState δ) (stamps : List UInt64) (loop : TxtsLoop δ) : TxtsState δ where
  queue := loop.queue
  driver := loop.driver
  inFlight := state.inFlight.drop stamps.length
  completions := state.completions ++
    (state.stamped stamps).map fun frame => provideTxts frame.1 frame.2
  reports := loop.provided

end TxtsState

/-- The calls of `gptpnet_send` and the completions in any order. -/
def txtsSystem (gpnet : Gpnet) (driver : EnetDriver δ) (initial : δ) :
    System (TxtsState δ) TxtsEvent where
  start := {
    queue := Ring.empty
    driver := initial
    inFlight := []
    completions := []
    reports := [] }
  step state
    | .send call =>
      if call.ndevIndex < gpnet.macports.length then some (state.sent call) else none
    | .processTxts stamps ts =>
      if stamps.length ≤ state.inFlight.length then
        (processTxts gpnet driver {
          queue := state.queue
          driver := state.completed gpnet driver stamps
          ts := ts
          provided := state.reports }).map (state.processed stamps)
      else none

end EnetTsn.Net
