import EnetTsn.Library.Loop
import EnetTsn.Md.Header

namespace EnetTsn.Pdelay

open EnetTsn.Gptp EnetTsn.Library EnetTsn.Md

/-- What `md_pdelay_resp_sm` reads of a Pdelay_Req. -/
structure PdelayRequest where
  /-- The octet that holds it, without its low half. -/
  majorSdoId : UInt8
  domainNumber : UInt8
  sequenceId : UInt16
  sourcePortIdentity : PortIdentity
  deriving DecidableEq, Repr

/-- `MDPTPMsgPdelayReq`. -/
def decodePdelayRequest (memory : Memory) : PdelayRequest where
  majorSdoId := memory 0 &&& 0xF0
  domainNumber := memory 4
  sequenceId := UInt16.ofNat (memory.load 30 2)
  sourcePortIdentity :=
    { clockIdentity := memory.array 20 8, portIndex := UInt16.ofNat (memory.load 28 2) }

/-- What `setPdelayResp` and `setPdelayRespFollowUp` compose; the correction is 0 in both. -/
structure PdelayAnswer where
  majorSdoId : UInt8
  domainNumber : UInt8
  sequenceId : UInt16
  secondsLsb : UInt32
  nanoseconds : UInt32
  requestingPortIdentity : PortIdentity
  deriving DecidableEq, Repr

structure PdelayRespSettings where
  cmldsMode : Bool
  portEnabled1 : Bool
  egressLatency : Int64
  ingressLatency : Int64

/-- What the machine reads of its port and of the network in one call, which sends one Pdelay_Resp
and one Pdelay_Resp_Follow_Up at most. -/
structure PdelayRespPort where
  BEGIN : Bool
  portOper : Bool
  /-- `gptpnet_txtslost_time`. -/
  txtsLostTime : UInt64
  /-- `gptpclock_getts64`. -/
  getts64 : UInt64
  sendResp : SendResult
  sendRespFup : SendResult

inductive PdelayRespState where
  | init
  | notEnabled
  | initialWaitingForPdelayReq
  | waitingForPdelayReq
  | sentPdelayRespWaitingForTimestamp
  | reaction
  deriving DecidableEq, Repr

/-- `md_pdelay_resp_data` with `MDPdelayRespSM`. -/
structure PdelayResp where
  state : PdelayRespState
  lastState : PdelayRespState
  rcvdPdelayReq : Bool
  recPdelayReq : PdelayRequest
  rcvdMDTimestampReceive : Bool
  txPdelayRespTime : UInt64
  mockTxts64 : UInt64
  ts2 : UInt64
  ts3 : UInt64
  /-- `last_seqid`, with `none` for a negative number. -/
  lastSeqid : Option UInt16
  is2011BackwardCompatible : Bool
  deriving DecidableEq, Repr

namespace PdelayResp

/-- `INIT_SM_DATA`. -/
def init : PdelayResp where
  state := .init
  lastState := .init
  rcvdPdelayReq := false
  recPdelayReq := { majorSdoId := 0, domainNumber := 0, sequenceId := 0
                    sourcePortIdentity := { clockIdentity := ClockIdentity.fill 0, portIndex := 0 } }
  rcvdMDTimestampReceive := false
  txPdelayRespTime := 0
  mockTxts64 := 0
  ts2 := 0
  ts3 := 0
  lastSeqid := some 0
  is2011BackwardCompatible := true

def moveTo (state : PdelayRespState) (data : PdelayResp) : PdelayResp :=
  { data with state := state }

variable (settings : PdelayRespSettings) (port : PdelayRespPort) (cts64 : UInt64)

/-- An answer to the request in the buffer, with `UB_NSEC2TS` of a time. -/
def answer (time : UInt64) (data : PdelayResp) : PdelayAnswer where
  majorSdoId := if settings.cmldsMode then data.recPdelayReq.majorSdoId else 0x10
  domainNumber := if settings.cmldsMode then data.recPdelayReq.domainNumber else 0
  sequenceId := data.recPdelayReq.sequenceId
  secondsLsb := (time / UInt64.ofNat ubSecNs).toUInt32
  nanoseconds := (time % UInt64.ofNat ubSecNs).toUInt32
  requestingPortIdentity := data.recPdelayReq.sourcePortIdentity

def setPdelayResp (data : PdelayResp) : PdelayAnswer := answer settings data.ts2 data

def setPdelayRespFollowUp (data : PdelayResp) : PdelayAnswer := answer settings data.ts3 data

def allstateCondition (data : PdelayResp) : PdelayRespState :=
  if port.BEGIN || !port.portOper || !settings.portEnabled1 then .notEnabled else data.state

def notEnabledCondition : PdelayRespState :=
  if settings.portEnabled1 then .initialWaitingForPdelayReq else .notEnabled

def initialWaitingForPdelayReqProc (data : PdelayResp) : PdelayResp :=
  { data with rcvdPdelayReq := false, lastSeqid := none }

def initialWaitingForPdelayReqCondition (data : PdelayResp) : PdelayRespState :=
  if data.rcvdPdelayReq then .sentPdelayRespWaitingForTimestamp else .initialWaitingForPdelayReq

def waitingForPdelayReqCondition (data : PdelayResp) : PdelayRespState :=
  if data.rcvdPdelayReq then .sentPdelayRespWaitingForTimestamp else .waitingForPdelayReq

/-- `sent_pdelay_resp_waiting_for_timestamp_proc`, with what the machine does when the
transmission failed. -/
def sentPdelayRespProc (data : PdelayResp) : PdelayResp :=
  let data := { data with rcvdPdelayReq := false, rcvdMDTimestampReceive := false }
  match port.sendResp with
  | .failed => { data with lastState := .reaction }
  | .skipped => { data with txPdelayRespTime := cts64, mockTxts64 := port.getts64 }
  | .sent => { data with txPdelayRespTime := cts64 }

/-- `sent_pdelay_resp_waiting_for_timestamp_condition`. -/
def sentPdelayRespCondition (data : PdelayResp) : PdelayResp :=
  if data.rcvdMDTimestampReceive then moveTo .waitingForPdelayReq data
  else if port.txtsLostTime ≤ cts64 - data.txPdelayRespTime then
    if data.mockTxts64 != 0 then
      moveTo .waitingForPdelayReq { data with ts3 := data.mockTxts64, mockTxts64 := 0 }
    -- the response is composed anew, from the request that is in the buffer then
    else { data with lastState := .reaction }
  else data

theorem sentPdelayRespCondition_cases (data : PdelayResp) :
    let next := sentPdelayRespCondition port cts64 data
    next = data ∨ next = moveTo .waitingForPdelayReq data ∧ data.rcvdMDTimestampReceive = true ∨
      next = moveTo .waitingForPdelayReq { data with ts3 := data.mockTxts64, mockTxts64 := 0 } ∧
        data.mockTxts64 ≠ 0 ∨
      next = { data with lastState := .reaction } := by
  unfold sentPdelayRespCondition
  split
  · rename_i received
    exact .inr (.inl ⟨rfl, received⟩)
  · split
    · split
      · rename_i mock
        exact .inr (.inr (.inl ⟨rfl, bne_iff_ne.mp mock⟩))
      · exact .inr (.inr (.inr rfl))
    · exact .inl rfl

def arm (stateChange : Bool) (data : PdelayResp) : PdelayResp × Option Bool :=
  match data.state with
  | .init => (moveTo .notEnabled data, none)
  | .notEnabled => (moveTo (notEnabledCondition settings) data, none)
  | .initialWaitingForPdelayReq =>
    let entered := if stateChange then initialWaitingForPdelayReqProc data else data
    (moveTo (initialWaitingForPdelayReqCondition entered) entered, none)
  | .waitingForPdelayReq =>
    if stateChange && port.sendRespFup == .failed then
      ({ data with lastState := .reaction }, some false)
    else (moveTo (waitingForPdelayReqCondition data) data, none)
  | .sentPdelayRespWaitingForTimestamp =>
    if stateChange then
      (sentPdelayRespProc port cts64 data, some (port.sendResp != .failed))
    else (sentPdelayRespCondition port cts64 data, none)
  | .reaction => (data, none)

def machine : Machine PdelayResp PdelayRespState Bool where
  state := PdelayResp.state
  lastState := PdelayResp.lastState
  setLastState data state := { data with lastState := state }
  arm := arm settings port cts64

/-- `md_pdelay_resp_sm_txts` before the machine runs; the timestamp is in the time of the
domain. A timestamp that is not expected is dropped. -/
def storeTxts (seqid : UInt16) (ts64 : UInt64) (data : PdelayResp) : Option PdelayResp :=
  if data.state ≠ .sentPdelayRespWaitingForTimestamp ∨ seqid ≠ data.recPdelayReq.sequenceId then
    none
  else some { data with
    ts3 := ts64 + settings.egressLatency.toUInt64, rcvdMDTimestampReceive := true }

/-- `md_pdelay_resp_sm_recv_req` before the machine runs: the data, and whether it runs. The
request is in the buffer either way. -/
def storeReq (message : Memory) (ts64 : UInt64) (data : PdelayResp) : PdelayResp × Bool :=
  let request := decodePdelayRequest message
  let data := { data with recPdelayReq := request }
  if request.majorSdoId ≠ 0x10 ∧ request.majorSdoId ≠ 0x20 then (data, false)
  else
    let data := { data with
      is2011BackwardCompatible := request.majorSdoId == 0x10 && request.domainNumber == 0 }
    if data.lastSeqid.any fun last => last + 1 != request.sequenceId then
      ({ data with lastSeqid := none }, false)
    else
      ({ data with
        lastSeqid := some request.sequenceId
        rcvdPdelayReq := true
        ts2 := ts64 - settings.ingressLatency.toUInt64 }, true)

end PdelayResp

end EnetTsn.Pdelay
