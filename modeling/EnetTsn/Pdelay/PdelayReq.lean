import EnetTsn.Library.Binary64
import EnetTsn.Library.Loop
import EnetTsn.Md.Header

namespace EnetTsn.Pdelay

open EnetTsn.Gptp EnetTsn.Library EnetTsn.Md

/-- What `md_pdelay_req_sm` reads of a Pdelay_Resp or of a Pdelay_Resp_Follow_Up. -/
structure PdelayResponse where
  /-- The octet that holds it, without its low half. -/
  majorSdoId : UInt8
  domainNumber : UInt8
  sequenceId : UInt16
  sourcePortIdentity : PortIdentity
  secondsLsb : UInt32
  nanoseconds : UInt32
  requestingPortIdentity : PortIdentity
  deriving DecidableEq, Repr

/-- `MDPTPMsgPdelayResp` and `MDPTPMsgPdelayRespFollowUp`. -/
def decodePdelayResponse (memory : Memory) : PdelayResponse where
  majorSdoId := memory 0 &&& 0xF0
  domainNumber := memory 4
  sequenceId := UInt16.ofNat (memory.load 30 2)
  sourcePortIdentity :=
    { clockIdentity := memory.array 20 8, portIndex := UInt16.ofNat (memory.load 28 2) }
  secondsLsb := UInt32.ofNat (memory.load 36 4)
  nanoseconds := UInt32.ofNat (memory.load 40 4)
  requestingPortIdentity :=
    { clockIdentity := memory.array 44 8, portIndex := UInt16.ofNat (memory.load 52 2) }

def PdelayResponse.timestamp (response : PdelayResponse) : UInt64 :=
  response.secondsLsb.toUInt64 * UInt64.ofNat ubSecNs + response.nanoseconds.toUInt64

structure PdelaySettings where
  thisClock : ClockIdentity
  thisPort : UInt16
  conformToAvnu : Bool
  /-- `NEIGHBOR_PROP_DELAY`, where 0 stands for a measured delay. -/
  neighborPropDelay : Int32
  allowedLostResponses : UInt16
  allowedFaults : UInt16
  neighborPropDelayThresh : UInt64
  neighborPropDelayMinLimit : UInt64
  egressLatency : Int64
  ingressLatency : Int64

structure PdelayPort where
  BEGIN : Bool
  portOper : Bool
  portEnabled0 : Bool
  asymmetryMeasurementMode : Bool
  computeNeighborRateRatio : Bool
  computeNeighborPropDelay : Bool
  currentLogPdelayReqInterval : Int8
  pdelayReqInterval : UInt64
  /-- `gptpnet_txtslost_time`. -/
  txtsLostTime : UInt64
  /-- `(uint16_t)rand()`. -/
  random : UInt16
  /-- `gptpclock_getts64`. -/
  getts64 : UInt64
  send : SendResult

inductive PdelayReqState where
  | init
  | notEnabled
  | initialSendPdelayReq
  | reset
  | sendPdelayReq
  | waitingForPdelayResp
  | waitingForPdelayRespFollowUp
  | waitingForPdelayIntervalTimer
  | reaction
  deriving DecidableEq, Repr

/-- `md_pdelay_req_data` with `MDPdelayReqSM`, the global variables that it computes,
and the sequenceIds of the requests sent so far. Of the request composed last only the
sequenceId is read again. -/
structure PdelayReq where
  state : PdelayReqState
  lastState : PdelayReqState
  pdelayIntervalTimer : UInt64
  rcvdPdelayResp : Bool
  rcvdPdelayRespFollowUp : Bool
  recPdelayResp : PdelayResponse
  recPdelayRespFup : PdelayResponse
  txPdelayReq : UInt16
  rcvdMDTimestampReceive : Bool
  pdelayReqSequenceId : UInt16
  lostResponses : UInt16
  detectedFaults : UInt16
  multiResponses : UInt16
  neighborRateRatioValid : Bool
  t1ts64 : UInt64
  t2ts64 : UInt64
  t3ts64 : UInt64
  t4ts64 : UInt64
  prevT1ts64 : UInt64
  prevT2ts64 : UInt64
  mockTxts64 : UInt64
  neighborRateRatio : ℚ
  neighborPropDelay : UInt64
  isMeasuringDelay : Bool
  asCapableAcrossDomains : Bool
  is2011BackwardCompatible : Bool
  sent : List UInt16
  deriving DecidableEq

/-- `computePdelayRateRatio` looks at intervals within half of the request interval. -/
def inWindow (interval dt : UInt64) : Bool :=
  decide (interval / 2 < dt) && decide (dt < interval + interval / 2)

def pdelayRateRatio (t1 t2 prevT1 prevT2 : UInt64) : ℚ :=
  Binary64.div
    (Binary64.sub (Binary64.round t2.toNat) (Binary64.round prevT2.toNat))
    (Binary64.sub (Binary64.round t1.toNat) (Binary64.round prevT1.toNat))

/-- `(oldRateRatio+pDelayRateRatio)/2.0`. -/
def average (oldRateRatio rateRatio : ℚ) : ℚ :=
  Binary64.div (Binary64.add oldRateRatio rateRatio) 2

def computedPropTimeTooBig : Int64 := 10000000

/-- The conversion of a double to `int64_t`. -/
def truncateInt64 (value : ℚ) : Int64 := Int64.ofInt (Binary64.truncate value)

/-- `computePropTime` before the result is clipped. -/
def rawPropTime (neighborRateRatio : ℚ) (t1 t2 t3 t4 : UInt64) : Int64 :=
  let dts1 := truncateInt64
    (Binary64.mul neighborRateRatio (Binary64.round (t4.toInt64 - t1.toInt64).toInt))
  let dts2 := t3.toInt64 - t2.toInt64
  (dts1 - dts2) / 2

def clip (rts : Int64) : UInt64 :=
  if rts < 0 ∨ computedPropTimeTooBig < rts then 0 else rts.toUInt64

namespace PdelayReq

/-- `INIT_SM_DATA`. -/
def init : PdelayReq :=
  let empty : PdelayResponse :=
    { majorSdoId := 0, domainNumber := 0, sequenceId := 0
      sourcePortIdentity := { clockIdentity := ClockIdentity.fill 0, portIndex := 0 }
      secondsLsb := 0, nanoseconds := 0
      requestingPortIdentity := { clockIdentity := ClockIdentity.fill 0, portIndex := 0 } }
  { state := .init, lastState := .init, pdelayIntervalTimer := 0, rcvdPdelayResp := false
    rcvdPdelayRespFollowUp := false, recPdelayResp := empty, recPdelayRespFup := empty
    txPdelayReq := 0, rcvdMDTimestampReceive := false, pdelayReqSequenceId := 0
    lostResponses := 0, detectedFaults := 0, multiResponses := 0, neighborRateRatioValid := false
    t1ts64 := 0, t2ts64 := 0, t3ts64 := 0, t4ts64 := 0, prevT1ts64 := 0, prevT2ts64 := 0
    mockTxts64 := 0, neighborRateRatio := 0, neighborPropDelay := 0, isMeasuringDelay := false
    asCapableAcrossDomains := false, is2011BackwardCompatible := true, sent := [] }

def moveTo (state : PdelayReqState) (data : PdelayReq) : PdelayReq := { data with state := state }

def again (state : PdelayReqState) (data : PdelayReq) : PdelayReq :=
  { data with lastState := .reaction, state := state }

variable (settings : PdelaySettings) (port : PdelayPort) (cts64 : UInt64)

/-- `isPdelayIntervalTimerExpired`. -/
def expired (data : PdelayReq) : Bool :=
  decide (port.pdelayReqInterval ≤ cts64 - data.pdelayIntervalTimer)

def allstateCondition (data : PdelayReq) : PdelayReqState :=
  if port.BEGIN || !port.portOper || !port.portEnabled0 then .notEnabled
  else if port.currentLogPdelayReqInterval == 127 then .initialSendPdelayReq
  else data.state

def notEnabledProc (data : PdelayReq) : PdelayReq :=
  if settings.neighborPropDelay ≠ 0 then
    { data with
      neighborRateRatio := 1
      asCapableAcrossDomains := true
      neighborPropDelay := settings.neighborPropDelay.toInt64.toUInt64 }
  else data

def notEnabledCondition (data : PdelayReq) : PdelayReqState :=
  if settings.neighborPropDelay ≠ 0 then
    if !data.asCapableAcrossDomains then .reaction else .notEnabled
  else if port.portOper && port.portEnabled0 then .initialSendPdelayReq
  else .notEnabled

/-- Send the request with the current sequenceId; a skipped one gets a timestamp of the
clock. -/
def transmit (data : PdelayReq) : PdelayReq :=
  let data := { data with txPdelayReq := data.pdelayReqSequenceId }
  match port.send with
  | .failed => data
  | .skipped => { data with mockTxts64 := port.getts64 }
  | .sent => { data with sent := data.sent ++ [data.pdelayReqSequenceId] }

/-- `initial_send_pdelay_req_proc`: a failed transmission leaves the rest as it was. -/
def initialSendPdelayReqProc (data : PdelayReq) : PdelayReq :=
  let data := transmit port { data with
    rcvdPdelayResp := false
    rcvdPdelayRespFollowUp := false
    neighborRateRatio := 1
    prevT1ts64 := 0
    prevT2ts64 := 0
    rcvdMDTimestampReceive := false
    pdelayReqSequenceId := port.random }
  match port.send with
  | .failed => { data with lastState := .reaction }
  | .skipped | .sent =>
    { data with
      pdelayIntervalTimer := cts64
      lostResponses := 0
      multiResponses := 0
      detectedFaults := 0
      isMeasuringDelay := false
      asCapableAcrossDomains := false }

def lostTimestamp (repeated : PdelayReq → PdelayReq) (data : PdelayReq) : PdelayReq :=
  if port.txtsLostTime ≤ cts64 - data.pdelayIntervalTimer then
    if data.mockTxts64 != 0 then
      moveTo .waitingForPdelayResp { data with t1ts64 := data.mockTxts64, mockTxts64 := 0 }
    else repeated data
  else data

def initialSendPdelayReqCondition (data : PdelayReq) : PdelayReq :=
  if port.currentLogPdelayReqInterval == 127 then data
  else if data.rcvdMDTimestampReceive then moveTo .waitingForPdelayResp data
  else lostTimestamp port cts64 (again .initialSendPdelayReq) data

def giveUp (data : PdelayReq) : PdelayReq :=
  { data with
    isMeasuringDelay := false
    asCapableAcrossDomains := false
    neighborRateRatioValid := false
    neighborRateRatio := 1 }

/-- The second part of `reset_proc`, after which the requests cease for some time. -/
def resetMultiResponses (data : PdelayReq) : PdelayReq :=
  if settings.conformToAvnu && data.multiResponses != 0 &&
      decide (settings.allowedLostResponses ≤ data.multiResponses) then giveUp data
  else data

def resetProc (data : PdelayReq) : PdelayReq :=
  let data := { data with rcvdPdelayResp := false }
  if data.lostResponses < settings.allowedLostResponses then
    resetMultiResponses settings { data with lostResponses := data.lostResponses + 1 }
  else if !data.asCapableAcrossDomains then { data with isMeasuringDelay := false }
  else resetMultiResponses settings (giveUp data)

/-- `CEASETIME_AVNU_MULTIRESPOSE`: five minutes. -/
def ceasetimeAvnuMultirespose : UInt64 := UInt64.ofNat (5 * 60 * ubSecNs)

def resetTimer (data : PdelayReq) : PdelayReq :=
  moveTo (if data.expired port cts64 then .sendPdelayReq else .reset) data

def resetCondition (data : PdelayReq) : PdelayReq :=
  if settings.conformToAvnu && decide (settings.allowedLostResponses ≤ data.multiResponses) then
    if cts64 - data.pdelayIntervalTimer < ceasetimeAvnuMultirespose then moveTo .reset data
    else resetTimer port cts64 { data with multiResponses := 0 }
  else resetTimer port cts64 data

/-- `send_pdelay_req_proc`, with what the machine does when the transmission failed. -/
def sendPdelayReqProc (data : PdelayReq) : PdelayReq :=
  let data := transmit port { data with
    rcvdPdelayResp := false
    rcvdPdelayRespFollowUp := false
    pdelayReqSequenceId := data.pdelayReqSequenceId + 1 }
  match port.send with
  | .failed =>
    { data with pdelayReqSequenceId := data.pdelayReqSequenceId - 1, lastState := .reaction }
  | .skipped | .sent => { data with pdelayIntervalTimer := cts64 }

def sendPdelayReqCondition (data : PdelayReq) : PdelayReq :=
  if data.rcvdMDTimestampReceive then moveTo .waitingForPdelayResp data
  else lostTimestamp port cts64 (fun data => again .sendPdelayReq
    { data with pdelayReqSequenceId := data.pdelayReqSequenceId - 1 }) data

def waitingForPdelayRespProc (data : PdelayReq) : PdelayReq :=
  { data with rcvdMDTimestampReceive := false }

def acceptedSdo (response : PdelayResponse) : Bool :=
  response.majorSdoId == 0x10 || response.majorSdoId == 0x20

/-- What becomes of a received Pdelay_Resp. One with an earlier sequenceId is accepted
all the same. -/
def respState (data : PdelayReq) : PdelayReqState :=
  let response := data.recPdelayResp
  if response.sourcePortIdentity.clockIdentity == settings.thisClock then .reset
  else if response.requestingPortIdentity.clockIdentity != settings.thisClock then .reset
  else if response.requestingPortIdentity.portIndex != settings.thisPort then .reset
  else if !acceptedSdo response then .waitingForPdelayResp
  else if data.txPdelayReq < response.sequenceId then .reset
  else .waitingForPdelayRespFollowUp

def waitingForPdelayRespCondition (data : PdelayReq) : PdelayReq :=
  if data.expired port cts64 then moveTo .reset data
  else if !data.rcvdPdelayResp then
    if data.rcvdPdelayRespFollowUp && data.txPdelayReq != data.recPdelayRespFup.sequenceId then
      { data with rcvdPdelayRespFollowUp := false }
    else data
  else moveTo (respState settings data) data

def waitingForPdelayRespFollowUpProc (data : PdelayReq) : PdelayReq :=
  { data with rcvdPdelayResp := false }

/-- What becomes of a received Pdelay_Resp_Follow_Up. Where it comes from counts only
when the Pdelay_Resp is not for this port. -/
def respFupState (data : PdelayReq) : PdelayReqState :=
  let followUp := data.recPdelayRespFup
  let response := data.recPdelayResp
  if !acceptedSdo followUp then .waitingForPdelayRespFollowUp
  else if followUp.sourcePortIdentity.clockIdentity == settings.thisClock then .reset
  else if followUp.sequenceId != data.txPdelayReq then .waitingForPdelayRespFollowUp
  else if followUp.sourcePortIdentity == response.sourcePortIdentity then
    .waitingForPdelayIntervalTimer
  else if response.requestingPortIdentity.clockIdentity != settings.thisClock then
    .waitingForPdelayRespFollowUp
  else if response.requestingPortIdentity.portIndex != settings.thisPort then
    .waitingForPdelayRespFollowUp
  else .waitingForPdelayIntervalTimer

def waitingForPdelayRespFollowUpCondition (data : PdelayReq) : PdelayReq :=
  if data.expired port cts64 then moveTo .reset data
  else if data.rcvdPdelayResp && data.recPdelayResp.sequenceId == data.txPdelayReq then
    moveTo .reset { data with multiResponses := data.multiResponses + 1 }
  else if !data.rcvdPdelayRespFollowUp then data
  else moveTo (respFupState settings data) data

def updateRateRatio (data : PdelayReq) : PdelayReq :=
  if port.computeNeighborRateRatio then
    let inside := inWindow port.pdelayReqInterval (data.t1ts64 - data.prevT1ts64) &&
      inWindow port.pdelayReqInterval (data.t2ts64 - data.prevT2ts64)
    let rateRatio :=
      if inside then pdelayRateRatio data.t1ts64 data.t2ts64 data.prevT1ts64 data.prevT2ts64
      else 1
    { data with
      neighborRateRatioValid := data.neighborRateRatioValid || inside
      prevT1ts64 := data.t1ts64
      prevT2ts64 := data.t2ts64
      neighborRateRatio := average data.neighborRateRatio rateRatio }
  else { data with neighborRateRatioValid := true }

/-- `computePropTime` before the result is clipped, with the current timestamps. -/
def rawDelay (data : PdelayReq) : Int64 :=
  rawPropTime data.neighborRateRatio data.t1ts64 data.t2ts64 data.t3ts64 data.t4ts64

def updatePropDelay (data : PdelayReq) : PdelayReq :=
  if port.computeNeighborPropDelay then { data with neighborPropDelay := clip data.rawDelay }
  else data

/-- The label `noascapable`. -/
def noAsCapable (data : PdelayReq) : PdelayReq :=
  { data with asCapableAcrossDomains := false, isMeasuringDelay := false, detectedFaults := 0 }

/-- The label `detectedfault`: a fault is tolerated, and the delay before it kept. -/
def detectedFault (previous : UInt64) (data : PdelayReq) : PdelayReq :=
  if data.detectedFaults ≤ settings.allowedFaults then
    { data with detectedFaults := data.detectedFaults + 1, neighborPropDelay := previous }
  else noAsCapable data

def judge (previous : UInt64) (data : PdelayReq) : PdelayReq :=
  let foreign := data.recPdelayResp.sourcePortIdentity.clockIdentity != settings.thisClock
  if decide (data.neighborPropDelay < settings.neighborPropDelayMinLimit) && foreign &&
      data.neighborRateRatioValid then detectedFault settings previous data
  else if decide (data.neighborPropDelay ≤ settings.neighborPropDelayThresh) && foreign &&
      data.neighborRateRatioValid then
    { data with detectedFaults := 0, asCapableAcrossDomains := true }
  else if foreign && !data.neighborRateRatioValid then noAsCapable data
  else detectedFault settings previous data

def completeExchange (data : PdelayReq) : PdelayReq :=
  { data with
    rcvdPdelayRespFollowUp := false
    lostResponses := 0
    multiResponses := 0
    is2011BackwardCompatible :=
      data.recPdelayResp.majorSdoId == 0x10 && data.recPdelayResp.domainNumber == 0 &&
        data.recPdelayRespFup.majorSdoId == 0x10 && data.recPdelayRespFup.domainNumber == 0 }

def measure (data : PdelayReq) : PdelayReq :=
  { updatePropDelay port (updateRateRatio port (completeExchange data)) with
    isMeasuringDelay := true }

def waitingForPdelayIntervalTimerProc (data : PdelayReq) : PdelayReq :=
  if port.asymmetryMeasurementMode then completeExchange data
  else judge settings data.neighborPropDelay (measure port data)

def waitingForPdelayIntervalTimerCondition (data : PdelayReq) : PdelayReqState :=
  if data.expired port cts64 then .sendPdelayReq else .waitingForPdelayIntervalTimer

def arm (stateChange : Bool) (data : PdelayReq) : PdelayReq × Option Unit :=
  match data.state with
  | .init => (moveTo .notEnabled data, none)
  | .notEnabled =>
    let entered := if stateChange then notEnabledProc settings data else data
    (moveTo (notEnabledCondition settings port entered) entered, none)
  | .initialSendPdelayReq =>
    if stateChange then (initialSendPdelayReqProc port cts64 data, some ())
    else (initialSendPdelayReqCondition port cts64 data, none)
  | .reset =>
    (resetCondition settings port cts64 (if stateChange then resetProc settings data else data),
      none)
  | .sendPdelayReq =>
    if stateChange then (sendPdelayReqProc port cts64 data, some ())
    else (sendPdelayReqCondition port cts64 data, none)
  | .waitingForPdelayResp =>
    (waitingForPdelayRespCondition settings port cts64
      (if stateChange then waitingForPdelayRespProc data else data), none)
  | .waitingForPdelayRespFollowUp =>
    (waitingForPdelayRespFollowUpCondition settings port cts64
      (if stateChange then waitingForPdelayRespFollowUpProc data else data), none)
  | .waitingForPdelayIntervalTimer =>
    let entered := if stateChange then waitingForPdelayIntervalTimerProc settings port data else data
    (moveTo (waitingForPdelayIntervalTimerCondition port cts64 entered) entered, none)
  | .reaction => (data, none)

def machine : Machine PdelayReq PdelayReqState Unit where
  state := PdelayReq.state
  lastState := PdelayReq.lastState
  setLastState data state := { data with lastState := state }
  arm := arm settings port cts64

/-- `md_pdelay_req_sm_txts` before the machine runs; the timestamp is in the time of the
domain. A timestamp that is not expected is dropped. -/
def storeTxts (seqid : UInt16) (ts64 : UInt64) (data : PdelayReq) : Option PdelayReq :=
  if data.state ≠ .sendPdelayReq ∧ data.state ≠ .initialSendPdelayReq then none
  else if seqid ≠ data.pdelayReqSequenceId then none
  else some { data with
    t1ts64 := ts64 + settings.egressLatency.toUInt64, rcvdMDTimestampReceive := true }

/-- `md_pdelay_req_sm_recv_resp` before the machine runs. -/
def storeResp (message : Memory) (ts64 : UInt64) (data : PdelayReq) : PdelayReq :=
  let response := decodePdelayResponse message
  { data with
    rcvdPdelayResp := true
    recPdelayResp := response
    t2ts64 := response.timestamp
    t4ts64 := ts64 - settings.ingressLatency.toUInt64 }

/-- `md_pdelay_req_sm_recv_respfup` before the machine runs. -/
def storeRespFup (message : Memory) (data : PdelayReq) : PdelayReq :=
  let followUp := decodePdelayResponse message
  { data with
    rcvdPdelayRespFollowUp := true
    recPdelayRespFup := followUp
    t3ts64 := followUp.timestamp }

end PdelayReq

open PdelayReq in
/-- `md_pdelay_req_sm`; see `mdPdelayReqSm_total`. -/
def mdPdelayReqSm (settings : PdelaySettings) (port : PdelayPort) (cts64 : UInt64)
    (data : PdelayReq) : Option (PdelayReq × Option Unit) :=
  (machine settings port cts64).run 8 (moveTo (allstateCondition port data) data)

end EnetTsn.Pdelay
