import EnetTsn.Bmcs.Initial

namespace EnetTsn.Bmcs

open EnetTsn.Gptp EnetTsn.Library

inductive GptpCapableTransmitState where
  | init
  | notEnabled
  | initialise
  | transmitTlv
  | reaction
  deriving DecidableEq, Repr

abbrev tlvOrganizationId : Vector UInt8 3 := #v[0x00, 0x80, 0xC2]

structure PTPMsgGPTPCapableTLV where
  tlvType : UInt16
  lengthField : UInt16
  organizationId : Vector UInt8 3
  organizationSubType : UInt32
  logGptpCapableMessageInterval : Int8
  flags : UInt8
  deriving DecidableEq, Repr

structure GptpCapableTransmitData where
  state : GptpCapableTransmitState
  lastState : GptpCapableTransmitState
  signalingMsgTimeInterval : UInt64
  intervalTimer : UInt64
  numberGptpCapableMessageTransmissions : UInt8

/-- A port with the data of the gPTP-capable transmission: two more variables of
`PerPortGlobal` and the data of the machine. -/
structure CapablePort where
  port : Port
  gPtpCapableReceiptTimeout : Int8
  oldGptpCapableMessageInterval : UInt64
  gctransd : GptpCapableTransmitData

namespace CapablePort

def init (settings : PortSettings) (gPtpCapableReceiptTimeout : Int8) (portIndex : Nat) :
    CapablePort where
  port := Port.init settings portIndex
  gPtpCapableReceiptTimeout := gPtpCapableReceiptTimeout
  oldGptpCapableMessageInterval := 0
  gctransd :=
    { state := .init, lastState := .init, signalingMsgTimeInterval := 0, intervalTimer := 0
      numberGptpCapableMessageTransmissions := 0 }

end CapablePort

namespace GptpCapableTransmit

def moveTo (state : GptpCapableTransmitState) (capable : CapablePort) : CapablePort :=
  { capable with gctransd := { capable.gctransd with state := state } }

def remember (state : GptpCapableTransmitState) (capable : CapablePort) : CapablePort :=
  { capable with gctransd := { capable.gctransd with lastState := state } }

def enabled (capable : CapablePort) : Bool :=
  capable.port.ppg.portOper && capable.port.ppg.ptpPortEnabled

def stopped (capable : CapablePort) : Bool :=
  capable.port.ppg.currentLogGptpCapableMessageInterval == 127

def allstateCondition (ptasg : PerTimeAwareSystemGlobal) (capable : CapablePort) :
    GptpCapableTransmitState :=
  if ptasg.BEGIN || !ptasg.instanceEnable || !enabled capable then .notEnabled
  else if stopped capable then .initialise
  else capable.gctransd.state

/-- `initialize_proc`. The shift count is the interval as an octet; here it is taken
modulo 32. -/
def initializeProc (cts64 : UInt64) (capable : CapablePort) : CapablePort :=
  { capable with
    gctransd := { capable.gctransd with
      signalingMsgTimeInterval := UInt64.ofNat (ubSecNs *
        2 ^ (capable.port.ppg.currentLogGptpCapableMessageInterval.toUInt8.toNat % 32))
      intervalTimer := cts64 }
    port := { capable.port with ppg := { capable.port.ppg with
      gPtpCapableMessageSlowdown := false } } }

/-- `numberGptpCapableMessageTransmissions >= gPtpCapableReceiptTimeout`. -/
def slowedDown (capable : CapablePort) : Bool :=
  capable.gPtpCapableReceiptTimeout.toInt ≤
    capable.gctransd.numberGptpCapableMessageTransmissions.toNat

def interval3 (capable : CapablePort) : UInt64 :=
  if capable.port.ppg.gPtpCapableMessageSlowdown && !slowedDown capable then
    capable.oldGptpCapableMessageInterval
  else capable.port.ppg.gPtpCapableMessageInterval

def count (capable : CapablePort) : CapablePort :=
  if capable.port.ppg.gPtpCapableMessageSlowdown && !slowedDown capable then
    { capable with gctransd := { capable.gctransd with
      numberGptpCapableMessageTransmissions :=
        capable.gctransd.numberGptpCapableMessageTransmissions + 1 } }
  else
    { capable with
      gctransd := { capable.gctransd with numberGptpCapableMessageTransmissions := 0 }
      port := { capable.port with ppg := { capable.port.ppg with
        gPtpCapableMessageSlowdown := false } } }

def setGptpCapableTlv (capable : CapablePort) : PTPMsgGPTPCapableTLV where
  tlvType := 0x8000
  lengthField := 12
  organizationId := tlvOrganizationId
  organizationSubType := 4
  logGptpCapableMessageInterval := capable.port.ppg.currentLogGptpCapableMessageInterval
  flags := 0x00

def transmitTlvProc (capable : CapablePort) : CapablePort :=
  { count capable with gctransd := { (count capable).gctransd with
    intervalTimer := capable.gctransd.intervalTimer + interval3 capable } }

/-- The arms of the switch. Having transmitted, the machine returns without a look at
its condition; the condition asks for the next transmission through the last state. -/
def arm (cts64 : UInt64) (stateChange : Bool) (capable : CapablePort) :
    CapablePort × Option PTPMsgGPTPCapableTLV :=
  match capable.gctransd.state with
  | .init => (moveTo .notEnabled capable, none)
  | .notEnabled => (moveTo (if enabled capable then .initialise else .notEnabled) capable, none)
  | .initialise =>
    let capable := if stateChange then initializeProc cts64 capable else capable
    (moveTo (if stopped capable then .initialise else .transmitTlv) capable, none)
  | .transmitTlv =>
    if stateChange then
      let sent := transmitTlvProc capable
      (sent, some (setGptpCapableTlv sent))
    else if stopped capable then (moveTo .initialise capable, none)
    else if capable.gctransd.intervalTimer ≤ cts64 then
      (moveTo .transmitTlv (remember .reaction capable), none)
    else (moveTo .transmitTlv capable, none)
  | .reaction => (capable, none)

def machine (cts64 : UInt64) :
    Machine CapablePort GptpCapableTransmitState PTPMsgGPTPCapableTLV where
  state capable := capable.gctransd.state
  lastState capable := capable.gctransd.lastState
  setLastState capable state := remember state capable
  arm := arm cts64

end GptpCapableTransmit

end EnetTsn.Bmcs
