import EnetTsn.Library.Run
import Mathlib.Algebra.Ring.Nat
import Mathlib.Logic.Function.Basic

namespace EnetTsn.Perfmon

open EnetTsn.Library

/-- `INVALID_TIMEINTERVAL_VALUE`: one in all bits, except the most significant. -/
def invalidTimeintervalValue : Int64 := 0x7FFFFFFFFFFFFFFF

def scalednsFactor : Int64 := 0x10000

structure PerfMonAncillaryDataRecord where
  /-- The number of entries. -/
  N : UInt32
  prevM : Int64
  M : Int64
  prevV : Int64
  V : Int64
  deriving DecidableEq, Repr

/-- `perfmon_running_stat_add`. There is no result where the counter has come round to zero,
which the difference is then divided by. -/
def perfmonRunningStatAdd (anc : PerfMonAncillaryDataRecord) (x : Int64) :
    Option PerfMonAncillaryDataRecord :=
  let N := anc.N + 1
  if N = 1 then some { anc with N := N, M := x, prevM := x, prevV := 0 }
  else if N = 0 then none
  else
    -- the counter is converted to the signed type of the difference
    let M := anc.prevM + (x - anc.prevM) / N.toUInt64.toInt64
    let V := anc.prevV + (x - anc.prevM) * (x - M)
    some { N := N, prevM := M, M := M, prevV := V, V := V }

structure ParameterRecord where
  average : Int64
  min : Int64
  max : Int64
  ancillary : PerfMonAncillaryDataRecord
  deriving DecidableEq, Repr

namespace ParameterRecord

/-- A parameter after the `memset` of its data record and the initialisation values. -/
def reset : ParameterRecord where
  average := invalidTimeintervalValue
  min := invalidTimeintervalValue
  max := invalidTimeintervalValue
  ancillary := { N := 0, prevM := 0, M := 0, prevV := 0, V := 0 }

/-- What both `_dr_add` functions do with the members that their `switch` picks. -/
def add (record : ParameterRecord) (v : Int64) : Option ParameterRecord :=
  let scaledns := v * scalednsFactor
  (perfmonRunningStatAdd record.ancillary v).map fun anc =>
    { max := if record.max = invalidTimeintervalValue ∨ record.max < scaledns then scaledns
        else record.max
      min := if record.min = invalidTimeintervalValue ∨ scaledns < record.min then scaledns
        else record.min
      average := anc.M * scalednsFactor
      ancillary := anc }

end ParameterRecord

inductive PPMPDDRParams where
  | meanLinkDelay
  deriving DecidableEq, Repr

inductive CPMDRParams where
  | masterSlaveDelay
  | slaveMasterDelay
  | meanPathDelay
  | offsetFromMaster
  deriving DecidableEq, Repr

/-- A record of each parameter. -/
abbrev DataRecord (params : Type) := params → ParameterRecord

abbrev PortPerfMonPeerDelayDataRecord := DataRecord PPMPDDRParams

abbrev ClockPerfMonDataRecord := DataRecord CPMDRParams

/-- `PERFMON_SHORTINTV_DR` and `PERFMON_LONGINTV_DR`. -/
inductive RecordId where
  | shortintv
  | longintv
  deriving DecidableEq, Repr

/-- Which records a `type` stands for, `PERFMON_ALL_DR` for both. -/
def RecordId.coveredBy (type : UInt8) : RecordId → Bool
  | shortintv => type = 0 || type = 2
  | longintv => type = 1 || type = 2

abbrev DataSet (params : Type) := RecordId → DataRecord params

def DataRecord.add [DecidableEq params] (dr : DataRecord params) (p : params) (v : Int64) :
    Option (DataRecord params) :=
  ((dr p).add v).map fun record => Function.update dr p record

def DataSet.add (drAdd : DataRecord params → params → Int64 → Option (DataRecord params))
    (ds : DataSet params) (p : params) (v : Int64) : Option (DataSet params) :=
  (drAdd (ds .shortintv) p v).bind fun short =>
    (drAdd (ds .longintv) p v).map fun long id =>
      match id with
      | .shortintv => short
      | .longintv => long

/-- Reset the records that a type stands for. -/
def DataSet.reset (ds : DataSet params) (type : UInt8) : DataSet params := fun id =>
  if id.coveredBy type then fun _ => .reset else ds id

def gptpPortPerfmonPpmpddrDrAdd (dr : PortPerfMonPeerDelayDataRecord) (p : PPMPDDRParams)
    (v : Int64) : Option PortPerfMonPeerDelayDataRecord := DataRecord.add dr p v

def gptpPortPerfmonPpmpddrAdd (ds : DataSet PPMPDDRParams) (p : PPMPDDRParams) (v : Int64) :
    Option (DataSet PPMPDDRParams) := DataSet.add gptpPortPerfmonPpmpddrDrAdd ds p v

def gptpPortPerfmonDrReset (ds : DataSet PPMPDDRParams) (type : UInt8) : DataSet PPMPDDRParams :=
  DataSet.reset ds type

def gptpClockPerfmonCpmdrDrAdd (dr : ClockPerfMonDataRecord) (p : CPMDRParams) (v : Int64) :
    Option ClockPerfMonDataRecord := DataRecord.add dr p v

def gptpClockPerfmonCpmdrAdd (ds : DataSet CPMDRParams) (p : CPMDRParams) (v : Int64) :
    Option (DataSet CPMDRParams) := DataSet.add gptpClockPerfmonCpmdrDrAdd ds p v

def gptpClockPerfmonDrReset (ds : DataSet CPMDRParams) (type : UInt8) : DataSet CPMDRParams :=
  DataSet.reset ds type

inductive PerfmonEvent (params : Type) where
  | add (p : params) (v : Int64)
  | reset (type : UInt8)
  deriving DecidableEq, Repr

def perfmonSystem (add : DataSet params → params → Int64 → Option (DataSet params))
    (reset : DataSet params → UInt8 → DataSet params) :
    System (DataSet params) (PerfmonEvent params) where
  start := reset (fun _ _ => .reset) 2
  step ds event := match event with
    | .add p v => add ds p v
    | .reset type => some (reset ds type)

def portPerfmon : System (DataSet PPMPDDRParams) (PerfmonEvent PPMPDDRParams) :=
  perfmonSystem gptpPortPerfmonPpmpddrAdd gptpPortPerfmonDrReset

def clockPerfmon : System (DataSet CPMDRParams) (PerfmonEvent CPMDRParams) :=
  perfmonSystem gptpClockPerfmonCpmdrAdd gptpClockPerfmonDrReset

end EnetTsn.Perfmon
