import EnetTsn.Library.Loop
import EnetTsn.Uniconf.Notice

/-!
The items of a runtime configuration: `proc_one_item` follows the nodes and value keys of a key
text, which may go on from the path of the item before, finds the type of the value in the
database, and stores the value there.
-/

namespace EnetTsn.Uniconf

open EnetTsn.Library

/-- `UC_MAX_AP_DEPTH`. -/
def maxApDepth : Nat := 16

/-- `UC_MAX_KV_DEPTH`. -/
def maxKvDepth : Nat := 10

/-- The size of `apsd`, which is two octets longer than what `aps` has of it. -/
def apsdSize : Nat := maxApDepth + 5

def xl4DataRw : UInt8 := 0

def xl4ExtmodRw : UInt8 := 1

def xl4ExtmodRo : UInt8 := 129

def ucMirror : UInt8 := 12

def ucMirrorDevice : UInt8 := 0

def yangVtypeString : UInt8 := 12

def yangVtypeUint8 : UInt8 := 13

def octetsOf (text : String) : List UInt8 := text.toUTF8.data.toList

/-- `struct yang_db_runtime_data`, without the handles. The arrays are given by their cells; those
that an array does not have belong to nothing here. -/
structure YangDbRuntimeData where
  aps : Nat → UInt8
  api : UInt8
  /-- The value keys; the absent ones are `NULL`. -/
  kvs : Nat → Option (List UInt8)
  kss : Nat → UInt8
  kpi : Nat → UInt8
  changtoRO : Bool

/-- `YANG_DB_ACTION_CREATE`, `YANG_DB_ACTION_APPEND` and `YANG_DB_ACTION_DELETE`. -/
inductive RuntimeAction where
  | create
  | append
  | delete

structure RuntimeSurroundings where
  /-- `yang_node_get_node_enums` of a name below some nodes, when it gives one number. -/
  nodeEnums : List UInt8 → List UInt8 → Nat → Option UInt8
  /-- `yang_node_mod_get_enum`. -/
  modEnum : List UInt8 → UInt8
  /-- `yang_node_extmod_get_enum`. -/
  extmodEnum : List UInt8 → UInt8
  /-- `uc_dbal_get`: the first octet of the item of a key. -/
  dbalGet : List UInt8 → Option UInt8
  /-- `ydbi_get_1588ptp_instance`. -/
  ptpInstance : UInt8 → List UInt8 → Option Nat
  /-- `yang_value_conv` of a type, a text and hints into what a place has: the value, or what the
  place is left with. -/
  valueConv : UInt8 → List UInt8 → List UInt8 → Option (List UInt8) →
    Except (Option (List UInt8)) (List UInt8)
  /-- `yang_db_action` at a path, with a value. -/
  dbAction : RuntimeAction → List UInt8 → Option (List UInt8) → Int
  /-- `yang_db_listcopy` at a path. -/
  listcopy : List UInt8 → Int
  /-- Whether there is memory for the copy of the key text. -/
  kstrdup : Bool
  /-- Whether there is memory for the name of a mirrored device. -/
  deviceMemory : Bool

abbrev TextMemory := List UInt8

namespace TextMemory

def at' (memory : TextMemory) (place : Nat) : UInt8 := List.getD memory place 0

def text (memory : TextMemory) (place : Nat) : List UInt8 := (memory.drop place).takeWhile (· ≠ 0)

def next (memory : TextMemory) (delimiters : List UInt8) (place : Nat) : Nat :=
  place + ((memory.drop place).takeWhile fun octet => octet ≠ 0 ∧ octet ∉ delimiters).length

def write (memory : TextMemory) (place : Nat) : List UInt8 → TextMemory
  | [] => memory.set place 0
  | octet :: octets => write (memory.set place octet) (place + 1) octets

end TextMemory

namespace YangDbRuntimeData

/-- `yang_db_runtime_init`. -/
def init : YangDbRuntimeData where
  aps _ := 0
  api := 0
  kvs _ := none
  kss _ := 0
  kpi _ := 0
  changtoRO := false

/-- The first octets of `aps`. -/
def path (ydrd : YangDbRuntimeData) (count : Nat) : List UInt8 := (List.range count).map ydrd.aps

/-- The first octets of `apsd`, which begins with the root of the value types. -/
def typeKey (ydrd : YangDbRuntimeData) (count : Nat) : List UInt8 := [0, 0] ++ ydrd.path count

def totalKpi (ydrd : YangDbRuntimeData) : Nat :=
  ((List.range ydrd.api.toNat).map fun i => (ydrd.kpi i).toNat).sum

def setAp (ydrd : YangDbRuntimeData) (place : Nat) (ap : UInt8) : YangDbRuntimeData :=
  { ydrd with aps := Function.update ydrd.aps place ap }

def push (ydrd : YangDbRuntimeData) (ap : UInt8) : YangDbRuntimeData :=
  { ydrd.setAp ydrd.api.toNat ap with api := ydrd.api + 1 }

def setKpi (ydrd : YangDbRuntimeData) (place : Nat) (count : UInt8) : YangDbRuntimeData :=
  { ydrd with kpi := Function.update ydrd.kpi place count }

def setKv (ydrd : YangDbRuntimeData) (place : Nat) (kv : Option (List UInt8)) (ks : UInt8) :
    YangDbRuntimeData :=
  { ydrd with
    kvs := Function.update ydrd.kvs place kv
    kss := Function.update ydrd.kss place ks }

def releaseKv (ydrd : YangDbRuntimeData) (place : Nat) : YangDbRuntimeData :=
  match ydrd.kvs place with
  | some _ => ydrd.setKv place none 0
  | none => ydrd

def shiftDown (ydrd : YangDbRuntimeData) (count : Nat) : YangDbRuntimeData :=
  { ydrd with
    aps := fun i => if i < count then ydrd.aps (i + 3) else ydrd.aps i
    api := ydrd.api - 3 }

def shiftUp (ydrd : YangDbRuntimeData) (count : Nat) (first second third : UInt8) :
    YangDbRuntimeData :=
  { ydrd with
    aps := fun i =>
      if i = 0 then first else if i = 1 then second else if i = 2 then third
      else if i < count + 3 then ydrd.aps (i - 3) else ydrd.aps i
    api := ydrd.api + 3 }

end YangDbRuntimeData

def keyvDelimiter : UInt8 := 124

/-- A number as `int`. -/
def intOf (value : Int) : Int := Int.bmod value 4294967296

def startsWithDigit (text : List UInt8) : Bool :=
  match text with
  | first :: _ => decide (48 ≤ first ∧ first ≤ 57)
  | [] => false

def octetNumber (text : List UInt8) : Option UInt8 :=
  let res := intOf (strtol 0 text).1
  if res < 0 ∨ 0xff < res then none else some (UInt8.ofNat res.toNat)

namespace YangDbRuntimeData

/-- The number of the key's leaf in `proc_get_keyv`, which is the first of `rv`; there are three
nodes before it for mirrored data. -/
def keyNumber (env : RuntimeSurroundings) (kn : List UInt8) (rvi : Nat) (ydrd : YangDbRuntimeData) :
    Option UInt8 :=
  let rv : List UInt8 :=
    if rvi = 3 then ydrd.path 3 ++ [0xff, 0xff, 0xff] else List.replicate 6 0xff
  if startsWithDigit kn then
    (octetNumber kn).map fun res => (rv.set rvi res).getD 0 0xff
  else
    let ap := ydrd.aps rvi
    let extmod := ap = xl4ExtmodRw ∨ ap = xl4ExtmodRo
    let data := ap = xl4DataRw ∨ ap = xl4DataRo
    if (extmod ∨ data) ∧ ydrd.api < 2 then none
    else
      let rv := rv.set rvi (if data then xl4DataRw else ap)
      let rv := if extmod ∨ data then rv.set (1 + rvi) (ydrd.aps (1 + rvi)) else rv
      env.nodeEnums kn rv 6

/-- The path of the key's leaf in `proc_get_keyv`: below the last node there is the one of the value
keys. -/
def keyLeaf (env : RuntimeSurroundings) (kn : List UInt8) (rvi : Nat) (ydrd : YangDbRuntimeData) :
    Option YangDbRuntimeData :=
  let ydrd := ydrd.setAp ydrd.api.toNat 0
  (ydrd.keyNumber env kn rvi).map fun number => ydrd.setAp (ydrd.api.toNat + 1) number

/-- The type of a value key, first in the read-write form of the module, then in the other. -/
def lookUpKey (env : RuntimeSurroundings) (ydrd : YangDbRuntimeData) :
    YangDbRuntimeData × Option UInt8 :=
  match env.dbalGet (ydrd.typeKey (ydrd.api.toNat + 2)) with
  | some kvtype => (ydrd, some kvtype)
  | none =>
    let ro := ydrd.setAp 0 (ydrd.aps 0 + xl4DataRo)
    match env.dbalGet (ro.typeKey (ro.api.toNat + 2)) with
    | some kvtype => (ro.setAp 0 (ro.aps 0 - xl4DataRo), some kvtype)
    | none =>
      if ro.api.toNat + 4 < apsdSize then
        let ended := ro.setAp (ro.api.toNat + 2) 255
        (ended.setAp 0 (ended.aps 0 - xl4DataRo), none)
      else (ro, none)

def countKeyv (ydrd : YangDbRuntimeData) (tkpi : Nat) (res : Int) : YangDbRuntimeData × Int :=
  if ydrd.api = 0 ∨ maxApDepth ≤ ydrd.api.toNat - 1 then (ydrd, -1)
  else
    let last := ydrd.api.toNat - 1
    let ydrd := ydrd.setKpi last (ydrd.kpi last + 1)
    if maxKvDepth ≤ tkpi + 1 then (ydrd, -1) else (ydrd.releaseKv (tkpi + 1), res)

/-- The text of the first value key may name a PTP instance, whose number takes its place. -/
def instanceText (env : RuntimeSurroundings) (memory : TextMemory) (kp : Nat)
    (ydrd : YangDbRuntimeData) : TextMemory :=
  if ydrd.totalKpi = 0 then
    match env.ptpInstance (ydrd.aps 0) (memory.text kp) with
    | some instanceNumber => memory.write kp (decimal instanceNumber)
    | none => memory
  else memory

def keyValue (env : RuntimeSurroundings) (memory : TextMemory) (kp hints : Nat) (kvtype : UInt8)
    (ydrd : YangDbRuntimeData) : Except (Option (List UInt8)) (List UInt8) :=
  let memory := ydrd.instanceText env memory kp
  env.valueConv kvtype (memory.text kp) (memory.text hints) (ydrd.kvs ydrd.totalKpi)

/-- The value key of `proc_get_keyv`, when its type is known. -/
def storeKeyv (env : RuntimeSurroundings) (memory : TextMemory) (kp hints : Nat) (kvtype : UInt8)
    (ydrd : YangDbRuntimeData) : YangDbRuntimeData × TextMemory × Int :=
  let tkpi := ydrd.totalKpi
  if memory.at' kp = 0 then
    let (ydrd, res) := (ydrd.setKv tkpi none 1).countKeyv tkpi 1
    (ydrd, memory, res)
  else
    let converted := ydrd.instanceText env memory kp
    match ydrd.keyValue env memory kp hints kvtype with
    | .error left => ({ ydrd with kvs := Function.update ydrd.kvs tkpi left }, converted, -1)
    | .ok value =>
      let (ydrd, res) :=
        (ydrd.setKv tkpi (some value) (UInt8.ofNat value.length)).countKeyv tkpi 0
      (ydrd, converted, res)

/-- `proc_get_keyv` for data that is not mirrored, from the place `kn` of the key's name and the
place `kp` of its value on. -/
def keyvPlain (env : RuntimeSurroundings) (memory : TextMemory) (kn kp hints : Nat)
    (ydrd : YangDbRuntimeData) : YangDbRuntimeData × TextMemory × Int :=
  match ydrd.keyLeaf env (memory.text kn) 0 with
  | none => (ydrd.setAp ydrd.api.toNat 0, memory, -1)
  | some leaf =>
    match leaf.lookUpKey env with
    | (ydrd, none) => (ydrd, memory, -1)
    | (ydrd, some kvtype) => ydrd.storeKeyv env memory kp hints kvtype

/-- `proc_get_keyv` for mirrored data: the three nodes of the mirror are taken off for the search of
the type, and put back when there is one. -/
def keyvMirrored (env : RuntimeSurroundings) (memory : TextMemory) (kn kp hints : Nat)
    (ydrd : YangDbRuntimeData) : YangDbRuntimeData × TextMemory × Int :=
  match ydrd.keyLeaf env (memory.text kn) 3 with
  | none => (ydrd.setAp ydrd.api.toNat 0, memory, -1)
  | some leaf =>
    match (leaf.shiftDown (leaf.api.toNat - 1)).lookUpKey env with
    | (ydrd, none) => (ydrd, memory, -1)
    | (shifted, some kvtype) =>
      (shifted.shiftUp (shifted.api.toNat + 2) (leaf.aps 0) (leaf.aps 1) (leaf.aps 2)).storeKeyv env
        memory kp hints kvtype

def keyvDevice (env : RuntimeSurroundings) (memory : TextMemory) (kp : Nat)
    (ydrd : YangDbRuntimeData) : YangDbRuntimeData × TextMemory × Int :=
  if ydrd.totalKpi ≠ 0 then (ydrd, memory, -1)
  else if env.deviceMemory then
    let device := memory.text kp
    ((ydrd.setKv 0 (some (device ++ [0])) (UInt8.ofNat (device.length + 1))).setKpi 2 1, memory, 0)
  else ({ ydrd with kvs := Function.update ydrd.kvs 0 none }, memory, -1)

end YangDbRuntimeData

/-- `name:value` at a place: where the colon is, or the end. -/
def colonOf (memory : TextMemory) (kv : Nat) : Nat := memory.next [58] kv

def cutKeyv (memory : TextMemory) (kv : Nat) : TextMemory :=
  if memory.at' (colonOf memory kv) = 0 then memory else memory.set (colonOf memory kv) 0

def keyvPlace (memory : TextMemory) (kv : Nat) : Nat :=
  if memory.at' (colonOf memory kv) = 0 then colonOf memory kv else colonOf memory kv + 1

namespace YangDbRuntimeData

/-- `proc_get_keyv` of `name:value` at a place. The colon is a zero meanwhile, and stays one after
a failure or a device. -/
def procGetKeyv (env : RuntimeSurroundings) (memory : TextMemory) (kv : Nat) (hints : Option Nat)
    (ydrd : YangDbRuntimeData) : YangDbRuntimeData × TextMemory × Int :=
  if ydrd.api = 0 then (ydrd, memory, -1)
  else
    let cut := cutKeyv memory kv
    let kp := keyvPlace memory kv
    let restored := fun (outcome : YangDbRuntimeData × TextMemory × Int) =>
      if memory.at' (colonOf memory kv) ≠ 0 ∧ 0 ≤ outcome.2.2 then
        (outcome.1, List.set outcome.2.1 (colonOf memory kv) 58, outcome.2.2)
      else outcome
    if ydrd.aps 0 = xl4DataRw then
      if ydrd.api < 3 ∨ ydrd.aps 1 ≠ ucMirror ∨ ydrd.aps 2 ≠ ucMirrorDevice then (ydrd, cut, -1)
      else if ydrd.api = 3 then ydrd.keyvDevice env cut kp
      else restored (ydrd.keyvMirrored env cut kv kp (hints.getD kv))
    else restored (ydrd.keyvPlain env cut kv kp (hints.getD kv))

end YangDbRuntimeData

structure KeyScan where
  ydrd : YangDbRuntimeData
  memory : TextMemory
  kpi : Nat
  res : Int

/-- A turn of `proc_get_keyvals`. -/
def keyvalsTurn (env : RuntimeSurroundings) (hints : Nat) (scan : KeyScan) : Turn KeyScan Int :=
  if scan.memory.at' scan.kpi = 0 then .leave scan scan.res
  else
    let stop := scan.memory.next [keyvDelimiter] scan.kpi
    if scan.memory.at' stop = 0 then .leave scan (-1)
    else
      match scan.ydrd.procGetKeyv env (scan.memory.set stop 0) scan.kpi (some hints) with
      | (ydrd, memory, gkres) =>
        if gkres < 0 then .leave { scan with ydrd, memory } (-1)
        else
          .again ⟨ydrd, memory.set stop keyvDelimiter, stop + 1, if gkres = 1 then 1 else scan.res⟩

def procGetKeyvals (env : RuntimeSurroundings) (memory : TextMemory) (kvstr hints : Nat)
    (ydrd : YangDbRuntimeData) : Option (KeyScan × Int) :=
  iterate (keyvalsTurn env hints) (memory.length + 1) ⟨ydrd, memory, kvstr, 0⟩

def rootNumber (env : RuntimeSurroundings) (kv : List UInt8) : UInt8 :=
  if kv = octetsOf "xl4-data" then xl4DataRw
  else if kv = octetsOf "xl4-extmod" then xl4ExtmodRw
  else env.modEnum kv

namespace YangDbRuntimeData

def procSetPrefixedOnenode (env : RuntimeSurroundings) (kv : List UInt8)
    (ydrd : YangDbRuntimeData) : YangDbRuntimeData × Int :=
  if ydrd.api = 1 then
    if kv ≠ octetsOf "uc-mirror" then (ydrd, -1) else (ydrd.push ucMirror, 0)
  else if ydrd.api = 2 then
    if kv ≠ octetsOf "uc-mirror-device" then (ydrd, -1) else (ydrd.push ucMirrorDevice, 0)
  else if ydrd.api = 3 then
    if kv = octetsOf "xl4-extmod" then (ydrd.push xl4ExtmodRw, 0)
    else (ydrd.push (env.modEnum kv), 0)
  else if ydrd.api = 4 ∧ ydrd.aps 3 = xl4ExtmodRw then (ydrd.push (env.extmodEnum kv), 0)
  else (ydrd, 1)

def pushNode (env : RuntimeSurroundings) (kv : List UInt8) (roi : Nat)
    (ydrd : YangDbRuntimeData) : YangDbRuntimeData × Int :=
  let anumi := if ydrd.api > 1 then 2 else 1
  let rv : List UInt8 := ydrd.path 1 ++ (if ydrd.api > 1 then [ydrd.aps 1] else [0xff]) ++
    (if roi = 3 then [ydrd.aps 2] else [0xff]) ++
    (if roi = 3 ∧ ydrd.api > 3 then [ydrd.aps 3] else [0xff]) ++
    (if roi = 3 ∧ ydrd.api > 4 then [ydrd.aps 4] else [0xff]) ++ [0xff]
  match env.nodeEnums kv (rv.drop roi) anumi with
  | none => (ydrd, -1)
  | some number =>
    if maxApDepth ≤ ydrd.api.toNat then (ydrd, -1)
    else
      let ydrd := ydrd.setKpi ydrd.api.toNat 0
      ((ydrd.releaseKv ydrd.totalKpi).push number, 0)

def procSetOnenode (env : RuntimeSurroundings) (kv : List UInt8) (nokv : Bool)
    (ydrd : YangDbRuntimeData) : YangDbRuntimeData × Int :=
  if startsWithDigit kv then
    if maxApDepth ≤ ydrd.api.toNat then (ydrd, -1)
    else
      let ydrd := ydrd.setKpi ydrd.api.toNat 0
      match octetNumber kv with
      | none => (ydrd, -1)
      | some number => (ydrd.push number, 0)
  else if ydrd.api = 0 then
    if rootNumber env kv = 0xff then (ydrd.setAp 0 0xff, -1)
    else ((ydrd.push (rootNumber env kv)).setKpi 0 0, 0)
  else if kv = octetsOf ".." then
    if maxApDepth ≤ ydrd.api.toNat - 1 then (ydrd, -1)
    else
      let ydrd := ydrd.setKpi (ydrd.api.toNat - 1) 0
      (if nokv then { ydrd with api := ydrd.api - 1 } else ydrd, 0)
  else if ydrd.aps 0 = xl4DataRw then
    match ydrd.procSetPrefixedOnenode env kv with
    | (ydrd, res) => if res ≤ 0 then (ydrd, res) else ydrd.pushNode env kv 3
  else if ydrd.aps 0 = xl4ExtmodRw ∧ ydrd.api = 1 then (ydrd.push (env.extmodEnum kv), 0)
  else ydrd.pushNode env kv 0

end YangDbRuntimeData

/-- How far the value keys of a node go: up to the end of the text or the slash behind a
delimiter. -/
def skipKeyvals : List UInt8 → Option Nat
  | [] => none
  | octet :: rest =>
    if octet = 0 then none
    else if octet = keyvDelimiter ∧ (rest.headD 0 = 0 ∨ rest.headD 0 = 47) then some 1
    else (skipKeyvals rest).map (· + 1)

def cutSign (kpi : Nat) (sign : UInt8) (res : Int) (scan : KeyScan) : KeyScan :=
  if scan.kpi < kpi ∧ scan.memory.at' (kpi - 1) = sign then
    { scan with res, memory := scan.memory.set (kpi - 1) 0 }
  else scan

/-- The node name at a place of the key text is cut off: the scan goes on behind it. The flag tells
that no value keys follow. -/
def cutName (scan : KeyScan) : KeyScan × Bool :=
  let kpi := scan.memory.next [47, keyvDelimiter] scan.kpi
  let scan := cutSign kpi 45 3 (cutSign kpi 43 2 scan)
  let ending := scan.memory.at' kpi
  if ending = 0 then ({ scan with kpi }, true)
  else
    let scan := { scan with memory := scan.memory.set kpi 0, kpi := kpi + 1 }
    if ending = 47 then
      ({ scan with res := if scan.memory.at' (kpi + 1) = 0 then 1 else scan.res }, true)
    else (scan, false)

/-- The value keys at a place of the key text are cut off: the scan goes on behind them. -/
def cutValues (scan : KeyScan) : Option KeyScan :=
  (skipKeyvals (scan.memory.drop (scan.kpi + 1))).map fun count =>
    let kpi := scan.kpi + 1 + count
    if scan.memory.at' kpi = 0 then { scan with kpi }
    else
      let memory : TextMemory := scan.memory.set kpi 0
      { scan with memory, kpi := kpi + 1, res := if memory.at' (kpi + 1) = 0 then 1 else scan.res }

/-- The value keys in a turn of `proc_get_keys`; `name` is the place of the node name. -/
def keysValues (env : RuntimeSurroundings) (name : Nat) (scan : KeyScan) : Turn KeyScan Int :=
  match cutValues scan with
  | none => .leave scan (-1)
  | some after =>
    match procGetKeyvals env after.memory scan.kpi name after.ydrd with
    | none => .leave scan (-1)
    | some (keys, gkres) =>
      if gkres < 0 then .leave { keys with kpi := after.kpi } (-1)
      else .again { keys with kpi := after.kpi, res := if gkres = 1 then 1 else after.res }

/-- Where the loop of `proc_get_keys` ends. -/
def keysEnd (scan : KeyScan) : Bool :=
  decide (scan.memory.at' scan.kpi = 0 ∨ maxApDepth ≤ scan.ydrd.api.toNat)

def nodeName (scan : KeyScan) : List UInt8 := (cutName scan).1.memory.text scan.kpi

/-- The node of a turn of `proc_get_keys`. -/
def keysNode (env : RuntimeSurroundings) (scan : KeyScan) : KeyScan × Int :=
  let outcome := scan.ydrd.procSetOnenode env (nodeName scan) (cutName scan).2
  ({ (cutName scan).1 with ydrd := outcome.1 }, outcome.2)

def restoreDelimiter (scan : KeyScan) : KeyScan :=
  { scan with memory := scan.memory.set (scan.kpi - 1) keyvDelimiter }

/-- A turn of `proc_get_keys`. -/
def keysTurn (env : RuntimeSurroundings) (scan : KeyScan) : Turn KeyScan Int :=
  if keysEnd scan then
    .leave { scan with ydrd := scan.ydrd.setAp scan.ydrd.api.toNat 255 } scan.res
  else if (keysNode env scan).2 ≠ 0 then .leave (keysNode env scan).1 (-1)
  else if (cutName scan).2 then .again (keysNode env scan).1
  else keysValues env scan.kpi (restoreDelimiter (keysNode env scan).1)

/-- Where `proc_get_keys` starts: an absolute path has no nodes yet. -/
def keysStart (memory : TextMemory) (ydrd : YangDbRuntimeData) : KeyScan :=
  if memory.at' 0 = 47 then
    ⟨{ ydrd with kpi := fun i => if i < ydrd.api.toNat then 0 else ydrd.kpi i, api := 0 }, memory,
      1, 0⟩
  else ⟨ydrd, memory, 0, 0⟩

/-- `proc_get_keys`, with the memory of the text behind it. -/
def procGetKeys (env : RuntimeSurroundings) (memory : TextMemory) (ydrd : YangDbRuntimeData) :
    Option (KeyScan × Int) :=
  iterate (keysTurn env) (memory.length + 1) (keysStart memory ydrd)

namespace YangDbRuntimeData

def uncount (ydrd : YangDbRuntimeData) : Nat → YangDbRuntimeData
  | 0 => ydrd
  | count + 1 =>
    if 0 < ydrd.kpi count then ydrd.setKpi count (ydrd.kpi count - 1) else ydrd.uncount count

def takeLast (ydrd : YangDbRuntimeData) : YangDbRuntimeData :=
  (ydrd.setKv (ydrd.totalKpi - 1) none 0).uncount ydrd.api.toNat

def copyText (vstr : List UInt8) : TextMemory := vstr.tail.dropLast ++ [0]

def copyList (env : RuntimeSurroundings) (vstr : List UInt8) (ydrd : YangDbRuntimeData) :
    YangDbRuntimeData × Int :=
  if ydrd.totalKpi < 1 then (ydrd, -1)
  else
    match ydrd.takeLast.procGetKeyv env (copyText vstr) 0 none with
    | (ydrd, _, res) =>
      if res = 0 then
        let ydrd := ydrd.setAp ydrd.api.toNat 255
        let ydrd := ydrd.setAp 0 (ydrd.aps 0 + xl4DataRo)
        (ydrd.setAp 0 (ydrd.aps 0 - xl4DataRo), env.listcopy (ydrd.path ydrd.api.toNat))
      else (ydrd, res)

def mirrored (ydrd : YangDbRuntimeData) : Bool :=
  decide (ydrd.path 3 = [xl4DataRw, ucMirror, ucMirrorDevice])

def belowMirror (ydrd : YangDbRuntimeData) : YangDbRuntimeData :=
  if ydrd.mirrored then ydrd.shiftDown (ydrd.api.toNat - 3) else ydrd

/-- `erexit` of `get_value_type`: the nodes of the mirror are put back. -/
def putBack (mirror : Bool) (ydrd : YangDbRuntimeData) : YangDbRuntimeData :=
  if mirror then ydrd.shiftUp ydrd.api.toNat xl4DataRw ucMirror ucMirrorDevice else ydrd

def typeOfValue (env : RuntimeSurroundings) (ydrd : YangDbRuntimeData) : Option UInt8 :=
  env.dbalGet (ydrd.typeKey ydrd.api.toNat)

def switchRo (ydrd : YangDbRuntimeData) : YangDbRuntimeData :=
  { ydrd.setAp 0 (ydrd.aps 0 + xl4DataRo) with changtoRO := true }

def lastAp (ydrd : YangDbRuntimeData) : UInt8 :=
  if ydrd.api = 0 then 0 else ydrd.aps (ydrd.api.toNat - 1)

def getValueType (env : RuntimeSurroundings) (ydrd : YangDbRuntimeData) :
    YangDbRuntimeData × Option UInt8 :=
  let mirror := ydrd.mirrored
  let ydrd := ydrd.belowMirror
  match ydrd.typeOfValue env with
  | some vtype => (ydrd.putBack mirror, some vtype)
  | none =>
    let ydrd := ydrd.switchRo
    match ydrd.typeOfValue env with
    | some vtype => (ydrd.putBack mirror, some vtype)
    | none =>
      if ydrd.lastAp = 1 then (ydrd.putBack mirror, some yangVtypeUint8)
      else if ydrd.lastAp = 2 then (ydrd.putBack mirror, some yangVtypeString)
      else if ydrd.api.toNat + 2 < apsdSize then
        let ydrd := { ydrd.setAp ydrd.api.toNat 255 with api := ydrd.api - 1 }
        (ydrd.setAp 0 (ydrd.aps 0 - xl4DataRo), none)
      else (ydrd, none)

def switchBack (ydrd : YangDbRuntimeData) : YangDbRuntimeData :=
  if ydrd.changtoRO then ydrd.setAp 0 (ydrd.aps 0 - xl4DataRo) else ydrd

/-- The end of `proc_one_item`: the value is stored at the path, which is left without its last
node. -/
def storeValue (env : RuntimeSurroundings) (atype : RuntimeAction) (value : Option (List UInt8))
    (ydrd : YangDbRuntimeData) : YangDbRuntimeData × Int :=
  let ended := { ydrd.setAp ydrd.api.toNat 255 with api := ydrd.api - 1 }
  (ended.switchBack, env.dbAction atype (ended.path ydrd.api.toNat) value)

/-- `proc_one_item` behind the key text: the type of the value and the value. -/
def procValue (env : RuntimeSurroundings) (atype : RuntimeAction) (vstr : Option (List UInt8))
    (btkey : List UInt8) (ydrd : YangDbRuntimeData) : YangDbRuntimeData × Int :=
  match ydrd.getValueType env with
  | (ydrd, none) => (ydrd.switchBack, -1)
  | (ydrd, some vtype) =>
    match atype with
    | .delete => ydrd.storeValue env .delete none
    | .create | .append =>
      match vstr.map fun text => env.valueConv vtype text btkey none with
      | some (.ok value) => ydrd.storeValue env atype (some value)
      | some (.error _) | none => ({ ydrd with api := ydrd.api - 1 }.switchBack, -1)

/-- Whether a value text stands between delimiters, which asks for the copy of a list. -/
def asksForCopy (vstr : List UInt8) : Bool :=
  decide (vstr.head? = some keyvDelimiter ∧ 1 < vstr.length ∧
    vstr.getLast? = some keyvDelimiter)

def actionOf (res : Int) : RuntimeAction :=
  if res = 2 then .append else if res = 3 then .delete else .create

/-- `proc_one_item` behind the key text. -/
def procItemValue (env : RuntimeSurroundings) (vstr : Option (List UInt8)) (btkey : List UInt8)
    (res : Int) (ydrd : YangDbRuntimeData) : YangDbRuntimeData × Int :=
  if res < 0 then (ydrd, -1)
  else if res = 1 then (ydrd, 0)
  else
    match vstr with
    | some text =>
      if asksForCopy text then ydrd.copyList env text
      else ydrd.procValue env (actionOf res) (some text) btkey
    | none => ydrd.procValue env (actionOf res) none btkey

def procOneItem (env : RuntimeSurroundings) (kstr : TextMemory) (vstr : Option (List UInt8))
    (ydrd : YangDbRuntimeData) : Option (YangDbRuntimeData × Int) :=
  (procGetKeys env kstr ydrd).map fun (keys, res) =>
    let btkey := if env.kstrdup then kstr.text 0 else keys.memory.text 0
    { keys.ydrd with changtoRO := false }.procItemValue env vstr btkey res

end YangDbRuntimeData

end EnetTsn.Uniconf
