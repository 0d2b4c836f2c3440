import EnetTsn.Library.Numeral
import EnetTsn.Library.OctetString
import EnetTsn.Uniconf.Simpledb
import EnetTsn.Uniconf.YangTables

/-!
Values of the database and their text: `yang_value_conv` reads a text as the octets of a value,
and `yang_value_string` writes the text of a value. A text is a C string without the final zero.
-/

namespace EnetTsn.Uniconf

open EnetTsn.Library

/-- `yang_vtype_enum_t`. -/
inductive YangVtype where
  | binaryLeafList
  | bitsLeafList
  | booleanLeafList
  | decimal64LeafList
  | emptyLeafList
  | enumerationLeafList
  | identityrefLeafList
  | instanceIdentifierLeafList
  | int8LeafList
  | int16LeafList
  | int32LeafList
  | int64LeafList
  | stringLeafList
  | uint8LeafList
  | uint16LeafList
  | uint32LeafList
  | uint64LeafList
  | unionLeafList
  | streamidLeafList
  | hexuint16LeafList
  | streamIdTypeLeafList
  | binary
  | bits
  | boolean
  | decimal64
  | empty
  | enumeration
  | identityref
  | instanceIdentifier
  | int8
  | int16
  | int32
  | int64
  | string
  | uint8
  | uint16
  | uint32
  | uint64
  | union
  | streamid
  | hexuint16
  | streamIdType
  | macAddress
  | physAddress
  | vidRangeType
  | transportStatus
  | tlsFingerprint
  | netconfDatastoreType
  | endStationStatus
  | enumEnd
  deriving DecidableEq, Repr

/-- What a conversion is given: the size of the block at `*destd`, `*size`, and whether there is
memory. -/
structure Destination where
  block : Nat
  size : Nat
  granted : Bool

abbrev Converted := List UInt8 × Nat

def valueConvDestcopy (dest : Destination) (srcd : List UInt8) : Option Converted :=
  if srcd.length = 0 then none
  else if ucMaxValuesize < max srcd.length dest.size ∨ dest.granted = false then none
  else some (srcd ++ List.replicate (dest.size - srcd.length) 0, srcd.length)

section Texts

/-- `strchr`: the text from a character on. -/
def strchr (text : List UInt8) (octet : UInt8) : Option (List UInt8) :=
  match text.dropWhile (· ≠ octet) with
  | [] => none
  | found => some found

/-- The loop of `find_hints` from a position on; `before` is the character before it. -/
def findHintsFrom (delimiter : UInt8) : Nat → Option UInt8 → List UInt8 → Nat
  | _, _, [] => 0
  | index, before, octet :: rest =>
    if octet = delimiter ∧ index ≠ 0 ∧ before ≠ some 92 then index
    else findHintsFrom delimiter (index + 1) (some octet) rest

def findHints (vstr : List UInt8) (delimiter : UInt8) : Nat := findHintsFrom delimiter 0 none vstr

/-- `ub_hexstr2barray`: the octets that are counted. -/
def ubHexstr2barray (delim : UInt8) : Nat → List UInt8 → List UInt8
  | 0, _ => []
  | len + 1, asp =>
    let (value, np) := strtol 16 asp
    let octet := UInt8.ofNat (value % 256).toNat
    if np.length = asp.length then []
    else
      match np with
      | [] => [octet]
      | next :: rest => if next = delim then octet :: ubHexstr2barray delim len rest else [octet]

/-- `get_two_vids`, and the text behind the comma. -/
def getTwoVids (vstr : List UInt8) : (UInt16 × UInt16) × Option (List UInt8) :=
  let rstr := (strchr vstr 44).map List.tail
  let v1 := UInt16.ofNat ((strtol 0 vstr).1 % 2 ^ 16).toNat
  let v2 :=
    match strchr vstr 45 with
    | none => v1
    | some bstr =>
      -- a hyphen of a later range is not one of this range
      if rstr.all fun rest => rest.length < bstr.length then
        UInt16.ofNat ((strtol 0 bstr.tail).1 % 2 ^ 16).toNat
      else v1
  ((v1, v2), rstr)

/-- The ranges that the loop of `yang_value_conv` reads. -/
def vidRanges : Nat → Option (List UInt8) → List (UInt16 × UInt16)
  | fuel + 1, some (octet :: rest) =>
    let (range, rstr) := getTwoVids (octet :: rest)
    range :: vidRanges fuel rstr
  | _, _ => []

end Texts

def encodeVids (ranges : List (UInt16 × UInt16)) : List UInt8 :=
  ranges.flatMap fun range => littleEndian 2 range.1.toNat ++ littleEndian 2 range.2.toNat

def enumerationHints (vtype : YangVtype) (hints : Option (List UInt8)) : Option (List UInt8) :=
  match vtype with
  | .netconfDatastoreType => some (octets "datastore")
  | .transportStatus => some (octets "transport-status")
  | .endStationStatus => some (octets "end-station-status")
  | _ => hints

section Conversion

variable (dest : Destination) (vstr : List UInt8)

def convData (data : List UInt8) : Option (Option Converted) := some (valueConvDestcopy dest data)

/-- Quotes at both ends are left out; the last octet is written even if the copy has failed. -/
def convString : Option (Option Converted) :=
  let data :=
    if 2 ≤ vstr.length ∧ vstr.head? = some 34 ∧ vstr.getLast? = some 34 then vstr.tail
    else vstr ++ [0]
  match valueConvDestcopy dest data with
  | some (block, csize) => some (some (block.set (csize - 1) 0, csize))
  | none => if data.length ≤ dest.block then some none else none

def convTlsFingerprint : Option (Option Converted) :=
  let res := (ubHexstr2barray 58 256 vstr).length
  if res ≤ 1 ∨ 255 ≤ res then some none else convData dest (vstr ++ [0])

def convBoolean : Option (Option Converted) :=
  convData dest [if vstr = octets "true" ∨ vstr = octets "1" then 1 else 0]

def convSigned (csize : Nat) : Option (Option Converted) :=
  convData dest (littleEndian csize ((strtol 0 vstr).1 % 2 ^ 64).toNat)

def convUnsigned (csize : Nat) : Option (Option Converted) :=
  convData dest (littleEndian csize (strtoul 0 vstr))

def convEnumeration (vtype : YangVtype) (hints : Option (List UInt8)) : Option (Option Converted) :=
  let found := findHints vstr 47
  let vlen := if 0 < found then found else vstr.length
  let hints := if 0 < found then some (vstr.drop (found + 1)) else hints
  let data :=
    match scanNumber 0 vstr with
    | some _ => UInt32.ofNat ((strtol 0 vstr).1 % 2 ^ 32).toNat
    | none => yangEnumerationGetval (vstr.take vlen) (enumerationHints vtype hints)
  convData dest (littleEndian 4 data.toNat)

def convHex (delim : UInt8) (count : Nat) : Option (Option Converted) :=
  let data := ubHexstr2barray delim count vstr
  convData dest (data ++ List.replicate (count - data.length) 0)

def convStreamIdType : Option (Option Converted) :=
  let first := ubHexstr2barray 45 6 vstr
  if first.length = 6 then
    if vstr.length < 17 then none
    else
      let data :=
        if (vstr.drop 17).head? = some 58 then first ++ ubHexstr2barray 45 2 (vstr.drop 18) else first
      convData dest (data ++ List.replicate (8 - data.length) 0)
  else convData dest (first ++ List.replicate (8 - first.length) 0)

def convVidRange : Option (Option Converted) :=
  let ranges := vidRanges (vstr.length + 1) (some vstr)
  let data := encodeVids ranges ++ [0, 0, 0, 0]
  if ranges = [] ∨ dest.granted = false then some none
  else some (some (data ++ List.replicate (dest.size - data.length) 0, data.length))

/-- The table of the hint, then the tables for which the text has a start of its own, then all
others. -/
def convIdentityref (hints : Option (List UInt8)) : Option (Option Converted) :=
  let found := findHints vstr 47
  let vlen := if 0 < found then found else vstr.length
  let hints := if 0 < found then some (vstr.drop (found + 1)) else hints
  let hinted := if hints.isSome then yangIdentityrefGetval (vstr.take vlen) hints else invalidValue
  let data :=
    if hinted ≠ invalidValue then hinted
    else if octets "cc-" <+: vstr then
      yangIdentityrefGetval (vstr.take vlen) (some (octets "clock-class"))
    else if octets "ca-" <+: vstr then
      yangIdentityrefGetval (vstr.take vlen) (some (octets "clock-accuracy"))
    else
      let others := yangIdentityrefList.filter fun (_, keyword) =>
        keyword ≠ "clock-class" ∧ keyword ≠ "clock-accuracy"
      ((others.map fun (_, keyword) => yangIdentityrefGetval vstr (some (octets keyword))).find?
        (· ≠ invalidValue)).getD invalidValue
  if data = invalidValue then some none else convData dest (littleEndian 4 data.toNat)

def convBits : Option (Option Converted) :=
  convData dest (littleEndian 4 ((strtol 2 vstr).1 % 2 ^ 32).toNat)

/-- `yang_value_conv`. No result is an access outside of the memory, and none in it is an error. -/
def yangValueConv (vtype : YangVtype) (hints : Option (List UInt8)) : Option (Option Converted) :=
  match vtype with
  | .string | .stringLeafList | .union | .unionLeafList | .binary | .binaryLeafList
  | .instanceIdentifier | .instanceIdentifierLeafList => convString dest vstr
  | .tlsFingerprint => convTlsFingerprint dest vstr
  | .boolean => convBoolean dest vstr
  | .int8 => convSigned dest vstr 1
  | .int16 => convSigned dest vstr 2
  | .int32 => convSigned dest vstr 4
  | .enumeration | .netconfDatastoreType | .transportStatus | .endStationStatus =>
    convEnumeration dest vstr vtype hints
  | .int64 | .int64LeafList => convSigned dest vstr 8
  | .uint8 | .uint8LeafList => convUnsigned dest vstr 1
  | .uint16 | .uint16LeafList | .hexuint16 | .hexuint16LeafList => convUnsigned dest vstr 2
  | .uint32 | .uint32LeafList => convUnsigned dest vstr 4
  | .uint64 | .uint64LeafList => convUnsigned dest vstr 8
  | .macAddress => convHex dest vstr 45 6
  | .physAddress => convHex dest vstr 58 6
  | .streamid => convHex dest vstr 58 8
  | .streamIdType | .streamIdTypeLeafList => convStreamIdType dest vstr
  | .vidRangeType => convVidRange dest vstr
  | .identityref => convIdentityref dest vstr hints
  | .bits => convBits dest vstr
  | _ => some none

end Conversion

section Printing

variable (value : List UInt8)

/-- `sizeof(vstr)` of `yang_value_string`. -/
def vstrSize : Nat := 64

def cString : Option (List UInt8) := if 0 ∈ value then some (value.takeWhile (· ≠ 0)) else none

def stringAt : Nat → List UInt8 → Option (List UInt8)
  | 0, rest => cString rest
  | index + 1, rest => do
    let skipped ← cString rest
    match rest.drop (skipped.length + 1) with
    | [] => some []
    | others => stringAt index others

def itemText (csize index : Nat) (text : List UInt8 → List UInt8) : List UInt8 :=
  if index < value.length / csize then text ((value.drop (csize * index)).take csize) else []

def ubUint64FromNonAligned : Nat :=
  if value.length ∈ [1, 2, 4, 8] then ofLittleEndian value else 2 ^ 64 - 1

def ubInt64FromNonAligned : Int :=
  if value.length ∈ [1, 2, 4, 8] then Int.bmod (ofLittleEndian value) (256 ^ value.length) else -1

def hexText (delim : UInt8) : List UInt8 → List UInt8
  | [] => []
  | [octet] => numeral 16 2 octet.toNat
  | octet :: rest => numeral 16 2 octet.toNat ++ delim :: hexText delim rest

def streamIdText (item : List UInt8) : List UInt8 :=
  hexText 45 (item.take 6) ++ 58 :: hexText 45 (item.drop 6)

def rangeText (delim : List UInt8) (range : UInt16 × UInt16) : List UInt8 :=
  delim ++ decimal range.1.toNat ++ 45 :: decimal range.2.toNat

def vidText : Nat → List UInt8 → List UInt8 → List UInt8 → List UInt8
  | 0, vstr, _, _ => vstr
  | turns + 1, vstr, delim, udb =>
    if udb.length < 4 then vstr
    else
      let v1 := UInt16.ofNat (ofLittleEndian (udb.take 2))
      let v2 := UInt16.ofNat (ofLittleEndian ((udb.drop 2).take 2))
      if v1 = 0 ∧ v2 = 0 then vstr
      else
        let astr := rangeText delim (v1, v2)
        if vstrSize < vstr.length + astr.length + 1 then vstr
        else vidText turns (vstr ++ astr) [44] (udb.drop 4)

def bitText : Nat → Nat → List UInt8
  | 0, _ => []
  | bit + 1, urval => digitOctet (urval / 2 ^ bit % 2) :: bitText bit urval

def enumerationText (vtype : YangVtype) (hints : Option (List UInt8)) : List UInt8 :=
  let urval := UInt32.ofNat (ubUint64FromNonAligned value)
  match enumerationHints vtype hints with
  | none => decimal urval.toNat
  | some hint => ((yangEnumerationGetstr urval (some hint)).getD []).take (vstrSize - 1)

def identityrefText (hints : Option (List UInt8)) : List UInt8 :=
  let urval := UInt32.ofNat (ubInt64FromNonAligned value % 2 ^ 32).toNat
  ((yangIdentityrefGetstr urval hints).getD []).take (vstrSize - 1)

def booleanText (item : List UInt8) : List UInt8 :=
  if item = [0] then octets "false" else octets "true"

def signedText (item : List UInt8) : List UInt8 := signedDecimal (ubInt64FromNonAligned item)

def unsignedText (item : List UInt8) : List UInt8 := decimal (ubUint64FromNonAligned item)

/-- `0x%04X`. -/
def hexuint16Text (item : List UInt8) : List UInt8 := 48 :: 120 :: numeral 16 4 (ofLittleEndian item)

/-- `yang_value_string`; none is an access outside of the value. The `index` of the source is a
`uint8_t`, and is here any number. -/
def yangValueString (vtype : YangVtype) (index : Nat) (hints : Option (List UInt8)) :
    Option (List UInt8) :=
  match vtype with
  | .string | .union | .instanceIdentifier | .tlsFingerprint => cString value
  | .unionLeafList | .binaryLeafList | .instanceIdentifierLeafList | .stringLeafList =>
    stringAt index value
  | .boolean | .booleanLeafList => some (itemText value 1 index booleanText)
  | .int8 | .int8LeafList => some (itemText value 1 index signedText)
  | .int16 | .int16LeafList => some (itemText value 2 index signedText)
  | .int32 | .int32LeafList => some (itemText value 4 index signedText)
  | .int64 | .int64LeafList => some (itemText value 8 index signedText)
  | .enumeration | .netconfDatastoreType | .transportStatus | .endStationStatus =>
    some (enumerationText value vtype hints)
  | .uint8 | .uint8LeafList => some (itemText value 1 index unsignedText)
  | .uint16 | .uint16LeafList => some (itemText value 2 index unsignedText)
  | .uint32 | .uint32LeafList => some (itemText value 4 index unsignedText)
  | .uint64 | .uint64LeafList => some (itemText value 8 index unsignedText)
  | .hexuint16 | .hexuint16LeafList => some (itemText value 2 index hexuint16Text)
  | .macAddress => if value.length < 6 then none else some (hexText 45 (value.take 6))
  | .physAddress => if value.length < 6 then none else some (hexText 58 (value.take 6))
  | .streamid => if value.length < 8 then none else some (hexText 58 (value.take 8))
  | .streamIdType | .streamIdTypeLeafList => some (itemText value 8 index streamIdText)
  | .vidRangeType => some (vidText 8 [] [] value)
  | .identityref => some (identityrefText value hints)
  | .empty | .bits => some (itemText value 4 index fun item =>
      bitText (min (vstrSize - 1) (yangBitsGetBitnum hints)) (ofLittleEndian item))
  | _ => some []

end Printing

end EnetTsn.Uniconf
