import EnetTsn.Uniconf.ValueLists

namespace EnetTsn.Uniconf

open EnetTsn.Library

section Names

variable {dest : Destination} {item : List UInt8} {hints : Option (List UInt8)} {name : List UInt8}
  {value : UInt32}

/-- The names of a table are found as they are written, and no name looks like a number or like a
name with a hint. -/
structure TableSound (table : List Named) : Prop where
  entries : ∀ entry ∈ table, getvalIn table entry.name = some entry.value ∧
    scanNumber 0 entry.name = none ∧ 47 ∉ entry.name ∧ entry.name.length < vstrSize ∧
    entry.value ≠ invalidValue

instance (table : List Named) : Decidable (TableSound table) :=
  decidable_of_iff (∀ entry ∈ table, getvalIn table entry.name = some entry.value ∧
    scanNumber 0 entry.name = none ∧ 47 ∉ entry.name ∧ entry.name.length < vstrSize ∧
    entry.value ≠ invalidValue) ⟨TableSound.mk, TableSound.entries⟩

private theorem yangEnumerationStrMapList_sound : ∀ table ∈ yangEnumerationStrMapList, TableSound table.1 := by
  decide +kernel

private theorem yangIdentityrefList_sound : ∀ table ∈ yangIdentityrefList, TableSound table.1 := by
  decide +kernel

theorem hintTable_mem {τ : Type} {tables : List (τ × String)} {table : τ}
    (chosen : hintTable tables hints = some table) : ∃ keyword, (table, keyword) ∈ tables := by
  obtain ⟨hint, _, found⟩ := Option.bind_eq_some_iff.mp chosen
  obtain ⟨entry, first, rfl⟩ := Option.map_eq_some_iff.mp found
  exact ⟨entry.2, List.mem_of_find?_eq_some first⟩

theorem getstrIn_getvalIn {table : List Named} (sound : TableSound table)
    (found : getstrIn table value = some name) : getvalIn table name = some value ∧
      scanNumber 0 name = none ∧ 47 ∉ name ∧ name.length < vstrSize ∧ value ≠ invalidValue := by
  obtain ⟨entry, first, rfl⟩ := Option.map_eq_some_iff.mp found
  have chosen := List.find?_some first
  have same : entry.value = value := of_decide_eq_true chosen
  have facts := sound.entries entry (List.mem_of_find?_eq_some first)
  rwa [same] at facts

private theorem enumeration_name (registered : yangEnumerationGetstr value hints = some name) :
    yangEnumerationGetval name hints = value ∧ scanNumber 0 name = none ∧ 47 ∉ name ∧
      name.length < vstrSize := by
  obtain ⟨table, chosen, found⟩ := Option.bind_eq_some_iff.mp registered
  obtain ⟨keyword, member⟩ := hintTable_mem chosen
  obtain ⟨back, noNumber, noHint, short, _⟩ :=
    getstrIn_getvalIn (yangEnumerationStrMapList_sound _ member) found
  refine ⟨?_, noNumber, noHint, short⟩
  rw [yangEnumerationGetval, chosen, Option.bind_some, back, Option.getD_some]

private theorem identity_name (registered : yangIdentityrefGetstr value hints = some name) :
    yangIdentityrefGetval name hints = value ∧ 47 ∉ name ∧ name.length < vstrSize ∧
      value ≠ invalidValue := by
  obtain ⟨table, chosen, found⟩ := Option.bind_eq_some_iff.mp registered
  obtain ⟨keyword, member⟩ := hintTable_mem chosen
  obtain ⟨back, _, noHint, short, valid⟩ :=
    getstrIn_getvalIn (yangIdentityrefList_sound _ member) found
  refine ⟨?_, noHint, short, valid⟩
  rw [yangIdentityrefGetval, chosen, Option.bind_some, back, Option.getD_some]

theorem findHintsFrom_absent (absent : delimiter ∉ text) (index : Nat) (before : Option UInt8) :
    findHintsFrom delimiter index before text = 0 := by
  induction text generalizing index before with
  | nil => rfl
  | cons octet rest ih =>
    obtain ⟨other, later⟩ := not_or.mp (mt List.mem_cons.mpr absent)
    rw [findHintsFrom, if_neg fun found => other found.1.symm]
    exact ih later (index + 1) (some octet)

variable (roomy : dest.Roomy)
include roomy

variable (size : item.length = 4)
include size

theorem converts_word {data : UInt32} (same : data = UInt32.ofNat (ofLittleEndian item)) :
    Converts item (convData dest (littleEndian 4 data.toNat)) := by
  have less := ofLittleEndian_lt item
  rw [size] at less
  apply converts_littleEndian roomy size (by decide) (by decide)
  rw [same, UInt32.toNat_ofNat_of_lt' (by simpa using less), Nat.mod_eq_of_lt less]

theorem converts_enumeration_number {vtype : YangVtype}
    (plain : enumerationHints vtype hints = none) :
    Converts item (convEnumeration dest (enumerationText item vtype hints) vtype hints) := by
  have less := ofLittleEndian_lt item
  rw [size] at less
  have urval : ubUint64FromNonAligned item = ofLittleEndian item := by
    apply ubUint64_sized
    rw [size]
    decide
  have value : (UInt32.ofNat (ofLittleEndian item)).toNat = ofLittleEndian item :=
    UInt32.toNat_ofNat_of_lt' (by simpa using less)
  have text : enumerationText item vtype hints = decimal (ofLittleEndian item) ++ [] := by
    rw [enumerationText, plain, urval, value, List.append_nil]
  have scanned := scanNumber_decimal (ofLittleEndian item) stops_nil
  have read : strtol 0 (decimal (ofLittleEndian item) ++ []) = ((ofLittleEndian item : Int), []) :=
    strtol_decimal stops_nil (by omega)
  rw [convEnumeration, text]
  simp only [scanned, read]
  apply converts_word roomy size
  congr 1

theorem converts_enumeration_name {vtype : YangVtype}
    (registered : yangEnumerationGetstr (UInt32.ofNat (ofLittleEndian item))
      (enumerationHints vtype hints) = some name) :
    Converts item (convEnumeration dest (enumerationText item vtype hints) vtype hints) := by
  obtain ⟨back, noNumber, noHint, short⟩ := enumeration_name registered
  have urval : ubUint64FromNonAligned item = ofLittleEndian item := by
    apply ubUint64_sized
    rw [size]
    decide
  have text : enumerationText item vtype hints = name := by
    rw [enumerationText, urval]
    cases given : enumerationHints vtype hints with
    | none =>
      rw [given] at registered
      cases registered
    | some hint =>
      rw [given] at registered
      simp only [registered, Option.getD_some]
      exact List.take_of_length_le (by omega)
  have noSlash : findHints name 47 = 0 := findHintsFrom_absent noHint 0 none
  rw [convEnumeration, text, noSlash]
  simp only [noNumber, Nat.lt_irrefl, if_false, List.take_length, back]
  exact converts_word roomy size rfl

theorem converts_identityref
    (registered : yangIdentityrefGetstr (UInt32.ofNat (ofLittleEndian item)) hints = some name) :
    Converts item (convIdentityref dest (identityrefText item hints) hints) := by
  obtain ⟨back, noHint, short, valid⟩ := identity_name registered
  have urval : UInt32.ofNat (ubInt64FromNonAligned item % 2 ^ 32).toNat =
      UInt32.ofNat (ofLittleEndian item) := by
    have less := ofLittleEndian_lt item
    rw [size] at less
    have value : ubInt64FromNonAligned item = Int.bmod (ofLittleEndian item) (256 ^ 4) := by
      rw [ubInt64FromNonAligned, size, if_pos (by decide)]
    have power : (2 : Int) ^ 32 = ((256 ^ 4 : Nat) : Int) := by decide
    rw [value, power, Int.bmod_emod, ← Int.natCast_mod, Nat.mod_eq_of_lt less, Int.toNat_natCast]
  have text : identityrefText item hints = name := by
    rw [identityrefText, urval]
    simp only [registered, Option.getD_some]
    exact List.take_of_length_le (by omega)
  have given : hints.isSome = true := by
    cases hints with
    | none => cases registered
    | some hint => rfl
  have noSlash : findHints name 47 = 0 := findHintsFrom_absent noHint 0 none
  rw [convIdentityref, text, noSlash]
  simp only [Nat.lt_irrefl, if_false, List.take_length, given, if_true, back, ne_eq, valid,
    not_false_eq_true]
  exact converts_word roomy size rfl

end Names

def StringOctets (item : List UInt8) : Prop :=
  0 ∉ item.dropLast ∧ item.getLast? = some 0 ∧ item.length ≤ ucMaxValuesize

/-- The octets of a value of a type. An enumeration with a hint and an identity are registered
under it. -/
def ValueOf (vtype : YangVtype) (hints : Option (List UInt8)) (item : List UInt8) : Prop :=
  match vtype with
  | .string | .stringLeafList | .union | .unionLeafList | .binary | .binaryLeafList
  | .instanceIdentifier | .instanceIdentifierLeafList => StringOctets item
  | .tlsFingerprint => StringOctets item ∧ 1 < (ubHexstr2barray 58 256 item.dropLast).length ∧
      (ubHexstr2barray 58 256 item.dropLast).length < 255
  | .boolean => item = [0] ∨ item = [1]
  | .int8 | .uint8 | .uint8LeafList => item.length = 1
  | .int16 | .uint16 | .uint16LeafList | .hexuint16 | .hexuint16LeafList => item.length = 2
  | .int32 | .uint32 | .uint32LeafList | .bits => item.length = 4
  | .int64 | .int64LeafList | .uint64 | .uint64LeafList | .streamid | .streamIdType
  | .streamIdTypeLeafList => item.length = 8
  | .macAddress | .physAddress => item.length = 6
  | .enumeration | .netconfDatastoreType | .transportStatus | .endStationStatus =>
    item.length = 4 ∧ ((enumerationHints vtype hints).isSome = true →
      (yangEnumerationGetstr (UInt32.ofNat (ofLittleEndian item))
        (enumerationHints vtype hints)).isSome = true)
  | .identityref => item.length = 4 ∧
      (yangIdentityrefGetstr (UInt32.ofNat (ofLittleEndian item)) hints).isSome = true
  | .vidRangeType => ∃ ranges, item = encodeVids ranges ++ [0, 0, 0, 0] ∧
      item.length ≤ ucMaxValuesize
  | _ => False

/-- The values whose text leads back to them: a string that is not in quotes, of the type
`YANG_VTYPE_BINARY` only the empty one, ranges that all fit in the text, and bits that the table
of the hint has. -/
def TextKeeps (vtype : YangVtype) (hints : Option (List UInt8)) (item : List UInt8) : Prop :=
  match vtype with
  | .binary => item = [0]
  | .string | .stringLeafList | .union | .unionLeafList | .binaryLeafList
  | .instanceIdentifier | .instanceIdentifierLeafList => ¬ quoted item.dropLast
  | .vidRangeType => ∃ ranges, item = encodeVids ranges ++ [0, 0, 0, 0] ∧ RangesFit ranges
  | .bits => ofLittleEndian item < 2 ^ yangBitsGetBitnum hints
  | _ => True

/-- The types that are rows of values and that `yang_value_conv` accepts. -/
def YangVtype.isLeafList : YangVtype → Bool
  | .stringLeafList | .unionLeafList | .binaryLeafList | .instanceIdentifierLeafList
  | .int64LeafList | .uint8LeafList | .uint16LeafList | .uint32LeafList | .uint64LeafList
  | .hexuint16LeafList | .streamIdTypeLeafList => true
  | _ => false

structure StandsAt (vtype : YangVtype) (hints : Option (List UInt8)) (value item : List UInt8)
    (before : List (List UInt8)) (rest : List UInt8) : Prop where
  place : value = before.flatten ++ (item ++ rest)
  earlier : ∀ other ∈ before, ValueOf vtype hints other
  alone : vtype.isLeafList = false → before = [] ∧ rest = []

section RoundTrip

variable {dest : Destination} {value item rest : List UInt8} {before : List (List UInt8)}
  {vtype : YangVtype} {hints : Option (List UInt8)}

theorem StringOctets.split (string : StringOctets item) (rest : List UInt8) :
    item = item.dropLast ++ [0] ∧ cString (item ++ rest) = some item.dropLast ∧
      item.dropLast.length + 1 = item.length := by
  obtain ⟨clean, last, _⟩ := string
  have filled : item ≠ [] := by
    rintro rfl
    cases last
  have split : item = item.dropLast ++ [0] := by
    rw [List.getLast?_eq_some_getLast filled] at last
    rw [← Option.some.inj last, List.dropLast_append_getLast]
  have size : item.dropLast.length + 1 = item.length := by
    have length := congrArg List.length split
    rw [List.length_append, List.length_singleton] at length
    exact length.symm
  refine ⟨split, ?_, size⟩
  have whole : item ++ rest = item.dropLast ++ (0 :: rest) := by
    rw [← List.singleton_append, ← List.append_assoc, ← split]
  have passes : ∀ octet ∈ item.dropLast, decide (octet ≠ 0) = true := by
    intro octet member
    apply decide_eq_true
    rintro rfl
    exact clean member
  rw [cString, if_pos, whole, List.takeWhile_append_of_pos passes]
  · simp
  · rw [whole]
    simp

theorem stringAt_row (strings : ∀ other ∈ before, StringOctets other) (string : StringOctets item) :
    stringAt before.length (before.flatten ++ (item ++ rest)) = some item.dropLast := by
  induction before with
  | nil => exact (string.split rest).2.1
  | cons head others ih =>
    obtain ⟨headString, later⟩ := List.forall_mem_cons.mp strings
    obtain ⟨_, skipped, size⟩ := headString.split (others.flatten ++ (item ++ rest))
    obtain ⟨_, _, positive⟩ := string.split rest
    rw [List.flatten_cons, List.length_cons, List.append_assoc, stringAt, skipped]
    simp only [Option.bind_eq_bind, Option.bind_some, size, List.drop_left]
    split
    · rename_i none
      have length := congrArg List.length none
      rw [List.length_append, List.length_append, List.length_nil] at length
      omega
    · exact ih later

theorem itemText_row (positive : 0 < csize) (sizes : ∀ other ∈ before, other.length = csize)
    (size : item.length = csize) :
    itemText (before.flatten ++ (item ++ rest)) csize before.length text = text item := by
  have offset : before.flatten.length = csize * before.length := by
    rw [List.length_flatten, List.map_congr_left sizes, List.map_const', List.sum_replicate_nat,
      Nat.mul_comm]
  have inside : before.length < (before.flatten ++ (item ++ rest)).length / csize := by
    rw [Nat.lt_div_iff_mul_lt positive, List.length_append, List.length_append, offset, size,
      Nat.mul_comm]
    omega
  rw [itemText, if_pos inside, ← offset, List.drop_left, ← size, List.take_left]

def TextAgrees (dest : Destination) (vtype : YangVtype) (hints : Option (List UInt8))
    (value item : List UInt8) (index : Nat) : Prop :=
  ∃ text, yangValueString value vtype index hints = some text ∧
    Converts item (yangValueConv dest text vtype hints)

theorem textAgrees_iff {holds : Prop}
    (printed : yangValueString value vtype index hints = some text)
    (converts : Converts item (yangValueConv dest text vtype hints) ↔ holds) :
    TextAgrees dest vtype hints value item index ↔ holds := by
  rw [← converts]
  constructor
  · rintro ⟨other, same, agrees⟩
    rw [printed] at same
    cases same
    exact agrees
  · exact fun agrees => ⟨text, printed, agrees⟩

theorem textAgrees_item (csize : Nat) {text : List UInt8 → List UInt8} (positive : 0 < csize)
    (stands : StandsAt vtype hints value item before rest)
    (sizes : ∀ other, ValueOf vtype hints other → other.length = csize)
    (isValue : ValueOf vtype hints item)
    (printed : yangValueString value vtype before.length hints =
      some (itemText value csize before.length text))
    (converts : Converts item (yangValueConv dest (text item) vtype hints)) :
    TextAgrees dest vtype hints value item before.length ↔ True := by
  apply textAgrees_iff printed
  rw [stands.place, itemText_row positive (fun other member => sizes other
    (stands.earlier other member)) (sizes item isValue)]
  exact iff_true_intro converts

section

variable (roomy : dest.Roomy)
include roomy

theorem converts_string (string : StringOctets item) :
    Converts item (convString dest item.dropLast) ↔ ¬ quoted item.dropLast := by
  obtain ⟨split, _, size⟩ := string.split []
  have fits := string.2.2
  have converts : Converts (item.dropLast ++ [0]) (convString dest item.dropLast) ↔ _ :=
    converts_convString roomy (by omega)
  rwa [← split] at converts

private theorem textAgrees_string (string : StringOctets item)
    (stands : StandsAt vtype hints value item [] [])
    (printed : yangValueString value vtype 0 hints = cString value)
    (conv : yangValueConv dest item.dropLast vtype hints = convString dest item.dropLast) :
    TextAgrees dest vtype hints value item 0 ↔ ¬ quoted item.dropLast := by
  have place : value = item ++ [] := stands.place
  apply textAgrees_iff
  · rw [printed, place]
    exact (string.split []).2.1
  · rw [conv]
    exact converts_string roomy string

private theorem textAgrees_strings (string : StringOctets item)
    (stands : StandsAt vtype hints value item before rest)
    (strings : ∀ other, ValueOf vtype hints other → StringOctets other)
    (printed : yangValueString value vtype before.length hints = stringAt before.length value)
    (conv : yangValueConv dest item.dropLast vtype hints = convString dest item.dropLast) :
    TextAgrees dest vtype hints value item before.length ↔ ¬ quoted item.dropLast := by
  apply textAgrees_iff
  · rw [printed, stands.place]
    exact stringAt_row (fun other member => strings other (stands.earlier other member)) string
  · rw [conv]
    exact converts_string roomy string

theorem converts_nothing : Converts item (convString dest []) ↔ item = [0] := by
  have empty : Converts [0] (convString dest []) :=
    (converts_convString roomy (by decide)).mpr fun inQuotes => by cases inQuotes.2.1
  constructor
  · rintro ⟨block, same, start⟩
    obtain ⟨other, found, zero⟩ := empty
    rw [found] at same
    obtain ⟨rfl, size⟩ := Prod.mk.inj (Option.some.inj (Option.some.inj same))
    rw [← start, ← size, zero]
  · rintro rfl
    exact empty

theorem textAgrees_enumeration (stands : StandsAt vtype hints value item [] [])
    (size : item.length = 4) (registered : (enumerationHints vtype hints).isSome = true →
      (yangEnumerationGetstr (UInt32.ofNat (ofLittleEndian item))
        (enumerationHints vtype hints)).isSome = true)
    (printed : yangValueString value vtype 0 hints = some (enumerationText value vtype hints))
    (conv : ∀ text, yangValueConv dest text vtype hints = convEnumeration dest text vtype hints) :
    TextAgrees dest vtype hints value item 0 ↔ True := by
  have place : value = item := stands.place.trans (List.append_nil item)
  apply textAgrees_iff printed
  rw [conv, place]
  apply iff_true_intro
  cases given : enumerationHints vtype hints with
  | none => exact converts_enumeration_number roomy size given
  | some hint =>
    have name := registered (by rw [given]; rfl)
    obtain ⟨name, found⟩ := Option.isSome_iff_exists.mp name
    exact converts_enumeration_name roomy size found

private theorem textAgrees_hex (noDigit : digitOf delim = none)
    (size : item.length = count) (positive : 0 < count) (small : count ≤ ucMaxValuesize)
    (printed : yangValueString item vtype 0 hints =
      if item.length < count then none else some (hexText delim (item.take count)))
    (conv : ∀ text, yangValueConv dest text vtype hints = convHex dest text delim count) :
    TextAgrees dest vtype hints item item 0 ↔ True := by
  rw [if_neg (Nat.not_lt.mpr (Nat.le_of_eq size.symm)), List.take_of_length_le (Nat.le_of_eq size)]
    at printed
  apply textAgrees_iff printed
  rw [conv]
  exact iff_true_intro (converts_hex roomy noDigit size positive small)

end

/-- **The text of a value leads back to it exactly where the text keeps the value.** -/
theorem value_text_agrees (roomy : dest.Roomy) (isValue : ValueOf vtype hints item)
    (stands : StandsAt vtype hints value item before rest) :
    TextAgrees dest vtype hints value item before.length ↔ TextKeeps vtype hints item := by
  have alone (single : vtype.isLeafList = false) : before.length = 0 ∧ value = item ∧
      StandsAt vtype hints value item [] [] := by
    obtain ⟨rfl, rfl⟩ := stands.alone single
    exact ⟨rfl, stands.place.trans (List.append_nil item), stands⟩
  cases vtype
  case string | union | instanceIdentifier =>
    obtain ⟨none, _, here⟩ := alone rfl
    exact textAgrees_string roomy isValue here rfl rfl
  case stringLeafList | unionLeafList | binaryLeafList | instanceIdentifierLeafList =>
    exact textAgrees_strings roomy isValue stands (fun _ string => string) rfl rfl
  case binary => exact textAgrees_iff rfl (converts_nothing roomy)
  case tlsFingerprint =>
    obtain ⟨none, same, _⟩ := alone rfl
    obtain ⟨string, several, few⟩ := isValue
    obtain ⟨split, text, _⟩ := string.split []
    rw [none, same]
    rw [List.append_nil] at text
    refine textAgrees_iff text (iff_true_intro ?_)
    · change Converts item (convTlsFingerprint dest item.dropLast)
      rw [convTlsFingerprint, if_neg (by omega), ← split]
      apply (converts_convData roomy ?_ string.2.2).mpr rfl
      rw [split]
      simp
  case boolean =>
    refine textAgrees_item 1 (by decide) stands ?_ isValue rfl (converts_boolean roomy isValue)
    rintro other (rfl | rfl) <;> rfl
  case int8 =>
    exact textAgrees_item 1 (by decide) stands (fun _ size => size) isValue rfl
      (converts_signed roomy isValue (by decide))
  case int16 =>
    exact textAgrees_item 2 (by decide) stands (fun _ size => size) isValue rfl
      (converts_signed roomy isValue (by decide))
  case int32 =>
    exact textAgrees_item 4 (by decide) stands (fun _ size => size) isValue rfl
      (converts_signed roomy isValue (by decide))
  case int64 | int64LeafList =>
    exact textAgrees_item 8 (by decide) stands (fun _ size => size) isValue rfl
      (converts_signed roomy isValue (by decide))
  case uint8 | uint8LeafList =>
    exact textAgrees_item 1 (by decide) stands (fun _ size => size) isValue rfl
      (converts_unsigned roomy isValue (by decide))
  case uint16 | uint16LeafList =>
    exact textAgrees_item 2 (by decide) stands (fun _ size => size) isValue rfl
      (converts_unsigned roomy isValue (by decide))
  case uint32 | uint32LeafList =>
    exact textAgrees_item 4 (by decide) stands (fun _ size => size) isValue rfl
      (converts_unsigned roomy isValue (by decide))
  case uint64 | uint64LeafList =>
    exact textAgrees_item 8 (by decide) stands (fun _ size => size) isValue rfl
      (converts_unsigned roomy isValue (by decide))
  case hexuint16 | hexuint16LeafList =>
    exact textAgrees_item 2 (by decide) stands (fun _ size => size) isValue rfl
      (converts_hexuint16 roomy isValue)
  case streamIdType | streamIdTypeLeafList =>
    exact textAgrees_item 8 (by decide) stands (fun _ size => size) isValue rfl
      (converts_streamIdType roomy isValue)
  case macAddress | physAddress | streamid =>
    obtain ⟨none, rfl, _⟩ := alone rfl
    rw [none]
    exact textAgrees_hex roomy (by decide) isValue (by decide) (by decide) rfl fun _ => rfl
  case vidRangeType =>
    obtain ⟨none, rfl, _⟩ := alone rfl
    obtain ⟨ranges, rfl, _⟩ := isValue
    refine (textAgrees_iff rfl (converts_vidRange roomy)).trans ?_
    constructor
    · exact fun fit => ⟨ranges, rfl, fit⟩
    · rintro ⟨others, same, fit⟩
      rwa [encodeVids_injective (List.append_cancel_right same)]
  case identityref =>
    obtain ⟨none, rfl, _⟩ := alone rfl
    obtain ⟨size, registered⟩ := isValue
    obtain ⟨name, found⟩ := Option.isSome_iff_exists.mp registered
    exact textAgrees_iff rfl (iff_true_intro (converts_identityref roomy size found))
  case bits =>
    obtain ⟨none, rfl, here⟩ := alone rfl
    have row : itemText (([] : List (List UInt8)).flatten ++ (value ++ [])) 4 0 (fun item =>
        bitText (min (vstrSize - 1) (yangBitsGetBitnum hints)) (ofLittleEndian item)) =
        bitText (min (vstrSize - 1) (yangBitsGetBitnum hints)) (ofLittleEndian value) :=
      itemText_row (by decide) nofun isValue
    rw [List.flatten_nil, List.nil_append, List.append_nil] at row
    rw [none]
    exact textAgrees_iff (congrArg some row) (converts_bits roomy isValue hints)
  case enumeration | netconfDatastoreType | transportStatus | endStationStatus =>
    obtain ⟨none, _, here⟩ := alone rfl
    exact textAgrees_enumeration roomy here isValue.1 isValue.2 rfl fun _ => rfl
  all_goals exact isValue.elim

end RoundTrip

def newValue : Destination where
  block := 0
  size := 0
  granted := true

theorem newValue_roomy : newValue.Roomy where
  granted := rfl
  size := by decide

/-- The ranges `1,10-100`. -/
def twoRanges : List (UInt16 × UInt16) := [(1, 1), (10, 100)]

theorem value_text_agrees_ranges : TextAgrees newValue .vidRangeType none
    (encodeVids twoRanges ++ [0, 0, 0, 0]) (encodeVids twoRanges ++ [0, 0, 0, 0]) 0 := by
  have stands : StandsAt .vidRangeType none (encodeVids twoRanges ++ [0, 0, 0, 0])
      (encodeVids twoRanges ++ [0, 0, 0, 0]) [] [] := {
    place := rfl
    earlier := nofun
    alone := fun _ => ⟨rfl, rfl⟩ }
  have fit : RangesFit twoRanges := {
    filled := nofun
    few := by decide
    proper := by decide
    short := by decide +kernel }
  have isValue : ValueOf .vidRangeType none (encodeVids twoRanges ++ [0, 0, 0, 0]) :=
    ⟨twoRanges, rfl, by decide⟩
  exact (value_text_agrees newValue_roomy isValue stands).mpr ⟨twoRanges, rfl, fit⟩

/-- A string of the type `YANG_VTYPE_BINARY` is accepted, but has no text. -/
theorem binary_loses_text : ¬ ∀ (dest : Destination) (vtype : YangVtype)
    (hints : Option (List UInt8)) (value item rest : List UInt8) (before : List (List UInt8)),
    dest.Roomy → ValueOf vtype hints item → StandsAt vtype hints value item before rest →
      TextAgrees dest vtype hints value item before.length := by
  intro always
  have stands : StandsAt .binary none [65, 0] [65, 0] [] [] := {
    place := rfl
    earlier := nofun
    alone := fun _ => ⟨rfl, rfl⟩ }
  have agrees := always newValue .binary none [65, 0] [65, 0] [] [] newValue_roomy
    ⟨by decide, rfl, by decide⟩ stands
  have lost : ([65, 0] : List UInt8) = [0] :=
    (textAgrees_iff rfl (converts_nothing newValue_roomy)).mp agrees
  cases lost

end EnetTsn.Uniconf
