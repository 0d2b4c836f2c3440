import EnetTsn.Uniconf.YangValue

namespace EnetTsn.Uniconf

open EnetTsn.Library

def Converts (item : List UInt8) (converted : Option (Option Converted)) : Prop :=
  ∃ block, converted = some (some (block, item.length)) ∧ block.take item.length = item

structure Destination.Roomy (dest : Destination) : Prop where
  granted : dest.granted = true
  size : dest.size ≤ ucMaxValuesize

section Copies

variable {dest : Destination} {item data : List UInt8}

variable (roomy : dest.Roomy)
include roomy

theorem valueConvDestcopy_roomy (filled : data ≠ [])
    (fits : data.length ≤ ucMaxValuesize) : valueConvDestcopy dest data =
      some (data ++ List.replicate (dest.size - data.length) 0, data.length) := by
  have size := roomy.size
  rw [valueConvDestcopy, if_neg (List.length_pos_iff.mpr filled).ne', if_neg]
  rw [roomy.granted, not_or]
  exact ⟨by omega, Bool.noConfusion⟩

theorem converts_convData (filled : data ≠ [])
    (fits : data.length ≤ ucMaxValuesize) : Converts item (convData dest data) ↔ data = item := by
  rw [convData, valueConvDestcopy_roomy roomy filled fits]
  constructor
  · rintro ⟨block, same, start⟩
    obtain ⟨rfl, size⟩ := Prod.mk.inj (Option.some.inj (Option.some.inj same))
    rw [← start, ← size, List.take_left]
  · rintro rfl
    exact ⟨_, rfl, List.take_left⟩

def quoted (text : List UInt8) : Prop :=
  2 ≤ text.length ∧ text.head? = some 34 ∧ text.getLast? = some 34

theorem converts_convString (fits : text.length + 1 ≤ ucMaxValuesize) :
    Converts (text ++ [0]) (convString dest text) ↔ ¬ quoted text := by
  rw [convString]
  by_cases inQuotes : quoted text
  · have several := inQuotes.1
    have filled : text.tail ≠ [] := by
      intro none
      have length := congrArg List.length none
      rw [List.length_tail, List.length_nil] at length
      omega
    have short : text.tail.length ≤ ucMaxValuesize := by
      rw [List.length_tail]
      omega
    refine iff_of_false ?_ (not_not.mpr inQuotes)
    rintro ⟨block, same, _⟩
    simp only [quoted] at inQuotes
    rw [if_pos inQuotes, valueConvDestcopy_roomy roomy filled short] at same
    have size := (Prod.mk.inj (Option.some.inj (Option.some.inj same))).2
    rw [List.length_tail, List.length_append, List.length_singleton] at size
    omega
  · have filled : text ++ [(0 : UInt8)] ≠ [] := by simp
    have short : (text ++ [(0 : UInt8)]).length ≤ ucMaxValuesize := by simpa using fits
    refine iff_of_true ?_ inQuotes
    simp only [quoted] at inQuotes
    rw [if_neg inQuotes, valueConvDestcopy_roomy roomy filled short]
    refine ⟨_, rfl, ?_⟩
    rw [List.length_append, List.length_singleton, Nat.add_sub_cancel, List.append_assoc,
      List.set_append_right _ _ (Nat.le_refl _), Nat.sub_self]
    simp [List.take_append]

end Copies

section Numbers

variable {dest : Destination} {item : List UInt8}

theorem littleEndian_mod (count value : Nat) :
    littleEndian count (value % 256 ^ count) = littleEndian count value := by
  have length := length_littleEndian count value
  have again := littleEndian_ofLittleEndian (littleEndian count value)
  rwa [length, ofLittleEndian_littleEndian] at again

/-- `%d` of an item of some octets. -/
theorem converts_signed (roomy : dest.Roomy) (size : item.length = csize)
    (width : csize ∈ [1, 2, 4, 8]) : Converts item (convSigned dest (signedText item) csize) := by
  have less := ofLittleEndian_lt item
  rw [size] at less
  have value : ubInt64FromNonAligned item = Int.bmod (ofLittleEndian item) (256 ^ csize) := by
    rw [ubInt64FromNonAligned, size, if_pos width]
  have limit : (256 : Nat) ^ csize ≤ 2 ^ 64 ∧ 2 ∣ 256 ^ csize ∧ 256 ^ csize ∣ 2 ^ 64 ∧ 0 < csize ∧
      csize ≤ ucMaxValuesize := by
    revert width
    simp only [List.mem_cons, List.not_mem_nil, or_false]
    rintro (rfl | rfl | rfl | rfl) <;> decide
  obtain ⟨most, even, divides, positive, small⟩ := limit
  have low := Int.le_bmod (x := ofLittleEndian item) (m := 256 ^ csize) (by positivity)
  have high := Int.bmod_lt (x := ofLittleEndian item) (m := 256 ^ csize) (by positivity)
  have text : strtol 0 (signedText item) = (ubInt64FromNonAligned item, []) := by
    rw [signedText, ← List.append_nil (signedDecimal _)]
    apply strtol_signedDecimal stops_nil
    · omega
    · omega
  rw [convSigned, text]
  have data : littleEndian csize ((ubInt64FromNonAligned item) % 2 ^ 64).toNat = item := by
    rw [← littleEndian_mod]
    have same : ((ubInt64FromNonAligned item) % 2 ^ 64).toNat % 256 ^ csize = ofLittleEndian item := by
      apply Int.ofNat.inj
      change ((_ : Nat) : Int) = ((_ : Nat) : Int)
      rw [Int.natCast_mod, Int.toNat_of_nonneg (Int.emod_nonneg _ (by decide)), value]
      have whole : ((256 ^ csize : Nat) : Int) ∣ 2 ^ 64 := by exact_mod_cast divides
      rw [Int.emod_emod_of_dvd _ whole, Int.bmod_emod, ← Int.natCast_mod, Nat.mod_eq_of_lt less]
    rw [same, ← size]
    exact littleEndian_ofLittleEndian item
  rw [data]
  apply (converts_convData roomy ?_ ?_).mpr rfl
  · rintro rfl
    rw [List.length_nil] at size
    omega
  · omega

theorem ubUint64_sized (width : item.length ∈ [1, 2, 4, 8]) :
    ubUint64FromNonAligned item = ofLittleEndian item := if_pos width

section

variable (roomy : dest.Roomy)
include roomy

theorem converts_littleEndian (size : item.length = csize)
    (positive : 0 < csize) (small : csize ≤ ucMaxValuesize)
    (same : value % 256 ^ csize = ofLittleEndian item) :
    Converts item (convData dest (littleEndian csize value)) := by
  have data : littleEndian csize value = item := by
    rw [← littleEndian_mod, same, ← size]
    exact littleEndian_ofLittleEndian item
  rw [data]
  apply (converts_convData roomy ?_ ?_).mpr rfl
  · rintro rfl
    rw [List.length_nil] at size
    omega
  · omega

/-- `%u` of an item of some octets. -/
theorem converts_unsigned (size : item.length = csize) (width : csize ∈ [1, 2, 4, 8]) :
    Converts item (convUnsigned dest (unsignedText item) csize) := by
  have less := ofLittleEndian_lt item
  rw [size] at less
  have limit : (256 : Nat) ^ csize ≤ 2 ^ 64 ∧ 0 < csize ∧ csize ≤ ucMaxValuesize := by
    revert width
    simp only [List.mem_cons, List.not_mem_nil, or_false]
    rintro (rfl | rfl | rfl | rfl) <;> decide
  have text : strtoul 0 (unsignedText item) = ofLittleEndian item := by
    rw [unsignedText, ubUint64_sized (size ▸ width), ← List.append_nil (decimal _)]
    exact strtoul_decimal stops_nil (by omega)
  rw [convUnsigned, text]
  exact converts_littleEndian roomy size limit.2.1 limit.2.2 (Nat.mod_eq_of_lt less)

theorem converts_hexuint16 (size : item.length = 2) :
    Converts item (convUnsigned dest (hexuint16Text item) 2) := by
  have less := ofLittleEndian_lt item
  rw [size] at less
  have text : strtoul 0 (hexuint16Text item) = ofLittleEndian item := by
    rw [hexuint16Text, ← List.append_nil (numeral _ _ _)]
    exact strtoul_hex (by decide) stops_nil (by omega)
  rw [convUnsigned, text]
  exact converts_littleEndian roomy size (by decide) (by decide) (Nat.mod_eq_of_lt less)

theorem converts_boolean (truth : item = [0] ∨ item = [1]) :
    Converts item (convBoolean dest (booleanText item)) := by
  apply (converts_convData roomy (List.cons_ne_nil _ _) ?_).mpr
  · rcases truth with rfl | rfl <;> decide
  · rw [List.length_singleton]
    decide

end

theorem readDigits_bitText (count urval value : Nat) :
    readDigits 2 value (bitText count urval) = (value * 2 ^ count + urval % 2 ^ count, []) := by
  induction count generalizing value with
  | zero => simp [bitText, readDigits, Nat.mod_one]
  | succ bit ih =>
    have small : urval / 2 ^ bit % 2 < 2 := Nat.mod_lt _ (by decide)
    have accepted : (digitOf (digitOctet (urval / 2 ^ bit % 2))).filter (· < 2) =
        some (urval / 2 ^ bit % 2) := by
      rw [digitOf_digitOctet (by omega), Option.filter_some_pos]
      exact decide_eq_true small
    rw [bitText, readDigits, accepted]
    simp only [ih]
    rw [Prod.mk.injEq]
    refine ⟨?_, rfl⟩
    have split : urval % 2 ^ (bit + 1) = urval % 2 ^ bit + 2 ^ bit * (urval / 2 ^ bit % 2) := by
      rw [pow_succ, Nat.mod_mul]
    rw [split, pow_succ]
    ring

theorem strtol_bitText (positive : 0 < count) (short : count < 63) :
    strtol 2 (bitText count urval) = (((urval % 2 ^ count : Nat) : Int), []) := by
  obtain ⟨bit, rfl⟩ := Nat.exists_eq_succ_of_ne_zero positive.ne'
  have read := readDigits_bitText (bit + 1) urval 0
  have less : urval % 2 ^ (bit + 1) < 2 ^ (bit + 1) := Nat.mod_lt _ (by positivity)
  have most : (2 : Nat) ^ (bit + 1) ≤ 2 ^ 63 := Nat.pow_le_pow_right (by decide) (by omega)
  have small : urval / 2 ^ bit % 2 < 16 := Nat.lt_of_lt_of_le (Nat.mod_lt _ (by decide)) (by decide)
  have based : radix 2 (bitText (bit + 1) urval) = (2, bitText (bit + 1) urval) := rfl
  rw [Nat.zero_mul, Nat.zero_add] at read
  have scanned : scanNumber 2 (bitText (bit + 1) urval) =
      some { negative := false, magnitude := urval % 2 ^ (bit + 1), rest := [] } := by
    have first : scanNumber 2 (bitText (bit + 1) urval) =
        scanDigits 2 false (bitText (bit + 1) urval) := scanNumber_digit small _
    rw [first, scanDigits, based]
    simp only [read]
    exact if_neg (Nat.zero_ne_add_one _)
  rw [strtol, scanned]
  generalize urval % 2 ^ (bit + 1) = value at less
  simp only [Bool.false_eq_true, if_false]
  rw [Prod.mk.injEq]
  refine ⟨?_, rfl⟩
  omega

private theorem yangBitsGetBitnum_bounds (hints : Option (List UInt8)) :
    0 < yangBitsGetBitnum hints ∧ yangBitsGetBitnum hints ≤ 32 := by
  have all : ∀ table ∈ yangBitsStrMapList, 0 < table.1 ∧ table.1 ≤ 32 := by decide
  rw [yangBitsGetBitnum]
  cases chosen : hintTable yangBitsStrMapList hints with
  | none => exact ⟨by decide, by decide⟩
  | some count =>
    obtain ⟨hint, _, found⟩ := Option.bind_eq_some_iff.mp chosen
    obtain ⟨table, first, rfl⟩ := Option.map_eq_some_iff.mp found
    exact all table (List.mem_of_find?_eq_some first)

theorem converts_bits (roomy : dest.Roomy) (size : item.length = 4) (hints : Option (List UInt8)) :
    Converts item (convBits dest (bitText (min (vstrSize - 1) (yangBitsGetBitnum hints))
      (ofLittleEndian item))) ↔ ofLittleEndian item < 2 ^ yangBitsGetBitnum hints := by
  obtain ⟨positive, most⟩ := yangBitsGetBitnum_bounds hints
  have count : min (vstrSize - 1) (yangBitsGetBitnum hints) = yangBitsGetBitnum hints := by
    apply Nat.min_eq_right
    have size : vstrSize = 64 := rfl
    omega
  have less : ofLittleEndian item % 2 ^ yangBitsGetBitnum hints < 2 ^ 32 :=
    Nat.lt_of_lt_of_le (Nat.mod_lt _ (by positivity)) (Nat.pow_le_pow_right (by decide) most)
  have value : (((ofLittleEndian item % 2 ^ yangBitsGetBitnum hints : Nat) : Int) % 2 ^ 32).toNat =
      ofLittleEndian item % 2 ^ yangBitsGetBitnum hints := by
    omega
  rw [convBits, count, strtol_bitText positive (by omega), converts_convData roomy]
  · rw [value]
    constructor
    · intro same
      have back := congrArg ofLittleEndian same
      rw [ofLittleEndian_littleEndian, Nat.mod_eq_of_lt (by simpa using less)] at back
      rw [← back]
      exact Nat.mod_lt _ (by positivity)
    · intro inside
      rw [Nat.mod_eq_of_lt inside, ← size]
      exact littleEndian_ofLittleEndian item
  · exact List.ne_nil_of_length_pos (by rw [length_littleEndian]; decide)
  · rw [length_littleEndian]
    decide

end Numbers

end EnetTsn.Uniconf
