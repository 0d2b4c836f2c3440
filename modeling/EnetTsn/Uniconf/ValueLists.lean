import EnetTsn.Uniconf.ValueText

namespace EnetTsn.Uniconf

open EnetTsn.Library

section Octets

variable {dest : Destination} {item rest : List UInt8} {delim : UInt8} {len : Nat}

theorem hexText_cons (octet second : UInt8) (later : List UInt8) :
    hexText delim (octet :: second :: later) =
      numeral 16 2 octet.toNat ++ delim :: hexText delim (second :: later) := rfl

theorem digits_octet (octet : UInt8) : (Nat.digits 16 octet.toNat).length ≤ 2 :=
  (Nat.digits_length_le_iff (by decide) _).mpr octet.toNat_lt

theorem ubHexstr2barray_hexText (noDigit : digitOf delim = none) (filled : item ≠ [])
    (enough : item.length ≤ len) (stops : Stops rest) (ends : rest.head? ≠ some delim) :
    ubHexstr2barray delim len (hexText delim item ++ rest) = item := by
  induction item generalizing len with
  | nil => exact absurd rfl filled
  | cons octet others ih =>
    obtain ⟨more, rfl⟩ : ∃ more, len = more + 1 := by
      rw [List.length_cons] at enough
      exact ⟨len - 1, by omega⟩
    have value : UInt8.ofNat (((octet.toNat : Nat) : Int) % 256).toNat = octet := by
      have small := octet.toNat_lt
      have same : (((octet.toNat : Nat) : Int) % 256).toNat = octet.toNat := by omega
      rw [same, UInt8.ofNat_toNat]
    have digits := length_numeral 16 2 octet.toNat
    rw [ubHexstr2barray]
    cases others with
    | nil =>
      rw [hexText, strtol_hex stops octet.toNat_lt]
      simp only [value]
      rw [if_neg (by rw [List.length_append]; omega)]
      cases rest with
      | nil => rfl
      | cons next later =>
        have other : next ≠ delim := by
          rintro rfl
          exact ends rfl
        exact if_neg other
    | cons second later =>
      rw [hexText_cons, List.append_assoc, List.cons_append,
        strtol_hex (stops_cons noDigit _) octet.toNat_lt]
      simp only [value]
      rw [if_neg (by rw [List.length_append]; omega), if_pos trivial,
        ih (List.cons_ne_nil _ _) (by simpa using enough)]

/-- `%02X` with a delimiter, for addresses and stream identifiers. -/
theorem converts_hex (roomy : dest.Roomy) (noDigit : digitOf delim = none)
    (size : item.length = count) (positive : 0 < count) (small : count ≤ ucMaxValuesize) :
    Converts item (convHex dest (hexText delim item) delim count) := by
  have filled : item ≠ [] := List.ne_nil_of_length_pos (by omega)
  have read : ubHexstr2barray delim count (hexText delim item ++ []) = item :=
    ubHexstr2barray_hexText noDigit filled (by omega) stops_nil nofun
  rw [List.append_nil] at read
  rw [convHex, read, size, Nat.sub_self]
  apply (converts_convData roomy _ _).mpr
  · rw [List.replicate_zero, List.append_nil]
  · simpa using filled
  · simpa [size] using small

theorem length_hexText : ∀ {item : List UInt8}, item ≠ [] →
    (hexText delim item).length = 3 * item.length - 1
  | [], filled => absurd rfl filled
  | [octet], _ => by
    have small := digits_octet octet
    rw [hexText, length_numeral, List.length_singleton]
    omega
  | octet :: second :: later, _ => by
    have small := digits_octet octet
    have rest := length_hexText (List.cons_ne_nil second later)
    rw [hexText_cons, List.length_append, List.length_cons, rest, length_numeral]
    simp only [List.length_cons]
    omega

theorem streamIdText_read (size : item.length = 8) :
    ubHexstr2barray 45 6 (streamIdText item) = item.take 6 ∧
      (streamIdText item).drop 17 = 58 :: hexText 45 (item.drop 6) ∧
      ubHexstr2barray 45 2 ((streamIdText item).drop 18) = item.drop 6 := by
  have startSize : (item.take 6).length = 6 := by
    rw [List.length_take]
    omega
  have endSize : (item.drop 6).length = 2 := by
    rw [List.length_drop]
    omega
  have startFilled : item.take 6 ≠ [] := List.ne_nil_of_length_pos (by omega)
  have endFilled : item.drop 6 ≠ [] := List.ne_nil_of_length_pos (by omega)
  have length : (hexText 45 (item.take 6)).length = 17 := by
    rw [length_hexText startFilled, startSize]
  have second : ubHexstr2barray 45 2 (hexText 45 (item.drop 6) ++ []) = item.drop 6 :=
    ubHexstr2barray_hexText rfl endFilled (by omega) stops_nil nofun
  have colon : (streamIdText item).drop 17 = 58 :: hexText 45 (item.drop 6) := by
    rw [streamIdText, ← length, List.drop_left]
  have behind : (streamIdText item).drop 18 = ((streamIdText item).drop 17).drop 1 := by
    rw [List.drop_drop]
  refine ⟨ubHexstr2barray_hexText rfl startFilled (by omega) (stops_cons rfl _) nofun, colon, ?_⟩
  rwa [behind, colon, List.drop_one, List.tail_cons, ← List.append_nil (hexText _ _)]

theorem converts_streamIdType (roomy : dest.Roomy) (size : item.length = 8) :
    Converts item (convStreamIdType dest (streamIdText item)) := by
  obtain ⟨first, colon, second⟩ := streamIdText_read size
  have startSize : (item.take 6).length = 6 := by
    rw [List.length_take]
    omega
  have long : ¬ (streamIdText item).length < 17 := by
    have length := congrArg List.length colon
    rw [List.length_drop, List.length_cons] at length
    omega
  rw [convStreamIdType]
  simp only [first, startSize, if_true, if_neg long, colon, List.head?_cons, second,
    List.take_append_drop, size, Nat.sub_self, List.replicate_zero, List.append_nil]
  apply (converts_convData roomy _ _).mpr rfl
  · exact List.ne_nil_of_length_pos (by omega)
  · rw [size]
    decide

end Octets

section Ranges

variable {dest : Destination} {ranges : List (UInt16 × UInt16)}

def rangesText (delim : List UInt8) : List (UInt16 × UInt16) → List UInt8
  | [] => []
  | range :: rest => rangeText delim range ++ rangesText [44] rest

theorem decimal_plain (member : octet ∈ decimal value) : octet ≠ 44 ∧ octet ≠ 45 := by
  obtain ⟨digit, small, rfl⟩ := mem_numeral (by decide) member
  obtain ⟨_, noMinus, _, noComma⟩ := digitOctet_plain (by omega : digit < 16)
  exact ⟨noComma, noMinus⟩

theorem strchr_append (without : ∀ other ∈ front, other ≠ octet) :
    strchr (front ++ rest) octet = strchr rest octet := by
  have skipped : (front ++ rest).dropWhile (· ≠ octet) = rest.dropWhile (· ≠ octet) :=
    List.dropWhile_append_of_pos fun other member => decide_eq_true (without other member)
  rw [strchr, skipped]
  rfl

theorem strchr_cons (octet : UInt8) (rest : List UInt8) : strchr (octet :: rest) octet =
    some (octet :: rest) := by
  rw [strchr, List.dropWhile_cons_of_neg (by simp)]

theorem wordOf_decimal (value : UInt16) (stops : Stops rest) :
    UInt16.ofNat ((strtol 0 (decimal value.toNat ++ rest)).1 % 2 ^ 16).toNat = value := by
  have small := value.toNat_lt
  have same : (((value.toNat : Nat) : Int) % 2 ^ 16).toNat = value.toNat := by omega
  rw [strtol_decimal stops (by omega)]
  simp only [same]
  exact UInt16.ofNat_toNat

private theorem strchr_rangesText (ranges : List (UInt16 × UInt16)) : strchr (rangesText [44] ranges) 44 =
      if ranges = [] then none else some (rangesText [44] ranges) := by
  cases ranges with
  | nil => rfl
  | cons range rest => exact strchr_cons 44 _

variable (range : UInt16 × UInt16) (rest : List (UInt16 × UInt16))

theorem getTwoVids_rangesText : getTwoVids (rangesText [] (range :: rest)) =
      (range, if rest = [] then none else some (rangesText [] rest)) := by
  have stops : Stops (rangesText [44] rest) := by
    cases rest with
    | nil => exact stops_nil
    | cons _ _ => exact stops_cons rfl _
  have text : rangesText [] (range :: rest) =
      decimal range.1.toNat ++ 45 :: (decimal range.2.toNat ++ rangesText [44] rest) := by
    rw [rangesText, rangeText, List.nil_append, List.append_assoc, List.cons_append]
  have comma : strchr (rangesText [] (range :: rest)) 44 =
      if rest = [] then none else some (rangesText [44] rest) := by
    rw [text, strchr_append fun _ member => (decimal_plain member).1]
    rw [← List.singleton_append, strchr_append (by simp),
      strchr_append fun _ member => (decimal_plain member).1, strchr_rangesText]
  have hyphen : strchr (rangesText [] (range :: rest)) 45 =
      some (45 :: (decimal range.2.toNat ++ rangesText [44] rest)) := by
    rw [text, strchr_append fun _ member => (decimal_plain member).2, strchr_cons]
  have behind : (if rest = [] then none else some (rangesText [44] rest)).map List.tail =
      if rest = [] then none else some (rangesText [] rest) := by
    cases rest with
    | nil => rfl
    | cons _ _ => rfl
  have near : ((if rest = [] then none else some (rangesText [] rest)).all fun others =>
      others.length < (45 :: (decimal range.2.toNat ++ rangesText [44] rest)).length) = true := by
    cases rest with
    | nil => rfl
    | cons _ _ =>
      apply decide_eq_true
      simp only [rangesText, rangeText, List.length_cons, List.length_append]
      omega
  rw [getTwoVids, comma, hyphen]
  simp only [behind, near, if_true, List.tail_cons, wordOf_decimal range.2 stops]
  rw [text, wordOf_decimal range.1 (stops_cons rfl _)]

private theorem rangesText_ne_nil : ∃ octet others, rangesText [] (range :: rest) = octet :: others := by
  obtain ⟨digit, others, split, _⟩ := numeral_cons 10 1 range.1.toNat (by decide) (by decide)
  refine ⟨digitOctet digit, others ++ 45 :: decimal range.2.toNat ++ rangesText [44] rest, ?_⟩
  rw [rangesText, rangeText, decimal, split]
  simp

private theorem vidRanges_rangesText (enough : ranges.length ≤ fuel) :
    vidRanges fuel (some (rangesText [] ranges)) = ranges := by
  induction ranges generalizing fuel with
  | nil => cases fuel <;> rfl
  | cons range rest ih =>
    obtain ⟨more, rfl⟩ : ∃ more, fuel = more + 1 := by
      rw [List.length_cons] at enough
      exact ⟨fuel - 1, by omega⟩
    obtain ⟨octet, others, filled⟩ := rangesText_ne_nil range rest
    have two := getTwoVids_rangesText range rest
    rw [filled] at two ⊢
    rw [vidRanges, two]
    rw [List.length_cons] at enough
    cases rest with
    | nil => cases more <;> rfl
    | cons next later =>
      exact congrArg (range :: ·) (ih (by omega))

private theorem length_rangesText (ranges : List (UInt16 × UInt16)) (delim : List UInt8) :
    ranges.length ≤ (rangesText delim ranges).length := by
  induction ranges generalizing delim with
  | nil => exact Nat.le_refl _
  | cons range rest ih =>
    have later := ih [44]
    rw [rangesText, rangeText, List.length_append, List.length_append, List.length_cons,
      List.length_append, List.length_cons]
    omega

theorem encodeVids_cons : encodeVids (range :: rest) =
      littleEndian 2 range.1.toNat ++ (littleEndian 2 range.2.toNat ++ encodeVids rest) := by
  rfl

theorem length_encodeVids (ranges : List (UInt16 × UInt16)) :
    (encodeVids ranges).length = 4 * ranges.length := by
  induction ranges with
  | nil => rfl
  | cons range rest ih =>
    rw [encodeVids_cons, List.length_append, List.length_append, ih, length_littleEndian,
      length_littleEndian, List.length_cons]
    omega

theorem wordOf_littleEndian (value : UInt16) :
    UInt16.ofNat (ofLittleEndian (littleEndian 2 value.toNat)) = value := by
  rw [ofLittleEndian_littleEndian, Nat.mod_eq_of_lt (by simpa using value.toNat_lt),
    UInt16.ofNat_toNat]

theorem encodeVids_injective (same : encodeVids ranges = encodeVids others) : ranges = others := by
  have length := congrArg List.length same
  rw [length_encodeVids, length_encodeVids] at length
  induction ranges generalizing others with
  | nil => exact (List.length_eq_zero_iff.mp (by simpa using length.symm)).symm
  | cons range rest ih =>
    cases others with
    | nil => cases length
    | cons first later =>
      rw [encodeVids_cons, encodeVids_cons] at same
      obtain ⟨one, same⟩ := List.append_inj same (by simp only [length_littleEndian])
      obtain ⟨two, same⟩ := List.append_inj same (by simp only [length_littleEndian])
      have word : ∀ {one two : UInt16}, littleEndian 2 one.toNat = littleEndian 2 two.toNat →
          one = two := by
        intro one two equal
        rw [← wordOf_littleEndian one, equal, wordOf_littleEndian]
      rw [ih same (by simpa using length), Prod.ext (word one) (word two)]

/-- The ranges that the text has, from the start on: all of them if there are turns for them,
none is a terminator, and the text has room. -/
theorem vidText_ranges (ranges : List (UInt16 × UInt16)) (turns : Nat) (vstr delim : List UInt8)
    (short : vstr.length < vstrSize) : ∃ count ≤ ranges.length,
      vidText turns vstr delim (encodeVids ranges ++ [0, 0, 0, 0]) =
        vstr ++ rangesText delim (ranges.take count) ∧
      (count = ranges.length ↔ ranges.length ≤ turns ∧ (0, 0) ∉ ranges ∧
        vstr.length + (rangesText delim ranges).length < vstrSize) := by
  induction ranges generalizing turns vstr delim with
  | nil =>
    refine ⟨0, Nat.le_refl _, ?_, iff_of_true rfl ⟨Nat.zero_le _, nofun, short⟩⟩
    cases turns with
    | zero => simp [vidText, rangesText]
    | succ more =>
      have ends : vidText (more + 1) vstr delim [0, 0, 0, 0] = vstr := by
        rw [vidText, if_neg (by decide)]
        exact if_pos (by decide)
      exact (List.append_nil vstr).symm
  | cons range rest ih =>
    have stopped (others : ¬ ((range :: rest).length ≤ turns ∧ (0, 0) ∉ range :: rest ∧
        vstr.length + (rangesText delim (range :: rest)).length < vstrSize))
        (same : vidText turns vstr delim (encodeVids (range :: rest) ++ [0, 0, 0, 0]) = vstr) :
        ∃ count ≤ (range :: rest).length,
          vidText turns vstr delim (encodeVids (range :: rest) ++ [0, 0, 0, 0]) =
            vstr ++ rangesText delim ((range :: rest).take count) ∧
          (count = (range :: rest).length ↔ (range :: rest).length ≤ turns ∧
            (0, 0) ∉ range :: rest ∧
            vstr.length + (rangesText delim (range :: rest)).length < vstrSize) := by
      refine ⟨0, Nat.zero_le _, ?_, iff_of_false ?_ others⟩
      · rw [same, List.take_zero]
        exact (List.append_nil vstr).symm
      · rw [List.length_cons]
        omega
    cases turns with
    | zero =>
      apply stopped _ rfl
      rintro ⟨none, _⟩
      rw [List.length_cons] at none
      omega
    | succ more =>
      have long : ¬ (encodeVids (range :: rest) ++ [0, 0, 0, 0]).length < 4 := by
        simp
      have split : encodeVids (range :: rest) ++ [0, 0, 0, 0] = littleEndian 2 range.1.toNat ++
          (littleEndian 2 range.2.toNat ++ (encodeVids rest ++ [0, 0, 0, 0])) := by
        rw [encodeVids_cons, List.append_assoc, List.append_assoc]
      have one : (encodeVids (range :: rest) ++ [0, 0, 0, 0]).take 2 =
          littleEndian 2 range.1.toNat := by
        exact List.take_left' (length_littleEndian 2 _)
      have others : (encodeVids (range :: rest) ++ [0, 0, 0, 0]).drop 2 =
          littleEndian 2 range.2.toNat ++ (encodeVids rest ++ [0, 0, 0, 0]) := by
        exact List.drop_left' (length_littleEndian 2 _)
      have two : ((encodeVids (range :: rest) ++ [0, 0, 0, 0]).drop 2).take 2 =
          littleEndian 2 range.2.toNat := by
        exact List.take_left' (length_littleEndian 2 _)
      have behind : (encodeVids (range :: rest) ++ [0, 0, 0, 0]).drop 4 =
          encodeVids rest ++ [0, 0, 0, 0] := by
        have further : (encodeVids (range :: rest) ++ [0, 0, 0, 0]).drop 4 =
            ((encodeVids (range :: rest) ++ [0, 0, 0, 0]).drop 2).drop 2 := by
          rw [List.drop_drop]
        rw [further, others]
        exact List.drop_left' (length_littleEndian 2 _)
      have turn : vidText (more + 1) vstr delim (encodeVids (range :: rest) ++ [0, 0, 0, 0]) =
          if range.1 = 0 ∧ range.2 = 0 then vstr
          else if vstrSize < vstr.length + (rangeText delim range).length + 1 then vstr
          else vidText more (vstr ++ rangeText delim range) [44]
            (encodeVids rest ++ [0, 0, 0, 0]) := by
        rw [vidText, if_neg long, one, two, behind, wordOf_littleEndian, wordOf_littleEndian]
      have length : (rangesText delim (range :: rest)).length =
          (rangeText delim range).length + (rangesText [44] rest).length := by
        rw [rangesText, List.length_append]
      by_cases terminator : range.1 = 0 ∧ range.2 = 0
      · rw [if_pos terminator] at turn
        apply stopped _ turn
        rintro ⟨_, absent, _⟩
        apply absent
        rw [← Prod.mk.injEq, Prod.mk.eta] at terminator
        rw [terminator]
        exact List.mem_cons_self
      rw [if_neg terminator] at turn
      by_cases full : vstrSize < vstr.length + (rangeText delim range).length + 1
      · rw [if_pos full] at turn
        apply stopped _ turn
        rintro ⟨_, _, room⟩
        omega
      · rw [if_neg full] at turn
        have room : (vstr ++ rangeText delim range).length < vstrSize := by
          rw [List.length_append]
          omega
        obtain ⟨count, within, text, all⟩ := ih more (vstr ++ rangeText delim range) [44] room
        refine ⟨count + 1, Nat.succ_le_succ within, ?_, ?_⟩
        · rw [turn, text, List.take_succ_cons, rangesText, List.append_assoc]
        · have other : (0, 0) ≠ range := by
            rintro rfl
            exact terminator ⟨rfl, rfl⟩
          rw [List.length_cons, Nat.add_right_cancel_iff, all, length, List.length_append,
            Nat.add_le_add_iff_right, List.mem_cons, not_or, Nat.add_assoc]
          exact ⟨fun ⟨turns, absent, fits⟩ => ⟨turns, ⟨other, absent⟩, fits⟩,
            fun ⟨turns, ⟨_, absent⟩, fits⟩ => ⟨turns, absent, fits⟩⟩

structure RangesFit (ranges : List (UInt16 × UInt16)) : Prop where
  filled : ranges ≠ []
  few : ranges.length ≤ 8
  proper : (0, 0) ∉ ranges
  short : (rangesText [] ranges).length < vstrSize

theorem converts_vidRange (roomy : dest.Roomy) : Converts (encodeVids ranges ++ [0, 0, 0, 0])
      (convVidRange dest (vidText 8 [] [] (encodeVids ranges ++ [0, 0, 0, 0]))) ↔
      RangesFit ranges := by
  obtain ⟨count, within, text, all⟩ := vidText_ranges ranges 8 [] [] (by decide)
  have taken : (ranges.take count).length = count := by
    rw [List.length_take]
    omega
  have read : vidRanges ((rangesText [] (ranges.take count)).length + 1)
      (some (rangesText [] (ranges.take count))) = ranges.take count := by
    apply vidRanges_rangesText
    have length := length_rangesText (ranges.take count) []
    omega
  rw [List.nil_append] at text
  rw [convVidRange, text, read]
  simp only [roomy.granted, Bool.true_eq_false, or_false]
  constructor
  · rintro ⟨block, same, _⟩
    by_cases nothing : ranges.take count = []
    · rw [if_pos nothing] at same
      cases same
    · rw [if_neg nothing] at same
      have size := (Prod.mk.inj (Option.some.inj (Option.some.inj same))).2
      rw [List.length_append, List.length_append, length_encodeVids, length_encodeVids, taken] at size
      have whole : count = ranges.length := by omega
      obtain ⟨few, proper, short⟩ := all.mp whole
      have filled : ranges ≠ [] := by
        rintro rfl
        exact nothing List.take_nil
      exact ⟨filled, few, proper, by simpa using short⟩
  · intro fit
    have whole : count = ranges.length := by
      apply all.mpr
      refine ⟨fit.few, fit.proper, ?_⟩
      simpa using fit.short
    rw [whole, List.take_length, if_neg fit.filled]
    exact ⟨_, rfl, List.take_left⟩

end Ranges

end EnetTsn.Uniconf
