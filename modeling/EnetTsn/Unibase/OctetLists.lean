import EnetTsn.Library.Numeral
import Mathlib.Data.List.TakeWhile

/-!
Lists of octets as text: `ub_str2bytearray` reads one octet after another through a window of
three characters, and `ub_bytearray2str` writes them in base 16.
-/

namespace EnetTsn.Unibase

open EnetTsn.Library

/-- `check_delimi`; the end of a text is read as a zero. -/
def checkDelimi (base : Nat) (a : UInt8) : Bool :=
  if 48 ≤ a ∧ a ≤ 57 then false
  else if base = 16 ∧ (97 ≤ a ∧ a ≤ 102 ∨ 65 ≤ a ∧ a ≤ 70) then false
  else true

/-- The loop over the characters of one octet, with those that are in `vstr`: the octet that is
stored, and the text from its delimiter on. -/
def scanOctet (base : Nat) : Nat → List UInt8 → List UInt8 → Option (UInt8 × List UInt8)
  | 0, _, _ => none
  | room + 1, vstr, astr =>
    if checkDelimi base (astr.headD 0) || astr.headD 0 = 0 then
      if vstr = [] then none
      else if 256 ≤ strtoul base vstr then none
      else some (UInt8.ofNat (strtoul base vstr), astr)
    else scanOctet base room (vstr ++ [astr.headD 0]) astr.tail

def scanOctets (base : Nat) : Nat → List UInt8 → List UInt8
  | 0, _ => []
  | turns + 1, astr =>
    if astr = [] then []
    else match scanOctet base 3 [] astr with
      | none => []
      | some (octet, []) => [octet]
      | some (octet, _ :: next) => octet :: scanOctets base turns next

/-- `ub_str2bytearray`: the octets that are stored in `dest`. -/
def ubStr2bytearray (input : Option (List UInt8)) (base : Nat) : List UInt8 :=
  match input with
  | none | some [] => []
  | some input => scanOctets base input.length input

def hexLookup (digit : UInt8) : UInt8 := "0123456789abcdef".toUTF8.data.getD digit.toNat 0

/-- The loop of `ub_bytearray2str`. -/
def hexPairs : List UInt8 → List UInt8
  | [] => []
  | octet :: rest =>
    hexLookup ((octet &&& 0xF0) >>> 4) :: hexLookup (octet &&& 0x0F) ::
      if rest = [] then [] else 44 :: hexPairs rest

/-- `ub_bytearray2str` into a text that is given. -/
def ubBytearray2str (bytes : List UInt8) : Option (List UInt8) :=
  if bytes = [] then none else some (hexPairs bytes)

structure Written (base : Nat) where
  digits : List UInt8
  value : UInt8
  filled : digits ≠ []
  short : digits.length ≤ if base = 16 then 2 else 3
  reads : readDigits base 0 digits = (value.toNat, [])

structure Delimi (base : Nat) where
  octet : UInt8
  apart : checkDelimi base octet = true
  notEnd : octet ≠ 0

def separated {base : Nat} : List (Written base × Delimi base) → List UInt8
  | [] => []
  | (item, delimi) :: rest =>
    item.digits ++ if rest = [] then [] else delimi.octet :: separated rest

variable {base : Nat}

private theorem digit_not_delimi (known : base = 10 ∨ base = 16) (octet : UInt8) :
    checkDelimi base octet = ((digitOf octet).filter (· < base)).isNone := by
  have all : ∀ octet : Fin 256, ∀ base ∈ [10, 16], checkDelimi base (UInt8.ofNat octet) =
      ((digitOf (UInt8.ofNat octet)).filter (· < base)).isNone := by decide +kernel
  have small := all ⟨octet.toNat, octet.toNat_lt⟩ base (by simpa using known)
  simpa using small

theorem digits_of_reads (known : base = 10 ∨ base = 16)
    (reads : readDigits base value text = (result, [])) :
    ∀ octet ∈ text, checkDelimi base octet = false := by
  induction text generalizing value with
  | nil => simp
  | cons octet rest ih =>
    rw [readDigits] at reads
    split at reads
    case h_1 => cases reads
    case h_2 digit found =>
      refine List.forall_mem_cons.mpr ⟨?_, ih reads⟩
      rw [digit_not_delimi known, found]
      rfl

theorem scanOctet_digits (plain : ∀ octet ∈ digits, checkDelimi base octet = false)
    (stops : checkDelimi base (rest.headD 0) = true) : scanOctet base room vstr (digits ++ rest) =
      if room ≤ digits.length ∨ vstr ++ digits = [] ∨ 256 ≤ strtoul base (vstr ++ digits) then none
      else some (UInt8.ofNat (strtoul base (vstr ++ digits)), rest) := by
  induction digits generalizing room vstr with
  | nil =>
    cases room with
    | zero => simp [scanOctet]
    | succ room =>
      simp only [List.nil_append, List.append_nil, scanOctet, stops, Bool.true_or, if_true]
      split <;> simp_all
  | cons octet digits ih =>
    obtain ⟨first, later⟩ := List.forall_mem_cons.mp plain
    cases room with
    | zero => simp [scanOctet]
    | succ room =>
      have notEnd : octet ≠ 0 := by
        rintro rfl
        simp [checkDelimi] at first
      simp [scanOctet, first, notEnd, ih later]

theorem strtoul_short (known : base = 10 ∨ base = 16) (filled : text ≠ []) (short : text.length ≤ 2)
    (reads : readDigits base 0 text = (value, [])) (small : value < 2 ^ 64) :
    strtoul base text = value := by
  obtain ⟨first, rest, rfl⟩ := List.exists_cons_of_ne_nil filled
  have all : ∀ octet : Fin 256, ∀ base ∈ [10, 16], checkDelimi base (UInt8.ofNat octet) = false →
      isspace (UInt8.ofNat octet) = false ∧ UInt8.ofNat octet ≠ 45 ∧ UInt8.ofNat octet ≠ 43 := by
    decide +kernel
  have plain := all ⟨first.toNat, first.toNat_lt⟩ base (by simpa using known)
  simp only [UInt8.ofNat_toNat] at plain
  obtain ⟨noSpace, noMinus, noPlus⟩ := plain (digits_of_reads known reads first List.mem_cons_self)
  have noPrefix : hexPrefix (first :: rest) = false := by
    rw [hexPrefix.eq_def]
    split
    · rename_i same
      rw [same] at short
      simp at short
    · rfl
  have based : base ≠ 0 := by omega
  have scanned : scanNumber base (first :: rest) = some ⟨false, value, []⟩ := by
    rw [scanNumber, List.dropWhile_cons_of_neg (by simp [noSpace])]
    split
    · rename_i same
      exact absurd (List.cons.inj same).1 noMinus
    · rename_i same
      exact absurd (List.cons.inj same).1 noPlus
    · simp [scanDigits, radix, noPrefix, based, reads]
  rw [strtoul, scanned]
  simp only [if_neg (Nat.not_le.mpr small)]
  rfl

namespace Written

def fits (item : Written base) : Bool := item.digits.length ≤ 2

theorem scan (known : base = 10 ∨ base = 16) (item : Written base)
    (stops : checkDelimi base (rest.headD 0) = true) :
    scanOctet base 3 [] (item.digits ++ rest) = if item.fits then some (item.value, rest) else none := by
  rw [scanOctet_digits (digits_of_reads known item.reads) stops]
  by_cases short : item.digits.length ≤ 2
  · have small := item.value.toNat_lt
    have value := strtoul_short known item.filled short item.reads (by omega)
    rw [List.nil_append, value, if_neg (by simp [item.filled]; omega), fits, if_pos (by simpa)]
    simp
  · rw [fits, if_pos (by omega), if_neg (by simpa using short)]

end Written

private theorem delimi_end : checkDelimi base 0 = true := by simp [checkDelimi]

theorem scanOctets_separated (known : base = 10 ∨ base = 16) (turns : Nat)
    (items : List (Written base × Delimi base)) (enough : (separated items).length ≤ turns) :
    scanOctets base turns (separated items) =
      (items.takeWhile fun item => item.1.fits).map fun item => item.1.value := by
  induction items generalizing turns with
  | nil => cases turns <;> rfl
  | cons item rest ih =>
    obtain ⟨item, delimi⟩ := item
    have positive := List.length_pos_iff.mpr item.filled
    rw [separated, List.length_append] at enough
    obtain ⟨turns, rfl⟩ : ∃ more, turns = more + 1 := ⟨turns - 1, by omega⟩
    have stops : checkDelimi base ((if rest = [] then [] else delimi.octet :: separated rest).headD 0)
        = true := by
      split
      · exact delimi_end
      · exact delimi.apart
    rw [scanOctets, separated, if_neg (by simp [item.filled]), item.scan known stops]
    cases fits : item.fits with
    | false => simp [fits]
    | true =>
      cases rest with
      | nil => simp [fits]
      | cons second later =>
        have fewer : (separated (second :: later)).length ≤ turns := by
          simp only [reduceCtorEq, if_false, List.length_cons] at enough
          omega
        simp [fits, ih turns fewer]

theorem ubStr2bytearray_separated (known : base = 10 ∨ base = 16)
    (items : List (Written base × Delimi base)) : ubStr2bytearray (some (separated items)) base =
      (items.takeWhile fun item => item.1.fits).map fun item => item.1.value := by
  rw [← scanOctets_separated known _ items (le_refl _)]
  cases separated items <;> rfl

/-- An octet as `ub_bytearray2str` writes it. -/
def hexItem (octet : UInt8) : Written 16 where
  digits := [hexLookup ((octet &&& 0xF0) >>> 4), hexLookup (octet &&& 0x0F)]
  value := octet
  filled := List.cons_ne_nil _ _
  short := le_refl 2
  reads := by
    have all : ∀ octet : Fin 256, readDigits 16 0
        [hexLookup ((UInt8.ofNat octet &&& 0xF0) >>> 4), hexLookup (UInt8.ofNat octet &&& 0x0F)] =
          (octet.val, []) := by decide +kernel
    simpa using all ⟨octet.toNat, octet.toNat_lt⟩

def comma : Delimi 16 := ⟨44, by decide, by decide⟩

private theorem hexPairs_eq (bytes : List UInt8) :
    hexPairs bytes = separated (bytes.map fun octet => (hexItem octet, comma)) := by
  induction bytes with
  | nil => rfl
  | cons octet rest ih => simp [hexPairs, separated, hexItem, comma, ih]

private theorem bytearray2str_inverted (bytes : List UInt8) :
    ubStr2bytearray (ubBytearray2str bytes) 16 = bytes := by
  by_cases empty : bytes = []
  · subst empty
    rfl
  · have fits : ∀ item ∈ bytes.map fun octet => (hexItem octet, comma), item.1.fits = true :=
      List.forall_mem_map.mpr fun _ _ => rfl
    rw [ubBytearray2str, if_neg empty, hexPairs_eq, ubStr2bytearray_separated (.inr rfl),
      List.takeWhile_eq_self_iff.mpr fits, List.map_map]
    exact List.map_id bytes

/-- The list is read back if no octet has three digits, and what is written in base 16 always
is. -/
theorem octets_read_iff (known : base = 10 ∨ base = 16) (items : List (Written base × Delimi base)) :
    (ubStr2bytearray (some (separated items)) base = items.map (fun item => item.1.value) ∧
        ∀ bytes, ubStr2bytearray (ubBytearray2str bytes) 16 = bytes) ↔
      ∀ item ∈ items, item.1.digits.length ≤ 2 := by
  rw [and_iff_left bytearray2str_inverted, ubStr2bytearray_separated known]
  constructor
  · intro same item member
    have length := congrArg List.length same
    rw [List.length_map, List.length_map] at length
    have whole := (List.takeWhile_prefix fun item : Written base × Delimi base =>
      item.1.fits).eq_of_length length
    exact of_decide_eq_true (List.takeWhile_eq_self_iff.mp whole item member)
  · intro short
    have fits : ∀ item ∈ items, item.1.fits = true :=
      fun item member => decide_eq_true (short item member)
    rw [List.takeWhile_eq_self_iff.mpr fits]

theorem octets_read_three :
    ubStr2bytearray (some (separated [(hexItem 7, comma), (hexItem 255, comma), (hexItem 0, comma)]))
        16 = [7, 255, 0] ∧ ∀ bytes, ubStr2bytearray (ubBytearray2str bytes) 16 = bytes :=
  (octets_read_iff (.inr rfl) [(hexItem 7, comma), (hexItem 255, comma), (hexItem 0, comma)]).mpr
    (by simp [hexItem])

theorem hundred_lost : ∃ item : Written 10 × Delimi 10,
    ubStr2bytearray (some (separated [item])) 10 ≠ [item.1.value] :=
  ⟨(⟨[49, 48, 48], 100, by decide, by decide, by decide⟩, ⟨32, by decide, by decide⟩), by decide⟩

end EnetTsn.Unibase
