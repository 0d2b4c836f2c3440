import Mathlib.Data.Nat.Digits.Lemmas

/-!
Numbers as text: the digits that `printf` writes for a number, and what the `strtol` family of
C reads at the start of a text. A text is the octets of a C string without the final zero.
-/

namespace EnetTsn.Library

def digitOctet (digit : Nat) : UInt8 := UInt8.ofNat (if digit < 10 then 48 + digit else 55 + digit)

/-- A number in a base, filled with zeros to a width. -/
def numeral (base width value : Nat) : List UInt8 :=
  (List.replicate (width - (Nat.digits base value).length) 0 ++
    (Nat.digits base value).reverse).map digitOctet

/-- A number in base 10, as `%u` writes it. -/
def decimal (value : Nat) : List UInt8 := numeral 10 1 value

/-- A number with a sign if it is negative, as `%d` writes it. -/
def signedDecimal (value : Int) : List UInt8 :=
  if value < 0 then 45 :: decimal value.natAbs else decimal value.natAbs

def isspace (octet : UInt8) : Bool := octet = 32 || (9 ≤ octet && octet ≤ 13)

def digitOf (octet : UInt8) : Option Nat :=
  if 48 ≤ octet ∧ octet ≤ 57 then some (octet.toNat - 48)
  else if 65 ≤ octet ∧ octet ≤ 90 then some (octet.toNat - 55)
  else if 97 ≤ octet ∧ octet ≤ 122 then some (octet.toNat - 87)
  else none

/-- The digits of a base at the start of a text, added to a value, and the rest of the text. -/
def readDigits (base : Nat) : Nat → List UInt8 → Nat × List UInt8
  | value, [] => (value, [])
  | value, octet :: rest =>
    match (digitOf octet).filter (· < base) with
    | none => (value, octet :: rest)
    | some digit => readDigits base (value * base + digit) rest

/-- The start `0x` of a number in base 16: a digit follows it. -/
def hexPrefix : List UInt8 → Bool
  | 48 :: letter :: octet :: _ =>
    (letter = 120 || letter = 88) && (digitOf octet).any (· < 16)
  | _ => false

/-- The base in which a text is read, and where its digits start. Base 0 is that of the text. -/
def radix (base : Nat) (text : List UInt8) : Nat × List UInt8 :=
  if (base = 0 || base = 16) && hexPrefix text then (16, text.drop 2)
  else if base = 0 then (if text.head? = some 48 then 8 else 10, text)
  else (base, text)

structure Scanned where
  negative : Bool
  magnitude : Nat
  rest : List UInt8
  deriving DecidableEq

def scanDigits (base : Nat) (negative : Bool) (text : List UInt8) : Option Scanned :=
  let (base, digits) := radix base text
  let (magnitude, rest) := readDigits base 0 digits
  if rest.length = digits.length then none
  else some { negative := negative, magnitude := magnitude, rest := rest }

def scanNumber (base : Nat) (text : List UInt8) : Option Scanned :=
  let body := text.dropWhile isspace
  match body with
  | 45 :: unsigned => scanDigits base true unsigned
  | 43 :: unsigned => scanDigits base false unsigned
  | _ => scanDigits base false body

/-- `strtol` and `strtoll` with 64 bits: the value and the rest of the text, which is the text
where it does not start with a number. -/
def strtol (base : Nat) (text : List UInt8) : Int × List UInt8 :=
  match scanNumber base text with
  | none => (0, text)
  | some ⟨negative, magnitude, rest⟩ =>
    let value : Int := if negative then -(magnitude : Int) else magnitude
    (max (-(2 ^ 63)) (min (2 ^ 63 - 1) value), rest)

/-- `strtoul` and `strtoull` with 64 bits. -/
def strtoul (base : Nat) (text : List UInt8) : Nat :=
  match scanNumber base text with
  | none => 0
  | some ⟨negative, magnitude, _⟩ =>
    if 2 ^ 64 ≤ magnitude then 2 ^ 64 - 1
    else if negative then (2 ^ 64 - magnitude) % 2 ^ 64
    else magnitude

def Stops (text : List UInt8) : Prop := ∀ octet ∈ text.head?, digitOf octet = none

theorem stops_nil : Stops [] := nofun

theorem stops_cons (noDigit : digitOf octet = none) (rest : List UInt8) :
    Stops (octet :: rest) := by
  rintro _ ⟨⟩
  exact noDigit

theorem digitOf_digitOctet (small : digit < 16) : digitOf (digitOctet digit) = some digit := by
  have all : ∀ digit < 16, digitOf (digitOctet digit) = some digit := by decide
  exact all digit small

theorem digitOctet_plain (small : digit < 16) :
    isspace (digitOctet digit) = false ∧ digitOctet digit ≠ 45 ∧ digitOctet digit ≠ 43 ∧
      digitOctet digit ≠ 44 := by
  have all : ∀ digit < 16, isspace (digitOctet digit) = false ∧ digitOctet digit ≠ 45 ∧
      digitOctet digit ≠ 43 ∧ digitOctet digit ≠ 44 := by decide
  exact all digit small

theorem readDigits_stops (stops : Stops text) : readDigits base value text = (value, text) := by
  cases text with
  | nil => rfl
  | cons octet rest =>
    rw [readDigits, stops octet rfl]
    rfl

theorem readDigits_map {digits : List Nat} (small : ∀ digit ∈ digits, digit < base)
    (least : base ≤ 16) (stops : Stops rest) :
    readDigits base value (digits.map digitOctet ++ rest) =
      (digits.foldl (fun value digit => value * base + digit) value, rest) := by
  induction digits generalizing value with
  | nil => exact readDigits_stops stops
  | cons digit others ih =>
    obtain ⟨first, later⟩ := List.forall_mem_cons.mp small
    have accepted : (digitOf (digitOctet digit)).filter (· < base) = some digit := by
      rw [digitOf_digitOctet (Nat.lt_of_lt_of_le first least), Option.filter_some_pos]
      exact decide_eq_true first
    rw [List.map_cons, List.cons_append, readDigits, accepted]
    exact ih later

theorem foldl_digits (base value : Nat) :
    (Nat.digits base value).reverse.foldl (fun value digit => value * base + digit) 0 = value := by
  rw [List.foldl_reverse]
  conv_rhs => rw [← Nat.ofDigits_digits base value, Nat.ofDigits_eq_foldr]
  congr 1
  funext digit value
  rw [Nat.mul_comm, Nat.add_comm]
  rfl

theorem foldl_zeros (base count : Nat) :
    (List.replicate count 0).foldl (fun value digit => value * base + digit) 0 = 0 := by
  induction count with
  | zero => rfl
  | succ count ih => simpa [List.replicate_succ] using ih

section Numeral

variable {base width value : Nat} {rest : List UInt8}

theorem numeral_small (several : 1 < base) :
    ∀ digit ∈ List.replicate (width - (Nat.digits base value).length) 0 ++
      (Nat.digits base value).reverse, digit < base := by
  intro digit member
  rcases List.mem_append.mp member with zero | inside
  · rw [List.eq_of_mem_replicate zero]
    exact Nat.lt_of_succ_lt several
  · exact Nat.digits_lt_base several (List.mem_reverse.mp inside)

theorem readDigits_numeral (several : 1 < base) (least : base ≤ 16) (stops : Stops rest) :
    readDigits base 0 (numeral base width value ++ rest) = (value, rest) := by
  rw [numeral, readDigits_map (numeral_small several) least stops, List.foldl_append, foldl_zeros,
    foldl_digits]

theorem length_numeral (base width value : Nat) :
    (numeral base width value).length = max width (Nat.digits base value).length := by
  rw [numeral, List.length_map, List.length_append, List.length_replicate, List.length_reverse]
  omega

theorem mem_numeral (several : 1 < base) (member : octet ∈ numeral base width value) :
    ∃ digit < base, octet = digitOctet digit := by
  obtain ⟨digit, inside, same⟩ := List.mem_map.mp member
  exact ⟨digit, numeral_small several digit inside, same.symm⟩

theorem numeral_cons (base width value : Nat) (several : 1 < base) (wide : 0 < width) :
    ∃ digit rest, numeral base width value = digitOctet digit :: rest ∧ digit < base := by
  have length := length_numeral base width value
  cases split : numeral base width value with
  | nil =>
    rw [split, List.length_nil] at length
    omega
  | cons first rest =>
    have member : first ∈ numeral base width value := by
      rw [split]
      exact List.mem_cons_self
    obtain ⟨digit, small, rfl⟩ := mem_numeral several member
    exact ⟨digit, rest, rfl, small⟩

end Numeral

theorem decimal_head (zero : (decimal value).head? = some 48) : value = 0 := by
  by_contra positive
  have filled : Nat.digits 10 value ≠ [] := Nat.digits_ne_nil_iff_ne_zero.mpr positive
  have count : 1 - (Nat.digits 10 value).length = 0 := by
    have length := List.length_pos_iff.mpr filled
    omega
  have last := Nat.getLast_digit_ne_zero 10 positive
  rw [decimal, numeral, count, List.replicate_zero, List.nil_append, List.head?_map,
    List.head?_reverse, List.getLast?_eq_some_getLast filled, Option.map_some] at zero
  have small : (Nat.digits 10 value).getLast filled < 10 :=
    Nat.digits_lt_base (by decide) (List.getLast_mem filled)
  have all : ∀ digit < 10, digitOctet digit = 48 → digit = 0 := by decide
  exact last (all _ small (Option.some.inj zero))

section Scan

variable {base width value digit : Nat} {text rest : List UInt8}

theorem scanNumber_digit (small : digit < 16) (text : List UInt8) :
    scanNumber base (digitOctet digit :: text) = scanDigits base false (digitOctet digit :: text) := by
  obtain ⟨noSpace, noMinus, noPlus, _⟩ := digitOctet_plain small
  have body : (digitOctet digit :: text).dropWhile isspace = digitOctet digit :: text :=
    List.dropWhile_cons_of_neg (by rw [noSpace]; exact Bool.noConfusion)
  rw [scanNumber, body]
  split
  · rename_i same
    exact absurd (List.cons.inj same).1 noMinus
  · rename_i same
    exact absurd (List.cons.inj same).1 noPlus
  · rfl

theorem scanDigits_numeral (base width : Nat) (several : 1 < base) (least : base ≤ 16)
    (wide : 0 < width) (stops : Stops rest)
    (asBase : radix asked text = (base, numeral base width value ++ rest)) :
    scanDigits asked negative text =
      some { negative := negative, magnitude := value, rest := rest } := by
  have length := length_numeral base width value
  rw [scanDigits, asBase]
  simp only [readDigits_numeral several least stops]
  rw [if_neg]
  rw [List.length_append]
  omega

theorem scanNumber_numeral (several : 1 < base) (least : base ≤ 16) (wide : 0 < width)
    (stops : Stops rest)
    (asBase : radix asked (numeral base width value ++ rest) = (base, numeral base width value ++ rest))
    : scanNumber asked (numeral base width value ++ rest) =
      some { negative := false, magnitude := value, rest := rest } := by
  obtain ⟨digit, others, split, small⟩ := numeral_cons base width value several wide
  have scanned : scanDigits asked false (numeral base width value ++ rest) = _ :=
    scanDigits_numeral base width several least wide stops asBase
  rw [split, List.cons_append] at scanned ⊢
  rw [scanNumber_digit (Nat.lt_of_lt_of_le small least), scanned]

theorem hexPrefix_digits (small : second < 16) :
    hexPrefix (digitOctet first :: digitOctet second :: rest) = false := by
  have all : ∀ digit < 16, digitOctet digit ≠ 120 ∧ digitOctet digit ≠ 88 := by decide
  obtain ⟨lower, upper⟩ := all second small
  cases rest with
  | nil =>
    rw [hexPrefix.eq_def]
    split
    · rename_i same
      simp at same
    · rfl
  | cons octet others =>
    rw [hexPrefix.eq_def]
    split
    · rename_i same
      obtain ⟨_, same⟩ := List.cons.inj same
      obtain ⟨rfl, same⟩ := List.cons.inj same
      simp [lower, upper]
    · rfl

theorem hexPrefix_of_head (other : text.head? ≠ some 48) : hexPrefix text = false := by
  rw [hexPrefix.eq_def]
  split
  · exact absurd rfl other
  · rfl

theorem hexPrefix_zero (stops : Stops rest) : hexPrefix (48 :: rest) = false := by
  rw [hexPrefix.eq_def]
  split
  · rename_i letter octet others same
    obtain ⟨_, rfl⟩ := List.cons.inj same
    have noDigit := stops letter rfl
    have lower : letter ≠ 120 := by
      rintro rfl
      cases noDigit
    have upper : letter ≠ 88 := by
      rintro rfl
      cases noDigit
    simp [lower, upper]
  · rfl

theorem scanDigits_decimal (negative : Bool) (value : Nat) (stops : Stops rest) :
    scanDigits 0 negative (decimal value ++ rest) =
      some { negative := negative, magnitude := value, rest := rest } := by
  by_cases zero : value = 0
  · subst zero
    -- a zero at the start is read in base 8
    apply scanDigits_numeral 8 1 (by decide) (by decide) (by decide) stops
    have start : decimal 0 ++ rest = 48 :: rest := rfl
    rw [start, radix, hexPrefix_zero stops]
    rfl
  · apply scanDigits_numeral 10 1 (by decide) (by decide) (by decide) stops
    have head : (decimal value ++ rest).head? ≠ some 48 := by
      obtain ⟨digit, others, split, _⟩ := numeral_cons 10 1 value (by decide) (by decide)
      intro same
      apply zero
      apply decimal_head
      rw [decimal, split] at same ⊢
      exact same
    rw [radix, hexPrefix_of_head head, Bool.and_false, if_neg Bool.false_ne_true, if_pos rfl, if_neg head]
    rfl

/-- `%u` is read back. -/
theorem scanNumber_decimal (value : Nat) (stops : Stops rest) :
    scanNumber 0 (decimal value ++ rest) =
      some { negative := false, magnitude := value, rest := rest } := by
  obtain ⟨digit, others, split, small⟩ := numeral_cons 10 1 value (by decide) (by decide)
  have scanned := scanDigits_decimal false value stops
  rw [decimal, split, List.cons_append] at scanned ⊢
  rw [scanNumber_digit (by omega), scanned]

theorem strtoul_decimal (stops : Stops rest) (short : value < 2 ^ 64) :
    strtoul 0 (decimal value ++ rest) = value := by
  rw [strtoul, scanNumber_decimal value stops]
  simp only [if_neg (Nat.not_le.mpr short)]
  rfl

theorem scanNumber_signedDecimal (value : Int) (stops : Stops rest) :
    scanNumber 0 (signedDecimal value ++ rest) =
      some { negative := value < 0, magnitude := value.natAbs, rest := rest } := by
  by_cases negative : value < 0
  · rw [signedDecimal, if_pos negative, decide_eq_true negative]
    exact scanDigits_decimal true value.natAbs stops
  · rw [signedDecimal, if_neg negative, decide_eq_false negative]
    exact scanNumber_decimal value.natAbs stops

theorem strtol_signedDecimal {value : Int} (stops : Stops rest) (low : -(2 ^ 63) ≤ value)
    (high : value < 2 ^ 63) : strtol 0 (signedDecimal value ++ rest) = (value, rest) := by
  rw [strtol, scanNumber_signedDecimal value stops]
  have signed : (if decide (value < 0) = true then -(value.natAbs : Int) else value.natAbs) = value := by
    by_cases negative : value < 0
    · simp only [negative, decide_true, if_true]
      omega
    · simp only [negative, decide_false, Bool.false_eq_true, if_false]
      omega
  rw [Prod.mk.injEq]
  refine ⟨?_, rfl⟩
  omega

theorem strtol_decimal (stops : Stops rest) (short : value < 2 ^ 63) :
    strtol 0 (decimal value ++ rest) = ((value : Int), rest) := by
  have signed : decimal value = signedDecimal (value : Int) := by
    rw [signedDecimal, if_neg (by omega), Int.natAbs_natCast]
  rw [signed]
  apply strtol_signedDecimal stops <;> omega

/-- Two digits of `%02X` are read back in base 16. -/
theorem strtol_hex (stops : Stops rest) (short : value < 256) :
    strtol 16 (numeral 16 2 value ++ rest) = ((value : Int), rest) := by
  have length := length_numeral 16 2 value
  obtain ⟨first, others, split, small⟩ := numeral_cons 16 2 value (by decide) (by decide)
  have prefixed : hexPrefix (numeral 16 2 value ++ rest) = false := by
    rw [split] at length ⊢
    cases others with
    | nil =>
      rw [List.length_singleton] at length
      omega
    | cons next more =>
      have member : next ∈ numeral 16 2 value := by
        rw [split]
        simp
      obtain ⟨second, less, rfl⟩ := mem_numeral (by decide) member
      exact hexPrefix_digits less
  rw [strtol, scanNumber_numeral (by decide) (by decide) (by decide) stops]
  · simp only [Bool.false_eq_true, if_false]
    rw [Prod.mk.injEq]
    refine ⟨?_, rfl⟩
    omega
  · rw [radix, prefixed, Bool.and_false, if_neg Bool.false_ne_true, if_neg (by decide)]

/-- `0x%X` is read back. -/
theorem strtoul_hex (wide : 0 < width) (stops : Stops rest) (short : value < 2 ^ 64) :
    strtoul 0 (48 :: 120 :: (numeral 16 width value ++ rest)) = value := by
  obtain ⟨digit, others, split, small⟩ := numeral_cons 16 width value (by decide) wide
  have prefixed : hexPrefix (48 :: 120 :: (numeral 16 width value ++ rest)) = true := by
    rw [split, List.cons_append, hexPrefix, digitOf_digitOctet small]
    simpa using small
  have scanned : scanDigits 0 false (48 :: 120 :: (numeral 16 width value ++ rest)) =
      some { negative := false, magnitude := value, rest := rest } := by
    apply scanDigits_numeral 16 width (by decide) (by decide) wide stops
    rw [radix, prefixed]
    rfl
  have skipped : scanNumber 0 (48 :: 120 :: (numeral 16 width value ++ rest)) =
      scanDigits 0 false (48 :: 120 :: (numeral 16 width value ++ rest)) := rfl
  rw [strtoul, skipped, scanned]
  simp only [if_neg (Nat.not_le.mpr short)]
  rfl

end Scan

end EnetTsn.Library
