import Mathlib.Data.List.Infix
import Mathlib.Tactic.NormNum

/-!
Character data of XML: what a parser makes of the text between two tags. Ends of lines are
normalised, references are replaced by their characters, and a text with markup, with the mark
that ends a section, or with a character that XML does not have is no character data.
-/

namespace EnetTsn.Library

def utf8 (text : List Char) : List UInt8 := text.flatMap String.utf8EncodeChar

def isXmlChar (char : Char) : Bool :=
  char = '\t' || char = '\n' || char = '\r' || (32 ≤ char.toNat && char.toNat ≤ 0xFFFD) ||
    0x10000 ≤ char.toNat

def normalizeLines : List Char → List Char
  | [] => []
  | char :: rest =>
    if char = '\r' then
      if rest.head? = some '\n' then normalizeLines rest else '\n' :: normalizeLines rest
    else char :: normalizeLines rest

def charNumber (base : Nat) (digits : List Char) : Option Nat :=
  if digits = [] then none
  else digits.foldl (fun number digit => do
    let value ← number
    let next ← if digit.isDigit then some (digit.toNat - '0'.toNat)
      else if 'a' ≤ digit ∧ digit ≤ 'f' then some (digit.toNat - 'a'.toNat + 10)
      else if 'A' ≤ digit ∧ digit ≤ 'F' then some (digit.toNat - 'A'.toNat + 10)
      else none
    if next < base then some (base * value + next) else none) (some 0)

def numberedChar (number : Nat) : Option Char :=
  if number.isValidChar ∧ isXmlChar (Char.ofNat number) then some (Char.ofNat number) else none

def referredChar : List Char → Option Char
  | ['a', 'm', 'p'] => some '&'
  | ['l', 't'] => some '<'
  | ['g', 't'] => some '>'
  | ['q', 'u', 'o', 't'] => some '"'
  | ['a', 'p', 'o', 's'] => some '\''
  | '#' :: 'x' :: digits => (charNumber 16 digits).bind numberedChar
  | '#' :: digits => (charNumber 10 digits).bind numberedChar
  | _ => none

/-- Replace the references of a text, where `name` is what was read of one. -/
def replaceReferences : Option (List Char) → List Char → Option (List Char)
  | none, [] => some []
  | some _, [] => none
  | none, char :: rest =>
    if char = '&' then replaceReferences (some []) rest
    else if char = '<' ∨ isXmlChar char = false then none
    else (replaceReferences none rest).map (char :: ·)
  | some name, char :: rest =>
    if char = ';' then
      (referredChar name).bind fun referred => (replaceReferences none rest).map (referred :: ·)
    else replaceReferences (some (name ++ [char])) rest

def sectionEnd : List Char := [']', ']', '>']

/-- The text that XML character data stands for. -/
def characterData (text : List Char) : Option (List Char) :=
  if sectionEnd <:+: text then none else replaceReferences none (normalizeLines text)

/-- The octets are the XML form of the text. -/
def DecodesTo (octets decoded : List UInt8) : Prop :=
  ∃ text data, utf8 text = octets ∧ characterData text = some data ∧ utf8 data = decoded

/-- Write a mark in front of the tail that makes it literal, where the tail is not there. -/
def escapeMark [DecidableEq α] (mark : α) (tail : List α) : List α → List α
  | [] => []
  | element :: rest =>
    if element = mark ∧ ¬ tail <+: rest then element :: (tail ++ escapeMark mark tail rest)
    else element :: escapeMark mark tail rest

theorem within_skip {α : Type} {word : List α} (filled : word ≠ []) (front rest : List α)
    (outside : ∀ element ∈ front, element ∉ word) : word <:+: front ++ rest ↔ word <:+: rest := by
  induction front with
  | nil => rfl
  | cons first front ih =>
    obtain ⟨here, later⟩ := List.forall_mem_cons.mp outside
    rw [List.cons_append, List.infix_cons_iff, ih later]
    refine ⟨fun either => either.resolve_left fun start => ?_, .inr⟩
    cases word with
    | nil => exact filled rfl
    | cons head word =>
      rw [List.cons_prefix_cons] at start
      exact here (start.1 ▸ List.mem_cons_self)

section Utf8

variable {char : Char} {text other word : List Char}

@[simp] theorem utf8_nil : utf8 [] = [] := rfl

@[simp] theorem utf8_cons (char : Char) (text : List Char) :
    utf8 (char :: text) = String.utf8EncodeChar char ++ utf8 text :=
  List.flatMap_cons

@[simp] theorem utf8_append (text other : List Char) : utf8 (text ++ other) = utf8 text ++ utf8 other :=
  List.flatMap_append

theorem utf8_injective (same : utf8 text = utf8 other) : text = other := by
  have encoded : text.utf8Encode = other.utf8Encode := congrArg List.toByteArray same
  have decoded := congrArg ByteArray.utf8Decode? encoded
  rw [List.utf8Decode?_utf8Encode, List.utf8Decode?_utf8Encode] at decoded
  exact congrArg Array.toList (Option.some.inj decoded)

theorem utf8EncodeChar_ascii (ascii : char.toNat < 128) :
    String.utf8EncodeChar char = [UInt8.ofNat char.toNat] := by
  have small : char.val.toNat ≤ 127 := Nat.le_of_lt_succ ascii
  rw [String.utf8EncodeChar, if_pos small]
  rfl

theorem le_of_mem_utf8EncodeChar (other : ¬ char.toNat < 128) :
    ∀ octet ∈ String.utf8EncodeChar char, 128 ≤ octet.toNat := by
  have large : ¬ char.val.toNat ≤ 127 := fun small => other (Nat.lt_succ_of_le small)
  intro octet member
  rw [String.utf8EncodeChar, if_neg large] at member
  split_ifs at member
  all_goals
    simp only [List.mem_cons, List.not_mem_nil, or_false] at member
    rcases member with rfl | rfl | rfl | rfl
  all_goals
    simp only [UInt8.toNat_ofNat']
    omega

theorem ofNat_toNat_inj {first second : Char} (small : first.toNat < 128)
    (small' : second.toNat < 128) :
    UInt8.ofNat first.toNat = UInt8.ofNat second.toNat ↔ first = second := by
  constructor
  · intro same
    have numbers := congrArg UInt8.toNat same
    rw [UInt8.toNat_ofNat', UInt8.toNat_ofNat', Nat.mod_eq_of_lt (by omega),
      Nat.mod_eq_of_lt (by omega)] at numbers
    exact Char.toNat_inj.mp numbers
  · rintro rfl
    rfl

theorem ofNat_ne_of_other {first : Char} (small : first.toNat < 128) (large : 128 ≤ octet.toNat) :
    octet ≠ UInt8.ofNat first.toNat := by
  rintro rfl
  rw [UInt8.toNat_ofNat'] at large
  omega

variable (ascii : ∀ char ∈ word, char.toNat < 128)
include ascii

theorem utf8_start : utf8 word <+: utf8 text ↔ word <+: text := by
  induction word generalizing text with
  | nil => simp
  | cons first word ih =>
    obtain ⟨small, later⟩ := List.forall_mem_cons.mp ascii
    rw [utf8_cons, utf8EncodeChar_ascii small]
    cases text with
    | nil => simp
    | cons second text =>
      rw [List.cons_prefix_cons, utf8_cons]
      by_cases small' : second.toNat < 128
      · rw [utf8EncodeChar_ascii small', List.singleton_append, List.singleton_append,
          List.cons_prefix_cons, ofNat_toNat_inj small small', ih later]
      · have different : first ≠ second := by
          rintro rfl
          exact small' small
        have others := le_of_mem_utf8EncodeChar small'
        cases encoded : String.utf8EncodeChar second with
        | nil => exact absurd encoded String.utf8EncodeChar_ne_nil
        | cons octet octets =>
          rw [encoded] at others
          have unlike := ofNat_ne_of_other small (others octet List.mem_cons_self)
          rw [List.singleton_append, List.cons_append, List.cons_prefix_cons]
          exact ⟨fun front => absurd front.1.symm unlike, fun front => absurd front.1 different⟩

theorem lt_of_mem_utf8 : ∀ octet ∈ utf8 word, octet.toNat < 128 := by
  intro octet member
  obtain ⟨char, inside, encoded⟩ := List.mem_flatMap.mp member
  rw [utf8EncodeChar_ascii (ascii char inside), List.mem_singleton] at encoded
  rw [encoded, UInt8.toNat_ofNat', Nat.mod_eq_of_lt (by have := ascii char inside; omega)]
  exact ascii char inside

theorem utf8_within (filled : word ≠ []) : utf8 word <:+: utf8 text ↔ word <:+: text := by
  have octets : utf8 word ≠ [] := by
    cases word with
    | nil => exact absurd rfl filled
    | cons first word => simp
  induction text with
  | nil => simp [filled, octets]
  | cons char text ih =>
    apply Iff.trans _ List.infix_cons_iff.symm
    apply Iff.trans _ (or_congr (utf8_start ascii) ih)
    rw [utf8_cons]
    by_cases small : char.toNat < 128
    · rw [utf8EncodeChar_ascii small, List.singleton_append]
      exact List.infix_cons_iff
    · have outside : ∀ octet ∈ String.utf8EncodeChar char, octet ∉ utf8 word := by
        intro octet member inside
        have large := le_of_mem_utf8EncodeChar small octet member
        have less := lt_of_mem_utf8 ascii octet inside
        omega
      rw [within_skip octets _ _ outside]
      refine ⟨.inr, fun either => either.elim (fun start => ?_) id⟩
      exact (within_skip octets _ _ outside).mp start.isInfix

end Utf8

section Escapes

variable {α : Type} [DecidableEq α] {mark : α} {tail front rest word : List α}

theorem escapeMark_append (plain : mark ∉ front) :
    escapeMark mark tail (front ++ rest) = front ++ escapeMark mark tail rest := by
  induction front with
  | nil => rfl
  | cons first front ih =>
    have different : first ≠ mark := fun same => plain (same ▸ List.mem_cons_self)
    have later : mark ∉ front := fun member => plain (List.mem_cons_of_mem _ member)
    rw [List.cons_append, escapeMark, if_neg fun both => different both.1, ih later,
      List.cons_append]

theorem escapeMark_mark (plain : mark ∉ tail) :
    escapeMark mark tail (mark :: (tail ++ rest)) = mark :: (tail ++ escapeMark mark tail rest) := by
  rw [escapeMark, if_neg fun both => both.2 (List.prefix_append _ _), escapeMark_append plain]

theorem escapeMark_other (open_ : ¬ tail <+: rest) :
    escapeMark mark tail (mark :: rest) = mark :: (tail ++ escapeMark mark tail rest) := by
  rw [escapeMark, if_pos ⟨rfl, open_⟩]

theorem escapeMark_cons (different : element ≠ mark) :
    escapeMark mark tail (element :: rest) = element :: escapeMark mark tail rest := by
  rw [escapeMark, if_neg fun both => different both.1]

theorem mem_escapeMark (member : element ∈ escapeMark mark tail list) :
    element ∈ list ∨ element ∈ tail := by
  induction list with
  | nil => cases member
  | cons first list ih =>
    rw [escapeMark] at member
    split at member
    · simp only [List.mem_cons, List.mem_append] at member ⊢
      rcases member with here | inside | later
      · exact .inl (.inl here)
      · exact .inr inside
      · exact (ih later).imp_left .inr
    · simp only [List.mem_cons] at member ⊢
      rcases member with here | later
      · exact .inl (.inl here)
      · exact (ih later).imp_left .inr

theorem escapeMark_concat (different : last ≠ mark) (outside : last ∉ tail) (list : List α) :
    escapeMark mark tail (list ++ [last]) = escapeMark mark tail list ++ [last] := by
  induction list with
  | nil => exact escapeMark_cons different
  | cons element list ih =>
    have closed : tail <+: list ++ [last] ↔ tail <+: list := by
      rw [List.prefix_concat_iff]
      refine ⟨fun either => either.resolve_left fun whole => outside ?_, .inr⟩
      rw [whole]
      exact List.mem_append_right _ (List.mem_singleton_self _)
    rw [List.cons_append, escapeMark, escapeMark, ih]
    by_cases both : element = mark ∧ ¬ tail <+: list
    · rw [if_pos ⟨both.1, mt closed.mp both.2⟩, if_pos both, List.cons_append, List.append_assoc]
    · rw [if_neg fun after => both ⟨after.1, mt closed.mpr after.2⟩, if_neg both, List.cons_append]

theorem prefix_escapeMark (plain : mark ∉ word) (list : List α) :
    word <+: escapeMark mark tail list ↔ word <+: list := by
  induction word generalizing list with
  | nil => simp
  | cons first word ih =>
    have different : first ≠ mark := fun same => plain (same ▸ List.mem_cons_self)
    have later : mark ∉ word := fun member => plain (List.mem_cons_of_mem _ member)
    cases list with
    | nil => rfl
    | cons element list =>
      by_cases marked : element = mark
      · have unlike : first ≠ element := fun same => different (same.trans marked)
        rw [escapeMark, List.cons_prefix_cons]
        split <;> rw [List.cons_prefix_cons] <;>
          exact ⟨fun front => absurd front.1 unlike, fun front => absurd front.1 unlike⟩
      · rw [escapeMark_cons marked, List.cons_prefix_cons, List.cons_prefix_cons, ih later]

theorem within_escapeMark (plain : mark ∉ word) (filled : word ≠ [])
    (apart : ∀ element ∈ tail, element ∉ word) (list : List α) :
    word <:+: escapeMark mark tail list ↔ word <:+: list := by
  induction list with
  | nil => rfl
  | cons element list ih =>
    by_cases marked : element = mark
    · have outside : ∀ other ∈ [element], other ∉ word := by
        rintro other member
        rw [List.mem_singleton.mp member, marked]
        exact plain
      have source := within_skip filled [element] list outside
      rw [escapeMark]
      split
      · have result := within_skip filled (element :: tail) (escapeMark mark tail list) (by
          rw [List.forall_mem_cons]
          exact ⟨outside element (List.mem_singleton_self _), apart⟩)
        exact result.trans (ih.trans source.symm)
      · exact (within_skip filled [element] _ outside).trans (ih.trans source.symm)
    · have same : word <+: element :: escapeMark mark tail list ↔ word <+: element :: list := by
        rw [← escapeMark_cons marked]
        exact prefix_escapeMark plain _
      rw [escapeMark_cons marked, List.infix_cons_iff, List.infix_cons_iff]
      exact or_congr same ih

end Escapes

section EscapedText

variable {mark : Char} {tail text : List Char}

theorem escapeMark_utf8 (small : mark.toNat < 128) (ascii : ∀ char ∈ tail, char.toNat < 128) :
    escapeMark (UInt8.ofNat mark.toNat) (utf8 tail) (utf8 text) =
      utf8 (escapeMark mark tail text) := by
  induction text with
  | nil => rfl
  | cons char text ih =>
    rw [utf8_cons]
    by_cases ascii' : char.toNat < 128
    · have both : UInt8.ofNat char.toNat = UInt8.ofNat mark.toNat ∧ ¬ utf8 tail <+: utf8 text ↔
          char = mark ∧ ¬ tail <+: text :=
        and_congr (ofNat_toNat_inj ascii' small) (not_congr (utf8_start ascii))
      rw [utf8EncodeChar_ascii ascii', List.singleton_append, escapeMark, escapeMark]
      by_cases marked : char = mark ∧ ¬ tail <+: text
      · rw [if_pos (both.mpr marked), if_pos marked, utf8_cons, utf8_append,
          utf8EncodeChar_ascii ascii', ih]
        rfl
      · rw [if_neg (mt both.mp marked), if_neg marked, utf8_cons, utf8EncodeChar_ascii ascii', ih]
        rfl
    · have plain : UInt8.ofNat mark.toNat ∉ String.utf8EncodeChar char := fun member =>
        ofNat_ne_of_other small (le_of_mem_utf8EncodeChar ascii' _ member) rfl
      have different : char ≠ mark := by
        rintro rfl
        exact ascii' small
      rw [escapeMark_append plain, ih, escapeMark_cons different, utf8_cons]

theorem normalizeLines_cons (other : char ≠ '\r') (rest : List Char) :
    normalizeLines (char :: rest) = char :: normalizeLines rest := by
  rw [normalizeLines, if_neg other]

theorem normalizeLines_append (plain : '\r' ∉ front) (rest : List Char) :
    normalizeLines (front ++ rest) = front ++ normalizeLines rest := by
  induction front with
  | nil => rfl
  | cons char front ih =>
    have other : char ≠ '\r' := fun same => plain (same ▸ List.mem_cons_self)
    rw [List.cons_append, normalizeLines_cons other,
      ih fun member => plain (List.mem_cons_of_mem _ member), List.cons_append]

theorem normalizeLines_of_notMem (plain : '\r' ∉ text) : normalizeLines text = text := by
  have whole := normalizeLines_append plain []
  rwa [List.append_nil, normalizeLines, List.append_nil] at whole

theorem notMem_normalizeLines (text : List Char) : '\r' ∉ normalizeLines text := by
  induction text with
  | nil => exact List.not_mem_nil
  | cons char rest ih =>
    rw [normalizeLines]
    split
    · split
      · exact ih
      · exact List.not_mem_cons_of_ne_of_not_mem (by decide) ih
    · rename_i other
      exact List.not_mem_cons_of_ne_of_not_mem (Ne.symm other) ih

theorem mem_normalizeLines (other : char ≠ '\r') (member : char ∈ text) :
    char ∈ normalizeLines text := by
  induction text with
  | nil => cases member
  | cons first rest ih =>
    rw [normalizeLines]
    rcases List.mem_cons.mp member with rfl | later
    · rw [if_neg other]
      exact List.mem_cons_self
    · split
      · split
        · exact ih later
        · exact List.mem_cons_of_mem _ (ih later)
      · exact List.mem_cons_of_mem _ (ih later)

theorem length_normalizeLines_le (text : List Char) :
    (normalizeLines text).length ≤ text.length := by
  induction text with
  | nil => exact Nat.le_refl 0
  | cons char rest ih =>
    rw [normalizeLines]
    split
    · split
      · exact Nat.le_succ_of_le ih
      · exact Nat.succ_le_succ ih
    · exact Nat.succ_le_succ ih

theorem prefix_normalizeLines (plain : ∀ char ∈ word, char ≠ '\r' ∧ char ≠ '\n')
    (text : List Char) : word <+: normalizeLines text ↔ word <+: text := by
  induction word generalizing text with
  | nil => simp
  | cons first word ih =>
    obtain ⟨⟨notReturn, notFeed⟩, later⟩ := List.forall_mem_cons.mp plain
    cases text with
    | nil => rfl
    | cons char rest =>
      by_cases ends : char = '\r'
      · have source : ¬ first :: word <+: char :: rest := by
          rw [List.cons_prefix_cons]
          exact fun front => notReturn (front.1.trans ends)
        have result : ¬ first :: word <+: normalizeLines (char :: rest) := by
          rw [normalizeLines, if_pos ends]
          split
          · rename_i feed
            obtain ⟨rest, rfl⟩ := List.head?_eq_some_iff.mp feed
            rw [normalizeLines_cons (by decide), List.cons_prefix_cons]
            exact fun front => notFeed front.1
          · rw [List.cons_prefix_cons]
            exact fun front => notFeed front.1
        exact iff_of_false result source
      · rw [normalizeLines_cons ends, List.cons_prefix_cons, List.cons_prefix_cons, ih later]

theorem normalizeLines_escapeMark (markPlain : mark ≠ '\r' ∧ mark ≠ '\n')
    (tailPlain : ∀ char ∈ tail, char ≠ '\r' ∧ char ≠ '\n') (text : List Char) :
    normalizeLines (escapeMark mark tail text) = escapeMark mark tail (normalizeLines text) := by
  induction text with
  | nil => rfl
  | cons char rest ih =>
    by_cases ends : char = '\r'
    · have different : char ≠ mark := ends ▸ markPlain.1.symm
      have head : (escapeMark mark tail rest).head? = some '\n' ↔ rest.head? = some '\n' := by
        cases rest with
        | nil => rfl
        | cons next rest =>
          rw [escapeMark]
          split <;> rfl
      rw [escapeMark_cons different, normalizeLines, normalizeLines, if_pos ends, if_pos ends]
      by_cases feed : rest.head? = some '\n'
      · rw [if_pos feed, if_pos (head.mpr feed), ih]
      · rw [if_neg feed, if_neg (mt head.mp feed), ih, escapeMark_cons markPlain.2.symm]
    · rw [normalizeLines_cons ends]
      by_cases marked : char = mark
      · subst marked
        by_cases closed : tail <+: rest
        · have both : ¬ (char = char ∧ ¬ tail <+: rest) := fun both => both.2 closed
          have after : ¬ (char = char ∧ ¬ tail <+: normalizeLines rest) := fun both =>
            both.2 ((prefix_normalizeLines tailPlain rest).mpr closed)
          rw [escapeMark, if_neg both, normalizeLines_cons ends, ih, escapeMark, if_neg after]
        · have open_ : ¬ tail <+: normalizeLines rest :=
            mt (prefix_normalizeLines tailPlain rest).mp closed
          have plain : '\r' ∉ tail := fun member => (tailPlain _ member).1 rfl
          rw [escapeMark_other closed, normalizeLines_cons ends, normalizeLines_append plain, ih,
            escapeMark_other open_]
      · rw [escapeMark_cons marked, normalizeLines_cons ends, ih, escapeMark_cons marked]

end EscapedText

section Ampersands

variable {text data : List Char}

def ampTail : List Char := ['a', 'm', 'p', ';']

structure PlainText (text : List Char) : Prop where
  chars : ∀ char ∈ text, isXmlChar char = true ∧ char ≠ '<'
  literal : ¬ '&' :: ampTail <:+: text

theorem replaceReferences_amp (rest : List Char) :
    replaceReferences none ('&' :: (ampTail ++ rest)) =
      (replaceReferences none rest).map ('&' :: ·) := rfl

theorem replaceReferences_cons (other : char ≠ '&') (rest : List Char) :
    replaceReferences none (char :: rest) = if char = '<' ∨ isXmlChar char = false then none
      else (replaceReferences none rest).map (char :: ·) := by
  rw [replaceReferences, if_neg other]

theorem plainText_cons (legal : isXmlChar char = true ∧ char ≠ '<')
    (literal : ¬ '&' :: ampTail <+: char :: text) (plain : PlainText text) :
    PlainText (char :: text) where
  chars := List.forall_mem_cons.mpr ⟨legal, plain.chars⟩
  literal := by
    rw [List.infix_cons_iff]
    exact not_or.mpr ⟨literal, plain.literal⟩

theorem replaceReferences_escape (plain : PlainText text) :
    replaceReferences none (escapeMark '&' ampTail text) = some text := by
  induction text with
  | nil => rfl
  | cons char rest ih =>
    obtain ⟨⟨legal, notMarkup⟩, later⟩ := List.forall_mem_cons.mp plain.chars
    have literal := plain.literal
    rw [List.infix_cons_iff, not_or] at literal
    have back := ih ⟨later, literal.2⟩
    by_cases marked : char = '&'
    · subst marked
      have open_ : ¬ ampTail <+: rest := by
        intro closed
        exact literal.1 (List.cons_prefix_cons.mpr ⟨rfl, closed⟩)
      rw [escapeMark_other open_, replaceReferences_amp, back, Option.map_some]
    · rw [escapeMark_cons marked, replaceReferences_cons marked, if_neg (by simp [legal, notMarkup]),
        back, Option.map_some]

theorem plainText_of_replaceReferences
    (given : replaceReferences none (escapeMark '&' ampTail text) = some data) :
    data.length ≤ text.length ∧ (data.length = text.length → data = text ∧ PlainText text) := by
  induction size : text.length using Nat.strong_induction_on generalizing text data with
  | _ size ih =>
    subst size
    cases text with
    | nil =>
      cases given
      exact ⟨Nat.le_refl 0, fun _ => ⟨rfl, nofun, by decide⟩⟩
    | cons char rest =>
      by_cases marked : char = '&'
      · subst marked
        by_cases closed : ampTail <+: rest
        · obtain ⟨rest, rfl⟩ := closed
          obtain ⟨inner, decoded, rfl⟩ := Option.map_eq_some_iff.mp given
          have shorter : rest.length < ('&' :: (ampTail ++ rest)).length := by
            simp only [List.length_cons, List.length_append]
            omega
          obtain ⟨bound, _⟩ := ih _ shorter decoded rfl
          have less : ('&' :: inner).length < ('&' :: (ampTail ++ rest)).length := by
            simp only [ampTail, List.length_cons, List.length_append]
            omega
          exact ⟨Nat.le_of_lt less, fun same => absurd same (Nat.ne_of_lt less)⟩
        · rw [escapeMark_other closed, replaceReferences_amp] at given
          obtain ⟨inner, decoded, rfl⟩ := Option.map_eq_some_iff.mp given
          obtain ⟨bound, exact_⟩ := ih _ (Nat.lt_succ_self _) decoded rfl
          refine ⟨Nat.succ_le_succ bound, fun same => ?_⟩
          obtain ⟨rfl, plain⟩ := exact_ (Nat.succ.inj same)
          refine ⟨rfl, plainText_cons (by decide) ?_ plain⟩
          rw [List.cons_prefix_cons]
          exact fun front => closed front.2
      · rw [escapeMark_cons marked, replaceReferences_cons marked] at given
        obtain ⟨legal, mapped⟩ := Option.ite_none_left_eq_some.mp given
        obtain ⟨inner, decoded, rfl⟩ := Option.map_eq_some_iff.mp mapped
        obtain ⟨bound, exact_⟩ := ih _ (Nat.lt_succ_self _) decoded rfl
        refine ⟨Nat.succ_le_succ bound, fun same => ?_⟩
        obtain ⟨rfl, plain⟩ := exact_ (Nat.succ.inj same)
        obtain ⟨notMarkup, xmlChar⟩ := not_or.mp legal
        refine ⟨rfl, plainText_cons ⟨Bool.eq_true_of_not_eq_false xmlChar, notMarkup⟩ ?_ plain⟩
        rw [List.cons_prefix_cons]
        exact fun front => marked front.1.symm

theorem characterData_escape : characterData (escapeMark '&' ampTail text) = some text ↔
    PlainText text ∧ '\r' ∉ text ∧ ¬ sectionEnd <:+: text := by
  have sections : sectionEnd <:+: escapeMark '&' ampTail text ↔ sectionEnd <:+: text :=
    within_escapeMark (by decide) (by decide) (by simp [ampTail, sectionEnd]) text
  have lines : normalizeLines (escapeMark '&' ampTail text) =
      escapeMark '&' ampTail (normalizeLines text) :=
    normalizeLines_escapeMark (by decide) (by simp [ampTail]) text
  rw [characterData, lines]
  constructor
  · intro given
    obtain ⟨noSection, decoded⟩ := Option.ite_none_left_eq_some.mp given
    obtain ⟨bound, exact_⟩ := plainText_of_replaceReferences decoded
    have shorter := length_normalizeLines_le text
    obtain ⟨same, plain⟩ := exact_ (Nat.le_antisymm bound shorter)
    rw [← same] at plain
    exact ⟨plain, same ▸ notMem_normalizeLines text, mt sections.mpr noSection⟩
  · rintro ⟨plain, noReturn, noSection⟩
    rw [if_neg (mt sections.mp noSection), normalizeLines_of_notMem noReturn]
    exact replaceReferences_escape plain

theorem length_replaceReferences (name : Option (List Char))
    (given : replaceReferences name text = some data) : data.length ≤ text.length ∧
      (name = none → data.length = text.length → '&' ∉ text) := by
  induction text generalizing name data with
  | nil =>
    cases name with
    | none =>
      cases given
      exact ⟨Nat.le_refl 0, fun _ _ => List.not_mem_nil⟩
    | some name => cases given
  | cons char rest ih =>
    cases name with
    | none =>
      rw [replaceReferences] at given
      split at given
      · obtain ⟨bound, _⟩ := ih _ given
        refine ⟨Nat.le_succ_of_le bound, fun _ same => ?_⟩
        rw [List.length_cons] at same
        omega
      · rename_i other
        split at given
        · cases given
        · obtain ⟨inner, decoded, rfl⟩ := Option.map_eq_some_iff.mp given
          obtain ⟨bound, exact_⟩ := ih _ decoded
          refine ⟨Nat.succ_le_succ bound, fun _ same => ?_⟩
          exact List.not_mem_cons_of_ne_of_not_mem (Ne.symm other) (exact_ rfl (Nat.succ.inj same))
    | some name =>
      rw [replaceReferences] at given
      refine ⟨?_, nofun⟩
      split at given
      · obtain ⟨referred, _, mapped⟩ := Option.bind_eq_some_iff.mp given
        obtain ⟨inner, decoded, rfl⟩ := Option.map_eq_some_iff.mp mapped
        exact Nat.succ_le_succ (ih _ decoded).1
      · exact Nat.le_succ_of_le (ih _ given).1

end Ampersands

end EnetTsn.Library
