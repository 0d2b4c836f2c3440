import EnetTsn.Library.XmlText
import EnetTsn.Uniconf.Simpledb

namespace EnetTsn.Netconf

open EnetTsn.Library EnetTsn.Uniconf

/-- `&`. -/
def ampersand : UInt8 := 38

/-- `amp;`. -/
def ampRest : List UInt8 := [97, 109, 112, 59]

/-- `&amp;`. -/
def amp : List UInt8 := ampersand :: ampRest

abbrev CString := { octets : List UInt8 // 0 ∉ octets }

def nconfXmlutilsCountAmpersands : List UInt8 → Nat
  | [] => 0
  | octet :: rest =>
    if octet ≠ ampersand then nconfXmlutilsCountAmpersands rest
    else if (octet :: rest).length < amp.length ∨ (octet :: rest).take amp.length ≠ amp then
      nconfXmlutilsCountAmpersands rest + 1
    else nconfXmlutilsCountAmpersands rest

/-- The loop of `nconf_xmlutils_replaced_amp` over `instr`, where `skip` octets are behind `i`
already. A write outside of the buffer is no result. -/
def replacedAmpLoop : Nat → List UInt8 → Nat → List UInt8 → Option (Nat × List UInt8)
  | _, [], pos, outbuf => some (pos, outbuf)
  | skip + 1, _ :: rest, pos, outbuf => replacedAmpLoop skip rest pos outbuf
  | 0, octet :: rest, pos, outbuf =>
    if octet = ampersand then
      (memcpy outbuf pos amp).bind fun written =>
        replacedAmpLoop (if (octet :: rest).take amp.length = amp then ampRest.length else 0) rest
          (pos + amp.length) written
    else
      (memcpy outbuf pos [octet]).bind fun written => replacedAmpLoop 0 rest (pos + 1) written

/-- `nconf_xmlutils_replaced_amp`, with memory for the buffer or without. -/
def nconfXmlutilsReplacedAmp (granted : Bool) (instr : List UInt8) (outlen : Nat) :
    Option (Option (List UInt8)) :=
  if granted = false then some none
  else do
    let (pos, written) ← replacedAmpLoop 0 instr 0 (List.replicate (outlen + 1) 0)
    let outbuf ← memcpy written pos [0]
    some (some outbuf)

/-- `nconf_xmlutils_sanitize_value_string`: the string, and whether it stands in a buffer of its
own. There is no result when the number of ampersands is too large for an `int`. -/
def nconfXmlutilsSanitizeValueString (granted : Bool) (valstr : List UInt8) :
    Option (List UInt8 × Bool) :=
  let ampcnt := nconfXmlutilsCountAmpersands valstr
  if 2 ^ 31 ≤ ampcnt then none
  else if 0 < ampcnt then
    let vallen := valstr.length + 1
    let retlen := vallen + amp.length * ampcnt
    (nconfXmlutilsReplacedAmp granted (valstr ++ [0]) retlen).map fun tmpbuf =>
      match tmpbuf with
      | some outbuf => (outbuf.takeWhile (· ≠ 0), true)
      | none => (valstr, false)
  else some (valstr, false)

/-- The loop of `nconf_ucclient_set_strtype_node_contents` over the strings of a value, where
`current` is what comes before in the string: the contents of the nodes. There is no result
when the value ends within a string. -/
def strtypeNodeContents (granted : Bool) : List UInt8 → List UInt8 → Option (List (List UInt8))
  | current, [] => if current = [] then some [] else none
  | current, octet :: rest =>
    if octet = 0 then
      (nconfXmlutilsSanitizeValueString granted current).bind fun vstr =>
        (strtypeNodeContents granted [] rest).map (vstr.1 :: ·)
    else strtypeNodeContents granted (current ++ [octet]) rest

/-- `nconf_ucclient_set_strtype_node_contents`, and the texts that `nconf_xmlutils_get_nodeptr_str`
writes for the nodes without escaping them. -/
def nconfUcclientSetStrtypeNodeContents (granted : Bool) (value : List UInt8) :
    Option (List (List UInt8)) :=
  strtypeNodeContents granted [] value

def storedValue (strings : List CString) : List UInt8 :=
  strings.flatMap fun string => string.val ++ [0]

/-- The texts of a value are written within their buffers, and a parser gets its strings back. -/
def TextsRight (granted : Bool) (strings : List CString) : Prop :=
  ∃ texts, nconfUcclientSetStrtypeNodeContents granted (storedValue strings) = some texts ∧
    List.Forall₂ DecodesTo texts (strings.map Subtype.val)

/-- A string whose text comes back: it is the text of XML characters without markup, without a
literal `&amp;`, a carriage return and the mark that ends a section, its ampersands can be
counted, and there is memory for them. -/
def CString.Writable (granted : Bool) (string : CString) : Prop :=
  (∃ text, utf8 text = string.val ∧ PlainText text ∧ '\r' ∉ text ∧ ¬ sectionEnd <:+: text) ∧
    string.val.count ampersand < 2 ^ 31 ∧ (granted = true ∨ ampersand ∉ string.val)

section Loops

variable {granted : Bool} {octets outbuf : List UInt8} {pos : Nat}

def escaped (octets : List UInt8) : List UInt8 := escapeMark ampersand ampRest octets

theorem take_amp (rest : List UInt8) :
    (ampersand :: rest).take amp.length = amp ↔ ampRest <+: rest := by
  rw [amp, List.length_cons, List.take_succ_cons, List.cons.injEq, and_iff_right rfl,
    List.prefix_iff_eq_take, eq_comm]

theorem countAmpersands_cons (rest : List UInt8) :
    nconfXmlutilsCountAmpersands (ampersand :: rest) =
      nconfXmlutilsCountAmpersands rest + if ampRest <+: rest then 0 else 1 := by
  have test : ((ampersand :: rest).length < amp.length ∨
      (ampersand :: rest).take amp.length ≠ amp) ↔ ¬ ampRest <+: rest := by
    rw [ne_eq, take_amp]
    refine ⟨fun either => either.elim (fun short closed => ?_) id, .inr⟩
    have fits := closed.length_le
    rw [amp, List.length_cons, List.length_cons] at short
    omega
  rw [nconfXmlutilsCountAmpersands, if_neg (not_not.mpr rfl)]
  by_cases closed : ampRest <+: rest
  · rw [if_neg (mt test.mp (not_not.mpr closed)), if_pos closed, Nat.add_zero]
  · rw [if_pos (test.mpr closed), if_neg closed]

theorem countAmpersands_other (other : octet ≠ ampersand) (rest : List UInt8) :
    nconfXmlutilsCountAmpersands (octet :: rest) = nconfXmlutilsCountAmpersands rest := by
  rw [nconfXmlutilsCountAmpersands, if_pos other]

theorem length_escaped (octets : List UInt8) :
    (escaped octets).length = octets.length + 4 * nconfXmlutilsCountAmpersands octets := by
  induction octets with
  | nil => rfl
  | cons octet rest ih =>
    rw [escaped] at ih ⊢
    by_cases marked : octet = ampersand
    · subst marked
      rw [countAmpersands_cons, escapeMark]
      by_cases closed : ampRest <+: rest
      · rw [if_neg fun both => both.2 closed, if_pos closed, List.length_cons, List.length_cons, ih]
        omega
      · rw [if_pos ⟨rfl, closed⟩, if_neg closed, List.length_cons, List.length_append,
          List.length_cons, ih, ampRest]
        simp only [List.length_cons, List.length_nil]
        omega
    · rw [countAmpersands_other marked, escapeMark_cons marked, List.length_cons, List.length_cons,
        ih]
      omega

private theorem escaped_of_none (none : nconfXmlutilsCountAmpersands octets = 0) :
    escaped octets = octets := by
  induction octets with
  | nil => rfl
  | cons octet rest ih =>
    rw [escaped] at ih ⊢
    by_cases marked : octet = ampersand
    · subst marked
      rw [countAmpersands_cons] at none
      by_cases closed : ampRest <+: rest
      · rw [if_pos closed] at none
        rw [escapeMark, if_neg fun both => both.2 closed, ih none]
      · rw [if_neg closed] at none
        exact absurd none (Nat.succ_ne_zero _)
    · rw [countAmpersands_other marked] at none
      rw [escapeMark_cons marked, ih none]

private theorem countAmpersands_le (octets : List UInt8) :
    nconfXmlutilsCountAmpersands octets ≤ octets.count ampersand := by
  induction octets with
  | nil => exact Nat.le_refl 0
  | cons octet rest ih =>
    by_cases marked : octet = ampersand
    · subst marked
      rw [countAmpersands_cons, List.count_cons_self]
      split <;> omega
    · rw [countAmpersands_other marked, List.count_cons_of_ne marked]
      exact ih

/-- Without a literal `&amp;` every ampersand counts. -/
theorem countAmpersands_eq (plain : ¬ amp <:+: octets) :
    nconfXmlutilsCountAmpersands octets = octets.count ampersand := by
  induction octets with
  | nil => rfl
  | cons octet rest ih =>
    rw [List.infix_cons_iff, not_or] at plain
    by_cases marked : octet = ampersand
    · subst marked
      have open_ : ¬ ampRest <+: rest := fun closed =>
        plain.1 (List.cons_prefix_cons.mpr ⟨rfl, closed⟩)
      rw [countAmpersands_cons, List.count_cons_self, if_neg open_, ih plain.2]
    · rw [countAmpersands_other marked, List.count_cons_of_ne marked, ih plain.2]

private theorem memcpy_spec (block bytes : List UInt8) (offset : Nat)
    (fits : offset + bytes.length ≤ block.length) :
    ∃ written, memcpy block offset bytes = some written ∧ written.length = block.length ∧
      written.take (offset + bytes.length) = block.take offset ++ bytes ∧
      ∀ more, written.drop (offset + bytes.length + more) =
        block.drop (offset + bytes.length + more) := by
  have start : (block.take offset ++ bytes).length = offset + bytes.length := by
    rw [List.length_append, List.length_take, Nat.min_eq_left (by omega)]
  refine ⟨_, if_pos fits, ?_, ?_, ?_⟩
  · rw [List.length_append, start, List.length_drop]
    omega
  · rw [← start, List.take_left]
  · intro more
    rw [← start, ← List.drop_drop, List.drop_left, start, List.drop_drop]

theorem replacedAmpLoop_skip (front rest : List UInt8) (pos : Nat) (outbuf : List UInt8) :
    replacedAmpLoop front.length (front ++ rest) pos outbuf =
      replacedAmpLoop 0 rest pos outbuf := by
  induction front with
  | nil => rfl
  | cons _ front ih =>
    rw [List.length_cons, List.cons_append, replacedAmpLoop, ih]

private theorem written_on {block written bytes more : List UInt8}
    (start : written.take (offset + bytes.length) = block.take offset ++ bytes)
    (later : written.drop (offset + bytes.length + more.length) =
      block.drop (offset + bytes.length + more.length)) :
    written.take (offset + bytes.length) ++ more ++
        written.drop (offset + bytes.length + more.length) =
      block.take offset ++ (bytes ++ more) ++ block.drop (offset + (bytes ++ more).length) := by
  rw [start, later, List.length_append, Nat.add_assoc]
  simp only [List.append_assoc]

theorem replacedAmpLoop_spec (fits : pos + (escaped octets).length ≤ outbuf.length) :
    replacedAmpLoop 0 octets pos outbuf = some (pos + (escaped octets).length,
      outbuf.take pos ++ escaped octets ++ outbuf.drop (pos + (escaped octets).length)) := by
  induction size : octets.length using Nat.strong_induction_on generalizing octets pos outbuf with
  | _ size ih =>
    subst size
    cases octets with
    | nil => simp [replacedAmpLoop, escaped, escapeMark]
    | cons octet rest =>
      have turn (bytes rest' : List UInt8) (shorter : rest'.length < (octet :: rest).length)
          (same : escaped (octet :: rest) = bytes ++ escaped rest') :
          (memcpy outbuf pos bytes).bind (fun written =>
            replacedAmpLoop 0 rest' (pos + bytes.length) written) =
              some (pos + (escaped (octet :: rest)).length, outbuf.take pos ++
                escaped (octet :: rest) ++ outbuf.drop (pos + (escaped (octet :: rest)).length)) := by
        rw [same, List.length_append, ← Nat.add_assoc] at fits
        obtain ⟨written, done, length, start, later⟩ := memcpy_spec outbuf bytes pos (by omega)
        rw [done, Option.bind_some, ih _ shorter (length ▸ fits) rfl, same,
          written_on start (later _), List.length_append, Nat.add_assoc]
      by_cases marked : octet = ampersand
      · subst marked
        rw [replacedAmpLoop, if_pos rfl]
        by_cases closed : ampRest <+: rest
        · obtain ⟨rest, rfl⟩ := closed
          apply turn amp rest
          · simp only [List.length_cons, List.length_append]
            omega
          · exact escapeMark_mark (by decide)
        · rw [if_neg (mt (take_amp _).mp closed)]
          exact turn amp rest (Nat.lt_succ_self _) (escapeMark_other closed)
      · rw [replacedAmpLoop, if_neg marked]
        exact turn [octet] rest (Nat.lt_succ_self _) (escapeMark_cons marked)

theorem escaped_end (octets : List UInt8) : escaped (octets ++ [0]) = escaped octets ++ [0] :=
  escapeMark_concat (by decide) (by decide) octets

theorem replacedAmp_spec (string : CString) :
    ∃ rest, nconfXmlutilsReplacedAmp true (string.val ++ [0]) (string.val.length + 1 + amp.length *
      nconfXmlutilsCountAmpersands string.val) = some (some (escaped string.val ++ 0 :: rest)) := by
  have length := length_escaped string.val
  have five : amp.length = 5 := rfl
  have fits : 0 + (escaped (string.val ++ [0])).length ≤ (List.replicate (string.val.length + 1 +
      amp.length * nconfXmlutilsCountAmpersands string.val + 1) (0 : UInt8)).length := by
    rw [escaped_end, List.length_append, length, List.length_replicate, List.length_singleton, five]
    omega
  rw [nconfXmlutilsReplacedAmp, if_neg (by decide), replacedAmpLoop_spec fits, escaped_end]
  simp only [Option.bind_eq_bind, Option.bind_some, List.take_zero, List.nil_append, Nat.zero_add]
  rw [memcpy, if_pos (by
    simp only [List.length_append, List.length_drop, List.length_replicate, List.length_singleton,
      length, five]
    omega), Option.bind_some, List.take_left]
  simp

/-- `nconf_xmlutils_sanitize_value_string` on a string whose ampersands can be counted. -/
theorem sanitize_spec (granted : Bool) (string : CString) :
    (nconfXmlutilsSanitizeValueString granted string.val).map Prod.fst =
      if 2 ^ 31 ≤ nconfXmlutilsCountAmpersands string.val then none
      else if granted = true ∨ nconfXmlutilsCountAmpersands string.val = 0 then
        some (escaped string.val)
      else some string.val := by
  rw [nconfXmlutilsSanitizeValueString]
  dsimp only
  split
  · rfl
  by_cases zero : nconfXmlutilsCountAmpersands string.val = 0
  · rw [if_neg (by omega), if_pos (.inr zero), escaped_of_none zero]
    rfl
  · rw [if_pos (Nat.pos_of_ne_zero zero)]
    cases granted with
    | false =>
      rw [if_neg (by simp [zero])]
      rfl
    | true =>
      obtain ⟨rest, done⟩ := replacedAmp_spec string
      have ended : ∀ octet ∈ escaped string.val, decide (octet ≠ 0) = true := by
        intro octet member
        rw [decide_eq_true_iff]
        rintro rfl
        rcases mem_escapeMark member with inside | added
        · exact string.property inside
        · exact absurd added (by decide)
      rw [if_pos (.inl rfl), done, Option.map_some, Option.map_some]
      dsimp only
      rw [List.takeWhile_append_of_pos ended, List.takeWhile_cons_of_neg (by decide),
        List.append_nil]

end Loops

section Texts

variable {granted : Bool} {text data : List Char}

theorem escaped_utf8 (text : List Char) :
    escaped (utf8 text) = utf8 (escapeMark '&' ampTail text) := by
  have octets : utf8 ampTail = ampRest := by decide
  have mark : UInt8.ofNat '&'.toNat = ampersand := by decide
  rw [escaped, ← octets, ← mark]
  exact escapeMark_utf8 (by decide) (by simp [ampTail])

theorem decodesTo_escaped (octets : List UInt8) : DecodesTo (escaped octets) octets ↔
    ∃ text, utf8 text = octets ∧ PlainText text ∧ '\r' ∉ text ∧ ¬ sectionEnd <:+: text := by
  constructor
  · rintro ⟨text, data, encoded, decoded, rfl⟩
    rw [escaped_utf8] at encoded
    rw [utf8_injective encoded] at decoded
    exact ⟨data, rfl, characterData_escape.mp decoded⟩
  · rintro ⟨text, rfl, plain⟩
    exact ⟨_, text, (escaped_utf8 text).symm, characterData_escape.mpr plain, rfl⟩

/-- A plain text has no literal `&amp;`, so that all its ampersands count. -/
theorem count_plainText (plain : PlainText text) :
    nconfXmlutilsCountAmpersands (utf8 text) = (utf8 text).count ampersand := by
  apply countAmpersands_eq
  have octets : utf8 ('&' :: ampTail) = amp := by decide
  rw [← octets, utf8_within (by simp [ampTail]) (by decide)]
  exact plain.literal

private theorem notMem_of_decodesTo (decodes : DecodesTo octets octets) : ampersand ∉ octets := by
  obtain ⟨text, data, rfl, decoded, same⟩ := decodes
  obtain rfl := utf8_injective same
  obtain ⟨_, replaced⟩ := Option.ite_none_left_eq_some.mp decoded
  obtain ⟨bound, exact_⟩ := length_replaceReferences none replaced
  have shorter := length_normalizeLines_le data
  have plain := exact_ rfl (by omega)
  intro member
  apply plain
  apply mem_normalizeLines (by decide)
  have mark : utf8 ['&'] = [ampersand] := by decide
  rw [← List.singleton_infix_iff, ← mark, utf8_within (by simp) (by simp)] at member
  exact (List.singleton_infix_iff _ _).mp member

theorem sanitize_decodes (granted : Bool) (string : CString) :
    (∃ text, (nconfXmlutilsSanitizeValueString granted string.val).map Prod.fst = some text ∧
      DecodesTo text string.val) ↔ string.Writable granted := by
  rw [sanitize_spec]
  constructor
  · rintro ⟨text, given, decodes⟩
    obtain ⟨counted, given⟩ := Option.ite_none_left_eq_some.mp given
    by_cases writes : granted = true ∨ nconfXmlutilsCountAmpersands string.val = 0
    · rw [if_pos writes] at given
      cases given
      obtain ⟨data, same, plain, rest⟩ := (decodesTo_escaped _).mp decodes
      rw [← same, count_plainText plain, same] at counted writes
      refine ⟨⟨data, same, plain, rest⟩, Nat.lt_of_not_le counted, writes.imp_right ?_⟩
      exact List.count_eq_zero.mp
    · rw [if_neg writes] at given
      cases given
      have none := Nat.le_zero.mp ((countAmpersands_le string.val).trans
        (List.count_eq_zero.mpr (notMem_of_decodesTo decodes)).le)
      exact absurd (.inr none) writes
  · rintro ⟨⟨data, same, plain, rest⟩, counted, writes⟩
    have count := count_plainText plain
    rw [same] at count
    have small : ¬ 2 ^ 31 ≤ nconfXmlutilsCountAmpersands string.val := by
      rw [count]
      exact Nat.not_le_of_lt counted
    have given : granted = true ∨ nconfXmlutilsCountAmpersands string.val = 0 := by
      rw [count]
      exact writes.imp_right List.count_eq_zero.mpr
    rw [if_neg small, if_pos given]
    exact ⟨_, rfl, (decodesTo_escaped _).mpr ⟨data, same, plain, rest⟩⟩

theorem strtypeNodeContents_string (current octets rest : List UInt8) (ended : 0 ∉ octets) :
    strtypeNodeContents granted current (octets ++ 0 :: rest) =
      (nconfXmlutilsSanitizeValueString granted (current ++ octets)).bind fun vstr =>
        (strtypeNodeContents granted [] rest).map (vstr.1 :: ·) := by
  induction octets generalizing current with
  | nil => rw [List.nil_append, strtypeNodeContents, if_pos rfl, List.append_nil]
  | cons octet octets ih =>
    have other : octet ≠ 0 := fun same => ended (same ▸ List.mem_cons_self)
    rw [List.cons_append, strtypeNodeContents, if_neg other,
      ih _ fun member => ended (List.mem_cons_of_mem _ member), List.append_assoc]
    rfl

theorem storedValue_cons (string : CString) (strings : List CString) :
    storedValue (string :: strings) = string.val ++ 0 :: storedValue strings := by
  rw [storedValue, List.flatMap_cons, List.append_assoc]
  rfl

theorem TextsRight.writable (right : TextsRight granted strings) :
    ∀ string ∈ strings, string.Writable granted := by
  induction strings with
  | nil => exact nofun
  | cons string strings ih =>
    obtain ⟨texts, given, decoded⟩ := right
    rw [nconfUcclientSetStrtypeNodeContents, storedValue_cons,
      strtypeNodeContents_string _ _ _ string.property, List.nil_append] at given
    obtain ⟨vstr, first, given⟩ := Option.bind_eq_some_iff.mp given
    obtain ⟨others, later, rfl⟩ := Option.map_eq_some_iff.mp given
    obtain ⟨here, rest⟩ := List.forall₂_cons.mp decoded
    refine List.forall_mem_cons.mpr ⟨?_, ih ⟨others, later, rest⟩⟩
    exact (sanitize_decodes granted string).mp ⟨vstr.1, by rw [first]; rfl, here⟩

private theorem textsRight_of_writable (writable : ∀ string ∈ strings, string.Writable granted) :
    TextsRight granted strings := by
  induction strings with
  | nil => exact ⟨[], rfl, List.Forall₂.nil⟩
  | cons string strings ih =>
    obtain ⟨first, later⟩ := List.forall_mem_cons.mp writable
    obtain ⟨text, given, here⟩ := (sanitize_decodes granted string).mpr first
    obtain ⟨vstr, written, rfl⟩ := Option.map_eq_some_iff.mp given
    obtain ⟨others, contents, rest⟩ := ih later
    refine ⟨vstr.1 :: others, ?_, List.forall₂_cons.mpr ⟨here, rest⟩⟩
    rw [nconfUcclientSetStrtypeNodeContents] at contents ⊢
    rw [storedValue_cons, strtypeNodeContents_string _ _ _ string.property, List.nil_append,
      written, contents]
    rfl

/-- The texts of the strings of a value are written within their buffers and decoded to the
strings, exactly when each string is writable. -/
theorem node_texts_right (granted : Bool) (strings : List CString) :
    TextsRight granted strings ↔ ∀ string ∈ strings, string.Writable granted :=
  ⟨TextsRight.writable, textsRight_of_writable⟩

/-- The string `&amp;`. -/
def literalAmp : CString := ⟨amp, by decide⟩

/-- The text of a string that looks escaped is decoded to another string. -/
theorem literal_amp_lost : ¬ ∀ strings : List CString, TextsRight true strings := by
  intro always
  obtain ⟨⟨text, same, plain, _⟩, _⟩ := (always [literalAmp]).writable literalAmp
    (List.mem_singleton_self _)
  have octets : utf8 text = utf8 ('&' :: ampTail) := same
  apply plain.literal
  rw [utf8_injective octets]

end Texts

end EnetTsn.Netconf
