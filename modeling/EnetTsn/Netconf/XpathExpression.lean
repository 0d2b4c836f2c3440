import EnetTsn.Library.CharSearch

/-!
The XPath expressions that messages are searched with. The size of the buffer is computed first;
then the parts are put into it, by `snprintf` at a place and by `strcat` behind the text.
-/

namespace EnetTsn.Netconf

open EnetTsn.Library

structure XpathNode where
  name : List UInt8
  value : Option (List UInt8)
  plainName : 0 ∉ name
  plainValue : ∀ text ∈ value, 0 ∉ text

def xpathText (text : String) : List UInt8 := text.toUTF8.data.toList

def writeAt (buf : List UInt8) (place : Nat) (octets : List UInt8) : Option (List UInt8) :=
  if place + octets.length ≤ buf.length then
    some (buf.take place ++ octets ++ buf.drop (place + octets.length))
  else none

def strlen (buf : List UInt8) : Nat := (buf.takeWhile (· ≠ 0)).length

def strcat (buf text : List UInt8) : Option (List UInt8) := writeAt buf (strlen buf) (text ++ [0])

def snprintf (buf : List UInt8) (place : Nat) (size : UInt32) (text : List UInt8) :
    Option (List UInt8) :=
  if size = 0 then some buf else writeAt buf place (text.take (size.toNat - 1) ++ [0])

namespace XpathNode

def shown (node : XpathNode) : Option (List UInt8) := node.value.filter (· ≠ [])

/-- What `nconf_xmlutils_add_xpath_predicate` appends. -/
def predicate (node : XpathNode) : List (List UInt8) :=
  match node.shown with
  | none => []
  | some value => [xpathText "[", xpathText "text()='", value, xpathText "'", xpathText "]"]

def nodenameLen (node : XpathNode) : UInt32 := 2 + UInt32.ofNat node.name.length

def predicateLen (node : XpathNode) : UInt32 :=
  match node.shown with
  | none => 0
  | some value => UInt32.ofNat value.length + 9 + 2

def text (node : XpathNode) : List UInt8 := xpathText "//" ++ node.name ++ node.predicate.flatten

end XpathNode

def separator (later : Bool) : List UInt8 := if later then xpathText " | " else []

/-- The nodes with ` | ` between them. -/
def xpathExpression (later : Bool) : List XpathNode → List UInt8
  | [] => []
  | node :: rest => separator later ++ node.text ++ xpathExpression true rest

/-- `nconf_xmlutils_get_xpath_buf_size`. -/
def getXpathBufSize (later : Bool) (bufsz : UInt32) : List XpathNode → UInt32
  | [] => bufsz + 1
  | node :: rest =>
    getXpathBufSize true ((if later then bufsz + 3 else bufsz) + node.nodenameLen +
      node.predicateLen) rest

structure XpathWriter where
  buf : List UInt8
  cur : Nat
  curlen : UInt32

def XpathWriter.advance (writer : XpathWriter) (buf : List UInt8) (length : Nat) : XpathWriter :=
  ⟨buf, writer.cur + length, writer.curlen - UInt32.ofNat length⟩

def XpathWriter.separate (writer : XpathWriter) (later : Bool) : Option XpathWriter :=
  if later then (strcat writer.buf (xpathText " | ")).map (writer.advance · 3) else some writer

/-- A turn of `nconf_xmlutils_encode_xpath_expr`, and whether the loop goes on. -/
def encodeNode (later : Bool) (node : XpathNode) (writer : XpathWriter) :
    Option (XpathWriter × Bool) := do
  let writer ← writer.separate later
  let buf ← snprintf writer.buf writer.cur writer.curlen (xpathText "//" ++ node.name)
  let baselen := strlen (buf.drop writer.cur)
  if baselen = 0 then some ({ writer with buf := buf }, false)
  else
    let buf ← node.predicate.foldlM strcat buf
    some (writer.advance buf (baselen + node.predicate.flatten.length), true)

def encodeXpathExpr (later : Bool) : List XpathNode → XpathWriter → Option XpathWriter
  | [], writer => some writer
  | node :: rest, writer => do
    let (next, more) ← encodeNode later node writer
    if more then encodeXpathExpr true rest next else some next

/-- `nconf_xmlutils_create_xpath_expr`: nothing if it writes outside of its buffer, else the
buffer or a null pointer. -/
def createXpathExpr (nodes : List XpathNode) : Option (Option (List UInt8)) :=
  let bufsz := getXpathBufSize false 0 nodes
  if nodes = [] ∨ bufsz ≤ 2 then some none
  else do
    let writer ← encodeXpathExpr false nodes ⟨List.replicate (bufsz + 1).toNat 0, 0, bufsz⟩
    some (if bufsz < UInt32.ofNat writer.cur then none else some writer.buf)

/-- A buffer with a text and zeros behind it, which have room for so many octets more. -/
structure Padded (buf text : List UInt8) (room : Nat) : Prop where
  buffer : buf = text ++ List.replicate (room + 1) 0
  plain : 0 ∉ text

section Write

variable {buf text more : List UInt8} {room : Nat} {parts : List (List UInt8)}

variable (filled : Padded buf text room)
include filled

theorem Padded.strlen : strlen buf = text.length := by
  rw [filled.buffer, Netconf.strlen, List.replicate_succ, takeWhile_mark filled.plain]

theorem Padded.writeAt (plain : 0 ∉ more)
    (fits : more.length ≤ room) : ∃ after, writeAt buf text.length (more ++ [0]) = some after ∧
      Padded after (text ++ more) (room - more.length) := by
  have inside : text.length + (more ++ [0]).length ≤ buf.length := by
    simp only [filled.buffer, List.length_append, List.length_replicate, List.length_singleton]
    omega
  refine ⟨_, if_pos inside, ?_, ?_⟩
  · have behind : room + 1 - (more.length + 1) = room - more.length := by omega
    rw [filled.buffer, List.take_left, ← List.drop_drop, List.drop_left, List.drop_replicate,
      List.length_append, List.length_singleton, behind, List.replicate_succ]
    simp
  · exact fun member => (List.mem_append.mp member).elim filled.plain plain

theorem Padded.strcat (plain : 0 ∉ more)
    (fits : more.length ≤ room) : ∃ after, strcat buf more = some after ∧
      Padded after (text ++ more) (room - more.length) := by
  rw [Netconf.strcat, filled.strlen]
  exact filled.writeAt plain fits

private theorem Padded.strcats (plain : ∀ part ∈ parts, 0 ∉ part)
    (fits : parts.flatten.length ≤ room) : ∃ after, parts.foldlM Netconf.strcat buf = some after ∧
      Padded after (text ++ parts.flatten) (room - parts.flatten.length) := by
  induction parts generalizing buf text room with
  | nil => exact ⟨buf, rfl, by simpa using filled⟩
  | cons part parts ih =>
    rw [List.flatten_cons, List.length_append] at fits
    obtain ⟨next, put, later⟩ := filled.strcat (plain part (by simp)) (by omega)
    obtain ⟨after, rest, done⟩ := ih later (fun part member => plain part (by simp [member]))
      (by omega)
    refine ⟨after, by rw [List.foldlM_cons, put]; exact rest, ?_⟩
    rwa [List.append_assoc, Nat.sub_sub, ← List.length_append, ← List.flatten_cons] at done

end Write

structure Wrote (writer : XpathWriter) (text : List UInt8) (room : Nat) : Prop where
  filled : Padded writer.buf text room
  cur : writer.cur = text.length
  curlen : writer.curlen.toNat = room

section Encode

variable {writer : XpathWriter} {text more buf : List UInt8} {room : Nat}

theorem Wrote.advance (wrote : Wrote writer text room) (fits : more.length ≤ room)
    (filled : Padded buf (text ++ more) (room - more.length)) :
    Wrote (writer.advance buf more.length) (text ++ more) (room - more.length) := by
  have bound := writer.curlen.toNat_lt
  have octets : (UInt32.ofNat more.length).toNat = more.length :=
    UInt32.toNat_ofNat_of_lt' (by have := wrote.curlen; simp only [UInt32.size]; omega)
  refine ⟨filled, by simp [XpathWriter.advance, wrote.cur], ?_⟩
  rw [XpathWriter.advance, UInt32.toNat_sub_of_le _ _ (by
    rw [UInt32.le_iff_toNat_le, octets, wrote.curlen]; exact fits), octets, wrote.curlen]

private theorem XpathNode.predicate_plain (node : XpathNode) : ∀ part ∈ node.predicate, 0 ∉ part := by
  rw [XpathNode.predicate]
  cases shown : node.shown with
  | none => simp
  | some value =>
    have plain : 0 ∉ value := node.plainValue value (Option.filter_eq_some_iff.mp shown).1
    simp only [List.mem_cons, List.not_mem_nil, or_false, forall_eq_or_imp, forall_eq]
    exact ⟨by decide, by decide, plain, by decide, by decide⟩

private theorem Padded.strlen_drop (filled : Padded buf (text ++ more) room) :
    Netconf.strlen (buf.drop text.length) = more.length := by
  have plain : 0 ∉ more := fun member => filled.plain (List.mem_append_right text member)
  rw [filled.buffer, List.append_assoc, List.drop_left, Netconf.strlen, List.replicate_succ,
    takeWhile_mark plain]

section

variable (wrote : Wrote writer text room)
include wrote

theorem Wrote.separated (later : Bool) (fits : (separator later).length ≤ room) :
    ∃ next, writer.separate later = some next ∧
      Wrote next (text ++ separator later) (room - (separator later).length) := by
  cases later with
  | false => exact ⟨writer, rfl, by simpa [separator] using wrote⟩
  | true =>
    obtain ⟨buf, put, filled⟩ := wrote.filled.strcat (by decide : 0 ∉ separator true) fits
    exact ⟨writer.advance buf 3, by rw [XpathWriter.separate, if_pos rfl]; exact congrArg _ put,
      wrote.advance fits filled⟩

theorem Wrote.snprintf (plain : 0 ∉ more) (fits : more.length < room) :
    ∃ buf, snprintf writer.buf writer.cur writer.curlen more = some buf ∧
      Padded buf (text ++ more) (room - more.length) := by
  have some_room : writer.curlen ≠ 0 := fun none => by
    have := wrote.curlen
    rw [none, UInt32.toNat_zero] at this
    omega
  rw [Netconf.snprintf, if_neg some_room, wrote.curlen, wrote.cur,
    List.take_of_length_le (by omega)]
  exact wrote.filled.writeAt plain (by omega)

theorem Wrote.encodeNode (later : Bool)
    (node : XpathNode) (fits : (separator later ++ node.text).length < room) :
    ∃ next, encodeNode later node writer = some (next, true) ∧
      Wrote next (text ++ (separator later ++ node.text))
        (room - (separator later ++ node.text).length) := by
  have plain : 0 ∉ xpathText "//" ++ node.name := by
    have slashes : 0 ∉ xpathText "//" := by decide
    simp [slashes, node.plainName]
  have base : (xpathText "//" ++ node.name).length ≠ 0 := by
    rw [List.length_append, show (xpathText "//").length = 2 from rfl]
    omega
  have length : node.text.length =
      (xpathText "//" ++ node.name).length + node.predicate.flatten.length := List.length_append
  rw [List.length_append] at fits
  obtain ⟨start, first, started⟩ := wrote.separated later (by omega)
  obtain ⟨named, second, filled⟩ := started.snprintf plain (by omega)
  obtain ⟨buf, third, done⟩ := filled.strcats node.predicate_plain (by omega)
  have baselen := filled.strlen_drop
  rw [← started.cur] at baselen
  rw [List.append_assoc, Nat.sub_sub, ← length, ← XpathNode.text] at done
  have ended := started.advance (by omega) done
  rw [List.append_assoc, Nat.sub_sub, ← List.length_append] at ended
  refine ⟨_, ?_, ended⟩
  simp only [Netconf.encodeNode, first, second, third, baselen, if_neg base, length,
    Option.bind_eq_bind, Option.bind_some]

theorem Wrote.encodeXpathExpr (later : Bool)
    (nodes : List XpathNode) (fits : (xpathExpression later nodes).length < room) :
    ∃ after, encodeXpathExpr later nodes writer = some after ∧
      Wrote after (text ++ xpathExpression later nodes)
        (room - (xpathExpression later nodes).length) := by
  induction nodes generalizing later writer text room with
  | nil => exact ⟨writer, rfl, by simpa [xpathExpression] using wrote⟩
  | cons node nodes ih =>
    rw [xpathExpression, List.length_append] at fits
    obtain ⟨next, turn, wrote⟩ := wrote.encodeNode later node (by omega)
    obtain ⟨after, rest, done⟩ := ih wrote true (by omega)
    refine ⟨after, ?_, ?_⟩
    · simp only [Netconf.encodeXpathExpr, turn, Option.bind_eq_bind, Option.bind_some, if_true,
        rest]
    · rwa [List.append_assoc, Nat.sub_sub, ← List.length_append, ← xpathExpression] at done

end

theorem XpathNode.text_length (node : XpathNode) :
    node.nodenameLen + node.predicateLen = UInt32.ofNat node.text.length := by
  have two : (xpathText "//").length = 2 := rfl
  rw [XpathNode.text, XpathNode.predicate, XpathNode.predicateLen, XpathNode.nodenameLen]
  cases node.shown with
  | none => simp [two, UInt32.ofNat_add]
  | some value =>
    have length : (xpathText "//" ++ node.name ++ [xpathText "[", xpathText "text()='", value,
        xpathText "'", xpathText "]"].flatten).length =
        2 + node.name.length + (value.length + 9 + 2) := by
      have marks : (xpathText "[").length = 1 ∧ (xpathText "text()='").length = 8 ∧
        (xpathText "'").length = 1 ∧ (xpathText "]").length = 1 := by decide
      simp only [List.length_append, List.flatten_cons, List.flatten_nil, List.length_nil, two,
        marks]
      omega
    rw [length]
    simp only [UInt32.ofNat_add]
    rfl

private theorem getXpathBufSize_text (later : Bool) (bufsz : UInt32) (nodes : List XpathNode) :
    getXpathBufSize later bufsz nodes =
      bufsz + UInt32.ofNat ((xpathExpression later nodes).length + 1) := by
  induction nodes generalizing later bufsz with
  | nil => rfl
  | cons node nodes ih =>
    have mark : (if later then bufsz + 3 else bufsz) =
        bufsz + UInt32.ofNat (separator later).length := by
      cases later with
      | false => exact (UInt32.add_zero bufsz).symm
      | true => rfl
    rw [getXpathBufSize, ih, xpathExpression, UInt32.add_assoc _ node.nodenameLen,
      node.text_length, mark]
    simp only [List.length_append, UInt32.ofNat_add, UInt32.add_assoc]

end Encode

private theorem xpathExpression_length {nodes : List XpathNode} (some_node : nodes ≠ []) :
    2 ≤ (xpathExpression false nodes).length := by
  cases nodes with
  | nil => exact absurd rfl some_node
  | cons node nodes =>
    have two : (xpathText "//").length = 2 := rfl
    simp only [xpathExpression, XpathNode.text, List.length_append, two]
    omega

/-- The expression is the whole text, with its end, and no octet is written outside of the
buffer, whatever the nodes are, as long as their sizes do not wrap around. -/
theorem createXpathExpr_text {nodes : List XpathNode} (some_node : nodes ≠ [])
    (bounded : (xpathExpression false nodes).length + 2 < 2 ^ 32) :
    ∃ buf, createXpathExpr nodes = some (some buf) ∧
      Padded buf (xpathExpression false nodes) 1 := by
  have least := xpathExpression_length some_node
  have size : getXpathBufSize false 0 nodes =
      UInt32.ofNat ((xpathExpression false nodes).length + 1) := by
    rw [getXpathBufSize_text, UInt32.zero_add]
  set length := (xpathExpression false nodes).length with length_eq
  have bufsz : (UInt32.ofNat (length + 1)).toNat = length + 1 :=
    UInt32.toNat_ofNat_of_lt' (by simp only [UInt32.size]; omega)
  have whole : (UInt32.ofNat (length + 1) + 1).toNat = length + 2 := by
    rw [UInt32.toNat_add, bufsz]
    exact Nat.mod_eq_of_lt bounded
  have wrote : Wrote
      ⟨List.replicate (UInt32.ofNat (length + 1) + 1).toNat 0, 0, UInt32.ofNat (length + 1)⟩
      [] (length + 1) := ⟨⟨by rw [whole]; rfl, List.not_mem_nil⟩, rfl, bufsz⟩
  obtain ⟨after, written, done⟩ := wrote.encodeXpathExpr false nodes (by omega)
  rw [List.nil_append, ← length_eq, Nat.add_sub_cancel_left] at done
  refine ⟨after.buf, ?_, done.filled⟩
  have enough : ¬ UInt32.ofNat (length + 1) ≤ 2 := by
    rw [UInt32.le_iff_toNat_le, bufsz, show (2 : UInt32).toNat = 2 from rfl]
    omega
  have inside : ¬ UInt32.ofNat (length + 1) < UInt32.ofNat after.cur := by
    rw [UInt32.lt_iff_toNat_lt, bufsz, done.cur,
      UInt32.toNat_ofNat_of_lt' (by simp only [UInt32.size]; omega)]
    omega
  simp only [createXpathExpr, size, some_node, enough, or_self, if_false, written, inside,
    Option.bind_eq_bind, Option.bind_some]

def capabilityNode : XpathNode := ⟨xpathText "capability", some [49], by decide, by decide⟩

theorem createXpathExpr_text_capability :
    ∃ buf, createXpathExpr [capabilityNode, capabilityNode] = some (some buf) ∧
      Padded buf (xpathExpression false [capabilityNode, capabilityNode]) 1 :=
  createXpathExpr_text (by decide) (by decide)

end EnetTsn.Netconf
