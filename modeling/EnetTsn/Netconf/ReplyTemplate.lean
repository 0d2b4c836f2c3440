import EnetTsn.Netconf.MessageReplies

/-!
A reply with data is encoded around a word that stands for the data. The word is searched for in
the whole text, which has attributes of the request in front of the data element: the XML library
prints them as they are.
-/

namespace EnetTsn.Netconf

open EnetTsn.Library

structure XmlAttr where
  name : List UInt8
  value : List UInt8
  deriving DecidableEq, Repr

def XmlAttr.text (attr : XmlAttr) : List UInt8 :=
  32 :: (attr.name ++ 61 :: 34 :: (attr.value ++ [34]))

/-- `xmlns`. -/
def xmlnsText : List UInt8 := [120, 109, 108, 110, 115]

/-- `<rpc-reply`. -/
def rpcReplyStart : List UInt8 := [60, 114, 112, 99, 45, 114, 101, 112, 108, 121]

/-- `</rpc-reply>`. -/
def rpcReplyEnd : List UInt8 := [60, 47, 114, 112, 99, 45, 114, 101, 112, 108, 121, 62]

def nconfXmlutilsCopyNodeProp (src : List XmlAttr) : List XmlAttr :=
  src.filter fun attr => firstAt xmlnsText attr.name = none

def nconfXmlutilsCopyNodeNsdefs (src : List XmlAttr) : List XmlAttr :=
  src.filter fun attr => firstAt xmlnsText attr.name = some 0

def nconfMsgencCopyRpcreqAttr (rpcreq : List XmlAttr) : List XmlAttr :=
  nconfXmlutilsCopyNodeProp rpcreq ++ nconfXmlutilsCopyNodeNsdefs rpcreq

/-- What the XML library prints around the nodes of a document: a declaration between `<?` and
`?>`, in which the placeholder does not stand, and blanks between the tags. -/
structure NodePrinter where
  declaration : List UInt8
  blanks : List UInt8
  plain : ¬ dummyText <:+: declaration
  blank : ∀ octet ∈ blanks, octet = 10 ∨ octet = 32

/-- `nconf_msgenc_rpc_reply` for a data element with the placeholder in it. -/
def nconfMsgencRpcReply (printer : NodePrinter) (rpcreq data : List XmlAttr) : DataReply where
  front := 60 :: 63 :: (printer.declaration ++ 63 :: 62 :: (printer.blanks ++ (rpcReplyStart ++
    ((nconfMsgencCopyRpcreqAttr rpcreq).flatMap XmlAttr.text ++ 62 :: (printer.blanks ++
      60 :: 100 :: 97 :: 116 :: 97 :: (data.flatMap XmlAttr.text ++ [62]))))))
  back := printer.blanks ++ rpcReplyEnd
  start := rfl

/-- A reply is the encoded one with the data as the content of its element, and it was split inside
of this element. -/
structure DataInside (session next : Session) (reply : DataReply) (data : List UInt8)
    (temp : Option Nat) : Prop where
  split : temp = some reply.front.length
  sent : ∃ chunks, Cuts chunks (reply.front ++ data ++ (dataEnd ++ reply.back)) ∧
    next.sent = session.sent ++ (Frame.chunked chunks).octets

def XmlAttr.Without (word : List UInt8) (attr : XmlAttr) : Prop :=
  ¬ word <:+: attr.name ∧ ¬ word <:+: attr.value

section Search

variable {word rest : List UInt8}

theorem infix_attributes (attrs : List XmlAttr) (filled : word ≠ [])
    (marks : (32 : UInt8) ∉ word ∧ (61 : UInt8) ∉ word ∧ (34 : UInt8) ∉ word) :
    word <:+: attrs.flatMap XmlAttr.text ++ rest ↔
      (∃ attr ∈ attrs, ¬ attr.Without word) ∨ word <:+: rest := by
  have empty : ¬ word <:+: [] := fun inside => filled (List.infix_nil.mp inside)
  induction attrs with
  | nil => simp
  | cons attr attrs ih =>
    have printed : (attr :: attrs).flatMap XmlAttr.text ++ rest =
        [] ++ 32 :: (attr.name ++ 61 :: ([] ++ 34 :: (attr.value ++ 34 ::
          (attrs.flatMap XmlAttr.text ++ rest)))) := by
      simp [XmlAttr.text]
    rw [printed, infix_append_cons_iff marks.1, infix_append_cons_iff marks.2.1,
      infix_append_cons_iff marks.2.2, infix_append_cons_iff marks.2.2]
    simp only [ih, empty, false_or, List.exists_mem_cons_iff, XmlAttr.Without, not_and_or, not_not,
      or_assoc]

/-- The placeholder starts with `du`, so it is in front of the data only in an attribute. -/
theorem infix_front (printer : NodePrinter) (rpcreq data : List XmlAttr) (tail : List UInt8)
    (word : [109, 109, 121] <+: tail)
    (marks : (32 : UInt8) ∉ tail ∧ (61 : UInt8) ∉ tail ∧ (34 : UInt8) ∉ tail)
    (mark : (63 : UInt8) ∉ tail) : (100 :: 117 :: tail) <:+:
        (nconfMsgencRpcReply printer rpcreq data).front ++ (100 :: 117 :: tail).dropLast ↔
      ∃ attr ∈ nconfMsgencCopyRpcreqAttr rpcreq ++ data, ¬ attr.Without (100 :: 117 :: tail) := by
  have outside : (32 : UInt8) ∉ 100 :: 117 :: tail ∧ (61 : UInt8) ∉ 100 :: 117 :: tail ∧
      (34 : UInt8) ∉ 100 :: 117 :: tail := by
    simp [marks]
  have filled : (100 : UInt8) :: 117 :: tail ≠ [] := List.cons_ne_nil _ _
  have blank : (100 : UInt8) ∉ printer.blanks := by
    intro inside
    rcases printer.blank 100 inside with same | same <;> cases same
  have blanks : 100 ∉ 62 :: (printer.blanks ++ [60]) := by simpa using blank
  have declared : ¬ (100 : UInt8) :: 117 :: tail <:+: printer.declaration := by
    intro inside
    have start : dummyText <+: 100 :: 117 :: tail := by simpa [dummyText] using word
    exact printer.plain (start.isInfix.trans inside)
  have short : ¬ (100 : UInt8) :: 117 :: tail <:+: (100 :: 117 :: tail).dropLast := by
    intro inside
    have size := inside.length_le
    rw [List.length_dropLast, List.length_cons] at size
    omega
  have printed : (nconfMsgencRpcReply printer rpcreq data).front ++ (100 :: 117 :: tail).dropLast =
      [60, 63] ++ (printer.declaration ++ 63 :: (62 :: printer.blanks ++ (rpcReplyStart ++
        ((nconfMsgencCopyRpcreqAttr rpcreq).flatMap XmlAttr.text ++ (62 :: (printer.blanks ++ [60]) ++
          100 :: ([97, 116, 97] ++ (data.flatMap XmlAttr.text ++
            ([62] ++ (100 :: 117 :: tail).dropLast)))))))) := by
    simp [nconfMsgencRpcReply]
  rw [printed, infix_append_of_head (by decide), infix_append_cons_iff (by simpa using mark),
    or_iff_right declared, infix_append_of_head (by simpa using blank),
    infix_append_of_head (by decide), infix_attributes _ filled outside, infix_append_of_head blanks, List.infix_cons_iff,
    infix_append_of_head (by decide), infix_attributes _ filled outside,
    infix_append_of_head (by decide)]
  have letters : ¬ (100 : UInt8) :: 117 :: tail <+: 100 :: ([97, 116, 97] ++
      (data.flatMap XmlAttr.text ++ ([62] ++ (100 :: 117 :: tail).dropLast))) := by
    simp
  simp only [letters, short, false_or, or_false, List.mem_append, or_and_right, exists_or]

end Search

section Sending

variable {session : Session} {reply : DataReply} {temp : Option Nat} (printer : NodePrinter)

theorem firstAt_dummy_iff (rpcreq data : List XmlAttr) :
    firstAt dummyText (nconfMsgencRpcReply printer rpcreq data).text =
        some (nconfMsgencRpcReply printer rpcreq data).front.length ↔
      ∀ attr ∈ nconfMsgencCopyRpcreqAttr rpcreq ++ data, attr.Without dummyText := by
  have found := infix_front printer rpcreq data [109, 109, 121] (by decide) (by decide) (by decide)
  rw [DataReply.text, List.append_assoc _ dataEnd, firstAt_append_iff (by decide)]
  exact (not_congr found).trans (by push Not; rfl)

private theorem firstAt_dummy_end_iff (rpcreq data : List XmlAttr) :
    firstAt (dummyText ++ dataEnd) (nconfMsgencRpcReply printer rpcreq data).text =
        some (nconfMsgencRpcReply printer rpcreq data).front.length ↔
      ∀ attr ∈ nconfMsgencCopyRpcreqAttr rpcreq ++ data, attr.Without (dummyText ++ dataEnd) := by
  have found := infix_front printer rpcreq data
    [109, 109, 121, 60, 47, 100, 97, 116, 97, 62] (by decide) (by decide) (by decide)
  rw [DataReply.text, List.append_assoc _ dummyText, firstAt_append_iff (by decide)]
  exact (not_congr found).trans (by push Not; rfl)

theorem sendChunkedFrame_disconnected (disconnected : session.connected = false) (msg : List UInt8)
    (iscomplete : Bool) :
    nconfMsghdlrSendChunkedFrame session msg iscomplete = (session, false) := by
  have unsent (octets : List UInt8) : session.nconfTransportSendMsg octets = (session, false) := by
    rw [Session.nconfTransportSendMsg, disconnected]
    exact if_neg fun sends => Bool.false_ne_true sends.2
  have chunks (turns : Nat) : sendChunks turns session msg false = (session, false) := by
    cases turns with
    | zero => rfl
    | succ turns => simp only [sendChunks, unsent, Bool.false_eq_true, if_false, ite_self]
  rw [nconfMsghdlrSendChunkedFrame, chunks]
  rfl

theorem sendFooter_placeholder (connected : session.connected = true) (back : List UInt8) :
    ∃ chunks, Cuts chunks (dataEnd ++ back) ∧ sendFooter session (dummyText ++ dataEnd ++ back) =
      session.after (Frame.chunked chunks).octets := by
  have found : firstAt dataEnd (dummyText ++ dataEnd ++ back) = some dummyText.length :=
    firstAt_append (by decide) (by decide) back
  have filled : dataEnd ++ back ≠ [] := List.cons_ne_nil _ _
  obtain ⟨chunks, cuts, sent⟩ := sendChunkedFrame_connected connected filled true
  refine ⟨chunks, cuts, ?_⟩
  rw [sendFooter, found]
  dsimp only
  rw [List.append_assoc, List.drop_left, sent]
  rfl

private theorem octets_ne_nil (chunks : List (List UInt8)) : (Frame.chunked chunks).octets ≠ [] :=
  List.append_ne_nil_of_right_ne_nil _ (by decide)

theorem not_inside_of_unsent (unsent : next.sent = session.sent) :
    ¬ DataInside session next reply data temp := by
  rintro ⟨_, chunks, _, sent⟩
  rw [unsent] at sent
  exact octets_ne_nil chunks (List.append_right_eq_self.mp sent.symm)

theorem inside_of_parts (front : Cuts header reply.front) (content : Cuts body data)
    (last : Cuts footer (dataEnd ++ reply.back)) :
    DataInside session (((session.after (chunkOctets header)).after (chunkOctets body)).after
      (Frame.chunked footer).octets) reply data (some reply.front.length) where
  split := rfl
  sent := by
    refine ⟨header ++ body ++ footer, (front.append content).append last, ?_⟩
    simp only [Session.after, Frame.octets, chunkOctets_append, List.append_assoc]

theorem front_ne_nil (reply : DataReply) : reply.front ≠ [] := by
  intro empty
  have start := reply.start
  rw [empty] at start
  cases start

theorem text_split (reply : DataReply) : reply.text.take reply.front.length = reply.front ∧
      reply.text.drop reply.front.length = dummyText ++ dataEnd ++ reply.back := by
  rw [DataReply.text, List.append_assoc, List.append_assoc, List.take_left, List.drop_left]
  exact ⟨rfl, (List.append_assoc _ _ _).symm⟩

theorem sendDataReply_inside (session : Session) (reply : DataReply) (parts : List (List UInt8)) :
    DataInside session (sendDataReply session reply parts) reply parts.flatten
        (firstAt dummyText reply.text) ↔
      session.connected = true ∧ firstAt dummyText reply.text = some reply.front.length := by
  constructor
  · intro inside
    refine ⟨?_, inside.split⟩
    by_contra open_
    refine not_inside_of_unsent ?_ inside
    rw [sendDataReply, sendChunkedFrame_disconnected (Bool.eq_false_iff.mpr open_)]
    rfl
  · rintro ⟨connected, found⟩
    obtain ⟨front, rest⟩ := text_split reply
    obtain ⟨header, cuts, here⟩ := sendChunkedFrame_connected connected (front_ne_nil reply) false
    have connected' : (session.after (chunkOctets header)).connected = true := connected
    obtain ⟨body, content, sent⟩ := sendParts_connected connected' parts
    have connected'' : ((session.after (chunkOctets header)).after (chunkOctets body)).connected =
        true := connected
    obtain ⟨footer, ended, last⟩ := sendFooter_placeholder connected'' reply.back
    rw [sendDataReply, found, Option.getD_some, front, rest, here]
    simp only [Bool.false_eq_true, if_false, List.append_nil, if_true]
    rw [sent, last]
    exact inside_of_parts cuts content ended

private theorem getLast?_chunkOctets (cuts : Cuts chunks text) (filled : text ≠ []) :
    (chunkOctets chunks).getLast? = text.getLast? := by
  rcases chunks.eq_nil_or_concat with rfl | ⟨front, last, rfl⟩
  · exact absurd cuts.flatten.symm filled
  · rw [List.concat_eq_append] at cuts ⊢
    have some_ : last ≠ [] := cuts.filled last (by simp)
    have octets : chunkOctets (front ++ [last]) =
        chunkOctets front ++ chunkHeader last ++ last := by
      simp [chunkOctets]
    have flat : text = front.flatten ++ last := by
      rw [← cuts.flatten]
      simp
    rw [octets, flat, List.getLast?_append_of_ne_nil _ some_,
      List.getLast?_append_of_ne_nil _ some_]

private theorem not_inside_of_front (cuts : Cuts header reply.front)
    (ended : reply.front.getLast? = some 62) :
    ¬ DataInside session (session.after (chunkOctets header)) reply data temp := by
  rintro ⟨_, chunks, _, sent⟩
  have same : chunkOctets header = chunkOctets chunks ++ endOfChunks := List.append_cancel_left sent
  have last := congrArg List.getLast? same
  rw [getLast?_chunkOctets cuts (front_ne_nil reply), ended,
    List.getLast?_append_of_ne_nil _ (by decide)] at last
  cases last

/-- A schema is sent inside of its element if the session is connected, there is a buffer to read
it in, and the placeholder with the end of the element is found there. -/
theorem sendGetSchemaResp_inside (session : Session) (reply : DataReply) (file : List Encoded)
    (granted : Bool) (ended : reply.front.getLast? = some 62) : DataInside session
        (nconfMsghdlrSendGetSchemaResp session reply (if granted then some file else none)) reply
        (file.map Subtype.val).flatten (firstAt (dummyText ++ dataEnd) reply.text) ↔
      session.connected = true ∧ granted = true ∧
        firstAt (dummyText ++ dataEnd) reply.text = some reply.front.length := by
  obtain ⟨front, rest⟩ := text_split reply
  constructor
  · intro inside
    have found := inside.split
    rw [nconfMsghdlrSendGetSchemaResp, found] at inside
    dsimp only at inside
    rw [front, rest] at inside
    by_cases connected : session.connected = true
    · obtain ⟨header, cuts, here⟩ :=
        sendChunkedFrame_connected connected (front_ne_nil reply) false
      refine ⟨connected, ?_, found⟩
      by_contra refused
      rw [if_neg refused, here] at inside
      simp only [Bool.false_eq_true, if_false, List.append_nil, if_true] at inside
      exact not_inside_of_front cuts ended inside
    · rw [sendChunkedFrame_disconnected (Bool.eq_false_iff.mpr connected)] at inside
      exact absurd inside (not_inside_of_unsent rfl)
  · rintro ⟨connected, rfl, found⟩
    obtain ⟨header, cuts, here⟩ := sendChunkedFrame_connected connected (front_ne_nil reply) false
    have connected' : (session.after (chunkOctets header)).connected = true := connected
    obtain ⟨body, content, sent⟩ := sendFile_connected connected' file
    have connected'' : ((session.after (chunkOctets header)).after (chunkOctets body)).connected =
        true := connected
    obtain ⟨footer, cutsEnd, last⟩ := sendFooter_placeholder connected'' reply.back
    rw [nconfMsghdlrSendGetSchemaResp, found]
    dsimp only
    rw [front, rest, here]
    simp only [Bool.false_eq_true, if_false, List.append_nil, if_true]
    rw [sent]
    rw [last]
    exact inside_of_parts cuts content cutsEnd

end Sending

section Replies

variable (printer : NodePrinter) (session : Session) (rpcreq : List XmlAttr)

/-- The reply to get and get-config, with `<data>` as `nconf_msghdlr_generate_dummy_dbtree` makes
it. -/
def getReply : DataReply := nconfMsgencRpcReply printer rpcreq []

/-- The reply to get-schema, with the namespaces of the operation at `<data>`. -/
def schemaReply (rpcreqOper : List XmlAttr) : DataReply :=
  nconfMsgencRpcReply printer rpcreq (nconfXmlutilsCopyNodeNsdefs rpcreqOper)

private theorem front_getLast? (data : List XmlAttr) :
    (nconfMsgencRpcReply printer rpcreq data).front.getLast? = some 62 := by
  have split : (nconfMsgencRpcReply printer rpcreq data).front =
      (60 :: 63 :: (printer.declaration ++ 63 :: 62 :: (printer.blanks ++ (rpcReplyStart ++
        ((nconfMsgencCopyRpcreqAttr rpcreq).flatMap XmlAttr.text ++ 62 :: (printer.blanks ++
          60 :: 100 :: 97 :: 116 :: 97 :: data.flatMap XmlAttr.text)))))) ++ [62] := by
    simp [nconfMsgencRpcReply]
  rw [split, List.getLast?_concat]

/-- **A reply has the data as the content of its element** exactly if no attribute that is copied
has the text that is searched for in its name or its value, and the reply can be sent. -/
theorem reply_data_inside (rpcreqOper : List XmlAttr) (parts : List (List UInt8))
    (file : List Encoded) (granted : Bool) :
    (DataInside session (sendDataReply session (getReply printer rpcreq) parts)
        (getReply printer rpcreq) parts.flatten (firstAt dummyText (getReply printer rpcreq).text) ↔
      session.connected = true ∧
        ∀ attr ∈ nconfMsgencCopyRpcreqAttr rpcreq, attr.Without dummyText) ∧
    (DataInside session (nconfMsghdlrSendGetSchemaResp session
        (schemaReply printer rpcreq rpcreqOper) (if granted then some file else none))
        (schemaReply printer rpcreq rpcreqOper) (file.map Subtype.val).flatten
        (firstAt (dummyText ++ dataEnd) (schemaReply printer rpcreq rpcreqOper).text) ↔
      session.connected = true ∧ granted = true ∧
        ∀ attr ∈ nconfMsgencCopyRpcreqAttr rpcreq ++ nconfXmlutilsCopyNodeNsdefs rpcreqOper,
          attr.Without (dummyText ++ dataEnd)) := by
  constructor
  · rw [sendDataReply_inside, getReply, firstAt_dummy_iff, List.append_nil]
  · rw [schemaReply, sendGetSchemaResp_inside _ _ _ _ (front_getLast? printer rpcreq _),
      firstAt_dummy_end_iff]

end Replies

/-- `xml version="1.0" encoding="UTF-8"`, as `nconf_xmlutils_new_doc` declares it. -/
def plainPrinter : NodePrinter where
  declaration := [120, 109, 108, 32, 118, 101, 114, 115, 105, 111, 110, 61, 34, 49, 46, 48, 34, 32,
    101, 110, 99, 111, 100, 105, 110, 103, 61, 34, 85, 84, 70, 45, 56, 34]
  blanks := [10]
  plain := by decide
  blank _ member := .inl (List.mem_singleton.mp member)

/-- `message-id`. -/
def messageId : List UInt8 := [109, 101, 115, 115, 97, 103, 101, 45, 105, 100]

/-- The message id is copied in front of the data, so that a placeholder in it is taken for the
data. -/
theorem dummy_message_id_not_inside : ¬ ∀ (session : Session) (rpcreq : List XmlAttr)
    (parts : List (List UInt8)), session.connected = true →
      DataInside session (sendDataReply session (getReply plainPrinter rpcreq) parts)
        (getReply plainPrinter rpcreq) parts.flatten
        (firstAt dummyText (getReply plainPrinter rpcreq).text) := by
  intro always
  have inside := always ⟨1, [some 1], [], []⟩ [⟨messageId, dummyText⟩] [] rfl
  have found := (sendDataReply_inside _ _ _).mp inside
  have outside := (firstAt_dummy_iff plainPrinter _ _).mp found.2
  exact (outside ⟨messageId, dummyText⟩ (by decide)).2 List.infix_rfl

end EnetTsn.Netconf
