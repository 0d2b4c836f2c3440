import EnetTsn.Netconf.MessageHandler
import Mathlib.Algebra.BigOperators.Group.List.Basic

namespace EnetTsn.Netconf

open EnetTsn.Library

def cutChunks : Nat → List UInt8 → List (List UInt8)
  | 0, _ => []
  | turns + 1, msg =>
    if msg = [] then []
    else msg.take nconfMaxBufSize :: cutChunks turns (msg.drop nconfMaxBufSize)

def Session.after (session : Session) (octets : List UInt8) : Session :=
  { session with sent := session.sent ++ octets }

structure WholeReply (reply : List (List UInt8)) : Prop where
  some_ : reply ≠ []
  filled : ∀ chunk ∈ reply, chunk ≠ []

structure Cuts (chunks : List (List UInt8)) (text : List UInt8) : Prop where
  filled : ∀ chunk ∈ chunks, chunk ≠ []
  flatten : chunks.flatten = text

def Replied (session next : Session) : Prop :=
  next.sessid = session.sessid ∧
    ∃ reply, WholeReply reply ∧ next.sent = session.sent ++ (Frame.chunked reply).octets

section Sending

variable {session : Session} {msg : List UInt8}

theorem after_after (session : Session) (first second : List UInt8) :
    (session.after first).after second = session.after (first ++ second) := by
  simp only [Session.after, List.append_assoc]

theorem after_nil (session : Session) : session.after [] = session := by
  simp only [Session.after, List.append_nil]

theorem send_connected (connected : session.connected = true) (filled : msg ≠ []) :
    session.nconfTransportSendMsg msg = (session.after msg, true) :=
  if_pos ⟨filled, connected⟩

private theorem chunkHeader_ne_nil (chunk : List UInt8) : chunkHeader chunk ≠ [] := by
  exact List.append_ne_nil_of_right_ne_nil _ (List.cons_ne_nil _ _)

theorem take_ne_nil (filled : msg ≠ []) : msg.take nconfMaxBufSize ≠ [] := by
  cases msg with
  | nil => exact absurd rfl filled
  | cons first msg => exact List.cons_ne_nil _ _

theorem cuts_nil : Cuts [] [] := ⟨nofun, rfl⟩

theorem Cuts.append (cuts : Cuts first front) (cuts' : Cuts second rest) :
    Cuts (first ++ second) (front ++ rest) :=
  ⟨List.forall_mem_append.mpr ⟨cuts.filled, cuts'.filled⟩,
    by rw [List.flatten_append, cuts.flatten, cuts'.flatten]⟩

theorem Cuts.whole (cuts : Cuts chunks msg) (filled : msg ≠ []) : WholeReply chunks := by
  refine ⟨?_, cuts.filled⟩
  rintro rfl
  exact filled cuts.flatten.symm

private theorem cutChunks_cuts (turns : Nat) (msg : List UInt8) (enough : msg.length ≤ turns) :
    Cuts (cutChunks turns msg) msg := by
  induction turns generalizing msg with
  | zero =>
    rw [List.length_eq_zero_iff.mp (Nat.le_zero.mp enough)]
    exact cuts_nil
  | succ turns ih =>
    rw [cutChunks]
    split
    · rename_i empty
      rw [empty]
      exact cuts_nil
    · rename_i filled
      have size : nconfMaxBufSize = 1500 := rfl
      have later := ih (msg.drop nconfMaxBufSize) (by rw [List.length_drop]; omega)
      refine ⟨List.forall_mem_cons.mpr ⟨take_ne_nil filled, later.filled⟩, ?_⟩
      rw [List.flatten_cons, later.flatten, List.take_append_drop]

theorem sendChunks_connected (session : Session) (msg : List UInt8)
    (connected : session.connected = true) (turns : Nat) (ret : Bool)
    (enough : msg.length ≤ turns) : sendChunks turns session msg ret =
      (session.after (chunkOctets (cutChunks turns msg)), ret || !msg.isEmpty) := by
  induction turns generalizing session msg ret with
  | zero =>
    have none := List.length_eq_zero_iff.mp (Nat.le_zero.mp enough)
    subst none
    rw [sendChunks, cutChunks, chunkOctets, List.flatMap_nil, after_nil]
    simp
  | succ turns ih =>
    rw [sendChunks, cutChunks]
    by_cases empty : msg = []
    · rw [if_pos empty, if_pos empty, chunkOctets, List.flatMap_nil, after_nil, empty]
      simp
    · have size : nconfMaxBufSize = 1500 := rfl
      have connected' :
          (session.after (chunkHeader (msg.take nconfMaxBufSize))).connected = true := connected
      have connected'' : ((session.after (chunkHeader (msg.take nconfMaxBufSize))).after
          (msg.take nconfMaxBufSize)).connected = true := connected
      have later := ih ((session.after (chunkHeader (msg.take nconfMaxBufSize))).after
          (msg.take nconfMaxBufSize)) (msg.drop nconfMaxBufSize) connected'' true
        (by rw [List.length_drop]; omega)
      have octets : chunkOctets (msg.take nconfMaxBufSize ::
          cutChunks turns (msg.drop nconfMaxBufSize)) =
            chunkHeader (msg.take nconfMaxBufSize) ++ msg.take nconfMaxBufSize ++
              chunkOctets (cutChunks turns (msg.drop nconfMaxBufSize)) := List.flatMap_cons
      rw [if_neg empty, if_neg empty]
      dsimp only
      rw [send_connected connected (chunkHeader_ne_nil _)]
      rw [if_pos rfl, send_connected connected' (take_ne_nil empty)]
      rw [if_pos rfl, later, after_after, after_after, octets]
      simp [List.append_assoc, empty]

section

variable (connected : session.connected = true)
include connected

theorem sendChunkedFrame_connected (filled : msg ≠ []) (iscomplete : Bool) :
    ∃ chunks, Cuts chunks msg ∧ nconfMsghdlrSendChunkedFrame session msg iscomplete =
        (session.after (chunkOctets chunks ++ if iscomplete then endOfChunks else []), true) := by
  refine ⟨cutChunks msg.length msg, cutChunks_cuts _ _ (Nat.le_refl _), ?_⟩
  have sent := sendChunks_connected session msg connected msg.length false (Nat.le_refl _)
  have some_ : (false || !msg.isEmpty) = true := by simp [filled]
  rw [nconfMsghdlrSendChunkedFrame, sent, some_]
  cases iscomplete with
  | false => simp
  | true =>
    have connected' : (session.after (chunkOctets (cutChunks msg.length msg))).connected = true :=
      connected
    simp only [Bool.and_self, if_true]
    rw [send_connected connected' (by decide), after_after]

theorem sendChunkedFrame_whole (filled : msg ≠ []) :
    ∃ reply, WholeReply reply ∧ nconfMsghdlrSendChunkedFrame session msg true =
      (session.after (Frame.chunked reply).octets, true) := by
  obtain ⟨reply, cuts, sent⟩ := sendChunkedFrame_connected connected filled true
  exact ⟨reply, cuts.whole filled, sent⟩

theorem sendParts_connected (parts : List (List UInt8)) : ∃ chunks, Cuts chunks parts.flatten ∧
      sendParts session parts = session.after (chunkOctets chunks) := by
  induction parts generalizing session with
  | nil => exact ⟨[], cuts_nil, (after_nil session).symm⟩
  | cons part parts ih =>
    by_cases empty : part = []
    · obtain ⟨chunks, cuts, sent⟩ := ih connected
      rw [empty]
      exact ⟨chunks, cuts, sent⟩
    · obtain ⟨first, cuts, here⟩ := sendChunkedFrame_connected connected empty false
      have connected' : (session.after (chunkOctets first)).connected = true := connected
      obtain ⟨chunks, others, sent⟩ := ih connected'
      refine ⟨first ++ chunks, cuts.append others, ?_⟩
      rw [chunkOctets_append, ← after_after, ← sent, sendParts, List.foldl_cons, here]
      simp only [Bool.false_eq_true, if_false, List.append_nil]
      rfl

theorem sendFile_connected (file : List Encoded) :
    ∃ chunks, Cuts chunks (file.map Subtype.val).flatten ∧
      sendFile session file = (session.after (chunkOctets chunks), true) := by
  induction file generalizing session with
  | nil => exact ⟨[], cuts_nil, by rw [sendFile, chunkOctets, List.flatMap_nil, after_nil]⟩
  | cons sndbuf file ih =>
    obtain ⟨first, cuts, here⟩ := sendChunkedFrame_connected connected sndbuf.property false
    have connected' : (session.after (chunkOctets first)).connected = true := connected
    obtain ⟨chunks, others, sent⟩ := ih connected'
    refine ⟨first ++ chunks, cuts.append others, ?_⟩
    rw [chunkOctets_append, ← after_after, sendFile, here]
    simp only [Bool.false_eq_true, if_false, List.append_nil, if_true]
    exact sent

private theorem sendFooter_connected (ended : dataEnd <:+: temp) : ∃ reply, WholeReply reply ∧
      sendFooter session temp = session.after (Frame.chunked reply).octets := by
  cases found : firstAt dataEnd temp with
  | none => exact absurd ended (firstAt_eq_none.mp found)
  | some tag =>
    obtain ⟨_, _, fits, _⟩ := firstAt_eq_some found
    have size : dataEnd.length = 7 := rfl
    have filled : temp.drop tag ≠ [] := by
      apply List.ne_nil_of_length_pos
      rw [List.length_drop]
      omega
    obtain ⟨reply, whole, sent⟩ := sendChunkedFrame_whole connected filled
    refine ⟨reply, whole, ?_⟩
    rw [sendFooter, found]
    exact congrArg Prod.fst sent

end

theorem DataReply.found (reply : DataReply) (word : List UInt8)
    (start : word.head? = dummyText.head?) (inside : word <+: dummyText ++ dataEnd ++ reply.back) :
    ∃ temp, firstAt word reply.text = some temp ∧ reply.text.take temp ≠ [] ∧
      dataEnd <:+: reply.text.drop temp := by
  have text : reply.text = reply.front ++ (dummyText ++ dataEnd ++ reply.back) := by
    simp only [DataReply.text, List.append_assoc]
  cases found : firstAt word reply.text with
  | none =>
    have absent := firstAt_eq_none.mp found
    rw [text] at absent
    exact absurd (inside.isInfix.trans (List.suffix_append _ _).isInfix) absent
  | some temp =>
    obtain ⟨rest, same, fits, first⟩ := firstAt_eq_some found
    have before : temp ≤ reply.front.length := by
      by_contra later
      have absent := first reply.front.length (Nat.lt_of_not_le later)
      rw [text, List.drop_left] at absent
      exact absent inside
    refine ⟨temp, rfl, ?_, ?_⟩
    · intro none
      have head := congrArg List.head? same
      rw [none, List.nil_append, List.head?_append, start, text, List.head?_append, reply.start]
        at head
      exact absurd head (by simp [dummyText])
    · rw [text, List.drop_append_of_le_length before]
      refine ⟨reply.front.drop temp ++ dummyText, reply.back, ?_⟩
      simp only [List.append_assoc]

variable (connected : session.connected = true)
include connected

theorem sendFooter_whole
    (filled : ∀ chunk ∈ header, chunk ≠ []) (filled' : ∀ chunk ∈ data, chunk ≠ [])
    (ended : dataEnd <:+: temp) : ∃ whole, WholeReply whole ∧
      sendFooter ((session.after (chunkOctets header)).after (chunkOctets data)) temp =
        session.after (Frame.chunked whole).octets := by
  have connected' : ((session.after (chunkOctets header)).after (chunkOctets data)).connected =
      true := connected
  obtain ⟨footer, wholeFooter, last⟩ := sendFooter_connected connected' ended
  refine ⟨header ++ data ++ footer, ⟨?_, ?_⟩, ?_⟩
  · exact List.append_ne_nil_of_right_ne_nil _ wholeFooter.some_
  · exact List.forall_mem_append.mpr ⟨List.forall_mem_append.mpr ⟨filled, filled'⟩, wholeFooter.filled⟩
  · rw [last, after_after, after_after, Frame.octets, Frame.octets, chunkOctets_append,
      chunkOctets_append, List.append_assoc, List.append_assoc]

theorem sendDataReply_connected (reply : DataReply) (parts : List (List UInt8)) :
    ∃ whole, WholeReply whole ∧
      sendDataReply session reply parts = session.after (Frame.chunked whole).octets := by
  obtain ⟨temp, found, filled, ended⟩ := reply.found dummyText rfl
    (List.append_assoc _ _ _ ▸ List.prefix_append _ _)
  obtain ⟨header, cuts, here⟩ := sendChunkedFrame_connected connected filled false
  have connected' : (session.after (chunkOctets header)).connected = true := connected
  obtain ⟨data, cutsData, sent⟩ := sendParts_connected connected' parts
  obtain ⟨whole, isWhole, last⟩ := sendFooter_whole connected cuts.filled cutsData.filled ended
  refine ⟨whole, isWhole, ?_⟩
  rw [sendDataReply, found, Option.getD_some, here]
  simp only [Bool.false_eq_true, if_false, List.append_nil, if_true]
  rw [sent, last]

theorem sendGetSchemaResp_connected (reply : DataReply) (file : List Encoded) :
    ∃ whole, WholeReply whole ∧ nconfMsghdlrSendGetSchemaResp session reply (some file) =
      session.after (Frame.chunked whole).octets := by
  obtain ⟨temp, found, filled, ended⟩ := reply.found (dummyText ++ dataEnd) rfl
    (List.prefix_append _ _)
  obtain ⟨header, cuts, here⟩ := sendChunkedFrame_connected connected filled false
  have connected' : (session.after (chunkOctets header)).connected = true := connected
  obtain ⟨data, cutsData, sent⟩ := sendFile_connected connected' file
  obtain ⟨whole, isWhole, last⟩ := sendFooter_whole connected cuts.filled cutsData.filled ended
  refine ⟨whole, isWhole, ?_⟩
  rw [nconfMsghdlrSendGetSchemaResp, found]
  dsimp only
  rw [here]
  simp only [Bool.false_eq_true, if_false, List.append_nil, if_true]
  rw [sent]
  exact last

end Sending

def GetOutcome.Answers : GetOutcome → Prop
  | .refused encoder => (encoder.error ⟨.malformedMessage, .rpc, none⟩).isSome = true
  | .unencoded _ _ => False
  | .reply _ _ => True

/-- An error can be encoded, or there are a reply and a buffer to read the schema in. -/
def SchemaOutcome.Answers : SchemaOutcome → Prop
  | .refused encoder => (encoder.error ⟨.invalidValue, .application, none⟩).isSome = true
  | .unencoded => False
  | .reply _ file => file.isSome = true

def Rpc.Answers (session : Session) (free : Nat) : Rpc → Prop
  | .get outcome => (outcome free).Answers
  | .getConfig outcome => (outcome free).Answers
  | .editConfig outcome =>
    ∃ done, nconfMsghdlrRpcMsgProcEditConfig (outcome free).request = some done ∧
      (if done.1 = .noError then (outcome free).encoder.ok
        else (outcome free).encoder.error (editErrorArgs done.1)).isSome = true
  | .closeSession encoder => (encoder free).ok.isSome = true
  | .killSession outcome =>
    ∃ done, killResult session (outcome free).sessidStr = some done ∧
      (if done.2 = .noError then (outcome free).encoder.ok
        else (outcome free).encoder.error (killErrorArgs done.2)).isSome = true
  | .getSchema outcome => (outcome free).Answers
  | _ => False

def Rpc.Refused (free : Nat) : Rpc → Prop
  | .get outcome => ∃ encoder, outcome free = .refused encoder
  | .getConfig outcome => ∃ encoder, outcome free = .refused encoder
  | .getSchema outcome => ∃ encoder, outcome free = .refused encoder
  | _ => False

section Handlers

variable {session : Session} {free : Nat} {rpc : Rpc}

def rpcInfo : MsgInfo := ⟨.live, .live⟩

theorem sendRpcReply_connected (connected : session.connected = true)
    (some_ : encoded.isSome = true) :
    ∃ reply, WholeReply reply ∧ sendRpcReply session .live encoded =
      some (session.after (Frame.chunked reply).octets, true) := by
  obtain ⟨text, rfl⟩ := Option.isSome_iff_exists.mp some_
  obtain ⟨reply, whole, sent⟩ := sendChunkedFrame_whole connected text.property
  exact ⟨reply, whole, congrArg some sent⟩

theorem sendRpcResult_connected (connected : session.connected = true)
    (encoded : (if ret = .noError then encoder.ok else encoder.error (errargs ret)).isSome = true) :
    ∃ reply, WholeReply reply ∧ sendRpcResult session .live encoder ret errargs =
      some (session.after (Frame.chunked reply).octets, true) := by
  obtain ⟨reply, whole, sent⟩ := sendRpcReply_connected connected encoded
  refine ⟨reply, whole, ?_⟩
  rw [sendRpcResult]
  split
  · rename_i accepted
    rwa [if_pos accepted] at sent
  · rename_i refused
    rwa [if_neg refused] at sent

theorem replied_after (changed : Session) (whole : WholeReply reply)
    (sessid : changed.sessid = session.sessid) (sent : changed.sent = session.sent)
    (same : next = changed.after (Frame.chunked reply).octets) : Replied session next := by
  subst same
  exact ⟨sessid, reply, whole, congrArg (· ++ (Frame.chunked reply).octets) sent⟩

variable (connected : session.connected = true)
include connected

theorem procGetData_answers (answers : outcome.Answers) :
    ∃ handled, procGetData session free rpcInfo outcome = some handled ∧
      Replied session handled.session ∧ handled.disconnect = false := by
  cases outcome with
  | refused encoder =>
    obtain ⟨reply, whole, sent⟩ := sendRpcReply_connected connected answers
    refine ⟨_, congrArg (Option.map _) sent, replied_after session whole rfl rfl rfl, rfl⟩
  | unencoded encoder left => exact absurd answers id
  | reply text parts =>
    obtain ⟨whole, filled, sent⟩ := sendDataReply_connected connected text parts
    exact ⟨_, rfl, replied_after session filled rfl rfl sent, rfl⟩

theorem procEditConfig_answers
    (given : nconfMsghdlrRpcMsgProcEditConfig outcome.request = some done)
    (encoded : (if done.1 = .noError then outcome.encoder.ok
      else outcome.encoder.error (editErrorArgs done.1)).isSome = true) :
    ∃ handled, procEditConfig session rpcInfo outcome = some handled ∧
      Replied session handled.session ∧ handled.disconnect = false := by
  have written : ({ session with puts := session.puts ++ done.2 } : Session).connected = true :=
    connected
  obtain ⟨reply, whole, sent⟩ := sendRpcResult_connected written encoded
  refine ⟨.released (Session.after { session with puts := session.puts ++ done.2 }
    (Frame.chunked reply).octets) rpcInfo, ?_, replied_after
      { session with puts := session.puts ++ done.2 } whole rfl rfl rfl, rfl⟩
  rw [procEditConfig, given]
  dsimp only [rpcInfo, Option.bind_eq_bind, Option.bind_some]
  rw [sent]
  rfl

private theorem procCloseSession_answers (encoded : encoder.ok.isSome = true) :
    ∃ handled, nconfMsghdlrRpcMsgProcCloseSession session rpcInfo encoder = some handled ∧
      Replied session handled.session ∧ handled.disconnect = false := by
  obtain ⟨reply, whole, sent⟩ := sendRpcReply_connected connected encoded
  exact ⟨_, congrArg (Option.map _) sent, ⟨rfl, reply, whole, rfl⟩, rfl⟩

theorem killResult_own (given : killResult session sessidStr = some done) :
    done.1.connected = true ∧ done.1.sessid = session.sessid ∧ done.1.sent = session.sent := by
  have own : session.nconfTransportGetClientSessid = session.sessid := if_pos connected
  rw [killResult, own] at given
  split at given
  · split at given
    · rename_i other
      obtain ⟨found, _, rfl⟩ := Option.map_eq_some_iff.mp given
      cases found with
      | false => exact ⟨connected, rfl, rfl⟩
      | true =>
        refine ⟨?_, rfl, rfl⟩
        rw [Session.connected, List.contains_iff_mem] at connected ⊢
        refine List.mem_map.mpr ⟨_, connected, if_neg ?_⟩
        exact fun same => other (Option.some.inj same)
    · cases given
      exact ⟨connected, rfl, rfl⟩
  · cases given
    exact ⟨connected, rfl, rfl⟩

theorem procKillSession_answers (given : killResult session outcome.sessidStr = some done)
    (encoded : (if done.2 = .noError then outcome.encoder.ok
      else outcome.encoder.error (killErrorArgs done.2)).isSome = true) :
    ∃ handled, nconfMsghdlrRpcMsgProcKillSession session rpcInfo outcome = some handled ∧
      Replied session handled.session ∧ handled.disconnect = false := by
  obtain ⟨still, sessid, octets⟩ := killResult_own connected given
  obtain ⟨reply, whole, sent⟩ := sendRpcResult_connected still encoded
  refine ⟨.released (done.1.after (Frame.chunked reply).octets) rpcInfo, ?_,
    replied_after done.1 whole sessid octets rfl, rfl⟩
  rw [nconfMsghdlrRpcMsgProcKillSession, given]
  dsimp only [rpcInfo, Option.bind_eq_bind, Option.bind_some]
  rw [sent]
  rfl

private theorem procGetSchema_answers (answers : outcome.Answers) :
    ∃ handled, nconfMsghdlrRpcMsgProcGetSchema session rpcInfo outcome = some handled ∧
      Replied session handled.session ∧ handled.disconnect = false := by
  cases outcome with
  | refused encoder =>
    obtain ⟨reply, whole, sent⟩ := sendRpcReply_connected connected answers
    exact ⟨_, congrArg (Option.map _) sent, replied_after session whole rfl rfl rfl, rfl⟩
  | unencoded => exact absurd answers id
  | reply text file =>
    obtain ⟨sndbufs, rfl⟩ := Option.isSome_iff_exists.mp answers
    obtain ⟨whole, filled, sent⟩ := sendGetSchemaResp_connected connected text sndbufs
    exact ⟨_, rfl, replied_after session filled rfl rfl sent, rfl⟩

theorem rpc_answered (answers : rpc.Answers session free) :
    ∃ handled, nconfMsghdlrRpcMsgProc session free rpcInfo rpc = some handled ∧
      Replied session handled.session ∧ handled.disconnect = false := by
  cases rpc with
  | get outcome => exact procGetData_answers connected answers
  | getConfig outcome => exact procGetData_answers connected answers
  | editConfig outcome =>
    obtain ⟨done, given, encoded⟩ := answers
    exact procEditConfig_answers connected given encoded
  | deleteConfig => exact absurd answers id
  | lock => exact absurd answers id
  | unlock => exact absurd answers id
  | closeSession encoder => exact procCloseSession_answers connected answers
  | killSession outcome =>
    obtain ⟨done, given, encoded⟩ := answers
    exact procKillSession_answers connected given encoded
  | getSchema outcome => exact procGetSchema_answers connected answers
  | unsupported => exact absurd answers id

private theorem rpc_refused (refused : rpc.Refused free) (answers : rpc.Answers session free) :
    ∃ reply, WholeReply reply ∧ nconfMsghdlrRpcMsgProc session free rpcInfo rpc =
      some { session := session.after (Frame.chunked reply).octets, info := rpcInfo } := by
  cases rpc with
  | get outcome | getConfig outcome | getSchema outcome =>
    obtain ⟨encoder, same⟩ := refused
    rw [Rpc.Answers, same] at answers
    obtain ⟨reply, whole, sent⟩ := sendRpcReply_connected connected answers
    refine ⟨reply, whole, ?_⟩
    rw [nconfMsghdlrRpcMsgProc, same]
    exact congrArg (Option.map _) sent
  | _ => exact absurd refused id

end Handlers

/-- The requests of a buffer can be answered: they are decoded, the reply to each can be encoded,
and all but the last are refused. -/
structure Answerable (server : Server) (buffer : List Rpc) : Prop where
  some_ : buffer ≠ []
  few : buffer.length ≤ nconfMaxMessageDecode
  room : server.stray + 2 * buffer.length ≤ nconfMaxNodeptrNum
  answers : ∀ rpc ∈ buffer,
    rpc.Answers server.session (nconfMaxNodeptrNum - (server.stray + 2 * buffer.length))
  refused : ∀ rpc ∈ buffer.dropLast,
    rpc.Refused (nconfMaxNodeptrNum - (server.stray + 2 * buffer.length))

def AnswerableRun : Server → List (List Rpc) → Prop
  | _, [] => True
  | server, buffer :: rest =>
    (server.session.connected = true → Answerable server buffer) ∧
      ∀ next, nconfMsghdlrProc server (buffer.map .rpc) = some next → AnswerableRun next rest

/-- The requests of a session are answered in order, each with one whole reply, up to the last
or until the client is disconnected. -/
def AnsweredInOrder (server : Server) (buffers : List (List Rpc)) : Prop :=
  ∃ (final : Server) (replies : List (List (List UInt8))),
    handleBuffers server (buffers.map fun buffer => buffer.map .rpc) = some final ∧
    (∀ reply ∈ replies, WholeReply reply) ∧
    final.session.sent = server.session.sent ++ frameOctets (replies.map .chunked) ∧
    (replies.length = buffers.flatten.length ∨
      replies.length ≤ buffers.flatten.length ∧ final.session.connected = false)

section Runs

variable {server : Server} {buffer : List Rpc} {free : Nat}

theorem decodeMessages_all (room taken : Nat) (messages : List Message)
    (few : messages.length ≤ room)
    (fits : taken + (messages.map fun message => message.info.held).sum ≤ nconfMaxNodeptrNum) :
    decodeMessages room taken messages = some messages := by
  induction messages generalizing room taken with
  | nil =>
    cases room with
    | zero => rfl
    | succ room => rfl
  | cons message messages ih =>
    have one : 1 ≤ message.info.held := by
      cases message <;> simp [Message.info, MsgInfo.held, Handle.held]
    rw [List.map_cons, List.sum_cons] at fits
    cases room with
    | zero => exact absurd few (by simp)
    | succ room =>
      rw [decodeMessages, if_neg (by omega), if_neg (by omega),
        ih room _ (Nat.le_of_succ_le_succ few) (by omega)]
      rfl

theorem held_rpcs (rpcs : List Rpc) :
    ((rpcs.map Message.rpc).map fun message => message.info.held).sum = 2 * rpcs.length := by
  induction rpcs with
  | nil => rfl
  | cons rpc rpcs ih =>
    have two : (Message.rpc rpc).info.held = 2 := rfl
    rw [List.map_cons, List.map_cons, List.sum_cons, ih, two, List.length_cons]
    omega

theorem killResult_after (session : Session) (octets : List UInt8)
    (sessidStr : Option (List UInt8)) : killResult (session.after octets) sessidStr =
      (killResult session sessidStr).map fun done => (done.1.after octets, done.2) := by
  have own : (session.after octets).nconfTransportGetClientSessid =
      session.nconfTransportGetClientSessid := rfl
  have kill (target : Nat) : nconfTransportKillSession (session.after octets) target =
      (nconfTransportKillSession session target).map fun done => (done.1.after octets, done.2) := by
    rw [nconfTransportKillSession, nconfTransportKillSession, Option.map_map]
    apply congrFun (congrArg Option.map (funext fun found => ?_))
    cases found <;> rfl
  rw [killResult, killResult, own, kill]
  split
  · split <;> rfl
  · rfl

private theorem answers_after {rpc : Rpc} (octets : List UInt8) (answers : rpc.Answers session free) :
    rpc.Answers (session.after octets) free := by
  cases rpc with
  | killSession outcome =>
    obtain ⟨done, given, encoded⟩ := answers
    exact ⟨(done.1.after octets, done.2), by rw [killResult_after, given]; rfl, encoded⟩
  | _ => exact answers

theorem clientLoop_answers (state : LoopState) (rpcs : List Rpc)
    (connected : state.session.connected = true) (kept : state.gone = false)
    (going : state.disconnect = false)
    (same : free = nconfMaxNodeptrNum - (state.stray + state.held + 2 * rpcs.length))
    (answers : ∀ rpc ∈ rpcs, rpc.Answers state.session free)
    (refused : ∀ rpc ∈ rpcs.dropLast, rpc.Refused free) :
    ∃ (final : LoopState) (replies : List (List (List UInt8))),
      clientLoop state (rpcs.map .rpc) = some final ∧
      final.disconnect = false ∧ replies.length = rpcs.length ∧
      (∀ reply ∈ replies, WholeReply reply) ∧
      final.session.sent = state.session.sent ++ frameOctets (replies.map .chunked) := by
  induction rpcs generalizing state with
  | nil => exact ⟨state, [], rfl, going, rfl, nofun, (List.append_nil _).symm⟩
  | cons rpc rpcs ih =>
    have info (message : Message) : state.infoOf message = message.info := by
      rw [LoopState.infoOf, kept]
      rfl
    have here : state.free ((rpc :: rpcs).map .rpc) = free := by
      rw [LoopState.free, same, ← held_rpcs]
      simp only [info]
    obtain ⟨answer, others⟩ := List.forall_mem_cons.mp answers
    cases rpcs with
    | nil =>
      obtain ⟨handled, done, ⟨_, reply, whole, sent⟩, stays⟩ := rpc_answered connected answer
      refine ⟨state.next handled, [reply], ?_, ?_, rfl, ?_, ?_⟩
      · rw [List.map_cons, List.map_nil] at here ⊢
        have found : handleMessage state.session free (Message.rpc rpc).info (.rpc rpc) =
            some handled := done
        rw [clientLoop, here, info, found]
        rfl
      · rw [LoopState.next, going, stays]
        rfl
      · exact List.forall_mem_singleton.mpr whole
      · rw [LoopState.next, sent]
        simp [frameOctets]
    | cons second rpcs =>
      obtain ⟨first, rest⟩ := List.forall_mem_cons.mp refused
      obtain ⟨reply, whole, done⟩ := rpc_refused connected first answer
      have after : nconfMaxNodeptrNum - (state.stray + 0 + (state.held + rpcInfo.held) +
          2 * (second :: rpcs).length) = free := by
        have two : rpcInfo.held = 2 := rfl
        rw [same, two]
        simp only [List.length_cons]
        omega
      let handled : Handled :=
        { session := state.session.after (Frame.chunked reply).octets, info := rpcInfo }
      have kept' : (state.next handled).gone = false := by rw [LoopState.next, kept]; rfl
      have going' : (state.next handled).disconnect = false := by rw [LoopState.next, going]; rfl
      obtain ⟨final, replies, looped, stays, count, wholes, sent⟩ := ih (state.next handled)
        connected kept' going' after.symm (fun rpc member => answers_after _ (others rpc member))
        rest
      refine ⟨final, reply :: replies, ?_, stays, congrArg Nat.succ count,
        List.forall_mem_cons.mpr ⟨whole, wholes⟩, ?_⟩
      · rw [List.map_cons] at here ⊢
        have found : handleMessage state.session free (Message.rpc rpc).info (.rpc rpc) =
            some handled := done
        rw [clientLoop, here, info, found]
        exact looped
      · rw [sent, List.map_cons, frameOctets, frameOctets, List.flatMap_cons, ← List.append_assoc]
        rfl

theorem buffer_answered (connected : server.session.connected = true)
    (answerable : Answerable server buffer) :
    ∃ (next : Server) (replies : List (List (List UInt8))),
      nconfMsghdlrProc server (buffer.map .rpc) = some next ∧ replies.length = buffer.length ∧
      (∀ reply ∈ replies, WholeReply reply) ∧
      next.session.sent = server.session.sent ++ frameOctets (replies.map .chunked) := by
  have decoded := decodeMessages_all nconfMaxMessageDecode server.stray (buffer.map .rpc)
    (by rw [List.length_map]; exact answerable.few)
    (by rw [held_rpcs]; exact answerable.room)
  have filled : buffer.map Message.rpc ≠ [] := mt List.map_eq_nil_iff.mp answerable.some_
  obtain ⟨final, replies, looped, stays, count, wholes, sent⟩ := clientLoop_answers server.start
    buffer connected rfl rfl rfl answerable.answers answerable.refused
  refine ⟨⟨final.session, final.stray⟩, replies, ?_, count, wholes, sent⟩
  rw [nconfMsghdlrProc, if_pos connected, nconfMsghdlrClientMsgProc, decoded]
  simp only [Option.bind_eq_bind, Option.bind_some, if_neg filled, looped, stays]
  rfl

theorem handleBuffers_disconnected (gone : server.session.connected = false)
    (buffers : List (List Message)) : handleBuffers server buffers = some server := by
  induction buffers with
  | nil => rfl
  | cons buffer buffers ih =>
    rw [handleBuffers, List.foldlM_cons, nconfMsghdlrProc, if_neg (by simp [gone])]
    exact ih

/-- In every run of requests that can be answered, each is answered in order with one whole
reply, until the client is disconnected. -/
theorem session_answered (server : Server) (buffers : List (List Rpc))
    (answerable : AnswerableRun server buffers) : AnsweredInOrder server buffers := by
  induction buffers generalizing server with
  | nil => exact ⟨server, [], rfl, nofun, (List.append_nil _).symm, .inl rfl⟩
  | cons buffer buffers ih =>
    obtain ⟨here, later⟩ := answerable
    cases connected : server.session.connected with
    | false =>
      exact ⟨server, [], handleBuffers_disconnected connected _, nofun,
        (List.append_nil _).symm, .inr ⟨Nat.zero_le _, connected⟩⟩
    | true =>
      obtain ⟨next, replies, handled, count, wholes, sent⟩ :=
        buffer_answered connected (here connected)
      obtain ⟨final, more, run, wholes', sent', answered⟩ := ih next (later next handled)
      have total : (buffer :: buffers).flatten.length = buffer.length + buffers.flatten.length := by
        rw [List.flatten_cons, List.length_append]
      refine ⟨final, replies ++ more, ?_, List.forall_mem_append.mpr ⟨wholes, wholes'⟩, ?_, ?_⟩
      · rw [handleBuffers, List.map_cons, List.foldlM_cons, handled]
        exact run
      · rw [sent', sent, List.map_append, frameOctets, frameOctets, frameOctets,
          List.flatMap_append, List.append_assoc]
      · rw [List.length_append, total, count]
        rcases answered with all | ⟨fewer, gone⟩
        · exact .inl (by rw [all])
        · exact .inr ⟨by omega, gone⟩

/-- A get request that is refused and a close-session request in one buffer. -/
theorem session_answered_closed : AnsweredInOrder ⟨⟨1, [some 1, some 2], [], []⟩, 0⟩
      [[.get fun _ => .refused ⟨some ⟨[60], by decide⟩, fun _ => some ⟨[60], by decide⟩⟩,
        .closeSession fun _ => ⟨some ⟨[60], by decide⟩, fun _ => none⟩]] := by
  apply session_answered
  refine ⟨fun _ => ?_, fun _ _ => trivial⟩
  refine ⟨List.cons_ne_nil _ _, by decide, by decide, ?_, ?_⟩
  · exact List.forall_mem_cons.mpr ⟨rfl, List.forall_mem_singleton.mpr rfl⟩
  · exact List.forall_mem_singleton.mpr ⟨_, rfl⟩

/-- A lock request is not answered, and the client stays connected. -/
theorem lock_unanswered : handleBuffers ⟨⟨1, [some 1], [], []⟩, 0⟩ [[.rpc .lock]] =
        some ⟨⟨1, [some 1], [], []⟩, 0⟩ ∧
      ¬ AnsweredInOrder ⟨⟨1, [some 1], [], []⟩, 0⟩ [[.lock]] := by
  have silent : handleBuffers ⟨⟨1, [some 1], [], []⟩, 0⟩ [[.rpc .lock]] =
      some ⟨⟨1, [some 1], [], []⟩, 0⟩ := by
    decide +kernel
  refine ⟨silent, ?_⟩
  rintro ⟨final, replies, handled, wholes, sent, all | ⟨_, gone⟩⟩
  · cases Option.some.inj (silent.symm.trans handled)
    obtain ⟨reply, rfl⟩ := List.length_eq_one_iff.mp all
    have length := congrArg List.length sent
    simp [frameOctets, Frame.octets, endOfChunks] at length
  · cases Option.some.inj (silent.symm.trans handled)
    exact absurd gone (by decide)

end Runs

end EnetTsn.Netconf
