import EnetTsn.Netconf.EditConfig
import EnetTsn.Netconf.FrameDecoder

/-!
The handling of messages from one client. The messages of a buffer are decoded first, each with
handles to its nodes, and then handled one after another. All handles come from one pool, which
most handlers empty in the end. What the XML library and the database give to a handler is part
of its message, as it is with the handles that are free then.
-/

namespace EnetTsn.Netconf

open EnetTsn.Library

def nconfMaxBufSize : Nat := 1500

def nconfMaxNodeptrNum : Nat := 20

abbrev Encoded := { text : List UInt8 // text ≠ [] }

/-- The session of a client, among the session ids of all connections, with the octets that were
sent to it and the writes to the database. -/
structure Session where
  sessid : Nat
  conhdl : List (Option Nat)
  sent : List UInt8
  puts : List DbPut
  deriving DecidableEq, Repr

namespace Session

/-- `NCONF_TLSCON_HANDLE_CHECK`. -/
def connected (session : Session) : Bool := session.conhdl.contains (some session.sessid)

/-- `nconf_transport_send_msg` where the transport works. -/
def nconfTransportSendMsg (session : Session) (msg : List UInt8) : Session × Bool :=
  if msg ≠ [] ∧ session.connected then ({ session with sent := session.sent ++ msg }, true)
  else (session, false)

/-- `nconf_tlscon_disconnect_client` on the connection of a session id. -/
def nconfTlsconDisconnectClient (session : Session) (sessid : Nat) : Session :=
  { session with
    conhdl := session.conhdl.map fun slot => if slot = some sessid then none else slot }

def nconfTransportDisconnectClient (session : Session) : Session :=
  session.nconfTlsconDisconnectClient session.sessid

def nconfTransportGetClientSessid (session : Session) : Nat :=
  if session.connected then session.sessid else 0

end Session

/-- `nconf_tlscon_get_connhdl_by_sessid`: whether there is a connection. There is no result when
an empty slot is looked into. -/
def nconfTlsconGetConnhdlBySessid (sessid : Nat) : List (Option Nat) → Option Bool
  | [] => some false
  | none :: _ => none
  | some other :: rest =>
    if other = sessid then some true else nconfTlsconGetConnhdlBySessid sessid rest

def nconfTransportKillSession (session : Session) (sessid : Nat) :
    Option (Session × RpcErrorTag) :=
  (nconfTlsconGetConnhdlBySessid sessid session.conhdl).map fun found =>
    if found then (session.nconfTlsconDisconnectClient sessid, .noError)
    else (session, .invalidValue)

/-- The loop of `nconf_msghdlr_send_chunked_frame`, with no more turns than octets. -/
def sendChunks : Nat → Session → List UInt8 → Bool → Session × Bool
  | 0, session, _, ret => (session, ret)
  | turns + 1, session, msg, ret =>
    if msg = [] then (session, ret)
    else
      let chunk := msg.take nconfMaxBufSize
      let header := session.nconfTransportSendMsg (chunkHeader chunk)
      if header.2 then
        let data := header.1.nconfTransportSendMsg chunk
        if data.2 then sendChunks turns data.1 (msg.drop nconfMaxBufSize) true else data
      else header

def nconfMsghdlrSendChunkedFrame (session : Session) (msg : List UInt8) (iscomplete : Bool) :
    Session × Bool :=
  let sent := sendChunks msg.length session msg false
  if sent.2 && iscomplete then sent.1.nconfTransportSendMsg endOfChunks else sent

/-- `nconf_rpcerror_type_t`. -/
inductive RpcErrorType where
  | transport
  | rpc
  | protocol
  | application
  deriving DecidableEq, Repr

/-- What `nconf_rpcerror_args_t` is filled with: `info` is the element that is missing. -/
structure RpcErrorArgs where
  tag : RpcErrorTag
  type : RpcErrorType
  info : Option (List UInt8)
  deriving DecidableEq, Repr

/-- `nconf_msgenc_rpc_reply_ok` and `nconf_msgenc_rpc_reply_error` for a request. -/
structure Encoder where
  ok : Option Encoded
  error : RpcErrorArgs → Option Encoded

inductive Handle where
  | null
  | live
  | released
  deriving DecidableEq, Repr

namespace Handle

def held : Handle → Nat
  | .live => 1
  | _ => 0

/-- `XmlUtils::release_all_nodeinst`: pointers to the handle stay. -/
def release : Handle → Handle
  | .live => .released
  | handle => handle

end Handle

/-- The node handles of `nconf_msginfo_t`. -/
structure MsgInfo where
  rootnode : Handle
  rpcnode : Handle
  deriving DecidableEq, Repr

namespace MsgInfo

def held (info : MsgInfo) : Nat := info.rootnode.held + info.rpcnode.held

def release (info : MsgInfo) : MsgInfo := ⟨info.rootnode.release, info.rpcnode.release⟩

end MsgInfo

def nconfMsgdecDeinitMsginfo (_ : MsgInfo) : MsgInfo := ⟨.null, .null⟩

/-- A reply to a request: nothing is sent without the node of the request or without a text.
There is no result when the node has been released. -/
def sendRpcReply (session : Session) (rootnode : Handle) (rpcReply : Option Encoded) :
    Option (Session × Bool) :=
  match rootnode, rpcReply with
  | .null, _ => some (session, false)
  | .released, _ => none
  | .live, none => some (session, false)
  | .live, some text => some (nconfMsghdlrSendChunkedFrame session text true)

def nconfMsghdlrSendOkRpcReply (session : Session) (rootnode : Handle) (encoder : Encoder) :
    Option (Session × Bool) :=
  sendRpcReply session rootnode encoder.ok

def nconfMsghdlrSendRpcError (session : Session) (rootnode : Handle) (encoder : Encoder)
    (errargs : RpcErrorArgs) : Option (Session × Bool) :=
  sendRpcReply session rootnode (encoder.error errargs)

def sendRpcResult (session : Session) (rootnode : Handle) (encoder : Encoder) (ret : RpcErrorTag)
    (errargs : RpcErrorTag → RpcErrorArgs) : Option (Session × Bool) :=
  if ret = .noError then nconfMsghdlrSendOkRpcReply session rootnode encoder
  else nconfMsghdlrSendRpcError session rootnode encoder (errargs ret)

/-- `dummy`. -/
def dummyText : List UInt8 := [100, 117, 109, 109, 121]

/-- `</data>`. -/
def dataEnd : List UInt8 := [60, 47, 100, 97, 116, 97, 62]

/-- The reply with `<data>dummy</data>` in it. -/
structure DataReply where
  front : List UInt8
  back : List UInt8
  start : front.head? = some 60

def DataReply.text (reply : DataReply) : List UInt8 :=
  reply.front ++ dummyText ++ dataEnd ++ reply.back

/-- The parts that `nconf_msghdlr_send_db_data` sends. -/
def sendParts (session : Session) (parts : List (List UInt8)) : Session :=
  parts.foldl (fun session part => (nconfMsghdlrSendChunkedFrame session part false).1) session

def sendFooter (session : Session) (temp : List UInt8) : Session :=
  match firstAt dataEnd temp with
  | none => session
  | some tag => (nconfMsghdlrSendChunkedFrame session (temp.drop tag) true).1

def sendDataReply (session : Session) (reply : DataReply) (parts : List (List UInt8)) : Session :=
  let temp := (firstAt dummyText reply.text).getD 0
  let header := nconfMsghdlrSendChunkedFrame session (reply.text.take temp) false
  if header.2 then sendFooter (sendParts header.1 parts) (reply.text.drop temp)
  else header.1.nconfTransportDisconnectClient

/-- The loop of `nconf_msghdlr_send_get_schema_resp` over what is read from the file. -/
def sendFile (session : Session) : List Encoded → Session × Bool
  | [] => (session, true)
  | sndbuf :: rest =>
    let sent := nconfMsghdlrSendChunkedFrame session sndbuf false
    if sent.2 then sendFile sent.1 rest else sent

/-- `nconf_msghdlr_send_get_schema_resp`, with a buffer to read the file in or without. -/
def nconfMsghdlrSendGetSchemaResp (session : Session) (reply : DataReply)
    (file : Option (List Encoded)) : Session :=
  match firstAt (dummyText ++ dataEnd) reply.text with
  | none => session
  | some temp =>
    let header := nconfMsghdlrSendChunkedFrame session (reply.text.take temp) false
    if header.2 then
      match file with
      | none => header.1
      | some sndbufs =>
        let body := sendFile header.1 sndbufs
        if body.2 then sendFooter body.1 (reply.text.drop temp) else body.1
    else header.1

/-- What a get or get-config request comes to: no filter, no reply (with handles that are left
behind), or a reply with the parts of the data. -/
inductive GetOutcome where
  | refused (encoder : Encoder)
  | unencoded (encoder : Encoder) (left : Nat)
  | reply (text : DataReply) (parts : List (List UInt8))

structure EditOutcome where
  request : EditRequest
  encoder : Encoder

structure KillOutcome where
  sessidStr : Option (List UInt8)
  encoder : Encoder

/-- What a get-schema request comes to: no schema, no reply, or a reply and the schema, if there
is a buffer to read it in. -/
inductive SchemaOutcome where
  | refused (encoder : Encoder)
  | unencoded
  | reply (text : DataReply) (file : Option (List Encoded))

/-- An rpc message. What it comes to may depend on the number of node handles that are free. -/
inductive Rpc where
  | get (outcome : Nat → GetOutcome)
  | getConfig (outcome : Nat → GetOutcome)
  | editConfig (outcome : Nat → EditOutcome)
  | deleteConfig
  | lock
  | unlock
  | closeSession (encoder : Nat → Encoder)
  | killSession (outcome : Nat → KillOutcome)
  | getSchema (outcome : Nat → SchemaOutcome)
  | unsupported

structure HelloOutcome where
  searchHandle : Bool
  capability : Bool
  sessionId : Bool
  deriving DecidableEq, Repr

inductive Message where
  | hello (outcome : HelloOutcome)
  | rpc (rpc : Rpc)
  | rpcReply
  | closeSession
  | unknown

/-- What a handler leaves: the session, the handles of its message, the number of handles that it
leaves behind in the pool, whether it has released all handles, and whether the client is to be
disconnected in the end. -/
structure Handled where
  session : Session
  info : MsgInfo
  stray : Nat := 0
  releasedAll : Bool := false
  disconnect : Bool := false

namespace Handled

/-- `XMLUTILS_NODE_RELEASE_ALL_INST` at the end of a handler. -/
def released (session : Session) (info : MsgInfo) : Handled :=
  { session, info := info.release, releasedAll := true }

end Handled

def procGetData (session : Session) (free : Nat) (info : MsgInfo) (outcome : GetOutcome) :
    Option Handled :=
  match info.rootnode, outcome with
  | .null, _ => some { session, info }
  | .released, _ => none
  | .live, .refused encoder =>
    (nconfMsghdlrSendRpcError session info.rootnode encoder ⟨.malformedMessage, .rpc, none⟩).map
      fun sent => { session := sent.1, info }
  | .live, .unencoded encoder left =>
    let info := nconfMsgdecDeinitMsginfo info
    (nconfMsghdlrSendRpcError session info.rootnode encoder ⟨.operationFailed, .rpc, none⟩).map
      fun sent => { session := sent.1, info, stray := min left free }
  | .live, .reply text parts =>
    some (.released (sendDataReply session text parts) (nconfMsgdecDeinitMsginfo info))

def nconfMsghdlrRpcMsgProcGet (session : Session) (free : Nat) (info : MsgInfo)
    (outcome : GetOutcome) : Option Handled :=
  procGetData session free info outcome

def nconfMsghdlrRpcMsgProcGetConfig (session : Session) (free : Nat) (info : MsgInfo)
    (outcome : GetOutcome) : Option Handled :=
  procGetData session free info outcome

/-- `config`. -/
def configText : List UInt8 := [99, 111, 110, 102, 105, 103]

def editErrorArgs (tag : RpcErrorTag) : RpcErrorArgs :=
  match tag with
  | .dataMissing => ⟨tag, .application, none⟩
  | .dataExists => ⟨tag, .application, none⟩
  | .missingElement => ⟨tag, .protocol, some configText⟩
  | _ => ⟨tag, .rpc, none⟩

/-- `nconf_msghdlr_rpc_msg_proc_edit_config`, from the result of the request on. -/
def procEditConfig (session : Session) (info : MsgInfo) (outcome : EditOutcome) :
    Option Handled :=
  match info.rpcnode with
  | .null => some { session, info }
  | .released => none
  | .live => do
    let done ← nconfMsghdlrRpcMsgProcEditConfig outcome.request
    let session := { session with puts := session.puts ++ done.2 }
    let sent ← sendRpcResult session info.rootnode outcome.encoder done.1 editErrorArgs
    some (.released sent.1 info)

def nconfMsghdlrRpcMsgProcCloseSession (session : Session) (info : MsgInfo) (encoder : Encoder) :
    Option Handled :=
  (nconfMsghdlrSendOkRpcReply session info.rootnode encoder).map fun sent =>
    .released (if sent.2 then sent.1.nconfTransportDisconnectClient else sent.1) info

/-- The session that a kill-session request is about: a `long` is put into 32 bits. -/
def targetSessId : Option (List UInt8) → Nat
  | none => 0
  | some sessidStr =>
    let value := strtol 0 sessidStr
    if value.2 = sessidStr then 0 else (value.1 % 2 ^ 32).toNat

def killResult (session : Session) (sessidStr : Option (List UInt8)) :
    Option (Session × RpcErrorTag) :=
  let target := targetSessId sessidStr
  if 0 < target then
    if session.nconfTransportGetClientSessid ≠ target then nconfTransportKillSession session target
    else some (session, .invalidValue)
  else some (session, .invalidValue)

def killErrorArgs (tag : RpcErrorTag) : RpcErrorArgs :=
  match tag with
  | .invalidValue => ⟨tag, .application, none⟩
  | .malformedMessage => ⟨tag, .rpc, none⟩
  | _ => ⟨tag, .protocol, none⟩

def nconfMsghdlrRpcMsgProcKillSession (session : Session) (info : MsgInfo)
    (outcome : KillOutcome) : Option Handled := do
  let done ← killResult session outcome.sessidStr
  let sent ← sendRpcResult done.1 info.rootnode outcome.encoder done.2 killErrorArgs
  some (.released sent.1 info)

/-- `nconf_msghdlr_rpc_msg_proc_get_schema`. Without a reply the handles have been released when
the error is reported. -/
def nconfMsghdlrRpcMsgProcGetSchema (session : Session) (info : MsgInfo)
    (outcome : SchemaOutcome) : Option Handled :=
  match info.rpcnode, outcome with
  | .live, .refused encoder =>
    (nconfMsghdlrSendRpcError session info.rootnode encoder ⟨.invalidValue, .application, none⟩).map
      fun sent => { session := sent.1, info }
  | .live, .unencoded => none
  | .live, .reply text file =>
    some (.released (nconfMsghdlrSendGetSchemaResp session text file) info)
  | _, _ => none

/-- `nconf_msghdlr_rpc_msg_proc`. An operation that is not supported is looked up again, and the
handle to its node is replaced; without a free handle there is no node to take the name of. -/
def nconfMsghdlrRpcMsgProc (session : Session) (free : Nat) (info : MsgInfo) (rpc : Rpc) :
    Option Handled :=
  match rpc with
  | .get outcome => nconfMsghdlrRpcMsgProcGet session free info (outcome free)
  | .getConfig outcome => nconfMsghdlrRpcMsgProcGetConfig session free info (outcome free)
  | .editConfig outcome => procEditConfig session info (outcome free)
  | .deleteConfig => some { session, info }
  | .lock => some { session, info }
  | .unlock => some { session, info }
  | .closeSession encoder => nconfMsghdlrRpcMsgProcCloseSession session info (encoder free)
  | .killSession outcome => nconfMsghdlrRpcMsgProcKillSession session info (outcome free)
  | .getSchema outcome => nconfMsghdlrRpcMsgProcGetSchema session info (outcome free)
  | .unsupported =>
    if info.rootnode = .live ∧ 0 < free then
      some { session, info := { info with rpcnode := .live }, stray := info.rpcnode.held }
    else none

def nconfMsghdlrHelloMsgProc (session : Session) (outcome : HelloOutcome) : Session :=
  if outcome.searchHandle && (!outcome.capability || outcome.sessionId) then
    session.nconfTransportDisconnectClient
  else session

/-- A turn of the loop of `nconf_msghdlr_client_msg_proc`. A message of no known type is looked
up again. -/
def handleMessage (session : Session) (free : Nat) (info : MsgInfo) :
    Message → Option Handled
  | .hello outcome => some { session := nconfMsghdlrHelloMsgProc session outcome, info }
  | .rpc rpc => nconfMsghdlrRpcMsgProc session free info rpc
  | .closeSession => some { session, info }
  | .rpcReply => some { session, info, disconnect := true }
  | .unknown => if info.rootnode = .live then some { session, info, disconnect := true } else none

def Message.info : Message → MsgInfo
  | .rpc _ => ⟨.live, .live⟩
  | _ => ⟨.live, .null⟩

/-- `nconf_msgdec_parse_client_msg` on messages that are well formed, as far as there is room for
messages, when so many handles are taken: the messages that are decoded. There is no result when
an rpc message finds no handle for its operation. -/
def decodeMessages : Nat → Nat → List Message → Option (List Message)
  | 0, _, _ => some []
  | _ + 1, _, [] => some []
  | room + 1, taken, message :: rest =>
    if nconfMaxNodeptrNum ≤ taken then some []
    else if nconfMaxNodeptrNum < taken + message.info.held then none
    else (decodeMessages room (taken + message.info.held) rest).map (message :: ·)

/-- The state between two messages of a buffer: `held` counts the live handles of the messages
before, and `gone` tells that all handles have been released at some time. -/
structure LoopState where
  session : Session
  stray : Nat
  held : Nat
  gone : Bool
  disconnect : Bool
  deriving DecidableEq, Repr

def LoopState.infoOf (state : LoopState) (message : Message) : MsgInfo :=
  if state.gone then message.info.release else message.info

def LoopState.free (state : LoopState) (messages : List Message) : Nat :=
  nconfMaxNodeptrNum -
    (state.stray + state.held + (messages.map fun message => (state.infoOf message).held).sum)

def LoopState.next (state : LoopState) (handled : Handled) : LoopState where
  session := handled.session
  stray := if handled.releasedAll then 0 else state.stray + handled.stray
  held := if handled.releasedAll then 0 else state.held + handled.info.held
  gone := state.gone || handled.releasedAll
  disconnect := state.disconnect || handled.disconnect

/-- The loop of `nconf_msghdlr_client_msg_proc`. -/
def clientLoop (state : LoopState) : List Message → Option LoopState
  | [] => some state
  | message :: rest =>
    match handleMessage state.session (state.free (message :: rest)) (state.infoOf message)
      message with
    | none => none
    | some handled => clientLoop (state.next handled) rest

/-- The session of a client and the number of node handles that messages before have left. -/
structure Server where
  session : Session
  stray : Nat
  deriving DecidableEq, Repr

def Server.start (server : Server) : LoopState where
  session := server.session
  stray := server.stray
  held := 0
  gone := false
  disconnect := false

/-- `nconf_msghdlr_client_msg_proc` on the messages of a buffer. -/
def nconfMsghdlrClientMsgProc (server : Server) (buffer : List Message) : Option Server := do
  let messages ← decodeMessages nconfMaxMessageDecode server.stray buffer
  if messages = [] then
    some { server with session := server.session.nconfTransportDisconnectClient }
  else
    let final ← clientLoop server.start messages
    some {
      session :=
        if final.disconnect then final.session.nconfTransportDisconnectClient else final.session
      stray := final.stray }

/-- `nconf_msghdlr_proc` on a buffer of a client. -/
def nconfMsghdlrProc (server : Server) (buffer : List Message) : Option Server :=
  if server.session.connected then nconfMsghdlrClientMsgProc server buffer else some server

def handleBuffers (server : Server) (buffers : List (List Message)) : Option Server :=
  buffers.foldlM nconfMsghdlrProc server

end EnetTsn.Netconf
