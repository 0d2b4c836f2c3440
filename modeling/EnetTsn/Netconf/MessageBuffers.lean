import EnetTsn.Netconf.MessageReplies

namespace EnetTsn.Netconf

open EnetTsn.Library

def Rpc.Releases (free : Nat) : Rpc → Prop
  | .get outcome => ∃ text parts, outcome free = .reply text parts
  | .getConfig outcome => ∃ text parts, outcome free = .reply text parts
  | .editConfig _ => True
  | .closeSession _ => True
  | .killSession _ => True
  | .getSchema outcome => ∃ text file, outcome free = .reply text file
  | _ => False

def Message.Releases (free : Nat) : Message → Prop
  | .rpc request => request.Releases free
  | _ => False

def Message.Disconnects : Message → Prop
  | .hello outcome =>
    (outcome.searchHandle && (!outcome.capability || outcome.sessionId)) = true
  | .rpcReply => True
  | .unknown => True
  | _ => False

def GetOutcome.Fits (free : Nat) : GetOutcome → Prop
  | .unencoded _ left => left ≤ free
  | _ => True

def Rpc.Steady (free : Nat) : Rpc → Prop
  | .get outcome => (∀ more, free ≤ more → outcome more = outcome free) ∧ (outcome free).Fits free
  | .getConfig outcome =>
    (∀ more, free ≤ more → outcome more = outcome free) ∧ (outcome free).Fits free
  | .editConfig outcome => ∀ more, free ≤ more → outcome more = outcome free
  | .closeSession encoder => ∀ more, free ≤ more → encoder more = encoder free
  | .killSession outcome => ∀ more, free ≤ more → outcome more = outcome free
  | .getSchema outcome => ∀ more, free ≤ more → outcome more = outcome free
  | .unsupported => 0 < free
  | _ => True

def Message.Steady (free : Nat) : Message → Prop
  | .rpc request => request.Steady free
  | _ => True

/-- No message but the last releases all handles or ends the session, and each comes to the same
with more free handles. -/
def Independent (state : LoopState) : List Message → Prop
  | [] => True
  | message :: rest =>
    message.Steady (state.free (message :: rest)) ∧
      (rest ≠ [] → ¬ message.Releases (state.free (message :: rest)) ∧ ¬ message.Disconnects) ∧
      ∀ handled, handleMessage state.session (state.free (message :: rest))
        (state.infoOf message) message = some handled → Independent (state.next handled) rest

def KeepsHandles (state : LoopState) : List Message → Prop
  | [] => True
  | message :: rest =>
    ∀ handled, handleMessage state.session (state.free (message :: rest))
      (state.infoOf message) message = some handled →
        (rest ≠ [] → handled.releasedAll = false) ∧ KeepsHandles (state.next handled) rest

def EarlierKeep (state : LoopState) : List Message → Prop
  | [] => True
  | message :: rest =>
    ∀ handled, handleMessage state.session (state.free (message :: rest))
      (state.infoOf message) message = some handled →
        (rest ≠ [] → ¬ message.Releases (state.free (message :: rest))) ∧
          EarlierKeep (state.next handled) rest

/-- A buffer is handled as its messages are, one by one, in buffers of their own: with the same
replies, changes of the database and connections, and with the handles of each message kept until
its turn. -/
structure AsSingles (server : Server) (buffer : List Message) : Prop where
  same : (nconfMsghdlrProc server buffer).map Server.session =
    (handleBuffers server (buffer.map fun message => [message])).map Server.session
  kept : server.session.connected = true → KeepsHandles server.start buffer

structure IndependentBuffer (server : Server) (buffer : List Message) : Prop where
  some_ : buffer ≠ []
  few : buffer.length ≤ nconfMaxMessageDecode
  room : server.stray + (buffer.map fun message => message.info.held).sum ≤ nconfMaxNodeptrNum
  each : Independent server.start buffer

section Handlers

variable {session : Session} {free more : Nat} {info : MsgInfo} {message : Message}
  {handled : Handled}

theorem procGetData_steady (fits : outcome.Fits free) (larger : free ≤ more) :
    procGetData session more info outcome = procGetData session free info outcome := by
  obtain ⟨rootnode, rpcnode⟩ := info
  cases rootnode with
  | live =>
    cases outcome with
    | unencoded encoder left =>
      have same : min left more = min left free := by
        rw [Nat.min_eq_left fits, Nat.min_eq_left (Nat.le_trans fits larger)]
      simp only [procGetData, same]
    | refused encoder => rfl
    | reply text parts => rfl
  | null => cases outcome <;> rfl
  | released => cases outcome <;> rfl

theorem handleMessage_steady (steady : message.Steady free) (larger : free ≤ more) :
    handleMessage session more info message = handleMessage session free info message := by
  cases message with
  | rpc rpc =>
    rw [handleMessage, handleMessage]
    cases rpc with
    | get outcome =>
      rw [nconfMsghdlrRpcMsgProc, nconfMsghdlrRpcMsgProc, steady.1 more larger]
      exact procGetData_steady steady.2 larger
    | getConfig outcome =>
      rw [nconfMsghdlrRpcMsgProc, nconfMsghdlrRpcMsgProc, steady.1 more larger]
      exact procGetData_steady steady.2 larger
    | unsupported =>
      have some_ : 0 < free := steady
      have some_' : 0 < more := Nat.lt_of_lt_of_le some_ larger
      rw [nconfMsghdlrRpcMsgProc, nconfMsghdlrRpcMsgProc]
      simp only [some_, some_', and_true]
    | deleteConfig => rfl
    | lock => rfl
    | unlock => rfl
    | editConfig outcome =>
      rw [nconfMsghdlrRpcMsgProc, nconfMsghdlrRpcMsgProc, steady more larger]
    | closeSession encoder =>
      rw [nconfMsghdlrRpcMsgProc, nconfMsghdlrRpcMsgProc, steady more larger]
    | killSession outcome =>
      rw [nconfMsghdlrRpcMsgProc, nconfMsghdlrRpcMsgProc, steady more larger]
    | getSchema outcome =>
      rw [nconfMsghdlrRpcMsgProc, nconfMsghdlrRpcMsgProc, steady more larger]
  | _ => rfl

theorem sendRpcReply_some (done : sendRpcReply session .live encoded = some sent)
    (connected : session.connected = true) : sent.1.connected = true := by
  cases encoded with
  | none =>
    cases done
    exact connected
  | some text =>
    have some_ : (some text).isSome = true := rfl
    obtain ⟨reply, whole, here⟩ := sendRpcReply_connected connected some_
    rw [here] at done
    cases done
    exact connected

theorem procGetData_leaves (done : procGetData session free rpcInfo outcome = some handled) :
    (handled.releasedAll = true ↔ ∃ text parts, outcome = .reply text parts) ∧
      (handled.releasedAll = false → session.connected = true →
        handled.session.connected = true ∧ handled.disconnect = false ∧
          handled.stray + handled.info.held ≤ rpcInfo.held + free) := by
  cases outcome with
  | refused encoder =>
    obtain ⟨sent, here, rfl⟩ := Option.map_eq_some_iff.mp done
    refine ⟨by simp, fun _ connected => ⟨sendRpcReply_some here connected, rfl, ?_⟩⟩
    exact Nat.le_trans (Nat.le_of_eq (Nat.zero_add _)) (Nat.le_add_right _ _)
  | unencoded encoder left =>
    cases done
    refine ⟨by simp, fun _ connected => ⟨connected, rfl, ?_⟩⟩
    exact Nat.le_trans (Nat.min_le_right left free) (Nat.le_add_left _ _)
  | reply text parts =>
    cases done
    exact ⟨⟨fun _ => ⟨text, parts, rfl⟩, fun _ => rfl⟩, fun kept => Bool.noConfusion kept⟩

theorem procGetSchema_leaves
    (done : nconfMsghdlrRpcMsgProcGetSchema session rpcInfo outcome = some handled) :
    (handled.releasedAll = true ↔ ∃ text file, outcome = .reply text file) ∧
      (handled.releasedAll = false → session.connected = true →
        handled.session.connected = true ∧ handled.disconnect = false ∧
          handled.stray + handled.info.held ≤ rpcInfo.held + free) := by
  cases outcome with
  | refused encoder =>
    obtain ⟨sent, here, rfl⟩ := Option.map_eq_some_iff.mp done
    refine ⟨by simp, fun _ connected => ⟨sendRpcReply_some here connected, rfl, ?_⟩⟩
    exact Nat.le_trans (Nat.le_of_eq (Nat.zero_add _)) (Nat.le_add_right _ _)
  | unencoded => cases done
  | reply text file =>
    cases done
    exact ⟨⟨fun _ => ⟨text, file, rfl⟩, fun _ => rfl⟩, fun kept => Bool.noConfusion kept⟩

theorem handleMessage_leaves
    (done : handleMessage session free message.info message = some handled) :
    (handled.releasedAll = true ↔ message.Releases free) ∧
      (handled.releasedAll = false → ¬ message.Disconnects → session.connected = true →
        handled.session.connected = true ∧ handled.disconnect = false ∧
          handled.stray + handled.info.held ≤ message.info.held + free) := by
  cases message with
  | hello outcome =>
    cases done
    refine ⟨by simp [Message.Releases], fun _ stays connected => ⟨?_, rfl, by simp⟩⟩
    have stays' : ¬ (outcome.searchHandle && (!outcome.capability || outcome.sessionId)) = true :=
      stays
    rw [nconfMsghdlrHelloMsgProc, if_neg stays']
    exact connected
  | rpcReply =>
    cases done
    exact ⟨by simp [Message.Releases], fun _ stays => absurd trivial stays⟩
  | closeSession =>
    cases done
    exact ⟨by simp [Message.Releases], fun _ _ connected => ⟨connected, rfl, by simp⟩⟩
  | unknown =>
    cases done
    exact ⟨by simp [Message.Releases], fun _ stays => absurd trivial stays⟩
  | rpc request =>
    cases request with
    | get outcome =>
      obtain ⟨released, leaves⟩ := procGetData_leaves done
      exact ⟨released, fun kept _ => leaves kept⟩
    | getConfig outcome =>
      obtain ⟨released, leaves⟩ := procGetData_leaves done
      exact ⟨released, fun kept _ => leaves kept⟩
    | editConfig outcome =>
      obtain ⟨made, _, rest⟩ := Option.bind_eq_some_iff.mp done
      obtain ⟨sent, _, last⟩ := Option.bind_eq_some_iff.mp rest
      cases last
      exact ⟨⟨fun _ => trivial, fun _ => rfl⟩, fun kept => Bool.noConfusion kept⟩
    | deleteConfig =>
      cases done
      exact ⟨by simp [Message.Releases, Rpc.Releases],
        fun _ _ connected => ⟨connected, rfl, by simp⟩⟩
    | lock =>
      cases done
      exact ⟨by simp [Message.Releases, Rpc.Releases],
        fun _ _ connected => ⟨connected, rfl, by simp⟩⟩
    | unlock =>
      cases done
      exact ⟨by simp [Message.Releases, Rpc.Releases],
        fun _ _ connected => ⟨connected, rfl, by simp⟩⟩
    | closeSession encoder =>
      obtain ⟨sent, _, rfl⟩ := Option.map_eq_some_iff.mp done
      exact ⟨⟨fun _ => trivial, fun _ => rfl⟩, fun kept => Bool.noConfusion kept⟩
    | killSession outcome =>
      obtain ⟨made, _, rest⟩ := Option.bind_eq_some_iff.mp done
      obtain ⟨sent, _, last⟩ := Option.bind_eq_some_iff.mp rest
      cases last
      exact ⟨⟨fun _ => trivial, fun _ => rfl⟩, fun kept => Bool.noConfusion kept⟩
    | getSchema outcome =>
      obtain ⟨released, leaves⟩ := procGetSchema_leaves done
      exact ⟨released, fun kept _ => leaves kept⟩
    | unsupported =>
      obtain ⟨⟨_, some_⟩, same⟩ := Option.ite_none_right_eq_some.mp done
      cases same
      refine ⟨by simp [Message.Releases, Rpc.Releases], fun _ _ connected => ⟨connected, rfl, ?_⟩⟩
      exact Nat.add_comm _ _ ▸ Nat.add_le_add_left some_ _

end Handlers

section Buffers

variable {server : Server} {buffer : List Message} {free : Nat}

def LoopState.finish (state : LoopState) : Session :=
  if state.disconnect then state.session.nconfTransportDisconnectClient else state.session

theorem clientMsgProc_decoded (connected : server.session.connected = true) (some_ : buffer ≠ [])
    (few : buffer.length ≤ nconfMaxMessageDecode)
    (room : server.stray + (buffer.map fun message => message.info.held).sum ≤ nconfMaxNodeptrNum) :
    nconfMsghdlrProc server buffer =
      (clientLoop server.start buffer).map fun final => ⟨final.finish, final.stray⟩ := by
  have decoded := decodeMessages_all nconfMaxMessageDecode server.stray buffer few room
  rw [nconfMsghdlrProc, if_pos connected, nconfMsghdlrClientMsgProc, decoded]
  simp only [Option.bind_eq_bind, Option.bind_some, if_neg some_]
  cases clientLoop server.start buffer <;> rfl

theorem single_handled (server : Server) (connected : server.session.connected = true)
    (room : server.stray + message.info.held ≤ nconfMaxNodeptrNum) (steady : message.Steady free)
    (less : free ≤ nconfMaxNodeptrNum - (server.stray + message.info.held)) :
    nconfMsghdlrProc server [message] =
      (handleMessage server.session free message.info message).map fun handled =>
        ⟨(server.start.next handled).finish, (server.start.next handled).stray⟩ := by
  have alone : server.start.free [message] =
      nconfMaxNodeptrNum - (server.stray + message.info.held) := rfl
  have info : server.start.infoOf message = message.info := rfl
  have session : server.start.session = server.session := rfl
  have decoded := clientMsgProc_decoded connected (List.cons_ne_nil message [])
    (Nat.le_add_left 1 2) room
  rw [decoded, clientLoop, alone, info, session, handleMessage_steady steady less]
  cases handleMessage server.session free message.info message <;> rfl

theorem clientLoop_singles (state : LoopState) (messages : List Message)
    (connected : state.session.connected = true) (kept : state.gone = false)
    (going : state.disconnect = false)
    (room : state.stray + state.held + (messages.map fun message => message.info.held).sum ≤
      nconfMaxNodeptrNum) (independent : Independent state messages) :
    (clientLoop state messages).map LoopState.finish = (handleBuffers ⟨state.session, state.stray⟩
          (messages.map fun message => [message])).map Server.session ∧
      KeepsHandles state messages := by
  induction messages generalizing state with
  | nil =>
    refine ⟨?_, trivial⟩
    rw [clientLoop, Option.map_some, LoopState.finish, going]
    rfl
  | cons message rest ih =>
    obtain ⟨steady, earlier, later⟩ := independent
    have info (message : Message) : state.infoOf message = message.info := by
      rw [LoopState.infoOf, kept]
      rfl
    have here : state.free (message :: rest) = nconfMaxNodeptrNum - (state.stray + state.held +
        (message.info.held + (rest.map fun message => message.info.held).sum)) := by
      rw [LoopState.free]
      simp only [info, List.map_cons, List.sum_cons]
    rw [List.map_cons, List.sum_cons] at room
    have alone := single_handled ⟨state.session, state.stray⟩ connected
      (by dsimp only; omega) steady (by dsimp only; omega)
    rw [handleBuffers, List.map_cons, List.foldlM_cons, alone, clientLoop, info]
    rw [info] at later
    cases done : handleMessage state.session (state.free (message :: rest)) message.info message with
    | none =>
      refine ⟨rfl, fun handled same => ?_⟩
      rw [info, done] at same
      cases same
    | some handled =>
      obtain ⟨released, leaves⟩ := handleMessage_leaves done
      have alone' : ((Server.mk state.session state.stray).start.next handled).finish =
          (state.next handled).finish := by
        simp only [LoopState.finish, LoopState.next, Server.start, going]
        rfl
      cases rest with
      | nil =>
        refine ⟨?_, fun other same => ⟨fun filled => absurd rfl filled, trivial⟩⟩
        exact congrArg some alone'.symm
      | cons second rest =>
        obtain ⟨unreleased, stays⟩ := earlier (List.cons_ne_nil _ _)
        have held := eq_false_of_ne_true (mt released.mp unreleased)
        obtain ⟨connected', going', room'⟩ := leaves held stays connected
        have finished : (state.next handled).finish = handled.session := by
          simp only [LoopState.finish, LoopState.next, going, going', Bool.or_self,
            Bool.false_eq_true, if_false]
        have stray : (state.next handled).stray = state.stray + handled.stray := by
          simp only [LoopState.next, held, Bool.false_eq_true, if_false]
        have own : (state.next handled).held = state.held + handled.info.held := by
          simp only [LoopState.next, held, Bool.false_eq_true, if_false]
        obtain ⟨same, keeps⟩ := ih (state.next handled) connected'
          (by simp only [LoopState.next, kept, held, Bool.or_self])
          (by simp only [LoopState.next, going, going', Bool.or_self])
          (by rw [stray, own]; omega) (later handled done)
        refine ⟨?_, fun other equal => ?_⟩
        · rw [stray] at same
          have start : ((Server.mk state.session state.stray).start.next handled).stray =
              state.stray + handled.stray := by
            simp only [LoopState.next, Server.start, held, Bool.false_eq_true, if_false]
          rw [Option.map_some, alone', finished, start]
          exact same
        · rw [info, done] at equal
          cases equal
          exact ⟨fun _ => held, keeps⟩

theorem earlierKeep_of_keepsHandles (state : LoopState) (messages : List Message)
    (kept : state.gone = false) (keeps : KeepsHandles state messages) :
    EarlierKeep state messages := by
  induction messages generalizing state with
  | nil => trivial
  | cons message rest ih =>
    intro handled done
    obtain ⟨earlier, later⟩ := keeps handled done
    cases rest with
    | nil => exact ⟨fun filled => absurd rfl filled, trivial⟩
    | cons second rest =>
      have held := earlier (List.cons_ne_nil _ _)
      refine ⟨fun _ releases => ?_, ih _ (by simp only [LoopState.next, kept, held, Bool.or_self])
        later⟩
      rw [LoopState.infoOf, kept, if_neg (by decide)] at done
      have gone := (handleMessage_leaves done).1.mpr releases
      rw [held] at gone
      cases gone

/-- A buffer of independent messages is handled as its messages are one by one. No buffer is in
which a message but the last releases all handles. -/
theorem buffer_as_singles (server : Server) (buffer : List Message) :
    (IndependentBuffer server buffer → AsSingles server buffer) ∧
      (AsSingles server buffer → server.session.connected = true →
        EarlierKeep server.start buffer) := by
  refine ⟨fun independent => ?_, fun singles connected =>
    earlierKeep_of_keepsHandles server.start buffer rfl (singles.kept connected)⟩
  cases connected : server.session.connected with
  | false =>
    refine ⟨?_, fun other => ?_⟩
    · rw [handleBuffers_disconnected connected, nconfMsghdlrProc, if_neg (by simp [connected])]
    · rw [connected] at other
      cases other
  | true =>
    have start : server.start.stray + server.start.held +
        (buffer.map fun message => message.info.held).sum ≤ nconfMaxNodeptrNum := independent.room
    obtain ⟨same, keeps⟩ := clientLoop_singles server.start buffer connected rfl rfl start
      independent.each
    refine ⟨?_, fun _ => keeps⟩
    rw [clientMsgProc_decoded connected independent.some_ independent.few independent.room,
      Option.map_map]
    exact same

/-- A hello message and a close-session request in one buffer. -/
theorem buffer_as_singles_hello : AsSingles ⟨⟨1, [some 1], [], []⟩, 0⟩ [.hello ⟨true, true, false⟩,
        .rpc (.closeSession fun _ => ⟨some ⟨[60], by decide⟩, fun _ => none⟩)] := by
  apply (buffer_as_singles _ _).1
  refine ⟨List.cons_ne_nil _ _, by simp [nconfMaxMessageDecode], by decide, ?_⟩
  refine ⟨trivial, fun _ => ⟨id, by simp [Message.Disconnects]⟩, fun handled _ => ?_⟩
  exact ⟨fun _ _ => rfl, fun filled => absurd rfl filled, fun _ _ => trivial⟩

/-- Two get requests in one buffer: the first releases the node of the second. -/
theorem second_get_released : nconfMsghdlrProc ⟨⟨1, [some 1], [], []⟩, 0⟩
        [.rpc (.get fun _ => .reply ⟨[60], [], rfl⟩ []),
          .rpc (.get fun _ => .reply ⟨[60], [], rfl⟩ [])] = none ∧
      ¬ AsSingles ⟨⟨1, [some 1], [], []⟩, 0⟩ [.rpc (.get fun _ => .reply ⟨[60], [], rfl⟩ []),
          .rpc (.get fun _ => .reply ⟨[60], [], rfl⟩ [])] := by
  have left : nconfMsghdlrProc ⟨⟨1, [some 1], [], []⟩, 0⟩
      [.rpc (.get fun _ => .reply ⟨[60], [], rfl⟩ []),
        .rpc (.get fun _ => .reply ⟨[60], [], rfl⟩ [])] = none := by
    decide +kernel
  have alone : (handleBuffers ⟨⟨1, [some 1], [], []⟩, 0⟩
      [[.rpc (.get fun _ => .reply ⟨[60], [], rfl⟩ [])],
        [.rpc (.get fun _ => .reply ⟨[60], [], rfl⟩ [])]]).isSome = true := by
    decide +kernel
  refine ⟨left, fun singles => ?_⟩
  have same := congrArg Option.isSome singles.same
  exact absurd (same.trans alone) (by decide)

end Buffers

end EnetTsn.Netconf
