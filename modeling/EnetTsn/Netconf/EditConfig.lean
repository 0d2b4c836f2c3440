import Mathlib.Algebra.Ring.Nat
import Mathlib.Data.List.Basic

/-!
Edit-config requests. The modules of a request are listed with their edits, then all listed
edits are validated, and only then they are written to the database one after another. Each
edit comes with the answers that the database gives for it.
-/

namespace EnetTsn.Netconf

/-- `NCONF_RPC_ERROR_TAG_*`, those that an edit-config request comes to. -/
inductive RpcErrorTag where
  | noError
  | invalidValue
  | missingElement
  | dataExists
  | dataMissing
  | operationFailed
  | malformedMessage
  deriving DecidableEq, Repr

/-- An entry of `nconf_treeinfo_t`, whose path may end with `&` and an operation. `readret` is
what `nconf_ucclient_exec_config_read` returns for the path without its operation, `put` is the
result of `yang_db_runtime_put_oneline`, and `askaction` the one of
`yang_db_runtime_askaction`. -/
structure ConfigEdit where
  nodepath : List UInt8
  nodevalue : Option (List UInt8)
  readret : Int
  put : Int
  askaction : Int
  deriving DecidableEq, Repr

/-- The edits of a module; none if `nconf_xmlutils_generate_tree_info` fails. -/
abbrev ConfigModule := Option (List ConfigEdit)

/-- An edit-config request: the nodes in its `<target>` nodes, the modules of its `<config>`
node, and what `ydbi_request_savedb` returns in the end. -/
structure EditRequest where
  targets : List (Option (List UInt8))
  config : Option (List ConfigModule)
  savedb : Int
  deriving DecidableEq, Repr

/-- A write to the database, with the result that the write and the notice of it give. -/
structure DbPut where
  nodepath : List UInt8
  value : Option (List UInt8)
  res : Int
  deriving DecidableEq, Repr

def nconfInitialSubtreeCount : UInt8 := 2

/-- `create`, `delete`, `remove` and `running`. -/
def createText : List UInt8 := [99, 114, 101, 97, 116, 101]

def deleteText : List UInt8 := [100, 101, 108, 101, 116, 101]

def removeText : List UInt8 := [114, 101, 109, 111, 118, 101]

def runningText : List UInt8 := [114, 117, 110, 110, 105, 110, 103]

/-- `-`, which asks uniconf to delete a node. -/
def deleteMark : UInt8 := 45

/-- The entries of a `nconf_treeinfo_t`: their number is kept in eight bits. -/
def treeInfo (edits : List ConfigEdit) : List ConfigEdit := edits.take (edits.length % 256)

/-- The loop of `nconf_msghdlr_get_update_list`. The number of entries that there is room for is
doubled in eight bits; an allocation of no size has no result. -/
def updateListLoop (maxIndex : UInt8) (configs : List (List ConfigEdit)) :
    List ConfigModule → Option (List (List ConfigEdit))
  | [] => some configs
  | none :: _ =>
    if maxIndex.toNat ≤ configs.length ∧ maxIndex * 2 = 0 then none else some configs
  | some edits :: rest =>
    if maxIndex.toNat ≤ configs.length ∧ maxIndex * 2 = 0 then none
    else updateListLoop (if maxIndex.toNat ≤ configs.length then maxIndex * 2 else maxIndex)
      (configs ++ [treeInfo edits]) rest

/-- `nconf_msghdlr_get_update_list`: what is listed up to the first module that fails. -/
def nconfMsghdlrGetUpdateList (config : List ConfigModule) : Option (List (List ConfigEdit)) :=
  updateListLoop nconfInitialSubtreeCount [] config

/-- One turn of `nconf_msghdlr_validate_update_list`: its result, and the edit with the path that
is left. -/
def validateEdit (edit : ConfigEdit) : RpcErrorTag × ConfigEdit :=
  let path := edit.nodepath.takeWhile (· ≠ 38)
  let cut := { edit with nodepath := path }
  let marked := { edit with nodepath := path ++ [deleteMark] }
  match edit.nodepath.dropWhile (· ≠ 38) with
  | [] => (.noError, edit)
  | _ :: operation =>
    if operation = deleteText ∨ operation = createText then
      if edit.readret < 0 then (if operation = deleteText then .dataMissing else .noError, cut)
      else if operation = createText then (.dataExists, cut)
      else (.noError, marked)
    else if operation = removeText then (.noError, marked)
    else (.noError, cut)

def nconfMsghdlrValidateUpdateList : List ConfigEdit → RpcErrorTag × List ConfigEdit
  | [] => (.noError, [])
  | edit :: rest =>
    let turn := validateEdit edit
    if turn.1 ≠ .noError then (turn.1, turn.2 :: rest)
    else
      let later := nconfMsghdlrValidateUpdateList rest
      (later.1, turn.2 :: later.2)

/-- The first loop of `nconf_msghdlr_exec_config_update`. -/
def validateConfigs (ret : RpcErrorTag) :
    List (List ConfigEdit) → RpcErrorTag × List (List ConfigEdit)
  | [] => (ret, [])
  | edits :: rest =>
    let turn := nconfMsghdlrValidateUpdateList edits
    if turn.1 ≠ .noError then (turn.1, turn.2 :: rest)
    else
      let later := validateConfigs turn.1 rest
      (later.1, turn.2 :: later.2)

/-- One turn of `nconf_ucclient_exec_config_update`. -/
def putEdit (edit : ConfigEdit) : DbPut where
  nodepath := edit.nodepath
  value := if edit.nodepath.getLast? = some deleteMark then none else edit.nodevalue
  res := if edit.put = 0 then edit.askaction else edit.put

/-- `nconf_ucclient_exec_config_update` from the result of the turn before. -/
def nconfUcclientExecConfigUpdate (res : Int) : List ConfigEdit → Int × List DbPut
  | [] => (res, [])
  | edit :: rest =>
    let later := nconfUcclientExecConfigUpdate (putEdit edit).res rest
    (later.1, putEdit edit :: later.2)

/-- The second loop of `nconf_msghdlr_exec_config_update`. -/
def updateConfigs (ret : RpcErrorTag) : List (List ConfigEdit) → RpcErrorTag × List DbPut
  | [] => (ret, [])
  | edits :: rest =>
    let turn := nconfUcclientExecConfigUpdate (-1) edits
    let later := updateConfigs (if turn.1 ≠ 0 then .operationFailed else .noError) rest
    (later.1, turn.2 ++ later.2)

/-- `nconf_msghdlr_exec_config_update`: its result and the writes to the database. -/
def nconfMsghdlrExecConfigUpdate (config : List ConfigModule) :
    Option (RpcErrorTag × List DbPut) :=
  (nconfMsghdlrGetUpdateList config).map fun uinfo =>
    let validated := validateConfigs .operationFailed uinfo
    if uinfo ≠ [] ∧ validated.1 ≠ .noError then (validated.1, [])
    else updateConfigs validated.1 validated.2

/-- The result of the `<target>` nodes. -/
def targetsResult (ret : RpcErrorTag) : List (Option (List UInt8)) → RpcErrorTag
  | [] => ret
  | none :: rest => targetsResult .malformedMessage rest
  | some name :: rest => targetsResult (if name ≠ runningText then .invalidValue else ret) rest

/-- `nconf_msghdlr_rpc_msg_proc_edit_config`: the error that is reported, or none, and the
writes to the database. -/
def nconfMsghdlrRpcMsgProcEditConfig (request : EditRequest) :
    Option (RpcErrorTag × List DbPut) :=
  match request.config with
  | none => some (.missingElement, [])
  | some config =>
    let ret := targetsResult .noError request.targets
    if ret ≠ .noError then some (ret, [])
    else (nconfMsghdlrExecConfigUpdate config).map fun done =>
      if done.1 ≠ .noError then done
      else (if request.savedb ≠ 0 then .operationFailed else .noError, done.2)

def EditRequest.edits (request : EditRequest) : List ConfigEdit :=
  (request.config.getD []).flatMap fun module => module.getD []

def EditRequest.Sound (request : EditRequest) : Prop :=
  (∀ module ∈ request.config.getD [], module.isSome = true) ∧
    ∀ edit ∈ request.edits, (validateEdit edit).1 = .noError

def ConfigEdit.asked (edit : ConfigEdit) : DbPut := putEdit (validateEdit edit).2

/-- What is expected of a request: nothing is written and an error is reported unless the
request is sound, and success is reported only if every edit was written without an error. -/
def EditRequest.Right (request : EditRequest) : Prop :=
  ∃ tag puts, nconfMsghdlrRpcMsgProcEditConfig request = some (tag, puts) ∧
    (¬ request.Sound → puts = [] ∧ tag ≠ .noError) ∧
    (tag = .noError → puts = request.edits.map ConfigEdit.asked ∧ ∀ put ∈ puts, put.res = 0)

end EnetTsn.Netconf
