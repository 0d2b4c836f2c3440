import EnetTsn.Uniconf.SimpledbTable

/-!
The access to single items of the database through one handle that all threads of a process
share. The handle has one key and one action. A get leaves the action at
`YANG_DB_ACTION_READ` until the item is released, and the other operations wait for that with a
semaphore. The store behind the handle is the finite map that it stands for, and a set pushes
no notice.
-/

namespace EnetTsn.Uniconf

open EnetTsn.Library

/-- `YANG_DB_ACTION_*`, without the action that adds to a value. -/
inductive YangDbAction where
  | create
  | read
  | readRelease
  | delete
  | none
  deriving DecidableEq, Repr

/-- `yang_db_item_access_t`: the action, the key that the nodes and the key values make, which
is empty when they make none, the value that is put, the semaphore and the database. -/
structure YdbiAccess (ν : Type) where
  atype : YangDbAction
  key : List UInt8
  value : PutValue
  pools : Pools ν
  readrelsem : Nat
  dbald : Table

/-- What a caller puts into `dbpara` between the head and the foot. -/
structure YdbiPara (ν : Type) where
  key : List UInt8
  value : PutValue
  pools : Pools ν

variable {ν : Type}

namespace YdbiAccess

/-- `yang_db_put` without hardware: a put that fails is tried once more. -/
def yangDbPut (ydbia : YdbiAccess ν) : Table × Int :=
  if ydbia.key = [] then (ydbia.dbald, -1)
  else
    let first := ydbia.dbald.put ydbia.key ydbia.value simpledbFlagCreate ydbia.pools
    if first.2 = 0 then first
    else first.1.put ydbia.key ydbia.value simpledbFlagCreate ydbia.pools

/-- `yang_db_get`: whether there is an item. -/
def yangDbGet (ydbia : YdbiAccess ν) : Table × Int :=
  if ydbia.key = [] then (ydbia.dbald, -1)
  else
    match ydbia.dbald.get ydbia.key with
    | (dbald, .value (some _)) => (dbald, 0)
    | (dbald, _) => (dbald, -1)

def yangDbGetRelease (ydbia : YdbiAccess ν) : Table × Int :=
  if ydbia.key = [] then (ydbia.dbald, -1) else ydbia.dbald.getRelease ydbia.key

/-- `yang_db_del` without hardware. -/
def yangDbDel (ydbia : YdbiAccess ν) : Table × Int :=
  if ydbia.key = [] then (ydbia.dbald, -1)
  else
    let deleted := ydbia.dbald.del ydbia.key
    (deleted.1, if deleted.2 ≠ 0 then -1 else 0)

def yangDbAction (ydbia : YdbiAccess ν) : YdbiAccess ν × Int :=
  let done := match ydbia.atype with
    | .create => ydbia.yangDbPut
    | .read => ydbia.yangDbGet
    | .readRelease => ydbia.yangDbGetRelease
    | .delete => ydbia.yangDbDel
    | .none => (ydbia.dbald, 0)
  ({ ydbia with dbald := done.1 }, done.2)

/-- `ydbi_get_item_release` up to its post. -/
def ydbiGetItemRelease (ydbia : YdbiAccess ν) (keeplocking : Bool) : YdbiAccess ν × Int :=
  if ydbia.atype ≠ .read then (ydbia, -1)
  else
    let released := { ydbia with atype := .readRelease }
    if keeplocking then (released, 0) else released.yangDbAction

/-- The first lock of `ydbi_action_head`: the semaphore is cleaned up. -/
def drain (ydbia : YdbiAccess ν) : YdbiAccess ν := { ydbia with readrelsem := 0 }

/-- The end of `ydbi_action_head`, and what the caller then puts into `dbpara`. -/
def ydbiSetup (ydbia : YdbiAccess ν) (atype : YangDbAction) (para : YdbiPara ν) : YdbiAccess ν :=
  { ydbia with
    atype := atype
    key := para.key
    value := para.value
    pools := para.pools }

/-- `ydbi_get_foot`, but for the value that it returns. -/
def ydbiGetFoot (ydbia : YdbiAccess ν) : YdbiAccess ν × Int :=
  let done := ydbia.yangDbAction
  if done.2 = 0 then done else ({ done.1 with atype := .none }, done.2)

/-- `ydbi_set_foot` without a notice. -/
def ydbiSetFoot (ydbia : YdbiAccess ν) : YdbiAccess ν × Int :=
  let done := ydbia.yangDbAction
  if done.2 ≠ 0 then ({ done.1 with atype := .none }, done.2) else done

/-- `ydbi_rel_head`, the parameters of the caller, and `ydbi_rel_foot`. -/
def ydbiRelItem (ydbia : YdbiAccess ν) (key : List UInt8) : YdbiAccess ν × Int :=
  { ydbia with atype := .readRelease, key := key }.yangDbAction

end YdbiAccess

/-- An operation that starts with `ydbi_action_head`. -/
inductive YdbiRequest (ν : Type) where
  | get (key : List UInt8)
  | set (para : YdbiPara ν)
  | del (key : List UInt8)

/-- Where a thread is: in no operation, in the timed wait of an operation, behind this wait, in
the use of an item that it has read, or in front of the post of a release that has kept the
lock of an item or not. -/
inductive YdbiActivity (ν : Type) where
  | idle
  | waiting (request : YdbiRequest ν)
  | woken (request : YdbiRequest ν)
  | reading (key : List UInt8)
  | posting (kept : Option (List UInt8))

structure YdbiThread (ν : Type) where
  activity : YdbiActivity ν
  held : List (List UInt8)

/-- The handle and the threads. The successful gets and the successful releases are logged, each
with its thread and the key in the database. -/
structure YdbiState (ι ν : Type) where
  ydbia : YdbiAccess ν
  threads : ι → YdbiThread ν
  taken : List (ι × List UInt8)
  given : List (ι × List UInt8)

/-- The steps of the threads: the head and the foot of an operation, or its head up to the wait,
the end of the wait, what follows it, the two parts of `ydbi_get_item_release`, and the release
of an item whose lock was kept. -/
inductive YdbiEvent (ι ν : Type) where
  | action (who : ι) (request : YdbiRequest ν)
  | timeout (who : ι)
  | wake (who : ι)
  | retry (who : ι)
  | getItemRelease (who : ι) (keeplocking : Bool)
  | post (who : ι)
  | relItem (who : ι) (key : List UInt8)

variable {ι : Type} [DecidableEq ι]

namespace YdbiState

def activity (state : YdbiState ι ν) (who : ι) : YdbiActivity ν := (state.threads who).activity

def held (state : YdbiState ι ν) (who : ι) : List (List UInt8) := (state.threads who).held

def setThread (state : YdbiState ι ν) (who : ι) (thread : YdbiThread ν) : YdbiState ι ν :=
  { state with threads := Function.update state.threads who thread }

def setActivity (state : YdbiState ι ν) (who : ι) (activity : YdbiActivity ν) : YdbiState ι ν :=
  state.setThread who { state.threads who with activity := activity }

def perform (state : YdbiState ι ν) (who : ι) (ydbia : YdbiAccess ν) :
    YdbiRequest ν → YdbiState ι ν
  | .get key =>
    let para := { key := key, value := .null, pools := ydbia.pools }
    let done := (ydbia.ydbiSetup .read para).ydbiGetFoot
    if done.2 = 0 then
      { state.setActivity who (.reading key) with
        ydbia := done.1
        taken := (who, key) :: state.taken }
    else { state.setActivity who .idle with ydbia := done.1 }
  | .set para =>
    { state.setActivity who .idle with ydbia := (ydbia.ydbiSetup .create para).ydbiSetFoot.1 }
  | .del key =>
    let para := { key := key, value := ydbia.value, pools := ydbia.pools }
    { state.setActivity who .idle with ydbia := (ydbia.ydbiSetup .delete para).ydbiSetFoot.1 }

def logRelease (state : YdbiState ι ν) (who : ι) (done : YdbiAccess ν × Int) : YdbiState ι ν :=
  { state with
    ydbia := done.1
    given := if done.2 = 0 then (who, done.1.key) :: state.given else state.given }

def step (state : YdbiState ι ν) : YdbiEvent ι ν → Option (YdbiState ι ν)
  | .action who request =>
    match state.activity who with
    | .idle =>
      let drained := state.ydbia.drain
      if drained.atype = .read then
        some { state.setActivity who (.waiting request) with ydbia := drained }
      else some (state.perform who drained request)
    | _ => none
  | .timeout who =>
    match state.activity who with
    | .waiting _ => some (state.setActivity who .idle)
    | _ => none
  | .wake who =>
    match state.activity who with
    | .waiting request =>
      if state.ydbia.readrelsem = 0 then none
      else some { state.setActivity who (.woken request) with
        ydbia := { state.ydbia with readrelsem := state.ydbia.readrelsem - 1 } }
    | _ => none
  | .retry who =>
    match state.activity who with
    | .woken request =>
      if state.ydbia.atype = .read then some (state.setActivity who .idle)
      else some (state.perform who state.ydbia request)
    | _ => none
  | .getItemRelease who keeplocking =>
    match state.activity who with
    | .reading key =>
      let done := state.ydbia.ydbiGetItemRelease keeplocking
      if keeplocking then
        let kept := if done.2 = 0 then some key else none
        some { state.setActivity who (.posting kept) with ydbia := done.1 }
      else some ((state.setActivity who (.posting none)).logRelease who done)
    | _ => none
  | .post who =>
    match state.activity who with
    | .posting kept =>
      some { state.setThread who ⟨.idle, kept.toList ++ state.held who⟩ with
        ydbia := { state.ydbia with readrelsem := state.ydbia.readrelsem + 1 } }
    | _ => none
  | .relItem who key =>
    let done := state.ydbia.ydbiRelItem key
    match state.activity who with
    | .reading read =>
      if read = key then some ((state.setActivity who .idle).logRelease who done) else none
    | .idle =>
      if key ∈ state.held who then
        some ((state.setThread who ⟨.idle, (state.held who).erase key⟩).logRelease who done)
      else none
    | _ => none

end YdbiState

/-- The handle as `ydbi_access_init` leaves it, over a database. -/
def ydbiAccessInit (dbald : Table) (pools : Pools ν) : YdbiAccess ν where
  atype := .create
  key := []
  value := .null
  pools := pools
  readrelsem := 0
  dbald := dbald

def ydbiSystem (dbald : Table) (pools : Pools ν) : System (YdbiState ι ν) (YdbiEvent ι ν) where
  start := {
    ydbia := ydbiAccessInit dbald pools
    threads := fun _ => ⟨.idle, []⟩
    taken := []
    given := [] }
  step := YdbiState.step

def Table.locks (table : Table) (key : List UInt8) : Nat :=
  (table key).elim 0 fun entry => entry.locks.toNat

def YdbiActivity.keys : YdbiActivity ν → List (List UInt8)
  | .reading key => [key]
  | .posting kept => kept.toList
  | _ => []

def YdbiThread.outstanding (thread : YdbiThread ν) : List (List UInt8) :=
  thread.activity.keys ++ thread.held

def YdbiState.outstanding (state : YdbiState ι ν) (who : ι) : List (List UInt8) :=
  (state.threads who).outstanding

/-- What is expected of the handle: its key stays between a get and its release, each thread
has released what it has got and does not hold any more, once and with its key, and the items
are held by as many readers as at first when no thread is in an operation or holds an item. -/
structure YdbiState.Orderly (start : Table) (state : YdbiState ι ν) : Prop where
  guarded : ∀ who key, state.activity who = .reading key →
    state.ydbia.atype = .read ∧ state.ydbia.key = key
  released : ∀ who key, state.taken.count (who, key) =
    state.given.count (who, key) + (state.outstanding who).count key
  restored : (∀ who, state.activity who = .idle ∧ state.held who = []) →
    ∀ key, state.ydbia.dbald.locks key = start.locks key

end EnetTsn.Uniconf
