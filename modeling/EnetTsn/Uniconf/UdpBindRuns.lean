import EnetTsn.Uniconf.SimpledbTable
import EnetTsn.Uniconf.UdpBindRequests

namespace EnetTsn.Uniconf

open EnetTsn.Library

def refused (rdata : List UInt8) : Bool :=
  tooSmall rdata || !(rdata.head? = some ucBinconfudpPull || rdata.head? = some ucBinconfudpPullWcard ||
    rdata.head? = some ucBinconfudpPushc || rdata.head? = some ucBinconfudpPushe)

section Permitted

variable {σ : Type} (uc : UcDbald σ)

/-- A pull does not find an empty value; there is memory for the reply with the first item
of a range; a push fits in the chunk, and the database accepts its items; a malformed
datagram is refused at its size or its command. -/
def RequestPermitted (db : σ) (datagram : Datagram) : Request → Prop
  | .pull key => (uc.get db key).2 ≠ some []
  | .pullWcard key => datagram.keysGranted = true →
      (uc.firstInRange db key (wildcardEnd key)).isSome = true → datagram.replyGranted = true
  | .push writes _ _ => datagram.rdata.tail.length ≤ ucudpbinPlsize ∧
      takesAll uc.write writes db = true
  | .malformed => refused datagram.rdata = true

instance (db : σ) (datagram : Datagram) :
    (request : Request) → Decidable (RequestPermitted uc db datagram request)
  | .pull key => inferInstanceAs (Decidable ((uc.get db key).2 ≠ some []))
  | .pullWcard key => inferInstanceAs (Decidable (datagram.keysGranted = true →
      (uc.firstInRange db key (wildcardEnd key)).isSome = true → datagram.replyGranted = true))
  | .push writes _ _ => inferInstanceAs (Decidable (datagram.rdata.tail.length ≤ ucudpbinPlsize ∧
      takesAll uc.write writes db = true))
  | .malformed => inferInstanceAs (Decidable (refused datagram.rdata = true))

def DatagramPermitted (state : Serving σ) (datagram : Datagram) : Prop :=
  match state with
  | .intact server => RequestPermitted uc server.db datagram (readRequest datagram.rdata)
  | .corrupted => True

instance : (state : Serving σ) → (datagram : Datagram) → Decidable (DatagramPermitted uc state datagram)
  | .intact server, datagram => inferInstanceAs
      (Decidable (RequestPermitted uc server.db datagram (readRequest datagram.rdata)))
  | .corrupted, _ => isTrue trivial

end Permitted

structure BcData.Idle (bc : BcData) : Prop where
  chunk : bc.chunk = []
  apdsize : bc.apdsize = 0
  chunkSize : bc.chunkSize = ucudpbinPlsize

section Step

variable {σ : Type} {uc : UcDbald σ} {db : σ} {bc : BcData} {rdata : List UInt8}
  {datagram : Datagram} {writes : List Write}

theorem receivePush_whole (idle : bc.Idle) (fits : rdata.tail.length ≤ ucudpbinPlsize)
    (decoded : decodeItems (rdata.tail.length + 1) [] rdata.tail = some writes)
    (accepted : takesAll uc.write writes db = true) : ∃ after : BcData, receivePush uc bc db rdata =
      some (after, applyWrites uc.write writes db, (writes.length : Int)) ∧ after.Idle := by
  have room : (ucBinconfCleanLkey bc).chunkSize - (ucBinconfCleanLkey bc).chunk.length =
      ucudpbinPlsize := by
    change bc.chunkSize - bc.chunk.length = _
    rw [idle.chunk, idle.chunkSize]
    rfl
  let given : BcData := { ucBinconfCleanLkey bc with chunk := rdata.tail }
  have set : ucBinconfSetBindata (ucBinconfCleanLkey bc) rdata.tail = (given, rdata.tail.length) := by
    rw [ucBinconfSetBindata, room, Nat.min_eq_right fits, List.take_length]
    change ({ ucBinconfCleanLkey bc with chunk := bc.chunk ++ rdata.tail }, _) = _
    rw [idle.chunk]
    rfl
  have whole : given.apdsize = 0 := idle.apdsize
  have items : decodeItems (given.chunk.length + 1) given.lkey (given.chunk.drop 0) = some writes :=
    decoded
  obtain ⟨after, ran, chunk, apdsize, chunkSize⟩ :=
    writeItems_whole _ 0 whole items (Nat.zero_le _) accepted
  refine ⟨{ after with chunk := after.chunk.drop given.chunk.length }, ?_, ?_, apdsize, ?_⟩
  · rw [receivePush, set]
    simp only [if_true]
    rw [writeChunk_whole whole, ran, Nat.zero_add]
    rfl
  · rw [chunk]
    exact List.drop_length
  · exact chunkSize.trans idle.chunkSize

private theorem receive_refused (refused_ : refused datagram.rdata = true) :
    ucudpbinReceiveCb uc bc db datagram = some (bc, db, []) := by
  rw [ucudpbinReceiveCb]
  by_cases small : tooSmall datagram.rdata = true
  · exact if_pos small
  · rw [if_neg small]
    simp only [refused, small, Bool.false_or, Bool.not_eq_true', Bool.or_eq_false_iff,
      decide_eq_false_iff_not] at refused_
    obtain ⟨⟨⟨pull, wcard⟩, pushc⟩, pushe⟩ := refused_
    rw [if_neg pull, if_neg wcard, if_neg pushc, if_neg pushe]

section

variable (enough : ¬ (rdata.length < 6 ∨ rdata.length < datagramKsize rdata + 5))
include enough

theorem tooSmall_of_inside : tooSmall rdata = false := by
  obtain ⟨six, inside⟩ := not_or.mp enough
  have least : ((datagramKsize rdata : Int) + 5).bmod (2 ^ 32) ≤ datagramKsize rdata + 5 := by
    rw [Int.bmod_def]
    split <;> omega
  rw [tooSmall, Bool.or_eq_false_iff, decide_eq_false_iff_not, decide_eq_false_iff_not]
  refine ⟨six, ?_⟩
  omega

theorem slice_key :
    slice rdata 5 (datagramKsize rdata) = some ((rdata.drop 5).take (datagramKsize rdata)) ∧
      ((rdata.drop 5).take (datagramKsize rdata)).length = datagramKsize rdata := by
  obtain ⟨_, inside⟩ := not_or.mp enough
  have fits : 5 + datagramKsize rdata ≤ rdata.length := by omega
  exact ⟨slice_of_le fits, length_slice fits⟩

theorem receivePull_answer
    (request : readRequest rdata = .pull ((rdata.drop 5).take (datagramKsize rdata)))
    (filled : (uc.get db ((rdata.drop 5).take (datagramKsize rdata))).2 ≠ some [])
    (same : datagram.rdata = rdata) : ∃ reply, receivePull uc db rdata (datagramKsize rdata) =
      some ((answer uc db datagram).1, reply) ∧ (answer uc db datagram).2 = [reply] := by
  obtain ⟨key, length⟩ := slice_key enough
  rw [answer, same, request, receivePull, key]
  simp only [Option.bind_eq_bind, Option.bind_some]
  generalize (rdata.drop 5).take (datagramKsize rdata) = key at filled length
  rw [length]
  cases got : uc.get db key with
  | mk held found =>
    rw [got] at filled
    cases found with
    | none => exact ⟨_, rfl, rfl⟩
    | some value =>
      cases value with
      | nil => exact absurd rfl filled
      | cons octet rest => exact ⟨_, rfl, rfl⟩

theorem getWildcardData_answer
    (request : readRequest rdata = .pullWcard ((rdata.drop 5).take (datagramKsize rdata)))
    (permitted : RequestPermitted uc db datagram
      (.pullWcard ((rdata.drop 5).take (datagramKsize rdata)))) (same : datagram.rdata = rdata) :
    ∃ reply, getWildcardData uc db datagram (datagramKsize rdata) = some reply ∧
      answer uc db datagram = (db, [reply.getD (pullngres rdata)]) := by
  obtain ⟨key, length⟩ := slice_key enough
  rw [answer, same, request, getWildcardData, same, key]
  simp only [Option.bind_eq_bind, Option.bind_some]
  rw [RequestPermitted] at permitted
  generalize (rdata.drop 5).take (datagramKsize rdata) = key at permitted
  cases found : uc.firstInRange db key (wildcardEnd key) with
  | none =>
    refine ⟨none, ?_, rfl⟩
    split <;> rfl
  | some item =>
    rw [found] at permitted
    by_cases keys : datagram.keysGranted = false
    · rw [if_pos keys]
      refine ⟨none, rfl, ?_⟩
      simp only [keys, Bool.false_and, Bool.false_eq_true, if_false]
      rfl
    · rw [Bool.not_eq_false] at keys
      rw [if_neg (by rw [keys]; exact Bool.noConfusion)]
      have granted : ¬ datagram.replyGranted = false := by
        rw [permitted keys rfl]
        exact Bool.noConfusion
      refine ⟨_, if_neg granted, ?_⟩
      simp only [keys, Bool.true_and]
      cases datagram.written <;> rfl

end

theorem receive_answers (idle : bc.Idle)
    (permitted : RequestPermitted uc db datagram (readRequest datagram.rdata)) :
    ∃ after : BcData, ucudpbinReceiveCb uc bc db datagram = some (after, answer uc db datagram) ∧
      after.Idle := by
  by_cases malformed : readRequest datagram.rdata = .malformed
  · rw [malformed] at permitted
    refine ⟨bc, ?_, idle⟩
    rw [receive_refused permitted, answer, malformed]
  rw [readRequest] at malformed
  by_cases enough : datagram.rdata.length < 6 ∨ datagram.rdata.length < datagramKsize datagram.rdata + 5
  · exact absurd (if_pos enough) malformed
  have passed : ¬ tooSmall datagram.rdata = true := by
    rw [tooSmall_of_inside enough]
    exact Bool.noConfusion
  rw [ucudpbinReceiveCb, if_neg passed]
  by_cases pull : datagram.rdata.head? = some ucBinconfudpPull
  · have request : readRequest datagram.rdata = _ := (if_neg enough).trans (if_pos pull)
    rw [request] at permitted
    obtain ⟨reply, received, answers⟩ := receivePull_answer enough request permitted rfl
    rw [if_pos pull, received]
    exact ⟨bc, congrArg (fun replies => some (bc, (answer uc db datagram).1, replies)) answers.symm, idle⟩
  by_cases wcard : datagram.rdata.head? = some ucBinconfudpPullWcard
  · have request : readRequest datagram.rdata = _ :=
      (if_neg enough).trans ((if_neg pull).trans (if_pos wcard))
    rw [request] at permitted
    obtain ⟨reply, received, answers⟩ := getWildcardData_answer enough request permitted rfl
    rw [if_neg pull, if_pos wcard, received, answers]
    exact ⟨bc, rfl, idle⟩
  rw [if_neg enough, if_neg pull, if_neg wcard] at malformed
  generalize items : (decodeItems (datagram.rdata.tail.length + 1) [] datagram.rdata.tail).getD [] =
    writes at malformed
  by_cases nothing : writes = []
  · exact absurd (if_pos nothing) malformed
  have decoded : decodeItems (datagram.rdata.tail.length + 1) [] datagram.rdata.tail = some writes := by
    cases found : decodeItems (datagram.rdata.tail.length + 1) [] datagram.rdata.tail with
    | none =>
      rw [found] at items
      exact absurd items.symm nothing
    | some all =>
      rw [found] at items
      exact congrArg some items
  have filled : ¬ (decodeItems (datagram.rdata.tail.length + 1) [] datagram.rdata.tail).getD [] = [] := by
    rw [items]
    exact nothing
  by_cases pushc : datagram.rdata.head? = some ucBinconfudpPushc
  · have request : readRequest datagram.rdata = _ := (if_neg enough).trans ((if_neg pull).trans
      ((if_neg wcard).trans ((if_neg filled).trans (if_pos pushc))))
    rw [items] at request
    rw [request] at permitted
    obtain ⟨after, pushed, kept⟩ := receivePush_whole idle permitted.1 decoded permitted.2
    rw [if_neg pull, if_neg wcard, if_pos pushc, pushed, answer, request]
    exact ⟨after, rfl, kept⟩
  by_cases pushe : datagram.rdata.head? = some ucBinconfudpPushe
  · have request : readRequest datagram.rdata = _ := (if_neg enough).trans ((if_neg pull).trans
      ((if_neg wcard).trans ((if_neg filled).trans ((if_neg pushc).trans (if_pos pushe)))))
    rw [items] at request
    rw [request] at permitted
    obtain ⟨after, pushed, kept⟩ := receivePush_whole idle permitted.1 decoded permitted.2
    have positive : (0 : Int) < (writes.length : Int) := by
      have some_ := List.length_pos_iff.mpr nothing
      omega
    rw [if_neg pull, if_neg wcard, if_neg pushc, if_pos pushe, pushed, answer, request]
    simp only [Option.bind_eq_bind, Option.bind_some, receivePushe, if_pos positive,
      (slice_key enough).1]
    exact ⟨after, rfl, kept⟩
  rw [if_neg nothing, if_neg pushc, if_neg pushe] at malformed
  exact absurd rfl malformed

end Step

section Runs

variable {σ : Type} {uc : UcDbald σ} {start : σ} {state : Serving σ} {server : UdpServer σ}
  {datagram : Datagram}

/-- A server that has answered each datagram from the database, with nothing left in its
decoder. -/
structure UdpServer.Sound (uc : UcDbald σ) (start : σ) (server : UdpServer σ) : Prop where
  idle : server.bc.Idle
  answers : server.AnswersAlone uc start

theorem UdpServer.Sound.step (sound : server.Sound uc start)
    (permitted : DatagramPermitted uc (.intact server) datagram)
    (taken : (receiveSystem uc start).step (.intact server) datagram = some state) :
    ∃ next : UdpServer σ, state = .intact next ∧ next.Sound uc start := by
  obtain ⟨after, received, idle⟩ := receive_answers sound.idle permitted
  simp only [receiveSystem, received] at taken
  cases taken
  refine ⟨_, rfl, idle, ?_, ?_⟩
  · exact congrArg (fun db => (answer uc db datagram).1) sound.answers.database
  · intro later datagram' replies earlier split
    cases later with
    | nil =>
      cases split
      exact congrArg (fun db => (answer uc db datagram).2) sound.answers.database
    | cons last rest => exact sound.answers.replies rest datagram' replies earlier (List.cons.inj split).2

/-- **In every run whose datagrams leave nothing behind, each of them is answered from the
database alone, and nothing is read behind its end.** -/
theorem datagrams_answered_alone (uc : UcDbald σ) (start : σ) (state : Serving σ)
    (reachable : (receiveSystem uc start).Reachable (DatagramPermitted uc) state) :
    ∃ server : UdpServer σ, state = .intact server ∧ server.AnswersAlone uc start := by
  have sound : ∃ server : UdpServer σ, state = .intact server ∧ server.Sound uc start := by
    apply reachable.invariant (fun state => ∃ server : UdpServer σ, state = .intact server ∧
      server.Sound uc start)
    · refine ⟨_, rfl, ⟨rfl, rfl, rfl⟩, rfl, ?_⟩
      intro later datagram replies earlier split
      have length := congrArg List.length split
      rw [List.length_append, List.length_cons, List.length_nil] at length
      omega
    · rintro _ event next ⟨server, rfl, sound⟩ permitted taken
      exact sound.step permitted taken
  obtain ⟨server, same, sound⟩ := sound
  exact ⟨server, same, sound.answers⟩

end Runs

abbrev ItemList := List (List UInt8 × Entry)

namespace ItemList

def put (db : ItemList) (key : List UInt8) (value : List UInt8 → List UInt8) : ItemList × Bool :=
  match db.lookup key with
  | none => if key = [] then (db, false) else ((key, ⟨value [], 0⟩) :: db, true)
  | some entry =>
    if 0 < entry.locks then (db, false)
    else (db.map fun item => if item.1 = key then (key, { entry with value := value entry.value }) else item,
      true)

def write (db : ItemList) : Write → ItemList × Bool
  | .create key value => db.put key fun _ => value
  | .append key value | .rest key value => db.put key fun stored => stored ++ value
  | .del key => (db.filter fun item => item.1 ≠ key || 0 < item.2.locks, true)

def relock (db : ItemList) (key : List UInt8) (locks : UInt8 → UInt8) : ItemList :=
  db.map fun item => if item.1 = key then (key, { item.2 with locks := locks item.2.locks }) else item

def firstInRange (db : ItemList) (key1 key2 : List UInt8) : Option (List UInt8 × List UInt8) :=
  db.foldr (fun item first =>
    if keycmp item.1 key1 < 0 ∨ 0 < keycmp item.1 key2 then first
    else match first with
      | none => some (item.1, item.2.value)
      | some found => if keycmp item.1 found.1 < 0 then some (item.1, item.2.value) else some found) none

end ItemList

def itemListDb : UcDbald ItemList where
  write := ItemList.write
  get db key := (db.relock key (· + 1), (db.lookup key).map Entry.value)
  getRelease db key := db.relock key fun locks => if 0 < locks then locks - 1 else locks
  firstInRange := ItemList.firstInRange
  keyNeedaction _ _ := false
  askaction db _ := db

def datagram (rdata : List UInt8) : Datagram where
  rdata := rdata
  keysGranted := true
  replyGranted := true
  written := true

def Serving.view (state : Serving ItemList) : Option (ItemList × List (List (List UInt8))) :=
  match state with
  | .intact server => some (server.db, server.history.map Prod.snd)
  | .corrupted => none

/-- Two keys are pushed, of which the second one is written as its difference to the first;
a datagram with too long a key is refused; both keys are pulled, one of them by the octet
with which it starts. -/
def pushesAndPulls : List Datagram :=
  [datagram [6, 2, 0, 0, 0, 7, 1, 1, 0, 9, 1, 8, 0, 0, 8, 2, 0, 4, 5],
    datagram [6, 100, 0, 0, 0, 7, 1, 1, 0, 9], datagram [1, 2, 0, 0, 0, 7, 1],
    datagram [2, 1, 0, 0, 0, 8]]

theorem datagrams_answered_alone_pulls : ∃ server : UdpServer ItemList,
    server.db = [([8, 1], ⟨[4, 5], 0⟩), ([7, 1], ⟨[9], 0⟩)] ∧
      server.history.map Prod.snd = [[[3, 2, 0, 0, 0, 8, 1, 2, 0, 4, 5]],
        [[3, 2, 0, 0, 0, 7, 1, 1, 0, 9]], [], [[7]]] ∧ server.AnswersAlone itemListDb [] := by
  have ran : (((receiveSystem itemListDb []).restrict fun state datagram =>
      decide (DatagramPermitted itemListDb state datagram)).run (receiveSystem itemListDb []).start
      pushesAndPulls).map Serving.view =
      some (some ([([8, 1], ⟨[4, 5], 0⟩), ([7, 1], ⟨[9], 0⟩)],
        [[[3, 2, 0, 0, 0, 8, 1, 2, 0, 4, 5]], [[3, 2, 0, 0, 0, 7, 1, 1, 0, 9]], [], [[7]]])) := by
    decide +kernel
  obtain ⟨state, finished, view⟩ := Option.map_eq_some_iff.mp ran
  obtain ⟨server, rfl, alone⟩ := datagrams_answered_alone itemListDb [] state
    ((System.reachable_of_run finished).of_restrict fun _ _ => of_decide_eq_true)
  obtain ⟨db, replies⟩ := Prod.mk.inj (Option.some.inj view)
  exact ⟨server, db, replies, alone⟩

def truncatedPush : List Datagram := [datagram [5, 1, 0, 0, 0, 7], datagram [5, 1, 0, 0, 0, 8, 1, 0, 6]]

/-- The second push writes to the key of the first one, and a pull with a key size that is a
negative number reads behind its end. -/
theorem answers_spoiled : (¬ ∀ state, (receiveSystem itemListDb []).Reachable System.anyStep state →
      ∃ server : UdpServer ItemList, state = .intact server ∧ server.AnswersAlone itemListDb []) ∧
    (receiveSystem itemListDb []).Reachable System.anyStep .corrupted := by
  constructor
  · intro always
    have ran : ((receiveSystem itemListDb []).run (receiveSystem itemListDb []).start
        truncatedPush).map (fun state => match state with
          | .intact server => some (server.db, answered itemListDb [] server.history)
          | .corrupted => none) = some (some ([([7], ⟨[0], 0⟩)], [([8], ⟨[6], 0⟩)])) := by
      decide +kernel
    obtain ⟨state, finished, view⟩ := Option.map_eq_some_iff.mp ran
    obtain ⟨server, rfl, alone⟩ := always state (System.reachable_of_run finished)
    obtain ⟨db, expected⟩ := Prod.mk.inj (Option.some.inj view)
    have same := alone.database
    rw [db, expected] at same
    exact absurd same (by decide)
  · have ran : ((receiveSystem itemListDb []).run (receiveSystem itemListDb []).start
        [datagram [1, 255, 255, 255, 255, 7]]).map Serving.view = some none := by
      decide +kernel
    obtain ⟨state, finished, view⟩ := Option.map_eq_some_iff.mp ran
    cases state with
    | intact server => cases view
    | corrupted => exact System.reachable_of_run finished

end EnetTsn.Uniconf
