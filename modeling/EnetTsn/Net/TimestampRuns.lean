import EnetTsn.Net.TimestampQueue

namespace EnetTsn.Net

open EnetTsn.Library

section Queue

variable {queue : TxtsQueue} {entries : List TxtsInfo} {info : TxtsInfo}

private theorem holds_pushTxtsInfo (holds : queue.Holds entries) (info : TxtsInfo) :
    (pushTxtsInfo queue info).Holds
      (if entries.length < maxTxtsInfo then entries ++ [info] else entries) := by
  by_cases room : entries.length < maxTxtsInfo
  · have fits : ∃ next, queue.push info = some next ∧ next.Holds (entries ++ [info]) :=
      holds.push_room room
    obtain ⟨next, pushed, held⟩ := fits
    rw [pushTxtsInfo, pushed, if_pos room]
    exact held
  · have full : entries.length = maxTxtsInfo :=
      Nat.le_antisymm holds.length (Nat.not_lt.mp room)
    rw [pushTxtsInfo, holds.push_full full, if_neg room]
    exact holds

theorem popTxtsInfo_nil (holds : queue.Holds []) : popTxtsInfo queue = (none, queue) := by
  rw [popTxtsInfo, holds.pop_nil]

theorem popTxtsInfo_cons (holds : queue.Holds (info :: entries)) :
    ∃ next, popTxtsInfo queue = (some info, next) ∧ next.Holds entries := by
  obtain ⟨next, popped, held⟩ := holds.pop_cons
  exact ⟨next, by rw [popTxtsInfo, popped], held⟩

private theorem holds_popTxtsInfo (holds : queue.Holds entries) :
    (popTxtsInfo queue).2.Holds entries.tail := by
  cases entries with
  | nil =>
    rw [popTxtsInfo_nil holds]
    exact holds
  | cons info rest =>
    obtain ⟨next, popped, held⟩ := popTxtsInfo_cons holds
    rw [popped]
    exact held

end Queue

namespace SendCall

def pushed (call : SendCall) (entries : List TxtsInfo) : List TxtsInfo :=
  if call.isEvent && decide (entries.length < maxTxtsInfo) then entries ++ [call.txtsInfo]
  else entries

def leaves (call : SendCall) (entries : List TxtsInfo) : List TxtsInfo :=
  if call.tooLong then entries
  else if call.sendto < 0 then (call.pushed entries).tail
  else call.pushed entries

def Undisturbed (call : SendCall) (entries : List TxtsInfo) : Prop :=
  call.tooLong = true ∨ entries = [] ∨
    (call.isEvent = true ∧ entries.length < maxTxtsInfo ∧ ∀ info ∈ entries, info = call.txtsInfo)

end SendCall

theorem holds_gptpnetSend (call : SendCall) (holds : queue.Holds entries) :
    (gptpnetSend call queue).1.Holds (call.leaves entries) := by
  unfold gptpnetSend SendCall.leaves
  by_cases long : call.tooLong = true
  · rw [if_pos long, if_pos long]
    exact holds
  · rw [if_neg long, if_neg long]
    have pushed : (if call.isEvent then pushTxtsInfo queue call.txtsInfo else queue).Holds
        (call.pushed entries) := by
      unfold SendCall.pushed
      by_cases event : call.isEvent = true
      · simpa [event] using holds_pushTxtsInfo holds call.txtsInfo
      · simpa [event] using holds
    by_cases failed : call.sendto < 0
    · simp only [if_pos failed]
      exact holds_popTxtsInfo pushed
    · simp only [if_neg failed]
      exact pushed

private theorem append_singleton_eq_cons_iff (head last : α) (rest : List α) :
    rest ++ [last] = head :: rest ↔ ∀ value ∈ head :: rest, value = last := by
  induction rest generalizing head with
  | nil => simp [eq_comm]
  | cons next rest ih =>
    constructor
    · intro same
      obtain ⟨first, others⟩ := List.cons.inj same
      subst first
      have all := (ih next).mp others
      exact List.forall_mem_cons.mpr ⟨all next List.mem_cons_self, all⟩
    · intro all
      obtain ⟨first, others⟩ := List.forall_mem_cons.mp all
      rw [List.cons_append, (ih next).mpr others, first, others next List.mem_cons_self]

theorem leaves_eq_iff (call : SendCall) (entries : List TxtsInfo) (failed : call.transmitted = false) :
    call.leaves entries = entries ↔ call.Undisturbed entries := by
  unfold SendCall.leaves SendCall.Undisturbed
  by_cases long : call.tooLong = true
  · simp [long]
  · have negative : call.sendto < 0 := by
      simpa [SendCall.transmitted, long] using failed
    rw [if_neg long, if_pos negative, SendCall.pushed]
    cases entries with
    | nil =>
      by_cases event : call.isEvent = true
      · simp [event]
      · simp [event]
    | cons head rest =>
      by_cases event : call.isEvent = true
      · by_cases room : (head :: rest).length < maxTxtsInfo
        · have added : (call.isEvent && decide ((head :: rest).length < maxTxtsInfo)) = true := by
            rw [event, decide_eq_true room]
            rfl
          rw [if_pos added, List.cons_append, List.tail_cons, append_singleton_eq_cons_iff]
          constructor
          · exact fun all => Or.inr (Or.inr ⟨event, room, all⟩)
          · rintro (impossible | impossible | ⟨_, _, all⟩)
            · exact absurd impossible long
            · cases impossible
            · exact all
        · have full : (call.isEvent && decide ((head :: rest).length < maxTxtsInfo)) = false := by
            rw [event, decide_eq_false room]
            rfl
          rw [full, if_neg nofun, List.tail_cons]
          constructor
          · intro same
            exact absurd (congrArg List.length same) (Nat.ne_of_lt (Nat.lt_succ_self _))
          · rintro (impossible | impossible | ⟨_, low, _⟩)
            · exact absurd impossible long
            · cases impossible
            · exact absurd low room
      · simp [event, long]

section Loop

variable (gpnet : Gpnet) {driver : EnetDriver δ} {stamps : δ → List (TimestampKey × UInt64)}

theorem iterate_txtsTurn_total (driver : EnetDriver δ) (loop : TxtsLoop δ) (holds : loop.queue.Holds entries)
    (enough : entries.length < fuel) :
    ∃ final, iterate (txtsTurn gpnet driver) fuel loop = some (final, ()) ∧
      final.queue.Holds [] := by
  induction fuel generalizing loop entries with
  | zero => exact absurd enough (Nat.not_lt_zero _)
  | succ fuel ih =>
    cases entries with
    | nil =>
      refine ⟨loop, ?_, holds⟩
      rw [iterate, txtsTurn, popTxtsInfo_nil holds]
    | cons info rest =>
      obtain ⟨next, popped, held⟩ := popTxtsInfo_cons holds
      have shorter : rest.length < fuel := Nat.lt_of_succ_lt_succ enough
      rw [iterate, txtsTurn, popped]
      dsimp only
      split
      · rename_i stop _ left
        split at left <;> cases left
      · rename_i after turned
        split at turned
        · cases turned
          exact ih _ held shorter
        · cases turned
          exact ih _ held shorter

theorem iterate_txtsTurn_reports (lawful : driver.Lawful stamps) (loop : TxtsLoop δ)
    (frames : List (TxtsInfo × UInt64)) (holds : loop.queue.Holds (frames.map Prod.fst))
    (ready : stamps loop.driver = frames.map fun frame => (gpnet.key frame.1, frame.2))
    (enough : frames.length < fuel) :
    ∃ final, iterate (txtsTurn gpnet driver) fuel loop = some (final, ()) ∧
      final.queue.Holds [] ∧ stamps final.driver = [] ∧
      final.provided = loop.provided ++ frames.map fun frame => provideTxts frame.1 frame.2 := by
  induction fuel generalizing loop frames with
  | zero => exact absurd enough (Nat.not_lt_zero _)
  | succ fuel ih =>
    cases frames with
    | nil =>
      refine ⟨loop, ?_, holds, ready, by simp⟩
      rw [iterate, txtsTurn, popTxtsInfo_nil holds]
    | cons frame rest =>
      obtain ⟨next, popped, held⟩ := popTxtsInfo_cons holds
      obtain ⟨answered, left⟩ := lawful.found loop.driver (gpnet.key frame.1) frame.2 []
        (rest.map fun later : TxtsInfo × UInt64 => (gpnet.key later.1, later.2)) ready
        (fun _ impossible => absurd impossible List.not_mem_nil)
      have taken : ∀ ts, gpnet.lldtsync.getTxTime (some frame.2) ts = some frame.2 := by
        intro ts
        cases gpnet.lldtsync <;> rfl
      have turn : txtsTurn gpnet driver loop = .again {
          queue := next
          driver := (driver.getTxTimestamp loop.driver (gpnet.key frame.1)).2
          ts := frame.2
          provided := loop.provided ++ [provideTxts frame.1 frame.2] } := by
        rw [txtsTurn, popped]
        simp only [answered, taken, Option.getD_some]
      obtain ⟨final, finished, empty, used, provided⟩ :=
        ih { queue := next
             driver := (driver.getTxTimestamp loop.driver (gpnet.key frame.1)).2
             ts := frame.2
             provided := loop.provided ++ [provideTxts frame.1 frame.2] } rest held left
          (Nat.lt_of_succ_lt_succ enough)
      refine ⟨final, ?_, empty, used, ?_⟩
      · rw [iterate, turn]
        exact finished
      · rw [provided, List.map_cons, List.append_assoc]
        rfl

private theorem stamps_foldl_complete (lawful : driver.Lawful stamps) (frames : List (TxtsInfo × UInt64))
    (initial : δ) : stamps (frames.foldl (fun current frame =>
      driver.complete current (gpnet.key frame.1) frame.2) initial) =
      stamps initial ++ frames.map fun frame => (gpnet.key frame.1, frame.2) := by
  induction frames generalizing initial with
  | nil => simp
  | cons frame rest ih => rw [List.foldl_cons, ih, lawful.complete, List.append_assoc]; rfl

end Loop

/-- A failed send takes no entry of another frame, a transmitted event message finds room,
and the queue is worked off only when every frame in it is stamped. -/
def TxtsState.Permitted (state : TxtsState δ) : TxtsEvent → Prop
  | .send call => (call.transmitted = false → call.Undisturbed state.queue.contents) ∧
      (call.transmitted = true → call.isEvent = true → state.queue.contents.length < maxTxtsInfo)
  | .processTxts stamps _ => stamps.length = state.inFlight.length

/-- The queue holds the frames on their way, and all stamped ones are reported. -/
structure TxtsState.Settled (stamps : δ → List (TimestampKey × UInt64)) (state : TxtsState δ) :
    Prop where
  queue : state.queue.Holds state.inFlight
  driver : stamps state.driver = []
  reports : state.reports = state.completions

section Steps

variable {gpnet : Gpnet} {driver : EnetDriver δ} {stamps : δ → List (TimestampKey × UInt64)}
  {initial : δ} {state next : TxtsState δ}

theorem settled_send (settled : state.Settled stamps) (call : SendCall)
    (permitted : state.Permitted (.send call)) : (state.sent call).Settled stamps := by
  obtain ⟨failing, passing⟩ := permitted
  rw [settled.queue.contents] at failing passing
  refine ⟨?_, settled.driver, settled.reports⟩
  have held := holds_gptpnetSend call settled.queue
  change (gptpnetSend call state.queue).1.Holds
    (if call.transmitted && call.isEvent then state.inFlight ++ [call.txtsInfo]
      else state.inFlight)
  cases sent : call.transmitted with
  | false =>
    rw [(leaves_eq_iff call _ sent).mpr (failing sent)] at held
    simpa using held
  | true =>
    have fits : ¬ call.tooLong = true ∧ ¬ call.sendto < 0 := by
      simpa [SendCall.transmitted, Int.not_lt] using sent
    unfold SendCall.leaves at held
    rw [if_neg fits.1, if_neg fits.2, SendCall.pushed] at held
    cases event : call.isEvent with
    | false => simpa [event] using held
    | true => simpa [event, passing sent event] using held

theorem settled_processTxts (lawful : driver.Lawful stamps) (settled : state.Settled stamps)
    (permitted : state.Permitted (.processTxts answers ts))
    (taken : (txtsSystem gpnet driver initial).step state (.processTxts answers ts) = some next) :
    next.Settled stamps := by
  have many : answers.length = state.inFlight.length := permitted
  simp only [txtsSystem, many, Nat.le_refl, if_true] at taken
  obtain ⟨loop, processed, rfl⟩ := Option.map_eq_some_iff.mp taken
  have frames : (state.stamped answers).map Prod.fst = state.inFlight :=
    List.map_fst_zip (Nat.le_of_eq many.symm)
  have ready := stamps_foldl_complete gpnet lawful (state.stamped answers) state.driver
  rw [settled.driver, List.nil_append] at ready
  have bound : (state.stamped answers).length < maxTxtsInfo + 1 := by
    have length := congrArg List.length frames
    rw [List.length_map] at length
    have capacity := settled.queue.length
    omega
  obtain ⟨final, finished, empty, used, provided⟩ :=
    iterate_txtsTurn_reports gpnet lawful
      { queue := state.queue
        driver := state.completed gpnet driver answers
        ts := ts
        provided := state.reports } (state.stamped answers) (frames.symm ▸ settled.queue) ready bound
  rw [processTxts, finished] at processed
  cases processed
  constructor
  · have none : state.inFlight.drop answers.length = [] :=
      List.drop_eq_nil_of_le (Nat.le_of_eq many.symm)
    change final.queue.Holds (state.inFlight.drop answers.length)
    rw [none]
    exact empty
  · exact used
  · change final.provided = state.completions ++ _
    rw [provided, settled.reports]

theorem settled_of_reachable (lawful : driver.Lawful stamps) (idle : stamps initial = [])
    (reachable : (txtsSystem gpnet driver initial).Reachable TxtsState.Permitted state) :
    state.Settled stamps := by
  refine reachable.invariant _ ⟨Ring.holds_empty, idle, rfl⟩ ?_
  intro current event after settled permitted taken
  cases event with
  | send call =>
    simp only [txtsSystem] at taken
    split at taken
    · cases taken
      exact settled_send settled call permitted
    · cases taken
  | processTxts answers ts => exact settled_processTxts lawful settled permitted taken

theorem holds_of_reachable
    (reachable : (txtsSystem gpnet driver initial).Reachable System.anyStep state) :
    state.queue.Holds state.queue.contents := by
  have some : ∃ entries, state.queue.Holds entries := by
    refine reachable.invariant (fun state => ∃ entries, state.queue.Holds entries)
      ⟨[], Ring.holds_empty⟩ ?_
    intro current event after holds _ taken
    obtain ⟨entries, held⟩ := holds
    cases event with
    | send call =>
      simp only [txtsSystem] at taken
      split at taken
      · cases taken
        exact ⟨_, holds_gptpnetSend call held⟩
      · cases taken
    | processTxts answers ts =>
      simp only [txtsSystem] at taken
      split at taken
      · obtain ⟨loop, processed, rfl⟩ := Option.map_eq_some_iff.mp taken
        obtain ⟨⟨final, _⟩, finished, rfl⟩ := Option.map_eq_some_iff.mp processed
        have capacity : entries.length < maxTxtsInfo + 1 := Nat.lt_succ_of_le held.length
        obtain ⟨final', finished', empty⟩ :=
          iterate_txtsTurn_total gpnet driver
            { queue := current.queue
              driver := current.completed gpnet driver answers
              ts := ts
              provided := current.reports } held capacity
        rw [finished'] at finished
        cases finished
        exact ⟨[], empty⟩
      · cases taken
  obtain ⟨entries, held⟩ := some
  rw [held.contents]
  exact held

end Steps

/-- In every run in which a failed send finds nothing else to take, an event message finds
room and the queue is worked off with all its frames stamped, each completion is reported
with the identifiers of its frame, in the order of transmission. In every run, a failed
send leaves the queue as it was if and only if it finds nothing else to take. -/
theorem completions_reported (gpnet : Gpnet) (driver : EnetDriver δ)
    (stamps : δ → List (TimestampKey × UInt64)) (initial : δ) (lawful : driver.Lawful stamps)
    (idle : stamps initial = []) :
    (∀ state, (txtsSystem gpnet driver initial).Reachable TxtsState.Permitted state →
      state.reports = state.completions) ∧
    ∀ state call, (txtsSystem gpnet driver initial).Reachable System.anyStep state →
      call.transmitted = false → ((gptpnetSend call state.queue).1.contents = state.queue.contents ↔
        call.Undisturbed state.queue.contents) := by
  constructor
  · intro state reachable
    exact (settled_of_reachable lawful idle reachable).reports
  · intro state call reachable failed
    have held := holds_of_reachable reachable
    rw [(holds_gptpnetSend call held).contents]
    exact leaves_eq_iff call _ failed

namespace Sample

def driver : EnetDriver (List (TimestampKey × UInt64)) where
  getTxTimestamp stamps key :=
    ((stamps.find? fun stamp => stamp.1 = key).map Prod.snd,
      stamps.eraseP fun stamp => stamp.1 = key)
  complete stamps key ts := stamps ++ [(key, ts)]

private theorem lawful_driver : driver.Lawful id where
  complete _ _ _ := rfl
  found state key ts before after whole absent := by
    have others : ∀ stamp ∈ before, ¬ decide (stamp.1 = key) = true := by simpa using absent
    subst whole
    constructor
    · simp [driver, List.find?_append, List.find?_eq_none.mpr others]
    · simp only [driver, id]
      rw [List.eraseP_append_right _ others, List.eraseP_cons_of_pos (by simp)]
  missing state key absent := by
    have others : ∀ stamp ∈ state, ¬ decide (stamp.1 = key) = true := by simpa using absent
    constructor
    · simp [driver, List.find?_eq_none.mpr others]
    · exact List.eraseP_of_forall_not others

/-- Two ports, and the layer of `jacinto`. -/
def gpnet : Gpnet where
  macports := [0, 1]
  lldtsync := .jacinto

def call (msgtype sequenceId : UInt8) (sendto : Int) : SendCall where
  ndevIndex := 0
  pdata index := if index = 0 then 0x10 + msgtype else if index = 31 then sequenceId else 0
  length := 54
  sendto := sendto

def events : List TxtsEvent :=
  [.send (call 2 1 68), .send (call 3 7 68), .processTxts [1000, 2000] 0, .send (call 2 2 (-1))]

def permitted (state : TxtsState (List (TimestampKey × UInt64))) : TxtsEvent → Bool
  | .send call => if call.transmitted then decide (state.queue.contents.length < maxTxtsInfo)
      else state.queue.contents.isEmpty
  | .processTxts stamps _ => stamps.length == state.inFlight.length

theorem permitted_sound (state : TxtsState (List (TimestampKey × UInt64))) (event : TxtsEvent)
    (passed : permitted state event = true) : state.Permitted event := by
  cases event with
  | send call =>
    simp only [permitted] at passed
    split at passed
    · rename_i sent
      exact ⟨fun failed => absurd (sent.symm.trans failed) nofun, fun _ _ => of_decide_eq_true passed⟩
    · rename_i failed
      exact ⟨fun _ => Or.inr (Or.inl (List.isEmpty_iff.mp passed)), fun sent => absurd sent failed⟩
  | processTxts stamps ts => exact beq_iff_eq.mp passed

end Sample

open Sample in
theorem completions_reported_sampled :
    (∃ state, (txtsSystem gpnet driver []).Reachable TxtsState.Permitted state ∧
      state.reports = state.completions ∧ state.reports.length = 2) ∧
    (gptpnetSend (call 2 2 (-1)) Ring.empty).1.contents = (Ring.empty : TxtsQueue).contents := by
  have law := completions_reported gpnet driver id [] lawful_driver rfl
  constructor
  · have ran : (((txtsSystem gpnet driver []).restrict permitted).run
        (txtsSystem gpnet driver []).start events).map (fun state => state.reports.length) =
        some 2 := by decide +kernel
    obtain ⟨state, finished, length⟩ := Option.map_eq_some_iff.mp ran
    have reachable : (txtsSystem gpnet driver []).Reachable TxtsState.Permitted state :=
      (System.reachable_of_run finished).of_restrict permitted_sound
    exact ⟨state, reachable, law.1 state reachable, length⟩
  · exact (law.2 (txtsSystem gpnet driver []).start (call 2 2 (-1)) .start (by decide +kernel)).mpr
      (Or.inr (Or.inl (by decide +kernel)))

/-- A send that fails takes the entry of the frame before it from the queue: what is left is
the entry of the frame that was not sent, and the completion is not reported. -/
theorem completion_lost :
    ∃ state after, (txtsSystem Sample.gpnet Sample.driver []).Reachable System.anyStep state ∧
      (Sample.call 2 2 (-1)).transmitted = false ∧
      (gptpnetSend (Sample.call 2 2 (-1)) state.queue).1.contents ≠ state.queue.contents ∧
      (txtsSystem Sample.gpnet Sample.driver []).run state
        [.send (Sample.call 2 2 (-1)), .processTxts [1000] 0] = some after ∧
      after.reports = [] ∧ after.completions = [provideTxts (Sample.call 2 1 68).txtsInfo 1000] := by
  have start : ((txtsSystem Sample.gpnet Sample.driver []).run
      (txtsSystem Sample.gpnet Sample.driver []).start [.send (Sample.call 2 1 68)]).isSome := by
    decide +kernel
  obtain ⟨state, finished⟩ := Option.isSome_iff_exists.mp start
  have reached := finished
  have same : state = (txtsSystem Sample.gpnet Sample.driver []).start.sent (Sample.call 2 1 68) := by
    simpa [System.run, txtsSystem, Sample.gpnet, Sample.call] using finished.symm
  subst same
  have lost : ((txtsSystem Sample.gpnet Sample.driver []).run
      ((txtsSystem Sample.gpnet Sample.driver []).start.sent (Sample.call 2 1 68))
      [.send (Sample.call 2 2 (-1)), .processTxts [1000] 0]).map
        (fun after => (after.reports, after.completions)) =
      some ([], [provideTxts (Sample.call 2 1 68).txtsInfo 1000]) := by decide +kernel
  obtain ⟨after, ended, values⟩ := Option.map_eq_some_iff.mp lost
  exact ⟨_, after, System.reachable_of_run reached, by decide +kernel, by decide +kernel, ended,
    congrArg Prod.fst values, congrArg Prod.snd values⟩

end EnetTsn.Net
