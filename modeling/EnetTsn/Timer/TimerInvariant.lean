import EnetTsn.Timer.XTimer

namespace EnetTsn.Timer

open EnetTsn.Library

variable {τ β : Type} [DecidableEq τ]

def Record.timer : Record τ β → τ
  | .started timer | .expired timer | .called timer _ | .stopped timer => timer

/-- What a timer is for, without lists: it runs, it waits for its callback, or neither. -/
inductive Life where
  | idle
  | running
  | expired
  deriving DecidableEq, Repr

/-- The life of a timer after what happens to it; none is what must not happen to it. -/
def Life.after (life : Life) (record : Record τ β) : Option Life :=
  match life, record with
  | .idle, .started _ => some .running
  | .running, .expired _ => some .expired
  | .expired, .called _ _ => some .idle
  | .idle, .stopped _ | .running, .stopped _ => some .idle
  | _, _ => none

def lifeOf (timer : τ) : List (Record τ β) → Option Life
  | [] => some .idle
  | record :: earlier =>
    if record.timer = timer then (lifeOf timer earlier).bind (·.after record)
    else lifeOf timer earlier

namespace XtimerMan

def isRunning (man : XtimerMan τ β) (timer : τ) : Bool :=
  (man.ndata timer).any (·.isRunning)

def abstime (man : XtimerMan τ β) (timer : τ) : UInt64 :=
  ((man.ndata timer).map (·.abstimeNsec)).getD 0

variable (man : XtimerMan τ β)

@[simp] theorem setNdata_heap (timer : τ) (tdata : XtimerNdata β) :
    (man.setNdata timer tdata).heap = man.heap := rfl

@[simp] theorem setNdata_runningTimers (timer : τ) (tdata : XtimerNdata β) :
    (man.setNdata timer tdata).runningTimers = man.runningTimers := rfl

@[simp] theorem setNdata_self (timer : τ) (tdata : XtimerNdata β) :
    (man.setNdata timer tdata).ndata timer = some tdata :=
  Function.update_self _ _ _

theorem setNdata_other (tdata : XtimerNdata β) (different : other ≠ timer) :
    (man.setNdata timer tdata).ndata other = man.ndata other :=
  Function.update_of_ne different _ _

end XtimerMan

theorem isRunning_setNdata (man : XtimerMan τ β) (timer : τ) (tdata : XtimerNdata β) (other : τ) :
    (man.setNdata timer tdata).isRunning other =
      if other = timer then tdata.isRunning else man.isRunning other := by
  by_cases same : other = timer
  · rw [if_pos same, same, XtimerMan.isRunning, XtimerMan.setNdata_self]
    rfl
  · rw [if_neg same, XtimerMan.isRunning, XtimerMan.setNdata_other man tdata same]
    rfl

theorem abstime_setNdata (man : XtimerMan τ β) (timer : τ) (tdata : XtimerNdata β) (other : τ) :
    (man.setNdata timer tdata).abstime other =
      if other = timer then tdata.abstimeNsec else man.abstime other := by
  by_cases same : other = timer
  · rw [if_pos same, same, XtimerMan.abstime, XtimerMan.setNdata_self]
    rfl
  · rw [if_neg same, XtimerMan.abstime, XtimerMan.setNdata_other man tdata same]
    rfl

theorem isSome_setNdata (man : XtimerMan τ β) (timer : τ) (tdata : XtimerNdata β)
    (present : (man.ndata timer).isSome) (other : τ) :
    ((man.setNdata timer tdata).ndata other).isSome = (man.ndata other).isSome := by
  by_cases same : other = timer
  · rw [same, XtimerMan.setNdata_self, present]
    rfl
  · rw [XtimerMan.setNdata_other man tdata same]

variable {man added : XtimerMan τ β} {state next : TimerState τ β} {timer other : τ}
  {running : List τ} {parts : List (List τ)} {tdata : XtimerNdata β}

def Queued (heap : LinkHeap τ) (calls : List (ScheduleCall τ)) (parts : List (List τ)) : Prop :=
  List.Forall₂ (fun call nodes => Linked heap call.expiredTimers nodes) calls parts

def lifeIn (running waiting : List τ) (timer : τ) : Life :=
  if timer ∈ running then .running else if timer ∈ waiting then .expired else .idle

/-- The running list and the lists of the passes under way, and what they say about the
timers. -/
structure TimerState.Holds (state : TimerState τ β) (running : List τ) (parts : List (List τ)) :
    Prop where
  linked : Linked state.man.heap state.man.runningTimers running
  queued : Queued state.man.heap state.calls parts
  once : (running ++ parts.flatten).Nodup
  allocated : ∀ timer, (state.man.heap timer).isSome = (state.man.ndata timer).isSome
  marked : ∀ timer, state.man.isRunning timer = true ↔ timer ∈ running ++ parts.flatten
  sorted : running.Pairwise fun first second => state.man.abstime first ≤ state.man.abstime second
  current : ∀ call ∈ state.calls, ∀ timer, call.point = .callback timer →
    (state.man.ndata timer).isSome
  lives : ∀ timer, lifeOf timer state.history = some (lifeIn running parts.flatten timer)

omit [DecidableEq τ] in
theorem Queued.disjoint (queued : Queued heap calls parts) (agree : AgreeOutside nodes heap changed)
    (apart : ∀ node ∈ parts.flatten, node ∉ nodes) : Queued changed calls parts := by
  induction queued with
  | nil => exact .nil
  | cons linked _ ih =>
    refine .cons (linked.disjoint agree ?_) (ih ?_)
    · intro node member
      exact apart node (List.mem_append_left _ member)
    · intro node member
      exact apart node (List.mem_append_right _ member)

/-- A timer has come to stand in the running list, between the timers that expire no later
and the ones that expire no earlier. -/
structure PlacedAt (man added : XtimerMan τ β) (timer : τ) (abstimeNsec : UInt64)
    (first second : List τ) : Prop where
  ndata : added.ndata = man.ndata
  inserted : Inserted man.heap added.heap added.runningTimers first timer second
  before : ∀ node ∈ first, man.abstime node ≤ abstimeNsec
  after : ∀ node ∈ second, abstimeNsec ≤ man.abstime node

omit [DecidableEq τ] in
private theorem PlacedAt.sorted (placed : PlacedAt man added timer abstimeNsec first second)
    (own : man.abstime timer = abstimeNsec)
    (order : (first ++ second).Pairwise fun one other => man.abstime one ≤ man.abstime other) :
    (first ++ timer :: second).Pairwise fun one other =>
      added.abstime one ≤ added.abstime other := by
  have sameTimes : ∀ other, added.abstime other = man.abstime other := by
    intro other
    rw [XtimerMan.abstime, placed.ndata]
    rfl
  simp only [sameTimes]
  apply pairwise_insert order
  · intro node member
    rw [own]
    exact placed.before node member
  · intro node member
    rw [own]
    exact placed.after node member

theorem append_placed (linked : Linked man.heap man.runningTimers running)
    (fresh : timer ∉ running) (allocated : (man.heap timer).isSome)
    (abstimeNsec : UInt64) (low : ∀ node ∈ running, man.abstime node ≤ abstimeNsec) :
    ∃ added, (man.runningTimers.append man.heap timer).map man.relinked = some added ∧
      PlacedAt man added timer abstimeNsec running [] := by
  obtain ⟨heap, grown, appended, atEnd⟩ := linked.append allocated fresh
  refine ⟨man.relinked (heap, grown), by rw [appended]; rfl, ?_⟩
  exact {
    ndata := rfl
    inserted := atEnd
    before := low
    after := fun _ impossible => absurd impossible List.not_mem_nil }

theorem insertTimer_placed (linked : Linked man.heap man.runningTimers running)
    (fresh : timer ∉ running) (allocated : (man.heap timer).isSome)
    (present : ∀ node ∈ running, (man.ndata node).isSome)
    (sorted : running.Pairwise fun first second => man.abstime first ≤ man.abstime second)
    (abstimeNsec : UInt64) : ∃ added first second, insertTimer man timer abstimeNsec = some added ∧
      running = first ++ second ∧ PlacedAt man added timer abstimeNsec first second := by
  rcases List.eq_nil_or_concat running with rfl | ⟨inner, last, rfl⟩
  · obtain ⟨added, appended, placed⟩ := append_placed linked fresh allocated
      abstimeNsec fun _ impossible => absurd impossible List.not_mem_nil
    refine ⟨added, [], [], ?_, rfl, placed⟩
    rw [insertTimer, linked.tail]
    exact appended
  rw [List.concat_eq_append] at *
  have tail : man.runningTimers.tail = some last := by
    rw [linked.tail, List.getLast?_concat]
  obtain ⟨lastData, found⟩ := Option.isSome_iff_exists.mp
    (present last (List.mem_append_right _ List.mem_cons_self))
  have lastTime : man.abstime last = lastData.abstimeNsec := by
    rw [XtimerMan.abstime, found]
    rfl
  by_cases late : lastData.abstimeNsec ≤ abstimeNsec
  · -- no timer expires later than the last one
    obtain ⟨added, appended, placed⟩ := append_placed linked fresh allocated abstimeNsec (by
        intro node member
        rcases List.mem_append.mp member with before | atLast
        · have order := (List.pairwise_append.mp sorted).2.2 node before last List.mem_cons_self
          exact UInt64.le_trans order (lastTime ▸ late)
        · rw [List.mem_singleton.mp atLast, lastTime]
          exact late)
    refine ⟨added, inner ++ [last], [], ?_, (List.append_nil _).symm, placed⟩
    rw [insertTimer, tail]
    simp only [found, Option.bind_eq_bind, Option.bind_some]
    rw [if_pos late]
    exact appended
  · -- the last timer expires later, so that the search finds a place
    have searched : insertionPlace man abstimeNsec =
        some ((inner ++ [last]).find? fun node => abstimeNsec ≤ man.abstime node) := by
      apply linked.search
      intro node member
      obtain ⟨nodeData, there⟩ := Option.isSome_iff_exists.mp (present node member)
      rw [XtimerMan.abstime, there]
      rfl
    have exists_place : ((inner ++ [last]).find? fun node =>
        decide (abstimeNsec ≤ man.abstime node)).isSome := by
      apply List.find?_isSome.mpr
      refine ⟨last, List.mem_append_right _ List.mem_cons_self, ?_⟩
      rw [lastTime]
      exact decide_eq_true (UInt64.le_of_lt (UInt64.not_le.mp late))
    obtain ⟨place, atPlace⟩ := Option.isSome_iff_exists.mp exists_place
    obtain ⟨accepted, first, second, split, rejected⟩ := List.find?_eq_some_iff_append.mp atPlace
    have high : abstimeNsec ≤ man.abstime place := of_decide_eq_true accepted
    rw [atPlace] at searched
    rw [split] at linked fresh sorted
    obtain ⟨heap, grown, inserted, between⟩ := linked.insertBefore allocated fresh
    refine ⟨man.relinked (heap, grown), first, place :: second, ?_, split, ?_⟩
    · rw [insertTimer, tail]
      simp only [found, Option.bind_eq_bind, Option.bind_some]
      rw [if_neg late, searched, Option.bind_some]
      simp only [inserted]
      rfl
    · exact {
        ndata := rfl
        inserted := between
        before := by
          intro node member
          have low := rejected node member
          exact (UInt64.le_total _ _).resolve_right fun reached => by simp [reached] at low
        after := by
          intro node member
          rcases List.mem_cons.mp member with rfl | later
          · exact high
          · have order := (List.pairwise_append.mp sorted).2.1
            exact UInt64.le_trans high ((List.pairwise_cons.mp order).1 node later) }

section Histories

variable {history : List (Record τ β)} {running' waiting waiting' : List τ}

theorem lives_record (record : Record τ β)
    (lives : ∀ other, lifeOf other history = some (lifeIn running waiting other))
    (own : (lifeIn running waiting record.timer).after record =
      some (lifeIn running' waiting' record.timer)) (others : ∀ other, other ≠ record.timer →
      (other ∈ running' ↔ other ∈ running) ∧ (other ∈ waiting' ↔ other ∈ waiting)) :
    ∀ other, lifeOf other (record :: history) = some (lifeIn running' waiting' other) := by
  intro other
  by_cases same : record.timer = other
  · rw [lifeOf, if_pos same, lives, ← same]
    exact own
  · obtain ⟨sameRunning, sameWaiting⟩ := others other (Ne.symm same)
    rw [lifeOf, if_neg same, lives]
    simp only [lifeIn, sameRunning, sameWaiting]

theorem lifeIn_running (member : timer ∈ running) : lifeIn running waiting timer = .running :=
  if_pos member

theorem lifeIn_waiting (outside : timer ∉ running) (member : timer ∈ waiting) :
    lifeIn running waiting timer = .expired := by
  rw [lifeIn, if_neg outside, if_pos member]

theorem lifeIn_idle (outside : timer ∉ running) (absent : timer ∉ waiting) :
    lifeIn running waiting timer = .idle := by
  rw [lifeIn, if_neg outside, if_neg absent]

end Histories

namespace TimerState

section

variable (holds : state.Holds running parts)
include holds

theorem Holds.isSome_of_running (member : timer ∈ running) : (state.man.ndata timer).isSome := by
  obtain ⟨links, found⟩ := holds.linked.segment.allocated member
  rw [← holds.allocated, found]
  rfl

section

variable (found : state.man.ndata timer = some tdata)
include found

theorem Holds.setNdata (changed : XtimerNdata β) (isRunning : changed.isRunning = tdata.isRunning)
    (abstime : changed.abstimeNsec = tdata.abstimeNsec) :
    (state.withMan (state.man.setNdata timer changed)).Holds running parts := by
  have present : (state.man.ndata timer).isSome := by
    rw [found]
    rfl
  have sameRunning : ∀ other, (state.man.setNdata timer changed).isRunning other =
      state.man.isRunning other := by
    intro other
    rw [isRunning_setNdata]
    split
    · rename_i same
      rw [same, isRunning, XtimerMan.isRunning, found]
      rfl
    · rfl
  have sameAbstime : ∀ other, (state.man.setNdata timer changed).abstime other =
      state.man.abstime other := by
    intro other
    rw [abstime_setNdata]
    split
    · rename_i same
      rw [same, abstime, XtimerMan.abstime, found]
      rfl
    · rfl
  exact {
    linked := holds.linked
    queued := holds.queued
    once := holds.once
    allocated := fun other => (holds.allocated other).trans
      (isSome_setNdata _ _ _ present other).symm
    marked := fun other => by
      rw [withMan, sameRunning]
      exact holds.marked other
    sorted := by
      simp only [withMan, sameAbstime]
      exact holds.sorted
    current := fun call member other atCallback => by
      rw [withMan, isSome_setNdata _ _ _ present]
      exact holds.current call member other atCallback
    lives := holds.lives }

theorem Holds.addTimerAbstime (abstimeNsec : UInt64) :
    ∃ result, Timer.addTimerAbstime state.man timer abstimeNsec = some result ∧
      (result.1.ndata timer).isSome ∧ ∃ running', (state.started timer result).Holds running' parts := by
  have present : (state.man.ndata timer).isSome := by
    rw [found]
    rfl
  by_cases runs : tdata.isRunning
  · have unchanged : state.started timer (state.man, -2) = state := rfl
    refine ⟨(state.man, -2), ?_, present, running, unchanged.symm ▸ holds⟩
    rw [Timer.addTimerAbstime, found]
    exact if_pos runs
  have stopped : timer ∉ running ++ parts.flatten := by
    intro member
    have running := (holds.marked timer).mpr member
    rw [XtimerMan.isRunning, found] at running
    exact runs running
  have outside : timer ∉ running := fun member => stopped (List.mem_append_left _ member)
  have absent : timer ∉ parts.flatten := fun member => stopped (List.mem_append_right _ member)
  let marked := state.man.setNdata timer { tdata with
    isRunning := true
    abstimeNsec := abstimeNsec }
  have sameAbstime : ∀ other ∈ running, marked.abstime other = state.man.abstime other := by
    intro other member
    have different : other ≠ timer := fun same => outside (same ▸ member)
    rw [abstime_setNdata, if_neg different]
  have markedSorted : running.Pairwise fun first second =>
      marked.abstime first ≤ marked.abstime second := by
    apply holds.sorted.imp_of_mem
    intro first second firstMember secondMember order
    rw [sameAbstime _ firstMember, sameAbstime _ secondMember]
    exact order
  have linked : Linked marked.heap marked.runningTimers running := holds.linked
  have available : (marked.heap timer).isSome := by
    rw [XtimerMan.setNdata_heap, holds.allocated, present]
  obtain ⟨added, first, second, inserted, split, placed⟩ := insertTimer_placed linked outside
    available (fun node member => by
      rw [isSome_setNdata _ _ _ present]
      exact holds.isSome_of_running member) markedSorted abstimeNsec
  refine ⟨(added, 0), ?_, ?_, first ++ timer :: second, ?_⟩
  · rw [Timer.addTimerAbstime, found]
    simp only [Option.bind_eq_bind, Option.bind_some]
    rw [if_neg runs, inserted]
    rfl
  · rw [placed.ndata, XtimerMan.setNdata_self]
    rfl
  · have members : ∀ other, other ∈ first ++ timer :: second ↔ other = timer ∨ other ∈ running := by
      intro other
      rw [split]
      simp only [List.mem_append, List.mem_cons]
      tauto
    exact {
      linked := placed.inserted.linked
      queued := holds.queued.disjoint placed.inserted.agree (by
        intro node member inner
        rcases (members node).mp inner with rfl | there
        · exact absent member
        · exact List.disjoint_of_nodup_append holds.once there member)
      once := by
        have whole := holds.once
        rw [split, List.append_assoc] at whole
        rw [List.append_assoc, List.cons_append]
        apply nodup_insert whole
        rw [← List.append_assoc, ← split]
        exact stopped
      allocated := fun other => by
        change (added.heap other).isSome = (added.ndata other).isSome
        have linked := holds.linked
        rw [split] at linked
        rw [placed.ndata, isSome_setNdata _ _ _ present, ← holds.allocated]
        exact placed.inserted.isSome linked available other
      marked := fun other => by
        change added.isRunning other = true ↔ _
        rw [XtimerMan.isRunning, placed.ndata, ← XtimerMan.isRunning, isRunning_setNdata,
          List.mem_append, members]
        by_cases same : other = timer
        · simp [same]
        · rw [if_neg same, holds.marked, List.mem_append]
          simp [same]
      sorted := by
        refine placed.sorted ?_ (split ▸ markedSorted)
        rw [abstime_setNdata, if_pos rfl]
      current := fun call member other atCallback => by
        change (added.ndata other).isSome = true
        rw [placed.ndata, isSome_setNdata _ _ _ present]
        exact holds.current call member other atCallback
      lives := by
        apply lives_record (Record.started timer) holds.lives
        · change (lifeIn running parts.flatten timer).after _ = some (lifeIn _ _ timer)
          rw [lifeIn_idle outside absent, lifeIn_running ((members timer).mpr (.inl rfl))]
          rfl
        · intro other different
          refine ⟨(members other).trans ?_, Iff.rfl⟩
          exact or_iff_right different }

theorem Holds.start (timeoutUs : UInt32) (now : UInt64) :
    ∃ result, cbXtimerStart state.man timer timeoutUs now = some result ∧
      ∃ running', (state.started timer result).Holds running' parts := by
  obtain ⟨⟨man, res⟩, added, present, running', placed⟩ :=
    holds.addTimerAbstime found (startAbstime tdata timeoutUs now)
  by_cases failed : res ≠ 0
  · refine ⟨(man, res), ?_, running', placed⟩
    rw [cbXtimerStart, found]
    simp only [Option.bind_eq_bind, Option.bind_some]
    rw [added]
    exact if_pos failed
  · obtain ⟨started, there⟩ := Option.isSome_iff_exists.mp present
    obtain rfl : res = 0 := not_not.mp failed
    refine ⟨(man.setNdata timer { started with timeoutUs := timeoutUs }, 0), ?_, running', ?_⟩
    · have after : man.ndata timer = some started := there
      rw [cbXtimerStart, found]
      simp only [Option.bind_eq_bind, Option.bind_some]
      rw [added]
      simp only [Option.bind_some, ne_eq, not_true_eq_false, if_false, after]
    · exact placed.setNdata there { started with timeoutUs := timeoutUs } rfl rfl

structure Withdrawn (man left : XtimerMan τ β) (running left' : List τ) (timer : τ) : Prop where
  ndata : left.ndata = man.ndata
  linked : Linked left.heap left.runningTimers left'
  agree : AgreeOutside running man.heap left.heap
  isSome : ∀ other, (left.heap other).isSome = (man.heap other).isSome
  sublist : left'.Sublist running
  members : ∀ other, other ∈ left' ↔ other ≠ timer ∧ other ∈ running

/-- `cb_xtimer_stop` and `cb_xtimer_delete` take a timer out of the running list. -/
theorem Holds.withdraw (awake : timer ∉ parts.flatten) :
    ∃ left left', leaveRunning state.man timer tdata = some left ∧
      Withdrawn state.man left running left' timer := by
  have marked : tdata.isRunning = true ↔ timer ∈ running := by
    have marked := holds.marked timer
    rw [XtimerMan.isRunning, found, List.mem_append, or_iff_left awake] at marked
    exact marked
  by_cases runs : tdata.isRunning
  · have member := marked.mp runs
    obtain ⟨first, second, rfl⟩ := List.append_of_mem member
    obtain ⟨heap, shrunk, result, unlinked⟩ := holds.linked.unlink
    refine ⟨state.man.relinked (heap, shrunk), first ++ second, ?_, ?_⟩
    · rw [leaveRunning, if_pos runs, result]
      rfl
    · have outside : timer ∉ first ++ second :=
        (List.nodup_cons.mp (List.nodup_middle.mp holds.linked.nodup)).1
      exact {
        ndata := rfl
        linked := unlinked.linked
        agree := unlinked.agree
        isSome := unlinked.isSome holds.linked
        sublist := List.Sublist.append_left (List.sublist_cons_self _ _) _
        members := fun other => by
          rw [List.mem_append, List.mem_append, List.mem_cons]
          constructor
          · intro inside
            have different : other ≠ timer := fun same =>
              outside (List.mem_append.mpr (same ▸ inside))
            exact ⟨different, inside.imp_right .inr⟩
          · rintro ⟨different, inside⟩
            exact inside.imp_right fun rest => rest.resolve_left different }
  · have outside : timer ∉ running := fun member => runs (marked.mpr member)
    refine ⟨state.man, running, if_neg runs, ?_⟩
    exact {
      ndata := rfl
      linked := holds.linked
      agree := fun _ _ => rfl
      isSome := fun _ => rfl
      sublist := List.Sublist.refl _
      members := fun other => by
        rw [iff_and_self]
        intro member same
        exact outside (same ▸ member) }

end

theorem Holds.stopped (awake : timer ∉ parts.flatten)
    (withdrawn : Withdrawn state.man left running left' timer)
    (linked : Linked man.heap man.runningTimers left')
    (agree : AgreeOutside (timer :: running) state.man.heap man.heap)
    (allocated : ∀ other, (man.heap other).isSome = (man.ndata other).isSome)
    (quiet : man.isRunning timer = false)
    (others : ∀ other, other ≠ timer → man.ndata other = state.man.ndata other)
    (current : ∀ call ∈ state.calls, ∀ other, call.point = .callback other →
      (man.ndata other).isSome) : (state.stopped timer man).Holds left' parts := by
  have outside : timer ∉ left' := fun member => ((withdrawn.members timer).mp member).1 rfl
  have sameTimes : ∀ other ∈ left', man.abstime other = state.man.abstime other := by
    intro other member
    rw [XtimerMan.abstime, others other ((withdrawn.members other).mp member).1]
    rfl
  exact {
    linked := linked
    queued := holds.queued.disjoint agree (by
      intro node member inside
      rcases List.mem_cons.mp inside with rfl | inRunning
      · exact awake member
      · exact List.disjoint_of_nodup_append holds.once inRunning member)
    once := holds.once.sublist (List.Sublist.append_right withdrawn.sublist _)
    allocated := allocated
    marked := fun other => by
      change man.isRunning other = true ↔ _
      by_cases same : other = timer
      · rw [same, quiet, List.mem_append, or_iff_left awake]
        simp [outside]
      · have unchanged : man.isRunning other = state.man.isRunning other := by
          rw [XtimerMan.isRunning, others other same]
          rfl
        rw [unchanged, holds.marked, List.mem_append, List.mem_append, withdrawn.members]
        simp [same]
    sorted := by
      apply (holds.sorted.sublist withdrawn.sublist).imp_of_mem
      intro first second firstMember secondMember order
      change man.abstime first ≤ man.abstime second
      rw [sameTimes first firstMember, sameTimes second secondMember]
      exact order
    current := current
    lives := by
      apply lives_record (Record.stopped timer) holds.lives
      · change (lifeIn running parts.flatten timer).after _ = some (lifeIn _ _ timer)
        rw [lifeIn_idle outside awake]
        by_cases member : timer ∈ running
        · rw [lifeIn_running member]
          rfl
        · rw [lifeIn_idle member awake]
          rfl
      · intro other different
        refine ⟨(withdrawn.members other).trans ?_, Iff.rfl⟩
        exact and_iff_right different }

theorem Holds.stop (found : state.man.ndata timer = some tdata) (awake : timer ∉ parts.flatten) :
    ∃ man, cbXtimerStop state.man timer = some man ∧
      ∃ left', (state.stopped timer man).Holds left' parts := by
  obtain ⟨left, left', taken, withdrawn⟩ := holds.withdraw found awake
  let silent : XtimerNdata β := { tdata with
    isRunning := false
    isPeriodic := false }
  have present : (left.ndata timer).isSome := by
    rw [withdrawn.ndata, found]
    rfl
  have allocated : ∀ other, (left.heap other).isSome =
      ((left.setNdata timer silent).ndata other).isSome := by
    intro other
    rw [withdrawn.isSome, holds.allocated, isSome_setNdata _ _ _ present, withdrawn.ndata]
  refine ⟨left.setNdata timer silent, ?_, left', ?_⟩
  · rw [cbXtimerStop, found]
    simp only [Option.bind_eq_bind, Option.bind_some]
    rw [taken]
    rfl
  · have agree : AgreeOutside (timer :: running) state.man.heap left.heap :=
      withdrawn.agree.mono fun node member => List.mem_cons_of_mem _ member
    have linked : Linked (left.setNdata timer silent).heap
        (left.setNdata timer silent).runningTimers left' := withdrawn.linked
    apply holds.stopped awake withdrawn linked agree allocated
    · rw [isRunning_setNdata, if_pos rfl]
    · intro other different
      rw [XtimerMan.setNdata_other _ _ different, withdrawn.ndata]
    · intro call member other atCallback
      rw [isSome_setNdata _ _ _ present, withdrawn.ndata]
      exact holds.current call member other atCallback

theorem Holds.delete (found : state.man.ndata timer = some tdata) (awake : timer ∉ parts.flatten)
    (returned : ∀ call ∈ state.calls, call.point ≠ .callback timer) :
    ∃ man, cbXtimerDelete state.man timer = some man ∧
      ∃ left', (state.stopped timer man).Holds left' parts := by
  obtain ⟨left, left', taken, withdrawn⟩ := holds.withdraw found awake
  refine ⟨{ left with
    heap := Function.update left.heap timer none
    ndata := Function.update left.ndata timer none }, ?_, left', ?_⟩
  · rw [cbXtimerDelete, found]
    simp only [Option.bind_eq_bind, Option.bind_some]
    rw [taken]
    rfl
  · have outside : timer ∉ left' := fun member => ((withdrawn.members timer).mp member).1 rfl
    have freed : AgreeOutside [timer] left.heap (Function.update left.heap timer none) :=
      agreeOutside_update _
    apply holds.stopped awake withdrawn
    · apply withdrawn.linked.disjoint freed
      intro node member same
      exact outside (List.mem_singleton.mp same ▸ member)
    · exact (withdrawn.agree.mono fun node member => List.mem_cons_of_mem _ member).trans
        (freed.mono fun node member => List.mem_singleton.mp member ▸ List.mem_cons_self)
    · intro other
      by_cases same : other = timer
      · rw [same]
        simp
      · change (Function.update left.heap timer none other).isSome =
          (Function.update left.ndata timer none other).isSome
        rw [Function.update_of_ne same, Function.update_of_ne same, withdrawn.isSome,
          holds.allocated, withdrawn.ndata]
    · rw [XtimerMan.isRunning]
      simp
    · intro other different
      change Function.update left.ndata timer none other = _
      rw [Function.update_of_ne different, withdrawn.ndata]
    · intro call member other atCallback
      have different : other ≠ timer := fun same => returned call member (same ▸ atCallback)
      change (Function.update left.ndata timer none other).isSome = true
      rw [Function.update_of_ne different, withdrawn.ndata]
      exact holds.current call member other atCallback

theorem Holds.create (expirecb : Option β)
    (noData : state.man.ndata timer = none) (noNode : state.man.heap timer = none) :
    (state.withMan (cbXtimerCreate state.man timer expirecb)).Holds running parts := by
  have agree : AgreeOutside [timer] state.man.heap
      (cbXtimerCreate state.man timer expirecb).heap := agreeOutside_update _
  have others : ∀ other, other ≠ timer →
      (cbXtimerCreate state.man timer expirecb).ndata other = state.man.ndata other :=
    fun other different => Function.update_of_ne different _ _
  have outside : timer ∉ running ++ parts.flatten := by
    intro member
    have runs := (holds.marked timer).mpr member
    rw [XtimerMan.isRunning, noData] at runs
    cases runs
  have apartRunning : ∀ node ∈ running, node ≠ timer := by
    intro node member same
    exact outside (List.mem_append_left _ (same ▸ member))
  have sameTimes : ∀ other ∈ running, (cbXtimerCreate state.man timer expirecb).abstime other =
      state.man.abstime other := by
    intro other member
    rw [XtimerMan.abstime, others other (apartRunning other member)]
    rfl
  exact {
    linked := by
      apply holds.linked.disjoint agree
      intro node member same
      exact apartRunning node member (List.mem_singleton.mp same)
    queued := by
      apply holds.queued.disjoint agree
      intro node member same
      exact outside (List.mem_append_right _ (List.mem_singleton.mp same ▸ member))
    once := holds.once
    allocated := fun other => by
      by_cases same : other = timer
      · rw [same]
        simp [withMan, cbXtimerCreate]
      · rw [withMan, others other same, ← holds.allocated]
        exact congrArg Option.isSome (Function.update_of_ne same _ _)
    marked := fun other => by
      rw [withMan]
      by_cases same : other = timer
      · rw [same, iff_false_right outside, XtimerMan.isRunning]
        simp [cbXtimerCreate]
      · rw [← holds.marked, XtimerMan.isRunning, others other same]
        rfl
    sorted := by
      apply holds.sorted.imp_of_mem
      intro first second firstMember secondMember order
      change (cbXtimerCreate state.man timer expirecb).abstime first ≤
        (cbXtimerCreate state.man timer expirecb).abstime second
      rw [sameTimes first firstMember, sameTimes second secondMember]
      exact order
    current := fun call member other atCallback => by
      have present := holds.current call member other atCallback
      have different : other ≠ timer := by
        rintro rfl
        rw [noData] at present
        cases present
      rw [withMan, others other different]
      exact present
    lives := holds.lives }

theorem Holds.schedule (now : UInt64) :
    Holds { state with calls := ⟨now, ListHeader.empty, .collect⟩ :: state.calls } running
      ([] :: parts) :=
  { holds with
    queued := .cons linked_empty holds.queued
    current := by
      intro call member other atCallback
      rcases List.mem_cons.mp member with rfl | outer
      · cases atCallback
      · exact holds.current call outer other atCallback }

theorem Holds.advance (calls : state.calls = call :: outer)
    (point : SchedulePoint τ) (noCallback : ∀ timer, point ≠ .callback timer) :
    Holds { state with calls := { call with point := point } :: outer } running parts :=
  { holds with
    queued := by
      have queued := holds.queued
      rw [calls] at queued
      cases queued with
      | cons linked rest => exact .cons linked rest
    current := by
      intro inner member other atCallback
      rcases List.mem_cons.mp member with rfl | inOuter
      · exact absurd atCallback (noCallback other)
      · exact holds.current inner (calls ▸ List.mem_cons_of_mem _ inOuter) other atCallback }

theorem Holds.queued_cons (calls : state.calls = call :: outer) :
    ∃ nodes others, parts = nodes :: others ∧ Linked state.man.heap call.expiredTimers nodes ∧
      Queued state.man.heap outer others := by
  have queued := holds.queued
  rw [calls] at queued
  cases queued with
  | cons linked rest => exact ⟨_, _, rfl, linked, rest⟩

end

theorem Holds.collect (holds : state.Holds (tnode :: rest) (nodes :: others))
    (calls : state.calls = call :: outer) (collecting : call.point = .collect) :
    ∃ unlinked appended, state.man.runningTimers.unlink state.man.heap tnode = some unlinked ∧
      call.expiredTimers.append unlinked.1 tnode = some appended ∧ Holds {
        man := state.man.relinked (appended.1, unlinked.2)
        calls := { call with expiredTimers := appended.2 } :: outer
        history := .expired tnode :: state.history } rest ((nodes ++ [tnode]) :: others) := by
  have once := holds.once
  have perm : (tnode :: rest ++ (nodes ++ others.flatten)).Perm
      (rest ++ ((nodes ++ [tnode]) :: others).flatten) := by
    have middle : ((rest ++ nodes) ++ tnode :: others.flatten).Perm
        (tnode :: ((rest ++ nodes) ++ others.flatten)) := List.perm_middle
    simpa using middle.symm
  have onceAfter := perm.nodup_iff.mp once
  have apart := List.disjoint_of_nodup_append once
  have apartAfter := List.disjoint_of_nodup_append onceAfter
  obtain ⟨_, _, equal, queue, queues⟩ := holds.queued_cons calls
  cases equal
  obtain ⟨heap₁, shrunk, unlinked, removed⟩ := holds.linked.unlink_head
  have agree₁ := removed.agree
  have queue₁ : Linked heap₁ call.expiredTimers nodes := by
    apply queue.disjoint agree₁
    intro node member inside
    exact apart inside (List.mem_append_left _ member)
  have fresh : tnode ∉ nodes := fun member =>
    apart List.mem_cons_self (List.mem_append_left _ member)
  obtain ⟨heap₂, grown, appended, added⟩ := queue₁.append (by rw [removed.free]; rfl) fresh
  have onceQueues := (List.nodup_append.mp onceAfter).2.1
  refine ⟨(heap₁, shrunk), (heap₂, grown), unlinked, appended, ?_⟩
  exact {
    linked := by
      apply Linked.disjoint removed.linked added.agree
      intro node member inside
      exact apartAfter member (List.mem_append_left _ inside)
    queued := by
      refine .cons added.linked ((queues.disjoint agree₁ ?_).disjoint added.agree ?_)
      · intro node member inside
        exact apart inside (List.mem_append_right _ member)
      · intro node member inside
        exact List.disjoint_of_nodup_append onceQueues inside member
    once := onceAfter
    allocated := fun other => by
      have second := added.isSome (by simpa using queue₁) (by rw [removed.free]; rfl) other
      have first := removed.isSome holds.linked other
      exact (second.trans first).trans (holds.allocated other)
    marked := fun other => (holds.marked other).trans (by
      exact perm.mem_iff)
    sorted := (List.pairwise_cons.mp holds.sorted).2
    current := by
      intro inner member other atCallback
      rcases List.mem_cons.mp member with rfl | inOuter
      · exact nomatch collecting.symm.trans atCallback
      · exact holds.current inner (calls ▸ List.mem_cons_of_mem _ inOuter) other atCallback
    lives := by
      apply lives_record (Record.expired tnode) holds.lives
      · change (lifeIn (tnode :: rest) _ tnode).after _ = some (lifeIn _ _ tnode)
        have outside : tnode ∉ rest := (List.nodup_cons.mp holds.linked.nodup).1
        rw [lifeIn_running List.mem_cons_self, lifeIn_waiting outside (by simp)]
        rfl
      · intro other different
        replace different : other ≠ tnode := different
        simp [different] }

theorem Holds.collectTurn (holds : state.Holds running parts) (calls : state.calls = call :: outer)
    (collecting : call.point = .collect) : ∃ next, Timer.collectTurn state call outer = some next ∧
      ∃ running' parts', next.Holds running' parts' := by
  have finished := holds.advance calls .process nofun
  cases running with
  | nil =>
    refine ⟨_, ?_, [], parts, finished⟩
    rw [Timer.collectTurn, holds.linked.head]
    rfl
  | cons tnode rest =>
    have first : tnode ∈ tnode :: rest := List.mem_cons_self
    obtain ⟨tdata, found⟩ := Option.isSome_iff_exists.mp (holds.isSome_of_running first)
    by_cases early : call.cts64 < tdata.abstimeNsec
    · refine ⟨_, ?_, tnode :: rest, parts, finished⟩
      rw [Timer.collectTurn, holds.linked.head]
      simp only [List.head?_cons, found, Option.bind_eq_bind, Option.bind_some]
      exact if_pos early
    · obtain ⟨nodes, others, rfl, _, _⟩ := holds.queued_cons calls
      obtain ⟨unlinked, appended, removed, added, moved⟩ := holds.collect calls collecting
      refine ⟨_, ?_, rest, (nodes ++ [tnode]) :: others, moved⟩
      rw [Timer.collectTurn, holds.linked.head]
      simp only [List.head?_cons, found, Option.bind_eq_bind, Option.bind_some]
      rw [if_neg early, removed, Option.bind_some, added]
      rfl

theorem Holds.handle (holds : state.Holds running ((tnode :: rest) :: others))
    (calls : state.calls = call :: outer) (found : state.man.ndata tnode = some tdata)
    (point : SchedulePoint τ) (own : ∀ timer, point = .callback timer → timer = tnode) :
    ∃ unlinked, call.expiredTimers.unlink state.man.heap tnode = some unlinked ∧ Holds {
        man := { state.man with heap := unlinked.1 }.setNdata tnode
          { tdata with isRunning := false }
        calls := { call with
          expiredTimers := unlinked.2
          point := point } :: outer
        history := .called tnode tdata.expirecb :: state.history } running (rest :: others) := by
  have once := holds.once
  have present : (state.man.ndata tnode).isSome := by
    rw [found]
    rfl
  obtain ⟨_, _, equal, queue, queues⟩ := holds.queued_cons calls
  cases equal
  have apart := List.disjoint_of_nodup_append once
  obtain ⟨outside, onceAfter⟩ := List.nodup_cons.mp (List.nodup_middle.mp once)
  have absent : tnode ∉ running := fun member => outside (List.mem_append_left _ member)
  have gone : tnode ∉ (rest :: others).flatten := fun member =>
    outside (List.mem_append_right _ member)
  have onceQueues : ((tnode :: rest) ++ others.flatten).Nodup := (List.nodup_append.mp once).2.1
  obtain ⟨heap₁, shrunk, unlinked, removed⟩ := queue.unlink_head
  have agree₁ := removed.agree
  let quiet : XtimerMan τ β := { state.man with heap := heap₁ }
  have kept : ∀ other, ((quiet.setNdata tnode { tdata with isRunning := false }).ndata other).isSome =
      (state.man.ndata other).isSome := isSome_setNdata quiet tnode _ present
  refine ⟨(heap₁, shrunk), unlinked, ?_⟩
  exact {
    linked := by
      apply holds.linked.disjoint agree₁
      intro node member inside
      exact apart member (List.mem_append_left _ inside)
    queued := by
      refine .cons removed.linked (queues.disjoint agree₁ ?_)
      intro node member inside
      exact List.disjoint_of_nodup_append onceQueues inside member
    once := onceAfter
    allocated := fun other =>
      ((removed.isSome queue other).trans (holds.allocated other)).trans (kept other).symm
    marked := fun other => by
      rw [isRunning_setNdata]
      by_cases same : other = tnode
      · rw [if_pos same, same]
        simp only [Bool.false_eq_true, false_iff]
        exact outside
      · rw [if_neg same]
        refine (holds.marked other).trans ?_
        simp [same]
    sorted := by
      apply holds.sorted.imp_of_mem
      intro first second firstMember secondMember order
      have firstOther : first ≠ tnode := fun same => absent (same ▸ firstMember)
      have secondOther : second ≠ tnode := fun same => absent (same ▸ secondMember)
      rw [abstime_setNdata, if_neg firstOther, abstime_setNdata, if_neg secondOther]
      exact order
    current := by
      intro inner member other atCallback
      refine (kept other).trans ?_
      rcases List.mem_cons.mp member with rfl | inOuter
      · rw [own other atCallback]
        exact present
      · exact holds.current inner (calls ▸ List.mem_cons_of_mem _ inOuter) other atCallback
    lives := by
      apply lives_record (Record.called tnode tdata.expirecb) holds.lives
      · change (lifeIn running _ tnode).after _ = some (lifeIn running _ tnode)
        rw [lifeIn_waiting absent (by simp), lifeIn_idle absent gone]
        rfl
      · intro other different
        replace different : other ≠ tnode := different
        simp [different] }

variable (holds : state.Holds running parts)
include holds

theorem Holds.afterCallback (present : (state.man.ndata tnode).isSome) :
    ∃ next, Timer.afterCallback state tnode = some next ∧
      ∃ running', next.Holds running' parts := by
  obtain ⟨tdata, found⟩ := Option.isSome_iff_exists.mp present
  by_cases periodic : tdata.isPeriodic
  · obtain ⟨result, added, _, running', again⟩ := holds.addTimerAbstime found
      (tdata.timeoutUs.toUInt64 * usecNs + tdata.abstimeNsec)
    refine ⟨state.started tnode result, ?_, running', again⟩
    rw [Timer.afterCallback, found]
    simp only [Option.bind_eq_bind, Option.bind_some]
    rw [if_pos periodic, added]
    rfl
  · refine ⟨state, ?_, running, holds⟩
    rw [Timer.afterCallback, found]
    exact if_neg periodic

theorem Holds.processTurn (calls : state.calls = call :: outer)
    (processing : call.point = .process) : ∃ next, Timer.processTurn state call outer = some next ∧
      ∃ running' parts', next.Holds running' parts' := by
  obtain ⟨nodes, others, rfl, queue, queues⟩ := holds.queued_cons calls
  cases nodes with
  | nil =>
    refine ⟨{ state with calls := outer }, ?_, running, others, ?_⟩
    · rw [Timer.processTurn, queue.head]
      rfl
    · exact { holds with
        queued := queues
        current := fun inner member =>
          holds.current inner (calls ▸ List.mem_cons_of_mem _ member) }
  | cons tnode rest =>
    obtain ⟨links, allocated⟩ := queue.segment.allocated List.mem_cons_self
    obtain ⟨tdata, found⟩ : ∃ tdata, state.man.ndata tnode = some tdata := by
      apply Option.isSome_iff_exists.mp
      rw [← holds.allocated, allocated]
      rfl
    cases callback : tdata.expirecb with
    | some expirecb =>
      obtain ⟨unlinked, removed, handled⟩ := holds.handle calls found (.callback tnode)
        fun timer same => (SchedulePoint.callback.inj same).symm
      refine ⟨_, ?_, running, rest :: others, handled⟩
      rw [Timer.processTurn, queue.head]
      simp only [List.head?_cons, found, Option.bind_eq_bind, Option.bind_some, removed, callback]
    | none =>
      obtain ⟨unlinked, removed, handled⟩ := holds.handle calls found call.point
        fun timer same => nomatch processing.symm.trans same
      obtain ⟨next, after, running', again⟩ := handled.afterCallback (by
        rw [XtimerMan.setNdata_self]
        exact Option.isSome_some)
      refine ⟨next, ?_, running', rest :: others, again⟩
      rw [Timer.processTurn, queue.head]
      simp only [List.head?_cons, found, Option.bind_eq_bind, Option.bind_some, removed, callback]
      rw [callback] at after
      exact after

end TimerState

end EnetTsn.Timer
