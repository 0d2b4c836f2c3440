import EnetTsn.Library.Run
import Mathlib.Algebra.Ring.Nat
import Mathlib.Logic.Function.Basic

/-!
The ring of `bufring.c` between two tasks without a lock: the owner of a receive channel puts
packets in, an application takes them out, and the steps of the two come in any order.
-/

namespace EnetTsn.Net

open EnetTsn.Library

/-- `CB_LLDENET_SUB_RX_RING_SIZE`. -/
def subRxRingSize : Nat := 4

structure PktBuf where
  octets : List UInt8
  port : Int
  rxts : UInt64
  deriving DecidableEq

/-- What the ring keeps of a packet. The receive timestamp, that
`LLDEnetPushFrameToMatchedSubRx` sets, is not stored: `LLDEnetRecvSubRxGen` reads the zero that it
cleared its own structure with. -/
def PktBuf.stored (pktBuf : PktBuf) : PktBuf := { pktBuf with rxts := 0 }

/-- A cell of `LLDEnetBufRing_t`; `buf` is the memory behind its pointer. -/
structure RingCell where
  buf : Nat → UInt8
  size : Nat
  port : Int

structure BufRing where
  ci : Nat
  pi : Nat
  pktBufs : Nat → RingCell

/-- `RingIsFull`. -/
def ringIsFull (pi ci : Nat) : Bool :=
  ci < pi && pi - ci = subRxRingSize - 1 || pi < ci && ci - pi = 1

def ringNext (index : Nat) : Nat := if index + 1 = subRxRingSize then 0 else index + 1

/-- A place in `BufRingPush`: octets are copied one by one, and the index is stored last. -/
inductive Producer where
  | idle
  | copying (pktBuf : PktBuf) (count : Nat)
  | storing (pktBuf : PktBuf)

/-- A place in `BufRingPop`, or in a callback that reads where `BufRingRefer` points to. -/
inductive Consumer where
  | idle
  | reading (referred : Bool) (octets : List UInt8)
  | storing (pktBuf : PktBuf)

/-- The ring and its two tasks, with the packets that were pushed, popped and seen by a
callback so far. -/
structure RingTasks where
  ring : BufRing
  producer : Producer
  consumer : Consumer
  pushed : List PktBuf
  popped : List PktBuf
  referred : List PktBuf

inductive RingEvent where
  | push (pktBuf : PktBuf)
  /-- The size is the room of the caller. -/
  | pop (size : Nat)
  | refer
  | produce
  | consume

namespace BufRing

def cell (ring : BufRing) : RingCell := ring.pktBufs ring.ci

def write (ring : BufRing) (change : RingCell → RingCell) : BufRing :=
  { ring with pktBufs := Function.update ring.pktBufs ring.pi (change (ring.pktBufs ring.pi)) }

end BufRing

namespace RingTasks

def produce (tasks : RingTasks) : Option RingTasks :=
  match tasks.producer with
  | .idle => none
  | .copying pktBuf count =>
    match pktBuf.octets[count]? with
    | some octet => some { tasks with
        ring := tasks.ring.write fun cell =>
          { cell with buf := Function.update cell.buf count octet }
        producer := .copying pktBuf (count + 1) }
    | none => some { tasks with
        ring := tasks.ring.write fun cell =>
          { cell with
            size := pktBuf.octets.length
            port := pktBuf.port }
        producer := .storing pktBuf }
  | .storing pktBuf => some { tasks with
      ring := { tasks.ring with pi := ringNext tasks.ring.pi }
      producer := .idle
      pushed := tasks.pushed ++ [pktBuf] }

def consume (tasks : RingTasks) : Option RingTasks :=
  match tasks.consumer with
  | .idle => none
  | .reading referred octets =>
    if octets.length < tasks.ring.cell.size then
      some { tasks with
        consumer := .reading referred (octets ++ [tasks.ring.cell.buf octets.length]) }
    else if referred then
      some { tasks with
        consumer := .idle
        referred := tasks.referred ++ [⟨octets, tasks.ring.cell.port, 0⟩] }
    else some { tasks with consumer := .storing ⟨octets, tasks.ring.cell.port, 0⟩ }
  | .storing pktBuf => some { tasks with
      ring := { tasks.ring with ci := ringNext tasks.ring.ci }
      consumer := .idle
      popped := tasks.popped ++ [pktBuf] }

end RingTasks

/-- The tasks under `ENET_MEM_LARGE_POOL_PKT_SIZE`. A call that is refused does nothing. -/
def ringSystem (poolPktSize : Nat) : System RingTasks RingEvent where
  start := ⟨⟨0, 0, fun _ => ⟨fun _ => 0, 0, 0⟩⟩, .idle, .idle, [], [], []⟩
  step tasks
    | .push pktBuf =>
      match tasks.producer with
      | .idle =>
        if ringIsFull tasks.ring.pi tasks.ring.ci || poolPktSize < pktBuf.octets.length then some tasks
        else some { tasks with producer := .copying pktBuf 0 }
      | _ => none
    | .pop size =>
      match tasks.consumer with
      | .idle =>
        if tasks.ring.pi = tasks.ring.ci || size < tasks.ring.cell.size then some tasks
        else some { tasks with consumer := .reading false [] }
      | _ => none
    | .refer =>
      match tasks.consumer with
      | .idle =>
        if tasks.ring.pi = tasks.ring.ci then some tasks
        else some { tasks with consumer := .reading true [] }
      | _ => none
    | .produce => tasks.produce
    | .consume => tasks.consume

structure RingCell.Has (cell : RingCell) (pktBuf : PktBuf) : Prop where
  octets : ∀ place (inside : place < pktBuf.octets.length), cell.buf place = pktBuf.octets[place]
  size : cell.size = pktBuf.octets.length
  port : cell.port = pktBuf.port
  rxts : pktBuf.rxts = 0

structure BufRing.Holds (ring : BufRing) (queue : List PktBuf) : Prop where
  short : queue.length < subRxRingSize
  first : ring.ci < subRxRingSize
  last : ring.pi = (ring.ci + queue.length) % subRxRingSize
  cells : ∀ place (inside : place < queue.length),
    (ring.pktBufs ((ring.ci + place) % subRxRingSize)).Has queue[place]

def Producer.Holds (ring : BufRing) (queue : List PktBuf) : Producer → Prop
  | .idle => True
  | .copying pktBuf count => queue.length + 1 < subRxRingSize ∧ count ≤ pktBuf.octets.length ∧
    ∀ place (inside : place < pktBuf.octets.length), place < count →
      (ring.pktBufs ring.pi).buf place = pktBuf.octets[place]
  | .storing pktBuf => queue.length + 1 < subRxRingSize ∧ (ring.pktBufs ring.pi).Has pktBuf.stored

def Consumer.Holds (queue : List PktBuf) : Consumer → Prop
  | .idle => True
  | .reading _ octets => ∃ pktBuf rest, queue = pktBuf :: rest ∧
    ∃ others, octets ++ others = pktBuf.octets
  | .storing pktBuf => ∃ rest, queue = pktBuf :: rest

structure RingTasks.Holds (tasks : RingTasks) (queue : List PktBuf) : Prop where
  ring : tasks.ring.Holds queue
  producer : tasks.producer.Holds tasks.ring queue
  consumer : tasks.consumer.Holds queue
  pushed : tasks.pushed.map PktBuf.stored = tasks.popped ++ queue
  referred : ∀ pktBuf ∈ tasks.referred, pktBuf ∈ tasks.pushed.map PktBuf.stored

variable {ring : BufRing} {queue : List PktBuf} {pktBuf : PktBuf} {tasks : RingTasks}

namespace BufRing.Holds

theorem next (inside : index < subRxRingSize) : ringNext index = (index + 1) % subRxRingSize := by
  unfold ringNext subRxRingSize at *
  split <;> omega

private theorem pi_lt (holds : ring.Holds queue) : ring.pi < subRxRingSize :=
  holds.last ▸ Nat.mod_lt _ (Nat.zero_lt_succ 3)

theorem empty_iff (holds : ring.Holds queue) : ring.pi = ring.ci ↔ queue = [] := by
  obtain ⟨short, first, last, _⟩ := holds
  rw [← List.length_eq_zero_iff]
  unfold subRxRingSize at *
  omega

theorem full_iff (holds : ring.Holds queue) :
    ringIsFull ring.pi ring.ci = true ↔ ¬ queue.length + 1 < subRxRingSize := by
  obtain ⟨short, first, last, _⟩ := holds
  simp only [ringIsFull, Bool.or_eq_true, Bool.and_eq_true, decide_eq_true_eq]
  unfold subRxRingSize at *
  omega

theorem cell (holds : ring.Holds (pktBuf :: queue)) : ring.cell.Has pktBuf := by
  have first := holds.cells 0 (Nat.zero_lt_succ _)
  rwa [Nat.add_zero, Nat.mod_eq_of_lt holds.first] at first

theorem write (holds : ring.Holds queue) (room : queue.length + 1 < subRxRingSize)
    (change : RingCell → RingCell) : (ring.write change).Holds queue where
  short := holds.short
  first := holds.first
  last := holds.last
  cells place inside := by
    have other : (ring.ci + place) % subRxRingSize ≠ ring.pi := by
      obtain ⟨short, first, last, _⟩ := holds
      unfold subRxRingSize at *
      omega
    simpa only [BufRing.write, Function.update_of_ne other] using holds.cells place inside

theorem push (holds : ring.Holds queue) (room : queue.length + 1 < subRxRingSize)
    (written : (ring.pktBufs ring.pi).Has pktBuf) :
    BufRing.Holds { ring with pi := ringNext ring.pi } (queue ++ [pktBuf]) where
  short := by simpa using room
  first := holds.first
  last := by
    rw [next holds.pi_lt, holds.last, List.length_append, Nat.mod_add_mod, Nat.add_assoc]
    rfl
  cells place inside := by
    rw [List.length_append, List.length_singleton] at inside
    by_cases new : place = queue.length
    · subst new
      simpa [← holds.last] using written
    · have before : place < queue.length := by omega
      simpa only [List.getElem_append_left before] using holds.cells place before

theorem pop (holds : ring.Holds (pktBuf :: queue)) :
    BufRing.Holds { ring with ci := ringNext ring.ci } queue := by
  obtain ⟨short, first, last, cells⟩ := holds
  rw [List.length_cons] at short last
  constructor
  · omega
  · rw [next first]
    exact Nat.mod_lt _ (Nat.zero_lt_succ 3)
  · rw [last, next first]
    simp only [Nat.mod_add_mod]
    congr 1
    omega
  · intro place inside
    have cell := cells (place + 1) (Nat.succ_lt_succ inside)
    simp only [next first, Nat.mod_add_mod, List.getElem_cons_succ] at cell ⊢
    rwa [Nat.add_assoc, Nat.add_comm 1]

end BufRing.Holds

namespace RingTasks.Holds

variable (holds : tasks.Holds queue)
include holds

theorem produce (taken : tasks.produce = some after) :
    ∃ news, after.Holds (queue ++ news.map PktBuf.stored) ∧ after.pushed = tasks.pushed ++ news := by
  obtain ⟨cells, stage, reader, before, popped, seen⟩ := tasks
  obtain ⟨ring, producer, consumer, pushed, referred⟩ := holds
  cases stage with
  | idle => cases taken
  | copying pktBuf count =>
    obtain ⟨room, _, copied⟩ := producer
    dsimp only [RingTasks.produce] at taken
    refine ⟨[], ?_⟩
    rw [List.map_nil, List.append_nil, List.append_nil]
    split at taken
    · rename_i octet found
      cases taken
      obtain ⟨inside, same⟩ := List.getElem?_eq_some_iff.mp found
      have kept := ring.write room fun cell =>
        { cell with buf := Function.update cell.buf count octet }
      refine ⟨⟨kept, ⟨room, inside, fun place bound small => ?_⟩, consumer, pushed, referred⟩, rfl⟩
      simp only [BufRing.write, Function.update_self]
      by_cases new : place = count
      · subst new
        rw [Function.update_self, same]
      · rw [Function.update_of_ne new]
        exact copied place bound (by omega)
    · rename_i ended
      have all := List.getElem?_eq_none_iff.mp ended
      cases taken
      have kept := ring.write room fun cell =>
        { cell with
          size := pktBuf.octets.length
          port := pktBuf.port }
      refine ⟨⟨kept, ⟨room, ?_⟩, consumer, pushed, referred⟩, rfl⟩
      simp only [BufRing.write, Function.update_self]
      exact ⟨fun place bound => copied place bound (lt_of_lt_of_le bound all), rfl, rfl, rfl⟩
  | storing pktBuf =>
    obtain ⟨room, written⟩ := producer
    cases taken
    refine ⟨[pktBuf], ⟨ring.push room written, trivial, ?_, ?_, ?_⟩, rfl⟩
    · cases reader with
      | idle => trivial
      | reading _ octets =>
        obtain ⟨first, rest, rfl, start⟩ := consumer
        exact ⟨first, rest ++ [pktBuf.stored], rfl, start⟩
      | storing first =>
        obtain ⟨rest, rfl⟩ := consumer
        exact ⟨rest ++ [pktBuf.stored], rfl⟩
    · rw [List.map_append, pushed, List.append_assoc]
    · intro packet member
      rw [List.map_append]
      exact List.mem_append_left _ (referred packet member)

theorem consume (taken : tasks.consume = some after) :
    ∃ later, after.Holds later ∧ after.pushed = tasks.pushed ∧
      ∀ pktBuf ∈ after.referred, pktBuf ∈ tasks.referred ∨ queue.head? = some pktBuf := by
  obtain ⟨cells, stage, reader, before, popped, seen⟩ := tasks
  obtain ⟨ring, producer, consumer, pushed, referred⟩ := holds
  cases reader with
  | idle => cases taken
  | reading only octets =>
    obtain ⟨first, rest, rfl, others, start⟩ := consumer
    obtain ⟨same, size, port, zero⟩ := ring.cell
    have whole : (⟨first.octets, first.port, 0⟩ : PktBuf) = first := by rw [← zero]
    dsimp only [RingTasks.consume] at taken
    rw [size, ← start, List.length_append] at taken
    cases others with
    | cons octet others =>
      rw [if_pos (by simp)] at taken
      cases taken
      have read := same octets.length (by simp [← start])
      refine ⟨_, ⟨ring, producer, ⟨first, rest, rfl, others, ?_⟩, pushed, referred⟩, rfl,
        fun _ => .inl⟩
      simp [read, ← start]
    | nil =>
      rw [List.append_nil] at start
      rw [if_neg (by simp), start, port, whole] at taken
      cases only with
      | true =>
        cases taken
        have news : ∀ packet ∈ seen ++ [first], packet ∈ seen ∨ packet = first := by simp
        refine ⟨_, ⟨ring, producer, trivial, pushed, fun packet member => ?_⟩, rfl,
          fun packet member => (news packet member).imp_right fun same => congrArg some same.symm⟩
        rcases news packet member with old | rfl
        · exact referred packet old
        · rw [pushed]
          exact List.mem_append_right _ List.mem_cons_self
      | false =>
        cases taken
        exact ⟨_, ⟨ring, producer, ⟨rest, rfl⟩, pushed, referred⟩, rfl, fun _ => .inl⟩
  | storing packet =>
    obtain ⟨rest, rfl⟩ := consumer
    cases taken
    refine ⟨rest, ⟨ring.pop, ?_, trivial, ?_, referred⟩, rfl, fun _ => .inl⟩
    · cases stage with
      | idle => trivial
      | copying pktBuf count =>
        obtain ⟨room, written⟩ := producer
        exact ⟨Nat.lt_of_succ_lt room, written⟩
      | storing pktBuf =>
        obtain ⟨room, written⟩ := producer
        exact ⟨Nat.lt_of_succ_lt room, written⟩
    · rw [pushed]
      simp

theorem step (taken : (ringSystem poolPktSize).step tasks event = some after) :
    ∃ later, after.Holds later := by
  cases event with
  | produce =>
    obtain ⟨later, kept, _⟩ := holds.produce taken
    exact ⟨_, kept⟩
  | consume =>
    obtain ⟨later, kept, _⟩ := holds.consume taken
    exact ⟨later, kept⟩
  | push pktBuf =>
    refine ⟨queue, ?_⟩
    have full := holds.ring.full_iff
    simp only [ringSystem] at taken
    split at taken
    case h_2 => cases taken
    split at taken <;> cases taken
    · exact holds
    · rename_i room
      simp only [Bool.or_eq_true, full, not_or, not_not] at room
      exact ⟨holds.ring, ⟨room.1, Nat.zero_le _, fun _ _ none => absurd none (Nat.not_lt_zero _)⟩,
        holds.consumer, holds.pushed, holds.referred⟩
  | pop size =>
    refine ⟨queue, ?_⟩
    simp only [ringSystem] at taken
    split at taken
    case h_2 => cases taken
    split at taken <;> cases taken
    · exact holds
    · rename_i filled
      simp only [Bool.or_eq_true, decide_eq_true_eq, holds.ring.empty_iff, not_or] at filled
      obtain ⟨first, rest, same⟩ := List.exists_cons_of_ne_nil filled.1
      exact ⟨holds.ring, holds.producer, ⟨first, rest, same, first.octets, rfl⟩, holds.pushed,
        holds.referred⟩
  | refer =>
    refine ⟨queue, ?_⟩
    simp only [ringSystem] at taken
    split at taken
    case h_2 => cases taken
    split at taken <;> cases taken
    · exact holds
    · rename_i filled
      obtain ⟨first, rest, same⟩ := List.exists_cons_of_ne_nil (mt holds.ring.empty_iff.mpr filled)
      exact ⟨holds.ring, holds.producer, ⟨first, rest, same, first.octets, rfl⟩, holds.pushed,
        holds.referred⟩

end RingTasks.Holds

theorem ring_holds (reachable : (ringSystem poolPktSize).Reachable System.anyStep tasks) :
    ∃ queue, tasks.Holds queue := by
  refine reachable.invariant (fun tasks => ∃ queue, tasks.Holds queue) ⟨[], ?_⟩ ?_
  · exact ⟨⟨Nat.zero_lt_succ 3, Nat.zero_lt_succ 3, rfl, fun _ inside => absurd inside (Nat.not_lt_zero _)⟩,
      trivial, trivial, rfl, fun _ member => absurd member List.not_mem_nil⟩
  · rintro tasks event next ⟨queue, holds⟩ _ taken
    exact holds.step taken

/-- Whatever the order of the steps of the two tasks is, the packets come out as they were put in:
each once, in their order, with all octets and the port and without the timestamp, with three
waiting at most, and a callback sees a packet that was put in. -/
theorem ring_tasks_in_order (reachable : (ringSystem poolPktSize).Reachable System.anyStep tasks) :
    (∃ queue, tasks.pushed.map PktBuf.stored = tasks.popped ++ queue ∧
        queue.length < subRxRingSize) ∧
      ∀ pktBuf ∈ tasks.referred, pktBuf ∈ tasks.pushed.map PktBuf.stored := by
  obtain ⟨queue, holds⟩ := ring_holds reachable
  exact ⟨⟨queue, holds.pushed, holds.ring.short⟩, holds.referred⟩

theorem ring_tasks_in_order_two : ∃ tasks : RingTasks, tasks.popped = [⟨[7], 1, 0⟩] ∧
    tasks.pushed = [⟨[7], 1, 1000⟩, ⟨[8], 2, 2000⟩] ∧
      ∃ queue, tasks.pushed.map PktBuf.stored = tasks.popped ++ queue ∧
        queue.length < subRxRingSize := by
  have finished : (ringSystem 1536).run (ringSystem 1536).start
      [.push ⟨[7], 1, 1000⟩, .produce, .produce, .produce, .pop 64, .push ⟨[8], 2, 2000⟩, .consume,
        .produce, .consume, .produce, .produce, .consume] = some _ := rfl
  exact ⟨_, rfl, rfl, (ring_tasks_in_order (System.reachable_of_run finished)).1⟩

structure RingTasks.Unpopped (tasks : RingTasks) : Prop where
  holds : ∃ queue, tasks.Holds queue
  popped : tasks.popped = []
  referring : tasks.consumer = .idle ∨ ∃ octets, tasks.consumer = .reading true octets
  first : ∀ pktBuf ∈ tasks.referred, (tasks.pushed.map PktBuf.stored).head? = some pktBuf

theorem RingTasks.Unpopped.step (unpopped : tasks.Unpopped) (permitted : ∀ size, event ≠ .pop size)
    (taken : (ringSystem poolPktSize).step tasks event = some after) : after.Unpopped := by
  obtain ⟨⟨queue, holds⟩, popped, referring, first⟩ := unpopped
  have kept := holds.step taken
  cases event with
  | pop size => exact absurd rfl (permitted size)
  | push pktBuf =>
    simp only [ringSystem] at taken
    split at taken
    case h_2 => cases taken
    split at taken <;> cases taken <;> exact ⟨kept, popped, referring, first⟩
  | refer =>
    simp only [ringSystem] at taken
    split at taken
    case h_2 => cases taken
    split at taken <;> cases taken
    · exact ⟨kept, popped, referring, first⟩
    · exact ⟨kept, popped, .inr ⟨[], rfl⟩, first⟩
  | produce =>
    obtain ⟨later, _, pushed⟩ := holds.produce taken
    have same : after.popped = tasks.popped ∧ after.consumer = tasks.consumer ∧
        after.referred = tasks.referred := by
      simp only [ringSystem, RingTasks.produce] at taken
      split at taken
      · cases taken
      · split at taken <;> cases taken <;> exact ⟨rfl, rfl, rfl⟩
      · cases taken
        exact ⟨rfl, rfl, rfl⟩
    refine ⟨kept, same.1.trans popped, by rwa [same.2.1], fun pktBuf member => ?_⟩
    rw [pushed, List.map_append, List.head?_append, first pktBuf (same.2.2 ▸ member)]
    rfl
  | consume =>
    obtain ⟨_, _, pushed, news⟩ := holds.consume taken
    have all : ∀ pktBuf ∈ after.referred, (after.pushed.map PktBuf.stored).head? = some pktBuf := by
      intro pktBuf member
      rw [pushed]
      rcases news pktBuf member with old | head
      · exact first pktBuf old
      · rw [holds.pushed, popped, List.nil_append, head]
    simp only [ringSystem, RingTasks.consume] at taken
    rcases referring with idle | ⟨octets, reading⟩
    · rw [idle] at taken
      cases taken
    · rw [reading] at taken
      dsimp only at taken
      split at taken <;> cases taken
      · exact ⟨kept, popped, .inr ⟨_, rfl⟩, all⟩
      · exact ⟨kept, popped, .inl rfl, all⟩

/-- Without a call of `BufRingPop` no packet leaves the ring: the packets of three pushes stay in
it, and a callback sees the first of them each time. -/
theorem zero_copy_repeats (reachable : (ringSystem poolPktSize).Reachable
      (fun _ event => ∀ size, event ≠ .pop size) tasks) :
    tasks.popped = [] ∧ tasks.pushed.length < subRxRingSize ∧
      ∀ pktBuf ∈ tasks.referred, (tasks.pushed.map PktBuf.stored).head? = some pktBuf := by
  have unpopped : tasks.Unpopped := by
    refine reachable.invariant RingTasks.Unpopped ?_ ?_
    · exact ⟨ring_holds .start, rfl, .inl rfl, fun _ member => absurd member List.not_mem_nil⟩
    · exact fun tasks event next held permitted taken => held.step permitted taken
  obtain ⟨⟨queue, holds⟩, popped, _, first⟩ := unpopped
  have all := holds.pushed
  rw [popped, List.nil_append] at all
  exact ⟨popped, by simpa [← all] using holds.ring.short, first⟩

theorem zero_copy_repeats_first : ∃ tasks : RingTasks, tasks.referred = [⟨[7], 1, 0⟩, ⟨[7], 1, 0⟩] ∧
      ∀ pktBuf ∈ tasks.referred, (tasks.pushed.map PktBuf.stored).head? = some pktBuf := by
  have finished : (ringSystem 1536).run (ringSystem 1536).start
      [.push ⟨[7], 1, 1000⟩, .produce, .produce, .produce, .refer, .consume, .consume, .refer, .consume,
        .consume] = some _ := rfl
  exact ⟨_, rfl, (zero_copy_repeats (System.Reachable.start.run_allowed (by simp) finished)).2.2⟩

end EnetTsn.Net
