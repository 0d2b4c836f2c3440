import EnetTsn.Unibase.StaticMemSearch

namespace EnetTsn.Unibase

open EnetTsn.Library

def StaticArray.extent (array : StaticArray) (busysizes : Int → UInt16) (p : Int) : Int :=
  (busysizes (p / array.fragsize)).toNat * array.fragsize

def StaticArray.Unused (array : StaticArray) (allocation : Allocation) (fragment : Nat) : Prop :=
  ∀ block ∈ allocation.blocks, ¬ (block.p ≤ fragment * array.fragsize ∧
    fragment * array.fragsize < block.p + array.extent allocation.state.busysizes block.p)

/-- The blocks that clients hold lie in the array, apart from each other, and have the octets
that were asked for. -/
structure StaticArray.Orderly (array : StaticArray) (allocation : Allocation) : Prop where
  inside : ∀ block ∈ allocation.blocks, 0 ≤ block.p ∧
    block.p + array.extent allocation.state.busysizes block.p ≤ array.fragnum * array.fragsize
  apart : allocation.blocks.Pairwise fun first second =>
    first.p + array.extent allocation.state.busysizes first.p ≤ second.p ∨
      second.p + array.extent allocation.state.busysizes second.p ≤ first.p
  enough : ∀ block ∈ allocation.blocks,
    block.size ≤ array.extent allocation.state.busysizes block.p

def SameOctets (mem : Int → UInt8) (p : Int) (mem' : Int → UInt8) (p' : Int) (count : Nat) : Prop :=
  ∀ offset < count, mem' (p' + offset) = mem (p + offset)

structure StaticArray.Granted (array : StaticArray) (before : Allocation) (size : Nat)
    (after : Allocation) : Prop where
  exactly : after.result ≠ none ↔ 0 < size ∧ ∃ start, start + array.fragments size ≤ array.fragnum ∧
    ∀ offset < array.fragments size, array.Unused before (start + offset)
  refused : after.result = none → after.state = before.state ∧ after.blocks = before.blocks
  kept : ∀ block ∈ before.blocks, block ∈ after.blocks ∧
    SameOctets before.state.mem block.p after.state.mem block.p block.size

structure Resized (before : Allocation) (p : Int) (nsize : Nat) (after : Allocation) : Prop where
  common : ∀ block ∈ before.blocks, block.p = p → ∀ np ∈ after.result,
    SameOctets before.state.mem p after.state.mem np (min block.size nsize)
  refused : after.result = none → after.state = before.state ∧ after.blocks = before.blocks
  kept : ∀ block ∈ before.blocks, block.p ≠ p → block ∈ after.blocks ∧
    SameOctets before.state.mem block.p after.state.mem block.p block.size

def StaticArray.Served (array : StaticArray) (before : Allocation) (call : MemCall)
    (after : Allocation) : Prop :=
  match call with
  | .getmem size | .regetmem none size => array.Granted before size after
  | .regetmem (some p) nsize => nsize ≠ 0 → Resized before p nsize after
  | .relmem p => after.state.mem = before.state.mem ∧
      ∀ block ∈ before.blocks, some block.p ≠ p → block ∈ after.blocks
  | .write address octet => after.blocks = before.blocks ∧
      after.state.mem = Function.update before.state.mem address octet

/-- The integers of the allocator hold the size: an `int` its octets, a `uint16_t` its
fragments. -/
def StaticArray.Counted (array : StaticArray) (allocation : Allocation) : MemCall → Prop
  | .getmem size | .regetmem none size => array.Requestable size
  | .regetmem (some dp) nsize => nsize + array.fragsize ≤ 2 ^ 31 ∧
      (array.fragments nsize < 2 ^ 16 ∨ array.fragnum < 2 ^ 16 ∧
        ∀ cpi ∈ array.fragmentAt dp, allocation.state.busysizes cpi < array.newBusy nsize)
  | .relmem _ | .write _ _ => True

structure StaticArray.Recorded (array : StaticArray) (busy : Occupancy) (blocks : List Block) :
    Prop where
  separate : busy.Separate array.fragnum
  placed : ∀ block ∈ blocks, ∃ start < array.fragnum, block.p = start * array.fragsize ∧
    0 < busy start ∧ block.size ≤ busy start * array.fragsize
  owned : ∀ start < array.fragnum, busy start ≠ 0 → ∃ block ∈ blocks, block.p = start * array.fragsize
  once : blocks.Pairwise fun first second => first.p ≠ second.p

variable {array : StaticArray} {busy : Occupancy} {blocks : List Block} {busysizes : Int → UInt16}
  {allocation : Allocation} {size start count : Nat} {block : Block} {p : Option Int} {dp : Int}

theorem position_inj {other : Nat}
    (same : (start * array.fragsize : Int) = other * array.fragsize) : start = other := by
  have positive := array.fragsize_pos
  have multiples : start * array.fragsize = other * array.fragsize := by exact_mod_cast same
  exact Nat.eq_of_mul_eq_mul_right positive multiples

theorem position_div (start : Nat) : (start * array.fragsize : Int) / array.fragsize = start := by
  have positive := array.fragsize_pos
  exact Int.mul_ediv_cancel _ (by omega)

theorem extent_position (start : Nat) : array.extent busysizes (start * array.fragsize) =
    (counts busysizes start * array.fragsize : Nat) := by
  rw [StaticArray.extent, position_div, counts]
  exact (Int.natCast_mul _ _).symm

theorem mem_releaseBlock : block ∈ releaseBlock p blocks ↔ block ∈ blocks ∧ some block.p ≠ p := by
  simp [releaseBlock]

theorem fragmentAt_eq_some {cpi : Int} (accepted : array.fragmentAt dp = some cpi) :
    ∃ start : Nat, start < array.fragnum ∧ cpi = start ∧ dp = start * array.fragsize := by
  have positive := array.fragsize_pos
  obtain ⟨valid, found⟩ := Option.ite_none_left_eq_some.mp accepted
  cases found
  simp only [not_or, Int.not_lt, Int.not_le, Decidable.not_not, ne_eq] at valid
  obtain ⟨nonneg, below, exact⟩ := valid
  rw [Int.tdiv_eq_ediv_of_nonneg nonneg] at below exact ⊢
  have least : 0 ≤ dp / array.fragsize := Int.ediv_nonneg nonneg (by omega)
  refine ⟨(dp / array.fragsize).toNat, by omega, by omega, ?_⟩
  rw [Int.toNat_of_nonneg least]
  exact exact.symm

private theorem fragmentAt_position (below : start < array.fragnum) :
    array.fragmentAt (start * array.fragsize : Int) = some (start : Int) := by
  have nonneg : (0 : Int) ≤ start * array.fragsize := by
    exact Int.natCast_nonneg _
  rw [StaticArray.fragmentAt, Int.tdiv_eq_ediv_of_nonneg nonneg, position_div, if_neg]
  simp only [not_or, Int.not_lt, Int.not_le, Decidable.not_not, ne_eq]
  exact ⟨nonneg, by omega, trivial⟩

namespace StaticArray.Recorded

theorem initially (array : StaticArray) : array.Recorded (counts StaticMem.initial.busysizes) [] := by
  constructor
  · exact Occupancy.separate_empty _
  · exact fun _ impossible => absurd impossible List.not_mem_nil
  · intro start _ used
    exact absurd rfl used
  · exact .nil

section

variable (recorded : array.Recorded busy blocks)
include recorded

theorem release (start : Nat) : array.Recorded (Function.update busy start 0)
      (releaseBlock (some (start * array.fragsize : Int)) blocks) := by
  constructor
  · exact recorded.separate.cut (Nat.zero_le _)
  · intro block member
    obtain ⟨held, other⟩ := mem_releaseBlock.mp member
    obtain ⟨place, below, at_, used, fits⟩ := recorded.placed block held
    have apart : place ≠ start := by
      rintro rfl
      exact other (congrArg some at_)
    refine ⟨place, below, at_, ?_, ?_⟩
    · rwa [Function.update_of_ne apart]
    · rwa [Function.update_of_ne apart]
  · intro place below used
    have apart : place ≠ start := by
      rintro rfl
      rw [Function.update_self] at used
      exact used rfl
    rw [Function.update_of_ne apart] at used
    obtain ⟨block, held, at_⟩ := recorded.owned place below used
    refine ⟨block, mem_releaseBlock.mpr ⟨held, ?_⟩, at_⟩
    intro same
    rw [at_, Option.some.injEq] at same
    exact apart (position_inj same)
  · exact recorded.once.filter _

theorem grant (room : busy.Room start count)
    (some : 0 < count) (fits : start + count ≤ array.fragnum)
    (enough : size ≤ count * array.fragsize) :
    array.Recorded (Function.update busy start count) (⟨start * array.fragsize, size⟩ :: blocks) := by
  have unused : busy start = 0 := (room 0 some).not_start
  have before : ∀ block ∈ blocks, ∀ place : Nat, block.p = place * array.fragsize →
      0 < busy place → place ≠ start := by
    rintro block held place at_ used rfl
    omega
  constructor
  · exact recorded.separate.occupy room fits
  · intro block member
    rcases List.mem_cons.mp member with rfl | held
    · exact ⟨start, by omega, rfl, by rwa [Function.update_self], by rwa [Function.update_self]⟩
    · obtain ⟨place, below, at_, used, long⟩ := recorded.placed block held
      have apart := before block held place at_ used
      exact ⟨place, below, at_, by rwa [Function.update_of_ne apart],
        by rwa [Function.update_of_ne apart]⟩
  · intro place below used
    rcases eq_or_ne place start with rfl | apart
    · exact ⟨_, List.mem_cons_self, rfl⟩
    · rw [Function.update_of_ne apart] at used
      obtain ⟨block, held, at_⟩ := recorded.owned place below used
      exact ⟨block, List.mem_cons_of_mem _ held, at_⟩
  · refine List.pairwise_cons.mpr ⟨?_, recorded.once⟩
    intro block held same
    obtain ⟨place, _, at_, used, _⟩ := recorded.placed block held
    exact before block held place at_ used (position_inj (at_.symm.trans same.symm))

theorem release_other
    (other : ∀ start < array.fragnum, p = some (start * array.fragsize : Int) → busy start = 0) :
    releaseBlock p blocks = blocks := by
  refine List.filter_eq_self.mpr ?_
  intro block held
  obtain ⟨place, below, at_, used, _⟩ := recorded.placed block held
  refine decide_eq_true ?_
  intro same
  have none := other place below (by rw [← same, at_])
  omega

end

variable (recorded : array.Recorded (counts allocation.state.busysizes) allocation.blocks)
include recorded

theorem unused_iff (fragment : Nat) (below : fragment < array.fragnum) :
    array.Unused allocation fragment ↔ (counts allocation.state.busysizes).Free fragment := by
  have positive := array.fragsize_pos
  constructor
  · intro unused start before
    by_contra covered
    have used : counts allocation.state.busysizes start ≠ 0 := by omega
    obtain ⟨block, held, at_⟩ := recorded.owned start (by omega) used
    refine unused block held ?_
    rw [at_, extent_position]
    constructor
    · exact_mod_cast Nat.mul_le_mul_right _ before
    · rw [← Int.natCast_mul, ← Int.natCast_mul, ← Int.natCast_add, ← Nat.add_mul, Int.ofNat_lt]
      exact Nat.mul_lt_mul_of_pos_right (by omega) positive
  · rintro free block held ⟨after, covered⟩
    obtain ⟨start, _, at_, _, _⟩ := recorded.placed block held
    rw [at_] at after
    rw [at_, extent_position, ← Int.natCast_mul, ← Int.natCast_mul, ← Int.natCast_add,
      ← Nat.add_mul, Int.ofNat_lt] at covered
    rw [← Int.natCast_mul, ← Int.natCast_mul, Int.ofNat_le] at after
    have first := Nat.le_of_mul_le_mul_right after positive
    have last := Nat.lt_of_mul_lt_mul_right covered
    have past := free start first
    omega

theorem room_iff (fits : start + count ≤ array.fragnum) :
    (∀ offset < count, array.Unused allocation (start + offset)) ↔
      (counts allocation.state.busysizes).Room start count := by
  constructor
  · intro unused offset inside
    exact (recorded.unused_iff _ (by omega)).mp (unused offset inside)
  · intro room offset inside
    exact (recorded.unused_iff _ (by omega)).mpr (room offset inside)

theorem orderly : array.Orderly allocation := by
  constructor
  · intro block held
    obtain ⟨start, below, at_, _, _⟩ := recorded.placed block held
    have inside := recorded.separate.inside start below
    rw [at_, extent_position, ← Int.natCast_mul, ← Int.natCast_mul, ← Int.natCast_add,
      ← Nat.add_mul]
    exact ⟨Int.natCast_nonneg _, Int.ofNat_le.mpr (Nat.mul_le_mul_right _ inside)⟩
  · refine recorded.once.imp_of_mem ?_
    intro first second held held' differ
    obtain ⟨start, below, at_, used, _⟩ := recorded.placed first held
    obtain ⟨start', below', at_', used', _⟩ := recorded.placed second held'
    rw [at_, at_', extent_position, extent_position]
    simp only [← Int.natCast_mul, ← Int.natCast_add, ← Nat.add_mul, Int.ofNat_le]
    rcases Nat.lt_trichotomy start start' with less | rfl | more
    · exact Or.inl (Nat.mul_le_mul_right _
        (recorded.separate.disjoint below start' (by omega) less))
    · exact absurd (at_.trans at_'.symm) differ
    · exact Or.inr (Nat.mul_le_mul_right _
        (recorded.separate.disjoint below' start (by omega) more))
  · intro block held
    obtain ⟨start, _, at_, _, enough⟩ := recorded.placed block held
    rw [at_, extent_position]
    exact Int.ofNat_le.mpr enough

end StaticArray.Recorded

theorem SameOctets.refl (mem : Int → UInt8) (p : Int) (count : Nat) :
    SameOctets mem p mem p count :=
  fun _ _ => rfl

private theorem newBusy_toNat (some : 0 < size) (short : size + array.fragsize ≤ 2 ^ 31) :
    (array.newBusy size).toNat = array.fragments size % 2 ^ 16 := by
  have positive := array.fragsize_pos
  have sum : (size : Int) + array.fragsize - 1 = (size + array.fragsize - 1 : Nat) := by omega
  have quotient : ((size + array.fragsize - 1 : Nat) : Int).tdiv array.fragsize =
      array.fragments size := by
    rfl
  have size_cast : toInt size = size := toInt_of_lt (by omega) (by omega)
  rw [StaticArray.newBusy, size_cast, sum, toInt_of_lt (by omega) (by omega), quotient]
  simp [UInt16.ofInt]
  omega

section Calls

variable {state : StaticMem}

variable (recorded : array.Recorded (counts state.busysizes) blocks)
include recorded

theorem relmem_recorded (p : Option Int) :
    array.Recorded (counts (array.relmem p state).busysizes) (releaseBlock p blocks) ∧
      (array.relmem p state).mem = state.mem := by
  rw [StaticArray.relmem]
  cases found : p.bind array.fragmentAt with
  | none =>
    have nothing : releaseBlock p blocks = blocks := by
      refine recorded.release_other ?_
      rintro start below rfl
      rw [Option.bind_some, fragmentAt_position below] at found
      cases found
    rw [nothing]
    exact ⟨recorded, rfl⟩
  | some cpi =>
    obtain ⟨dp, rfl, accepted⟩ := Option.bind_eq_some_iff.mp found
    obtain ⟨start, below, rfl, rfl⟩ := fragmentAt_eq_some accepted
    by_cases free : state.busysizes start = 0
    · have nothing : releaseBlock (some (start * array.fragsize : Int)) blocks = blocks := by
        refine recorded.release_other ?_
        intro other _ same
        obtain rfl := position_inj (Option.some.inj same)
        simp [counts, free]
      rw [nothing]
      simp only [free, if_true]
      exact ⟨recorded, trivial⟩
    · simp only [free, if_false]
      rw [counts_update]
      exact ⟨recorded.release start, trivial⟩

theorem getmem_recorded (requestable : array.Requestable size) :
    array.Recorded (counts (array.getmem size state).2.busysizes)
        (grantBlock (array.getmem size state).1 size blocks) ∧
      (array.getmem size state).2.mem = state.mem := by
  rcases Nat.eq_zero_or_pos size with rfl | some
  · exact ⟨recorded, rfl⟩
  · rcases getmem_spec _ recorded.separate some requestable with
      ⟨refused, _⟩ | ⟨start, count, length, fits, room, granted⟩
    · rw [refused]
      exact ⟨recorded, rfl⟩
    · rw [granted]
      refine ⟨?_, rfl⟩
      rw [counts_update, length]
      exact recorded.grant room (fragments_pos some) fits ((fragments_le_iff _).mp (Nat.le_refl _))

end Calls

/-- What `ub_static_getmem` does for its client. -/
theorem getmem_granted
    (recorded : array.Recorded (counts allocation.state.busysizes) allocation.blocks)
    (requestable : array.Requestable size) (given : Option Int) (after : StaticMem)
    (called : array.getmem size allocation.state = (given, after)) :
    array.Granted allocation size ⟨after, grantBlock given size allocation.blocks, given⟩ := by
  have unchanged := (getmem_recorded recorded requestable).2
  rw [called] at unchanged
  have kept : ∀ block ∈ allocation.blocks, block ∈ grantBlock given size allocation.blocks ∧
      SameOctets allocation.state.mem block.p after.mem block.p block.size := by
    intro block held
    rw [unchanged]
    refine ⟨?_, .refl _ _ _⟩
    cases given with
    | none => exact held
    | some p => exact List.mem_cons_of_mem _ held
  rcases Nat.eq_zero_or_pos size with rfl | positive
  · cases called
    exact ⟨by simp, fun _ => ⟨rfl, rfl⟩, kept⟩
  · rcases getmem_spec _ recorded.separate positive requestable with
      ⟨refused, nowhere⟩ | ⟨start, count, length, fits, room, granted⟩
    · cases refused.symm.trans called
      refine ⟨?_, fun _ => ⟨rfl, rfl⟩, kept⟩
      constructor
      · exact fun impossible => absurd rfl impossible
      · rintro ⟨_, start, fits, unused⟩
        exact absurd ((recorded.room_iff fits).mp unused) (nowhere start fits)
    · cases granted.symm.trans called
      refine ⟨?_, nofun, kept⟩
      constructor
      · exact fun _ => ⟨positive, start, fits, (recorded.room_iff fits).mpr room⟩
      · exact fun _ => nofun

private theorem memmove_outside {np address : Int} (outside : address < np ∨ np + count ≤ address) :
    StaticArray.memmove np dp count mem address = mem address := by
  rw [StaticArray.memmove, if_neg]
  omega

private theorem memmove_inside {np : Int} (offset : Nat) (inside : offset < count) :
    StaticArray.memmove np dp count mem (np + offset) = mem (dp + offset) := by
  rw [StaticArray.memmove, if_pos ⟨by omega, by omega⟩]
  have distance : np + (offset : Int) - np = offset := by omega
  rw [distance]

theorem StaticArray.Recorded.octets_apart (recorded : array.Recorded busy blocks)
    (held : block ∈ blocks) (below : start < array.fragnum) (used : 0 < busy start)
    (other : block.p ≠ start * array.fragsize) (offset : Nat) (inside : offset < block.size) :
    block.p + offset < start * array.fragsize ∨
      start * array.fragsize + (busy start * array.fragsize : Nat) ≤ block.p + offset := by
  obtain ⟨place, below', at_, used', enough⟩ := recorded.placed block held
  rcases Nat.lt_trichotomy place start with less | rfl | more
  · have ended := Nat.mul_le_mul_right array.fragsize
      (recorded.separate.disjoint below' start (by omega) less)
    rw [Nat.add_mul] at ended
    left
    omega
  · exact absurd at_ other
  · have ended := Nat.mul_le_mul_right array.fragsize
      (recorded.separate.disjoint below place (by omega) more)
    rw [Nat.add_mul] at ended
    right
    omega

theorem regetmem_in_place
    (recorded : array.Recorded (counts allocation.state.busysizes) allocation.blocks)
    (positive : 0 < size) (below : start < array.fragnum) {nbusy : UInt16}
    (length : nbusy.toNat = array.fragments size)
    (fewer : nbusy ≤ allocation.state.busysizes start) : array.Recorded
        (counts (Function.update allocation.state.busysizes start nbusy))
        (⟨start * array.fragsize, size⟩ ::
          releaseBlock (some (start * array.fragsize : Int)) allocation.blocks) := by
  have released := recorded.release start
  have room := recorded.separate.room_release below
  have shorter : array.fragments size ≤ counts allocation.state.busysizes start := by
    rw [← length]
    exact UInt16.le_iff_toNat_le.mp fewer
  have inside := recorded.separate.inside start below
  have enough : size ≤ array.fragments size * array.fragsize :=
    (fragments_le_iff _).mp (Nat.le_refl _)
  have granted := released.grant (fun offset before => room offset (by omega))
    (fragments_pos positive) (by omega) enough
  rwa [Function.update_idem, ← length, ← counts_update] at granted

/-- The octets after a block moved to a longer place: the moved ones are at the new place, and
those of the other blocks are where they were. -/
theorem memmove_kept (recorded : array.Recorded busy blocks) {mem : Int → UInt8}
    (held : block ∈ blocks) (below : place < array.fragnum) (longer : cbusy < busy place)
    (other : block.p ≠ place * array.fragsize) :
    SameOctets mem block.p (StaticArray.memmove (place * array.fragsize) dp
      (cbusy * array.fragsize) mem) block.p block.size := by
  intro offset inside
  refine memmove_outside ?_
  have less := Nat.mul_le_mul_right array.fragsize (Nat.le_of_lt longer)
  rcases recorded.octets_apart held below (by omega) other offset inside with before | behind
  · exact Or.inl before
  · exact Or.inr (by omega)

/-- What `ub_static_regetmem` does with a pointer that is the start of a fragment. -/
theorem regetmem_resized
    (recorded : array.Recorded (counts allocation.state.busysizes) allocation.blocks)
    (positive : 0 < size) (counted : array.Counted allocation (.regetmem (some dp) size))
    (given : Option Int) (after : StaticMem)
    (called : array.regetmem (some dp) size allocation.state = (given, after))
    (next : List Block) (books : next = if given ≠ none then
      grantBlock given size (releaseBlock (some dp) allocation.blocks) else allocation.blocks) :
    array.Recorded (counts after.busysizes) next ∧ Resized allocation dp size ⟨after, next, given⟩ := by
  obtain ⟨short, narrow⟩ := counted
  have unchanged : Resized allocation dp size ⟨allocation.state, allocation.blocks, none⟩ :=
    ⟨fun _ _ _ => nofun, fun _ => ⟨rfl, rfl⟩, fun _ held _ => ⟨held, .refl _ _ _⟩⟩
  rw [StaticArray.regetmem, if_neg (by omega)] at called
  cases accepted : array.fragmentAt dp with
  | none =>
    simp only [accepted] at called
    cases called
    subst books
    exact ⟨recorded, unchanged⟩
  | some cpi =>
    obtain ⟨start, below, rfl, rfl⟩ := fragmentAt_eq_some accepted
    have length := newBusy_toNat positive short
    simp only [accepted] at called
    have stays : ∀ block ∈ allocation.blocks, block.p ≠ start * array.fragsize →
        block ∈ releaseBlock (some (start * array.fragsize : Int)) allocation.blocks :=
      fun block held other => mem_releaseBlock.mpr ⟨held, fun same => other (Option.some.inj same)⟩
    by_cases fewer : array.newBusy size ≤ allocation.state.busysizes start
    · rw [if_pos fewer] at called
      cases called
      subst books
      have exactly : (array.newBusy size).toNat = array.fragments size := by
        rcases narrow with small | ⟨_, more⟩
        · rw [length, Nat.mod_eq_of_lt small]
        · have bigger := UInt16.lt_iff_toNat_lt.mp (more start accepted)
          have smaller := UInt16.le_iff_toNat_le.mp fewer
          omega
      refine ⟨regetmem_in_place recorded positive below exactly fewer, ?_, nofun, ?_⟩
      · rintro block held same np given offset inside
        cases given
        rfl
      · exact fun block held other =>
          ⟨List.mem_cons_of_mem _ (stays block held other), .refl _ _ _⟩
    · rw [if_neg fewer] at called
      have released := recorded.release start
      rw [← UInt16.toNat_zero, ← counts_update] at released
      have requestable : array.Requestable size := by
        have positive := array.fragsize_pos
        exact ⟨by omega, narrow.symm.imp And.left id⟩
      rcases getmem_spec { allocation.state with
          busysizes := Function.update allocation.state.busysizes start 0 } released.separate positive requestable with
        ⟨refused, _⟩ | ⟨place, count, taken, fits, room, granted⟩
      · simp only [refused] at called
        cases called
        subst books
        simp only [Function.update_idem, Function.update_eq_self]
        exact ⟨recorded, unchanged⟩
      · have grown := released.grant room (fragments_pos positive) fits
          ((fragments_le_iff _).mp (Nat.le_refl _))
        rw [← taken, ← counts_update] at grown
        have longer : (allocation.state.busysizes start).toNat < count.toNat := by
          have more := UInt16.lt_iff_toNat_lt.mp (UInt16.not_le.mp fewer)
          omega
        have apart : ∀ block ∈ allocation.blocks, block.p ≠ start * array.fragsize →
            block.p ≠ place * array.fragsize := fun block held other =>
          ((List.pairwise_cons.mp grown.once).1 block (stays block held other)).symm
        have long : ∀ block ∈ allocation.blocks, block.p = start * array.fragsize →
            block.size ≤ (allocation.state.busysizes start).toNat * array.fragsize := by
          intro block held same
          obtain ⟨other, _, at_, _, enough⟩ := recorded.placed block held
          obtain rfl := position_inj (at_.symm.trans same)
          exact enough
        simp only [granted] at called
        by_cases same : (place * array.fragsize : Int) = start * array.fragsize
        · rw [if_pos same] at called
          cases called
          subst books
          refine ⟨grown, ?_, nofun, ?_⟩
          · rintro block held _ np given offset _
            cases given
            rw [same]
          · exact fun block held other =>
              ⟨List.mem_cons_of_mem _ (stays block held other), .refl _ _ _⟩
        · rw [if_neg same] at called
          cases called
          subst books
          refine ⟨grown, ?_, nofun, ?_⟩
          · rintro block held own np given offset inside
            cases given
            have fits := long block held own
            exact memmove_inside offset (by omega)
          · intro block held other
            have member := stays block held other
            refine ⟨List.mem_cons_of_mem _ member, ?_⟩
            refine memmove_kept grown (List.mem_cons_of_mem _ member) (by omega) ?_
              (apart block held other)
            rw [counts_update, Function.update_self]
            exact longer

theorem step_served {next : Allocation}
    (recorded : array.Recorded (counts allocation.state.busysizes) allocation.blocks)
    (counted : array.Counted allocation call) (taken : array.step allocation call = some next) :
    array.Recorded (counts next.state.busysizes) next.blocks ∧ array.Served allocation call next := by
  cases call with
  | getmem size =>
    cases taken
    exact ⟨(getmem_recorded recorded counted).1, getmem_granted recorded counted _ _ rfl⟩
  | regetmem p nsize =>
    rw [StaticArray.step] at taken
    obtain ⟨_, taken⟩ := Option.ite_none_right_eq_some.mp taken
    cases p with
    | none =>
      have all : releaseBlock none allocation.blocks = allocation.blocks :=
        List.filter_eq_self.mpr fun _ _ => decide_eq_true nofun
      have books : next = ⟨(array.getmem nsize allocation.state).2,
          grantBlock (array.getmem nsize allocation.state).1 nsize allocation.blocks,
          (array.getmem nsize allocation.state).1⟩ := by
        simp only [all] at taken
        split at taken
        · exact (Option.some.inj taken).symm
        · rename_i kept
          have refused : (array.getmem nsize allocation.state).1 = none :=
            Decidable.not_not.mp fun given => kept (Or.inr given)
          rw [refused]
          change some (Allocation.mk _ _ (array.getmem nsize allocation.state).1) = some next at taken
          rw [refused] at taken
          exact (Option.some.inj taken).symm
      subst books
      exact ⟨(getmem_recorded recorded counted).1, getmem_granted recorded counted _ _ rfl⟩
    | some dp =>
      rcases Nat.eq_zero_or_pos nsize with rfl | positive
      · cases taken
        exact ⟨(relmem_recorded recorded (some dp)).1, fun impossible => absurd rfl impossible⟩
      · have nonzero : nsize ≠ 0 := by omega
        cases called : array.regetmem (some dp) nsize allocation.state with
        | mk given after =>
          have resized := regetmem_resized recorded positive counted given after called _ rfl
          simp only [called, nonzero, false_or] at taken
          split at taken
          · rename_i granted
            cases taken
            rw [if_pos granted] at resized
            exact ⟨resized.1, fun _ => resized.2⟩
          · rename_i refused
            cases taken
            rw [if_neg refused] at resized
            exact ⟨resized.1, fun _ => resized.2⟩
  | relmem p =>
    obtain ⟨_, books⟩ := Option.ite_none_right_eq_some.mp taken
    cases books
    obtain ⟨released, unchanged⟩ := relmem_recorded recorded p
    exact ⟨released, unchanged, fun block held other => mem_releaseBlock.mpr ⟨held, other⟩⟩
  | write address octet =>
    obtain ⟨_, books⟩ := Option.ite_none_right_eq_some.mp taken
    cases books
    exact ⟨recorded, rfl, rfl⟩

private theorem reachable_recorded (reachable : (staticMemSystem array).Reachable array.Counted allocation) :
    array.Recorded (counts allocation.state.busysizes) allocation.blocks := by
  refine reachable.invariant
    (fun allocation => array.Recorded (counts allocation.state.busysizes) allocation.blocks)
    (.initially array) ?_
  intro allocation call next recorded counted taken
  exact (step_served recorded counted taken).1

/-- In every run whose requests the narrow integers hold, the blocks of the clients are in
order, and the next such call serves its client and leaves the other ones alone. -/
theorem static_blocks (array : StaticArray) (allocation : Allocation)
    (reachable : (staticMemSystem array).Reachable array.Counted allocation) :
    array.Orderly allocation ∧ ∀ call next, array.Counted allocation call →
      (staticMemSystem array).step allocation call = some next → array.Served allocation call next := by
  have recorded := reachable_recorded reachable
  refine ⟨recorded.orderly, ?_⟩
  intro call next counted taken
  exact (step_served recorded counted taken).2

def StaticArray.sample : StaticArray := ⟨4, 8, by decide, by decide, by decide⟩

instance {array : StaticArray} {allocation : Allocation} :
    (call : MemCall) → Decidable (array.Counted allocation call)
  | .getmem size | .regetmem none size => inferInstanceAs (Decidable (array.Requestable size))
  | .regetmem (some dp) nsize =>
    have : Decidable (∀ cpi ∈ array.fragmentAt dp,
        allocation.state.busysizes cpi < array.newBusy nsize) :=
      Option.decidableForallMem (array.fragmentAt dp)
    inferInstanceAs (Decidable (_ ∧ (_ ∨ _ ∧ _)))
  | .relmem _ | .write _ _ => isTrue trivial

theorem static_blocks_sample : ∃ allocation next,
    (staticMemSystem .sample).Reachable StaticArray.sample.Counted allocation ∧
      allocation.blocks = [⟨0, 20⟩] ∧ StaticArray.sample.Orderly allocation ∧
      (staticMemSystem .sample).step allocation (.getmem 8) = some next ∧ next.result = some 24 ∧
      StaticArray.sample.Served allocation (.getmem 8) next := by
  have ran : (((staticMemSystem .sample).restrict fun allocation call =>
      decide (StaticArray.sample.Counted allocation call)).run (staticMemSystem .sample).start
      [.getmem 8, .getmem 12, .write 8 7, .relmem (some 0), .regetmem (some 8) 20]).map
      (fun allocation => (allocation.blocks, (StaticArray.sample.getmem 8 allocation.state).1)) =
      some ([⟨0, 20⟩], some 24) := by
    decide +kernel
  obtain ⟨allocation, finished, books⟩ := Option.map_eq_some_iff.mp ran
  have reachable : (staticMemSystem .sample).Reachable StaticArray.sample.Counted allocation :=
    (System.reachable_of_run finished).of_restrict fun _ _ => of_decide_eq_true
  have ordered := static_blocks .sample allocation reachable
  have requestable : StaticArray.sample.Requestable 8 := by decide
  obtain ⟨blocks, result⟩ := Prod.mk.inj books
  exact ⟨allocation, _, reachable, blocks, ordered.1, rfl, result, ordered.2 _ _ requestable rfl⟩

/-- A block of one fragment "grows" to 65537 fragments, which a busy size takes for one. -/
theorem static_block_short : ∃ allocation, (staticMemSystem .sample).Reachable System.anyStep allocation ∧
    allocation.result = some 0 ∧ ¬ StaticArray.sample.Orderly allocation := by
  have ran : ((staticMemSystem .sample).run (staticMemSystem .sample).start
      [.getmem 8, .regetmem (some 0) 524296]).map
      (fun allocation => (allocation.blocks, allocation.result,
        StaticArray.sample.extent allocation.state.busysizes 0)) =
      some ([⟨0, 524296⟩], some 0, 8) := by
    decide +kernel
  obtain ⟨allocation, finished, books⟩ := Option.map_eq_some_iff.mp ran
  simp only [Prod.mk.injEq] at books
  obtain ⟨blocks, result, extent⟩ := books
  refine ⟨allocation, System.reachable_of_run finished, result, ?_⟩
  intro orderly
  have enough := orderly.enough ⟨0, 524296⟩ (by rw [blocks]; exact List.mem_cons_self)
  rw [extent] at enough
  exact absurd enough (by decide)

end EnetTsn.Unibase
