import Mathlib.Tactic.SplitIfs
import EnetTsn.Netconf.EditConfig

namespace EnetTsn.Netconf

/-- An element at the top of a filter or of a `<config>` node: what
`nconf_xmlutils_generate_tree_info` gives for a copy of it, whether there is memory when the array
has to grow for it, and whether there is a handle for its next sibling. -/
structure TopElement (τ : Type) where
  treeinfo : Option τ
  regrown : Bool
  sibling : Bool
  deriving DecidableEq

/-- The array of `nconf_filter_info_t` or of `nconf_update_info_t`, and its count. A place is empty
until a pointer is written to it, and there are no places when the block has been given back. -/
structure SubtreeArray (τ : Type) where
  places : Option (List (Option (Option τ)))
  count : UInt8
  deriving DecidableEq

/-- A `<filter>` node: whether its type is `subtree`, and its elements. -/
structure FilterNode (τ : Type) where
  subtree : Bool
  children : List (TopElement τ)

/-- Whether there is memory for the information on a request, and for its first array. -/
structure InfoMemory where
  info : Bool
  array : Bool

namespace SubtreeArray

variable {τ : Type}

def initial (granted : Bool) : SubtreeArray τ where
  places := if granted then some (List.replicate nconfInitialSubtreeCount.toNat none) else none
  count := 0

/-- `nconf_memrealloc` to a number of pointers. A request for none gives the block back and has no
result. -/
def regrow (array : SubtreeArray τ) (granted : Bool) (size : UInt8) : SubtreeArray τ × Bool :=
  if size = 0 then ({ array with places := none }, false)
  else if granted then
    ({ array with
      places := array.places.map fun places =>
        (places ++ List.replicate size.toNat none).take size.toNat }, true)
  else (array, false)

def store (array : SubtreeArray τ) (index : UInt8) (treeinfo : Option τ) :
    Option (SubtreeArray τ) :=
  array.places.bind fun places =>
    if index.toNat < places.length then
      some { array with places := some (places.set index.toNat (some treeinfo)) }
    else none

/-- The loop over the elements, with the result of the turn before; none if it writes outside of
the array. -/
def listElements (maxIndex : UInt8) (array : SubtreeArray τ) (ret : Int) :
    List (TopElement τ) → Option (SubtreeArray τ × Int)
  | [] => some (array, ret)
  | module :: rest =>
    let si := array.count
    let newMaxIndex := if maxIndex ≤ si then maxIndex * 2 else maxIndex
    let (grown, done) :=
      if maxIndex ≤ si then array.regrow module.regrown newMaxIndex else (array, true)
    if done = false then some (grown, -1)
    else do
      let stored ← grown.store si module.treeinfo
      if module.treeinfo.isNone then some (stored, -1)
      else
        let counted := { stored with count := stored.count + 1 }
        if module.sibling then listElements newMaxIndex counted 0 rest else some (counted, 0)

def nconfMsghdlrGetSubtreeFilters (finfo : SubtreeArray τ) (modules : List (TopElement τ)) :
    Option (SubtreeArray τ × Int) :=
  listElements nconfInitialSubtreeCount finfo (-1) modules

def nconfMsghdlrEvaluateFilter (finfo : SubtreeArray τ) (filter : FilterNode τ) :
    Option (SubtreeArray τ × Int) :=
  if filter.subtree = false then some (finfo, -1)
  else if filter.children = [] then some (finfo, 0)
  else nconfMsghdlrGetSubtreeFilters finfo filter.children

/-- `nconf_msghdlr_get_rpcreq_finfo`: the request is refused if there is no information on its
filter. The result of the evaluation is reported only. -/
def nconfMsghdlrGetRpcreqFinfo (memory : InfoMemory) (filter : FilterNode τ) :
    Option (Option (SubtreeArray τ)) :=
  if memory.info = false then some none
  else if memory.array = false then some (some (initial false))
  else (nconfMsghdlrEvaluateFilter (initial true) filter).map fun evaluated => some evaluated.1

/-- `nconf_msghdlr_get_update_list`, from which a request goes on if there is a list. -/
def nconfMsghdlrGetUpdateList (memory : InfoMemory) (config : List (TopElement τ)) :
    Option (Option (SubtreeArray τ)) :=
  if memory.info = false ∨ memory.array = false then some none
  else (listElements nconfInitialSubtreeCount (initial true) (-1) config).map fun listed =>
    some listed.1

structure Complete (array : SubtreeArray τ) (elements : List (TopElement τ)) : Prop where
  count : array.count.toNat = elements.length
  initialised : ∀ (index : Nat) (element : TopElement τ), elements[index]? = some element →
    ∃ places, array.places = some places ∧ places[index]? = some (some element.treeinfo)
  subtrees : ∀ element ∈ elements, element.treeinfo.isSome = true

def Listed (result : Option (Option (SubtreeArray τ))) (elements : List (TopElement τ)) : Prop :=
  ∃ info, result = some info ∧ ∀ array ∈ info, array.Complete elements

end SubtreeArray

/-- Elements that can be listed behind some others: they are not too many, each has a subtree and,
but for the last one, a handle for its sibling, and there is memory whenever the others are a
power of two, at least two. -/
structure Listable (before : Nat) (elements : List (TopElement τ)) : Prop where
  few : before + elements.length ≤ 128
  subtrees : ∀ element ∈ elements, element.treeinfo.isSome = true
  siblings : ∀ element ∈ elements.dropLast, element.sibling = true
  regrown : ∀ index, ∀ element ∈ elements[index]?, ∀ power, before + index = 2 ^ (power + 1) →
    element.regrown = true

section Listing

variable {τ : Type} {before power : Nat} {element : TopElement τ} {done rest elements : List (TopElement τ)}
  {array : SubtreeArray τ} {maxIndex : UInt8} {ret : Int}

theorem listable_cons : Listable before (element :: rest) ↔
    (before + 1 + rest.length ≤ 128 ∧ element.treeinfo.isSome = true ∧
      (rest ≠ [] → element.sibling = true) ∧
      (∀ power, before = 2 ^ (power + 1) → element.regrown = true)) ∧
      Listable (before + 1) rest := by
  constructor
  · rintro ⟨few, subtrees, siblings, regrown⟩
    obtain ⟨here, others⟩ := List.forall_mem_cons.mp subtrees
    rw [List.length_cons] at few
    refine ⟨⟨by omega, here, fun more => ?_, fun power same => regrown 0 element rfl power same⟩,
      by omega, others, fun other member => ?_, fun index other found power same => ?_⟩
    · apply siblings
      rw [List.dropLast_cons_of_ne_nil more]
      exact List.mem_cons_self
    · apply siblings
      rw [List.dropLast_cons_of_ne_nil (List.ne_nil_of_mem (List.dropLast_subset _ member))]
      exact List.mem_cons_of_mem _ member
    · exact regrown (index + 1) other found power (by omega)
  · rintro ⟨⟨few, here, sibling, grows⟩, listable⟩
    refine ⟨?_, List.forall_mem_cons.mpr ⟨here, listable.subtrees⟩, ?_, ?_⟩
    · rw [List.length_cons]
      omega
    · cases rest with
      | nil => exact nofun
      | cons next rest =>
        exact List.forall_mem_cons.mpr ⟨sibling (List.cons_ne_nil _ _), listable.siblings⟩
    · intro index other found power same
      cases index with
      | zero =>
        cases found
        exact grows power same
      | succ index => exact listable.regrown index other found power (by omega)

namespace SubtreeArray

/-- An array whose first elements are listed, with room for as many as a power of two. -/
structure Filled (maxIndex : UInt8) (power : Nat) (array : SubtreeArray τ)
    (done : List (TopElement τ)) : Prop where
  size : maxIndex.toNat = 2 ^ (power + 1)
  small : power ≤ 6
  count : array.count.toNat = done.length
  places : ∃ free, array.places =
    some ((done.map fun element => some element.treeinfo) ++ free) ∧
      done.length + free.length = maxIndex.toNat
  subtrees : ∀ element ∈ done, element.treeinfo.isSome = true
  tight : power = 0 ∨ 2 ^ power ≤ done.length

namespace Filled

variable (filled : array.Filled maxIndex power done)
include filled

theorem room : maxIndex.toNat ≤ 128 := by
  rw [filled.size]
  exact Nat.pow_le_pow_right (by decide) (Nat.succ_le_succ filled.small)

theorem inside : done.length ≤ maxIndex.toNat := by
  obtain ⟨free, _, total⟩ := filled.places
  omega

theorem full_iff : maxIndex ≤ array.count ↔ done.length = 2 ^ (power + 1) := by
  have inside := filled.inside
  rw [UInt8.le_iff_toNat_le, filled.count, ← filled.size]
  omega

private theorem full_of_power
    (settled : power = 0 ∨ 2 ^ power < done.length) (same : done.length = 2 ^ (other + 1)) :
    maxIndex ≤ array.count := by
  have inside := filled.inside
  rw [filled.size, same] at inside
  have below := (Nat.pow_le_pow_iff_right (by decide)).mp inside
  have equal : other = power := by
    rcases settled with zero | settled
    · omega
    · rw [same] at settled
      have above := (Nat.pow_lt_pow_iff_right (by decide)).mp settled
      omega
  rw [filled.full_iff, same, equal]

theorem complete : array.Complete done := by
  obtain ⟨free, places, _⟩ := filled.places
  refine ⟨filled.count, fun index element found => ⟨_, places, ?_⟩, filled.subtrees⟩
  have within := (List.getElem?_eq_some_iff.mp found).1
  rw [List.getElem?_append_left (by rwa [List.length_map]), List.getElem?_map, found]
  rfl

theorem regrow (full : maxIndex ≤ array.count)
    (less : power < 6) : ∃ grown, array.regrow true (maxIndex * 2) = (grown, true) ∧
      grown.Filled (maxIndex * 2) (power + 1) done := by
  have fits : 2 ^ (power + 2) < 256 :=
    Nat.lt_of_le_of_lt (Nat.pow_le_pow_right (by decide) (by omega : power + 2 ≤ 7)) (by decide)
  have twice : (maxIndex * 2).toNat = 2 ^ (power + 2) := by
    rw [UInt8.toNat_mul, filled.size, Nat.pow_succ 2 (power + 1)]
    exact Nat.mod_eq_of_lt fits
  obtain ⟨free, places, total⟩ := filled.places
  have positive : maxIndex * 2 ≠ 0 := by
    intro zero
    rw [zero] at twice
    exact absurd twice.symm (Nat.pos_iff_ne_zero.mp (Nat.two_pow_pos _))
  have doubled : maxIndex.toNat + maxIndex.toNat = (maxIndex * 2).toNat := by
    rw [twice, filled.size, Nat.pow_succ 2 (power + 1)]
    omega
  refine ⟨_, if_neg positive, twice, less, filled.count,
    ⟨(free ++ List.replicate (maxIndex * 2).toNat none).take
      ((maxIndex * 2).toNat - done.length), ?_, ?_⟩, filled.subtrees, .inr ?_⟩
  · simp only [places, Option.map_some, List.append_assoc]
    rw [List.take_append, List.length_map, List.take_of_length_le (by
      rw [List.length_map]
      omega)]
  · rw [List.length_take, List.length_append, List.length_replicate]
    omega
  · exact Nat.le_of_eq (filled.full_iff.mp full).symm

theorem store (room : done.length < maxIndex.toNat) (element : TopElement τ) :
    ∃ stored, array.store array.count element.treeinfo = some stored ∧ stored.count = array.count ∧
      (element.treeinfo.isSome = true →
        Filled maxIndex power { stored with count := stored.count + 1 } (done ++ [element])) := by
  obtain ⟨free, places, total⟩ := filled.places
  cases free with
  | nil =>
    rw [List.length_nil] at total
    omega
  | cons here free =>
    rw [List.length_cons] at total
    have length : (done.map fun element => some element.treeinfo).length = array.count.toNat := by
      rw [List.length_map, filled.count]
    have within : array.count.toNat <
        ((done.map fun element => some element.treeinfo) ++ here :: free).length := by
      rw [List.length_append, length, List.length_cons]
      omega
    refine ⟨{ array with
      places := some (((done ++ [element]).map fun element => some element.treeinfo) ++ free) },
      ?_, rfl, fun generated => ⟨filled.size, filled.small, ?_, ⟨free, rfl, ?_⟩, ?_, ?_⟩⟩
    · rw [SubtreeArray.store, places, Option.bind_some, if_pos within, ← length,
        List.set_append_right _ _ (Nat.le_refl _), Nat.sub_self]
      simp
    · have bound := filled.room
      have count := filled.count
      rw [UInt8.toNat_add, count, List.length_append, List.length_singleton]
      exact Nat.mod_eq_of_lt (by
        change done.length + 1 < 256
        omega)
    · rw [List.length_append, List.length_singleton]
      omega
    · exact List.forall_mem_append.mpr ⟨filled.subtrees, List.forall_mem_singleton.mpr generated⟩
    · rw [List.length_append]
      exact filled.tight.imp_right fun tight => Nat.le_add_right_of_le tight

end Filled

theorem listElements_store (module : TopElement τ)
    (later : ∀ {array : SubtreeArray τ} {done : List (TopElement τ)}, ∀ ret,
      array.Filled maxIndex power done → power = 0 ∨ 2 ^ power < done.length →
      ∃ listed, listElements maxIndex array ret rest = some listed ∧
        (Listable done.length rest → listed.1.Complete (done ++ rest)) ∧
        (¬ Listable done.length rest → listed.1.count.toNat < done.length + rest.length))
    (filled : array.Filled maxIndex power done) (room : done.length < maxIndex.toNat)
    (grows : ∀ power, done.length = 2 ^ (power + 1) → module.regrown = true) :
    ∃ listed, (do
        let stored ← array.store array.count module.treeinfo
        if module.treeinfo.isNone then some (stored, (-1 : Int))
        else
          let counted := { stored with count := stored.count + 1 }
          if module.sibling then listElements maxIndex counted 0 rest else some (counted, 0)) =
        some listed ∧
      (Listable done.length (module :: rest) → listed.1.Complete (done ++ module :: rest)) ∧
      (¬ Listable done.length (module :: rest) →
        listed.1.count.toNat < done.length + (module :: rest).length) := by
  obtain ⟨stored, written, count, next⟩ := filled.store room module
  have few : done.length + 1 ≤ 128 := Nat.le_trans room filled.room
  rw [written]
  simp only [Option.bind_eq_bind, Option.bind_some, listable_cons, List.length_cons]
  by_cases failed : module.treeinfo.isNone = true
  · rw [if_pos failed]
    refine ⟨_, rfl, fun listable => ?_, fun _ => ?_⟩
    · rw [Option.isNone_iff_eq_none.mp failed] at listable
      cases listable.1.2.1
    · rw [count, filled.count]
      omega
  · have generated : module.treeinfo.isSome = true := by
      rw [Option.isSome_iff_ne_none]
      exact fun none => failed (Option.isNone_iff_eq_none.mpr none)
    have counted := next generated
    have length : (done ++ [module]).length = done.length + 1 := List.length_append
    have split : done ++ module :: rest = (done ++ [module]) ++ rest := by simp
    have settled : power = 0 ∨ 2 ^ power < (done ++ [module]).length := by
      rw [length]
      exact filled.tight.imp_right Nat.lt_succ_of_le
    rw [if_neg failed]
    by_cases sibling : module.sibling = true
    · obtain ⟨listed, result, all, fewer⟩ := later 0 counted settled
      rw [length] at all fewer
      rw [if_pos sibling, split]
      refine ⟨listed, result, fun listable => all listable.2, fun refused => ?_⟩
      have others : ¬ Listable (done.length + 1) rest := by
        intro listable
        have within := listable.few
        exact refused ⟨⟨within, generated, fun _ => sibling, grows⟩, listable⟩
      have less := fewer others
      omega
    · rw [if_neg sibling]
      refine ⟨_, rfl, fun listable => ?_, fun refused => ?_⟩
      · have last : rest = [] := by
          by_contra more
          exact sibling (listable.1.2.2.1 more)
        rw [last]
        exact counted.complete
      · rw [counted.count, length]
        have more : rest ≠ [] := by
          rintro rfl
          exact refused ⟨⟨few, generated, fun absurd_ => absurd rfl absurd_, grows⟩,
            few, by simp, by simp, by simp⟩
        have positive := List.length_pos_of_ne_nil more
        omega

theorem listElements_spec (elements : List (TopElement τ)) (ret : Int)
    (filled : array.Filled maxIndex power done) (settled : power = 0 ∨ 2 ^ power < done.length) :
    ∃ listed, listElements maxIndex array ret elements = some listed ∧
      (Listable done.length elements → listed.1.Complete (done ++ elements)) ∧
      (¬ Listable done.length elements → listed.1.count.toNat < done.length + elements.length) := by
  induction elements generalizing maxIndex power array done ret with
  | nil =>
    refine ⟨_, rfl, fun _ => ?_, fun refused => ?_⟩
    · rw [List.append_nil]
      exact filled.complete
    · have inside := filled.inside
      have room := filled.room
      exact absurd ⟨by simp only [List.length_nil]; omega, by simp, by simp, by simp⟩ refused
  | cons module rest ih =>
    rw [listElements]
    by_cases full : maxIndex ≤ array.count
    · have length := filled.full_iff.mp full
      simp only [if_pos full]
      have refuses (unable : power = 6 ∨ module.regrown = false) :
          ¬ Listable done.length (module :: rest) := by
        intro listable
        obtain ⟨⟨few, _, _, grows⟩, _⟩ := listable_cons.mp listable
        rcases unable with rfl | refused
        · omega
        · rw [grows power length] at refused
          cases refused
      have unchanged (grown : SubtreeArray τ) (count : grown.count = array.count)
          (unable : power = 6 ∨ module.regrown = false) :
          ∃ listed, some (grown, (-1 : Int)) = some listed ∧
            (Listable done.length (module :: rest) → listed.1.Complete (done ++ module :: rest)) ∧
            (¬ Listable done.length (module :: rest) →
              listed.1.count.toNat < done.length + (module :: rest).length) := by
        refine ⟨_, rfl, fun listable => absurd listable (refuses unable), fun _ => ?_⟩
        rw [count, filled.count, List.length_cons]
        omega
      by_cases last : power = 6
      · have zero : maxIndex * 2 = 0 := by
          apply UInt8.toNat_inj.mp
          rw [UInt8.toNat_mul, filled.size, last]
          rfl
        rw [SubtreeArray.regrow, if_pos zero]
        exact unchanged _ rfl (.inl last)
      · obtain ⟨grown, regrown, more⟩ :=
          filled.regrow full (Nat.lt_of_le_of_ne filled.small last)
        by_cases granted : module.regrown = true
        · rw [granted, regrown]
          have less : done.length < (maxIndex * 2).toNat := by
            rw [more.size, length]
            exact Nat.pow_lt_pow_right (by decide) (Nat.lt_succ_self _)
          have count : grown.count = array.count := by
            apply UInt8.toNat_inj.mp
            rw [more.count, filled.count]
          simp only [Bool.true_eq_false, if_false, ← count]
          exact listElements_store module (fun ret filled settled => ih ret filled settled)
            more less fun _ _ => granted
        · have refused := Bool.eq_false_iff.mpr granted
          have positive : maxIndex * 2 ≠ 0 := by
            intro zero
            have size := more.size
            rw [zero] at size
            exact absurd size.symm (Nat.pos_iff_ne_zero.mp (Nat.two_pow_pos _))
          rw [refused, SubtreeArray.regrow, if_neg positive]
          exact unchanged array rfl (.inr refused)
    · have room : done.length < maxIndex.toNat := by
        rw [UInt8.le_iff_toNat_le, filled.count] at full
        omega
      simp only [if_neg full, Bool.true_eq_false, if_false]
      exact listElements_store module (fun ret filled settled => ih ret filled settled)
        filled room fun _ same => absurd (filled.full_of_power settled same) full

private theorem initial_filled : (initial true : SubtreeArray τ).Filled nconfInitialSubtreeCount 0 [] :=
  ⟨rfl, by decide, rfl, ⟨_, rfl, rfl⟩, nofun, .inl rfl⟩

theorem listElements_initial (elements : List (TopElement τ)) :
    ∃ listed, listElements nconfInitialSubtreeCount (initial true) (-1) elements = some listed ∧
      (listed.1.Complete elements ↔ Listable 0 elements) := by
  obtain ⟨listed, result, all, fewer⟩ := listElements_spec elements (-1) initial_filled (.inl rfl)
  refine ⟨listed, result, fun complete => ?_, all⟩
  by_contra refused
  have less := fewer refused
  have count := complete.count
  rw [List.length_nil, Nat.zero_add] at less
  omega

variable (array : SubtreeArray τ)

theorem complete_of_empty (empty : array.count = 0) : array.Complete elements ↔ elements = [] := by
  constructor
  · intro complete
    have count := complete.count
    rw [empty] at count
    exact List.length_eq_zero_iff.mp count.symm
  · rintro rfl
    exact ⟨by rw [empty]; rfl, nofun, nofun⟩

theorem listed_some : Listed (some (some array)) elements ↔ array.Complete elements := by
  constructor
  · rintro ⟨info, same, listed⟩
    cases same
    exact listed array rfl
  · intro complete
    exact ⟨_, rfl, fun other found => Option.mem_some.mp found ▸ complete⟩

theorem listed_none : Listed (some (none : Option (SubtreeArray τ))) elements :=
  ⟨none, rfl, nofun⟩

section

variable (memory : InfoMemory) (filter : FilterNode τ)

theorem listed_filter : Listed (nconfMsghdlrGetRpcreqFinfo memory filter) filter.children ↔
      memory.info = false ∨ filter.children = [] ∨
        memory.array = true ∧ filter.subtree = true ∧ Listable 0 filter.children := by
  rw [nconfMsghdlrGetRpcreqFinfo]
  by_cases refused : memory.info = false
  · rw [if_pos refused]
    exact iff_of_true listed_none (.inl refused)
  rw [if_neg refused]
  by_cases bare : memory.array = false
  · rw [if_pos bare, listed_some, complete_of_empty (initial false) rfl]
    simp [refused, bare]
  rw [if_neg bare, nconfMsghdlrEvaluateFilter]
  by_cases other : filter.subtree = false
  · rw [if_pos other, Option.map_some, listed_some, complete_of_empty (initial true) rfl]
    simp [refused, other]
  rw [if_neg other]
  by_cases empty : filter.children = []
  · rw [if_pos empty, Option.map_some, listed_some, complete_of_empty (initial true) rfl]
    simp [empty]
  · obtain ⟨listed, result, complete⟩ := listElements_initial filter.children
    rw [if_neg empty, nconfMsghdlrGetSubtreeFilters, result, Option.map_some, listed_some, complete]
    simp [refused, bare, other, empty]

variable (config : List (TopElement τ))

theorem listed_config : Listed (nconfMsghdlrGetUpdateList memory config) config ↔
      memory.info = false ∨ memory.array = false ∨ Listable 0 config := by
  rw [nconfMsghdlrGetUpdateList]
  by_cases refused : memory.info = false ∨ memory.array = false
  · rw [if_pos refused]
    exact iff_of_true listed_none (refused.imp_right .inl)
  · obtain ⟨listed, result, complete⟩ := listElements_initial config
    rw [if_neg refused, result, Option.map_some, listed_some, complete]
    rw [not_or] at refused
    simp [refused]

private theorem filter_inside : (nconfMsghdlrGetRpcreqFinfo memory filter).isSome = true := by
  obtain ⟨listed, result, _⟩ := listElements_initial filter.children
  rw [nconfMsghdlrGetRpcreqFinfo, nconfMsghdlrEvaluateFilter, nconfMsghdlrGetSubtreeFilters, result]
  split_ifs <;> rfl

private theorem config_inside : (nconfMsghdlrGetUpdateList memory config).isSome = true := by
  obtain ⟨listed, result, _⟩ := listElements_initial config
  rw [nconfMsghdlrGetUpdateList, result]
  split_ifs <;> rfl

end

/-- The array always has room for the index that is written. All elements are listed if there are at
most 128 of them and nothing that is needed for one is missing. -/
theorem subtree_arrays_listed (memory : InfoMemory) (filter : FilterNode τ)
    (config : List (TopElement τ)) : ((nconfMsghdlrGetRpcreqFinfo memory filter).isSome = true ∧
      (nconfMsghdlrGetUpdateList memory config).isSome = true) ∧
    (Listed (nconfMsghdlrGetRpcreqFinfo memory filter) filter.children ↔
      memory.info = false ∨ filter.children = [] ∨
        memory.array = true ∧ filter.subtree = true ∧ Listable 0 filter.children) ∧
    (Listed (nconfMsghdlrGetUpdateList memory config) config ↔
      memory.info = false ∨ memory.array = false ∨ Listable 0 config) :=
  ⟨⟨filter_inside memory filter, config_inside memory config⟩, listed_filter memory filter,
    listed_config memory config⟩

/-- Of 129 elements the room for the last one is zero octets, so the array is given back and 128
elements are gone on with. -/
theorem last_of_129_not_listed :
    ¬ ∀ (memory : InfoMemory) (filter : FilterNode Unit) (config : List (TopElement Unit)),
      Listed (nconfMsghdlrGetRpcreqFinfo memory filter) filter.children ∧
        Listed (nconfMsghdlrGetUpdateList memory config) config := by
  intro all
  have listed := (all ⟨true, true⟩ ⟨true, []⟩ (List.replicate 129 ⟨some (), true, true⟩)).2
  rcases (listed_config _ _).mp listed with refused | refused | listable
  · cases refused
  · cases refused
  · exact absurd listable.few (by simp only [List.length_replicate]; decide)

end SubtreeArray

end Listing

end EnetTsn.Netconf
