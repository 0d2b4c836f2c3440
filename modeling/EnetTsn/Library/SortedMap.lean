import EnetTsn.Library.Window
import Mathlib.Order.Defs.Unbundled

/-!
Maps that are kept as a list in the order of their keys, and cursors that go forward over a
range of keys while entries are put and erased.
-/

namespace EnetTsn.Library

structure SortedMap (before : α → α → Prop) (β : Type) where
  entries : List (α × β)
  sorted : entries.Pairwise fun first second => before first.1 second.1

def SortedMap.empty {before : α → α → Prop} {β : Type} : SortedMap before β :=
  ⟨[], List.Pairwise.nil⟩

structure Cursor (α : Type) where
  at? : Option α
  last : α
  deriving DecidableEq

section Entries

variable {α β : Type} [DecidableEq α] (before : α → α → Prop) [DecidableRel before]

def insertEntry (key : α) (value : β) : List (α × β) → List (α × β)
  | [] => [(key, value)]
  | entry :: rest =>
    if before key entry.1 then (key, value) :: entry :: rest
    else if key = entry.1 then (key, value) :: rest
    else entry :: insertEntry key value rest

variable {before} {key : α} {value : β} {entry : α × β} {entries front rest : List (α × β)}

theorem mem_insertEntry_of (member : entry ∈ insertEntry before key value entries) :
    entry = (key, value) ∨ entry ∈ entries := by
  induction entries with
  | nil =>
    left
    exact List.mem_singleton.mp member
  | cons first rest ih =>
    rw [insertEntry] at member
    split_ifs at member with less same
    · exact List.mem_cons.mp member
    · rcases List.mem_cons.mp member with new | old
      · exact .inl new
      · exact .inr (List.mem_cons_of_mem first old)
    · rcases List.mem_cons.mp member with head | later
      · rw [head]
        exact .inr List.mem_cons_self
      · rcases ih later with new | old
        · exact .inl new
        · exact .inr (List.mem_cons_of_mem first old)

theorem filter_insertEntry (keep : α × β → Bool) (out : ∀ value, keep (key, value) = false) :
    (insertEntry before key value entries).filter keep = entries.filter keep := by
  induction entries with
  | nil => exact List.filter_cons_of_neg (by simp [out])
  | cons first rest ih =>
    obtain ⟨firstKey, firstValue⟩ := first
    rw [insertEntry]
    split_ifs with less same
    · exact List.filter_cons_of_neg (by simp [out])
    · subst same
      rw [List.filter_cons_of_neg (by simp [out]), List.filter_cons_of_neg (by simp [out])]
    · rw [List.filter_cons, List.filter_cons, ih]

variable [IsStrictTotalOrder α before]

theorem sorted_insertEntry (sorted : entries.Pairwise fun first second => before first.1 second.1) :
    (insertEntry before key value entries).Pairwise fun first second =>
      before first.1 second.1 := by
  induction entries with
  | nil => exact List.pairwise_singleton _ _
  | cons first rest ih =>
    obtain ⟨least, others⟩ := List.pairwise_cons.mp sorted
    rw [insertEntry]
    split_ifs with less same
    · refine List.pairwise_cons.mpr ⟨?_, sorted⟩
      intro later member
      rcases List.mem_cons.mp member with rfl | behind
      · exact less
      · exact trans_of before less (least later behind)
    · subst same
      exact List.pairwise_cons.mpr ⟨least, others⟩
    · refine List.pairwise_cons.mpr ⟨?_, ih others⟩
      intro later member
      rcases mem_insertEntry_of member with rfl | behind
      · rcases trichotomous_of before key first.1 with below | equal | above
        · exact absurd below less
        · exact absurd equal same
        · exact above
      · exact least later behind

theorem mem_insertEntry (sorted : entries.Pairwise fun first second => before first.1 second.1) :
    entry ∈ insertEntry before key value entries ↔
      entry = (key, value) ∨ entry ∈ entries ∧ entry.1 ≠ key := by
  induction entries with
  | nil =>
    rw [insertEntry]
    simp
  | cons first rest ih =>
    obtain ⟨least, others⟩ := List.pairwise_cons.mp sorted
    have behind {bound : α} (order : ∀ later ∈ rest, before bound later.1) :
        entry ∈ rest → entry.1 ≠ bound := by
      intro member same
      have less := order entry member
      rw [same] at less
      exact irrefl_of before bound less
    rw [insertEntry]
    split_ifs with less same
    · have above : entry ∈ first :: rest → entry.1 ≠ key := by
        intro member
        rcases List.mem_cons.mp member with rfl | later
        · rintro rfl
          exact irrefl_of before _ less
        · exact behind (fun later member => trans_of before less (least later member)) later
      rw [List.mem_cons]
      tauto
    · have above := behind least
      rw [← same] at above
      rw [List.mem_cons, List.mem_cons]
      constructor
      · rintro (new | old)
        · exact .inl new
        · exact .inr ⟨.inr old, above old⟩
      · rintro (new | ⟨head | old, other⟩)
        · exact .inl new
        · exact absurd (by rw [head, same]) other
        · exact .inr old
    · rw [List.mem_cons, List.mem_cons, ih others]
      constructor
      · rintro (head | new | ⟨old, other⟩)
        · rw [head]
          exact .inr ⟨.inl rfl, fun equal => same equal.symm⟩
        · exact .inl new
        · exact .inr ⟨.inr old, other⟩
      · rintro (new | ⟨head | old, other⟩)
        · exact .inr (.inl new)
        · exact .inl head
        · exact .inr (.inr ⟨old, other⟩)

theorem insertEntry_behind (behind : ∀ entry ∈ front, before entry.1 key) :
    insertEntry before key value (front ++ rest) = front ++ insertEntry before key value rest := by
  induction front with
  | nil => rfl
  | cons first front ih =>
    have order := behind first List.mem_cons_self
    have notLess : ¬ before key first.1 := fun less =>
      irrefl_of before key (trans_of before less order)
    have other : key ≠ first.1 := by
      rintro rfl
      exact irrefl_of before _ order
    rw [List.cons_append, insertEntry, if_neg notLess, if_neg other,
      ih fun entry member => behind entry (List.mem_cons_of_mem first member)]
    rfl

omit [IsStrictTotalOrder α before] in
theorem insertEntry_before (less : ∀ entry ∈ rest, before key entry.1) :
    insertEntry before key value (front ++ rest) = insertEntry before key value front ++ rest := by
  induction front with
  | nil =>
    cases rest with
    | nil => rfl
    | cons first rest => exact if_pos (less first List.mem_cons_self)
  | cons first front ih =>
    rw [List.cons_append, insertEntry, insertEntry, ih]
    split_ifs <;> rfl

end Entries

namespace SortedMap

variable {α β : Type} [DecidableEq α] {before : α → α → Prop} [DecidableRel before]

section Operations

omit [DecidableRel before] in
def find (map : SortedMap before β) (key : α) : Option β :=
  (map.entries.find? fun entry => entry.1 = key).map Prod.snd

def erase (map : SortedMap before β) (key : α) : SortedMap before β where
  entries := map.entries.filter fun entry => entry.1 ≠ key
  sorted := map.sorted.filter _

def put [IsStrictTotalOrder α before] (map : SortedMap before β) (key : α) (value : β) :
    SortedMap before β where
  entries := insertEntry before key value map.entries
  sorted := sorted_insertEntry map.sorted

def nextKey (map : SortedMap before β) (key : α) : Option α :=
  (map.entries.find? fun entry => before key entry.1).map Prod.fst

def within (map : SortedMap before β) (low high : α) : List (α × β) :=
  window (fun entry => decide (before entry.1 low)) (fun entry => decide (before high entry.1))
    map.entries

def openRange (map : SortedMap before β) (low high : α) : Option (Cursor α) :=
  (map.within low high).getLast?.map fun last =>
    { at? := (map.within low high).head?.map Prod.fst, last := last.1 }

def item (map : SortedMap before β) (cursor : Cursor α) : Option (α × β) :=
  cursor.at?.bind fun key => (map.find key).map fun value => (key, value)

def forward (map : SortedMap before β) (cursor : Cursor α) : Cursor α :=
  { cursor with
    at? := cursor.at?.bind fun key => if cursor.last = key then none else map.nextKey key }

end Operations

/-- What a cursor still has to visit. -/
structure Ahead (map : SortedMap before β) (cursor : Cursor α) (ahead : List (α × β)) : Prop where
  part : ∃ front rest, map.entries = front ++ ahead ++ rest
  here : cursor.at? = ahead.head?.map Prod.fst
  last : ∀ entry ∈ ahead.getLast?, cursor.last = entry.1

section Laws

variable [IsStrictTotalOrder α before] {map : SortedMap before β} {key other : α} {value : β}
  {entry : α × β}

theorem mem_put : entry ∈ (map.put key value).entries ↔
    entry = (key, value) ∨ entry ∈ map.entries ∧ entry.1 ≠ key :=
  mem_insertEntry map.sorted

omit [DecidableRel before] [IsStrictTotalOrder α before] in
theorem mem_erase : entry ∈ (map.erase key).entries ↔ entry ∈ map.entries ∧ entry.1 ≠ key := by
  rw [erase, List.mem_filter, decide_eq_true_iff]

omit [DecidableEq α] [DecidableRel before] in
theorem value_unique (member : (key, value) ∈ map.entries) (member' : (key, second) ∈ map.entries) :
    value = second := by
  have apart := map.sorted
  rw [List.pairwise_iff_getElem] at apart
  obtain ⟨i, inside, here⟩ := List.getElem_of_mem member
  obtain ⟨j, inside', there⟩ := List.getElem_of_mem member'
  rcases Nat.lt_trichotomy i j with below | rfl | above
  · have order := apart i j inside inside' below
    rw [here, there] at order
    exact absurd order (irrefl_of before key)
  · rw [here] at there
    exact congrArg Prod.snd there
  · have order := apart j i inside' inside above
    rw [here, there] at order
    exact absurd order (irrefl_of before key)

omit [DecidableRel before] in
theorem find_eq_some : map.find key = some value ↔ (key, value) ∈ map.entries := by
  rw [find, Option.map_eq_some_iff]
  constructor
  · rintro ⟨⟨first, second⟩, found, rfl⟩
    have same := List.find?_some found
    rw [decide_eq_true_iff] at same
    subst same
    exact List.mem_of_find?_eq_some found
  · intro member
    cases found : map.entries.find? fun entry => entry.1 = key with
    | none =>
      have missing := List.find?_eq_none.mp found (key, value) member
      exact absurd (decide_eq_true rfl) missing
    | some entry =>
      have same := List.find?_some found
      rw [decide_eq_true_iff] at same
      obtain ⟨first, second⟩ := entry
      subst same
      refine ⟨_, rfl, ?_⟩
      exact value_unique (List.mem_of_find?_eq_some found) member

omit [DecidableRel before] in
theorem find_eq_none : map.find key = none ↔ ∀ value, (key, value) ∉ map.entries := by
  rw [Option.eq_none_iff_forall_not_mem]
  exact forall_congr' fun value => not_congr find_eq_some

theorem find_put : (map.put key value).find other = if other = key then some value
    else map.find other := by
  refine Option.ext fun second => ?_
  rw [find_eq_some, mem_put]
  split_ifs with same
  · rw [same]
    constructor
    · rintro (new | ⟨_, different⟩)
      · rw [(Prod.mk.inj new).2]
      · exact absurd rfl different
    · intro new
      exact .inl (by rw [Option.some.inj new])
  · rw [find_eq_some]
    constructor
    · rintro (new | ⟨old, _⟩)
      · exact absurd (Prod.mk.inj new).1 same
      · exact old
    · exact fun old => .inr ⟨old, same⟩

omit [DecidableRel before] in
theorem find_erase : (map.erase key).find other = if other = key then none
    else map.find other := by
  refine Option.ext fun second => ?_
  rw [find_eq_some, mem_erase]
  split_ifs with same
  · rw [same]
    constructor
    · exact fun both => absurd rfl both.2
    · exact fun impossible => nomatch impossible
  · rw [find_eq_some]
    exact ⟨fun both => both.1, fun old => ⟨old, same⟩⟩

end Laws

section Cursors

variable [IsStrictTotalOrder α before] {map : SortedMap before β} {cursor : Cursor α}
  {ahead front rest : List (α × β)} {entry : α × β} {key low high : α} {value : β}

omit [DecidableEq α] [IsStrictTotalOrder α before] in
theorem mem_within : entry ∈ map.within low high ↔
    entry ∈ map.entries ∧ ¬ before entry.1 low ∧ ¬ before high entry.1 := by
  rw [within, window, List.mem_filter, Bool.and_eq_true, Bool.not_eq_true', Bool.not_eq_true',
    decide_eq_false_iff_not, decide_eq_false_iff_not]

theorem within_put (outside : before key low ∨ before high key) :
    (map.put key value).within low high = map.within low high := by
  refine filter_insertEntry _ fun _ => ?_
  rw [Bool.and_eq_false_iff, Bool.not_eq_false', Bool.not_eq_false', decide_eq_true_iff,
    decide_eq_true_iff]
  exact outside

omit [DecidableEq α] in
theorem within_part (map : SortedMap before β) (low high : α) :
    ∃ front rest, map.entries = front ++ map.within low high ++ rest := by
  apply window_infix
  · refine map.sorted.imp fun order => ?_
    rw [decide_eq_true_iff, decide_eq_true_iff]
    exact trans_of before order
  · refine map.sorted.imp fun {first second} order => ?_
    rw [Bool.not_eq_true', Bool.not_eq_true', decide_eq_false_iff_not, decide_eq_false_iff_not]
    exact mt fun above => trans_of before above order

omit [DecidableEq α] in
theorem nextKey_split (split : map.entries = front ++ entry :: rest) :
    map.nextKey entry.1 = rest.head?.map Prod.fst := by
  have sorted := map.sorted
  rw [split, List.pairwise_append] at sorted
  obtain ⟨_, behind, across⟩ := sorted
  have least := (List.pairwise_cons.mp behind).1
  have skipped : ∀ first ∈ front ++ [entry], ¬ decide (before entry.1 first.1) = true := by
    intro first member less
    rw [decide_eq_true_iff] at less
    rcases List.mem_append.mp member with early | self
    · exact irrefl_of before _ (trans_of before less (across first early entry List.mem_cons_self))
    · rw [List.mem_singleton.mp self] at less
      exact irrefl_of before _ less
  rw [nextKey, split, List.append_cons, List.find?_append, List.find?_eq_none.mpr skipped,
    Option.none_or]
  cases rest with
  | nil => rfl
  | cons next rest =>
    have less := least next List.mem_cons_self
    have found : (next :: rest).find? (fun other => before entry.1 other.1) = some next :=
      List.find?_cons_of_pos (by rw [decide_eq_true_iff]; exact less)
    rw [found]
    rfl

omit [DecidableEq α] in
theorem ahead_openRange (opened : map.openRange low high = some cursor) :
    map.Ahead cursor (map.within low high) := by
  obtain ⟨last, end?, rfl⟩ := Option.map_eq_some_iff.mp opened
  refine ⟨within_part map low high, rfl, ?_⟩
  intro entry member
  rw [end?] at member
  rw [Option.mem_some_iff.mp member]

omit [DecidableEq α] [IsStrictTotalOrder α before] in
theorem openRange_eq_none : map.openRange low high = none ↔ map.within low high = [] := by
  rw [openRange, Option.map_eq_none_iff, List.getLast?_eq_none_iff]

section Steps

variable (stands : map.Ahead cursor (entry :: ahead))

omit [DecidableRel before] [IsStrictTotalOrder α before] in
theorem Ahead.item_nil (stands : map.Ahead cursor []) : map.item cursor = none := by
  rw [item, stands.here]
  rfl

omit [DecidableRel before] in
include stands in
theorem Ahead.found : map.find entry.1 = some entry.2 := by
  obtain ⟨front, rest, split⟩ := stands.part
  apply find_eq_some.mpr
  rw [split]
  exact List.mem_append_left _ (List.mem_append_right _ List.mem_cons_self)

omit [DecidableRel before] in
include stands in
theorem Ahead.item : map.item cursor = some entry := by
  rw [SortedMap.item, stands.here, List.head?_cons, Option.map_some, Option.bind_some, stands.found]
  rfl

omit [DecidableEq α] [DecidableRel before] [IsStrictTotalOrder α before] in
include stands in
theorem Ahead.order : ∀ other ∈ ahead, before entry.1 other.1 := by
  obtain ⟨front, rest, split⟩ := stands.part
  have sorted := map.sorted
  rw [split, List.append_assoc, List.pairwise_append, List.cons_append] at sorted
  intro other member
  exact (List.pairwise_cons.mp sorted.2.1).1 other (List.mem_append_left rest member)

include stands in
theorem Ahead.next : (if cursor.last = entry.1 then none else map.nextKey entry.1) =
    ahead.head?.map Prod.fst := by
  obtain ⟨front, rest, split⟩ := stands.part
  have sorted := map.sorted
  have flat : map.entries = front ++ entry :: (ahead ++ rest) := by
    rw [split, List.append_assoc]
    rfl
  rw [nextKey_split flat]
  cases ahead with
  | nil => rw [if_pos (stands.last entry rfl)]; rfl
  | cons next ahead =>
    have less : before entry.1 cursor.last := by
      rw [flat, List.pairwise_append] at sorted
      have least := (List.pairwise_cons.mp sorted.2.1).1
      have there : (next :: ahead).getLast (List.cons_ne_nil next ahead) ∈ next :: ahead :=
        List.getLast_mem _
      have ends : (entry :: next :: ahead).getLast? =
          some ((next :: ahead).getLast (List.cons_ne_nil next ahead)) := by
        rw [List.getLast?_eq_some_getLast (List.cons_ne_nil _ _),
          List.getLast_cons (List.cons_ne_nil next ahead)]
      rw [stands.last _ ends]
      exact least _ (List.mem_append_left rest there)
    have other : ¬ cursor.last = entry.1 := by
      intro same
      rw [same] at less
      exact irrefl_of before entry.1 less
    rw [if_neg other]
    rfl

include stands in
theorem Ahead.forward : map.Ahead (map.forward cursor) ahead := by
  obtain ⟨front, rest, split⟩ := stands.part
  refine ⟨⟨front ++ [entry], rest, ?_⟩, ?_, ?_⟩
  · rw [split]
    simp
  · rw [SortedMap.forward, stands.here]
    exact stands.next
  · intro last member
    refine stands.last last ?_
    rw [List.getLast?_cons, member]
    rfl

include stands in
theorem Ahead.erase : (map.erase entry.1).Ahead (map.forward cursor) ahead := by
  obtain ⟨⟨front, rest, split⟩, here, last⟩ := stands.forward
  obtain ⟨first, others, whole⟩ := stands.part
  have apart : ∀ other ∈ ahead ++ others, other.1 ≠ entry.1 := by
    have sorted := map.sorted
    rw [whole, List.append_assoc, List.pairwise_append, List.cons_append] at sorted
    intro other member same
    have order := (List.pairwise_cons.mp sorted.2.1).1 other member
    rw [same] at order
    exact irrefl_of before entry.1 order
  refine ⟨⟨first.filter fun other => other.1 ≠ entry.1, others, ?_⟩, here, last⟩
  have kept : (ahead ++ others).filter (fun other => other.1 ≠ entry.1) = ahead ++ others :=
    List.filter_eq_self.mpr fun other member => decide_eq_true (apart other member)
  have gone : (entry :: (ahead ++ others)).filter (fun other => other.1 ≠ entry.1) =
      (ahead ++ others).filter fun other => other.1 ≠ entry.1 :=
    List.filter_cons_of_neg (by simp)
  change map.entries.filter (fun other => other.1 ≠ entry.1) = _
  rw [whole, List.append_assoc, List.filter_append, List.cons_append, gone, kept, List.append_assoc]

end Steps

theorem Ahead.put (stands : map.Ahead cursor ahead)
    (outside : (∀ entry ∈ ahead, before entry.1 key) ∨ ∀ entry ∈ ahead, before key entry.1) :
    (map.put key value).Ahead cursor ahead := by
  obtain ⟨⟨front, rest, split⟩, here, last⟩ := stands
  refine ⟨?_, here, last⟩
  have sorted := map.sorted
  rw [split, List.append_assoc, List.pairwise_append, List.pairwise_append] at sorted
  obtain ⟨_, ⟨_, _, later⟩, earlier⟩ := sorted
  change ∃ front rest, insertEntry before key value map.entries = _
  rcases List.eq_nil_or_concat' ahead with rfl | ⟨start, final, rfl⟩
  · exact ⟨insertEntry before key value map.entries, [], by rw [List.append_nil, List.append_nil]⟩
  · rcases outside with behind | less
    · refine ⟨front, insertEntry before key value rest, ?_⟩
      have all : ∀ entry ∈ front ++ (start ++ [final]), before entry.1 key := by
        intro entry member
        rcases List.mem_append.mp member with early | inside
        · have order := earlier entry early final
            (List.mem_append_left rest (List.mem_append_right start List.mem_cons_self))
          exact trans_of before order
            (behind final (List.mem_append_right start List.mem_cons_self))
        · exact behind entry inside
      rw [split, insertEntry_behind all]
    · refine ⟨insertEntry before key value front, rest, ?_⟩
      have all : ∀ entry ∈ (start ++ [final]) ++ rest, before key entry.1 := by
        intro entry member
        rcases List.mem_append.mp member with inside | behind
        · exact less entry inside
        · exact trans_of before (less final (List.mem_append_right start List.mem_cons_self))
            (later final (List.mem_append_right start List.mem_cons_self) entry behind)
      rw [split, List.append_assoc, insertEntry_before all, ← List.append_assoc]

end Cursors

end SortedMap

end EnetTsn.Library
