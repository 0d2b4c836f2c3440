import EnetTsn.Library.CharSearch
import EnetTsn.Library.KeepNew
import EnetTsn.Library.TextSearch
import EnetTsn.Uniconf.RuntimeItems

namespace EnetTsn.Uniconf

open EnetTsn.Library

def rmark : List UInt8 := octetsOf "&revision="

def fmark : List UInt8 := octetsOf "&features="

def dmark : List UInt8 := octetsOf "&deviations="

def nextwordlen (data : List UInt8) : Nat :=
  match firstAt [44] data, firstAt [38] data with
  | none, none => data.length
  | none, some b => b
  | some a, none => a
  | some a, some b => min a b

/-- The test of `one_combine` whether a name is there already. -/
def alreadyIn (uvstr pstr : List UInt8) : Bool :=
  (firstAt pstr uvstr).any fun place => uvstr[place + pstr.length]?.all (· = 44)

/-- A name behind the string that is built, with a comma if there was one before; none if it is
written beyond the buffer, and none inside if it is refused. -/
def addName (rsize : Nat) (uvstr pstr : List UInt8) (added : Bool) : Option (Option (List UInt8)) :=
  let uvstr := if added then uvstr ++ [44] else uvstr
  if rsize < uvstr.length + 1 then none
  else if rsize ≤ uvstr.length + pstr.length + 1 then some none
  else some (some (uvstr ++ pstr))

/-- The loop of `one_combine` over the names of a list, which begins behind a name of some
length. -/
def combineNames (rsize : Nat) : Nat → List UInt8 → Nat → List UInt8 → Bool →
    Option (Option (List UInt8 × Bool))
  | 0, _, _, _, _ => none
  | turns + 1, astr, res, uvstr, added =>
    let astr := astr.drop res
    if astr = [] ∨ astr.head? = some 38 then some (some (uvstr, added))
    else if 0 < res ∧ astr.head? ≠ some 44 then some none
    else
      let astr := if 0 < res then astr.tail else astr
      let res := nextwordlen astr
      if res = 0 then some (some (uvstr, added))
      else if 63 ≤ res then some none
      else
        let pstr := astr.take res
        if alreadyIn uvstr pstr then combineNames rsize turns astr res uvstr added
        else do
          match ← addName rsize uvstr pstr added with
          | none => some none
          | some uvstr => combineNames rsize turns astr res uvstr true

/-- `one_combine` for the lists that are given. -/
def oneCombine (rsize : Nat) : List (Option (List UInt8)) → List UInt8 → Bool →
    Option (Option (List UInt8))
  | [], uvstr, _ => some (some uvstr)
  | none :: items, uvstr, added => oneCombine rsize items uvstr added
  | some astr :: items, uvstr, added => do
    match ← combineNames rsize (astr.length + 1) astr 0 uvstr added with
    | none => some none
    | some (uvstr, added) => oneCombine rsize items uvstr added

def behindMark (mark text : List UInt8) : Option (List UInt8) :=
  (firstAt mark text).map fun place => text.drop (place + mark.length)

/-- The part of `cap_replace` for one kind of lists. -/
def combinePart (rsize : Nat) (mark : List UInt8) (items : List (Option (List UInt8)))
    (uvalue : List UInt8) : Option (Option (List UInt8)) :=
  if items.all Option.isNone then some (some uvalue)
  else if rsize < uvalue.length + mark.length + 1 then none
  else oneCombine rsize items (uvalue ++ mark) false

/-- The size that `cap_replace` asks for. -/
def mergedSize (cvsize nvsize ovsize : Nat) : Nat :=
  max (cvsize + nvsize - ovsize + 1) (ovsize + 21)

/-- `cap_replace` of strings that are given without their ends. None inside is that there is no
merged string; none is a write beyond the buffer, or a revision that ends before its twenty
characters. -/
def capReplace (granted : Bool) (cvalue : List UInt8) (cvsize : Nat) (nvalue : List UInt8)
    (nvsize ovsize : Nat) : Option (Option (List UInt8)) :=
  if cvsize < ovsize + 20 ∨ nvsize < ovsize + 20 then some none
  else
    match firstAt rmark (cvalue.drop ovsize), firstAt rmark (nvalue.drop ovsize) with
    | some aplace, some bplace =>
      let astr := (cvalue.drop ovsize).drop aplace
      let bstr := (nvalue.drop ovsize).drop bplace
      if (astr ++ [0]).take 20 ≠ (bstr ++ [0]).take 20 then some none
      else if astr.length < 20 then none
      else if ¬ granted then some none
      else do
        let rsize := mergedSize cvsize nvsize ovsize
        let features :=
          [behindMark fmark (cvalue.drop ovsize), behindMark fmark (nvalue.drop ovsize)]
        match ← combinePart rsize fmark features (cvalue.take (ovsize + 20)) with
        | none => some none
        | some uvalue =>
          let deviations :=
            [behindMark dmark (cvalue.drop ovsize), behindMark dmark (nvalue.drop ovsize)]
          combinePart rsize dmark deviations uvalue
    | _, _ => some none

structure ListName (name : List UInt8) : Prop where
  filled : name ≠ []
  comma : (44 : UInt8) ∉ name
  ampersand : (38 : UInt8) ∉ name
  equals : (61 : UInt8) ∉ name
  zero : (0 : UInt8) ∉ name
  short : name.length ≤ 62

def commaList : List (List UInt8) → List UInt8
  | [] => []
  | name :: rest => name ++ rest.flatMap (44 :: ·)

def markedList (mark : List UInt8) (names : Option (List (List UInt8))) : List UInt8 :=
  (names.map fun names => mark ++ commaList names).getD []

structure ModuleRevision where
  module : List UInt8
  revision : List UInt8
  moduleZero : (0 : UInt8) ∉ module
  revisionLength : revision.length = 10
  revisionZero : (0 : UInt8) ∉ revision
  revisionAmpersand : (38 : UInt8) ∉ revision

/-- The lists of a capability, of which both may be left out and either comes first. -/
structure CapabilityLists where
  features : Option (List (List UInt8))
  deviations : Option (List (List UInt8))
  deviationsFirst : Bool
  featureNames : ∀ name ∈ features.getD [], ListName name
  deviationNames : ∀ name ∈ deviations.getD [], ListName name

def ModuleRevision.head (subject : ModuleRevision) : List UInt8 :=
  subject.module ++ rmark ++ subject.revision

def CapabilityLists.text (lists : CapabilityLists) : List UInt8 :=
  if lists.deviationsFirst then markedList dmark lists.deviations ++ markedList fmark lists.features
  else markedList fmark lists.features ++ markedList dmark lists.deviations

def capability (subject : ModuleRevision) (lists : CapabilityLists) : List UInt8 :=
  subject.head ++ lists.text

def namesIn (mark text : List UInt8) : List (List UInt8) :=
  getlines 44 (((behindMark mark text).getD []).takeWhile (· ≠ 38))

def Ends (rest : List UInt8) : Prop := ∀ first ∈ rest.head?, first = 44 ∨ first = 38

section Names

variable {name rest uvstr more front : List UInt8} {kept names : List (List UInt8)} {rsize : Nat}

private theorem nextwordlen_name (fine : ListName name) (ends : Ends rest) :
    nextwordlen (name ++ rest) = name.length := by
  rw [nextwordlen, firstAt_skip fine.comma, firstAt_skip fine.ampersand]
  cases rest with
  | nil => simp [firstAt]
  | cons first rest =>
    rcases ends first rfl with rfl | rfl
    · have here : firstAt [44] ((44 : UInt8) :: rest) = some 0 := if_pos ⟨rest, rfl⟩
      rw [here]
      cases firstAt [38] ((44 : UInt8) :: rest) <;> simp
    · have here : firstAt [38] ((38 : UInt8) :: rest) = some 0 := if_pos ⟨rest, rfl⟩
      rw [here]
      cases firstAt [44] ((38 : UInt8) :: rest) <;> simp

theorem commaList_concat (kept : List (List UInt8)) (name : List UInt8) :
    commaList (kept ++ [name]) = commaList kept ++ (if kept = [] then [] else [44]) ++ name := by
  cases kept with
  | nil => simp [commaList]
  | cons first kept => simp [commaList]

def inList (front : List UInt8) (kept : List (List UInt8)) (name : List UInt8) : Bool :=
  alreadyIn (front ++ commaList kept) name

def nameSizes (names : List (List UInt8)) : Nat := (names.map (·.length + 1)).sum

@[simp] theorem nameSizes_cons (name : List UInt8) (names : List (List UInt8)) :
    nameSizes (name :: names) = name.length + 1 + nameSizes names :=
  rfl

@[simp] theorem nameSizes_append (names others : List (List UInt8)) :
    nameSizes (names ++ others) = nameSizes names + nameSizes others := by
  rw [nameSizes, List.map_append, List.sum_append]
  rfl

private theorem nameSizes_le (names : List (List UInt8)) :
    nameSizes names ≤ (commaList names).length + 1 := by
  induction names using List.reverseRecOn with
  | nil => exact Nat.zero_le _
  | append_singleton names name ih =>
    have last : nameSizes [name] = name.length + 1 := rfl
    rw [nameSizes_append, last, commaList_concat, List.length_append, List.length_append]
    by_cases empty : names = []
    · rw [empty]
      simp [nameSizes]
    · rw [if_neg empty, List.length_singleton]
      omega

def RoomFor (rsize : Nat) (uvstr : List UInt8) (names : List (List UInt8)) : Prop :=
  uvstr.length + nameSizes names + 2 ≤ rsize

private theorem roomFor_cons (room : RoomFor rsize uvstr (name :: names)) :
    uvstr.length + name.length + 3 ≤ rsize ∧ RoomFor rsize uvstr names ∧
      RoomFor rsize (uvstr ++ [44] ++ name) names ∧ RoomFor rsize (uvstr ++ name) names := by
  simp only [RoomFor, nameSizes_cons, List.length_append, List.length_singleton] at room ⊢
  omega

theorem combineNames_name (fine : ListName name) (ends : Ends more)
    (start : astr.drop res = if 0 < res then 44 :: (name ++ more) else name ++ more)
    (room : uvstr.length + name.length + 3 ≤ rsize) :
    combineNames rsize (turns + 1) astr res uvstr added =
      if alreadyIn uvstr name then combineNames rsize turns (name ++ more) name.length uvstr added
      else combineNames rsize turns (name ++ more) name.length
        ((if added then uvstr ++ [44] else uvstr) ++ name) true := by
  have notEnd : ¬ (astr.drop res = [] ∨ (astr.drop res).head? = some 38) := by
    rw [start]
    split
    · simp
    · obtain ⟨first, name, rfl⟩ := List.exists_cons_of_ne_nil fine.filled
      have different := (not_or.mp (mt List.mem_cons.mpr fine.ampersand)).1
      simp [Ne.symm different]
  have notRefused : ¬ (0 < res ∧ (astr.drop res).head? ≠ some 44) := by
    rintro ⟨positive, other⟩
    rw [start, if_pos positive] at other
    exact other rfl
  have next : (if 0 < res then (astr.drop res).tail else astr.drop res) = name ++ more := by
    rw [start]
    split <;> rfl
  have filled : name.length ≠ 0 := Nat.ne_of_gt (List.length_pos_of_ne_nil fine.filled)
  have notLong : ¬ 63 ≤ name.length := Nat.not_le_of_lt (Nat.lt_succ_of_le fine.short)
  rw [combineNames]
  simp only [if_neg notEnd, if_neg notRefused, next, nextwordlen_name fine ends, if_neg filled,
    if_neg notLong, List.take_left]
  split
  · rfl
  · have written : addName rsize uvstr name added =
        some (some ((if added then uvstr ++ [44] else uvstr) ++ name)) := by
      rw [addName]
      cases added with
      | true =>
        simp only [if_true, List.length_append, List.length_singleton]
        rw [if_neg (by omega), if_neg (by omega)]
      | false =>
        simp only [Bool.false_eq_true, if_false]
        rw [if_neg (by omega), if_neg (by omega)]
    rw [written]
    rfl

def MarkStops (rest : List UInt8) : Prop := rest = [] ∨ rest.head? = some 38

theorem MarkStops.ends (stops : MarkStops rest) : Ends rest := by
  rintro first head
  rcases stops with rfl | mark
  · exact absurd head nofun
  · exact .inr (Option.some.inj (head.symm.trans mark))

def commaTail (names : List (List UInt8)) : List UInt8 := names.flatMap (44 :: ·)

private theorem ends_commaTail (names : List (List UInt8)) (ends : Ends more) :
    Ends (commaTail names ++ more) := by
  cases names with
  | nil => exact ends
  | cons name names =>
    rintro first ⟨⟩
    exact .inl rfl

theorem combineNames_kept (fine : ListName name) (ends : Ends more)
    (start : astr.drop res = if 0 < res then 44 :: (name ++ more) else name ++ more)
    (room : RoomFor rsize (front ++ commaList kept) (name :: names)) :
    ∃ kept', kept' = (if inList front kept name then kept else kept ++ [name]) ∧
      RoomFor rsize (front ++ commaList kept') names ∧
      combineNames rsize (turns + 1) astr res (front ++ commaList kept) (decide (kept ≠ [])) =
        combineNames rsize turns (name ++ more) name.length (front ++ commaList kept')
          (decide (kept' ≠ [])) := by
  obtain ⟨here, same, behind, first⟩ := roomFor_cons room
  rw [combineNames_name fine ends start here, inList]
  by_cases already : alreadyIn (front ++ commaList kept) name
  · exact ⟨kept, by rw [if_pos already], same, by rw [if_pos already]⟩
  · refine ⟨kept ++ [name], by rw [if_neg already], ?_, ?_⟩
    · rw [commaList_concat]
      by_cases empty : kept = []
      · rw [if_pos empty, List.append_nil, ← List.append_assoc]
        exact first
      · rw [if_neg empty, ← List.append_assoc, ← List.append_assoc]
        exact behind
    · rw [if_neg already, commaList_concat]
      by_cases empty : kept = []
      · simp [empty]
      · simp [empty]

/-- The loop over a list, from its start or behind the name `previous`. -/
theorem combineNames_list (previous : List UInt8) (fine : ∀ name ∈ names, ListName name)
    (stops : MarkStops more) (room : RoomFor rsize (front ++ commaList kept) names)
    (enough : names.length < turns) : combineNames rsize turns
        (previous ++ ((if previous = [] then commaList names else commaTail names) ++ more))
        previous.length (front ++ commaList kept) (decide (kept ≠ [])) =
      some (some (front ++ commaList (keepNew (inList front) kept names),
        decide (keepNew (inList front) kept names ≠ []))) := by
  induction names generalizing turns previous kept with
  | nil =>
    obtain ⟨turns, rfl⟩ := Nat.exists_eq_succ_of_ne_zero (Nat.ne_zero_of_lt enough)
    rw [combineNames]
    simp only [commaList, commaTail, List.flatMap_nil, ite_self, List.nil_append, List.drop_left]
    rw [if_pos (show more = [] ∨ more.head? = some 38 from stops)]
    rfl
  | cons name names ih =>
    obtain ⟨turns, rfl⟩ := Nat.exists_eq_succ_of_ne_zero (Nat.ne_zero_of_lt enough)
    obtain ⟨own, others⟩ := List.forall_mem_cons.mp fine
    have start : (previous ++ ((if previous = [] then commaList (name :: names)
        else commaTail (name :: names)) ++ more)).drop previous.length =
        if 0 < previous.length then 44 :: (name ++ (commaTail names ++ more))
        else name ++ (commaTail names ++ more) := by
      by_cases first : previous = []
      · simp [first, commaList, commaTail]
      · simp [first, commaTail, List.length_pos_of_ne_nil first]
    obtain ⟨kept', same, room', turn⟩ :=
      combineNames_kept own (ends_commaTail names stops.ends) start room
    have rest := ih name others room' (Nat.lt_of_succ_lt_succ enough)
    rw [if_neg own.filled] at rest
    rw [Nat.succ_eq_add_one, turn, rest, keepNew, ← same]

theorem length_keepNew_le (told : List (List UInt8) → List UInt8 → Bool)
    (kept names : List (List UInt8)) : (commaList (keepNew told kept names)).length ≤
      (commaList kept).length + nameSizes names := by
  induction names generalizing kept with
  | nil => exact Nat.le_refl _
  | cons name names ih =>
    have later := ih (if told kept name then kept else kept ++ [name])
    have here : (commaList (if told kept name then kept else kept ++ [name])).length ≤
        (commaList kept).length + name.length + 1 := by
      split
      · omega
      · rw [commaList_concat, List.length_append, List.length_append]
        split
        · simp
        · simp; omega
    rw [keepNew, nameSizes_cons]
    omega

def listItem (list : Option (List (List UInt8) × List UInt8)) : Option (List UInt8) :=
  list.map fun given => commaList given.1 ++ given.2

def listNames (lists : List (Option (List (List UInt8) × List UInt8))) : List (List UInt8) :=
  lists.flatMap fun list => (list.map Prod.fst).getD []

private theorem length_le_commaList (fine : ∀ name ∈ names, ListName name) :
    names.length ≤ (commaList names).length := by
  cases names with
  | nil => exact Nat.le_refl 0
  | cons name names =>
    obtain ⟨own, others⟩ := List.forall_mem_cons.mp fine
    have positive := List.length_pos_of_ne_nil own.filled
    have rest : names.length ≤ (names.flatMap (44 :: ·)).length := by
      rw [List.length_flatMap, ← List.length_map (fun name : List UInt8 => (44 :: name).length)]
      refine List.length_le_sum_of_one_le _ ?_
      rintro size member
      obtain ⟨_, _, rfl⟩ := List.mem_map.mp member
      exact Nat.succ_le_succ (Nat.zero_le _)
    rw [commaList, List.length_append, List.length_cons]
    omega

variable (fine : ∀ name ∈ listNames lists, ListName name)
include fine

variable (stops : ∀ list ∈ lists, ∀ given ∈ list, MarkStops given.2)
include stops

theorem oneCombine_lists (room : RoomFor rsize (front ++ commaList kept) (listNames lists)) :
    oneCombine rsize (lists.map listItem) (front ++ commaList kept) (decide (kept ≠ [])) =
      some (some (front ++ commaList (keepNew (inList front) kept (listNames lists)))) := by
  induction lists generalizing kept with
  | nil => rfl
  | cons list lists ih =>
    obtain ⟨own, others⟩ := List.forall_mem_cons.mp stops
    cases list with
    | none => exact ih fine others room
    | some given =>
      obtain ⟨names, more⟩ := given
      have split : listNames (some (names, more) :: lists) = names ++ listNames lists := rfl
      rw [split] at fine room ⊢
      obtain ⟨fineHere, fineLater⟩ := List.forall_mem_append.mp fine
      have enough : names.length < (commaList names ++ more).length + 1 := by
        have least := length_le_commaList fineHere
        rw [List.length_append]
        omega
      have roomHere : RoomFor rsize (front ++ commaList kept) names := by
        simp only [RoomFor, nameSizes_append] at room ⊢
        omega
      have here := combineNames_list [] fineHere (own _ rfl) roomHere enough
      rw [if_pos rfl, List.nil_append, List.length_nil] at here
      rw [List.map_cons, listItem, Option.map_some, oneCombine, here]
      simp only [Option.bind_eq_bind, Option.bind_some]
      have roomLater : RoomFor rsize (front ++ commaList (keepNew (inList front) kept names))
          (listNames lists) := by
        have grown := length_keepNew_le (inList front) kept names
        simp only [RoomFor, nameSizes_append, List.length_append] at room ⊢
        omega
      rw [ih fineLater others roomLater, keepNew_append]

def keptNames (front : List UInt8) (lists : List (Option (List (List UInt8) × List UInt8))) :
    Option (List (List UInt8)) :=
  if lists.all Option.isNone then none else some (keepNew (inList front) [] (listNames lists))

theorem combinePart_lists
    (room : lists.all Option.isNone ∨ RoomFor rsize (front ++ mark) (listNames lists)) :
    combinePart rsize mark (lists.map listItem) front =
      some (some (front ++ markedList mark (keptNames (front ++ mark) lists))) := by
  have same : (lists.map listItem).all Option.isNone = lists.all Option.isNone := by
    rw [List.all_map]
    congr 1
    funext list
    cases list <;> rfl
  rw [combinePart, same, keptNames]
  by_cases none : lists.all Option.isNone = true
  · rw [if_pos none, if_pos none, markedList, Option.map_none, Option.getD_none, List.append_nil]
  · have room := room.resolve_left none
    have fits : ¬ rsize < front.length + mark.length + 1 := by
      rw [RoomFor, List.length_append] at room
      omega
    have empty : front ++ mark = front ++ mark ++ commaList [] := (List.append_nil _).symm
    rw [empty] at room
    rw [if_neg none, if_neg none, if_neg fits, markedList, Option.map_some, Option.getD_some,
      ← List.append_assoc, ← oneCombine_lists fine stops room, ← empty]
    rfl

end Names

structure MarksApart (mark other : List UInt8) : Prop where
  start : mark.head? = some 38
  begins : other.head? = some 38
  inside : (38 : UInt8) ∉ other.tail
  long : 1 < mark.length ∧ 1 < other.length
  differ : mark[1]? ≠ other[1]?

theorem fmark_rmark : MarksApart fmark rmark := ⟨rfl, rfl, by decide, by decide, by decide⟩

theorem dmark_rmark : MarksApart dmark rmark := ⟨rfl, rfl, by decide, by decide, by decide⟩

theorem fmark_dmark : MarksApart fmark dmark := ⟨rfl, rfl, by decide, by decide, by decide⟩

theorem dmark_fmark : MarksApart dmark fmark := ⟨rfl, rfl, by decide, by decide, by decide⟩

section Marks

variable {mark other words rest : List UInt8} {names others : List (List UInt8)}

theorem behindMark_apart (apart : MarksApart mark other) (outside : (38 : UInt8) ∉ words)
    (rest : List UInt8) : behindMark mark (other ++ words ++ rest) = behindMark mark rest := by
  have differ : ¬ mark <+: other ++ words ++ rest := by
    rintro ⟨after, same⟩
    have second := congrArg (·[1]?) same
    simp only [List.append_assoc] at second
    rw [List.getElem?_append_left apart.long.1, List.getElem?_append_left apart.long.2] at second
    exact apart.differ second
  obtain ⟨tail, rfl⟩ : ∃ tail, other = 38 :: tail :=
    ⟨other.tail, (List.cons_head?_tail apart.begins).symm⟩
  obtain ⟨own, rfl⟩ : ∃ own, mark = 38 :: own :=
    ⟨mark.tail, (List.cons_head?_tail apart.start).symm⟩
  have plain : (38 : UInt8) ∉ tail ++ words := by
    rw [List.mem_append, not_or]
    exact ⟨apart.inside, outside⟩
  simp only [List.cons_append] at differ ⊢
  rw [behindMark, firstAt, if_neg differ, firstAt_skip plain, behindMark, Option.map_map,
    Option.map_map]
  congr 1
  funext place
  simp only [Function.comp]
  have size : (tail ++ words).length + place + 1 + (38 :: own).length =
      ((38 :: (tail ++ words)).length) + (place + (38 :: own).length) := by
    simp only [List.length_cons]
    omega
  exact size ▸ List.drop_length_add_append _

theorem behindMark_here (filled : mark ≠ []) (rest : List UInt8) :
    behindMark mark (mark ++ rest) = some rest := by
  obtain ⟨first, tail, rfl⟩ := List.exists_cons_of_ne_nil filled
  have here : firstAt (first :: tail) (first :: tail ++ rest) = some 0 := by
    exact if_pos (List.prefix_append (first :: tail) rest)
  rw [behindMark, here, Option.map_some, Nat.zero_add, List.drop_left]

private theorem behindMark_nil (filled : mark ≠ []) : behindMark mark [] = none := by
  rw [behindMark, firstAt, if_neg filled, Option.map_none]

theorem commaList_ampersand (fine : ∀ name ∈ names, ListName name) :
    (38 : UInt8) ∉ commaList names := by
  cases names with
  | nil => exact List.not_mem_nil
  | cons name names =>
    obtain ⟨own, later⟩ := List.forall_mem_cons.mp fine
    rw [commaList, List.mem_append, List.mem_flatMap, not_or]
    refine ⟨own.ampersand, ?_⟩
    rintro ⟨name, member, inside⟩
    rcases List.mem_cons.mp inside with same | inside
    · exact absurd same (by decide)
    · exact (later name member).ampersand inside

theorem stops_markedList (start : mark.head? = some 38) (list : Option (List (List UInt8))) :
    MarkStops (markedList mark list) := by
  cases list with
  | none => exact .inl rfl
  | some names =>
    refine .inr ?_
    rw [markedList, Option.map_some, Option.getD_some, List.head?_append, start]
    rfl

end Marks

def CapabilityLists.featureItem (lists : CapabilityLists) :
    Option (List (List UInt8) × List UInt8) :=
  lists.features.map fun names =>
    (names, if lists.deviationsFirst then [] else markedList dmark lists.deviations)

def CapabilityLists.deviationItem (lists : CapabilityLists) :
    Option (List (List UInt8) × List UInt8) :=
  lists.deviations.map fun names =>
    (names, if lists.deviationsFirst then markedList fmark lists.features else [])

section Lists

variable {mark other : List UInt8}

theorem behindMark_second (apart : MarksApart mark other)
    (fine : ∀ name ∈ others.getD [], ListName name) :
    behindMark mark (markedList other others ++ markedList mark own) = own.map commaList := by
  have filled : mark ≠ [] := List.ne_nil_of_length_pos (Nat.lt_trans Nat.one_pos apart.long.1)
  have last : behindMark mark (markedList mark own) = own.map commaList := by
    cases own with
    | none => exact behindMark_nil filled
    | some names => exact behindMark_here filled _
  cases others with
  | none => exact last
  | some names =>
    rw [Option.getD_some] at fine
    rw [markedList, Option.map_some, Option.getD_some,
      behindMark_apart apart (commaList_ampersand fine), last]

theorem behindMark_first (apart : MarksApart mark other)
    (fine : ∀ name ∈ others.getD [], ListName name) :
    behindMark mark (markedList mark own ++ markedList other others) =
      own.map fun names => commaList names ++ markedList other others := by
  have filled : mark ≠ [] := List.ne_nil_of_length_pos (Nat.lt_trans Nat.one_pos apart.long.1)
  cases own with
  | none =>
    have second : behindMark mark (markedList other others ++ markedList mark none) = none :=
      behindMark_second apart fine
    rwa [markedList, markedList, Option.map_none, Option.getD_none, List.append_nil] at second
  | some names =>
    rw [markedList, Option.map_some, Option.getD_some, List.append_assoc, behindMark_here filled]
    rfl

variable (lists : CapabilityLists)

private theorem behindMark_features : behindMark fmark lists.text = listItem lists.featureItem := by
  rw [CapabilityLists.text, listItem, CapabilityLists.featureItem, Option.map_map]
  cases lists.deviationsFirst with
  | true =>
    rw [if_pos rfl, behindMark_second fmark_dmark lists.deviationNames]
    simp [Function.comp_def]
  | false => exact behindMark_first fmark_dmark lists.deviationNames

private theorem behindMark_deviations : behindMark dmark lists.text = listItem lists.deviationItem := by
  rw [CapabilityLists.text, listItem, CapabilityLists.deviationItem, Option.map_map]
  cases lists.deviationsFirst with
  | true => exact behindMark_first dmark_fmark lists.featureNames
  | false =>
    rw [if_neg Bool.false_ne_true, behindMark_second dmark_fmark lists.featureNames]
    simp [Function.comp_def]

end Lists

section Merging

variable {subject : ModuleRevision} {own other : CapabilityLists}

section

variable (subject : ModuleRevision)

theorem length_head : subject.head.length = subject.module.length + 20 := by
  have mark : rmark.length = 10 := by decide
  simp only [ModuleRevision.head, List.length_append, mark, subject.revisionLength]

variable (lists : CapabilityLists)

theorem length_capability : (capability subject lists).length = subject.module.length + 20 +
      (markedList fmark lists.features).length + (markedList dmark lists.deviations).length := by
  rw [capability, List.length_append, length_head, CapabilityLists.text]
  split
  · rw [List.length_append]
    omega
  · rw [List.length_append]
    omega

private theorem drop_capability : (capability subject lists).drop subject.module.length =
      rmark ++ subject.revision ++ lists.text := by
  rw [capability, ModuleRevision.head, List.append_assoc subject.module, List.append_assoc,
    List.drop_left]

private theorem take_capability :
    (capability subject lists).take (subject.module.length + 20) = subject.head := by
  rw [capability, ← length_head, List.take_left]

end

def featureItems (own other : CapabilityLists) :
    List (Option (List (List UInt8) × List UInt8)) :=
  [own.featureItem, other.featureItem]

def deviationItems (own other : CapabilityLists) :
    List (Option (List (List UInt8) × List UInt8)) :=
  [own.deviationItem, other.deviationItem]

theorem listNames_features (own other : CapabilityLists) :
    listNames (featureItems own other) = own.features.getD [] ++ other.features.getD [] := by
  simp [listNames, featureItems, CapabilityLists.featureItem, Function.comp_def]

theorem listNames_deviations (own other : CapabilityLists) :
    listNames (deviationItems own other) = own.deviations.getD [] ++ other.deviations.getD [] := by
  simp [listNames, deviationItems, CapabilityLists.deviationItem, Function.comp_def]

private theorem stops_features (own other : CapabilityLists) :
    ∀ list ∈ featureItems own other, ∀ given ∈ list, MarkStops given.2 := by
  have each (lists : CapabilityLists) : ∀ given ∈ lists.featureItem, MarkStops given.2 := by
    rintro given member
    obtain ⟨names, _, rfl⟩ := Option.map_eq_some_iff.mp member
    split
    · exact .inl rfl
    · exact stops_markedList rfl _
  exact List.forall_mem_cons.mpr ⟨each own, List.forall_mem_singleton.mpr (each other)⟩

private theorem stops_deviations (own other : CapabilityLists) :
    ∀ list ∈ deviationItems own other, ∀ given ∈ list, MarkStops given.2 := by
  have each (lists : CapabilityLists) : ∀ given ∈ lists.deviationItem, MarkStops given.2 := by
    rintro given member
    obtain ⟨names, _, rfl⟩ := Option.map_eq_some_iff.mp member
    split
    · exact stops_markedList rfl _
    · exact .inl rfl
  exact List.forall_mem_cons.mpr ⟨each own, List.forall_mem_singleton.mpr (each other)⟩

/-- The string of `cap_replace` up to its deviations. -/
def mergedFeatures (subject : ModuleRevision) (own other : CapabilityLists) : List UInt8 :=
  subject.head ++ markedList fmark (keptNames (subject.head ++ fmark) (featureItems own other))

/-- The string of `cap_replace`. -/
def mergedText (subject : ModuleRevision) (own other : CapabilityLists) : List UInt8 :=
  mergedFeatures subject own other ++
    markedList dmark (keptNames (mergedFeatures subject own other ++ dmark)
      (deviationItems own other))

def roomSize (subject : ModuleRevision) (own other : CapabilityLists) : Nat :=
  mergedSize ((capability subject own).length + 1) ((capability subject other).length + 1)
    subject.module.length

theorem nameSizes_le_markedList (mark : List UInt8) (first second : Option (List (List UInt8)))
    (given : ¬ (first = none ∧ second = none)) :
    mark.length + nameSizes (first.getD [] ++ second.getD []) ≤
      (markedList mark first).length + (markedList mark second).length + 2 := by
  have each (names : List (List UInt8)) := nameSizes_le names
  have none : nameSizes [] = 0 := rfl
  have length (names : List (List UInt8)) :
      (markedList mark (some names)).length = mark.length + (commaList names).length := by
    rw [markedList, Option.map_some, Option.getD_some, List.length_append]
  rw [nameSizes_append]
  cases first with
  | none =>
    cases second with
    | none => exact absurd ⟨rfl, rfl⟩ given
    | some names =>
      have := each names
      rw [length, Option.getD_none, Option.getD_some, none]
      omega
  | some own =>
    have := each own
    cases second with
    | none =>
      rw [length, Option.getD_none, Option.getD_some, none]
      omega
    | some names =>
      have := each names
      rw [length, length, Option.getD_some, Option.getD_some]
      omega

theorem features_none :
    (featureItems own other).all Option.isNone ↔ own.features = none ∧ other.features = none := by
  simp [featureItems, CapabilityLists.featureItem]

theorem deviations_none : (deviationItems own other).all Option.isNone ↔
      own.deviations = none ∧ other.deviations = none := by
  simp [deviationItems, CapabilityLists.deviationItem]

theorem length_merged_le (names : listNames lists = first.getD [] ++ second.getD [])
    (none : lists.all Option.isNone ↔ first = none ∧ second = none) :
    (markedList mark (keptNames front lists)).length ≤
      (markedList mark first).length + (markedList mark second).length + 2 := by
  rw [keptNames]
  by_cases absent : lists.all Option.isNone = true
  · rw [if_pos absent]
    exact Nat.zero_le _
  · have given := nameSizes_le_markedList mark first second (mt none.mpr absent)
    have grown := length_keepNew_le (inList front) [] (listNames lists)
    have start : (commaList []).length = 0 := rfl
    rw [if_neg absent, markedList, Option.map_some, Option.getD_some, List.length_append]
    rw [start, names] at grown
    rw [names]
    omega

section

variable (subject : ModuleRevision)

private theorem featuresRoom (own other : CapabilityLists) : (featureItems own other).all Option.isNone ∨
      RoomFor (roomSize subject own other) (subject.head ++ fmark)
        (listNames (featureItems own other)) := by
  by_cases absent : (featureItems own other).all Option.isNone = true
  · exact .inl absent
  · have given := nameSizes_le_markedList fmark own.features other.features
      (mt features_none.mpr absent)
    refine .inr ?_
    rw [listNames_features, RoomFor, List.length_append, length_head, roomSize, mergedSize,
      length_capability, length_capability]
    omega

theorem deviationsRoom (own other : CapabilityLists) :
    (deviationItems own other).all Option.isNone ∨
      RoomFor (roomSize subject own other) (mergedFeatures subject own other ++ dmark)
        (listNames (deviationItems own other)) := by
  by_cases absent : (deviationItems own other).all Option.isNone = true
  · exact .inl absent
  · have given := nameSizes_le_markedList dmark own.deviations other.deviations
      (mt deviations_none.mpr absent)
    have features : (markedList fmark (keptNames (subject.head ++ fmark)
        (featureItems own other))).length ≤ _ :=
      length_merged_le (listNames_features own other) features_none
    refine .inr ?_
    rw [listNames_deviations, RoomFor, List.length_append, mergedFeatures, List.length_append,
      length_head, roomSize, mergedSize, length_capability, length_capability]
    omega

private theorem length_mergedText (own other : CapabilityLists) :
    (mergedText subject own other).length + 1 ≤ roomSize subject own other := by
  have features : (markedList fmark (keptNames (subject.head ++ fmark)
      (featureItems own other))).length ≤ _ :=
    length_merged_le (listNames_features own other) features_none
  have deviations : (markedList dmark (keptNames (mergedFeatures subject own other ++ dmark)
      (deviationItems own other))).length ≤ _ :=
    length_merged_le (listNames_deviations own other) deviations_none
  rw [mergedText, List.length_append]
  simp only [mergedFeatures, List.length_append, length_head] at deviations ⊢
  rw [roomSize, mergedSize, length_capability, length_capability]
  omega

theorem names_fine (own other : CapabilityLists) :
    (∀ name ∈ listNames (featureItems own other), ListName name) ∧
      ∀ name ∈ listNames (deviationItems own other), ListName name := by
  rw [listNames_features, listNames_deviations]
  exact ⟨List.forall_mem_append.mpr ⟨own.featureNames, other.featureNames⟩,
    List.forall_mem_append.mpr ⟨own.deviationNames, other.deviationNames⟩⟩

/-- What `cap_replace` builds. -/
theorem capReplace_eq (own other : CapabilityLists) :
    capReplace true (capability subject own) ((capability subject own).length + 1)
        (capability subject other) ((capability subject other).length + 1)
        subject.module.length = some (some (mergedText subject own other)) := by
  have marked (lists : CapabilityLists) :
      firstAt rmark (rmark ++ subject.revision ++ lists.text) = some 0 := by
    exact if_pos (List.prefix_append rmark _)
  have features (lists : CapabilityLists) :
      behindMark fmark (rmark ++ subject.revision ++ lists.text) = listItem lists.featureItem := by
    rw [behindMark_apart fmark_rmark subject.revisionAmpersand, behindMark_features]
  have deviations (lists : CapabilityLists) :
      behindMark dmark (rmark ++ subject.revision ++ lists.text) =
        listItem lists.deviationItem := by
    rw [behindMark_apart dmark_rmark subject.revisionAmpersand, behindMark_deviations]
  have twenty : (rmark ++ subject.revision).length = 20 := by
    rw [List.length_append, subject.revisionLength]
    decide
  have first (lists : CapabilityLists) :
      (rmark ++ subject.revision ++ lists.text ++ [0]).take 20 = rmark ++ subject.revision := by
    rw [List.append_assoc, ← twenty, List.take_left]
  have long (lists : CapabilityLists) :
      ¬ (rmark ++ subject.revision ++ lists.text).length < 20 := by
    rw [List.length_append, twenty]
    omega
  have sizes : ¬ ((capability subject own).length + 1 < subject.module.length + 20 ∨
      (capability subject other).length + 1 < subject.module.length + 20) := by
    rw [length_capability, length_capability]
    omega
  obtain ⟨featuresFine, deviationsFine⟩ := names_fine own other
  rw [capReplace, if_neg sizes]
  simp only [drop_capability, marked, List.drop_zero, first, long, features, deviations,
    take_capability, ne_eq, not_true_eq_false, if_false, Option.bind_eq_bind]
  have featuresPart : combinePart (mergedSize ((capability subject own).length + 1)
      ((capability subject other).length + 1) subject.module.length) fmark
        [listItem own.featureItem, listItem other.featureItem] subject.head =
          some (some (mergedFeatures subject own other)) :=
    combinePart_lists featuresFine (stops_features own other) (featuresRoom subject own other)
  rw [featuresPart, Option.bind_some]
  exact combinePart_lists deviationsFine (stops_deviations own other)
    (deviationsRoom subject own other)

private theorem getlines_commaList (fine : ∀ name ∈ names, ListName name) :
    getlines 44 (commaList names) = names := by
  induction names with
  | nil => rfl
  | cons name names ih =>
    obtain ⟨own, others⟩ := List.forall_mem_cons.mp fine
    cases names with
    | nil =>
      rw [commaList, List.flatMap_nil, List.append_nil]
      exact getlines_absent own.comma own.filled
    | cons next names =>
      have text : commaList (name :: next :: names) = name ++ 44 :: commaList (next :: names) := rfl
      rw [text, getlines_append own.comma, ih others]

theorem getlines_markedList (fine : ∀ name ∈ names, ListName name) (stops : MarkStops more) :
    getlines 44 ((commaList names ++ more).takeWhile (· ≠ 38)) = names := by
  have outside := commaList_ampersand fine
  have text : (commaList names ++ more).takeWhile (· ≠ 38) = commaList names := by
    cases more with
    | nil => rw [List.append_nil, takeWhile_absent outside]
    | cons first more =>
      have mark : first = 38 := Option.some.inj (stops.resolve_left (List.cons_ne_nil _ _))
      rw [mark, takeWhile_mark outside]
  rw [text, getlines_commaList fine]

theorem keptNames_fine (front : List UInt8) (fine : ∀ name ∈ listNames lists, ListName name) :
    ∀ name ∈ (keptNames front lists).getD [], ListName name := by
  rw [keptNames]
  split
  · exact nofun
  · exact fun name member => fine name ((mem_keepNew member).resolve_left List.not_mem_nil)

theorem keptNames_getD (front : List UInt8)
    (lists : List (Option (List (List UInt8) × List UInt8))) :
    (keptNames front lists).getD [] = keepNew (inList front) [] (listNames lists) := by
  rw [keptNames]
  split
  · rename_i none
    have empty : listNames lists = [] := by
      refine List.flatMap_eq_nil_iff.mpr fun list member => ?_
      rw [Option.isNone_iff_eq_none.mp (List.all_eq_true.mp none list member)]
      rfl
    rw [empty]
    rfl
  · rfl

theorem namesIn_mergedText (own other : CapabilityLists) :
    namesIn fmark ((mergedText subject own other).drop subject.module.length) =
        keepNew (inList (subject.head ++ fmark)) [] (listNames (featureItems own other)) ∧
      namesIn dmark ((mergedText subject own other).drop subject.module.length) =
        keepNew (inList (mergedFeatures subject own other ++ dmark)) []
          (listNames (deviationItems own other)) := by
  obtain ⟨features, deviations⟩ := names_fine own other
  have featuresKept := keptNames_fine (subject.head ++ fmark) features
  have deviationsKept := keptNames_fine (mergedFeatures subject own other ++ dmark) deviations
  have text : (mergedText subject own other).drop subject.module.length =
      rmark ++ subject.revision ++
        (markedList fmark (keptNames (subject.head ++ fmark) (featureItems own other)) ++
          markedList dmark (keptNames (mergedFeatures subject own other ++ dmark)
            (deviationItems own other))) := by
    rw [mergedText]
    nth_rewrite 1 [mergedFeatures]
    simp only [ModuleRevision.head, List.append_assoc, List.drop_left]
  rw [← keptNames_getD, ← keptNames_getD, text, namesIn, namesIn,
    behindMark_apart fmark_rmark subject.revisionAmpersand,
    behindMark_apart dmark_rmark subject.revisionAmpersand,
    behindMark_first fmark_dmark deviationsKept, behindMark_second dmark_fmark featuresKept]
  constructor
  · cases kept : keptNames (subject.head ++ fmark) (featureItems own other) with
    | none => rfl
    | some names =>
      rw [kept] at featuresKept
      exact getlines_markedList featuresKept (stops_markedList rfl _)
  · cases kept : keptNames (mergedFeatures subject own other ++ dmark)
        (deviationItems own other) with
    | none => rfl
    | some names =>
      rw [kept] at deviationsKept
      rw [Option.map_some, Option.getD_some, Option.getD_some, ← List.append_nil (commaList names)]
      exact getlines_markedList deviationsKept (.inl rfl)

end

theorem alreadyIn_append (already : alreadyIn text name)
    (ends : more.head?.all (· = 44) ∨ ¬ name <:+ text) : alreadyIn (text ++ more) name := by
  rw [alreadyIn, Option.any_eq_true] at already ⊢
  obtain ⟨place, found, behind⟩ := already
  refine ⟨place, firstAt_append_of_some found more, ?_⟩
  obtain ⟨rest, split, fits, _⟩ := firstAt_eq_some found
  rcases Nat.lt_or_eq_of_le fits with inside | last
  · rwa [List.getElem?_append_left inside]
  · have empty : rest = [] := by
      have size := congrArg List.length split
      rw [List.length_append, List.length_append, List.length_take] at size
      refine List.eq_nil_of_length_eq_zero ?_
      omega
    have suffix : name <:+ text := by
      rw [split, empty, List.append_nil]
      exact List.suffix_append _ _
    rw [last, List.getElem?_append_right (Nat.le_refl _), Nat.sub_self, ← List.head?_eq_getElem?]
    exact ends.resolve_right (not_not_intro suffix)

theorem inList_stays (marked : front.getLast? = some 61) (fine : ListName name)
    (kept later : List (List UInt8)) (already : inList front kept name) :
    inList front (kept ++ later) name := by
  cases kept with
  | nil =>
    rw [inList, commaList, List.append_nil] at already
    refine alreadyIn_append already (.inr ?_)
    rintro ⟨before, same⟩
    rw [← same, List.getLast?_append_of_ne_nil _ fine.filled] at marked
    exact fine.equals (List.mem_of_getLast? marked)
  | cons first kept =>
    have text : front ++ commaList (first :: kept ++ later) =
        front ++ commaList (first :: kept) ++ commaTail later := by
      simp [commaList, commaTail]
    rw [inList, text]
    refine alreadyIn_append already (.inl ?_)
    cases later with
    | nil => rfl
    | cons next later => rfl

/-- Each name of two lists is told to be in a string, when it is its turn, exactly if it is one of
the names before it. -/
def NamesTold (front : List UInt8) (first second : Option (List (List UInt8))) : Prop :=
  AllTold (inList front) (first.getD [] ++ second.getD [])

def EachOnce (names : List (List UInt8)) (first second : Option (List (List UInt8))) : Prop :=
  names.Nodup ∧ ∀ name, name ∈ names ↔ name ∈ first.getD [] ++ second.getD []

def unionList (first second : Option (List (List UInt8))) : Option (List (List UInt8)) :=
  if first = none ∧ second = none then none else some (firsts (first.getD [] ++ second.getD []))

theorem eachOnce_iff (front mark : List UInt8) (marked : mark.getLast? = some 61)
    (filled : mark ≠ []) (fine : ∀ name ∈ first.getD [] ++ second.getD [], ListName name) :
    EachOnce (keepNew (inList (front ++ mark)) [] (first.getD [] ++ second.getD [])) first second ↔
      NamesTold (front ++ mark) first second := by
  refine keepNew_iff fun kept later name member already => ?_
  refine inList_stays ?_ (fine name member) kept later already
  rw [List.getLast?_append_of_ne_nil _ filled, marked]

/-- Two capabilities of a module and its revision are merged into one with the features and the
deviations of both, each once, in a string that fits its buffer, exactly if each name, when it is
its turn, is found in the string with a comma or the end behind it just when it is one of the names
before it. -/
theorem capabilities_merged (subject : ModuleRevision) (own other : CapabilityLists) :
    (∃ merged, capReplace true (capability subject own) ((capability subject own).length + 1)
        (capability subject other) ((capability subject other).length + 1)
        subject.module.length = some (some merged) ∧
      subject.head <+: merged ∧ merged.length + 1 ≤ roomSize subject own other ∧
      EachOnce (namesIn fmark (merged.drop subject.module.length)) own.features other.features ∧
      EachOnce (namesIn dmark (merged.drop subject.module.length))
        own.deviations other.deviations) ↔
    NamesTold (subject.head ++ fmark) own.features other.features ∧
      NamesTold (subject.head ++ markedList fmark (unionList own.features other.features) ++ dmark)
        own.deviations other.deviations := by
  obtain ⟨featuresRead, deviationsRead⟩ := namesIn_mergedText subject own other
  obtain ⟨featuresFine, deviationsFine⟩ := names_fine own other
  rw [listNames_features] at featuresRead featuresFine
  rw [listNames_deviations] at deviationsRead deviationsFine
  have start : subject.head <+: mergedText subject own other := by
    rw [mergedText, mergedFeatures, List.append_assoc]
    exact List.prefix_append _ _
  have features := eachOnce_iff subject.head fmark rfl (by decide) featuresFine
  have deviations := eachOnce_iff (mergedFeatures subject own other) dmark rfl (by decide)
    deviationsFine
  -- the deviations are told in the same string once the features are right
  have same (told : NamesTold (subject.head ++ fmark) own.features other.features) :
      mergedFeatures subject own other =
        subject.head ++ markedList fmark (unionList own.features other.features) := by
    rw [mergedFeatures, keptNames, unionList, listNames_features, told.keepNew_eq]
    simp only [features_none]
  constructor
  · rintro ⟨merged, given, _, _, featuresOnce, deviationsOnce⟩
    rw [capReplace_eq] at given
    cases given
    rw [featuresRead] at featuresOnce
    rw [deviationsRead] at deviationsOnce
    have told := features.mp featuresOnce
    rw [← same told]
    exact ⟨told, deviations.mp deviationsOnce⟩
  · rintro ⟨told, deviationsTold⟩
    rw [← same told] at deviationsTold
    refine ⟨_, capReplace_eq subject own other, start, length_mergedText subject own other, ?_, ?_⟩
    · rw [featuresRead]
      exact features.mpr told
    · rw [deviationsRead]
      exact deviations.mpr deviationsTold

def interfacesRevision : ModuleRevision where
  module := octetsOf "urn:ietf:params:xml:ns:yang:ietf-interfaces?module=ietf-interfaces"
  revision := octetsOf "2018-02-20"
  moduleZero := by decide
  revisionLength := by decide
  revisionZero := by decide
  revisionAmpersand := by decide

def oneFeature (name : List UInt8) (fine : ListName name) : CapabilityLists where
  features := some [name]
  deviations := none
  deviationsFirst := false
  featureNames := List.forall_mem_singleton.mpr fine
  deviationNames := nofun

def arbitraryNames : CapabilityLists :=
  oneFeature (octetsOf "arbitrary-names")
    ⟨by decide, by decide, by decide, by decide, by decide, by decide⟩

def onlyNames : CapabilityLists :=
  oneFeature (octetsOf "names")
    ⟨by decide, by decide, by decide, by decide, by decide, by decide⟩

/-- The feature of one side is lost. -/
theorem names_not_merged :
    ¬ ∃ merged, capReplace true (capability interfacesRevision arbitraryNames)
        ((capability interfacesRevision arbitraryNames).length + 1)
        (capability interfacesRevision onlyNames)
        ((capability interfacesRevision onlyNames).length + 1)
        interfacesRevision.module.length = some (some merged) ∧ interfacesRevision.head <+: merged ∧
      merged.length + 1 ≤ roomSize interfacesRevision arbitraryNames onlyNames ∧
      EachOnce (namesIn fmark (merged.drop interfacesRevision.module.length))
        arbitraryNames.features onlyNames.features ∧
      EachOnce (namesIn dmark (merged.drop interfacesRevision.module.length))
        arbitraryNames.deviations onlyNames.deviations := by
  rintro ⟨merged, given, _, _, ⟨_, once⟩, _⟩
  have built : capReplace true (capability interfacesRevision arbitraryNames)
      ((capability interfacesRevision arbitraryNames).length + 1)
      (capability interfacesRevision onlyNames)
      ((capability interfacesRevision onlyNames).length + 1)
      interfacesRevision.module.length =
        some (some (capability interfacesRevision arbitraryNames)) := by
    decide +kernel
  rw [built] at given
  cases given
  have inside := (once (octetsOf "names")).mpr (by decide)
  exact absurd inside (by decide +kernel)

end Merging

end EnetTsn.Uniconf
