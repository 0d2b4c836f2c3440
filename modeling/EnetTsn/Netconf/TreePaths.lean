import EnetTsn.Netconf.TreeInfo

namespace EnetTsn.Netconf

open EnetTsn.Library

structure Segment where
  name : Text
  keys : List (Text × Text)
  deriving DecidableEq, Repr

def keysText : List (Text × Text) → Text
  | [] => []
  | key :: keys => '|' :: (key :: keys).flatMap fun key => keyPair key.1 key.2

def Segment.text (segment : Segment) : Text := '/' :: (segment.name ++ keysText segment.keys)

def rendered (segments : List Segment) : Text := segments.flatMap Segment.text

def schemaPath (segments : List Segment) : Text :=
  rendered (segments.map fun segment => ⟨segment.name, []⟩)

structure Separate (text : Text) : Prop where
  slash : '/' ∉ text
  bar : '|' ∉ text

structure PlainKey (key : Text × Text) : Prop where
  filled : key.1 ≠ []
  colon : ':' ∉ key.1
  name : Separate key.1
  value : Separate key.2

structure Segment.Plain (segment : Segment) : Prop where
  name : Separate segment.name
  keys : ∀ key ∈ segment.keys, PlainKey key

variable {front segments : List Segment} {segment : Segment} {keys : List (Text × Text)}
  {entry name value part rest text : Text}

@[simp] theorem rendered_nil : rendered [] = [] := rfl

@[simp] theorem rendered_cons (segment : Segment) (segments : List Segment) :
    rendered (segment :: segments) = segment.text ++ rendered segments := rfl

@[simp] theorem rendered_append (front segments : List Segment) :
    rendered (front ++ segments) = rendered front ++ rendered segments :=
  List.flatMap_append

theorem schemaPath_append (front segments : List Segment) :
    schemaPath (front ++ segments) = schemaPath front ++ schemaPath segments := by
  rw [schemaPath, List.map_append, rendered_append]
  rfl

theorem schemaPath_singleton (segment : Segment) : schemaPath [segment] = '/' :: segment.name := by
  simp [schemaPath, Segment.text, keysText]

theorem slash_not_mem_keysText (plain : ∀ key ∈ keys, PlainKey key) : '/' ∉ keysText keys := by
  have pairs : '/' ∉ keys.flatMap fun key => keyPair key.1 key.2 := by
    rw [List.mem_flatMap]
    rintro ⟨key, member, inside⟩
    have key := plain key member
    simp [keyPair, key.name.slash, key.value.slash] at inside
  cases keys with
  | nil => exact nofun
  | cons key keys =>
    rw [keysText, List.mem_cons, not_or]
    exact ⟨by decide, pairs⟩

theorem keysText_concat (keys : List (Text × Text)) (name value : Text) :
    keysText (keys ++ [(name, value)]) =
      keysText keys ++ (if keys = [] then '|' :: keyPair name value else keyPair name value) := by
  cases keys with
  | nil => simp [keysText]
  | cons key keys => simp [keysText]

theorem getLast?_append_keyPair (before name value : Text) :
    (before ++ keyPair name value).getLast? = some '|' := by
  have shape : before ++ keyPair name value = (before ++ (name ++ ':' :: value)) ++ ['|'] := by
    simp [keyPair]
  rw [shape, List.getLast?_concat]

theorem getLast?_keysText (filled : keys ≠ []) : (keysText keys).getLast? = some '|' := by
  obtain ⟨before, last, rfl⟩ := (List.eq_nil_or_concat' keys).resolve_left filled
  rw [keysText_concat]
  split
  · rw [← List.singleton_append, ← List.append_assoc, getLast?_append_keyPair]
  · rw [getLast?_append_keyPair]

theorem getlines_pairs (plain : ∀ key ∈ keys, PlainKey key) (rest : Text) :
    getlines '|' ((keys.flatMap fun key => keyPair key.1 key.2) ++ rest) =
      keys.map (fun key => key.1 ++ ':' :: key.2) ++ getlines '|' rest := by
  induction keys with
  | nil => rfl
  | cons key keys ih =>
    have first := plain key List.mem_cons_self
    have line : '|' ∉ key.1 ++ ':' :: key.2 := by
      simp [first.name.bar, first.value.bar]
    have shape : (((key :: keys).flatMap fun key => keyPair key.1 key.2) ++ rest) =
        (key.1 ++ ':' :: key.2) ++
          '|' :: ((keys.flatMap fun key => keyPair key.1 key.2) ++ rest) := by
      simp [keyPair]
    rw [shape, getlines_append line, ih fun key member => plain key (List.mem_cons_of_mem _ member)]
    rfl

theorem takeWhile_key (colon : ':' ∉ name) (value : Text) :
    (name ++ ':' :: value).takeWhile (· ≠ ':') = name :=
  takeWhile_mark colon value

theorem findKey_keysText (plain : ∀ key ∈ keys, PlainKey key) (filled : name ≠ []) (part : Text) :
    nconfXmlutilsFindKey (keysText keys ++ part) name =
      (decide (name ∈ keys.map Prod.fst) || nconfXmlutilsFindKey part name) := by
  cases keys with
  | nil => rfl
  | cons key keys =>
    rw [nconfXmlutilsFindKey, keysText, List.cons_append, getlines, if_pos rfl,
      getlines_pairs plain, List.any_cons, List.any_append, ← nconfXmlutilsFindKey]
    have empty : decide (([] : Text).takeWhile (· ≠ ':') = name) = false :=
      decide_eq_false (Ne.symm filled)
    rw [empty, Bool.false_or]
    congr 1
    rw [Bool.eq_iff_iff, List.any_eq_true, decide_eq_true_eq]
    constructor
    · rintro ⟨line, inside, same⟩
      obtain ⟨found, member, rfl⟩ := List.mem_map.mp inside
      rw [takeWhile_key (plain found member).colon, decide_eq_true_eq] at same
      exact List.mem_map.mpr ⟨found, member, same⟩
    · intro inside
      obtain ⟨found, member, rfl⟩ := List.mem_map.mp inside
      refine ⟨_, List.mem_map.mpr ⟨found, member, rfl⟩, ?_⟩
      rw [takeWhile_key (plain found member).colon]
      exact decide_eq_true rfl

section Entry

theorem rendered_concat (front : List Segment) (entry : Text) (keys : List (Text × Text)) :
    rendered (front ++ [⟨entry, keys⟩]) = rendered front ++ '/' :: (entry ++ keysText keys) := by
  simp [Segment.text]

theorem getLast?_rendered (front : List Segment) (keys : List (Text × Text)) (bar : '|' ∉ entry) :
    (rendered (front ++ [⟨entry, keys⟩])).getLast? = some '|' ↔ keys ≠ [] := by
  rw [rendered_concat]
  by_cases empty : keys = []
  · rw [empty, keysText, List.append_nil, List.getLast?_append_cons, ne_self_iff_false, iff_false]
    intro last
    have member := List.mem_of_getLast? last
    rw [List.mem_cons] at member
    exact member.elim (by decide) bar
  · have nonempty : keysText keys ≠ [] := by
      cases keys with
      | nil => exact absurd rfl empty
      | cons => exact List.cons_ne_nil _ _
    rw [← List.cons_append, ← List.append_assoc, List.getLast?_append_of_ne_nil _ nonempty,
      getLast?_keysText empty]
    exact ⟨fun _ => empty, fun _ => rfl⟩

theorem rendered_addKey (bar : '|' ∉ entry) (name value : Text) :
    rendered (front ++ [⟨entry, keys⟩]) ++
        keyInfoNew (rendered (front ++ [⟨entry, keys⟩])) name value =
      rendered (front ++ [⟨entry, keys ++ [(name, value)]⟩]) := by
  rw [keyInfoNew, rendered_concat front entry (keys ++ _), keysText_concat]
  nth_rewrite 1 [rendered_concat]
  by_cases empty : keys = []
  · rw [if_pos empty, if_pos]
    · simp
    · rw [ne_eq, getLast?_rendered front keys bar, not_not]
      exact empty
  · rw [if_neg empty, if_neg]
    · simp
    · rw [ne_eq, getLast?_rendered front keys bar, not_not]
      exact empty

section

variable (plain : Segment.Plain ⟨entry, keys⟩)
include plain

theorem keyInfoStart_rendered (rest : Text) : keyInfoStart (rendered (front ++ [⟨entry, keys⟩]))
        (rendered (front ++ [⟨entry, keys⟩]) ++ rest) =
      some ((rendered front).length + ('/' :: entry).length) := by
  have last := getLast?_rendered front keys plain.name.bar
  rw [keyInfoStart]
  cases keys with
  | nil =>
    rw [if_pos (fun bar => last.mp bar rfl), rendered_concat, keysText, List.append_nil,
      List.length_append]
  | cons key keys =>
    have slash : '/' ∉ entry ++ keysText (key :: keys) := by
      rw [List.mem_append, not_or]
      exact ⟨plain.name.slash, slash_not_mem_keysText plain.keys⟩
    have bar : '|' ∉ '/' :: entry := by
      rw [List.mem_cons, not_or]
      exact ⟨by decide, plain.name.bar⟩
    rw [if_neg (not_not.mpr (last.mpr (List.cons_ne_nil _ _))), rendered_concat,
      List.append_assoc, List.cons_append]
    have back : (rendered front ++ '/' :: (entry ++ keysText (key :: keys))).length - 1 =
        (rendered front).length + (entry ++ keysText (key :: keys)).length := by
      rw [List.length_append, List.length_cons]
      omega
    rw [back, rfindMark_append slash, Option.bind_some, keysText]
    have shape : '/' :: (entry ++ '|' :: ((key :: keys).flatMap fun key => keyPair key.1 key.2) ++
        rest) = ('/' :: entry) ++
          '|' :: (((key :: keys).flatMap fun key => keyPair key.1 key.2) ++ rest) := by simp
    rw [shape, findMark_append bar]

theorem updatePath_within (slash : '/' ∉ part)
    (filled : name ≠ []) (fresh : name ∉ keys.map Prod.fst) (value rest : Text) :
    updatePath (rendered (front ++ [⟨entry, keys⟩])) name value
        (rendered (front ++ [⟨entry, keys⟩]) ++ (part ++ '/' :: rest)) =
      rendered (front ++ [⟨entry, keys⟩]) ++ (part ++ ((if nconfXmlutilsFindKey part name then []
          else keyInfoNew (rendered (front ++ [⟨entry, keys⟩]) ++ part) name value) ++
            '/' :: rest)) := by
  have slash' : '/' ∉ keysText keys ++ part := by
    rw [List.mem_append, not_or]
    exact ⟨slash_not_mem_keysText plain.keys, slash⟩
  have shape : rendered (front ++ [⟨entry, keys⟩]) ++ (part ++ '/' :: rest) =
      (rendered front ++ '/' :: entry) ++ ((keysText keys ++ part) ++ '/' :: rest) := by
    rw [rendered_concat]
    simp
  have last : (keysText keys ++ part).getLast? = some '|' ↔
      (rendered (front ++ [⟨entry, keys⟩]) ++ part).getLast? = some '|' := by
    by_cases empty : part = []
    · rw [empty, List.append_nil, List.append_nil, getLast?_rendered front keys plain.name.bar]
      constructor
      · rintro bar rfl
        exact nomatch bar
      · exact getLast?_keysText
    · rw [List.getLast?_append_of_ne_nil _ empty, List.getLast?_append_of_ne_nil _ empty]
  have same : keyInfoNew (keysText keys ++ part) name value =
      keyInfoNew (rendered (front ++ [⟨entry, keys⟩]) ++ part) name value := by
    rw [keyInfoNew, keyInfoNew]
    simp only [ne_eq, last]
  rw [updatePath, if_pos (List.prefix_append _ _), keyInfoStart_rendered plain, shape]
  dsimp only
  rw [← List.length_append, findMark_append slash']
  dsimp only
  rw [Nat.add_sub_cancel_left, substr, List.drop_left, List.take_left,
    findKey_keysText plain.keys filled, decide_eq_false fresh, Bool.false_or, ← same]
  cases nconfXmlutilsFindKey part name with
  | true =>
    rw [if_pos rfl, if_pos rfl, List.nil_append, shape]
  | false =>
    rw [if_neg Bool.false_ne_true, if_neg Bool.false_ne_true, replaceAt, Nat.add_zero,
      List.take_length_add_append, List.take_left, List.drop_length_add_append, List.drop_left,
      rendered_concat]
    simp

theorem updatePath_end (slash : '/' ∉ part) (name value : Text) :
    updatePath (rendered (front ++ [⟨entry, keys⟩])) name value
        (rendered (front ++ [⟨entry, keys⟩]) ++ part) =
      rendered (front ++ [⟨entry, keys⟩]) ++ part := by
  have slash' : '/' ∉ keysText keys ++ part := by
    rw [List.mem_append, not_or]
    exact ⟨slash_not_mem_keysText plain.keys, slash⟩
  have shape : rendered (front ++ [⟨entry, keys⟩]) ++ part =
      (rendered front ++ '/' :: entry) ++ (keysText keys ++ part) := by
    rw [rendered_concat]
    simp
  rw [updatePath, if_pos (List.prefix_append _ _), keyInfoStart_rendered plain, shape]
  dsimp only
  rw [← List.length_append, findMark_absent slash']

end

theorem updatePath_apart {currentPath path : Text} (apart : ¬ currentPath <+: path)
    (name value : Text) : updatePath currentPath name value path = path :=
  if_neg apart

end Entry

section Schema

theorem bar_not_mem_entry (plain : Separate name) : '|' ∉ '/' :: name := by
  rw [List.mem_cons, not_or]
  exact ⟨by decide, plain.bar⟩

theorem keysText_ne_nil (filled : keys ≠ []) : ∃ pairs, keysText keys = '|' :: pairs := by
  cases keys with
  | nil => exact absurd rfl filled
  | cons key keys => exact ⟨_, rfl⟩

theorem rendered_slash (segments : List Segment) :
    rendered segments = [] ∨ ∃ rest, rendered segments = '/' :: rest := by
  cases segments with
  | nil => exact .inl rfl
  | cons segment segments => exact .inr ⟨_, rfl⟩

theorem removeKeyinfoLoop_rendered (bar : '|' ∉ clean) (plain : ∀ segment ∈ segments, segment.Plain)
    (enough : segments.length ≤ fuel) :
    removeKeyinfoLoop fuel (clean ++ rendered segments) = clean ++ schemaPath segments := by
  induction segments generalizing clean fuel with
  | nil =>
    rw [rendered_nil, List.append_nil]
    cases fuel with
    | zero => exact (List.append_nil _).symm
    | succ fuel =>
      have none : findMark clean '|' 0 = none := findMark_absent bar []
      rw [removeKeyinfoLoop, none]
      exact (List.append_nil _).symm
  | cons segment segments ih =>
    obtain ⟨first, later⟩ := List.forall_mem_cons.mp plain
    have bar' : '|' ∉ clean ++ '/' :: segment.name := by
      rw [List.mem_append, not_or]
      exact ⟨bar, bar_not_mem_entry first.name⟩
    have schema : clean ++ schemaPath (segment :: segments) =
        (clean ++ '/' :: segment.name) ++ schemaPath segments := by
      rw [← List.singleton_append, schemaPath_append, schemaPath_singleton, List.append_assoc]
    rw [schema, rendered_cons, Segment.text]
    by_cases empty : segment.keys = []
    · rw [empty, keysText, List.append_nil, ← List.append_assoc]
      exact ih bar' later (Nat.le_of_succ_le enough)
    · obtain ⟨pairs, shape⟩ := keysText_ne_nil empty
      have noSlash : '/' ∉ pairs := by
        have := slash_not_mem_keysText first.keys
        rw [shape, List.mem_cons, not_or] at this
        exact this.2
      obtain ⟨fuel, rfl⟩ := Nat.exists_eq_add_of_le' (Nat.lt_of_lt_of_le (Nat.succ_pos _) enough)
      have path : clean ++ ('/' :: (segment.name ++ keysText segment.keys) ++ rendered segments) =
          (clean ++ '/' :: segment.name) ++ '|' :: (pairs ++ rendered segments) := by
        rw [shape]
        simp
      have found : findMark ((clean ++ '/' :: segment.name) ++
          '|' :: (pairs ++ rendered segments)) '|' 0 = some (clean ++ '/' :: segment.name).length := by
        have := findMark_append bar' [] (pairs ++ rendered segments)
        rwa [List.nil_append, List.length_nil, Nat.zero_add] at this
      rw [path, removeKeyinfoLoop, found]
      dsimp only
      rw [List.take_left, ← ih bar' later (Nat.le_of_succ_le_succ enough), List.append_cons]
      have width : (clean ++ '/' :: segment.name).length + 1 =
          ((clean ++ '/' :: segment.name) ++ ['|']).length := by
        simp only [List.length_append, List.length_singleton]
      rw [width]
      rcases rendered_slash segments with last | ⟨rest, more⟩
      · rw [last, List.append_nil, findMark_absent noSlash, List.append_nil]
      · rw [more, findMark_append noSlash]
        dsimp only
        rw [List.drop_length_add_append, List.drop_left]

theorem length_le_rendered (segments : List Segment) :
    segments.length ≤ (rendered segments).length := by
  induction segments with
  | nil => exact Nat.le_refl _
  | cons segment segments ih =>
    rw [rendered_cons, List.length_append, Segment.text, List.length_cons, List.length_cons]
    omega

theorem removeKeyinfo_rendered (plain : ∀ segment ∈ segments, segment.Plain) :
    nconfXmlutilsRemoveKeyinfo (rendered segments) = schemaPath segments :=
  removeKeyinfoLoop_rendered (List.not_mem_nil : '|' ∉ []) plain (length_le_rendered segments)

end Schema

end EnetTsn.Netconf
