import EnetTsn.Netconf.TreePaths

namespace EnetTsn.Netconf

open EnetTsn.Library

def sortKeys (iskeycb : Keychecker) (contpath : Text) (keys : List (Text × Text)) :
    List (Text × Text) :=
  keys.insertionSort fun ls rs => keyIndex iskeycb contpath ls.1 ≤ keyIndex iskeycb contpath rs.1

def sortSegments (iskeycb : Keychecker) : Text → List Segment → List Segment
  | _, [] => []
  | contpath, segment :: segments =>
    ⟨segment.name, sortKeys iskeycb (contpath ++ '/' :: segment.name) segment.keys⟩ ::
      sortSegments iskeycb (contpath ++ '/' :: segment.name) segments

variable {iskeycb : Keychecker} {contpath : Text} {front segments : List Segment}
  {segment : Segment} {keys : List (Text × Text)}

theorem sortKeys_perm (iskeycb : Keychecker) (contpath : Text) (keys : List (Text × Text)) :
    (sortKeys iskeycb contpath keys).Perm keys :=
  List.perm_insertionSort _ _

theorem foldl_joinKeys (start : Text) (filled : start ≠ []) (keylist : List Text) :
    keylist.foldl (fun keyInfo keyPair =>
        if keyInfo.length > 0 then keyInfo ++ (keyPair ++ ['|']) else '|' :: (keyPair ++ ['|']))
        start = start ++ keylist.flatMap (· ++ ['|']) := by
  induction keylist generalizing start with
  | nil => exact (List.append_nil _).symm
  | cons line keylist ih =>
    rw [List.foldl_cons, if_pos (List.length_pos_of_ne_nil filled), ih _ (by simp [filled]),
      List.flatMap_cons, List.append_assoc]

private theorem joinKeys_lines (keys : List (Text × Text)) :
    joinKeys (keys.map fun key => key.1 ++ ':' :: key.2) = keysText keys := by
  cases keys with
  | nil => rfl
  | cons key keys =>
    rw [joinKeys, List.map_cons, List.foldl_cons, if_neg (by simp), foldl_joinKeys _ (by simp),
      List.flatMap_map, keysText, List.flatMap_cons]
    simp [keyPair]

theorem sortKeyInfo_keysText (plain : ∀ key ∈ keys, PlainKey key) (filled : keys ≠ []) :
    nconfXmlutilsSortKeyInfo iskeycb contpath (keysText keys) =
      if keys.length > 1 then some (keysText (sortKeys iskeycb contpath keys)) else none := by
  have lines : (getlines '|' (keysText keys)).filter (· ≠ []) =
      keys.map fun key => key.1 ++ ':' :: key.2 := by
    cases keys with
    | nil => rfl
    | cons key keys =>
      have pairs := getlines_pairs plain []
      rw [List.append_nil, getlines, List.append_nil] at pairs
      rw [keysText, getlines, if_pos rfl, pairs, List.filter_cons_of_neg (by simp),
        List.filter_eq_self]
      intro line inside
      obtain ⟨found, _, rfl⟩ := List.mem_map.mp inside
      simp
  have sorted : (keys.map fun key => key.1 ++ ':' :: key.2).insertionSort (fun ls rs =>
      keyIndex iskeycb contpath (ls.takeWhile (· ≠ ':')) ≤
        keyIndex iskeycb contpath (rs.takeWhile (· ≠ ':'))) =
      (sortKeys iskeycb contpath keys).map fun key => key.1 ++ ':' :: key.2 := by
    refine (List.map_insertionSort _ _ _ _ fun first member second member' => ?_).symm
    rw [takeWhile_key (plain first member).colon, takeWhile_key (plain second member').colon]
  rw [nconfXmlutilsSortKeyInfo, lines, List.length_map, sorted, joinKeys_lines]

private theorem keysText_length_perm (same : other.Perm keys) :
    (keysText other).length = (keysText keys).length := by
  cases keys with
  | nil => rw [List.perm_nil.mp same]
  | cons key keys =>
    cases other with
    | nil => exact absurd same.length_eq nofun
    | cons first other =>
      rw [keysText, keysText, List.length_cons, List.length_cons,
        (same.flatMap_right fun key => keyPair key.1 key.2).length_eq]

theorem sortPathLoop_entry (iskeycb : Keychecker) (plain : ∀ segment ∈ front, segment.Plain)
    (plain' : segment.Plain) (clear : '|' ∉ clean) (place : before ++ clean = rendered front)
    (filled : segment.keys ≠ []) (fuel : Nat) (rest : Text) :
    let sorted := rendered (front ++ [⟨segment.name, sortKeys iskeycb
      (schemaPath front ++ '/' :: segment.name) segment.keys⟩])
    sortPathLoop iskeycb (fuel + 1) before.length
        (before ++ (clean ++ (segment.text ++ '/' :: rest))) =
      sortPathLoop iskeycb fuel sorted.length (sorted ++ '/' :: rest) := by
  intro sorted
  obtain ⟨pairs, shape⟩ := keysText_ne_nil filled
  have bar : '|' ∉ clean ++ '/' :: segment.name := by
    rw [List.mem_append, not_or]
    exact ⟨clear, bar_not_mem_entry plain'.name⟩
  have node : before ++ (clean ++ '/' :: segment.name) =
      rendered (front ++ [⟨segment.name, []⟩]) := by
    rw [rendered_concat, ← place, keysText, List.append_nil, List.append_assoc]
  have nodePlain : ∀ segment' ∈ front ++ [⟨segment.name, []⟩], segment'.Plain := by
    rw [List.forall_mem_append, List.forall_mem_singleton]
    exact ⟨plain, plain'.name, by simp⟩
  have schema : schemaPath (front ++ [⟨segment.name, []⟩]) =
      schemaPath front ++ '/' :: segment.name := by
    rw [schemaPath_append, schemaPath_singleton]
  have whole : sorted = rendered (front ++ [⟨segment.name, []⟩]) ++
      keysText (sortKeys iskeycb (schemaPath front ++ '/' :: segment.name) segment.keys) := by
    rw [rendered_concat, keysText, List.append_nil, List.append_assoc, List.cons_append,
      ← rendered_concat]
  have path : before ++ (clean ++ (segment.text ++ '/' :: rest)) =
      rendered (front ++ [⟨segment.name, []⟩]) ++ (keysText segment.keys ++ '/' :: rest) := by
    rw [← node, Segment.text]
    simp
  have start : findMark (before ++ (clean ++ (segment.text ++ '/' :: rest))) '|' before.length =
      some (rendered (front ++ [⟨segment.name, []⟩])).length := by
    have found := findMark_append bar before (pairs ++ '/' :: rest)
    rw [← List.length_append, node] at found
    rw [← found, Segment.text, shape]
    simp
  have same := keysText_length_perm (sortKeys_perm iskeycb
    (schemaPath front ++ '/' :: segment.name) segment.keys)
  rw [sortPathLoop, start]
  dsimp only
  rw [path, findMark_append (slash_not_mem_keysText plain'.keys)]
  dsimp only
  rw [Nat.add_sub_cancel_left, substr, List.drop_left, List.take_left, List.take_left,
    removeKeyinfo_rendered nodePlain, schema, sortKeyInfo_keysText plain'.keys filled, whole,
    List.length_append, same, List.append_assoc]
  by_cases several : segment.keys.length > 1
  · rw [if_pos several]
    dsimp only
    rw [replaceAt, List.take_left, List.drop_length_add_append, List.drop_left, List.append_assoc]
  · have single : sortKeys iskeycb (schemaPath front ++ '/' :: segment.name) segment.keys =
        segment.keys := by
      obtain ⟨key, only⟩ := List.length_eq_one_iff.mp
        (Nat.le_antisymm (Nat.le_of_not_lt several) (List.length_pos_of_ne_nil filled))
      rw [only, sortKeys, List.insertionSort_cons, List.insertionSort_nil, List.orderedInsert_nil]
    rw [if_neg several, single]

theorem sortPathLoop_rendered {before clean tail : Text} {fuel : Nat}
    (plain : ∀ segment ∈ front, segment.Plain) (plain' : ∀ segment ∈ segments, segment.Plain)
    (bar : '|' ∉ tail) (clear : '|' ∉ clean) (place : before ++ clean = rendered front)
    (enough : segments.length ≤ fuel) : sortPathLoop iskeycb fuel before.length
        (before ++ (clean ++ (rendered segments ++ '/' :: tail))) = before ++ (clean ++
        (rendered (sortSegments iskeycb (schemaPath front) segments) ++ '/' :: tail)) := by
  induction segments generalizing front before clean fuel with
  | nil =>
    cases fuel with
    | zero => rfl
    | succ fuel =>
      have absent : '|' ∉ clean ++ (rendered [] ++ '/' :: tail) := by simp [clear, bar]
      rw [sortPathLoop, findMark_absent absent]
      rfl
  | cons segment segments ih =>
    obtain ⟨first, later⟩ := List.forall_mem_cons.mp plain'
    have schema : schemaPath front ++ '/' :: segment.name =
        schemaPath (front ++ [⟨segment.name, []⟩]) := by
      rw [schemaPath_append, schemaPath_singleton]
    have bar' : '|' ∉ clean ++ '/' :: segment.name := by
      rw [List.mem_append, not_or]
      exact ⟨clear, bar_not_mem_entry first.name⟩
    have node : before ++ (clean ++ '/' :: segment.name) =
        rendered (front ++ [⟨segment.name, []⟩]) := by
      rw [rendered_concat, ← place, keysText, List.append_nil, List.append_assoc]
    have nodePlain : ∀ segment' ∈ front ++ [⟨segment.name, []⟩], segment'.Plain := by
      rw [List.forall_mem_append, List.forall_mem_singleton]
      exact ⟨plain, first.name, by simp⟩
    rw [sortSegments, schema, rendered_cons, rendered_cons, Segment.text, Segment.text]
    by_cases empty : segment.keys = []
    · have turn := ih nodePlain later bar' node (Nat.le_of_succ_le enough)
      simp only [empty, sortKeys, List.insertionSort_nil, keysText, List.append_nil,
        List.append_assoc, List.cons_append] at turn ⊢
      exact turn
    · obtain ⟨fuel, rfl⟩ := Nat.exists_eq_add_of_le' (Nat.lt_of_lt_of_le (Nat.succ_pos _) enough)
      obtain ⟨rest, more⟩ : ∃ rest, rendered segments ++ '/' :: tail = '/' :: rest := by
        rcases rendered_slash segments with last | ⟨rest, more⟩
        · exact ⟨tail, by rw [last, List.nil_append]⟩
        · exact ⟨rest ++ '/' :: tail, by rw [more, List.cons_append]⟩
      have turn := sortPathLoop_entry iskeycb plain first clear place empty fuel rest
      have sortedPlain : ∀ segment' ∈ front ++ [⟨segment.name, sortKeys iskeycb
          (schemaPath (front ++ [⟨segment.name, []⟩])) segment.keys⟩], segment'.Plain := by
        rw [List.forall_mem_append, List.forall_mem_singleton]
        exact ⟨plain, first.name,
          fun key member => first.keys key ((sortKeys_perm _ _ _).mem_iff.mp member)⟩
      have run := ih sortedPlain later List.not_mem_nil (List.append_nil _) (Nat.le_of_succ_le_succ enough)
      rw [List.nil_append, List.nil_append, more, ← schema] at run
      rw [← Segment.text, List.append_assoc, more, ← schema, turn, run]
      rw [schemaPath_append, schemaPath_singleton, rendered_concat, ← place]
      simp

theorem sortPathKeyInfo_rendered (plain : ∀ segment ∈ segments, segment.Plain) {tail : Text}
    (bar : '|' ∉ tail) : nconfXmlutilsSortPathKeyInfo iskeycb (rendered segments ++ '/' :: tail) =
      rendered (sortSegments iskeycb [] segments) ++ '/' :: tail := by
  have enough : segments.length ≤ (rendered segments ++ '/' :: tail).length + 1 := by
    have := length_le_rendered segments
    rw [List.length_append]
    omega
  exact sortPathLoop_rendered (List.forall_mem_nil Segment.Plain) plain bar
    (List.not_mem_nil : '|' ∉ []) (rfl : [] ++ [] = rendered []) enough

/-- The number of characters of a path that are no `|`. -/
def weight (path : Text) : Nat := path.countP (· ≠ '|')

theorem weight_append (before rest : Text) : weight (before ++ rest) = weight before + weight rest :=
  List.countP_append

variable (keylist : List Text)

private theorem weight_flatMap : weight (keylist.flatMap (· ++ ['|'])) = (keylist.map weight).sum := by
  induction keylist with
  | nil => rfl
  | cons line keylist ih =>
    rw [List.flatMap_cons, weight_append, weight_append, ih, List.map_cons, List.sum_cons]
    rfl

private theorem weight_joinKeys : weight (joinKeys keylist) = (keylist.map weight).sum := by
  cases keylist with
  | nil => rfl
  | cons line keylist =>
    rw [joinKeys, List.foldl_cons, if_neg (by simp), foldl_joinKeys _ (by simp), weight_append,
      weight_flatMap, List.map_cons, List.sum_cons, ← List.singleton_append, weight_append,
      weight_append]
    congr 1
    exact Nat.zero_add _

private theorem weight_lines (text : Text) :
    (((getlines '|' text).filter (· ≠ [])).map weight).sum = weight text := by
  have whole : weight text = ((getlines '|' text).map weight).sum := by
    have kept : weight text = weight (text.filter (· ≠ '|')) := by
      rw [weight, weight, List.countP_filter]
      simp
    rw [kept, ← flatten_getlines, weight, List.countP_flatten]
    rfl
  rw [whole]
  induction getlines '|' text with
  | nil => rfl
  | cons line lines ih =>
    by_cases empty : line = []
    · rw [List.filter_cons_of_neg (by simp [empty]), ih, empty, List.map_cons, List.sum_cons]
      exact (Nat.zero_add _).symm
    · rw [List.filter_cons_of_pos (by simp [empty]), List.map_cons, List.sum_cons, ih,
        List.map_cons, List.sum_cons]

private theorem weight_sortKeyInfo
    (result : nconfXmlutilsSortKeyInfo iskeycb contpath keyInfo = some sorted) :
    weight sorted = weight keyInfo := by
  obtain ⟨_, same⟩ := Option.ite_none_right_eq_some.mp result
  cases same
  rw [weight_joinKeys, ((List.perm_insertionSort _ _).map weight).sum_nat, weight_lines]

private theorem weight_sortPathLoop (fuel pos : Nat) (path : Text) :
    weight (sortPathLoop iskeycb fuel pos path) = weight path := by
  induction fuel generalizing pos path with
  | zero => rfl
  | succ fuel ih =>
    rw [sortPathLoop]
    split
    · rfl
    · split
      · rfl
      · split
        · rw [ih]
        · rename_i start _ _ stop _ _ sorted result
          rw [ih, replaceAt, weight_append, weight_append, weight_sortKeyInfo result, substr,
            ← weight_append, ← weight_append]
          congr 1
          rw [List.append_assoc, ← List.drop_drop, List.take_append_drop, List.take_append_drop]

theorem weight_sortPathKeyInfo (path : Text) :
    weight (nconfXmlutilsSortPathKeyInfo iskeycb path) = weight path :=
  weight_sortPathLoop _ _ path

end EnetTsn.Netconf
