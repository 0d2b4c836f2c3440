import EnetTsn.Uniconf.KeyStrings

/-!
A path that was printed from a key is cut into its nodes again: at each slash, and a part with a
bar into a name and the keys of an instance. The tokens are cut in place, by zeros over the marks.
-/

namespace EnetTsn.Netconf

open EnetTsn.Library EnetTsn.Uniconf

/-- `nconf_ucclient_tokenize_xpath`, with the memory, the token and the place that is saved; none if
no zero ends the string within the memory. -/
def nconfUcclientTokenizeXpath (mem : List UInt8) (xpath : Option Nat) (delim : UInt8)
    (saveptr : Option Nat) : Option (List UInt8 × Option Nat × Option Nat) :=
  match xpath.or (saveptr.map (· + 1)) with
  | none => some (mem, none, saveptr)
  | some token => do
    let char ← mem[token]?
    if char = 0 then some (mem, none, saveptr)
    else
      let tmp := if char = delim then token + 1 else token
      match ← strstr mem tmp [delim] with
      | none => some (mem, some tmp, none)
      | some place => some (mem.set place 0, some tmp, some place)

def restore (mem : List UInt8) (saveptr : Option Nat) (delim : UInt8) : List UInt8 :=
  (saveptr.map fun place => mem.set place delim).getD mem

def stringAt (mem : List UInt8) (address : Nat) : List UInt8 := cstring (mem.drop address)

/-- The loop of `nconf_ucclient_get_instance_keys`, with the keys so far; none if it leaves the
array of them. -/
def keyLoop : Nat → List UInt8 → Option Nat → Option Nat → Option Nat → List (Nat × Nat) →
    Option (List UInt8 × List (Nat × Nat))
  | 0, _, _, _, _, _ => none
  | turns + 1, mem, instKeys, instKeySp, valKeySp, vk =>
    if instKeys = none then some (mem, vk)
    else if maxKvDepth ≤ vk.length then none
    else do
      let (mem, key, valKeySp) ← nconfUcclientTokenizeXpath mem instKeys 58 valKeySp
      match key with
      | none => some (restore (restore mem instKeySp 124) valKeySp 58, [])
      | some key =>
        let (mem, val, valKeySp) ← nconfUcclientTokenizeXpath mem none 124 valKeySp
        match val with
        | none => some (restore (restore mem instKeySp 124) valKeySp 124, [])
        | some val =>
          let (mem, instKeys, instKeySp) ← nconfUcclientTokenizeXpath mem none 124 instKeySp
          keyLoop turns mem instKeys instKeySp valKeySp (vk ++ [(key, val)])

/-- `nconf_ucclient_get_instance_keys`, with the name and the keys of the instance. It fails if
there are no keys. -/
def nconfUcclientGetInstanceKeys (mem : List UInt8) (xpathSegment : Nat) :
    Option (List UInt8 × Option Nat × List (Nat × Nat)) := do
  let turns := mem.length + 1
  let (mem, name, instKeySp) ← nconfUcclientTokenizeXpath mem (some xpathSegment) 124 none
  let (mem, instKeys, instKeySp) ← nconfUcclientTokenizeXpath mem none 124 instKeySp
  let (mem, vk) ← keyLoop turns mem instKeys instKeySp none []
  some (mem, name, vk)

def segmentNode (mem : List UInt8) (pathSegment : Nat) :
    Option (List UInt8 × Option PathNode) :=
  if firstAt [124] (stringAt mem pathSegment) = none then
    some (mem, some ⟨stringAt mem pathSegment, []⟩)
  else do
    let (mem, name, vk) ← nconfUcclientGetInstanceKeys mem pathSegment
    if vk = [] then some (mem, none)
    else do
      let name ← name
      some (mem, some ⟨stringAt mem name,
        vk.map fun key => (stringAt mem key.1, stringAt mem key.2)⟩)

/-- The loop of `nconf_ucclient_insert_new_cfg_nodes` over the segments of a path, where all nodes
are found or made; none inside if it fails. -/
def segmentLoop : Nat → List UInt8 → Option Nat → Option Nat → Option (Option (List PathNode))
  | 0, _, _, _ => none
  | turns + 1, mem, pathSegment, containerSp =>
    match pathSegment with
    | none => some (some [])
    | some segment => do
      let (mem, node) ← segmentNode mem segment
      match node with
      | none => some none
      | some node =>
        let (mem, pathSegment, containerSp) ←
          nconfUcclientTokenizeXpath (restore mem containerSp 47) none 47 containerSp
        let nodes ← segmentLoop turns mem pathSegment containerSp
        some (nodes.map (node :: ·))

/-- What `nconf_ucclient_insert_new_cfg_nodes` does with the text behind the module: the container
at its top, and the nodes of its segments. -/
def containerNodes (mem : List UInt8) (start : Nat) : Option (Option (List PathNode)) := do
  let tmp ← strstr mem start [47]
  let container := stringAt (restore mem tmp 0) start
  let turns := mem.length + 1
  let (mem, pathSegment, containerSp) ← nconfUcclientTokenizeXpath mem tmp 47 none
  let nodes ← segmentLoop turns mem pathSegment containerSp
  some (nodes.map (⟨container, []⟩ :: ·))

/-- `nconf_ucclient_insert_new_cfg_nodes` for a path at the start of the memory. -/
def nconfUcclientInsertNewCfgNodes (mem : List UInt8) : Option (Option (List PathNode)) := do
  match ← strstr mem 1 [47] with
  | none => some none
  | some pathnomod => containerNodes mem (pathnomod + 1)

section Tokens

variable {word front rest : List UInt8} {delim : UInt8} {saveptr : Option Nat}

theorem cstring_word (zero : (0 : UInt8) ∉ word) (rest : List UInt8) :
    cstring (word ++ 0 :: rest) = word := by
  induction word with
  | nil => rfl
  | cons octet word ih =>
    obtain ⟨different, others⟩ := not_or.mp (mt List.mem_cons.mpr zero)
    rw [cstring, List.cons_append, List.takeWhile_cons, if_pos (decide_eq_true (Ne.symm different))]
    exact congrArg (octet :: ·) (ih others)

theorem stringAt_word (zero : (0 : UInt8) ∉ word) (front rest : List UInt8) :
    stringAt (front ++ (word ++ 0 :: rest)) front.length = word := by
  rw [stringAt, List.drop_left, cstring_word zero]

theorem strstr_mark (zero : (0 : UInt8) ∉ word ++ delim :: rest) (absent : delim ∉ word)
    (front more : List UInt8) :
    strstr (front ++ (word ++ delim :: rest ++ 0 :: more)) front.length [delim] =
      some (some (front.length + word.length)) := by
  have ends : (0 : UInt8) ∈ word ++ delim :: rest ++ 0 :: more :=
    List.mem_append_right _ List.mem_cons_self
  rw [strstr, List.drop_left, if_pos ends, cstring_word zero, firstAt_singleton absent]
  rfl

theorem strstr_absent (zero : (0 : UInt8) ∉ word) (absent : delim ∉ word)
    (front more : List UInt8) :
    strstr (front ++ (word ++ 0 :: more)) front.length [delim] = some none := by
  have ends : (0 : UInt8) ∈ word ++ 0 :: more := List.mem_append_right _ List.mem_cons_self
  have none : ¬ [delim] <:+: word := by
    rwa [List.singleton_infix_iff]
  rw [strstr, List.drop_left, if_pos ends, cstring_word zero, firstAt_eq_none.mpr none]
  rfl

theorem tokenize_word (filled : word ≠ []) (zero : (0 : UInt8) ∉ word ++ delim :: rest)
    (absent : delim ∉ word) (front more : List UInt8) (saveptr : Option Nat) :
    nconfUcclientTokenizeXpath (front ++ (word ++ delim :: rest ++ 0 :: more)) (some front.length)
        delim saveptr = some (front ++ (word ++ 0 :: (rest ++ 0 :: more)), some front.length,
        some (front.length + word.length)) := by
  obtain ⟨first, word, rfl⟩ := List.exists_cons_of_ne_nil filled
  have here : (front ++ (first :: word ++ delim :: rest ++ 0 :: more))[front.length]? =
      some first := by
    rw [List.getElem?_append_right (Nat.le_refl _), Nat.sub_self]
    rfl
  have notZero : first ≠ 0 := by
    rintro rfl
    exact zero List.mem_cons_self
  have notMark : first ≠ delim := by
    rintro rfl
    exact absent List.mem_cons_self
  have written : (front ++ (first :: word ++ delim :: rest ++ 0 :: more)).set
      (front.length + (first :: word).length) 0 =
        front ++ (first :: word ++ 0 :: (rest ++ 0 :: more)) := by
    rw [List.set_append_right _ _ (Nat.le_add_right _ _), Nat.add_sub_cancel_left,
      List.append_assoc, List.set_append_right _ _ (Nat.le_refl _), Nat.sub_self]
    rfl
  rw [nconfUcclientTokenizeXpath]
  simp only [Option.some_or, Option.bind_eq_bind, here, Option.bind_some, if_neg notZero,
    if_neg notMark, strstr_mark zero absent front more, written]

theorem tokenize_last (filled : word ≠ []) (zero : (0 : UInt8) ∉ word) (absent : delim ∉ word)
    (front more : List UInt8) (saveptr : Option Nat) :
    nconfUcclientTokenizeXpath (front ++ (word ++ 0 :: more)) (some front.length) delim saveptr =
      some (front ++ (word ++ 0 :: more), some front.length, none) := by
  obtain ⟨first, word, rfl⟩ := List.exists_cons_of_ne_nil filled
  have here : (front ++ (first :: word ++ 0 :: more))[front.length]? = some first := by
    rw [List.getElem?_append_right (Nat.le_refl _), Nat.sub_self]
    rfl
  have notZero : first ≠ 0 := by
    rintro rfl
    exact zero List.mem_cons_self
  have notMark : first ≠ delim := by
    rintro rfl
    exact absent List.mem_cons_self
  rw [nconfUcclientTokenizeXpath]
  simp only [Option.some_or, Option.bind_eq_bind, here, Option.bind_some, if_neg notZero,
    if_neg notMark, strstr_absent zero absent front more]

theorem tokenize_end (front more : List UInt8) (saveptr : Option Nat) :
    nconfUcclientTokenizeXpath (front ++ 0 :: more) (some front.length) delim saveptr =
      some (front ++ 0 :: more, none, saveptr) := by
  have here : (front ++ 0 :: more)[front.length]? = some 0 := by
    rw [List.getElem?_append_right (Nat.le_refl _), Nat.sub_self]
    rfl
  rw [nconfUcclientTokenizeXpath]
  simp only [Option.some_or, Option.bind_eq_bind, here, Option.bind_some, if_true]

theorem tokenize_saved (mem : List UInt8) (place : Nat) :
    nconfUcclientTokenizeXpath mem none delim (some place) =
      nconfUcclientTokenizeXpath mem (some (place + 1)) delim (some place) :=
  rfl

theorem tokenize_none (mem : List UInt8) :
    nconfUcclientTokenizeXpath mem none delim none = some (mem, none, none) :=
  rfl

theorem behind (front word : List UInt8) (mark : UInt8) (rest : List UInt8) :
    front ++ (word ++ mark :: rest) = (front ++ word ++ [mark]) ++ rest ∧
      front.length + word.length + 1 = (front ++ word ++ [mark]).length := by
  simp [Nat.add_assoc]

end Tokens

section Keys

def keyText (key : List UInt8 × List UInt8) : List UInt8 := key.1 ++ 58 :: key.2

def keysBody (keys : List (List UInt8 × List UInt8)) (last : Option (List UInt8 × List UInt8)) :
    List UInt8 :=
  keys.flatMap (fun key => keyText key ++ [124]) ++ (last.map keyText).getD []

def PathKey (key : List UInt8 × List UInt8) : Prop :=
  PlainName key.1 ∧ (0 : UInt8) ∉ key.2 ∧ (124 : UInt8) ∉ key.2

def ReadableKeys (count : Nat) (keys : List (List UInt8 × List UInt8)) : Prop :=
  count + keys.length ≤ maxKvDepth ∧ ∀ key ∈ keys, key.2 ≠ []

variable {front more tail : List UInt8} {key : List UInt8 × List UInt8}
  {keys : List (List UInt8 × List UInt8)} {last : Option (List UInt8 × List UInt8)}
  {instKeySp valKeySp saveptr : Option Nat} {vk : List (Nat × Nat)} {turns : Nat}

theorem keyLoop_turn (front tail : List UInt8) (turns : Nat) (instKeySp valKeySp : Option Nat)
    (plain : PathKey key) (room : vk.length < maxKvDepth) :
    (key.2 = [] → ∃ mem, keyLoop (turns + 1) (front ++ (keyText key ++ 0 :: tail))
        (some front.length) instKeySp valKeySp vk = some (mem, [])) ∧
    (key.2 ≠ [] → keyLoop (turns + 1) (front ++ (keyText key ++ 0 :: tail)) (some front.length)
        instKeySp valKeySp vk = do
      let (mem, instKeys, instKeySp) ← nconfUcclientTokenizeXpath
        (front ++ (key.1 ++ 0 :: (key.2 ++ 0 :: tail))) none 124 instKeySp
      keyLoop turns mem instKeys instKeySp none
        (vk ++ [(front.length, front.length + key.1.length + 1)])) := by
  obtain ⟨name, zero, bar⟩ := plain
  have zeros : (0 : UInt8) ∉ key.1 ++ 58 :: key.2 := by
    rw [List.mem_append, List.mem_cons, not_or, not_or]
    exact ⟨name.zero, by decide, zero⟩
  have named := tokenize_word name.filled zeros name.colon front tail valKeySp
  obtain ⟨split, place⟩ := behind front key.1 0 (key.2 ++ 0 :: tail)
  have notFull : ¬ maxKvDepth ≤ vk.length := Nat.not_le_of_lt room
  rw [keyLoop, if_neg (Option.some_ne_none _), if_neg notFull, keyText, named]
  simp only [Option.bind_eq_bind, Option.bind_some, tokenize_saved, place]
  constructor
  · intro empty
    rw [split, empty, List.nil_append, tokenize_end]
    exact ⟨_, rfl⟩
  · intro filled
    rw [split, tokenize_last filled zero bar]
    rfl

def readKeys (mem : List UInt8) (vk : List (Nat × Nat)) : List (List UInt8 × List UInt8) :=
  vk.map fun key => (stringAt mem key.1, stringAt mem key.2)

def keysFrom (turns : Nat) (mem : List UInt8) (start : Nat) (saveptr valKeySp : Option Nat)
    (vk : List (Nat × Nat)) : Option (List UInt8 × List (Nat × Nat)) := do
  let (mem, instKeys, instKeySp) ← nconfUcclientTokenizeXpath mem (some start) 124 saveptr
  keyLoop turns mem instKeys instKeySp valKeySp vk

/-- What the loop comes to: it reads the keys and leaves the rest of the memory as it is, or it has
none. -/
def KeysRead (front more : List UInt8) (size : Nat) (vk : List (Nat × Nat))
    (keys : List (List UInt8 × List UInt8)) (result : Option (List UInt8 × List (Nat × Nat))) :
    Prop :=
  (ReadableKeys vk.length keys → ∃ cut found,
    result = some (front ++ (cut ++ 0 :: more), vk ++ found) ∧ cut.length = size ∧
      readKeys (front ++ (cut ++ 0 :: more)) found = keys) ∧
  (¬ ReadableKeys vk.length keys → ∀ mem found, result = some (mem, found) → found = [])

theorem readableKeys_cons : ReadableKeys count (key :: keys) ↔
      (count < maxKvDepth ∧ key.2 ≠ []) ∧ ReadableKeys (count + 1) keys := by
  rw [ReadableKeys, ReadableKeys, List.forall_mem_cons, List.length_cons]
  constructor
  · rintro ⟨room, filled, others⟩
    exact ⟨⟨by omega, filled⟩, by omega, others⟩
  · rintro ⟨⟨_, filled⟩, room, others⟩
    exact ⟨by omega, filled, others⟩

section

variable (plain : PathKey key)
include plain

theorem stringAt_key (front tail : List UInt8) :
    stringAt (front ++ (key.1 ++ 0 :: (key.2 ++ 0 :: tail))) front.length = key.1 ∧
      stringAt (front ++ (key.1 ++ 0 :: (key.2 ++ 0 :: tail))) (front.length + key.1.length + 1) =
        key.2 := by
  obtain ⟨name, zero, _⟩ := plain
  obtain ⟨split, place⟩ := behind front key.1 0 (key.2 ++ 0 :: tail)
  refine ⟨stringAt_word name.zero _ _, ?_⟩
  rw [place, split, stringAt_word zero]

theorem keysRead_cons (later : vk.length < maxKvDepth → key.2 ≠ [] →
      KeysRead (front ++ (key.1 ++ 0 :: (key.2 ++ [0]))) more size
        (vk ++ [(front.length, front.length + key.1.length + 1)]) keys result)
    (stuck : ¬ (vk.length < maxKvDepth ∧ key.2 ≠ []) →
      ∀ mem found, result = some (mem, found) → found = []) :
    KeysRead front more (key.1.length + key.2.length + 2 + size) vk (key :: keys) result := by
  have count : (vk ++ [(front.length, front.length + key.1.length + 1)]).length = vk.length + 1 :=
    List.length_append
  rw [KeysRead, readableKeys_cons]
  constructor
  · rintro ⟨⟨room, filled⟩, others⟩
    obtain ⟨cut, found, same, length, read⟩ := (later room filled).1 (count ▸ others)
    have whole : front ++ (key.1 ++ 0 :: (key.2 ++ [0])) ++ (cut ++ 0 :: more) =
        front ++ (key.1 ++ 0 :: (key.2 ++ 0 :: (cut ++ 0 :: more))) := by
      simp
    obtain ⟨name, value⟩ := stringAt_key plain front (cut ++ 0 :: more)
    rw [whole] at same read
    refine ⟨key.1 ++ 0 :: (key.2 ++ 0 :: cut),
      (front.length, front.length + key.1.length + 1) :: found, ?_, ?_, ?_⟩
    · rw [same]
      simp
    · simp only [List.length_append, List.length_cons, length]
      omega
    · have same' : front ++ (key.1 ++ 0 :: (key.2 ++ 0 :: cut) ++ 0 :: more) =
          front ++ (key.1 ++ 0 :: (key.2 ++ 0 :: (cut ++ 0 :: more))) := by
        simp
      rw [same', readKeys, List.map_cons, name, value]
      exact congrArg (key :: ·) read
  · intro refused
    by_cases here : vk.length < maxKvDepth ∧ key.2 ≠ []
    · exact (later here.1 here.2).2 fun others => refused ⟨here, count ▸ others⟩
    · exact stuck here

theorem keyLoop_stuck (stuck : ¬ (vk.length < maxKvDepth ∧ key.2 ≠ [])) :
    ∀ mem found, keyLoop (turns + 1) (front ++ (keyText key ++ 0 :: tail)) (some front.length)
      instKeySp valKeySp vk = some (mem, found) → found = [] := by
  intro mem found result
  by_cases room : vk.length < maxKvDepth
  · have empty : key.2 = [] := by
      by_contra filled
      exact stuck ⟨room, filled⟩
    obtain ⟨_, failed⟩ := (keyLoop_turn front tail turns instKeySp valKeySp plain room).1 empty
    rw [failed] at result
    cases result
    rfl
  · rw [keyLoop, if_neg (Option.some_ne_none _), if_pos (Nat.le_of_not_lt room)] at result
    cases result

theorem keyText_plain :
    keyText key ≠ [] ∧ (0 : UInt8) ∉ keyText key ∧ (124 : UInt8) ∉ keyText key := by
  obtain ⟨name, zero, bar⟩ := plain
  refine ⟨List.append_ne_nil_of_right_ne_nil _ (List.cons_ne_nil _ _), ?_, ?_⟩
  · rw [keyText, List.mem_append, List.mem_cons, not_or, not_or]
    exact ⟨name.zero, by decide, zero⟩
  · rw [keyText, List.mem_append, List.mem_cons, not_or, not_or]
    exact ⟨name.bar, by decide, bar⟩

end

theorem keysBody_cons : keysBody (key :: keys) last = keyText key ++ 124 :: keysBody keys last := by
  simp [keysBody]

private theorem length_le_keysBody (keys : List (List UInt8 × List UInt8))
    (last : Option (List UInt8 × List UInt8)) : keys.length ≤ (keysBody keys last).length := by
  induction keys with
  | nil => exact Nat.zero_le _
  | cons key keys ih =>
    rw [keysBody_cons, List.length_append, List.length_cons, List.length_cons]
    omega

theorem keysBody_zero (plain : ∀ key ∈ keys ++ last.toList, PathKey key) :
    (0 : UInt8) ∉ keysBody keys last := by
  induction keys with
  | nil =>
    cases last with
    | none => exact List.not_mem_nil
    | some key =>
      have own := plain key (by simp)
      exact (keyText_plain own).2.1
  | cons key keys ih =>
    obtain ⟨own, others⟩ := List.forall_mem_cons.mp plain
    rw [keysBody_cons, List.mem_append, List.mem_cons, not_or, not_or]
    exact ⟨(keyText_plain own).2.1, by decide, ih others⟩

theorem keysFrom_read (front more : List UInt8) (saveptr valKeySp : Option Nat)
    (vk : List (Nat × Nat)) (plain : ∀ key ∈ keys ++ last.toList, PathKey key)
    (enough : keys.length + 1 < turns) (bounded : vk.length ≤ maxKvDepth) :
    KeysRead front more (keysBody keys last).length vk (keys ++ last.toList)
      (keysFrom turns (front ++ (keysBody keys last ++ 0 :: more)) front.length saveptr valKeySp
        vk) := by
  induction keys generalizing front saveptr valKeySp vk turns with
  | nil =>
    obtain ⟨turns, rfl⟩ : ∃ later, turns = later + 2 := by
      exact ⟨turns - 2, by omega⟩
    cases last with
    | none =>
      have ended : keysFrom (turns + 2) (front ++ ([] ++ 0 :: more)) front.length saveptr
          valKeySp vk = some (front ++ ([] ++ 0 :: more), vk) := by
        rw [keysFrom, List.nil_append, tokenize_end]
        rfl
      refine ⟨fun _ => ⟨[], [], ?_, rfl, rfl⟩, fun refused => ?_⟩
      · rw [List.append_nil]
        exact ended
      · exact absurd ⟨bounded, nofun⟩ refused
    | some key =>
      have own := plain key List.mem_cons_self
      obtain ⟨filled, zero, bar⟩ := keyText_plain own
      have token : keysFrom (turns + 2) (front ++ (keyText key ++ 0 :: more)) front.length
          saveptr valKeySp vk = keyLoop (turns + 2) (front ++ (keyText key ++ 0 :: more))
            (some front.length) none valKeySp vk := by
        rw [keysFrom, tokenize_last filled zero bar]
        rfl
      have body : keysBody [] (some key) = keyText key := rfl
      rw [body, token]
      by_cases here : vk.length < maxKvDepth ∧ key.2 ≠ []
      · obtain ⟨name, value⟩ := stringAt_key own front more
        refine ⟨fun _ => ⟨key.1 ++ 0 :: key.2, [(front.length, front.length + key.1.length + 1)],
          ?_, ?_, ?_⟩, fun refused => ?_⟩
        · rw [(keyLoop_turn _ _ _ _ _ own here.1).2 here.2, tokenize_none]
          simp [keyLoop]
        · simp [keyText]
        · have same : front ++ (key.1 ++ 0 :: key.2 ++ 0 :: more) =
              front ++ (key.1 ++ 0 :: (key.2 ++ 0 :: more)) := by
            simp
          rw [same, readKeys, List.map_cons, name, value]
          rfl
        · have readable : ReadableKeys vk.length [key] :=
            readableKeys_cons.mpr ⟨here, here.1, nofun⟩
          exact absurd readable refused
      · refine ⟨fun readable => absurd (readableKeys_cons.mp readable).1 here, fun _ => ?_⟩
        exact keyLoop_stuck own here
  | cons key keys ih =>
    obtain ⟨own, others⟩ := List.forall_mem_cons.mp plain
    obtain ⟨turns, rfl⟩ := Nat.exists_eq_succ_of_ne_zero (Nat.ne_zero_of_lt enough)
    obtain ⟨filled, zero, bar⟩ := keyText_plain own
    have zeros : (0 : UInt8) ∉ keyText key ++ 124 :: keysBody keys last := by
      rw [← keysBody_cons]
      exact keysBody_zero plain
    have token : keysFrom (turns + 1) (front ++ (keysBody (key :: keys) last ++ 0 :: more))
        front.length saveptr valKeySp vk = keyLoop (turns + 1)
          (front ++ (keyText key ++ 0 :: (keysBody keys last ++ 0 :: more))) (some front.length)
          (some (front.length + (keyText key).length)) valKeySp vk := by
      rw [keysFrom, keysBody_cons, tokenize_word filled zeros bar]
      rfl
    have size : (keysBody (key :: keys) last).length =
        key.1.length + key.2.length + 2 + (keysBody keys last).length := by
      rw [keysBody_cons, List.length_append, List.length_cons, keyText, List.length_append,
        List.length_cons]
      omega
    rw [token, size]
    refine keysRead_cons own (fun room value => ?_) (keyLoop_stuck own)
    have whole : front ++ (key.1 ++ 0 :: (key.2 ++ 0 :: (keysBody keys last ++ 0 :: more))) =
        front ++ (key.1 ++ 0 :: (key.2 ++ [0])) ++ (keysBody keys last ++ 0 :: more) := by
      simp
    have place : front.length + (keyText key).length + 1 =
        (front ++ (key.1 ++ 0 :: (key.2 ++ [0]))).length := by
      simp only [keyText, List.length_append, List.length_cons, List.length_nil]
      omega
    rw [(keyLoop_turn _ _ _ _ _ own room).2 value, tokenize_saved, whole, place]
    exact ih _ _ _ _ others (Nat.lt_of_succ_lt_succ enough) (by rw [List.length_append]; exact room)

end Keys

section Nodes

variable {name : List UInt8} {keys : List (List UInt8 × List UInt8)}
  {last : Option (List UInt8 × List UInt8)}

private theorem segmentNode_name (front more : List UInt8) (bar : (124 : UInt8) ∉ name)
    (zero : (0 : UInt8) ∉ name) : segmentNode (front ++ (name ++ 0 :: more)) front.length =
      some (front ++ (name ++ 0 :: more), some ⟨name, []⟩) := by
  have absent : firstAt [124] name = none := by
    rw [firstAt_eq_none, List.singleton_infix_iff]
    exact bar
  rw [segmentNode, stringAt_word zero, if_pos absent]

theorem segmentNode_keys (front more : List UInt8) (plainName : PlainName name)
    (some_ : keys ++ last.toList ≠ []) (plain : ∀ key ∈ keys ++ last.toList, PathKey key) :
    (ReadableKeys 0 (keys ++ last.toList) → ∃ cut,
      segmentNode (front ++ (name ++ 124 :: keysBody keys last ++ 0 :: more)) front.length =
        some (front ++ (cut ++ 0 :: more), some ⟨name, keys ++ last.toList⟩) ∧
      cut.length = (name ++ 124 :: keysBody keys last).length) ∧
    (¬ ReadableKeys 0 (keys ++ last.toList) → ∀ mem node,
      segmentNode (front ++ (name ++ 124 :: keysBody keys last ++ 0 :: more)) front.length =
        some (mem, node) → node = none) := by
  have zeros : (0 : UInt8) ∉ name ++ 124 :: keysBody keys last := by
    rw [List.mem_append, List.mem_cons, not_or, not_or]
    exact ⟨plainName.zero, by decide, keysBody_zero plain⟩
  have marked : firstAt [124] (name ++ 124 :: keysBody keys last) ≠ none := by
    rw [firstAt_singleton plainName.bar]
    exact Option.some_ne_none _
  obtain ⟨split, place⟩ := behind front name 0 (keysBody keys last ++ 0 :: more)
  have enough : keys.length + 1 <
      (front ++ (name ++ 124 :: keysBody keys last ++ 0 :: more)).length + 1 := by
    have least := length_le_keysBody keys last
    simp only [List.length_append, List.length_cons]
    omega
  obtain ⟨reads, fails⟩ := keysFrom_read (front ++ name ++ [0]) more
    (some (front.length + name.length)) none [] plain enough (Nat.zero_le _)
  have given : nconfUcclientGetInstanceKeys
      (front ++ (name ++ 124 :: keysBody keys last ++ 0 :: more)) front.length =
        (keysFrom ((front ++ (name ++ 124 :: keysBody keys last ++ 0 :: more)).length + 1)
          (front ++ name ++ [0] ++ (keysBody keys last ++ 0 :: more)) (front ++ name ++ [0]).length
          (some (front.length + name.length)) none []).map fun read =>
            (read.1, some front.length, read.2) := by
    rw [nconfUcclientGetInstanceKeys, tokenize_word plainName.filled zeros plainName.bar, keysFrom]
    simp only [Option.bind_eq_bind, Option.bind_some, tokenize_saved, split, place]
    cases nconfUcclientTokenizeXpath (front ++ name ++ [0] ++ (keysBody keys last ++ 0 :: more))
        (some (front ++ name ++ [0]).length) 124 (some (front.length + name.length)) with
    | none => rfl
    | some token => exact Option.map_eq_bind.symm
  rw [segmentNode, stringAt_word zeros, if_neg marked, given]
  constructor
  · intro readable
    obtain ⟨cut, found, result, length, keysOf⟩ := reads readable
    have whole : front ++ name ++ [0] ++ (cut ++ 0 :: more) =
        front ++ (name ++ 0 :: (cut ++ 0 :: more)) := by
      simp
    have filled : found ≠ [] := by
      rintro rfl
      exact some_ keysOf.symm
    rw [whole] at result keysOf
    refine ⟨name ++ 0 :: cut, ?_, ?_⟩
    · rw [result]
      simp only [Option.map_some, Option.bind_eq_bind, Option.bind_some, List.nil_append,
        if_neg filled, stringAt_word plainName.zero, List.append_assoc, List.cons_append]
      rw [← keysOf]
      rfl
    · rw [List.length_append, List.length_cons, length, List.length_append, List.length_cons]
  · intro refused mem node result
    cases found : keysFrom ((front ++ (name ++ 124 :: keysBody keys last ++ 0 :: more)).length + 1)
        (front ++ name ++ [0] ++ (keysBody keys last ++ 0 :: more)) (front ++ name ++ [0]).length
        (some (front.length + name.length)) none [] with
    | none =>
      rw [found] at result
      cases result
    | some read =>
      have none_ := fails refused read.1 read.2 found
      rw [found] at result
      simp only [Option.map_some, Option.bind_eq_bind, Option.bind_some, if_pos none_] at result
      cases result
      rfl

end Nodes

def CleanNode (node : PathNode) : Prop :=
  PlainName node.name ∧ ∀ key ∈ node.keys, PathKey key

def Splittable (node : PathNode) : Prop :=
  ReadableKeys 0 node.keys ∧ ∀ key ∈ node.keys, (47 : UInt8) ∉ key.2

def nodeText (node : PathNode) : List UInt8 := node.name ++ pathKeysText node.keys

section Segments

variable {node : PathNode} {nodes rest : List PathNode} {front more : List UInt8}
  {keys : List (List UInt8 × List UInt8)} {saveptr : Option Nat} {turns : Nat}

theorem pathKeysText_body (filled : keys ≠ []) : pathKeysText keys = 124 :: keysBody keys none := by
  rw [pathKeysText, if_neg filled]
  simp [keysBody, keyText]

theorem nodeText_zero (clean : CleanNode node) : (0 : UInt8) ∉ nodeText node := by
  rw [nodeText, List.mem_append, not_or]
  refine ⟨clean.1.zero, ?_⟩
  by_cases empty : node.keys = []
  · rw [empty]
    exact List.not_mem_nil
  · rw [pathKeysText_body empty, List.mem_cons, not_or]
    have plain : ∀ key ∈ node.keys ++ (none : Option (List UInt8 × List UInt8)).toList,
        PathKey key := by
      simpa using clean.2
    exact ⟨by decide, keysBody_zero plain⟩

theorem nodesText_zero (clean : ∀ node ∈ nodes, CleanNode node) :
    (0 : UInt8) ∉ nodesText nodes := by
  induction nodes with
  | nil => exact List.not_mem_nil
  | cons node nodes ih =>
    obtain ⟨own, others⟩ := List.forall_mem_cons.mp clean
    rw [nodesText_cons, List.mem_cons, List.mem_append, not_or, not_or]
    exact ⟨by decide, nodeText_zero own, ih others⟩

theorem nodeText_slash (clean : CleanNode node) (whole : ∀ key ∈ node.keys, (47 : UInt8) ∉ key.2) :
    (47 : UInt8) ∉ nodeText node := by
  rw [nodeText, List.mem_append, not_or]
  refine ⟨clean.1.slash, ?_⟩
  by_cases empty : node.keys = []
  · rw [empty]
    exact List.not_mem_nil
  · rw [pathKeysText, if_neg empty, List.mem_cons, List.mem_flatMap, not_or]
    refine ⟨by decide, ?_⟩
    rintro ⟨key, member, inside⟩
    have name := (clean.2 key member).1.slash
    have value := whole key member
    simp [name, value] at inside

theorem segmentNode_node (clean : CleanNode node) (front more : List UInt8) :
    (ReadableKeys 0 node.keys → ∃ cut,
      segmentNode (front ++ (nodeText node ++ 0 :: more)) front.length =
        some (front ++ (cut ++ 0 :: more), some node) ∧ cut.length = (nodeText node).length) ∧
    (¬ ReadableKeys 0 node.keys → ∀ mem found,
      segmentNode (front ++ (nodeText node ++ 0 :: more)) front.length = some (mem, found) →
        found = none) := by
  by_cases empty : node.keys = []
  · have bare : nodeText node = node.name := by
      rw [nodeText, empty]
      exact List.append_nil _
    have same : node = ⟨node.name, []⟩ := by rw [← empty]
    refine ⟨fun _ => ⟨node.name, ?_, by rw [bare]⟩, fun refused => ?_⟩
    · rw [bare, segmentNode_name _ _ clean.1.bar clean.1.zero, ← same]
    · rw [empty] at refused
      exact absurd ⟨Nat.zero_le _, nofun⟩ refused
  · have plain : ∀ key ∈ node.keys ++ (none : Option (List UInt8 × List UInt8)).toList,
        PathKey key := by
      simpa using clean.2
    have given := segmentNode_keys front more clean.1 (by simpa using empty) plain
    rw [← pathKeysText_body empty, ← nodeText, Option.toList_none, List.append_nil] at given
    exact given

def segmentsFrom (turns : Nat) (mem : List UInt8) (start : Nat) (saveptr : Option Nat) :
    Option (Option (List PathNode)) := do
  let (mem, pathSegment, containerSp) ← nconfUcclientTokenizeXpath mem (some start) 47 saveptr
  segmentLoop turns mem pathSegment containerSp

theorem first_slash (inside : ∃ key ∈ keys, (47 : UInt8) ∈ key.2) :
    ∃ before name value behind later, keys = before ++ (name, value ++ 47 :: behind) :: later ∧
      (∀ key ∈ before, (47 : UInt8) ∉ key.2) ∧ (47 : UInt8) ∉ value := by
  induction keys with
  | nil => exact absurd inside nofun
  | cons key keys ih =>
    by_cases here : (47 : UInt8) ∈ key.2
    · obtain ⟨value, behind, same, absent⟩ := List.eq_append_cons_of_mem here
      refine ⟨[], key.1, value, behind, keys, ?_, nofun, absent⟩
      rw [← same]
      rfl
    · have others : ∃ key ∈ keys, (47 : UInt8) ∈ key.2 := by
        obtain ⟨other, member, found⟩ := inside
        rcases List.mem_cons.mp member with rfl | member
        · exact absurd found here
        · exact ⟨other, member, found⟩
      obtain ⟨before, name, value, behind, later, rfl, whole, absent⟩ := ih others
      exact ⟨key :: before, name, value, behind, later, rfl,
        List.forall_mem_cons.mpr ⟨here, whole⟩, absent⟩

theorem map_cons_iff :
    (others.map fun nodes => nodes.map (found :: ·)) = some (some (node :: rest)) ↔
      found = node ∧ others = some (some rest) := by
  rcases others with _ | _ | nodes <;> simp

def segmentsAfter (turns : Nat) (mem : List UInt8) (saveptr : Option Nat) :
    Option (Option (List PathNode)) := do
  let (mem, pathSegment, containerSp) ←
    nconfUcclientTokenizeXpath (restore mem saveptr 47) none 47 saveptr
  segmentLoop turns mem pathSegment containerSp

theorem segmentLoop_node {mem mem' : List UInt8} {segment : Nat}
    (given : segmentNode mem segment = some (mem', some node)) :
    segmentLoop (turns + 1) mem (some segment) saveptr =
      (segmentsAfter turns mem' saveptr).map fun nodes => nodes.map (node :: ·) := by
  simp only [segmentLoop, segmentsAfter, given, Option.bind_eq_bind, Option.bind_some]
  cases nconfUcclientTokenizeXpath (restore mem' saveptr 47) none 47 saveptr with
  | none => rfl
  | some token => exact Option.map_eq_bind.symm

theorem segmentLoop_failed {mem : List UInt8} {segment : Nat}
    (failed : ∀ mem' found, segmentNode mem segment = some (mem', found) → found = none) :
    segmentLoop (turns + 1) mem (some segment) saveptr ≠ some (some nodes) := by
  simp only [segmentLoop, Option.bind_eq_bind]
  cases given : segmentNode mem segment with
  | none => simp
  | some result =>
    have none_ := failed result.1 result.2 given
    simp [none_]

theorem segmentsFrom_slash (clean : ∀ other ∈ node :: rest, CleanNode other)
    (inside : ∃ key ∈ node.keys, (47 : UInt8) ∈ key.2) :
    segmentsFrom (turns + 1) (front ++ (nodeText node ++ nodesText rest ++ 0 :: more)) front.length
      saveptr ≠ some (some (node :: rest)) := by
  obtain ⟨before, name, value, behind, later, split, whole, absent⟩ := first_slash inside
  have own := (List.forall_mem_cons.mp clean).1
  have member : (name, value ++ 47 :: behind) ∈ node.keys := by
    rw [split]
    exact List.mem_append_right _ List.mem_cons_self
  obtain ⟨plainName, zero, bar⟩ := own.2 _ member
  have plain : ∀ key ∈ before ++ (some (name, value)).toList, PathKey key := by
    refine List.forall_mem_append.mpr ⟨fun key earlier => own.2 key ?_, ?_⟩
    · rw [split]
      exact List.mem_append_left _ earlier
    · refine List.forall_mem_singleton.mpr ⟨plainName, ?_, ?_⟩
      · exact fun zeros => zero (List.mem_append_left _ zeros)
      · exact fun bars => bar (List.mem_append_left _ bars)
  have filled : node.keys ≠ [] := List.ne_nil_of_mem member
  obtain ⟨tail, text⟩ : ∃ tail, nodeText node ++ nodesText rest =
      (node.name ++ 124 :: keysBody before (some (name, value))) ++ 47 :: tail := by
    refine ⟨behind ++ 124 :: (keysBody later none ++ nodesText rest), ?_⟩
    rw [nodeText, pathKeysText_body filled, split]
    simp [keysBody, keyText]
  have zeros : (0 : UInt8) ∉
      (node.name ++ 124 :: keysBody before (some (name, value))) ++ 47 :: tail := by
    have all := nodesText_zero clean
    rw [nodesText_cons, ← nodeText, text] at all
    exact fun inside => all (List.mem_cons_of_mem _ inside)
  have slashes : (47 : UInt8) ∉ node.name ++ 124 :: keysBody before (some (name, value)) := by
    have shortened : CleanNode ⟨node.name, before ++ [(name, value)]⟩ := ⟨own.1, plain⟩
    have outside := nodeText_slash shortened
      (List.forall_mem_append.mpr ⟨whole, List.forall_mem_singleton.mpr absent⟩)
    have longer : nodeText ⟨node.name, before ++ [(name, value)]⟩ =
        node.name ++ 124 :: keysBody before (some (name, value)) ++ [124] := by
      rw [nodeText, pathKeysText_body (List.append_ne_nil_of_right_ne_nil _ (List.cons_ne_nil _ _))]
      simp [keysBody]
    rw [longer] at outside
    exact fun inside => outside (List.mem_append_left _ inside)
  have some_ : node.name ++ 124 :: keysBody before (some (name, value)) ≠ [] :=
    List.append_ne_nil_of_right_ne_nil _ (List.cons_ne_nil _ _)
  obtain ⟨reads, fails⟩ := segmentNode_keys front (tail ++ 0 :: more) own.1 (by simp) plain
  rw [segmentsFrom, text, tokenize_word some_ zeros slashes]
  simp only [Option.bind_eq_bind, Option.bind_some]
  by_cases readable : ReadableKeys 0 (before ++ (some (name, value)).toList)
  · obtain ⟨cut, given, _⟩ := reads readable
    rw [segmentLoop_node given]
    intro same
    have keys := congrArg PathNode.keys (map_cons_iff.mp same).1
    rw [split] at keys
    have first := List.append_cancel_left keys
    simp at first
  · exact segmentLoop_failed (fails readable)

theorem segmentsFrom_node (clean : CleanNode node)
    (whole : ∀ key ∈ node.keys, (47 : UInt8) ∉ key.2) (front more : List UInt8)
    (others : ∀ other ∈ rest, CleanNode other)
    (later : ∀ next after, rest = next :: after → ∀ (front more : List UInt8) saveptr,
      segmentsFrom turns (front ++ (nodeText next ++ nodesText after ++ 0 :: more)) front.length
        saveptr = some (some rest) ↔ ∀ other ∈ rest, Splittable other) (positive : 0 < turns) :
    segmentsFrom (turns + 1) (front ++ (nodeText node ++ nodesText rest ++ 0 :: more)) front.length
      saveptr = some (some (node :: rest)) ↔ ∀ other ∈ node :: rest, Splittable other := by
  have zero := nodeText_zero clean
  have slash := nodeText_slash clean whole
  have filled : nodeText node ≠ [] := List.append_ne_nil_of_left_ne_nil clean.1.filled _
  rw [List.forall_mem_cons]
  cases rest with
  | nil =>
    have text : nodeText node ++ nodesText [] = nodeText node := List.append_nil _
    obtain ⟨reads, fails⟩ := segmentNode_node clean front more
    rw [text, segmentsFrom, tokenize_last filled zero slash]
    simp only [Option.bind_eq_bind, Option.bind_some]
    by_cases readable : ReadableKeys 0 node.keys
    · obtain ⟨cut, given, _⟩ := reads readable
      obtain ⟨turns, rfl⟩ := Nat.exists_eq_succ_of_ne_zero (Nat.ne_of_gt positive)
      rw [segmentLoop_node given]
      exact iff_of_true rfl ⟨⟨readable, whole⟩, nofun⟩
    · exact iff_of_false (segmentLoop_failed (fails readable)) fun fine => readable fine.1.1
  | cons next after =>
    have zeros : (0 : UInt8) ∉ nodeText node ++ 47 :: (nodeText next ++ nodesText after) := by
      have behind_ := nodesText_zero others
      rw [List.mem_append, not_or]
      exact ⟨zero, behind_⟩
    obtain ⟨reads, fails⟩ :=
      segmentNode_node clean front (nodeText next ++ nodesText after ++ 0 :: more)
    rw [nodesText_cons, ← nodeText, segmentsFrom, tokenize_word filled zeros slash]
    simp only [Option.bind_eq_bind, Option.bind_some]
    by_cases readable : ReadableKeys 0 node.keys
    · obtain ⟨cut, given, length⟩ := reads readable
      have back : restore (front ++ (cut ++ 0 :: (nodeText next ++ nodesText after ++ 0 :: more)))
          (some (front.length + (nodeText node).length)) 47 =
            (front ++ cut ++ [47]) ++ (nodeText next ++ nodesText after ++ 0 :: more) := by
        rw [restore, Option.map_some, Option.getD_some, ← length,
          List.set_append_right _ _ (Nat.le_add_right _ _), Nat.add_sub_cancel_left,
          List.set_append_right _ _ (Nat.le_refl _), Nat.sub_self]
        simp
      have place : front.length + (nodeText node).length + 1 = (front ++ cut ++ [47]).length := by
        simp only [List.length_append, List.length_cons, List.length_nil, length]
      have further := later next after rfl (front ++ cut ++ [47]) more
        (some (front.length + (nodeText node).length))
      rw [segmentLoop_node given, map_cons_iff, segmentsAfter, back, tokenize_saved, place]
      exact ⟨fun both => ⟨⟨readable, whole⟩, further.mp both.2⟩,
        fun both => ⟨rfl, further.mpr both.2⟩⟩
    · exact iff_of_false (segmentLoop_failed (fails readable)) fun fine => readable fine.1.1

variable (clean : ∀ other ∈ node :: rest, CleanNode other)
include clean

theorem segmentsFrom_turn
    (later : ∀ next after, rest = next :: after → ∀ (front more : List UInt8) saveptr,
      segmentsFrom turns (front ++ (nodeText next ++ nodesText after ++ 0 :: more)) front.length
        saveptr = some (some rest) ↔ ∀ other ∈ rest, Splittable other) (positive : 0 < turns) :
    segmentsFrom (turns + 1) (front ++ (nodeText node ++ nodesText rest ++ 0 :: more)) front.length
      saveptr = some (some (node :: rest)) ↔ ∀ other ∈ node :: rest, Splittable other := by
  obtain ⟨own, others⟩ := List.forall_mem_cons.mp clean
  by_cases whole : ∀ key ∈ node.keys, (47 : UInt8) ∉ key.2
  · exact segmentsFrom_node own whole front more others later positive
  · refine iff_of_false (segmentsFrom_slash clean ?_) fun fine =>
      whole (List.forall_mem_cons.mp fine).1.2
    push Not at whole
    exact whole

theorem segmentsFrom_iff
    (enough : rest.length + 1 < turns) (front more : List UInt8) (saveptr : Option Nat) :
    segmentsFrom turns (front ++ (nodeText node ++ nodesText rest ++ 0 :: more)) front.length
      saveptr = some (some (node :: rest)) ↔ ∀ other ∈ node :: rest, Splittable other := by
  induction rest generalizing node turns front more saveptr with
  | nil =>
    obtain ⟨turns, rfl⟩ := Nat.exists_eq_succ_of_ne_zero (Nat.ne_zero_of_lt enough)
    exact segmentsFrom_turn clean nofun (Nat.lt_of_succ_lt_succ enough)
  | cons next after ih =>
    obtain ⟨turns, rfl⟩ := Nat.exists_eq_succ_of_ne_zero (Nat.ne_zero_of_lt enough)
    have positive := Nat.lt_of_le_of_lt (Nat.zero_le _) (Nat.lt_of_succ_lt_succ enough)
    refine segmentsFrom_turn clean ?_ positive
    rintro _ _ ⟨⟩ front more saveptr
    exact ih (List.forall_mem_cons.mp clean).2 (Nat.lt_of_succ_lt_succ enough) front more saveptr

end Segments

section Paths

variable {module : List UInt8} {top : PathNode} {rest : List PathNode}

theorem tokenize_mark (markFilled : delim ≠ 0) (filled : first ≠ 0) (different : first ≠ delim)
    (front tail : List UInt8) :
    nconfUcclientTokenizeXpath (front ++ delim :: first :: tail) (some front.length) delim none =
      nconfUcclientTokenizeXpath ((front ++ [delim]) ++ first :: tail)
        (some (front ++ [delim]).length) delim none := by
  have whole : front ++ delim :: first :: tail = (front ++ [delim]) ++ first :: tail := by simp
  have here : (front ++ delim :: first :: tail)[front.length]? = some delim := by
    rw [List.getElem?_append_right (Nat.le_refl _), Nat.sub_self]
    rfl
  have next : ((front ++ [delim]) ++ first :: tail)[(front ++ [delim]).length]? = some first := by
    rw [List.getElem?_append_right (Nat.le_refl _), Nat.sub_self]
    rfl
  have place : (front ++ [delim]).length = front.length + 1 := List.length_append
  rw [nconfUcclientTokenizeXpath, nconfUcclientTokenizeXpath]
  simp only [Option.some_or, here, next, Option.bind_eq_bind, Option.bind_some, if_neg markFilled,
    if_neg filled, if_neg different, if_true]
  rw [whole, place]

theorem containerNodes_next {next : PathNode} {after : List PathNode} (plain : PlainName top.name)
    (clean : ∀ node ∈ next :: after, CleanNode node) (front : List UInt8) :
    containerNodes (front ++ (top.name ++ nodesText (next :: after) ++ [0])) front.length =
      (segmentsFrom ((front ++ (top.name ++ nodesText (next :: after) ++ [0])).length + 1)
        ((front ++ top.name ++ [47]) ++ (nodeText next ++ nodesText after ++ 0 :: []))
        (front ++ top.name ++ [47]).length none).map
          fun nodes => nodes.map ((⟨top.name, []⟩ : PathNode) :: ·) := by
  have all := nodesText_zero clean
  have own := (List.forall_mem_cons.mp clean).1.1
  obtain ⟨first, name, filled⟩ := List.exists_cons_of_ne_nil own.filled
  have nextText : nodeText next = first :: (name ++ pathKeysText next.keys) := by
    rw [nodeText, filled]
    rfl
  have notZero : first ≠ 0 := by
    rintro rfl
    exact own.zero (filled ▸ List.mem_cons_self)
  have notMark : first ≠ 47 := by
    rintro rfl
    exact own.slash (filled ▸ List.mem_cons_self)
  rw [nodesText_cons, ← nodeText] at all ⊢
  have zeros : (0 : UInt8) ∉ top.name ++ 47 :: (nodeText next ++ nodesText after) := by
    rw [List.mem_append, not_or]
    exact ⟨plain.zero, all⟩
  have memory : front ++ (top.name ++ 47 :: (nodeText next ++ nodesText after) ++ [0]) =
      (front ++ top.name) ++ 47 :: first ::
        (name ++ pathKeysText next.keys ++ nodesText after ++ [0]) := by
    simp [nextText]
  have cut : restore (front ++ (top.name ++ 47 :: (nodeText next ++ nodesText after) ++ [0]))
      (some (front.length + top.name.length)) 0 =
        front ++ (top.name ++ 0 :: (nodeText next ++ nodesText after ++ [0])) := by
    rw [restore, Option.map_some, Option.getD_some,
      List.set_append_right _ _ (Nat.le_add_right _ _), Nat.add_sub_cancel_left, List.append_assoc,
      List.set_append_right _ _ (Nat.le_refl _), Nat.sub_self]
    rfl
  have place : front.length + top.name.length = (front ++ top.name).length :=
    List.length_append.symm
  rw [containerNodes, strstr_mark zeros plain.slash front []]
  simp only [Option.bind_eq_bind, Option.bind_some, cut]
  rw [stringAt_word plain.zero, memory, place, tokenize_mark (by decide) notZero notMark,
    segmentsFrom, nextText]
  simp only [List.append_assoc, List.cons_append, Option.bind_eq_bind]
  cases nconfUcclientTokenizeXpath _ _ 47 none with
  | none => rfl
  | some token => exact Option.map_eq_bind.symm

private theorem length_le_nodesText (nodes : List PathNode) : nodes.length ≤ (nodesText nodes).length := by
  induction nodes with
  | nil => exact Nat.le_refl 0
  | cons node nodes ih =>
    rw [nodesText_cons, List.length_cons, List.length_cons, List.length_append]
    omega

theorem containerNodes_iff (topPlain : CleanNode top) (clean : ∀ node ∈ rest, CleanNode node)
    (front : List UInt8) :
    containerNodes (front ++ (nodeText top ++ nodesText rest ++ [0])) front.length =
        some (some (top :: rest)) ↔ top.keys = [] ∧ ∀ node ∈ rest, Splittable node := by
  by_cases bare : top.keys = []
  · have text : nodeText top = top.name := by
      rw [nodeText, bare]
      exact List.append_nil _
    have same : (⟨top.name, []⟩ : PathNode) = top := by rw [← bare]
    rw [text]
    cases rest with
    | nil =>
      refine iff_of_true ?_ ⟨bare, nofun⟩
      have memory : front ++ (top.name ++ nodesText [] ++ [0]) =
          front ++ (top.name ++ 0 :: []) := by
        simp [nodesText]
      rw [memory, containerNodes, strstr_absent topPlain.1.zero topPlain.1.slash]
      simp only [Option.bind_eq_bind, Option.bind_some, tokenize_none, segmentLoop]
      rw [restore, Option.map_none, Option.getD_none, stringAt_word topPlain.1.zero, same]
      rfl
    | cons next after =>
      have count := length_le_nodesText (next :: after)
      have enough : after.length + 1 <
          (front ++ (top.name ++ nodesText (next :: after) ++ [0])).length + 1 := by
        simp only [List.length_append, List.length_cons] at count ⊢
        omega
      rw [containerNodes_next topPlain.1 clean, same, map_cons_iff, segmentsFrom_iff clean enough]
      exact (and_iff_right rfl).trans (and_iff_right bare).symm
  · refine iff_of_false ?_ fun fine => bare fine.1
    intro found
    rw [containerNodes] at found
    simp only [Option.bind_eq_bind, Option.bind_eq_some_iff, Option.some.injEq] at found
    obtain ⟨_, _, _, _, nodes, _, given⟩ := found
    obtain ⟨_, _, given⟩ := Option.map_eq_some_iff.mp given
    rw [← (List.cons.inj given).1] at bare
    exact bare rfl

theorem insertNewCfgNodes_iff (plain : PlainName module) (topPlain : CleanNode top)
    (clean : ∀ node ∈ rest, CleanNode node) :
    nconfUcclientInsertNewCfgNodes (47 :: (module ++ nodesText (top :: rest)) ++ [0]) =
        some (some (top :: rest)) ↔ top.keys = [] ∧ ∀ node ∈ rest, Splittable node := by
  have zeros : (0 : UInt8) ∉ module ++ 47 :: (nodeText top ++ nodesText rest) := by
    have all := nodesText_zero (List.forall_mem_cons.mpr ⟨topPlain, clean⟩)
    rw [List.mem_append, not_or]
    exact ⟨plain.zero, all⟩
  have text : 47 :: (module ++ nodesText (top :: rest)) ++ [0] =
      [47] ++ (module ++ 47 :: (nodeText top ++ nodesText rest) ++ 0 :: []) := by
    rw [nodesText_cons, ← nodeText]
    simp
  have memory : [47] ++ (module ++ 47 :: (nodeText top ++ nodesText rest) ++ 0 :: []) =
      ([47] ++ module ++ [47]) ++ (nodeText top ++ nodesText rest ++ [0]) := by
    simp
  have first := strstr_mark zeros plain.slash [47] []
  obtain ⟨_, place⟩ := behind [47] module 47 []
  rw [List.length_singleton] at first place
  rw [text, nconfUcclientInsertNewCfgNodes, first]
  simp only [Option.bind_eq_bind, Option.bind_some]
  rw [place, memory]
  exact containerNodes_iff topPlain clean _

/-- A printed path whose values have no bar is split into its nodes exactly when the node at its top
is no list, and the keys of every other list are not too many, with values that are not empty and
have no slash. -/
theorem printed_path_split (tables : KeyTables) (kvs : List (List UInt8)) (module first : UInt8)
    (rest : List UInt8) (bars : ∀ node ∈ tables.pathNodes kvs module first rest, ∀ key ∈ node.keys,
      (124 : UInt8) ∉ key.2) : nconfUcclientInsertNewCfgNodes
        (tables.yangDbRuntimeApkv2keyvkstr kvs module first rest ++ [0]) =
        some (some (tables.pathNodes kvs module first rest)) ↔
      (∀ top ∈ (tables.pathNodes kvs module first rest).head?, top.keys = []) ∧
        ∀ node ∈ (tables.pathNodes kvs module first rest).tail, Splittable node := by
  have clean : ∀ node ∈ tables.pathNodes kvs module first rest, CleanNode node := by
    intro node member
    obtain ⟨name, keys⟩ := pathNodes_plain module first rest node member
    exact ⟨name, fun key inside => ⟨(keys key inside).1, (keys key inside).2,
      bars node member key inside⟩⟩
  rw [apkv2keyvkstr_eq]
  obtain ⟨top, nodes, path⟩ :=
    List.exists_cons_of_ne_nil (pathNodes_ne_nil tables kvs module first rest)
  rw [path] at clean ⊢
  obtain ⟨topClean, others⟩ := List.forall_mem_cons.mp clean
  rw [insertNewCfgNodes_iff (tables.plain _) topClean others]
  simp

def interfaceTables : KeyTables where
  component
    | [_] => octetsOf "ietf-interfaces"
    | [_, 3] => octetsOf "interfaces"
    | [_, 4] => octetsOf "interface"
    | [_, 5] => octetsOf "name"
    | _ => octetsOf "enabled"
  yangDbRuntimeGetvknum caps := if caps = [20, 3, 4] then 1 else 0
  yangDbRuntimeGetvkvtype caps index :=
    if caps = [20, 3, 4] ∧ index = 0 then some (5, yangVtypeString) else none
  yangValueString _ value _ := some (cstring value)
  plain anums := by
    split <;> exact ⟨by decide, by decide, by decide, by decide, by decide⟩
  string _ value _ := by
    rintro _ ⟨⟩
    exact cstring_zero value

/-- The path of an interface. -/
theorem interface_path_split :
    (∀ node ∈ interfaceTables.pathNodes [octetsOf "eth0" ++ [0]] 20 3 [4, 6], ∀ key ∈ node.keys,
      (124 : UInt8) ∉ key.2) ∧
    (nconfUcclientInsertNewCfgNodes (interfaceTables.yangDbRuntimeApkv2keyvkstr
        [octetsOf "eth0" ++ [0]] 20 3 [4, 6] ++ [0]) =
        some (some (interfaceTables.pathNodes [octetsOf "eth0" ++ [0]] 20 3 [4, 6])) ↔
      (∀ top ∈ (interfaceTables.pathNodes [octetsOf "eth0" ++ [0]] 20 3 [4, 6]).head?,
        top.keys = []) ∧
        ∀ node ∈ (interfaceTables.pathNodes [octetsOf "eth0" ++ [0]] 20 3 [4, 6]).tail,
          Splittable node) :=
  ⟨by decide, printed_path_split interfaceTables [octetsOf "eth0" ++ [0]] 20 3 [4, 6] (by decide)⟩

/-- The name of an interface with a slash. -/
theorem slash_in_key_not_split :
    (∀ node ∈ interfaceTables.pathNodes [octetsOf "eth0/1" ++ [0]] 20 3 [4, 6],
      ∀ key ∈ node.keys, (124 : UInt8) ∉ key.2) ∧
    nconfUcclientInsertNewCfgNodes (interfaceTables.yangDbRuntimeApkv2keyvkstr
        [octetsOf "eth0/1" ++ [0]] 20 3 [4, 6] ++ [0]) ≠
      some (some (interfaceTables.pathNodes [octetsOf "eth0/1" ++ [0]] 20 3 [4, 6])) := by
  exact ⟨by decide, by decide +kernel⟩

end Paths

end EnetTsn.Netconf
