import EnetTsn.Uniconf.KeyCodec

namespace EnetTsn.Uniconf

open EnetTsn.Library

def StandsFor (pointer : Option (List UInt8)) (path : List UInt8) : Prop :=
  apter ∉ path ∧ (pointer = none ∧ path = [] ∨ ∃ more, pointer = some (path ++ apter :: more))

structure KeyFits (path : List UInt8) (kvs : List ValueKey) : Prop where
  count : kvs.length ≤ ucMaxValuekeys
  filled : ∀ kv ∈ kvs, kv.octets ≠ []
  size : path.length + 1 + kvsSize kvs ≤ ucMaxKeysize

def HasMemory (getmem : KeyMemory) : Prop :=
  ∀ turn size, 0 < size → size < 256 → getmem turn size = true

/-- A key is taken apart to a path and value keys, of which the last one is found. -/
structure KeyDecodes (getmem : KeyMemory) (key path : List UInt8) (kvs : List ValueKey) : Prop where
  extracted : ∃ result, yangDbExtractKey getmem (some key) = some result ∧ result.res = 0 ∧
    result.ap = some (path ++ [apter]) ∧ result.kvs = kvs.map ValueKey.octets ∧
    result.kss.take kvs.length = kvs.map ValueKey.kss
  bottom : match kvs.getLast? with
    | none => yangDbKeyBottomp key = some none
    | some last => ∃ place, yangDbKeyBottomp key = some (some place) ∧
        key.drop place = last.kss :: last.octets

section Created

variable {pap ap : Option (List UInt8)} {front path : List UInt8} {kvs : List ValueKey}
  {getmem : KeyMemory}

theorem StandsFor.length (stands : StandsFor pap front) :
    (pap.map pathLength).getD (some 0) = some front.length ∧
      (pap.getD []).take front.length = front := by
  obtain ⟨clean, ⟨rfl, rfl⟩ | ⟨more, rfl⟩⟩ := stands
  · exact ⟨rfl, rfl⟩
  · exact ⟨pathLength_clean clean more, List.take_left' rfl⟩

theorem StandsFor.terminated (stands : StandsFor ap path) :
    (ap.map fun octets => (pathLength octets).map (· + 1)).getD (some 1) = some (path.length + 1) ∧
      (ap.getD [apter]).take (path.length + 1) = path ++ [apter] := by
  obtain ⟨clean, ⟨rfl, rfl⟩ | ⟨more, rfl⟩⟩ := stands
  · exact ⟨rfl, rfl⟩
  · refine ⟨?_, (split_path path more).1⟩
    rw [Option.map_some, pathLength_clean clean more]
    rfl

theorem createKey_fits (first : StandsFor pap front) (second : StandsFor ap path)
    (fits : KeyFits (front ++ path) kvs) :
    yangDbCreateKey pap ap kvs = some (front ++ path ++ apter :: encodeKvs kvs) := by
  have size := fits.size
  rw [List.length_append] at size
  have room : ¬ (front.length + (path.length + 1) + kvsSize kvs = 0 ∨
      ucMaxKeysize < front.length + (path.length + 1) + kvsSize kvs) := by omega
  rw [yangDbCreateKey, first.length.1, second.terminated.1]
  simp only [Option.bind_eq_bind, Option.bind_some]
  rw [if_neg room, first.length.2, second.terminated.2]
  simp only [List.append_assoc, List.singleton_append]

theorem keyDecodes (clean : apter ∉ path) (fits : KeyFits path kvs) (memory : HasMemory getmem) :
    KeyDecodes getmem (path ++ apter :: encodeKvs kvs) path kvs := by
  have count := fits.count
  have size := fits.size
  have few := length_le_kvsSize kvs
  have length := length_encodeKvs kvs
  obtain ⟨start, rest⟩ := split_path path (encodeKvs kvs)
  constructor
  · have block : ¬ getmem 0 (path.length + 1) = false := by
      rw [memory 0 _ (Nat.succ_pos _) (by rw [ucMaxKeysize] at size; omega)]
      exact Bool.noConfusion
    have whole : (path ++ apter :: encodeKvs kvs ++ [apter]).take (path.length + 1) =
        path ++ [apter] := by
      rw [List.append_assoc]
      exact (split_path path (encodeKvs kvs ++ [apter])).1
    have counted : countLoop (encodeKvs kvs).length (encodeKvs kvs) = kvs.length :=
      countLoop_encodeKvs _ (by omega)
    rw [yangDbExtractKey]
    simp only [idxOf_clean clean, if_neg block, whole, rest, counted]
    by_cases nothing : kvs.length = 0
    · rw [if_pos nothing, List.length_eq_zero_iff.mp nothing]
      exact ⟨_, rfl, rfl, rfl, rfl, rfl⟩
    · have granted : ∀ turn, ∀ kv ∈ kvs, getmem turn kv.octets.length = true := fun turn kv member =>
        memory turn _ (List.length_pos_iff.mpr (fits.filled kv member)) kv.short
      rw [if_neg nothing, if_neg (Nat.not_lt.mpr count), copyLoop_encodeKvs _ 1 granted]
      refine ⟨_, rfl, rfl, rfl, rfl, ?_⟩
      exact List.take_left' (List.length_map _)
  · have found : yangDbKeyBottomp (path ++ apter :: encodeKvs kvs) =
        some ((bottomLoop (encodeKvs kvs).length 0 (encodeKvs kvs)).map (path.length + 1 + ·)) := by
      rw [yangDbKeyBottomp, pathLength_clean clean]
      simp only [Option.bind_eq_bind, Option.bind_some, rest]
    rcases List.eq_nil_or_concat' kvs with rfl | ⟨others, last, rfl⟩
    · exact found
    · rw [List.length_append, List.length_singleton] at few
      rw [List.getLast?_concat]
      refine ⟨path.length + 1 + kvsSize others, ?_, ?_⟩
      · rw [found, bottomLoop_encodeKvs _ 0 others last (by omega), Nat.zero_add]
        rfl
      · have tail : encodeKvs (others ++ [last]) = encodeKvs others ++ last.kss :: last.octets := by
          simp [encodeKvs]
        rw [← List.drop_drop, rest, tail]
        exact List.drop_left' (length_encodeKvs others)

theorem ValueKey.ext_octets {first second : ValueKey} (same : first.octets = second.octets) :
    first = second := by
  cases first
  cases second
  cases same
  rfl

private theorem encoding_injective (clean : apter ∉ path) (clean' : apter ∉ path') (fits : KeyFits path kvs)
    (fits' : KeyFits path' kvs')
    (same : path ++ apter :: encodeKvs kvs = path' ++ apter :: encodeKvs kvs') :
    path = path' ∧ kvs = kvs' := by
  have memory : HasMemory fun _ _ => true := fun _ _ _ _ => rfl
  obtain ⟨first, extracted, _, ap, keys, _⟩ := (keyDecodes clean fits memory).extracted
  obtain ⟨second, extracted', _, ap', keys', _⟩ := (keyDecodes clean' fits' memory).extracted
  rw [same, extracted'] at extracted
  cases extracted
  constructor
  · have paths := Option.some.inj (ap.symm.trans ap')
    exact List.append_cancel_right paths
  · exact List.map_injective_iff.mpr (fun _ _ => ValueKey.ext_octets) (keys.symm.trans keys')

end Created

def sizesOf : Nat → List UInt8 → List UInt8
  | fuel + 1, size :: rest => size :: sizesOf fuel (rest.drop size.toNat)
  | _, _ => []

def keyRefused (getmem : KeyMemory) : Nat → List UInt8 → Bool
  | _, [] => false
  | turn, size :: rest => !getmem turn size.toNat || keyRefused getmem (turn + 1) rest

def sizesTotal (sizes : List UInt8) : Nat := (sizes.map fun size => size.toNat + 1).sum

/-- A key that can be taken apart within its octets and the room for its sizes: it has at most
seven value keys, of which the last one does not reach behind its end, unless the request
fails before that matters: the value keys are more than eight, or there is no memory. -/
def Contained (getmem : KeyMemory) (key : Option (List UInt8)) : Prop :=
  ∀ octets ∈ key,
    let rest := octets.drop (octets.idxOf apter + 1)
    let sizes := sizesOf rest.length rest
    getmem 0 (octets.idxOf apter + 1) = false ∨ ucMaxValuekeys < sizes.length ∨
      keyRefused getmem 1 sizes = true ∨
      (sizes.length < ucMaxValuekeys ∧ sizesTotal sizes = rest.length)

section Arbitrary

variable {getmem : KeyMemory} {rest : List UInt8}

private theorem countLoop_eq (fuel : Nat) (rest : List UInt8) :
    countLoop fuel rest = (sizesOf fuel rest).length := by
  induction fuel generalizing rest with
  | zero => rfl
  | succ fuel ih =>
    cases rest with
    | nil => rfl
    | cons size rest => rw [countLoop, sizesOf, List.length_cons, ih]

theorem copyLoop_contained (ap : List UInt8) (fuel turn bound : Nat) (enough : rest.length ≤ fuel)
    (few : (sizesOf fuel rest).length ≤ bound) :
    (∃ result, copyLoop getmem ap (sizesOf fuel rest).length turn rest = some result ∧
        result.kss.length ≤ bound) ↔ keyRefused getmem turn (sizesOf fuel rest) = true ∨
        ((sizesOf fuel rest).length < bound ∧ sizesTotal (sizesOf fuel rest) = rest.length) := by
  induction fuel generalizing rest turn bound with
  | zero =>
    have nothing : rest = [] := List.length_eq_zero_iff.mp (Nat.le_zero.mp enough)
    simp [sizesOf, copyLoop, keyRefused, sizesTotal]
    omega
  | succ fuel ih =>
    cases rest with
    | nil =>
      simp [sizesOf, copyLoop, keyRefused, sizesTotal]
      omega
    | cons size rest =>
      have left := List.length_drop (i := size.toNat) (l := rest)
      have total : sizesTotal (sizesOf (fuel + 1) (size :: rest)) =
        size.toNat + 1 + sizesTotal (sizesOf fuel (rest.drop size.toNat)) := List.sum_cons
      rw [total, sizesOf, List.length_cons, copyLoop, keyRefused, List.length_cons]
      rw [sizesOf, List.length_cons] at few
      rw [List.length_cons] at enough
      by_cases block : getmem turn size.toNat = false
      · rw [if_pos block, block]
        refine iff_of_true ⟨_, rfl, ?_⟩ (.inl rfl)
        exact Nat.le_trans (Nat.le_add_left 1 _) few
      · rw [if_neg block, Bool.not_eq_false _ |>.mp block, Bool.not_true, Bool.false_or]
        by_cases inside : size.toNat ≤ rest.length
        · have value : slice rest 0 size.toNat = some ((rest.drop 0).take size.toNat) :=
            slice_of_le (by omega)
          have sizes : (sizesOf fuel (rest.drop size.toNat)).length + 1 < bound ↔
            (sizesOf fuel (rest.drop size.toNat)).length < bound - 1 := by omega
          have totals : size.toNat + 1 + sizesTotal (sizesOf fuel (rest.drop size.toNat)) =
              rest.length + 1 ↔ sizesTotal (sizesOf fuel (rest.drop size.toNat)) =
                (rest.drop size.toNat).length := by omega
          rw [value, sizes, totals, ← ih (turn + 1) (bound - 1) (by omega) (by omega)]
          simp only [Option.bind_eq_bind, Option.bind_some]
          constructor
          · rintro ⟨result, copied, length⟩
            obtain ⟨inner, done, same⟩ := Option.bind_eq_some_iff.mp copied
            cases same
            refine ⟨inner, done, ?_⟩
            rw [List.length_cons] at length
            omega
          · rintro ⟨inner, done, length⟩
            rw [done]
            refine ⟨_, rfl, ?_⟩
            rw [List.length_cons]
            omega
        · have none : slice rest 0 size.toNat = none := if_neg (by omega)
          have ended : rest.drop size.toNat = [] := List.drop_eq_nil_of_le (by omega)
          have nothing : sizesOf fuel [] = [] := by cases fuel <;> rfl
          rw [none, ended, nothing]
          constructor
          · rintro ⟨result, impossible, _⟩
            cases impossible
          · rintro (impossible | ⟨_, total⟩)
            · cases impossible
            · omega

theorem extractKey_contained (getmem : KeyMemory) (key : Option (List UInt8)) :
    (∃ result, yangDbExtractKey getmem key = some result ∧ result.kss.length ≤ ucMaxValuekeys) ↔
      Contained getmem key := by
  cases key with
  | none => exact iff_of_true ⟨_, rfl, Nat.zero_le _⟩ nofun
  | some key =>
    rw [yangDbExtractKey, Contained]
    simp only [Option.mem_def, Option.some.injEq, forall_eq', countLoop_eq]
    generalize (key ++ [apter]).take (key.idxOf apter + 1) = ap
    generalize key.drop (key.idxOf apter + 1) = rest
    by_cases block : getmem 0 (key.idxOf apter + 1) = false
    · rw [if_pos block]
      exact iff_of_true ⟨_, rfl, Nat.zero_le _⟩ (.inl block)
    rw [if_neg block]
    by_cases nothing : (sizesOf rest.length rest).length = 0
    · have empty : rest = [] := by
        cases rest with
        | nil => rfl
        | cons size rest => exact absurd nothing (Nat.succ_ne_zero _)
      rw [if_pos nothing, empty]
      exact iff_of_true ⟨_, rfl, Nat.zero_le _⟩ (.inr (.inr (.inr ⟨by decide, rfl⟩)))
    rw [if_neg nothing]
    by_cases many : ucMaxValuekeys < (sizesOf rest.length rest).length
    · rw [if_pos many]
      exact iff_of_true ⟨_, rfl, Nat.zero_le _⟩ (.inr (.inl many))
    · rw [if_neg many, copyLoop_contained ap _ 1 _ (Nat.le_refl _) (Nat.le_of_not_lt many)]
      constructor
      · exact fun inside => .inr (.inr inside)
      · rintro (refused | tooMany | inside)
        · exact absurd refused block
        · exact absurd tooMany many
        · exact inside

end Arbitrary

/-- **Keys that are built are taken apart to what they are built of, and keys of different
paths or value keys differ. An arbitrary key is taken apart within its octets and the room for
eight sizes exactly if it is contained.** -/
theorem key_codec (getmem : KeyMemory) :
    (∀ pap ap front path kvs, HasMemory getmem → StandsFor pap front → StandsFor ap path →
      KeyFits (front ++ path) kvs → ∃ key, yangDbCreateKey pap ap kvs = some key ∧
        KeyDecodes getmem key (front ++ path) kvs) ∧
    (∀ ap ap' path path' kvs kvs', StandsFor ap path → StandsFor ap' path' → KeyFits path kvs →
      KeyFits path' kvs' → yangDbCreateKey none ap kvs = yangDbCreateKey none ap' kvs' →
        path = path' ∧ kvs = kvs') ∧ ∀ key, (∃ result, yangDbExtractKey getmem key = some result ∧
      result.kss.length ≤ ucMaxValuekeys) ↔ Contained getmem key := by
  refine ⟨?_, ?_, extractKey_contained getmem⟩
  · intro pap ap front path kvs memory first second fits
    have clean : apter ∉ front ++ path := by
      intro member
      rcases List.mem_append.mp member with inFront | inPath
      · exact first.1 inFront
      · exact second.1 inPath
    exact ⟨_, createKey_fits first second fits, keyDecodes clean fits memory⟩
  · intro ap ap' path path' kvs kvs' stands stands' fits fits' same
    have null : StandsFor none [] := ⟨List.not_mem_nil, .inl ⟨rfl, rfl⟩⟩
    rw [createKey_fits null stands fits, createKey_fits null stands' fits'] at same
    exact encoding_injective stands.1 stands'.1 fits fits' (Option.some.inj same)

def eightKeys : List UInt8 := [1, 255, 1, 1, 1, 2, 1, 3, 1, 4, 1, 5, 1, 6, 1, 7, 1, 8]

/-- With eight value keys nine sizes are written, and a value key that is announced larger than
it is lets the copy read behind the key. -/
theorem sizes_overrun : (¬ ∀ getmem key, ∃ result, yangDbExtractKey getmem key = some result ∧
      result.kss.length ≤ ucMaxValuekeys) ∧
    yangDbExtractKey (fun _ _ => true) (some [1, 255, 5, 7]) = none := by
  refine ⟨?_, by decide⟩
  intro always
  obtain ⟨result, copied, few⟩ := always (fun _ _ => true) (some eightKeys)
  have nine : (yangDbExtractKey (fun _ _ => true) (some eightKeys)).map (·.kss.length) = some 9 := by
    decide
  rw [copied] at nine
  have length : result.kss.length = 9 := Option.some.inj nine
  rw [length] at few
  exact absurd few (by decide)

end EnetTsn.Uniconf
