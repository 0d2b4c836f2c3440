import EnetTsn.Netconf.TreeEffects

namespace EnetTsn.Netconf

variable {type : TreeinfoType} {iskeycb : Keychecker} {previous : Bool} {contpath : Text}
  {node : XmlNode} {front : List Segment} {entry name value : Text} {keys : List (Text × Text)}
  {gathered : List Gathered}

theorem leafInfo_append (type : TreeinfoType) (path name text operation : Text) :
    leafInfo type path name text operation = ⟨path ++ (leafInfo type [] name text operation).path,
        (leafInfo type [] name text operation).value⟩ := by
  cases type with
  | filter => simp [leafInfo, nconfXmlutilsAddTreeInfo]
  | config =>
    simp only [leafInfo, nconfXmlutilsAddTreeInfo]
    split <;> simp

theorem entryInfo_append (type : TreeinfoType) (path operation : Text) :
    entryInfo type path operation =
      ⟨path ++ (entryInfo type [] operation).path, (entryInfo type [] operation).value⟩ := by
  cases type with
  | filter => simp [entryInfo, nconfXmlutilsAddTreeInfo]
  | config =>
    simp only [entryInfo, nconfXmlutilsAddTreeInfo]
    split <;> simp

/-- The end of a path, from the last `/` of a node on. -/
structure Tail (text : Text) : Prop where
  slash : ['/'] <+: text
  bar : '|' ∉ text

private theorem leafInfo_tail (named : Separate name) (bar : '|' ∉ operation) (type : TreeinfoType)
    (text : Text) : Tail (leafInfo type [] name text operation).path := by
  cases type with
  | filter =>
    refine ⟨⟨name ++ ['/'], by simp [leafInfo, nconfXmlutilsAddTreeInfo]⟩, ?_⟩
    simp [leafInfo, nconfXmlutilsAddTreeInfo, named.bar]
  | config =>
    simp only [leafInfo, nconfXmlutilsAddTreeInfo]
    split
    · exact ⟨⟨name ++ '&' :: operation, by simp⟩, by simp [named.bar, bar]⟩
    · exact ⟨⟨name, by simp⟩, by simp [named.bar]⟩

private theorem entryInfo_tail (bar : '|' ∉ operation) (type : TreeinfoType) :
    Tail (entryInfo type [] operation).path := by
  cases type with
  | filter => exact ⟨⟨[], rfl⟩, by simp [entryInfo, nconfXmlutilsAddTreeInfo]⟩
  | config =>
    simp only [entryInfo, nconfXmlutilsAddTreeInfo]
    split
    · exact ⟨⟨"dummy".toList ++ '&' :: operation, by simp⟩, by simp [bar]⟩
    · exact ⟨⟨"dummy".toList, by simp⟩, by simp⟩

theorem keyLeafs_plain (named : Named iskeycb contpath node)
    (values : PlainValues iskeycb contpath node) :
    ∀ key ∈ keyLeafs iskeycb contpath node, PlainKey key := by
  induction node with
  | null => exact nofun
  | element name operation text firstChild nextSibling _ ih =>
    obtain ⟨filled, separate, _, colon, _, named⟩ := named
    obtain ⟨value, _, values⟩ := values
    rw [keyLeafs]
    split
    · rename_i key
      refine List.forall_mem_cons.mpr ⟨⟨filled, colon key.2.1, separate, ?_⟩, ih named values⟩
      exact value ⟨key.1, key.2.1⟩
    · exact ih named values

/-- What is gathered goes on with a node, and ends without a `|`. -/
theorem gather_tail (named : Named iskeycb contpath node)
    (previous : Bool) : ∀ path ∈ gather type iskeycb previous contpath node, Tail path.info.path := by
  induction node generalizing contpath previous with
  | null => exact nofun
  | element name operation text firstChild nextSibling child ih =>
    obtain ⟨_, separate, bar, _, below, named⟩ := named
    rw [gather, List.forall_mem_append]
    refine ⟨ih named true, ?_⟩
    split
    · split
      · split
        · rw [List.forall_mem_singleton]
          exact entryInfo_tail bar type
        · exact nofun
      · rw [List.forall_mem_singleton]
        exact leafInfo_tail separate bar type text
    · rw [List.forall_mem_map]
      exact child below false

theorem listing_append (entry : List Segment) (first second : List Gathered) :
    listing entry (first ++ second) = listing entry first ++ listing entry second :=
  List.map_append

private theorem listing_below (entry : List Segment) (segment : Segment) (gathered : List Gathered) :
    listing entry (gathered.map fun path => { path with segments := segment :: path.segments }) =
      listing (entry ++ [segment]) gathered := by
  rw [listing, listing, List.map_map]
  apply List.map_congr_left
  intro path _
  simp

private theorem listing_slash (tails : ∀ path ∈ gathered, Tail path.info.path) (entry : List Segment) :
    ∀ info ∈ listing entry gathered, rendered entry ++ ['/'] <+: info.path := by
  rw [listing, List.forall_mem_map]
  intro path member
  rw [rendered_append, List.append_assoc, List.prefix_append_right_inj]
  rcases rendered_slash path.segments with last | ⟨rest, more⟩
  · rw [last, List.nil_append]
    exact (tails path member).slash
  · exact ⟨rest ++ path.info.path, by rw [more]; rfl⟩

theorem listing_addKey (plain : Segment.Plain ⟨entry, keys⟩) (filled : name ≠ [])
    (fresh : name ∉ keys.map Prod.fst) (front : List Segment) (value : Text)
    (tails : ∀ path ∈ gathered, Tail path.info.path) :
    (listing (front ++ [⟨entry, keys⟩]) gathered).map
        (changed (updatePath (rendered (front ++ [⟨entry, keys⟩])) name value)) =
      listing (front ++ [⟨entry, keys ++ [(name, value)]⟩]) gathered := by
  rw [listing, List.map_map, listing]
  apply List.map_congr_left
  intro path member
  obtain ⟨rest, slash⟩ : ∃ rest, rendered path.segments ++ path.info.path = '/' :: rest := by
    rcases rendered_slash path.segments with last | ⟨rest, more⟩
    · obtain ⟨rest, same⟩ := (tails path member).slash
      exact ⟨rest, by rw [last, List.nil_append, ← same]; rfl⟩
    · exact ⟨rest ++ path.info.path, by rw [more]; rfl⟩
  have whole : ∀ keys, rendered (front ++ [⟨entry, keys⟩] ++ path.segments) ++ path.info.path =
      rendered (front ++ [⟨entry, keys⟩]) ++ '/' :: rest := by
    intro keys
    rw [rendered_append, List.append_assoc, slash]
  rw [Function.comp, changed]
  congr 1
  rw [whole, whole, updatePath_below plain filled fresh]

private theorem isKeyLeaf_rendered (plain : ∀ segment ∈ front ++ [⟨entry, keys⟩], segment.Plain)
    (name : Text) : isKeyLeaf iskeycb (rendered (front ++ [⟨entry, keys⟩])) name =
      (iskeycb (schemaPath front ++ '/' :: entry ++ '/' :: name)).isSome := by
  rw [isKeyLeaf, removeKeyinfo_rendered plain, schemaPath_append, schemaPath_singleton]

/-- What a run over siblings does: the path of their entry gets the keys, other paths are changed
by growth, what is listed has grown from what is gathered, and all is as it should be if and only
if the run is clear. -/
structure Effect (run : List ConfigStrings → Text × List ConfigStrings) (front : List Segment)
    (entry : Text) (keys : List (Text × Text)) (gathered : List Gathered)
    (clear : List ConfigStrings → Prop) (change : Text → Text) (own : List ConfigStrings) :
    Prop where
  runs : ∀ others, run others =
    (rendered (front ++ [⟨entry, keys⟩]), others.map (changed change) ++ own)
  grows : ∀ path, Grows (rendered (front ++ [⟨entry, []⟩])) path (change path)
  grown : Grown (rendered (front ++ [⟨entry, keys⟩]) ++ ['/'])
    (listing (front ++ [⟨entry, keys⟩]) gathered) own
  clear_iff : ∀ others, clear others ↔
    others.map (changed change) = others ∧ own = listing (front ++ [⟨entry, keys⟩]) gathered

section Effect

variable {run run' : List ConfigStrings → Text × List ConfigStrings}
  {clear clear' : List ConfigStrings → Prop} {change change' : Text → Text}
  {own own' : List ConfigStrings} {keys' : List (Text × Text)} {gathered' : List Gathered}

theorem rendered_base (front : List Segment) (entry : Text) (keys : List (Text × Text)) :
    rendered (front ++ [⟨entry, []⟩]) <+: rendered (front ++ [⟨entry, keys⟩]) := by
  rw [rendered_concat, rendered_concat, keysText, List.append_nil]
  exact ⟨keysText keys, by simp⟩

theorem map_changed (change change' : Text → Text) (infos : List ConfigStrings) :
    infos.map (changed (change' ∘ change)) = (infos.map (changed change)).map (changed change') := by
  rw [List.map_map]
  rfl

theorem changed_id : changed id = id := rfl

theorem Effect.congr (effect : Effect run front entry keys gathered clear change own)
    (runs : ∀ others, run' others = run others) (clears : ∀ others, clear' others ↔ clear others) :
    Effect run' front entry keys gathered clear' change own :=
  ⟨fun others => (runs others).trans (effect.runs others), effect.grows, effect.grown,
    fun others => (clears others).trans (effect.clear_iff others)⟩

theorem map_changed_eq_self {infos : List ConfigStrings} :
    infos.map (changed change) = infos ↔ ∀ info ∈ infos, change info.path = info.path := by
  nth_rewrite 2 [← List.map_id infos]
  rw [List.map_inj_left]
  constructor
  · intro same info member
    exact congrArg ConfigStrings.path (same info member)
  · intro same info member
    rw [changed, same info member]
    rfl

variable (effect : Effect run front entry keys gathered clear change own)
include effect

theorem Effect.leaf (info : ConfigStrings) : Effect (fun others =>
        ((run others).1, (run others).2 ++ [⟨(run others).1 ++ info.path, info.value⟩]))
      front entry keys (gathered ++ [⟨[], info⟩]) clear change
      (own ++ [⟨rendered (front ++ [⟨entry, keys⟩]) ++ info.path, info.value⟩]) := by
  have listed : listing (front ++ [⟨entry, keys⟩]) (gathered ++ [⟨[], info⟩]) =
      listing (front ++ [⟨entry, keys⟩]) gathered ++
        [⟨rendered (front ++ [⟨entry, keys⟩]) ++ info.path, info.value⟩] := by
    rw [listing_append]
    simp only [listing, List.map_cons, List.map_nil, List.append_nil]
  refine ⟨?_, effect.grows, ?_, ?_⟩
  · intro others
    simp only [effect.runs others, List.append_assoc]
  · rw [listed]
    exact effect.grown.append (.refl _ _)
  · intro others
    rw [effect.clear_iff others, listed, List.append_cancel_right_eq]

theorem Effect.key
    (plain : Segment.Plain ⟨entry, keys⟩) (filled : name ≠ []) (fresh : name ∉ keys.map Prod.fst)
    (value : Text) (tails : ∀ path ∈ gathered, Tail path.info.path) :
    Effect (fun others => nconfXmlutilsUpdateKeyinfo (run others).1 name value (run others).2)
      front entry (keys ++ [(name, value)]) gathered (fun others => clear others ∧
        ∀ info ∈ others, ¬ Overreach (rendered (front ++ [⟨entry, keys⟩])) name info.path)
      (updatePath (rendered (front ++ [⟨entry, keys⟩])) name value ∘ change)
      (own.map (changed (updatePath (rendered (front ++ [⟨entry, keys⟩])) name value))) := by
  have grows := updatePath_grows front plain filled fresh value
  obtain ⟨grown, same⟩ := effect.grown.addKey plain filled fresh value (listing_slash tails _)
  rw [listing_addKey plain filled fresh front value tails] at grown same
  refine ⟨?_, ?_, grown, ?_⟩
  · intro others
    rw [effect.runs others, nconfXmlutilsUpdateKeyinfo, rendered_addKey plain.name.bar,
      map_changed, ← List.map_append]
    rfl
  · intro path
    exact (effect.grows path).trans ((grows _).mono (rendered_base front entry keys))
  · intro others
    rw [effect.clear_iff others, map_changed]
    constructor
    · rintro ⟨⟨kept, listed⟩, apart⟩
      rw [kept, listed, map_changed_eq_self]
      refine ⟨?_, listing_addKey plain filled fresh front value tails⟩
      intro info member
      rcases updatePath_cases front plain filled fresh value info.path with
        ⟨_, path⟩ | ⟨reached, _⟩
      · exact path
      · exact absurd reached (apart info member)
    · rintro ⟨kept, listed⟩
      have first := Grown.map effect.grows others
      have second := Grown.map grows (others.map (changed change))
      rw [kept] at second
      have unchanged := first.antisymm second
      refine ⟨⟨unchanged, same listed⟩, ?_⟩
      rw [unchanged, map_changed_eq_self] at kept
      intro info member reached
      rcases updatePath_cases front plain filled fresh value info.path with
        ⟨apart, _⟩ | ⟨_, _, _, less⟩
      · exact apart reached
      · rw [kept info member] at less
        exact Nat.lt_irrefl _ less

theorem Effect.below
    (effect' : Effect run' (front ++ [⟨entry, keys⟩]) name keys' gathered' clear' change' own') :
    Effect (fun others => ((run others).1, (run' (run others).2).2)) front entry keys
      (gathered ++ gathered'.map fun path =>
        { path with segments := ⟨name, keys'⟩ :: path.segments })
      (fun others => clear others ∧ clear' (others ++ listing (front ++ [⟨entry, keys⟩]) gathered))
      (change' ∘ change) (own.map (changed change') ++ own') := by
  have node : rendered (front ++ [⟨entry, keys⟩]) ++ ['/'] <+:
      rendered (front ++ [⟨entry, keys⟩] ++ [⟨name, []⟩]) := by
    rw [rendered_concat (front ++ _), List.prefix_append_right_inj]
    exact ⟨_, rfl⟩
  have base : rendered (front ++ [⟨entry, []⟩]) <+:
      rendered (front ++ [⟨entry, keys⟩] ++ [⟨name, []⟩]) :=
    (rendered_base front entry keys).trans ((List.prefix_append _ _).trans node)
  have inner : rendered (front ++ [⟨entry, keys⟩]) ++ ['/'] <+:
      rendered (front ++ [⟨entry, keys⟩] ++ [⟨name, keys'⟩]) ++ ['/'] :=
    node.trans ((rendered_base _ name keys').trans (List.prefix_append _ _))
  have own_grown := Grown.map (fun path => (effect'.grows path).mono node) own
  have grown := (effect.grown.trans own_grown).append (effect'.grown.mono inner)
  have listed : listing (front ++ [⟨entry, keys⟩]) (gathered ++ gathered'.map fun path =>
      { path with segments := ⟨name, keys'⟩ :: path.segments }) =
      listing (front ++ [⟨entry, keys⟩]) gathered ++
        listing (front ++ [⟨entry, keys⟩] ++ [⟨name, keys'⟩]) gathered' := by
    rw [listing_append, listing_below]
  refine ⟨?_, ?_, by rw [listed]; exact grown, ?_⟩
  · intro others
    simp only [effect.runs others, effect'.runs, List.map_append, map_changed, List.append_assoc]
  · intro path
    exact (effect.grows path).trans ((effect'.grows _).mono base) |>.mono (List.prefix_rfl)
  · intro others
    rw [effect.clear_iff others, effect'.clear_iff, listed, map_changed, List.map_append]
    constructor
    · rintro ⟨⟨kept, listed⟩, kept', listed'⟩
      obtain ⟨first, second⟩ := List.append_inj kept' (List.length_map _)
      rw [kept, first, listed, second, listed']
      exact ⟨rfl, rfl⟩
    · rintro ⟨kept, listed⟩
      have lengths := effect.grown.length_eq
      obtain ⟨first, second⟩ := List.append_inj listed (by rw [List.length_map, lengths])
      have unchanged := (Grown.map effect.grows others).antisymm
        (kept ▸ Grown.map effect'.grows (others.map (changed change)))
      rw [unchanged] at kept
      have same := effect.grown.antisymm (first ▸ own_grown)
      rw [same] at first
      exact ⟨⟨unchanged, same⟩, by rw [kept, first], second⟩

end Effect

private theorem names_nodup (distinct : ((keyLeafs iskeycb contpath node).map fun key =>
    keyIndex iskeycb contpath key.1).Nodup) :
    ((keyLeafs iskeycb contpath node).map Prod.fst).Nodup := by
  refine List.Nodup.of_map (keyIndex iskeycb contpath) ?_
  rwa [List.map_map]

private theorem clear_key (type : TreeinfoType) (others : List ConfigStrings) (operation : Text)
    (nextSibling : XmlNode) (leaf : firstChild.isNull)
    (key : (iskeycb (schemaPath front ++ '/' :: entry ++ '/' :: name)).isSome)
    (filled : text ≠ []) :
    Clear type iskeycb front entry others (.element name operation text firstChild nextSibling) ↔
      Clear type iskeycb front entry others nextSibling ∧ ∀ info ∈ others,
        ¬ Overreach (rendered (front ++ [⟨entry, (keyLeafs iskeycb
          (schemaPath front ++ '/' :: entry) nextSibling).reverse⟩])) name info.path := by
  simp only [Clear, if_pos leaf]
  exact and_congr_right fun _ => ⟨fun reach => reach key filled, fun apart _ _ => apart⟩

theorem walk_effect (previous : Bool) (front : List Segment) (entry : Text)
    (plain : ∀ segment ∈ front, segment.Plain) (separate : Separate entry)
    (named : Named iskeycb (schemaPath front ++ '/' :: entry) node)
    (values : PlainValues iskeycb (schemaPath front ++ '/' :: entry) node)
    (nodup : ((keyLeafs iskeycb (schemaPath front ++ '/' :: entry) node).map Prod.fst).Nodup)
    (distinct : DistinctKeys iskeycb (schemaPath front ++ '/' :: entry) node) : ∃ change own, Effect
      (walk type iskeycb previous node (rendered (front ++ [⟨entry, []⟩]))) front entry
      (keyLeafs iskeycb (schemaPath front ++ '/' :: entry) node).reverse
      (gather type iskeycb previous (schemaPath front ++ '/' :: entry) node)
      (fun others => Clear type iskeycb front entry others node) change own := by
  induction node generalizing previous front entry with
  | null =>
    refine ⟨id, [], fun others => ?_, fun _ => .refl _ _, .nil, fun others => ?_⟩
    · simp [walk, keyLeafs, changed_id]
    · simp [Clear, gather, listing, changed_id]
  | element name operation text firstChild nextSibling child ih =>
    obtain ⟨filled, nameSeparate, bar, colon, namedBelow, namedLater⟩ := named
    obtain ⟨value, valuesBelow, valuesLater⟩ := values
    obtain ⟨⟨distinctChild, distinctBelow⟩, distinctLater⟩ := distinct
    have nodupLater : ((keyLeafs iskeycb (schemaPath front ++ '/' :: entry)
        nextSibling).map Prod.fst).Nodup := by
      rw [keyLeafs] at nodup
      split at nodup
      · exact (List.nodup_cons.mp nodup).2
      · exact nodup
    obtain ⟨change, own, effect⟩ :=
      ih true front entry plain separate namedLater valuesLater nodupLater distinctLater
    have segment : Segment.Plain ⟨entry,
        (keyLeafs iskeycb (schemaPath front ++ '/' :: entry) nextSibling).reverse⟩ :=
      ⟨separate, fun key member =>
        keyLeafs_plain namedLater valuesLater key (List.mem_reverse.mp member)⟩
    have known : ∀ segment' ∈ front ++ [⟨entry,
        (keyLeafs iskeycb (schemaPath front ++ '/' :: entry) nextSibling).reverse⟩],
        segment'.Plain := by
      rw [List.forall_mem_append, List.forall_mem_singleton]
      exact ⟨plain, segment⟩
    have isKey : ∀ others, isKeyLeaf iskeycb (walk type iskeycb true nextSibling
        (rendered (front ++ [⟨entry, []⟩])) others).1 name =
        (iskeycb (schemaPath front ++ '/' :: entry ++ '/' :: name)).isSome := by
      intro others
      rw [effect.runs others]
      exact isKeyLeaf_rendered known name
    rw [keyLeafs] at nodup ⊢
    rw [gather]
    by_cases leaf : firstChild.isNull
    · rw [if_pos leaf]
      by_cases key : (iskeycb (schemaPath front ++ '/' :: entry ++ '/' :: name)).isSome
      · rw [if_pos key]
        by_cases empty : text = []
        · -- A key leaf without a value is passed over.
          rw [if_neg fun known => known.2.2 empty, if_neg fun alone => alone.1 empty,
            List.append_nil]
          refine ⟨change, own, effect.congr (fun others => ?_) fun others => ?_⟩
          · rw [walk]
            simp only [if_pos leaf, isKey, if_pos key, empty]
            rfl
          · simp only [Clear, if_pos leaf]
            exact and_iff_left fun _ filled => absurd empty filled
        · rw [if_pos ⟨leaf, key, empty⟩, List.map_cons, List.nodup_cons] at nodup
          rw [if_pos ⟨leaf, key, empty⟩, List.reverse_cons]
          have fresh : name ∉ (keyLeafs iskeycb (schemaPath front ++ '/' :: entry)
              nextSibling).reverse.map Prod.fst := by
            rw [List.map_reverse, List.mem_reverse]
            exact nodup.1
          have keyed := effect.key segment filled fresh text (gather_tail namedLater true)
          have clears (others : List ConfigStrings) :=
            clear_key type others operation nextSibling leaf key empty
          by_cases alone : (!previous && nextSibling.isNull)
          · rw [if_pos ⟨empty, alone⟩]
            refine ⟨_, _, (keyed.leaf (entryInfo type [] operation)).congr (fun others => ?_) clears⟩
            rw [walk]
            simp only [if_pos leaf, isKey, if_pos key, List.length_pos_iff.mpr empty, if_pos alone]
            rw [entryInfo_append]
            rfl
          · rw [if_neg fun single => alone single.2, List.append_nil]
            refine ⟨_, _, keyed.congr (fun others => ?_) clears⟩
            rw [walk]
            simp only [if_pos leaf, isKey, if_pos key, List.length_pos_iff.mpr empty, if_neg alone]
            rfl
      · rw [if_neg key, if_neg fun known => key known.2.1]
        refine ⟨change, _, (effect.leaf (leafInfo type [] name text operation)).congr
          (fun others => ?_) fun others => ?_⟩
        · rw [walk]
          simp only [if_pos leaf, isKey, if_neg key]
          rw [leafInfo_append]
        · simp only [Clear, if_pos leaf]
          exact and_iff_left fun found => absurd found key
    · rw [if_neg leaf, if_neg fun known => leaf known.1]
      have schema : schemaPath (front ++ [⟨entry, (keyLeafs iskeycb
          (schemaPath front ++ '/' :: entry) nextSibling).reverse⟩]) =
          schemaPath front ++ '/' :: entry := by
        rw [schemaPath_append, schemaPath_singleton]
      have below := child false _ name known nameSeparate
      rw [schema] at below
      obtain ⟨change', own', effect'⟩ :=
        below namedBelow valuesBelow (names_nodup distinctChild) distinctBelow
      refine ⟨_, _, (effect.below effect').congr (fun others => ?_) fun others => ?_⟩
      · rw [walk]
        simp only [if_neg leaf]
        rw [effect.runs others, rendered_concat (front ++ _), keysText, List.append_nil]
      · simp only [Clear, if_neg leaf]

end EnetTsn.Netconf
