import EnetTsn.Netconf.TreeClear

namespace EnetTsn.Netconf

variable {type : TreeinfoType} {iskeycb : Keychecker} {previous : Bool} {contpath modname : Text}
  {node : XmlNode} {front : List Segment} {infos : List ConfigStrings}

theorem sortKeys_reverse (distinct : (keys.map fun key => keyIndex iskeycb contpath key.1).Nodup) :
    sortKeys iskeycb contpath keys.reverse = sortKeys iskeycb contpath keys := by
  have total : Std.Total fun ls rs : Text × Text =>
      keyIndex iskeycb contpath ls.1 ≤ keyIndex iskeycb contpath rs.1 :=
    ⟨fun ls rs => UInt8.le_total _ _⟩
  have transitive : IsTrans (Text × Text) fun ls rs =>
      keyIndex iskeycb contpath ls.1 ≤ keyIndex iskeycb contpath rs.1 :=
    ⟨fun _ _ _ => UInt8.le_trans⟩
  have same : (sortKeys iskeycb contpath keys.reverse).Perm (sortKeys iskeycb contpath keys) :=
    (sortKeys_perm _ _ _).trans ((List.reverse_perm _).trans (sortKeys_perm _ _ _).symm)
  refine same.eq_of_pairwise ?_ (List.pairwise_insertionSort _ _) (List.pairwise_insertionSort _ _)
  intro ls rs member member' less more
  rw [(sortKeys_perm _ _ _).mem_iff, List.mem_reverse] at member
  rw [(sortKeys_perm _ _ _).mem_iff] at member'
  exact List.inj_on_of_nodup_map distinct member member' (UInt8.le_antisymm less more)

theorem gather_length (type : TreeinfoType) (iskeycb : Keychecker) (front : List Segment)
    (node : XmlNode) (previous : Bool) :
    (gather type iskeycb previous (schemaPath front) node).length ≤
        (leafPaths type iskeycb previous front node).length ∧
      ((leafPaths type iskeycb previous front node).length ≤
        (gather type iskeycb previous (schemaPath front) node).length →
        Filled iskeycb previous (schemaPath front) node) := by
  induction node generalizing previous front with
  | null => exact ⟨Nat.le_refl _, fun _ => trivial⟩
  | element name operation text firstChild nextSibling child ih =>
    obtain ⟨fewer, filled⟩ := ih front true
    have below := child (front ++ [⟨name, sortKeys iskeycb (schemaPath front ++ '/' :: name)
      (keyLeafs iskeycb (schemaPath front ++ '/' :: name) firstChild)⟩]) false
    rw [schemaPath_append, schemaPath_singleton] at below
    dsimp only at below
    obtain ⟨fewer', filled'⟩ := below
    rw [gather, leafPaths, Filled, List.length_append, List.length_append]
    by_cases leaf : firstChild.isNull
    · rw [if_pos leaf, if_pos leaf, if_pos leaf]
      by_cases key : (iskeycb (schemaPath front ++ '/' :: name)).isSome
      · rw [if_pos key, if_pos key]
        by_cases alone : (!previous && nextSibling.isNull)
        · by_cases empty : text = []
          · rw [if_neg fun single => single.1 empty, if_pos alone, List.length_nil,
              List.length_singleton]
            exact ⟨by omega, fun enough => absurd enough (by omega)⟩
          · rw [if_pos ⟨empty, alone⟩, if_pos alone, List.length_singleton, List.length_singleton]
            exact ⟨by omega, fun enough => ⟨fun _ _ => empty, filled (by omega)⟩⟩
        · rw [if_neg fun single => alone single.2, if_neg alone, List.length_nil, List.length_nil]
          exact ⟨by omega, fun enough => ⟨fun _ single => absurd single alone, filled (by omega)⟩⟩
      · rw [if_neg key, if_neg key, List.length_singleton, List.length_singleton]
        exact ⟨by omega, fun enough => ⟨fun found => absurd found key, filled (by omega)⟩⟩
    · rw [if_neg leaf, if_neg leaf, if_neg leaf, List.length_map]
      exact ⟨by omega, fun enough => ⟨filled' (by omega), filled (by omega)⟩⟩

def finished (iskeycb : Keychecker) (entry : List Segment) (path : Gathered) : Text :=
  rendered (entry ++ sortSegments iskeycb (schemaPath entry) path.segments) ++ path.info.path

theorem gather_perm (type : TreeinfoType) (iskeycb : Keychecker) (node : XmlNode) (front : List Segment)
    (previous : Bool) (filled : Filled iskeycb previous (schemaPath front) node)
    (distinct : DistinctKeys iskeycb (schemaPath front) node) :
    ((gather type iskeycb previous (schemaPath front) node).map (finished iskeycb front)).Perm
      (leafPaths type iskeycb previous front node) := by
  induction node generalizing previous front with
  | null => exact .nil
  | element name operation text firstChild nextSibling child ih =>
    obtain ⟨filledHere, filledLater⟩ := filled
    obtain ⟨⟨distinctChild, distinctBelow⟩, distinctLater⟩ := distinct
    rw [gather, leafPaths, List.map_append]
    refine List.perm_append_comm.trans (List.Perm.append ?_ (ih front true filledLater
      distinctLater))
    by_cases leaf : firstChild.isNull
    · rw [if_pos leaf] at filledHere
      rw [if_pos leaf, if_pos leaf]
      by_cases key : (iskeycb (schemaPath front ++ '/' :: name)).isSome
      · rw [if_pos key, if_pos key]
        by_cases alone : (!previous && nextSibling.isNull)
        · rw [if_pos ⟨filledHere key alone, alone⟩, if_pos alone,
            entryInfo_append type (rendered front)]
          simp [finished, sortSegments]
        · rw [if_neg fun single => alone single.2, if_neg alone]
          exact .nil
      · rw [if_neg key, if_neg key, leafInfo_append type (rendered front)]
        simp [finished, sortSegments]
    · rw [if_neg leaf] at filledHere
      rw [if_neg leaf, if_neg leaf, List.map_map]
      have below := child (front ++ [⟨name, sortKeys iskeycb (schemaPath front ++ '/' :: name)
        (keyLeafs iskeycb (schemaPath front ++ '/' :: name) firstChild)⟩]) false
      rw [schemaPath_append, schemaPath_singleton] at below
      refine List.Perm.trans (List.Perm.of_eq ?_) (below filledHere distinctBelow)
      apply List.map_congr_left
      intro path _
      simp only [Function.comp, finished, sortSegments, sortKeys_reverse distinctChild,
        schemaPath_append, schemaPath_singleton, List.append_assoc, List.singleton_append]

theorem gather_plain (named : Named iskeycb contpath node)
    (values : PlainValues iskeycb contpath node) (type : TreeinfoType) (previous : Bool) :
    ∀ path ∈ gather type iskeycb previous contpath node, ∀ segment ∈ path.segments,
      segment.Plain := by
  induction node generalizing contpath previous with
  | null => exact List.forall_mem_nil _
  | element name operation text firstChild nextSibling child ih =>
    obtain ⟨_, separate, _, _, namedBelow, namedLater⟩ := named
    obtain ⟨_, valuesBelow, valuesLater⟩ := values
    rw [gather, List.forall_mem_append]
    refine ⟨ih namedLater valuesLater true, ?_⟩
    split
    · split
      · split
        · simp
        · simp
      · simp
    · rw [List.forall_mem_map]
      intro path member
      refine List.forall_mem_cons.mpr ⟨⟨separate, fun key inside => ?_⟩,
        child namedBelow valuesBelow false path member⟩
      exact keyLeafs_plain namedBelow valuesBelow key (List.mem_reverse.mp inside)

section Listed

private theorem listed_getTreeinfo (type : TreeinfoType) (infos : List ConfigStrings) :
    (getTreeinfo type infos).listed = (infos.map (·.path)).take (infos.length % 256) := by
  cases type <;> simp [getTreeinfo, Treeinfo.listed]

private theorem sortConfigs_perm (iskeycb : Keychecker) (infos : List ConfigStrings) :
    ((nconfXmlutilsSortConfigs iskeycb infos).map (·.path)).Perm
      (infos.map fun info => nconfXmlutilsSortPathKeyInfo iskeycb info.path) := by
  refine ((List.perm_insertionSort _ _).map _).trans (List.Perm.of_eq ?_)
  rw [List.map_map]
  rfl

theorem length_sortConfigs (iskeycb : Keychecker) (infos : List ConfigStrings) :
    (nconfXmlutilsSortConfigs iskeycb infos).length = infos.length := by
  rw [nconfXmlutilsSortConfigs, List.length_insertionSort, List.length_map]

theorem sum_weight_sort (iskeycb : Keychecker) (infos : List ConfigStrings) :
    ((infos.map fun info => nconfXmlutilsSortPathKeyInfo iskeycb info.path).map weight).sum =
      totalWeight infos := by
  rw [List.map_map, totalWeight]
  congr 1
  apply List.map_congr_left
  intro info _
  exact weight_sortPathKeyInfo info.path

private theorem sortPathKeyInfo_gathered (plain : Segment.Plain ⟨modname, keys⟩)
    (below : ∀ segment ∈ path.segments, segment.Plain) (tail : Tail path.info.path) :
    nconfXmlutilsSortPathKeyInfo iskeycb
        (rendered ([⟨modname, keys⟩] ++ path.segments) ++ path.info.path) =
      finished iskeycb [⟨modname, sortKeys iskeycb ('/' :: modname) keys⟩] path := by
  obtain ⟨rest, slash⟩ : ∃ rest, path.info.path = '/' :: rest :=
    tail.slash.imp fun _ same => same.symm
  have bar := tail.bar
  rw [slash, List.mem_cons, not_or] at bar
  rw [finished, slash, List.singleton_append, sortPathKeyInfo_rendered _ bar.2,
    schemaPath_singleton, sortSegments]
  · rfl
  · exact List.forall_mem_cons.mpr ⟨plain, below⟩

end Listed

section Expected

variable {tree : XmlNode}

theorem listing_perm (type : TreeinfoType) (subtree : Subtree iskeycb modname tree)
    (values : PlainValues iskeycb ('/' :: modname) tree)
    (filled : Filled iskeycb false ('/' :: modname) tree) :
    ((listing [⟨modname, (keyLeafs iskeycb ('/' :: modname) tree).reverse⟩]
        (gather type iskeycb false ('/' :: modname) tree)).map fun info =>
          nconfXmlutilsSortPathKeyInfo iskeycb info.path).Perm
      (subtreePaths type iskeycb modname tree) := by
  obtain ⟨⟨name, operation, text, firstChild, shape⟩, separate, named, distinct⟩ := subtree
  have single : (keyLeafs iskeycb ('/' :: modname) tree).reverse =
      keyLeafs iskeycb ('/' :: modname) tree := by
    rw [shape, keyLeafs, keyLeafs]
    split <;> rfl
  have plain : Segment.Plain ⟨modname, keyLeafs iskeycb ('/' :: modname) tree⟩ :=
    ⟨separate, keyLeafs_plain named values⟩
  have perm := gather_perm type iskeycb tree [⟨modname, sortKeys iskeycb ('/' :: modname)
    (keyLeafs iskeycb ('/' :: modname) tree)⟩] false
  rw [schemaPath_singleton] at perm
  refine List.Perm.trans (List.Perm.of_eq ?_) (perm filled distinct)
  rw [single, listing, List.map_map]
  apply List.map_congr_left
  intro path member
  exact sortPathKeyInfo_gathered plain (gather_plain named values type false path member)
    (gather_tail named false path member)

end Expected

/-- The paths that `nconf_xmlutils_generate_tree_info` lists for a subtree are the ones of its
leafs if and only if their number fits into eight bits, no list entry consists of a key leaf
without a value, and no key reaches beyond its entry. -/
theorem tree_info_paths (type : TreeinfoType) {tree : XmlNode}
    (subtree : Subtree iskeycb modname tree) :
    ∃ info, nconfXmlutilsGenerateTreeInfo type tree modname iskeycb = some info ∧
      (PlainValues iskeycb ('/' :: modname) tree →
        (info.listed.Perm (subtreePaths type iskeycb modname tree) ↔
          (subtreePaths type iskeycb modname tree).length < 256 ∧
          Filled iskeycb false ('/' :: modname) tree ∧ Clear type iskeycb [] modname [] tree)) := by
  obtain ⟨name, operation, text, firstChild, shape⟩ := subtree.single
  have flat : nconfXmlutilsFlattenXmltree type tree modname iskeycb =
      some (walk type iskeycb false tree ('/' :: modname) []).2 := by
    rw [shape]
    exact flattenXmltree_eq_walk type iskeycb modname name operation text firstChild
  refine ⟨getTreeinfo type (nconfXmlutilsSortConfigs iskeycb
    (walk type iskeycb false tree ('/' :: modname) []).2), ?_, fun values => ?_⟩
  · rw [nconfXmlutilsGenerateTreeInfo, flat]
    rfl
  have nodup : ((keyLeafs iskeycb ('/' :: modname) tree).map Prod.fst).Nodup := by
    rw [shape, keyLeafs, keyLeafs]
    split <;> simp
  obtain ⟨change, own, effect⟩ := walk_effect false [] modname (by simp)
    subtree.separate subtree.named values nodup subtree.distinct
  have walked : (walk type iskeycb false tree ('/' :: modname) []).2 = own := by
    have runs := effect.runs []
    rw [rendered_concat, rendered_nil, keysText, List.append_nil, List.nil_append] at runs
    rw [runs]
    rfl
  rw [walked, listed_getTreeinfo, length_sortConfigs]
  have perm := sortConfigs_perm iskeycb own
  have lengths := gather_length type iskeycb [⟨modname, sortKeys iskeycb ('/' :: modname)
    (keyLeafs iskeycb ('/' :: modname) tree)⟩] tree false
  rw [schemaPath_singleton, ← subtreePaths] at lengths
  dsimp only at lengths
  have owned : (gather type iskeycb false ('/' :: modname) tree).length = own.length := by
    rw [← effect.grown.length_eq, listing, List.length_map]
    rfl
  constructor
  · intro listed
    have count := listed.length_eq
    rw [List.length_take, List.length_map, length_sortConfigs] at count
    have filled := lengths.2 (by omega)
    have all : own.length % 256 = own.length := by omega
    rw [all, List.take_of_length_le (by rw [List.length_map, length_sortConfigs])] at listed
    have expected := listing_perm type subtree values filled
    -- The listed paths weigh as much as the expected ones, so that none has grown.
    have weights := ((perm.symm.trans listed).trans expected.symm).map weight
    have back := weights.sum_nat
    rw [sum_weight_sort, sum_weight_sort] at back
    have same := effect.grown.eq_of_totalWeight_le (Nat.le_of_eq back)
    exact ⟨by omega, filled, (effect.clear_iff []).mpr ⟨rfl, same⟩⟩
  · rintro ⟨fits, filled, clear⟩
    obtain ⟨_, same⟩ := (effect.clear_iff []).mp clear
    have expected := listing_perm type subtree values filled
    have count := perm.length_eq.trans (List.length_map _)
    have count' := expected.length_eq
    rw [same] at perm count ⊢
    rw [List.length_map] at count'
    rw [List.take_of_length_le]
    · exact perm.trans expected
    · rw [count]
      have : (listing ([] ++ [⟨modname, (keyLeafs iskeycb ('/' :: modname) tree).reverse⟩])
        (gather type iskeycb false ('/' :: modname) tree)).length < 256 := count' ▸ fits
      exact Nat.le_of_eq (Nat.mod_eq_of_lt this).symm

section Examples

/-- The list `/m/a/l` has the key `k`. -/
def listKeys : Keychecker := fun path => if path = "/m/a/l/k".toList then some 0 else none

/-- `<a><l><v>9</v><k>1</k></l><l><k>2</k><v>8</v></l></a>` -/
def listTree : XmlNode :=
  .element ['a'] [] []
    (.element ['l'] [] []
      (.element ['v'] [] ['9'] .null (.element ['k'] [] ['1'] .null .null))
      (.element ['l'] [] []
        (.element ['k'] [] ['2'] .null (.element ['v'] [] ['8'] .null .null)) .null))
    .null

/-- `<a><l><k>1</k><v>9</v></l><lx><w>5</w></lx></a>` -/
def similarTree : XmlNode :=
  .element ['a'] [] []
    (.element ['l'] [] []
      (.element ['k'] [] ['1'] .null (.element ['v'] [] ['9'] .null .null))
      (.element ['l', 'x'] [] [] (.element ['w'] [] ['5'] .null .null) .null))
    .null

theorem tree_info_paths_list : Subtree listKeys ['m'] listTree ∧
      ∃ info, nconfXmlutilsGenerateTreeInfo .config listTree ['m'] listKeys = some info ∧
        info.listed.Perm (subtreePaths .config listKeys ['m'] listTree) := by
  have subtree : Subtree listKeys ['m'] listTree :=
    ⟨⟨_, _, _, _, rfl⟩, by decide, by decide +kernel, by decide +kernel⟩
  obtain ⟨info, made, right⟩ := tree_info_paths .config subtree
  have plain : PlainValues listKeys "/m".toList listTree := by decide +kernel
  refine ⟨subtree, info, made, (right plain).mpr ⟨by decide +kernel, ?_, ?_⟩⟩
  · simp only [Filled, listTree]
    decide +kernel
  · refine ⟨trivial, ⟨trivial, ⟨trivial, ?_⟩, ?_⟩, ⟨trivial, ?_⟩, ?_⟩
    all_goals
      simp only [XmlNode.isNull, if_true]
      decide +kernel

/-- The container `lx` gets the key of the list `l`. -/
theorem similar_name_gets_key :
    Subtree listKeys ['m'] similarTree ∧ PlainValues listKeys "/m".toList similarTree ∧
      subtreePaths .config listKeys ['m'] similarTree =
        ["/m/a/l|k:1|/v".toList, "/m/a/lx/w".toList] ∧
      ∃ info, nconfXmlutilsGenerateTreeInfo .config similarTree ['m'] listKeys = some info ∧
        info.listed = ["/m/a/lx|k:1|/w".toList, "/m/a/l|k:1|/v".toList] ∧
        ¬ info.listed.Perm (subtreePaths .config listKeys ['m'] similarTree) := by
  refine ⟨⟨⟨_, _, _, _, rfl⟩, by decide, by decide +kernel, by decide +kernel⟩,
    by decide +kernel, by decide +kernel, ?_⟩
  exact ⟨_, rfl, by decide +kernel, by decide +kernel⟩

end Examples

end EnetTsn.Netconf
