import EnetTsn.Netconf.TreeInfo

namespace EnetTsn.Netconf

/-- A node and its next siblings, the last one first, at a path; the path that its siblings before
have then, and what is listed. -/
def walk (type : TreeinfoType) (iskeycb : Keychecker) :
    Bool → XmlNode → Text → List ConfigStrings → Text × List ConfigStrings
  | _, .null, path, treeinfo => (path, treeinfo)
  | previous, .element name operation text firstChild nextSibling, path, treeinfo =>
    let later := walk type iskeycb true nextSibling path treeinfo
    if firstChild.isNull then
      if isKeyLeaf iskeycb later.1 name then
        if text.length > 0 then
          let updated := nconfXmlutilsUpdateKeyinfo later.1 name text later.2
          if !previous && nextSibling.isNull then
            (updated.1, updated.2 ++ [entryInfo type updated.1 operation])
          else updated
        else later
      else (later.1, later.2 ++ [leafInfo type later.1 name text operation])
    else (later.1, (walk type iskeycb false firstChild (later.1 ++ '/' :: name) later.2).2)

def stackedAt (path : Text) (nodes : List (XmlNode × Bool)) : List StackEntry :=
  nodes.map fun node => ⟨node.1, node.2, path⟩

variable {type : TreeinfoType} {iskeycb : Keychecker} {path updated : Text} {node : XmlNode}
  {previous : Bool} {siblings : List (XmlNode × Bool)} {nodeStack : List StackEntry}

private theorem updateNodeStack_stackedAt (shorter : ∀ entry ∈ nodeStack, entry.path.length < path.length)
    (siblings : List (XmlNode × Bool)) (updated : Text) :
    nconfXmlutilsUpdateNodeStack (stackedAt path siblings ++ nodeStack) path updated =
      stackedAt updated siblings ++ nodeStack := by
  rw [nconfXmlutilsUpdateNodeStack, List.map_append]
  congr 1
  · rw [stackedAt, List.map_map, stackedAt]
    apply List.map_congr_left
    intro sibling _
    exact if_pos rfl
  · nth_rewrite 2 [← List.map_id nodeStack]
    apply List.map_congr_left
    intro entry member
    refine if_neg fun same => ?_
    have := shorter entry member
    rw [same] at this
    exact Nat.lt_irrefl _ this

private theorem le_walk_length (type : TreeinfoType) (iskeycb : Keychecker) (previous : Bool)
    (node : XmlNode) (path : Text) (treeinfo : List ConfigStrings) :
    path.length ≤ (walk type iskeycb previous node path treeinfo).1.length := by
  induction node generalizing previous path treeinfo with
  | null => exact Nat.le_refl _
  | element name operation text firstChild nextSibling _ ih =>
    have later := ih true path treeinfo
    rw [walk]
    repeat' split
    all_goals first
      | exact later
      | exact Nat.le_trans later (by simp [nconfXmlutilsUpdateKeyinfo])

/-- A stack runs down to what is below the children of a node. The induction goes over the last
siblings first, as they are on top. -/
theorem flattenLoop_pushChildren (fuel : Nat) (path : Text) (previous : Bool) (node : XmlNode)
    (siblings : List (XmlNode × Bool)) (nodeStack : List StackEntry) (treeinfo : List ConfigStrings)
    (first : previous = false → siblings = [])
    (shorter : ∀ entry ∈ nodeStack, entry.path.length < path.length) :
    flattenLoop type iskeycb (fuel + node.count)
        (pushChildren path previous node (stackedAt path siblings ++ nodeStack)) treeinfo =
      flattenLoop type iskeycb fuel
        (stackedAt (walk type iskeycb previous node path treeinfo).1 siblings ++ nodeStack)
        (walk type iskeycb previous node path treeinfo).2 := by
  induction node generalizing previous path siblings nodeStack fuel treeinfo with
  | null => rfl
  | element name operation text firstChild nextSibling child ih =>
    have pushed : pushChildren path previous (.element name operation text firstChild nextSibling)
          (stackedAt path siblings ++ nodeStack) =
        pushChildren path true nextSibling (stackedAt path
          ((.element name operation text firstChild nextSibling, previous) :: siblings) ++
            nodeStack) := rfl
    have turns : fuel + XmlNode.count (.element name operation text firstChild nextSibling) =
        fuel + firstChild.count + 1 + nextSibling.count := by
      rw [XmlNode.count]
      omega
    rw [pushed, turns, ih _ _ _ _ _ _ (fun same => Bool.noConfusion same) shorter]
    have longer := le_walk_length type iskeycb true nextSibling path treeinfo
    rw [walk]
    generalize walk type iskeycb true nextSibling path treeinfo = later at longer
    have below : ∀ entry ∈ nodeStack, entry.path.length < later.1.length :=
      fun entry member => Nat.lt_of_lt_of_le (shorter entry member) longer
    rw [stackedAt, List.map_cons, ← stackedAt, List.cons_append, flattenLoop, flattenTurn]
    dsimp only
    cases leaf : firstChild.isNull with
    | true =>
      have noChild : firstChild.count = 0 := by
        cases firstChild with
        | null => rfl
        | element => exact nomatch leaf
      rw [if_pos rfl, if_pos rfl, noChild]
      cases isKeyLeaf iskeycb later.1 name with
      | false => rfl
      | true =>
        rw [if_pos rfl, if_pos rfl, nconfXmlutilsProcessKeyLeafs]
        by_cases filled : text.length > 0
        · rw [if_pos filled, if_pos filled]
          cases alone : (!previous && nextSibling.isNull) with
          | true =>
            rw [Bool.and_eq_true, Bool.not_eq_true'] at alone
            rw [first alone.1]
            rfl
          | false =>
            rw [if_neg Bool.false_ne_true, if_neg Bool.false_ne_true,
              updateNodeStack_stackedAt below]
            rfl
        · rw [if_neg filled, if_neg filled]
          rfl
    | false =>
      refine child fuel (later.1 ++ '/' :: name) false [] (_ ++ nodeStack) later.2 (fun _ => rfl) ?_
      intro entry member
      rw [List.length_append, List.length_cons]
      rcases List.mem_append.mp member with sibling | other
      · obtain ⟨node, _, rfl⟩ := List.mem_map.mp sibling
        exact Nat.lt_add_of_pos_right (Nat.succ_pos _)
      · exact Nat.lt_add_right _ (below entry other)

theorem flattenXmltree_eq_walk (type : TreeinfoType) (iskeycb : Keychecker) (modname : Text)
    (name operation text : Text) (firstChild : XmlNode) :
    nconfXmlutilsFlattenXmltree type (.element name operation text firstChild .null) modname
        iskeycb = some (walk type iskeycb false (.element name operation text firstChild .null)
        ('/' :: modname) []).2 := by
  rw [nconfXmlutilsFlattenXmltree, Nat.add_comm]
  exact flattenLoop_pushChildren 1 ('/' :: modname) false _ [] [] [] (fun _ => rfl) nofun

end EnetTsn.Netconf
