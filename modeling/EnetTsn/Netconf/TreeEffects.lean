import EnetTsn.Netconf.TreeLeafs

namespace EnetTsn.Netconf

def Grows (base path path' : Text) : Prop :=
  path' = path ∨ base <+: path ∧ base <+: path' ∧ weight path < weight path'

def Grown (base : Text) : List ConfigStrings → List ConfigStrings → Prop :=
  List.Forall₂ fun info info' => info'.value = info.value ∧ Grows base info.path info'.path

def changed (change : Text → Text) (info : ConfigStrings) : ConfigStrings :=
  { info with path := change info.path }

section Growth

variable {base base' path path' path'' : Text} {infos infos' infos'' : List ConfigStrings}
  {change : Text → Text}

theorem Grows.refl (base path : Text) : Grows base path path := .inl rfl

theorem Grows.weight_le (grows : Grows base path path') : weight path ≤ weight path' := by
  rcases grows with rfl | ⟨-, -, less⟩
  · exact Nat.le_refl _
  · exact Nat.le_of_lt less

theorem Grows.mono (shorter : base' <+: base) (grows : Grows base path path') :
    Grows base' path path' := by
  rcases grows with same | ⟨before, after, less⟩
  · exact .inl same
  · exact .inr ⟨shorter.trans before, shorter.trans after, less⟩

theorem Grows.trans (first : Grows base path path') (second : Grows base path' path'') :
    Grows base path path'' := by
  rcases second with rfl | ⟨_, after, less⟩
  · exact first
  · rcases first with rfl | ⟨before, _, less'⟩
    · exact .inr ⟨‹_›, after, less⟩
    · exact .inr ⟨before, after, Nat.lt_trans less' less⟩

private theorem Grows.prefix_iff (grows : Grows base path path') (before : base <+: path) :
    base <+: path' := by
  rcases grows with rfl | ⟨_, after, _⟩
  · exact before
  · exact after

private theorem Grows.eq_of_weight_le (grows : Grows base path path')
    (back : weight path' ≤ weight path) : path' = path :=
  grows.resolve_right fun ⟨_, _, less⟩ => Nat.not_le_of_lt less back

theorem Grown.refl (base : Text) (infos : List ConfigStrings) : Grown base infos infos :=
  List.forall₂_same.mpr fun _ _ => ⟨rfl, .refl _ _⟩

theorem Grown.mono (shorter : base' <+: base) (grown : Grown base infos infos') :
    Grown base' infos infos' :=
  List.Forall₂.imp (fun _ _ pair => ⟨pair.1, pair.2.mono shorter⟩) grown

theorem Grown.trans (first : Grown base infos infos') (second : Grown base infos' infos'') :
    Grown base infos infos'' := by
  induction first generalizing infos'' with
  | nil => exact second
  | cons pair _ ih =>
    obtain ⟨info'', rest, pair', later, rfl⟩ := List.forall₂_cons_left_iff.mp second
    exact .cons ⟨pair'.1.trans pair.1, pair.2.trans pair'.2⟩ (ih later)

theorem Grown.append (first : Grown base infos infos') (second : Grown base others others') :
    Grown base (infos ++ others) (infos' ++ others') :=
  List.rel_append first second

theorem Grown.map (grows : ∀ path, Grows base path (change path)) (infos : List ConfigStrings) :
    Grown base infos (infos.map (changed change)) :=
  List.forall₂_map_right_iff.mpr (List.forall₂_same.mpr fun info _ => ⟨rfl, grows info.path⟩)

def totalWeight (infos : List ConfigStrings) : Nat := (infos.map fun info => weight info.path).sum

theorem Grown.totalWeight_le (grown : Grown base infos infos') :
    totalWeight infos ≤ totalWeight infos' := by
  induction grown with
  | nil => exact Nat.le_refl _
  | cons pair _ ih => exact Nat.add_le_add pair.2.weight_le ih

theorem Grown.eq_of_totalWeight_le (grown : Grown base infos infos')
    (back : totalWeight infos' ≤ totalWeight infos) : infos' = infos := by
  induction grown with
  | nil => rfl
  | @cons info info' infos infos' pair later ih =>
    have heavier := pair.2.weight_le
    have heavier' := Grown.totalWeight_le later
    simp only [totalWeight, List.map_cons, List.sum_cons] at back heavier' ih
    have path := pair.2.eq_of_weight_le (by omega)
    rw [ih (by omega)]
    congr 1
    cases info
    cases info'
    cases path
    cases pair.1
    rfl

theorem Grown.antisymm (first : Grown base infos infos') (second : Grown base' infos' infos) :
    infos' = infos :=
  first.eq_of_totalWeight_le second.totalWeight_le

end Growth

section Update

variable {front : List Segment} {entry name : Text} {keys : List (Text × Text)}
  {infos own : List ConfigStrings}

private theorem findKey_nil (name : Text) : nconfXmlutilsFindKey [] name = false := rfl

theorem updatePath_below (plain : Segment.Plain ⟨entry, keys⟩) (filled : name ≠ [])
    (fresh : name ∉ keys.map Prod.fst) (value rest : Text) :
    updatePath (rendered (front ++ [⟨entry, keys⟩])) name value
        (rendered (front ++ [⟨entry, keys⟩]) ++ '/' :: rest) =
      rendered (front ++ [⟨entry, keys ++ [(name, value)]⟩]) ++ '/' :: rest := by
  have update : updatePath (rendered (front ++ [⟨entry, keys⟩])) name value
      (rendered (front ++ [⟨entry, keys⟩]) ++ ([] ++ '/' :: rest)) = _ :=
    updatePath_within plain List.not_mem_nil filled fresh value rest
  rw [findKey_nil, if_neg Bool.false_ne_true, List.nil_append, List.nil_append, List.append_nil,
    ← List.append_assoc, rendered_addKey plain.name.bar] at update
  exact update

private theorem weight_keyInfoNew (before name value : Text) : 0 < weight (keyInfoNew before name value) := by
  rw [weight, List.countP_pos_iff]
  refine ⟨':', ?_, by decide⟩
  rw [keyInfoNew]
  split <;> simp [keyPair]

theorem updatePath_cases (front : List Segment) (plain : Segment.Plain ⟨entry, keys⟩) (filled : name ≠ [])
    (fresh : name ∉ keys.map Prod.fst) (value path : Text) :
    let entryPath := rendered (front ++ [⟨entry, keys⟩])
    ¬ Overreach entryPath name path ∧ updatePath entryPath name value path = path ∨
      Overreach entryPath name path ∧ entryPath <+: path ∧
        entryPath <+: updatePath entryPath name value path ∧
        weight path < weight (updatePath entryPath name value path) := by
  intro entryPath
  by_cases start : entryPath <+: path
  · obtain ⟨rest, rfl⟩ := start
    rw [Overreach, List.drop_left]
    by_cases slash : '/' ∈ rest
    · obtain ⟨part, after, rfl, first⟩ := List.eq_append_cons_of_mem slash
      rw [Library.takeWhile_mark first, updatePath_within plain first filled fresh]
      cases key : nconfXmlutilsFindKey part name with
      | true =>
        refine .inl ⟨fun reach => Bool.noConfusion reach.2.2, ?_⟩
        rw [if_pos rfl, List.nil_append]
      | false =>
        refine .inr ⟨⟨List.prefix_append _ _, slash, rfl⟩, List.prefix_append _ _,
          List.prefix_append _ _, ?_⟩
        rw [if_neg Bool.false_ne_true]
        have more := weight_keyInfoNew (entryPath ++ part) name value
        simp only [weight_append, entryPath] at more ⊢
        omega
    · exact .inl ⟨fun reach => slash reach.2.1, updatePath_end plain slash name value⟩
  · exact .inl ⟨fun reach => start reach.1, updatePath_apart start name value⟩

theorem updatePath_grows (front : List Segment) (plain : Segment.Plain ⟨entry, keys⟩) (filled : name ≠ [])
    (fresh : name ∉ keys.map Prod.fst) (value path : Text) :
    Grows (rendered (front ++ [⟨entry, keys⟩])) path
      (updatePath (rendered (front ++ [⟨entry, keys⟩])) name value path) := by
  rcases updatePath_cases front plain filled fresh value path with
    ⟨_, same⟩ | ⟨_, before, after, less⟩
  · exact .inl same
  · exact .inr ⟨before, after, less⟩

theorem Grown.addKey (plain : Segment.Plain ⟨entry, keys⟩) (filled : name ≠ [])
    (fresh : name ∉ keys.map Prod.fst) (value : Text)
    (below : ∀ info ∈ infos, rendered (front ++ [⟨entry, keys⟩]) ++ ['/'] <+: info.path)
    (grown : Grown (rendered (front ++ [⟨entry, keys⟩]) ++ ['/']) infos own) :
    let update := changed (updatePath (rendered (front ++ [⟨entry, keys⟩])) name value)
    Grown (rendered (front ++ [⟨entry, keys ++ [(name, value)]⟩]) ++ ['/'])
        (infos.map update) (own.map update) ∧
      (own.map update = infos.map update → own = infos) := by
  intro update
  induction grown with
  | nil => exact ⟨.nil, fun _ => rfl⟩
  | @cons info info' infos own pair _ ih =>
    obtain ⟨first, later⟩ := List.forall_mem_cons.mp below
    obtain ⟨grown, same⟩ := ih later
    obtain ⟨rest, path⟩ := first
    obtain ⟨rest', path'⟩ := pair.2.prefix_iff ⟨rest, path⟩
    rw [List.append_assoc, List.singleton_append] at path path'
    have here : (update info).path =
        rendered (front ++ [⟨entry, keys ++ [(name, value)]⟩]) ++ '/' :: rest := by
      rw [← updatePath_below plain filled fresh value rest, path]
      rfl
    have here' : (update info').path =
        rendered (front ++ [⟨entry, keys ++ [(name, value)]⟩]) ++ '/' :: rest' := by
      rw [← updatePath_below plain filled fresh value rest', path']
      rfl
    constructor
    · refine .cons ⟨pair.1, ?_⟩ grown
      rw [here, here']
      rcases pair.2 with equal | ⟨_, _, less⟩
      · rw [← path, ← path', List.append_cancel_left_eq] at equal
        exact .inl (by rw [equal])
      · refine .inr ⟨⟨rest, by simp⟩, ⟨rest', by simp⟩, ?_⟩
        rw [← path, ← path', weight_append, weight_append] at less
        rw [weight_append, weight_append]
        omega
    · intro equal
      rw [List.map_cons, List.map_cons, List.cons_eq_cons] at equal
      have paths := congrArg ConfigStrings.path equal.1
      rw [here, here', List.append_cancel_left_eq] at paths
      rw [same equal.2]
      congr 1
      have samePath : info'.path = info.path := by rw [← path, ← path', paths]
      cases info
      cases info'
      cases samePath
      cases pair.1
      rfl

end Update

end EnetTsn.Netconf
