import EnetTsn.Uniconf.RuntimeItems

namespace EnetTsn.Uniconf

open EnetTsn.Library

namespace YangDbRuntimeData

/-- The runtime data with the module of its path: the module is in its read-write form, and every
counted value key is there, or marked as one without a value. -/
structure WellFormed (module : UInt8) (ydrd : YangDbRuntimeData) : Prop where
  depth : ydrd.api.toNat ≤ maxApDepth
  first : ydrd.api ≠ 0 → ydrd.aps 0 = module ∧ module < xl4DataRo
  count : ydrd.totalKpi ≤ maxKvDepth
  present : ∀ i < ydrd.totalKpi, ydrd.kvs i ≠ none ∨ ydrd.kss i = 1

@[simp]
theorem setAp_totalKpi (ydrd : YangDbRuntimeData) (place : Nat) (ap : UInt8) :
    (ydrd.setAp place ap).totalKpi = ydrd.totalKpi := rfl

@[simp]
theorem setKv_totalKpi (ydrd : YangDbRuntimeData) (place : Nat) (kv : Option (List UInt8))
    (ks : UInt8) : (ydrd.setKv place kv ks).totalKpi = ydrd.totalKpi := rfl

theorem totalKpi_congr {ydrd ydrd' : YangDbRuntimeData} (api : ydrd'.api = ydrd.api)
    (same : ∀ i < ydrd.api.toNat, ydrd'.kpi i = ydrd.kpi i) : ydrd'.totalKpi = ydrd.totalKpi := by
  unfold totalKpi
  rw [api]
  congr 1
  apply List.map_congr_left
  intro i member
  rw [same i (List.mem_range.mp member)]

section

variable (ydrd : YangDbRuntimeData)

private theorem setKpi_totalKpi_above (count : UInt8)
    (above : ydrd.api.toNat ≤ place) : (ydrd.setKpi place count).totalKpi = ydrd.totalKpi := by
  have same : (ydrd.setKpi place count).api = ydrd.api := rfl
  apply totalKpi_congr same
  intro i below
  exact Function.update_of_ne (by omega) _ _

private theorem sum_update (f : Nat → UInt8) (count : UInt8) (inside : place < n) :
    ((List.range n).map fun i => (Function.update f place count i).toNat).sum + (f place).toNat =
      ((List.range n).map fun i => (f i).toNat).sum + count.toNat := by
  induction n with
  | zero => omega
  | succ n ih =>
    simp only [List.range_succ, List.map_append, List.sum_append, List.map_cons, List.map_nil,
      List.sum_cons, List.sum_nil]
    by_cases last : place = n
    · subst last
      have rest : (List.range place).map (fun i => (Function.update f place count i).toNat) =
          (List.range place).map fun i => (f i).toNat := by
        apply List.map_congr_left
        intro i member
        rw [Function.update_of_ne (List.mem_range.mp member).ne]
      rw [rest, Function.update_self]
      omega
    · rw [Function.update_of_ne (Ne.symm last)]
      have earlier := ih (by omega)
      omega

theorem setKpi_totalKpi (count : UInt8) (inside : place < ydrd.api.toNat) :
    (ydrd.setKpi place count).totalKpi + (ydrd.kpi place).toNat = ydrd.totalKpi + count.toNat :=
  sum_update ydrd.kpi count inside

theorem kpi_le_totalKpi (inside : place < ydrd.api.toNat) :
    (ydrd.kpi place).toNat ≤ ydrd.totalKpi := by
  have emptied := ydrd.setKpi_totalKpi 0 inside
  simp only [UInt8.toNat_zero, Nat.add_zero] at emptied
  omega

end

private theorem sum_mono (f : Nat → UInt8) (fewer : m ≤ n) :
    ((List.range m).map fun i => (f i).toNat).sum ≤
      ((List.range n).map fun i => (f i).toNat).sum := by
  induction n with
  | zero => rw [Nat.le_zero.mp fewer]
  | succ n ih =>
    rcases Nat.eq_or_lt_of_le fewer with rfl | below
    · exact le_rfl
    · rw [List.range_succ, List.map_append, List.sum_append]
      exact le_add_right (ih (by omega))

private theorem totalKpi_mono {ydrd ydrd' : YangDbRuntimeData}
    (fewer : ydrd'.api.toNat ≤ ydrd.api.toNat) (same : ydrd'.kpi = ydrd.kpi) :
    ydrd'.totalKpi ≤ ydrd.totalKpi := by
  unfold totalKpi
  rw [same]
  exact sum_mono ydrd.kpi fewer

private theorem push_totalKpi (ydrd : YangDbRuntimeData) (ap : UInt8) (room : ydrd.api.toNat < maxApDepth) :
    (ydrd.push ap).totalKpi = ydrd.totalKpi + (ydrd.kpi ydrd.api.toNat).toNat := by
  have longer : (ydrd.api + 1).toNat = ydrd.api.toNat + 1 := by
    simp only [maxApDepth] at room
    simp
    omega
  simp [push, totalKpi, longer, List.range_succ, setAp]

theorem pos_of_ne_zero {api : UInt8} (nonempty : api ≠ 0) : 0 < api.toNat :=
  Nat.pos_of_ne_zero fun zero => nonempty (UInt8.toNat_inj.mp zero)

theorem pop_toNat {api : UInt8} (nonempty : api ≠ 0) : (api - 1).toNat = api.toNat - 1 :=
  UInt8.toNat_sub_of_le _ _ (UInt8.le_iff_toNat_le.mpr (pos_of_ne_zero nonempty))

theorem WellFormed.lower {ydrd ydrd' : YangDbRuntimeData} (kept : WellFormed module ydrd)
    (shorter : ydrd'.api.toNat ≤ ydrd.api.toNat) (first : ydrd'.api ≠ 0 → ydrd'.aps 0 = ydrd.aps 0)
    (fewer : ydrd'.totalKpi ≤ ydrd.totalKpi)
    (same : ∀ i < ydrd'.totalKpi, ydrd'.kvs i = ydrd.kvs i ∧ ydrd'.kss i = ydrd.kss i) :
    WellFormed module ydrd' where
  depth := shorter.trans kept.depth
  first nonempty := by
    have before : ydrd.api ≠ 0 := by
      intro empty
      rw [empty] at shorter
      exact absurd (pos_of_ne_zero nonempty) (not_lt.mpr shorter)
    rw [first nonempty]
    exact kept.first before
  count := fewer.trans kept.count
  present i counted := by
    rw [(same i counted).1, (same i counted).2]
    exact kept.present i (counted.trans_le fewer)

/-- Runtime data that differ in the nodes of the path behind the first one at most. -/
structure Alike (ydrd' ydrd : YangDbRuntimeData) : Prop where
  api : ydrd'.api = ydrd.api
  first : ydrd'.aps 0 = ydrd.aps 0
  kpi : ydrd'.kpi = ydrd.kpi
  kvs : ydrd'.kvs = ydrd.kvs
  kss : ydrd'.kss = ydrd.kss

theorem Alike.trans {first second third : YangDbRuntimeData} (left : Alike first second)
    (right : Alike second third) : Alike first third where
  api := left.api.trans right.api
  first := left.first.trans right.first
  kpi := left.kpi.trans right.kpi
  kvs := left.kvs.trans right.kvs
  kss := left.kss.trans right.kss

theorem Alike.totalKpi {ydrd ydrd' : YangDbRuntimeData} (alike : Alike ydrd' ydrd) :
    ydrd'.totalKpi = ydrd.totalKpi :=
  totalKpi_congr alike.api fun i _ => congrFun alike.kpi i

theorem WellFormed.alike (kept : WellFormed module ydrd) (alike : Alike ydrd' ydrd) :
    WellFormed module ydrd' :=
  kept.lower (Nat.le_of_eq (congrArg UInt8.toNat alike.api)) (fun _ => alike.first)
    (Nat.le_of_eq alike.totalKpi)
    fun i _ => ⟨congrFun alike.kvs i, congrFun alike.kss i⟩

theorem setAp_alike (ydrd : YangDbRuntimeData) (ap : UInt8) (later : place ≠ 0) :
    Alike (ydrd.setAp place ap) ydrd :=
  ⟨rfl, Function.update_of_ne later.symm _ _, rfl, rfl, rfl⟩

theorem WellFormed.ended {ydrd : YangDbRuntimeData} (kept : WellFormed module ydrd) (ap : UInt8) :
    WellFormed module (ydrd.setAp ydrd.api.toNat ap) := by
  refine kept.lower le_rfl ?_ le_rfl fun _ _ => ⟨rfl, rfl⟩
  intro nonempty
  exact Function.update_of_ne (pos_of_ne_zero nonempty).ne _ _

theorem WellFormed.uncounted (kept : WellFormed module ydrd) (above : ydrd.totalKpi ≤ place)
    (kv : Option (List UInt8)) (ks : UInt8) : WellFormed module (ydrd.setKv place kv ks) := by
  refine kept.lower le_rfl (fun _ => rfl) le_rfl ?_
  intro i counted
  have other : i ≠ place := (counted.trans_le above).ne
  exact ⟨Function.update_of_ne other _ _, Function.update_of_ne other _ _⟩

theorem WellFormed.left (kept : WellFormed module ydrd) (above : ydrd.totalKpi ≤ place)
    (kv : Option (List UInt8)) :
    WellFormed module { ydrd with kvs := Function.update ydrd.kvs place kv } := by
  refine kept.lower le_rfl (fun _ => rfl) le_rfl ?_
  intro i counted
  exact ⟨Function.update_of_ne (counted.trans_le above).ne _ _, rfl⟩

theorem WellFormed.released (kept : WellFormed module ydrd) (above : ydrd.totalKpi ≤ place) :
    WellFormed module (ydrd.releaseKv place) := by
  unfold releaseKv
  split
  · exact kept.uncounted above none 0
  · exact kept

theorem WellFormed.popped {ydrd : YangDbRuntimeData} (kept : WellFormed module ydrd)
    (nonempty : ydrd.api ≠ 0) : WellFormed module { ydrd with api := ydrd.api - 1 } := by
  have shorter : (ydrd.api - 1).toNat ≤ ydrd.api.toNat := by
    rw [pop_toNat nonempty]
    omega
  exact kept.lower shorter (fun _ => rfl) (totalKpi_mono shorter rfl) fun _ _ => ⟨rfl, rfl⟩

theorem WellFormed.forgotten (kept : WellFormed module ydrd) (inside : place < ydrd.api.toNat) :
    WellFormed module (ydrd.setKpi place 0) := by
  have fewer : (ydrd.setKpi place 0).totalKpi ≤ ydrd.totalKpi := by
    have total := ydrd.setKpi_totalKpi 0 inside
    simp only [UInt8.toNat_zero] at total
    omega
  exact kept.lower le_rfl (fun _ => rfl) fewer fun _ _ => ⟨rfl, rfl⟩

theorem countKeyv_wellFormed {ydrd : YangDbRuntimeData} (kept : WellFormed module ydrd)
    (nonempty : ydrd.api ≠ 0) (few : ydrd.totalKpi < maxKvDepth)
    (there : ydrd.kvs ydrd.totalKpi ≠ none ∨ ydrd.kss ydrd.totalKpi = 1) (res : Int) :
    WellFormed module (ydrd.countKeyv ydrd.totalKpi res).1 := by
  have inside : ydrd.api.toNat - 1 < ydrd.api.toNat := by
    have := pos_of_ne_zero nonempty
    omega
  have counted : WellFormed module
      (ydrd.setKpi (ydrd.api.toNat - 1) (ydrd.kpi (ydrd.api.toNat - 1) + 1)) ∧
      (ydrd.setKpi (ydrd.api.toNat - 1) (ydrd.kpi (ydrd.api.toNat - 1) + 1)).totalKpi =
        ydrd.totalKpi + 1 := by
    have total := ydrd.setKpi_totalKpi (ydrd.kpi (ydrd.api.toNat - 1) + 1) inside
    have bound := ydrd.kpi_le_totalKpi inside
    simp only [maxKvDepth] at few
    have more : (ydrd.kpi (ydrd.api.toNat - 1) + 1).toNat =
        (ydrd.kpi (ydrd.api.toNat - 1)).toNat + 1 := by
      simp
      omega
    have one : (ydrd.setKpi (ydrd.api.toNat - 1) (ydrd.kpi (ydrd.api.toNat - 1) + 1)).totalKpi =
        ydrd.totalKpi + 1 := by omega
    refine ⟨⟨kept.depth, kept.first, ?_, ?_⟩, one⟩
    · rw [one]
      exact few
    · intro i below
      rw [one] at below
      rcases Nat.lt_succ_iff_lt_or_eq.mp below with earlier | rfl
      · exact kept.present i earlier
      · exact there
  unfold countKeyv
  split
  · exact kept
  · split
    · exact counted.1
    · exact counted.1.released counted.2.le

private theorem switched_back (first : UInt8) : first + xl4DataRo - xl4DataRo = first :=
  UInt8.add_sub_cancel _ _

theorem setAp_back (ydrd : YangDbRuntimeData) :
    (ydrd.setAp 0 (ydrd.aps 0 + xl4DataRo)).setAp 0 (ydrd.aps 0) = ydrd := by
  simp [setAp]

theorem keyLeaf_alike {ydrd leaf : YangDbRuntimeData} (nonempty : ydrd.api ≠ 0)
    (found : ydrd.keyLeaf env kn rvi = some leaf) : Alike leaf ydrd := by
  obtain ⟨number, _, rfl⟩ := Option.map_eq_some_iff.mp found
  have below : Alike (ydrd.setAp ydrd.api.toNat 0) ydrd :=
    ydrd.setAp_alike 0 (pos_of_ne_zero nonempty).ne'
  exact (setAp_alike _ number (Nat.succ_ne_zero _)).trans below

theorem lookUpKey_found {ydrd : YangDbRuntimeData}
    (found : (ydrd.lookUpKey env).2 = some kvtype) : ydrd.lookUpKey env = (ydrd, some kvtype) := by
  unfold lookUpKey at found ⊢
  cases rw : env.dbalGet (ydrd.typeKey (ydrd.api.toNat + 2)) with
  | some => simpa [rw] using found
  | none =>
    simp only [rw] at found ⊢
    split at found
    · have back : (ydrd.setAp 0 (ydrd.aps 0 + xl4DataRo)).aps 0 - xl4DataRo = ydrd.aps 0 := by
        simp [setAp]
      simp only [Option.some.injEq] at found
      rw [back, setAp_back, found]
    · split at found <;> cases found

private theorem lookUpKey_alike (depth : ydrd.api.toNat ≤ maxApDepth) :
    Alike (ydrd.lookUpKey env).1 ydrd := by
  cases found : (ydrd.lookUpKey env).2 with
  | some kvtype =>
    rw [lookUpKey_found found]
    exact ⟨rfl, rfl, rfl, rfl, rfl⟩
  | none =>
    unfold lookUpKey at found ⊢
    split
    · exact ⟨rfl, rfl, rfl, rfl, rfl⟩
    · dsimp only
      split
      · exact ⟨rfl, by simp [setAp], rfl, rfl, rfl⟩
      · have room : ydrd.api.toNat + 4 < apsdSize := by
          simp only [maxApDepth, apsdSize] at depth ⊢
          omega
        have inside : (ydrd.setAp 0 (ydrd.aps 0 + xl4DataRo)).api.toNat + 4 < apsdSize := room
        rw [if_pos inside]
        exact ⟨rfl, by simp [setAp], rfl, rfl, rfl⟩

end YangDbRuntimeData

/-- Whether a value key whose type is known is rejected before it is counted, or there is room for
its count. -/
def soundCount (env : RuntimeSurroundings) (memory : TextMemory) (kp hints : Nat) (kvtype : UInt8)
    (ydrd : YangDbRuntimeData) : Bool :=
  decide (ydrd.totalKpi < maxKvDepth) ||
    decide (memory.at' kp ≠ 0) && !(ydrd.keyValue env memory kp hints kvtype).isOk

/-- Whether `proc_get_keyv` stays away from what it cannot do: count an eleventh key, or put the
mirror's nodes back when the type of a mirrored key is unknown. -/
def soundKeyv (env : RuntimeSurroundings) (memory : TextMemory) (kv : Nat) (hints : Option Nat)
    (ydrd : YangDbRuntimeData) : Bool :=
  let cut := cutKeyv memory kv
  let countable := soundCount env cut (keyvPlace memory kv) (hints.getD kv)
  if ydrd.aps 0 = xl4DataRw then
    decide (ydrd.api ≤ 3 ∨ ydrd.aps 1 ≠ ucMirror ∨ ydrd.aps 2 ≠ ucMirrorDevice) ||
      (ydrd.keyLeaf env (cut.text kv) 3).all fun leaf =>
        ((leaf.shiftDown (leaf.api.toNat - 1)).lookUpKey env).2.any fun kvtype =>
          countable kvtype leaf
  else
    decide (ydrd.api = 0) || (ydrd.keyLeaf env (cut.text kv) 0).all fun leaf =>
      (leaf.lookUpKey env).2.all fun kvtype => countable kvtype leaf

namespace YangDbRuntimeData

theorem storeKeyv_wellFormed (kept : WellFormed module ydrd) (nonempty : ydrd.api ≠ 0)
    (sound : soundCount env memory kp hints kvtype ydrd = true) :
    WellFormed module (ydrd.storeKeyv env memory kp hints kvtype).1 := by
  have few (counted : memory.at' kp = 0 ∨
      (ydrd.keyValue env memory kp hints kvtype).isOk = true) : ydrd.totalKpi < maxKvDepth := by
    simp only [soundCount, Bool.or_eq_true, Bool.and_eq_true, decide_eq_true_eq,
      Bool.not_eq_true'] at sound
    rcases sound with few | ⟨there, failed⟩
    · exact few
    · rcases counted with absent | converted
      · exact absurd absent there
      · rw [failed] at converted
        cases converted
  unfold storeKeyv
  split
  · rename_i absent
    exact countKeyv_wellFormed (kept.uncounted le_rfl none 1) nonempty (few (.inl absent))
      (.inr (Function.update_self ..)) 1
  · split
    · exact kept.left le_rfl _
    · rename_i value converted
      have room := few (.inr (by rw [converted]; rfl))
      have there : (ydrd.setKv ydrd.totalKpi (some value) (UInt8.ofNat value.length)).kvs
          ydrd.totalKpi ≠ none := by
        simp [setKv]
      exact countKeyv_wellFormed (kept.uncounted le_rfl (some value) _) nonempty room (.inl there) 0

theorem keyvPlain_wellFormed {ydrd : YangDbRuntimeData} (kept : WellFormed module ydrd)
    (nonempty : ydrd.api ≠ 0)
    (sound : ((ydrd.keyLeaf env (TextMemory.text memory kn) 0).all fun leaf =>
      (leaf.lookUpKey env).2.all fun kvtype => soundCount env memory kp hints kvtype leaf) = true) :
    WellFormed module (ydrd.keyvPlain env memory kn kp hints).1 := by
  unfold keyvPlain
  cases found : ydrd.keyLeaf env (TextMemory.text memory kn) 0 with
  | none => exact kept.ended 0
  | some leaf =>
    have alike := keyLeaf_alike nonempty found
    have before := kept.alike alike
    rw [found, Option.all_some] at sound
    cases typed : (leaf.lookUpKey env).2 with
    | none =>
      have outcome : leaf.lookUpKey env = ((leaf.lookUpKey env).1, none) := Prod.ext rfl typed
      dsimp only
      rw [outcome]
      exact before.alike (lookUpKey_alike before.depth)
    | some kvtype =>
      rw [typed, Option.all_some] at sound
      simp only [lookUpKey_found typed]
      exact storeKeyv_wellFormed before (alike.api ▸ nonempty) sound

theorem shiftUp_shiftDown (ydrd : YangDbRuntimeData) (count : Nat) :
    (ydrd.shiftDown count).shiftUp count (ydrd.aps 0) (ydrd.aps 1) (ydrd.aps 2) = ydrd := by
  have nodes : (fun i => if i = 0 then ydrd.aps 0 else if i = 1 then ydrd.aps 1
      else if i = 2 then ydrd.aps 2
      else if i < count + 3 then (ydrd.shiftDown count).aps (i - 3)
      else (ydrd.shiftDown count).aps i) = ydrd.aps := by
    funext i
    simp only [shiftDown]
    split_ifs with zero one two below low high
    · rw [zero]
    · rw [one]
    · rw [two]
    · rw [Nat.sub_add_cancel (by omega)]
    · omega
    · omega
    · rfl
  have back : ydrd.api - 3 + 3 = ydrd.api := UInt8.sub_add_cancel _ _
  unfold shiftUp
  rw [nodes]
  simp only [shiftDown, back]

theorem keyvMirrored_wellFormed {ydrd : YangDbRuntimeData} (kept : WellFormed module ydrd)
    (long : 3 < ydrd.api) (sound : ((ydrd.keyLeaf env (TextMemory.text memory kn) 3).all fun leaf =>
      ((leaf.shiftDown (leaf.api.toNat - 1)).lookUpKey env).2.any fun kvtype =>
        soundCount env memory kp hints kvtype leaf) = true) :
    WellFormed module (ydrd.keyvMirrored env memory kn kp hints).1 := by
  have nonempty : ydrd.api ≠ 0 := by
    rintro zero
    rw [zero] at long
    cases long
  unfold keyvMirrored
  cases found : ydrd.keyLeaf env (TextMemory.text memory kn) 3 with
  | none => exact kept.ended 0
  | some leaf =>
    have alike := keyLeaf_alike nonempty found
    rw [found, Option.all_some] at sound
    obtain ⟨kvtype, typed, countable⟩ := (Option.any_eq_true _ _).mp sound
    have shorter : (leaf.shiftDown (leaf.api.toNat - 1)).api.toNat + 2 = leaf.api.toNat - 1 := by
      have long' : 3 < ydrd.api.toNat := UInt8.lt_iff_toNat_lt.mp long
      have down : (leaf.api - 3).toNat = leaf.api.toNat - 3 :=
        UInt8.toNat_sub_of_le _ _ (alike.api ▸ UInt8.le_iff_toNat_le.mpr long'.le)
      rw [shiftDown, down, alike.api]
      omega
    simp only [lookUpKey_found typed, shorter, shiftUp_shiftDown]
    exact storeKeyv_wellFormed (kept.alike alike) (alike.api ▸ nonempty) countable

theorem keyvDevice_wellFormed (kept : WellFormed module ydrd) (three : ydrd.api = 3) :
    WellFormed module (ydrd.keyvDevice env memory kp).1 := by
  unfold keyvDevice
  split
  · exact kept
  · rename_i empty
    have none' : ydrd.totalKpi = 0 := not_not.mp empty
    split
    · let named := ydrd.setKv 0 (some (TextMemory.text memory kp ++ [0]))
        (UInt8.ofNat ((TextMemory.text memory kp).length + 1))
      have inside : 2 < named.api.toNat := by
        change 2 < ydrd.api.toNat
        rw [three]
        decide
      have total := named.setKpi_totalKpi 1 inside
      have before : named.totalKpi = 0 := none'
      have bound := named.kpi_le_totalKpi inside
      have one : (named.setKpi 2 1).totalKpi = 1 := by
        simp only [UInt8.toNat_one] at total
        omega
      refine ⟨kept.depth, kept.first, ?_, ?_⟩
      · rw [one]
        decide
      · intro i counted
        change i < (named.setKpi 2 1).totalKpi at counted
        rw [one, Nat.lt_one_iff] at counted
        subst counted
        left
        simp [setKpi, setKv]
    · exact kept.left none'.le none

theorem procGetKeyv_wellFormed (kept : WellFormed module ydrd)
    (sound : soundKeyv env memory kv hints ydrd = true) :
    WellFormed module (ydrd.procGetKeyv env memory kv hints).1 := by
  unfold procGetKeyv
  split
  · exact kept
  · rename_i nonempty
    have restored (outcome : YangDbRuntimeData × TextMemory × Int)
        (held : WellFormed module outcome.1) : WellFormed module
        (if memory.at' (colonOf memory kv) ≠ 0 ∧ 0 ≤ outcome.2.2 then
          (outcome.1, List.set outcome.2.1 (colonOf memory kv) 58, outcome.2.2)
        else outcome).1 := by
      split <;> exact held
    split
    · rename_i data
      simp only [soundKeyv, if_pos data, Bool.or_eq_true, decide_eq_true_eq] at sound
      split
      · exact kept
      · rename_i mirror
        split
        · exact keyvDevice_wellFormed kept ‹_›
        · rename_i deeper
          simp only [not_or, not_not] at mirror
          have long : 3 < ydrd.api := by
            exact UInt8.lt_of_le_of_ne (UInt8.not_lt.mp mirror.1) (Ne.symm deeper)
          apply restored
          apply keyvMirrored_wellFormed kept long
          rcases sound with excluded | sound
          · rcases excluded with short | other | other
            · exact absurd short (UInt8.not_le.mpr long)
            · exact absurd mirror.2.1 other
            · exact absurd mirror.2.2 other
          · exact sound
    · rename_i plain
      simp only [soundKeyv, if_neg plain, Bool.or_eq_true, decide_eq_true_eq] at sound
      apply restored
      exact keyvPlain_wellFormed kept nonempty (sound.resolve_left nonempty)

end YangDbRuntimeData

/-- Whether a turn of `proc_get_keyvals` stays away from what `proc_get_keyv` cannot do. -/
def soundKeyvals (env : RuntimeSurroundings) (hints : Nat) (scan : KeyScan) : Bool :=
  let stop := scan.memory.next [keyvDelimiter] scan.kpi
  decide (scan.memory.at' scan.kpi = 0 ∨ scan.memory.at' stop = 0) ||
    soundKeyv env (scan.memory.set stop 0) scan.kpi (some hints) scan.ydrd

open YangDbRuntimeData

theorem keyvalsTurn_wellFormed (kept : WellFormed module scan.ydrd)
    (sound : soundKeyvals env hints scan = true) :
    (∀ next, keyvalsTurn env hints scan = .again next → WellFormed module next.ydrd) ∧
      ∀ final res, keyvalsTurn env hints scan = .leave final res →
        WellFormed module final.ydrd := by
  unfold keyvalsTurn
  split
  · exact ⟨fun _ turn => (nomatch turn), fun _ _ turn => by cases turn; exact kept⟩
  · rename_i inside
    dsimp only
    split
    · exact ⟨fun _ turn => (nomatch turn), fun _ _ turn => by cases turn; exact kept⟩
    · rename_i delimited
      simp only [soundKeyvals, Bool.or_eq_true, decide_eq_true_eq, inside, delimited, or_self,
        false_or] at sound
      have after := procGetKeyv_wellFormed kept sound
      split
      · exact ⟨fun _ turn => (nomatch turn), fun _ _ turn => by cases turn; exact after⟩
      · exact ⟨fun _ turn => by cases turn; exact after, fun _ _ turn => nomatch turn⟩

private theorem procGetKeyvals_wellFormed (kept : WellFormed module ydrd)
    (sound : everyTurn (keyvalsTurn env hints) (soundKeyvals env hints) (memory.length + 1)
      ⟨ydrd, memory, kvstr, 0⟩ = true)
    (finished : procGetKeyvals env memory kvstr hints ydrd = some (keys, gkres)) :
    WellFormed module keys.ydrd :=
  everyTurn_invariant (fun scan => WellFormed module scan.ydrd)
    (fun final _ => WellFormed module final.ydrd) sound finished kept
    (fun _ _ held passed turn => (keyvalsTurn_wellFormed held passed).1 _ turn)
    fun _ _ _ held passed turn => (keyvalsTurn_wellFormed held passed).2 _ _ turn

def rootModule (env : RuntimeSurroundings) (kv : List UInt8) : Option UInt8 :=
  if startsWithDigit kv then octetNumber kv
  else if rootNumber env kv = 0xff then none else some (rootNumber env kv)

def nodeModule (env : RuntimeSurroundings) (kv : List UInt8) (ydrd : YangDbRuntimeData)
    (module : UInt8) : UInt8 :=
  if ydrd.api = 0 then (rootModule env kv).getD module else module

/-- Whether `proc_set_onenode` adds a node without a count of its own. -/
def keepsCount (env : RuntimeSurroundings) (kv : List UInt8) (ydrd : YangDbRuntimeData) : Bool :=
  !startsWithDigit kv && decide (kv ≠ octetsOf "..") &&
    if ydrd.aps 0 = xl4DataRw then decide ((ydrd.procSetPrefixedOnenode env kv).2 = 0)
    else decide (ydrd.aps 0 = xl4ExtmodRw ∧ ydrd.api = 1)

/-- Whether a node name at the root stands for a read-write module, and a node without a count of
its own finds none there. -/
def soundNode (env : RuntimeSurroundings) (kv : List UInt8) (ydrd : YangDbRuntimeData) : Bool :=
  if ydrd.api = 0 then (rootModule env kv).all fun module => decide (module < xl4DataRo)
  else !keepsCount env kv ydrd || decide (ydrd.kpi ydrd.api.toNat = 0)

namespace YangDbRuntimeData

theorem WellFormed.fresh (kept : WellFormed module ydrd) :
    WellFormed module (ydrd.setKpi ydrd.api.toNat 0) :=
  kept.lower le_rfl (fun _ => rfl) (ydrd.setKpi_totalKpi_above 0 le_rfl).le fun _ _ => ⟨rfl, rfl⟩

theorem WellFormed.pushed {ydrd : YangDbRuntimeData} (kept : WellFormed module ydrd)
    (room : ydrd.api.toNat < maxApDepth) (fresh : ydrd.kpi ydrd.api.toNat = 0)
    (root : ydrd.api = 0 → module' = ap ∧ ap < xl4DataRo)
    (below : ydrd.api ≠ 0 → module' = module) : WellFormed module' (ydrd.push ap) := by
  have total : (ydrd.push ap).totalKpi = ydrd.totalKpi := by
    rw [push_totalKpi ydrd ap room, fresh]
    rfl
  refine ⟨?_, ?_, total.le.trans kept.count, ?_⟩
  · exact (Nat.mod_le _ _).trans room
  · intro _
    by_cases empty : ydrd.api = 0
    · obtain ⟨rfl, low⟩ := root empty
      refine ⟨?_, low⟩
      simp [push, setAp, empty]
    · rw [below empty]
      have first : (ydrd.push ap).aps 0 = ydrd.aps 0 :=
        Function.update_of_ne (pos_of_ne_zero empty).ne _ _
      rw [first]
      exact kept.first empty
  · intro i counted
    rw [total] at counted
    exact kept.present i counted

theorem WellFormed.deeper (kept : WellFormed module ydrd) (room : ydrd.api.toNat < maxApDepth)
    (nonempty : ydrd.api ≠ 0) (fresh : ydrd.kpi ydrd.api.toNat = 0) (ap : UInt8) :
    WellFormed module (ydrd.push ap) :=
  kept.pushed room fresh (fun empty => absurd empty nonempty) fun _ => rfl

theorem setKpi_self (ydrd : YangDbRuntimeData) (place : Nat) (count : UInt8) :
    (ydrd.setKpi place count).kpi place = count :=
  Function.update_self ..

private theorem releaseKv_api (ydrd : YangDbRuntimeData) (place : Nat) :
    (ydrd.releaseKv place).api = ydrd.api ∧ (ydrd.releaseKv place).kpi = ydrd.kpi := by
  unfold releaseKv
  split <;> exact ⟨rfl, rfl⟩

theorem pushNode_wellFormed (kept : WellFormed module ydrd) (nonempty : ydrd.api ≠ 0) :
    WellFormed module (ydrd.pushNode env kv roi).1 := by
  unfold pushNode
  dsimp only
  split
  · exact kept
  · split
    · exact kept
    · rename_i number _ room
      let cleared := ydrd.setKpi ydrd.api.toNat 0
      have released := kept.fresh.released (le_refl cleared.totalKpi)
      obtain ⟨api, kpi⟩ := cleared.releaseKv_api cleared.totalKpi
      have same : (cleared.releaseKv cleared.totalKpi).api = ydrd.api := api
      refine released.deeper ?_ ?_ ?_ number
      · rw [same]
        omega
      · rw [same]
        exact nonempty
      · rw [same, kpi]
        exact ydrd.setKpi_self _ 0

private theorem procSetPrefixedOnenode_cases (env : RuntimeSurroundings) (kv : List UInt8)
    (ydrd : YangDbRuntimeData) : (∃ ap, ydrd.procSetPrefixedOnenode env kv = (ydrd.push ap, 0)) ∨
      ∃ res, res ≠ 0 ∧ ydrd.procSetPrefixedOnenode env kv = (ydrd, res) := by
  unfold procSetPrefixedOnenode
  split_ifs
  · exact .inr ⟨-1, by decide, rfl⟩
  · exact .inl ⟨_, rfl⟩
  · exact .inr ⟨-1, by decide, rfl⟩
  · exact .inl ⟨_, rfl⟩
  · exact .inl ⟨_, rfl⟩
  · exact .inl ⟨_, rfl⟩
  · exact .inl ⟨_, rfl⟩
  · exact .inr ⟨1, by decide, rfl⟩

theorem procSetOnenode_root (kept : WellFormed module ydrd) (empty : ydrd.api = 0)
    (sound : ((rootModule env kv).all fun module => decide (module < xl4DataRo)) = true) :
    WellFormed ((rootModule env kv).getD module) (ydrd.procSetOnenode env kv nokv).1 := by
  have room : ydrd.api.toNat < maxApDepth := by
    rw [empty]
    decide
  have named {number : UInt8} (named : rootModule env kv = some number) :
      WellFormed ((rootModule env kv).getD module)
        ((ydrd.setKpi ydrd.api.toNat 0).push number) := by
    rw [named, Option.all_some, decide_eq_true_eq] at sound
    rw [named]
    exact kept.fresh.pushed room (ydrd.setKpi_self _ 0) (fun _ => ⟨rfl, sound⟩)
      fun nonempty => absurd empty nonempty
  have unnamed (unnamed : rootModule env kv = none) :
      WellFormed ((rootModule env kv).getD module) ydrd := by
    rw [unnamed]
    exact kept
  unfold procSetOnenode
  unfold rootModule at named unnamed ⊢
  split
  · rename_i digit
    simp only [if_pos digit] at named unnamed ⊢
    split
    · omega
    · split
      · rename_i missing
        exact (unnamed missing).fresh
      · rename_i number found
        exact named found
  · rename_i word
    simp only [if_neg word] at named unnamed ⊢
    split
    · rename_i invalid
      simp only [if_pos invalid, forall_const] at unnamed ⊢
      have ended := unnamed.ended 0xff
      rw [empty] at ended
      exact ended
    · rename_i valid
      simp only [if_neg valid, Option.some.injEq] at named ⊢
      have pushed := named rfl
      rw [empty] at pushed
      exact pushed

theorem procSetOnenode_below {ydrd : YangDbRuntimeData} (kept : WellFormed module ydrd)
    (room : ydrd.api.toNat < maxApDepth) (nonempty : ydrd.api ≠ 0)
    (sound : (!keepsCount env kv ydrd || decide (ydrd.kpi ydrd.api.toNat = 0)) = true) :
    WellFormed module (ydrd.procSetOnenode env kv nokv).1 := by
  unfold procSetOnenode
  split
  · split
    · exact kept
    · split
      · exact kept.fresh
      · exact kept.fresh.deeper room nonempty (ydrd.setKpi_self _ 0) _
  · rename_i word
    split
    · split
      · exact kept
      · have last : ydrd.api.toNat - 1 < ydrd.api.toNat := by
          have := pos_of_ne_zero nonempty
          omega
        split
        · exact (kept.forgotten last).popped nonempty
        · exact kept.forgotten last
    · rename_i name
      have plain : (!startsWithDigit kv && decide (kv ≠ octetsOf "..")) = true := by
        simp [word, name]
      unfold keepsCount at sound
      rw [plain, Bool.true_and] at sound
      split
      · rename_i data
        rw [if_pos data] at sound
        rcases ydrd.procSetPrefixedOnenode_cases env kv with ⟨ap, outcome⟩ | ⟨res, other, outcome⟩
        · rw [outcome] at sound ⊢
          have fresh : ydrd.kpi ydrd.api.toNat = 0 := by simpa using sound
          exact kept.deeper room nonempty fresh ap
        · rw [outcome]
          dsimp only
          split
          · exact kept
          · exact pushNode_wellFormed kept nonempty
      · rename_i other
        rw [if_neg other] at sound
        split
        · rename_i extmod
          have fresh : ydrd.kpi ydrd.api.toNat = 0 := by simpa [extmod] using sound
          exact kept.deeper room nonempty fresh _
        · exact pushNode_wellFormed kept nonempty

private theorem procSetOnenode_wellFormed (kept : WellFormed module ydrd)
    (room : ydrd.api.toNat < maxApDepth) (sound : soundNode env kv ydrd = true) :
    WellFormed (nodeModule env kv ydrd module) (ydrd.procSetOnenode env kv nokv).1 := by
  unfold nodeModule
  unfold soundNode at sound
  split
  · rename_i empty
    rw [if_pos empty] at sound
    exact procSetOnenode_root kept empty sound
  · rename_i nonempty
    rw [if_neg nonempty] at sound
    exact procSetOnenode_below kept room nonempty sound

end YangDbRuntimeData

/-- Whether the value keys of a node, which begin where the scan is, stay away from what
`proc_get_keyv` cannot do. -/
def soundValues (env : RuntimeSurroundings) (name : Nat) (scan : KeyScan) : Bool :=
  (cutValues scan).all fun after =>
    everyTurn (keyvalsTurn env name) (soundKeyvals env name) (after.memory.length + 1)
      ⟨after.ydrd, after.memory, scan.kpi, 0⟩

/-- Whether a turn of `proc_get_keys` is sound in its node and in its value keys. -/
def soundTurn (env : RuntimeSurroundings) (scan : KeyScan) : Bool :=
  keysEnd scan || soundNode env (nodeName scan) scan.ydrd &&
    (decide ((keysNode env scan).2 ≠ 0) || (cutName scan).2 ||
      soundValues env scan.kpi (restoreDelimiter (keysNode env scan).1))

/-- The module of the path behind a turn of `proc_get_keys`. -/
def keysModule (env : RuntimeSurroundings) (scan : KeyScan) (module : UInt8) : UInt8 :=
  if keysEnd scan then module else nodeModule env (nodeName scan) scan.ydrd module

def itemModule (env : RuntimeSurroundings) (kstr : TextMemory) (ydrd : YangDbRuntimeData)
    (module : UInt8) : UInt8 :=
  match iterate (carrying (keysTurn env) (keysModule env)) (kstr.length + 1)
    (keysStart kstr ydrd, module) with
  | none => module
  | some (final, _) => final.2

theorem keysValues_wellFormed (kept : WellFormed module scan.ydrd)
    (sound : soundValues env name scan = true) :
    (∀ next, keysValues env name scan = .again next → WellFormed module next.ydrd) ∧
      ∀ final res, keysValues env name scan = .leave final res →
        WellFormed module final.ydrd ∧ res = -1 := by
  have same (after : KeyScan) (cut : cutValues scan = some after) : after.ydrd = scan.ydrd := by
    obtain ⟨count, _, rfl⟩ := Option.map_eq_some_iff.mp cut
    dsimp only
    split <;> rfl
  unfold keysValues
  split
  · exact ⟨fun _ turn => (nomatch turn), fun _ _ turn => by cases turn; exact ⟨kept, rfl⟩⟩
  · rename_i after cut
    rw [soundValues, cut, Option.all_some] at sound
    split
    · exact ⟨fun _ turn => (nomatch turn), fun _ _ turn => by cases turn; exact ⟨kept, rfl⟩⟩
    · rename_i keys gkres finished
      have held := procGetKeyvals_wellFormed ((same after cut).symm ▸ kept) sound finished
      split
      · exact ⟨fun _ turn => (nomatch turn), fun _ _ turn => by cases turn; exact ⟨held, rfl⟩⟩
      · exact ⟨fun _ turn => by cases turn; exact held, fun _ _ turn => nomatch turn⟩

theorem keysTurn_wellFormed (kept : WellFormed module scan.ydrd)
    (sound : soundTurn env scan = true) : (∀ next, keysTurn env scan = .again next →
      WellFormed (keysModule env scan module) next.ydrd) ∧
    ∀ final res, keysTurn env scan = .leave final res →
      WellFormed (keysModule env scan module) final.ydrd ∧
        (0 ≤ res → final.ydrd.aps final.ydrd.api.toNat = 255) := by
  unfold keysTurn keysModule
  by_cases ending : keysEnd scan = true
  · rw [if_pos ending, if_pos ending]
    refine ⟨fun _ turn => (nomatch turn), fun _ _ turn => ?_⟩
    cases turn
    exact ⟨kept.ended 255, fun _ => Function.update_self ..⟩
  · rw [if_neg ending, if_neg ending]
    rw [soundTurn, Bool.eq_false_of_not_eq_true ending, Bool.false_or, Bool.and_eq_true] at sound
    obtain ⟨named, valued⟩ := sound
    have room : scan.ydrd.api.toNat < maxApDepth := by
      simp only [keysEnd, decide_eq_true_eq, not_or, not_le] at ending
      exact ending.2
    have node : WellFormed (nodeModule env (nodeName scan) scan.ydrd module)
        (keysNode env scan).1.ydrd := procSetOnenode_wellFormed kept room named
    split
    · refine ⟨fun _ turn => (nomatch turn), fun _ _ turn => ?_⟩
      cases turn
      exact ⟨node, by omega⟩
    · rename_i found
      split
      · exact ⟨fun _ turn => by cases turn; exact node, fun _ _ turn => nomatch turn⟩
      · rename_i keyed
        have values : soundValues env scan.kpi (restoreDelimiter (keysNode env scan).1) = true := by
          simpa [found, keyed] using valued
        have restored : WellFormed (nodeModule env (nodeName scan) scan.ydrd module)
            (restoreDelimiter (keysNode env scan).1).ydrd := node
        have outcome := keysValues_wellFormed restored values
        refine ⟨outcome.1, fun final res turn => ?_⟩
        obtain ⟨held, rfl⟩ := outcome.2 final res turn
        exact ⟨held, by omega⟩

private theorem keysStart_wellFormed (kept : WellFormed module ydrd) (memory : TextMemory) :
    WellFormed module (keysStart memory ydrd).ydrd := by
  unfold keysStart
  split
  · exact ⟨Nat.zero_le _, fun nonempty => absurd rfl nonempty, Nat.zero_le _,
      fun _ counted => nomatch counted⟩
  · exact kept

theorem procGetKeys_wellFormed (kept : WellFormed module ydrd)
    (sound : everyTurn (keysTurn env) (soundTurn env) (List.length kstr + 1) (keysStart kstr ydrd) =
      true) (finished : procGetKeys env kstr ydrd = some (keys, res)) :
    WellFormed (itemModule env kstr ydrd module) keys.ydrd ∧
      (0 ≤ res → keys.ydrd.aps keys.ydrd.api.toNat = 255) := by
  obtain ⟨module', ran⟩ := iterate_carrying (keysModule env) finished module
  have carried := everyTurn_carrying (keysTurn env) (keysModule env) (soundTurn env)
    (List.length kstr + 1) (keysStart kstr ydrd, module)
  unfold itemModule
  rw [ran]
  refine everyTurn_invariant (fun pair => WellFormed pair.2 pair.1.ydrd)
    (fun final result => WellFormed final.2 final.1.ydrd ∧
      (0 ≤ result → final.1.ydrd.aps final.1.ydrd.api.toNat = 255)) (carried.trans sound) ran
    (keysStart_wellFormed kept kstr) ?_ ?_
  · rintro ⟨scan, before⟩ ⟨next, after⟩ held passed turn
    unfold carrying at turn
    split at turn
    · cases turn
    · rename_i moved
      cases turn
      exact (keysTurn_wellFormed held passed).1 _ moved
  · rintro ⟨scan, before⟩ ⟨final, after⟩ result held passed turn
    unfold carrying at turn
    split at turn
    · rename_i left
      cases turn
      exact (keysTurn_wellFormed held passed).2 _ _ left
    · cases turn

/-- Whether the path of a value has a node, and its value has a type, which for mirrored data is one
of the read-write form. -/
def soundValue (env : RuntimeSurroundings) (ydrd : YangDbRuntimeData) : Bool :=
  let ro := ydrd.switchRo
  decide (ydrd.api ≠ 0) && ((ydrd.belowMirror.typeOfValue env).isSome ||
    !ydrd.mirrored && ((ro.typeOfValue env).isSome || decide (ro.lastAp = 1 ∨ ro.lastAp = 2)))

/-- Whether the value key of a list's copy stays away from what `proc_get_keyv` cannot do. -/
def soundCopy (env : RuntimeSurroundings) (vstr : List UInt8) (ydrd : YangDbRuntimeData) : Bool :=
  decide (ydrd.totalKpi < 1) || soundKeyv env (YangDbRuntimeData.copyText vstr) 0 none ydrd.takeLast

namespace YangDbRuntimeData

private theorem mirrored_long {ydrd : YangDbRuntimeData} (ended : ydrd.aps ydrd.api.toNat = 255)
    (mirror : ydrd.mirrored = true) : 3 ≤ ydrd.api.toNat ∧ ydrd.aps 0 = xl4DataRw ∧
      ydrd.aps 1 = ucMirror ∧ ydrd.aps 2 = ucMirrorDevice := by
  have nodes : [ydrd.aps 0, ydrd.aps 1, ydrd.aps 2] = [xl4DataRw, ucMirror, ucMirrorDevice] :=
    of_decide_eq_true mirror
  simp only [List.cons.injEq, and_true] at nodes
  refine ⟨?_, nodes⟩
  by_contra short
  obtain ⟨first, second, third⟩ := nodes
  have place : ydrd.api.toNat = 0 ∨ ydrd.api.toNat = 1 ∨ ydrd.api.toNat = 2 := by omega
  rcases place with place | place | place
  · rw [place, first] at ended
    cases ended
  · rw [place, second] at ended
    cases ended
  · rw [place, third] at ended
    cases ended

theorem getValueType_sound (ended : ydrd.aps ydrd.api.toNat = 255)
    (sound : soundValue env ydrd = true) : ∃ vtype, ydrd.getValueType env = (ydrd, some vtype) ∨
      ydrd.getValueType env = (ydrd.switchRo, some vtype) := by
  simp only [soundValue, Bool.and_eq_true, Bool.or_eq_true, Bool.not_eq_true',
    decide_eq_true_eq, Option.isSome_iff_exists] at sound
  unfold getValueType
  by_cases mirror : ydrd.mirrored = true
  · obtain ⟨long, first, second, third⟩ := mirrored_long ended mirror
    rcases sound.2 with ⟨vtype, typed⟩ | ⟨unmirrored, _⟩
    · have shorter : (ydrd.shiftDown (ydrd.api.toNat - 3)).api.toNat = ydrd.api.toNat - 3 :=
        UInt8.toNat_sub_of_le _ _ (UInt8.le_iff_toNat_le.mpr long)
      have back : ydrd.belowMirror.putBack ydrd.mirrored = ydrd := by
        rw [putBack, if_pos mirror, belowMirror, if_pos mirror, shorter, ← first, ← second, ← third]
        exact ydrd.shiftUp_shiftDown _
      exact ⟨vtype, .inl (by simp only [typed, back])⟩
    · rw [mirror] at unmirrored
      cases unmirrored
  · have plain : ydrd.belowMirror = ydrd := if_neg mirror
    have back (ydrd' : YangDbRuntimeData) : ydrd'.putBack ydrd.mirrored = ydrd' := if_neg mirror
    simp only [plain, back] at sound ⊢
    cases typed : ydrd.typeOfValue env with
    | some vtype => exact ⟨vtype, .inl rfl⟩
    | none =>
      cases typedRo : ydrd.switchRo.typeOfValue env with
      | some vtype => exact ⟨vtype, .inr rfl⟩
      | none =>
        simp only [typed, typedRo, reduceCtorEq, exists_false, false_or] at sound
        by_cases dummy : ydrd.switchRo.lastAp = 1
        · exact ⟨yangVtypeUint8, .inr (by simp only [if_pos dummy])⟩
        · have nsasc := sound.2.2.resolve_left dummy
          exact ⟨yangVtypeString, .inr (by simp only [if_neg dummy, if_pos nsasc])⟩

theorem switchBack_wellFormed {ydrd typed last : YangDbRuntimeData}
    (kept : WellFormed module ydrd) (nonempty : ydrd.api ≠ 0) (unswitched : ydrd.changtoRO = false)
    (switch : typed = ydrd ∨ typed = ydrd.switchRo) (api : last.api = typed.api - 1)
    (first : last.aps 0 = typed.aps 0) (kpi : last.kpi = typed.kpi) (kvs : last.kvs = typed.kvs)
    (kss : last.kss = typed.kss) (noted : last.changtoRO = typed.changtoRO) :
    WellFormed module last.switchBack := by
  have popped := kept.popped nonempty
  rcases switch with rfl | rfl
  · rw [switchBack, noted, unswitched]
    exact popped.alike ⟨api, first, kpi, kvs, kss⟩
  · have switched : ydrd.switchRo.changtoRO = true := rfl
    rw [switchBack, noted, switched, if_pos rfl]
    refine popped.alike ⟨api, ?_, kpi, kvs, kss⟩
    have ro : last.aps 0 = ydrd.aps 0 + xl4DataRo := by
      rw [first]
      exact Function.update_self 0 _ ydrd.aps
    change Function.update last.aps 0 (last.aps 0 - xl4DataRo) 0 = ydrd.aps 0
    rw [Function.update_self, ro, switched_back]

theorem procValue_wellFormed {ydrd : YangDbRuntimeData} (kept : WellFormed module ydrd)
    (ended : ydrd.aps ydrd.api.toNat = 255) (unswitched : ydrd.changtoRO = false)
    (sound : soundValue env ydrd = true) :
    WellFormed module (ydrd.procValue env atype vstr btkey).1 := by
  have nonempty : ydrd.api ≠ 0 := by
    simp only [soundValue, Bool.and_eq_true, decide_eq_true_eq] at sound
    exact sound.1
  obtain ⟨vtype, outcome⟩ := getValueType_sound ended sound
  obtain ⟨typed, typedOf, switch⟩ : ∃ typed, ydrd.getValueType env = (typed, some vtype) ∧
      (typed = ydrd ∨ typed = ydrd.switchRo) := by
    rcases outcome with outcome | outcome
    · exact ⟨_, outcome, .inl rfl⟩
    · exact ⟨_, outcome, .inr rfl⟩
  have deep : typed.api.toNat ≠ 0 := by
    rcases switch with rfl | rfl
    · exact (pos_of_ne_zero nonempty).ne'
    · exact (pos_of_ne_zero nonempty).ne'
  have stored (atype : RuntimeAction) (value : Option (List UInt8)) :
      WellFormed module (typed.storeValue env atype value).1 := by
    have first : (typed.setAp typed.api.toNat 255).aps 0 = typed.aps 0 :=
      Function.update_of_ne deep.symm _ _
    exact switchBack_wellFormed kept nonempty unswitched switch rfl first rfl rfl rfl rfl
  have rejected : WellFormed module { typed with api := typed.api - 1 }.switchBack :=
    switchBack_wellFormed kept nonempty unswitched switch rfl rfl rfl rfl rfl rfl
  unfold procValue
  rw [typedOf]
  cases atype with
  | delete => exact stored .delete none
  | create =>
    dsimp only
    split
    · exact stored .create _
    · exact rejected
    · exact rejected
  | append =>
    dsimp only
    split
    · exact stored .append _
    · exact rejected
    · exact rejected

theorem uncount_spec (ydrd : YangDbRuntimeData)
    (some' : 0 < ((List.range count).map fun i => (ydrd.kpi i).toNat).sum) :
    ∃ place < count, 0 < ydrd.kpi place ∧
      ydrd.uncount count = ydrd.setKpi place (ydrd.kpi place - 1) := by
  induction count with
  | zero => cases some'
  | succ count ih =>
    unfold uncount
    split
    · rename_i here
      exact ⟨count, Nat.lt_succ_self _, here, rfl⟩
    · rename_i none'
      have empty : (ydrd.kpi count).toNat = 0 := by
        have := UInt8.lt_iff_toNat_lt.not.mp none'
        simp only [UInt8.toNat_zero] at this
        omega
      rw [List.range_succ, List.map_append, List.sum_append, List.map_singleton,
        List.sum_singleton, empty, Nat.add_zero] at some'
      obtain ⟨place, inside, counted, outcome⟩ := ih some'
      exact ⟨place, by omega, counted, outcome⟩

theorem takeLast_wellFormed {ydrd : YangDbRuntimeData} (kept : WellFormed module ydrd)
    (some' : 1 ≤ ydrd.totalKpi) : WellFormed module ydrd.takeLast := by
  obtain ⟨place, inside, counted, outcome⟩ :=
    (ydrd.setKv (ydrd.totalKpi - 1) none 0).uncount_spec some'
  have total := ydrd.setKpi_totalKpi (ydrd.kpi place - 1) inside
  have less := pop_toNat (UInt8.pos_iff_ne_zero.mp counted)
  have positive := UInt8.lt_iff_toNat_lt.mp counted
  change (ydrd.kpi place - 1).toNat = (ydrd.kpi place).toNat - 1 at less
  change 0 < (ydrd.kpi place).toNat at positive
  have fewer : ((ydrd.setKv (ydrd.totalKpi - 1) none 0).setKpi place
      (ydrd.kpi place - 1)).totalKpi = ydrd.totalKpi - 1 := by
    change (ydrd.setKpi place (ydrd.kpi place - 1)).totalKpi = ydrd.totalKpi - 1
    omega
  have taken : ydrd.takeLast =
      (ydrd.setKv (ydrd.totalKpi - 1) none 0).setKpi place (ydrd.kpi place - 1) := outcome
  rw [taken]
  refine kept.lower le_rfl (fun _ => rfl) (by omega) ?_
  intro i below
  have other : i ≠ ydrd.totalKpi - 1 := by omega
  exact ⟨Function.update_of_ne other _ _, Function.update_of_ne other _ _⟩

theorem copyList_wellFormed (kept : WellFormed module ydrd)
    (sound : soundCopy env vstr ydrd = true) : WellFormed module (ydrd.copyList env vstr).1 := by
  unfold copyList
  split
  · exact kept
  · rename_i some'
    rw [soundCopy, decide_eq_false some', Bool.false_or] at sound
    have stored := procGetKeyv_wellFormed (takeLast_wellFormed kept (not_lt.mp some')) sound
    split
    rename_i copied memory res outcome
    rw [outcome] at stored
    split
    · let ended := copied.setAp copied.api.toNat 255
      have back : (ended.setAp 0 (ended.aps 0 + xl4DataRo)).aps 0 - xl4DataRo = ended.aps 0 := by
        simp [setAp]
      change WellFormed module ((ended.setAp 0 (ended.aps 0 + xl4DataRo)).setAp 0
        ((ended.setAp 0 (ended.aps 0 + xl4DataRo)).aps 0 - xl4DataRo))
      rw [back, setAp_back]
      exact stored.ended 255
    · exact stored

end YangDbRuntimeData

end EnetTsn.Uniconf
