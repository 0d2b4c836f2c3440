import EnetTsn.Uniconf.RuntimeItemInvariant

/-!
Runs of `proc_one_item`: every item ends, and the runtime data stay well formed over every sequence
of items, failing ones included, as long as no item reaches one of the branches that leave them
otherwise.
-/

namespace EnetTsn.Uniconf

open EnetTsn.Library

namespace TextMemory

theorem lt_length_of_at' {memory : TextMemory} (there : memory.at' place ≠ 0) :
    place < memory.length := by
  by_contra outside
  apply there
  rw [at', List.getD_eq_getElem?_getD, List.getElem?_eq_none (not_lt.mp outside)]
  rfl

variable (memory : TextMemory)

theorem le_next (delimiters : List UInt8) (place : Nat) : place ≤ memory.next delimiters place :=
  Nat.le_add_right _ _

private theorem length_write (place : Nat) (text : List UInt8) :
    (memory.write place text).length = memory.length := by
  induction text generalizing memory place with
  | nil => exact List.length_set
  | cons octet octets ih => exact (ih _ _).trans List.length_set

end TextMemory

private theorem length_cutKeyv (memory : TextMemory) (kv : Nat) :
    (cutKeyv memory kv).length = memory.length := by
  unfold cutKeyv
  split
  · rfl
  · exact List.length_set

namespace YangDbRuntimeData

variable (memory : TextMemory) (ydrd : YangDbRuntimeData)

theorem length_instanceText : (ydrd.instanceText env memory kp).length = memory.length := by
  unfold instanceText
  split
  · split
    · exact TextMemory.length_write _ _ _
    · rfl
  · rfl

theorem length_storeKeyv :
    (ydrd.storeKeyv env memory kp hints kvtype).2.1.length = memory.length := by
  unfold storeKeyv
  split
  · rfl
  · split
    · exact ydrd.length_instanceText memory
    · exact ydrd.length_instanceText memory

private theorem length_keyvPlain : (ydrd.keyvPlain env memory kn kp hints).2.1.length = memory.length := by
  unfold keyvPlain
  split
  · rfl
  · split
    · rfl
    · exact length_storeKeyv memory _

private theorem length_keyvMirrored :
    (ydrd.keyvMirrored env memory kn kp hints).2.1.length = memory.length := by
  unfold keyvMirrored
  split
  · rfl
  · split
    · rfl
    · exact length_storeKeyv memory _

private theorem length_keyvDevice : (ydrd.keyvDevice env memory kp).2.1.length = memory.length := by
  unfold keyvDevice
  split
  · rfl
  · split <;> rfl

theorem length_procGetKeyv : (ydrd.procGetKeyv env memory kv hints).2.1.length = memory.length := by
  have cut := length_cutKeyv memory kv
  have restored (outcome : YangDbRuntimeData × TextMemory × Int)
      (same : outcome.2.1.length = memory.length) :
      (if memory.at' (colonOf memory kv) ≠ 0 ∧ 0 ≤ outcome.2.2 then
        (outcome.1, List.set outcome.2.1 (colonOf memory kv) 58, outcome.2.2)
      else outcome).2.1.length = memory.length := by
    split
    · exact List.length_set.trans same
    · exact same
  unfold procGetKeyv
  split
  · rfl
  · split
    · split
      · exact cut
      · split
        · exact (length_keyvDevice _ ydrd).trans cut
        · exact restored _ ((length_keyvMirrored _ ydrd).trans cut)
    · exact restored _ ((length_keyvPlain _ ydrd).trans cut)

end YangDbRuntimeData

/-- A turn of `proc_get_keyvals` goes on in the text, whose length it keeps. -/
theorem keyvalsTurn_advances (scan : KeyScan) : (∀ next, keyvalsTurn env hints scan = .again next →
      next.memory.length = scan.memory.length ∧ scan.kpi < next.kpi ∧
        scan.kpi < scan.memory.length) ∧
    ∀ final res, keyvalsTurn env hints scan = .leave final res →
      final.memory.length = scan.memory.length := by
  unfold keyvalsTurn
  split
  · exact ⟨fun _ turn => (nomatch turn), fun _ _ turn => by cases turn; rfl⟩
  · rename_i inside
    dsimp only
    split
    · exact ⟨fun _ turn => (nomatch turn), fun _ _ turn => by cases turn; rfl⟩
    · have same : (scan.ydrd.procGetKeyv env
          (scan.memory.set (scan.memory.next [keyvDelimiter] scan.kpi) 0) scan.kpi
          (some hints)).2.1.length = scan.memory.length :=
        (scan.ydrd.length_procGetKeyv _).trans List.length_set
      split
      · exact ⟨fun _ turn => (nomatch turn), fun _ _ turn => by cases turn; exact same⟩
      · refine ⟨fun _ turn => ?_, fun _ _ turn => nomatch turn⟩
        cases turn
        refine ⟨List.length_set.trans same, ?_, TextMemory.lt_length_of_at' inside⟩
        exact Nat.lt_succ_of_le (TextMemory.le_next _ _ _)

private theorem length_procGetKeyvals
    (finished : procGetKeyvals env memory kvstr hints ydrd = some (keys, gkres)) :
    keys.memory.length = memory.length :=
  (iterate_exits finished).invariant (fun scan => scan.memory.length = memory.length)
    (fun final _ => final.memory.length = memory.length) rfl
    (fun scan next same turn => ((keyvalsTurn_advances scan).1 next turn).1.trans same)
    fun scan final res same turn => ((keyvalsTurn_advances scan).2 final res turn).trans same

theorem cutSign_spec (kpi : Nat) (sign : UInt8) (res : Int) (scan : KeyScan) :
    (cutSign kpi sign res scan).memory.length = scan.memory.length ∧
      (cutSign kpi sign res scan).kpi = scan.kpi ∧
      (kpi = scan.kpi → (cutSign kpi sign res scan).memory = scan.memory) := by
  unfold cutSign
  split
  · rename_i signed
    exact ⟨List.length_set, rfl, by omega⟩
  · exact ⟨rfl, rfl, fun _ => rfl⟩

theorem cutName_advances (inside : scan.memory.at' scan.kpi ≠ 0) :
    (cutName scan).1.memory.length = scan.memory.length ∧ scan.kpi < (cutName scan).1.kpi := by
  have le := TextMemory.le_next scan.memory [47, keyvDelimiter] scan.kpi
  obtain ⟨plusLength, plusKpi, plusSame⟩ :=
    cutSign_spec (scan.memory.next [47, keyvDelimiter] scan.kpi) 43 2 scan
  obtain ⟨minusLength, minusKpi, minusSame⟩ :=
    cutSign_spec (scan.memory.next [47, keyvDelimiter] scan.kpi) 45 3
      (cutSign (scan.memory.next [47, keyvDelimiter] scan.kpi) 43 2 scan)
  unfold cutName
  dsimp only
  split
  · rename_i ending
    refine ⟨minusLength.trans plusLength, lt_of_le_of_ne le ?_⟩
    intro (same : scan.kpi = scan.memory.next [47, keyvDelimiter] scan.kpi)
    rw [minusSame (same.symm.trans plusKpi.symm), plusSame same.symm, ← same] at ending
    exact inside ending
  · have length := minusLength.trans plusLength
    split
    · exact ⟨List.length_set.trans length, Nat.lt_succ_of_le le⟩
    · exact ⟨List.length_set.trans length, Nat.lt_succ_of_le le⟩

/-- A turn of `proc_get_keys` goes on in the text, whose length it keeps. -/
theorem keysTurn_advances {scan next : KeyScan} (turn : keysTurn env scan = .again next) :
    next.memory.length = scan.memory.length ∧ scan.kpi < next.kpi ∧
      scan.kpi < scan.memory.length := by
  unfold keysTurn at turn
  split at turn
  · cases turn
  · rename_i going
    simp only [keysEnd, decide_eq_true_eq, not_or] at going
    obtain ⟨same, further⟩ := cutName_advances going.1
    have bound := TextMemory.lt_length_of_at' going.1
    split at turn
    · cases turn
    · split at turn
      · cases turn
        exact ⟨same, further, bound⟩
      · unfold keysValues at turn
        split at turn
        · cases turn
        · rename_i after cut
          obtain ⟨count, _, rfl⟩ := Option.map_eq_some_iff.mp cut
          split at turn
          · cases turn
          · rename_i keys gkres finished
            split at turn
            · cases turn
            · cases turn
              have length := length_procGetKeyvals finished
              refine ⟨length.trans ?_, further.trans ?_, bound⟩
              · have restored : (restoreDelimiter (keysNode env scan).1).memory.length =
                    scan.memory.length := List.length_set.trans same
                dsimp only
                split
                · exact restored
                · exact List.length_set.trans restored
              · dsimp only
                split <;> simp only [restoreDelimiter, keysNode] <;> omega

/-- `proc_get_keys` ends. -/
theorem procGetKeys_ends (env : RuntimeSurroundings) (memory : TextMemory)
    (ydrd : YangDbRuntimeData) : ∃ keys res, procGetKeys env memory ydrd = some (keys, res) := by
  refine iterate_of_measure (fun scan => scan.memory.length = memory.length)
    (fun scan => memory.length - scan.kpi) ?_ ?_ ?_
  · intro scan next same turn
    obtain ⟨kept, further, inside⟩ := keysTurn_advances turn
    exact ⟨kept.trans same, by omega⟩
  · unfold keysStart
    split <;> rfl
  · exact Nat.lt_succ_of_le (Nat.sub_le _ _)

/-- An item of a runtime configuration: the key text, the value text, and what the database answers
meanwhile. -/
structure RuntimeItem where
  env : RuntimeSurroundings
  kstr : TextMemory
  vstr : Option (List UInt8)

/-- The runtime data between two items, and the module that the items so far have named. -/
structure RuntimeState where
  ydrd : YangDbRuntimeData
  module : UInt8

/-- The module at the head of the path is the one that the items have named, in its read-write form,
and the counted value keys are there. -/
def RuntimeState.WellFormed (state : RuntimeState) : Prop :=
  state.ydrd.WellFormed state.module

def runtimeItems : System RuntimeState RuntimeItem where
  start := ⟨.init, 0⟩
  step state item := (state.ydrd.procOneItem item.env item.kstr item.vstr).map fun outcome =>
    ⟨outcome.1, itemModule item.env item.kstr state.ydrd state.module⟩

def soundItemValue (item : RuntimeItem) (res : Int) (ydrd : YangDbRuntimeData) : Bool :=
  decide (res < 0 ∨ res = 1) || match item.vstr with
    | some text =>
      if YangDbRuntimeData.asksForCopy text then soundCopy item.env text ydrd
      else soundValue item.env ydrd
    | none => soundValue item.env ydrd

/-- Whether an item stays away from the branches of `proc_one_item` that leave the data otherwise
than well formed. -/
def soundItem (state : RuntimeState) (item : RuntimeItem) : Bool :=
  everyTurn (keysTurn item.env) (soundTurn item.env) (item.kstr.length + 1)
      (keysStart item.kstr state.ydrd) &&
    match procGetKeys item.env item.kstr state.ydrd with
    | none => true
    | some (keys, res) => soundItemValue item res { keys.ydrd with changtoRO := false }

namespace YangDbRuntimeData

private theorem init_wellFormed (module : UInt8) : WellFormed module init where
  depth := Nat.zero_le _
  first nonempty := absurd rfl nonempty
  count := Nat.zero_le _
  present _ counted := nomatch counted

theorem procItemValue_wellFormed (kept : WellFormed module ydrd)
    (ended : 0 ≤ res → ydrd.aps ydrd.api.toNat = 255) (unswitched : ydrd.changtoRO = false)
    (sound : soundItemValue item res ydrd = true) :
    WellFormed module (ydrd.procItemValue item.env item.vstr btkey res).1 := by
  unfold procItemValue
  split
  · exact kept
  · rename_i found
    split
    · exact kept
    · rename_i valued
      have going : decide (res < 0 ∨ res = 1) = false := by simp [found, valued]
      rw [soundItemValue, going, Bool.false_or] at sound
      have marked := ended (not_lt.mp found)
      split
      · rename_i text given
        rw [given] at sound
        split
        · rename_i copies
          simp only [if_pos copies] at sound
          exact copyList_wellFormed kept sound
        · rename_i plain
          simp only [if_neg plain] at sound
          exact procValue_wellFormed kept marked unswitched sound
      · rename_i absent
        rw [absent] at sound
        exact procValue_wellFormed kept marked unswitched sound

private theorem procOneItem_wellFormed (kept : state.WellFormed) (sound : soundItem state item = true)
    (done : state.ydrd.procOneItem item.env item.kstr item.vstr = some outcome) :
    WellFormed (itemModule item.env item.kstr state.ydrd state.module) outcome.1 := by
  obtain ⟨⟨keys, res⟩, finished, rfl⟩ := Option.map_eq_some_iff.mp done
  rw [soundItem, Bool.and_eq_true, finished] at sound
  obtain ⟨held, ended⟩ := procGetKeys_wellFormed kept sound.1 finished
  have unnoted : WellFormed (itemModule item.env item.kstr state.ydrd state.module)
      { keys.ydrd with changtoRO := false } :=
    held.alike ⟨rfl, rfl, rfl, rfl, rfl⟩
  exact procItemValue_wellFormed unnoted ended rfl sound.2

end YangDbRuntimeData

/-- Over every sequence of sound items, each of which ends, the data stay well formed, also when
items fail: the module is the named one in its read-write form, and each counted key is there. -/
theorem runtimeItems_wellFormed
    (reachable : runtimeItems.Reachable (fun state item => soundItem state item = true) state) :
    state.WellFormed ∧ ∀ item, ∃ next, runtimeItems.step state item = some next := by
  refine ⟨?_, fun item => ?_⟩
  · have start : runtimeItems.start.WellFormed := YangDbRuntimeData.init_wellFormed 0
    refine reachable.invariant RuntimeState.WellFormed start ?_
    intro state item next kept sound taken
    obtain ⟨outcome, done, rfl⟩ := Option.map_eq_some_iff.mp taken
    exact YangDbRuntimeData.procOneItem_wellFormed kept sound done
  · obtain ⟨keys, res, finished⟩ := procGetKeys_ends item.env item.kstr state.ydrd
    have done : ∃ outcome, state.ydrd.procOneItem item.env item.kstr item.vstr = some outcome := by
      rw [YangDbRuntimeData.procOneItem, finished]
      exact ⟨_, rfl⟩
    obtain ⟨outcome, done⟩ := done
    exact ⟨_, Option.map_eq_some_iff.mpr ⟨outcome, done, rfl⟩⟩

/-- A database with a module `m`, whose types are known in the read-only form or not at all. -/
def readOnlyTypes (known : Bool) : RuntimeSurroundings where
  nodeEnums _ rv anumi := if anumi = 6 then rv.head? else some 5
  modEnum kv := if kv = octetsOf "m" then 20 else 0xff
  extmodEnum _ := 0
  dbalGet key := if known && decide (xl4DataRo ≤ key.getD 2 0) then some 12 else none
  ptpInstance _ _ := none
  valueConv _ text _ left := if text = octetsOf "bad" then .error left else .ok text
  dbAction _ _ _ := 0
  listcopy _ := 0
  kstrdup := true
  deviceMemory := true

/-- A value below a keyed node, a bad value beside it, and a good one there. -/
theorem runtimeItems_wellFormed_failing : ∃ state : RuntimeState,
    (state.ydrd.api, state.ydrd.aps 0, state.module, state.ydrd.totalKpi, state.ydrd.kvs 0) =
      (2, 20, 20, 1, some (octetsOf "v")) ∧ state.WellFormed := by
  have ran : ((runtimeItems.restrict soundItem).run runtimeItems.start
      [⟨readOnlyTypes true, octetsOf "/m/a|k:v|/b" ++ [0], some (octetsOf "1")⟩,
        ⟨readOnlyTypes true, octetsOf "c" ++ [0], some (octetsOf "bad")⟩,
        ⟨readOnlyTypes true, octetsOf "c" ++ [0], some (octetsOf "2")⟩]).map
      (fun state => (state.ydrd.api, state.ydrd.aps 0, state.module, state.ydrd.totalKpi,
        state.ydrd.kvs 0)) = some (2, 20, 20, 1, some (octetsOf "v")) := by decide +kernel
  obtain ⟨state, finished, data⟩ := Option.map_eq_some_iff.mp ran
  have reached := (System.reachable_of_run finished).of_restrict fun _ _ passed => passed
  exact ⟨state, data, (runtimeItems_wellFormed reached).1⟩

/-- A value whose type is unknown leaves its module in the read-only form: the switch is undone in
`get_value_type` and again in `proc_one_item`. -/
theorem unknown_type_undone_twice : ∃ state,
    runtimeItems.Reachable System.anyStep state ∧ ¬ state.WellFormed := by
  have ran : (runtimeItems.run runtimeItems.start
      [⟨readOnlyTypes false, octetsOf "/m/a" ++ [0], some (octetsOf "1")⟩]).map
      (fun state => (state.ydrd.api, state.ydrd.aps 0, state.module)) =
        some (1, 20 + xl4DataRo, 20) := by decide +kernel
  obtain ⟨state, finished, data⟩ := Option.map_eq_some_iff.mp ran
  refine ⟨state, System.reachable_of_run finished, fun kept => ?_⟩
  simp only [Prod.mk.injEq] at data
  obtain ⟨api, switched, module⟩ := data
  have nonempty : state.ydrd.api ≠ 0 := by
    rw [api]
    decide
  have same := (kept.first nonempty).1
  rw [switched, module] at same
  cases same

end EnetTsn.Uniconf
