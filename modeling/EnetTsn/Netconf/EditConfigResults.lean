import Mathlib.Tactic.IntervalCases
import EnetTsn.Netconf.EditConfig

namespace EnetTsn.Netconf

/-- What is listed of a request: the modules before the first one that can not be parsed, each
with as many edits as eight bits count. -/
def EditRequest.listed (request : EditRequest) : List (List ConfigEdit) :=
  ((request.config.getD []).takeWhile Option.isSome).map fun module => treeInfo (module.getD [])

def ConfigEdit.Written (edit : ConfigEdit) : Prop := edit.put = 0 ∧ edit.askaction = 0

def LastWritten (configs : List (List ConfigEdit)) : Prop :=
  ∃ edits ∈ configs.getLast?, ∃ edit ∈ edits.getLast?, edit.Written

def RoomFor (count : Nat) (config : List ConfigModule) : Prop :=
  count + config.length ≤ 128 ∨ count + (config.takeWhile Option.isSome).length < 128

/-- When the edits that are listed are all valid, then the request is sound or nothing is
listed, and when the last one is written and saved, then all edits are listed and written. -/
def EditRequest.Served (request : EditRequest) : Prop :=
  (∀ target ∈ request.targets, target = some runningText) → ∀ config ∈ request.config,
    RoomFor 0 config ∧
      (request.listed ≠ [] → (∀ edit ∈ request.listed.flatten, (validateEdit edit).1 = .noError) →
        (request.Sound ∨ request.listed.flatten = []) ∧
        (request.savedb = 0 → LastWritten request.listed →
          request.listed.flatten = request.edits ∧ ∀ edit ∈ request.edits, edit.Written))

section Steps

variable {edit : ConfigEdit} {edits : List ConfigEdit} {configs : List (List ConfigEdit)}
  {config : List ConfigModule} {ret : RpcErrorTag} {res : Int} (ret : RpcErrorTag)

theorem targetsResult_iff (targets : List (Option (List UInt8))) :
    targetsResult ret targets = .noError ↔
      ret = .noError ∧ ∀ target ∈ targets, target = some runningText := by
  induction targets generalizing ret with
  | nil => simp [targetsResult]
  | cons target rest ih =>
    cases target with
    | none =>
      rw [targetsResult, ih]
      simp
    | some name =>
      rw [targetsResult, ih]
      by_cases running : name = runningText
      · simp [running]
      · simp [running]

theorem updateListLoop_spec (size : maxIndex.toNat = 2 ^ power) (small : power ≤ 7)
    (within : configs.length ≤ maxIndex.toNat) :
    (RoomFor configs.length config → updateListLoop maxIndex configs config =
        some (configs ++ (config.takeWhile Option.isSome).map fun module =>
          treeInfo (module.getD []))) ∧
      (¬ RoomFor configs.length config → updateListLoop maxIndex configs config = none) := by
  induction config generalizing maxIndex power configs with
  | nil =>
    have most : 2 ^ power ≤ 2 ^ 7 := Nat.pow_le_pow_right (by decide) small
    refine ⟨fun _ => by simp [updateListLoop], fun none => absurd (.inl ?_) none⟩
    rw [List.length_nil, Nat.add_zero]
    omega
  | cons module rest ih =>
    have most : 2 ^ power ≤ 2 ^ 7 := Nat.pow_le_pow_right (by decide) small
    have doubled : (maxIndex * 2).toNat = 2 ^ power * 2 % 256 := by
      rw [UInt8.toNat_mul, size]
      rfl
    have ends : maxIndex.toNat ≤ configs.length ∧ maxIndex * 2 = 0 ↔ configs.length = 128 := by
      rw [← UInt8.toNat_inj, doubled]
      constructor
      · rintro ⟨full, zero⟩
        interval_cases power <;> simp at zero
        omega
      · intro full
        have whole : 2 ^ power = 128 := by omega
        rw [whole]
        exact ⟨by omega, rfl⟩
    by_cases full : configs.length = 128
    · have refused : updateListLoop maxIndex configs (module :: rest) = none := by
        cases module <;> rw [updateListLoop, if_pos (ends.mpr full)]
      refine ⟨fun room => ?_, fun _ => refused⟩
      simp only [RoomFor, List.length_cons, full] at room
      omega
    · cases module with
      | none =>
        rw [updateListLoop, if_neg (mt ends.mp full)]
        refine ⟨fun _ => by simp, fun none => absurd (.inr ?_) none⟩
        rw [List.takeWhile_cons_of_neg (by simp), List.length_nil]
        omega
      | some edits =>
        have grown : (configs ++ [treeInfo edits]).length = configs.length + 1 := by
          rw [List.length_append, List.length_singleton]
        have room : RoomFor (configs ++ [treeInfo edits]).length rest ↔
            RoomFor configs.length (some edits :: rest) := by
          rw [RoomFor, RoomFor, grown, List.takeWhile_cons_of_pos rfl, List.length_cons,
            List.length_cons, Nat.add_right_comm, Nat.add_right_comm configs.length 1,
            Nat.add_assoc, Nat.add_assoc]
        have next : ∃ power', (if maxIndex.toNat ≤ configs.length then maxIndex * 2
            else maxIndex).toNat = 2 ^ power' ∧ power' ≤ 7 ∧ (configs ++ [treeInfo edits]).length ≤
              (if maxIndex.toNat ≤ configs.length then maxIndex * 2 else maxIndex).toNat := by
          by_cases filled : maxIndex.toNat ≤ configs.length
          · have less : power < 7 := by
              apply Nat.lt_of_le_of_ne small
              rintro rfl
              omega
            have half : 2 ^ (power + 1) ≤ 2 ^ 7 := Nat.pow_le_pow_right (by decide) less
            have twice : (maxIndex * 2).toNat = 2 ^ (power + 1) := by
              rw [doubled, ← Nat.pow_succ]
              exact Nat.mod_eq_of_lt (by omega)
            rw [if_pos filled, twice, grown]
            refine ⟨power + 1, rfl, less, ?_⟩
            have := Nat.two_pow_pos power
            omega
          · rw [if_neg filled, grown]
            exact ⟨power, size, small, Nat.lt_of_not_le filled⟩
        obtain ⟨power', size', small', within'⟩ := next
        obtain ⟨listed, refused⟩ := ih size' small' within'
        rw [room] at listed refused
        rw [updateListLoop, if_neg (mt ends.mp full)]
        refine ⟨fun enough => ?_, refused⟩
        rw [listed enough, List.takeWhile_cons_of_pos rfl, List.map_cons, List.append_assoc]
        rfl

theorem getUpdateList_spec (config : List ConfigModule) :
    (RoomFor 0 config → nconfMsghdlrGetUpdateList config = some
        ((config.takeWhile Option.isSome).map fun module => treeInfo (module.getD []))) ∧
      (¬ RoomFor 0 config → nconfMsghdlrGetUpdateList config = none) := by
  have two : nconfInitialSubtreeCount.toNat = 2 ^ 1 := rfl
  have nothing : ([] : List (List ConfigEdit)).length ≤ nconfInitialSubtreeCount.toNat :=
    Nat.zero_le _
  exact updateListLoop_spec two (by decide) nothing

private theorem validateEdit_eq (edit : ConfigEdit) :
    ∃ path, (validateEdit edit).2 = { edit with nodepath := path } := by
  rw [validateEdit]
  split
  · exact ⟨edit.nodepath, rfl⟩
  · split
    · split
      · exact ⟨_, rfl⟩
      · split <;> exact ⟨_, rfl⟩
    · split <;> exact ⟨_, rfl⟩

theorem asked_res (edit : ConfigEdit) : edit.asked.res = 0 ↔ edit.Written := by
  obtain ⟨path, same⟩ := validateEdit_eq edit
  rw [ConfigEdit.asked, same, putEdit, ConfigEdit.Written]
  dsimp only
  split
  · rename_i zero
    rw [and_iff_right zero]
  · rename_i failed
    exact iff_of_false failed fun both => failed both.1

theorem validateUpdateList_spec (edits : List ConfigEdit) :
    ((∀ edit ∈ edits, (validateEdit edit).1 = .noError) → nconfMsghdlrValidateUpdateList edits =
        (.noError, edits.map fun edit => (validateEdit edit).2)) ∧
      ((nconfMsghdlrValidateUpdateList edits).1 = .noError →
        ∀ edit ∈ edits, (validateEdit edit).1 = .noError) := by
  induction edits with
  | nil => exact ⟨fun _ => rfl, fun _ => nofun⟩
  | cons edit rest ih =>
    rw [List.forall_mem_cons, nconfMsghdlrValidateUpdateList]
    by_cases valid : (validateEdit edit).1 = .noError
    · rw [if_neg (not_not.mpr valid)]
      refine ⟨fun all => ?_, fun same => ⟨valid, ih.2 same⟩⟩
      rw [ih.1 all.2, List.map_cons]
    · rw [if_pos valid]
      exact ⟨fun all => absurd all.1 valid, fun same => absurd same valid⟩

def validated (edits : List ConfigEdit) : List ConfigEdit :=
  edits.map fun edit => (validateEdit edit).2

variable (configs : List (List ConfigEdit))

theorem validateConfigs_spec :
    ((∀ edit ∈ configs.flatten, (validateEdit edit).1 = .noError) → validateConfigs ret configs =
        (if configs = [] then ret else .noError, configs.map validated)) ∧
      (configs ≠ [] → (validateConfigs ret configs).1 = .noError →
        ∀ edit ∈ configs.flatten, (validateEdit edit).1 = .noError) := by
  induction configs generalizing ret with
  | nil => exact ⟨fun _ => rfl, fun filled => absurd rfl filled⟩
  | cons edits rest ih =>
    obtain ⟨all, sound⟩ := validateUpdateList_spec edits
    rw [List.flatten_cons, List.forall_mem_append, validateConfigs]
    by_cases valid : (nconfMsghdlrValidateUpdateList edits).1 = .noError
    · rw [if_neg (not_not.mpr valid)]
      refine ⟨fun both => ?_, fun _ same => ⟨sound valid, ?_⟩⟩
      · rw [(ih _).1 both.2, all both.1, if_neg (List.cons_ne_nil _ _), List.map_cons]
        cases rest <;> rfl
      · cases rest with
        | nil => exact nofun
        | cons other rest => exact (ih _).2 (List.cons_ne_nil _ _) same
    · rw [if_pos valid]
      refine ⟨fun both => absurd ?_ valid, fun _ same => absurd same valid⟩
      rw [all both.1]

private theorem ucclientExecConfigUpdate_spec (res : Int) (edits : List ConfigEdit) :
    (nconfUcclientExecConfigUpdate res edits).2 = edits.map putEdit ∧
      (nconfUcclientExecConfigUpdate res edits).1 =
        (edits.getLast?.map fun edit => (putEdit edit).res).getD res := by
  induction edits generalizing res with
  | nil => exact ⟨rfl, rfl⟩
  | cons edit rest ih =>
    obtain ⟨puts, last⟩ := ih (putEdit edit).res
    rw [nconfUcclientExecConfigUpdate]
    refine ⟨?_, ?_⟩
    · rw [List.map_cons, puts]
    · rw [last, List.getLast?_cons]
      cases rest.getLast? <;> rfl

theorem updateConfigs_spec : (updateConfigs ret configs).2 = configs.flatten.map putEdit ∧
      (configs ≠ [] → ((updateConfigs ret configs).1 = .noError ↔
        ∃ edits ∈ configs.getLast?, ∃ edit ∈ edits.getLast?, (putEdit edit).res = 0)) := by
  induction configs generalizing ret with
  | nil => exact ⟨rfl, fun filled => absurd rfl filled⟩
  | cons edits rest ih =>
    obtain ⟨puts, last⟩ := ucclientExecConfigUpdate_spec (-1) edits
    rw [updateConfigs]
    refine ⟨?_, fun _ => ?_⟩
    · rw [List.flatten_cons, List.map_append, puts, (ih _).1]
    · dsimp only
      cases rest with
      | nil =>
        rw [updateConfigs, last]
        cases found : edits.getLast? with
        | none => simp [found]
        | some edit => simp [found]
      | cons other rest =>
        exact (ih _).2 (List.cons_ne_nil _ _)

theorem lastWritten_iff :
    (∃ edits ∈ (configs.map validated).getLast?, ∃ edit ∈ edits.getLast?, (putEdit edit).res = 0) ↔
      LastWritten configs := by
  rw [LastWritten, List.getLast?_map]
  constructor
  · rintro ⟨_, last, _, lastEdit, written⟩
    obtain ⟨edits, found, rfl⟩ := Option.map_eq_some_iff.mp last
    rw [validated, List.getLast?_map] at lastEdit
    obtain ⟨edit, foundEdit, rfl⟩ := Option.map_eq_some_iff.mp lastEdit
    exact ⟨edits, found, edit, foundEdit, (asked_res edit).mp written⟩
  · rintro ⟨edits, found, edit, foundEdit, written⟩
    refine ⟨validated edits, Option.map_eq_some_iff.mpr ⟨edits, found, rfl⟩,
      (validateEdit edit).2, ?_, (asked_res edit).mpr written⟩
    rw [validated, List.getLast?_map]
    exact Option.map_eq_some_iff.mpr ⟨edit, foundEdit, rfl⟩

private theorem puts_validated :
    ((configs.map validated).flatten.map putEdit) = configs.flatten.map ConfigEdit.asked := by
  have whole : (configs.map validated).flatten = validated configs.flatten := List.map_flatten.symm
  rw [whole, validated, List.map_map]
  rfl

/-- `nconf_msghdlr_exec_config_update` on what is listed. -/
theorem execConfigUpdate_spec (listed : nconfMsghdlrGetUpdateList config = some uinfo) :
    ∃ tag puts, nconfMsghdlrExecConfigUpdate config = some (tag, puts) ∧
      ((uinfo = [] ∨ ¬ ∀ edit ∈ uinfo.flatten, (validateEdit edit).1 = .noError) →
        puts = [] ∧ tag ≠ .noError) ∧
      (uinfo ≠ [] → (∀ edit ∈ uinfo.flatten, (validateEdit edit).1 = .noError) →
        puts = uinfo.flatten.map ConfigEdit.asked ∧ (tag = .noError ↔ LastWritten uinfo)) := by
  obtain ⟨all, sound⟩ := validateConfigs_spec .operationFailed uinfo
  rw [nconfMsghdlrExecConfigUpdate, listed, Option.map_some]
  by_cases filled : uinfo = []
  · subst filled
    exact ⟨_, _, rfl, fun _ => ⟨rfl, by decide⟩, fun none => absurd rfl none⟩
  by_cases valid : ∀ edit ∈ uinfo.flatten, (validateEdit edit).1 = .noError
  · rw [all valid, if_neg filled, if_neg fun both => both.2 rfl]
    obtain ⟨puts, last⟩ := updateConfigs_spec .noError (uinfo.map validated)
    refine ⟨_, _, rfl, fun either => ?_, fun _ _ => ⟨puts.trans (puts_validated uinfo), ?_⟩⟩
    · exact either.elim (fun none => absurd none filled) fun none => absurd valid none
    · exact (last (mt List.map_eq_nil_iff.mp filled)).trans (lastWritten_iff uinfo)
  · have failed : (validateConfigs .operationFailed uinfo).1 ≠ .noError := mt (sound filled) valid
    rw [if_pos ⟨filled, failed⟩]
    exact ⟨_, _, rfl, fun _ => ⟨rfl, failed⟩, fun _ all => absurd all valid⟩

end Steps

namespace EditRequest

variable {request : EditRequest}

private theorem listed_sublist (request : EditRequest) : request.listed.flatten.Sublist request.edits := by
  rw [listed, edits]
  induction request.config.getD [] with
  | nil => exact List.Sublist.refl _
  | cons module rest ih =>
    cases module with
    | none =>
      exact List.nil_sublist _
    | some edits =>
      exact (List.take_sublist _ _).append ih

private theorem listed_filled (written : LastWritten configs) : configs.flatten ≠ [] := by
  obtain ⟨edits, last, edit, lastEdit, _⟩ := written
  exact List.ne_nil_of_mem (List.mem_flatten.mpr
    ⟨edits, List.mem_of_getLast? last, List.mem_of_getLast? lastEdit⟩)

theorem all_asked (request : EditRequest) :
    (request.listed.flatten.map ConfigEdit.asked = request.edits.map ConfigEdit.asked ∧
        ∀ put ∈ request.listed.flatten.map ConfigEdit.asked, put.res = 0) ↔
      request.listed.flatten = request.edits ∧ ∀ edit ∈ request.edits, edit.Written := by
  constructor
  · rintro ⟨same, written⟩
    have length := congrArg List.length same
    rw [List.length_map, List.length_map] at length
    have whole := request.listed_sublist.eq_of_length length
    refine ⟨whole, fun edit member => ?_⟩
    rw [← whole] at member
    exact (asked_res edit).mp (written _ (List.mem_map_of_mem member))
  · rintro ⟨whole, written⟩
    refine ⟨congrArg _ whole, fun put member => ?_⟩
    obtain ⟨edit, inside, rfl⟩ := List.mem_map.mp member
    exact (asked_res edit).mpr (written edit (whole ▸ inside))

private theorem saved_iff (tag : RpcErrorTag) (savedb : Int) :
    (if tag ≠ .noError then tag else if savedb ≠ 0 then .operationFailed else .noError) =
      RpcErrorTag.noError ↔ tag = .noError ∧ savedb = 0 := by
  by_cases success : tag = .noError
  · rw [if_neg (not_not.mpr success)]
    by_cases saved : savedb = 0
    · simp [success, saved]
    · simp [saved]
  · rw [if_pos success]
    exact ⟨fun same => absurd same success, fun both => absurd both.1 success⟩

theorem right_of_update {config : List ConfigModule} (given : request.config = some config)
    (running : ∀ target ∈ request.targets, target = some runningText)
    (updated : nconfMsghdlrExecConfigUpdate config = some (tag, puts)) :
    request.Right ↔ (¬ request.Sound → puts = [] ∧ ¬ (tag = .noError ∧ request.savedb = 0)) ∧
      (tag = .noError ∧ request.savedb = 0 →
        puts = request.edits.map ConfigEdit.asked ∧ ∀ put ∈ puts, put.res = 0) := by
  have ret := (targetsResult_iff .noError request.targets).mpr ⟨rfl, running⟩
  have done : nconfMsghdlrRpcMsgProcEditConfig request = some
      (if tag ≠ .noError then tag else if request.savedb ≠ 0 then .operationFailed else .noError,
        puts) := by
    rw [nconfMsghdlrRpcMsgProcEditConfig, given]
    dsimp only
    rw [ret, if_neg (not_not.mpr rfl), updated, Option.map_some]
    by_cases success : tag = .noError
    · rw [if_neg (not_not.mpr success), if_neg (not_not.mpr success)]
    · rw [if_pos success, if_pos success]
  rw [← saved_iff tag request.savedb, Right, done]
  constructor
  · rintro ⟨_, _, ⟨⟩, right⟩
    exact right
  · exact fun right => ⟨_, _, rfl, right⟩

theorem right_iff_of_listed {config : List ConfigModule} (given : request.config = some config)
    (running : ∀ target ∈ request.targets, target = some runningText)
    (room : RoomFor 0 config) : request.Right ↔
      (request.listed ≠ [] → (∀ edit ∈ request.listed.flatten, (validateEdit edit).1 = .noError) →
        (request.Sound ∨ request.listed.flatten = []) ∧
        (request.savedb = 0 → LastWritten request.listed →
          request.listed.flatten = request.edits ∧ ∀ edit ∈ request.edits, edit.Written)) := by
  have list : nconfMsghdlrGetUpdateList config = some request.listed := by
    rw [listed, given]
    exact (getUpdateList_spec config).1 room
  obtain ⟨tag, puts, updated, refused, written⟩ := execConfigUpdate_spec list
  rw [right_of_update given running updated]
  by_cases serves : request.listed ≠ [] ∧
      ∀ edit ∈ request.listed.flatten, (validateEdit edit).1 = .noError
  · obtain ⟨same, success⟩ := written serves.1 serves.2
    rw [same, success, all_asked, List.map_eq_nil_iff]
    constructor
    · rintro ⟨unsound, all⟩ _ _
      refine ⟨?_, fun saved last => all ⟨last, saved⟩⟩
      by_cases sound : request.Sound
      · exact .inl sound
      · exact .inr (unsound sound).1
    · intro served
      obtain ⟨either, all⟩ := served serves.1 serves.2
      refine ⟨fun unsound => ?_, fun both => all both.2 both.1⟩
      have nothing := either.resolve_left unsound
      exact ⟨nothing, fun both => listed_filled both.1 nothing⟩
  · have nothing : request.listed = [] ∨
        ¬ ∀ edit ∈ request.listed.flatten, (validateEdit edit).1 = .noError := by
      by_cases filled : request.listed = []
      · exact .inl filled
      · exact .inr fun valid => serves ⟨filled, valid⟩
    obtain ⟨none, failed⟩ := refused nothing
    exact iff_of_true ⟨fun _ => ⟨none, fun both => failed both.1⟩, fun both => absurd both.1 failed⟩
      fun filled valid => absurd ⟨filled, valid⟩ serves

/-- A request is all or nothing, and reported so, exactly when it is one of those. -/
theorem edit_config_right (request : EditRequest) : request.Right ↔ request.Served := by
  cases given : request.config with
  | none =>
    have done : nconfMsghdlrRpcMsgProcEditConfig request = some (.missingElement, []) := by
      rw [nconfMsghdlrRpcMsgProcEditConfig, given]
    refine iff_of_true ⟨_, _, done, fun _ => ⟨rfl, by decide⟩, fun none => absurd none (by decide)⟩ ?_
    intro _ config member
    rw [given] at member
    cases member
  | some config =>
    by_cases running : ∀ target ∈ request.targets, target = some runningText
    · have served : request.Served ↔ RoomFor 0 config ∧ (request.listed ≠ [] →
            (∀ edit ∈ request.listed.flatten, (validateEdit edit).1 = .noError) →
            (request.Sound ∨ request.listed.flatten = []) ∧
            (request.savedb = 0 → LastWritten request.listed →
              request.listed.flatten = request.edits ∧ ∀ edit ∈ request.edits, edit.Written)) := by
        rw [Served, given]
        constructor
        · exact fun all => all running config rfl
        · rintro both _ _ ⟨⟩
          exact both
      rw [served]
      by_cases room : RoomFor 0 config
      · rw [right_iff_of_listed given running room, and_iff_right room]
      · refine iff_of_false ?_ fun both => room both.1
        rintro ⟨tag, puts, done, _⟩
        have ret := (targetsResult_iff .noError request.targets).mpr ⟨rfl, running⟩
        rw [nconfMsghdlrRpcMsgProcEditConfig, given] at done
        dsimp only at done
        rw [ret, if_neg (not_not.mpr rfl), nconfMsghdlrExecConfigUpdate,
          (getUpdateList_spec config).2 room] at done
        cases done
    · have ret : targetsResult .noError request.targets ≠ .noError := fun same =>
        running ((targetsResult_iff _ _).mp same).2
      have done : nconfMsghdlrRpcMsgProcEditConfig request =
          some (targetsResult .noError request.targets, []) := by
        rw [nconfMsghdlrRpcMsgProcEditConfig, given]
        dsimp only
        rw [if_pos ret]
      exact iff_of_true ⟨_, _, done, fun _ => ⟨rfl, ret⟩, fun none => absurd none ret⟩
        fun all => absurd all running

end EditRequest

def refusedFirst : EditRequest where
  targets := [some runningText]
  config := some [some [⟨[47, 97], some [49], 0, -1, 0⟩, ⟨[47, 98], some [50], 0, 0, 0⟩]]
  savedb := 0

/-- Success is reported although the first edit was not written. -/
theorem refused_edit_reported : ¬ ∀ request : EditRequest, request.Right := by
  intro always
  obtain ⟨tag, puts, done, _, success⟩ := always refusedFirst
  have outcome : nconfMsghdlrRpcMsgProcEditConfig refusedFirst =
      some (.noError, [⟨[47, 97], some [49], -1⟩, ⟨[47, 98], some [50], 0⟩]) := by decide
  obtain ⟨rfl, rfl⟩ := Prod.mk.inj (Option.some.inj done)
  exact absurd ((success rfl).2 _ List.mem_cons_self) (by decide)

end EnetTsn.Netconf
