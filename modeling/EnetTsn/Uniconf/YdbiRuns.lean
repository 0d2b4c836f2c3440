import Mathlib.Data.List.Perm.Subperm
import EnetTsn.Uniconf.SimpledbRuns
import EnetTsn.Uniconf.YdbiAccess

namespace EnetTsn.Uniconf

open EnetTsn.Library

section Counts

variable {ι : Type} [DecidableEq ι] {given taken : List (ι × List UInt8)} {key : List UInt8}

def entriesFor (log : List (ι × List UInt8)) (key : List UInt8) : Nat :=
  log.countP fun entry => entry.2 = key

omit [DecidableEq ι] in
theorem entriesFor_cons (who : ι) (other : List UInt8) (log : List (ι × List UInt8))
    (key : List UInt8) : entriesFor ((who, other) :: log) key = entriesFor log key + if other = key then 1 else 0 := by
  simp [entriesFor, List.countP_cons]

theorem entriesFor_le (less : ∀ who, given.count (who, key) ≤ taken.count (who, key)) :
    entriesFor given key ≤ entriesFor taken key := by
  rw [entriesFor, entriesFor, List.countP_eq_length_filter, List.countP_eq_length_filter]
  apply List.Subperm.length_le
  rw [List.subperm_ext_iff]
  rintro ⟨who, other⟩ member
  obtain ⟨_, same⟩ := List.mem_filter.mp member
  have equal : other = key := of_decide_eq_true same
  rw [equal, List.count_filter (by simp), List.count_filter (by simp)]
  exact less who

private theorem entriesFor_lt (who : ι) (less : ∀ who, given.count (who, key) ≤ taken.count (who, key))
    (fewer : given.count (who, key) < taken.count (who, key)) :
    entriesFor given key < entriesFor taken key := by
  have more : entriesFor ((who, key) :: given) key ≤ entriesFor taken key := by
    apply entriesFor_le
    intro other
    by_cases same : other = who
    · rw [same, List.count_cons_self]
      exact fewer
    · have different : (who, key) ≠ (other, key) := fun equal =>
        same (congrArg Prod.fst equal).symm
      rw [List.count_cons_of_ne different]
      exact less other
  rw [entriesFor_cons, if_pos rfl] at more
  exact more

private theorem entriesFor_eq (same : ∀ who, given.count (who, key) = taken.count (who, key)) :
    entriesFor given key = entriesFor taken key :=
  Nat.le_antisymm (entriesFor_le fun who => (same who).le) (entriesFor_le fun who => (same who).ge)

end Counts

namespace Table

variable {ν : Type} (table : Table) {key : List UInt8}

theorem locks_update (key : List UInt8) (entry : Option Entry) (other : List UInt8) :
    Table.locks (Function.update table key entry) other =
      if other = key then entry.elim 0 fun found => found.locks.toNat else table.locks other := by
  rw [Table.locks, Function.update_apply]
  split <;> rfl

theorem locks_none (absent : table key = none) : table.locks key = 0 := by
  rw [Table.locks, absent]
  rfl

theorem locks_some (found : table key = some entry) : table.locks key = entry.locks.toNat := by
  rw [Table.locks, found]
  rfl

theorem locks_put (kd : List UInt8) (value : PutValue) (flags : UInt8) (pools : Pools ν) :
    Table.locks (table.put kd value flags pools).1 = table.locks := by
  funext other
  rw [Table.put]
  cases found : table kd with
  | none =>
    dsimp only
    split
    · rfl
    · rw [locks_update]
      split
      · rename_i same
        rw [same, table.locks_none found]
        rfl
      · rfl
  | some entry =>
    have kept (value : List UInt8) :
        Table.locks (Function.update table kd (some { entry with value := value })) other =
          table.locks other := by
      rw [locks_update]
      split
      · rename_i same
        rw [same, table.locks_some found]
        rfl
      · rfl
    dsimp only
    split
    · rfl
    split
    · rw [Table.append]
      split
      · rfl
      split
      · rfl
      · exact kept _
    · exact kept _

private theorem locks_del (kd : List UInt8) : Table.locks (table.del kd).1 = table.locks := by
  funext other
  rw [Table.del]
  cases found : table kd with
  | none => rfl
  | some entry =>
    dsimp only
    split
    · rfl
    · rename_i free
      rw [locks_update]
      split
      · rename_i same
        have zero : entry.locks = 0 := by
          apply UInt8.toNat_inj.mp
          exact Nat.eq_zero_of_not_pos fun held => free (UInt8.lt_iff_toNat_lt.mpr held)
        rw [same, table.locks_some found, zero]
        rfl
      · rfl

theorem locks_get (key : List UInt8) (countable : table.locks key ≠ 255) :
    (∃ value, (table.get key).2 = .value (some value) ∧ ∀ other,
        Table.locks (table.get key).1 other = table.locks other + if key = other then 1 else 0) ∨
      (table.get key).2 = .result (-1) ∧ (table.get key).1 = table := by
  rw [Table.get]
  cases found : table key with
  | none => exact .inr ⟨rfl, rfl⟩
  | some entry =>
    left
    refine ⟨entry.value, rfl, fun other => ?_⟩
    rw [locks_update]
    by_cases same : other = key
    · rw [if_pos same, if_pos same.symm, same, table.locks_some found]
      rw [table.locks_some found] at countable
      have bounded : entry.locks.toNat < 256 := UInt8.toNat_lt entry.locks
      show (entry.locks + 1).toNat = entry.locks.toNat + 1
      apply Nat.mod_eq_of_lt
      show entry.locks.toNat + 1 < 256
      omega
    · rw [if_neg same, if_neg (Ne.symm same)]
      rfl

theorem locks_getRelease (key : List UInt8) (held : 0 < table.locks key) :
    (table.getRelease key).2 = 0 ∧ ∀ other,
      Table.locks (table.getRelease key).1 other + (if key = other then 1 else 0) =
        table.locks other := by
  rw [Table.getRelease]
  cases found : table key with
  | none =>
    rw [table.locks_none found] at held
    exact absurd held (Nat.lt_irrefl 0)
  | some entry =>
    refine ⟨rfl, fun other => ?_⟩
    rw [table.locks_some found] at held
    have locked : 0 < entry.locks := UInt8.lt_iff_toNat_lt.mpr held
    dsimp only
    rw [if_pos locked, locks_update]
    by_cases same : other = key
    · rw [if_pos same, if_pos same.symm, same, table.locks_some found]
      show (entry.locks - 1).toNat + 1 = entry.locks.toNat
      have one : (1 : UInt8) ≤ entry.locks := UInt8.le_iff_toNat_le.mpr held
      rw [UInt8.toNat_sub_of_le _ _ one]
      exact Nat.sub_add_cancel held
    · rw [if_neg same, if_neg (Ne.symm same)]
      rfl

end Table

namespace YdbiAccess

variable {ν : Type} (ydbia : YdbiAccess ν) {key : List UInt8}

theorem locks_ydbiSetFoot (kind : ydbia.atype = .create ∨ ydbia.atype = .delete) :
    ydbia.ydbiSetFoot.1.dbald.locks = ydbia.dbald.locks := by
  have action : ydbia.yangDbAction.1.dbald.locks = ydbia.dbald.locks := by
    rw [yangDbAction]
    rcases kind with create | delete
    · rw [create]
      dsimp only
      rw [yangDbPut]
      split
      · rfl
      dsimp only
      split
      · exact ydbia.dbald.locks_put _ _ _ _
      · rw [Table.locks_put, Table.locks_put]
    · rw [delete]
      dsimp only
      rw [yangDbDel]
      split
      · rfl
      · exact ydbia.dbald.locks_del _
  rw [ydbiSetFoot]
  split <;> exact action

private theorem yangDbGet_spec (countable : ydbia.dbald.locks ydbia.key ≠ 255) :
    (ydbia.yangDbGet.2 = 0 ∧ ydbia.key ≠ [] ∧ ∀ other, ydbia.yangDbGet.1.locks other =
        ydbia.dbald.locks other + if ydbia.key = other then 1 else 0) ∨
      ydbia.yangDbGet = (ydbia.dbald, -1) := by
  rw [yangDbGet]
  by_cases empty : ydbia.key = []
  · exact .inr (if_pos empty)
  · rw [if_neg empty]
    cases done : ydbia.dbald.get ydbia.key with
    | mk dbald answer =>
      have spec := ydbia.dbald.locks_get ydbia.key countable
      rw [done] at spec
      rcases spec with ⟨value, rfl, counted⟩ | ⟨rfl, rfl⟩
      · exact .inl ⟨rfl, empty, counted⟩
      · exact .inr rfl

theorem ydbiGetFoot_spec (kind : ydbia.atype = .read)
    (countable : ydbia.dbald.locks ydbia.key ≠ 255) :
    (ydbia.ydbiGetFoot.2 = 0 ∧ ydbia.ydbiGetFoot.1.atype = .read ∧
        ydbia.ydbiGetFoot.1.key = ydbia.key ∧ ydbia.key ≠ [] ∧
        ∀ other, ydbia.ydbiGetFoot.1.dbald.locks other =
          ydbia.dbald.locks other + if ydbia.key = other then 1 else 0) ∨
      ydbia.ydbiGetFoot.2 ≠ 0 ∧ ydbia.ydbiGetFoot.1.dbald = ydbia.dbald := by
  have action : ydbia.yangDbAction =
      ({ ydbia with dbald := ydbia.yangDbGet.1 }, ydbia.yangDbGet.2) := by
    rw [yangDbAction, kind]
  rw [ydbiGetFoot, action]
  rcases ydbia.yangDbGet_spec countable with ⟨done, filled, counted⟩ | failed
  · rw [if_pos done]
    exact .inl ⟨done, kind, rfl, filled, counted⟩
  · rw [failed, if_neg (show ¬ (-1 : Int) = 0 by decide)]
    exact .inr ⟨show (-1 : Int) ≠ 0 by decide, rfl⟩

private theorem yangDbAction_release (kind : ydbia.atype = .readRelease) (filled : ydbia.key ≠ [])
    (held : 0 < ydbia.dbald.locks ydbia.key) :
    ydbia.yangDbAction.2 = 0 ∧ ydbia.yangDbAction.1.key = ydbia.key ∧
      ∀ other, ydbia.yangDbAction.1.dbald.locks other + (if ydbia.key = other then 1 else 0) =
        ydbia.dbald.locks other := by
  rw [yangDbAction, kind]
  rw [yangDbGetRelease, if_neg filled]
  obtain ⟨done, counted⟩ := ydbia.dbald.locks_getRelease ydbia.key held
  exact ⟨done, rfl, counted⟩

end YdbiAccess

variable {ι ν : Type} [DecidableEq ι] {start : Table} {state after : YdbiState ι ν} {who : ι}
  {key : List UInt8}

def YdbiRequest.Countable (ydbia : YdbiAccess ν) : YdbiRequest ν → Prop
  | .get key => ydbia.atype ≠ .read → ydbia.dbald.locks key ≠ 255
  | _ => True

def YdbiActivity.Countable (ydbia : YdbiAccess ν) : YdbiActivity ν → Prop
  | .woken request => request.Countable ydbia
  | _ => True

def YdbiActivity.Alone (ydbia : YdbiAccess ν) : YdbiActivity ν → Prop
  | .reading _ => True
  | _ => ydbia.atype ≠ .read

/-- No thread releases an item whose lock it has kept while another one reads, and no counter
of an item goes over its end. -/
def YdbiPermitted (state : YdbiState ι ν) : YdbiEvent ι ν → Prop
  | .action _ request => request.Countable state.ydbia
  | .retry who => (state.activity who).Countable state.ydbia
  | .relItem who _ => (state.activity who).Alone state.ydbia
  | _ => True

instance (ydbia : YdbiAccess ν) : (request : YdbiRequest ν) → Decidable (request.Countable ydbia)
  | .get _ => inferInstanceAs (Decidable (_ → _))
  | .set _ => inferInstanceAs (Decidable True)
  | .del _ => inferInstanceAs (Decidable True)

instance (ydbia : YdbiAccess ν) :
    (activity : YdbiActivity ν) → Decidable (activity.Countable ydbia)
  | .woken request => inferInstanceAs (Decidable (request.Countable ydbia))
  | .idle | .waiting _ | .reading _ | .posting _ => inferInstanceAs (Decidable True)

instance (ydbia : YdbiAccess ν) : (activity : YdbiActivity ν) → Decidable (activity.Alone ydbia)
  | .reading _ => inferInstanceAs (Decidable True)
  | .idle | .waiting _ | .woken _ | .posting _ => inferInstanceAs (Decidable (_ ≠ _))

instance (state : YdbiState ι ν) : (event : YdbiEvent ι ν) → Decidable (YdbiPermitted state event)
  | .action _ request => inferInstanceAs (Decidable (request.Countable state.ydbia))
  | .retry who => inferInstanceAs (Decidable ((state.activity who).Countable state.ydbia))
  | .relItem who _ => inferInstanceAs (Decidable ((state.activity who).Alone state.ydbia))
  | .timeout _ | .wake _ | .getItemRelease _ _ | .post _ => inferInstanceAs (Decidable True)

structure YdbiState.Standing (start : Table) (state : YdbiState ι ν) : Prop where
  guarded : ∀ who key, state.activity who = .reading key →
    state.ydbia.atype = .read ∧ state.ydbia.key = key
  exclusive : ∀ one other key key', state.activity one = .reading key →
    state.activity other = .reading key' → one = other
  filled : ∀ entry ∈ state.taken, entry.2 ≠ []
  released : ∀ who key, state.taken.count (who, key) =
    state.given.count (who, key) + (state.outstanding who).count key
  counted : ∀ key, state.ydbia.dbald.locks key + entriesFor state.given key =
    start.locks key + entriesFor state.taken key

namespace YdbiState

theorem activity_setThread (state : YdbiState ι ν) (who : ι) (thread : YdbiThread ν) (other : ι) :
    (state.setThread who thread).activity other =
      if other = who then thread.activity else state.activity other := by
  rw [activity, setThread]
  dsimp only
  rw [Function.update_apply]
  split <;> rfl

omit [DecidableEq ι] in
theorem outstanding_eq (state : YdbiState ι ν) (who : ι) :
    state.outstanding who = (state.activity who).keys ++ state.held who := rfl

theorem outstanding_setThread (state : YdbiState ι ν) (who : ι) (thread : YdbiThread ν)
    (other : ι) : (state.setThread who thread).outstanding other =
      if other = who then thread.outstanding else state.outstanding other := by
  rw [outstanding, setThread]
  dsimp only
  rw [Function.update_apply]
  split <;> rfl

namespace Standing

variable (standing : state.Standing start)
include standing

theorem orderly : state.Orderly start where
  guarded := standing.guarded
  released := standing.released
  restored := by
    intro finished key
    have same : entriesFor state.given key = entriesFor state.taken key := by
      apply entriesFor_eq
      intro who
      obtain ⟨idle, nothing⟩ := finished who
      have none : state.outstanding who = [] := by
        rw [activity] at idle
        rw [held] at nothing
        rw [outstanding, YdbiThread.outstanding, idle, nothing]
        rfl
      rw [standing.released who key, none]
      rfl
    have counted := standing.counted key
    omega

theorem held (mine : key ∈ state.outstanding who) : key ≠ [] ∧ 0 < state.ydbia.dbald.locks key := by
  have some_ : 0 < (state.outstanding who).count key := List.count_pos_iff.mpr mine
  have released := standing.released who key
  have taken : 0 < state.taken.count (who, key) := by omega
  refine ⟨standing.filled _ (List.count_pos_iff.mp taken), ?_⟩
  have fewer : entriesFor state.given key < entriesFor state.taken key := by
    apply entriesFor_lt who
    · intro other
      rw [standing.released other key]
      exact Nat.le_add_right _ _
    · omega
  have counted := standing.counted key
  omega

theorem quiet
    (reads : ∀ who key, after.activity who = .reading key → state.activity who = .reading key ∧
      after.ydbia.atype = state.ydbia.atype ∧ after.ydbia.key = state.ydbia.key)
    (outstanding : ∀ who, after.outstanding who = state.outstanding who)
    (taken : after.taken = state.taken) (given : after.given = state.given)
    (locks : after.ydbia.dbald.locks = state.ydbia.dbald.locks) : after.Standing start where
  guarded := by
    intro who key reading
    obtain ⟨before, atype, same⟩ := reads who key reading
    rw [atype, same]
    exact standing.guarded who key before
  exclusive := fun one other key key' first second =>
    standing.exclusive one other key key' (reads one key first).1 (reads other key' second).1
  filled := taken ▸ standing.filled
  released := by
    intro who key
    rw [taken, given, outstanding who]
    exact standing.released who key
  counted := by
    intro key
    rw [taken, given, locks]
    exact standing.counted key

theorem gives (who : ι) (key : List UInt8) (unread : ∀ who key, after.activity who ≠ .reading key)
    (mine : ∀ other, (state.outstanding other).Perm
      (if other = who then key :: after.outstanding who else after.outstanding other))
    (taken : after.taken = state.taken) (given : after.given = (who, key) :: state.given)
    (locks : ∀ other, after.ydbia.dbald.locks other + (if key = other then 1 else 0) =
      state.ydbia.dbald.locks other) : after.Standing start where
  guarded := fun who key reading => absurd reading (unread who key)
  exclusive := fun one _ key _ reading _ => absurd reading (unread one key)
  filled := taken ▸ standing.filled
  released := by
    intro other found
    have before := standing.released other found
    rw [(mine other).count_eq found] at before
    rw [taken, given, before]
    by_cases same : other = who
    · rw [if_pos same, same, List.count_cons, List.count_cons]
      by_cases equal : key = found
      · simp
        omega
      · simp [equal]
    · have different : (who, key) ≠ (other, found) := fun equal =>
        same (congrArg Prod.fst equal).symm
      rw [if_neg same, List.count_cons_of_ne different]
  counted := by
    intro other
    have before := standing.counted other
    have less := locks other
    rw [taken, given, entriesFor_cons]
    omega

theorem takes (who : ι) (key : List UInt8) (unread : ∀ who key, state.activity who ≠ .reading key)
    (reads : ∀ other found, after.activity other = .reading found →
      other = who ∧ found = key ∨ state.activity other = .reading found)
    (guarded : after.ydbia.atype = .read ∧ after.ydbia.key = key) (filled : key ≠ [])
    (mine : ∀ other, after.outstanding other =
      if other = who then key :: state.outstanding who else state.outstanding other)
    (taken : after.taken = (who, key) :: state.taken) (given : after.given = state.given)
    (locks : ∀ other, after.ydbia.dbald.locks other =
      state.ydbia.dbald.locks other + if key = other then 1 else 0) : after.Standing start where
  guarded := by
    intro other found reading
    obtain ⟨_, rfl⟩ := (reads other found reading).resolve_right (unread other found)
    exact guarded
  exclusive := by
    intro one other found found' first second
    obtain ⟨one, _⟩ := (reads one found first).resolve_right (unread one found)
    obtain ⟨other, _⟩ := (reads other found' second).resolve_right (unread other found')
    rw [one, other]
  filled := by
    rw [taken]
    exact List.forall_mem_cons.mpr ⟨filled, standing.filled⟩
  released := by
    intro other found
    have before := standing.released other found
    rw [taken, given, mine other]
    by_cases same : other = who
    · subst same
      rw [if_pos rfl, List.count_cons, List.count_cons, before]
      by_cases equal : key = found
      · simp
        omega
      · simp [equal]
    · have different : (who, key) ≠ (other, found) := fun equal =>
        same (congrArg Prod.fst equal).symm
      rw [if_neg same, List.count_cons_of_ne different, before]
  counted := by
    intro other
    have before := standing.counted other
    rw [taken, given, entriesFor_cons, locks other]
    omega

theorem unread (kind : state.ydbia.atype ≠ .read) (who : ι)
    (key : List UInt8) : state.activity who ≠ .reading key := fun reading =>
  kind (standing.guarded who key reading).1

theorem moves (activity : YdbiActivity ν) (ydbia : YdbiAccess ν)
    (unread : ∀ key, activity ≠ .reading key)
    (others : ∀ other key, other ≠ who → state.activity other = .reading key →
      ydbia.atype = state.ydbia.atype ∧ ydbia.key = state.ydbia.key)
    (outstanding : YdbiThread.outstanding { state.threads who with activity := activity } =
      state.outstanding who) (locks : ydbia.dbald.locks = state.ydbia.dbald.locks) :
    YdbiState.Standing start { state.setActivity who activity with ydbia := ydbia } := by
  apply standing.quiet
  · intro other key reading
    replace reading : (state.setActivity who activity).activity other = .reading key := reading
    rw [setActivity, activity_setThread] at reading
    split at reading
    · exact absurd reading (unread key)
    · rename_i different
      exact ⟨reading, others other key different reading⟩
  · intro other
    show (state.setActivity who activity).outstanding other = state.outstanding other
    rw [setActivity, outstanding_setThread]
    split
    · rename_i same
      rw [same, outstanding]
    · rfl
  · rfl
  · rfl
  · exact locks

theorem perform (kind : state.ydbia.atype ≠ .read)
    (ydbia : YdbiAccess ν) (same : ydbia.dbald = state.ydbia.dbald)
    (free : state.outstanding who = state.held who) (request : YdbiRequest ν)
    (countable : ∀ key, request = .get key → state.ydbia.dbald.locks key ≠ 255) :
    (state.perform who ydbia request).Standing start := by
  have others (other : ι) (key : List UInt8) (reading : state.activity other = .reading key)
      (result : Prop) : result := absurd reading (standing.unread kind other key)
  cases request with
  | get key =>
    rw [YdbiState.perform]
    have counted : ydbia.dbald.locks key ≠ 255 := same ▸ countable key rfl
    rcases (ydbia.ydbiSetup .read ⟨key, .null, ydbia.pools⟩).ydbiGetFoot_spec rfl counted with
      ⟨done, atype, guarded, filled, locks⟩ | ⟨failed, unchanged⟩
    · rw [if_pos done]
      apply standing.takes who key (standing.unread kind)
      · intro other found reading
        replace reading : (state.setActivity who (.reading key)).activity other =
          .reading found := reading
        rw [setActivity, activity_setThread] at reading
        split at reading
        · rename_i me
          cases reading
          exact .inl ⟨me, rfl⟩
        · exact .inr reading
      · exact ⟨atype, guarded⟩
      · exact filled
      · intro other
        show (state.setActivity who (.reading key)).outstanding other = _
        rw [setActivity, outstanding_setThread, free]
        rfl
      · rfl
      · rfl
      · intro other
        rw [← same]
        exact locks other
    · rw [if_neg failed]
      apply standing.moves .idle
      · exact nofun
      · exact fun other found _ reading => others other found reading _
      · exact free.symm
      · rw [unchanged]
        exact congrArg Table.locks same
  | set para =>
    apply standing.moves .idle
    · exact nofun
    · exact fun other found _ reading => others other found reading _
    · exact free.symm
    · rw [YdbiAccess.locks_ydbiSetFoot _ (.inl rfl)]
      exact congrArg Table.locks same
  | del key =>
    apply standing.moves .idle
    · exact nofun
    · exact fun other found _ reading => others other found reading _
    · exact free.symm
    · rw [YdbiAccess.locks_ydbiSetFoot _ (.inr rfl)]
      exact congrArg Table.locks same

theorem logRelease (thread : YdbiThread ν)
    (ydbia : YdbiAccess ν) (kind : ydbia.atype = .readRelease) (guarded : ydbia.key = key)
    (same : ydbia.dbald = state.ydbia.dbald)
    (unread : ∀ other found, other ≠ who → state.activity other ≠ .reading found)
    (released : ∀ found, thread.activity ≠ .reading found)
    (mine : (state.outstanding who).Perm (key :: thread.outstanding)) :
    ((state.setThread who thread).logRelease who ydbia.yangDbAction).Standing start := by
  subst guarded
  obtain ⟨filled, held⟩ := standing.held (mine.mem_iff.mpr List.mem_cons_self)
  rw [← same] at held
  obtain ⟨done, kept, locks⟩ := ydbia.yangDbAction_release kind filled held
  have logged (other : ι) : ((state.setThread who thread).logRelease who
      ydbia.yangDbAction).outstanding other = (state.setThread who thread).outstanding other := rfl
  apply standing.gives who ydbia.key
  · intro other found reading
    replace reading : (state.setThread who thread).activity other = .reading found := reading
    rw [activity_setThread] at reading
    split at reading
    · exact released found reading
    · rename_i different
      exact unread other found different reading
  · intro other
    rw [logged, logged, outstanding_setThread, outstanding_setThread, if_pos rfl]
    split
    · rename_i me
      rw [me]
      exact mine
    · exact List.Perm.refl _
  · rfl
  · rw [YdbiState.logRelease]
    rw [if_pos done, kept]
    rfl
  · intro other
    rw [← same]
    exact locks other

theorem alone (reading : state.activity who = .reading key) (different : other ≠ who) :
    state.activity other ≠ .reading found := fun second =>
  different (standing.exclusive other who found key second reading)

theorem step_getItemRelease (taken : state.step (.getItemRelease who keeplocking) = some after) :
    after.Standing start := by
  simp only [YdbiState.step] at taken
  split at taken
  · rename_i key reading
    obtain ⟨kind, guarded⟩ := standing.guarded who key reading
    have notOther : ¬ state.ydbia.atype ≠ .read := not_not.mpr kind
    cases keeplocking with
    | true =>
      cases taken
      apply standing.moves (.posting _)
      · simp
      · exact fun other found different second => absurd second (standing.alone reading different)
      · rw [outstanding_eq, reading, YdbiAccess.ydbiGetItemRelease, if_neg notOther]
        rfl
      · rw [YdbiAccess.ydbiGetItemRelease, if_neg notOther]
        rfl
    | false =>
      rw [YdbiAccess.ydbiGetItemRelease, if_neg notOther] at taken
      cases taken
      refine standing.logRelease ⟨.posting none, state.held who⟩
        { state.ydbia with atype := .readRelease } rfl guarded rfl
        (fun _ _ => standing.alone reading) (by simp) ?_
      rw [outstanding_eq, reading]
      exact List.Perm.refl _
  · cases taken

private theorem step_post (taken : state.step (.post who) = some after) : after.Standing start := by
  simp only [YdbiState.step] at taken
  split at taken
  · rename_i kept posting
    cases taken
    apply standing.quiet
    · intro other key reading
      replace reading : (state.setThread who ⟨.idle, kept.toList ++ state.held who⟩).activity
        other = .reading key := reading
      rw [activity_setThread] at reading
      split at reading
      · cases reading
      · exact ⟨reading, rfl, rfl⟩
    · intro other
      show (state.setThread who _).outstanding other = _
      rw [outstanding_setThread]
      split
      · rename_i me
        rw [me, outstanding_eq, posting]
        rfl
      · rfl
    · rfl
    · rfl
    · rfl
  · cases taken

theorem step_relItem (permitted : YdbiPermitted state (.relItem who key))
    (taken : state.step (.relItem who key) = some after) : after.Standing start := by
  simp only [YdbiState.step] at taken
  split at taken
  · rename_i read reading
    split at taken
    · rename_i same
      subst same
      cases taken
      refine standing.logRelease ⟨.idle, state.held who⟩
        { state.ydbia with atype := .readRelease, key := read } rfl rfl rfl
        (fun _ _ => standing.alone reading) (by simp) ?_
      rw [outstanding_eq, reading]
      exact List.Perm.refl _
    · cases taken
  · rename_i idle
    have kind : state.ydbia.atype ≠ .read := by
      replace permitted : (state.activity who).Alone state.ydbia := permitted
      rw [idle] at permitted
      exact permitted
    split at taken
    · rename_i member
      cases taken
      refine standing.logRelease ⟨.idle, (state.held who).erase key⟩
        { state.ydbia with atype := .readRelease, key := key } rfl rfl rfl
        (fun other found _ => standing.unread kind other found) (by simp) ?_
      rw [outstanding_eq, idle]
      exact List.perm_cons_erase member
    · cases taken
  · cases taken

theorem step (permitted : YdbiPermitted state event) (taken : state.step event = some after) :
    after.Standing start := by
  cases event with
  | action who request =>
    simp only [YdbiState.step] at taken
    split at taken
    · rename_i idle
      have free : state.outstanding who = state.held who := by
        rw [outstanding_eq, idle]
        rfl
      split at taken
      · cases taken
        apply standing.moves (.waiting request)
        · simp
        · exact fun _ _ _ _ => ⟨rfl, rfl⟩
        · exact free.symm
        · rfl
      · rename_i kind
        cases taken
        apply standing.perform kind state.ydbia.drain rfl free
        rintro key rfl
        exact permitted kind
    · cases taken
  | timeout who =>
    simp only [YdbiState.step] at taken
    split at taken
    · rename_i request waiting
      cases taken
      apply standing.moves .idle state.ydbia
      · simp
      · exact fun _ _ _ _ => ⟨rfl, rfl⟩
      · rw [outstanding_eq, waiting]
        rfl
      · rfl
    · cases taken
  | wake who =>
    simp only [YdbiState.step] at taken
    split at taken
    · rename_i request waiting
      split at taken
      · cases taken
      · cases taken
        apply standing.moves (.woken request)
        · simp
        · exact fun _ _ _ _ => ⟨rfl, rfl⟩
        · rw [outstanding_eq, waiting]
          rfl
        · rfl
    · cases taken
  | retry who =>
    simp only [YdbiState.step] at taken
    split at taken
    · rename_i request woken
      have free : state.outstanding who = state.held who := by
        rw [outstanding_eq, woken]
        rfl
      split at taken
      · cases taken
        apply standing.moves .idle state.ydbia
        · simp
        · exact fun _ _ _ _ => ⟨rfl, rfl⟩
        · exact free.symm
        · rfl
      · rename_i kind
        cases taken
        apply standing.perform kind state.ydbia rfl free
        rintro key rfl
        replace permitted : (state.activity who).Countable state.ydbia := permitted
        rw [woken] at permitted
        exact permitted kind
    · cases taken
  | getItemRelease who keeplocking => exact standing.step_getItemRelease taken
  | post who => exact standing.step_post taken
  | relItem who key => exact standing.step_relItem permitted taken

end Standing

end YdbiState

private theorem ydbiSystem_standing (dbald : Table) (pools : Pools ν) :
    YdbiState.Standing dbald ((ydbiSystem dbald pools).start : YdbiState ι ν) where
  guarded := nofun
  exclusive := nofun
  filled := nofun
  released := fun _ _ => rfl
  counted := fun _ => rfl

/-- The handle serves every interleaving of threads in which no thread releases an item whose
lock it has kept while another one reads, and no counter of an item goes over its end. -/
theorem ydbi_orderly (dbald : Table) (pools : Pools ν)
    (reachable : (ydbiSystem dbald pools).Reachable YdbiPermitted state) : state.Orderly dbald := by
  apply YdbiState.Standing.orderly
  apply reachable.invariant (YdbiState.Standing dbald) (ydbiSystem_standing dbald pools)
  exact fun _ _ _ standing permitted taken => standing.step permitted taken

def sharedItems : Table := fun key =>
  if key = [1] then some ⟨[5], 0⟩ else if key = [2] then some ⟨[6], 3⟩ else none

def accessPools : Pools Nat := roomFor 0

/-- One thread keeps the lock of the first item. Another one waits, reads the second item and
releases it. Then the first item is released and deleted. -/
def keptEvents : List (YdbiEvent Nat Nat) :=
  [.action 0 (.get [1]), .action 1 (.get [2]), .getItemRelease 0 true, .post 0, .wake 1, .retry 1,
    .getItemRelease 1 false, .post 1, .relItem 0 [1], .action 1 (.del [1])]

def YdbiState.view (state : YdbiState Nat Nat) :
    List (Nat × List UInt8) × List (Nat × List UInt8) × List Nat :=
  (state.taken, state.given, [[1], [2]].map state.ydbia.dbald.locks)

theorem ydbi_orderly_two : ∃ state : YdbiState Nat Nat,
    state.view = ([(1, [2]), (0, [1])], [(0, [1]), (1, [2])], [0, 3]) ∧
      state.Orderly sharedItems := by
  have evaluated : (((ydbiSystem sharedItems accessPools).restrict fun state event =>
      decide (YdbiPermitted state event)).run (ydbiSystem sharedItems accessPools).start
      keptEvents).map YdbiState.view =
        some ([(1, [2]), (0, [1])], [(0, [1]), (1, [2])], [0, 3]) := by decide +kernel
  obtain ⟨state, finished, view⟩ := Option.map_eq_some_iff.mp evaluated
  exact ⟨state, view, ydbi_orderly sharedItems accessPools
    ((System.reachable_of_run finished).of_restrict fun _ _ => of_decide_eq_true)⟩

def overtakenEvents : List (YdbiEvent Nat Nat) :=
  [.action 0 (.get [1]), .getItemRelease 0 true, .post 0, .action 1 (.get [2]), .relItem 0 [1],
    .getItemRelease 1 false, .post 1]

/-- The item that the other thread reads is never released. -/
theorem reader_overtaken : ¬ ∀ state : YdbiState Nat Nat,
    (ydbiSystem sharedItems accessPools).Reachable System.anyStep state →
      state.Orderly sharedItems := by
  intro always
  have evaluated : ((ydbiSystem sharedItems accessPools).run (ydbiSystem sharedItems accessPools).start
      overtakenEvents).map (fun state => (state.taken.count (1, [2]),
        state.given.count (1, [2]) + (state.outstanding 1).count [2])) = some (1, 0) := by
    decide +kernel
  obtain ⟨state, finished, counts⟩ := Option.map_eq_some_iff.mp evaluated
  have released := (always state (System.reachable_of_run finished)).released 1 [2]
  obtain ⟨taken, given⟩ := Prod.mk.inj counts
  rw [taken, given] at released
  exact absurd released (by decide)

end EnetTsn.Uniconf
