import EnetTsn.Uniconf.Reopen
import EnetTsn.Uniconf.SimpledbRuns

namespace EnetTsn.Uniconf

open EnetTsn.Library

theorem reachable_represents [DecidableEq ν] {run : DbRun ν}
    (reachable : simpledbSystem.Reachable DbPermitted (.intact run)) :
    ∃ nodes, Represents run.db nodes (replay run.history) := by
  have invariant : ∃ found nodes, DbOutcome.intact run = .intact found ∧
      DbRun.Refines found nodes := by
    apply reachable.invariant (fun outcome : DbOutcome ν => ∃ found nodes,
      outcome = .intact found ∧ DbRun.Refines found nodes)
    · exact ⟨_, [], rfl, emptyDb_refines⟩
    · rintro _ event next ⟨found, nodes, rfl, refines⟩ permitted taken
      exact refines.step permitted taken
  obtain ⟨found, nodes, same, refines⟩ := invariant
  cases same
  exact ⟨nodes, refines.represents⟩

/-- Two stores that have the same values for the same keys write the same file, whatever was
put and deleted before, and wherever their items are in memory. -/
theorem saved_file_of_contents [DecidableEq ν] [DecidableEq μ] {first : DbRun ν}
    {second : DbRun μ} (reached : simpledbSystem.Reachable DbPermitted (.intact first))
    (reached' : simpledbSystem.Reachable DbPermitted (.intact second))
    (same : ∀ kd, (replay first.history kd).map Entry.value =
      (replay second.history kd).map Entry.value) (room : Option Nat) (keyranges : List KeyRange) :
    ∃ written, first.db.simpledbSavedata room keyranges = some written ∧
      second.db.simpledbSavedata room keyranges = some written := by
  obtain ⟨nodes, represents⟩ := reachable_represents reached
  obtain ⟨nodes', represents'⟩ := reachable_represents reached'
  obtain ⟨items, contents, member⟩ := represents.items
  obtain ⟨items', contents', member'⟩ := represents'.items
  have equal : items = items' := by
    refine Rising.eq_of_mem_iff (rising_of_contents represents.sorted contents)
      (rising_of_contents represents'.sorted contents') ?_
    intro item
    rw [member, member', same]
  subst equal
  cases room with
  | none => exact ⟨(-1, none), rfl, rfl⟩
  | some room =>
    simp only [Simpledb.simpledbSavedata, savedataLoop_eq represents.sorted contents,
      savedataLoop_eq represents'.sorted contents', Option.map_some]
    exact ⟨_, rfl, rfl⟩

theorem saved_file_of_contents_replaced : ∃ first second : DbRun Nat, ∃ written,
    first.db.simpledbSavedata (some 100) [⟨some [1], some [9]⟩] = some written ∧
      second.db.simpledbSavedata (some 100) [⟨some [1], some [9]⟩] = some written := by
  let permitted := simpledbSystem.restrict fun (outcome : DbOutcome Nat) event =>
    decide (DbPermitted outcome event)
  obtain ⟨put, isPut⟩ : ∃ event : DbEvent Nat,
      event = ucDbalCreate [1] (.of [5] (by decide)) (roomFor 0) := ⟨_, rfl⟩
  obtain ⟨earlier, isEarlier⟩ : ∃ event : DbEvent Nat,
      event = ucDbalCreate [1] (.of [6, 7] (by decide)) (roomFor 3) := ⟨_, rfl⟩
  obtain ⟨first, finished⟩ : ∃ db : Simpledb Nat, permitted.run simpledbSystem.start [put] =
      some (.intact ⟨db, [(put, .result 0)]⟩) := by
    subst isPut
    exact ⟨_, rfl⟩
  obtain ⟨second, finished'⟩ : ∃ db : Simpledb Nat,
      permitted.run simpledbSystem.start [earlier, put] =
        some (.intact ⟨db, [(put, .result 0), (earlier, .result 0)]⟩) := by
    subst isPut isEarlier
    exact ⟨_, rfl⟩
  refine ⟨_, _, saved_file_of_contents
    ((System.reachable_of_run finished).of_restrict fun _ _ => of_decide_eq_true)
    ((System.reachable_of_run finished').of_restrict fun _ _ => of_decide_eq_true) ?_ _ _⟩
  have once : replay [(put, Answer.result 0)] =
      Function.update (fun _ => none) [1] (some ⟨[5], 0⟩) := by
    subst isPut
    rfl
  have twice : replay [(put, Answer.result 0), (earlier, Answer.result 0)] = Function.update
      (Function.update (fun _ => none) [1] (some ⟨[6, 7], 0⟩)) [1] (some ⟨[5], 0⟩) := by
    subst isPut isEarlier
    rfl
  intro kd
  rw [once, twice, Function.update_idem]

end EnetTsn.Uniconf
