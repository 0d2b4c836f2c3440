import EnetTsn.Library.Run
import EnetTsn.Sync.SiteSync

namespace EnetTsn.Sync

open EnetTsn.Gptp EnetTsn.Library

def Site.SameSlaves (before after : Site) : Prop :=
  ∀ index, before.selectedState index = .slavePort ↔ after.selectedState index = .slavePort

/-- A structure that went to the ports: the domain as it was then, whether the structure had
been sent before, and whether the slave ports were still those it was stored under. -/
structure SiteSend where
  site : Site
  portSyncSync : PortSyncSync
  resent : Bool
  slavesKept : Prop

namespace SiteSend

/-- It comes from the slave port of a domain with a grandmaster, or from the port under test. -/
def FromSlave (send : SiteSend) : Prop :=
  (send.site.selectedState send.portSyncSync.localPortIndex = .slavePort ∧
      send.site.gmPresent = true) ∨
    send.site.testSyncRecPort = send.portSyncSync.localPortIndex.toInt

def Timely (send : SiteSend) : Prop :=
  send.resent = true → send.slavesKept

end SiteSend

theorem Site.accepts_iff (site : Site) (source : PortSyncSync) : site.accepts source = true ↔
      (site.selectedState source.localPortIndex = .slavePort ∧ site.gmPresent = true) ∨
        site.testSyncRecPort = source.localPortIndex.toInt := by
  simp [Site.accepts]

/-- A domain, its machine, whether the slave ports are those that the stored structure was
stored under, and what the machine has sent. -/
structure SiteRun where
  site : Site
  data : SiteSync
  slavesKept : Prop
  emitted : List SiteSend

/-- The machine runs when a port or the clock of the station hands on a structure; selections
and settings change what it reads. -/
inductive SiteEvent where
  | change (site : Site)
  | portSyncSync (source : PortSyncSync) (cts64 : UInt64)

def SiteRun.emit (run : SiteRun) (next : SiteSync) : Option PortSyncSync → SiteRun
  | none => { run with data := next }
  | some result => { run with
      data := next
      slavesKept := next.rcvdPSSyncPtr.isTx = true → run.slavesKept
      emitted := run.emitted ++
        [{ site := run.site, portSyncSync := result, resent := next.rcvdPSSyncPtr.isTx
           slavesKept := run.slavesKept }] }

def siteSystem (site : Site) : System SiteRun SiteEvent where
  start := { site := site, data := SiteSync.initialized, slavesKept := True, emitted := [] }
  step run
    | .change after =>
      some { run with site := after, slavesKept := run.slavesKept ∧ run.site.SameSlaves after }
    | .portSyncSync source cts64 =>
      (siteSyncSyncSmPortSyncSync run.site source cts64 run.data).map fun out =>
        run.emit out.1 out.2

/-- When a structure arrives in the receiving state and the one sent last is overdue, either
that one is sent, under the slave ports it was stored under, or the new one comes from where
the domain takes its time. -/
def SiteRun.Permitted (run : SiteRun) : SiteEvent → Prop
  | .change _ => True
  | .portSyncSync source cts64 =>
    (run.site.BEGIN || !run.site.instanceEnable) = false → run.data.state = .receivingSync →
      run.data.overdue run.site cts64 = true →
      if run.data.outdated source then run.slavesKept else run.site.accepts source = true

section Runs

variable {site : Site} {run next : SiteRun} {source : PortSyncSync} {cts64 : UInt64}

/-- What is sent is the structure that arrived, if the domain accepts it or if the stored one
is overdue, or the overdue structure itself. -/
theorem chosen_cases (run : SiteRun) (source : PortSyncSync) (cts64 : UInt64)
    (chosen : run.data.chosen run.site source cts64 = some ptr) :
    (run.site.BEGIN || !run.site.instanceEnable) = false ∧
      ((ptr = .received source ∧ run.site.accepts source = true) ∨
        (run.data.state = .receivingSync ∧ run.data.overdue run.site cts64 = true ∧
          ptr = if run.data.outdated source then .txPSSyncPtrSSS else .received source)) := by
  unfold SiteSync.chosen at chosen
  split at chosen
  · cases chosen
  · rename_i running
    refine ⟨Bool.eq_false_iff.mpr running, ?_⟩
    split at chosen
    · rename_i late
      obtain ⟨receiving, overdue⟩ := Bool.and_eq_true_iff.mp late
      exact Or.inr ⟨beq_iff_eq.mp receiving, overdue, (Option.some.inj chosen).symm⟩
    · split at chosen
      · rename_i accepted
        exact Or.inl ⟨(Option.some.inj chosen).symm, accepted⟩
      · cases chosen

private theorem slave_of_overdue (overdue : run.data.overdue run.site cts64 = true) :
    run.site.selectedState run.data.portSyncSync.localPortIndex = .slavePort ∧
      run.site.gmPresent = true := by
  simp only [SiteSync.overdue, Bool.and_eq_true, beq_iff_eq] at overdue
  exact overdue.1.1.1

private theorem settled_step (settled : run.data.Settled)
    (taken : (siteSystem site).step run event = some next) : next.data.Settled := by
  cases event with
  | change after =>
    cases taken
    exact settled
  | portSyncSync source cts64 =>
    obtain ⟨after, finished, left⟩ := SiteSync.call_eq run.site source cts64 settled
    simp only [siteSystem, finished, Option.map_some, Option.some.injEq] at taken
    subst taken
    cases run.data.chosen run.site source cts64 with
    | none => exact left.settled
    | some ptr => exact left.settled

theorem settled_of_reachable (reachable : (siteSystem site).Reachable allowed run) :
    run.data.Settled :=
  reachable.invariant (fun run => run.data.Settled) SiteSync.settled_initialized
    fun _ _ _ settled _ taken => settled_step settled taken

theorem emitted_site_step (settled : run.data.Settled)
    (taken : (siteSystem site).step run event = some next) (permitted : run.Permitted event) :
    ∀ send ∈ next.emitted, send ∈ run.emitted ∨ send.FromSlave ∧ send.Timely := by
  intro send member
  cases event with
  | change after =>
    cases taken
    exact Or.inl member
  | portSyncSync source cts64 =>
    obtain ⟨after, finished, left⟩ := SiteSync.call_eq run.site source cts64 settled
    simp only [siteSystem, finished, Option.map_some, Option.some.injEq] at taken
    subst taken
    cases chosen : run.data.chosen run.site source cts64 with
    | none =>
      rw [chosen] at member
      exact Or.inl member
    | some ptr =>
      rw [chosen] at member
      rcases List.mem_append.mp member with before | added
      · exact Or.inl before
      · have pointer := left.pointer ptr chosen
        cases List.mem_singleton.mp added
        refine Or.inr ?_
        obtain ⟨running, ⟨rfl, accepted⟩ | ⟨receiving, overdue, origin⟩⟩ :=
          chosen_cases run source cts64 chosen
        · refine ⟨(run.site.accepts_iff source).mp accepted, fun resent => ?_⟩
          rw [pointer] at resent
          cases resent
        · have allowed := permitted running receiving overdue
          cases old : run.data.outdated source with
          | true =>
            rw [old, if_pos rfl] at origin allowed
            subst origin
            exact ⟨Or.inl (slave_of_overdue overdue), fun _ => allowed⟩
          | false =>
            rw [old, if_neg Bool.false_ne_true] at origin allowed
            subst origin
            refine ⟨(run.site.accepts_iff source).mp allowed, fun resent => ?_⟩
            rw [pointer] at resent
            cases resent

theorem astray_of_denied (settled : run.data.Settled)
    (denied : ¬ run.Permitted (.portSyncSync source cts64)) :
    ∃ next, (siteSystem site).step run (.portSyncSync source cts64) = some next ∧
      ∃ send ∈ next.emitted,
        if run.data.outdated source then ¬ send.Timely else ¬ send.FromSlave := by
  simp only [SiteRun.Permitted, Classical.not_imp] at denied
  obtain ⟨running, receiving, overdue, wrong⟩ := denied
  obtain ⟨after, finished, left⟩ := SiteSync.call_eq run.site source cts64 settled
  have chosen : run.data.chosen run.site source cts64 =
      some (if run.data.outdated source then .txPSSyncPtrSSS else .received source) := by
    simp [SiteSync.chosen, running, receiving, overdue]
  have pointer := left.pointer _ chosen
  rw [chosen] at finished
  refine ⟨run.emit after (some (run.data.deref
    (if run.data.outdated source then .txPSSyncPtrSSS else .received source))), ?_, ?_⟩
  · simp only [siteSystem, finished, Option.map_some]
  · refine ⟨_, List.mem_append_right _ (List.mem_singleton_self _), ?_⟩
    cases old : run.data.outdated source with
    | true =>
      rw [old, if_pos rfl] at wrong pointer
      intro timely
      refine wrong (timely ?_)
      rw [pointer]
      rfl
    | false =>
      rw [old, if_neg Bool.false_ne_true] at wrong
      exact fun fromSlave => wrong ((run.site.accepts_iff source).mpr fromSlave)

end Runs

/-- In every run in which an overdue structure is replaced or sent again as it should be,
everything that a domain sends comes from its slave port and in time; in every other run
something else is sent. -/
theorem site_sends (site : Site) : (∀ run, (siteSystem site).Reachable SiteRun.Permitted run →
      ∀ send ∈ run.emitted, send.FromSlave ∧ send.Timely) ∧
    ∀ run source cts64, (siteSystem site).Reachable System.anyStep run →
      ¬ run.Permitted (.portSyncSync source cts64) →
      ∃ next, (siteSystem site).step run (.portSyncSync source cts64) = some next ∧
        ∃ send ∈ next.emitted, ¬ (send.FromSlave ∧ send.Timely) := by
  constructor
  · intro run reachable
    induction reachable with
    | start => exact fun _ impossible => absurd impossible List.not_mem_nil
    | step before permitted taken ih =>
      intro send member
      rcases emitted_site_step (settled_of_reachable before) taken permitted send member with
        earlier | sound
      · exact ih send earlier
      · exact sound
  · intro run source cts64 reachable denied
    obtain ⟨next, taken, send, member, astray⟩ :=
      astray_of_denied (settled_of_reachable reachable) denied
    refine ⟨next, taken, send, member, fun sound => ?_⟩
    split at astray
    · exact astray sound.2
    · exact astray sound.1

namespace SiteSync

def siteOf (slave : Int16) : Site where
  BEGIN := false
  instanceEnable := true
  selectedState index := if index = slave then .slavePort else .masterPort
  gmPresent := true
  testSyncRecPort := -1
  staticPortStateSlavePort := -1

def handedOn (localPortIndex : Int16) (cts64 : UInt64) : PortSyncSync :=
  { zeroPortSyncSync with
    localPortIndex := localPortIndex, syncReceiptTimeoutTime := cts64 + 3000000000
    syncNextSendTimeoutTime := cts64 + 1500000000 }

def ownClock : PortSyncSync :=
  { zeroPortSyncSync with syncReceiptTimeoutTime := -1, syncNextSendTimeoutTime := -1 }

def intruded : List SiteEvent :=
  [.portSyncSync (handedOn 1 1000000000) 1000000000,
    .portSyncSync (handedOn 2 3000000000) 3000000000]

def moved : List SiteEvent :=
  [.portSyncSync (handedOn 1 1000000000) 1000000000, .change (siteOf 2)]

end SiteSync

open SiteSync in
/-- A structure of a master port is sent because the one of the slave port is overdue, and a
structure is sent again after the slave port has changed twice. -/
theorem site_sends_astray : (∃ run, (siteSystem (siteOf 1)).Reachable System.anyStep run ∧
      ∃ send ∈ run.emitted, ¬ send.FromSlave) ∧
    ∃ run, (siteSystem (siteOf 1)).Reachable System.anyStep run ∧
      ∃ send ∈ run.emitted, ¬ send.Timely := by
  constructor
  · have ran : ((siteSystem (siteOf 1)).run (siteSystem (siteOf 1)).start intruded).map
        (fun run => run.emitted.map fun send =>
          send.site.accepts send.portSyncSync) = some [true, false] := by decide +kernel
    obtain ⟨run, finished, emitted⟩ := Option.map_eq_some_iff.mp ran
    have refused : false ∈ run.emitted.map fun send => send.site.accepts send.portSyncSync := by
      rw [emitted]
      exact List.mem_cons_of_mem _ (List.mem_singleton_self _)
    obtain ⟨send, member, accepted⟩ := List.mem_map.mp refused
    refine ⟨run, System.reachable_of_run finished, send, member, fun fromSlave => ?_⟩
    exact nomatch accepted.symm.trans ((send.site.accepts_iff send.portSyncSync).mpr fromSlave)
  · -- the slave port is the first one again when the clock of the station finds it overdue
    have ran : ((siteSystem (siteOf 1)).run (siteSystem (siteOf 1)).start moved).map
        (fun run => (run.site.selectedState 1, run.data.state,
          run.data.overdue (siteOf 1) 3000000000, run.data.outdated ownClock)) =
        some (.masterPort, .receivingSync, true, true) := by decide +kernel
    obtain ⟨run, finished, values⟩ := Option.map_eq_some_iff.mp ran
    simp only [Prod.mk.injEq] at values
    obtain ⟨master, receiving, overdue, old⟩ := values
    let back : SiteRun := { run with
      site := siteOf 1, slavesKept := run.slavesKept ∧ run.site.SameSlaves (siteOf 1) }
    have turned : (siteSystem (siteOf 1)).run run [.change (siteOf 1)] = some back := rfl
    have reachable : (siteSystem (siteOf 1)).Reachable System.anyStep back :=
      (System.reachable_of_run finished).run turned
    have denied : ¬ back.Permitted (.portSyncSync ownClock 3000000000) := by
      intro permitted
      have kept := permitted rfl receiving overdue
      exact nomatch master.symm.trans ((kept.2 1).mpr rfl)
    obtain ⟨next, taken, send, member, astray⟩ :=
      astray_of_denied (settled_of_reachable reachable) denied
    exact ⟨next, .step reachable trivial taken, send, member, astray⟩

end EnetTsn.Sync
