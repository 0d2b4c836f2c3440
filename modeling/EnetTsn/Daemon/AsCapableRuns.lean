import EnetTsn.Bmcs.AnnounceInformation
import EnetTsn.Bmcs.AnnounceReceive
import EnetTsn.Bmcs.ClockState
import EnetTsn.Daemon.AsCapable
import EnetTsn.Interval.RequestSetting
import EnetTsn.Md.Announce
import EnetTsn.Pdelay.PdelayRuns
import EnetTsn.Sync.ClockSlave
import EnetTsn.Sync.SyncSend

namespace EnetTsn.Daemon

open EnetTsn.Library

theorem any_congr_mem {list : List α} (same : ∀ element ∈ list, first element = second element) :
    list.any first = list.any second := by
  apply Bool.eq_iff_iff.mpr
  simp only [List.any_eq_true]
  exact exists_congr fun element => and_congr_right fun member => by rw [same element member]

namespace Domain

def Agrees (maxPorts : Nat) (domain : Domain) : Prop :=
  domain.asCapableOrAll = domain.anyCapable maxPorts

def othersCapable (maxPorts pi : Nat) (domain : Domain) : Bool :=
  (portIndices maxPorts).any fun other => other != pi && (domain.ports other).asCapable

section Ports

variable {maxPorts pi : Nat} {domain : Domain}

theorem anyCapable_eq (member : pi ∈ portIndices maxPorts) (domain : Domain) :
    domain.anyCapable maxPorts =
      ((domain.ports pi).asCapable || domain.othersCapable maxPorts pi) := by
  apply Bool.eq_iff_iff.mpr
  simp only [anyCapable, othersCapable, Bool.or_eq_true, List.any_eq_true, Bool.and_eq_true,
    bne_iff_ne]
  constructor
  · rintro ⟨other, listed, isCapable⟩
    by_cases same : other = pi
    · exact Or.inl (same ▸ isCapable)
    · exact Or.inr ⟨other, listed, same, isCapable⟩
  · rintro (isCapable | ⟨other, listed, _, isCapable⟩)
    · exact ⟨pi, member, isCapable⟩
    · exact ⟨other, listed, isCapable⟩

theorem othersCapable_congr {before after : Domain}
    (same : ∀ other, other ≠ pi → after.ports other = before.ports other) :
    after.othersCapable maxPorts pi = before.othersCapable maxPorts pi := by
  refine List.any_congr rfl fun other => ?_
  by_cases own : other = pi
  · simp [own]
  · rw [same other own]

theorem ports_setPort (port : DomainPort) (domain : Domain) :
    (domain.setPort pi port).ports pi = port ∧
      ∀ other, other ≠ pi → (domain.setPort pi port).ports other = domain.ports other :=
  ⟨Function.update_self .., fun _ different => Function.update_of_ne different ..⟩

/-- `set_asCapable` for one port leaves the others as they are. -/
theorem ports_setAsCapable (di pi : Nat) (link : PortLink) (domain : Domain) :
    (domain.setAsCapable di pi link).ports pi =
        { domain.ports pi with asCapable := capable di link (domain.ports pi) } ∧
      ∀ other, other ≠ pi → (domain.setAsCapable di pi link).ports other = domain.ports other :=
  ports_setPort _ domain

end Ports

end Domain

namespace Gptpman

/-- Every run of `gm_stable_sm` found the disjunction. -/
def RunsAgree (gpmand : Gptpman) : Prop :=
  ∀ seen ∈ gpmand.gmStableRuns, seen.1 = seen.2

/-- In every domain, and in every run of `gm_stable_sm`. -/
structure Agrees (gpmand : Gptpman) : Prop where
  domains : ∀ di < gpmand.maxDomains, (gpmand.domains di).Agrees gpmand.maxPorts
  runs : gpmand.RunsAgree

/-- The condition of `set_asCapable` for a port of a domain. -/
def capableAt (gpmand : Gptpman) (di pi : Nat) : Bool :=
  capable di (gpmand.links pi) ((gpmand.domains di).ports pi)

def othersAt (gpmand : Gptpman) (di pi : Nat) : Bool :=
  (gpmand.domains di).othersCapable gpmand.maxPorts pi

end Gptpman

/-- What `gptpnet_cb` handles. -/
inductive DaemonEvent where
  | devup (pi : Nat) (duplex : Duplex) (speed : UInt32) (gmChange : Nat → Bool)
  | devdown (pi : Nat)
  | recvPdelayResp (pi : Nat) (link : PortLink)
  | other (di pi : Nat) (link : PortLink) (neighborGptpCapable gmChange : Bool)
  | timeout (tick : Gptpman.Tick)

def DaemonEvent.known (gpmand : Gptpman) : DaemonEvent → Bool
  | .devup pi _ _ _ | .devdown pi | .recvPdelayResp pi _ =>
    (portIndices gpmand.maxPorts).contains pi
  | .other di pi _ _ _ =>
    decide (di < gpmand.maxDomains) && (portIndices gpmand.maxPorts).contains pi
  | .timeout _ => true

def daemonSystem (maxDomains maxPorts : Nat) : System Gptpman DaemonEvent where
  start := Gptpman.init maxDomains maxPorts
  step gpmand event :=
    if event.known gpmand then
      some (match event with
        | .devup pi duplex speed gmChange => gpmand.gptpnetCbDevup pi duplex speed gmChange
        | .devdown pi => gpmand.gptpnetCbDevdown pi
        | .recvPdelayResp pi link => gpmand.recvPdelayResp pi link
        | .other di pi link neighborGptpCapable gmChange =>
          gpmand.recvOther di pi link neighborGptpCapable gmChange
        | .timeout tick => gpmand.gptpnetCbTimeout tick)
    else none

namespace Gptpman

/-- A domain whose flag was cleared before one port was looked at: that port is capable, or
no other is. -/
def RefreshedBy (gpmand : Gptpman) (di pi : Nat) : Prop :=
  gpmand.othersAt di pi = true → gpmand.capableAt di pi = true

def KeptBy (gpmand : Gptpman) (di pi : Nat) : Prop :=
  ((gpmand.domains di).ports pi).asCapable = true →
    (gpmand.capableAt di pi || gpmand.othersAt di pi) = true

/-- When the grandmaster changes at one port of a domain in a tick, a port up to it is
capable, or none after it was. -/
def Foreseen (gpmand : Gptpman) (tick : Tick) (di : Nat) : Prop :=
  ∀ before pi after, portIndices gpmand.maxPorts = before ++ pi :: after →
    tick.gmChange di pi = true →
    ((before ++ [pi]).any fun passed => capable di (tick.links passed)
      ((gpmand.domains di).ports passed)) = true ∨
    (after.any fun ahead => ((gpmand.domains di).ports ahead).asCapable) = false

def Permitted (gpmand : Gptpman) : DaemonEvent → Prop
  | .devup pi duplex speed _ => duplex = .full ∧ 100 ≤ speed →
    ∀ di < gpmand.maxDomains, gpmand.RefreshedBy di pi
  | .devdown pi => ∀ di < gpmand.maxDomains,
    ((gpmand.domains di).ports pi).asCapable = true → gpmand.othersAt di pi = true
  | .recvPdelayResp pi link => ∀ di < gpmand.maxDomains,
    if di = 0 then (gpmand.setLink pi link).RefreshedBy di pi
    else (gpmand.setLink pi link).KeptBy di pi
  | .other _ _ _ _ _ => True
  | .timeout tick => ∀ di < gpmand.maxDomains, gpmand.Foreseen tick di

section Updates

variable (gpmand : Gptpman) (domainIndex : Nat) {di pi : Nat}

private theorem domains_forAllDomains (change : Nat → Domain → Domain) (inRange : di < gpmand.maxDomains) :
    (gpmand.forAllDomains change).domains di = change di (gpmand.domains di) :=
  if_pos inRange

/-- One domain after `update_asCapable_for_all`. -/
theorem domains_updateAsCapableForAll (pi : Nat) (inRange : di < gpmand.maxDomains) :
    let after := (gpmand.updateAsCapableForAll domainIndex pi).domains di
    after.ports pi =
        { (gpmand.domains di).ports pi with asCapable := gpmand.capableAt di pi } ∧
      (∀ other, other ≠ pi → after.ports other = (gpmand.domains di).ports other) ∧
      after.asCapableOrAll =
        ((if di = domainIndex then false else (gpmand.domains di).asCapableOrAll) ||
          gpmand.capableAt di pi) := by
  intro after
  have shown : after = (if di = domainIndex then
      { gpmand.domains di with asCapableOrAll := false } else gpmand.domains di).setAsCapable di pi
        (gpmand.links pi) := domains_forAllDomains gpmand _ inRange
  rw [shown]
  by_cases cleared : di = domainIndex
  · rw [if_pos cleared, if_pos cleared]
    obtain ⟨own, others⟩ := Domain.ports_setAsCapable di pi (gpmand.links pi)
      { gpmand.domains di with asCapableOrAll := false }
    exact ⟨own, others, rfl⟩
  · rw [if_neg cleared, if_neg cleared]
    obtain ⟨own, others⟩ := Domain.ports_setAsCapable di pi (gpmand.links pi) (gpmand.domains di)
    exact ⟨own, others, rfl⟩

section

variable (member : pi ∈ portIndices gpmand.maxPorts)
include member

variable (inRange : di < gpmand.maxDomains)
include inRange

theorem anyCapable_updated :
    ((gpmand.updateAsCapableForAll domainIndex pi).domains di).anyCapable gpmand.maxPorts =
      (gpmand.capableAt di pi || gpmand.othersAt di pi) := by
  obtain ⟨own, others, _⟩ := domains_updateAsCapableForAll gpmand domainIndex pi inRange
  rw [Domain.anyCapable_eq member, own, Domain.othersCapable_congr others]
  rfl

theorem agrees_refreshed_iff :
    ((gpmand.updateAsCapableForAll di pi).domains di).Agrees gpmand.maxPorts ↔
      gpmand.RefreshedBy di pi := by
  obtain ⟨_, _, flag⟩ := domains_updateAsCapableForAll gpmand di pi inRange
  rw [Domain.Agrees, anyCapable_updated gpmand di member inRange, flag, if_pos rfl, RefreshedBy]
  cases gpmand.capableAt di pi <;> cases gpmand.othersAt di pi <;> simp

private theorem agrees_kept_iff (different : di ≠ domainIndex)
    (agrees : (gpmand.domains di).Agrees gpmand.maxPorts) :
    ((gpmand.updateAsCapableForAll domainIndex pi).domains di).Agrees gpmand.maxPorts ↔
      gpmand.KeptBy di pi := by
  obtain ⟨_, _, flag⟩ := domains_updateAsCapableForAll gpmand domainIndex pi inRange
  have before : (gpmand.domains di).asCapableOrAll =
      (((gpmand.domains di).ports pi).asCapable || gpmand.othersAt di pi) :=
    agrees.trans (Domain.anyCapable_eq member _)
  rw [Domain.Agrees, anyCapable_updated gpmand domainIndex member inRange, flag, if_neg different, before, KeptBy]
  cases gpmand.capableAt di pi <;> cases gpmand.othersAt di pi <;>
    cases ((gpmand.domains di).ports pi).asCapable <;> simp

theorem agrees_devdown_iff (agrees : (gpmand.domains di).Agrees gpmand.maxPorts) :
    ((gpmand.gptpnetCbDevdown pi).domains di).Agrees gpmand.maxPorts ↔
      (((gpmand.domains di).ports pi).asCapable = true → gpmand.othersAt di pi = true) := by
  have shown : (gpmand.gptpnetCbDevdown pi).domains di = (gpmand.domains di).setPort pi
      { (gpmand.domains di).ports pi with asCapable := false } := if_pos inRange
  have before : (gpmand.domains di).asCapableOrAll =
      (((gpmand.domains di).ports pi).asCapable || gpmand.othersAt di pi) :=
    agrees.trans (Domain.anyCapable_eq member _)
  obtain ⟨own, others⟩ := Domain.ports_setPort
    { (gpmand.domains di).ports pi with asCapable := false } (gpmand.domains di)
  have flag : ((gpmand.domains di).setPort pi
      { (gpmand.domains di).ports pi with asCapable := false }).asCapableOrAll =
      (gpmand.domains di).asCapableOrAll := rfl
  rw [shown, Domain.Agrees, Domain.anyCapable_eq member, own, Domain.othersCapable_congr others,
    flag, before]
  change ((((gpmand.domains di).ports pi).asCapable || gpmand.othersAt di pi) =
    (false || gpmand.othersAt di pi)) ↔ _
  cases gpmand.othersAt di pi <;> cases ((gpmand.domains di).ports pi).asCapable <;> simp

end

theorem kept_smBmcsPerform (gmChange : Bool) (di : Nat) :
    (gpmand.smBmcsPerform gmChange di).maxDomains = gpmand.maxDomains ∧
      (gpmand.smBmcsPerform gmChange di).maxPorts = gpmand.maxPorts ∧
      (gpmand.smBmcsPerform gmChange di).links = gpmand.links ∧
      (gpmand.smBmcsPerform gmChange di).domains = gpmand.domains := by
  unfold smBmcsPerform
  split <;> exact ⟨rfl, rfl, rfl, rfl⟩

theorem runsAgree_gmStableSm (runs : gpmand.RunsAgree)
    (agrees : (gpmand.domains di).Agrees gpmand.maxPorts) : (gpmand.gmStableSm di).RunsAgree := by
  intro seen member
  rcases List.mem_append.mp member with before | added
  · exact runs seen before
  · rw [List.mem_singleton.mp added]
    exact agrees

theorem runsAgree_smBmcsPerform (runs : gpmand.RunsAgree)
    (agrees : gmChange = true → (gpmand.domains di).Agrees gpmand.maxPorts) :
    (gpmand.smBmcsPerform gmChange di).RunsAgree := by
  unfold smBmcsPerform
  split
  · rename_i changed
    exact gpmand.runsAgree_gmStableSm runs (agrees changed)
  · exact runs

end Updates

section Devup

/-- The domains after some of them have been passed in `gptpnet_cb_devup`. -/
structure PassedUp (gpmand : Gptpman) (pi : Nat) (passed : List Nat) (state : Gptpman) : Prop where
  maxDomains : state.maxDomains = gpmand.maxDomains
  maxPorts : state.maxPorts = gpmand.maxPorts
  capableAt : ∀ di < gpmand.maxDomains, state.capableAt di pi = gpmand.capableAt di pi
  othersAt : ∀ di < gpmand.maxDomains, state.othersAt di pi = gpmand.othersAt di pi
  flags : ∀ di ∈ passed, di < gpmand.maxDomains →
    (state.domains di).asCapableOrAll = gpmand.capableAt di pi ∧
      (state.domains di).anyCapable gpmand.maxPorts =
        (gpmand.capableAt di pi || gpmand.othersAt di pi)
  runs : (∀ di < gpmand.maxDomains, gpmand.RefreshedBy di pi) → gpmand.RunsAgree →
    state.RunsAgree

variable {gpmand : Gptpman} {pi : Nat}

/-- The fields of a daemon after `update_asCapable_for_all`, as far as the other domains and
calls for the same port are concerned. -/
theorem at_updateAsCapableForAll (domainIndex : Nat) (inRange : di < gpmand.maxDomains) :
    (gpmand.updateAsCapableForAll domainIndex pi).capableAt di pi = gpmand.capableAt di pi ∧
      (gpmand.updateAsCapableForAll domainIndex pi).othersAt di pi = gpmand.othersAt di pi := by
  obtain ⟨own, others, _⟩ := gpmand.domains_updateAsCapableForAll domainIndex pi inRange
  constructor
  · unfold capableAt
    rw [own]
    rfl
  · exact Domain.othersCapable_congr others

variable (member : pi ∈ portIndices gpmand.maxPorts)
include member

theorem passedUp_step (gmChange : Nat → Bool)
    (inRange : next < gpmand.maxDomains) (done : gpmand.PassedUp pi passed state) :
    gpmand.PassedUp pi (passed ++ [next]) (state.devupDomain pi gmChange next) := by
  obtain ⟨sameDomains, samePorts, sameLinks, same⟩ :=
    (state.updateAsCapableForAll next pi).kept_smBmcsPerform (gmChange next) next
  have listed : pi ∈ portIndices state.maxPorts := done.maxPorts ▸ member
  have flags : ∀ di < gpmand.maxDomains, (di ∈ passed ∨ di = next) →
      ((state.updateAsCapableForAll next pi).domains di).asCapableOrAll =
          gpmand.capableAt di pi ∧
        ((state.updateAsCapableForAll next pi).domains di).anyCapable gpmand.maxPorts =
          (gpmand.capableAt di pi || gpmand.othersAt di pi) := by
    intro di small which
    have inState : di < state.maxDomains := done.maxDomains ▸ small
    constructor
    · rw [(state.domains_updateAsCapableForAll next pi inState).2.2, done.capableAt di small]
      by_cases cleared : di = next
      · rw [if_pos cleared, Bool.false_or]
      · rw [if_neg cleared, (done.flags di (which.resolve_right cleared) small).1, Bool.or_self]
    · rw [← done.maxPorts, state.anyCapable_updated next listed inState, done.capableAt di small,
        done.othersAt di small]
  unfold devupDomain
  refine
    { maxDomains := sameDomains.trans done.maxDomains, maxPorts := samePorts.trans done.maxPorts
      capableAt := ?_, othersAt := ?_, flags := ?_, runs := ?_ }
  · intro di small
    unfold Gptpman.capableAt
    rw [same, sameLinks]
    exact (at_updateAsCapableForAll next (done.maxDomains ▸ small)).1.trans (done.capableAt di small)
  · intro di small
    unfold Gptpman.othersAt
    rw [same, samePorts]
    exact (at_updateAsCapableForAll next (done.maxDomains ▸ small)).2.trans (done.othersAt di small)
  · intro di which small
    rw [same]
    refine flags di small ?_
    rcases List.mem_append.mp which with before | added
    · exact Or.inl before
    · exact Or.inr (List.mem_singleton.mp added)
  · intro refreshed before
    refine (state.updateAsCapableForAll next pi).runsAgree_smBmcsPerform
      (done.runs refreshed before) fun _ => ?_
    have small : next < state.maxDomains := done.maxDomains ▸ inRange
    refine (state.agrees_refreshed_iff listed small).mpr ?_
    rw [RefreshedBy, done.othersAt next inRange, done.capableAt next inRange]
    exact refreshed next inRange

private theorem passedUp_all (gmChange : Nat → Bool) : gpmand.PassedUp pi (List.range gpmand.maxDomains)
      ((List.range gpmand.maxDomains).foldl (devupDomain pi gmChange) gpmand) := by
  refine foldl_invariant (gpmand.PassedUp pi) ?_ ?_
  · exact
      { maxDomains := rfl, maxPorts := rfl, capableAt := fun _ _ => rfl, othersAt := fun _ _ => rfl
        flags := fun _ impossible => absurd impossible List.not_mem_nil
        runs := fun _ before => before }
  · intro before next after state whole done
    have listed : next ∈ List.range gpmand.maxDomains := by
      rw [whole]
      exact List.mem_append_right _ (List.mem_cons_self ..)
    exact passedUp_step member gmChange (List.mem_range.mp listed) done

theorem agrees_devup_iff (gmChange : Nat → Bool) (runs : gpmand.RunsAgree) :
    ((List.range gpmand.maxDomains).foldl (devupDomain pi gmChange) gpmand).Agrees ↔
      ∀ di < gpmand.maxDomains, gpmand.RefreshedBy di pi := by
  have done := passedUp_all member gmChange
  constructor
  · intro agrees di small others
    have right := agrees.domains di (Nat.lt_of_lt_of_eq small done.maxDomains.symm)
    obtain ⟨flag, disjunction⟩ := done.flags di (List.mem_range.mpr small) small
    rw [Domain.Agrees, done.maxPorts, flag, disjunction, others, Bool.or_true] at right
    exact right
  · intro refreshed
    refine ⟨fun di small => ?_, done.runs refreshed runs⟩
    rw [done.maxDomains] at small
    obtain ⟨flag, disjunction⟩ := done.flags di (List.mem_range.mpr small) small
    have decides := refreshed di small
    rw [Domain.Agrees, done.maxPorts, flag, disjunction]
    cases others : gpmand.othersAt di pi with
    | true => rw [decides others, Bool.or_true]
    | false => rw [Bool.or_false]

end Devup

section Timeout

/-- A domain after some of its ports have been passed in `gptpnet_cb_timeout`: the flag is the
disjunction over these. -/
structure PassedPorts (gpmand : Gptpman) (di : Nat) (passed : List Nat) (state : Gptpman) :
    Prop where
  maxDomains : state.maxDomains = gpmand.maxDomains
  maxPorts : state.maxPorts = gpmand.maxPorts
  links : state.links = gpmand.links
  others : ∀ other, other ≠ di → state.domains other = gpmand.domains other
  flag : (state.domains di).asCapableOrAll = passed.any fun pi => gpmand.capableAt di pi
  before : ∀ pi ∈ passed, ((state.domains di).ports pi).asCapable = gpmand.capableAt di pi
  ahead : ∀ pi, pi ∉ passed → (state.domains di).ports pi = (gpmand.domains di).ports pi

variable {gpmand state : Gptpman} {di : Nat} {tick : Tick}

/-- The domain after one more port, before `sm_bmcs_perform`. -/
theorem domain_timeoutPort (tick : Tick) (di : Nat) (state : Gptpman) (pi : Nat) :
    let after := (state.timeoutPort tick di pi).domains di
    after.asCapableOrAll = ((state.domains di).asCapableOrAll || state.capableAt di pi) ∧
      (after.ports pi).asCapable = state.capableAt di pi ∧
      ∀ other, other ≠ pi → after.ports other = (state.domains di).ports other := by
  intro after
  have shown : after = ((state.domains di).setAsCapable di pi (state.links pi)).setPort pi
      { ((state.domains di).setAsCapable di pi (state.links pi)).ports pi with
        neighborGptpCapable := tick.neighborGptpCapable di pi } := by
    obtain ⟨_, _, _, same⟩ := kept_smBmcsPerform (state.setDomain di
      (((state.domains di).setAsCapable di pi (state.links pi)).setPort pi
        { ((state.domains di).setAsCapable di pi (state.links pi)).ports pi with
          neighborGptpCapable := tick.neighborGptpCapable di pi })) (tick.gmChange di pi) di
    exact (congrFun same di).trans (Function.update_self ..)
  obtain ⟨own, others⟩ := Domain.ports_setAsCapable di pi (state.links pi) (state.domains di)
  obtain ⟨ownLater, othersLater⟩ := Domain.ports_setPort
    { ((state.domains di).setAsCapable di pi (state.links pi)).ports pi with
      neighborGptpCapable := tick.neighborGptpCapable di pi }
    ((state.domains di).setAsCapable di pi (state.links pi))
  rw [shown]
  refine ⟨rfl, ?_, fun other different => ?_⟩
  · rw [ownLater, own]
    rfl
  · exact (othersLater other different).trans (others other different)

theorem kept_timeoutPort (tick : Tick) (di : Nat) (state : Gptpman) (pi : Nat) :
    (state.timeoutPort tick di pi).maxDomains = state.maxDomains ∧
      (state.timeoutPort tick di pi).maxPorts = state.maxPorts ∧
      (state.timeoutPort tick di pi).links = state.links ∧
      ∀ other, other ≠ di → (state.timeoutPort tick di pi).domains other = state.domains other := by
  obtain ⟨sameDomains, samePorts, sameLinks, same⟩ := kept_smBmcsPerform (state.setDomain di
    (((state.domains di).setAsCapable di pi (state.links pi)).setPort pi
      { ((state.domains di).setAsCapable di pi (state.links pi)).ports pi with
        neighborGptpCapable := tick.neighborGptpCapable di pi })) (tick.gmChange di pi) di
  refine ⟨sameDomains, samePorts, sameLinks, fun other different => ?_⟩
  exact (congrFun same other).trans (Function.update_of_ne different ..)

theorem passedPorts_step (fresh : next ∉ passed) (done : gpmand.PassedPorts di passed state) :
    gpmand.PassedPorts di (passed ++ [next]) (state.timeoutPort tick di next) := by
  obtain ⟨sameDomains, samePorts, sameLinks, sameOthers⟩ := state.kept_timeoutPort tick di next
  obtain ⟨flag, own, others⟩ := state.domain_timeoutPort tick di next
  have decides : state.capableAt di next = gpmand.capableAt di next := by
    unfold capableAt
    rw [done.links, done.ahead next fresh]
  exact
    { maxDomains := sameDomains.trans done.maxDomains
      maxPorts := samePorts.trans done.maxPorts
      links := sameLinks.trans done.links
      others := fun other different =>
        (sameOthers other different).trans (done.others other different)
      flag := by
        rw [flag, done.flag, decides, List.any_append, List.any_cons, List.any_nil, Bool.or_false]
      before := by
        intro pi member
        by_cases same : pi = next
        · rw [same, own, decides]
        · rw [others pi same]
          refine done.before pi ((List.mem_append.mp member).resolve_right fun added => ?_)
          exact same (List.mem_singleton.mp added)
      ahead := by
        intro pi absent
        simp only [List.mem_append, List.mem_singleton, not_or] at absent
        rw [others pi absent.2]
        exact done.ahead pi absent.1 }

theorem PassedPorts.anyCapable (done : gpmand.PassedPorts di passed state)
    (whole : portIndices gpmand.maxPorts = passed ++ after) (disjoint : ∀ pi ∈ after, pi ∉ passed) :
    (state.domains di).anyCapable gpmand.maxPorts =
      ((passed.any fun pi => gpmand.capableAt di pi) ||
        after.any fun pi => ((gpmand.domains di).ports pi).asCapable) := by
  unfold Domain.anyCapable
  rw [whole, List.any_append, any_congr_mem done.before]
  congr 1
  exact any_congr_mem fun pi member => by rw [done.ahead pi (disjoint pi member)]

/-- A passed port whose neighbors change the grandmaster lets `gm_stable_sm` see the ports up
to it as they are now, and the others as they were. -/
theorem seen_timeoutPort (tick : Tick) (done : gpmand.PassedPorts di passed state)
    (whole : portIndices gpmand.maxPorts = passed ++ pi :: after) :
    (state.timeoutPort tick di pi).gmStableRuns = state.gmStableRuns ++
      if tick.gmChange di pi then
        [((passed ++ [pi]).any fun passed => gpmand.capableAt di passed,
          ((passed ++ [pi]).any fun passed => gpmand.capableAt di passed) ||
            after.any fun ahead => ((gpmand.domains di).ports ahead).asCapable)]
      else [] := by
  have distinct : (passed ++ pi :: after).Nodup := by
    rw [← whole]
    exact List.nodup_range'
  have fresh : pi ∉ passed := fun member =>
    (List.nodup_append.mp distinct).2.2 pi member pi (List.mem_cons_self ..) rfl
  have apart : ∀ ahead ∈ after, ahead ∉ passed ++ [pi] := by
    have moved : (passed ++ [pi] ++ after).Nodup := by
      rw [List.append_assoc, List.singleton_append]
      exact distinct
    exact fun ahead member before => (List.nodup_append.mp moved).2.2 ahead before ahead member rfl
  have next : gpmand.PassedPorts di (passed ++ [pi]) (state.timeoutPort tick di pi) :=
    passedPorts_step fresh done
  have split : portIndices gpmand.maxPorts = (passed ++ [pi]) ++ after := by
    rw [whole, List.append_assoc, List.singleton_append]
  cases changes : tick.gmChange di pi with
  | false => simp [timeoutPort, smBmcsPerform, changes, setDomain]
  | true =>
    have flag := next.flag
    have disjunction := next.anyCapable split apart
    simp only [timeoutPort, smBmcsPerform, changes, gmStableSm, if_true] at flag disjunction ⊢
    rw [flag, ← disjunction, ← done.maxPorts]
    rfl

theorem passedPorts_start (gpmand : Gptpman) (di : Nat) :
    gpmand.PassedPorts di [] (gpmand.setDomain di
      { gpmand.domains di with asCapableOrAll := false }) where
  maxDomains := rfl
  maxPorts := rfl
  links := rfl
  others _ different := Function.update_of_ne different ..
  flag := by
    change (Function.update gpmand.domains di _ di).asCapableOrAll = _
    rw [Function.update_self]
    rfl
  before _ impossible := absurd impossible List.not_mem_nil
  ahead pi _ := by
    change (Function.update gpmand.domains di _ di).ports pi = _
    rw [Function.update_self]

theorem not_mem_of_portIndices (whole : portIndices count = passed ++ pi :: after) : pi ∉ passed := by
  have distinct : (passed ++ pi :: after).Nodup := by
    rw [← whole]
    exact List.nodup_range'
  exact fun member => (List.nodup_append.mp distinct).2.2 pi member pi (List.mem_cons_self ..) rfl

theorem passedPorts_prefix (tick : Tick) (gpmand : Gptpman) (di : Nat)
    (whole : portIndices gpmand.maxPorts = passed ++ after) :
    gpmand.PassedPorts di passed (passed.foldl (timeoutPort tick di)
      (gpmand.setDomain di { gpmand.domains di with asCapableOrAll := false })) := by
  refine foldl_invariant (gpmand.PassedPorts di) (gpmand.passedPorts_start di) ?_
  intro before next rest state split done
  have order : portIndices gpmand.maxPorts = before ++ next :: (rest ++ after) := by
    rw [whole, split, List.append_assoc, List.cons_append]
  exact passedPorts_step (not_mem_of_portIndices order) done

theorem grows_timeoutPort (tick : Tick) (di : Nat) (state : Gptpman) (pi : Nat)
    (member : seen ∈ state.gmStableRuns) : seen ∈ (state.timeoutPort tick di pi).gmStableRuns := by
  unfold timeoutPort smBmcsPerform
  split
  · exact List.mem_append_left _ member
  · exact member

private theorem grows_timeoutDomain (tick : Tick) (di : Nat) (state : Gptpman)
    (member : seen ∈ state.gmStableRuns) : seen ∈ (state.timeoutDomain tick di).gmStableRuns :=
  List.mem_append_left _ (foldl_invariant
    (fun (_ : List Nat) (state : Gptpman) => seen ∈ state.gmStableRuns) member
    fun _ next _ state _ kept => state.grows_timeoutPort tick di next kept)

theorem runs_timeoutPorts (tick : Tick) (gpmand : Gptpman) (di : Nat)
    (links : gpmand.links = tick.links) (foreseen : gpmand.Foreseen tick di)
    (runs : gpmand.RunsAgree) : ((portIndices gpmand.maxPorts).foldl (timeoutPort tick di)
      (gpmand.setDomain di { gpmand.domains di with asCapableOrAll := false })).RunsAgree := by
  refine (foldl_invariant (fun (passed : List Nat) (state : Gptpman) =>
    gpmand.PassedPorts di passed state ∧ state.RunsAgree)
    ⟨gpmand.passedPorts_start di, runs⟩ ?_).2
  rintro before next after state whole ⟨done, agree⟩
  refine ⟨passedPorts_step (not_mem_of_portIndices whole) done, ?_⟩
  intro seen member
  rw [seen_timeoutPort tick done whole] at member
  rcases List.mem_append.mp member with earlier | added
  · exact agree seen earlier
  · split at added
    · rename_i changes
      rw [List.mem_singleton.mp added]
      have decided := foreseen before next after whole changes
      rw [← links] at decided
      change ((before ++ [next]).any fun passed => gpmand.capableAt di passed) =
        (((before ++ [next]).any fun passed => gpmand.capableAt di passed) ||
          after.any fun ahead => ((gpmand.domains di).ports ahead).asCapable)
      change ((before ++ [next]).any fun passed => gpmand.capableAt di passed) = true ∨ _ at decided
      rcases decided with now | later
      · rw [now, Bool.true_or]
      · rw [later, Bool.or_false]
    · exact absurd added List.not_mem_nil

/-- The domains after some of them have been passed in `gptpnet_cb_timeout`. -/
structure PassedDomains (gpmand : Gptpman) (tick : Tick) (passed : List Nat) (state : Gptpman) :
    Prop where
  maxDomains : state.maxDomains = gpmand.maxDomains
  maxPorts : state.maxPorts = gpmand.maxPorts
  links : state.links = tick.links
  agree : ∀ di ∈ passed, (state.domains di).Agrees gpmand.maxPorts
  ahead : ∀ di, di ∉ passed → state.domains di = gpmand.domains di
  runs : (∀ di < gpmand.maxDomains, gpmand.Foreseen tick di) → gpmand.RunsAgree → state.RunsAgree

private theorem foreseen_congr (maxPorts : state.maxPorts = gpmand.maxPorts)
    (same : state.domains di = gpmand.domains di) :
    state.Foreseen tick di ↔ gpmand.Foreseen tick di := by
  unfold Foreseen
  rw [maxPorts, same]

theorem passedDomains_step (inRange : next < gpmand.maxDomains) (fresh : next ∉ passed)
    (done : gpmand.PassedDomains tick passed state) :
    gpmand.PassedDomains tick (passed ++ [next]) (state.timeoutDomain tick next) := by
  have whole : portIndices state.maxPorts = portIndices state.maxPorts ++ [] :=
    (List.append_nil _).symm
  have ports := passedPorts_prefix tick state next whole
  have disjunction := ports.anyCapable whole fun _ impossible =>
    absurd impossible List.not_mem_nil
  have agrees : (((portIndices state.maxPorts).foldl (timeoutPort tick next)
      (state.setDomain next { state.domains next with asCapableOrAll := false })).domains
        next).Agrees gpmand.maxPorts := by
    rw [Domain.Agrees, ← done.maxPorts, ports.flag, disjunction, List.any_nil, Bool.or_false]
  refine
    { maxDomains := ports.maxDomains.trans done.maxDomains
      maxPorts := ports.maxPorts.trans done.maxPorts
      links := ports.links.trans done.links, agree := ?_, ahead := ?_, runs := ?_ }
  · intro di member
    by_cases same : di = next
    · rw [same]
      exact agrees
    · have earlier : di ∈ passed :=
        (List.mem_append.mp member).resolve_right fun added => same (List.mem_singleton.mp added)
      have kept : (state.timeoutDomain tick next).domains di = state.domains di :=
        ports.others di same
      rw [kept]
      exact done.agree di earlier
  · intro di absent
    simp only [List.mem_append, List.mem_singleton, not_or] at absent
    exact (ports.others di absent.2).trans (done.ahead di absent.1)
  · intro foreseen before
    refine runsAgree_gmStableSm _ (runs_timeoutPorts tick state next done.links ?_
      (done.runs foreseen before)) ?_
    · exact (foreseen_congr done.maxPorts (done.ahead next fresh)).mpr (foreseen next inRange)
    · rw [ports.maxPorts.trans done.maxPorts]
      exact agrees

theorem passedDomains_prefix (tick : Tick) (gpmand : Gptpman)
    (whole : List.range gpmand.maxDomains = passed ++ after) : gpmand.PassedDomains tick passed
      (passed.foldl (timeoutDomain tick) { gpmand with links := tick.links }) := by
  refine foldl_invariant (gpmand.PassedDomains tick) ?_ ?_
  · exact
      { maxDomains := rfl, maxPorts := rfl, links := rfl
        agree := fun _ impossible => absurd impossible List.not_mem_nil
        ahead := fun _ _ => rfl, runs := fun _ before => before }
  · intro before next rest state split done
    have order : List.range gpmand.maxDomains = before ++ next :: (rest ++ after) := by
      rw [whole, split, List.append_assoc, List.cons_append]
    have listed : next ∈ List.range gpmand.maxDomains := by
      rw [order]
      exact List.mem_append_right _ (List.mem_cons_self ..)
    have distinct : (before ++ next :: (rest ++ after)).Nodup := by
      rw [← order]
      exact List.nodup_range
    refine passedDomains_step (List.mem_range.mp listed) (fun member => ?_) done
    exact (List.nodup_append.mp distinct).2.2 next member next (List.mem_cons_self ..) rfl

/-- What `gm_stable_sm` found at a port of a domain is still recorded after the tick. -/
theorem kept_to_end (inState : portIndices state.maxPorts = before ++ pi :: after)
    (order : List.range gpmand.maxDomains = earlier ++ di :: later)
    (same : earlier.foldl (timeoutDomain tick) { gpmand with links := tick.links } = state)
    (found : seen ∈ ((before.foldl (timeoutPort tick di) (state.setDomain di
      { state.domains di with asCapableOrAll := false })).timeoutPort tick di pi).gmStableRuns) :
    seen ∈ (gpmand.gptpnetCbTimeout tick).gmStableRuns := by
  unfold gptpnetCbTimeout
  rw [order, List.foldl_append, same, List.foldl_cons]
  refine foldl_invariant (fun (_ : List Nat) (state : Gptpman) => seen ∈ state.gmStableRuns) ?_
    fun _ next _ state _ kept => state.grows_timeoutDomain tick next kept
  unfold timeoutDomain
  rw [inState, List.foldl_append, List.foldl_cons]
  refine List.mem_append_left _ ?_
  exact foldl_invariant (fun (_ : List Nat) (state : Gptpman) => seen ∈ state.gmStableRuns) found
    fun _ next _ state _ kept => state.grows_timeoutPort tick di next kept

/-- After a tick every flag is right, and the runs of `gm_stable_sm` in it found it right
exactly when every change of the grandmaster was foreseen. -/
theorem agrees_timeout_iff (tick : Tick) (runs : gpmand.RunsAgree) :
    (gpmand.gptpnetCbTimeout tick).Agrees ↔ ∀ di < gpmand.maxDomains, gpmand.Foreseen tick di := by
  have done : gpmand.PassedDomains tick (List.range gpmand.maxDomains)
      (gpmand.gptpnetCbTimeout tick) :=
    passedDomains_prefix tick gpmand (List.append_nil _).symm
  constructor
  · intro agrees di inRange before pi after whole changes
    obtain ⟨earlier, later, order⟩ := List.append_of_mem (List.mem_range.mpr inRange)
    have reached := passedDomains_prefix tick gpmand order
    generalize same : earlier.foldl (timeoutDomain tick) { gpmand with links := tick.links } =
      state at reached
    have absent : di ∉ earlier := by
      have distinct : (earlier ++ di :: later).Nodup := order ▸ List.nodup_range
      exact fun member =>
        (List.nodup_append.mp distinct).2.2 di member di (List.mem_cons_self ..) rfl
    have inState : portIndices state.maxPorts = before ++ pi :: after := by
      rw [reached.maxPorts]
      exact whole
    have ports := passedPorts_prefix tick state di inState
    have found := seen_timeoutPort tick ports inState
    rw [changes, if_pos rfl] at found
    have decides : ∀ passed, state.capableAt di passed =
        capable di (tick.links passed) ((gpmand.domains di).ports passed) := by
      intro passed
      unfold capableAt
      rw [reached.links, reached.ahead di absent]
    -- the run that the changed grandmaster leads to is kept to the end of the tick
    have recorded := kept_to_end inState order same
      (found ▸ List.mem_append_right _ (List.mem_singleton_self _))
    have equal := agrees.runs _ recorded
    simp only [decides, reached.ahead di absent] at equal
    cases now : (before ++ [pi]).any fun passed =>
        capable di (tick.links passed) ((gpmand.domains di).ports passed) with
    | true => exact Or.inl rfl
    | false =>
      rw [now, Bool.false_or] at equal
      exact Or.inr equal.symm
  · intro foreseen
    refine ⟨fun di inRange => ?_, done.runs foreseen runs⟩
    rw [done.maxDomains] at inRange
    rw [done.maxPorts]
    exact done.agree di (List.mem_range.mpr inRange)

end Timeout

private theorem agrees_init (maxDomains maxPorts : Nat) : (init maxDomains maxPorts).Agrees where
  domains _ _ := by
    exact (List.any_eq_false.mpr fun _ _ => Bool.false_ne_true).symm
  runs _ impossible := absurd impossible List.not_mem_nil

section Steps

variable {gpmand : Gptpman} {pi : Nat}

theorem agrees_recvPdelayResp_iff (member : pi ∈ portIndices gpmand.maxPorts) (link : PortLink)
    (agrees : gpmand.Agrees) :
    (gpmand.recvPdelayResp pi link).Agrees ↔ gpmand.Permitted (.recvPdelayResp pi link) := by
  have each : ∀ di < gpmand.maxDomains,
      (((gpmand.setLink pi link).updateAsCapableForAll 0 pi).domains di).Agrees gpmand.maxPorts ↔
        if di = 0 then (gpmand.setLink pi link).RefreshedBy di pi
        else (gpmand.setLink pi link).KeptBy di pi := by
    intro di inRange
    by_cases first : di = 0
    · rw [if_pos first, first]
      exact agrees_refreshed_iff (gpmand.setLink pi link) member (first ▸ inRange)
    · rw [if_neg first]
      exact agrees_kept_iff (gpmand.setLink pi link) 0 member inRange first
        (agrees.domains di inRange)
  constructor
  · exact fun after di inRange => (each di inRange).mp (after.domains di inRange)
  · exact fun permitted => ⟨fun di inRange => (each di inRange).mpr (permitted di inRange),
      agrees.runs⟩

theorem agrees_recvOther (di pi : Nat) (link : PortLink) (neighborGptpCapable gmChange : Bool)
    (inRange : di < gpmand.maxDomains) (agrees : gpmand.Agrees) :
    (gpmand.recvOther di pi link neighborGptpCapable gmChange).Agrees := by
  let domain := (gpmand.domains di).setPort pi
    { (gpmand.domains di).ports pi with neighborGptpCapable := neighborGptpCapable }
  let changed := (gpmand.setLink pi link).setDomain di domain
  obtain ⟨sameDomains, samePorts, _, same⟩ := changed.kept_smBmcsPerform gmChange di
  obtain ⟨own, others⟩ := Domain.ports_setPort
    { (gpmand.domains di).ports pi with neighborGptpCapable := neighborGptpCapable }
    (gpmand.domains di)
  have sameAny : domain.anyCapable gpmand.maxPorts =
      (gpmand.domains di).anyCapable gpmand.maxPorts := by
    refine any_congr_mem fun other _ => ?_
    by_cases this : other = pi
    · rw [this, own]
    · rw [others other this]
  have right : ∀ index < gpmand.maxDomains, (changed.domains index).Agrees gpmand.maxPorts := by
    intro index small
    by_cases this : index = di
    · rw [this, show changed.domains di = domain from Function.update_self ..]
      exact (agrees.domains di inRange).trans sameAny.symm
    · rw [show changed.domains index = gpmand.domains index from Function.update_of_ne this ..]
      exact agrees.domains index small
  refine ⟨fun index small => ?_, changed.runsAgree_smBmcsPerform agrees.runs fun _ => right di inRange⟩
  change index < (changed.smBmcsPerform gmChange di).maxDomains at small
  rw [sameDomains] at small
  change ((changed.smBmcsPerform gmChange di).domains index).Agrees
    (changed.smBmcsPerform gmChange di).maxPorts
  rw [same, samePorts]
  exact right index small

theorem agrees_step_iff (agrees : gpmand.Agrees)
    (taken : (daemonSystem domainCount portCount).step gpmand event = some next) :
    next.Agrees ↔ gpmand.Permitted event := by
  simp only [daemonSystem] at taken
  split at taken
  · rename_i known
    cases event with
    | devup pi duplex speed gmChange =>
      cases taken
      have member := List.contains_iff_mem.mp known
      change (gpmand.gptpnetCbDevup pi duplex speed gmChange).Agrees ↔
        (duplex = .full ∧ 100 ≤ speed → ∀ di < gpmand.maxDomains, gpmand.RefreshedBy di pi)
      unfold gptpnetCbDevup
      by_cases fast : duplex = .full ∧ 100 ≤ speed
      · simp only [fast, and_self, true_implies]
        exact agrees_devup_iff member gmChange agrees.runs
      · rw [if_neg fast]
        exact ⟨fun _ impossible => absurd impossible fast, fun _ => agrees⟩
    | devdown pi =>
      cases taken
      have member := List.contains_iff_mem.mp known
      have each := fun di (inRange : di < gpmand.maxDomains) =>
        gpmand.agrees_devdown_iff member inRange (agrees.domains di inRange)
      constructor
      · exact fun after di inRange => (each di inRange).mp (after.domains di inRange)
      · exact fun permitted => ⟨fun di inRange => (each di inRange).mpr (permitted di inRange),
          agrees.runs⟩
    | recvPdelayResp pi link =>
      cases taken
      exact agrees_recvPdelayResp_iff (List.contains_iff_mem.mp known) link agrees
    | other di pi link neighborGptpCapable gmChange =>
      cases taken
      have inRange := of_decide_eq_true (Bool.and_eq_true_iff.mp known).1
      exact ⟨fun _ => trivial, fun _ =>
        agrees_recvOther di pi link neighborGptpCapable gmChange inRange agrees⟩
    | timeout tick =>
      cases taken
      exact agrees_timeout_iff tick agrees.runs
  · cases taken

end Steps

end Gptpman

namespace Gptpman

def measuredLink : PortLink where
  asCapableAcrossDomains := true
  reqIs2011 := true
  respIs2011 := true

def quietTick : Tick where
  links _ := measuredLink
  neighborGptpCapable _ _ := false
  gmChange _ _ := false

end Gptpman

section Machines

open EnetTsn.Bmcs EnetTsn.Gptp EnetTsn.Interval EnetTsn.Md EnetTsn.Pdelay EnetTsn.Sync

theorem machine_calls_end (cts64 : UInt64) :
    (∀ settings port data, ∃ next, mdPdelayReqSm settings port cts64 data = some next) ∧
    (∀ port data, ∃ next, mdSyncReceiveSm port cts64 data = some next) ∧
    (∀ port data, ∃ next, mdSyncSendSm port cts64 data = some next) ∧ (∀ port received data, ∃ next,
      portSyncSyncReceiveSmRecvMDSync port received cts64 data = some next) ∧
    (∀ port portSyncSync data, ∃ next,
      portSyncSyncSendSmPortSyncSync port portSyncSync cts64 data = some next) ∧
    (∀ inst data, ∃ next, clockSlaveSyncSm inst data = some next) ∧
    (∀ ptasg data, ∃ next, portAnnounceReceiveSm ptasg data = some next) ∧
    (∀ view port, ∃ next, portAnnounceInformationSm view cts64 port = some next) ∧
    (∀ domain, ∃ next, gmStableSm domain = some next) ∧
    (∀ cfg domain, ∃ next, clockMasterSyncReceiveSm cfg domain = some next) ∧
    (∀ (setting : IntervalSetting) ptasg port, ∃ next, setting.run ptasg port = some next) ∧
    (∀ (setting : RequestSetting SyncIntervalVariables) port data, ∃ next,
      setting.run port data = some next) ∧
    (∀ (setting : RequestSetting LinkDelayVariables) port data, ∃ next,
      setting.run port data = some next) ∧
    (∀ port data, ∃ next, CapableReceive.run port cts64 data = some next) ∧
    ∀ down result data, ∃ next, mdAnnounceSendSm down result data = some next := by
  refine ⟨?delay, ?receive, ?send, ?portReceive, ?portSend, ?slave, portAnnounceReceiveSm_total,
    fun view => portAnnounceInformationSm_total view cts64, gmStableSm_total,
    clockMasterSyncReceiveSm_total, IntervalSetting.run_total, RequestSetting.run_total,
    RequestSetting.run_total, fun port => CapableReceive.run_total port cts64,
    mdAnnounceSendSm_total⟩
  case delay =>
    intro settings port data
    obtain ⟨next, result, finished⟩ := mdPdelayReqSm_total settings port cts64 data
    exact ⟨(next, result), finished⟩
  case receive =>
    intro port data
    obtain ⟨next, result, finished⟩ := mdSyncReceiveSm_total port cts64 data
    exact ⟨(next, result), finished⟩
  case send =>
    intro port data
    obtain ⟨next, result, finished⟩ := mdSyncSendSm_total port cts64 data
    exact ⟨(next, result), finished⟩
  case portReceive =>
    intro port received data
    obtain ⟨next, result, finished⟩ :=
      portSyncSyncReceiveSmRecvMDSync_total port received cts64 data
    exact ⟨(next, result), finished⟩
  case portSend =>
    intro port portSyncSync data
    obtain ⟨next, result, finished⟩ :=
      portSyncSyncSendSmPortSyncSync_total port portSyncSync cts64 data
    exact ⟨(next, result), finished⟩
  case slave =>
    intro inst data
    obtain ⟨next, returned, finished⟩ := clockSlaveSyncSm_total inst data
    exact ⟨(next, returned), finished⟩

end Machines

end EnetTsn.Daemon
