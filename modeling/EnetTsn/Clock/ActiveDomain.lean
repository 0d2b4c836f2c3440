import EnetTsn.Clock.Agreement

namespace EnetTsn.Clock

open EnetTsn.Gptp EnetTsn.Library

/-- The clocks with the head of the shared memory and what was requested of it; a domain is
found by an octet. -/
structure ActiveDomainData where
  clocks : GptpClockData
  gmsync : UInt8 → UInt8
  activeDomain : Int32
  activeDomainSwitch : Int32

namespace ActiveDomainData

/-- `GPTPCLOCK_FN_ENTRY` with the master clock of a domain. -/
def masterClock (data : ActiveDomainData) (domainIndex : UInt8) : Option OneClock :=
  (data.clocks.domains domainIndex.toNat).clds 0

def gmsyncSyncStable : UInt8 := 2

def switchActiveDomain (di : Int32) (data : ActiveDomainData) : ActiveDomainData :=
  { data with activeDomain := di }

def firstStable (data : ActiveDomainData) : List Nat → Option Nat
  | [] => none
  | i :: rest =>
    match data.masterClock (UInt8.ofNat i) with
    | none => none
    | some _ =>
      if data.gmsync (UInt8.ofNat i) = gmsyncSyncStable then some i else data.firstStable rest

/-- `gptpclock_update_active_domain`; `ACTIVE_DOMAIN_AUTO_SWITCH` is 0 for no choice and 1 to
stay with a stable domain. -/
def updateActiveDomain (autoSwitch : Int32) (data : ActiveDomainData) : ActiveDomainData :=
  if 0 ≤ data.activeDomainSwitch then data.switchActiveDomain data.activeDomainSwitch
  else if autoSwitch = 0 then data
  else
    match data.masterClock data.activeDomain.toInt8.toUInt8 with
    | none => data
    | some _ =>
      if data.gmsync data.activeDomain.toInt8.toUInt8 = gmsyncSyncStable ∧ autoSwitch = 1 then data
      else
        match data.firstStable (List.range data.clocks.maxDomains) with
        | none => data
        | some i => data.switchActiveDomain (Int32.ofNat i)

/-- `gptpclock_active_domain_switch`: a request is kept whatever it is, and followed at once when
it is in range. -/
def requestSwitch (domainIndex : Int32) (data : ActiveDomainData) : ActiveDomainData :=
  let requested := { data with activeDomainSwitch := domainIndex }
  if domainIndex < 0 ∨ (data.clocks.maxDomains : ℤ) ≤ domainIndex.toInt then requested
  else requested.switchActiveDomain requested.activeDomainSwitch

/-- `gptpclock_set_gmsync`. -/
def setGmsync (domainIndex : UInt8) (gmstate : UInt32) (autoSwitch : Int32)
    (data : ActiveDomainData) : ActiveDomainData :=
  match data.masterClock domainIndex with
  | none => data
  | some _ =>
    if (data.gmsync domainIndex).toUInt32 = gmstate then data
    else
      let noted := { data with
        gmsync := Function.update data.gmsync domainIndex gmstate.toUInt8 }
      noted.updateActiveDomain autoSwitch

/-- `gptpclock_set_gmchange`. -/
def setGmchange (env : Environment) (domainIndex : UInt8) (gmIdentity : ClockIdentity)
    (become : Bool) (data : ActiveDomainData) : ActiveDomainData :=
  { data with clocks :=
      ClockEvent.perform env data.clocks (.setGmchange domainIndex.toNat gmIdentity become) }

end ActiveDomainData

inductive ActiveDomainEvent where
  | requestSwitch (domainIndex : Int32)
  | setGmsync (domainIndex : UInt8) (gmstate : UInt32) (autoSwitch : Int32)
  | setGmchange (env : Environment) (domainIndex : UInt8) (gmIdentity : ClockIdentity)
      (become : Bool)

def ActiveDomainEvent.perform (data : ActiveDomainData) : ActiveDomainEvent → ActiveDomainData
  | .requestSwitch domainIndex => data.requestSwitch domainIndex
  | .setGmsync domainIndex gmstate autoSwitch => data.setGmsync domainIndex gmstate autoSwitch
  | .setGmchange env domainIndex gmIdentity become =>
    data.setGmchange env domainIndex gmIdentity become

/-- `gptpclock_init`, after the clocks have been added. -/
def activeDomainSystem (clocks : GptpClockData) : System ActiveDomainData ActiveDomainEvent where
  start := { clocks := clocks, gmsync := fun _ => 0, activeDomain := 0, activeDomainSwitch := -1 }
  step data event := some (event.perform data)

namespace ActiveDomainData

structure Valid (data : ActiveDomainData) (domainIndex : Int32) : Prop where
  lower : 0 ≤ domainIndex.toInt
  upper : domainIndex.toInt < data.clocks.maxDomains
  added : ∃ octet : UInt8, domainIndex.toInt = octet.toNat ∧ (data.masterClock octet).isSome = true

/-- What is switched to by an event is valid: a request in the range, and a pending request when
the state of a grandmaster changes. -/
def Follows (data : ActiveDomainData) : ActiveDomainEvent → Prop
  | .requestSwitch domainIndex => 0 ≤ domainIndex.toInt →
      domainIndex.toInt < data.clocks.maxDomains → data.Valid domainIndex
  | .setGmsync domainIndex gmstate _ => (data.masterClock domainIndex).isSome = true →
      (data.gmsync domainIndex).toUInt32 ≠ gmstate → 0 ≤ data.activeDomainSwitch.toInt →
      data.Valid data.activeDomainSwitch
  | .setGmchange _ _ _ _ => True

section Choice

variable {data next : ActiveDomainData}

theorem firstStable_range' (found : data.firstStable (List.range' start count) = some i) :
    start ≤ i ∧ i < start + count ∧ (data.masterClock (UInt8.ofNat i)).isSome = true ∧
      data.gmsync (UInt8.ofNat i) = gmsyncSyncStable ∧
      ∀ j, start ≤ j → j < i → data.gmsync (UInt8.ofNat j) ≠ gmsyncSyncStable := by
  induction count generalizing start with
  | zero => cases found
  | succ count ih =>
    rw [List.range'_succ, firstStable] at found
    split at found
    · cases found
    · rename_i od clock
      split at found
      · rename_i stable
        cases found
        exact ⟨Nat.le_refl _, by omega, by rw [clock]; rfl, stable, fun j from_ below => by omega⟩
      · rename_i unstable
        obtain ⟨lower, upper, added, stable, first⟩ := ih found
        refine ⟨by omega, by omega, added, stable, fun j from_ below => ?_⟩
        by_cases same : j = start
        · exact same ▸ unstable
        · exact first j (by omega) below

private theorem valid_firstStable (found : data.firstStable (List.range data.clocks.maxDomains) = some i) :
    data.Valid (Int32.ofNat i) := by
  rw [List.range_eq_range'] at found
  obtain ⟨_, upper, added, stable, first⟩ := firstStable_range' found
  have octet : i < 256 := by
    by_contra large
    refine first (i - 256) (Nat.zero_le _) (by omega) ?_
    have same : UInt8.ofNat (i - 256) = UInt8.ofNat i := by
      apply UInt8.toNat_inj.mp
      rw [UInt8.toNat_ofNat', UInt8.toNat_ofNat']
      omega
    rw [same]
    exact stable
  have index : (Int32.ofNat i).toInt = i := Int32.toInt_ofNat_of_lt (by omega)
  refine ⟨by omega, by omega, UInt8.ofNat i, ?_, added⟩
  rw [index, UInt8.toNat_ofNat', Nat.mod_eq_of_lt octet]

theorem valid_congr (clocks : next.clocks = data.clocks) (domainIndex : Int32) :
    next.Valid domainIndex ↔ data.Valid domainIndex := by
  have clock (octet : UInt8) : next.masterClock octet = data.masterClock octet := by
    rw [masterClock, clocks, masterClock]
  constructor
  · rintro ⟨lower, upper, octet, same, added⟩
    exact ⟨lower, clocks ▸ upper, octet, same, clock octet ▸ added⟩
  · rintro ⟨lower, upper, octet, same, added⟩
    exact ⟨lower, clocks ▸ upper, octet, same, (clock octet).symm ▸ added⟩

theorem valid_switchActiveDomain (di domainIndex : Int32) :
    (data.switchActiveDomain di).Valid domainIndex ↔ data.Valid domainIndex :=
  valid_congr (show (data.switchActiveDomain di).clocks = data.clocks from rfl) domainIndex

theorem valid_requested (data : ActiveDomainData) (request domainIndex : Int32) :
    ({ data with activeDomainSwitch := request } : ActiveDomainData).Valid domainIndex ↔
      data.Valid domainIndex := by
  generalize requested : ({ data with activeDomainSwitch := request } : ActiveDomainData) = next
  exact valid_congr (by rw [← requested]) domainIndex

end Choice

def SameClocks (before after : DomainClock) : Prop :=
  ∀ clock, (after.clds clock).isSome = (before.clds clock).isSome

private theorem frame_sameClocks : DomainClock.Frame SameClocks where
  refl _ _ := rfl
  trans first second clock := (second clock).trans (first clock)
  parameters clds _ _ clock := congrArg Option.isSome (congrFun clds clock)
  update _ clock domain index := by
    by_cases same : index = clock
    · subst same
      rw [DomainClock.update_clds_self, Option.isSome_map]
    · rw [DomainClock.update_clds_other _ _ _ same]

private theorem isSome_masterClock_setGmchange (env : Environment) (domainIndex : UInt8)
    (gmIdentity : ClockIdentity) (become : Bool) (data : ActiveDomainData) (octet : UInt8) :
    ((data.setGmchange env domainIndex gmIdentity become).masterClock octet).isSome =
      (data.masterClock octet).isSome := by
  simp only [masterClock, setGmchange, ClockEvent.perform, GptpClockData.onDomain]
  by_cases same : octet.toNat = domainIndex.toNat
  · rw [same, Function.update_self]
    exact frame_sameClocks.setGmchange _ _ _ _ _ _ 0
  · rw [Function.update_of_ne same]

private theorem valid_setGmchange (env : Environment) (octet : UInt8) (gmIdentity : ClockIdentity)
    (become : Bool) (data : ActiveDomainData) (domainIndex : Int32) :
    (data.setGmchange env octet gmIdentity become).Valid domainIndex ↔ data.Valid domainIndex := by
  have clock := isSome_masterClock_setGmchange env octet gmIdentity become data
  constructor
  · rintro ⟨lower, upper, index, same, added⟩
    exact ⟨lower, upper, index, same, clock index ▸ added⟩
  · rintro ⟨lower, upper, index, same, added⟩
    exact ⟨lower, upper, index, same, (clock index).symm ▸ added⟩

section Steps

variable {data : ActiveDomainData}

variable (sound : data.Valid data.activeDomain)
include sound

private theorem valid_updateActiveDomain (autoSwitch : Int32) (automatic : ¬ 0 ≤ data.activeDomainSwitch) :
    (data.updateActiveDomain autoSwitch).Valid (data.updateActiveDomain autoSwitch).activeDomain := by
  unfold updateActiveDomain
  rw [if_neg automatic]
  split
  · exact sound
  · split
    · exact sound
    · split
      · exact sound
      · split
        · exact sound
        · rename_i i found
          exact (valid_switchActiveDomain _ _).mpr (valid_firstStable found)

theorem sound_requestSwitch (domainIndex : Int32) :
    (data.requestSwitch domainIndex).Valid (data.requestSwitch domainIndex).activeDomain ↔
      data.Follows (.requestSwitch domainIndex) := by
  unfold requestSwitch Follows
  split
  · rename_i outside
    refine iff_of_true ((valid_requested data _ _).mpr sound) fun lower upper => ?_
    rcases outside with negative | beyond
    · exact absurd (Int32.lt_iff_toInt_lt.mp negative) (Int.not_lt.mpr lower)
    · exact absurd beyond (Int.not_le.mpr upper)
  · rename_i inside
    obtain ⟨positive, below⟩ := not_or.mp inside
    have lower : 0 ≤ domainIndex.toInt := Int32.le_iff_toInt_le.mp (Int32.not_lt.mp positive)
    have same := (valid_switchActiveDomain domainIndex domainIndex).trans
      (valid_requested data domainIndex domainIndex)
    exact same.trans ⟨fun valid _ _ => valid, fun follows => follows lower (Int.not_le.mp below)⟩

theorem sound_setGmsync (domainIndex : UInt8) (gmstate : UInt32) (autoSwitch : Int32) :
    (data.setGmsync domainIndex gmstate autoSwitch).Valid
        (data.setGmsync domainIndex gmstate autoSwitch).activeDomain ↔
      data.Follows (.setGmsync domainIndex gmstate autoSwitch) := by
  unfold setGmsync
  simp only [Follows]
  cases clock : data.masterClock domainIndex with
  | none => exact iff_of_true sound fun added => nomatch added
  | some od =>
    by_cases unchanged : (data.gmsync domainIndex).toUInt32 = gmstate
    · simp only [if_pos unchanged]
      exact iff_of_true sound fun _ changed => absurd unchanged changed
    · simp only [if_neg unchanged]
      generalize noting : { data with
        gmsync := Function.update data.gmsync domainIndex gmstate.toUInt8 } = noted
      have same : noted.clocks = data.clocks := by rw [← noting]
      have active : noted.activeDomain = data.activeDomain := by rw [← noting]
      have request : noted.activeDomainSwitch = data.activeDomainSwitch := by rw [← noting]
      by_cases pending : 0 ≤ noted.activeDomainSwitch
      · have positive : (0 : Int32).toInt ≤ data.activeDomainSwitch.toInt :=
          Int32.le_iff_toInt_le.mp (request ▸ pending)
        have switched : noted.updateActiveDomain autoSwitch =
          noted.switchActiveDomain noted.activeDomainSwitch := if_pos pending
        rw [switched, request]
        refine (valid_switchActiveDomain _ _).trans ((valid_congr same _).trans ?_)
        exact ⟨fun valid _ _ _ => valid, fun follows => follows rfl unchanged positive⟩
      · have before : noted.Valid noted.activeDomain := by
          rw [active]
          exact (valid_congr same _).mpr sound
        refine iff_of_true (valid_updateActiveDomain before autoSwitch pending) ?_
        intro _ _ positive
        have least : (0 : Int32).toInt ≤ data.activeDomainSwitch.toInt := positive
        exact absurd (Int32.le_iff_toInt_le.mpr least) (request ▸ pending)

private theorem sound_perform (event : ActiveDomainEvent) :
    (event.perform data).Valid (event.perform data).activeDomain ↔ data.Follows event := by
  cases event with
  | requestSwitch domainIndex => exact sound_requestSwitch sound domainIndex
  | setGmsync domainIndex gmstate autoSwitch =>
    exact sound_setGmsync sound domainIndex gmstate autoSwitch
  | setGmchange env octet gmIdentity become =>
    exact iff_of_true ((valid_setGmchange env octet gmIdentity become data _).mpr sound) trivial

end Steps

end ActiveDomainData

/-- The active domain is valid in all states of a run exactly when domain 0 is and all requests
that the run follows are. -/
theorem activeDomain_valid_iff {clocks : GptpClockData} {pair : ActiveDomainData × List ActiveDomainData}
    (reachable : (activeDomainSystem clocks).visiting.Reachable System.anyStep pair) :
    (∀ data ∈ pair.2, data.Valid data.activeDomain) ↔ (activeDomainSystem clocks).start.Valid 0 ∧
        (activeDomainSystem clocks).visiting.Reachable
          (fun pair event => pair.1.Follows event) pair := by
  refine System.visiting_iff (fun data => data.Valid data.activeDomain) ?_ reachable
  intro data event next sound performed
  cases performed
  exact ActiveDomainData.sound_perform sound event

def twoDomains : GptpClockData where
  maxDomains := 2
  domains index := DomainClock.added fun clock =>
    if index < 2 ∧ clock = 0 then some (0, .rdwr) else none

theorem valid_twoDomains : (activeDomainSystem twoDomains).start.Valid 0 :=
  ⟨by decide, by decide, 0, by decide, by decide⟩

theorem activeDomain_valid_iff_requested : ∃ pair : ActiveDomainData × List ActiveDomainData,
    pair.2.map ActiveDomainData.activeDomain = [0, 1, 0] ∧
      ∀ data ∈ pair.2, data.Valid data.activeDomain := by
  let system := activeDomainSystem twoDomains
  have first : system.start.Follows (.requestSwitch 1) :=
    fun _ _ => ⟨by decide, by decide, 1, by decide, by decide⟩
  have second : (system.start.requestSwitch 1).Follows (.requestSwitch 0) :=
    fun _ _ => ⟨by decide, by decide, 0, by decide, by decide⟩
  have followed : system.visiting.Reachable (fun pair event => pair.1.Follows event) _ :=
    .step (.step .start first rfl) second rfl
  exact ⟨_, by decide, (activeDomain_valid_iff (followed.mono fun _ _ _ => trivial)).mpr
    ⟨valid_twoDomains, followed⟩⟩

/-- A request beyond the range is followed when the state of a grandmaster changes. -/
theorem activeDomain_not_valid : ¬ ∀ (clocks : GptpClockData) (data : ActiveDomainData),
      (activeDomainSystem clocks).start.Valid 0 →
      (activeDomainSystem clocks).Reachable System.anyStep data → data.Valid data.activeDomain := by
  intro all
  let system := activeDomainSystem twoDomains
  have ran : (system.run system.start [.requestSwitch 2, .setGmsync 0 1 0]).map (fun data =>
      (data.activeDomain, data.clocks.maxDomains)) = some (2, 2) := by decide +kernel
  obtain ⟨data, finished, shown⟩ := Option.map_eq_some_iff.mp ran
  obtain ⟨active, domains⟩ := Prod.mk.inj shown
  have upper := (all _ data valid_twoDomains (System.reachable_of_run finished)).upper
  rw [active, domains] at upper
  exact absurd upper (by decide)

end EnetTsn.Clock
