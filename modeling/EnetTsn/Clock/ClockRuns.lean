import EnetTsn.Clock.Agreement

namespace EnetTsn.Clock

open EnetTsn.Gptp EnetTsn.Library

namespace DomainClock

theorem Agrees.wired (agrees : Agrees domain) : Wired domain := by
  obtain ⟨od0, odt, agreed⟩ := agrees
  intro mod found
  obtain rfl := Option.some.inj (agreed.master.symm.trans found)
  exact ⟨agreed.mode0, agreed.shared⟩

/-- What holds of a domain in a run: once it has a `thisClock` the parameters agree. -/
structure Grounded (domain : DomainClock) : Prop where
  wired : Wired domain
  agrees : domain.thisClockIndex ≠ 0 → Agrees domain

theorem Grounded.kept (grounded : Grounded before) (kept : Kept before after)
    (agrees : Agrees before → Agrees after) : Grounded after where
  wired := kept.wired grounded.wired
  agrees := by
    rw [kept.index]
    exact agrees ∘ grounded.agrees

end DomainClock

open DomainClock

def ClockEvent.Permitted (env : Environment) (data : GptpClockData) : ClockEvent → Prop
  | .setoffset64 _ _ _ => True
  | .setadj _ clock index => ∀ od ∈ (data.domains index).clds clock, od.mode = .slaveSub →
      (data.domains index).thisClockIndex = clock
  | .setThisClock clock index setClockPara =>
    Choosable (data.usedElsewhere index clock) clock setClockPara (data.domains index)
  | .setGmchange index gmIdentity become => become = true → index ≠ 0 →
      (data.domains index).gmClockId ≠ gmIdentity → Takable env (data.domains index) (data.domains 0)

instance (usedElsewhere : Bool) (clock : Nat) (setClockPara : Bool) (domain : DomainClock) :
    Decidable (Choosable usedElsewhere clock setClockPara domain) := by
  unfold Choosable
  infer_instance

instance (env : Environment) (domain first : DomainClock) : Decidable (Takable env domain first) := by
  unfold Takable
  infer_instance

instance (env : Environment) (data : GptpClockData) (event : ClockEvent) :
    Decidable (event.Permitted env data) :=
  match event with
  | .setoffset64 _ _ _ => isTrue trivial
  | .setadj _ _ _ => inferInstanceAs (Decidable (∀ od ∈ _, _))
  | .setThisClock _ _ _ => inferInstanceAs (Decidable (Choosable _ _ _ _))
  | .setGmchange _ _ _ => inferInstanceAs (Decidable (_ → _ → _ → Takable _ _ _))

private theorem grounded_added (clocks : Nat → Option (Nat × PtpclockState)) :
    Grounded (DomainClock.added clocks) where
  wired mod found := by
    obtain ⟨⟨ptpdev, state⟩, stored, rfl⟩ := Option.map_eq_some_iff.mp found
    refine ⟨rfl, ?_⟩
    simp [DomainClock.added, stored, OneClock.added]
  agrees chosen := absurd rfl chosen

theorem grounded_onDomain {data : GptpClockData} (change : DomainClock → DomainClock)
    (grounded : ∀ index, Grounded (data.domains index)) (changed : Nat)
    (here : Grounded (change (data.domains changed))) (index : Nat) :
    Grounded ((data.onDomain changed change).domains index) := by
  by_cases same : index = changed
  · subst same
    simpa [GptpClockData.onDomain] using here
  · simpa [GptpClockData.onDomain, same] using grounded index

theorem grounded_perform {event : ClockEvent} (grounded : ∀ index, Grounded (data.domains index))
    (permitted : event.Permitted env data) (index : Nat) :
    Grounded ((event.perform env data).domains index) := by
  cases event with
  | setoffset64 offset64 clock changed =>
    refine grounded_onDomain _ grounded changed ?_ index
    exact (grounded changed).kept (frame_kept.setoffset64 _ _ _ _) (agrees_setoffset64 _ _ _)
  | setadj adjvppb clock changed =>
    refine grounded_onDomain _ grounded changed ?_ index
    exact (grounded changed).kept (frame_kept.setadj _ _ _ _)
      fun agrees => agrees_setadj _ _ _ agrees permitted
  | setThisClock clock changed setClockPara =>
    refine grounded_onDomain _ grounded changed ?_ index
    rcases setThisClock_cases env (data.usedElsewhere changed clock) clock setClockPara
      (data.domains changed) (grounded changed).wired permitted with same | agrees
    · rw [same]
      exact grounded changed
    · exact ⟨agrees.wired, fun _ => agrees⟩
  | setGmchange changed gmIdentity become =>
    have here : Grounded ((data.domains changed).setGmchange env (data.domains 0) changed
        gmIdentity become) :=
      (grounded changed).kept (frame_kept.setGmchange _ _ _ _ _ _)
        fun agrees => agrees_setGmchange _ _ _ _ agrees permitted
    exact grounded_onDomain (·.setGmchange env (data.domains 0) changed gmIdentity become)
      grounded changed here index

section Reading

/-- The sum of a time and a correction in whole nanoseconds is a double, and so is the
time. -/
def ExactSum (time : Int64) (phase : ℚ) : Prop :=
  (phase.num : ℚ) = phase ∧ |time.toInt| < 2 ^ 53 ∧ |time.toInt + phase.num| < 2 ^ 53

instance (time : Int64) (phase : ℚ) : Decidable (ExactSum time phase) :=
  inferInstanceAs (Decidable (_ ∧ _))

theorem ofDouble_add (exact : ExactSum time phase) :
    ofDouble (Binary64.add (toDouble time) phase) = time + ofDouble phase := by
  obtain ⟨whole, small, sum⟩ := exact
  have double : toDouble time = time.toInt := Binary64.round_of_fits (Binary64.fits_intCast _ small)
  have added : Binary64.add time.toInt phase = ((time.toInt + phase.num : ℤ) : ℚ) := by
    have split : (time.toInt : ℚ) + phase = ((time.toInt + phase.num : ℤ) : ℚ) := by
      push_cast
      rw [whole]
    rw [Binary64.add, split]
    exact Binary64.round_of_fits (Binary64.fits_intCast _ sum)
  have truncated : Binary64.truncate phase = phase.num := by
    rw [← whole, Binary64.truncate_intCast, whole]
  unfold ofDouble
  rw [double, added, truncated, Binary64.truncate_intCast, Int64.ofInt_add, Int64.ofInt_toInt]

/-- Either no frequency is applied in software, or its correction is added without rounding. -/
def ClockParameters.ReadsExactly (pp : ClockParameters) (now : Int64) : Prop :=
  pp.adjrate = 0 ∨ ExactSum (now + pp.offset64) (ratePhase pp.adjrate (now - pp.lastSetts64))

theorem DomainClock.Agreed.ts64 (agreed : Agreed domain od0 odt)
    (exact : domain.shm.ReadsExactly now) :
    domain.shm.ts64 now = gettsOd now odt + od0.offset64 := by
  have order (phase : Int64) : now + (od0.offset64 + odt.offset64) + phase =
      now + odt.offset64 + phase + od0.offset64 := by grind
  by_cases unrated : domain.shm.adjrate = 0
  · have still : ¬ (odt.adjrate ≠ 0 ∧ odt.mode = .slaveSub) := by
      rintro ⟨rated, sub⟩
      exact rated ((agreed.sub sub).1.symm.trans unrated)
    have shared : domain.shm.ts64 now = now + domain.shm.offset64 := if_neg (not_not.mpr unrated)
    have own : gettsOd now odt = now + odt.offset64 + 0 := by
      simp only [gettsOd, if_neg still]
    rw [shared, agreed.offset, own, ← order 0]
    simp
  · have sub : odt.mode = .slaveSub := agreed.slaveSub fun main => unrated (agreed.main main).2
    obtain ⟨rate, lastSetts⟩ := agreed.sub sub
    have rated : odt.adjrate ≠ 0 := rate ▸ unrated
    have shared : domain.shm.ts64 now = ofDouble (Binary64.add (toDouble (now + domain.shm.offset64))
        (ratePhase domain.shm.adjrate (now - domain.shm.lastSetts64))) := if_pos unrated
    have own : gettsOd now odt =
        now + odt.offset64 + ofDouble (ratePhase odt.adjrate (now - odt.lastSetts64)) := by
      simp only [gettsOd, if_pos (And.intro rated sub)]
    rw [shared, ofDouble_add (exact.resolve_left unrated), agreed.offset, rate, lastSetts rated, own]
    exact order _

end Reading

/-- In a run of operations that re-base the shared parameters, and where the reader's sum is
exact, a reader and the daemon compute the same time for the master clock of a domain. The
reading of that clock alone is this time just when `thisClock` reads as its device. -/
theorem domainTs64_agrees {maxDomains : Nat} {clocks : Nat → Nat → Option (Nat × PtpclockState)}
    (reachable : (clockSystem maxDomains clocks).Reachable
      (fun data event => event.2.Permitted event.1 data) data)
    (bounded : index < data.maxDomains) (chosen : (data.domains index).thisClockIndex ≠ 0)
    (instant : Nat → Int64) (exact : ∀ ptpdev ∈ (data.domains index).shm.ptpdev,
      (data.domains index).shm.ReadsExactly (instant ptpdev)) :
    ∃ ts64 odt, domainTs64 data instant index = some ts64 ∧
      masterTs64 data instant index = some ts64 ∧ (data.domains index).thisClock = some odt ∧
      (getts64 data instant index 0 = some ts64 ↔
        gettsOd (instant odt.ptpdev) odt = instant odt.ptpdev) := by
  have grounded : ∀ index, Grounded (data.domains index) := by
    refine reachable.invariant (fun data => ∀ index, Grounded (data.domains index))
      (fun index => grounded_added (clocks index)) ?_
    rintro data event next grounded permitted taken
    cases taken
    exact grounded_perform grounded permitted
  obtain ⟨od0, odt, agreed⟩ := (grounded index).agrees chosen
  have same := agreed.ts64 (exact od0.ptpdev agreed.shared)
  refine ⟨gettsOd (instant odt.ptpdev) odt + od0.offset64, odt, ?_, ?_, agreed.this, ?_⟩
  · simp only [domainTs64, if_pos bounded, agreed.shared, Option.map_some, same, agreed.ptpdev]
  · simp only [masterTs64, getts64, agreed.this, agreed.master, Option.map_some, Option.bind_some]
  · have alone : gettsOd (instant od0.ptpdev) od0 = instant odt.ptpdev + od0.offset64 := by
      simp [gettsOd, agreed.mode0, agreed.ptpdev]
    simp only [getts64, agreed.master, Option.map_some, Option.some.injEq, alone]
    rw [Int64.add_left_inj]
    exact eq_comm

section Samples

def Environment.still (now : Int64) : Environment where
  gettime _ _ := now
  adjtime _ _ := true
  resetFreqadjBecomegm := false

def oneDevice (index clock : Nat) : Option (Nat × PtpclockState) :=
  if index < 2 ∧ clock < 2 then some (0, .rdwr) else none

def sharedDevice : System GptpClockData (Environment × ClockEvent) := clockSystem 2 oneDevice

/-- Both domains choose a `thisClock`, and that of domain 1 is given a frequency. -/
def ratedEvents : List (Environment × ClockEvent) :=
  [(.still 0, .setThisClock 1 0 false), (.still 0, .setThisClock 1 1 false),
    (.still 0, .setadj 1000 1 1)]

def ratedParameters : ClockParameters where
  ptpdev := some 0
  offset64 := 0
  lastSetts64 := 0
  adjrate := Binary64.div 1000 1000000000
  gmchangeInd := 1

end Samples

theorem domainTs64_agrees_rated : ∃ data, (data.domains 1).shm = ratedParameters ∧
    ∃ ts64 odt, domainTs64 data (fun _ => 1000000000) 1 = some ts64 ∧
      masterTs64 data (fun _ => 1000000000) 1 = some ts64 ∧ (data.domains 1).thisClock = some odt ∧
      (getts64 data (fun _ => 1000000000) 1 0 = some ts64 ↔
        gettsOd 1000000000 odt = 1000000000) := by
  let check (data : GptpClockData) (event : Environment × ClockEvent) : Bool :=
    decide (event.2.Permitted event.1 data)
  have ran : ((sharedDevice.restrict check).run sharedDevice.start ratedEvents).map (fun data =>
      (data.maxDomains, (data.domains 1).thisClockIndex, (data.domains 1).shm)) =
      some (2, 1, ratedParameters) := by decide +kernel
  obtain ⟨data, finished, shown⟩ := Option.map_eq_some_iff.mp ran
  obtain ⟨domains, rest⟩ := Prod.mk.inj shown
  obtain ⟨clock, shm⟩ := Prod.mk.inj rest
  have reachable := (System.reachable_of_run finished).of_restrict fun _ _ => of_decide_eq_true
  have bounded : 1 < data.maxDomains := by omega
  have chosen : (data.domains 1).thisClockIndex ≠ 0 := by omega
  have exact : ratedParameters.ReadsExactly 1000000000 := Or.inr (by decide +kernel)
  refine ⟨data, shm, domainTs64_agrees reachable bounded chosen _ fun _ _ => ?_⟩
  rw [shm]
  exact exact

/-- Two runs after which a reader and the daemon differ. This station becomes the grandmaster
of domain 1, which clears the shared frequency but not that of `thisClock`; or domain 1 is
set to a time that is no double. -/
theorem domainTs64_differs : (∃ data, sharedDevice.Reachable System.anyStep data ∧
      domainTs64 data (fun _ => 1000000000) 1 = some 1000000000 ∧
      masterTs64 data (fun _ => 1000000000) 1 = some 1000001000) ∧
    ∃ data, sharedDevice.Reachable System.anyStep data ∧
      domainTs64 data (fun _ => 1000000000) 1 = some 1700000001000001024 ∧
      masterTs64 data (fun _ => 1000000000) 1 = some 1700000001000001001 := by
  have becomes : (sharedDevice.run sharedDevice.start (ratedEvents ++
      [(.still 10, .setGmchange 1 (ClockIdentity.fill 1) true)])).map (fun data =>
        (domainTs64 data (fun _ => 1000000000) 1, masterTs64 data (fun _ => 1000000000) 1)) =
      some (some 1000000000, some 1000001000) := by decide +kernel
  have late : (sharedDevice.run sharedDevice.start (ratedEvents ++
      [(.still 10, .setoffset64 1700000000000000001 0 1)])).map (fun data =>
        (domainTs64 data (fun _ => 1000000000) 1, masterTs64 data (fun _ => 1000000000) 1)) =
      some (some 1700000001000001024, some 1700000001000001001) := by decide +kernel
  obtain ⟨taken, takenRun, takenTimes⟩ := Option.map_eq_some_iff.mp becomes
  obtain ⟨lateData, lateRun, lateTimes⟩ := Option.map_eq_some_iff.mp late
  exact ⟨⟨taken, System.reachable_of_run takenRun, Prod.mk.inj takenTimes⟩,
    lateData, System.reachable_of_run lateRun, Prod.mk.inj lateTimes⟩

end EnetTsn.Clock
