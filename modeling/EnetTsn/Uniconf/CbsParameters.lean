import EnetTsn.Library.Binary64

/-!
The credits of a traffic class (`get_tc_cbs_parameters`), which are set up from the top class
down. Arithmetic without a defined result ends a call with nothing.
-/

namespace EnetTsn.Uniconf

open EnetTsn.Library

structure CbsTables where
  numTc : UInt8
  speed : UInt64
  maxFrameSize : Nat → UInt32
  maxInterferenceSize : Nat → UInt32

/-- The fields of `cbl_cbs_params_t` that are computed. -/
structure CbsParams where
  idleslope : Int
  sendslope : Int
  hicredit : Int
  locredit : Int

structure CbsCall where
  res : Int
  cbsp : CbsParams
  tables : CbsTables

structure CbsInputs where
  speed : Nat
  maxfsize : Nat
  maxifsize : Nat
  idleslope : Int
  sendslope : Int

namespace CbsInputs

variable (cbs : CbsInputs)

def low : Int := cbs.maxfsize * cbs.sendslope

def high : Int := cbs.maxifsize * cbs.idleslope

def locredit : Int := Binary64.truncate (cbs.low / cbs.speed)

def hicredit : Int := Binary64.truncate (cbs.high / cbs.speed)

def range : Int := cbs.hicredit - cbs.locredit

def interference (product : Int) : ℚ := cbs.maxifsize - product / cbs.sendslope

/-- The values of type `int64_t`. -/
def Fits64 (value : Int) : Prop := -2 ^ 63 ≤ value ∧ value < 2 ^ 63

instance decidableFits64 (value : Int) : Decidable (Fits64 value) :=
  inferInstanceAs (Decidable (_ ∧ _))

/-- The credits, and `lc_maxifsize` if it fits. -/
def credits : Option (Int × Int × Nat) :=
  let size := ⌈cbs.interference (cbs.speed * cbs.range % 2 ^ 64)⌉
  if Fits64 cbs.low ∧ Fits64 cbs.high ∧ Fits64 cbs.range ∧ cbs.sendslope ≠ 0 ∧ 0 ≤ size ∧
      size < 2 ^ 32 then
    some (cbs.hicredit, cbs.locredit, size.toNat)
  else none

structure Moderate : Prop where
  sendslope : cbs.sendslope < 0
  idleslope : -cbs.speed < cbs.high
  low : Fits64 cbs.low
  high : Fits64 cbs.high
  range : Fits64 cbs.range
  product : cbs.speed * cbs.range < 2 ^ 64
  size : cbs.interference (cbs.speed * cbs.range) ≤ 2 ^ 32 - 1

end CbsInputs

namespace CbsTables

def setInterference (tables : CbsTables) (tc : Nat) (size : UInt32) : CbsTables :=
  { tables with maxInterferenceSize := Function.update tables.maxInterferenceSize tc size }

/-- The top class is disturbed by its own frames, the others by what their upper class stored. -/
def entered (tables : CbsTables) (overhead : UInt32) (tc : Nat) : CbsTables :=
  if tc + 1 = tables.numTc.toNat then
    tables.setInterference tc (tables.maxFrameSize tc + overhead)
  else tables

/-- `cbsp->idleslope - speed` is computed without a sign. -/
def inputs (tables : CbsTables) (overhead : UInt32) (tc : Nat) (adminIdleslope : UInt64) :
    CbsInputs where
  speed := tables.speed.toNat
  maxfsize := (tables.maxFrameSize tc + overhead).toNat
  maxifsize := ((tables.entered overhead tc).maxInterferenceSize tc).toNat
  idleslope := adminIdleslope.toInt64.toInt
  sendslope := (adminIdleslope - tables.speed).toInt64.toInt

/-- `get_tc_cbs_parameters` with `CBL_L2_OVERHEAD`. -/
def getTcCbsParameters (tables : CbsTables) (overhead : UInt32) (tc : Nat)
    (adminIdleslope : UInt64) : Option CbsCall :=
  if tables.numTc.toNat ≤ tc then some ⟨-1, ⟨0, 0, 0, 0⟩, tables⟩
  else if tc = 0 then some ⟨0, ⟨0, 0, 0, 0⟩, tables⟩
  else if tables.speed = 0 then some ⟨-1, ⟨0, 0, 0, 0⟩, tables⟩
  else
    let cbs := tables.inputs overhead tc adminIdleslope
    cbs.credits.map fun (hicredit, locredit, size) =>
      ⟨0, ⟨cbs.idleslope, cbs.sendslope, hicredit, locredit⟩,
        (tables.entered overhead tc).setInterference (tc - 1) (UInt32.ofNat size)⟩

end CbsTables

structure CbsCall.Sound (call : CbsCall) (tc : Nat) : Prop where
  sendslope : call.cbsp.sendslope < 0
  locredit : call.cbsp.locredit ≤ 0
  hicredit : 0 ≤ call.cbsp.hicredit
  interference : ((call.tables.maxInterferenceSize (tc - 1)).toNat : Int) =
    ⌈((call.tables.maxInterferenceSize tc).toNat - call.tables.speed.toNat *
      (call.cbsp.hicredit - call.cbsp.locredit : Int) / call.cbsp.sendslope : ℚ)⌉
  least : call.tables.maxInterferenceSize tc ≤ call.tables.maxInterferenceSize (tc - 1)

private theorem truncate_nonneg_iff (value : ℚ) : 0 ≤ Binary64.truncate value ↔ -1 < value := by
  unfold Binary64.truncate
  split
  case isTrue nonneg => simp [Int.floor_nonneg.mpr nonneg, lt_of_lt_of_le neg_one_lt_zero nonneg]
  case isFalse =>
    have above := Int.lt_ceil (z := -1) (a := value)
    rw [Int.cast_neg, Int.cast_one] at above
    rw [← above]
    omega

private theorem truncate_nonpos {value : ℚ} (nonpos : value ≤ 0) : Binary64.truncate value ≤ 0 := by
  unfold Binary64.truncate
  split
  · exact Int.floor_nonpos nonpos
  · exact Int.ceil_le.mpr (by simpa using nonpos)

theorem product_fits {size product sendslope : Int} (negative : sendslope < 0)
    (least : -2 ^ 63 ≤ sendslope) (same : ⌈(size - (product % 2 ^ 64 : Int) / sendslope : ℚ)⌉ =
      ⌈(size - product / sendslope : ℚ)⌉) : product < 2 ^ 64 := by
  by_contra large
  have shift : product % 2 ^ 64 - sendslope ≤ product := by omega
  have slope : (sendslope : ℚ) < 0 := by exact_mod_cast negative
  have below : (size - (product % 2 ^ 64 : Int) / sendslope : ℚ) + 1 ≤
      size - product / sendslope := by
    have cast : ((product % 2 ^ 64 : Int) : ℚ) - sendslope ≤ product := by exact_mod_cast shift
    have divided := (div_le_div_right_of_neg slope).mpr cast
    rw [sub_div, div_self slope.ne] at divided
    linarith
  have ceiling := Int.ceil_mono below
  rw [Int.ceil_add_one, same] at ceiling
  omega

structure CbsInputs.Right (cbs : CbsInputs) (hicredit locredit : Int) (size : Nat) : Prop where
  sendslope : cbs.sendslope < 0
  below : locredit ≤ 0
  above : 0 ≤ hicredit
  interference : (size : Int) = ⌈cbs.interference (cbs.speed * (hicredit - locredit))⌉
  least : cbs.maxifsize ≤ size

namespace CbsInputs

variable {cbs : CbsInputs}

theorem high_iff (speed : 0 < cbs.speed) : 0 ≤ cbs.hicredit ↔ -cbs.speed < cbs.high := by
  have positive : (0 : ℚ) < cbs.speed := by exact_mod_cast speed
  rw [hicredit, truncate_nonneg_iff, lt_div_iff₀ positive, neg_one_mul]
  exact_mod_cast Iff.rfl

private theorem locredit_nonpos (negative : cbs.sendslope < 0) : cbs.locredit ≤ 0 := by
  refine truncate_nonpos (div_nonpos_of_nonpos_of_nonneg ?_ (Nat.cast_nonneg _))
  exact_mod_cast mul_nonpos_of_nonneg_of_nonpos (Int.natCast_nonneg _) negative.le

private theorem maxifsize_le (negative : cbs.sendslope < 0) {product : Int} (nonneg : 0 ≤ product) :
    (cbs.maxifsize : Int) ≤ ⌈cbs.interference product⌉ := by
  have slope : (cbs.sendslope : ℚ) ≤ 0 := by exact_mod_cast negative.le
  have quotient : (product / cbs.sendslope : ℚ) ≤ 0 :=
    div_nonpos_of_nonneg_of_nonpos (by exact_mod_cast nonneg) slope
  have least : ((cbs.maxifsize : Int) : ℚ) ≤ cbs.interference product := by
    rw [interference, Int.cast_natCast]
    linarith
  exact_mod_cast least.trans (Int.le_ceil _)

theorem credits_eq_some {result : Int × Int × Nat} : cbs.credits = some result ↔
    (Fits64 cbs.low ∧ Fits64 cbs.high ∧ Fits64 cbs.range ∧ cbs.sendslope ≠ 0 ∧
      0 ≤ ⌈cbs.interference (cbs.speed * cbs.range % 2 ^ 64)⌉ ∧
      ⌈cbs.interference (cbs.speed * cbs.range % 2 ^ 64)⌉ < 2 ^ 32) ∧
      (cbs.hicredit, cbs.locredit, ⌈cbs.interference (cbs.speed * cbs.range % 2 ^ 64)⌉.toNat) =
        result := by
  simp [credits]

theorem right_iff (speed : 0 < cbs.speed) (least : -2 ^ 63 ≤ cbs.sendslope) :
    (∃ hicredit locredit size, cbs.credits = some (hicredit, locredit, size) ∧
      cbs.Right hicredit locredit size) ↔ cbs.Moderate := by
  constructor
  · rintro ⟨_, _, _, computed, right⟩
    obtain ⟨⟨low, high, range, _, zero, fits⟩, same⟩ := credits_eq_some.mp computed
    cases same
    have exact := right.interference
    rw [Int.toNat_of_nonneg zero] at exact
    refine ⟨right.sendslope, (high_iff speed).mp right.above, low, high, range,
      product_fits right.sendslope least exact, ?_⟩
    rw [exact] at fits
    have bound := Int.ceil_le.mp (Int.le_sub_one_of_lt fits)
    exact_mod_cast bound
  · intro moderate
    have nonpos := locredit_nonpos moderate.sendslope
    have nonneg := (high_iff speed).mpr moderate.idleslope
    have product : 0 ≤ cbs.speed * cbs.range :=
      mul_nonneg (Int.natCast_nonneg _) (sub_nonneg.mpr (nonpos.trans nonneg))
    have whole := Int.emod_eq_of_lt product moderate.product
    have size := maxifsize_le moderate.sendslope product
    have zero := (Int.natCast_nonneg cbs.maxifsize).trans size
    have below : ⌈cbs.interference (cbs.speed * cbs.range)⌉ ≤ 2 ^ 32 - 1 :=
      Int.ceil_le.mpr (by exact_mod_cast moderate.size)
    refine ⟨_, _, _, credits_eq_some.mpr ⟨⟨moderate.low, moderate.high, moderate.range,
      moderate.sendslope.ne, ?_⟩, rfl⟩, moderate.sendslope, nonpos, nonneg, ?_, ?_⟩
    · rw [whole]
      omega
    · rw [whole, Int.toNat_of_nonneg zero]
      rfl
    · rw [whole]
      omega

end CbsInputs

def CbsTables.Yields (tables : CbsTables) (overhead : UInt32) (tc : Nat) (adminIdleslope : UInt64) :
    Prop :=
  ∃ call, tables.getTcCbsParameters overhead tc adminIdleslope = some call ∧
    (call.res = -1 ∨ call.Sound tc)

variable {tables : CbsTables} {overhead : UInt32} {tc : Nat} {adminIdleslope : UInt64}

theorem entered_speed (tables : CbsTables) (overhead : UInt32) (tc : Nat) :
    (tables.entered overhead tc).speed = tables.speed := by
  unfold CbsTables.entered
  split <;> rfl

private theorem entered_numTc (tables : CbsTables) (overhead : UInt32) (tc : Nat) :
    (tables.entered overhead tc).numTc = tables.numTc := by
  unfold CbsTables.entered
  split <;> rfl

theorem sound_iff (first : 0 < tc) (fits : size < 2 ^ 32) (hicredit locredit : Int) :
    CbsCall.Sound ⟨0, ⟨(tables.inputs overhead tc adminIdleslope).idleslope,
        (tables.inputs overhead tc adminIdleslope).sendslope, hicredit, locredit⟩,
        (tables.entered overhead tc).setInterference (tc - 1) (UInt32.ofNat size)⟩ tc ↔
      (tables.inputs overhead tc adminIdleslope).Right hicredit locredit size := by
  have other : tc ≠ tc - 1 := by omega
  have number : (UInt32.ofNat size).toNat = size := UInt32.toNat_ofNat_of_lt' fits
  have product (speed : Nat) : ((speed * (hicredit - locredit) : Int) : ℚ) =
      speed * ((hicredit - locredit : Int) : ℚ) := by push_cast; rfl
  constructor
  · rintro ⟨sendslope, below, above, interference, least⟩
    simp only [CbsTables.setInterference, Function.update_self, Function.update_of_ne other, number,
      entered_speed, UInt32.le_iff_toNat_le] at interference least
    refine ⟨sendslope, below, above, ?_, least⟩
    rw [CbsInputs.interference, product]
    exact interference
  · rintro ⟨sendslope, below, above, interference, least⟩
    refine ⟨sendslope, below, above, ?_, ?_⟩
    · simp only [CbsTables.setInterference, Function.update_self, Function.update_of_ne other,
        number, entered_speed]
      rw [CbsInputs.interference, product] at interference
      exact interference
    · simp only [CbsTables.setInterference, Function.update_self, Function.update_of_ne other,
        number, UInt32.le_iff_toNat_le]
      exact least

theorem yields_iff (first : 0 < tc) (inside : tc < tables.numTc.toNat) :
    tables.Yields overhead tc adminIdleslope ↔
      tables.speed = 0 ∨ (tables.inputs overhead tc adminIdleslope).Moderate := by
  unfold CbsTables.Yields CbsTables.getTcCbsParameters
  rw [if_neg (by omega), if_neg (by omega)]
  by_cases speed : tables.speed = 0
  · simp [speed]
  have positive : 0 < tables.speed.toNat := by
    have nonzero : tables.speed.toNat ≠ 0 := fun zero => speed (UInt64.toNat_inj.mp zero)
    omega
  rw [if_neg speed, or_iff_right speed,
    ← CbsInputs.right_iff positive (adminIdleslope - tables.speed).toInt64.le_toInt]
  constructor
  · rintro ⟨call, computed, sound⟩
    obtain ⟨⟨hicredit, locredit, size⟩, credits, rfl⟩ := Option.map_eq_some_iff.mp computed
    obtain ⟨⟨_, _, _, _, zero, fits⟩, same⟩ := CbsInputs.credits_eq_some.mp credits
    have small : size < 2 ^ 32 := by
      cases same
      omega
    exact ⟨hicredit, locredit, size, credits,
      (sound_iff first small _ _).mp (sound.resolve_left (by simp))⟩
  · rintro ⟨hicredit, locredit, size, credits, right⟩
    obtain ⟨⟨_, _, _, _, zero, fits⟩, same⟩ := CbsInputs.credits_eq_some.mp credits
    have small : size < 2 ^ 32 := by
      cases same
      omega
    exact ⟨_, Option.map_eq_some_iff.mpr ⟨_, credits, rfl⟩,
      .inr ((sound_iff first small _ _).mpr right)⟩

def setUp (overhead : UInt32) (slopes : Nat → UInt64) : Nat → CbsTables → List (Nat × CbsTables)
  | 0, _ => []
  | tc + 1, tables =>
    (tc + 1, tables) ::
      match tables.getTcCbsParameters overhead (tc + 1) (slopes (tc + 1)) with
      | none => []
      | some call => setUp overhead slopes tc call.tables

private theorem numTc_call (computed : tables.getTcCbsParameters overhead tc adminIdleslope = some call) :
    call.tables.numTc = tables.numTc := by
  unfold CbsTables.getTcCbsParameters at computed
  split_ifs at computed <;> try (cases computed; rfl)
  obtain ⟨_, _, rfl⟩ := Option.map_eq_some_iff.mp computed
  exact entered_numTc tables overhead tc

private theorem visited_class (member : visit ∈ setUp overhead slopes top tables) :
    0 < visit.1 ∧ visit.1 ≤ top ∧ visit.2.numTc = tables.numTc := by
  induction top generalizing tables with
  | zero => cases member
  | succ tc ih =>
    rcases List.mem_cons.mp member with rfl | member
    · exact ⟨Nat.succ_pos tc, le_refl _, rfl⟩
    · split at member
      · cases member
      · rename_i call computed
        obtain ⟨positive, least, same⟩ := ih member
        exact ⟨positive, least.trans (Nat.le_succ tc), same.trans (numTc_call computed)⟩

/-- From the top class down every class is rejected or yields right credits, if and only if the
link has no speed or the inputs of each class are moderate. -/
theorem classes_yield_iff (overhead : UInt32) (slopes : Nat → UInt64) (tables : CbsTables) :
    (∀ visit ∈ setUp overhead slopes (tables.numTc.toNat - 1) tables,
      visit.2.Yields overhead visit.1 (slopes visit.1)) ↔
    ∀ visit ∈ setUp overhead slopes (tables.numTc.toNat - 1) tables,
      visit.2.speed = 0 ∨ (visit.2.inputs overhead visit.1 (slopes visit.1)).Moderate := by
  refine forall₂_congr fun visit member => ?_
  obtain ⟨positive, least, same⟩ := visited_class member
  refine yields_iff positive ?_
  rw [same]
  omega

/-- The idle slope takes the whole speed of the link. -/
theorem full_slope_divides : ¬ ∀ (overhead : UInt32) (slopes : Nat → UInt64) (tables : CbsTables),
    ∀ visit ∈ setUp overhead slopes (tables.numTc.toNat - 1) tables,
      visit.2.Yields overhead visit.1 (slopes visit.1) := by
  intro always
  have yields := always 42 (fun _ => 1000000000) ⟨2, 1000000000, fun _ => 1500, fun _ => 0⟩
    (1, ⟨2, 1000000000, fun _ => 1500, fun _ => 0⟩) List.mem_cons_self
  obtain none | moderate := (yields_iff (by decide) (by decide)).mp yields
  · revert none
    decide
  · have slope := moderate.sendslope
    revert slope
    decide

end EnetTsn.Uniconf
