import Mathlib.Algebra.Order.Ring.Abs
import Ztacx.Sensor.Ims

/-!
# Overflow in motion sensing

`ims_read` converts a sample to centimetres per square second, takes its magnitude
and feeds all four numbers to `update_variable_peak`.  With readings of at most
200 m/s/s the conversion, the squares and their sum are far inside an `int`.

So is the difference of any two samples.  The difference that overflows is that of
the first sample, which is taken to `INVALID_LEVEL`: the initial level is the
greatest `int`, and a negative number is too far below it.  That is the only one
(`neverOverflows_iff`).
-/

namespace Ztacx.Ims

open CModel

/-! ## The code -/

/-- `struct sensor_value`. -/
structure SensorValue where
  val1 : ℤ
  val2 : ℤ
deriving DecidableEq, Repr

/-- One sample: the return codes of `sensor_sample_fetch` and `sensor_channel_get`,
and `accel[3]`. -/
structure ImsSample where
  fetchRc : ℤ
  channelRc : ℤ
  x : SensorValue
  y : SensorValue
  z : SensorValue
deriving DecidableEq, Repr

/-- The magnitude and the three axes, in the order of the updates. -/
inductive Channel
  | m
  | x
  | y
  | z
deriving DecidableEq, Repr

/-- `ims_values`, `ims_settings`, whether there is a device, and the delay with which
the work item was rescheduled. -/
structure ImsState where
  imsDev : Bool
  valueOk : BoolVariable
  pair : Channel → PeakPair
  valueSamples : Int64Variable
  changeThreshold : Int32Variable
  readIntervalUsec : Int32Variable
  rescheduled : Option ℤ

/-- The end of `ims_read`: `k_work_reschedule`, if there is a work item. -/
def ImsState.reschedule (s : ImsState) (work : Bool) : ImsState :=
  if work then { s with rescheduled := some s.readIntervalUsec.get.toInt } else s

/-- The conversion of one axis.  The ADXL345 reports in the unit of the level. -/
def cmpsps (arith : IntReading) (adxl345 : Bool) (a : SensorValue) : Option ℤ :=
  if adxl345 then some a.val1
  else do
    let whole ← arith.result (a.val1 * 100)
    let hundredths ← arith.result (a.val2.tdiv 10000)
    arith.result (whole + hundredths)

/-- `sqrt` of the sum of the squares, converted to `int`. -/
def magnitude (arith : IntReading) (x y z : ℤ) : Option ℤ := do
  let xx ← arith.result (x * x)
  let yy ← arith.result (y * y)
  let zz ← arith.result (z * z)
  let xy ← arith.result (xx + yy)
  let sum ← arith.result (xy + zz)
  -- a sum that has wrapped below zero has no root, and its conversion no value
  if 0 ≤ sum then some (Nat.sqrt sum.toNat) else none

def levels (m x y z : ℤ) : Channel → ℤ
  | .m => m
  | .x => x
  | .y => y
  | .z => z

/-- The updates of some channels, one after another. -/
def updateChannels (arith : IntReading) (t : ℤ) (level : Channel → ℤ) (cs : List Channel)
    (pair : Channel → PeakPair) : Option (Channel → PeakPair) :=
  cs.foldlM (fun pair c => (updateVariablePeak arith (pair c) (level c) t).map fun r =>
    Function.update pair c r.1) pair

/-- `ims_read`. -/
def imsRead (arith : IntReading) (adxl345 : Bool) (s : ImsState) (work : Bool)
    (sample : ImsSample) : Option ImsState :=
  if !s.imsDev || !s.valueOk.get then some s
  else if sample.fetchRc < 0 then some (s.reschedule work)
  else if sample.channelRc < 0 then some s
  else do
    let x ← cmpsps arith adxl345 sample.x
    let y ← cmpsps arith adxl345 sample.y
    let z ← cmpsps arith adxl345 sample.z
    let m ← magnitude arith x y z
    let pair ← updateChannels arith s.changeThreshold.get.toInt (levels m x y z)
      [.m, .x, .y, .z] s.pair
    let s := { s with
      pair := pair
      valueSamples := s.valueSamples.set (s.valueSamples.get + 1) }
    return s.reschedule work

/-! ## Runs -/

/-- A read by the work item or by the shell, or new settings. -/
inductive ImsEvent
  | read (work : Bool) (sample : ImsSample)
  | settings (changeThreshold readIntervalUsec : BitVec 32)
deriving DecidableEq, Repr

def imsStep (arith : IntReading) (adxl345 : Bool) (s : ImsState) : ImsEvent → Option ImsState
  | .read work sample => imsRead arith adxl345 s work sample
  | .settings changeThreshold readIntervalUsec => some { s with
      changeThreshold := s.changeThreshold.set changeThreshold
      readIntervalUsec := s.readIntervalUsec.set readIntervalUsec }

/-- At most 200 m/s/s. -/
def SensorValue.Moderate (a : SensorValue) : Prop := |a.val1| ≤ 200 ∧ |a.val2| < 1000000

def ImsEvent.Moderate : ImsEvent → Prop
  | .read _ sample => sample.x.Moderate ∧ sample.y.Moderate ∧ sample.z.Moderate
  | .settings .. => True

/-- **No `int` expression of the run overflows.** -/
def NeverOverflows (adxl345 : Bool) (s : ImsState) (es : List ImsEvent) : Prop :=
  ∃ t, run (imsStep .traps adxl345) s es = some t

/-- The sample gets to the updates. -/
def ImsState.Takes (s : ImsState) (sample : ImsSample) : Prop :=
  s.imsDev = true ∧ s.valueOk.get = true ∧ 0 ≤ sample.fetchRc ∧ 0 ≤ sample.channelRc

/-- An axis in centimetres per square second. -/
def SensorValue.reading (adxl345 : Bool) (a : SensorValue) : ℤ :=
  if adxl345 then a.val1 else a.val1 * 100 + a.val2.tdiv 10000

/-- An axis without a level so far is not negative. -/
def FirstNotNegative (adxl345 : Bool) (s : ImsState) : ImsEvent → Prop
  | .read _ sample => s.Takes sample →
      ((s.pair .x).level = INVALID_LEVEL → 0 ≤ sample.x.reading adxl345) ∧
      ((s.pair .y).level = INVALID_LEVEL → 0 ≤ sample.y.reading adxl345) ∧
      ((s.pair .z).level = INVALID_LEVEL → 0 ≤ sample.z.reading adxl345)
  | .settings .. => True

/-! ## Conversion and magnitude -/

section Conversion

variable {adxl345 : Bool} {a : SensorValue}

theorem abs_tdiv_le {x : ℤ} (small : |x| < 1000000) : |x.tdiv 10000| ≤ 99 := by
  rw [Int.abs_eq_natAbs] at small ⊢
  rw [Int.natAbs_tdiv]
  show ((x.natAbs / 10000 : ℕ) : ℤ) ≤ 99
  omega

/-- The two parts of a reading, in m/s/s and in cm/s/s. -/
theorem SensorValue.Moderate.parts (h : a.Moderate) :
    (-200 ≤ a.val1 ∧ a.val1 ≤ 200) ∧
      -99 ≤ a.val2.tdiv 10000 ∧ a.val2.tdiv 10000 ≤ 99 :=
  ⟨abs_le.mp h.1, abs_le.mp (abs_tdiv_le h.2)⟩

theorem SensorValue.Moderate.reading (h : a.Moderate) (adxl345 : Bool) :
    |a.reading adxl345| ≤ 20099 := by
  have parts := h.parts
  unfold SensorValue.reading
  rw [abs_le]
  split
  · omega
  · omega

theorem cmpsps_of_moderate (arith : IntReading) (h : a.Moderate) :
    cmpsps arith adxl345 a = some (a.reading adxl345) := by
  have parts := h.parts
  have fits : IsInt (a.val1 * 100) ∧ IsInt (a.val2.tdiv 10000) ∧
      IsInt (a.val1 * 100 + a.val2.tdiv 10000) := by
    unfold IsInt INT_MIN INT_MAX
    omega
  unfold cmpsps SensorValue.reading
  cases adxl345 with
  | true => rfl
  | false => simp [arith.exact _ fits.1, arith.exact _ fits.2.1, arith.exact _ fits.2.2]

theorem isInt_of_nonneg_of_le {x : ℤ} (nonneg : 0 ≤ x) (le : x ≤ 2000000000) : IsInt x := by
  unfold IsInt INT_MIN INT_MAX
  omega

theorem magnitude_of_moderate (arith : IntReading) {x y z : ℤ} (hx : |x| ≤ 20099)
    (hy : |y| ≤ 20099) (hz : |z| ≤ 20099) :
    ∃ m, magnitude arith x y z = some m ∧ 0 ≤ m ∧ Small m := by
  have square : ∀ x : ℤ, |x| ≤ 20099 → 0 ≤ x * x ∧ x * x ≤ 403969801 := by
    intro x hx
    refine ⟨mul_self_nonneg x, ?_⟩
    calc x * x = |x| * |x| := (abs_mul_abs_self x).symm
      _ ≤ 20099 * 20099 := mul_self_le_mul_self (abs_nonneg x) hx
      _ = 403969801 := by norm_num
  have xx := square x hx
  have yy := square y hy
  have zz := square z hz
  have root : Nat.sqrt (x * x + y * y + z * z).toNat ≤ 10 ^ 9 :=
    (Nat.sqrt_lt.mpr (by omega)).le
  refine ⟨Nat.sqrt (x * x + y * y + z * z).toNat, ?_, Int.natCast_nonneg _, ?_⟩
  · unfold magnitude
    rw [arith.exact _ (isInt_of_nonneg_of_le xx.1 (by omega)),
      arith.exact _ (isInt_of_nonneg_of_le yy.1 (by omega)),
      arith.exact _ (isInt_of_nonneg_of_le zz.1 (by omega))]
    simp only [Option.bind_eq_bind, Option.bind_some]
    rw [arith.exact _ (isInt_of_nonneg_of_le (by omega) (by omega)), Option.bind_some,
      arith.exact _ (isInt_of_nonneg_of_le (by omega) (by omega)), Option.bind_some,
      if_pos (by omega)]
  · rw [Small, Nat.abs_cast]
    exact_mod_cast root

end Conversion

/-! ## The updates -/

section Updates

variable {t : ℤ} {level : Channel → ℤ} {pair : Channel → PeakPair}

/-- Every pair stands for some samples. -/
def Tracking (pair : Channel → PeakPair) : Prop := ∀ c, ∃ accepted, (pair c).Follows accepted

/-- A pair without a level gets a first sample that is not negative. -/
def StartsNotNegative (level : Channel → ℤ) (pair : Channel → PeakPair) : Prop :=
  ∀ c, (pair c).level = INVALID_LEVEL → 0 ≤ level c

/-- The two differences of a first sample that is not negative. -/
theorem first_of_nonneg {x : ℤ} (nonneg : 0 ≤ x) (small : Small x) :
    ∃ d c, IntReading.traps.result (x - INVALID_LEVEL) = some d ∧
      IntReading.traps.result |d| = some c := by
  have fits : IsInt (x - INVALID_LEVEL) ∧ IsInt |x - INVALID_LEVEL| := by
    unfold Small at small
    have := abs_le.mp small
    rw [abs_of_nonpos (by unfold INVALID_LEVEL INT_MAX; omega)]
    unfold IsInt INVALID_LEVEL INT_MIN INT_MAX
    omega
  exact ⟨_, _, IntReading.exact _ _ fits.1, IntReading.exact _ _ fits.2⟩

/-- A negative first sample overflows. -/
theorem updateVariablePeak_of_neg {p : PeakPair} {x : ℤ} (first : p.level = INVALID_LEVEL)
    (negative : x < 0) (small : Small x) : updateVariablePeak .traps p x t = none := by
  rw [PeakPair.updateVariablePeak_eq p small, first]
  by_cases fits : IsInt (x - INVALID_LEVEL)
  · -- only -1 has a difference, the least `int`, which has no absolute value
    have tooLarge : ¬ IsInt |x - INVALID_LEVEL| := by
      rw [abs_of_neg (by unfold INVALID_LEVEL INT_MAX; omega)]
      unfold IsInt INVALID_LEVEL INT_MIN INT_MAX
      omega
    rw [IntReading.exact _ _ fits, Option.bind_some, IntReading.traps_eq_none_iff.mpr tooLarge]
    rfl
  · rw [IntReading.traps_eq_none_iff.mpr fits]
    rfl

theorem updateChannels_cons (arith : IntReading) (c : Channel) (cs : List Channel) :
    updateChannels arith t level (c :: cs) pair =
      (updateVariablePeak arith (pair c) (level c) t).bind fun r =>
        updateChannels arith t level cs (Function.update pair c r.1) := by
  unfold updateChannels
  rw [List.foldlM_cons]
  cases updateVariablePeak arith (pair c) (level c) t with
  | none => rfl
  | some r => rfl

/-- The updates go through if no first sample is negative. -/
theorem updateChannels_of_startsNotNegative (small : ∀ c, Small (level c))
    (tracking : Tracking pair) (starts : StartsNotNegative level pair) (cs : List Channel) :
    ∃ pair', updateChannels .traps t level cs pair = some pair' ∧ Tracking pair' := by
  induction cs generalizing pair with
  | nil => exact ⟨pair, rfl, tracking⟩
  | cons c cs ih =>
      obtain ⟨accepted, follows⟩ := tracking c
      obtain ⟨p', updated, follows'⟩ := follows.update .traps (small c) t fun fresh =>
        first_of_nonneg (starts c (by rw [follows.level, fresh]; rfl)) (small c)
      rw [updateChannels_cons, updated, Option.bind_some]
      apply ih
      · intro d
        by_cases same : d = c
        · subst same
          rw [Function.update_self]
          exact ⟨_, follows'⟩
        · rw [Function.update_of_ne same]
          exact tracking d
      · intro d first
        by_cases same : d = c
        · -- a pair that has just been updated has a level
          subst same
          rw [Function.update_self] at first
          obtain ⟨l, latest, -⟩ := Hysteresis.near_track t accepted (level d)
          have isLevel := follows'.level
          rw [latest, first] at isLevel
          have valid := (follows'.small l (List.mem_of_mem_head? latest)).ne_invalid
          exact absurd isLevel.symm valid
        · rw [Function.update_of_ne same] at first
          exact starts d first

/-- They do not go through otherwise. -/
theorem nonneg_of_updateChannels {cs : List Channel} {pair' : Channel → PeakPair}
    (small : ∀ c, Small (level c)) (nodup : cs.Nodup)
    (ran : updateChannels .traps t level cs pair = some pair') :
    ∀ c ∈ cs, (pair c).level = INVALID_LEVEL → 0 ≤ level c := by
  induction cs generalizing pair with
  | nil => exact fun c mem => absurd mem List.not_mem_nil
  | cons d cs ih =>
      rw [updateChannels_cons, Option.bind_eq_some_iff] at ran
      obtain ⟨r, updated, rest⟩ := ran
      obtain ⟨fresh, nodup⟩ := List.nodup_cons.mp nodup
      intro c mem first
      obtain rfl | later := List.mem_cons.mp mem
      · by_contra negative
        rw [updateVariablePeak_of_neg first (not_le.mp negative) (small c)] at updated
        cases updated
      · have other : c ≠ d := fun same => fresh (same ▸ later)
        refine ih nodup rest c later ?_
        rw [Function.update_of_ne other]
        exact first

end Updates

/-! ## One read -/

section Read

variable {adxl345 : Bool} {s : ImsState} {sample : ImsSample}

/-- A sample that does not get to the updates leaves the pairs alone. -/
theorem imsRead_of_not_takes (adxl345 : Bool) (ignored : ¬ s.Takes sample)
    (arith : IntReading) (work : Bool) :
    ∃ s', imsRead arith adxl345 s work sample = some s' ∧ s'.pair = s.pair := by
  have rescheduled : (s.reschedule work).pair = s.pair := by
    unfold ImsState.reschedule
    split <;> rfl
  unfold imsRead
  by_cases ready : (!s.imsDev || !s.valueOk.get) = true
  · rw [if_pos ready]
    exact ⟨s, rfl, rfl⟩
  · rw [if_neg ready]
    by_cases fetch : sample.fetchRc < 0
    · rw [if_pos fetch]
      exact ⟨_, rfl, rescheduled⟩
    · rw [if_neg fetch]
      by_cases channel : sample.channelRc < 0
      · rw [if_pos channel]
        exact ⟨s, rfl, rfl⟩
      · refine absurd ?_ ignored
        simp only [Bool.or_eq_true, Bool.not_eq_true', not_or, Bool.not_eq_false] at ready
        exact ⟨ready.1, ready.2, not_lt.mp fetch, not_lt.mp channel⟩

/-- What the updates get from a moderate sample. -/
theorem imsRead_of_takes (adxl345 : Bool) (arith : IntReading) (taken : s.Takes sample)
    (work : Bool) (moderate : (ImsEvent.read work sample).Moderate) :
    ∃ level : Channel → ℤ, (∀ c, Small (level c)) ∧ 0 ≤ level .m ∧
      level .x = sample.x.reading adxl345 ∧ level .y = sample.y.reading adxl345 ∧
      level .z = sample.z.reading adxl345 ∧
      imsRead arith adxl345 s work sample =
        (updateChannels arith s.changeThreshold.get.toInt level [.m, .x, .y, .z] s.pair).map
          fun pair => ImsState.reschedule { s with
            pair := pair
            valueSamples := s.valueSamples.set (s.valueSamples.get + 1) } work := by
  obtain ⟨hx, hy, hz⟩ := moderate
  have x := hx.reading adxl345
  have y := hy.reading adxl345
  have z := hz.reading adxl345
  obtain ⟨m, value, nonneg, small⟩ := magnitude_of_moderate arith x y z
  refine ⟨levels m (sample.x.reading adxl345) (sample.y.reading adxl345)
    (sample.z.reading adxl345), ?_, nonneg, rfl, rfl, rfl, ?_⟩
  · have small' : ∀ r : ℤ, |r| ≤ 20099 → Small r := fun r le => le.trans (by norm_num)
    intro c
    cases c with
    | m => exact small
    | x => exact small' _ x
    | y => exact small' _ y
    | z => exact small' _ z
  · obtain ⟨dev, ok, fetch, channel⟩ := taken
    unfold imsRead
    rw [dev, ok, if_neg (by decide), if_neg (not_lt.mpr fetch), if_neg (not_lt.mpr channel),
      cmpsps_of_moderate arith hx, cmpsps_of_moderate arith hy, cmpsps_of_moderate arith hz]
    simp only [Option.bind_eq_bind, Option.bind_some, value, Option.map_eq_bind]
    rfl

end Read

/-! ## Runs -/

theorem imsStep_moves {adxl345 : Bool} {s : ImsState} {e : ImsEvent} (tracking : Tracking s.pair)
    (moderate : e.Moderate) (first : FirstNotNegative adxl345 s e) :
    ∃ s', imsStep .traps adxl345 s e = some s' ∧ Tracking s'.pair := by
  cases e with
  | settings changeThreshold readIntervalUsec => exact ⟨_, rfl, tracking⟩
  | read work sample =>
      by_cases taken : s.Takes sample
      · obtain ⟨level, small, hm, hx, hy, hz, ran⟩ :=
          imsRead_of_takes adxl345 .traps taken work moderate
        obtain ⟨x, y, z⟩ := first taken
        have starts : StartsNotNegative level s.pair := by
          intro c new
          cases c with
          | m => exact hm
          | x => exact hx ▸ x new
          | y => exact hy ▸ y new
          | z => exact hz ▸ z new
        obtain ⟨pair, updated, tracking'⟩ :=
          updateChannels_of_startsNotNegative small tracking starts _
        rw [updated] at ran
        refine ⟨_, ran, ?_⟩
        unfold ImsState.reschedule
        split <;> exact tracking'
      · obtain ⟨s', ran, same⟩ := imsRead_of_not_takes adxl345 taken .traps work
        exact ⟨s', ran, same ▸ tracking⟩

/-- **When motion sensing does not overflow**: the first sample of an axis is not
negative. -/
theorem neverOverflows_iff (adxl345 : Bool) {s : ImsState} (fresh : ∀ c, (s.pair c).Fresh)
    {es : List ImsEvent} (moderate : ∀ e ∈ es, e.Moderate) :
    NeverOverflows adxl345 s es ↔
      Meets (imsStep .traps adxl345) (FirstNotNegative adxl345) s es := by
  have exactly : Safe (imsStep .traps adxl345) (fun _ => True) s es ↔ _ :=
    safe_iff_meets (I := fun s => Tracking s.pair) (C := FirstNotNegative adxl345)
      (D := ImsEvent.Moderate) (fun _ => trivial)
      (fun tracking moderate first => imsStep_moves tracking moderate first)
      (fun {s e s'} tracking moderate negative taken _ => negative ?_)
      (fun c => ⟨[], (fresh c).follows⟩) moderate
  · refine Iff.trans ?_ exactly
    exact ⟨fun ran => ⟨ran, fun _ _ _ _ => trivial⟩, fun safe => safe.1⟩
  · cases e with
    | settings => trivial
    | read work sample =>
        intro takes
        obtain ⟨level, small, -, hx, hy, hz, ran⟩ :=
          imsRead_of_takes adxl345 .traps takes work moderate
        obtain ⟨pair, updated, -⟩ := Option.map_eq_some_iff.mp (ran.symm.trans taken)
        have nonneg := nonneg_of_updateChannels small (by decide) updated
        exact ⟨hx ▸ nonneg .x (by decide), hy ▸ nonneg .y (by decide), hz ▸ nonneg .z (by decide)⟩

/-! ### A board at rest -/

/-- `ims_values` as they are initialised, with the sensor found. -/
def bootIms : ImsState where
  imsDev := true
  valueOk := .entry "ims_ok" (by decide) true
  pair
    | .m => ⟨.entry "ims_level_m" (by decide) 0x7FFFFFFF,
        .entry "ims_peak_m" (by decide) 0x7FFFFFFF⟩
    | .x => pairX
    | .y => ⟨.entry "ims_level_y" (by decide) 0x7FFFFFFF,
        .entry "ims_peak_y" (by decide) 0x7FFFFFFF⟩
    | .z => ⟨.entry "ims_level_z" (by decide) 0x7FFFFFFF,
        .entry "ims_peak_z" (by decide) 0x7FFFFFFF⟩
  valueSamples := ⟨.entry "ims_samples" .int64 (by decide), rfl⟩
  changeThreshold := .entry "ims_change_threshold" (by decide) 20
  readIntervalUsec := .entry "ims_read_interval_usec" (by decide) 100000
  rescheduled := none

theorem bootIms_fresh (c : Channel) : (bootIms.pair c).Fresh := by
  cases c <;> exact ⟨rfl, rfl⟩

/-- Gravity along the z axis, and the x axis as given. -/
def atRest (x : SensorValue) : ImsEvent := .read true ⟨0, 0, x, ⟨0, 0⟩, ⟨9, 806650⟩⟩

theorem atRest_moderate {x : SensorValue} (moderate : x.Moderate) : (atRest x).Moderate :=
  ⟨moderate, by norm_num [SensorValue.Moderate], by norm_num [SensorValue.Moderate]⟩

/-- Upright, the first sample is taken without an overflow. -/
theorem neverOverflows_upright : NeverOverflows false bootIms [atRest ⟨0, 0⟩] :=
  (neverOverflows_iff false bootIms_fresh (List.forall_mem_singleton.mpr
    (atRest_moderate (by norm_num [SensorValue.Moderate])))).mpr
    ⟨fun _ => ⟨fun _ => by decide, fun _ => by decide, fun _ => by decide⟩, fun _ _ => trivial⟩

/-- **Tilted a little**, so that the x axis reads -1 m/s/s, the first sample overflows. -/
theorem tilted_not_neverOverflows :
    (atRest ⟨-1, 0⟩).Moderate ∧ ¬ NeverOverflows false bootIms [atRest ⟨-1, 0⟩] := by
  have moderate : (atRest ⟨-1, 0⟩).Moderate :=
    atRest_moderate (by norm_num [SensorValue.Moderate])
  refine ⟨moderate, ?_⟩
  rintro ⟨t, ran⟩
  obtain ⟨s, read, -⟩ := run_cons_eq_some.mp ran
  obtain ⟨level, small, -, hx, -, -, ran⟩ := imsRead_of_takes (s := bootIms) false
    .traps ⟨rfl, by decide, by decide, by decide⟩ true moderate
  obtain ⟨pair, updated, -⟩ := Option.map_eq_some_iff.mp (ran.symm.trans read)
  have nonneg := nonneg_of_updateChannels small (by decide) updated .x (by decide) rfl
  rw [hx] at nonneg
  exact absurd nonneg (by decide)

end Ztacx.Ims
