import Ztacx.CModel.IntArith
import Ztacx.CModel.Run
import Ztacx.Variable

/-!
# The battery level

`battery_read` of `src/ztacx_battery.c` publishes a reading and the percentage that
stands for it, 2800 mV for a flat battery and 4200 mV for a full one.  The
percentage is a byte and is not limited to 0..100, so that a reading below flat or
above full is published as whatever is left of it in a byte.

Truncation gives thirteen millivolts at either end.  As long as the readings that
are published stay within these, the level is a percentage and rises with the
voltage (`batterySound_of_meets`).

`published` and `basLevels` are histories the code does not keep: the readings
published so far with their percentages, and what the battery service was given,
both latest first.
-/

namespace Ztacx.Battery

open CModel

/-! ## The code -/

/-- `battery_values`, the settings that `battery_read` uses, and the delay with which the
work item was rescheduled. -/
structure BatteryState where
  valueOk : BoolVariable
  valueLevelPercent : ByteVariable
  valueMillivolts : Uint16Variable
  readIntervalSec : Uint16Variable
  millivoltChangeThreshold : Uint16Variable
  rescheduled : Option ℕ
  published : List (ℤ × UInt8)
  basLevels : List UInt8

/-- `battery_level_percent = (val - 2800) * 100 / (4200-2800)`. -/
def levelPercent (arith : IntReading) (val : ℤ) : Option UInt8 := do
  let above ← arith.result (val - 2800)
  let scaled ← arith.result (above * 100)
  let percent ← arith.result (scaled.tdiv (4200 - 2800))
  return UInt8.ofBitVec (BitVec.ofInt 8 percent)

/-- The variables after a reading has been published. -/
def BatteryState.publish (s : BatteryState) (val : ℤ) (percent : UInt8) : BatteryState :=
  { s with
    valueMillivolts := s.valueMillivolts.set (BitVec.ofInt 16 val)
    valueLevelPercent := s.valueLevelPercent.set percent
    published := (val, percent) :: s.published }

/-- What `battery_read` does with a converted reading.  The conversion that does not ask
the driver is only logged. -/
def batteryReading (arith : IntReading) (s : BatteryState) (val : ℤ) : Option BatteryState := do
  let millivolts : ℤ := s.valueMillivolts.get.toNat
  let difference ← arith.result (val - millivolts)
  let delta ← arith.result |difference|
  if millivolts = 0 ∨ s.millivoltChangeThreshold.get.toNat ≤ delta then
    let percent ← levelPercent arith val
    return s.publish val percent
  else return s

/-- The end of `battery_read`: `bt_bas_set_battery_level` and `k_work_reschedule`. -/
def BatteryState.finish (s : BatteryState) (work : Bool) : BatteryState :=
  { s with
    basLevels := s.valueLevelPercent.get :: s.basLevels
    rescheduled := if work then some s.readIntervalSec.get.toNat else s.rescheduled }

/-- `battery_read`, from the return code of `adc_read` and the millivolts that
`adc_raw_to_millivolts` makes of the sample. -/
def batteryRead (arith : IntReading) (s : BatteryState) (work : Bool) (rc val : ℤ) :
    Option BatteryState :=
  if !s.valueOk.get then some s
  else if rc = 0 then (batteryReading arith s val).map fun s => s.finish work
  else some (s.finish work)

/-! ## Runs -/

/-- A read by the work item or by the shell, or a new threshold. -/
inductive BatteryEvent
  | read (work : Bool) (rc val : ℤ)
  | threshold (millivolts : BitVec 16)
deriving DecidableEq, Repr

def batteryStep (arith : IntReading) (s : BatteryState) : BatteryEvent → Option BatteryState
  | .read work rc val => batteryRead arith s work rc val
  | .threshold millivolts => some { s with
      millivoltChangeThreshold := s.millivoltChangeThreshold.set millivolts }

/-- **The level is a percentage**, the battery service is given the same, and it rises
with the voltage. -/
structure BatterySound (s : BatteryState) : Prop where
  percent : s.valueLevelPercent.get ≤ 100
  passed : ∀ p ∈ s.basLevels.head?, p = s.valueLevelPercent.get
  passed_le : ∀ p ∈ s.basLevels, p ≤ 100
  mono : ∀ r ∈ s.published, ∀ r' ∈ s.published, r.1 ≤ r'.1 → r.2 ≤ r'.2

/-- A reading that is going to be published is one between flat and full. -/
def PublishesInRange (s : BatteryState) : BatteryEvent → Prop
  | .read _ rc val => s.valueOk.get = true → rc = 0 →
      (s.valueMillivolts.get.toNat = 0 ∨
        (s.millivoltChangeThreshold.get.toNat : ℤ) ≤ |val - s.valueMillivolts.get.toNat|) →
      2787 ≤ val ∧ val ≤ 4213
  | .threshold _ => True

/-- The state after `ztacx_battery_init`. -/
def bootBattery (ok : Bool) (threshold interval : BitVec 16) : BatteryState where
  valueOk := .entry "battery_ok" (by decide) ok
  valueLevelPercent := ⟨.entry "battery_level_percent" .byte (by decide), rfl⟩
  valueMillivolts := .entry "battery_millivolts" (by decide) 0
  readIntervalSec := .entry "battery_read_interval_sec" (by decide) interval
  millivoltChangeThreshold := .entry "battery_millivolt_change_threshold" (by decide) threshold
  rescheduled := none
  published := []
  basLevels := []

/-! ## The percentage -/

section Percent

variable {arith : IntReading} {val : ℤ}

/-- The percentage of a reading, below flat as at flat. -/
def percentOf (val : ℤ) : ℕ := (val - 2800).toNat * 100 / 1400

theorem percentOf_mono {v w : ℤ} (le : v ≤ w) : percentOf v ≤ percentOf w := by
  unfold percentOf
  exact Nat.div_le_div_right (Nat.mul_le_mul_right 100 (Int.toNat_le_toNat (by omega)))

theorem percentOf_le (high : val ≤ 4213) : percentOf val ≤ 100 := by
  unfold percentOf
  omega

/-- Between flat and full the arithmetic is exact and the byte is wide enough. -/
theorem levelPercent_of_inRange (low : 2787 ≤ val) (high : val ≤ 4213) :
    levelPercent arith val = some (UInt8.ofNat (percentOf val)) := by
  have truncated : ((val - 2800) * 100).tdiv 1400 = percentOf val := by
    unfold percentOf
    by_cases below : val < 2800
    · -- at most thirteen below flat, which truncation brings to zero
      obtain ⟨d, rfl, small⟩ : ∃ d : ℕ, val = 2800 - d ∧ d ≤ 13 := ⟨(2800 - val).toNat, by omega⟩
      interval_cases d <;> rfl
    · obtain ⟨d, rfl⟩ : ∃ d : ℕ, val = 2800 + d := ⟨(val - 2800).toNat, by omega⟩
      rw [add_sub_cancel_left, Int.toNat_natCast]
      exact_mod_cast (Int.ofNat_tdiv (d * 100) 1400).symm
  have fits : IsInt (val - 2800) ∧ IsInt ((val - 2800) * 100) ∧ IsInt (percentOf val) := by
    have := percentOf_le high
    unfold IsInt INT_MIN INT_MAX
    omega
  have byte : UInt8.ofBitVec (BitVec.ofInt 8 (percentOf val)) = UInt8.ofNat (percentOf val) := rfl
  unfold levelPercent
  simp only [arith.exact _ fits.1, arith.exact _ fits.2.1, Option.bind_eq_bind, Option.bind_some]
  rw [show (4200 - 2800 : ℤ) = 1400 from rfl, truncated, arith.exact _ fits.2.2, Option.bind_some,
    byte]
  rfl

theorem ofNat_percentOf_le (high : val ≤ 4213) : UInt8.ofNat (percentOf val) ≤ 100 := by
  have := percentOf_le high
  rw [UInt8.le_iff_toNat_le, UInt8.toNat_ofNat']
  show percentOf val % 256 ≤ 100
  omega

theorem ofNat_percentOf_mono {v w : ℤ} (le : v ≤ w) (high : w ≤ 4213) :
    UInt8.ofNat (percentOf v) ≤ UInt8.ofNat (percentOf w) := by
  have := percentOf_mono le
  have := percentOf_le high
  rw [UInt8.le_iff_toNat_le, UInt8.toNat_ofNat', UInt8.toNat_ofNat']
  show percentOf v % 256 ≤ percentOf w % 256
  omega

end Percent

/-! ## One read -/

section Read

variable {s : BatteryState}

/-- What holds as long as only readings between flat and full have been published. -/
structure PublishedInRange (s : BatteryState) : Prop where
  percent : s.valueLevelPercent.get ≤ 100
  passed : ∀ p ∈ s.basLevels.head?, p = s.valueLevelPercent.get
  passed_le : ∀ p ∈ s.basLevels, p ≤ 100
  readings : ∀ r ∈ s.published, r.1 ≤ 4213 ∧ r.2 = UInt8.ofNat (percentOf r.1)

theorem PublishedInRange.sound (inv : PublishedInRange s) : BatterySound s where
  percent := inv.percent
  passed := inv.passed
  passed_le := inv.passed_le
  mono := by
    intro r mem r' mem' le
    rw [(inv.readings r mem).2, (inv.readings r' mem').2]
    exact ofNat_percentOf_mono le (inv.readings r' mem').1

/-- Whatever has been published, the end of a read passes it on. -/
theorem PublishedInRange.finish (percent : s.valueLevelPercent.get ≤ 100)
    (passed_le : ∀ p ∈ s.basLevels, p ≤ 100)
    (readings : ∀ r ∈ s.published, r.1 ≤ 4213 ∧ r.2 = UInt8.ofNat (percentOf r.1)) (work : Bool) :
    PublishedInRange (s.finish work) where
  percent := percent
  passed := fun _ mem => (Option.mem_some_iff.mp mem).symm
  passed_le := List.forall_mem_cons.mpr ⟨percent, passed_le⟩
  readings := readings

/-- A reading that is published is in range, and one that is not changes nothing. -/
theorem batteryReading_of_inRange (arith : IntReading) {val : ℤ}
    (range : (s.valueMillivolts.get.toNat = 0 ∨
      (s.millivoltChangeThreshold.get.toNat : ℤ) ≤ |val - s.valueMillivolts.get.toNat|) →
      2787 ≤ val ∧ val ≤ 4213) :
    batteryReading arith s val = some s ∨
      val ≤ 4213 ∧
        batteryReading arith s val = some (s.publish val (UInt8.ofNat (percentOf val))) := by
  have millivolts := s.valueMillivolts.get.isLt
  have threshold := s.millivoltChangeThreshold.get.isLt
  have nonneg := abs_nonneg (val - s.valueMillivolts.get.toNat)
  -- a reading whose difference is no `int` would be published
  have near : |val - s.valueMillivolts.get.toNat| ≤ 70000 := by
    by_contra far
    obtain ⟨low, high⟩ := range (.inr (by omega))
    exact far (abs_le.mpr (by omega))
  have bounds := abs_le.mp near
  have fits : IsInt (val - s.valueMillivolts.get.toNat) ∧
      IsInt |val - s.valueMillivolts.get.toNat| := by
    unfold IsInt INT_MIN INT_MAX
    omega
  unfold batteryReading
  simp only [arith.exact _ fits.1, arith.exact _ fits.2, Option.bind_eq_bind, Option.bind_some,
    Int.natCast_eq_zero]
  by_cases publishes : s.valueMillivolts.get.toNat = 0 ∨
      (s.millivoltChangeThreshold.get.toNat : ℤ) ≤ |val - s.valueMillivolts.get.toNat|
  · obtain ⟨low, high⟩ := range publishes
    rw [if_pos publishes, levelPercent_of_inRange low high]
    exact .inr ⟨high, rfl⟩
  · rw [if_neg publishes]
    exact .inl rfl

/-- **The step lemma.** -/
theorem PublishedInRange.batteryStep (inv : PublishedInRange s) (arith : IntReading)
    {e : BatteryEvent} (range : PublishesInRange s e) :
    ∃ s', Battery.batteryStep arith s e = some s' ∧ PublishedInRange s' := by
  cases e with
  | threshold millivolts => exact ⟨_, rfl, inv.percent, inv.passed, inv.passed_le, inv.readings⟩
  | read work rc val =>
      show ∃ s', batteryRead arith s work rc val = some s' ∧ _
      unfold batteryRead
      by_cases ok : s.valueOk.get = true
      · rw [ok, if_neg (by decide)]
        by_cases zero : rc = 0
        · rw [if_pos zero]
          obtain ignored | ⟨high, published⟩ := batteryReading_of_inRange arith (range ok zero)
          · rw [ignored]
            exact ⟨_, rfl, .finish inv.percent inv.passed_le inv.readings work⟩
          · rw [published]
            refine ⟨_, rfl, ?_⟩
            apply PublishedInRange.finish
            · exact (ByteVariable.get_set ..).trans_le (ofNat_percentOf_le high)
            · exact inv.passed_le
            · exact List.forall_mem_cons.mpr ⟨⟨high, rfl⟩, inv.readings⟩
        · rw [if_neg zero]
          exact ⟨_, rfl, .finish inv.percent inv.passed_le inv.readings work⟩
      · rw [Bool.not_eq_true] at ok
        rw [ok, if_pos (by decide)]
        exact ⟨s, rfl, inv⟩

end Read

/-! ## Runs -/

/-- **The battery level is sound** in every run that publishes only readings between flat
and full. -/
theorem batterySound_of_meets (arith : IntReading) (ok : Bool) (threshold interval : BitVec 16)
    {es : List BatteryEvent}
    (meets : Meets (batteryStep arith) PublishesInRange (bootBattery ok threshold interval) es) :
    Safe (batteryStep arith) BatterySound (bootBattery ok threshold interval) es := by
  have init : PublishedInRange (bootBattery ok threshold interval) :=
    ⟨show (0 : UInt8) ≤ 100 by decide, fun _ mem => absurd mem (Option.not_mem_none _),
      fun _ mem => absurd mem List.not_mem_nil, fun _ mem => absurd mem List.not_mem_nil⟩
  exact safe_of_meets (D := fun _ => True) (fun inv => PublishedInRange.sound inv)
    (fun inv _ range => inv.batteryStep arith range) init (fun _ _ => trivial) meets

/-- A full battery that is in use. -/
theorem batterySound_inUse : Safe (batteryStep .wraps) BatterySound (bootBattery true 20 60)
    [.read true 0 4200, .read true 0 4190, .read true 0 3900] :=
  batterySound_of_meets .wraps true 20 60
    ⟨fun _ _ _ => by decide, fun _ _ => ⟨fun _ _ _ => by decide, fun _ _ =>
      ⟨fun _ _ _ => by decide, fun _ _ => trivial⟩⟩⟩

/-- **A charger** brings the battery to 107 percent, and a battery just below flat to 249. -/
theorem charging_not_batterySound :
    ¬ Safe (batteryStep .traps) BatterySound (bootBattery true 20 60) [.read true 0 4300] ∧
      ¬ Safe (batteryStep .traps) BatterySound (bootBattery true 20 60) [.read true 0 2700] := by
  have reached : ∀ val percent, 100 < percent →
      (∃ s, run (batteryStep .traps) (bootBattery true 20 60) [.read true 0 val] = some s ∧
        s.valueLevelPercent.get = percent) →
      ¬ Safe (batteryStep .traps) BatterySound (bootBattery true 20 60) [.read true 0 val] := by
    rintro val percent above ⟨s, ran, level⟩ ⟨-, sound⟩
    have le := (sound _ (List.prefix_refl _) s ran).percent
    rw [level] at le
    exact absurd le (UInt8.not_le.mpr above)
  exact ⟨reached 4300 107 (by decide) ⟨_, rfl, rfl⟩, reached 2700 249 (by decide) ⟨_, rfl, rfl⟩⟩

end Ztacx.Battery
