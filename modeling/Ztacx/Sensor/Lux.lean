import Ztacx.CModel.Hysteresis
import Ztacx.CModel.IntArith
import Ztacx.CModel.Run
import Ztacx.Variable

/-!
# The light level

`lux_read` of `src/ztacx_lux.c` is a hysteresis filter in front of `lux_level`.  Its
threshold is read from the table of settings under `SETTING_CHANGE_THRESHOLD`, which
is the index of the first entry, as `SETTING_READ_INTERVAL_SEC` is: the number of
seconds between two reads is the change that a read ignores.

So the level follows the light as closely as the interval says, and as closely as
`lux_change_threshold` says exactly if that is not the smaller of the two
(`followsLight_iff`).
-/

namespace Ztacx.Lux

open CModel

/-! ## The code -/

def INVALID_LEVEL : ℤ := 65535

def SETTING_READ_INTERVAL_SEC : Fin 2 := 0

def SETTING_CHANGE_THRESHOLD : Fin 2 := 0

/-- `lux_values`, the table `lux_settings` of two entries, whether there is a device, and
the delay with which the work item was rescheduled. -/
structure LuxState where
  luxDev : Bool
  valueOk : BoolVariable
  valueLevel : Uint16Variable
  luxSettings : Fin 2 → Uint16Variable
  rescheduled : Option ℕ

/-- The published level. -/
def LuxState.level (s : LuxState) : ℤ := s.valueLevel.get.toNat

/-- The end of `lux_read`: `k_work_reschedule`, if there is a work item. -/
def LuxState.reschedule (s : LuxState) (work : Bool) : LuxState :=
  if work then
    { s with rescheduled := some (s.luxSettings SETTING_READ_INTERVAL_SEC).get.toNat }
  else s

/-- `lux_read`, from the return code of `sensor_sample_fetch_chan` and the `val1` of the
sample.  The setter takes the low two bytes of the `int`. -/
def luxRead (arith : IntReading) (s : LuxState) (work : Bool) (rc val : ℤ) : Option LuxState :=
  if !s.luxDev || !s.valueOk.get then some s
  else if rc ≠ 0 then some s
  else do
    let difference ← arith.result (val - s.level)
    let delta ← arith.result |difference|
    let deltaThreshold := (s.luxSettings SETTING_CHANGE_THRESHOLD).get.toNat
    if s.level = INVALID_LEVEL ∨ deltaThreshold ≤ delta then
      let s := { s with valueLevel := s.valueLevel.set (BitVec.ofInt 16 val) }
      return s.reschedule work
    else return s.reschedule work

/-! ## What the settings ask for -/

/-- Values of the two settings. -/
structure LuxSettings where
  readIntervalSec : BitVec 16
  changeThreshold : BitVec 16
  one_le : 1 ≤ changeThreshold.toNat

/-- The state after `ztacx_lux_init` has found the sensor. -/
def bootLux (settings : LuxSettings) : LuxState where
  luxDev := true
  valueOk := .entry "lux_ok" (by decide) true
  valueLevel := .entry "lux_level" (by decide) 65535
  luxSettings
    | 0 => .entry "lux_read_interval_sec" (by decide) settings.readIntervalSec
    | 1 => .entry "lux_change_threshold" (by decide) settings.changeThreshold
  rescheduled := none

/-- A successful read, by the work item or by the shell. -/
def luxStep (arith : IntReading) (s : LuxState) (read : Bool × ℤ) : Option LuxState :=
  luxRead arith s read.1 0 read.2

/-- A reading that is not the sentinel. -/
def IsLux (val : ℤ) : Prop := 0 ≤ val ∧ val < INVALID_LEVEL

instance decidableIsLux (val : ℤ) : Decidable (IsLux val) :=
  inferInstanceAs (Decidable (0 ≤ val ∧ val < INVALID_LEVEL))

/-- **The level follows the light**: after any reads it is the latest reading, or less than
the threshold away from it. -/
def FollowsLight (arith : IntReading) (settings : LuxSettings) : Prop :=
  ∀ reads work val, (∀ r ∈ reads, IsLux r.2) → IsLux val →
    ∃ s, run (luxStep arith) (bootLux settings) (reads ++ [(work, val)]) = some s ∧
      (s.level = val ∨ |val - s.level| < settings.changeThreshold.toNat)

/-! ## What the code does -/

/-- The state stands for the readings that were accepted, latest first. -/
structure Follows (settings : LuxSettings) (s : LuxState) (accepted : List ℤ) : Prop where
  ready : s.luxDev = true ∧ s.valueOk.get = true
  threshold : (s.luxSettings SETTING_CHANGE_THRESHOLD).get = settings.readIntervalSec
  lux : ∀ a ∈ accepted, IsLux a
  level : s.level = accepted.head?.getD INVALID_LEVEL

section Read

variable {arith : IntReading} {settings : LuxSettings} {s : LuxState} {accepted : List ℤ} {val : ℤ}

theorem bootLux_follows (settings : LuxSettings) : Follows settings (bootLux settings) [] where
  ready := ⟨rfl, rfl⟩
  threshold := Uint16Variable.get_set ..
  lux := fun _ mem => absurd mem List.not_mem_nil
  level := rfl

theorem Follows.reschedule (h : Follows settings s accepted) (work : Bool) :
    Follows settings (s.reschedule work) accepted := by
  unfold LuxState.reschedule
  split
  · exact ⟨h.ready, h.threshold, h.lux, h.level⟩
  · exact h

/-- The level after it has been set. -/
theorem toNat_ofInt_of_isLux (lux : IsLux val) : ((BitVec.ofInt 16 val).toNat : ℤ) = val := by
  unfold IsLux INVALID_LEVEL at lux
  rw [BitVec.toNat_ofInt]
  omega

theorem Follows.accept (h : Follows settings s accepted) (lux : IsLux val) :
    Follows settings { s with valueLevel := s.valueLevel.set (BitVec.ofInt 16 val) }
      (val :: accepted) where
  ready := h.ready
  threshold := h.threshold
  lux := List.forall_mem_cons.mpr ⟨lux, h.lux⟩
  level := by
    show (((s.valueLevel.set (BitVec.ofInt 16 val)).get.toNat : ℕ) : ℤ) = val
    rw [Uint16Variable.get_set, toNat_ofInt_of_isLux lux]

open Hysteresis in
/-- **One read is one step of the filter**, with the interval as its threshold. -/
theorem Follows.luxRead (h : Follows settings s accepted) (arith : IntReading) (lux : IsLux val)
    (work : Bool) :
    ∃ s', Lux.luxRead arith s work 0 val = some s' ∧
      Follows settings s' (track (settings.readIntervalSec.toNat : ℤ) accepted val) := by
  have level := s.valueLevel.get.isLt
  have fits : IsInt (val - s.level) ∧ IsInt |val - s.level| := by
    have apart : |val - s.level| ≤ 70000 := by
      unfold IsLux INVALID_LEVEL at lux
      unfold LuxState.level
      rw [abs_le]
      omega
    have bounds := abs_le.mp apart
    have := abs_nonneg (val - s.level)
    unfold IsInt INT_MIN INT_MAX
    omega
  have ready : ¬ (!s.luxDev || !s.valueOk.get) = true := by
    rw [h.ready.1, h.ready.2]
    decide
  unfold Lux.luxRead
  rw [if_neg ready, if_neg (by decide)]
  simp only [arith.exact _ fits.1, arith.exact _ fits.2, Option.bind_eq_bind, Option.bind_some,
    h.threshold]
  unfold track
  cases accepted with
  | nil =>
      have first : s.level = INVALID_LEVEL := h.level
      rw [if_pos (.inl first), if_pos (accepts_nil _ _)]
      exact ⟨_, rfl, (h.accept lux).reschedule work⟩
  | cons l accepted =>
      have same : s.level = l := h.level
      have valid : s.level ≠ INVALID_LEVEL := by
        rw [same]
        exact (h.lux l List.mem_cons_self).2.ne
      simp only [accepts_cons, same ▸ valid, same, false_or]
      split
      · exact ⟨_, rfl, (h.accept lux).reschedule work⟩
      · exact ⟨_, rfl, h.reschedule work⟩

open Hysteresis in
/-- A run of reads is a run of the filter. -/
theorem run_luxStep (arith : IntReading) (h : Follows settings s accepted)
    {reads : List (Bool × ℤ)} (lux : ∀ r ∈ reads, IsLux r.2) :
    ∃ s', run (luxStep arith) s reads = some s' ∧ Follows settings s'
      ((reads.map Prod.snd).foldl (track (settings.readIntervalSec.toNat : ℤ)) accepted) := by
  rw [List.foldl_map]
  refine run_simulates (fun {s accepted r} follows here => ?_) h lux
  exact follows.luxRead arith here r.1

end Read

open Hysteresis in
/-- **When the level follows the light**: the interval between two reads, as a number of
seconds, is at most the change threshold. -/
theorem followsLight_iff (arith : IntReading) (settings : LuxSettings) :
    FollowsLight arith settings ↔
      settings.readIntervalSec.toNat ≤ settings.changeThreshold.toNat := by
  constructor
  · intro follows
    by_contra greater
    -- a dark reading, and one that is exactly the threshold above it
    have interval := settings.readIntervalSec.isLt
    have lux : IsLux settings.changeThreshold.toNat := by
      unfold IsLux INVALID_LEVEL
      omega
    obtain ⟨s, ran, near⟩ := follows [(true, 0)] true settings.changeThreshold.toNat
      (by decide) lux
    have all : ∀ r ∈ [(true, 0), (true, (settings.changeThreshold.toNat : ℤ))], IsLux r.2 :=
      List.forall_mem_cons.mpr ⟨by decide, List.forall_mem_singleton.mpr lux⟩
    obtain ⟨s', ran', tracked⟩ := run_luxStep arith (bootLux_follows settings) all
    cases ran.symm.trans ran'
    have ignored : ¬ Accepts (settings.readIntervalSec.toNat : ℤ) [0]
        (settings.changeThreshold.toNat : ℤ) := by
      rw [accepts_cons, sub_zero, Nat.abs_cast]
      omega
    have level : s.level = 0 := by
      have level := tracked.level
      simp only [List.map_cons, List.map_nil, List.foldl_cons, List.foldl_nil] at level
      rw [track, track, if_pos (accepts_nil _ _), if_neg ignored] at level
      exact level
    have positive := settings.one_le
    rw [level, sub_zero, Nat.abs_cast] at near
    omega
  · intro le reads work val lux luxVal
    have all : ∀ r ∈ reads ++ [(work, val)], IsLux r.2 :=
      List.forall_mem_append.mpr ⟨lux, List.forall_mem_singleton.mpr luxVal⟩
    obtain ⟨s, ran, tracked⟩ := run_luxStep arith (bootLux_follows settings) all
    refine ⟨s, ran, ?_⟩
    have level := tracked.level
    rw [List.map_append, List.foldl_append] at level
    obtain ⟨l, latest, near⟩ := near_track (settings.readIntervalSec.toNat : ℤ)
      ((reads.map Prod.snd).foldl (track (settings.readIntervalSec.toNat : ℤ)) []) val
    have level : s.level = l := level.trans (congrArg (Option.getD · INVALID_LEVEL) latest)
    rw [level]
    exact near.imp_right fun small => small.trans_le (Int.ofNat_le.mpr le)

/-- `lux_settings` as it is compiled in. -/
def defaultSettings : LuxSettings := ⟨12, 1, le_rfl⟩

/-- **By default**, a reading of ten after a reading of nothing is ignored. -/
theorem defaultSettings_not_followsLight :
    (∃ s, run (luxStep .traps) (bootLux defaultSettings) [(true, 0), (true, 10)] = some s ∧
      s.level = 0) ∧ ¬ FollowsLight .traps defaultSettings := by
  have reached : ∃ s, run (luxStep .traps) (bootLux defaultSettings) [(true, 0), (true, 10)] =
      some s ∧ s.level = 0 := ⟨_, rfl, rfl⟩
  refine ⟨reached, fun follows => ?_⟩
  obtain ⟨s, ran, level⟩ := reached
  obtain ⟨s', ran', near⟩ := follows [(true, 0)] true 10 (by decide) (by decide)
  cases ran.symm.trans ran'
  rw [level] at near
  exact absurd near (by decide)

end Ztacx.Lux
