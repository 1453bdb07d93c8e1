import Mathlib.Data.Nat.Sqrt
import Ztacx.CModel.Hysteresis
import Ztacx.CModel.IntArith
import Ztacx.CModel.Run
import Ztacx.Variable

/-!
# Motion sensing

`src/ztacx_ims.c` keeps a level and a peak for each axis of the accelerometer and
for the magnitude.  `update_variable_peak` is a hysteresis filter in front of a
level, and the peak follows the samples that pass.

The state of a pair is the history of its accepted samples: the level is the latest
of them and the peak the greatest in absolute value (`PeakPair.Follows`), both
`INVALID_LEVEL` while there is none.  One update is one step of the filter in every
reading of `int` arithmetic, as long as its differences are `int`s
(`Follows.update`).  The exception is the first sample, whose difference to
`INVALID_LEVEL` is computed and not used.
-/

namespace Ztacx.Ims

open CModel

def INVALID_LEVEL : ℤ := INT_MAX

/-- A level variable and its peak variable. -/
structure PeakPair where
  v : Int32Variable
  peakV : Int32Variable

namespace PeakPair

def level (p : PeakPair) : ℤ := p.v.get.toInt

def peak (p : PeakPair) : ℤ := p.peakV.get.toInt

end PeakPair

/-- `update_variable_peak`. -/
def updateVariablePeak (arith : IntReading) (p : PeakPair) (level changeThreshold : ℤ) :
    Option (PeakPair × Bool) := do
  let prev := p.level
  let difference ← arith.result (level - prev)
  let change ← arith.result |difference|
  -- `significant_change` asks for `!first_reading`, which the disjunction absorbs
  if prev = INVALID_LEVEL ∨ changeThreshold ≤ change then
    let v := p.v.set (BitVec.ofInt 32 level)
    let magnitude ← arith.result |level|
    if p.peak = INVALID_LEVEL ∨ p.peak < magnitude then
      return (⟨v, p.peakV.set (BitVec.ofInt 32 magnitude)⟩, true)
    else return (⟨v, p.peakV⟩, true)
  else return (p, false)

/-! ## One update -/

/-- The bound up to which the difference of two samples is an `int`. -/
def Small (x : ℤ) : Prop := |x| ≤ 10 ^ 9

instance decidableSmall (x : ℤ) : Decidable (Small x) := inferInstanceAs (Decidable (|x| ≤ 10 ^ 9))

section Small

variable {x y : ℤ}

theorem Small.isInt_abs (small : Small x) : IsInt |x| := by
  unfold Small at small
  have := abs_nonneg x
  unfold IsInt INT_MIN INT_MAX
  omega

theorem Small.isInt (small : Small x) : IsInt x := by
  unfold Small at small
  rw [abs_le] at small
  unfold IsInt INT_MIN INT_MAX
  omega

theorem Small.isInt_abs_sub (small : Small x) (small' : Small y) :
    IsInt (x - y) ∧ IsInt |x - y| := by
  unfold Small at small small'
  have apart : |x - y| ≤ 2 * 10 ^ 9 := (abs_sub x y).trans (by omega)
  have := abs_nonneg (x - y)
  have := abs_le.mp apart
  unfold IsInt INT_MIN INT_MAX
  omega

theorem Small.ne_invalid (small : Small x) : x ≠ INVALID_LEVEL := by
  rintro rfl
  norm_num [Small, INVALID_LEVEL, INT_MAX] at small

end Small

namespace PeakPair

/-- The pair stands for the samples that were accepted, latest first. -/
structure Follows (p : PeakPair) (accepted : List ℤ) : Prop where
  small : ∀ a ∈ accepted, Small a
  level : p.level = accepted.head?.getD INVALID_LEVEL
  peak : if accepted = [] then p.peak = INVALID_LEVEL
    else IsGreatest {m | ∃ a ∈ accepted, m = |a|} p.peak

variable {arith : IntReading} {p : PeakPair} {accepted : List ℤ} {x : ℤ}

/-- The pair once a sample has been accepted. -/
def accept (p : PeakPair) (x : ℤ) : PeakPair where
  v := p.v.set (BitVec.ofInt 32 x)
  peakV :=
    if p.peak = INVALID_LEVEL ∨ p.peak < |x| then p.peakV.set (BitVec.ofInt 32 |x|) else p.peakV

theorem level_accept (p : PeakPair) (small : Small x) : (p.accept x).level = x := by
  unfold level accept
  rw [Int32Variable.get_set, toInt_ofInt_of_isInt small.isInt]

theorem peak_accept (p : PeakPair) (small : Small x) :
    (p.accept x).peak =
      if p.peak = INVALID_LEVEL ∨ p.peak < |x| then |x| else p.peak := by
  show (accept p x).peakV.get.toInt = _
  unfold accept
  split
  · rw [Int32Variable.get_set, toInt_ofInt_of_isInt small.isInt_abs]
  · rfl

/-- An accepted sample becomes the level, and the peak if it is greater. -/
theorem Follows.accept (h : p.Follows accepted) (small : Small x) :
    (p.accept x).Follows (x :: accepted) where
  small := List.forall_mem_cons.mpr ⟨small, h.small⟩
  level := level_accept p small
  peak := by
    rw [if_neg (List.cons_ne_nil x accepted), peak_accept p small]
    have peak := h.peak
    by_cases none : accepted = []
    · rw [if_pos none] at peak
      rw [if_pos (.inl peak), none]
      exact ⟨⟨x, by simp, rfl⟩, by rintro m ⟨a, mem, rfl⟩; rw [List.mem_singleton.mp mem]⟩
    · rw [if_neg none] at peak
      obtain ⟨⟨top, mem, same⟩, above⟩ := peak
      have valid : p.peak ≠ INVALID_LEVEL := by
        rw [same]
        exact Small.ne_invalid (by rw [Small, abs_abs]; exact h.small top mem)
      by_cases greater : p.peak < |x|
      · rw [if_pos (.inr greater)]
        refine ⟨⟨x, List.mem_cons_self, rfl⟩, ?_⟩
        rintro m ⟨a, mem, rfl⟩
        obtain rfl | old := List.mem_cons.mp mem
        · exact le_rfl
        · exact (above ⟨a, old, rfl⟩).trans greater.le
      · rw [if_neg (not_or.mpr ⟨valid, greater⟩)]
        refine ⟨⟨top, List.mem_cons_of_mem x mem, same⟩, ?_⟩
        rintro m ⟨a, mem, rfl⟩
        obtain rfl | old := List.mem_cons.mp mem
        · exact not_lt.mp greater
        · exact above ⟨a, old, rfl⟩

/-- `update_variable_peak` on a small sample, but for its two differences. -/
theorem updateVariablePeak_eq (p : PeakPair) (small : Small x) (t : ℤ) :
    updateVariablePeak arith p x t =
      (arith.result (x - p.level)).bind fun difference =>
        (arith.result |difference|).map fun change =>
          if p.level = INVALID_LEVEL ∨ t ≤ change then (p.accept x, true) else (p, false) := by
  unfold updateVariablePeak PeakPair.accept
  dsimp only
  simp only [arith.exact _ small.isInt_abs, Option.bind_eq_bind, Option.bind_some,
    Option.map_eq_bind]
  refine congrArg (Option.bind _) (funext fun difference => ?_)
  refine congrArg (Option.bind _) (funext fun change => ?_)
  dsimp only [Function.comp]
  split
  · split <;> rfl
  · rfl

open Hysteresis in
/-- **One update is one step of the filter.** -/
theorem Follows.update (h : p.Follows accepted) (arith : IntReading) (small : Small x) (t : ℤ)
    (first : accepted = [] → ∃ d c, arith.result (x - INVALID_LEVEL) = some d ∧
      arith.result |d| = some c) :
    ∃ p', updateVariablePeak arith p x t = some (p', decide (Accepts t accepted x)) ∧
      p'.Follows (track t accepted x) := by
  rw [updateVariablePeak_eq p small]
  cases accepted with
  | nil =>
      have level : p.level = INVALID_LEVEL := h.level
      obtain ⟨d, c, difference, change⟩ := first rfl
      refine ⟨p.accept x, ?_, h.accept small⟩
      rw [level, difference, Option.bind_some, change, Option.map_some, if_pos (.inl rfl)]
      rfl
  | cons l accepted =>
      have level : p.level = l := h.level
      have smallLevel := h.small l List.mem_cons_self
      obtain ⟨fits, fitsAbs⟩ := small.isInt_abs_sub smallLevel
      have valid : p.level ≠ INVALID_LEVEL := level ▸ Small.ne_invalid smallLevel
      rw [level, arith.exact _ fits, Option.bind_some, arith.exact _ fitsAbs, Option.map_some]
      by_cases accepts : t ≤ |x - l|
      · have accepts' : Accepts t (l :: accepted) x := (accepts_cons ..).mpr accepts
        rw [if_pos (.inr accepts), track, if_pos accepts', decide_eq_true accepts']
        exact ⟨_, rfl, h.accept small⟩
      · have ignores : ¬ Accepts t (l :: accepted) x := mt (accepts_cons ..).mp accepts
        rw [if_neg (not_or.mpr ⟨level ▸ valid, accepts⟩), track, if_neg ignores,
          decide_eq_false ignores]
        exact ⟨_, rfl, h⟩

end PeakPair

/-! ## Peak tracking -/

/-- One sample fed to a pair, with the record of the samples it has accepted so far. -/
def peakStep (arith : IntReading) (changeThreshold : ℤ) (s : PeakPair × List ℤ) (level : ℤ) :
    Option (PeakPair × List ℤ) :=
  (updateVariablePeak arith s.1 level changeThreshold).map fun r =>
    (r.1, if r.2 then level :: s.2 else s.2)

/-- **What a pair says about the samples so far**: the level is the latest accepted
one, equal or near to the latest; the peak is the greatest of the accepted ones in
absolute value, and no sample is far above it. -/
structure PeakTracked (t : ℤ) (seen : List ℤ) (s : PeakPair × List ℤ) : Prop where
  level : ∀ x ∈ seen.getLast?, s.2.head? = some s.1.level ∧
    (s.1.level = x ∨ |x - s.1.level| < t)
  peak : seen ≠ [] → IsGreatest {m | ∃ a ∈ s.2, m = |a|} s.1.peak
  above : ∀ x ∈ seen, |x| < s.1.peak + t

/-- The initialisers of a level and its peak. -/
structure PeakPair.Fresh (p : PeakPair) : Prop where
  level : p.level = INVALID_LEVEL
  peak : p.peak = INVALID_LEVEL

theorem PeakPair.Fresh.follows {p : PeakPair} (fresh : p.Fresh) : p.Follows [] where
  small := fun _ mem => absurd mem List.not_mem_nil
  level := fresh.level
  peak := fresh.peak

/-- The state of a run has recorded what the filter has accepted. -/
def Records (s : PeakPair × List ℤ) (accepted : List ℤ) : Prop :=
  s.2 = accepted ∧ s.1.Follows accepted

open Hysteresis in
theorem Records.peakStep {s : PeakPair × List ℤ} {accepted : List ℤ} {x : ℤ}
    (records : Records s accepted) (small : Small x) (t : ℤ) :
    ∃ s', Ims.peakStep .wraps t s x = some s' ∧ Records s' (track t accepted x) := by
  obtain ⟨p, recorded⟩ := s
  obtain ⟨rfl, follows⟩ := records
  obtain ⟨p', updated, follows'⟩ := follows.update .wraps small t fun _ => ⟨_, _, rfl, rfl⟩
  refine ⟨(p', track t recorded x), ?_, rfl, follows'⟩
  rw [Ims.peakStep, updated, Option.map_some, track]
  simp only [decide_eq_true_eq]

open Hysteresis in
/-- A run over samples is a run of the filter. -/
theorem run_peakStep (t : ℤ) {xs : List ℤ} (small : ∀ x ∈ xs, Small x) {p : PeakPair}
    {accepted : List ℤ} (follows : p.Follows accepted) :
    ∃ p', run (peakStep .wraps t) (p, accepted) xs = some (p', xs.foldl (track t) accepted) ∧
      p'.Follows (xs.foldl (track t) accepted) := by
  have records : Records (p, accepted) accepted := ⟨rfl, follows⟩
  obtain ⟨⟨p', _⟩, reached, rfl, follows'⟩ :=
    run_simulates (fun records small => records.peakStep small t) records small
  exact ⟨p', reached, follows'⟩

open Hysteresis in
/-- **Peak tracking.** -/
theorem peakTracked_of_run {t : ℤ} (one_le : 1 ≤ t) {p : PeakPair} (fresh : p.Fresh)
    {xs : List ℤ} (small : ∀ x ∈ xs, Small x) :
    ∃ s, run (peakStep .wraps t) (p, []) xs = some s ∧ PeakTracked t xs s := by
  obtain ⟨p', ran, follows⟩ := run_peakStep t small fresh.follows
  refine ⟨_, ran, ?_, ?_, ?_⟩
  · intro x last
    obtain ⟨front, rfl⟩ := List.getLast?_eq_some_iff.mp last
    obtain ⟨l, latest, near⟩ := near_track t (front.foldl (track t) []) x
    have level := follows.level
    rw [List.foldl_append, List.foldl_cons, List.foldl_nil] at level ⊢
    rw [latest, Option.getD_some] at level
    rw [latest, level]
    exact ⟨rfl, near⟩
  · intro seen
    have peak := follows.peak
    rwa [if_neg] at peak
    obtain ⟨x, mem⟩ := List.exists_mem_of_ne_nil xs seen
    obtain ⟨a, accepted, -⟩ := abs_lt_of_mem (show 0 < t by omega) mem
    exact List.ne_nil_of_mem accepted
  · intro x mem
    obtain ⟨a, accepted, near⟩ := abs_lt_of_mem (show 0 < t by omega) mem
    have peak := follows.peak
    rw [if_neg (List.ne_nil_of_mem accepted)] at peak
    have top := peak.2 ⟨a, accepted, rfl⟩
    show |x| < p'.peak + t
    omega

/-- `ims_values[VALUE_LEVEL_X]` and `ims_values[VALUE_PEAK_X]`. -/
def pairX : PeakPair where
  v := Int32Variable.entry "ims_level_x" (by decide) 0x7FFFFFFF
  peakV := Int32Variable.entry "ims_peak_x" (by decide) 0x7FFFFFFF

/-- A small movement after a large one. -/
theorem peakTracked_pairX :
    ∃ s, run (peakStep .wraps 10) (pairX, []) [300, -20, -25] = some s ∧
      PeakTracked 10 [300, -20, -25] s :=
  peakTracked_of_run (by decide) ⟨rfl, rfl⟩ (by decide)

end Ztacx.Ims
