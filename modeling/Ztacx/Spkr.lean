import Ztacx.CModel.Decimal
import Ztacx.CModel.Run

/-!
# The speaker

`cmd_test_spkr`, `spkr_beep` and `spkr_tone` of `src/ztacx_spkr.c`.  The speaker plays a
square wave: it asks the PWM for a period of one million over the frequency, and for an
on-time of at most half of that, by volume.

The volume is clamped to 0..100 where it is set.  The frequency is not, and a tone of
frequency 0 is played at the frequency that was set last, which can be 0 itself.  So the
requests are sound exactly as long as nothing is played at a frequency outside
1..1000000 (`requestsSound_iff`).
-/

namespace Ztacx.Spkr

open CModel

/-! ## The code -/

/-- The arguments of `pwm_pin_set_usec` that are not fixed. -/
structure PwmRequest where
  period : BitVec 32
  onTime : BitVec 32
deriving DecidableEq, Repr

/-- `spkr_freq`, `spkr_duration` and `spkr_vol`, the requests so far, the delay of the last
`spkroff`, what was saved as `app/spkr_vol`, and the lines that were printed. -/
structure SpkrState where
  spkrFreq : BitVec 32
  spkrDuration : BitVec 32
  spkrVol : BitVec 32
  requests : List PwmRequest
  spkroff : Option (BitVec 32)
  saved : Option (BitVec 32)
  shown : List CString
deriving DecidableEq, Repr

def initialSpkr : SpkrState where
  spkrFreq := 440
  spkrDuration := 250
  spkrVol := 100
  requests := []
  spkroff := none
  saved := none
  shown := []

section Code

-- whether the devicetree has a speaker, which defines `PWM_CHANNEL`
variable (pwmChannel : Bool)

/-- `uint32_t period = 1000000/freq`, a quotient of `int`. -/
def periodOf (freq : BitVec 32) : BitVec 32 := BitVec.ofInt 32 (Int.tdiv 1000000 freq.toInt)

/-- What `spkr_beep` and `spkr_tone` have in common.  A frequency of 0 has no
period, and the product is one of `uint32_t`. -/
def SpkrState.play (s : SpkrState) (freq duration : BitVec 32) : Option SpkrState :=
  if s.spkrVol = 0 then some s
  else if !pwmChannel then some s
  else if freq = 0 then none
  else
    let period := periodOf freq
    let period2 := period * s.spkrVol / 200
    some { s with
      requests := s.requests ++ [⟨period, period2⟩]
      spkroff := some duration }

/-- `spkr_beep`. -/
def spkrBeep (s : SpkrState) : Option SpkrState := s.play pwmChannel s.spkrFreq s.spkrDuration

/-- The frequency of `spkr_tone`. -/
def SpkrState.toneFreq (s : SpkrState) (freq : BitVec 32) : BitVec 32 :=
  if freq = 0 then s.spkrFreq else freq

/-- `spkr_tone`. -/
def spkrTone (s : SpkrState) (freq durationMs : BitVec 32) : Option SpkrState :=
  s.play pwmChannel (s.toneFreq freq) (if durationMs = 0 then s.spkrDuration else durationMs)

/-- An invocation: the arguments behind the command's name, and, for its `gpio` branch, the
return code of `gpio_pin_configure` if there is a device `gpio1`. -/
structure SpkrCommand where
  args : List CString
  gpio1 : Option ℤ
deriving DecidableEq, Repr

namespace SpkrCommand

def argc (cmd : SpkrCommand) : ℕ := cmd.args.length + 1

/-- `(argc > 1) && (strcmp(argv[1], word)==0)`. -/
def subcommand (cmd : SpkrCommand) (word : String) : Bool :=
  cmd.args.head? = some (.ofString word)

/-- `atoi(argv[i])`, and the 0 that `f` and `d` start with where there is no `argv[i]`. -/
def number (overflow : CString → BitVec 32) (cmd : SpkrCommand) (i : ℕ) : BitVec 32 :=
  cmd.args[i - 1]?.elim 0 (atoi overflow)

end SpkrCommand

/-- `spkr_vol` after it has been set. -/
def clampVol (vol : BitVec 32) : BitVec 32 :=
  let vol := if 100 < vol.toInt then 100 else vol
  if vol.toInt < 0 then 0 else vol

/-- The last part of `cmd_test_spkr`. -/
def volCommand (overflow : CString → BitVec 32) (s : SpkrState) (cmd : SpkrCommand) :
    SpkrState × ℤ :=
  if cmd.subcommand "vol" then
    let s :=
      if 2 < cmd.argc then
        let vol := clampVol (cmd.number overflow 2)
        { s with spkrVol := vol, saved := some vol }
      else s
    let line := (CString.ofString "speaker volume is ").append (decimalText s.spkrVol.toInt)
    ({ s with shown := s.shown ++ [line] }, 0)
  else (s, 0)

/-- `cmd_test_spkr`.  What `setup` does leaves the three numbers and the PWM alone. -/
def cmdTestSpkr (overflow : CString → BitVec 32) (s : SpkrState) (cmd : SpkrCommand) :
    Option (SpkrState × ℤ) :=
  if 2 < cmd.argc ∧ cmd.subcommand "freq" then
    some (volCommand overflow { s with spkrFreq := cmd.number overflow 2 } cmd)
  else if 2 < cmd.argc ∧ cmd.subcommand "duration" then
    some (volCommand overflow { s with spkrDuration := cmd.number overflow 2 } cmd)
  else if cmd.argc = 1 ∨ cmd.subcommand "beep" then
    (spkrBeep pwmChannel s).map (volCommand overflow · cmd)
  else if cmd.argc = 1 ∨ cmd.subcommand "gpio" then
    match cmd.gpio1 with
    | none => some (s, -1)
    | some ret => if ret < 0 then some (s, -1) else some (volCommand overflow s cmd)
  else if cmd.subcommand "tone" then
    (spkrTone pwmChannel s (cmd.number overflow 2) (cmd.number overflow 3)).map
      (volCommand overflow · cmd)
  else some (volCommand overflow s cmd)

/-- The invocation as a step. -/
def spkrStep (overflow : CString → BitVec 32) (s : SpkrState) (cmd : SpkrCommand) :
    Option SpkrState :=
  (cmdTestSpkr pwmChannel overflow s cmd).map Prod.fst

/-! ## What is asked of the PWM -/

/-- A period of 1 to 1000000 microseconds, and on for at most half of it. -/
def PwmRequest.Sound (r : PwmRequest) : Prop :=
  1 ≤ r.period.toNat ∧ r.period.toNat ≤ 1000000 ∧ 2 * r.onTime.toNat ≤ r.period.toNat

instance decidableSound (r : PwmRequest) : Decidable r.Sound :=
  inferInstanceAs (Decidable (_ ∧ _ ∧ _))

/-- Every request so far is sound. -/
def RequestsSound (s : SpkrState) : Prop := ∀ r ∈ s.requests, r.Sound

instance decidableRequestsSound (s : SpkrState) : Decidable (RequestsSound s) :=
  inferInstanceAs (Decidable (∀ r ∈ s.requests, r.Sound))

/-- The frequency at which an invocation plays something, if it does. -/
def SpkrState.playedFreq (overflow : CString → BitVec 32) (s : SpkrState) (cmd : SpkrCommand) :
    Option (BitVec 32) :=
  if cmd.argc = 1 ∨ cmd.subcommand "beep" then some s.spkrFreq
  else if cmd.subcommand "tone" then some (s.toneFreq (cmd.number overflow 2))
  else none

/-- A speaker that is there and not mute plays at a frequency of 1 to 1000000. -/
def InRange (overflow : CString → BitVec 32) (s : SpkrState) (cmd : SpkrCommand) : Prop :=
  pwmChannel = true → s.spkrVol ≠ 0 → ∀ freq ∈ s.playedFreq overflow cmd,
    1 ≤ freq.toInt ∧ freq.toInt ≤ 1000000

end Code

/-! ## What the code does -/

/-- The speaker of a run: its requests are sound and its volume is a percentage. -/
structure Tuned (s : SpkrState) : Prop where
  sound : RequestsSound s
  vol : 0 ≤ s.spkrVol.toInt ∧ s.spkrVol.toInt ≤ 100

section Play

variable {pwmChannel : Bool} {s s' : SpkrState} {freq duration : BitVec 32}

/-- The period of a frequency in range. -/
theorem periodOf_inRange (range : 1 ≤ freq.toInt ∧ freq.toInt ≤ 1000000) :
    1 ≤ (periodOf freq).toNat ∧ (periodOf freq).toNat ≤ 1000000 := by
  obtain ⟨f, same⟩ := Int.eq_ofNat_of_zero_le (le_trans (by decide) range.1)
  rw [same] at range
  have quotient : Int.tdiv 1000000 freq.toInt = (1000000 / f : ℕ) := by
    rw [same]
    rfl
  have positive : 1 ≤ 1000000 / f := Nat.div_pos (by omega) (by omega)
  have small : 1000000 / f ≤ 1000000 := Nat.div_le_self ..
  rw [periodOf, quotient, BitVec.ofInt_natCast, BitVec.toNat_ofNat]
  omega

/-- The period of any other frequency. -/
theorem periodOf_not_inRange (other : ¬ (1 ≤ freq.toInt ∧ freq.toInt ≤ 1000000))
    (divides : freq ≠ 0) :
    ¬ (1 ≤ (periodOf freq).toNat ∧ (periodOf freq).toNat ≤ 1000000) := by
  have divides : freq.toInt ≠ 0 := fun zero => divides (BitVec.eq_of_toInt_eq zero)
  unfold periodOf
  rcases lt_or_gt_of_ne divides with negative | positive
  · -- the quotient is zero, or it is negative and converted to more than 2^31
    have upper : Int.tdiv 1000000 freq.toInt ≤ 0 :=
      Int.tdiv_nonpos_of_nonneg_of_nonpos (by decide) negative.le
    have lower : -1000000 ≤ Int.tdiv 1000000 freq.toInt := by
      have := Int.natAbs_tdiv_le_natAbs 1000000 freq.toInt
      omega
    rw [BitVec.toNat_ofInt]
    omega
  · have zero : Int.tdiv 1000000 freq.toInt = 0 :=
      Int.tdiv_eq_zero_of_lt (by decide) (by omega)
    rw [zero]
    decide

/-- The on-time of a percentage. -/
theorem two_mul_onTime_le {period vol : BitVec 32} (small : period.toNat ≤ 1000000)
    (percentage : 0 ≤ vol.toInt ∧ vol.toInt ≤ 100) :
    2 * (period * vol / 200).toNat ≤ period.toNat := by
  have unsigned : vol.toNat ≤ 100 := by
    have := BitVec.toInt_eq_toNat_cond vol
    have := vol.isLt
    split at * <;> omega
  have bound : period.toNat * vol.toNat ≤ period.toNat * 100 := Nat.mul_le_mul_left _ unsigned
  rw [BitVec.toNat_udiv, BitVec.toNat_mul, Nat.mod_eq_of_lt (by omega)]
  show 2 * (period.toNat * vol.toNat / 200) ≤ period.toNat
  omega

/-- Playing keeps the requests sound, unless it is at a frequency out of range. -/
theorem Tuned.play (h : Tuned s) (duration : BitVec 32)
    (range : pwmChannel = true → s.spkrVol ≠ 0 → 1 ≤ freq.toInt ∧ freq.toInt ≤ 1000000) :
    ∃ s', s.play pwmChannel freq duration = some s' ∧ Tuned s' := by
  unfold SpkrState.play
  by_cases mute : s.spkrVol = 0
  · exact ⟨s, if_pos mute, h⟩
  rw [if_neg mute]
  cases pwmChannel with
  | false => exact ⟨s, rfl, h⟩
  | true =>
      have range := range rfl mute
      have divides : freq ≠ 0 := by
        rintro rfl
        exact absurd range.1 (by decide)
      have period := periodOf_inRange range
      rw [if_neg (by decide), if_neg divides]
      refine ⟨_, rfl, List.forall_mem_append.mpr ⟨h.sound, List.forall_mem_singleton.mpr ?_⟩,
        h.vol⟩
      exact ⟨period.1, period.2, two_mul_onTime_le period.2 h.vol⟩

/-- What is played at a frequency out of range is not sound. -/
theorem not_requestsSound_of_play (mute : s.spkrVol ≠ 0)
    (other : ¬ (1 ≤ freq.toInt ∧ freq.toInt ≤ 1000000))
    (played : s.play true freq duration = some s') : ¬ RequestsSound s' := by
  unfold SpkrState.play at played
  rw [if_neg mute, if_neg (by decide)] at played
  split at played
  · cases played
  · cases played
    rename_i divides
    intro sound
    have last := sound _ (List.mem_append_right _ (List.mem_singleton_self _))
    exact periodOf_not_inRange other divides ⟨last.1, last.2.1⟩

end Play

section Commands

variable {pwmChannel : Bool} (overflow : CString → BitVec 32) {s s' : SpkrState}
  {cmd : SpkrCommand}

theorem clampVol_inRange (vol : BitVec 32) :
    0 ≤ (clampVol vol).toInt ∧ (clampVol vol).toInt ≤ 100 := by
  have percentage : ∀ vol : BitVec 32, vol.toInt ≤ 100 →
      0 ≤ (if vol.toInt < 0 then (0 : BitVec 32) else vol).toInt ∧
        (if vol.toInt < 0 then (0 : BitVec 32) else vol).toInt ≤ 100 := by
    intro vol small
    split
    · decide
    · exact ⟨not_lt.mp ‹_›, small⟩
  unfold clampVol
  split
  · decide
  · exact percentage vol (not_lt.mp ‹_›)

/-- The last part of an invocation makes no request and schedules nothing, and leaves the
volume a percentage. -/
theorem volCommand_spec (s : SpkrState) (cmd : SpkrCommand) :
    (volCommand overflow s cmd).1.requests = s.requests ∧
      (volCommand overflow s cmd).1.spkroff = s.spkroff ∧
      (Tuned s → Tuned (volCommand overflow s cmd).1) := by
  unfold volCommand
  split
  · split
    · exact ⟨rfl, rfl, fun h => ⟨h.sound, clampVol_inRange _⟩⟩
    · exact ⟨rfl, rfl, fun h => ⟨h.sound, h.vol⟩⟩
  · exact ⟨rfl, rfl, id⟩

/-- A subcommand of another name plays nothing. -/
theorem playedFreq_eq_none {word : String} (sub : cmd.subcommand word = true)
    (other : CString.ofString word ≠ .ofString "beep" ∧ CString.ofString word ≠ .ofString "tone") :
    s.playedFreq overflow cmd = none := by
  have head : cmd.args.head? = some (.ofString word) := of_decide_eq_true sub
  have some : cmd.argc ≠ 1 := by
    intro alone
    rw [List.length_eq_zero_iff.mp (Nat.succ.inj alone)] at head
    cases head
  have beep : cmd.subcommand "beep" = false := by
    rw [SpkrCommand.subcommand, head]
    exact decide_eq_false fun same => other.1 (Option.some.inj same)
  have tone : cmd.subcommand "tone" = false := by
    rw [SpkrCommand.subcommand, head]
    exact decide_eq_false fun same => other.2 (Option.some.inj same)
  simp [SpkrState.playedFreq, some, beep, tone]

/-- **What an invocation does**: it plays something, or it makes no request and schedules
nothing. -/
theorem spkrStep_cases (pwmChannel : Bool) (s : SpkrState) (cmd : SpkrCommand) :
    (∃ freq duration, s.playedFreq overflow cmd = some freq ∧
      spkrStep pwmChannel overflow s cmd =
        (s.play pwmChannel freq duration).map fun s => (volCommand overflow s cmd).1) ∨
      s.playedFreq overflow cmd = none ∧ ∃ s', spkrStep pwmChannel overflow s cmd = some s' ∧
        s'.requests = s.requests ∧ s'.spkroff = s.spkroff ∧ (Tuned s → Tuned s') := by
  have vol (s : SpkrState) := volCommand_spec overflow s cmd
  unfold spkrStep cmdTestSpkr
  by_cases freq : 2 < cmd.argc ∧ cmd.subcommand "freq"
  · rw [if_pos freq]
    refine .inr ⟨playedFreq_eq_none overflow freq.2 (by decide), _, rfl, (vol _).1,
      (vol _).2.1, ?_⟩
    exact fun h => (vol _).2.2 ⟨h.sound, h.vol⟩
  rw [if_neg freq]
  by_cases duration : 2 < cmd.argc ∧ cmd.subcommand "duration"
  · rw [if_pos duration]
    refine .inr ⟨playedFreq_eq_none overflow duration.2 (by decide), _, rfl, (vol _).1,
      (vol _).2.1, ?_⟩
    exact fun h => (vol _).2.2 ⟨h.sound, h.vol⟩
  rw [if_neg duration]
  by_cases beep : cmd.argc = 1 ∨ cmd.subcommand "beep"
  · rw [if_pos beep, Option.map_map]
    exact .inl ⟨_, _, if_pos beep, rfl⟩
  rw [if_neg beep]
  by_cases gpio : cmd.argc = 1 ∨ cmd.subcommand "gpio"
  · rw [if_pos gpio]
    have sub := gpio.resolve_left fun alone => beep (.inl alone)
    refine .inr ⟨playedFreq_eq_none overflow sub (by decide), ?_⟩
    cases cmd.gpio1 with
    | none => exact ⟨s, rfl, rfl, rfl, id⟩
    | some ret =>
        by_cases failed : ret < 0
        · exact ⟨s, congrArg (Option.map Prod.fst) (if_pos failed), rfl, rfl, id⟩
        · exact ⟨_, congrArg (Option.map Prod.fst) (if_neg failed), vol s⟩
  rw [if_neg gpio]
  by_cases tone : cmd.subcommand "tone"
  · rw [if_pos tone, Option.map_map]
    exact .inl ⟨_, _, (if_neg beep).trans (if_pos tone), rfl⟩
  · rw [if_neg tone]
    exact .inr ⟨(if_neg beep).trans (if_neg tone), _, rfl, vol s⟩

/-- **When every request is sound**: nothing is played at a frequency outside 1..1000000. -/
theorem requestsSound_iff (pwmChannel : Bool) (cmds : List SpkrCommand) :
    Safe (spkrStep pwmChannel overflow) RequestsSound initialSpkr cmds ↔
      Meets (spkrStep pwmChannel overflow) (InRange pwmChannel overflow) initialSpkr cmds := by
  refine safe_iff_meets (I := Tuned) (D := fun _ => True) Tuned.sound ?_ ?_
    ⟨List.forall_mem_nil _, by decide⟩ (fun _ _ => trivial)
  · intro s cmd h _ range
    rcases spkrStep_cases overflow pwmChannel s cmd with
      ⟨freq, duration, played, step⟩ | ⟨-, s', step, -, -, keeps⟩
    · obtain ⟨s', plays, tuned⟩ := h.play duration fun speaker loud =>
        range speaker loud freq played
      exact ⟨_, by rw [step, plays]; rfl, (volCommand_spec overflow s' cmd).2.2 tuned⟩
    · exact ⟨s', step, keeps h⟩
  · intro s cmd s' h _ other taken
    simp only [InRange, not_forall] at other
    obtain ⟨speaker, mute, freq, played, range⟩ := other
    rcases spkrStep_cases overflow pwmChannel s cmd with
      ⟨freq', duration, played', step⟩ | ⟨silent, -⟩
    · cases played.symm.trans played'
      rw [step, speaker] at taken
      obtain ⟨s'', plays, rfl⟩ := Option.map_eq_some_iff.mp taken
      intro sound
      rw [RequestsSound, (volCommand_spec overflow s'' cmd).1] at sound
      exact not_requestsSound_of_play mute range plays sound
    · rw [silent] at played
      cases played

end Commands

/-- An invocation with arguments. -/
def spkr (args : List String) : SpkrCommand := ⟨args.map .ofString, none⟩

/-- **A beep at a frequency of 0** divides by it, and one at 2 MHz asks for a period of 0. -/
theorem freq_zero_not_requestsSound :
    run (spkrStep true fun _ => 0) initialSpkr [spkr ["freq", "0"], spkr ["beep"]] = none ∧
      ¬ Safe (spkrStep true fun _ => 0) RequestsSound initialSpkr
        [spkr ["freq", "0"], spkr ["beep"]] ∧
      ¬ Safe (spkrStep true fun _ => 0) RequestsSound initialSpkr
        [spkr ["freq", "2000000"], spkr ["beep"]] := by
  have divides : run (spkrStep true fun _ => 0) initialSpkr
      [spkr ["freq", "0"], spkr ["beep"]] = none := by decide
  have zero : ∃ t, run (spkrStep true fun _ => 0) initialSpkr
      [spkr ["freq", "2000000"], spkr ["beep"]] = some t ∧ ¬ RequestsSound t :=
    ⟨_, rfl, by decide⟩
  refine ⟨divides, ?_, ?_⟩
  · rintro ⟨⟨t, ran⟩, -⟩
    cases divides.symm.trans ran
  · rintro ⟨-, sound⟩
    obtain ⟨t, ran, silent⟩ := zero
    exact silent (sound _ List.prefix_rfl t ran)

end Ztacx.Spkr
