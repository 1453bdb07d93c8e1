import Ztacx.CModel.OneShot
import Ztacx.Spkr
import Ztacx.Value

/-!
# How long the speaker sounds

The rest of `src/ztacx_spkr.c`: `spkr_setup`, `turn_spkr_off` and `spkr_pre_sleep`, and when
the work item `spkroff` runs, which ends a tone.

A tone is scheduled to end when it begins.  A tone that begins while another one sounds ends
with that one, whatever its own duration is, and one that begins after a sleep has cut the last
one short ends when that one was to end.  The period of a frequency above 1 MHz is 0, and to ask
for that is to turn the PWM off: such a tone is scheduled to end as well, and does not sound
(`sounding_since`).
-/

namespace Ztacx.Spkr

open CModel

/-! ## The code -/

/-- The numbers and the requests, `spkr_dev`, `spkroff`, and whether the PWM is driven. -/
structure Speaker where
  spkr : SpkrState
  spkrDev : Bool
  spkroffInit : Bool
  spkroff : OneShot
  sounding : Bool
deriving DecidableEq, Repr

def bootSpeaker : Speaker := ⟨initialSpkr, false, false, ⟨0, none⟩, false⟩

section Code

variable (pwmChannel : Bool)

/-- `spkr_setup`.  An item that is pending may not be initialised. -/
def spkrSetup (s : Speaker) (deviceReady : Bool) : Option (Speaker × ℤ) :=
  let s := { s with spkrDev := s.spkrDev || pwmChannel }
  if pwmChannel && !deviceReady then some (s, - ENODEV)
  else if s.spkroff.due.isSome then none
  else some ({ s with spkroffInit := true }, 0)

/-- `turn_spkr_off`.  Without a PWM nothing sounds anyway. -/
def turnSpkrOff (s : Speaker) : Option Speaker :=
  if pwmChannel && !s.spkrDev then none else some { s with sounding := false }

/-- `spkr_pre_sleep`. -/
def spkrPreSleep (s : Speaker) : Option Speaker :=
  if s.spkrDev then turnSpkrOff pwmChannel s else some s

/-- `turn_spkr_off`, called by the work queue once `spkroff` is due. -/
def runSpkroff (s : Speaker) : Option Speaker :=
  if !s.spkroff.ready then some s
  else if !s.spkroffInit then none
  else turnSpkrOff pwmChannel { s with spkroff := s.spkroff.fire }

/-- What a function that may play something does to the numbers, and the duration of the tone
if it plays one. -/
def Speaker.played (s : Speaker) (play : SpkrState → Option SpkrState) :
    Option (SpkrState × Option (BitVec 32)) :=
  (play { s.spkr with spkroff := none }).map fun spkr => (spkr, spkr.spkroff)

/-- The PWM is driven after the last request.  A period of 0 turns it off. -/
def drives (s : SpkrState) : Bool := s.requests.getLast?.any fun r => r.period != 0

/-- The function, with the PWM and `k_work_schedule`. -/
def Speaker.plays (s : Speaker) (play : SpkrState → Option SpkrState) : Option Speaker :=
  (s.played play).bind fun
    | (spkr, none) => some { s with spkr := spkr }
    | (spkr, some duration) =>
      if !s.spkrDev then none
      else some { s with
        spkr := spkr
        sounding := drives spkr
        spkroff := s.spkroff.schedule (kMsec duration) }

/-- The functions of the speaker are called, the work queue looks for items that are due, a
millisecond passes. -/
inductive SpeakerEvent
  | setup (deviceReady : Bool)
  | beep
  | tone (freq durationMs : BitVec 32)
  | command (cmd : SpkrCommand) (deviceReady : Bool)
  | preSleep
  | work
  | wait
deriving DecidableEq, Repr

/-- `cmd_test_spkr`, which begins with `spkr_setup` if it is asked to. -/
def commandSetup (s : Speaker) (cmd : SpkrCommand) (deviceReady : Bool) : Option Speaker :=
  if cmd.subcommand "setup" then (spkrSetup pwmChannel s deviceReady).map Prod.fst else some s

def speakerStep (overflow : CString → BitVec 32) (lag : ℕ) (s : Speaker) :
    SpeakerEvent → Option Speaker
  | .setup deviceReady => (spkrSetup pwmChannel s deviceReady).map Prod.fst
  | .beep => s.plays (spkrBeep pwmChannel)
  | .tone freq durationMs => s.plays (spkrTone pwmChannel · freq durationMs)
  | .command cmd deviceReady =>
    (commandSetup pwmChannel s cmd deviceReady).bind fun s =>
      s.plays (spkrStep pwmChannel overflow · cmd)
  | .preSleep => spkrPreSleep pwmChannel s
  | .work => runSpkroff pwmChannel s
  | .wait => some { s with spkroff := s.spkroff.wait lag }

/-- What a function that may play something is to `spkroff`. -/
def Speaker.tells (s : Speaker) (play : SpkrState → Option SpkrState) : OneShot.Event :=
  match (s.played play).bind Prod.snd with
  | none => .other
  | some duration => .schedule (kMsec duration)

/-- What an event is to `spkroff`. -/
def Speaker.kind (overflow : CString → BitVec 32) (s : Speaker) : SpeakerEvent → OneShot.Event
  | .beep => s.tells (spkrBeep pwmChannel)
  | .tone freq durationMs => s.tells (spkrTone pwmChannel · freq durationMs)
  | .command cmd _ => s.tells (spkrStep pwmChannel overflow · cmd)
  | .work => if s.spkroff.ready then .fire else .other
  | .wait => .wait
  | .setup _ | .preSleep => .other

/-- The frequency at which an event plays something, if it does. -/
def Speaker.freq (overflow : CString → BitVec 32) (s : Speaker) :
    SpeakerEvent → Option (BitVec 32)
  | .beep => some s.spkr.spkrFreq
  | .tone freq _ => some (s.spkr.toneFreq freq)
  | .command cmd _ => s.spkr.playedFreq overflow cmd
  | .setup _ | .preSleep | .work | .wait => none

/-- An event plays something above 1 MHz. -/
def Speaker.TooHigh (overflow : CString → BitVec 32) (s : Speaker) (e : SpeakerEvent) : Prop :=
  ∃ freq, s.freq overflow e = some freq ∧ 1000000 < |freq.toInt|

end Code

/-! ## What sounds -/

section Sound

variable {pwmChannel : Bool} {s s' : SpkrState} {freq duration : BitVec 32}

/-- Only the period of a high frequency is 0. -/
theorem lt_abs_of_periodOf_eq_zero (divides : freq ≠ 0) (zero : periodOf freq = 0) :
    1000000 < |freq.toInt| := by
  have nonzero : freq.toInt.natAbs ≠ 0 := fun zero =>
    divides (BitVec.eq_of_toInt_eq (Int.natAbs_eq_zero.mp zero))
  have size : (Int.tdiv 1000000 freq.toInt).natAbs = 1000000 / freq.toInt.natAbs :=
    Int.natAbs_tdiv ..
  have small : 1000000 / freq.toInt.natAbs ≤ 1000000 := Nat.div_le_self ..
  have quotient : Int.tdiv 1000000 freq.toInt = 0 := by
    have value := congrArg BitVec.toInt zero
    rw [periodOf, BitVec.toInt_ofInt, Int.bmod_eq_of_le (by omega) (by omega)] at value
    exact value
  rw [quotient, Int.natAbs_zero] at size
  have large := (Nat.div_eq_zero_iff.mp size.symm).resolve_left nonzero
  rw [Int.abs_eq_natAbs]
  exact_mod_cast large

/-- **What is played** is scheduled to end, and sounds unless it is too high. -/
theorem play_silent (idle : s.spkroff = none) (played : s.play pwmChannel freq duration = some s')
    (tone : s'.spkroff.isSome = true) (silent : drives s' = false) : 1000000 < |freq.toInt| := by
  have nothing : some s = some s' → False := by
    rintro ⟨⟩
    rw [idle] at tone
    cases tone
  unfold SpkrState.play at played
  split at played
  · exact (nothing played).elim
  · split at played
    · exact (nothing played).elim
    · obtain ⟨divides, same⟩ := Option.ite_none_left_eq_some.mp played
      cases same
      rw [drives, List.getLast?_concat] at silent
      refine lt_abs_of_periodOf_eq_zero divides ?_
      simpa using silent

/-- The same of a command. -/
theorem spkrStep_silent {overflow : CString → BitVec 32} {cmd : SpkrCommand}
    (idle : s.spkroff = none) (played : spkrStep pwmChannel overflow s cmd = some s')
    (tone : s'.spkroff.isSome = true) (silent : drives s' = false) :
    ∃ freq, s.playedFreq overflow cmd = some freq ∧ 1000000 < |freq.toInt| := by
  rcases spkrStep_cases overflow pwmChannel s cmd with
    ⟨freq, duration, plays, step⟩ | ⟨-, s'', step, -, item, -⟩
  · rw [step] at played
    obtain ⟨q, sounds, rfl⟩ := Option.map_eq_some_iff.mp played
    obtain ⟨requests, item, -⟩ := volCommand_spec overflow q cmd
    rw [item] at tone
    rw [drives, requests] at silent
    exact ⟨freq, plays, play_silent idle sounds tone silent⟩
  · cases step.symm.trans played
    rw [item, idle] at tone
    cases tone

end Sound

/-! ## The runs -/

section Runs

variable {pwmChannel : Bool} {s t : Speaker} {lag : ℕ} {byHand : Prop}

/-- A step that leaves the PWM and the item alone. -/
theorem switching_still (sounding : t.sounding = s.sounding) (item : t.spkroff = s.spkroff) :
    Switching lag byHand s.spkroff s.sounding t.spkroff t.sounding .other := by
  rw [sounding, item]
  exact .still

/-- A function that may play something.  `silent` says when what it plays does not sound. -/
theorem switching_plays {play : SpkrState → Option SpkrState}
    (silent : ∀ {spkr}, play { s.spkr with spkroff := none } = some spkr →
      spkr.spkroff.isSome = true → drives spkr = false → byHand)
    (taken : s.plays play = some t) :
    Switching lag byHand s.spkroff s.sounding t.spkroff t.sounding (s.tells play) := by
  obtain ⟨⟨spkr, tone⟩, played, taken⟩ := Option.bind_eq_some_iff.mp taken
  rw [Speaker.tells, played]
  cases tone with
  | none =>
      cases taken
      exact .still
  | some duration =>
      obtain ⟨-, same⟩ := Option.ite_none_left_eq_some.mp taken
      cases same
      obtain ⟨q, plays, same⟩ := Option.map_eq_some_iff.mp played
      obtain ⟨rfl, tone⟩ := Prod.mk.inj same
      dsimp only
      cases sounds : drives q with
      | true => exact .on _
      | false => exact .mute (silent plays (Option.isSome_iff_exists.mpr ⟨_, tone⟩) sounds) _

theorem spkrSetup_keeps {deviceReady : Bool}
    (taken : (spkrSetup pwmChannel s deviceReady).map Prod.fst = some t) :
    t.sounding = s.sounding ∧ t.spkroff = s.spkroff ∧ t.spkr = s.spkr := by
  obtain ⟨⟨q, rc⟩, setup, rfl⟩ := Option.map_eq_some_iff.mp taken
  unfold spkrSetup at setup
  dsimp only at setup
  split at setup
  · cases setup
    exact ⟨rfl, rfl, rfl⟩
  · obtain ⟨-, same⟩ := Option.ite_none_left_eq_some.mp setup
    cases same
    exact ⟨rfl, rfl, rfl⟩

theorem commandSetup_keeps {cmd : SpkrCommand} {deviceReady : Bool}
    (taken : commandSetup pwmChannel s cmd deviceReady = some t) :
    t.sounding = s.sounding ∧ t.spkroff = s.spkroff ∧ t.spkr = s.spkr := by
  unfold commandSetup at taken
  split at taken
  · exact spkrSetup_keeps taken
  · cases taken
    exact ⟨rfl, rfl, rfl⟩

theorem turnSpkrOff_eq_some (taken : turnSpkrOff pwmChannel s = some t) :
    t = { s with sounding := false } := by
  obtain ⟨-, same⟩ := Option.ite_none_left_eq_some.mp taken
  exact (Option.some.inj same).symm

theorem switching_work (taken : runSpkroff pwmChannel s = some t) :
    Switching lag byHand s.spkroff s.sounding t.spkroff t.sounding
      (if s.spkroff.ready then .fire else .other) := by
  unfold runSpkroff at taken
  cases ready : s.spkroff.ready with
  | false =>
      rw [ready] at taken
      cases taken
      exact .still
  | true =>
      rw [ready] at taken
      obtain ⟨-, taken⟩ := Option.ite_none_left_eq_some.mp taken
      cases turnSpkrOff_eq_some taken
      exact .fire ready

/-- **What a step does** to the PWM and to the item. -/
theorem switching_step {overflow : CString → BitVec 32} {e : SpeakerEvent}
    (taken : speakerStep pwmChannel overflow lag s e = some t) :
    Switching lag (e = .preSleep ∨ s.TooHigh overflow e) s.spkroff s.sounding t.spkroff
      t.sounding (s.kind pwmChannel overflow e) := by
  cases e with
  | setup deviceReady =>
      obtain ⟨sounding, item, -⟩ := spkrSetup_keeps taken
      exact switching_still sounding item
  | beep =>
      refine switching_plays (fun played tone silent => .inr ⟨_, rfl, ?_⟩) taken
      exact play_silent rfl played tone silent
  | tone freq durationMs =>
      refine switching_plays (fun played tone silent => .inr ⟨_, rfl, ?_⟩) taken
      exact play_silent rfl played tone silent
  | command cmd deviceReady =>
      obtain ⟨q, setup, taken⟩ := Option.bind_eq_some_iff.mp taken
      obtain ⟨sounding, item, spkr⟩ := commandSetup_keeps setup
      have tells : q.tells (spkrStep pwmChannel overflow · cmd) =
          s.tells (spkrStep pwmChannel overflow · cmd) := by
        rw [Speaker.tells, Speaker.tells, Speaker.played, Speaker.played, spkr]
      rw [← sounding, ← item, Speaker.kind, ← tells]
      refine switching_plays (fun played tone silent => .inr ?_) taken
      rw [spkr] at played
      have high := spkrStep_silent (by rfl) played tone silent
      exact high
  | preSleep =>
      rw [speakerStep, spkrPreSleep] at taken
      split at taken
      · cases turnSpkrOff_eq_some taken
        exact .off (.inl rfl)
      · cases taken
        exact .still
  | work => exact switching_work taken
  | wait =>
      cases taken
      exact .wait

/-- The speaker and `spkroff`. -/
def speaker (pwmChannel : Bool) (overflow : CString → BitVec 32) (lag : ℕ) :
    Switched (speakerStep pwmChannel overflow lag) lag where
  clock := Speaker.spkroff
  lit := Speaker.sounding
  kind := Speaker.kind pwmChannel overflow
  byHand s e := e = .preSleep ∨ s.TooHigh overflow e
  switches taken := switching_step taken

/-- **How long the speaker sounds**: while the PWM is driven `spkroff` is pending, for the time
that the first tone since the item last ran was to end, and is at most `lag` late.  Unless the
board goes to sleep, or something is played above 1 MHz, the PWM is driven all that time. -/
theorem sounding_since {overflow : CString → BitVec 32} {es : List SpeakerEvent}
    (ran : run (speakerStep pwmChannel overflow lag) bootSpeaker es = some t) :
    (StepsMeet (speakerStep pwmChannel overflow lag)
        (fun s e => ¬ (e = .preSleep ∨ s.TooHigh overflow e)) bootSpeaker es →
      t.sounding = t.spkroff.due.isSome) ∧
      (t.sounding = true → ∃ due, (speaker pwmChannel overflow lag).ArmedFor bootSpeaker es due ∧
        t.spkroff.due = some due ∧ t.spkroff.now ≤ due + lag) := by
  constructor
  · intro free
    exact (speaker pwmChannel overflow lag).lit_eq_pending rfl rfl free ran
  · exact (speaker pwmChannel overflow lag).lit_since rfl rfl ran

end Runs

/-- A short tone, and a beep of 250 ms in it. -/
def beepInTone : List SpeakerEvent :=
  [.setup true, .tone 880 2, .wait, .beep, .wait]

/-- The beep has ended after 1 ms. -/
theorem beepInTone_sounding_since : ∃ t,
    run (speakerStep true (fun _ => 0) 0) bootSpeaker beepInTone = some t ∧ t.sounding = true ∧
      ∃ due, (speaker true (fun _ => 0) 0).ArmedFor bootSpeaker beepInTone due ∧
        due = t.spkroff.now := by
  have ran : ∃ t, run (speakerStep true (fun _ => 0) 0) bootSpeaker beepInTone = some t ∧
      t.sounding = true ∧ t.spkroff = ⟨2, some 2⟩ := ⟨_, rfl, by decide, by decide⟩
  obtain ⟨t, ran, sounding, item⟩ := ran
  obtain ⟨due, armed, pending, -⟩ := (sounding_since ran).2 sounding
  refine ⟨t, ran, sounding, due, armed, ?_⟩
  rw [item] at pending ⊢
  cases pending
  rfl

-- a tone of 2 MHz ends the one before it, and the item that was to end that stays pending
example : ∃ t, run (speakerStep true (fun _ => 0) 0) bootSpeaker
    [.setup true, .tone 880 1000, .tone 2000000 10] = some t ∧ t.sounding = false ∧
      t.spkroff.due = some 1000 := ⟨_, rfl, by decide, by decide⟩

end Ztacx.Spkr
