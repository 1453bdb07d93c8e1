import Ztacx.CModel.OneShot
import Ztacx.Spkr
import Ztacx.Value

/-!
# The dimmable LED

`src/ztacx_pwmled.c`.  To turn the LED on is to ask the PWM for a square wave with a period of
1000 microseconds, and to schedule the work item that turns it off again.

* While the LED is on that item is pending.  It keeps the time of the first time that the LED
  was turned on since the item last ran, also where the LED has been turned off and on in
  between.  `pwmled_set_duty` drives the PWM as well, but does not turn the LED on: called
  while it is off, it leaves the PWM driven with nothing scheduled to end that
  (`driven_since`).
* The duty is limited only where it is moved across one of its bounds, and the product that
  makes an on-time of it is not limited at all: `requests_sound_iff_proper` says when no wave is
  on for longer than its period, and when nothing goes wrong.
-/

namespace Ztacx.PwmLed

open CModel
open Spkr (PwmRequest)

/-! ## The code -/

/-- `pwmled_dev` is there or null; the four globals; whether `pwmledoff` has been initialised;
the requests so far. -/
structure PwmLedState where
  pwmledDev : Bool
  pwmledValue : Bool
  pwmledDutyValue : BitVec 16
  pwmledDurationValue : BitVec 16
  pwmledoffInit : Bool
  pwmledoff : OneShot
  requests : List PwmRequest
deriving DecidableEq, Repr

def bootPwmLed : PwmLedState := ⟨false, false, 0, 0, false, ⟨0, none⟩, []⟩

/-- An invocation: the arguments behind the command's name, and whether the device is ready. -/
structure PwmLedCommand where
  args : List CString
  deviceReady : Bool
deriving DecidableEq, Repr

namespace PwmLedCommand

def argc (cmd : PwmLedCommand) : ℕ := cmd.args.length + 1

/-- `(argc > 1) && (strcmp(argv[1], word)==0)`. -/
def subcommand (cmd : PwmLedCommand) (word : String) : Bool :=
  cmd.args.head? = some (.ofString word)

/-- `atoi(argv[i])`, and the 0 that `duty` and `duration` start with where there is no
`argv[i]`. -/
def number (overflow : CString → BitVec 32) (cmd : PwmLedCommand) (i : ℕ) : BitVec 32 :=
  cmd.args[i - 1]?.elim 0 (atoi overflow)

end PwmLedCommand

section Code

-- whether the devicetree has the LED, which defines `PWM_CHANNEL`
variable (pwmChannel : Bool)

/-- `pwm_pin_set_usec` on `pwmled_dev`, where the code has the call between `#ifdef PWM_CHANNEL`
and `#endif`. -/
def pwmPinSetUsec (s : PwmLedState) (r : PwmRequest) : Option PwmLedState :=
  if !pwmChannel then some s
  else if !s.pwmledDev then none
  else some { s with requests := s.requests ++ [r] }

/-- `turn_pwmled_off`. -/
def turnPwmledOff (s : PwmLedState) : Option PwmLedState :=
  (pwmPinSetUsec pwmChannel s ⟨0, 0⟩).map fun t => { t with pwmledValue := false }

/-- `pwmled_setup`.  An item that is pending may not be initialised. -/
def pwmledSetup (s : PwmLedState) (deviceReady : Bool) : Option (PwmLedState × ℤ) :=
  if !pwmChannel then some (s, 0)
  else
    let s := { s with pwmledDev := true }
    if !deviceReady then some (s, - ENODEV)
    else if s.pwmledoff.due.isSome then none
    else some ({ s with pwmledoffInit := true }, 0)

/-- What `pwmled_set_duty` asks for.  The product is one of `uint32_t`. -/
def dutyRequest (duty : BitVec 32) : PwmRequest :=
  let period := 1000
  ⟨period, period * duty / 100⟩

/-- `pwmled_set_duty`. -/
def pwmledSetDuty (s : PwmLedState) (duty : BitVec 32) : Option PwmLedState :=
  pwmPinSetUsec pwmChannel s (dutyRequest duty)

/-- The local `new_duty` of `pwmled_adjust_duty`, before it is limited. -/
def PwmLedState.newDuty (s : PwmLedState) (delta : BitVec 32) : ℤ :=
  s.pwmledDutyValue.toNat + delta.toInt

/-- The duty is limited on the side to which it moves. -/
def limitDuty (newDuty : ℤ) (delta : BitVec 32) : ℤ :=
  let newDuty := if delta.toInt < 0 ∧ newDuty < 0 then 0 else newDuty
  if 0 < delta.toInt ∧ 100 < newDuty then 100 else newDuty

/-- `pwmled_adjust_duty`. -/
def pwmledAdjustDuty (s : PwmLedState) (delta : BitVec 32) : Option PwmLedState :=
  if ¬ IsInt (s.newDuty delta) then none
  else
    let s := { s with pwmledDutyValue := BitVec.ofInt 16 (limitDuty (s.newDuty delta) delta) }
    if s.pwmledValue then pwmledSetDuty pwmChannel s (s.pwmledDutyValue.setWidth 32) else some s

/-- The arguments of `turn_pwmled_on` with their defaults. -/
def PwmLedState.onDuty (s : PwmLedState) (duty : BitVec 32) : BitVec 32 :=
  if duty = 0 then s.pwmledDutyValue.setWidth 32 else duty

def PwmLedState.onDuration (s : PwmLedState) (durationMs : BitVec 32) : BitVec 32 :=
  if durationMs = 0 then s.pwmledDurationValue.setWidth 32 else durationMs

/-- `turn_pwmled_on`. -/
def turnPwmledOn (s : PwmLedState) (duty durationMs : BitVec 32) : Option PwmLedState :=
  if !pwmChannel then some s
  else (pwmledSetDuty pwmChannel s (s.onDuty duty)).map fun t =>
    { t with
      pwmledValue := true
      pwmledoff := t.pwmledoff.schedule (kMsec (s.onDuration durationMs)) }

/-- `cmd_test_pwmled`, which returns 0. -/
def cmdTestPwmled (overflow : CString → BitVec 32) (s : PwmLedState) (cmd : PwmLedCommand) :
    Option PwmLedState :=
  -- the other subcommands have other names
  if cmd.subcommand "setup" then (pwmledSetup pwmChannel s cmd.deviceReady).map Prod.fst
  else if 2 < cmd.argc ∧ cmd.subcommand "duty" then
    some { s with pwmledDutyValue := (cmd.number overflow 2).setWidth 16 }
  else if 2 < cmd.argc ∧ cmd.subcommand "duration" then
    some { s with pwmledDurationValue := (cmd.number overflow 2).setWidth 16 }
  else if cmd.subcommand "on" then
    turnPwmledOn pwmChannel s (cmd.number overflow 2) (cmd.number overflow 3)
  else some s

/-- `pwmled_pre_sleep`. -/
def pwmledPreSleep (s : PwmLedState) : Option PwmLedState :=
  if s.pwmledDev then turnPwmledOff pwmChannel s else some s

/-- `turn_pwmled_off_cb`, which the work queue calls once `pwmledoff` is due. -/
def turnPwmledOffCb (s : PwmLedState) : Option PwmLedState :=
  if !s.pwmledoff.ready then some s
  else if !s.pwmledoffInit then none
  else turnPwmledOff pwmChannel { s with pwmledoff := s.pwmledoff.fire }

/-- The functions of `ztacx_pwmled.h` are called, the work queue looks for items that are due,
a millisecond passes. -/
inductive PwmLedEvent
  | setup (deviceReady : Bool)
  | on (duty durationMs : BitVec 32)
  | off
  | setDuty (duty : BitVec 32)
  | adjust (delta : BitVec 32)
  | command (cmd : PwmLedCommand)
  | preSleep
  | work
  | wait
deriving DecidableEq, Repr

/-- A step; `lag` is how late the work queue may be. -/
def pwmLedStep (overflow : CString → BitVec 32) (lag : ℕ) (s : PwmLedState) :
    PwmLedEvent → Option PwmLedState
  | .setup deviceReady => (pwmledSetup pwmChannel s deviceReady).map Prod.fst
  | .on duty durationMs => turnPwmledOn pwmChannel s duty durationMs
  | .off => turnPwmledOff pwmChannel s
  | .setDuty duty => pwmledSetDuty pwmChannel s duty
  | .adjust delta => pwmledAdjustDuty pwmChannel s delta
  | .command cmd => cmdTestPwmled pwmChannel overflow s cmd
  | .preSleep => pwmledPreSleep pwmChannel s
  | .work => turnPwmledOffCb pwmChannel s
  | .wait => some { s with pwmledoff := s.pwmledoff.wait lag }

/-! ## What is asked of the PWM -/

/-- The PWM was last asked for a wave. -/
def PwmLedState.driven (s : PwmLedState) : Bool := s.requests.getLast?.any fun r => r.period != 0

/-- A wave is not on for longer than its period. -/
def RequestsSound (s : PwmLedState) : Prop :=
  ∀ r ∈ s.requests, r.onTime.toNat ≤ r.period.toNat

instance decidableRequestsSound (s : PwmLedState) : Decidable (RequestsSound s) :=
  inferInstanceAs (Decidable (∀ r ∈ s.requests, _))

/-- The delay after which the LED is to be off, if an event turns it on. -/
def PwmLedState.turnsOn (overflow : CString → BitVec 32) (s : PwmLedState) :
    PwmLedEvent → Option ℕ
  | .on _ durationMs => if pwmChannel then some (kMsec (s.onDuration durationMs)) else none
  | .command cmd =>
    if pwmChannel && cmd.subcommand "on" then
      some (kMsec (s.onDuration (cmd.number overflow 3)))
    else none
  | .setup _ | .off | .setDuty _ | .adjust _ | .preSleep | .work | .wait => none

/-- An event drives the PWM of a LED that is off. -/
def PwmLedState.Strays (s : PwmLedState) (e : PwmLedEvent) : Prop :=
  pwmChannel = true ∧ s.pwmledValue = false ∧ ∃ duty, e = .setDuty duty

/-- What an event is to `pwmledoff`. -/
def PwmLedState.kind (overflow : CString → BitVec 32) (s : PwmLedState) (e : PwmLedEvent) :
    OneShot.Event :=
  match e with
  | .wait => .wait
  | .work => if s.pwmledoff.ready then .fire else .other
  | .setup _ | .on .. | .off | .setDuty _ | .adjust _ | .command _ | .preSleep =>
    (s.turnsOn pwmChannel overflow e).elim .other .schedule

end Code

/-! ## What the functions do -/

section Functions

variable {pwmChannel : Bool} {s t : PwmLedState}

theorem pwmPinSetUsec_eq_some {r : PwmRequest} :
    pwmPinSetUsec pwmChannel s r = some t ↔ (pwmChannel = true → s.pwmledDev = true) ∧
      t = { s with requests := if pwmChannel then s.requests ++ [r] else s.requests } := by
  unfold pwmPinSetUsec
  cases pwmChannel with
  | false => simpa using eq_comm
  | true =>
      cases device : s.pwmledDev with
      | false => simp
      | true => simpa using eq_comm

/-- A subcommand has one name. -/
theorem subcommand_of_subcommand {cmd : PwmLedCommand} {word : String}
    (sub : cmd.subcommand word = true) (other : String) :
    cmd.subcommand other = decide (CString.ofString word = CString.ofString other) := by
  have head : cmd.args.head? = some (.ofString word) := of_decide_eq_true sub
  simp [PwmLedCommand.subcommand, head]

/-- **What the command does**: one of the functions, or a new default. -/
theorem cmdTestPwmled_cases (pwmChannel : Bool) (overflow : CString → BitVec 32)
    (s : PwmLedState) (cmd : PwmLedCommand) :
    cmd.subcommand "setup" = true ∧ cmdTestPwmled pwmChannel overflow s cmd =
        (pwmledSetup pwmChannel s cmd.deviceReady).map Prod.fst ∨
      cmd.subcommand "setup" = false ∧ cmd.subcommand "on" = true ∧
        cmdTestPwmled pwmChannel overflow s cmd =
          turnPwmledOn pwmChannel s (cmd.number overflow 2) (cmd.number overflow 3) ∨
      cmd.subcommand "setup" = false ∧ cmd.subcommand "on" = false ∧
        ∃ duty duration, cmdTestPwmled pwmChannel overflow s cmd =
          some { s with pwmledDutyValue := duty, pwmledDurationValue := duration } := by
  unfold cmdTestPwmled
  by_cases setup : cmd.subcommand "setup"
  · exact .inl ⟨setup, if_pos setup⟩
  have noSetup : cmd.subcommand "setup" = false := Bool.eq_false_iff.mpr setup
  simp only [if_neg setup]
  by_cases on : cmd.subcommand "on"
  · have duty : cmd.subcommand "duty" = false := subcommand_of_subcommand on "duty"
    have duration : cmd.subcommand "duration" = false := subcommand_of_subcommand on "duration"
    exact .inr (.inl ⟨noSetup, on, by simp [duty, duration, on]⟩)
  refine .inr (.inr ⟨noSetup, Bool.eq_false_iff.mpr on, ?_⟩)
  simp only [if_neg on]
  split
  · exact ⟨_, _, rfl⟩
  · split
    · exact ⟨_, _, rfl⟩
    · exact ⟨_, _, rfl⟩

theorem turnPwmledOff_eq_some :
    turnPwmledOff pwmChannel s = some t ↔ (pwmChannel = true → s.pwmledDev = true) ∧
      t = { s with
        requests := if pwmChannel then s.requests ++ [⟨0, 0⟩] else s.requests
        pwmledValue := false } := by
  unfold turnPwmledOff
  rw [Option.map_eq_some_iff]
  constructor
  · rintro ⟨q, asked, rfl⟩
    obtain ⟨device, rfl⟩ := pwmPinSetUsec_eq_some.mp asked
    exact ⟨device, rfl⟩
  · rintro ⟨device, rfl⟩
    exact ⟨_, pwmPinSetUsec_eq_some.mpr ⟨device, rfl⟩, rfl⟩

theorem pwmledSetup_eq_some {deviceReady : Bool}
    (taken : (pwmledSetup pwmChannel s deviceReady).map Prod.fst = some t) :
    t.pwmledValue = s.pwmledValue ∧ t.requests = s.requests ∧ t.pwmledoff = s.pwmledoff := by
  obtain ⟨⟨q, rc⟩, setup, rfl⟩ := Option.map_eq_some_iff.mp taken
  unfold pwmledSetup at setup
  split at setup
  · cases setup
    exact ⟨rfl, rfl, rfl⟩
  · dsimp only at setup
    split at setup
    · cases setup
      exact ⟨rfl, rfl, rfl⟩
    · obtain ⟨-, same⟩ := Option.ite_none_left_eq_some.mp setup
      cases same
      exact ⟨rfl, rfl, rfl⟩

/-- What a step does to the PWM and to the item.  Only a step `byHand` turns the LED off
without the item, and only one that `strays` changes the duty of a LED that is off. -/
inductive Effect (pwmChannel : Bool) (lag : ℕ) (byHand strays : Prop) (s t : PwmLedState) :
    OneShot.Event → Prop
  | still (value : t.pwmledValue = s.pwmledValue) (requests : t.requests = s.requests)
      (item : t.pwmledoff = s.pwmledoff) : Effect pwmChannel lag byHand strays s t .other
  | dim (duty : BitVec 32) (channel : pwmChannel = true) (lit : s.pwmledValue = true ∨ strays)
      (value : t.pwmledValue = s.pwmledValue)
      (requests : t.requests = s.requests ++ [dutyRequest duty])
      (item : t.pwmledoff = s.pwmledoff) : Effect pwmChannel lag byHand strays s t .other
  | on (duty : BitVec 32) (delay : ℕ) (channel : pwmChannel = true)
      (value : t.pwmledValue = true) (requests : t.requests = s.requests ++ [dutyRequest duty])
      (item : t.pwmledoff = s.pwmledoff.schedule delay) :
      Effect pwmChannel lag byHand strays s t (.schedule delay)
  | off (hand : byHand) (value : t.pwmledValue = false)
      (requests : t.requests = if pwmChannel then s.requests ++ [⟨0, 0⟩] else s.requests)
      (item : t.pwmledoff = s.pwmledoff) : Effect pwmChannel lag byHand strays s t .other
  | work (ready : s.pwmledoff.ready = true) (value : t.pwmledValue = false)
      (requests : t.requests = if pwmChannel then s.requests ++ [⟨0, 0⟩] else s.requests)
      (item : t.pwmledoff = s.pwmledoff.fire) : Effect pwmChannel lag byHand strays s t .fire
  | wait (value : t.pwmledValue = s.pwmledValue) (requests : t.requests = s.requests)
      (item : t.pwmledoff = s.pwmledoff.wait lag) : Effect pwmChannel lag byHand strays s t .wait

variable {lag : ℕ} {byHand strays : Prop}

theorem effect_off (hand : byHand) (taken : turnPwmledOff pwmChannel s = some t) :
    Effect pwmChannel lag byHand strays s t .other := by
  obtain ⟨-, rfl⟩ := turnPwmledOff_eq_some.mp taken
  exact .off hand rfl rfl rfl

theorem effect_on {duty durationMs : BitVec 32}
    (taken : turnPwmledOn pwmChannel s duty durationMs = some t) :
    Effect pwmChannel lag byHand strays s t
      ((if pwmChannel then some (kMsec (s.onDuration durationMs)) else none).elim .other
        .schedule) := by
  unfold turnPwmledOn at taken
  cases channel : pwmChannel with
  | false =>
      rw [channel] at taken
      cases taken
      exact .still rfl rfl rfl
  | true =>
      rw [channel] at taken
      obtain ⟨q, asked, rfl⟩ := Option.map_eq_some_iff.mp taken
      obtain ⟨-, rfl⟩ := pwmPinSetUsec_eq_some.mp asked
      exact .on _ _ rfl rfl rfl rfl

theorem effect_setDuty {duty : BitVec 32}
    (lit : pwmChannel = true → s.pwmledValue = true ∨ strays)
    (taken : pwmledSetDuty pwmChannel s duty = some t) :
    Effect pwmChannel lag byHand strays s t .other := by
  obtain ⟨-, rfl⟩ := pwmPinSetUsec_eq_some.mp taken
  cases pwmChannel with
  | false => exact .still rfl rfl rfl
  | true => exact .dim duty rfl (lit rfl) rfl rfl rfl

theorem effect_adjust {delta : BitVec 32}
    (taken : pwmledAdjustDuty pwmChannel s delta = some t) :
    Effect pwmChannel lag byHand strays s t .other := by
  obtain ⟨-, taken⟩ := Option.ite_none_left_eq_some.mp taken
  dsimp only at taken
  split at taken
  · rename_i lit
    obtain ⟨-, rfl⟩ := pwmPinSetUsec_eq_some.mp taken
    cases channel : pwmChannel with
    | false => exact .still rfl rfl rfl
    | true => exact .dim _ rfl (.inl lit) rfl rfl rfl
  · cases taken
    exact .still rfl rfl rfl

theorem effect_work (taken : turnPwmledOffCb pwmChannel s = some t) :
    Effect pwmChannel lag byHand strays s t (if s.pwmledoff.ready then .fire else .other) := by
  unfold turnPwmledOffCb at taken
  cases ready : s.pwmledoff.ready with
  | false =>
      rw [ready] at taken
      cases taken
      exact .still rfl rfl rfl
  | true =>
      rw [ready] at taken
      obtain ⟨-, taken⟩ := Option.ite_none_left_eq_some.mp taken
      obtain ⟨-, rfl⟩ := turnPwmledOff_eq_some.mp taken
      exact .work ready rfl rfl rfl

/-- **What a step does.** -/
theorem effect {overflow : CString → BitVec 32} {e : PwmLedEvent}
    (taken : pwmLedStep pwmChannel overflow lag s e = some t) :
    Effect pwmChannel lag (e = .off ∨ e = .preSleep) (s.Strays pwmChannel e) s t
      (s.kind pwmChannel overflow e) := by
  cases e with
  | setup deviceReady =>
      obtain ⟨value, requests, item⟩ := pwmledSetup_eq_some taken
      exact .still value requests item
  | on duty durationMs => exact effect_on taken
  | off => exact effect_off (.inl rfl) taken
  | setDuty duty =>
      refine effect_setDuty (fun channel => ?_) taken
      cases lit : s.pwmledValue with
      | true => exact .inl rfl
      | false => exact .inr ⟨channel, lit, duty, rfl⟩
  | adjust delta => exact effect_adjust taken
  | command cmd =>
      obtain ⟨setup, does⟩ | ⟨-, on, does⟩ | ⟨-, other, duty, duration, does⟩ :=
        cmdTestPwmled_cases pwmChannel overflow s cmd
      · have other : cmd.subcommand "on" = false := subcommand_of_subcommand setup "on"
        rw [pwmLedStep, does] at taken
        obtain ⟨value, requests, item⟩ := pwmledSetup_eq_some taken
        rw [PwmLedState.kind, PwmLedState.turnsOn, other, Bool.and_false]
        exact .still value requests item
      · rw [pwmLedStep, does] at taken
        rw [PwmLedState.kind, PwmLedState.turnsOn, on, Bool.and_true]
        exact effect_on taken
      · rw [pwmLedStep, does] at taken
        cases taken
        rw [PwmLedState.kind, PwmLedState.turnsOn, other, Bool.and_false]
        exact .still rfl rfl rfl
  | preSleep =>
      rw [pwmLedStep, pwmledPreSleep] at taken
      split at taken
      · exact effect_off (.inr rfl) taken
      · cases taken
        exact .still rfl rfl rfl
  | work => exact effect_work taken
  | wait =>
      cases taken
      exact .wait rfl rfl rfl

end Functions

/-! ## For how long the LED is on -/

section Runs

variable {pwmChannel : Bool} {lag : ℕ} {s t : PwmLedState} {byHand strays : Prop}
  {event : OneShot.Event}

theorem Effect.switching (effect : Effect pwmChannel lag byHand strays s t event) :
    Switching lag byHand s.pwmledoff s.pwmledValue t.pwmledoff t.pwmledValue event := by
  cases effect with
  | still value _ item =>
      rw [value, item]
      exact .still
  | dim _ _ _ value _ item =>
      rw [value, item]
      exact .still
  | on _ delay _ value _ item =>
      rw [value, item]
      exact .on delay
  | off hand value _ item =>
      rw [value, item]
      exact .off hand
  | work ready value _ item =>
      rw [value, item]
      exact .fire ready
  | wait value _ item =>
      rw [value, item]
      exact .wait

/-- The LED and `pwmledoff`. -/
def pwmLed (pwmChannel : Bool) (overflow : CString → BitVec 32) (lag : ℕ) :
    Switched (pwmLedStep pwmChannel overflow lag) lag where
  clock := PwmLedState.pwmledoff
  lit := PwmLedState.pwmledValue
  kind := PwmLedState.kind pwmChannel overflow
  byHand _ e := e = .off ∨ e = .preSleep
  switches taken := (effect taken).switching

/-- The PWM is driven while the LED is on, and is left alone where there is none. -/
structure ValueTrue (pwmChannel : Bool) (s : PwmLedState) : Prop where
  driven : s.pwmledValue = true → s.driven = true
  absent : pwmChannel = false → s.pwmledValue = false ∧ s.driven = false

theorem driven_of_append {r : PwmRequest} (requests : t.requests = s.requests ++ [r]) :
    t.driven = (r.period != 0) := by
  rw [PwmLedState.driven, requests, List.getLast?_concat]
  rfl

theorem driven_of_same (requests : t.requests = s.requests) : t.driven = s.driven := by
  rw [PwmLedState.driven, requests]
  rfl

/-- The PWM is not driven any more. -/
theorem driven_of_off (inv : ValueTrue pwmChannel s)
    (requests : t.requests = if pwmChannel then s.requests ++ [⟨0, 0⟩] else s.requests) :
    t.driven = false := by
  cases channel : pwmChannel with
  | false =>
      rw [channel] at requests
      exact (driven_of_same requests).trans (inv.absent channel).2
  | true =>
      rw [channel] at requests
      exact driven_of_append requests

theorem ValueTrue.effect (inv : ValueTrue pwmChannel s)
    (effect : Effect pwmChannel lag byHand strays s t event) : ValueTrue pwmChannel t := by
  have same (value : t.pwmledValue = s.pwmledValue) (requests : t.requests = s.requests) :
      ValueTrue pwmChannel t := by
    have driven := driven_of_same requests
    refine ⟨?_, ?_⟩
    · rw [value, driven]
      exact inv.driven
    · rw [value, driven]
      exact inv.absent
  have dark (value : t.pwmledValue = false) (requests : t.requests =
      if pwmChannel then s.requests ++ [⟨0, 0⟩] else s.requests) : ValueTrue pwmChannel t :=
    ⟨fun lit => absurd (value.symm.trans lit) Bool.false_ne_true,
      fun _ => ⟨value, driven_of_off inv requests⟩⟩
  have wave {duty : BitVec 32} (channel : pwmChannel = true)
      (requests : t.requests = s.requests ++ [dutyRequest duty]) : ValueTrue pwmChannel t :=
    ⟨fun _ => driven_of_append requests,
      fun absent => absurd (absent.symm.trans channel) Bool.false_ne_true⟩
  cases effect with
  | still value requests _ => exact same value requests
  | dim duty channel _ _ requests _ => exact wave channel requests
  | on duty _ channel _ requests _ => exact wave channel requests
  | off _ value requests _ => exact dark value requests
  | work _ value requests _ => exact dark value requests
  | wait value requests _ => exact same value requests

/-- **What drives the PWM of a LED that is off.** -/
theorem Effect.strays_of_driven (inv : ValueTrue pwmChannel s)
    (effect : Effect pwmChannel lag byHand strays s t event)
    (before : ¬ (s.driven = true ∧ s.pwmledValue = false))
    (driven : t.driven = true) (off : t.pwmledValue = false) : strays := by
  have same (value : t.pwmledValue = s.pwmledValue) (requests : t.requests = s.requests) :
      s.driven = true ∧ s.pwmledValue = false :=
    ⟨(driven_of_same requests).symm.trans driven, value.symm.trans off⟩
  have dark (requests : t.requests =
      if pwmChannel then s.requests ++ [⟨0, 0⟩] else s.requests) : t.driven ≠ true := by
    rw [driven_of_off inv requests]
    exact Bool.false_ne_true
  cases effect with
  | still value requests _ => exact absurd (same value requests) before
  | dim _ _ lit value _ _ =>
      rcases lit with lit | strays
      · exact absurd (off.symm.trans (value.trans lit)) Bool.false_ne_true
      · exact strays
  | on _ _ _ value _ _ => exact absurd (off.symm.trans value) Bool.false_ne_true
  | off _ _ requests _ => exact absurd driven (dark requests)
  | work _ _ requests _ => exact absurd driven (dark requests)
  | wait value requests _ => exact absurd (same value requests) before

variable {overflow : CString → BitVec 32} {es : List PwmLedEvent}

/-- `pwmled_set_duty` was called while the LED was off.  Since then the PWM has been driven, and
the LED has not been on. -/
def DutySince (pwmChannel : Bool) (overflow : CString → BitVec 32) (lag : ℕ)
    (es : List PwmLedEvent) : Prop :=
  ∃ before e after r r', es = before ++ e :: after ∧
    run (pwmLedStep pwmChannel overflow lag) bootPwmLed before = some r ∧
    r.Strays pwmChannel e ∧ pwmLedStep pwmChannel overflow lag r e = some r' ∧
    Throughout (pwmLedStep pwmChannel overflow lag)
      (fun q => q.driven = true ∧ q.pwmledValue = false) r' after

theorem valueTrue_of_run
    (ran : run (pwmLedStep pwmChannel overflow lag) bootPwmLed es = some t) :
    ValueTrue pwmChannel t := by
  refine run_invariant_of_step (I := ValueTrue pwmChannel) ?_ ?_ ran
  · intro s e s' inv taken
    exact inv.effect (effect taken)
  · exact ⟨fun lit => absurd lit Bool.false_ne_true, fun _ => ⟨rfl, rfl⟩⟩

/-- **When the PWM is driven without the LED being on.** -/
theorem dutySince_iff
    (ran : run (pwmLedStep pwmChannel overflow lag) bootPwmLed es = some t) :
    DutySince pwmChannel overflow lag es ↔ t.driven = true ∧ t.pwmledValue = false := by
  constructor
  · rintro ⟨before, e, after, r, r', rfl, first, -, taken, kept⟩
    rw [run_append, first, Option.bind_some, run_cons, taken, Option.bind_some] at ran
    exact kept after (List.prefix_refl after) t ran
  · intro now
    have start : ¬ (bootPwmLed.driven = true ∧ bootPwmLed.pwmledValue = false) :=
      fun both => absurd both.1 Bool.false_ne_true
    obtain ⟨before, e, after, r, r', rfl, first, other, taken, kept⟩ :=
      run_since (P := fun q => q.driven = true ∧ q.pwmledValue = false) start ran now
    obtain ⟨driven, off⟩ := kept [] List.nil_prefix r' rfl
    exact ⟨before, e, after, r, r', rfl, first,
      (effect taken).strays_of_driven (valueTrue_of_run first) other driven off, taken, kept⟩

/-- **For how long the LED is on**: the PWM is driven exactly while `pwmled_value` says so, and
after a `pwmled_set_duty` of a LED that was off.  While the LED is on the item that turns it off
is pending, for the time that was set when the LED was turned on for the first time since the
item last ran, and is at most `lag` late.  Unless the LED is turned off by hand, it is on all
that time. -/
theorem driven_since
    (ran : run (pwmLedStep pwmChannel overflow lag) bootPwmLed es = some t) :
    (t.driven = true ↔ t.pwmledValue = true ∨ DutySince pwmChannel overflow lag es) ∧
      (.off ∉ es → .preSleep ∉ es → t.pwmledValue = t.pwmledoff.due.isSome) ∧
      (t.pwmledValue = true → ∃ due,
        (pwmLed pwmChannel overflow lag).ArmedFor bootPwmLed es due ∧
        t.pwmledoff.due = some due ∧ t.pwmledoff.now ≤ due + lag) := by
  refine ⟨?_, fun noOff noSleep => ?_, fun lit => ?_⟩
  · rw [dutySince_iff ran]
    cases lit : t.pwmledValue with
    | true => exact iff_of_true ((valueTrue_of_run ran).driven lit) (.inl rfl)
    | false => simp
  · have free : ∀ e ∈ es, ¬ (e = PwmLedEvent.off ∨ e = .preSleep) := by
      rintro e mem (rfl | rfl)
      · exact noOff mem
      · exact noSleep mem
    exact (pwmLed pwmChannel overflow lag).lit_eq_pending rfl rfl
      (stepsMeet_of_events free bootPwmLed) ran
  · exact (pwmLed pwmChannel overflow lag).lit_since rfl rfl ran lit

end Runs

/-- Turned on for 2 ms, dimmed, and a millisecond later turned on for 500 ms. -/
def onTwice : List PwmLedEvent :=
  [.setup true, .on 50 2, .setDuty 10, .wait, .work, .on 80 500]

/-- The second 500 ms end after 1 ms. -/
theorem onTwice_driven_since : ∃ t,
    run (pwmLedStep true (fun _ => 0) 0) bootPwmLed onTwice = some t ∧ t.driven = true ∧
      ∃ due, (pwmLed true (fun _ => 0) 0).ArmedFor bootPwmLed onTwice due ∧
        due = t.pwmledoff.now + 1 := by
  have ran : ∃ t, run (pwmLedStep true (fun _ => 0) 0) bootPwmLed onTwice = some t ∧
      t.pwmledValue = true ∧ t.pwmledoff = ⟨1, some 2⟩ := ⟨_, rfl, by decide, by decide⟩
  obtain ⟨t, ran, lit, item⟩ := ran
  have driven : t.driven = true := (driven_since ran).1.mpr (.inl lit)
  obtain ⟨due, armed, pending, -⟩ := (driven_since ran).2.2 lit
  refine ⟨t, ran, driven, due, armed, ?_⟩
  rw [item] at pending ⊢
  cases pending
  rfl

-- nothing is going to end the wave of a LED that has not been turned on
example : ∃ t, run (pwmLedStep true (fun _ => 0) 0) bootPwmLed [.setup true, .setDuty 50] =
    some t ∧ t.driven = true ∧ t.pwmledoff.due = none := ⟨_, rfl, by decide, rfl⟩

/-! ## What is asked of the PWM -/

/-- A duty of at most 100 percent, rounded down and modulo 2^32. -/
def Fits (duty : BitVec 32) : Prop := (1000 * duty).toNat < 100100

instance decidableFits (duty : BitVec 32) : Decidable (Fits duty) :=
  inferInstanceAs (Decidable (_ < _))

/-- Nothing is asked of a PWM that has not been found, `pwmledoff` is initialised before it is
due and not while it is pending, the sum of `pwmled_adjust_duty` is an `int`, and every duty
fits. -/
def Proper (pwmChannel : Bool) (overflow : CString → BitVec 32) (s : PwmLedState) :
    PwmLedEvent → Prop
  | .setup deviceReady => pwmChannel = true → deviceReady = true → s.pwmledoff.due = none
  | .on duty _ => pwmChannel = true → s.pwmledDev = true ∧ Fits (s.onDuty duty)
  | .off => pwmChannel = true → s.pwmledDev = true
  | .setDuty duty => pwmChannel = true → s.pwmledDev = true ∧ Fits duty
  | .adjust delta => IsInt (s.newDuty delta) ∧ (s.pwmledValue = true → pwmChannel = true →
      s.pwmledDev = true ∧
        Fits ((BitVec.ofInt 16 (limitDuty (s.newDuty delta) delta)).setWidth 32))
  | .command cmd =>
    (cmd.subcommand "setup" = true → pwmChannel = true → cmd.deviceReady = true →
      s.pwmledoff.due = none) ∧
    (cmd.subcommand "on" = true → pwmChannel = true →
      s.pwmledDev = true ∧ Fits (s.onDuty (cmd.number overflow 2)))
  | .work => s.pwmledoff.ready = true → s.pwmledoffInit = true ∧
      (pwmChannel = true → s.pwmledDev = true)
  | .preSleep | .wait => True

section Requests

variable {pwmChannel : Bool} {s t : PwmLedState}

theorem fits_iff (duty : BitVec 32) :
    (dutyRequest duty).onTime.toNat ≤ (dutyRequest duty).period.toNat ↔ Fits duty := by
  show (1000 * duty / 100 : BitVec 32).toNat ≤ 1000 ↔ _
  rw [BitVec.toNat_udiv, Fits]
  show (1000 * duty).toNat / 100 ≤ 1000 ↔ _
  omega

/-- The function comes to an end, and what it has asked for is sound. -/
def GoesWell (result : Option PwmLedState) : Prop := ∃ t, result = some t ∧ RequestsSound t

theorem goesWell_some : GoesWell (some s) ↔ RequestsSound s := by
  simp [GoesWell]

theorem not_goesWell_none : ¬ GoesWell none := by
  simp [GoesWell]

/-- What keeps the requests does not matter. -/
theorem goesWell_map {result : Option PwmLedState} {f : PwmLedState → PwmLedState}
    (keeps : ∀ q, (f q).requests = q.requests) : GoesWell (result.map f) ↔ GoesWell result := by
  cases result with
  | none => rfl
  | some q =>
      rw [Option.map_some, goesWell_some, goesWell_some, RequestsSound, keeps]
      rfl

theorem goesWell_pwmPinSetUsec {r : PwmRequest} (sound : RequestsSound s) :
    GoesWell (pwmPinSetUsec pwmChannel s r) ↔
      (pwmChannel = true → s.pwmledDev = true ∧ r.onTime.toNat ≤ r.period.toNat) := by
  unfold pwmPinSetUsec
  cases pwmChannel with
  | false => simpa using goesWell_some.mpr sound
  | true =>
      cases s.pwmledDev with
      | false => simpa using not_goesWell_none
      | true =>
          simp only [Bool.not_true, Bool.false_eq_true, if_false, goesWell_some, true_and,
            forall_const]
          rw [RequestsSound, List.forall_mem_append, List.forall_mem_singleton]
          exact ⟨fun both => both.2, fun last => ⟨sound, last⟩⟩

theorem goesWell_turnPwmledOff (sound : RequestsSound s) :
    GoesWell (turnPwmledOff pwmChannel s) ↔ (pwmChannel = true → s.pwmledDev = true) := by
  unfold turnPwmledOff
  refine Iff.trans (goesWell_map ?_) ((goesWell_pwmPinSetUsec sound).trans ?_)
  · intro q
    rfl
  · simp

theorem goesWell_pwmledSetDuty {duty : BitVec 32} (sound : RequestsSound s) :
    GoesWell (pwmledSetDuty pwmChannel s duty) ↔
      (pwmChannel = true → s.pwmledDev = true ∧ Fits duty) := by
  rw [pwmledSetDuty, goesWell_pwmPinSetUsec sound, fits_iff]

theorem goesWell_pwmledSetup {deviceReady : Bool} (sound : RequestsSound s) :
    GoesWell ((pwmledSetup pwmChannel s deviceReady).map Prod.fst) ↔
      (pwmChannel = true → deviceReady = true → s.pwmledoff.due = none) := by
  have ends {q : PwmLedState} {rc : ℤ} (same : q.requests = s.requests) :
      GoesWell ((some (q, rc)).map Prod.fst) := by
    rw [Option.map_some, goesWell_some, RequestsSound, same]
    exact sound
  unfold pwmledSetup
  cases pwmChannel with
  | false => exact iff_of_true (ends rfl) nofun
  | true =>
      cases deviceReady with
      | false => exact iff_of_true (ends rfl) nofun
      | true =>
          dsimp only
          cases due : s.pwmledoff.due with
          | none => exact iff_of_true (ends rfl) fun _ _ => rfl
          | some due => exact iff_of_false not_goesWell_none (by simp)

theorem goesWell_turnPwmledOn {duty durationMs : BitVec 32} (sound : RequestsSound s) :
    GoesWell (turnPwmledOn pwmChannel s duty durationMs) ↔
      (pwmChannel = true → s.pwmledDev = true ∧ Fits (s.onDuty duty)) := by
  unfold turnPwmledOn
  cases pwmChannel with
  | false => exact iff_of_true (goesWell_some.mpr sound) nofun
  | true =>
      refine Iff.trans (goesWell_map ?_) (goesWell_pwmledSetDuty sound)
      intro q
      rfl

theorem goesWell_pwmledAdjustDuty {overflow : CString → BitVec 32} {delta : BitVec 32}
    (sound : RequestsSound s) :
    GoesWell (pwmledAdjustDuty pwmChannel s delta) ↔
      Proper pwmChannel overflow s (.adjust delta) := by
  rw [pwmledAdjustDuty, Proper]
  by_cases fits : IsInt (s.newDuty delta)
  · rw [if_neg (not_not.mpr fits), and_iff_right fits]
    dsimp only
    cases lit : s.pwmledValue with
    | false => exact iff_of_true (goesWell_some.mpr sound) nofun
    | true => exact (goesWell_pwmledSetDuty (by exact sound)).trans (by simp)
  · rw [if_pos fits]
    exact iff_of_false not_goesWell_none fun both => fits both.1

theorem goesWell_turnPwmledOffCb (sound : RequestsSound s) :
    GoesWell (turnPwmledOffCb pwmChannel s) ↔ (s.pwmledoff.ready = true →
      s.pwmledoffInit = true ∧ (pwmChannel = true → s.pwmledDev = true)) := by
  unfold turnPwmledOffCb
  cases s.pwmledoff.ready with
  | false => exact iff_of_true (goesWell_some.mpr sound) nofun
  | true =>
      cases s.pwmledoffInit with
      | false => exact iff_of_false not_goesWell_none (by simp)
      | true => exact (goesWell_turnPwmledOff (by exact sound)).trans (by simp)

theorem goesWell_cmdTestPwmled {overflow : CString → BitVec 32} {cmd : PwmLedCommand}
    (sound : RequestsSound s) :
    GoesWell (cmdTestPwmled pwmChannel overflow s cmd) ↔
      Proper pwmChannel overflow s (.command cmd) := by
  rw [Proper]
  obtain ⟨setup, does⟩ | ⟨noSetup, on, does⟩ | ⟨noSetup, other, duty, duration, does⟩ :=
    cmdTestPwmled_cases pwmChannel overflow s cmd
  · have other : cmd.subcommand "on" = false := subcommand_of_subcommand setup "on"
    rw [does, goesWell_pwmledSetup sound, setup, other]
    simp
  · rw [does, goesWell_turnPwmledOn sound, noSetup, on]
    simp
  · rw [does, noSetup, other]
    exact iff_of_true (goesWell_some.mpr sound) ⟨nofun, nofun⟩

/-- **What makes a step go well.** -/
theorem goesWell_iff {overflow : CString → BitVec 32} {lag : ℕ} {e : PwmLedEvent}
    (sound : RequestsSound s) :
    GoesWell (pwmLedStep pwmChannel overflow lag s e) ↔ Proper pwmChannel overflow s e := by
  cases e with
  | setup deviceReady => exact goesWell_pwmledSetup sound
  | on duty durationMs => exact goesWell_turnPwmledOn sound
  | off => exact goesWell_turnPwmledOff sound
  | setDuty duty => exact goesWell_pwmledSetDuty sound
  | adjust delta => exact goesWell_pwmledAdjustDuty sound
  | command cmd => exact goesWell_cmdTestPwmled sound
  | preSleep =>
      rw [pwmLedStep, pwmledPreSleep]
      refine iff_of_true ?_ trivial
      split
      · rename_i device
        exact (goesWell_turnPwmledOff sound).mpr fun _ => device
      · exact goesWell_some.mpr sound
  | work => exact goesWell_turnPwmledOffCb sound
  | wait => exact iff_of_true (goesWell_some.mpr sound) trivial

/-- **When nothing goes wrong**: exactly when every step is proper. -/
theorem requests_sound_iff_proper (pwmChannel : Bool) (overflow : CString → BitVec 32) (lag : ℕ)
    (es : List PwmLedEvent) :
    Safe (pwmLedStep pwmChannel overflow lag) RequestsSound bootPwmLed es ↔
      Meets (pwmLedStep pwmChannel overflow lag) (Proper pwmChannel overflow) bootPwmLed es := by
  refine safe_iff_meets (I := RequestsSound) (D := fun _ => True) id ?_ ?_
    (List.forall_mem_nil _) (fun _ _ => trivial)
  · intro s e sound _ proper
    exact (goesWell_iff sound).mpr proper
  · intro s e s' sound _ improper taken goes
    exact improper ((goesWell_iff sound).mp ⟨s', taken, goes⟩)

end Requests

-- dimming does not bring a duty above 100 percent down to it, and a LED that is on is set to it
example : ∃ t, run (pwmLedStep true (fun _ => 0) 0) bootPwmLed
    [.setup true, .command ⟨[.ofString "duty", .ofString "200"], true⟩, .on 10 1000,
      .adjust (-50)] = some t ∧ ¬ RequestsSound t := ⟨_, rfl, by decide⟩

end Ztacx.PwmLed
