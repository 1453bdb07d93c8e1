import Mathlib.Algebra.Order.Ring.Int
import Ztacx.CModel.Run

/-!
# Blinking

`turn_led_on` and `turn_led_off` of `src/ztacx_led.c` with the two delayable work
items that call them.  Each handler schedules the other one, or itself in a
degenerate case, so exactly one item is pending at any time (`Led.OnePending`),
whatever the settings were when the handlers ran.

With constant settings a run alternates between the two handlers.  Where it is in
that alternation determines which item is pending and when it is due, and from
that all the times at which the handlers run are known (`handledAt_constant`).
Both delays are rounded down, so a round is a millisecond short unless both
divisions are exact (`keepsTime_iff`).

Of the work items this assumes what Zephyr documents: to schedule one that is
pending does nothing, one that is not pending is due after the delay, its handler
runs as a whole, and it is no longer pending by then.
-/

namespace Ztacx

open CModel

/-! ## The code -/

/-- What the handlers read: `CTX_SETTING(CYCLE)`, `CTX_SETTING(DUTY)` and
`CTX_VALUE(BLINK)`. -/
structure LedSettings where
  cycle : BitVec 16
  duty : BitVec 8
  blink : Bool
deriving DecidableEq, Repr

/-- The output, the two work items with the time at which they are due if they are
pending, and the clock in milliseconds. -/
structure Led where
  now : ℕ
  lit : Bool
  ledon : Option ℕ
  ledoff : Option ℕ
deriving DecidableEq, Repr

/-- `k_work_schedule(item, K_MSEC(delay))`, as Zephyr documents it: an item that is
pending stays as it is, and a negative delay is none. -/
def kWorkSchedule (item : Option ℕ) (now : ℕ) (delay : ℤ) : Option ℕ :=
  match item with
  | some due => some due
  | none => some (now + delay.toNat)

def turnLedOn (settings : LedSettings) (led : Led) : Led :=
  let led := { led with lit := true }
  if settings.blink then { led with ledoff := kWorkSchedule led.ledoff led.now 100 }
  else
    let duty : ℤ := settings.duty.toNat
    let cycle : ℤ := settings.cycle.toNat
    if duty = 100 then { led with ledon := kWorkSchedule led.ledon led.now cycle }
    else { led with ledoff := kWorkSchedule led.ledoff led.now ((cycle * duty).tdiv 100) }

def turnLedOff (settings : LedSettings) (led : Led) : Led :=
  let led := { led with lit := false }
  if settings.blink then { led with ledon := kWorkSchedule led.ledon led.now 100 }
  else
    let duty : ℤ := settings.duty.toNat
    let cycle : ℤ := settings.cycle.toNat
    if duty = 0 then { led with ledoff := kWorkSchedule led.ledoff led.now cycle }
    else { led with ledon := kWorkSchedule led.ledon led.now ((cycle * (100 - duty)).tdiv 100) }

/-- `ztacx_led_start` -/
def ztacxLedStart (led : Led) : Led :=
  { led with ledoff := none, ledon := kWorkSchedule none led.now 0 }

/-! ## Runs -/

/-- The work items. -/
inductive LedWork
  | ledon
  | ledoff
deriving DecidableEq, Repr

/-- Another item is due before this one. -/
def dueBefore (other : Option ℕ) (due : ℕ) : Bool := other.any (· < due)

/-- An item expires exactly when it is due, and its handler runs with the settings of
that moment. -/
def blinkStep (led : Led) (event : LedSettings × LedWork) : Option Led :=
  match event.2 with
  | .ledon => led.ledon.bind fun due =>
      if dueBefore led.ledoff due then none
      else some (turnLedOn event.1 { led with now := due, ledon := none })
  | .ledoff => led.ledoff.bind fun due =>
      if dueBefore led.ledon due then none
      else some (turnLedOff event.1 { led with now := due, ledoff := none })

/-- The times at which the handler of an item runs. -/
def handledAt (work : LedWork) : Led → List (LedSettings × LedWork) → List ℕ
  | _, [] => []
  | led, event :: events =>
    match blinkStep led event with
    | none => []
    | some led' =>
      if event.2 = work then led'.now :: handledAt work led' events
      else handledAt work led' events

theorem handledAt_cons (work : LedWork) {led led' : Led} {event : LedSettings × LedWork}
    (taken : blinkStep led event = some led') (events : List (LedSettings × LedWork)) :
    handledAt work led (event :: events) =
      if event.2 = work then led'.now :: handledAt work led' events
      else handledAt work led' events := by
  rw [handledAt, taken]

theorem handledAt_cons_of_idle (work : LedWork) {led : Led} {event : LedSettings × LedWork}
    (idle : blinkStep led event = none) (events : List (LedSettings × LedWork)) :
    handledAt work led (event :: events) = [] := by
  rw [handledAt, idle]

/-! ## One item is pending -/

/-- One of the two items is pending, and not both. -/
def Led.OnePending (led : Led) : Prop := led.ledon.isSome = !led.ledoff.isSome

theorem ztacxLedStart_onePending (led : Led) : (ztacxLedStart led).OnePending := rfl

theorem turnLedOn_onePending (settings : LedSettings) {led : Led} (on : led.ledon = none)
    (off : led.ledoff = none) : (turnLedOn settings led).OnePending := by
  unfold turnLedOn
  simp only [on, off]
  split
  · rfl
  · split <;> rfl

theorem turnLedOff_onePending (settings : LedSettings) {led : Led} (on : led.ledon = none)
    (off : led.ledoff = none) : (turnLedOff settings led).OnePending := by
  unfold turnLedOff
  simp only [on, off]
  split
  · rfl
  · split <;> rfl

/-- The item that expired was the only one. -/
theorem blinkStep_onePending {led led' : Led} {event : LedSettings × LedWork}
    (one : led.OnePending) (taken : blinkStep led event = some led') : led'.OnePending := by
  obtain ⟨settings, work⟩ := event
  cases work with
  | ledon =>
      obtain ⟨due, pending, rest⟩ := Option.bind_eq_some_iff.mp taken
      have off : led.ledoff = none := by
        rw [Led.OnePending, pending] at one
        simpa using one
      split at rest
      · cases rest
      · rw [← Option.some.inj rest]
        exact turnLedOn_onePending settings rfl off
  | ledoff =>
      obtain ⟨due, pending, rest⟩ := Option.bind_eq_some_iff.mp taken
      have on : led.ledon = none := by
        rw [Led.OnePending, pending] at one
        simpa using one
      split at rest
      · cases rest
      · rw [← Option.some.inj rest]
        exact turnLedOff_onePending settings on rfl

/-- **The LED never stops.** -/
theorem run_onePending (led : Led) {events : List (LedSettings × LedWork)} {led' : Led}
    (reached : run blinkStep (ztacxLedStart led) events = some led') : led'.OnePending :=
  run_invariant_of_step blinkStep_onePending (ztacxLedStart_onePending led) reached

/-! ## Constant settings -/

/-- A cycle and a duty that are neither of the degenerate cases. -/
structure SteadyBlink where
  cycle : BitVec 16
  duty : BitVec 8
  one_le_cycle : 1 ≤ cycle.toNat
  one_le_duty : 1 ≤ duty.toNat
  duty_le : duty.toNat ≤ 99

namespace SteadyBlink

variable (b : SteadyBlink)

def settings : LedSettings := ⟨b.cycle, b.duty, false⟩

/-- Expiries under these settings. -/
def events (works : List LedWork) : List (LedSettings × LedWork) :=
  works.map fun work => (b.settings, work)

theorem events_cons (work : LedWork) (works : List LedWork) :
    b.events (work :: works) = (b.settings, work) :: b.events works := rfl

/-- The milliseconds the LED is on in each round. -/
def onTime : ℕ := b.cycle.toNat * b.duty.toNat / 100

/-- The milliseconds it is off. -/
def offTime : ℕ := b.cycle.toNat * (100 - b.duty.toNat) / 100

/-- A dark LED is lit when `ledon` is due. -/
theorem blinkStep_ledon {led : Led} {due : ℕ} (on : led.ledon = some due)
    (off : led.ledoff = none) :
    blinkStep led (b.settings, .ledon) = some ⟨due, true, none, some (due + b.onTime)⟩ := by
  have noDegenerate : ¬ (b.duty.toNat : ℤ) = 100 := by
    have := b.duty_le
    omega
  have delay : ((b.cycle.toNat : ℤ) * b.duty.toNat).tdiv 100 = (b.onTime : ℤ) := by
    rw [Int.tdiv_eq_ediv_of_nonneg (Int.mul_nonneg (Int.natCast_nonneg _) (Int.natCast_nonneg _))]
    rfl
  rw [blinkStep, on]
  simp only [Option.bind_some, off, dueBefore, Option.any_none, Bool.false_eq_true, if_false]
  rw [turnLedOn]
  simp only [settings, Bool.false_eq_true, if_false, if_neg noDegenerate, delay]
  rfl

/-- A lit LED goes out when `ledoff` is due. -/
theorem blinkStep_ledoff {led : Led} {due : ℕ} (on : led.ledon = none)
    (off : led.ledoff = some due) :
    blinkStep led (b.settings, .ledoff) = some ⟨due, false, some (due + b.offTime), none⟩ := by
  have noDegenerate : ¬ (b.duty.toNat : ℤ) = 0 := by
    have := b.one_le_duty
    omega
  have delay : ((b.cycle.toNat : ℤ) * (100 - b.duty.toNat)).tdiv 100 = (b.offTime : ℤ) := by
    have below := b.duty_le
    have difference : (100 : ℤ) - b.duty.toNat = ((100 - b.duty.toNat : ℕ) : ℤ) := by omega
    rw [difference, Int.tdiv_eq_ediv_of_nonneg
      (Int.mul_nonneg (Int.natCast_nonneg _) (Int.natCast_nonneg _))]
    rfl
  rw [blinkStep, off]
  simp only [Option.bind_some, on, dueBefore, Option.any_none, Bool.false_eq_true, if_false]
  rw [turnLedOff]
  simp only [settings, Bool.false_eq_true, if_false, if_neg noDegenerate, delay]
  rfl

theorem blinkStep_idle_ledon {led : Led} (on : led.ledon = none) :
    blinkStep led (b.settings, .ledon) = none := by
  rw [blinkStep, on]
  rfl

theorem blinkStep_idle_ledoff {led : Led} (off : led.ledoff = none) :
    blinkStep led (b.settings, .ledoff) = none := by
  rw [blinkStep, off]
  rfl

/-- From one `turn_led_on` to the next. -/
def roundTime : ℕ := b.onTime + b.offTime

/-- The times of a dark LED and of a lit one, which turn into each other. -/
theorem handledAt_constant (works : List LedWork) :
    (∀ {led : Led} {due : ℕ}, led.ledon = some due → led.ledoff = none → ∀ i t,
      ((handledAt .ledon led (b.events works))[i]? = some t → t = due + i * b.roundTime) ∧
      ((handledAt .ledoff led (b.events works))[i]? = some t →
        t = due + b.onTime + i * b.roundTime)) ∧
    ∀ {led : Led} {due : ℕ}, led.ledon = none → led.ledoff = some due → ∀ i t,
      ((handledAt .ledon led (b.events works))[i]? = some t →
        t = due + b.offTime + i * b.roundTime) ∧
      ((handledAt .ledoff led (b.events works))[i]? = some t → t = due + i * b.roundTime) := by
  -- by the number of expiries; each leads from a dark LED to a lit one or back
  induction works with
  | nil => exact ⟨fun _ _ i t => ⟨nofun, nofun⟩, fun _ _ i t => ⟨nofun, nofun⟩⟩
  | cons work works ih =>
      obtain ⟨dark, lit⟩ := ih
      constructor
      · intro led due on off i t
        rw [events_cons]
        cases work with
        | ledoff =>
            have idle := b.blinkStep_idle_ledoff off
            rw [handledAt_cons_of_idle _ idle, handledAt_cons_of_idle _ idle]
            exact ⟨nofun, nofun⟩
        | ledon =>
            have taken := b.blinkStep_ledon on off
            have lit := @lit ⟨due, true, none, some (due + b.onTime)⟩ _ rfl rfl
            rw [handledAt_cons _ taken, handledAt_cons _ taken, if_pos rfl, if_neg nofun]
            refine ⟨fun handled => ?_, (lit i t).2⟩
            cases i with
            | zero => rw [← Option.some.inj handled, Nat.zero_mul, Nat.add_zero]
            | succ i =>
                rw [(lit i t).1 handled, Nat.succ_mul, roundTime]
                omega
      · intro led due on off i t
        rw [events_cons]
        cases work with
        | ledon =>
            have idle := b.blinkStep_idle_ledon on
            rw [handledAt_cons_of_idle _ idle, handledAt_cons_of_idle _ idle]
            exact ⟨nofun, nofun⟩
        | ledoff =>
            have taken := b.blinkStep_ledoff on off
            have dark := @dark ⟨due, false, some (due + b.offTime), none⟩ _ rfl rfl
            rw [handledAt_cons _ taken, handledAt_cons _ taken, if_neg nofun, if_pos rfl]
            refine ⟨(dark i t).1, fun handled => ?_⟩
            cases i with
            | zero => rw [← Option.some.inj handled, Nat.zero_mul, Nat.add_zero]
            | succ i =>
                rw [(dark i t).2 handled, Nat.succ_mul, roundTime]
                omega

/-- The times at which a started LED is lit. -/
def litAt (led : Led) (works : List LedWork) : List ℕ :=
  handledAt .ledon (ztacxLedStart led) (b.events works)

/-- The times at which it goes out. -/
def darkAt (led : Led) (works : List LedWork) : List ℕ :=
  handledAt .ledoff (ztacxLedStart led) (b.events works)

variable {b} {led : Led} {works : List LedWork} {i t : ℕ}

theorem litAt_eq (handled : (b.litAt led works)[i]? = some t) : t = led.now + i * b.roundTime :=
  ((b.handledAt_constant works).1 rfl rfl i t).1 handled

theorem darkAt_eq (handled : (b.darkAt led works)[i]? = some t) :
    t = led.now + b.onTime + i * b.roundTime :=
  ((b.handledAt_constant works).1 rfl rfl i t).2 handled

variable (b)

/-- The first round of a LED. -/
theorem litAt_firstRound (led : Led) :
    b.litAt led [.ledon, .ledoff, .ledon] = [led.now, led.now + b.roundTime] := by
  have first := @b.blinkStep_ledon (ztacxLedStart led) led.now rfl rfl
  have second := @b.blinkStep_ledoff ⟨led.now, true, none, some (led.now + b.onTime)⟩ _ rfl rfl
  have third := @b.blinkStep_ledon
    ⟨led.now + b.onTime, false, some (led.now + b.onTime + b.offTime), none⟩ _ rfl rfl
  simp [litAt, events, handledAt, first, second, third, roundTime]
  omega

/-- Rounding down twice loses a millisecond unless nothing is rounded. -/
theorem roundTime_eq_cycle_iff :
    b.roundTime = b.cycle.toNat ↔ 100 ∣ b.cycle.toNat * b.duty.toNat := by
  have split : b.cycle.toNat * (100 - b.duty.toNat) =
      100 * b.cycle.toNat - b.cycle.toNat * b.duty.toNat := by
    rw [Nat.mul_sub, Nat.mul_comm _ 100]
  have below : b.cycle.toNat * b.duty.toNat ≤ b.cycle.toNat * 100 :=
    Nat.mul_le_mul_left _ (by have := b.duty_le; omega)
  rw [roundTime, onTime, offTime, split]
  omega

end SteadyBlink

/-! ## What blinking is -/

/-- A started LED keeps its cycle and its duty, and never stops. -/
structure KeepsTime (b : SteadyBlink) : Prop where
  /-- `k` rounds take `k` cycles. -/
  rounds : ∀ (led : Led) (works : List LedWork) (i k t u : ℕ),
    (b.litAt led works)[i]? = some t → (b.litAt led works)[i + k]? = some u →
      u = t + k * b.cycle.toNat
  /-- In each round the LED is on for its share of the cycle to within a millisecond. -/
  litFor : ∀ (led : Led) (works : List LedWork) (i t u : ℕ),
    (b.litAt led works)[i]? = some t → (b.darkAt led works)[i]? = some u →
      t ≤ u ∧ b.cycle.toNat * b.duty.toNat ≤ 100 * (u - t) + 100 ∧
        100 * (u - t) ≤ b.cycle.toNat * b.duty.toNat + 100
  /-- No round has a total delay of 0. -/
  advances : ∀ (led : Led) (works : List LedWork) (i t u : ℕ),
    (b.litAt led works)[i]? = some t → (b.litAt led works)[i + 1]? = some u → t < u
  /-- An item is pending after each handler, whatever the settings were. -/
  pending : ∀ (led led' : Led) (events : List (LedSettings × LedWork)),
    run blinkStep (ztacxLedStart led) events = some led' → led'.ledon.isSome ∨ led'.ledoff.isSome

theorem pending_of_run {led led' : Led} {events : List (LedSettings × LedWork)}
    (reached : run blinkStep (ztacxLedStart led) events = some led') :
    led'.ledon.isSome ∨ led'.ledoff.isSome := by
  have one := run_onePending led reached
  rw [Led.OnePending] at one
  cases off : led'.ledoff.isSome with
  | true => exact Or.inr rfl
  | false =>
      rw [off] at one
      exact Or.inl one

theorem keepsTime_iff (b : SteadyBlink) :
    KeepsTime b ↔ 100 ∣ b.cycle.toNat * b.duty.toNat := by
  rw [← b.roundTime_eq_cycle_iff]
  constructor
  · intro keeps
    let led : Led := ⟨0, false, none, none⟩
    have round := b.litAt_firstRound led
    have one := keeps.rounds led [.ledon, .ledoff, .ledon] 0 1 0 (0 + b.roundTime)
      (by rw [round]; rfl) (by rw [round]; rfl)
    omega
  · intro whole
    have cycle := b.one_le_cycle
    refine ⟨?_, ?_, ?_, fun led led' events reached => pending_of_run reached⟩
    · intro led works i k t u first last
      rw [SteadyBlink.litAt_eq first, SteadyBlink.litAt_eq last, ← whole, Nat.add_mul]
      omega
    · intro led works i t u lit dark
      rw [SteadyBlink.litAt_eq lit, SteadyBlink.darkAt_eq dark, SteadyBlink.onTime]
      omega
    · intro led works i t u first next
      rw [SteadyBlink.litAt_eq first, SteadyBlink.litAt_eq next, whole, Nat.succ_mul]
      omega

/-- Half of a cycle of one millisecond. -/
def shortestBlink : SteadyBlink := ⟨1, 50, by decide, by decide, by decide⟩

/-- Both delays are 0, so the two handlers schedule each other without end. -/
theorem shortestBlink_not_keepsTime : ¬ KeepsTime shortestBlink := by
  intro keeps
  exact absurd (keeps.advances ⟨0, false, none, none⟩ [.ledon, .ledoff, .ledon] 0 0 0 (by decide)
    (by decide)) (by decide)

end Ztacx
