import Mathlib.Data.List.Induction
import Ztacx.LedBlink

/-!
# Commands to a LED, and stopping it

The other entry points of `src/ztacx_led.c`.  The shell commands `on` and `off` make one
of the two work items expire at once, next to the one that is pending; `ztacx_led_stop`
cancels both items, one after the other, and turns the output off.  It runs in a thread
that the work queue preempts, so handlers may run between its three statements, each of
them as a whole: a cancellation finds no handler half way through.

After a command two items may be pending.  They come together at the next handler that
schedules the other item, since scheduling a pending item does nothing (`run_commands`).

A stop fails in one case.  What counts is the handler that is the last one to run between
the two cancellations: if it schedules `ledon`, which is cancelled already, the LED goes on
blinking; otherwise it stays dark (`ztacxLedStop_stopped_iff`).
-/

namespace Ztacx

open CModel

/-! ## The code -/

/-- What the work queue does: an item expires, with the settings of that moment, or time
passes. -/
inductive LedTick
  | expire (settings : LedSettings) (work : LedWork)
  | wait (t : ℕ)
deriving DecidableEq, Repr

/-- No time passes beyond the point at which an item is due. -/
def ledTick (led : Led) : LedTick → Option Led
  | .expire settings work => blinkStep led (settings, work)
  | .wait t =>
    if led.now ≤ t ∧ dueBefore led.ledon t = false ∧ dueBefore led.ledoff t = false then
      some { led with now := t }
    else none

/-- `k_work_reschedule(item, K_NO_WAIT)`: the item is due now, also if it was pending. -/
def kWorkRescheduleNow (now : ℕ) : Option ℕ := some now

/-- The work queue goes on, or one of the shell commands `on` and `off` of `cmd_ztacx_led`
comes in. -/
inductive LedCommand
  | tick (t : LedTick)
  | on
  | off
deriving DecidableEq, Repr

def ledCommand (led : Led) : LedCommand → Option Led
  | .tick t => ledTick led t
  | .on => some { led with ledon := kWorkRescheduleNow led.now }
  | .off => some { led with ledoff := kWorkRescheduleNow led.now }

/-- `ztacx_led_stop`, with what the work queue does after the first statement and after
the second. -/
def ztacxLedStop (led : Led) (first second : List LedTick) : Option Led := do
  let led ← run ledTick { led with ledon := none } first
  let led ← run ledTick { led with ledoff := none } second
  return { led with lit := false }

/-! ## What a handler schedules -/

/-- The item that a handler schedules: the other one, or itself in its degenerate case. -/
def schedules (settings : LedSettings) : LedWork → LedWork
  | .ledon => if settings.blink = false ∧ (settings.duty.toNat : ℤ) = 100 then .ledon else .ledoff
  | .ledoff => if settings.blink = false ∧ (settings.duty.toNat : ℤ) = 0 then .ledoff else .ledon

namespace Led

/-- The item of a LED. -/
def item (led : Led) : LedWork → Option ℕ
  | .ledon => led.ledon
  | .ledoff => led.ledoff

/-- An item is pending. -/
def Pending (led : Led) (work : LedWork) : Prop := (led.item work).isSome

/-- The LED is dark, and no handler is going to run. -/
structure Stopped (led : Led) : Prop where
  dark : led.lit = false
  idle : ∀ work, ¬ led.Pending work

theorem pending_setNow {led : Led} {t : ℕ} {work : LedWork} :
    ({ led with now := t } : Led).Pending work ↔ led.Pending work := by
  cases work <;> rfl

theorem pending_setLit {led : Led} {lit : Bool} {work : LedWork} :
    ({ led with lit := lit } : Led).Pending work ↔ led.Pending work := by
  cases work <;> rfl

theorem pending_clearLedon {led : Led} {work : LedWork} :
    ({ led with ledon := none } : Led).Pending work ↔ led.Pending work ∧ work ≠ .ledon := by
  cases work <;> simp [Pending, item]

theorem pending_clearLedoff {led : Led} {work : LedWork} :
    ({ led with ledoff := none } : Led).Pending work ↔ led.Pending work ∧ work ≠ .ledoff := by
  cases work <;> simp [Pending, item]

end Led

theorem isSome_kWorkSchedule (item : Option ℕ) (now : ℕ) (delay : ℤ) :
    (kWorkSchedule item now delay).isSome := by
  cases item <;> rfl

variable {led led' : Led} {settings : LedSettings} {work w : LedWork}

theorem pending_turnLedOn :
    (turnLedOn settings led).Pending w ↔ led.Pending w ∨ w = schedules settings .ledon := by
  unfold turnLedOn schedules
  simp only
  cases blink : settings.blink with
  | true => cases w <;> simp [Led.Pending, Led.item, isSome_kWorkSchedule]
  | false =>
      by_cases always : (settings.duty.toNat : ℤ) = 100
      · cases w <;> simp [Led.Pending, Led.item, isSome_kWorkSchedule, always]
      · cases w <;> simp [Led.Pending, Led.item, isSome_kWorkSchedule, always]

theorem pending_turnLedOff :
    (turnLedOff settings led).Pending w ↔ led.Pending w ∨ w = schedules settings .ledoff := by
  unfold turnLedOff schedules
  simp only
  cases blink : settings.blink with
  | true => cases w <;> simp [Led.Pending, Led.item, isSome_kWorkSchedule]
  | false =>
      by_cases never : settings.duty.toNat = 0
      · cases w <;> simp [Led.Pending, Led.item, isSome_kWorkSchedule, never]
      · cases w <;> simp [Led.Pending, Led.item, isSome_kWorkSchedule, never]

/-- An item that expires was pending, and the one it schedules is afterwards. -/
theorem pending_expire (taken : ledTick led (.expire settings work) = some led') :
    led.Pending work ∧
      ∀ w, led'.Pending w ↔ (led.Pending w ∧ w ≠ work) ∨ w = schedules settings work := by
  cases work with
  | ledon =>
      obtain ⟨due, pending, rest⟩ := Option.bind_eq_some_iff.mp taken
      split at rest
      · cases rest
      · rw [← Option.some.inj rest]
        refine ⟨Option.isSome_of_eq_some pending, fun w => ?_⟩
        rw [pending_turnLedOn]
        exact or_congr_left Led.pending_clearLedon
  | ledoff =>
      obtain ⟨due, pending, rest⟩ := Option.bind_eq_some_iff.mp taken
      split at rest
      · cases rest
      · rw [← Option.some.inj rest]
        refine ⟨Option.isSome_of_eq_some pending, fun w => ?_⟩
        rw [pending_turnLedOff]
        exact or_congr_left Led.pending_clearLedoff

theorem wait_eq_some {t : ℕ} (taken : ledTick led (.wait t) = some led') :
    led' = { led with now := t } := by
  rw [ledTick] at taken
  split at taken
  · exact (Option.some.inj taken).symm
  · cases taken

/-! ## Commands -/

/-- Some handler is going to run. -/
def Led.Running (led : Led) : Prop := ∃ work, led.Pending work

theorem ledCommand_running {command : LedCommand} (running : led.Running)
    (taken : ledCommand led command = some led') : led'.Running := by
  cases command with
  | tick t =>
      cases t with
      | expire settings work =>
          exact ⟨schedules settings work, ((pending_expire taken).2 _).mpr (.inr rfl)⟩
      | wait t =>
          obtain ⟨work, pending⟩ := running
          rw [wait_eq_some taken]
          exact ⟨work, Led.pending_setNow.mpr pending⟩
  | on =>
      rw [← Option.some.inj taken]
      exact ⟨.ledon, rfl⟩
  | off =>
      rw [← Option.some.inj taken]
      exact ⟨.ledoff, rfl⟩

theorem onePending_of_only {work : LedWork} (only : ∀ w, led.Pending w ↔ w = work) :
    led.OnePending := by
  have on := only .ledon
  have off := only .ledoff
  unfold Led.OnePending
  cases work with
  | ledon =>
      have isOn : led.ledon.isSome = true := on.mpr rfl
      have isOff : led.ledoff.isSome = false := by
        rw [Bool.eq_false_iff]
        exact fun some => absurd (off.mp some) nofun
      rw [isOn, isOff]
      rfl
  | ledoff =>
      have isOff : led.ledoff.isSome = true := off.mpr rfl
      have isOn : led.ledon.isSome = false := by
        rw [Bool.eq_false_iff]
        exact fun some => absurd (on.mp some) nofun
      rw [isOn, isOff]
      rfl

/-- There are only two items, so the other one is the one scheduled. -/
theorem onePending_of_expire (taken : ledTick led (.expire settings work) = some led')
    (other : schedules settings work ≠ work) : led'.OnePending := by
  refine @onePending_of_only _ (schedules settings work) fun w => ?_
  rw [(pending_expire taken).2]
  refine ⟨?_, .inr⟩
  rintro (⟨-, ne⟩ | rfl)
  · generalize schedules settings work = v at other ⊢
    cases w <;> cases work <;> cases v <;> first | rfl | contradiction
  · rfl

/-- **Commands do not stop a LED, and do not multiply it**: whatever commands came in, some
handler is going to run, and after the first one that schedules the other item, one item is
pending. -/
theorem run_commands {start led led' : Led} {commands : List LedCommand}
    (ran : run ledCommand (ztacxLedStart start) commands = some led) :
    led.Running ∧
      ∀ settings work, ledTick led (.expire settings work) = some led' →
        schedules settings work ≠ work → led'.OnePending := by
  refine ⟨?_, fun settings work => onePending_of_expire⟩
  have started : (ztacxLedStart start).Running := ⟨.ledon, rfl⟩
  exact run_invariant_of_step ledCommand_running started ran

/-- A second on and a second off. -/
def slowBlink : LedSettings := ⟨2000, 50, false⟩

/-- The command `on` while the LED is lit, half a second before it is due to go out. -/
def onWhileLit : List LedCommand := [.tick (.expire slowBlink .ledon), .tick (.wait 500), .on]

theorem onWhileLit_onePending : (⟨500, true, none, some 1000⟩ : Led).OnePending :=
  (@run_commands ⟨0, false, none, none⟩ ⟨500, true, some 500, some 1000⟩ _ onWhileLit rfl).2
    slowBlink .ledon rfl nofun

/-! ## Stopping -/

/-- The item that is pending after a tick, where at most one was. -/
def pendingStep (pending : Option LedWork) : LedTick → Option LedWork
  | .expire settings work => some (schedules settings work)
  | .wait _ => pending

def pendingAfter (pending : Option LedWork) (ticks : List LedTick) : Option LedWork :=
  ticks.foldl pendingStep pending

/-- The item that the last of the handlers scheduled. -/
def lastScheduled (ticks : List LedTick) : Option LedWork := pendingAfter none ticks

theorem pendingAfter_some (w : LedWork) (ticks : List LedTick) :
    pendingAfter (some w) ticks = some ((lastScheduled ticks).getD w) := by
  unfold lastScheduled pendingAfter
  induction ticks using List.reverseRecOn with
  | nil => rfl
  | append_singleton ticks tick ih =>
      rw [List.foldl_append, List.foldl_append]
      cases tick with
      | expire settings work => rfl
      | wait t => exact ih

/-- At most one item is pending, and it is this one. -/
def Led.Only (led : Led) (pending : Option LedWork) : Prop := ∀ w, led.Pending w ↔ pending = some w

theorem ledTick_only {pending : Option LedWork} {tick : LedTick} (only : led.Only pending)
    (taken : ledTick led tick = some led') : led'.Only (pendingStep pending tick) := by
  cases tick with
  | wait t =>
      rw [wait_eq_some taken]
      exact fun w => Led.pending_setNow.trans (only w)
  | expire settings work =>
      intro w
      obtain ⟨was, after⟩ := pending_expire taken
      have expired : pending = some work := (only work).mp was
      rw [after, only, expired, pendingStep]
      constructor
      · rintro (⟨same, ne⟩ | rfl)
        · exact absurd (Option.some.inj same).symm ne
        · rfl
      · exact fun same => .inr (Option.some.inj same).symm

theorem run_only {pending : Option LedWork} {ticks : List LedTick} (only : led.Only pending)
    (ran : run ledTick led ticks = some led') : led'.Only (pendingAfter pending ticks) :=
  run_follows ledTick_only only ran

/-- With nothing pending only time passes, and the output stays as it is. -/
theorem run_idle {ticks : List LedTick} (only : led.Only none)
    (ran : run ledTick led ticks = some led') : led'.Only none ∧ led'.lit = led.lit := by
  refine run_invariant_of_step (I := fun next => next.Only none ∧ next.lit = led.lit) ?_
    ⟨only, rfl⟩ ran
  rintro before tick next ⟨only, same⟩ taken
  cases tick with
  | expire settings work => exact absurd ((only work).mp (pending_expire taken).1) nofun
  | wait t =>
      rw [wait_eq_some taken]
      exact ⟨fun w => Led.pending_setNow.trans (only w), same⟩

theorem Led.Only.stopped (only : led.Only none) (dark : led.lit = false) : led.Stopped :=
  ⟨dark, fun w pending => absurd ((only w).mp pending) nofun⟩

theorem Led.Only.not_stopped {w : LedWork} (only : led.Only (some w)) : ¬ led.Stopped :=
  fun stopped => stopped.idle w ((only w).mpr rfl)

/-- What is pending after the two cancellations, whatever it was before. -/
theorem only_of_cancel {first : List LedTick} {led₁ : Led}
    (ran : run ledTick { led with ledon := none } first = some led₁) :
    ({ led₁ with ledoff := none } : Led).Only ((lastScheduled first).filter (· = .ledon)) := by
  have only : led₁.Only (lastScheduled first) ∨
      led₁.Only (some ((lastScheduled first).getD .ledoff)) := by
    cases off : led.ledoff with
    | none =>
        refine .inl (run_only (fun w => ?_) ran)
        cases w <;> simp [Led.Pending, Led.item, off]
    | some due =>
        rw [← pendingAfter_some]
        refine .inr (run_only (fun w => ?_) ran)
        cases w <;> simp [Led.Pending, Led.item, off]
  intro w
  rw [Led.pending_clearLedoff]
  generalize lastScheduled first = last at only
  obtain only | only := only <;> rw [only w] <;> cases last with
  | none => cases w <;> simp
  | some v => cases v <;> cases w <;> simp

/-- **When a LED stays stopped**: if and only if the last handler that ran between the two
cancellations did not schedule `ledon`. -/
theorem ztacxLedStop_stopped_iff {led led' led'' : Led} {first second later : List LedTick}
    (stop : ztacxLedStop led first second = some led')
    (ran : run ledTick led' later = some led'') :
    led''.Stopped ↔ lastScheduled first ≠ some .ledon := by
  obtain ⟨led₁, ran₁, stop⟩ := Option.bind_eq_some_iff.mp stop
  obtain ⟨led₂, ran₂, stop⟩ := Option.bind_eq_some_iff.mp stop
  cases stop
  have only := only_of_cancel ran₁
  by_cases on : lastScheduled first = some .ledon
  · rw [on] at only
    have only₂ := run_only only ran₂
    have only₃ := run_only (fun w => Led.pending_setLit.trans (only₂ w)) ran
    rw [show Option.filter (· = LedWork.ledon) (some LedWork.ledon) = some LedWork.ledon from rfl,
      pendingAfter_some, pendingAfter_some] at only₃
    exact iff_of_false only₃.not_stopped (not_not_intro on)
  · have off : (lastScheduled first).filter (· = .ledon) = none := by
      rw [Option.filter_eq_none_iff]
      intro w mem isOn
      exact on (of_decide_eq_true isOn ▸ mem)
    rw [off] at only
    have idle₂ := run_idle only ran₂
    have idle₃ := run_idle (fun w => Led.pending_setLit.trans (idle₂.1 w)) ran
    exact iff_of_true (idle₃.1.stopped idle₃.2) on

/-- The LED is due to go out while it is being stopped, and lights up again. -/
theorem slowBlink_not_stopped : ¬ (⟨1000, false, some 2000, none⟩ : Led).Stopped := by
  rw [@ztacxLedStop_stopped_iff ⟨1000, true, none, some 1000⟩ ⟨1000, false, some 2000, none⟩ _
    [.expire slowBlink .ledoff] [] [] rfl rfl]
  exact not_not_intro rfl

end Ztacx
