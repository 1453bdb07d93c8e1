import Ztacx.CModel.Run

/-!
# A device that switches itself off

Something switches a device on, and schedules an item of delayable work that is going to
switch it off.  To schedule an item that is pending already has no effect: the item keeps the
time of the first schedule since it last ran, whatever comes in between.

Time passes in milliseconds.  The item does not run before its time, and the work queue is at
most `lag` milliseconds late: the clock does not get any further while the item is waiting.
This, and that an item that is pending cannot be scheduled again, is what is assumed of
`k_work_schedule` and of the queue, as Zephyr documents them; a handler is one step, in which
nothing else happens.

* `Switched.armedFor_of_due` — the time of a pending item is the delay of one schedule after
  the time of that schedule, which found the item idle; the item has been pending for that
  time ever since.
* `Switched.lit_since` — a device that is on has its item pending for such a time, which has
  passed by the lag at most.
* `Switched.lit_eq_pending` — a device that only its item keeps from being on is on exactly
  while the item is pending.
-/

namespace Ztacx.CModel

/-! ## The item and the clock -/

/-- `K_MSEC` of an `int`, in milliseconds. -/
def kMsec (t : BitVec 32) : ℕ := t.toInt.toNat

/-- The clock, and the time of the item if it is pending. -/
structure OneShot where
  now : ℕ
  due : Option ℕ
deriving DecidableEq, Repr

namespace OneShot

/-- What an event of a device is to its item. -/
inductive Event
  | wait
  | schedule (delay : ℕ)
  | fire
  | other
deriving DecidableEq, Repr

def schedule (c : OneShot) (delay : ℕ) : OneShot :=
  { c with due := some (c.due.getD (c.now + delay)) }

/-- The item is pending, and its time has come. -/
def ready (c : OneShot) : Bool := c.due.any fun due => due ≤ c.now

/-- The work queue runs the item if it is ready. -/
def fire (c : OneShot) : OneShot := if c.ready then { c with due := none } else c

/-- A millisecond passes, unless the item has waited for too long. -/
def wait (lag : ℕ) (c : OneShot) : OneShot :=
  if c.due.all fun due => c.now < due + lag then { c with now := c.now + 1 } else c

def next (lag : ℕ) (c : OneShot) : Event → OneShot
  | .wait => c.wait lag
  | .schedule delay => c.schedule delay
  | .fire => c.fire
  | .other => c

/-- The work queue is not too late. -/
def Timely (lag : ℕ) (c : OneShot) : Prop := ∀ due, c.due = some due → c.now ≤ due + lag

variable {lag : ℕ} {c : OneShot}

@[simp] theorem due_wait : (c.wait lag).due = c.due := by
  unfold wait
  split <;> rfl

/-- An item that was idle is pending because it has been scheduled. -/
theorem schedule_of_due_next {event : Event} {due : ℕ} (idle : c.due = none)
    (pending : (c.next lag event).due = some due) :
    ∃ delay, event = .schedule delay ∧ due = c.now + delay := by
  cases event with
  | wait =>
      rw [next, due_wait, idle] at pending
      cases pending
  | schedule delay =>
      refine ⟨delay, rfl, ?_⟩
      simpa [next, schedule, idle] using pending.symm
  | fire =>
      rw [next, fire, ready, idle] at pending
      simp [idle] at pending
  | other =>
      rw [next, idle] at pending
      cases pending

/-- **The first schedule counts**: an item that stays pending keeps its time. -/
theorem due_eq_of_due_next {event : Event} {due due' : ℕ} (pending : c.due = some due)
    (still : (c.next lag event).due = some due') : due' = due := by
  cases event with
  | wait =>
      rw [next, due_wait, pending] at still
      exact (Option.some.inj still).symm
  | schedule delay =>
      simpa [next, schedule, pending] using still.symm
  | fire =>
      rw [next, fire] at still
      split at still
      · cases still
      · exact Option.some.inj (still.symm.trans pending)
  | other => exact Option.some.inj (still.symm.trans pending)

theorem Timely.next (timely : c.Timely lag) (event : Event) : (c.next lag event).Timely lag := by
  cases event with
  | wait =>
      intro due pending
      rw [OneShot.next, due_wait] at pending
      rw [OneShot.next, wait]
      split
      · rename_i early
        have early : c.now < due + lag := by simpa [pending] using early
        exact early
      · exact timely due pending
  | schedule delay =>
      intro due pending
      cases before : c.due with
      | some due' =>
          cases due_eq_of_due_next before pending
          exact timely due before
      | none =>
          obtain ⟨delay', same, rfl⟩ := schedule_of_due_next before pending
          show c.now ≤ c.now + delay' + lag
          omega
  | fire =>
      intro due pending
      rw [OneShot.next, fire] at pending ⊢
      split at pending
      · cases pending
      · rename_i waits
        rw [if_neg waits]
        exact timely due pending
  | other => exact timely

end OneShot

/-! ## Devices -/

/-- What an event does to the item and to the device, which is on or off.  Only an event
`byHand` leaves it off without the item: it switches it off, or schedules the item and does not
switch it on. -/
inductive Switching (lag : ℕ) (byHand : Prop) (c : OneShot) (lit : Bool) :
    OneShot → Bool → OneShot.Event → Prop
  | still : Switching lag byHand c lit c lit .other
  | on (delay : ℕ) : Switching lag byHand c lit (c.schedule delay) true (.schedule delay)
  | off (hand : byHand) : Switching lag byHand c lit c false .other
  | mute (hand : byHand) (delay : ℕ) :
      Switching lag byHand c lit (c.schedule delay) false (.schedule delay)
  | fire (ready : c.ready = true) : Switching lag byHand c lit c.fire false .fire
  | wait : Switching lag byHand c lit (c.wait lag) lit .wait

namespace Switching

variable {lag : ℕ} {byHand : Prop} {c c' : OneShot} {lit lit' : Bool} {event : OneShot.Event}

theorem eq_next (switching : Switching lag byHand c lit c' lit' event) :
    c' = c.next lag event := by
  cases switching <;> rfl

/-- What leaves the device on leaves the item pending. -/
theorem isSome_due (switching : Switching lag byHand c lit c' lit' event)
    (pending : lit = true → c.due.isSome = true) (on : lit' = true) : c'.due.isSome = true := by
  cases switching with
  | still => exact pending on
  | on delay => rfl
  | off hand | mute hand delay => exact absurd on Bool.false_ne_true
  | fire ready => exact absurd on Bool.false_ne_true
  | wait =>
      rw [OneShot.due_wait]
      exact pending on

theorem lit_eq_isSome_due (switching : Switching lag byHand c lit c' lit' event)
    (free : ¬ byHand) (same : lit = c.due.isSome) : lit' = c'.due.isSome := by
  cases switching with
  | still => exact same
  | on delay => rfl
  | off hand | mute hand delay => exact absurd hand free
  | fire ready =>
      rw [OneShot.fire, if_pos ready]
      rfl
  | wait =>
      rw [OneShot.due_wait]
      exact same

end Switching

universe u v

variable {σ : Type u} {ε : Type v}

/-- A system with a clock and a device that its item switches off. -/
structure Switched (step : σ → ε → Option σ) (lag : ℕ) where
  clock : σ → OneShot
  lit : σ → Bool
  kind : σ → ε → OneShot.Event
  byHand : σ → ε → Prop
  switches : ∀ {s e t}, step s e = some t →
    Switching lag (byHand s e) (clock s) (lit s) (clock t) (lit t) (kind s e)

namespace Switched

variable {step : σ → ε → Option σ} {lag : ℕ} (device : Switched step lag) {s t : σ} {es : List ε}

/-- In the run of the events `es` from `s`, some event scheduled the item when it was idle,
for the time `due`, and since then it has been pending for that time. -/
def ArmedFor (s : σ) (es : List ε) (due : ℕ) : Prop :=
  ∃ before e after r r' delay, es = before ++ e :: after ∧
    run step s before = some r ∧ (device.clock r).due = none ∧
    device.kind r e = .schedule delay ∧ due = (device.clock r).now + delay ∧
    step r e = some r' ∧ Throughout step (fun q => (device.clock q).due = some due) r' after

/-- **Why an item is pending.** -/
theorem armedFor_of_due {due : ℕ} (idle : (device.clock s).due = none)
    (ran : run step s es = some t) (pending : (device.clock t).due = some due) :
    device.ArmedFor s es due := by
  have start : (device.clock s).due ≠ some due := by
    rw [idle]
    exact nofun
  obtain ⟨before, e, after, r, r', rfl, ran', other, taken, kept⟩ :=
    run_since (P := fun q => (device.clock q).due = some due) start ran pending
  have now : ((device.clock r).next lag (device.kind r e)).due = some due := by
    rw [← (device.switches taken).eq_next]
    exact kept [] List.nil_prefix r' rfl
  have idle : (device.clock r).due = none := by
    cases item : (device.clock r).due with
    | none => rfl
    | some due' =>
        cases OneShot.due_eq_of_due_next item now
        exact absurd item other
  obtain ⟨delay, schedules, rfl⟩ := OneShot.schedule_of_due_next idle now
  exact ⟨before, e, after, r, r', delay, rfl, ran', idle, schedules, rfl, taken, kept⟩

theorem timely_of_run (idle : (device.clock s).due = none) (ran : run step s es = some t) :
    (device.clock t).Timely lag := by
  refine run_invariant_of_step (I := fun s => (device.clock s).Timely lag) ?_ ?_ ran
  · intro s e s' timely taken
    rw [(device.switches taken).eq_next]
    exact timely.next _
  · intro due pending
    rw [idle] at pending
    cases pending

/-- **For how long a device is on.** -/
theorem lit_since (idle : (device.clock s).due = none) (dark : device.lit s = false)
    (ran : run step s es = some t) (lit : device.lit t = true) :
    ∃ due, device.ArmedFor s es due ∧ (device.clock t).due = some due ∧
      (device.clock t).now ≤ due + lag := by
  have pending : device.lit t = true → (device.clock t).due.isSome = true := by
    refine run_invariant_of_step
      (I := fun s => device.lit s = true → (device.clock s).due.isSome = true) ?_ ?_ ran
    · intro s e s' pending taken
      exact (device.switches taken).isSome_due pending
    · intro lit
      exact absurd (dark.symm.trans lit) Bool.false_ne_true
  obtain ⟨due, pending⟩ := Option.isSome_iff_exists.mp (pending lit)
  exact ⟨due, device.armedFor_of_due idle ran pending, pending,
    device.timely_of_run idle ran due pending⟩

/-- **A device that is left to its item.** -/
theorem lit_eq_pending (idle : (device.clock s).due = none) (dark : device.lit s = false)
    (free : StepsMeet step (fun s e => ¬ device.byHand s e) s es) (ran : run step s es = some t) :
    device.lit t = (device.clock t).due.isSome := by
  refine run_invariant (I := fun s => device.lit s = (device.clock s).due.isSome) ?_ ?_ free ran
  · intro s e s' same free taken
    exact (device.switches taken).lit_eq_isSome_due free same
  · rw [dark, idle]
    rfl

end Switched

end Ztacx.CModel
