import Ztacx.CModel.Run

/-!
# Delayable work

An item of work that a thread of its own, the work queue, runs by calling a handler.  The
item may be scheduled for a later time, be waiting in the queue, and be running, and
several of these at once: a handler that is running may be scheduled again.

To cancel an item takes it out of the schedule and out of the queue.  A handler that is
running cannot be stopped; until it returns the item counts as being cancelled, and
everything that would schedule or submit it is turned down.

These are the operations as Zephyr documents them for `k_work_delayable`, and everything
proved here rests on them: `schedule` does nothing to an item that is delayed or queued,
`reschedule` replaces the delay, `cancel` neither waits for a running handler nor stops it,
and an item is initialised only while it is idle.

A `Periodic` item is one whose handler schedules itself again before it returns.  It goes
on for ever, unless it is cancelled: `beginsAgain_iff_alive` says exactly when the handler
is going to run again if nobody intervenes, and the lemmas after it what each operation
does to that.
-/

namespace Ztacx.CModel

/-! ## The item -/

/-- The flags of an item. -/
structure DelayableWork where
  delayed : Bool
  queued : Bool
  running : Bool
  canceling : Bool
deriving DecidableEq, Repr

namespace DelayableWork

/-- An item that nobody uses. -/
def idle : DelayableWork := ⟨false, false, false, false⟩

/-- Put the item into the queue; it may be there already. -/
def submit (w : DelayableWork) : DelayableWork :=
  if w.canceling then w else { w with queued := true }

theorem submit_of_free {w : DelayableWork} (free : w.canceling = false) :
    w.submit = { w with queued := true } := by
  rw [submit, free]
  rfl

theorem running_submit (w : DelayableWork) : w.submit.running = w.running := by
  unfold submit
  split <;> rfl

theorem canceling_submit (w : DelayableWork) : w.submit.canceling = w.canceling := by
  unfold submit
  split <;> rfl

/-- Schedule the item after some delay, or at once if there is none.  An item that is in
use stays as it is, unless all it does is run. -/
def schedule (w : DelayableWork) (noWait : Bool) : DelayableWork :=
  if w.delayed || w.queued || w.canceling then w
  else if noWait then w.submit
  else { w with delayed := true }

theorem running_schedule (w : DelayableWork) (noWait : Bool) :
    (w.schedule noWait).running = w.running := by
  unfold schedule
  split
  · rfl
  · split
    · exact running_submit w
    · rfl

theorem canceling_schedule (w : DelayableWork) (noWait : Bool) :
    (w.schedule noWait).canceling = w.canceling := by
  unfold schedule
  split
  · rfl
  · split
    · exact canceling_submit w
    · rfl

/-- Schedule the item anew. -/
def reschedule (w : DelayableWork) (noWait : Bool) : DelayableWork :=
  let w := { w with delayed := false }
  if noWait then w.submit else { w with delayed := true }

theorem running_reschedule (w : DelayableWork) (noWait : Bool) :
    (w.reschedule noWait).running = w.running := by
  unfold reschedule
  dsimp only
  split
  · exact running_submit _
  · rfl

theorem canceling_reschedule (w : DelayableWork) (noWait : Bool) :
    (w.reschedule noWait).canceling = w.canceling := by
  unfold reschedule
  dsimp only
  split
  · exact canceling_submit _
  · rfl

def cancel (w : DelayableWork) : DelayableWork :=
  { w with delayed := false, queued := false, canceling := w.running }

/-- The delay is over. -/
def expire (w : DelayableWork) : Option DelayableWork :=
  if w.delayed then some { w with delayed := false }.submit else none

/-- The work queue calls the handler. -/
def begin (w : DelayableWork) : Option DelayableWork :=
  if w.queued && !w.running then some { w with queued := false, running := true } else none

/-- The handler returns. -/
def finish (w : DelayableWork) : Option DelayableWork :=
  if w.running then some { w with running := false, canceling := false } else none

end DelayableWork

/-! ## Periodic items -/

/-- An item, and whether the handler has scheduled it again in the current run. -/
structure Periodic where
  work : DelayableWork
  again : Bool
deriving DecidableEq, Repr

namespace Periodic

/-- What happens by itself: the time comes, the queue calls the handler, and the handler
schedules the item again and returns. -/
inductive Tick
  | expire
  | begin
  | again (noWait : Bool)
  | finish
deriving DecidableEq, Repr

def tick (p : Periodic) : Tick → Option Periodic
  | .expire => p.work.expire.map fun work => { p with work := work }
  | .begin => p.work.begin.map fun work => ⟨work, false⟩
  | .again noWait =>
    if p.work.running && !p.again then some ⟨p.work.schedule noWait, true⟩ else none
  | .finish => if p.again then p.work.finish.map fun work => { p with work := work } else none

/-- Whether the handler is running after a tick. -/
def Tick.running : Tick → Bool → Bool
  | .begin, _ => true
  | .finish, _ => false
  | .expire, running | .again _, running => running

/-- The handler is going to run again. -/
def BeginsAgain (p : Periodic) : Prop :=
  ∃ ticks p', run tick p (ticks ++ [.begin]) = some p'

/-- The item is scheduled or in the queue, or the handler has still to schedule it and will
not be turned down. -/
def Alive (p : Periodic) : Prop :=
  p.work.delayed = true ∨ p.work.queued = true ∨
    (p.work.running = true ∧ p.again = false ∧ p.work.canceling = false)

/-- What holds of an item that is only used through the operations. -/
structure Sound (p : Periodic) : Prop where
  canceling : p.work.canceling = true →
    p.work.running = true ∧ p.work.delayed = false ∧ p.work.queued = false
  again : p.work.running = true → p.work.canceling = false → p.again = true → p.Alive

/-! ### What the operations do -/

section Operations

variable {p p' : Periodic} {noWait : Bool}

theorem sound_idle : Sound ⟨.idle, false⟩ := ⟨nofun, nofun⟩

theorem not_alive_idle : ¬ Alive ⟨.idle, false⟩ := by
  rintro (delayed | queued | ⟨running, -⟩)
  · cases delayed
  · cases queued
  · cases running

theorem sound_cancel (p : Periodic) : Sound { p with work := p.work.cancel } where
  canceling := fun running => ⟨running, rfl, rfl⟩
  again := fun running waits _ => absurd (waits.symm.trans running) Bool.false_ne_true

/-- **A cancelled item does not run again.** -/
theorem not_alive_cancel (p : Periodic) : ¬ Alive { p with work := p.work.cancel } := by
  rintro (delayed | queued | ⟨running, -, waits⟩)
  · cases delayed
  · cases queued
  · exact absurd (waits.symm.trans running) Bool.false_ne_true

/-- An item that may be scheduled is going to run. -/
theorem alive_schedule (sound : p.Sound) (noWait : Bool) (again : Bool) :
    Sound ⟨p.work.schedule noWait, again⟩ ∧
      (Alive ⟨p.work.schedule noWait, again⟩ ↔ p.work.canceling = false) := by
  unfold DelayableWork.schedule DelayableWork.submit
  obtain ⟨⟨delayed, queued, running, canceling⟩, old⟩ := p
  obtain ⟨when, -⟩ := sound
  cases canceling with
  | true =>
      obtain ⟨rfl, rfl, rfl⟩ := when rfl
      exact ⟨⟨fun _ => ⟨rfl, rfl, rfl⟩, nofun⟩, by simp [Alive]⟩
  | false =>
      cases delayed <;> cases queued <;> cases noWait <;>
        exact ⟨⟨nofun, fun _ _ _ => by simp [Alive]⟩, by simp [Alive]⟩

theorem alive_reschedule (sound : p.Sound) :
    Sound { p with work := p.work.reschedule true } ∧
      (Alive { p with work := p.work.reschedule true } ↔ p.work.canceling = false) := by
  unfold DelayableWork.reschedule DelayableWork.submit
  obtain ⟨⟨delayed, queued, running, canceling⟩, old⟩ := p
  obtain ⟨when, -⟩ := sound
  cases canceling with
  | true =>
      obtain ⟨rfl, rfl, rfl⟩ := when rfl
      exact ⟨⟨fun _ => ⟨rfl, rfl, rfl⟩, nofun⟩, by simp [Alive]⟩
  | false => exact ⟨⟨nofun, fun _ _ _ => .inr (.inl rfl)⟩, iff_of_true (.inr (.inl rfl)) rfl⟩

theorem running_tick {t : Tick} (taken : tick p t = some p') :
    p'.work.running = t.running p.work.running := by
  cases t with
  | expire =>
      obtain ⟨work, expired, rfl⟩ := Option.map_eq_some_iff.mp taken
      obtain ⟨-, same⟩ := Option.ite_none_right_eq_some.mp expired
      cases same
      exact DelayableWork.running_submit _
  | begin =>
      obtain ⟨work, begun, rfl⟩ := Option.map_eq_some_iff.mp taken
      obtain ⟨-, same⟩ := Option.ite_none_right_eq_some.mp begun
      cases same
      rfl
  | again noWait =>
      obtain ⟨-, same⟩ := Option.ite_none_right_eq_some.mp taken
      cases same
      exact DelayableWork.running_schedule ..
  | finish =>
      obtain ⟨-, finished⟩ := Option.ite_none_right_eq_some.mp taken
      obtain ⟨work, returned, rfl⟩ := Option.map_eq_some_iff.mp finished
      obtain ⟨-, same⟩ := Option.ite_none_right_eq_some.mp returned
      cases same
      rfl

/-- An item is being cancelled until its handler returns. -/
theorem canceling_tick {t : Tick} (sound : p.Sound) (taken : tick p t = some p') :
    p'.work.canceling = (t.running p.work.running && p.work.canceling) := by
  have runs : p.work.canceling = (p.work.running && p.work.canceling) := by
    cases canceling : p.work.canceling with
    | true => rw [(sound.canceling canceling).1, Bool.and_self]
    | false => rw [Bool.and_false]
  cases t with
  | expire =>
      obtain ⟨work, expired, rfl⟩ := Option.map_eq_some_iff.mp taken
      obtain ⟨-, same⟩ := Option.ite_none_right_eq_some.mp expired
      cases same
      exact (DelayableWork.canceling_submit _).trans runs
  | begin =>
      obtain ⟨work, begun, rfl⟩ := Option.map_eq_some_iff.mp taken
      obtain ⟨-, same⟩ := Option.ite_none_right_eq_some.mp begun
      cases same
      exact (Bool.true_and _).symm
  | again noWait =>
      obtain ⟨-, same⟩ := Option.ite_none_right_eq_some.mp taken
      cases same
      exact (DelayableWork.canceling_schedule ..).trans runs
  | finish =>
      obtain ⟨-, finished⟩ := Option.ite_none_right_eq_some.mp taken
      obtain ⟨work, returned, rfl⟩ := Option.map_eq_some_iff.mp finished
      obtain ⟨-, same⟩ := Option.ite_none_right_eq_some.mp returned
      cases same
      exact (Bool.false_and _).symm

/-- While an item is being cancelled it does not run again. -/
theorem Sound.not_alive_of_canceling (sound : p.Sound) (canceling : p.work.canceling = true) :
    ¬ p.Alive := by
  obtain ⟨running, delayed, queued⟩ := sound.canceling canceling
  rintro (isDelayed | isQueued | ⟨-, -, waits⟩)
  · exact absurd (delayed.symm.trans isDelayed) Bool.false_ne_true
  · exact absurd (queued.symm.trans isQueued) Bool.false_ne_true
  · exact absurd (waits.symm.trans canceling) Bool.false_ne_true

/-- A handler that has scheduled the item has nothing more to do for it. -/
theorem alive_of_again (again : p.again = true) :
    p.Alive ↔ p.work.delayed = true ∨ p.work.queued = true := by
  unfold Alive
  rw [again]
  simp

/-- **What happens by itself does not matter.** -/
theorem alive_tick {t : Tick} (sound : p.Sound) (taken : tick p t = some p') :
    p'.Sound ∧ (p'.Alive ↔ p.Alive) := by
  cases t with
  | expire =>
      obtain ⟨work, expired, rfl⟩ := Option.map_eq_some_iff.mp taken
      obtain ⟨delayed, same⟩ := Option.ite_none_right_eq_some.mp expired
      have free : p.work.canceling = false := by
        refine Bool.eq_false_iff.mpr fun canceling => ?_
        exact absurd ((sound.canceling canceling).2.1.symm.trans delayed) Bool.false_ne_true
      rw [DelayableWork.submit_of_free (by exact free)] at same
      cases same
      exact ⟨⟨fun canceling => absurd (free.symm.trans canceling) Bool.false_ne_true,
        fun _ _ _ => .inr (.inl rfl)⟩, iff_of_true (.inr (.inl rfl)) (.inl delayed)⟩
  | begin =>
      obtain ⟨work, begun, rfl⟩ := Option.map_eq_some_iff.mp taken
      obtain ⟨ready, same⟩ := Option.ite_none_right_eq_some.mp begun
      rw [Bool.and_eq_true, Bool.not_eq_true'] at ready
      have free : p.work.canceling = false := by
        refine Bool.eq_false_iff.mpr fun canceling => ?_
        exact absurd (ready.2.symm.trans (sound.canceling canceling).1) Bool.false_ne_true
      cases same
      exact ⟨⟨fun canceling => absurd (free.symm.trans canceling) Bool.false_ne_true,
        fun _ _ again => by cases again⟩,
        iff_of_true (.inr (.inr ⟨rfl, rfl, free⟩)) (.inr (.inl ready.1))⟩
  | again noWait =>
      obtain ⟨ready, same⟩ := Option.ite_none_right_eq_some.mp taken
      rw [Bool.and_eq_true, Bool.not_eq_true'] at ready
      cases same
      obtain ⟨sound', alive⟩ := alive_schedule sound noWait true
      refine ⟨sound', alive.trans ?_⟩
      cases free : p.work.canceling with
      | true => exact iff_of_false nofun (sound.not_alive_of_canceling free)
      | false => exact iff_of_true rfl (.inr (.inr ⟨ready.1, ready.2, free⟩))
  | finish =>
      obtain ⟨again, finished⟩ := Option.ite_none_right_eq_some.mp taken
      obtain ⟨work, returned, rfl⟩ := Option.map_eq_some_iff.mp finished
      obtain ⟨running, same⟩ := Option.ite_none_right_eq_some.mp returned
      cases same
      refine ⟨⟨nofun, nofun⟩, Iff.trans ?_ (alive_of_again again).symm⟩
      exact alive_of_again again

/-- The work queue gets to an item that is waiting. -/
theorem BeginsAgain.of_tick {t : Tick} (taken : tick p t = some p') (begins : p'.BeginsAgain) :
    p.BeginsAgain := by
  obtain ⟨ticks, q, ran⟩ := begins
  exact ⟨t :: ticks, q, run_cons_eq_some.mpr ⟨p', taken, ran⟩⟩

theorem beginsAgain_of_pending (rests : p.work.running = false)
    (pending : p.work.delayed = true ∨ p.work.queued = true) (sound : p.Sound) :
    p.BeginsAgain := by
  have queued : ∀ {q : Periodic}, q.work.running = false → q.work.queued = true →
      q.BeginsAgain := by
    intro q rests queued
    refine ⟨[], ⟨{ q.work with queued := false, running := true }, false⟩, ?_⟩
    simp [run, tick, DelayableWork.begin, rests, queued]
  have free : p.work.canceling = false := by
    refine Bool.eq_false_iff.mpr fun canceling => ?_
    exact absurd (rests.symm.trans (sound.canceling canceling).1) Bool.false_ne_true
  obtain delayed | waiting := pending
  · have expired : tick p .expire =
        some { p with work := { p.work with delayed := false, queued := true } } := by
      simp [tick, DelayableWork.expire, DelayableWork.submit, delayed, free]
    exact .of_tick expired (queued rests rfl)
  · exact queued rests waiting

theorem beginsAgain_of_again (running : p.work.running = true) (again : p.again = true)
    (sound : p.Sound) (alive : p.Alive) : p.BeginsAgain := by
  have returned : tick p .finish =
      some { p with work := { p.work with running := false, canceling := false } } := by
    simp [tick, DelayableWork.finish, again, running]
  refine .of_tick returned (beginsAgain_of_pending rfl ?_ (alive_tick sound returned).1)
  exact (alive_of_again again).mp alive

/-- **When the handler runs again by itself**: exactly when the item is alive. -/
theorem beginsAgain_iff_alive (sound : p.Sound) : p.BeginsAgain ↔ p.Alive := by
  constructor
  · rintro ⟨ticks, p', ran⟩
    induction ticks generalizing p with
    | nil =>
        obtain ⟨q, taken, -⟩ := run_cons_eq_some.mp ran
        obtain ⟨work, begun, -⟩ := Option.map_eq_some_iff.mp taken
        obtain ⟨ready, -⟩ := Option.ite_none_right_eq_some.mp begun
        rw [Bool.and_eq_true] at ready
        exact .inr (.inl ready.1)
    | cons t ticks ih =>
        obtain ⟨q, taken, rest⟩ := run_cons_eq_some.mp ran
        obtain ⟨sound', same⟩ := alive_tick sound taken
        exact same.mp (ih sound' rest)
  · intro alive
    cases running : p.work.running with
    | false =>
        refine beginsAgain_of_pending running ?_ sound
        obtain delayed | queued | ⟨runs, -⟩ := alive
        · exact .inl delayed
        · exact .inr queued
        · exact absurd (running.symm.trans runs) Bool.false_ne_true
    | true =>
        cases again : p.again with
        | true => exact beginsAgain_of_again running again sound alive
        | false =>
            -- the handler gets to schedule the item
            have taken : tick p (.again true) = some ⟨p.work.schedule true, true⟩ := by
              simp [tick, running, again]
            obtain ⟨sound', same⟩ := alive_tick sound taken
            refine .of_tick taken (beginsAgain_of_again ?_ rfl sound' (same.mpr alive))
            exact (DelayableWork.running_schedule ..).trans running

end Operations

end Periodic

end Ztacx.CModel
