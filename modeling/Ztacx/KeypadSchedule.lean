import Ztacx.CModel.DelayableWork

/-!
# When the keypad is scanned

`kp_scan` of `src/ztacx_kp.c` schedules itself again, so a keypad that has been started is
scanned for ever.  `ztacx_kp_stop` cancels the work item, and the shell command `scan`
cancels it and submits it at once.

A scan waits for the I2C bus, so that commands may come in while it is in progress.  Then
the two halves of `scan` work against each other: the item is being cancelled until the
scan is over, and everything that is submitted before that is turned down, the next scan of
`kp_scan` itself included.  So the command for a scan ends all scanning if it comes in
during a scan, and that is the only way to end it other than by a stop (`scansAgain_iff`).

`ztacx_kp_start` initialises the item, without a look at whether it is in use.  Zephyr
allows that only while the item is idle, so a start has a defined outcome exactly if the
keypad is not being scanned and no scan is in progress (`ztacxKpStart_isSome_iff`).
-/

namespace Ztacx

open CModel

/-! ## The code -/

/-- The work item of `struct ztacx_kp_context`, and whether it has been initialised. -/
structure KpSchedule where
  initialised : Bool
  scan : Periodic
deriving DecidableEq, Repr

/-- `ztacx_kp_start`.  `k_work_init_delayable` of an item that is in use is outside of
what Zephyr defines; the code leaves it to its callers not to do that. -/
def ztacxKpStart (s : KpSchedule) : Option KpSchedule :=
  if s.scan.work = .idle then
    some ⟨true, { s.scan with work := DelayableWork.idle.schedule true }⟩
  else none

/-- `ztacx_kp_stop` -/
def ztacxKpStop (s : KpSchedule) : KpSchedule :=
  { s with scan := { s.scan with work := s.scan.work.cancel } }

/-- `cmd_ztacx_kp` with the argument `scan`.  Before the item is initialised it has no
handler. -/
def cmdZtacxKpScan (s : KpSchedule) : Option KpSchedule :=
  if s.initialised then
    some { s with scan := { s.scan with work := s.scan.work.cancel.reschedule true } }
  else none

/-- A command, or something that happens by itself. -/
inductive KpCommand
  | start
  | stop
  | scan
  | tick (t : Periodic.Tick)
deriving DecidableEq, Repr

def kpCommand (s : KpSchedule) : KpCommand → Option KpSchedule
  | .start => ztacxKpStart s
  | .stop => some (ztacxKpStop s)
  | .scan => cmdZtacxKpScan s
  | .tick t => (s.scan.tick t).map fun scan => { s with scan := scan }

/-- The context before the keypad is started. -/
def bootKpSchedule : KpSchedule := ⟨false, .idle, false⟩

/-! ## What the commands come to -/

/-- Whether the keypad is being scanned periodically, and whether a scan is in progress. -/
structure KpCourse where
  scanning : Bool
  inScan : Bool
deriving DecidableEq, Repr

/-- A command for a scan is a stop if one is in progress. -/
def KpCourse.next (c : KpCourse) : KpCommand → KpCourse
  | .start => { c with scanning := true }
  | .stop => { c with scanning := false }
  | .scan => { c with scanning := !c.inScan }
  | .tick t => { c with inScan := t.running c.inScan }

/-- The item and the course of the commands. -/
structure KpFollows (s : KpSchedule) (c : KpCourse) : Prop where
  sound : s.scan.Sound
  scanning : s.scan.Alive ↔ c.scanning = true
  inScan : s.scan.work.running = c.inScan

section Follows

variable {s t : KpSchedule} {c : KpCourse}

theorem KpFollows.kpCommand {command : KpCommand} (follows : KpFollows s c)
    (taken : kpCommand s command = some t) : KpFollows t (c.next command) := by
  cases command with
  | start =>
      obtain ⟨idle, same⟩ := Option.ite_none_right_eq_some.mp taken
      cases same
      have rests := follows.inScan
      rw [idle] at rests
      exact ⟨⟨nofun, nofun⟩, iff_of_true (.inr (.inl rfl)) rfl, rests⟩
  | stop =>
      cases taken
      exact ⟨Periodic.sound_cancel _, iff_of_false (Periodic.not_alive_cancel _) nofun,
        follows.inScan⟩
  | scan =>
      obtain ⟨-, same⟩ := Option.ite_none_right_eq_some.mp taken
      cases same
      obtain ⟨sound, alive⟩ := Periodic.alive_reschedule (Periodic.sound_cancel s.scan)
      refine ⟨sound, alive.trans ?_, ?_⟩
      · rw [KpCourse.next, ← follows.inScan, Bool.not_eq_true']
        rfl
      · exact (DelayableWork.running_reschedule ..).trans follows.inScan
  | tick tick =>
      obtain ⟨scan, ticked, rfl⟩ := Option.map_eq_some_iff.mp taken
      obtain ⟨sound, alive⟩ := Periodic.alive_tick follows.sound ticked
      refine ⟨sound, alive.trans follows.scanning, ?_⟩
      rw [Periodic.running_tick ticked, follows.inScan]
      rfl

/-- An item is idle if it is not going to run and is not running. -/
theorem KpFollows.idle_iff (follows : KpFollows s c) :
    s.scan.work = .idle ↔ c = ⟨false, false⟩ := by
  obtain ⟨initialised, ⟨⟨delayed, queued, running, canceling⟩, again⟩⟩ := s
  obtain ⟨scanning, inScan⟩ := c
  obtain ⟨⟨waits, -⟩, alive, rfl⟩ := follows
  constructor
  · intro idle
    cases idle
    have rests : scanning = false := by
      refine Bool.eq_false_iff.mpr fun goes => ?_
      rcases alive.mpr goes with delayed | queued | ⟨running, -⟩
      · cases delayed
      · cases queued
      · cases running
    rw [rests]
  · rintro ⟨⟩
    have dead : ¬ Periodic.Alive ⟨⟨delayed, queued, false, canceling⟩, again⟩ :=
      fun goes => absurd (alive.mp goes) Bool.false_ne_true
    have free : canceling = false :=
      Bool.eq_false_iff.mpr fun cancels => Bool.false_ne_true (waits cancels).1
    have undelayed : delayed = false := Bool.eq_false_iff.mpr fun h => dead (.inl h)
    have unqueued : queued = false := Bool.eq_false_iff.mpr fun h => dead (.inr (.inl h))
    rw [free, undelayed, unqueued]
    rfl

theorem bootKpSchedule_follows : KpFollows bootKpSchedule ⟨false, false⟩ :=
  ⟨Periodic.sound_idle, iff_of_false Periodic.not_alive_idle nofun, rfl⟩

/-- **When a start has a defined outcome**: the keypad is not being scanned, and no scan is
in progress. -/
theorem ztacxKpStart_isSome_iff {commands : List KpCommand}
    (ran : run kpCommand bootKpSchedule commands = some t) :
    (ztacxKpStart t).isSome = true ↔ commands.foldl KpCourse.next ⟨false, false⟩ =
      ⟨false, false⟩ := by
  rw [← (run_follows KpFollows.kpCommand bootKpSchedule_follows ran).idle_iff, ztacxKpStart]
  split
  · exact iff_of_true rfl ‹_›
  · exact iff_of_false nofun ‹_›

/-- **When the keypad goes on being scanned**: the last command was a start, or a command for
a scan that did not come in during one. -/
theorem scansAgain_iff {commands : List KpCommand}
    (ran : run kpCommand bootKpSchedule commands = some t) :
    t.scan.BeginsAgain ↔ (commands.foldl KpCourse.next ⟨false, false⟩).scanning = true := by
  have follows := run_follows KpFollows.kpCommand bootKpSchedule_follows ran
  exact (Periodic.beginsAgain_iff_alive follows.sound).trans follows.scanning

end Follows

/-- The command `scan` while the first scan is in progress. -/
def scanDuringScan : List KpCommand :=
  [.start, .tick .begin, .scan, .tick (.again false), .tick .finish]

theorem scanDuringScan_ends : ∃ t, run kpCommand bootKpSchedule scanDuringScan = some t ∧
    ¬ t.scan.BeginsAgain := by
  have reached : ∃ t, run kpCommand bootKpSchedule scanDuringScan = some t := ⟨_, rfl⟩
  obtain ⟨t, ran⟩ := reached
  refine ⟨t, ran, ?_⟩
  rw [scansAgain_iff ran]
  decide

end Ztacx
