import Ztacx.CModel.DelayableWork
import Ztacx.LedStripAddressing

/-!
# Refreshing the LED strip

`ztacx_led_strip_refresh` of `src/ztacx_led_strip.c` sends the pixels to the strip every
100 ms.  Everything else that has to do with the strip comes in between: writes to the
variables, the shell commands, the leaf being started and stopped.

* With the test pattern compiled in, a refresh overwrites whatever was painted since the
  last one: refresh number `k` shows one pixel, the next one each time, in a colour that
  changes after each pass (`frames_eq`).
* Refreshes go on unless the strip was turned off after the last command that turned it on,
  where turning it on has no effect if it comes in the same refresh as turning it off
  (`refreshesAgain_iff`).
-/

namespace Ztacx

open CModel

/-! ## The code -/

/-- The pixels that are off. -/
def darkPixel : LedRgb := ⟨0, 0, 0⟩

def ztacxLedStripClear (pixels : List LedRgb) : List LedRgb :=
  List.replicate pixels.length darkPixel

/-- The work item, the pixels, the two static variables of the test pattern, and what the
refreshes have sent to the strip. -/
structure LedStripShow where
  refresh : Periodic
  pixels : List LedRgb
  pos : ℕ
  color : ℕ
  frames : List (List LedRgb)
deriving DecidableEq, Repr

/-- The static variables `pos` and `color` of `ztacx_led_strip_refresh` after a refresh of a
strip of `n` pixels. -/
def nextPixel (n pos color : ℕ) : ℕ × ℕ :=
  if n ≤ pos + 1 then (0, if colors.length ≤ color + 1 then 0 else color + 1)
  else (pos + 1, color)

/-- The part of `ztacx_led_strip_refresh` with the test pattern. -/
def testPattern (s : LedStripShow) : Except Fault LedStripShow :=
  match colors[s.color]? with
  | none => .error .outOfBounds
  | some (_, color) =>
    (ztacxLedStripSet (ztacxLedStripClear s.pixels) s.pos color).map fun pixels =>
      let next := nextPixel s.pixels.length s.pos s.color
      { s with pixels := pixels, pos := next.1, color := next.2 }

/-- `ztacx_led_strip_show`, from a refresh. -/
def LedStripShow.send (s : LedStripShow) : LedStripShow :=
  { s with frames := s.frames ++ [s.pixels] }

/-- `ztacx_led_strip_refresh` up to the point where it schedules itself;
`CONFIG_ZTACX_LED_STRIP_USE_TEST_PATTERN` is a parameter. -/
def ztacxLedStripRefresh (pattern : Bool) (s : LedStripShow) : Except Fault LedStripShow :=
  if pattern then (testPattern s).map LedStripShow.send else .ok s.send

/-- The leaf is started or stopped, a shell command `on` or `off`, a pixel that is painted
by a command or by the colour's work item, and what happens by itself. -/
inductive LedStripEvent
  | start
  | stop
  | on
  | off
  | paint (pos : ℤ) (color : LedRgb)
  | tick (t : Periodic.Tick)
deriving DecidableEq, Repr

namespace LedStripShow

/-- `ztacx_led_strip_stop`, and the command `off`. -/
def turnOff (s : LedStripShow) : LedStripShow :=
  { s with
    refresh := { s.refresh with work := s.refresh.work.cancel }
    pixels := ztacxLedStripClear s.pixels }

/-- The handler does its work when it begins. -/
def tick (pattern : Bool) (s : LedStripShow) (t : Periodic.Tick) : Option LedStripShow := do
  let refresh ← s.refresh.tick t
  let s := { s with refresh := refresh }
  match t with
  | .begin => (ztacxLedStripRefresh pattern s).toOption
  | .expire | .again _ | .finish => return s

def step (pattern : Bool) (s : LedStripShow) : LedStripEvent → Option LedStripShow
  | .start => some { s with refresh := { s.refresh with work := s.refresh.work.schedule false } }
  | .stop => some s.turnOff
  | .on => some { s with refresh := { s.refresh with work := s.refresh.work.reschedule true } }
  | .off => some s.turnOff
  | .paint pos color =>
    (ztacxLedStripSet s.pixels pos color).toOption.map fun pixels => { s with pixels := pixels }
  | .tick t => s.tick pattern t

/-- The strip after `ztacx_led_strip_init`, with `n` pixels. -/
def boot (n : StripLength) : LedStripShow :=
  ⟨⟨.idle, false⟩, List.replicate n.pixels darkPixel, 0, 0, []⟩

end LedStripShow

/-! ## The test pattern -/

/-- The colour of a pass over the pixels. -/
def passColor (pass : ℕ) : LedRgb := (colors[pass % 6]?.map Prod.snd).getD darkPixel

/-- What refresh `k` shows. -/
def patternFrame (n : StripLength) (k : ℕ) : List LedRgb :=
  (List.replicate n.pixels darkPixel).set (k % n.pixels) (passColor (k / n.pixels))

/-- Counting on by one, within a pass or into the next one. -/
theorem succ_pass {n : ℕ} (one_le : 1 ≤ n) (k : ℕ) :
    (k % n + 1 < n → (k + 1) % n = k % n + 1 ∧ (k + 1) / n = k / n) ∧
      (¬ k % n + 1 < n → (k + 1) % n = 0 ∧ (k + 1) / n = k / n + 1) := by
  have split : k + 1 = n * (k / n) + (k % n + 1) := by
    rw [← Nat.add_assoc, Nat.div_add_mod]
  have below : k % n < n := Nat.mod_lt k one_le
  constructor
  · intro inside
    rw [split, Nat.mul_add_mod, Nat.mod_eq_of_lt inside, Nat.mul_add_div one_le,
      Nat.div_eq_of_lt inside]
    exact ⟨rfl, rfl⟩
  · intro last
    have full : k % n + 1 = n := by omega
    rw [split, full, Nat.mul_add_mod, Nat.mod_self, Nat.mul_add_div one_le, Nat.div_self one_le]
    exact ⟨rfl, rfl⟩

/-- The static variables count the refreshes. -/
structure PatternInv (n : StripLength) (s : LedStripShow) : Prop where
  length : s.pixels.length = n.pixels
  pos : s.pos = s.frames.length % n.pixels
  color : s.color = s.frames.length / n.pixels % 6
  frames : s.frames = (List.range s.frames.length).map (patternFrame n)

section Pattern

variable {n : StripLength} {s t : LedStripShow}

theorem colors_passColor (pass : ℕ) : ∃ name, colors[pass % 6]? = some (name, passColor pass) := by
  have inside : pass % 6 < colors.length := Nat.mod_lt pass (by decide)
  refine ⟨colors[pass % 6].1, ?_⟩
  rw [passColor, List.getElem?_eq_getElem inside]
  rfl

/-- The static variables after one more refresh. -/
theorem nextPixel_eq (n : StripLength) (k : ℕ) :
    nextPixel n.pixels (k % n.pixels) (k / n.pixels % 6) =
      ((k + 1) % n.pixels, (k + 1) / n.pixels % 6) := by
  obtain ⟨within, next⟩ := succ_pass n.one_le k
  unfold nextPixel
  by_cases inside : k % n.pixels + 1 < n.pixels
  · rw [if_neg (not_le.mpr inside), (within inside).1, (within inside).2]
  · have six : colors.length = 6 := rfl
    rw [if_pos (not_lt.mp inside), (next inside).1, (next inside).2, six]
    congr 1
    split <;> omega

/-- One refresh shows the next frame. -/
theorem PatternInv.refresh (inv : PatternInv n s) :
    ∃ s', ztacxLedStripRefresh true s = .ok s' ∧ PatternInv n s' := by
  obtain ⟨name, color⟩ := colors_passColor (s.frames.length / n.pixels)
  have inside : s.pos < (ztacxLedStripClear s.pixels).length := by
    rw [ztacxLedStripClear, List.length_replicate, inv.length, inv.pos]
    exact Nat.mod_lt _ n.one_le
  have painted : (ztacxLedStripClear s.pixels).set s.pos (passColor (s.frames.length / n.pixels)) =
      patternFrame n s.frames.length := by
    rw [ztacxLedStripClear, inv.length, inv.pos]
    rfl
  have next := nextPixel_eq n s.frames.length
  rw [← inv.pos, ← inv.color] at next
  have drawn : testPattern s = .ok { s with
      pixels := patternFrame n s.frames.length
      pos := (s.frames.length + 1) % n.pixels
      color := (s.frames.length + 1) / n.pixels % 6 } := by
    rw [← inv.color] at color
    unfold testPattern
    rw [color]
    simp only [ztacxLedStripSet_of_lt inside, painted, inv.length, next]
    rfl
  rw [ztacxLedStripRefresh, if_pos rfl, drawn]
  have counted : (s.frames ++ [patternFrame n s.frames.length]).length = s.frames.length + 1 :=
    List.length_append
  refine ⟨_, rfl, ?_, ?_, ?_, ?_⟩
  · show (patternFrame n s.frames.length).length = n.pixels
    rw [patternFrame, List.length_set, List.length_replicate]
  · exact congrArg (· % n.pixels) counted.symm
  · exact congrArg (· / n.pixels % 6) counted.symm
  · show s.frames ++ [_] = (List.range (s.frames ++ [_]).length).map (patternFrame n)
    rw [counted, List.range_succ, List.map_append, ← inv.frames]
    rfl

theorem length_ztacxLedStripSet {pixels painted : List LedRgb} {pos : ℤ} {color : LedRgb}
    (set : ztacxLedStripSet pixels pos color = .ok painted) : painted.length = pixels.length := by
  unfold ztacxLedStripSet at set
  split at set
  · cases set
    rfl
  · split at set
    · split at set
      · cases set
        rfl
      · cases set
    · cases set
      exact List.length_set

theorem PatternInv.turnOff (inv : PatternInv n s) : PatternInv n s.turnOff :=
  ⟨List.length_replicate.trans inv.length, inv.pos, inv.color, inv.frames⟩

theorem PatternInv.step {e : LedStripEvent} (inv : PatternInv n s)
    (taken : s.step true e = some t) : PatternInv n t := by
  cases e with
  | start =>
      cases taken
      exact ⟨inv.length, inv.pos, inv.color, inv.frames⟩
  | stop =>
      cases taken
      exact inv.turnOff
  | on =>
      cases taken
      exact ⟨inv.length, inv.pos, inv.color, inv.frames⟩
  | off =>
      cases taken
      exact inv.turnOff
  | paint pos color =>
      obtain ⟨pixels, set, rfl⟩ := Option.map_eq_some_iff.mp taken
      have length := length_ztacxLedStripSet (toOption_eq_some_iff.mp set)
      exact ⟨length.trans inv.length, inv.pos, inv.color, inv.frames⟩
  | tick tick =>
      obtain ⟨refresh, -, taken⟩ := Option.bind_eq_some_iff.mp taken
      have inv : PatternInv n { s with refresh := refresh } :=
        ⟨inv.length, inv.pos, inv.color, inv.frames⟩
      cases tick with
      | begin =>
          obtain ⟨s', shown, inv'⟩ := inv.refresh
          cases (toOption_eq_some_iff.mp taken).symm.trans shown
          exact inv'
      | _ =>
          cases taken
          exact inv

/-- **The test pattern**: the refreshes show one frame after another, whatever else was
painted between them and however often the strip was turned off and on. -/
theorem frames_eq {n : StripLength} {es : List LedStripEvent}
    (ran : run (LedStripShow.step true) (.boot n) es = some t) :
    t.frames = (List.range t.frames.length).map (patternFrame n) := by
  have boot : PatternInv n (.boot n) :=
    ⟨List.length_replicate, (Nat.zero_mod _).symm, by rw [LedStripShow.boot]; simp, rfl⟩
  exact (run_invariant_of_step PatternInv.step boot ran).frames

end Pattern

/-- The last pixel is painted before the first refresh. -/
def paintFirst : List LedStripEvent := [.paint 1 ⟨0x20, 0x20, 0x20⟩, .on, .tick .begin]

/-- It is dark in what the refresh shows. -/
theorem paintFirst_frames :
    ∃ t, run (LedStripShow.step true) (.boot twoPixels) paintFirst = some t ∧
      t.frames = [[⟨0x20, 0, 0⟩, darkPixel]] := by
  have reached : ∃ t, run (LedStripShow.step true) (.boot twoPixels) paintFirst = some t ∧
      t.frames.length = 1 := ⟨_, rfl, rfl⟩
  obtain ⟨t, ran, one⟩ := reached
  have frames := frames_eq ran
  rw [one] at frames
  exact ⟨t, ran, frames⟩

/-! ## Turning the strip on and off -/

/-- Whether the strip is refreshed periodically, whether a refresh is in progress, and
whether the strip has been turned off in it. -/
structure LedStripCourse where
  refreshing : Bool
  inRefresh : Bool
  turnedOff : Bool
deriving DecidableEq, Repr

namespace LedStripCourse

def turnOff (c : LedStripCourse) : LedStripCourse := ⟨false, c.inRefresh, c.inRefresh⟩

def turnOn (c : LedStripCourse) : LedStripCourse := { c with refreshing := !c.turnedOff }

def next (c : LedStripCourse) : LedStripEvent → LedStripCourse
  | .start => c.turnOn
  | .on => c.turnOn
  | .stop => c.turnOff
  | .off => c.turnOff
  | .paint _ _ => c
  | .tick t => { c with
      inRefresh := t.running c.inRefresh
      turnedOff := t.running c.inRefresh && c.turnedOff }

end LedStripCourse

structure LedStripFollows (s : LedStripShow) (c : LedStripCourse) : Prop where
  sound : s.refresh.Sound
  refreshing : s.refresh.Alive ↔ c.refreshing = true
  inRefresh : s.refresh.work.running = c.inRefresh
  turnedOff : s.refresh.work.canceling = c.turnedOff

section Course

variable {pattern : Bool} {s t : LedStripShow} {c : LedStripCourse}

theorem LedStripFollows.turnOff (follows : LedStripFollows s c) :
    LedStripFollows s.turnOff c.turnOff where
  sound := Periodic.sound_cancel _
  refreshing := iff_of_false (Periodic.not_alive_cancel _) nofun
  inRefresh := follows.inRefresh
  turnedOff := follows.inRefresh

/-- Both ways of turning the strip on are turned down while it is being turned off. -/
theorem LedStripFollows.turnOn {work : DelayableWork} (follows : LedStripFollows s c)
    (sound : Periodic.Sound ⟨work, s.refresh.again⟩)
    (alive : Periodic.Alive ⟨work, s.refresh.again⟩ ↔ s.refresh.work.canceling = false)
    (running : work.running = s.refresh.work.running)
    (canceling : work.canceling = s.refresh.work.canceling) :
    LedStripFollows { s with refresh := ⟨work, s.refresh.again⟩ } c.turnOn where
  sound := sound
  refreshing := by
    rw [LedStripCourse.turnOn, Bool.not_eq_true', ← follows.turnedOff]
    exact alive
  inRefresh := running.trans follows.inRefresh
  turnedOff := canceling.trans follows.turnedOff

/-- A refresh does what it does to the pixels, not to the work item. -/
theorem refresh_ztacxLedStripRefresh (ran : ztacxLedStripRefresh pattern s = .ok t) :
    t.refresh = s.refresh := by
  unfold ztacxLedStripRefresh at ran
  split at ran
  · obtain ⟨s', drawn, rfl⟩ := map_eq_ok_iff.mp ran
    unfold testPattern at drawn
    split at drawn
    · cases drawn
    · obtain ⟨pixels, -, rfl⟩ := map_eq_ok_iff.mp drawn
      rfl
  · cases ran
    rfl

theorem LedStripFollows.step {e : LedStripEvent} (follows : LedStripFollows s c)
    (taken : s.step pattern e = some t) : LedStripFollows t (c.next e) := by
  cases e with
  | start =>
      cases taken
      obtain ⟨sound, alive⟩ := Periodic.alive_schedule follows.sound false s.refresh.again
      exact follows.turnOn sound alive (DelayableWork.running_schedule ..)
        (DelayableWork.canceling_schedule ..)
  | stop =>
      cases taken
      exact follows.turnOff
  | on =>
      cases taken
      obtain ⟨sound, alive⟩ := Periodic.alive_reschedule follows.sound
      exact follows.turnOn sound alive (DelayableWork.running_reschedule ..)
        (DelayableWork.canceling_reschedule ..)
  | off =>
      cases taken
      exact follows.turnOff
  | paint pos color =>
      obtain ⟨pixels, -, rfl⟩ := Option.map_eq_some_iff.mp taken
      exact ⟨follows.sound, follows.refreshing, follows.inRefresh, follows.turnedOff⟩
  | tick tick =>
      obtain ⟨refresh, ticked, taken⟩ := Option.bind_eq_some_iff.mp taken
      obtain ⟨sound, alive⟩ := Periodic.alive_tick follows.sound ticked
      have running := Periodic.running_tick ticked
      have canceling := Periodic.canceling_tick follows.sound ticked
      have same : t.refresh = refresh := by
        cases tick with
        | begin => exact refresh_ztacxLedStripRefresh (toOption_eq_some_iff.mp taken)
        | _ =>
            cases taken
            rfl
      rw [follows.inRefresh] at running canceling
      rw [follows.turnedOff] at canceling
      rw [← same] at sound alive running canceling
      exact ⟨sound, alive.trans follows.refreshing, running, canceling⟩

/-- **When the strip goes on being refreshed**: the last command turned it on, and did not come
in the same refresh as a command that turned it off. -/
theorem refreshesAgain_iff {n : StripLength} {es : List LedStripEvent}
    (ran : run (LedStripShow.step pattern) (.boot n) es = some t) :
    t.refresh.BeginsAgain ↔
      (es.foldl LedStripCourse.next ⟨false, false, false⟩).refreshing = true := by
  have boot : LedStripFollows (.boot n) ⟨false, false, false⟩ :=
    ⟨Periodic.sound_idle, iff_of_false Periodic.not_alive_idle nofun, rfl, rfl⟩
  have follows := run_follows LedStripFollows.step boot ran
  exact (Periodic.beginsAgain_iff_alive follows.sound).trans follows.refreshing

end Course

/-- The commands `off` and `on` during a refresh. -/
def offAndOn : List LedStripEvent :=
  [.on, .tick .begin, .off, .on, .tick (.again false), .tick .finish]

theorem offAndOn_dark : ∃ t, run (LedStripShow.step true) (.boot twoPixels) offAndOn = some t ∧
    ¬ t.refresh.BeginsAgain := by
  have reached : ∃ t, run (LedStripShow.step true) (.boot twoPixels) offAndOn = some t := ⟨_, rfl⟩
  obtain ⟨t, ran⟩ := reached
  refine ⟨t, ran, ?_⟩
  rw [refreshesAgain_iff ran]
  decide

end Ztacx
