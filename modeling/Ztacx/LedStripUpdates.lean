import Ztacx.CModel.Run
import Ztacx.LedStrip

/-!
# Updates of the LED strip

Writers of `led_strip_cursor` and `led_strip_color`, and the system work queue that
runs the two work items of the strip at times of its own.

`IdealStrip` is the strip as the two variables present it: a colour goes to the
pixel under the cursor, at once.  The code's strip gets there late.  A colour that
is written is *owed* until `ztacx_led_strip_color_onchange` runs, and that item
places only the latest one, at the position the cursor's item has seen by then.

So `LedUpdates` keeps the owed colours beside the strip, each with the cursor it
was meant for, and `LedInv.balance` says that the ideal pixels are those of the
strip with the owed colours applied to them.  It holds in every state of a run in
which no owed colour was meant for another pixel than the one the colour item is
about to write (`ColorsInPlace`).  Writers that never move the cursor while a colour
is waiting in the queue stay on such runs (`CursorWaits`).
-/

namespace Ztacx

open CModel

/-! ## The ideal strip -/

/-- A write to one of the two variables, or a turn of the work queue. -/
inductive LedEvent
  | writeCursor (value : BitVec 16)
  | writeColor (value : CString)
  | work

/-- The strip as its user sees it. -/
structure IdealStrip where
  cursor : ℕ
  pixels : List LedRgb
deriving DecidableEq, Repr

/-- The writes take effect one at a time; the queue has no part in it. -/
def IdealStrip.step (atoi : CString → BitVec 32) (s : IdealStrip) : LedEvent → IdealStrip
  | .writeCursor value => { s with cursor := value.toNat }
  | .writeColor value =>
    { s with pixels := s.pixels.set s.cursor (colorParse atoi value ⟨0, 0, 0⟩).1 }
  | .work => s

/-- A colour and the pixel it is meant for. -/
structure LedWrite where
  pos : ℕ
  color : LedRgb
deriving DecidableEq, Repr

/-- The pixels with the writes applied, one after another. -/
def applyWrites (pixels : List LedRgb) (writes : List LedWrite) : List LedRgb :=
  writes.foldl (fun pixels w => pixels.set w.pos w.color) pixels

@[simp] theorem applyWrites_nil (pixels : List LedRgb) : applyWrites pixels [] = pixels := rfl

@[simp] theorem applyWrites_append_singleton (pixels : List LedRgb) (writes : List LedWrite)
    (w : LedWrite) :
    applyWrites pixels (writes ++ [w]) = (applyWrites pixels writes).set w.pos w.color := by
  rw [applyWrites, List.foldl_append]
  rfl

/-- Of writes to one pixel only the last one shows. -/
theorem applyWrites_same {writes : List LedWrite} {last : LedWrite} {pos : ℕ}
    (pixels : List LedRgb) (same : ∀ w ∈ writes, w.pos = pos)
    (latest : writes.getLast? = some last) :
    applyWrites pixels writes = pixels.set pos last.color := by
  induction writes using List.reverseRecOn generalizing last with
  | nil => cases latest
  | append_singleton writes w ih =>
      rw [List.getLast?_concat, Option.some.injEq] at latest
      subst latest
      have samePos : w.pos = pos := same w (by simp)
      rw [applyWrites_append_singleton, samePos]
      -- the writes before the last one leave at most another colour in its place
      cases before : writes.getLast? with
      | none =>
          rw [List.getLast?_eq_none_iff.mp before]
          rfl
      | some w' =>
          have earlier : ∀ w ∈ writes, w.pos = pos := fun w mem => same w (by simp [mem])
          rw [ih earlier before, List.set_set]

/-! ## The strip and its queue -/

/-- What an event does to the strip. -/
def LedStrip.next (atoi : CString → BitVec 32) (s : LedStrip) : LedEvent → Except Fault LedStrip
  | .writeCursor value => s.writeCursor value
  | .writeColor value => s.writeColor value
  | .work => s.runWork atoi

/-- The strip, what it should show, and the colours that were written since the
colour item last ran. -/
structure LedUpdates where
  strip : LedStrip
  ideal : IdealStrip
  owed : List LedWrite

namespace LedUpdates

/-- The colour item is the next one to run. -/
def ColorIsNext (s : LedUpdates) : Prop := s.strip.queue.head? = some ledStripColorOnchange

instance decidableColorIsNext (s : LedUpdates) : Decidable s.ColorIsNext :=
  inferInstanceAs (Decidable (_ = _))

/-- The owed colours after an event. -/
def owedAfter (atoi : CString → BitVec 32) (s : LedUpdates) : LedEvent → List LedWrite
  | .writeCursor _ => s.owed
  | .writeColor value => s.owed ++ [⟨s.ideal.cursor, (colorParse atoi value ⟨0, 0, 0⟩).1⟩]
  | .work => if s.ColorIsNext then [] else s.owed

/-- Nothing has been written yet. -/
def start (strip : LedStrip) : LedUpdates where
  strip := strip
  ideal := ⟨strip.cursorVar.value.valUint16.toNat, strip.pixels⟩
  owed := []

/-- Once the queue is empty the strip shows what it should. -/
def Delivered (s : LedUpdates) : Prop := s.strip.queue = [] → s.strip.pixels = s.ideal.pixels

end LedUpdates

/-- An event that goes wrong has no successor. -/
def ledStep (atoi : CString → BitVec 32) (s : LedUpdates) (e : LedEvent) : Option LedUpdates :=
  (s.strip.next atoi e).toOption.map fun strip =>
    ⟨strip, s.ideal.step atoi e, s.owedAfter atoi e⟩

/-- The cursor stays on the strip and the colour can be parsed. -/
def LedEvent.Valid (atoi : CString → BitVec 32) (length : ℕ) : LedEvent → Prop
  | .writeCursor value => value.toNat < length
  | .writeColor value => (colorParse atoi value ⟨0, 0, 0⟩).2 = 0
  | .work => True

/-- When the colour item runs, `context->cursor` is the pixel each owed colour was
meant for. -/
def ColorsInPlace (s : LedUpdates) : LedEvent → Prop
  | .work => s.ColorIsNext → ∀ w ∈ s.owed, (w.pos : ℤ) = s.strip.cursor
  | _ => True

instance decidableValid (atoi : CString → BitVec 32) (length : ℕ) :
    (e : LedEvent) → Decidable (e.Valid atoi length)
  | .writeCursor _ => inferInstanceAs (Decidable (_ < _))
  | .writeColor _ => inferInstanceAs (Decidable (_ = _))
  | .work => isTrue trivial

instance decidableColorsInPlace (s : LedUpdates) : (e : LedEvent) → Decidable (ColorsInPlace s e)
  | .work => inferInstanceAs (Decidable (_ → _))
  | .writeCursor _ => isTrue trivial
  | .writeColor _ => isTrue trivial

/-- The strip once `ztacx_led_strip_start` has run. -/
structure LedStrip.Started (s : LedStrip) : Prop extends s.Wired where
  cursor_eq : s.cursor = s.cursorVar.value.valUint16.toNat
  cursor_lt : s.cursorVar.value.valUint16.toNat < s.pixels.length
  idle : s.queue = []

/-! ## The invariant -/

theorem mem_kWorkSubmit {queue : List KWorkPtr} {work other : KWorkPtr} :
    other ∈ kWorkSubmit queue (some work) ↔ other ∈ queue ∨ other = work := by
  unfold kWorkSubmit
  dsimp only
  split
  · rename_i queued
    constructor
    · exact Or.inl
    · rintro (mem | rfl)
      · exact mem
      · exact queued
  · simp

/-- An item is queued at most once. -/
theorem nodup_kWorkSubmit {queue : List KWorkPtr} (nodup : queue.Nodup) (work : KWorkPtr) :
    (kWorkSubmit queue (some work)).Nodup := by
  unfold kWorkSubmit
  dsimp only
  split
  · exact nodup
  · rename_i new
    exact List.nodup_append.mpr ⟨nodup, List.nodup_singleton work, by
      rintro a mem b hb rfl
      rw [List.mem_singleton.mp hb] at mem
      exact new mem⟩

/-- **The invariant of the updates.** -/
structure LedInv (atoi : CString → BitVec 32) (length : ℕ) (s : LedUpdates) : Prop where
  wired : s.strip.Wired
  pixels_length : s.strip.pixels.length = length
  position : 0 ≤ s.strip.cursor
  cursor_eq : s.ideal.cursor = s.strip.cursorVar.value.valUint16.toNat
  cursor_lt : s.ideal.cursor < length
  inside : ∀ w ∈ s.owed, w.pos < length
  nodup : s.strip.queue.Nodup
  queued : ledStripColorOnchange ∈ s.strip.queue ↔ s.owed ≠ []
  latest : ∀ w, s.owed.getLast? = some w → ∃ c,
    s.strip.colorVar.value.valString.text = some c ∧ colorParse atoi c ⟨0, 0, 0⟩ = (w.color, 0)
  balance : s.ideal.pixels = applyWrites s.strip.pixels s.owed

section Steps

variable {atoi : CString → BitVec 32} {length : ℕ} {s : LedUpdates}

theorem ledInv_start {strip : LedStrip} (started : strip.Started) :
    LedInv atoi strip.pixels.length (.start strip) where
  wired := started.toWired
  pixels_length := rfl
  position := by
    show 0 ≤ strip.cursor
    rw [started.cursor_eq]
    exact Int.natCast_nonneg _
  cursor_eq := rfl
  cursor_lt := started.cursor_lt
  inside := fun w mem => absurd mem List.not_mem_nil
  nodup := by
    show strip.queue.Nodup
    rw [started.idle]
    exact List.nodup_nil
  queued := by
    show _ ∈ strip.queue ↔ _
    rw [started.idle]
    exact iff_of_false List.not_mem_nil (fun ne => ne rfl)
  latest := fun w last => by cases last
  balance := rfl

theorem ledStep_writeCursor (inv : LedInv atoi length s) {value : BitVec 16}
    (valid : value.toNat < length) :
    ∃ t, ledStep atoi s (.writeCursor value) = some t ∧ LedInv atoi length t := by
  obtain ⟨v, wrote, kind, onChange, stored⟩ := s.strip.writeCursor_spec inv.wired value
  refine ⟨_, by rw [ledStep, LedStrip.next, wrote]; rfl, ?_⟩
  exact
    { wired := { inv.wired with cursor_kind := kind, cursor_onChange := onChange }
      pixels_length := inv.pixels_length
      position := inv.position
      cursor_eq := congrArg BitVec.toNat stored.symm
      cursor_lt := valid
      inside := inv.inside
      nodup := nodup_kWorkSubmit inv.nodup _
      queued := by
        refine Iff.trans ?_ inv.queued
        rw [mem_kWorkSubmit]
        exact or_iff_left (by decide)
      latest := inv.latest
      balance := inv.balance }

/-- A colour that is written is owed to the pixel under the cursor. -/
theorem ledStep_writeColor (inv : LedInv atoi length s) {value : CString}
    (valid : (colorParse atoi value ⟨0, 0, 0⟩).2 = 0) :
    ∃ t, ledStep atoi s (.writeColor value) = some t ∧ LedInv atoi length t := by
  refine ⟨_, by rw [ledStep, LedStrip.next, LedStrip.writeColor_eq inv.wired]; rfl, ?_⟩
  exact
    { wired := { inv.wired with color_owned := rfl }
      pixels_length := inv.pixels_length
      position := inv.position
      cursor_eq := inv.cursor_eq
      cursor_lt := inv.cursor_lt
      inside := by
        intro w mem
        rcases List.mem_append.mp mem with earlier | new
        · exact inv.inside w earlier
        · rw [List.mem_singleton.mp new]
          exact inv.cursor_lt
      nodup := nodup_kWorkSubmit inv.nodup _
      queued := iff_of_true (mem_kWorkSubmit.mpr (.inr rfl)) (List.concat_ne_nil _ _)
      latest := by
        intro w last
        rw [LedUpdates.owedAfter, List.getLast?_concat, Option.some.injEq] at last
        subst last
        exact ⟨value, rfl, Prod.ext rfl valid⟩
      balance := by
        show s.ideal.pixels.set _ _ = applyWrites s.strip.pixels (s.owed ++ [_])
        rw [applyWrites_append_singleton, inv.balance] }

theorem owedAfter_idle (idle : s.strip.queue = []) : s.owedAfter atoi .work = s.owed :=
  if_neg (by rw [LedUpdates.ColorIsNext, idle]; simp)

theorem owedAfter_color {queue : List KWorkPtr}
    (hqueue : s.strip.queue = ledStripColorOnchange :: queue) : s.owedAfter atoi .work = [] :=
  if_pos (by rw [LedUpdates.ColorIsNext, hqueue]; rfl)

theorem owedAfter_other {work : KWorkPtr} {queue : List KWorkPtr}
    (hqueue : s.strip.queue = work :: queue) (other : work ≠ ledStripColorOnchange) :
    s.owedAfter atoi .work = s.owed := by
  refine if_neg fun next => other ?_
  rw [LedUpdates.ColorIsNext, hqueue] at next
  exact Option.some.inj next

/-- Any other item than the colour's moves the position at most. -/
theorem runWork_other {work : KWorkPtr} {queue : List KWorkPtr} (inv : LedInv atoi length s)
    (hqueue : s.strip.queue = work :: queue) (other : work ≠ ledStripColorOnchange) :
    ∃ cursor, 0 ≤ cursor ∧
      s.strip.runWork atoi = .ok { s.strip with queue := queue, cursor := cursor } := by
  by_cases cursor : work = ledStripCursorOnchange
  · subst cursor
    exact ⟨_, Int.natCast_nonneg _, LedStrip.runWork_cursor atoi inv.wired hqueue⟩
  · refine ⟨s.strip.cursor, inv.position, ?_⟩
    rw [LedStrip.runWork, hqueue]
    exact (if_neg cursor).trans (if_neg other)

theorem LedInv.next_item {work : KWorkPtr} {queue : List KWorkPtr} (inv : LedInv atoi length s)
    (hqueue : s.strip.queue = work :: queue) (other : work ≠ ledStripColorOnchange) {cursor : ℤ}
    (position : 0 ≤ cursor) :
    LedInv atoi length { s with strip := { s.strip with queue := queue, cursor := cursor } } where
  wired := { inv.wired with }
  pixels_length := inv.pixels_length
  position := position
  cursor_eq := inv.cursor_eq
  cursor_lt := inv.cursor_lt
  inside := inv.inside
  nodup := (List.nodup_cons.mp (hqueue ▸ inv.nodup)).2
  queued := by
    have queued := inv.queued
    rw [hqueue, List.mem_cons, or_iff_right other.symm] at queued
    exact queued
  latest := inv.latest
  balance := inv.balance

/-- The colour item places the latest colour. -/
theorem runWork_color {queue : List KWorkPtr} (inv : LedInv atoi length s)
    (hqueue : s.strip.queue = ledStripColorOnchange :: queue) :
    ∃ last, s.owed.getLast? = some last ∧ s.strip.runWork atoi = .ok { s.strip with
      queue := queue
      pixels := if s.strip.cursor < s.strip.pixels.length then
          s.strip.pixels.set s.strip.cursor.toNat last.color
        else s.strip.pixels } := by
  -- the item is queued, so a colour has been written since it last ran
  have owed : s.owed ≠ [] := inv.queued.mp (by rw [hqueue]; exact List.mem_cons_self)
  obtain ⟨last, hlast⟩ := Option.ne_none_iff_exists'.mp (mt List.getLast?_eq_none_iff.mp owed)
  obtain ⟨c, text, parses⟩ := inv.latest last hlast
  refine ⟨last, hlast, ?_⟩
  rw [LedStrip.runWork, hqueue]
  exact LedStrip.colorOnchange_eq (s := { s.strip with queue := queue }) text parses inv.position

/-- When the owed colours were all meant for that place, the ideal pixels are reached. -/
theorem LedInv.color_item {queue : List KWorkPtr} {last : LedWrite} (inv : LedInv atoi length s)
    (hqueue : s.strip.queue = ledStripColorOnchange :: queue)
    (hlast : s.owed.getLast? = some last) (same : ∀ w ∈ s.owed, (w.pos : ℤ) = s.strip.cursor) :
    LedInv atoi length
      { s with
        strip := { s.strip with
          queue := queue
          pixels := if s.strip.cursor < s.strip.pixels.length then
              s.strip.pixels.set s.strip.cursor.toNat last.color
            else s.strip.pixels }
        owed := [] } := by
  have mem : last ∈ s.owed := List.mem_of_getLast? hlast
  have pos : s.strip.cursor = last.pos := (same last mem).symm
  -- every owed pixel is on the strip, and so is the position that equals it
  have inside : s.strip.cursor < s.strip.pixels.length := by
    rw [pos, inv.pixels_length]
    exact_mod_cast inv.inside last mem
  have samePos : ∀ w ∈ s.owed, w.pos = last.pos := by
    intro w hw
    have := same w hw
    omega
  have nodup := hqueue ▸ inv.nodup
  rw [if_pos inside]
  exact
    { wired := { inv.wired with }
      pixels_length := (List.length_set ..).trans inv.pixels_length
      position := inv.position
      cursor_eq := inv.cursor_eq
      cursor_lt := inv.cursor_lt
      inside := fun w mem => absurd mem List.not_mem_nil
      nodup := (List.nodup_cons.mp nodup).2
      queued := iff_of_false (List.nodup_cons.mp nodup).1 (fun ne => ne rfl)
      latest := fun w last => by cases last
      balance := by
        rw [inv.balance, applyWrites_same s.strip.pixels samePos hlast, pos, Int.toNat_natCast]
        rfl }

/-- The work queue runs its next item. -/
theorem ledStep_work (inv : LedInv atoi length s) :
    ∃ t, ledStep atoi s .work = some t ∧ (ColorsInPlace s .work → LedInv atoi length t) := by
  cases hqueue : s.strip.queue with
  | nil =>
      refine ⟨s, ?_, fun _ => inv⟩
      rw [ledStep, LedStrip.next, LedStrip.runWork, hqueue, owedAfter_idle hqueue]
      rfl
  | cons work queue =>
      by_cases color : work = ledStripColorOnchange
      · subst color
        obtain ⟨last, hlast, ran⟩ := runWork_color inv hqueue
        refine ⟨_, by rw [ledStep, LedStrip.next, ran, owedAfter_color hqueue]; rfl,
          fun inPlace => ?_⟩
        have next : s.ColorIsNext := by rw [LedUpdates.ColorIsNext, hqueue]; rfl
        exact inv.color_item hqueue hlast (inPlace next)
      · obtain ⟨cursor, position, ran⟩ := runWork_other inv hqueue color
        refine ⟨_, by rw [ledStep, LedStrip.next, ran, owedAfter_other hqueue color]; rfl,
          fun _ => ?_⟩
        exact inv.next_item hqueue color position

/-- **The step lemma.** -/
theorem LedInv.ledStep {e : LedEvent} (inv : LedInv atoi length s) (valid : e.Valid atoi length) :
    ∃ t, Ztacx.ledStep atoi s e = some t ∧ (ColorsInPlace s e → LedInv atoi length t) := by
  cases e with
  | writeCursor value =>
      obtain ⟨t, taken, inv'⟩ := ledStep_writeCursor inv valid
      exact ⟨t, taken, fun _ => inv'⟩
  | writeColor value =>
      obtain ⟨t, taken, inv'⟩ := ledStep_writeColor inv valid
      exact ⟨t, taken, fun _ => inv'⟩
  | work => exact ledStep_work inv

/-- With an empty queue nothing is owed. -/
theorem LedInv.delivered (inv : LedInv atoi length s) : s.Delivered := by
  intro idle
  have nothing : s.owed = [] := by
    by_contra owed
    have mem := inv.queued.mpr owed
    rw [idle] at mem
    cases mem
  rw [inv.balance, nothing, applyWrites_nil]

end Steps

/-- **No update is lost in a run whose colours are in place.**  The run goes
through, and whenever the queue is empty the strip shows what the writes, applied
one at a time, would show. -/
theorem ledUpdates_delivered {atoi : CString → BitVec 32} {strip : LedStrip}
    (started : strip.Started) {es : List LedEvent}
    (valid : ∀ e ∈ es, e.Valid atoi strip.pixels.length)
    (inPlace : StepsMeet (ledStep atoi) ColorsInPlace (.start strip) es) :
    (∃ t, run (ledStep atoi) (.start strip) es = some t) ∧
      Throughout (ledStep atoi) LedUpdates.Delivered (.start strip) es := by
  obtain ⟨through, all⟩ := progress_throughout (fun inv valid => inv.ledStep valid)
    (ledInv_start started) valid inPlace
  exact ⟨through, all.mono LedInv.delivered⟩

/-! ### Two pixels, two colours -/

/-- A strip of three dark pixels. -/
def threePixels : LedStrip where
  cursorVar :=
    { name := .ofString "led_strip_cursor", name_lt := by decide, kind := .uint16, value := .zero,
      onChange := some ledStripCursorOnchange }
  colorVar :=
    { name := .ofString "led_strip_color", name_lt := by decide, kind := .string, value := .zero,
      onChange := some ledStripColorOnchange }
  cursor := 0
  pixels := [⟨0, 0, 0⟩, ⟨0, 0, 0⟩, ⟨0, 0, 0⟩]
  queue := []

theorem threePixels_started : threePixels.Started where
  cursor_kind := rfl
  cursor_onChange := rfl
  color_kind := rfl
  color_onChange := rfl
  color_owned := rfl
  cursor_eq := by decide
  cursor_lt := by decide
  idle := rfl

/-- Pixel 1 in red and pixel 2 in blue, with time for the work queue in between. -/
def redThenBlue : List LedEvent :=
  [.writeCursor 1, .writeColor (.ofString "red"), .work, .work,
    .writeCursor 2, .writeColor (.ofString "blue"), .work, .work]

theorem redThenBlue_delivered :
    (∃ t, run (ledStep fun _ => 0) (.start threePixels) redThenBlue = some t) ∧
      Throughout (ledStep fun _ => 0) LedUpdates.Delivered (.start threePixels) redThenBlue :=
  ledUpdates_delivered threePixels_started (by decide) (by decide)

/-- The same writes before the work queue gets to run. -/
def redAndBlue : List LedEvent :=
  [.writeCursor 1, .writeColor (.ofString "red"),
    .writeCursor 2, .writeColor (.ofString "blue"), .work, .work]

/-- Pixel 1 stays dark. -/
theorem redAndBlue_not_delivered :
    threePixels.Started ∧ (∀ e ∈ redAndBlue, e.Valid (fun _ => 0) threePixels.pixels.length) ∧
      ∃ t, run (ledStep fun _ => 0) (.start threePixels) redAndBlue = some t ∧
        t.strip.queue = [] ∧ t.strip.pixels = [⟨0, 0, 0⟩, ⟨0, 0, 0⟩, ⟨0, 0, 0x20⟩] ∧
        t.ideal.pixels = [⟨0, 0, 0⟩, ⟨0x20, 0, 0⟩, ⟨0, 0, 0x20⟩] :=
  ⟨threePixels_started, by decide, _, rfl, by decide, by decide, by decide⟩

/-! ## A cursor that waits

A writer has a rule to keep to that needs no history: the cursor is not moved while
a colour is waiting in the queue. -/

/-- The cursor is written only while the colour item is not queued. -/
def CursorWaits (s : LedUpdates) : LedEvent → Prop
  | .writeCursor _ => ledStripColorOnchange ∉ s.strip.queue
  | _ => True

/-- The queues in which the cursor's item comes first. -/
def cursorFirst : List (List KWorkPtr) :=
  [[], [ledStripCursorOnchange], [ledStripColorOnchange],
    [ledStripCursorOnchange, ledStripColorOnchange]]

theorem cursorFirst_submit_cursor : ∀ queue ∈ cursorFirst, ledStripColorOnchange ∉ queue →
    kWorkSubmit queue (some ledStripCursorOnchange) ∈ cursorFirst := by decide

theorem cursorFirst_submit_color : ∀ queue ∈ cursorFirst,
    kWorkSubmit queue (some ledStripColorOnchange) ∈ cursorFirst := by decide

theorem cursorFirst_color_alone : ∀ queue ∈ cursorFirst,
    queue.head? = some ledStripColorOnchange → ledStripCursorOnchange ∉ queue := by decide

theorem cursorFirst_cons {work : KWorkPtr} {queue : List KWorkPtr}
    (mem : work :: queue ∈ cursorFirst) :
    work = ledStripCursorOnchange ∨ work = ledStripColorOnchange := by
  simp only [cursorFirst, List.mem_cons, List.cons.injEq, List.not_mem_nil, reduceCtorEq] at mem
  tauto

/-- The owed colours share a pixel, and the strip knows it unless the cursor's item
is still to come. -/
structure CursorLeads (s : LedUpdates) : Prop where
  order : s.strip.queue ∈ cursorFirst
  same : ∀ w ∈ s.owed, w.pos = s.ideal.cursor
  seen : ledStripCursorOnchange ∉ s.strip.queue → s.strip.cursor = s.ideal.cursor

section CursorLeads

variable {atoi : CString → BitVec 32} {length : ℕ} {s t : LedUpdates}

theorem CursorLeads.colorsInPlace (leads : CursorLeads s) (e : LedEvent) : ColorsInPlace s e := by
  cases e with
  | work =>
      intro next w mem
      rw [leads.seen (cursorFirst_color_alone _ leads.order next), leads.same w mem]
  | _ => trivial

theorem CursorLeads.work (inv : LedInv atoi length s) (leads : CursorLeads s)
    (taken : ledStep atoi s .work = some t) : CursorLeads t := by
  have shorter : ∀ queue ∈ cursorFirst, queue.tail ∈ cursorFirst := by decide
  have order := shorter _ leads.order
  cases hqueue : s.strip.queue with
  | nil =>
      rw [ledStep, LedStrip.next, LedStrip.runWork, hqueue, owedAfter_idle hqueue] at taken
      cases taken
      exact leads
  | cons work queue =>
      rw [hqueue, List.tail_cons] at order
      by_cases color : work = ledStripColorOnchange
      · subst color
        have alone := cursorFirst_color_alone _ leads.order (by rw [hqueue]; rfl)
        obtain ⟨last, -, ran⟩ := runWork_color inv hqueue
        rw [ledStep, LedStrip.next, ran, owedAfter_color hqueue] at taken
        cases taken
        exact ⟨order, fun w mem => absurd mem List.not_mem_nil, fun _ => leads.seen alone⟩
      · have cursor : work = ledStripCursorOnchange := by
          have known := leads.order
          rw [hqueue] at known
          rcases cursorFirst_cons known with cursor | color'
          · exact cursor
          · exact absurd color' color
        subst cursor
        rw [ledStep, LedStrip.next, LedStrip.runWork_cursor atoi inv.wired hqueue,
          owedAfter_other hqueue color] at taken
        cases taken
        exact ⟨order, leads.same, fun _ => congrArg Nat.cast inv.cursor_eq.symm⟩

theorem CursorLeads.ledStep {e : LedEvent} (inv : LedInv atoi length s) (leads : CursorLeads s)
    (waits : CursorWaits s e) (taken : Ztacx.ledStep atoi s e = some t) : CursorLeads t := by
  cases e with
  | writeCursor value =>
      obtain ⟨v, wrote, -⟩ := s.strip.writeCursor_spec inv.wired value
      rw [Ztacx.ledStep, LedStrip.next, wrote] at taken
      cases taken
      -- no colour is owed while its item is not queued
      have nothing : s.owed = [] := not_ne_iff.mp (mt inv.queued.mpr waits)
      refine ⟨cursorFirst_submit_cursor _ leads.order waits, fun w mem => ?_,
        fun notQueued => ?_⟩
      · exact absurd (show w ∈ s.owed from mem) (nothing ▸ List.not_mem_nil)
      · exact absurd (mem_kWorkSubmit.mpr (.inr rfl)) notQueued
  | writeColor value =>
      rw [Ztacx.ledStep, LedStrip.next, LedStrip.writeColor_eq inv.wired] at taken
      cases taken
      refine ⟨cursorFirst_submit_color _ leads.order, fun w mem => ?_,
        fun notQueued => leads.seen fun mem => ?_⟩
      · rcases List.mem_append.mp mem with earlier | new
        · exact leads.same w earlier
        · rw [List.mem_singleton.mp new]
          rfl
      · exact notQueued (mem_kWorkSubmit.mpr (.inl mem))
  | work => exact leads.work inv taken

end CursorLeads

/-- No update is lost by writers that keep to the rule. -/
theorem ledUpdates_delivered_of_cursorWaits {atoi : CString → BitVec 32} {strip : LedStrip}
    (started : strip.Started) {es : List LedEvent}
    (valid : ∀ e ∈ es, e.Valid atoi strip.pixels.length)
    (waits : StepsMeet (ledStep atoi) CursorWaits (.start strip) es) :
    Throughout (ledStep atoi) LedUpdates.Delivered (.start strip) es := by
  have leads : CursorLeads (.start strip) := by
    refine ⟨?_, fun w mem => absurd mem List.not_mem_nil, fun _ => started.cursor_eq⟩
    show strip.queue ∈ cursorFirst
    rw [started.idle]
    decide
  have moves : ∀ {s e}, LedInv atoi strip.pixels.length s ∧ CursorLeads s →
      e.Valid atoi strip.pixels.length → ∃ t, ledStep atoi s e = some t ∧
        (CursorWaits s e → LedInv atoi strip.pixels.length t ∧ CursorLeads t) := by
    rintro s e ⟨inv, leads⟩ valid
    obtain ⟨t, taken, inv'⟩ := inv.ledStep valid
    exact ⟨t, taken, fun waits =>
      ⟨inv' (leads.colorsInPlace e), leads.ledStep inv waits taken⟩⟩
  obtain ⟨-, all⟩ := progress_throughout moves ⟨ledInv_start started, leads⟩ valid waits
  exact all.mono fun both => both.1.delivered

end Ztacx
