import Ztacx.Gps.Framing
import Ztacx.Gps.Line
import Ztacx.Gps.LocalTime
import Ztacx.Gps.Movement

/-!
# From the UART to the application

The GPS driver as a whole: interrupts put what the UART has received into the buffer, calls
of `gps_loop` take a line out of it and process it with `gps_line`, and that moves the position
and calls `on_movement`.

Interrupts and calls come in any order, and the UART cuts the stream wherever it likes.  The
result is that of processing the lines one after the other, each as soon as the loop is called
(`driver_sequential`), as long as the loop keeps up: not more than one line ends between two
calls (`KeepsUp`).  Then nothing else has to be asked: the buffer does not fill up, and the loop
finds the NUL wherever it needs it.

When the lines are sentences that `gps_line` knows, with any other lines between them, the
globals are those of the sentences (`driver_decodes`).  The dates among them are named `$GPGZDA`;
the name `$GPZDA`, which receivers send, is not one it knows (`Receiver.line_nmeaZda`).
-/

noncomputable section

namespace Ztacx.Gps

open CModel

/-! ## The driver -/

/-- `gps_line`, with the calls of `gps_location_change`. -/
def Receiver.line (lib : LibraryChoices) (s : Receiver) (buf : List UInt8) (now : ℤ) :
    Option Receiver :=
  (strchrOffset buf comma).toOption.bind fun found =>
    match found with
    | none => some s
    | some i =>
      let name := CString.ofBytes (buf.take i)
      let sentence := buf.drop (i + 1)
      if name = gllSentence then s.step lib (.location sentence now)
      else if name ∈ ignoredSentences then some s
      else if name = zdaSentence then
        (readCString sentence).toOption.bind fun _ => s.step lib (.date sentence)
      else (readCString sentence).toOption.map fun _ => s

/-- The buffer with its history, the times of the calls of `gps_line`, and the receiver. -/
structure GpsDriver where
  trace : GpsTrace
  times : List ℤ
  receiver : Receiver

/-- After `gps_setup`. -/
def GpsDriver.boot (movementThreshold : ℝ) : GpsDriver :=
  ⟨GpsTrace.boot true true, [], .boot movementThreshold⟩

/-- An interrupt with the results of its reads, or a call of `gps_loop` at a time. -/
inductive DriverEvent
  | rx (chunks : List (List UInt8))
  | loop (now : ℤ)

/-- What the event is for the buffer. -/
def DriverEvent.framing : DriverEvent → GpsEvent
  | .rx chunks => .rx chunks
  | .loop _ => .loop

def GpsDriver.step (lib : LibraryChoices) (s : GpsDriver) : DriverEvent → Option GpsDriver
  | .rx chunks => (gpsStep s.trace (.rx chunks)).map fun trace => { s with trace := trace }
  | .loop now =>
    (gpsLoop s.trace.gps).toOption.bind fun r =>
      let trace : GpsTrace :=
        { s.trace with
          gps := r.1
          lines := s.trace.lines ++ (r.2.1.map CString.ofBytes).toList }
      match r.2.1 with
      | none => some { s with trace := trace }
      | some buf =>
        (s.receiver.line lib buf now).map fun receiver => ⟨trace, s.times ++ [now], receiver⟩

/-- A line is processed, and when. -/
def Receiver.lineStep (lib : LibraryChoices) (s : Receiver) (e : CString × ℤ) : Option Receiver :=
  s.line lib (gpsLineBuf e.1) e.2

/-- A line that `gps_line` processes inside its buffer. -/
structure SafeLine (line : CString) : Prop where
  clean : newline ∉ line.bytes
  short : line.strlen < gpsLineBufSize
  safe : SafeLineBuf (gpsLineBuf line)

/-- **The UART delivers the lines, and the loop keeps up**: the bytes that wait for it contain
the end of one line at most. -/
def KeepsUp (lines : List CString) (s : GpsTrace) : GpsEvent → Prop
  | .rx chunks =>
    ReadsFit (gpsRxReset s.gps).gpsBufLen chunks ∧
      s.received ++ chunks.flatten <+: unlines (lines.map CString.bytes) ∧
      (s.gps.content ++ chunks.flatten).count newline ≤ 1
  | .loop => True

section Driver

variable {lib : LibraryChoices} {s t : GpsDriver}

/-- `Receiver.line` decodes as `gpsLine` does. -/
theorem Receiver.map_fix_line (lib : LibraryChoices) (s : Receiver) (buf : List UInt8) (now : ℤ) :
    (s.line lib buf now).map Receiver.fix = (gpsLine lib s.fix buf).toOption.map Prod.fst := by
  have stepped : ∀ e,
      (s.step lib e).map Receiver.fix = (decode lib s.fix e).toOption.map Prod.fst := by
    intro e
    unfold Receiver.step
    rcases decode lib s.fix e with fault | ⟨fix, _ | now⟩
    · rfl
    · rfl
    · obtain ⟨-, same⟩ | ⟨-, moved⟩ := (s.located fix).change_cases now
      · exact congrArg (fun r : Receiver => some r.fix) same
      · exact congrArg (fun r : Receiver => some r.fix) moved
  unfold Receiver.line gpsLine
  rcases strchrOffset buf comma with fault | _ | i
  · rfl
  · rfl
  · dsimp only [Except.bind, Except.toOption, Option.bind]
    split_ifs with location ignored date
    · rw [stepped, decode]
      rcases gpsLocationLine lib s.fix (buf.drop (i + 1)) with fault | ⟨fix, r⟩
      · rfl
      · rfl
    · rfl
    · rcases readCString (buf.drop (i + 1)) with fault | text
      · rfl
      · show (s.step lib _).map _ = _
        rw [stepped, decode]
        rcases gpsDateLine lib s.fix (buf.drop (i + 1)) with fault | ⟨fix, r⟩
        · rfl
        · rfl
    · rcases readCString (buf.drop (i + 1)) with fault | text
      · rfl
      · rfl

/-- What the driver does to the buffer. -/
theorem GpsDriver.step_trace {e : DriverEvent} (taken : s.step lib e = some t) :
    gpsStep s.trace e.framing = some t.trace := by
  cases e with
  | rx chunks =>
      obtain ⟨trace, received, rfl⟩ := Option.map_eq_some_iff.mp taken
      exact received
  | loop now =>
      obtain ⟨⟨gps, passed, rc⟩, ran, rest⟩ := Option.bind_eq_some_iff.mp taken
      show (gpsLoop s.trace.gps).toOption.map _ = _
      rw [ran]
      cases passed with
      | none =>
          cases rest
          rfl
      | some buf =>
          obtain ⟨receiver, -, rfl⟩ := Option.map_eq_some_iff.mp rest
          rfl

/-- A safe line is processed. -/
theorem SafeLine.processed {line : CString} (safe : SafeLine line) (s : Receiver) (now : ℤ) :
    ∃ s', s.lineStep lib (line, now) = some s' := by
  obtain ⟨r, ran⟩ : ∃ r, gpsLine lib s.fix (gpsLineBuf line) = .ok r :=
    (gpsLine_ok_iff line).mpr safe.safe
  have fix := s.map_fix_line lib (gpsLineBuf line) now
  rw [ran] at fix
  obtain ⟨s', processed, -⟩ := Option.map_eq_some_iff.mp fix
  exact ⟨s', processed⟩

end Driver

/-! ## The buffer of a loop that keeps up -/

section Buffer

variable {s s' : GpsState} {line rest : List UInt8}

/-- The bytes in front of the first NUL. -/
theorem ofBytes_append_cons {front : List UInt8} (nulFree : 0 ∉ front) (back : List UInt8) :
    (CString.ofBytes (front ++ 0 :: back)).bytes = front :=
  congrArg CString.bytes (CString.ofBytes_append_nul ⟨front, nulFree⟩ back)

/-- A newline that has been received is seen. -/
theorem lineInSight_of_content (holds : Holds s s.content) (nulFree : 0 ∉ s.content)
    (mem : newline ∈ s.content) : LineInSight s := by
  obtain ⟨back, split⟩ := holds.content_prefix
  have whole : (CString.ofBytes s.gpsBuf).bytes =
      s.content ++ back.takeWhile (fun c => c ≠ 0) := by
    show s.gpsBuf.takeWhile _ = _
    rw [← split]
    refine List.takeWhile_append_of_pos fun c inside => ?_
    rw [decide_eq_true_eq]
    rintro rfl
    exact nulFree inside
  unfold LineInSight
  rw [whole]
  exact List.mem_append_left _ mem

/-- With the NUL in place, only what has been received is seen. -/
theorem content_of_lineInSight (holds : Holds s s.content) (terminated : Terminated s)
    (nulFree : 0 ∉ s.content) (sight : LineInSight s) : newline ∈ s.content := by
  obtain ⟨back, split⟩ := holds.split terminated
  unfold LineInSight at sight
  rwa [split, ofBytes_append_cons nulFree] at sight

/-- A call that finds no line. -/
theorem gpsLoop_quiet {content : List UInt8} (holds : Holds s content)
    (active : (!s.ready || !s.gpsDev) = false) (unseen : ¬ LineInSight s) :
    gpsLoop s = .ok (s, none, 0) := by
  have terminated : 0 ∈ s.gpsBuf := List.mem_of_getElem? holds.last_eq
  have text : readCString s.gpsBuf = .ok (CString.ofBytes s.gpsBuf) := if_pos terminated
  unfold gpsLoop
  rw [active, text]
  show (match (CString.ofBytes s.gpsBuf).bytes.idxOf? newline with
    | none => _
    | some nlpos => _) = _
  rw [List.idxOf?_eq_none_iff.mpr unseen]

/-- **What the `memmove` leaves behind contains no newline** when none follows the line. -/
theorem gpsLoop_out_of_sight {buf : Option (List UInt8)} {rc : ℤ}
    (holds : Holds s (line ++ newline :: rest)) (terminated : Terminated s)
    (active : (!s.ready || !s.gpsDev) = false) (nulFree : 0 ∉ line ++ newline :: rest)
    (clean : newline ∉ line) (last : newline ∉ rest) (ran : gpsLoop s = .ok (s', buf, rc)) :
    ¬ LineInSight s' := by
  obtain ⟨lineFree, restFree⟩ : 0 ∉ line ∧ 0 ∉ rest := by simpa [newline] using nulFree
  obtain ⟨back, -, moves⟩ := gpsLoop_moves holds terminated active nulFree clean
  cases moves.symm.trans ran
  unfold LineInSight
  dsimp only
  by_cases shorter : rest.length ≤ line.length
  · -- the rest of the line is in sight, up to the NUL that has replaced its newline
    rw [List.drop_append_of_le_length shorter, ← List.append_assoc, ofBytes_append_cons]
    · simpa [last] using fun mem => clean (List.mem_of_mem_drop mem)
    · simpa [restFree] using fun mem => lineFree (List.mem_of_mem_drop mem)
  · -- the end of what followed the line is in sight a second time
    obtain ⟨k, longer⟩ : ∃ k, rest.length = line.length + (k + 1) :=
      ⟨rest.length - line.length - 1, by omega⟩
    have left : (line ++ 0 :: (rest ++ 0 :: back)).drop (line.length + (k + 1)) =
        rest.drop k ++ 0 :: back := by
      rw [← List.drop_drop, List.drop_left, List.drop_succ_cons,
        List.drop_append_of_le_length (by omega)]
    rw [longer, left, ← List.append_assoc, ofBytes_append_cons]
    · simpa [last] using fun mem => last (List.mem_of_mem_drop mem)
    · simpa [restFree] using fun mem => restFree (List.mem_of_mem_drop mem)

end Buffer

/-! ## Runs in which the loop keeps up -/

/-- **The invariant of a run that keeps up.** -/
structure Reception (lib : LibraryChoices) (threshold : ℝ) (lines : List CString)
    (s : GpsDriver) : Prop where
  framing : FramingInv s.trace
  active : (!s.trace.gps.ready || !s.trace.gps.gpsDev) = false
  arrived : s.trace.received <+: unlines (lines.map CString.bytes)
  waiting : s.trace.gps.content.count newline ≤ 1
  inPlace : LineInSight s.trace.gps → Terminated s.trace.gps
  handled : s.trace.lines <+: lines
  timed : s.times.length = s.trace.lines.length
  sequential : run (Receiver.lineStep lib) (.boot threshold) (s.trace.lines.zip s.times) =
    some s.receiver

section Reception

variable {lib : LibraryChoices} {threshold : ℝ} {lines : List CString} {s : GpsDriver}

theorem reception_boot : Reception lib threshold lines (.boot threshold) where
  framing := framingInv_boot true true
  active := rfl
  arrived := List.nil_prefix
  waiting := Nat.zero_le 1
  inPlace := fun _ => show Terminated (GpsState.boot true true) by decide +kernel
  handled := List.nil_prefix
  timed := rfl
  sequential := rfl

/-- What waits has arrived of the lines that have not been handled. -/
theorem Reception.content_prefix (inv : Reception lib threshold lines s) {more : List UInt8}
    (arrives : s.trace.received ++ more <+: unlines (lines.map CString.bytes)) :
    ∃ later, lines = s.trace.lines ++ later ∧
      s.trace.gps.content ++ more <+: unlines (later.map CString.bytes) := by
  obtain ⟨later, rfl⟩ := inv.handled
  refine ⟨later, rfl, ?_⟩
  rw [inv.framing.received_eq, List.map_append, unlines_append, List.append_assoc] at arrives
  exact (List.prefix_append_right_inj _).mp arrives

/-- A run that keeps up is within the limits of the buffer. -/
theorem Reception.fitsBuffers (safe : ∀ line ∈ lines, SafeLine line)
    (inv : Reception lib threshold lines s) : FitsBuffers s.trace := by
  have clean : ∀ line ∈ lines.map CString.bytes, newline ∉ line :=
    List.forall_mem_map.mpr fun line mem => (safe line mem).clean
  have short : ∀ line ∈ lines.map CString.bytes, line.length ≤ gpsLineBufSize - 1 := by
    refine List.forall_mem_map.mpr fun line mem => ?_
    have fits : line.bytes.length < gpsLineBufSize := (safe line mem).short
    omega
  refine ⟨?_, ?_, ?_⟩
  · intro mem
    obtain ⟨line, inside, byte⟩ := List.mem_flatMap.mp (inv.arrived.subset mem)
    obtain ⟨text, -, rfl⟩ := List.mem_map.mp inside
    obtain inText | ending := List.mem_append.mp byte
    · exact text.nul_free inText
    · exact absurd (List.mem_singleton.mp ending) (by decide)
  · intro line mem
    have complete := completeLines_prefix inv.arrived
    rw [completeLines_unlines clean] at complete
    have fits := short line (complete.subset mem)
    have size : gpsLineBufSize = 100 := rfl
    omega
  · obtain ⟨later, split, content⟩ := @Reception.content_prefix _ _ _ _ inv []
      (by rw [List.append_nil]; exact inv.arrived)
    rw [List.append_nil] at content
    have fits := length_le_of_prefix_unlines (fun line mem => short line (by
      rw [split, List.map_append]
      exact List.mem_append_right _ mem)) content
    have waiting := inv.waiting
    have line : gpsLineBufSize = 100 := rfl
    have buffer : gpsBufSize = 512 := rfl
    rw [inv.framing.holds.len_eq]
    rw [line] at fits
    omega

/-- An interrupt. -/
theorem Reception.rx (safe : ∀ line ∈ lines, SafeLine line) (inv : Reception lib threshold lines s)
    {chunks : List (List UInt8)} (keepsUp : KeepsUp lines s.trace (.rx chunks)) :
    ∃ s', s.step lib (.rx chunks) = some s' ∧ Reception lib threshold lines s' := by
  obtain ⟨fits, arrives, waiting⟩ := keepsUp
  have limits := inv.fitsBuffers safe
  have room := limits.waiting_lt
  have keeps : gpsRxReset s.trace.gps = s.trace.gps := if_neg (by omega)
  rw [inv.framing.holds.len_eq] at room
  obtain ⟨g, received, holds, terminated, ready, dev⟩ :=
    gpsRxIsr_receives inv.framing.holds room (by rwa [keeps, inv.framing.holds.len_eq] at fits)
  have taken : gpsStep s.trace (.rx chunks) =
      some { s.trace with gps := g, received := s.trace.received ++ chunks.flatten } := by
    refine Option.ite_none_right_eq_some.mpr ⟨fits, ?_⟩
    rw [received]
    rfl
  refine ⟨_, congrArg (Option.map _) taken, ?_⟩
  exact
    { framing := inv.framing.rx limits taken
      active := by
        show (!g.ready || !g.gpsDev) = false
        rw [ready, dev]
        exact inv.active
      arrived := arrives
      waiting := by
        show g.content.count newline ≤ 1
        rw [content_eq holds]
        exact waiting
      inPlace := fun _ => terminated
      handled := inv.handled
      timed := inv.timed
      sequential := inv.sequential }

/-- The line that waits is the next one of those that are sent, and no other waits behind it. -/
theorem Reception.nextLine (inv : Reception lib threshold lines s)
    (safe : ∀ line ∈ lines, SafeLine line) (seen : newline ∈ s.trace.gps.content) :
    ∃ first later rest, lines = s.trace.lines ++ first :: later ∧
      s.trace.gps.content = first.bytes ++ newline :: rest ∧ newline ∉ rest := by
  obtain ⟨line, rest, cut, clean⟩ := List.eq_append_cons_of_mem seen
  obtain ⟨later, split, content⟩ := @Reception.content_prefix _ _ _ _ inv []
    (by rw [List.append_nil]; exact inv.arrived)
  rw [List.append_nil, cut] at content
  cases later with
  | nil => exact absurd (List.prefix_nil.mp content) (by simp)
  | cons first later =>
      have sent : SafeLine first := safe first (split ▸ List.mem_append_right _ List.mem_cons_self)
      obtain ⟨rfl, -⟩ := prefix_unlines_cons clean sent.clean content
      refine ⟨first, later, rest, split, cut, ?_⟩
      have waiting := inv.waiting
      rw [cut, List.count_append, List.count_cons_self] at waiting
      exact List.count_eq_zero.mp (by omega)

/-- A call of `gps_loop` that finds a line. -/
theorem Reception.handles (safe : ∀ line ∈ lines, SafeLine line)
    (inv : Reception lib threshold lines s) (seen : newline ∈ s.trace.gps.content) (now : ℤ) :
    ∃ s', s.step lib (.loop now) = some s' ∧ Reception lib threshold lines s' ∧
      newline ∉ s'.trace.gps.content := by
  have limits := inv.fitsBuffers safe
  have nulFree : 0 ∉ s.trace.gps.content := fun mem =>
    limits.nul_free (inv.framing.received_eq ▸ List.mem_append_right _ mem)
  have terminated := inv.inPlace (lineInSight_of_content inv.framing.holds nulFree seen)
  obtain ⟨first, later, rest, split, cut, last⟩ := inv.nextLine safe seen
  have sent : SafeLine first := safe first (split ▸ List.mem_append_right _ List.mem_cons_self)
  have clean := sent.clean
  have holds := inv.framing.holds
  rw [cut] at holds nulFree
  obtain ⟨g, buf, consumed, holds', hbuf, ready, dev⟩ :=
    gpsLoop_consumes holds terminated inv.active nulFree clean
  have out := gpsLoop_out_of_sight holds terminated inv.active nulFree clean last consumed
  obtain ⟨receiver, processed⟩ := @SafeLine.processed lib first sent s.receiver now
  cases (show buf = gpsLineBuf first from hbuf)
  have whole : CString.ofBytes (gpsLineBuf first) = first :=
    ofBytes_lineBuf first.nul_free sent.short
  have taken : s.step lib (.loop now) = some
      { trace := { s.trace with gps := g, lines := s.trace.lines ++ [first] }
        times := s.times ++ [now]
        receiver := receiver } := by
    unfold GpsDriver.step
    rw [consumed]
    simp only [Except.toOption, Option.bind_some, Option.map_some, Option.toList_some, whole]
    exact Option.map_eq_some_iff.mpr ⟨receiver, processed, rfl⟩
  have left := content_eq holds'
  refine ⟨_, taken, ?_, by rwa [left]⟩
  exact
    { framing := inv.framing.loop limits inv.inPlace (GpsDriver.step_trace taken)
      active := by
        show (!g.ready || !g.gpsDev) = false
        rw [ready, dev]
        exact inv.active
      arrived := inv.arrived
      waiting := by
        show g.content.count newline ≤ 1
        rw [left, List.count_eq_zero.mpr last]
        exact Nat.zero_le 1
      inPlace := fun sight => absurd sight out
      handled := ⟨later, by rw [split, List.append_assoc]; rfl⟩
      timed := by simp [inv.timed]
      sequential := by
        rw [List.zip_append inv.timed.symm]
        exact run_append_eq_some inv.sequential (run_cons_eq_some.mpr ⟨receiver, processed, rfl⟩) }

/-- **A call of `gps_loop`**: no line waits behind it. -/
theorem Reception.loop (safe : ∀ line ∈ lines, SafeLine line)
    (inv : Reception lib threshold lines s) (now : ℤ) :
    ∃ s', s.step lib (.loop now) = some s' ∧ Reception lib threshold lines s' ∧
      newline ∉ s'.trace.gps.content := by
  by_cases seen : newline ∈ s.trace.gps.content
  · exact inv.handles safe seen now
  · have limits := inv.fitsBuffers safe
    have nulFree : 0 ∉ s.trace.gps.content := fun mem =>
      limits.nul_free (inv.framing.received_eq ▸ List.mem_append_right _ mem)
    have unseen : ¬ LineInSight s.trace.gps := fun sight =>
      seen (content_of_lineInSight inv.framing.holds (inv.inPlace sight) nulFree sight)
    have taken : s.step lib (.loop now) = some s := by
      unfold GpsDriver.step
      rw [gpsLoop_quiet inv.framing.holds inv.active unseen]
      simp [Except.toOption]
    exact ⟨s, taken, inv, seen⟩

theorem Reception.step (safe : ∀ line ∈ lines, SafeLine line)
    (inv : Reception lib threshold lines s) {e : DriverEvent}
    (keepsUp : KeepsUp lines s.trace e.framing) :
    ∃ s', s.step lib e = some s' ∧ Reception lib threshold lines s' := by
  cases e with
  | rx chunks => exact inv.rx safe keepsUp
  | loop now =>
      obtain ⟨s', taken, inv', -⟩ := inv.loop safe now
      exact ⟨s', taken, inv'⟩

/-- When no line waits, all of them have been handled. -/
theorem Reception.map_lines (inv : Reception lib threshold lines s)
    (empty : newline ∉ s.trace.gps.content) :
    completeLines s.trace.received = s.trace.lines.map CString.bytes := by
  have framed := inv.framing.framedExactly
  rwa [FramedExactly, completeLines_of_notMem empty, List.append_nil] at framed

/-- A run that keeps up goes through, and at the next call of the loop no line waits. -/
theorem exists_reception (safe : ∀ line ∈ lines, SafeLine line) {es : List DriverEvent}
    (keepsUp : Meets gpsStep (KeepsUp lines) (GpsTrace.boot true true)
      (es.map DriverEvent.framing)) (now : ℤ) :
    ∃ s, run (GpsDriver.step lib) (.boot threshold) (es ++ [.loop now]) = some s ∧
      Reception lib threshold lines s ∧ newline ∉ s.trace.gps.content := by
  have meets : Meets (GpsDriver.step lib) (fun s e => KeepsUp lines s.trace e.framing)
      (.boot threshold) es :=
    @Meets.of_part _ _ (GpsDriver.step lib) _ _ gpsStep (KeepsUp lines) GpsDriver.trace
      DriverEvent.framing GpsDriver.step_trace _ es keepsUp
  obtain ⟨⟨t, ran⟩, all⟩ := safe_of_meets (P := Reception lib threshold lines)
    (I := Reception lib threshold lines) (D := fun _ => True) id
    (fun inv _ cond => inv.step safe cond) reception_boot (fun _ _ => trivial) meets
  obtain ⟨s, taken, inv, empty⟩ := (all es List.prefix_rfl t ran).loop safe now
  exact ⟨s, run_append_eq_some ran (run_cons_eq_some.mpr ⟨s, taken, rfl⟩), inv, empty⟩

/-- **After every call of the loop**, the lines received have been processed one after the
other, in every run in which the loop keeps up; and the run goes through. -/
theorem driver_sequential (safe : ∀ line ∈ lines, SafeLine line) {es : List DriverEvent} {now : ℤ}
    (keepsUp : Meets gpsStep (KeepsUp lines) (GpsTrace.boot true true)
      (es.map DriverEvent.framing)) :
    ∃ s, run (GpsDriver.step lib) (.boot threshold) (es ++ [.loop now]) = some s ∧
      s.trace.lines = lines.take (completeLines s.trace.received).length ∧
      s.times.length = s.trace.lines.length ∧
      run (Receiver.lineStep lib) (.boot threshold) (s.trace.lines.zip s.times) =
        some s.receiver := by
  obtain ⟨s, ran, inv, empty⟩ := exists_reception safe keepsUp now
  refine ⟨s, ran, ?_, inv.timed, inv.sequential⟩
  rw [inv.map_lines empty, List.length_map]
  exact List.prefix_iff_eq_take.mp inv.handled

end Reception

/-! ## Sentences -/

/-- A line that is received: a position, a date under the name that `gps_line` looks for, or any
line of another kind. -/
inductive Message
  | gll (position : Option GllPosition) (time : GllTime)
  | zda (body : ZdaBody)
  | other (line : CString)
      (unknown : ∀ name ∈ [gllSentence, zdaSentence], ¬ name.bytes ++ [comma] <+: line.bytes)

def Message.bytes : Message → List UInt8
  | .gll position time => gllSentence.bytes ++ comma :: gllBytes position time
  | .zda body => zdaSentence.bytes ++ comma :: body.bytes
  | .other line _ => line.bytes

theorem nul_notMem_gllBytes (position : Option GllPosition) (t : GllTime) :
    0 ∉ gllBytes position t := by
  cases position with
  | none => simp [gllBytes, GllTime.bytes, CString.nul_free, comma]
  | some p => simp [gllBytes, GllTime.bytes, CString.nul_free, comma]

theorem ZdaBody.nul_notMem_bytes (z : ZdaBody) : 0 ∉ z.bytes := by
  simp [ZdaBody.bytes, CString.nul_free, comma]

theorem Message.nul_free (m : Message) : 0 ∉ m.bytes := by
  cases m with
  | gll position time =>
      simp [Message.bytes, CString.nul_free, nul_notMem_gllBytes, comma]
  | zda body => simp [Message.bytes, CString.nul_free, ZdaBody.nul_notMem_bytes, comma]
  | other line unknown => exact line.nul_free

def Message.line (m : Message) : CString := ⟨m.bytes, m.nul_free⟩

/-- What the message says. -/
def Message.apply (lib : LibraryChoices) (s : Receiver) (now : ℤ) : Message → Receiver
  | .gll position time =>
    let fix := (position.map fun p => located p s.fix).getD s.fix
    (s.located (timed lib time.time fix)).change now
  | .zda body => s.located (dated lib body s.fix)
  | .other _ _ => s

/-- A message that is one line, and fits the line buffer. -/
structure Message.Fits (m : Message) : Prop where
  clean : newline ∉ m.bytes
  short : m.bytes.length < gpsLineBufSize

section Messages

variable {lib : LibraryChoices} {threshold : ℝ} {m : Message}

/-- The line buffer of a line that leaves room for the NUL. -/
theorem gpsLineBuf_of_short {line : CString} (short : line.strlen < gpsLineBufSize) :
    ∃ behind, gpsLineBuf line = line.bytes ++ 0 :: behind := by
  have fits : line.bytes.length < gpsLineBufSize := short
  obtain ⟨k, hk⟩ : ∃ k, gpsLineBufSize - line.strlen = k + 1 :=
    ⟨gpsLineBufSize - line.bytes.length - 1, by show _ - line.bytes.length = _; omega⟩
  refine ⟨List.replicate k 0, ?_⟩
  rw [gpsLineBuf, List.take_of_length_le (by omega), hk]
  rfl

/-- **The sentence with a name** is what follows the comma. -/
theorem Receiver.line_named {s : Receiver} {name : CString} {body : List UInt8} {now : ℤ}
    (plain : comma ∉ name.bytes) (behind : List UInt8) (nulFree : 0 ∉ body) :
    s.line lib (name.bytes ++ comma :: body ++ 0 :: behind) now =
      if name = gllSentence then s.step lib (.location (body ++ 0 :: behind) now)
      else if name ∈ ignoredSentences then some s
      else if name = zdaSentence then s.step lib (.date (body ++ 0 :: behind))
      else some s := by
  have whole : 0 ∉ name.bytes ++ comma :: body := by
    simp [name.nul_free, nulFree, comma]
  have found : strchrOffset (name.bytes ++ comma :: body ++ 0 :: behind) comma =
      .ok (some name.bytes.length) := by
    unfold strchrOffset
    rw [ofBytes_append_cons whole, idxOf?_append_cons plain]
  have front : (name.bytes ++ comma :: body ++ 0 :: behind).take name.bytes.length =
      name.bytes := by
    rw [List.append_assoc, List.take_left]
  have back : (name.bytes ++ comma :: body ++ 0 :: behind).drop (name.bytes.length + 1) =
      body ++ 0 :: behind := by
    rw [List.append_assoc, List.drop_append, List.drop_eq_nil_of_le (by omega)]
    simp
  have text : readCString (body ++ 0 :: behind) = .ok ⟨body, nulFree⟩ :=
    readCString_content nulFree
  unfold Receiver.line
  rw [found]
  simp only [Except.toOption, Option.bind_some, front, back, text, CString.ofBytes_bytes,
    Option.map_some]

theorem gllSentence_plain : comma ∉ gllSentence.bytes := by decide

theorem zdaSentence_plain : comma ∉ zdaSentence.bytes := by decide

theorem zdaSentence_ne : zdaSentence ≠ gllSentence := by decide

theorem zdaSentence_notMem : zdaSentence ∉ ignoredSentences := by decide

/-- Any other line is passed over. -/
theorem Receiver.line_other {s : Receiver} {line : CString} {now : ℤ}
    (unknown : ∀ name ∈ [gllSentence, zdaSentence], ¬ name.bytes ++ [comma] <+: line.bytes)
    (behind : List UInt8) : s.line lib (line.bytes ++ 0 :: behind) now = some s := by
  by_cases named : comma ∈ line.bytes
  · obtain ⟨front, body, split, plain⟩ := List.eq_append_cons_of_mem named
    obtain ⟨frontFree, bodyFree⟩ : 0 ∉ front ∧ 0 ∉ body := by
      simpa [split, comma] using line.nul_free
    have same : ∀ name, (⟨front, frontFree⟩ : CString) = name →
        name.bytes ++ [comma] <+: line.bytes := by
      rintro _ rfl
      exact ⟨body, by rw [split, List.append_assoc]; rfl⟩
    have processed := @Receiver.line_named lib s ⟨front, frontFree⟩ body now plain behind bodyFree
    rw [split]
    refine processed.trans ?_
    rw [if_neg fun eq => unknown gllSentence List.mem_cons_self (same _ eq),
      if_neg fun eq => unknown zdaSentence (List.mem_cons_of_mem _ List.mem_cons_self) (same _ eq),
      ite_self]
  · have found : strchrOffset (line.bytes ++ 0 :: behind) comma = .ok none := by
      unfold strchrOffset
      rw [ofBytes_append_cons line.nul_free, List.idxOf?_eq_none_iff.mpr named]
      exact if_pos (by simp)
    unfold Receiver.line
    rw [found]
    rfl

/-- The name of the sentence that `gps_date_line` describes, as receivers send it. -/
def nmeaZdaSentence : CString := .ofString "$GPZDA"

/-- **A date is not taken from a receiver**: the sentence is passed over. -/
theorem Receiver.line_nmeaZda {s : Receiver} {now : ℤ} (z : ZdaBody) (behind : List UInt8) :
    s.line lib (nmeaZdaSentence.bytes ++ comma :: z.bytes ++ 0 :: behind) now = some s := by
  have plain : comma ∉ nmeaZdaSentence.bytes := by decide
  have location : nmeaZdaSentence ≠ gllSentence := by decide
  have date : nmeaZdaSentence ≠ zdaSentence := by decide
  rw [Receiver.line_named plain behind z.nul_notMem_bytes, if_neg location, if_neg date, ite_self]

/-- **A message is understood.** -/
theorem Message.Fits.processed (fits : m.Fits) (s : Receiver) (now : ℤ) :
    s.lineStep lib (m.line, now) = some (m.apply lib s now) := by
  obtain ⟨behind, buffer⟩ := @gpsLineBuf_of_short m.line fits.short
  unfold Receiver.lineStep
  rw [buffer]
  cases m with
  | gll position time =>
      refine (Receiver.line_named gllSentence_plain behind
        (nul_notMem_gllBytes position time)).trans ?_
      rw [if_pos rfl]
      unfold Receiver.step
      rw [decode, gpsLocationLine_gll]
      rfl
  | zda body =>
      refine (Receiver.line_named zdaSentence_plain behind body.nul_notMem_bytes).trans ?_
      rw [if_neg zdaSentence_ne, if_neg zdaSentence_notMem, if_pos rfl]
      unfold Receiver.step
      rw [decode, gpsDateLine_zda]
      rfl
  | other line unknown => exact Receiver.line_other unknown behind

/-- A message is processed inside the buffers. -/
theorem Message.Fits.safeLine (fits : m.Fits) : SafeLine m.line where
  clean := fits.clean
  short := fits.short
  safe := by
    have fix := (Receiver.boot 0).map_fix_line plainLibrary (gpsLineBuf m.line) 0
    have processed : (Receiver.boot 0).line plainLibrary (gpsLineBuf m.line) 0 = some _ :=
      fits.processed (.boot 0) 0
    rw [processed] at fix
    obtain ⟨r, ran, -⟩ := Option.map_eq_some_iff.mp fix.symm
    exact (gpsLine_ok_iff m.line).mp ⟨r, toOption_eq_some_iff.mp ran⟩

/-- Messages one after the other. -/
theorem run_messages {es : List (Message × ℤ)} (fits : ∀ e ∈ es, e.1.Fits) (s : Receiver) :
    run (Receiver.lineStep lib) s (es.map (Prod.map Message.line id)) =
      some (es.foldl (fun receiver e => e.1.apply lib receiver e.2) s) := by
  induction es generalizing s with
  | nil => rfl
  | cons e es ih =>
      obtain ⟨here, later⟩ := List.forall_mem_cons.mp fits
      exact run_cons_eq_some.mpr ⟨_, here.processed s e.2, ih later _⟩

/-- **The globals are those of the messages received**: after every call of the loop, in every
run in which the loop keeps up. -/
theorem driver_decodes {messages : List Message} (fits : ∀ m ∈ messages, m.Fits)
    {es : List DriverEvent} {now : ℤ}
    (keepsUp : Meets gpsStep (KeepsUp (messages.map Message.line)) (GpsTrace.boot true true)
      (es.map DriverEvent.framing)) :
    ∃ s, run (GpsDriver.step lib) (.boot threshold) (es ++ [.loop now]) = some s ∧
      s.times.length = (completeLines s.trace.received).length ∧
      s.receiver = (messages.zip s.times).foldl
        (fun receiver e => e.1.apply lib receiver e.2) (.boot threshold) := by
  have safe : ∀ line ∈ messages.map Message.line, SafeLine line :=
    List.forall_mem_map.mpr fun m mem => (fits m mem).safeLine
  obtain ⟨s, ran, inv, empty⟩ := exists_reception safe keepsUp now
  refine ⟨s, ran, ?_, ?_⟩
  · rw [inv.map_lines empty, List.length_map, inv.timed]
  · have zipped : s.trace.lines.zip s.times =
        (messages.zip s.times).map (Prod.map Message.line id) := by
      obtain ⟨later, split⟩ := inv.handled
      have whole := @List.zip_append _ _ s.trace.lines later s.times [] inv.timed.symm
      rw [← List.zip_map_left, ← split]
      simpa using whole.symm
    have sequential := inv.sequential
    rw [zipped, run_messages fun e mem => fits e.1 (List.of_mem_zip mem).1] at sequential
    exact (Option.some.inj sequential).symm

end Messages

/-! ## Two positions in three interrupts -/

instance decidableKeepsUp (lines : List CString) (s : GpsTrace) :
    (e : GpsEvent) → Decidable (KeepsUp lines s e)
  | .rx chunks => inferInstanceAs (Decidable (ReadsFit (gpsRxReset s.gps).gpsBufLen chunks ∧
      s.received ++ chunks.flatten <+: unlines (lines.map CString.bytes) ∧
      (s.gps.content ++ chunks.flatten).count newline ≤ 1))
  | .loop => isTrue trivial

/-- One degree, and then the next. -/
def degrees : List Message :=
  [.gll (some (eastern digitOne)) midnight, .gll (some (eastern digitTwo)) midnight]

theorem degrees_fit : ∀ m ∈ degrees, m.Fits :=
  List.forall_mem_cons.mpr ⟨⟨by decide, by decide⟩,
    List.forall_mem_singleton.mpr ⟨by decide, by decide⟩⟩

/-- The end of the first sentence comes with the start of the second one. -/
def degreesInPieces : List DriverEvent :=
  let stream := unlines ((degrees.map Message.line).map CString.bytes)
  [.rx [stream.take 8, (stream.drop 8).take 2], .loop 1000, .rx [(stream.drop 10).take 30],
    .loop 2000, .rx [stream.drop 40]]

theorem degreesInPieces_keepsUp :
    Meets gpsStep (KeepsUp (degrees.map Message.line)) (GpsTrace.boot true true)
      (degreesInPieces.map DriverEvent.framing) := by
  decide +kernel

theorem degreesInPieces_sequential :
    ∃ s, run (GpsDriver.step plainLibrary) (.boot 10) (degreesInPieces ++ [.loop 3000]) = some s ∧
      s.trace.lines = (degrees.map Message.line).take (completeLines s.trace.received).length ∧
      s.times.length = s.trace.lines.length ∧
      run (Receiver.lineStep plainLibrary) (.boot 10) (s.trace.lines.zip s.times) =
        some s.receiver :=
  driver_sequential (List.forall_mem_map.mpr fun m mem => (degrees_fit m mem).safeLine)
    degreesInPieces_keepsUp

theorem degreesInPieces_decoded :
    ∃ s, run (GpsDriver.step plainLibrary) (.boot 10) (degreesInPieces ++ [.loop 3000]) = some s ∧
      s.times.length = (completeLines s.trace.received).length ∧
      s.receiver = (degrees.zip s.times).foldl
        (fun receiver e => e.1.apply plainLibrary receiver e.2) (.boot 10) :=
  driver_decodes degrees_fit degreesInPieces_keepsUp

end Ztacx.Gps

end
