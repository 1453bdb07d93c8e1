import Ztacx.CModel.Run
import Ztacx.Gps.Buffer

/-!
# Framing of GPS sentences

The UART delivers a byte stream in pieces, the main loop takes out lines, and
the two interleave in any way.  The history keeps what has been received and
which lines `gps_line` was given; `FramedExactly` compares the two: the lines
received are the lines handed over followed by those still in the buffer.

`framedExactly_throughout` proves that along every run within the limits of the
buffer (`WithinLimits`) in which the loop, whenever it sees a newline, finds the
NUL behind the content.  An interrupt leaves it there (`gpsRxIsr_receives`).  The
loop leaves it there only by accident, so a second queued line is the case that
goes wrong: `twoLines_not_framedExactly`.

The invariant is `FramingInv`: the stream is the lines handed over, each with its
newline, and then the content of the buffer.
-/

namespace Ztacx.Gps

open CModel

/-- The receiver with the history of a run. -/
structure GpsTrace where
  gps : GpsState
  received : List UInt8
  lines : List CString

def GpsTrace.boot (ready gpsDev : Bool) : GpsTrace := ⟨GpsState.boot ready gpsDev, [], []⟩

/-- An interrupt with the results of its reads, or a call of `gps_loop`. -/
inductive GpsEvent
  | rx (chunks : List (List UInt8))
  | loop

def gpsStep (s : GpsTrace) : GpsEvent → Option GpsTrace
  | .rx chunks =>
    if ReadsFit (gpsRxReset s.gps).gpsBufLen chunks then
      (gpsRxIsr s.gps chunks).toOption.map fun gps =>
        { s with gps := gps, received := s.received ++ chunks.flatten }
    else none
  | .loop =>
    (gpsLoop s.gps).toOption.map fun r =>
      { s with gps := r.1, lines := s.lines ++ (r.2.1.map CString.ofBytes).toList }

/-- The bytes that wait in the buffer. -/
def GpsState.content (s : GpsState) : List UInt8 := s.gpsBuf.take s.gpsBufLen

/-- **Each complete line exactly once, in order**: the lines received are those
handed to `gps_line` and those still waiting in the buffer. -/
def FramedExactly (s : GpsTrace) : Prop :=
  completeLines s.received = s.lines.map CString.bytes ++ completeLines s.gps.content

/-- What the receiver is made for: text, lines that fit the line buffer, and a
loop that keeps up. -/
structure WithinLimits (s : GpsTrace) : Prop where
  nul_free : 0 ∉ s.received
  line_lt : ∀ line ∈ completeLines s.received, line.length + 1 < gpsLineBufSize
  waiting_lt : s.gps.gpsBufLen < gpsBufSize - 5

/-- What the steps need of these limits: a line fits the line buffer if its NUL does. -/
structure FitsBuffers (s : GpsTrace) : Prop where
  nul_free : 0 ∉ s.received
  line_lt : ∀ line ∈ completeLines s.received, line.length < gpsLineBufSize
  waiting_lt : s.gps.gpsBufLen < gpsBufSize - 5

theorem WithinLimits.fitsBuffers {s : GpsTrace} (limits : WithinLimits s) : FitsBuffers s :=
  ⟨limits.nul_free, fun line mem => (Nat.lt_succ_self _).trans (limits.line_lt line mem),
    limits.waiting_lt⟩

/-- When the loop sees a newline, the NUL stands behind the content. -/
def TerminatorInPlace (s : GpsTrace) : GpsEvent → Prop
  | .rx _ => True
  | .loop => LineInSight s.gps → Terminated s.gps

/-! ## The invariant -/

/-- **The invariant of framing.** -/
structure FramingInv (s : GpsTrace) : Prop where
  holds : Holds s.gps s.gps.content
  clean : ∀ line ∈ s.lines, newline ∉ line.bytes
  received_eq : s.received =
    (s.lines.map CString.bytes).flatMap (fun line => line ++ [newline]) ++ s.gps.content

section Steps

variable {s t : GpsTrace}

/-- The content is what the buffer holds. -/
theorem content_eq {g : GpsState} {content : List UInt8} (holds : Holds g content) :
    g.content = content := by
  obtain ⟨back, split⟩ := holds.content_prefix
  rw [GpsState.content, holds.len_eq, ← split]
  exact List.take_left

theorem FramingInv.framedExactly (inv : FramingInv s) : FramedExactly s := by
  have clean : ∀ line ∈ s.lines.map CString.bytes, newline ∉ line := by
    intro line mem
    obtain ⟨text, htext, rfl⟩ := List.mem_map.mp mem
    exact inv.clean text htext
  unfold FramedExactly
  rw [inv.received_eq]
  exact completeLines_flatMap_append clean _

theorem framingInv_boot (ready gpsDev : Bool) : FramingInv (GpsTrace.boot ready gpsDev) where
  holds := holds_boot ready gpsDev
  clean := fun _ mem => absurd mem List.not_mem_nil
  received_eq := rfl

/-- An interrupt appends to the stream and to the content alike. -/
theorem FramingInv.rx (inv : FramingInv s) (limits : FitsBuffers s) {chunks : List (List UInt8)}
    (taken : gpsStep s (.rx chunks) = some t) : FramingInv t := by
  have room := limits.waiting_lt
  rw [inv.holds.len_eq] at room
  have keeps : gpsRxReset s.gps = s.gps := by
    unfold gpsRxReset
    rw [if_neg (by rw [inv.holds.len_eq]; omega)]
  obtain ⟨fits, ran⟩ := Option.ite_none_right_eq_some.mp taken
  rw [keeps, inv.holds.len_eq] at fits
  obtain ⟨g, received, holds, -, -, -⟩ := gpsRxIsr_receives inv.holds room fits
  obtain ⟨g', ran', rfl⟩ := Option.map_eq_some_iff.mp ran
  cases received.symm.trans (toOption_eq_some_iff.mp ran')
  have grown := content_eq holds
  refine ⟨?_, inv.clean, ?_⟩
  · show Holds g g.content
    rw [grown]
    exact holds
  · show s.received ++ chunks.flatten = _ ++ g.content
    rw [grown, inv.received_eq, List.append_assoc]

/-- The loop moves one line from the content to the lines handed over. -/
theorem FramingInv.loop (inv : FramingInv s) (limits : FitsBuffers s)
    (inPlace : TerminatorInPlace s .loop) (taken : gpsStep s .loop = some t) : FramingInv t := by
  obtain ⟨⟨g, passed, rc⟩, ran, rfl⟩ := Option.map_eq_some_iff.mp taken
  have ran := toOption_eq_some_iff.mp ran
  rcases gpsLoop_cases ran with ⟨same, none⟩ | ⟨active, sight⟩
  · subst same none
    exact ⟨inv.holds, by simpa using inv.clean, by simpa using inv.received_eq⟩
  · have terminated := inPlace sight
    have nulFree : 0 ∉ s.gps.content := fun mem =>
      limits.nul_free (inv.received_eq ▸ List.mem_append_right _ mem)
    -- with the NUL in place the text in sight is the content
    have seen : newline ∈ s.gps.content := by
      obtain ⟨back, split⟩ := inv.holds.split terminated
      have text : CString.ofBytes s.gps.gpsBuf = ⟨s.gps.content, nulFree⟩ := by
        rw [split]
        exact CString.ofBytes_append_nul ⟨s.gps.content, nulFree⟩ back
      unfold LineInSight at sight
      rw [text] at sight
      exact sight
    obtain ⟨line, rest, cut, clean⟩ := List.eq_append_cons_of_mem seen
    have holds := inv.holds
    rw [cut] at holds nulFree
    obtain ⟨g', lineBuf, consumed, holds', hline, -, -⟩ :=
      gpsLoop_consumes holds terminated active nulFree clean
    cases consumed.symm.trans ran
    have lineFree : 0 ∉ line := fun mem => nulFree (List.mem_append_left _ mem)
    have short : line.length < gpsLineBufSize := by
      refine limits.line_lt line ?_
      rw [inv.framedExactly, cut, completeLines_append_line clean]
      exact List.mem_append_right _ List.mem_cons_self
    have whole : CString.ofBytes lineBuf = ⟨line, lineFree⟩ := by
      rw [hline]
      exact ofBytes_lineBuf lineFree short
    have left := content_eq holds'
    refine ⟨?_, ?_, ?_⟩
    · show Holds g g.content
      rw [left]
      exact holds'
    · intro text mem
      rcases List.mem_append.mp mem with old | new
      · exact inv.clean text old
      · rw [Option.map_some, Option.toList_some, List.mem_singleton, whole] at new
        rw [new]
        exact clean
    · show s.received = _ ++ g.content
      rw [left, inv.received_eq, cut]
      simp [whole]

/-- **The step lemma.** -/
theorem FramingInv.gpsStep {e : GpsEvent} (inv : FramingInv s) (limits : WithinLimits s)
    (inPlace : TerminatorInPlace s e) (taken : Gps.gpsStep s e = some t) : FramingInv t := by
  cases e with
  | rx chunks => exact inv.rx limits.fitsBuffers taken
  | loop => exact inv.loop limits.fitsBuffers inPlace taken

end Steps

/-- **Framing is exact throughout every run within the limits in which the loop
finds the NUL in place whenever it sees a newline.** -/
theorem framedExactly_throughout {ready gpsDev : Bool} {es : List GpsEvent}
    (limits : Throughout gpsStep WithinLimits (GpsTrace.boot ready gpsDev) es)
    (inPlace : StepsMeet gpsStep TerminatorInPlace (GpsTrace.boot ready gpsDev) es) :
    Throughout gpsStep FramedExactly (GpsTrace.boot ready gpsDev) es :=
  throughout_of_stepsMeet (I := FramingInv) (fun inv => inv.framedExactly)
    (fun inv here cond taken _ => inv.gpsStep here cond taken)
    (framingInv_boot ready gpsDev) limits inPlace

/-! ### One line, and two lines at once -/

instance decidableFramedExactly (s : GpsTrace) : Decidable (FramedExactly s) :=
  inferInstanceAs (Decidable (completeLines s.received =
    s.lines.map CString.bytes ++ completeLines s.gps.content))

instance decidableWithinLimits (s : GpsTrace) : Decidable (WithinLimits s) :=
  decidable_of_iff (0 ∉ s.received ∧
      (∀ line ∈ completeLines s.received, line.length + 1 < gpsLineBufSize) ∧
      s.gps.gpsBufLen < gpsBufSize - 5)
    ⟨fun h => ⟨h.1, h.2.1, h.2.2⟩, fun h => ⟨h.nul_free, h.line_lt, h.waiting_lt⟩⟩

instance decidableTerminatorInPlace (s : GpsTrace) : (e : GpsEvent) →
    Decidable (TerminatorInPlace s e)
  | .rx _ => isTrue trivial
  | .loop => inferInstanceAs (Decidable (LineInSight s.gps → Terminated s.gps))

/-- A line that arrives in two pieces, and the next one once it has been taken out. -/
def oneLine : List GpsEvent :=
  [.rx [[97]], .loop, .rx [[98], [newline]], .loop, .rx [[99, newline]], .loop]

theorem oneLine_framedExactly :
    Throughout gpsStep FramedExactly (GpsTrace.boot true true) oneLine :=
  framedExactly_throughout (by decide +kernel) (by decide +kernel)

/-- Two lines that arrive together, and a loop that runs three times before
anything else arrives. -/
def twoLines : List GpsEvent := [.rx [[97, newline, 98, newline]], .loop, .loop, .loop]

/-- The second line is handed over again and again. -/
theorem twoLines_not_framedExactly :
    Throughout gpsStep WithinLimits (GpsTrace.boot true true) twoLines ∧
      (run gpsStep (GpsTrace.boot true true) twoLines).map (fun t => t.lines.map CString.bytes) =
        some [[97], [98], [98]] ∧
      ¬ Throughout gpsStep FramedExactly (GpsTrace.boot true true) twoLines := by
  refine ⟨?_, ?_, ?_⟩
  · decide +kernel
  · decide +kernel
  · decide +kernel

end Ztacx.Gps
