import Ztacx.Gps.Framing

/-!
# The bounds of the receive buffer

`gps_rx_isr` and `gps_loop` in any order, with a UART that answers in any way it
may (`UartFifo`).  `Framing` asks whether the lines come out right; here the
question is whether the two stay inside the buffer, and they do whatever comes in
(`gpsCalls_inBounds`).

What makes it so is the last byte of the buffer: it is a NUL to begin with, and
no operation writes anything else there (`Bounded`).  So the loop finds an end
even when the NUL behind the content is gone.  The rounds of an interrupt come to
an end because each of them but the last makes the room for the next one smaller.
-/

namespace Ztacx.Gps

open CModel

/-- What `uart_fifo_read` puts into the buffer in its `i`-th call, when it is asked
for `size` bytes: not more than that. -/
structure UartFifo where
  read : (i size : ℕ) → List UInt8
  length_read_le : ∀ i size, (read i size).length ≤ size

/-- A UART that has its bytes in pieces, and gives up as much of a piece as is asked for. -/
def UartFifo.ofChunks (chunks : List (List UInt8)) : UartFifo where
  read i size := (chunks.getD i []).take size
  length_read_le _ _ := List.length_take_le ..

/-- The loop of `gps_rx_isr`, from the `i`-th call of `uart_fifo_read` on.  It ends
with the first call that returns 0. -/
def gpsRxPoll (fifo : UartFifo) : (fuel i : ℕ) → GpsState → Except Fault GpsState
  | 0, _, _ => .error .diverged
  | fuel + 1, i, s =>
    -- the number of bytes asked for is unsigned
    if s.gpsBufLen + 1 ≤ gpsBufSize then
      let chunk := fifo.read i (gpsBufSize - s.gpsBufLen - 1)
      (gpsRxRead s chunk).bind fun s =>
        if chunk = [] then .ok s else gpsRxPoll fifo fuel (i + 1) s
    else .error .outOfBounds

/-- `gps_rx_isr`. -/
def gpsRxInterrupt (s : GpsState) (fifo : UartFifo) : Except Fault GpsState :=
  gpsRxPoll fifo gpsBufSize 0 (gpsRxReset s)

/-- A call of one of the two. -/
inductive GpsCall
  | rxIsr (fifo : UartFifo)
  | loop

def gpsCallStep (s : GpsState) : GpsCall → Option GpsState
  | .rxIsr fifo => (gpsRxInterrupt s fifo).toOption
  | .loop => (gpsLoop s).toOption.map Prod.fst

/-- **Inside the buffer.** -/
structure InBounds (s : GpsState) : Prop where
  length_eq : s.gpsBuf.length = gpsBufSize
  len_le : s.gpsBufLen ≤ 511
  nul_mem : 0 ∈ s.gpsBuf

/-! ## The invariant -/

/-- **The invariant of the bounds**: the last byte of the buffer is a NUL. -/
structure Bounded (s : GpsState) : Prop where
  length_eq : s.gpsBuf.length = gpsBufSize
  last_eq : s.gpsBuf[gpsBufSize - 1]? = some 0
  len_le : s.gpsBufLen ≤ gpsBufSize - 1

section Invariant

variable {s t : GpsState}

theorem Bounded.inBounds (bounded : Bounded s) : InBounds s where
  length_eq := bounded.length_eq
  len_le := bounded.len_le
  nul_mem := List.mem_of_getElem? bounded.last_eq

theorem bounded_boot (ready gpsDev : Bool) : Bounded (GpsState.boot ready gpsDev) where
  length_eq := List.length_replicate
  last_eq := (holds_boot ready gpsDev).last_eq
  len_le := Nat.zero_le _

/-- A bounded buffer holds what its length says. -/
theorem Bounded.holds (bounded : Bounded s) : Holds s s.content where
  length_eq := bounded.length_eq
  last_eq := bounded.last_eq
  len_eq := by
    have room := bounded.len_le
    rw [GpsState.content, List.length_take, bounded.length_eq]
    omega
  content_prefix := List.take_prefix _ _

theorem Bounded.of_holds {content : List UInt8} (holds : Holds s content)
    (room : content.length ≤ gpsBufSize - 1) : Bounded s where
  length_eq := holds.length_eq
  last_eq := holds.last_eq
  len_le := holds.len_eq ▸ room

/-! ## The interrupt -/

theorem Bounded.reset (bounded : Bounded s) : Bounded (gpsRxReset s) := by
  unfold gpsRxReset
  split
  · refine ⟨?_, ?_, Nat.zero_le _⟩
    · rw [List.length_set]
      exact bounded.length_eq
    · show (s.gpsBuf.set 0 0)[gpsBufSize - 1]? = some 0
      rw [List.getElem?_set_ne (by decide)]
      exact bounded.last_eq
  · exact bounded

/-- One read keeps the bounds, and moves the length by what it has read. -/
theorem Bounded.read (bounded : Bounded s) {chunk : List UInt8}
    (room : s.gpsBufLen + chunk.length ≤ gpsBufSize - 1) :
    ∃ t, gpsRxRead s chunk = .ok t ∧ Bounded t ∧ t.gpsBufLen = s.gpsBufLen + chunk.length := by
  have holds := bounded.holds
  rw [holds.len_eq] at room
  obtain ⟨t, ran, after, -⟩ := gpsRxRead_appends holds room
  have length : (s.content ++ chunk).length = s.content.length + chunk.length :=
    List.length_append
  refine ⟨t, ran, .of_holds after (by omega), ?_⟩
  rw [after.len_eq, holds.len_eq, length]

/-- **The rounds of an interrupt come to an end**: each that reads something leaves
less room for the next. -/
theorem gpsRxPoll_ends (fifo : UartFifo) (bounded : Bounded s) (fuel i : ℕ)
    (enough : gpsBufSize ≤ s.gpsBufLen + fuel) :
    ∃ t, gpsRxPoll fifo fuel i s = .ok t ∧ Bounded t := by
  have below := bounded.len_le
  have some : 0 < gpsBufSize := by decide
  induction fuel generalizing s i with
  | zero => omega
  | succ fuel ih =>
      have fits := fifo.length_read_le i (gpsBufSize - s.gpsBufLen - 1)
      have room : s.gpsBufLen + (fifo.read i (gpsBufSize - s.gpsBufLen - 1)).length ≤
          gpsBufSize - 1 := by omega
      obtain ⟨t, ran, after, moved⟩ := bounded.read room
      rw [gpsRxPoll, if_pos (by omega)]
      dsimp only
      rw [ran]
      by_cases more : fifo.read i (gpsBufSize - s.gpsBufLen - 1) = []
      · exact ⟨t, if_pos more, after⟩
      · have progress := List.length_pos_of_ne_nil more
        obtain ⟨u, rest, final⟩ := ih after (i + 1) (by omega) after.len_le
        exact ⟨u, (if_neg more).trans rest, final⟩

/-- **An interrupt keeps the bounds.** -/
theorem Bounded.interrupt (bounded : Bounded s) (fifo : UartFifo) :
    ∃ t, gpsRxInterrupt s fifo = .ok t ∧ Bounded t :=
  gpsRxPoll_ends fifo bounded.reset gpsBufSize 0 (Nat.le_add_left _ _)

/-! ## The loop -/

/-- **A call of the loop keeps the bounds.** -/
theorem Bounded.loop (bounded : Bounded s) : ∃ r, gpsLoop s = .ok r ∧ Bounded r.1 := by
  have length := bounded.length_eq
  unfold gpsLoop
  split
  · exact ⟨_, rfl, bounded⟩
  · rw [readCString, if_pos bounded.inBounds.nul_mem]
    dsimp only [Except.bind]
    cases found : (CString.ofBytes s.gpsBuf).bytes.idxOf? newline with
    | none => exact ⟨_, rfl, bounded⟩
    | some nlpos =>
        dsimp only
        -- the newline is in front of the last byte, which is not one
        have early : nlpos < gpsBufSize - 1 := by
          have here := CString.getElem?_of_idxOf? found
          obtain ⟨inside, -⟩ := List.getElem?_eq_some_iff.mp here
          have other : nlpos ≠ gpsBufSize - 1 := by
            rintro rfl
            rw [bounded.last_eq] at here
            cases here
          omega
        have last : (s.gpsBuf.set nlpos 0)[gpsBufSize - 1]? = some 0 := by
          rw [List.getElem?_set_ne (by omega)]
          exact bounded.last_eq
        have behind : 0 ∈ (s.gpsBuf.set nlpos 0).drop (nlpos + 1) := by
          refine List.mem_of_getElem? (i := gpsBufSize - 1 - (nlpos + 1)) ?_
          rw [List.getElem?_drop, Nat.add_sub_cancel' (by omega), last]
        rw [readCString, if_pos behind]
        dsimp only
        -- what is moved to the front is shorter than what is left behind the newline
        have short := CString.strlen_ofBytes_lt behind
        rw [List.length_drop, List.length_set, length] at short
        have shorter : (CString.ofBytes ((s.gpsBuf.set nlpos 0).drop (nlpos + 1))).bytes.length ≤
            gpsBufSize - 1 := (show _ < _ from short).le.trans (by omega)
        have fits : 0 + (CString.ofBytes ((s.gpsBuf.set nlpos 0).drop (nlpos + 1))).bytes.length ≤
            (s.gpsBuf.set nlpos 0).length := by
          rw [List.length_set, length]
          omega
        rw [memcpyInto_of_le fits]
        refine ⟨_, rfl, ?_, ?_, ?_⟩
        · exact (length_splice fits).trans ((List.length_set ..).trans length)
        · exact (getElem?_splice_zero shorter).trans last
        · exact shorter

end Invariant

/-- **The buffer is never left**, in any order of the two and with anything that
the UART may answer: every call comes to an end, and goes on from a state inside
the bounds. -/
theorem gpsCalls_inBounds (ready gpsDev : Bool) (calls : List GpsCall) :
    (∃ t, run gpsCallStep (GpsState.boot ready gpsDev) calls = some t) ∧
      Throughout gpsCallStep InBounds (GpsState.boot ready gpsDev) calls := by
  have moves : ∀ {s : GpsState} {call : GpsCall}, Bounded s → True →
      ∃ t, gpsCallStep s call = some t ∧ (True → Bounded t) := by
    intro s call bounded _
    cases call with
    | rxIsr fifo =>
        obtain ⟨t, ran, after⟩ := bounded.interrupt fifo
        exact ⟨t, toOption_eq_some_iff.mpr ran, fun _ => after⟩
    | loop =>
        obtain ⟨r, ran, after⟩ := bounded.loop
        refine ⟨r.1, ?_, fun _ => after⟩
        show (gpsLoop s).toOption.map Prod.fst = some r.1
        rw [toOption_eq_some_iff.mpr ran]
        rfl
  obtain ⟨reached, all⟩ := progress_throughout (C := fun _ _ => True) (D := fun _ => True) moves
    (bounded_boot ready gpsDev) (fun _ _ => trivial)
    (stepsMeet_of_forall gpsCallStep (fun _ _ => trivial) _ calls)
  exact ⟨reached, all.mono fun bounded => bounded.inBounds⟩

-- three bytes in two pieces
example : (gpsRxInterrupt (GpsState.boot true true) (.ofChunks [[36, 71], [80]])).map
    GpsState.content = .ok [36, 71, 80] := by decide +kernel

end Ztacx.Gps
