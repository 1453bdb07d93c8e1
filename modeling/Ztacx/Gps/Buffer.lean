import Ztacx.CModel.Lines
import Ztacx.CModel.Memory

/-!
# The receive buffer of the GPS

`gps_rx_isr` and `gps_loop` of `src/ztacx_gps.c`, which share the buffer
`gps_buf`: the interrupt handler appends what the UART has received, the loop
takes out one line at a time.

The two see the buffer differently.  The interrupt handler goes by `gps_buf_len`
and puts a NUL behind what it wrote; the loop goes by the NUL, through `strchr`
and `strlen`.  `Holds` is the common view: the first `gps_buf_len` bytes are the
bytes received and not consumed.  `Terminated` says that the NUL is where the
interrupt handler put it, and that is what the loop depends on:
`gpsLoop_consumes` needs it, `gpsRxIsr_receives` provides it, and the loop
itself loses it, because its `memmove` leaves the NUL behind.
-/

namespace Ztacx.Gps

open CModel

/-- `sizeof(gps_buf)`. -/
def gpsBufSize : ℕ := 512

/-- `sizeof(gps_line_buf)`. -/
def gpsLineBufSize : ℕ := 100

/-- The globals of the receiver; `gpsDev` says whether the UART is bound. -/
structure GpsState where
  gpsBuf : List UInt8
  gpsBufLen : ℕ
  ready : Bool
  gpsDev : Bool
deriving DecidableEq, Repr

/-- The receiver before anything has been received. -/
def GpsState.boot (ready gpsDev : Bool) : GpsState where
  gpsBuf := List.replicate gpsBufSize 0
  gpsBufLen := 0
  ready := ready
  gpsDev := gpsDev

/-! ## The interrupt handler -/

/-- A buffer that is almost full is given up. -/
def gpsRxReset (s : GpsState) : GpsState :=
  if gpsBufSize - 5 ≤ s.gpsBufLen then { s with gpsBufLen := 0, gpsBuf := s.gpsBuf.set 0 0 } else s

/-- One round of the loop: `uart_fifo_read` has put `chunk` at the end. -/
def gpsRxRead (s : GpsState) (chunk : List UInt8) : Except Fault GpsState :=
  (memcpyInto s.gpsBuf s.gpsBufLen chunk).bind fun buf =>
    let len := s.gpsBufLen + chunk.length
    (memcpyInto buf len [0]).map fun buf => { s with gpsBuf := buf, gpsBufLen := len }

/-- The rounds of the loop; the last `uart_fifo_read` returns 0. -/
def gpsRxReads (s : GpsState) : List (List UInt8) → Except Fault GpsState
  | [] => gpsRxRead s []
  | chunk :: chunks => (gpsRxRead s chunk).bind fun s => gpsRxReads s chunks

/-- `gps_rx_isr`, from the results of `uart_fifo_read` that are not empty. -/
def gpsRxIsr (s : GpsState) (chunks : List (List UInt8)) : Except Fault GpsState :=
  gpsRxReads (gpsRxReset s) chunks

/-- Results that `uart_fifo_read` can have: not more than what is asked for. -/
def ReadsFit : ℕ → List (List UInt8) → Prop
  | _, [] => True
  | len, chunk :: chunks =>
    chunk ≠ [] ∧ chunk.length ≤ gpsBufSize - len - 1 ∧ ReadsFit (len + chunk.length) chunks

instance decidableReadsFit : (len : ℕ) → (chunks : List (List UInt8)) →
    Decidable (ReadsFit len chunks)
  | _, [] => isTrue trivial
  | len, chunk :: chunks =>
    have := decidableReadsFit (len + chunk.length) chunks
    inferInstanceAs (Decidable (chunk ≠ [] ∧ chunk.length ≤ gpsBufSize - len - 1 ∧
      ReadsFit (len + chunk.length) chunks))

/-! ## The loop -/

/-- `gps_loop`: the state after it, what it hands to `gps_line` and what it
returns. -/
def gpsLoop (s : GpsState) : Except Fault (GpsState × Option (List UInt8) × ℤ) :=
  if !s.ready || !s.gpsDev then .ok (s, none, -1)
  else
    (readCString s.gpsBuf).bind fun text =>
      match text.bytes.idxOf? newline with
      | none => .ok (s, none, 0)
      | some nlpos =>
        let buf := s.gpsBuf.set nlpos 0
        -- `strncpy` of the line, padded with NUL to the size of the line buffer
        let line := text.bytes.take nlpos
        let gpsLineBuf := line.take gpsLineBufSize ++
          List.replicate (gpsLineBufSize - line.length) 0
        (readCString (buf.drop (nlpos + 1))).bind fun rest =>
          -- `memmove` of `strlen(nlpos)` bytes: the terminator stays where it was
          (memcpyInto buf 0 rest.bytes).map fun buf =>
            ({ s with gpsBuf := buf, gpsBufLen := rest.strlen }, some gpsLineBuf, 1)

/-! ## What the buffer holds -/

/-- **The buffer holds the bytes `content`**, as `gps_buf_len` tells, and its
last byte has never been written. -/
structure Holds (s : GpsState) (content : List UInt8) : Prop where
  length_eq : s.gpsBuf.length = gpsBufSize
  last_eq : s.gpsBuf[gpsBufSize - 1]? = some 0
  len_eq : s.gpsBufLen = content.length
  content_prefix : content <+: s.gpsBuf

/-- The NUL stands behind the content. -/
def Terminated (s : GpsState) : Prop := s.gpsBuf[s.gpsBufLen]? = some 0

instance decidableTerminated (s : GpsState) : Decidable (Terminated s) :=
  inferInstanceAs (Decidable (s.gpsBuf[s.gpsBufLen]? = some 0))

/-- `strchr` finds a newline in the buffer. -/
def LineInSight (s : GpsState) : Prop := newline ∈ (CString.ofBytes s.gpsBuf).bytes

instance decidableLineInSight (s : GpsState) : Decidable (LineInSight s) :=
  inferInstanceAs (Decidable (newline ∈ (CString.ofBytes s.gpsBuf).bytes))

theorem holds_boot (ready gpsDev : Bool) : Holds (GpsState.boot ready gpsDev) [] where
  length_eq := List.length_replicate
  last_eq := by rw [GpsState.boot, List.getElem?_replicate]; rfl
  len_eq := rfl
  content_prefix := List.nil_prefix

section Receive

variable {s : GpsState} {content : List UInt8}

/-- A buffer in which the NUL is in place, spelled out. -/
theorem Holds.split (holds : Holds s content) (terminated : Terminated s) :
    ∃ rest, s.gpsBuf = content ++ 0 :: rest := by
  obtain ⟨back, split⟩ := holds.content_prefix
  unfold Terminated at terminated
  rw [holds.len_eq, ← split, List.getElem?_append_right le_rfl, Nat.sub_self] at terminated
  cases back with
  | nil => cases terminated
  | cons b back =>
      cases terminated
      exact ⟨back, split.symm⟩

/-- One read appends the chunk and puts a NUL behind it. -/
theorem gpsRxRead_appends (holds : Holds s content) {chunk : List UInt8}
    (room : content.length + chunk.length ≤ gpsBufSize - 1) :
    ∃ s', gpsRxRead s chunk = .ok s' ∧ Holds s' (content ++ chunk) ∧ Terminated s' ∧
      s'.ready = s.ready ∧ s'.gpsDev = s.gpsDev := by
  obtain ⟨back, split⟩ := holds.content_prefix
  have size : content.length + back.length = gpsBufSize := by
    rw [← holds.length_eq, ← split, List.length_append]
  have big : (1 : ℕ) ≤ gpsBufSize := by decide
  -- the chunk goes behind the content, and the NUL behind the chunk
  have copied : memcpyInto s.gpsBuf s.gpsBufLen chunk =
      .ok (content ++ (chunk ++ back.drop chunk.length)) := by
    rw [holds.len_eq, ← split, memcpyInto_of_le (by rw [List.length_append]; omega),
      splice_append_left]
  have ended : memcpyInto (content ++ (chunk ++ back.drop chunk.length))
      (s.gpsBufLen + chunk.length) [0] =
      .ok ((content ++ chunk) ++ (0 :: back.drop (chunk.length + 1))) := by
    have fits : (content ++ chunk).length + [(0 : UInt8)].length ≤
        (content ++ chunk ++ back.drop chunk.length).length := by
      simp only [List.length_append, List.length_drop, List.length_singleton]
      omega
    rw [holds.len_eq, ← List.append_assoc, ← List.length_append, memcpyInto_of_le fits,
      splice_append_left, List.drop_drop]
    rfl
  refine ⟨{ s with
      gpsBuf := (content ++ chunk) ++ (0 :: back.drop (chunk.length + 1))
      gpsBufLen := s.gpsBufLen + chunk.length }, ?_, ?_, ?_, rfl, rfl⟩
  · unfold gpsRxRead
    rw [copied]
    show (memcpyInto (content ++ (chunk ++ back.drop chunk.length))
      (s.gpsBufLen + chunk.length) [0]).map _ = _
    rw [ended]
    rfl
  · refine ⟨?_, ?_, ?_, List.prefix_append _ _⟩
    · simp only [List.length_append, List.length_cons, List.length_drop]
      omega
    · have last := holds.last_eq
      rw [← split, List.getElem?_append_right (by omega)] at last
      rw [List.getElem?_append_right (by rw [List.length_append]; omega), List.length_append]
      by_cases full : content.length + chunk.length = gpsBufSize - 1
      · rw [full, Nat.sub_self]
        rfl
      · -- the last byte is behind the new NUL, where it was before
        have behind : gpsBufSize - 1 - (content.length + chunk.length) =
            (gpsBufSize - 2 - (content.length + chunk.length)) + 1 := by omega
        rw [behind, List.getElem?_cons_succ, List.getElem?_drop, ← last]
        congr 1
        omega
    · rw [holds.len_eq, List.length_append]
  · show ((content ++ chunk) ++
      (0 :: back.drop (chunk.length + 1)))[s.gpsBufLen + chunk.length]? = _
    rw [holds.len_eq, ← List.length_append, List.getElem?_append_right le_rfl, Nat.sub_self]
    rfl

/-- The rounds of one interrupt append all its chunks. -/
theorem gpsRxReads_appends (holds : Holds s content) {chunks : List (List UInt8)}
    (fits : ReadsFit content.length chunks) (short : content.length ≤ gpsBufSize - 1) :
    ∃ s', gpsRxReads s chunks = .ok s' ∧ Holds s' (content ++ chunks.flatten) ∧ Terminated s' ∧
      s'.ready = s.ready ∧ s'.gpsDev = s.gpsDev := by
  induction chunks generalizing s content with
  | nil =>
      rw [List.flatten_nil]
      exact gpsRxRead_appends holds (by simpa using short)
  | cons chunk chunks ih =>
      obtain ⟨-, room, fits'⟩ := fits
      have enough : content.length + chunk.length ≤ gpsBufSize - 1 := by omega
      obtain ⟨u, first, holds', -, ready, dev⟩ := gpsRxRead_appends holds enough
      rw [← List.length_append] at fits' enough
      obtain ⟨t, rest, holds'', terminated, ready', dev'⟩ := ih holds' fits' enough
      refine ⟨t, ?_, ?_, terminated, ready'.trans ready, dev'.trans dev⟩
      · unfold gpsRxReads
        rw [first]
        exact rest
      · rw [List.flatten_cons, ← List.append_assoc]
        exact holds''

/-- **`gps_rx_isr` receives**: what the UART hands over is behind what was there,
and the NUL is in place. -/
theorem gpsRxIsr_receives (holds : Holds s content) {chunks : List (List UInt8)}
    (room : content.length < gpsBufSize - 5) (fits : ReadsFit content.length chunks) :
    ∃ s', gpsRxIsr s chunks = .ok s' ∧ Holds s' (content ++ chunks.flatten) ∧ Terminated s' ∧
      s'.ready = s.ready ∧ s'.gpsDev = s.gpsDev := by
  have keeps : gpsRxReset s = s := by
    unfold gpsRxReset
    rw [if_neg (by rw [holds.len_eq]; omega)]
  unfold gpsRxIsr
  rw [keeps]
  exact gpsRxReads_appends holds fits (by omega)

/-! ## Consuming a line -/

/-- The text the loop sees when the NUL is in place. -/
theorem readCString_content {rest : List UInt8} (nulFree : 0 ∉ content) :
    readCString (content ++ 0 :: rest) = .ok ⟨content, nulFree⟩ := by
  rw [readCString, if_pos (by simp)]
  exact congrArg Except.ok (CString.ofBytes_append_nul ⟨content, nulFree⟩ rest)

/-- The line buffer after `strncpy` of a line that leaves room for the NUL. -/
theorem ofBytes_lineBuf {line : List UInt8} (nulFree : 0 ∉ line)
    (short : line.length < gpsLineBufSize) :
    CString.ofBytes (line.take gpsLineBufSize ++
      List.replicate (gpsLineBufSize - line.length) 0) = ⟨line, nulFree⟩ := by
  obtain ⟨k, hk⟩ : ∃ k, gpsLineBufSize - line.length = k + 1 :=
    ⟨gpsLineBufSize - line.length - 1, by omega⟩
  rw [List.take_of_length_le (by omega), hk, List.replicate_succ]
  exact CString.ofBytes_append_nul ⟨line, nulFree⟩ _

/-- The loop does nothing, or it has seen a newline. -/
theorem gpsLoop_cases {s' : GpsState} {line : Option (List UInt8)} {rc : ℤ}
    (ran : gpsLoop s = .ok (s', line, rc)) :
    (s' = s ∧ line = none) ∨ ((!s.ready || !s.gpsDev) = false ∧ LineInSight s) := by
  unfold gpsLoop at ran
  cases active : !s.ready || !s.gpsDev with
  | true =>
      rw [active] at ran
      cases ran
      exact .inl ⟨rfl, rfl⟩
  | false =>
      rw [active] at ran
      obtain ⟨text, read, ran⟩ := bind_eq_ok_iff.mp ran
      cases found : text.bytes.idxOf? newline with
      | none =>
          rw [found] at ran
          cases ran
          exact .inl ⟨rfl, rfl⟩
      | some nlpos =>
          refine .inr ⟨rfl, ?_⟩
          have same : text = CString.ofBytes s.gpsBuf := by
            unfold readCString at read
            split at read
            · cases read
              rfl
            · cases read
          unfold LineInSight
          rw [← same]
          by_contra absent
          rw [List.idxOf?_eq_none_iff.mpr absent] at found
          cases found

/-- What `gps_loop` does when the NUL is in place: the newline becomes a NUL, and what follows
it moves to the front. -/
theorem gpsLoop_moves {line rest : List UInt8} (holds : Holds s (line ++ newline :: rest))
    (terminated : Terminated s) (active : (!s.ready || !s.gpsDev) = false)
    (nulFree : 0 ∉ line ++ newline :: rest) (clean : newline ∉ line) :
    ∃ back, s.gpsBuf = (line ++ newline :: rest) ++ 0 :: back ∧
      gpsLoop s = .ok
        ({ s with
            gpsBuf := rest ++ (line ++ 0 :: (rest ++ 0 :: back)).drop rest.length
            gpsBufLen := rest.length },
          some (line.take gpsLineBufSize ++ List.replicate (gpsLineBufSize - line.length) 0),
          1) := by
  obtain ⟨back, split⟩ := holds.split terminated
  have restFree : 0 ∉ rest := fun mem =>
    nulFree (List.mem_append_right _ (List.mem_cons_of_mem _ mem))
  have found := idxOf?_append_cons clean rest
  have taken : (line ++ newline :: rest).take line.length = line := List.take_left
  have cut : s.gpsBuf.set line.length 0 = line ++ 0 :: (rest ++ 0 :: back) := by
    rw [split, List.append_assoc, List.set_append_right _ _ le_rfl, Nat.sub_self]
    rfl
  have behind : (line ++ 0 :: (rest ++ 0 :: back)).drop (line.length + 1) = rest ++ 0 :: back := by
    rw [List.drop_append, List.drop_eq_nil_of_le (by omega)]
    simp
  have moved : memcpyInto (line ++ 0 :: (rest ++ 0 :: back)) 0 rest =
      .ok (rest ++ (line ++ 0 :: (rest ++ 0 :: back)).drop rest.length) := by
    rw [memcpyInto_of_le (by simp only [List.length_append, List.length_cons]; omega), splice_zero]
  refine ⟨back, split, ?_⟩
  unfold gpsLoop
  rw [active, split, readCString_content nulFree]
  show (match (line ++ newline :: rest).idxOf? newline with | none => _ | some nlpos => _) = _
  rw [found]
  dsimp only
  rw [← split, cut, behind, readCString_content restFree, taken]
  show (memcpyInto (line ++ 0 :: (rest ++ 0 :: back)) 0 rest).map _ = _
  rw [moved]
  rfl

/-- **`gps_loop` consumes one line** when the NUL is in place: the line goes to
`gps_line`, and the buffer holds what follows it. -/
theorem gpsLoop_consumes {line rest : List UInt8} (holds : Holds s (line ++ newline :: rest))
    (terminated : Terminated s) (active : (!s.ready || !s.gpsDev) = false)
    (nulFree : 0 ∉ line ++ newline :: rest) (clean : newline ∉ line) :
    ∃ s' gpsLineBuf, gpsLoop s = .ok (s', some gpsLineBuf, 1) ∧ Holds s' rest ∧
      gpsLineBuf = line.take gpsLineBufSize ++
        List.replicate (gpsLineBufSize - line.length) 0 ∧
      s'.ready = s.ready ∧ s'.gpsDev = s.gpsDev := by
  obtain ⟨back, split, moves⟩ := gpsLoop_moves holds terminated active nulFree clean
  have size : line.length + (rest.length + (back.length + 2)) = gpsBufSize := by
    have total := holds.length_eq
    rw [split] at total
    simp only [List.length_append, List.length_cons] at total
    omega
  refine ⟨_, _, moves, ?_, rfl, rfl, rfl⟩
  refine ⟨?_, ?_, rfl, List.prefix_append _ _⟩
  · simp only [List.length_append, List.length_drop, List.length_cons]
    omega
  · -- the last byte lies behind everything that was written
    have last := holds.last_eq
    have front : (line ++ newline :: rest).length = (line ++ 0 :: rest).length := by simp
    have before : (line ++ newline :: rest).length ≤ gpsBufSize - 1 := by
      simp only [List.length_append, List.length_cons]
      omega
    rw [split, List.getElem?_append_right before, front] at last
    rw [List.getElem?_append_right (by omega), List.getElem?_drop,
      Nat.add_sub_cancel' (by omega), ← last,
      show line ++ 0 :: (rest ++ 0 :: back) = (line ++ 0 :: rest) ++ 0 :: back by simp]
    exact List.getElem?_append_right (front ▸ before)

end Receive

end Ztacx.Gps
