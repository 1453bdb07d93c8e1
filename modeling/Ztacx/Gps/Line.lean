import Ztacx.Gps.Buffer
import Ztacx.Gps.Location

/-!
# A line of the GPS

`gps_line` of `src/ztacx_gps.c`, which tells the sentences apart, and what it
takes for the processing of a line to stay inside the buffers.

`gps_loop` copies the line with `strncpy` into a buffer of 100 bytes.  A line of
100 bytes or more leaves no room for the terminator, and then everything that
looks for the end of the text reads past the buffer, unless the sentence is not
looked at, or given up before.  With a terminator in place two things can go
wrong: the length of a word is computed from the position of the point
(`UsablePoint`), and the time of a ZDA sentence is read from a field that may be
too short (`SafeDate`).  `SafeLineBuf` puts this together, and
`lineProcessedSafely_iff` says that it is exact.
-/

namespace Ztacx.Gps

open CModel

/-- The sentences that are known and not looked at. -/
def ignoredSentences : List CString :=
  [.ofString "$GPGGA", .ofString "$GPRMC", .ofString "$GPVTG", .ofString "$GPGSA",
   .ofString "$GPGSV"]

def gllSentence : CString := .ofString "$GPGLL"

def zdaSentence : CString := .ofString "$GPGZDA"

/-- `gps_line`.  The text of a `$GPTXT` and of any other sentence is printed, and
`gps_date_line` prints its argument before anything else. -/
def gpsLine (lib : LibraryChoices) (s : GpsFix) (buf : List UInt8) :
    Except Fault (GpsFix × ℤ) :=
  (strchrOffset buf comma).bind fun found =>
    match found with
    | none => .ok (s, -1)
    | some i =>
      let name := CString.ofBytes (buf.take i)
      let sentence := buf.drop (i + 1)
      if name = gllSentence then gpsLocationLine lib s sentence
      else if name ∈ ignoredSentences then .ok (s, 0)
      else if name = zdaSentence then
        (readCString sentence).bind fun _ => gpsDateLine lib s sentence
      else (readCString sentence).map fun _ => (s, 0)

/-- The line buffer of `gps_loop` after `strncpy`. -/
def gpsLineBuf (line : CString) : List UInt8 :=
  line.bytes.take gpsLineBufSize ++ List.replicate (gpsLineBufSize - line.strlen) 0

/-- **A line is processed safely**: whatever the buffer of the receiver contains,
the line in front of its first newline. -/
def LineProcessedSafely (lib : LibraryChoices) (gpsBuf : List UInt8) : Prop :=
  ∀ (line : CString) rest, gpsBuf = line.bytes ++ newline :: rest → newline ∉ line.bytes →
    ∀ s, ∃ r, gpsLine lib s (gpsLineBuf line) = .ok r

/-! ## The condition -/

/-- The coordinates that are reached have a usable point, or none. -/
def CoordinatesUsable (fields : List CString) : Prop :=
  ∀ lat rest, fields = lat :: rest → point ∈ lat.bytes →
    UsablePoint lat ∧ ∀ sign lon more, rest = sign :: lon :: more → point ∈ lon.bytes →
      UsablePoint lon

/-- One of the fields makes `gps_location_line` give the sentence up: a coordinate
without a point, or a time of fewer than six characters. -/
def GivenUp (fields : List CString) : Prop :=
  (∃ lat rest, fields = lat :: rest ∧ point ∉ lat.bytes) ∨
    (∃ lat sign lon rest, fields = lat :: sign :: lon :: rest ∧ point ∉ lon.bytes) ∨
    ∃ lat sign lon lonSign time rest,
      fields = lat :: sign :: lon :: lonSign :: time :: rest ∧ time.strlen < 6

/-- A GLL sentence that is decoded inside its buffer. -/
def SafeLocation (sentence : List UInt8) : Prop :=
  sentence ≠ [] ∧
    if sentence.head? = some comma then
      if sentence.take 4 = [comma, comma, comma, comma] then
        0 ∈ sentence ∨ ∃ time rest,
          (tokens comma (sentence.drop 4)).1.map Token.text = time :: rest ∧ time.strlen < 6
      else ∃ c ∈ sentence, c ≠ comma
    else
      CoordinatesUsable ((tokens comma sentence).1.map Token.text) ∧
        (0 ∈ sentence ∨ GivenUp ((tokens comma sentence).1.map Token.text))

/-- A ZDA sentence that is decoded inside its buffer: its first field, if it has
one, starts five bytes before the end. -/
def SafeDate (sentence : List UInt8) : Prop :=
  0 ∈ sentence ∧ ∀ field ∈ (tokens comma sentence).1.head?, 5 ≤ field.memory.length

/-- A line that is processed inside its buffer. -/
def SafeLineBuf (buf : List UInt8) : Prop :=
  match (CString.ofBytes buf).bytes.idxOf? comma with
  | none => 0 ∈ buf
  | some i =>
    let name := CString.ofBytes (buf.take i)
    let sentence := buf.drop (i + 1)
    if name = gllSentence then SafeLocation sentence
    else if name ∈ ignoredSentences then True
    else if name = zdaSentence then SafeDate sentence
    else 0 ∈ sentence

/-! ## Location sentences -/

section Location

variable {lib : LibraryChoices} {s : GpsFix} {done : Except Fault Unit} {fields : List Token}

/-- From the field of the time on. -/
theorem sentenceFields_time_ok_iff :
    (∃ r, sentenceFields (gpsLocationField lib) s 5 done fields = .ok r) ↔
      done = .ok () ∨ ∃ time rest, fields.map Token.text = time :: rest ∧ time.strlen < 6 := by
  have ended : ∀ s : GpsFix, (∃ r, done.map (fun _ => (s, (0 : ℤ))) = .ok r) ↔ done = .ok () := by
    intro s
    cases done <;> simp [Except.map]
  cases fields with
  | nil =>
      rw [sentenceFields, ended]
      refine (or_iff_left ?_).symm
      rintro ⟨time, rest, same, -⟩
      cases same
  | cons time fields =>
      by_cases short : time.text.strlen < 6
      · have refused : gpsLocationField lib 5 time s = .ok none := if_pos short
        rw [sentenceFields_rejected refused]
        exact iff_of_true ⟨_, rfl⟩ (.inr ⟨time.text, fields.map Token.text, rfl, short⟩)
      · have decoded : gpsLocationField lib 5 time s = .ok (some (timed lib time.text s)) :=
          gpsLocationField_time (not_lt.mp short)
        rw [sentenceFields_cons decoded,
          sentenceFields_of_ignored (gpsLocationField_ignored lib) (by decide), ended]
        refine (or_iff_left ?_).symm
        rintro ⟨_, _, same, short'⟩
        cases same
        exact short short'

/-- The longitude and what follows it. -/
theorem sentenceFields_lon_ok_iff {lon : Token} :
    (∃ r, sentenceFields (gpsLocationField lib) s 3 done (lon :: fields) = .ok r) ↔
      (point ∈ lon.text.bytes → UsablePoint lon.text) ∧
        (done = .ok () ∨ point ∉ lon.text.bytes ∨ ∃ lonSign time rest,
          fields.map Token.text = lonSign :: time :: rest ∧ time.strlen < 6) := by
  rcases gpsLocationField_three_cases lib lon with ⟨absent, refused⟩ | ⟨mem, bad, fault⟩ |
    ⟨usable, v, stored⟩
  · rw [sentenceFields_rejected (refused s)]
    exact iff_of_true ⟨_, rfl⟩ ⟨fun mem => absurd mem absent, .inr (.inl absent)⟩
  · rw [sentenceFields, fault s]
    exact iff_of_false (not_exists_error_eq_ok _) fun both => bad (both.1 mem)
  · rw [sentenceFields_cons (stored s)]
    cases fields with
    | nil =>
        rw [sentenceFields]
        cases done <;> simp [Except.map, usable, usable.mem]
    | cons lonSign fields =>
        obtain ⟨s', signed⟩ := @sentenceFields_sign lib 4 (.inr rfl) done lonSign fields
          { s with lon := v }
        rw [signed, sentenceFields_time_ok_iff]
        simp [usable, usable.mem]

/-- **When the fields of a location can be gone through.** -/
theorem sentenceFields_location_ok_iff :
    (∃ r, sentenceFields (gpsLocationField lib) s 1 done fields = .ok r) ↔
      CoordinatesUsable (fields.map Token.text) ∧
        (done = .ok () ∨ GivenUp (fields.map Token.text)) := by
  cases fields with
  | nil =>
      rw [sentenceFields]
      cases done <;> simp [Except.map, CoordinatesUsable, GivenUp]
  | cons lat fields =>
    rcases gpsLocationField_one_cases lib lat with ⟨absent, refused⟩ | ⟨mem, bad, fault⟩ |
      ⟨usable, v, stored⟩
    · rw [sentenceFields_rejected (refused s)]
      refine iff_of_true ⟨_, rfl⟩ ⟨?_, .inr (.inl ⟨lat.text, _, rfl, absent⟩)⟩
      intro _ _ same mem
      cases same
      exact absurd mem absent
    · rw [sentenceFields, fault s]
      exact iff_of_false (not_exists_error_eq_ok _) fun both =>
        bad (both.1 lat.text _ rfl mem).1
    · rw [sentenceFields_cons (stored s)]
      cases fields with
      | nil =>
          rw [sentenceFields]
          cases done <;> simp [Except.map, CoordinatesUsable, GivenUp, usable, usable.mem]
      | cons sign fields =>
        obtain ⟨s', signed⟩ := @sentenceFields_sign lib 2 (.inl rfl) done sign fields
          { s with lat := v }
        rw [signed]
        cases fields with
        | nil =>
            rw [sentenceFields]
            cases done <;> simp [Except.map, CoordinatesUsable, GivenUp, usable, usable.mem]
        | cons lon fields =>
            rw [sentenceFields_lon_ok_iff]
            simp [CoordinatesUsable, GivenUp, usable, usable.mem]

/-- **When a location sentence is decoded inside its buffer.** -/
theorem gpsLocationLine_ok_iff {sentence : List UInt8} :
    (∃ r, gpsLocationLine lib s sentence = .ok r) ↔ SafeLocation sentence := by
  have ends : ∀ buf, (tokens comma buf).2 = .ok () ↔ 0 ∈ buf := tokensFrom_snd_eq_ok_iff []
  cases sentence with
  | nil => exact iff_of_false (not_exists_error_eq_ok _) fun safe => safe.1 rfl
  | cons c rest =>
      unfold SafeLocation
      rw [and_iff_right (List.cons_ne_nil c rest)]
      by_cases first : c = comma
      · rw [if_pos (show (c :: rest).head? = some comma from congrArg some first)]
        unfold gpsLocationLine
        simp only [if_pos first]
        by_cases four : (c :: rest).take 4 = [comma, comma, comma, comma]
        · have split : c :: rest = [comma, comma, comma, comma] ++ (c :: rest).drop 4 := by
            rw [← four, List.take_append_drop]
          have behind : 0 ∈ c :: rest ↔ 0 ∈ (c :: rest).drop 4 := by
            rw [split, List.mem_append, List.drop_append_of_le_length (le_refl 4)]
            exact or_iff_right (by decide)
          rw [if_pos four, if_pos four, sentenceFields_time_ok_iff, ends, behind]
        · rw [if_neg four, if_neg four]
          by_cases all : (c :: rest).all (· = comma)
          · rw [if_pos all]
            refine iff_of_false (not_exists_error_eq_ok _) ?_
            rintro ⟨d, mem, other⟩
            exact other (by simpa using List.all_eq_true.mp all d mem)
          · rw [if_neg all]
            refine iff_of_true ⟨_, rfl⟩ ?_
            rw [List.all_eq_true] at all
            push Not at all
            simpa using all
      · have other : (c :: rest).head? ≠ some comma := fun same => first (Option.some.inj same)
        rw [if_neg other, gpsLocationLine_of_ne_comma first, sentenceFields_location_ok_iff, ends]

end Location

/-! ## Date sentences -/

section Date

variable {lib : LibraryChoices} {s : GpsFix} {done : Except Fault Unit} {fields : List Token}

/-- The fields behind the time are always decoded. -/
theorem sentenceFields_date_rest {fieldpos : ℕ} (behind : 1 < fieldpos) :
    ∃ s', sentenceFields (gpsDateField lib) s fieldpos done fields =
      done.map fun _ => (s', 0) := by
  induction fields generalizing s fieldpos with
  | nil => exact ⟨s, rfl⟩
  | cons field fields ih =>
      obtain ⟨s', decoded⟩ : ∃ s', gpsDateField lib fieldpos field s = .ok (some s') := by
        unfold gpsDateField
        split
        · omega
        all_goals exact ⟨_, rfl⟩
      rw [sentenceFields_cons decoded]
      exact ih (Nat.lt_succ_of_lt behind)

/-- Two characters can be copied wherever a NUL is ahead. -/
theorem copyWord_two_ok_iff {memory : List UInt8} (ends : memory.getLast? = some 0) (off : ℕ) :
    (∃ word, copyWord 30 (memory.drop off) 2 = .ok word) ↔ off < memory.length := by
  unfold copyWord
  rw [if_pos (by omega)]
  by_cases inside : off < memory.length
  · have nul : 0 ∈ memory.drop off := by
      refine List.mem_of_getLast? ?_
      rw [List.getLast?_drop, if_neg (by omega), ends]
    rw [if_pos (.inr nul)]
    exact iff_of_true ⟨_, rfl⟩ inside
  · rw [List.drop_eq_nil_of_le (by omega), if_neg (by simp)]
    exact iff_of_false (not_exists_error_eq_ok _) inside

/-- **When a date sentence is decoded inside its buffer**, for a buffer that ends
with a NUL. -/
theorem gpsDateLine_ok_iff {sentence : List UInt8} (ends : sentence.getLast? = some 0) :
    (∃ r, gpsDateLine lib s sentence = .ok r) ↔
      ∀ field ∈ (tokens comma sentence).1.head?, 5 ≤ field.memory.length := by
  have done : (tokens comma sentence).2 = .ok () :=
    (tokensFrom_snd_eq_ok_iff [] sentence).mpr (List.mem_of_getLast? ends)
  unfold gpsDateLine
  simp only
  rw [done]
  cases fields : (tokens comma sentence).1 with
  | nil => exact iff_of_true ⟨_, rfl⟩ fun _ mem => by cases mem
  | cons time rest =>
      have inside : time ∈ (tokens comma sentence).1 := fields ▸ List.mem_cons_self
      have last : time.memory.getLast? = some 0 := by
        rw [Token.memory, List.getLast?_append]
        rcases getLast?_memory_tokensFrom [] sentence ends inside with none | some
        · rw [none]
          rfl
        · rw [List.getLast?_cons, some]
          rfl
      have words := copyWord_two_ok_iff last
      constructor
      · rintro ⟨r, ran⟩ field mem
        cases mem
        obtain ⟨handled, hour, -⟩ := bind_eq_ok_iff.mp ran
        obtain ⟨hh, -, minute⟩ := bind_eq_ok_iff.mp hour
        obtain ⟨mm, -, second⟩ := bind_eq_ok_iff.mp minute
        obtain ⟨ss, copied, -⟩ := map_eq_ok_iff.mp second
        exact (words 4).mp ⟨ss, copied⟩
      · intro room
        have long := room time rfl
        obtain ⟨hh, hour⟩ := (words 0).mpr (by omega)
        obtain ⟨mm, minute⟩ := (words 2).mpr (by omega)
        obtain ⟨ss, second⟩ := (words 4).mpr (by omega)
        have decoded : gpsDateField lib 1 time s = .ok (some
            { s with
              hour := (lib.atoi hh + 10).tmod 24
              minute := lib.atoi mm
              second := lib.atoi ss }) := by
          show (copyWord 30 (time.memory.drop 0) 2).bind _ = _
          rw [hour]
          show (copyWord 30 (time.memory.drop 2) 2).bind _ = _
          rw [minute]
          show (copyWord 30 (time.memory.drop 4) 2).map _ = _
          rw [second]
          rfl
        obtain ⟨s', ran⟩ := @sentenceFields_date_rest lib _ (.ok ()) rest 2 (by decide)
        exact ⟨(s', 0), (sentenceFields_cons decoded).trans ran⟩

end Date

/-! ## Lines -/

section Line

variable {lib : LibraryChoices} {s : GpsFix}

/-- The line buffer ends with a NUL, or has none. -/
theorem getLast?_gpsLineBuf {line : CString} (terminated : 0 ∈ gpsLineBuf line) :
    (gpsLineBuf line).getLast? = some 0 := by
  unfold gpsLineBuf at terminated ⊢
  rcases List.mem_append.mp terminated with inText | inPadding
  · exact absurd (List.mem_of_mem_take inText) line.nul_free
  · have some : gpsLineBufSize - line.strlen ≠ 0 := (List.mem_replicate.mp inPadding).1
    rw [List.getLast?_append, List.getLast?_replicate, if_neg some]
    rfl

/-- **When a line is processed inside its buffers.** -/
theorem gpsLine_ok_iff (line : CString) :
    (∃ r, gpsLine lib s (gpsLineBuf line) = .ok r) ↔ SafeLineBuf (gpsLineBuf line) := by
  unfold gpsLine SafeLineBuf strchrOffset
  cases (CString.ofBytes (gpsLineBuf line)).bytes.idxOf? comma with
  | none =>
      by_cases terminated : 0 ∈ gpsLineBuf line
      · rw [if_pos terminated]
        exact iff_of_true ⟨_, rfl⟩ terminated
      · rw [if_neg terminated]
        exact iff_of_false (not_exists_error_eq_ok _) terminated
  | some i =>
      dsimp only [Except.bind]
      split
      · exact gpsLocationLine_ok_iff
      · split
        · exact iff_of_true ⟨_, rfl⟩ trivial
        · have unprinted : 0 ∉ (gpsLineBuf line).drop (i + 1) →
              readCString ((gpsLineBuf line).drop (i + 1)) = .error .outOfBounds :=
            fun absent => if_neg absent
          split
          · by_cases terminated : 0 ∈ (gpsLineBuf line).drop (i + 1)
            · -- the sentence ends where the line buffer ends
              have ends : ((gpsLineBuf line).drop (i + 1)).getLast? = some 0 := by
                have inside := List.length_pos_of_mem terminated
                rw [List.length_drop] at inside
                rw [List.getLast?_drop, if_neg (by omega),
                  getLast?_gpsLineBuf (List.mem_of_mem_drop terminated)]
              rw [readCString, if_pos terminated]
              exact (gpsDateLine_ok_iff ends).trans (and_iff_right terminated).symm
            · rw [unprinted terminated]
              exact iff_of_false (not_exists_error_eq_ok _) fun safe => terminated safe.1
          · by_cases terminated : 0 ∈ (gpsLineBuf line).drop (i + 1)
            · rw [readCString, if_pos terminated]
              exact iff_of_true ⟨_, rfl⟩ terminated
            · rw [unprinted terminated]
              exact iff_of_false (not_exists_error_eq_ok _) terminated

end Line

/-- What `gps_loop` hands to `gps_line` is the line buffer of the line in front of
the first newline. -/
theorem gpsLoop_lineBuf {s s' : GpsState} {buf : List UInt8} {rc : ℤ}
    (ran : gpsLoop s = .ok (s', some buf, rc)) :
    ∃ (line : CString) (rest : List UInt8), s.gpsBuf = line.bytes ++ newline :: rest ∧
      newline ∉ line.bytes ∧ buf = gpsLineBuf line := by
  unfold gpsLoop at ran
  split at ran
  · cases ran
  · obtain ⟨text, read, ran⟩ := bind_eq_ok_iff.mp ran
    have seen : text = CString.ofBytes s.gpsBuf := by
      unfold readCString at read
      split at read
      · cases read
        rfl
      · cases read
    cases found : text.bytes.idxOf? newline with
    | none =>
        rw [found] at ran
        cases ran
    | some nlpos =>
        rw [found] at ran
        obtain ⟨_, -, ran⟩ := bind_eq_ok_iff.mp ran
        obtain ⟨_, -, same⟩ := map_eq_ok_iff.mp ran
        cases same
        have mem : newline ∈ text.bytes := by
          rw [← List.isSome_idxOf?, found]
          rfl
        obtain ⟨front, back, split, clean⟩ := List.eq_append_cons_of_mem mem
        have nulFree : 0 ∉ front := fun inside =>
          text.nul_free (split ▸ List.mem_append_left _ inside)
        have taken : text.bytes.take nlpos = front := by
          rw [split, idxOf?_append_cons clean] at found
          cases found
          rw [split, List.take_left]
        obtain ⟨tail, whole⟩ : ∃ tail, s.gpsBuf = text.bytes ++ tail := by
          obtain ⟨tail, whole⟩ := List.takeWhile_prefix (l := s.gpsBuf) (fun c => c ≠ 0)
          exact ⟨tail, by rw [seen]; exact whole.symm⟩
        refine ⟨⟨front, nulFree⟩, back ++ tail, ?_, clean, ?_⟩
        · rw [whole, split, List.append_assoc]
          rfl
        · rw [taken]
          rfl

/-- **When the line in front of the first newline is processed inside its buffers**,
for every content of the receive buffer. -/
theorem lineProcessedSafely_iff (lib : LibraryChoices) (gpsBuf : List UInt8) :
    LineProcessedSafely lib gpsBuf ↔
      ∀ (line : CString) rest, gpsBuf = line.bytes ++ newline :: rest →
        newline ∉ line.bytes → SafeLineBuf (gpsLineBuf line) := by
  unfold LineProcessedSafely
  refine forall_congr' fun line => forall_congr' fun rest => forall_congr' fun _ =>
    forall_congr' fun _ => ?_
  constructor
  · intro safe
    exact (gpsLine_ok_iff line).mp (safe ⟨0, 0, 0, 0, 0, 0, 0, 0, 0, 0⟩)
  · intro safe s
    exact (gpsLine_ok_iff line).mpr safe

/-- **A latitude without degrees**: the word would have a length of -1. -/
theorem shortLatitude_not_processedSafely :
    ¬ LineProcessedSafely ⟨fun _ => 0, fun _ => none⟩
      ((CString.ofString "$GPGLL,3.5,S").bytes ++ newline :: List.replicate 499 0) := by
  intro safe
  obtain ⟨r, ran⟩ := safe (.ofString "$GPGLL,3.5,S") _ rfl (by decide)
    ⟨0, 0, 0, 0, 0, 0, 0, 0, 0, 0⟩
  have faults : gpsLine ⟨fun _ => 0, fun _ => none⟩ ⟨0, 0, 0, 0, 0, 0, 0, 0, 0, 0⟩
      (gpsLineBuf (.ofString "$GPGLL,3.5,S")) = .error .outOfBounds := by
    decide +kernel
  cases faults.symm.trans ran

end Ztacx.Gps
