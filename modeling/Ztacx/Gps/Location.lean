import Ztacx.Gps.Sentence

/-!
# Decoding a position

What `gps_location_line` makes of a sentence that a receiver would send
(`gpsLocationLine_gll`).  A coordinate is written as degrees, two digits of
minutes, a point and a fraction (`Coordinate`); the code finds the minutes by
counting back from the point, so the degrees may have any number of digits that
fit its word buffer.  The sign is in a field of its own and is applied when that
field is reached (`gll_decoded`).

The fields are decoded into the globals one by one, so a sentence that is
rejected for a later field has already moved the position.  `RejectedLate` is
exactly that kind of sentence, and `rejectedUnchanged_iff` says that only those
leave something behind.
-/

namespace Ztacx.Gps

open CModel

/-! ## Sentences -/

/-- A coordinate as it is written in a sentence. -/
structure Coordinate where
  degrees : List (Fin 10)
  degrees_ne_nil : degrees ≠ []
  degrees_length : degrees.length ≤ 3
  minuteTens : Fin 10
  minuteUnits : Fin 10
  fraction : List (Fin 10)
deriving DecidableEq, Repr

namespace Coordinate

variable (c : Coordinate)

/-- The digits of the minutes, the point and the fraction. -/
def minutesText : List UInt8 :=
  digitText [c.minuteTens, c.minuteUnits] ++ point :: digitText c.fraction

/-- `dddmm.mmm` -/
def text : CString where
  bytes := digitText c.degrees ++ c.minutesText
  nul_free := by simp [minutesText, nul_notMem_digitText, point]

/-- Degrees and sixtieths of a degree. -/
def value : ℚ :=
  digitsNat c.degrees + digitsRat [c.minuteTens, c.minuteUnits] c.fraction / 60

end Coordinate

/-- The position in a sentence. -/
structure GllPosition where
  lat : Coordinate
  south : Bool
  lon : Coordinate
  west : Bool
deriving DecidableEq, Repr

def GllPosition.latitude (p : GllPosition) : ℚ := if p.south then - p.lat.value else p.lat.value

def GllPosition.longitude (p : GllPosition) : ℚ := if p.west then - p.lon.value else p.lon.value

/-- The end of a sentence: the time, of which the first six characters count, and
further fields. -/
structure GllTime where
  time : CString
  time_plain : comma ∉ time.bytes
  time_length : 6 ≤ time.strlen
  rest : CString
deriving DecidableEq, Repr

/-- The letter of a hemisphere. -/
def hemisphere (letter : UInt8) (nonzero : letter ≠ 0) : CString :=
  ⟨[letter], by simpa using nonzero.symm⟩

/-- `N` or `S` -/
def latitudeSign (south : Bool) : CString :=
  if south then hemisphere 83 (by decide) else hemisphere 78 (by decide)

/-- `E` or `W` -/
def longitudeSign (west : Bool) : CString :=
  if west then hemisphere 87 (by decide) else hemisphere 69 (by decide)

def GllTime.bytes (t : GllTime) : List UInt8 := t.time.bytes ++ comma :: t.rest.bytes

/-- The body of a GLL sentence; without a position its first four fields are empty. -/
def gllBytes (position : Option GllPosition) (t : GllTime) : List UInt8 :=
  match position with
  | none => comma :: comma :: comma :: comma :: t.bytes
  | some p =>
    p.lat.text.bytes ++ comma :: ((latitudeSign p.south).bytes ++ comma ::
      (p.lon.text.bytes ++ comma :: ((longitudeSign p.west).bytes ++ comma :: t.bytes)))

/-! ## Fields -/

section Fields

variable {lib : LibraryChoices} {s : GpsFix} {behind : List UInt8}

/-- A few digits are read as the number they spell. -/
theorem atoi_digitText {text : CString} {ds : List (Fin 10)} (spelled : text.bytes = digitText ds)
    (short : ds.length ≤ 9) : lib.atoi text = digitsNat ds := by
  have read : decimalInt text = digitsNat ds := by
    have same : text = signedText false ds := CString.ext spelled
    rw [same, decimalInt_signedText]
    rfl
  have small : digitsNat ds < 10 ^ 9 :=
    (digitsNat_lt ds).trans_le (Nat.pow_le_pow_right (by decide) short)
  have fits : IsInt (decimalInt text) := by
    rw [read]
    unfold IsInt INT_MIN INT_MAX
    omega
  rw [LibraryChoices.atoi, toInt_atoi fits, read]

/-- Where the point is in a coordinate. -/
theorem Coordinate.idxOf_point (c : Coordinate) :
    c.text.bytes.idxOf? point = some (c.degrees.length + 2) := by
  have split : c.text.bytes =
      digitText (c.degrees ++ [c.minuteTens, c.minuteUnits]) ++ point :: digitText c.fraction := by
    show digitText c.degrees ++ c.minutesText = _
    simp [Coordinate.minutesText, digitText]
  rw [split, idxOf?_append_cons (plain_digitText (by decide) _)]
  simp

/-- **A coordinate is decoded** as its degrees and its minutes. -/
theorem coordinate_of_text (fallback : ℤ → ℤ → ℚ) (c : Coordinate) :
    coordinate lib fallback ⟨c.text, behind⟩ = .ok (some c.value) := by
  have memory : (Token.mk c.text behind).memory =
      digitText c.degrees ++ (c.minutesText ++ 0 :: behind) := List.append_assoc ..
  have short := c.degrees_length
  -- the degrees end two characters in front of the point
  have word : copyWord 16 (Token.mk c.text behind).memory (c.degrees.length + 2 - 2 : ℤ) =
      .ok (signedText false c.degrees) := by
    have copied := @copyWord_of_le 16 c.degrees.length (Token.mk c.text behind).memory
      (by omega) (by rw [memory, List.length_append, length_digitText]; omega)
    have front : (Token.mk c.text behind).memory.take c.degrees.length =
        (signedText false c.degrees).bytes := by
      rw [memory, ← length_digitText, List.take_left]
      rfl
    rw [Int.add_sub_cancel, copied, front, CString.ofBytes_bytes]
  have scanned : scanDouble lib.other (c.text.drop (c.degrees.length + 2 - 2)) =
      some (digitsRat [c.minuteTens, c.minuteUnits] c.fraction) := by
    refine scanDouble_of_digits lib.other ?_ (List.cons_ne_nil _ _)
    rw [Nat.add_sub_cancel, CString.drop_bytes, ← length_digitText]
    exact List.drop_left
  unfold coordinate
  rw [c.idxOf_point]
  show (copyWord 16 (Token.mk c.text behind).memory
    (((c.degrees.length + 2 : ℕ) : ℤ) - 2)).map _ = _
  rw [Nat.cast_add, Nat.cast_two, word]
  show Except.ok (some _) = _
  have degrees : lib.atoi (signedText false c.degrees) = digitsNat c.degrees :=
    atoi_digitText rfl (by omega)
  rw [scanned, degrees]
  rfl

/-- A word of two characters inside a field. -/
theorem copyWord_two {size off : ℕ} {field : CString} (small : 2 < size)
    (inside : off + 2 ≤ field.strlen) :
    copyWord size ((Token.mk field behind).memory.drop off) 2 =
      .ok ((field.drop off).take 2) := by
  have length : field.bytes.length = field.strlen := rfl
  have memory : (Token.mk field behind).memory.drop off =
      (field.drop off).bytes ++ 0 :: behind :=
    List.drop_append_of_le_length (show off ≤ field.bytes.length by omega)
  have word : ((Token.mk field behind).memory.drop off).take 2 =
      ((field.drop off).take 2).bytes := by
    rw [memory, List.take_append_of_le_length (by rw [CString.drop_bytes, List.length_drop]; omega)]
    rfl
  have copied := @copyWord_of_le size 2 ((Token.mk field behind).memory.drop off) small (by
    rw [memory, List.length_append, CString.drop_bytes, List.length_drop]
    omega)
  rw [word, CString.ofBytes_bytes] at copied
  exact copied

/-- The words of a time. -/
theorem copyWord_time {size : ℕ} {time : CString} (small : 2 < size) (long : 6 ≤ time.strlen) :
    copyWord size (Token.mk time behind).memory 2 = .ok (time.take 2) ∧
      copyWord size ((Token.mk time behind).memory.drop 2) 2 = .ok ((time.drop 2).take 2) ∧
      copyWord size ((Token.mk time behind).memory.drop 4) 2 = .ok ((time.drop 4).take 2) :=
  ⟨@copyWord_two behind size 0 time small (by omega), copyWord_two small (by omega),
    copyWord_two small (by omega)⟩

/-- The fix with another position. -/
def located (p : GllPosition) (s : GpsFix) : GpsFix :=
  { s with lat := p.latitude, lon := p.longitude }

/-- The fix with another time. -/
def timed (lib : LibraryChoices) (time : CString) (s : GpsFix) : GpsFix :=
  { s with
    hour := (lib.atoi (time.take 2) + s.zone).tmod 24
    minute := (lib.atoi ((time.drop 2).take 2) + s.zmin).tmod 60
    second := lib.atoi ((time.drop 4).take 2) }

theorem gpsLocationField_latitude (c : Coordinate) :
    gpsLocationField lib 1 ⟨c.text, behind⟩ s = .ok (some { s with lat := c.value }) := by
  show (latitude lib _).map _ = _
  rw [latitude, coordinate_of_text]
  rfl

theorem gpsLocationField_latitudeSign (south : Bool) :
    gpsLocationField lib 2 ⟨latitudeSign south, behind⟩ s =
      .ok (some { s with lat := if south then - s.lat else s.lat }) := by
  cases south <;> rfl

theorem gpsLocationField_longitude (c : Coordinate) :
    gpsLocationField lib 3 ⟨c.text, behind⟩ s = .ok (some { s with lon := c.value }) := by
  show (longitude lib _).map _ = _
  rw [longitude, coordinate_of_text]
  rfl

theorem gpsLocationField_longitudeSign (west : Bool) :
    gpsLocationField lib 4 ⟨longitudeSign west, behind⟩ s =
      .ok (some { s with lon := if west then - s.lon else s.lon }) := by
  cases west <;> rfl

/-- The field of the time is decoded. -/
theorem gpsLocationField_time {time : CString} (long : 6 ≤ time.strlen) :
    gpsLocationField lib 5 ⟨time, behind⟩ s = .ok (some (timed lib time s)) := by
  obtain ⟨hh, mm, ss⟩ := @copyWord_time behind 16 time (by decide) long
  show (if time.strlen < 6 then _ else _) = _
  rw [if_neg (by omega), hh]
  show (copyWord 16 _ 2).bind _ = _
  rw [mm]
  show (copyWord 16 _ 2).map _ = _
  rw [ss]
  rfl

end Fields

/-! ## Whole sentences -/

section Sentences

variable {lib : LibraryChoices} {s : GpsFix} {behind : List UInt8}

theorem Coordinate.plain_text (c : Coordinate) : comma ∉ c.text.bytes := by
  have digits : ∀ ds, comma ∉ digitText ds := plain_digitText (by decide)
  intro mem
  rcases List.mem_append.mp mem with front | back
  · exact digits _ front
  · rcases List.mem_append.mp back with minutes | fraction
    · exact digits _ minutes
    · rcases List.mem_cons.mp fraction with same | later
      · exact absurd same (by decide)
      · exact digits _ later

/-- A coordinate starts with a digit. -/
theorem Coordinate.text_bytes (c : Coordinate) :
    ∃ d more, c.text.bytes = digitByte d :: more := by
  obtain ⟨d, ds, digits⟩ := List.exists_cons_of_ne_nil c.degrees_ne_nil
  refine ⟨d, digitText ds ++ c.minutesText, ?_⟩
  show digitText c.degrees ++ c.minutesText = _
  rw [digits]
  rfl

theorem latitudeSign_plain (south : Bool) :
    comma ∉ (latitudeSign south).bytes ∧ (latitudeSign south).bytes ≠ [] := by
  cases south <;> decide

theorem longitudeSign_plain (west : Bool) :
    comma ∉ (longitudeSign west).bytes ∧ (longitudeSign west).bytes ≠ [] := by
  cases west <;> decide

/-- A sentence that does not start with a comma is decoded from its first field on. -/
theorem gpsLocationLine_of_ne_comma {c : UInt8} (other : c ≠ comma) (rest : List UInt8) :
    gpsLocationLine lib s (c :: rest) =
      sentenceFields (gpsLocationField lib) s 1 (tokens comma (c :: rest)).2
        (tokens comma (c :: rest)).1 := if_neg other

/-- From the field of the time on. -/
theorem sentenceFields_time (t : GllTime) (s : GpsFix) (behind : List UInt8) :
    sentenceFields (gpsLocationField lib) s 5 (tokens comma (t.bytes ++ 0 :: behind)).2
      (tokens comma (t.bytes ++ 0 :: behind)).1 = .ok (timed lib t.time s, 0) := by
  have some : t.time.bytes ≠ [] := by
    have long : 6 ≤ t.time.bytes.length := t.time_length
    intro none
    rw [none] at long
    cases long
  have split : t.bytes ++ 0 :: behind =
      t.time.bytes ++ comma :: (t.rest.bytes ++ 0 :: behind) := by
    rw [GllTime.bytes, List.append_assoc]
    rfl
  rw [split, tokens_field_sep (by decide) t.time_plain some, tokens_snd,
    sentenceFields_cons (gpsLocationField_time t.time_length)]
  exact sentenceFields_of_ignored (gpsLocationField_ignored lib) (by decide) _

/-- **What a sentence does to the fix.** -/
theorem gpsLocationLine_gll (lib : LibraryChoices) (s : GpsFix) (position : Option GllPosition)
    (t : GllTime) (behind : List UInt8) :
    gpsLocationLine lib s (gllBytes position t ++ 0 :: behind) =
      .ok (timed lib t.time ((position.map fun p => located p s).getD s), 0) := by
  cases position with
  | none => exact sentenceFields_time t s behind
  | some p =>
      obtain ⟨latPlain, latSome⟩ := latitudeSign_plain p.south
      obtain ⟨lonPlain, lonSome⟩ := longitudeSign_plain p.west
      obtain ⟨d, more, latStart⟩ := p.lat.text_bytes
      obtain ⟨e, rest, lonStart⟩ := p.lon.text_bytes
      have other : ∀ d : Fin 10, digitByte d ≠ comma := by decide
      have bytes : gllBytes (some p) t ++ 0 :: behind =
          p.lat.text.bytes ++ comma :: ((latitudeSign p.south).bytes ++ comma ::
            (p.lon.text.bytes ++ comma :: ((longitudeSign p.west).bytes ++ comma ::
              (t.bytes ++ 0 :: behind)))) := by
        simp [gllBytes]
      have start : gllBytes (some p) t ++ 0 :: behind = digitByte d ::
          (more ++ comma :: ((latitudeSign p.south).bytes ++ comma ::
            (p.lon.text.bytes ++ comma :: ((longitudeSign p.west).bytes ++ comma ::
              (t.bytes ++ 0 :: behind))))) := by
        rw [bytes, latStart]
        rfl
      rw [start, gpsLocationLine_of_ne_comma (other d), ← start, bytes]
      -- the fields one after another
      rw [tokens_field_sep (by decide) p.lat.plain_text (by simp [latStart]),
        tokens_field_sep (by decide) latPlain latSome,
        tokens_field_sep (by decide) p.lon.plain_text (by simp [lonStart]),
        tokens_field_sep (by decide) lonPlain lonSome,
        sentenceFields_cons (gpsLocationField_latitude p.lat),
        sentenceFields_cons (gpsLocationField_latitudeSign p.south),
        sentenceFields_cons (gpsLocationField_longitude p.lon),
        sentenceFields_cons (gpsLocationField_longitudeSign p.west)]
      exact sentenceFields_time t _ behind

/-- **A position is decoded**, whatever it was before. -/
theorem gll_decoded (lib : LibraryChoices) (s : GpsFix) (p : GllPosition) (t : GllTime)
    (behind : List UInt8) :
    ∃ s', gpsLocationLine lib s (gllBytes (some p) t ++ 0 :: behind) = .ok (s', 0) ∧
      s'.lat = (if p.south then -1 else 1) * (digitsNat p.lat.degrees +
        digitsRat [p.lat.minuteTens, p.lat.minuteUnits] p.lat.fraction / 60) ∧
      s'.lon = (if p.west then -1 else 1) * (digitsNat p.lon.degrees +
        digitsRat [p.lon.minuteTens, p.lon.minuteUnits] p.lon.fraction / 60) := by
  refine ⟨_, gpsLocationLine_gll lib s (some p) t behind, ?_, ?_⟩
  · show (if p.south then - p.lat.value else p.lat.value) = _
    unfold Coordinate.value
    split <;> ring
  · show (if p.west then - p.lon.value else p.lon.value) = _
    unfold Coordinate.value
    split <;> ring

end Sentences

/-! ## Rejected sentences -/

/-- **A rejected sentence changes nothing.** -/
def RejectedUnchanged (lib : LibraryChoices) (sentence : CString) : Prop :=
  ∀ behind s s', gpsLocationLine lib s (sentence.bytes ++ 0 :: behind) = .ok (s', -1) →
    s'.lat = s.lat ∧ s'.lon = s.lon ∧ s'.hour = s.hour ∧ s'.minute = s.minute ∧
      s'.second = s.second

/-- A field that a coordinate is decoded from: the point has two characters in
front of it, and not more than the word buffer can hold in front of those. -/
def UsablePoint (field : CString) : Prop :=
  ∃ decimal, field.bytes.idxOf? point = some decimal ∧ 2 ≤ decimal ∧ decimal < 18

/-- Fields of which the latitude is decoded before the sentence is rejected: for a
longitude without a point, or after the longitude for a time of fewer than six
characters. -/
def FieldsRejectedLate (fields : List CString) : Prop :=
  ∃ lat sign lon rest, fields = lat :: sign :: lon :: rest ∧ UsablePoint lat ∧
    (point ∉ lon.bytes ∨
      UsablePoint lon ∧ ∃ lonSign time more, rest = lonSign :: time :: more ∧ time.strlen < 6)

/-- **A sentence that is rejected too late.** -/
def RejectedLate (sentence : CString) : Prop :=
  sentence.bytes.head? ≠ some comma ∧ FieldsRejectedLate (fieldsOf comma sentence)

section Rejected

variable {lib : LibraryChoices} {s s' : GpsFix} {behind : List UInt8}

/-- **When a coordinate is decoded.** -/
theorem coordinate_cases (lib : LibraryChoices) (fallback : ℤ → ℤ → ℚ) (field : Token) :
    (point ∉ field.text.bytes ∧ coordinate lib fallback field = .ok none) ∨
      (point ∈ field.text.bytes ∧ ¬ UsablePoint field.text ∧
        coordinate lib fallback field = .error .outOfBounds) ∨
      (UsablePoint field.text ∧ ∃ v, coordinate lib fallback field = .ok (some v)) := by
  unfold coordinate
  cases found : field.text.bytes.idxOf? point with
  | none => exact .inl ⟨List.idxOf?_eq_none_iff.mp found, rfl⟩
  | some decimal =>
      have mem : point ∈ field.text.bytes := by
        rw [← List.isSome_idxOf?, found]
        rfl
      obtain ⟨inside, -, -⟩ := List.idxOf?_eq_some_iff.mp found
      by_cases usable : 2 ≤ decimal ∧ decimal < 18
      · right
        right
        refine ⟨⟨decimal, found, usable⟩, ?_⟩
        have word := @copyWord_of_le 16 (decimal - 2) field.memory (by omega) (by
          rw [Token.memory, List.length_append]
          omega)
        rw [Nat.cast_sub usable.1] at word
        show ∃ v, (copyWord 16 field.memory ((decimal : ℤ) - (2 : ℕ))).map _ = .ok (some v)
        rw [word]
        exact ⟨_, rfl⟩
      · right
        left
        refine ⟨mem, ?_, ?_⟩
        · rintro ⟨decimal', found', low, high⟩
          cases found.symm.trans found'
          exact usable ⟨low, high⟩
        · have word : copyWord 16 field.memory ((decimal : ℤ) - 2) = .error .outOfBounds :=
            if_neg (by omega)
          show (copyWord 16 field.memory ((decimal : ℤ) - 2)).map _ = _
          rw [word]
          rfl

/-- What can happen to a field that a coordinate is stored from: `set` is where it
goes. -/
theorem storedCoordinate_cases (lib : LibraryChoices) (fallback : ℤ → ℤ → ℚ) (field : Token)
    (set : GpsFix → ℚ → GpsFix) :
    let handle := fun s => (coordinate lib fallback field).map fun v => v.map (set s)
    (point ∉ field.text.bytes ∧ ∀ s, handle s = .ok none) ∨
      (point ∈ field.text.bytes ∧ ¬ UsablePoint field.text ∧
        ∀ s, handle s = .error .outOfBounds) ∨
      (UsablePoint field.text ∧ ∃ v, ∀ s, handle s = .ok (some (set s v))) := by
  intro handle
  rcases coordinate_cases lib fallback field with ⟨absent, none⟩ | ⟨mem, bad, fault⟩ |
    ⟨usable, v, decoded⟩
  · exact .inl ⟨absent, fun s => by simp only [handle, none]; rfl⟩
  · exact .inr (.inl ⟨mem, bad, fun s => by simp only [handle, fault]; rfl⟩)
  · exact .inr (.inr ⟨usable, v, fun s => by simp only [handle, decoded]; rfl⟩)

/-- The field of the latitude. -/
theorem gpsLocationField_one_cases (lib : LibraryChoices) (field : Token) :
    (point ∉ field.text.bytes ∧ ∀ s, gpsLocationField lib 1 field s = .ok none) ∨
      (point ∈ field.text.bytes ∧ ¬ UsablePoint field.text ∧
        ∀ s, gpsLocationField lib 1 field s = .error .outOfBounds) ∨
      (UsablePoint field.text ∧ ∃ v, ∀ s,
        gpsLocationField lib 1 field s = .ok (some { s with lat := v })) :=
  storedCoordinate_cases lib _ field fun s lat => { s with lat := lat }

/-- The field of the longitude. -/
theorem gpsLocationField_three_cases (lib : LibraryChoices) (field : Token) :
    (point ∉ field.text.bytes ∧ ∀ s, gpsLocationField lib 3 field s = .ok none) ∨
      (point ∈ field.text.bytes ∧ ¬ UsablePoint field.text ∧
        ∀ s, gpsLocationField lib 3 field s = .error .outOfBounds) ∨
      (UsablePoint field.text ∧ ∃ v, ∀ s,
        gpsLocationField lib 3 field s = .ok (some { s with lon := v })) :=
  storedCoordinate_cases lib _ field fun s lon => { s with lon := lon }

/-- A usable point is a point. -/
theorem UsablePoint.mem {text : CString} (usable : UsablePoint text) : point ∈ text.bytes := by
  obtain ⟨decimal, found, -⟩ := usable
  rw [← List.isSome_idxOf?, found]
  rfl

/-- The fields with a sign never end the loop. -/
theorem sentenceFields_sign {fieldpos : ℕ} (isSign : fieldpos = 2 ∨ fieldpos = 4)
    (done : Except Fault Unit) (field : Token) (rest : List Token) (s : GpsFix) :
    ∃ s', sentenceFields (gpsLocationField lib) s fieldpos done (field :: rest) =
        sentenceFields (gpsLocationField lib) s' (fieldpos + 1) done rest := by
  rcases isSign with rfl | rfl
  · exact ⟨_, sentenceFields_cons rfl⟩
  · exact ⟨_, sentenceFields_cons rfl⟩

/-- From the field of the time on, a sentence is rejected only for that field. -/
theorem rejected_from_time {done : Except Fault Unit} {fields : List Token}
    (ran : sentenceFields (gpsLocationField lib) s 5 done fields = .ok (s', -1)) :
    s' = s ∧ ∃ time more, fields = time :: more ∧ time.text.strlen < 6 := by
  have accepted : ∀ {s : GpsFix}, done.map (fun _ => (s, 0)) ≠ .ok (s', -1) := by
    intro s same
    obtain ⟨_, -, same⟩ := map_eq_ok_iff.mp same
    cases same
  cases fields with
  | nil => exact absurd ran accepted
  | cons time more =>
      by_cases short : time.text.strlen < 6
      · have refused : gpsLocationField lib 5 time s = .ok none := if_pos short
        rw [sentenceFields_rejected refused] at ran
        cases ran
        exact ⟨rfl, time, more, rfl, short⟩
      · have decoded : gpsLocationField lib 5 time s = .ok (some (timed lib time.text s)) :=
          gpsLocationField_time (not_lt.mp short)
        rw [sentenceFields_cons decoded,
          sentenceFields_of_ignored (gpsLocationField_ignored lib) (by decide)] at ran
        exact absurd ran accepted

/-- **What a rejection leaves behind**: nothing, unless it is late. -/
theorem rejected_from_start {fields : List Token}
    (ran : sentenceFields (gpsLocationField lib) s 1 (.ok ()) fields = .ok (s', -1)) :
    s' = s ∨ FieldsRejectedLate (fields.map Token.text) := by
  cases fields with
  | nil => cases ran
  | cons lat fields =>
    rcases gpsLocationField_one_cases lib lat with ⟨-, refused⟩ | ⟨-, -, fault⟩ |
      ⟨usable, v, stored⟩
    · rw [sentenceFields_rejected (refused s)] at ran
      cases ran
      exact .inl rfl
    · rw [sentenceFields, fault s] at ran
      cases ran
    · right
      rw [sentenceFields_cons (stored s)] at ran
      cases fields with
      | nil => cases ran
      | cons sign fields =>
        obtain ⟨s₂, signed⟩ := @sentenceFields_sign lib 2 (.inl rfl) (.ok ()) sign fields
          { s with lat := v }
        rw [signed] at ran
        cases fields with
        | nil => cases ran
        | cons lon fields =>
          refine ⟨lat.text, sign.text, lon.text, fields.map Token.text, rfl, usable, ?_⟩
          rcases gpsLocationField_three_cases lib lon with ⟨absent, -⟩ | ⟨-, -, fault⟩ |
            ⟨lonUsable, w, stored'⟩
          · exact .inl absent
          · rw [sentenceFields, fault s₂] at ran
            cases ran
          · right
            rw [sentenceFields_cons (stored' s₂)] at ran
            cases fields with
            | nil => cases ran
            | cons lonSign fields =>
              obtain ⟨s₄, signed'⟩ := @sentenceFields_sign lib 4 (.inr rfl) (.ok ()) lonSign fields
                { s₂ with lon := w }
              rw [signed'] at ran
              obtain ⟨-, time, more, rfl, short⟩ := rejected_from_time ran
              exact ⟨lonUsable, lonSign.text, time.text, more.map Token.text, rfl, short⟩

/-- **A late rejection** stores a latitude that does not depend on the one before. -/
theorem stores_of_rejectedLate {fields : List Token}
    (late : FieldsRejectedLate (fields.map Token.text)) :
    ∃ v, ∀ s, ∃ s', s'.lat = v ∧
      sentenceFields (gpsLocationField lib) s 1 (.ok ()) fields = .ok (s', -1) := by
  obtain ⟨latText, signText, lonText, rest, split, usable, refusal⟩ := late
  obtain ⟨lat, fields₁, rfl, rfl, split₁⟩ := List.map_eq_cons_iff.mp split
  obtain ⟨sign, fields₂, rfl, rfl, split₂⟩ := List.map_eq_cons_iff.mp split₁
  obtain ⟨lon, fields₃, rfl, rfl, rfl⟩ := List.map_eq_cons_iff.mp split₂
  obtain ⟨absent, -⟩ | ⟨-, bad, -⟩ | ⟨-, v, stored⟩ := gpsLocationField_one_cases lib lat
  · exact absurd usable.mem absent
  · exact absurd usable bad
  · refine ⟨if sign.text.bytes.head? = some 83 then -v else v, fun s => ?_⟩
    have signed : gpsLocationField lib 2 sign { s with lat := v } = .ok (some
        { s with lat := if sign.text.bytes.head? = some 83 then -v else v }) := by
      show Except.ok (some (if _ then _ else _)) = _
      split <;> rfl
    rw [sentenceFields_cons (stored s), sentenceFields_cons signed]
    rcases gpsLocationField_three_cases lib lon with ⟨absent, refused⟩ | ⟨mem, bad, -⟩ |
      ⟨lonUsable, w, stored'⟩
    · exact ⟨_, rfl, sentenceFields_rejected (refused _)⟩
    · rcases refusal with absent | ⟨lonUsable, -⟩
      · exact absurd mem absent
      · exact absurd lonUsable bad
    · rcases refusal with absent | ⟨-, lonSignText, timeText, more, split₃, short⟩
      · exact absurd lonUsable.mem absent
      · obtain ⟨lonSign, fields₄, rfl, rfl, split₄⟩ := List.map_eq_cons_iff.mp split₃
        obtain ⟨time, fields₅, rfl, rfl, rfl⟩ := List.map_eq_cons_iff.mp split₄
        rw [sentenceFields_cons (stored' _), sentenceFields_cons rfl]
        have refused : ∀ s, gpsLocationField lib 5 time s = .ok none := fun _ => if_pos short
        refine ⟨_, ?_, sentenceFields_rejected (refused _)⟩
        split <;> rfl

/-- A sentence that is rejected late has moved the latitude. -/
theorem not_rejectedUnchanged_of_late {sentence : CString} (late : RejectedLate sentence) :
    ¬ RejectedUnchanged lib sentence := by
  obtain ⟨start, late⟩ := late
  rw [← texts_tokens comma sentence []] at late
  obtain ⟨v, stores⟩ := @stores_of_rejectedLate lib _ late
  -- a fix with another latitude than the one that is going to be stored
  obtain ⟨s', stored, ran⟩ := stores ⟨v + 1, 0, 0, 0, 0, 0, 0, 0, 0, 0⟩
  intro unchanged
  have line : gpsLocationLine lib ⟨v + 1, 0, 0, 0, 0, 0, 0, 0, 0, 0⟩
      (sentence.bytes ++ 0 :: []) = .ok (s', -1) := by
    cases first : sentence.bytes with
    | nil =>
        rw [first] at ran
        exact ran
    | cons c rest =>
        rw [first] at start ran
        have other : c ≠ comma := fun same => start (congrArg some same)
        rw [List.cons_append, gpsLocationLine_of_ne_comma other, ← List.cons_append, ← first,
          tokens_snd, first]
        exact ran
  have same := (unchanged _ _ _ line).1
  rw [stored] at same
  exact absurd same (by simp)

/-- Any other rejection leaves the fix as it was. -/
theorem eq_of_rejected {sentence : CString} (notLate : ¬ RejectedLate sentence)
    (ran : gpsLocationLine lib s (sentence.bytes ++ 0 :: behind) = .ok (s', -1)) : s' = s := by
  cases first : sentence.bytes with
  | nil =>
      rw [first] at ran
      cases ran
  | cons c rest =>
      rw [first, List.cons_append] at ran
      by_cases other : c = comma
      · -- nothing is decoded, or the time alone
        unfold gpsLocationLine at ran
        simp only [if_pos other] at ran
        split at ran
        · exact (rejected_from_time ran).1
        · split at ran
          · cases ran
          · cases ran
            rfl
      · rw [gpsLocationLine_of_ne_comma other, ← List.cons_append, ← first, tokens_snd] at ran
        rcases rejected_from_start ran with same | late
        · exact same
        · rw [texts_tokens] at late
          refine absurd ⟨?_, late⟩ notLate
          rw [first]
          exact fun same => other (Option.some.inj same)

end Rejected

/-- **When a rejected sentence changes nothing**: it is not rejected late. -/
theorem rejectedUnchanged_iff (lib : LibraryChoices) (sentence : CString) :
    RejectedUnchanged lib sentence ↔ ¬ RejectedLate sentence := by
  constructor
  · intro unchanged late
    exact not_rejectedUnchanged_of_late late unchanged
  · intro notLate behind s s' ran
    rw [eq_of_rejected notLate ran]
    exact ⟨rfl, rfl, rfl, rfl, rfl⟩

/-- **A longitude that has lost its fraction**: the sentence is rejected, but the fix
already has its latitude, next to the longitude of an earlier one. -/
theorem lostFraction_not_rejectedUnchanged :
    ¬ RejectedUnchanged ⟨fun _ => 0, fun _ => none⟩ (.ofString "3751.65,S,14507,E") := by
  refine not_rejectedUnchanged_of_late ⟨by decide, ?_⟩
  refine ⟨.ofString "3751.65", .ofString "S", .ofString "14507", [.ofString "E"], by decide, ?_, ?_⟩
  · exact ⟨4, by decide, by decide, by decide⟩
  · exact .inl (by decide)

end Ztacx.Gps
