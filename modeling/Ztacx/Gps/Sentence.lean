import Ztacx.CModel.Decimal
import Ztacx.CModel.Strtok

/-!
# GPS sentences

`gps_location_line` and `gps_date_line` of `src/ztacx_gps.c`, which decode the
body of a GLL and of a ZDA sentence into globals (`GpsFix`).

Both walk over the fields of the sentence with a counter that says what a field
means (`sentenceFields`).  `strtok_r` skips empty fields, so the counter is a
field's number only as long as none is empty.

The coordinates are `double`s in the code and rational numbers here.  What the C
library may make of a numeral that is not plain is a parameter (`LibraryChoices`).
-/

namespace Ztacx.Gps

open CModel

/-- The globals that the sentences are decoded into. -/
structure GpsFix where
  lat : ℚ
  lon : ℚ
  hour : ℤ
  minute : ℤ
  second : ℤ
  day : ℤ
  month : ℤ
  year : ℤ
  zone : ℤ
  zmin : ℤ
deriving DecidableEq, Repr

/-- What is left open about the C library. -/
structure LibraryChoices where
  /-- `atoi` of a number that is not an `int`. -/
  overflow : CString → BitVec 32
  /-- `%lf` on a text that is not a plain numeral. -/
  other : CString → Option ℚ

/-- `atoi`. -/
def LibraryChoices.atoi (lib : LibraryChoices) (text : CString) : ℤ :=
  (CModel.atoi lib.overflow text).toInt

/-- `,` -/
def comma : UInt8 := 44

/-- `.` -/
def point : UInt8 := 46

/-- `strncpy(word, p, len); word[len] = '\0'`, where `p` points at `memory` and
`word` has `size` bytes: the text that is then in `word`.  A length that is
negative is a huge `size_t`. -/
def copyWord (size : ℕ) (memory : List UInt8) (len : ℤ) : Except Fault CString :=
  if 0 ≤ len ∧ len < size then
    if len ≤ memory.length ∨ 0 ∈ memory then .ok (CString.ofBytes (memory.take len.toNat))
    else .error .outOfBounds
  else .error .outOfBounds

/-- The loop of both functions.  A field is handled by its position; `none` stands
for `return -1`. -/
def sentenceFields (handle : ℕ → Token → GpsFix → Except Fault (Option GpsFix)) (s : GpsFix)
    (fieldpos : ℕ) (done : Except Fault Unit) : List Token → Except Fault (GpsFix × ℤ)
  | [] => done.map fun _ => (s, 0)
  | field :: rest =>
    (handle fieldpos field s).bind fun handled =>
      match handled with
      | none => .ok (s, -1)
      | some s => sentenceFields handle s (fieldpos + 1) done rest

/-! ## GLL -/

/-- A coordinate, if there is a point in the field: the degrees in front of the
last two digits before the point, and the minutes.  `fallback` is the value of the
minutes when `sscanf` does not find a number. -/
def coordinate (lib : LibraryChoices) (fallback : ℤ → ℤ → ℚ) (field : Token) :
    Except Fault (Option ℚ) :=
  match field.text.bytes.idxOf? point with
  | none => .ok none
  | some decimal =>
    (copyWord 16 field.memory (decimal - 2)).map fun word =>
      let minutes := field.text.drop (decimal - 2)
      some (lib.atoi word + match scanDouble lib.other minutes with
        | some mm => mm / 60
        | none => fallback (lib.atoi (minutes.take 2)) (lib.atoi (minutes.drop 3)))

/-- The latitude, with `mm = val/60` and `mm = val/6000` in integers. -/
def latitude (lib : LibraryChoices) : Token → Except Fault (Option ℚ) :=
  coordinate lib fun val frac => (val.tdiv 60 : ℤ) + (frac.tdiv 6000 : ℤ)

/-- The longitude, with `mm = val` and `mm += val/100` in integers. -/
def longitude (lib : LibraryChoices) : Token → Except Fault (Option ℚ) :=
  coordinate lib fun val frac => (val + (frac.tdiv 100 : ℤ)) / 60

/-- A case of the switch in `gps_location_line`. -/
def gpsLocationField (lib : LibraryChoices) (fieldpos : ℕ) (field : Token) (s : GpsFix) :
    Except Fault (Option GpsFix) :=
  match fieldpos with
  | 1 => (latitude lib field).map fun lat => lat.map fun lat => { s with lat := lat }
  | 2 => .ok (some (if field.text.bytes.head? = some 83 then { s with lat := - s.lat } else s))
  | 3 => (longitude lib field).map fun lon => lon.map fun lon => { s with lon := lon }
  | 4 => .ok (some (if field.text.bytes.head? = some 87 then { s with lon := - s.lon } else s))
  | 5 =>
    -- too short for HHMMSS
    if field.text.strlen < 6 then .ok none
    else
      (copyWord 16 field.memory 2).bind fun hh =>
        (copyWord 16 (field.memory.drop 2) 2).bind fun mm =>
          (copyWord 16 (field.memory.drop 4) 2).map fun ss => some
            { s with
              hour := (lib.atoi hh + s.zone).tmod 24
              minute := (lib.atoi mm + s.zmin).tmod 60
              second := lib.atoi ss }
  | _ => .ok (some s)

/-- `gps_location_line`.  The call of `gps_location_change` at its end reports the
position and leaves it as it is. -/
def gpsLocationLine (lib : LibraryChoices) (s : GpsFix) (buf : List UInt8) :
    Except Fault (GpsFix × ℤ) :=
  let fields := fun fieldpos (ts : List Token × Except Fault Unit) =>
    sentenceFields (gpsLocationField lib) s fieldpos ts.2 ts.1
  match buf with
  | [] => .error .outOfBounds
  | c :: _ =>
    if c = comma then
      -- no location, but perhaps a time
      if buf.take 4 = [comma, comma, comma, comma] then fields 5 (tokens comma (buf.drop 4))
      else if buf.all (· = comma) then .error .outOfBounds
      else .ok (s, -1)
    else fields 1 (tokens comma buf)

/-! ## ZDA -/

/-- A case of the switch in `gps_date_line`. -/
def gpsDateField (lib : LibraryChoices) (fieldpos : ℕ) (field : Token) (s : GpsFix) :
    Except Fault (Option GpsFix) :=
  match fieldpos with
  | 1 =>
    (copyWord 30 field.memory 2).bind fun hh =>
      (copyWord 30 (field.memory.drop 2) 2).bind fun mm =>
        (copyWord 30 (field.memory.drop 4) 2).map fun ss => some
          { s with
            hour := (lib.atoi hh + 10).tmod 24
            minute := lib.atoi mm
            second := lib.atoi ss }
  | 2 => .ok (some { s with day := lib.atoi field.text })
  | 3 => .ok (some { s with month := lib.atoi field.text })
  | 4 => .ok (some { s with year := lib.atoi field.text })
  | 5 => .ok (some { s with zone := lib.atoi field.text })
  | 6 => .ok (some { s with zmin := lib.atoi field.text })
  | _ => .ok (some s)

/-- `gps_date_line`. -/
def gpsDateLine (lib : LibraryChoices) (s : GpsFix) (buf : List UInt8) :
    Except Fault (GpsFix × ℤ) :=
  let ts := tokens comma buf
  sentenceFields (gpsDateField lib) s 1 ts.2 ts.1

/-! ## Fields -/

section Fields

variable {handle : ℕ → Token → GpsFix → Except Fault (Option GpsFix)} {s s' : GpsFix}
  {fieldpos : ℕ} {done : Except Fault Unit} {field : Token} {rest : List Token}

theorem sentenceFields_cons (handled : handle fieldpos field s = .ok (some s')) :
    sentenceFields handle s fieldpos done (field :: rest) =
      sentenceFields handle s' (fieldpos + 1) done rest := by
  rw [sentenceFields, handled]
  rfl

theorem sentenceFields_rejected (refused : handle fieldpos field s = .ok none) :
    sentenceFields handle s fieldpos done (field :: rest) = .ok (s, -1) := by
  rw [sentenceFields, refused]
  rfl

/-- Fields that have no meaning change nothing. -/
theorem sentenceFields_of_ignored {last : ℕ}
    (ignored : ∀ fieldpos field s, last < fieldpos → handle fieldpos field s = .ok (some s))
    (beyond : last < fieldpos) (fields : List Token) :
    sentenceFields handle s fieldpos done fields = done.map fun _ => (s, 0) := by
  induction fields generalizing fieldpos with
  | nil => rfl
  | cons field fields ih =>
      rw [sentenceFields_cons (ignored fieldpos field s beyond)]
      exact ih (Nat.lt_succ_of_lt beyond)

/-- **What every case of the switch keeps, the loop keeps.** -/
theorem sentenceFields_keeps {keep : GpsFix → Prop} {r : ℤ}
    (step : ∀ fieldpos field s s', keep s → handle fieldpos field s = .ok (some s') → keep s')
    {fields : List Token} (start : keep s)
    (ran : sentenceFields handle s fieldpos done fields = .ok (s', r)) : keep s' := by
  induction fields generalizing s fieldpos with
  | nil =>
      obtain ⟨_, -, same⟩ := map_eq_ok_iff.mp ran
      cases same
      exact start
  | cons field fields ih =>
      obtain ⟨handled, case, rest⟩ := bind_eq_ok_iff.mp ran
      cases handled with
      | none =>
          cases rest
          exact start
      | some next => exact ih (step fieldpos field s next start case) rest

theorem gpsLocationField_ignored (lib : LibraryChoices) (fieldpos : ℕ) (field : Token)
    (s : GpsFix) (beyond : 5 < fieldpos) :
    gpsLocationField lib fieldpos field s = .ok (some s) := by
  unfold gpsLocationField
  split <;> first | omega | rfl

/-- A word that is long enough is copied. -/
theorem copyWord_of_le {size n : ℕ} {memory : List UInt8} (small : n < size)
    (long : n ≤ memory.length) :
    copyWord size memory n = .ok (CString.ofBytes (memory.take n)) := by
  rw [copyWord, if_pos ⟨by omega, by omega⟩, if_pos (.inl (by omega)), Int.toNat_natCast]

end Fields

end Ztacx.Gps
