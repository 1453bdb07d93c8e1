import Ztacx.Gps.Location

/-!
# Local time

The time of a sentence is UTC, and the clock of the device shows local time.  A
ZDA sentence says which zone that is; from then on the zone is in force, whatever
sentences without one follow (`ZoneInForce`).

`gps_location_line` adds the hours and the minutes of the zone to those of the
sentence and reduces each by itself, with a remainder that truncates.
`timed_showsTime_iff` says when that is the local time: nothing is carried or
borrowed between minutes and hours, and the day before is not reached.
`gps_date_line` adds ten hours, whatever the zone is.  Only in the zone +10:00 are
both right (`localTimeRight_iff`).
-/

namespace Ztacx.Gps

open CModel

/-! ## Times and zones -/

/-- A time of day. -/
structure UtcTime where
  hour : ℕ
  minute : ℕ
  second : ℕ
  hour_lt : hour < 24
  minute_lt : minute < 60
  second_lt : second < 60
deriving DecidableEq, Repr

/-- An offset from UTC. -/
structure LocalZone where
  hours : ℤ
  minutes : ℤ
  hours_ge : -13 ≤ hours
  hours_le : hours ≤ 13
  minutes_gt : -60 < minutes
  minutes_lt : minutes < 60
  same_sign : 0 ≤ hours * minutes
deriving DecidableEq, Repr

theorem LocalZone.ranges (zone : LocalZone) :
    -13 ≤ zone.hours ∧ zone.hours ≤ 13 ∧ -60 < zone.minutes ∧ zone.minutes < 60 :=
  ⟨zone.hours_ge, zone.hours_le, zone.minutes_gt, zone.minutes_lt⟩

/-- The local time, in minutes since midnight. -/
def LocalZone.localMinutes (zone : LocalZone) (t : UtcTime) : ℤ :=
  (t.hour * 60 + t.minute + (zone.hours * 60 + zone.minutes)) % 1440

/-- The clock shows a time of day. -/
structure ShowsTime (s : GpsFix) (minutes : ℤ) : Prop where
  total : s.hour * 60 + s.minute = minutes
  hour_nonneg : 0 ≤ s.hour
  hour_lt : s.hour < 24
  minute_nonneg : 0 ≤ s.minute
  minute_lt : s.minute < 60

/-- A number below 100, with two digits. -/
def twoDigits (n : ℕ) : List (Fin 10) :=
  [⟨n / 10 % 10, Nat.mod_lt _ (Nat.succ_pos 9)⟩, ⟨n % 10, Nat.mod_lt _ (Nat.succ_pos 9)⟩]

/-- `hhmmss` and anything after it. -/
def UtcTime.text (t : UtcTime) (tail : CString) : CString where
  bytes := digitText (twoDigits t.hour) ++ (digitText (twoDigits t.minute) ++
    (digitText (twoDigits t.second) ++ tail.bytes))
  nul_free := by simp [nul_notMem_digitText, tail.nul_free]

/-- A field that `strtok_r` does not skip. -/
structure Field where
  text : CString
  plain : comma ∉ text.bytes
  ne_nil : text.bytes ≠ []

/-- The body of a ZDA sentence. -/
structure ZdaBody where
  time : UtcTime
  fraction : CString
  fraction_plain : comma ∉ fraction.bytes
  day : Field
  month : Field
  year : Field
  zone : Field
  zmin : Field

def ZdaBody.bytes (z : ZdaBody) : List UInt8 :=
  (z.time.text z.fraction).bytes ++ comma :: (z.day.text.bytes ++ comma ::
    (z.month.text.bytes ++ comma :: (z.year.text.bytes ++ comma ::
      (z.zone.text.bytes ++ comma :: z.zmin.text.bytes))))

/-- The sentence says that the local zone is `zone`. -/
def ZdaBody.Spells (z : ZdaBody) (zone : LocalZone) : Prop :=
  decimalInt z.zone.text = zone.hours ∧ decimalInt z.zmin.text = zone.minutes

/-- The clock runs in a zone. -/
def UsesZone (zone : LocalZone) (s : GpsFix) : Prop :=
  s.zone = zone.hours ∧ s.zmin = zone.minutes

/-- The zone comes from the last ZDA sentence. -/
inductive ZoneInForce (lib : LibraryChoices) (zone : LocalZone) : GpsFix → Prop
  | date {s s' : GpsFix} {z : ZdaBody} {behind : List UInt8} {r : ℤ} : z.Spells zone →
      gpsDateLine lib s (z.bytes ++ 0 :: behind) = .ok (s', r) → ZoneInForce lib zone s'
  | location {s s' : GpsFix} {buf : List UInt8} {r : ℤ} : ZoneInForce lib zone s →
      gpsLocationLine lib s buf = .ok (s', r) → ZoneInForce lib zone s'

/-- **The clock is right** for a UTC time in a zone: a GLL sentence makes it show the
local time, and a ZDA sentence makes it show the same. -/
def LocalTimeRight (lib : LibraryChoices) (zone : LocalZone) (t : UtcTime) : Prop :=
  ∀ s, ZoneInForce lib zone s →
    ∀ (position : Option GllPosition) (gll : GllTime) (tail : CString) (z : ZdaBody)
      (behind behind' : List UInt8),
      gll.time = t.text tail → z.time = t → z.Spells zone →
        ∃ s₁ s₂, gpsLocationLine lib s (gllBytes position gll ++ 0 :: behind) = .ok (s₁, 0) ∧
          gpsDateLine lib s (z.bytes ++ 0 :: behind') = .ok (s₂, 0) ∧
          ShowsTime s₁ (zone.localMinutes t) ∧ s₂.hour = s₁.hour ∧ s₂.minute = s₁.minute

/-! ## Reading a time -/

section Words

variable {lib : LibraryChoices} {s : GpsFix} {behind : List UInt8}

theorem digitsNat_twoDigits {n : ℕ} (small : n < 100) : digitsNat (twoDigits n) = n := by
  show 10 * (10 * 0 + n / 10 % 10) + n % 10 = n
  omega

/-- A word of two digits is read as the number. -/
theorem atoi_twoDigits {word : CString} {n : ℕ} (small : n < 100)
    (spelled : word.bytes = digitText (twoDigits n)) : lib.atoi word = n := by
  rw [atoi_digitText spelled (by decide : 2 ≤ 9), digitsNat_twoDigits small]

theorem UtcTime.atoi_hour (t : UtcTime) (tail : CString) :
    lib.atoi ((t.text tail).take 2) = t.hour :=
  atoi_twoDigits (t.hour_lt.trans (by decide)) rfl

theorem UtcTime.atoi_minute (t : UtcTime) (tail : CString) :
    lib.atoi (((t.text tail).drop 2).take 2) = t.minute :=
  atoi_twoDigits (t.minute_lt.trans (by decide)) rfl

theorem UtcTime.atoi_second (t : UtcTime) (tail : CString) :
    lib.atoi (((t.text tail).drop 4).take 2) = t.second :=
  atoi_twoDigits (t.second_lt.trans (by decide)) rfl

theorem UtcTime.text_length (t : UtcTime) (tail : CString) : 6 ≤ (t.text tail).strlen := by
  show 6 ≤ (digitText _ ++ (digitText _ ++ (digitText _ ++ tail.bytes))).length
  simp only [List.length_append, length_digitText, twoDigits, List.length_cons, List.length_nil]
  omega

theorem UtcTime.plain_text (t : UtcTime) {tail : CString} (plain : comma ∉ tail.bytes) :
    comma ∉ (t.text tail).bytes := by
  have digits : ∀ ds, comma ∉ digitText ds := plain_digitText (by decide)
  show comma ∉ digitText _ ++ (digitText _ ++ (digitText _ ++ tail.bytes))
  simp only [List.mem_append, digits, plain, or_self, not_false_eq_true]

theorem UtcTime.text_ne_nil (t : UtcTime) (tail : CString) : (t.text tail).bytes ≠ [] :=
  List.cons_ne_nil _ _

end Words

/-! ## What the sentences do to the clock -/

section Clock

variable {lib : LibraryChoices} {zone : LocalZone} {s : GpsFix} {behind : List UInt8}

/-- The fix after a ZDA sentence. -/
def dated (lib : LibraryChoices) (z : ZdaBody) (s : GpsFix) : GpsFix :=
  { s with
    hour := (z.time.hour + 10 : ℤ).tmod 24
    minute := z.time.minute
    second := z.time.second
    day := lib.atoi z.day.text
    month := lib.atoi z.month.text
    year := lib.atoi z.year.text
    zone := lib.atoi z.zone.text
    zmin := lib.atoi z.zmin.text }

theorem gpsDateField_time (t : UtcTime) (tail : CString) :
    gpsDateField lib 1 ⟨t.text tail, behind⟩ s = .ok (some
      { s with hour := (t.hour + 10 : ℤ).tmod 24, minute := t.minute, second := t.second }) := by
  obtain ⟨hh, mm, ss⟩ := @copyWord_time behind 30 (t.text tail) (by decide) (t.text_length tail)
  show (copyWord 30 _ 2).bind _ = _
  rw [hh]
  show (copyWord 30 _ 2).bind _ = _
  rw [mm]
  show (copyWord 30 _ 2).map _ = _
  rw [ss, ← t.atoi_hour tail, ← t.atoi_minute tail, ← t.atoi_second tail]
  rfl

/-- **What a ZDA sentence does to the fix.** -/
theorem gpsDateLine_zda (lib : LibraryChoices) (s : GpsFix) (z : ZdaBody) (behind : List UInt8) :
    gpsDateLine lib s (z.bytes ++ 0 :: behind) = .ok (dated lib z s, 0) := by
  have bytes : z.bytes ++ 0 :: behind =
      (z.time.text z.fraction).bytes ++ comma :: (z.day.text.bytes ++ comma ::
        (z.month.text.bytes ++ comma :: (z.year.text.bytes ++ comma ::
          (z.zone.text.bytes ++ comma :: (z.zmin.text.bytes ++ 0 :: behind))))) := by
    simp [ZdaBody.bytes]
  have nonzero : comma ≠ 0 := by decide
  unfold gpsDateLine
  rw [bytes, tokens_field_sep nonzero (z.time.plain_text z.fraction_plain)
      (z.time.text_ne_nil z.fraction),
    tokens_field_sep nonzero z.day.plain z.day.ne_nil,
    tokens_field_sep nonzero z.month.plain z.month.ne_nil,
    tokens_field_sep nonzero z.year.plain z.year.ne_nil,
    tokens_field_sep nonzero z.zone.plain z.zone.ne_nil,
    tokens_field_end z.zmin.plain z.zmin.ne_nil]
  exact sentenceFields_cons (gpsDateField_time z.time z.fraction)

/-- A GLL sentence does not touch the zone. -/
theorem gpsLocationField_zone {fieldpos : ℕ} {field : Token} {s s' : GpsFix}
    (stored : gpsLocationField lib fieldpos field s = .ok (some s')) :
    s'.zone = s.zone ∧ s'.zmin = s.zmin := by
  unfold gpsLocationField at stored
  split at stored
  · obtain ⟨lat, -, stored⟩ := map_eq_ok_iff.mp stored
    obtain ⟨_, -, rfl⟩ := Option.map_eq_some_iff.mp stored
    exact ⟨rfl, rfl⟩
  · cases stored
    split <;> exact ⟨rfl, rfl⟩
  · obtain ⟨lon, -, stored⟩ := map_eq_ok_iff.mp stored
    obtain ⟨_, -, rfl⟩ := Option.map_eq_some_iff.mp stored
    exact ⟨rfl, rfl⟩
  · cases stored
    split <;> exact ⟨rfl, rfl⟩
  · split at stored
    · cases stored
    · obtain ⟨_, -, stored⟩ := bind_eq_ok_iff.mp stored
      obtain ⟨_, -, stored⟩ := bind_eq_ok_iff.mp stored
      obtain ⟨_, -, stored⟩ := map_eq_ok_iff.mp stored
      cases stored
      exact ⟨rfl, rfl⟩
  · cases stored
    exact ⟨rfl, rfl⟩

theorem gpsLocationLine_zone {s s' : GpsFix} {buf : List UInt8} {r : ℤ}
    (ran : gpsLocationLine lib s buf = .ok (s', r)) : s'.zone = s.zone ∧ s'.zmin = s.zmin := by
  have fields : ∀ {fieldpos done ts}, sentenceFields (gpsLocationField lib) s fieldpos done ts =
      .ok (s', r) → s'.zone = s.zone ∧ s'.zmin = s.zmin := by
    intro fieldpos done ts ran
    refine @sentenceFields_keeps (gpsLocationField lib) s s' fieldpos done
      (fun next => next.zone = s.zone ∧ next.zmin = s.zmin) r ?_ ts ⟨rfl, rfl⟩ ran
    intro _ _ next last kept stored
    obtain ⟨zone, zmin⟩ := gpsLocationField_zone stored
    exact ⟨zone.trans kept.1, zmin.trans kept.2⟩
  unfold gpsLocationLine at ran
  split at ran
  · cases ran
  · split at ran
    · split at ran
      · exact fields ran
      · split at ran
        · cases ran
        · cases ran
          exact ⟨rfl, rfl⟩
    · exact fields ran

/-- The numbers of a zone are read as they are. -/
theorem atoi_zone {text : CString} {n : ℤ} (spelled : decimalInt text = n) (low : -60 < n)
    (high : n < 60) : lib.atoi text = n := by
  have fits : IsInt (decimalInt text) := by
    unfold IsInt INT_MIN INT_MAX
    omega
  rw [LibraryChoices.atoi, toInt_atoi fits, spelled]

/-- **The zone that is in force** is the one that the clock uses. -/
theorem ZoneInForce.usesZone (inForce : ZoneInForce lib zone s) : UsesZone zone s := by
  induction inForce with
  | date spells ran =>
      rw [gpsDateLine_zda] at ran
      cases ran
      have low := zone.hours_ge
      have high := zone.hours_le
      exact ⟨atoi_zone spells.1 (by omega) (by omega),
        atoi_zone spells.2 zone.minutes_gt zone.minutes_lt⟩
  | location _ ran ih =>
      obtain ⟨hours, minutes⟩ := gpsLocationLine_zone ran
      exact ⟨hours.trans ih.1, minutes.trans ih.2⟩

/-- The clock after a GLL sentence. -/
theorem timed_text (uses : UsesZone zone s) (t : UtcTime) (tail : CString) :
    (timed lib (t.text tail) s).hour = (t.hour + zone.hours).tmod 24 ∧
      (timed lib (t.text tail) s).minute = (t.minute + zone.minutes).tmod 60 := by
  obtain ⟨hours, minutes⟩ := uses
  constructor
  · show (lib.atoi ((t.text tail).take 2) + s.zone).tmod 24 = _
    rw [t.atoi_hour, hours]
  · show (lib.atoi (((t.text tail).drop 2).take 2) + s.zmin).tmod 60 = _
    rw [t.atoi_minute, minutes]

end Clock

/-! ## When the clock is right -/

section Right

variable {lib : LibraryChoices} {zone : LocalZone} {t : UtcTime}

/-- C's remainder. -/
theorem tmod_eq (x n : ℤ) : x.tmod n = if 0 ≤ x then x % n else - (- x % n) := by
  split
  · next nonneg => exact Int.tmod_eq_emod_of_nonneg nonneg
  · next negative =>
    rw [← Int.tmod_eq_emod_of_nonneg (show 0 ≤ -x by omega), Int.neg_tmod, neg_neg]

/-- **When a GLL sentence makes the clock show the local time**: hours and minutes
each stay in their range, except that the next day may be reached. -/
theorem timed_showsTime_iff {s : GpsFix} (uses : UsesZone zone s) (tail : CString) :
    ShowsTime (timed lib (t.text tail) s) (zone.localMinutes t) ↔
      0 ≤ t.hour + zone.hours ∧ 0 ≤ t.minute + zone.minutes ∧ t.minute + zone.minutes < 60 := by
  obtain ⟨hour, minute⟩ := timed_text uses t tail
  have hours := tmod_eq (t.hour + zone.hours) 24
  have minutes := tmod_eq (t.minute + zone.minutes) 60
  have hour_lt := t.hour_lt
  have minute_lt := t.minute_lt
  obtain ⟨hours_ge, hours_le, minutes_gt, minutes_lt⟩ := zone.ranges
  constructor
  · rintro ⟨total, hourNonneg, hourLt, minuteNonneg, minuteLt⟩
    rw [hour, minute] at total
    rw [hour] at hourNonneg
    rw [minute] at minuteNonneg
    unfold LocalZone.localMinutes at total
    -- a negative sum leaves its range, and a minute beyond 59 is an hour short
    split at hours <;> split at minutes <;> omega
  · rintro ⟨hourNonneg, minuteNonneg, minuteLt⟩
    rw [if_pos hourNonneg] at hours
    rw [if_pos minuteNonneg] at minutes
    have total : (t.hour + zone.hours) % 24 * 60 + (t.minute + zone.minutes) % 60 =
        zone.localMinutes t := by
      unfold LocalZone.localMinutes
      omega
    rw [← hours, ← minutes, ← hour, ← minute] at total
    constructor
    · exact total
    all_goals omega

/-- **When both sentences make the clock show the same.** -/
theorem clocks_agree_iff {s : GpsFix} (uses : UsesZone zone s) (tail : CString) :
    (t.hour + 10 : ℤ).tmod 24 = (timed lib (t.text tail) s).hour ∧
        (t.minute : ℤ) = (timed lib (t.text tail) s).minute ↔
      zone.hours = 10 ∧ zone.minutes = 0 := by
  obtain ⟨hour, minute⟩ := timed_text uses t tail
  have ten := tmod_eq (t.hour + 10) 24
  have hours := tmod_eq (t.hour + zone.hours) 24
  have minutes := tmod_eq (t.minute + zone.minutes) 60
  rw [if_pos (by omega)] at ten
  have hour_lt := t.hour_lt
  have minute_lt := t.minute_lt
  obtain ⟨hours_ge, hours_le, minutes_gt, minutes_lt⟩ := zone.ranges
  rw [hour, minute]
  -- +10:00 and -14:00 are the same clock, and the second is no zone
  split at hours <;> split at minutes <;> omega

/-- A field that spells a number. -/
theorem exists_field (n : ℤ) : ∃ field : Field, decimalInt field.text = n := by
  refine ⟨⟨decimalText n, ?_, ?_⟩, decimalInt_decimalText n⟩
  · have digits : comma ∉ digitText (decimalDigits n.natAbs) := plain_digitText (by decide) _
    show comma ∉ (if decide (n < 0) then [45] else []) ++ digitText (decimalDigits n.natAbs)
    cases decide (n < 0) <;> simpa [comma] using digits
  · intro none
    obtain ⟨-, digits⟩ := List.append_eq_nil_iff.mp none
    exact decimalDigits_ne_nil _ (List.map_eq_nil_iff.mp digits)

/-- There is a sentence for every time and zone. -/
theorem exists_zda (t : UtcTime) (zone : LocalZone) :
    ∃ z : ZdaBody, z.time = t ∧ z.Spells zone := by
  obtain ⟨hours, hoursSpelled⟩ := exists_field zone.hours
  obtain ⟨minutes, minutesSpelled⟩ := exists_field zone.minutes
  exact ⟨⟨t, .empty, List.not_mem_nil, hours, hours, hours, hours, minutes⟩, rfl, hoursSpelled,
    minutesSpelled⟩

/-- What a clock that is right does, in a zone that is in force. -/
theorem LocalTimeRight.clock (right : LocalTimeRight lib zone t) :
    ∃ s, UsesZone zone s ∧
      ShowsTime (timed lib (t.text .empty) s) (zone.localMinutes t) ∧
      (t.hour + 10 : ℤ).tmod 24 = (timed lib (t.text .empty) s).hour ∧
      (t.minute : ℤ) = (timed lib (t.text .empty) s).minute := by
  obtain ⟨z, time, spells⟩ := exists_zda t zone
  let start : GpsFix := ⟨0, 0, 0, 0, 0, 0, 0, 0, 0, 0⟩
  have inForce : ZoneInForce lib zone (dated lib z start) :=
    .date spells (gpsDateLine_zda lib start z [])
  let gll : GllTime := ⟨t.text .empty, t.plain_text List.not_mem_nil, t.text_length .empty, .empty⟩
  obtain ⟨s₁, s₂, located, again, shows, hour, minute⟩ :=
    right _ inForce none gll .empty z [] [] rfl time spells
  rw [gpsLocationLine_gll] at located
  rw [gpsDateLine_zda] at again
  cases located
  cases again
  subst time
  exact ⟨_, inForce.usesZone, shows, hour, minute⟩

/-- **When the clock is right**: ten hours east of UTC. -/
theorem localTimeRight_iff (lib : LibraryChoices) (zone : LocalZone) (t : UtcTime) :
    LocalTimeRight lib zone t ↔ zone.hours = 10 ∧ zone.minutes = 0 := by
  constructor
  · intro right
    obtain ⟨s, uses, -, agree⟩ := right.clock
    exact (clocks_agree_iff uses .empty).mp agree
  · rintro ⟨ten, none⟩ s inForce position gll tail z behind behind' gllTime time -
    subst time
    -- the position is decoded first, and leaves the zone as it is
    have uses : UsesZone zone ((position.map fun p => located p s).getD s) := by
      cases position with
      | none => exact inForce.usesZone
      | some p => exact inForce.usesZone
    refine ⟨_, _, gpsLocationLine_gll lib s position gll behind, gpsDateLine_zda lib s z behind',
      ?_, ?_⟩
    · rw [gllTime, timed_showsTime_iff uses]
      have := z.time.minute_lt
      omega
    · rw [gllTime]
      exact (clocks_agree_iff uses tail).mpr ⟨ten, none⟩

/-- **Five and a half hours east of UTC**, 18:45 is after midnight; the clock shows 23:15. -/
theorem halfHourZone_not_localTimeRight :
    ¬ LocalTimeRight ⟨fun _ => 0, fun _ => none⟩
      ⟨5, 30, by decide, by decide, by decide, by decide, by decide⟩
      ⟨18, 45, 0, by decide, by decide, by decide⟩ := by
  intro right
  obtain ⟨s, uses, shows, -⟩ := right.clock
  have ranges := (timed_showsTime_iff uses .empty).mp shows
  exact absurd ranges (by decide)

end Right

end Ztacx.Gps
