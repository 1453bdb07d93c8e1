import Mathlib.Data.Rat.Floor
import Mathlib.Tactic.Linarith
import Mathlib.Tactic.NormNum
import Mathlib.Tactic.Ring
import Ztacx.CModel.Decimal

/-!
# The text of a position

`fmt_location_str` with its `double` arithmetic read as exact arithmetic of
rational numbers.  A coordinate is taken apart into whole degrees and the first
eight digits of the fraction (`splitDegrees`), and the two are printed as an
integer, a point and an integer.

The digits are always those of the coordinate (`splitDegrees_digits`), and the
text fits (`fmtLocationStr_eq`).  The sign is printed with the whole degrees
alone, so between 0 and -1, where these are zero, it is lost (`LosesSign`), and
those are the only positions that are not read back (`locationReadsBack_iff`).
-/

namespace Ztacx.Gps

open CModel

/-! ## The code -/

/-- The conversion of a `double` to an `int`, which drops the fraction. -/
def toInt (x : ℚ) : ℤ := if x < 0 then ⌈x⌉ else ⌊x⌋

/-- The conversion of an `int` to a `size_t`. -/
def sizeT (n : ℤ) : ℕ := (n % 2 ^ 32).toNat

/-- `lat_i` and `latf_i`, and `lon_i` and `lonf_i`. -/
def splitDegrees (degrees : ℚ) : ℤ × ℤ :=
  let whole := toInt degrees
  let fraction := degrees - whole
  let fraction := if fraction < 0 then -fraction else fraction
  (whole, toInt (fraction * 10 ^ 8))

/-- `%d.%08d` -/
def degreesText (parts : ℤ × ℤ) : CString :=
  (decimalText parts.1).append ((CString.ofString ".").append (zeroPaddedText 8 parts.2))

def latitudeText (lat : ℚ) : CString :=
  (CString.ofString "[").append (degreesText (splitDegrees lat))

def longitudeText (lon : ℚ) : CString :=
  (CString.ofString ",").append ((degreesText (splitDegrees lon)).append (CString.ofString "]"))

/-- The buffer after the call and the value returned. -/
def fmtLocationStr (buf : List UInt8) (bufMax : ℤ) (lat1 lon1 : ℚ) :
    Except Fault (List UInt8 × ℕ) :=
  (snprintfInto buf 0 (sizeT bufMax) (latitudeText lat1)).bind fun (buf, sz) =>
    (snprintfInto buf sz (sizeT (bufMax - sz)) (longitudeText lon1)).bind fun (buf, more) =>
      .ok (buf, sz + more)

/-! ## Reading it back -/

/-- A position in degrees. -/
structure LocationFix where
  lat : ℚ
  lon : ℚ
  neg_le_lat : -90 ≤ lat
  lat_le : lat ≤ 90
  neg_le_lon : -180 ≤ lon
  lon_le : lon ≤ 180

/-- A numeral with a point and perhaps a sign, which is that of the whole number. -/
def signedDecimal (numeral : List UInt8) : Option ℚ :=
  (plainDecimal (CString.ofBytes (sign numeral).2)).map fun x =>
    if (sign numeral).1 then -x else x

/-- Two signed numerals in brackets, with a comma between them. -/
def readLocation (text : CString) : Option (ℚ × ℚ) :=
  match text.bytes with
  | 91 :: inner =>
    match inner.takeWhile (· ≠ 44), inner.dropWhile (· ≠ 44) with
    | lat, 44 :: rest =>
      if rest.getLast? = some 93 then
        (signedDecimal lat).bind fun lat => (signedDecimal rest.dropLast).map fun lon => (lat, lon)
      else none
    | _, _ => none
  | _ => none

/-- A number of degrees cut off behind the eighth digit of its fraction. -/
def truncated (degrees : ℚ) : ℚ := toInt (degrees * 10 ^ 8) / 10 ^ 8

/-- A buffer of 32 bytes holds the text to its end, and the text says where the
position is. -/
def LocationReadsBack (p : LocationFix) : Prop :=
  ∀ buf : List UInt8, buf.length = 32 → ∃ buf' text,
    fmtLocationStr buf 32 p.lat p.lon = .ok (buf', text.strlen) ∧ readCString buf' = .ok text ∧
      readLocation text = some (truncated p.lat, truncated p.lon)

/-! ## The parts of a coordinate -/

/-- The digits of a number of degrees, without its sign. -/
def magnitude (degrees : ℚ) : ℚ := ⌊|degrees| * 10 ^ 8⌋ / 10 ^ 8

theorem toInt_of_nonneg {x : ℚ} (h : 0 ≤ x) : toInt x = ⌊|x|⌋ := by
  rw [toInt, if_neg (not_lt.mpr h), abs_of_nonneg h]

theorem toInt_of_neg {x : ℚ} (h : x < 0) : toInt x = -⌊|x|⌋ := by
  rw [toInt, if_pos h, abs_of_neg h, Int.floor_neg, neg_neg]

/-- The sign is kept as long as there is a whole degree. -/
theorem toInt_neg_iff {x : ℚ} : toInt x < 0 ↔ x ≤ -1 := by
  rcases lt_or_ge x 0 with h | h
  · rw [toInt_of_neg h, neg_lt_zero, Int.floor_pos, abs_of_neg h]
    exact le_neg
  · rw [toInt_of_nonneg h, abs_of_nonneg h]
    have whole := Int.floor_nonneg.mpr h
    constructor <;> intro <;> linarith

theorem natAbs_toInt (x : ℚ) : ((toInt x).natAbs : ℤ) = ⌊|x|⌋ := by
  have whole := Int.floor_nonneg.mpr (abs_nonneg x)
  rcases lt_or_ge x 0 with h | h
  · rw [toInt_of_neg h, Int.natAbs_neg, Int.natAbs_of_nonneg whole]
  · rw [toInt_of_nonneg h, Int.natAbs_of_nonneg whole]

/-- The fraction is taken without its sign. -/
theorem splitDegrees_eq (x : ℚ) : splitDegrees x = (toInt x, ⌊Int.fract |x| * 10 ^ 8⌋) := by
  have fraction : (if x - toInt x < 0 then -(x - toInt x) else x - toInt x) = Int.fract |x| := by
    have part := Int.fract_nonneg |x|
    rw [Int.fract] at part ⊢
    rcases lt_or_ge x 0 with h | h
    · rw [toInt_of_neg h]
      rw [abs_of_neg h] at part ⊢
      push_cast
      split <;> linarith
    · rw [toInt_of_nonneg h]
      rw [abs_of_nonneg h] at part ⊢
      rw [if_neg (by linarith)]
  have positive : 0 ≤ Int.fract |x| * 10 ^ 8 := mul_nonneg (Int.fract_nonneg _) (by norm_num)
  rw [splitDegrees]
  simp only [fraction]
  rw [toInt_of_nonneg positive, abs_of_nonneg positive]

theorem splitDegrees_snd_nonneg (x : ℚ) : 0 ≤ (splitDegrees x).2 := by
  rw [splitDegrees_eq]
  exact Int.floor_nonneg.mpr (mul_nonneg (Int.fract_nonneg _) (by norm_num))

/-- **The printed digits are those of the coordinate.** -/
theorem splitDegrees_digits (x : ℚ) :
    ((splitDegrees x).1.natAbs : ℚ) + (splitDegrees x).2 / 10 ^ 8 = magnitude x := by
  have scaled : |x| * 10 ^ 8 = Int.fract |x| * 10 ^ 8 + ((⌊|x|⌋ * 10 ^ 8 : ℤ) : ℚ) := by
    rw [Int.fract]
    push_cast
    ring
  have whole : ((toInt x).natAbs : ℚ) = ⌊|x|⌋ := by
    rw [← Int.cast_natCast, natAbs_toInt]
  rw [splitDegrees_eq, magnitude, scaled, Int.floor_add_intCast]
  simp only [whole]
  push_cast
  ring

theorem truncated_eq (x : ℚ) : truncated x = if x < 0 then -magnitude x else magnitude x := by
  have scale : (0 : ℚ) < 10 ^ 8 := by norm_num
  have size : |x * 10 ^ 8| = |x| * 10 ^ 8 := by rw [abs_mul, abs_of_pos scale]
  rw [truncated, magnitude]
  split
  · next h =>
    rw [toInt_of_neg (mul_neg_of_neg_of_pos h scale), size]
    push_cast
    ring
  · next h => rw [toInt_of_nonneg (mul_nonneg (not_lt.mp h) scale.le), size]

/-- A fraction of a degree to the south or the west. -/
def LosesSign (degrees : ℚ) : Prop := -1 < degrees ∧ degrees ≤ -1 / 10 ^ 8

/-- The sign matters where there are digits. -/
theorem magnitude_eq_zero_iff {x : ℚ} (h : x < 0) : magnitude x = 0 ↔ -1 / 10 ^ 8 < x := by
  have scale : (10 : ℚ) ^ 8 ≠ 0 := by norm_num
  rw [magnitude, div_eq_zero_iff, or_iff_left scale, Int.cast_eq_zero, Int.floor_eq_zero_iff,
    abs_of_neg h, Set.mem_Ico]
  constructor
  · rintro ⟨-, small⟩
    linarith
  · intro small
    exact ⟨by linarith, by linarith⟩

theorem signed_magnitude_iff (x : ℚ) :
    (if toInt x < 0 then -magnitude x else magnitude x) = truncated x ↔ ¬ LosesSign x := by
  simp only [truncated_eq, toInt_neg_iff, LosesSign]
  by_cases whole : x ≤ -1
  · rw [if_pos whole, if_pos (by linarith)]
    simp [whole]
  · rw [if_neg whole]
    by_cases negative : x < 0
    · rw [if_pos negative, self_eq_neg, magnitude_eq_zero_iff negative]
      simp [not_le.mp whole]
    · rw [if_neg negative]
      refine iff_of_true rfl fun lost => negative ?_
      linarith [lost.2]

/-! ## The text of a coordinate -/

/-- A numeral as it is printed is read with its sign. -/
theorem signedDecimal_text (minus : Bool) {whole : List (Fin 10)} (some : whole ≠ [])
    (fraction : List (Fin 10)) :
    signedDecimal ((signedText minus whole).bytes ++ 46 :: digitText fraction) =
      .some (if minus then -digitsRat whole fraction else digitsRat whole fraction) := by
  let plain : CString := ⟨digitText whole ++ 46 :: digitText fraction, by
    simp [nul_notMem_digitText]⟩
  have start : sign ((signedText minus whole).bytes ++ 46 :: digitText fraction) =
      (minus, plain.bytes) := by
    cases minus with
    | true => rfl
    | false => exact sign_digitText_append some _
  have value : plainDecimal plain = .some (digitsRat whole fraction) := by
    have scanned : scanDouble (fun _ => none) plain = .some (digitsRat whole fraction) :=
      scanDouble_of_digits _ rfl some
    rwa [scanDouble, Option.or_none] at scanned
  rw [signedDecimal, start]
  show (plainDecimal (CString.ofBytes plain.bytes)).map _ = _
  rw [CString.ofBytes_bytes, value]
  rfl

/-- The fraction is printed with eight digits and without a sign. -/
theorem degreesText_bytes (x : ℚ) :
    (degreesText (splitDegrees x)).bytes =
      (signedText (toInt x < 0) (decimalDigits (toInt x).natAbs)).bytes ++
        46 :: digitText (zeroPaddedDigits 8 (splitDegrees x).2.natAbs) := by
  have positive : ¬ (splitDegrees x).2 < 0 := not_lt.mpr (splitDegrees_snd_nonneg x)
  rw [degreesText, zeroPaddedText, decimalText, if_neg positive, decide_eq_false positive]
  rfl

theorem fraction_lt (x : ℚ) : (splitDegrees x).2.natAbs < 10 ^ 8 := by
  have part := Int.fract_lt_one |x|
  have small : ⌊Int.fract |x| * 10 ^ 8⌋ < 10 ^ 8 := by
    rw [Int.floor_lt]
    push_cast
    linarith
  have positive := splitDegrees_snd_nonneg x
  rw [splitDegrees_eq] at positive ⊢
  show ⌊Int.fract |x| * 10 ^ 8⌋.natAbs < 10 ^ 8
  omega

/-- **A coordinate reads as its digits with the sign of its whole degrees.** -/
theorem signedDecimal_degreesText (x : ℚ) :
    signedDecimal (degreesText (splitDegrees x)).bytes =
      some (if toInt x < 0 then -magnitude x else magnitude x) := by
  have value : digitsRat (decimalDigits (toInt x).natAbs)
      (zeroPaddedDigits 8 (splitDegrees x).2.natAbs) = magnitude x := by
    have fraction : ((splitDegrees x).2.natAbs : ℚ) = (splitDegrees x).2 := by
      rw [← Int.cast_natCast, Int.natAbs_of_nonneg (splitDegrees_snd_nonneg x)]
    rw [← splitDegrees_digits, digitsRat, digitsNat_decimalDigits, digitsNat_zeroPaddedDigits,
      length_zeroPaddedDigits (by decide) (fraction_lt x), fraction]
    rfl
  rw [degreesText_bytes, signedDecimal_text _ (decimalDigits_ne_nil _), value]
  simp

theorem latitudeText_bytes (lat : ℚ) :
    (latitudeText lat).bytes = 91 :: (degreesText (splitDegrees lat)).bytes := rfl

theorem longitudeText_bytes (lon : ℚ) :
    (longitudeText lon).bytes = 44 :: ((degreesText (splitDegrees lon)).bytes ++ [93]) := rfl

theorem length_degreesText {x : ℚ} (h : |x| ≤ 180) :
    (degreesText (splitDegrees x)).strlen ≤ 13 := by
  have bound : (toInt x).natAbs < 10 ^ 3 := by
    have floor : ⌊|x|⌋ ≤ 180 := by
      have le := Int.floor_mono h
      simpa using le
    have whole := natAbs_toInt x
    omega
  have digits := length_decimalDigits_le (by decide) bound
  have front : (signedText (toInt x < 0) (decimalDigits (toInt x).natAbs)).bytes.length ≤ 4 := by
    rw [signedText, List.length_append, length_digitText]
    split <;> simp <;> omega
  rw [CString.strlen, degreesText_bytes, List.length_append, List.length_cons, length_digitText,
    length_zeroPaddedDigits (by decide) (fraction_lt x)]
  omega

theorem length_latitudeText {x : ℚ} (h : |x| ≤ 180) : (latitudeText x).strlen ≤ 14 := by
  have piece := length_degreesText h
  rw [CString.strlen] at piece ⊢
  rw [latitudeText_bytes, List.length_cons]
  omega

theorem length_longitudeText {x : ℚ} (h : |x| ≤ 180) : (longitudeText x).strlen ≤ 15 := by
  have piece := length_degreesText h
  rw [CString.strlen] at piece ⊢
  rw [longitudeText_bytes, List.length_cons, List.length_append, List.length_singleton]
  omega

theorem comma_notMem_degreesText (x : ℚ) : 44 ∉ (degreesText (splitDegrees x)).bytes := by
  have digits : ∀ ds : List (Fin 10), 44 ∉ digitText ds := plain_digitText (by decide)
  rw [degreesText_bytes, signedText]
  split <;> simp [digits]

/-! ## The whole text -/

/-- `[lat,lon]` -/
def locationText (lat lon : ℚ) : CString := (latitudeText lat).append (longitudeText lon)

theorem readLocation_locationText (lat lon : ℚ) :
    readLocation (locationText lat lon) =
      some (if toInt lat < 0 then -magnitude lat else magnitude lat,
        if toInt lon < 0 then -magnitude lon else magnitude lon) := by
  have split : (locationText lat lon).bytes = 91 :: ((degreesText (splitDegrees lat)).bytes ++
      44 :: ((degreesText (splitDegrees lon)).bytes ++ [93])) := by
    rw [locationText, CString.append_bytes, latitudeText_bytes, longitudeText_bytes]
    rfl
  have plain : ∀ b ∈ (degreesText (splitDegrees lat)).bytes, decide (b ≠ 44) = true := by
    intro b mem
    exact decide_eq_true fun comma => comma_notMem_degreesText lat (comma ▸ mem)
  have front : ((degreesText (splitDegrees lat)).bytes ++
      44 :: ((degreesText (splitDegrees lon)).bytes ++ [93])).takeWhile (· ≠ 44) =
        (degreesText (splitDegrees lat)).bytes := by
    rw [List.takeWhile_append_of_pos plain, List.takeWhile_cons_of_neg (by decide),
      List.append_nil]
  have back : ((degreesText (splitDegrees lat)).bytes ++
      44 :: ((degreesText (splitDegrees lon)).bytes ++ [93])).dropWhile (· ≠ 44) =
        44 :: ((degreesText (splitDegrees lon)).bytes ++ [93]) := by
    rw [List.dropWhile_append_of_pos plain, List.dropWhile_cons_of_neg (by decide)]
  rw [readLocation, split]
  simp only [front, back]
  rw [if_pos (by simp), List.dropLast_concat, signedDecimal_degreesText,
    signedDecimal_degreesText]
  rfl

/-- **Both pieces fit the buffer.** -/
theorem fmtLocationStr_eq {buf : List UInt8} (size : buf.length = 32) {lat lon : ℚ}
    (hlat : |lat| ≤ 180) (hlon : |lon| ≤ 180) :
    ∃ rest, fmtLocationStr buf 32 lat lon =
      .ok ((locationText lat lon).stored ++ rest, (locationText lat lon).strlen) := by
  have latSize := length_latitudeText hlat
  have lonSize := length_longitudeText hlon
  have left : sizeT (32 - (latitudeText lat).strlen) = 32 - (latitudeText lat).strlen := by
    rw [sizeT]
    omega
  have first : snprintfInto buf 0 (sizeT 32) (latitudeText lat) =
      .ok ((latitudeText lat).bytes ++ 0 :: buf.drop (latitudeText lat).stored.length,
        (latitudeText lat).strlen) := by
    rw [snprintfInto_of_lt (by rw [size]; decide) (by show _ < 32; omega), splice_zero,
      CString.stored, List.append_assoc]
    rfl
  have room : ((latitudeText lat).bytes ++ 0 :: buf.drop (latitudeText lat).stored.length).length =
      32 := by
    have stored : (latitudeText lat).stored.length = (latitudeText lat).strlen + 1 :=
      List.length_append
    rw [List.length_append, List.length_cons, List.length_drop, stored, size]
    show (latitudeText lat).strlen + _ = 32
    omega
  refine ⟨(0 :: buf.drop (latitudeText lat).stored.length).drop
    (longitudeText lon).stored.length, ?_⟩
  rw [fmtLocationStr, first]
  show (snprintfInto _ _ (sizeT (32 - (latitudeText lat).strlen)) _).bind _ = _
  have stored : (locationText lat lon).stored =
      (latitudeText lat).bytes ++ (longitudeText lon).stored := List.append_assoc ..
  have whole : (locationText lat lon).strlen =
      (latitudeText lat).strlen + (longitudeText lon).strlen := List.length_append
  rw [snprintfInto_of_lt (by rw [room, left]; omega) (by rw [left]; omega), stored, whole,
    CString.strlen, splice_append_left, List.append_assoc]
  rfl

theorem locationReadsBack_iff_read (p : LocationFix) :
    LocationReadsBack p ↔
      readLocation (locationText p.lat p.lon) = some (truncated p.lat, truncated p.lon) := by
  have hlat : |p.lat| ≤ 180 := abs_le.mpr ⟨by linarith [p.neg_le_lat], by linarith [p.lat_le]⟩
  have hlon : |p.lon| ≤ 180 := abs_le.mpr ⟨p.neg_le_lon, p.lon_le⟩
  have held : ∀ rest, readCString ((locationText p.lat p.lon).stored ++ rest) =
      .ok (locationText p.lat p.lon) := by
    intro rest
    rw [readCString, if_pos (by simp [CString.stored]), CString.stored, List.append_assoc]
    exact congrArg Except.ok (CString.ofBytes_append_nul _ _)
  constructor
  · intro back
    have size : (List.replicate 32 (0 : UInt8)).length = 32 := List.length_replicate
    obtain ⟨rest, written⟩ := fmtLocationStr_eq size hlat hlon
    obtain ⟨buf', text, whole, same, read⟩ := back _ size
    obtain ⟨rfl, -⟩ := Prod.mk.inj (Except.ok.inj (written.symm.trans whole))
    rw [held] at same
    rw [Except.ok.inj same]
    exact read
  · intro read buf size
    obtain ⟨rest, written⟩ := fmtLocationStr_eq size hlat hlon
    exact ⟨_, _, written, held rest, read⟩

theorem locationReadsBack_iff (p : LocationFix) :
    LocationReadsBack p ↔ ¬ LosesSign p.lat ∧ ¬ LosesSign p.lon := by
  rw [locationReadsBack_iff_read, readLocation_locationText, Option.some_inj, Prod.mk.injEq,
    signed_magnitude_iff, signed_magnitude_iff]

/-- Half a degree to the south. -/
def southernFix : LocationFix := ⟨-1 / 2, 0, by norm_num, by norm_num, by norm_num, by norm_num⟩

/-- It is printed as half a degree to the north. -/
theorem southernFix_not_readsBack :
    locationText southernFix.lat southernFix.lon = CString.ofString "[0.50000000,0.00000000]" ∧
      ¬ LocationReadsBack southernFix := by
  have text : locationText southernFix.lat southernFix.lon =
      CString.ofString "[0.50000000,0.00000000]" := by decide +kernel
  refine ⟨text, fun back => ?_⟩
  rw [locationReadsBack_iff_read, text] at back
  revert back
  decide +kernel

end Ztacx.Gps
