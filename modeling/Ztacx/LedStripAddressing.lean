import Ztacx.CModel.Decimal
import Ztacx.LedStrip

/-!
# Addressing the pixels of the LED strip

The shell commands `set` and `rgb` take the index of a pixel or the word `all`, and
hand it on to `ztacx_led_strip_set`.  Both check it, and the two checks differ by
one: the command lets the number of pixels itself through, which the function then
refuses, so that nothing is painted where the comment promises pixel 0.

`ztacx_led_strip_set` accepts -1 for all pixels and then writes to index -1 in each
round of its loop; the commands do not use this, since they loop themselves.

Everything else is addressed as it should be (`addressed_iff`).
-/

namespace Ztacx

open CModel

/-! ## The commands -/

/-- `all` -/
def allPixels : CString := .ofString "all"

/-- The local `pos` of the two commands on a strip of `n` pixels. -/
def ledStripPos (atoi : CString → BitVec 32) (n : ℕ) (index : CString) : ℤ :=
  if index = allPixels then -1
  else
    let pos := (atoi index).toInt
    -- invalid index, just use zero (lazy)
    if pos < 0 ∨ n < pos then 0 else pos

/-- What the two commands do with a position and a colour. -/
def ledStripPaint (pixels : List LedRgb) (pos : ℤ) (color : LedRgb) :
    Except Fault (List LedRgb) :=
  if pos < 0 then
    (List.range pixels.length).foldlM (fun pixels (p : ℕ) => ztacxLedStripSet pixels p color)
      pixels
  else ztacxLedStripSet pixels pos color

/-- `cmd_ztacx_led_strip` with the arguments `set index color`; `stack` is what the
local `color` holds before it is parsed. -/
def cmdLedStripSet (atoi : CString → BitVec 32) (pixels : List LedRgb) (stack : LedRgb)
    (index color : CString) : Except Fault (List LedRgb) :=
  let pos := ledStripPos atoi pixels.length index
  let parsed := colorParse atoi color stack
  if parsed.2 = 0 then ledStripPaint pixels pos parsed.1 else .ok pixels

/-- `cmd_ztacx_led_strip` with the arguments `rgb index r g b`. -/
def cmdLedStripRgb (atoi : CString → BitVec 32) (pixels : List LedRgb) (index r g b : CString) :
    Except Fault (List LedRgb) :=
  ledStripPaint pixels (ledStripPos atoi pixels.length index)
    ⟨lowByte (atoi r), lowByte (atoi g), lowByte (atoi b)⟩

/-! ## What they should do -/

/-- The number of pixels of a strip. -/
structure StripLength where
  pixels : ℕ
  one_le : 1 ≤ pixels
  le_intMax : pixels ≤ INT_MAX

/-- An index of a command, or a position in a call of `ztacx_led_strip_set`. -/
inductive StripAddress
  | index (text : CString)
  | position (pos : ℤ)
deriving DecidableEq

/-- The pixels once an index has taken a colour: its own pixel, every one for `all`,
and pixel 0 for any other number. -/
def paintedIndex (pixels : List LedRgb) (index : CString) (color : LedRgb) : List LedRgb :=
  if index = allPixels then List.replicate pixels.length color
  else if 0 ≤ decimalInt index ∧ decimalInt index < pixels.length then
    pixels.set (decimalInt index).toNat color
  else pixels.set 0 color

/-- The pixels once a position has taken a colour. -/
def paintedPosition (pixels : List LedRgb) (pos : ℤ) (color : LedRgb) : List LedRgb :=
  if pos = -1 then List.replicate pixels.length color else pixels.set pos.toNat color

/-- On every strip of this length an address paints what it denotes. -/
def Addressed (atoi : CString → BitVec 32) (n : StripLength) : StripAddress → Prop
  | .index text =>
    (∀ pixels stack c color, pixels.length = n.pixels →
      colorParse atoi c stack = (color, 0) →
        cmdLedStripSet atoi pixels stack text c = .ok (paintedIndex pixels text color)) ∧
    ∀ pixels r g b, pixels.length = n.pixels →
      cmdLedStripRgb atoi pixels text r g b =
        .ok (paintedIndex pixels text ⟨lowByte (atoi r), lowByte (atoi g), lowByte (atoi b)⟩)
  | .position pos => -1 ≤ pos → pos < n.pixels → ∀ pixels color, pixels.length = n.pixels →
      ztacxLedStripSet pixels pos color = .ok (paintedPosition pixels pos color)

/-! ## What they do -/

section Paint

variable {pixels : List LedRgb} {color : LedRgb}

theorem ztacxLedStripSet_of_lt {p : ℕ} (inside : p < pixels.length) :
    ztacxLedStripSet pixels p color = .ok (pixels.set p color) := by
  rw [ztacxLedStripSet, if_neg (by omega), if_neg (by omega), Int.toNat_natCast]

/-- A position that is refused is no fault. -/
theorem ztacxLedStripSet_of_ge {pos : ℤ} (outside : pixels.length ≤ pos) :
    ztacxLedStripSet pixels pos color = .ok pixels := if_pos (Or.inr outside)

/-- The loop over the pixels, one after another from the front. -/
theorem foldlM_ztacxLedStripSet {k : ℕ} (le : k ≤ pixels.length) :
    (List.range k).foldlM (fun pixels (p : ℕ) => ztacxLedStripSet pixels p color) pixels =
      .ok (List.replicate k color ++ pixels.drop k) := by
  induction k with
  | zero => rfl
  | succ k ih =>
      have inside : k < (List.replicate k color ++ pixels.drop k).length := by
        rw [List.length_append, List.length_replicate, List.length_drop]
        omega
      rw [List.range_succ, List.foldlM_append, ih (by omega)]
      show (ztacxLedStripSet _ (k : ℕ) color).bind _ = _
      rw [ztacxLedStripSet_of_lt inside]
      show Except.ok _ = _
      rw [List.set_append_right _ _ (by simp), List.length_replicate, Nat.sub_self,
        List.drop_eq_getElem_cons (by omega), List.set_cons_zero, List.replicate_succ',
        List.append_assoc]
      rfl

theorem ledStripPaint_all : ledStripPaint pixels (-1) color =
    .ok (List.replicate pixels.length color) := by
  rw [ledStripPaint, if_pos (by decide), foldlM_ztacxLedStripSet le_rfl, List.drop_length,
    List.append_nil]

theorem ledStripPaint_of_nonneg {pos : ℤ} (nonneg : 0 ≤ pos) :
    ledStripPaint pixels pos color = ztacxLedStripSet pixels pos color := if_neg (by omega)

end Paint

/-! ## What is not addressed -/

/-- The index is the number of pixels, or a number that is no `int` and that `atoi`
takes for one from 1 to the number of pixels; or the position is -1. -/
def Misaddressed (overflow : CString → BitVec 32) (n : StripLength) : StripAddress → Prop
  | .index text => text ≠ allPixels ∧ (decimalInt text = n.pixels ∨
      ¬ IsInt (decimalInt text) ∧ 1 ≤ (overflow text).toInt ∧
        (overflow text).toInt ≤ n.pixels)
  | .position pos => pos = -1

section Index

variable {overflow : CString → BitVec 32} {n : StripLength} {text : CString}
  {pixels : List LedRgb}

theorem toInt_atoi_of_not_isInt (wide : ¬ IsInt (decimalInt text)) :
    (atoi overflow text).toInt = (overflow text).toInt := by
  rw [atoi, if_neg wide]

/-- A number that is no `int` is the index of no pixel. -/
theorem not_pixel_of_not_isInt (n : StripLength) (wide : ¬ IsInt (decimalInt text)) :
    ¬ (0 ≤ decimalInt text ∧ decimalInt text < n.pixels) := by
  rintro ⟨nonneg, below⟩
  have le := n.le_intMax
  refine wide ⟨?_, by omega⟩
  exact le_trans (by decide) nonneg

/-- **The index paints its pixel.** -/
theorem ledStripPaint_index (length : pixels.length = n.pixels) (color : LedRgb)
    (good : ¬ Misaddressed overflow n (.index text)) :
    ledStripPaint pixels (ledStripPos (atoi overflow) pixels.length text) color =
      .ok (paintedIndex pixels text color) := by
  have one := n.one_le
  by_cases all : text = allPixels
  · rw [ledStripPos, if_pos all, ledStripPaint_all, paintedIndex, if_pos all]
  · have first : ztacxLedStripSet pixels 0 color = .ok (pixels.set 0 color) :=
      ztacxLedStripSet_of_lt (p := 0) (by omega)
    have number : ¬ (decimalInt text = n.pixels ∨ ¬ IsInt (decimalInt text) ∧
        1 ≤ (overflow text).toInt ∧ (overflow text).toInt ≤ n.pixels) := fun bad =>
      good ⟨all, bad⟩
    rw [ledStripPos, if_neg all, paintedIndex, if_neg all, length]
    dsimp only
    by_cases fits : IsInt (decimalInt text)
    · rw [toInt_atoi fits]
      by_cases pixel : 0 ≤ decimalInt text ∧ decimalInt text < n.pixels
      · obtain ⟨p, same⟩ := Int.eq_ofNat_of_zero_le pixel.1
        rw [if_neg (by omega), if_pos pixel, ledStripPaint_of_nonneg pixel.1, same]
        exact ztacxLedStripSet_of_lt (by omega)
      · rw [if_pos (by omega), if_neg pixel, ledStripPaint_of_nonneg le_rfl, first]
    · rw [toInt_atoi_of_not_isInt fits, if_neg (not_pixel_of_not_isInt n fits)]
      have outside : ¬ (1 ≤ (overflow text).toInt ∧ (overflow text).toInt ≤ n.pixels) :=
        fun inside => number (Or.inr ⟨fits, inside⟩)
      have zero : (if (overflow text).toInt < 0 ∨ (n.pixels : ℤ) < (overflow text).toInt then 0
          else (overflow text).toInt) = 0 := by
        split
        · rfl
        · omega
      rw [zero, ledStripPaint_of_nonneg le_rfl, first]

/-- **A missed index leaves pixel 0 alone**, which is the one to paint. -/
theorem ledStripPaint_missed (length : pixels.length = n.pixels) (color : LedRgb)
    (bad : Misaddressed overflow n (.index text)) :
    paintedIndex pixels text color = pixels.set 0 color ∧
      ∃ out, ledStripPaint pixels (ledStripPos (atoi overflow) pixels.length text) color =
        .ok out ∧ out[0]? = pixels[0]? := by
  obtain ⟨noAll, bad⟩ := bad
  have le := n.le_intMax
  have position : ∃ p : ℕ, 1 ≤ p ∧ p ≤ n.pixels ∧ (atoi overflow text).toInt = p ∧
      ¬ (0 ≤ decimalInt text ∧ decimalInt text < n.pixels) := by
    rcases bad with same | ⟨wide, low, high⟩
    · have fits : IsInt (decimalInt text) := by
        unfold IsInt INT_MIN
        omega
      exact ⟨n.pixels, n.one_le, le_rfl, (toInt_atoi fits).trans same, by omega⟩
    · refine ⟨(overflow text).toInt.toNat, by omega, by omega, ?_, not_pixel_of_not_isInt n wide⟩
      rw [toInt_atoi_of_not_isInt wide]
      omega
  obtain ⟨p, low, high, value, noPixel⟩ := position
  refine ⟨?_, ?_⟩
  · rw [paintedIndex, if_neg noAll, length, if_neg noPixel]
  · rw [ledStripPos, if_neg noAll, value]
    dsimp only
    rw [if_neg (by omega), ledStripPaint_of_nonneg (by omega)]
    by_cases inside : p < pixels.length
    · refine ⟨_, ztacxLedStripSet_of_lt inside, ?_⟩
      rw [List.getElem?_set_ne (by omega)]
    · exact ⟨_, ztacxLedStripSet_of_ge (by omega), rfl⟩

end Index

/-! ## The exact condition -/

theorem addressed_index_iff (overflow : CString → BitVec 32) (n : StripLength)
    (text : CString) :
    Addressed (atoi overflow) n (.index text) ↔ ¬ Misaddressed overflow n (.index text) := by
  constructor
  · rintro ⟨-, rgb⟩ bad
    -- a black strip of which pixel 0 should be lit
    have length : (List.replicate n.pixels (⟨0, 0, 0⟩ : LedRgb)).length = n.pixels :=
      List.length_replicate
    have one := n.one_le
    have red : lowByte (atoi overflow (.ofString "1")) = 1 := by
      rw [atoi, if_pos (by decide)]
      decide
    obtain ⟨painted, out, done, same⟩ := ledStripPaint_missed length
      ⟨lowByte (atoi overflow (.ofString "1")), lowByte (atoi overflow (.ofString "1")),
        lowByte (atoi overflow (.ofString "1"))⟩ bad
    have should := rgb _ (.ofString "1") (.ofString "1") (.ofString "1") length
    rw [cmdLedStripRgb, done, painted] at should
    rw [Except.ok.inj should, List.getElem?_set_self (by omega),
      List.getElem?_replicate_of_lt (by omega), red] at same
    exact absurd same (by decide)
  · intro good
    constructor
    · intro pixels stack c color length parses
      rw [cmdLedStripSet, parses]
      exact ledStripPaint_index length color good
    · intro pixels r g b length
      exact ledStripPaint_index length _ good

theorem addressed_position_iff (overflow : CString → BitVec 32) (n : StripLength) (pos : ℤ) :
    Addressed (atoi overflow) n (.position pos) ↔ ¬ Misaddressed overflow n (.position pos) := by
  have one := n.one_le
  constructor
  · rintro all rfl
    have length : (List.replicate n.pixels (⟨0, 0, 0⟩ : LedRgb)).length = n.pixels :=
      List.length_replicate
    have some : List.replicate n.pixels (⟨0, 0, 0⟩ : LedRgb) ≠ [] := by
      intro none
      rw [none] at length
      simp only [List.length_nil] at length
      omega
    have should := all le_rfl (by omega) (List.replicate n.pixels ⟨0, 0, 0⟩) ⟨0, 0, 0⟩ length
    rw [ztacxLedStripSet, if_neg (by omega), if_pos rfl, if_neg some] at should
    cases should
  · intro good low high pixels color length
    have other : pos ≠ -1 := good
    obtain ⟨p, rfl⟩ := Int.eq_ofNat_of_zero_le (show 0 ≤ pos by omega)
    rw [paintedPosition, if_neg other]
    exact ztacxLedStripSet_of_lt (by omega)

theorem addressed_iff (overflow : CString → BitVec 32) (n : StripLength) (address : StripAddress) :
    Addressed (atoi overflow) n address ↔ ¬ Misaddressed overflow n address := by
  cases address with
  | index text => exact addressed_index_iff overflow n text
  | position pos => exact addressed_position_iff overflow n pos

/-- Two pixels. -/
def twoPixels : StripLength := ⟨2, by decide, by decide⟩

/-- Index 2 of two pixels paints neither. -/
theorem indexBehindLast_not_addressed :
    cmdLedStripRgb (atoi fun _ => 0) [⟨0, 0, 0⟩, ⟨0, 0, 0⟩] (.ofString "2") (.ofString "1")
        (.ofString "1") (.ofString "1") = .ok [⟨0, 0, 0⟩, ⟨0, 0, 0⟩] ∧
      ¬ Addressed (atoi fun _ => 0) twoPixels (.index (.ofString "2")) := by
  have unpainted : cmdLedStripRgb (atoi fun _ => 0) [⟨0, 0, 0⟩, ⟨0, 0, 0⟩] (.ofString "2")
      (.ofString "1") (.ofString "1") (.ofString "1") = .ok [⟨0, 0, 0⟩, ⟨0, 0, 0⟩] := by
    decide +kernel
  refine ⟨unpainted, ?_⟩
  rintro ⟨-, rgb⟩
  rw [rgb [⟨0, 0, 0⟩, ⟨0, 0, 0⟩] _ _ _ rfl] at unpainted
  exact absurd unpainted (by decide +kernel)

end Ztacx
